import Storyboard.Text.Basic

/-!
# Commands and their settings, by name

The words that name a command, the settings that a command line can give, and which command knows
which setting.
-/
namespace Storyboard

inductive Setting where
  | verbose
  | chart
  | output
  | strict
  | scorePerNote
deriving DecidableEq, Repr

namespace Setting

def long : Setting → String
  | verbose => "verbose"
  | chart => "chart"
  | output => "output"
  | strict => "strict"
  | scorePerNote => "score-per-note"

/-- The single letter of a setting that has one. -/
def letter? : Setting → Option Char
  | verbose => some 'v'
  | output => some 'o'
  | chart | strict | scorePerNote => none

/-- Whether a setting comes with a value; the others are switches. -/
def takesValue : Setting → Bool
  | chart | output | scorePerNote => true
  | verbose | strict => false

end Setting

/-- A command by name, before its settings are known. -/
inductive Verb where
  | compile
  | inspect
  | simulate
deriving DecidableEq, Repr

namespace Verb

def name : Verb → String
  | compile => "compile"
  | inspect => "inspect"
  | simulate => "simulate"

def ofName? (name : String) : Option Verb :=
  [compile, inspect, simulate].find? (·.name == name)

/-- The settings that a command knows. -/
def settings : Verb → List Setting
  | compile => [.verbose, .chart, .output, .strict]
  | inspect => [.verbose, .chart]
  | simulate => [.verbose, .chart, .scorePerNote]

end Verb
end Storyboard
