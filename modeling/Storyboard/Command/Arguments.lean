import Storyboard.Command.Basic
import Storyboard.Command.Setting

/-!
# Command line arguments

A command line names a command and, behind it, an input file and settings in any order. A long
setting takes its value from behind an equals sign or from the next argument. Short settings may
share one dash, and one of them that takes a value takes the rest of the argument, or else the next
one. A setting is given at most once, only to a command that knows it; a value that is an argument
of its own does not start like a setting; no path is empty. Behind a lone `--` every argument is a
word. Only switches that all commands know may stand in front of the command.
-/
namespace Storyboard

inductive ArgumentFault where
  | noCommand
  | unknownCommand (word : String)
  | noInput
  | unexpected (argument : String)
  | noValue (setting : Setting)
  | repeated (setting : Setting)
  | badNumber (text : String)
deriving DecidableEq, Repr

def ArgumentFault.message : ArgumentFault → String
  | noCommand => "a command is required: compile, inspect or simulate"
  | unknownCommand word => "unrecognized command '" ++ word ++ "'"
  | noInput => "an input file is required"
  | unexpected argument => "unexpected argument '" ++ argument ++ "'"
  | noValue setting => "a value is required for '--" ++ setting.long ++ "'"
  | repeated setting => "the argument '--" ++ setting.long ++ "' cannot be used multiple times"
  | badNumber text => "invalid number '" ++ text ++ "'"

/-- The words and the settings of a command line. A switch has no value. -/
structure Arguments where
  words : List String := []
  settings : List (Setting × Option String) := []
deriving DecidableEq, Repr

namespace Arguments

def has (arguments : Arguments) (setting : Setting) : Bool :=
  (arguments.settings.lookup setting).isSome

def value? (arguments : Arguments) (setting : Setting) : Option String :=
  (arguments.settings.lookup setting).join

def addWords (arguments : Arguments) (words : List String) : Arguments :=
  { arguments with words := arguments.words ++ words }

/-- Records a setting that was not given before. -/
def give (arguments : Arguments) (setting : Setting) (value : Option String) :
    Except ArgumentFault Arguments :=
  if arguments.has setting then .error (.repeated setting)
  else if value = some "" then .error (.noValue setting)
  else .ok { arguments with settings := (setting, value) :: arguments.settings }

/-- What one argument leads to: the arguments so far, and the setting that still waits for its
value. -/
abbrev Step := Except ArgumentFault (Arguments × Option Setting)

/-- Records a setting that waits for nothing. -/
def giveNow (arguments : Arguments) (setting : Setting) (value : Option String) : Step :=
  (arguments.give setting value).map fun arguments => (arguments, none)

/-- Reads the text behind two dashes. -/
def readLong (known : List Setting) (arguments : Arguments) (text : List Char) : Step :=
  let name := text.takeWhile (· != '=')
  match known.find? fun setting => setting.long.toList == name with
  | none => .error (.unexpected ("--" ++ String.ofList text))
  | some setting =>
    match text.drop name.length, setting.takesValue with
    | [], true => .ok (arguments, some setting)
    | [], false => arguments.giveNow setting none
    | _ :: value, true => arguments.giveNow setting (some (String.ofList value))
    | _ :: _, false => .error (.unexpected ("--" ++ String.ofList text))

/-- Reads the letters behind one dash. An equals sign in front of a value does not belong to it. -/
def readLetters (known : List Setting) (arguments : Arguments) : List Char → Step
  | [] => .ok (arguments, none)
  | letter :: rest =>
    match known.find? fun setting => setting.letter? == some letter with
    | none => .error (.unexpected ("-" ++ letter.toString))
    | some setting =>
      if setting.takesValue then
        match rest with
        | [] => .ok (arguments, some setting)
        | '=' :: value | value => arguments.giveNow setting (some (String.ofList value))
      else
        match arguments.give setting none with
        | .error fault => .error fault
        | .ok arguments => readLetters known arguments rest

def readOne (known : List Setting) (arguments : Arguments) (argument : String) : Step :=
  match argument.toList with
  | '-' :: '-' :: text => readLong known arguments text
  | '-' :: letter :: text => readLetters known arguments (letter :: text)
  | _ => .ok (arguments.addWords [argument], none)

/-- Behind this argument there are only words. -/
def endOfSettings : String := "--"

/-- Whether an argument starts like a setting. A dash alone is a word. -/
def startsSetting (argument : String) : Bool :=
  match argument.toList with
  | '-' :: _ :: _ => true
  | _ => false

/-- Adds a list of arguments, of which only the known settings are taken. -/
def read (known : List Setting) (arguments : Arguments) :
    List String → Except ArgumentFault Arguments
  | [] => .ok arguments
  | argument :: rest =>
    if argument = endOfSettings then .ok (arguments.addWords rest)
    else
      match readOne known arguments argument with
      | .error fault => .error fault
      | .ok (arguments, none) => read known arguments rest
      | .ok (arguments, some setting) =>
        match rest with
        | [] => .error (.noValue setting)
        | value :: rest =>
          if startsSetting value then .error (.noValue setting)
          else
            match arguments.give setting (some value) with
            | .error fault => .error fault
            | .ok arguments => read known arguments rest

/-- The score of each note in a rehearsal, unless it is given. -/
def defaultScore : Int := 1000

def score (arguments : Arguments) : Except ArgumentFault Int :=
  match arguments.value? .scorePerNote with
  | none => .ok defaultScore
  | some text =>
    match intOfText? text.toList with
    | some n =>
      if -0x8000000000000000 ≤ n ∧ n < 0x8000000000000000 then .ok n
      else .error (.badNumber text)
    | none => .error (.badNumber text)

def command (arguments : Arguments) : Verb → Except ArgumentFault Command
  | .compile => .ok (.compile (arguments.value? .output) (arguments.has .strict))
  | .inspect => .ok .inspect
  | .simulate => arguments.score.map .simulate

/-- The one word that names the input file. -/
def input (arguments : Arguments) : Except ArgumentFault String :=
  match arguments.words with
  | [] | [""] => .error .noInput
  | [input] => .ok input
  | _ :: extra :: _ => .error (.unexpected extra)

end Arguments

/-- The invocation that a command line asks for. -/
def Invocation.ofArguments (line : List String) : Except ArgumentFault Invocation := do
  let leading := line.takeWhile fun argument =>
    Arguments.startsSetting argument && argument != Arguments.endOfSettings
  let _ ← Arguments.read [.verbose] {} leading
  match line.drop leading.length with
  | [] => .error .noCommand
  | word :: rest =>
    match Verb.ofName? word with
    | none => .error (.unknownCommand word)
    | some verb =>
      let arguments ← Arguments.read verb.settings {} rest
      return {
        command := ← arguments.command verb
        input := ← arguments.input
        chart := arguments.value? .chart }

end Storyboard
