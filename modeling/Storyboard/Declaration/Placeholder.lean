import Storyboard.Fault

/-!
# The note placeholder

The word `$note` stands for a note. A declaration that carries a note gives the placeholder its
own note and binds it for what comes later; otherwise the placeholder stands for the note bound
last. What a text becomes and what is bound afterwards are two functions, since a use binds even
where it leads to a fault.
-/
namespace Storyboard

/-- The note that the placeholder is bound to, if any. -/
abbrev Binding := Option NoteId

/-- What the placeholder stands for in a declaration with the given note of its own. -/
def Binding.use (binding : Binding) (own : Option NoteId) : Binding := own.or binding

namespace Placeholder

def word : List Char := "$note".toList

/-- Whether the word occurs in a text. -/
def occurs : List Char → Bool
  | [] => false
  | '$' :: 'n' :: 'o' :: 't' :: 'e' :: _ => true
  | _ :: rest => occurs rest

/-- Puts a text in the place of every occurrence of the word. -/
def fill (value : List Char) : List Char → List Char
  | [] => []
  | '$' :: 'n' :: 'o' :: 't' :: 'e' :: rest => value ++ fill value rest
  | c :: rest => c :: fill value rest

/-- The text with the note's id for the placeholder. -/
def fillIn (binding : Binding) (own : Option NoteId) (text : String) : Except Fault String :=
  if occurs text.toList then
    match binding.use own with
    | some id => .ok (String.ofList (fill (toString id.toInt).toList text.toList))
    | none => .error ((Fault.of .unboundNote).within text)
  else .ok text

/-- What is bound after a text is filled in. -/
def bindingAfter (binding : Binding) (own : Option NoteId) (text : String) : Binding :=
  if occurs text.toList then binding.use own else binding

end Placeholder
end Storyboard
