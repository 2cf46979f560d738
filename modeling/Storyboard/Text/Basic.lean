/-!
# Text as a list of characters

The small operations on text that the readers share: cutting at a mark, trimming blanks, and
lowering ASCII letters. Blanks are the characters of the Unicode property `White_Space`.
-/
namespace Storyboard.Text

/-- Membership in the Unicode property `White_Space`. -/
def isBlank (c : Char) : Bool :=
  let n := c.toNat
  (0x09 ≤ n && n ≤ 0x0d) || n == 0x20 || n == 0x85 || n == 0xa0 || n == 0x1680 ||
    (0x2000 ≤ n && n ≤ 0x200a) || n == 0x2028 || n == 0x2029 || n == 0x202f || n == 0x205f ||
    n == 0x3000

/-- The text without the blanks at either end. -/
def trim (text : List Char) : List Char :=
  ((text.dropWhile isBlank).reverse.dropWhile isBlank).reverse

/-- The pieces between the occurrences of `mark`; a text without one is a single piece. -/
def pieces (mark : Char) : List Char → List (List Char)
  | [] => [[]]
  | c :: rest =>
    if c = mark then [] :: pieces mark rest
    else match pieces mark rest with
      | [] => [[c]]
      | first :: others => (c :: first) :: others

/-- ASCII letters in lower case; every other character is kept. -/
def lower (text : String) : String :=
  String.ofList (text.toList.map Char.toLower)

/-- The text with blanks in front, up to the given width in characters. -/
def padLeft (width : Nat) (text : String) : String :=
  String.ofList (List.replicate (width - text.length) ' ') ++ text

/-- The text with blanks behind, up to the given width in characters. -/
def padRight (width : Nat) (text : String) : String :=
  text ++ String.ofList (List.replicate (width - text.length) ' ')

/-- The texts with a separator between neighbours. -/
def joined (separator : String) : List String → String
  | [] => ""
  | first :: rest => rest.foldl (fun text next => text ++ separator ++ next) first

end Storyboard.Text
