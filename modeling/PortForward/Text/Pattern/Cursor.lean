/-
# Where the reading of a pattern stands

How the rest of a pattern is to be read depends on switches that stand in the pattern itself. One
lets blanks and comments, from `#` to the end of the line, be passed over; another one lets
characters be bytes.

* `Cursor` : the rest, and the switches that are on;
* `PatternReader` : takes parts off the front of the rest, or fails.
-/
import PortForward.Text.Blank

namespace PortForward.Text

/-- The rest of a pattern, and how it is to be read. -/
structure Cursor where
  rest : List Char
  /-- The pattern is about characters, not about single bytes. -/
  wide : Bool := true
  /-- Blanks and comments are passed over. -/
  spaced : Bool := false
  /-- The names of the groups so far. -/
  names : List (List Char) := []

namespace Cursor

/-- What is left after blanks and comments; at first within a comment or not. -/
def dropBlanks : Bool → List Char → List Char
  | _, [] => []
  | true, c :: s => dropBlanks (c != '\n') s
  | false, c :: s =>
    if isBlank c then dropBlanks false s
    else if c = '#' then dropBlanks true s
    else c :: s

/-- Passes blanks and comments over, if they are. -/
def skipped (c : Cursor) : Cursor :=
  if c.spaced then { c with rest := dropBlanks false c.rest } else c

/-- The character after the next one. A `#` on the way counts as a blank once, and the comment
behind it does not. -/
def beyond? (c : Cursor) : Option Char :=
  if c.spaced then
    match c.rest.tail.dropWhile isBlank with
    | '#' :: s => (s.dropWhile isBlank).head?.or c.rest.tail.head?
    | s => s.head?.or c.rest.tail.head?
  else c.rest.tail.head?

end Cursor

/-- Takes a value off the front of the rest of a pattern. -/
abbrev PatternReader := StateT Cursor Option

namespace PatternReader

/-- The next character, which stays. -/
def next? : PatternReader (Option Char) := return (← get).rest.head?

/-- Passes blanks and comments over, if they are. -/
def skip : PatternReader Unit := modify Cursor.skipped

/-- Takes so many characters. -/
def drop (n : Nat) : PatternReader Unit := modify fun c => { c with rest := c.rest.drop n }

/-- Takes a text if it is next; says whether it was. -/
def take (text : String) : PatternReader Bool := do
  if text.toList.isPrefixOf (← get).rest then
    drop text.length
    return true
  return false

/-- Takes a text that has to be next. -/
def expect (text : String) : PatternReader Unit := do
  if !(← take text) then failure

/-- Takes the next character, whichever it is. -/
def char : PatternReader Char := do
  match ← next? with
  | some c =>
    drop 1
    return c
  | none => failure

/-- Fails at the end of the pattern. -/
def goOn : PatternReader Unit := do
  if (← next?).isNone then failure

end PatternReader
end PortForward.Text
