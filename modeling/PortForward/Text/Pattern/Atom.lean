/-
# Atoms of patterns

The parts of a pattern that have no parts of their own: characters, escapes, and the point.

* `PatternReader.atom` : the next atom;
* `Atom.isSound`, `Atom.isClassItem` : the atom may stand outside and inside of a class.
-/
import PortForward.Text.Hex
import PortForward.Text.Pattern.Cursor

namespace PortForward.Text

/-- A part of a pattern that has no parts of its own. -/
inductive Atom where
  /-- A character, perhaps written as the two digits of a byte. -/
  | char (c : Char) (byte : Bool)
  /-- Any character. -/
  | point
  /-- A place: the start, the end, or the edge of a word. -/
  | place (ofWord : Bool)
  /-- Digits, blanks or word characters, or all others. -/
  | kind (negated : Bool)
  /-- The characters of a general category. -/
  | category (letter : Char)
deriving DecidableEq, Repr

namespace Atom

/-- Code points that are one byte. -/
def isNarrow (c : Char) : Bool := c.toNat < 128

/-- The letters of the general categories. -/
def categoryLetters : List Char := "clmnpsz".toList

/-- The atom may stand in a class. Where the pattern is about bytes, it may not lead out of ASCII.
-/
def isClassItem (wide : Bool) : Atom → Bool
  | .char c _ => wide || isNarrow c
  | .point => false
  | .place _ => false
  | .kind negated => wide || !negated
  | .category letter => wide && categoryLetters.contains letter.toLower

/-- The atom may stand outside of classes. Only whole characters may be found, and the edges of
words only where words are of ASCII. -/
def isSound (wide : Bool) : Atom → Bool
  | .char c byte => wide || !byte || isNarrow c
  | .point => wide
  | .place ofWord => !ofWord || !wide
  | a => a.isClassItem wide

end Atom

namespace PatternReader

/-- Stands for itself after a backslash: all of ASCII but letters, digits and angle brackets. -/
def isEscapable (c : Char) : Bool := Atom.isNarrow c && !c.isAlphanum && c != '<' && c != '>'

/-- So many hexadecimal digits. -/
def hexDigits : Nat → PatternReader (List Char)
  | 0 => return []
  | n + 1 => do
    let c ← char
    if !isHexDigit c then failure
    skip
    return c :: (← hexDigits n)

/-- The character with a number of so many digits. -/
def numbered (digits : Nat) (byte : Bool) : PatternReader Atom := do
  skip
  let n := digitsValue 16 (← hexDigits digits)
  if n.isValidChar then return .char (Char.ofNat n) byte else failure

/-- The atom after a backslash. -/
def escape : PatternReader Atom := do
  let c ← char
  if isEscapable c then return .char c false
  match c with
  | 'x' => numbered 2 true
  | 'u' => numbered 4 false
  | 'U' => numbered 8 false
  | 'p' => category
  | 'P' => category
  | 'd' => return .kind false
  | 's' => return .kind false
  | 'w' => return .kind false
  | 'D' => return .kind true
  | 'S' => return .kind true
  | 'W' => return .kind true
  | 'a' => return .char '\x07' false
  | 'f' => return .char '\x0c' false
  | 't' => return .char '\t' false
  | 'n' => return .char '\n' false
  | 'r' => return .char '\r' false
  | 'v' => return .char '\x0b' false
  | 'A' => return .place false
  | 'z' => return .place false
  | 'b' => edge
  | 'B' => return .place true
  | '<' => return .place true
  | '>' => return .place true
  | _ => failure
where
  /-- The letter of a general category. -/
  category : PatternReader Atom := do
    skip
    let letter ← char
    skip
    return .category letter
  /-- The edge of a word. A brace behind it would have to be closed. -/
  edge : PatternReader Atom := do
    if (← next?) = some '\x7b' then failure
    return .place true

/-- The next atom. -/
def atom : PatternReader Atom := do
  match ← char with
  | '\\' => escape
  | '.' => return .point
  | '^' => return .place false
  | '$' => return .place false
  | c => return .char c false

end PatternReader
end PortForward.Text
