/-
# Text in TOML

Four ways to write text: between double quotes with escapes, between single quotes as it stands, and
both between three quotes over several lines. A line may end in a line feed, or in a carriage return
and a line feed, which count as one line feed.
-/
import PortForward.Text.Hex
import PortForward.Text.Reader

namespace PortForward.Toml

open Text Reader

/-- A space or a tab. -/
def isSpace (c : Char) : Bool := c == ' ' || c == '\t'

/-- Printable in a comment or in text: a tab, or no control character of ASCII. -/
def isPlain (c : Char) : Bool := c == '\t' || (0x20 ≤ c.toNat && c.toNat != 0x7F)

/-- The end of a line. -/
def newline : Reader Unit := chars ['\n'] <|> chars ['\r', '\n']

/-- The character with this code point, if there is one. -/
def codePoint? (n : Nat) : Option Char := if n.isValidChar then some (Char.ofNat n) else none

/-- A character given by so many hexadecimal digits. -/
def coded (digits : Nat) : Reader Char :=
  (exactly digits isHexDigit).filterMap fun ds => codePoint? (digitsValue 16 ds)

/-- The character that an escape after the backslash stands for. -/
def escape : Reader Char := do
  match ← one fun _ => true with
  | 'b' => return '\x08'
  | 'f' => return '\x0c'
  | 'n' => return '\n'
  | 'r' => return '\r'
  | 't' => return '\t'
  | '"' => return '"'
  | '\\' => return '\\'
  | 'u' => coded 4
  | 'U' => coded 8
  | _ => failure

/-- An escape with its backslash. -/
def escaped : Reader (List Char) := do
  char '\\'
  return [← escape]

/-- Stands as it is between double quotes. -/
def isBasic (c : Char) : Bool := isPlain c && c != '"' && c != '\\'

/-- Stands as it is between single quotes. -/
def isLiteral (c : Char) : Bool := isPlain c && c != '\''

/-- Text between double quotes on one line. -/
def basic : Reader (List Char) := do
  char '"'
  let parts ← many (span1 isBasic <|> escaped)
  char '"'
  return parts.flatten

/-- Text between single quotes on one line. -/
def literal : Reader (List Char) := do
  char '\''
  let s ← span isLiteral
  char '\''
  return s

/-- A line end as part of the text. -/
def lineFeed : Reader (List Char) := do
  newline
  return ['\n']

/-- A backslash at the end of a line takes the blanks and lines after it away. -/
def joinedLines : Reader (List Char) := do
  char '\\'
  let _ ← span isSpace
  newline
  let _ ← many ((do let _ ← span1 isSpace) <|> newline)
  return []

/-- One or two quotes that do not end the text. -/
def innerQuotes (quote : Char) : Reader (List Char) := fun s =>
  let quotes := s.takeWhile (· == quote)
  if quotes.length = 1 ∨ quotes.length = 2 then some (quotes, s.dropWhile (· == quote)) else none

/-- Three quotes end the text; up to two more before them belong to it. -/
def closingQuotes (quote : Char) : Reader (List Char) := fun s =>
  let count := (s.takeWhile (· == quote)).length
  if count < 3 then none
  else
    let extra := min (count - 3) 2
    some (List.replicate extra quote, s.drop (extra + 3))

/-- Text between three quotes of a kind, from parts of a kind. A line end right after the opening
quotes does not count. -/
def multiline (quote : Char) (part : Reader (List Char)) : Reader (List Char) := do
  chars [quote, quote, quote]
  let _ ← Reader.optional newline
  let parts ← many (part <|> lineFeed <|> innerQuotes quote)
  let extra ← closingQuotes quote
  return parts.flatten ++ extra

/-- Text in any of the four ways. -/
def text : Reader String := do
  let s ← multiline '"' (span1 isBasic <|> joinedLines <|> escaped) <|> basic <|>
    multiline '\'' (span1 isLiteral) <|> literal
  return String.ofList s

end PortForward.Toml
