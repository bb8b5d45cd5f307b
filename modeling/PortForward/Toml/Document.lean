/-
# TOML documents

A document is read line by line: comments, headers and assignments. Arrays may span lines, tables
in braces may not. Brackets and braces nest up to a fixed depth, and a dotted key has a bounded
number of parts.

* `document?` : the table that a text denotes, if it denotes one.
-/
import PortForward.Toml.Moment
import PortForward.Toml.Value

namespace PortForward.Toml

open Text Reader

/-! ## Blanks and comments -/

/-- Spaces and tabs, perhaps none. -/
def spaces : Reader Unit := do let _ ← span isSpace

/-- A comment up to the end of the line. -/
def comment : Reader Unit := do
  char '#'
  let _ ← span isPlain

/-- The end of a line, or of the document. -/
def lineEnd : Reader Unit := newline <|> atEnd

/-- What may follow on a line that is done. -/
def lineRest : Reader Unit := do
  spaces
  let _ ← Reader.optional comment
  lineEnd

/-- Blanks, line ends and comments, as between the items of an array. -/
def filler : Reader Unit := do
  let _ ← many ((do let _ ← span1 isSpace) <|> newline <|> do comment; newline)

/-! ## Keys -/

/-- One more than the greatest number of parts of a dotted key, and than the greatest depth of
brackets. -/
def depthLimit : Nat := 80

/-- Stands in a key without quotes. -/
def isBare (c : Char) : Bool := (c.isAlphanum && c.toNat < 0x80) || c == '_' || c == '-'

/-- One part of a key. -/
def keyPart : Reader String := do
  return String.ofList (← basic <|> literal <|> span1 isBare)

/-- A key as the parts before the last and the last part. -/
def key : Reader (List String × String) := do
  let parts ← separated1 (do spaces; let part ← keyPart; spaces; return part) (char '.')
  if depthLimit ≤ parts.length then failure
  match parts.getLast? with
  | some last => return (parts.dropLast, last)
  | none => failure

/-! ## Values -/

/-- A value without brackets or braces. -/
def scalar : Reader Value :=
  (do return .string (← text)) <|>
  (do moment; return .moment) <|>
  (do fraction; return .fraction) <|>
  (do return .integer (← integer)) <|>
  (do chars "true".toList; return .boolean true) <|>
  (do chars "false".toList; return .boolean false)

/-- Items between brackets; a comma may follow the last one. -/
def array (item : Reader Value) : Reader Value := do
  char '['
  let items ← separated (do filler; let v ← item; filler; return v) (char ',')
  if !items.isEmpty then
    let _ ← Reader.optional (char ',')
  filler
  char ']'
  return .array items

/-- A key and its value, with the equals sign between them. -/
def assignment (value : Reader Value) : Reader ((List String × String) × Value) := do
  let k ← key
  char '='
  spaces
  return (k, ← value)

/-- Makes a table of assignments, in order; no key may be given twice. -/
def tableOf? (given : List ((List String × String) × Value)) : Option Table :=
  given.foldlM (fun t a => t.assign a.1.1 a.1.2 a.2) []

/-- Assignments between braces, all on one line. -/
def braces (value : Reader Value) : Reader Value := do
  char '\x7b'
  let given ← separated (do let a ← assignment value; spaces; return a) (char ',')
  spaces
  char '\x7d'
  match tableOf? given with
  | some t => return .table .braces t
  | none => failure

/-- A value, with brackets and braces nested at most so deep. -/
def value : Nat → Reader Value
  | 0 => scalar
  | depth + 1 => scalar <|> array (value depth) <|> braces (value depth)

/-! ## Lines -/

/-- What a line of a document says. -/
inductive Line where
  | blank
  | header (path : List String) (key : String)
  | item (path : List String) (key : String)
  | assign (path : List String) (key : String) (value : Value)

/-- One line, with its end. -/
def line : Reader Line := do
  spaces
  (do comment; lineEnd; return .blank) <|>
  (do newline; return .blank) <|>
  (do
    chars ['[', '[']
    let k ← key
    chars [']', ']']
    lineRest
    return .item k.1 k.2) <|>
  (do
    char '['
    let k ← key
    char ']'
    lineRest
    return .header k.1 k.2) <|>
  (do
    let (k, v) ← assignment (value (depthLimit - 1))
    lineRest
    return .assign k.1 k.2 v)

/-- A document up to the line that is read, and the table that assignments go into: the path of the
last header. -/
structure Draft where
  table : Table := []
  place : List String := []

/-- Adds a line to a document. -/
def Draft.add (d : Draft) : Line → Option Draft
  | .blank => some d
  | .header path key => do return ⟨← d.table.openHeader path key, path ++ [key]⟩
  | .item path key => do return ⟨← d.table.openItem path key, path ++ [key]⟩
  | .assign path key value => do
    return { d with table := ← d.table.descend Table.enterHeader d.place (·.assign path key value) }

/-- The lines of a document. A byte order mark may stand before the first. -/
def lines : Reader (List Line) := do
  let _ ← Reader.optional (char '\ufeff')
  let ls ← many line
  spaces
  return ls

/-- The table that a text denotes, if it denotes one. -/
def document? (content : String) : Option Table := do
  let ls ← lines.whole content.toList
  let d ← ls.foldlM Draft.add {}
  return d.table

end PortForward.Toml
