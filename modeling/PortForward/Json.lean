/-
# JSON values

The values that the API server answers with and that the command line prints. Numbers are integers;
nothing here needs a fraction.
-/

namespace PortForward

/-- A JSON value. -/
inductive Json where
  | null
  | bool (value : Bool)
  | number (value : Int)
  | string (value : String)
  | array (items : List Json)
  | object (members : List (String × Json))
deriving Repr, Inhabited

namespace Json

/-! ## Reading -/

/-- The member under a key, if it is there at all. -/
def given? : Json → String → Option Json
  | .object members, key => members.lookup key
  | _, _ => none

/-- The member under a key; `null` is as good as nothing. -/
def member? (j : Json) (key : String) : Option Json :=
  match j.given? key with
  | some .null => none
  | other => other

/-- The text of a string. -/
def string? : Json → Option String
  | .string s => some s
  | _ => none

/-- The value of a number. -/
def number? : Json → Option Int
  | .number n => some n
  | _ => none

/-- The items of an array. -/
def items? : Json → Option (List Json)
  | .array items => some items
  | _ => none

/-- The members of an object. -/
def members? : Json → Option (List (String × Json))
  | .object members => some members
  | _ => none

/-- Reads a member that may be missing; it has to be right if it is there. -/
def optional {α : Type} (j : Json) (key : String) (read : Json → Option α) : Option (Option α) :=
  match j.member? key with
  | none => some none
  | some value => (read value).map some

/-- Reads a list that may be missing and is empty then. -/
def listOr {α : Type} (j : Json) (key : String) (read : Json → Option α) : Option (List α) := do
  let items ← j.optional key items?
  (items.getD []).mapM read

/-! ## Writing -/

/-- A control character as four hexadecimal digits. -/
def controlText (c : Char) : List Char :=
  let digits := Nat.toDigits 16 c.toNat
  "\\u".toList ++ List.replicate (4 - digits.length) '0' ++ digits

/-- How a character stands in a string. -/
def escaped (c : Char) : List Char :=
  if c = '"' then ['\\', '"']
  else if c = '\\' then ['\\', '\\']
  else if c = '\n' then ['\\', 'n']
  else if c = '\r' then ['\\', 'r']
  else if c = '\t' then ['\\', 't']
  else if c = '\x08' then ['\\', 'b']
  else if c = '\x0c' then ['\\', 'f']
  else if c.toNat < 0x20 then controlText c
  else [c]

/-- A string literal. -/
def stringText (s : String) : String := String.ofList ('"' :: s.toList.flatMap escaped ++ ['"'])

mutual

/-- The value without any blanks. -/
def compact : Json → String
  | .null => "null"
  | .bool b => if b then "true" else "false"
  | .number n => toString n
  | .string s => stringText s
  | .array items => "[" ++ ",".intercalate (compactItems items) ++ "]"
  | .object members => "\x7b" ++ ",".intercalate (compactMembers members) ++ "\x7d"

/-- Each item without any blanks. -/
def compactItems : List Json → List String
  | [] => []
  | j :: js => j.compact :: compactItems js

/-- Each member without any blanks. -/
def compactMembers : List (String × Json) → List String
  | [] => []
  | (key, j) :: ms => (stringText key ++ ":" ++ j.compact) :: compactMembers ms

end

/-- The number of bytes of the value without any blanks. -/
def size (j : Json) : Nat := j.compact.utf8ByteSize

/-- Two spaces for each level. -/
def indent (depth : Nat) : String := String.ofList (List.replicate (2 * depth) ' ')

mutual

/-- The value on several lines, members and items indented. -/
def pretty (depth : Nat) : Json → String
  | .null => "null"
  | .bool b => if b then "true" else "false"
  | .number n => toString n
  | .string s => stringText s
  | .array [] => "[]"
  | .array (j :: js) =>
    "[\n" ++ indent (depth + 1) ++ j.pretty (depth + 1) ++ prettyItems (depth + 1) js ++ "\n" ++
      indent depth ++ "]"
  | .object [] => "\x7b\x7d"
  | .object ((key, j) :: ms) =>
    "\x7b\n" ++ indent (depth + 1) ++ stringText key ++ ": " ++ j.pretty (depth + 1) ++
      prettyMembers (depth + 1) ms ++ "\n" ++ indent depth ++ "\x7d"

/-- The items after the first. -/
def prettyItems (depth : Nat) : List Json → String
  | [] => ""
  | j :: js => ",\n" ++ indent depth ++ j.pretty depth ++ prettyItems depth js

/-- The members after the first. -/
def prettyMembers (depth : Nat) : List (String × Json) → String
  | [] => ""
  | (key, j) :: ms =>
    ",\n" ++ indent depth ++ stringText key ++ ": " ++ j.pretty depth ++ prettyMembers depth ms

end

end Json
end PortForward
