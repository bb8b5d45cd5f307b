/-
# Readers

A reader takes a value off the front of a text and leaves the rest; it fails without a value.
Readers are put together in sequence, with `<|>` for "or else", and with the repetitions below. A
repetition ends where its part fails or takes nothing, so it needs no more rounds than there are
characters.
-/

namespace PortForward.Text

/-- Takes a value off the front of a text. -/
abbrev Reader (α : Type) := StateT (List Char) Option α

namespace Reader

variable {α β : Type}

/-- Reads a text to its end. -/
def whole (r : Reader α) (s : List Char) : Option α :=
  match r.run s with
  | some (a, []) => some a
  | _ => none

/-- One character of a class. -/
def one (p : Char → Bool) : Reader Char := fun s =>
  match s with
  | c :: rest => if p c then some (c, rest) else none
  | [] => none

/-- This character. -/
def char (c : Char) : Reader Unit := do let _ ← one (· == c)

/-- These characters. -/
def chars (cs : List Char) : Reader Unit := fun s =>
  if cs.isPrefixOf s then some ((), s.drop cs.length) else none

/-- As many characters of a class as there are. -/
def span (p : Char → Bool) : Reader (List Char) := fun s => some (s.takeWhile p, s.dropWhile p)

/-- As many characters of a class as there are, at least one. -/
def span1 (p : Char → Bool) : Reader (List Char) := do
  let cs ← span p
  if cs = [] then failure
  return cs

/-- Exactly so many characters of a class. -/
def exactly (n : Nat) (p : Char → Bool) : Reader (List Char) := fun s =>
  let cs := s.take n
  if cs.length = n && cs.all p then some (cs, s.drop n) else none

/-- Nothing, at the end of the text. -/
def atEnd : Reader Unit := fun s => if s = [] then some ((), []) else none

/-- The part, if it is there. -/
def optional (r : Reader α) : Reader (Option α) := fun s =>
  match r s with
  | some (a, rest) => some (some a, rest)
  | none => some (none, s)

/-- The part, at most so often. -/
def upTo (r : Reader α) : Nat → Reader (List α)
  | 0 => pure []
  | n + 1 => fun s =>
    match r s with
    | some (a, rest) =>
      if rest.length < s.length then (upTo r n rest).map fun (as, t) => (a :: as, t)
      else some ([], s)
    | none => some ([], s)

/-- The part, as often as it is there. -/
def many (r : Reader α) : Reader (List α) := fun s => upTo r s.length s

/-- Parts with separators between them, at least one part. -/
def separated1 (r : Reader α) (sep : Reader β) : Reader (List α) := do
  let first ← r
  let others ← many (do let _ ← sep; r)
  return first :: others

/-- Parts with separators between them. -/
def separated (r : Reader α) (sep : Reader β) : Reader (List α) := separated1 r sep <|> pure []

/-- A value only if it passes a test. -/
def filter (r : Reader α) (p : α → Bool) : Reader α := do
  let a ← r
  if !p a then failure
  return a

/-- A value turned into another, which may fail. -/
def filterMap (r : Reader α) (f : α → Option β) : Reader β := do
  match f (← r) with
  | some b => return b
  | none => failure

end Reader
end PortForward.Text
