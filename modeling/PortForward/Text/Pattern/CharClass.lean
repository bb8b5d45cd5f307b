/-
# Classes of characters in patterns

A class stands between brackets: characters, ranges, named classes and classes within it, which
may be joined by the signs of intersection and of two kinds of difference.

* `PatternReader.charClass` : a class, of which only its height is kept.
-/
import PortForward.Text.Pattern.Atom

namespace PortForward.Text

/-- How deep parts of these heights are nested where they stand side by side: a part alone needs
no level of its own. -/
def rowHeight : List Nat → Nat
  | [] => 0
  | [h] => h
  | h :: hs => hs.foldl max h + 1

namespace PatternReader

/-- The classes of ASCII characters that have a name. -/
def classNames : List String :=
  ["alnum", "alpha", "ascii", "blank", "cntrl", "digit", "graph", "lower", "print", "punct", "space",
    "upper", "word", "xdigit"]

/-- A named class, as in `[:alpha:]`, if that is next; says whether it is of all other characters.
-/
def named? : PatternReader (Option Bool) := do
  match (← get).rest with
  | '[' :: ':' :: s =>
    let negated := s.head? = some '^'
    let s := if negated then s.tail else s
    let name := s.takeWhile (· != ':')
    let after := s.dropWhile (· != ':')
    if classNames.contains (String.ofList name) && ":]".toList.isPrefixOf after then
      modify fun c => { c with rest := after.drop 2 }
      return some negated
    return none
  | _ => return none

/-- A character of a class, or an escape. -/
def member : PatternReader Atom := do
  match ← char with
  | '\\' => escape
  | c => return .char c false

/-- Characters from one to another, in order. -/
def isRange (wide : Bool) : Atom → Atom → Bool
  | .char c b, .char d e =>
    decide (c ≤ d) && (Atom.char c b).isClassItem wide && (Atom.char d e).isClassItem wide
  | _, _ => false

/-- A member of a class, or a range of them. A hyphen before a bracket or a second hyphen stands for
itself. -/
def range : PatternReader Unit := do
  let wide := (← get).wide
  let first ← member
  skip
  goOn
  let beyond := (← get).beyond?
  if (← next?) = some '-' && beyond != some ']' && beyond != some '-' then
    drop 1
    skip
    if !isRange wide first (← member) then failure
  else if !first.isClassItem wide then failure

/-- Hyphens at the start of a class; says how many there are, at most so many. -/
def hyphens : Nat → PatternReader Nat
  | 0 => return 0
  | n + 1 => do
    if ← take "-" then
      skip
      goOn
      return (← hyphens n) + 1
    return 0

/-- The start of a class, after its bracket; says how many members stand there. A class of all other
characters leads out of ASCII. -/
def classStart : PatternReader Nat := do
  skip
  goOn
  if ← take "^" then
    if !(← get).wide then failure
    skip
    goOn
  let n ← hyphens (← get).rest.length
  if n = 0 then
    if ← take "]" then
      skip
      goOn
      return 1
  return n

/-- Sets joined so far, if any, and one more. -/
def joinedHeight (before : Option Nat) (items : List Nat) : Nat :=
  match before with
  | none => rowHeight items
  | some h => max h (rowHeight items) + 1

/-- The members of a class up to its closing bracket, with the heights of those before and of the
sets before the last sign. The first number bounds the members. -/
def members : Nat → Option Nat → List Nat → PatternReader Nat
  | 0, _, _ => failure
  | n + 1, before, items => do
    skip
    if ← take "]" then return joinedHeight before items
    if (← take "&&") || (← take "--") || (← take "~~") then
      return ← members n (some (joinedHeight before items)) []
    match ← named? with
    | some negated =>
      if negated && !(← get).wide then failure
      members n before (0 :: items)
    | none =>
      if ← take "[" then
        let first ← classStart
        let h ← members n none (List.replicate first 0)
        members n before ((h + 1) :: items)
      else
        range
        members n before (0 :: items)

/-- A class, after its opening bracket; says how high it is. -/
def charClass : PatternReader Nat := do
  let first ← classStart
  return (← members (← get).rest.length none (List.replicate first 0)) + 1

end PatternReader
end PortForward.Text
