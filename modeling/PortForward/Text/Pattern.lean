/-
# Patterns

Whether a text can be read as a pattern for other texts: alternatives of parts in a row, which may
be groups, classes of characters or atoms, and may be repeated. What a pattern matches does not
matter here, only that it is well formed and not nested too deep.

* `isPattern` : the text can be read as a pattern.
-/
import PortForward.Text.Alphanumeric
import PortForward.Text.Pattern.CharClass

namespace PortForward.Text

/-- A part of a pattern: how deep its own parts are nested, and whether it can be repeated. -/
structure PatternPart where
  height : Nat
  repeatable : Bool := true

namespace PatternReader

/-! ## Switches and names -/

/-- The switches of a pattern. -/
def switchLetters : List Char := "imsURux".toList

/-- Switches to turn on, and after a hyphen switches to turn off, each at most once. -/
def areSwitches (s : List Char) : Bool :=
  s.all (fun c => c = '-' || switchLetters.contains c) && s.Nodup && s.getLast? != some '-'

/-- How a switch is turned, if it is. -/
def turned? (switch : Char) (s : List Char) : Option Bool :=
  if s.contains switch then some ((s.takeWhile (· != '-')).contains switch) else none

/-- Turns switches. -/
def turn (s : List Char) : PatternReader Unit := modify fun c =>
  { c with
    wide := (turned? 'u' s).getD c.wide
    spaced := (turned? 'x' s).getD c.spaced }

/-- May stand in the name of a group. -/
def isNameChar (c : Char) : Bool := c ∈ ['_', '.', '[', ']'] || isAlphanumeric c

/-- The name of a group: it begins with a letter, and no other group has it. -/
def isGroupName (name : List Char) : Bool :=
  match name with
  | [] => false
  | c :: s => (c = '_' || isAlphabetic c) && s.all isNameChar

/-- The name of a group, to its closing angle bracket. -/
def groupName : PatternReader Unit := do
  let c ← get
  let name := c.rest.takeWhile (· != '>')
  if !isGroupName name || c.names.contains name then failure
  set { c with rest := c.rest.dropWhile (· != '>'), names := name :: c.names }
  expect ">"

/-- What begins after an opening parenthesis: a group, or switches alone, which are turned for what
follows. A look ahead or behind is no part of a pattern. -/
def opensGroup : PatternReader Bool := do
  skip
  let rest := (← get).rest
  if ["?=", "?!", "?<=", "?<!"].any fun sign => sign.toList.isPrefixOf rest then failure
  if (← take "?P<") || (← take "?<") then
    groupName
    return true
  if ← take "?" then
    let s := (← get).rest.takeWhile fun c => c != ':' && c != ')'
    if !areSwitches s then failure
    drop s.length
    turn s
    if ← take ":" then return true
    expect ")"
    if s = [] then failure
    return false
  return true

/-! ## Parts -/

/-- The last part repeated; there has to be one that can be. -/
def repeated : List PatternPart → Option (List PatternPart)
  | p :: ps => if p.repeatable then some (⟨p.height + 1, true⟩ :: ps) else none
  | [] => none

/-- The height of parts in a row. -/
def partsHeight (parts : List PatternPart) : Nat := rowHeight (parts.map (·.height))

/-- The alternatives up to a closing parenthesis or the end, with the parts of the current one,
the last first, and the heights of those before. The first number bounds the parts. -/
def alternatives : Nat → List PatternPart → List Nat → PatternReader Nat
  | 0, _, _ => failure
  | n + 1, parts, done => do
    skip
    match ← next? with
    | none => return rowHeight (partsHeight parts :: done)
    | some ')' => return rowHeight (partsHeight parts :: done)
    | some '|' =>
      drop 1
      alternatives n [] (partsHeight parts :: done)
    | some '(' =>
      drop 1
      let outside ← get
      if ← opensGroup then
        let h ← alternatives n [] []
        expect ")"
        modify fun c => { c with wide := outside.wide, spaced := outside.spaced }
        alternatives n (⟨h + 1, true⟩ :: parts) done
      else alternatives n (⟨0, false⟩ :: parts) done
    | some '[' =>
      drop 1
      let h ← charClass
      alternatives n (⟨h, true⟩ :: parts) done
    | some '\x7b' => failure
    | some c =>
      if c ∈ ['?', '*', '+'] then
        drop 1
        let _ ← take "?"
        alternatives n (← repeated parts) done
      else
        let a ← atom
        if !a.isSound (← get).wide then failure
        alternatives n (⟨0, true⟩ :: parts) done

/-- The levels that parts of a pattern may be nested in. -/
def maxHeight : Nat := 250

end PatternReader

/-- The text can be read as a pattern. Numbers of repetitions stand between braces, which no text
here can close. -/
def isPattern (s : List Char) : Bool :=
  match (PatternReader.alternatives (s.length + 1) [] []).run { rest := s } with
  | some (h, c) => c.rest = [] && h ≤ PatternReader.maxHeight
  | none => false

/-- Groups and classes have to be closed, and repetition needs something to repeat. -/
example : isPattern "a(b|[)])*".toList = true ∧ isPattern "(a".toList = false ∧
    isPattern "*a".toList = false ∧ isPattern "a\\".toList = false := by decide

end PortForward.Text
