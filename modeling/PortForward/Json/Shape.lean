/-
# The shape of a document

Says of which form a document has to be, and where it first departs from that. Documents are read
from left to right in their text without blanks; the place of a fault is the number of bytes read
by then.

* `Shape` : texts, numbers, timestamps, lists, maps, and records of named members;
* `Shape.fault?` : the first fault of a document, if it has one;
* `Shape.read` : reads a document that has no fault.
-/
import PortForward.Calendar.Timestamp
import PortForward.Json
import PortForward.Json.Fault
import PortForward.Text.Quoted

namespace PortForward

/-- The form that a value has to have. -/
inductive Shape where
  | anything
  | text
  /-- This text and no other. -/
  | constant (value : String)
  /-- A timestamp in a text. -/
  | moment
  | flag
  /-- An integer in a range, and the name of that range. -/
  | integer (least most : Int) (name : String)
  /-- A text, or an integer in a range; the names of that range and of the whole. -/
  | textOrInteger (least most : Int) (range name : String)
  /-- One of some words, alone or as the only key of an object with nothing under it. -/
  | word (words : List String) (name : String)
  | list (item : Shape)
  /-- Values of one form under any keys. -/
  | map (value : Shape)
  /-- Null is as good as a value. -/
  | nullable (shape : Shape)
  /-- An object with some known members; others are passed over. -/
  | record (name : String) (members : List (String × Shape))
  /-- An object as above, or the values of its members in order, of which the last may be missing.
  -/
  | row (name : String) (members : List (String × Shape))
deriving Repr, Inhabited

namespace Shape

/-- Integers of 32 bits with sign. -/
def int32 : Shape := .integer (-2147483648) 2147483647 "i32"

/-- Integers of 64 bits with sign. -/
def int64 : Shape := .integer (-9223372036854775808) 9223372036854775807 "i64"

/-- Integers of 16 bits without sign. -/
def nat16 : Shape := .integer 0 65535 "u16"

/-- Integers of 32 bits without sign. -/
def nat32 : Shape := .integer 0 4294967295 "u32"

/-- A text, or an integer of 32 bits with sign. -/
def textOrInt32 : Shape :=
  .textOrInteger (-2147483648) 2147483647 "a 32-bit integer" "IntOrString"

/-- How much there is of something: a text with a unit, or an integer. -/
def quantity : Shape :=
  .textOrInteger (-9223372036854775808) 18446744073709551615 "Quantity" "Quantity"

/-- What a value is wanted to be, in messages. -/
def wanted : Shape → String
  | .anything => "anything"
  | .text => "a string"
  | .constant _ => "a string"
  | .moment => "a timestamp string"
  | .flag => "a boolean"
  | .integer _ _ name => name
  | .textOrInteger _ _ _ name => name
  | .word _ name => name
  | .list _ => "a sequence"
  | .map _ => "a map"
  | .nullable s => s.wanted
  | .record name _ => name
  | .row name _ => name

/-- The form of a value that is not null. -/
def bare : Shape → Shape
  | .nullable s => s.bare
  | s => s

/-- Null has this form. -/
def allowsNull : Shape → Bool
  | .anything => true
  | .nullable _ => true
  | _ => false

/-- Only one text has this form. -/
def isConstant : Shape → Bool
  | .constant _ => true
  | _ => false

/-- A value is of another type than it has to be. -/
def mismatch (found : String) (s : Shape) (column : Nat) : Fault :=
  ⟨"invalid type: " ++ found ++ ", expected " ++ s.wanted, column⟩

/-- What is wrong with a number that ends at a place, if it has to be in a range. -/
def rangeFault? (least most : Int) (name : String) (n : Int) (stop : Nat) : Option Fault :=
  if least ≤ n ∧ n ≤ most then none
  else some ⟨"invalid value: integer " ++ Fault.shown (toString n) ++ ", expected " ++ name, stop⟩

/-- What is wrong with a number that ends at a place. -/
def numberFault? (s : Shape) (n : Int) (stop : Nat) : Option Fault :=
  match s with
  | .anything => none
  | .integer least most name => rangeFault? least most name n stop
  | .textOrInteger least most range _ => rangeFault? least most range n stop
  | s => some (mismatch ("integer " ++ Fault.shown (toString n)) s stop)

/-- What is wrong with a text that ends at a place. -/
def textFault? (s : Shape) (t : String) (stop : Nat) : Option Fault :=
  match s with
  | .anything => none
  | .text => none
  | .textOrInteger _ _ _ _ => none
  | .moment =>
    if (Calendar.Timestamp.read? t.toList).isSome then none
    else some ⟨"invalid timestamp " ++ Text.quote t, stop⟩
  | .constant value =>
    if t = value then none
    else some ⟨"invalid value: string " ++ Text.quote t ++ ", expected " ++ value, stop⟩
  | .word words name =>
    if t ∈ words then none
    else some ⟨"unknown variant " ++ Fault.shown t ++ ", expected " ++ name, stop⟩
  | s => some (mismatch ("string " ++ Text.quote t) s stop)

/-- The bytes of a list or an object that are read when it is of no use: its brackets, or only the
first one if something is between them. -/
def opening (isEmpty : Bool) : Nat := if isEmpty then 2 else 1

mutual

/-- The first fault of a value that begins at a place. -/
def fault? (s : Shape) (start : Nat) : Json → Option Fault
  | .null => if s.allowsNull then none else some (mismatch "null" s (start + 4))
  | .bool b =>
    match s.bare with
    | .anything => none
    | .flag => none
    | s => some (mismatch ("boolean " ++ Fault.shown (toString b)) s (start + (toString b).length))
  | .number n => s.bare.numberFault? n (start + (toString n).length)
  | .string t => s.bare.textFault? t (start + (Json.stringText t).utf8ByteSize)
  | .array items =>
    match s.bare with
    | .anything => none
    | .list item => itemFault? item (start + 1) items
    | .record name _ => some (mismatch "sequence" (.record name []) (start + opening items.isEmpty))
    | .textOrInteger least most range name =>
      some (mismatch "sequence" (.textOrInteger least most range name) (start + opening items.isEmpty))
    | .row _ members => rowFault? members (start + 1) items
    | s => some (mismatch "sequence" s start)
  | .object members =>
    match s.bare with
    | .anything => none
    | .map value => valueFault? value (start + 1) members
    | .record _ known => memberFault? known (start + 1) members
    | .row _ known => memberFault? known (start + 1) members
    | .textOrInteger least most range name =>
      some (mismatch "map" (.textOrInteger least most range name) (start + opening members.isEmpty))
    | .word words name =>
      match members with
      | [(key, .null)] => textFault? (.word words name) key (start + 1)
      | _ => some (mismatch "map" (.word words name) (start + 1))
    | s => some (mismatch "map" s start)

/-- The first fault of the items of a list, of which the first begins at a place. -/
def itemFault? (s : Shape) (start : Nat) : List Json → Option Fault
  | [] => none
  | j :: js => (fault? s start j).or (itemFault? s (start + j.size + 1) js)

/-- The first fault of values in a row, of which the first begins at a place. -/
def rowFault? (known : List (String × Shape)) (start : Nat) : List Json → Option Fault
  | [] => none
  | j :: js =>
    match known with
    | [] => some ⟨"trailing characters", start⟩
    | (_, s) :: known => (fault? s start j).or (rowFault? known (start + j.size + 1) js)

/-- The first fault of the values under keys, of which the first begins at a place. -/
def valueFault? (s : Shape) (start : Nat) : List (String × Json) → Option Fault
  | [] => none
  | (key, j) :: ms =>
    let start := start + (Json.stringText key).utf8ByteSize + 1
    (fault? s start j).or (valueFault? s (start + j.size + 1) ms)

/-- The first fault of members, of which the first begins at a place. That a text is not the one
that is wanted is noticed with the brace behind it, if there is one. -/
def memberFault? (known : List (String × Shape)) (start : Nat) :
    List (String × Json) → Option Fault
  | [] => none
  | (key, j) :: ms =>
    let start := start + (Json.stringText key).utf8ByteSize + 1
    match known.lookup key with
    | none => memberFault? known (start + j.size + 1) ms
    | some s =>
      let late := if s.isConstant && j.string?.isSome && ms.isEmpty then 1 else 0
      ((fault? s start j).map (·.later late)).or (memberFault? known (start + j.size + 1) ms)

end

/-- Reads a document of this form. -/
def read {α : Type} (s : Shape) (extract : Json → α) (document : Json) : Except Fault α :=
  match s.fault? 0 document with
  | some f => .error f
  | none => .ok (extract document)

/-- A document can be read exactly if it has no fault. -/
theorem read_eq_ok_iff {α : Type} {s : Shape} {extract : Json → α} {document : Json} {a : α} :
    s.read extract document = .ok a ↔ s.fault? 0 document = none ∧ extract document = a := by
  unfold read
  split <;> simp_all

end Shape
end PortForward
