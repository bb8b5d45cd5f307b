/-
# Hexadecimal digits

* `hexDigit?_digitChar` : a digit character stands for the number that it was made from;
* `hexDigit?_toLower` : letter case does not matter.
-/
import PortForward.Text.Ascii

namespace PortForward.Text

/-- The value of a hexadecimal digit in either case. -/
def hexDigit? (c : Char) : Option Nat :=
  if c.isDigit then some (c.toNat - '0'.toNat)
  else if 'a' ≤ c ∧ c ≤ 'f' then some (c.toNat - 'a'.toNat + 10)
  else if 'A' ≤ c ∧ c ≤ 'F' then some (c.toNat - 'A'.toNat + 10)
  else none

/-- A hexadecimal digit of either case. -/
def isHexDigit (c : Char) : Bool := (hexDigit? c).isSome

/-- The number that digits of a base stand for; another character counts as zero. -/
def digitsValue (base : Nat) (ds : List Char) : Nat :=
  ds.foldl (fun n c => base * n + (hexDigit? c).getD 0) 0

/-- The hexadecimal digits of a number read back. -/
theorem hexDigit?_digitChar {n : Nat} (h : n < 16) : hexDigit? (Nat.digitChar n) = some n := by
  revert n
  decide

/-- The value of a hexadecimal digit by its place among the characters. -/
theorem hexDigit?_eq (c : Char) : hexDigit? c =
    if 48 ≤ c.toNat ∧ c.toNat ≤ 57 then some (c.toNat - 48)
    else if 97 ≤ c.toNat ∧ c.toNat ≤ 102 then some (c.toNat - 97 + 10)
    else if 65 ≤ c.toNat ∧ c.toNat ≤ 70 then some (c.toNat - 65 + 10)
    else none := by
  simp only [hexDigit?, isDigit_iff, Char.le_def, UInt32.le_iff_toNat_le]
  rfl

/-- A hexadecimal digit has the same value in either case. -/
theorem hexDigit?_toLower (c : Char) : hexDigit? c.toLower = hexDigit? c := by
  rw [hexDigit?_eq, hexDigit?_eq, toNat_toLower]
  grind

end PortForward.Text
