/-
# IPv4 addresses

Dotted decimal with exactly four octets. An octet has no leading zero, so every address has one
written form. Where names are looked up, an older notation counts too: one to four parts, each
decimal, octal after a zero or hexadecimal after `0x`, of which the last fills all octets that are
left.
-/
import PortForward.Text.Decimal
import PortForward.Text.Hex
import PortForward.Text.Pieces

namespace PortForward.Net

/-- The four octets of an IPv4 address. -/
structure IPv4 where
  a : UInt8
  b : UInt8
  c : UInt8
  d : UInt8
deriving DecidableEq, Repr

namespace IPv4

/-- Stands for every local address. -/
def wildcard : IPv4 := ⟨0, 0, 0, 0⟩

/-- The address that `localhost` names. -/
def localhost : IPv4 := ⟨127, 0, 0, 1⟩

/-- Belongs to the loopback network 127.0.0.0/8. -/
def isLoopback (x : IPv4) : Bool := x.a == 127

/-- The address of all hosts of the local network. -/
def broadcast : IPv4 := ⟨255, 255, 255, 255⟩

/-- The address of all hosts of the loopback network. -/
def loopbackBroadcast : IPv4 := ⟨127, 255, 255, 255⟩

/-- Names a group of hosts: 224.0.0.0/4. -/
def isMulticast (x : IPv4) : Bool := x.a / 16 == 14

/-- One octet: at most three ASCII digits, no leading zero, below 256. -/
def octet? (s : List Char) : Option UInt8 :=
  let n := Nat.ofDigitChars 10 s 0
  if s ≠ [] ∧ s.length ≤ 3 ∧ Text.allDigits s ∧ (s.head? = some '0' → s.length = 1) ∧ n < 256 then
    some (UInt8.ofNat n)
  else none

/-- Reads dotted decimal. -/
def read? (s : List Char) : Option IPv4 :=
  match (Text.pieces '.' s).mapM octet? with
  | some [a, b, c, d] => some ⟨a, b, c, d⟩
  | _ => none

theorem octet?_lowered (s : List Char) : octet? (Text.lowered s) = octet? s := by
  by_cases hdigits : Text.allDigits s = true
  · rw [Text.lowered_of_allDigits hdigits]
  -- without digits only, neither is an octet
  · rw [octet?, octet?, if_neg fun h => hdigits (Text.allDigits_lowered s ▸ h.2.2.1),
      if_neg fun h => hdigits h.2.2.1]

theorem read?_lowered (s : List Char) : read? (Text.lowered s) = read? s := by
  have hoctet : octet? ∘ Text.lowered = octet? := funext octet?_lowered
  rw [read?, read?, Text.pieces_lowered (by decide), List.mapM_map, hoctet]

/-- The address with this number. -/
def ofNat (n : Nat) : IPv4 :=
  ⟨UInt8.ofNat (n / 16777216), UInt8.ofNat (n / 65536), UInt8.ofNat (n / 256), UInt8.ofNat n⟩

/-- Digits of a base; there has to be one. -/
def numeral? (base : Nat) (ds : List Char) : Option Nat :=
  if ds ≠ [] ∧ ds.all fun c => (Text.hexDigit? c).any (· < base) then some (Text.digitsValue base ds)
  else none

/-- One part of the older notation. -/
def part? : List Char → Option Nat
  | '0' :: 'x' :: ds => numeral? 16 ds
  | '0' :: 'X' :: ds => numeral? 16 ds
  | '0' :: d :: ds => numeral? 8 (d :: ds)
  | ds => numeral? 10 ds

/-- The number of parts of which each but the last is an octet. -/
def ofParts? : Nat → List Nat → Option Nat
  | _, [] => none
  | room, [n] => if n < room then some n else none
  | room, n :: ns =>
    if n < 256 then (ofParts? (room / 256) ns).map (n * (room / 256) + ·) else none

/-- Reads the older notation. -/
def readOld? (s : List Char) : Option IPv4 := do
  let parts ← (Text.pieces '.' s).mapM part?
  if 4 < parts.length then none
  return ofNat (← ofParts? 4294967296 parts)

/-- The last part fills all octets that are left. -/
example : readOld? "127.1".toList = some localhost ∧ readOld? "0x7f.0.01".toList = some localhost ∧
    readOld? "2130706433".toList = some localhost ∧ readOld? "127.16777216".toList = none := by
  decide

/-- There are exactly four octets, and none has a leading zero. -/
example : read? "127.0.0.1".toList = some localhost ∧ read? "127.00.0.1".toList = none ∧
    read? "127.1".toList = none ∧ read? "1.2.3.256".toList = none := by decide

end IPv4
end PortForward.Net
