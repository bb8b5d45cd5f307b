/-
# Addresses with zones

An IPv6 address may be written with a zone after a percent sign, which says by which interface of
the machine it is to be reached. An interface has a number, counted from one, and the loopback
interface is the first; zone zero is none. Its name counts only with addresses that mean something
on one link.

* `ScopedAddress.read?` : an address with its zone, in brackets of no kind.
-/
import PortForward.Net.Host

namespace PortForward.Net

/-- An address with its zone. -/
structure ScopedAddress where
  address : IpAddress
  zone : Nat := 0
deriving DecidableEq, Repr

namespace ScopedAddress

/-- The name of the loopback interface. -/
def loopbackName : List Char := "lo".toList

/-- The zone of the loopback interface. -/
def loopbackZone : Nat := 1

/-- The zone of an address: the name of an interface, or a number of 32 bits. -/
def zone? (x : IPv6) (s : List Char) : Option Nat :=
  if (x.isLinkLocal || x.isNearGroup) && s == loopbackName then some loopbackZone
  else if s ≠ [] ∧ Text.allDigits s ∧ Nat.ofDigitChars 10 s 0 < 4294967296 then
    some (Nat.ofDigitChars 10 s 0)
  else none

/-- Reads an IPv6 address with a zone. -/
def read? (s : List Char) : Option ScopedAddress := do
  let x ← IPv6.read? (s.takeWhile (· != '%'))
  match s.dropWhile (· != '%') with
  | _ :: zone => return ⟨.v6 x, ← zone? x zone⟩
  | [] => none

/-- An interface can be named where it matters, and numbered everywhere. -/
example : (read? "fe80::1%lo".toList).map zone = some 1 ∧ read? "::1%lo".toList = none ∧
    (read? "::1%007".toList).map zone = some 7 ∧ read? "::1%".toList = none := by decide

end ScopedAddress
end PortForward.Net
