/-
# Two machines

The program is tried out on two kinds of machines: one whose only interface is the loopback
interface, and one that has none at all.

* `Platform.loopbackOnly` : its own addresses are those of the loopback networks;
* `Platform.bare` : no connection can be made there, but programs listen at any IPv4 address, and the
  low ports are kept for the system.
-/
import PortForward.Machine

namespace PortForward.Platform

/-- The address that a name stands for where no names are known but `localhost`: others count as
addresses, with a zone or in the older notation. -/
def localLookUp (name : String) : Except IoError Net.ScopedAddress :=
  let s := name.toList
  if Text.sameLetters s Net.localhostName then .ok ⟨.v4 .localhost, 0⟩
  else
    match Net.ScopedAddress.read? s, Net.IPv4.readOld? s with
    | some x, _ => .ok ⟨x.address.canonical, x.zone⟩
    | none, some x => .ok ⟨.v4 x, 0⟩
    | none, none => .error .unknownName

theorem localLookUp_localhost (name : String)
    (h : Text.sameLetters name.toList Net.localhostName = true) :
    localLookUp name = .ok ⟨.v4 .localhost, 0⟩ := if_pos h

/-- A machine whose only interface is the loopback interface. -/
def loopbackOnly : Platform where
  assigns
    | .v4 x => x == .wildcard || x.isLoopback || x.isMulticast || x == .broadcast
    | .v6 x => x == .wildcard || x == .localhost
  reserves _ := false
  hasInterface zone := zone == Net.ScopedAddress.loopbackZone
  lookUp := localLookUp
  reaches
    | .v4 x => x.isLoopback && x != .loopbackBroadcast
    | .v6 x => x == .localhost
  lookUp_localhost := localLookUp_localhost

/-- A machine without interfaces. -/
def bare : Platform where
  assigns
    | .v4 _ => true
    | .v6 x => x == .wildcard
  reserves port := 0 < port && port < 1024
  hasInterface zone := zone == Net.ScopedAddress.loopbackZone
  lookUp := localLookUp
  reaches _ := false
  lookUp_localhost := localLookUp_localhost

end PortForward.Platform
