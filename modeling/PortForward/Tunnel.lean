/-
# Tunnels

A tunnel listens on a local address and port and carries each connection to one port of a container.

* `Tunnel.clashes_comm`, `Tunnel.clashes_self` : clashing is symmetric and reflexive.
-/
import PortForward.Net.Host

namespace PortForward

/-- One local endpoint and the container port behind it. -/
structure Tunnel where
  address : String
  localPort : UInt16
  remotePort : UInt16
deriving DecidableEq, Repr, Inhabited

namespace Tunnel

/-- How a tunnel stands in messages. -/
def text (t : Tunnel) : String :=
  t.address ++ ":" ++ toString t.localPort ++ " -> " ++ toString t.remotePort

/-- The two tunnels want the same local port on hosts that cannot both be listened on. The container
port does not matter. -/
def clashes (t u : Tunnel) : Bool :=
  t.localPort == u.localPort && Net.sameHost t.address u.address

/-- Clashing does not depend on the order of the two. -/
theorem clashes_comm (t u : Tunnel) : t.clashes u = u.clashes t := by
  rw [clashes, clashes, Net.sameHost_comm, Bool.beq_comm]

/-- A tunnel clashes with itself. -/
@[simp] theorem clashes_self (t : Tunnel) : t.clashes t = true := by simp [clashes]

/-- Tunnels with different local ports do not clash. -/
theorem clashes_of_localPort_ne {t u : Tunnel} (h : t.localPort ≠ u.localPort) :
    t.clashes u = false := by simp [clashes, h]

/-- How a batch of tunnels stands in messages. -/
def batchText (ts : List Tunnel) : String := ", ".intercalate (ts.map text)

end Tunnel
end PortForward
