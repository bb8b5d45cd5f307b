/-
# Forwarders

A forwarder belongs to a key and owns a batch of tunnels. Every admitted forwarder is a new
generation, so an older one of the same key is never taken for it. The registry keeps an entry for
each forwarder; callers see views.
-/
import PortForward.Tunnel
import PortForward.Key

namespace PortForward

/-- How far a forwarder is. Only events speak of failed ones. -/
inductive Status where
  | pending
  | active
  | failed
deriving DecidableEq, Repr

/-- The word for a status. -/
def Status.word : Status → String
  | .pending => "pending"
  | .active => "active"
  | .failed => "failed"

/-- What a task of a forwarder does: it carries one tunnel, or watches the target. -/
inductive Role where
  | tunnel (tunnel : Tunnel)
  | monitor
deriving DecidableEq, Repr

/-- What callers see of a forwarder. -/
structure View where
  generation : Nat
  key : Key
  tunnels : List Tunnel
  status : Status
deriving DecidableEq, Repr

/-- What the registry keeps of a forwarder. -/
structure Entry where
  generation : Nat
  key : Key
  tunnels : List Tunnel
  status : Status := .pending
  /-- The tasks that were started for it. -/
  tasks : List Role := []
  /-- Its start still holds the listeners. -/
  binding : Bool := true
  /-- Somebody wants to hear of its end. -/
  stopHook : Bool := false
deriving DecidableEq, Repr

namespace Entry

/-- The view of an entry. -/
def view (e : Entry) : View := ⟨e.generation, e.key, e.tunnels, e.status⟩

/-- The view of an entry whose forwarder has failed. -/
def failedView (e : Entry) : View := { e.view with status := .failed }

/-- The tasks of a batch of tunnels: one for each, and one that watches the target. -/
def roles (tunnels : List Tunnel) : List Role := tunnels.map .tunnel ++ [.monitor]

/-- The entry once the listeners of some tunnels are there and their tasks run. -/
def activeWith (e : Entry) (bound : List Tunnel) : Entry :=
  { e with status := .active, tasks := roles bound, binding := false }

/-- The entry once all its listeners are there and its tasks run. -/
def activated (e : Entry) : Entry := e.activeWith e.tunnels

end Entry
end PortForward
