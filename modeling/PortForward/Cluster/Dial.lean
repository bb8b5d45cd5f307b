/-
# Connections into a container

The API server carries a connection to a port of a pod if it agrees to switch protocols. What is
heard then is up to the pod.

* `dial` : connects to a port of a pod, through the server.
-/
import PortForward.Cluster.Server
import PortForward.Cluster.StatusText
import PortForward.Pod

namespace PortForward

/-- Why a port cannot be reached. -/
inductive DialError where
  | unavailable (cause : Unavailable)
  /-- The server did not switch protocols, but answered with a status. -/
  | notSwitched (status : Nat)
deriving DecidableEq, Repr

/-- Says why a port cannot be reached. -/
def DialError.message : DialError → String
  | .unavailable cause => cause.account
  | .notSwitched status =>
    "failed to upgrade to a WebSocket connection: failed to switch protocol: " ++
      Cluster.statusText status

namespace Cluster

/-- What a pod replies at one of its ports, after the server has answered and carried some data to
it. -/
abbrev PodSide := (path : String) → (port : UInt16) → Response → (data : String) → String

/-- Connects to a port of a pod, sends data and hears the reply. -/
def dial (podSide : PodSide) (c : Cluster) (defaultNs path : String) (port : UInt16) (data : String) :
    Cluster × Except DialError String :=
  let (ns, name) := Pod.splitPath path defaultNs
  let url := portUrl ns name port
  let (c, answer) := c.get url
  (c, match answer with
    | .error e => .error (.unavailable e)
    | .ok r =>
      if r.status = 101 then .ok (podSide (pathOf url) port r data)
      else .error (.notSwitched r.status))

end Cluster
end PortForward
