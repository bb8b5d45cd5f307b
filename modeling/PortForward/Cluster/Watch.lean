/-
# Watching a target

A target is looked at again and again. It is gone when its pod is absent, or when its container
would no longer be forwarded; an error of the API server is no proof of that.

* `endReason?` : what one look says;
* `monitor` : looks, through any client of the server, until the target is gone;
* `watch` : looks through the client that notes what there is to remark.
-/
import PortForward.Cluster.Pods

namespace PortForward.Cluster

/-- Why the target is gone after one look, if it is. -/
def endReason? (key : Key) : Outcome → Option String
  | .error _ => none
  | .ok none => some ("pod " ++ key.path ++ " deleted")
  | .ok (some pod) =>
    match ContainerStatus.check key.container pod.statuses with
    | .ok _ => none
    | .error e => some e.message

/-- Looks at most so often until the target is gone. What is left is the client as the last look has
left it, and why the target is gone, if it is. -/
def monitor {Client : Type} (ask : Client → Client × Outcome) (key : Key) :
    Nat → Client → Client × Option String
  | 0, client => (client, none)
  | n + 1, client =>
    let (client, o) := ask client
    match endReason? key o with
    | some reason => (client, some reason)
    | none => monitor ask key n client

/-- Looks once. -/
def look (c : Cluster) (defaultNs : String) (key : Key) : Cluster × Outcome :=
  let (ns, name) := Pod.splitPath key.path defaultNs
  c.askPod ns name

/-- What a look has brought up: what there was to remark, and an error. -/
structure Look where
  remarks : List Remark := []
  failure : Option Unavailable := none

/-- What a watch has seen: its looks, and why the target is gone, if it is. -/
structure Sighting where
  looks : List Look := []
  reason : Option String := none

/-- The error that a look has met. -/
def failure? : Outcome → Option Unavailable
  | .error e => some e
  | .ok _ => none

/-- Looks once and adds to the looks so far. -/
def observe (defaultNs : String) (key : Key) : Cluster × List Look → (Cluster × List Look) × Outcome
  | (c, looks) =>
    let (c, o) := c.quiet.look defaultNs key
    ((c, looks ++ [⟨c.remarks, failure? o⟩]), o)

/-- Looks at most so often until the target is gone. -/
def watchFor (defaultNs : String) (key : Key) (n : Nat) (c : Cluster) : Cluster × Sighting :=
  let ((c, looks), reason) := monitor (observe defaultNs key) key n (c, [])
  (c.quiet, ⟨looks, reason⟩)

/-- Looks until the target is gone, or until the server has nothing new to say. -/
def watch (c : Cluster) (defaultNs : String) (key : Key) : Cluster × Sighting :=
  let (ns, name) := Pod.splitPath key.path defaultNs
  watchFor defaultNs key (max 1 (c.upcoming (podUrl ns name)).length) c

end PortForward.Cluster
