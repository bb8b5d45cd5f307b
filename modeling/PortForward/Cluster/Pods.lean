/-
# Pods of the cluster

Asks the API server for a pod. A refusal because there is no such pod means that the pod is
absent; any other refusal is an error, and so is an answer that is no pod.

* `askPod` : what the API server answers when it is asked for a pod;
* `fetchPod` : the pod of a path;
* `listForwardable` : the ports of a container in it that can be forwarded, and its annotations.
-/
import PortForward.Cluster.Refusal
import PortForward.Cluster.Server
import PortForward.Pod.Document

namespace PortForward.Cluster

/-- What is known after asking for a pod: that it is there, that it is absent, or nothing. -/
abbrev Outcome := Except Unavailable (Option Pod)

/-- A way to ask for a pod, by its namespace and its name. The cluster takes note of what it is
asked. -/
abbrev Ask := Cluster → String → String → Cluster × Outcome

/-- What a refusal says about a pod. -/
def ofRefusal (r : Refusal) : Outcome :=
  if r.reason = "NotFound" then .ok none else .error (.refused r.message r.reason)

/-- What an answer says about a pod, and what there is to remark on it. -/
def outcome (r : Response) : Outcome × Option Remark :=
  if r.isRefusal then
    match Refusal.read r.body with
    | .ok refusal => (ofRefusal refusal, none)
    | .error _ => (ofRefusal (.unread r.text), some (.oddRefusal r.text))
  else
    match (r.document?.map Pod.read).getD (.error .empty) with
    | .ok pod => (.ok (some pod), none)
    | .error fault => (.error (.badAnswer fault), some (.oddPod r.text fault))

/-- Asks for a pod. -/
def askPod (c : Cluster) (ns name : String) : Cluster × Outcome :=
  if name = "" then (c, .error (.badRequest .noName))
  else
    match c.get (podUrl ns name) with
    | (c, .error e) => (c, .error e)
    | (c, .ok r) =>
      match outcome r with
      | (o, some remark) => (c.remark remark, o)
      | (o, none) => (c, o)

/-- The pod of a path; it has to be there. -/
def fetchPod (ask : Ask) (c : Cluster) (defaultNs path : String) : Cluster × Except Error Pod :=
  let (ns, name) := Pod.splitPath path defaultNs
  let (c, o) := ask c ns name
  (c, match o with
    | .error e => .error (.unavailable e)
    | .ok none => .error (.unavailable (.podNotFound ns name))
    | .ok (some pod) => .ok pod)

/-- What of a container can be forwarded, and the annotations of its pod. -/
def listForwardable (ask : Ask) (c : Cluster) (defaultNs : String) (key : Key) :
    Cluster × Except Error (List PortSpec × Annotations) :=
  let (c, pod) := fetchPod ask c defaultNs key.path
  (c, do
    let pod ← pod
    return (← pod.forwardable key.container, pod.annotations))

end PortForward.Cluster
