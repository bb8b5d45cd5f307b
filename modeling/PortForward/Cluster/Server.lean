/-
# The API server

What the server answers to requests, as far as a run meets it: for each path the answers in turn,
of which the last one stands for all later ones. Other paths are not found. The server remembers
what it was asked, and the client remarks on what goes wrong.
-/
import PortForward.Cluster.Uri
import PortForward.Json

namespace PortForward

/-- An answer to a request. -/
structure Response where
  status : Nat
  body : Json := .object []
deriving Repr, Inhabited

namespace Response

/-- A proper status has three digits. Of the first hundred only the switch of protocols ends a
request, the others promise an answer that never comes. -/
def isFinal (r : Response) : Bool := r.status == 101 || (200 ≤ r.status && r.status < 1000)

/-- The server failed. -/
def isFailure (r : Response) : Bool := 500 ≤ r.status && r.status < 600

/-- The server refuses, for whichever reason. -/
def isRefusal (r : Response) : Bool := 400 ≤ r.status && r.status < 600

/-- The document that comes with the answer: with some statuses there is none. -/
def document? (r : Response) : Option Json :=
  if r.status ∈ [101, 204, 304] then none else some r.body

/-- The text of the document. -/
def text (r : Response) : String := (r.document?.map Json.compact).getD ""

end Response

/-- What the client remarks on the way. -/
inductive Remark where
  /-- The server has failed with a status. -/
  | failedStatus (status : Nat)
  /-- There is no answer. -/
  | noAnswer (cause : Unavailable)
  /-- A refusal is not of the form that refusals have. -/
  | oddRefusal (text : String)
  /-- An answer is no pod. -/
  | oddPod (text : String) (fault : Fault)
deriving DecidableEq, Repr

/-- The API server, and the requests that were made so far. -/
structure Cluster where
  reachable : Bool := true
  /-- For each path the answers that are still to come. -/
  routes : List (String × List Response) := []
  requests : List String := []
  remarks : List Remark := []
deriving Repr, Inhabited

namespace Cluster

/-- The answer where there is nothing. -/
def notFound : Response :=
  ⟨404, .object [("message", .string ""), ("reason", .string "NotFound")]⟩

/-- The answers of a path after one was given: the last one stays. -/
def afterOne : List Response → List Response
  | _ :: r :: rs => r :: rs
  | rs => rs

/-- The routes after one answer of a path was given. -/
def advance (path : String) : List (String × List Response) → List (String × List Response)
  | [] => []
  | (p, rs) :: routes =>
    if p = path then (p, afterOne rs) :: routes else (p, rs) :: advance path routes

/-- The answers that are still to come for a path. -/
def upcoming (c : Cluster) (url : String) : List Response :=
  (c.routes.lookup (pathOf url)).getD []

/-- Adds a remark. -/
def remark (c : Cluster) (r : Remark) : Cluster := { c with remarks := c.remarks ++ [r] }

/-- The cluster without its remarks. -/
def quiet (c : Cluster) : Cluster := { c with remarks := [] }

/-- Makes a request of an address that can be requested. -/
def send (c : Cluster) (url : String) : Cluster × Except Unavailable Response :=
  if !c.reachable then (c.remark (.noAnswer .unreachable), .error .unreachable)
  else
    let r := (c.upcoming url).headD notFound
    let c := { c with
      routes := advance (pathOf url) c.routes
      requests := c.requests ++ ["GET " ++ sent url] }
    if !r.isFinal then (c.remark (.noAnswer .unanswered), .error .unanswered)
    else if r.isFailure then (c.remark (.failedStatus r.status), .ok r)
    else (c, .ok r)

/-- Makes a request. -/
def get (c : Cluster) (url : String) : Cluster × Except Unavailable Response :=
  match unrequestable? url with
  | some cause => (c, .error (.badRequest cause))
  | none => c.send url

end Cluster
end PortForward
