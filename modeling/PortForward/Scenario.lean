/-
# Scenarios

A registry in use: operations by callers, targets that come and go, clients that connect. An
operation, or several at once, runs to its end and everything settles before the next one begins.
-/
import PortForward.Fields
import PortForward.System.Schedule
import PortForward.Traffic

namespace PortForward

/-- Which hooks a start asks for. -/
structure Hooks where
  onStart : Bool := true
  onStop : Bool := true

/-- What callers do with the registry. -/
inductive Operation where
  | start (key : Key) (batch : List Tunnel) (hooks : Hooks)
  /-- Starts what the fields of the dialog say. -/
  | startFields (key : Key) (fields : Fields.Input) (hooks : Hooks)
  | stop (key : Key)
  | stopPath (path : String)
  | stopAll
  | isForwarded (key : Key)
  | isPathForwarded (path : String)
  | find (key : Key)
  | list
  | count
  | available (batch : List Tunnel)
  /-- The target of a forwarder goes away. -/
  | kill (key : Key) (reason : String)

/-- A registry in use. -/
structure Scenario extends Traffic where
  /-- How long a stop waits, in milliseconds. -/
  stopTimeout : Nat := 1000
  /-- The targets that are gone for good, and why. -/
  doomed : List (Key × String) := []
  /-- The container ports that refuse connections. -/
  refusing : List UInt16 := []
  /-- Connections are accepted at once, beside whatever else goes on. -/
  parallel : Bool := false
  /-- The connections that clients keep, by the names that they give them. -/
  kept : List (String × Nat) := []

namespace Scenario

/-! ## Operations -/

/-- An operation that has begun: it is a call in flight, or answered at once. -/
inductive Begun where
  | inFlight (call : Nat)
  | answered (answer : Answer)

/-- Begins a call and lets it go on until it is stuck. -/
def beginCall (s : System) (r : Request) : System × Begun :=
  ((s.step (.request r)).proceed s.calls.length, .inFlight s.calls.length)

/-- Begins an operation. -/
def begin (s : System) : Operation → System × Begun
  | .start key batch hooks => beginCall s (.start key batch hooks.onStart hooks.onStop)
  | .startFields key fields hooks =>
    match Fields.tunnels fields with
    | .ok batch => beginCall s (.start key batch hooks.onStart hooks.onStop)
    | .error e => (s, .answered (.error e))
  | .stop key => beginCall s (.stop key)
  | .stopPath path => beginCall s (.stopPath path)
  | .stopAll => beginCall s .stopAll
  | .isForwarded key => (s, .answered (.ok (.flag (s.world.registry.isForwarded key))))
  | .isPathForwarded path => (s, .answered (.ok (.flag (s.world.registry.isPathForwarded path))))
  | .find key => (s, .answered (.ok (.found (s.world.registry.find? key))))
  | .list => (s, .answered (.ok (.views s.world.registry.list)))
  | .count => (s, .answered (.ok (.count s.world.registry.count)))
  | .available batch => (s, .answered ((s.world.machine.available batch).map fun _ => .done))
  | .kill _ _ => (s, .answered (.ok .done))

/-- The target that an operation takes away: only a forwarder that is there notices. -/
def killed? (s : System) : Operation → Option (Key × String)
  | .kill key reason => if s.world.registry.isForwarded key then some (key, reason) else none
  | _ => none

/-- Begins operations in order; says also which targets they take away. -/
def beginAll (s : System) : List Operation → System × List Begun × List (Key × String)
  | [] => (s, [], [])
  | o :: os =>
    let gone := killed? s o
    let (s, b) := begin s o
    let (s, bs, others) := beginAll s os
    (s, b :: bs, gone.toList ++ others)

/-- The calls in flight. -/
def Begun.call? : Begun → Option Nat
  | .inFlight i => some i
  | .answered _ => none

/-- The answer of an operation that is through. -/
def Begun.answer (s : System) : Begun → Answer
  | .inFlight i => ((s.calls[i]?).bind Call.answer?).getD (.ok .done)
  | .answered a => a

/-- Performs operations side by side, with so many milliseconds for a name look-up, until everything
has settled. Of a target that is taken away twice the later reason counts. -/
def perform (sc : Scenario) (operations : List Operation) (lookupTime : Nat) :
    Scenario × List Answer :=
  let (s, begun, gone) := beginAll sc.system.reapAborted operations
  let gone := gone.reverse ++ sc.doomed
  let s := s.complete (begun.filterMap Begun.call?) gone (sc.stopTimeout < lookupTime)
  ({ sc with system := s.settle gone }, begun.map (Begun.answer s))

/-- Performs one operation. -/
def performOne (sc : Scenario) (o : Operation) : Scenario × Answer :=
  let (sc, answers) := sc.perform [o] 0
  (sc, answers.headD (.ok .done))

/-- Lets everything settle. -/
def settled (sc : Scenario) : Scenario := (sc.perform [] 0).1

/-! ## Targets and ports -/

/-- A target goes away for good. -/
def doom (sc : Scenario) (key : Key) (reason : String) : Scenario :=
  { sc with doomed := (key, reason) :: sc.doomed.filter (·.1 != key) }.settled

/-- A target is there again; says whether it was gone. -/
def undoom (sc : Scenario) (key : Key) : Scenario × Bool :=
  ({ sc with doomed := sc.doomed.filter (·.1 != key) }, sc.doomed.any (·.1 == key))

/-- A container port refuses connections from now on; says whether that is new. -/
def refuse (sc : Scenario) (port : UInt16) : Scenario × Bool :=
  ({ sc with refusing := port :: sc.refusing.filter (· != port) }, !sc.refusing.contains port)

/-- A container port takes connections again; says whether that is new. -/
def accept (sc : Scenario) (port : UInt16) : Scenario × Bool :=
  ({ sc with refusing := sc.refusing.filter (· != port) }, sc.refusing.contains port)

/-- Another program listens somewhere; says whether it can. -/
def hold (sc : Scenario) (address : String) (port : UInt16) : Scenario × Bool :=
  ({ sc with system := sc.system.step (.hold address port) },
    (sc.system.world.machine.probe address port).isOk)

/-- Another program listens no longer; says whether it did. -/
def letGo (sc : Scenario) (address : String) (port : UInt16) : Scenario × Bool :=
  ({ sc with system := sc.system.step (.letGo address port) },
    sc.system.world.machine.listeners.any (System.isForeign address port))

/-- The watch of a target stalls in new forwarders; says whether that is new. -/
def stall (sc : Scenario) (key : Key) : Scenario × Bool :=
  ({ sc with system := sc.system.step (.stall key true) },
    !sc.system.world.stalling.contains key)

/-- The watch of a target stalls no longer; says whether that is new. -/
def unstall (sc : Scenario) (key : Key) : Scenario × Bool :=
  ({ sc with system := sc.system.step (.stall key false) },
    sc.system.world.stalling.contains key)

/-- The registry goes away with all that it owns, and a new one takes its place. Generations go
on, so that a client's connection to an old one counts as closed. -/
def renew (sc : Scenario) : Scenario :=
  let w := sc.system.world
  let world : World :=
    { registry := { limit := w.registry.limit, next := w.registry.next }
      machine := w.machine.close fun o =>
        match o with
        | .tunnel _ _ => true
        | .foreign _ => false
      journal := w.journal
      stalling := w.stalling }
  { sc with system := { world }, doomed := [], refusing := [] }

/-! ## Clients -/

/-- What a client meets at an endpoint. -/
inductive Meeting where
  /-- Nobody listens. -/
  | refused
  /-- Another program, or a tunnel that cannot reach its container port. -/
  | closed
  /-- A tunnel that has dialled this port of a target. -/
  | tunnel (key : Key) (port : UInt16)

/-- Connects to an endpoint. -/
def meet (sc : Scenario) (address : String) (port : UInt16) : Meeting :=
  match sc.system.world.machine.listener? address port with
  | some _ =>
    match sc.system.world.dials address port with
    | (key, remote) :: _ => if sc.refusing.contains remote then .closed else .tunnel key remote
    | [] => .closed
  | none => .refused

/-- The tasks that accept what arrives at an endpoint. -/
def acceptors (sc : Scenario) (address : String) (port : UInt16) : List Task :=
  match sc.system.world.machine.listener? address port with
  | some l => sc.system.world.tasks.filter fun u => World.heldBy u l.owner && !u.aborted
  | none => []

/-- A connection arrives and the accept loop has its turn. -/
def arrival (sc : Scenario) (address : String) (port : UInt16) (failure : Option String) :
    List Event :=
  .arrive address port :: (sc.acceptors address port).map (.turn · failure)

/-- Events of clients happen. -/
def pass (sc : Scenario) (es : List Event) : Scenario := { sc with toTraffic := sc.toTraffic.run es }

/-- Both sides of the connection of this name end, if there is one. -/
def hangUp (sc : Scenario) (id : String) : List Event :=
  (sc.kept.lookup id).toList.flatMap fun i => [.occur i (.ended .up), .occur i (.ended .down)]

/-- Connects and keeps the connection under a name, in place of an earlier one. -/
def connect (sc : Scenario) (id : String) (address : String) (port : UInt16) :
    Scenario × Meeting :=
  let met := sc.meet address port
  let i := sc.connections.length
  let arrival := sc.arrival address port none
  match met with
  | .tunnel _ _ =>
    let sc := sc.pass (arrival ++ .occur i (.dialled true) :: sc.hangUp id)
    ({ sc with kept := (id, i) :: sc.kept.filter (·.1 != id) }, met)
  | .closed => (sc.pass (arrival ++ [.occur i (.dialled false)]), met)
  | .refused => (sc, met)

/-- Whether a connection is still open; nothing if there is none of this name. -/
def isOpen? (sc : Scenario) (id : String) : Option Bool := (sc.kept.lookup id).map sc.isOpen

/-- A client ends a connection, in whichever way; says whether there was one. -/
def disconnect (sc : Scenario) (id : String) : Scenario × Bool :=
  ({ sc.pass (sc.hangUp id) with kept := sc.kept.filter (·.1 != id) }, sc.kept.any (·.1 == id))

/-- A connection arrives while nothing can be accepted for some cause; says whether anybody listened.
It does no harm if it was accepted before. -/
def exhaust (sc : Scenario) (address : String) (port : UInt16) (cause : String) : Scenario × Bool :=
  match (sc.system.world.machine.listener? address port).map Listener.owner with
  | some (.tunnel _ _) =>
    let failure := if sc.parallel then none else some cause
    ((sc.pass (sc.arrival address port failure)).settled, true)
  | some (.foreign _) => (sc, true)
  | none => (sc, false)

end Scenario
end PortForward
