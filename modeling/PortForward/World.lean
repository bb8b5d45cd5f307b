/-
# The registry at work

The registry together with what it acts on: the machine with its listeners, the running tasks, the
reports that tasks leave when they end, and the journal of all hook calls and events.

Every change below is one that happens at once. `World/Call` puts them into the order in which a
call makes them.
-/
import PortForward.Machine
import PortForward.Registry

namespace PortForward

/-- A running task of a forwarder. -/
structure Task where
  generation : Nat
  key : Key
  role : Role
  /-- It does not notice for now that it should end. -/
  stalled : Bool := false
  /-- It was given up by the one who waited for its end. -/
  aborted : Bool := false
deriving DecidableEq, Repr

/-- What a task asks for when it accepts a connection: a port of its target. -/
def Task.dial? (t : Task) : Option (Key × UInt16) :=
  match t.role with
  | .tunnel tunnel => some (t.key, tunnel.remotePort)
  | .monitor => none

/-- What a task leaves that ended on its own. -/
structure Report where
  generation : Nat
  key : Key
  reason : String
deriving DecidableEq, Repr

/-- The reason in the report of a task that could give none. -/
def Report.unexpected : String := "forwarding task ended unexpectedly"

/-- A hook call or an event. -/
inductive Record where
  | startHook (view : View)
  | stopHook (generation : Nat) (key : Key) (cause : Option Error)
  | started (view : View)
  | stopped (generation : Nat) (key : Key)
  | failed (view : View) (cause : Error)
deriving DecidableEq, Repr

namespace Record

/-- The key that a record is about. -/
def key : Record → Key
  | .startHook v => v.key
  | .stopHook _ key _ => key
  | .started v => v.key
  | .stopped _ key => key
  | .failed v _ => v.key

/-- The generation that a record is about. -/
def generation : Record → Nat
  | .startHook v => v.generation
  | .stopHook g _ _ => g
  | .started v => v.generation
  | .stopped g _ => g
  | .failed v _ => v.generation

/-- The record is a hook call, not an event. -/
def isHook : Record → Bool
  | .startHook _ => true
  | .stopHook _ _ _ => true
  | _ => false

end Record

/-- The registry and what it acts on. -/
structure World where
  registry : Registry
  machine : Machine
  /-- The forwarders whose start still holds their listeners. -/
  starting : List Nat := []
  /-- The forwarders that were told to end. -/
  cancelled : List Nat := []
  tasks : List Task := []
  /-- Reports that nobody has looked at yet, the oldest first. -/
  reports : List Report := []
  journal : List Record := []
  /-- The targets whose watch stalls in forwarders to come. -/
  stalling : List Key := []

namespace World

/-- Adds to the journal. -/
def note (w : World) (r : Record) : World := { w with journal := w.journal ++ [r] }

/-! ## Starting -/

/-- Notes a new forwarder in the registry; its start now holds its listeners. -/
def register (w : World) (key : Key) (batch : List Tunnel) (stopHook : Bool) : World :=
  { w with
    registry := w.registry.insert key batch stopHook
    starting := w.registry.next :: w.starting }

/-- Listens for one tunnel of a forwarder. -/
def listen (w : World) (generation : Nat) (t : Tunnel) : Except IoError World :=
  (w.machine.listen (.tunnel generation t) t.address t.localPort).map fun machine =>
    { w with machine }

/-- The listener is for one of these tunnels of the forwarder. -/
def boundBy (generation : Nat) (bound : List Tunnel) : Owner → Bool
  | .tunnel g t => g == generation && bound.contains t
  | .foreign _ => false

/-- The start of a forwarder closes the listeners that it has opened. -/
def drop (w : World) (generation : Nat) (bound : List Tunnel) : World :=
  { w with machine := w.machine.close (boundBy generation bound) }

/-- The start of a forwarder says that it holds no listeners any more. -/
def release (w : World) (generation : Nat) : World :=
  { w with starting := w.starting.filter (· != generation) }

/-- The tasks of a forwarder that has become active: they carry the tunnels that were bound. -/
def newTasks (w : World) (v : View) (bound : List Tunnel) : List Task :=
  (Entry.roles bound).map fun role =>
    ⟨v.generation, v.key, role, role == .monitor && w.stalling.contains v.key, false⟩

/-- Makes a forwarder active, if it is still the one of its key: its tasks take over the listeners
of the tunnels that were bound. -/
def activate (w : World) (key : Key) (generation : Nat) (bound : List Tunnel) :
    Option (View × World) :=
  (w.registry.commit key generation bound).map fun (v, registry) =>
    (v, { w with
      registry
      tasks := w.tasks ++ w.newTasks v bound
      starting := w.starting.filter (· != generation) })

/-! ## Ending -/

/-- Removes the entries of some keys and tells their forwarders to end. -/
def remove (w : World) (p : Key → Bool) : List Entry × World :=
  let (removed, registry) := w.registry.take p
  (removed, { w with registry, cancelled := removed.map (·.generation) ++ w.cancelled })

/-- Removes a forwarder, if it is still the one of its key, and tells it to end. -/
def evict (w : World) (key : Key) (generation : Nat) : Option (Entry × World) :=
  (w.registry.evict key generation).map fun (e, registry) =>
    (e, { w with registry, cancelled := generation :: w.cancelled })

/-- Nothing of the forwarder goes on: its start is through and its tasks have ended. -/
def isQuiet (w : World) (generation : Nat) : Bool :=
  !w.starting.contains generation && w.tasks.all fun t => t.generation != generation

/-- Gives up the tasks of some forwarders. -/
def abort (w : World) (generations : List Nat) : World :=
  { w with tasks := w.tasks.map fun t =>
      if generations.contains t.generation then { t with aborted := true } else t }

/-! ## Tasks -/

/-- The listener of a task. -/
def heldBy (t : Task) (o : Owner) : Bool :=
  match t.role, o with
  | .tunnel tunnel, .tunnel g other => g == t.generation && other == tunnel
  | _, _ => false

/-- What is asked for when a connection to an endpoint arrives, by the tasks that hold the listener
there. -/
def dials (w : World) (address : String) (port : UInt16) : List (Key × UInt16) :=
  match w.machine.listener? address port with
  | some l => (w.tasks.filter (heldBy · l.owner)).filterMap Task.dial?
  | none => []

/-- A task ends; its listener is closed. -/
def endTask (w : World) (t : Task) : World :=
  { w with tasks := w.tasks.filter (· != t), machine := w.machine.close (heldBy t) }

/-- A task ends and leaves a report. -/
def failTask (w : World) (t : Task) (reason : String) : World :=
  { w.endTask t with reports := w.reports ++ [⟨t.generation, t.key, reason⟩] }

end World
end PortForward
