/-
# Calls in flight

A call to the registry makes one change after the other, and other calls may come in between.
`request` is its first change; `advance` makes the next one. A call that cannot go on stays as it
is.

* a start binds its tunnels one by one, then makes the forwarder active, calls the hook and sends
  the event; if a tunnel cannot be bound, or the forwarder was removed meanwhile, it closes the
  listeners that it has opened, then says so, and takes the forwarder back if it is still there;
* a stop removes forwarders, waits until nothing of them goes on, and then, for one after the
  other, calls the hook and sends the event.
-/
import PortForward.World

namespace PortForward

/-- What a call answers if it succeeds. -/
inductive Reply where
  | done
  | view (view : View)
  | found (view : Option View)
  | views (views : List View)
  | flag (value : Bool)
  | count (n : Nat)
deriving DecidableEq, Repr

/-- The answer of a call. -/
abbrev Answer := Except Error Reply

/-- What may be asked of the registry that changes it. -/
inductive Request where
  | start (key : Key) (batch : List Tunnel) (startHook stopHook : Bool)
  | stop (key : Key)
  | stopPath (path : String)
  | stopAll
deriving DecidableEq, Repr

/-- A start that was admitted. -/
structure Start where
  generation : Nat
  key : Key
  startHook : Bool
deriving DecidableEq, Repr

/-- Why a start goes no further. -/
inductive Setback where
  /-- A tunnel could not be bound. -/
  | refused (tunnel : Tunnel) (cause : IoError)
  /-- The forwarder was removed while its tunnels were bound. -/
  | overtaken
deriving DecidableEq, Repr

/-- The changes of a start that goes no further, once it has said that its listeners are closed. -/
def Setback.changesLeft : Setback → Nat
  | .refused _ _ => 4
  | .overtaken => 0

/-- Removed forwarders, why they were removed if not on request, and the answer when all is over. -/
structure Removal where
  entries : List Entry
  cause : Option Error
  answer : Answer

/-- A call, by what it does next. -/
inductive Call where
  /-- Has bound some tunnels, binds those that are left, and then makes the forwarder active. -/
  | binding (start : Start) (bound left : List Tunnel)
  /-- Closes the listeners of the tunnels that it has bound. -/
  | dropping (start : Start) (bound : List Tunnel) (setback : Setback)
  /-- Says that its listeners are closed. -/
  | releasing (start : Start) (setback : Setback)
  /-- Removes the forwarder, as a tunnel could not be bound. -/
  | unbound (start : Start) (tunnel : Tunnel) (cause : IoError)
  /-- Calls the hook of a forwarder that has become active. -/
  | activated (view : View) (startHook : Bool)
  /-- Sends the event of a forwarder that has become active. -/
  | announcing (view : View)
  /-- Waits until nothing of the removed forwarders goes on. -/
  | waiting (removal : Removal)
  /-- Calls the hook of the first removed forwarder. -/
  | ending (removal : Removal)
  /-- Sends the event of the first removed forwarder. -/
  | reporting (removal : Removal)
  | over (answer : Answer)

/-- The event that a removed forwarder ends with. -/
def Entry.lastRecord (e : Entry) : Option Error → Record
  | none => .stopped e.generation e.key
  | some cause => .failed e.failedView cause

namespace Call

/-- The answer, once the call is over. -/
def answer? : Call → Option Answer
  | .over answer => some answer
  | _ => none

/-- Stops wait only for something that was removed. -/
def ofRemoval (r : Removal) : Call := if r.entries = [] then .over r.answer else .waiting r

/-- The first change of a call. -/
def request (w : World) : Request → World × Call
  | .start key batch startHook stopHook =>
    match w.registry.admission key batch with
    | .ok _ => (w.register key batch stopHook, .binding ⟨w.registry.next, key, startHook⟩ [] batch)
    | .error e => (w, .over (.error e))
  | .stop key =>
    let (removed, w) := w.remove (· == key)
    if removed = [] then (w, .over (.error (.notFound key)))
    else (w, .waiting ⟨removed, none, .ok .done⟩)
  | .stopPath path =>
    let (removed, w) := w.remove (·.path == path)
    (w, ofRemoval ⟨removed, none, .ok (.count removed.length)⟩)
  | .stopAll =>
    let (removed, w) := w.remove fun _ => true
    (w, ofRemoval ⟨removed, none, .ok .done⟩)

/-- Takes the oldest report. Only a forwarder that is still the one of its key is removed for it. -/
def ofReport (w : World) (r : Report) : World × Call :=
  match w.evict r.key r.generation with
  | some (e, w) => (w, .waiting ⟨[e], some (.terminated r.key r.reason), .ok .done⟩)
  | none => (w, .over (.ok .done))

/-- The next change of a call. -/
def advance (w : World) : Call → World × Call
  | .binding s bound (t :: left) =>
    match w.listen s.generation t with
    | .ok w => (w, .binding s (bound ++ [t]) left)
    | .error cause => (w, .dropping s bound (.refused t cause))
  | .binding s bound [] =>
    match w.activate s.key s.generation bound with
    | some (v, w) => (w, .activated v s.startHook)
    | none => (w, .dropping s bound .overtaken)
  -- who stops the forwarder waits for this start, so its listeners are closed before it says so
  | .dropping s bound setback => (w.drop s.generation bound, .releasing s setback)
  | .releasing s (.refused t cause) => (w.release s.generation, .unbound s t cause)
  | .releasing s .overtaken => (w.release s.generation, .over (.error (.cancelled s.key)))
  | .unbound s t cause =>
    match w.evict s.key s.generation with
    | some (e, w) => (w, .ending ⟨[e], some (.bind t cause), .error (.bind t cause)⟩)
    | none => (w, .over (.error (.bind t cause)))
  | .activated v startHook => (if startHook then w.note (.startHook v) else w, .announcing v)
  | .announcing v => (w.note (.started v), .over (.ok (.view v)))
  | .waiting r =>
    (w, if r.entries.all fun e => w.isQuiet e.generation then .ending r else .waiting r)
  | .ending r =>
    match r.entries with
    | [] => (w, .over r.answer)
    | e :: _ =>
      (if e.stopHook then w.note (.stopHook e.generation e.key r.cause) else w, .reporting r)
  | .reporting r =>
    match r.entries with
    | [] => (w, .over r.answer)
    | e :: es => (w.note (e.lastRecord r.cause), .ending { r with entries := es })
  | .over answer => (w, .over answer)

/-- A call that has waited long enough gives up the tasks that it waited for. -/
def giveUp (w : World) : Call → World × Call
  | .waiting r => (w.abort (r.entries.map (·.generation)), .ending r)
  | c => (w, c)

/-- No call makes more changes than this, waiting aside. -/
def changesLeft : Call → Nat
  | .binding _ _ left => left.length + 6
  | .dropping _ _ setback => setback.changesLeft + 2
  | .releasing _ setback => setback.changesLeft + 1
  | .unbound _ _ _ => 4
  | .activated _ _ => 2
  | .announcing _ => 1
  | .waiting r => 2 * r.entries.length + 2
  | .ending r => 2 * r.entries.length + 1
  | .reporting r => 2 * r.entries.length
  | .over _ => 0

end Call
end PortForward
