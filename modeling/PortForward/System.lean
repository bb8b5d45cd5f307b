/-
# Calls side by side

Any number of calls are in flight at once, a reaper looks at the reports of tasks one by one, and
tasks end when they are told to or on their own. An action is one change by one of them; a run is
any list of actions, so what holds after every action holds under every interleaving.
-/
import PortForward.World.Call

namespace PortForward

/-- The world, the calls in flight, and what the reaper is busy with. -/
structure System where
  world : World
  calls : List Call := []
  reaper : Call := .over (.ok .done)

/-- One change. -/
inductive Action where
  /-- A new call makes its first change. -/
  | request (request : Request)
  /-- A call makes its next change. -/
  | advance (call : Nat)
  /-- A call waits no longer. -/
  | giveUp (call : Nat)
  /-- The reaper takes the oldest report. -/
  | reap
  /-- The reaper makes its next change. -/
  | advanceReaper
  /-- The reaper waits no longer. -/
  | reaperGivesUp
  /-- A task ends that was told to. -/
  | close (task : Task)
  /-- A task ends on its own. -/
  | fail (task : Task) (reason : String)
  /-- A task ends that was given up. -/
  | die (task : Task)
  /-- Another program listens somewhere. -/
  | hold (address : String) (port : UInt16)
  /-- Another program listens no longer. -/
  | letGo (address : String) (port : UInt16)
  /-- The watch of a target stalls from now on in new forwarders, or no longer. -/
  | stall (key : Key) (on : Bool)

namespace System

/-- Another program has this listener. -/
def isForeign (address : String) (port : UInt16) (l : Listener) : Bool :=
  l.owner == .foreign address && l.port == port

/-- Changes one call. -/
def withCall (s : System) (i : Nat) (change : World → Call → World × Call) : System :=
  match s.calls[i]? with
  | some c =>
    let (world, c) := change s.world c
    { s with world, calls := s.calls.set i c }
  | none => s

/-- Changes the call of the reaper. -/
def withReaper (s : System) (change : World → Call → World × Call) : System :=
  let (world, reaper) := change s.world s.reaper
  { s with world, reaper }

/-- Changes the world. -/
def withWorld (s : System) (change : World → World) : System := { s with world := change s.world }

/-- Makes one change. An action that cannot happen now changes nothing. -/
def step (s : System) : Action → System
  | .request r =>
    let (world, c) := Call.request s.world r
    { s with world, calls := s.calls ++ [c] }
  | .advance i => s.withCall i Call.advance
  | .giveUp i => s.withCall i Call.giveUp
  | .reap =>
    match s.reaper, s.world.reports with
    | .over _, r :: reports => s.withReaper fun w _ => Call.ofReport { w with reports } r
    | _, _ => s
  | .advanceReaper => s.withReaper Call.advance
  | .reaperGivesUp => s.withReaper Call.giveUp
  | .close t =>
    if s.world.tasks.contains t && s.world.cancelled.contains t.generation
    then s.withWorld (·.endTask t)
    else s
  | .fail t reason => if s.world.tasks.contains t then s.withWorld (·.failTask t reason) else s
  | .die t =>
    if s.world.tasks.contains t && t.aborted then s.withWorld (·.failTask t Report.unexpected) else s
  | .hold address port =>
    s.withWorld fun w => { w with machine := w.machine.hold address port }
  | .letGo address port =>
    s.withWorld fun w =>
      { w with machine :=
        { w.machine with listeners := w.machine.listeners.filter fun l => !isForeign address port l } }
  | .stall key on =>
    s.withWorld fun w =>
      let others := w.stalling.filter (· != key)
      { w with stalling := if on then key :: others else others }

/-- Makes one change after the other. -/
def run (s : System) (actions : List Action) : System := actions.foldl step s

/-- A system in which nothing has happened yet. -/
def initial (limit : Nat) (platform : Platform) : System :=
  { world := { registry := { limit }, machine := { platform } } }

/-- What can come about by any interleaving. -/
def Reachable (s : System) : Prop :=
  ∃ limit platform actions, s = (initial limit platform).run actions

theorem run_append (s : System) (as bs : List Action) : s.run (as ++ bs) = (s.run as).run bs :=
  List.foldl_append

/-- What holds at the start and is kept by every change holds of all that can come about. -/
theorem Reachable.induction {P : System → Prop} (start : ∀ limit platform, P (initial limit platform))
    (keep : ∀ s a, P s → P (s.step a)) {s : System} (h : s.Reachable) : P s := by
  obtain ⟨limit, platform, actions, rfl⟩ := h
  have run_keeps : ∀ actions s, P s → P (s.run actions) := by
    intro actions
    induction actions with
    | nil => exact fun s hs => hs
    | cons a as ih => exact fun s hs => ih (s.step a) (keep s a hs)
  exact run_keeps actions _ (start limit platform)

end System
end PortForward
