/-
# A fair schedule

Of all interleavings, the one in which every call goes on as far as it can before the next one does,
told tasks end at once, and time passes only when nothing else is left to do. Everything here is a
series of `System.step`s.

* `proceed` : one call, up to the point where it has to wait;
* `settle` : nothing is left to do: the targets that are gone have been noticed, all reports taken;
* `complete` : all calls that have begun come to their end.
-/
import PortForward.System

namespace PortForward.System

/-- A call cannot go on at once: it has to look up a name, it waits for something that goes on, or
it is over. -/
def isStuck (w : World) : Call → Bool
  | .binding _ _ (t :: _) => !Machine.isLiteral t.address
  | .waiting r => !r.entries.all fun e => w.isQuiet e.generation
  | .over _ => true
  | _ => false

/-- A call is about to look up a name. -/
def looksUp : Call → Bool
  | .binding _ _ (t :: _) => !Machine.isLiteral t.address
  | _ => false

/-- A call goes on, up to so many changes, until it is stuck. -/
def proceedFor (i : Nat) : Nat → System → System
  | 0, s => s
  | n + 1, s =>
    match s.calls[i]? with
    | some c => if isStuck s.world c then s else proceedFor i n (s.step (.advance i))
    | none => s

/-- A call goes on until it is stuck. -/
def proceed (s : System) (i : Nat) : System :=
  match s.calls[i]? with
  | some c => proceedFor i c.changesLeft s
  | none => s

/-- All tasks that were told to end and notice it do so. -/
def closeTasks (s : System) : System :=
  (s.world.tasks.filter fun t => !t.stalled && !t.aborted).foldl (fun s t => s.step (.close t)) s

/-- All tasks that were given up end. -/
def reapAborted (s : System) : System := s.world.tasks.foldl (fun s t => s.step (.die t)) s

/-- A call looks up the name that it needs and goes on. -/
def lookUp (s : System) (i : Nat) : System :=
  match s.calls[i]? with
  | some c => if looksUp c then (s.step (.advance i)).proceed i else s
  | none => s

/-- A call that waits for something waits no longer, and goes on. -/
def hurry (s : System) (i : Nat) : System :=
  match s.calls[i]? with
  | some (.waiting _) => (s.step (.giveUp i)).proceed i
  | _ => s

/-- The reaper goes on, up to so many changes, until it is stuck. -/
def reaperProceedsFor : Nat → System → System
  | 0, s => s
  | n + 1, s =>
    if isStuck s.world s.reaper then s else reaperProceedsFor n (s.step .advanceReaper)

/-- The reaper deals with the oldest report. -/
def reapOne (s : System) : System :=
  let s := (s.step .reap).closeTasks
  let s := reaperProceedsFor s.reaper.changesLeft s
  let s := s.step .reaperGivesUp
  reaperProceedsFor s.reaper.changesLeft s

/-- The reaper deals with so many reports. -/
def reapMany : Nat → System → System
  | 0, s => s
  | n + 1, s => reapMany n s.reapOne

/-- A watch notices that its target is gone. -/
def noticeOne (gone : List (Key × String)) (s : System) (t : Task) : System :=
  match gone.lookup t.key with
  | some reason => if t.role = .monitor ∧ !t.aborted then s.step (.fail t reason) else s
  | none => s

/-- The watch of every target that is gone notices it. -/
def noticeGone (s : System) (gone : List (Key × String)) : System :=
  s.world.tasks.foldl (noticeOne gone) s

/-- Nothing is left to do. -/
def settle (s : System) (gone : List (Key × String)) : System :=
  let s := s.noticeGone gone
  reapMany s.world.reports.length s

/-- Every call does one look-up if it needs one, and goes on as far as it can. -/
def round (s : System) (calls : List Nat) : System :=
  calls.foldl (fun s i => ((s.lookUp i).closeTasks).proceed i) s

/-- Some of the calls is about to look up a name. -/
def someLooksUp (s : System) (calls : List Nat) : Bool := calls.any fun i => (s.calls[i]?).any looksUp

/-- So many rounds. A look-up takes its time, in which all else settles. -/
def rounds (calls : List Nat) (gone : List (Key × String)) : Nat → System → System
  | 0, s => s
  | n + 1, s =>
    let s := if s.someLooksUp calls then s.settle gone else s
    rounds calls gone n (s.round calls)

/-- The changes that some calls may still make. -/
def changesLeft (s : System) (calls : List Nat) : Nat :=
  calls.foldl (fun n i => n + ((s.calls[i]?).map Call.changesLeft).getD 0) 0

/-- All calls that have begun come to their end. Stops that are impatient do not wait for
look-ups. -/
def complete (s : System) (calls : List Nat) (gone : List (Key × String)) (impatient : Bool) :
    System :=
  let s := calls.foldl proceed s.closeTasks
  let s := if impatient then calls.foldl hurry s else s
  let s := rounds calls gone (s.changesLeft calls) s
  calls.foldl hurry s

end PortForward.System
