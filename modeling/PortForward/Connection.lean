/-
# Connections

A client's connection waits until the accept loop of a tunnel takes it. The tunnel then dials the
container port, once for each connection, and carries bytes both ways until both sides have ended,
something breaks, or the tunnel is told to end.

* `Stage.next` : what one occurrence makes of a connection;
* `Stage.after` : what several do, one after the other.
-/
import PortForward.Tunnel

namespace PortForward

/-- From the client to the container, or back. -/
inductive Way where
  | up
  | down
deriving DecidableEq, Repr

/-- What was carried one way. -/
structure Stream where
  bytes : Nat := 0
  /-- The side that sends has ended its stream. -/
  ended : Bool := false
deriving DecidableEq, Repr

/-- Carries some more bytes, unless the stream has ended. -/
def Stream.carry (s : Stream) (bytes : Nat) : Stream :=
  if s.ended then s else { s with bytes := s.bytes + bytes }

/-- Both streams of a connection. -/
structure Flow where
  up : Stream := {}
  down : Stream := {}
deriving DecidableEq, Repr

/-- Changes one of the streams. -/
def Flow.change (f : Flow) (way : Way) (g : Stream → Stream) : Flow :=
  match way with
  | .up => { f with up := g f.up }
  | .down => { f with down := g f.down }

/-- How a connection ended. -/
inductive Ending where
  /-- The container port could not be dialled. -/
  | unreachable
  /-- Both sides have ended, after so many bytes each way. -/
  | closed (up down : Nat)
  /-- Reading or writing failed, as when the client resets the connection. -/
  | broken
  /-- Its tunnel was told to end. -/
  | withdrawn
deriving DecidableEq, Repr

/-- How far a connection is. -/
inductive Stage where
  /-- It has not been accepted yet. -/
  | queued
  | dialling
  | flowing (flow : Flow)
  | finished (ending : Ending)
deriving DecidableEq, Repr

/-- What happens to an accepted connection. -/
inductive Occurrence where
  /-- The container port is reached, or it is not. -/
  | dialled (reached : Bool)
  | carried (way : Way) (bytes : Nat)
  /-- One side ends its stream; the other may go on. -/
  | ended (way : Way)
  | broken
deriving DecidableEq, Repr

namespace Stage

/-- The connection carries bytes. -/
def isFlowing : Stage → Bool
  | .flowing _ => true
  | _ => false

def isFinished : Stage → Bool
  | .finished _ => true
  | _ => false

/-- Goes on as long as one side has not ended. -/
def ofFlow (f : Flow) : Stage :=
  if f.up.ended && f.down.ended then .finished (.closed f.up.bytes f.down.bytes) else .flowing f

/-- What an occurrence makes of a connection. What cannot happen to it now changes nothing. -/
def next : Stage → Occurrence → Stage
  | .dialling, .dialled true => .flowing {}
  | .dialling, .dialled false => .finished .unreachable
  | .flowing f, .carried way bytes => .flowing (f.change way (·.carry bytes))
  | .flowing f, .ended way => ofFlow (f.change way ({ · with ended := true }))
  | .flowing _, .broken => .finished .broken
  | s, _ => s

/-- What becomes of a connection to which all this happens. -/
def after (s : Stage) (os : List Occurrence) : Stage := os.foldl next s

/-- What is finished stays so. -/
@[simp] theorem after_finished (ending : Ending) (os : List Occurrence) :
    (finished ending).after os = finished ending := by
  induction os with
  | nil => rfl
  | cons o os ih => exact ih

/-- Nothing that happens puts an accepted connection back into the queue. -/
theorem next_ne_queued {s : Stage} (h : s ≠ .queued) (o : Occurrence) : s.next o ≠ .queued := by
  cases s with
  | queued => exact absurd rfl h
  | dialling => cases o with
    | dialled reached => cases reached <;> exact nofun
    | _ => exact nofun
  | flowing f => cases o with
    | ended way =>
      show ofFlow _ ≠ _
      rw [ofFlow]
      split <;> exact nofun
    | _ => exact nofun
  | finished ending => cases o <;> exact nofun

/-- Nor does anything that happens one after the other. -/
theorem after_ne_queued {s : Stage} (h : s ≠ .queued) (os : List Occurrence) :
    s.after os ≠ .queued := by
  induction os generalizing s with
  | nil => exact h
  | cons o os ih => exact ih (next_ne_queued h o)

theorem after_append (s : Stage) (os ps : List Occurrence) :
    s.after (os ++ ps) = (s.after os).after ps := List.foldl_append

end Stage

/-- A client's connection to a tunnel. -/
structure Connection where
  generation : Nat
  tunnel : Tunnel
  stage : Stage := .queued
  /-- The accept loop has taken note of its end. -/
  noted : Bool := false
deriving DecidableEq, Repr

end PortForward
