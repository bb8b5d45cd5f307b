/-
# Clients and accept loops

The registry at work together with the connections that clients make. Each tunnel has a task with an
accept loop, and the loop has its turn again and again. It looks first whether it was told to end,
then for a connection to accept, and then for one that has finished. A connection goes on by itself as
long as the task of its tunnel is there.

* `turn`, `take` : what an accept loop does in its turn;
* `step`, `run` : what happens, one event after the other;
* `isOpen` : whether a connection carries bytes.
-/
import PortForward.Connection
import PortForward.System

namespace PortForward

/-- The reason of a tunnel that cannot accept a connection. -/
def Tunnel.acceptFailure (t : Tunnel) (cause : String) : String :=
  "accept on " ++ t.text ++ " failed: " ++ cause

/-- The connection is for the tunnel of this task. -/
def Connection.isFor (c : Connection) (u : Task) : Bool :=
  World.heldBy u (.tunnel c.generation c.tunnel)

/-- An accept loop ends on its own. -/
def Action.failsLoop : Action → Bool
  | .fail u _ => u.role != .monitor
  | _ => false

/-- What an accept loop does in its turn. -/
inductive Turn where
  /-- It ends, as it was told to. -/
  | close
  /-- It ends, as it cannot accept connections. -/
  | fail (cause : String)
  | accept (connection : Nat)
  /-- It takes note that a connection has finished. -/
  | note (connection : Nat)
  | rest
deriving DecidableEq, Repr

/-- What may happen. -/
inductive Event where
  /-- Something changes that is no connection. -/
  | act (action : Action)
  /-- A client connects to an endpoint. -/
  | arrive (address : String) (port : UInt16)
  /-- An accept loop has its turn; its accept call may fail. -/
  | turn (task : Task) (failure : Option String)
  /-- Something happens to a connection. -/
  | occur (connection : Nat) (occurrence : Occurrence)
  /-- A connection ends, as its tunnel was told to. -/
  | withdraw (connection : Nat)

/-- The registry at work and all connections that have arrived. -/
structure Traffic where
  system : System
  connections : List Connection := []

namespace Traffic

/-! ## Connections -/

/-- The task of its tunnel is there. -/
def serves (tr : Traffic) (c : Connection) : Bool := tr.system.world.tasks.any c.isFor

/-- The forwarder was told to end. -/
def isTold (tr : Traffic) (generation : Nat) : Bool :=
  tr.system.world.cancelled.contains generation

/-- The connection carries bytes. -/
def isOpen (tr : Traffic) (i : Nat) : Bool :=
  (tr.connections[i]?).any fun c => c.stage.isFlowing && tr.serves c

/-- Changes one connection. -/
def withConnection (tr : Traffic) (i : Nat) (change : Connection → Connection) : Traffic :=
  { tr with connections := tr.connections.modify i change }

/-- Makes one change to the registry and what it acts on. -/
def act (tr : Traffic) (a : Action) : Traffic := { tr with system := tr.system.step a }

/-- Something happens to a connection, if its tunnel is there. -/
def occur (tr : Traffic) (o : Occurrence) (c : Connection) : Connection :=
  if tr.serves c then { c with stage := c.stage.next o } else c

/-- A connection that carries bytes ends, if its tunnel was told to. -/
def withdraw (tr : Traffic) (c : Connection) : Connection :=
  if tr.serves c && tr.isTold c.generation && c.stage.isFlowing
  then { c with stage := .finished .withdrawn }
  else c

/-! ## Accept loops -/

/-- What the accept loop of a task does next. -/
def turn (tr : Traffic) (u : Task) (failure : Option String) : Turn :=
  if tr.isTold u.generation then .close
  else
    match failure with
    | some cause => .fail cause
    | none =>
      match tr.connections.findIdx? fun c => c.isFor u && c.stage == .queued with
      | some i => .accept i
      | none =>
        match tr.connections.findIdx? fun c => c.isFor u && c.stage.isFinished && !c.noted with
        | some i => .note i
        | none => .rest

/-- The accept loop of a tunnel does this. -/
def take (tr : Traffic) (u : Task) (t : Tunnel) : Turn → Traffic
  | .close => tr.act (.close u)
  | .fail cause => tr.act (.fail u (t.acceptFailure cause))
  | .accept i => tr.withConnection i ({ · with stage := .dialling })
  | .note i => tr.withConnection i ({ · with noted := true })
  | .rest => tr

/-! ## Events -/

/-- A connection waits to be accepted, if a tunnel listens at the endpoint. -/
def arrive (tr : Traffic) (address : String) (port : UInt16) : Traffic :=
  match (tr.system.world.machine.listener? address port).map Listener.owner with
  | some (.tunnel g t) =>
    { tr with connections := tr.connections ++ [{ generation := g, tunnel := t }] }
  | _ => tr

/-- One thing happens. What cannot happen now changes nothing; an accept loop ends on its own only
in its turn. -/
def step (tr : Traffic) : Event → Traffic
  | .act a => if a.failsLoop then tr else tr.act a
  | .arrive address port => tr.arrive address port
  | .turn u failure =>
    match u.role with
    | .tunnel t =>
      if tr.system.world.tasks.contains u then tr.take u t (tr.turn u failure) else tr
    | .monitor => tr
  | .occur i o => tr.withConnection i (tr.occur o)
  | .withdraw i => tr.withConnection i tr.withdraw

/-- One thing happens after the other. -/
def run (tr : Traffic) (es : List Event) : Traffic := es.foldl step tr

/-- Nothing has happened yet. -/
def initial (limit : Nat) (platform : Platform) : Traffic := { system := .initial limit platform }

/-- What can come about by any events in any order. -/
def Reachable (tr : Traffic) : Prop := ∃ limit platform es, tr = (initial limit platform).run es

theorem run_append (tr : Traffic) (es fs : List Event) :
    tr.run (es ++ fs) = (tr.run es).run fs := List.foldl_append

end Traffic
end PortForward
