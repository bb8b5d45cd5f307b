/-
# Scripts

A registry in use over time: one deed after the other, by callers, by targets, by other programs and
by clients. Everything settles before the next deed.
-/
import PortForward.Scenario

namespace PortForward

/-- The request that an operation makes of the registry; nothing if it makes none. -/
def Operation.request? : Operation → Option Request
  | .start key batch hooks => some (.start key batch hooks.onStart hooks.onStop)
  | .startFields key fields hooks =>
    match Fields.tunnels fields with
    | .ok batch => some (.start key batch hooks.onStart hooks.onStop)
    | .error _ => none
  | .stop key => some (.stop key)
  | .stopPath path => some (.stopPath path)
  | .stopAll => some .stopAll
  | _ => none

/-- What is done in one step of a script. -/
inductive Deed where
  /-- A caller performs an operation. -/
  | perform (operation : Operation)
  /-- A target goes away for good, or is there again. -/
  | doom (key : Key) (reason : String)
  | undoom (key : Key)
  /-- A container port refuses connections from now on, or takes them again. -/
  | refuse (port : UInt16)
  | accept (port : UInt16)
  /-- Another program listens, or listens no longer. -/
  | hold (address : String) (port : UInt16)
  | letGo (address : String) (port : UInt16)
  /-- The watch of a target stalls in new forwarders, or no longer. -/
  | stall (key : Key)
  | unstall (key : Key)
  /-- Time passes. -/
  | wait
  /-- A client connects, or ends its connection. -/
  | connect (id : String) (address : String) (port : UInt16)
  | disconnect (id : String)
  /-- A connection arrives while nothing can be accepted. -/
  | exhaust (address : String) (port : UInt16) (cause : String)

/-- The request that is made of the registry in one step. -/
def Deed.request? : Deed → Option Request
  | .perform o => o.request?
  | _ => none

namespace Scenario

/-- One step of a script. -/
def act (sc : Scenario) : Deed → Scenario
  | .perform o => (sc.performOne o).1
  | .doom key reason => sc.doom key reason
  | .undoom key => (sc.undoom key).1
  | .refuse port => (sc.refuse port).1
  | .accept port => (sc.accept port).1
  | .hold address port => (sc.hold address port).1
  | .letGo address port => (sc.letGo address port).1
  | .stall key => (sc.stall key).1
  | .unstall key => (sc.unstall key).1
  | .wait => sc.settled
  | .connect id address port => (sc.connect id address port).1
  | .disconnect id => (sc.disconnect id).1
  | .exhaust address port cause => (sc.exhaust address port cause).1

/-- One step after the other. -/
def play (sc : Scenario) (deeds : List Deed) : Scenario := deeds.foldl act sc

/-- A registry that nobody has used yet. -/
def unused (limit : Nat) (platform : Platform) (stopTimeout : Nat) (parallel : Bool) : Scenario where
  system := .initial limit platform
  stopTimeout := stopTimeout
  parallel := parallel

theorem play_append (sc : Scenario) (ds es : List Deed) :
    sc.play (ds ++ es) = (sc.play ds).play es := List.foldl_append

end Scenario
end PortForward
