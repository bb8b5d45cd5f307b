/-
# The machine that listeners live on

Which addresses can be listened on, and which listeners exclude each other on one port. Port zero
takes any free port and never collides. Which addresses and interfaces a machine has, which ports it
keeps for the system, what names stand for and where connections go differ from machine to machine.

* `Platform` : what one machine has and another has not, whoever listens;
* `Machine.tryAll_eq` : to try a batch leaves no listener;
* `Machine.listen_inUse_iff` : an endpoint that programs may use is refused exactly when some
  listener excludes it.
-/
import PortForward.Error
import PortForward.Net.Zone

namespace PortForward

/-- Who listens: a tunnel of a forwarder, or another program, at the address that it gave. -/
inductive Owner where
  | tunnel (generation : Nat) (tunnel : Tunnel)
  | foreign (address : String)
deriving DecidableEq, Repr

/-- A listening socket. -/
structure Listener where
  address : Net.IpAddress
  port : UInt16
  owner : Owner
deriving DecidableEq, Repr

/-- A listener that excludes an endpoint. -/
def Listener.blocks (l : Listener) (address : Net.IpAddress) (port : UInt16) : Bool :=
  port != 0 && l.port == port && l.address.excludes address

/-- A connection to this endpoint arrives at the listener. -/
def Listener.accepts (l : Listener) (address : Net.IpAddress) (port : UInt16) : Bool :=
  port != 0 && l.port == port && l.address.covers address

/-- What a machine is like, whoever listens on it. A name stands for one address at most. -/
structure Platform where
  /-- The address belongs to the machine, or to a group that it can hear. -/
  assigns : Net.IpAddress → Bool
  /-- The port is kept for the system. -/
  reserves : UInt16 → Bool
  /-- There is an interface of this number. -/
  hasInterface : Nat → Bool
  /-- The address that a name stands for. -/
  lookUp : String → Except IoError Net.ScopedAddress
  /-- A connection to the address stays on the machine. -/
  reaches : Net.IpAddress → Bool
  /-- The name of the loopback address is known everywhere, in any letter case. -/
  lookUp_localhost : ∀ name, Text.sameLetters name.toList Net.localhostName = true →
    lookUp name = .ok ⟨.v4 .localhost, 0⟩

/-- A machine that has nothing, and knows no name but the one that is known everywhere. -/
instance : Inhabited Platform where
  default :=
    { assigns := fun _ => false
      reserves := fun _ => false
      hasInterface := fun _ => false
      lookUp := fun name =>
        if Text.sameLetters name.toList Net.localhostName then .ok ⟨.v4 .localhost, 0⟩
        else .error .unknownName
      reaches := fun _ => false
      lookUp_localhost := fun _ h => if_pos h }

namespace Platform

/-- The address that a text stands for: one written as such, or that of a name. An IPv4 address in
the form of IPv6 is taken for itself. -/
def resolve (p : Platform) (address : String) : Except IoError Net.ScopedAddress :=
  match Net.IpAddress.read? address.toList with
  | some x => .ok ⟨x.canonical, 0⟩
  | none => if address.toList.contains '\x00' then .error .nulInName else p.lookUp address

/-- What is wrong with the zone of an address: one that means something on one link only has to come
with an interface of the machine. -/
def zoneFault? (p : Platform) : Net.ScopedAddress → Option IoError
  | ⟨.v6 x, zone⟩ =>
    if !x.isLinkLocal then none
    else if zone = 0 then some .invalidArgument
    else if p.hasInterface zone then none
    else some .noSuchDevice
  | ⟨.v4 _, _⟩ => none

/-- Why no program may listen on an endpoint, whoever listens already. -/
def obstacle? (p : Platform) (x : Net.ScopedAddress) (port : UInt16) : Option IoError :=
  if x.address.isGroup then some .invalidArgument
  else if p.reserves port then some .permissionDenied
  else
    match p.zoneFault? x with
    | some cause => some cause
    | none => if p.assigns x.address then none else some .addressNotAvailable

/-- Where a connection to this address goes: a wildcard stands for the loopback address of its
family. -/
def target? (p : Platform) (address : String) : Option Net.IpAddress :=
  match p.resolve address with
  | .ok x =>
    some (if x.address = .v4 .wildcard then .v4 .localhost
      else if x.address = .v6 .wildcard then .v6 .localhost
      else x.address)
  | .error _ => none

end Platform

/-- A machine with its listeners. -/
structure Machine where
  platform : Platform
  listeners : List Listener := []
deriving Inhabited

namespace Machine

/-! ## Listening -/

/-- The text is an address and needs no look-up. -/
def isLiteral (address : String) : Bool := (Net.IpAddress.read? address.toList).isSome

/-- Some listener excludes the endpoint. -/
def inUse (m : Machine) (x : Net.IpAddress) (port : UInt16) : Bool :=
  m.listeners.any (·.blocks x port)

/-- The address to listen on, if the endpoint is free. -/
def probe (m : Machine) (address : String) (port : UInt16) : Except IoError Net.IpAddress :=
  match m.platform.resolve address with
  | .error cause => .error cause
  | .ok x =>
    match m.platform.obstacle? x port with
    | some cause => .error cause
    | none => if m.inUse x.address port then .error .addressInUse else .ok x.address

/-- Starts to listen. -/
def listen (m : Machine) (owner : Owner) (address : String) (port : UInt16) :
    Except IoError Machine :=
  (m.probe address port).map fun x => { m with listeners := m.listeners ++ [⟨x, port, owner⟩] }

/-- Another program listens on an endpoint, if it can. -/
def hold (m : Machine) (address : String) (port : UInt16) : Machine :=
  match m.listen (.foreign address) address port with
  | .ok m => m
  | .error _ => m

/-- Closes the listeners of some owners. -/
def close (m : Machine) (gone : Owner → Bool) : Machine :=
  { m with listeners := m.listeners.filter fun l => !gone l.owner }

/-- Closes the listener that was opened last. -/
def closeLast (m : Machine) : Machine := { m with listeners := m.listeners.dropLast }

/-- Listens for the tunnels of a batch one by one, and closes each listener before the next one. No
forwarder is of the generation that these have. -/
def tryAll (m : Machine) : List Tunnel → Machine × Except Error Unit
  | [] => (m, .ok ())
  | t :: ts =>
    match m.listen (.tunnel 0 t) t.address t.localPort with
    | .ok m => m.closeLast.tryAll ts
    | .error cause => (m, .error (.bind t cause))

/-- Each tunnel of a batch could be listened on, one at a time. -/
def available (m : Machine) (batch : List Tunnel) : Except Error Unit :=
  batch.forM fun t => (m.probe t.address t.localPort).mapError (.bind t) |>.map fun _ => ()

/-! ## Connecting -/

/-- The listener that a connection arrives at. -/
def listener? (m : Machine) (address : String) (port : UInt16) : Option Listener := do
  let x ← m.platform.target? address
  if m.platform.reaches x then m.listeners.find? (·.accepts x port) else none

/-! ## Laws -/

/-- An endpoint that programs may use is refused exactly when some listener excludes it. -/
theorem listen_inUse_iff {m : Machine} {owner : Owner} {address : String} {port : UInt16}
    {x : Net.ScopedAddress} (hx : m.platform.resolve address = .ok x)
    (ho : m.platform.obstacle? x port = none) :
    m.listen owner address port = .error .addressInUse ↔
      ∃ l ∈ m.listeners, l.blocks x.address port = true := by
  have huse : m.inUse x.address port = true ↔ ∃ l ∈ m.listeners, l.blocks x.address port = true :=
    List.any_eq_true
  rw [← huse]
  cases h : m.inUse x.address port with
  | true => simp [listen, probe, hx, ho, h, Except.map]
  | false => simp [listen, probe, hx, ho, h, Except.map]

/-- Another program adds a listener of its own, or changes nothing. -/
theorem hold_cases (m : Machine) (address : String) (port : UInt16) :
    m.hold address port = m ∨ ∃ x, m.probe address port = .ok x ∧
      m.hold address port = { m with listeners := m.listeners ++ [⟨x, port, .foreign address⟩] } := by
  unfold hold listen
  cases m.probe address port with
  | error cause => exact Or.inl rfl
  | ok x => exact Or.inr ⟨x, rfl, rfl⟩

theorem available_cons (m : Machine) (t : Tunnel) (ts : List Tunnel) :
    m.available (t :: ts) =
      match m.probe t.address t.localPort with
      | .ok _ => m.available ts
      | .error cause => .error (.bind t cause) := by
  show ((m.probe t.address t.localPort).mapError (Error.bind t) |>.map fun _ => ()) >>=
    (fun _ => m.available ts) = _
  cases m.probe t.address t.localPort <;> rfl

/-- To try a batch leaves no listener, and tells whether each tunnel could be listened on. -/
theorem tryAll_eq (m : Machine) (ts : List Tunnel) : m.tryAll ts = (m, m.available ts) := by
  induction ts with
  | nil => rfl
  | cons t ts ih =>
    rw [tryAll, available_cons, listen]
    cases m.probe t.address t.localPort with
    | error cause => rfl
    | ok x =>
      have hclosed : ({ m with listeners := m.listeners ++ [⟨x, t.localPort, .tunnel 0 t⟩] } :
          Machine).closeLast = m := by
        unfold closeLast
        dsimp only
        rw [List.dropLast_concat]
      simp only [Except.map]
      rw [hclosed]
      exact ih

/-- What listens on a port of an address keeps others from it. -/
theorem blocks_self (l : Listener) (h : l.port ≠ 0) : l.blocks l.address l.port = true := by
  simp [Listener.blocks, Net.IpAddress.excludes, h]

end Machine
end PortForward
