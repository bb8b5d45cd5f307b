/-
# Pods and their containers

The part of a pod that forwarding looks at: the declared ports of its containers, their states,
and the annotations. A container can be forwarded while it runs, and then exactly at its declared
TCP ports.

* `Pod.forwardable_eq_ok_iff` : when a container can be forwarded, and at which ports.
-/
import PortForward.Error
import PortForward.PortSpec
import PortForward.Text.Ascii

namespace PortForward

/-! ## Annotations -/

/-- Text values under text keys, each key once. -/
structure Annotations where
  entries : List (String × String)
deriving DecidableEq, Repr, Inhabited

namespace Annotations

/-- The value under a key. -/
def get? (a : Annotations) (key : String) : Option String := a.entries.lookup key

/-- Puts a value under a key, in place of an older one. -/
def insert (a : Annotations) (key value : String) : Annotations :=
  ⟨(key, value) :: a.entries.filter fun e => e.1 != key⟩

/-- The annotations of a list of pairs; of two pairs with one key the later counts. -/
def ofList (pairs : List (String × String)) : Annotations :=
  pairs.foldl (fun a p => a.insert p.1 p.2) ⟨[]⟩

@[simp] theorem get?_insert_self (a : Annotations) (key value : String) :
    (a.insert key value).get? key = some value := by simp [get?, insert]

end Annotations

/-! ## Containers -/

/-- A port as a container declares it, not yet known to be a TCP port in range. -/
structure ContainerPort where
  number : Int
  name : Option String := none
  protocol : Option String := none
deriving DecidableEq, Repr, Inhabited

/-- A container with the ports that it declares. -/
structure Container where
  name : String
  ports : List ContainerPort := []
deriving DecidableEq, Repr, Inhabited

/-- Which of the three states a status reports. -/
structure ContainerState where
  running : Bool := false
  waiting : Bool := false
  terminated : Bool := false
deriving DecidableEq, Repr, Inhabited

/-- What a pod reports about one of its containers. -/
structure ContainerStatus where
  name : String
  state : Option ContainerState := none
deriving DecidableEq, Repr, Inhabited

/-- The phase that a state stands for: the first of the three that it reports. -/
def ContainerState.phase : Option ContainerState → Phase
  | none => .unknown
  | some s =>
    if s.running then .running
    else if s.waiting then .waiting
    else if s.terminated then .terminated
    else .unknown

/-- Only a state that says so stands for running. -/
theorem ContainerState.phase_eq_running_iff {state : Option ContainerState} :
    phase state = .running ↔ ∃ s, state = some s ∧ s.running = true := by
  cases state with
  | none => simp [phase]
  | some s =>
    simp only [phase, Option.some.injEq, exists_eq_left']
    cases s.running with
    | true => simp
    | false =>
      -- no other state is taken for running
      cases s.waiting <;> cases s.terminated <;> simp

namespace ContainerPort

/-- The declared port, if it is a TCP port in range. -/
def spec? (container : String) (p : ContainerPort) : Option PortSpec :=
  if Text.sameLetters (p.protocol.getD PortSpec.tcp).toList PortSpec.tcp.toList ∧
      0 < p.number ∧ p.number < 65536 then
    some ⟨container, p.name, PortSpec.tcp, UInt16.ofNat p.number.toNat⟩
  else none

/-- A port is kept under its own number, which is not cut off, and its own name. -/
theorem spec?_eq_some_iff {container : String} {p : ContainerPort} {s : PortSpec} :
    p.spec? container = some s ↔
      Text.sameLetters (p.protocol.getD PortSpec.tcp).toList PortSpec.tcp.toList ∧ s.port ≠ 0 ∧
        p.number = s.port.toNat ∧ s.container = container ∧ s.name = p.name ∧
        s.protocol = PortSpec.tcp := by
  rw [spec?, Option.ite_none_right_eq_some, Option.some.injEq]
  constructor
  · rintro ⟨⟨hprotocol, hpos, hlt⟩, rfl⟩
    have hnumber : (UInt16.ofNat p.number.toNat).toNat = p.number.toNat :=
      UInt16.toNat_ofNat_of_lt' (by simp only [UInt16.size]; omega)
    refine ⟨hprotocol, fun hzero => ?_, ?_, rfl, rfl, rfl⟩
    · rw [show UInt16.ofNat p.number.toNat = 0 from hzero, UInt16.toNat_zero] at hnumber
      omega
    · dsimp only
      rw [hnumber]
      omega
  · rintro ⟨hprotocol, hport, hnumber, hcontainer, hname, htcp⟩
    have hbound := s.port.toNat_lt
    have hpos : s.port.toNat ≠ 0 := fun hzero => hport (UInt16.toNat_inj.mp hzero)
    refine ⟨⟨hprotocol, by omega, by omega⟩, ?_⟩
    rw [hnumber, Int.toNat_natCast, UInt16.ofNat_toNat, ← hcontainer, ← hname, ← htcp]

end ContainerPort

namespace Container

/-- The declared TCP ports in range, under the given container name. -/
def specs (c : Container) : List PortSpec := c.ports.filterMap (·.spec? c.name)

theorem mem_specs {c : Container} {s : PortSpec} (hs : s ∈ c.specs) :
    s.container = c.name ∧ s.protocol = PortSpec.tcp ∧ s.port ≠ 0 := by
  obtain ⟨p, -, hp⟩ := List.mem_filterMap.mp hs
  obtain ⟨-, hport, -, hcontainer, -, hprotocol⟩ := ContainerPort.spec?_eq_some_iff.mp hp
  exact ⟨hcontainer, hprotocol, hport⟩

/-- The first container of this name. -/
def find? (name : String) (cs : List Container) : Option Container :=
  List.find? (fun c => c.name == name) cs

/-- A name has a first container if it has one at all. -/
theorem exists_find? {name : String} {cs : List Container} :
    (∃ c, find? name cs = some c) ↔ ∃ c ∈ cs, c.name = name := by
  rw [← Option.isSome_iff_exists, find?, List.find?_isSome]
  simp only [beq_iff_eq]

/-- The position of the first container of this name. -/
def locate (name : String) (cs : List Container) : Except Error Nat :=
  match cs.findIdx? fun c => c.name == name with
  | some i => .ok i
  | none => .error (.unavailable (.noContainer name))

/-- A container has a position exactly if it is there. -/
theorem locate_eq_ok_iff {name : String} {cs : List Container} :
    (∃ i, locate name cs = .ok i) ↔ ∃ c, find? name cs = some c := by
  have hsome : (cs.findIdx? fun c => c.name == name).isSome = (find? name cs).isSome := by
    rw [find?, List.findIdx?_isSome, List.isSome_find?]
  rw [← Option.isSome_iff_exists, ← hsome, locate]
  cases cs.findIdx? fun c => c.name == name <;> simp

/-- The declared ports of the first container of this name; an unknown container has none. -/
def resolve (name : String) (cs : List Container) : List PortSpec :=
  match find? name cs with
  | some c => c.specs
  | none => []

/-- They are TCP ports of this container. -/
theorem mem_resolve {name : String} {cs : List Container} {s : PortSpec}
    (hs : s ∈ resolve name cs) : s.container = name ∧ s.protocol = PortSpec.tcp ∧ s.port ≠ 0 := by
  rw [resolve] at hs
  cases hfind : find? name cs with
  | none =>
    rw [hfind] at hs
    cases hs
  | some c =>
    rw [hfind] at hs
    have hname : c.name = name := by simpa using List.find?_some hfind
    rw [← hname]
    exact mem_specs hs

end Container

/-- A container is judged by its first status: it has to run. -/
def ContainerStatus.check (name : String) (ss : List ContainerStatus) : Except Error Unit :=
  match ss.find? fun s => s.name == name with
  | none => .error (.unavailable (.noStatus name))
  | some s =>
    match ContainerState.phase s.state with
    | .running => .ok ()
    | phase => .error (.unavailable (.notRunning name phase))

theorem ContainerStatus.check_eq_ok_iff {name : String} {ss : List ContainerStatus} :
    check name ss = .ok () ↔
      ∃ s, ss.find? (·.name == name) = some s ∧ ContainerState.phase s.state = .running := by
  rw [check]
  cases ss.find? fun s => s.name == name with
  | none => simp
  | some s => cases hphase : ContainerState.phase s.state <;> simp [hphase]

/-! ## Pods -/

/-- What the API server knows about a pod. -/
structure Pod where
  name : Option String := none
  ns : Option String := none
  annotations : Annotations := ⟨[]⟩
  containers : List Container := []
  statuses : List ContainerStatus := []
deriving DecidableEq, Repr, Inhabited

namespace Pod

/-- The declared ports of a container that is there and runs. -/
def forwardable (p : Pod) (container : String) : Except Error (List PortSpec) := do
  let _ ← Container.locate container p.containers
  ContainerStatus.check container p.statuses
  return Container.resolve container p.containers

/-- A container can be forwarded if it is there and its first status says that it runs, and then at
the ports that it declares. -/
theorem forwardable_eq_ok_iff {p : Pod} {container : String} {specs : List PortSpec} :
    p.forwardable container = .ok specs ↔
      ∃ c, Container.find? container p.containers = some c ∧
        (∃ s, p.statuses.find? (·.name == container) = some s ∧
          ContainerState.phase s.state = .running) ∧ c.specs = specs := by
  have hlocate : (∃ i, Container.locate container p.containers = .ok i) ↔
      ∃ c, Container.find? container p.containers = some c := Container.locate_eq_ok_iff
  simp only [forwardable, bind_eq_ok_iff, pure_eq_ok_iff]
  constructor
  · rintro ⟨i, hi, u, hcheck, rfl⟩
    obtain ⟨c, hc⟩ := hlocate.mp ⟨i, hi⟩
    exact ⟨c, hc, ContainerStatus.check_eq_ok_iff.mp hcheck, by rw [Container.resolve, hc]⟩
  · rintro ⟨c, hc, hstatus, rfl⟩
    obtain ⟨i, hi⟩ := hlocate.mpr ⟨c, hc⟩
    exact ⟨i, hi, (), ContainerStatus.check_eq_ok_iff.mpr hstatus, by rw [Container.resolve, hc]⟩

/-- The namespace and the name in a pod path; a bare name is in the default namespace. -/
def splitPath (path defaultNs : String) : String × String :=
  match Text.cutAt '/' path.toList with
  | some (ns, name) => (String.ofList ns, String.ofList name)
  | none => (defaultNs, path)

end Pod
end PortForward
