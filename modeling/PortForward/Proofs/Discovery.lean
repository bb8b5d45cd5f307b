/-
# Which ports a container is forwarded at

A pod lists its containers, the ports that each of them declares, and statuses of containers. Names
may come back in these lists, and then the first one counts; any part may be missing. A container
is forwarded if it is declared and runs, and then at all its TCP ports, in the order of declaration.

* `FirstNamed` : which container and which status a name stands for;
* `ContainerPort.IsForwardable`, `ContainerPort.ForwardedAs` : which declared ports are kept, and as what;
* `ContainerPort.spec?_eq_some_iff_forwardedAs`, `ContainerPort.spec?_eq_none_iff` : one declared port;
* `Container.specs_eq_iff` : all ports of a container, in order and with repetitions;
* `Pod.Barred`, `Pod.forwardable_eq_error_iff` : what stands against it, the first of three;
* `Pod.ports_discovered` : when a container is forwarded, at which ports, and why else not.
-/
import Mathlib.Data.List.Forall2
import PortForward.Pod.Document

namespace PortForward

/-! ## Names -/

/-- The first element of a list that has the name. -/
def FirstNamed {α : Type} (name : α → String) (xs : List α) (want : String) (x : α) : Prop :=
  ∃ before after, xs = before ++ x :: after ∧ name x = want ∧ ∀ u ∈ before, name u ≠ want

variable {name : String}

theorem Container.find?_eq_some_iff {cs : List Container} {c : Container} :
    find? name cs = some c ↔ FirstNamed Container.name cs name c :=
  PortForward.find?_eq_some_iff

theorem ContainerStatus.find?_eq_some_iff {ss : List ContainerStatus} {s : ContainerStatus} :
    ss.find? (·.name == name) = some s ↔ FirstNamed ContainerStatus.name ss name s :=
  PortForward.find?_eq_some_iff

theorem ContainerStatus.find?_eq_none_iff {ss : List ContainerStatus} :
    ss.find? (·.name == name) = none ↔ ∀ s ∈ ss, s.name ≠ name := by
  simp only [List.find?_eq_none, beq_iff_eq, ne_eq]

/-! ## Declared ports -/

/-- The text is `TCP`, in letters of either case. -/
def IsTcp (protocol : String) : Prop :=
  ∃ t c p, protocol.toList = [t, c, p] ∧ (t = 'T' ∨ t = 't') ∧ (c = 'C' ∨ c = 'c') ∧
    (p = 'P' ∨ p = 'p')

theorem sameLetters_tcp_iff {protocol : String} :
    Text.sameLetters protocol.toList PortSpec.tcp.toList = true ↔ IsTcp protocol := by
  have ht {c : Char} : c.toLower = 't' ↔ c = 'T' ∨ c = 't' :=
    Text.toLower_eq_toLower_iff (d := 'T') rfl
  have hc {c : Char} : c.toLower = 'c' ↔ c = 'C' ∨ c = 'c' :=
    Text.toLower_eq_toLower_iff (d := 'C') rfl
  have hp {c : Char} : c.toLower = 'p' ↔ c = 'P' ∨ c = 'p' :=
    Text.toLower_eq_toLower_iff (d := 'P') rfl
  have hlowered : Text.lowered PortSpec.tcp.toList = ['t', 'c', 'p'] := by decide
  rw [Text.sameLetters_iff, hlowered, IsTcp]
  generalize protocol.toList = letters
  match letters with
  | [] | [_] | [_, _] | _ :: _ :: _ :: _ :: _ => simp [Text.lowered]
  | [t, c, p] =>
    simp only [Text.lowered, List.map_cons, List.map_nil, List.cons.injEq, and_true, ht, hc, hp]
    constructor
    · intro h
      exact ⟨t, c, p, ⟨rfl, rfl, rfl⟩, h⟩
    · rintro ⟨_, _, _, ⟨rfl, rfl, rfl⟩, h⟩
      exact h

namespace ContainerPort

variable {p : ContainerPort} {s : PortSpec}

/-- A port that can be forwarded: its protocol is TCP if it has one, and its number is one of a
port. -/
structure IsForwardable (p : ContainerPort) : Prop where
  tcp : ∀ protocol, p.protocol = some protocol → IsTcp protocol
  pos : 1 ≤ p.number
  le : p.number ≤ 65535

/-- What a port of a container is forwarded as: with its own name, and its own number to the last
digit. -/
structure ForwardedAs (container : String) (p : ContainerPort) (s : PortSpec) : Prop where
  container : s.container = container
  protocol : s.protocol = "TCP"
  name : s.name = p.name
  number : (s.port.toNat : Int) = p.number

/-- Without a protocol, a port is one of TCP. -/
theorem sameLetters_getD_iff :
    Text.sameLetters (p.protocol.getD PortSpec.tcp).toList PortSpec.tcp.toList = true ↔
      ∀ protocol, p.protocol = some protocol → IsTcp protocol := by
  cases p.protocol with
  | none => simp
  | some protocol => simp [← sameLetters_tcp_iff]

/-- The test of one port. -/
theorem isForwardable_iff :
    p.IsForwardable ↔
      Text.sameLetters (p.protocol.getD PortSpec.tcp).toList PortSpec.tcp.toList = true ∧
        0 < p.number ∧ p.number < 65536 := by
  rw [sameLetters_getD_iff]
  constructor
  · rintro ⟨htcp, hpos, hle⟩
    exact ⟨htcp, by omega, by omega⟩
  · rintro ⟨htcp, hpos, hlt⟩
    exact ⟨htcp, by omega, by omega⟩

instance : DecidablePred IsForwardable := fun _ => decidable_of_iff _ isForwardable_iff.symm

/-- A port is kept if it can be forwarded, as what it is declared. -/
theorem spec?_eq_some_iff_forwardedAs :
    p.spec? name = some s ↔ p.IsForwardable ∧ ForwardedAs name p s := by
  rw [spec?_eq_some_iff, sameLetters_getD_iff]
  constructor
  · rintro ⟨htcp, hport, hnumber, hcontainer, hname, hprotocol⟩
    have hpos : s.port.toNat ≠ 0 := fun hzero => hport (UInt16.toNat_inj.mp hzero)
    have hlt := s.port.toNat_lt
    exact ⟨⟨htcp, by omega, by omega⟩, hcontainer, hprotocol, hname, hnumber.symm⟩
  · rintro ⟨⟨htcp, hpos, -⟩, hcontainer, hprotocol, hname, hnumber⟩
    refine ⟨htcp, ?_, hnumber.symm, hcontainer, hname, hprotocol⟩
    intro hzero
    rw [hzero, UInt16.toNat_zero] at hnumber
    omega

/-- A port that cannot be forwarded is dropped. -/
theorem spec?_eq_none_iff : p.spec? name = none ↔ ¬ p.IsForwardable := by
  rw [spec?, isForwardable_iff, ite_eq_right_iff]
  simp only [reduceCtorEq, imp_false]

end ContainerPort

/-- The ports of a container are kept in the order of declaration, each as often as it is declared. -/
theorem Container.specs_eq_iff {c : Container} {specs : List PortSpec} :
    c.specs = specs ↔
      List.Forall₂ (ContainerPort.ForwardedAs c.name) (c.ports.filter (·.IsForwardable)) specs := by
  rw [Container.specs]
  induction c.ports generalizing specs with
  | nil => simp [eq_comm]
  | cons p ports ih =>
    by_cases hp : p.IsForwardable
    · obtain ⟨s, hs⟩ := Option.ne_none_iff_exists'.mp fun hnone =>
        ContainerPort.spec?_eq_none_iff.mp hnone hp
      rw [List.filterMap_cons_some hs, List.filter_cons_of_pos (by simpa using hp),
        List.forall₂_cons_left_iff]
      constructor
      · rintro rfl
        exact ⟨s, _, (ContainerPort.spec?_eq_some_iff_forwardedAs.mp hs).2, ih.mp rfl, rfl⟩
      · rintro ⟨t, kept, ht, hkept, rfl⟩
        -- what a port is forwarded as is determined
        have ht := ContainerPort.spec?_eq_some_iff_forwardedAs.mpr ⟨hp, ht⟩
        rw [ih.mpr hkept, Option.some.inj (hs.symm.trans ht)]
    · rw [List.filterMap_cons_none (ContainerPort.spec?_eq_none_iff.mpr hp),
        List.filter_cons_of_neg (by simpa using hp)]
      exact ih

/-! ## Guards -/

theorem Container.locate_eq_error_iff {cs : List Container} {e : Error} :
    locate name cs = .error e ↔
      (∀ c ∈ cs, c.name ≠ name) ∧ e = .unavailable (.noContainer name) := by
  simp only [locate, ← beq_eq_false_iff_ne, ← List.findIdx?_eq_none_iff]
  cases cs.findIdx? fun c => c.name == name with
  | none => simp [eq_comm]
  | some i => simp

namespace ContainerStatus

variable {s : ContainerStatus} {ss : List ContainerStatus}

/-- The status says that its container runs, whatever else it says. -/
def Runs (s : ContainerStatus) : Prop := ∃ state, s.state = some state ∧ state.running = true

theorem check_eq_error_iff {e : Error} :
    check name ss = .error e ↔
      ((∀ s ∈ ss, s.name ≠ name) ∧ e = .unavailable (.noStatus name)) ∨
        ∃ s, FirstNamed ContainerStatus.name ss name s ∧ ¬ s.Runs ∧
          e = .unavailable (.notRunning name (ContainerState.phase s.state)) := by
  simp only [← find?_eq_some_iff, ← find?_eq_none_iff, Runs, ← ContainerState.phase_eq_running_iff]
  rw [check]
  cases ss.find? fun s => s.name == name with
  | none => simp [eq_comm]
  | some s => cases hphase : ContainerState.phase s.state <;> simp [hphase, eq_comm]

end ContainerStatus

/-! ## Pods -/

namespace Pod

variable {pod : Pod} {e : Error}

/-- Why a container cannot be forwarded: the pod has none of this name, or else no status for it, or
else the first status for it does not say that it runs. -/
inductive Barred (pod : Pod) (name : String) : Unavailable → Prop
  | undeclared (h : ∀ c ∈ pod.containers, c.name ≠ name) : Barred pod name (.noContainer name)
  | unreported (hc : ∃ c ∈ pod.containers, c.name = name) (h : ∀ s ∈ pod.statuses, s.name ≠ name) :
      Barred pod name (.noStatus name)
  | idle {s : ContainerStatus} (hc : ∃ c ∈ pod.containers, c.name = name)
      (hs : FirstNamed ContainerStatus.name pod.statuses name s) (h : ¬ s.Runs) :
      Barred pod name (.notRunning name (ContainerState.phase s.state))

theorem forwardable_eq_error_iff :
    pod.forwardable name = .error e ↔ ∃ cause, pod.Barred name cause ∧ e = .unavailable cause := by
  have hlocated : (∃ i, Container.locate name pod.containers = .ok i) ↔
      ∃ c ∈ pod.containers, c.name = name := by
    rw [Container.locate_eq_ok_iff, Container.exists_find?]
  simp only [forwardable, bind_eq_error_iff, Container.locate_eq_error_iff,
    ContainerStatus.check_eq_error_iff]
  constructor
  · rintro (⟨hnone, rfl⟩ | ⟨i, hi, (⟨hnone, rfl⟩ | ⟨s, hs, hruns, rfl⟩) | ⟨_, _, hpure⟩⟩)
    · exact ⟨_, .undeclared hnone, rfl⟩
    · exact ⟨_, .unreported (hlocated.mp ⟨i, hi⟩) hnone, rfl⟩
    · exact ⟨_, .idle (hlocated.mp ⟨i, hi⟩) hs hruns, rfl⟩
    · cases hpure
  · rintro ⟨_, hnone | ⟨hc, hnone⟩ | ⟨hc, hs, hruns⟩, rfl⟩
    · exact Or.inl ⟨hnone, rfl⟩
    · obtain ⟨i, hi⟩ := hlocated.mpr hc
      exact Or.inr ⟨i, hi, Or.inl (Or.inl ⟨hnone, rfl⟩)⟩
    · obtain ⟨i, hi⟩ := hlocated.mpr hc
      exact Or.inr ⟨i, hi, Or.inl (Or.inr ⟨_, hs, hruns, rfl⟩)⟩

/-- A container can be forwarded exactly if the pod has one of this name and the first status of this
name says that it runs. What it is forwarded at are the ports of the first container of this name
that are of TCP and in range, in the order of declaration and each as often as it is declared, under
their own names and numbers. Otherwise the workload is at fault, and the error says why: no
container, or else no status, or else a state that is not running. -/
theorem ports_discovered (pod : Pod) (name : String) :
    ((∃ specs, pod.forwardable name = .ok specs) ↔ (∃ c ∈ pod.containers, c.name = name) ∧
      ∃ s, FirstNamed ContainerStatus.name pod.statuses name s ∧ s.Runs) ∧
    (∀ specs, pod.forwardable name = .ok specs → ∃ c,
      FirstNamed Container.name pod.containers name c ∧
        List.Forall₂ (ContainerPort.ForwardedAs name) (c.ports.filter (·.IsForwardable)) specs) ∧
    (∀ e, pod.forwardable name = .error e ↔
      ∃ cause, pod.Barred name cause ∧ e = .unavailable cause) ∧
    ∀ e, pod.forwardable name = .error e → e.kind = "workload" := by
  have hok : ∀ specs, pod.forwardable name = .ok specs ↔
      ∃ c, FirstNamed Container.name pod.containers name c ∧
        (∃ s, FirstNamed ContainerStatus.name pod.statuses name s ∧ s.Runs) ∧ c.specs = specs := by
    intro specs
    simp only [forwardable_eq_ok_iff, Container.find?_eq_some_iff,
      ContainerStatus.find?_eq_some_iff, ContainerState.phase_eq_running_iff, ContainerStatus.Runs]
  refine ⟨?_, ?_, fun e => forwardable_eq_error_iff, ?_⟩
  · simp only [hok, ← Container.exists_find?, Container.find?_eq_some_iff]
    constructor
    · rintro ⟨_, c, hc, hs, -⟩
      exact ⟨⟨c, hc⟩, hs⟩
    · rintro ⟨⟨c, hc⟩, hs⟩
      exact ⟨_, c, hc, hs, rfl⟩
  · intro specs h
    obtain ⟨c, hc, -, hspecs⟩ := (hok specs).mp h
    refine ⟨c, hc, ?_⟩
    obtain ⟨-, -, -, rfl, -⟩ := hc
    exact Container.specs_eq_iff.mp hspecs
  · intro e h
    obtain ⟨cause, -, rfl⟩ := forwardable_eq_error_iff.mp h
    rfl

/-- Ports keep their order and come back, the second container of a name does not count, and a port
out of range is not cut off to one in range. -/
example :
    let ports : List ContainerPort :=
      [⟨9000, none, some "tcp"⟩, ⟨53, some "dns", some "UDP"⟩, ⟨80, some "http", none⟩,
        ⟨65616, none, none⟩, ⟨0, none, none⟩, ⟨9000, none, some "tcp"⟩]
    let pod : Pod :=
      { containers := [⟨"web", ports⟩, ⟨"web", [⟨443, none, none⟩]⟩]
        statuses := [⟨"web", some { running := true }⟩, ⟨"web", none⟩] }
    pod.forwardable "web" = .ok [⟨"web", none, "TCP", 9000⟩, ⟨"web", some "http", "TCP", 80⟩,
      ⟨"web", none, "TCP", 9000⟩] := by decide

/-- In a document any part may be missing: the containers, the statuses, the state and the ports. -/
example :
    let web : Json := .object [("name", .string "web")]
    let spec : Json := .object [("containers", .array [web])]
    let status (state : List (String × Json)) : Json :=
      .object [("containerStatuses", .array [.object (("name", .string "web") :: state)])]
    let running : Json := .object [("running", .object [])]
    let ports (pod : List (String × Json)) := (Pod.ofJson (.object pod)).forwardable "web"
    ports [] = .error (.unavailable (.noContainer "web")) ∧
      ports [("spec", spec)] = .error (.unavailable (.noStatus "web")) ∧
      ports [("spec", spec), ("status", status [])] =
        .error (.unavailable (.notRunning "web" .unknown)) ∧
      ports [("spec", spec), ("status", status [("state", running)])] = .ok [] := by decide

end Pod
end PortForward
