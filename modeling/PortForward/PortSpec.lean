/-
# Declared ports

The TCP ports that a container declares, in the order of declaration. They are all that can be
forwarded; nothing here invents a port.
-/
import PortForward.Text.Decimal

namespace PortForward

/-- What is found by a feature is the first element that has it. -/
theorem find?_eq_some_iff {α β : Type} [BEq β] [LawfulBEq β] {f : α → β} {v : β} {xs : List α} {x : α} :
    (xs.find? fun u => f u == v) = some x ↔
      ∃ before after, xs = before ++ x :: after ∧ f x = v ∧ ∀ u ∈ before, f u ≠ v := by
  rw [List.find?_eq_some_iff_append]
  simp only [beq_iff_eq, Bool.not_eq_true', beq_eq_false_iff_ne]
  constructor
  · rintro ⟨hx, before, after, hxs, hbefore⟩
    exact ⟨before, after, hxs, hx, hbefore⟩
  · rintro ⟨before, after, hxs, hx, hbefore⟩
    exact ⟨hx, before, after, hxs, hbefore⟩

/-- One port that a container declares. -/
structure PortSpec where
  container : String
  name : Option String
  protocol : String
  port : UInt16
deriving DecidableEq, Repr, Inhabited

namespace PortSpec

/-- The only protocol that is forwarded. -/
def tcp : String := "TCP"

/-- What tells the port from the others in the remote field: its name, or else its container. -/
def label (s : PortSpec) : String := s.name.getD s.container

/-- How a declared port is listed. -/
def text (s : PortSpec) : String :=
  match s.name with
  | some name => s.container ++ "::" ++ name ++ ":" ++ toString s.port ++ "/" ++ s.protocol
  | none => s.container ++ "::" ++ toString s.port ++ "/" ++ s.protocol

/-- One line for each declared port. -/
def listing (specs : List PortSpec) : String :=
  String.join (specs.map fun s => "  " ++ s.text ++ "\n")

/-- The container that the declared ports belong to: all share one. -/
def container? (specs : List PortSpec) : Option String := specs.head?.map (·.container)

/-- The first declared port with this name. -/
def findName? (specs : List PortSpec) (name : String) : Option PortSpec :=
  specs.find? fun s => s.name == some name

/-- The first declared port with this number. -/
def findPort? (specs : List PortSpec) (port : UInt16) : Option PortSpec :=
  specs.find? fun s => s.port == port

/-- The first declared port with this name, or else with this number. -/
def lookup? (specs : List PortSpec) (want : String) : Option PortSpec :=
  match findName? specs want with
  | some s => some s
  | none => (Text.readPort? want.toList).bind (findPort? specs)

/-- What is found by number is declared and has the number. -/
theorem findPort?_eq_some {specs : List PortSpec} {port : UInt16} {s : PortSpec}
    (h : findPort? specs port = some s) : s ∈ specs ∧ s.port = port := by
  refine ⟨List.mem_of_find?_eq_some h, ?_⟩
  simpa using List.find?_some h

/-- What is found by name is declared and has the name. -/
theorem findName?_eq_some {specs : List PortSpec} {name : String} {s : PortSpec}
    (h : findName? specs name = some s) : s ∈ specs ∧ s.name = some name := by
  refine ⟨List.mem_of_find?_eq_some h, ?_⟩
  simpa using List.find?_some h

/-- What is looked up is declared. -/
theorem mem_of_lookup?_eq_some {specs : List PortSpec} {want : String} {s : PortSpec}
    (h : lookup? specs want = some s) : s ∈ specs := by
  rw [lookup?] at h
  split at h
  · next t ht =>
    cases h
    exact (findName?_eq_some ht).1
  · simp only [Option.bind_eq_some_iff] at h
    obtain ⟨p, _, hp⟩ := h
    exact (findPort?_eq_some hp).1

end PortSpec
end PortForward
