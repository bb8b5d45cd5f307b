/-
# What the check of the remote field guards

The remote field is read twice: once to hold it against what the container declares, and once for the
tunnels. The check cuts a label off the field by itself. Both agree on every text, so what passes the
check leads to declared ports only.

* `findPort?_eq_some_iff`, `label?_eq_some_iff` : the declared port that is looked at, and the label;
* `checkPort_eq_ok_iff` : what is asked of one port of the field;
* `checkRemote_guards` : what the check lets pass, and what follows for the tunnels.
-/
import PortForward.Proofs.LocalFill
import PortForward.Proofs.Suggestions

namespace PortForward.Fields

open Text (trim)

variable {specs : List PortSpec} {p : UInt16} {s : PortSpec} {remote label : List Char}

/-! ## The declared port and the label -/

/-- Of the declared ports, this is the first one with the number. -/
def IsFirst (specs : List PortSpec) (p : UInt16) (s : PortSpec) : Prop :=
  ∃ before after, specs = before ++ s :: after ∧ s.port = p ∧ ∀ u ∈ before, u.port ≠ p

/-- The remote field has the form `label::tail`, cut at its last `::`, with a label that is not a
number. -/
def HasLabel (remote label : List Char) : Prop :=
  ∃ head tail, remote = head ++ ':' :: ':' :: tail ∧ LastCut tail ∧ ¬ IsNumeral head ∧
    trim head = label

/-- The first declared port with a number is found. -/
theorem findPort?_eq_some_iff : PortSpec.findPort? specs p = some s ↔ IsFirst specs p s :=
  find?_eq_some_iff

/-- It is a declared port with the number. -/
theorem IsFirst.mem (h : IsFirst specs p s) : s ∈ specs ∧ s.port = p :=
  PortSpec.findPort?_eq_some (findPort?_eq_some_iff.mpr h)

/-- The label that the check cuts off is the one of the field. -/
theorem label?_eq_some_iff : label? remote = some label ↔ HasLabel remote label := by
  simp only [label?, Option.bind_eq_some_iff, Prod.exists, Text.cutLast_eq_some_iff,
    Option.ite_none_left_eq_some, allDigits_iff_isNumeral, Option.some.injEq, HasLabel, LastCut,
    and_assoc]

/-! ## The check -/

/-- A port of the field passes if it is declared and the label, if there is one, is the name or the
container of the first declared port with its number. -/
theorem checkPort_eq_ok_iff {label : Option String} :
    checkPort specs label p = .ok () ↔
      ∃ s, IsFirst specs p s ∧ ∀ l, label = some l → s.name = some l ∨ s.container = l := by
  simp only [← findPort?_eq_some_iff]
  rw [checkPort]
  cases PortSpec.findPort? specs p with
  | none => simp
  | some s =>
    cases label with
    | none => simp
    | some l => by_cases h : s.name = some l ∨ s.container = l <;> simp [h]

/-- The tunnels lead to the ports that are read from the remote field, whatever the other fields
are. -/
theorem remotePorts_of_tunnels {i : Input} {ts : List Tunnel} (h : tunnels i = .ok ts) :
    ∃ r, Remote.read (trim i.remote.toList) = .ok r ∧ ts.map (·.remotePort) = r.ports := by
  obtain ⟨r, locals, hr, -, hlength, hts⟩ := read_steps.mp (tunnels_eq_ok_iff.mp h)
  exact ⟨r, hr, ((zipWith_eq_iff hlength).mp hts).1⟩

/-- Whatever is invalid is of one kind. -/
theorem kind_of_mapError {α : Type} {check : Except Invalid α} {e : Error}
    (h : check.mapError .invalid = .error e) : e.kind = "validation" := by
  obtain ⟨cause, -, rfl⟩ := mapError_eq_error_iff.mp h
  rfl

/-- The check of the remote field lets pass exactly what is read as tunnels with an empty local field,
whatever the addresses are, with declared ports only; and if the field has a label, it is the name or
the container of the first declared port with the number. So whatever the local field says, tunnels
of a field that has passed lead to declared ports. All that does not pass is invalid input. -/
theorem checkRemote_guards (remote : String) (specs : List PortSpec)
    (address defaultAddress : String) :
    (checkRemote remote specs = .ok () ↔
      ∃ ts, tunnels ⟨address, remote, "", defaultAddress⟩ = .ok ts ∧ ∀ t ∈ ts,
        ∃ s, IsFirst specs t.remotePort s ∧ ∀ label, HasLabel (trim remote.toList) label →
          s.name = some (String.ofList label) ∨ s.container = String.ofList label) ∧
    (checkRemote remote specs = .ok () → ∀ localText ts,
      tunnels ⟨address, remote, localText, defaultAddress⟩ = .ok ts →
        ∀ t ∈ ts, ∃ s ∈ specs, s.port = t.remotePort) ∧
    ∀ e, checkRemote remote specs = .error e → e.kind = "validation" := by
  have hcheck : checkRemote remote specs = .ok () ↔
      ∃ r, Remote.read (trim remote.toList) = .ok r ∧ ∀ p ∈ r.ports,
        ∃ s, IsFirst specs p s ∧ ∀ label, HasLabel (trim remote.toList) label →
          s.name = some (String.ofList label) ∨ s.container = String.ofList label := by
    rw [Preference.checkRemote_eq_ok_iff]
    simp only [checkPort_eq_ok_iff, Preference.labelOf, Option.map_eq_some_iff, label?_eq_some_iff,
      forall_exists_index, and_imp, forall_apply_eq_imp_iff₂]
  refine ⟨?_, ?_, ?_⟩
  · rw [hcheck]
    constructor
    · rintro ⟨r, hr, hports⟩
      obtain ⟨ts, hts, -⟩ := read_of_ok address remote defaultAddress hr
      have htunnels := tunnels_eq_ok_iff.mpr hts
      obtain ⟨r', hr', hremotes⟩ := remotePorts_of_tunnels htunnels
      obtain rfl : r = r' := Except.ok.inj (hr.symm.trans hr')
      refine ⟨ts, htunnels, fun t ht => hports t.remotePort ?_⟩
      rw [← hremotes]
      exact List.mem_map_of_mem ht
    · rintro ⟨ts, hts, hall⟩
      obtain ⟨r, hr, hremotes⟩ := remotePorts_of_tunnels hts
      refine ⟨r, hr, fun p hp => ?_⟩
      rw [← hremotes] at hp
      obtain ⟨t, ht, rfl⟩ := List.mem_map.mp hp
      exact hall t ht
  · intro hpass localText ts hts t ht
    obtain ⟨r, hr, hports⟩ := hcheck.mp hpass
    obtain ⟨r', hr', hremotes⟩ := remotePorts_of_tunnels hts
    obtain rfl : r = r' := Except.ok.inj (hr.symm.trans hr')
    have hp : t.remotePort ∈ r.ports := by
      rw [← hremotes]
      exact List.mem_map_of_mem ht
    obtain ⟨s, hfirst, -⟩ := hports t.remotePort hp
    exact ⟨s, hfirst.mem⟩
  · exact fun e he => kind_of_mapError he

/-- The label is what stands before the last `::`, and it is held against the first port of a number
only. -/
example :
    let specs : List PortSpec := [⟨"c", some "a:b", "TCP", 80⟩, ⟨"c", some "web", "TCP", 80⟩]
    checkRemote " a:b :: 80" specs = .ok () ∧
      checkRemote "web::80" specs = .error (.invalid (.misnamed 80 "web")) ∧
      checkRemote "web::80::8080" specs = .error (.invalid (.undeclared 8080)) := by decide

end PortForward.Fields
