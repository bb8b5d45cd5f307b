/-
# What the suggested fields are read as

The suggestion that fills the dialog stands for a list of pairs of a container port and a local one. It
is written in three forms: a port, a port behind its label, and lists of ports. Read again, each form
gives the pairs in their order, also where the label holds blanks or colons.

* `intended` : the pairs that a suggestion stands for;
* `read_label` : a port behind a label is read as this port, unless the label is blank, a number, or
  holds a comma;
* `read_descriptor` : so is a single port, with a label or without;
* `suggestion_reads_back` : the suggested fields are read as the pairs that are intended.
-/
import PortForward.Proofs.RemoteChecks

namespace PortForward.Preference

open Text (trim)

variable {specs : List PortSpec} {drafts : List Draft} {draft : Draft} {p : UInt16}

/-! ## What is intended -/

/-- The preferred ports, or else the first declared one with its own number as the local port. -/
def intended (drafts : List Draft) (specs : List PortSpec) : List Draft :=
  if drafts = [] then (specs.take 1).map fun s => ⟨s, none⟩ else drafts

/-- The container port and the local port, if one is given, are in the range of ports: from 1 to
65535. -/
structure InRange (draft : Draft) : Prop where
  remote : draft.remote.port ≠ 0
  given : ∀ p ∈ draft.localPort, p ≠ 0

/-- A label that can stand before a port: without the blanks around it, it holds no comma and is not
all digits. So it is not blank either. -/
structure IsLabel (label : String) : Prop where
  comma : ',' ∉ trim label.toList
  letter : ¬ Fields.IsNumeral label.toList

theorem InRange.localOrRemote (h : InRange draft) : draft.localOrRemote ≠ 0 := by
  rw [Draft.localOrRemote]
  cases hgiven : draft.localPort with
  | none => exact h.remote
  | some p => exact h.given p hgiven

theorem IsLabel.nonblank {label : String} (h : IsLabel label) : trim label.toList ≠ [] := by
  intro hblank
  apply h.letter
  intro c hc
  rw [hblank] at hc
  cases hc

/-- The local field lists the local ports that are intended. -/
theorem suggestion_snd (hne : intended drafts specs ≠ []) :
    (suggestion drafts specs).2 =
      String.ofList (portList ((intended drafts specs).map (·.localOrRemote))) := by
  match drafts, specs with
  | [], [] => exact absurd rfl hne
  | [], _ :: _ => rfl
  | [_], _ => rfl
  | _ :: _ :: _, _ => rfl

/-- The remote field of a single pair is its container port, perhaps behind a label. -/
theorem suggestion_fst_single (h : intended drafts specs = [draft]) :
    (suggestion drafts specs).1 = String.ofList (descriptor draft.remote specs.length) := by
  match drafts, specs with
  | [], [] => cases h
  | [], _ :: _ =>
    cases h
    rfl
  | [_], _ =>
    cases h
    rfl
  | _ :: _ :: _, _ => cases h

/-- The remote field of several pairs lists their container ports. -/
theorem suggestion_fst_several (h : 1 < (intended drafts specs).length) :
    (suggestion drafts specs).1 =
      String.ofList (portList ((intended drafts specs).map (·.remote.port))) := by
  match drafts, specs with
  | [], [] => cases h
  | [], _ :: _ => exact absurd h (Nat.lt_irrefl 1)
  | [_], _ => exact absurd h (Nat.lt_irrefl 1)
  | _ :: _ :: _, _ => rfl

/-! ## Reading it back -/

/-- A port behind a label is read as this port. The blanks before the label fall off before the field
is cut, and those behind it after that. -/
theorem read_label {label : String} (h : IsLabel label) (hp : p ≠ 0) :
    Fields.Remote.read (trim (label.toList ++ "::".toList ++ Text.portText p)) = .ok ⟨[p], none⟩ := by
  have hcolons : label.toList ++ "::".toList ++ Text.portText p =
      label.toList ++ ':' :: ':' :: Text.portText p := by simp
  have hend : ∀ c, (':' :: ':' :: Text.portText p).getLast? = some c → Text.isBlank c = false := by
    intro c hc
    rcases List.mem_of_getLast? hc with _ | ⟨_, _ | ⟨_, hc⟩⟩
    · decide
    · decide
    · exact (nameChars_portText p c hc).not_blank
  rw [hcolons, Text.trim_append h.nonblank (List.cons_ne_nil _ _) hend]
  have htrim := Text.trim_trimStart label.toList
  refine (read_labelled (htrim ▸ h.nonblank) (htrim ▸ h.comma) hp).mpr (Or.inr ⟨?_, rfl⟩)
  rw [htrim, Fields.allDigits_iff_isNumeral]
  exact h.letter

/-- So is a single port in the form in which it is suggested. -/
theorem read_descriptor {s : PortSpec} {declared : Nat} (hs : s.port ≠ 0)
    (hlabel : 1 < declared → IsLabel s.label) :
    Fields.Remote.read (trim (descriptor s declared)) = .ok ⟨[s.port], none⟩ := by
  rw [descriptor]
  split
  · rename_i hseveral
    exact read_label (hlabel hseveral) hs
  · have hbare : Text.portText s.port = portList [s.port] := rfl
    rw [hbare, trim_portList]
    exact read_portList (List.cons_ne_nil _ _) (by simpa using hs)

/-- The remote field of a suggestion is read as the container ports that are intended. -/
theorem read_suggestion (hne : intended drafts specs ≠ [])
    (hports : ∀ draft ∈ intended drafts specs, draft.remote.port ≠ 0)
    (hlabel : ∀ draft, intended drafts specs = [draft] → 1 < specs.length →
      IsLabel draft.remote.label) :
    Fields.Remote.read (trim (suggestion drafts specs).1.toList) =
      .ok ⟨(intended drafts specs).map (·.remote.port), none⟩ := by
  rcases Nat.lt_or_ge 1 (intended drafts specs).length with hseveral | hsingle
  · rw [suggestion_fst_several hseveral, String.toList_ofList, trim_portList]
    refine read_portList (List.map_eq_nil_iff.not.mpr hne) fun p hp => ?_
    obtain ⟨draft, hdraft, rfl⟩ := List.mem_map.mp hp
    exact hports draft hdraft
  · have hlength : (intended drafts specs).length = 1 :=
      Nat.le_antisymm hsingle (List.length_pos_iff.mpr hne)
    obtain ⟨draft, hdraft⟩ := List.length_eq_one_iff.mp hlength
    rw [suggestion_fst_single hdraft, String.toList_ofList]
    rw [hdraft] at hports ⊢
    exact read_descriptor (hports draft (List.mem_singleton_self draft)) (hlabel draft hdraft)

/-- The suggested fields are read as the pairs that are intended: one tunnel for each, in order, from
its local port to its container port, at the address that is given or else at the default one. For a
single pair among several declared ports, this takes a label that is not blank, not a number, and has
no comma. Where nothing is preferred and nothing declared, the suggested fields are empty, and refused
as invalid. -/
theorem suggestion_reads_back (drafts : List Draft) (specs : List PortSpec)
    (address defaultAddress : String)
    (hrange : ∀ draft ∈ intended drafts specs, InRange draft)
    (hlabel : ∀ draft, intended drafts specs = [draft] → 1 < specs.length →
      IsLabel draft.remote.label) :
    let fields : Fields.Input :=
      ⟨address, (suggestion drafts specs).1, (suggestion drafts specs).2, defaultAddress⟩
    (intended drafts specs ≠ [] → Fields.tunnels fields =
      .ok ((intended drafts specs).map fun draft =>
        ⟨if trim address.toList = [] then defaultAddress else Text.trimmed address,
          draft.localOrRemote, draft.remote.port⟩)) ∧
    (drafts = [] → specs = [] → suggestion drafts specs = ("", "") ∧
      ∃ e, Fields.tunnels fields = .error e ∧ e.kind = "validation") := by
  intro fields
  refine ⟨fun hne => ?_, ?_⟩
  · have hread := read_suggestion hne (fun draft hdraft => (hrange draft hdraft).remote) hlabel
    have hlocals : Fields.localPorts (trim fields.remote.toList)
        ⟨(intended drafts specs).map (·.remote.port), none⟩ (trim fields.localPorts.toList) =
          .ok ((intended drafts specs).map (·.localOrRemote)) := by
      show Fields.localPorts _ _ (trim (suggestion drafts specs).2.toList) = _
      rw [suggestion_snd hne, String.toList_ofList, trim_portList]
      refine localPorts_portList (List.map_eq_nil_iff.not.mpr hne) fun p hp => ?_
      obtain ⟨draft, hdraft, rfl⟩ := List.mem_map.mp hp
      exact (hrange draft hdraft).localOrRemote
    refine Fields.tunnels_eq_ok_iff.mpr (Fields.read_steps.mpr ⟨_, _, hread, hlocals, ?_, ?_⟩)
    · rw [List.length_map, List.length_map]
    · rw [List.zipWith_map]
      exact List.zipWith_self
  · rintro rfl rfl
    exact ⟨rfl, _, rfl, rfl⟩

/-- A label with blanks and colons stands before the second of two ports. -/
def colonPorts : List PortSpec := [⟨"web", some "http", "TCP", 80⟩, ⟨"web", some " a::b: ", "TCP", 9000⟩]

/-- The second of them is preferred, with a local port of its own. -/
def colonDrafts : List Draft := [⟨⟨"web", some " a::b: ", "TCP", 9000⟩, some 9443⟩]

/-- Its label is cut off at the last `::`, whatever stands in it. -/
theorem colonLabel_reads_back :
    (∀ draft ∈ intended colonDrafts colonPorts, InRange draft) ∧
    (∀ draft, intended colonDrafts colonPorts = [draft] → 1 < colonPorts.length →
      IsLabel draft.remote.label) ∧
    suggestion colonDrafts colonPorts = (" a::b: ::9000", "9443") ∧
    Fields.tunnels ⟨" ", " a::b: ::9000", "9443", "localhost"⟩ = .ok [⟨"localhost", 9443, 9000⟩] := by
  have hrange : ∀ draft ∈ intended colonDrafts colonPorts, InRange draft := by
    intro draft hdraft
    rw [List.mem_singleton.mp hdraft]
    refine ⟨by decide, ?_⟩
    rintro p ⟨⟩
    decide
  have hlabel : ∀ draft, intended colonDrafts colonPorts = [draft] → 1 < colonPorts.length →
      IsLabel draft.remote.label := by
    intro draft hdraft _
    obtain rfl := List.singleton_inj.mp hdraft
    exact ⟨by decide, fun hdigits => absurd (hdigits 'a' (by decide)) (by decide)⟩
  have hpairs := (suggestion_reads_back colonDrafts colonPorts " " "localhost" hrange hlabel).1
    (by decide)
  exact ⟨hrange, hlabel, by decide, hpairs⟩

end PortForward.Preference
