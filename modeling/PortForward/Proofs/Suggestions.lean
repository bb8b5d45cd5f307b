/-
# The suggestion and the reader of the fields

The dialog starts with a suggestion: the preferred ports, or else the first declared one. A run
without options takes it as it is. So what is suggested should be accepted, and mean the ports that
were suggested.

* `accepted_iff` : what the two checks of the fields ask for, for local ports that are written out;
* `accepted_bare`, `accepted_labelled` : the two forms of a suggestion;
* `suggestion_accepted_iff` : a suggestion is accepted unless it is a single labelled port whose
  label does not tell it from the others;
* `suggestions_misfit` : there are such ports, although every name is valid and distinct.
-/
import Mathlib.Data.List.Pairwise
import Mathlib.Tactic.MkIffOfInductiveProp
import PortForward.Cli.Run
import PortForward.Proofs.FieldGrammar

namespace PortForward.Preference

open Text (trim)
open Cli.Run (preferred)

/-! ## Names -/

/-- The characters of names in a pod. -/
def IsNameChar (c : Char) : Prop := c.isLower = true ∨ c.isDigit = true ∨ c = '-'

instance : DecidablePred IsNameChar := fun c => by unfold IsNameChar; infer_instance

-- these go over the text, not over all characters that there are
instance decidableNameChars (s : List Char) : Decidable (∀ c ∈ s, IsNameChar c) :=
  List.decidableBAll IsNameChar s

instance decidableLetter (s : List Char) : Decidable (∃ c ∈ s, c.isLower = true) :=
  List.decidableBEx (fun c => c.isLower = true) s

/-- The name of a container: lowercase letters, digits and inner dashes. It may be all digits. -/
@[mk_iff] structure IsContainerName (s : String) : Prop where
  nonempty : s.toList ≠ []
  chars : ∀ c ∈ s.toList, IsNameChar c
  first : s.toList.head? ≠ some '-'
  last : s.toList.getLast? ≠ some '-'

/-- The name of a port: lowercase letters, digits and dashes, with at least one letter. -/
@[mk_iff] structure IsPortName (s : String) : Prop where
  chars : ∀ c ∈ s.toList, IsNameChar c
  letter : ∃ c ∈ s.toList, c.isLower = true

/-- The declared names are valid, and no two ports have the same. -/
@[mk_iff] structure WellNamed (specs : List PortSpec) : Prop where
  valid : ∀ s ∈ specs, ∀ name ∈ s.name, IsPortName name
  distinct : (specs.filterMap (·.name)).Nodup

instance (s : String) : Decidable (IsContainerName s) :=
  decidable_of_iff _ (isContainerName_iff s).symm

instance (s : String) : Decidable (IsPortName s) := decidable_of_iff _ (isPortName_iff s).symm

instance (specs : List PortSpec) : Decidable (WellNamed specs) :=
  decidable_of_iff _ (wellNamed_iff specs).symm

theorem IsNameChar.visible {c : Char} (h : IsNameChar c) : 33 ≤ c.toNat ∧ c.toNat ≤ 126 := by
  rcases h with h | h | rfl
  · rw [Text.isLower_iff] at h
    omega
  · rw [Text.isDigit_iff] at h
    omega
  · decide

theorem IsNameChar.not_blank {c : Char} (h : IsNameChar c) : Text.isBlank c = false :=
  Text.isBlank_eq_false_of_visible h.visible.1 h.visible.2

/-- A text of the characters of names is its own trimming. -/
theorem trim_nameChars {s : List Char} (h : ∀ c ∈ s, IsNameChar c) : trim s = s :=
  Text.trim_eq_self_of_forall fun c hc => (h c hc).not_blank

/-- The characters of names include no separator. -/
theorem not_mem_nameChars {s : List Char} (h : ∀ c ∈ s, IsNameChar c) : ',' ∉ s ∧ ':' ∉ s :=
  ⟨fun hmem => absurd (h _ hmem) (by decide), fun hmem => absurd (h _ hmem) (by decide)⟩

/-- The name of a port is not empty. -/
theorem IsPortName.nonempty {s : String} (h : IsPortName s) : s.toList ≠ [] :=
  let ⟨_, hc, _⟩ := h.letter
  List.ne_nil_of_mem hc

/-- The name of a port is no number. -/
theorem IsPortName.not_allDigits {s : String} (h : IsPortName s) :
    ¬ Text.allDigits s.toList = true := by
  intro hdigits
  obtain ⟨c, hc, hlower⟩ := h.letter
  have hletter := Text.isLower_iff.mp hlower
  have hdigit := Text.isDigit_iff.mp (Text.allDigits_iff.mp hdigits c hc)
  omega

/-- Of the declared ports one at most has a name. -/
theorem WellNamed.eq_of_name {specs : List PortSpec} (h : WellNamed specs) {s t : PortSpec}
    {name : String} (hs : s ∈ specs) (ht : t ∈ specs) (hsn : s.name = some name)
    (htn : t.name = some name) : s = t := by
  by_contra hne
  have hsymm : Std.Symm fun s t : PortSpec =>
      ∀ a, s.name = some a → ∀ b, t.name = some b → a ≠ b :=
    ⟨fun _ _ hdiffer a ha b hb => (hdiffer b hb a ha).symm⟩
  exact (List.pairwise_filterMap.mp h.distinct).forall hs ht hne name hsn name htn rfl

/-! ## The text of ports -/

theorem nameChars_portText (p : UInt16) : ∀ c ∈ Text.portText p, IsNameChar c := fun c hc =>
  Or.inr (Or.inl (Text.allDigits_iff.mp (Text.allDigits_decimal _) c hc))

/-- The written form of a port is in the grammar. -/
theorem isPlainPort_portText {p : UInt16} (hp : p ≠ 0) :
    Fields.IsPlainPort (Text.portText p) p := by
  have htrim : trim (Text.portText p) = Text.portText p := trim_nameChars (nameChars_portText p)
  refine ⟨?_, ?_⟩
  · rw [← Fields.allDigits_iff_isNumeral, htrim]
    exact Text.allDigits_decimal _
  · rw [Fields.isPort_iff, htrim]
    exact Text.readNonzeroPort?_portText hp

/-- So is the written form of a list. -/
theorem isList_portList {ports : List UInt16} (hne : ports ≠ []) (hports : ∀ p ∈ ports, p ≠ 0) :
    Fields.IsList Fields.IsPlainPort (portList ports) ports := by
  refine ⟨ports.map Text.portText, by simpa using hne, ?_, rfl, ?_⟩
  · intro token htoken
    obtain ⟨p, -, rfl⟩ := List.mem_map.mp htoken
    exact (not_mem_nameChars (nameChars_portText p)).1
  · rw [List.forall₂_map_left_iff, List.forall₂_same]
    exact fun p hp => isPlainPort_portText (hports p hp)

/-- A list of ports holds digits and commas only. -/
theorem visible_portList {ports : List UInt16} {c : Char} (hc : c ∈ portList ports) :
    c = ',' ∨ IsNameChar c := by
  refine (Text.mem_joined hc).imp_right ?_
  rintro ⟨token, htoken, hmem⟩
  obtain ⟨p, -, rfl⟩ := List.mem_map.mp htoken
  exact nameChars_portText p c hmem

theorem trim_portList (ports : List UInt16) : trim (portList ports) = portList ports := by
  refine Text.trim_eq_self_of_forall fun c hc => ?_
  obtain rfl | h := visible_portList hc
  · decide
  · exact h.not_blank

/-- A list of ports has no label. -/
theorem cutLast_portList (ports : List UInt16) : Text.cutLast (portList ports) = none := by
  rw [Text.cutLast_eq_none_iff]
  intro h
  have hcolon : ':' ∈ portList ports := h.subset List.mem_cons_self
  exact absurd (visible_portList hcolon) (by decide)

/-! ## What the two checks ask for -/

section Checks

variable {specs : List PortSpec} {ports locals : List UInt16} {d : String}

/-- The fields are accepted, and the tunnels lead to these ports. -/
def Accepted (i : Fields.Input) (specs : List PortSpec) (ports : List UInt16) : Prop :=
  (∃ ts, Fields.tunnels i = .ok ts ∧ ts.map (·.remotePort) = ports) ∧
    Fields.checkRemote i.remote specs = .ok ()

/-- A port behind a label stands behind the last `::`. -/
theorem lastCut_portText (p : UInt16) : Fields.LastCut (Text.portText p) := by
  have hcolon : ':' ∉ Text.portText p := (not_mem_nameChars (nameChars_portText p)).2
  rw [Fields.LastCut, Text.cut_infix_cons_iff]
  rintro (⟨-, hhead⟩ | h)
  · exact hcolon (List.mem_of_head? hhead)
  · exact hcolon (h.subset List.mem_cons_self)

/-- The label that the remote field gives. -/
def labelOf (remote : List Char) : Option String := (Fields.label? remote).map String.ofList

/-- The remote field agrees with the declared ports if each of its ports does. -/
theorem checkRemote_eq_ok_iff {remote : String} :
    Fields.checkRemote remote specs = .ok () ↔
      ∃ r, Fields.Remote.read (trim remote.toList) = .ok r ∧
        ∀ p ∈ r.ports, Fields.checkPort specs (labelOf (trim remote.toList)) p = .ok () := by
  have hsteps : Fields.checkRemote remote specs =
      ((Fields.Remote.read (trim remote.toList)).bind fun r =>
        r.ports.forM (Fields.checkPort specs (labelOf (trim remote.toList)))).mapError .invalid := rfl
  rw [hsteps]
  simp only [← Fields.forM_eq_ok_iff]
  cases Fields.Remote.read (trim remote.toList) with
  | error cause => simp [Except.bind, Except.mapError]
  | ok r =>
    simp only [Except.bind, Except.ok.injEq, exists_eq_left']
    cases r.ports.forM (Fields.checkPort specs (labelOf (trim remote.toList))) <;>
      simp [Except.mapError]

/-- Local ports that are written out are read back. -/
theorem localPorts_portList {remote : List Char} {r : Fields.Remote} (hne : locals ≠ [])
    (hlocals : ∀ p ∈ locals, p ≠ 0) : Fields.localPorts remote r (portList locals) = .ok locals := by
  have hlist := (Fields.isList_plain_iff.mp (isList_portList hne hlocals)).2
  rw [Fields.localPorts, if_neg hlist.ne_nil]
  exact (Fields.portList_eq_ok_iff .localSide).mpr hlist

/-- With the local ports written out, the remote field decides. -/
theorem accepted_iff {remote : List Char} (htrim : trim remote = remote)
    (hne : locals ≠ []) (hlocals : ∀ p ∈ locals, p ≠ 0) (hlength : locals.length = ports.length) :
    Accepted ⟨"", String.ofList remote, String.ofList (portList locals), d⟩ specs ports ↔
      ∃ r, Fields.Remote.read remote = .ok r ∧ r.ports = ports ∧
        ∀ p ∈ ports, Fields.checkPort specs (labelOf remote) p = .ok () := by
  have hfield : ∀ r, Fields.localPorts remote r (portList locals) = .ok locals := fun r =>
    localPorts_portList hne hlocals
  simp only [Accepted, checkRemote_eq_ok_iff, Fields.tunnels_eq_ok_iff, Fields.read_steps,
    String.toList_ofList, htrim, trim_portList, hfield, Except.ok.injEq, exists_eq_left',
    exists_and_left]
  constructor
  · rintro ⟨⟨ts, ⟨r, hr, hlen, hts⟩, hports⟩, r', hr', hcheck⟩
    rw [hr, Except.ok.injEq] at hr'
    obtain rfl := hr'
    have hremotes := ((Fields.zipWith_eq_iff hlen).mp hts).1
    rw [hports] at hremotes
    exact ⟨r, hr, hremotes.symm, hremotes ▸ hcheck⟩
  · rintro ⟨r, hr, rfl, hcheck⟩
    refine ⟨⟨_, ⟨r, hr, hlength, rfl⟩, ?_⟩, r, hr, hcheck⟩
    exact ((Fields.zipWith_eq_iff hlength).mp rfl).1

/-- A declared port is found by its number, if perhaps under another name. -/
theorem exists_findPort? {s : PortSpec} (hs : s ∈ specs) :
    ∃ t, PortSpec.findPort? specs s.port = some t := by
  rw [← Option.isSome_iff_exists, PortSpec.findPort?, List.find?_isSome]
  exact ⟨s, hs, by simp⟩

/-- A bare list of ports is read as these ports. -/
theorem read_portList (hne : ports ≠ []) (hports : ∀ p ∈ ports, p ≠ 0) :
    Fields.Remote.read (portList ports) = .ok ⟨ports, none⟩ :=
  (Fields.read_uncut (cutLast_portList ports)).mpr ⟨isList_portList hne hports, rfl⟩

/-- A bare list of declared ports is accepted. -/
theorem accepted_bare {wanted : List PortSpec} (hwanted : ∀ s ∈ wanted, s ∈ specs ∧ s.port ≠ 0)
    (hne : wanted ≠ []) (hlocals : ∀ p ∈ locals, p ≠ 0) (hlength : locals.length = wanted.length) :
    Accepted ⟨"", String.ofList (portList (wanted.map (·.port))), String.ofList (portList locals), d⟩
      specs (wanted.map (·.port)) := by
  have hports : ∀ p ∈ wanted.map (·.port), p ≠ 0 := by
    intro p hp
    obtain ⟨s, hs, rfl⟩ := List.mem_map.mp hp
    exact (hwanted s hs).2
  have hlocalsNe : locals ≠ [] := by
    rintro rfl
    exact hne (List.eq_nil_of_length_eq_zero hlength.symm)
  have hcut := cutLast_portList (wanted.map (·.port))
  rw [accepted_iff (trim_portList _) hlocalsNe hlocals (by rw [hlength, List.length_map])]
  refine ⟨⟨_, none⟩, read_portList (List.map_eq_nil_iff.not.mpr hne) hports, rfl, ?_⟩
  intro p hp
  obtain ⟨s, hs, rfl⟩ := List.mem_map.mp hp
  obtain ⟨t, ht⟩ := exists_findPort? (hwanted s hs).1
  rw [labelOf, Fields.label?, hcut, Fields.checkPort, ht]
  rfl

/-- The written form of a port stands for this port only. -/
theorem isPort_portText_iff {p q : UInt16} (hp : p ≠ 0) :
    Fields.IsPort (Text.portText p) q ↔ q = p := by
  rw [Fields.isPort_iff, trim_nameChars (nameChars_portText p), Text.readNonzeroPort?_portText hp,
    Option.some.injEq]
  exact eq_comm

/-- What a port behind a label is read as. -/
theorem read_labelled {label : List Char} (hne : trim label ≠ []) (hcomma : ',' ∉ trim label)
    {p : UInt16} (hp : p ≠ 0) {r : Fields.Remote} :
    Fields.Remote.read (label ++ ':' :: ':' :: Text.portText p) = .ok r ↔
      (Text.allDigits (trim label) = true ∧
          ∃ q, Text.readNonzeroPort? (trim label) = some q ∧ ⟨[q], some p⟩ = r) ∨
        (¬ Text.allDigits (trim label) = true ∧ ⟨[p], none⟩ = r) := by
  rw [Fields.read_cut ((lastCut_portText p).cutLast label)]
  simp only [isPort_portText_iff hp, ← Fields.allDigits_iff_isNumeral, Fields.isPort_iff,
    exists_eq_left]
  exact ⟨fun h => h.2.2, fun h => ⟨hne, hcomma, h⟩⟩

/-- A port behind a label is accepted if the label is the name or the container of the first port
with the number, or if the label is the number itself. -/
theorem accepted_labelled {label : List Char} (hne : label ≠ [])
    (hlabel : ∀ c ∈ label, IsNameChar c) {p l : UInt16} (hp : p ≠ 0) (hl : l ≠ 0) :
    Accepted ⟨"", String.ofList (label ++ "::".toList ++ Text.portText p),
        String.ofList (portList [l]), d⟩ specs [p] ↔
      if Text.allDigits label = true then
        Text.readNonzeroPort? label = some p ∧ Fields.checkPort specs none p = .ok ()
      else Fields.checkPort specs (some (String.ofList label)) p = .ok () := by
  have htrim : trim (label ++ ':' :: ':' :: Text.portText p) =
      label ++ ':' :: ':' :: Text.portText p := by
    refine Text.trim_eq_self_of_forall fun c hc => ?_
    simp only [List.mem_append, List.mem_cons] at hc
    obtain hc | rfl | rfl | hc := hc
    · exact (hlabel c hc).not_blank
    · decide
    · decide
    · exact (nameChars_portText p c hc).not_blank
  have hgiven : labelOf (label ++ ':' :: ':' :: Text.portText p) =
      if Text.allDigits label = true then none else some (String.ofList label) := by
    rw [labelOf, Fields.label?, (lastCut_portText p).cutLast label, Option.bind_some]
    dsimp only
    rw [trim_nameChars hlabel, apply_ite (Option.map String.ofList), Option.map_none,
      Option.map_some]
  have hremote : label ++ "::".toList ++ Text.portText p =
      label ++ ':' :: ':' :: Text.portText p := by simp
  have hlength : [l].length = [p].length := rfl
  have hread := fun r => @read_labelled label ((trim_nameChars hlabel).symm ▸ hne)
    ((trim_nameChars hlabel).symm ▸ (not_mem_nameChars hlabel).1) p hp r
  rw [trim_nameChars hlabel] at hread
  rw [hremote, accepted_iff htrim (List.cons_ne_nil l []) (by simpa using hl) hlength, hgiven]
  simp only [List.forall_mem_singleton, hread]
  by_cases hdigits : Text.allDigits label = true
  · rw [if_pos hdigits, if_pos hdigits]
    constructor
    · rintro ⟨_, ⟨-, q, hq, rfl⟩ | ⟨hletter, -⟩, hports, hcheck⟩
      · obtain rfl : q = p := by simpa using hports
        exact ⟨hq, hcheck⟩
      · exact absurd hdigits hletter
    · rintro ⟨hq, hcheck⟩
      exact ⟨_, Or.inl ⟨hdigits, p, hq, rfl⟩, rfl, hcheck⟩
  · rw [if_neg hdigits, if_neg hdigits]
    constructor
    · rintro ⟨_, -, -, hcheck⟩
      exact hcheck
    · intro hcheck
      exact ⟨_, Or.inr ⟨hdigits, rfl⟩, rfl, hcheck⟩

end Checks

/-! ## What is suggested -/

section Suggested

variable {specs : List PortSpec} {drafts : List Draft} {d : String}

/-- The declared ports that are suggested. -/
def suggested (drafts : List Draft) (specs : List PortSpec) : List PortSpec :=
  if drafts = [] then specs.take 1 else drafts.map (·.remote)

/-- The dialog's fields as they are suggested. -/
def suggestedInput (drafts : List Draft) (specs : List PortSpec) (defaultAddress : String) :
    Fields.Input :=
  ⟨"", (suggestion drafts specs).1, (suggestion drafts specs).2, defaultAddress⟩

/-- The label of a port tells it from the others. A name does, unless an earlier port has the same
number; the name of the container does, unless it is read as another number. -/
def Tells (specs : List PortSpec) (s : PortSpec) : Prop :=
  match s.name with
  | some name => name = s.container ∨ PortSpec.findPort? specs s.port = some s
  | none => Text.allDigits s.container.toList = true →
      Text.readNonzeroPort? s.container.toList = some s.port

/-- The declared ports of a container in a pod, as they can be forwarded. -/
structure Declared (c : String) (specs : List PortSpec) : Prop where
  container : ∀ s ∈ specs, s.container = c
  port : ∀ s ∈ specs, s.port ≠ 0

/-- A draft stands for a declared port, and its local port is not zero. -/
structure Fits (specs : List PortSpec) (draft : Draft) : Prop where
  remote : draft.remote ∈ specs
  localPort : draft.localOrRemote ≠ 0

theorem declared_of_forwardable {pod : Pod} {c : String} (h : pod.forwardable c = .ok specs) :
    Declared c specs := by
  obtain ⟨found, hfind, -, rfl⟩ := Pod.forwardable_eq_ok_iff.mp h
  have hname : found.name = c := by simpa using List.find?_some hfind
  exact ⟨fun s hs => (Container.mem_specs hs).1.trans hname, fun s hs => (Container.mem_specs hs).2.2⟩

/-- An entry is resolved to a port that is looked up, with the local port that it gives, if it is about
the container of the declared ports. -/
theorem resolve_eq_ok_iff {e : Entry} {draft : Draft} : e.resolve specs = .ok draft ↔
    (∀ name ∈ e.container, ∀ c ∈ PortSpec.container? specs, String.ofList name = c) ∧
      PortSpec.lookup? specs (String.ofList e.port) = some draft.remote ∧
        readLocal e.localPort = .ok draft.localPort := by
  obtain ⟨container, port, localPort⟩ := e
  obtain ⟨remote, l⟩ := draft
  rw [Entry.resolve]
  cases PortSpec.lookup? specs (String.ofList port) <;> cases readLocal localPort <;>
    cases container <;> cases PortSpec.container? specs <;>
    simp [bind, Except.bind, pure, Except.pure, throw, throwThe, MonadExceptOf.throw]
  -- only if the entry and the declared ports both name a container, it has to be the same one
  all_goals split <;> simp_all

/-- A local port that an entry gives is not zero. -/
theorem readLocal_ne_zero {given : Option (List Char)} {p : UInt16}
    (h : readLocal given = .ok (some p)) : p ≠ 0 := by
  cases given with
  | none => cases h
  | some text =>
    simp only [readLocal] at h
    cases hread : Text.readNonzeroPort? text with
    | none => simp [hread] at h
    | some q =>
      obtain rfl : q = p := by simpa [hread] using h
      exact (Text.readNonzeroPort?_eq_some_iff.mp hread).2

/-- An entry that is resolved fits the declared ports. -/
theorem fits_of_resolve {c : String} (h : Declared c specs) {e : Entry} {draft : Draft}
    (hresolve : e.resolve specs = .ok draft) : Fits specs draft := by
  obtain ⟨-, hlookup, hlocal⟩ := resolve_eq_ok_iff.mp hresolve
  have hmem := PortSpec.mem_of_lookup?_eq_some hlookup
  refine ⟨hmem, ?_⟩
  rw [Draft.localOrRemote]
  cases hgiven : draft.localPort with
  | none => exact h.port _ hmem
  | some p => exact readLocal_ne_zero (hgiven ▸ hlocal)

/-- Preferred ports fit the declared ones. -/
theorem fits_of_preferred {a : Annotations} {c : String} (h : Declared c specs) :
    ∀ draft ∈ preferred a specs, Fits specs draft := by
  intro draft hdraft
  have hentries : ∃ value drafts, resolveAll value specs = .ok drafts ∧ draft ∈ drafts := by
    rw [preferred, ofAnnotations] at hdraft
    cases hvalue : a.get? preferenceKey with
    | none => simp [hvalue] at hdraft
    | some value =>
      by_cases hnone : specs = []
      · simp [hvalue, hnone] at hdraft
      · cases hall : resolveAll value specs with
        | error cause => simp [hvalue, hnone, hall, Except.mapError] at hdraft
        | ok drafts =>
          simp only [hvalue, hnone, hall, Except.mapError] at hdraft
          exact ⟨value, drafts, hall, hdraft⟩
  obtain ⟨value, drafts, hall, hmem⟩ := hentries
  rw [resolveAll, Fields.mapM_eq_ok_iff] at hall
  obtain ⟨entry, hentry⟩ := Fields.exists_of_mem_right hall hmem
  cases hread : Entry.read entry with
  | error cause => simp [hread, bind, Except.bind] at hentry
  | ok e =>
    simp only [hread, bind, Except.bind] at hentry
    exact fits_of_resolve h hentry

/-- A labelled port is checked by its label. -/
theorem checkPort_label_iff {c : String} (hspecs : Declared c specs) (hnames : WellNamed specs)
    {s : PortSpec} (hs : s ∈ specs) :
    Fields.checkPort specs (some s.label) s.port = .ok () ↔
      ∀ name, s.name = some name → name = s.container ∨ PortSpec.findPort? specs s.port = some s := by
  obtain ⟨t, ht⟩ := exists_findPort? hs
  have htmem := (PortSpec.findPort?_eq_some ht).1
  have hcontainer : t.container = s.container := by
    rw [hspecs.container t htmem, hspecs.container s hs]
  have hcheck : Fields.checkPort specs (some s.label) s.port = .ok () ↔
      t.name = some s.label ∨ s.container = s.label := by
    rw [Fields.checkPort, ht, ← hcontainer]
    dsimp only
    split <;> simp_all
  rw [hcheck, ht, Option.some.injEq, PortSpec.label]
  cases hname : s.name with
  | none => simp
  | some name =>
    simp only [Option.getD_some, Option.some.injEq, forall_eq']
    constructor
    · rintro (htname | hlabel)
      · exact Or.inr (hnames.eq_of_name htmem hs htname hname)
      · exact Or.inl hlabel.symm
    · rintro (hlabel | rfl)
      · exact Or.inr hlabel.symm
      · exact Or.inl hname

/-- One port is suggested rightly if it is the only one that is declared, or its label tells it from
the others. -/
theorem accepted_descriptor_iff {c : String} (hspecs : Declared c specs) (hc : IsContainerName c)
    (hnames : WellNamed specs) {s : PortSpec} (hs : s ∈ specs) {l : UInt16} (hl : l ≠ 0) :
    Accepted ⟨"", String.ofList (descriptor s specs.length), String.ofList (Text.portText l), d⟩
      specs [s.port] ↔ (1 < specs.length → Tells specs s) := by
  have hport := hspecs.port s hs
  by_cases hlength : 1 < specs.length
  · have hlabel : s.label.toList ≠ [] ∧ (∀ c ∈ s.label.toList, IsNameChar c) ∧
        (Text.allDigits s.label.toList = true → s.name = none) := by
      rw [PortSpec.label]
      cases hname : s.name with
      | none =>
        rw [Option.getD_none, hspecs.container s hs]
        exact ⟨hc.nonempty, hc.chars, fun _ => rfl⟩
      | some name =>
        have hvalid := hnames.valid s hs name hname
        exact ⟨hvalid.nonempty, hvalid.chars, fun h => absurd h hvalid.not_allDigits⟩
    obtain ⟨hne, hchars, hdigits⟩ := hlabel
    rw [descriptor, if_pos hlength]
    refine (accepted_labelled hne hchars hport hl).trans ?_
    have hdeclared : Fields.checkPort specs none s.port = .ok () := by
      obtain ⟨t, ht⟩ := exists_findPort? hs
      rw [Fields.checkPort, ht]
    rw [String.ofList_toList, checkPort_label_iff hspecs hnames hs, Tells]
    simp only [hdeclared, and_true, hlength, forall_const]
    cases hname : s.name with
    | none =>
      rw [PortSpec.label, hname, Option.getD_none]
      split <;> simp_all
    | some name =>
      have hletter : ¬ Text.allDigits s.label.toList = true := fun h => by simp [hdigits h] at hname
      rw [if_neg hletter]
      simp
  · rw [descriptor, if_neg hlength]
    have hbare := @accepted_bare specs [l] d [s] (by simpa using ⟨hs, hport⟩)
      (List.cons_ne_nil s []) (by simpa using hl) rfl
    exact iff_of_true hbare fun h => absurd h hlength

/-- A suggestion is accepted and leads to the suggested ports, unless it is a single port among
several whose label does not tell it from the others. -/
theorem suggestion_accepted_iff (pod : Pod) (c : String) (specs : List PortSpec)
    (defaultAddress : String) (hspecs : pod.forwardable c = .ok specs) (hne : specs ≠ [])
    (hc : IsContainerName c) (hnames : WellNamed specs) :
    Accepted (suggestedInput (preferred pod.annotations specs) specs defaultAddress) specs
        ((suggested (preferred pod.annotations specs) specs).map (·.port)) ↔
      (1 < specs.length → ∀ s, suggested (preferred pod.annotations specs) specs = [s] →
        Tells specs s) := by
  have hdeclared := declared_of_forwardable hspecs
  have hfits := @fits_of_preferred specs pod.annotations c hdeclared
  cases hdrafts : preferred pod.annotations specs with
  | nil =>
    obtain ⟨first, rest, rfl⟩ := List.exists_cons_of_ne_nil hne
    have hfirst : first ∈ first :: rest := List.mem_cons_self
    have hone := @accepted_descriptor_iff _ defaultAddress c hdeclared hc hnames first hfirst _
      (hdeclared.port first hfirst)
    simpa [suggested, suggestedInput, suggestion] using hone
  | cons draft more =>
    rw [hdrafts] at hfits
    cases more with
    | nil =>
      obtain ⟨hremote, hlocal⟩ := hfits draft List.mem_cons_self
      have hone := @accepted_descriptor_iff _ defaultAddress c hdeclared hc hnames _ hremote _ hlocal
      simpa [suggested, suggestedInput, suggestion] using hone
    | cons second more =>
      have hmany := @accepted_bare specs ((draft :: second :: more).map (·.localOrRemote))
        defaultAddress ((draft :: second :: more).map (·.remote)) ?_ ?_ ?_ ?_
      · simpa [suggested, suggestedInput, suggestion, Function.comp_def] using hmany
      · intro s hs
        obtain ⟨choice, hchoice, rfl⟩ := List.mem_map.mp hs
        exact ⟨(hfits choice hchoice).remote, hdeclared.port _ (hfits choice hchoice).remote⟩
      · exact List.cons_ne_nil _ _
      · intro p hp
        obtain ⟨choice, hchoice, rfl⟩ := List.mem_map.mp hp
        exact (hfits choice hchoice).localPort
      · rw [List.length_map, List.length_map]

/-! ### Examples of pods -/

/-- A pod with one container, which runs. -/
def podWith (container : String) (ports : List (Int × Option String)) (preference : Option String) :
    Pod where
  annotations := ⟨preference.toList.map fun value => (preferenceKey, value)⟩
  containers := [⟨container, ports.map fun (number, name) => ⟨number, name, none⟩⟩]
  statuses := [⟨container, some { running := true }⟩]

/-- A pod that prefers the second of two ports. -/
def adminPod : Pod := podWith "web" [(80, some "http"), (9000, some "admin")] (some "admin::9443")

def adminPorts : List PortSpec :=
  [⟨"web", some "http", "TCP", 80⟩, ⟨"web", some "admin", "TCP", 9000⟩]

/-- Its suggestion is accepted. -/
theorem adminPod_accepted :
    adminPod.forwardable "web" = .ok adminPorts ∧ IsContainerName "web" ∧ WellNamed adminPorts ∧
      Accepted (suggestedInput (preferred adminPod.annotations adminPorts) adminPorts "localhost")
        adminPorts ((suggested (preferred adminPod.annotations adminPorts) adminPorts).map (·.port)) := by
  refine ⟨by decide, by decide, by decide,
    (suggestion_accepted_iff adminPod "web" adminPorts "localhost" (by decide) (by decide) (by decide)
      (by decide)).mpr ?_⟩
  intro _ s hs
  obtain rfl : s = ⟨"web", some "admin", "TCP", 9000⟩ := by
    have hsuggested : suggested (preferred adminPod.annotations adminPorts) adminPorts =
        [⟨"web", some "admin", "TCP", 9000⟩] := by decide
    rw [hsuggested, List.singleton_inj] at hs
    exact hs.symm
  exact Or.inr (by decide)

/-- A pod that prefers the second of two ports with one number. -/
def twinPod : Pod := podWith "c" [(80, some "http"), (80, some "web")] (some "web")

def twinPorts : List PortSpec := [⟨"c", some "http", "TCP", 80⟩, ⟨"c", some "web", "TCP", 80⟩]

/-- A pod whose container has a number as its name. -/
def numeralPod : Pod := podWith "443" [(80, none), (443, none)] none

def numeralPorts : List PortSpec := [⟨"443", none, "TCP", 80⟩, ⟨"443", none, "TCP", 443⟩]

/-- Not every suggestion is accepted: a port is refused under its own name if an earlier one has its
number. And not every one that is accepted leads to the suggested port: behind the name of a container
that is a number, the port is taken for the local one. -/
theorem suggestions_misfit :
    (twinPod.forwardable "c" = .ok twinPorts ∧ IsContainerName "c" ∧ WellNamed twinPorts ∧
      suggestedInput (preferred twinPod.annotations twinPorts) twinPorts "localhost" =
        ⟨"", "web::80", "80", "localhost"⟩ ∧
      Fields.checkRemote "web::80" twinPorts = .error (.invalid (.misnamed 80 "web"))) ∧
    (numeralPod.forwardable "443" = .ok numeralPorts ∧ IsContainerName "443" ∧
      WellNamed numeralPorts ∧
      suggestedInput (preferred numeralPod.annotations numeralPorts) numeralPorts "localhost" =
        ⟨"", "443::80", "80", "localhost"⟩ ∧
      Fields.tunnels ⟨"", "443::80", "80", "localhost"⟩ = .ok [⟨"localhost", 80, 443⟩] ∧
      Fields.checkRemote "443::80" numeralPorts = .ok ()) := by
  decide

end Suggested

end PortForward.Preference
