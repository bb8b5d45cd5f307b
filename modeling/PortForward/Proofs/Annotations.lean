/-
# Annotations that name preferred ports

An annotation is a list of entries with commas between them, and an entry has the form
`[container:]port[::local]`, with blanks around the parts. It is resolved entry by entry, in order, and
one faulty entry spoils it.

* `HasParts`, `hasParts_iff` : an entry has its parts, and no others;
* `Finds`, `exists_finds_iff` : the declared port that a part is about: by name first, then by number;
* `Means`, `entry_eq_ok_iff` : the draft that an entry stands for;
* `ofAnnotations_eq_ok_iff` : the drafts that an annotation stands for;
* `preferences_all_or_nothing` : what the drafts of a container are, and when there are none.
-/
import PortForward.Proofs.RemoteChecks

namespace PortForward.Preference

open Text (trim AllBlank Padded)

/-! ## Entries of an annotation -/

/-- A text with commas between tokens. -/
def Separated (value : List Char) (tokens : List (List Char)) : Prop :=
  tokens ≠ [] ∧ (∀ token ∈ tokens, ',' ∉ token) ∧ value = Text.joined ',' tokens

/-- The tokens that are not blank. -/
def nonBlank (tokens : List (List Char)) : List (List Char) := tokens.filter fun t => trim t ≠ []

theorem separated_iff {value : List Char} {tokens : List (List Char)} :
    Separated value tokens ↔ Text.pieces ',' value = tokens := by
  constructor
  · rintro ⟨hne, hcomma, rfl⟩
    exact Text.pieces_joined hne hcomma
  · rintro rfl
    exact ⟨Text.pieces_ne_nil ',' value, fun _ => Text.not_mem_of_mem_pieces,
      (Text.pieces_join ',' value).symm⟩

/-- The entries are the tokens that are not blank, without the blanks around them. -/
theorem entries_eq {value : List Char} {tokens : List (List Char)} (h : Separated value tokens) :
    entries value = (nonBlank tokens).map trim := by
  rw [entries, separated_iff.mp h, List.filter_map]
  rfl

/-! ## Parts of an entry -/

/-- What stands before the first `::`, and what stands behind it without the blanks around it. Without
`::` there is nothing behind. -/
def CutsLocal (text head : List Char) : Option (List Char) → Prop
  | none => head = text ∧ ¬ [':', ':'] <:+: text
  | some tail => ∃ t, (text = head ++ ':' :: ':' :: t ∧ ¬ [':', ':'] <:+: head ++ [':']) ∧ trim t = tail

/-- What stands before the first colon, and what stands behind it, both without the blanks around
them. Without a colon there is nothing before. -/
def CutsContainer (head : List Char) : Option (List Char) → List Char → Prop
  | none, port => ':' ∉ head ∧ trim head = port
  | some name, port =>
    ∃ n p, (head = n ++ ':' :: p ∧ ':' ∉ n) ∧ trim n = name ∧ trim p = port

/-- The parts of an entry `[container:]port[::local]`, each without the blanks around it. -/
def HasParts (text : List Char) (e : Entry) : Prop :=
  ∃ head, CutsLocal text head e.localPort ∧ CutsContainer head e.container e.port

variable {text head : List Char} {e : Entry}

theorem cutsLocal_iff {l : Option (List Char)} : CutsLocal text head l ↔ cutLocal text = (head, l) := by
  rw [cutLocal]
  cases hcut : Text.cutFirst text with
  | none =>
    have hnone := Text.cutFirst_eq_none_iff.mp hcut
    cases l with
    | none => simp [CutsLocal, hnone, eq_comm]
    | some tail => simp [CutsLocal, ← Text.cutFirst_eq_some_iff, hcut]
  | some p =>
    cases l with
    | none => simp [CutsLocal, ← Text.cutFirst_eq_none_iff, hcut]
    | some tail => simp [CutsLocal, ← Text.cutFirst_eq_some_iff, hcut, Prod.ext_iff, and_assoc]

theorem cutsContainer_iff {container : Option (List Char)} {port : List Char} :
    CutsContainer head container port ↔ cutContainer head = (container, port) := by
  rw [cutContainer]
  cases hcut : Text.cutAt ':' head with
  | none =>
    have hnone := Text.cutAt_eq_none.mp hcut
    cases container with
    | none => simp [CutsContainer, hnone]
    | some name => simp [CutsContainer, ← Text.cutAt_eq_some, hcut]
  | some p =>
    cases container with
    | none => simp [CutsContainer, ← Text.cutAt_eq_none, hcut]
    | some name => simp [CutsContainer, ← Text.cutAt_eq_some, hcut, Prod.ext_iff, and_assoc]

/-- An entry has its parts, and no others. -/
theorem hasParts_iff : HasParts text e ↔ Entry.parts text = e := by
  constructor
  · rintro ⟨head, hlocal, hcontainer⟩
    rw [cutsLocal_iff] at hlocal
    rw [cutsContainer_iff] at hcontainer
    rw [Entry.parts, hlocal]
    dsimp only
    rw [hcontainer]
  · rintro rfl
    exact ⟨(cutLocal text).1, cutsLocal_iff.mpr rfl, cutsContainer_iff.mpr rfl⟩

theorem exists_hasParts_iff {P : Entry → Prop} :
    (∃ e, HasParts text e ∧ P e) ↔ P (Entry.parts text) := by
  simp [hasParts_iff]

/-- The local part of an entry is trimmed. -/
theorem HasParts.trim_localPort (h : HasParts text e) : ∀ l ∈ e.localPort, trim l = l := by
  obtain ⟨head, hlocal, -⟩ := h
  intro l hl
  rw [Option.mem_def.mp hl] at hlocal
  obtain ⟨t, -, rfl⟩ := hlocal
  exact Text.trim_trim t

/-- Blanks around a text with a container and a port do not count. -/
theorem CutsContainer.padded {head' : List Char} {container : Option (List Char)} {port : List Char}
    (h : CutsContainer head container port) (hpad : Padded head head') :
    CutsContainer head' container port := by
  obtain ⟨before, after, hbefore, hafter, rfl⟩ := hpad
  have hcolon : ':' ∉ before ∧ ':' ∉ after :=
    ⟨hbefore.not_mem (by decide), hafter.not_mem (by decide)⟩
  cases container with
  | none =>
    obtain ⟨hnone, rfl⟩ := h
    refine ⟨by simp [hcolon, hnone], ?_⟩
    exact Padded.trim_eq ⟨before, after, hbefore, hafter, rfl⟩
  | some name =>
    obtain ⟨n, p, ⟨rfl, hnone⟩, rfl, rfl⟩ := h
    refine ⟨before ++ n, p ++ after, ⟨by simp, by simp [hcolon, hnone]⟩, ?_, ?_⟩
    · exact (Text.padded_before hbefore n).trim_eq
    · exact (Text.padded_after hafter p).trim_eq

/-- Blanks around an entry do not count either. -/
theorem HasParts.padded {text' : List Char} (h : HasParts text e) (hpad : Padded text text') :
    HasParts text' e := by
  obtain ⟨head, hlocal, hcontainer⟩ := h
  have hsplit := hpad
  obtain ⟨before, after, hbefore, hafter, rfl⟩ := hsplit
  have hcolon : ':' ∉ before ∧ ':' ∉ after :=
    ⟨hbefore.not_mem (by decide), hafter.not_mem (by decide)⟩
  cases hl : e.localPort with
  | none =>
    rw [hl] at hlocal
    obtain ⟨rfl, hnone⟩ := hlocal
    refine ⟨before ++ head ++ after, ?_, hcontainer.padded hpad⟩
    rw [hl]
    refine ⟨rfl, ?_⟩
    rw [Text.colons_infix_append_right hcolon.2, Text.colons_infix_append_left hcolon.1]
    exact hnone
  | some tail =>
    rw [hl] at hlocal
    obtain ⟨t, ⟨rfl, hfirst⟩, rfl⟩ := hlocal
    refine ⟨before ++ head, ?_, hcontainer.padded (Text.padded_before hbefore head)⟩
    rw [hl]
    refine ⟨t ++ after, ⟨by simp, ?_⟩, ?_⟩
    · rw [List.append_assoc, Text.colons_infix_append_left hcolon.1]
      exact hfirst
    · exact (Text.padded_after hafter t).trim_eq

theorem parts_trim (text : List Char) : Entry.parts (trim text) = Entry.parts text := by
  have htrim : HasParts (trim text) (Entry.parts (trim text)) := hasParts_iff.mpr rfl
  exact (hasParts_iff.mp (htrim.padded (Text.padded_trim text))).symm

/-! ## The port of an entry -/

/-- A text that is the number of a port: decimal digits, perhaps after a plus sign. -/
def IsNumber (text : List Char) (p : UInt16) : Prop :=
  ∃ digits, (text = digits ∨ text = '+' :: digits) ∧ digits ≠ [] ∧
    (∀ c ∈ digits, c.isDigit = true) ∧ Nat.ofDigitChars 10 digits 0 = p.toNat

/-- Of the declared ports, this is the first one with the name. -/
def IsFirstNamed (specs : List PortSpec) (name : String) (s : PortSpec) : Prop :=
  ∃ before after, specs = before ++ s :: after ∧ s.name = some name ∧ ∀ u ∈ before, u.name ≠ some name

/-- The declared port that an entry is about: the first one with the name, or if no port has it, the
first one with the number. -/
inductive Finds (specs : List PortSpec) (want : String) (s : PortSpec) : Prop
  | named (h : IsFirstNamed specs want s)
  | numbered {p : UInt16} (hnone : ∀ u ∈ specs, u.name ≠ some want) (hp : IsNumber want.toList p)
      (h : Fields.IsFirst specs p s)

variable {specs : List PortSpec} {want : String} {s : PortSpec} {draft : Draft}

theorem isNumber_iff {p : UInt16} : IsNumber text p ↔ Text.readPort? text = some p := by
  rw [Text.readPort?_eq_some_iff, Text.readNumber?_eq_some_iff, IsNumber]

theorem findName?_eq_some_iff :
    PortSpec.findName? specs want = some s ↔ IsFirstNamed specs want s :=
  find?_eq_some_iff

theorem findName?_eq_none_iff :
    PortSpec.findName? specs want = none ↔ ∀ u ∈ specs, u.name ≠ some want := by
  simp [PortSpec.findName?]

/-- What is looked up is what the entry is about. -/
theorem lookup?_eq_some_iff : PortSpec.lookup? specs want = some s ↔ Finds specs want s := by
  rw [PortSpec.lookup?]
  cases hname : PortSpec.findName? specs want with
  | some t =>
    constructor
    · rintro ⟨⟩
      exact .named (findName?_eq_some_iff.mp hname)
    · rintro (hfirst | ⟨hnone, -, -⟩)
      · rw [findName?_eq_some_iff.mpr hfirst] at hname
        exact hname.symm
      · rw [findName?_eq_none_iff.mpr hnone] at hname
        cases hname
  | none =>
    have hnone := findName?_eq_none_iff.mp hname
    simp only [Option.bind_eq_some_iff, ← isNumber_iff, Fields.findPort?_eq_some_iff]
    constructor
    · rintro ⟨p, hp, hfirst⟩
      exact .numbered hnone hp hfirst
    · rintro (hfirst | ⟨-, hp, hfirst⟩)
      · rw [findName?_eq_some_iff.mpr hfirst] at hname
        cases hname
      · exact ⟨_, hp, hfirst⟩

/-- A port is found if one has the name or the number. -/
theorem exists_finds_iff : (∃ s, Finds specs want s) ↔
    ∃ s ∈ specs, s.name = some want ∨ IsNumber want.toList s.port := by
  simp only [← lookup?_eq_some_iff]
  constructor
  · rintro ⟨s, h⟩
    obtain ⟨before, after, rfl, hname, -⟩ | ⟨-, hp, hfirst⟩ := lookup?_eq_some_iff.mp h
    · exact ⟨s, by simp, Or.inl hname⟩
    · obtain ⟨hmem, rfl⟩ := hfirst.mem
      exact ⟨s, hmem, Or.inr hp⟩
  · rintro ⟨s, hs, hmatch⟩
    rw [← Option.isSome_iff_exists, PortSpec.lookup?]
    cases hname : PortSpec.findName? specs want with
    | some t => rfl
    | none =>
      obtain hname' | hp := hmatch
      · exact absurd hname' (findName?_eq_none_iff.mp hname s hs)
      · obtain ⟨t, ht⟩ := exists_findPort? hs
        rw [isNumber_iff.mp hp, Option.bind_some, ht]
        rfl

/-! ## The draft of an entry -/

/-- The parts of an entry stand for a draft: the port is there and is found among the declared ones, a
container that is given is not blank and is the one of the ports, and the local port is the one that is
given, if one is. -/
structure Means (specs : List PortSpec) (e : Entry) (draft : Draft) : Prop where
  port : e.port ≠ []
  container : ∀ name ∈ e.container, name ≠ [] ∧
    ∀ c ∈ PortSpec.container? specs, String.ofList name = c
  remote : Finds specs (String.ofList e.port) draft.remote
  localPort : Option.Rel Fields.IsPort e.localPort draft.localPort

/-- A local port is read where the grammar has one. -/
theorem readLocal_eq_ok_iff {given : Option (List Char)} {l : Option UInt16}
    (htrim : ∀ text ∈ given, trim text = text) :
    readLocal given = .ok l ↔ Option.Rel Fields.IsPort given l := by
  cases given with
  | none =>
    rw [readLocal, Except.ok.injEq]
    constructor
    · rintro rfl
      exact .none
    · rintro ⟨⟩
      rfl
  | some text =>
    rw [readLocal]
    cases hread : Text.readNonzeroPort? text with
    | none =>
      refine iff_of_false (by simp) ?_
      rintro ⟨hport⟩
      rw [Fields.isPort_iff, htrim text rfl, hread] at hport
      cases hport
    | some p =>
      rw [Except.ok.injEq]
      constructor
      · rintro rfl
        exact .some (Fields.isPort_iff.mpr (by rw [htrim text rfl, hread]))
      · rintro ⟨hport⟩
        rw [Fields.isPort_iff, htrim text rfl, hread] at hport
        exact hport

/-- An entry is resolved to the draft that its parts stand for. -/
theorem entry_eq_ok_iff (h : HasParts text e) :
    (do (← Entry.read text).resolve specs) = .ok draft ↔ Means specs e draft := by
  have hread : Entry.read text =
      if e.port = [] ∨ e.container = some [] then .error (.malformed (String.ofList text))
      else .ok e := by
    rw [← hasParts_iff.mp h]
    rfl
  rw [hread, bind_eq_ok_iff]
  simp only [resolve_eq_ok_iff, lookup?_eq_some_iff]
  by_cases hbad : e.port = [] ∨ e.container = some []
  · rw [if_pos hbad]
    refine iff_of_false ?_ fun hmeans => ?_
    · rintro ⟨_, he, -⟩
      cases he
    · obtain hport | hblank := hbad
      · exact hmeans.port hport
      · exact (hmeans.container [] hblank).1 rfl
  · rw [if_neg hbad]
    rw [not_or] at hbad
    constructor
    · rintro ⟨_, ⟨⟩, hcontainer, hremote, hlocal⟩
      refine ⟨hbad.1, fun name hname => ⟨?_, hcontainer name hname⟩, hremote,
        (readLocal_eq_ok_iff h.trim_localPort).mp hlocal⟩
      rintro rfl
      exact hbad.2 hname
    · intro hmeans
      exact ⟨e, rfl, fun name hname => (hmeans.container name hname).2, hmeans.remote,
        (readLocal_eq_ok_iff h.trim_localPort).mpr hmeans.localPort⟩

/-- An annotation is resolved to the drafts that its entries stand for, in order. -/
theorem ofAnnotations_eq_ok_iff {a : Annotations} {value : String} {tokens : List (List Char)}
    {drafts : List Draft} (hvalue : a.get? preferenceKey = some value)
    (htokens : Separated value.toList tokens) :
    ofAnnotations a specs = .ok drafts ↔ specs ≠ [] ∧
      List.Forall₂ (fun token draft => Means specs (Entry.parts token) draft) (nonBlank tokens)
        drafts := by
  rw [ofAnnotations, hvalue]
  dsimp only
  by_cases hspecs : specs = []
  · rw [if_pos hspecs]
    exact iff_of_false (by simp) fun h => h.1 hspecs
  · have hall : resolveAll value specs = .ok drafts ↔
        List.Forall₂ (fun token draft => Means specs (Entry.parts token) draft) (nonBlank tokens)
          drafts := by
      rw [resolveAll, entries_eq htokens, Fields.mapM_eq_ok_iff, List.forall₂_map_left_iff]
      have hentry : ∀ token draft,
          (do (← Entry.read (trim token)).resolve specs) = .ok draft ↔
            Means specs (Entry.parts token) draft := fun token draft => by
        rw [← parts_trim]
        exact entry_eq_ok_iff (hasParts_iff.mpr rfl)
      simp only [hentry]
    rw [if_neg hspecs, ← hall, and_iff_right hspecs]
    cases resolveAll value specs <;> simp [Except.mapError]

/-- A faulty annotation is an unresolved one. -/
theorem kind_of_ofAnnotations {a : Annotations} {cause : Error}
    (h : ofAnnotations a specs = .error cause) : cause.kind = "resolution" := by
  rw [ofAnnotations] at h
  split at h
  · cases h
  · split at h
    · cases h
      rfl
    · obtain ⟨_, -, rfl⟩ := mapError_eq_error_iff.mp h
      rfl

/-! ## All or nothing -/

/-- What is wrong with an entry about the declared ports of a container. -/
inductive Fault (c : String) (specs : List PortSpec) (e : Entry) : Prop
  | malformed (h : e.port = [] ∨ e.container = some [])
  | otherContainer {name : List Char} (h : name ∈ e.container) (hne : String.ofList name ≠ c)
  | unmatched (h : ∀ s ∈ specs, s.name ≠ some (String.ofList e.port) ∧ ¬ IsNumber e.port s.port)
  | badLocal {given : List Char} (h : given ∈ e.localPort) (hport : ∀ p, ¬ Fields.IsPort given p)

/-- A draft stands for an entry about the declared ports of a container. -/
structure StandsFor (c : String) (specs : List PortSpec) (token : List Char) (draft : Draft) :
    Prop where
  declared : draft.remote ∈ specs ∧ draft.remote.container = c ∧
    draft.remote.protocol = PortSpec.tcp
  remotePort : 1 ≤ draft.remote.port.toNat ∧ draft.remote.port.toNat ≤ 65535
  unset : draft.localPort = none ↔ ¬ [':', ':'] <:+: token
  localPort : ∀ p ∈ draft.localPort, 1 ≤ p.toNat ∧ p.toNat ≤ 65535
  parts : ∃ e, HasParts token e ∧ (∀ name ∈ e.container, String.ofList name = c) ∧
    Finds specs (String.ofList e.port) draft.remote ∧
      Option.Rel Fields.IsPort e.localPort draft.localPort

/-- An entry has a local part exactly if it has a double colon. -/
theorem HasParts.localPort_eq_none_iff (h : HasParts text e) :
    e.localPort = none ↔ ¬ [':', ':'] <:+: text := by
  obtain ⟨head, hlocal, -⟩ := h
  cases hl : e.localPort with
  | none =>
    rw [hl] at hlocal
    exact iff_of_true rfl hlocal.2
  | some tail =>
    rw [hl] at hlocal
    obtain ⟨t, ⟨rfl, -⟩, -⟩ := hlocal
    exact iff_of_false (Option.some_ne_none tail) fun h => h ⟨head, t, by simp⟩

/-- A local port is there if one is given, and it is not zero. -/
theorem localPort_of_rel {given : Option (List Char)} {l : Option UInt16}
    (h : Option.Rel Fields.IsPort given l) :
    (l = none ↔ given = none) ∧ (∀ text ∈ given, ∃ p, Fields.IsPort text p) ∧ ∀ p ∈ l, p ≠ 0 := by
  cases h with
  | none => simp
  | @some text p hp =>
    have hne : p ≠ 0 := by
      rintro rfl
      exact absurd hp.pos (by decide)
    simpa using ⟨⟨p, hp⟩, hne⟩

/-- A faulty entry stands for nothing, and every other one stands for a draft. -/
theorem exists_means_iff {c : String} (hc : PortSpec.container? specs = some c) :
    (∃ draft, Means specs e draft) ↔ ¬ Fault c specs e := by
  constructor
  · rintro ⟨draft, hport, hcontainer, hremote, hlocal⟩ fault
    cases fault with
    | malformed h => exact h.elim hport fun hblank => (hcontainer [] hblank).1 rfl
    | otherContainer h hne => exact hne ((hcontainer _ h).2 c hc)
    | unmatched h =>
      obtain ⟨s, hs, hmatch⟩ := exists_finds_iff.mp ⟨_, hremote⟩
      rw [String.toList_ofList] at hmatch
      exact hmatch.elim (h s hs).1 (h s hs).2
    | badLocal h hport =>
      obtain ⟨p, hp⟩ := (localPort_of_rel hlocal).2.1 _ h
      exact hport p hp
  · intro hsound
    have hremote : ∃ s, Finds specs (String.ofList e.port) s := by
      rw [exists_finds_iff, String.toList_ofList]
      by_contra hnone
      push Not at hnone
      exact hsound (.unmatched hnone)
    have hlocal : ∃ l, Option.Rel Fields.IsPort e.localPort l := by
      cases hl : e.localPort with
      | none => exact ⟨none, .none⟩
      | some given =>
        by_contra hnone
        exact hsound (.badLocal hl fun p hp => hnone ⟨some p, .some hp⟩)
    obtain ⟨s, hs⟩ := hremote
    obtain ⟨l, hl⟩ := hlocal
    refine ⟨⟨s, l⟩, fun hport => hsound (.malformed (.inl hport)), fun name hname => ⟨?_, ?_⟩, hs, hl⟩
    · rintro rfl
      exact hsound (.malformed (.inr hname))
    · intro actual hactual
      rw [hc] at hactual
      cases hactual
      by_contra hne
      exact hsound (.otherContainer hname hne)

/-- A port that is not zero is in range. -/
theorem port_in_range {p : UInt16} (hp : p ≠ 0) : 1 ≤ p.toNat ∧ p.toNat ≤ 65535 := by
  have hpos : p.toNat ≠ 0 := fun hzero => hp (UInt16.toNat_inj.mp hzero)
  have hbound := p.toNat_lt
  omega

/-- The draft that an entry stands for is about a declared port of the container. -/
theorem Means.standsFor {c : String} {cs : List Container}
    (hc : PortSpec.container? (Container.resolve c cs) = some c) {token : List Char}
    (h : Means (Container.resolve c cs) (Entry.parts token) draft) :
    StandsFor c (Container.resolve c cs) token draft := by
  have hparts : HasParts token (Entry.parts token) := hasParts_iff.mpr rfl
  have hmem := PortSpec.mem_of_lookup?_eq_some (lookup?_eq_some_iff.mpr h.remote)
  obtain ⟨hcontainer, hprotocol, hport⟩ := Container.mem_resolve hmem
  obtain ⟨hunset, -, hpos⟩ := localPort_of_rel h.localPort
  exact ⟨⟨hmem, hcontainer, hprotocol⟩, port_in_range hport,
    hunset.trans hparts.localPort_eq_none_iff, fun p hp => port_in_range (hpos p hp), _, hparts,
    fun name hname => (h.container name hname).2 c hc, h.remote, h.localPort⟩

theorem container?_resolve {c : String} {cs : List Container} (hne : Container.resolve c cs ≠ []) :
    PortSpec.container? (Container.resolve c cs) = some c := by
  obtain ⟨first, rest, hspecs⟩ := List.exists_cons_of_ne_nil hne
  have hfirst : first ∈ Container.resolve c cs := by simp [hspecs]
  rw [PortSpec.container?, hspecs, List.head?_cons, Option.map_some,
    (Container.mem_resolve hfirst).1]

/-- The preferred ports of a container are resolved all or nothing. With the annotation, the drafts are
one for each entry that is not blank, in order, each about a declared port of the container. If the
container declares none, or if any entry is faulty, there are no drafts but an error of unresolved
ports. Without the annotation there is no draft and no error. -/
theorem preferences_all_or_nothing (c : String) (cs : List Container) (a : Annotations) :
    (a.get? preferenceKey = none → ofAnnotations a (Container.resolve c cs) = .ok []) ∧
    ∀ value, a.get? preferenceKey = some value → ∃ tokens, Separated value.toList tokens ∧
      (∀ drafts, ofAnnotations a (Container.resolve c cs) = .ok drafts →
        List.Forall₂ (StandsFor c (Container.resolve c cs)) (nonBlank tokens) drafts) ∧
      ((∃ cause, ofAnnotations a (Container.resolve c cs) = .error cause) ↔
        Container.resolve c cs = [] ∨ ∃ token ∈ nonBlank tokens, ∃ e, HasParts token e ∧
          Fault c (Container.resolve c cs) e) ∧
      ∀ cause, ofAnnotations a (Container.resolve c cs) = .error cause →
        cause.kind = "resolution" := by
  have hcontainer : Container.resolve c cs ≠ [] →
      PortSpec.container? (Container.resolve c cs) = some c := container?_resolve
  refine ⟨fun hnone => by rw [ofAnnotations, hnone], fun value hvalue => ?_⟩
  have htokens : Separated value.toList (Text.pieces ',' value.toList) := separated_iff.mpr rfl
  refine ⟨_, htokens, fun drafts hdrafts => ?_, ?_, fun cause => kind_of_ofAnnotations⟩
  · obtain ⟨hne, hall⟩ := (ofAnnotations_eq_ok_iff hvalue htokens).mp hdrafts
    exact hall.imp fun token draft h => h.standsFor (hcontainer hne)
  · rw [exists_error_iff]
    simp only [ofAnnotations_eq_ok_iff hvalue htokens, exists_and_left, Fields.exists_forall₂_iff]
    by_cases hne : Container.resolve c cs = []
    · simp [hne]
    · simp only [exists_means_iff (hcontainer hne), exists_hasParts_iff]
      simp [hne]

end PortForward.Preference
