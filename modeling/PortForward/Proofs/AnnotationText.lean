/-
# Annotations that are written out

What an operator wants is written down as an annotation in many ways: with blanks around every part, and
with blank entries in between. However it is written, it is read back as what was wanted.

* `Wish`, `Wish.Spells`, `Written` : what is wanted, and the texts that say so;
* `Wish.Spells.hasParts`, `Written.parts` : the parts of these texts are the parts of the wish;
* `Wish.means_entry_iff` : the draft that fulfils a wish;
* `preferences_read_back` : the annotation is resolved to the drafts that fulfil the wishes.
-/
import PortForward.Proofs.Annotations

namespace PortForward.Preference

open Text (trim AllBlank Padded)

/-! ## Wishes and their texts -/

/-- A port that is wanted: by its name or number, perhaps of a certain container, perhaps under a certain
local port. -/
structure Wish where
  container : Option String
  port : String
  localPort : Option UInt16

/-- A text that can stand as a container or as a port in an entry. -/
@[mk_iff] structure IsWord (s : String) : Prop where
  nonempty : s.toList ≠ []
  trimmed : trim s.toList = s.toList
  comma : ',' ∉ s.toList
  colon : ':' ∉ s.toList

/-- A wish that can be written as an entry. -/
@[mk_iff] structure Wish.Proper (w : Wish) : Prop where
  container : ∀ name ∈ w.container, IsWord name
  port : IsWord w.port
  localPort : w.localPort ≠ some 0

instance (s : String) : Decidable (IsWord s) := decidable_of_iff _ (isWord_iff s).symm

instance (w : Wish) : Decidable w.Proper := decidable_of_iff _ (Wish.proper_iff w).symm

/-- `[container:]port` with blanks around both. -/
def SpellsPort : Option String → String → List Char → Prop
  | none, port, head => Padded port.toList head
  | some name, port, head =>
    ∃ n p, Padded name.toList n ∧ Padded port.toList p ∧ head = n ++ ':' :: p

/-- `head[::local]` with blanks around the local port. -/
def SpellsLocal (head : List Char) : Option UInt16 → List Char → Prop
  | none, text => text = head
  | some l, text => ∃ t, Padded (Text.portText l) t ∧ text = head ++ ':' :: ':' :: t

/-- An entry that says what is wanted. -/
def Wish.Spells (w : Wish) (text : List Char) : Prop :=
  ∃ head, SpellsPort w.container w.port head ∧ SpellsLocal head w.localPort text

/-- Entries that say what is wanted, in order, with any number of blank entries in between. -/
inductive Written : List Wish → List (List Char) → Prop
  | nil : Written [] []
  | blank {wishes : List Wish} {tokens : List (List Char)} {text : List Char} (h : AllBlank text)
      (rest : Written wishes tokens) : Written wishes (text :: tokens)
  | entry {w : Wish} {wishes : List Wish} {tokens : List (List Char)} {text : List Char}
      (h : w.Spells text) (rest : Written wishes tokens) : Written (w :: wishes) (text :: tokens)

/-- The parts of an entry that says what is wanted. -/
def Wish.entry (w : Wish) : Entry :=
  ⟨w.container.map String.toList, w.port.toList, w.localPort.map Text.portText⟩

variable {w : Wish} {wishes : List Wish} {text head : List Char} {tokens : List (List Char)}
  {specs : List PortSpec} {draft : Draft}

/-! ## The parts of a text -/

/-- The container and the port of an entry are cut at the colon between them. -/
theorem SpellsPort.cutsContainer {container : Option String} {port : String}
    (hcontainer : ∀ name ∈ container, IsWord name) (hport : IsWord port)
    (h : SpellsPort container port head) :
    CutsContainer head (container.map String.toList) port.toList := by
  cases container with
  | none => exact ⟨h.not_mem (by decide) hport.colon, h.trim_eq.trans hport.trimmed⟩
  | some name =>
    have hname := hcontainer name rfl
    obtain ⟨n, p, hn, hp, rfl⟩ := h
    exact ⟨n, p, ⟨rfl, hn.not_mem (by decide) hname.colon⟩, hn.trim_eq.trans hname.trimmed,
      hp.trim_eq.trans hport.trimmed⟩

/-- There is no double colon before the local port. -/
theorem SpellsPort.single {container : Option String} {port : String}
    (hcontainer : ∀ name ∈ container, IsWord name) (hport : IsWord port)
    (h : SpellsPort container port head) : ¬ [':', ':'] <:+: head ++ [':'] := by
  have hlast : ¬ [':', ':'] <:+: [':'] := by decide
  cases container with
  | none =>
    have hcolon : ':' ∉ head := Padded.not_mem h (by decide) hport.colon
    rwa [Text.colons_infix_append_left hcolon]
  | some name =>
    obtain ⟨n, p, hn, hp, rfl⟩ := h
    have hcolon : ':' ∉ p := hp.not_mem (by decide) hport.colon
    -- the port stands between the two colons, and it is not empty
    have hhead : (p ++ [':']).head? ≠ some ':' := by
      obtain ⟨c, p, rfl⟩ := List.exists_cons_of_ne_nil (hp.ne_nil hport.nonempty)
      simpa using fun hc : c = ':' => hcolon (hc ▸ List.mem_cons_self)
    rw [List.append_assoc, Text.colons_infix_append_left
      (hn.not_mem (by decide) (hcontainer name rfl).colon), List.cons_append,
      Text.cut_infix_cons_iff, Text.colons_infix_append_left hcolon]
    exact fun h => h.elim (fun h => hhead h.2) hlast

theorem SpellsLocal.cutsLocal {l : Option UInt16} (hsingle : ¬ [':', ':'] <:+: head ++ [':'])
    (h : SpellsLocal head l text) : CutsLocal text head (l.map Text.portText) := by
  cases l with
  | none =>
    obtain rfl := h
    exact ⟨rfl, fun hcut => hsingle (List.infix_append_of_infix_left hcut)⟩
  | some l =>
    obtain ⟨t, ht, rfl⟩ := h
    exact ⟨t, ⟨rfl, hsingle⟩, ht.trim_eq.trans (trim_nameChars (nameChars_portText l))⟩

/-- An entry that says what is wanted has the parts of the wish. -/
theorem Wish.Spells.hasParts (hw : w.Proper) (h : w.Spells text) : HasParts text w.entry := by
  obtain ⟨head, hport, hlocal⟩ := h
  exact ⟨head, hlocal.cutsLocal (hport.single hw.container hw.port),
    hport.cutsContainer hw.container hw.port⟩

/-- It is not blank. -/
theorem Wish.Spells.trim_ne_nil (hw : w.Proper) (h : w.Spells text) : trim text ≠ [] := by
  intro hblank
  -- a blank text would have an empty port
  have hparts := parts_trim text
  rw [hblank, hasParts_iff.mp (h.hasParts hw)] at hparts
  exact hw.port.nonempty (congrArg Entry.port hparts).symm

/-- It holds no comma. -/
theorem Wish.Spells.comma (hw : w.Proper) (h : w.Spells text) : ',' ∉ text := by
  obtain ⟨head, hport, hlocal⟩ := h
  have hhead : ',' ∉ head := by
    revert hport
    cases hc : w.container with
    | none => exact fun hport => Padded.not_mem hport (by decide) hw.port.comma
    | some name =>
      rintro ⟨n, p, hn, hp, rfl⟩
      have hcomma : ',' ∉ n ∧ ',' ∉ p :=
        ⟨hn.not_mem (by decide) (hw.container name hc).comma, hp.not_mem (by decide) hw.port.comma⟩
      simp [hcomma]
  revert hlocal
  cases w.localPort with
  | none => exact fun hlocal => hlocal ▸ hhead
  | some l =>
    rintro ⟨t, ht, rfl⟩
    have hcomma : ',' ∉ t := ht.not_mem (by decide) (not_mem_nameChars (nameChars_portText l)).1
    simp [hcomma, hhead]

/-! ## The whole annotation -/

/-- The entries hold no comma. -/
theorem Written.comma (h : Written wishes tokens) (hw : ∀ w ∈ wishes, w.Proper) :
    ∀ token ∈ tokens, ',' ∉ token := by
  induction h with
  | nil => simp
  | blank hblank _ ih =>
    rw [List.forall_mem_cons]
    exact ⟨hblank.not_mem (by decide), ih hw⟩
  | entry h _ ih =>
    rw [List.forall_mem_cons] at hw ⊢
    exact ⟨h.comma hw.1, ih hw.2⟩

/-- The parts of the entries that are not blank are those of the wishes. -/
theorem Written.parts (h : Written wishes tokens) (hw : ∀ w ∈ wishes, w.Proper) :
    (nonBlank tokens).map Entry.parts = wishes.map Wish.entry := by
  induction h with
  | nil => rfl
  | blank hblank _ ih =>
    rw [nonBlank, List.filter_cons_of_neg (by simpa using Text.trim_eq_nil_iff.mpr hblank)]
    exact ih hw
  | entry h _ ih =>
    rw [List.forall_mem_cons] at hw
    rw [nonBlank, List.filter_cons_of_pos (by simpa using h.trim_ne_nil hw.1), List.map_cons,
      List.map_cons, hasParts_iff.mp (h.hasParts hw.1)]
    exact congrArg _ (ih hw.2)

/-- Tokens that are joined with commas are what stands between them. Without tokens there is one, which
is empty. -/
theorem exists_separated (hcomma : ∀ token ∈ tokens, ',' ∉ token) :
    ∃ found, Separated (Text.joined ',' tokens) found ∧ nonBlank found = nonBlank tokens := by
  by_cases hne : tokens = []
  · subst hne
    exact ⟨[[]], ⟨by simp, by simp, rfl⟩, rfl⟩
  · exact ⟨tokens, ⟨hne, hcomma, rfl⟩, rfl⟩

/-- An annotation that says what is wanted is resolved by the parts of the wishes. -/
theorem ofAnnotations_written_iff {a : Annotations} {drafts : List Draft} (hspecs : specs ≠ [])
    (hwishes : ∀ w ∈ wishes, w.Proper) (hwritten : Written wishes tokens)
    (hvalue : a.get? preferenceKey = some (String.ofList (Text.joined ',' tokens))) :
    ofAnnotations a specs = .ok drafts ↔
      List.Forall₂ (fun w draft => Means specs w.entry draft) wishes drafts := by
  obtain ⟨found, hfound, hblank⟩ := exists_separated (hwritten.comma hwishes)
  rw [← String.toList_ofList (l := Text.joined ',' tokens)] at hfound
  rw [ofAnnotations_eq_ok_iff hvalue hfound, and_iff_right hspecs, hblank]
  rw [← List.forall₂_map_left_iff (R := Means specs) (f := Entry.parts), hwritten.parts hwishes,
    List.forall₂_map_left_iff]

/-- The written form of a local port stands for it. -/
theorem rel_isPort_iff {l given : Option UInt16} (hgiven : given ≠ some 0) :
    Option.Rel Fields.IsPort (given.map Text.portText) l ↔ l = given := by
  cases given with
  | none =>
    constructor
    · rintro ⟨⟩
      rfl
    · rintro rfl
      exact .none
  | some p =>
    have hp := fun q => @isPort_portText_iff p q fun hzero => hgiven (congrArg some hzero)
    constructor
    · rintro ⟨hq⟩
      rw [(hp _).mp hq]
    · rintro rfl
      exact .some ((hp p).mpr rfl)

/-- The parts of a wish stand for the draft of the port that is wanted. -/
theorem Wish.means_entry_iff {c : String} (hc : PortSpec.container? specs = some c)
    (hw : w.Proper) : Means specs w.entry draft ↔
      (∀ name ∈ w.container, name = c) ∧ Finds specs w.port draft.remote ∧
        draft.localPort = w.localPort := by
  have hlocal : Option.Rel Fields.IsPort w.entry.localPort draft.localPort ↔
      draft.localPort = w.localPort := rel_isPort_iff hw.localPort
  have hport : String.ofList w.entry.port = w.port := String.ofList_toList
  have hcontainer : (∀ name ∈ w.entry.container, name ≠ [] ∧
      ∀ actual ∈ PortSpec.container? specs, String.ofList name = actual) ↔
        ∀ name ∈ w.container, name = c := by
    rw [hc, Wish.entry]
    cases hname : w.container with
    | none => simp
    | some name => simp [(hw.container name hname).nonempty]
  constructor
  · rintro ⟨-, hgiven, hremote, hrel⟩
    rw [hport] at hremote
    exact ⟨hcontainer.mp hgiven, hremote, hlocal.mp hrel⟩
  · rintro ⟨hgiven, hremote, hrel⟩
    rw [← hport] at hremote
    exact ⟨hw.port.nonempty, hcontainer.mpr hgiven, hremote, hlocal.mpr hrel⟩

theorem exists_draft_iff {P : PortSpec → Prop} {l : Option UInt16} :
    (∃ draft : Draft, P draft.remote ∧ draft.localPort = l) ↔ ∃ s, P s :=
  ⟨fun ⟨draft, h, _⟩ => ⟨draft.remote, h⟩, fun ⟨s, h⟩ => ⟨⟨s, l⟩, h, rfl⟩⟩

/-- An annotation that says what is wanted is read back. It is resolved exactly if every container that
is given is the one of the declared ports, and every port that is wanted is the name or the number of a
declared one; and then to one draft for each wish, in order, about the first declared port with the name,
or if there is none, with the number, and with the local port that is wanted. Blanks around the parts and
blank entries make no difference. -/
theorem preferences_read_back (specs : List PortSpec) (wishes : List Wish)
    (tokens : List (List Char)) (a : Annotations) (hspecs : specs ≠ [])
    (hwishes : ∀ w ∈ wishes, w.Proper) (hwritten : Written wishes tokens)
    (hvalue : a.get? preferenceKey = some (String.ofList (Text.joined ',' tokens))) :
    ((∃ drafts, ofAnnotations a specs = .ok drafts) ↔
      (∀ w ∈ wishes, ∀ name ∈ w.container, PortSpec.container? specs = some name) ∧
      ∀ w ∈ wishes, ∃ s ∈ specs, s.name = some w.port ∨ IsNumber w.port.toList s.port) ∧
    ∀ drafts, ofAnnotations a specs = .ok drafts ↔
      (∀ w ∈ wishes, ∀ name ∈ w.container, PortSpec.container? specs = some name) ∧
      List.Forall₂ (fun w draft => Finds specs w.port draft.remote ∧ draft.localPort = w.localPort)
        wishes drafts := by
  obtain ⟨c, hc⟩ : ∃ c, PortSpec.container? specs = some c := by
    obtain ⟨first, rest, rfl⟩ := List.exists_cons_of_ne_nil hspecs
    exact ⟨first.container, rfl⟩
  have hok : ∀ drafts, ofAnnotations a specs = .ok drafts ↔
      (∀ w ∈ wishes, ∀ name ∈ w.container, name = c) ∧
      List.Forall₂ (fun w draft => Finds specs w.port draft.remote ∧ draft.localPort = w.localPort)
        wishes drafts := by
    intro drafts
    rw [ofAnnotations_written_iff hspecs hwishes hwritten hvalue, ← List.forall₂_and_left]
    exact Fields.forall₂_congr fun w hw draft => w.means_entry_iff hc (hwishes w hw)
  have hcontainer : ∀ name, PortSpec.container? specs = some name ↔ name = c := fun name => by
    rw [hc, Option.some.injEq]
    exact eq_comm
  simp only [hcontainer]
  refine ⟨?_, hok⟩
  simp only [hok, exists_and_left, Fields.exists_forall₂_iff, exists_draft_iff, exists_finds_iff]

/-! ### An example of an annotation -/

/-- Declared ports, one of them with the number of another one as its name. -/
def crossedPorts : List PortSpec :=
  [⟨"web", some "http", "TCP", 8080⟩, ⟨"web", none, "TCP", 9000⟩, ⟨"web", some "9000", "TCP", 80⟩]

def crossedWishes : List Wish := [⟨some "web", "http", some 8443⟩, ⟨none, "9000", none⟩,
  ⟨none, "+9000", none⟩]

def crossedTokens : List (List Char) :=
  [" web : http :: 8443".toList, [], "\t9000".toList, " ".toList, "+9000 ".toList]

def crossedAnnotations : Annotations := ⟨[(preferenceKey, " web : http :: 8443,,\t9000, ,+9000 ")]⟩

/-- A name counts before a number, and with a plus sign it is the number. -/
theorem crossed_preferences_read_back :
    crossedPorts ≠ [] ∧ (∀ w ∈ crossedWishes, w.Proper) ∧ Written crossedWishes crossedTokens ∧
      crossedAnnotations.get? preferenceKey = some (String.ofList (Text.joined ',' crossedTokens)) ∧
      ofAnnotations crossedAnnotations crossedPorts = .ok
        [⟨⟨"web", some "http", "TCP", 8080⟩, some 8443⟩, ⟨⟨"web", some "9000", "TCP", 80⟩, none⟩,
          ⟨⟨"web", none, "TCP", 9000⟩, none⟩] := by
  have hwishes : ∀ w ∈ crossedWishes, w.Proper := by decide
  have hgiven : Wish.Spells ⟨some "web", "http", some 8443⟩ " web : http :: 8443".toList :=
    ⟨" web : http ".toList, ⟨" web ".toList, " http ".toList,
      ⟨[' '], [' '], by decide, by decide, rfl⟩, ⟨[' '], [' '], by decide, by decide, rfl⟩, rfl⟩,
      ⟨" 8443".toList, ⟨[' '], [], by decide, by decide, rfl⟩, rfl⟩⟩
  have hnamed : Wish.Spells ⟨none, "9000", none⟩ "\t9000".toList :=
    ⟨_, ⟨['\t'], [], by decide, by decide, rfl⟩, rfl⟩
  have hnumbered : Wish.Spells ⟨none, "+9000", none⟩ "+9000 ".toList :=
    ⟨_, ⟨[], [' '], by decide, by decide, rfl⟩, rfl⟩
  have hwritten : Written crossedWishes crossedTokens :=
    .entry hgiven (.blank (by decide) (.entry hnamed (.blank (by decide) (.entry hnumbered .nil))))
  have hvalue : crossedAnnotations.get? preferenceKey =
      some (String.ofList (Text.joined ',' crossedTokens)) := by decide
  refine ⟨by decide, hwishes, hwritten, hvalue,
    ((preferences_read_back crossedPorts crossedWishes crossedTokens crossedAnnotations (by decide)
      hwishes hwritten hvalue).2 _).mpr ⟨by decide, ?_⟩⟩
  have hfinds : ∀ want s, PortSpec.lookup? crossedPorts want = some s → Finds crossedPorts want s :=
    fun _ _ => lookup?_eq_some_iff.mp
  exact .cons ⟨hfinds _ _ (by decide), rfl⟩ (.cons ⟨hfinds _ _ (by decide), rfl⟩
    (.cons ⟨hfinds _ _ (by decide), rfl⟩ .nil))

end PortForward.Preference
