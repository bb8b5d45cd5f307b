/-
# The grammar of the dialog's fields

Which texts the dialog's fields may hold, said without the reader: a port is a decimal number up to
65535 that is not zero, with blanks around it or a plus sign before it; a list has commas between
ports; a remote field is a list of plain ports, or it is cut at its last `::`.

* `remoteField_of_read`, `read_of_remoteField` : the reader of the remote field is right about it;
* `read_eq_ok_iff` : the reader of all fields accepts what the grammar describes, and nothing else;
* `fields_grammar` : with that, what is true of every tunnel, and which errors there are.
-/
import Mathlib.Data.List.Forall2
import PortForward.Fields

namespace PortForward.Fields

open Text (trim)

/-! ## The grammar -/

/-- A token that is a port: one up to 65535 and not zero, in decimal digits after blanks and perhaps
a plus sign. -/
def IsPort (token : List Char) (p : UInt16) : Prop :=
  ∃ digits, (trim token = digits ∨ trim token = '+' :: digits) ∧ digits ≠ [] ∧
    (∀ c ∈ digits, c.isDigit = true) ∧ Nat.ofDigitChars 10 digits 0 = p.toNat ∧ p ≠ 0

/-- A text of nothing but digits, blanks around it aside. -/
def IsNumeral (token : List Char) : Prop := ∀ c ∈ trim token, c.isDigit = true

/-- A port without a plus sign. -/
def IsPlainPort (token : List Char) (p : UInt16) : Prop := IsNumeral token ∧ IsPort token p

/-- Tokens with commas between them, one for each port. -/
def IsList (Item : List Char → UInt16 → Prop) (s : List Char) (ports : List UInt16) : Prop :=
  ∃ tokens, tokens ≠ [] ∧ (∀ token ∈ tokens, ',' ∉ token) ∧ s = Text.joined ',' tokens ∧
    List.Forall₂ Item tokens ports

/-- The last `::` of a text with this head and this tail is the one between them. -/
def LastCut (tail : List Char) : Prop := ¬ [':', ':'] <:+: ':' :: tail

/-- A remote field, the container ports in it, and the local ports that it stands for if the local
field is empty. -/
inductive RemoteField : List Char → List UInt16 → List UInt16 → Prop
  /-- `80,443` : the local ports are the same. -/
  | list {s : List Char} {ports : List UInt16} (hcut : ¬ [':', ':'] <:+: s)
      (h : IsList IsPlainPort s ports) : RemoteField s ports ports
  /-- `80::8080` : the local port stands behind the container port. -/
  | pair {head tail : List Char} {p q : UInt16} (hcut : LastCut tail) (hne : trim head ≠ [])
      (hcomma : ',' ∉ trim head) (hhead : IsNumeral head) (hp : IsPort head p)
      (hq : IsPort tail q) : RemoteField (head ++ ':' :: ':' :: tail) [p] [q]
  /-- `web::80` : the container port stands behind its name, and the local port is the same. -/
  | named {head tail : List Char} {q : UInt16} (hcut : LastCut tail) (hne : trim head ≠ [])
      (hcomma : ',' ∉ trim head) (hhead : ¬ IsNumeral head) (hq : IsPort tail q) :
      RemoteField (head ++ ':' :: ':' :: tail) [q] [q]

/-- The tunnels that the fields describe: one for each container port, in order, with the local port
at the same place. -/
def Describes (i : Input) (ts : List Tunnel) : Prop :=
  ∃ mirrored, RemoteField (trim i.remote.toList) (ts.map (·.remotePort)) mirrored ∧
    (if trim i.localPorts.toList = [] then ts.map (·.localPort) = mirrored
      else IsList IsPort (trim i.localPorts.toList) (ts.map (·.localPort))) ∧
    ∀ t ∈ ts, t.address =
      if trim i.address.toList = [] then i.defaultAddress else Text.trimmed i.address

/-! ## Ports -/

/-- The grammar of a port is what the reader of ports takes. -/
theorem isPort_iff {token : List Char} {p : UInt16} :
    IsPort token p ↔ Text.readNonzeroPort? (trim token) = some p := by
  rw [Text.readNonzeroPort?_eq_some_iff, Text.readNumber?_eq_some_iff]
  simp only [IsPort, ← exists_and_right, and_assoc]

/-- A port is read exactly where the grammar has one. -/
theorem port_eq_ok_iff (field : Field) {token : List Char} {p : UInt16} :
    port field token = .ok p ↔ IsPort token p := by
  rw [isPort_iff, port]
  cases Text.readNonzeroPort? (trim token) <;> simp

theorem allDigits_iff_isNumeral {token : List Char} :
    Text.allDigits (trim token) = true ↔ IsNumeral token := Text.allDigits_iff

/-- A port has digits. -/
theorem IsPort.trim_ne_nil {token : List Char} {p : UInt16} (h : IsPort token p) :
    trim token ≠ [] := by
  obtain ⟨digits, htrim | htrim, hne, -⟩ := h
  · rw [htrim]
    exact hne
  · rw [htrim]
    exact List.cons_ne_nil _ _

theorem IsPort.pos {token : List Char} {p : UInt16} (h : IsPort token p) : 0 < p.toNat := by
  obtain ⟨-, -, -, -, -, hp⟩ := h
  exact Nat.pos_of_ne_zero fun h0 => hp (UInt16.toNat_inj.mp h0)

/-! ## Lists -/

/-- A reader of all items of a list succeeds where it does so on each. -/
theorem mapM_eq_ok_iff {α β ε : Type} {f : α → Except ε β} {xs : List α} {ys : List β} :
    xs.mapM f = .ok ys ↔ List.Forall₂ (fun x y => f x = .ok y) xs ys := by
  induction xs generalizing ys with
  | nil =>
    rw [List.mapM_nil, List.forall₂_nil_left_iff]
    exact ⟨fun h => (Except.ok.inj h).symm, fun h => h ▸ rfl⟩
  | cons x xs ih =>
    rw [List.mapM_cons, List.forall₂_cons_left_iff]
    cases hx : f x with
    | error e =>
      constructor
      · intro h
        cases h
      · rintro ⟨y, -, h, -, -⟩
        cases h
    | ok y =>
      cases hxs : xs.mapM f with
      | error e =>
        constructor
        · intro h
          cases h
        · rintro ⟨-, zs, -, hzs, -⟩
          rw [← ih, hxs] at hzs
          cases hzs
      | ok zs =>
        constructor
        · intro h
          exact ⟨y, zs, rfl, ih.mp hxs, (Except.ok.inj h).symm⟩
        · rintro ⟨z, us, hz, hus, rfl⟩
          rw [← ih, hxs] at hus
          cases hz
          cases hus
          rfl

/-- What stands in the one of two related lists is related to something in the other. -/
theorem exists_of_mem_right {α β : Type} {R : α → β → Prop} {xs : List α} {ys : List β}
    (h : List.Forall₂ R xs ys) {y : β} (hy : y ∈ ys) : ∃ x, R x y := by
  induction h with
  | nil => cases hy
  | @cons x z xs zs hxz _ ih =>
    rcases List.mem_cons.mp hy with rfl | hy
    · exact ⟨x, hxz⟩
    · exact ih hy

/-- Each item of a list is related to something if a whole list of such things is. -/
theorem exists_forall₂_iff {α β : Type} {R : α → β → Prop} {xs : List α} :
    (∃ ys, List.Forall₂ R xs ys) ↔ ∀ x ∈ xs, ∃ y, R x y := by
  induction xs with
  | nil => simp
  | cons x xs ih =>
    rw [List.forall_mem_cons, ← ih]
    constructor
    · rintro ⟨_, _ | ⟨hfirst, hrest⟩⟩
      exact ⟨⟨_, hfirst⟩, _, hrest⟩
    · rintro ⟨⟨y, hfirst⟩, ys, hrest⟩
      exact ⟨y :: ys, .cons hfirst hrest⟩

/-- It matters only how the items of the one list are related. -/
theorem forall₂_congr {α β : Type} {R S : α → β → Prop} {xs : List α} {ys : List β}
    (h : ∀ x ∈ xs, ∀ y, R x y ↔ S x y) : List.Forall₂ R xs ys ↔ List.Forall₂ S xs ys := by
  constructor
  · intro hR
    exact ((List.forall₂_and_left _ _).mpr ⟨h, hR⟩).imp fun x y hxy => (hxy.1 y).mp hxy.2
  · intro hS
    exact ((List.forall₂_and_left _ _).mpr ⟨h, hS⟩).imp fun x y hxy => (hxy.1 y).mpr hxy.2

/-- A check of all items of a list succeeds where it does so on each. -/
theorem forM_eq_ok_iff {α ε : Type} {f : α → Except ε Unit} {xs : List α} :
    xs.forM f = .ok () ↔ ∀ x ∈ xs, f x = .ok () := by
  induction xs with
  | nil => simp [pure, Except.pure]
  | cons x xs ih =>
    rw [List.forM_eq_forM, List.forM_cons, List.forall_mem_cons, ← ih]
    cases f x <;> simp [bind, Except.bind]

/-- The pieces of a text are its tokens. -/
theorem isList_iff {Item : List Char → UInt16 → Prop} {s : List Char} {ports : List UInt16} :
    IsList Item s ports ↔ List.Forall₂ Item (Text.pieces ',' s) ports := by
  constructor
  · rintro ⟨tokens, hne, hcomma, rfl, h⟩
    rw [Text.pieces_joined hne hcomma]
    exact h
  · intro h
    exact ⟨Text.pieces ',' s, Text.pieces_ne_nil ',' s, fun _ => Text.not_mem_of_mem_pieces,
      (Text.pieces_join ',' s).symm, h⟩

/-- A list is read exactly where the grammar has one. -/
theorem portList_eq_ok_iff (field : Field) {s : List Char} {ports : List UInt16} :
    portList field s = .ok ports ↔ IsList IsPort s ports := by
  rw [portList, mapM_eq_ok_iff, isList_iff]
  simp only [port_eq_ok_iff]

/-- A list of plain ports is a list of numerals that are ports. -/
theorem isList_plain_iff {s : List Char} {ports : List UInt16} :
    IsList IsPlainPort s ports ↔ isNumberList s = true ∧ IsList IsPort s ports := by
  have hplain : IsPlainPort = fun token p =>
      (trim token ≠ [] && Text.allDigits (trim token)) = true ∧ IsPort token p := by
    funext token p
    rw [Bool.and_eq_true, decide_eq_true_iff, allDigits_iff_isNumeral, IsPlainPort]
    exact propext ⟨fun h => ⟨⟨h.2.trim_ne_nil, h.1⟩, h.2⟩, fun h => ⟨h.1.2, h.2⟩⟩
  rw [isList_iff, isList_iff, hplain, isNumberList, List.all_eq_true]
  exact List.forall₂_and_left _ _

/-- The digits of a port hold no comma. -/
theorem IsPort.comma {token : List Char} {p : UInt16} (h : IsPort token p) : ',' ∉ trim token := by
  obtain ⟨digits, htrim, -, hdigits, -⟩ := h
  have hcomma : ',' ∉ digits := fun hmem => absurd (hdigits ',' hmem) (by decide)
  rcases htrim with htrim | htrim
  · rw [htrim]
    exact hcomma
  · rw [htrim]
    exact List.not_mem_cons_of_ne_of_not_mem (by decide) hcomma

theorem IsPort.trimmed {token : List Char} {p : UInt16} (h : IsPort token p) :
    IsPort (trim token) p := by
  unfold IsPort
  rw [Text.trim_trim]
  exact h

/-- A port alone is a list. -/
theorem IsPort.isList {token : List Char} {p : UInt16} (h : IsPort token p) :
    IsList IsPort (trim token) [p] := by
  rw [isList_iff, Text.pieces_of_not_mem h.comma]
  exact .cons h.trimmed .nil

/-- No list is empty. -/
theorem IsList.ne_nil {s : List Char} {ports : List UInt16} (h : IsList IsPort s ports) :
    s ≠ [] := by
  rintro rfl
  obtain ⟨p, -, hp, -, -⟩ := List.forall₂_cons_left_iff.mp (isList_iff.mp h)
  exact hp.trim_ne_nil rfl

/-- A list has a port, and none is zero. -/
theorem IsList.ports {s : List Char} {ports : List UInt16} (h : IsList IsPort s ports) :
    ports ≠ [] ∧ ∀ p ∈ ports, 0 < p.toNat := by
  obtain ⟨tokens, hne, -, -, hall⟩ := h
  refine ⟨?_, fun p hp => ?_⟩
  · rintro rfl
    exact hne (List.forall₂_nil_right_iff.mp hall)
  · obtain ⟨token, htoken⟩ := exists_of_mem_right hall hp
    exact htoken.pos

/-! ## The remote field -/

section RemoteField

variable {s head tail : List Char} {r : Remote}

/-- What is read without a cut. -/
theorem read_uncut (hcut : Text.cutLast s = none) :
    Remote.read s = .ok r ↔ IsList IsPlainPort s r.ports ∧ r.localPort = none := by
  obtain ⟨ports, localPort⟩ := r
  rw [Remote.read, hcut, isList_plain_iff, ← portList_eq_ok_iff .containerSide]
  cases isNumberList s with
  | false => simp [throw, throwThe, MonadExceptOf.throw, bind, Except.bind]
  | true =>
    cases portList .containerSide s <;>
      simp [pure, Except.pure, bind, Except.bind, eq_comm]

/-- What is read at a cut. -/
theorem read_cut (hcut : Text.cutLast s = some (head, tail)) :
    Remote.read s = .ok r ↔ trim head ≠ [] ∧ ',' ∉ trim head ∧ ∃ q, IsPort tail q ∧
      ((IsNumeral head ∧ ∃ p, IsPort head p ∧ ⟨[p], some q⟩ = r) ∨
        (¬ IsNumeral head ∧ ⟨[q], none⟩ = r)) := by
  have hport : port .containerSide (trim head) = port .containerSide head := by
    simp only [port, Text.trim_trim]
  simp only [← port_eq_ok_iff .containerSide, ← allDigits_iff_isNumeral]
  rw [Remote.read, hcut]
  dsimp only
  rw [hport, ← and_assoc, ← not_or]
  by_cases hhead : trim head = [] ∨ ',' ∈ trim head
  · simp [hhead, throw, throwThe, MonadExceptOf.throw, bind, Except.bind]
  · rw [if_neg hhead]
    cases port .containerSide tail with
    | error cause => simp [bind, Except.bind]
    | ok q =>
      cases Text.allDigits (trim head) with
      | false => simp [hhead, bind, Except.bind, pure, Except.pure]
      | true =>
        cases port .containerSide head <;>
          simp [hhead, bind, Except.bind, pure, Except.pure]

/-- An empty local field stands for the local ports of the remote field, if it gives any. -/
theorem localPorts_given {q : UInt16} (hr : r.localPort = some q) :
    localPorts s r [] = .ok [q] := by
  rw [localPorts, if_pos rfl, hr]

/-- Without local ports in the remote field, an empty local field repeats what it ends with. -/
theorem localPorts_repeated {ports : List UInt16} (hr : r.localPort = none)
    (h : IsList IsPort (localFill s) ports) : localPorts s r [] = .ok ports := by
  rw [localPorts, if_pos rfl, hr]
  dsimp only
  rw [if_neg h.ne_nil]
  exact (portList_eq_ok_iff .localSide).mpr h

/-- A remote field with a cut ends with what stands behind it. -/
theorem localFill_cut (htrim : trim s = s) (hcut : Text.cutLast s = some (head, tail)) :
    localFill s = trim tail := by
  rw [localFill, htrim, hcut]

/-- A remote field that is a list of numbers is repeated whole. -/
theorem localFill_uncut (htrim : trim s = s) (hcut : Text.cutLast s = none)
    (hnumbers : isNumberList s = true) : localFill s = s := by
  rw [localFill, htrim, hcut]
  exact if_pos hnumbers

/-- A text is cut where the grammar cuts it. -/
theorem LastCut.cutLast (h : LastCut tail) (head : List Char) :
    Text.cutLast (head ++ ':' :: ':' :: tail) = some (head, tail) :=
  Text.cutLast_eq_some_iff.mpr ⟨rfl, h⟩

/-- Where the reader accepts a remote field, the grammar has it. -/
theorem remoteField_of_read (htrim : trim s = s) (h : Remote.read s = .ok r) :
    ∃ mirrored, RemoteField s r.ports mirrored ∧ localPorts s r [] = .ok mirrored := by
  cases hcut : Text.cutLast s with
  | none =>
    obtain ⟨hlist, hlocal⟩ := (read_uncut hcut).mp h
    obtain ⟨hnumbers, hports⟩ := isList_plain_iff.mp hlist
    refine ⟨r.ports, .list (Text.cutLast_eq_none_iff.mp hcut) hlist, localPorts_repeated hlocal ?_⟩
    rw [localFill_uncut htrim hcut hnumbers]
    exact hports
  | some p =>
    obtain ⟨head, tail⟩ := p
    obtain ⟨hne, hcomma, q, hq, hcase⟩ := (read_cut hcut).mp h
    obtain ⟨hs, hlast⟩ := Text.cutLast_eq_some_iff.mp hcut
    rcases hcase with ⟨hnumeral, p, hp, rfl⟩ | ⟨hnumeral, rfl⟩
    · refine ⟨[q], ?_, localPorts_given rfl⟩
      rw [hs]
      exact .pair hlast hne hcomma hnumeral hp hq
    · refine ⟨[q], ?_, localPorts_repeated rfl ?_⟩
      · rw [hs]
        exact .named hlast hne hcomma hnumeral hq
      · rw [localFill_cut htrim hcut]
        exact hq.isList

/-- Where the grammar has a remote field, the reader accepts it. -/
theorem read_of_remoteField {ports mirrored : List UInt16} (htrim : trim s = s)
    (h : RemoteField s ports mirrored) :
    ∃ r, Remote.read s = .ok r ∧ r.ports = ports ∧ localPorts s r [] = .ok mirrored := by
  cases h with
  | list hcut h =>
    have hcut := Text.cutLast_eq_none_iff.mpr hcut
    obtain ⟨hnumbers, hports⟩ := isList_plain_iff.mp h
    refine ⟨⟨ports, none⟩, (read_uncut hcut).mpr ⟨h, rfl⟩, rfl, localPorts_repeated rfl ?_⟩
    rw [localFill_uncut htrim hcut hnumbers]
    exact hports
  | @pair head tail p q hlast hne hcomma hhead hp hq =>
    have hcut := hlast.cutLast head
    refine ⟨⟨[p], some q⟩, (read_cut hcut).mpr ⟨hne, hcomma, q, hq, ?_⟩, rfl, localPorts_given rfl⟩
    exact Or.inl ⟨hhead, p, hp, rfl⟩
  | @named head tail q hlast hne hcomma hhead hq =>
    have hcut := hlast.cutLast head
    refine ⟨⟨[q], none⟩, (read_cut hcut).mpr ⟨hne, hcomma, q, hq, ?_⟩, rfl, ?_⟩
    · exact Or.inr ⟨hhead, rfl⟩
    · apply localPorts_repeated rfl
      rw [localFill_cut htrim hcut]
      exact hq.isList

end RemoteField

/-! ## All fields -/

variable {i : Input} {ts : List Tunnel}

/-- The local ports that the local field gives, or for an empty one the remote field. -/
theorem localPorts_eq_ok_iff {s : List Char} {r : Remote} {mirrored : List UInt16}
    (hmirrored : localPorts s r [] = .ok mirrored) {text : List Char} {locals : List UInt16} :
    localPorts s r text = .ok locals ↔
      if text = [] then locals = mirrored else IsList IsPort text locals := by
  by_cases htext : text = []
  · rw [htext, hmirrored, if_pos rfl, Except.ok.injEq]
    exact eq_comm
  · rw [localPorts, if_neg htext, if_neg htext]
    exact portList_eq_ok_iff .localSide

/-- The bind address of all tunnels. -/
def bindAddress (i : Input) : String :=
  if trim i.address.toList = [] then i.defaultAddress else Text.trimmed i.address

/-- The tunnels are put together from the two lists of ports if these are of one length. -/
theorem read_steps :
    read i = .ok ts ↔ ∃ r locals, Remote.read (trim i.remote.toList) = .ok r ∧
      localPorts (trim i.remote.toList) r (trim i.localPorts.toList) = .ok locals ∧
      locals.length = r.ports.length ∧
      r.ports.zipWith (fun remotePort localPort => ⟨bindAddress i, localPort, remotePort⟩) locals =
        ts := by
  rw [read]
  by_cases hempty : trim i.remote.toList = []
  · rw [hempty, if_pos rfl]
    constructor
    · intro h
      cases h
    · rintro ⟨r, -, hr, -⟩
      cases hr
  · rw [if_neg hempty]
    cases Remote.read (trim i.remote.toList) with
    | error cause => simp [bind, Except.bind]
    | ok r =>
      cases hl : localPorts (trim i.remote.toList) r (trim i.localPorts.toList) with
      | error cause => simp [bind, Except.bind, hl]
      | ok locals =>
        by_cases hlength : locals.length = r.ports.length
        · rw [bindAddress, Text.trimmed]
          cases trim i.address.toList <;>
            simp [bind, Except.bind, pure, Except.pure, hl, hlength]
        · simp [bind, Except.bind, pure, Except.pure, hl, hlength]

/-- Tunnels with these ports and this address are the ones that are put together from them. -/
theorem zipWith_eq_iff {address : String} {remotes locals : List UInt16}
    (hlength : locals.length = remotes.length) :
    remotes.zipWith (fun remotePort localPort => (⟨address, localPort, remotePort⟩ : Tunnel)) locals =
        ts ↔
      ts.map (·.remotePort) = remotes ∧ ts.map (·.localPort) = locals ∧
        ∀ t ∈ ts, t.address = address := by
  induction remotes generalizing locals ts with
  | nil =>
    obtain rfl : locals = [] := List.eq_nil_of_length_eq_zero hlength
    cases ts <;> simp
  | cons r remotes ih =>
    obtain ⟨l, locals, rfl⟩ := List.exists_cons_of_length_eq_add_one hlength
    cases ts with
    | nil => simp
    | cons t ts =>
      obtain ⟨a, localPort, remotePort⟩ := t
      have hrest := @ih ts locals (Nat.succ.inj hlength)
      simp only [List.zipWith_cons_cons, List.cons.injEq, hrest, List.map_cons, List.forall_mem_cons,
        Tunnel.mk.injEq]
      tauto

/-- The reader accepts what the grammar describes, and nothing else. -/
theorem read_eq_ok_iff : read i = .ok ts ↔ Describes i ts := by
  have htrim : trim (trim i.remote.toList) = trim i.remote.toList := Text.trim_trim _
  rw [read_steps]
  constructor
  · rintro ⟨r, locals, hr, hl, hlength, hts⟩
    obtain ⟨hremotes, hlocals, haddress⟩ := (zipWith_eq_iff hlength).mp hts
    obtain ⟨mirrored, hfield, hmirrored⟩ := remoteField_of_read htrim hr
    refine ⟨mirrored, ?_, ?_, haddress⟩
    · rw [hremotes]
      exact hfield
    · rw [hlocals]
      exact (localPorts_eq_ok_iff hmirrored).mp hl
  · rintro ⟨mirrored, hfield, hlocals, haddress⟩
    obtain ⟨r, hr, hports, hmirrored⟩ := read_of_remoteField htrim hfield
    have hlength : (ts.map (·.localPort)).length = r.ports.length := by
      rw [hports, List.length_map, List.length_map]
    exact ⟨r, _, hr, (localPorts_eq_ok_iff hmirrored).mpr hlocals, hlength,
      (zipWith_eq_iff hlength).mpr ⟨hports.symm, rfl, haddress⟩⟩

/-- A remote field has a container port, and no port of it is zero. -/
theorem RemoteField.ports {s : List Char} {remotes mirrored : List UInt16}
    (h : RemoteField s remotes mirrored) :
    remotes ≠ [] ∧ (∀ p ∈ remotes, 0 < p.toNat) ∧ ∀ p ∈ mirrored, 0 < p.toNat := by
  cases h with
  | list _ h =>
    obtain ⟨hne, hpos⟩ := (isList_plain_iff.mp h).2.ports
    exact ⟨hne, hpos, hpos⟩
  | pair _ _ _ _ hp hq => simp [hp.pos, hq.pos]
  | named _ _ _ _ hq => simp [hq.pos]

/-- What the grammar describes is not empty, and no port of it is zero. -/
theorem Describes.ports (h : Describes i ts) :
    ts ≠ [] ∧ ∀ t ∈ ts, 0 < t.remotePort.toNat ∧ 0 < t.localPort.toNat := by
  obtain ⟨mirrored, hfield, hlocals, -⟩ := h
  obtain ⟨hne, hremotes, hmirrored⟩ := hfield.ports
  have hlocals : ∀ p ∈ ts.map (·.localPort), 0 < p.toNat := by
    split at hlocals
    · rw [hlocals]
      exact hmirrored
    · exact hlocals.ports.2
  refine ⟨fun hnil => hne (by rw [hnil, List.map_nil]), fun t ht => ?_⟩
  exact ⟨hremotes _ (List.mem_map_of_mem ht), hlocals _ (List.mem_map_of_mem ht)⟩

/-- The tunnels are those that are read. -/
theorem tunnels_eq_ok_iff : tunnels i = .ok ts ↔ read i = .ok ts := by
  rw [tunnels]
  cases read i <;> simp [Except.mapError]

/-- The fields of the dialog are accepted exactly when the grammar describes tunnels, and then these
are the tunnels: at least one, with all ports from 1 to 65535. All other texts are invalid input. -/
theorem fields_grammar (i : Input) :
    (∀ ts, tunnels i = .ok ts ↔ Describes i ts) ∧
      (∀ ts, Describes i ts → ts ≠ [] ∧ ∀ t ∈ ts,
        (1 ≤ t.remotePort.toNat ∧ t.remotePort.toNat ≤ 65535) ∧
          1 ≤ t.localPort.toNat ∧ t.localPort.toNat ≤ 65535) ∧
      ∀ e, tunnels i = .error e → e.kind = "validation" := by
  have hbound : ∀ p : UInt16, p.toNat ≤ 65535 := fun p => Nat.le_of_lt_succ p.toNat_lt_size
  refine ⟨?_, ?_, ?_⟩
  · intro ts
    rw [tunnels_eq_ok_iff, read_eq_ok_iff]
  · intro ts h
    obtain ⟨hne, hpos⟩ := h.ports
    refine ⟨hne, fun t ht => ?_⟩
    obtain ⟨hremote, hlocal⟩ := hpos t ht
    exact ⟨⟨hremote, hbound _⟩, hlocal, hbound _⟩
  · intro e h
    rw [tunnels] at h
    cases hread : read i with
    | ok ts =>
      rw [hread] at h
      cases h
    | error cause =>
      rw [hread] at h
      cases h
      rfl

/-- The last `::` counts, and only a head of nothing but digits is a container port. -/
example : read ⟨"", "a::b::+080", "", "localhost"⟩ = .ok [⟨"localhost", 80, 80⟩] ∧
    read ⟨"", " 080 ::8080", "", "localhost"⟩ = .ok [⟨"localhost", 8080, 80⟩] ∧
    read ⟨"", "+80::8080", "", "localhost"⟩ = .ok [⟨"localhost", 8080, 8080⟩] ∧
    read ⟨"", "80,+443", "", "localhost"⟩ = .error (.notNumeric "80,+443") := by decide

end PortForward.Fields
