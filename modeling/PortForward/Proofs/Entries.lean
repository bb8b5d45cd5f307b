/-
# Entries of the registry

What each operation of the registry does to the entries, and the invariant that all of them keep:
two entries differ in key and generation and share no endpoint, every batch can be listened on as
a whole, every generation is older than the next one, and the limit is respected.

* `Sound.entry?_eq_some` : an entry is the one that its key finds;
* `Sound.commit_eq_some`, `Sound.evict_eq_some` : what the two find that go by key and generation;
* `Sound.change` : every change keeps the invariant.
-/
import Mathlib.Data.List.Pairwise
import Mathlib.Tactic.ByContra
import PortForward.Registry

namespace PortForward

/-- No tunnel of the one clashes with a tunnel of the other. -/
def Clear (ts us : List Tunnel) : Prop := ∀ t ∈ ts, ∀ u ∈ us, t.clashes u = false

/-- A batch that has tunnels, none of which clashes with another. -/
structure Listenable (batch : List Tunnel) : Prop where
  ne_nil : batch ≠ []
  apart : batch.Pairwise fun t u => t.clashes u = false

/-- Two entries that may stand beside each other. -/
structure Entry.Apart (d e : Entry) : Prop where
  key : d.key ≠ e.key
  generation : d.generation ≠ e.generation
  tunnels : Clear d.tunnels e.tunnels

theorem Clear.symm {ts us : List Tunnel} (h : Clear ts us) : Clear us ts := fun u hu t ht => by
  rw [Tunnel.clashes_comm]
  exact h t ht u hu

/-- Two places of a batch that can be listened on do not clash. -/
theorem Listenable.clashes_eq_false {batch : List Tunnel} (h : Listenable batch) {i j : Nat}
    {t u : Tunnel} (ht : batch[i]? = some t) (hu : batch[j]? = some u) (hne : i ≠ j) :
    t.clashes u = false := by
  obtain ⟨hi, rfl⟩ := List.getElem?_eq_some_iff.mp ht
  obtain ⟨hj, rfl⟩ := List.getElem?_eq_some_iff.mp hu
  have hpair := List.pairwise_iff_getElem.mp h.apart
  rcases Nat.lt_or_gt_of_ne hne with hlt | hlt
  · exact hpair i j hi hj hlt
  · rw [Tunnel.clashes_comm]
    exact hpair j i hj hi hlt

/-- Two different tunnels of a batch that can be listened on do not clash. -/
theorem Listenable.clashes_of_ne {batch : List Tunnel} (h : Listenable batch) {t u : Tunnel}
    (ht : t ∈ batch) (hu : u ∈ batch) (hne : t ≠ u) : t.clashes u = false := by
  obtain ⟨i, hi⟩ := List.getElem?_of_mem ht
  obtain ⟨j, hj⟩ := List.getElem?_of_mem hu
  refine h.clashes_eq_false hi hj ?_
  rintro rfl
  rw [hi, Option.some.injEq] at hj
  exact hne hj

/-- What is active already looks the same once it is made active. -/
theorem Entry.view_activated {e : Entry} (h : e.status = .active) : e.activated.view = e.view := by
  unfold Entry.view
  rw [h]
  rfl

theorem Entry.Apart.symm {d e : Entry} (h : d.Apart e) : e.Apart d :=
  ⟨h.key.symm, h.generation.symm, h.tunnels.symm⟩

instance : Std.Symm Entry.Apart := ⟨fun _ _ h => h.symm⟩

namespace Registry

/-- The entry of a forwarder that has just been admitted. -/
def newEntry (r : Registry) (key : Key) (batch : List Tunnel) (stopHook : Bool) : Entry :=
  { generation := r.next, key, tunnels := batch, stopHook }

/-! ## What the operations do -/

/-- Inserting adds one entry and keeps the others. -/
theorem insertSorted_perm (e : Entry) (es : List Entry) : (insertSorted e es).Perm (e :: es) := by
  induction es with
  | nil => exact List.Perm.refl _
  | cons x xs ih =>
    rw [insertSorted]
    split
    · exact List.Perm.refl _
    · exact (ih.cons x).trans (List.Perm.swap e x xs)

theorem insert_entries_perm (r : Registry) (key : Key) (batch : List Tunnel) (stopHook : Bool) :
    (r.insert key batch stopHook).entries.Perm (r.newEntry key batch stopHook :: r.entries) :=
  insertSorted_perm _ _

@[simp] theorem mem_insert {r : Registry} {key : Key} {batch : List Tunnel} {stopHook : Bool}
    {e : Entry} :
    e ∈ (r.insert key batch stopHook).entries ↔
      e = r.newEntry key batch stopHook ∨ e ∈ r.entries := by
  rw [(insert_entries_perm r key batch stopHook).mem_iff, List.mem_cons]

@[simp] theorem insert_next (r : Registry) (key : Key) (batch : List Tunnel) (stopHook : Bool) :
    (r.insert key batch stopHook).next = r.next + 1 := rfl

@[simp] theorem mem_take {r : Registry} {p : Key → Bool} {e : Entry} :
    e ∈ (r.take p).2.entries ↔ e ∈ r.entries ∧ p e.key = false := by
  simp [take]

@[simp] theorem mem_taken {r : Registry} {p : Key → Bool} {e : Entry} :
    e ∈ (r.take p).1 ↔ e ∈ r.entries ∧ p e.key = true := by
  simp [take]

/-- The entry that a key finds is an entry of that key. -/
theorem entry?_eq_some {r : Registry} {key : Key} {e : Entry} (h : r.entry? key = some e) :
    e ∈ r.entries ∧ e.key = key := by
  refine ⟨List.mem_of_find?_eq_some h, ?_⟩
  simpa using List.find?_some h

/-- A key that finds nothing is the key of no entry. -/
theorem entry?_eq_none {r : Registry} {key : Key} (h : r.entry? key = none) :
    ∀ e ∈ r.entries, e.key ≠ key := by
  intro e he
  simpa using List.find?_eq_none.mp h e he

/-- The entries after a forwarder was made active. -/
theorem commit_eq_some {r r' : Registry} {key : Key} {generation : Nat} {bound : List Tunnel}
    {v : View} (h : r.commit key generation bound = some (v, r')) :
    ∃ e ∈ r.entries, e.key = key ∧ e.generation = generation ∧ v = e.activated.view ∧
      r' = { r with
        entries := r.entries.map fun x => if x.key = key then x.activeWith bound else x } := by
  unfold commit at h
  split at h
  · rename_i e he
    split at h
    · rename_i hg
      obtain ⟨hmem, hkey⟩ := entry?_eq_some he
      simp only [Option.some.injEq, Prod.mk.injEq] at h
      exact ⟨e, hmem, hkey, hg, h.1.symm, h.2.symm⟩
    · cases h
  · cases h

/-- The registry after a forwarder was removed by key and generation. -/
theorem evict_eq_some {r r' : Registry} {key : Key} {generation : Nat} {e : Entry}
    (h : r.evict key generation = some (e, r')) :
    e ∈ r.entries ∧ e.key = key ∧ e.generation = generation ∧ r' = (r.take (· == key)).2 := by
  unfold evict at h
  split at h
  · rename_i x hx
    split at h
    · rename_i hg
      obtain ⟨hmem, hkey⟩ := entry?_eq_some hx
      simp only [Option.some.injEq, Prod.mk.injEq] at h
      obtain ⟨rfl, rfl⟩ := h
      exact ⟨hmem, hkey, hg, rfl⟩
    · cases h
  · cases h

/-! ## What admission grants -/

/-- Nobody clashes with a tunnel that has no owner. -/
theorem clashOwner?_eq_none {r : Registry} {t : Tunnel} (h : r.clashOwner? t = none) :
    ∀ e ∈ r.entries, ∀ u ∈ e.tunnels, u.clashes t = false := by
  intro e he u hu
  unfold clashOwner? at h
  rw [Option.map_eq_none_iff, List.find?_eq_none] at h
  have hclear := h e he
  rw [Bool.not_eq_true, List.any_eq_false] at hclear
  simpa using hclear u hu

/-- Who has the endpoint of a tunnel has a tunnel that clashes with it. -/
theorem clashOwner?_eq_some {r : Registry} {t : Tunnel} {owner : Key}
    (h : r.clashOwner? t = some owner) :
    ∃ e ∈ r.entries, e.key = owner ∧ ∃ u ∈ e.tunnels, u.clashes t = true := by
  rw [clashOwner?, Option.map_eq_some_iff] at h
  obtain ⟨e, he, hkey⟩ := h
  have hany : e.tunnels.any (·.clashes t) = true := by simpa using List.find?_some he
  exact ⟨e, List.mem_of_find?_eq_some he, hkey, List.any_eq_true.mp hany⟩

/-- A batch without a clash is apart from the tunnels before it, from all entries, and in itself. -/
theorem clash?_eq_none {r : Registry} {key : Key} {earlier batch : List Tunnel}
    (h : r.clash? key earlier batch = none) :
    Clear earlier batch ∧ batch.Pairwise (fun t u => t.clashes u = false) ∧
      ∀ e ∈ r.entries, Clear e.tunnels batch := by
  induction batch generalizing earlier with
  | nil => simp [Clear]
  | cons t ts ih =>
    rw [clash?] at h
    split at h
    · cases h
    · rename_i hearlier
      split at h
      · cases h
      · rename_i howner
        -- for the rest of the batch, this tunnel is an earlier one
        obtain ⟨hbefore, hbatch, hentries⟩ := ih h
        have ht : ∀ u ∈ earlier, u.clashes t = false := by simpa using hearlier
        refine ⟨?_, ?_, ?_⟩
        · intro u hu v hv
          rcases List.mem_cons.mp hv with rfl | hv
          · exact ht u hu
          · exact hbefore u (List.mem_append_left _ hu) v hv
        · refine List.pairwise_cons.mpr ⟨?_, hbatch⟩
          intro v hv
          exact hbefore t (List.mem_append_right _ (List.mem_singleton_self t)) v hv
        · intro e he u hu v hv
          rcases List.mem_cons.mp hv with rfl | hv
          · exact clashOwner?_eq_none howner e he u hu
          · exact hentries e he u hu v hv

/-- What is known of a batch that may start. -/
structure Admissible (r : Registry) (key : Key) (batch : List Tunnel) : Prop where
  listenable : Listenable batch
  free : ∀ e ∈ r.entries, e.key ≠ key
  room : 0 < r.limit → r.entries.length < r.limit
  clear : ∀ e ∈ r.entries, Clear e.tunnels batch

/-- A batch that may start has tunnels, a free key, room, and no clash with anything. -/
theorem admissible_of_admission {r : Registry} {key : Key} {batch : List Tunnel} {u : Unit}
    (h : r.admission key batch = .ok u) : r.Admissible key batch := by
  unfold admission at h
  -- the checks in their order: tunnels, key, room, clashes
  split at h
  · cases h
  · rename_i hne
    split at h
    · cases h
    · rename_i hfree
      split at h
      · cases h
      · rename_i hroom
        split at h
        · cases h
        · rename_i hclash
          obtain ⟨-, hbatch, hentries⟩ := clash?_eq_none hclash
          rw [isForwarded, Bool.not_eq_true, Option.isSome_eq_false_iff,
            Option.isNone_iff_eq_none] at hfree
          refine ⟨⟨hne, hbatch⟩, entry?_eq_none hfree, ?_, hentries⟩
          intro hlimit
          simp [isFull, hlimit] at hroom
          exact hroom

/-! ## The invariant -/

/-- What holds of the entries of every registry that came about by its own operations. -/
structure Sound (r : Registry) : Prop where
  apart : r.entries.Pairwise Entry.Apart
  batch : ∀ e ∈ r.entries, Listenable e.tunnels
  old : ∀ e ∈ r.entries, e.generation < r.next
  room : 0 < r.limit → r.entries.length ≤ r.limit

/-- What a step of the system does to the registry. -/
inductive Change (r : Registry) : Registry → Prop
  | same : Change r r
  | insert {key : Key} {batch : List Tunnel} {stopHook : Bool} (h : r.Admissible key batch) :
      Change r (r.insert key batch stopHook)
  | take (p : Key → Bool) : Change r (r.take p).2
  | commit {key : Key} {generation : Nat} {bound : List Tunnel} {v : View} {r' : Registry}
      (h : r.commit key generation bound = some (v, r')) : Change r r'

/-- An empty registry is sound. -/
theorem sound_empty (limit : Nat) : ({ limit } : Registry).Sound :=
  ⟨List.Pairwise.nil, by simp, by simp, by simp⟩

namespace Sound

variable {r r' : Registry} {d e : Entry} {key : Key} {generation : Nat} {bound : List Tunnel}
variable {v : View}

/-- Two entries are apart unless they are one. -/
theorem apart_of_ne (h : r.Sound) (hd : d ∈ r.entries) (he : e ∈ r.entries) (hne : d ≠ e) :
    d.Apart e :=
  h.apart.forall hd he hne

/-- Two entries of one key are the same. -/
theorem eq_of_key (h : r.Sound) (hd : d ∈ r.entries) (he : e ∈ r.entries) (hk : d.key = e.key) :
    d = e := by
  by_contra hne
  exact (h.apart_of_ne hd he hne).key hk

/-- Two entries of one generation are the same. -/
theorem eq_of_generation (h : r.Sound) (hd : d ∈ r.entries) (he : e ∈ r.entries)
    (hg : d.generation = e.generation) : d = e := by
  by_contra hne
  exact (h.apart_of_ne hd he hne).generation hg

/-- The key of an entry finds it. -/
theorem entry?_key (h : r.Sound) (he : e ∈ r.entries) : r.entry? e.key = some e := by
  cases hx : r.entry? e.key with
  | none => exact absurd rfl (entry?_eq_none hx e he)
  | some x =>
    obtain ⟨hmem, hkey⟩ := entry?_eq_some hx
    rw [h.eq_of_key hmem he hkey]

/-- A registered forwarder can be made active. -/
theorem commit_of_mem (h : r.Sound) (he : e ∈ r.entries) (bound : List Tunnel) :
    ∃ r', r.commit e.key e.generation bound = some (e.activated.view, r') := by
  unfold commit
  rw [h.entry?_key he]
  exact ⟨_, if_pos rfl⟩

/-- A registered forwarder can be removed. -/
theorem evict_of_mem (h : r.Sound) (he : e ∈ r.entries) :
    r.evict e.key e.generation = some (e, (r.take (· == e.key)).2) := by
  unfold evict
  rw [h.entry?_key he]
  exact if_pos rfl

/-- Making a forwarder active changes its own entry and no other. -/
theorem mem_commit (h : r.Sound) (hc : r.commit key generation bound = some (v, r')) {x : Entry} :
    x ∈ r'.entries ↔ (x ∈ r.entries ∧ x.generation ≠ generation) ∨
      ∃ e ∈ r.entries, e.key = key ∧ e.generation = generation ∧ x = e.activeWith bound := by
  obtain ⟨e, he, hkey, hgen, -, rfl⟩ := commit_eq_some hc
  -- key and generation find the same entry
  have own : ∀ y ∈ r.entries, y.key = key ↔ y.generation = generation := by
    intro y hy
    constructor
    · intro hy'
      rw [h.eq_of_key hy he (hy'.trans hkey.symm), hgen]
    · intro hy'
      rw [h.eq_of_generation hy he (hy'.trans hgen.symm), hkey]
  simp only [List.mem_map]
  constructor
  · rintro ⟨y, hy, rfl⟩
    split
    · rename_i hy'
      exact Or.inr ⟨y, hy, hy', (own y hy).mp hy', rfl⟩
    · rename_i hy'
      exact Or.inl ⟨hy, fun hg => hy' ((own y hy).mpr hg)⟩
  · rintro (⟨hx, hne⟩ | ⟨y, hy, hy', -, rfl⟩)
    · exact ⟨x, hx, if_neg fun hk => hne ((own x hx).mp hk)⟩
    · exact ⟨y, hy, if_pos hy'⟩

/-- Removing by key and generation removes the forwarder of that generation and no other. -/
theorem mem_evict (h : r.Sound) (hv : r.evict key generation = some (e, r')) {x : Entry} :
    x ∈ r'.entries ↔ x ∈ r.entries ∧ x.generation ≠ generation := by
  obtain ⟨he, hkey, hgen, rfl⟩ := evict_eq_some hv
  rw [mem_take, beq_eq_false_iff_ne]
  refine and_congr_right fun hx => not_congr ⟨fun hk => ?_, fun hg => ?_⟩
  · rw [h.eq_of_key hx he (hk.trans hkey.symm), hgen]
  · rw [h.eq_of_generation hx he (hg.trans hgen.symm), hkey]

/-- Nothing is left of the generation of an entry that is taken. -/
theorem gone_of_taken (h : r.Sound) {p : Key → Bool} (he : e ∈ (r.take p).1) :
    ∀ x ∈ (r.take p).2.entries, x.generation ≠ e.generation := by
  intro x hx hg
  obtain ⟨hmem, hp⟩ := mem_taken.mp he
  obtain ⟨hxmem, hpx⟩ := mem_take.mp hx
  rw [h.eq_of_generation hxmem hmem hg, hp] at hpx
  cases hpx

/-- An entry is kept, or its key is named and nothing of its generation is left. -/
theorem kept_or_taken (h : r.Sound) (he : e ∈ r.entries) (p : Key → Bool) :
    e ∈ (r.take p).2.entries ∨
      (p e.key = true ∧ ∀ x ∈ (r.take p).2.entries, x.generation ≠ e.generation) := by
  cases hp : p e.key with
  | false => exact Or.inl (mem_take.mpr ⟨he, hp⟩)
  | true => exact Or.inr ⟨rfl, h.gone_of_taken (mem_taken.mpr ⟨he, hp⟩)⟩

/-- An entry is kept, or it is the one that is removed and nothing of its generation is left. -/
theorem kept_or_evicted (h : r.Sound) (he : e ∈ r.entries)
    (hv : r.evict key generation = some (d, r')) :
    e ∈ r'.entries ∨ (e = d ∧ ∀ x ∈ r'.entries, x.generation ≠ e.generation) := by
  obtain ⟨hd, -, hgen, -⟩ := evict_eq_some hv
  by_cases hg : e.generation = generation
  · right
    constructor
    · exact h.eq_of_generation he hd (hg.trans hgen.symm)
    · intro x hx
      rw [hg]
      exact ((h.mem_evict hv).mp hx).2
  · left
    exact (h.mem_evict hv).mpr ⟨he, hg⟩

/-- Admitting a batch that may start keeps the invariant. -/
theorem insert (h : r.Sound) {batch : List Tunnel} (ha : r.Admissible key batch) (stopHook : Bool) :
    (r.insert key batch stopHook).Sound where
  apart := by
    refine ((insert_entries_perm r key batch stopHook).pairwise_iff Entry.Apart.symm).mpr ?_
    refine List.pairwise_cons.mpr ⟨?_, h.apart⟩
    -- the key was free, all generations are older, and no tunnel clashes
    intro e he
    exact ⟨(ha.free e he).symm, Nat.ne_of_gt (h.old e he), (ha.clear e he).symm⟩
  batch := by
    intro e he
    rcases mem_insert.mp he with rfl | he
    · exact ha.listenable
    · exact h.batch e he
  old := by
    intro e he
    rw [insert_next]
    rcases mem_insert.mp he with rfl | he
    · exact Nat.lt_succ_self r.next
    · exact Nat.lt_succ_of_lt (h.old e he)
  room := by
    intro hlimit
    rw [(insert_entries_perm r key batch stopHook).length_eq, List.length_cons]
    exact ha.room hlimit

/-- Removing entries keeps the invariant. -/
theorem take (h : r.Sound) (p : Key → Bool) : (r.take p).2.Sound where
  apart := h.apart.sublist List.filter_sublist
  batch e he := h.batch e (mem_take.mp he).1
  old e he := h.old e (mem_take.mp he).1
  room hlimit := Nat.le_trans (List.length_filter_le _ _) (h.room hlimit)

/-- Making a forwarder active keeps the invariant. -/
theorem commit (h : r.Sound) (hc : r.commit key generation bound = some (v, r')) : r'.Sound := by
  have hmem := fun x => h.mem_commit hc (x := x)
  obtain ⟨e, -, -, -, -, rfl⟩ := commit_eq_some hc
  refine ⟨?_, ?_, ?_, ?_⟩
  · -- neither keys nor generations nor tunnels change
    refine List.pairwise_map.mpr (h.apart.imp fun {a b} hab => ?_)
    obtain ⟨hkey, hgen, htun⟩ := hab
    split <;> split <;> exact ⟨hkey, hgen, htun⟩
  · intro x hx
    rcases (hmem x).mp hx with ⟨hx, -⟩ | ⟨y, hy, -, -, rfl⟩
    · exact h.batch x hx
    · exact h.batch y hy
  · intro x hx
    rcases (hmem x).mp hx with ⟨hx, -⟩ | ⟨y, hy, -, -, rfl⟩
    · exact h.old x hx
    · exact h.old y hy
  · simpa using h.room

/-- Every change keeps the invariant. -/
theorem change (h : r.Sound) (hc : r.Change r') : r'.Sound := by
  cases hc with
  | same => exact h
  | insert ha => exact h.insert ha _
  | take p => exact h.take p
  | commit hc => exact h.commit hc

end Sound

/-- No change touches the limit. -/
theorem Change.limit {r r' : Registry} (h : r.Change r') : r'.limit = r.limit := by
  cases h with
  | same => rfl
  | insert _ => rfl
  | take p => rfl
  | commit hc =>
    obtain ⟨e, -, -, -, -, rfl⟩ := commit_eq_some hc
    rfl

/-- No change gives an entry another key or other tunnels; a new one is of the next generation. -/
theorem Change.origin {r r' : Registry} (h : r.Change r') {x : Entry} (hx : x ∈ r'.entries) :
    (∃ e ∈ r.entries, e.generation = x.generation ∧ e.key = x.key ∧ e.tunnels = x.tunnels) ∨
      x.generation = r.next := by
  cases h with
  | same => exact Or.inl ⟨x, hx, rfl, rfl, rfl⟩
  | insert _ =>
    rcases mem_insert.mp hx with rfl | hx
    · exact Or.inr rfl
    · exact Or.inl ⟨x, hx, rfl, rfl, rfl⟩
  | take p => exact Or.inl ⟨x, (mem_take.mp hx).1, rfl, rfl, rfl⟩
  | commit hc =>
    obtain ⟨-, -, -, -, -, rfl⟩ := commit_eq_some hc
    obtain ⟨e, he, rfl⟩ := List.mem_map.mp hx
    refine Or.inl ⟨e, he, ?_⟩
    split <;> exact ⟨rfl, rfl, rfl⟩

/-- Generations are numbered upwards. -/
theorem Change.next_le {r r' : Registry} (h : r.Change r') : r.next ≤ r'.next := by
  cases h with
  | same => exact Nat.le_refl _
  | insert _ => exact Nat.le_succ _
  | take p => exact Nat.le_refl _
  | commit hc =>
    obtain ⟨e, -, -, -, -, rfl⟩ := commit_eq_some hc
    exact Nat.le_refl _

end Registry
end PortForward
