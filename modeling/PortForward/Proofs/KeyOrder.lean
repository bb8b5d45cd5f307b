/-
# The order of the list

Keys are ordered by path and then by container, and a registry keeps its entries in this order. So
what it lists is determined by which forwarders there are, whatever came first.

* `Key.before_trans`, `Key.before_asymm`, `Key.before_of_ne` : the order of keys;
* `Key.eq_of_perm` : lists in this order agree if they have the same elements;
* `Reachable.sorted` : a registry is always in order.
-/
import PortForward.Proofs.Exclusive

namespace PortForward

namespace Key

variable {i j k : Key}

theorem before_iff :
    j.before k = true ↔ j.path < k.path ∨ j.path = k.path ∧ j.container < k.container := by
  simp [before]

theorem before_trans (hij : i.before j = true) (hjk : j.before k = true) : i.before k = true := by
  rw [before_iff] at hij hjk ⊢
  rcases hij with hij | ⟨hpath, hij⟩
  · rcases hjk with hjk | ⟨hpath', -⟩
    · exact Or.inl (String.lt_trans hij hjk)
    · exact Or.inl (hpath' ▸ hij)
  · rcases hjk with hjk | ⟨hpath', hjk⟩
    · exact Or.inl (hpath ▸ hjk)
    · exact Or.inr ⟨hpath.trans hpath', String.lt_trans hij hjk⟩

theorem before_asymm (hjk : j.before k = true) : ¬ k.before j = true := by
  rw [before_iff] at hjk ⊢
  rintro (hkj | ⟨hpath, hkj⟩)
  · rcases hjk with hjk | ⟨hpath, -⟩
    · exact String.lt_asymm hjk hkj
    · exact String.lt_irrefl _ (hpath ▸ hkj)
  · rcases hjk with hjk | ⟨-, hjk⟩
    · exact String.lt_irrefl _ (hpath ▸ hjk)
    · exact String.lt_asymm hjk hkj

/-- Of two different keys, one comes before the other. -/
theorem before_of_ne (hne : j ≠ k) (hjk : ¬ j.before k = true) : k.before j = true := by
  rw [before_iff, not_or] at hjk
  rw [before_iff]
  obtain ⟨hpath, hcontainer⟩ := hjk
  by_cases heq : j.path = k.path
  · right
    refine ⟨heq.symm, ?_⟩
    by_contra hkj
    -- neither container comes first, so the keys are the same
    have hle := String.not_lt.mp fun h => hcontainer ⟨heq, h⟩
    have hsame := String.le_antisymm hle (String.not_lt.mp hkj)
    apply hne
    cases j
    cases k
    rw [Key.mk.injEq]
    exact ⟨heq, hsame.symm⟩
  · left
    by_contra hkj
    exact heq (String.le_antisymm (String.not_lt.mp hkj) (String.not_lt.mp hpath))

/-- Of two keys the one comes before the other, or they are the same. -/
theorem before_or_eq (hjk : ¬ j.before k = true) : k.before j = true ∨ k = j := by
  by_cases heq : k = j
  · exact Or.inr heq
  · exact Or.inl (before_of_ne (Ne.symm heq) hjk)

/-- Not to come before is transitive, as the order is total. -/
theorem not_before_trans (hji : ¬ j.before i = true) (hkj : ¬ k.before j = true) :
    ¬ k.before i = true := by
  intro hki
  rcases before_or_eq hkj with hjk | rfl
  · exact hji (before_trans hjk hki)
  · exact hji hki

/-- Lists with the same elements are the same, if both are in the order of their keys. -/
theorem eq_of_perm {α : Type} {as bs : List α} (f : α → Key)
    (has : as.Pairwise fun a b => (f a).before (f b) = true)
    (hbs : bs.Pairwise fun a b => (f a).before (f b) = true) (h : as.Perm bs) : as = bs :=
  List.Perm.eq_of_pairwise (fun _ _ _ _ hab hba => absurd hba (before_asymm hab)) has hbs h

end Key

namespace Registry

variable {r r' : Registry} {e : Entry} {es : List Entry}

/-- The entries are in the order of their keys. -/
def Sorted (r : Registry) : Prop :=
  r.entries.Pairwise fun d e => d.key.before e.key = true

/-- A new entry is put where it belongs. -/
theorem insertSorted_pairwise (h : es.Pairwise fun d e => d.key.before e.key = true)
    (hfresh : ∀ d ∈ es, d.key ≠ e.key) :
    (insertSorted e es).Pairwise fun d e => d.key.before e.key = true := by
  induction es with
  | nil => exact List.pairwise_singleton _ _
  | cons x xs ih =>
    obtain ⟨hx, hxs⟩ := List.pairwise_cons.mp h
    rw [insertSorted]
    split
    · rename_i hex
      refine List.pairwise_cons.mpr ⟨fun y hy => ?_, h⟩
      rcases List.mem_cons.mp hy with rfl | hy
      · exact hex
      · exact Key.before_trans hex (hx y hy)
    · rename_i hex
      have hxe := Key.before_of_ne (hfresh x List.mem_cons_self).symm hex
      refine List.pairwise_cons.mpr ⟨fun y hy => ?_,
        ih hxs fun d hd => hfresh d (List.mem_cons_of_mem x hd)⟩
      rcases List.mem_cons.mp ((insertSorted_perm e xs).mem_iff.mp hy) with rfl | hy
      · exact hxe
      · exact hx y hy

/-- Every change keeps the order. -/
theorem Sorted.change (h : r.Sorted) (hc : r.Change r') : r'.Sorted := by
  cases hc with
  | same => exact h
  | insert ha => exact insertSorted_pairwise h ha.free
  | take p => exact h.sublist List.filter_sublist
  | @commit key _ bound _ _ hc =>
    obtain ⟨e, -, -, -, -, rfl⟩ := commit_eq_some hc
    have hkey : ∀ x : Entry, (if x.key = key then x.activeWith bound else x).key = x.key := by
      intro x
      split <;> rfl
    refine List.pairwise_map.mpr (h.imp fun {a b} hab => ?_)
    rw [hkey, hkey]
    exact hab

end Registry

/-- Whatever happens, a registry keeps the order. -/
theorem System.Reachable.sorted {s : System} (h : s.Reachable) : s.world.registry.Sorted :=
  h.induction (P := fun s => s.world.registry.Sorted) (fun _ _ => List.Pairwise.nil)
    fun s a hs => hs.change (move_step s a).change

end PortForward
