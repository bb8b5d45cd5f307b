/-
# What the registry answers

Callers may ask for one forwarder, for all of them, for their number, and whether a container or a pod
is forwarded at all. The list of all forwarders decides every other answer: it has each key once, in
the order of the bytes of path and container, whatever calls and failures came before.

* `Registry.Sorted.list` : the order of the list;
* `Registry.Sorted.mergeSort_eq_list` : the list is what sorting makes of all forwarders;
* `Registry.Sound.find?_eq_some_iff` : the forwarder of a key is the one in the list;
* `Registry.isForwarded_iff`, `Registry.isPathForwarded_iff` : the questions for yes or no;
* `System.queries_agree` : all answers under every interleaving.
-/
import Mathlib.Data.List.Nodup
import PortForward.Bench.Platforms
import PortForward.Proofs.ByteOrder
import PortForward.Proofs.KeyOrder

namespace PortForward

namespace Registry

variable {r : Registry} {key : Key} {v : View} {path : String}

@[simp] theorem mem_list : v ∈ r.list ↔ ∃ e ∈ r.entries, e.view = v := List.mem_map

/-- The list is in the order of bytes. -/
theorem Sorted.list (h : r.Sorted) : r.list.Pairwise fun u v => u.key.BytesBefore v.key :=
  List.pairwise_map.mpr (h.imp Key.bytesBefore_iff.mpr)

/-- The list has no key twice. -/
theorem Sorted.keys_nodup (h : r.Sorted) : (r.list.map (·.key)).Nodup := by
  refine List.pairwise_map.mpr (h.list.imp fun {u v} huv heq => ?_)
  rw [Key.bytesBefore_iff, heq] at huv
  exact Key.before_asymm huv huv

/-- Of the forwarders in whichever order, as a map without an order has them, sorting by key makes the
list. -/
theorem Sorted.mergeSort_eq_list (h : r.Sorted) {vs : List View} (hperm : vs.Perm r.list) :
    vs.mergeSort (fun u v => !v.key.before u.key) = r.list := by
  have hnodup := h.keys_nodup
  have hmem := (List.mergeSort_perm vs fun u v => !v.key.before u.key).trans hperm
  have hsorted : (vs.mergeSort fun u v => !v.key.before u.key).Pairwise
      fun u v => (!v.key.before u.key) = true := by
    refine List.pairwise_mergeSort (fun a b c hab hbc => ?_) (fun a b => ?_) vs
    · rw [Bool.not_eq_true', ← Bool.not_eq_true] at hab hbc ⊢
      exact Key.not_before_trans hab hbc
    · rw [Bool.or_eq_true, Bool.not_eq_true', Bool.not_eq_true', ← Bool.not_eq_true,
        ← Bool.not_eq_true]
      exact not_and_or.mp fun ⟨hba, hab⟩ => Key.before_asymm hba hab
  refine List.Perm.eq_of_pairwise (fun u v hu hv huv hvu => ?_) hsorted ?_ hmem
  · -- neither comes before the other, so they have the same key
    rw [Bool.not_eq_true', ← Bool.not_eq_true] at huv hvu
    have hkey : u.key = v.key := (Key.before_or_eq huv).resolve_left hvu
    exact List.inj_on_of_nodup_map hnodup (hmem.subset hu) hv hkey
  · refine h.list.imp fun {u v} huv => ?_
    rw [Bool.not_eq_true', ← Bool.not_eq_true]
    exact Key.before_asymm (Key.bytesBefore_iff.mp huv)

/-- The forwarder of a key is the one that the list has under this key. -/
theorem Sound.find?_eq_some_iff (h : r.Sound) :
    r.find? key = some v ↔ v ∈ r.list ∧ v.key = key := by
  rw [find?, Option.map_eq_some_iff, mem_list]
  constructor
  · rintro ⟨e, he, rfl⟩
    obtain ⟨hmem, hkey⟩ := entry?_eq_some he
    exact ⟨⟨e, hmem, rfl⟩, hkey⟩
  · rintro ⟨⟨e, he, rfl⟩, rfl⟩
    exact ⟨e, h.entry?_key he, rfl⟩

/-- A container is forwarded if its key has a forwarder. -/
theorem isForwarded_iff : r.isForwarded key = true ↔ ∃ v, r.find? key = some v := by
  rw [isForwarded, find?, ← Option.isSome_iff_exists, Option.isSome_map]

/-- A pod is forwarded if the list has a forwarder of exactly this path. -/
theorem isPathForwarded_iff : r.isPathForwarded path = true ↔ ∃ v ∈ r.list, v.key.path = path := by
  simp [isPathForwarded, Entry.view]

end Registry

namespace System

/-- Under every interleaving the list has all that is registered and nothing else. It rises strictly in
the order of the bytes of path and container, so it has no key twice; the number of forwarders is its
length. The forwarder of a key is the very view that the list has under this key, a container is
forwarded exactly if it has a forwarder, and a pod exactly if the list has a forwarder of its path. -/
theorem queries_agree (limit : Nat) (platform : Platform) (actions : List Action) :
    let r := ((initial limit platform).run actions).world.registry
    (∀ v, v ∈ r.list ↔ ∃ e ∈ r.entries, e.view = v) ∧
      (r.list.Pairwise fun u v => u.key.BytesBefore v.key) ∧
      (r.list.map (·.key)).Nodup ∧
      r.count = r.list.length ∧
      (∀ key v, r.find? key = some v ↔ v ∈ r.list ∧ v.key = key) ∧
      (∀ key, (r.isForwarded key = true ↔ ∃ v, r.find? key = some v) ∧
        (r.isForwarded key = true ↔ ∃ v ∈ r.list, v.key = key)) ∧
      ∀ path, r.isPathForwarded path = true ↔ ∃ v ∈ r.list, v.key.path = path := by
  intro r
  have hreachable := reachable_run limit platform actions
  have hsorted : r.Sorted := hreachable.sorted
  have hfind : ∀ key v, r.find? key = some v ↔ v ∈ r.list ∧ v.key = key :=
    fun _ _ => hreachable.sound.find?_eq_some_iff
  refine ⟨fun _ => Registry.mem_list, hsorted.list, hsorted.keys_nodup, ?_, hfind, ?_,
    fun _ => Registry.isPathForwarded_iff⟩
  · exact (List.length_map Entry.view).symm
  · intro key
    refine ⟨Registry.isForwarded_iff, ?_⟩
    rw [Registry.isForwarded_iff]
    exact exists_congr fun v => hfind key v

/-- The order is the one of keys and not the one of their texts: a path comes before the longer paths
that begin with it. -/
example :
    let web : Key := ⟨"default/web", "app"⟩
    let other : Key := ⟨"default/web-1", "app"⟩
    let actions : List Action :=
      [.request (.start other [⟨"127.0.0.1", 8080, 80⟩] true true),
        .request (.start web [⟨"127.0.0.1", 8081, 80⟩] true true)]
    (((initial 0 .loopbackOnly).run actions).world.registry.list.map (·.key) = [web, other]) ∧
      other.text < web.text := by decide

end System
end PortForward
