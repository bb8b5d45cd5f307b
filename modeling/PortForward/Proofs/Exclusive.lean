/-
# No endpoint twice

Under every interleaving the registry stays sound: a step changes its entries only by one of the
four changes of `Registry.Change`, and all of these keep it so. What soundness says about two
entries and about one batch is said here once more of positions, an entry and a tunnel in it.

* `Reachable.sound` : the registry of every system that can come about is sound;
* `registry_exclusive` : batches are not empty, no two positions clash, and the limit is respected.
-/
import PortForward.Bench.Platforms
import PortForward.Proofs.Moves

namespace PortForward

/-! ## Changes of the registry -/

namespace Call

variable {w w' : World} {c d : Call} {r : Request} {report : Report}

theorem Begins.change (h : Begins w r w' c) : w.registry.Change w'.registry := by
  cases h with
  | admitted h => exact .insert (Registry.admissible_of_admission h)
  | rejected _ => exact .same
  | nothing _ _ => exact .take _
  | removed _ _ => exact .take _

theorem Advances.change (h : Advances w c w' d) : w.registry.Change w'.registry := by
  cases h with
  | committed h => exact .commit h
  | evicted h =>
    obtain ⟨-, -, -, rfl⟩ := Registry.evict_eq_some h
    exact .take (· == _)
  | hooked => split <;> exact .same
  | ended => split <;> exact .same
  | _ => exact .same

theorem Takes.change (h : Takes w report w' c) : w.registry.Change w'.registry := by
  cases h with
  | evicted h =>
    obtain ⟨-, -, -, rfl⟩ := Registry.evict_eq_some h
    exact .take (· == _)
  | stale _ => exact .same

end Call

namespace System

variable {s s' : System} {a : Action}

/-- A move changes the registry by one of its own operations. -/
theorem Move.change (h : Move s a s') : s.world.registry.Change s'.world.registry := by
  cases h with
  | request h => exact h.change
  | advance _ _ h =>
    rw [put_world]
    exact h.change
  | giveUp _ _ =>
    rw [put_world]
    exact .same
  | reap _ _ h =>
    rw [put_world]
    exact h.change
  | calm _ h =>
    dsimp only
    rw [h.registry]
    exact .same

/-- The registry of a system that can come about is sound. -/
theorem Reachable.sound (h : s.Reachable) : s.world.registry.Sound :=
  h.induction (P := fun s => s.world.registry.Sound) (fun limit _ => Registry.sound_empty limit)
    fun s a hs => hs.change (move_step s a).change

/-- No run touches the limit. -/
theorem run_limit (s : System) (actions : List Action) :
    (s.run actions).world.registry.limit = s.world.registry.limit :=
  run_induction (motive := fun _ t => t.world.registry.limit = s.world.registry.limit) rfl
    (fun actions a h => (move_step (s.run actions) a).change.limit.trans h) actions

end System

/-! ## Positions -/

namespace Registry

/-- The tunnel at a position: the place of its entry, and its place in the batch. -/
def tunnelAt? (r : Registry) (entry place : Nat) : Option Tunnel :=
  (r.entries[entry]?).bind (·.tunnels[place]?)

theorem tunnelAt?_eq_some {r : Registry} {entry place : Nat} {t : Tunnel} :
    r.tunnelAt? entry place = some t ↔
      ∃ e, r.entries[entry]? = some e ∧ e.tunnels[place]? = some t :=
  Option.bind_eq_some_iff

/-- Two positions of a sound registry do not clash. -/
theorem Sound.clashes_eq_false {r : Registry} (h : r.Sound) {i j k l : Nat} {t u : Tunnel}
    (ht : r.tunnelAt? i j = some t) (hu : r.tunnelAt? k l = some u) (hne : (i, j) ≠ (k, l)) :
    t.clashes u = false := by
  obtain ⟨d, hd, ht⟩ := tunnelAt?_eq_some.mp ht
  obtain ⟨e, he, hu⟩ := tunnelAt?_eq_some.mp hu
  have hdmem := List.mem_of_getElem? hd
  have hemem := List.mem_of_getElem? he
  -- two places of one batch, or two entries
  by_cases hik : i = k
  · subst hik
    rw [hd, Option.some.injEq] at he
    subst he
    have hjl : j ≠ l := fun hjl => hne (by rw [hjl])
    exact (h.batch d hdmem).clashes_eq_false ht hu hjl
  · have hapart : d.Apart e := by
      obtain ⟨hi, rfl⟩ := List.getElem?_eq_some_iff.mp hd
      obtain ⟨hk, rfl⟩ := List.getElem?_eq_some_iff.mp he
      have hpair := List.pairwise_iff_getElem.mp h.apart
      rcases Nat.lt_or_gt_of_ne hik with hlt | hlt
      · exact hpair i k hi hk hlt
      · exact (hpair k i hk hi hlt).symm
    exact hapart.tunnels t (List.mem_of_getElem? ht) u (List.mem_of_getElem? hu)

end Registry

namespace System

/-- Under every interleaving all entries have tunnels, no two positions clash either way round,
and there are never more forwarders than a limit allows. -/
theorem registry_exclusive (limit : Nat) (platform : Platform) (actions : List Action) :
    let r := ((initial limit platform).run actions).world.registry
    (∀ e ∈ r.entries, e.tunnels ≠ []) ∧
      (∀ i j k l t u, r.tunnelAt? i j = some t → r.tunnelAt? k l = some u → (i, j) ≠ (k, l) →
        t.clashes u = false ∧ u.clashes t = false) ∧
      (0 < limit → r.entries.length ≤ limit) := by
  intro r
  have hsound : r.Sound := (reachable_run limit platform actions).sound
  have hlimit : r.limit = limit := run_limit (initial limit platform) actions
  refine ⟨fun e he => (hsound.batch e he).ne_nil, ?_, ?_⟩
  · intro i j k l t u ht hu hne
    exact ⟨hsound.clashes_eq_false ht hu hne, hsound.clashes_eq_false hu ht hne.symm⟩
  · intro hpos
    rw [← hlimit] at hpos ⊢
    exact hsound.room hpos

/-- Two forwarders on one port of two addresses, and a start that wants the port on all of them. -/
def crowded : List Action :=
  [.request (.start ⟨"default/db", "app"⟩ [⟨"127.0.0.1", 8080, 80⟩] true true),
    .request (.start ⟨"default/web", "app"⟩ [⟨"127.0.0.2", 8080, 80⟩] true true), .advance 1,
    .request (.start ⟨"default/api", "app"⟩ [⟨"0.0.0.0", 8080, 80⟩] true true)]

/-- The two have the port, each on its own address, and the third has not. -/
theorem crowded_exclusive :
    let r := ((initial 3 .loopbackOnly).run crowded).world.registry
    r.entries.length = 2 ∧
      (∀ e ∈ r.entries, e.tunnels ≠ []) ∧
      Tunnel.clashes ⟨"127.0.0.1", 8080, 80⟩ ⟨"127.0.0.2", 8080, 80⟩ = false ∧
      Tunnel.clashes ⟨"127.0.0.2", 8080, 80⟩ ⟨"127.0.0.1", 8080, 80⟩ = false := by
  intro r
  have hfirst : r.tunnelAt? 0 0 = some ⟨"127.0.0.1", 8080, 80⟩ := by decide
  have hsecond : r.tunnelAt? 1 0 = some ⟨"127.0.0.2", 8080, 80⟩ := by decide
  have hexclusive := registry_exclusive 3 .loopbackOnly crowded
  exact ⟨by decide, hexclusive.1, hexclusive.2.1 0 0 1 0 _ _ hfirst hsecond (by decide)⟩

end System
end PortForward
