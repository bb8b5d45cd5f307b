/-
# The listeners of forwarders

Of all listeners of the machine, those that belong to forwarders: for which tunnel of which
generation each of them is, in the order in which they were opened.

* `World.mem_owned` : what is owned has a listener;
* `World.owned_withListener`, `World.owned_close`, `World.mem_owned_drop` : what opening and closing
  does.
-/
import PortForward.Proofs.Calls

namespace PortForward

/-- The generation and the tunnel that a listener is for; nothing if it is of another program. -/
def Owner.tunnel? : Owner → Option (Nat × Tunnel)
  | .tunnel g t => some (g, t)
  | .foreign _ => none

@[simp] theorem Owner.tunnel?_tunnel (g : Nat) (t : Tunnel) :
    (Owner.tunnel g t).tunnel? = some (g, t) := rfl

@[simp] theorem Owner.tunnel?_foreign (address : String) :
    (Owner.foreign address).tunnel? = none := rfl

theorem Owner.tunnel?_eq_some {o : Owner} {g : Nat} {t : Tunnel} :
    o.tunnel? = some (g, t) ↔ o = .tunnel g t := by
  cases o <;> simp

namespace World

variable {w : World} {g : Nat} {t : Tunnel}

/-- What forwarders listen for. -/
def owned (w : World) : List (Nat × Tunnel) := w.machine.listeners.filterMap (·.owner.tunnel?)

theorem mem_owned : (g, t) ∈ w.owned ↔ ∃ l ∈ w.machine.listeners, l.owner = .tunnel g t := by
  simp only [owned, List.mem_filterMap, Owner.tunnel?_eq_some]

/-- The listener belongs to the forwarder. -/
def ownedBy (generation : Nat) : Owner → Bool
  | .tunnel g _ => g == generation
  | .foreign _ => false

/-- The listener of a tunnel belongs to the forwarder of the tunnel. -/
theorem exists_owned {l : Listener} (hl : l ∈ w.machine.listeners)
    (ho : ownedBy g l.owner = true) : ∃ t, (g, t) ∈ w.owned := by
  cases howner : l.owner with
  | tunnel f t =>
    rw [howner, ownedBy, beq_iff_eq] at ho
    exact ⟨t, mem_owned.mpr ⟨l, hl, by rw [howner, ho]⟩⟩
  | foreign address =>
    rw [howner] at ho
    cases ho

@[simp] theorem owned_withListener (w : World) (g : Nat) (t : Tunnel) (x : Net.IpAddress) :
    (w.withListener g t x).owned = w.owned ++ [(g, t)] := by
  simp [owned, withListener]

/-- Closing takes away what belongs to the owners that are gone. -/
theorem owned_close (w : World) (gone : Owner → Bool) :
    ({ w with machine := w.machine.close gone } : World).owned =
      w.owned.filter fun p => !gone (.tunnel p.1 p.2) := by
  unfold owned Machine.close
  dsimp only
  induction w.machine.listeners with
  | nil => rfl
  | cons l ls ih =>
    cases howner : l.owner with
    | tunnel f u => cases hgone : gone (.tunnel f u) <;> simp [howner, hgone, ih]
    | foreign address =>
      cases hgone : gone (.foreign address) <;> simp [howner, hgone, ih]

/-- A start that closes its listeners closes those of the tunnels that it has bound. -/
@[simp] theorem mem_owned_drop {f : Nat} {bound : List Tunnel} :
    (g, t) ∈ (w.drop f bound).owned ↔ (g, t) ∈ w.owned ∧ ¬ (g = f ∧ t ∈ bound) := by
  have hclose : (w.drop f bound).owned = w.owned.filter fun p => !boundBy f bound (.tunnel p.1 p.2) :=
    owned_close w (boundBy f bound)
  rw [hclose, List.mem_filter, Bool.not_eq_true', ← Bool.not_eq_true, boundBy, Bool.and_eq_true,
    beq_iff_eq, List.contains_iff_mem]

theorem mem_listeners_drop {f : Nat} {bound : List Tunnel} {l : Listener}
    (hl : l ∈ (w.drop f bound).machine.listeners) : l ∈ w.machine.listeners :=
  (List.mem_filter.mp hl).1

/-- What closing leaves is a part of what was there. -/
theorem owned_close_sublist (w : World) (gone : Owner → Bool) :
    ({ w with machine := w.machine.close gone } : World).owned.Sublist w.owned := by
  rw [owned_close]
  exact List.filter_sublist

/-! ## Tasks that end -/

variable {u v : Task}

/-- A task holds the listener of its own tunnel. -/
theorem heldBy_tunnel : heldBy u (.tunnel g t) = true ↔ u.generation = g ∧ u.role = .tunnel t := by
  unfold heldBy
  cases hrole : u.role with
  | tunnel x =>
    rw [Bool.and_eq_true, beq_iff_eq, beq_iff_eq, Role.tunnel.injEq]
    exact and_congr eq_comm eq_comm
  | monitor => simp

@[simp] theorem mem_tasks_endTask : v ∈ (w.endTask u).tasks ↔ v ∈ w.tasks ∧ v ≠ u := by
  simp [endTask]

@[simp] theorem mem_owned_endTask :
    (g, t) ∈ (w.endTask u).owned ↔
      (g, t) ∈ w.owned ∧ ¬ (u.generation = g ∧ u.role = .tunnel t) := by
  have hclose : (w.endTask u).owned = w.owned.filter fun p => !heldBy u (.tunnel p.1 p.2) :=
    owned_close w (heldBy u)
  rw [hclose, List.mem_filter, Bool.not_eq_true', ← heldBy_tunnel, Bool.not_eq_true]

/-- A task that ends takes its own listener with it and no other. -/
theorem owned_or_ended (hu : u ∈ w.tasks) (hp : (g, t) ∈ w.owned) :
    (g, t) ∈ (w.endTask u).owned ∨
      ∃ v ∈ w.tasks, v ∉ (w.endTask u).tasks ∧ v.generation = g ∧ v.role = .tunnel t := by
  by_cases hheld : u.generation = g ∧ u.role = .tunnel t
  · exact Or.inr ⟨u, hu, by simp, hheld⟩
  · exact Or.inl (mem_owned_endTask.mpr ⟨hp, hheld⟩)

/-- No listener is left of a task that has ended. -/
theorem not_owned_of_ended (hv : v ∈ w.tasks) (hgone : v ∉ (w.endTask u).tasks)
    (hrole : v.role = .tunnel t) : (v.generation, t) ∉ (w.endTask u).owned := by
  have hvu : v = u := by simpa [hv] using hgone
  rw [mem_owned_endTask, ← hvu]
  exact fun h => h.2 ⟨rfl, hrole⟩

end World
end PortForward
