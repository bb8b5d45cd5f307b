/-
# What was admitted in a run

Of every run from the start: each admitted forwarder has a generation of its own, older than the
next one, and every entry is that of an admitted forwarder, as it was admitted or made active.

* `Along.admits_eq` : the generation tells which start was admitted;
* `exists_admits` : an entry is at some stage of one that was admitted.
-/
import PortForward.Proofs.Fates

namespace PortForward.System

variable {s s' : System} {a : Action} {limit : Nat} {platform : Platform} {actions : List Action}
variable {d e x : Entry}

/-- One action admits at most one forwarder. -/
theorem Admits.eq (hd : Admits d s a) (he : Admits e s a) : d = e := by
  obtain ⟨_, ha, -, hd⟩ := hd
  obtain ⟨_, ha', -, he⟩ := he
  rw [ha, Action.request.injEq, Request.start.injEq] at ha'
  obtain ⟨hk, ht, -, hs⟩ := ha'
  rw [hd, he, hk, ht, hs]

/-- An action that admits a forwarder uses up a generation. -/
theorem Admits.next (h : Admits e s a) :
    (s.step a).world.registry.next = s.world.registry.next + 1 := by
  obtain ⟨startHook, rfl, hadm, -⟩ := h
  simp only [step, Call.request, hadm]
  rfl

/-- An admitted forwarder is registered. -/
theorem Admits.mem (h : Admits e s a) : e ∈ (s.step a).world.registry.entries := by
  obtain ⟨startHook, rfl, hadm, he⟩ := h
  simp only [step, Call.request, hadm]
  exact Registry.mem_insert.mpr (Or.inl he)

/-- Every admitted forwarder is older than the next generation. -/
theorem Along.admits_old (h : s.Along actions (Admits e)) :
    e.generation < (s.run actions).world.registry.next := by
  refine run_induction (motive := fun actions t => s.Along actions (Admits e) →
    e.generation < t.world.registry.next) (fun h => absurd h not_along_nil) ?_ actions h
  intro actions a ih h
  rcases along_snoc.mp h with h | h
  · exact Nat.lt_of_lt_of_le (ih h) (move_step _ a).change.next_le
  · rw [h.next, h.generation]
    exact Nat.lt_succ_self _

/-- The generation tells which forwarder was admitted. -/
theorem Along.admits_eq (hd : s.Along actions (Admits d)) (he : s.Along actions (Admits e))
    (hg : d.generation = e.generation) : d = e := by
  refine run_induction (s := s) (motive := fun actions _ => s.Along actions (Admits d) →
    s.Along actions (Admits e) → d = e) (fun h => absurd h not_along_nil) ?_ actions hd he
  intro actions a ih hd he
  -- of two moments, the later one has the later generation
  rcases along_snoc.mp hd with hd | hd <;> rcases along_snoc.mp he with he | he
  · exact ih hd he
  · have := hd.admits_old
    have := he.generation
    omega
  · have := he.admits_old
    have := hd.generation
    omega
  · exact hd.eq he

/-! ## Stages of an entry -/

/-- An entry is another one as it was admitted, or as it is once it is active. -/
def Stage (e x : Entry) : Prop := x = e ∨ x = e.activated

namespace Stage

theorem generation (h : Stage e x) : x.generation = e.generation := by
  rcases h with rfl | rfl <;> rfl

theorem key (h : Stage e x) : x.key = e.key := by
  rcases h with rfl | rfl <;> rfl

theorem stopHook (h : Stage e x) : x.stopHook = e.stopHook := by
  rcases h with rfl | rfl <;> rfl

/-- Making it active once more changes nothing. -/
theorem activated (h : Stage e x) : Stage e x.activated := by
  rcases h with rfl | rfl <;> exact Or.inr rfl

/-- What callers see of an active forwarder does not depend on the stage. -/
theorem view (h : Stage e x) : x.activated.view = e.activated.view := by
  rcases h with rfl | rfl <;> rfl

/-- The event that a forwarder ends with does not depend on the stage. -/
theorem lastRecord (h : Stage e x) (cause : Option Error) :
    x.lastRecord cause = e.lastRecord cause := by
  rcases h with rfl | rfl
  · rfl
  · cases cause <;> rfl

end Stage

/-- Every entry is that of an admitted forwarder. -/
theorem exists_admits (hx : x ∈ ((initial limit platform).run actions).world.registry.entries) :
    ∃ e, (initial limit platform).Along actions (Admits e) ∧ Stage e x := by
  refine run_induction (s := initial limit platform) (motive := fun actions t =>
    ∀ x ∈ t.world.registry.entries, ∃ e, (initial limit platform).Along actions (Admits e) ∧
      Stage e x) ?_ ?_ actions x hx
  · intro x hx
    cases hx
  · intro actions a ih x hx
    have hr := reachable_run limit platform actions
    rcases (move_step _ a).entry hr.sound hr.single hx with hx | hx | ⟨y, hy, -, rfl⟩
    · obtain ⟨e, he, hstage⟩ := ih x hx
      exact ⟨e, he.append [a], hstage⟩
    · exact ⟨x, along_snoc.mpr (Or.inr hx), Or.inl rfl⟩
    · obtain ⟨e, he, hstage⟩ := ih y hy
      exact ⟨e, he.append [a], hstage.activated⟩

/-- Every entry is pending or active. -/
theorem Reachable.status {e : Entry} (h : s.Reachable) (he : e ∈ s.world.registry.entries) :
    e.status = .pending ∨ e.status = .active := by
  obtain ⟨limit, platform, actions, rfl⟩ := h
  obtain ⟨d, ⟨before, a, after, -, -, -, -, hd⟩, rfl | rfl⟩ := exists_admits he
  · rw [hd]
    exact Or.inl rfl
  · exact Or.inr rfl

/-- An entry with the generation of an admitted forwarder is its entry. -/
theorem Along.admits_entry (he : (initial limit platform).Along actions (Admits e))
    (hx : x ∈ ((initial limit platform).run actions).world.registry.entries)
    (hg : x.generation = e.generation) : Stage e x := by
  obtain ⟨d, hd, hstage⟩ := exists_admits hx
  have hdg : d.generation = e.generation := hstage.generation.symm.trans hg
  rw [← hd.admits_eq he hdg]
  exact hstage

end PortForward.System
