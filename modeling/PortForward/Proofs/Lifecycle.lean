/-
# The life of an entry

The status of an entry, the signal that its start is still binding, and its tasks are changed in
different places, but they always agree: an entry waits for its start, or it has all its tasks.
From one to the other it changes once, and it never changes back. A failed forwarder is seen only
in the event that tells of its end.

* `Opening`, `AtWork` : the two shapes of an entry, and what they promise of the world;
* `Reachable.opening`, `Reachable.atWork` : every entry has one of them;
* `stage_run` : what becomes of an entry in a run;
* `lifecycle` : all of this of every run.
-/
import PortForward.Proofs.Endings
import PortForward.Proofs.Settling
import PortForward.Proofs.Withdrawals

namespace PortForward

/-- What a record shows of a forwarder, if it does. -/
def Record.view? : Record → Option View
  | .startHook v => some v
  | .started v => some v
  | .failed v _ => some v
  | .stopHook _ _ _ => none
  | .stopped _ _ => none

namespace System

variable {s : System} {a : Action} {d e : Entry} {limit : Nat} {platform : Platform}
variable {actions more : List Action}

/-! ## Two shapes -/

/-- The entry waits for its start: nothing was spawned for it, nothing runs for it, and there is a
call that binds its tunnels in their order, or was refused one of them. As long as this call may
hold listeners, it has not said that it holds none. -/
structure Opening (s : System) (e : Entry) : Prop where
  status : e.status = .pending
  binding : e.binding = true
  unspawned : e.tasks = []
  resting : ∀ t ∈ s.world.tasks, t.generation ≠ e.generation
  start : ∃ (i : Nat) (c : Call) (startHook : Bool), s.calls[i]? = some c ∧
    ((∃ bound left, c = .binding ⟨e.generation, e.key, startHook⟩ bound left ∧
        e.tunnels = bound ++ left) ∨
      ∃ t cause, c.setback? = some (⟨e.generation, e.key, startHook⟩, .refused t cause)) ∧
    (c.bound? ≠ none → e.generation ∈ s.world.starting)

/-- The entry has been started: a task was spawned for each of its tunnels and one to watch the
target. Each of them runs once, and nothing else for this entry, unless the report of one that
ended waits for the reaper. -/
structure AtWork (s : System) (e : Entry) : Prop where
  status : e.status = .active
  bound : e.binding = false
  spawned : e.tasks = e.tunnels.map .tunnel ++ [.monitor]
  distinct : e.tasks.Nodup
  started : e.generation ∉ s.world.starting
  own : ∀ t ∈ s.world.tasks, t.generation = e.generation → t.key = e.key ∧ t.role ∈ e.tasks
  once : ∀ t ∈ s.world.tasks, ∀ u ∈ s.world.tasks, t.generation = e.generation →
    u.generation = e.generation → t.role = u.role → t = u
  all : (∀ role ∈ e.tasks, ∃ t ∈ s.world.tasks, t.generation = e.generation ∧ t.role = role) ∨
    ∃ r ∈ s.world.reports, r.generation = e.generation ∧ r.key = e.key

/-- An entry is as it was admitted, or as its start has left it. -/
theorem Reachable.shape (h : s.Reachable) (he : e ∈ s.world.registry.entries) :
    (e.status = .pending ∧ e.binding = true ∧ e.tasks = []) ∨ e = e.activated := by
  obtain ⟨limit, platform, actions, rfl⟩ := h
  obtain ⟨d, ⟨before, a, after, -, -, -, -, hd⟩, rfl | rfl⟩ := exists_admits he
  · rw [hd]
    exact Or.inl ⟨rfl, rfl, rfl⟩
  · exact Or.inr rfl

/-- An entry that is pending waits for its start. -/
theorem Reachable.opening (h : s.Reachable) (he : e ∈ s.world.registry.entries)
    (hp : e.status = .pending) : s.Opening e := by
  have hunstarted := h.unopened (Or.inr ⟨e, he, rfl, hp⟩)
  obtain ⟨i, c, hc, startHook, hopen⟩ := h.opens he hp
  have hshape : e.binding = true ∧ e.tasks = [] := by
    rcases h.shape he with ⟨-, hshape⟩ | hactive
    · exact hshape
    · rw [hactive] at hp
      cases hp
  have hstarting : c.bound? ≠ none → e.generation ∈ s.world.starting := by
    intro hholds
    obtain ⟨⟨st, bound⟩, hb⟩ := Option.ne_none_iff_exists'.mp hholds
    cases hopen.symm.trans (Call.opening?_of_bound? hb)
    exact h.unreleased (i + 1) c _ bound hc hb
  refine ⟨hp, hshape.1, hshape.2, hunstarted.tasks, i, c, startHook, hc, ?_, hstarting⟩
  -- a start that has lost its forwarder would have found that it is not registered
  have lost : c.setback? ≠ some (⟨e.generation, e.key, startHook⟩, .overtaken) :=
    fun hlost => h.single.lost (i + 1) c _ hc hlost e he rfl
  cases c with
  | binding st bound left =>
    cases hopen
    exact Or.inl ⟨bound, left, rfl, (h.single.order (i + 1) _ bound left hc e he rfl).2⟩
  | dropping st bound setback =>
    cases hopen
    cases setback with
    | refused t cause => exact Or.inr ⟨t, cause, rfl⟩
    | overtaken => exact absurd rfl lost
  | releasing st setback =>
    cases hopen
    cases setback with
    | refused t cause => exact Or.inr ⟨t, cause, rfl⟩
    | overtaken => exact absurd rfl lost
  | unbound st t cause =>
    cases hopen
    exact Or.inr ⟨t, cause, rfl⟩
  | _ => cases hopen

/-- The start of an active forwarder holds its listeners no longer. -/
theorem Reachable.started (h : s.Reachable) (he : e ∈ s.world.registry.entries)
    (hactive : e.status = .active) : e.generation ∉ s.world.starting := by
  refine h.invariant (P := fun s => ∀ e ∈ s.world.registry.entries, e.status = .active →
    e.generation ∉ s.world.starting) ?_ ?_ e he hactive
  · intro limit platform e he
    cases he
  · intro s a hr ih e he hactive hstarting
    rcases entry_of_active hr a he hactive with hold | ⟨d, hd, hcommits, rfl⟩
    · exact ih e hold hactive ((move_step s a).starting (hr.sound.old e hold) hstarting)
    · -- the change that makes it active takes it out of what is starting
      obtain ⟨r, -, hworld⟩ := hcommits.world hr.sound hd
      rw [hworld] at hstarting
      have hne := (List.mem_filter.mp hstarting).2
      rw [bne_iff_ne] at hne
      exact hne rfl

/-- An entry that is active has all its tasks. -/
theorem Reachable.atWork (h : s.Reachable) (he : e ∈ s.world.registry.entries)
    (hactive : e.status = .active) : s.AtWork e := by
  have hstaffed := h.staffed
  have hbound : e = e.activated := by
    rcases h.shape he with ⟨hp, -⟩ | hbound
    · rw [hp] at hactive
      cases hactive
    · exact hbound
  have htasks : e.tasks = Entry.roles e.tunnels := by rw [hbound]; rfl
  refine ⟨hactive, by rw [hbound]; rfl, htasks, ?_, h.started he hactive, ?_, ?_, ?_⟩
  · -- roles of one forwarder are told apart by its posts
    rw [htasks]
    refine (List.pairwise_map.mp (Entry.posts_apart (h.sound.batch e he))).imp ?_
    intro role other hapart
    exact hapart rfl
  · intro t ht hg
    rcases hstaffed.forwarder ht with htold | ⟨x, hx, -, hxg, hxk, hrole⟩
    · exact absurd hg.symm ((hstaffed.told _ htold).2 e he)
    · obtain rfl : x = e := h.sound.eq_of_generation hx he (hxg.trans hg)
      rw [htasks]
      exact ⟨hxk.symm, hrole⟩
  · intro t ht u hu htg hug hrole
    exact hstaffed.eq_of_post ht hu (htg.trans hug.symm) hrole
  · refine (hstaffed.complete e he hactive).imp_left ?_
    intro hall role hrole
    rw [htasks] at hrole
    obtain ⟨t, ht, hpost⟩ := List.mem_map.mp (hall _ (List.mem_map_of_mem hrole))
    exact ⟨t, ht, congrArg (·.1) hpost, congrArg (·.2.2) hpost⟩

/-! ## Changes -/

/-- Whatever happens, an entry stays as it is, or changes from pending to active. -/
theorem stage_run (h : s.Reachable) (hd : d ∈ s.world.registry.entries)
    (he : e ∈ (s.run actions).world.registry.entries) (hg : e.generation = d.generation) :
    e = d ∨ (d.status = .pending ∧ e = d.activated) := by
  have hrun := run_induction (s := s) (motive := fun _ t =>
    d.generation < t.world.registry.next ∧ ∀ e ∈ t.world.registry.entries,
      e.generation = d.generation → e = d ∨ (d.status = .pending ∧ e = d.activated)) ?_ ?_ actions
  · exact hrun.2 e he hg
  · refine ⟨h.sound.old d hd, ?_⟩
    intro e he hg
    exact Or.inl (h.sound.eq_of_generation he hd hg)
  · rintro actions a ⟨hold, ih⟩
    have hr := h.run actions
    have hmove := move_step (s.run actions) a
    have hnext := hmove.change.next_le
    refine ⟨by omega, ?_⟩
    intro e he hg
    rcases hmove.entry hr.sound hr.single he with he | hadm | ⟨x, hx, -, rfl⟩
    · exact ih e he hg
    · -- what is admitted is of a new generation
      have hnew := hadm.generation
      omega
    · rcases ih x hx hg with rfl | ⟨hp, rfl⟩
      · rcases hr.shape hx with ⟨hp, -⟩ | hactive
        · exact Or.inr ⟨hp, rfl⟩
        · exact Or.inl hactive.symm
      · exact Or.inr ⟨hp, rfl⟩

/-! ## Views -/

/-- What is seen of an entry is not failed. -/
theorem Reachable.view_status (h : s.Reachable) (he : e ∈ s.world.registry.entries) :
    e.view.status ≠ .failed := by
  show e.status ≠ .failed
  rcases h.status he with hp | hactive
  · rw [hp]
    decide
  · rw [hactive]
    decide

/-- A record that shows a failed forwarder is the event of its end. -/
theorem failed_run {rec : Record} {v : View}
    (hrec : rec ∈ ((initial limit platform).run actions).world.journal)
    (hv : rec.view? = some v) (hfailed : v.status = .failed) :
    ∃ x cause, rec = .failed v cause ∧ v = x.failedView ∧
      (initial limit platform).Along actions (Leaves x (some cause)) := by
  rcases record_run hrec with ⟨x, -, rfl | rfl⟩ | ⟨x, cause, hleaves, rfl | rfl⟩
  · cases hv
    cases hfailed
  · cases hv
    cases hfailed
  · cases hv
  · cases cause with
    | none => cases hv
    | some cause =>
      cases hv
      exact ⟨x, cause, rfl, rfl, hleaves⟩

/-- Every entry waits for its start or has all its tasks. In any continuation its generation has
the same key and the same tunnels, and has changed at most from pending to active. Nobody who asks
for forwarders sees a failed one: this is only in events of forwarders that have left and do not
come back. -/
theorem lifecycle (limit : Nat) (platform : Platform) (actions more : List Action) :
    let s := (initial limit platform).run actions
    let t := (initial limit platform).run (actions ++ more)
    (∀ e ∈ s.world.registry.entries, s.Opening e ∨ s.AtWork e) ∧
    (∀ d ∈ s.world.registry.entries, ∀ e ∈ t.world.registry.entries,
      e.generation = d.generation → e = d ∨ (d.status = .pending ∧ e = d.activated)) ∧
    (∀ v ∈ s.world.registry.list, v.status ≠ .failed) ∧
    (∀ key v, s.world.registry.find? key = some v → v.status ≠ .failed) ∧
    ∀ rec ∈ s.world.journal, ∀ v, rec.view? = some v → v.status = .failed →
      (∃ x cause, rec = .failed v cause ∧ v = x.failedView ∧
        (initial limit platform).Along actions (Leaves x (some cause))) ∧
      ∀ e ∈ t.world.registry.entries, e.generation ≠ v.generation := by
  intro s t
  have hs : s.Reachable := reachable_run limit platform actions
  refine ⟨?_, ?_, ?_, ?_, ?_⟩
  · intro e he
    exact (hs.status he).imp (hs.opening he) (hs.atWork he)
  · intro d hd e he hg
    have ht : t = s.run more := run_append _ actions more
    rw [ht] at he
    exact stage_run hs hd he hg
  · intro v hv
    obtain ⟨e, he, rfl⟩ := List.mem_map.mp hv
    exact hs.view_status he
  · intro key v hv
    obtain ⟨e, he, rfl⟩ := Option.map_eq_some_iff.mp hv
    exact hs.view_status (List.mem_of_find?_eq_some he)
  · intro rec hrec v hv hfailed
    obtain ⟨x, cause, hfailedRecord, hview, hleaves⟩ := failed_run hrec hv hfailed
    refine ⟨⟨x, cause, hfailedRecord, hview, hleaves⟩, ?_⟩
    intro e he
    rw [hview]
    exact (hleaves.append more).leaves_gone.2 e he

end System
end PortForward
