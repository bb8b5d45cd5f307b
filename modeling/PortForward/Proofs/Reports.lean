/-
# The queue of reports

A task that fails, or that ends after it was given up, leaves a report of its forwarder; a task that
ends because it was told to leaves none, and nobody takes its place. Reports wait in the order in
which they were left, and the reaper takes the oldest. One of a registered forwarder removes it, so
the oldest report of a forwarder stays the oldest as long as the forwarder is registered.

* `Reports`, `TakesReport`, `step_queue` : what an action does to the queue;
* `Reachable.report_run`, `not_reports_of_closed` : who leaves reports, and who does not;
* `TakesReport.leaves`, `TakesReport.stale` : what comes of a report that is taken;
* `oldest_run` : the report of a forwarder that was left first stays its oldest.
-/
import PortForward.Proofs.Settling

namespace PortForward.System

variable {s t : System} {a b : Action} {d e x : Entry} {u v : Task} {q r : Report} {g : Nat}
variable {key : Key} {limit : Nat} {platform : Platform} {actions more : List Action}

/-! ## Who leaves reports -/

/-- The task ends by this action and leaves this report: it fails, or it was given up. -/
inductive Reports (u : Task) (s : System) : Report → Action → Prop
  | failed (hu : u ∈ s.world.tasks) (reason : String) :
      Reports u s ⟨u.generation, u.key, reason⟩ (.fail u reason)
  | died (hu : u ∈ s.world.tasks) (haborted : u.aborted = true) :
      Reports u s ⟨u.generation, u.key, Report.unexpected⟩ (.die u)

/-- The reaper takes this report. -/
structure TakesReport (r : Report) (s : System) (a : Action) : Prop where
  reap : a = .reap
  free : s.ReaperFree
  next : s.world.reports.head? = some r

theorem Reports.task (h : Reports u s q a) : u ∈ s.world.tasks := by
  cases h <;> assumption

/-- A report is of the forwarder of its task. -/
theorem Reports.of_task (h : Reports u s q a) : q.generation = u.generation ∧ q.key = u.key := by
  cases h <;> exact ⟨rfl, rfl⟩

/-- A task that leaves a report changes no entry. -/
theorem Reports.registry (h : Reports u s q a) : (s.step a).world.registry = s.world.registry := by
  have hstill : Still s (s.step a) := by
    cases h <;> exact still_step (by simp) (by simp) rfl rfl
  exact hstill.registry

/-- The queue stays as it is, gets one more report at its end, or loses its first one. -/
theorem step_queue (s : System) (a : Action) :
    (s.step a).world.reports = s.world.reports ∨
      (∃ u q, Reports u s q a ∧ (s.step a).world.reports = s.world.reports ++ [q]) ∨
      ∃ q, TakesReport q s a ∧ s.world.reports = q :: (s.step a).world.reports := by
  cases a with
  | request r =>
    obtain ⟨w, c, hstep, hbegins⟩ := step_request s r
    rw [hstep]
    cases hbegins <;> exact Or.inl rfl
  | advance i =>
    left
    rw [step]
    rcases withCall_cases s i Call.advance with h | ⟨c, -, h⟩
    · rw [h]
    · rw [h, put_world]
      exact (Call.advances_advance s.world c).reports
  | giveUp i =>
    left
    rw [step]
    rcases withCall_cases s i Call.giveUp with h | ⟨c, -, h⟩
    · rw [h]
    · rw [h, put_world]
      cases c <;> rfl
  | reap =>
    cases hreports : s.world.reports with
    | nil =>
      left
      rw [step, hreports]
      split
      · rename_i h
        cases h
      · exact hreports
    | cons q reports =>
      by_cases hfree : s.ReaperFree
      · right
        right
        refine ⟨q, ⟨rfl, hfree, by rw [hreports]; rfl⟩, ?_⟩
        rw [(step_reap hfree).2.1, hreports]
        rfl
      · left
        rw [step, hreports]
        split
        · rename_i ho _
          exact absurd ⟨_, ho⟩ hfree
        · exact hreports
  | advanceReaper => exact Or.inl (Call.advances_advance s.world s.reaper).reports
  | reaperGivesUp =>
    left
    show (s.reaper.giveUp s.world).1.reports = _
    cases s.reaper <;> rfl
  | close u =>
    left
    rw [step]
    split <;> rfl
  | fail u reason =>
    rw [step]
    split
    · rename_i hu
      exact Or.inr (Or.inl ⟨u, _, .failed (List.contains_iff_mem.mp hu) reason, rfl⟩)
    · exact Or.inl rfl
  | die u =>
    rw [step]
    split
    · rename_i hu
      rw [Bool.and_eq_true, List.contains_iff_mem] at hu
      exact Or.inr (Or.inl ⟨u, _, .died hu.1 hu.2, rfl⟩)
    · exact Or.inl rfl
  | hold address port => exact Or.inl rfl
  | letGo address port => exact Or.inl rfl
  | stall key on => exact Or.inl rfl

/-- A report that waits after an action did so before, or it was left by that action. -/
theorem step_report_from (hq : q ∈ (s.step a).world.reports) :
    q ∈ s.world.reports ∨ ∃ u, Reports u s q a := by
  rcases step_queue s a with hsame | ⟨u, r, hr, hmore⟩ | ⟨r, -, hless⟩
  · exact Or.inl (hsame ▸ hq)
  · rw [hmore, List.mem_append, List.mem_singleton] at hq
    rcases hq with hq | rfl
    · exact Or.inl hq
    · exact Or.inr ⟨u, hr⟩
  · rw [hless]
    exact Or.inl (List.mem_cons_of_mem r hq)

/-- Every report was left by a task that failed or was given up. -/
theorem report_run (hq : q ∈ ((initial limit platform).run actions).world.reports) :
    ∃ u, (initial limit platform).Along actions fun s a => Reports u s q a := by
  refine run_induction (s := initial limit platform) (motive := fun actions t =>
    q ∈ t.world.reports → ∃ u, (initial limit platform).Along actions fun s a => Reports u s q a)
    (fun hq => absurd hq List.not_mem_nil) ?_ actions hq
  intro actions a ih hq
  rcases step_report_from hq with hq | ⟨u, hu⟩
  · obtain ⟨u, hu⟩ := ih hq
    exact ⟨u, hu.append [a]⟩
  · exact ⟨u, along_snoc.mpr (Or.inr hu)⟩

/-! ## Tasks that were told to end -/

/-- Nobody takes a post of a forwarder that was told to end. -/
theorem post_of_step {p : Nat × Key × Role} (h : s.Reachable) (htold : p.1 ∈ s.world.cancelled)
    (hp : p ∈ (s.step a).world.posts) : p ∈ s.world.posts := by
  rcases step_posts h.single a with hsub | ⟨e, he, -, hposts⟩
  · exact hsub.subset hp
  · rw [hposts, List.mem_append] at hp
    -- only a registered forwarder fills its posts
    exact hp.resolve_right fun hnew =>
      (h.staffed.told _ htold).2 e he (Entry.mem_posts.mp hnew).1.symm

/-- Such a post stays vacant. -/
theorem vacant_run {p : Nat × Key × Role} (h : s.Reachable) (htold : p.1 ∈ s.world.cancelled)
    (hp : p ∉ s.world.posts) (actions : List Action) : p ∉ (s.run actions).world.posts := by
  have hrun := run_induction (s := s) (motive := fun _ t =>
    p.1 ∈ t.world.cancelled ∧ p ∉ t.world.posts) ⟨htold, hp⟩ ?_ actions
  · exact hrun.2
  · rintro actions a ⟨htold, hp⟩
    have hr := h.run actions
    exact ⟨cancelled_step hr.sound a htold, fun hpost => hp (post_of_step hr htold hpost)⟩

/-- A task that ends because it was told to leaves no report, neither then nor later. -/
theorem not_reports_of_closed (h : s.Reachable) (hu : u ∈ s.world.tasks)
    (htold : u.generation ∈ s.world.cancelled) :
    (s.step (.close u)).world.reports = s.world.reports ∧
      ∀ more a v q, Reports v ((s.step (.close u)).run more) q a → v.post ≠ u.post := by
  have hstep : s.step (.close u) = s.withWorld (·.endTask u) := by
    rw [step, if_pos (by simp [hu, htold])]
  have hvacant : u.post ∉ (s.step (.close u)).world.posts := by
    rw [hstep]
    intro hpost
    obtain ⟨v, hv, hvu⟩ := List.mem_map.mp hpost
    obtain ⟨hv, hne⟩ := World.mem_tasks_endTask.mp hv
    exact hne (h.staffed.eq_of_post hv hu (congrArg (·.1) hvu) (congrArg (·.2.2) hvu))
  have htold' : u.post.1 ∈ (s.step (.close u)).world.cancelled := cancelled_step h.sound _ htold
  refine ⟨by rw [hstep]; rfl, ?_⟩
  intro more a v q hv hvu
  refine vacant_run (h.run [.close u]) htold' hvacant more ?_
  rw [← hvu]
  exact List.mem_map_of_mem hv.task

/-! ## Whose reports they are -/

/-- The generation is no new one, and its entry has this key if there is one. -/
structure Keyed (s : System) (g : Nat) (key : Key) : Prop where
  old : g < s.world.registry.next
  entry : ∀ e ∈ s.world.registry.entries, e.generation = g → e.key = key

theorem Keyed.step (h : s.Keyed g key) (hr : s.Reachable) (a : Action) : (s.step a).Keyed g key := by
  have hmove := move_step s a
  have hold := h.old
  refine ⟨Nat.lt_of_lt_of_le hold hmove.change.next_le, ?_⟩
  intro e he hg
  rcases hmove.entry hr.sound hr.single he with he | hadm | ⟨d, hd, -, rfl⟩
  · exact h.entry e he hg
  · have hnew := hadm.generation
    omega
  · exact h.entry d hd hg

/-- A task is of the key that its forwarder has in the registry. -/
theorem Reachable.task_keyed (h : s.Reachable) (hu : u ∈ s.world.tasks) :
    s.Keyed u.generation u.key := by
  rcases h.staffed.forwarder hu with htold | ⟨d, hd, -, hg, hk, -⟩
  · obtain ⟨hold, hgone⟩ := h.staffed.told u.generation htold
    exact ⟨hold, fun e he hg => absurd hg (hgone e he)⟩
  · refine ⟨hg ▸ h.sound.old d hd, ?_⟩
    intro e he heg
    rw [h.sound.eq_of_generation he hd (heg.trans hg.symm)]
    exact hk

/-- So is a report. -/
theorem Reachable.report_keyed (h : s.Reachable) (hq : q ∈ s.world.reports) :
    s.Keyed q.generation q.key := by
  refine h.invariant (P := fun s => ∀ q ∈ s.world.reports, s.Keyed q.generation q.key) ?_ ?_ q hq
  · intro limit platform q hq
    cases hq
  · intro s a hr ih q hq
    rcases step_report_from hq with hq | ⟨u, hu⟩
    · exact (ih q hq).step hr a
    · obtain ⟨hg, hk⟩ := hu.of_task
      rw [hg, hk]
      exact (hr.task_keyed hu.task).step hr a

/-! ## Reports that are taken -/

theorem TakesReport.mem (h : TakesReport r s a) : r ∈ s.world.reports :=
  List.mem_of_head? h.next

/-- What taking a report comes to. -/
theorem TakesReport.step_eq (h : TakesReport r s a) :
    s.step a =
      let p := Call.ofReport { s.world with reports := s.world.reports.tail } r
      ⟨p.1, s.calls, p.2⟩ := by
  obtain ⟨rfl, ⟨answer, ho⟩, hnext⟩ := h
  obtain ⟨reports, hreports⟩ := List.head?_eq_some_iff.mp hnext
  rw [step, ho, hreports]
  rfl

/-- A report of a registered forwarder removes it, and no other one. -/
theorem TakesReport.leaves (h : TakesReport r s a) (hr : s.Reachable)
    (he : e ∈ s.world.registry.entries) (hg : r.generation = e.generation) :
    Leaves e (some (.terminated e.key r.reason)) s a ∧
      (s.step a).world.registry.entries =
        s.world.registry.entries.filter fun x => x.generation != e.generation := by
  have hk : e.key = r.key := (hr.report_keyed h.mem).entry e he hg.symm
  have hev := hr.sound.evict_of_mem he
  have hregistry : (s.step a).world.registry = (s.world.registry.take (· == e.key)).2 := by
    rw [h.step_eq, Call.ofReport, World.evict]
    dsimp only
    rw [hg, ← hk, hev]
    rfl
  obtain ⟨rfl, ⟨answer, ho⟩, hnext⟩ := h
  obtain ⟨reports, hreports⟩ := List.head?_eq_some_iff.mp hnext
  refine ⟨leaves_of_evict hr.sound hev hregistry ?_, ?_⟩
  · have hown : s.world.reports = ⟨e.generation, e.key, r.reason⟩ :: reports := by
      rw [hreports, hk, ← hg]
    exact .reported ho hown
  · rw [hregistry, hr.sound.other_generations he]

/-- A report of a forwarder that is not registered is dropped, and nothing else happens. -/
theorem TakesReport.stale (h : TakesReport r s a)
    (hgone : ∀ x ∈ s.world.registry.entries, x.generation ≠ r.generation) :
    s.step a =
      ⟨{ s.world with reports := s.world.reports.tail }, s.calls, .over (.ok .done)⟩ := by
  have hnone : s.world.registry.evict r.key r.generation = none := by
    by_contra hne
    obtain ⟨⟨e, r'⟩, hev⟩ := Option.ne_none_iff_exists'.mp hne
    obtain ⟨he, -, hg, -⟩ := Registry.evict_eq_some hev
    exact hgone e he hg
  rw [h.step_eq, Call.ofReport, World.evict]
  dsimp only
  rw [hnone]
  rfl

/-- A reaper that is busy, or has no report, takes none. -/
theorem step_reap_idle (h : ¬∃ r, TakesReport r s .reap) : s.step .reap = s := by
  rw [step]
  split
  · rename_i ho hreports
    exact absurd ⟨_, rfl, ⟨_, ho⟩, by rw [hreports]; rfl⟩ h
  · rfl

/-! ## The oldest report of a forwarder -/

/-- The oldest report of a generation that waits. -/
def oldest? (s : System) (g : Nat) : Option Report := s.world.reports.find? (·.generation == g)

theorem TakesReport.oldest (h : TakesReport r s a) : s.oldest? r.generation = some r := by
  obtain ⟨reports, hreports⟩ := List.head?_eq_some_iff.mp h.next
  rw [oldest?, hreports]
  exact List.find?_cons_of_pos (beq_self_eq_true _)

/-- No generation but a new one enters the registry. -/
theorem registered_of_step (hr : s.Reachable) (hold : g < s.world.registry.next)
    (h : ∃ x ∈ (s.step a).world.registry.entries, x.generation = g) :
    ∃ d ∈ s.world.registry.entries, d.generation = g := by
  obtain ⟨x, hx, hg⟩ := h
  rcases (move_step s a).entry hr.sound hr.single hx with hx | hadm | ⟨d, hd, -, rfl⟩
  · exact ⟨x, hx, hg⟩
  · have hnew := hadm.generation
    omega
  · exact ⟨d, hd, hg⟩

/-- Who is not registered any more does not come back. -/
theorem registered_of_run (hr : s.Reachable) (hold : g < s.world.registry.next)
    (h : ∃ x ∈ (s.run actions).world.registry.entries, x.generation = g) :
    ∃ d ∈ s.world.registry.entries, d.generation = g := by
  have hrun := run_induction (s := s) (motive := fun _ t => g < t.world.registry.next ∧
    ((∃ x ∈ t.world.registry.entries, x.generation = g) →
      ∃ d ∈ s.world.registry.entries, d.generation = g)) ⟨hold, id⟩ ?_ actions
  · exact hrun.2 h
  · rintro actions a ⟨hold, ih⟩
    refine ⟨Nat.lt_of_lt_of_le hold (move_step _ a).change.next_le, fun h => ih ?_⟩
    exact registered_of_step (hr.run actions) hold h

/-- While a forwarder is registered, its oldest report stays the oldest. -/
theorem oldest_step (hr : s.Reachable) (hq : s.oldest? g = some q)
    (h : ∃ x ∈ (s.step a).world.registry.entries, x.generation = g) :
    (s.step a).oldest? g = some q := by
  rcases step_queue s a with hsame | ⟨u, r, -, hmore⟩ | ⟨r, htakes, hless⟩
  · rw [oldest?, hsame]
    exact hq
  · rw [oldest?] at hq
    rw [oldest?, hmore, List.find?_append, hq]
    rfl
  · rw [oldest?, hless, List.find?_cons] at hq
    split at hq
    · -- to take a report of its own would have removed it
      rename_i hrg
      obtain rfl : r.generation = g := beq_iff_eq.mp hrg
      obtain ⟨d, hd, hdg⟩ := registered_of_step hr (hr.report_keyed htakes.mem).old h
      obtain ⟨x, hx, hg⟩ := h
      exact absurd (hg.trans hdg.symm) ((htakes.leaves hr hd hdg.symm).1.gone x hx)
    · exact hq

/-- The oldest report of a generation is a report of it that waits. -/
theorem mem_of_oldest (hq : s.oldest? g = some q) : q ∈ s.world.reports ∧ q.generation = g := by
  rw [oldest?] at hq
  exact ⟨List.mem_of_find?_eq_some hq, by simpa using List.find?_some hq⟩

/-- As long as a forwarder is registered, its oldest report is the one that was left first. -/
theorem oldest_run (hr : s.Reachable) (hq : s.oldest? g = some q)
    (h : ∃ x ∈ (s.run actions).world.registry.entries, x.generation = g) :
    (s.run actions).oldest? g = some q := by
  obtain ⟨hmem, hqg⟩ := mem_of_oldest hq
  have hold : g < s.world.registry.next := hqg ▸ (hr.report_keyed hmem).old
  have hrun := run_induction (s := s) (motive := fun _ t => g < t.world.registry.next ∧
    ((∃ x ∈ t.world.registry.entries, x.generation = g) → t.oldest? g = some q))
    ⟨hold, fun _ => hq⟩ ?_ actions
  · exact hrun.2 h
  · rintro actions a ⟨hold, ih⟩
    have hr' := hr.run actions
    refine ⟨Nat.lt_of_lt_of_le hold (move_step _ a).change.next_le, fun h => ?_⟩
    exact oldest_step hr' (ih (registered_of_step hr' hold h)) h

end PortForward.System
