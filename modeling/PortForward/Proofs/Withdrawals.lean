/-
# Forwarders that are stopped before they start

A stop may remove a forwarder while its start still binds. Then the forwarder stays removed and
nothing of it ever starts; its start finds nothing to make active and returns; and the stop,
unless it gives up, returns only after the start has closed its listeners and then said so.

* `Withdrawn.step` : such a forwarder stays as it is;
* `withdrawn_start` : what its start returns;
* `withdrawn_stop` : what the stop waits for;
* `stop_wins` : all of this of every run.
-/
import PortForward.Bench.Platforms
import PortForward.Proofs.Courses
import PortForward.Proofs.Custody
import PortForward.Proofs.Endings

namespace PortForward

/-- The changes of a start whose forwarder is gone, once it has said that its listeners are
closed. -/
def Setback.triesLeft : Setback → Nat
  | .refused _ _ => 1
  | .overtaken => 0

theorem Setback.triesLeft_le_one (setback : Setback) : setback.triesLeft ≤ 1 := by
  cases setback with
  | refused _ _ => exact Nat.le_refl _
  | overtaken => exact Nat.zero_le _

/-- The changes that a call makes that opens a forwarder, if nobody lets it become active. -/
def Call.triesLeft : Call → Nat
  | .binding _ _ left => left.length + 3
  | .dropping _ _ setback => setback.triesLeft + 2
  | .releasing _ setback => setback.triesLeft + 1
  | .unbound _ _ _ => 1
  | _ => 0

theorem Call.triesLeft_pos {c : Call} {st : Start} (h : c.opening? = some st) :
    0 < c.triesLeft := by
  cases c with
  | binding _ _ left => exact Nat.succ_pos _
  | dropping _ _ setback => exact Nat.succ_pos _
  | releasing _ setback => exact Nat.succ_pos _
  | unbound _ _ _ => exact Nat.one_pos
  | _ => cases h

namespace System

variable {s s' : System} {a : Action} {e : Entry} {g : Nat} {limit : Nat} {platform : Platform}

/-- The forwarder was removed before it became active. -/
structure Withdrawn (s : System) (g : Nat) : Prop where
  old : g < s.world.registry.next
  gone : ∀ x ∈ s.world.registry.entries, x.generation ≠ g
  unstarted : s.Unstarted g

/-- A forwarder that was removed before it became active stays so. -/
theorem Withdrawn.step (h : s.Withdrawn g) (hs : s.world.registry.Sound) (h1 : s.Single)
    (a : Action) :
    (s.step a).Withdrawn g := by
  have hmove := move_step s a
  have hnext := hmove.change.next_le
  have hno : ∀ e ∈ s.world.registry.entries, e.generation = g → ¬ Commits e s a :=
    fun e he hg => absurd hg (h.gone e he)
  have hold := h.old
  refine ⟨by omega, ?_, h.unstarted.move hmove h1 hno⟩
  intro x hx hg
  rcases hmove.entry hs h1 hx with hx | hadm | ⟨d, hd, -, rfl⟩
  · exact h.gone x hx hg
  · have hnew := hadm.generation
    omega
  · exact h.gone d hd hg

theorem Withdrawn.run (h : s.Withdrawn g) (hr : s.Reachable) (actions : List Action) :
    (s.run actions).Withdrawn g :=
  run_induction (s := s) (motive := fun _ t => t.Withdrawn g) h
    (fun actions a ih => ih.step (hr.run actions).sound (hr.run actions).single a) actions

/-- No thread is to announce a forwarder that was removed before it became active. -/
theorem Withdrawn.not_view (h : s.Withdrawn g) {c : Call} {v : View} (hc : c ∈ s.threads)
    (hv : c.view? = some v) : v.generation ≠ g := by
  rintro rfl
  obtain ⟨i, hi⟩ := List.getElem?_of_mem hc
  obtain ⟨hown, hopen⟩ := Call.own?_of_view? hv
  obtain ⟨st, hst⟩ := h.unstarted.threads i c hi hown
  rw [hopen] at hst
  cases hst

/-- A listener of a forwarder that was removed before it became active is held by its start, which
then still counts as starting. -/
theorem Withdrawn.starting (h : s.Withdrawn g) (hr : s.Reachable) {l : Listener}
    (hl : l ∈ s.world.machine.listeners) (ho : World.ownedBy g l.owner = true) :
    g ∈ s.world.starting := by
  obtain ⟨x, hx⟩ := World.exists_owned hl ho
  rcases hr.housed.holder g x hx with ⟨st, bound, ⟨c, hc, hb⟩, rfl, -⟩ | hcarries
  · obtain ⟨i, hi⟩ := List.getElem?_of_mem hc
    exact hr.unreleased i c st bound hi hb
  · obtain ⟨t, ht, hg, -⟩ := hcarries.task
    exact absurd hg (h.unstarted.tasks t ht)

/-- A forwarder that is removed before it has started is withdrawn. -/
theorem Leaves.withdrawn {cause : Option Error} (h : Leaves e cause s a) (hr : s.Reachable)
    (hu : s.Unstarted e.generation) : (s.step a).Withdrawn e.generation := by
  have hmove := move_step s a
  have hnext := hmove.change.next_le
  have hold := hr.sound.old e h.mem
  refine ⟨by omega, h.gone, hu.move hmove hr.single fun x hx hg hcommits => ?_⟩
  -- one that becomes active would stay registered
  exact h.gone _ (hcommits.registered hr.sound hx) hg

/-! ## The stop -/

/-- A request that removes an entry names its key. -/
theorem Removes.names {r : Request} {cause : Option Error} (h : Removes e s (.request r) cause) :
    ∃ p, r.names? = some p ∧ p e.key = true := by
  generalize ha : Action.request r = a at h
  cases h with
  | stop =>
    cases ha
    exact ⟨_, rfl, beq_self_eq_true _⟩
  | stopPath =>
    cases ha
    exact ⟨_, rfl, beq_self_eq_true _⟩
  | stopAll =>
    cases ha
    exact ⟨_, rfl, rfl⟩
  | unbound _ => cases ha
  | reported _ _ => cases ha

/-- A stop that removes a forwarder waits for it. -/
theorem stop_waits (hs : s.world.registry.Sound) (he : e ∈ s.world.registry.entries) {r : Request}
    {cause : Option Error} (hr : Removes e s (.request r) cause) :
    (∃ q, (s.step (.request r)).calls[s.calls.length]? = some (.waiting q) ∧ e ∈ q.entries) ∧
      ∀ x ∈ (s.step (.request r)).world.registry.entries, x.generation ≠ e.generation := by
  obtain ⟨p, hp, hk⟩ := hr.names
  have htaken : e ∈ (s.world.registry.take p).1 := Registry.mem_taken.mpr ⟨he, hk⟩
  have hgone := hs.gone_of_taken htaken
  obtain ⟨w, c, hstep, hbegins⟩ := step_request s r
  rw [hstep]
  cases hbegins with
  | admitted _ => cases hp
  | rejected _ => cases hp
  | nothing hq hnone =>
    rw [hp, Option.some.injEq] at hq
    subst hq
    rw [hnone] at htaken
    cases htaken
  | removed hq _ =>
    rw [hp, Option.some.injEq] at hq
    subst hq
    exact ⟨⟨_, List.getElem?_concat_length, htaken⟩, hgone⟩

/-- A pending forwarder that a stop removes is withdrawn. -/
theorem Reachable.withdrawn (h : s.Reachable) (he : e ∈ s.world.registry.entries)
    (hp : e.status = .pending) {r : Request} {cause : Option Error}
    (hr : Removes e s (.request r) cause) : (s.step (.request r)).Withdrawn e.generation :=
  Leaves.withdrawn ⟨he, (stop_waits h.sound he hr).2, hr⟩ h
    (h.unopened (Or.inr ⟨e, he, rfl, hp⟩))

/-- What is starting after a move and is not new was so before. -/
theorem Move.starting (h : Move s a s') (hold : g < s.world.registry.next)
    (hg : g ∈ s'.world.starting) : g ∈ s.world.starting := by
  cases h with
  | request h =>
    cases h with
    | admitted _ =>
      rcases List.mem_cons.mp hg with rfl | hg
      · omega
      · exact hg
    | _ => exact hg
  | advance _ _ h =>
    rw [put_world] at hg
    rcases h.starting with hsame | ⟨f, -, -, hfilter⟩
    · exact hsame ▸ hg
    · rw [hfilter] at hg
      exact (List.mem_filter.mp hg).1
  | giveUp _ _ =>
    rw [put_world] at hg
    exact hg
  | reap _ _ h =>
    rw [put_world] at hg
    cases h <;> exact hg
  | calm _ hw => exact hw.starting ▸ hg

/-- A call waits no longer, though the start of a forwarder has not said yet that its listeners are
closed. -/
def Expires (call g : Nat) (s : System) (a : Action) : Prop :=
  a = .giveUp call ∧ (∃ q, s.calls[call]? = some (.waiting q)) ∧ g ∈ s.world.starting

/-- A call that waits for a withdrawn forwarder does so until its start is through, or gives up
before. -/
theorem withdrawn_stop (hr : s.Reachable) (h : s.Withdrawn e.generation) {k : Nat} {q : Removal}
    (hk : s.calls[k]? = some (.waiting q)) (he : e ∈ q.entries) (actions : List Action) :
    (∃ q, (s.run actions).calls[k]? = some (.waiting q) ∧ e ∈ q.entries) ∨
      e.generation ∉ (s.run actions).world.starting ∨ s.Along actions (Expires k e.generation) := by
  refine run_induction (s := s) (motive := fun actions t =>
    (∃ q, t.calls[k]? = some (.waiting q) ∧ e ∈ q.entries) ∨ e.generation ∉ t.world.starting ∨
      s.Along actions (Expires k e.generation)) (Or.inl ⟨q, hk, he⟩) ?_ actions
  intro actions a ih
  have hold := (h.run hr actions).old
  have hmove := move_step (s.run actions) a
  -- the call waits, the start is through, or the call has given up before it was
  rcases ih with ⟨q, hq, he⟩ | hthrough | hexpired
  · obtain ⟨d, hd, hnext⟩ := hmove.next (i := k + 1) hq
    rcases hnext with rfl | ⟨-, w, hw, hadv⟩ | ⟨ha, _, hq', rfl⟩ | ⟨hzero, -⟩
    · exact Or.inl ⟨q, hd, he⟩
    · cases hadv with
      | quiet hquiet =>
        refine Or.inr (Or.inl ?_)
        have hthrough := hquiet e he
        rw [hw]
        intro hmem
        simp [World.isQuiet, hmem] at hthrough
      | waits => exact Or.inl ⟨q, hd, he⟩
    · by_cases hmem : e.generation ∈ (s.run actions).world.starting
      · exact Or.inr (Or.inr (along_snoc.mpr (Or.inr ⟨eq_giveUp ha, ⟨q, hq⟩, hmem⟩)))
      · exact Or.inr (Or.inl fun hstarting => hmem (hmove.starting hold hstarting))
    · omega
  · exact Or.inr (Or.inl fun hstarting => hthrough (hmove.starting hold hstarting))
  · exact Or.inr (Or.inr (hexpired.append [a]))

/-! ## The start -/

/-- The start of an entry has returned: it was cancelled, or refused the first tunnel that it
could not have. -/
def Returned (happened : (System → Action → Prop) → Prop) (e : Entry) (c : Call) : Prop :=
  c = .over (.error (.cancelled e.key)) ∨
    ∃ t cause, c = .over (.error (.bind t cause)) ∧ FirstRefused happened e t cause

/-- How often a call goes on in a run. -/
def turns (call : Nat) (actions : List Action) : Nat :=
  actions.countP fun a => advances? a == some (call + 1)

theorem turns_snoc (call : Nat) (actions : List Action) (a : Action) :
    turns call (actions ++ [a]) =
      turns call actions + if advances? a == some (call + 1) then 1 else 0 := by
  unfold turns
  rw [List.countP_append, List.countP_singleton]

/-- A start whose forwarder was withdrawn goes on with its tunnels, or returns without having
started anything. -/
theorem start_step {actions : List Action} (he : (initial limit platform).Along actions (Admits e))
    (hw : ((initial limit platform).run actions).Withdrawn e.generation) {i : Nat} {c : Call}
    {st : Start} (hc : ((initial limit platform).run actions).calls[i]? = some c)
    (hst : c.opening? = some st) (hg : st.generation = e.generation) (hk : st.key = e.key)
    (a : Action) :
    ∃ d, (((initial limit platform).run actions).step a).calls[i]? = some d ∧
      ((d.opening? = some st ∧
          d.triesLeft + (if advances? a == some (i + 1) then 1 else 0) ≤ c.triesLeft) ∨
        Returned ((initial limit platform).Along actions) e d) := by
  by_cases ha : advances? a = some (i + 1)
  · obtain ⟨d, w, hd, -, hadv⟩ := step_advances (i := i + 1) ha hc
    refine ⟨d, hd, ?_⟩
    rw [ha, BEq.rfl, if_pos rfl]
    -- the forwarder is not registered, so there is nothing to make active or to take back
    cases hadv with
    | bound _ => exact Or.inl ⟨hst, by simp [Call.triesLeft]⟩
    | refused _ => exact Or.inl ⟨hst, by simp [Call.triesLeft, Setback.triesLeft]⟩
    | overtaken _ => exact Or.inl ⟨hst, by simp [Call.triesLeft, Setback.triesLeft]⟩
    | dropped => exact Or.inl ⟨hst, Nat.le_refl _⟩
    | released => exact Or.inl ⟨hst, Nat.le_refl _⟩
    | committed hr =>
      cases hst
      obtain ⟨x, hx, -, hxg, -, -⟩ := Registry.commit_eq_some hr
      exact absurd (hxg.trans hg) (hw.gone x hx)
    | withdrawn =>
      cases hst
      exact Or.inr (Or.inl (by rw [hk]))
    | evicted hev =>
      cases hst
      obtain ⟨hx, -, hxg, -⟩ := Registry.evict_eq_some hev
      exact absurd (hxg.trans hg) (hw.gone _ hx)
    | forestalled _ =>
      cases hst
      obtain ⟨x, hx, hxg, -, hstands⟩ := opening_run hc rfl
      have hrefused := hstands.firstRefused rfl
      rw [hx.admits_eq he (hxg.symm.trans hg)] at hrefused
      exact Or.inr (Or.inr ⟨_, _, rfl, hrefused⟩)
    | _ => cases hst
  · obtain ⟨d, hd, hnext⟩ := (move_step _ a).next (i := i + 1) hc
    rcases hnext with rfl | ⟨ha', -⟩ | ⟨-, q, rfl, -⟩ | ⟨hzero, -⟩
    · exact ⟨d, hd, Or.inl ⟨hst, by simp [ha]⟩⟩
    · exact absurd ha' ha
    · cases hst
    · omega

theorem Returned.append {actions : List Action} {c : Call} (h : Returned (s.Along actions) e c)
    (more : List Action) : Returned (s.Along (actions ++ more)) e c := by
  rcases h with h | ⟨t, cause, h, hrefused⟩
  · exact Or.inl h
  · exact Or.inr ⟨t, cause, h, hrefused.append more⟩

/-- A start that has returned is over. -/
theorem Returned.over {happened : (System → Action → Prop) → Prop} {c : Call}
    (h : Returned happened e c) : ∃ answer, c = .over answer := by
  rcases h with h | ⟨t, cause, h, -⟩
  · exact ⟨_, h⟩
  · exact ⟨_, h⟩

/-- The start of a withdrawn forwarder returns without having started anything, once it has gone
on as often as it has tunnels left. -/
theorem withdrawn_start {history : List Action}
    (he : (initial limit platform).Along history (Admits e))
    (hw : ((initial limit platform).run history).Withdrawn e.generation) {i : Nat} {c : Call}
    {st : Start} (hc : ((initial limit platform).run history).calls[i]? = some c)
    (hst : c.opening? = some st) (hg : st.generation = e.generation) (hk : st.key = e.key)
    (more : List Action) :
    ∃ d, ((initial limit platform).run (history ++ more)).calls[i]? = some d ∧
      ((d.opening? = some st ∧ d.triesLeft + turns i more ≤ c.triesLeft) ∨
        Returned ((initial limit platform).Along (history ++ more)) e d) := by
  have hreach := reachable_run limit platform history
  -- the induction is on what happens after the removal; each turn uses up one try
  rw [run_append]
  refine run_induction (s := (initial limit platform).run history) (motive := fun more t =>
    ∃ d, t.calls[i]? = some d ∧ ((d.opening? = some st ∧ d.triesLeft + turns i more ≤ c.triesLeft) ∨
      Returned ((initial limit platform).Along (history ++ more)) e d))
    ⟨c, hc, Or.inl ⟨hst, Nat.le_refl _⟩⟩ ?_ more
  rintro more a ⟨d, hd, hcase⟩
  have hwithdrawn := hw.run hreach more
  rw [← run_append] at hd hwithdrawn ⊢
  rw [← List.append_assoc]
  rcases hcase with ⟨hopen, hturns⟩ | hreturned
  · obtain ⟨x, hx, hcase⟩ := start_step (he.append more) hwithdrawn hd hopen hg hk a
    refine ⟨x, hx, ?_⟩
    rcases hcase with ⟨hopen, hleft⟩ | hreturned
    · left
      refine ⟨hopen, ?_⟩
      rw [turns_snoc]
      omega
    · exact Or.inr (hreturned.append [a])
  · obtain ⟨answer, rfl⟩ := hreturned.over
    exact ⟨_, over_run hd [a], Or.inr (hreturned.append [a])⟩

/-! ## Whole runs -/

/-- What has come, by a later system, of a forwarder that a request removed while its start was
binding. -/
structure StopWins (happened : (System → Action → Prop) → Prop) (s : System) (r : Request)
    (after : List Action) (t : System) (e : Entry) : Prop where
  /-- The forwarder is not registered any more, so it is not active. -/
  gone : ∀ x ∈ t.world.registry.entries, x.generation ≠ e.generation
  /-- It has no tasks. -/
  tasks : ∀ u ∈ t.world.tasks, u.generation ≠ e.generation
  /-- Its start hook was not called, and its start was not announced. -/
  records : ∀ x ∈ t.world.journal, x.isStart = true → x.generation ≠ e.generation
  /-- Its start has returned, or still has changes to make; these are no more than it has tunnels,
  and the two with which it closes its listeners and says so. -/
  start : ∃ i c d, Opens e s i c ∧ t.calls[i]? = some d ∧
    ((∃ startHook, d.opening? = some ⟨e.generation, e.key, startHook⟩ ∧
        turns i after ≤ e.tunnels.length + 2) ∨
      Returned happened e d)
  /-- It has no last event but the one of the stop. -/
  event : t.payments .lastEvent e.generation = [] ∨
    t.payments .lastEvent e.generation = [.stopped e.generation e.key]
  /-- As long as it has a listener, its start has not said that they are closed. -/
  signal : ∀ l ∈ t.world.machine.listeners, World.ownedBy e.generation l.owner = true →
    e.generation ∈ t.world.starting
  /-- If the stop has returned and did not give up, its listeners are closed. -/
  listeners : ∀ answer, t.calls[s.calls.length]? = some (.over answer) →
    (∀ l ∈ t.world.machine.listeners, World.ownedBy e.generation l.owner = false) ∨
      (s.step (.request r)).Along after (Expires s.calls.length e.generation)

/-- A pending entry is as it was admitted. -/
theorem admits_of_pending {actions : List Action}
    (he : e ∈ ((initial limit platform).run actions).world.registry.entries)
    (hp : e.status = .pending) : (initial limit platform).Along actions (Admits e) := by
  obtain ⟨d, hd, rfl | rfl⟩ := exists_admits he
  · exact hd
  · cases hp

/-- A start has no more tries left than its forwarder has tunnels, and three changes more. -/
theorem triesLeft_le {actions : List Action}
    (he : (initial limit platform).Along actions (Admits e)) {i : Nat} {c : Call} {st : Start}
    (hc : ((initial limit platform).run actions).calls[i]? = some c) (hst : c.opening? = some st)
    (hg : st.generation = e.generation) : c.triesLeft ≤ e.tunnels.length + 3 := by
  obtain ⟨x, hx, hxg, -, hstands⟩ := opening_run hc hst
  cases c with
  | binding _ bound left =>
    cases hst
    obtain ⟨place, -, rfl, -⟩ := hstands.bound
    rw [hx.admits_eq he (hxg.symm.trans hg), Call.triesLeft, List.length_drop]
    omega
  | dropping _ _ setback =>
    have hle := setback.triesLeft_le_one
    simp only [Call.triesLeft]
    omega
  | releasing _ setback =>
    have hle := setback.triesLeft_le_one
    simp only [Call.triesLeft]
    omega
  | unbound _ _ _ =>
    simp only [Call.triesLeft]
    omega
  | _ => cases hst

/-- Whatever else goes on, a stop that removes a forwarder while its start is binding wins over
it. -/
theorem stop_wins (limit : Nat) (platform : Platform) (before : List Action) (r : Request)
    (after : List Action) {e : Entry}
    (he : e ∈ ((initial limit platform).run before).world.registry.entries)
    (hp : e.status = .pending)
    (hr : Removes e ((initial limit platform).run before) (.request r) none) :
    StopWins ((initial limit platform).Along (before ++ .request r :: after))
      ((initial limit platform).run before) r after
      ((initial limit platform).run (before ++ .request r :: after)) e := by
  have hreach := reachable_run limit platform before
  -- the run goes on from the removal
  have hstep : ((initial limit platform).run before).step (.request r) =
      (initial limit platform).run (before ++ [.request r]) := (run_snoc _ before _).symm
  have hsplit : before ++ .request r :: after = (before ++ [.request r]) ++ after := by simp
  have hrun : (initial limit platform).run (before ++ .request r :: after) =
      (((initial limit platform).run before).step (.request r)).run after := by
    rw [hsplit, run_append, hstep]
  have hreach' : (((initial limit platform).run before).step (.request r)).Reachable :=
    hreach.run [.request r]
  obtain ⟨⟨q, hq, heq⟩, hgone⟩ := stop_waits hreach.sound he hr
  have hwithdrawn := hreach.withdrawn he hp hr
  have hend := hwithdrawn.run hreach' after
  rw [← hrun] at hend
  have hreach'' := reachable_run limit platform (before ++ .request r :: after)
  refine ⟨hend.gone, hend.unstarted.tasks, hend.unstarted.records, ?_, ?_,
    fun l hl ho => hend.starting hreach'' hl ho, ?_⟩
  · obtain ⟨i, c, hc, startHook, hst⟩ := hreach.opens he hp
    have hadmits := admits_of_pending he hp
    have hc' := step_request_calls hc r
    rw [hstep] at hc' hwithdrawn
    obtain ⟨d, hd, hcase⟩ :=
      withdrawn_start (hadmits.append [.request r]) hwithdrawn hc' hst rfl rfl after
    rw [← hsplit] at hd hcase
    refine ⟨i, c, d, ⟨hc, startHook, hst⟩, hd, ?_⟩
    rcases hcase with ⟨hopen, hturns⟩ | hreturned
    · have hpos := Call.triesLeft_pos hopen
      have hle := triesLeft_le hadmits hc hst rfl
      exact Or.inl ⟨startHook, hopen, by omega⟩
    · exact Or.inr hreturned
  · have hleaves : (initial limit platform).Along (before ++ .request r :: after) (Leaves e none) :=
      ⟨before, _, after, rfl, he, hgone, hr⟩
    exact lastEvent_of_leaves ((admits_of_pending he hp).append _) rfl hleaves
  · intro answer hover
    rw [hrun] at hover
    rcases withdrawn_stop hreach' hwithdrawn hq heq after with ⟨q, hq, -⟩ | hthrough | hexpired
    · have hwaits := hover.symm.trans hq
      cases hwaits
    · left
      intro l hl
      -- a listener that is still open would be held by the start, which has said that none is
      by_contra howned
      rw [Bool.not_eq_false] at howned
      rw [← hrun] at hthrough
      exact hthrough (hend.starting hreach'' hl howned)
    · exact Or.inr hexpired

/-- The forwarder of a start with two tunnels. -/
def halfBoundEntry : Entry :=
  ⟨1, ⟨"default/web", "app"⟩, [⟨"127.0.0.1", 8080, 80⟩, ⟨"127.0.0.1", 8443, 443⟩],
    .pending, [], true, true⟩

/-- The start has one of its two tunnels. -/
def halfBound : List Action :=
  [.request (.start halfBoundEntry.key halfBoundEntry.tunnels true true), .advance 0]

/-- It is stopped, and its key is started again before it goes on; then the stop goes on. -/
def replaced : List Action :=
  [.request (.start halfBoundEntry.key [⟨"127.0.0.1", 8080, 80⟩] true true), .advance 2,
    .advance 0, .advance 0, .advance 0, .advance 0, .advance 1, .advance 1, .advance 1, .advance 1]

/-- The first start is cancelled and the stop returns, with the second start still in the
registry. -/
theorem replaced_stop_wins :
    let stop : Request := .stop halfBoundEntry.key
    let s := (initial 0 .loopbackOnly).run (halfBound ++ .request stop :: replaced)
    s.calls[0]? = some (.over (.error (.cancelled halfBoundEntry.key))) ∧
      s.calls[1]? = some (.over (.ok .done)) ∧
      StopWins ((initial 0 .loopbackOnly).Along (halfBound ++ .request stop :: replaced))
        ((initial 0 .loopbackOnly).run halfBound) stop replaced s halfBoundEntry := by
  have he : halfBoundEntry ∈ ((initial 0 .loopbackOnly).run halfBound).world.registry.entries := by
    decide
  exact ⟨rfl, rfl, stop_wins 0 .loopbackOnly halfBound _ replaced he rfl .stop⟩

end System
end PortForward
