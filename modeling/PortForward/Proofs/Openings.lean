/-
# Forwarders that have not started

Until its start makes it active, nothing runs for a forwarder and nothing tells of it: it has a
call that opens it, and this call counts as starting as long as it may hold listeners. This is so
while the forwarder is pending, and stays so if it is removed before it becomes active.

* `Unstarted.move` : only its own start ends this;
* `Reachable.unopened` : it holds of every pending forwarder;
* `Reachable.unreleased` : who may hold listeners counts as starting;
* `Reachable.opens` : every pending forwarder has a call that opens it.
-/
import PortForward.Proofs.Removals

namespace PortForward

/-- A record of a forwarder that has become active. -/
def Record.isStart : Record → Bool
  | .startHook _ => true
  | .started _ => true
  | _ => false

namespace Call

variable {w w' : World} {c d : Call} {g : Nat}

/-- A call keeps what is starting, or takes its own forwarder out of it once it holds no listeners
any more. -/
theorem Advances.starting (h : Advances w c w' d) :
    w'.starting = w.starting ∨
      ∃ g, c.own? = some g ∧ d.bound? = none ∧ w'.starting = w.starting.filter (· != g) := by
  cases h with
  | committed _ => exact Or.inr ⟨_, rfl, rfl, rfl⟩
  | released => exact Or.inr ⟨_, rfl, rfl, rfl⟩
  | withdrawn => exact Or.inr ⟨_, rfl, rfl, rfl⟩
  | hooked => split <;> exact Or.inl rfl
  | ended => split <;> exact Or.inl rfl
  | _ => exact Or.inl rfl

/-- A call that holds listeners and goes on held some before. -/
theorem Advances.bound? {st : Start} {bound : List Tunnel} (h : Advances w c w' d)
    (hd : d.bound? = some (st, bound)) : ∃ before, c.bound? = some (st, before) := by
  cases h with
  | bound _ =>
    cases hd
    exact ⟨_, rfl⟩
  | refused _ => exact ⟨bound, hd⟩
  | overtaken _ => exact ⟨bound, hd⟩
  | dropped =>
    cases hd
    exact ⟨_, rfl⟩
  | _ => cases hd

/-- The tasks after a change are old ones, or those of a forwarder that has just become active. -/
theorem Advances.task (h : Advances w c w' d) {t : Task} (ht : t ∈ w'.tasks) :
    t ∈ w.tasks ∨ ∃ st bound v r, c = .binding st bound [] ∧
      w.registry.commit st.key st.generation bound = some (v, r) ∧
        t.generation = v.generation := by
  cases h with
  | @committed st bound v r hr =>
    rcases List.mem_append.mp ht with ht | ht
    · exact Or.inl ht
    · obtain ⟨role, -, rfl⟩ := List.mem_map.mp ht
      exact Or.inr ⟨st, bound, v, r, rfl, hr, rfl⟩
  | hooked => split at ht <;> exact Or.inl ht
  | ended => split at ht <;> exact Or.inl ht
  | _ => exact Or.inl ht

/-- A call that starts something and goes on still opens it, unless it has just made it active. -/
theorem Advances.opens (h : Advances w c w' d) (hg : d.own? = some g) {st : Start}
    (hc : c.opening? = some st) :
    d.opening? = some st ∨ ∃ bound v r, c = .binding st bound [] ∧
      w.registry.commit st.key st.generation bound = some (v, r) ∧ v.generation = g := by
  cases h with
  | bound _ => exact Or.inl hc
  | refused _ => exact Or.inl hc
  | overtaken _ => exact Or.inl hc
  | dropped => exact Or.inl hc
  | released => exact Or.inl hc
  | committed hr =>
    cases hc
    cases hg
    exact Or.inr ⟨_, _, _, rfl, hr, rfl⟩
  | hooked => cases hc
  | _ => cases hg

/-- A call that announces a forwarder has started it and opens nothing any more. -/
theorem own?_of_view? {v : View} (h : c.view? = some v) :
    c.own? = some v.generation ∧ c.opening? = none := by
  cases c with
  | activated u startHook =>
    cases h
    exact ⟨rfl, rfl⟩
  | announcing u =>
    cases h
    exact ⟨rfl, rfl⟩
  | _ => cases h

/-- A call that starts a forwarder is about to open it, or about to announce it. -/
theorem opening_or_view (h : c.own? = some g) :
    (∃ st, c.opening? = some st ∧ st.generation = g) ∨
      ∃ v, c.view? = some v ∧ v.generation = g := by
  cases c with
  | binding st _ _ => exact Or.inl ⟨st, rfl, Option.some.inj h⟩
  | dropping st _ _ => exact Or.inl ⟨st, rfl, Option.some.inj h⟩
  | releasing st _ => exact Or.inl ⟨st, rfl, Option.some.inj h⟩
  | unbound st _ _ => exact Or.inl ⟨st, rfl, Option.some.inj h⟩
  | activated v startHook => exact Or.inr ⟨v, rfl, Option.some.inj h⟩
  | announcing v => exact Or.inr ⟨v, rfl, Option.some.inj h⟩
  | _ => cases h

end Call

namespace System

variable {s s' : System} {a : Action} {e : Entry} {g : Nat}

/-- Nothing runs for the forwarder, nothing tells of it, and only calls that open it act for it. -/
structure Unstarted (s : System) (g : Nat) : Prop where
  tasks : ∀ t ∈ s.world.tasks, t.generation ≠ g
  records : ∀ r ∈ s.world.journal, r.isStart = true → r.generation ≠ g
  threads : ∀ (i : Nat) (c : Call), s.threads[i]? = some c → c.own? = some g →
    ∃ st, c.opening? = some st

/-! ## Moves -/

/-- The tasks after a move are old ones, or those of a forwarder that has just become active. -/
theorem Move.task (h : Move s a s') (h1 : s.Single) {t : Task} (ht : t ∈ s'.world.tasks) :
    (∃ u ∈ s.world.tasks, u.generation = t.generation) ∨
      ∃ e ∈ s.world.registry.entries, Commits e s a ∧ e.generation = t.generation := by
  cases h with
  | request h => cases h <;> exact Or.inl ⟨t, ht, rfl⟩
  | advance ha hc h =>
    rw [put_world] at ht
    rcases h.task ht with ht | ⟨st, bound, v, r, rfl, hr, hg⟩
    · exact Or.inl ⟨t, ht, rfl⟩
    · obtain ⟨e, he, -, -, -, rfl, hcommits⟩ := h1.commits ha hc hr
      exact Or.inr ⟨e, he, hcommits, hg.symm⟩
  | giveUp _ _ =>
    rw [put_world] at ht
    obtain ⟨u, hu, rfl⟩ := List.mem_map.mp ht
    refine Or.inl ⟨u, hu, ?_⟩
    split <;> rfl
  | reap _ _ h =>
    rw [put_world] at ht
    cases h <;> exact Or.inl ⟨t, ht, rfl⟩
  | calm _ hw => exact Or.inl ⟨t, hw.tasks.subset ht, rfl⟩

/-- A forwarder that has not started stays so, unless its start makes it active. -/
theorem Unstarted.move (h : s.Unstarted g) (hm : Move s a s') (h1 : s.Single)
    (hno : ∀ e ∈ s.world.registry.entries, e.generation = g → ¬ Commits e s a) :
    s'.Unstarted g := by
  refine ⟨?_, ?_, ?_⟩
  · intro t ht hg
    rcases hm.task h1 ht with ⟨u, hu, hug⟩ | ⟨e, he, hcommits, heg⟩
    · exact h.tasks u hu (hug.trans hg)
    · exact hno e he (heg.trans hg) hcommits
  · intro r hr hstart hg
    rcases hm.journal hr with hr | ⟨c, hc, hw⟩
    · exact h.records r hr hstart hg
    · rcases Call.writes?_eq_some hw with ⟨v, hv, hrec⟩ | ⟨q, e, -, -, hrec⟩
      · -- its writer would act for the generation without opening it
        obtain ⟨hown, hopen⟩ := Call.own?_of_view? hv
        have hvg : v.generation = g := by
          rcases hrec with rfl | rfl <;> exact hg
        obtain ⟨i, hi⟩ := List.getElem?_of_mem hc
        obtain ⟨st, hst⟩ := h.threads i c hi (hvg ▸ hown)
        rw [hopen] at hst
        cases hst
      · rcases hrec with rfl | rfl
        · cases hstart
        · cases hcause : q.cause <;> rw [hcause] at hstart <;> cases hstart
  · intro i d hd hown
    obtain ⟨w, -, ho⟩ := hm.origin hd
    cases ho with
    | stays hc => exact h.threads i d hc hown
    | begins _ hb =>
      cases hb with
      | admitted _ => exact ⟨_, rfl⟩
      | _ => cases hown
    | advances ha hc hadv =>
      obtain ⟨st, hst⟩ := h.threads i _ hc (hadv.own? hown)
      rcases hadv.opens hown hst with hopen | ⟨bound, v, r, rfl, hr, hg⟩
      · exact ⟨st, hopen⟩
      · obtain ⟨e, he, -, -, -, rfl, hcommits⟩ := h1.commits ha hc hr
        exact absurd hcommits (hno e he hg)
    | givesUp _ _ => cases hown
    | takes _ _ _ ht => cases ht <;> cases hown

/-- A start that may hold listeners counts as starting: who removes its forwarder waits for it. -/
def Unreleased (s : System) : Prop :=
  ∀ (i : Nat) (c : Call) (st : Start) (bound : List Tunnel), s.threads[i]? = some c →
    c.bound? = some (st, bound) → st.generation ∈ s.world.starting

/-- What is starting stays so while some thread may hold listeners for it. -/
theorem Unreleased.move (h : s.Unreleased) (hm : Move s a s') (h1 : s.Single) : s'.Unreleased := by
  intro i d st bound hd hbound
  have hown := Call.own?_of_opening? (Call.opening?_of_bound? hbound)
  cases hm with
  | @request r w c hb =>
    have hmem : d ∈ s.threads ++ [c] := List.mem_of_getElem? hd
    rcases List.mem_append.mp hmem with hmem | hmem
    · obtain ⟨j, hj⟩ := List.getElem?_of_mem hmem
      have hstarting := h j d st bound hj hbound
      cases hb with
      | admitted _ => exact List.mem_cons_of_mem _ hstarting
      | _ => exact hstarting
    · rw [List.mem_singleton] at hmem
      subst hmem
      cases hb with
      | admitted _ =>
        cases hbound
        exact List.mem_cons_self
      | _ => cases hbound
  | @advance a k c x w ha hc hadv =>
    rw [put_world]
    rcases of_threads_put hd with ⟨rfl, rfl⟩ | ⟨hik, hd⟩
    · obtain ⟨before, hbefore⟩ := hadv.bound? hbound
      rcases hadv.starting with hsame | ⟨-, -, hnone, -⟩
      · rw [hsame]
        exact h i c st before hc hbefore
      · rw [hbound] at hnone
        cases hnone
    · -- another call that takes its forwarder out of what is starting has another forwarder
      have hmem := h i d st bound hd hbound
      rcases hadv.starting with hsame | ⟨f, hf, -, hfilter⟩
      · rw [hsame]
        exact hmem
      · rw [hfilter, List.mem_filter]
        refine ⟨hmem, ?_⟩
        rw [bne_iff_ne]
        rintro rfl
        exact hik (h1.unique i k d c _ hd hc hown hf)
  | giveUp _ _ =>
    rw [put_world]
    rcases of_threads_put hd with ⟨-, rfl⟩ | ⟨-, hd⟩
    · cases hbound
    · exact h i d st bound hd hbound
  | reap _ _ ht =>
    rw [put_world]
    rcases of_threads_put hd with ⟨-, rfl⟩ | ⟨-, hold⟩
    · cases ht <;> cases hbound
    · cases ht <;> exact h i d st bound hold hbound
  | calm _ hw =>
    show st.generation ∈ _
    rw [hw.starting]
    exact h i d st bound hd hbound

/-- Every start that may hold listeners counts as starting. -/
theorem Reachable.unreleased (h : s.Reachable) : s.Unreleased := by
  refine h.invariant ?_ fun s a hr hs => hs.move (move_step s a) hr.single
  intro limit platform i c st bound hc hbound
  cases threads_initial hc
  cases hbound

/-! ## Pending forwarders -/

/-- The generation is to come, or that of a pending forwarder. -/
def Unopened (s : System) (g : Nat) : Prop :=
  s.world.registry.next ≤ g ∨
    ∃ e ∈ s.world.registry.entries, e.generation = g ∧ e.status = .pending

/-- A call that opens the forwarder of an entry. -/
def Opens (e : Entry) (s : System) (i : Nat) (c : Call) : Prop :=
  s.calls[i]? = some c ∧ ∃ startHook, c.opening? = some ⟨e.generation, e.key, startHook⟩

/-- A registered forwarder is active once its start has made it so. -/
theorem step_commits (hs : s.world.registry.Sound) (he : e ∈ s.world.registry.entries)
    (hc : Commits e s a) {x : Entry} (hx : x ∈ (s.step a).world.registry.entries)
    (hg : x.generation = e.generation) : x.status = .active := by
  obtain ⟨i, startHook, rfl, hi⟩ := hc
  obtain ⟨r, hr⟩ := hs.commit_of_mem he e.tunnels
  have hworld : (s.step (.advance i)).world =
      s.world.withActive r e.activated.view e.generation e.tunnels := by
    rw [step, withCall_eq_put hi, put_world, Call.advance, World.activate, hr]
    rfl
  rw [hworld] at hx
  rcases (hs.mem_commit hr).mp hx with ⟨-, hne⟩ | ⟨d, -, -, -, rfl⟩
  · exact absurd hg hne
  · rfl

/-- What has not been opened after an action was not before, and no start made it active. -/
theorem unopened_of_step (hs : s.world.registry.Sound) (h1 : s.Single) (h : (s.step a).Unopened g) :
    s.Unopened g ∧ ∀ e ∈ s.world.registry.entries, e.generation = g → ¬ Commits e s a := by
  have hmove := move_step s a
  have hnext := hmove.change.next_le
  -- no entry is of a generation that is to come
  have future : s.world.registry.next ≤ g →
      ∀ e ∈ s.world.registry.entries, e.generation = g → ¬ Commits e s a := by
    intro hg e he heg
    have := hs.old e he
    omega
  rcases h with hg | ⟨x, hx, hxg, hpending⟩
  · have hg : s.world.registry.next ≤ g := by omega
    exact ⟨Or.inl hg, future hg⟩
  · rcases hmove.entry hs h1 hx with hold | hadm | ⟨d, -, -, rfl⟩
    · refine ⟨Or.inr ⟨x, hold, hxg, hpending⟩, ?_⟩
      intro e he heg hcommits
      have hactive := step_commits hs he hcommits hx (hxg.trans heg.symm)
      rw [hpending] at hactive
      cases hactive
    · have hnew := hadm.generation
      have hg : s.world.registry.next ≤ g := by omega
      exact ⟨Or.inl hg, future hg⟩
    · cases hpending

/-- Nothing has started of a generation that has not been opened. -/
theorem Reachable.unopened (h : s.Reachable) (hg : s.Unopened g) : s.Unstarted g := by
  refine h.invariant (P := fun s => ∀ g, s.Unopened g → s.Unstarted g) ?_ ?_ g hg
  · intro limit platform g _
    refine ⟨by simp [initial], by simp [initial], ?_⟩
    intro i c hc hown
    rw [threads_initial hc] at hown
    cases hown
  · intro s a hr ih g hg
    obtain ⟨hg, hno⟩ := unopened_of_step hr.sound hr.single hg
    exact (ih g hg).move (move_step s a) hr.single hno

/-- Every pending forwarder has a call that opens it. -/
theorem Reachable.opens (h : s.Reachable) (he : e ∈ s.world.registry.entries)
    (hp : e.status = .pending) : ∃ i c, Opens e s i c := by
  refine h.invariant (P := fun s => ∀ e ∈ s.world.registry.entries, e.status = .pending →
    ∃ i c, Opens e s i c) ?_ ?_ e he hp
  · intro limit platform e he
    cases he
  · intro s a hr ih x hx hpending
    have hs := hr.sound
    have h1 := hr.single
    have hmove := move_step s a
    rcases hmove.entry hs h1 hx with hold | hnew | ⟨d, -, -, rfl⟩
    · obtain ⟨i, c, hi, startHook, hopen⟩ := ih x hold hpending
      have hno := (unopened_of_step hs h1 (Or.inr ⟨x, hx, rfl, hpending⟩)).2
      obtain ⟨d, hd, hnext⟩ := hmove.next (i := i + 1) hi
      rcases hnext with rfl | ⟨ha, w, hw, hadv⟩ | ⟨-, r, rfl, -⟩ | ⟨hzero, -⟩
      · exact ⟨i, d, hd, startHook, hopen⟩
      · -- the entry is still there and pending, so its call was neither through nor in vain
        cases hadv with
        | bound _ => exact ⟨i, _, hd, startHook, hopen⟩
        | refused _ => exact ⟨i, _, hd, startHook, hopen⟩
        | overtaken _ => exact ⟨i, _, hd, startHook, hopen⟩
        | dropped => exact ⟨i, _, hd, startHook, hopen⟩
        | released => exact ⟨i, _, hd, startHook, hopen⟩
        | committed hr =>
          cases hopen
          obtain ⟨e, he, -, heg, -, -, hcommits⟩ := h1.commits ha hi hr
          exact absurd hcommits (hno e he heg)
        | withdrawn =>
          cases hopen
          exact absurd rfl (h1.lost (i + 1) _ ⟨x.generation, x.key, startHook⟩ hi rfl x hold)
        | evicted hev =>
          cases hopen
          rw [hw] at hx
          exact absurd rfl ((hs.mem_evict hev).mp hx).2
        | forestalled hev =>
          cases hopen
          rw [hs.evict_of_mem hold] at hev
          cases hev
        | _ => cases hopen
      · cases hopen
      · omega
    · have hg := hnew.generation
      obtain ⟨startHook, rfl, hadm, -⟩ := hnew
      refine ⟨s.calls.length, .binding ⟨x.generation, x.key, startHook⟩ [] x.tunnels, ?_,
        startHook, rfl⟩
      simp only [step, Call.request, hadm, hg]
      exact List.getElem?_concat_length
    · cases hpending

end System
end PortForward
