/-
# The tasks of forwarders

A forwarder that becomes active gets a task for each of its tunnels and one that watches the
target. While it is registered it has all of them, or one has ended and its report still waits to
be taken. Tasks of forwarders that are not registered any more were told to end.

* `Reachable.opening_unstarted` : a forwarder has no tasks while its start is binding;
* `Staffed.move`, `Reachable.staffed` : who has which tasks, at every moment of every run.
-/
import Mathlib.Data.List.Nodup
import PortForward.Proofs.Openings

namespace PortForward

/-! ## Posts -/

/-- What a task is there for: the forwarder and the role. -/
def Task.post (t : Task) : Nat × Key × Role := (t.generation, t.key, t.role)

/-- The posts of a forwarder. -/
def Entry.posts (e : Entry) : List (Nat × Key × Role) :=
  (Entry.roles e.tunnels).map fun role => (e.generation, e.key, role)

theorem Entry.mem_posts {e : Entry} {p : Nat × Key × Role} :
    p ∈ e.posts ↔ p.1 = e.generation ∧ p.2.1 = e.key ∧ p.2.2 ∈ Entry.roles e.tunnels := by
  obtain ⟨g, k, role⟩ := p
  simp only [posts, List.mem_map, Prod.mk.injEq]
  constructor
  · rintro ⟨_, hrole, rfl, rfl, rfl⟩
    exact ⟨rfl, rfl, hrole⟩
  · rintro ⟨rfl, rfl, hrole⟩
    exact ⟨role, hrole, rfl, rfl, rfl⟩

/-- Two posts are of different forwarders, or in different roles. -/
def PostsApart (p q : Nat × Key × Role) : Prop := p.1 = q.1 → p.2.2 ≠ q.2.2

instance : Std.Symm fun t u : Task => PostsApart t.post u.post :=
  ⟨fun _ _ h hg hrole => h hg.symm hrole.symm⟩

/-- The tunnels of a batch that can be listened on are different. -/
theorem Listenable.nodup {batch : List Tunnel} (h : Listenable batch) : batch.Nodup := by
  refine h.apart.imp ?_
  rintro t u hclash rfl
  simp at hclash

/-- The posts of a forwarder are in different roles. -/
theorem Entry.posts_apart {e : Entry} (h : Listenable e.tunnels) :
    e.posts.Pairwise PostsApart := by
  have hroles : (Entry.roles e.tunnels).Nodup := by
    refine List.nodup_append.mpr ⟨?_, List.nodup_singleton _, ?_⟩
    · refine h.nodup.map ?_
      intro t u htu
      exact Role.tunnel.inj htu
    · intro role hrole other hother
      obtain ⟨t, -, rfl⟩ := List.mem_map.mp hrole
      rw [List.mem_singleton.mp hother]
      simp
  refine List.pairwise_map.mpr (hroles.imp ?_)
  intro role other hne _
  exact hne

namespace World

/-- The posts that are held. -/
def posts (w : World) : List (Nat × Key × Role) := w.tasks.map Task.post

/-- Giving tasks up does not take their posts away. -/
@[simp] theorem posts_abort (w : World) (generations : List Nat) :
    (w.abort generations).posts = w.posts := by
  simp only [posts, abort, List.map_map]
  apply List.map_congr_left
  intro t _
  rw [Function.comp_apply]
  split <;> rfl

/-- A forwarder that becomes active fills its posts. -/
theorem posts_withActive (w : World) (r : Registry) (e : Entry) (g : Nat) :
    (w.withActive r e.activated.view g e.tunnels).posts = w.posts ++ e.posts := by
  simp only [posts, withActive, newTasks, List.map_append, List.map_map]
  rfl

/-- The holder of a post that is given up was told to, or left a report. -/
theorem Calm.post_ended {w w' : World} (h : w.Calm w') {p : Nat × Key × Role} (hp : p ∈ w.posts) :
    p ∈ w'.posts ∨ p.1 ∈ w.cancelled ∨
      ∃ r ∈ w'.reports, r.generation = p.1 ∧ r.key = p.2.1 := by
  obtain ⟨t, ht, rfl⟩ := List.mem_map.mp hp
  rcases h.ended t ht with ht | htold
  · exact Or.inl (List.mem_map_of_mem ht)
  · exact Or.inr htold

end World

/-! ## Entries that are lost -/

namespace Registry

variable {r r' : Registry} {d : Entry} {key : Key} {generation : Nat} {bound : List Tunnel} {v : View}

/-- From one registry to the next, these entries are removed: nothing of their generation is left. -/
def Loses (r r' : Registry) (gone : List Entry) : Prop :=
  ∀ x, x ∈ gone ↔ x ∈ r.entries ∧ ∀ y ∈ r'.entries, y.generation ≠ x.generation

/-- Where every generation stays, nothing is lost. -/
theorem loses_nil (h : ∀ x ∈ r.entries, ∃ y ∈ r'.entries, y.generation = x.generation) :
    r.Loses r' [] := by
  intro x
  refine ⟨fun hx => absurd hx List.not_mem_nil, ?_⟩
  rintro ⟨hx, hgone⟩
  obtain ⟨y, hy, hg⟩ := h x hx
  exact absurd hg (hgone y hy)

theorem loses_same (r : Registry) : r.Loses r [] := loses_nil fun x hx => ⟨x, hx, rfl⟩

theorem loses_insert (r : Registry) (key : Key) (batch : List Tunnel) (stopHook : Bool) :
    r.Loses (r.insert key batch stopHook) [] :=
  loses_nil fun x hx => ⟨x, mem_insert.mpr (Or.inr hx), rfl⟩

namespace Sound

theorem loses_commit (h : r.Sound) (hc : r.commit key generation bound = some (v, r')) :
    r.Loses r' [] := by
  apply loses_nil
  intro x hx
  by_cases hg : x.generation = generation
  · obtain ⟨e, he, hk, heg, -, -⟩ := commit_eq_some hc
    obtain rfl : x = e := h.eq_of_generation hx he (hg.trans heg.symm)
    exact ⟨x.activeWith bound, (h.mem_commit hc).mpr (Or.inr ⟨x, hx, hk, hg, rfl⟩), rfl⟩
  · exact ⟨x, (h.mem_commit hc).mpr (Or.inl ⟨hx, hg⟩), rfl⟩

theorem loses_take (h : r.Sound) (p : Key → Bool) : r.Loses (r.take p).2 (r.take p).1 := by
  intro x
  constructor
  · intro hx
    exact ⟨(mem_taken.mp hx).1, h.gone_of_taken hx⟩
  · rintro ⟨hx, hgone⟩
    rcases h.kept_or_taken hx p with hkept | ⟨hp, -⟩
    · exact absurd rfl (hgone x hkept)
    · exact mem_taken.mpr ⟨hx, hp⟩

theorem loses_evict (h : r.Sound) (hv : r.evict key generation = some (d, r')) :
    r.Loses r' [d] := by
  intro x
  constructor
  · intro hx
    rw [List.mem_singleton.mp hx]
    obtain ⟨hd, -, hg, -⟩ := evict_eq_some hv
    exact ⟨hd, fun y hy hyd => ((h.mem_evict hv).mp hy).2 (hyd.trans hg)⟩
  · rintro ⟨hx, hgone⟩
    rcases h.kept_or_evicted hx hv with hkept | ⟨rfl, -⟩
    · exact absurd rfl (hgone x hkept)
    · exact List.mem_singleton_self x

end Sound
end Registry

/-! ## Starts that are binding -/

namespace Call

variable {w w' : World} {c d : Call}

/-- A call that opens a forwarder after a change did so before. -/
theorem Advances.opening? (h : Advances w c w' d) {st : Start} (hd : d.opening? = some st) :
    c.opening? = some st := by
  cases h with
  | bound _ => exact hd
  | refused _ => exact hd
  | overtaken _ => exact hd
  | dropped => exact hd
  | released => exact hd
  | _ => cases hd

end Call

namespace System

variable {s s' : System} {a : Action} {e : Entry} {g : Nat}

/-- A forwarder that is still being opened after an action has not become active by it. -/
theorem Single.not_commits (h : s.Single) (hs : s.world.registry.Sound) {i : Nat} {c d : Call}
    {st : Start} (hc : s.threads[i]? = some c) (hown : c.own? = some st.generation)
    (hd : (s.step a).threads[i]? = some d) (hopen : d.opening? = some st)
    (he : e ∈ s.world.registry.entries) (hg : e.generation = st.generation) :
    ¬ Commits e s a := by
  rintro ⟨j, startHook, rfl, hj⟩
  -- its start is the thread that goes on, and is through with it
  have hij : j + 1 = i := h.unique (j + 1) i _ c _ hj hc (by rw [Call.own?, hg]) hown
  subst hij
  obtain ⟨d', w, hd', -, hadv⟩ := step_advances (a := .advance j) (i := j + 1) rfl hj
  rw [hd, Option.some.injEq] at hd'
  subst hd'
  cases hadv with
  | committed _ => cases hopen
  | overtaken hnone =>
    obtain ⟨r, hr⟩ := hs.commit_of_mem he e.tunnels
    rw [hr] at hnone
    cases hnone

/-- Nothing has started of a forwarder whose start is binding. -/
theorem Reachable.opening_unstarted (h : s.Reachable) {i : Nat} {c : Call} {st : Start}
    (hc : s.threads[i]? = some c) (hst : c.opening? = some st) : s.Unstarted st.generation := by
  refine h.invariant (P := fun s => ∀ i c st, s.threads[i]? = some c → c.opening? = some st →
    s.Unstarted st.generation) ?_ ?_ i c st hc hst
  · intro limit platform i c st hc hst
    rw [threads_initial hc] at hst
    cases hst
  · intro s a hr ih i d st hd hst
    have hmove := move_step s a
    have hown := Call.own?_of_opening? hst
    obtain ⟨w, -, ho⟩ := hmove.origin hd
    cases ho with
    | stays hc =>
      exact (ih i d st hc hst).move hmove hr.single fun e he hg =>
        hr.single.not_commits hr.sound hc hown hd hst he hg
    | begins ha hb =>
      cases hb with
      | admitted _ =>
        -- a request is no commit, and the generation was still to come
        cases hst
        have hnew := (hr.unopened (Or.inl (Nat.le_refl s.world.registry.next)))
        apply hnew.move hmove hr.single
        rintro e - - ⟨j, startHook, ha', -⟩
        rw [ha] at ha'
        cases ha'
      | _ => cases hst
    | advances _ hc hadv =>
      have hopen := hadv.opening? hst
      exact (ih i _ st hc hopen).move hmove hr.single fun e he hg =>
        hr.single.not_commits hr.sound hc (Call.own?_of_opening? hopen) hd hst he hg
    | givesUp _ _ => cases hst
    | takes _ _ _ ht => cases ht <;> cases hst

/-! ## Who was told to end -/

/-- What an action removes is told to end, and nobody else. -/
theorem step_cancelled (hs : s.world.registry.Sound) (a : Action) :
    ∃ gone : List Entry,
      (s.step a).world.cancelled = gone.map (·.generation) ++ s.world.cancelled ∧
      s.world.registry.Loses (s.step a).world.registry gone := by
  have hmove := move_step s a
  generalize s.step a = s' at hmove
  cases hmove with
  | request h =>
    cases h with
    | admitted _ => exact ⟨[], rfl, Registry.loses_insert _ _ _ _⟩
    | rejected _ => exact ⟨[], rfl, Registry.loses_same _⟩
    | nothing _ _ => exact ⟨_, rfl, hs.loses_take _⟩
    | removed _ _ => exact ⟨_, rfl, hs.loses_take _⟩
  | advance _ _ h =>
    rw [put_world]
    cases h with
    | committed hr => exact ⟨[], rfl, hs.loses_commit hr⟩
    | @evicted st t cause e r hr =>
      obtain ⟨-, -, hg, -⟩ := Registry.evict_eq_some hr
      exact ⟨[e], by rw [List.map_singleton, hg]; rfl, hs.loses_evict hr⟩
    | hooked => split <;> exact ⟨[], rfl, Registry.loses_same _⟩
    | ended => split <;> exact ⟨[], rfl, Registry.loses_same _⟩
    | _ => exact ⟨[], rfl, Registry.loses_same _⟩
  | giveUp _ _ =>
    rw [put_world]
    exact ⟨[], rfl, Registry.loses_same _⟩
  | reap _ _ h =>
    rw [put_world]
    cases h with
    | @evicted e r hr =>
      obtain ⟨-, -, hg, -⟩ := Registry.evict_eq_some hr
      exact ⟨[e], by rw [List.map_singleton, hg]; rfl, hs.loses_evict hr⟩
    | stale _ => exact ⟨[], rfl, Registry.loses_same _⟩
  | calm _ hw =>
    refine ⟨[], hw.cancelled, ?_⟩
    dsimp only
    rw [hw.registry]
    exact Registry.loses_same _

/-! ## Posts from one moment to the next -/

/-- The world after the start of a registered forwarder has made it active. -/
theorem Commits.world (h : Commits e s a) (hs : s.world.registry.Sound)
    (he : e ∈ s.world.registry.entries) :
    ∃ r, s.world.registry.commit e.key e.generation e.tunnels = some (e.activated.view, r) ∧
      (s.step a).world = s.world.withActive r e.activated.view e.generation e.tunnels := by
  obtain ⟨i, startHook, rfl, hi⟩ := h
  obtain ⟨r, hr⟩ := hs.commit_of_mem he e.tunnels
  refine ⟨r, hr, ?_⟩
  rw [step, withCall_eq_put hi, put_world, Call.advance, World.activate, hr]
  rfl

/-- A forwarder that becomes active stays registered. -/
theorem Commits.registered (h : Commits e s a) (hs : s.world.registry.Sound)
    (he : e ∈ s.world.registry.entries) :
    e.activated ∈ (s.step a).world.registry.entries := by
  obtain ⟨r, hcommit, hworld⟩ := h.world hs he
  rw [hworld]
  exact (hs.mem_commit hcommit).mpr (Or.inr ⟨e, he, rfl, rfl, rfl⟩)

/-- Posts are given up, or those of a forwarder that becomes active are filled. -/
theorem step_posts (h1 : s.Single) (a : Action) :
    (s.step a).world.posts.Sublist s.world.posts ∨
      ∃ e ∈ s.world.registry.entries, Commits e s a ∧
        (s.step a).world.posts = s.world.posts ++ e.posts := by
  have hmove := move_step s a
  generalize s.step a = s' at hmove
  cases hmove with
  | request h => cases h <;> exact Or.inl (List.Sublist.refl _)
  | advance ha hc h =>
    rw [put_world]
    cases h with
    | committed hr =>
      obtain ⟨e, he, -, -, rfl, rfl, hcommits⟩ := h1.commits ha hc hr
      exact Or.inr ⟨e, he, hcommits, World.posts_withActive _ _ _ _⟩
    | hooked => split <;> exact Or.inl (List.Sublist.refl _)
    | ended => split <;> exact Or.inl (List.Sublist.refl _)
    | _ => exact Or.inl (List.Sublist.refl _)
  | giveUp _ _ =>
    rw [put_world, World.posts_abort]
    exact Or.inl (List.Sublist.refl _)
  | reap _ _ h =>
    rw [put_world]
    cases h <;> exact Or.inl (List.Sublist.refl _)
  | calm _ hw => exact Or.inl (hw.tasks.map _)

/-- The holder of a post that is given up was told to, or left a report. -/
theorem step_post_ended (h1 : s.Single) (a : Action) {p : Nat × Key × Role}
    (hp : p ∈ s.world.posts) :
    p ∈ (s.step a).world.posts ∨ p.1 ∈ s.world.cancelled ∨
      ∃ r ∈ (s.step a).world.reports, r.generation = p.1 ∧ r.key = p.2.1 := by
  have hmove := move_step s a
  generalize s.step a = s' at hmove
  cases hmove with
  | request h => cases h <;> exact Or.inl hp
  | advance ha hc h =>
    rw [put_world]
    cases h with
    | committed hr =>
      obtain ⟨e, -, -, -, rfl, rfl, -⟩ := h1.commits ha hc hr
      rw [World.posts_withActive]
      exact Or.inl (List.mem_append_left _ hp)
    | hooked => split <;> exact Or.inl hp
    | ended => split <;> exact Or.inl hp
    | _ => exact Or.inl hp
  | giveUp _ _ =>
    rw [put_world, World.posts_abort]
    exact Or.inl hp
  | reap _ _ h =>
    rw [put_world]
    cases h <;> exact Or.inl hp
  | calm _ hw => exact hw.post_ended hp

/-- A report waits until it is taken; then its forwarder is not registered any more. -/
theorem step_report (hs : s.world.registry.Sound) (a : Action) {r : Report}
    (hr : r ∈ s.world.reports) :
    r ∈ (s.step a).world.reports ∨
      ∀ x ∈ (s.step a).world.registry.entries, x.generation = r.generation → x.key ≠ r.key := by
  have hmove := move_step s a
  generalize s.step a = s' at hmove
  cases hmove with
  | request h => cases h <;> exact Or.inl hr
  | advance _ _ h =>
    rw [put_world]
    cases h with
    | hooked => split <;> exact Or.inl hr
    | ended => split <;> exact Or.inl hr
    | _ => exact Or.inl hr
  | giveUp _ _ =>
    rw [put_world]
    exact Or.inl hr
  | reap _ hreports h =>
    rw [put_world]
    rw [hreports] at hr
    rcases List.mem_cons.mp hr with rfl | hr
    · right
      intro x hx hg hk
      cases h with
      | evicted hev => exact ((hs.mem_evict hev).mp hx).2 hg
      | stale hev =>
        have hsome := hs.evict_of_mem hx
        rw [hg, hk] at hsome
        rw [hsome] at hev
        cases hev
    · left
      cases h <;> exact hr
  | calm _ hw => exact Or.inl (hw.unread r hr)

/-- A task after an action was there before, perhaps not given up yet, or it is a new one. -/
theorem step_task (a : Action) {t : Task} (ht : t ∈ (s.step a).world.tasks) :
    (∃ u ∈ s.world.tasks, t.post = u.post ∧ t.stalled = u.stalled ∧
        (t.aborted = true → u.aborted = true ∨
          ∃ c ∈ s.threads, ∃ r, c = .waiting r ∧ ∃ e ∈ r.entries, e.generation = t.generation)) ∨
      (t.aborted = false ∧ (t.stalled = true → t.role = .monitor)) := by
  have hmove := move_step s a
  generalize s.step a = s' at hmove ht
  have old : ∀ u ∈ s.world.tasks, (∃ v ∈ s.world.tasks, u.post = v.post ∧ u.stalled = v.stalled ∧
        (u.aborted = true → v.aborted = true ∨
          ∃ c ∈ s.threads, ∃ r, c = .waiting r ∧ ∃ e ∈ r.entries, e.generation = u.generation)) ∨
      (u.aborted = false ∧ (u.stalled = true → u.role = .monitor)) :=
    fun u hu => Or.inl ⟨u, hu, rfl, rfl, Or.inl⟩
  cases hmove with
  | request h => cases h <;> exact old t ht
  | advance _ _ h =>
    rw [put_world] at ht
    cases h with
    | committed _ =>
      rcases List.mem_append.mp ht with ht | ht
      · exact old t ht
      · obtain ⟨role, -, rfl⟩ := List.mem_map.mp ht
        refine Or.inr ⟨rfl, ?_⟩
        intro hstalled
        simp only [Bool.and_eq_true, beq_iff_eq] at hstalled
        exact hstalled.1
    | hooked => split at ht <;> exact old t ht
    | ended => split at ht <;> exact old t ht
    | _ => exact old t ht
  | @giveUp a k r _ hc =>
    rw [put_world] at ht
    obtain ⟨u, hu, rfl⟩ := List.mem_map.mp ht
    split
    · rename_i hmem
      rw [List.contains_iff_mem, List.mem_map] at hmem
      exact Or.inl ⟨u, hu, rfl, rfl, fun _ =>
        Or.inr ⟨_, List.mem_of_getElem? hc, r, rfl, hmem⟩⟩
    · exact old u hu
  | reap _ _ h =>
    rw [put_world] at ht
    cases h <;> exact old t ht
  | calm _ hw => exact old t (hw.tasks.subset ht)

/-! ## The invariant -/

/-- Who has which tasks. -/
structure Staffed (s : System) : Prop where
  /-- Who was told to end has been admitted and is not registered any more. -/
  told : ∀ g ∈ s.world.cancelled, g < s.world.registry.next ∧
    ∀ e ∈ s.world.registry.entries, e.generation ≠ g
  /-- All that a call has removed was told to end. -/
  removed : ∀ c ∈ s.threads, ∀ r, c.removal? = some r → ∀ e ∈ r.entries,
    e.generation ∈ s.world.cancelled
  /-- Tasks are of active forwarders, or of some that were told to end. -/
  posts : ∀ p ∈ s.world.posts, p.1 ∈ s.world.cancelled ∨
    ∃ e ∈ s.world.registry.entries, e.status = .active ∧ p ∈ e.posts
  /-- An active forwarder has all its tasks, or a report of it waits. -/
  complete : ∀ e ∈ s.world.registry.entries, e.status = .active →
    (∀ p ∈ e.posts, p ∈ s.world.posts) ∨
      ∃ r ∈ s.world.reports, r.generation = e.generation ∧ r.key = e.key
  /-- No post is held twice. -/
  apart : s.world.posts.Pairwise PostsApart
  /-- Only those who watch a target stall. -/
  stalled : ∀ t ∈ s.world.tasks, t.stalled = true → t.role = .monitor
  /-- Only those are given up who were told to end. -/
  aborted : ∀ t ∈ s.world.tasks, t.aborted = true → t.generation ∈ s.world.cancelled

/-- Two tasks of one forwarder in one role are the same. -/
theorem Staffed.eq_of_post (h : s.Staffed) {t u : Task} (ht : t ∈ s.world.tasks)
    (hu : u ∈ s.world.tasks) (hg : t.generation = u.generation) (hrole : t.role = u.role) :
    t = u := by
  by_contra hne
  have hapart : s.world.tasks.Pairwise fun t u => PostsApart t.post u.post :=
    List.pairwise_map.mp h.apart
  exact hapart.forall ht hu hne hg hrole

/-- The forwarder of a task was told to end, or it is active and has this task among its own. -/
theorem Staffed.forwarder (h : s.Staffed) {u : Task} (hu : u ∈ s.world.tasks) :
    u.generation ∈ s.world.cancelled ∨
      ∃ e ∈ s.world.registry.entries, e.status = .active ∧ e.generation = u.generation ∧
        e.key = u.key ∧ u.role ∈ Entry.roles e.tunnels := by
  rcases h.posts u.post (List.mem_map_of_mem hu) with htold | ⟨e, he, hactive, hpost⟩
  · exact Or.inl htold
  · obtain ⟨hg, hk, hrole⟩ := Entry.mem_posts.mp hpost
    exact Or.inr ⟨e, he, hactive, hg.symm, hk.symm, hrole⟩

theorem staffed_initial (limit : Nat) (platform : Platform) : (initial limit platform).Staffed := by
  refine ⟨?_, ?_, ?_, ?_, ?_, ?_, ?_⟩ <;> simp [initial, threads, Call.removal?, World.posts]

/-- An active entry after an action was there before, or has just become so. -/
theorem entry_of_active (hr : s.Reachable) (a : Action)
    (he : e ∈ (s.step a).world.registry.entries) (hactive : e.status = .active) :
    e ∈ s.world.registry.entries ∨
      ∃ d ∈ s.world.registry.entries, Commits d s a ∧ e = d.activated := by
  rcases (move_step s a).entry hr.sound hr.single he with he | hadm | hd
  · exact Or.inl he
  · obtain ⟨-, -, -, hnew⟩ := hadm
    rw [hnew] at hactive
    cases hactive
  · exact Or.inr hd

/-- Nobody who was told to end is told to go on. -/
theorem cancelled_step (hs : s.world.registry.Sound) (a : Action) (hg : g ∈ s.world.cancelled) :
    g ∈ (s.step a).world.cancelled := by
  obtain ⟨gone, hcancelled, -⟩ := step_cancelled hs a
  rw [hcancelled]
  exact List.mem_append_right _ hg

/-- Who leaves the registry is told to end. -/
theorem cancelled_of_lost (hs : s.world.registry.Sound) (he : e ∈ s.world.registry.entries)
    (hgone : ∀ x ∈ (s.step a).world.registry.entries, x.generation ≠ e.generation) :
    e.generation ∈ (s.step a).world.cancelled := by
  obtain ⟨gone, hcancelled, hloses⟩ := step_cancelled hs a
  rw [hcancelled]
  exact List.mem_append_left _ (List.mem_map_of_mem ((hloses e).mpr ⟨he, hgone⟩))

namespace Staffed

theorem told_step (h : s.Staffed) (hr : s.Reachable) (a : Action) :
    ∀ g ∈ (s.step a).world.cancelled, g < (s.step a).world.registry.next ∧
      ∀ e ∈ (s.step a).world.registry.entries, e.generation ≠ g := by
  have hmove := move_step s a
  have hnext := hmove.change.next_le
  obtain ⟨gone, hcancelled, hloses⟩ := step_cancelled hr.sound a
  intro g hg
  rw [hcancelled, List.mem_append] at hg
  rcases hg with hg | hg
  · obtain ⟨x, hx, rfl⟩ := List.mem_map.mp hg
    obtain ⟨hmem, hgone⟩ := (hloses x).mp hx
    exact ⟨Nat.lt_of_lt_of_le (hr.sound.old x hmem) hnext, hgone⟩
  · obtain ⟨hold, hnone⟩ := h.told g hg
    refine ⟨by omega, ?_⟩
    intro e he heg
    rcases hmove.entry hr.sound hr.single he with he | hadm | ⟨d, hd, -, rfl⟩
    · exact hnone e he heg
    · have hnew := hadm.generation
      omega
    · exact hnone d hd heg

theorem removed_step (h : s.Staffed) (hr : s.Reachable) (a : Action) :
    ∀ c ∈ (s.step a).threads, ∀ r, c.removal? = some r → ∀ e ∈ r.entries,
      e.generation ∈ (s.step a).world.cancelled := by
  intro d hd r hdr e he
  obtain ⟨i, hi⟩ := List.getElem?_of_mem hd
  rcases step_removal hr.sound hr.single hi hdr with ⟨c, q, hc, hq, -, hsub⟩ | hleaves
  · exact cancelled_step hr.sound a (h.removed c (List.mem_of_getElem? hc) q hq e (hsub e he))
  · exact cancelled_of_lost hr.sound (hleaves e he).mem (hleaves e he).gone

/-- A post of a registered forwarder that is active is still one afterwards, or the forwarder was
told to end. -/
theorem post_stays (hr : s.Reachable) {p : Nat × Key × Role} (he : e ∈ s.world.registry.entries)
    (hp : p ∈ e.posts) (hactive : e ∈ (s.step a).world.registry.entries → e.status = .active) :
    p.1 ∈ (s.step a).world.cancelled ∨
      ∃ e ∈ (s.step a).world.registry.entries, e.status = .active ∧ p ∈ e.posts := by
  rcases (move_step s a).fate hr.sound hr.single he with hkept | ⟨-, hkept⟩ | ⟨cause, -, hgone⟩
  · exact Or.inr ⟨e, hkept, hactive hkept, hp⟩
  · exact Or.inr ⟨e.activated, hkept, rfl, hp⟩
  · left
    rw [(Entry.mem_posts.mp hp).1]
    exact cancelled_of_lost hr.sound he hgone

theorem posts_step (h : s.Staffed) (hr : s.Reachable) (a : Action) :
    ∀ p ∈ (s.step a).world.posts, p.1 ∈ (s.step a).world.cancelled ∨
      ∃ e ∈ (s.step a).world.registry.entries, e.status = .active ∧ p ∈ e.posts := by
  intro p hp
  -- a post is an old one, or of a forwarder that has just become active
  have horigin : p ∈ s.world.posts ∨
      ∃ e ∈ s.world.registry.entries, Commits e s a ∧ p ∈ e.posts := by
    rcases step_posts hr.single a with hsub | ⟨e, he, hcommits, hposts⟩
    · exact Or.inl (hsub.subset hp)
    · rw [hposts] at hp
      exact (List.mem_append.mp hp).imp id fun hp => ⟨e, he, hcommits, hp⟩
  rcases horigin with hp | ⟨e, he, hcommits, hpe⟩
  · rcases h.posts p hp with hp | ⟨e, he, hactive, hpe⟩
    · exact Or.inl (cancelled_step hr.sound a hp)
    · exact post_stays hr he hpe fun _ => hactive
  · exact post_stays hr he hpe fun hkept => step_commits hr.sound he hcommits hkept rfl

theorem complete_step (h : s.Staffed) (hr : s.Reachable) (a : Action) :
    ∀ e ∈ (s.step a).world.registry.entries, e.status = .active →
      (∀ p ∈ e.posts, p ∈ (s.step a).world.posts) ∨
        ∃ r ∈ (s.step a).world.reports, r.generation = e.generation ∧ r.key = e.key := by
  intro e he hactive
  rcases entry_of_active hr a he hactive with hold | ⟨d, hd, hcommits, rfl⟩
  · rcases h.complete e hold hactive with hall | ⟨r, hrep, hg, hk⟩
    · -- a post that is given up leaves a report, as the forwarder was not told to end
      by_cases hleft : ∀ p ∈ e.posts, p ∈ (s.step a).world.posts
      · exact Or.inl hleft
      · push Not at hleft
        obtain ⟨p, hp, hlost⟩ := hleft
        obtain ⟨hpg, hpk, -⟩ := Entry.mem_posts.mp hp
        rcases step_post_ended hr.single a (hall p hp) with hkept | htold | ⟨r, hrep, hg, hk⟩
        · exact absurd hkept hlost
        · exact absurd hpg.symm ((h.told _ htold).2 e hold)
        · exact Or.inr ⟨r, hrep, hg.trans hpg, hk.trans hpk⟩
    · rcases step_report hr.sound a hrep with hkept | htaken
      · exact Or.inr ⟨r, hkept, hg, hk⟩
      · exact absurd hk.symm (htaken e he hg.symm)
  · left
    obtain ⟨r, -, hworld⟩ := hcommits.world hr.sound hd
    intro p hp
    rw [hworld, World.posts_withActive]
    exact List.mem_append_right _ hp

theorem apart_step (h : s.Staffed) (hr : s.Reachable) (a : Action) :
    (s.step a).world.posts.Pairwise PostsApart := by
  rcases step_posts hr.single a with hsub | ⟨e, he, ⟨i, startHook, -, hi⟩, hposts⟩
  · exact h.apart.sublist hsub
  · rw [hposts]
    refine List.pairwise_append.mpr ⟨h.apart, Entry.posts_apart (hr.sound.batch e he), ?_⟩
    -- a forwarder has no tasks until it becomes active
    intro p hp q hq hpq
    obtain ⟨t, ht, rfl⟩ := List.mem_map.mp hp
    have hnone := (hr.opening_unstarted (i := i + 1) hi rfl).tasks t ht
    exact absurd (hpq.trans (Entry.mem_posts.mp hq).1) hnone

/-- Every action keeps who has which tasks. -/
theorem step (h : s.Staffed) (hr : s.Reachable) (a : Action) : (s.step a).Staffed where
  told := h.told_step hr a
  removed := h.removed_step hr a
  posts := h.posts_step hr a
  complete := h.complete_step hr a
  apart := h.apart_step hr a
  stalled t ht hstalled := by
    rcases step_task a ht with ⟨u, hu, hpost, hsame, -⟩ | ⟨-, hnew⟩
    · have hrole : t.role = u.role := congrArg (·.2.2) hpost
      rw [hrole]
      exact h.stalled u hu (hsame ▸ hstalled)
    · exact hnew hstalled
  aborted t ht haborted := by
    rcases step_task a ht with ⟨u, hu, hpost, -, hgiven⟩ | ⟨hnew, -⟩
    · rcases hgiven haborted with hgiven | ⟨c, hc, r, rfl, e, he, heg⟩
      · have hgeneration : t.generation = u.generation := congrArg (·.1) hpost
        rw [hgeneration]
        exact cancelled_step hr.sound a (h.aborted u hu hgiven)
      · rw [← heg]
        exact cancelled_step hr.sound a (h.removed _ hc r rfl e he)
    · rw [hnew] at haborted
      cases haborted

end Staffed

/-- Who has which tasks, in everything that can come about. -/
theorem Reachable.staffed (h : s.Reachable) : s.Staffed :=
  h.invariant staffed_initial fun _ a hr hs => hs.step hr a

end System
end PortForward
