/-
# What events tell of the registry

Somebody who hears all events can keep a list of forwarders: a start adds one under its key, an end
takes the key away. While calls begin one after the other, this list is that of the active
forwarders, but for what is still to be told: a forwarder that is to be announced is not in it yet,
and one that was removed is in it until its end is told.

* `replay` : the list that is kept by the events alone;
* `InStep.step` : every action that is orderly keeps it in step with the registry;
* `InStep.replay_perm` : once everything has settled it is the list of the registry.
-/
import PortForward.Proofs.Settling

namespace PortForward

/-! ## Replaying events -/

/-- What a record does to the forwarders known so far. A start puts its view under its key, an end
takes the key away, and hook calls are not heard. -/
def Record.redo : Record → List View → List View
  | .started v, known => v :: known.filter (·.key != v.key)
  | .stopped _ key, known => known.filter (·.key != key)
  | .failed v _, known => known.filter (·.key != v.key)
  | _, known => known

/-- The forwarders that are known from a journal alone. -/
def replay (journal : List Record) : List View := journal.foldl (fun known r => r.redo known) []

/-- No start is told of a key that is known already. -/
def FreshStarts (journal : List Record) : Prop :=
  ∀ before v after, journal = before ++ .started v :: after → ∀ u ∈ replay before, u.key ≠ v.key

variable {journal : List Record} {r : Record} {v : View}

theorem replay_snoc (journal : List Record) (r : Record) :
    replay (journal ++ [r]) = r.redo (replay journal) := List.foldl_append

/-- The event that a forwarder ends with takes its key away. -/
@[simp] theorem Record.redo_lastRecord (e : Entry) (cause : Option Error) (known : List View) :
    (e.lastRecord cause).redo known = known.filter (·.key != e.key) := by
  cases cause <;> rfl

/-- A hook call changes nothing. -/
theorem Record.redo_hook (h : r.isHook = true) (known : List View) : r.redo known = known := by
  cases r with
  | startHook v => rfl
  | stopHook g key cause => rfl
  | _ => cases h

/-- No key is known twice. -/
theorem replay_keys_nodup (journal : List Record) : ((replay journal).map (·.key)).Nodup := by
  induction journal using List.reverseRecOn with
  | nil => exact List.nodup_nil
  | append_singleton journal r ih =>
    have without : ∀ key, (((replay journal).filter (·.key != key)).map (·.key)).Nodup :=
      fun key => ih.sublist (List.filter_sublist.map _)
    rw [replay_snoc]
    cases r with
    | started v =>
      refine List.nodup_cons.mpr ⟨?_, without v.key⟩
      simp
    | stopped g key => exact without key
    | failed v cause => exact without v.key
    | startHook v => exact ih
    | stopHook g key cause => exact ih

/-- What is known has been told to have started. -/
theorem started_of_replay (h : v ∈ replay journal) : .started v ∈ journal := by
  induction journal using List.reverseRecOn with
  | nil => cases h
  | append_singleton journal r ih =>
    rw [replay_snoc] at h
    refine List.mem_append.mpr ?_
    cases r with
    | started u =>
      rcases List.mem_cons.mp h with rfl | h
      · exact Or.inr (List.mem_singleton_self _)
      · exact Or.inl (ih (List.mem_filter.mp h).1)
    | stopped g key => exact Or.inl (ih (List.mem_filter.mp h).1)
    | failed u cause => exact Or.inl (ih (List.mem_filter.mp h).1)
    | startHook u => exact Or.inl (ih h)
    | stopHook g key cause => exact Or.inl (ih h)

/-- A journal goes on with fresh starts if its next record is no start of a known key. -/
theorem FreshStarts.snoc (h : FreshStarts journal)
    (hr : ∀ v, r = .started v → ∀ u ∈ replay journal, u.key ≠ v.key) :
    FreshStarts (journal ++ [r]) := by
  intro before v after hsplit
  -- the start is the last record, or the journal had it before
  rcases System.split_snoc hsplit with ⟨rfl, hlast, -⟩ | ⟨rest, -, hrest⟩
  · exact hr v hlast.symm
  · exact h before v rest hrest

namespace Registry

variable {r r' : Registry} {key : Key} {generation : Nat} {bound : List Tunnel} {u v : View}

/-- A forwarder that becomes active keeps its key. -/
theorem keys_commit (h : r.commit key generation bound = some (v, r')) :
    r'.entries.map (·.key) = r.entries.map (·.key) := by
  obtain ⟨e, -, -, -, -, rfl⟩ := commit_eq_some h
  rw [List.map_map]
  apply List.map_congr_left
  intro x _
  rw [Function.comp_apply]
  split <;> rfl

/-- A forwarder that becomes active leaves all others as they look. -/
theorem Sound.active_commit (h : r.Sound) (hc : r.commit key generation bound = some (v, r'))
    (hne : u ≠ v) :
    (∃ x ∈ r'.entries, x.status = .active ∧ x.view = u) ↔
      ∃ x ∈ r.entries, x.status = .active ∧ x.view = u := by
  obtain ⟨e, he, hkey, hg, hv, -⟩ := commit_eq_some hc
  constructor
  · rintro ⟨x, hx, hactive, hview⟩
    rcases (h.mem_commit hc).mp hx with ⟨hx, -⟩ | ⟨d, hd, -, hdg, rfl⟩
    · exact ⟨x, hx, hactive, hview⟩
    · obtain rfl := h.eq_of_generation hd he (hdg.trans hg.symm)
      exact absurd (hv.trans hview).symm hne
  · rintro ⟨x, hx, hactive, hview⟩
    refine ⟨x, (h.mem_commit hc).mpr (Or.inl ⟨hx, ?_⟩), hactive, hview⟩
    intro hxg
    rw [h.eq_of_generation hx he (hxg.trans hg.symm)] at hactive hview
    rw [hv, Entry.view_activated hactive] at hne
    exact hne hview.symm

end Registry

namespace System

variable {s s' t : System} {a : Action} {c d : Call} {w : World} {k : Nat} {e : Entry} {u : View}

/-! ## What is to be told -/

/-- The forwarders that are registered, and those whose end is still to be told. -/
def ledger (s : System) : List Entry :=
  s.world.registry.entries ++ s.threads.flatMap (Call.owed .lastEvent)

/-- The forwarder is active, or was when it was removed and its end is still to be told. -/
def Running (s : System) (v : View) : Prop := ∃ e ∈ s.ledger, e.status = .active ∧ e.view = v

/-- The forwarder is registered as active. -/
def Registers (s : System) (v : View) : Prop :=
  ∃ e ∈ s.world.registry.entries, e.status = .active ∧ e.view = v

/-- What runs is registered, or its end is still to be told. -/
theorem running_iff : s.Running v ↔ s.Registers v ∨
    ∃ e ∈ s.threads.flatMap (Call.owed .lastEvent), e.status = .active ∧ e.view = v := by
  simp only [Running, Registers, ledger, List.mem_append, or_and_right, exists_or]

/-- Some thread is still to announce the forwarder. -/
def Announces (s : System) (v : View) : Prop := ∃ c ∈ s.threads, c.view? = some v

/-- The action begins no call while another one is in flight, and the reaper does not begin to deal
with a report while a forwarder is to be announced. -/
structure Orderly (s : System) (a : Action) : Prop where
  request : ∀ r, a = .request r → s.Idle
  reap : a = .reap → ∀ v, ¬ s.Announces v

/-- What goes on is orderly. -/
theorem GoesOn.orderly (h : GoesOn s a) : s.Orderly a where
  request r hr := absurd hr (h.request r)
  reap ha v := by
    rintro ⟨c, hc, hv⟩
    rw [h.reap ha c hc] at hv
    cases hv

theorem Idle.not_announces (h : s.Idle) (v : View) : ¬ s.Announces v := by
  rintro ⟨c, hc, hv⟩
  rw [h.view? c hc] at hv
  cases hv

/-- With nothing in flight, no end is still to be told. -/
theorem Idle.ledger (h : s.Idle) : s.ledger = s.world.registry.entries := by
  have howed : s.threads.flatMap (Call.owed .lastEvent) = [] := by
    apply List.flatMap_eq_nil_iff.mpr
    intro c hc
    obtain ⟨answer, rfl⟩ := h c hc
    rfl
  rw [System.ledger, howed, List.append_nil]

/-- Of one thread that goes on, only what it does itself changes the ledger. -/
theorem ledger_put (es : List Entry) (hc : s.threads[k]? = some c)
    (h : (es ++ (w.registry.entries ++ d.owed .lastEvent)).Perm
      (s.world.registry.entries ++ c.owed .lastEvent)) :
    (es ++ (s.put k w d).ledger).Perm s.ledger := by
  rw [List.perm_iff_count]
  intro x
  have hset := (flatMap_set_perm (Call.owed .lastEvent) hc d).count_eq x
  have hown := h.count_eq x
  simp only [ledger, put_world, threads_put, List.count_append] at hset hown ⊢
  omega

/-- Who announces a forwarder after one thread has gone on. -/
theorem announces_put (hc : s.threads[k]? = some c) :
    (s.put k w d).Announces v ↔
      d.view? = some v ∨ ∃ j ≠ k, ∃ y, s.threads[j]? = some y ∧ y.view? = some v := by
  constructor
  · rintro ⟨y, hy, hv⟩
    obtain ⟨j, hj⟩ := List.getElem?_of_mem hy
    rcases of_threads_put hj with ⟨-, rfl⟩ | ⟨hjk, hj⟩
    · exact Or.inl hv
    · exact Or.inr ⟨j, hjk, y, hj, hv⟩
  · rintro (hv | ⟨j, hjk, y, hj, hv⟩)
    · exact ⟨d, mem_put hc, hv⟩
    · refine ⟨y, List.mem_of_getElem? (i := j) ?_, hv⟩
      rw [threads_put, List.getElem?_set_ne hjk.symm, hj]

/-- Who announces a forwarder before one thread goes on. -/
theorem announces_split (hc : s.threads[k]? = some c) :
    s.Announces v ↔
      c.view? = some v ∨ ∃ j ≠ k, ∃ y, s.threads[j]? = some y ∧ y.view? = some v := by
  have hput := announces_put (w := s.world) (d := c) (v := v) hc
  rwa [put_self hc] at hput

/-! ## In step -/

/-- What is known from the events is what runs and has been announced. -/
structure InStep (s : System) : Prop where
  /-- Neither of what is registered nor of what is still to end do two have one key. -/
  keys : (s.ledger.map (·.key)).Nodup
  known : ∀ v, v ∈ replay s.world.journal ↔ s.Running v ∧ ¬ s.Announces v
  registered : ∀ v, s.Announces v → s.Registers v
  fresh : FreshStarts s.world.journal

theorem Registers.running (h : s.Registers v) : s.Running v := by
  obtain ⟨e, he, hstatus, hview⟩ := h
  exact ⟨e, List.mem_append_left _ he, hstatus, hview⟩

namespace InStep

theorem eq_of_key (h : s.InStep) (hd : e ∈ s.ledger) {x : Entry} (hx : x ∈ s.ledger)
    (hk : e.key = x.key) : e = x := List.inj_on_of_nodup_map h.keys hd hx hk

/-- No two of what runs have one key. -/
theorem running_eq (h : s.InStep) (hu : s.Running u) (hv : s.Running v) (hk : u.key = v.key) :
    u = v := by
  obtain ⟨d, hd, -, rfl⟩ := hu
  obtain ⟨e, he, -, rfl⟩ := hv
  rw [h.eq_of_key hd he hk]

/-- An action of which nothing is heard, and that changes nothing of what is to be told. -/
theorem unheard (h : s.InStep) (hk : (s'.ledger.map (·.key)).Nodup)
    (hrun : ∀ v, s'.Running v ↔ s.Running v) (hann : ∀ v, s'.Announces v ↔ s.Announces v)
    (hreg : ∀ v, s.Announces v → s'.Registers v)
    (hj : s'.world.journal = s.world.journal ∨
      ∃ r, r.isHook = true ∧ s'.world.journal = s.world.journal ++ [r]) : s'.InStep where
  keys := hk
  known v := by
    have hreplay : replay s'.world.journal = replay s.world.journal := by
      rcases hj with hj | ⟨r, hr, hj⟩
      · rw [hj]
      · rw [hj, replay_snoc, Record.redo_hook hr]
    rw [hreplay, hrun, hann]
    exact h.known v
  registered v hv := hreg v ((hann v).mp hv)
  fresh := by
    rcases hj with hj | ⟨r, hr, hj⟩
    · rw [hj]
      exact h.fresh
    · rw [hj]
      apply h.fresh.snoc
      rintro v rfl
      cases hr

/-- An action that passes on what is to be told. -/
theorem passed (h : s.InStep) (hl : s'.ledger.Perm s.ledger)
    (hann : ∀ v, s'.Announces v ↔ s.Announces v) (hreg : ∀ v, s.Announces v → s'.Registers v)
    (hj : s'.world.journal = s.world.journal ∨
      ∃ r, r.isHook = true ∧ s'.world.journal = s.world.journal ++ [r]) : s'.InStep := by
  refine h.unheard ?_ ?_ hann hreg hj
  · exact (hl.map _).nodup_iff.mpr h.keys
  · intro v
    exact exists_congr fun e => and_congr_left fun _ => hl.mem_iff

/-- A new forwarder is not active yet, and its key is free. -/
theorem admitted (h : s.InStep) (hl : s'.ledger.Perm (e :: s.ledger)) (hpending : e.status = .pending)
    (hfree : ∀ d ∈ s.ledger, d.key ≠ e.key) (hann : ∀ v, s'.Announces v ↔ s.Announces v)
    (hreg : ∀ v, s.Announces v → s'.Registers v) (hj : s'.world.journal = s.world.journal) :
    s'.InStep := by
  refine h.unheard ?_ ?_ hann hreg (Or.inl hj)
  · refine (hl.map _).nodup_iff.mpr (List.nodup_cons.mpr ⟨?_, h.keys⟩)
    intro hmem
    obtain ⟨d, hd, hk⟩ := List.mem_map.mp hmem
    exact hfree d hd hk
  · intro v
    constructor
    · rintro ⟨d, hd, hactive, hview⟩
      rcases List.mem_cons.mp (hl.mem_iff.mp hd) with rfl | hd
      · rw [hpending] at hactive
        cases hactive
      · exact ⟨d, hd, hactive, hview⟩
    · rintro ⟨d, hd, hactive, hview⟩
      exact ⟨d, hl.mem_iff.mpr (List.mem_cons_of_mem e hd), hactive, hview⟩

/-- A forwarder that becomes active is not known before it is announced. -/
theorem committed (h : s.InStep) (hk : (s'.ledger.map (·.key)).Perm (s.ledger.map (·.key)))
    (hnew : .started v ∉ s.world.journal) (hv : s'.Registers v)
    (hrun : ∀ u, u ≠ v → (s'.Running u ↔ s.Running u))
    (hann : ∀ u, s'.Announces u ↔ u = v ∨ s.Announces u)
    (hreg : ∀ u, s.Announces u → s'.Registers u) (hj : s'.world.journal = s.world.journal) :
    s'.InStep where
  keys := hk.nodup_iff.mpr h.keys
  known u := by
    rw [hj, hann]
    by_cases huv : u = v
    · subst huv
      exact iff_of_false (fun hu => hnew (started_of_replay hu)) (fun hu => hu.2 (Or.inl rfl))
    · rw [hrun u huv, or_iff_right huv]
      exact h.known u
  registered u hu := by
    rcases (hann u).mp hu with rfl | hu
    · exact hv
    · exact hreg u hu
  fresh := hj ▸ h.fresh

/-- A forwarder that is announced becomes known. -/
theorem announced (h : s.InStep) (hl : s'.ledger.Perm s.ledger) (hv : s.Announces v)
    (hann : ∀ u, s'.Announces u ↔ u ≠ v ∧ s.Announces u)
    (hreg : ∀ u, s.Announces u → s'.Registers u)
    (hj : s'.world.journal = s.world.journal ++ [.started v]) : s'.InStep := by
  have hrunning := (h.registered v hv).running
  have hrun : ∀ u, s'.Running u ↔ s.Running u := fun u =>
    exists_congr fun e => and_congr_left fun _ => hl.mem_iff
  -- what is known already has another key
  have hfree : ∀ u ∈ replay s.world.journal, u.key ≠ v.key := by
    intro u hu hk
    obtain ⟨hurun, hsilent⟩ := (h.known u).mp hu
    rw [h.running_eq hurun hrunning hk] at hsilent
    exact hsilent hv
  refine ⟨(hl.map _).nodup_iff.mpr h.keys, ?_, fun u hu => hreg u ((hann u).mp hu).2, ?_⟩
  · intro u
    rw [hj, replay_snoc, hrun, hann, Record.redo, List.mem_cons, List.mem_filter, h.known]
    by_cases huv : u = v
    · subst huv
      exact iff_of_true (Or.inl rfl) ⟨hrunning, fun hu => hu.1 rfl⟩
    · rw [or_iff_right huv]
      constructor
      · rintro ⟨⟨hurun, hsilent⟩, -⟩
        exact ⟨hurun, fun hu => hsilent hu.2⟩
      · rintro ⟨hurun, hsilent⟩
        refine ⟨⟨hurun, fun hu => hsilent ⟨huv, hu⟩⟩, ?_⟩
        rw [bne_iff_ne]
        exact fun hk => huv (h.running_eq hurun hrunning hk)
  · rw [hj]
    apply h.fresh.snoc
    intro w hw
    cases hw
    exact hfree

/-- A forwarder whose end is told is known no more. -/
theorem told (h : s.InStep) (hl : (e :: s'.ledger).Perm s.ledger)
    (hann : ∀ v, s'.Announces v ↔ s.Announces v) (hreg : ∀ v, s.Announces v → s'.Registers v)
    (cause : Option Error) (hj : s'.world.journal = s.world.journal ++ [e.lastRecord cause]) :
    s'.InStep := by
  have hkeys : ((e :: s'.ledger).map (·.key)).Nodup := (hl.map _).nodup_iff.mpr h.keys
  obtain ⟨hgone, hnodup⟩ := List.nodup_cons.mp hkeys
  have hrun : ∀ v, s'.Running v ↔ s.Running v ∧ v.key ≠ e.key := by
    intro v
    constructor
    · rintro ⟨d, hd, hactive, rfl⟩
      refine ⟨⟨d, hl.mem_iff.mp (List.mem_cons_of_mem e hd), hactive, rfl⟩, ?_⟩
      exact fun hk => hgone (List.mem_map.mpr ⟨d, hd, hk⟩)
    · rintro ⟨⟨d, hd, hactive, rfl⟩, hk⟩
      rcases List.mem_cons.mp (hl.mem_iff.mpr hd) with rfl | hd
      · exact absurd rfl hk
      · exact ⟨d, hd, hactive, rfl⟩
  refine ⟨hnodup, ?_, fun v hv => hreg v ((hann v).mp hv), ?_⟩
  · intro v
    rw [hj, replay_snoc, Record.redo_lastRecord, List.mem_filter, bne_iff_ne, h.known, hrun, hann,
      and_right_comm]
  · rw [hj]
    apply h.fresh.snoc
    intro v hv
    cases cause <;> cases hv

end InStep

/-! ## Every action -/

/-- What is registered depends on the registry alone. -/
theorem Registers.congr (h : s.Registers v) (hreg : s'.world.registry = s.world.registry) :
    s'.Registers v := by
  rw [Registers, hreg]
  exact h

/-- A thread that goes on and still announces what it did before. -/
theorem announces_same (hc : s.threads[k]? = some c) (hview : d.view? = c.view?) (v : View) :
    (s.put k w d).Announces v ↔ s.Announces v := by
  rw [announces_put hc, announces_split hc, hview]

/-- Only one thread announces a forwarder, and none that starts it stands beside. -/
theorem Single.announces_ne (h1 : s.Single) (hc : s.threads[k]? = some c) {g : Nat}
    (hg : c.own? = some g) (hview : c.view? = none) (hv : s.Announces v) : v.generation ≠ g := by
  rintro rfl
  obtain ⟨y, hy, hyv⟩ := hv
  obtain ⟨j, hj⟩ := List.getElem?_of_mem hy
  obtain rfl := h1.unique j k y c _ hj hc (Call.own?_of_view? hyv).1 hg
  rw [hc, Option.some.injEq] at hj
  rw [← hj, hview] at hyv
  cases hyv

namespace InStep

/-- A thread goes on, and neither the registry nor what is to be told changes. -/
theorem put_same (h : s.InStep) (hc : s.threads[k]? = some c)
    (howed : d.owed .lastEvent = c.owed .lastEvent) (hview : d.view? = c.view?)
    (hreg : w.registry = s.world.registry)
    (hj : w.journal = s.world.journal ∨
      ∃ r, r.isHook = true ∧ w.journal = s.world.journal ++ [r]) : (s.put k w d).InStep := by
  refine h.passed (ledger_put [] hc ?_) (announces_same hc hview) ?_ ?_
  · rw [howed, hreg]
    exact .refl _
  · exact fun v hv => (h.registered v hv).congr (by rw [put_world, hreg])
  · rw [put_world]
    exact hj

/-- A start makes its forwarder active. -/
theorem put_committed {st : Start} {bound : List Tunnel} {r : Registry} (h : s.InStep)
    (hr : s.Reachable) (hc : s.threads[k]? = some (.binding st bound []))
    (hcommit : s.world.registry.commit st.key st.generation bound = some (v, r)) :
    (s.put k (s.world.withActive r v st.generation bound) (.activated v st.startHook)).InStep := by
  obtain ⟨e, he, hkey, hg, hv, -⟩ := Registry.commit_eq_some hcommit
  have hactive : ∃ x ∈ r.entries, x.status = .active ∧ x.view = v :=
    ⟨e.activeWith bound, (hr.sound.mem_commit hcommit).mpr (Or.inr ⟨e, he, hkey, hg, rfl⟩), rfl, hv.symm⟩
  have hothers : ∀ u, u ≠ v → ((∃ x ∈ r.entries, x.status = .active ∧ x.view = u) ↔ s.Registers u) :=
    fun u hne => hr.sound.active_commit hcommit hne
  have howed := flatMap_set_perm (Call.owed .lastEvent) hc (.activated v st.startHook)
  rw [← threads_put s k (s.world.withActive r v st.generation bound)] at howed
  simp only [Call.owed, List.append_nil] at howed
  generalize hs' : s.put k (s.world.withActive r v st.generation bound)
    (.activated v st.startHook) = s' at howed
  have hworld : s'.world = s.world.withActive r v st.generation bound := by rw [← hs', put_world]
  refine h.committed (v := v) ?_ ?_ ?_ ?_ ?_ ?_ ?_
  · have hkeys : s'.world.registry.entries.map (·.key) = s.world.registry.entries.map (·.key) := by
      rw [hworld]
      exact Registry.keys_commit hcommit
    rw [ledger, ledger, List.map_append, List.map_append, hkeys]
    exact (howed.map _).append_left _
  · intro hstarted
    have hvg : v.generation = st.generation := by rw [hv, ← hg]; rfl
    exact (hr.opening_unstarted hc rfl).records _ hstarted rfl hvg
  · rw [Registers, hworld]
    exact hactive
  · intro u hne
    rw [running_iff, running_iff, Registers, hworld]
    exact or_congr (hothers u hne) (exists_congr fun x => and_congr_left fun _ => howed.mem_iff)
  · intro u
    rw [← hs', announces_put hc, announces_split hc]
    simp [Call.view?, eq_comm]
  · intro u hu
    rw [Registers, hworld]
    by_cases huv : u = v
    · rw [huv]
      exact hactive
    · exact (hothers u huv).mpr (h.registered u hu)
  · rw [hworld]
    rfl

/-- A start that could not bind takes its forwarder back. -/
theorem put_evicted {st : Start} {t : Tunnel} {cause : IoError} {r : Registry} (h : s.InStep)
    (hr : s.Reachable) (hc : s.threads[k]? = some (.unbound st t cause))
    (hevict : s.world.registry.evict st.key st.generation = some (e, r)) :
    (s.put k (s.world.withoutEntry r st.generation)
      (.ending ⟨[e], some (.bind t cause), .error (.bind t cause)⟩)).InStep := by
  refine h.passed (ledger_put [] hc ?_) (announces_same hc rfl) ?_ (Or.inl ?_)
  · have hperm := hr.sound.evict_perm hevict
    simpa [Call.owed, World.withoutEntry] using List.perm_append_comm.trans hperm
  · intro v hv
    obtain ⟨x, hx, hactive, rfl⟩ := h.registered v hv
    refine ⟨x, ?_, hactive, rfl⟩
    rw [put_world]
    exact (hr.sound.mem_evict hevict).mpr ⟨hx, hr.single.announces_ne hc rfl rfl hv⟩
  · rw [put_world]
    rfl

/-- A thread announces its forwarder. -/
theorem put_announced (h : s.InStep) (hr : s.Reachable) (hc : s.threads[k]? = some (.announcing v)) :
    (s.put k (s.world.note (.started v)) (.over (.ok (.view v)))).InStep := by
  refine h.announced (v := v) (ledger_put [] hc (.refl _))
    ⟨_, List.mem_of_getElem? hc, rfl⟩ ?_ ?_ ?_
  · intro u
    rw [announces_put hc, announces_split hc]
    constructor
    · rintro (hnone | ⟨j, hj, y, hy, hyu⟩)
      · cases hnone
      · refine ⟨?_, Or.inr ⟨j, hj, y, hy, hyu⟩⟩
        rintro rfl
        exact hj (hr.single.unique j k y _ _ hy hc (Call.own?_of_view? hyu).1 rfl)
    · rintro ⟨hne, heq | hother⟩
      · cases heq
        exact absurd rfl hne
      · exact Or.inr hother
  · exact fun u hu => (h.registered u hu).congr (by rw [put_world]; rfl)
  · rw [put_world]
    rfl

/-- The end of a removed forwarder is told. -/
theorem put_reported {es : List Entry} {cause : Option Error} {answer : Answer} (h : s.InStep)
    (hc : s.threads[k]? = some (.reporting ⟨e :: es, cause, answer⟩)) :
    (s.put k (s.world.note (e.lastRecord cause)) (.ending ⟨es, cause, answer⟩)).InStep := by
  refine h.told (e := e) (ledger_put [e] hc ?_) (announces_same hc rfl) ?_ cause ?_
  · have hmiddle : (s.world.registry.entries ++ e :: es).Perm
        (e :: (s.world.registry.entries ++ es)) := List.perm_middle
    exact hmiddle.symm
  · exact fun v hv => (h.registered v hv).congr (by rw [put_world]; rfl)
  · rw [put_world]
    rfl

/-- A thread that goes on keeps the events in step with the registry. -/
theorem advance (h : s.InStep) (hr : s.Reachable) (hc : s.threads[k]? = some c)
    (hadv : Call.Advances s.world c w d) : (s.put k w d).InStep := by
  cases hadv with
  | committed hcommit => exact h.put_committed hr hc hcommit
  | evicted hevict => exact h.put_evicted hr hc hevict
  | announced => exact h.put_announced hr hc
  | @hooked v startHook =>
    cases startHook with
    | true => exact h.put_same hc rfl rfl rfl (Or.inr ⟨.startHook v, rfl, rfl⟩)
    | false => exact h.put_same hc rfl rfl rfl (Or.inl rfl)
  | @ended e es cause answer =>
    split
    · exact h.put_same hc rfl rfl rfl (Or.inr ⟨.stopHook e.generation e.key cause, rfl, rfl⟩)
    · exact h.put_same hc rfl rfl rfl (Or.inl rfl)
  | reported => exact h.put_reported hc
  | _ => exact h.put_same hc rfl rfl rfl (Or.inl rfl)

end InStep

theorem inStep_initial (limit : Nat) (platform : Platform) : (initial limit platform).InStep where
  keys := by simp [ledger, initial, threads, Call.owed]
  known v := by
    refine iff_of_false (by simp [initial, replay]) ?_
    rintro ⟨⟨e, he, -, -⟩, -⟩
    simp [ledger, initial, threads, Call.owed] at he
  registered v := by
    rintro ⟨c, hc, hv⟩
    obtain ⟨i, hi⟩ := List.getElem?_of_mem hc
    rw [threads_initial hi] at hv
    cases hv
  fresh before v after h := by simp [initial] at h

namespace InStep

/-- A call that begins while nothing is in flight. -/
theorem begin (h : s.InStep) (hidle : s.Idle) {q : Request}
    (hb : Call.Begins s.world q w c) : System.InStep ⟨w, s.calls ++ [c], s.reaper⟩ := by
  generalize hs' : (⟨w, s.calls ++ [c], s.reaper⟩ : System) = s'
  have hworld : s'.world = w := by rw [← hs']
  have hthreads : s'.threads = s.threads ++ [c] := by
    rw [← hs']
    rfl
  have hledger : s'.ledger = w.registry.entries ++ c.owed .lastEvent := by
    have howed : s.threads.flatMap (Call.owed .lastEvent) = [] :=
      List.append_right_eq_self.mp hidle.ledger
    rw [ledger, hworld, hthreads, List.flatMap_append, howed, List.nil_append,
      List.flatMap_singleton]
  have hview : c.view? = none := by cases hb <;> rfl
  have hann : ∀ v, s'.Announces v ↔ s.Announces v := by
    intro v
    refine iff_of_false ?_ (hidle.not_announces v)
    rintro ⟨y, hy, hv⟩
    rw [hthreads] at hy
    rcases List.mem_append.mp hy with hy | hy
    · exact hidle.not_announces v ⟨y, hy, hv⟩
    · rw [List.mem_singleton.mp hy, hview] at hv
      cases hv
  have hreg : ∀ v, s.Announces v → s'.Registers v := fun v hv => absurd hv (hidle.not_announces v)
  have hjournal : s'.world.journal = s.world.journal := by rw [hworld, hb.journal]
  -- whatever is not admitted is at most passed on
  have passed : (w.registry.entries ++ c.owed .lastEvent).Perm s.world.registry.entries →
      s'.InStep := by
    intro hperm
    refine h.passed ?_ hann hreg (Or.inl hjournal)
    rw [hledger, hidle.ledger]
    exact hperm
  cases hb with
  | @admitted key batch startHook stopHook hadm =>
    refine h.admitted (e := s.world.registry.newEntry key batch stopHook) ?_ rfl ?_ hann hreg
      hjournal
    · rw [hledger, hidle.ledger]
      simpa [Call.owed, World.register] using
        Registry.insert_entries_perm s.world.registry key batch stopHook
    · rw [hidle.ledger]
      exact (Registry.admissible_of_admission hadm).free
  | rejected _ =>
    apply passed
    simp [Call.owed]
  | @nothing q p answer _ hnone =>
    apply passed
    have hperm := Registry.take_perm s.world.registry p
    rw [hnone] at hperm
    simpa [Call.owed, World.remove] using hperm
  | @removed q p answer _ _ =>
    apply passed
    exact List.perm_append_comm.trans (Registry.take_perm s.world.registry p)

/-- The reaper takes a report while nobody announces anything. -/
theorem reap {answer : Answer} {q : Report} {reports : List Report} (h : s.InStep)
    (hr : s.Reachable) (hsilent : ∀ v, ¬ s.Announces v) (ho : s.reaper = .over answer)
    (ht : Call.Takes { s.world with reports } q w c) : (s.put 0 w c).InStep := by
  have hc : s.threads[0]? = some (.over answer) := by rw [threads_zero, ho]
  cases ht with
  | @evicted e r hevict =>
    refine h.passed (ledger_put [] hc ?_) (announces_same hc rfl) ?_ (Or.inl ?_)
    · have hperm : (e :: r.entries).Perm s.world.registry.entries := hr.sound.evict_perm hevict
      have hswap : (r.entries ++ [e]).Perm (e :: r.entries) := List.perm_append_comm
      exact (hswap.trans hperm).trans (.of_eq (List.append_nil _).symm)
    · exact fun v hv => absurd hv (hsilent v)
    · rw [put_world]
      rfl
  | stale _ => exact h.put_same hc rfl rfl rfl (Or.inl rfl)

/-- Every orderly action keeps the events in step with the registry. -/
theorem step (h : s.InStep) (hr : s.Reachable) (ha : s.Orderly a) : (s.step a).InStep := by
  have hmove := move_step s a
  generalize s.step a = s' at hmove
  cases hmove with
  | request hb => exact h.begin (ha.request _ rfl) hb
  | advance _ hc hadv => exact h.advance hr hc hadv
  | @giveUp a k r _ hc =>
    exact h.put_same hc rfl rfl rfl (Or.inl rfl)
  | reap ho _ ht => exact h.reap hr (ha.reap rfl) ho ht
  | calm _ hw =>
    refine h.passed ?_ (fun _ => Iff.rfl) ?_ (Or.inl hw.journal)
    · rw [ledger, ledger, hw.registry]
      exact .refl _
    · exact fun v hv => (h.registered v hv).congr hw.registry

end InStep

/-! ## Settled systems -/

/-- What goes on stays in step. -/
theorem Continues.inStep (h : Continues s t) (hr : s.Reachable) (hs : s.InStep) : t.InStep := by
  induction h with
  | refl => exact hs
  | step hst ha ih => exact ih.step (hst.reachable hr) ha.orderly

/-- What serves one request at a time stays in step. -/
theorem Serves.inStep {q? : Option Request} (h : Serves q? s t) (hr : s.Reachable)
    (hidle : s.Idle) (hs : s.InStep) : t.InStep := by
  obtain ⟨x, hx, h⟩ := h
  have hxr := hx.continues.reachable hr
  have hxs := hx.continues.inStep hr hs
  cases q? with
  | none => exact h.inStep hxr hxs
  | some q =>
    have hbegun := hxs.step hxr (a := .request q) ⟨fun _ _ => hx.idle hidle, by simp⟩
    exact h.inStep (hxr.run [.request q]) hbegun

/-- Once everything has settled, what is known from the events is the list of the registry. -/
theorem InStep.replay_perm (h : s.InStep) (hr : s.Reachable) (hs : s.Settled) :
    (replay s.world.journal).Perm s.world.registry.list := by
  have hkeys := h.keys
  rw [hs.idle.ledger] at hkeys
  have hlist : s.world.registry.list.Nodup := by
    apply List.Nodup.of_map (·.key)
    rw [Registry.list, List.map_map]
    exact hkeys
  refine (List.perm_ext_iff_of_nodup (replay_keys_nodup _).of_map hlist).mpr ?_
  intro v
  rw [h.known, and_iff_left (hs.idle.not_announces v), Running, hs.idle.ledger, Registry.list,
    List.mem_map]
  exact exists_congr fun e => ⟨fun he => ⟨he.1, he.2.2⟩, fun he => ⟨he.1, hs.active hr he.1, he.2⟩⟩

end System
end PortForward
