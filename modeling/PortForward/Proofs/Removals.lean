/-
# Removed forwarders and what they leave

A forwarder leaves the registry at one moment and for one cause. Whoever removed it holds it until
its end is told, and every record of an end stems from that moment. Records of a start stem from
the moment in which the forwarder became active.

* `step_removal`, `Move.view`, `Move.journal` : where removals in flight, announcements and
  records come from;
* `Along.leaves_eq` : a forwarder leaves once and for one cause;
* `removal_run`, `record_run` : what was removed, and what is on record, in every run.
-/
import PortForward.Proofs.Admissions

namespace PortForward

namespace Call

/-- What a call has removed and not yet told all of. -/
def removal? : Call → Option Removal
  | .waiting r => some r
  | .ending r => some r
  | .reporting r => some r
  | _ => none

/-- The forwarder that a call has made active and not yet announced. -/
def view? : Call → Option View
  | .activated v _ => some v
  | .announcing v => some v
  | _ => none

/-- What a call adds to the journal when it goes on. -/
def writes? : Call → Option Record
  | .activated v startHook => if startHook then some (.startHook v) else none
  | .announcing v => some (.started v)
  | .ending ⟨e :: _, cause, _⟩ =>
    if e.stopHook then some (.stopHook e.generation e.key cause) else none
  | .reporting ⟨e :: _, cause, _⟩ => some (e.lastRecord cause)
  | _ => none

/-- What a call writes is of the forwarder that it announces, or of one that it has removed. -/
theorem writes?_eq_some {c : Call} {rec : Record} (h : c.writes? = some rec) :
    (∃ v, c.view? = some v ∧ (rec = .startHook v ∨ rec = .started v)) ∨
      ∃ r e, c.removal? = some r ∧ e ∈ r.entries ∧
        (rec = .stopHook e.generation e.key r.cause ∨ rec = e.lastRecord r.cause) := by
  cases c with
  | activated v startHook =>
    rw [writes?] at h
    split at h
    · cases h
      exact Or.inl ⟨v, rfl, Or.inl rfl⟩
    · cases h
  | announcing v =>
    cases h
    exact Or.inl ⟨v, rfl, Or.inr rfl⟩
  | ending r =>
    obtain ⟨entries, cause, answer⟩ := r
    cases entries with
    | nil => cases h
    | cons e es =>
      rw [writes?] at h
      split at h
      · cases h
        exact Or.inr ⟨_, e, rfl, List.mem_cons_self, Or.inl rfl⟩
      · cases h
  | reporting r =>
    obtain ⟨entries, cause, answer⟩ := r
    cases entries with
    | nil => cases h
    | cons e es =>
      cases h
      exact Or.inr ⟨_, e, rfl, List.mem_cons_self, Or.inr rfl⟩
  | _ => cases h

variable {w w' : World} {c d : Call}

theorem Begins.journal {r : Request} (h : Begins w r w' c) : w'.journal = w.journal := by
  cases h <;> rfl

theorem Takes.journal {report : Report} (h : Takes w report w' c) : w'.journal = w.journal := by
  cases h <;> rfl

/-- A call adds what it writes and nothing else. -/
theorem Advances.journal (h : Advances w c w' d) : w'.journal = w.journal ++ c.writes?.toList := by
  cases h with
  | @hooked v startHook => cases startHook <;> simp [writes?, World.note]
  | announced => rfl
  | @ended e es cause answer => cases he : e.stopHook <;> simp [writes?, World.note, he]
  | reported => rfl
  | _ => simp [writes?, World.withListener, World.drop, World.release,
      World.withActive, World.withoutEntry]

end Call

namespace System

variable {s s' : System} {a : Action} {d e x y : Entry} {cause cause' : Option Error}
variable {limit : Nat} {platform : Platform} {actions : List Action}

/-- The action removes this entry, for this cause unless it was stopped, and nothing of its
generation is left. -/
structure Leaves (e : Entry) (cause : Option Error) (s : System) (a : Action) : Prop where
  mem : e ∈ s.world.registry.entries
  gone : ∀ x ∈ (s.step a).world.registry.entries, x.generation ≠ e.generation
  removes : Removes e s a cause

/-! ## Moves -/

/-- A record is an old one, or some thread has just written it. -/
theorem Move.journal (h : Move s a s') {r : Record} (hr : r ∈ s'.world.journal) :
    r ∈ s.world.journal ∨ ∃ c ∈ s.threads, c.writes? = some r := by
  cases h with
  | request h =>
    rw [h.journal] at hr
    exact Or.inl hr
  | advance _ hc h =>
    rw [put_world, h.journal, List.mem_append, Option.mem_toList] at hr
    exact hr.imp id fun hw => ⟨_, List.mem_of_getElem? hc, hw⟩
  | giveUp _ _ =>
    rw [put_world] at hr
    exact Or.inl hr
  | reap _ _ h =>
    rw [put_world, h.journal] at hr
    exact Or.inl hr
  | calm _ hw =>
    dsimp only at hr
    rw [hw.journal] at hr
    exact Or.inl hr

/-- A thread that is to announce a forwarder was so before, or its forwarder has just become
active. -/
theorem Move.view (h : Move s a s') {i : Nat} {c : Call} {v : View} (hc : s'.threads[i]? = some c)
    (hv : c.view? = some v) :
    (∃ d, s.threads[i]? = some d ∧ d.view? = some v) ∨
      ∃ e ∈ s.world.registry.entries, v = e.activated.view := by
  obtain ⟨w, -, ho⟩ := h.origin hc
  cases ho with
  | stays hc => exact Or.inl ⟨c, hc, hv⟩
  | begins _ hb => cases hb <;> cases hv
  | advances _ hd hadv =>
    cases hadv with
    | committed hr =>
      obtain ⟨e, he, -, -, rfl, -⟩ := Registry.commit_eq_some hr
      rw [Call.view?, Option.some.injEq] at hv
      exact Or.inr ⟨e, he, hv.symm⟩
    | hooked => exact Or.inl ⟨_, hd, hv⟩
    | _ => cases hv
  | givesUp _ _ => cases hv
  | takes _ _ _ ht => cases ht <;> cases hv

/-- What is removed by key and generation leaves. -/
theorem leaves_of_evict (hs : s.world.registry.Sound) {key : Key} {generation : Nat} {r : Registry}
    (hev : s.world.registry.evict key generation = some (e, r))
    (hr : (s.step a).world.registry = r) (hrem : Removes e s a cause) : Leaves e cause s a := by
  obtain ⟨hmem, -, hg, -⟩ := Registry.evict_eq_some hev
  refine ⟨hmem, ?_, hrem⟩
  -- the generation finds the entry that is removed, so none of it stays
  intro x hx
  rw [hr] at hx
  rw [hg]
  exact ((hs.mem_evict hev).mp hx).2

/-- A removal in flight was so before, with no fewer forwarders, or its forwarders have just
left. -/
theorem step_removal (hs : s.world.registry.Sound) (h1 : s.Single) {i : Nat} {d : Call}
    {r : Removal} (hd : (s.step a).threads[i]? = some d) (hr : d.removal? = some r) :
    (∃ c q, s.threads[i]? = some c ∧ c.removal? = some q ∧ q.cause = r.cause ∧
        ∀ e ∈ r.entries, e ∈ q.entries) ∨
      ∀ e ∈ r.entries, Leaves e r.cause s a := by
  obtain ⟨w, hw, ho⟩ := (move_step s a).origin hd
  cases ho with
  | stays hc => exact Or.inl ⟨d, r, hc, hr, rfl, fun _ he => he⟩
  | begins ha hb =>
    cases hb with
    | @removed q p answer hp _ =>
      cases hr
      right
      intro e he
      obtain ⟨hmem, hk⟩ := Registry.mem_taken.mp he
      refine ⟨hmem, ?_, ha ▸ removes_of_names hp hk⟩
      rw [hw]
      exact hs.gone_of_taken he
    | _ => cases hr
  | advances ha hc hadv =>
    cases hadv with
    | @evicted st t cause e registry hev =>
      cases hr
      right
      intro x hx
      rw [List.mem_singleton.mp hx]
      exact leaves_of_evict hs hev (by rw [hw]; rfl) (h1.removes ha hc hev)
    | quiet _ =>
      cases hr
      exact Or.inl ⟨_, _, hc, rfl, rfl, fun _ he => he⟩
    | waits =>
      cases hr
      exact Or.inl ⟨_, _, hc, rfl, rfl, fun _ he => he⟩
    | ended =>
      cases hr
      exact Or.inl ⟨_, _, hc, rfl, rfl, fun _ he => he⟩
    | reported =>
      cases hr
      exact Or.inl ⟨_, _, hc, rfl, rfl, fun _ he => List.mem_cons_of_mem _ he⟩
    | _ => cases hr
  | givesUp _ hc =>
    cases hr
    exact Or.inl ⟨_, _, hc, rfl, rfl, fun _ he => he⟩
  | takes ha ho hrep ht =>
    cases ht with
    | @evicted e registry hev =>
      cases hr
      right
      intro x hx
      rw [List.mem_singleton.mp hx]
      exact leaves_of_evict hs hev (by rw [hw]; rfl) (ha ▸ removes_of_report ho hrep hev)
    | stale _ => cases hr

/-! ## Runs -/

/-- A request removes what it does without a cause. -/
theorem Removes.cause_of_request {r : Request} (h : Removes x s (.request r) cause) :
    cause = none := by
  generalize ha : Action.request r = a at h
  cases h with
  | unbound _ => cases ha
  | reported _ _ => cases ha
  | _ => rfl

/-- One action removes for one cause. -/
theorem Removes.cause_eq (hx : Removes x s a cause) (hy : Removes y s a cause') :
    cause = cause' := by
  cases hx with
  | unbound h =>
    cases hy with
    | unbound h' =>
      rw [h, Option.some.injEq, Call.unbound.injEq] at h'
      rw [h'.2.1, h'.2.2]
  | reported _ h =>
    cases hy with
    | reported _ h' =>
      rw [h, List.cons.injEq, Report.mk.injEq] at h'
      rw [h'.1.2.1, h'.1.2.2]
  | _ => exact hy.cause_of_request.symm

/-- A forwarder that left does not come back. -/
theorem Along.leaves_gone (h : (initial limit platform).Along actions (Leaves e cause)) :
    e.generation < ((initial limit platform).run actions).world.registry.next ∧
      ∀ x ∈ ((initial limit platform).run actions).world.registry.entries,
        x.generation ≠ e.generation := by
  refine run_induction (s := initial limit platform) (motive := fun actions t =>
    (initial limit platform).Along actions (Leaves e cause) →
      e.generation < t.world.registry.next ∧
        ∀ x ∈ t.world.registry.entries, x.generation ≠ e.generation)
    (fun h => absurd h not_along_nil) ?_ actions h
  intro actions a ih h
  have hr := reachable_run limit platform actions
  have hmove := move_step ((initial limit platform).run actions) a
  have hnext := hmove.change.next_le
  rcases along_snoc.mp h with h | h
  · obtain ⟨hlt, hgone⟩ := ih h
    refine ⟨by omega, ?_⟩
    intro x hx
    rcases hmove.entry hr.sound hr.single hx with hx | hx | ⟨y, hy, -, rfl⟩
    · exact hgone x hx
    · -- what is admitted is of a new generation
      have hnew := hx.generation
      omega
    · exact hgone y hy
  · have hold := hr.sound.old e h.mem
    exact ⟨by omega, h.gone⟩

/-- A forwarder leaves once and for one cause. -/
theorem Along.leaves_eq (hx : (initial limit platform).Along actions (Leaves x cause))
    (hy : (initial limit platform).Along actions (Leaves y cause'))
    (hg : x.generation = y.generation) : x = y ∧ cause = cause' := by
  refine run_induction (s := initial limit platform) (motive := fun actions _ =>
    (initial limit platform).Along actions (Leaves x cause) →
      (initial limit platform).Along actions (Leaves y cause') → x = y ∧ cause = cause')
    (fun h => absurd h not_along_nil) ?_ actions hx hy
  intro actions a ih hx hy
  -- at the later of two moments, the entry would be gone already
  rcases along_snoc.mp hx with hx | hx <;> rcases along_snoc.mp hy with hy | hy
  · exact ih hx hy
  · exact absurd hg.symm (hx.leaves_gone.2 y hy.mem)
  · exact absurd hg (hy.leaves_gone.2 x hx.mem)
  · have hsound := (reachable_run limit platform actions).sound
    exact ⟨hsound.eq_of_generation hx.mem hy.mem hg, hx.removes.cause_eq hy.removes⟩

/-- An admitted forwarder is registered until it leaves. -/
theorem registered_or_left (he : (initial limit platform).Along actions (Admits e)) :
    (∃ x ∈ ((initial limit platform).run actions).world.registry.entries,
        x.generation = e.generation) ∨
      ∃ x cause, x.generation = e.generation ∧
        (initial limit platform).Along actions (Leaves x cause) := by
  refine run_induction (s := initial limit platform) (motive := fun actions t =>
    (initial limit platform).Along actions (Admits e) →
      (∃ x ∈ t.world.registry.entries, x.generation = e.generation) ∨
        ∃ x cause, x.generation = e.generation ∧
          (initial limit platform).Along actions (Leaves x cause))
    (fun h => absurd h not_along_nil) ?_ actions he
  intro actions a ih he
  have hr := reachable_run limit platform actions
  rcases along_snoc.mp he with he | he
  · rcases ih he with ⟨x, hx, hg⟩ | ⟨x, cause, hg, hx⟩
    · rcases (move_step _ a).fate hr.sound hr.single hx with hx | ⟨-, hx⟩ | ⟨cause, hrem, hgone⟩
      · exact Or.inl ⟨x, hx, hg⟩
      · exact Or.inl ⟨x.activated, hx, hg⟩
      · exact Or.inr ⟨x, cause, hg, along_snoc.mpr (Or.inr ⟨hx, hgone, hrem⟩)⟩
    · exact Or.inr ⟨x, cause, hg, hx.append [a]⟩
  · exact Or.inl ⟨e, he.mem, rfl⟩

/-- What left was admitted. -/
theorem Along.leaves_admits (h : (initial limit platform).Along actions (Leaves x cause)) :
    ∃ e, (initial limit platform).Along actions (Admits e) ∧ Stage e x := by
  obtain ⟨before, a, after, rfl, hleaves⟩ := h
  obtain ⟨e, he, hx⟩ := exists_admits hleaves.mem
  exact ⟨e, he.append (a :: after), hx⟩

/-- All that a removal in flight holds has left, and for its cause. -/
theorem removal_run {i : Nat} {c : Call} {r : Removal}
    (hc : ((initial limit platform).run actions).threads[i]? = some c) (hr : c.removal? = some r)
    (hx : x ∈ r.entries) : (initial limit platform).Along actions (Leaves x r.cause) := by
  refine run_induction (s := initial limit platform) (motive := fun actions t =>
    ∀ i c r, t.threads[i]? = some c → c.removal? = some r → ∀ x ∈ r.entries,
      (initial limit platform).Along actions (Leaves x r.cause))
    ?_ ?_ actions i c r hc hr x hx
  · intro i c r hc hr
    rw [threads_initial hc] at hr
    cases hr
  · intro actions a ih i c r hc hr x hx
    have hreach := reachable_run limit platform actions
    rcases step_removal hreach.sound hreach.single hc hr with ⟨d, q, hd, hq, hcause, hsub⟩ | hleaves
    · rw [← hcause]
      exact (ih i d q hd hq x (hsub x hx)).append [a]
    · exact along_snoc.mpr (Or.inr (hleaves x hx))

/-- All that a call is to announce has been admitted. -/
theorem view_run {i : Nat} {c : Call} {v : View}
    (hc : ((initial limit platform).run actions).threads[i]? = some c) (hv : c.view? = some v) :
    ∃ e, (initial limit platform).Along actions (Admits e) ∧ v = e.activated.view := by
  refine run_induction (s := initial limit platform) (motive := fun actions t =>
    ∀ i c v, t.threads[i]? = some c → c.view? = some v →
      ∃ e, (initial limit platform).Along actions (Admits e) ∧ v = e.activated.view)
    ?_ ?_ actions i c v hc hv
  · intro i c v hc hv
    rw [threads_initial hc] at hv
    cases hv
  · intro actions a ih i c v hc hv
    rcases (move_step _ a).view hc hv with ⟨d, hd, hv⟩ | ⟨x, hx, rfl⟩
    · obtain ⟨e, he, hve⟩ := ih i d v hd hv
      exact ⟨e, he.append [a], hve⟩
    · obtain ⟨e, he, hstage⟩ := exists_admits hx
      exact ⟨e, he.append [a], hstage.view⟩

/-- Every record tells of a forwarder that became active, or of one that left, and why it did. -/
theorem record_run {rec : Record}
    (hrec : rec ∈ ((initial limit platform).run actions).world.journal) :
    (∃ e, (initial limit platform).Along actions (Admits e) ∧
      (rec = .startHook e.activated.view ∨ rec = .started e.activated.view)) ∨
    ∃ x cause, (initial limit platform).Along actions (Leaves x cause) ∧
      (rec = .stopHook x.generation x.key cause ∨ rec = x.lastRecord cause) := by
  refine run_induction (s := initial limit platform) (motive := fun actions t =>
    ∀ rec ∈ t.world.journal,
      (∃ e, (initial limit platform).Along actions (Admits e) ∧
        (rec = .startHook e.activated.view ∨ rec = .started e.activated.view)) ∨
      ∃ x cause, (initial limit platform).Along actions (Leaves x cause) ∧
        (rec = .stopHook x.generation x.key cause ∨ rec = x.lastRecord cause))
    (fun rec hrec => by cases hrec) ?_ actions rec hrec
  intro actions a ih rec hrec
  -- a new record is of what its writer was to announce, or had removed
  rcases (move_step _ a).journal hrec with hrec | ⟨c, hc, hw⟩
  · rcases ih rec hrec with ⟨e, he, h⟩ | ⟨x, cause, hx, h⟩
    · exact Or.inl ⟨e, he.append [a], h⟩
    · exact Or.inr ⟨x, cause, hx.append [a], h⟩
  · obtain ⟨i, hi⟩ := List.getElem?_of_mem hc
    rcases Call.writes?_eq_some hw with ⟨v, hv, h⟩ | ⟨r, x, hr, hx, h⟩
    · obtain ⟨e, he, rfl⟩ := view_run hi hv
      exact Or.inl ⟨e, he.append [a], h⟩
    · exact Or.inr ⟨x, r.cause, (removal_run hi hr hx).append [a], h⟩

end System
end PortForward
