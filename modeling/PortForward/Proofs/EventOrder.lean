/-
# The order of events

A forwarder is removed at one moment, and its end is told at a later one, after a wait; it becomes
active at one moment, and that is told at a later one. So events of one key may come in an order
in which nothing happened, but only between calls that overlap: the end of a forwarder comes
before the event that it started only if it was removed after it had become active and before that
was told, and it comes after the start of a later forwarder of the key only if whoever removed it
was under way when the later one was admitted, and still when that was announced.

* `own_back` : who starts a forwarder has done so since it was admitted;
* `removed_unannounced` : a forwarder that is announced after it was removed had become active
  before, and was to be announced when it was removed;
* `owed_until_told` : from the moment a forwarder is gone until its end is told, somebody has to
  tell it;
* `events_mix_only_by_overlap` : all events of a run.
-/
import PortForward.Bench.Platforms
import PortForward.Proofs.Withdrawals

namespace PortForward

/-- The record is the event that a forwarder ends with. -/
def Record.isEnd (r : Record) : Bool := r.mark? == some .lastEvent

/-- The events of a journal keep the generations of each key apart: the end of a forwarder never
comes before the event that it started, and never after the start of a later one of its key. -/
def Unmixed (journal : List Record) : Prop :=
  ∀ before v after, journal = before ++ .started v :: after →
    (∀ r ∈ before, r.isEnd → r.generation ≠ v.generation) ∧
    ∀ r ∈ after, r.isEnd → r.key = v.key → ¬ r.generation < v.generation

/-- An end pays the last event of its generation and of no other. -/
theorem Record.pays_lastEvent {g : Nat} {r : Record} :
    r.pays .lastEvent g = true ↔ r.isEnd = true ∧ r.generation = g := by
  simp [pays, isEnd, and_comm]

namespace System

variable {s : System} {a : Action} {e d : Entry} {r : Record} {v : View} {g : Nat}
variable {limit : Nat} {platform : Platform} {actions : List Action}

/-! ## When a record was written -/

/-- The action adds this record to the journal. -/
def Writes (r : Record) (s : System) (a : Action) : Prop :=
  (s.step a).world.journal = s.world.journal ++ [r]

theorem Writes.journal (h : Writes r s a) :
    (s.step a).world.journal = s.world.journal ++ [r] := h

/-- An action writes nothing, or what one thread has to write. -/
theorem step_journal (s : System) (a : Action) :
    (s.step a).world.journal = s.world.journal ∨
      ∃ c ∈ s.threads, ∃ r, c.writes? = some r ∧ Writes r s a := by
  have hmove := move_step s a
  unfold Writes
  generalize s.step a = s' at hmove
  cases hmove with
  | request h => exact Or.inl h.journal
  | @advance a k c d w _ hc h =>
    rw [put_world, h.journal]
    cases hw : c.writes? with
    | none => exact Or.inl (List.append_nil _)
    | some r => exact Or.inr ⟨c, List.mem_of_getElem? hc, r, hw, rfl⟩
  | giveUp _ _ =>
    rw [put_world]
    exact Or.inl rfl
  | reap _ _ h =>
    rw [put_world, h.journal]
    exact Or.inl rfl
  | calm _ hw => exact Or.inl hw.journal

/-- The writer of a record is a thread that has it to write. -/
theorem Writes.writer (h : Writes r s a) : ∃ c ∈ s.threads, c.writes? = some r := by
  rcases step_journal s a with hsame | ⟨c, hc, q, hq, hw⟩
  · rw [Writes, hsame] at h
    simp at h
  · rw [Writes, hw.journal, List.append_cancel_left_eq, List.cons.injEq] at h
    exact ⟨c, hc, h.1 ▸ hq⟩

/-- Every record was written at some moment of the run. -/
theorem writes_of_mem (hr : r ∈ ((initial limit platform).run actions).world.journal) :
    (initial limit platform).Along actions (Writes r) := by
  refine run_induction (s := initial limit platform) (motive := fun actions t =>
    ∀ r ∈ t.world.journal, (initial limit platform).Along actions (Writes r))
    (fun r hr => by cases hr) ?_ actions r hr
  intro actions a ih r hr
  rcases step_journal ((initial limit platform).run actions) a with hsame | ⟨-, -, q, -, hw⟩
  · rw [hsame] at hr
    exact (ih r hr).append [a]
  · rw [hw.journal, List.mem_append, List.mem_singleton] at hr
    rcases hr with hr | rfl
    · exact (ih r hr).append [a]
    · exact along_snoc.mpr (Or.inr hw)

/-- The journal of a run goes on as the one of its beginning. -/
theorem journal_run (s : System) (actions : List Action) :
    ∃ more, (s.run actions).world.journal = s.world.journal ++ more := by
  refine run_induction (s := s) (motive := fun _ t =>
    ∃ more, t.world.journal = s.world.journal ++ more) ⟨[], by simp⟩ ?_ actions
  rintro actions a ⟨more, hmore⟩
  rcases step_journal (s.run actions) a with hsame | ⟨-, -, q, -, hw⟩
  · exact ⟨more, hsame.trans hmore⟩
  · exact ⟨more ++ [q], by rw [hw.journal, hmore, List.append_assoc]⟩

/-! ## The start of a forwarder -/

/-- Some thread starts the forwarder. -/
def Starting (g : Nat) (s : System) : Prop := ∃ c ∈ s.threads, c.own? = some g

/-- Who starts a forwarder that was admitted has done so ever since. -/
theorem own_back (hold : g < s.world.registry.next) (h : Starting g (s.run actions)) :
    Starting g s := by
  revert h
  refine (run_induction (s := s) (motive := fun _ t => g < t.world.registry.next ∧
    (Starting g t → Starting g s)) ⟨hold, id⟩ ?_ actions).2
  rintro actions a ⟨hlt, ih⟩
  have hmove := move_step (s.run actions) a
  refine ⟨Nat.lt_of_lt_of_le hlt hmove.change.next_le, ?_⟩
  rintro ⟨c, hc, hg⟩
  obtain ⟨i, hi⟩ := List.getElem?_of_mem hc
  rcases hmove.own? hi hg with ⟨d, hd, hdg⟩ | ⟨-, hnew, -⟩
  · exact ih ⟨d, List.mem_of_getElem? hd, hdg⟩
  · omega

/-- The record of a start is written by a thread that announces the forwarder. -/
theorem Writes.announcing (h : Writes (.started v) s a) : ∃ c ∈ s.threads, c.view? = some v := by
  obtain ⟨c, hc, hw⟩ := h.writer
  refine ⟨c, hc, ?_⟩
  rcases Call.writes?_eq_some hw with ⟨u, hu, hrec | hrec⟩ | ⟨q, e, -, -, hrec | hrec⟩
  · cases hrec
  · cases hrec
    exact hu
  · cases hrec
  · cases hcause : q.cause <;> rw [hcause] at hrec <;> cases hrec

/-- If a thread is to announce a forwarder that was removed before, then the forwarder had become
active when it was removed, and a thread was to announce it. -/
theorem removed_unannounced {c : Call} {x : Entry} {cause : Option Error}
    (hc : c ∈ ((initial limit platform).run actions).threads) (hv : c.view? = some v)
    (hx : (initial limit platform).Along actions (Leaves x cause))
    (hg : x.generation = v.generation) :
    (initial limit platform).Along actions fun s a =>
      Leaves x cause s a ∧ x.view = v ∧ ∃ d ∈ s.threads, d.view? = some v := by
  obtain ⟨k, hk⟩ := List.getElem?_of_mem hc
  obtain ⟨e, he, rfl⟩ := view_run hk hv
  obtain ⟨y, hy, hstage⟩ := hx.leaves_admits
  obtain rfl : y = e := hy.admits_eq he (hstage.generation.symm.trans hg)
  obtain ⟨before, a, after, rfl, hleaves⟩ := hx
  have hr := reachable_run limit platform before
  -- one that had not started would never be announced
  have hstarted : ¬ ((initial limit platform).run before).Unstarted x.generation := by
    intro hunstarted
    have hwithdrawn := (hleaves.withdrawn hr hunstarted).run (hr.run [a]) after
    rw [run_append] at hc
    exact hwithdrawn.not_view hc hv hg.symm
  have hold : y.activated.view.generation <
      ((initial limit platform).run before).world.registry.next := by
    rw [← hg]
    exact hr.sound.old x hleaves.mem
  have hnow : Starting y.activated.view.generation
      (((initial limit platform).run before).run (a :: after)) := by
    rw [← run_append]
    exact ⟨c, hc, (Call.own?_of_view? hv).1⟩
  obtain ⟨d, hd, hown⟩ := own_back hold hnow
  obtain ⟨i, hi⟩ := List.getElem?_of_mem hd
  refine ⟨before, a, after, rfl, hleaves, ?_, d, hd, ?_⟩
  · rcases hr.status hleaves.mem with hpending | hactive
    · exact absurd (hr.unopened (Or.inr ⟨x, hleaves.mem, rfl, hpending⟩)) hstarted
    · rw [← Entry.view_activated hactive, hstage.view]
  · rcases Call.opening_or_view hown with ⟨st, hst, hstg⟩ | ⟨u, hu, hug⟩
    · rw [hg, ← hstg] at hstarted
      exact absurd (hr.opening_unstarted hi hst) hstarted
    · obtain ⟨z, hz, rfl⟩ := view_run hi hu
      rw [hu, (hz.append (a :: after)).admits_eq hy hug]

/-! ## The end of an earlier forwarder -/

/-- Some thread has removed the forwarder and still has to tell its end. -/
def OwesEnd (g : Nat) (s : System) : Prop :=
  ∃ c ∈ s.threads, ∃ e ∈ c.owed .lastEvent, e.generation = g

/-- Once a later forwarder of its key was admitted, a forwarder is not registered any more. -/
theorem gone_of_later (he : (initial limit platform).Along actions (Admits e))
    (hd : (initial limit platform).Along actions (Admits d)) (hk : e.key = d.key)
    (hg : e.generation < d.generation) :
    ∀ x ∈ ((initial limit platform).run actions).world.registry.entries,
      x.generation ≠ e.generation := by
  refine run_induction (s := initial limit platform) (motive := fun actions t =>
    (initial limit platform).Along actions (Admits e) →
      (initial limit platform).Along actions (Admits d) →
        ∀ x ∈ t.world.registry.entries, x.generation ≠ e.generation)
    (fun he => absurd he not_along_nil) ?_ actions he hd
  intro actions a ih he hd x hx hxe
  have hreach := reachable_run limit platform actions
  -- the earlier one was admitted in an earlier action
  have hbefore : (initial limit platform).Along actions (Admits e) := by
    rcases along_snoc.mp he with he | he
    · exact he
    · have hnew := he.generation
      rcases along_snoc.mp hd with hd | hd
      · have := hd.admits_old
        omega
      · rw [he.eq hd] at hg
        omega
  have hold := hbefore.admits_old
  rcases (move_step _ a).entry hreach.sound hreach.single hx with hx | hadm | ⟨y, hy, -, rfl⟩
  · rcases along_snoc.mp hd with hd | hd
    · exact ih hbefore hd x hx hxe
    · obtain ⟨-, -, hadm, -⟩ := hd
      have hfree := (Registry.admissible_of_admission hadm).free x hx
      exact hfree ((hbefore.admits_entry hx hxe).key.trans hk)
  · have hnew := hadm.generation
    omega
  · rcases along_snoc.mp hd with hd | hd
    · exact ih hbefore hd y hy hxe
    · obtain ⟨-, -, hadm, -⟩ := hd
      have hfree := (Registry.admissible_of_admission hadm).free y hy
      exact hfree ((hbefore.admits_entry hy hxe).key.trans hk)

/-- The end of an admitted forwarder that is not registered any more was told, or somebody still
has to tell it. -/
theorem told_or_owed (he : (initial limit platform).Along actions (Admits e))
    (hgone : ∀ x ∈ ((initial limit platform).run actions).world.registry.entries,
      x.generation ≠ e.generation) :
    (∃ r ∈ ((initial limit platform).run actions).world.journal,
        r.isEnd = true ∧ r.generation = e.generation) ∨
      OwesEnd e.generation ((initial limit platform).run actions) := by
  by_cases howed : OwesEnd e.generation ((initial limit platform).run actions)
  · exact Or.inr howed
  · left
    -- what nobody owes any more is paid, and every forwarder wants its end told
    have hpaid := paid_unowed (m := .lastEvent) he
      (fun c hc x hx hxe => howed ⟨c, hc, x, hx, hxe⟩) hgone
    have hpos : 0 < paid .lastEvent e.generation
        ((initial limit platform).run actions).world.journal := by
      rw [hpaid]
      exact Nat.one_pos
    obtain ⟨r, hr, hpays⟩ := List.countP_pos_iff.mp hpos
    exact ⟨r, hr, Record.pays_lastEvent.mp hpays⟩

/-! ## All events of a run -/

/-- The end of a forwarder has the generation and the key with which it was admitted. -/
theorem end_admits (hr : r ∈ ((initial limit platform).run actions).world.journal)
    (hend : r.isEnd = true) :
    ∃ e, (initial limit platform).Along actions (Admits e) ∧ e.generation = r.generation ∧
      e.key = r.key := by
  rcases record_run hr with ⟨e, -, rfl | rfl⟩ | ⟨x, cause, hx, rfl | rfl⟩
  · cases hend
  · cases hend
  · cases hend
  · obtain ⟨e, he, hstage⟩ := hx.leaves_admits
    refine ⟨e, he, ?_, ?_⟩
    · cases cause <;> exact hstage.generation.symm
    · cases cause <;> exact hstage.key.symm

/-- What is older than the next generation has been admitted so far. -/
theorem admits_before {before after : List Action}
    (he : (initial limit platform).Along (before ++ after) (Admits e))
    (hold : e.generation < ((initial limit platform).run before).world.registry.next) :
    (initial limit platform).Along before (Admits e) := by
  revert he
  refine run_induction (s := (initial limit platform).run before) (motive := fun after t =>
    ((initial limit platform).run before).world.registry.next ≤ t.world.registry.next ∧
      ((initial limit platform).Along (before ++ after) (Admits e) →
        (initial limit platform).Along before (Admits e))) ?_ ?_ after |>.2
  · exact ⟨Nat.le_refl _, by rw [List.append_nil]; exact id⟩
  · rintro after a ⟨hle, ih⟩
    refine ⟨Nat.le_trans hle (move_step _ a).change.next_le, ?_⟩
    rw [← List.append_assoc]
    intro he
    rcases along_snoc.mp he with he | he
    · exact ih he
    · have hnew := he.generation
      rw [run_append] at hnew
      omega

/-- The end of a forwarder is told once. -/
theorem end_once {before after : List Record}
    (hj : ((initial limit platform).run actions).world.journal = before ++ after) {q : Record}
    (hr : r ∈ before) (hq : q ∈ after) (hre : r.isEnd = true) (hqe : q.isEnd = true) :
    r.generation ≠ q.generation := by
  intro hg
  have hmem : r ∈ ((initial limit platform).run actions).world.journal := by
    rw [hj]
    exact List.mem_append_left _ hr
  obtain ⟨e, he, hrg⟩ := record_admits hmem
  have hle := paid_le (m := .lastEvent) he
  have hpos : 0 < before.countP (Record.pays .lastEvent e.generation) :=
    List.countP_pos_iff.mpr ⟨r, hr, Record.pays_lastEvent.mpr ⟨hre, hrg⟩⟩
  have hpos' : 0 < after.countP (Record.pays .lastEvent e.generation) :=
    List.countP_pos_iff.mpr ⟨q, hq, Record.pays_lastEvent.mpr ⟨hqe, hg.symm.trans hrg⟩⟩
  have hone : (e.wants .lastEvent).toNat = 1 := rfl
  rw [paid, hj, List.countP_append] at hle
  omega

/-- If the end of a forwarder is told after some moment at which it was gone, somebody had to tell it
then. -/
theorem owed_until_told {before after : List Action}
    (he : (initial limit platform).Along before (Admits e))
    (hgone : ∀ x ∈ ((initial limit platform).run before).world.registry.entries,
      x.generation ≠ e.generation)
    (hw : Writes r ((initial limit platform).run (before ++ after)) a) (hend : r.isEnd = true)
    (hg : r.generation = e.generation) :
    OwesEnd e.generation ((initial limit platform).run before) := by
  rcases told_or_owed he hgone with ⟨q, hq, hqend, hqg⟩ | howes
  · -- an end that was told before would be the second one
    obtain ⟨more, hmore⟩ := journal_run ((initial limit platform).run before) after
    rw [← run_append] at hmore
    have hq' : q ∈ ((initial limit platform).run (before ++ after)).world.journal := by
      rw [hmore]
      exact List.mem_append_left _ hq
    have hnow : ((initial limit platform).run (before ++ after ++ [a])).world.journal =
        ((initial limit platform).run (before ++ after)).world.journal ++ [r] := by
      rw [run_snoc]
      exact hw
    exact absurd (hqg.trans hg.symm)
      (end_once hnow hq' (List.mem_singleton_self r) hqend hend)
  · exact howes

/-- The action removes the forwarder after it has become active, while somebody is still to tell
that it has. -/
def LeavesUntold (v : View) (s : System) (a : Action) : Prop :=
  ∃ x cause, Leaves x cause s a ∧ x.view = v ∧ ∃ c ∈ s.threads, c.view? = some v

/-- If a forwarder is announced after its end was told, it was removed after it had become active. -/
theorem untold_of_end_told {c : Call}
    (hc : c ∈ ((initial limit platform).run actions).threads) (hv : c.view? = some v)
    (hr : r ∈ ((initial limit platform).run actions).world.journal) (hend : r.isEnd = true)
    (hg : r.generation = v.generation) :
    (initial limit platform).Along actions (LeavesUntold v) := by
  rcases record_run hr with ⟨e, -, rfl | rfl⟩ | ⟨x, cause, hx, rfl | rfl⟩
  · cases hend
  · cases hend
  · cases hend
  · have hxg : x.generation = v.generation := by cases cause <;> exact hg
    obtain ⟨before, a, after, hsplit, hleaves, huntold⟩ := removed_unannounced hc hv hx hxg
    exact ⟨before, a, after, hsplit, x, cause, hleaves, huntold⟩

/-- If the end of an earlier forwarder of a key is told after a later one was announced, somebody
had to tell it already when the later one was admitted, and still when it was announced. -/
theorem owed_of_end_told (hv : .started v ∈ ((initial limit platform).run actions).world.journal)
    (hw : Writes r ((initial limit platform).run actions) a) (hend : r.isEnd = true)
    (hk : r.key = v.key) (hg : r.generation < v.generation) :
    ((initial limit platform).Along actions fun s a =>
        (∃ d, Admits d s a ∧ d.activated.view = v) ∧ OwesEnd r.generation s) ∧
      (initial limit platform).Along actions fun s a =>
        Writes (.started v) s a ∧ OwesEnd r.generation s := by
  have hmem : r ∈ ((initial limit platform).run (actions ++ [a])).world.journal := by
    rw [run_snoc, hw.journal]
    exact List.mem_append_right _ (List.mem_singleton_self r)
  obtain ⟨e, he, heg, hek⟩ := end_admits hmem hend
  obtain ⟨announced, b, after, rfl, hstarted⟩ := writes_of_mem hv
  obtain ⟨c, hc, hview⟩ := hstarted.announcing
  obtain ⟨i, hi⟩ := List.getElem?_of_mem hc
  obtain ⟨d, hd, rfl⟩ := view_run hi hview
  obtain ⟨admitted, b', after', rfl, hadmits⟩ := id hd
  have hkey : e.key = d.key := hek.trans hk
  have hlater : e.generation < d.generation := heg ▸ hg
  -- the earlier forwarder was admitted before the later one, which found its key free
  have hearlier : (initial limit platform).Along admitted (Admits e) := by
    rw [List.append_assoc, List.append_assoc] at he
    refine admits_before he ?_
    rw [← hadmits.generation]
    exact hlater
  have hfree : ∀ x ∈ ((initial limit platform).run admitted).world.registry.entries,
      x.generation ≠ e.generation := by
    intro x hx hxg
    obtain ⟨-, -, hadm, -⟩ := hadmits
    exact (Registry.admissible_of_admission hadm).free x hx
      ((hearlier.admits_entry hx hxg).key.trans hkey)
  have hgone := gone_of_later (hearlier.append (b' :: after')) hd hkey hlater
  refine ⟨⟨admitted, b', after' ++ b :: after, by simp, ⟨d, hadmits, rfl⟩, ?_⟩,
    ⟨admitted ++ b' :: after', b, after, rfl, hstarted, ?_⟩⟩
  · rw [← heg]
    rw [List.append_assoc] at hw
    exact owed_until_told hearlier hfree hw hend heg.symm
  · rw [← heg]
    exact owed_until_told (hearlier.append _) hgone hw hend heg.symm

/-- The events of one key mix their generations only where calls overlap. If the end of a forwarder
comes before the event that it started, it was removed after it had become active and before its
start had told so; in no other case, and so never if it was removed while it was pending. If the end
of a forwarder comes after the event that a later one of its key started, somebody who had removed
the earlier one was to tell its end already when the later one was admitted, and still when the
later one was announced. -/
theorem events_mix_only_by_overlap (limit : Nat) (platform : Platform) (actions : List Action) :
    let begun := initial limit platform
    ∀ before v after, (begun.run actions).world.journal = before ++ .started v :: after →
      (∀ r ∈ before, r.isEnd → r.generation = v.generation →
        begun.Along actions (LeavesUntold v)) ∧
      ∀ r ∈ after, r.isEnd → r.key = v.key → r.generation < v.generation →
        (begun.Along actions fun s a =>
          (∃ d, Admits d s a ∧ d.activated.view = v) ∧ OwesEnd r.generation s) ∧
        begun.Along actions fun s a => Writes (.started v) s a ∧ OwesEnd r.generation s := by
  intro begun
  refine run_induction (s := begun) (motive := fun actions t =>
    ∀ before v after, t.world.journal = before ++ .started v :: after →
      (∀ r ∈ before, r.isEnd → r.generation = v.generation →
        begun.Along actions (LeavesUntold v)) ∧
      ∀ r ∈ after, r.isEnd → r.key = v.key → r.generation < v.generation →
        (begun.Along actions fun s a =>
          (∃ d, Admits d s a ∧ d.activated.view = v) ∧ OwesEnd r.generation s) ∧
        begun.Along actions fun s a => Writes (.started v) s a ∧ OwesEnd r.generation s)
    ?_ ?_ actions
  · intro before v after hj
    simp [begun, initial] at hj
  intro actions a ih before v after hj
  rcases step_journal (begun.run actions) a with hsame | ⟨-, -, q, -, hw⟩
  · obtain ⟨hstart, hend⟩ := ih before v after (hsame.symm.trans hj)
    exact ⟨fun r hr hre hg => (hstart r hr hre hg).append [a], fun r hr hre hk hg =>
      (hend r hr hre hk hg).imp (fun h => h.append [a]) fun h => h.append [a]⟩
  · rw [hw.journal] at hj
    -- the new record is the announcement itself, or one after it
    rcases split_snoc hj with ⟨rfl, rfl, rfl⟩ | ⟨rest, rfl, hearlier⟩
    · obtain ⟨c, hc, hview⟩ := hw.announcing
      refine ⟨fun r hr hre hg => ?_, fun r hr => by cases hr⟩
      exact (untold_of_end_told hc hview hr hre hg).append [a]
    · obtain ⟨hstart, hend⟩ := ih before v rest hearlier
      refine ⟨fun r hr hre hg => (hstart r hr hre hg).append [a], fun r hr hre hk hg => ?_⟩
      rcases List.mem_append.mp hr with hr | hr
      · exact (hend r hr hre hk hg).imp (fun h => h.append [a]) fun h => h.append [a]
      · rw [List.mem_singleton] at hr
        subst hr
        have hv : .started v ∈ (begun.run actions).world.journal := by
          rw [hearlier]
          simp
        obtain ⟨hadmitted, hannounced⟩ := owed_of_end_told hv hw hre hk hg
        exact ⟨hadmitted.append [a], hannounced.append [a]⟩

/-- A forwarder becomes active, is stopped, and its key is started again before the stop goes
on. -/
def overtaken : List Action :=
  let key : Key := ⟨"default/web", "app"⟩
  [.request (.start key [⟨"127.0.0.1", 8080, 80⟩] true true), .advance 0, .advance 0, .advance 0,
    .advance 0, .request (.stop key), .request (.start key [⟨"127.0.0.1", 8443, 443⟩] true true),
    .advance 2, .advance 2, .advance 2, .advance 2, .giveUp 1, .advance 1, .advance 1]

/-- A forwarder becomes active and is stopped before its start goes on. -/
def outrun : List Action :=
  let key : Key := ⟨"default/web", "app"⟩
  [.request (.start key [⟨"127.0.0.1", 8080, 80⟩] true true), .advance 0, .advance 0,
    .request (.stop key), .giveUp 1, .advance 1, .advance 1, .advance 0, .advance 0]

/-- The stop tells the end of the first forwarder after the second one was announced. -/
theorem overtaken_journal :
    let key : Key := ⟨"default/web", "app"⟩
    let first : View := ⟨1, key, [⟨"127.0.0.1", 8080, 80⟩], .active⟩
    let second : View := ⟨2, key, [⟨"127.0.0.1", 8443, 443⟩], .active⟩
    ((initial 0 .loopbackOnly).run overtaken).world.journal =
      [.startHook first, .started first, .startHook second] ++ .started second ::
        [.stopHook 1 key none, .stopped 1 key] := by decide

/-- The stop tells the end of the forwarder before its start was announced. -/
theorem outrun_journal :
    let key : Key := ⟨"default/web", "app"⟩
    let first : View := ⟨1, key, [⟨"127.0.0.1", 8080, 80⟩], .active⟩
    ((initial 0 .loopbackOnly).run outrun).world.journal =
      [.stopHook 1 key none, .stopped 1 key, .startHook first] ++ .started first :: [] := by decide

/-- The end of a forwarder may come after the start of the next one of its key, and before its own
start. -/
theorem events_mix :
    ¬ Unmixed ((initial 0 .loopbackOnly).run overtaken).world.journal ∧
      ¬ Unmixed ((initial 0 .loopbackOnly).run outrun).world.journal := by
  let key : Key := ⟨"default/web", "app"⟩
  constructor
  · intro h
    exact (h _ _ _ overtaken_journal).2 (.stopped 1 key) (by decide) rfl rfl (by decide)
  · intro h
    exact (h _ _ _ outrun_journal).1 (.stopped 1 key) (by decide) rfl rfl

/-- Where the end of the first forwarder comes too late, the stop was to tell it when the second one
was admitted and when that was announced; where it comes too early, the forwarder was stopped before
its start had told that it was active. -/
theorem overtaken_overlaps :
    let key : Key := ⟨"default/web", "app"⟩
    let first : View := ⟨1, key, [⟨"127.0.0.1", 8080, 80⟩], .active⟩
    let second : View := ⟨2, key, [⟨"127.0.0.1", 8443, 443⟩], .active⟩
    ((initial 0 .loopbackOnly).run overtaken).world.journal =
      [.startHook first, .started first, .startHook second] ++ .started second ::
        [.stopHook 1 key none, .stopped 1 key] ∧
      ((initial 0 .loopbackOnly).Along overtaken fun s a =>
        (∃ d, Admits d s a ∧ d.activated.view = second) ∧ OwesEnd 1 s) ∧
      ((initial 0 .loopbackOnly).Along overtaken fun s a =>
        Writes (.started second) s a ∧ OwesEnd 1 s) ∧
      ((initial 0 .loopbackOnly).run outrun).world.journal =
        [.stopHook 1 key none, .stopped 1 key, .startHook first] ++ .started first :: [] ∧
      (initial 0 .loopbackOnly).Along outrun (LeavesUntold first) := by
  intro key first second
  have hend := (events_mix_only_by_overlap 0 .loopbackOnly overtaken _ _ _ overtaken_journal).2
    (.stopped 1 key) (by decide) rfl rfl (by decide)
  have hstart := (events_mix_only_by_overlap 0 .loopbackOnly outrun _ _ _ outrun_journal).1
    (.stopped 1 key) (by decide) rfl rfl
  exact ⟨overtaken_journal, hend.1, hend.2, outrun_journal, hstart⟩

end System
end PortForward
