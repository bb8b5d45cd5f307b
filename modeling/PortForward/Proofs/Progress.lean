/-
# How calls come to their end

A call that goes on has ever fewer changes left until it is stuck: it is about to look up a name,
it waits for tasks, or it is over. The schedule drives one thread after the other until it is
stuck; in between tasks end. None of this begins anything new.

* `Call.changesLeft_advance` : a call that is not stuck has fewer changes left after the next one;
* `Drives` : one thread goes on until it is stuck; `drives_proceedFor`, `drives_reaper` say that
  the schedule does that;
* `Only`, `Still` : what stays as it is meanwhile.
-/
import PortForward.Proofs.Accounts
import PortForward.Proofs.Custody
import PortForward.System.Schedule

namespace PortForward

namespace Call

variable {w w' : World} {c d e : Call}

/-! ## Calls -/

/-- A call that is to send an event has a forwarder to send it for. -/
def Proper (c : Call) : Prop := ∀ r, c = .reporting r → r.entries ≠ []

/-- A call that starts nothing and waits for nothing any more. -/
def Closing (c : Call) : Prop := c.own? = none ∧ ∀ r, c ≠ .waiting r

theorem proper_over (answer : Answer) : (Call.over answer).Proper := by simp [Proper]

theorem Begins.proper {r : Request} (h : Begins w r w' c) : c.Proper := by
  cases h <;> simp [Proper]

theorem Advances.proper (h : Advances w c w' d) (hc : c.Proper) : d.Proper := by
  cases h with
  | waits => exact hc
  | _ => simp [Proper]

theorem Takes.proper {r : Report} (h : Takes w r w' c) : c.Proper := by
  cases h <;> simp [Proper]

/-- A call that goes on never waits again once it has waited. -/
theorem Advances.closing (h : Advances w c w' d) (hc : c.Closing) : d.Closing := by
  obtain ⟨hown, hwait⟩ := hc
  cases h with
  | quiet _ => exact absurd rfl (hwait _)
  | waits => exact absurd rfl (hwait _)
  | hooked => cases hown
  | announced => exact ⟨rfl, by simp⟩
  | allEnded => exact ⟨rfl, by simp⟩
  | ended => exact ⟨rfl, by simp⟩
  | allReported => exact ⟨rfl, by simp⟩
  | reported => exact ⟨rfl, by simp⟩
  | «over» => exact ⟨rfl, by simp⟩
  | _ => cases hown

/-- A call that goes on leaves the reports to the reaper. -/
theorem Advances.reports (h : Advances w c w' d) : w'.reports = w.reports := by
  cases h with
  | hooked => split <;> rfl
  | ended => split <;> rfl
  | _ => rfl

/-- Every change that a call can make at once is one of those that it has left. -/
theorem changesLeft_advance (hc : c.Proper) (hs : System.isStuck w c = false) :
    (c.advance w).2.changesLeft < c.changesLeft := by
  cases c with
  | binding st bound left =>
    cases left with
    | nil =>
      rw [advance]
      split <;> simp [changesLeft, Setback.changesLeft]
    | cons t left =>
      rw [advance]
      split <;> simp [changesLeft, Setback.changesLeft]
  | dropping st bound setback => simp [advance, changesLeft]
  | releasing st setback => cases setback <;> simp [advance, changesLeft, Setback.changesLeft]
  | unbound st t cause =>
    rw [advance]
    split <;> simp [changesLeft]
  | activated v startHook => simp [advance, changesLeft]
  | announcing v => simp [advance, changesLeft]
  | waiting r =>
    simp only [System.isStuck, Bool.not_eq_false'] at hs
    simp [advance, changesLeft, hs]
  | ending r =>
    obtain ⟨entries, cause, answer⟩ := r
    cases entries <;> simp [advance, changesLeft]
  | reporting r =>
    obtain ⟨entries, cause, answer⟩ := r
    cases entries with
    | nil => exact absurd rfl (hc _ rfl)
    | cons e es =>
      simp only [advance, changesLeft, List.length_cons]
      omega
  | «over» answer => cases hs

/-- A call that stands where another one gets to: it starts no more than that one, and has no more
changes left. -/
structure Follows (c d : Call) : Prop where
  proper : c.Proper → d.Proper
  left : c.Proper → d.changesLeft ≤ c.changesLeft
  own : c.own? = none → d.own? = none
  closing : c.Closing → d.Closing

theorem Follows.refl (c : Call) : c.Follows c := ⟨id, fun _ => Nat.le_refl _, id, id⟩

theorem Follows.trans (h : c.Follows d) (h' : d.Follows e) : c.Follows e where
  proper hc := h'.proper (h.proper hc)
  left hc := Nat.le_trans (h'.left (h.proper hc)) (h.left hc)
  own hc := h'.own (h.own hc)
  closing hc := h'.closing (h.closing hc)

theorem follows_advance (hs : System.isStuck w c = false) : c.Follows (c.advance w).2 := by
  have hadv := advances_advance w c
  refine ⟨hadv.proper, fun hc => Nat.le_of_lt (changesLeft_advance hc hs), ?_, hadv.closing⟩
  intro hc
  by_contra hne
  obtain ⟨g, hg⟩ := Option.ne_none_iff_exists'.mp hne
  rw [hadv.own? hg] at hc
  cases hc

/-- A call that is stuck without anything to wait for or to start is over. -/
theorem over_of_stuck (hs : System.isStuck w c = true) (hc : c.Closing) :
    ∃ answer, c = .over answer := by
  obtain ⟨hown, hwait⟩ := hc
  cases c with
  | «over» answer => exact ⟨answer, rfl⟩
  | waiting r => exact absurd rfl (hwait r)
  | binding st left => cases hown
  | _ => cases hs

end Call

namespace System

variable {s t u : System} {a : Action} {c d : Call} {k i n : Nat}

/-- Every call has something to send an event for. -/
theorem Reachable.proper (h : s.Reachable) (hc : s.threads[k]? = some c) : c.Proper := by
  refine h.induction (P := fun s => ∀ k c, s.threads[k]? = some c → c.Proper) ?_ ?_ k c hc
  · intro limit platform k c hc
    rw [threads_initial hc]
    exact Call.proper_over _
  · intro s a ih k d hd
    obtain ⟨w, -, ho⟩ := (move_step s a).origin hd
    cases ho with
    | stays hc => exact ih k d hc
    | begins _ hb => exact hb.proper
    | advances _ hc hadv => exact hadv.proper (ih k _ hc)
    | givesUp _ _ => simp [Call.Proper]
    | takes _ _ _ ht => exact ht.proper

/-! ## Going on -/

/-- The action begins no call, and the reaper does not begin to deal with a report while a
forwarder is to be announced. -/
structure GoesOn (s : System) (a : Action) : Prop where
  request : ∀ r, a ≠ .request r
  reap : a = .reap → ∀ c ∈ s.threads, c.view? = none

/-- What has begun goes on from the one system to the other. -/
inductive Continues (s : System) : System → Prop
  | refl : Continues s s
  | step {t : System} {a : Action} (h : Continues s t) (ha : GoesOn t a) : Continues s (t.step a)

theorem Continues.trans (h : Continues s t) (h' : Continues t u) : Continues s u := by
  induction h' with
  | refl => exact h
  | step _ ha ih => exact ih.step ha

theorem Continues.reachable (h : Continues s t) (hr : s.Reachable) : t.Reachable := by
  induction h with
  | refl => exact hr
  | @step t a _ _ ih => exact ih.run [a]

/-- A thread that goes on begins nothing. -/
theorem goesOn_advance (ha : advances? a = some k) : GoesOn s a := by
  constructor
  · rintro r rfl
    cases ha
  · rintro rfl
    cases ha

/-- A thread that waits no longer begins nothing. -/
theorem goesOn_giveUp (ha : givesUp? a = some k) : GoesOn s a := by
  constructor
  · rintro r rfl
    cases ha
  · rintro rfl
    cases ha

/-! ## Tasks that were told to end -/

/-- All tasks that were told to end have ended, unless they stall. -/
def Cleared (s : System) : Prop :=
  ∀ t ∈ s.world.tasks, t.generation ∈ s.world.cancelled → t.stalled = true

/-- Only tasks that stall were given up. -/
def Heedful (s : System) : Prop := ∀ t ∈ s.world.tasks, t.aborted = true → t.stalled = true

/-- Only tasks that were told to end are given up. -/
theorem Cleared.heedful (h : s.Cleared) (hr : s.Reachable) : s.Heedful := fun t ht haborted =>
  h t ht (hr.staffed.aborted t ht haborted)

/-- A task after a thread went on was there before, or it is of a registered forwarder. -/
theorem task_of_advance (ha : advances? a = some k) (hc : s.threads[k]? = some c) {u : Task}
    (hu : u ∈ (s.step a).world.tasks) :
    u ∈ s.world.tasks ∨ (u.aborted = false ∧
      ∃ e ∈ (s.step a).world.registry.entries, e.generation = u.generation) := by
  rw [step_advance_eq ha hc, put_world] at hu ⊢
  have hadv := Call.advances_advance s.world c
  generalize (c.advance s.world).1 = w, (c.advance s.world).2 = d at hadv hu
  cases hadv with
  | @committed st bound v r hr =>
    rcases List.mem_append.mp hu with hu | hu
    · exact Or.inl hu
    · obtain ⟨role, -, rfl⟩ := List.mem_map.mp hu
      obtain ⟨e, he, hk, -, rfl, rfl⟩ := Registry.commit_eq_some hr
      exact Or.inr ⟨rfl, e.activeWith bound, List.mem_map.mpr ⟨e, he, if_pos hk⟩, rfl⟩
  | hooked => split at hu <;> exact Or.inl hu
  | ended => split at hu <;> exact Or.inl hu
  | _ => exact Or.inl hu

/-- Who was told to end when a thread went on was told before, or was just being opened. -/
theorem cancelled_of_advance (ha : advances? a = some k) (hc : s.threads[k]? = some c) {g : Nat}
    (hg : g ∈ (s.step a).world.cancelled) :
    g ∈ s.world.cancelled ∨ ∃ st, c.opening? = some st ∧ st.generation = g := by
  rw [step_advance_eq ha hc, put_world] at hg
  have hadv := Call.advances_advance s.world c
  generalize (c.advance s.world).1 = w, (c.advance s.world).2 = d at hadv hg
  cases hadv with
  | evicted _ =>
    rcases List.mem_cons.mp hg with rfl | hg
    · exact Or.inr ⟨_, rfl, rfl⟩
    · exact Or.inl hg
  | hooked => split at hg <;> exact Or.inl hg
  | ended => split at hg <;> exact Or.inl hg
  | _ => exact Or.inl hg

theorem Heedful.advance (h : s.Heedful) (ha : advances? a = some k)
    (hc : s.threads[k]? = some c) : (s.step a).Heedful := by
  intro u hu haborted
  rcases task_of_advance ha hc hu with hu | ⟨hnew, -⟩
  · exact h u hu haborted
  · rw [hnew] at haborted
    cases haborted

theorem Cleared.advance (h : s.Cleared) (hr : s.Reachable) (ha : advances? a = some k)
    (hc : s.threads[k]? = some c) : (s.step a).Cleared := by
  intro u hu htold
  rcases task_of_advance ha hc hu with hu | ⟨-, e, he, hg⟩
  · rcases cancelled_of_advance ha hc htold with htold | ⟨st, hst, hg⟩
    · exact h u hu htold
    · -- nothing runs for a forwarder that is being opened
      exact absurd hg.symm ((hr.opening_unstarted hc hst).tasks u hu)
  · exact absurd hg (((hr.run [a]).staffed.told _ htold).2 e he)

/-! ## One thread goes on -/

/-- From the one system to the other, one thread went on, and no other thread and no report
changed. -/
structure Only (k : Nat) (s t : System) : Prop where
  continues : Continues s t
  others : ∀ j ≠ k, t.threads[j]? = s.threads[j]?
  reports : t.world.reports = s.world.reports
  cleared : s.Reachable → s.Cleared → t.Cleared

theorem Only.refl (k : Nat) (s : System) : Only k s s := ⟨.refl, fun _ _ => rfl, rfl, fun _ => id⟩

theorem Only.trans (h : Only k s t) (h' : Only k t u) : Only k s u where
  continues := h.continues.trans h'.continues
  others j hj := (h'.others j hj).trans (h.others j hj)
  reports := h'.reports.trans h.reports
  cleared hr hs := h'.cleared (h.continues.reachable hr) (h.cleared hr hs)

theorem only_advance (ha : advances? a = some k) (hc : s.threads[k]? = some c) :
    Only k s (s.step a) where
  continues := .step .refl (goesOn_advance ha)
  others j hj := by
    rw [step_advance_eq ha hc, threads_put, List.getElem?_set_ne hj.symm]
  reports := by
    rw [step_advance_eq ha hc, put_world]
    exact (Call.advances_advance s.world c).reports
  cleared hr hs := hs.advance hr ha hc

theorem only_giveUp (ha : givesUp? a = some k) (hc : s.threads[k]? = some c) :
    Only k s (s.step a) := by
  have hstep := step_giveUp_eq ha hc
  refine ⟨.step .refl (goesOn_giveUp ha), ?_, ?_, ?_⟩
  · intro j hj
    rw [hstep, threads_put, List.getElem?_set_ne hj.symm]
  · rw [hstep, put_world]
    cases c <;> rfl
  · intro _ hs
    unfold Cleared
    rw [hstep, put_world]
    cases c with
    | waiting r =>
      -- who was given up is the same as before in all that counts here
      intro u hu htold
      obtain ⟨v, hv, rfl⟩ := List.mem_map.mp hu
      by_cases hgiven : (r.entries.map (·.generation)).contains v.generation = true
      · rw [if_pos hgiven] at htold ⊢
        exact hs v hv htold
      · rw [if_neg hgiven] at htold ⊢
        exact hs v hv htold
    | _ => exact hs

/-- One thread goes on until it is stuck. -/
inductive Drives (k : Nat) : System → System → Prop
  | stuck {s : System} {c : Call} (hc : s.threads[k]? = some c)
      (h : isStuck s.world c = true) : Drives k s s
  | next {s t : System} {c : Call} {a : Action} (ha : advances? a = some k)
      (hc : s.threads[k]? = some c) (hs : isStuck s.world c = false)
      (h : Drives k (s.step a) t) : Drives k s t

namespace Drives

theorem only (h : Drives k s t) : Only k s t := by
  induction h with
  | stuck _ _ => exact .refl k _
  | next ha hc _ _ ih => exact (only_advance ha hc).trans ih

/-- Where the thread is stuck in the end. -/
theorem stops (h : Drives k s t) (hc : s.threads[k]? = some c) :
    ∃ d, t.threads[k]? = some d ∧ isStuck t.world d = true ∧ c.Follows d := by
  induction h generalizing c with
  | stuck hc' hs =>
    obtain rfl : c = _ := Option.some.inj (hc.symm.trans hc')
    exact ⟨c, hc, hs, .refl c⟩
  | next ha hc' hs _ ih =>
    obtain rfl : c = _ := Option.some.inj (hc.symm.trans hc')
    obtain ⟨d, hd, hstuck, hfollows⟩ := ih (c := (c.advance _).2) (by
      rw [step_advance_eq ha hc, threads_put_self hc])
    exact ⟨d, hd, hstuck, (Call.follows_advance hs).trans hfollows⟩

theorem heedful (h : Drives k s t) (hs : s.Heedful) : t.Heedful := by
  induction h with
  | stuck _ _ => exact hs
  | next ha hc _ _ ih => exact ih (hs.advance ha hc)

/-- A thread that has nothing to wait for or to start comes to its end. -/
theorem ends (h : Drives k s t) (hc : s.threads[k]? = some c) (hclosing : c.Closing) :
    ∃ answer, t.threads[k]? = some (.over answer) := by
  obtain ⟨d, hd, hstuck, hfollows⟩ := h.stops hc
  obtain ⟨answer, rfl⟩ := Call.over_of_stuck hstuck (hfollows.closing hclosing)
  exact ⟨answer, hd⟩

end Drives

/-- A call that has no changes left is stuck. -/
theorem stuck_of_changesLeft {w : World} (hc : c.Proper) (h : c.changesLeft = 0) :
    isStuck w c = true := by
  by_contra hs
  rw [Bool.not_eq_true] at hs
  have := Call.changesLeft_advance hc hs
  omega

theorem drives_proceedFor (hc : s.calls[i]? = some c) (hp : c.Proper) (hn : c.changesLeft ≤ n) :
    Drives (i + 1) s (proceedFor i n s) := by
  induction n generalizing s c with
  | zero => exact .stuck hc (stuck_of_changesLeft hp (by omega))
  | succ n ih =>
    rw [proceedFor, hc]
    dsimp only
    split
    · rename_i hs
      exact .stuck hc hs
    · rename_i hs
      rw [Bool.not_eq_true] at hs
      have hleft := Call.changesLeft_advance hp hs
      refine .next (a := .advance i) rfl hc hs (ih (c := (c.advance s.world).2) ?_ ?_ (by omega))
      · rw [← threads_succ, step_advance_eq (a := .advance i) (i := i + 1) rfl hc]
        exact threads_put_self (i := i + 1) hc _ _
      · exact (Call.advances_advance s.world c).proper hp

theorem drives_proceed (hc : s.calls[i]? = some c) (hp : c.Proper) :
    Drives (i + 1) s (s.proceed i) := by
  rw [proceed, hc]
  exact drives_proceedFor hc hp (Nat.le_refl _)

theorem drives_reaper (hp : s.reaper.Proper) (hn : s.reaper.changesLeft ≤ n) :
    Drives 0 s (reaperProceedsFor n s) := by
  induction n generalizing s with
  | zero => exact .stuck (threads_zero s) (stuck_of_changesLeft hp (by omega))
  | succ n ih =>
    rw [reaperProceedsFor]
    split
    · rename_i hs
      exact .stuck (threads_zero s) hs
    · rename_i hs
      rw [Bool.not_eq_true] at hs
      have hleft := Call.changesLeft_advance hp hs
      refine .next (a := .advanceReaper) rfl (threads_zero s) hs (ih ?_ ?_)
      · exact (Call.advances_advance s.world s.reaper).proper hp
      · show (s.reaper.advance s.world).2.changesLeft ≤ n
        omega

/-! ## Tasks end -/

/-- From the one system to the other, nothing but tasks ended. -/
structure Still (s t : System) : Prop where
  continues : Continues s t
  threads : t.threads = s.threads
  registry : t.world.registry = s.world.registry
  cancelled : t.world.cancelled = s.world.cancelled
  tasks : ∀ u ∈ t.world.tasks, u ∈ s.world.tasks

theorem Still.refl (s : System) : Still s s := ⟨.refl, rfl, rfl, rfl, fun _ => id⟩

theorem Still.trans (h : Still s t) (h' : Still t u) : Still s u where
  continues := h.continues.trans h'.continues
  threads := h'.threads.trans h.threads
  registry := h'.registry.trans h.registry
  cancelled := h'.cancelled.trans h.cancelled
  tasks x hx := h.tasks x (h'.tasks x hx)

/-- An action of no thread changes nothing but tasks, listeners and reports. -/
theorem still_step (hrequest : ∀ r, a ≠ .request r) (hreap : a ≠ .reap) (ha : advances? a = none)
    (hg : givesUp? a = none) : Still s (s.step a) := by
  have hmove := move_step s a
  have hcontinues : Continues s (s.step a) :=
    .step .refl ⟨hrequest, fun h => absurd h hreap⟩
  generalize s.step a = s' at hmove hcontinues
  cases hmove with
  | request _ => exact absurd rfl (hrequest _)
  | advance ha' _ _ =>
    rw [ha] at ha'
    cases ha'
  | giveUp hg' _ =>
    rw [hg] at hg'
    cases hg'
  | reap _ _ _ => exact absurd rfl hreap
  | calm _ hw => exact ⟨hcontinues, rfl, hw.registry, hw.cancelled, fun _ hu => hw.tasks.subset hu⟩

theorem still_foldl {β : Type} {f : System → β → System} (hf : ∀ s b, Still s (f s b)) (bs : List β)
    (s : System) : Still s (bs.foldl f s) := by
  induction bs generalizing s with
  | nil => exact .refl s
  | cons b bs ih => exact (hf s b).trans (ih (f s b))

theorem Still.cleared (h : Still s t) (hs : s.Cleared) : t.Cleared := by
  intro u hu
  rw [h.cancelled]
  exact hs u (h.tasks u hu)

theorem Still.idle (h : Still s t) (hs : s.Idle) : t.Idle := by
  unfold Idle
  rw [h.threads]
  exact hs

/-- That tasks end changes no thread. -/
theorem Still.only (h : Still s t) (hreports : t.world.reports = s.world.reports) (k : Nat) :
    Only k s t :=
  ⟨h.continues, fun j _ => by rw [h.threads], hreports, fun _ => h.cleared⟩

end System
end PortForward
