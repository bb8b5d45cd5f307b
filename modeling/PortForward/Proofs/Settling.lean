/-
# Everything settles

One operation after the other: each comes to its end before the next one begins. In between
nothing is in flight, no report waits to be taken, and all tasks that were told to end have ended,
unless they stall.

* `settles` : the reaper deals with all reports;
* `Engaged.complete` : the call that has begun comes to its end;
* `Settled.serve` : a request is served, and everything settles again.
-/
import PortForward.Proofs.Progress
import PortForward.Scenario

namespace PortForward

namespace System

variable {s t : System} {c : Call} {i n : Nat} {gone : List (Key × String)}

/-! ## Tasks that end -/

theorem still_closing (ts : List Task) (s : System) :
    Still s (ts.foldl (fun s u => s.step (.close u)) s) :=
  still_foldl (fun _ _ => still_step (by simp) (by simp) rfl rfl) ts s

theorem still_dying (ts : List Task) (s : System) :
    Still s (ts.foldl (fun s u => s.step (.die u)) s) :=
  still_foldl (fun _ _ => still_step (by simp) (by simp) rfl rfl) ts s

theorem still_failing (ts : List Task) (reason : String) (s : System) :
    Still s (ts.foldl (fun s u => s.step (.fail u reason)) s) :=
  still_foldl (fun _ _ => still_step (by simp) (by simp) rfl rfl) ts s

theorem still_closeTasks (s : System) : Still s s.closeTasks := still_closing _ s

theorem still_reapAborted (s : System) : Still s s.reapAborted := still_dying _ s

theorem still_noticeOne (gone : List (Key × String)) (s : System) (t : Task) :
    Still s (noticeOne gone s t) := by
  unfold noticeOne
  split
  · split
    · exact still_step (by simp) (by simp) rfl rfl
    · exact .refl s
  · exact .refl s

theorem still_noticeGone (s : System) (gone : List (Key × String)) : Still s (s.noticeGone gone) :=
  still_foldl (still_noticeOne gone) s.world.tasks s

/-- Tasks that were told to end leave no reports. -/
theorem closeTasks_reports (s : System) : s.closeTasks.world.reports = s.world.reports := by
  have hall : ∀ (ts : List Task) (s : System),
      (ts.foldl (fun s t => s.step (.close t)) s).world.reports = s.world.reports := by
    intro ts
    induction ts with
    | nil => exact fun s => rfl
    | cons t ts ih =>
      intro s
      rw [List.foldl_cons, ih, step]
      split <;> rfl
  exact hall _ s

/-- No task is left of those that were closed if they were told to end. -/
theorem not_told_of_closed (ts : List Task) (s : System) {u : Task}
    (hu : u ∈ (ts.foldl (fun s t => s.step (.close t)) s).world.tasks) (hmem : u ∈ ts) :
    u.generation ∉ s.world.cancelled := by
  induction ts generalizing s with
  | nil => cases hmem
  | cons t ts ih =>
    have hfirst : Still s (s.step (.close t)) := still_step (by simp) (by simp) rfl rfl
    rcases List.mem_cons.mp hmem with rfl | hmem
    · intro htold
      have hleft := (still_closing ts (s.step (.close u))).tasks u hu
      have hhere := hfirst.tasks u hleft
      rw [step, if_pos (by simp [hhere, htold])] at hleft
      exact (World.mem_tasks_endTask.mp hleft).2 rfl
    · rw [← hfirst.cancelled]
      exact ih _ hu hmem

/-- Closing leaves none but those that stall of the tasks that were told to end. -/
theorem Heedful.closeTasks (h : s.Heedful) : s.closeTasks.Cleared := by
  intro u hu htold
  rw [(still_closeTasks s).cancelled] at htold
  by_contra hstalled
  have hmem := (still_closeTasks s).tasks u hu
  have hgiven : ¬ u.aborted = true := fun haborted => hstalled (h u hmem haborted)
  rw [Bool.not_eq_true] at hstalled hgiven
  refine not_told_of_closed _ s hu (List.mem_filter.mpr ⟨hmem, ?_⟩) htold
  rw [hstalled, hgiven]
  rfl

/-! ## Reports -/

/-- The reaper has nothing to do at the moment. -/
def ReaperFree (s : System) : Prop := ∃ answer, s.reaper = .over answer

/-- The reaper has dealt with so many reports. -/
structure Attends (n : Nat) (s t : System) : Prop where
  continues : Continues s t
  calls : t.calls = s.calls
  free : t.ReaperFree
  reports : t.world.reports = s.world.reports.drop n
  cleared : t.Cleared

/-- A reaper that is free takes a report if there is one. -/
theorem step_reap (hf : s.ReaperFree) :
    (s.step .reap).calls = s.calls ∧ (s.step .reap).world.reports = s.world.reports.tail ∧
      (s.step .reap).world.tasks = s.world.tasks := by
  obtain ⟨answer, ho⟩ := hf
  cases hreports : s.world.reports with
  | nil => simp [step, ho, hreports]
  | cons r reports =>
    simp only [step, ho, hreports, withReaper]
    have htakes := Call.takes_ofReport { s.world with reports } r
    generalize (Call.ofReport { s.world with reports } r).1 = w,
      (Call.ofReport { s.world with reports } r).2 = c at htakes
    cases htakes <;> exact ⟨trivial, rfl, rfl⟩

/-- Only the reaper goes on, so the calls stay. -/
theorem Only.calls (h : Only 0 s t) : t.calls = s.calls := by
  apply List.ext_getElem?
  intro j
  rw [← threads_succ, ← threads_succ]
  exact h.others (j + 1) (by simp)

/-- A removal that is stuck and waits no longer has nothing more to wait for. -/
theorem closing_giveUp {w : World} (hs : isStuck w c = true) (hown : c.own? = none) :
    (c.giveUp w).2.Closing := by
  cases c with
  | waiting r => exact ⟨rfl, by simp [Call.giveUp]⟩
  | «over» answer => exact ⟨rfl, by simp [Call.giveUp]⟩
  | binding st left => cases hown
  | _ => cases hs

/-- The reaper deals with the oldest report, if there is one. -/
theorem attends_reapOne (hr : s.Reachable) (hs : s.Cleared) (hf : s.ReaperFree)
    (hview : ∀ c ∈ s.threads, c.view? = none) : Attends 1 s s.reapOne := by
  obtain ⟨hcalls, hreports, htasks⟩ := step_reap hf
  have htake : Continues s (s.step .reap) := .step .refl ⟨by simp, fun _ => hview⟩
  have hheedful : (s.step .reap).Heedful := by
    unfold Heedful
    rw [htasks]
    exact hs.heedful hr
  have hclosed := (still_closeTasks (s.step .reap))
  unfold reapOne
  generalize hs₁ : (s.step .reap).closeTasks = s₁ at hclosed
  have hr₁ : s₁.Reachable := (htake.trans hclosed.continues).reachable hr
  have hdrive := drives_reaper (s := s₁) (hr₁.proper (threads_zero s₁)) (Nat.le_refl _)
  dsimp only
  generalize reaperProceedsFor s₁.reaper.changesLeft s₁ = s₂ at hdrive
  obtain ⟨d, hd, hstuck, hfollows⟩ := hdrive.stops (threads_zero s₁)
  have hr₂ : s₂.Reachable := hdrive.only.continues.reachable hr₁
  have hgive : Only 0 s₂ (s₂.step .reaperGivesUp) := only_giveUp rfl hd
  have hd' : (s₂.step .reaperGivesUp).threads[0]? = some (d.giveUp s₂.world).2 := by
    rw [step_giveUp_eq (a := .reaperGivesUp) rfl hd, threads_put_self hd]
  have hclosing := closing_giveUp hstuck (hfollows.own hr₁.single.reaper)
  generalize hs₃ : s₂.step .reaperGivesUp = s₃ at hgive hd'
  have hr₃ : s₃.Reachable := hgive.continues.reachable hr₂
  have hdrive' := drives_reaper (s := s₃) (hr₃.proper (threads_zero s₃)) (Nat.le_refl _)
  have honly : Only 0 s₁ (reaperProceedsFor s₃.reaper.changesLeft s₃) :=
    (hdrive.only.trans hgive).trans hdrive'.only
  obtain ⟨answer, hover⟩ := hdrive'.ends hd' hclosing
  refine ⟨(htake.trans hclosed.continues).trans honly.continues, ?_, ⟨answer, ?_⟩, ?_, ?_⟩
  · rw [honly.calls, ← hcalls]
    exact (List.cons.inj hclosed.threads).2
  · rw [threads_zero, Option.some.injEq] at hover
    exact hover
  · rw [honly.reports, ← hs₁, closeTasks_reports, hreports, List.drop_one]
  · exact honly.cleared hr₁ (hs₁ ▸ hheedful.closeTasks)

theorem attends_reapMany (n : Nat) (hr : s.Reachable) (hs : s.Cleared) (hf : s.ReaperFree)
    (hview : ∀ c ∈ s.calls, c.view? = none) : Attends n s (reapMany n s) := by
  induction n generalizing s with
  | zero => exact ⟨.refl, rfl, hf, rfl, hs⟩
  | succ n ih =>
    have hthreads : ∀ c ∈ s.threads, c.view? = none := by
      intro c hc
      rcases List.mem_cons.mp hc with rfl | hc
      · obtain ⟨answer, ho⟩ := hf
        rw [ho]
        rfl
      · exact hview c hc
    have hone := attends_reapOne hr hs hf hthreads
    have hrest := ih (hone.continues.reachable hr) hone.cleared hone.free (by
      rw [hone.calls]
      exact hview)
    refine ⟨hone.continues.trans hrest.continues, hrest.calls.trans hone.calls, hrest.free, ?_,
      hrest.cleared⟩
    rw [reapMany, hrest.reports, hone.reports, List.drop_drop, Nat.add_comm]

/-- Nothing is left of what the reaper has to do. -/
structure Settles (s t : System) : Prop where
  continues : Continues s t
  calls : t.calls = s.calls
  free : t.ReaperFree
  reports : t.world.reports = []
  cleared : t.Cleared

/-- The reaper deals with all reports. -/
theorem settles (hr : s.Reachable) (hs : s.Cleared) (hf : s.ReaperFree)
    (hview : ∀ c ∈ s.calls, c.view? = none) (gone : List (Key × String)) :
    Settles s (s.settle gone) := by
  have hstill := still_noticeGone s gone
  obtain ⟨hreaper, hcalls⟩ := List.cons.inj hstill.threads
  have hreaped := attends_reapMany (s.noticeGone gone).world.reports.length
    (hstill.continues.reachable hr) (hstill.cleared hs)
    (by unfold ReaperFree; rw [hreaper]; exact hf) (by rw [hcalls]; exact hview)
  refine ⟨hstill.continues.trans hreaped.continues, hreaped.calls.trans hcalls, hreaped.free, ?_,
    hreaped.cleared⟩
  rw [settle, hreaped.reports, List.drop_length]

/-! ## The call that has begun -/

/-- At most one call is in flight. -/
structure Engaged (i : Nat) (s : System) : Prop where
  reachable : s.Reachable
  cleared : s.Cleared
  free : s.ReaperFree
  others : ∀ j ≠ i, ∀ c, s.calls[j]? = some c → ∃ answer, c = .over answer

theorem Engaged.only (h : Engaged i s) (ho : Only (i + 1) s t) : Engaged i t where
  reachable := ho.continues.reachable h.reachable
  cleared := ho.cleared h.reachable h.cleared
  free := by
    have hzero := ho.others 0 (by omega)
    rw [threads_zero, threads_zero, Option.some.injEq] at hzero
    unfold ReaperFree
    rw [hzero]
    exact h.free
  others j hj c hc := by
    rw [← threads_succ, ho.others (j + 1) (by omega)] at hc
    exact h.others j hj c hc

/-- With its one call at its end, a system is idle. -/
theorem Engaged.idle (h : Engaged i s) (hc : ∀ c, s.calls[i]? = some c → ∃ answer, c = .over answer) :
    s.Idle := by
  intro c hmem
  rcases List.mem_cons.mp hmem with rfl | hmem
  · exact h.free
  · obtain ⟨j, hj⟩ := List.getElem?_of_mem hmem
    by_cases hji : j = i
    · exact hc c (hji ▸ hj)
    · exact h.others j hji c hj

/-- Only a start that binds looks up names. -/
theorem own?_of_looksUp (h : looksUp c = true) : c.own? ≠ none ∧ c.view? = none := by
  cases c with
  | binding st bound left => exact ⟨by simp [Call.own?], rfl⟩
  | _ => cases h

/-- A call that looks up a name still has changes to make. -/
theorem changesLeft_of_looksUp (h : looksUp c = true) : 0 < c.changesLeft := by
  cases c with
  | binding st bound left => simp [Call.changesLeft]
  | _ => cases h

/-- A call that looks up a name has fewer changes left after that. -/
theorem follows_of_looksUp {w : World} (h : looksUp c = true) :
    c.Follows (c.advance w).2 ∧ (c.advance w).2.changesLeft < c.changesLeft := by
  cases c with
  | binding st bound left =>
    cases left with
    | nil => cases h
    | cons t left =>
      have hleft : ((Call.binding st bound (t :: left)).advance w).2.changesLeft <
          (Call.binding st bound (t :: left)).changesLeft := by
        rw [Call.advance]
        split <;> simp [Call.changesLeft, Setback.changesLeft]
      refine ⟨⟨(Call.advances_advance w _).proper, fun _ => Nat.le_of_lt hleft, ?_, ?_⟩, hleft⟩
      · intro hown
        cases hown
      · rintro ⟨hown, -⟩
        cases hown
  | _ => cases h

/-- A call that is stuck looks up a name, or it starts nothing. -/
theorem own?_of_stuck {w : World} (h : isStuck w c = true) (hn : looksUp c = false) :
    c.own? = none := by
  cases c with
  | binding st bound left =>
    cases left with
    | nil => cases h
    | cons t left =>
      rw [looksUp] at hn
      rw [isStuck, hn] at h
      cases h
  | waiting r => rfl
  | «over» answer => rfl
  | _ => cases h

/-- In a round the call does its look-up if it needs one, and goes on until it is stuck. -/
theorem round_one (h : Engaged i s) (hc : s.calls[i]? = some c) :
    Only (i + 1) s (s.round [i]) ∧ ∃ d, (s.round [i]).calls[i]? = some d ∧
      isStuck (s.round [i]).world d = true ∧ c.Follows d ∧
      (looksUp c = true → d.changesLeft < c.changesLeft) := by
  have hproper := h.reachable.proper (k := i + 1) hc
  -- the look-up comes first
  have hfirst : Only (i + 1) s (s.lookUp i) ∧ ∃ b, (s.lookUp i).calls[i]? = some b ∧
      c.Follows b ∧ (looksUp c = true → b.changesLeft < c.changesLeft) := by
    rw [lookUp, hc]
    dsimp only
    split
    · rename_i hlook
      obtain ⟨hfollows, hleft⟩ := follows_of_looksUp (w := s.world) hlook
      have hstep : Only (i + 1) s (s.step (.advance i)) := only_advance rfl hc
      have hnext : (s.step (.advance i)).calls[i]? = some (c.advance s.world).2 := by
        rw [← threads_succ, step_advance_eq (a := .advance i) (i := i + 1) rfl hc]
        exact threads_put_self (i := i + 1) hc _ _
      have hdrive := drives_proceed hnext (hfollows.proper hproper)
      obtain ⟨b, hb, -, hlater⟩ := hdrive.stops (k := i + 1) hnext
      refine ⟨hstep.trans hdrive.only, b, hb, hfollows.trans hlater, fun _ => ?_⟩
      exact Nat.lt_of_le_of_lt (hlater.left (hfollows.proper hproper)) hleft
    · rename_i hlook
      exact ⟨.refl _ s, c, hc, .refl c, fun h => absurd h hlook⟩
  obtain ⟨honly, b, hb, hfollows, hleft⟩ := hfirst
  have hclose : Only (i + 1) (s.lookUp i) (s.lookUp i).closeTasks :=
    (still_closeTasks _).only (closeTasks_reports _) _
  have hb' : (s.lookUp i).closeTasks.calls[i]? = some b := by
    rw [← threads_succ, (still_closeTasks _).threads]
    exact hb
  have hdrive := drives_proceed hb' (hfollows.proper hproper)
  obtain ⟨d, hd, hstuck, hlater⟩ := hdrive.stops (k := i + 1) hb'
  refine ⟨(honly.trans hclose).trans hdrive.only, d, hd, hstuck, hfollows.trans hlater, ?_⟩
  intro hlook
  exact Nat.lt_of_le_of_lt (hlater.left (hfollows.proper hproper)) (hleft hlook)

/-- All reports are dealt with while the call looks up a name. -/
theorem Engaged.settle_if (h : Engaged i s) (hc : s.calls[i]? = some c) (gone : List (Key × String)) :
    Continues s (if s.someLooksUp [i] then s.settle gone else s) ∧
      Engaged i (if s.someLooksUp [i] then s.settle gone else s) ∧
      (if s.someLooksUp [i] then s.settle gone else s).calls[i]? = some c := by
  split
  · rename_i hlook
    have hlook : looksUp c = true := by simpa [someLooksUp, hc] using hlook
    have hview : ∀ d ∈ s.calls, d.view? = none := by
      intro d hd
      obtain ⟨j, hj⟩ := List.getElem?_of_mem hd
      by_cases hji : j = i
      · rw [hji, hc, Option.some.injEq] at hj
        rw [← hj]
        exact (own?_of_looksUp hlook).2
      · obtain ⟨answer, rfl⟩ := h.others j hji d hj
        rfl
    have hsettles := settles h.reachable h.cleared h.free hview gone
    refine ⟨hsettles.continues, ⟨hsettles.continues.reachable h.reachable, hsettles.cleared,
      hsettles.free, ?_⟩, ?_⟩
    · rw [hsettles.calls]
      exact h.others
    · rw [hsettles.calls, hc]
  · exact ⟨.refl, h, hc⟩

/-- With every round a call that looks up names has fewer changes left. -/
theorem Engaged.rounds (h : Engaged i s) (hc : s.calls[i]? = some c)
    (hs : isStuck s.world c = true) (gone : List (Key × String)) (n : Nat) :
    Continues s (rounds [i] gone n s) ∧ Engaged i (rounds [i] gone n s) ∧
      ∃ d, (rounds [i] gone n s).calls[i]? = some d ∧
        isStuck (rounds [i] gone n s).world d = true ∧ c.Follows d ∧
        (looksUp d = true → d.changesLeft + n ≤ c.changesLeft) := by
  induction n generalizing s c with
  | zero => exact ⟨.refl, h, c, hc, hs, .refl c, fun _ => Nat.le_refl _⟩
  | succ n ih =>
    obtain ⟨hcontinues, hengaged, hc'⟩ := h.settle_if hc gone
    rw [System.rounds]
    generalize (if s.someLooksUp [i] then s.settle gone else s) = s' at hcontinues hengaged hc'
    obtain ⟨honly, b, hb, hstuck, hfollows, hleft⟩ := round_one hengaged hc'
    obtain ⟨hcontinues', hengaged', d, hd, hdstuck, hlater, hbound⟩ :=
      ih (hengaged.only honly) hb hstuck
    refine ⟨(hcontinues.trans honly.continues).trans hcontinues', hengaged', d, hd, hdstuck,
      hfollows.trans hlater, ?_⟩
    intro hlook
    cases hclook : looksUp c with
    | true =>
      have := hleft hclook
      have := hbound hlook
      omega
    | false =>
      -- a call that starts nothing never looks up a name
      have hown := (hfollows.trans hlater).own (own?_of_stuck hs hclook)
      exact absurd hown (own?_of_looksUp hlook).1

/-- A call that is stuck and looks up nothing comes to its end once it waits no longer. -/
theorem hurry_stuck (hc : s.calls[i]? = some c) (hs : isStuck s.world c = true)
    (hn : looksUp c = false) :
    Only (i + 1) s (s.hurry i) ∧ ∃ answer, (s.hurry i).calls[i]? = some (.over answer) := by
  have hown := own?_of_stuck hs hn
  cases c with
  | waiting r =>
    have hgive : Only (i + 1) s (s.step (.giveUp i)) := only_giveUp rfl hc
    have hnext : (s.step (.giveUp i)).calls[i]? = some (.ending r) := by
      rw [← threads_succ, step_giveUp_eq (a := .giveUp i) (i := i + 1) rfl hc]
      exact threads_put_self (i := i + 1) hc _ _
    have hdrive := drives_proceed hnext (by simp [Call.Proper])
    obtain ⟨answer, hover⟩ := hdrive.ends (k := i + 1) hnext ⟨rfl, by simp⟩
    rw [System.hurry, hc]
    exact ⟨hgive.trans hdrive.only, answer, hover⟩
  | «over» answer =>
    rw [System.hurry, hc]
    exact ⟨.refl _ s, answer, hc⟩
  | binding st left => cases hown
  | _ => cases hs

/-- The call that has begun comes to its end. -/
theorem Engaged.complete (h : Engaged i s.closeTasks) (hc : s.calls[i]? = some c)
    (gone : List (Key × String)) :
    Continues s (s.complete [i] gone false) ∧ Engaged i (s.complete [i] gone false) ∧
      ∃ answer, (s.complete [i] gone false).calls[i]? = some (.over answer) := by
  have hc' : s.closeTasks.calls[i]? = some c := by
    rw [← threads_succ, (still_closeTasks s).threads]
    exact hc
  have hdrive := drives_proceed hc' (h.reachable.proper (k := i + 1) hc')
  obtain ⟨b, hb, hstuck, -⟩ := hdrive.stops (k := i + 1) hc'
  have hbegin := (still_closeTasks s).continues.trans hdrive.only.continues
  -- as many rounds as there are changes left leave no look-up
  obtain ⟨hcontinues, hengaged, d, hd, hdstuck, -, hbound⟩ :=
    (h.only hdrive.only).rounds hb hstuck gone b.changesLeft
  have hlook : looksUp d = false := by
    by_contra hne
    rw [Bool.not_eq_false] at hne
    have := hbound hne
    have := changesLeft_of_looksUp hne
    omega
  obtain ⟨hhurry, answer, hover⟩ := hurry_stuck hd hdstuck hlook
  have hcomplete : s.complete [i] gone false =
      (System.rounds [i] gone b.changesLeft (s.closeTasks.proceed i)).hurry i := by
    have hleft : (s.closeTasks.proceed i).changesLeft [i] = b.changesLeft := by
      have hb' : (s.closeTasks.proceed i).calls[i]? = some b := hb
      simp [System.changesLeft, hb']
    simp [System.complete, hleft]
  rw [hcomplete]
  exact ⟨(hbegin.trans hcontinues).trans hhurry.continues, hengaged.only hhurry, answer, hover⟩

/-! ## Settled systems -/

/-- Nothing is in flight, no report waits, and all that was told to end has ended. -/
structure Settled (s : System) : Prop where
  idle : s.Idle
  reports : s.world.reports = []
  cleared : s.Cleared

theorem Idle.free (h : s.Idle) : s.ReaperFree := h _ List.mem_cons_self

/-- Who has returned announces nothing. -/
theorem Idle.view? (h : s.Idle) : ∀ c ∈ s.threads, c.view? = none := by
  intro c hc
  obtain ⟨answer, rfl⟩ := h c hc
  rfl

/-- Once all reports are dealt with, an idle system has settled. -/
theorem Settles.settled (h : Settles s t) (hs : s.Idle) : t.Settled := by
  refine ⟨?_, h.reports, h.cleared⟩
  intro c hc
  rcases List.mem_cons.mp hc with rfl | hc
  · exact h.free
  · rw [h.calls] at hc
    exact hs c (List.mem_cons_of_mem _ hc)

/-- With nothing in flight, all forwarders are active. -/
theorem Settled.active (h : s.Settled) (hr : s.Reachable) {e : Entry}
    (he : e ∈ s.world.registry.entries) : e.status = .active := by
  rcases hr.status he with hpending | hactive
  · obtain ⟨i, c, hi, startHook, hopen⟩ := hr.opens he hpending
    obtain ⟨answer, rfl⟩ := h.idle c (List.mem_cons_of_mem _ (List.mem_of_getElem? hi))
    cases hopen
  · exact hactive

/-- And all of them have their tasks. -/
theorem Settled.posts (h : s.Settled) (hr : s.Reachable) {e : Entry}
    (he : e ∈ s.world.registry.entries) {role : Role} (hrole : role ∈ Entry.roles e.tunnels) :
    (e.generation, e.key, role) ∈ s.world.posts := by
  rcases hr.staffed.complete e he (h.active hr he) with hall | ⟨r, hreport, -⟩
  · exact hall _ (Entry.mem_posts.mpr ⟨rfl, rfl, hrole⟩)
  · rw [h.reports] at hreport
    cases hreport

/-- From the one system to the other, this request was served if there is one, and no other. -/
def Serves (r? : Option Request) (s t : System) : Prop :=
  ∃ u, Still s u ∧
    match r? with
    | some r => Continues (u.step (.request r)) t
    | none => Continues u t

theorem Serves.reachable {r? : Option Request} (h : Serves r? s t) (hr : s.Reachable) :
    t.Reachable := by
  obtain ⟨u, hu, h⟩ := h
  have hur := hu.continues.reachable hr
  cases r? with
  | some r => exact h.reachable (hur.run [.request r])
  | none => exact h.reachable hur

/-- Without a request, all that settles does so. -/
theorem Settled.settle (h : s.Settled) (hr : s.Reachable) (hst : Still s t)
    (gone : List (Key × String)) : (t.settle gone).Settled ∧ Continues t (t.settle gone) := by
  have hidle := hst.idle h.idle
  have hsettles := settles (hst.continues.reachable hr) (hst.cleared h.cleared) hidle.free
    (fun c hc => hidle.view? c (List.mem_cons_of_mem _ hc)) gone
  exact ⟨hsettles.settled hidle, hsettles.continues⟩

/-- A call that begins where nothing is in flight comes to its end. -/
theorem Settled.completes (h : s.Settled) (hr : s.Reachable) (hst : Still s t) (r : Request)
    (gone : List (Key × String)) :
    let begun := (t.step (.request r)).proceed t.calls.length
    let ended := begun.complete [t.calls.length] gone false
    Continues (t.step (.request r)) ended ∧ Engaged t.calls.length ended ∧
      ∃ answer, ended.calls[t.calls.length]? = some (.over answer) := by
  intro begun ended
  have htr := hst.continues.reachable hr
  have hidle := hst.idle h.idle
  obtain ⟨w, c, hstep, hbegins⟩ := step_request t r
  have hc : (t.step (.request r)).calls[t.calls.length]? = some c := by
    rw [hstep]
    exact List.getElem?_concat_length
  have hdrive := drives_proceed hc hbegins.proper
  -- what was just told to end has not ended yet, but nothing is given up
  have hheedful : (t.step (.request r)).Heedful := by
    have hold := (hst.cleared h.cleared).heedful htr
    rw [hstep]
    cases hbegins <;> exact hold
  have hengaged : Engaged t.calls.length begun.closeTasks := by
    have honly : Only (t.calls.length + 1) begun begun.closeTasks :=
      (still_closeTasks begun).only (closeTasks_reports begun) _
    have hothers := (hdrive.only.trans honly).others
    refine ⟨(hdrive.only.trans honly).continues.reachable (htr.run [.request r]),
      (hdrive.heedful hheedful).closeTasks, ?_, ?_⟩
    · have hzero := hothers 0 (by omega)
      rw [threads_zero, threads_zero, Option.some.injEq, hstep] at hzero
      unfold ReaperFree
      rw [hzero]
      exact hidle.free
    · intro j hj d hd
      rw [← threads_succ, hothers (j + 1) (by omega), threads_succ, hstep] at hd
      -- the call that has begun stands behind all others
      rw [List.getElem?_append] at hd
      split at hd
      · exact hidle d (List.mem_cons_of_mem _ (List.mem_of_getElem? hd))
      · have hlt := (List.getElem?_eq_some_iff.mp hd).1
        rw [List.length_singleton] at hlt
        omega
  obtain ⟨b, hb, -, -⟩ := hdrive.stops (k := t.calls.length + 1) hc
  obtain ⟨hcontinues, hdone, hover⟩ := hengaged.complete hb gone
  exact ⟨hdrive.only.continues.trans hcontinues, hdone, hover⟩

/-- A call that has begun where nothing was in flight, and everything after it, settles. -/
theorem Settled.serve (h : s.Settled) (hr : s.Reachable) (hst : Still s t) (r : Request)
    (gone : List (Key × String)) :
    let begun := (t.step (.request r)).proceed t.calls.length
    let ended := (begun.complete [t.calls.length] gone false).settle gone
    ended.Settled ∧ Continues (t.step (.request r)) ended := by
  intro begun ended
  obtain ⟨hcontinues, hdone, answer, hover⟩ := h.completes hr hst r gone
  have hidle : (begun.complete [t.calls.length] gone false).Idle := by
    apply hdone.idle
    intro d hd
    rw [hover, Option.some.injEq] at hd
    exact ⟨answer, hd.symm⟩
  have hsettles := settles hdone.reachable hdone.cleared hdone.free
    (fun d hd => hidle.view? d (List.mem_cons_of_mem _ hd)) gone
  exact ⟨hsettles.settled hidle, hcontinues.trans hsettles.continues⟩

end System
end PortForward
