/-
# What a schedule does

Between the first change of a call and its answer the schedule makes changes of its own: calls and
the reaper go on, tasks end that were told to, and the watches of targets that are gone fail. It
begins no call, and no other program listens or stops to listen.

* `Action.Due`, `Scheduled` : such changes, and series of them;
* `Action.isOwn`, `Proceeds` : changes by anything that runs already, and series of them;
* `scheduled_settle`, `scheduled_complete` : what settles and what completes is such a series;
* `Scenario.scheduled_performOne` : what an operation does besides its request;
* `Scenario.performOne_over` : what it answers on a settled registry.
-/
import PortForward.Proofs.Endings
import PortForward.Proofs.Scripts

namespace PortForward

/-- A change by what runs already: a call, the reaper or a task. -/
def Action.isOwn : Action → Bool
  | .request _ => false
  | .hold _ _ => false
  | .letGo _ _ => false
  | .stall _ _ => false
  | _ => true

/-- A change that the schedule makes, of the calls that it attends to and of targets that are gone:
one of these calls or the reaper goes on or waits no longer, a task ends that was told to, or the
watch of one of these targets fails. -/
inductive Action.Due (calls : List Nat) (gone : List (Key × String)) : Action → Prop
  | advance {i : Nat} (h : i ∈ calls) : Due calls gone (.advance i)
  | giveUp {i : Nat} (h : i ∈ calls) : Due calls gone (.giveUp i)
  | reap : Due calls gone .reap
  | advanceReaper : Due calls gone .advanceReaper
  | reaperGivesUp : Due calls gone .reaperGivesUp
  | close (t : Task) : Due calls gone (.close t)
  | fail {t : Task} {reason : String} (hrole : t.role = .monitor)
      (hgone : gone.lookup t.key = some reason) : Due calls gone (.fail t reason)

theorem Action.Due.isOwn {calls : List Nat} {gone : List (Key × String)} {a : Action}
    (h : a.Due calls gone) : a.isOwn = true := by
  cases h <;> rfl

namespace System

variable {s t u : System} {a : Action} {i n : Nat} {calls : List Nat} {gone : List (Key × String)}

/-! ## Series of changes -/

/-- From the one system to the other, only what ran already made changes. -/
inductive Proceeds (s : System) : System → Prop
  | refl : Proceeds s s
  | step {t : System} {a : Action} (h : Proceeds s t) (ha : a.isOwn = true) : Proceeds s (t.step a)

/-- What every change keeps, a series of them does. -/
theorem Proceeds.keeps {P : System → Prop} (h : Proceeds s t)
    (keep : ∀ t a, Proceeds s t → a.isOwn = true → P t → P (t.step a)) (hs : P s) : P t := by
  induction h with
  | refl => exact hs
  | @step t a h ha ih => exact keep t a h ha ih

theorem Proceeds.reachable (h : Proceeds s t) (hr : s.Reachable) : t.Reachable :=
  h.keeps (P := Reachable) (fun _ a _ _ ht => ht.run [a]) hr

/-- What a call has answered stays its answer. -/
theorem Proceeds.over (h : Proceeds s t) {answer : Answer}
    (hs : s.calls[i]? = some (.over answer)) : t.calls[i]? = some (.over answer) :=
  h.keeps (P := fun t => t.calls[i]? = some (.over answer)) (fun _ a _ _ ht => over_run ht [a]) hs

/-- From the one system to the other, the schedule made its changes. -/
inductive Scheduled (calls : List Nat) (gone : List (Key × String)) (s : System) : System → Prop
  | refl : Scheduled calls gone s s
  | step {t : System} {a : Action} (h : Scheduled calls gone s t) (ha : a.Due calls gone) :
      Scheduled calls gone s (t.step a)

namespace Scheduled

theorem trans (h : Scheduled calls gone s t) (h' : Scheduled calls gone t u) :
    Scheduled calls gone s u := by
  induction h' with
  | refl => exact h
  | step _ ha ih => exact ih.step ha

theorem proceeds (h : Scheduled calls gone s t) : Proceeds s t := by
  induction h with
  | refl => exact .refl
  | step _ ha ih => exact ih.step ha.isOwn

/-- What every change keeps, a series of them does. -/
theorem keeps {P : System → Prop} (h : Scheduled calls gone s t)
    (keep : ∀ t a, Scheduled calls gone s t → a.Due calls gone → P t → P (t.step a)) (hs : P s) :
    P t := by
  induction h with
  | refl => exact hs
  | @step t a h ha ih => exact keep t a h ha ih

theorem reachable (h : Scheduled calls gone s t) (hr : s.Reachable) : t.Reachable :=
  h.proceeds.reachable hr

end Scheduled

theorem scheduled_step (ha : a.Due calls gone) : Scheduled calls gone s (s.step a) := .step .refl ha

theorem scheduled_foldl {β : Type} {f : System → β → System} {bs : List β}
    (hf : ∀ s, ∀ b ∈ bs, Scheduled calls gone s (f s b)) (s : System) :
    Scheduled calls gone s (bs.foldl f s) := by
  induction bs generalizing s with
  | nil => exact .refl
  | cons b bs ih =>
    exact (hf s b List.mem_cons_self).trans
      (ih (fun s c hc => hf s c (List.mem_cons_of_mem b hc)) (f s b))

/-! ## The schedule -/

theorem scheduled_proceedFor (hi : i ∈ calls) (n : Nat) (s : System) :
    Scheduled calls gone s (proceedFor i n s) := by
  induction n generalizing s with
  | zero => exact .refl
  | succ n ih =>
    rw [proceedFor]
    split
    · split
      · exact .refl
      · exact (scheduled_step (.advance hi)).trans (ih _)
    · exact .refl

theorem scheduled_proceed (hi : i ∈ calls) (s : System) :
    Scheduled calls gone s (s.proceed i) := by
  rw [proceed]
  split
  · exact scheduled_proceedFor hi _ s
  · exact .refl

theorem scheduled_closeTasks (s : System) : Scheduled calls gone s s.closeTasks :=
  scheduled_foldl (fun _ t _ => scheduled_step (.close t)) s

theorem scheduled_lookUp (hi : i ∈ calls) (s : System) : Scheduled calls gone s (s.lookUp i) := by
  rw [lookUp]
  split
  · split
    · exact (scheduled_step (.advance hi)).trans (scheduled_proceed hi _)
    · exact .refl
  · exact .refl

theorem scheduled_hurry (hi : i ∈ calls) (s : System) : Scheduled calls gone s (s.hurry i) := by
  rw [hurry]
  split
  · exact (scheduled_step (.giveUp hi)).trans (scheduled_proceed hi _)
  · exact .refl

theorem scheduled_reaperProceedsFor (n : Nat) (s : System) :
    Scheduled calls gone s (reaperProceedsFor n s) := by
  induction n generalizing s with
  | zero => exact .refl
  | succ n ih =>
    rw [reaperProceedsFor]
    split
    · exact .refl
    · exact (scheduled_step .advanceReaper).trans (ih _)

theorem scheduled_reapOne (s : System) : Scheduled calls gone s s.reapOne := by
  have htake : Scheduled calls gone s (s.step .reap).closeTasks :=
    (scheduled_step .reap).trans (scheduled_closeTasks _)
  rw [reapOne]
  exact ((htake.trans (scheduled_reaperProceedsFor _ _)).trans (scheduled_step .reaperGivesUp)).trans
    (scheduled_reaperProceedsFor _ _)

theorem scheduled_reapMany (n : Nat) (s : System) : Scheduled calls gone s (reapMany n s) := by
  induction n generalizing s with
  | zero => exact .refl
  | succ n ih => exact (scheduled_reapOne s).trans (ih _)

theorem scheduled_noticeGone (s : System) (gone : List (Key × String)) :
    Scheduled calls gone s (s.noticeGone gone) := by
  refine scheduled_foldl (fun s t _ => ?_) s
  unfold noticeOne
  split
  · rename_i reason hgone
    split
    · rename_i hwatch
      exact scheduled_step (.fail hwatch.1 hgone)
    · exact .refl
  · exact .refl

/-- What settles makes no changes but those of the schedule. -/
theorem scheduled_settle (s : System) (gone : List (Key × String)) :
    Scheduled calls gone s (s.settle gone) :=
  (scheduled_noticeGone s gone).trans (scheduled_reapMany _ _)

theorem scheduled_round (s : System) (calls : List Nat) : Scheduled calls gone s (s.round calls) :=
  scheduled_foldl (fun s _ hi => ((scheduled_lookUp hi s).trans (scheduled_closeTasks _)).trans
    (scheduled_proceed hi _)) s

theorem scheduled_rounds (calls : List Nat) (gone : List (Key × String)) (n : Nat) (s : System) :
    Scheduled calls gone s (rounds calls gone n s) := by
  induction n generalizing s with
  | zero => exact .refl
  | succ n ih =>
    have hsettle : Scheduled calls gone s (if s.someLooksUp calls then s.settle gone else s) := by
      split
      · exact scheduled_settle s gone
      · exact .refl
    exact (hsettle.trans (scheduled_round _ calls)).trans (ih _)

/-- What completes calls makes no changes but those of the schedule. -/
theorem scheduled_complete (s : System) (calls : List Nat) (gone : List (Key × String))
    (impatient : Bool) : Scheduled calls gone s (s.complete calls gone impatient) := by
  have hproceed : ∀ s, Scheduled calls gone s (calls.foldl proceed s) :=
    scheduled_foldl fun s _ hi => scheduled_proceed hi s
  have hhurry : ∀ s, Scheduled calls gone s (calls.foldl hurry s) :=
    scheduled_foldl fun s _ hi => scheduled_hurry hi s
  have hbegin : Scheduled calls gone s (calls.foldl proceed s.closeTasks) :=
    (scheduled_closeTasks s).trans (hproceed _)
  have hhurried : Scheduled calls gone s (if impatient then
      calls.foldl hurry (calls.foldl proceed s.closeTasks)
      else calls.foldl proceed s.closeTasks) := by
    split
    · exact hbegin.trans (hhurry _)
    · exact hbegin
  exact (hhurried.trans (scheduled_rounds calls gone _ _)).trans (hhurry _)

end System

namespace Scenario

open PortForward.System

variable {sc : Scenario} {o : Operation} {r : Request}

/-- What an operation does and answers whose request begins a call. -/
theorem performOne_eq (hbegin : begin sc.system.reapAborted o = beginCall sc.system.reapAborted r) :
    let u := sc.system.reapAborted
    let gone := (killed? u o).toList ++ sc.doomed
    let done := ((u.step (.request r)).proceed u.calls.length).complete [u.calls.length] gone false
    (sc.performOne o).1.system = done.settle gone ∧
      (sc.performOne o).2 = ((done.calls[u.calls.length]?).bind Call.answer?).getD (.ok .done) := by
  have hsystem := performOne_system sc o
  dsimp only at hsystem ⊢
  rw [hsystem, hbegin]
  refine ⟨rfl, ?_⟩
  simp only [performOne, perform, beginAll, hbegin, beginCall, List.append_nil, Nat.not_lt_zero,
    decide_false, List.filterMap_cons, List.filterMap_nil, Begun.call?, List.map_cons, List.map_nil,
    List.headD_cons, Begun.answer, reverse_toList]

/-- An operation that makes a request begins a call with it. -/
theorem begin_of_request (s : System) (ho : o.request? = some r) : begin s o = beginCall s r := by
  rcases begin_eq s o with ⟨r', hr', hbegin⟩ | ⟨hnone, -⟩
  · rw [ho, Option.some.injEq] at hr'
    rw [hr']
    exact hbegin
  · rw [ho] at hnone
    cases hnone

/-- An operation makes its request, and then what the schedule does. -/
theorem scheduled_performOne (ho : o.request? = some r) :
    let u := sc.system.reapAborted
    Scheduled [u.calls.length] ((killed? u o).toList ++ sc.doomed) (u.step (.request r))
      (sc.performOne o).1.system := by
  intro u
  rw [(performOne_eq (begin_of_request u ho)).1]
  exact ((scheduled_proceed List.mem_cons_self _).trans (scheduled_complete _ _ _ false)).trans
    (scheduled_settle _ _)

/-- What the request of an operation brings about and the schedule keeps, holds in the end. -/
theorem performOne_keeps (hr : sc.system.Reachable) (ho : o.request? = some r) {P : System → Prop}
    (hbegin : P (sc.system.reapAborted.step (.request r)))
    (keep : ∀ (t : System) (a : Action), t.Reachable →
      a.Due [sc.system.reapAborted.calls.length] sc.doomed → P t → P (t.step a)) :
    P (sc.performOne o).1.system := by
  have hkilled : killed? sc.system.reapAborted o = none := by
    cases o with
    | kill => cases ho
    | _ => rfl
  have hscheduled : Scheduled _ _ _ (sc.performOne o).1.system := scheduled_performOne ho
  rw [hkilled] at hscheduled
  have hbegun := ((still_reapAborted sc.system).continues.reachable hr).run [.request r]
  exact hscheduled.keeps (fun t a ht ha hs => keep t a (ht.reachable hbegun) ha hs) hbegin

/-- On a settled registry, the call of an operation is over, and its answer is that of the operation.
-/
theorem performOne_over (hr : sc.system.Reachable) (h : sc.system.Settled)
    (ho : o.request? = some r) :
    (sc.performOne o).1.system.calls[sc.system.reapAborted.calls.length]? =
      some (.over (sc.performOne o).2) := by
  obtain ⟨hsystem, hanswer⟩ := performOne_eq (begin_of_request sc.system.reapAborted ho)
  generalize (killed? sc.system.reapAborted o).toList ++ sc.doomed = gone at hsystem hanswer
  obtain ⟨-, -, answer, hover⟩ := h.completes hr (still_reapAborted sc.system) r gone
  have hsame : (sc.performOne o).2 = answer := by
    rw [hanswer, hover, Option.bind_some, Call.answer?, Option.getD_some]
  have hsettle (s : System) : Scheduled [sc.system.reapAborted.calls.length] gone s (s.settle gone) :=
    scheduled_settle s gone
  rw [hsystem, hsame]
  exact (hsettle _).proceeds.over hover

/-- An operation on a settled registry makes its request and no other change from outside; its
answer is that of the call. -/
theorem performOne_proceeds (hr : sc.system.Reachable) (h : sc.system.Settled)
    (ho : o.request? = some r) :
    let u := sc.system.reapAborted
    let t := (sc.performOne o).1.system
    Proceeds (u.step (.request r)) t ∧
      t.calls[u.calls.length]? = some (.over (sc.performOne o).2) :=
  ⟨(scheduled_performOne ho).proceeds, performOne_over hr h ho⟩

end Scenario
end PortForward
