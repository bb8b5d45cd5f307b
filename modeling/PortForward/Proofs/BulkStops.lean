/-
# Stops in bulk

All forwarders of a pod can be stopped at once, and so can all that there are. It comes to the same
as stopping them one by one, in any order: each of them leaves, its listeners are closed, and its
hook and its event follow once; nothing is done to any other one.

* `Entry.farewell`, `Call.untold` : what is heard of forwarders that leave, and what a call has yet
  to tell of those that it has removed;
* `Telling.step` : while a stop goes on, nobody else tells anything, and nobody else leaves;
* `Scenario.Stops`, `Stops.trans` : that some forwarders were stopped, and no others;
* `Scenario.performOne_stops`, `Scenario.play_stops` : one stop, and one after the other;
* `Scenario.bulk_stops` : stops in bulk and one by one.
-/
import PortForward.Bench.Platforms
import PortForward.Proofs.Elsewhere
import PortForward.Proofs.StartErrors

namespace PortForward

/-- What is heard of a forwarder that leaves: its hook if it has one, and its last event. -/
def Entry.farewell (cause : Option Error) (e : Entry) : List Record :=
  (if e.stopHook then [.stopHook e.generation e.key cause] else []) ++ [e.lastRecord cause]

/-- What a request to stop answers, by the number of forwarders that it removes. -/
def Request.stopAnswer (n : Nat) : Request → Answer
  | .stop key => if n = 0 then .error (.notFound key) else .ok .done
  | .stopPath _ => .ok (.count n)
  | _ => .ok .done

namespace Call

variable {w w' : World} {c d : Call} {r : Request} {p : Key → Bool}

/-- What a call has yet to tell of the forwarders that it has removed. -/
def untold : Call → List Record
  | .waiting r => r.entries.flatMap (Entry.farewell r.cause)
  | .ending r => r.entries.flatMap (Entry.farewell r.cause)
  | .reporting ⟨e :: es, cause, _⟩ => e.lastRecord cause :: es.flatMap (Entry.farewell cause)
  | _ => []

/-- A call tells what it has yet to tell, and nothing else unless it starts something. -/
theorem Advances.untold (h : Advances w c w' d) (hown : c.own? = none) :
    w'.journal ++ d.untold = w.journal ++ c.untold := by
  cases h with
  | bound _ => cases hown
  | refused _ => cases hown
  | committed _ => cases hown
  | overtaken _ => cases hown
  | dropped => cases hown
  | released => cases hown
  | withdrawn => cases hown
  | evicted _ => cases hown
  | forestalled _ => cases hown
  | hooked => cases hown
  | announced => cases hown
  | @ended e es cause answer =>
    cases hhook : e.stopHook <;>
      simp [Call.untold, Entry.farewell, hhook, World.note]
  | reported => simp [Call.untold, World.note]
  | _ => rfl

/-- A request to stop removes the forwarders that it names, and waits for them if there are any. -/
theorem request_of_names (hp : r.names? = some p) (w : World) :
    request w r = ((w.remove p).2,
      ofRemoval ⟨(w.remove p).1, none, r.stopAnswer (w.remove p).1.length⟩) := by
  cases r with
  | start => cases hp
  | stop key =>
    cases hp
    rw [request]
    by_cases hnone : (w.remove (· == key)).1 = []
    · simp [ofRemoval, hnone, Request.stopAnswer]
    · simp [ofRemoval, hnone, Request.stopAnswer]
  | stopPath path => cases hp; rfl
  | stopAll => cases hp; rfl

/-- What a stop has to tell and what it is going to answer, once it has removed something. -/
theorem ofRemoval_promise (r : Removal) :
    (ofRemoval r).own? = none ∧ (ofRemoval r).promise? = some r.answer ∧
      (ofRemoval r).untold = r.entries.flatMap (Entry.farewell r.cause) := by
  unfold ofRemoval
  split
  · rename_i hnone
    rw [hnone]
    exact ⟨rfl, rfl, rfl⟩
  · exact ⟨rfl, rfl, rfl⟩

end Call

/-- The list of the forwarders of some keys. -/
theorem Registry.list_filter (r : Registry) (p : Key → Bool) :
    r.list.filter (fun v => p v.key) = (r.entries.filter fun e => p e.key).map Entry.view :=
  List.filter_map

namespace World

variable {w : World} {p : Key → Bool} {e : Entry}

/-- The generations of the forwarders whose keys are named. -/
def named (w : World) (p : Key → Bool) (g : Nat) : Bool :=
  w.registry.entries.any fun e => p e.key && e.generation == g

/-- Of those who are registered, exactly those are meant whose keys are named. -/
theorem named_of_mem (hs : w.registry.Sound) (he : e ∈ w.registry.entries) (p : Key → Bool) :
    w.named p e.generation = p e.key := by
  rw [Bool.eq_iff_iff, named, List.any_eq_true]
  constructor
  · rintro ⟨d, hd, hmatch⟩
    rw [Bool.and_eq_true, beq_iff_eq] at hmatch
    rw [← hs.eq_of_generation hd he hmatch.2]
    exact hmatch.1
  · exact fun hp => ⟨e, he, by simp [hp]⟩

end World

namespace System

variable {G : Nat → Bool} {s t : System} {a : Action} {i : Nat} {gone : List (Key × String)}
variable {journal : List Record} {answer : Answer} {r : Request} {p : Key → Bool}

/-! ## One stop among what runs already -/

/-- A call that removed these forwarders goes on: with what it has yet to tell, the journal will be
this one, and this is going to be its answer. None of them is registered, and nobody else leaves. -/
structure Telling (G : Nat → Bool) (gone : List (Key × String)) (i : Nat) (journal : List Record)
    (answer : Answer) (s : System) : Prop where
  sheltered : s.Sheltered G gone
  absent : ∀ e ∈ s.world.registry.entries, G e.generation = false
  free : s.ReaperFree
  call : ∃ c, s.calls[i]? = some c ∧ c.own? = none ∧ c.promise? = some answer ∧
    s.world.journal ++ c.untold = journal

namespace Telling

/-- What is left of the reaper's work is of those who have left. -/
theorem reap (h : Telling G gone i journal answer s) (hr : s.Reachable) :
    (s.step .reap).ReaperFree ∧ (s.step .reap).calls = s.calls ∧
      (s.step .reap).world.journal = s.world.journal := by
  by_cases htakes : ∃ q, TakesReport q s .reap
  · obtain ⟨q, hq⟩ := htakes
    have hgone : ∀ x ∈ s.world.registry.entries, x.generation ≠ q.generation := by
      rcases h.sheltered.reports q hq.mem with htold | hG
      · exact (hr.staffed.told _ htold).2
      · intro x hx heq
        rw [← heq, h.absent x hx] at hG
        cases hG
    rw [hq.stale hgone]
    exact ⟨⟨_, rfl⟩, rfl, rfl⟩
  · rw [step_reap_idle htakes]
    exact ⟨h.free, rfl, rfl⟩

/-- The call goes on, or what it is going to tell and to answer is left alone. -/
theorem call_step (h : Telling G gone i journal answer s) (hr : s.Reachable) (ha : a.Due [i] gone) :
    (s.step a).ReaperFree ∧ ∃ c, (s.step a).calls[i]? = some c ∧ c.own? = none ∧
      c.promise? = some answer ∧ (s.step a).world.journal ++ c.untold = journal := by
  obtain ⟨c, hc, hown, hpromise, htold⟩ := h.call
  obtain ⟨_, hover⟩ := h.free
  have beside : (s.step a).ReaperFree ∧ (s.step a).calls = s.calls ∧
      (s.step a).world.journal = s.world.journal →
      (s.step a).ReaperFree ∧ ∃ c, (s.step a).calls[i]? = some c ∧ c.own? = none ∧
        c.promise? = some answer ∧ (s.step a).world.journal ++ c.untold = journal := by
    rintro ⟨hfree, hcalls, hjournal⟩
    exact ⟨hfree, c, hcalls ▸ hc, hown, hpromise, hjournal ▸ htold⟩
  cases ha with
  | advance hi =>
    obtain rfl := List.mem_singleton.mp hi
    have hadv := Call.advances_advance s.world c
    rw [step_advance_eq (a := .advance _) (i := _ + 1) rfl hc]
    refine ⟨⟨_, hover⟩, _, threads_put_self (i := _ + 1) hc _ _, ?_, hadv.promise? hpromise, ?_⟩
    · by_contra hne
      obtain ⟨g, hg⟩ := Option.ne_none_iff_exists'.mp hne
      rw [hadv.own? hg] at hown
      cases hown
    · rw [put_world, hadv.untold hown, htold]
  | giveUp hi =>
    obtain rfl := List.mem_singleton.mp hi
    rw [step_giveUp_eq (a := .giveUp _) (i := _ + 1) rfl hc]
    refine ⟨⟨_, hover⟩, _, threads_put_self (i := _ + 1) hc _ _, ?_⟩
    cases c <;> exact ⟨hown, hpromise, htold⟩
  | reap => exact beside (h.reap hr)
  | advanceReaper =>
    refine beside ?_
    rw [step_advance_eq (a := .advanceReaper) rfl (threads_zero s), hover]
    exact ⟨⟨_, rfl⟩, rfl, rfl⟩
  | reaperGivesUp =>
    refine beside ?_
    rw [step_giveUp_eq (a := .reaperGivesUp) rfl (threads_zero s), hover]
    exact ⟨⟨_, rfl⟩, rfl, rfl⟩
  | close u =>
    refine beside ?_
    rw [System.step]
    split <;> exact ⟨h.free, rfl, rfl⟩
  | fail hrole hlost =>
    refine beside ?_
    rw [System.step]
    split <;> exact ⟨h.free, rfl, rfl⟩

/-- What the schedule does lets the call go on, and nothing else happens. -/
theorem step (h : Telling G gone i journal answer s) (hr : s.Reachable) (ha : a.Due [i] gone) :
    Telling G gone i journal answer (s.step a) := by
  obtain ⟨hfree, hcall⟩ := h.call_step hr ha
  refine ⟨(h.sheltered.due (.refl G s.world) hr ha).1, ?_, hfree, hcall⟩
  intro e he
  rcases (move_step s a).entry hr.sound hr.single he with he | ⟨r, rfl, -⟩ | ⟨d, hd, -, rfl⟩
  · exact h.absent e he
  · cases ha
  · exact h.absent d hd

/-- Once the call is over, all is told. -/
theorem ended (h : Telling G gone i journal answer s) {answer' : Answer}
    (hc : s.calls[i]? = some (.over answer')) : answer' = answer ∧ s.world.journal = journal := by
  obtain ⟨c, hc', -, hpromise, htold⟩ := h.call
  rw [hc, Option.some.injEq] at hc'
  subst hc'
  exact ⟨Option.some.inj hpromise, (List.append_nil _).symm.trans htold⟩

end Telling

/-- What a request to stop comes to. -/
theorem step_stop (s : System) (hp : r.names? = some p) :
    s.step (.request r) = ⟨(s.world.remove p).2, s.calls ++ [.ofRemoval ⟨(s.world.remove p).1, none,
      r.stopAnswer (s.world.remove p).1.length⟩], s.reaper⟩ := by
  rw [System.step, Call.request_of_names hp]

/-- To stop some of these forwarders leaves all others sheltered. -/
theorem Sheltered.stop (h : s.Sheltered G gone) (hp : r.names? = some p)
    (hG : ∀ e ∈ s.world.registry.entries, p e.key = true → G e.generation = true) :
    (s.step (.request r)).Sheltered G gone := by
  rw [step_stop s hp]
  refine ⟨?_, ?_, ?_, ?_⟩
  · exact fun q hq => (h.reports q hq).imp_left (List.mem_append_right _)
  · intro u hu htold
    rcases List.mem_append.mp htold with htold | htold
    · obtain ⟨e, he, hg⟩ := List.mem_map.mp htold
      obtain ⟨he, hpe⟩ := Registry.mem_taken.mp he
      exact Or.inl (hg ▸ hG e he hpe)
    · exact h.tasks u hu htold
  · exact fun e he => h.targets e (List.mem_filter.mp he).1
  · intro c hc g hg
    rcases List.mem_append.mp (show c ∈ s.threads ++ [_] from hc) with hc | hc
    · exact h.threads c hc g hg
    · rw [List.mem_singleton.mp hc, (Call.ofRemoval_promise _).1] at hg
      cases hg

/-- Tasks that were given up end without a record. -/
theorem reapAborted_journal (s : System) : s.reapAborted.world.journal = s.world.journal := by
  have hall : ∀ (ts : List Task) (s : System),
      (ts.foldl (fun s u => s.step (.die u)) s).world.journal = s.world.journal := by
    intro ts
    induction ts with
    | nil => exact fun s => rfl
    | cons u ts ih =>
      intro s
      rw [List.foldl_cons, ih, System.step]
      split <;> rfl
  exact hall s.world.tasks s

/-- A stop that begins where all has settled has yet to tell of the forwarders that it names, and of
no others. -/
theorem Settled.telling (h : s.Settled) (hr : s.Reachable) (hp : r.names? = some p)
    (hgone : ∀ e ∈ s.world.registry.entries, gone.lookup e.key = none) :
    let w := s.world
    let stopped := w.registry.entries.filter fun e => p e.key
    let begun := s.reapAborted.step (.request r)
    w.Elsewhere (w.named p) begun.world ∧
      Telling (w.named p) gone s.reapAborted.calls.length
        (w.journal ++ stopped.flatMap (Entry.farewell none)) (r.stopAnswer stopped.length) begun := by
  intro w stopped begun
  have hstill := still_reapAborted s
  have hnamed : ∀ e ∈ s.reapAborted.world.registry.entries,
      p e.key = true → w.named p e.generation = true := by
    intro e he hpe
    rw [hstill.registry] at he
    rw [World.named_of_mem hr.sound he, hpe]
  obtain ⟨hsheltered, helse⟩ := (h.sheltered (G := w.named p) hr fun e he =>
    Or.inr (hgone e he)).reapAborted hr
  have hstep : begun = _ := step_stop s.reapAborted hp
  refine ⟨helse.trans ?_, hsheltered.stop hp hnamed, ?_, ?_, ?_⟩
  · rw [hstep]
    exact .remove hnamed
  · intro e he
    rw [hstep] at he
    obtain ⟨he, hpe⟩ := Registry.mem_take.mp he
    rw [hstill.registry] at he
    rw [World.named_of_mem hr.sound he, hpe]
  · rw [hstep]
    exact (hstill.idle h.idle).free
  · have hstopped : (s.reapAborted.world.remove p).1 = stopped := by
      show s.reapAborted.world.registry.entries.filter _ = _
      rw [hstill.registry]
    obtain ⟨hown, hpromise, huntold⟩ :=
      Call.ofRemoval_promise ⟨stopped, none, r.stopAnswer stopped.length⟩
    rw [hstep, hstopped]
    refine ⟨_, List.getElem?_concat_length, hown, hpromise, ?_⟩
    rw [huntold]
    show s.reapAborted.world.journal ++ _ = _
    rw [reapAborted_journal]

end System

namespace Scenario

open PortForward.System

variable {sc sc' sc'' : Scenario} {p q : Key → Bool} {o : Operation} {r : Request}

/-! ## One stop after the other -/

/-- From the one scenario to the other, the forwarders of these keys were stopped, and nothing was
done to others. -/
structure Stops (p : Key → Bool) (sc sc' : Scenario) : Prop where
  rest : sc'.AtRest
  entries : sc'.system.world.registry.entries =
    sc.system.world.registry.entries.filter fun e => !p e.key
  elsewhere : sc.system.world.Elsewhere (sc.system.world.named p) sc'.system.world
  journal : ∃ told, sc'.system.world.journal = sc.system.world.journal ++ told ∧
    told.Perm ((sc.system.world.registry.entries.filter fun e => p e.key).flatMap
      (Entry.farewell none))

/-- What callers see of both is the same: the same forwarders with the same listeners, and the same
hook calls and events in whatever order. -/
structure Concurs (sc sc' : Scenario) : Prop where
  list : sc'.system.world.registry.list = sc.system.world.registry.list
  listeners : sc'.system.world.machine.listeners = sc.system.world.machine.listeners
  journal : sc'.system.world.journal.Perm sc.system.world.journal

namespace Stops

/-- Where nothing was stopped. -/
theorem refl (h : sc.AtRest) : Stops (fun _ => false) sc sc where
  rest := h
  entries := by simp
  elsewhere := .refl _ _
  journal := ⟨[], by simp, by simp⟩

/-- Only what is registered counts. -/
theorem congr (h : Stops p sc sc')
    (hpq : ∀ e ∈ sc.system.world.registry.entries, p e.key = q e.key) :
    Stops q sc sc' where
  rest := h.rest
  entries := by
    rw [h.entries]
    exact List.filter_congr fun e he => by rw [hpq e he]
  elsewhere := by
    refine h.elsewhere.mono fun g hg => ?_
    obtain ⟨e, he, hmatch⟩ := List.any_eq_true.mp hg
    rw [hpq e he] at hmatch
    exact List.any_eq_true.mpr ⟨e, he, hmatch⟩
  journal := by
    rw [← List.filter_congr fun e he => hpq e he]
    exact h.journal

/-- First those who are meant by the one test are stopped, then those by the other. -/
theorem trans (h : Stops p sc sc') (h' : Stops q sc' sc'') :
    Stops (fun k => p k || q k) sc sc'' where
  rest := h'.rest
  entries := by
    rw [h'.entries, h.entries, List.filter_filter]
    exact List.filter_congr fun e _ => by rw [Bool.not_or, Bool.and_comm]
  elsewhere := by
    refine (h.elsewhere.mono fun g hg => ?_).trans (h'.elsewhere.mono fun g hg => ?_)
    · obtain ⟨e, he, hmatch⟩ := List.any_eq_true.mp hg
      rw [Bool.and_eq_true] at hmatch
      exact List.any_eq_true.mpr ⟨e, he, by simp [hmatch.1, hmatch.2]⟩
    · obtain ⟨e, he, hmatch⟩ := List.any_eq_true.mp hg
      rw [h.entries] at he
      rw [Bool.and_eq_true] at hmatch
      exact List.any_eq_true.mpr ⟨e, (List.mem_filter.mp he).1, by simp [hmatch.1, hmatch.2]⟩
  journal := by
    obtain ⟨told, hold, htold⟩ := h.journal
    obtain ⟨told', hold', htold'⟩ := h'.journal
    refine ⟨told ++ told', ?_, (htold.append htold').trans ?_⟩
    · rw [hold', hold, List.append_assoc]
    · -- those of the first test come before the others
      rw [← List.flatMap_append, h.entries]
      refine List.Perm.flatMap_right _ ?_
      have hsplit := List.filter_append_perm (fun e : Entry => p e.key)
        (sc.system.world.registry.entries.filter fun e => p e.key || q e.key)
      simp only [List.filter_filter] at hsplit ⊢
      refine List.Perm.trans (List.Perm.of_eq ?_) hsplit
      congr 1
      · exact List.filter_congr fun e _ => by cases p e.key <;> simp
      · exact List.filter_congr fun e _ => by cases p e.key <;> simp

/-- The listeners of all others are left, and no more. -/
theorem listeners (h : Stops p sc sc') (hr : sc.system.Reachable) :
    sc'.system.world.machine.listeners = sc.system.world.machine.listeners.filter fun l =>
      !l.owner.isOf (sc.system.world.named p) := by
  refine (h.rest.settled.elsewhere h.rest.reachable ?_ h.elsewhere).2
  intro e he
  rw [h.entries] at he
  obtain ⟨he, hpe⟩ := List.mem_filter.mp he
  rw [World.named_of_mem hr.sound he]
  simpa using hpe

/-- However the same forwarders are stopped, it comes to the same. -/
theorem concurs (h : Stops p sc sc') (h' : Stops p sc sc'') (hr : sc.system.Reachable) :
    sc'.Concurs sc'' where
  list := by rw [Registry.list, Registry.list, h.entries, h'.entries]
  listeners := by rw [h.listeners hr, h'.listeners hr]
  journal := by
    obtain ⟨told, hold, htold⟩ := h.journal
    obtain ⟨told', hold', htold'⟩ := h'.journal
    rw [hold, hold']
    exact (htold'.trans htold.symm).append_left _

end Stops

/-- An operation that stops answers for the forwarders that it names, and stops them and no others.
-/
theorem performOne_stops (h : sc.AtRest) (ho : o.request? = some r) (hp : r.names? = some p) :
    let w := sc.system.world
    let stopped := w.registry.entries.filter fun e => p e.key
    (sc.performOne o).2 = r.stopAnswer stopped.length ∧ Stops p sc (sc.performOne o).1 ∧
      (sc.performOne o).1.system.world.journal =
        w.journal ++ stopped.flatMap (Entry.farewell none) := by
  intro w stopped
  obtain ⟨helse, htelling⟩ := h.settled.telling h.reachable hp fun _ => h.there
  obtain ⟨hdone, hothers⟩ := performOne_keeps h.reachable ho
    (P := fun t => Telling (w.named p) sc.doomed sc.system.reapAborted.calls.length
      (w.journal ++ stopped.flatMap (Entry.farewell none)) (r.stopAnswer stopped.length) t ∧
        w.Elsewhere (w.named p) t.world) ⟨htelling, helse⟩ fun t a ht ha ⟨hs, helse⟩ =>
      ⟨hs.step ht ha, (hs.sheltered.due helse ht ha).2⟩
  obtain ⟨hanswer, hjournal⟩ := hdone.ended (performOne_over h.reachable h.settled ho)
  have hrest := performOne_atRest h o
  refine ⟨hanswer, ⟨hrest, ?_, hothers, _, hjournal, .refl _⟩, hjournal⟩
  rw [(hrest.settled.elsewhere hrest.reachable hdone.absent hothers).1]
  exact List.filter_congr fun e he => by rw [World.named_of_mem h.reachable.sound he]

/-- One stop after the other stops the forwarders that each of them names. -/
theorem play_stops {α : Type} (op : α → Operation) (p : α → Key → Bool)
    (hop : ∀ x, ∃ r, (op x).request? = some r ∧ r.names? = some (p x)) (xs : List α)
    (h : sc.AtRest) :
    Stops (fun k => xs.any fun x => p x k) sc (sc.play (xs.map fun x => .perform (op x))) := by
  induction xs generalizing sc with
  | nil => exact .refl h
  | cons x xs ih =>
    obtain ⟨r, ho, hp⟩ := hop x
    have hfirst := (performOne_stops h ho hp).2.1
    exact hfirst.trans (ih hfirst.rest)

/-- A forwarder that is registered can be stopped. -/
theorem stop_registered (h : sc.AtRest) {e : Entry}
    (he : e ∈ sc.system.world.registry.entries) : (sc.performOne (.stop e.key)).2 = .ok .done := by
  rw [(performOne_stops h (o := .stop e.key) rfl rfl).1]
  have hfound : (sc.system.world.registry.entries.filter fun d => d.key == e.key).length ≠ 0 := by
    have hmem : e ∈ sc.system.world.registry.entries.filter fun d => d.key == e.key :=
      List.mem_filter.mpr ⟨he, beq_self_eq_true _⟩
    exact Nat.ne_of_gt (List.length_pos_of_mem hmem)
  exact if_neg hfound

/-- Where different keys are stopped one after the other, each of them is still there. -/
theorem stops_answer (h : sc.AtRest) {before after : List Key} {key : Key}
    (hkeys : (before ++ key :: after).Nodup) {e : Entry}
    (he : e ∈ sc.system.world.registry.entries) (hk : e.key = key) :
    ((sc.play (before.map fun key => .perform (.stop key))).performOne (.stop key)).2 =
      .ok .done := by
  have hstops := play_stops .stop (fun key => (· == key)) (fun key => ⟨_, rfl, rfl⟩) before h
  obtain rfl := hk
  refine stop_registered hstops.rest ?_
  rw [hstops.entries]
  refine List.mem_filter.mpr ⟨he, ?_⟩
  have hfresh : ∀ key ∈ before, e.key ≠ key := fun key hmem heq =>
    (List.nodup_append.mp hkeys).2.2 key hmem e.key List.mem_cons_self heq.symm
  rw [Bool.not_eq_true', List.any_eq_false]
  exact fun key hmem heq => hfresh key hmem (beq_iff_eq.mp heq)

/-! ## Stops in bulk -/

section

variable (h : sc.AtRest) {path : String} {keys : List Key}
variable (hkeys : keys.Perm
  ((sc.system.world.registry.list.filter fun v => v.key.path == path).map (·.key)))

include h hkeys

/-- The keys of all forwarders of a pod, each once. -/
theorem keys_of_path : keys.Nodup ∧ ∀ key, key ∈ keys ↔
    ∃ e ∈ sc.system.world.registry.entries, e.key.path = path ∧ e.key = key := by
  rw [sc.system.world.registry.list_filter (·.path == path), List.map_map] at hkeys
  constructor
  · refine hkeys.nodup_iff.mpr (List.pairwise_map.mpr ?_)
    exact (h.reachable.sound.apart.sublist List.filter_sublist).imp fun hapart => hapart.key
  · intro key
    rw [hkeys.mem_iff, List.mem_map]
    simp only [List.mem_filter, beq_iff_eq, and_assoc]
    exact .rfl

/-- To stop the forwarders of a pod one by one stops all of them, and no others. -/
theorem stops_singly :
    Stops (·.path == path) sc (sc.play (keys.map fun key => .perform (.stop key))) := by
  refine (play_stops .stop (fun key => (· == key)) (fun key => ⟨_, rfl, rfl⟩) keys h).congr ?_
  intro e he
  obtain ⟨-, hmem⟩ := keys_of_path h hkeys
  rw [Bool.eq_iff_iff, beq_iff_eq, List.any_eq_true]
  constructor
  · rintro ⟨key, hkey, heq⟩
    obtain ⟨d, -, hpath, hd⟩ := (hmem key).mp hkey
    rw [beq_iff_eq.mp heq, ← hd]
    exact hpath
  · exact fun hpath => ⟨e.key, (hmem e.key).mpr ⟨e, he, hpath, rfl⟩, beq_self_eq_true _⟩

end

/-- To stop the paths of all forwarders one by one stops everything. -/
theorem stops_severally (h : sc.AtRest) {paths : List String}
    (hpaths : ∀ v ∈ sc.system.world.registry.list, v.key.path ∈ paths) :
    Stops (fun _ => true) sc (sc.play (paths.map fun path => .perform (.stopPath path))) := by
  refine (play_stops .stopPath (fun path => (·.path == path)) (fun path => ⟨_, rfl, rfl⟩)
    paths h).congr ?_
  intro e he
  exact List.any_eq_true.mpr ⟨e.key.path, hpaths e.view (List.mem_map_of_mem he),
    beq_self_eq_true _⟩

/-- Where all is at rest, a stop of a path answers how many forwarders there are of its pod. It
comes to the same as stopping these one by one in any order, each of which succeeds: all others are
left as they are, with their listeners, and each of those that are stopped is told of once, without a
cause; no container of the pod is forwarded any more. A stop of everything comes to the same as to
stop all paths in any order, and leaves nothing. -/
theorem bulk_stops (h : sc.AtRest) (path : String) (keys : List Key) (paths : List String)
    (hkeys : keys.Perm
      ((sc.system.world.registry.list.filter fun v => v.key.path == path).map (·.key)))
    (hpaths : ∀ v ∈ sc.system.world.registry.list, v.key.path ∈ paths) :
    let w := sc.system.world
    let bulk := sc.performOne (.stopPath path)
    let singly := sc.play (keys.map fun key => .perform (.stop key))
    let all := sc.performOne .stopAll
    let severally := sc.play (paths.map fun path => .perform (.stopPath path))
    (bulk.2 = .ok (.count (w.registry.list.filter fun v => v.key.path == path).length) ∧
      bulk.1.Concurs singly ∧
      (∀ before key after, keys = before ++ key :: after →
        ((sc.play (before.map fun key => .perform (.stop key))).performOne (.stop key)).2 =
          .ok .done) ∧
      bulk.1.system.world.registry.list = w.registry.list.filter (fun v => v.key.path != path) ∧
      bulk.1.system.world.machine.listeners = w.machine.listeners.filter (fun l =>
        !l.owner.isOf (w.named (·.path == path))) ∧
      bulk.1.system.world.journal = w.journal ++
        (w.registry.entries.filter fun e => e.key.path == path).flatMap (Entry.farewell none) ∧
      bulk.1.system.world.registry.isPathForwarded path = false) ∧
    all.2 = .ok .done ∧ all.1.Concurs severally ∧ all.1.system.world.registry.count = 0 := by
  intro w bulk singly all severally
  have hlisted := w.registry.list_filter (·.path == path)
  have hothers := w.registry.list_filter (·.path != path)
  obtain ⟨hanswer, hbulk, hjournal⟩ := performOne_stops h (o := .stopPath path) rfl rfl
  obtain ⟨hdone, hall, -⟩ := performOne_stops h (o := .stopAll) rfl rfl
  have hsingly := stops_singly h hkeys
  have hseverally := stops_severally h hpaths
  obtain ⟨hnodup, hmem⟩ := keys_of_path h hkeys
  refine ⟨⟨?_, hbulk.concurs hsingly h.reachable, ?_, ?_, ?_, ?_, ?_⟩, hdone,
    hall.concurs hseverally h.reachable, ?_⟩
  · rw [hanswer, hlisted, List.length_map]
    rfl
  · rintro before key after hsplit
    obtain ⟨e, he, -, hk⟩ := (hmem key).mp (by simp [hsplit])
    exact stops_answer h (hsplit ▸ hnodup) he hk
  · rw [Registry.list, hbulk.entries]
    exact hothers.symm
  · rw [hbulk.listeners h.reachable]
  · rw [hjournal]
  · rw [Registry.isPathForwarded, hbulk.entries]
    simp
  · rw [Registry.count, hall.entries]
    simp

/-- Of three forwarders, two of them of one pod, whose path is how that of the third begins. -/
theorem bulk_stops_two_of_three :
    let sc := (unused 0 .loopbackOnly 1000 false).play
      [.perform (.start ⟨"default/web", "app"⟩ [⟨"127.0.0.1", 8080, 80⟩] {}),
        .perform (.start ⟨"default/web", "log"⟩ [⟨"127.0.0.1", 8081, 80⟩, ⟨"0.0.0.0", 9090, 90⟩]
          { onStop := false }),
        .perform (.start ⟨"default/web2", "app"⟩ [⟨"localhost", 8082, 80⟩] {})]
    let keys : List Key := [⟨"default/web", "log"⟩, ⟨"default/web", "app"⟩]
    let paths := ["default/web2", "default/web"]
    sc.AtRest ∧
      keys.Perm
        ((sc.system.world.registry.list.filter fun v => v.key.path == "default/web").map (·.key)) ∧
      (∀ v ∈ sc.system.world.registry.list, v.key.path ∈ paths) ∧
      (sc.performOne (.stopPath "default/web")).2 = .ok (.count 2) ∧
      (sc.performOne .stopAll).1.Concurs
        (sc.play (paths.map fun path => .perform (.stopPath path))) := by
  intro sc keys paths
  have hrest : sc.AtRest := play_atRest 0 .loopbackOnly 1000 false _
  have hlist : sc.system.world.registry.list =
      [⟨1, ⟨"default/web", "app"⟩, [⟨"127.0.0.1", 8080, 80⟩], .active⟩,
        ⟨2, ⟨"default/web", "log"⟩, [⟨"127.0.0.1", 8081, 80⟩, ⟨"0.0.0.0", 9090, 90⟩], .active⟩,
        ⟨3, ⟨"default/web2", "app"⟩, [⟨"localhost", 8082, 80⟩], .active⟩] := by decide +kernel
  have hkeys : keys.Perm ((sc.system.world.registry.list.filter fun v =>
      v.key.path == "default/web").map (·.key)) := by
    rw [hlist]
    exact .swap _ _ []
  have hpaths : ∀ v ∈ sc.system.world.registry.list, v.key.path ∈ paths := by
    rw [hlist]
    decide
  obtain ⟨⟨hanswer, -⟩, -, hconcurs, -⟩ :=
    bulk_stops hrest "default/web" keys paths hkeys hpaths
  refine ⟨hrest, hkeys, hpaths, ?_, hconcurs⟩
  rw [hanswer, hlist]
  rfl

end Scenario
end PortForward
