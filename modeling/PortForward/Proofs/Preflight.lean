/-
# The check before a start

Before a start, a caller may have its batch checked: each tunnel is listened for, and closed again
before the next one. The start itself keeps all listeners that it has opened. Where it is admitted,
no tunnel of its batch clashes with an earlier one; so for IPv4 addresses the listeners that it keeps
are in nobody's way, and both come to the same.

* `Machine.available_listenAll` : a batch without clashes can be bound if the check says so;
* `Attempt.step`, `Scenario.start_answer` : a start that nobody disturbs binds its batch in order, and
  its answer is what comes of that;
* `Scenario.check_foretells_start` : what the check says of a start.
-/
import PortForward.Bench.Platforms
import PortForward.Proofs.Conflicts
import PortForward.Proofs.Departures
import PortForward.Proofs.Reports
import PortForward.Proofs.Routing

namespace PortForward

/-! ## Batches on a machine -/

namespace Machine

variable {m m' : Machine} {g : Nat} {t u : Tunnel} {x : Net.IpAddress} {batch : List Tunnel}

/-- The first tunnel of a batch that cannot be listened for, and why. -/
def FirstUnbindable (m : Machine) (batch : List Tunnel) (t : Tunnel) (cause : IoError) : Prop :=
  ∃ before after, batch = before ++ t :: after ∧
    (∀ u ∈ before, ∃ x, m.probe u.address u.localPort = .ok x) ∧
    m.probe t.address t.localPort = .error cause

/-- The first tunnel that cannot be listened for is the next one, or one of those after it. -/
theorem FirstUnbindable.cons {cause : IoError} (h : m.FirstUnbindable batch u cause)
    (ht : m.probe t.address t.localPort = .ok x) : m.FirstUnbindable (t :: batch) u cause := by
  obtain ⟨before, after, rfl, hbefore, hu⟩ := h
  refine ⟨t :: before, after, rfl, ?_, hu⟩
  intro v hv
  rcases List.mem_cons.mp hv with rfl | hv
  · exact ⟨x, ht⟩
  · exact hbefore v hv

/-- A listener for a tunnel is in the way only of those that clash with it. -/
theorem probe_withTunnel (ht : t.IsPlain) (hu : u.IsPlain) (hclash : t.clashes u = false)
    (hx : m.probe t.address t.localPort = .ok x) :
    (m.withTunnel g t x).probe u.address u.localPort = m.probe u.address u.localPort := by
  obtain ⟨y, hy⟩ := ht.host
  obtain ⟨z, hz⟩ := hu.host
  -- the new listener is at the address of its tunnel
  obtain rfl : x = .v4 y := by
    unfold probe at hx
    rw [Platform.resolve_of_plain hy] at hx
    dsimp only at hx
    split at hx
    · cases hx
    · split at hx
      · cases hx
      · exact (Except.ok.inj hx).symm
  have hfree : (m.withTunnel g t (.v4 y)).inUse (.v4 z) u.localPort =
      m.inUse (.v4 z) u.localPort := by
    unfold inUse withTunnel
    rw [List.any_append, List.any_cons, List.any_nil,
      Tunnel.clashes_eq_blocks hy hz hu.port rfl rfl, hclash, Bool.or_false, Bool.or_false]
  have hplatform : (m.withTunnel g t (.v4 y)).platform = m.platform := rfl
  unfold probe
  rw [hplatform, Platform.resolve_of_plain hz]
  dsimp only
  rw [hfree]

/-- Where no tunnel of a batch clashes with an earlier one, the batch can be bound on a machine that
is as free for it as another one exactly if the check passes there; otherwise both stop at the same
tunnel, for the same reason. -/
theorem available_listenAll (m' : Machine) (hplain : ∀ t ∈ batch, t.IsPlain)
    (hapart : batch.Pairwise fun t u => t.clashes u = false)
    (hsame : ∀ t ∈ batch, m'.probe t.address t.localPort = m.probe t.address t.localPort) :
    (m.available batch = .ok () ∧ ∃ k, m'.listenAll g batch = .ok k) ∨
      ∃ t cause, m.FirstUnbindable batch t cause ∧ m.available batch = .error (.bind t cause) ∧
        m'.listenAll g batch = .error (t, cause) := by
  induction batch generalizing m' with
  | nil => exact Or.inl ⟨rfl, m', rfl⟩
  | cons t ts ih =>
    obtain ⟨hclear, hapart⟩ := List.pairwise_cons.mp hapart
    have ht := hplain t List.mem_cons_self
    have hprobe := hsame t List.mem_cons_self
    rw [available_cons, listenAll, listen]
    cases hfirst : m.probe t.address t.localPort with
    | error cause =>
      rw [hprobe, hfirst]
      refine Or.inr ⟨t, cause, ⟨[], ts, rfl, ?_, hfirst⟩, rfl, rfl⟩
      exact fun u hu => absurd hu List.not_mem_nil
    | ok x =>
      have hnext : ∀ u ∈ ts, (m'.withTunnel g t x).probe u.address u.localPort =
          m.probe u.address u.localPort := by
        intro u hu
        have hmem : u ∈ t :: ts := List.mem_cons_of_mem t hu
        rw [probe_withTunnel ht (hplain u hmem) (hclear u hu) (hprobe.trans hfirst)]
        exact hsame u hmem
      rw [hprobe, hfirst]
      rcases ih _ (fun u hu => hplain u (List.mem_cons_of_mem t hu)) hapart hnext with
        hbound | ⟨u, cause, hfirstBad, hchecked, hlisten⟩
      · exact Or.inl hbound
      · exact Or.inr ⟨u, cause, hfirstBad.cons hfirst, hchecked, hlisten⟩

end Machine

/-- A task that watches a target has no listener to close. -/
theorem World.endTask_watch {w : World} {u : Task} (h : u.role = .monitor) :
    (w.endTask u).machine = w.machine := by
  have hkept : w.machine.listeners.filter (fun l => !heldBy u l.owner) = w.machine.listeners := by
    refine List.filter_eq_self.mpr fun l _ => ?_
    simp [heldBy, h]
  show ({ w.machine with listeners := w.machine.listeners.filter _ } : Machine) = _
  rw [hkept]

namespace System

variable {s t : System} {a : Action} {m : Machine} {r : Registry} {u : Task}
variable {gone : List (Key × String)} {key : Key} {batch : List Tunnel} {i : Nat}

/-! ## A system that rests -/

/-- With this machine and this registry, the reaper has nothing to do for those who are registered:
of those who were told to end only watches run, and all reports are theirs. -/
structure Resting (m : Machine) (r : Registry) (s : System) : Prop where
  machine : s.world.machine = m
  registry : s.world.registry = r
  reaper : s.ReaperFree
  watches : ∀ t ∈ s.world.tasks, t.generation ∈ s.world.cancelled → t.role = .monitor
  reports : ∀ q ∈ s.world.reports, q.generation ∈ s.world.cancelled

/-- A settled system rests. -/
theorem Settled.resting (h : s.Settled) (hr : s.Reachable) :
    s.Resting s.world.machine s.world.registry := by
  refine ⟨rfl, rfl, h.idle.free, ?_, ?_⟩
  · intro t ht htold
    exact hr.staffed.stalled t ht (h.cleared t ht htold)
  · intro q hq
    rw [h.reports] at hq
    cases hq

namespace Resting

/-- The end of a task that was told to end changes nothing for those who are registered. -/
theorem endTask (h : Resting m r s) (hu : u ∈ s.world.tasks)
    (htold : u.generation ∈ s.world.cancelled) :
    Resting m r (s.withWorld (·.endTask u)) := by
  refine ⟨?_, h.registry, h.reaper, ?_, h.reports⟩
  · show (s.world.endTask u).machine = m
    rw [World.endTask_watch (h.watches u hu htold), h.machine]
  · intro t ht
    exact h.watches t (World.mem_tasks_endTask.mp ht).1

/-- Neither does its failure. -/
theorem failTask (h : Resting m r s) (hu : u ∈ s.world.tasks)
    (htold : u.generation ∈ s.world.cancelled) (reason : String) :
    Resting m r (s.withWorld (·.failTask u reason)) := by
  have hended := h.endTask hu htold
  refine ⟨hended.machine, hended.registry, hended.reaper, hended.watches, ?_⟩
  intro q hq
  rcases List.mem_append.mp hq with hq | hq
  · exact h.reports q hq
  · rw [List.mem_singleton.mp hq]
    exact htold

/-- The reaper takes reports of those who have left, and drops them. -/
theorem reap (h : Resting m r s) (hr : s.Reachable) :
    Resting m r (s.step .reap) ∧ (s.step .reap).calls = s.calls := by
  by_cases htakes : ∃ q, TakesReport q s .reap
  · obtain ⟨q, hq⟩ := htakes
    rw [hq.stale (hr.staffed.told _ (h.reports q hq.mem)).2]
    refine ⟨⟨h.machine, h.registry, ⟨_, rfl⟩, h.watches, ?_⟩, rfl⟩
    exact fun p hp => h.reports p (List.mem_of_mem_tail hp)
  · rw [step_reap_idle htakes]
    exact ⟨h, rfl⟩

/-- A task that loses its target is one of those who have left, if the targets of all registered
forwarders are there. -/
theorem told_of_lost (h : Resting m r s) (hr : s.Reachable) (hu : u ∈ s.world.tasks)
    {reason : String} (hlost : gone.lookup u.key = some reason)
    (hgone : ∀ e ∈ r.entries, e.status = .active → gone.lookup e.key = none) :
    u.generation ∈ s.world.cancelled := by
  rcases hr.staffed.forwarder hu with htold | ⟨e, he, hactive, -, hk, -⟩
  · exact htold
  · have hthere := hgone e (h.registry ▸ he) hactive
    rw [hk, hlost] at hthere
    cases hthere

/-- Where the targets of all registered forwarders are there, what the schedule does besides calls
leaves the machine and the registry as they are. -/
theorem step (h : Resting m r s) (hr : s.Reachable) (ha : a.Due [] gone)
    (hgone : ∀ e ∈ r.entries, e.status = .active → gone.lookup e.key = none) :
    Resting m r (s.step a) ∧ (s.step a).calls = s.calls := by
  obtain ⟨answer, ho⟩ := h.reaper
  have hput : s.put 0 s.world (.over answer) = s := put_self (by rw [threads_zero, ho])
  cases ha with
  | advance hi => cases hi
  | giveUp hi => cases hi
  | reap => exact h.reap hr
  | advanceReaper =>
    have hidle : s.step .advanceReaper = s := by
      rw [step_advance_eq (a := .advanceReaper) rfl (threads_zero s), ho]
      exact hput
    rw [hidle]
    exact ⟨h, rfl⟩
  | reaperGivesUp =>
    have hidle : s.step .reaperGivesUp = s := by
      rw [step_giveUp_eq (a := .reaperGivesUp) rfl (threads_zero s), ho]
      exact hput
    rw [hidle]
    exact ⟨h, rfl⟩
  | close u =>
    rw [System.step]
    split
    · rename_i hguard
      rw [Bool.and_eq_true, List.contains_iff_mem, List.contains_iff_mem] at hguard
      exact ⟨h.endTask hguard.1 hguard.2, rfl⟩
    · exact ⟨h, rfl⟩
  | @fail u reason hrole hlost =>
    rw [System.step]
    split
    · rename_i hu
      rw [List.contains_iff_mem] at hu
      exact ⟨h.failTask hu (h.told_of_lost hr hu hlost hgone) reason, rfl⟩
    · exact ⟨h, rfl⟩

/-- Tasks that were given up end without a trace in what is registered. -/
theorem dying (h : Resting m r s) (hr : s.Reachable) (ts : List Task) :
    Resting m r (ts.foldl (fun s u => s.step (.die u)) s) := by
  induction ts generalizing s with
  | nil => exact h
  | cons u ts ih =>
    refine ih (s := s.step (.die u)) ?_ (hr.run [.die u])
    rw [System.step]
    split
    · rename_i hguard
      rw [Bool.and_eq_true, List.contains_iff_mem] at hguard
      exact h.failTask hguard.1 (hr.staffed.aborted u hguard.1 hguard.2) _
    · exact h

end Resting

/-! ## A start that nobody disturbs -/

/-- The answer of a start that binds its batch in order on this machine. -/
def bindAnswer (m : Machine) (e : Entry) : Answer :=
  match m.listenAll e.generation e.tunnels with
  | .ok _ => .ok (.view e.activated.view)
  | .error (t, cause) => .error (.bind t cause)

theorem bindAnswer_of_bound {e : Entry} {m' : Machine}
    (h : m.listenAll e.generation e.tunnels = .ok m') :
    bindAnswer m e = .ok (.view e.activated.view) := by
  rw [bindAnswer, h]

theorem bindAnswer_of_refused {e : Entry} {cause : IoError} {x : Tunnel}
    (h : m.listenAll e.generation e.tunnels = .error (x, cause)) :
    bindAnswer m e = .error (.bind x cause) := by
  rw [bindAnswer, h]

/-- Where the start of an entry stands that nobody disturbs: it has bound some tunnels and has the
same before it with the rest as with the whole batch at first, or it is going to give the answer
that comes of that. -/
inductive Attempt (m₀ : Machine) (r : Registry) (i : Nat) (e : Entry) (s : System) : Prop
  | binding {m : Machine} {startHook : Bool} {bound left : List Tunnel} (hs : Resting m r s)
      (hc : s.calls[i]? = some (.binding ⟨e.generation, e.key, startHook⟩ bound left))
      (hleft : m.listenAll e.generation left = m₀.listenAll e.generation e.tunnels)
  | decided {c : Call} (hc : s.calls[i]? = some c) (ha : c.promise? = some (bindAnswer m₀ e))

namespace Attempt

variable {m₀ : Machine} {e : Entry}

/-- What is decided stays so, whatever happens. -/
theorem of_decided {c : Call} (hc : s.calls[i]? = some c)
    (hp : c.promise? = some (bindAnswer m₀ e)) (a : Action) : Attempt m₀ r i e (s.step a) := by
  obtain ⟨d, hd, hpromise⟩ := promise_step hc hp a
  exact .decided hd hpromise

/-- A start that goes on binds the next tunnel of its batch, or its answer is decided. -/
theorem advance {startHook : Bool} {bound left : List Tunnel} (hs : Resting m r s)
    (hr : s.Reachable) (he : e ∈ r.entries)
    (hc : s.calls[i]? = some (.binding ⟨e.generation, e.key, startHook⟩ bound left))
    (hleft : m.listenAll e.generation left = m₀.listenAll e.generation e.tunnels) :
    Attempt m₀ r i e (s.step (.advance i)) := by
  obtain ⟨d, w, hd, hw, hadv⟩ := step_advances (a := .advance i) (i := i + 1) rfl hc
  have hmachine := hs.machine
  cases hadv with
  | @bound _ _ left t x hprobe =>
    rw [hmachine] at hprobe
    have hreaper : (s.step (.advance i)).reaper = s.reaper := by
      rw [step_advance_eq (a := .advance i) (i := i + 1) rfl hc]
      rfl
    refine .binding (m := m.withTunnel e.generation t x) ⟨?_, ?_, ?_, ?_, ?_⟩ hd ?_
    · rw [hw, ← hmachine]
      rfl
    · rw [hw]
      exact hs.registry
    · unfold ReaperFree
      rw [hreaper]
      exact hs.reaper
    · rw [hw]
      exact hs.watches
    · rw [hw]
      exact hs.reports
    · rw [← hleft, Machine.listenAll, Machine.listen, hprobe]
      rfl
  | @refused _ _ left t cause hlisten =>
    refine .decided hd ?_
    have hstop := World.listen_eq_error hlisten
    rw [hmachine] at hstop
    rw [Machine.listenAll, hstop] at hleft
    rw [Call.promise?, bindAnswer_of_refused hleft.symm, Setback.error]
  | @committed _ _ v r' hcommit =>
    refine .decided hd ?_
    obtain ⟨r'', hown⟩ := hr.sound.commit_of_mem (hs.registry ▸ he) bound
    rw [hcommit, Option.some.injEq, Prod.mk.injEq] at hown
    rw [Call.promise?, bindAnswer_of_bound hleft.symm, hown.1]
  | overtaken hnone =>
    obtain ⟨r'', hown⟩ := hr.sound.commit_of_mem (hs.registry ▸ he) bound
    rw [hnone] at hown
    cases hown

/-- Where the targets of all active forwarders are there, the schedule only lets the start go on. -/
theorem step (h : Attempt m₀ r i e s) (hr : s.Reachable) (he : e ∈ r.entries)
    (ha : a.Due [i] gone)
    (hgone : ∀ e ∈ r.entries, e.status = .active → gone.lookup e.key = none) :
    Attempt m₀ r i e (s.step a) := by
  cases h with
  | decided hc hp => exact .of_decided hc hp a
  | @binding m startHook bound left hs hc hleft =>
    have beside : a.Due [] gone → Attempt m₀ r i e (s.step a) := by
      intro ha
      obtain ⟨hrest, hcalls⟩ := hs.step hr ha hgone
      exact .binding hrest (hcalls ▸ hc) hleft
    cases ha with
    | advance hi =>
      rw [List.mem_singleton.mp hi]
      exact .advance hs hr he hc hleft
    | giveUp hi =>
      -- it does not wait
      rw [List.mem_singleton.mp hi, step_giveUp_eq (a := .giveUp i) (i := i + 1) rfl hc]
      have hidle : s.put (i + 1) s.world
          (.binding ⟨e.generation, e.key, startHook⟩ bound left) = s := put_self hc
      show Attempt m₀ r i e (s.put (i + 1) s.world (.binding _ bound left))
      rw [hidle]
      exact .binding hs hc hleft
    | reap => exact beside .reap
    | advanceReaper => exact beside .advanceReaper
    | reaperGivesUp => exact beside .reaperGivesUp
    | close u => exact beside (.close u)
    | fail hrole hlost => exact beside (.fail hrole hlost)

/-- The answer of a start that is over. -/
theorem answer_eq (h : Attempt m₀ r i e s) {answer : Answer}
    (hover : s.calls[i]? = some (.over answer)) : answer = bindAnswer m₀ e := by
  cases h with
  | binding _ hc _ =>
    rw [hover] at hc
    cases hc
  | decided hc hp =>
    rw [hover, Option.some.injEq] at hc
    rw [← hc] at hp
    exact Option.some.inj hp

end Attempt

/-- A start that is admitted in a system that rests stands before its whole batch. -/
theorem Resting.begins (h : Resting m r s) (hadm : r.admission key batch = .ok ())
    (startHook stopHook : Bool) :
    Attempt m (r.insert key batch stopHook) s.calls.length (r.newEntry key batch stopHook)
      (s.step (.request (.start key batch startHook stopHook))) := by
  obtain rfl := h.registry
  rw [step_admitted hadm]
  exact .binding ⟨h.machine, rfl, h.reaper, h.watches, h.reports⟩ List.getElem?_concat_length rfl

/-- Where the targets of all registered forwarders are there, a start that is admitted answers what
comes of binding its batch in order, whenever its changes and those of the schedule are made. -/
theorem Resting.answers (h : Resting m r s) (hr : s.Reachable)
    (hadm : r.admission key batch = .ok ()) (hthere : ∀ e ∈ r.entries, gone.lookup e.key = none)
    {startHook stopHook : Bool} {answer : Answer}
    (hst : Scheduled [s.calls.length] gone
      (s.step (.request (.start key batch startHook stopHook))) t)
    (hover : t.calls[s.calls.length]? = some (.over answer)) :
    answer = bindAnswer m (r.newEntry key batch stopHook) := by
  have hgone : ∀ e ∈ (r.insert key batch stopHook).entries, e.status = .active →
      gone.lookup e.key = none := by
    intro e he hactive
    rcases Registry.mem_insert.mp he with rfl | he
    · cases hactive
    · exact hthere e he
  have hbegun := hr.run [.request (.start key batch startHook stopHook)]
  have hattempt := hst.keeps (P := Attempt m _ s.calls.length (r.newEntry key batch stopHook))
    (fun t a ht ha hs =>
      hs.step (ht.reachable hbegun) (Registry.mem_insert.mpr (Or.inl rfl)) ha hgone)
    (h.begins hadm startHook stopHook)
  exact hattempt.answer_eq hover

end System

namespace Scenario

open PortForward.System

variable {sc : Scenario} {key : Key} {batch : List Tunnel} {hooks : Hooks}

/-- Where all is at rest, a start that is admitted answers what comes of binding its batch in order.
-/
theorem start_answer (h : sc.AtRest)
    (hadm : sc.system.world.registry.admission key batch = .ok ()) :
    (sc.performOne (.start key batch hooks)).2 =
      bindAnswer sc.system.world.machine
        (sc.system.world.registry.newEntry key batch hooks.onStop) := by
  have hrest := (h.settled.resting h.reachable).dying h.reachable sc.system.world.tasks
  have hr := (still_reapAborted sc.system).continues.reachable h.reachable
  have hrequest : (Operation.start key batch hooks).request? =
      some (.start key batch hooks.onStart hooks.onStop) := rfl
  exact hrest.answers hr hadm (fun e he => h.there he) (scheduled_performOne hrequest)
    (performOne_over h.reachable h.settled hrequest)

/-- Where all is at rest, a check of a batch answers what the machine says of it. -/
theorem check_answer (h : sc.AtRest) :
    (sc.performOne (.available batch)).2 =
      (sc.system.world.machine.available batch).map fun _ => .done := by
  have hrest := (h.settled.resting h.reachable).dying h.reachable sc.system.world.tasks
  rw [← hrest.machine]
  rfl

/-- Where all is at rest, take a batch with ports of its own at IPv4 addresses whose start is
admitted. If the check of the batch passes, the start binds it all and succeeds. Otherwise both
answer for the first tunnel of the batch that cannot be listened for, and for the same reason. The
check closes each of its listeners before it opens the next, and leaves the machine as it was; the
start keeps them open. -/
theorem check_foretells_start (h : sc.AtRest) (key : Key) (batch : List Tunnel) (hooks : Hooks)
    (hbatch : ∀ t ∈ batch, t.IsPlain)
    (hadm : sc.system.world.registry.admission key batch = .ok ()) :
    let m := sc.system.world.machine
    let g := sc.system.world.registry.next
    let checked := (sc.performOne (.available batch)).2
    let started := (sc.performOne (.start key batch hooks)).2
    m.tryAll batch = (m, m.available batch) ∧
      (checked = .ok .done ∧ m.available batch = .ok () ∧ (∃ k, m.listenAll g batch = .ok k) ∧
          started = .ok (.view ⟨g, key, batch, .active⟩) ∨
        ∃ t cause, m.FirstUnbindable batch t cause ∧ checked = .error (.bind t cause) ∧
          m.listenAll g batch = .error (t, cause) ∧ started = .error (.bind t cause)) := by
  intro m g checked started
  have hchecked : checked = (m.available batch).map fun _ => .done := check_answer h
  have hstarted : started = bindAnswer m _ := start_answer h hadm
  have hapart := (Registry.admissible_of_admission hadm).listenable.apart
  refine ⟨Machine.tryAll_eq m batch, ?_⟩
  rcases Machine.available_listenAll (g := g) m hbatch hapart fun _ _ => rfl with
    ⟨havailable, k, hlisten⟩ | ⟨t, cause, hfirst, havailable, hlisten⟩
  · refine Or.inl ⟨?_, havailable, ⟨k, hlisten⟩, ?_⟩
    · rw [hchecked, havailable]
      rfl
    · rw [hstarted]
      exact bindAnswer_of_bound hlisten
  · refine Or.inr ⟨t, cause, hfirst, ?_, hlisten, ?_⟩
    · rw [hchecked, havailable]
      rfl
    · rw [hstarted]
      exact bindAnswer_of_refused hlisten

/-- Where another program listens on one of its ports, a batch with the wildcard there fails the
check, and so does its start. -/
theorem check_foretells_held_port :
    let sc := (unused 0 .loopbackOnly 1000 false).play [.hold "127.0.0.1" 9090]
    let key : Key := ⟨"default/web", "app"⟩
    let batch : List Tunnel := [⟨"localhost", 8080, 80⟩, ⟨"0.0.0.0", 9090, 443⟩]
    sc.AtRest ∧ (∀ t ∈ batch, t.IsPlain) ∧
      sc.system.world.registry.admission key batch = .ok () ∧
      ∃ t cause, sc.system.world.machine.FirstUnbindable batch t cause ∧
        (sc.performOne (.available batch)).2 = .error (.bind t cause) ∧
        (sc.performOne (.start key batch {})).2 = .error (.bind t cause) := by
  intro sc key batch
  have hrest : sc.AtRest := play_atRest 0 .loopbackOnly 1000 false _
  have hbatch : ∀ t ∈ batch, t.IsPlain := by
    intro t ht
    simp only [batch, List.mem_cons, List.not_mem_nil, or_false] at ht
    rcases ht with rfl | rfl
    · exact ⟨⟨.localhost, by decide⟩, by decide⟩
    · exact ⟨⟨.wildcard, by decide⟩, by decide⟩
  have hadm : sc.system.world.registry.admission key batch = .ok () := rfl
  refine ⟨hrest, hbatch, hadm, ?_⟩
  have hchecked : (sc.performOne (.available batch)).2 =
      .error (.bind ⟨"0.0.0.0", 9090, 443⟩ .addressInUse) := rfl
  rcases (check_foretells_start hrest key batch {} hbatch hadm).2 with
    ⟨hpassed, -⟩ | ⟨t, cause, hfirst, hfailed, -, hstarted⟩
  · rw [hchecked] at hpassed
    cases hpassed
  · exact ⟨t, cause, hfirst, hfailed, hstarted⟩

end Scenario
end PortForward
