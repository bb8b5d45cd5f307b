/-
# What clients do

Events of connections change no more than connections. The registry, the hook calls and events, the
tasks and the listeners are touched only by an accept loop that ends, as it was told to or as it
cannot accept.

* `Touches`, `touches_step` : what an event does besides connections;
* `Event.IsTraffic`, `run_system` : nothing, if it is only about connections;
* `Scenario.connect_system` and others : so clients leave a settled registry as it is.
-/
import PortForward.Proofs.Settling

namespace PortForward

/-- Clients connect, something happens to connections, or accept loops go on that were not told to
end. -/
inductive Event.IsTraffic (w : World) : Event → Prop
  | arrive (address : String) (port : UInt16) : IsTraffic w (.arrive address port)
  | turn {u : Task} (huntold : u.generation ∉ w.cancelled) : IsTraffic w (.turn u none)
  | occur (i : Nat) (o : Occurrence) : IsTraffic w (.occur i o)

namespace Traffic

variable {tr : Traffic} {e : Event} {es : List Event} {u : Task} {t : Tunnel} {g : Nat}

theorem isTold_iff : tr.isTold g = true ↔ g ∈ tr.system.world.cancelled := List.contains_iff_mem

@[simp] theorem act_system (tr : Traffic) (a : Action) :
    (tr.act a).system = tr.system.step a := rfl

@[simp] theorem arrive_system (tr : Traffic) (address : String) (port : UInt16) :
    (tr.arrive address port).system = tr.system := by
  rw [arrive]
  split <;> rfl

/-! ## Turns -/

theorem turn_fail (h : u.generation ∉ tr.system.world.cancelled) (cause : String) :
    tr.turn u (some cause) = .fail cause := by
  unfold turn
  rw [if_neg (isTold_iff.not.mpr h)]

/-- What an event does besides connections. -/
inductive Touches (tr : Traffic) : Event → System → Prop
  | nothing (e : Event) : Touches tr e tr.system
  | act {a : Action} (ha : a.failsLoop = false) : Touches tr (.act a) (tr.system.step a)
  | close {u : Task} {failure : Option String} (htold : u.generation ∈ tr.system.world.cancelled) :
      Touches tr (.turn u failure) (tr.system.step (.close u))
  | fail {u : Task} {t : Tunnel} {cause : String}
      (huntold : u.generation ∉ tr.system.world.cancelled) (hrole : u.role = .tunnel t) :
      Touches tr (.turn u (some cause)) (tr.system.step (.fail u (t.acceptFailure cause)))

/-- An accept loop ends in its turn, or it leaves all but connections as it is. -/
theorem touches_take (hrole : u.role = .tunnel t) (failure : Option String) :
    Touches tr (.turn u failure) (tr.take u t (tr.turn u failure)).system := by
  unfold turn
  split
  · rename_i htold
    exact .close (isTold_iff.mp htold)
  · rename_i huntold
    cases failure with
    | some cause => exact .fail (isTold_iff.not.mp huntold) hrole
    | none =>
      dsimp only
      split
      · exact .nothing _
      · split <;> exact .nothing _

theorem touches_step (tr : Traffic) (e : Event) : Touches tr e (tr.step e).system := by
  cases e with
  | act a =>
    cases ha : a.failsLoop with
    | true =>
      rw [step, if_pos ha]
      exact .nothing _
    | false =>
      rw [step, if_neg (Bool.eq_false_iff.mp ha)]
      exact .act ha
  | arrive address port =>
    rw [step, arrive_system]
    exact .nothing _
  | turn u failure =>
    rw [step]
    split
    · rename_i t hrole
      split
      · exact touches_take hrole failure
      · exact .nothing _
    · exact .nothing _
  | occur i o => exact .nothing _
  | withdraw i => exact .nothing _

/-! ## Traffic -/

/-- What is only about connections touches nothing else. -/
theorem step_system (h : e.IsTraffic tr.system.world) : (tr.step e).system = tr.system := by
  have htouches := touches_step tr e
  generalize (tr.step e).system = s at htouches
  cases htouches with
  | nothing => rfl
  | act => cases h
  | close htold => cases h with
    | turn huntold => exact absurd htold huntold
  | fail => cases h

/-- However much of it there is. -/
theorem run_system (h : ∀ e ∈ es, e.IsTraffic tr.system.world) : (tr.run es).system = tr.system := by
  induction es generalizing tr with
  | nil => rfl
  | cons e es ih =>
    have hstep := step_system (h e List.mem_cons_self)
    have hrest : ∀ f ∈ es, f.IsTraffic (tr.step e).system.world := by
      rw [hstep]
      exact fun f hf => h f (List.mem_cons_of_mem e hf)
    exact (ih hrest).trans hstep

/-- A turn of an accept loop ends its task at most. -/
theorem still_turn (tr : Traffic) (u : Task) (failure : Option String) :
    tr.system.Still (tr.step (.turn u failure)).system := by
  have htouches := touches_step tr (.turn u failure)
  generalize (tr.step (.turn u failure)).system = s at htouches
  cases htouches with
  | nothing => exact .refl _
  | close => exact System.still_step (by simp) (by simp) rfl rfl
  | fail => exact System.still_step (by simp) (by simp) rfl rfl

theorem still_turns (us : List Task) (failure : Option String) (tr : Traffic) :
    tr.system.Still (tr.run (us.map (.turn · failure))).system := by
  induction us generalizing tr with
  | nil => exact .refl _
  | cons u us ih => exact (still_turn tr u failure).trans (ih _)

/-- Where the accept calls of a tunnel fail, its tasks fail. -/
theorem run_failing (us : List Task) (cause : String) (tr : Traffic)
    (hrole : ∀ u ∈ us, u.role = .tunnel t)
    (huntold : ∀ u ∈ us, u.generation ∉ tr.system.world.cancelled) :
    (tr.run (us.map (.turn · (some cause)))).system =
      us.foldl (fun s u => s.step (.fail u (t.acceptFailure cause))) tr.system := by
  induction us generalizing tr with
  | nil => rfl
  | cons u us ih =>
    have hfirst : (tr.step (.turn u (some cause))).system =
        tr.system.step (.fail u (t.acceptFailure cause)) := by
      rw [step, hrole u List.mem_cons_self, System.step]
      dsimp only
      split
      · rename_i hu
        rw [turn_fail (huntold u List.mem_cons_self)]
        exact if_pos hu
      · rfl
    have hrest : ∀ v ∈ us, v.generation ∉ (tr.step (.turn u (some cause))).system.world.cancelled := by
      rw [(still_turn tr u (some cause)).cancelled]
      exact fun v hv => huntold v (List.mem_cons_of_mem u hv)
    rw [List.foldl_cons, ← hfirst]
    exact ih _ (fun v hv => hrole v (List.mem_cons_of_mem u hv)) hrest

end Traffic

/-! ## Clients of a settled registry -/

namespace Scenario

open PortForward.System

variable {sc : Scenario} {address : String} {port : UInt16} {u : Task} {es : List Event}

/-- Who accepts at an endpoint is there and holds its listener. -/
theorem mem_acceptors (hu : u ∈ sc.acceptors address port) :
    u ∈ sc.system.world.tasks ∧ u.aborted = false ∧
      ∃ l, sc.system.world.machine.listener? address port = some l ∧
        World.heldBy u l.owner = true := by
  rw [acceptors] at hu
  split at hu
  · rename_i l hl
    simp only [List.mem_filter, Bool.and_eq_true, Bool.not_eq_true'] at hu
    exact ⟨hu.1, hu.2.2, l, hl, hu.2.1⟩
  · cases hu

/-- The tasks of the tunnels of a settled registry were not told to end. -/
theorem untold_of_mem_acceptors (hr : sc.system.Reachable) (h : sc.system.Settled)
    (hu : u ∈ sc.acceptors address port) : u.generation ∉ sc.system.world.cancelled := by
  obtain ⟨hmem, -, l, -, hheld⟩ := mem_acceptors hu
  intro htold
  have hmonitor := hr.staffed.stalled u hmem (h.cleared u hmem htold)
  unfold World.heldBy at hheld
  rw [hmonitor] at hheld
  cases hheld

/-- A connection that arrives and is accepted is only about connections. -/
theorem arrival_isTraffic (hr : sc.system.Reachable) (h : sc.system.Settled) (address : String)
    (port : UInt16) : ∀ e ∈ sc.arrival address port none, e.IsTraffic sc.system.world := by
  intro e he
  rcases List.mem_cons.mp he with rfl | he
  · exact .arrive address port
  · obtain ⟨u, hu, rfl⟩ := List.mem_map.mp he
    exact .turn (untold_of_mem_acceptors hr h hu)

theorem hangUp_isTraffic (sc : Scenario) (id : String) :
    ∀ e ∈ sc.hangUp id, e.IsTraffic sc.system.world := by
  intro e he
  obtain ⟨i, -, he⟩ := List.mem_flatMap.mp he
  simp only [List.mem_cons, List.not_mem_nil, or_false] at he
  rcases he with rfl | rfl <;> exact .occur i _

/-- A client that connects leaves a settled registry as it is. -/
theorem connect_system (hr : sc.system.Reachable) (h : sc.system.Settled) (id address : String)
    (port : UInt16) : (sc.connect id address port).1.system = sc.system := by
  have harrival := arrival_isTraffic hr h address port
  unfold connect
  dsimp only
  split
  · refine Traffic.run_system fun e he => ?_
    rcases List.mem_append.mp he with he | he
    · exact harrival e he
    · rcases List.mem_cons.mp he with rfl | he
      · exact .occur _ _
      · exact hangUp_isTraffic sc id e he
  · refine Traffic.run_system fun e he => ?_
    rcases List.mem_append.mp he with he | he
    · exact harrival e he
    · rw [List.mem_singleton.mp he]
      exact .occur _ _
  · rfl

theorem connect_doomed (sc : Scenario) (id address : String) (port : UInt16) :
    (sc.connect id address port).1.doomed = sc.doomed := by
  unfold connect
  dsimp only
  split <;> rfl

/-- So does a client that ends a connection. -/
theorem disconnect_system (sc : Scenario) (id : String) :
    (sc.disconnect id).1.system = sc.system :=
  Traffic.run_system (hangUp_isTraffic sc id)

/-- Where something arrives, no more than tasks may end. -/
theorem still_arrival (sc : Scenario) (address : String) (port : UInt16) (failure : Option String) :
    sc.system.Still (sc.pass (sc.arrival address port failure)).system := by
  have hturns := Traffic.still_turns (sc.acceptors address port) failure
    (sc.toTraffic.arrive address port)
  rw [Traffic.arrive_system] at hturns
  exact hturns

/-- Where something arrives that cannot be accepted, the tasks fail that should. -/
theorem arrival_failing (hr : sc.system.Reachable) (h : sc.system.Settled) {t : Tunnel}
    (hrole : ∀ u ∈ sc.acceptors address port, u.role = .tunnel t) (cause : String) :
    (sc.pass (sc.arrival address port (some cause))).system =
      (sc.acceptors address port).foldl
        (fun s u => s.step (.fail u (t.acceptFailure cause))) sc.system := by
  have hrun := Traffic.run_failing (sc.acceptors address port) cause
    (sc.toTraffic.arrive address port) hrole
  rw [Traffic.arrive_system] at hrun
  exact hrun fun u hu => untold_of_mem_acceptors hr h hu

end Scenario
end PortForward
