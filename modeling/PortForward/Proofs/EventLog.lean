/-
# The event log of a script

After every step of a script the events that were broadcast so far tell which forwarders there are,
and within the step the hook calls match the events. For this a script is taken apart into actions:
each step is a run in which at most one forwarder is launched, by the request of the step.

* `Scenario.act_extends`, `Scenario.play_run` : a step and a script as runs;
* `Scenario.event_log` : what the events and the hook calls of a script tell.
-/
import PortForward.Bench.Platforms
import PortForward.Proofs.Hooks
import PortForward.Proofs.Replay
import PortForward.Proofs.Scripts

namespace PortForward

namespace System

variable {s t u : System} {actions : List Action} {e : Entry} {b : Bool} {q : Request}

/-! ## Runs without requests -/

/-- What goes on is a run without requests. -/
theorem Continues.run (h : Continues s t) :
    ∃ actions, t = s.run actions ∧ ∀ a ∈ actions, ∀ r, a ≠ .request r := by
  induction h with
  | refl => exact ⟨[], rfl, by simp⟩
  | @step t a _ ha ih =>
    obtain ⟨actions, rfl, hquiet⟩ := ih
    refine ⟨actions ++ [a], (run_snoc s actions a).symm, ?_⟩
    intro x hx
    rcases List.mem_append.mp hx with hx | hx
    · exact hquiet x hx
    · rw [List.mem_singleton.mp hx]
      exact ha.request

/-- Without requests nothing is launched. -/
theorem not_launches_of_quiet (h : ∀ a ∈ actions, ∀ r, a ≠ .request r) :
    ¬ s.Along actions (Launches e b) := by
  rintro ⟨before, a, after, rfl, ha, -⟩
  exact h a (List.mem_append_right _ List.mem_cons_self) _ ha

/-- What is launched depends on the registry alone. -/
theorem launches_congr (h : s.world.registry = t.world.registry) (a : Action) :
    Launches e b s a ↔ Launches e b t a := by
  rw [Launches, Launches, h]

/-- What serves a request is a run that launches what the request does, and nothing else. -/
theorem Serves.run {q? : Option Request} (h : Serves q? s t) :
    ∃ actions, t = s.run actions ∧ ∀ e b, s.Along actions (Launches e b) ↔
      ∃ q, q? = some q ∧ Launches e b s (.request q) := by
  obtain ⟨u, hu, h⟩ := h
  obtain ⟨before, rfl, hbefore⟩ := hu.continues.run
  cases q? with
  | none =>
    obtain ⟨after, rfl, hafter⟩ := h.run
    refine ⟨before ++ after, (run_append s before after).symm, fun e b => ?_⟩
    refine iff_of_false ?_ (by rintro ⟨q, hq, -⟩; cases hq)
    rw [along_append]
    rintro (hl | hl)
    · exact not_launches_of_quiet hbefore hl
    · exact not_launches_of_quiet hafter hl
  | some q =>
    obtain ⟨after, rfl, hafter⟩ := h.run
    refine ⟨before ++ [.request q] ++ after, ?_, fun e b => ?_⟩
    · rw [run_append, run_snoc]
    · rw [along_append, along_snoc, launches_congr hu.registry]
      constructor
      · rintro ((hl | hl) | hl)
        · exact absurd hl (not_launches_of_quiet hbefore)
        · exact ⟨q, rfl, hl⟩
        · exact absurd hl (not_launches_of_quiet hafter)
      · rintro ⟨_, hq, hl⟩
        obtain rfl := Option.some.inj hq
        exact Or.inl (Or.inr hl)

end System

namespace Scenario

open PortForward.System

variable {begun : Scenario} {deeds : List Deed} {d : Deed} {e : Entry} {b : Bool}

/-! ## What a script launches -/

/-- The step launches this forwarder, with this start hook. -/
def Starts (sc : Scenario) (d : Deed) (e : Entry) (startHook : Bool) : Prop :=
  ∃ q, d.request? = some q ∧ Launches e startHook sc.system (.request q)

/-- Some step of the script launches this forwarder, with this start hook. -/
def Launched (begun : Scenario) (deeds : List Deed) (e : Entry) (startHook : Bool) : Prop :=
  ∃ before d after, deeds = before ++ d :: after ∧ (begun.play before).Starts d e startHook

theorem launched_nil : ¬ begun.Launched [] e b := by
  rintro ⟨before, d, after, h, -⟩
  simp at h

/-- A longer script launches what the shorter one does and what its last step does. -/
theorem launched_snoc : begun.Launched (deeds ++ [d]) e b ↔
    begun.Launched deeds e b ∨ (begun.play deeds).Starts d e b := by
  constructor
  · rintro ⟨before, c, after, h, hl⟩
    rcases split_snoc h with ⟨rfl, rfl, -⟩ | ⟨rest, -, hrest⟩
    · exact Or.inr hl
    · exact Or.inl ⟨before, c, rest, hrest, hl⟩
  · rintro (⟨before, c, after, rfl, hl⟩ | hl)
    · exact ⟨before, c, after ++ [d], by simp, hl⟩
    · exact ⟨deeds, d, [], rfl, hl⟩

/-- A step of a script is a run that launches what the step does. -/
theorem act_run {sc : Scenario} (hr : sc.system.Reachable) (h : sc.system.Settled) (d : Deed) :
    ∃ actions, (sc.act d).system = sc.system.run actions ∧
      ∀ e b, sc.system.Along actions (Launches e b) ↔ sc.Starts d e b :=
  (act_settled hr h d).2.run

/-- One more step makes the run of a script longer. -/
theorem act_extends {s : System} {actions : List Action} (hr : (begun.play deeds).system.Reachable)
    (hs : (begun.play deeds).system.Settled) (hactions : (begun.play deeds).system = s.run actions)
    (hlaunched : ∀ e b, s.Along actions (Launches e b) ↔ begun.Launched deeds e b) (d : Deed) :
    ∃ more, (begun.play (deeds ++ [d])).system = s.run (actions ++ more) ∧
      ∀ e b, s.Along (actions ++ more) (Launches e b) ↔ begun.Launched (deeds ++ [d]) e b := by
  obtain ⟨more, hmore, hstarts⟩ := act_run hr hs d
  refine ⟨more, ?_, fun e b => ?_⟩
  · rw [run_append, ← hactions, ← hmore, play_append]
    rfl
  · rw [along_append, hlaunched, launched_snoc, ← hactions]
    exact or_congr_right (hstarts e b)

/-- A script is a run that launches what the script does. -/
theorem play_run (limit : Nat) (platform : Platform) (stopTimeout : Nat) (parallel : Bool)
    (deeds : List Deed) :
    let begun := unused limit platform stopTimeout parallel
    ∃ actions, (begun.play deeds).system = (initial limit platform).run actions ∧
      ∀ e b, (initial limit platform).Along actions (Launches e b) ↔ begun.Launched deeds e b := by
  intro begun
  induction deeds using List.reverseRecOn with
  | nil => exact ⟨[], rfl, fun e b => iff_of_false not_along_nil launched_nil⟩
  | append_singleton deeds d ih =>
    obtain ⟨actions, hactions, hlaunched⟩ := ih
    obtain ⟨hr, hs⟩ := play_settled limit platform stopTimeout parallel deeds
    obtain ⟨more, hmore⟩ := act_extends hr hs hactions hlaunched d
    exact ⟨actions ++ more, hmore⟩

/-! ## The event log -/

/-- A script keeps the events in step with the registry. -/
theorem play_inStep (limit : Nat) (platform : Platform) (stopTimeout : Nat) (parallel : Bool)
    (deeds : List Deed) : ((unused limit platform stopTimeout parallel).play deeds).system.InStep := by
  induction deeds using List.reverseRecOn with
  | nil => exact inStep_initial limit platform
  | append_singleton deeds d ih =>
    obtain ⟨hr, hs⟩ := play_settled limit platform stopTimeout parallel deeds
    rw [play_append]
    exact (act_settled hr hs d).2.inStep hr hs.idle ih

/-- After every step of a script, the events that were broadcast so far, replayed from nothing, give
the list of the registry, and no start was ever told of a key that was listed then. In each step the
hook calls for a forwarder that was launched match its events one to one if it has the hook, and
there are no events or hook calls but for forwarders that were launched. -/
theorem event_log (limit : Nat) (platform : Platform) (stopTimeout : Nat) (parallel : Bool)
    (deeds : List Deed) :
    let begun := unused limit platform stopTimeout parallel
    let w := (begun.play deeds).system.world
    (replay w.journal).Perm w.registry.list ∧
      FreshStarts w.journal ∧
      ∀ d, ∃ records, (begun.play (deeds ++ [d])).system.world.journal = w.journal ++ records ∧
        (∀ r ∈ records, ∃ e startHook, begun.Launched (deeds ++ [d]) e startHook ∧
          r.generation = e.generation) ∧
        ∀ e startHook, begun.Launched (deeds ++ [d]) e startHook →
          HooksMatch e startHook records := by
  intro begun w
  obtain ⟨hr, hs⟩ := play_settled limit platform stopTimeout parallel deeds
  have hstep := play_inStep limit platform stopTimeout parallel deeds
  refine ⟨hstep.replay_perm hr hs, hstep.fresh, fun d => ?_⟩
  obtain ⟨actions, hactions, hlaunched⟩ := play_run limit platform stopTimeout parallel deeds
  obtain ⟨more, hmore, hall⟩ := act_extends hr hs hactions hlaunched d
  have hsettled := (play_settled limit platform stopTimeout parallel (deeds ++ [d])).2
  obtain ⟨records, hrecords, hlaunches, hmatch⟩ :=
    hooksMatch_between (hactions ▸ hs.idle) (hmore ▸ hsettled.idle)
  refine ⟨records, ?_, ?_, fun e startHook he => hmatch e startHook ((hall e startHook).mpr he)⟩
  · rw [hmore, hrecords, ← hactions]
  · intro r hr
    obtain ⟨e, startHook, he, hg⟩ := hlaunches r hr
    exact ⟨e, startHook, (hall e startHook).mp he, hg⟩

/-- A forwarder to a target that is gone is started and fails in one step. -/
example :
    let key : Key := ⟨"default/web", "app"⟩
    let batch : List Tunnel := [⟨"127.0.0.1", 8080, 80⟩]
    let v : View := ⟨1, key, batch, .active⟩
    let cause : Error := .terminated key "gone"
    ((unused 0 .loopbackOnly 1000 false).play
        [.doom key "gone", .perform (.start key batch {})]).system.world.journal =
      [.startHook v, .started v, .stopHook 1 key (some cause),
        .failed ⟨1, key, batch, .failed⟩ cause] := rfl

end Scenario
end PortForward
