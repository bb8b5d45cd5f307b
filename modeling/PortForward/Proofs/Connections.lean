/-
# Connections are kept apart

Whatever clients and container ports do, the registry takes no notice, and what becomes of a
connection depends on what happens to it and on nothing else. A tunnel that nobody has told to end
does so only if its accept call fails.

* `System.step_post_lost` : who ends was told to, was given up, or has failed;
* `post_lost_step`, `post_lost_run` : of a tunnel, only an accept call that failed does that;
* `connection_step`, `connection_run` : what a connection becomes;
* `connections_apart` : what this comes to;
* `Scenario.play_reachable` : scripts are such a traffic.
-/
import PortForward.Bench.Platforms
import PortForward.Proofs.Failures
import PortForward.Proofs.Schedules

namespace PortForward

/-! ## Tasks that end -/

namespace Call

variable {w : World} {p : Nat × Key × Role}

/-- A call that begins gives up no post. -/
theorem mem_posts_request (r : Request) (hp : p ∈ w.posts) : p ∈ (request w r).1.posts := by
  have hbegins := begins_request w r
  generalize (request w r).1 = w', (request w r).2 = c at hbegins
  cases hbegins <;> exact hp

/-- Nor does one that goes on. -/
theorem mem_posts_advance (c : Call) (hp : p ∈ w.posts) : p ∈ (advance w c).1.posts := by
  have hadvances := advances_advance w c
  generalize (advance w c).1 = w', (advance w c).2 = d at hadvances
  cases hadvances with
  | committed _ =>
    rw [World.posts, World.withActive, List.map_append]
    exact List.mem_append_left _ hp
  | hooked => split <;> exact hp
  | ended => split <;> exact hp
  | _ => exact hp

/-- Nor one that waits no longer. -/
theorem mem_posts_giveUp (c : Call) (hp : p ∈ w.posts) : p ∈ (giveUp w c).1.posts := by
  cases c with
  | waiting r =>
    rw [giveUp, World.posts_abort]
    exact hp
  | _ => exact hp

/-- Nor one that takes a report. -/
theorem mem_posts_ofReport (r : Report) (hp : p ∈ w.posts) : p ∈ (ofReport w r).1.posts := by
  have htakes := takes_ofReport w r
  generalize (ofReport w r).1 = w', (ofReport w r).2 = c at htakes
  cases htakes <;> exact hp

end Call

/-- A task that ends gives up its own post and no other. -/
theorem World.post_endTask {w : World} {u : Task} {p : Nat × Key × Role} (hp : p ∈ w.posts)
    (hlost : p ∉ (w.endTask u).posts) : u.post = p := by
  obtain ⟨v, hv, rfl⟩ := List.mem_map.mp hp
  by_contra hne
  refine hlost (List.mem_map_of_mem (World.mem_tasks_endTask.mpr ⟨hv, ?_⟩))
  rintro rfl
  exact hne rfl

namespace System

variable {s : System} {p : Nat × Key × Role}

/-- A post is given up by who was told to, or by a task that fails. -/
theorem step_post_lost (hr : s.Reachable) (a : Action) (hp : p ∈ s.world.posts)
    (hlost : p ∉ (s.step a).world.posts) :
    p.1 ∈ s.world.cancelled ∨ ∃ u reason, a = .fail u reason ∧ u.post = p := by
  -- what keeps all posts gives up none
  have kept : ∀ {P : Prop}, p ∈ (s.step a).world.posts → P := fun h => absurd h hlost
  have withCall : ∀ i change, (∀ c, p ∈ (change s.world c).1.posts) →
      p ∈ (s.withCall i change).world.posts := by
    intro i change hchange
    unfold withCall
    split
    · exact hchange _
    · exact hp
  cases a with
  | request r => exact kept (Call.mem_posts_request r hp)
  | advance i => exact kept (withCall i _ fun c => Call.mem_posts_advance c hp)
  | giveUp i => exact kept (withCall i _ fun c => Call.mem_posts_giveUp c hp)
  | reap =>
    refine kept ?_
    rw [step]
    split
    · exact Call.mem_posts_ofReport _ hp
    · exact hp
  | advanceReaper => exact kept (Call.mem_posts_advance s.reaper hp)
  | reaperGivesUp => exact kept (Call.mem_posts_giveUp s.reaper hp)
  | close u =>
    rw [step] at hlost
    split at hlost
    · rename_i hu
      rw [Bool.and_eq_true, List.contains_iff_mem, List.contains_iff_mem] at hu
      rw [← World.post_endTask hp hlost]
      exact Or.inl hu.2
    · exact absurd hp hlost
  | fail u reason =>
    rw [step] at hlost
    split at hlost
    · exact Or.inr ⟨u, reason, rfl, World.post_endTask hp hlost⟩
    · exact absurd hp hlost
  | die u =>
    rw [step] at hlost
    split at hlost
    · rename_i hu
      rw [Bool.and_eq_true, List.contains_iff_mem] at hu
      rw [← World.post_endTask hp hlost]
      exact Or.inl (hr.staffed.aborted u hu.1 hu.2)
    · exact absurd hp hlost
  | hold address port => exact kept hp
  | letGo address port => exact kept hp
  | stall key on => exact kept hp

end System

/-! ## Tunnels that end -/

namespace Traffic

variable {tr : Traffic} {e : Event} {es : List Event} {i : Nat} {c : Connection} {u : Task}
  {t : Tunnel} {g : Nat} {key : Key}

/-- What an event does besides connections is one change at most. -/
theorem step_actions (tr : Traffic) (e : Event) :
    ∃ actions, (tr.step e).system = tr.system.run actions := by
  have htouches := touches_step tr e
  generalize (tr.step e).system = s at htouches
  cases htouches with
  | nothing => exact ⟨[], rfl⟩
  | @act a => exact ⟨[a], rfl⟩
  | @close u => exact ⟨[.close u], rfl⟩
  | @fail u t cause => exact ⟨[.fail u (t.acceptFailure cause)], rfl⟩

theorem run_actions (es : List Event) (tr : Traffic) :
    ∃ actions, (tr.run es).system = tr.system.run actions := by
  induction es generalizing tr with
  | nil => exact ⟨[], rfl⟩
  | cons e es ih =>
    obtain ⟨first, hfirst⟩ := step_actions tr e
    obtain ⟨rest, hrest⟩ := ih (tr.step e)
    exact ⟨first ++ rest, by rw [System.run_append, ← hfirst]; exact hrest⟩

/-- So the registry in all of this is one that can come about. -/
theorem Reachable.system (h : tr.Reachable) : tr.system.Reachable := by
  obtain ⟨limit, platform, es, rfl⟩ := h
  obtain ⟨actions, hactions⟩ := run_actions es (initial limit platform)
  exact ⟨limit, platform, actions, hactions⟩

/-- A tunnel ends as its forwarder was told to, or as its accept call failed. -/
theorem post_lost_step (hr : tr.system.Reachable) (e : Event)
    (hp : (g, key, .tunnel t) ∈ tr.system.world.posts)
    (hlost : (g, key, .tunnel t) ∉ (tr.step e).system.world.posts) :
    g ∈ tr.system.world.cancelled ∨
      ∃ u cause, e = .turn u (some cause) ∧ u.post = (g, key, .tunnel t) := by
  have htouches := touches_step tr e
  generalize (tr.step e).system = s at htouches hlost
  cases htouches with
  | nothing => exact absurd hp hlost
  | act ha =>
    refine (System.step_post_lost hr _ hp hlost).imp id ?_
    -- accept loops do not fail outside their turn
    rintro ⟨u, reason, rfl, hpost⟩
    have hrole : u.role = .tunnel t := congrArg (·.2.2) hpost
    rw [Action.failsLoop, hrole] at ha
    cases ha
  | close =>
    refine (System.step_post_lost hr _ hp hlost).imp id ?_
    rintro ⟨u, reason, hclose, -⟩
    cases hclose
  | fail =>
    refine (System.step_post_lost hr _ hp hlost).imp id ?_
    rintro ⟨u, reason, hfail, hpost⟩
    cases hfail
    exact ⟨_, _, rfl, hpost⟩

/-- The same holds of any number of events. -/
theorem post_lost_run (hr : tr.system.Reachable) (es : List Event)
    (hp : (g, key, .tunnel t) ∈ tr.system.world.posts)
    (hlost : (g, key, .tunnel t) ∉ (tr.run es).system.world.posts) :
    g ∈ (tr.run es).system.world.cancelled ∨
      ∃ u cause, .turn u (some cause) ∈ es ∧ u.post = (g, key, .tunnel t) := by
  induction es generalizing tr with
  | nil => exact absurd hp hlost
  | cons e es ih =>
    obtain ⟨first, hfirst⟩ := step_actions tr e
    by_cases hkept : (g, key, .tunnel t) ∈ (tr.step e).system.world.posts
    · refine (ih (hfirst ▸ hr.run first) hkept hlost).imp id ?_
      rintro ⟨u, cause, hmem, hpost⟩
      exact ⟨u, cause, List.mem_cons_of_mem e hmem, hpost⟩
    · rcases post_lost_step hr e hp hkept with htold | ⟨u, cause, rfl, hpost⟩
      · obtain ⟨actions, hactions⟩ := run_actions (e :: es) tr
        rw [hactions]
        exact Or.inl (System.cancelled_run hr htold actions)
      · exact Or.inr ⟨u, cause, List.mem_cons_self, hpost⟩

/-- An accept call that fails ends its tunnel, unless that was told to end anyway. -/
theorem step_failing (hu : u ∈ tr.system.world.tasks) (hrole : u.role = .tunnel t)
    (huntold : u.generation ∉ tr.system.world.cancelled) (cause : String) :
    (tr.step (.turn u (some cause))).system.world =
      tr.system.world.failTask u (t.acceptFailure cause) := by
  have hcontains := List.contains_iff_mem.mpr hu
  rw [step, hrole]
  dsimp only
  rw [if_pos hcontains, turn_fail huntold, take, act_system, System.step, if_pos hcontains]
  rfl

/-! ## What becomes of a connection -/

@[simp] theorem connections_withConnection (j : Nat) (change : Connection → Connection) :
    (tr.withConnection j change).connections[i]? =
      if j = i then (tr.connections[i]?).map change else tr.connections[i]? := by
  show (tr.connections.modify j change)[i]? = _
  rw [List.getElem?_modify]
  split <;> simp

/-- Whether a tunnel is there is a matter of tasks. -/
theorem serves_congr {tr' : Traffic} {c' : Connection} (hs : tr'.system = tr.system)
    (hg : c'.generation = c.generation) (ht : c'.tunnel = c.tunnel) :
    tr'.serves c' = tr.serves c := by
  unfold serves Connection.isFor
  rw [hs, hg, ht]

/-- What an accept loop does that goes on leaves an accepted connection as it is, unless it takes
note of its end. -/
theorem connection_turn (hc : tr.connections[i]? = some c) (haccepted : c.stage ≠ .queued)
    (huntold : u.generation ∉ tr.system.world.cancelled) :
    ∃ noted, (tr.take u t (tr.turn u none)).connections[i]? = some { c with noted } := by
  unfold turn
  rw [if_neg (isTold_iff.not.mpr huntold)]
  dsimp only
  split
  · -- another connection is accepted, as this one is not queued
    rename_i j hj
    have hne : j ≠ i := by
      rintro rfl
      obtain ⟨hlt, hqueued, -⟩ := List.findIdx?_eq_some_iff_getElem.mp hj
      rw [Bool.and_eq_true, beq_iff_eq] at hqueued
      rw [List.getElem?_eq_getElem hlt, Option.some.injEq] at hc
      exact haccepted (hc ▸ hqueued.2)
    refine ⟨c.noted, ?_⟩
    rw [take, connections_withConnection, if_neg hne]
    exact hc
  · split
    · rename_i j hj
      rw [take, connections_withConnection, hc]
      split
      · exact ⟨true, rfl⟩
      · exact ⟨c.noted, rfl⟩
    · exact ⟨c.noted, hc⟩

end Traffic

/-- What happens to a connection in an event. -/
def Event.occurrence? (i : Nat) : Event → Option Occurrence
  | .occur j o => if j = i then some o else none
  | _ => none

namespace Traffic

variable {tr : Traffic} {e : Event} {es : List Event} {i : Nat} {c : Connection}

/-- Traffic makes of an accepted connection what happens to it, and does nothing else to it. -/
theorem connection_step (h : e.IsTraffic tr.system.world) (hc : tr.connections[i]? = some c)
    (haccepted : c.stage ≠ .queued) (hserved : tr.serves c = true) :
    ∃ noted, (tr.step e).connections[i]? =
      some { c with stage := c.stage.after (e.occurrence? i).toList, noted } := by
  cases h with
  | arrive address port =>
    refine ⟨c.noted, ?_⟩
    have hlt := (List.getElem?_eq_some_iff.mp hc).1
    rw [step, arrive]
    split
    · rw [List.getElem?_append_left hlt]
      exact hc
    · exact hc
  | turn huntold =>
    rw [step]
    split
    · split
      · exact connection_turn hc haccepted huntold
      · exact ⟨c.noted, hc⟩
    · exact ⟨c.noted, hc⟩
  | occur j o =>
    refine ⟨c.noted, ?_⟩
    rw [step, connections_withConnection, Event.occurrence?, hc]
    split
    · rw [Option.map_some, occur, if_pos hserved]
      rfl
    · rfl

/-- However much traffic there is, a connection becomes what happens to it. -/
theorem connection_run (h : ∀ e ∈ es, e.IsTraffic tr.system.world)
    (hc : tr.connections[i]? = some c) (haccepted : c.stage ≠ .queued)
    (hserved : tr.serves c = true) :
    ∃ noted, (tr.run es).connections[i]? =
      some { c with stage := c.stage.after (es.filterMap (·.occurrence? i)), noted } := by
  induction es generalizing tr c with
  | nil => exact ⟨c.noted, hc⟩
  | cons e es ih =>
    have hsystem := step_system (h e List.mem_cons_self)
    obtain ⟨noted, hfirst⟩ := connection_step (h e List.mem_cons_self) hc haccepted hserved
    have hrest : ∀ f ∈ es, f.IsTraffic (tr.step e).system.world := by
      rw [hsystem]
      exact fun f hf => h f (List.mem_cons_of_mem e hf)
    obtain ⟨noted', hlater⟩ := ih hrest hfirst (Stage.after_ne_queued haccepted _)
      ((serves_congr hsystem rfl rfl).trans hserved)
    refine ⟨noted', ?_⟩
    rw [run, List.foldl_cons]
    refine hlater.trans ?_
    rw [← Stage.after_append]
    cases ho : e.occurrence? i with
    | none => simp [ho]
    | some o => simp [ho]

/-- A served connection is open if it carries bytes. -/
theorem isOpen_eq (hc : tr.connections[i]? = some c) (hserved : tr.serves c = true) :
    tr.isOpen i = c.stage.isFlowing := by
  rw [isOpen, hc, Option.any_some, hserved, Bool.and_true]

/-- What happens to one connection does not open or close another. -/
theorem isOpen_occur {j : Nat} (hne : j ≠ i) (o : Occurrence) :
    (tr.step (.occur i o)).isOpen j = tr.isOpen j := by
  rw [step, isOpen, connections_withConnection, if_neg hne.symm]
  rfl

/-- In everything that can come about, clients and container ports may do what they like. As long as
accept loops go on, all but connections stays as it is: the list of forwarders, the hook calls and
events, and the listeners. What an accepted connection becomes, and whether it is open, depends on
what happens to it and on no other connection. A failed dial and a reset end the connection that they
happen to for good, and leave every other one open that was open. Whatever else goes on, a tunnel ends
only as its forwarder was told to or as its accept call failed; and an accept call that fails ends the
tunnel with this reason. -/
theorem connections_apart {tr : Traffic} (hr : tr.Reachable) :
    (∀ es : List Event, (∀ e ∈ es, e.IsTraffic tr.system.world) →
      (tr.run es).system = tr.system ∧
      ∀ i c, tr.connections[i]? = some c → c.stage ≠ .queued → tr.serves c = true →
        ((tr.run es).connections[i]?).map (·.stage) =
          some (c.stage.after (es.filterMap (·.occurrence? i))) ∧
        (tr.run es).isOpen i = (c.stage.after (es.filterMap (·.occurrence? i))).isFlowing) ∧
    (∀ os f, Stage.dialling.after (.dialled false :: os) = .finished .unreachable ∧
      (Stage.flowing f).after (.broken :: os) = .finished .broken) ∧
    (∀ i j o, j ≠ i → (tr.step (.occur i o)).isOpen j = tr.isOpen j) ∧
    (∀ es g key t, (g, key, .tunnel t) ∈ tr.system.world.posts →
      (g, key, .tunnel t) ∉ (tr.run es).system.world.posts →
        g ∈ (tr.run es).system.world.cancelled ∨
          ∃ u cause, .turn u (some cause) ∈ es ∧ u.post = (g, key, .tunnel t)) ∧
    (∀ u t cause, u ∈ tr.system.world.tasks → u.role = .tunnel t →
      u.generation ∉ tr.system.world.cancelled →
        (tr.step (.turn u (some cause))).system.world =
          tr.system.world.failTask u ("accept on " ++ t.text ++ " failed: " ++ cause)) := by
  refine ⟨?_, ?_, fun i j o hne => isOpen_occur hne o,
    fun es g key t => post_lost_run hr.system es,
    fun u t cause hu hrole huntold => step_failing hu hrole huntold cause⟩
  · intro es htraffic
    have hsystem := run_system htraffic
    refine ⟨hsystem, ?_⟩
    intro i c hc haccepted hserved
    obtain ⟨noted, hlater⟩ := connection_run htraffic hc haccepted hserved
    refine ⟨by rw [hlater]; rfl, ?_⟩
    exact isOpen_eq hlater ((serves_congr hsystem rfl rfl).trans hserved)
  · intro os f
    exact ⟨Stage.after_finished .unreachable os, Stage.after_finished .broken os⟩

/-! ## Two forwarders and three clients -/

/-- The task that accepts connections to the one forwarder. -/
def webTask : Task := ⟨1, ⟨"default/web", "app"⟩, .tunnel ⟨"127.0.0.1", 8080, 80⟩, false, false⟩

/-- The task that accepts connections to the other. -/
def dbTask : Task := ⟨2, ⟨"default/db", "app"⟩, .tunnel ⟨"127.0.0.1", 8081, 5432⟩, false, false⟩

/-- Both forwarders have been started. Each carries a connection, and one more is being dialled. -/
def threeClients : Traffic :=
  (initial 0 .loopbackOnly).run
    [.act (.request (.start ⟨"default/web", "app"⟩ [⟨"127.0.0.1", 8080, 80⟩] true true)),
      .act (.advance 0), .act (.advance 0),
      .act (.request (.start ⟨"default/db", "app"⟩ [⟨"127.0.0.1", 8081, 5432⟩] true true)),
      .act (.advance 1), .act (.advance 1),
      .arrive "127.0.0.1" 8080, .turn webTask none, .occur 0 (.dialled true),
      .arrive "127.0.0.1" 8081, .turn dbTask none, .occur 1 (.dialled true),
      .arrive "127.0.0.1" 8080, .turn webTask none]

/-- The dial fails, and then a client resets its connection; the third connection stays open. When
the accept call fails of the tunnel that it is for, this tunnel ends. -/
theorem threeClients_apart :
    let calm : List Event := [.occur 2 (.dialled false), .turn webTask none, .occur 1 (.carried .up 5),
      .occur 0 .broken, .occur 1 (.ended .up)]
    threeClients.Reachable ∧ (∀ e ∈ calm, e.IsTraffic threeClients.system.world) ∧
      (threeClients.run calm).system.world.registry.list.length = 2 ∧
      (threeClients.run calm).isOpen 0 = false ∧ (threeClients.run calm).isOpen 1 = true ∧
      (threeClients.step (.turn dbTask (some "no"))).system.world.reports =
        [⟨2, ⟨"default/db", "app"⟩, "accept on 127.0.0.1:8081 -> 5432 failed: no"⟩] := by
  intro calm
  have hr : threeClients.Reachable := ⟨0, .loopbackOnly, _, rfl⟩
  have hcalm : ∀ e ∈ calm, e.IsTraffic threeClients.system.world := by
    intro e he
    simp only [calm, List.mem_cons, List.not_mem_nil, or_false] at he
    rcases he with rfl | rfl | rfl | rfl | rfl
    · exact .occur _ _
    · exact .turn (by decide)
    · exact .occur _ _
    · exact .occur _ _
    · exact .occur _ _
  obtain ⟨htraffic, -, -, -, hfailing⟩ := connections_apart hr
  obtain ⟨hsystem, hconnections⟩ := htraffic calm hcalm
  refine ⟨hr, hcalm, ?_, ?_, ?_, ?_⟩
  · rw [hsystem]
    rfl
  · exact (hconnections 0 _ rfl (by decide) rfl).2
  · exact (hconnections 1 _ rfl (by decide) rfl).2
  · rw [hfailing dbTask ⟨"127.0.0.1", 8081, 5432⟩ "no" (by decide) rfl (by decide)]
    rfl

end Traffic

/-! ## Scripts -/

namespace System

variable {s t u : System}

/-- From the one system to the other, no accept loop fails. -/
def Unfailing (s t : System) : Prop :=
  ∃ actions : List Action, (∀ a ∈ actions, a.failsLoop = false) ∧ t = s.run actions

namespace Unfailing

theorem refl (s : System) : Unfailing s s := ⟨[], fun _ h => absurd h List.not_mem_nil, rfl⟩

theorem step (h : Unfailing s t) {a : Action} (ha : a.failsLoop = false) :
    Unfailing s (t.step a) := by
  obtain ⟨actions, hall, rfl⟩ := h
  refine ⟨actions ++ [a], ?_, (run_snoc s actions a).symm⟩
  intro b hb
  rcases List.mem_append.mp hb with hb | hb
  · exact hall b hb
  · rw [List.mem_singleton.mp hb]
    exact ha

theorem foldl {β : Type} {f : β → Action} (hf : ∀ b, (f b).failsLoop = false) (bs : List β)
    (h : Unfailing s t) : Unfailing s (bs.foldl (fun t b => t.step (f b)) t) := by
  induction bs generalizing t with
  | nil => exact h
  | cons b bs ih => exact ih (h.step (hf b))

/-- The schedule lets no accept loop fail. -/
theorem scheduled {calls : List Nat} {gone : List (Key × String)} (h : Unfailing s t)
    (ht : Scheduled calls gone t u) : Unfailing s u := by
  refine ht.keeps (P := Unfailing s) (fun t a _ ha hst => hst.step ?_) h
  cases ha with
  | fail hrole _ => rw [Action.failsLoop, hrole]; rfl
  | _ => rfl

theorem closeTasks (h : Unfailing s t) : Unfailing s t.closeTasks := by
  have hcloses : Scheduled [] [] t t.closeTasks := scheduled_closeTasks t
  exact h.scheduled hcloses

theorem settle (h : Unfailing s t) (gone : List (Key × String)) : Unfailing s (t.settle gone) := by
  have hsettles : Scheduled [] gone t (t.settle gone) := scheduled_settle t gone
  exact h.scheduled hsettles

end Unfailing
end System

namespace Traffic

variable {tr tr' : Traffic}

theorem Reachable.run (h : tr.Reachable) (es : List Event) : (tr.run es).Reachable := by
  obtain ⟨limit, platform, before, rfl⟩ := h
  exact ⟨limit, platform, before ++ es, (run_append _ before es).symm⟩

theorem run_act (actions : List Action) (hall : ∀ a ∈ actions, a.failsLoop = false)
    (tr : Traffic) :
    tr.run (actions.map .act) = { tr with system := tr.system.run actions } := by
  induction actions generalizing tr with
  | nil => rfl
  | cons a actions ih =>
    have hfirst : tr.step (.act a) = tr.act a :=
      if_neg (Bool.eq_false_iff.mp (hall a List.mem_cons_self))
    rw [List.map_cons, Traffic.run, List.foldl_cons, hfirst]
    exact ih (fun b hb => hall b (List.mem_cons_of_mem a hb)) (tr.act a)

/-- Changes that let no accept loop fail are events. -/
theorem Reachable.unfailing (h : tr.Reachable) (hs : System.Unfailing tr.system tr'.system)
    (hc : tr'.connections = tr.connections) : tr'.Reachable := by
  obtain ⟨actions, hall, hsystem⟩ := hs
  have hrun : tr' = tr.run (actions.map .act) := by
    rw [run_act actions hall, ← hsystem, ← hc]
  rw [hrun]
  exact h.run _

end Traffic

namespace Scenario

open PortForward.System

variable {sc : Scenario}

theorem unfailing_reapAborted (sc : Scenario) : Unfailing sc.system sc.system.reapAborted :=
  (Unfailing.refl _).foldl (fun _ => rfl) _

/-- Time that passes lets no accept loop fail. -/
theorem unfailing_settled (sc : Scenario) : Unfailing sc.system sc.settled.system := by
  rw [settled_system]
  exact (unfailing_reapAborted sc).closeTasks.settle sc.doomed

theorem settled_reachable (h : sc.toTraffic.Reachable) : sc.settled.toTraffic.Reachable :=
  h.unfailing (unfailing_settled sc) rfl

theorem pass_reachable (h : sc.toTraffic.Reachable) (es : List Event) :
    (sc.pass es).toTraffic.Reachable := h.run es

/-- No operation lets an accept loop fail either. -/
theorem unfailing_performOne (sc : Scenario) (o : Operation) :
    Unfailing sc.system (sc.performOne o).1.system := by
  have hreaped := unfailing_reapAborted sc
  have hsystem := performOne_system sc o
  dsimp only at hsystem
  rw [hsystem]
  refine Unfailing.settle (Unfailing.scheduled ?_ (scheduled_complete _ _ _ false)) _
  rcases begin_eq sc.system.reapAborted o with ⟨r, -, hbegin⟩ | ⟨-, answer, hbegin⟩
  · rw [hbegin]
    have hproceeds : Scheduled [sc.system.reapAborted.calls.length] []
        (sc.system.reapAborted.step (.request r)) (beginCall sc.system.reapAborted r).1 :=
      scheduled_proceed List.mem_cons_self _
    exact (hreaped.step rfl).scheduled hproceeds
  · rw [hbegin]
    exact hreaped

/-- One step of a script makes something that can come about of something that can. -/
theorem act_reachable (h : sc.toTraffic.Reachable) (d : Deed) : (sc.act d).toTraffic.Reachable := by
  have changed : ∀ a : Action, a.failsLoop = false →
      Traffic.Reachable { sc.toTraffic with system := sc.system.step a } :=
    fun a ha => h.unfailing ((Unfailing.refl _).step ha) rfl
  cases d with
  | perform o => exact h.unfailing (unfailing_performOne sc o) rfl
  | doom key reason => exact settled_reachable h
  | undoom key => exact h
  | refuse port => exact h
  | accept port => exact h
  | hold address port => exact changed _ rfl
  | letGo address port => exact changed _ rfl
  | stall key => exact changed _ rfl
  | unstall key => exact changed _ rfl
  | wait => exact settled_reachable h
  | connect id address port =>
    rw [act, connect]
    dsimp only
    split
    · exact pass_reachable h _
    · exact pass_reachable h _
    · exact h
  | disconnect id => exact pass_reachable h _
  | exhaust address port cause =>
    rw [act, exhaust]
    split
    · exact settled_reachable (pass_reachable h _)
    · exact h
    · exact h

/-- After a script, the registry and its connections are what can come about. -/
theorem play_reachable (limit : Nat) (platform : Platform) (stopTimeout : Nat) (parallel : Bool)
    (deeds : List Deed) :
    ((unused limit platform stopTimeout parallel).play deeds).toTraffic.Reachable := by
  have hall : ∀ (deeds : List Deed) (sc : Scenario), sc.toTraffic.Reachable →
      (sc.play deeds).toTraffic.Reachable := by
    intro deeds
    induction deeds with
    | nil => exact fun sc h => h
    | cons d deeds ih => exact fun sc h => ih (sc.act d) (act_reachable h d)
  exact hall deeds _ ⟨limit, platform, [], rfl⟩

end Scenario
end PortForward
