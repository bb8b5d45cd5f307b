/-
# A start that succeeds

Where all is at rest, a start that succeeds adds its forwarder and nothing else: all other entries
and listeners stay as they are. As long as its target is there, the new forwarder is registered once
everything has settled; it is active then, and listens for all its tunnels.

* `Undisturbed.step`, `Undisturbed.removes` : while no target is gone, only a start that fails
  removes its forwarder;
* `Standing.step` : so a start whose answer is not an error leaves its forwarder registered;
* `Scenario.start_elsewhere`, `Scenario.start_arrives` : what a start leaves of others, and what it
  adds.
-/
import PortForward.Proofs.Decisions
import PortForward.Proofs.Elsewhere
import PortForward.Proofs.Preflight

namespace PortForward

namespace World.Elsewhere

variable {w w' : World} {g : Nat} {e : Entry}

/-- All entries but those of a new generation are the ones that there were. -/
theorem others (h : w.Elsewhere (· == g) w') (hnew : ∀ x ∈ w.registry.entries, x.generation ≠ g) :
    w'.registry.entries.filter (fun x => x.generation != g) = w.registry.entries := by
  refine h.entries.trans (List.filter_eq_self.mpr fun x hx => ?_)
  rw [Bool.not_eq_true', beq_eq_false_iff_ne]
  exact hnew x hx

/-- If there is an entry of the new generation, it has been added to those that there were. -/
theorem arrival (h : w.Elsewhere (· == e.generation) w') (hs : w'.registry.Sound)
    (hnew : ∀ x ∈ w.registry.entries, x.generation ≠ e.generation)
    (he : e ∈ w'.registry.entries) : w'.registry.entries.Perm (e :: w.registry.entries) := by
  have hperm := Registry.take_perm w'.registry (· == e.key)
  rw [hs.taken_key he, ← hs.other_generations he, h.others hnew] at hperm
  exact hperm.symm

end World.Elsewhere

namespace System

variable {G : Nat → Bool} {s t : System} {a : Action} {e x : Entry} {g i : Nat}
variable {gone : List (Key × String)} {calls : List Nat} {key : Key} {batch : List Tunnel}
variable {startHook stopHook : Bool}

/-! ## Who may leave -/

/-- No report waits of a forwarder that is registered, and the targets of all of them are there. -/
structure Undisturbed (gone : List (Key × String)) (s : System) : Prop where
  reports : ∀ q ∈ s.world.reports, q.generation ∈ s.world.cancelled
  targets : ∀ e ∈ s.world.registry.entries, gone.lookup e.key = none

namespace Undisturbed

/-- What the schedule does disturbs nobody. -/
theorem step (h : s.Undisturbed gone) (hr : s.Reachable) (ha : a.Due calls gone) :
    (s.step a).Undisturbed gone := by
  constructor
  · intro q hq
    rcases step_report_from hq with hq | ⟨u, hu⟩
    · exact cancelled_step hr.sound a (h.reports q hq)
    · cases hu with
      | failed hu reason =>
        cases ha with
        | fail hrole hlost =>
          -- a watch that fails is not of a registered forwarder, as its target is gone
          rcases hr.staffed.forwarder hu with htold | ⟨e, he, -, -, hk, -⟩
          · exact cancelled_step hr.sound _ htold
          · have hthere := h.targets e he
            rw [hk, hlost] at hthere
            cases hthere
      | died hu haborted => cases ha
  · intro x hx
    rcases (move_step s a).entry hr.sound hr.single hx with hx | ⟨_, rfl, -⟩ | ⟨d, hd, -, rfl⟩
    · exact h.targets x hx
    · cases ha
    · exact h.targets d hd

/-- Only a start that fails removes a forwarder, its own. -/
theorem removes (h : s.Undisturbed gone) (hr : s.Reachable) (ha : a.Due calls gone)
    (he : e ∈ s.world.registry.entries) {cause : Option Error} (hrem : Removes e s a cause) :
    ∃ i ∈ calls, ∃ st t cause, s.calls[i]? = some (.unbound st t cause) := by
  cases hrem with
  | stop => cases ha
  | stopPath => cases ha
  | stopAll => cases ha
  | unbound hi =>
    cases ha with
    | advance hmem => exact ⟨_, hmem, _, _, _, hi⟩
  | reported _ hreports =>
    have htold := h.reports _ (hreports ▸ List.mem_cons_self)
    exact absurd rfl ((hr.staffed.told _ htold).2 e he)

end Undisturbed

/-- Where everybody is sheltered, nobody is disturbed. -/
theorem Sheltered.undisturbed (h : s.Sheltered (fun _ => false) gone) : s.Undisturbed gone where
  reports q hq := (h.reports q hq).resolve_right Bool.false_ne_true
  targets e he := (h.targets e he).resolve_left Bool.false_ne_true

/-! ## A start among what runs already -/

/-- To start one of these forwarders leaves all others sheltered. -/
theorem Sheltered.start (h : s.Sheltered G gone)
    (hadm : s.world.registry.admission key batch = .ok ())
    (hG : G s.world.registry.next = true) :
    (s.step (.request (.start key batch startHook stopHook))).Sheltered G gone := by
  rw [step_admitted hadm]
  refine ⟨h.reports, h.tasks, ?_, ?_⟩
  · intro e he
    rcases Registry.mem_insert.mp he with rfl | he
    · exact Or.inl hG
    · exact h.targets e he
  · intro c hc f hf
    rcases List.mem_append.mp (show c ∈ s.threads ++ [_] from hc) with hc | hc
    · exact h.threads c hc f hf
    · rw [List.mem_singleton.mp hc, Call.own?, Option.some.injEq] at hf
      rw [← hf, hG]

/-- To start a forwarder whose target is there disturbs nobody. -/
theorem Undisturbed.start (h : s.Undisturbed gone)
    (hadm : s.world.registry.admission key batch = .ok ()) (hthere : gone.lookup key = none) :
    (s.step (.request (.start key batch startHook stopHook))).Undisturbed gone := by
  rw [step_admitted hadm]
  refine ⟨h.reports, fun e he => ?_⟩
  rcases Registry.mem_insert.mp he with rfl | he
  · exact hthere
  · exact h.targets e he

/-- The forwarder of this generation is registered, or the call is going to answer an error. -/
def Standing (g i : Nat) (s : System) : Prop :=
  (∃ x ∈ s.world.registry.entries, x.generation = g) ∨
    ∃ c cause, s.calls[i]? = some c ∧ c.promise? = some (.error cause)

/-- While nobody is disturbed, only an error removes the forwarder. -/
theorem Standing.step (h : s.Standing g i) (hs : s.Undisturbed gone) (hr : s.Reachable)
    (ha : a.Due [i] gone) : (s.step a).Standing g i := by
  have failed : ∀ c cause, s.calls[i]? = some c → c.promise? = some (.error cause) →
      (s.step a).Standing g i := by
    intro c cause hc hp
    obtain ⟨d, hd, hpromise⟩ := promise_step hc hp a
    exact Or.inr ⟨d, cause, hd, hpromise⟩
  rcases h with ⟨x, hx, hg⟩ | ⟨c, cause, hc, hp⟩
  · rcases (move_step s a).fate hr.sound hr.single hx with hkept | ⟨-, hkept⟩ | ⟨cause, hrem, -⟩
    · exact Or.inl ⟨x, hkept, hg⟩
    · exact Or.inl ⟨x.activated, hkept, hg⟩
    · obtain ⟨j, hj, st, t, cause, hc⟩ := hs.removes hr ha hx hrem
      rw [List.mem_singleton.mp hj] at hc
      exact failed _ _ hc rfl
  · exact failed c cause hc hp

/-- A forwarder of this generation is this entry, or what it becomes. -/
def Grows (e : Entry) (s : System) : Prop :=
  ∀ x ∈ s.world.registry.entries, x.generation = e.generation → x = e ∨ x = e.activated

/-- It does so unless something is started. -/
theorem Grows.step (h : s.Grows e) (hr : s.Reachable) (ha : ∀ r, a ≠ .request r) :
    (s.step a).Grows e := by
  intro x hx hg
  rcases (move_step s a).entry hr.sound hr.single hx with hx | ⟨_, hrequest, -⟩ | ⟨d, hd, -, rfl⟩
  · exact h x hx hg
  · exact absurd hrequest (ha _)
  · rcases h d hd hg with rfl | rfl
    · exact Or.inr rfl
    · exact Or.inr rfl

end System

namespace Scenario

open PortForward.System

variable {sc : Scenario} {key : Key} {batch : List Tunnel} {hooks : Hooks}

/-- A start that succeeds was admitted, and could bind its batch. -/
theorem start_succeeded (h : sc.AtRest) {reply : Reply}
    (hok : (sc.performOne (.start key batch hooks)).2 = .ok reply) :
    sc.system.world.registry.admission key batch = .ok () ∧
      (∃ k, sc.system.world.machine.listenAll sc.system.world.registry.next batch = .ok k) ∧
      reply = .view ⟨sc.system.world.registry.next, key, batch, .active⟩ := by
  cases hadm : sc.system.world.registry.admission key batch with
  | error cause =>
    rw [start_rejected h.reachable h.settled hadm] at hok
    cases hok
  | ok _ =>
    refine ⟨rfl, ?_⟩
    rw [start_answer h hadm] at hok
    cases hlisten : sc.system.world.machine.listenAll sc.system.world.registry.next batch with
    | error refused =>
      rw [bindAnswer_of_refused (e := Registry.newEntry _ key batch hooks.onStop) hlisten] at hok
      cases hok
    | ok k =>
      rw [bindAnswer_of_bound (e := Registry.newEntry _ key batch hooks.onStop) hlisten] at hok
      cases hok
      exact ⟨⟨k, rfl⟩, rfl⟩

/-- What is admitted and can be bound is started. -/
theorem start_succeeds (h : sc.AtRest)
    (hadm : sc.system.world.registry.admission key batch = .ok ())
    (hlisten : ∃ k, sc.system.world.machine.listenAll sc.system.world.registry.next batch = .ok k) :
    (sc.performOne (.start key batch hooks)).2 =
      .ok (.view ⟨sc.system.world.registry.next, key, batch, .active⟩) := by
  obtain ⟨k, hlisten⟩ := hlisten
  rw [start_answer h hadm]
  exact bindAnswer_of_bound hlisten

section

variable (h : sc.AtRest) (hadm : sc.system.world.registry.admission key batch = .ok ())

include h hadm

/-- A start that is admitted begins to bind, and has done nothing to others. -/
theorem start_begins (startHook stopHook : Bool) :
    let u := sc.system.reapAborted
    let g := sc.system.world.registry.next
    let begun := u.step (.request (.start key batch startHook stopHook))
    begun.world.registry = sc.system.world.registry.insert key batch stopHook ∧
      begun.Sheltered (· == g) sc.doomed ∧ sc.system.world.Elsewhere (· == g) begun.world := by
  intro u g begun
  have hstill := still_reapAborted sc.system
  obtain ⟨hsheltered, helse⟩ := (h.settled.sheltered (G := (· == g)) h.reachable fun e he =>
    Or.inr (h.there he)).reapAborted h.reachable
  have hadmitted : u.world.registry.admission key batch = .ok () := by
    rw [hstill.registry, hadm]
  have hnext : (u.world.registry.next == g) = true := by
    rw [hstill.registry, beq_self_eq_true]
  refine ⟨?_, hsheltered.start hadmitted hnext, helse.trans ?_⟩
  · rw [show begun = _ from step_admitted hadmitted, ← hstill.registry]
    rfl
  · rw [show begun = _ from step_admitted hadmitted]
    exact World.Elsewhere.register (G := (· == g)) hnext key batch stopHook

/-- A start does nothing to others, to the end. -/
theorem start_elsewhere (hooks : Hooks) :
    sc.system.world.Elsewhere (· == sc.system.world.registry.next)
      (sc.performOne (.start key batch hooks)).1.system.world := by
  obtain ⟨-, hsheltered, helse⟩ := start_begins h hadm hooks.onStart hooks.onStop
  exact (performOne_keeps h.reachable (o := .start key batch hooks) rfl
    (P := fun t => t.Sheltered _ sc.doomed ∧ sc.system.world.Elsewhere _ t.world)
    ⟨hsheltered, helse⟩ fun t a ht ha hs => hs.1.due hs.2 ht ha).2

/-- The forwarder that a start leaves registered is active. -/
theorem start_grows :
    let e := sc.system.world.registry.newEntry key batch hooks.onStop
    ∀ x ∈ (sc.performOne (.start key batch hooks)).1.system.world.registry.entries,
      x.generation = e.generation → x = e.activated := by
  intro e x hx hg
  obtain ⟨hregistry, -⟩ := start_begins h hadm hooks.onStart hooks.onStop
  have hgrows := performOne_keeps h.reachable (o := .start key batch hooks) rfl (P := Grows e) (by
    intro x hx hg
    rw [hregistry] at hx
    rcases Registry.mem_insert.mp hx with rfl | hx
    · exact Or.inl rfl
    · exact absurd hg (Nat.ne_of_lt (h.reachable.sound.old x hx)))
    fun t a ht ha hs => hs.step ht fun r hreq => by
      rw [hreq] at ha
      cases ha
  have hrest := performOne_atRest h (.start key batch hooks)
  rcases hgrows x hx hg with rfl | rfl
  · cases hrest.settled.active hrest.reachable hx
  · rfl

/-- A start that succeeds leaves its forwarder registered, as long as its target is there. -/
theorem start_stays (hthere : sc.doomed.lookup key = none) {reply : Reply}
    (hok : (sc.performOne (.start key batch hooks)).2 = .ok reply) :
    ∃ x ∈ (sc.performOne (.start key batch hooks)).1.system.world.registry.entries,
      x.generation = sc.system.world.registry.next := by
  obtain ⟨hregistry, -, -⟩ := start_begins h hadm hooks.onStart hooks.onStop
  have hrest := ((h.settled.sheltered (G := fun _ => false) h.reachable fun e he =>
    Or.inr (h.there he)).reapAborted h.reachable).1.undisturbed
  have hadmitted : sc.system.reapAborted.world.registry.admission key batch = .ok () := by
    rw [(still_reapAborted sc.system).registry, hadm]
  have hbegun : (sc.system.reapAborted.step (.request
      (.start key batch hooks.onStart hooks.onStop))).Standing sc.system.world.registry.next
        sc.system.reapAborted.calls.length := by
    refine Or.inl ⟨sc.system.world.registry.newEntry key batch hooks.onStop, ?_, rfl⟩
    rw [hregistry]
    exact Registry.mem_insert.mpr (Or.inl rfl)
  obtain ⟨-, hstanding⟩ := performOne_keeps h.reachable (o := .start key batch hooks) rfl
    (P := fun t => t.Undisturbed sc.doomed ∧ t.Standing _ _)
    ⟨hrest.start hadmitted hthere, hbegun⟩
    fun t a ht ha hs => ⟨hs.1.step ht ha, hs.2.step hs.1 ht ha⟩
  rcases hstanding with hregistered | ⟨c, cause, hc, hp⟩
  · exact hregistered
  · -- its answer is no error
    rw [performOne_over h.reachable h.settled rfl, Option.some.injEq] at hc
    rw [← hc, hok] at hp
    cases hp

/-- A start that succeeds adds its forwarder to those that there were, as long as its target is
there. -/
theorem start_arrives (hthere : sc.doomed.lookup key = none) {reply : Reply}
    (hok : (sc.performOne (.start key batch hooks)).2 = .ok reply) :
    (sc.performOne (.start key batch hooks)).1.system.world.registry.entries.Perm
      ((sc.system.world.registry.newEntry key batch hooks.onStop).activated ::
        sc.system.world.registry.entries) := by
  have hrest := performOne_atRest h (.start key batch hooks)
  obtain ⟨x, hx, hg⟩ := start_stays h hadm hthere hok
  have hactive := start_grows h hadm x hx hg
  rw [← hactive]
  refine World.Elsewhere.arrival (hg ▸ start_elsewhere h hadm hooks) hrest.reachable.sound ?_ hx
  exact fun e he => hg ▸ Nat.ne_of_lt (h.reachable.sound.old e he)

end

end Scenario
end PortForward
