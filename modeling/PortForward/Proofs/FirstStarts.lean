/-
# A start where nothing is forwarded

A registry of its own, on a machine on which at most other programs listen, is asked for one
forwarder. If that succeeds, the registry listens for the tunnels of this forwarder and for nothing
else; if it fails, everything is as it was.

* `start_fails` : a start that fails changes neither the registry nor the machine;
* `First`, `Vacant.first_start` : what the first start of all leaves.
-/
import PortForward.Proofs.Arrivals

namespace PortForward.Scenario

open PortForward.System

variable {sc : Scenario} {key : Key} {batch : List Tunnel} {hooks : Hooks}

/-- A start that is not admitted leaves everything as it was. -/
theorem rejected_elsewhere (h : sc.AtRest) {cause : Error}
    (hadm : sc.system.world.registry.admission key batch = .error cause) :
    sc.system.world.Elsewhere (fun _ => false)
      (sc.performOne (.start key batch hooks)).1.system.world := by
  have hstill := still_reapAborted sc.system
  obtain ⟨hsheltered, helse⟩ := (h.settled.sheltered (G := fun _ => false) h.reachable fun e he =>
    Or.inr (h.there he)).reapAborted h.reachable
  rw [← hstill.registry] at hadm
  refine (performOne_keeps h.reachable (o := .start key batch hooks) rfl
    (P := fun t => t.Sheltered _ sc.doomed ∧ sc.system.world.Elsewhere _ t.world)
    ?_ fun t a ht ha hs => hs.1.due hs.2 ht ha).2
  rw [step_rejected hadm]
  refine ⟨⟨hsheltered.reports, hsheltered.tasks, hsheltered.targets, ?_⟩, helse⟩
  intro c hc g hg
  rcases List.mem_append.mp (show c ∈ sc.system.reapAborted.threads ++ [_] from hc) with hc | hc
  · exact hsheltered.threads c hc g hg
  · rw [List.mem_singleton.mp hc] at hg
    cases hg

/-- Nothing is left of a start that was admitted and has failed. -/
theorem failed_undone (h : sc.AtRest)
    (hadm : sc.system.world.registry.admission key batch = .ok ()) {cause : Error}
    (hfailed : (sc.performOne (.start key batch hooks)).2 = .error cause) :
    (sc.performOne (.start key batch hooks)).1.system.Undone sc.system.world.registry.next := by
  have hover := performOne_over h.reachable h.settled (o := .start key batch hooks) rfl
  rw [hfailed] at hover
  rw [← (still_reapAborted sc.system).registry] at hadm ⊢
  have hstarted := performOne_keeps h.reachable (o := .start key batch hooks) rfl
    (P := StartedBy _ _) (startedBy_admitted hadm) fun t a ht _ hs => hs.step ht a
  exact hstarted.undone hover

/-- A start that fails changes neither the registry nor the machine. -/
theorem start_fails (h : sc.AtRest) {cause : Error}
    (hfailed : (sc.performOne (.start key batch hooks)).2 = .error cause) :
    (sc.performOne (.start key batch hooks)).1.system.world.registry.entries =
        sc.system.world.registry.entries ∧
      (sc.performOne (.start key batch hooks)).1.system.world.machine =
        sc.system.world.machine := by
  have hrest := performOne_atRest h (.start key batch hooks)
  cases hadm : sc.system.world.registry.admission key batch with
  | error _ =>
    exact hrest.settled.unchanged hrest.reachable (rejected_elsewhere h hadm) (fun _ _ => rfl)
      (fun _ _ => rfl) fun l _ => by cases l.owner <;> rfl
  | ok _ =>
    refine hrest.settled.unchanged hrest.reachable (start_elsewhere h hadm hooks) ?_ ?_
      (h.settled.not_isOf_next h.reachable)
    · exact fun e he => beq_eq_false_iff_ne.mpr ((failed_undone h hadm hfailed).entries e he)
    · exact fun e he => beq_eq_false_iff_ne.mpr (Nat.ne_of_lt (h.reachable.sound.old e he))

/-! ## The first start of all -/

/-- Nothing is forwarded yet, and no target is known to be gone. -/
structure Vacant (m : Machine) (sc : Scenario) : Prop where
  rest : sc.AtRest
  machine : sc.system.world.machine = m
  entries : sc.system.world.registry.entries = []
  doomed : sc.doomed = []

/-- What the start of a forwarder for these tunnels, with this answer, leaves on a machine where
nothing was forwarded: besides what was listened for before, the registry listens for these tunnels
at most; it does so for each of them once if the start has succeeded, and for none if it has failed.
-/
structure First (m : Machine) (key : Key) (tunnels : List Tunnel) (answer : Answer)
    (sc : Scenario) : Prop where
  listeners : ∀ l ∈ sc.system.world.machine.listeners,
    l ∈ m.listeners ∨ ∃ g, ∃ t ∈ tunnels, l.owner = .tunnel g t
  active : ∀ reply, answer = .ok reply → ∃ g, reply = .view ⟨g, key, tunnels, .active⟩ ∧
    sc.system.world.registry.list = [⟨g, key, tunnels, .active⟩] ∧
      sc.system.world.owned.Perm (tunnels.map fun t => (g, t))
  failed : ∀ e, answer = .error e →
    sc.system.world.registry.list = [] ∧ sc.system.world.machine = m

/-- The forwarder that has been started is the only one. -/
theorem Vacant.first_list {m : Machine} (h : sc.Vacant m) {reply : Reply}
    (hok : (sc.performOne (.start key batch hooks)).2 = .ok reply) :
    reply = .view ⟨sc.system.world.registry.next, key, batch, .active⟩ ∧
      (sc.performOne (.start key batch hooks)).1.system.world.registry.list =
        [⟨sc.system.world.registry.next, key, batch, .active⟩] := by
  obtain ⟨hadm, -, hreply⟩ := start_succeeded h.rest hok
  have harrived := start_arrives h.rest hadm (by rw [h.doomed]; rfl) hok
  rw [h.entries, List.perm_singleton] at harrived
  refine ⟨hreply, ?_⟩
  rw [Registry.list, harrived]
  rfl

/-- Who listens after the first start of all did so before, or listens for a tunnel that was bound. -/
theorem Vacant.first_listeners {m : Machine} (h : sc.Vacant m) {reply : Reply}
    (hok : (sc.performOne (.start key batch hooks)).2 = .ok reply)
    {bound : List (Nat × Tunnel)}
    (howned : (sc.performOne (.start key batch hooks)).1.system.world.owned.Perm bound) :
    ∀ l ∈ (sc.performOne (.start key batch hooks)).1.system.world.machine.listeners,
      l ∈ m.listeners ∨ ∃ g t, (g, t) ∈ bound ∧ l.owner = .tunnel g t := by
  intro l hl
  cases howner : l.owner with
  | foreign address =>
    -- others are left alone
    obtain ⟨hadm, -⟩ := start_succeeded h.rest hok
    refine Or.inl (h.machine ▸ ((start_elsewhere h.rest hadm hooks).mem_listeners ?_).mp hl)
    rw [howner]
    rfl
  | tunnel g t =>
    exact Or.inr ⟨g, t, howned.mem_iff.mp (World.mem_owned.mpr ⟨l, hl, howner⟩), rfl⟩

/-- What the first start of all leaves. -/
theorem Vacant.first_start {m : Machine} (h : sc.Vacant m) (key : Key) (batch : List Tunnel)
    (hooks : Hooks) :
    First m key batch (sc.performOne (.start key batch hooks)).2
      (sc.performOne (.start key batch hooks)).1 := by
  have hrest := performOne_atRest h.rest (.start key batch hooks)
  cases hanswer : (sc.performOne (.start key batch hooks)).2 with
  | error cause =>
    obtain ⟨hentries, hmachine⟩ := start_fails h.rest hanswer
    refine ⟨fun l hl => Or.inl ?_, fun reply hok => ?_, fun e _ => ⟨?_, hmachine.trans h.machine⟩⟩
    · rwa [hmachine, h.machine] at hl
    · cases hok
    · rw [Registry.list, hentries, h.entries]
      rfl
  | ok reply =>
    obtain ⟨hreply, hlist⟩ := h.first_list hanswer
    have howned := hrest.settled.owned_perm hrest.reachable
    rw [hlist, List.flatMap_singleton] at howned
    refine ⟨fun l hl => ?_, fun _ hok => ⟨_, ?_, hlist, howned⟩, fun e herror => ?_⟩
    · refine (h.first_listeners hanswer howned l hl).imp_right ?_
      rintro ⟨g, t, hmem, howner⟩
      obtain ⟨x, hx, heq⟩ := List.mem_map.mp hmem
      rw [Prod.mk.injEq] at heq
      exact ⟨g, t, heq.2 ▸ hx, howner⟩
    · rw [← Except.ok.inj hok]
      exact hreply
    · cases herror

end PortForward.Scenario
