/-
# Scripts settle

After every step of a script everything has settled, and the step served the request that it makes
and no other. A settled registry has only active forwarders, and they have all their tasks; so the
listeners of the registry are those of its forwarders' tunnels.

* `Scenario.act_settled` : one step of a script;
* `Scenario.play_settled` : a whole script;
* `Scenario.listeners_exact` : which listeners there are after a script.
-/
import PortForward.Bench.Platforms
import PortForward.Proofs.Clients
import PortForward.Scenario.Script

namespace PortForward

/-! ## Endpoints -/

/-- Where a tunnel listens. -/
def Tunnel.endpoint (t : Tunnel) : String × UInt16 := (t.address, t.localPort)

/-- Tunnels that do not clash listen at different endpoints. -/
theorem Tunnel.endpoint_ne {t u : Tunnel} (h : t.clashes u = false) : t.endpoint ≠ u.endpoint := by
  intro heq
  obtain ⟨haddress, hport⟩ := Prod.mk.inj heq
  simp [Tunnel.clashes, haddress, hport] at h

/-- Where forwarders listen, once for each of their listeners. -/
def World.endpoints (w : World) : List (String × UInt16) := w.owned.map fun p => p.2.endpoint

/-- No endpoint belongs to two tunnels of a sound registry. -/
theorem Registry.Sound.endpoints_nodup {r : Registry} (h : r.Sound) :
    (r.list.flatMap fun v => v.tunnels.map Tunnel.endpoint).Nodup := by
  rw [Registry.list, List.flatMap_map]
  refine List.nodup_flatMap.mpr ⟨?_, ?_⟩
  · intro e he
    exact List.pairwise_map.mpr ((h.batch e he).apart.imp Tunnel.endpoint_ne)
  · refine h.apart.imp ?_
    intro d e hapart p hd he
    obtain ⟨t, ht, rfl⟩ := List.mem_map.mp hd
    obtain ⟨u, hu, hut⟩ := List.mem_map.mp he
    exact Tunnel.endpoint_ne (hapart.tunnels t ht u hu) hut.symm

/-- No tunnel of no generation is listed twice. -/
theorem Registry.Sound.tunnels_nodup {r : Registry} (h : r.Sound) :
    (r.list.flatMap fun v => v.tunnels.map fun t => (v.generation, t)).Nodup := by
  rw [Registry.list, List.flatMap_map]
  refine List.nodup_flatMap.mpr ⟨?_, ?_⟩
  · intro e he
    refine (h.batch e he).nodup.map ?_
    intro t u htu
    exact (Prod.mk.inj htu).2
  · refine h.apart.imp ?_
    intro d e hapart p hd he
    obtain ⟨t, -, rfl⟩ := List.mem_map.mp hd
    obtain ⟨u, -, hut⟩ := List.mem_map.mp he
    exact hapart.generation (Prod.mk.inj hut).1.symm

namespace System

variable {s t : System} {gone : List (Key × String)}

/-! ## Settled registries -/

/-- A settled registry listens for the tunnels of its forwarders and for nothing else. -/
theorem Settled.mem_owned (h : s.Settled) (hr : s.Reachable) {g : Nat} {x : Tunnel} :
    (g, x) ∈ s.world.owned ↔
      ∃ e ∈ s.world.registry.entries, e.generation = g ∧ x ∈ e.tunnels := by
  constructor
  · intro howned
    rcases hr.housed.holder g x howned with ⟨st, bound, ⟨c, hc, hb⟩, -⟩ | hcarries
    · obtain ⟨answer, rfl⟩ := h.idle c hc
      cases hb
    · obtain ⟨u, hu, hg, hrole⟩ := hcarries.task
      rcases hr.staffed.forwarder hu with htold | ⟨e, he, -, heg, -, hroles⟩
      · -- of those that were told to end only watches are left
        have hmonitor := hr.staffed.stalled u hu (h.cleared u hu htold)
        rw [hrole] at hmonitor
        cases hmonitor
      · rw [hrole] at hroles
        exact ⟨e, he, heg.trans hg, by simpa [Entry.roles] using hroles⟩
  · rintro ⟨e, he, rfl, hx⟩
    apply hr.housed.carried
    exact ⟨_, h.posts hr he (show Role.tunnel x ∈ _ by simp [Entry.roles, hx]), rfl, rfl⟩

/-- The listeners of a settled registry are those of its forwarders' tunnels, each once. -/
theorem Settled.owned_perm (h : s.Settled) (hr : s.Reachable) :
    s.world.owned.Perm
      (s.world.registry.list.flatMap fun v => v.tunnels.map fun t => (v.generation, t)) := by
  refine (List.perm_ext_iff_of_nodup hr.housed.once hr.sound.tunnels_nodup).mpr ?_
  rintro ⟨g, x⟩
  rw [h.mem_owned hr]
  simp only [Registry.list, List.mem_flatMap, List.mem_map, Prod.mk.injEq]
  constructor
  · rintro ⟨e, he, rfl, hx⟩
    exact ⟨e.view, ⟨e, he, rfl⟩, x, hx, rfl, rfl⟩
  · rintro ⟨v, ⟨e, he, rfl⟩, x, hx, rfl, rfl⟩
    exact ⟨e, he, rfl, hx⟩

/-! ## What a step serves -/

theorem Serves.of_still (h : Still s t) : Serves none s t := ⟨t, h, .refl⟩

/-- Whatever happens, the machine stays what it is. -/
theorem Continues.platform (h : Continues s t) :
    t.world.machine.platform = s.world.machine.platform := by
  induction h with
  | refl => rfl
  | @step t a _ _ ih => exact (step_machine t a).platform.trans ih

theorem Serves.platform {r? : Option Request} (h : Serves r? s t) :
    t.world.machine.platform = s.world.machine.platform := by
  obtain ⟨u, hstill, hcontinues⟩ := h
  cases r? with
  | none => exact hcontinues.platform.trans hstill.continues.platform
  | some r =>
    have hbegun := (step_machine u (.request r)).platform
    exact (hcontinues.platform.trans hbegun).trans hstill.continues.platform

/-- Where nothing but tasks, listeners and stalls change, everything stays settled. -/
theorem Settled.still (h : s.Settled) (hst : Still s t) (hr : t.world.reports = s.world.reports) :
    t.Settled :=
  ⟨hst.idle h.idle, hr.trans h.reports, hst.cleared h.cleared⟩

/-- Without a call, completion only closes tasks. -/
theorem complete_nil (s : System) (gone : List (Key × String)) (impatient : Bool) :
    s.complete [] gone impatient = s.closeTasks := by
  cases impatient <;> rfl

end System

namespace Scenario

open PortForward.System

variable {sc : Scenario} {s : System}

/-! ## Operations -/

/-- An operation begins a call with its request, or is answered at once. -/
theorem begin_eq (s : System) (o : Operation) :
    (∃ r, o.request? = some r ∧ begin s o = beginCall s r) ∨
      (o.request? = none ∧ ∃ answer, begin s o = (s, .answered answer)) := by
  cases o with
  | startFields key fields hooks =>
    cases h : Fields.tunnels fields with
    | ok batch =>
      refine Or.inl ⟨.start key batch hooks.onStart hooks.onStop, ?_, ?_⟩
      · simp only [Operation.request?, h]
      · simp only [begin, h]
    | error cause =>
      refine Or.inr ⟨?_, .error cause, ?_⟩
      · simp only [Operation.request?, h]
      · simp only [begin, h]
  | start key batch hooks => exact Or.inl ⟨_, rfl, rfl⟩
  | stop key => exact Or.inl ⟨_, rfl, rfl⟩
  | stopPath path => exact Or.inl ⟨_, rfl, rfl⟩
  | stopAll => exact Or.inl ⟨_, rfl, rfl⟩
  | _ => exact Or.inr ⟨rfl, _, rfl⟩

/-- A list of one element at most is its own reverse. -/
theorem reverse_toList {α : Type} (o : Option α) : o.toList.reverse = o.toList := by
  cases o <;> rfl

/-- Nothing is impatient of look-ups that take no time. -/
theorem performOne_system (sc : Scenario) (o : Operation) :
    let gone := (killed? sc.system.reapAborted o).toList ++ sc.doomed
    let begun := begin sc.system.reapAborted o
    (sc.performOne o).1.system =
      (begun.1.complete begun.2.call?.toList gone false).settle gone := by
  simp only [performOne, perform, beginAll, List.append_nil, Nat.not_lt_zero, decide_false,
    reverse_toList]
  cases (begin sc.system.reapAborted o).2 <;> rfl

/-- An operation serves its request, and everything settles. -/
theorem performOne_settled (hr : sc.system.Reachable) (h : sc.system.Settled) (o : Operation) :
    (sc.performOne o).1.system.Settled ∧
      Serves o.request? sc.system (sc.performOne o).1.system := by
  have hstill := still_reapAborted sc.system
  have hsystem := performOne_system sc o
  dsimp only at hsystem
  rw [hsystem]
  generalize (killed? sc.system.reapAborted o).toList ++ sc.doomed = gone
  rcases begin_eq sc.system.reapAborted o with ⟨r, hrequest, hbegin⟩ | ⟨hnone, answer, hbegin⟩
  · rw [hrequest, hbegin]
    obtain ⟨hsettled, hcontinues⟩ := h.serve hr hstill r gone
    exact ⟨hsettled, sc.system.reapAborted, hstill, hcontinues⟩
  · rw [hnone, hbegin]
    have hclosed := hstill.trans (still_closeTasks sc.system.reapAborted)
    obtain ⟨hsettled, hcontinues⟩ := h.settle hr hclosed gone
    simp only [Begun.call?, Option.toList_none, complete_nil]
    exact ⟨hsettled, _, hclosed, hcontinues⟩

/-! ## Steps -/

/-- What happens while time passes. -/
theorem settled_system (sc : Scenario) :
    sc.settled.system = sc.system.reapAborted.closeTasks.settle sc.doomed := by
  simp [settled, perform, beginAll, complete_nil]

/-- Time that passes lets everything settle. -/
theorem settled_settled (hr : s.Reachable) (h : s.Settled) (hst : Still s sc.system) :
    sc.settled.system.Settled ∧ Serves none s sc.settled.system := by
  have hclosed := (hst.trans (still_reapAborted sc.system)).trans (still_closeTasks _)
  rw [settled_system]
  obtain ⟨hsettled, hcontinues⟩ := h.settle hr hclosed sc.doomed
  exact ⟨hsettled, _, hclosed, hcontinues⟩

/-- One step of a script serves its request, and everything settles. -/
theorem act_settled (hr : sc.system.Reachable) (h : sc.system.Settled) (d : Deed) :
    (sc.act d).system.Settled ∧ Serves d.request? sc.system (sc.act d).system := by
  -- a deed of which the registry takes no notice
  have unnoticed : ∀ t, Still sc.system t → t.world.reports = sc.system.world.reports →
      t.Settled ∧ Serves none sc.system t := by
    intro t hst hreports
    exact ⟨h.still hst hreports, .of_still hst⟩
  have same : sc.system.Settled ∧ Serves none sc.system sc.system := unnoticed _ (.refl _) rfl
  cases d with
  | perform o => exact performOne_settled hr h o
  | doom key reason => exact settled_settled (s := sc.system) hr h (.refl _)
  | undoom key => exact same
  | refuse port => exact same
  | accept port => exact same
  | hold address port =>
    have hst : Still sc.system (sc.system.step (.hold address port)) :=
      still_step (by simp) (by simp) rfl rfl
    exact unnoticed _ hst rfl
  | letGo address port =>
    have hst : Still sc.system (sc.system.step (.letGo address port)) :=
      still_step (by simp) (by simp) rfl rfl
    exact unnoticed _ hst rfl
  | stall key =>
    have hst : Still sc.system (sc.system.step (.stall key true)) :=
      still_step (by simp) (by simp) rfl rfl
    exact unnoticed _ hst rfl
  | unstall key =>
    have hst : Still sc.system (sc.system.step (.stall key false)) :=
      still_step (by simp) (by simp) rfl rfl
    exact unnoticed _ hst rfl
  | wait => exact settled_settled hr h (.refl _)
  | connect id address port =>
    rw [act, connect_system hr h]
    exact same
  | disconnect id =>
    rw [act, disconnect_system]
    exact same
  | exhaust address port cause =>
    rw [act, exhaust]
    split
    · exact settled_settled hr h (still_arrival sc address port _)
    · exact same
    · exact same

/-- A script leaves everything settled, and the machine what it is. -/
theorem play_keeps (hr : sc.system.Reachable) (h : sc.system.Settled) (deeds : List Deed) :
    (sc.play deeds).system.Reachable ∧ (sc.play deeds).system.Settled ∧
      (sc.play deeds).system.world.machine.platform = sc.system.world.machine.platform := by
  induction deeds generalizing sc with
  | nil => exact ⟨hr, h, rfl⟩
  | cons d deeds ih =>
    obtain ⟨hsettled, hserves⟩ := act_settled hr h d
    obtain ⟨hreachable, hlater, hplatform⟩ := ih (hserves.reachable hr) hsettled
    exact ⟨hreachable, hlater, hplatform.trans hserves.platform⟩

/-- Where nobody has used the registry yet, everything has settled. -/
theorem unused_settled (limit : Nat) (platform : Platform) (stopTimeout : Nat) (parallel : Bool) :
    (unused limit platform stopTimeout parallel).system.Settled := by
  refine ⟨?_, rfl, ?_⟩
  · intro c hc
    obtain ⟨i, hi⟩ := List.getElem?_of_mem hc
    exact ⟨_, threads_initial hi⟩
  · intro t ht
    cases ht

/-- After a script everything has settled, and nothing came about that could not. -/
theorem play_settled (limit : Nat) (platform : Platform) (stopTimeout : Nat) (parallel : Bool)
    (deeds : List Deed) :
    let sc := (unused limit platform stopTimeout parallel).play deeds
    sc.system.Reachable ∧ sc.system.Settled := by
  intro sc
  obtain ⟨hr, hs, -⟩ := play_keeps (reachable_run limit platform [])
    (unused_settled limit platform stopTimeout parallel) deeds
  exact ⟨hr, hs⟩

/-- It has taken place on the machine that it began on. -/
theorem play_platform (limit : Nat) (platform : Platform) (stopTimeout : Nat) (parallel : Bool)
    (deeds : List Deed) :
    ((unused limit platform stopTimeout parallel).play deeds).system.world.machine.platform =
      platform :=
  (play_keeps (reachable_run limit platform [])
    (unused_settled limit platform stopTimeout parallel) deeds).2.2

/-- After every step of a script all forwarders are active, and the registry listens exactly for
their tunnels, at the local endpoint of each and at each endpoint once. Every listener is on the
port of its tunnel, at the address that the tunnel names. -/
theorem listeners_exact (limit : Nat) (platform : Platform) (stopTimeout : Nat) (parallel : Bool)
    (deeds : List Deed) :
    let w := ((unused limit platform stopTimeout parallel).play deeds).system.world
    (∀ v ∈ w.registry.list, v.status = .active) ∧
      w.owned.Perm (w.registry.list.flatMap fun v => v.tunnels.map fun t => (v.generation, t)) ∧
      w.endpoints.Perm (w.registry.list.flatMap fun v => v.tunnels.map Tunnel.endpoint) ∧
      w.endpoints.Nodup ∧
      ∀ l ∈ w.machine.listeners, ∀ g t, l.owner = .tunnel g t →
        l.port = t.localPort ∧ ∃ zone, w.machine.platform.resolve t.address = .ok ⟨l.address, zone⟩ := by
  intro w
  obtain ⟨hr, hs⟩ := play_settled limit platform stopTimeout parallel deeds
  have howned := hs.owned_perm hr
  have hendpoints :
      w.endpoints.Perm (w.registry.list.flatMap fun v => v.tunnels.map Tunnel.endpoint) := by
    have hmap := howned.map fun p => p.2.endpoint
    rw [List.map_flatMap] at hmap
    simp only [List.map_map] at hmap
    exact hmap
  refine ⟨?_, howned, hendpoints, ?_, hr.placed⟩
  · intro v hv
    obtain ⟨e, he, rfl⟩ := List.mem_map.mp hv
    exact hs.active hr he
  · exact hendpoints.nodup_iff.mpr hr.sound.endpoints_nodup

/-- A batch whose second port is taken leaves the listeners of another forwarder only. -/
example :
    let first : List Tunnel := [⟨"127.0.0.1", 8080, 80⟩]
    let second : List Tunnel := [⟨"127.0.0.1", 8081, 80⟩, ⟨"127.0.0.1", 8443, 443⟩]
    ((unused 0 .loopbackOnly 1000 false).play
        [.hold "127.0.0.1" 8443, .perform (.start ⟨"default/web", "app"⟩ first {}),
          .perform (.start ⟨"default/db", "app"⟩ second {})]).system.world.endpoints =
      [("127.0.0.1", 8080)] := rfl

end Scenario
end PortForward
