/-
# Targets that are gone

The watch of a target that is gone fails, its report is taken, and the forwarder is removed. So once
everything has settled, the targets of all registered forwarders are there.

* `not_mem_noticeGone` : no watch of a target that is gone is left;
* `Settled.noticed` : so no forwarder of such a target is left in a settled registry;
* `Scenario.AtRest`, `Scenario.play_atRest` : after every step of a script it is like this.
-/
import PortForward.Proofs.Schedules

namespace PortForward

namespace System

variable {s t : System} {u : Task} {g : Nat} {gone : List (Key × String)}

/-! ## Watches that fail -/

/-- A task that fails is there no longer. -/
theorem not_mem_fail (s : System) (u : Task) (reason : String) :
    u ∉ (s.step (.fail u reason)).world.tasks := by
  rw [step]
  by_cases hu : u ∈ s.world.tasks
  · rw [if_pos (List.contains_iff_mem.mpr hu)]
    intro hmem
    exact (World.mem_tasks_endTask.mp hmem).2 rfl
  · rw [if_neg fun h => hu (List.contains_iff_mem.mp h)]
    exact hu

/-- Of a target that is gone, only watches are left that were given up. -/
theorem not_mem_noticeGone (s : System) {reason : String} (hrole : u.role = .monitor)
    (hlive : u.aborted = false) (hgone : gone.lookup u.key = some reason) :
    u ∉ (s.noticeGone gone).world.tasks := by
  have hfails : ∀ s, noticeOne gone s u = s.step (.fail u reason) := by
    intro s
    rw [noticeOne, hgone, hlive]
    exact if_pos ⟨hrole, rfl⟩
  -- its turn comes, and no task comes back
  have hall : ∀ (ts : List Task) (s : System), u ∈ ts →
      u ∉ (ts.foldl (noticeOne gone) s).world.tasks := by
    intro ts
    induction ts with
    | nil => exact fun s hu => absurd hu List.not_mem_nil
    | cons t ts ih =>
      intro s hmem hu
      rcases List.mem_cons.mp hmem with rfl | hmem
      · have hleft := (still_foldl (still_noticeOne gone) ts (noticeOne gone s u)).tasks u hu
        rw [hfails] at hleft
        exact not_mem_fail s u reason hleft
      · exact ih (noticeOne gone s t) hmem hu
  intro hu
  exact hall s.world.tasks s ((still_noticeGone s gone).tasks u hu) hu

/-! ## What the reaper leaves -/

/-- Where no call goes on, no post is filled. -/
theorem Scheduled.posts (h : Scheduled [] gone s t) (hr : s.Reachable) :
    t.world.posts.Sublist s.world.posts := by
  refine h.keeps (P := fun t => t.world.posts.Sublist s.world.posts) ?_ (List.Sublist.refl _)
  intro t a ht ha hsub
  rcases step_posts (ht.reachable hr).single a with hstep | ⟨e, -, ⟨i, startHook, rfl, -⟩, -⟩
  · exact hstep.trans hsub
  · cases ha with
    | advance hi => cases hi

/-- Who was told to end stays so. -/
theorem Scheduled.cancelled {calls : List Nat} (h : Scheduled calls gone s t) (hr : s.Reachable)
    (hg : g ∈ s.world.cancelled) : g ∈ t.world.cancelled :=
  h.keeps (P := fun t => g ∈ t.world.cancelled)
    (fun _ a ht _ hmem => cancelled_step (ht.reachable hr).sound a hmem) hg

/-- Once all reports are dealt with, no forwarder is left whose target is gone. -/
theorem Settled.noticed (h : (s.settle gone).Settled) (hr : s.Reachable) {e : Entry}
    (he : e ∈ (s.settle gone).world.registry.entries) : gone.lookup e.key = none := by
  by_contra hne
  obtain ⟨reason, hgone⟩ := Option.ne_none_iff_exists'.mp hne
  have hnotice : (s.noticeGone gone).Reachable := (still_noticeGone s gone).continues.reachable hr
  have hreap : Scheduled [] gone (s.noticeGone gone) (s.settle gone) := scheduled_reapMany _ _
  have hsettled := (hreap.reachable hnotice).staffed
  -- its watch would have all that was there when the target was found to be gone
  have hpost := h.posts (hreap.reachable hnotice) he (show Role.monitor ∈ _ by simp [Entry.roles])
  obtain ⟨u, hu, heq⟩ := List.mem_map.mp ((hreap.posts hnotice).subset hpost)
  obtain ⟨hg, hk, hrole⟩ : u.generation = e.generation ∧ u.key = e.key ∧ u.role = .monitor := by
    simpa [Task.post] using heq
  have hlive : u.aborted = false := by
    by_contra haborted
    have htold := hnotice.staffed.aborted u hu (Bool.not_eq_false _ ▸ haborted)
    exact (hsettled.told _ (hreap.cancelled hnotice htold)).2 e he hg.symm
  rw [← hk] at hgone
  exact not_mem_noticeGone s hrole hlive hgone hu

end System

namespace Scenario

open PortForward.System

variable {sc sc' : Scenario} {s : System}

/-- Nothing is left to do: everything has settled, and the targets of all forwarders are there. -/
structure AtRest (sc : Scenario) : Prop where
  reachable : sc.system.Reachable
  settled : sc.system.Settled
  noticed : ∀ e ∈ sc.system.world.registry.entries, ∀ d ∈ sc.doomed, d.1 ≠ e.key

/-- A key that is looked up in vain is not in the list. -/
theorem ne_of_lookup {key : Key} {gone : List (Key × String)} (h : gone.lookup key = none) :
    ∀ d ∈ gone, d.1 ≠ key := by
  intro d hd hkey
  have hne := List.lookup_eq_none_iff.mp h d hd
  rw [hkey] at hne
  simp at hne

/-- Where all is at rest, the target of every forwarder is there. -/
theorem AtRest.there (h : sc.AtRest) {e : Entry} (he : e ∈ sc.system.world.registry.entries) :
    sc.doomed.lookup e.key = none := by
  refine List.lookup_eq_none_iff.mpr fun d hd => ?_
  rw [bne_iff_ne]
  exact (h.noticed e he d hd).symm

/-- What has settled with all targets that are gone is at rest. -/
theorem atRest_of_settle {gone : List (Key × String)} (hr : s.Reachable)
    (hsystem : sc.system = s.settle gone) (h : sc.system.Settled)
    (hdoomed : ∀ d ∈ sc.doomed, d ∈ gone) : sc.AtRest := by
  refine ⟨?_, h, ?_⟩
  · have hsettle : Scheduled [] gone s (s.settle gone) := scheduled_settle s gone
    rw [hsystem]
    exact hsettle.reachable hr
  · intro e he d hd
    rw [hsystem] at he h
    exact ne_of_lookup (h.noticed hr he) d (hdoomed d hd)

/-- Where no forwarder and no target that is gone comes in, all stays at rest. -/
theorem AtRest.still (h : sc.AtRest) (hr : sc'.system.Reachable) (hs : sc'.system.Settled)
    (hregistry : sc'.system.world.registry = sc.system.world.registry)
    (hdoomed : ∀ d ∈ sc'.doomed, d ∈ sc.doomed) : sc'.AtRest := by
  refine ⟨hr, hs, ?_⟩
  intro e he d hd
  rw [hregistry] at he
  exact h.noticed e he d (hdoomed d hd)

/-- Time that passes brings all to rest. -/
theorem settled_atRest (hr : s.Reachable) (h : s.Settled) (hst : Still s sc.system) :
    sc.settled.AtRest := by
  have hclosed := (hst.trans (still_reapAborted sc.system)).trans (still_closeTasks _)
  exact atRest_of_settle (hclosed.continues.reachable hr) (settled_system sc)
    (settled_settled hr h hst).1 fun d hd => hd

/-- No operation takes a target away for good. -/
theorem performOne_doomed (sc : Scenario) (o : Operation) :
    (sc.performOne o).1.doomed = sc.doomed := rfl

/-- After an operation all is at rest. -/
theorem performOne_atRest (h : sc.AtRest) (o : Operation) : (sc.performOne o).1.AtRest := by
  have hstill := still_reapAborted sc.system
  have hsettled := (performOne_settled h.reachable h.settled o).1
  have hsystem := performOne_system sc o
  dsimp only at hsystem
  refine atRest_of_settle ?_ hsystem hsettled fun d hd => List.mem_append_right _ hd
  rcases begin_eq sc.system.reapAborted o with ⟨r, -, hbegin⟩ | ⟨-, answer, hbegin⟩
  · rw [hbegin]
    exact (h.settled.completes h.reachable hstill r _).1.reachable
      ((hstill.continues.reachable h.reachable).run [.request r])
  · rw [hbegin, Begun.call?, Option.toList_none, complete_nil]
    exact (hstill.trans (still_closeTasks _)).continues.reachable h.reachable

/-- After one step of a script all is at rest. -/
theorem act_atRest (h : sc.AtRest) (d : Deed) : (sc.act d).AtRest := by
  obtain ⟨hs, hserves⟩ := act_settled h.reachable h.settled d
  have hr := hserves.reachable h.reachable
  cases d with
  | perform o => exact performOne_atRest h o
  | doom key reason => exact settled_atRest (s := sc.system) h.reachable h.settled (.refl _)
  | undoom key => exact h.still hr hs rfl fun d hd => (List.mem_filter.mp hd).1
  | refuse port => exact h.still hr hs rfl fun d hd => hd
  | accept port => exact h.still hr hs rfl fun d hd => hd
  | hold address port =>
    have hst : Still sc.system (sc.system.step (.hold address port)) :=
      still_step (by simp) (by simp) rfl rfl
    exact h.still hr hs hst.registry fun d hd => hd
  | letGo address port => exact h.still hr hs rfl fun d hd => hd
  | stall key => exact h.still hr hs rfl fun d hd => hd
  | unstall key => exact h.still hr hs rfl fun d hd => hd
  | wait => exact settled_atRest h.reachable h.settled (.refl _)
  | connect id address port =>
    refine h.still hr hs ?_ fun d hd => ?_
    · rw [act, connect_system h.reachable h.settled]
    · rw [act, connect_doomed] at hd
      exact hd
  | disconnect id =>
    refine h.still hr hs ?_ fun d hd => hd
    rw [act, disconnect_system]
  | exhaust address port cause =>
    rw [act, exhaust]
    split
    · exact settled_atRest h.reachable h.settled (still_arrival sc address port _)
    · exact h
    · exact h

/-- After a script all is at rest. -/
theorem play_atRest (limit : Nat) (platform : Platform) (stopTimeout : Nat) (parallel : Bool)
    (deeds : List Deed) : ((unused limit platform stopTimeout parallel).play deeds).AtRest := by
  have hall : ∀ (deeds : List Deed) (sc : Scenario), sc.AtRest → (sc.play deeds).AtRest := by
    intro deeds
    induction deeds with
    | nil => exact fun sc h => h
    | cons d deeds ih => exact fun sc h => ih (sc.act d) (act_atRest h d)
  obtain ⟨hr, hs⟩ := play_settled limit platform stopTimeout parallel []
  exact hall deeds _ ⟨hr, hs, fun e he => absurd he List.not_mem_nil⟩

end Scenario
end PortForward
