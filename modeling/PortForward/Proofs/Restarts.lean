/-
# Evictions undo starts

However a forwarder leaves that was started, on request or because one of its tasks failed, nothing
is left of it: the list and the listeners are those from before its start. So the same start succeeds
again, also while a task of the old forwarder that was given up still has to end.

* `Scenario.Evicts` : the ways in which a forwarder leaves;
* `Settled.failed` : one whose task has failed is not registered any more;
* `Evicts.left` : each way removes it and leaves all others alone;
* `Left.undone`, `Left.dropped` : what there was before the start, and reports that come late;
* `Scenario.eviction_undoes_start` : what a second stop and a second start come to.
-/
import PortForward.Bench.Platforms
import PortForward.Proofs.BulkStops
import PortForward.Proofs.EventLog
import PortForward.Proofs.StartOrder

namespace PortForward

namespace Machine

variable {m m' : Machine} {f g : Nat} {t : Tunnel} {x : Net.IpAddress} {batch : List Tunnel}

/-- Only which endpoints are in use makes a difference to what may be listened on. -/
theorem probe_congr (hplatform : m'.platform = m.platform)
    (huse : ∀ x port, m'.inUse x port = m.inUse x port) (address : String) (port : UInt16) :
    m'.probe address port = m.probe address port := by
  unfold probe
  rw [hplatform]
  cases m.platform.resolve address with
  | error cause => rfl
  | ok z =>
    dsimp only
    rw [huse]

/-- Nor does it to which batches can be bound. -/
theorem listenAll_congr (hplatform : m'.platform = m.platform)
    (huse : ∀ x port, m'.inUse x port = m.inUse x port) (h : ∃ k, m.listenAll g batch = .ok k) :
    ∃ k, m'.listenAll f batch = .ok k := by
  induction batch generalizing m m' with
  | nil => exact ⟨m', rfl⟩
  | cons t ts ih =>
    obtain ⟨k, hk⟩ := h
    rw [listenAll, listen] at hk ⊢
    rw [probe_congr hplatform huse]
    cases hx : m.probe t.address t.localPort with
    | error cause =>
      rw [hx] at hk
      cases hk
    | ok x =>
      rw [hx] at hk
      refine @ih (m.withTunnel g t x) (m'.withTunnel f t x) hplatform ?_ ⟨k, hk⟩
      intro y port
      have hbefore := huse y port
      unfold inUse at hbefore ⊢
      simp only [withTunnel, List.any_append, List.any_cons, List.any_nil, hbefore]
      rfl

end Machine

namespace System

variable {G : Nat → Bool} {s t f : System} {u : Task} {gone : List (Key × String)}

/-- Generations are not given back. -/
theorem next_le_run (s : System) (actions : List Action) :
    s.world.registry.next ≤ (s.run actions).world.registry.next :=
  run_induction (motive := fun _ t => s.world.registry.next ≤ t.world.registry.next) (Nat.le_refl _)
    (fun _ a hle => Nat.le_trans hle (move_step _ a).change.next_le) actions

/-! ## Tasks that fail -/

/-- Where no call goes on, nobody is registered anew. -/
theorem Scheduled.registered (h : Scheduled [] gone s t) (hr : s.Reachable) :
    ∀ e ∈ t.world.registry.entries, e ∈ s.world.registry.entries := by
  refine h.keeps (P := fun t => ∀ e ∈ t.world.registry.entries, e ∈ s.world.registry.entries) ?_
    fun e he => he
  intro t a ht ha hsub e he
  have hr := ht.reachable hr
  have hmove := move_step t a
  rcases hmove.entry hr.sound hr.single he with he | ⟨_, rfl, -⟩ | ⟨d, -, ⟨_, _, rfl, -⟩, -⟩
  · exact hsub e he
  · cases ha
  · cases ha with
    | advance hi => cases hi

/-- Tasks that fail one after the other are there no longer. -/
theorem not_mem_failing (s : System) (reason : String) {ts : List Task} (hu : u ∈ ts) :
    u ∉ (ts.foldl (fun s u => s.step (.fail u reason)) s).world.tasks := by
  induction ts generalizing s with
  | nil => cases hu
  | cons v ts ih =>
    rcases List.mem_cons.mp hu with rfl | hu
    · intro hleft
      have hstill := still_failing ts reason (s.step (.fail u reason))
      exact not_mem_fail s u reason (hstill.tasks u hleft)
    · exact ih (s.step (.fail v reason)) hu

/-- Once everything has settled, a forwarder of which a task has failed is not registered. -/
theorem Settled.failed (h : t.Settled) (hr : s.Reachable) (hf : Still s f)
    (hst : Scheduled [] gone f t) (hu : u ∈ s.world.tasks) (hleft : u ∉ f.world.tasks) :
    ∀ e ∈ t.world.registry.entries, e.generation ≠ u.generation := by
  intro e he hg
  have hfr := hf.continues.reachable hr
  have htr := hst.reachable hfr
  have hold : e ∈ s.world.registry.entries := hf.registry ▸ hst.registered hfr e he
  rcases hr.staffed.forwarder hu with htold | ⟨d, hd, -, hdg, -, hrole⟩
  · exact (hr.staffed.told _ htold).2 e hold hg
  · obtain rfl := hr.sound.eq_of_generation hd hold (hdg.trans hg.symm)
    -- a forwarder that is there has all its tasks, this one too
    obtain ⟨x, hx, hpost⟩ := List.mem_map.mp ((hst.posts hfr).subset (h.posts htr he hrole))
    have hxg : x.generation = d.generation := congrArg (·.1) hpost
    have hxrole : x.role = u.role := congrArg (·.2.2) hpost
    rw [hr.staffed.eq_of_post (hf.tasks x hx) hu (hxg.trans hdg) hxrole] at hx
    exact hleft hx

/-- When everything settles, the others are left alone. -/
theorem Sheltered.settles (h : s.Sheltered G gone) (hr : s.Reachable) :
    Scheduled [] gone s.reapAborted (s.reapAborted.closeTasks.settle gone) ∧
      s.world.Elsewhere G (s.reapAborted.closeTasks.settle gone).world := by
  have hst : Scheduled [] gone s.reapAborted (s.reapAborted.closeTasks.settle gone) :=
    (scheduled_closeTasks _).trans (scheduled_settle _ _)
  obtain ⟨hsheltered, helse⟩ := h.reapAborted hr
  have hreaped := (still_reapAborted s).continues.reachable hr
  exact ⟨hst, helse.trans (hsheltered.scheduled hreaped hst).2⟩

end System

namespace Scenario

open PortForward.System

variable {sc sc' : Scenario} {v : View}

/-! ## Ways to leave -/

/-- What becomes of a scenario when a forwarder leaves: it is stopped; its target goes away, once or
for good; a connection arrives at one of its tunnels while nothing can be accepted, for whatever
cause; or some of its tasks fail. -/
inductive Evicts (v : View) (sc : Scenario) : Scenario → Prop
  | stopped : Evicts v sc (sc.performOne (.stop v.key)).1
  | killed (reason : String) : Evicts v sc (sc.performOne (.kill v.key reason)).1
  | doomed (reason : String) : Evicts v sc (sc.doom v.key reason)
  | exhausted {address : String} {port : UInt16} {t : Tunnel} (cause : String)
      (hlate : sc.parallel = false)
      (hmeets : (sc.system.world.machine.listener? address port).map Listener.owner =
        some (.tunnel v.generation t)) : Evicts v sc (sc.exhaust address port cause).1
  | failed {ts : List Task} {reason : String} (hne : ts ≠ [])
      (hts : ∀ u ∈ ts, u ∈ sc.system.world.tasks ∧ u.generation = v.generation) :
      Evicts v sc
        { sc with system := ts.foldl (fun s u => s.step (.fail u reason)) sc.system }.settled

/-- That a forwarder has left, and nothing was done to others; no target has come back. -/
structure Left (v : View) (sc sc' : Scenario) : Prop where
  rest : sc'.AtRest
  absent : ∀ e ∈ sc'.system.world.registry.entries, e.generation ≠ v.generation
  elsewhere : sc.system.world.Elsewhere (· == v.generation) sc'.system.world
  doomed : ∀ d ∈ sc.doomed, ∃ d' ∈ sc'.doomed, d'.1 = d.1

/-- The forwarder of this view is the only one of its key, if it is there at all. -/
def Holds (v : View) (sc : Scenario) : Prop :=
  ∀ e ∈ sc.system.world.registry.entries, e.generation = v.generation ↔ e.key = v.key

section

variable (h : sc.AtRest)

include h

/-- A stop of its key removes the forwarder. -/
theorem left_stopped (hholds : sc.Holds v) : Left v sc (sc.performOne (.stop v.key)).1 := by
  obtain ⟨-, hstops, -⟩ := performOne_stops h (o := .stop v.key) rfl rfl
  refine ⟨hstops.rest, ?_, hstops.elsewhere.mono ?_, ?_⟩
  · intro e he hg
    rw [hstops.entries] at he
    obtain ⟨he, hk⟩ := List.mem_filter.mp he
    rw [(hholds e he).mp hg] at hk
    simp at hk
  · intro g hg
    obtain ⟨e, he, hmatch⟩ := List.any_eq_true.mp hg
    rw [Bool.and_eq_true, beq_iff_eq, beq_iff_eq] at hmatch
    rw [beq_iff_eq, ← hmatch.2, (hholds e he).mpr hmatch.1]
  · rw [performOne_doomed]
    exact fun d hd => ⟨d, hd, rfl⟩

/-- A target that goes away takes the forwarder with it, and no other one. -/
theorem left_gone (hholds : sc.Holds v) {gone : List (Key × String)}
    (hsystem : sc'.system = sc.system.reapAborted.closeTasks.settle gone) (hrest : sc'.AtRest)
    (hlost : ∀ e ∈ sc.system.world.registry.entries, e.key = v.key → ∃ d ∈ gone, d.1 = v.key)
    (hothers : ∀ d ∈ gone, d.1 = v.key ∨ d ∈ sc.doomed)
    (hdoomed : ∀ d ∈ sc.doomed, ∃ d' ∈ sc'.doomed, d'.1 = d.1) : Left v sc sc' := by
  have hr := h.reachable
  have hsheltered : sc.system.Sheltered (· == v.generation) gone := by
    refine h.settled.sheltered hr fun e he => ?_
    by_cases hk : e.key = v.key
    · exact Or.inl (beq_iff_eq.mpr ((hholds e he).mpr hk))
    · refine Or.inr (List.lookup_eq_none_iff.mpr fun d hd => ?_)
      rw [bne_iff_ne]
      rcases hothers d hd with hd | hd
      · exact fun heq => hk (heq.trans hd)
      · exact (h.noticed e he d hd).symm
  obtain ⟨hst, helse⟩ := hsheltered.settles hr
  have hstill := still_reapAborted sc.system
  have hreaped := hstill.continues.reachable hr
  refine ⟨hrest, ?_, hsystem ▸ helse, hdoomed⟩
  intro e he hg
  have hsettled := hrest.settled
  rw [hsystem] at he hsettled
  have hold : e ∈ sc.system.world.registry.entries :=
    hstill.registry ▸ hst.registered hreaped e he
  have hk := (hholds e hold).mp hg
  obtain ⟨d, hd, hdk⟩ := hlost e hold hk
  have hthere := hsettled.noticed ((still_closeTasks _).continues.reachable hreaped) he
  exact ne_of_lookup hthere d hd (hdk.trans hk.symm)

/-- So does a task that fails. -/
theorem left_failed {ts : List Task} {reason : String} (hne : ts ≠ [])
    (hts : ∀ u ∈ ts, u ∈ sc.system.world.tasks ∧ u.generation = v.generation)
    (hsystem : sc'.system = ts.foldl (fun s u => s.step (.fail u reason)) sc.system)
    (hdoomed : sc'.doomed = sc.doomed) : Left v sc sc'.settled := by
  have hr := h.reachable
  have hstill : Still sc.system sc'.system := hsystem ▸ still_failing ts reason sc.system
  have hsheltered : sc.system.Sheltered (· == v.generation) sc.doomed :=
    h.settled.sheltered hr fun e he => Or.inr (h.there he)
  obtain ⟨hfailing, helse⟩ := hsheltered.failing hr ts
    (fun u hu => beq_iff_eq.mpr (hts u hu).2) reason
  have hgone : ∀ u ∈ ts, u ∉ sc'.system.world.tasks := fun u hu =>
    hsystem ▸ not_mem_failing sc.system reason hu
  rw [← hsystem] at hfailing helse
  have hrest : sc'.settled.AtRest := settled_atRest hr h.settled hstill
  obtain ⟨hst, hlater⟩ := hfailing.settles (hstill.continues.reachable hr)
  have hsettles := settled_system sc'
  rw [hdoomed] at hsettles
  refine ⟨hrest, ?_, ?_, fun d hd => ⟨d, hdoomed ▸ hd, rfl⟩⟩
  · obtain ⟨u, hu⟩ := List.exists_mem_of_ne_nil ts hne
    have hsettled := hrest.settled
    rw [hsettles] at hsettled ⊢
    rw [← (hts u hu).2]
    exact hsettled.failed hr (hstill.trans (still_reapAborted sc'.system)) hst (hts u hu).1
      fun hleft => hgone u hu ((still_reapAborted sc'.system).tasks u hleft)
  · rw [hsettles]
    exact helse.trans hlater

/-- Where nothing can be accepted, the task fails whose tunnel a connection is for. -/
theorem left_exhausted {address : String} {port : UInt16} {t : Tunnel} (cause : String)
    (hlate : sc.parallel = false)
    (hmeets : (sc.system.world.machine.listener? address port).map Listener.owner =
      some (.tunnel v.generation t)) : Left v sc (sc.exhaust address port cause).1 := by
  have hr := h.reachable
  obtain ⟨l, hl, howner⟩ := Option.map_eq_some_iff.mp hmeets
  have hacceptors : sc.acceptors address port = sc.system.world.tasks.filter fun u =>
      World.heldBy u (.tunnel v.generation t) && !u.aborted := by
    rw [acceptors, hl]
    dsimp only
    rw [howner]
  have holds : ∀ u ∈ sc.acceptors address port, u ∈ sc.system.world.tasks ∧
      u.generation = v.generation ∧ u.role = .tunnel t := by
    intro u hu
    rw [hacceptors, List.mem_filter, Bool.and_eq_true, World.heldBy_tunnel] at hu
    exact ⟨hu.1, hu.2.1⟩
  rw [exhaust, hmeets]
  dsimp only
  rw [hlate]
  refine left_failed h ?_ (fun u hu => ⟨(holds u hu).1, (holds u hu).2.1⟩)
    (arrival_failing hr h.settled (fun u hu => (holds u hu).2.2) cause) rfl
  -- the task is there, and it has not been given up
  obtain ⟨e, he, hg, ht⟩ := (h.settled.mem_owned hr).mp
    (World.mem_owned.mpr ⟨l, Machine.mem_of_listener? hl, howner⟩)
  obtain ⟨u, hholders, -, -⟩ := h.settled.holders_eq hr he ht
  obtain ⟨hu, hheld⟩ := List.mem_filter.mp (hholders ▸ List.mem_singleton_self u)
  rw [hg] at hheld
  have hlive : u.aborted = false := by
    by_contra haborted
    have htold := hr.staffed.aborted u hu (Bool.not_eq_false _ ▸ haborted)
    exact (hr.staffed.told _ htold).2 e he
      (hg.trans (World.heldBy_tunnel.mp hheld).1.symm)
  refine List.ne_nil_of_mem (a := u) ?_
  rw [hacceptors, List.mem_filter, hheld, hlive]
  exact ⟨hu, rfl⟩

/-- In whichever way a forwarder leaves, it has left. -/
theorem Evicts.left (hev : Evicts v sc sc') (hholds : sc.Holds v) : Left v sc sc' := by
  have kept : ∀ d ∈ sc.doomed, ∃ d' ∈ sc.doomed, d'.1 = d.1 := fun d hd => ⟨d, hd, rfl⟩
  cases hev with
  | stopped => exact left_stopped h hholds
  | killed reason =>
    have hsystem := performOne_system sc (.kill v.key reason)
    dsimp only [begin, Begun.call?, Option.toList_none] at hsystem
    rw [complete_nil] at hsystem
    refine left_gone h hholds hsystem (performOne_atRest h _) ?_ ?_ kept
    · intro e he hk
      have hforwarded : sc.system.reapAborted.world.registry.isForwarded v.key = true := by
        rw [(still_reapAborted sc.system).registry, ← Bool.not_eq_false,
          Registry.isForwarded_eq_false_iff]
        exact fun hunused => hunused e he hk
      refine ⟨(v.key, reason), List.mem_append_left _ ?_, rfl⟩
      rw [killed?, if_pos hforwarded]
      exact List.mem_singleton_self _
    · intro d hd
      rcases List.mem_append.mp hd with hd | hd
      · rw [killed?] at hd
        split at hd
        · rw [List.mem_singleton.mp hd]
          exact Or.inl rfl
        · cases hd
      · exact Or.inr hd
  | doomed reason =>
    refine left_gone h hholds (settled_system _) (act_atRest h (.doom v.key reason)) ?_ ?_ ?_
    · exact fun e he hk => ⟨(v.key, reason), List.mem_cons_self, rfl⟩
    · intro d hd
      rcases List.mem_cons.mp hd with rfl | hd
      · exact Or.inl rfl
      · exact Or.inr (List.mem_filter.mp hd).1
    · intro d hd
      by_cases hk : d.1 = v.key
      · exact ⟨(v.key, reason), List.mem_cons_self, hk.symm⟩
      · exact ⟨d, List.mem_cons_of_mem _ (List.mem_filter.mpr ⟨hd, by simpa using hk⟩), rfl⟩
  | exhausted cause hlate hmeets => exact left_exhausted h cause hlate hmeets
  | failed hne hts => exact left_failed h hne hts rfl rfl

/-- When a forwarder leaves, generations are not given back either. -/
theorem Evicts.next_le (hev : Evicts v sc sc') :
    sc.system.world.registry.next ≤ sc'.system.world.registry.next := by
  have hrun : ∃ actions, sc'.system = sc.system.run actions := by
    cases hev with
    | stopped =>
      obtain ⟨actions, heq, -⟩ := act_run h.reachable h.settled (.perform (.stop v.key))
      exact ⟨actions, heq⟩
    | killed reason =>
      obtain ⟨actions, heq, -⟩ := act_run h.reachable h.settled (.perform (.kill v.key reason))
      exact ⟨actions, heq⟩
    | doomed reason =>
      obtain ⟨actions, heq, -⟩ := act_run h.reachable h.settled (.doom v.key reason)
      exact ⟨actions, heq⟩
    | @exhausted address port _ cause =>
      obtain ⟨actions, heq, -⟩ := act_run h.reachable h.settled (.exhaust address port cause)
      exact ⟨actions, heq⟩
    | @failed ts reason =>
      have hstill := still_failing ts reason sc.system
      generalize ts.foldl (fun s u => s.step (.fail u reason)) sc.system = f at hstill
      have hserves : Serves none sc.system ({ sc with system := f } : Scenario).settled.system :=
        (settled_settled h.reachable h.settled hstill).2
      obtain ⟨actions, heq, -⟩ := hserves.run
      exact ⟨actions, heq⟩
  obtain ⟨actions, heq⟩ := hrun
  rw [heq]
  exact next_le_run sc.system actions

end

/-! ## To start again -/

section

variable {key : Key} {batch : List Tunnel} {hooks : Hooks}

/-- What a start leaves of its key is the forwarder that it has started. -/
theorem start_holds (h : sc.AtRest) (hadm : sc.system.world.registry.admission key batch = .ok ()) :
    Holds ⟨sc.system.world.registry.next, key, batch, .active⟩
      (sc.performOne (.start key batch hooks)).1 := by
  intro e he
  constructor
  · intro hg
    rw [start_grows h hadm e he hg]
    rfl
  · intro hk
    by_contra hg
    -- an old forwarder has another key
    have hold := start_elsewhere h hadm hooks
    have hmem : e ∈ sc.system.world.registry.entries := by
      rw [← hold.others fun x hx => Nat.ne_of_lt (h.reachable.sound.old x hx)]
      exact List.mem_filter.mpr ⟨he, by simpa using hg⟩
    exact (Registry.admission_iff.mp hadm).free e hmem hk

/-- Once the forwarder that was started has left, all is as it was before. -/
theorem Left.undone (hleft : Left v (sc.performOne (.start key batch hooks)).1 sc') (h : sc.AtRest)
    (hadm : sc.system.world.registry.admission key batch = .ok ())
    (hg : v.generation = sc.system.world.registry.next) :
    sc'.system.world.registry.entries = sc.system.world.registry.entries ∧
      sc'.system.world.registry.limit = sc.system.world.registry.limit ∧
      sc'.system.world.machine = sc.system.world.machine := by
  have hlater := hleft.elsewhere
  have habsent := hleft.absent
  rw [hg] at hlater habsent
  have helse := (start_elsewhere h hadm hooks).trans hlater
  have hgone : ∀ e ∈ sc'.system.world.registry.entries,
      (e.generation == sc.system.world.registry.next) = false :=
    fun e he => beq_eq_false_iff_ne.mpr (habsent e he)
  obtain ⟨-, hlisteners⟩ := hleft.rest.settled.elsewhere hleft.rest.reachable
    (G := (· == sc.system.world.registry.next)) hgone helse
  have hentries := helse.others fun x hx => Nat.ne_of_lt (h.reachable.sound.old x hx)
  rw [List.filter_eq_self.mpr fun e he => bne_iff_ne.mpr (habsent e he)] at hentries
  rw [List.filter_eq_self.mpr fun l hl => by rw [h.settled.not_isOf_next h.reachable l hl]; rfl]
    at hlisteners
  refine ⟨hentries, helse.limit, ?_⟩
  calc
    sc'.system.world.machine
    _ = ⟨sc'.system.world.machine.platform, sc'.system.world.machine.listeners⟩ := rfl
    _ = ⟨sc.system.world.machine.platform, sc.system.world.machine.listeners⟩ := by
      rw [helse.platform, hlisteners]

/-- A start that was admitted uses up its generation. -/
theorem start_next (h : sc.AtRest) (hadm : sc.system.world.registry.admission key batch = .ok ()) :
    sc.system.world.registry.next <
      (sc.performOne (.start key batch hooks)).1.system.world.registry.next := by
  obtain ⟨hregistry, -⟩ := start_begins h hadm hooks.onStart hooks.onStop
  refine performOne_keeps h.reachable (o := .start key batch hooks) rfl
    (P := fun t => sc.system.world.registry.next < t.world.registry.next) ?_ ?_
  · rw [hregistry]
    exact Nat.lt_succ_self _
  · exact fun t a _ _ hlt => Nat.lt_of_lt_of_le hlt (move_step t a).change.next_le

/-- A start succeeds where there is the same in its way as where it has succeeded. -/
theorem start_succeeds_again (h : sc.AtRest) (h' : sc'.AtRest)
    (hentries : sc'.system.world.registry.entries = sc.system.world.registry.entries)
    (hlimit : sc'.system.world.registry.limit = sc.system.world.registry.limit)
    (hmachine : sc'.system.world.machine = sc.system.world.machine) {reply : Reply}
    (hok : (sc.performOne (.start key batch hooks)).2 = .ok reply) :
    (sc'.performOne (.start key batch hooks)).2 =
      .ok (.view ⟨sc'.system.world.registry.next, key, batch, .active⟩) := by
  obtain ⟨hadm, hlisten, -⟩ := start_succeeded h hok
  have hadmissible := Registry.admission_iff.mp hadm
  refine start_succeeds h' (Registry.admission_iff.mpr ⟨hadmissible.listenable, ?_, ?_, ?_⟩) ?_
  · rw [hentries]
    exact hadmissible.free
  · rw [hentries, hlimit]
    exact hadmissible.room
  · rw [hentries]
    exact hadmissible.clear
  · exact Machine.listenAll_congr (by rw [hmachine]) (fun x port => by rw [hmachine]) hlisten

/-- A start answers the same while reports of tasks that were given up still wait, whenever each of
them is taken. -/
theorem start_among_reports (h : sc.AtRest)
    (hadm : sc.system.world.registry.admission key batch = .ok ()) (ts : List Task) {t : System}
    {answer : Answer} :
    let waiting := ts.foldl (fun s u => s.step (.die u)) sc.system
    Scheduled [waiting.calls.length] sc.doomed
      (waiting.step (.request (.start key batch hooks.onStart hooks.onStop))) t →
    t.calls[waiting.calls.length]? = some (.over answer) →
    answer = (sc.performOne (.start key batch hooks)).2 := by
  intro waiting hst hover
  have hwaiting : Still sc.system waiting := still_dying ts sc.system
  rw [start_answer h hadm]
  exact ((h.settled.resting h.reachable).dying h.reachable ts).answers
    (hwaiting.continues.reachable h.reachable) hadm (fun _ => h.there) hst hover

/-- The same start as before comes to the same, as long as the target is there. -/
theorem Left.alike (hleft : Left v (sc.performOne (.start key batch hooks)).1 sc') (h : sc.AtRest)
    (hlist : sc'.system.world.registry.list = sc.system.world.registry.list)
    {reply reply' : Reply} (hok : (sc.performOne (.start key batch hooks)).2 = .ok reply)
    (hok' : (sc'.performOne (.start key batch hooks)).2 = .ok reply')
    (hthere : sc'.doomed.lookup key = none) :
    (sc.performOne (.start key batch hooks)).1.system.world.Alike
      (sc'.performOne (.start key batch hooks)).1.system.world := by
  have hrest := performOne_atRest h (.start key batch hooks)
  have hrest' := performOne_atRest hleft.rest (.start key batch hooks)
  have hbefore : sc.doomed.lookup key = none := by
    refine List.lookup_eq_none_iff.mpr fun d hd => ?_
    obtain ⟨d', hd', hk⟩ := hleft.doomed d (by rw [performOne_doomed]; exact hd)
    exact hk ▸ List.lookup_eq_none_iff.mp hthere d' hd'
  have hjoins := (start_joins h hbefore hok).list_undated
  have hjoins' := (start_joins hleft.rest hthere hok').list_undated
  obtain ⟨hadm', -⟩ := start_succeeded hleft.rest hok'
  have helse := start_elsewhere hleft.rest hadm' hooks
  refine hrest.settled.alike hrest.reachable hrest'.settled hrest'.reachable
    (helse.platform.trans hleft.elsewhere.platform) ?_ ?_
  · rw [View.undated_newEntry] at hjoins
    rw [View.undated_newEntry, hlist] at hjoins'
    exact list_undated hrest.reachable hrest'.reachable (hjoins'.trans hjoins.symm)
  · exact helse.foreign.trans hleft.elsewhere.foreign

/-- A report of a forwarder that has left is dropped, whatever comes before it is taken. -/
theorem Left.dropped (hleft : Left v sc sc')
    (hold : v.generation < sc'.system.world.registry.next) {actions : List Action} {a : Action}
    {q : Report} (hq : q.generation = v.generation)
    (htakes : TakesReport q (sc'.system.run actions) a) :
    ((sc'.system.run actions).step a).world = { (sc'.system.run actions).world with
      reports := (sc'.system.run actions).world.reports.tail } := by
  rw [htakes.stale fun x hx hg => ?_]
  obtain ⟨d, hd, hdg⟩ := registered_of_run hleft.rest.reachable hold ⟨x, hx, hg.trans hq⟩
  exact hleft.absent d hd hdg

end

/-- A stop of a key that nobody has finds nothing, and changes nothing. -/
theorem stop_unused (h : sc.AtRest) {key : Key} (hunused : sc.system.world.registry.Unused key) :
    (sc.performOne (.stop key)).2 = .error (.notFound key) ∧
      (sc.performOne (.stop key)).1.Concurs sc ∧
      (sc.performOne (.stop key)).1.system.world.journal = sc.system.world.journal := by
  have hfree : ∀ e ∈ sc.system.world.registry.entries, (e.key == key) = false :=
    fun e he => beq_eq_false_iff_ne.mpr (hunused e he)
  have hnone : sc.system.world.registry.entries.filter (fun e => e.key == key) = [] :=
    List.filter_eq_nil_iff.mpr fun e he => by rw [hfree e he]; exact Bool.false_ne_true
  obtain ⟨hanswer, hstops, hjournal⟩ := performOne_stops h (o := .stop key) rfl rfl
  have hnobody : Stops (fun _ => false) sc (sc.performOne (.stop key)).1 := hstops.congr hfree
  rw [hnone] at hanswer hjournal
  exact ⟨hanswer, hnobody.concurs (.refl h) h.reachable, hjournal.trans (List.append_nil _)⟩

/-- Suppose that a start succeeds where all is at rest, and that its forwarder leaves, in whichever
way. Then the list and the listeners are those from before the start. A second stop of the key finds
nothing and changes nothing. The same start succeeds again under a new generation, also while
reports of tasks that were given up still wait, whenever each of them is taken; as long as the
target is there, it comes to the same as the first time. And no report of the forwarder that has
left ever does anything, whatever comes before it is taken. -/
theorem eviction_undoes_start (h : sc.AtRest) (key : Key) (batch : List Tunnel) (hooks : Hooks)
    {gone : Scenario}
    (hstart : (sc.performOne (.start key batch hooks)).2 = .ok (.view v))
    (hev : Evicts v (sc.performOne (.start key batch hooks)).1 gone) :
    let first := (sc.performOne (.start key batch hooks)).1
    let stop := gone.performOne (.stop key)
    let again := gone.performOne (.start key batch hooks)
    (gone.system.world.registry.list = sc.system.world.registry.list ∧
      gone.system.world.machine.listeners = sc.system.world.machine.listeners) ∧
    (stop.2 = .error (.notFound key) ∧ stop.1.Concurs gone ∧
      stop.1.system.world.journal = gone.system.world.journal) ∧
    again.2 = .ok (.view ⟨gone.system.world.registry.next, key, batch, .active⟩) ∧
    (∀ (ts : List Task) (t : System) (answer : Answer),
      let waiting := ts.foldl (fun s u => s.step (.die u)) gone.system
      Scheduled [waiting.calls.length] gone.doomed
        (waiting.step (.request (.start key batch hooks.onStart hooks.onStop))) t →
      t.calls[waiting.calls.length]? = some (.over answer) → answer = again.2) ∧
    (gone.doomed.lookup key = none → first.system.world.Alike again.1.system.world) ∧
    ∀ (actions : List Action) (a : Action) (q : Report), q.generation = v.generation →
      TakesReport q (gone.system.run actions) a →
      ((gone.system.run actions).step a).world = { (gone.system.run actions).world with
        reports := (gone.system.run actions).world.reports.tail } := by
  dsimp only
  obtain ⟨hadm, -, hv⟩ := start_succeeded h hstart
  obtain rfl := Reply.view.inj hv
  have hrest := performOne_atRest h (.start key batch hooks)
  have hleft := hev.left hrest (start_holds h hadm)
  have hold := Nat.lt_of_lt_of_le (start_next h hadm) (hev.next_le hrest)
  obtain ⟨hentries, hlimit, hmachine⟩ := hleft.undone h hadm rfl
  have hlist : gone.system.world.registry.list = sc.system.world.registry.list := by
    rw [Registry.list, Registry.list, hentries]
  have hunused : gone.system.world.registry.Unused key := by
    intro e he
    rw [hentries] at he
    exact (Registry.admission_iff.mp hadm).free e he
  have hagain := start_succeeds_again h hleft.rest hentries hlimit hmachine hstart
  obtain ⟨hadm', -⟩ := start_succeeded hleft.rest hagain
  refine ⟨⟨hlist, by rw [hmachine]⟩, stop_unused hleft.rest hunused, hagain, ?_, ?_, ?_⟩
  · exact fun ts t answer hst hover => start_among_reports hleft.rest hadm' ts hst hover
  · exact hleft.alike h hlist hstart hagain
  · exact fun actions a q hq htakes => hleft.dropped hold hq htakes

/-- A registry with one place, where the watch of a target stalls. -/
def onePlace : Scenario := (unused 1 .loopbackOnly 1000 false).play [.stall ⟨"default/web", "app"⟩]

/-- A start for that target. -/
def stallingStart : Operation :=
  .start ⟨"default/web", "app"⟩ [⟨"127.0.0.1", 8080, 80⟩, ⟨"localhost", 9090, 90⟩] {}

/-- After the start and a stop that does not wait for the watch any longer. -/
def timedOut : Scenario :=
  ((onePlace.performOne stallingStart).1.performOne (.stop ⟨"default/web", "app"⟩)).1

/-- After a stop that has timed out, the report of the watch is still to come. -/
theorem timedOut_undoes_start :
    onePlace.AtRest ∧
      (onePlace.performOne stallingStart).2 = .ok (.view ⟨1, ⟨"default/web", "app"⟩,
        [⟨"127.0.0.1", 8080, 80⟩, ⟨"localhost", 9090, 90⟩], .active⟩) ∧
      (timedOut.system.world.tasks.map fun u => (u.generation, u.aborted)) = [(1, true)] ∧
      timedOut.system.world.registry.list = [] ∧
      (timedOut.performOne (.stop ⟨"default/web", "app"⟩)).2 =
        .error (.notFound ⟨"default/web", "app"⟩) ∧
      (timedOut.performOne stallingStart).2 = .ok (.view ⟨2, ⟨"default/web", "app"⟩,
        [⟨"127.0.0.1", 8080, 80⟩, ⟨"localhost", 9090, 90⟩], .active⟩) ∧
      (onePlace.performOne stallingStart).1.system.world.Alike
        (timedOut.performOne stallingStart).1.system.world := by
  have hrest : onePlace.AtRest := play_atRest 1 .loopbackOnly 1000 false _
  have hstart : (onePlace.performOne stallingStart).2 = .ok (.view ⟨1, ⟨"default/web", "app"⟩,
      [⟨"127.0.0.1", 8080, 80⟩, ⟨"localhost", 9090, 90⟩], .active⟩) := rfl
  have hev : Evicts ⟨1, ⟨"default/web", "app"⟩, [⟨"127.0.0.1", 8080, 80⟩, ⟨"localhost", 9090, 90⟩],
      .active⟩ (onePlace.performOne stallingStart).1 timedOut := .stopped
  obtain ⟨⟨hlist, -⟩, ⟨hanswer, -⟩, hagain, -, halike, -⟩ :=
    eviction_undoes_start hrest _ _ {} hstart hev
  exact ⟨hrest, hstart, rfl, hlist, hanswer, hagain, halike rfl⟩

end Scenario
end PortForward
