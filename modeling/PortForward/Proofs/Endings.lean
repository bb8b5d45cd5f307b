/-
# Every forwarder ends once

Whatever the interleaving, a forwarder that was admitted gets one last event and at most one call
of its stop hook, both after it has left the registry and both with the cause for which it left. A
start that is not admitted leaves no trace.

* `ends_once` : all that is on record of the end of a forwarder;
* `ends_exactly_once` : the same of all forwarders of a run, and of the starts that were rejected.
-/
import PortForward.Bench.Platforms
import PortForward.Proofs.Accounts
import PortForward.Proofs.Removals

namespace PortForward.System

variable {limit : Nat} {platform : Platform} {actions : List Action} {e : Entry}

/-- The records of the journal that pay this to a generation. -/
def payments (s : System) (m : Mark) (g : Nat) : List Record :=
  s.world.journal.filter (Record.pays m g)

/-- All that is on record of the end of an admitted forwarder, after a run in which so much
happened. -/
structure EndsOnce (happened : (System → Action → Prop) → Prop) (s : System) (e : Entry) :
    Prop where
  /-- The stop hook is called at most once, and never if there is none. -/
  hook : (s.payments .stopHook e.generation).length ≤ e.stopHook.toNat
  /-- There is at most one last event. -/
  event : (s.payments .lastEvent e.generation).length ≤ 1
  /-- While the forwarder is registered, there is neither. -/
  registered : ∀ x ∈ s.world.registry.entries, x.generation = e.generation →
    ∀ m, s.payments m e.generation = []
  /-- A forwarder that is not registered any more has left for some cause. -/
  left : (∀ x ∈ s.world.registry.entries, x.generation ≠ e.generation) →
    ∃ x cause, x.generation = e.generation ∧ happened (Leaves x cause)
  /-- Its hook and its event have the cause for which it left. -/
  cause : ∀ x cause, x.generation = e.generation → happened (Leaves x cause) →
    (∀ r ∈ s.payments .stopHook e.generation, r = .stopHook e.generation e.key cause) ∧
    ∀ r ∈ s.payments .lastEvent e.generation, r = e.lastRecord cause
  /-- Once nothing is in flight, both have happened. -/
  ended : s.Idle → ∀ x cause, x.generation = e.generation → happened (Leaves x cause) →
    s.payments .stopHook e.generation =
      (if e.stopHook then [.stopHook e.generation e.key cause] else []) ∧
    s.payments .lastEvent e.generation = [e.lastRecord cause]

/-- As many payments are on record as were made. -/
theorem payments_length (s : System) (m : Mark) (g : Nat) :
    (s.payments m g).length = paid m g s.world.journal := List.countP_eq_length_filter.symm

/-- What is on record of the end of a forwarder has the cause for which it left. -/
theorem payments_cause (he : (initial limit platform).Along actions (Admits e)) {x : Entry}
    {cause : Option Error} (hg : x.generation = e.generation)
    (hx : (initial limit platform).Along actions (Leaves x cause)) {m : Mark} {r : Record}
    (hr : r ∈ ((initial limit platform).run actions).payments m e.generation) :
    (m = .stopHook ∧ r = .stopHook e.generation e.key cause) ∨
      (m = .lastEvent ∧ r = e.lastRecord cause) := by
  obtain ⟨hmem, hpays⟩ := List.mem_filter.mp hr
  rcases record_run hmem with ⟨d, -, hd⟩ | ⟨y, cause', hy, hrec⟩
  · -- the record of a start pays nothing
    rcases hd with rfl | rfl <;> simp [Record.pays, Record.mark?] at hpays
  · have hyg : y.generation = e.generation := by
      rcases hrec with rfl | rfl
      · rw [Record.stopHook_pays, Bool.and_eq_true, beq_iff_eq] at hpays
        exact hpays.1
      · rw [Record.lastRecord_pays, Bool.and_eq_true, beq_iff_eq] at hpays
        exact hpays.1
    -- the record stems from an end of the same generation, and there is only one
    obtain ⟨rfl, rfl⟩ := hx.leaves_eq hy (hg.trans hyg.symm)
    obtain ⟨d, hd, hstage⟩ := hx.leaves_admits
    obtain rfl : d = e := hd.admits_eq he (hstage.generation.symm.trans hg)
    rcases hrec with rfl | rfl
    · rw [Record.stopHook_pays, Bool.and_eq_true, beq_iff_eq, beq_iff_eq] at hpays
      exact Or.inl ⟨hpays.2, by rw [hstage.generation, hstage.key]⟩
    · rw [Record.lastRecord_pays, Bool.and_eq_true, beq_iff_eq, beq_iff_eq] at hpays
      exact Or.inr ⟨hpays.2, hstage.lastRecord cause⟩

/-- A list of one is made of what is in it. -/
theorem eq_singleton_of_length {α : Type} {l : List α} {y : α} (hl : l.length = 1)
    (h : ∀ z ∈ l, z = y) : l = [y] := by
  obtain ⟨z, rfl⟩ := List.length_eq_one_iff.mp hl
  rw [h z (List.mem_singleton_self z)]

/-- Once all that was due to a forwarder that has left is paid, what its cause calls for is on
record, once each. -/
theorem payments_paid (he : (initial limit platform).Along actions (Admits e)) {x : Entry}
    {cause : Option Error} (hg : x.generation = e.generation)
    (hx : (initial limit platform).Along actions (Leaves x cause))
    (hpaid : ∀ m, paid m e.generation ((initial limit platform).run actions).world.journal =
      (e.wants m).toNat) :
    ((initial limit platform).run actions).payments .stopHook e.generation =
      (if e.stopHook then [.stopHook e.generation e.key cause] else []) ∧
    ((initial limit platform).run actions).payments .lastEvent e.generation =
      [e.lastRecord cause] := by
  have hhook := hpaid .stopHook
  have hevent := hpaid .lastEvent
  rw [← payments_length] at hhook hevent
  constructor
  · cases hwants : e.stopHook with
    | true =>
      rw [Entry.wants, hwants] at hhook
      apply eq_singleton_of_length hhook
      intro r hr
      rcases payments_cause he hg hx hr with ⟨-, h⟩ | ⟨h, -⟩
      · exact h
      · cases h
    | false =>
      rw [Entry.wants, hwants] at hhook
      exact List.length_eq_zero_iff.mp hhook
  · apply eq_singleton_of_length hevent
    intro r hr
    rcases payments_cause he hg hx hr with ⟨h, -⟩ | ⟨-, h⟩
    · cases h
    · exact h

/-- A forwarder that has left has no last event, or the one that its cause calls for. -/
theorem lastEvent_of_leaves (he : (initial limit platform).Along actions (Admits e)) {x : Entry}
    {cause : Option Error} (hg : x.generation = e.generation)
    (hx : (initial limit platform).Along actions (Leaves x cause)) :
    ((initial limit platform).run actions).payments .lastEvent e.generation = [] ∨
      ((initial limit platform).run actions).payments .lastEvent e.generation =
        [e.lastRecord cause] := by
  have hlength := paid_le (m := .lastEvent) he
  have hone : (e.wants .lastEvent).toNat = 1 := rfl
  rw [← payments_length, hone] at hlength
  by_cases hnone :
      (((initial limit platform).run actions).payments .lastEvent e.generation).length = 0
  · left
    exact List.length_eq_zero_iff.mp hnone
  · right
    apply eq_singleton_of_length (by omega)
    intro r hr
    rcases payments_cause he hg hx hr with ⟨h, -⟩ | ⟨-, h⟩
    · cases h
    · exact h

/-- An admitted forwarder ends once. -/
theorem ends_once (he : (initial limit platform).Along actions (Admits e)) :
    EndsOnce ((initial limit platform).Along actions) ((initial limit platform).run actions) e where
  hook := by
    rw [payments_length]
    exact paid_le (m := .stopHook) he
  event := by
    rw [payments_length]
    exact paid_le (m := .lastEvent) he
  registered x hx hg m := by
    rw [← List.length_eq_zero_iff, payments_length]
    exact paid_registered he hx hg
  left hgone := by
    rcases registered_or_left he with ⟨x, hx, hg⟩ | hleft
    · exact absurd hg (hgone x hx)
    · exact hleft
  cause x cause hg hx := by
    constructor
    · intro r hr
      rcases payments_cause he hg hx hr with ⟨-, h⟩ | ⟨h, -⟩
      · exact h
      · cases h
    · intro r hr
      rcases payments_cause he hg hx hr with ⟨h, -⟩ | ⟨-, h⟩
      · cases h
      · exact h
  ended hidle x cause hg hx := by
    have hgone := hx.leaves_gone.2
    rw [hg] at hgone
    exact payments_paid he hg hx fun m => paid_idle he hidle hgone

/-! ## Starts that are rejected -/

/-- A call that is over stays so. -/
theorem over_run {s : System} {i : Nat} {answer : Answer} (h : s.calls[i]? = some (.over answer))
    (actions : List Action) : (s.run actions).calls[i]? = some (.over answer) := by
  refine run_induction (s := s) (motive := fun _ t => t.calls[i]? = some (.over answer))
    h ?_ actions
  intro actions a ih
  obtain ⟨d, hd, hnext⟩ := (move_step (s.run actions) a).next (i := i + 1) ih
  rcases hnext with rfl | ⟨-, w, -, hadv⟩ | ⟨-, r, hr, -⟩ | ⟨hi, -⟩
  · exact hd
  · cases hadv
    exact hd
  · cases hr
  · omega

/-- A call that is over does nothing more. -/
theorem step_over {s : System} {i : Nat} {answer : Answer} (h : s.calls[i]? = some (.over answer)) :
    s.step (.advance i) = s ∧ s.step (.giveUp i) = s :=
  ⟨(withCall_eq_put h Call.advance).trans (put_self (k := i + 1) h),
    (withCall_eq_put h Call.giveUp).trans (put_self (k := i + 1) h)⟩

/-- Every record is of a forwarder that was admitted. -/
theorem record_admits {r : Record} (hr : r ∈ ((initial limit platform).run actions).world.journal) :
    ∃ e, (initial limit platform).Along actions (Admits e) ∧ r.generation = e.generation := by
  rcases record_run hr with ⟨e, he, hrec⟩ | ⟨x, cause, hx, hrec⟩
  · refine ⟨e, he, ?_⟩
    rcases hrec with rfl | rfl <;> rfl
  · obtain ⟨e, he, hstage⟩ := hx.leaves_admits
    refine ⟨e, he, ?_⟩
    rcases hrec with rfl | rfl
    · exact hstage.generation
    · cases cause <;> exact hstage.generation

/-- Every admitted forwarder of a run ends once. Every record is of an admitted forwarder; a start
that is rejected changes nothing, neither at once nor later. -/
theorem ends_exactly_once (limit : Nat) (platform : Platform) (actions : List Action) :
    let begun := initial limit platform
    (∀ e, begun.Along actions (Admits e) → EndsOnce (begun.Along actions) (begun.run actions) e) ∧
    (∀ r ∈ (begun.run actions).world.journal,
      ∃ e, begun.Along actions (Admits e) ∧ r.generation = e.generation) ∧
    ∀ before after key batch startHook stopHook cause,
      actions = before ++ .request (.start key batch startHook stopHook) :: after →
      (begun.run before).world.registry.admission key batch = .error cause →
        let s := begun.run before
        let t := begun.run actions
        (s.step (.request (.start key batch startHook stopHook))).world = s.world ∧
          t.calls[s.calls.length]? = some (.over (.error cause)) ∧
          t.step (.advance s.calls.length) = t ∧ t.step (.giveUp s.calls.length) = t := by
  intro begun
  refine ⟨fun e he => ends_once he, fun r hr => record_admits hr, ?_⟩
  intro before after key batch startHook stopHook cause hactions hreject s t
  have hstep : s.step (.request (.start key batch startHook stopHook)) =
      ⟨s.world, s.calls ++ [.over (.error cause)], s.reaper⟩ := step_rejected hreject
  have hover : t.calls[s.calls.length]? = some (.over (.error cause)) := by
    have hrun : t = (s.step (.request (.start key batch startHook stopHook))).run after := by
      show begun.run actions = _
      rw [hactions, run_append]
      rfl
    rw [hrun]
    refine over_run ?_ after
    rw [hstep]
    exact List.getElem?_concat_length
  refine ⟨?_, hover, step_over hover⟩
  rw [hstep]

/-- A forwarder becomes active, a second start of its key is rejected, and both its tasks fail
before the first report is taken. -/
def broken : List Action :=
  let key : Key := ⟨"default/web", "app"⟩
  let tunnel : Tunnel := ⟨"127.0.0.1", 8080, 80⟩
  let start : Request := .start key [tunnel] true true
  [.request start, .advance 0, .advance 0, .advance 0, .advance 0, .request start,
    .fail ⟨1, key, .monitor, false, false⟩ "gone",
    .fail ⟨1, key, .tunnel tunnel, false, false⟩ "refused"]

/-- The reaper takes both reports and deals with them. -/
def reaping : List Action :=
  [.reap, .advanceReaper, .advanceReaper, .advanceReaper, .advanceReaper, .reap]

/-- The forwarder ends once, by the first report. -/
theorem broken_ends :
    let s := (initial 0 .loopbackOnly).run (broken ++ reaping)
    let cause : Error := .terminated ⟨"default/web", "app"⟩ "gone"
    let v : View := ⟨1, ⟨"default/web", "app"⟩, [⟨"127.0.0.1", 8080, 80⟩], .failed⟩
    s.payments .stopHook 1 = [.stopHook 1 ⟨"default/web", "app"⟩ (some cause)] ∧
      s.payments .lastEvent 1 = [.failed v cause] := by
  let key : Key := ⟨"default/web", "app"⟩
  let tunnel : Tunnel := ⟨"127.0.0.1", 8080, 80⟩
  let e : Entry := ⟨1, key, [tunnel], .pending, [], true, true⟩
  have hadmits : (initial 0 .loopbackOnly).Along (broken ++ reaping) (Admits e) :=
    ⟨[], _, _, rfl, true, rfl, by decide, rfl⟩
  have hreaper : ((initial 0 .loopbackOnly).run broken).reaper = .over (.ok .done) := rfl
  have hleaves : (initial 0 .loopbackOnly).Along (broken ++ reaping)
      (Leaves e.activated (some (.terminated key "gone"))) :=
    ⟨broken, .reap, _, rfl, by decide, by decide, .reported hreaper rfl⟩
  have hthreads : ((initial 0 .loopbackOnly).run (broken ++ reaping)).threads =
      [.over (.ok .done), .over (.ok (.view e.activated.view)),
        .over (.error (.keyTaken key))] := rfl
  have hidle : ((initial 0 .loopbackOnly).run (broken ++ reaping)).Idle := by
    intro c hc
    rw [hthreads] at hc
    simp only [List.mem_cons, List.not_mem_nil, or_false] at hc
    rcases hc with rfl | rfl | rfl <;> exact ⟨_, rfl⟩
  have hends := (ends_exactly_once 0 .loopbackOnly (broken ++ reaping)).1 e hadmits
  exact hends.ended hidle e.activated _ rfl hleaves

end PortForward.System
