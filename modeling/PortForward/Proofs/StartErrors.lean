/-
# Why a start fails

A start that was admitted and is alone with what runs already fails for a tunnel of its batch that
could not be bound, beside listeners that were there before and those of the rest of its batch.

* `Call.Advances.promise?`, `Call.Advances.error?` : where the answer of a call comes from;
* `own_listeners` : which listeners there are while nothing comes from outside;
* `Underway.step` : what such a start keeps while it goes on;
* `start_error` : why it fails in the end.
-/
import PortForward.Proofs.FailedStarts
import PortForward.Proofs.Schedules
import PortForward.Proofs.Sockets

namespace PortForward

/-- A tunnel that cannot be listened for cannot be listened for on the machine. -/
theorem World.listen_eq_error {w : World} {g : Nat} {t : Tunnel} {cause : IoError}
    (h : w.listen g t = .error cause) :
    w.machine.listen (.tunnel g t) t.address t.localPort = .error cause := by
  rw [World.listen] at h
  cases hlisten : w.machine.listen (.tunnel g t) t.address t.localPort with
  | ok machine => simp [hlisten, Except.map] at h
  | error io => simpa [hlisten, Except.map] using h

/-- What a start answers that goes no further. -/
def Setback.error (key : Key) : Setback → Error
  | .refused t cause => .bind t cause
  | .overtaken => .cancelled key

namespace Call

variable {w w' : World} {c d : Call} {e : Error}

/-- The answer that a call is going to give, once that is decided. -/
def promise? : Call → Option Answer
  | .binding _ _ _ => none
  | .dropping s _ setback => some (.error (setback.error s.key))
  | .releasing s setback => some (.error (setback.error s.key))
  | .unbound _ t cause => some (.error (.bind t cause))
  | .activated v _ => some (.ok (.view v))
  | .announcing v => some (.ok (.view v))
  | .waiting r => some r.answer
  | .ending r => some r.answer
  | .reporting r => some r.answer
  | .over answer => some answer

/-- Once the answer is decided, it stays so. -/
theorem Advances.promise? (h : Advances w c w' d) {answer : Answer}
    (ha : c.promise? = some answer) : d.promise? = some answer := by
  cases h with
  | bound _ => cases ha
  | refused _ => cases ha
  | committed _ => cases ha
  | overtaken _ => cases ha
  | _ => exact ha

/-- A call gets an error when a tunnel cannot be bound, or when its forwarder was removed
meanwhile. -/
theorem Advances.error? (h : Advances w c w' d) (he : d.promise? = some (.error e)) :
    c.promise? = some (.error e) ∨
      (∃ st bound t left cause, c = .binding st bound (t :: left) ∧
        w.listen st.generation t = .error cause ∧ e = .bind t cause) ∨
      ∃ st bound, c = .binding st bound [] ∧ e = .cancelled st.key := by
  cases h with
  | refused hlisten =>
    cases he
    exact Or.inr (Or.inl ⟨_, _, _, _, _, rfl, hlisten, rfl⟩)
  | overtaken _ =>
    cases he
    exact Or.inr (Or.inr ⟨_, _, rfl, rfl⟩)
  | bound _ => cases he
  | committed _ => cases he
  | _ => exact Or.inl he

/-- Only a call that binds opens a listener, and it is that of its next tunnel. -/
theorem Advances.listens (h : Advances w c w' d) :
    ∀ l ∈ w'.machine.listeners, l ∈ w.machine.listeners ∨
      ∃ st bound t left, c = .binding st bound (t :: left) ∧
        l.owner = .tunnel st.generation t := by
  intro l hl
  cases h with
  | @bound st bound left t x _ =>
    rcases List.mem_append.mp hl with hl | hl
    · exact Or.inl hl
    · rw [List.mem_singleton.mp hl]
      exact Or.inr ⟨st, bound, t, left, rfl, rfl⟩
  | dropped => exact Or.inl (World.mem_listeners_drop hl)
  | hooked => split at hl <;> exact Or.inl hl
  | ended => split at hl <;> exact Or.inl hl
  | _ => exact Or.inl hl

/-- A call that binds did so before, and had no fewer tunnels left. -/
theorem Advances.binding {st : Start} {bound left : List Tunnel}
    (h : Advances w c w' (.binding st bound left)) :
    ∃ before t, c = .binding st before (t :: left) := by
  cases h with
  | bound _ => exact ⟨_, _, rfl⟩

end Call

namespace System

variable {s t : System} {a : Action} {m : Machine} {g i : Nat} {key : Key} {batch : List Tunnel}

/-! ## Listeners -/

/-- A change that no thread makes and nobody from outside only closes listeners. -/
theorem calm_listeners (ha : a.isOwn = true) (hadv : advances? a = none) (hg : givesUp? a = none)
    (hreap : a ≠ .reap) :
    ∀ l ∈ (s.step a).world.machine.listeners, l ∈ s.world.machine.listeners := by
  have closed : ∀ u : Task, ∀ l ∈ (s.world.endTask u).machine.listeners,
      l ∈ s.world.machine.listeners := fun u l hl => (List.mem_filter.mp hl).1
  intro l hl
  cases a with
  | close u =>
    rw [System.step] at hl
    split at hl
    · exact closed u l hl
    · exact hl
  | fail u reason =>
    rw [System.step] at hl
    split at hl
    · exact closed u l hl
    · exact hl
  | die u =>
    rw [System.step] at hl
    split at hl
    · exact closed u l hl
    · exact hl
  | reap => exact absurd rfl hreap
  | advance i => cases hadv
  | advanceReaper => cases hadv
  | giveUp i => cases hg
  | reaperGivesUp => cases hg
  | _ => cases ha

/-- A thread that is not there changes nothing. -/
theorem step_absent {k : Nat} (ha : advances? a = some k ∨ givesUp? a = some k)
    (hc : s.threads[k]? = none) : s.step a = s := by
  cases k with
  | zero => cases hc
  | succ i =>
    rcases ha with ha | ha
    · rw [eq_advance ha]
      exact withCall_eq_self hc Call.advance
    · rw [eq_giveUp ha]
      exact withCall_eq_self hc Call.giveUp

/-- While nothing comes from outside, the only new listeners are those that a start opens. -/
theorem own_listeners (ha : a.isOwn = true) :
    ∀ l ∈ (s.step a).world.machine.listeners, l ∈ s.world.machine.listeners ∨
      ∃ k st bound t left, advances? a = some k ∧
        s.threads[k]? = some (.binding st bound (t :: left)) ∧
          l.owner = .tunnel st.generation t := by
  intro l hl
  cases hadv : advances? a with
  | some k =>
    cases hc : s.threads[k]? with
    | none =>
      rw [step_absent (Or.inl hadv) hc] at hl
      exact Or.inl hl
    | some c =>
      rw [step_advance_eq hadv hc, put_world] at hl
      refine ((Call.advances_advance s.world c).listens l hl).imp_right ?_
      rintro ⟨st, bound, t, left, rfl, howner⟩
      exact ⟨k, st, bound, t, left, rfl, hc, howner⟩
  | none =>
    left
    cases hg : givesUp? a with
    | some k =>
      cases hc : s.threads[k]? with
      | none =>
        rw [step_absent (Or.inr hg) hc] at hl
        exact hl
      | some c =>
        rw [step_giveUp_eq hg hc, put_world] at hl
        cases c <;> exact hl
    | none =>
      by_cases hreap : a = .reap
      · rw [hreap, step_reap_machine] at hl
        exact hl
      · exact calm_listeners ha hadv hg hreap l hl

/-- While nothing comes from outside, a call that binds did so before, and had no fewer tunnels left.
-/
theorem binding_step (ha : a.isOwn = true) {k : Nat} {st : Start} {bound left : List Tunnel}
    (hd : (s.step a).threads[k]? = some (.binding st bound left)) :
    ∃ had before, s.threads[k]? = some (.binding st had before) ∧ ∀ x ∈ left, x ∈ before := by
  obtain ⟨w, -, ho⟩ := (move_step s a).origin hd
  cases ho with
  | stays hc => exact ⟨bound, left, hc, fun x hx => hx⟩
  | begins hrequest _ =>
    rw [hrequest] at ha
    cases ha
  | advances _ hc hadv =>
    obtain ⟨had, t, rfl⟩ := hadv.binding
    exact ⟨had, t :: left, hc, fun x hx => List.mem_cons_of_mem t hx⟩
  | takes _ _ _ ht => cases ht

/-- Once the answer of a call is decided, it stays so whatever happens. -/
theorem promise_step {c : Call} {answer : Answer} (hc : s.calls[i]? = some c)
    (hp : c.promise? = some answer) (a : Action) :
    ∃ d, (s.step a).calls[i]? = some d ∧ d.promise? = some answer := by
  obtain ⟨d, hd, hnext⟩ := (move_step s a).next (i := i + 1) hc
  refine ⟨d, hd, ?_⟩
  rcases hnext with rfl | ⟨-, w, -, hadv⟩ | ⟨-, q, rfl, rfl⟩ | ⟨hzero, -⟩
  · exact hp
  · exact hadv.promise? hp
  · exact hp
  · omega

/-! ## A start among what runs already -/

/-- A machine as it can be when a start binds a tunnel of its batch: with listeners that were there
before, and such for other tunnels of the batch. -/
structure Beside (m₀ : Machine) (g : Nat) (batch : List Tunnel) (x : Tunnel) (m : Machine) :
    Prop where
  platform : m.platform = m₀.platform
  listeners : ∀ l ∈ m.listeners, l ∈ m₀.listeners ∨ ∃ y ∈ batch, y ≠ x ∧ l.owner = .tunnel g y
  placed : ∀ l ∈ m.listeners, ∀ f y, l.owner = .tunnel f y →
    l.port = y.localPort ∧ ∃ zone, m.platform.resolve y.address = .ok ⟨l.address, zone⟩

/-- Why a start that was admitted may fail: a tunnel of its batch could not be bound, or it was
cancelled. -/
def Excused (m₀ : Machine) (g : Nat) (key : Key) (batch : List Tunnel) (e : Error) : Prop :=
  e = .cancelled key ∨ ∃ x ∈ batch, ∃ cause m, e = .bind x cause ∧ Beside m₀ g batch x m ∧
    m.listen (.tunnel g x) x.address x.localPort = .error cause

/-- Where a start stands among what runs already. -/
structure Underway (m₀ : Machine) (g : Nat) (key : Key) (batch : List Tunnel) (i : Nat)
    (s : System) : Prop where
  platform : s.world.machine.platform = m₀.platform
  listeners : ∀ l ∈ s.world.machine.listeners,
    l ∈ m₀.listeners ∨ ∃ y ∈ batch, l.owner = .tunnel g y
  /-- Nobody else binds. -/
  lone : ∀ k st bound left, s.threads[k]? = some (.binding st bound left) →
    k = i + 1 ∧ st.generation = g ∧ st.key = key ∧ ∀ x ∈ left, x ∈ batch
  call : ∃ c, s.calls[i]? = some c ∧ ∀ e, c.promise? = some (.error e) → Excused m₀ g key batch e

theorem Excused.mono {m' : Machine} {e : Error} (h : Excused m' g key batch e)
    (hplatform : m'.platform = m.platform) (hlisteners : ∀ l ∈ m'.listeners, l ∈ m.listeners) :
    Excused m g key batch e := by
  rcases h with hcancelled | ⟨x, hx, cause, n, he, hbeside, hlisten⟩
  · exact Or.inl hcancelled
  · refine Or.inr ⟨x, hx, cause, n, he, ⟨hbeside.platform.trans hplatform, ?_, hbeside.placed⟩,
      hlisten⟩
    exact fun l hl => (hbeside.listeners l hl).imp_left (hlisteners l)

namespace Underway

/-- A tunnel that cannot be bound is one of the batch, and has no listener yet. -/
theorem refused (h : Underway m g key batch i s) (hr : s.Reachable) {st : Start} {t : Tunnel}
    {bound left : List Tunnel} {cause : IoError}
    (hc : s.calls[i]? = some (.binding st bound (t :: left)))
    (hlisten : s.world.listen st.generation t = .error cause) :
    Excused m g key batch (.bind t cause) := by
  obtain ⟨-, rfl, -, hbatch⟩ := h.lone (i + 1) st bound _ hc
  have hfree := hr.unbound_free (k := i + 1) hc List.mem_cons_self
  refine Or.inr ⟨t, hbatch t List.mem_cons_self, cause, s.world.machine, rfl,
    ⟨h.platform, fun l hl => (h.listeners l hl).imp_right ?_, hr.placed⟩,
    World.listen_eq_error hlisten⟩
  rintro ⟨y, hy, howner⟩
  refine ⟨y, hy, ?_, howner⟩
  rintro rfl
  exact hfree (World.mem_owned.mpr ⟨l, hl, howner⟩)

/-- Nobody else begins to bind while nothing comes from outside. -/
theorem lone_step (h : Underway m g key batch i s) (ha : a.isOwn = true) {k : Nat} {st : Start}
    {bound left : List Tunnel} (hd : (s.step a).threads[k]? = some (.binding st bound left)) :
    k = i + 1 ∧ st.generation = g ∧ st.key = key ∧ ∀ x ∈ left, x ∈ batch := by
  obtain ⟨had, before, hc, hbefore⟩ := binding_step ha hd
  obtain ⟨hk, hg, hkey, hbatch⟩ := h.lone k st had before hc
  exact ⟨hk, hg, hkey, fun x hx => hbatch x (hbefore x hx)⟩

/-- What a start keeps while nothing comes from outside. -/
theorem step (h : Underway m g key batch i s) (hr : s.Reachable) (ha : a.isOwn = true) :
    Underway m g key batch i (s.step a) := by
  refine ⟨(step_machine s a).platform.trans h.platform, ?_, fun k st bound left => h.lone_step ha, ?_⟩
  · intro l hl
    rcases own_listeners ha l hl with hl | ⟨k, st, bound, t, left, -, hc, howner⟩
    · exact h.listeners l hl
    · obtain ⟨-, hg, -, hbatch⟩ := h.lone k st bound _ hc
      exact Or.inr ⟨t, hbatch t List.mem_cons_self, hg ▸ howner⟩
  · obtain ⟨c, hc, hexcused⟩ := h.call
    obtain ⟨d, hd, hnext⟩ := (move_step s a).next (i := i + 1) hc
    refine ⟨d, hd, fun e he => ?_⟩
    rcases hnext with rfl | ⟨-, w, -, hadv⟩ | ⟨-, r, rfl, rfl⟩ | ⟨hzero, -⟩
    · exact hexcused e he
    · rcases hadv.error? he with
        hold | ⟨st, bound, t, left, cause, rfl, hlisten, rfl⟩ | ⟨st, bound, rfl, rfl⟩
      · exact hexcused e hold
      · exact h.refused hr hc hlisten
      · obtain ⟨-, -, hkey, -⟩ := h.lone (i + 1) st bound _ hc
        exact Or.inl (by rw [hkey])
    · exact hexcused e he
    · omega

end Underway

/-- A start that was admitted where nothing was in flight stands at its beginning. -/
theorem Idle.underway (h : s.Idle) {startHook stopHook : Bool}
    (hadm : s.world.registry.admission key batch = .ok ()) :
    Underway s.world.machine s.world.registry.next key batch s.calls.length
      (s.step (.request (.start key batch startHook stopHook))) := by
  rw [step_admitted hadm]
  refine ⟨rfl, fun l hl => Or.inl hl, ?_, ?_⟩
  · intro k st bound left hc
    have hmem : (s.threads ++ [.binding ⟨s.world.registry.next, key, startHook⟩ [] batch])[k]? =
        some (.binding st bound left) := hc
    rw [List.getElem?_append] at hmem
    split at hmem
    · obtain ⟨answer, hover⟩ := h _ (List.mem_of_getElem? hmem)
      cases hover
    · rename_i hk
      have hlt := (List.getElem?_eq_some_iff.mp hmem).1
      rw [List.length_singleton] at hlt
      have hk : k = s.calls.length + 1 := by
        have : s.threads.length = s.calls.length + 1 := rfl
        omega
      have hfirst : k - s.threads.length = 0 := by omega
      rw [hfirst] at hmem
      cases hmem
      exact ⟨hk, rfl, rfl, fun x hx => hx⟩
  · refine ⟨.binding ⟨s.world.registry.next, key, startHook⟩ [] batch, ?_, fun e he => ?_⟩
    · exact List.getElem?_concat_length
    · cases he

/-- A start that was admitted where nothing was in flight, and while nothing came from outside,
failed for a tunnel of its batch or was cancelled. -/
theorem start_error (hr : s.Reachable) (h : s.Idle) {startHook stopHook : Bool}
    (hadm : s.world.registry.admission key batch = .ok ())
    (ht : Proceeds (s.step (.request (.start key batch startHook stopHook))) t) {e : Error}
    (hover : t.calls[s.calls.length]? = some (.over (.error e))) :
    Excused s.world.machine s.world.registry.next key batch e := by
  have hbegun : (s.step (.request (.start key batch startHook stopHook))).Reachable :=
    hr.run [.request (.start key batch startHook stopHook)]
  have hunderway := ht.keeps (P := Underway s.world.machine s.world.registry.next key batch
    s.calls.length) (fun u a hu ha hs => hs.step (hu.reachable hbegun) ha) (h.underway hadm)
  obtain ⟨c, hc, hexcused⟩ := hunderway.call
  rw [hover, Option.some.injEq] at hc
  rw [← hc] at hexcused
  exact hexcused e rfl

/-- Tasks that were given up leave no new listeners when they end. -/
theorem reapAborted_listeners (s : System) :
    s.reapAborted.world.machine.platform = s.world.machine.platform ∧
      ∀ l ∈ s.reapAborted.world.machine.listeners, l ∈ s.world.machine.listeners := by
  have hall : ∀ (ts : List Task) (s : System),
      let t := ts.foldl (fun s u => s.step (.die u)) s
      t.world.machine.platform = s.world.machine.platform ∧
        ∀ l ∈ t.world.machine.listeners, l ∈ s.world.machine.listeners := by
    intro ts
    induction ts with
    | nil => exact fun s => ⟨rfl, fun l hl => hl⟩
    | cons u ts ih =>
      intro s
      have hlisteners := calm_listeners (s := s) (a := .die u) rfl rfl rfl (by simp)
      obtain ⟨hrest, hlater⟩ := ih (s.step (.die u))
      exact ⟨hrest.trans (step_machine s (.die u)).platform, fun l hl => hlisteners l (hlater l hl)⟩
  exact hall s.world.tasks s

end System

namespace Scenario

open PortForward.System

variable {sc : Scenario} {key : Key} {batch : List Tunnel} {hooks : Hooks}

/-- A start that is not admitted answers why. -/
theorem start_rejected (hr : sc.system.Reachable) (h : sc.system.Settled) {cause : Error}
    (hadm : sc.system.world.registry.admission key batch = .error cause) :
    (sc.performOne (.start key batch hooks)).2 = .error cause := by
  have hstill := still_reapAborted sc.system
  obtain ⟨hproceeds, hanswer⟩ := performOne_proceeds hr h
    (show (Operation.start key batch hooks).request? = some _ from rfl)
  rw [← hstill.registry] at hadm
  rw [step_rejected hadm] at hproceeds
  have hover := hproceeds.over List.getElem?_concat_length
  rw [hover, Option.some.injEq, Call.over.injEq] at hanswer
  exact hanswer.symm

/-- A start that was admitted fails for a tunnel of its batch, or was cancelled. -/
theorem start_excused (hr : sc.system.Reachable) (h : sc.system.Settled)
    (hadm : sc.system.world.registry.admission key batch = .ok ()) {e : Error}
    (he : (sc.performOne (.start key batch hooks)).2 = .error e) :
    Excused sc.system.world.machine sc.system.world.registry.next key batch e := by
  have hstill := still_reapAborted sc.system
  obtain ⟨hplatform, hlisteners⟩ := reapAborted_listeners sc.system
  obtain ⟨hproceeds, hanswer⟩ := performOne_proceeds hr h
    (show (Operation.start key batch hooks).request? = some _ from rfl)
  rw [he] at hanswer
  rw [← hstill.registry] at hadm ⊢
  exact (start_error (hstill.continues.reachable hr) (hstill.idle h.idle) hadm hproceeds hanswer).mono
    hplatform hlisteners

end Scenario
end PortForward
