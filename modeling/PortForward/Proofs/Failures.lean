/-
# One part that fails brings the forwarder down

Each task of an active forwarder may fail, in any order and beside any stops. What counts is who
comes first: the report that was left first, if the reaper takes it while the forwarder is still
registered, or else a stop. The forwarder leaves as a whole, its end is told once and with that
cause, and reports of it that are taken later are dropped.

* `Reachable.opening_pending`, `Reachable.call_cause` : only the reaper removes an active forwarder
  for a cause;
* `LeftFor`, `Along.leftFor` : what there is of a forwarder after it has left;
* `taken_paid`, `reaper_ends` : the reaper tells of the end, and gets through with it on its own;
* `first_report_decides` : all of it, for every active forwarder of every run.
-/
import PortForward.Bench.Platforms
import PortForward.Proofs.Lifecycle
import PortForward.Proofs.Reports

namespace PortForward

/-- What a call still has to pay is of forwarders that it has removed. -/
theorem Call.mem_owed {m : Mark} {c : Call} {x : Entry} (h : x ∈ c.owed m) :
    ∃ r, c.removal? = some r ∧ x ∈ r.entries := by
  cases c with
  | waiting r => exact ⟨r, rfl, h⟩
  | ending r => exact ⟨r, rfl, h⟩
  | reporting r =>
    cases m with
    | stopHook => exact ⟨r, rfl, List.mem_of_mem_tail h⟩
    | lastEvent => exact ⟨r, rfl, h⟩
  | _ => cases h

namespace System

variable {s t : System} {a : Action} {e x : Entry} {c : Call} {st : Start} {r : Removal}
variable {cause : Option Error} {key : Key} {reason : String} {i : Nat}
variable {limit : Nat} {platform : Platform} {actions : List Action}

/-! ## Who removes for what -/

/-- A forwarder that is being opened is not active. -/
theorem Reachable.opening_pending (h : s.Reachable) (hc : s.threads[i]? = some c)
    (hst : c.opening? = some st) (he : e ∈ s.world.registry.entries)
    (hg : e.generation = st.generation) : e.status = .pending := by
  refine h.invariant (P := fun s => ∀ i c st, s.threads[i]? = some c → c.opening? = some st →
    ∀ e ∈ s.world.registry.entries, e.generation = st.generation → e.status = .pending)
    ?_ ?_ i c st hc hst e he hg
  · intro limit platform i c st hc hst
    rw [threads_initial hc] at hst
    cases hst
  · intro s a hr ih i d st hd hst e he hg
    have hmove := move_step s a
    obtain ⟨w, -, ho⟩ := hmove.origin hd
    -- the entry is as it was, as its start has not made it active
    have old : ∀ c, s.threads[i]? = some c → c.opening? = some st → e.status = .pending := by
      intro c hc hopen
      rcases hmove.entry hr.sound hr.single he with he | hadm | ⟨x, hx, hcommits, rfl⟩
      · exact ih i c st hc hopen e he hg
      · obtain ⟨-, -, -, hnew⟩ := hadm
        rw [hnew]
        rfl
      · exact absurd hcommits
          (hr.single.not_commits hr.sound hc (Call.own?_of_opening? hopen) hd hst hx hg)
    cases ho with
    | stays hc => exact old d hc hst
    | begins ha hb =>
      cases hb with
      | admitted hadm =>
        cases hst
        rcases hmove.entry hr.sound hr.single he with hold | hnew | ⟨x, -, ⟨j, _, ha', -⟩, -⟩
        · exact absurd hg (Nat.ne_of_lt (hr.sound.old e hold))
        · obtain ⟨-, -, -, hnew⟩ := hnew
          rw [hnew]
          rfl
        · rw [ha] at ha'
          cases ha'
      | _ => cases hst
    | advances _ hc hadv => exact old _ hc (hadv.opening? hst)
    | givesUp _ _ => cases hst
    | takes _ _ _ ht => cases ht <;> cases hst

/-- No call but the reaper removes a forwarder for a report. -/
theorem Reachable.call_cause (h : s.Reachable) (hc : s.calls[i]? = some c)
    (hr : c.removal? = some r) : r.cause ≠ some (.terminated key reason) := by
  refine h.invariant (P := fun s => ∀ i c r, s.threads[i + 1]? = some c → c.removal? = some r →
    r.cause ≠ some (.terminated key reason)) ?_ ?_ i c r hc hr
  · intro limit platform i c r hc hr
    rw [threads_initial hc] at hr
    cases hr
  · intro s a hreach ih i d r hd hr
    obtain ⟨w, -, ho⟩ := (move_step s a).origin hd
    generalize hk : i + 1 = k at ho
    cases ho with
    | stays hc => exact ih i d r (hk ▸ hc) hr
    | begins _ hb =>
      cases hb with
      | removed _ _ =>
        cases hr
        simp
      | _ => cases hr
    | advances _ hc hadv =>
      subst hk
      cases hadv with
      | evicted _ =>
        -- a start takes its forwarder back as it was refused an endpoint
        cases hr
        simp
      | quiet _ =>
        cases hr
        exact ih i _ _ hc rfl
      | waits =>
        cases hr
        exact ih i _ _ hc rfl
      | ended =>
        cases hr
        exact ih i _ _ hc rfl
      | reported =>
        cases hr
        have hold := ih i _ _ hc rfl
        exact hold
      | _ => cases hr
    | givesUp _ hc =>
      subst hk
      cases hr
      exact ih i _ _ hc rfl
    | takes _ _ _ _ => cases hk

/-- An active forwarder leaves on a stop, or the reaper takes its oldest report. -/
theorem Leaves.of_active (h : Leaves e cause s a) (hr : s.Reachable) (hactive : e.status = .active) :
    (cause = none ∧ ∃ request, a = .request request) ∨
      ∃ q, s.oldest? e.generation = some q ∧ TakesReport q s a ∧
        cause = some (.terminated e.key q.reason) := by
  have hrem := h.removes
  cases hrem with
  | stop => exact Or.inl ⟨rfl, _, rfl⟩
  | stopPath => exact Or.inl ⟨rfl, _, rfl⟩
  | stopAll => exact Or.inl ⟨rfl, _, rfl⟩
  | @unbound i _ _ _ hi =>
    have hpending := hr.opening_pending (i := i + 1) hi rfl h.mem rfl
    rw [hactive] at hpending
    cases hpending
  | @reported answer reason reports ho hreports =>
    have htakes : TakesReport ⟨e.generation, e.key, reason⟩ s .reap :=
      ⟨rfl, ⟨answer, ho⟩, by rw [hreports]; rfl⟩
    exact Or.inr ⟨_, htakes.oldest, htakes, rfl⟩

/-! ## What is left of a forwarder -/

/-- Who was told to end stays told. -/
theorem cancelled_run (h : s.Reachable) {g : Nat} (hg : g ∈ s.world.cancelled)
    (actions : List Action) : g ∈ (s.run actions).world.cancelled :=
  run_induction (motive := fun _ t => g ∈ t.world.cancelled) hg
    (fun actions a ih => cancelled_step (h.run actions).sound a ih) actions

/-- The forwarder has left for this cause: it is not registered, all its tasks were told to end, and
what is on record of its end was told for this cause, once at most. -/
structure LeftFor (e : Entry) (cause : Option Error) (t : System) : Prop where
  gone : ∀ x ∈ t.world.registry.entries, x.generation ≠ e.generation
  told : e.generation ∈ t.world.cancelled
  hook : t.payments .stopHook e.generation <+:
    if e.stopHook then [.stopHook e.generation e.key cause] else []
  event : t.payments .lastEvent e.generation <+: [e.lastRecord cause]

/-- A list that has at most one element, and this one if it has any. -/
theorem prefix_of_length {α : Type} {l : List α} {y : α} {b : Bool} (hl : l.length ≤ b.toNat)
    (h : ∀ z ∈ l, z = y) : l <+: if b then [y] else [] := by
  cases l with
  | nil => exact List.nil_prefix
  | cons z zs =>
    cases b with
    | false => exact absurd hl (by simp)
    | true =>
      have hzs : zs = [] := by simpa using hl
      rw [hzs, h z List.mem_cons_self]
      exact List.prefix_refl _

/-- What has left at some moment of a run has left for its cause ever after. -/
theorem Along.leftFor (h : (initial limit platform).Along actions (Leaves e cause)) :
    LeftFor e cause ((initial limit platform).run actions) := by
  obtain ⟨d, hd, hstage⟩ := h.leaves_admits
  have hends := ends_once hd
  have hcause := hends.cause e cause hstage.generation h
  have hhook := hends.hook
  have hevent := hends.event
  rw [← hstage.generation] at hcause hhook hevent
  rw [← hstage.key, ← hstage.lastRecord] at hcause
  refine ⟨h.leaves_gone.2, ?_, ?_, ?_⟩
  · obtain ⟨before, a, after, rfl, hleaves⟩ := h
    have hr := reachable_run limit platform before
    rw [run_append]
    exact cancelled_run (hr.run [a]) (cancelled_of_lost hr.sound hleaves.mem hleaves.gone) after
  · exact prefix_of_length (hstage.stopHook ▸ hhook) hcause.1
  · exact prefix_of_length (b := true) hevent hcause.2

/-! ## The reaper -/

/-- Once the reaper is through, all that was due to a forwarder that it has removed is told. -/
theorem taken_paid
    (h : (initial limit platform).Along actions (Leaves e (some (.terminated key reason))))
    (hfree : ((initial limit platform).run actions).ReaperFree) :
    ((initial limit platform).run actions).payments .stopHook e.generation =
      (if e.stopHook then [.stopHook e.generation e.key (some (.terminated key reason))] else []) ∧
    ((initial limit platform).run actions).payments .lastEvent e.generation =
      [e.lastRecord (some (.terminated key reason))] := by
  obtain ⟨d, hd, hstage⟩ := h.leaves_admits
  have hr := reachable_run limit platform actions
  have hgone := h.leaves_gone.2
  -- no call has removed it, and the reaper has nothing left
  have hunowed : ∀ m, ∀ c ∈ ((initial limit platform).run actions).threads, ∀ x ∈ c.owed m,
      x.generation ≠ e.generation := by
    intro m c hc x hx hg
    obtain ⟨r, hremoval, hmem⟩ := Call.mem_owed hx
    obtain ⟨k, hk⟩ := List.getElem?_of_mem hc
    have hsame := (removal_run hk hremoval hmem).leaves_eq h hg
    cases k with
    | zero =>
      obtain ⟨answer, ho⟩ := hfree
      rw [threads_zero, ho, Option.some.injEq] at hk
      rw [← hk] at hremoval
      cases hremoval
    | succ i => exact hr.call_cause hk hremoval hsame.2
  rw [hstage.generation] at hgone hunowed
  have hpaid := payments_paid hd hstage.generation h fun m => paid_unowed hd (hunowed m) hgone
  rw [← hstage.generation, ← hstage.key, ← hstage.lastRecord, ← hstage.stopHook] at hpaid
  exact hpaid

/-- A reaper that waits for nothing gets through with its own changes alone. -/
theorem reaper_ends (n : Nat) (hclosing : s.reaper.Closing) (hproper : s.reaper.Proper)
    (hn : s.reaper.changesLeft ≤ n) :
    (s.run (List.replicate n .advanceReaper)).ReaperFree := by
  induction n generalizing s with
  | zero =>
    have hstuck := stuck_of_changesLeft (w := s.world) hproper (Nat.le_zero.mp hn)
    exact Call.over_of_stuck hstuck hclosing
  | succ n ih =>
    have hadv := Call.advances_advance s.world s.reaper
    have hleft : (s.reaper.advance s.world).2.changesLeft ≤ n := by
      by_cases hs : isStuck s.world s.reaper = true
      · obtain ⟨answer, ho⟩ := Call.over_of_stuck hs hclosing
        rw [ho]
        exact Nat.zero_le n
      · have hless := Call.changesLeft_advance hproper (Bool.not_eq_true _ ▸ hs)
        omega
    exact ih (s := s.step .advanceReaper) (hadv.closing hclosing) (hadv.proper hproper) hleft

/-- The reaper gets through with what it is busy with on its own, if it has to without waiting. -/
theorem reaper_through (h : s.Reachable) :
    ∃ turns : List Action, (∀ a ∈ turns, a = .reaperGivesUp ∨ a = .advanceReaper) ∧
      (s.run turns).ReaperFree := by
  let n := (s.reaper.giveUp s.world).2.changesLeft
  refine ⟨.reaperGivesUp :: List.replicate n .advanceReaper, ?_, ?_⟩
  · intro a ha
    rcases List.mem_cons.mp ha with rfl | ha
    · exact Or.inl rfl
    · exact Or.inr (List.eq_of_mem_replicate ha)
  · have hnext := (h.run [.reaperGivesUp]).proper (threads_zero _)
    have hclosing : (s.step .reaperGivesUp).reaper.Closing := by
      have hown := h.single.reaper
      show (s.reaper.giveUp s.world).2.Closing
      cases hc : s.reaper with
      | waiting r => exact ⟨rfl, by simp [Call.giveUp]⟩
      | binding st bound left =>
        rw [hc] at hown
        cases hown
      | dropping st bound setback =>
        rw [hc] at hown
        cases hown
      | releasing st setback =>
        rw [hc] at hown
        cases hown
      | unbound st t cause =>
        rw [hc] at hown
        cases hown
      | activated v startHook =>
        rw [hc] at hown
        cases hown
      | announcing v =>
        rw [hc] at hown
        cases hown
      | _ => exact ⟨rfl, by simp [Call.giveUp]⟩
    exact reaper_ends (s := s.step .reaperGivesUp) n hclosing hnext (Nat.le_refl n)

/-! ## The first report -/

/-- Take an active forwarder at any moment of any run, and any continuation.

Its reports were left by tasks of it that failed or were given up. A task that ends because it was
told to leaves none, neither then nor later. While the forwarder is registered, the report that was
left first stays the oldest.

It leaves on a stop, or as the reaper takes its oldest report. A report of it that is taken while it
is registered removes it as it is, with its whole batch, and no other forwarder; one that is taken
later is dropped, and nothing else happens.

Once it has left, it does not come back, its tasks were told to end, and its stop hook and its last
event are told once at most, for the cause for which it left. If that was a report, both have been
told as soon as the reaper is through with it; the reaper gets there with its own changes alone. -/
theorem first_report_decides (limit : Nat) (platform : Platform) (before : List Action) (e : Entry)
    (he : e ∈ ((initial limit platform).run before).world.registry.entries)
    (hactive : e.status = .active) (after : List Action) :
    let begun := initial limit platform
    let s := begun.run before
    let t := s.run after
    let terminated (q : Report) : Option Error := some (.terminated e.key q.reason)
    ((∀ q ∈ t.world.reports, ∃ u, begun.Along (before ++ after) fun s a => Reports u s q a) ∧
      (∀ u ∈ t.world.tasks, u.generation ∈ t.world.cancelled →
        (t.step (.close u)).world.reports = t.world.reports ∧
          ∀ more a v q, Reports v ((t.step (.close u)).run more) q a → v.post ≠ u.post) ∧
      ∀ q, s.oldest? e.generation = some q →
        (∃ x ∈ t.world.registry.entries, x.generation = e.generation) →
        t.oldest? e.generation = some q) ∧
    (∀ cause a, Leaves e cause t a →
      (cause = none ∧ ∃ request, a = .request request) ∨
        ∃ q, t.oldest? e.generation = some q ∧ TakesReport q t a ∧ cause = terminated q) ∧
    (∀ q a, TakesReport q t a → q.generation = e.generation →
      (e ∈ t.world.registry.entries ∧ Leaves e (terminated q) t a ∧
          (t.step a).world.registry.entries =
            t.world.registry.entries.filter fun x => x.generation != e.generation) ∨
        ((∀ x ∈ t.world.registry.entries, x.generation ≠ e.generation) ∧
          t.step a =
            ⟨{ t.world with reports := t.world.reports.tail }, t.calls, .over (.ok .done)⟩)) ∧
    ∀ cause a, Leaves e cause t a → ∀ more,
      let u := (t.step a).run more
      LeftFor e cause u ∧
        (cause ≠ none → u.ReaperFree →
          u.payments .stopHook e.generation =
              (if e.stopHook then [.stopHook e.generation e.key cause] else []) ∧
            u.payments .lastEvent e.generation = [e.lastRecord cause]) ∧
        ∃ turns : List Action, (∀ b ∈ turns, b = .reaperGivesUp ∨ b = .advanceReaper) ∧
          (u.run turns).ReaperFree := by
  intro begun s t terminated
  have hs : s.Reachable := reachable_run limit platform before
  have ht : t.Reachable := hs.run after
  have hrun : t = begun.run (before ++ after) := (run_append _ before after).symm
  refine ⟨⟨?_, ?_, ?_⟩, ?_, ?_, ?_⟩
  · intro q hq
    exact report_run (hrun ▸ hq)
  · exact fun u hu htold => not_reports_of_closed ht hu htold
  · exact fun q hq hregistered => oldest_run hs hq hregistered
  · exact fun cause a hleaves => hleaves.of_active ht hactive
  · intro q a htakes hg
    by_cases hgone : ∀ x ∈ t.world.registry.entries, x.generation ≠ e.generation
    · exact Or.inr ⟨hgone, htakes.stale fun x hx => hg ▸ hgone x hx⟩
    · push Not at hgone
      obtain ⟨x, hx, hxg⟩ := hgone
      have hsame : x = e := by
        rcases stage_run hs he hx hxg with hsame | ⟨hpending, -⟩
        · exact hsame
        · rw [hactive] at hpending
          cases hpending
      rw [hsame] at hx
      exact Or.inl ⟨hx, htakes.leaves ht hx hg⟩
  · intro cause a hleaves more u
    have hall : u = begun.run (before ++ after ++ a :: more) := by
      rw [run_append, ← hrun]
      rfl
    have halong : begun.Along (before ++ after ++ a :: more) (Leaves e cause) :=
      ⟨before ++ after, a, more, rfl, hrun ▸ hleaves⟩
    have hu : u.Reachable := (ht.run [a]).run more
    refine ⟨hall ▸ halong.leftFor, ?_, reaper_through hu⟩
    intro hcause hfree
    rcases hleaves.of_active ht hactive with ⟨hnone, -⟩ | ⟨q, -, -, rfl⟩
    · exact absurd hnone hcause
    · rw [hall] at hfree ⊢
      exact taken_paid halong hfree

/-- Of a forwarder whose watch fails before its tunnel, the end is told once, with the reason of the
watch; the report of the tunnel is taken too. -/
theorem broken_first_report :
    let key : Key := ⟨"default/web", "app"⟩
    let tunnel : Tunnel := ⟨"127.0.0.1", 8080, 80⟩
    let e : Entry := ⟨1, key, [tunnel], .active, [.tunnel tunnel, .monitor], false, true⟩
    let s := (initial 0 .loopbackOnly).run broken
    let u := (s.step .reap).run reaping.tail
    let cause : Error := .terminated key "gone"
    e ∈ s.world.registry.entries ∧ e.status = .active ∧
      s.world.reports = [⟨1, key, "gone"⟩, ⟨1, key, "refused"⟩] ∧ u.world.reports = [] ∧
      u.payments .stopHook 1 = [.stopHook 1 key (some cause)] ∧
      u.payments .lastEvent 1 = [.failed e.failedView cause] := by
  intro key tunnel e s u cause
  have he : e ∈ s.world.registry.entries := by decide
  have hfree : u.ReaperFree := ⟨_, rfl⟩
  have htakes : TakesReport ⟨1, key, "gone"⟩ s .reap := ⟨rfl, ⟨_, rfl⟩, rfl⟩
  obtain ⟨-, -, htaken, hleft⟩ := first_report_decides 0 .loopbackOnly broken e he rfl []
  rcases htaken ⟨1, key, "gone"⟩ .reap htakes rfl with ⟨-, hleaves, -⟩ | ⟨hgone, -⟩
  · exact ⟨he, rfl, rfl, rfl, (hleft _ .reap hleaves reaping.tail).2.1 (by simp) hfree⟩
  · exact absurd rfl (hgone e he)

end System
end PortForward
