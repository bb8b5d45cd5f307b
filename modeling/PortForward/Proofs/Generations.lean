/-
# Generations kept apart

A key is used again while reports and starts of earlier forwarders are still under way. The
generation keeps them from the forwarder that has the key now: only its own reports and its own
start reach it.

* `Spares` : a change leaves all that belongs to a generation besides its entry;
* `generation_safe` : an entry leaves the registry only for a cause of its own, and only its own
  start changes it.
-/
import PortForward.Bench.Platforms
import PortForward.Proofs.Fates

namespace PortForward

/-! ## What belongs to a generation -/

/-- From one world to the next, a generation keeps its tasks and its listeners; its start holds
them as before, and it was not told to end. -/
structure World.Spares (g : Nat) (w w' : World) : Prop where
  tasks : w'.tasks.filter (·.generation == g) = w.tasks.filter (·.generation == g)
  listeners : w'.machine.listeners.filter (fun l => World.ownedBy g l.owner) =
    w.machine.listeners.filter (fun l => World.ownedBy g l.owner)
  starting : g ∈ w'.starting ↔ g ∈ w.starting
  cancelled : g ∈ w'.cancelled ↔ g ∈ w.cancelled

namespace World

variable {w : World} {f g : Nat}

theorem Spares.refl (g : Nat) (w : World) : w.Spares g w := ⟨rfl, rfl, Iff.rfl, Iff.rfl⟩

/-- A start that lets go of its own forwarder still holds all others. -/
theorem mem_starting_filter (hne : f ≠ g) : g ∈ w.starting.filter (· != f) ↔ g ∈ w.starting := by
  rw [List.mem_filter, bne_iff_ne]
  exact and_iff_left hne.symm

/-- The start of one forwarder opens no listener of another. -/
theorem spares_withListener (hne : f ≠ g) (t : Tunnel) (x : Net.IpAddress) :
    w.Spares g (w.withListener f t x) where
  tasks := rfl
  listeners := by
    show (w.machine.listeners ++ [(⟨x, t.localPort, .tunnel f t⟩ : Listener)]).filter _ = _
    have hnew : ownedBy g (.tunnel f t) = false := by simpa [ownedBy] using hne
    rw [List.filter_append]
    simp [hnew]
  starting := Iff.rfl
  cancelled := Iff.rfl

/-- Nor does it close one. -/
theorem spares_drop (hne : f ≠ g) (bound : List Tunnel) : w.Spares g (w.drop f bound) where
  tasks := rfl
  listeners := by
    show (w.machine.listeners.filter fun l => !boundBy f bound l.owner).filter _ = _
    rw [List.filter_filter]
    apply List.filter_congr
    intro l _
    cases howner : l.owner with
    | tunnel h t =>
      by_cases hg : h = g
      · have hf : h ≠ f := fun hf => hne (hf.symm.trans hg)
        simp [boundBy, hf]
      · simp [ownedBy, hg]
    | foreign address => rfl
  starting := Iff.rfl
  cancelled := Iff.rfl

/-- To let go of one forwarder is not to let go of another. -/
theorem spares_release (hne : f ≠ g) : w.Spares g (w.release f) where
  tasks := rfl
  listeners := rfl
  starting := mem_starting_filter hne
  cancelled := Iff.rfl

/-- A forwarder that becomes active gets tasks of its own. -/
theorem spares_withActive (hne : f ≠ g) (r : Registry) {v : View} (hv : v.generation = f)
    (bound : List Tunnel) : w.Spares g (w.withActive r v f bound) where
  tasks := by
    have hnew : (w.newTasks v bound).filter (·.generation == g) = [] := by
      apply List.filter_eq_nil_iff.mpr
      intro t ht
      obtain ⟨role, -, rfl⟩ := List.mem_map.mp ht
      simpa [hv] using hne
    show (w.tasks ++ w.newTasks v bound).filter _ = _
    rw [List.filter_append, hnew, List.append_nil]
  listeners := rfl
  starting := mem_starting_filter hne
  cancelled := Iff.rfl

/-- Removing one forwarder tells no other to end. -/
theorem spares_withoutEntry (hne : f ≠ g) (r : Registry) : w.Spares g (w.withoutEntry r f) where
  tasks := rfl
  listeners := rfl
  starting := Iff.rfl
  cancelled := by
    show g ∈ f :: w.cancelled ↔ _
    rw [List.mem_cons]
    exact or_iff_right hne.symm

end World

namespace Call

variable {w w' : World} {c d : Call} {g : Nat}

/-- A start that is not through with its tunnels leaves what belongs to other generations. -/
theorem Advances.spares {st : Start} (h : Advances w c w' d) (hst : c.opening? = some st)
    (hne : st.generation ≠ g) : w.Spares g w' := by
  cases h with
  | bound _ =>
    cases hst
    exact World.spares_withListener hne _ _
  | committed hr =>
    cases hst
    obtain ⟨e, -, -, hg, rfl, -⟩ := Registry.commit_eq_some hr
    exact World.spares_withActive hne _ hg _
  | dropped =>
    cases hst
    exact World.spares_drop hne _
  | released =>
    cases hst
    exact World.spares_release hne
  | withdrawn =>
    cases hst
    exact World.spares_release hne
  | evicted _ =>
    cases hst
    exact World.spares_withoutEntry hne _
  | refused _ => exact .refl g w
  | overtaken _ => exact .refl g w
  | forestalled _ => exact .refl g w
  | _ => cases hst

/-- A report that is taken leaves what belongs to other generations. -/
theorem Takes.spares {r : Report} (h : Takes w r w' d) (hne : r.generation ≠ g) :
    w.Spares g w' := by
  cases h with
  | evicted _ => exact World.spares_withoutEntry hne _
  | stale _ => exact .refl g w

end Call

namespace System

variable {s : System} {e : Entry} {g : Nat}

/-! ## Reports and starts of other generations -/

/-- A report of another generation leaves an entry as it was. -/
theorem Reachable.reap_entry? (h : s.Reachable) (he : e ∈ s.world.registry.entries) {r : Report}
    {reports : List Report} (hr : s.world.reports = r :: reports)
    (hg : r.generation ≠ e.generation) :
    (s.step .reap).world.registry.entry? e.key = some e := by
  have hsound := h.sound.change (move_step s .reap).change
  rcases (move_step s .reap).fate h.sound h.single he with hkept | ⟨hc, -⟩ | ⟨cause, hrem, -⟩
  · exact hsound.entry?_key hkept
  · obtain ⟨i, startHook, ha, -⟩ := hc
    cases ha
  · cases hrem with
    | reported ho hown =>
      rw [hr, List.cons.injEq] at hown
      rw [hown.1] at hg
      exact absurd rfl hg

/-- A start that is not through with its tunnels leaves the entries of other generations as they
were. -/
theorem Reachable.opening_entry? (h : s.Reachable) (he : e ∈ s.world.registry.entries) {i : Nat}
    {c : Call} {st : Start} (hi : s.calls[i]? = some c) (hst : c.opening? = some st)
    (hg : st.generation ≠ e.generation) :
    (s.step (.advance i)).world.registry.entry? e.key = some e := by
  have hsound := h.sound.change (move_step s (.advance i)).change
  rcases (move_step s (.advance i)).fate h.sound h.single he with hkept | ⟨hc, -⟩ | ⟨cause, hrem, -⟩
  · exact hsound.entry?_key hkept
  · obtain ⟨j, startHook, ha, hj⟩ := hc
    cases ha
    rw [hi, Option.some.injEq] at hj
    rw [hj] at hst
    cases hst
    exact absurd rfl hg
  · cases hrem with
    | unbound hj =>
      rw [hi, Option.some.injEq] at hj
      rw [hj] at hst
      cases hst
      exact absurd rfl hg

/-- A report of another generation leaves what belongs to a generation. -/
theorem spares_reap {r : Report} {reports : List Report} (hr : s.world.reports = r :: reports)
    (hne : r.generation ≠ g) : s.world.Spares g (s.step .reap).world := by
  rw [step]
  split
  · rename_i answer r' reports' ho hr'
    rw [hr, List.cons.injEq] at hr'
    obtain ⟨rfl, rfl⟩ := hr'
    have hspares := (Call.takes_ofReport { s.world with reports } r).spares hne
    exact ⟨hspares.tasks, hspares.listeners, hspares.starting, hspares.cancelled⟩
  · exact .refl g s.world

/-- A start that is not through with its tunnels leaves what belongs to other generations. -/
theorem spares_opening {i : Nat} {c : Call} {st : Start} (hi : s.calls[i]? = some c)
    (hst : c.opening? = some st) (hne : st.generation ≠ g) :
    s.world.Spares g (s.step (.advance i)).world := by
  obtain ⟨d, w, -, hw, hadv⟩ := step_advances (a := .advance i) (i := i + 1) rfl hi
  rw [hw]
  exact hadv.spares hst hne

/-! ## The safety of a generation -/

/-- Whatever happens next to a registered forwarder: it is removed only by a stop that names its
key, by a start of its own that was refused an endpoint, or by a report of its own; if it stays,
it is as it was, or made active by its own start. Reports and starts of other generations leave
its key to it as it is, with its tasks and its listeners. -/
theorem generation_safe (h : s.Reachable) (a : Action) (he : e ∈ s.world.registry.entries) :
    ((∀ x ∈ (s.step a).world.registry.entries, x.generation ≠ e.generation) →
      ∃ cause, Removes e s a cause) ∧
    (∀ x ∈ (s.step a).world.registry.entries, x.generation = e.generation →
      x = e ∨ (Commits e s a ∧ x = e.activated)) ∧
    (∀ r reports, s.world.reports = r :: reports → r.generation ≠ e.generation →
      (s.step .reap).world.registry.entry? e.key = some e ∧
        s.world.Spares e.generation (s.step .reap).world) ∧
    ∀ i c st, s.calls[i]? = some c → c.opening? = some st → st.generation ≠ e.generation →
      (s.step (.advance i)).world.registry.entry? e.key = some e ∧
        s.world.Spares e.generation (s.step (.advance i)).world := by
  refine ⟨?_, ?_, ?_, ?_⟩
  · intro hgone
    rcases (move_step s a).fate h.sound h.single he with hkept | ⟨-, hkept⟩ | ⟨cause, hrem, -⟩
    · exact absurd rfl (hgone e hkept)
    · exact absurd rfl (hgone e.activated hkept)
    · exact ⟨cause, hrem⟩
  · intro x hx hg
    rcases (move_step s a).entry h.sound h.single hx with hx | hadm | ⟨d, hd, hc, rfl⟩
    · exact Or.inl (h.sound.eq_of_generation hx he hg)
    · have hlt := h.sound.old e he
      have hnext := hadm.generation
      omega
    · have hde : d = e := h.sound.eq_of_generation hd he hg
      exact Or.inr ⟨hde ▸ hc, by rw [hde]⟩
  · intro r reports hr hne
    exact ⟨h.reap_entry? he hr hne, spares_reap hr hne⟩
  · intro i c st hi hst hne
    exact ⟨h.opening_entry? he hi hst hne, spares_opening hi hst hne⟩

/-- A forwarder loses a task, is stopped without waiting, and started again, all before its report
is taken. -/
def restarted : List Action :=
  let key : Key := ⟨"default/web", "app"⟩
  let start : Request := .start key [⟨"127.0.0.1", 8080, 80⟩] true true
  [.request start, .advance 0, .advance 0, .fail ⟨1, key, .monitor, false, false⟩ "gone",
    .request (.stop key), .giveUp 1, .request start]

/-- The report of the first forwarder does not reach the second one. -/
theorem restarted_safe :
    let s := (initial 0 .loopbackOnly).run restarted
    let key : Key := ⟨"default/web", "app"⟩
    let e : Entry := ⟨2, key, [⟨"127.0.0.1", 8080, 80⟩], .pending, [], true, true⟩
    s.world.reports = [⟨1, key, "gone"⟩] ∧ s.world.registry.entries = [e] ∧
      (s.step .reap).world.registry.entry? key = some e := by
  intro s key e
  have hreports : s.world.reports = [⟨1, key, "gone"⟩] := by decide
  have hentries : s.world.registry.entries = [e] := by decide
  have he : e ∈ s.world.registry.entries := by
    rw [hentries]
    exact List.mem_singleton_self e
  have hsafe := generation_safe (reachable_run 0 .loopbackOnly restarted) .reap he
  exact ⟨hreports, hentries, (hsafe.2.2.1 _ _ hreports (by decide)).1⟩

end System
end PortForward
