/-
# What may happen to an entry

An entry enters the registry when a start is admitted, changes once, when its own start makes it
active, and leaves it on a stop that names its key, when its own start could not bind, or on a
report of its own generation. Nothing else changes the entries.

* `Move.entry` : where an entry comes from;
* `Move.fate` : what becomes of an entry.
-/
import PortForward.Proofs.Threads

namespace PortForward.System

variable {s s' : System} {a : Action} {e x : Entry}

/-- The action admits a start, and this is the entry that it gets. -/
def Admits (e : Entry) (s : System) (a : Action) : Prop :=
  ∃ startHook, a = .request (.start e.key e.tunnels startHook e.stopHook) ∧
    s.world.registry.admission e.key e.tunnels = .ok () ∧
    e = s.world.registry.newEntry e.key e.tunnels e.stopHook

/-- The generation of an admitted forwarder is the next one. -/
theorem Admits.generation (h : Admits e s a) : e.generation = s.world.registry.next := by
  obtain ⟨-, -, -, he⟩ := h
  rw [he]
  rfl

/-- The action lets the start of this entry make it active. -/
def Commits (e : Entry) (s : System) (a : Action) : Prop :=
  ∃ i startHook, a = .advance i ∧
    s.calls[i]? = some (.binding ⟨e.generation, e.key, startHook⟩ e.tunnels [])

/-- The action removes this entry, for this cause unless it was stopped. -/
inductive Removes (e : Entry) (s : System) : Action → Option Error → Prop
  | stop : Removes e s (.request (.stop e.key)) none
  | stopPath : Removes e s (.request (.stopPath e.key.path)) none
  | stopAll : Removes e s (.request .stopAll) none
  /-- A call that starts the forwarder was refused an endpoint. -/
  | unbound {i : Nat} {startHook : Bool} {t : Tunnel} {cause : IoError}
      (h : s.calls[i]? = some (.unbound ⟨e.generation, e.key, startHook⟩ t cause)) :
      Removes e s (.advance i) (some (.bind t cause))
  /-- The reaper takes a report of the forwarder. -/
  | reported {answer : Answer} {reason : String} {reports : List Report}
      (ho : s.reaper = .over answer)
      (hr : s.world.reports = ⟨e.generation, e.key, reason⟩ :: reports) :
      Removes e s .reap (some (.terminated e.key reason))

/-- A request that names the key of an entry removes it. -/
theorem removes_of_names {r : Request} {p : Key → Bool} (hp : r.names? = some p)
    (hk : p e.key = true) : Removes e s (.request r) none := by
  cases r with
  | start _ _ _ _ => cases hp
  | stop key =>
    cases hp
    rw [← beq_iff_eq.mp hk]
    exact .stop
  | stopPath path =>
    cases hp
    rw [← beq_iff_eq.mp hk]
    exact .stopPath
  | stopAll => exact .stopAll

/-- A thread that goes on and starts something is a call. -/
theorem Single.advances_call (h : s.Single) {k : Nat} {c : Call} (ha : advances? a = some k)
    (hc : s.threads[k]? = some c) (ho : c.own? ≠ none) :
    ∃ i, k = i + 1 ∧ a = .advance i ∧ s.calls[i]? = some c := by
  cases a with
  | advance i =>
    cases ha
    exact ⟨i, rfl, rfl, hc⟩
  | advanceReaper =>
    cases ha
    rw [threads_zero, Option.some.injEq] at hc
    rw [← hc] at ho
    exact absurd h.reaper ho
  | _ => cases ha

/-- A thread that makes a forwarder active is its own start, which has bound all tunnels of the
forwarder. -/
theorem Single.commits (h : s.Single) {k : Nat} {st : Start} {bound : List Tunnel} {v : View}
    {r : Registry} (ha : advances? a = some k) (hc : s.threads[k]? = some (.binding st bound []))
    (hr : s.world.registry.commit st.key st.generation bound = some (v, r)) :
    ∃ e ∈ s.world.registry.entries, e.key = st.key ∧ e.generation = st.generation ∧
      bound = e.tunnels ∧ v = e.activated.view ∧ Commits e s a := by
  obtain ⟨e, he, hk, hg, hv, -⟩ := Registry.commit_eq_some hr
  have hbound : e.tunnels = bound := by
    rw [(h.order k st bound [] hc e he hg).2, List.append_nil]
  obtain ⟨i, -, rfl, hi⟩ := h.advances_call ha hc (by simp [Call.own?])
  exact ⟨e, he, hk, hg, hbound.symm, hv, i, st.startHook, rfl, by rw [hi, hk, hg, hbound]⟩

/-- A thread that takes a forwarder back is its own start, which was refused an endpoint. -/
theorem Single.removes (h : s.Single) {k : Nat} {st : Start} {t : Tunnel} {cause : IoError}
    {r : Registry} (ha : advances? a = some k) (hc : s.threads[k]? = some (.unbound st t cause))
    (hr : s.world.registry.evict st.key st.generation = some (e, r)) :
    Removes e s a (some (.bind t cause)) := by
  obtain ⟨-, hk, hg, -⟩ := Registry.evict_eq_some hr
  obtain ⟨i, -, rfl, hi⟩ := h.advances_call ha hc (by simp [Call.own?])
  have hown : s.calls[i]? = some (.unbound ⟨e.generation, e.key, st.startHook⟩ t cause) := by
    rw [hi, hk, hg]
  exact .unbound hown

/-- A report for which a forwarder is removed is its own. -/
theorem removes_of_report {answer : Answer} {report : Report} {reports : List Report} {r : Registry}
    (ho : s.reaper = .over answer) (hreports : s.world.reports = report :: reports)
    (hr : s.world.registry.evict report.key report.generation = some (e, r)) :
    Removes e s .reap (some (.terminated report.key report.reason)) := by
  obtain ⟨-, hk, hg, -⟩ := Registry.evict_eq_some hr
  have hown : s.world.reports = ⟨e.generation, e.key, report.reason⟩ :: reports := by
    rw [hreports, hk, hg]
  rw [← hk]
  exact .reported ho hown

/-- An entry after a move was there before, has just been admitted, or has just become active. -/
theorem Move.entry (h : Move s a s') (hs : s.world.registry.Sound) (h1 : s.Single)
    (hx : x ∈ s'.world.registry.entries) :
    x ∈ s.world.registry.entries ∨ Admits x s a ∨
      ∃ e ∈ s.world.registry.entries, Commits e s a ∧ x = e.activated := by
  cases h with
  | request h =>
    cases h with
    | admitted hadm =>
      rename_i key batch startHook stopHook
      rcases Registry.mem_insert.mp hx with rfl | hx
      · exact Or.inr (Or.inl ⟨startHook, rfl, hadm, rfl⟩)
      · exact Or.inl hx
    | rejected _ => exact Or.inl hx
    | nothing _ _ => exact Or.inl (Registry.mem_take.mp hx).1
    | removed _ _ => exact Or.inl (Registry.mem_take.mp hx).1
  | advance ha hc hadv =>
    rw [put_world] at hx
    cases hadv with
    | @committed st bound v r hr =>
      obtain ⟨d, hd, -, hdg, rfl, -, hcommits⟩ := h1.commits ha hc hr
      -- the entry that the start finds under its key is its own, by the generation
      rcases (hs.mem_commit hr).mp hx with ⟨hx, -⟩ | ⟨e, he, -, hg, rfl⟩
      · exact Or.inl hx
      · obtain rfl : d = e := hs.eq_of_generation hd he (hdg.trans hg.symm)
        exact Or.inr (Or.inr ⟨d, he, hcommits, rfl⟩)
    | evicted hr => exact Or.inl ((hs.mem_evict hr).mp hx).1
    | hooked => split at hx <;> exact Or.inl hx
    | ended => split at hx <;> exact Or.inl hx
    | _ => exact Or.inl hx
  | giveUp _ _ =>
    rw [put_world] at hx
    exact Or.inl hx
  | reap _ _ h =>
    rw [put_world] at hx
    cases h with
    | evicted hr => exact Or.inl ((hs.mem_evict hr).mp hx).1
    | stale _ => exact Or.inl hx
  | calm _ hw =>
    dsimp only at hx
    rw [hw.registry] at hx
    exact Or.inl hx

/-- An entry stays as it is, becomes active by its own start, or is removed and nothing of its
generation is left. -/
theorem Move.fate (h : Move s a s') (hs : s.world.registry.Sound) (h1 : s.Single)
    (he : e ∈ s.world.registry.entries) :
    e ∈ s'.world.registry.entries ∨ (Commits e s a ∧ e.activated ∈ s'.world.registry.entries) ∨
      ∃ cause, Removes e s a cause ∧
        ∀ x ∈ s'.world.registry.entries, x.generation ≠ e.generation := by
  cases h with
  | request h =>
    cases h with
    | admitted _ => exact Or.inl (Registry.mem_insert.mpr (Or.inr he))
    | rejected _ => exact Or.inl he
    | @nothing r p answer hp _ =>
      rcases hs.kept_or_taken he p with hkept | ⟨hk, hnone⟩
      · exact Or.inl hkept
      · exact Or.inr (Or.inr ⟨none, removes_of_names hp hk, hnone⟩)
    | @removed r p answer hp _ =>
      rcases hs.kept_or_taken he p with hkept | ⟨hk, hnone⟩
      · exact Or.inl hkept
      · exact Or.inr (Or.inr ⟨none, removes_of_names hp hk, hnone⟩)
  | advance ha hc hadv =>
    rw [put_world]
    cases hadv with
    | @committed st bound v r hr =>
      by_cases hg : e.generation = st.generation
      · obtain ⟨d, hd, hdk, hdg, rfl, -, hcommits⟩ := h1.commits ha hc hr
        obtain rfl : e = d := hs.eq_of_generation he hd (hg.trans hdg.symm)
        exact Or.inr (Or.inl ⟨hcommits, (hs.mem_commit hr).mpr (Or.inr ⟨e, he, hdk, hg, rfl⟩)⟩)
      · -- a start of another generation does not reach the entry
        exact Or.inl ((hs.mem_commit hr).mpr (Or.inl ⟨he, hg⟩))
    | @evicted st t cause d r hr =>
      rcases hs.kept_or_evicted he hr with hkept | ⟨rfl, hnone⟩
      · exact Or.inl hkept
      · exact Or.inr (Or.inr ⟨_, h1.removes ha hc hr, hnone⟩)
    | hooked => split <;> exact Or.inl he
    | ended => split <;> exact Or.inl he
    | _ => exact Or.inl he
  | giveUp _ _ =>
    rw [put_world]
    exact Or.inl he
  | @reap answer r reports w c ho hrep h =>
    rw [put_world]
    cases h with
    | @evicted d registry hr =>
      rcases hs.kept_or_evicted he hr with hkept | ⟨rfl, hnone⟩
      · exact Or.inl hkept
      · exact Or.inr (Or.inr ⟨_, removes_of_report ho hrep hr, hnone⟩)
    | stale _ => exact Or.inl he
  | calm _ hw =>
    dsimp only
    rw [hw.registry]
    exact Or.inl he

end PortForward.System
