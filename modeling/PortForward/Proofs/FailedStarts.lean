/-
# Starts that fail leave nothing

A start that answers with an error has left nothing behind, whatever else went on meanwhile: no
entry, no task and no listener of its generation, and no change of any other entry. If nothing else
went on, the registry and the machine are as before; a start that was not admitted has done
nothing at all, and one that was refused a tunnel has called its stop hook and told of its failure.

* `Undone.step` : what is left of nothing stays nothing;
* `undone_of_failing`, `StartedBy.step` : a start becomes active or leaves nothing;
* `others_advance` : a start changes no entry but its own;
* `failed_starts_atomic` : all of it, for every start of every run.
-/
import PortForward.Bench.Platforms
import PortForward.Proofs.Courses
import PortForward.Proofs.Endings
import PortForward.Proofs.LoneStarts

namespace PortForward.System

variable {s s' : System} {a : Action} {e : Entry} {g i k : Nat} {c : Call} {st : Start}

/-! ## What is left of a forwarder -/

/-- Of a forwarder that was admitted there is nothing: no entry, no task, and nobody who starts
it. -/
structure Undone (g : Nat) (s : System) : Prop where
  old : g < s.world.registry.next
  entries : ∀ e ∈ s.world.registry.entries, e.generation ≠ g
  unstarted : s.Unstarted g
  threads : ∀ (i : Nat) (c : Call), s.threads[i]? = some c → c.own? ≠ some g

/-- What is undone stays so. -/
theorem Undone.step (h : s.Undone g) (hr : s.Reachable) (a : Action) : (s.step a).Undone g := by
  have hmove := move_step s a
  have hold := h.old
  refine ⟨Nat.lt_of_lt_of_le h.old hmove.change.next_le, ?_, ?_, ?_⟩
  · intro e he
    rcases hmove.entry hr.sound hr.single he with he | hadm | ⟨d, hd, -, rfl⟩
    · exact h.entries e he
    · have hnew := hadm.generation
      omega
    · exact h.entries d hd
  · exact h.unstarted.move hmove hr.single fun e he hg => absurd hg (h.entries e he)
  · intro i c hc hown
    rcases hmove.own? hc hown with ⟨d, hd, hdg⟩ | ⟨-, hnew, -⟩
    · exact h.threads i d hd hdg
    · omega

/-- What is undone has no listener. -/
theorem Undone.listeners (h : s.Undone g) (hr : s.Reachable) :
    ∀ l ∈ s.world.machine.listeners, World.ownedBy g l.owner = false := by
  intro l hl
  by_contra hne
  rw [Bool.not_eq_false] at hne
  obtain ⟨x, hx⟩ := World.exists_owned hl hne
  rcases hr.housed.holder g x hx with ⟨st, bound, ⟨c, hc, hb⟩, rfl, -⟩ | hcarries
  · obtain ⟨i, hi⟩ := List.getElem?_of_mem hc
    exact h.threads i c hi (Call.own?_of_opening? (Call.opening?_of_bound? hb))
  · obtain ⟨t, ht, hg, -⟩ := hcarries.task
    exact h.unstarted.tasks t ht hg

/-! ## Starts that end in vain -/

/-- The entry of a forwarder that is being opened has the key of its start. -/
theorem Reachable.opening_key (hr : s.Reachable) (hc : s.threads[k]? = some c)
    (hst : c.opening? = some st) (he : e ∈ s.world.registry.entries)
    (hg : e.generation = st.generation) : e.key = st.key := by
  cases k with
  | zero =>
    rw [threads_zero, Option.some.injEq] at hc
    have hnone := hr.single.reaper
    rw [hc, Call.own?_of_opening? hst] at hnone
    cases hnone
  | succ i =>
    obtain ⟨limit, platform, actions, rfl⟩ := hr
    obtain ⟨d, hd, hdg, hdk, -⟩ := opening_run hc hst
    exact (hd.admits_entry he (hg.trans hdg)).key.trans hdk.symm

/-- A start that goes on and opens nothing any more has made its forwarder active, or nothing is
left of it. -/
theorem undone_of_failing (hr : s.Reachable) (ha : advances? a = some k)
    (hc : s.threads[k]? = some c) (hst : c.opening? = some st)
    (hd : (c.advance s.world).2.own? = none) : (s.step a).Undone st.generation := by
  have hs := hr.sound
  have hgone : ∀ e ∈ (s.step a).world.registry.entries, e.generation ≠ st.generation := by
    have hkey := fun e he hg => hr.opening_key (e := e) hc hst he hg
    rw [step_advance_eq ha hc, put_world]
    have hadv := Call.advances_advance s.world c
    generalize (c.advance s.world).1 = w, (c.advance s.world).2 = d at hadv hd
    cases hadv with
    | bound _ => cases hd
    | refused _ => cases hd
    | committed _ => cases hd
    | overtaken _ => cases hd
    | dropped => cases hd
    | released => cases hd
    | withdrawn =>
      cases hst
      exact hr.single.lost k _ st hc rfl
    | evicted hev =>
      cases hst
      exact fun e he => ((hs.mem_evict hev).mp he).2
    | forestalled hnone =>
      cases hst
      intro e he hg
      have hsome := hs.evict_of_mem he
      rw [hkey e he hg, hg, hnone] at hsome
      cases hsome
    | _ => cases hst
  have hown := Call.own?_of_opening? hst
  have hmove := move_step s a
  refine ⟨?_, hgone, ?_, ?_⟩
  · exact Nat.lt_of_lt_of_le (hr.single.old k c _ hc hown) hmove.change.next_le
  · refine (hr.opening_unstarted hc hst).move hmove hr.single ?_
    -- an entry that becomes active would still be there
    intro e he hg hcommits
    exact hgone _ (hcommits.registered hs he) hg
  · intro j d hdj hdg
    rw [step_advance_eq ha hc] at hdj
    rcases of_threads_put hdj with ⟨-, rfl⟩ | ⟨hjk, hdj⟩
    · rw [hd] at hdg
      cases hdg
    · exact hjk (hr.single.unique j k d c _ hdj hc hdg hown)

/-- The call starts a forwarder, or has made it active and returned, or nothing is left of it. -/
def StartedBy (i g : Nat) (s : System) : Prop :=
  ∃ c, s.calls[i]? = some c ∧
    (c.own? = some g ∨ (∃ v, c = .over (.ok (.view v))) ∨ (c.own? = none ∧ s.Undone g))

/-- A call that starts nothing never does. -/
theorem own?_advance (w : World) (h : c.own? = none) : (c.advance w).2.own? = none := by
  by_contra hne
  obtain ⟨g, hg⟩ := Option.ne_none_iff_exists'.mp hne
  rw [(Call.advances_advance w c).own? hg] at h
  cases h

theorem StartedBy.step (h : StartedBy i g s) (hr : s.Reachable) (a : Action) :
    StartedBy i g (s.step a) := by
  obtain ⟨c, hc, hphase⟩ := h
  by_cases hadvances : advances? a = some (i + 1)
  · have hd : (s.step a).calls[i]? = some (c.advance s.world).2 := by
      rw [← threads_succ, step_advance_eq (i := i + 1) hadvances hc]
      exact threads_put_self (i := i + 1) hc _ _
    refine ⟨_, hd, ?_⟩
    rcases hphase with hown | ⟨v, rfl⟩ | ⟨hown, hundone⟩
    · cases hnext : (c.advance s.world).2.own? with
      | some f =>
        rw [(Call.advances_advance s.world c).own? hnext] at hown
        exact Or.inl hown
      | none =>
        rcases Call.opening_or_view hown with ⟨st, hst, rfl⟩ | ⟨v, hv, -⟩
        · exact Or.inr (Or.inr ⟨rfl, undone_of_failing (k := i + 1) hr hadvances hc hst hnext⟩)
        · cases c with
          | activated u startHook => cases hnext
          | announcing u => exact Or.inr (Or.inl ⟨u, rfl⟩)
          | _ => cases hv
    · exact Or.inr (Or.inl ⟨v, rfl⟩)
    · exact Or.inr (Or.inr ⟨own?_advance _ hown, hundone.step hr a⟩)
  · obtain ⟨d, hd, hnext⟩ := (move_step s a).next (i := i + 1) hc
    refine ⟨d, hd, ?_⟩
    rcases hnext with rfl | ⟨ha, -⟩ | ⟨-, r, rfl, rfl⟩ | ⟨hzero, -⟩
    · rcases hphase with hown | hok | ⟨hown, hundone⟩
      · exact Or.inl hown
      · exact Or.inr (Or.inl hok)
      · exact Or.inr (Or.inr ⟨hown, hundone.step hr a⟩)
    · exact absurd ha hadvances
    · rcases hphase with hown | ⟨v, hover⟩ | ⟨hown, hundone⟩
      · cases hown
      · cases hover
      · exact Or.inr (Or.inr ⟨rfl, hundone.step hr a⟩)
    · omega

/-- A call that starts a forwarder does so, or has done so, or has left nothing of it. -/
theorem StartedBy.run (h : StartedBy i g s) (hr : s.Reachable) (actions : List Action) :
    StartedBy i g (s.run actions) :=
  run_induction (s := s) (motive := fun _ t => StartedBy i g t) h
    (fun before a ih => ih.step (hr.run before) a) actions

/-- Nothing is left of a start that has returned an error. -/
theorem StartedBy.undone (h : StartedBy i g s) {cause : Error}
    (hc : s.calls[i]? = some (.over (.error cause))) : s.Undone g := by
  obtain ⟨d, hd, hphase⟩ := h
  rw [hc, Option.some.injEq] at hd
  subst hd
  rcases hphase with hown | ⟨v, hover⟩ | ⟨-, hundone⟩
  · cases hown
  · cases hover
  · exact hundone

/-! ## Other entries -/

/-- The entries of all other generations. -/
def others (g : Nat) (s : System) : List Entry :=
  s.world.registry.entries.filter (·.generation != g)

/-- A start that makes its forwarder active changes no other entry. -/
theorem others_commit {r r' : Registry} (hs : r.Sound) {key : Key} {bound : List Tunnel} {v : View}
    (hc : r.commit key g bound = some (v, r')) :
    r'.entries.filter (·.generation != g) = r.entries.filter (·.generation != g) := by
  obtain ⟨e, he, hk, hg, -, rfl⟩ := Registry.commit_eq_some hc
  have hkeeps : ((·.generation != g) ∘
      fun x : Entry => if x.key = key then x.activeWith bound else x) = (·.generation != g) := by
    funext x
    rw [Function.comp_apply]
    split <;> rfl
  rw [List.filter_map, hkeeps]
  have hid : ∀ x ∈ r.entries.filter (·.generation != g),
      (if x.key = key then x.activeWith bound else x) = x := by
    intro x hx
    obtain ⟨hmem, hne⟩ := List.mem_filter.mp hx
    rw [if_neg]
    intro hxk
    rw [hs.eq_of_key hmem he (hxk.trans hk.symm), hg] at hne
    simp at hne
  rw [List.map_congr_left hid, List.map_id']

/-- A forwarder that is removed takes no other entry along. -/
theorem others_evict {r r' : Registry} (hs : r.Sound) {key : Key} {d : Entry}
    (hv : r.evict key g = some (d, r')) :
    r'.entries.filter (·.generation != g) = r.entries.filter (·.generation != g) := by
  obtain ⟨hd, hk, hg, rfl⟩ := Registry.evict_eq_some hv
  show (r.entries.filter fun e => !(e.key == key)).filter _ = _
  rw [List.filter_filter]
  apply List.filter_congr
  intro x hx
  by_cases hxg : x.generation = g
  · simp [hxg]
  · have hxk : x.key ≠ key := fun hxk => hxg (by rw [hs.eq_of_key hx hd (hxk.trans hk.symm), hg])
    simp [hxg, hxk]

/-- A call that goes on changes no entry but that of the forwarder it starts. -/
theorem others_advance (hr : s.Reachable) (hc : s.calls[i]? = some c)
    (hown : c.own? = some g ∨ c.own? = none) :
    (s.step (.advance i)).others g = s.others g := by
  unfold others
  rw [step_advance_eq (a := .advance i) (i := i + 1) rfl hc, put_world]
  have hadv := Call.advances_advance s.world c
  generalize (c.advance s.world).1 = w, (c.advance s.world).2 = d at hadv
  cases hadv with
  | committed hcommit =>
    have hg : _ = g := Option.some.inj (hown.resolve_right (by simp [Call.own?]))
    rw [hg] at hcommit
    exact others_commit hr.sound hcommit
  | evicted hev =>
    have hg : _ = g := Option.some.inj (hown.resolve_right (by simp [Call.own?]))
    rw [hg] at hev
    exact others_evict hr.sound hev
  | hooked => split <;> rfl
  | ended => split <;> rfl
  | _ => rfl

/-- A call that waits no longer changes no entry. -/
theorem others_giveUp (s : System) (i : Nat) : (s.step (.giveUp i)).others g = s.others g := by
  unfold others
  rw [step]
  rcases withCall_cases s i Call.giveUp with h | ⟨c, -, h⟩
  · rw [h]
  · rw [h, put_world]
    cases c <;> rfl

/-- A call that starts a forwarder changes no entry but that of this one. -/
theorem StartedBy.others (h : StartedBy i g s) (hr : s.Reachable) :
    (s.step (.advance i)).others g = s.others g := by
  obtain ⟨c, hc, hphase⟩ := h
  apply others_advance hr hc
  rcases hphase with hown | ⟨v, rfl⟩ | ⟨hown, -⟩
  · exact Or.inl hown
  · exact Or.inr rfl
  · exact Or.inr hown

/-! ## Starts that are not admitted -/

section Starts

variable {key : Key} {batch : List Tunnel} {startHook stopHook : Bool} {cause : Error}

/-- A start that is not admitted has returned, and does nothing more. -/
theorem rejected_run (startHook stopHook : Bool)
    (h : s.world.registry.admission key batch = .error cause) (after : List Action) :
    let t := (s.step (.request (.start key batch startHook stopHook))).run after
    t.calls[s.calls.length]? = some (.over (.error cause)) ∧
      t.step (.advance s.calls.length) = t ∧ t.step (.giveUp s.calls.length) = t := by
  intro t
  have hover : t.calls[s.calls.length]? = some (.over (.error cause)) := by
    apply over_run
    rw [step_rejected h]
    exact List.getElem?_concat_length
  exact ⟨hover, step_over hover⟩

/-- A start that is not admitted does nothing on its own. -/
theorem rejected_alone (h : s.world.registry.admission key batch = .error cause) (n : Nat) :
    (s.step (.request (.start key batch startHook stopHook))).run
        (List.replicate n (.advance s.calls.length)) =
      ⟨s.world, s.calls ++ [.over (.error cause)], s.reaper⟩ := by
  induction n with
  | zero => exact step_rejected h
  | succ n ih =>
    have hover := rejected_run startHook stopHook h
      (List.replicate n (.advance s.calls.length))
    rw [List.replicate_succ', run_snoc, hover.2.1, ih]

/-! ## Starts that are admitted -/

/-- A start that is admitted starts the next generation. -/
theorem startedBy_admitted (h : s.world.registry.admission key batch = .ok ()) :
    StartedBy s.calls.length s.world.registry.next
      (s.step (.request (.start key batch startHook stopHook))) := by
  refine ⟨.binding ⟨s.world.registry.next, key, startHook⟩ [] batch, ?_, Or.inl rfl⟩
  rw [step_admitted h]
  exact List.getElem?_concat_length

/-- A start that is admitted changes no other entry. -/
theorem others_admitted (h : s.world.registry.admission key batch = .ok ()) :
    (s.step (.request (.start key batch startHook stopHook))).others s.world.registry.next =
      s.others s.world.registry.next := by
  rw [step_admitted h]
  exact Registry.insertSorted_filter (by simp) _

/-- Nobody listens for a generation that is to come. -/
theorem Reachable.next_not_owned (hr : s.Reachable) (x : Tunnel) :
    (s.world.registry.next, x) ∉ s.world.owned := by
  intro hx
  rcases hr.housed.holder _ x hx with ⟨st, bound, ⟨c, hc, hb⟩, hg, -⟩ | hcarries
  · obtain ⟨i, hi⟩ := List.getElem?_of_mem hc
    have hown := Call.own?_of_opening? (Call.opening?_of_bound? hb)
    have := hr.single.old i c _ hi hown
    omega
  · obtain ⟨t, ht, hg, -⟩ := hcarries.task
    exact (hr.unopened (Or.inl (Nat.le_refl _))).tasks t ht hg

/-- A start that is admitted begins with its whole batch to bind. -/
theorem lone_admitted (hr : s.Reachable) :
    Call.Lone s.world (s.world.registry.newEntry key batch stopHook)
      (s.world.register key batch stopHook)
      (.binding ⟨s.world.registry.next, key, startHook⟩ [] batch) := by
  have hnone : ∀ l ∈ s.world.machine.listeners,
      World.ownedBy s.world.registry.next l.owner = true → False := by
    intro l hl howned
    obtain ⟨x, hx⟩ := World.exists_owned hl howned
    exact hr.next_not_owned x hx
  refine .binding (e := s.world.registry.newEntry key batch stopHook) rfl
    ⟨List.filter_eq_self.mpr fun l hl => ?_, fun l hl ho => (hnone l hl ho).elim⟩ rfl fun t ht => ht
  rw [Bool.not_eq_true', ← Bool.not_eq_true]
  exact hnone l hl

/-- Where a start that was admitted stands on its own after so many changes. -/
theorem admitted_alone (startHook stopHook : Bool) (hr : s.Reachable)
    (h : s.world.registry.admission key batch = .ok ()) (n : Nat) :
    ∃ w c, (s.step (.request (.start key batch startHook stopHook))).run
        (List.replicate n (.advance s.calls.length)) = ⟨w, s.calls ++ [c], s.reaper⟩ ∧
      Call.Lone s.world (s.world.registry.newEntry key batch stopHook) w c ∧
      ((∃ answer, c = .over answer) ∨ c.changesLeft + n ≤ batch.length + 6) := by
  rw [step_admitted h]
  exact lone_run (lone_admitted hr) hr.sound (Registry.admissible_of_admission h) rfl n

/-! ## All starts -/

/-- On its own, a start returns. -/
theorem alone_returns (hr : s.Reachable) :
    ∃ answer, ((s.step (.request (.start key batch startHook stopHook))).run
      (List.replicate (batch.length + 6) (.advance s.calls.length))).calls[s.calls.length]? =
        some (.over answer) := by
  cases hadm : s.world.registry.admission key batch with
  | error cause => exact ⟨_, (rejected_run startHook stopHook hadm _).1⟩
  | ok u =>
    obtain ⟨w, c, hstands, hlone, hleft⟩ :=
      admitted_alone startHook stopHook hr hadm (batch.length + 6)
    have hover : ∃ answer, c = .over answer := by
      rcases hleft with hover | hleft
      · exact hover
      · -- all changes are made, and a call that could go on would have another one
        rcases hlone.left with hover | hless
        · exact hover
        · omega
    obtain ⟨answer, rfl⟩ := hover
    refine ⟨answer, ?_⟩
    rw [hstands]
    exact List.getElem?_concat_length

/-- What has become of the world when a start of this batch has failed, and nothing else went on. -/
structure FailedAlone (key : Key) (batch : List Tunnel) (stopHook : Bool) (cause : Error)
    (w₀ w : World) : Prop where
  list : w.registry.list = w₀.registry.list
  count : w.registry.count = w₀.registry.count
  limit : w.registry.limit = w₀.registry.limit
  listeners : w.machine.listeners = w₀.machine.listeners
  /-- It was not admitted and changed nothing, or it was refused a tunnel of its batch; then it has
  called its stop hook if there is one, and told of its failure. -/
  effect : (w₀.registry.admission key batch = .error cause ∧ w = w₀) ∨
    ∃ t ∈ batch, ∃ io, cause = .bind t io ∧
      w.journal = w₀.journal ++
        (if stopHook then [.stopHook w₀.registry.next key (some cause)] else []) ++
        [.failed ⟨w₀.registry.next, key, batch, .failed⟩ cause]

/-- On its own, a start that fails leaves registry and machine as they were. -/
theorem alone_fails (hr : s.Reachable) (n : Nat)
    (hend : ((s.step (.request (.start key batch startHook stopHook))).run
      (List.replicate n (.advance s.calls.length))).calls[s.calls.length]? =
        some (.over (.error cause))) :
    FailedAlone key batch stopHook cause s.world
      ((s.step (.request (.start key batch startHook stopHook))).run
        (List.replicate n (.advance s.calls.length))).world := by
  cases hadm : s.world.registry.admission key batch with
  | error other =>
    have hover := (rejected_run startHook stopHook hadm
      (List.replicate n (.advance s.calls.length))).1
    obtain ⟨⟩ := hover.symm.trans hend
    rw [rejected_alone hadm]
    exact ⟨rfl, rfl, rfl, rfl, Or.inl ⟨hadm, rfl⟩⟩
  | ok u =>
    obtain ⟨w, c, hstands, hlone, -⟩ := admitted_alone startHook stopHook hr hadm n
    rw [hstands] at hend ⊢
    have hlast : (s.calls ++ [c])[s.calls.length]? = some c := List.getElem?_concat_length
    obtain rfl : c = .over (.error cause) := Option.some.inj (hlast.symm.trans hend)
    cases hlone with
    | failed hw hj ht =>
      refine ⟨?_, ?_, hw.limit, hw.listeners, Or.inr ⟨_, ht, _, rfl, hj⟩⟩
      · rw [Registry.list, hw.entries]
        rfl
      · rw [Registry.count, hw.entries]
        rfl
    | started hv => rcases hv with hv | hv <;> cases hv

end Starts

/-- A start that fails is as if it had not been made. One that is not admitted changes nothing and
answers at once. One that is admitted changes no entry of another generation, and once it has
answered with an error its own is not registered and has no listener, whatever else happens. If
nothing else happens it returns, and if it fails, the forwarders, their number and limit, and all
listeners are as before, and either nothing has happened at all, or it was refused a tunnel of its
batch and told so. -/
theorem failed_starts_atomic (limit : Nat) (platform : Platform) (before : List Action) (key : Key)
    (batch : List Tunnel) (startHook stopHook : Bool) :
    let s := (initial limit platform).run before
    let i := s.calls.length
    let g := s.world.registry.next
    let begun := s.step (.request (.start key batch startHook stopHook))
    let alone := fun n => begun.run (List.replicate n (.advance i))
    (∀ cause, s.world.registry.admission key batch = .error cause →
      begun.world = s.world ∧ ∀ after, (begun.run after).calls[i]? = some (.over (.error cause)) ∧
        (begun.run after).step (.advance i) = begun.run after ∧
        (begun.run after).step (.giveUp i) = begun.run after) ∧
    (s.world.registry.admission key batch = .ok () →
      begun.others g = s.others g ∧ ∀ after,
        ((begun.run after).step (.advance i)).others g = (begun.run after).others g ∧
        ((begun.run after).step (.giveUp i)).others g = (begun.run after).others g ∧
        ∀ cause, (begun.run after).calls[i]? = some (.over (.error cause)) →
          (∀ e ∈ (begun.run after).world.registry.entries, e.generation ≠ g) ∧
          ∀ l ∈ (begun.run after).world.machine.listeners, World.ownedBy g l.owner = false) ∧
    (∃ answer, (alone (batch.length + 6)).calls[i]? = some (.over answer)) ∧
    ∀ n cause, (alone n).calls[i]? = some (.over (.error cause)) →
      FailedAlone key batch stopHook cause s.world (alone n).world := by
  intro s i g begun alone
  have hr : s.Reachable := reachable_run limit platform before
  have hbegun : begun.Reachable := hr.run [.request (.start key batch startHook stopHook)]
  refine ⟨?_, ?_, alone_returns hr, fun n cause hend => alone_fails hr n hend⟩
  · intro cause hadm
    have hworld : begun.world = s.world := by
      show (s.step _).world = s.world
      rw [step_rejected hadm]
    exact ⟨hworld, rejected_run startHook stopHook hadm⟩
  · intro hadm
    have hstarted : StartedBy i g begun := startedBy_admitted hadm
    refine ⟨others_admitted hadm, fun after => ?_⟩
    have hlater := hstarted.run hbegun after
    refine ⟨hlater.others (hbegun.run after), others_giveUp _ _, fun cause hend => ?_⟩
    have hundone := hlater.undone hend
    exact ⟨hundone.entries, hundone.listeners (hbegun.run after)⟩

/-- Another program listens on a port. -/
def occupied : List Action := [.hold "127.0.0.1" 8443]

/-- A start that wants this port for its second tunnel. -/
def occupiedStart : Request :=
  .start ⟨"default/web", "app"⟩ [⟨"127.0.0.1", 8080, 80⟩, ⟨"127.0.0.1", 8443, 443⟩] true true

/-- It fails, and has let go of the first tunnel. -/
theorem occupied_fails :
    FailedAlone ⟨"default/web", "app"⟩ [⟨"127.0.0.1", 8080, 80⟩, ⟨"127.0.0.1", 8443, 443⟩] true
      (.bind ⟨"127.0.0.1", 8443, 443⟩ .addressInUse) ((initial 0 .loopbackOnly).run occupied).world
      ((((initial 0 .loopbackOnly).run occupied).step (.request occupiedStart)).run
        (List.replicate 8 (.advance 0))).world := by
  have hcalls : ((((initial 0 .loopbackOnly).run occupied).step (.request occupiedStart)).run
      (List.replicate 8 (.advance 0))).calls =
        [.over (.error (.bind ⟨"127.0.0.1", 8443, 443⟩ .addressInUse))] := rfl
  have hend : ((((initial 0 .loopbackOnly).run occupied).step (.request occupiedStart)).run
      (List.replicate 8 (.advance 0))).calls[0]? =
        some (.over (.error (.bind ⟨"127.0.0.1", 8443, 443⟩ .addressInUse))) := by
    rw [hcalls]
    rfl
  have hatomic := failed_starts_atomic 0 .loopbackOnly occupied ⟨"default/web", "app"⟩
    [⟨"127.0.0.1", 8080, 80⟩, ⟨"127.0.0.1", 8443, 443⟩] true true
  exact hatomic.2.2.2 8 _ hend

end PortForward.System
