/-
# What one action comes to

The calls in flight and the reaper are threads: each stands before its next change. Every action
is one of five moves: a new thread makes its first change, a thread makes its next one, a thread
waits no longer, the reaper takes a report, or nothing but tasks, listeners and reports changes,
which leaves the registry, the journal and all threads as they are.

* `move_step` : every action is one of these moves;
* `Along` : what happens at some moment of a run.
-/
import Mathlib.Data.List.Induction
import PortForward.Proofs.Listeners
import PortForward.System

namespace PortForward

/-! ## Moves without a thread -/

/-- Closing listeners of another program takes nothing from forwarders. -/
theorem World.owned_letGo (w : World) (address : String) (port : UInt16) :
    ({ w with machine := { w.machine with
      listeners := w.machine.listeners.filter fun l => !System.isForeign address port l } } :
        World).owned = w.owned := by
  unfold owned
  dsimp only
  rw [List.filterMap_filter]
  congr 1
  funext l
  cases howner : l.owner with
  | tunnel g t => simp [System.isForeign, howner]
  | foreign other => simp

/-- From one world to the next, only tasks ended and other programs came and went. A task that
ended was told to or left a report, and it took its listener with it. -/
structure World.Calm (w w' : World) : Prop where
  registry : w'.registry = w.registry
  starting : w'.starting = w.starting
  cancelled : w'.cancelled = w.cancelled
  journal : w'.journal = w.journal
  tasks : w'.tasks.Sublist w.tasks
  ended : ∀ t ∈ w.tasks, t ∈ w'.tasks ∨ t.generation ∈ w.cancelled ∨
    ∃ r ∈ w'.reports, r.generation = t.generation ∧ r.key = t.key
  reports : ∀ r ∈ w'.reports, r ∈ w.reports ∨
    ∃ t ∈ w.tasks, t.generation = r.generation ∧ t.key = r.key
  unread : ∀ r ∈ w.reports, r ∈ w'.reports
  listeners : ∀ l ∈ w'.machine.listeners, l ∈ w.machine.listeners ∨
    ∃ address, l.owner = .foreign address
  owned : w'.owned.Sublist w.owned
  kept : ∀ g x, (g, x) ∈ w.owned → (g, x) ∈ w'.owned ∨
    ∃ t ∈ w.tasks, t ∉ w'.tasks ∧ t.generation = g ∧ t.role = .tunnel x
  closed : ∀ t ∈ w.tasks, t ∉ w'.tasks → ∀ x, t.role = .tunnel x → (t.generation, x) ∉ w'.owned

namespace World.Calm

variable {w w' : World}

/-- Where tasks and reports stay as they are, and no listener of a forwarder comes or goes. -/
theorem of_owned {machine : Machine} {stalling : List Key}
    (hl : ∀ l ∈ machine.listeners, l ∈ w.machine.listeners ∨ ∃ address, l.owner = .foreign address)
    (ho : ({ w with machine } : World).owned = w.owned) :
    w.Calm { w with machine, stalling } where
  registry := rfl
  starting := rfl
  cancelled := rfl
  journal := rfl
  tasks := List.Sublist.refl _
  ended _ h := Or.inl h
  reports _ h := Or.inl h
  unread _ h := h
  listeners := hl
  owned := ho ▸ List.Sublist.refl _
  kept _ _ h := Or.inl (ho ▸ h)
  closed _ h hgone := absurd h hgone

/-- Nothing changes. -/
theorem refl (w : World) : w.Calm w := of_owned (fun _ h => Or.inl h) rfl

/-- A task that was told to end closes its own listener only. -/
theorem endTask {t : Task} (ht : t ∈ w.tasks) (hc : t.generation ∈ w.cancelled) :
    w.Calm (w.endTask t) where
  registry := rfl
  starting := rfl
  cancelled := rfl
  journal := rfl
  tasks := List.filter_sublist
  ended u hu := by
    by_cases hut : u = t
    · exact Or.inr (Or.inl (hut ▸ hc))
    · exact Or.inl (mem_tasks_endTask.mpr ⟨hu, hut⟩)
  reports _ h := Or.inl h
  unread _ h := h
  listeners l hl := Or.inl (List.mem_filter.mp hl).1
  owned := owned_close_sublist w _
  kept _ _ := owned_or_ended ht
  closed _ hu hgone _ := not_owned_of_ended hu hgone

/-- A task that fails leaves a report of its own forwarder. -/
theorem failTask {t : Task} (ht : t ∈ w.tasks) (reason : String) :
    w.Calm (w.failTask t reason) where
  registry := rfl
  starting := rfl
  cancelled := rfl
  journal := rfl
  tasks := List.filter_sublist
  ended u hu := by
    by_cases hut : u = t
    · refine Or.inr (Or.inr ⟨_, List.mem_append_right _ (List.mem_singleton_self _), ?_⟩)
      rw [hut]
      exact ⟨rfl, rfl⟩
    · exact Or.inl (mem_tasks_endTask.mpr ⟨hu, hut⟩)
  reports r hr := by
    rcases List.mem_append.mp hr with hr | hr
    · exact Or.inl hr
    · rw [List.mem_singleton.mp hr]
      exact Or.inr ⟨t, ht, rfl, rfl⟩
  unread _ h := List.mem_append_left _ h
  listeners l hl := Or.inl (List.mem_filter.mp hl).1
  owned := owned_close_sublist w _
  kept _ _ := owned_or_ended ht
  closed _ hu hgone _ := not_owned_of_ended hu hgone

/-- Another program that listens adds a listener of its own. -/
theorem hold (w : World) (address : String) (port : UInt16) :
    w.Calm { w with machine := w.machine.hold address port } := by
  rcases w.machine.hold_cases address port with hsame | ⟨x, -, hopened⟩
  · rw [hsame]
    exact refl w
  · rw [hopened]
    apply of_owned
    · intro l hl
      rcases List.mem_append.mp hl with hl | hl
      · exact Or.inl hl
      · rw [List.mem_singleton.mp hl]
        exact Or.inr ⟨address, rfl⟩
    · simp [World.owned]

/-- Another program that stops to listen takes its own listener away. -/
theorem letGo (w : World) (address : String) (port : UInt16) :
    w.Calm { w with machine := { w.machine with
      listeners := w.machine.listeners.filter fun l => !System.isForeign address port l } } := by
  apply of_owned
  · exact fun l hl => Or.inl (List.mem_filter.mp hl).1
  · exact owned_letGo w address port

end World.Calm

namespace System

/-! ## Threads -/

/-- All that make changes one after the other: the reaper first, then the calls in their order. -/
def threads (s : System) : List Call := s.reaper :: s.calls

/-- The system with another world, in which one thread stands elsewhere. -/
def put (s : System) (k : Nat) (w : World) (c : Call) : System :=
  match k with
  | 0 => ⟨w, s.calls, c⟩
  | i + 1 => ⟨w, s.calls.set i c, s.reaper⟩

@[simp] theorem put_world (s : System) (k : Nat) (w : World) (c : Call) :
    (s.put k w c).world = w := by
  cases k <;> rfl

@[simp] theorem threads_put (s : System) (k : Nat) (w : World) (c : Call) :
    (s.put k w c).threads = s.threads.set k c := by
  cases k <;> rfl

/-- A thread after one was put elsewhere is that one or another. -/
theorem of_threads_put {s : System} {k i : Nat} {w : World} {c d : Call}
    (h : (s.put k w c).threads[i]? = some d) :
    (i = k ∧ d = c) ∨ (i ≠ k ∧ s.threads[i]? = some d) := by
  rw [threads_put, List.getElem?_set] at h
  split at h
  · rename_i hik
    split at h
    · cases h
      exact Or.inl ⟨hik.symm, rfl⟩
    · cases h
  · rename_i hik
    exact Or.inr ⟨fun hik' => hik hik'.symm, h⟩

@[simp] theorem threads_succ (s : System) (i : Nat) : s.threads[i + 1]? = s.calls[i]? := rfl

@[simp] theorem threads_zero (s : System) : s.threads[0]? = some s.reaper := rfl

/-- The thread that goes on in an action. -/
def advances? : Action → Option Nat
  | .advance i => some (i + 1)
  | .advanceReaper => some 0
  | _ => none

/-- Only one action lets a call go on. -/
theorem eq_advance {a : Action} {i : Nat} (h : advances? a = some (i + 1)) : a = .advance i := by
  cases a with
  | advance j =>
    cases h
    rfl
  | _ => cases h

/-- The thread that waits no longer in an action. -/
def givesUp? : Action → Option Nat
  | .giveUp i => some (i + 1)
  | .reaperGivesUp => some 0
  | _ => none

/-- Only one action lets a call wait no longer. -/
theorem eq_giveUp {a : Action} {i : Nat} (h : givesUp? a = some (i + 1)) : a = .giveUp i := by
  cases a with
  | giveUp j =>
    cases h
    rfl
  | _ => cases h

/-! ## Moves -/

/-- What an action comes to. -/
inductive Move (s : System) : Action → System → Prop
  | request {r : Request} {w : World} {c : Call} (h : Call.Begins s.world r w c) :
      Move s (.request r) ⟨w, s.calls ++ [c], s.reaper⟩
  | advance {a : Action} {k : Nat} {c d : Call} {w : World} (ha : advances? a = some k)
      (hc : s.threads[k]? = some c) (h : Call.Advances s.world c w d) : Move s a (s.put k w d)
  | giveUp {a : Action} {k : Nat} {r : Removal} (ha : givesUp? a = some k)
      (hc : s.threads[k]? = some (.waiting r)) :
      Move s a (s.put k (s.world.abort (r.entries.map (·.generation))) (.ending r))
  | reap {answer : Answer} {r : Report} {reports : List Report} {w : World} {c : Call}
      (ho : s.reaper = .over answer) (hr : s.world.reports = r :: reports)
      (h : Call.Takes { s.world with reports } r w c) : Move s .reap (s.put 0 w c)
  | calm {a : Action} {w : World} (ha : ∀ r, a ≠ .request r) (hw : s.world.Calm w) :
      Move s a { s with world := w }

/-- Where a thread comes from that stands in a system after an action. -/
inductive Origin (s : System) (a : Action) (w : World) : Nat → Call → Prop
  | stays {i : Nat} {d : Call} (h : s.threads[i]? = some d) : Origin s a w i d
  | begins {r : Request} {d : Call} (ha : a = .request r) (h : Call.Begins s.world r w d) :
      Origin s a w s.threads.length d
  | advances {i : Nat} {c d : Call} (ha : advances? a = some i) (hc : s.threads[i]? = some c)
      (h : Call.Advances s.world c w d) : Origin s a w i d
  | givesUp {i : Nat} {r : Removal} (ha : givesUp? a = some i)
      (hc : s.threads[i]? = some (.waiting r)) : Origin s a w i (.ending r)
  | takes {answer : Answer} {r : Report} {reports : List Report} {d : Call} (ha : a = .reap)
      (ho : s.reaper = .over answer) (hr : s.world.reports = r :: reports)
      (h : Call.Takes { s.world with reports } r w d) : Origin s a w 0 d

/-- Every thread after a move has an origin. -/
theorem Move.origin {s s' : System} {a : Action} (h : Move s a s') {i : Nat} {d : Call}
    (hd : s'.threads[i]? = some d) : ∃ w, s'.world = w ∧ Origin s a w i d := by
  refine ⟨_, rfl, ?_⟩
  cases h with
  | @request r w c h =>
    -- the new call stands behind all others
    have happ : (⟨w, s.calls ++ [c], s.reaper⟩ : System).threads = s.threads ++ [c] := rfl
    rw [happ, List.getElem?_append] at hd
    split at hd
    · exact .stays hd
    · rename_i hlt
      obtain ⟨hi, hdc⟩ := List.getElem?_eq_some_iff.mp hd
      rw [List.length_singleton] at hi
      have hi : i = s.threads.length := by omega
      have hdc : c = d := by simpa using hdc
      rw [hi, ← hdc]
      exact .begins rfl h
  | advance ha hc h =>
    rw [put_world]
    rcases of_threads_put hd with ⟨rfl, rfl⟩ | ⟨-, hd⟩
    · exact .advances ha hc h
    · exact .stays hd
  | giveUp ha hc =>
    rcases of_threads_put hd with ⟨rfl, rfl⟩ | ⟨-, hd⟩
    · exact .givesUp ha hc
    · exact .stays hd
  | reap ho hr h =>
    rw [put_world]
    rcases of_threads_put hd with ⟨rfl, rfl⟩ | ⟨-, hd⟩
    · exact .takes rfl ho hr h
    · exact .stays hd
  | calm _ _ => exact .stays hd

/-- No thread disappears. One that stands elsewhere after a move has gone on, waits no longer, or
is the reaper with a new report. -/
theorem Move.next {s s' : System} {a : Action} (h : Move s a s') {i : Nat} {c : Call}
    (hc : s.threads[i]? = some c) :
    ∃ d, s'.threads[i]? = some d ∧
      (d = c ∨ (advances? a = some i ∧ ∃ w, s'.world = w ∧ Call.Advances s.world c w d) ∨
        (givesUp? a = some i ∧ ∃ r, c = .waiting r ∧ d = .ending r) ∨
        (i = 0 ∧ ∃ answer, c = .over answer)) := by
  have hlt : i < s.threads.length := (List.getElem?_eq_some_iff.mp hc).1
  -- so some thread is at this place after the move, and its origin tells the rest
  have hlength : s.threads.length ≤ s'.threads.length := by
    cases h with
    | request _ => simp [threads]
    | calm _ _ => exact Nat.le_refl _
    | _ => simp
  have hlt' : i < s'.threads.length := by omega
  obtain ⟨d, hd⟩ : ∃ d, s'.threads[i]? = some d := ⟨_, List.getElem?_eq_getElem hlt'⟩
  refine ⟨d, hd, ?_⟩
  obtain ⟨w, hw, ho⟩ := h.origin hd
  cases ho with
  | stays hd' =>
    rw [hc, Option.some.injEq] at hd'
    exact Or.inl hd'.symm
  | begins _ _ => omega
  | advances ha hc' h =>
    rw [hc, Option.some.injEq] at hc'
    subst hc'
    exact Or.inr (Or.inl ⟨ha, w, hw, h⟩)
  | givesUp ha hc' =>
    rw [hc, Option.some.injEq] at hc'
    exact Or.inr (Or.inr (Or.inl ⟨ha, _, hc', rfl⟩))
  | takes _ ho _ _ =>
    rw [threads_zero, Option.some.injEq] at hc
    exact Or.inr (Or.inr (Or.inr ⟨rfl, _, hc ▸ ho⟩))

/-- A call of the list that changes is a thread that changes. -/
theorem withCall_eq_put {s : System} {i : Nat} {c : Call} (hc : s.calls[i]? = some c)
    (change : World → Call → World × Call) :
    s.withCall i change = s.put (i + 1) (change s.world c).1 (change s.world c).2 := by
  unfold withCall
  rw [hc]
  rfl

/-- A call that is not there changes nothing. -/
theorem withCall_eq_self {s : System} {i : Nat} (hc : s.calls[i]? = none)
    (change : World → Call → World × Call) : s.withCall i change = s := by
  unfold withCall
  rw [hc]

/-- What is done to a call of the list is done to a thread, or to none if the call is not there. -/
theorem withCall_cases (s : System) (i : Nat) (change : World → Call → World × Call) :
    s.withCall i change = s ∨ ∃ c, s.calls[i]? = some c ∧
      s.withCall i change = s.put (i + 1) (change s.world c).1 (change s.world c).2 := by
  cases hc : s.calls[i]? with
  | none => exact Or.inl (withCall_eq_self hc change)
  | some c => exact Or.inr ⟨c, rfl, withCall_eq_put hc change⟩

/-- Nothing happens. -/
theorem Move.idle (s : System) {a : Action} (ha : ∀ r, a ≠ .request r) : Move s a s :=
  .calm ha (.refl s.world)

/-- A thread that is left where it stands changes nothing. -/
theorem put_self {s : System} {k : Nat} {c : Call} (hc : s.threads[k]? = some c) :
    s.put k s.world c = s := by
  cases k with
  | zero =>
    rw [threads_zero, Option.some.injEq] at hc
    rw [← hc]
    rfl
  | succ i =>
    rw [threads_succ] at hc
    obtain ⟨hi, rfl⟩ := List.getElem?_eq_some_iff.mp hc
    rw [put, List.set_getElem_self]

/-- A thread that goes on makes one of the changes of its list. -/
theorem move_advance {s : System} {a : Action} {k : Nat} {c : Call} (ha : advances? a = some k)
    (hc : s.threads[k]? = some c) :
    Move s a (s.put k (c.advance s.world).1 (c.advance s.world).2) :=
  .advance ha hc (Call.advances_advance s.world c)

/-- Only a thread that waits can wait no longer. -/
theorem move_giveUp {s : System} {a : Action} {k : Nat} {c : Call} (ha : givesUp? a = some k)
    (hc : s.threads[k]? = some c) :
    Move s a (s.put k (c.giveUp s.world).1 (c.giveUp s.world).2) := by
  cases c with
  | waiting r => exact .giveUp ha hc
  | _ =>
    rw [Call.giveUp, put_self hc]
    · exact .idle s fun r hr => by rw [hr] at ha; cases ha
    · simp

/-- Every action is one of the moves. -/
theorem move_step (s : System) (a : Action) : Move s a (s.step a) := by
  -- an action whose guard fails, or whose call is not there, is a move in which nothing happens
  cases a with
  | request r => exact .request (Call.begins_request s.world r)
  | advance i =>
    rw [step]
    rcases withCall_cases s i Call.advance with h | ⟨c, hc, h⟩
    · rw [h]
      exact .idle s (by simp)
    · rw [h]
      exact move_advance rfl hc
  | giveUp i =>
    rw [step]
    rcases withCall_cases s i Call.giveUp with h | ⟨c, hc, h⟩
    · rw [h]
      exact .idle s (by simp)
    · rw [h]
      exact move_giveUp rfl hc
  | reap =>
    rw [step]
    split
    · rename_i answer r reports ho hr
      exact .reap ho hr (Call.takes_ofReport _ r)
    · exact .idle s (by simp)
  | advanceReaper => exact move_advance (k := 0) rfl rfl
  | reaperGivesUp => exact move_giveUp (k := 0) rfl rfl
  | close t =>
    rw [step]
    split
    · rename_i h
      simp only [Bool.and_eq_true, List.contains_iff_mem] at h
      exact .calm (by simp) (.endTask h.1 h.2)
    · exact .idle s (by simp)
  | fail t reason =>
    rw [step]
    split
    · rename_i h
      exact .calm (by simp) (.failTask (List.contains_iff_mem.mp h) reason)
    · exact .idle s (by simp)
  | die t =>
    rw [step]
    split
    · rename_i h
      simp only [Bool.and_eq_true, List.contains_iff_mem] at h
      exact .calm (by simp) (.failTask h.1 _)
    · exact .idle s (by simp)
  | hold address port => exact .calm (by simp) (.hold s.world address port)
  | letGo address port => exact .calm (by simp) (.letGo s.world address port)
  | stall key on => exact .calm (by simp) (.of_owned (fun _ h => Or.inl h) rfl)

/-- A request adds a call that has made its first change. -/
theorem step_request (s : System) (r : Request) :
    ∃ w c, s.step (.request r) = ⟨w, s.calls ++ [c], s.reaper⟩ ∧ Call.Begins s.world r w c :=
  ⟨_, _, rfl, Call.begins_request s.world r⟩

/-- A start that is admitted has all of its batch to bind. -/
theorem step_admitted {s : System} {key : Key} {batch : List Tunnel} {startHook stopHook : Bool}
    (h : s.world.registry.admission key batch = .ok ()) :
    s.step (.request (.start key batch startHook stopHook)) =
      ⟨s.world.register key batch stopHook,
        s.calls ++ [.binding ⟨s.world.registry.next, key, startHook⟩ [] batch], s.reaper⟩ := by
  rw [step, Call.request, h]

/-- A start that is not admitted changes nothing. -/
theorem step_rejected {s : System} {key : Key} {batch : List Tunnel} {startHook stopHook : Bool}
    {cause : Error} (h : s.world.registry.admission key batch = .error cause) :
    s.step (.request (.start key batch startHook stopHook)) =
      ⟨s.world, s.calls ++ [.over (.error cause)], s.reaper⟩ := by
  rw [step, Call.request, h]

/-- A request leaves the calls before it where they stand. -/
theorem step_request_calls {s : System} {i : Nat} {c : Call} (hc : s.calls[i]? = some c)
    (r : Request) :
    (s.step (.request r)).calls[i]? = some c :=
  (List.getElem?_append_left (List.getElem?_eq_some_iff.mp hc).1).trans hc

/-- A thread that goes on is put where its next change leaves it. -/
theorem step_advance_eq {s : System} {a : Action} {i : Nat} {c : Call} (ha : advances? a = some i)
    (hc : s.threads[i]? = some c) :
    s.step a = s.put i (c.advance s.world).1 (c.advance s.world).2 := by
  cases a with
  | advance j =>
    cases ha
    exact withCall_eq_put hc Call.advance
  | advanceReaper =>
    cases ha
    rw [threads_zero, Option.some.injEq] at hc
    rw [← hc]
    rfl
  | _ => cases ha

/-- A thread that waits no longer is put where that leaves it. -/
theorem step_giveUp_eq {s : System} {a : Action} {i : Nat} {c : Call} (ha : givesUp? a = some i)
    (hc : s.threads[i]? = some c) :
    s.step a = s.put i (c.giveUp s.world).1 (c.giveUp s.world).2 := by
  cases a with
  | giveUp j =>
    cases ha
    exact withCall_eq_put hc Call.giveUp
  | reaperGivesUp =>
    cases ha
    rw [threads_zero, Option.some.injEq] at hc
    rw [← hc]
    rfl
  | _ => cases ha

/-- A thread that is put somewhere stands there. -/
theorem threads_put_self {s : System} {i : Nat} {c : Call} (hc : s.threads[i]? = some c) (w : World)
    (d : Call) : (s.put i w d).threads[i]? = some d := by
  rw [threads_put, List.getElem?_set_self (List.getElem?_eq_some_iff.mp hc).1]

/-- A thread that goes on makes its next change. -/
theorem step_advances {s : System} {a : Action} {i : Nat} {c : Call} (ha : advances? a = some i)
    (hc : s.threads[i]? = some c) :
    ∃ d w, (s.step a).threads[i]? = some d ∧ (s.step a).world = w ∧
      Call.Advances s.world c w d := by
  refine ⟨_, _, ?_, ?_, Call.advances_advance s.world c⟩
  · rw [step_advance_eq ha hc, threads_put_self hc]
  · rw [step_advance_eq ha hc, put_world]

/-! ## Runs -/

/-- At some moment of a run the state and the action made there are related so. -/
def Along (s : System) (actions : List Action) (P : System → Action → Prop) : Prop :=
  ∃ before a after, actions = before ++ a :: after ∧ P (s.run before) a

variable {s : System} {actions : List Action} {P : System → Action → Prop}

theorem run_snoc (s : System) (actions : List Action) (a : Action) :
    s.run (actions ++ [a]) = (s.run actions).step a := by
  rw [run_append]
  rfl

@[simp] theorem not_along_nil : ¬ s.Along [] P := by
  rintro ⟨before, a, after, h, -⟩
  simp at h

/-- What stands somewhere in a list with one more element is that element, or stands in the list. -/
theorem split_snoc {α : Type} {l before after : List α} {x y : α}
    (h : l ++ [x] = before ++ y :: after) :
    (before = l ∧ y = x ∧ after = []) ∨ ∃ rest, after = rest ++ [x] ∧ l = before ++ y :: rest := by
  rcases List.eq_nil_or_concat after with rfl | ⟨rest, z, rfl⟩
  · obtain ⟨rfl, hxy⟩ := List.append_inj' h rfl
    exact Or.inl ⟨rfl, (List.cons.inj hxy).1.symm, rfl⟩
  · rw [List.concat_eq_append, ← List.cons_append, ← List.append_assoc] at h
    obtain ⟨hl, hxz⟩ := List.append_inj' h rfl
    rw [(List.cons.inj hxz).1, List.concat_eq_append]
    exact Or.inr ⟨rest, rfl, hl⟩

/-- A longer run has the moments of the shorter one and its last. -/
theorem along_snoc {a : Action} :
    s.Along (actions ++ [a]) P ↔ s.Along actions P ∨ P (s.run actions) a := by
  constructor
  · rintro ⟨before, b, after, h, hP⟩
    -- the moment is the last one, or the run goes on after it
    rcases split_snoc h with ⟨rfl, rfl, -⟩ | ⟨rest, -, hrest⟩
    · exact Or.inr hP
    · exact Or.inl ⟨before, b, rest, hrest, hP⟩
  · rintro (⟨before, b, after, rfl, hP⟩ | hP)
    · exact ⟨before, b, after ++ [a], by simp, hP⟩
    · exact ⟨actions, a, [], rfl, hP⟩

/-- A run has the moments of its beginning and those of what comes after. -/
theorem along_append {more : List Action} :
    s.Along (actions ++ more) P ↔ s.Along actions P ∨ (s.run actions).Along more P := by
  induction more using List.reverseRecOn with
  | nil => simp
  | append_singleton more a ih =>
    rw [← List.append_assoc, along_snoc, ih, along_snoc, or_assoc, run_append]

/-- What happened stays part of every continuation. -/
theorem Along.append (h : s.Along actions P) (more : List Action) :
    s.Along (actions ++ more) P := by
  obtain ⟨before, a, after, rfl, hP⟩ := h
  exact ⟨before, a, after ++ more, by simp, hP⟩

/-- What holds at the start and is kept by every further action, given all that happened so far,
holds after every run. -/
theorem run_induction {s : System} {motive : List Action → System → Prop} (start : motive [] s)
    (keep : ∀ actions a, motive actions (s.run actions) →
      motive (actions ++ [a]) ((s.run actions).step a)) (actions : List Action) :
    motive actions (s.run actions) := by
  induction actions using List.reverseRecOn with
  | nil => exact start
  | append_singleton actions a ih =>
    rw [run_snoc]
    exact keep actions a ih

/-- A run from the start is reachable. -/
theorem reachable_run (limit : Nat) (platform : Platform) (actions : List Action) :
    ((initial limit platform).run actions).Reachable := ⟨limit, platform, actions, rfl⟩

/-- What comes about from something reachable is reachable. -/
theorem Reachable.run (h : s.Reachable) (actions : List Action) : (s.run actions).Reachable := by
  obtain ⟨limit, platform, before, rfl⟩ := h
  exact ⟨limit, platform, before ++ actions, (run_append _ before actions).symm⟩

/-- What holds at the start and is kept by every change of what can come about holds of all that
can. -/
theorem Reachable.invariant {P : System → Prop}
    (start : ∀ limit platform, P (initial limit platform))
    (keep : ∀ s a, s.Reachable → P s → P (s.step a)) (h : s.Reachable) : P s := by
  have hboth : s.Reachable ∧ P s := by
    refine h.induction (P := fun s => s.Reachable ∧ P s) ?_ ?_
    · intro limit platform
      exact ⟨reachable_run limit platform [], start limit platform⟩
    · rintro s a ⟨hr, hs⟩
      exact ⟨hr.run [a], keep s a hr hs⟩
  exact hboth.2

end System
end PortForward
