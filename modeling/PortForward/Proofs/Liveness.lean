/-
# The monitor of a target

A forwarder lives as long as its target does, and the monitor says when the target is gone: at the first
look that finds no pod, or a pod whose container would not be forwarded. Looks that fail prove nothing,
however many there are.

* `Gone`, `not_gone_iff` : what a look says about the target;
* `answers` : what a client is going to say, look after look;
* `monitor_of_endsAt`, `monitor_of_alive` : the monitor ends at the first look by which the target is
  gone, and not before;
* `forwardable_iff_not_gone` : a container can be forwarded if it is declared and its pod would not end
  the monitor;
* `monitor_resolves` : both together.
-/
import Mathlib.Logic.Function.Iterate
import PortForward.Cluster.Watch

namespace PortForward.Cluster

/-! ## One look -/

/-- By this look the target is gone, for this reason: there is no pod, or its container does not pass
the check of running containers. -/
inductive Gone (key : Key) : Outcome → String → Prop
  | deleted : Gone key (.ok none) ("pod " ++ key.path ++ " deleted")
  | unfit {pod : Pod} {e : Error} (h : ContainerStatus.check key.container pod.statuses = .error e) :
      Gone key (.ok (some pod)) e.message

variable {key : Key} {o : Outcome} {reason : String}

theorem endReason?_eq_some_iff : endReason? key o = some reason ↔ Gone key o reason := by
  constructor
  · intro h
    match o with
    | .error _ => cases h
    | .ok none =>
      cases h
      exact .deleted
    | .ok (some pod) =>
      rw [endReason?] at h
      cases hcheck : ContainerStatus.check key.container pod.statuses with
      | ok _ =>
        rw [hcheck] at h
        cases h
      | error e =>
        rw [hcheck] at h
        cases h
        exact .unfit hcheck
  · rintro (_ | hcheck)
    · rfl
    · rw [endReason?, hcheck]

theorem endReason?_eq_none_iff : endReason? key o = none ↔ ∀ r, ¬ Gone key o r := by
  simp only [← endReason?_eq_some_iff]
  exact Option.eq_none_iff_forall_ne_some

/-- A look speaks for the target if it has failed, or has found a pod whose container runs. -/
theorem not_gone_iff : (∀ r, ¬ Gone key o r) ↔
    (∃ e, o = .error e) ∨
      ∃ pod, o = .ok (some pod) ∧ ContainerStatus.check key.container pod.statuses = .ok () := by
  rw [← endReason?_eq_none_iff]
  match o with
  | .error e => simp [endReason?]
  | .ok none => simp [endReason?]
  | .ok (some pod) => cases hcheck : ContainerStatus.check key.container pod.statuses <;>
      simp [endReason?, hcheck]

/-! ## Look after look -/

section Monitor

variable {Client : Type} (ask : Client → Client × Outcome) (client : Client)

/-- The client after so many looks. -/
def asked (k : Nat) : Client := (fun c => (ask c).1)^[k] client

/-- What the client says in each of its looks, counted from zero. -/
def answers (k : Nat) : Outcome := (ask (asked ask client k)).2

/-- In a series of looks, this is the first one by which the target is gone. -/
structure EndsAt (key : Key) (looks : Nat → Outcome) (k : Nat) (reason : String) : Prop where
  gone : Gone key (looks k) reason
  before : ∀ j < k, ∀ r, ¬ Gone key (looks j) r

/-- Any series of looks is what some client says. -/
theorem answers_counted (looks : Nat → Outcome) :
    answers (fun k => (k + 1, looks k)) 0 = looks := by
  have hcount : ∀ k, asked (fun k => (k + 1, looks k)) 0 k = k := by
    intro k
    induction k with
    | zero => rfl
    | succ k ih => rw [asked, Function.iterate_succ_apply', ← asked, ih]
  funext k
  rw [answers, hcount]

variable {ask client} {k n : Nat}

/-- While no look says that the target is gone, the monitor goes on. -/
theorem monitor_of_alive (h : ∀ j < n, ∀ r, ¬ Gone key (answers ask client j) r) :
    monitor ask key n client = (asked ask client n, none) := by
  induction n generalizing client with
  | zero => rfl
  | succ n ih =>
    have hfirst : endReason? key (ask client).2 = none :=
      endReason?_eq_none_iff.mpr (h 0 n.succ_pos)
    rw [monitor]
    dsimp only
    rw [hfirst]
    -- the later looks are those of the client that the first one leaves
    exact ih fun j hj => h (j + 1) (Nat.succ_lt_succ hj)

/-- With the first look by which the target is gone, the monitor ends, and looks no more. -/
theorem monitor_of_endsAt (h : EndsAt key (answers ask client) k reason) (hn : k < n) :
    monitor ask key n client = (asked ask client (k + 1), some reason) := by
  induction k generalizing client n with
  | zero =>
    obtain ⟨n, rfl⟩ := Nat.exists_eq_add_one_of_ne_zero (Nat.ne_of_gt hn)
    have hfirst : endReason? key (ask client).2 = some reason := endReason?_eq_some_iff.mpr h.gone
    rw [monitor]
    dsimp only
    rw [hfirst]
    rfl
  | succ k ih =>
    obtain ⟨n, rfl⟩ := Nat.exists_eq_add_one_of_ne_zero (Nat.ne_of_gt (Nat.zero_lt_of_lt hn))
    have hfirst : endReason? key (ask client).2 = none :=
      endReason?_eq_none_iff.mpr (h.before 0 k.succ_pos)
    have hlater : EndsAt key (answers ask (ask client).1) k reason :=
      ⟨h.gone, fun j hj => h.before (j + 1) (Nat.succ_lt_succ hj)⟩
    rw [monitor]
    dsimp only
    rw [hfirst]
    exact ih hlater (Nat.lt_of_succ_lt_succ hn)

end Monitor

/-! ## The judgement of the monitor and of the forward -/

/-- A container can be forwarded if the pod declares it and would not end the monitor. -/
theorem forwardable_iff_not_gone {pod : Pod} :
    (∃ specs, pod.forwardable key.container = .ok specs) ↔
      (∃ c ∈ pod.containers, c.name = key.container) ∧ ∀ r, ¬ Gone key (.ok (some pod)) r := by
  have hjudged : (∀ r, ¬ Gone key (.ok (some pod)) r) ↔
      ContainerStatus.check key.container pod.statuses = .ok () := by
    simp [not_gone_iff]
  rw [hjudged, ← Container.exists_find?, ContainerStatus.check_eq_ok_iff]
  simp only [Pod.forwardable_eq_ok_iff]
  constructor
  · rintro ⟨_, c, hc, hruns, rfl⟩
    exact ⟨⟨c, hc⟩, hruns⟩
  · rintro ⟨⟨c, hc⟩, hruns⟩
    exact ⟨_, c, hc, hruns, rfl⟩

/-- Whatever a client says, look after look, the monitor ends with the first look that finds no pod or a
container that does not run, for this reason and without another look; looks that fail and looks that
find the container running never end it. A client may say any series of looks. And a container can be
forwarded exactly if its pod declares it and would not end the monitor of a forwarder to it. -/
theorem monitor_resolves {Client : Type} (ask : Client → Client × Outcome) (client : Client)
    (key : Key) :
    (∀ k reason, EndsAt key (answers ask client) k reason → ∀ n, monitor ask key n client =
      if k < n then (asked ask client (k + 1), some reason) else (asked ask client n, none)) ∧
    ((∀ k, (∃ e, answers ask client k = .error e) ∨ ∃ pod, answers ask client k = .ok (some pod) ∧
        ContainerStatus.check key.container pod.statuses = .ok ()) →
      ∀ n, monitor ask key n client = (asked ask client n, none)) ∧
    (∀ looks : Nat → Outcome, answers (fun k => (k + 1, looks k)) 0 = looks) ∧
    ∀ pod : Pod, (∃ specs, pod.forwardable key.container = .ok specs) ↔
      (∃ c ∈ pod.containers, c.name = key.container) ∧ ∀ reason, ¬ Gone key (.ok (some pod)) reason := by
  refine ⟨?_, ?_, answers_counted, fun pod => forwardable_iff_not_gone⟩
  · intro k reason h n
    split
    · rename_i hn
      exact monitor_of_endsAt h hn
    · rename_i hn
      exact monitor_of_alive fun j hj => h.before j (Nat.lt_of_lt_of_le hj (Nat.le_of_not_lt hn))
  · intro h n
    exact monitor_of_alive fun j _ => not_gone_iff.mpr (h j)

/-- A state that says both running and waiting is one of a running container; without a status for the
container, the target is gone. -/
example :
    let unknown : Outcome := .error .unreachable
    let both : Outcome :=
      .ok (some { statuses := [⟨"web", some { running := true, waiting := true }⟩] })
    let other : Outcome := .ok (some { statuses := [⟨"db", some { running := true }⟩] })
    let looks := [unknown, both, unknown, other, .ok none]
    (monitor (fun k => (k + 1, looks.getD k unknown)) ⟨"default/web-1", "web"⟩ 9 0) =
      (4, some "unable to locate container status for \"web\"") := by decide +kernel

end PortForward.Cluster
