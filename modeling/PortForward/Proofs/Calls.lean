/-
# What a change of a call comes to

All outcomes of the first change of a call (`Begins`), of each further one (`Advances`) and of a
report that is taken (`Takes`), with the world that results. Whatever holds of a call or of the
world after a change is read off these lists.

* `begins_request`, `advances_advance`, `takes_ofReport` : the lists are complete.
-/
import PortForward.Proofs.Entries
import PortForward.World.Call

namespace PortForward

/-! ## Changes of the world -/

/-- Who listens has a listener where the endpoint was free. -/
theorem Machine.listen_eq_ok {m m' : Machine} {owner : Owner} {address : String} {port : UInt16}
    (h : m.listen owner address port = .ok m') :
    ∃ x, m.probe address port = .ok x ∧
      m' = { m with listeners := m.listeners ++ [⟨x, port, owner⟩] } := by
  rw [listen] at h
  cases hprobe : m.probe address port with
  | error cause =>
    rw [hprobe] at h
    cases h
  | ok x =>
    rw [hprobe] at h
    cases h
    exact ⟨x, rfl, rfl⟩

namespace World

/-- The world with one more listener of a forwarder. -/
def withListener (w : World) (generation : Nat) (t : Tunnel) (x : Net.IpAddress) : World :=
  { w with machine := { w.machine with
      listeners := w.machine.listeners ++ [⟨x, t.localPort, .tunnel generation t⟩] } }

/-- The world after a forwarder was made active, with the registry that came of it. -/
def withActive (w : World) (registry : Registry) (v : View) (generation : Nat)
    (bound : List Tunnel) : World :=
  { w with
    registry
    tasks := w.tasks ++ w.newTasks v bound
    starting := w.starting.filter (· != generation) }

/-- The world after a forwarder was removed, with the registry that came of it. -/
def withoutEntry (w : World) (registry : Registry) (generation : Nat) : World :=
  { w with registry, cancelled := generation :: w.cancelled }

/-- A tunnel that is listened for adds its listener. -/
theorem listen_eq_ok {w w' : World} {generation : Nat} {t : Tunnel}
    (h : w.listen generation t = .ok w') :
    ∃ x, w.machine.probe t.address t.localPort = .ok x ∧ w' = w.withListener generation t x := by
  rw [listen] at h
  cases hlisten : w.machine.listen (.tunnel generation t) t.address t.localPort with
  | error cause =>
    rw [hlisten] at h
    cases h
  | ok machine =>
    rw [hlisten] at h
    cases h
    obtain ⟨x, hx, rfl⟩ := Machine.listen_eq_ok hlisten
    exact ⟨x, hx, rfl⟩

/-- A tunnel that may be listened for adds its listener. -/
theorem listen_of_probe {w : World} {generation : Nat} {t : Tunnel} {x : Net.IpAddress}
    (h : w.machine.probe t.address t.localPort = .ok x) :
    w.listen generation t = .ok (w.withListener generation t x) := by
  unfold listen Machine.listen
  rw [h]
  rfl

end World

/-- The keys that a request to stop names; nothing if it is none. -/
def Request.names? : Request → Option (Key → Bool)
  | .start _ _ _ _ => none
  | .stop key => some (· == key)
  | .stopPath path => some (·.path == path)
  | .stopAll => some fun _ => true

namespace Call

/-! ## Lists of outcomes -/

/-- The first change of a call. -/
inductive Begins (w : World) : Request → World → Call → Prop
  | admitted {key : Key} {batch : List Tunnel} {startHook stopHook : Bool}
      (h : w.registry.admission key batch = .ok ()) :
      Begins w (.start key batch startHook stopHook) (w.register key batch stopHook)
        (.binding ⟨w.registry.next, key, startHook⟩ [] batch)
  | rejected {key : Key} {batch : List Tunnel} {startHook stopHook : Bool} {cause : Error}
      (h : w.registry.admission key batch = .error cause) :
      Begins w (.start key batch startHook stopHook) w (.over (.error cause))
  | nothing {r : Request} {p : Key → Bool} {answer : Answer} (hp : r.names? = some p)
      (h : (w.registry.take p).1 = []) : Begins w r (w.remove p).2 (.over answer)
  | removed {r : Request} {p : Key → Bool} {answer : Answer} (hp : r.names? = some p)
      (h : (w.registry.take p).1 ≠ []) :
      Begins w r (w.remove p).2 (.waiting ⟨(w.registry.take p).1, none, answer⟩)

/-- Each further change of a call. -/
inductive Advances (w : World) : Call → World → Call → Prop
  | bound {s : Start} {bound left : List Tunnel} {t : Tunnel} {x : Net.IpAddress}
      (h : w.machine.probe t.address t.localPort = .ok x) :
      Advances w (.binding s bound (t :: left)) (w.withListener s.generation t x)
        (.binding s (bound ++ [t]) left)
  | refused {s : Start} {bound left : List Tunnel} {t : Tunnel} {cause : IoError}
      (h : w.listen s.generation t = .error cause) :
      Advances w (.binding s bound (t :: left)) w (.dropping s bound (.refused t cause))
  | committed {s : Start} {bound : List Tunnel} {v : View} {r : Registry}
      (h : w.registry.commit s.key s.generation bound = some (v, r)) :
      Advances w (.binding s bound []) (w.withActive r v s.generation bound)
        (.activated v s.startHook)
  | overtaken {s : Start} {bound : List Tunnel}
      (h : w.registry.commit s.key s.generation bound = none) :
      Advances w (.binding s bound []) w (.dropping s bound .overtaken)
  | dropped {s : Start} {bound : List Tunnel} {setback : Setback} :
      Advances w (.dropping s bound setback) (w.drop s.generation bound) (.releasing s setback)
  | released {s : Start} {t : Tunnel} {cause : IoError} :
      Advances w (.releasing s (.refused t cause)) (w.release s.generation) (.unbound s t cause)
  | withdrawn {s : Start} :
      Advances w (.releasing s .overtaken) (w.release s.generation)
        (.over (.error (.cancelled s.key)))
  | evicted {s : Start} {t : Tunnel} {cause : IoError} {e : Entry} {r : Registry}
      (h : w.registry.evict s.key s.generation = some (e, r)) :
      Advances w (.unbound s t cause) (w.withoutEntry r s.generation)
        (.ending ⟨[e], some (.bind t cause), .error (.bind t cause)⟩)
  | forestalled {s : Start} {t : Tunnel} {cause : IoError}
      (h : w.registry.evict s.key s.generation = none) :
      Advances w (.unbound s t cause) w (.over (.error (.bind t cause)))
  | hooked {v : View} {startHook : Bool} :
      Advances w (.activated v startHook) (if startHook then w.note (.startHook v) else w)
        (.announcing v)
  | announced {v : View} : Advances w (.announcing v) (w.note (.started v)) (.over (.ok (.view v)))
  | quiet {r : Removal} (h : ∀ e ∈ r.entries, w.isQuiet e.generation = true) :
      Advances w (.waiting r) w (.ending r)
  | waits {r : Removal} : Advances w (.waiting r) w (.waiting r)
  | allEnded {cause : Option Error} {answer : Answer} :
      Advances w (.ending ⟨[], cause, answer⟩) w (.over answer)
  | ended {e : Entry} {es : List Entry} {cause : Option Error} {answer : Answer} :
      Advances w (.ending ⟨e :: es, cause, answer⟩)
        (if e.stopHook then w.note (.stopHook e.generation e.key cause) else w)
        (.reporting ⟨e :: es, cause, answer⟩)
  | allReported {cause : Option Error} {answer : Answer} :
      Advances w (.reporting ⟨[], cause, answer⟩) w (.over answer)
  | reported {e : Entry} {es : List Entry} {cause : Option Error} {answer : Answer} :
      Advances w (.reporting ⟨e :: es, cause, answer⟩) (w.note (e.lastRecord cause))
        (.ending ⟨es, cause, answer⟩)
  | over {answer : Answer} : Advances w (.over answer) w (.over answer)

/-- A report that is taken. -/
inductive Takes (w : World) (r : Report) : World → Call → Prop
  | evicted {e : Entry} {registry : Registry}
      (h : w.registry.evict r.key r.generation = some (e, registry)) :
      Takes w r (w.withoutEntry registry r.generation)
        (.waiting ⟨[e], some (.terminated r.key r.reason), .ok .done⟩)
  | stale (h : w.registry.evict r.key r.generation = none) : Takes w r w (.over (.ok .done))

/-! ## The lists are complete -/

theorem begins_request (w : World) (r : Request) : Begins w r (request w r).1 (request w r).2 := by
  cases r with
  | start key batch startHook stopHook =>
    rw [request]
    cases h : w.registry.admission key batch with
    | ok u => exact .admitted h
    | error cause => exact .rejected h
  | stop key =>
    by_cases h : (w.registry.take (· == key)).1 = []
    · have hr : (w.remove (· == key)).1 = [] := h
      simp only [request, hr, if_true]
      exact .nothing rfl h
    · have hr : (w.remove (· == key)).1 ≠ [] := h
      simp only [request, hr, if_false]
      exact .removed rfl h
  | stopPath path =>
    by_cases h : (w.registry.take (·.path == path)).1 = []
    · have hr : (w.remove (·.path == path)).1 = [] := h
      simp only [request, ofRemoval, hr, if_true]
      exact .nothing rfl h
    · have hr : (w.remove (·.path == path)).1 ≠ [] := h
      simp only [request, ofRemoval, hr, if_false]
      exact .removed rfl h
  | stopAll =>
    by_cases h : (w.registry.take fun _ => true).1 = []
    · have hr : (w.remove fun _ => true).1 = [] := h
      simp only [request, ofRemoval, hr, if_true]
      exact .nothing rfl h
    · have hr : (w.remove fun _ => true).1 ≠ [] := h
      simp only [request, ofRemoval, hr, if_false]
      exact .removed rfl h

theorem advances_advance (w : World) (c : Call) : Advances w c (c.advance w).1 (c.advance w).2 := by
  cases c with
  | binding s bound left =>
    cases left with
    | nil =>
      rw [advance, World.activate]
      cases h : w.registry.commit s.key s.generation bound with
      | none => exact .overtaken h
      | some vr => exact .committed h
    | cons t left =>
      rw [advance]
      cases h : w.listen s.generation t with
      | ok w' =>
        obtain ⟨x, hx, rfl⟩ := World.listen_eq_ok h
        exact .bound hx
      | error cause => exact .refused h
  | dropping s bound setback => exact .dropped
  | releasing s setback => cases setback <;> constructor
  | unbound s t cause =>
    rw [advance, World.evict]
    cases h : w.registry.evict s.key s.generation with
    | none => exact .forestalled h
    | some er => exact .evicted h
  | activated v startHook => exact .hooked
  | announcing v => exact .announced
  | waiting r =>
    rw [advance]
    split
    · rename_i h
      exact .quiet (List.all_eq_true.mp h)
    · exact .waits
  | ending r =>
    obtain ⟨entries, cause, answer⟩ := r
    cases entries with
    | nil => exact .allEnded
    | cons e es => exact .ended
  | reporting r =>
    obtain ⟨entries, cause, answer⟩ := r
    cases entries with
    | nil => exact .allReported
    | cons e es => exact .reported
  | _ => exact .over

theorem takes_ofReport (w : World) (r : Report) : Takes w r (ofReport w r).1 (ofReport w r).2 := by
  unfold ofReport World.evict
  cases h : w.registry.evict r.key r.generation with
  | none => exact .stale h
  | some er => exact .evicted h

end Call
end PortForward
