/-
# Starts that nobody disturbs

The start of a forwarder while nothing else goes on. It returns after a number of changes that the
length of its batch bounds; if it fails, it was refused a tunnel of the batch, and the registry and
the machine are as they were.

* `Lone` : where such a start can stand, and what has become of the world;
* `Lone.advance` : it goes from one of these to another;
* `lone_run` : where it stands after so many changes.
-/
import PortForward.Proofs.Settling

namespace PortForward

/-- An entry that is put somewhere is taken out again. -/
theorem Registry.insertSorted_filter {p : Entry → Bool} {e : Entry} (he : p e = false)
    (es : List Entry) : (insertSorted e es).filter p = es.filter p := by
  induction es with
  | nil => simp [insertSorted, he]
  | cons x es ih =>
    rw [insertSorted]
    split
    · rw [List.filter_cons_of_neg (by simp [he])]
    · rw [List.filter_cons, List.filter_cons, ih]

/-- A forwarder that is admitted and removed leaves the entries as they were. -/
theorem Registry.Admissible.take_insert {r : Registry} {key : Key} {batch : List Tunnel}
    (h : r.Admissible key batch) (stopHook : Bool) :
    ((r.insert key batch stopHook).take (· == key)).2.entries = r.entries := by
  have hnew : (!((r.newEntry key batch stopHook).key == key)) = false := by simp [newEntry]
  have hall : ∀ e ∈ r.entries, (!(e.key == key)) = true := by
    intro e he
    simpa using h.free e he
  have hfilter := insertSorted_filter (p := fun e => !(e.key == key)) hnew r.entries
  rw [List.filter_eq_self.mpr hall] at hfilter
  exact hfilter

/-- The hook call and the event of a forwarder that could not be bound. -/
def Entry.hookRecords (e : Entry) (cause : Error) : List Record :=
  if e.stopHook then [.stopHook e.generation e.key (some cause)] else []

/-- From the one world to the other, registry and machine are the same again. -/
structure World.Restored (w w' : World) : Prop where
  entries : w'.registry.entries = w.registry.entries
  limit : w'.registry.limit = w.registry.limit
  listeners : w'.machine.listeners = w.machine.listeners

/-- From the one world to the other, the forwarder has gained listeners, all of them for these
tunnels; the others are the same. -/
structure World.Gained (w w' : World) (g : Nat) (bound : List Tunnel) : Prop where
  others : w'.machine.listeners.filter (fun l => !ownedBy g l.owner) = w.machine.listeners
  own : ∀ l ∈ w'.machine.listeners, ownedBy g l.owner = true → boundBy g bound l.owner = true

/-- One more listener is gained. -/
theorem World.Gained.bound {w w' : World} {g : Nat} {bound : List Tunnel}
    (h : w.Gained w' g bound) (t : Tunnel) (x : Net.IpAddress) :
    w.Gained (w'.withListener g t x) g (bound ++ [t]) := by
  constructor
  · have hnew : [(⟨x, t.localPort, .tunnel g t⟩ : Listener)].filter
        (fun l => !ownedBy g l.owner) = [] := by simp [ownedBy]
    rw [withListener, List.filter_append, h.others, hnew, List.append_nil]
  · intro l hl ho
    rcases List.mem_append.mp hl with hl | hl
    · have hold := h.own l hl ho
      revert hold
      cases l.owner with
      | tunnel f u =>
        simp only [boundBy, Bool.and_eq_true, List.contains_iff_mem, List.mem_append]
        exact And.imp_right Or.inl
      | foreign address => exact id
    · rw [List.mem_singleton.mp hl]
      simp [boundBy]

/-- When what was gained is closed, the listeners are as before. -/
theorem World.Gained.drop {w w' : World} {g : Nat} {bound : List Tunnel}
    (h : w.Gained w' g bound) : (w'.drop g bound).machine.listeners = w.machine.listeners := by
  rw [← h.others]
  apply List.filter_congr
  intro l hl
  have hown := h.own l hl
  revert hown
  cases l.owner with
  | tunnel f u => cases hf : f == g <;> simp [boundBy, ownedBy, hf]
  | foreign address => simp [boundBy, ownedBy]

namespace Call

variable {w₀ w w' : World} {e : Entry} {c d : Call}

/-- Where a start stands that nobody disturbs, and what has become of the world. -/
inductive Lone (w₀ : World) (e : Entry) : World → Call → Prop
  | binding {w : World} {startHook : Bool} {bound left : List Tunnel}
      (hr : w.registry = w₀.registry.insert e.key e.tunnels e.stopHook)
      (hl : w₀.Gained w e.generation bound) (hj : w.journal = w₀.journal)
      (hleft : ∀ t ∈ left, t ∈ e.tunnels) :
      Lone w₀ e w (.binding ⟨e.generation, e.key, startHook⟩ bound left)
  | dropping {w : World} {startHook : Bool} {bound : List Tunnel} {t : Tunnel} {io : IoError}
      (hr : w.registry = w₀.registry.insert e.key e.tunnels e.stopHook)
      (hl : w₀.Gained w e.generation bound) (hj : w.journal = w₀.journal) (ht : t ∈ e.tunnels) :
      Lone w₀ e w (.dropping ⟨e.generation, e.key, startHook⟩ bound (.refused t io))
  | releasing {w : World} {startHook : Bool} {t : Tunnel} {io : IoError}
      (hr : w.registry = w₀.registry.insert e.key e.tunnels e.stopHook)
      (hl : w.machine.listeners = w₀.machine.listeners) (hj : w.journal = w₀.journal)
      (ht : t ∈ e.tunnels) :
      Lone w₀ e w (.releasing ⟨e.generation, e.key, startHook⟩ (.refused t io))
  | unbound {w : World} {startHook : Bool} {t : Tunnel} {io : IoError}
      (hr : w.registry = w₀.registry.insert e.key e.tunnels e.stopHook)
      (hl : w.machine.listeners = w₀.machine.listeners) (hj : w.journal = w₀.journal)
      (ht : t ∈ e.tunnels) :
      Lone w₀ e w (.unbound ⟨e.generation, e.key, startHook⟩ t io)
  | ending {w : World} {t : Tunnel} {io : IoError} (hw : w₀.Restored w)
      (hj : w.journal = w₀.journal) (ht : t ∈ e.tunnels) :
      Lone w₀ e w (.ending ⟨[e], some (.bind t io), .error (.bind t io)⟩)
  | reporting {w : World} {t : Tunnel} {io : IoError} (hw : w₀.Restored w)
      (hj : w.journal = w₀.journal ++ e.hookRecords (.bind t io)) (ht : t ∈ e.tunnels) :
      Lone w₀ e w (.reporting ⟨[e], some (.bind t io), .error (.bind t io)⟩)
  | told {w : World} {t : Tunnel} {io : IoError} (hw : w₀.Restored w)
      (hj : w.journal = w₀.journal ++ e.hookRecords (.bind t io) ++
        [.failed e.failedView (.bind t io)]) (ht : t ∈ e.tunnels) :
      Lone w₀ e w (.ending ⟨[], some (.bind t io), .error (.bind t io)⟩)
  | failed {w : World} {t : Tunnel} {io : IoError} (hw : w₀.Restored w)
      (hj : w.journal = w₀.journal ++ e.hookRecords (.bind t io) ++
        [.failed e.failedView (.bind t io)]) (ht : t ∈ e.tunnels) :
      Lone w₀ e w (.over (.error (.bind t io)))
  | started {w : World} {c : Call} {v : View} (h : c.view? = some v ∨ c = .over (.ok (.view v))) :
      Lone w₀ e w c

/-- A start that nobody disturbs goes on. -/
theorem Lone.advance (h : Lone w₀ e w c) (hs : w₀.registry.Sound)
    (ha : w₀.registry.Admissible e.key e.tunnels)
    (he : e = w₀.registry.newEntry e.key e.tunnels e.stopHook) :
    Lone w₀ e (c.advance w).1 (c.advance w).2 := by
  have hadv := advances_advance w c
  generalize (c.advance w).1 = w', (c.advance w).2 = d at hadv
  -- nobody else has removed the forwarder
  have hsound := hs.insert ha e.stopHook
  have hmem : e ∈ (w₀.registry.insert e.key e.tunnels e.stopHook).entries :=
    Registry.mem_insert.mpr (Or.inl he)
  cases h with
  | @binding _ bound _ hr hl hj hleft =>
    cases hadv with
    | @bound st bound left t x _ =>
      exact .binding hr (hl.bound t x) hj fun u hu => hleft u (List.mem_cons_of_mem t hu)
    | refused _ => exact .dropping hr hl hj (hleft _ List.mem_cons_self)
    | committed _ => exact .started (Or.inl rfl)
    | overtaken hnone =>
      obtain ⟨r, hsome⟩ := hsound.commit_of_mem hmem bound
      rw [hr, hsome] at hnone
      cases hnone
  | dropping hr hl hj ht =>
    cases hadv with
    | dropped => exact .releasing hr hl.drop hj ht
  | releasing hr hl hj ht =>
    cases hadv with
    | released => exact .unbound hr hl hj ht
  | unbound hr hl hj ht =>
    have hevict := hsound.evict_of_mem hmem
    cases hadv with
    | @evicted _ _ _ x r hsome =>
      rw [hr, hevict, Option.some.injEq, Prod.mk.injEq] at hsome
      obtain ⟨rfl, rfl⟩ := hsome
      exact .ending ⟨ha.take_insert e.stopHook, rfl, hl⟩ hj ht
    | forestalled hnone =>
      rw [hr, hevict] at hnone
      cases hnone
  | ending hw hj ht =>
    cases hadv with
    | ended =>
      cases hhook : e.stopHook with
      | true =>
        refine .reporting ⟨hw.entries, hw.limit, hw.listeners⟩ ?_ ht
        simp [World.note, Entry.hookRecords, hhook, hj]
      | false =>
        refine .reporting hw ?_ ht
        simp [Entry.hookRecords, hhook, hj]
  | reporting hw hj ht =>
    cases hadv with
    | reported =>
      refine .told ⟨hw.entries, hw.limit, hw.listeners⟩ ?_ ht
      rw [World.note, hj]
      rfl
  | told hw hj ht =>
    cases hadv with
    | allEnded => exact .failed hw hj ht
  | failed hw hj ht =>
    cases hadv with
    | «over» => exact .failed hw hj ht
  | started hv =>
    rcases hv with hv | rfl
    · cases hadv with
      | hooked => exact .started (Or.inl rfl)
      | announced => exact .started (Or.inr rfl)
      | _ => cases hv
    · cases hadv with
      | «over» => exact .started (Or.inr rfl)

/-- With every change that it makes, such a start has fewer left. -/
theorem Lone.left (h : Lone w₀ e w c) :
    (∃ answer, c = .over answer) ∨ (c.advance w).2.changesLeft < c.changesLeft := by
  have hproper : c.Proper := by
    cases h with
    | started hv =>
      rintro r rfl
      rcases hv with hv | hv <;> cases hv
    | _ => simp [Proper]
  cases hstuck : System.isStuck w c with
  | false => exact Or.inr (changesLeft_advance hproper hstuck)
  | true =>
    cases hlook : System.looksUp c with
    | true => exact Or.inr (System.follows_of_looksUp hlook).2
    | false =>
      left
      have hown := System.own?_of_stuck hstuck hlook
      cases h with
      | failed _ _ _ => exact ⟨_, rfl⟩
      | started hv =>
        rcases hv with hv | rfl
        · rw [(own?_of_view? hv).1] at hown
          cases hown
        · exact ⟨_, rfl⟩
      | binding _ _ _ _ => cases hown
      | dropping _ _ _ _ => cases hown
      | releasing _ _ _ _ => cases hown
      | unbound _ _ _ _ => cases hown
      | _ => cases hstuck

end Call

namespace System

variable {w₀ w : World} {e : Entry} {c : Call} {calls : List Call} {reaper : Call}

/-- The last call makes its next change. -/
theorem step_last (w : World) (calls : List Call) (c reaper : Call) :
    (⟨w, calls ++ [c], reaper⟩ : System).step (.advance calls.length) =
      ⟨(c.advance w).1, calls ++ [(c.advance w).2], reaper⟩ := by
  have hc : (⟨w, calls ++ [c], reaper⟩ : System).calls[calls.length]? = some c :=
    List.getElem?_concat_length
  rw [step, withCall_eq_put hc, put]
  simp

/-- Where a start that nobody disturbs stands after so many changes. -/
theorem lone_run (h : Call.Lone w₀ e w c) (hs : w₀.registry.Sound)
    (ha : w₀.registry.Admissible e.key e.tunnels)
    (he : e = w₀.registry.newEntry e.key e.tunnels e.stopHook) (n : Nat) :
    ∃ w' c', (⟨w, calls ++ [c], reaper⟩ : System).run (List.replicate n (.advance calls.length)) =
        ⟨w', calls ++ [c'], reaper⟩ ∧ Call.Lone w₀ e w' c' ∧
      ((∃ answer, c' = .over answer) ∨ c'.changesLeft + n ≤ c.changesLeft) := by
  induction n with
  | zero => exact ⟨w, c, rfl, h, Or.inr (Nat.le_refl _)⟩
  | succ n ih =>
    obtain ⟨w', c', hrun, hlone, hleft⟩ := ih
    refine ⟨_, _, ?_, hlone.advance hs ha he, ?_⟩
    · rw [List.replicate_succ', run_snoc, hrun, step_last]
    · rcases hlone.left with ⟨answer, rfl⟩ | hless
      · exact Or.inl ⟨answer, rfl⟩
      · rcases hleft with ⟨answer, rfl⟩ | hleft
        · exact Or.inl ⟨answer, rfl⟩
        · exact Or.inr (by omega)

end System
end PortForward
