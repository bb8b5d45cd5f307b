/-
# Listeners do not get in each other's way

Whatever happens, a listener is opened only where no other one excludes it. So no two listeners of
the machine exclude each other, and a connection finds one listener at most.

* `step_machine` : what an action does to the machine;
* `Reachable.apart` : no listener excludes another one;
* `Machine.Apart.eq_of_accepts` : so only one accepts what arrives at an endpoint.
-/
import PortForward.Proofs.Moves

namespace PortForward

/-- Two addresses that a connection can reach by the same address cannot both be listened on. -/
theorem Net.IpAddress.excludes_of_covers {x y z : Net.IpAddress} (hx : x.covers z = true)
    (hy : y.covers z = true) : x.excludes y = true := by
  simp only [covers, Bool.or_eq_true, Bool.and_eq_true, beq_iff_eq] at hx hy
  rw [excludes, Bool.or_eq_true]
  rcases hx with (rfl | rfl) | ⟨rfl, hfamily⟩
  · -- what covers the first address itself
    right
    simpa only [covers, Bool.or_eq_true, Bool.and_eq_true, beq_iff_eq] using hy
  · left
    simp [covers]
  · rcases hy with (rfl | rfl) | ⟨rfl, -⟩
    · left
      simp [covers, hfamily]
    · right
      simp [covers]
    · left
      simp

namespace Listener

variable {l k : Listener} {x : Net.IpAddress} {port : UInt16}

/-- To exclude each other is mutual. -/
theorem blocks_comm (l k : Listener) :
    l.blocks k.address k.port = k.blocks l.address l.port := by
  rw [Bool.eq_iff_iff]
  simp only [blocks, Bool.and_eq_true, bne_iff_ne, beq_iff_eq, Net.IpAddress.excludes_comm l.address]
  constructor
  · rintro ⟨⟨hne, hport⟩, hexcludes⟩
    exact ⟨⟨hport ▸ hne, hport.symm⟩, hexcludes⟩
  · rintro ⟨⟨hne, hport⟩, hexcludes⟩
    exact ⟨⟨hport ▸ hne, hport.symm⟩, hexcludes⟩

theorem accepts_iff :
    l.accepts x port = true ↔ port ≠ 0 ∧ l.port = port ∧ l.address.covers x = true := by
  simp only [accepts, Bool.and_eq_true, bne_iff_ne, beq_iff_eq, and_assoc]

/-- Listeners that accept the same connection exclude each other. -/
theorem blocks_of_accepts (hl : l.accepts x port = true) (hk : k.accepts x port = true) :
    l.blocks k.address k.port = true := by
  obtain ⟨hne, hlport, hlx⟩ := accepts_iff.mp hl
  obtain ⟨-, hkport, hkx⟩ := accepts_iff.mp hk
  simp [blocks, hlport, hkport, hne, Net.IpAddress.excludes_of_covers hlx hkx]

end Listener

namespace Machine

variable {m m' : Machine}

/-- What may be listened on: an address that the text names, if nothing is in the way and no listener
excludes it. -/
theorem probe_eq_ok {address : String} {port : UInt16} {x : Net.IpAddress}
    (h : m.probe address port = .ok x) :
    ∃ z, m.platform.resolve address = .ok z ∧ m.platform.obstacle? z port = none ∧
      m.inUse z.address port = false ∧
      z.address = x := by
  rw [probe] at h
  split at h
  · cases h
  · rename_i z hz
    split at h
    · cases h
    · rename_i hobstacle
      split at h
      · cases h
      · rename_i hfree
        cases h
        exact ⟨z, hz, hobstacle, eq_false_of_ne_true hfree, rfl⟩

/-- And this is all that it takes. -/
theorem probe_of_free {address : String} {port : UInt16} {z : Net.ScopedAddress}
    (hz : m.platform.resolve address = .ok z) (hobstacle : m.platform.obstacle? z port = none)
    (hfree : m.inUse z.address port = false) : m.probe address port = .ok z.address := by
  rw [probe, hz]
  dsimp only
  rw [hobstacle, hfree]
  rfl

/-- What one change does to the listeners of a machine. -/
inductive Change (m : Machine) : Machine → Prop
  | same : Change m m
  | opened {owner : Owner} {address : String} {port : UInt16} {x : Net.IpAddress}
      (h : m.probe address port = .ok x) :
      Change m { m with listeners := m.listeners ++ [⟨x, port, owner⟩] }
  | closed (p : Listener → Bool) : Change m { m with listeners := m.listeners.filter p }

/-- The machine stays what it is, whoever listens. -/
theorem Change.platform (h : m.Change m') : m'.platform = m.platform := by
  cases h <;> rfl

/-- No listener excludes another one. -/
def Apart (m : Machine) : Prop :=
  m.listeners.Pairwise fun l k => l.blocks k.address k.port = false

theorem Apart.change (h : m.Apart) (hc : m.Change m') : m'.Apart := by
  cases hc with
  | same => exact h
  | @opened owner address port x hprobe =>
    obtain ⟨z, -, -, hfree, rfl⟩ := probe_eq_ok hprobe
    rw [inUse, List.any_eq_false] at hfree
    refine List.pairwise_append.mpr ⟨h, List.pairwise_singleton _ _, ?_⟩
    intro l hl k hk
    rw [List.mem_singleton.mp hk]
    exact Bool.eq_false_iff.mpr (hfree l hl)
  | closed p => exact h.filter p

/-- Where no listener excludes another one, only one accepts what arrives at an endpoint. -/
theorem Apart.eq_of_accepts (h : m.Apart) {l k : Listener} (hl : l ∈ m.listeners)
    (hk : k ∈ m.listeners) {x : Net.IpAddress} {port : UInt16} (hlx : l.accepts x port = true)
    (hkx : k.accepts x port = true) : l = k := by
  by_contra hne
  have hsymm : Std.Symm fun l k : Listener => l.blocks k.address k.port = false :=
    ⟨fun l k hlk => (Listener.blocks_comm k l).trans hlk⟩
  have hfree := h.forall hl hk hne
  rw [Listener.blocks_of_accepts hlx hkx] at hfree
  cases hfree

end Machine

/-- Of all changes of a call, one opens a listener and one closes some. -/
theorem Call.Advances.machine_change {w w' : World} {c d : Call} (h : Advances w c w' d) :
    w.machine.Change w'.machine := by
  cases h with
  | bound hprobe => exact .opened hprobe
  | dropped => exact .closed _
  | hooked => split <;> exact .same
  | ended => split <;> exact .same
  | _ => exact .same

namespace System

variable {s : System}

/-- A report that is taken changes no listener. -/
theorem step_reap_machine (s : System) : (s.step .reap).world.machine = s.world.machine := by
  rw [step]
  split
  · rename_i r reports _ _
    have htakes := Call.takes_ofReport { s.world with reports } r
    show (Call.ofReport { s.world with reports } r).1.machine = s.world.machine
    generalize (Call.ofReport { s.world with reports } r).1 = w,
      (Call.ofReport { s.world with reports } r).2 = c at htakes
    cases htakes <;> rfl
  · rfl

/-- Every action makes one change to the machine. -/
theorem step_machine (s : System) (a : Action) : s.world.machine.Change (s.step a).world.machine := by
  cases a with
  | request r =>
    obtain ⟨w, c, hstep, hbegins⟩ := step_request s r
    rw [hstep]
    cases hbegins <;> exact .same
  | advance i =>
    rw [step]
    rcases withCall_cases s i Call.advance with h | ⟨c, -, h⟩
    · rw [h]
      exact .same
    · rw [h, put_world]
      exact (Call.advances_advance s.world c).machine_change
  | giveUp i =>
    rw [step]
    rcases withCall_cases s i Call.giveUp with h | ⟨c, -, h⟩
    · rw [h]
      exact .same
    · rw [h, put_world]
      cases c <;> exact .same
  | reap =>
    rw [step_reap_machine]
    exact .same
  | advanceReaper => exact (Call.advances_advance s.world s.reaper).machine_change
  | reaperGivesUp =>
    show s.world.machine.Change (s.reaper.giveUp s.world).1.machine
    cases s.reaper <;> exact .same
  | close t =>
    rw [step]
    split
    · exact .closed _
    · exact .same
  | fail t reason =>
    rw [step]
    split
    · exact .closed _
    · exact .same
  | die t =>
    rw [step]
    split
    · exact .closed _
    · exact .same
  | hold address port =>
    show s.world.machine.Change (s.world.machine.hold address port)
    rcases s.world.machine.hold_cases address port with hsame | ⟨x, hprobe, hopened⟩
    · rw [hsame]
      exact .same
    · rw [hopened]
      exact .opened hprobe
  | letGo address port => exact .closed _
  | stall key on => exact .same

/-- No listener excludes another one, in everything that can come about. -/
theorem Reachable.apart (h : s.Reachable) : s.world.machine.Apart := by
  refine h.induction (P := fun s => s.world.machine.Apart) ?_ ?_
  · exact fun limit platform => List.Pairwise.nil
  · exact fun s a hs => hs.change (step_machine s a)

end System
end PortForward
