/-
# Threads that start forwarders

Each generation is started by one call, which acts for it alone until the forwarder is announced or
taken back. While that call has tunnels to bind, or takes back what it could not bind, it is opening
the generation; past that, no call ever opens it again.

* `Move.own?` : where threads that start something come from;
* `Reachable.single` : no two threads start one generation, the reaper starts none, who binds
  tunnels has bound the first ones of its forwarder, and who has lost it does not find it again.
-/
import PortForward.Proofs.Exclusive

namespace PortForward

namespace Call

/-- The generation that a call starts. -/
def own? : Call → Option Nat
  | .binding s _ _ => some s.generation
  | .dropping s _ _ => some s.generation
  | .releasing s _ => some s.generation
  | .unbound s _ _ => some s.generation
  | .activated v _ => some v.generation
  | .announcing v => some v.generation
  | _ => none

/-- The start of a call that is not through with its tunnels. -/
def opening? : Call → Option Start
  | .binding s _ _ => some s
  | .dropping s _ _ => some s
  | .releasing s _ => some s
  | .unbound s _ _ => some s
  | _ => none

/-- The start of a call that may hold listeners, and the tunnels that these are for. -/
def bound? : Call → Option (Start × List Tunnel)
  | .binding s bound _ => some (s, bound)
  | .dropping s bound _ => some (s, bound)
  | .releasing s _ => some (s, [])
  | _ => none

/-- The start of a call that goes no further, and why. -/
def setback? : Call → Option (Start × Setback)
  | .dropping s _ setback => some (s, setback)
  | .releasing s setback => some (s, setback)
  | .unbound s t cause => some (s, .refused t cause)
  | _ => none

variable {w w' : World} {c d : Call} {g : Nat} {st : Start}

/-- A call that may hold listeners is not through with its tunnels. -/
theorem opening?_of_bound? {bound : List Tunnel} (h : c.bound? = some (st, bound)) :
    c.opening? = some st := by
  cases c <;> cases h <;> rfl

theorem opening?_of_setback? {setback : Setback} (h : c.setback? = some (st, setback)) :
    c.opening? = some st := by
  cases c <;> cases h <;> rfl

/-- A call that is not through with its tunnels starts their forwarder. -/
theorem own?_of_opening? (h : c.opening? = some st) : c.own? = some st.generation := by
  cases c <;> cases h <;> rfl

/-- A call goes on for the generation that it started. -/
theorem Advances.own? (h : Advances w c w' d) (hg : d.own? = some g) : c.own? = some g := by
  cases h with
  | committed h =>
    obtain ⟨e, -, -, hgen, rfl, -⟩ := Registry.commit_eq_some h
    rw [← hg, Call.own?, Call.own?, ← hgen]
    rfl
  | bound _ => exact hg
  | refused _ => exact hg
  | overtaken _ => exact hg
  | dropped => exact hg
  | released => exact hg
  | hooked => exact hg
  | _ => cases hg

end Call

namespace System

variable {s s' : System} {a : Action} {g : Nat}

/-! ## Where threads come from -/

/-- A thread that starts a generation did so before, or it is new and so is the generation. -/
theorem Move.own? (h : Move s a s') {i : Nat} {d : Call} (hd : s'.threads[i]? = some d)
    (hg : d.own? = some g) :
    (∃ c, s.threads[i]? = some c ∧ c.own? = some g) ∨
      (i = s.threads.length ∧ g = s.world.registry.next ∧
        s'.world.registry.next = s.world.registry.next + 1) := by
  obtain ⟨w, hw, ho⟩ := h.origin hd
  cases ho with
  | stays hc => exact Or.inl ⟨d, hc, hg⟩
  | begins _ hb =>
    cases hb with
    | admitted _ =>
      simp only [Call.own?, Option.some.injEq] at hg
      exact Or.inr ⟨rfl, hg.symm, by rw [hw]; rfl⟩
    | _ => cases hg
  | advances _ hc hadv => exact Or.inl ⟨_, hc, hadv.own? hg⟩
  | givesUp _ _ => cases hg
  | takes _ _ _ ht => cases ht <;> cases hg

/-- Every generation that a thread starts has been admitted, and no other thread starts it. -/
structure Single (s : System) : Prop where
  reaper : s.reaper.own? = none
  old : ∀ (i : Nat) (c : Call) (g : Nat), s.threads[i]? = some c → c.own? = some g →
    g < s.world.registry.next
  unique : ∀ (i j : Nat) (c d : Call) (g : Nat), s.threads[i]? = some c → s.threads[j]? = some d →
    c.own? = some g → d.own? = some g → i = j
  /-- A start binds the tunnels of its forwarder in their order. -/
  order : ∀ (i : Nat) (st : Start) (bound left : List Tunnel),
    s.threads[i]? = some (.binding st bound left) →
      ∀ e ∈ s.world.registry.entries, e.generation = st.generation →
        e.key = st.key ∧ e.tunnels = bound ++ left
  /-- The forwarder of a start that has lost it to a stop is not registered. -/
  lost : ∀ (i : Nat) (c : Call) (st : Start), s.threads[i]? = some c →
    c.setback? = some (st, .overtaken) → ∀ e ∈ s.world.registry.entries,
      e.generation ≠ st.generation

/-- Nothing is in flight at the start. -/
theorem threads_initial {limit : Nat} {platform : Platform} {i : Nat} {c : Call}
    (hc : (initial limit platform).threads[i]? = some c) : c = .over (.ok .done) := by
  simpa [threads, initial] using List.mem_of_getElem? hc

theorem single_initial (limit : Nat) (platform : Platform) : (initial limit platform).Single := by
  refine ⟨rfl, ?_, ?_, ?_, ?_⟩
  · intro i c g hc hg
    cases threads_initial hc
    cases hg
  · intro i j c d g hc _ hg _
    cases threads_initial hc
    cases hg
  · intro i st bound left hc
    cases threads_initial hc
  · intro i c st hc hlost
    cases threads_initial hc
    cases hlost

/-- An entry of a generation that some thread starts was there before. -/
theorem Single.entry (h : s.Single) (hm : Move s a s') {i : Nat} {c : Call}
    (hc : s.threads[i]? = some c) (hg : c.own? = some g) {e : Entry}
    (he : e ∈ s'.world.registry.entries) (heg : e.generation = g) :
    ∃ d ∈ s.world.registry.entries, d.generation = g ∧ d.key = e.key ∧ d.tunnels = e.tunnels := by
  rcases hm.change.origin he with ⟨d, hd, hdg, hsame⟩ | hnew
  · exact ⟨d, hd, hdg.trans heg, hsame⟩
  · have hold := h.old i c g hc hg
    omega

/-- A move of a start that binds leaves its tunnels in their order. -/
theorem Single.order_move (h : s.Single) (hs : s.world.registry.Sound) (hm : Move s a s') {i : Nat}
    {st : Start} {bound left : List Tunnel} (hd : s'.threads[i]? = some (.binding st bound left))
    {e : Entry} (he : e ∈ s'.world.registry.entries) (hg : e.generation = st.generation) :
    e.key = st.key ∧ e.tunnels = bound ++ left := by
  have hkept : ∀ bound left, s.threads[i]? = some (.binding st bound left) →
      e.key = st.key ∧ e.tunnels = bound ++ left := by
    intro bound left hc
    obtain ⟨d, hd, hdg, hkey, htunnels⟩ := h.entry hm hc rfl he hg
    rw [← hkey, ← htunnels]
    exact h.order i st bound left hc d hd hdg
  obtain ⟨w, hw, ho⟩ := hm.origin hd
  cases ho with
  | stays hc => exact hkept bound left hc
  | begins _ hb =>
    cases hb
    rw [hw] at he
    rcases Registry.mem_insert.mp he with rfl | he
    · exact ⟨rfl, rfl⟩
    · exact absurd hg (Nat.ne_of_lt (hs.old e he))
  | advances _ hc hadv =>
    cases hadv with
    | @bound _ earlier _ t _ _ =>
      obtain ⟨hkey, htunnels⟩ := hkept earlier (t :: left) hc
      exact ⟨hkey, by rw [htunnels, List.append_assoc]; rfl⟩
  | takes _ _ _ ht => cases ht

/-- A forwarder that a start has lost does not come back in a move. -/
theorem Single.lost_move (h : s.Single) (hs : s.world.registry.Sound) (hm : Move s a s') {i : Nat}
    {d : Call} {st : Start} (hd : s'.threads[i]? = some d)
    (hlost : d.setback? = some (st, .overtaken)) {e : Entry}
    (he : e ∈ s'.world.registry.entries) : e.generation ≠ st.generation := by
  intro hg
  have hgone : ∀ c, s.threads[i]? = some c → c.setback? ≠ some (st, .overtaken) := by
    intro c hc hlost
    obtain ⟨x, hx, hxg, -⟩ :=
      h.entry hm hc (Call.own?_of_opening? (Call.opening?_of_setback? hlost)) he hg
    exact h.lost i c st hc hlost x hx hxg
  obtain ⟨w, -, ho⟩ := hm.origin hd
  cases ho with
  | stays hc => exact hgone d hc hlost
  | begins _ hb => cases hb <;> cases hlost
  | advances _ hc hadv =>
    cases hadv with
    | @overtaken _ bound hnone =>
      -- the start has looked for its forwarder and not found it
      cases hlost
      obtain ⟨x, hx, hxg, -⟩ := h.entry hm hc rfl he hg
      obtain ⟨r, hsome⟩ := hs.commit_of_mem hx bound
      rw [(h.order i st bound [] hc x hx hxg).1, hxg, hnone] at hsome
      cases hsome
    | dropped => exact hgone _ hc hlost
    | _ => cases hlost
  | givesUp _ _ => cases hlost
  | takes _ _ _ ht => cases ht <;> cases hlost

/-- A move starts no generation that a thread starts already. -/
theorem Single.move (h : s.Single) (hs : s.world.registry.Sound) (hm : Move s a s') :
    s'.Single := by
  refine ⟨?_, ?_, ?_, ?_, ?_⟩
  · -- a thread that starts something did so before, or is a new call; the reaper is neither
    by_contra hne
    obtain ⟨g, hg⟩ := Option.ne_none_iff_exists'.mp hne
    rcases hm.own? (threads_zero s') hg with ⟨c, hc, hcg⟩ | ⟨hlen, -, -⟩
    · rw [threads_zero, Option.some.injEq] at hc
      rw [← hc, h.reaper] at hcg
      cases hcg
    · simp [threads] at hlen
  · intro i d g hd hg
    rcases hm.own? hd hg with ⟨c, hc, hcg⟩ | ⟨-, hnew, hnext⟩
    · exact Nat.lt_of_lt_of_le (h.old i c g hc hcg) hm.change.next_le
    · omega
  · intro i j c d g hc hd hcg hdg
    -- a new generation belongs to the new thread, as all others are older
    rcases hm.own? hc hcg with ⟨c', hc', hcg'⟩ | ⟨hi, hnew, -⟩
    · rcases hm.own? hd hdg with ⟨d', hd', hdg'⟩ | ⟨-, hnew, -⟩
      · exact h.unique i j c' d' g hc' hd' hcg' hdg'
      · have := h.old i c' g hc' hcg'
        omega
    · rcases hm.own? hd hdg with ⟨d', hd', hdg'⟩ | ⟨hj, -, -⟩
      · have := h.old j d' g hd' hdg'
        omega
      · rw [hi, hj]
  · exact fun i st bound left hd e => h.order_move hs hm hd
  · exact fun i d st hd hlost e => h.lost_move hs hm hd hlost

/-- No two threads of a system that can come about start one generation. -/
theorem Reachable.single (h : s.Reachable) : s.Single :=
  h.invariant single_initial fun s a hr hs => hs.move hr.sound (move_step s a)

end System
end PortForward
