/-
# How the start of a forwarder goes

A start listens for its tunnels in their order. What it stands before tells which of them it has;
a start that takes its forwarder back was refused the first one that it could not have.

* `Tries` : one try, and its result;
* `opening_run` : what the tries have come to of a call that opens a forwarder.
-/
import PortForward.Proofs.Openings

namespace PortForward.System

variable {s s' : System} {a : Action} {e : Entry} {g : Nat} {limit : Nat} {platform : Platform}
variable {actions : List Action}

/-! ## Trying one tunnel after the other -/

/-- The start of an entry tries to listen for the tunnel at a place of its batch, with this
result. -/
def Tries (e : Entry) (place : Nat) (t : Tunnel) (result : Except IoError World) (s : System)
    (a : Action) : Prop :=
  ∃ i startHook, a = .advance i ∧
    s.calls[i]? = some (.binding ⟨e.generation, e.key, startHook⟩ (e.tunnels.take place)
      (e.tunnels.drop place)) ∧
    e.tunnels[place]? = some t ∧ s.world.listen e.generation t = result

/-- The start of an entry has listened for all tunnels before a place. -/
def BoundTo (happened : (System → Action → Prop) → Prop) (e : Entry) (place : Nat) : Prop :=
  ∀ p < place, ∃ t w, happened (Tries e p t (.ok w))

/-- The start of an entry was refused this tunnel, and none before it. -/
def FirstRefused (happened : (System → Action → Prop) → Prop) (e : Entry) (t : Tunnel)
    (cause : IoError) : Prop :=
  ∃ place, BoundTo happened e place ∧ happened (Tries e place t (.error cause))

theorem BoundTo.append {place : Nat} (h : BoundTo (s.Along actions) e place) (more : List Action) :
    BoundTo (s.Along (actions ++ more)) e place := by
  intro p hp
  obtain ⟨t, w, htries⟩ := h p hp
  exact ⟨t, w, htries.append more⟩

theorem FirstRefused.append {t : Tunnel} {cause : IoError}
    (h : FirstRefused (s.Along actions) e t cause) (more : List Action) :
    FirstRefused (s.Along (actions ++ more)) e t cause := by
  obtain ⟨place, hbound, htries⟩ := h
  exact ⟨place, hbound.append more, htries.append more⟩

/-- What a call that opens a forwarder has come to: it has listened for the first tunnels of the
batch and goes on with the others, or it was refused the first one that it could not have, or it
found that the forwarder had been removed. -/
inductive Stands (happened : (System → Action → Prop) → Prop) (e : Entry) (st : Start) : Call → Prop
  | binding (place : Nat) (hbound : BoundTo happened e place) :
      Stands happened e st (.binding st (e.tunnels.take place) (e.tunnels.drop place))
  | refused {c : Call} {t : Tunnel} {cause : IoError}
      (hback : c.setback? = some (st, .refused t cause)) (h : FirstRefused happened e t cause) :
      Stands happened e st c
  | overtaken {c : Call} (hback : c.setback? = some (st, .overtaken)) : Stands happened e st c

theorem Stands.append {st : Start} {c : Call} (h : Stands (s.Along actions) e st c)
    (more : List Action) : Stands (s.Along (actions ++ more)) e st c := by
  cases h with
  | binding place hbound => exact .binding place (hbound.append more)
  | refused hback h => exact .refused hback (h.append more)
  | overtaken hback => exact .overtaken hback

/-- A start that stands before a tunnel tries that one next, and then stands before the rest. -/
theorem tries_of_binding {i place : Nat} {st : Start} {t : Tunnel} {left : List Tunnel}
    (hi : s.calls[i]? = some (.binding st (e.tunnels.take place) (t :: left)))
    (hg : st.generation = e.generation) (hk : st.key = e.key)
    (hplace : t :: left = e.tunnels.drop place) :
    Tries e place t (s.world.listen e.generation t) s (.advance i) ∧
      e.tunnels.take place ++ [t] = e.tunnels.take (place + 1) ∧
      left = e.tunnels.drop (place + 1) := by
  have hat : e.tunnels[place]? = some t := by
    rw [← List.head?_drop, ← hplace, List.head?_cons]
  refine ⟨⟨i, st.startHook, rfl, ?_, hat, rfl⟩, ?_, ?_⟩
  · rw [hi, ← hplace, ← hg, ← hk]
  · rw [List.take_add_one, hat, Option.toList_some]
  · rw [← List.tail_drop, ← hplace, List.tail_cons]

/-- A start that binds has listened for what it has bound. -/
theorem Stands.bound {happened : (System → Action → Prop) → Prop} {st : Start}
    {bound left : List Tunnel} (h : Stands happened e st (.binding st bound left)) :
    ∃ place, bound = e.tunnels.take place ∧ left = e.tunnels.drop place ∧
      BoundTo happened e place := by
  cases h with
  | binding place hbound => exact ⟨place, rfl, rfl, hbound⟩
  | refused hback _ => cases hback
  | overtaken hback => cases hback

/-- A start that takes its forwarder back was refused the first tunnel that it could not have. -/
theorem Stands.firstRefused {happened : (System → Action → Prop) → Prop} {st : Start} {c : Call}
    (h : Stands happened e st c) {t : Tunnel} {cause : IoError}
    (hc : c.setback? = some (st, .refused t cause)) : FirstRefused happened e t cause := by
  cases h with
  | binding place hbound => cases hc
  | refused hback h =>
    cases hback.symm.trans hc
    exact h
  | overtaken hback => cases hback.symm.trans hc

/-- A call that has been set back goes on as it was set back. -/
theorem Stands.setback {happened : (System → Action → Prop) → Prop} {st : Start} {c d : Call}
    (h : Stands happened e st c) {setback : Setback} (hc : c.setback? = some (st, setback))
    (hd : d.setback? = c.setback?) : Stands happened e st d := by
  cases h with
  | binding place hbound => cases hc
  | refused hback h => exact .refused (hd.trans hback) h
  | overtaken hback => exact .overtaken (hd.trans hback)

/-- A call that opens a forwarder stands where its tries have brought it. -/
theorem opening_run {i : Nat} {c : Call} {st : Start}
    (hc : ((initial limit platform).run actions).calls[i]? = some c) (hst : c.opening? = some st) :
    ∃ e, (initial limit platform).Along actions (Admits e) ∧ st.generation = e.generation ∧
      st.key = e.key ∧ Stands ((initial limit platform).Along actions) e st c := by
  refine run_induction (s := initial limit platform) (motive := fun actions t =>
    ∀ i c st, t.calls[i]? = some c → c.opening? = some st →
      ∃ e, (initial limit platform).Along actions (Admits e) ∧ st.generation = e.generation ∧
        st.key = e.key ∧ Stands ((initial limit platform).Along actions) e st c)
    ?_ ?_ actions i c st hc hst
  · intro i c st hc
    simp [initial] at hc
  · intro actions a ih i d st hd hst
    obtain ⟨w, -, ho⟩ := (move_step _ a).origin (i := i + 1) hd
    generalize hj : i + 1 = j at ho
    cases ho with
    | stays hc =>
      subst hj
      obtain ⟨e, he, hg, hk, hstands⟩ := ih i d st hc hst
      exact ⟨e, he.append [a], hg, hk, hstands.append [a]⟩
    | begins ha hb =>
      cases hb with
      | @admitted key batch startHook stopHook hadm =>
        -- a new start has tried nothing yet
        cases hst
        refine ⟨Registry.newEntry _ key batch stopHook,
          along_snoc.mpr (Or.inr ⟨startHook, ha, hadm, rfl⟩), rfl, rfl, .binding 0 ?_⟩
        intro p hp
        omega
      | _ => cases hst
    | advances ha hc hadv =>
      subst hj
      cases hadv with
      | @bound _ before left t x hprobe =>
        cases hst
        obtain ⟨e, he, hg, hk, hstands⟩ := ih i _ st hc rfl
        obtain ⟨place, rfl, hplace, hbound⟩ := hstands.bound
        obtain ⟨htries, htake, hdrop⟩ := tries_of_binding hc hg hk hplace
        rw [← hg, World.listen_of_probe hprobe] at htries
        refine ⟨e, he.append [a], hg, hk, ?_⟩
        rw [htake, hdrop]
        refine .binding (place + 1) fun p hp => ?_
        -- an earlier try, or the one of this moment
        rcases Nat.lt_succ_iff_lt_or_eq.mp hp with hp | rfl
        · exact hbound.append [a] p hp
        · exact ⟨t, _, along_snoc.mpr (Or.inr (eq_advance ha ▸ htries))⟩
      | @refused _ before left t cause hlisten =>
        cases hst
        obtain ⟨e, he, hg, hk, hstands⟩ := ih i _ st hc rfl
        obtain ⟨place, rfl, hplace, hbound⟩ := hstands.bound
        obtain ⟨htries, -⟩ := tries_of_binding hc hg hk hplace
        rw [← hg, hlisten] at htries
        refine ⟨e, he.append [a], hg, hk, .refused rfl ⟨place, hbound.append [a], ?_⟩⟩
        exact along_snoc.mpr (Or.inr (eq_advance ha ▸ htries))
      | overtaken hnone =>
        cases hst
        obtain ⟨e, he, hg, hk, -⟩ := ih i _ st hc rfl
        exact ⟨e, he.append [a], hg, hk, .overtaken rfl⟩
      | dropped =>
        cases hst
        obtain ⟨e, he, hg, hk, hstands⟩ := ih i _ st hc rfl
        exact ⟨e, he.append [a], hg, hk, (hstands.append [a]).setback rfl rfl⟩
      | released =>
        cases hst
        obtain ⟨e, he, hg, hk, hstands⟩ := ih i _ st hc rfl
        exact ⟨e, he.append [a], hg, hk, (hstands.append [a]).setback rfl rfl⟩
      | _ => cases hst
    | givesUp _ _ => cases hst
    | takes _ _ _ ht => cases ht <;> cases hst

end PortForward.System
