/-
# How a start is decided

Admission looks at the key, at the number of forwarders and at the tunnels of the batch one by one,
in this order. A start is admitted exactly when none of them is in the way. Otherwise it is told the
first of them that is, and for a tunnel who has its endpoint.

* `Registry.Taken`, `Registry.Refusal` : what is in the way of a tunnel, and of a start;
* `Registry.admission_cases` : admission finds what is in the way, if there is something;
* `System.start_decided` : what a start does to the registry, or what it is told.
-/
import PortForward.Bench.Platforms
import PortForward.Proofs.Exclusive

namespace PortForward

namespace Registry

variable {r : Registry} {key owner : Key} {t : Tunnel} {earlier batch : List Tunnel}

/-! ## Tunnels -/

/-- A tunnel clashes with an earlier one of its batch, or with one of a registered forwarder. -/
def Taken (r : Registry) (earlier : List Tunnel) (t : Tunnel) : Prop :=
  (∃ u ∈ earlier, u.clashes t = true) ∨ ∃ e ∈ r.entries, ∃ u ∈ e.tunnels, u.clashes t = true

instance : Decidable (r.Taken earlier t) := inferInstanceAs (Decidable (_ ∨ _))

/-- Who has the endpoint of a tunnel: the starting forwarder itself if an earlier tunnel of its batch
clashes with the tunnel, and otherwise a registered one with a tunnel that does. -/
def Owns (r : Registry) (key : Key) (earlier : List Tunnel) (t : Tunnel) (owner : Key) : Prop :=
  if ∃ u ∈ earlier, u.clashes t = true then owner = key
  else ∃ e ∈ r.entries, e.key = owner ∧ ∃ u ∈ e.tunnels, u.clashes t = true

/-- After these earlier tunnels, no tunnel of a batch is taken. -/
def Free (r : Registry) (earlier batch : List Tunnel) : Prop :=
  ∀ before t after, batch = before ++ t :: after → ¬ r.Taken (earlier ++ before) t

theorem free_nil : r.Free earlier [] := by
  intro before t after h
  simp at h

theorem free_cons :
    r.Free earlier (t :: batch) ↔ ¬ r.Taken earlier t ∧ r.Free (earlier ++ [t]) batch := by
  constructor
  · intro h
    refine ⟨by simpa using h [] t batch rfl, ?_⟩
    intro before u after hbatch
    rw [List.append_assoc]
    exact h (t :: before) u after (by rw [hbatch]; rfl)
  · rintro ⟨ht, h⟩ before u after hbatch
    cases before with
    | nil =>
      obtain ⟨rfl, -⟩ := List.cons.inj hbatch
      simpa using ht
    | cons v before =>
      rw [List.cons_append] at hbatch
      obtain ⟨rfl, hrest⟩ := List.cons.inj hbatch
      have hlater := h before u after hrest
      rwa [List.append_assoc] at hlater

/-- The search ends at the first tunnel that is taken, with one who has its endpoint. -/
theorem clash?_eq_some (h : r.clash? key earlier batch = some (t, owner)) :
    ∃ before after, batch = before ++ t :: after ∧ r.Free earlier before ∧
      r.Taken (earlier ++ before) t ∧ r.Owns key (earlier ++ before) t owner := by
  induction batch generalizing earlier with
  | nil => cases h
  | cons u us ih =>
    rw [clash?] at h
    by_cases hown : earlier.any (·.clashes u) = true
    · rw [if_pos hown, Option.some.injEq, Prod.mk.injEq] at h
      obtain ⟨rfl, rfl⟩ := h
      have hclash : ∃ v ∈ earlier, v.clashes u = true := List.any_eq_true.mp hown
      refine ⟨[], us, rfl, free_nil, ?_, ?_⟩
      · rw [List.append_nil]
        exact Or.inl hclash
      · rw [List.append_nil, Owns, if_pos hclash]
    · rw [if_neg hown] at h
      have hclear : ¬ ∃ v ∈ earlier, v.clashes u = true := fun hclash =>
        hown (List.any_eq_true.mpr hclash)
      cases howner : r.clashOwner? u with
      | some other =>
        rw [howner, Option.some.injEq, Prod.mk.injEq] at h
        obtain ⟨rfl, rfl⟩ := h
        obtain ⟨e, he, hkey, hclash⟩ := clashOwner?_eq_some howner
        refine ⟨[], us, rfl, free_nil, ?_, ?_⟩
        · rw [List.append_nil]
          exact Or.inr ⟨e, he, hclash⟩
        · rw [List.append_nil, Owns, if_neg hclear]
          exact ⟨e, he, hkey, hclash⟩
      | none =>
        rw [howner] at h
        obtain ⟨before, after, rfl, hfree, htaken, howns⟩ := ih h
        rw [List.append_assoc] at htaken howns
        refine ⟨u :: before, after, rfl, free_cons.mpr ⟨?_, hfree⟩, htaken, howns⟩
        rintro (hclash | ⟨e, he, v, hv, hclash⟩)
        · exact hclear hclash
        · rw [clashOwner?_eq_none howner e he v hv] at hclash
          cases hclash

/-- The search finds nothing if no tunnel is taken. -/
theorem clash?_eq_none_iff : r.clash? key earlier batch = none ↔ r.Free earlier batch := by
  constructor
  · intro h before t after hbatch
    obtain ⟨hearlier, hpair, hentries⟩ := clash?_eq_none h
    rw [hbatch] at hearlier hpair hentries
    have ht : t ∈ before ++ t :: after := List.mem_append_right _ List.mem_cons_self
    rintro (⟨u, hu, hclash⟩ | ⟨e, he, u, hu, hclash⟩)
    · rcases List.mem_append.mp hu with hu | hu
      · rw [hearlier u hu t ht] at hclash
        cases hclash
      · have hclear := (List.pairwise_append.mp hpair).2.2 u hu t List.mem_cons_self
        rw [hclear] at hclash
        cases hclash
    · rw [hentries e he u hu t ht] at hclash
      cases hclash
  · intro h
    by_contra hne
    obtain ⟨⟨t, owner⟩, hclash⟩ := Option.ne_none_iff_exists'.mp hne
    obtain ⟨before, after, hbatch, -, htaken, -⟩ := clash?_eq_some hclash
    exact h before t after hbatch htaken

/-! ## Starts -/

/-- No forwarder has the key. -/
def Unused (r : Registry) (key : Key) : Prop := ∀ e ∈ r.entries, e.key ≠ key

/-- The limit, if there is one, allows another forwarder. -/
def HasRoom (r : Registry) : Prop := r.limit = 0 ∨ r.entries.length < r.limit

theorem isForwarded_eq_false_iff : r.isForwarded key = false ↔ r.Unused key := by
  rw [isForwarded, Option.isSome_eq_false_iff, Option.isNone_iff_eq_none, entry?, List.find?_eq_none]
  simp [Unused]

theorem isFull_eq_false_iff : r.isFull = false ↔ r.HasRoom := by
  unfold isFull HasRoom
  rw [Bool.and_eq_false_iff, decide_eq_false_iff_not, decide_eq_false_iff_not]
  omega

/-- What a start is told that is not admitted: that its key is in use; else that there is no room;
else the first tunnel of its batch that is taken, and who has its endpoint. -/
inductive Refusal (r : Registry) (key : Key) (batch : List Tunnel) : Error → Prop
  | keyTaken (h : ¬ r.Unused key) : Refusal r key batch (.keyTaken key)
  | limitReached (hkey : r.Unused key) (h : ¬ r.HasRoom) : Refusal r key batch (.limitReached r.limit)
  | endpointTaken {before after : List Tunnel} {t : Tunnel} {owner : Key} (hkey : r.Unused key)
      (hroom : r.HasRoom) (hbatch : batch = before ++ t :: after) (hfree : r.Free [] before)
      (h : r.Taken before t) (howner : r.Owns key before t owner) :
      Refusal r key batch (.endpointTaken t.address t.localPort owner)

/-- Something is in the way of a start that is refused. -/
theorem Refusal.not_free {cause : Error} (h : r.Refusal key batch cause) :
    ¬ (r.Unused key ∧ r.HasRoom ∧ r.Free [] batch) := by
  rintro ⟨hkey, hroom, hfree⟩
  cases h with
  | keyTaken h => exact h hkey
  | limitReached _ h => exact h hroom
  | endpointTaken _ _ hbatch _ h _ => exact hfree _ _ _ hbatch h

/-- A batch with tunnels is admitted if nothing is in its way, and otherwise told what is. -/
theorem admission_cases (r : Registry) (key : Key) (hne : batch ≠ []) :
    (r.admission key batch = .ok () ∧ r.Unused key ∧ r.HasRoom ∧ r.Free [] batch) ∨
      ∃ cause, r.admission key batch = .error cause ∧ r.Refusal key batch cause := by
  unfold admission
  rw [if_neg hne]
  by_cases hkey : r.Unused key
  · rw [isForwarded_eq_false_iff.mpr hkey, if_neg Bool.false_ne_true]
    by_cases hroom : r.HasRoom
    · rw [isFull_eq_false_iff.mpr hroom, if_neg Bool.false_ne_true]
      cases hclash : r.clash? key [] batch with
      | none => exact Or.inl ⟨rfl, hkey, hroom, clash?_eq_none_iff.mp hclash⟩
      | some found =>
        obtain ⟨before, after, hbatch, hfree, htaken, howner⟩ := clash?_eq_some hclash
        exact Or.inr ⟨_, rfl, .endpointTaken hkey hroom hbatch hfree htaken howner⟩
    · have hfull : r.isFull = true := by
        rwa [← isFull_eq_false_iff, Bool.not_eq_false] at hroom
      rw [if_pos hfull]
      exact Or.inr ⟨_, rfl, .limitReached hkey hroom⟩
  · have hused : r.isForwarded key = true := by
      rwa [← isForwarded_eq_false_iff, Bool.not_eq_false] at hkey
    rw [if_pos hused]
    exact Or.inr ⟨_, rfl, .keyTaken hkey⟩

/-- Exactly what may start is admitted. -/
theorem admission_iff : r.admission key batch = .ok () ↔ r.Admissible key batch := by
  refine ⟨admissible_of_admission, fun h => ?_⟩
  rcases r.admission_cases key h.listenable.ne_nil with ⟨hadm, -⟩ | ⟨cause, -, hrefusal⟩
  · exact hadm
  · refine absurd ⟨h.free, ?_, ?_⟩ hrefusal.not_free
    · have := h.room
      unfold HasRoom
      omega
    · rintro before t after rfl (⟨u, hu, hclash⟩ | ⟨e, he, u, hu, hclash⟩)
      · have hapart := (List.pairwise_append.mp h.listenable.apart).2.2
        rw [hapart u hu t List.mem_cons_self] at hclash
        cases hclash
      · rw [h.clear e he u hu t (List.mem_append_right _ List.mem_cons_self)] at hclash
        cases hclash

end Registry

namespace System

/-- A start of a batch with tunnels is admitted, as a pending forwarder with this batch, exactly if
its key is not registered, the limit allows another forwarder, and none of its tunnels clashes with
an earlier one of the batch or with one of a registered forwarder; then it goes on to bind the whole
batch. Otherwise it changes nothing, and is told the first thing that is in its way. -/
theorem start_decided (limit : Nat) (platform : Platform) (actions : List Action) (key : Key)
    (batch : List Tunnel) (startHook stopHook : Bool) (hne : batch ≠ []) :
    let s := (initial limit platform).run actions
    let r := s.world.registry
    let t := s.step (.request (.start key batch startHook stopHook))
    let entry : Entry := ⟨r.next, key, batch, .pending, [], true, stopHook⟩
    (t.world.registry.entries.Perm (entry :: r.entries) ↔
      (∀ e ∈ r.entries, e.key ≠ key) ∧ (limit = 0 ∨ r.entries.length < limit) ∧
        ∀ before u after, batch = before ++ u :: after → ¬ r.Taken before u) ∧
    (t.world.registry.entries.Perm (entry :: r.entries) →
      t.calls = s.calls ++ [.binding ⟨r.next, key, startHook⟩ [] batch]) ∧
    (¬ t.world.registry.entries.Perm (entry :: r.entries) →
      t.world = s.world ∧
        ∃ cause, t.calls = s.calls ++ [.over (.error cause)] ∧ r.Refusal key batch cause) := by
  intro s r t entry
  have hlimit : r.limit = limit := run_limit (initial limit platform) actions
  have hroom : r.HasRoom ↔ limit = 0 ∨ r.entries.length < limit := by
    rw [Registry.HasRoom, hlimit]
  rcases Registry.admission_cases r key hne with
    ⟨hadm, hkey, hlimited, hfree⟩ | ⟨cause, hadm, hrefusal⟩
  · have ht : t = _ := step_admitted hadm
    have hperm : t.world.registry.entries.Perm (entry :: r.entries) := by
      rw [ht]
      exact Registry.insert_entries_perm r key batch stopHook
    refine ⟨⟨fun _ => ⟨hkey, hroom.mp hlimited, hfree⟩, fun _ => hperm⟩, fun _ => ?_,
      fun hnot => absurd hperm hnot⟩
    rw [ht]
  · have ht : t = _ := step_rejected hadm
    have hsame : t.world = s.world := by rw [ht]
    have hnot : ¬ t.world.registry.entries.Perm (entry :: r.entries) := by
      intro hperm
      have hlength := hperm.length_eq
      rw [hsame, List.length_cons] at hlength
      exact absurd hlength (Nat.ne_of_lt (Nat.lt_succ_self _))
    refine ⟨⟨fun hperm => absurd hperm hnot, ?_⟩, fun hperm => absurd hperm hnot,
      fun _ => ⟨hsame, cause, by rw [ht], hrefusal⟩⟩
    rintro ⟨hkey, hlimited, hfree⟩
    exact absurd ⟨hkey, hroom.mpr hlimited, hfree⟩ hrefusal.not_free

/-- A batch whose second tunnel clashes with its first one and with a registered forwarder is told
that it stands in its own way. -/
theorem own_batch_decided :
    let s := (initial 3 .loopbackOnly).run (crowded.take 1)
    let batch : List Tunnel := [⟨"127.0.0.2", 8080, 80⟩, ⟨"0.0.0.0", 8080, 443⟩]
    let key : Key := ⟨"default/web", "app"⟩
    batch ≠ [] ∧ s.world.registry.Taken [⟨"127.0.0.2", 8080, 80⟩] ⟨"0.0.0.0", 8080, 443⟩ ∧
      ∃ cause, (s.step (.request (.start key batch true true))).calls =
          s.calls ++ [.over (.error cause)] ∧
        s.world.registry.Refusal key batch cause ∧
        cause = .endpointTaken "0.0.0.0" 8080 ⟨"default/web", "app"⟩ := by
  intro s batch key
  have hne : batch ≠ [] := List.cons_ne_nil _ _
  have htaken : s.world.registry.Taken [⟨"127.0.0.2", 8080, 80⟩] ⟨"0.0.0.0", 8080, 443⟩ := by decide
  obtain ⟨hadmitted, -, hrefused⟩ := start_decided 3 .loopbackOnly (crowded.take 1) key batch true true hne
  have hnot := fun hperm => (hadmitted.mp hperm).2.2 [_] _ [] rfl htaken
  obtain ⟨-, cause, hcalls, hrefusal⟩ := hrefused hnot
  refine ⟨hne, htaken, cause, hcalls, hrefusal, ?_⟩
  have hanswer : (s.step (.request (.start key batch true true))).calls =
      s.calls ++ [.over (.error (.endpointTaken "0.0.0.0" 8080 key))] := rfl
  rw [hanswer] at hcalls
  have hcause := List.append_cancel_left hcalls
  rw [List.cons.injEq, Call.over.injEq, Except.error.injEq] at hcause
  exact hcause.1.symm

end System
end PortForward
