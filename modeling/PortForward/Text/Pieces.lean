/-
# Cutting text at separators

* `pieces_join` : the pieces, put together again with the separator, are the text;
* `cutFirst_eq_some`, `cutLast_eq_some` : a cut at `::` loses nothing but the separator;
* `cutFirst_eq_some_iff`, `cutLast_eq_some_iff` : it is the first one, and the last one;
* `cutFirst_eq_none_iff`, `cutLast_eq_none_iff` : there is none without it;
* `pieces_map`, `cutFirst_map` : what a change of other characters comes to.
-/
import PortForward.Text.Ascii

namespace PortForward.Text

/-! ## One separating character -/

/-- The pieces of a text between the separators; there is always at least one. -/
def pieces (sep : Char) : List Char → List (List Char)
  | [] => [[]]
  | c :: s =>
    if c = sep then [] :: pieces sep s
    else
      match pieces sep s with
      | [] => [[c]]
      | p :: ps => (c :: p) :: ps

/-- Puts pieces together with a separator between them. -/
def joined (sep : Char) : List (List Char) → List Char
  | [] => []
  | [p] => p
  | p :: q :: ps => p ++ sep :: joined sep (q :: ps)

/-- What stands in pieces put together is a separator or stands in a piece. -/
theorem mem_joined {sep c : Char} {ps : List (List Char)} (h : c ∈ joined sep ps) :
    c = sep ∨ ∃ p ∈ ps, c ∈ p := by
  fun_induction joined sep ps with
  | case1 => cases h
  | case2 p => exact Or.inr ⟨p, List.mem_singleton_self p, h⟩
  | case3 p q ps ih =>
    rw [List.mem_append, List.mem_cons] at h
    rcases h with h | rfl | h
    · exact Or.inr ⟨p, List.mem_cons_self, h⟩
    · exact Or.inl rfl
    · refine (ih h).imp_right fun ⟨r, hr, hc⟩ => ⟨r, List.mem_cons_of_mem p hr, hc⟩

/-- What stands before and after the first separator. -/
def cutAt (sep : Char) : List Char → Option (List Char × List Char)
  | [] => none
  | c :: s => if c = sep then some ([], s) else (cutAt sep s).map fun (h, t) => (c :: h, t)

theorem pieces_ne_nil (sep : Char) (s : List Char) : pieces sep s ≠ [] := by
  cases s with
  | nil => simp [pieces]
  | cons c s =>
    rw [pieces]
    split
    · simp
    · split <;> simp

/-- The pieces, put together again with the separator, are the text. -/
theorem pieces_join (sep : Char) (s : List Char) : joined sep (pieces sep s) = s := by
  induction s with
  | nil => rfl
  | cons c s ih =>
    rw [pieces]
    split
    · next h =>
      cases hp : pieces sep s with
      | nil => exact absurd hp (pieces_ne_nil sep s)
      | cons p ps =>
        rw [hp] at ih
        simp [joined, ih, h]
    · cases hp : pieces sep s with
      | nil => exact absurd hp (pieces_ne_nil sep s)
      | cons p ps =>
        rw [hp] at ih
        cases ps with
        | nil => simpa [joined] using ih
        | cons q qs => simpa [joined] using ih

/-- A text without the separator is one piece. -/
theorem pieces_of_not_mem {sep : Char} {s : List Char} (h : sep ∉ s) : pieces sep s = [s] := by
  induction s with
  | nil => rfl
  | cons c s ih =>
    have hc : c ≠ sep := fun e => h (by simp [e])
    have hs : sep ∉ s := fun m => h (by simp [m])
    rw [pieces, if_neg hc, ih hs]

/-- The first piece ends at the first separator. -/
theorem pieces_append_cons {sep : Char} {p : List Char} (s : List Char) (h : sep ∉ p) :
    pieces sep (p ++ sep :: s) = p :: pieces sep s := by
  induction p with
  | nil => simp [pieces]
  | cons c p ih =>
    have hc : c ≠ sep := fun e => h (by simp [e])
    have hp : sep ∉ p := fun m => h (by simp [m])
    rw [List.cons_append, pieces, if_neg hc, ih hp]

/-- Pieces that hold no separator are found again. -/
theorem pieces_joined {sep : Char} {ps : List (List Char)} (hne : ps ≠ [])
    (h : ∀ p ∈ ps, sep ∉ p) : pieces sep (joined sep ps) = ps := by
  induction ps with
  | nil => exact absurd rfl hne
  | cons p ps ih =>
    cases ps with
    | nil => exact pieces_of_not_mem (h p (by simp))
    | cons q qs =>
      rw [joined, pieces_append_cons _ (h p (by simp)), ih (by simp) (fun r hr => h r (by simp [hr]))]

/-- No piece holds the separator. -/
theorem not_mem_of_mem_pieces {sep : Char} {s p : List Char} (h : p ∈ pieces sep s) : sep ∉ p := by
  induction s generalizing p with
  | nil => simp_all [pieces]
  | cons c s ih =>
    rw [pieces] at h
    split at h
    · rcases List.mem_cons.mp h with rfl | h
      · exact List.not_mem_nil
      · exact ih h
    · rename_i hc
      cases hp : pieces sep s with
      | nil => exact absurd hp (pieces_ne_nil sep s)
      | cons q qs =>
        rw [hp] at h ih
        rcases List.mem_cons.mp h with rfl | h
        · intro hsep
          rcases List.mem_cons.mp hsep with rfl | hsep
          · exact hc rfl
          · exact ih List.mem_cons_self hsep
        · exact ih (List.mem_cons_of_mem q h)

/-- A cut loses nothing but the separator, and takes the first one. -/
theorem cutAt_eq_some {sep : Char} {s h t : List Char} :
    cutAt sep s = some (h, t) ↔ s = h ++ sep :: t ∧ sep ∉ h := by
  induction s generalizing h with
  | nil => simp [cutAt]
  | cons c s ih =>
    by_cases hc : c = sep
    · cases h with
      | nil => simp [cutAt, hc]
      | cons d h => simp [cutAt, hc]; exact fun hd _ hd' => absurd hd hd'
    · cases h with
      | nil => simp [cutAt, hc]
      | cons d h =>
        simp only [cutAt, hc, if_false, Option.map_eq_some_iff, Prod.exists, Prod.mk.injEq,
          List.cons.injEq, List.cons_append, List.mem_cons, not_or]
        constructor
        · rintro ⟨a, b, hab, ⟨rfl, rfl⟩, rfl⟩
          exact ⟨⟨rfl, (ih.1 hab).1⟩, fun e => hc e.symm, (ih.1 hab).2⟩
        · rintro ⟨⟨rfl, hs⟩, _, hn⟩
          exact ⟨h, t, ih.2 ⟨hs, hn⟩, ⟨rfl, rfl⟩, rfl⟩

theorem cutAt_eq_none {sep : Char} {s : List Char} : cutAt sep s = none ↔ sep ∉ s := by
  induction s with
  | nil => simp [cutAt]
  | cons c s ih =>
    rw [cutAt]
    split
    · next hc => simp [hc]
    · next hc =>
      simp only [Option.map_eq_none_iff, ih, List.mem_cons, not_or]
      exact ⟨fun h => ⟨fun e => hc e.symm, h⟩, fun h => h.2⟩

/-! ## The separator `::` -/

/-- What stands before and after the first `::`. -/
def cutFirst : List Char → Option (List Char × List Char)
  | [] => none
  | c :: s =>
    if c = ':' ∧ s.head? = some ':' then some ([], s.tail)
    else (cutFirst s).map fun (h, t) => (c :: h, t)

/-- What stands before and after the last `::`. -/
def cutLast : List Char → Option (List Char × List Char)
  | [] => none
  | c :: s =>
    match cutLast s with
    | some (h, t) => some (c :: h, t)
    | none => if c = ':' ∧ s.head? = some ':' then some ([], s.tail) else none

/-- A cut at the first `::` loses nothing but the separator. -/
theorem cutFirst_eq_some {s h t : List Char} (hc : cutFirst s = some (h, t)) :
    s = h ++ ':' :: ':' :: t := by
  induction s generalizing h with
  | nil => simp [cutFirst] at hc
  | cons c s ih =>
    rw [cutFirst] at hc
    split at hc
    · next hs =>
      obtain ⟨rfl, hs⟩ := hs
      cases s with
      | nil => simp at hs
      | cons d s => simp_all
    · simp only [Option.map_eq_some_iff, Prod.exists, Prod.mk.injEq] at hc
      obtain ⟨a, b, hab, rfl, rfl⟩ := hc
      simp [ih hab]

/-- `::` stands at the start of a text or later in it. -/
theorem cut_infix_cons_iff {c : Char} {s : List Char} :
    [':', ':'] <:+: c :: s ↔ (c = ':' ∧ s.head? = some ':') ∨ [':', ':'] <:+: s := by
  rw [List.infix_cons_iff]
  refine or_congr_left ?_
  cases s with
  | nil => simp
  | cons d s =>
    simp only [List.cons_prefix_cons, List.nil_prefix, and_true, List.head?_cons, Option.some.injEq]
    exact and_congr eq_comm eq_comm

/-- It does not stand in a text without colons, nor across the end of one. -/
theorem colons_infix_append_left {s t : List Char} (h : ':' ∉ s) :
    [':', ':'] <:+: s ++ t ↔ [':', ':'] <:+: t := by
  induction s with
  | nil => rfl
  | cons c s ih =>
    rw [List.mem_cons, not_or] at h
    rw [List.cons_append, cut_infix_cons_iff, ih h.2]
    exact or_iff_right fun hc => h.1 hc.1.symm

/-- Nor does it stand across the start of one. -/
theorem colons_infix_append_right {s t : List Char} (h : ':' ∉ t) :
    [':', ':'] <:+: s ++ t ↔ [':', ':'] <:+: s := by
  have hback := @colons_infix_append_left t.reverse s.reverse (by simpa using h)
  have hcut : ∀ u : List Char, [':', ':'] <:+: u.reverse ↔ [':', ':'] <:+: u := fun u =>
    @List.reverse_infix Char [':', ':'] u
  rw [← hcut, List.reverse_append, hback, hcut]

/-- There is nothing to cut in a text without `::`. -/
theorem cutFirst_eq_none_iff {s : List Char} : cutFirst s = none ↔ ¬ [':', ':'] <:+: s := by
  induction s with
  | nil => simp [cutFirst]
  | cons c s ih =>
    rw [cut_infix_cons_iff, not_or, ← ih, cutFirst]
    by_cases hc : c = ':' ∧ s.head? = some ':' <;> simp [hc]

/-- A cut at the first `::` loses nothing but the separator, and leaves no earlier one. -/
theorem cutFirst_eq_some_iff {s h t : List Char} :
    cutFirst s = some (h, t) ↔ s = h ++ ':' :: ':' :: t ∧ ¬ [':', ':'] <:+: h ++ [':'] := by
  constructor
  · intro hcut
    refine ⟨cutFirst_eq_some hcut, ?_⟩
    induction s generalizing h with
    | nil => cases hcut
    | cons c s ih =>
      rw [cutFirst] at hcut
      split at hcut
      · cases hcut
        decide
      · rename_i hc
        simp only [Option.map_eq_some_iff, Prod.exists, Prod.mk.injEq] at hcut
        obtain ⟨h, t, hcut, rfl, rfl⟩ := hcut
        -- the rest of the text and of its head start alike, with a colon if the head is empty
        have hhead : (h ++ [':']).head? = s.head? := by
          rw [cutFirst_eq_some hcut]
          cases h <;> rfl
        rw [List.cons_append, cut_infix_cons_iff, hhead]
        exact not_or.mpr ⟨hc, ih hcut⟩
  · rintro ⟨rfl, hfirst⟩
    induction h with
    | nil => simp [cutFirst]
    | cons c h ih =>
      rw [List.cons_append, cut_infix_cons_iff, not_or] at hfirst
      have hhead : (h ++ ':' :: ':' :: t).head? = (h ++ [':']).head? := by cases h <;> rfl
      rw [List.cons_append, cutFirst, hhead, if_neg hfirst.1, ih hfirst.2]
      rfl

/-- A cut at the last `::` loses nothing but the separator. -/
theorem cutLast_eq_some {s h t : List Char} (hc : cutLast s = some (h, t)) :
    s = h ++ ':' :: ':' :: t := by
  induction s generalizing h with
  | nil => simp [cutLast] at hc
  | cons c s ih =>
    rw [cutLast] at hc
    split at hc
    · next a b hab =>
      simp only [Option.some.injEq, Prod.mk.injEq] at hc
      obtain ⟨rfl, rfl⟩ := hc
      simp [ih hab]
    · split at hc
      · next hs =>
        obtain ⟨rfl, hs⟩ := hs
        cases s with
        | nil => simp at hs
        | cons d s => simp_all
      · simp at hc

/-- There is nothing to cut in a text without `::`. -/
theorem cutLast_eq_none_iff {s : List Char} : cutLast s = none ↔ ¬ [':', ':'] <:+: s := by
  induction s with
  | nil => simp [cutLast]
  | cons c s ih =>
    rw [cut_infix_cons_iff, not_or, ← ih, cutLast]
    cases hs : cutLast s with
    | some p => simp
    | none => by_cases hc : c = ':' ∧ s.head? = some ':' <;> simp [hc]

/-- A cut at the last `::` loses nothing but the separator, and leaves no later one. -/
theorem cutLast_eq_some_iff {s h t : List Char} :
    cutLast s = some (h, t) ↔ s = h ++ ':' :: ':' :: t ∧ ¬ [':', ':'] <:+: ':' :: t := by
  constructor
  · intro hcut
    refine ⟨cutLast_eq_some hcut, ?_⟩
    induction s generalizing h with
    | nil => cases hcut
    | cons c s ih =>
      rw [cutLast] at hcut
      split at hcut
      · rename_i h' t' hs
        rw [Option.some.injEq, Prod.mk.injEq] at hcut
        exact ih (hcut.2 ▸ hs)
      · rename_i hs
        split at hcut
        · rename_i hc
          rw [Option.some.injEq, Prod.mk.injEq] at hcut
          -- the rest of the text after the first colon is the second one with the tail
          obtain ⟨u, rfl⟩ := List.head?_eq_some_iff.mp hc.2
          rw [← cutLast_eq_none_iff, ← hcut.2]
          exact hs
        · cases hcut
  · rintro ⟨rfl, hlast⟩
    rw [← cutLast_eq_none_iff] at hlast
    induction h with
    | nil =>
      rw [List.nil_append, cutLast, hlast]
      simp
    | cons c h ih => simp [cutLast, ih]

/-! ## A change of characters -/

section Map

variable {f : Char → Char} {sep : Char}

/-- A change of characters that leaves the separator alone changes the pieces. -/
theorem pieces_map (hf : ∀ c, f c = sep ↔ c = sep) (s : List Char) :
    pieces sep (s.map f) = (pieces sep s).map (List.map f) := by
  induction s with
  | nil => rfl
  | cons c s ih =>
    rw [List.map_cons, pieces, pieces, ih]
    by_cases hc : c = sep
    · rw [if_pos hc, if_pos ((hf c).mpr hc)]
      rfl
    · rw [if_neg hc, if_neg fun h => hc ((hf c).mp h)]
      cases pieces sep s <;> rfl

/-- A change of characters that leaves colons alone changes what stands before and after `::`. -/
theorem cutFirst_map (hf : ∀ c, f c = ':' ↔ c = ':') (s : List Char) :
    cutFirst (s.map f) = (cutFirst s).map (Prod.map (List.map f) (List.map f)) := by
  induction s with
  | nil => rfl
  | cons c s ih =>
    have hcolons : (f c = ':' ∧ (s.map f).head? = some ':') ↔ (c = ':' ∧ s.head? = some ':') := by
      rw [hf, List.head?_map]
      cases s with
      | nil => rfl
      | cons d s => simp [hf]
    rw [List.map_cons, cutFirst, cutFirst, ih]
    by_cases h : c = ':' ∧ s.head? = some ':'
    · rw [if_pos h, if_pos (hcolons.mpr h), ← List.map_tail]
      rfl
    · rw [if_neg h, if_neg fun h' => h (hcolons.mp h'), Option.map_map, Option.map_map]
      rfl

/-- Letter case makes no difference to a cut, unless it is at a letter. -/
theorem pieces_lowered (hsep : sep.isAlpha = false) (s : List Char) :
    pieces sep (lowered s) = (pieces sep s).map lowered :=
  pieces_map (fun _ => toLower_eq_iff hsep) s

theorem cutFirst_lowered (s : List Char) :
    cutFirst (lowered s) = (cutFirst s).map (Prod.map lowered lowered) :=
  cutFirst_map (fun _ => toLower_eq_iff (by decide)) s

end Map

end PortForward.Text
