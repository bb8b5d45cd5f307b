/-
# Blank characters and trimming

Operators paste text with all kinds of spaces around it, so trimming follows the Unicode property
`White_Space`: 25 code points, among them U+0085, U+00A0 and U+3000, but not the zero-width U+200B.

* `trim_trim` : trimming twice is trimming once;
* `trim_eq_self_iff` : a text is its own trimming exactly when no blank stands at either end;
* `padded_trim`, `Padded.trim_eq` : trimming takes off the blanks around a text, however many.
-/

namespace PortForward.Text

/-- The Unicode property `White_Space`. -/
def isBlank (c : Char) : Bool :=
  let n := c.toNat
  (9 ≤ n && n ≤ 13) || n == 0x20 || n == 0x85 || n == 0xA0 || n == 0x1680 ||
    (0x2000 ≤ n && n ≤ 0x200A) || n == 0x2028 || n == 0x2029 || n == 0x202F || n == 0x205F ||
    n == 0x3000

/-- `s` without the blanks at its start. -/
def trimStart (s : List Char) : List Char := s.dropWhile isBlank

/-- `s` without the blanks at its end. -/
def trimEnd : List Char → List Char
  | [] => []
  | c :: s =>
    match trimEnd s with
    | [] => if isBlank c then [] else [c]
    | d :: t => c :: d :: t

/-- `s` without the blanks at both ends. -/
def trim (s : List Char) : List Char := trimEnd (trimStart s)

/-- `s` without the blanks at both ends. -/
def trimmed (s : String) : String := String.ofList (trim s.toList)

/-! ## Laws of trimming -/

theorem trimStart_cons_of_blank {c : Char} (s : List Char) (h : isBlank c = true) :
    trimStart (c :: s) = trimStart s := by simp [trimStart, h]

theorem trimStart_cons_of_not_blank {c : Char} (s : List Char) (h : isBlank c = false) :
    trimStart (c :: s) = c :: s := by simp [trimStart, h]

/-- What is left starts with no blank. -/
theorem head?_trimStart (s : List Char) : ∀ c, (trimStart s).head? = some c → isBlank c = false := by
  induction s with
  | nil => simp [trimStart]
  | cons d s ih =>
    intro c hc
    cases hd : isBlank d with
    | true => exact ih c (trimStart_cons_of_blank s hd ▸ hc)
    | false =>
      rw [trimStart_cons_of_not_blank s hd] at hc
      simp at hc
      exact hc ▸ hd

/-- A text that starts with no blank is kept whole. -/
theorem trimStart_eq_self {s : List Char} (h : ∀ c, s.head? = some c → isBlank c = false) :
    trimStart s = s := by
  cases s with
  | nil => rfl
  | cons c s => exact trimStart_cons_of_not_blank s (h c rfl)

theorem trimEnd_cons_of_ne_nil {c : Char} {s : List Char} (h : trimEnd s ≠ []) :
    trimEnd (c :: s) = c :: trimEnd s := by
  rw [trimEnd]
  cases hs : trimEnd s with
  | nil => exact absurd hs h
  | cons d t => rfl

theorem trimEnd_cons_of_eq_nil {c : Char} {s : List Char} (h : trimEnd s = []) :
    trimEnd (c :: s) = if isBlank c then [] else [c] := by rw [trimEnd, h]

/-- Trimming the end keeps the first character, or leaves nothing. -/
theorem head?_trimEnd (s : List Char) : ∀ c, (trimEnd s).head? = some c → s.head? = some c := by
  cases s with
  | nil => simp [trimEnd]
  | cons d s =>
    intro c hc
    cases hs : trimEnd s with
    | nil =>
      rw [trimEnd_cons_of_eq_nil hs] at hc
      split at hc
      · simp at hc
      · simpa using hc
    | cons e t =>
      rw [trimEnd_cons_of_ne_nil (by simp [hs])] at hc
      simpa using hc

/-- What is left ends with no blank. -/
theorem getLast?_trimEnd (s : List Char) :
    ∀ c, (trimEnd s).getLast? = some c → isBlank c = false := by
  induction s with
  | nil => simp [trimEnd]
  | cons d s ih =>
    intro c hc
    cases hs : trimEnd s with
    | nil =>
      rw [trimEnd_cons_of_eq_nil hs] at hc
      split at hc
      · simp at hc
      · next hd => simp at hc; simpa [hc] using hd
    | cons e t =>
      rw [trimEnd_cons_of_ne_nil (by simp [hs])] at hc
      apply ih
      rw [hs] at hc ⊢
      simpa using hc

/-- A text that ends with no blank is kept whole. -/
theorem trimEnd_eq_self {s : List Char} (h : ∀ c, s.getLast? = some c → isBlank c = false) :
    trimEnd s = s := by
  induction s with
  | nil => rfl
  | cons c s ih =>
    cases s with
    | nil => simp [trimEnd, h c rfl]
    | cons d s =>
      have hs : trimEnd (d :: s) = d :: s := ih (fun x hx => h x (by simpa using hx))
      rw [trimEnd_cons_of_ne_nil (by simp [hs]), hs]

/-- Trimming twice is trimming once. -/
@[simp] theorem trim_trim (s : List Char) : trim (trim s) = trim s := by
  have hstart : trimStart (trim s) = trim s :=
    trimStart_eq_self fun c hc => head?_trimStart s c (head?_trimEnd _ c hc)
  rw [trim, hstart]
  exact trimEnd_eq_self (getLast?_trimEnd _)

/-- A text is its own trimming exactly when no blank stands at either end. -/
theorem trim_eq_self_iff {s : List Char} :
    trim s = s ↔ (∀ c, s.head? = some c → isBlank c = false) ∧
      (∀ c, s.getLast? = some c → isBlank c = false) := by
  constructor
  · intro h
    rw [← h]
    exact ⟨fun c hc => head?_trimStart s c (head?_trimEnd _ c hc), getLast?_trimEnd _⟩
  · rintro ⟨hstart, hend⟩
    rw [trim, trimStart_eq_self hstart, trimEnd_eq_self hend]

@[simp] theorem trim_nil : trim [] = [] := rfl

/-- A text without blanks is its own trimming. -/
theorem trim_eq_self_of_forall {s : List Char} (h : ∀ c ∈ s, isBlank c = false) : trim s = s :=
  trim_eq_self_iff.mpr
    ⟨fun c hc => h c (List.mem_of_head? hc), fun c hc => h c (List.mem_of_getLast? hc)⟩

/-- Trimming starts with the start. -/
theorem trim_trimStart (s : List Char) : trim (trimStart s) = trim s := by
  rw [trim, trim, trimStart_eq_self (head?_trimStart s)]

/-- Of a text with more behind it that ends with no blank, only the start is trimmed. -/
theorem trim_append {s t : List Char} (hs : trim s ≠ []) (ht : t ≠ [])
    (hend : ∀ c, t.getLast? = some c → isBlank c = false) : trim (s ++ t) = trimStart s ++ t := by
  have hstart : trimStart s ≠ [] := by
    intro hnil
    rw [trim, hnil] at hs
    exact hs rfl
  have happend : trimStart (s ++ t) = trimStart s ++ t := by
    rw [trimStart, List.dropWhile_append, ← trimStart, if_neg (by simpa using hstart)]
  rw [trim, happend]
  refine trimEnd_eq_self fun c hc => hend c ?_
  rw [List.getLast?_append, List.getLast?_eq_some_getLast ht, Option.some_or] at hc
  rw [List.getLast?_eq_some_getLast ht]
  exact hc

/-- The visible characters of ASCII are not blank. -/
theorem isBlank_eq_false_of_visible {c : Char} (hlow : 33 ≤ c.toNat) (hhigh : c.toNat ≤ 126) :
    isBlank c = false := by
  simp only [isBlank, Bool.or_eq_false_iff, Bool.and_eq_false_iff, decide_eq_false_iff_not,
    beq_eq_false_iff_ne]
  omega

/-! ## Blanks around a text -/

/-- Holds blanks only. -/
def AllBlank (s : List Char) : Prop := ∀ c ∈ s, isBlank c = true

instance (s : List Char) : Decidable (AllBlank s) :=
  List.decidableBAll (fun c => isBlank c = true) s

/-- `t` is `s` with blanks around it, or without any. -/
def Padded (s t : List Char) : Prop :=
  ∃ before after, AllBlank before ∧ AllBlank after ∧ t = before ++ s ++ after

theorem AllBlank.not_mem {s : List Char} {c : Char} (h : AllBlank s) (hc : isBlank c = false) :
    c ∉ s := by
  intro hmem
  rw [h c hmem] at hc
  cases hc

theorem trimStart_eq_nil_iff {s : List Char} : trimStart s = [] ↔ AllBlank s := by
  induction s with
  | nil => simp [trimStart, AllBlank]
  | cons c s ih =>
    rw [AllBlank, List.forall_mem_cons, ← AllBlank, ← ih]
    cases hc : isBlank c with
    | true => simp [trimStart_cons_of_blank s hc]
    | false => simp [trimStart_cons_of_not_blank s hc]

/-- Blanks at the end fall off. -/
theorem trimEnd_append_blank {s t : List Char} (h : AllBlank t) : trimEnd (s ++ t) = trimEnd s := by
  induction s with
  | nil =>
    induction t with
    | nil => rfl
    | cons c t ih =>
      have ht : trimEnd t = [] := ih fun d hd => h d (List.mem_cons_of_mem c hd)
      rw [List.nil_append, trimEnd_cons_of_eq_nil ht, if_pos (h c List.mem_cons_self)]
      rfl
  | cons c s ih => rw [List.cons_append, trimEnd, trimEnd, ih]

/-- What falls off at the end is blank. -/
theorem exists_trimEnd (s : List Char) : ∃ after, AllBlank after ∧ s = trimEnd s ++ after := by
  induction s with
  | nil => exact ⟨[], by simp [AllBlank], rfl⟩
  | cons c s ih =>
    obtain ⟨after, hafter, hs⟩ := ih
    cases hnil : trimEnd s with
    | nil =>
      rw [hnil] at hs
      rw [trimEnd_cons_of_eq_nil hnil]
      split
      · rename_i hc
        exact ⟨c :: s, by rw [hs]; simpa [AllBlank, hc] using hafter, rfl⟩
      · exact ⟨after, hafter, by rw [hs]; rfl⟩
    | cons d t =>
      refine ⟨after, hafter, ?_⟩
      rw [trimEnd_cons_of_ne_nil (by rw [hnil]; exact List.cons_ne_nil d t), List.cons_append, ← hs]

/-- A text is its own trimming with blanks around it. -/
theorem padded_trim (s : List Char) : Padded (trim s) s := by
  obtain ⟨after, hafter, hs⟩ := exists_trimEnd (trimStart s)
  have hbefore : AllBlank (s.takeWhile isBlank) := List.all_eq_true.mp List.all_takeWhile
  refine ⟨s.takeWhile isBlank, after, hbefore, hafter, ?_⟩
  rw [List.append_assoc, trim, ← hs, trimStart, List.takeWhile_append_dropWhile]

/-- Blanks around a text make no difference to its trimming. -/
theorem Padded.trim_eq {s t : List Char} (h : Padded s t) : trim t = trim s := by
  obtain ⟨before, after, hbefore, hafter, rfl⟩ := h
  have hstart : trimStart (before ++ s ++ after) = trimStart (s ++ after) := by
    rw [List.append_assoc, trimStart, List.dropWhile_append_of_pos hbefore, trimStart]
  rw [trim, hstart, trimStart, List.dropWhile_append, ← trimStart, ← trimStart, trim]
  split
  · rename_i hnil
    rw [List.isEmpty_iff.mp hnil, trimStart_eq_nil_iff.mpr hafter]
  · exact trimEnd_append_blank hafter

/-- Blanks bring in no character that is not blank. -/
theorem Padded.not_mem {s t : List Char} {c : Char} (h : Padded s t) (hc : isBlank c = false)
    (hs : c ∉ s) : c ∉ t := by
  obtain ⟨before, after, hbefore, hafter, rfl⟩ := h
  simp [hbefore.not_mem hc, hafter.not_mem hc, hs]

theorem Padded.ne_nil {s t : List Char} (h : Padded s t) (hs : s ≠ []) : t ≠ [] := by
  obtain ⟨before, after, -, -, rfl⟩ := h
  simp [hs]

theorem padded_before {before : List Char} (h : AllBlank before) (s : List Char) :
    Padded s (before ++ s) :=
  ⟨before, [], h, by simp [AllBlank], by simp⟩

theorem padded_after {after : List Char} (h : AllBlank after) (s : List Char) :
    Padded s (s ++ after) :=
  ⟨[], after, by simp [AllBlank], h, by simp⟩

/-- Only of blanks nothing is left. -/
theorem trim_eq_nil_iff {s : List Char} : trim s = [] ↔ AllBlank s := by
  constructor
  · intro h c hc
    obtain ⟨before, after, hbefore, hafter, hs⟩ := padded_trim s
    rw [h, List.append_nil] at hs
    rw [hs, List.mem_append] at hc
    exact hc.elim (hbefore c) (hafter c)
  · intro h
    rw [trim, trimStart_eq_nil_iff.mpr h]
    rfl

end PortForward.Text
