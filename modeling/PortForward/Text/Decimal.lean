/-
# Port numbers as text

A port is a 16-bit word. Its written form is plain decimal; the reader also takes leading zeros and
one leading plus sign, and no other character.

* `readPort?_portText` : the written form of a port reads back;
* `readPort?_eq_some_iff`, `readNonzeroPort?_eq_some_iff` : which texts are read, and as which port.
-/
import PortForward.Text.Ascii

namespace PortForward.Text

/-- Holds only ASCII digits. The empty text does. -/
def allDigits (s : List Char) : Bool := s.all Char.isDigit

/-- Reads an optional plus sign and at least one ASCII digit. -/
def readNumber? (s : List Char) : Option Nat :=
  let digits := if s.head? = some '+' then s.tail else s
  if digits = [] || !allDigits digits then none else some (Nat.ofDigitChars 10 digits 0)

/-- Reads a number below 2^16. -/
def readPort? (s : List Char) : Option UInt16 :=
  match readNumber? s with
  | some n => if n < UInt16.size then some (UInt16.ofNat n) else none
  | none => none

/-- Reads a port that is not zero. -/
def readNonzeroPort? (s : List Char) : Option UInt16 := (readPort? s).filter (· ≠ 0)

/-- The decimal digits of a number. -/
def decimal (n : Nat) : List Char := Nat.toDigits 10 n

/-- The decimal digits of a port. -/
def portText (p : UInt16) : List Char := decimal p.toNat

/-! ## Reading back what was written -/

theorem decimal_ne_nil (n : Nat) : decimal n ≠ [] := Nat.toDigits_ne_nil

theorem allDigits_decimal (n : Nat) : allDigits (decimal n) = true := by
  rw [allDigits, List.all_eq_true]
  intro c hc
  exact Nat.isDigit_of_mem_toDigits (by decide) (by decide) hc

theorem head?_decimal_ne_plus (n : Nat) : (decimal n).head? ≠ some '+' := by
  intro h
  have hmem : '+' ∈ decimal n := List.mem_of_head? h
  have hdigit := List.all_eq_true.1 (allDigits_decimal n) '+' hmem
  exact absurd hdigit (by decide)

/-- The digits of a number read back. -/
theorem readNumber?_decimal (n : Nat) : readNumber? (decimal n) = some n := by
  have hvalue : Nat.ofDigitChars 10 (decimal n) 0 = n := Nat.ofDigitChars_ten_toDigits
  simp [readNumber?, head?_decimal_ne_plus, decimal_ne_nil, allDigits_decimal, hvalue]

/-- The written form of a port reads back. -/
theorem readPort?_portText (p : UInt16) : readPort? (portText p) = some p := by
  simp [readPort?, portText, readNumber?_decimal, p.toNat_lt_size]

/-- The written form of a port that is not zero reads back. -/
theorem readNonzeroPort?_portText {p : UInt16} (h : p ≠ 0) :
    readNonzeroPort? (portText p) = some p := by
  simp [readNonzeroPort?, readPort?_portText, h]

/-! ## What is read -/

theorem allDigits_iff {s : List Char} : allDigits s = true ↔ ∀ c ∈ s, c.isDigit = true :=
  List.all_eq_true

theorem allDigits_lowered (s : List Char) : allDigits (lowered s) = allDigits s := by
  rw [allDigits, lowered, List.all_map]
  exact congrArg s.all (funext isDigit_toLower)

/-- Digits have no case. -/
theorem lowered_of_allDigits {s : List Char} (h : allDigits s = true) : lowered s = s := by
  refine (List.map_congr_left fun c hc => ?_).trans (List.map_id' s)
  have hdigit := isDigit_iff.mp (allDigits_iff.mp h c hc)
  rw [← Char.toNat_inj, toNat_toLower, if_neg (by omega)]

/-- A number is written with digits, at least one, after a plus sign or without. -/
theorem readNumber?_eq_some_iff {s : List Char} {n : Nat} :
    readNumber? s = some n ↔ ∃ ds, (s = ds ∨ s = '+' :: ds) ∧ ds ≠ [] ∧
      (∀ c ∈ ds, c.isDigit = true) ∧ Nat.ofDigitChars 10 ds 0 = n := by
  have hread : ∀ ds, (if ds = [] || !allDigits ds then none else some (Nat.ofDigitChars 10 ds 0)) =
      some n ↔ ds ≠ [] ∧ (∀ c ∈ ds, c.isDigit = true) ∧ Nat.ofDigitChars 10 ds 0 = n := by
    intro ds
    rw [← allDigits_iff]
    cases allDigits ds <;> by_cases hds : ds = [] <;> simp [hds]
  rw [readNumber?]
  by_cases hplus : s.head? = some '+'
  · rw [if_pos hplus, hread]
    obtain ⟨ds, rfl⟩ := List.head?_eq_some_iff.mp hplus
    constructor
    · exact fun h => ⟨ds, Or.inr rfl, h⟩
    · rintro ⟨es, rfl | hes, hread⟩
      · -- a plus sign is no digit
        exact absurd (hread.2.1 '+' List.mem_cons_self) (by decide)
      · rw [List.cons.injEq] at hes
        rw [hes.2]
        exact hread
  · rw [if_neg hplus, hread]
    constructor
    · exact fun h => ⟨s, Or.inl rfl, h⟩
    · rintro ⟨es, rfl | rfl, hread⟩
      · exact hread
      · exact absurd rfl hplus

/-- What is read as a port is its number. -/
theorem readPort?_eq_some_iff {s : List Char} {p : UInt16} :
    readPort? s = some p ↔ readNumber? s = some p.toNat := by
  rw [readPort?]
  cases readNumber? s with
  | none => simp
  | some n =>
    simp only [Option.some.injEq]
    constructor
    · intro h
      split at h
      · rename_i hlt
        rw [Option.some.injEq] at h
        rw [← h, UInt16.toNat_ofNat', Nat.mod_eq_of_lt hlt]
      · cases h
    · rintro rfl
      rw [if_pos p.toNat_lt_size, UInt16.ofNat_toNat]

/-- What is read as a port that is not zero is its number. -/
theorem readNonzeroPort?_eq_some_iff {s : List Char} {p : UInt16} :
    readNonzeroPort? s = some p ↔ readNumber? s = some p.toNat ∧ p ≠ 0 := by
  rw [readNonzeroPort?, Option.filter_eq_some_iff, readPort?_eq_some_iff, decide_eq_true_iff]

end PortForward.Text
