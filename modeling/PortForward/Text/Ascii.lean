/-
# Letter case of ASCII letters

Host names and protocol names are compared without regard to the case of ASCII letters; every other
character counts as it is, so the Kelvin sign is not a `k`.

* `toLower_eq_iff` : a character that is no letter has no other case.
-/

namespace PortForward.Text

/-- `s` with its ASCII capitals made small. -/
def lowered (s : List Char) : List Char := s.map Char.toLower

/-- Equality up to the case of ASCII letters. -/
def sameLetters (s t : List Char) : Bool := lowered s == lowered t

@[simp] theorem lowered_eq_nil_iff {s : List Char} : lowered s = [] ↔ s = [] :=
  List.map_eq_nil_iff

@[simp] theorem length_lowered (s : List Char) : (lowered s).length = s.length := List.length_map _

@[simp] theorem sameLetters_iff {s t : List Char} :
    sameLetters s t = true ↔ lowered s = lowered t := by simp [sameLetters]

/-- The small letters of ASCII stand in a row. -/
theorem isLower_iff {c : Char} : c.isLower = true ↔ 97 ≤ c.toNat ∧ c.toNat ≤ 122 := by
  show (decide (97 ≤ c.val) && decide (c.val ≤ 122)) = true ↔ _
  simp [UInt32.le_iff_toNat_le, ← Char.toNat_val]

/-- So do the capitals. -/
theorem isUpper_iff {c : Char} : c.isUpper = true ↔ 65 ≤ c.toNat ∧ c.toNat ≤ 90 := by
  show decide (65 ≤ c.val ∧ c.val ≤ 90) = true ↔ _
  simp [UInt32.le_iff_toNat_le, ← Char.toNat_val]

/-- And so do the digits. -/
theorem isDigit_iff {c : Char} : c.isDigit = true ↔ 48 ≤ c.toNat ∧ c.toNat ≤ 57 := by
  simp [Char.isDigit, UInt32.le_iff_toNat_le, ← Char.toNat_val]

/-- A capital stands 32 places before its small letter, and any other character stays as it is. -/
theorem toNat_toLower (c : Char) :
    c.toLower.toNat = if 65 ≤ c.toNat ∧ c.toNat ≤ 90 then c.toNat + 32 else c.toNat := by
  have hcapital : c.val ≥ 'A'.val ∧ c.val ≤ 'Z'.val ↔ 65 ≤ c.toNat ∧ c.toNat ≤ 90 := by
    simp [UInt32.le_iff_toNat_le, ← Char.toNat_val]
  by_cases h : 65 ≤ c.toNat ∧ c.toNat ≤ 90
  · have hlower : c.toLower.toNat = (c.val + ('a'.val - 'A'.val)).toNat :=
      congrArg Char.toNat (dif_pos (hcapital.mpr h))
    rw [if_pos h, hlower, UInt32.toNat_add]
    show (c.toNat + 32) % 2 ^ 32 = c.toNat + 32
    omega
  · have hkeep : c.toLower = c := dif_neg fun hc => h (hcapital.mp hc)
    rw [if_neg h, hkeep]

/-- A character that is no letter has no other case. -/
theorem toLower_eq_iff {c d : Char} (hd : d.isAlpha = false) : c.toLower = d ↔ c = d := by
  have hletter : (d.isUpper || d.isLower) = false := hd
  rw [Bool.or_eq_false_iff, ← Bool.not_eq_true, ← Bool.not_eq_true, isUpper_iff, isLower_iff]
    at hletter
  rw [← Char.toNat_inj, ← Char.toNat_inj, toNat_toLower]
  split <;> omega

/-- A capital is written the same as its small letter, up to case, and nothing else is. -/
theorem toLower_eq_toLower_iff {c d : Char} (hd : d.isUpper = true) :
    c.toLower = d.toLower ↔ c = d ∨ c = d.toLower := by
  rw [isUpper_iff] at hd
  rw [← Char.toNat_inj, ← Char.toNat_inj, ← Char.toNat_inj, toNat_toLower, toNat_toLower,
    if_pos hd]
  split <;> omega

theorem beq_toLower {d : Char} (hd : d.isAlpha = false) :
    (fun c => c == d) ∘ Char.toLower = fun c => c == d := by
  funext c
  rw [Function.comp_apply, Bool.eq_iff_iff, beq_iff_eq, beq_iff_eq, toLower_eq_iff hd]

theorem isDigit_toLower (c : Char) : c.toLower.isDigit = c.isDigit := by
  rw [Bool.eq_iff_iff, isDigit_iff, isDigit_iff, toNat_toLower]
  split <;> omega

theorem sameLetters_comm (s t : List Char) : sameLetters s t = sameLetters t s :=
  Bool.beq_comm

end PortForward.Text
