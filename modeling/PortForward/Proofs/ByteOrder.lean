/-
# The order of bytes

Texts are compared character by character. In UTF-8 this is the same as comparing them byte by byte:
of two characters the later one has the greater byte where their bytes first differ, and neither is
the beginning of the other.

* `Text.bytes` : the bytes of a text;
* `Text.utf8EncodeChar_append_lt` : two characters, whatever follows them;
* `Text.bytes_lt_iff` : two texts;
* `Key.BytesBefore`, `Key.bytesBefore_iff` : two keys, by path first and by container second.
-/
import Mathlib.Tactic.ByContra
import PortForward.Key

namespace PortForward

namespace Text

open String (utf8EncodeChar)

/-- The bytes of a text in UTF-8. -/
def bytes (s : String) : List UInt8 := s.toUTF8.data.toList

/-- They are the bytes of its characters, one after the other. -/
theorem bytes_eq_flatMap (s : String) : bytes s = s.toList.flatMap utf8EncodeChar := by
  have hencode : s.toUTF8 = s.toList.utf8Encode := by
    rw [String.toUTF8_eq_toByteArray, ← String.toByteArray_ofList, String.ofList_toList]
  rw [bytes, hencode, List.utf8Encode, List.toList_data_toByteArray]

/-- Of two numbers with up to four digits to the base 64, the smaller one has the smaller digit where they
first differ. -/
theorem digits_lt_of_lt {m n : Nat} (h : m < n) :
    m / 262144 < n / 262144 ∨ m / 262144 = n / 262144 ∧
      (m / 4096 < n / 4096 ∨ m / 4096 = n / 4096 ∧
        (m / 64 < n / 64 ∨ m / 64 = n / 64 ∧ m % 64 < n % 64)) := by
  omega

/-- Of two characters the earlier one has the smaller bytes, whatever follows. -/
theorem utf8EncodeChar_append_lt {c d : Char} (h : c < d) (x y : List UInt8) :
    utf8EncodeChar c ++ x < utf8EncodeChar d ++ y := by
  have hlt : c.val.toNat < d.val.toNat := h
  have hbound : d.val.toNat < 1114112 := by
    rcases d.valid with hd | ⟨-, hd⟩ <;> omega
  have hdigits := digits_lt_of_lt hlt
  simp only [utf8EncodeChar]
  generalize c.val.toNat = m at hlt hdigits ⊢
  generalize d.val.toNat = n at hlt hbound hdigits ⊢
  -- the numbers of their bytes do not fall, and more bytes begin with a greater one
  repeat' split
  all_goals try omega
  all_goals
    simp only [List.cons_append, List.nil_append, List.cons_lt_cons_iff, UInt8.lt_iff_toNat_lt,
      ← UInt8.toNat_inj, UInt8.toNat_ofNat']
    rcases hdigits with h | ⟨h, h' | ⟨h', h'' | h''⟩⟩
    all_goals omega

theorem flatMap_utf8EncodeChar_lt {s t : List Char} (h : s < t) :
    s.flatMap utf8EncodeChar < t.flatMap utf8EncodeChar := by
  induction h with
  | @nil c t =>
    obtain ⟨b, rest, hbytes⟩ : ∃ b rest, utf8EncodeChar c = b :: rest :=
      List.exists_cons_of_ne_nil String.utf8EncodeChar_ne_nil
    rw [List.flatMap_cons, hbytes]
    exact List.nil_lt_cons _ _
  | cons _ ih => exact List.append_left_lt ih
  | rel hcd => exact utf8EncodeChar_append_lt hcd _ _

/-- The earlier text has the smaller bytes. -/
theorem bytes_lt_of_lt {s t : String} (h : s < t) : bytes s < bytes t := by
  rw [bytes_eq_flatMap, bytes_eq_flatMap]
  exact flatMap_utf8EncodeChar_lt h

/-- Texts are in the order of their bytes. -/
theorem bytes_lt_iff {s t : String} : bytes s < bytes t ↔ s < t := by
  refine ⟨fun h => ?_, bytes_lt_of_lt⟩
  by_contra hst
  -- otherwise the other text comes first, or they are the same
  by_cases hts : t < s
  · exact List.lt_asymm h (bytes_lt_of_lt hts)
  · obtain rfl := String.le_antisymm (String.not_lt.mp hts) (String.not_lt.mp hst)
    exact List.lt_irrefl _ h

end Text

namespace Key

/-- Comes earlier if bytes are compared, those of the paths first and those of the containers
second. -/
def BytesBefore (j k : Key) : Prop :=
  Text.bytes j.path < Text.bytes k.path ∨
    j.path = k.path ∧ Text.bytes j.container < Text.bytes k.container

theorem bytesBefore_iff {j k : Key} : j.BytesBefore k ↔ j.before k = true := by
  simp [BytesBefore, before, Text.bytes_lt_iff]

end Key
end PortForward
