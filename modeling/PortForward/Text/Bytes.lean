/-
# Places in a text, in bytes

A place in a text is the number of bytes before it in UTF-8. Not every number of bytes is a place: a
character of several bytes is not cut.

* `between?_append` : between the places where a part begins and ends stands that part.
-/

namespace PortForward.Text

/-- The number of bytes of a text. -/
def byteSize : List Char → Nat
  | [] => 0
  | c :: s => c.utf8Size + byteSize s

/-- What is left of a text after some bytes, if no character is cut. -/
def dropBytes? : Nat → List Char → Option (List Char)
  | 0, s => some s
  | _ + 1, [] => none
  | n + 1, c :: s => if c.utf8Size ≤ n + 1 then dropBytes? (n + 1 - c.utf8Size) s else none

/-- What stands in the first bytes of a text, if no character is cut. -/
def takeBytes? : Nat → List Char → Option (List Char)
  | 0, _ => some []
  | _ + 1, [] => none
  | n + 1, c :: s =>
    if c.utf8Size ≤ n + 1 then (takeBytes? (n + 1 - c.utf8Size) s).map (c :: ·) else none

/-- What stands in a text between two places, if they are places of characters. -/
def between? (s : List Char) (start stop : Nat) : Option (List Char) :=
  (dropBytes? start s).bind (takeBytes? (stop - start))

/-- The characters of a text with their places, the first at a given one. -/
def placed (start : Nat) : List Char → List (Nat × Char)
  | [] => []
  | c :: s => (start, c) :: placed (start + c.utf8Size) s

@[simp] theorem byteSize_nil : byteSize [] = 0 := rfl

@[simp] theorem byteSize_cons (c : Char) (s : List Char) :
    byteSize (c :: s) = c.utf8Size + byteSize s := rfl

/-- The bytes of a text with a first character are not none. -/
theorem exists_byteSize_cons (c : Char) (s : List Char) : ∃ n, byteSize (c :: s) = n + 1 := by
  have hpos : 0 < c.utf8Size := c.utf8Size_pos
  exact ⟨c.utf8Size + byteSize s - 1, by rw [byteSize_cons]; omega⟩

/-- After the bytes of the first part the second part is left. -/
theorem dropBytes?_byteSize (s t : List Char) : dropBytes? (byteSize s) (s ++ t) = some t := by
  induction s with
  | nil => simp [dropBytes?]
  | cons c s ih =>
    obtain ⟨n, hn⟩ := exists_byteSize_cons c s
    have hle : c.utf8Size ≤ n + 1 := by rw [← hn, byteSize_cons]; omega
    rw [hn, List.cons_append, dropBytes?, if_pos hle, ← hn, byteSize_cons, Nat.add_sub_cancel_left, ih]

/-- In the bytes of the first part the first part stands. -/
theorem takeBytes?_byteSize (s t : List Char) : takeBytes? (byteSize s) (s ++ t) = some s := by
  induction s with
  | nil => simp [takeBytes?]
  | cons c s ih =>
    obtain ⟨n, hn⟩ := exists_byteSize_cons c s
    have hle : c.utf8Size ≤ n + 1 := by rw [← hn, byteSize_cons]; omega
    rw [hn, List.cons_append, takeBytes?, if_pos hle, ← hn, byteSize_cons, Nat.add_sub_cancel_left, ih]
    rfl

/-- Between the places where a part begins and ends stands that part. -/
theorem between?_append (s t u : List Char) :
    between? (s ++ (t ++ u)) (byteSize s) (byteSize s + byteSize t) = some t := by
  rw [between?, Nat.add_sub_cancel_left, dropBytes?_byteSize, Option.bind_some, takeBytes?_byteSize]

/-- No part begins or ends within a character. -/
example : between? "é".toList 0 1 = none ∧ between? "aé".toList 1 3 = some ['é'] := by decide

/-- Giving characters their places loses none. -/
theorem map_snd_placed (start : Nat) (s : List Char) : (placed start s).map (·.2) = s := by
  induction s generalizing start with
  | nil => rfl
  | cons c s ih => simp [placed, ih]

end PortForward.Text
