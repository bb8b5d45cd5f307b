/-
# Spellings of addresses

An IP address has many spellings as a bind address: hexadecimal digits in either case, groups left out,
blanks and brackets around it, or the name of the loopback address. Which address a text denotes does
not depend on letter case, so texts that differ in nothing else denote the same address, or none of them
does.

* `IpAddress.chars_of_read?` : the characters of an address that is read;
* `hostAddress?_eq_some_iff` : the texts that denote an address;
* `hostAddress?_congr` : texts that differ only in letter case denote the same.
-/
import PortForward.Proofs.Hosts

namespace PortForward.Net

open Text (lowered trim)

variable {s : List Char} {c : Char} {x : IpAddress}

/-! ## The characters of an address -/

/-- The characters that addresses are written in. -/
def IsAddressChar (c : Char) : Prop := c = ':' ∨ c = '.' ∨ Text.isHexDigit c = true

instance : DecidablePred IsAddressChar := fun c => by unfold IsAddressChar; infer_instance

theorem isHexDigit_of_isDigit (h : c.isDigit = true) : Text.isHexDigit c = true := by
  rw [Text.isHexDigit, Text.hexDigit?, if_pos h]
  rfl

theorem IPv4.isAddressChar_of_read? {x : IPv4} (h : IPv4.read? s = some x) (hc : c ∈ s) :
    IsAddressChar c := by
  rcases IPv4.chars_of_read? h hc with hdigit | rfl
  · exact Or.inr (Or.inr (isHexDigit_of_isDigit hdigit))
  · decide

namespace IPv6

variable {dottedEnd : Bool} {gs : List Nat}

theorem chars_of_group? {g : Nat} (h : group? s = some g) (hc : c ∈ s) : IsAddressChar c := by
  rw [group?, Option.ite_none_left_eq_some, Option.map_eq_some_iff] at h
  obtain ⟨-, ds, hds, -⟩ := h
  obtain ⟨d, hd⟩ := exists_of_mapM hds hc
  exact Or.inr (Or.inr (by rw [Text.isHexDigit, hd]; rfl))

theorem chars_of_dotted? (h : dotted? s = some gs) (hc : c ∈ s) : IsAddressChar c := by
  rw [dotted?, Option.map_eq_some_iff] at h
  obtain ⟨x, hx, -⟩ := h
  exact IPv4.isAddressChar_of_read? hx hc

theorem chars_of_groupsOf? {ss : List (List Char)} (h : groupsOf? dottedEnd ss = some gs)
    (hs : s ∈ ss) (hc : c ∈ s) : IsAddressChar c := by
  induction ss generalizing gs with
  | nil => cases hs
  | cons t ss ih =>
    cases ss with
    | nil =>
      obtain rfl := List.mem_singleton.mp hs
      rw [groupsOf?] at h
      split at h
      · rename_i g hg
        exact chars_of_group? hg hc
      · split at h
        · exact chars_of_dotted? h hc
        · cases h
    | cons u ss =>
      simp only [groupsOf?] at h
      obtain ⟨g, hg, h⟩ := Option.bind_eq_some_iff.mp h
      obtain ⟨rest, hrest, -⟩ := Option.bind_eq_some_iff.mp h
      rcases List.mem_cons.mp hs with rfl | hs
      · exact chars_of_group? hg hc
      · exact ih hrest hs

theorem chars_of_side? (h : side? dottedEnd s = some gs) (hc : c ∈ s) : IsAddressChar c := by
  rw [side?] at h
  split at h
  · rename_i hnil
    rw [hnil] at hc
    cases hc
  · rw [← Text.pieces_join ':' s] at hc
    rcases Text.mem_joined hc with rfl | ⟨piece, hpiece, hmem⟩
    · exact Or.inl rfl
    · exact chars_of_groupsOf? h hpiece hmem

theorem isAddressChar_of_read? {x : IPv6} (h : read? s = some x) (hc : c ∈ s) :
    IsAddressChar c := by
  rw [read?] at h
  cases hcut : Text.cutFirst s with
  | none =>
    rw [hcut] at h
    obtain ⟨gs, hgs, -⟩ := Option.bind_eq_some_iff.mp h
    exact chars_of_side? hgs hc
  | some p =>
    rw [hcut] at h
    obtain ⟨hs, hhead, h⟩ := Option.bind_eq_some_iff.mp h
    obtain ⟨ts, htail, -⟩ := Option.bind_eq_some_iff.mp h
    rw [Text.cutFirst_eq_some hcut] at hc
    simp only [List.mem_append, List.mem_cons] at hc
    rcases hc with hc | rfl | rfl | hc
    · exact chars_of_side? hhead hc
    · exact Or.inl rfl
    · exact Or.inl rfl
    · exact chars_of_side? htail hc

end IPv6

/-- An address that is read holds hexadecimal digits, colons and dots only. -/
theorem IpAddress.chars_of_read? (h : read? s = some x) (hc : c ∈ s) : IsAddressChar c := by
  rw [read?] at h
  cases hfour : IPv4.read? s with
  | some y => exact IPv4.isAddressChar_of_read? hfour hc
  | none =>
    rw [hfour] at h
    obtain ⟨y, hsix, -⟩ := Option.map_eq_some_iff.mp h
    exact IPv6.isAddressChar_of_read? hsix hc

/-! ## The address that a text denotes -/

/-- Without the blanks and the brackets around it, the text is an IP address in some spelling, or the name
of the loopback address in some letter case. -/
def Denotes (address : String) (x : IpAddress) : Prop :=
  ∃ opening host closing, trim address.toList = opening ++ host ++ closing ∧
    (∀ c ∈ opening, c = '[') ∧ (∀ c ∈ closing, c = ']') ∧
    (IpAddress.read? host = some x ∨ lowered host = localhostName ∧ x = .v4 .localhost)

/-- Only brackets are taken off. -/
theorem exists_unbracketed (s : List Char) : ∃ opening closing,
    s = opening ++ unbracketed s ++ closing ∧ (∀ c ∈ opening, c = '[') ∧ ∀ c ∈ closing, c = ']' := by
  have htaken : ∀ (b : Char) (t : List Char), ∀ c ∈ t.takeWhile (· == b), c = b := fun b t c hc =>
    beq_iff_eq.mp (List.all_eq_true.mp List.all_takeWhile c hc)
  let rest := s.dropWhile (· == '[')
  refine ⟨s.takeWhile (· == '['), (rest.reverse.takeWhile (· == ']')).reverse, ?_, htaken '[' s,
    fun c hc => htaken ']' rest.reverse c (List.mem_reverse.mp hc)⟩
  rw [unbracketed, List.append_assoc, ← List.reverse_append, List.takeWhile_append_dropWhile,
    List.reverse_reverse, List.takeWhile_append_dropWhile]

theorem unbracketed_lowered (s : List Char) : unbracketed (lowered s) = lowered (unbracketed s) := by
  rw [unbracketed, unbracketed, lowered, lowered, List.dropWhile_map, Text.beq_toLower (by decide),
    ← List.map_reverse, List.dropWhile_map, Text.beq_toLower (by decide), List.map_reverse]

/-- The texts that denote an address. -/
theorem hostAddress?_eq_some_iff {address : String} :
    hostAddress? address = some x ↔ Denotes address x := by
  have hname : lowered localhostName = localhostName := by decide
  simp only [hostAddress?, Text.sameLetters_iff, hname]
  constructor
  · intro h
    obtain ⟨opening, closing, htrim, hopening, hclosing⟩ := exists_unbracketed (trim address.toList)
    refine ⟨opening, _, closing, htrim, hopening, hclosing, ?_⟩
    split at h
    · rename_i hlocal
      exact Or.inr ⟨hlocal, (Option.some.inj h).symm⟩
    · exact Or.inl h
  · rintro ⟨opening, host, closing, htrim, hopening, hclosing, hdenoted⟩
    have hhost : ∀ c ∈ host, c ≠ '[' ∧ c ≠ ']' := by
      intro c hc
      rcases hdenoted with hread | ⟨hlocal, -⟩
      · have hchar := IpAddress.chars_of_read? hread hc
        constructor <;> rintro rfl <;> exact absurd hchar (by decide)
      · have hchar : c.toLower ∈ localhostName := hlocal ▸ List.mem_map_of_mem hc
        constructor <;> rintro rfl <;> exact absurd hchar (by decide)
    rw [htrim, unbracketed_append hopening hclosing hhost]
    rcases hdenoted with hread | ⟨hlocal, rfl⟩
    -- what is read as an address is not the name of one
    · rw [if_neg fun hlocal => ?_, hread]
      rw [read?_of_localhost hlocal] at hread
      cases hread
    · rw [if_pos hlocal]

/-- Texts that differ only in letter case and in the blanks around them denote the same. -/
theorem hostAddress?_congr {address other : String}
    (h : lowered (trim address.toList) = lowered (trim other.toList)) :
    hostAddress? address = hostAddress? other := by
  have hhost : ∀ s : String, hostAddress? s =
      if unbracketed (lowered (trim s.toList)) = localhostName then some (.v4 .localhost)
      else IpAddress.read? (unbracketed (lowered (trim s.toList))) := fun s => by
    have hname : lowered localhostName = localhostName := by decide
    rw [unbracketed_lowered, IpAddress.read?_lowered, hostAddress?]
    simp only [Text.sameLetters_iff, hname]
  rw [hhost, hhost, h]

end PortForward.Net
