/-
# IPv4 hosts

The registry compares bind addresses as texts that denote hosts; the machine resolves them. For
addresses in dotted decimal and for `localhost` the two agree: they mean the same address, and two
tunnels clash exactly when the listener of one of them excludes the endpoint of the other.

* `hostAddress?_of_plain`, `Machine.resolve_of_plain` : both mean the same address;
* `overlaps_eq_excludes` : both exclude the same addresses;
* `Tunnel.clashes_eq_blocks` : so clashing is excluding.
-/
import Mathlib.Tactic.Tauto
import PortForward.Machine

namespace PortForward

/-! ## Texts of IPv4 addresses -/

namespace Net

/-- The address in dotted decimal, or that of `localhost`. -/
def plainIPv4? (address : String) : Option IPv4 :=
  if address = "localhost" then some .localhost else IPv4.read? address.toList

/-- Where every item of a list is read, each of them is. -/
theorem exists_of_mapM {α β : Type} {f : α → Option β} {xs : List α} {ys : List β}
    (h : xs.mapM f = some ys) {x : α} (hx : x ∈ xs) : ∃ y, f x = some y := by
  induction xs generalizing ys with
  | nil => cases hx
  | cons z xs ih =>
    rw [List.mapM_cons] at h
    obtain ⟨y, hz, h⟩ := Option.bind_eq_some_iff.mp h
    obtain ⟨zs, hzs, -⟩ := Option.bind_eq_some_iff.mp h
    rcases List.mem_cons.mp hx with rfl | hx
    · exact ⟨y, hz⟩
    · exact ih hzs hx

/-- Dotted decimal holds digits and dots only. -/
theorem IPv4.chars_of_read? {s : List Char} {x : IPv4} (h : IPv4.read? s = some x) {c : Char}
    (hc : c ∈ s) : c.isDigit = true ∨ c = '.' := by
  obtain ⟨octets, hoctets⟩ : ∃ octets, (Text.pieces '.' s).mapM octet? = some octets := by
    rw [IPv4.read?] at h
    cases hoctets : (Text.pieces '.' s).mapM octet? with
    | none => simp [hoctets] at h
    | some octets => exact ⟨octets, rfl⟩
  rw [← Text.pieces_join '.' s] at hc
  rcases Text.mem_joined hc with rfl | ⟨piece, hpiece, hmem⟩
  · exact Or.inr rfl
  · obtain ⟨o, ho⟩ := exists_of_mapM hoctets hpiece
    rw [octet?, Option.ite_none_right_eq_some] at ho
    exact Or.inl (Text.allDigits_iff.mp ho.1.2.2.1 c hmem)

variable {address other : String} {x y : IPv4}

theorem dropWhile_beq_eq_self {b : Char} {s : List Char} (h : b ∉ s) :
    s.dropWhile (· == b) = s := by
  cases s with
  | nil => rfl
  | cons c s =>
    rw [List.mem_cons, not_or] at h
    rw [List.dropWhile_cons_of_neg (by simpa using Ne.symm h.1)]

/-- Brackets around a text without brackets are taken off. -/
theorem unbracketed_append {opening host closing : List Char} (hopening : ∀ c ∈ opening, c = '[')
    (hclosing : ∀ c ∈ closing, c = ']') (hhost : ∀ c ∈ host, c ≠ '[' ∧ c ≠ ']') :
    unbracketed (opening ++ host ++ closing) = host := by
  have hstart : (opening ++ host ++ closing).dropWhile (· == '[') = host ++ closing := by
    rw [List.append_assoc, List.dropWhile_append_of_pos (by simpa using hopening)]
    refine dropWhile_beq_eq_self fun hmem => ?_
    rcases List.mem_append.mp hmem with hmem | hmem
    · exact (hhost _ hmem).1 rfl
    · exact absurd (hclosing _ hmem) (by decide)
  have hend : (closing.reverse ++ host.reverse).dropWhile (· == ']') = host.reverse := by
    rw [List.dropWhile_append_of_pos (by simpa using hclosing)]
    exact dropWhile_beq_eq_self fun hmem => (hhost _ (List.mem_reverse.mp hmem)).2 rfl
  rw [unbracketed, hstart, List.reverse_append, hend, List.reverse_reverse]

/-- A text without brackets is kept whole. -/
theorem unbracketed_eq_self {s : List Char} (h : ∀ c ∈ s, c ≠ '[' ∧ c ≠ ']') : unbracketed s = s := by
  have hnone : ∀ b : Char, ∀ c ∈ ([] : List Char), c = b := by simp
  simpa using unbracketed_append (hnone '[') (hnone ']') h

/-- Dotted decimal is not the name of the loopback address in any letter case. -/
theorem not_localhost_of_read? {s : List Char} (h : IPv4.read? s = some x) :
    Text.sameLetters s localhostName = false := by
  rw [← Bool.not_eq_true, Text.sameLetters_iff]
  intro hname
  have hnone : IPv4.read? (Text.lowered localhostName) = none := by decide
  rw [← IPv4.read?_lowered, hname, hnone] at h
  cases h

/-- The registry takes the address for what it is. -/
theorem hostAddress?_of_plain (h : plainIPv4? address = some x) :
    hostAddress? address = some (.v4 x) := by
  rw [plainIPv4?] at h
  split at h
  · rename_i hname
    cases h
    rw [hname]
    decide
  · have hchars := fun c (hc : c ∈ address.toList) => IPv4.chars_of_read? h hc
    have htrim : Text.trim address.toList = address.toList := by
      refine Text.trim_eq_self_of_forall fun c hc => ?_
      rcases hchars c hc with hdigit | rfl
      · have hbounds := Text.isDigit_iff.mp hdigit
        exact Text.isBlank_eq_false_of_visible (by omega) (by omega)
      · decide
    have hbare : unbracketed address.toList = address.toList := by
      refine unbracketed_eq_self fun c hc => ?_
      rcases hchars c hc with hdigit | rfl
      · constructor <;> rintro rfl <;> cases hdigit
      · decide
    have hnot : ¬ Text.sameLetters address.toList localhostName = true := by
      rw [not_localhost_of_read? h]
      exact Bool.false_ne_true
    rw [hostAddress?, htrim, hbare, if_neg hnot, IpAddress.read?, h]

/-- For IPv4, what the registry takes for the same host is what the machine keeps apart. -/
theorem overlaps_eq_excludes (x y : IPv4) :
    IpAddress.overlaps (.v4 x) (.v4 y) = IpAddress.excludes (.v4 x) (.v4 y) := by
  rw [Bool.eq_iff_iff]
  simp only [IpAddress.overlaps, IpAddress.excludes, IpAddress.covers, IpAddress.sameFamily,
    IpAddress.isWildcard, Bool.or_eq_true, Bool.and_eq_true, beq_iff_eq, IpAddress.v4.injEq,
    reduceCtorEq, or_false, and_true, true_and]
  rw [eq_comm (a := y) (b := x)]
  tauto

end Net

namespace Platform

variable {p : Platform} {address : String} {x : Net.IPv4}

/-- Every machine takes the address for what it is. -/
theorem resolve_of_plain (h : Net.plainIPv4? address = some x) :
    p.resolve address = .ok ⟨.v4 x, 0⟩ := by
  rw [Net.plainIPv4?] at h
  split at h
  · rename_i hname
    cases h
    have hlocalhost : Text.sameLetters address.toList Net.localhostName = true := by
      rw [hname]
      decide
    rw [← p.lookUp_localhost address hlocalhost, resolve, hname]
    rfl
  · rw [resolve, Net.IpAddress.read?, h]
    rfl

/-- The machine takes it for nothing else. -/
theorem eq_of_resolve (h : Net.plainIPv4? address = some x) {y : Net.IpAddress} {zone : Nat}
    (hy : p.resolve address = .ok ⟨y, zone⟩) : y = .v4 x := by
  rw [resolve_of_plain h, Except.ok.injEq, Net.ScopedAddress.mk.injEq] at hy
  exact hy.1.symm

end Platform

/-! ## Tunnels -/

/-- A tunnel clashes with another one exactly if its listener excludes the endpoint of the other. -/
theorem Tunnel.clashes_eq_blocks {t u : Tunnel} {x y : Net.IPv4} {l : Listener}
    (ht : Net.plainIPv4? t.address = some x) (hu : Net.plainIPv4? u.address = some y)
    (hport : u.localPort ≠ 0) (hl : l.address = .v4 x) (hlport : l.port = t.localPort) :
    l.blocks (.v4 y) u.localPort = t.clashes u := by
  rw [Listener.blocks, Tunnel.clashes, Net.sameHost, Net.hostAddress?_of_plain ht,
    Net.hostAddress?_of_plain hu, hl, hlport]
  dsimp only
  rw [Net.overlaps_eq_excludes, bne_iff_ne.mpr hport, Bool.true_and]

end PortForward
