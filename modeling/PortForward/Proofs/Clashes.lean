/-
# The relation of clashing

Two tunnels clash if they want the same local port on hosts that cannot both be listened on. Hosts are
compared as IP addresses where both texts denote one, and else as texts. A wildcard stands for every
address of its family, so clashing is no equivalence; apart from wildcards it is one.

* `Net.sameHost_of_denotes`, `Net.sameHost_of_not_denotes`, `Net.sameHost_mixed` : how two texts are
  compared;
* `Net.sameHost_iff` : apart from wildcards, a host is known by its address or its text;
* `Tunnel.clash_structure` : what kind of relation clashing is.
-/
import PortForward.Proofs.Spellings

namespace PortForward

open Text (lowered trim)

namespace Net

variable {x y z : String} {a b : IpAddress}

theorem sameHost_of_denotes (hx : Denotes x a) (hy : Denotes y b) : sameHost x y = a.overlaps b := by
  rw [sameHost, hostAddress?_eq_some_iff.mpr hx, hostAddress?_eq_some_iff.mpr hy]

theorem hostAddress?_eq_none_iff : hostAddress? x = none ↔ ∀ a, ¬ Denotes x a := by
  simp only [Option.eq_none_iff_forall_ne_some, ne_eq, hostAddress?_eq_some_iff]

/-- A text that denotes no address is compared as a text. -/
theorem sameHost_of_not_denotes (hx : ∀ a, ¬ Denotes x a) :
    sameHost x y = true ↔ lowered (trim x.toList) = lowered (trim y.toList) := by
  rw [sameHost, hostAddress?_eq_none_iff.mpr hx]
  exact Text.sameLetters_iff

/-- It is never the same as one that does: as texts they would denote the same. -/
theorem sameHost_mixed (hx : Denotes x a) (hy : ∀ b, ¬ Denotes y b) : sameHost x y = false := by
  rw [← Bool.not_eq_true, sameHost_comm, sameHost_of_not_denotes hy]
  intro h
  rw [← hostAddress?_eq_none_iff, hostAddress?_congr h, hostAddress?_eq_some_iff.mpr hx] at hy
  cases hy

/-- The address is a wildcard in some spelling. -/
def IsAnyHost (x : String) : Prop := ∃ a, Denotes x a ∧ a.isWildcard = true

/-- What a host is known by: its address, or else the text up to letter case and blanks around it. -/
def identity (x : String) : IpAddress ⊕ List Char :=
  match hostAddress? x with
  | some a => .inl a
  | none => .inr (lowered (trim x.toList))

/-- Hosts other than wildcards are the same if they are known by the same. -/
theorem sameHost_iff (hx : ¬ IsAnyHost x) (hy : ¬ IsAnyHost y) :
    sameHost x y = true ↔ identity x = identity y := by
  have hproper : ∀ {s a}, ¬ IsAnyHost s → hostAddress? s = some a → a.isWildcard = false :=
    fun hs ha => Bool.eq_false_iff.mpr fun hwild => hs ⟨_, hostAddress?_eq_some_iff.mp ha, hwild⟩
  rw [identity, identity]
  cases hxa : hostAddress? x with
  | none =>
    rw [sameHost_of_not_denotes (hostAddress?_eq_none_iff.mp hxa)]
    cases hyb : hostAddress? y with
    | none => simp
    | some b =>
      -- the same text would denote the same address
      refine iff_of_false (fun h => ?_) (by simp)
      rw [hostAddress?_congr h, hyb] at hxa
      cases hxa
  | some a =>
    have ha := hostAddress?_eq_some_iff.mp hxa
    cases hyb : hostAddress? y with
    | none =>
      rw [sameHost_mixed ha (hostAddress?_eq_none_iff.mp hyb)]
      simp
    | some b =>
      rw [sameHost_of_denotes ha (hostAddress?_eq_some_iff.mp hyb), IpAddress.overlaps,
        hproper hx hxa, hproper hy hyb]
      simp

/-- A wildcard is the same host as the addresses of its family. -/
theorem sameHost_wildcard (hx : Denotes x a) (ha : a.isWildcard = true) (hy : Denotes y b) :
    sameHost x y = a.sameFamily b := by
  rw [sameHost_of_denotes hx hy, IpAddress.overlaps, ha, Bool.true_or, Bool.and_true,
    Bool.or_eq_right_iff_imp, beq_iff_eq]
  rintro rfl
  cases a <;> rfl

end Net

namespace Tunnel

/-- The tunnel listens on every address of a family. -/
def OnAnyHost (t : Tunnel) : Prop := Net.IsAnyHost t.address

theorem clashes_iff {t u : Tunnel} :
    t.clashes u = true ↔ t.localPort = u.localPort ∧ Net.sameHost t.address u.address = true := by
  rw [clashes, Bool.and_eq_true, beq_iff_eq]

/-- Clashing is reflexive and symmetric, and does not depend on the container ports. Apart from
wildcards it is an equivalence. Tunnels with different local ports never clash, nor does one on an IP
address with one on another kind of host; and one on a wildcard clashes with the tunnels on IP addresses
of the same family at the same port, and with no other on an IP address. -/
theorem clash_structure :
    (∀ t : Tunnel, t.clashes t = true) ∧
    (∀ t u : Tunnel, t.clashes u = u.clashes t) ∧
    (∀ (t u : Tunnel) (p q : UInt16),
      clashes { t with remotePort := p } { u with remotePort := q } = t.clashes u) ∧
    Equivalence (fun t u : { t : Tunnel // ¬ t.OnAnyHost } => t.1.clashes u.1 = true) ∧
    (∀ t u : Tunnel, t.localPort ≠ u.localPort → t.clashes u = false) ∧
    (∀ (t u : Tunnel) (a : Net.IpAddress), Net.Denotes t.address a →
      (∀ b, ¬ Net.Denotes u.address b) → t.clashes u = false) ∧
    ∀ (t u : Tunnel) (a b : Net.IpAddress), Net.Denotes t.address a → a.isWildcard = true →
      Net.Denotes u.address b →
        (t.clashes u = true ↔ t.localPort = u.localPort ∧ a.sameFamily b = true) := by
  refine ⟨clashes_self, clashes_comm, fun t u p q => rfl, ?_, fun t u => clashes_of_localPort_ne,
    fun t u a ht hu => ?_, fun t u a b ht ha hu => ?_⟩
  · have hclash : ∀ t u : { t : Tunnel // ¬ t.OnAnyHost }, t.1.clashes u.1 = true ↔
        (t.1.localPort, Net.identity t.1.address) = (u.1.localPort, Net.identity u.1.address) :=
      fun t u => by rw [clashes_iff, Net.sameHost_iff t.2 u.2, Prod.mk.injEq]
    simp only [hclash]
    exact ⟨fun _ => rfl, Eq.symm, Eq.trans⟩
  · rw [clashes, Net.sameHost_mixed ht hu, Bool.and_false]
  · rw [clashes_iff, Net.sameHost_wildcard ht ha hu]

/-- With a wildcard between them, two tunnels need not clash that both clash with it; and a text that is
no address clashes with itself in another spelling only. -/
example :
    let onLoopback : Tunnel := ⟨" LocalHost ", 80, 1⟩
    let onAny : Tunnel := ⟨"[0.0.0.0]", 80, 2⟩
    let onOther : Tunnel := ⟨"10.0.0.1", 80, 3⟩
    onLoopback.clashes onAny ∧ onAny.clashes onOther ∧ onLoopback.clashes onOther = false ∧
      clashes ⟨"[::1]", 80, 1⟩ ⟨"0:0:0:0::0001", 80, 2⟩ ∧
      clashes ⟨"[my.host]", 80, 1⟩ ⟨"my.host", 80, 2⟩ = false ∧
      clashes ⟨"My.Host", 80, 1⟩ ⟨"my.host ", 80, 2⟩ := by decide

end Tunnel
end PortForward
