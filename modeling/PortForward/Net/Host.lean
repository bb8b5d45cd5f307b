/-
# The host in a bind address

An address text denotes an IP address when it is written as one, in brackets or not, or is
`localhost` in any letter case; surrounding blanks do not matter. Any other text is a name.

* `IpAddress.read?_lowered` : letter case does not matter in an address either.
-/
import PortForward.Net.IPv6
import PortForward.Text.Ascii
import PortForward.Text.Blank

namespace PortForward.Net

/-- An address of either family. -/
inductive IpAddress where
  | v4 (address : IPv4)
  | v6 (address : IPv6)
deriving DecidableEq, Repr

namespace IpAddress

/-- Reads an address of either family. -/
def read? (s : List Char) : Option IpAddress :=
  match IPv4.read? s with
  | some x => some (.v4 x)
  | none => (IPv6.read? s).map .v6

/-- Letter case makes no difference. -/
theorem read?_lowered (s : List Char) : read? (Text.lowered s) = read? s := by
  rw [read?, read?, IPv4.read?_lowered, IPv6.read?_lowered]

/-- Stands for every local address of its family. -/
def isWildcard : IpAddress → Bool
  | .v4 x => x == IPv4.wildcard
  | .v6 x => x == IPv6.wildcard

/-- Both are of one family. -/
def sameFamily : IpAddress → IpAddress → Bool
  | .v4 _, .v4 _ => true
  | .v6 _, .v6 _ => true
  | _, _ => false

/-- The two cannot both be listened on at one port: they are equal, or one is the wildcard of the
other's family. -/
def overlaps (x y : IpAddress) : Bool :=
  x == y || (x.sameFamily y && (x.isWildcard || y.isWildcard))

theorem sameFamily_comm (x y : IpAddress) : x.sameFamily y = y.sameFamily x := by
  cases x <;> cases y <;> rfl

theorem overlaps_comm (x y : IpAddress) : x.overlaps y = y.overlaps x := by
  rw [overlaps, overlaps, sameFamily_comm, Bool.or_comm x.isWildcard, Bool.beq_comm]

@[simp] theorem overlaps_self (x : IpAddress) : x.overlaps x = true := by simp [overlaps]

/-- The address itself, or the IPv4 address that it is another form of. -/
def canonical : IpAddress → IpAddress
  | .v4 x => .v4 x
  | .v6 x => x.mapped?.elim (.v6 x) .v4

/-- Is of IPv6 and names a group of hosts. -/
def isGroup : IpAddress → Bool
  | .v4 _ => false
  | .v6 x => x.isMulticast

/-- What arrives at `y` arrives at a listener on `x`: the two are equal, or `x` is the wildcard of
IPv6, which stands for the addresses of both families, or `x` is the wildcard of IPv4 and `y` is
of that family. -/
def covers (x y : IpAddress) : Bool :=
  x == y || x == .v6 .wildcard || (x == .v4 .wildcard && x.sameFamily y)

/-- Two listeners on one port exclude each other if one of them covers the other. -/
def excludes (x y : IpAddress) : Bool := x.covers y || y.covers x

theorem excludes_comm (x y : IpAddress) : x.excludes y = y.excludes x := Bool.or_comm _ _

@[simp] theorem covers_self (x : IpAddress) : x.covers x = true := by simp [covers]

/-- The wildcard of IPv4 leaves IPv6 addresses to others, the one of IPv6 leaves nothing. -/
example : excludes (.v4 .wildcard) (.v6 .localhost) = false ∧
    excludes (.v6 .wildcard) (.v4 .localhost) = true := by decide

end IpAddress

/-- The name of the loopback address. -/
def localhostName : List Char := "localhost".toList

/-- It is no address itself. -/
theorem read?_of_localhost {s : List Char} (h : Text.lowered s = localhostName) :
    IpAddress.read? s = none := by
  rw [← IpAddress.read?_lowered, h]
  decide

/-- `s` without opening brackets at its start and closing brackets at its end. -/
def unbracketed (s : List Char) : List Char :=
  ((s.dropWhile (· == '[')).reverse.dropWhile (· == ']')).reverse

/-- The IP address that an address text denotes, if it denotes one. -/
def hostAddress? (address : String) : Option IpAddress :=
  let host := unbracketed (Text.trim address.toList)
  if Text.sameLetters host localhostName then some (.v4 IPv4.localhost) else IpAddress.read? host

/-- Two address texts that cannot both be listened on at one port. Texts that do not both denote an
IP address are compared up to blanks at the ends and letter case. -/
def sameHost (x y : String) : Bool :=
  match hostAddress? x, hostAddress? y with
  | some a, some b => a.overlaps b
  | _, _ => Text.sameLetters (Text.trim x.toList) (Text.trim y.toList)

theorem sameHost_comm (x y : String) : sameHost x y = sameHost y x := by
  rw [sameHost, sameHost]
  cases hostAddress? x with
  | none => cases hostAddress? y <;> exact Text.sameLetters_comm _ _
  | some a =>
    cases hostAddress? y with
    | none => exact Text.sameLetters_comm _ _
    | some b => exact IpAddress.overlaps_comm a b

@[simp] theorem sameHost_self (x : String) : sameHost x x = true := by
  rw [sameHost]
  cases hostAddress? x <;> simp

end PortForward.Net
