/-
# IPv6 addresses

Eight groups of one to four hexadecimal digits. One `::` stands for the groups that are missing, at
least one, and the last two groups may be written as dotted decimal.
-/
import PortForward.Net.IPv4
import PortForward.Text.Hex

namespace PortForward.Net

/-- The eight 16-bit groups of an IPv6 address. -/
structure IPv6 where
  groups : List Nat
deriving DecidableEq, Repr

namespace IPv6

/-- Stands for every local address. -/
def wildcard : IPv6 := ⟨List.replicate 8 0⟩

/-- The loopback address. -/
def localhost : IPv6 := ⟨List.replicate 7 0 ++ [1]⟩

/-- The first 16 bits. -/
def leading (x : IPv6) : Nat := x.groups.headD 0

/-- Names a group of hosts: ff00::/8. -/
def isMulticast (x : IPv6) : Bool := x.leading / 256 == 0xff

/-- Means something on one link only: fe80::/10. -/
def isLinkLocal (x : IPv6) : Bool := x.leading / 64 == 0xfe80 / 64

/-- Names a group of hosts on one machine or on one link. -/
def isNearGroup (x : IPv6) : Bool := x.isMulticast && (x.leading % 16 == 1 || x.leading % 16 == 2)

/-- The IPv4 address that is written as an IPv6 address: ::ffff:0:0/96. -/
def mapped? (x : IPv6) : Option IPv4 :=
  match x.groups with
  | [0, 0, 0, 0, 0, 0xffff, high, low] => some (IPv4.ofNat (65536 * high + low))
  | _ => none

/-- One group: one to four hexadecimal digits. -/
def group? (s : List Char) : Option Nat :=
  if s = [] ∨ 4 < s.length then none
  else (s.mapM Text.hexDigit?).map fun ds => ds.foldl (16 * · + ·) 0

/-- The two groups that a dotted decimal address stands for. -/
def dotted? (s : List Char) : Option (List Nat) :=
  (IPv4.read? s).map fun x =>
    [256 * x.a.toNat + x.b.toNat, 256 * x.c.toNat + x.d.toNat]

/-- The groups of a list of pieces, of which only the last may be dotted decimal. -/
def groupsOf? (dottedEnd : Bool) : List (List Char) → Option (List Nat)
  | [] => some []
  | [s] =>
    match group? s with
    | some g => some [g]
    | none => if dottedEnd then dotted? s else none
  | s :: ss => do
    let g ← group? s
    let gs ← groupsOf? dottedEnd ss
    return g :: gs

/-- The groups of one side of `::`; an empty side has none. -/
def side? (dottedEnd : Bool) (s : List Char) : Option (List Nat) :=
  if s = [] then some [] else groupsOf? dottedEnd (Text.pieces ':' s)

/-- Reads an address with or without `::`. -/
def read? (s : List Char) : Option IPv6 :=
  match Text.cutFirst s with
  | none => do
    let gs ← side? true s
    if gs.length = 8 then some ⟨gs⟩ else none
  | some (h, t) => do
    let hs ← side? false h
    let ts ← side? true t
    if hs.length + ts.length < 8 then
      some ⟨hs ++ List.replicate (8 - hs.length - ts.length) 0 ++ ts⟩
    else none

/-! ### Letter case -/

theorem group?_lowered (s : List Char) : group? (Text.lowered s) = group? s := by
  have hread : (Text.lowered s).mapM Text.hexDigit? = s.mapM Text.hexDigit? := by
    rw [Text.lowered, List.mapM_map]
    exact congrArg s.mapM (funext Text.hexDigit?_toLower)
  simp only [group?, hread, Text.lowered_eq_nil_iff, Text.length_lowered]

theorem dotted?_lowered (s : List Char) : dotted? (Text.lowered s) = dotted? s := by
  rw [dotted?, dotted?, IPv4.read?_lowered]

theorem groupsOf?_lowered (dottedEnd : Bool) (ss : List (List Char)) :
    groupsOf? dottedEnd (ss.map Text.lowered) = groupsOf? dottedEnd ss := by
  induction ss with
  | nil => rfl
  | cons s ss ih =>
    cases ss with
    | nil => simp only [List.map_cons, List.map_nil, groupsOf?, group?_lowered, dotted?_lowered]
    | cons t ss =>
      simp only [List.map_cons] at ih
      simp only [List.map_cons, groupsOf?, group?_lowered, ih]

theorem side?_lowered (dottedEnd : Bool) (s : List Char) :
    side? dottedEnd (Text.lowered s) = side? dottedEnd s := by
  have hcolon : ':'.isAlpha = false := by decide
  simp only [side?, Text.pieces_lowered hcolon, groupsOf?_lowered, Text.lowered_eq_nil_iff]

/-- Hexadecimal digits may be written in either case. -/
theorem read?_lowered (s : List Char) : read? (Text.lowered s) = read? s := by
  rw [read?, read?, Text.cutFirst_lowered]
  cases Text.cutFirst s with
  | none => simp only [Option.map_none, side?_lowered]
  | some p => simp only [Option.map_some, Prod.map_fst, Prod.map_snd, side?_lowered]

/-! ### Examples of addresses -/

/-- Spellings of one address agree, and `::` stands for at least one group. -/
example : read? "::1".toList = read? "0:0:0:0:0:0:0:1".toList ∧
    read? "::ffff:1.2.3.4".toList = some ⟨[0, 0, 0, 0, 0, 0xffff, 0x102, 0x304]⟩ ∧
    read? "1:2:3:4:5:6:7:8::".toList = none ∧ read? "1::2::3".toList = none := by decide

/-- The kinds of addresses. -/
example : (read? "fe80::1".toList).any isLinkLocal ∧ (read? "ff02::1".toList).any isNearGroup ∧
    ((read? "::ffff:127.0.0.1".toList).bind mapped?) = some IPv4.localhost ∧
    ((read? "::127.0.0.1".toList).bind mapped?) = none := by decide

end IPv6
end PortForward.Net
