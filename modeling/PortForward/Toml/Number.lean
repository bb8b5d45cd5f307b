/-
# Numbers in TOML

Integers of 64 bits in four bases, and fractions. Digits may be grouped with underscores, one
between two digits.
-/
import PortForward.Toml.Quoted

namespace PortForward.Toml

open Text Reader

/-- Digits of a class, with single underscores between them. -/
def grouped (p : Char → Bool) : Reader (List Char) := do
  let first ← one p
  let others ← many (do let _ ← Reader.optional (char '_'); one p)
  return first :: others

/-- A plus or a minus sign; says whether it is a minus. -/
def sign : Reader Bool := do
  let c ← Reader.optional (one fun c => c == '+' || c == '-')
  return c == some '-'

/-- Decimal digits without a leading zero. -/
def plainDigits : Reader (List Char) :=
  grouped Char.isDigit |>.filter fun ds => ds.head? ≠ some '0' || ds.length = 1

/-- The integer, if it fits into 64 bits. -/
def int64? (n : Int) : Option Int :=
  if -Int.pow 2 63 ≤ n ∧ n < Int.pow 2 63 then some n else none

/-- A decimal integer. -/
def decimalInteger : Reader Int := do
  let negative ← sign
  let ds ← plainDigits
  let n : Int := digitsValue 10 ds
  match int64? (if negative then -n else n) with
  | some n => return n
  | none => failure

/-- An integer in another base, after the sign of the base. -/
def basedInteger (mark : Char) (base : Nat) (p : Char → Bool) : Reader Int := do
  chars ['0', mark]
  let ds ← grouped p
  match int64? (digitsValue base ds) with
  | some n => return n
  | none => failure

/-- An integer in any of the four bases. -/
def integer : Reader Int :=
  basedInteger 'x' 16 isHexDigit <|> basedInteger 'o' 8 (fun c => '0' ≤ c && c ≤ '7') <|>
    basedInteger 'b' 2 (fun c => c == '0' || c == '1') <|> decimalInteger

/-- The power of ten of a fraction. -/
def exponent : Reader Int := do
  let _ ← one fun c => c == 'e' || c == 'E'
  let negative ← sign
  let n : Int := digitsValue 10 (← grouped Char.isDigit)
  return if negative then -n else n

/-- The digits after the point. -/
def places : Reader (List Char) := do
  char '.'
  grouped Char.isDigit

/-- `m · 10^e` is too large for a double: it reaches the midpoint above the largest one. -/
def overflows (m : Nat) (e : Int) : Bool :=
  let digits := (Nat.toDigits 10 m).length
  if m = 0 ∨ (digits : Int) + e < 300 then false
  else if 400 < (digits : Int) + e then true
  else
    let limit := Nat.pow 2 1024 - Nat.pow 2 970
    if 0 ≤ e then limit ≤ m * Nat.pow 10 e.toNat else limit * Nat.pow 10 (-e).toNat ≤ m

/-- A fraction in digits: it has places, an exponent or both. A positive one must not overflow. -/
def decimalFraction : Reader Unit := do
  let negative ← sign
  let ds ← plainDigits
  let after ← Reader.optional places
  let power ← Reader.optional exponent
  if after.isNone && power.isNone then failure
  let digits := ds ++ after.getD []
  let e := power.getD 0 - (after.getD []).length
  if !negative && overflows (digitsValue 10 digits) e then failure

/-- Infinity, or no number at all. -/
def special : Reader Unit := do
  let _ ← sign
  chars "inf".toList <|> chars "nan".toList

/-- A fraction. -/
def fraction : Reader Unit := decimalFraction <|> special

end PortForward.Toml
