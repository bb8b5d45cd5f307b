/-
# Numbers with a fraction

A sign, digits with at most one point among them, and an exponent; or a word for a value that no
digits can write. Only whether a text is such a number matters here, not which.
-/
import PortForward.Text.Ascii
import PortForward.Text.Reader

namespace PortForward.Text

open Reader

/-- The letters of a word, in either case. -/
def wordOf (word : String) : Reader Unit := fun s =>
  let n := word.length
  if sameLetters (s.take n) word.toList then some ((), s.drop n) else none

/-- A value that no digits can write. -/
def boundless : Reader Unit := wordOf "infinity" <|> wordOf "inf" <|> wordOf "nan"

/-- Digits on at least one side of a point. -/
def mantissa : Reader Unit := do
  let whole ← span Char.isDigit
  let part ← Reader.optional do
    char '.'
    span Char.isDigit
  if whole = [] && (part.getD []) = [] then failure

/-- The power of ten. -/
def exponent : Reader Unit := do
  let _ ← one fun c => c == 'e' || c == 'E'
  let _ ← Reader.optional (one fun c => c == '+' || c == '-')
  let _ ← span1 Char.isDigit

/-- The text is a number. -/
def isReal (s : List Char) : Bool :=
  (whole (do
    let _ ← Reader.optional (one fun c => c == '+' || c == '-')
    boundless <|> do
      mantissa
      let _ ← Reader.optional exponent) s).isSome

/-- A point needs a digit beside it. -/
example : isReal "+1.5".toList = true ∧ isReal ".5e-3".toList = true ∧ isReal "-Inf".toList = true ∧
    isReal ".".toList = false ∧ isReal "1e".toList = false := by decide

end PortForward.Text
