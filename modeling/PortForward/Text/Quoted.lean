/-
# Quoted text in messages

A message shows foreign text between double quotes. Quotes and backslashes are escaped, the usual
controls have their short escapes, and a character without a visible form of its own is written as
`\\u{...}` with its code point in hexadecimal.
-/
import PortForward.Text.Hidden

namespace PortForward.Text

/-- How a character stands between the quotes. -/
def escaped (c : Char) : List Char :=
  if c = '"' then ['\\', '"']
  else if c = '\\' then ['\\', '\\']
  else if c = '\n' then ['\\', 'n']
  else if c = '\r' then ['\\', 'r']
  else if c = '\t' then ['\\', 't']
  else if c = '\x00' then ['\\', '0']
  else if isHidden c then ['\\', 'u', '\x7b'] ++ Nat.toDigits 16 c.toNat ++ ['\x7d']
  else [c]

/-- `s` between double quotes. -/
def quoted (s : List Char) : List Char := '"' :: s.flatMap escaped ++ ['"']

/-- `s` between double quotes. -/
def quote (s : String) : String := String.ofList (quoted s.toList)

/-- An escape never stands for a character as it is. -/
theorem escaped_ne_nil (c : Char) : escaped c ≠ [] := by
  unfold escaped
  repeat' split
  all_goals simp

end PortForward.Text
