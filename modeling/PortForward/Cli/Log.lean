/-
# Log lines

A line has a level, the part of the program that it comes from, a message and named values.
Terminals take some controls as commands, so a line's message shows them in a harmless form.
-/
import PortForward.Text.Quoted

namespace PortForward.Cli

/-- How grave a line is. -/
inductive Severity where
  | error
  | warn
  | info
  | debug
  | trace
deriving DecidableEq, Repr

namespace Severity

/-- The word for a severity. -/
def word : Severity → String
  | .error => "ERROR"
  | .warn => "WARN"
  | .info => "INFO"
  | .debug => "DEBUG"
  | .trace => "TRACE"

/-- The rank of a severity, the gravest first. -/
def rank : Severity → Nat
  | .error => 1
  | .warn => 2
  | .info => 3
  | .debug => 4
  | .trace => 5

end Severity

/-- A named value of a line: shown as it is, as quoted text, or not at all because it differs from
run to run. -/
inductive LogValue where
  | plain (text : String)
  | quoted (text : String)
  | unshown

/-- A log line. -/
structure LogLine where
  severity : Severity
  origin : String
  message : String
  values : List (String × LogValue) := []

namespace LogLine

/-- How a character of a message is shown: controls that terminals obey as escapes. -/
def harmless (c : Char) : List Char :=
  if c ∈ ['\x07', '\x08', '\x0c', '\x1b', '\x7f'] then
    ['\\', 'x'] ++ List.replicate (2 - (Nat.toDigits 16 c.toNat).length) '0' ++
      Nat.toDigits 16 c.toNat
  else if 0x80 ≤ c.toNat ∧ c.toNat < 0xA0 then
    ['\\', 'u', '\x7b'] ++ Nat.toDigits 16 c.toNat ++ ['\x7d']
  else [c]

/-- How a value is shown after the message. -/
def valueText : String × LogValue → String
  | (name, .plain s) => " " ++ name ++ "=" ++ s
  | (name, .quoted s) => " " ++ name ++ "=" ++ Text.quote s
  | (_, .unshown) => ""

/-- How a line is shown. -/
def text (l : LogLine) : String :=
  l.severity.word ++ " " ++ l.origin ++ ": " ++ String.ofList (l.message.toList.flatMap harmless) ++
    String.join (l.values.map valueText)

/-- The names that a filter may ask for: those of the values and that of the message. -/
def names (l : LogLine) : List String := "message" :: l.values.map (·.1)

/-- The escape that begins a terminal's commands is never shown. -/
theorem escape_not_mem_harmless (c : Char) : '\x1b' ∉ harmless c := by
  have hdigits : ∀ n < 0xA0, '\x1b' ∉ Nat.toDigits 16 n := by decide +kernel
  unfold harmless
  split
  · next h =>
    simp only [List.mem_cons, List.not_mem_nil, or_false] at h
    rcases h with rfl | rfl | rfl | rfl | rfl <;> decide
  · split
    · next h => simp [hdigits c.toNat h.2]
    · next h _ =>
      intro hc
      simp only [List.mem_singleton] at hc
      simp [← hc] at h

end LogLine
end PortForward.Cli
