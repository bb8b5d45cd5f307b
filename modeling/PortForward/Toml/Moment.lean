/-
# Dates and times in TOML

A date, a time of day, or both, and then perhaps the distance from universal time. The parts are in
their ranges: there is no 30th of February, but a minute may have a leap second.
-/
import PortForward.Calendar
import PortForward.Toml.Number

namespace PortForward.Toml

open Text Reader Calendar

/-- A day of the calendar. -/
def date : Reader Unit := do
  let year ← fixed 4 0 9999
  char '-'
  let month ← fixed 2 1 12
  char '-'
  let _ ← fixed 2 1 (daysIn year month)

/-- Hours and minutes. -/
def hourMinute : Reader Unit := do
  let _ ← fixed 2 0 23
  char ':'
  let _ ← fixed 2 0 59

/-- A time of day. -/
def time : Reader Unit := do
  hourMinute
  char ':'
  let _ ← fixed 2 0 60
  let _ ← Reader.optional do
    char '.'
    let _ ← span1 Char.isDigit

/-- The distance from universal time. -/
def offset : Reader Unit :=
  (do let _ ← one fun c => c == 'Z' || c == 'z') <|> do
    let _ ← one fun c => c == '+' || c == '-'
    hourMinute

/-- A date, a time of day, or both. -/
def moment : Reader Unit :=
  (do
    date
    let _ ← Reader.optional do
      let _ ← one fun c => c == 'T' || c == 't' || c == ' '
      time
      Reader.optional offset) <|>
  time

end PortForward.Toml
