/-
# Timestamps

A date, a time of day and the distance from universal time, and then perhaps remarks in brackets.
A year has four digits, or a sign and six. Dashes stand between all parts of a date or nowhere,
and colons between all parts of a time or nowhere.

* `Timestamp.read?` : the seconds since the beginning of 1970 in universal time.
-/
import PortForward.Calendar

namespace PortForward.Calendar

open Text Reader

/-- A time of day, or a distance in time. -/
structure Clock where
  hours : Nat
  minutes : Nat := 0
  seconds : Nat := 0
  /-- At least half a second follows. -/
  half : Bool := false

namespace Timestamp

/-- A sign; says whether it is a minus. -/
def isMinus : Reader Bool := do return (← one fun c => c == '+' || c == '-') == '-'

/-- A year. Year zero has no minus sign. -/
def year : Reader Int :=
  (do return (← fixed 4 0 9999)) <|> do
    let negative ← isMinus
    let n ← fixed 6 (if negative then 1 else 0) 9999
    return if negative then -n else n

/-- A date with a mark between its parts; the number of its day. -/
def dateWith (mark : Reader Unit) : Reader Int := do
  let y ← year
  mark
  let month ← fixed 2 1 12
  mark
  let day ← fixed 2 1 (daysIn y month)
  return dayNumber y month day

/-- A date. -/
def date : Reader Int := dateWith (char '-') <|> dateWith (pure ())

/-- A part of a second, of at most nine digits; says whether it is at least half. -/
def fraction : Reader Bool := do
  let _ ← one fun c => c == '.' || c == ','
  let first ← one Char.isDigit
  let _ ← upTo (one Char.isDigit) 8
  return '5' ≤ first

/-- Minutes and seconds after a number of hours, with a mark before each. -/
def minutesWith (mark : Reader Unit) (mostSeconds hours : Nat) : Reader Clock := do
  mark
  let minutes ← fixed 2 0 59
  let rest ← Reader.optional do
    mark
    let seconds ← fixed 2 0 mostSeconds
    return (seconds, (← Reader.optional fraction).getD false)
  let (seconds, half) := rest.getD (0, false)
  return { hours, minutes, seconds, half }

/-- Hours, and perhaps minutes and seconds. -/
def clock (mostHours mostSeconds : Nat) : Reader Clock := do
  let hours ← fixed 2 0 mostHours
  minutesWith (char ':') mostSeconds hours <|> minutesWith (pure ()) mostSeconds hours <|>
    return { hours }

/-- The seconds of a time of day. A leap second counts as the one before it. -/
def time : Reader Int := do
  let c ← clock 23 60
  return 3600 * c.hours + 60 * c.minutes + min c.seconds 59

/-- The greatest distance from universal time, in seconds. -/
def farthest : Nat := 25 * 3600 + 59 * 60 + 59

/-- A distance from universal time with a sign, in seconds, to the nearest second. -/
def shift : Reader Int := do
  let negative ← isMinus
  let c ← clock 25 59
  let n := 3600 * c.hours + 60 * c.minutes + c.seconds + if c.half then 1 else 0
  if farthest < n then failure
  return if negative then -n else n

/-- The distance from universal time. -/
def offset : Reader Int := (do let _ ← one fun c => c == 'Z' || c == 'z'; return 0) <|> shift

/-- A part of the name of a time zone. -/
def zonePart : Reader Unit := do
  let _ ← one fun c => c.isAlpha || c == '.' || c == '_'
  let _ ← span fun c => c.isAlphanum || c == '.' || c == '_' || c == '+' || c == '-'

/-- A time zone in brackets: its name, or its distance from universal time in minutes. -/
def zone : Reader Unit := do
  char '['
  let _ ← Reader.optional (char '!')
  (do
    let _ ← isMinus
    let _ ← fixed 2 0 25
    let _ ← Reader.optional do
      let _ ← Reader.optional (char ':')
      fixed 2 0 59) <|>
    do let _ ← separated1 zonePart (char '/')
  char ']'

/-- A remark in brackets: a key and its values. -/
def remark : Reader Unit := do
  char '['
  let _ ← one fun c => c.isLower || c == '_'
  let _ ← span fun c => c.isLower || c.isDigit || c == '_' || c == '-'
  char '='
  let _ ← separated1 (span1 Char.isAlphanum) (char '-')
  char ']'

/-- A timestamp; its seconds since the beginning of 1970 in universal time. -/
def timestamp : Reader Int := do
  let day ← date
  let _ ← one fun c => c == ' ' || c == 'T' || c == 't'
  let second ← time
  let distance ← offset
  let _ ← Reader.optional zone
  let _ ← many remark
  return 86400 * day + second - distance

/-- The first second that can be given: 25 hours, 59 minutes and 59 seconds after the beginning of
the year -9999. -/
def first : Int := 86400 * dayNumber (-9999) 1 1 + farthest

/-- The last second that can be given: as long before the end of the year 9999. -/
def last : Int := 86400 * dayNumber 10000 1 1 - 1 - farthest

/-- Reads a timestamp; it can be given in whatever zone. -/
def read? (s : List Char) : Option Int :=
  (whole timestamp s).filter fun n => decide (first ≤ n ∧ n ≤ last)

/-- A distance from universal time is wanted, a time of day in full is not. -/
example : read? "1970-01-02T00:00:00Z".toList = some 86400 ∧
    read? "19700101t01,5+00".toList = none ∧ read? "+001970-01-01 00+01".toList = some (-3600) ∧
    read? "1970-01-01T00:00:00".toList = none ∧ read? "2023-02-29T00:00:00Z".toList = none := by
  decide +kernel

/-- The zone of a name does not move a timestamp. -/
example : read? "1970-01-01T00:00Z[!Asia/Tokyo][u-ca=iso]".toList = some 0 ∧
    read? "1970-01-01T00:00Z[!u-ca=iso]".toList = none := by decide +kernel

/-- What is read can be given in whatever zone. -/
theorem mem_of_read? {s : List Char} {n : Int} (h : read? s = some n) : first ≤ n ∧ n ≤ last := by
  simpa using (Option.filter_eq_some_iff.mp h).2

end Timestamp
end PortForward.Calendar
