import AgentLedger.Text.Number
/-!
# Points in time

A calendar date in universal time, the minute of that day, and the
nanoseconds within the minute. A minute may have a sixty-first second: a leap
second is kept where it was read. Years reach as far as the calendar of the
service does.
-/

namespace AgentLedger

structure Date where
  year : Int
  month : Nat
  day : Nat
deriving DecidableEq, Repr

namespace Date

def isLeapYear (y : Int) : Bool := y % 4 == 0 && (y % 100 != 0 || y % 400 == 0)

def daysIn (year : Int) (month : Nat) : Nat :=
  if month = 2 then (if isLeapYear year then 29 else 28)
  else if month = 4 ∨ month = 6 ∨ month = 9 ∨ month = 11 then 30
  else 31

def firstYear : Int := -262143
def lastYear : Int := 262142

def Valid (d : Date) : Prop :=
  (firstYear ≤ d.year ∧ d.year ≤ lastYear) ∧ (1 ≤ d.month ∧ d.month ≤ 12) ∧
    (1 ≤ d.day ∧ d.day ≤ daysIn d.year d.month)

instance (d : Date) : Decidable d.Valid := by unfold Valid; infer_instance

def next (d : Date) : Date :=
  if d.day < daysIn d.year d.month then { d with day := d.day + 1 }
  else if d.month < 12 then ⟨d.year, d.month + 1, 1⟩
  else ⟨d.year + 1, 1, 1⟩

def previous (d : Date) : Date :=
  if 1 < d.day then { d with day := d.day - 1 }
  else if 1 < d.month then ⟨d.year, d.month - 1, daysIn d.year (d.month - 1)⟩
  else ⟨d.year - 1, 12, 31⟩

/-- `n` days after `d`. -/
def after (d : Date) : Nat → Date
  | 0 => d
  | n + 1 => d.next.after n

end Date

structure Timestamp where
  date : Date
  minute : Nat
  nanos : Nat
  date_valid : date.Valid
  minute_lt : minute < 1440
  nanos_lt : nanos < 61000000000
deriving DecidableEq

namespace Timestamp

def of? (date : Date) (minute nanos : Nat) : Option Timestamp :=
  if h : date.Valid ∧ minute < 1440 ∧ nanos < 61000000000 then some ⟨date, minute, nanos, h.1, h.2.1, h.2.2⟩
  else none

/-- The time that a clock `offset` minutes ahead of universal time shows as
`minute` of `date`; offsets are less than a day. -/
def ofLocal? (date : Date) (minute nanos : Nat) (offset : Int) : Option Timestamp :=
  let m := (minute : Int) - offset
  if m < 0 then of? date.previous (m + 1440).toNat nanos
  else if m < 1440 then of? date m.toNat nanos
  else of? date.next (m - 1440).toNat nanos

/-- The same time to the millisecond. -/
def toMillis (t : Timestamp) : Timestamp :=
  { t with nanos := t.nanos / 1000000 * 1000000, nanos_lt := by have := t.nanos_lt; omega }

/-! ## Text -/

def twoDigits (n : Nat) : List Char := Text.zeroPadded 2 (Text.decimalDigits n)

/-- Four digits; years outside 0 to 9999 have a sign and may have more. -/
def yearText (y : Int) : List Char :=
  if 0 ≤ y ∧ y ≤ 9999 then Text.zeroPadded 4 (Text.decimalDigits y.toNat)
  else (if y < 0 then '-' else '+') :: Text.zeroPadded 4 (Text.decimalDigits y.natAbs)

inductive Precision where
  /-- Always three. -/
  | millis
  /-- The least of none, three, six and nine that loses nothing. -/
  | exact

def fractionText (nanos : Nat) : Precision → List Char
  | .millis => '.' :: Text.zeroPadded 3 (Text.decimalDigits (nanos / 1000000))
  | .exact =>
    if nanos = 0 then []
    else if nanos % 1000000 = 0 then '.' :: Text.zeroPadded 3 (Text.decimalDigits (nanos / 1000000))
    else if nanos % 1000 = 0 then '.' :: Text.zeroPadded 6 (Text.decimalDigits (nanos / 1000))
    else '.' :: Text.zeroPadded 9 (Text.decimalDigits nanos)

def chars (t : Timestamp) (p : Precision) : List Char :=
  yearText t.date.year ++ '-' :: twoDigits t.date.month ++ '-' :: twoDigits t.date.day ++
  'T' :: twoDigits (t.minute / 60) ++ ':' :: twoDigits (t.minute % 60) ++
  ':' :: twoDigits (t.nanos / 1000000000) ++ fractionText (t.nanos % 1000000000) p ++ ['Z']

def text (t : Timestamp) (p : Precision) : String := String.ofList (t.chars p)

end Timestamp

end AgentLedger
