/-
Dates and times. A date is a day that the calendar has; a time has hours,
minutes and seconds, and may have a fraction of a second; a date with a
time may carry an offset. Nothing is made of a moment beyond knowing that
it is one.
-/
import InstrumentBus.Numeral

namespace InstrumentBus.Toml.Moment

/-- A number of exactly `n` digits at the front of a text, and what
follows it. -/
def field? (n : Nat) (s : List Char) : Option (Nat × List Char) :=
  if (s.take n).length = n ∧ (s.take n).all Numeral.isDigit then
    some (Numeral.value (s.take n), s.drop n)
  else none

/-- What follows a character at the front of a text. -/
def after? (c : Char) (s : List Char) : Option (List Char) :=
  match s with
  | d :: rest => if d = c then some rest else none
  | [] => none

/-- A year with a twenty-ninth of February. -/
def isLeap (year : Nat) : Bool := year % 4 == 0 && (year % 100 != 0 || year % 400 == 0)

/-- The days of a month. -/
def daysIn (year month : Nat) : Nat :=
  if month = 2 then if isLeap year then 29 else 28
  else if month = 4 ∨ month = 6 ∨ month = 9 ∨ month = 11 then 30
  else 31

/-- What follows a date at the front of a text. -/
def date? (s : List Char) : Option (List Char) := do
  let (year, s) ← field? 4 s
  let s ← after? '-' s
  let (month, s) ← field? 2 s
  let s ← after? '-' s
  let (day, s) ← field? 2 s
  if 1 ≤ month ∧ month ≤ 12 ∧ 1 ≤ day ∧ day ≤ daysIn year month then some s else none

/-- What follows hours and minutes at the front of a text. -/
def hourMinute? (s : List Char) : Option (List Char) := do
  let (hour, s) ← field? 2 s
  let s ← after? ':' s
  let (minute, s) ← field? 2 s
  if hour ≤ 23 ∧ minute ≤ 59 then some s else none

/-- What follows a time at the front of a text. A minute may have a leap
second. -/
def time? (s : List Char) : Option (List Char) := do
  let s ← hourMinute? s
  let s ← after? ':' s
  let (second, s) ← field? 2 s
  if 60 < second then none
  else
    match s with
    | '.' :: d :: rest =>
      if Numeral.isDigit d then some (rest.dropWhile Numeral.isDigit) else none
    | s => some s

/-- The text is an offset, or empty. -/
def isOffset (s : List Char) : Bool :=
  match s with
  | [] => true
  | [c] => c == 'Z' || c == 'z'
  | c :: rest => (c == '+' || c == '-') && hourMinute? rest == some []

/-- The text is a time, which may carry an offset if it follows a date. -/
def isTime (dated : Bool) (s : List Char) : Bool :=
  match time? s with
  | some rest => if dated then isOffset rest else rest.isEmpty
  | none => false

/-- The text is a date. -/
def isDate (s : List Char) : Bool := date? s == some []

/-- The text is a date, a time, or a date and a time joined by a
letter. -/
def isMoment (s : List Char) : Bool :=
  isTime false s ||
    match date? s with
    | some [] => true
    | some (c :: rest) => (c == 'T' || c == 't') && isTime true rest
    | none => false

end InstrumentBus.Toml.Moment
