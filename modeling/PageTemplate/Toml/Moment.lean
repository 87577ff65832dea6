/-
The dates and times of a TOML document, and the one text that each is written as.
-/
import PageTemplate.Decimal.Notation
import PageTemplate.Toml.Scan

namespace PageTemplate.Toml

/-- A day of the calendar. -/
structure Date where
  year : Nat
  month : Nat
  day : Nat
  deriving DecidableEq, Repr

/-- A time of day. -/
structure TimeOfDay where
  hour : Nat
  minute : Nat
  second : Nat
  nanosecond : Nat
  deriving DecidableEq, Repr

/-- How far a local time is from universal time. -/
inductive ClockOffset where
  | universal
  | minutes (m : Int)
  deriving DecidableEq, Repr

/-- A date, a time, or both; only both together can have an offset. -/
structure Moment where
  date : Option Date
  time : Option TimeOfDay
  offset : Option ClockOffset
  deriving DecidableEq, Repr

/-! ## The text of dates and times -/

def Date.text (d : Date) : Text :=
  zeroPadded 4 d.year ++ '-' :: zeroPadded 2 d.month ++ '-' :: zeroPadded 2 d.day

/-- The text of a time; a fraction of a second is written without zeros at its end. -/
def TimeOfDay.text (t : TimeOfDay) : Text :=
  let fraction := (zeroPadded 9 t.nanosecond).reverse.dropWhile (· = '0')
  zeroPadded 2 t.hour ++ ':' :: zeroPadded 2 t.minute ++ ':' :: zeroPadded 2 t.second
    ++ if fraction = [] then [] else '.' :: fraction.reverse

def ClockOffset.text : ClockOffset → Text
  | .universal => ['Z']
  | .minutes m =>
    (if m < 0 then '-' else '+') :: zeroPadded 2 (m.natAbs / 60) ++ ':' :: zeroPadded 2 (m.natAbs % 60)

def Moment.text (m : Moment) : Text :=
  let date := (m.date.map Date.text).getD []
  let time := (m.time.map TimeOfDay.text).getD []
  let divider := if m.date.isSome ∧ m.time.isSome then ['T'] else []
  date ++ divider ++ time ++ (m.offset.map ClockOffset.text).getD []

/-! ## Reading dates and times -/

/-- A number of exactly so many digits, inside bounds. -/
def fixedDigits? (width least greatest : Nat) (text : Text) : Option (Nat × Text) :=
  let ds := text.take width
  let n := valueOf 10 ds
  if ds.length = width ∧ ds.all Char.isDigit ∧ least ≤ n ∧ n ≤ greatest then
    some (n, text.drop width)
  else none

/-- The number of days of a month. -/
def Date.daysOf (year month : Nat) : Nat :=
  if month = 2 then
    if year % 4 = 0 ∧ (year % 100 ≠ 0 ∨ year % 400 = 0) then 29 else 28
  else if month = 4 ∨ month = 6 ∨ month = 9 ∨ month = 11 then 30
  else 31

def Date.read? (text : Text) : Option (Date × Text) := do
  let (year, rest) ← fixedDigits? 4 0 9999 text
  let (month, rest) ← fixedDigits? 2 1 12 (← expect? '-' rest)
  let (day, rest) ← fixedDigits? 2 1 (Date.daysOf year month) (← expect? '-' rest)
  return (⟨year, month, day⟩, rest)

/-- A fraction of a second in nanoseconds; further digits are dropped. -/
def TimeOfDay.fraction : Text → Nat × Text
  | '.' :: rest =>
    match rest.takeWhile Char.isDigit with
    | [] => (0, '.' :: rest)
    | ds =>
      let ds := ds.take 9
      (valueOf 10 ds * tenTo (9 - ds.length), rest.dropWhile Char.isDigit)
  | text => (0, text)

def TimeOfDay.read? (text : Text) : Option (TimeOfDay × Text) := do
  let (hour, rest) ← fixedDigits? 2 0 23 text
  let (minute, rest) ← fixedDigits? 2 0 59 (← expect? ':' rest)
  let (second, rest) ← fixedDigits? 2 0 60 (← expect? ':' rest)
  let (nanosecond, rest) := TimeOfDay.fraction rest
  return (⟨hour, minute, second, nanosecond⟩, rest)

def ClockOffset.read? : Part ClockOffset
  | c :: rest =>
    if c = 'Z' ∨ c = 'z' then some (.universal, rest)
    else if c = '+' ∨ c = '-' then do
      let (h, rest) ← fixedDigits? 2 0 23 rest
      let (m, rest) ← fixedDigits? 2 0 59 (← expect? ':' rest)
      let total : Int := (h * 60 + m : Nat)
      return (.minutes (if c = '-' then -total else total), rest)
    else none
  | [] => none

/-- The time that stands behind a date. -/
def timeAfterDate? : Part TimeOfDay
  | c :: rest => if c = 'T' ∨ c = 't' ∨ c = ' ' then TimeOfDay.read? rest else none
  | [] => none

def Moment.read? (text : Text) : Option (Moment × Text) :=
  match Date.read? text with
  | some (d, rest) =>
    match timeAfterDate? rest with
    | none => some (⟨some d, none, none⟩, rest)
    | some (t, rest) =>
      match ClockOffset.read? rest with
      | some (o, rest) => some (⟨some d, some t, some o⟩, rest)
      | none => some (⟨some d, some t, none⟩, rest)
  | none => (TimeOfDay.read? text).map fun (t, rest) => (⟨none, some t, none⟩, rest)

end PageTemplate.Toml
