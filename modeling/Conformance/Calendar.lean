/-!
# Calendar dates and times of day

Dates of the Gregorian calendar, the two texts in which diagnostics show a moment, the moment that
lies a number of seconds after the start of 1970, and the numbers that make up a date.
-/

namespace Conformance

structure Date where
  year : Int
  month : Nat
  day : Nat
deriving DecidableEq

structure Moment where
  date : Date
  hour : Nat
  minute : Nat
  second : Nat
  microsecond : Nat
deriving DecidableEq

/-- A number in at least `width` digits. -/
def padded (width n : Nat) : String :=
  let digits := toString n
  String.ofList (List.replicate (width - digits.length) '0') ++ digits

namespace Date

/-- The date in year, month, day order. -/
def text (d : Date) : String :=
  padded 4 d.year.toNat ++ "-" ++ padded 2 d.month ++ "-" ++ padded 2 d.day

def arguments (d : Date) : List Int := [d.year, d.month, d.day]

def isLeap (year : Int) : Bool := year % 4 = 0 && (year % 100 ≠ 0 || year % 400 = 0)

def monthLength (year : Int) (month : Nat) : Nat :=
  if month = 2 then (if isLeap year then 29 else 28)
  else if month = 4 ∨ month = 6 ∨ month = 9 ∨ month = 11 then 30 else 31

/-- The date `n` days after 1 March of the year zero. A cycle of the calendar has 146097 days; years
are counted from March, so that the leap day ends them. -/
def ofMarchDay (n : Int) : Date :=
  let cycle := n.fdiv 146097
  let day := (n.fmod 146097).toNat
  let year := (day - day / 1460 + day / 36524 - day / 146096) / 365
  let dayOfYear := day - (365 * year + year / 4 - year / 100)
  let month := (5 * dayOfYear + 2) / 153
  { year := 400 * cycle + year + (if month < 10 then 0 else 1)
    month := if month < 10 then month + 3 else month - 9
    day := dayOfYear - (153 * month + 2) / 5 + 1 }

end Date

namespace Moment

/-- The time of day as a text, without fractions of a second. -/
def clock (m : Moment) : String :=
  padded 2 m.hour ++ ":" ++ padded 2 m.minute ++ ":" ++ padded 2 m.second

/-- The moment as a text; a fraction of a second is shown in six digits unless it is zero. -/
def text (m : Moment) : String :=
  m.date.text ++ " " ++ m.clock ++
    (if m.microsecond = 0 then "" else "." ++ padded 6 m.microsecond)

/-- The moment as a mark of log lines; the year is not filled up with zeros. -/
def stamp (m : Moment) : String :=
  toString m.date.year ++ "-" ++ padded 2 m.date.month ++ "-" ++ padded 2 m.date.day ++ " " ++
    m.clock

/-- The moment as a list of arguments, zeros at the end being left out from the seconds on. -/
def arguments (m : Moment) : List Int :=
  m.date.arguments ++ [(m.hour : Int), (m.minute : Int)] ++
    (if m.microsecond ≠ 0 then [(m.second : Int), (m.microsecond : Int)]
     else if m.second ≠ 0 then [(m.second : Int)] else [])

def ofUnixSeconds (n : Int) : Moment :=
  let day := n.fdiv 86400
  let second := (n.fmod 86400).toNat
  { date := Date.ofMarchDay (day + 719468)
    hour := second / 3600
    minute := second / 60 % 60
    second := second % 60
    microsecond := 0 }

end Moment

/-! ### Parts of dates -/

inductive CalendarFlaw where
  | year (n : Int)
  | month
  | day
  | hour
  | minute
  | second
  | microsecond
deriving DecidableEq, Repr

def CalendarFlaw.message : CalendarFlaw → String
  | year n => "year " ++ toString n ++ " is out of range"
  | month => "month must be in 1..12"
  | day => "day is out of range for month"
  | hour => "hour must be in 0..23"
  | minute => "minute must be in 0..59"
  | second => "second must be in 0..59"
  | microsecond => "microsecond must be in 0..999999"

/-- The date of a year from 1 to 9999, a month and a day. -/
def Date.make (year month day : Int) : Except CalendarFlaw Date :=
  if year < 1 ∨ 9999 < year then .error (.year year)
  else if month < 1 ∨ 12 < month then .error .month
  else if day < 1 ∨ (Date.monthLength year month.toNat : Int) < day then .error .day
  else .ok ⟨year, month.toNat, day.toNat⟩

def Moment.make (date : Date) (hour minute second microsecond : Int) :
    Except CalendarFlaw Moment :=
  if hour < 0 ∨ 23 < hour then .error .hour
  else if minute < 0 ∨ 59 < minute then .error .minute
  else if second < 0 ∨ 59 < second then .error .second
  else if microsecond < 0 ∨ 999999 < microsecond then .error .microsecond
  else .ok ⟨date, hour.toNat, minute.toNat, second.toNat, microsecond.toNat⟩

end Conformance
