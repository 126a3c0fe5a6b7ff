import Formula.Text.Quoted

/-!
Days and times of the Gregorian calendar, with the zone a time was given in. They occur as data that
are no numbers, so all that is asked of them is whether they exist, how they are shown, and which of
them are the same.
-/

set_option autoImplicit false

namespace Formula

open Formula.Text

inductive CalendarError where
  | year (given : Nat)
  | month
  | day
  | hour
  | minute
  | second
  | zone (shown : String)
  | beyondLastYear
  deriving DecidableEq, Repr

def CalendarError.message : CalendarError → String
  | year given => "year " ++ toString given ++ " is out of range"
  | month => "month must be in 1..12"
  | day => "day is out of range for month"
  | hour => "hour must be in 0..23"
  | minute => "minute must be in 0..59"
  | second => "second must be in 0..59"
  | zone shown => "offset must be a timedelta strictly between -timedelta(hours=24) and "
      ++ "timedelta(hours=24), not " ++ shown ++ "."
  | beyondLastYear => "date value out of range"

def padded (width number : Nat) : String :=
  let digits := (toString number).toList
  String.ofList (List.replicate (width - digits.length) '0' ++ digits)

structure Day where
  year : Nat
  month : Nat
  day : Nat
  deriving DecidableEq, Repr

namespace Day

def isLeap (year : Nat) : Bool := year % 4 == 0 && (year % 100 != 0 || year % 400 == 0)

def monthLength (year month : Nat) : Nat :=
  if month = 2 then if isLeap year then 29 else 28
  else if [4, 6, 9, 11].contains month then 30
  else 31

def create (year month day : Nat) : Except CalendarError Day :=
  if year = 0 ∨ 9999 < year then .error (.year year)
  else if month = 0 ∨ 12 < month then .error .month
  else if day = 0 ∨ monthLength year month < day then .error .day
  else .ok { year, month, day }

def next (d : Day) : Except CalendarError Day :=
  if d.day < monthLength d.year d.month then .ok { d with day := d.day + 1 }
  else if d.month < 12 then .ok { d with month := d.month + 1, day := 1 }
  else if d.year < 9999 then .ok { year := d.year + 1, month := 1, day := 1 }
  else .error .beyondLastYear

def number (d : Day) : Nat :=
  let before := d.year - 1
  365 * before + before / 4 - before / 100 + before / 400
    + (List.range (d.month - 1)).foldl (fun days month => days + monthLength d.year (month + 1)) 0
    + d.day - 1

def toText (d : Day) : String :=
  padded 4 d.year ++ "-" ++ padded 2 d.month ++ "-" ++ padded 2 d.day

def shown (d : Day) : String :=
  "datetime.date(" ++ ", ".intercalate ([d.year, d.month, d.day].map toString) ++ ")"

end Day

structure Clock where
  hour : Nat
  minute : Nat
  second : Nat
  microsecond : Nat := 0
  deriving DecidableEq, Repr

namespace Clock

def create (hour minute second microsecond : Nat) : Except CalendarError Clock :=
  if 23 < hour then .error .hour
  else if 59 < minute then .error .minute
  else if 59 < second then .error .second
  else .ok { hour, minute, second, microsecond }

/-- The first time of the second that follows, and whether that is a second of the next day. -/
def nextSecond (c : Clock) : Clock × Bool :=
  if c.second < 59 then ({ c with second := c.second + 1, microsecond := 0 }, false)
  else if c.minute < 59 then ({ hour := c.hour, minute := c.minute + 1, second := 0 }, false)
  else if c.hour < 23 then ({ hour := c.hour + 1, minute := 0, second := 0 }, false)
  else ({ hour := 0, minute := 0, second := 0 }, true)

def microseconds (c : Clock) : Nat :=
  ((c.hour * 60 + c.minute) * 60 + c.second) * 1000000 + c.microsecond

def toText (c : Clock) : String :=
  padded 2 c.hour ++ ":" ++ padded 2 c.minute ++ ":" ++ padded 2 c.second
    ++ (if c.microsecond = 0 then "" else "." ++ padded 6 c.microsecond)

/-- The numbers of a time; seconds and parts of seconds are left out if they and all behind them
are zero. -/
def numbers (c : Clock) : List Nat :=
  [c.hour, c.minute]
    ++ (if c.second = 0 ∧ c.microsecond = 0 then [] else [c.second])
    ++ (if c.microsecond = 0 then [] else [c.microsecond])

end Clock

def shownSpan (seconds : Int) : String :=
  let days := seconds / 86400
  let rest := seconds % 86400
  let parts := (if days = 0 then [] else ["days=" ++ toString days])
    ++ (if rest = 0 then [] else ["seconds=" ++ toString rest])
  "datetime.timedelta(" ++ (if parts.isEmpty then "0" else ", ".intercalate parts) ++ ")"

structure Zone where
  seconds : Int
  name : String
  deriving DecidableEq, Repr

namespace Zone

/-- Zones are less than a day ahead or behind. -/
def create (seconds : Int) (name : String) : Except CalendarError Zone :=
  if seconds.natAbs < 86400 then .ok { seconds, name } else .error (.zone (shownSpan seconds))

def toText (z : Zone) : String :=
  let minutes := z.seconds.natAbs / 60
  (if z.seconds < 0 then "-" else "+") ++ padded 2 (minutes / 60) ++ ":" ++ padded 2 (minutes % 60)

def shown (z : Zone) : String :=
  "datetime.timezone(" ++ shownSpan z.seconds ++ ", " ++ quote z.name ++ ")"

end Zone

structure Moment where
  day : Day
  clock : Clock
  zone : Option Zone := none
  deriving DecidableEq, Repr

namespace Moment

def nextSecond (m : Moment) : Except CalendarError Moment := do
  let (clock, turns) := m.clock.nextSecond
  let day ← if turns then m.day.next else .ok m.day
  return { m with day, clock }

def microseconds (m : Moment) : Int :=
  let ahead := match m.zone with
    | some z => z.seconds * 1000000
    | none => 0
  (m.day.number * 86400000000 + m.clock.microseconds : Nat) - ahead

/-- Two moments are the same if they are at the same time and both have zones or none. -/
def same (m m' : Moment) : Bool :=
  m.zone.isSome == m'.zone.isSome && m.microseconds == m'.microseconds

def toText (m : Moment) : String :=
  m.day.toText ++ " " ++ m.clock.toText ++ (match m.zone with
    | some z => z.toText
    | none => "")

def shown (m : Moment) : String :=
  let numbers := [m.day.year, m.day.month, m.day.day] ++ m.clock.numbers
  "datetime.datetime(" ++ ", ".intercalate (numbers.map toString) ++ (match m.zone with
    | some z => ", tzinfo=" ++ z.shown
    | none => "") ++ ")"

end Moment

end Formula
