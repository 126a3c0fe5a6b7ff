import Formula.Datum

/-!
Days and times as they are written: a year of four digits, a month and a day, and possibly a time
with parts of a second and a zone.
-/

set_option autoImplicit false

namespace Formula.Yaml

/-- A zone as written: its sign, if it is not the common one, and its hours and minutes. -/
structure WrittenZone where
  name : List Char
  ahead : Option Bool := none
  hours : Nat := 0
  minutes : Nat := 0

structure WrittenTime where
  hour : Nat
  minute : Nat
  second : Nat
  fraction : List Char := []
  zone : Option WrittenZone := none

structure WrittenTimestamp where
  year : Nat
  month : Nat
  day : Nat
  full : Bool
  time : Option WrittenTime := none

def digitsNumber (digits : List Char) : Nat := Nat.ofDigitChars 10 digits 0

def exactly? (count : Nat) (text : List Char) : Option (Nat × List Char) :=
  let digits := text.take count
  if digits.length = count && digits.all Char.isDigit then
    some (digitsNumber digits, text.drop count)
  else none

def oneOrTwo? (text : List Char) : Option (Nat × Nat × List Char) :=
  let digits := (text.take 2).takeWhile Char.isDigit
  if digits.isEmpty then none
  else some (digitsNumber digits, digits.length, text.drop digits.length)

def behind? (c : Char) : List Char → Option (List Char)
  | [] => none
  | char :: rest => if char = c then some rest else none

def isGap (c : Char) : Bool := c = ' ' || c = '\t'

def readZone? (text : List Char) : Option WrittenZone :=
  match text with
  | ['Z'] => some { name := text }
  | sign :: rest =>
    if sign = '+' || sign = '-' then do
      let (hours, _, rest) ← oneOrTwo? rest
      let minutes ← if rest.isEmpty then some 0 else do
        let (minutes, rest) ← exactly? 2 (← behind? ':' rest)
        if rest.isEmpty then some minutes else none
      return { name := text, ahead := some (sign == '+'), hours, minutes }
    else none
  | [] => none

def readTime? (text : List Char) : Option WrittenTime := do
  let (hour, _, rest) ← oneOrTwo? text
  let (minute, rest) ← exactly? 2 (← behind? ':' rest)
  let (second, rest) ← exactly? 2 (← behind? ':' rest)
  let (fraction, rest) := match rest with
    | '.' :: rest => rest.span Char.isDigit
    | rest => ([], rest)
  if rest.isEmpty then return { hour, minute, second, fraction }
  else return { hour, minute, second, fraction, zone := some (← readZone? (rest.dropWhile isGap)) }

def behindDay? : List Char → Option (List Char)
  | [] => none
  | c :: rest =>
    if c = 'T' || c = 't' then some rest
    else if isGap c then some (rest.dropWhile isGap)
    else none

def readTimestamp? (text : List Char) : Option WrittenTimestamp := do
  let (year, rest) ← exactly? 4 text
  let (month, width, rest) ← oneOrTwo? (← behind? '-' rest)
  let (day, width', rest) ← oneOrTwo? (← behind? '-' rest)
  let full := width = 2 && width' = 2
  if rest.isEmpty then return { year, month, day, full }
  else return { year, month, day, full, time := some (← readTime? (← behindDay? rest)) }

/-- Whether a plain scalar is a timestamp; a day without a time has to be written in full. -/
def isTimestampForm (text : List Char) : Bool :=
  (readTimestamp? text).any fun t => t.full || t.time.isSome

/-- Millionths of a second, rounded by the seventh digit. -/
def WrittenTime.microseconds (t : WrittenTime) : Nat :=
  let places := (t.fraction ++ List.replicate 6 '0').take 6
  digitsNumber places + (if t.fraction[6]?.any fun c => '5' ≤ c then 1 else 0)

def WrittenZone.create (z : WrittenZone) : Except CalendarError Zone :=
  let seconds : Nat := (z.hours * 60 + z.minutes) * 60
  Zone.create (if z.ahead = some false then -(seconds : Int) else seconds) (String.ofList z.name)

def WrittenTimestamp.toDatum (t : WrittenTimestamp) : Except CalendarError Datum := do
  match t.time with
  | none => return .day (← Day.create t.year t.month t.day)
  | some time =>
    let zone ← match time.zone with
      | some z => z.create.map some
      | none => pure none
    let day ← Day.create t.year t.month t.day
    let carries := 999999 < time.microseconds
    let clock ← Clock.create time.hour time.minute time.second
      (if carries then 0 else time.microseconds)
    let m : Moment := { day, clock, zone }
    return .moment (← if carries then m.nextSecond else pure m)

end Formula.Yaml
