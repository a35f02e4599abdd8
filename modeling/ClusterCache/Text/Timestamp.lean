import ClusterCache.Text.Blank

/-!
# Timestamps

A timestamp is a date, a time of day and an offset from universal time, such as
`2024-05-31T23:59:60.5+02:00`. White space may stand before numbers and between the parts; a year
has at most four digits unless it has a sign; a second may be the sixtieth. What is read is kept in
universal time, with nine places of the fraction, and is written with three, six or nine of them,
or none.
-/

namespace ClusterCache.Text

/-- A day of the calendar, also of years before the first. -/
structure Date where
  year : Int
  month : Nat
  day : Nat
deriving DecidableEq, Repr

/-- A moment in universal time. `minute` counts from midnight. -/
structure Timestamp where
  date : Date
  minute : Nat
  second : Nat
  nanosecond : Nat
deriving DecidableEq, Repr

namespace Date

/-- Every fourth year is a leap year, except for the hundredth ones, but not the four hundredth. -/
def isLeap (year : Int) : Bool := year % 4 = 0 && (year % 100 ≠ 0 || year % 400 = 0)

def daysIn (year : Int) (month : Nat) : Nat :=
  if month = 2 then (if isLeap year then 29 else 28)
  else if month = 4 || month = 6 || month = 9 || month = 11 then 30
  else 31

def isValid (date : Date) : Bool :=
  -262143 ≤ date.year && date.year ≤ 262142 && 1 ≤ date.month && date.month ≤ 12 &&
    1 ≤ date.day && date.day ≤ daysIn date.year date.month

def next (date : Date) : Date :=
  if date.day < daysIn date.year date.month then { date with day := date.day + 1 }
  else if date.month < 12 then ⟨date.year, date.month + 1, 1⟩
  else ⟨date.year + 1, 1, 1⟩

def previous (date : Date) : Date :=
  if 1 < date.day then { date with day := date.day - 1 }
  else if 1 < date.month then ⟨date.year, date.month - 1, daysIn date.year (date.month - 1)⟩
  else ⟨date.year - 1, 12, 31⟩

end Date

namespace Timestamp

def minutesPerDay : Nat := 1440

/-! ## Reading -/

abbrev Part (α : Type) := StateT (List Char) Option α

def blanks : Part Unit := fun characters => some ((), characters.dropWhile isBlank)

def isDigit (c : Char) : Bool := '0' ≤ c && c ≤ '9'

def decimal (digits : List Char) : Nat :=
  digits.foldl (fun value c => 10 * value + (c.toNat - '0'.toNat)) 0

def digits (width : Nat) : Part Nat := fun characters =>
  let taken := (characters.take width).takeWhile isDigit
  if taken.isEmpty then none else some (decimal taken, characters.drop taken.length)

def number (low high : Nat) : Part Nat := do
  blanks
  let value ← digits 2
  guard (low ≤ value && value ≤ high)
  return value

def mark (expected : Char) : Part Unit := do
  blanks
  let c :: rest ← get | failure
  guard (c = expected)
  set rest

def year : Part Int := do
  blanks
  let characters ← get
  match characters with
  | '-' :: rest =>
      set rest
      return -(← digits characters.length : Nat)
  | '+' :: rest =>
      set rest
      return (← digits characters.length : Nat)
  | _ => return (← digits 4 : Nat)

def calendarDate : Part Date := do
  let year ← year
  mark '-'
  let month ← number 1 12
  mark '-'
  let day ← number 1 31
  let date : Date := ⟨year, month, day⟩
  guard date.isValid
  return date

/-- The fraction of a second in nanoseconds; further digits do not count. -/
def fraction : Part Nat := fun characters =>
  match characters with
  | '.' :: rest =>
      let digits := rest.takeWhile isDigit
      if digits.isEmpty then none
      else some (decimal ((digits ++ List.replicate 9 '0').take 9), rest.dropWhile isDigit)
  | _ => some (0, characters)

def twoDigits : Part Nat := fun characters =>
  match (characters.take 2).all isDigit, digits 2 characters with
  | true, some (value, rest) => if characters.length < 2 then none else some (value, rest)
  | _, _ => none

def offset : Part Int := do
  blanks
  let characters ← get
  if (String.ofList (characters.take 3)).toLower = "utc" then
    set (characters.drop 3)
    return 0
  else
    let c :: rest := characters | failure
    set rest
    if c = 'Z' || c = 'z' then return 0
    guard (c = '+' || c = '-' || c.toNat = 0x2212)
    let hours ← twoDigits
    modify fun characters => characters.dropWhile fun c => c = ':' || isBlank c
    let minutes ← twoDigits
    guard (hours < 24 && minutes < 60)
    let total : Int := (60 * hours + minutes : Nat)
    return if c = '+' then total else -total

/-- The moment at which clocks so many minutes ahead of universal time show the given time. -/
def ofLocal? (date : Date) (minute second nanosecond : Nat) (offset : Int) : Option Timestamp :=
  let universal := minute - offset
  let date :=
    if universal < 0 then date.previous
    else if minutesPerDay ≤ universal then date.next
    else date
  if date.isValid then some ⟨date, (universal % minutesPerDay).toNat, second, nanosecond⟩
  else none

def whole : Part Timestamp := do
  let date ← calendarDate
  let c :: rest ← get | failure
  guard (c = 't' || c = 'T' || c = ' ')
  set rest
  let hour ← number 0 23
  mark ':'
  let minute ← number 0 59
  mark ':'
  let second ← number 0 60
  let nanosecond ← fraction
  let offset ← offset
  blanks
  ofLocal? date (60 * hour + minute) second nanosecond offset

def ofText? (text : String) : Option Timestamp :=
  (whole text.toList).bind fun (timestamp, rest) => if rest.isEmpty then some timestamp else none

/-! ## Writing -/

def padded (width value : Nat) : String :=
  String.ofList ((Nat.toDigits 10 value).leftpad width '0')

/-- A year with four digits, else with its sign. -/
def yearText (year : Int) : String :=
  if year < 0 then "-" ++ padded 4 year.natAbs
  else if year ≤ 9999 then padded 4 year.natAbs
  else "+" ++ padded 4 year.natAbs

def fractionText (nanosecond : Nat) : String :=
  if nanosecond = 0 then ""
  else if nanosecond % 1000000 = 0 then "." ++ padded 3 (nanosecond / 1000000)
  else if nanosecond % 1000 = 0 then "." ++ padded 6 (nanosecond / 1000)
  else "." ++ padded 9 nanosecond

def text (timestamp : Timestamp) : String :=
  yearText timestamp.date.year ++ "-" ++ padded 2 timestamp.date.month ++ "-" ++
    padded 2 timestamp.date.day ++ "T" ++ padded 2 (timestamp.minute / 60) ++ ":" ++
    padded 2 (timestamp.minute % 60) ++ ":" ++ padded 2 timestamp.second ++
    fractionText timestamp.nanosecond ++ "Z"

example : (ofText? "2024-03-01 00:30:60.25+02:00").map text = some "2024-02-29T22:30:60.250Z" := by
  cbv

end Timestamp

end ClusterCache.Text
