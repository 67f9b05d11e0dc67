import HostSurvey.Text.Property
/-!
# Moments

A moment is a number of seconds since the start of 1970 in universal time, and a number of nanoseconds.
In a leap second there are a billion of these and more: it is told as the sixtieth second of its minute.

1. Years, months and days follow the Gregorian calendar, also backwards.
2. A moment is written with three, six or nine places, as many as it needs, or without a fraction.
3. Reading is lenient about blanks; the zone may be `Z`, `UTC` or hours and minutes.
-/
namespace HostSurvey

open Text

/-- A moment in universal time. -/
structure Moment where
  /-- Seconds since 1970. -/
  seconds : Int
  /-- Nanoseconds within the second; from a billion on in a leap second. -/
  nanos : Nat
  deriving Repr, DecidableEq, Inhabited

namespace Moment

/-! ## The calendar -/

/-- A day of the calendar. -/
structure Day where
  year : Int
  /-- The month, from 1. -/
  month : Nat
  /-- The day of the month, from 1. -/
  day : Nat
  deriving Repr, DecidableEq

/-- Whether a year has a day more. -/
def isLeap (year : Int) : Bool :=
  year % 4 = 0 && (year % 100 ≠ 0 || year % 400 = 0)

/-- How many days a month has. -/
def daysIn (year : Int) (month : Nat) : Nat :=
  match month with
  | 2 => if isLeap year then 29 else 28
  | 4 | 6 | 9 | 11 => 30
  | _ => 31

/-- The years that can be told. -/
def isYear (year : Int) : Bool :=
  -262143 ≤ year && year ≤ 262142

/-- Whether the calendar has a day. -/
def Day.isValid (d : Day) : Bool :=
  isYear d.year && 1 ≤ d.month && d.month ≤ 12 && 1 ≤ d.day && d.day ≤ daysIn d.year d.month

/-- How many days lie between 1970 and a day. Years are counted from March, so that a leap day ends
one. -/
def Day.number (d : Day) : Int :=
  let year := if d.month ≤ 2 then d.year - 1 else d.year
  let month : Int := if d.month ≤ 2 then d.month + 9 else d.month - 3
  let inYear := (153 * month + 2) / 5 + d.day - 1
  365 * year + year / 4 - year / 100 + year / 400 + inYear - 719468

/-- The day with a number. -/
def Day.ofNumber (number : Int) : Day :=
  let n := number + 719468
  let era := n / 146097
  let inEra := n % 146097
  let yearOfEra := (inEra - inEra / 1460 + inEra / 36524 - inEra / 146096) / 365
  let inYear := inEra - (365 * yearOfEra + yearOfEra / 4 - yearOfEra / 100)
  let month := (5 * inYear + 2) / 153
  let day := inYear - (153 * month + 2) / 5 + 1
  let year := yearOfEra + era * 400
  if month < 10 then ⟨year, (month + 3).toNat, day.toNat⟩
  else ⟨year + 1, (month - 9).toNat, day.toNat⟩

/-! ## Writing -/

/-- A number with zeros in front up to a width. -/
def padded (width n : Nat) : String :=
  let digits := toString n
  String.ofList (List.replicate (width - digits.length) '0') ++ digits

/-- A year: four digits, and a sign when that is not enough. -/
def yearText (year : Int) : String :=
  if 0 ≤ year ∧ year ≤ 9999 then padded 4 year.toNat
  else (if year < 0 then "-" else "+") ++ padded 4 year.natAbs

/-- The places behind the seconds. -/
def fractionText (nanos : Nat) : String :=
  if nanos = 0 then ""
  else if nanos % 1000000 = 0 then "." ++ padded 3 (nanos / 1000000)
  else if nanos % 1000 = 0 then "." ++ padded 6 (nanos / 1000)
  else "." ++ padded 9 nanos

/-- The text of a moment, in universal time. -/
def text (m : Moment) : String :=
  let day := Day.ofNumber (m.seconds / 86400)
  let second := (m.seconds % 86400).toNat
  yearText day.year ++ "-" ++ padded 2 day.month ++ "-" ++ padded 2 day.day ++ "T" ++
    padded 2 (second / 3600) ++ ":" ++ padded 2 (second / 60 % 60) ++ ":" ++
    padded 2 (second % 60 + m.nanos / 1000000000) ++ fractionText (m.nanos % 1000000000) ++ "Z"

/-! ## Reading -/

def skipBlanks (text : List Char) : List Char :=
  text.dropWhile isWhiteSpace

/-- The number that digits write. -/
def digitsValue (digits : List Char) : Nat :=
  digits.foldl (fun n c => 10 * n + (c.toNat - 48)) 0

/-- A number of one up to `most` digits. -/
def readDigits (most : Nat) (text : List Char) : Option (Nat × List Char) :=
  let digits := (text.take most).takeWhile Char.isDigit
  if digits.isEmpty then none else some (digitsValue digits, text.drop digits.length)

/-- A number of one or two digits, blanks in front of it allowed, that is at most `greatest`. -/
def readPart (greatest : Nat) (text : List Char) : Option (Nat × List Char) := do
  let (n, rest) ← readDigits 2 (skipBlanks text)
  if n ≤ greatest then some (n, rest) else none

/-- A year: up to four digits, or any number of them after a sign. -/
def readYear (text : List Char) : Option (Int × List Char) :=
  match skipBlanks text with
  | '-' :: rest => (readDigits rest.length rest).map fun (n, rest) => (-(n : Int), rest)
  | '+' :: rest => (readDigits rest.length rest).map fun (n, rest) => ((n : Int), rest)
  | rest => (readDigits 4 rest).map fun (n, rest) => ((n : Int), rest)

/-- The character `c`, blanks in front of it allowed. -/
def readMark (c : Char) (text : List Char) : Option (List Char) :=
  match skipBlanks text with
  | [] => none
  | d :: rest => if d = c then some rest else none

/-- Nanoseconds behind a point. Digits beyond the ninth place do not count. -/
def readFraction (text : List Char) : Option (Nat × List Char) :=
  match text with
  | '.' :: rest =>
    let digits := rest.takeWhile Char.isDigit
    if digits.isEmpty then none
    else some (digitsValue (digits.take 9) * Nat.pow 10 (9 - digits.length), rest.drop digits.length)
  | _ => some (0, text)

/-- The two digits at the front of a text. -/
def readTwo (text : List Char) : Option (Nat × List Char) :=
  match text with
  | a :: b :: rest =>
    if a.isDigit ∧ b.isDigit then some (digitsValue [a, b], rest) else none
  | _ => none

/-- The distance from universal time, in seconds. -/
def readOffset (text : List Char) : Option (Int × List Char) :=
  match text with
  | 'Z' :: rest | 'z' :: rest => some (0, rest)
  | sign :: rest => do
    let (hours, rest) ← if sign ∈ ['+', '-', '\u2212'] then readTwo rest else none
    let (minutes, rest) ← readTwo (rest.dropWhile fun c => c = ':' || isWhiteSpace c)
    let offset := 3600 * hours + 60 * minutes
    if minutes ≤ 59 ∧ offset < 86400 then
      some (if sign = '+' then offset else -(offset : Int), rest)
    else none
  | [] => none

/-- The zone at the end of a text. -/
def readZone (text : List Char) : Option (Int × List Char) :=
  let text := skipBlanks text
  if (text.take 3).map Char.toLower = ['u', 't', 'c'] then some (0, text.drop 3) else readOffset text

/-- The moment that a text writes. -/
def parse? (text : String) : Option Moment := do
  let (year, rest) ← readYear text.toList
  let (month, rest) ← readPart 12 (← readMark '-' rest)
  let (day, rest) ← readPart 31 (← readMark '-' rest)
  let rest ← match rest with
    | 'T' :: rest | 't' :: rest | ' ' :: rest => some rest
    | _ => none
  let (hour, rest) ← readPart 23 rest
  let (minute, rest) ← readPart 59 (← readMark ':' rest)
  let (second, rest) ← readPart 60 (← readMark ':' rest)
  let (nanos, rest) ← readFraction rest
  let (offset, rest) ← readZone rest
  let date : Day := ⟨year, month, day⟩
  if skipBlanks rest ≠ [] ∨ !date.isValid then none
  let seconds := date.number * 86400 + 3600 * hour + 60 * minute + min second 59 - offset
  if !isYear (Day.ofNumber (seconds / 86400)).year then none
  return ⟨seconds, nanos + if second = 60 then 1000000000 else 0⟩

end Moment
end HostSurvey
