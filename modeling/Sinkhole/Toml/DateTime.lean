import Sinkhole.Decimal.Fixed
import Sinkhole.Text.Digits

/-! # Dates and times

A date, a time of day, or both with `T` between them; a date with a time may have an offset from
universal time. All numbers have a fixed width except for the fraction of a second, of which nine
digits count. A date has to be in the calendar, and a minute may have 61 seconds.
-/
namespace Sinkhole.Toml

structure Date where
  year : Nat
  month : Nat
  day : Nat
deriving DecidableEq, Repr

structure TimeOfDay where
  hour : Nat
  minute : Nat
  second : Nat
  nanosecond : Nat
deriving DecidableEq, Repr

inductive Offset where
  | universal
  /-- Minutes that local time is ahead. -/
  | minutes (ahead : Int)
deriving DecidableEq, Repr

inductive DateTime where
  | date (date : Date)
  | time (time : TimeOfDay)
  | both (date : Date) (time : TimeOfDay) (offset : Option Offset)
deriving DecidableEq, Repr

def bounded? (width least most : Nat) (text : List Char) : Option (Nat × List Char) := do
  let digits ← (text.take width).mapM (digitValue? 10)
  let value := digitsValue 10 digits
  if digits.length = width && least ≤ value && value ≤ most then some (value, text.drop width)
  else none

def behind? (mark : Char) : List Char → Option (List Char)
  | [] => none
  | c :: rest => if c = mark then some rest else none

def isLeapYear (year : Nat) : Bool := year % 4 = 0 && (year % 100 != 0 || year % 400 = 0)

def daysOfMonth (year month : Nat) : Nat :=
  if month = 2 then if isLeapYear year then 29 else 28
  else if [4, 6, 9, 11].contains month then 30
  else 31

def date? (text : List Char) : Option (Date × List Char) := do
  let (year, text) ← bounded? 4 0 9999 text
  let (month, text) ← bounded? 2 1 12 (← behind? '-' text)
  let (day, text) ← bounded? 2 1 (daysOfMonth year month) (← behind? '-' text)
  pure (⟨year, month, day⟩, text)

def fraction? (text : List Char) : Option (Nat × List Char) :=
  match text with
  | '.' :: rest =>
    let (digits, rest) := spanDigits 10 rest
    if digits.isEmpty then none
    else
      let digits := digits.take 9
      some (digitsValue 10 digits * Nat.pow 10 (9 - digits.length), rest)
  | _ => some (0, text)

def timeOfDay? (text : List Char) : Option (TimeOfDay × List Char) := do
  let (hour, text) ← bounded? 2 0 23 text
  let (minute, text) ← bounded? 2 0 59 (← behind? ':' text)
  let (second, text) ← bounded? 2 0 60 (← behind? ':' text)
  let (nanosecond, text) ← fraction? text
  pure (⟨hour, minute, second, nanosecond⟩, text)

def offsetMinutes? (sign : Int) (text : List Char) : Option (Option Offset × List Char) := do
  let (hour, text) ← bounded? 2 0 23 text
  let (minute, text) ← bounded? 2 0 59 (← behind? ':' text)
  pure (some (.minutes (sign * (hour * 60 + minute : Nat))), text)

def offset? (text : List Char) : Option (Option Offset × List Char) :=
  match text with
  | 'Z' :: rest => some (some .universal, rest)
  | 'z' :: rest => some (some .universal, rest)
  | '+' :: rest => offsetMinutes? 1 rest
  | '-' :: rest => offsetMinutes? (-1) rest
  | _ => some (none, text)

def timeBehind? (text : List Char) : Option (TimeOfDay × List Char) :=
  match text with
  | 'T' :: rest => timeOfDay? rest
  | 't' :: rest => timeOfDay? rest
  | ' ' :: rest => timeOfDay? rest
  | _ => none

def dateTime? (text : List Char) : Option (DateTime × List Char) :=
  match date? text with
  | none => (timeOfDay? text).map fun (time, rest) => (.time time, rest)
  | some (date, rest) =>
    match timeBehind? rest with
    | none => some (.date date, rest)
    | some (time, rest) => (offset? rest).map fun (offset, rest) => (.both date time offset, rest)

open Decimal (padded)

def Date.text (date : Date) : String :=
  padded 4 date.year ++ "-" ++ padded 2 date.month ++ "-" ++ padded 2 date.day

def fractionText (nanosecond : Nat) : String :=
  let digits := (padded 9 nanosecond).toList.reverse.dropWhile (· == '0')
  if digits.isEmpty then "" else "." ++ String.ofList digits.reverse

def TimeOfDay.text (time : TimeOfDay) : String :=
  padded 2 time.hour ++ ":" ++ padded 2 time.minute ++ ":" ++ padded 2 time.second ++
    fractionText time.nanosecond

def Offset.text : Offset → String
  | universal => "Z"
  | minutes ahead =>
    let sign := if ahead < 0 then "-" else "+"
    sign ++ padded 2 (ahead.natAbs / 60) ++ ":" ++ padded 2 (ahead.natAbs % 60)

def DateTime.text : DateTime → String
  | .date day => day.text
  | .time clock => clock.text
  | .both day clock none => day.text ++ "T" ++ clock.text
  | .both day clock (some offset) => day.text ++ "T" ++ clock.text ++ offset.text

end Sinkhole.Toml
