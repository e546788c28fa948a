import RecordMirror.Text.Digits
/-!
Dates and times: reading them, the calendar, the order of instants and how messages show them.
-/

namespace RecordMirror.Yaml

/-- A date and a time of day, with the offset from universal time in minutes if it is known. -/
structure Timestamp where
  year : Nat
  month : Nat
  day : Nat
  hour : Nat
  minute : Nat
  second : Nat
  microsecond : Nat
  offset : Option Int
deriving DecidableEq, Repr

/-- The number of days of a month. -/
def daysInMonth (year month : Nat) : Nat :=
  if month = 2 then
    if year % 4 = 0 ∧ (year % 100 ≠ 0 ∨ year % 400 = 0) then 29 else 28
  else if month = 4 ∨ month = 6 ∨ month = 9 ∨ month = 11 then 30
  else 31

/-- The days from the beginning of the calendar to a day. -/
def dayNumber (year month day : Nat) : Nat :=
  let earlier := (List.range (month - 1)).map fun m => daysInMonth year (m + 1)
  let past := year - 1
  365 * year + past / 4 - past / 100 + past / 400 + earlier.foldr (· + ·) 0 + day

/-- A number padded with zeros to a width. -/
def padded (width n : Nat) : String :=
  let digits := toString n
  String.ofList (List.replicate (width - digits.length) '0') ++ digits

/-- How messages show a date. -/
def describeDate (year month day : Nat) : String :=
  padded 4 year ++ "-" ++ padded 2 month ++ "-" ++ padded 2 day

namespace Timestamp

/-- Reads one or two digits. -/
def readShort? (text : List Char) : Option (Nat × List Char) :=
  let digits := (text.take 2).takeWhile Char.isDigit
  if digits.isEmpty then none else some (decimalNumber digits, text.drop digits.length)

/-- Reads exactly two digits. -/
def readPair? (text : List Char) : Option (Nat × List Char) :=
  match text with
  | a :: b :: rest => if a.isDigit && b.isDigit then some (decimalNumber [a, b], rest) else none
  | _ => none

/-- Reads a character. -/
def readMark? (mark : Char) (text : List Char) : Option (List Char) :=
  match text with
  | c :: rest => if c == mark then some rest else none
  | [] => none

/-- Reads the offset from universal time at the end of a timestamp; `none` inside if it has
none. -/
def readOffset? (text : List Char) : Option (Option Int) := do
  match text.dropWhile fun c => c == ' ' || c == '\t' with
  | [] => if text.isEmpty then some none else none
  | ['Z'] => some (some 0)
  | sign :: rest =>
    if sign == '-' || sign == '+' then
      let (hours, rest) ← readShort? rest
      let minutes ← match rest with
        | [] => some 0
        | rest => do
          let rest ← readMark? ':' rest
          let (minutes, rest) ← readPair? rest
          if rest.isEmpty then some minutes else none
      let total : Int := 60 * hours + minutes
      return some (if sign == '-' then -total else total)
    else none

/-- Whether a timestamp with a time of day was read, and its parts. -/
def read? (text : List Char) : Option (Timestamp × Bool) := do
  let year := text.take 4
  if year.length < 4 || !year.all Char.isDigit then none
  let rest ← readMark? '-' (text.drop 4)
  let (month, rest) ← readShort? rest
  let rest ← readMark? '-' rest
  let (day, rest) ← readShort? rest
  let date : Timestamp := ⟨decimalNumber year, month, day, 0, 0, 0, 0, none⟩
  match rest with
  | [] => return (date, false)
  | c :: after =>
    let rest ←
      if c == 'T' || c == 't' then some after
      else if c == ' ' || c == '\t' then some (rest.dropWhile fun c => c == ' ' || c == '\t')
      else none
    let (hour, rest) ← readShort? rest
    let rest ← readMark? ':' rest
    let (minute, rest) ← readPair? rest
    let rest ← readMark? ':' rest
    let (second, rest) ← readPair? rest
    let (fraction, rest) := match rest with
      | '.' :: rest => (rest.takeWhile Char.isDigit, rest.dropWhile Char.isDigit)
      | rest => ([], rest)
    let offset ← readOffset? rest
    let six := (fraction ++ List.replicate 6 '0').take 6
    return ({ date with
      hour := hour, minute := minute, second := second
      microsecond := decimalNumber six, offset := offset }, true)

/-- The microseconds from the beginning of the calendar to a timestamp. -/
def instant (t : Timestamp) : Int :=
  let minutes : Int := (dayNumber t.year t.month t.day * 24 + t.hour) * 60 + t.minute
  ((minutes - t.offset.getD 0) * 60 + t.second) * 1000000 + t.microsecond

/-- How messages show an offset from universal time of a day or more. -/
def describeOffset (minutes : Int) : String :=
  let days := minutes / 1440
  let seconds := minutes % 1440 * 60
  if seconds = 0 then s!"datetime.timedelta(days={days})"
  else s!"datetime.timedelta(days={days}, seconds={seconds})"

/-- What is impossible about a timestamp, if anything is. -/
def calendarFault? (t : Timestamp) (timed : Bool) : Option String :=
  let offset := t.offset.getD 0
  if timed && 1440 ≤ offset.natAbs then
    some ("offset must be a timedelta strictly between -timedelta(hours=24) and " ++
      "timedelta(hours=24), not " ++ describeOffset offset ++ ".")
  else if t.year = 0 then some "year 0 is out of range"
  else if t.month < 1 ∨ 12 < t.month then some "month must be in 1..12"
  else if t.day < 1 ∨ daysInMonth t.year t.month < t.day then
    some "day is out of range for month"
  else if 23 < t.hour then some "hour must be in 0..23"
  else if 59 < t.minute then some "minute must be in 0..59"
  else if 59 < t.second then some "second must be in 0..59"
  else none

/-- How messages show a timestamp. -/
def describe (t : Timestamp) : String :=
  let fraction := if t.microsecond = 0 then "" else "." ++ padded 6 t.microsecond
  let zone := match t.offset with
    | none => ""
    | some minutes =>
      (if minutes < 0 then "-" else "+") ++ padded 2 (minutes.natAbs / 60) ++ ":" ++
        padded 2 (minutes.natAbs % 60)
  describeDate t.year t.month t.day ++ " " ++ padded 2 t.hour ++ ":" ++ padded 2 t.minute ++ ":" ++
    padded 2 t.second ++ fraction ++ zone

end Timestamp

end RecordMirror.Yaml
