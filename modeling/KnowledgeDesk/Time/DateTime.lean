import KnowledgeDesk.Text.Blank

/-!
# Calendar dates and times

A `DateTime` is a date of the proleptic Gregorian calendar with a time of day, to the
nanosecond, without a time zone. A leap second is a time at second 59 whose nanoseconds reach
past one second.

* `DateTime.ofUnixNanos` reads a count of nanoseconds since 1970-01-01 00:00:00.
* `DateTime.text` writes `YYYY-MM-DDTHH:MM:SS` and a fraction of 3, 6 or 9 digits, the fewest
  of those that show the nanoseconds exactly, and none for a whole second. Years outside
  0–9999 carry a sign and at least four digits.
* `DateTime.storedText` is the same with a space in place of the `T`; its order as text is the
  order in time for years 0–9999.
* `DateTime.parse?` reads the same texts and some looser ones: blanks may stand before each
  number and around the separators, the `T` may be lower case or left out, a year may be
  signed, and a fraction may have any number of digits (past nine they are dropped).
-/

namespace KnowledgeDesk.Time

/-- A date and a time of day. -/
structure DateTime where
  year : Int
  month : Nat
  day : Nat
  hour : Nat
  minute : Nat
  second : Nat
  nano : Nat
  deriving Repr, DecidableEq, Inhabited

/-- The days since 1970-01-01 of a date (negative before it). -/
def daysFromCivil (year : Int) (month day : Nat) : Int :=
  let y : Int := if month ≤ 2 then year - 1 else year
  let era := y / 400
  let yoe := y - era * 400
  let mp : Int := ((month + 9) % 12 : Nat)
  let doy := (153 * mp + 2) / 5 + day - 1
  let doe := yoe * 365 + yoe / 4 - yoe / 100 + doy
  era * 146097 + doe - 719468

/-- The date of a count of days since 1970-01-01. -/
def civilFromDays (days : Int) : Int × Nat × Nat :=
  let z := days + 719468
  let era := z / 146097
  let doe := z - era * 146097
  let yoe := (doe - doe / 1460 + doe / 36524 - doe / 146096) / 365
  let doy := doe - (365 * yoe + yoe / 4 - yoe / 100)
  let mp := (5 * doy + 2) / 153
  let d := (doy - (153 * mp + 2) / 5 + 1).toNat
  let m := if mp < 10 then (mp + 3).toNat else (mp - 9).toNat
  let y := yoe + era * 400
  (if m ≤ 2 then y + 1 else y, m, d)

namespace DateTime

/-- The date and time a count of nanoseconds after 1970-01-01 00:00:00 names. -/
def ofUnixNanos (n : Nat) : DateTime :=
  let secs := n / 1000000000
  let (y, m, d) := civilFromDays (secs / 86400 : Nat)
  let t := secs % 86400
  ⟨y, m, d, t / 3600, t % 3600 / 60, t % 60, n % 1000000000⟩

def toUnixNanos (t : DateTime) : Int :=
  let days := daysFromCivil t.year t.month t.day
  ((days * 86400 + (t.hour * 3600 + t.minute * 60 + t.second : Nat)) * 1000000000) + t.nano

def padded (width n : Nat) : String :=
  let s := toString n
  String.ofList (List.replicate (width - s.length) '0') ++ s

/-- The year: four digits within 0–9999, else a sign and at least four digits. -/
def yearText (y : Int) : String :=
  if 0 ≤ y && y ≤ 9999 then padded 4 y.toNat
  else (if y < 0 then "-" else "+") ++ padded 4 y.natAbs

/-- The fraction of a second: none, or 3, 6 or 9 digits after a point. -/
def fractionText (nano : Nat) : String :=
  if nano = 0 then ""
  else if nano % 1000000 = 0 then "." ++ padded 3 (nano / 1000000)
  else if nano % 1000 = 0 then "." ++ padded 6 (nano / 1000)
  else "." ++ padded 9 nano

def textWith (sep : String) (t : DateTime) : String :=
  let (second, nano) := if t.nano ≥ 1000000000 then (t.second + 1, t.nano - 1000000000)
    else (t.second, t.nano)
  yearText t.year ++ "-" ++ padded 2 t.month ++ "-" ++ padded 2 t.day ++ sep ++
    padded 2 t.hour ++ ":" ++ padded 2 t.minute ++ ":" ++ padded 2 second ++ fractionText nano

def text (t : DateTime) : String := textWith "T" t

/-- The stored text of a date and time, a space between the date and the time. -/
def storedText (t : DateTime) : String := textWith " " t

end DateTime

/-! ## Reading -/

/-- Why a text names no date and time. -/
inductive ParseProblem where
  | outOfRange
  | impossible
  | notEnough
  | invalid
  | tooShort
  | tooLong
  deriving Repr, DecidableEq

def ParseProblem.text : ParseProblem → String
  | .outOfRange => "input is out of range"
  | .impossible => "no possible date and time matching input"
  | .notEnough => "input is not enough for unique date and time"
  | .invalid => "input contains invalid characters"
  | .tooShort => "premature end of input"
  | .tooLong => "trailing input"

/-- The value of the digits in front, at least `least` and at most `most` of them. Fewer
characters than `least` is an early end; a non-digit before `least` digits is invalid; a value
past 64 bits is out of range. -/
def scanNumber (cs : List Char) (least most : Nat) : Except ParseProblem (Nat × List Char) :=
  if (String.ofList cs).utf8ByteSize < least then .error .tooShort
  else
    let digits := (cs.take most).takeWhile Char.isDigit
    if digits.length < least then .error .invalid
    else
      let v := digits.foldl (fun acc c => acc * 10 + (c.toNat - '0'.toNat)) 0
      if v > 9223372036854775807 then .error .outOfRange
      else .ok (v, cs.drop digits.length)

def scanLiteral (cs : List Char) (c : Char) : Except ParseProblem (List Char) :=
  match cs with
  | [] => .error .tooShort
  | d :: rest => if d = c then .ok rest else .error .invalid

/-- A field in `[lo, hi]`, after any blanks. -/
def scanField (cs : List Char) (width : Nat) (lo hi : Nat) : Except ParseProblem (Nat × List Char) := do
  let (v, rest) ← scanNumber (Text.trimStartChars cs) 1 width
  if v < lo || v > hi then throw .outOfRange
  pure (v, rest)

/-- The year in front, after any blanks: signed with any number of digits, else at most four. -/
def scanYear (cs : List Char) : Except ParseProblem (Int × List Char) := do
  let cs := Text.trimStartChars cs
  let (y, rest) ← match cs with
    | '-' :: more => do
      let (v, r) ← scanNumber more 1 1000
      pure (-(v : Int), r)
    | '+' :: more => do
      let (v, r) ← scanNumber more 1 1000
      pure ((v : Int), r)
    | _ => do
      let (v, r) ← scanNumber cs 1 4
      pure ((v : Int), r)
  if y < -2147483648 || y > 2147483647 then throw .outOfRange
  pure (y, rest)

/-- The nanoseconds of a fraction in front, if a point stands there. -/
def scanFraction (cs : List Char) : Except ParseProblem (Nat × List Char) :=
  match cs with
  | '.' :: more => do
    let (v, rest) ← scanNumber more 1 9
    let used := more.length - rest.length
    let scaled := v * Nat.pow 10 (9 - used)
    pure (scaled, rest.dropWhile Char.isDigit)
  | _ => .ok (0, cs)

def isLeapYear (y : Int) : Bool := (y % 4 == 0 && y % 100 != 0) || y % 400 == 0

def daysInMonth (y : Int) (m : Nat) : Nat :=
  match m with
  | 2 => if isLeapYear y then 29 else 28
  | 4 | 6 | 9 | 11 => 30
  | _ => 31

def DateTime.parse? (s : String) : Except ParseProblem DateTime := do
  let cs := s.toList
  let (year, cs) ← scanYear cs
  let cs ← scanLiteral (Text.trimStartChars cs) '-'
  let (month, cs) ← scanField cs 2 1 12
  let cs ← scanLiteral (Text.trimStartChars cs) '-'
  let (day, cs) ← scanField cs 2 1 31
  let cs := Text.trimStartChars cs
  let cs := match cs with
    | 'T' :: rest | 't' :: rest => rest
    | _ => cs
  let (hour, cs) ← scanField cs 2 0 23
  let cs ← scanLiteral (Text.trimStartChars cs) ':'
  let (minute, cs) ← scanField cs 2 0 59
  let cs ← scanLiteral (Text.trimStartChars cs) ':'
  let (second, cs) ← scanField cs 2 0 60
  let (nano, cs) ← scanFraction cs
  let cs := Text.trimStartChars cs
  if !cs.isEmpty then throw .tooLong
  if year < -262144 || year > 262143 || day > daysInMonth year month then throw .outOfRange
  if second = 60 then pure ⟨year, month, day, hour, minute, 59, nano + 1000000000⟩
  else pure ⟨year, month, day, hour, minute, second, nano⟩

end KnowledgeDesk.Time
