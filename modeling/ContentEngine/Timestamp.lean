import ContentEngine.Text.Blank
import ContentEngine.Text.Digit

/-!
# Timestamps

A timestamp is a second of the Unix count and the nanoseconds after it; a leap second is kept as
one second with more than 10 ^ 9 nanoseconds. Timestamps are written by RFC 3339 in UTC, with a
fraction of three, six or nine digits as needed. Reading is more lenient: a blank may stand for the
`T`, blanks may stand between the parts, and numbers may have fewer digits.
-/

namespace ContentEngine

/-- A moment: seconds of the Unix count and nanoseconds after them. -/
structure Timestamp where
  seconds : Int
  nanos : Nat
  deriving DecidableEq, Repr, Inhabited

namespace Timestamp

/-- The moment `millis` milliseconds after the start of the Unix count. -/
def ofMillis (millis : Nat) : Timestamp :=
  ⟨millis / 1000, millis % 1000 * 1000000⟩

/-! ## Dates -/

/-- Whether a year has a leap day. -/
def isLeapYear (year : Int) : Bool :=
  year % 4 == 0 && (year % 100 != 0 || year % 400 == 0)

/-- The number of days of a month. -/
def daysOfMonth (year : Int) (month : Nat) : Nat :=
  if month = 2 then (if isLeapYear year then 29 else 28)
  else if month = 4 ∨ month = 6 ∨ month = 9 ∨ month = 11 then 30
  else 31

/-- The days from 1970-01-01 to a date, counted in years that begin in March. -/
def daysOfDate (year : Int) (month day : Nat) : Int :=
  let y := if month ≤ 2 then year - 1 else year
  let era := y.fdiv 400
  let yearOfEra := y - era * 400
  let monthFromMarch : Int := (month + 9) % 12
  let dayOfYear := (153 * monthFromMarch + 2) / 5 + (day - 1)
  let dayOfEra := yearOfEra * 365 + yearOfEra / 4 - yearOfEra / 100 + dayOfYear
  era * 146097 + dayOfEra - 719468

/-- The date a number of days after 1970-01-01: year, month and day. -/
def dateOfDays (days : Int) : Int × Nat × Nat :=
  let z := days + 719468
  let era := z.fdiv 146097
  let dayOfEra := z - era * 146097
  let yearOfEra :=
    (dayOfEra - dayOfEra / 1460 + dayOfEra / 36524 - dayOfEra / 146096) / 365
  let dayOfYear := dayOfEra - (365 * yearOfEra + yearOfEra / 4 - yearOfEra / 100)
  let monthFromMarch := (5 * dayOfYear + 2) / 153
  let day := (dayOfYear - (153 * monthFromMarch + 2) / 5 + 1).toNat
  let month :=
    if monthFromMarch < 10 then (monthFromMarch + 3).toNat else (monthFromMarch - 9).toNat
  let year := yearOfEra + era * 400
  (if month ≤ 2 then year + 1 else year, month, day)

/-! ## Writing -/

/-- A number with at least `width` digits. -/
def padded (width n : Nat) : String :=
  let digits := toString n
  String.ofList (List.replicate (width - digits.length) '0') ++ digits

/-- The year: four digits, and a sign if they do not suffice. -/
def yearText (year : Int) : String :=
  if 0 ≤ year ∧ year ≤ 9999 then padded 4 year.toNat
  else (if year < 0 then "-" else "+") ++ padded 4 year.natAbs

/-- The fraction of a second, in as many groups of three digits as needed. -/
def fractionText (nanos : Nat) : String :=
  if nanos = 0 then ""
  else if nanos % 1000000 = 0 then "." ++ padded 3 (nanos / 1000000)
  else if nanos % 1000 = 0 then "." ++ padded 6 (nanos / 1000)
  else "." ++ padded 9 nanos

/-- The text of a timestamp. -/
def text (t : Timestamp) : String :=
  let days := t.seconds.fdiv 86400
  let ofDay := (t.seconds - days * 86400).toNat
  let (year, month, day) := dateOfDays days
  let leap := if 1000000000 ≤ t.nanos then 1 else 0
  yearText year ++ "-" ++ padded 2 month ++ "-" ++ padded 2 day ++ "T" ++
    padded 2 (ofDay / 3600) ++ ":" ++ padded 2 (ofDay / 60 % 60) ++ ":" ++
    padded 2 (ofDay % 60 + leap) ++ fractionText (t.nanos % 1000000000) ++ "Z"

/-! ## Reading -/

/-- What is left of a text, as a state. -/
abbrev Scan := StateT (List Char) Option

/-- Skips blanks. -/
def skipBlanks : Scan Unit :=
  modify (List.dropWhile Text.isBlank)

/-- Takes one character that satisfies `p`. -/
def char (p : Char → Bool) : Scan Char := do
  match ← get with
  | c :: rest => if p c then set rest; pure c else failure
  | [] => failure

/-- Takes a separator after blanks. -/
def separator (c : Char) : Scan Unit := do
  skipBlanks
  let _ ← char (· == c)

/-- A number of one up to `width` digits. -/
def number (width : Nat) : Scan Nat := do
  let cs ← get
  let digits := (cs.take width).takeWhile Char.isDigit
  if digits.isEmpty then failure
  else
    set (cs.drop digits.length)
    pure (Text.decimal digits)

/-- A year: up to four digits, or a sign and any number of digits. -/
def year : Scan Int := do
  skipBlanks
  match ← get with
  | '-' :: rest => set rest; let n ← number rest.length; pure (-(n : Int))
  | '+' :: rest => set rest; let n ← number rest.length; pure n
  | _ => let n ← number 4; pure n

/-- A number of one or two digits after blanks. -/
def twoDigits : Scan Nat := do
  skipBlanks
  number 2

/-- The nanoseconds of a fraction; digits after the ninth are passed over. -/
def fraction : Scan Nat := do
  match ← get with
  | '.' :: rest =>
    let digits := rest.takeWhile Char.isDigit
    if digits.isEmpty then failure
    else
      set (rest.dropWhile Char.isDigit)
      let nine := digits.take 9
      pure (Text.decimal nine * Nat.pow 10 (9 - nine.length))
  | _ => pure 0

/-- The seconds by which a zone is ahead of UTC. -/
def offset : Scan Int := do
  skipBlanks
  let cs ← get
  if (cs.take 3).map Char.toUpper = ['U', 'T', 'C'] then
    set (cs.drop 3)
    pure 0
  else
    let sign ← char fun c => c == 'Z' || c == 'z' || c == '+' || c == '-' || c.toNat == 0x2212
    if sign == 'Z' || sign == 'z' then pure 0
    else
      let h1 ← char Char.isDigit
      let h2 ← char Char.isDigit
      modify (List.dropWhile fun c => c == ':' || Text.isBlank c)
      let m1 ← char fun c => '0' ≤ c && c ≤ '5'
      let m2 ← char Char.isDigit
      let seconds : Int := Text.decimal [h1, h2] * 3600 + Text.decimal [m1, m2] * 60
      pure (if sign == '+' then seconds else -seconds)

/-- A timestamp with its zone. -/
def timestamp : Scan Timestamp := do
  let y ← year
  separator '-'
  let month ← twoDigits
  separator '-'
  let day ← twoDigits
  let _ ← char fun c => c == 'T' || c == 't' || c == ' '
  let hour ← twoDigits
  separator ':'
  let minute ← twoDigits
  separator ':'
  let second ← twoDigits
  let nanos ← fraction
  let ahead ← offset
  skipBlanks
  let rest ← get
  if !rest.isEmpty then failure
  else if y < -262143 ∨ 262142 < y ∨ month < 1 ∨ 12 < month then failure
  else if day < 1 ∨ daysOfMonth y month < day then failure
  else if 23 < hour ∨ 59 < minute ∨ 60 < second ∨ 86400 ≤ ahead.natAbs then failure
  else
    let leap := second = 60
    let ofDay : Int := hour * 3600 + minute * 60 + (if leap then 59 else second : Nat)
    pure ⟨daysOfDate y month day * 86400 + ofDay - ahead,
      if leap then 1000000000 + nanos else nanos⟩

/-- Reads a timestamp. -/
def read? (s : String) : Option Timestamp :=
  (timestamp.run s.toList).map Prod.fst

end Timestamp

end ContentEngine
