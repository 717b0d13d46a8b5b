import TunnelKeeper.Text.Blank
import TunnelKeeper.Text.Decimal
import TunnelKeeper.Text.Split

/-!
Points in time, in seconds since 1970 in Universal Time, and their text by RFC 3339. A leap second
is the second before it with a thousand million nanoseconds or more.

Printing uses Universal Time and as few decimals as the value needs, of none, three, six and nine.
Reading takes any offset, blanks between the parts, and single digits.
-/

namespace TunnelKeeper

structure Timestamp where
  /-- Whole seconds since the first of January 1970. -/
  seconds : Int
  /-- Nanoseconds beyond them. -/
  nanoseconds : Nat
  deriving DecidableEq, Repr

namespace Timestamp

/-- The first second that a point in time may have. -/
def minSeconds : Int := -8334601228800

/-- The last second that a point in time may have. -/
def maxSeconds : Int := 8210266876799

/-- The point in time, if it is in range. -/
def make? (seconds : Int) (nanoseconds : Nat) : Option Timestamp :=
  if minSeconds ≤ seconds ∧ seconds ≤ maxSeconds ∧ nanoseconds < 2000000000 then
    some ⟨seconds, nanoseconds⟩
  else none

/-- Nanoseconds since the first of January 1970. -/
def total (t : Timestamp) : Int := t.seconds * 1000000000 + t.nanoseconds

/-! ## The calendar -/

/-- A day of the calendar. -/
structure Date where
  year : Int
  month : Nat
  day : Nat
  deriving DecidableEq, Repr

/-- Whether the year has a twenty-ninth of February. -/
def isLeapYear (y : Int) : Bool := y % 4 = 0 && (y % 100 ≠ 0 || y % 400 = 0)

def daysInMonth (y : Int) (m : Nat) : Nat :=
  if m = 2 then if isLeapYear y then 29 else 28
  else if m = 4 ∨ m = 6 ∨ m = 9 ∨ m = 11 then 30 else 31

def Date.isValid (d : Date) : Bool :=
  1 ≤ d.month && d.month ≤ 12 && 1 ≤ d.day && d.day ≤ daysInMonth d.year d.month

/-- Days since the first of January 1970. Years are counted from March, so that a leap day is the
last of its year. -/
def Date.toDays (d : Date) : Int :=
  let y := if d.month ≤ 2 then d.year - 1 else d.year
  let era := y.fdiv 400
  let yearOfEra := y - era * 400
  let dayOfYear : Int := (153 * ((d.month + 9) % 12) + 2) / 5 + d.day - 1
  era * 146097 + yearOfEra * 365 + yearOfEra / 4 - yearOfEra / 100 + dayOfYear - 719468

/-- The day that lies `days` after the first of January 1970. -/
def Date.ofDays (days : Int) : Date :=
  let z := days + 719468
  let era := z.fdiv 146097
  let dayOfEra := (z - era * 146097).toNat
  let yearOfEra := (dayOfEra - dayOfEra / 1460 + dayOfEra / 36524 - dayOfEra / 146096) / 365
  let dayOfYear := dayOfEra - (365 * yearOfEra + yearOfEra / 4 - yearOfEra / 100)
  let m := (5 * dayOfYear + 2) / 153
  let month := if m < 10 then m + 3 else m - 9
  ⟨era * 400 + yearOfEra + (if month ≤ 2 then 1 else 0), month, dayOfYear - (153 * m + 2) / 5 + 1⟩

/-! ## Printing -/

/-- A year: four digits, and a sign where that is not enough. -/
def yearText (y : Int) : String :=
  if 0 ≤ y ∧ y ≤ 9999 then Text.paddedDecimal 4 y.toNat
  else if y < 0 then "-" ++ Text.paddedDecimal 4 (-y).toNat
  else "+" ++ Text.paddedDecimal 4 y.toNat

def fractionText (nanoseconds : Nat) : String :=
  if nanoseconds = 0 then ""
  else if nanoseconds % 1000000 = 0 then "." ++ Text.paddedDecimal 3 (nanoseconds / 1000000)
  else if nanoseconds % 1000 = 0 then "." ++ Text.paddedDecimal 6 (nanoseconds / 1000)
  else "." ++ Text.paddedDecimal 9 nanoseconds

def text (t : Timestamp) : String :=
  let days := t.seconds.fdiv 86400
  let ofDay := (t.seconds - days * 86400).toNat
  let date := Date.ofDays days
  let leap := t.nanoseconds / 1000000000
  yearText date.year ++ "-" ++ Text.paddedDecimal 2 date.month ++ "-"
    ++ Text.paddedDecimal 2 date.day ++ "T" ++ Text.paddedDecimal 2 (ofDay / 3600) ++ ":"
    ++ Text.paddedDecimal 2 (ofDay / 60 % 60) ++ ":"
    ++ Text.paddedDecimal 2 (ofDay % 60 + leap)
    ++ fractionText (t.nanoseconds % 1000000000) ++ "Z"

/-! ## Reading -/

def skipBlanks (s : List Char) : List Char := s.dropWhile Text.isBlank

/-- Reads one to `width` digits, all there are of them up to that number. -/
def readNumber? (width : Nat) (s : List Char) : Option (Nat × List Char) :=
  let digits := (s.take width).takeWhile Char.isDigit
  (Text.readDigits? digits).map fun n => (n, s.drop digits.length)

/-- Reads a part of a date or a time: at most two digits, after blanks. -/
def readPart? (s : List Char) : Option (Nat × List Char) := readNumber? 2 (skipBlanks s)

/-- Reads a year: at most four digits, or any number of them behind a sign. -/
def readYear? (s : List Char) : Option (Int × List Char) :=
  match skipBlanks s with
  | '-' :: rest => (readNumber? rest.length rest).map fun (n, rest) => (-(n : Int), rest)
  | '+' :: rest => (readNumber? rest.length rest).map fun (n, rest) => ((n : Int), rest)
  | s => (readNumber? 4 s).map fun (n, rest) => ((n : Int), rest)

def readSeparator? (sep : Char) (s : List Char) : Option (List Char) :=
  Text.afterPrefix? [sep] (skipBlanks s)

/-- Reads the decimals of a second, if there are any; those beyond the ninth do not count. -/
def readFraction? (s : List Char) : Option (Nat × List Char) :=
  match s with
  | '.' :: rest =>
    (readNumber? 9 rest).map fun (n, after) =>
      (n * Nat.pow 10 (9 - (rest.length - after.length)), after.dropWhile Char.isDigit)
  | _ => some (0, s)

def readTwoDigits? : List Char → Option (Nat × List Char)
  | a :: b :: rest => (Text.readDigits? [a, b]).map fun n => (n, rest)
  | _ => none

/-- Reads an offset from Universal Time, in seconds. -/
def readOffset? (s : List Char) : Option (Int × List Char) :=
  match s with
  | c :: rest =>
    if c = 'Z' ∨ c = 'z' then some (0, rest)
    else if (s.take 3).map Char.toLower = ['u', 't', 'c'] then some (0, s.drop 3)
    else do
      let sign ← if c = '+' then some (1 : Int)
        else if c = '-' ∨ c = Char.ofNat 8722 then some (-1) else none
      let (hours, s) ← readTwoDigits? rest
      let (minutes, s) ← readTwoDigits? (s.dropWhile fun c => c = ':' || Text.isBlank c)
      if minutes < 60 ∧ hours < 24 then some (sign * (hours * 3600 + minutes * 60 : Nat), s) else none
  | [] => none

/-- Reads a date and a time of day with its offset from Universal Time. -/
def parse? (s : List Char) : Option Timestamp := do
  let (year, s) ← readYear? s
  let s ← readSeparator? '-' s
  let (month, s) ← readPart? s
  let s ← readSeparator? '-' s
  let (day, s) ← readPart? s
  let s ← match s with
    | c :: rest => if c = 'T' ∨ c = 't' ∨ c = ' ' then some rest else none
    | [] => none
  let (hour, s) ← readPart? s
  let s ← readSeparator? ':' s
  let (minute, s) ← readPart? s
  let s ← readSeparator? ':' s
  let (second, s) ← readPart? s
  let (nanoseconds, s) ← readFraction? s
  let (offset, s) ← readOffset? (skipBlanks s)
  let date : Date := ⟨year, month, day⟩
  if s.all Text.isBlank ∧ date.isValid ∧ hour < 24 ∧ minute < 60 ∧ second ≤ 60 then
    make? (date.toDays * 86400 + (hour * 3600 + minute * 60 + min second 59 : Nat) - offset)
      (nanoseconds + (if second = 60 then 1000000000 else 0))
  else none

end Timestamp

end TunnelKeeper
