import TunnelKeeper.Net.AddressText
import TunnelKeeper.Timestamp
import TunnelKeeper.Toml.Value

/-!
TOML values that are written as one word: numbers, truth values, dates and times. Digits may be
grouped by single underscores between them. A decimal number has no leading zeros.
-/

namespace TunnelKeeper.Toml

/-! ## Numbers -/

/-- Digits without the underscores between them. -/
def grouped? (isDigit : Char → Bool) (s : List Char) : Option (List Char) :=
  let groups := Text.splitOn (· = '_') s
  if groups.all fun g => g ≠ [] && g.all isDigit then some groups.flatten else none

def decimal? (s : List Char) : Option (List Char) :=
  (grouped? Char.isDigit s).filter fun ds => ds.length = 1 || ds.head? ≠ some '0'

/-- Splits off a sign, which is false for a minus. -/
def splitSign : List Char → Bool × List Char
  | '+' :: rest => (true, rest)
  | '-' :: rest => (false, rest)
  | s => (true, s)

/-- The value of a digit of a number in base `base`. -/
def digitIn? (base : Nat) (c : Char) : Option Nat := (Net.hexValue? c).filter (· < base)

/-- Reads the digits of a number in base `base`. -/
def readBase? (base : Nat) (s : List Char) : Option Nat :=
  (grouped? (fun c => (digitIn? base c).isSome) s).map fun ds =>
    ds.foldl (fun n c => base * n + (digitIn? base c).getD 0) 0

def readInteger? (s : List Char) : Option Int :=
  match s with
  | '0' :: 'x' :: rest => (readBase? 16 rest).map Int.ofNat
  | '0' :: 'o' :: rest => (readBase? 8 rest).map Int.ofNat
  | '0' :: 'b' :: rest => (readBase? 2 rest).map Int.ofNat
  | _ =>
    let (positive, rest) := splitSign s
    (decimal? rest).map fun ds =>
      let n : Int := Text.digitsValue 0 ds
      if positive then n else -n

/-- Whether an integer is in the range that is understood: 128 bits, with or without a sign. -/
def inRange (n : Int) : Bool := -Int.ofNat (Nat.pow 2 127) ≤ n && n < Int.ofNat (Nat.pow 2 128)

/-- The least whole number that is rounded to infinity as a fractional number of double
precision. -/
def infinite : Nat := Nat.pow 2 1024 - Nat.pow 2 970

/-- Whether a number is finite in double precision, by its digits and the exponent of the last of
them. The number of digits before its point decides where it is far from the limit. -/
def isFinite (digits : List Char) (exponent : Int) : Bool :=
  let digits := digits.dropWhile (· = '0')
  let size := digits.length + exponent
  if digits.isEmpty || size < 309 then true
  else if 309 < size then false
  else
    let n := Text.digitsValue 0 digits
    if 0 ≤ exponent then n * Nat.pow 10 exponent.toNat < infinite
    else n < infinite * Nat.pow 10 (-exponent).toNat

/-- Splits a number at the letter before its exponent, if it has one. -/
def splitExponent (s : List Char) : List Char × Option (List Char) :=
  match Text.splitFirst? 'e' (s.map fun c => if c = 'E' then 'e' else c) with
  | some (before, after) => (before, some after)
  | none => (s, none)

/-- Reads an exponent, which may have leading zeros. -/
def readExponent? (s : List Char) : Option Int :=
  let (positive, rest) := splitSign s
  (grouped? Char.isDigit rest).map fun ds =>
    let n : Int := Text.digitsValue 0 ds
    if positive then n else -n

/-- Whether `s` is a fractional number that is finite: digits with decimals, an exponent, or both. -/
def isDecimalFraction (s : List Char) : Bool :=
  let (mantissa, exponent) := splitExponent s
  let fraction := Text.splitFirst? '.' mantissa
  let (whole, decimals) := fraction.getD (mantissa, [])
  if fraction.isNone && exponent.isNone then false
  else
    let decimals := if fraction.isNone then some [] else grouped? Char.isDigit decimals
    match decimal? whole, decimals, exponent.elim (some 0) readExponent? with
    | some whole, some decimals, some e => isFinite (whole ++ decimals) (e - decimals.length)
    | _, _, _ => false

def isFractional (s : List Char) : Bool :=
  let (_, rest) := splitSign s
  rest = "inf".toList || rest = "nan".toList || isDecimalFraction rest

/-! ## Dates and times -/

def readFixed? (width : Nat) (s : List Char) : Option (Nat × List Char) :=
  let digits := s.take width
  if digits.length = width then (Text.readDigits? digits).map fun n => (n, s.drop width) else none

def dropDate? (s : List Char) : Option (List Char) := do
  let (year, s) ← readFixed? 4 s
  let s ← Net.readChar? '-' s
  let (month, s) ← readFixed? 2 s
  let s ← Net.readChar? '-' s
  let (day, s) ← readFixed? 2 s
  if Timestamp.Date.isValid ⟨year, month, day⟩ then some s else none

/-- Drops the decimals of a second, if there is a point. -/
def dropFraction? : List Char → Option (List Char)
  | '.' :: rest =>
    if rest.head?.any Char.isDigit then some (rest.dropWhile Char.isDigit) else none
  | s => some s

def dropTime? (s : List Char) : Option (List Char) := do
  let (hour, s) ← readFixed? 2 s
  let s ← Net.readChar? ':' s
  let (minute, s) ← readFixed? 2 s
  let s ← Net.readChar? ':' s
  let (second, s) ← readFixed? 2 s
  if hour < 24 ∧ minute < 60 ∧ second ≤ 60 then dropFraction? s else none

/-- Whether `s` is an offset from Universal Time. -/
def isOffset (s : List Char) : Bool :=
  match s with
  | [c] => c = 'Z' || c = 'z'
  | sign :: rest =>
    (sign = '+' || sign = '-') &&
      match readFixed? 2 rest with
      | some (hours, ':' :: rest) =>
        match readFixed? 2 rest with
        | some (minutes, []) => hours < 24 && minutes < 60
        | _ => false
      | _ => false
  | [] => false

/-- Whether `s` is a date, a time of day, or both, and then with or without an offset. -/
def isMoment (s : List Char) : Bool :=
  match dropDate? s with
  | some [] => true
  | some (sep :: rest) =>
    (sep = 'T' || sep = 't' || sep = ' ') &&
      (dropTime? rest).any fun rest => rest.isEmpty || isOffset rest
  | none => dropTime? s = some []

/-! ## Words -/

def ofWord? (s : List Char) : Option Toml :=
  if s = "true".toList then some (.bool true)
  else if s = "false".toList then some (.bool false)
  else if isMoment s then some .moment
  else match readInteger? s with
    | some n => if inRange n then some (.integer n) else none
    | none => if isFractional s then some .fractional else none

def isWordChar (c : Char) : Bool :=
  c.isAlphanum || c = '_' || c = '+' || c = '-' || c = '.' || c = ':'

/-- The length of the word that `s` begins with. A date and a time of day with a space between them
are one word. -/
def wordLength (s : List Char) : Nat :=
  let first := (s.takeWhile isWordChar).length
  match dropDate? (s.take first), s.drop first with
  | some [], ' ' :: d :: rest =>
    if d.isDigit then first + 1 + ((d :: rest).takeWhile isWordChar).length else first
  | _, _ => first

def readWord? (s : List Char) : Option (Toml × List Char) :=
  let n := wordLength s
  (ofWord? (s.take n)).map fun v => (v, s.drop n)

end TunnelKeeper.Toml
