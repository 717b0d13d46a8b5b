import TunnelKeeper.Json.Value
import TunnelKeeper.Net.AddressText

/-!
Reading JSON text. Each reader takes what it understands off the front and gives back the rest. The
readers of values call each other with `fuel`, a bound on the depth and the number of values; the
length of the text is enough of it.
-/

namespace TunnelKeeper.Json

/-- Whether `c` is white space between the tokens of JSON. -/
def isSpace (c : Char) : Bool := c = ' ' || c = '\n' || c = '\t' || c = '\r'

def skipSpace (s : List Char) : List Char := s.dropWhile isSpace

/-! ## Strings -/

/-- A UTF-16 unit of a string: a whole code point, or half of one that was escaped in two. -/
inductive Unit16
  | whole (c : Char)
  /-- The first half of a pair, as its ten bits. -/
  | high (bits : Nat)
  /-- The second half of a pair, as its ten bits. -/
  | low (bits : Nat)

def Unit16.ofNat (n : Nat) : Unit16 :=
  if 0xD800 ≤ n ∧ n < 0xDC00 then .high (n - 0xD800)
  else if 0xDC00 ≤ n ∧ n < 0xE000 then .low (n - 0xDC00)
  else .whole (Char.ofNat n)

/-- The text of units, if every half has its other half behind it. -/
def textOf? : List Unit16 → Option (List Char)
  | [] => some []
  | .whole c :: rest => (textOf? rest).map (c :: ·)
  | .high h :: .low l :: rest => (textOf? rest).map (Char.ofNat (0x10000 + 1024 * h + l) :: ·)
  | _ => none

/-- The character that a short escape stands for. -/
def shortEscape? (c : Char) : Option Char :=
  match c with
  | '"' => some '"'
  | '\\' => some '\\'
  | '/' => some '/'
  | 'b' => some (Char.ofNat 8)
  | 'f' => some (Char.ofNat 12)
  | 'n' => some '\n'
  | 'r' => some '\r'
  | 't' => some '\t'
  | _ => none

def hexFour? (a b c d : Char) : Option Nat := do
  let a ← Net.hexValue? a
  let b ← Net.hexValue? b
  let c ← Net.hexValue? c
  let d ← Net.hexValue? d
  return 4096 * a + 256 * b + 16 * c + d

/-- Reads the units of a string up to the quote that ends it. -/
def readUnits? : List Char → Option (List Unit16 × List Char)
  | '"' :: rest => some ([], rest)
  | '\\' :: 'u' :: a :: b :: c :: d :: rest => do
    let n ← hexFour? a b c d
    let (units, rest) ← readUnits? rest
    return (Unit16.ofNat n :: units, rest)
  | '\\' :: e :: rest => do
    let c ← shortEscape? e
    let (units, rest) ← readUnits? rest
    return (.whole c :: units, rest)
  | c :: rest =>
    if c.toNat < 32 ∨ c = '\\' then none
    else (readUnits? rest).map fun (units, rest) => (.whole c :: units, rest)
  | [] => none

def readString? (s : List Char) : Option (Option String × List Char) :=
  (readUnits? s).map fun (units, rest) => ((textOf? units).map String.ofList, rest)

/-! ## Numbers -/

def readDigits? (s : List Char) : Option (List Char × List Char) :=
  match s.takeWhile Char.isDigit with
  | [] => none
  | ds => some (ds, s.dropWhile Char.isDigit)

/-- Reads the digits before a point: a zero alone, or digits that begin with another one. -/
def readWhole? (s : List Char) : Option (List Char × List Char) :=
  match s with
  | '0' :: rest => if rest.head?.any Char.isDigit then none else some (['0'], rest)
  | _ => readDigits? s

/-- Reads a point and digits, if there is a point. -/
def readFraction? (s : List Char) : Option (List Char × List Char) :=
  match s with
  | '.' :: rest => (readDigits? rest).map fun (ds, rest) => ('.' :: ds, rest)
  | _ => some ([], s)

def readExponent? (s : List Char) : Option (List Char × List Char) :=
  match s with
  | e :: rest =>
    if e = 'e' ∨ e = 'E' then
      match rest with
      | sign :: digits =>
        if sign = '+' ∨ sign = '-' then
          (readDigits? digits).map fun (ds, rest) => (e :: sign :: ds, rest)
        else (readDigits? rest).map fun (ds, rest) => (e :: ds, rest)
      | [] => none
    else some ([], s)
  | [] => some ([], [])

/-- Reads a number without its sign. -/
def readMagnitude? (s : List Char) : Option (List Char × List Char) := do
  let (whole, s) ← readWhole? s
  let (fraction, s) ← readFraction? s
  let (exponent, s) ← readExponent? s
  return (whole ++ fraction ++ exponent, s)

def readNumber? (s : List Char) : Option (List Char × List Char) :=
  match s with
  | '-' :: rest => (readMagnitude? rest).map fun (literal, rest) => ('-' :: literal, rest)
  | _ => readMagnitude? s

/-! ## Values -/

def words : List (List Char × Json) :=
  [("null".toList, .null), ("true".toList, .bool true), ("false".toList, .bool false)]

def readWord? (s : List Char) : Option (Json × List Char) :=
  words.findSome? fun (word, value) => (Text.afterPrefix? word s).map fun rest => (value, rest)

mutual

/-- Reads a value, less the white space before it. -/
def readValue? (fuel : Nat) (s : List Char) : Option (Json × List Char) :=
  match fuel with
  | 0 => none
  | fuel + 1 =>
    match skipSpace s with
    | '"' :: rest => (readString? rest).map fun (text, rest) => (.string text, rest)
    | '[' :: rest =>
      match skipSpace rest with
      | ']' :: rest => some (.array [], rest)
      | rest => (readItems? fuel rest).map fun (items, rest) => (.array items, rest)
    | '\x7b' :: rest =>
      match skipSpace rest with
      | '\x7d' :: rest => some (.object [], rest)
      | rest => (readMembers? fuel rest).map fun (members, rest) => (.object members, rest)
    | s => (readWord? s).or ((readNumber? s).map fun (literal, rest) => (.number literal, rest))

/-- Reads the items of an array, of which there is at least one, and the bracket that ends it. -/
def readItems? (fuel : Nat) (s : List Char) : Option (List Json × List Char) :=
  match fuel with
  | 0 => none
  | fuel + 1 =>
    match readValue? fuel s with
    | none => none
    | some (item, rest) =>
      match skipSpace rest with
      | ']' :: rest => some ([item], rest)
      | ',' :: rest => (readItems? fuel rest).map fun (items, rest) => (item :: items, rest)
      | _ => none

/-- Reads the members of an object, of which there is at least one, and the brace that ends it. -/
def readMembers? (fuel : Nat) (s : List Char) :
    Option (List (Option String × Json) × List Char) :=
  match fuel with
  | 0 => none
  | fuel + 1 =>
    match skipSpace s with
    | '"' :: rest =>
      match readString? rest with
      | none => none
      | some (name, rest) =>
        match skipSpace rest with
        | ':' :: rest =>
          match readValue? fuel rest with
          | none => none
          | some (value, rest) =>
            match skipSpace rest with
            | '\x7d' :: rest => some ([(name, value)], rest)
            | ',' :: rest =>
              (readMembers? fuel rest).map fun (members, rest) => ((name, value) :: members, rest)
            | _ => none
        | _ => none
    | _ => none

end

/-- Reads a text that is one value, with white space around it. -/
def parse? (text : String) : Option Json :=
  let s := text.toList
  match readValue? (2 * s.length + 2) s with
  | some (value, rest) => if (skipSpace rest).isEmpty then some value else none
  | none => none

end TunnelKeeper.Json
