/-!
Standard base64 with padding, on octets. Reading is strict: the padding has to be there, and the
bits that the last symbol does not need have to be zero. A text that is refused is refused for the
first fault in the order of `decode`.
-/

namespace TunnelKeeper.Base64

/-- The symbol for the lowest six bits of `n`. -/
def symbol (n : Nat) : UInt8 :=
  let n := n % 64
  UInt8.ofNat <|
    if n < 26 then n + 65
    else if n < 52 then n + 71
    else if n < 62 then n - 4
    else if n = 62 then 43 else 47

def symbolValue? (o : UInt8) : Option Nat :=
  let n := o.toNat
  if 65 ≤ n && n ≤ 90 then some (n - 65)
  else if 97 ≤ n && n ≤ 122 then some (n - 71)
  else if 48 ≤ n && n ≤ 57 then some (n + 4)
  else if n = 43 then some 62
  else if n = 47 then some 63
  else none

/-- The octet that pads the last group. -/
def pad : UInt8 := 61

def encode : List UInt8 → List UInt8
  | [] => []
  | [a] => [symbol (a.toNat / 4), symbol (a.toNat % 4 * 16), pad, pad]
  | [a, b] =>
    [symbol (a.toNat / 4), symbol (a.toNat % 4 * 16 + b.toNat / 16), symbol (b.toNat % 16 * 4), pad]
  | a :: b :: c :: rest =>
    symbol (a.toNat / 4) :: symbol (a.toNat % 4 * 16 + b.toNat / 16)
      :: symbol (b.toNat % 16 * 4 + c.toNat / 64) :: symbol c.toNat :: encode rest

/-- Why a text is not base64. -/
inductive DecodeError
  /-- An octet that may not stand at this offset. -/
  | invalidSymbol (octet : UInt8) (offset : Nat)
  /-- The last group has too few symbols. -/
  | invalidLength (length : Nat)
  /-- The last symbol sets bits that belong to no octet. -/
  | invalidLastSymbol (octet : UInt8) (offset : Nat)
  /-- The last group is not padded to four. -/
  | invalidPadding
  deriving DecidableEq, Repr

def DecodeError.message : DecodeError → String
  | .invalidSymbol octet offset =>
    "Invalid symbol " ++ toString octet.toNat ++ ", offset " ++ toString offset ++ "."
  | .invalidLength length => "Invalid input length: " ++ toString length
  | .invalidLastSymbol octet offset =>
    "Invalid last symbol " ++ toString octet.toNat ++ ", offset " ++ toString offset ++ "."
  | .invalidPadding => "Invalid padding"

/-- The values of symbols that start at `offset`. -/
def symbolValues (offset : Nat) : List UInt8 → Except DecodeError (List Nat)
  | [] => .ok []
  | o :: rest =>
    match symbolValue? o with
    | none => .error (.invalidSymbol o offset)
    | some v =>
      match symbolValues (offset + 1) rest with
      | .error e => .error e
      | .ok vs => .ok (v :: vs)

/-- What the last group holds. -/
structure Suffix where
  /-- The values of its symbols. -/
  values : List Nat
  /-- The number of padding octets after them. -/
  padding : Nat
  deriving DecidableEq, Repr

/-- Reads the last group, which starts at `offset`; `position` counts the symbols before `rest`.
Padding may only follow two symbols, and nothing but padding may follow it. -/
def readSuffix (offset : Nat) : (position : Nat) → (rest : List UInt8) → Except DecodeError Suffix
  | _, [] => .ok ⟨[], 0⟩
  | position, o :: rest =>
    if o = pad then
      if position < 2 then .error (.invalidSymbol o (offset + position))
      else if rest.all (· = pad) then .ok ⟨[], rest.length + 1⟩
      else .error (.invalidSymbol pad (offset + position))
    else match symbolValue? o with
      | none => .error (.invalidSymbol o (offset + position))
      | some v =>
        match readSuffix offset (position + 1) rest with
        | .error e => .error e
        | .ok s => .ok ⟨v :: s.values, s.padding⟩

/-- The octets that six-bit values stand for; the spare bits of a last partial group are dropped. -/
def octetsOf : List Nat → List UInt8
  | a :: b :: c :: d :: rest =>
    UInt8.ofNat (a * 4 + b / 16) :: UInt8.ofNat (b % 16 * 16 + c / 4)
      :: UInt8.ofNat (c % 4 * 64 + d) :: octetsOf rest
  | [a, b, c] => [UInt8.ofNat (a * 4 + b / 16), UInt8.ofNat (b % 16 * 16 + c / 4)]
  | [a, b] => [UInt8.ofNat (a * 4 + b / 16)]
  | [_] => []
  | [] => []

/-- Whether the bits of a last partial group that belong to no octet are zero. -/
def spareBitsClear : List Nat → Bool
  | [_, b] => b % 16 = 0
  | [_, _, c] => c % 4 = 0
  | _ => true

/-- Reads a text. First comes a lone last octet that is no symbol, then the groups before the last
one, then the last group from left to right, then its length, its padding and its spare bits. -/
def decode (text : List UInt8) : Except DecodeError (List UInt8) :=
  let size := text.length
  let last := text.getLastD 0
  if size % 4 = 1 && (symbolValue? last).isNone && last ≠ pad then
    .error (.invalidSymbol last (size - 1))
  else
    let start := (size - 1) / 4 * 4
    match symbolValues 0 (text.take start) with
    | .error e => .error e
    | .ok front =>
      match readSuffix start 0 (text.drop start) with
      | .error e => .error e
      | .ok suffix =>
        let symbols := suffix.values.length
        if text ≠ [] && symbols < 2 then .error (.invalidLength (start + symbols))
        else if (symbols + suffix.padding) % 4 ≠ 0 then .error .invalidPadding
        else if !spareBitsClear suffix.values then
          .error (.invalidLastSymbol ((text.drop start).getD (symbols - 1) 0) (start + symbols - 1))
        else .ok (octetsOf (front ++ suffix.values))

end TunnelKeeper.Base64
