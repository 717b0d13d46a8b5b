/-!
Whole numbers in decimal digits. A number that a user writes may have a plus sign and leading
zeros, and has to fit the range that its place allows.
-/

namespace TunnelKeeper.Text

/-- The value of the decimal digits `ds`, most significant first, after the digits of `n`. -/
def digitsValue (n : Nat) (ds : List Char) : Nat :=
  ds.foldl (fun n d => 10 * n + (d.toNat - 48)) n

/-- Reads a text of one or more digits. -/
def readDigits? (s : List Char) : Option Nat :=
  if s ≠ [] && s.all Char.isDigit then some (digitsValue 0 s) else none

/-- Reads a number of at most `bound`: digits, with or without a plus sign before them. -/
def readNat? (bound : Nat) (s : List Char) : Option Nat :=
  let digits := match s with
    | '+' :: rest => rest
    | _ => s
  (readDigits? digits).filter (· ≤ bound)

def decimal (n : Nat) : String := String.ofList (Nat.toDigits 10 n)

/-- The digits of `n`, with zeros before them up to `width` digits. -/
def paddedDecimal (width n : Nat) : String :=
  let ds := Nat.toDigits 10 n
  String.ofList (List.replicate (width - ds.length) '0' ++ ds)

end TunnelKeeper.Text
