import TunnelKeeper.Net.Address
import TunnelKeeper.Text.Decimal
import TunnelKeeper.Text.Quoted
import TunnelKeeper.Text.Split

/-!
The text of an address: four decimal octets, or eight hexadecimal groups of which one run of zeros
may be left out and of which the last two may be written as four octets. An octet has no leading
zeros. Printing leaves out the longest run of two or more zero groups, the first of two equal ones,
and writes the last two groups of an IPv6 address that holds an IPv4 address as four octets.

A reader takes the text it understands off the front and gives back the rest.
-/

namespace TunnelKeeper.Net

def hexValue? (c : Char) : Option Nat :=
  if '0' ≤ c ∧ c ≤ '9' then some (c.toNat - 48)
  else if 'a' ≤ c ∧ c ≤ 'f' then some (c.toNat - 87)
  else if 'A' ≤ c ∧ c ≤ 'F' then some (c.toNat - 55)
  else none

def readChar? (c : Char) : List Char → Option (List Char)
  | d :: rest => if d = c then some rest else none
  | [] => none

/-- Reads a decimal number of at most `bound`, by all the digits there are. -/
def readDecimal? (bound : Nat) (s : List Char) : Option (Nat × List Char) :=
  let digits := s.takeWhile Char.isDigit
  (Text.readDigits? digits).filter (· ≤ bound) |>.map fun n => (n, s.drop digits.length)

/-- Reads an octet: one to three digits without a leading zero. -/
def readOctet? (s : List Char) : Option (UInt8 × List Char) :=
  let digits := s.takeWhile Char.isDigit
  if digits.length ≤ 3 ∧ (digits.length ≤ 1 ∨ digits.head? ≠ some '0') then
    (readDecimal? 255 s).map fun (n, rest) => (UInt8.ofNat n, rest)
  else none

/-- Reads a group: one to four hexadecimal digits. -/
def readGroup? (s : List Char) : Option (Nat × List Char) :=
  let digits := s.takeWhile fun c => (hexValue? c).isSome
  if digits.length = 0 ∨ 4 < digits.length then none
  else some (digits.foldl (fun n c => 16 * n + (hexValue? c).getD 0) 0, s.drop digits.length)

def readV4? (s : List Char) : Option (IpAddress × List Char) := do
  let (a, s) ← readOctet? s
  let s ← readChar? '.' s
  let (b, s) ← readOctet? s
  let s ← readChar? '.' s
  let (c, s) ← readOctet? s
  let s ← readChar? '.' s
  let (d, s) ← readOctet? s
  return (IpAddress.v4 a b c d, s)

/-- What a run of groups was read as. -/
structure GroupRun where
  groups : List Nat
  /-- Whether the last two were written as four octets. -/
  endsInOctets : Bool
  rest : List Char

/-- Reads the separator of a run of groups, which the first of them does without. -/
def readSeparator? (first : Bool) (s : List Char) : Option (List Char) :=
  if first then some s else readChar? ':' s

/-- Reads as many groups as there are, at most `slots`, with a colon between them. Four octets may
take the place of two groups, and end the run. -/
def readGroups (first : Bool) : (slots : Nat) → List Char → GroupRun
  | 0, s => ⟨[], false, s⟩
  | slots + 1, s =>
    match readSeparator? first s with
    | none => ⟨[], false, s⟩
    | some t =>
      match if 0 < slots then readV4? t else none with
      | some (a, rest) => ⟨IpAddress.groups a.octets, true, rest⟩
      | none =>
        match readGroup? t with
        | none => ⟨[], false, s⟩
        | some (g, rest) =>
          let run := readGroups false slots rest
          ⟨g :: run.groups, run.endsInOctets, run.rest⟩

def groupsValue (groups : List Nat) : Nat := groups.foldl (fun n g => 65536 * n + g) 0

/-- Reads eight groups, of which a run of zeros may be left out. -/
def readV6? (s : List Char) : Option (IpAddress × List Char) :=
  let head := readGroups true 8 s
  if head.groups.length = 8 then some (IpAddress.v6 (groupsValue head.groups), head.rest)
  else if head.endsInOctets then none
  else do
    let rest ← readChar? ':' head.rest
    let rest ← readChar? ':' rest
    let tail := readGroups true (7 - head.groups.length) rest
    let gap := 8 - head.groups.length - tail.groups.length
    return (IpAddress.v6 (groupsValue (head.groups ++ List.replicate gap 0 ++ tail.groups)), tail.rest)

def readIp? (s : List Char) : Option (IpAddress × List Char) := (readV4? s).or (readV6? s)

/-- What a reader makes of a text that it has to take as a whole. -/
def whole? {α : Type} (reader : List Char → Option (α × List Char)) (s : List Char) : Option α :=
  match reader s with
  | some (a, []) => some a
  | _ => none

/-- The length and the position of the longest run of zeros, the first of equal ones; `best` is the
longest so far, `run` the one that is being counted, which began at `start`, and `i` the position
reached. -/
def longestZeros : (groups : List Nat) → (i start run : Nat) → (best : Nat × Nat) → Nat × Nat
  | [], _, _, _, best => best
  | g :: rest, i, start, run, best =>
    if g = 0 then
      let start := if run = 0 then i else start
      let run := run + 1
      longestZeros rest (i + 1) start run (if best.1 < run then (run, start) else best)
    else longestZeros rest (i + 1) 0 0 best

def groupsText (groups : List Nat) : String :=
  Text.join ":" (groups.map fun g => String.ofList (Text.hexDigits g))

/-- Four octets in decimal, with points between them. -/
def octetsText (octets : List UInt8) : String :=
  Text.join "." (octets.map fun o => Text.decimal o.toNat)

end TunnelKeeper.Net

namespace TunnelKeeper.IpAddress

open TunnelKeeper.Net

def parse? (s : List Char) : Option IpAddress := whole? readIp? s

def text (a : IpAddress) : String :=
  match a.family with
  | .v4 => octetsText a.octets
  | .v6 =>
    let gs := groups a.octets
    if gs.take 6 = [0, 0, 0, 0, 0, 65535] then "::ffff:" ++ octetsText (a.octets.drop 12)
    else
      let (length, start) := longestZeros gs 0 0 0 (0, 0)
      if 1 < length then
        groupsText (gs.take start) ++ "::" ++ groupsText (gs.drop (start + length))
      else groupsText gs

instance : ToString IpAddress := ⟨text⟩

end TunnelKeeper.IpAddress
