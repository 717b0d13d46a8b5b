import TunnelKeeper.Net.AddressText
import Std.Data.ExtTreeMap

/-!
Identifiers of sixteen octets. They are printed in one way, thirty-two lower-case hexadecimal digits
in five groups, and read in several: with or without the hyphens, in braces, or behind the prefix of
their URN, in either case.
-/

namespace TunnelKeeper

structure Uuid where
  octets : List UInt8
  length_octets : octets.length = 16
  deriving DecidableEq

namespace Uuid

/-- The identifier whose octets are all zero. -/
def nil : Uuid := ⟨List.replicate 16 0, by simp⟩

instance : Inhabited Uuid := ⟨nil⟩

/-- Identifiers are ordered by their octets, which is the order of their texts. -/
instance : Ord Uuid := ⟨fun a b => compare a.octets b.octets⟩

instance : Std.TransOrd Uuid where
  eq_swap := by
    intro a b
    exact Std.OrientedOrd.eq_swap (a := a.octets) (b := b.octets)
  isLE_trans := by
    intro a b c h h'
    exact Std.TransOrd.isLE_trans (a := a.octets) (b := b.octets) (c := c.octets) h h'

instance : Std.LawfulEqOrd Uuid where
  eq_of_compare := by
    intro a b h
    have : a.octets = b.octets := Std.LawfulEqOrd.eq_of_compare h
    cases a; cases b; simp_all

/-- The lower-case hexadecimal digit of a value below sixteen. -/
def digit (n : Nat) : Char := Char.ofNat (if n < 10 then n + 48 else n + 87)

def octetDigits (o : UInt8) : List Char := [digit (o.toNat / 16), digit (o.toNat % 16)]

/-- The characters of the text of an identifier. -/
def chars (u : Uuid) : List Char :=
  let ds := u.octets.flatMap octetDigits
  ds.take 8 ++ '-' :: (ds.drop 8).take 4 ++ '-' :: (ds.drop 12).take 4 ++ '-'
    :: (ds.drop 16).take 4 ++ '-' :: ds.drop 20

def text (u : Uuid) : String := String.ofList u.chars

instance : ToString Uuid := ⟨text⟩

/-- The octets that pairs of hexadecimal digits write. -/
def octetsOf? : List Char → Option (List UInt8)
  | [] => some []
  | a :: b :: rest => do
    let high ← Net.hexValue? a
    let low ← Net.hexValue? b
    let octets ← octetsOf? rest
    return UInt8.ofNat (16 * high + low) :: octets
  | [_] => none

def parseSimple? (s : List Char) : Option Uuid :=
  match octetsOf? s with
  | some octets => if h : octets.length = 16 then some ⟨octets, h⟩ else none
  | none => none

/-- Reads digits in groups of eight, four, four, four and twelve, with hyphens between them. -/
def parseHyphenated? (s : List Char) : Option Uuid :=
  match Text.splitOn (· = '-') s with
  | [a, b, c, d, e] =>
    if a.length = 8 ∧ b.length = 4 ∧ c.length = 4 ∧ d.length = 4 ∧ e.length = 12 then
      parseSimple? (a ++ b ++ c ++ d ++ e)
    else none
  | _ => none

/-- The text before an identifier in its URN. -/
def urnStart : List Char := "urn:uuid:".toList

/-- Reads an identifier in any of its forms. -/
def parse? (s : List Char) : Option Uuid :=
  if s.length = 32 then parseSimple? s
  else if s.length = 38 then
    if s.head? = some '\x7b' ∧ s.getLast? = some '\x7d' then parseHyphenated? (s.drop 1).dropLast
    else none
  else if s.length = 45 then
    if (s.take 9).map Char.toLower = urnStart then parseHyphenated? (s.drop 9) else none
  else parseHyphenated? s

end Uuid

end TunnelKeeper
