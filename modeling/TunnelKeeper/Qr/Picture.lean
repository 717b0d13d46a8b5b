import TunnelKeeper.Qr.Segment

/-!
The size of a picture code for a text, at the level of correction that restores about fifteen per
cent. Which of its modules are dark is not computed.
-/

namespace TunnelKeeper.Qr

/-- The numbers of octets of content that the versions 1 to 40 hold. -/
def capacities : List Nat :=
  [16, 28, 44, 64, 86, 108, 124, 154, 182, 216, 254, 290, 334, 365, 415, 453, 507, 563, 627, 669,
    714, 782, 860, 914, 1000, 1062, 1128, 1193, 1267, 1373, 1455, 1541, 1631, 1725, 1812, 1914,
    1992, 2102, 2216, 2334]

/-- The number of octets that the largest version of a class holds. -/
def SizeClass.capacity : SizeClass → Nat
  | .small => 182
  | .medium => 1062
  | .large => 2334

/-- The smallest version that holds so many bits. -/
def versionFor? (bits : Nat) : Option Nat :=
  (capacities.findIdx? fun c => bits ≤ 8 * c).map (· + 1)

/-- The version for octets: the smallest that holds them as they are written in the first class
that has room for them. -/
def version? (octets : List UInt8) : Option Nat :=
  let segments := segments octets
  [SizeClass.small, .medium, .large].findSome? fun c =>
    let bits := totalBits c segments
    if bits ≤ 8 * c.capacity then versionFor? bits else none

def modules (version : Nat) : Nat := 17 + 4 * version

/-- The side of the picture: four modules of margin all round, and modules of one size that make it
at least 256 wide. -/
def side (version : Nat) : Nat :=
  let m := modules version + 8
  m * ((256 + m - 1) / m)

/-- Why a text has no picture. -/
inductive QrError
  | dataTooLong
  deriving DecidableEq, Repr

def QrError.message : QrError → String
  | .dataTooLong => "QR encoding failed: data too long"

/-- The side of the picture for a text. -/
def pictureSide (text : String) : Except QrError Nat :=
  match version? (text.toList.flatMap String.utf8EncodeChar) with
  | some v => .ok (side v)
  | none => .error .dataTooLong

end TunnelKeeper.Qr
