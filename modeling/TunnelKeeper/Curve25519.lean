/-!
The public half of a Curve25519 key pair: the base point multiplied by the clamped secret, by a
ladder over the bits of the secret that only keeps x coordinates.
-/

namespace TunnelKeeper.Curve25519

def fieldSize : Nat := Nat.pow 2 255 - 19

def sub (a b : Nat) : Nat := (a + fieldSize - b) % fieldSize

def mul (a b : Nat) : Nat := a * b % fieldSize

/-- `base ^ exponent` in the field, where `bits` are the bits of the exponent, highest first. -/
def power (base : Nat) (bits : List Bool) : Nat :=
  bits.foldl (fun acc bit => let sq := mul acc acc; if bit then mul sq base else sq) 1

/-- The lowest `count` bits of `n`, highest first. -/
def bitsOf (count n : Nat) : List Bool := (List.range count).reverse.map n.testBit

/-- The inverse of a field element, zero for zero. -/
def inverse (a : Nat) : Nat := power a (bitsOf 255 (fieldSize - 2))

/-- Two points in projective x coordinates. -/
structure Pair where
  /-- The multiple that has been reached. -/
  x2 : Nat
  z2 : Nat
  /-- The next multiple. -/
  x3 : Nat
  z3 : Nat

def Pair.swap (p : Pair) : Pair := ⟨p.x3, p.z3, p.x2, p.z2⟩

/-- Doubles the first point and adds the two, whose difference has the x coordinate `u`. -/
def Pair.double (u : Nat) (p : Pair) : Pair :=
  let a := (p.x2 + p.z2) % fieldSize
  let aa := mul a a
  let b := sub p.x2 p.z2
  let bb := mul b b
  let e := sub aa bb
  let da := mul (sub p.x3 p.z3) a
  let cb := mul ((p.x3 + p.z3) % fieldSize) b
  let s := (da + cb) % fieldSize
  let d := sub da cb
  ⟨mul aa bb, mul e ((aa + mul 121665 e) % fieldSize), mul s s, mul u (mul d d)⟩

def Pair.step (u : Nat) (p : Pair) (bit : Bool) : Pair :=
  if bit then ((p.swap).double u).swap else p.double u

/-- The x coordinate of `scalar` times the point with x coordinate `u`. -/
def multiply (scalar u : Nat) : Nat :=
  let p := (bitsOf 255 scalar).foldl (Pair.step u) ⟨1, 0, u, 1⟩
  mul p.x2 (inverse p.z2)

/-- The number that `octets` write, least significant octet first. -/
def ofOctets (octets : List UInt8) : Nat := octets.foldr (fun o n => o.toNat + 256 * n) 0

/-- The `count` octets of `n`, least significant first. -/
def toOctets : (count n : Nat) → List UInt8
  | 0, _ => []
  | count + 1, n => UInt8.ofNat (n % 256) :: toOctets count (n / 256)

/-- The scalar of a secret: its lowest three bits and its highest are cleared, and the one below
the highest is set. -/
def clamp (secret : Nat) : Nat := secret % Nat.pow 2 254 / 8 * 8 + Nat.pow 2 254

def publicOctets (secret : List UInt8) : List UInt8 :=
  toOctets 32 (multiply (clamp (ofOctets secret)) 9)

theorem length_toOctets (count n : Nat) : (toOctets count n).length = count := by
  induction count generalizing n with
  | zero => rfl
  | succ count ih => simp [toOctets, ih]

end TunnelKeeper.Curve25519
