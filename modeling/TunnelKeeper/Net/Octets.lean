/-!
Numbers written as octets, most significant octet first, and the bit masks over them. These are the
operations that addresses of every size share.
-/

namespace TunnelKeeper.Octets

def toNat (os : List UInt8) : Nat := os.foldl (fun n o => 256 * n + o.toNat) 0

/-- The `count` octets of `n`; what does not fit is dropped. -/
def ofNat : (count n : Nat) → List UInt8
  | 0, _ => []
  | count + 1, n => UInt8.ofNat (n / Nat.pow 256 count) :: ofNat count (n % Nat.pow 256 count)

/-- Adds one, carrying from the last octet. The flag is false where every octet was full, so that
the sum starts again at zero. -/
def increment : List UInt8 → List UInt8 × Bool
  | [] => ([], false)
  | o :: os =>
    match increment os with
    | (sum, true) => (o :: sum, true)
    | (sum, false) => if o = 255 then (0 :: sum, false) else ((o + 1) :: sum, true)

/-- An octet whose highest `n` bits are set, of at most eight. -/
def highBits (n : Nat) : UInt8 := UInt8.ofNat (256 - Nat.pow 2 (8 - n))

/-- The mask of `count` octets whose first `bits` bits are set. -/
def mask : (count bits : Nat) → List UInt8
  | 0, _ => []
  | count + 1, bits => highBits (min bits 8) :: mask count (bits - 8)

def keep (m os : List UInt8) : List UInt8 := List.zipWith (fun a b => a &&& b) m os

/-- `os` with every bit set that `m` does not keep. -/
def fill (m os : List UInt8) : List UInt8 := List.zipWith (fun a b => ~~~a ||| b) m os

theorem length_ofNat (count n : Nat) : (ofNat count n).length = count := by
  induction count generalizing n with
  | zero => rfl
  | succ count ih => simp [ofNat, ih]

theorem length_increment (os : List UInt8) : (increment os).1.length = os.length := by
  induction os with
  | nil => rfl
  | cons o os ih =>
    unfold increment
    split
    · rename_i sum h
      simpa [h] using ih
    · rename_i sum h
      split <;> simpa [h] using ih

theorem length_mask (count bits : Nat) : (mask count bits).length = count := by
  induction count generalizing bits with
  | zero => rfl
  | succ count ih => simp [mask, ih]

theorem length_keep (m os : List UInt8) (h : m.length = os.length) :
    (keep m os).length = os.length := by
  simp [keep, h]

theorem length_fill (m os : List UInt8) (h : m.length = os.length) :
    (fill m os).length = os.length := by
  simp [fill, h]

end TunnelKeeper.Octets
