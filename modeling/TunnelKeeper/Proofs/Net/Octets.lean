import Mathlib.Tactic.Ring
import TunnelKeeper.Net.Octets

/-!
# Octets as numbers

Octets write numbers, most significant octet first, and each number below `256 ^ count` has one form in
`count` octets (`ofNat_toNat`). Adding one to octets adds one to the number, up to what is carried out
(`toNat_increment`), and that is something only where every octet is full (`increment_snd_iff_replicate`).
A mask of leading bits keeps the number's multiple of a power of two, whether the bits after them are
cleared or set (`toNat_keep_mask`, `toNat_fill_mask`).
-/

namespace TunnelKeeper.Octets

/-! ## Numbers -/

theorem foldl_toNat (n : Nat) (os : List UInt8) :
    os.foldl (fun n o => 256 * n + o.toNat) n = n * 256 ^ os.length + toNat os := by
  induction os generalizing n with
  | nil => simp [toNat]
  | cons o os ih =>
    rw [toNat, List.foldl_cons, List.foldl_cons, ih, ih (256 * 0 + o.toNat), List.length_cons,
      Nat.pow_succ]
    grind

theorem toNat_cons (o : UInt8) (os : List UInt8) :
    toNat (o :: os) = o.toNat * 256 ^ os.length + toNat os := by
  rw [toNat, List.foldl_cons, foldl_toNat]
  simp

theorem toNat_lt (os : List UInt8) : toNat os < 256 ^ os.length := by
  induction os with
  | nil => simp [toNat]
  | cons o os ih =>
    have ho : o.toNat ≤ 255 := by have := o.toNat_lt; omega
    rw [toNat_cons, List.length_cons, Nat.pow_succ]
    have := Nat.mul_le_mul_right (256 ^ os.length) ho
    omega

/-- The octets of the number that octets write are those octets. -/
theorem ofNat_toNat (os : List UInt8) : ofNat os.length (toNat os) = os := by
  induction os with
  | nil => rfl
  | cons o os ih =>
    have hlt := toNat_lt os
    have hpos : 0 < 256 ^ os.length := Nat.pow_pos (by decide)
    have hdiv : toNat (o :: os) / 256 ^ os.length = o.toNat := by
      rw [toNat_cons, Nat.mul_comm, Nat.mul_add_div hpos, Nat.div_eq_of_lt hlt, Nat.add_zero]
    have hmod : toNat (o :: os) % 256 ^ os.length = toNat os := by
      rw [toNat_cons, Nat.mul_comm, Nat.mul_add_mod, Nat.mod_eq_of_lt hlt]
    show UInt8.ofNat (toNat (o :: os) / 256 ^ os.length)
      :: ofNat os.length (toNat (o :: os) % 256 ^ os.length) = _
    rw [hdiv, hmod, ih, UInt8.ofNat_toNat]

/-- A number that fits the octets is what they write. -/
theorem toNat_ofNat {count n : Nat} (h : n < 256 ^ count) : toNat (ofNat count n) = n := by
  induction count generalizing n with
  | zero =>
    rw [Nat.pow_zero] at h
    rw [ofNat, Nat.lt_one_iff.1 h]
    rfl
  | succ count ih =>
    have hpos : 0 < 256 ^ count := Nat.pow_pos (by decide)
    have hhigh : n / 256 ^ count < 256 := Nat.div_lt_of_lt_mul (by rwa [Nat.pow_succ] at h)
    show toNat (UInt8.ofNat (n / 256 ^ count) :: ofNat count (n % 256 ^ count)) = n
    rw [toNat_cons, length_ofNat, ih (Nat.mod_lt n hpos), UInt8.toNat_ofNat_of_lt' hhigh,
      Nat.mul_comm, Nat.div_add_mod]

/-- Octets, as many as others, are known by their number. -/
theorem toNat_inj {os os' : List UInt8} (h : os.length = os'.length) :
    toNat os = toNat os' ↔ os = os' := by
  refine ⟨fun he => ?_, congrArg toNat⟩
  rw [← ofNat_toNat os, ← ofNat_toNat os', h, he]

/-! ## Adding one -/

/-- Octets grow by one, less what is carried out of the first of them. -/
theorem toNat_increment (os : List UInt8) :
    toNat (increment os).1 + (if (increment os).2 then 0 else 256 ^ os.length) = toNat os + 1 := by
  induction os with
  | nil => rfl
  | cons o os ih =>
    have hlen := length_increment os
    rcases hrest : increment os with ⟨sum, grown⟩
    rw [hrest] at ih hlen
    rw [increment, hrest, toNat_cons, List.length_cons, Nat.pow_succ]
    cases grown with
    | true =>
      simp only [toNat_cons, hlen]
      simp only [if_true] at ih ⊢
      omega
    | false =>
      simp only [Bool.false_eq_true, if_false] at ih ⊢
      by_cases ho : o = 255
      · simp only [ho, if_true, toNat_cons, hlen, UInt8.reduceToNat, Bool.false_eq_true, if_false]
        omega
      · have hnext : (o + 1).toNat = o.toNat + 1 := by
          have hne : o.toNat ≠ 255 := fun h => ho (UInt8.toNat_inj.1 h)
          rw [UInt8.toNat_add, UInt8.toNat_one, Nat.mod_eq_of_lt (by have := o.toNat_lt; omega)]
        simp only [ho, if_false, toNat_cons, hlen, hnext, if_true]
        rw [Nat.add_mul]
        omega

theorem increment_snd_iff {os : List UInt8} :
    (increment os).2 = false ↔ toNat os + 1 = 256 ^ os.length := by
  have hgrown := toNat_increment os
  have hlt := toNat_lt os
  have hlt' := toNat_lt (increment os).1
  rw [length_increment] at hlt'
  cases h : (increment os).2 with
  | true =>
    simp only [h, if_true, Nat.add_zero] at hgrown
    simp only [Bool.true_eq_false, false_iff]
    omega
  | false =>
    simp only [h, Bool.false_eq_true, if_false] at hgrown
    simp only [true_iff]
    omega

/-- The sum is counted modulo the least number that the octets have no room for. -/
theorem toNat_increment_mod (os : List UInt8) :
    toNat (increment os).1 = (toNat os + 1) % 256 ^ os.length := by
  have hgrown := toNat_increment os
  have hlt := toNat_lt (increment os).1
  rw [length_increment] at hlt
  rw [← hgrown]
  split
  · rw [Nat.add_zero, Nat.mod_eq_of_lt hlt]
  · rw [Nat.add_mod_right, Nat.mod_eq_of_lt hlt]

/-- Octets that are all full write the last number they have room for. -/
theorem toNat_replicate_full (count : Nat) :
    toNat (List.replicate count 255) + 1 = 256 ^ count := by
  induction count with
  | zero => rfl
  | succ count ih =>
    have hfull : (255 : UInt8).toNat = 255 := rfl
    rw [List.replicate_succ, toNat_cons, List.length_replicate, hfull, Nat.pow_succ]
    omega

theorem increment_snd_iff_replicate {os : List UInt8} :
    (increment os).2 = false ↔ os = List.replicate os.length 255 := by
  have hlen : os.length = (List.replicate os.length (255 : UInt8)).length := by
    rw [List.length_replicate]
  rw [increment_snd_iff, ← toNat_replicate_full, Nat.add_right_cancel_iff, toNat_inj hlen]

/-! ## Masks -/

theorem not_or_and (m o : UInt8) : ~~~m ||| m &&& o = ~~~m ||| o := by
  refine UInt8.toBitVec_inj.1 (BitVec.eq_of_getElem_eq fun i hi => ?_)
  simp only [UInt8.toBitVec_or, UInt8.toBitVec_not, UInt8.toBitVec_and, BitVec.getElem_or,
    BitVec.getElem_not, BitVec.getElem_and]
  rw [Bool.or_and_distrib_left, Bool.not_or_self, Bool.true_and]

/-- To set the bits that a mask does not keep, it makes no difference whether they were cleared first. -/
theorem fill_keep (m os : List UInt8) : fill m (keep m os) = fill m os := by
  induction m generalizing os with
  | nil => rfl
  | cons a m ih =>
    cases os with
    | nil => rfl
    | cons o os =>
      show (~~~a ||| a &&& o) :: fill m (keep m os) = (~~~a ||| o) :: fill m os
      rw [not_or_and, ih]

theorem toNat_highBits (n : Nat) : (highBits n).toNat = 256 - 2 ^ (8 - n) := by
  have hpos : 0 < 2 ^ (8 - n) := Nat.two_pow_pos _
  rw [highBits, UInt8.toNat_ofNat', Nat.pow_eq,
    Nat.mod_eq_of_lt (by show 256 - 2 ^ (8 - n) < 256; omega)]

/-- Of an octet, a mask of its `n` highest bits keeps those. -/
theorem toNat_highBits_and {n : Nat} (h : n ≤ 8) (o : UInt8) :
    (highBits n &&& o).toNat = 2 ^ (8 - n) * (o.toNat / 2 ^ (8 - n)) := by
  have hlow : 256 - 2 ^ (8 - n) = 2 ^ (8 - n) * (2 ^ n - 1) := by
    rw [Nat.mul_sub, ← Nat.pow_add, Nat.sub_add_cancel h, Nat.mul_one]
  rw [UInt8.toNat_and, toNat_highBits, hlow]
  refine Nat.eq_of_testBit_eq fun i => ?_
  simp only [Nat.testBit_and, Nat.testBit_two_pow_mul, Nat.testBit_two_pow_sub_one,
    Nat.testBit_div_two_pow]
  by_cases hi : 8 - n ≤ i
  · by_cases hi8 : i < 8
    · simp [hi, show i - (8 - n) < n by omega]
    · have hbit : o.toNat.testBit i = false := by
        refine Nat.testBit_lt_two_pow (Nat.lt_of_lt_of_le o.toNat_lt ?_)
        exact Nat.pow_le_pow_right (by decide) (by omega)
      simp [hi, hbit]
  · simp [hi]

/-- Of an octet, such a mask sets all others. -/
theorem toNat_highBits_or {n : Nat} (h : n ≤ 8) (o : UInt8) :
    (~~~highBits n ||| o).toNat = 2 ^ (8 - n) * (o.toNat / 2 ^ (8 - n)) + (2 ^ (8 - n) - 1) := by
  have hpos : 0 < 2 ^ (8 - n) := Nat.two_pow_pos _
  have hle : 2 ^ (8 - n) ≤ 2 ^ 8 := Nat.pow_le_pow_right (by decide) (by omega)
  have hnot : (~~~highBits n).toNat = 2 ^ (8 - n) - 1 := by
    rw [UInt8.toNat_not, toNat_highBits]
    show 256 - 1 - (256 - 2 ^ (8 - n)) = _
    omega
  rw [UInt8.toNat_or, hnot]
  refine Nat.eq_of_testBit_eq fun i => ?_
  rw [Nat.testBit_or, Nat.testBit_two_pow_sub_one,
    Nat.testBit_two_pow_mul_add _ (by omega), Nat.testBit_two_pow_sub_one, Nat.testBit_div_two_pow]
  by_cases hi : i < 8 - n
  · simp [hi]
  · simp [hi, show i - (8 - n) + (8 - n) = i by omega]

/-- What an operation on octets with a mask comes to as a number: the highest bits are kept, and the
others are those of `low`. -/
theorem toNat_zipWith_mask (g : UInt8 → UInt8 → UInt8) (low : Nat → Nat)
    (hg : ∀ n ≤ 8, ∀ o, (g (highBits n) o).toNat
      = 2 ^ (8 - n) * (o.toNat / 2 ^ (8 - n)) + low (8 - n))
    (hlow : ∀ j m, low (j + 8 * m) = low j * 256 ^ m + low (8 * m)) {bits : Nat} {os : List UInt8}
    (h : bits ≤ 8 * os.length) :
    toNat (List.zipWith g (mask os.length bits) os)
      = 2 ^ (8 * os.length - bits) * (toNat os / 2 ^ (8 * os.length - bits))
        + low (8 * os.length - bits) := by
  induction os generalizing bits with
  | nil =>
    have hnone : low 0 = 0 := by simpa using hlow 0 0
    simp [mask, toNat, hnone]
  | cons o os ih =>
    have hlen : (List.zipWith g (mask os.length (bits - 8)) os).length = os.length := by
      simp [length_mask]
    have hpow : (256 : Nat) ^ os.length = 2 ^ (8 * os.length) := by
      rw [Nat.pow_mul]
    rw [List.length_cons] at h ⊢
    rw [mask, List.zipWith_cons_cons, toNat_cons, toNat_cons, hlen, hg _ (Nat.min_le_right bits 8),
      ih (by omega)]
    have hpos : 0 < 256 ^ os.length := Nat.pow_pos (by decide)
    by_cases hb : 8 ≤ bits
    · -- The first octet is kept as it is.
      have hk : 8 * (os.length + 1) - bits = 8 * os.length - (bits - 8) := by omega
      have hnone : low 0 = 0 := by simpa using hlow 0 0
      rw [Nat.min_eq_right hb, hk]
      generalize hkey : 8 * os.length - (bits - 8) = k
      have hsplit : 256 ^ os.length = 2 ^ k * 2 ^ (8 * os.length - k) := by
        rw [hpow, ← Nat.pow_add, Nat.add_sub_cancel' (by omega)]
      have hfront : (o.toNat * 256 ^ os.length + toNat os) / 2 ^ k
          = o.toNat * 2 ^ (8 * os.length - k) + toNat os / 2 ^ k := by
        rw [hsplit, Nat.mul_left_comm, Nat.mul_add_div (Nat.two_pow_pos k)]
      rw [hfront, Nat.mul_add, Nat.mul_left_comm, ← hsplit, Nat.sub_self, Nat.pow_zero, Nat.div_one,
        Nat.one_mul, hnone, Nat.add_zero, Nat.add_assoc]
    · -- Nothing is kept of the octets after it.
      have hj : 8 * (os.length + 1) - bits = 8 - bits + 8 * os.length := by omega
      have hfront : (o.toNat * 256 ^ os.length + toNat os) / 2 ^ (8 - bits + 8 * os.length)
          = o.toNat / 2 ^ (8 - bits) := by
        rw [Nat.pow_add, ← hpow, Nat.mul_comm (2 ^ (8 - bits)), ← Nat.div_div_eq_div_mul,
          Nat.mul_comm o.toNat, Nat.mul_add_div hpos, Nat.div_eq_of_lt (toNat_lt os), Nat.add_zero]
      rw [Nat.min_eq_left (by omega), show bits - 8 = 0 by omega, Nat.sub_zero, ← hpow,
        Nat.div_eq_of_lt (toNat_lt os), hj, hfront, hlow, Nat.pow_add, ← hpow]
      ring

/-- A mask keeps the leading bits of the number and clears the others. -/
theorem toNat_keep_mask {bits : Nat} {os : List UInt8} (h : bits ≤ 8 * os.length) :
    toNat (keep (mask os.length bits) os)
      = 2 ^ (8 * os.length - bits) * (toNat os / 2 ^ (8 * os.length - bits)) :=
  toNat_zipWith_mask (fun m o => m &&& o) (fun _ => 0) (fun _ hn o => toNat_highBits_and hn o)
    (fun _ _ => by rw [Nat.zero_mul]) h

/-- A mask keeps the leading bits of the number and sets the others. -/
theorem toNat_fill_mask {bits : Nat} {os : List UInt8} (h : bits ≤ 8 * os.length) :
    toNat (fill (mask os.length bits) os)
      = 2 ^ (8 * os.length - bits) * (toNat os / 2 ^ (8 * os.length - bits))
        + (2 ^ (8 * os.length - bits) - 1) := by
  refine toNat_zipWith_mask (fun m o => ~~~m ||| o) (fun k => 2 ^ k - 1)
    (fun _ hn o => toNat_highBits_or hn o) (fun j m => ?_) h
  have hpow : (256 : Nat) ^ m = 2 ^ (8 * m) := by rw [Nat.pow_mul]
  have hpos : 2 ^ (8 * m) ≤ 2 ^ j * 2 ^ (8 * m) := Nat.le_mul_of_pos_left _ (Nat.two_pow_pos j)
  have hone : 0 < 2 ^ (8 * m) := Nat.two_pow_pos _
  rw [hpow, Nat.pow_add, Nat.sub_mul, Nat.one_mul]
  omega

end TunnelKeeper.Octets
