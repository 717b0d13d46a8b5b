import TunnelKeeper.Net.AddressText

/-!
# Digits read back

A reader of numbers takes all the digits there are, so what it makes of a printed number depends on
what follows: `Stops p s` says that `s` does not go on with a character in `p`. Under it the decimal
digits of a number (`readDigits?_toDigits`) and the hexadecimal digits of a group (`readGroup?_hex`)
read back as the number.
-/

namespace TunnelKeeper.Text

/-! ## Where a run of characters ends -/

/-- `s` does not begin with a character in `p`. -/
def Stops (p : Char → Bool) (s : List Char) : Prop := ∀ c ∈ s.head?, p c = false

theorem stops_nil (p : Char → Bool) : Stops p [] := by simp [Stops]

theorem stops_cons {p : Char → Bool} {c : Char} {s : List Char} (h : p c = false) :
    Stops p (c :: s) := by simp [Stops, h]

theorem takeWhile_append_of_stops {p : Char → Bool} {ds rest : List Char}
    (hd : ∀ c ∈ ds, p c = true) (hr : Stops p rest) : (ds ++ rest).takeWhile p = ds := by
  rw [List.takeWhile_append_of_pos hd]
  cases rest with
  | nil => simp
  | cons c rest => rw [List.takeWhile_cons_of_neg (by simp [hr c (by simp)]), List.append_nil]

theorem takeWhile_of_stops {p : Char → Bool} {s : List Char} (h : Stops p s) :
    s.takeWhile p = [] :=
  takeWhile_append_of_stops (List.forall_mem_nil _) h

/-! ## Decimal digits -/

theorem isDigit_of_mem_toDigits {n : Nat} {c : Char} (h : c ∈ Nat.toDigits 10 n) :
    c.isDigit = true :=
  Nat.isDigit_of_mem_toDigits (by decide) (by decide) h

theorem digitsValue_toDigits (n : Nat) : digitsValue 0 (Nat.toDigits 10 n) = n :=
  Nat.ofDigitChars_ten_toDigits

theorem readDigits?_toDigits (n : Nat) : readDigits? (Nat.toDigits 10 n) = some n := by
  have hall : (Nat.toDigits 10 n).all Char.isDigit = true :=
    List.all_eq_true.2 fun c hc => isDigit_of_mem_toDigits hc
  simp [readDigits?, hall, Nat.toDigits_ne_nil, digitsValue_toDigits]

/-- Only zero has a leading zero. -/
theorem head?_toDigits {n : Nat} (h : 0 < n) : (Nat.toDigits 10 n).head? ≠ some '0' := by
  induction n using Nat.strongRecOn with
  | ind n ih =>
    rw [Nat.toDigits_eq_if (by decide)]
    split
    · rename_i hn
      have : ∀ m : Fin 10, 0 < m.val → [m.val.digitChar].head? ≠ some '0' := by decide
      exact this ⟨n, hn⟩ h
    · rename_i hn
      have hfront := ih (n / 10) (by omega) (by omega)
      have hne : Nat.toDigits 10 (n / 10) ≠ [] := Nat.toDigits_ne_nil
      rw [List.head?_append]
      cases hd : (Nat.toDigits 10 (n / 10)).head? with
      | none => exact absurd (List.head?_eq_none_iff.1 hd) hne
      | some c => rwa [hd] at hfront

/-- A number within its bound reads back, without a sign before it. -/
theorem readNat?_toDigits {bound n : Nat} (h : n ≤ bound) :
    readNat? bound (Nat.toDigits 10 n) = some n := by
  unfold readNat?
  split
  · rename_i rest hs
    have : ('+' : Char).isDigit = true :=
      isDigit_of_mem_toDigits (n := n) (by rw [hs]; exact List.mem_cons_self)
    exact absurd this (by decide)
  · show (readDigits? (Nat.toDigits 10 n)).filter _ = _
    rw [readDigits?_toDigits, Option.filter_some, if_pos (by simpa using h)]

/-! ## Hexadecimal digits -/

/-- The digit of a value below sixteen. -/
theorem hexValue?_digitChar {d : Nat} (h : d < 16) : Net.hexValue? d.digitChar = some d := by
  have : ∀ d : Fin 16, Net.hexValue? d.val.digitChar = some d.val := by decide
  exact this ⟨d, h⟩

theorem hexDigits_step (n : Nat) (h : 16 ≤ n) :
    hexDigits n = hexDigits (n / 16) ++ [(n % 16).digitChar] := by
  unfold hexDigits
  rw [Nat.toDigits_of_base_le (by decide) h]

theorem hexDigits_small {n : Nat} (h : n < 16) : hexDigits n = [n.digitChar] :=
  Nat.toDigits_of_lt_base h

theorem exists_of_mem_hexDigits {n : Nat} {c : Char} (h : c ∈ hexDigits n) :
    ∃ d < 16, c = d.digitChar := by
  induction n using Nat.strongRecOn with
  | ind n ih =>
    by_cases hn : n < 16
    · rw [hexDigits_small hn, List.mem_singleton] at h
      exact ⟨n, hn, h⟩
    · rw [hexDigits_step n (by omega), List.mem_append, List.mem_singleton] at h
      rcases h with h | h
      · exact ih (n / 16) (by omega) h
      · exact ⟨n % 16, by omega, h⟩

theorem isSome_hexValue?_of_mem {n : Nat} {c : Char} (h : c ∈ hexDigits n) :
    (Net.hexValue? c).isSome = true := by
  obtain ⟨d, hd, rfl⟩ := exists_of_mem_hexDigits h
  rw [hexValue?_digitChar hd]
  rfl

/-- The value of the digits is the number. -/
theorem foldl_hexDigits (n : Nat) :
    (hexDigits n).foldl (fun m c => 16 * m + (Net.hexValue? c).getD 0) 0 = n := by
  induction n using Nat.strongRecOn with
  | ind n ih =>
    by_cases hn : n < 16
    · rw [hexDigits_small hn]
      simp [hexValue?_digitChar hn]
    · rw [hexDigits_step n (by omega), List.foldl_append, ih (n / 16) (by omega)]
      simp only [List.foldl_cons, List.foldl_nil,
        hexValue?_digitChar (show n % 16 < 16 by omega), Option.getD_some]
      omega

theorem hexDigits_ne_nil (n : Nat) : hexDigits n ≠ [] := Nat.toDigits_ne_nil

theorem length_hexDigits_le {n : Nat} (h : n < 65536) : (hexDigits n).length ≤ 4 :=
  (Nat.length_toDigits_le_iff (by decide) (by decide)).2 h

end TunnelKeeper.Text

namespace TunnelKeeper.Net

open Text

/-- Whether `c` is a hexadecimal digit. -/
def isHex (c : Char) : Bool := (hexValue? c).isSome

/-- A group reads back where no further digit follows it. -/
theorem readGroup?_hex {g : Nat} {rest : List Char} (hg : g < 65536) (hr : Stops isHex rest) :
    readGroup? (hexDigits g ++ rest) = some (g, rest) := by
  have htake : (hexDigits g ++ rest).takeWhile (fun c => (hexValue? c).isSome) = hexDigits g :=
    takeWhile_append_of_stops (p := isHex) (fun c hc => isSome_hexValue?_of_mem hc) hr
  have hlen := length_hexDigits_le hg
  have hpos : (hexDigits g).length ≠ 0 := by simpa using hexDigits_ne_nil g
  unfold readGroup?
  simp only [htake, List.drop_left, foldl_hexDigits]
  rw [if_neg (by omega)]

end TunnelKeeper.Net
