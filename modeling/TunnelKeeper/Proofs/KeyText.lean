import TunnelKeeper.Key
import TunnelKeeper.Proofs.Text.Trim

/-!
# The text of a key reads back

Thirty-two octets are ten groups of three and a last group of two, so their text is ten groups of
four symbols and a padded one. `Base64.decode_encode` reads such a text group by group; the symbols
are printable ASCII, so trimming and the octets of the text keep them (`Key.parse_text`).
-/

namespace TunnelKeeper.Base64

/-! ## Symbols -/

theorem symbol_mod (n : Nat) : symbol (n % 64) = symbol n := by
  unfold symbol
  rw [Nat.mod_mod]

theorem symbolValue?_symbol (n : Nat) : symbolValue? (symbol n) = some (n % 64) := by
  have : ∀ v : Fin 64, symbolValue? (symbol v.val) = some v.val := by decide
  rw [← symbol_mod]
  exact this ⟨n % 64, Nat.mod_lt n (by decide)⟩

theorem symbol_ne_pad (n : Nat) : symbol n ≠ pad := by
  have : ∀ v : Fin 64, symbol v.val ≠ pad := by decide
  rw [← symbol_mod]
  exact this ⟨n % 64, Nat.mod_lt n (by decide)⟩

theorem symbol_bounds (n : Nat) : 33 ≤ (symbol n).toNat ∧ (symbol n).toNat < 128 := by
  have : ∀ v : Fin 64, 33 ≤ (symbol v.val).toNat ∧ (symbol v.val).toNat < 128 := by decide
  rw [← symbol_mod]
  exact this ⟨n % 64, Nat.mod_lt n (by decide)⟩

/-- The text is printable ASCII. -/
theorem bounds_of_mem_encode {os : List UInt8} {o : UInt8} (h : o ∈ encode os) :
    33 ≤ o.toNat ∧ o.toNat < 128 := by
  have hpad : 33 ≤ pad.toNat ∧ pad.toNat < 128 := by decide
  induction os using encode.induct with
  | case1 => simp [encode] at h
  | case2 a =>
    simp only [encode, List.mem_cons, List.not_mem_nil, or_false] at h
    rcases h with rfl | rfl | rfl | rfl
    · exact symbol_bounds _
    · exact symbol_bounds _
    · exact hpad
    · exact hpad
  | case3 a b =>
    simp only [encode, List.mem_cons, List.not_mem_nil, or_false] at h
    rcases h with rfl | rfl | rfl | rfl
    · exact symbol_bounds _
    · exact symbol_bounds _
    · exact symbol_bounds _
    · exact hpad
  | case4 a b c rest ih =>
    simp only [encode, List.mem_cons] at h
    rcases h with rfl | rfl | rfl | rfl | h
    · exact symbol_bounds _
    · exact symbol_bounds _
    · exact symbol_bounds _
    · exact symbol_bounds _
    · exact ih h

/-! ## Groups -/

/-- The six-bit values that whole groups of three octets are written with. -/
def sixes : List UInt8 → List Nat
  | a :: b :: c :: rest =>
    a.toNat / 4 % 64 :: (a.toNat % 4 * 16 + b.toNat / 16) % 64
      :: (b.toNat % 16 * 4 + c.toNat / 64) % 64 :: c.toNat % 64 :: sixes rest
  | _ => []

/-- The first octet of a group, from its first two values. -/
theorem first_octet (a : UInt8) {n : Nat} (h : n < 16) :
    UInt8.ofNat (a.toNat / 4 % 64 * 4 + (a.toNat % 4 * 16 + n) % 64 / 16) = a := by
  have := a.toNat_lt
  rw [show a.toNat / 4 % 64 * 4 + (a.toNat % 4 * 16 + n) % 64 / 16 = a.toNat by omega,
    UInt8.ofNat_toNat]

/-- The second octet of a group, from its second and its third value. -/
theorem second_octet (b : UInt8) {m n : Nat} (h : n < 4) :
    UInt8.ofNat ((m * 16 + b.toNat / 16) % 64 % 16 * 16 + (b.toNat % 16 * 4 + n) % 64 / 4) = b := by
  have := b.toNat_lt
  rw [show (m * 16 + b.toNat / 16) % 64 % 16 * 16 + (b.toNat % 16 * 4 + n) % 64 / 4 = b.toNat by
    omega, UInt8.ofNat_toNat]

/-- The third octet of a group, from its last two values. -/
theorem third_octet (c : UInt8) {m : Nat} :
    UInt8.ofNat ((m * 4 + c.toNat / 64) % 64 % 4 * 64 + c.toNat % 64) = c := by
  have := c.toNat_lt
  rw [show (m * 4 + c.toNat / 64) % 64 % 4 * 64 + c.toNat % 64 = c.toNat by omega,
    UInt8.ofNat_toNat]

/-- What whole groups are printed as, and read as. -/
structure Grouped (front : List UInt8) : Prop where
  /-- They are printed before what follows them. -/
  encode_append : ∀ rest, encode (front ++ rest) = encode front ++ encode rest
  /-- Three octets are four symbols. -/
  length_encode : 3 * (encode front).length = 4 * front.length
  /-- The symbols have the six-bit values. -/
  symbolValues_encode : ∀ offset, symbolValues offset (encode front) = .ok (sixes front)
  /-- The six-bit values stand for the octets. -/
  octetsOf_sixes : ∀ vs, octetsOf (sixes front ++ vs) = front ++ octetsOf vs

theorem Grouped.cons (a b c : UInt8) {rest : List UInt8} (h : Grouped rest) :
    Grouped (a :: b :: c :: rest) where
  encode_append := by
    intro tail
    simp only [List.cons_append, encode, h.encode_append]
  length_encode := by
    have := h.length_encode
    simp only [encode, List.length_cons]
    omega
  symbolValues_encode := by
    intro offset
    simp only [encode, symbolValues, symbolValue?_symbol, h.symbolValues_encode, sixes]
  octetsOf_sixes := by
    intro vs
    have hb := b.toNat_lt
    have hc := c.toNat_lt
    simp only [sixes, List.cons_append, octetsOf, h.octetsOf_sixes,
      first_octet a (show b.toNat / 16 < 16 by omega),
      second_octet b (show c.toNat / 64 < 4 by omega), third_octet c]

theorem grouped {k : Nat} {front : List UInt8} (h : front.length = 3 * k) : Grouped front := by
  induction k generalizing front with
  | zero =>
    obtain rfl : front = [] := List.eq_nil_of_length_eq_zero h
    exact ⟨fun _ => rfl, rfl, fun _ => rfl, fun _ => rfl⟩
  | succ k ih =>
    match front, h with
    | a :: b :: c :: rest, h =>
      exact .cons a b c (ih (by simp only [List.length_cons] at h; omega))

/-- Groups of three with two octets after them read back. -/
theorem decode_encode {k : Nat} {os : List UInt8} (h : os.length = 3 * k + 2) :
    decode (encode os) = .ok os := by
  obtain ⟨a, b, htail⟩ : ∃ a b, os.drop (3 * k) = [a, b] := by
    have hlen : (os.drop (3 * k)).length = 2 := by rw [List.length_drop]; omega
    match hd : os.drop (3 * k), hlen with
    | [a, b], _ => exact ⟨a, b, rfl⟩
  have hfront : Grouped (os.take (3 * k)) := grouped (k := k) (by rw [List.length_take]; omega)
  have hos : os = os.take (3 * k) ++ [a, b] := by rw [← htail, List.take_append_drop]
  generalize os.take (3 * k) = front at hfront hos
  subst hos
  have hk : front.length = 3 * k := by
    rw [List.length_append] at h
    simpa using h
  have hlen : (encode front).length = 4 * k := by have := hfront.length_encode; omega
  have htext : encode (front ++ [a, b]) = encode front
      ++ [symbol (a.toNat / 4), symbol (a.toNat % 4 * 16 + b.toNat / 16),
        symbol (b.toNat % 16 * 4), pad] := hfront.encode_append [a, b]
  have hstart : (encode (front ++ [a, b])).length = 4 * k + 4 := by
    rw [htext, List.length_append, hlen]
    rfl
  have hsuffix : readSuffix (4 * k) 0 [symbol (a.toNat / 4),
      symbol (a.toNat % 4 * 16 + b.toNat / 16), symbol (b.toNat % 16 * 4), pad]
      = .ok ⟨[a.toNat / 4 % 64, (a.toNat % 4 * 16 + b.toNat / 16) % 64, b.toNat % 16 * 4 % 64], 1⟩ := by
    simp [readSuffix, symbol_ne_pad, symbolValue?_symbol]
  have hb := b.toNat_lt
  unfold decode
  simp only [hstart]
  rw [show (4 * k + 4) % 4 = 0 by omega, show (4 * k + 4 - 1) / 4 * 4 = 4 * k by omega, htext,
    List.take_left' hlen, List.drop_left' hlen, hfront.symbolValues_encode, hsuffix]
  have hclear : b.toNat % 16 * 4 % 64 % 4 = 0 := by omega
  have hsecond := second_octet b (m := a.toNat % 4) (n := 0) (by decide)
  rw [Nat.add_zero] at hsecond
  simp only [hfront.octetsOf_sixes, octetsOf, first_octet a (show b.toNat / 16 < 16 by omega), hsecond]
  simp [spareBitsClear, hclear]

end TunnelKeeper.Base64

namespace TunnelKeeper.Key

open Text

/-! ## Keys -/

theorem utf8EncodeChar_ofNat {n : Nat} (h : n < 128) :
    String.utf8EncodeChar (Char.ofNat n) = [UInt8.ofNat n] := by
  have : ∀ n : Fin 128, String.utf8EncodeChar (Char.ofNat n.val) = [UInt8.ofNat n.val] := by decide
  exact this ⟨n, h⟩

/-- The octets of a text in ASCII. -/
theorem utf8_ascii {os : List UInt8} (h : ∀ o ∈ os, o.toNat < 128) :
    utf8 (os.map fun o => Char.ofNat o.toNat) = os := by
  induction os with
  | nil => rfl
  | cons o os ih =>
    have ho := utf8EncodeChar_ofNat (h o List.mem_cons_self)
    have hrest := ih fun p hp => h p (List.mem_cons_of_mem _ hp)
    rw [utf8] at hrest ⊢
    rw [List.map_cons, List.flatMap_cons, ho, hrest, UInt8.ofNat_toNat]
    rfl

theorem isBlank_of_mem_chars {k : Key} {c : Char} (h : c ∈ k.chars) : isBlank c = false := by
  obtain ⟨o, ho, rfl⟩ := List.mem_map.1 h
  obtain ⟨h1, h2⟩ := Base64.bounds_of_mem_encode ho
  have hval : (Char.ofNat o.toNat).toNat = o.toNat := by
    rw [Char.ofNat, dif_pos (.inl (by omega))]
    rfl
  exact isBlank_eq_false (by omega) (by omega)

/-- The text of a key reads back. -/
theorem parse_text (k : Key) : parse k.text = .ok k := by
  have hlen : k.octets.length = 3 * 10 + 2 := k.length_octets
  have hutf8 : utf8 k.chars = Base64.encode k.octets :=
    utf8_ascii fun o ho => (Base64.bounds_of_mem_encode ho).2
  have hkey : ofOctets? k.octets = some k := dif_pos k.length_octets
  rw [parse, text, String.toList_ofList, trimmed_eq fun _ h => isBlank_of_mem_chars h, hutf8,
    Base64.decode_encode hlen]
  simp only [hkey]

theorem text_inj {a b : Key} : a.text = b.text ↔ a = b := by
  constructor
  · intro h
    have : parse a.text = parse b.text := by rw [h]
    rwa [parse_text, parse_text, Except.ok.injEq] at this
  · exact congrArg text

end TunnelKeeper.Key
