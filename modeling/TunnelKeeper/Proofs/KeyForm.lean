import TunnelKeeper.Proofs.KeyText

/-!
# A key has one text

What is read as base64 is what its octets are printed as (`Base64.encode_of_decode`): the symbols give
their values back, and a last group that is not whole has the padding and the clear spare bits that the
printed one has. The octets of a text tell its characters, so a key is read from its printed text, with
white space around it, and from no other (`Key.parse_eq_ok_iff`). What all other texts have is a flaw
that one can see (`Key.Flaw`).
-/

namespace TunnelKeeper.Base64

variable {t os : List UInt8} {vs : List Nat}

/-! ## Symbols that were read -/

theorem symbol_of_symbolValue? {o : UInt8} {v : Nat} (h : symbolValue? o = some v) :
    v < 64 ∧ symbol v = o := by
  have hall : ∀ n : Fin 256, ∀ v ∈ symbolValue? (UInt8.ofNat n.val),
      v < 64 ∧ symbol v = UInt8.ofNat n.val := by decide +kernel
  have := hall ⟨o.toNat, o.toNat_lt⟩ v
  rw [UInt8.ofNat_toNat] at this
  exact this h

theorem map_symbol_of_symbolValues {offset : Nat} (h : symbolValues offset t = .ok vs) :
    (∀ v ∈ vs, v < 64) ∧ vs.map symbol = t := by
  induction t generalizing offset vs with
  | nil =>
    obtain rfl := Except.ok.inj h
    simp
  | cons o t ih =>
    rw [symbolValues] at h
    split at h
    · cases h
    · rename_i v hv
      split at h
      · cases h
      · rename_i ws hws
        obtain rfl := Except.ok.inj h
        obtain ⟨hlt, hsymbol⟩ := symbol_of_symbolValue? hv
        obtain ⟨hrest, rfl⟩ := ih hws
        exact ⟨List.forall_mem_cons.2 ⟨hlt, hrest⟩, by rw [List.map_cons, hsymbol]⟩

/-- A last group is its symbols, with the padding after them. -/
theorem map_symbol_of_readSuffix {offset position : Nat} {s : Suffix}
    (h : readSuffix offset position t = .ok s) :
    (∀ v ∈ s.values, v < 64) ∧ s.values.map symbol ++ List.replicate s.padding pad = t := by
  induction t generalizing position s with
  | nil =>
    obtain rfl := Except.ok.inj h
    simp
  | cons o t ih =>
    rw [readSuffix] at h
    split at h
    · rename_i hpad
      split at h
      · cases h
      · split at h
        · rename_i hall
          obtain rfl := Except.ok.inj h
          have ht : t = List.replicate t.length pad :=
            List.eq_replicate_iff.2 ⟨rfl, by simpa using hall⟩
          refine ⟨by simp, ?_⟩
          rw [List.map_nil, List.nil_append, List.replicate_succ, ← ht, hpad]
        · cases h
    · split at h
      · cases h
      · rename_i v hv
        split at h
        · cases h
        · rename_i s' hs'
          obtain rfl := Except.ok.inj h
          obtain ⟨hlt, hsymbol⟩ := symbol_of_symbolValue? hv
          obtain ⟨hrest, rfl⟩ := ih hs'
          refine ⟨List.forall_mem_cons.2 ⟨hlt, hrest⟩, ?_⟩
          rw [List.map_cons, List.cons_append, hsymbol]

/-! ## Printing what was read -/

/-- Four values print as their symbols. -/
theorem encode_octetsOf_cons {a b c d : Nat} (ha : a < 64) (hb : b < 64) (hc : c < 64) (hd : d < 64)
    (rest : List Nat) :
    encode (octetsOf (a :: b :: c :: d :: rest))
      = symbol a :: symbol b :: symbol c :: symbol d :: encode (octetsOf rest) := by
  have h1 : (UInt8.ofNat (a * 4 + b / 16)).toNat = a * 4 + b / 16 :=
    UInt8.toNat_ofNat_of_lt' (by show _ < 256; omega)
  have h2 : (UInt8.ofNat (b % 16 * 16 + c / 4)).toNat = b % 16 * 16 + c / 4 :=
    UInt8.toNat_ofNat_of_lt' (by show _ < 256; omega)
  have h3 : (UInt8.ofNat (c % 4 * 64 + d)).toNat = c % 4 * 64 + d :=
    UInt8.toNat_ofNat_of_lt' (by show _ < 256; omega)
  rw [octetsOf, encode, h1, h2, h3, ← symbol_mod (c % 4 * 64 + d),
    show (a * 4 + b / 16) / 4 = a by omega,
    show (a * 4 + b / 16) % 4 * 16 + (b % 16 * 16 + c / 4) / 16 = b by omega,
    show (b % 16 * 16 + c / 4) % 16 * 4 + (c % 4 * 64 + d) / 64 = c by omega,
    show (c % 4 * 64 + d) % 64 = d by omega]

/-- Whole groups of values print as their symbols, before what is printed of the values after them. -/
theorem encode_octetsOf_append {k : Nat} (h : vs.length = 4 * k) (hlt : ∀ v ∈ vs, v < 64)
    (rest : List Nat) :
    encode (octetsOf (vs ++ rest)) = vs.map symbol ++ encode (octetsOf rest) := by
  induction k generalizing vs with
  | zero =>
    obtain rfl : vs = [] := List.eq_nil_of_length_eq_zero h
    rfl
  | succ k ih =>
    match vs, h with
    | a :: b :: c :: d :: vs, h =>
      simp only [List.forall_mem_cons] at hlt
      obtain ⟨ha, hb, hc, hd, hlt⟩ := hlt
      simp only [List.cons_append, encode_octetsOf_cons ha hb hc hd, List.map_cons]
      rw [ih (by simp only [List.length_cons] at h; omega) hlt]

/-- The values of a last group print as its symbols and its padding, if its spare bits are clear. -/
theorem encode_octetsOf_last {padding : Nat} (hlt : ∀ v ∈ vs, v < 64) (hvs : 2 ≤ vs.length)
    (hgroup : vs.length + padding = 4) (hclear : spareBitsClear vs = true) :
    encode (octetsOf vs) = vs.map symbol ++ List.replicate padding pad := by
  match vs, hvs, hclear with
  | [a, b], _, hclear =>
    simp only [List.forall_mem_cons] at hlt
    obtain ⟨ha, hb, -⟩ := hlt
    obtain rfl : padding = 2 := by simp only [List.length_cons, List.length_nil] at hgroup; omega
    have hbits : b % 16 = 0 := by simpa [spareBitsClear] using hclear
    have h1 : (UInt8.ofNat (a * 4 + b / 16)).toNat = a * 4 + b / 16 :=
      UInt8.toNat_ofNat_of_lt' (by show _ < 256; omega)
    rw [octetsOf, encode, h1, show (a * 4 + b / 16) / 4 = a by omega,
      show (a * 4 + b / 16) % 4 * 16 = b by omega]
    rfl
  | [a, b, c], _, hclear =>
    simp only [List.forall_mem_cons] at hlt
    obtain ⟨ha, hb, hc, -⟩ := hlt
    obtain rfl : padding = 1 := by simp only [List.length_cons, List.length_nil] at hgroup; omega
    have hbits : c % 4 = 0 := by simpa [spareBitsClear] using hclear
    have h1 : (UInt8.ofNat (a * 4 + b / 16)).toNat = a * 4 + b / 16 :=
      UInt8.toNat_ofNat_of_lt' (by show _ < 256; omega)
    have h2 : (UInt8.ofNat (b % 16 * 16 + c / 4)).toNat = b % 16 * 16 + c / 4 :=
      UInt8.toNat_ofNat_of_lt' (by show _ < 256; omega)
    rw [octetsOf, encode, h1, h2, show (a * 4 + b / 16) / 4 = a by omega,
      show (a * 4 + b / 16) % 4 * 16 + (b % 16 * 16 + c / 4) / 16 = b by omega,
      show (b % 16 * 16 + c / 4) % 16 * 4 = c by omega]
    rfl
  | [a, b, c, d], _, _ =>
    simp only [List.forall_mem_cons] at hlt
    obtain ⟨ha, hb, hc, hd, -⟩ := hlt
    obtain rfl : padding = 0 := by simp only [List.length_cons, List.length_nil] at hgroup; omega
    rw [encode_octetsOf_cons ha hb hc hd]
    rfl
  | _ :: _ :: _ :: _ :: _ :: _, _, _ =>
    simp only [List.length_cons] at hgroup
    omega

/-- What a text has that is read: symbols of whole groups, and a last group of two symbols at least,
padded to four, whose spare bits are clear. -/
theorem of_decode (h : decode t = .ok os) :
    ∃ front suffix, symbolValues 0 (t.take ((t.length - 1) / 4 * 4)) = .ok front ∧
      readSuffix ((t.length - 1) / 4 * 4) 0 (t.drop ((t.length - 1) / 4 * 4)) = .ok suffix ∧
      (t ≠ [] → 2 ≤ suffix.values.length) ∧ (suffix.values.length + suffix.padding) % 4 = 0 ∧
      spareBitsClear suffix.values = true ∧ os = octetsOf (front ++ suffix.values) := by
  simp only [decode] at h
  split at h
  · cases h
  · split at h
    · cases h
    · rename_i front hfront
      split at h
      · cases h
      · rename_i suffix hsuffix
        split at h
        · cases h
        · rename_i hshort
          split at h
          · cases h
          · rename_i hwhole
            split at h
            · cases h
            · rename_i hclear
              refine ⟨front, suffix, hfront, hsuffix, fun ht => ?_, by simpa using hwhole,
                by simpa using hclear, (Except.ok.inj h).symm⟩
              exact Nat.le_of_not_lt fun hlt => hshort (by simp [ht, hlt])

/-- What was read is what is printed. -/
theorem encode_of_decode (h : decode t = .ok os) : encode os = t := by
  obtain ⟨front, suffix, hfront, hsuffix, hshort, hwhole, hclear, rfl⟩ := of_decode h
  obtain ⟨hfrontlt, hfronttext⟩ := map_symbol_of_symbolValues hfront
  obtain ⟨hlastlt, hlasttext⟩ := map_symbol_of_readSuffix hsuffix
  have htext : front.map symbol ++ (suffix.values.map symbol
      ++ List.replicate suffix.padding pad) = t := by
    rw [hfronttext, hlasttext, List.take_append_drop]
  by_cases ht : t = []
  · subst ht
    rw [List.append_eq_nil_iff, List.append_eq_nil_iff, List.map_eq_nil_iff,
      List.map_eq_nil_iff] at htext
    rw [htext.1, htext.2.1]
    rfl
  · have hpos : 0 < t.length := List.length_pos_iff.2 ht
    have hvalues := hshort ht
    have hfrontlen : front.length = 4 * ((t.length - 1) / 4) := by
      have := congrArg List.length hfronttext
      rw [List.length_map, List.length_take] at this
      omega
    have hlastlen : suffix.values.length + suffix.padding = t.length - 4 * ((t.length - 1) / 4) := by
      have := congrArg List.length hlasttext
      rw [List.length_append, List.length_map, List.length_replicate, List.length_drop] at this
      omega
    have hgroup : suffix.values.length + suffix.padding = 4 := by omega
    rw [encode_octetsOf_append hfrontlen hfrontlt, encode_octetsOf_last hlastlt hvalues hgroup hclear,
      htext]

end TunnelKeeper.Base64

/-! ## The characters of a key -/

namespace TunnelKeeper.Base64

variable {os : List UInt8} {vs : List Nat} {c : Char}

/-- The symbols, in the order of their values. -/
def alphabet : List Char := "ABCDEFGHIJKLMNOPQRSTUVWXYZabcdefghijklmnopqrstuvwxyz0123456789+/".toList

/-- The symbols whose lowest two bits are clear. -/
def clearSymbols : List Char := "AEIMQUYcgkosw048".toList

def symbolChar (v : Nat) : Char := Char.ofNat (symbol v).toNat

theorem mem_alphabet_iff : c ∈ alphabet ↔ ∃ v < 64, symbolChar v = c := by
  rw [show alphabet = (List.range 64).map symbolChar by decide +kernel]
  simp

theorem mem_clearSymbols_iff : c ∈ clearSymbols ↔ ∃ v < 16, symbolChar (4 * v) = c := by
  rw [show clearSymbols = (List.range 16).map fun v => symbolChar (4 * v) by decide +kernel]
  simp

theorem pad_notMem_alphabet : '=' ∉ alphabet := by decide +kernel

theorem symbolChar_mem (v : Nat) : symbolChar v ∈ alphabet := by
  refine mem_alphabet_iff.2 ⟨v % 64, Nat.mod_lt v (by decide), ?_⟩
  rw [symbolChar, symbol_mod, symbolChar]

theorem mem_alphabet_of_clear (h : c ∈ clearSymbols) : c ∈ alphabet := by
  obtain ⟨v, -, rfl⟩ := mem_clearSymbols_iff.1 h
  exact symbolChar_mem (4 * v)

theorem symbolChar_clear (v : Nat) : symbolChar (4 * v) ∈ clearSymbols := by
  refine mem_clearSymbols_iff.2 ⟨v % 16, Nat.mod_lt v (by decide), ?_⟩
  rw [symbolChar, symbolChar, ← symbol_mod (4 * v), ← symbol_mod (4 * (v % 16)),
    show 4 * (v % 16) % 64 = 4 * v % 64 by omega]

/-- Symbols have values. -/
theorem exists_values {cs : List Char} (h : ∀ c ∈ cs, c ∈ alphabet) :
    ∃ vs : List Nat, (∀ v ∈ vs, v < 64) ∧ vs.map symbolChar = cs := by
  induction cs with
  | nil => exact ⟨[], by simp, rfl⟩
  | cons c cs ih =>
    rw [List.forall_mem_cons] at h
    obtain ⟨v, hv, rfl⟩ := mem_alphabet_iff.1 h.1
    obtain ⟨vs, hvs, rfl⟩ := ih h.2
    exact ⟨v :: vs, List.forall_mem_cons.2 ⟨hv, hvs⟩, rfl⟩

/-- Groups of three octets with two after them are printed as symbols, of which the last has its lowest
two bits clear, and one pad. -/
theorem encode_two {k : Nat} (h : os.length = 3 * k + 2) :
    ∃ (vs : List Nat) (w : Nat), vs.length = 4 * k + 2 ∧
      encode os = vs.map symbol ++ [symbol (4 * w), pad] := by
  induction k generalizing os with
  | zero =>
    match os, h with
    | [a, b], _ => exact ⟨[_, _], b.toNat % 16, rfl, by rw [Nat.mul_comm 4]; rfl⟩
  | succ k ih =>
    match os, h with
    | a :: b :: c :: rest, h =>
      have hrest : rest.length = 3 * k + 2 := by simp only [List.length_cons] at h; omega
      obtain ⟨vs, w, hlen, htext⟩ := ih hrest
      refine ⟨a.toNat / 4 :: (a.toNat % 4 * 16 + b.toNat / 16) :: (b.toNat % 16 * 4 + c.toNat / 64)
        :: c.toNat :: vs, w, by simp only [List.length_cons]; omega, ?_⟩
      rw [encode, htext]
      rfl

theorem length_octetsOf (vs : List Nat) : (octetsOf vs).length = 3 * vs.length / 4 := by
  induction vs using octetsOf.induct with
  | case1 a b c d rest ih =>
    simp only [octetsOf, List.length_cons, ih]
    omega
  | case2 | case3 | case4 | case5 => simp [octetsOf]

/-- Such symbols are what the octets that they stand for are printed as. -/
theorem encode_octetsOf_two {k w : Nat} (hlen : vs.length = 4 * k + 2) (hlt : ∀ v ∈ vs, v < 64)
    (hw : w < 16) :
    encode (octetsOf (vs ++ [4 * w])) = vs.map symbol ++ [symbol (4 * w), pad] := by
  obtain ⟨a, b, hab⟩ : ∃ a b, vs.drop (4 * k) = [a, b] := by
    have hdrop : (vs.drop (4 * k)).length = 2 := by rw [List.length_drop]; omega
    match hd : vs.drop (4 * k), hdrop with
    | [a, b], _ => exact ⟨a, b, rfl⟩
  have hvs : vs.take (4 * k) ++ [a, b] = vs := by rw [← hab, List.take_append_drop]
  have hfront : (vs.take (4 * k)).length = 4 * k := by rw [List.length_take]; omega
  have hfrontlt : ∀ v ∈ vs.take (4 * k), v < 64 := fun v hv => hlt v (List.mem_of_mem_take hv)
  have hlastlt : ∀ v ∈ [a, b, 4 * w], v < 64 := by
    have ha := hlt a (hvs ▸ by simp)
    have hb := hlt b (hvs ▸ by simp)
    simp only [List.forall_mem_cons]
    exact ⟨ha, hb, by omega, by simp⟩
  have hclear : spareBitsClear [a, b, 4 * w] = true := by simp [spareBitsClear]
  have hlast : encode (octetsOf [a, b, 4 * w])
      = [a, b, 4 * w].map symbol ++ List.replicate 1 pad :=
    encode_octetsOf_last hlastlt (by simp) rfl hclear
  rw [← hvs, List.append_assoc, List.cons_append, List.singleton_append,
    encode_octetsOf_append hfront hfrontlt, hlast]
  simp

end TunnelKeeper.Base64

namespace TunnelKeeper.Key

open Text Base64

variable {s t : String} {k : Key} {cs : List Char}

/-- The octets of a text tell its characters. -/
theorem utf8_inj {a b : List Char} (h : utf8 a = utf8 b) : a = b := by
  have hbytes : (String.ofList a).toByteArray = (String.ofList b).toByteArray := by
    rw [String.toByteArray_ofList, String.toByteArray_ofList, List.utf8Encode, List.utf8Encode]
    exact congrArg _ h
  exact String.ofList_inj.1 (String.toByteArray_inj.1 hbytes)

theorem utf8_chars (k : Key) : utf8 k.chars = encode k.octets :=
  utf8_ascii fun _ ho => (bounds_of_mem_encode ho).2

theorem trimmed_text (k : Key) : trimmed k.text.toList = k.chars := by
  rw [text, String.toList_ofList, trimmed_eq fun _ h => isBlank_of_mem_chars h]

theorem octets_of_ofOctets? {os : List UInt8} (h : ofOctets? os = some k) : k.octets = os := by
  unfold ofOctets? at h
  split at h
  · rw [← Option.some.inj h]
  · cases h

/-- A text is read as a key if and only if it is the key's, less the white space around it. -/
theorem parse_eq_ok_iff : parse s = .ok k ↔ trim s = k.text := by
  have htrim : trim s = k.text ↔ trimmed s.toList = k.chars := by
    rw [trim, text, String.ofList_inj]
  rw [htrim]
  constructor
  · intro h
    unfold parse at h
    split at h
    · cases h
    · rename_i os hos
      split at h
      · rename_i k' hk'
        obtain rfl := Except.ok.inj h
        refine utf8_inj ?_
        rw [utf8_chars, octets_of_ofOctets? hk', encode_of_decode hos]
      · cases h
  · intro h
    rw [← parse_text k, parse, parse, h, trimmed_text]

/-! ## Texts of keys, and texts of none -/

/-- Forty-two symbols, one symbol with its lowest two bits clear, and one pad. -/
def HasForm (cs : List Char) : Prop :=
  ∃ front last, cs = front ++ [last, '='] ∧ front.length = 42 ∧ (∀ c ∈ front, c ∈ alphabet) ∧
    last ∈ clearSymbols

theorem hasForm_chars (k : Key) : HasForm k.chars := by
  have hlen : k.octets.length = 3 * 10 + 2 := k.length_octets
  obtain ⟨vs, w, hvs, htext⟩ := encode_two hlen
  refine ⟨vs.map symbolChar, symbolChar (4 * w), ?_, by rw [List.length_map, hvs], fun c hc => ?_,
    symbolChar_clear w⟩
  · rw [chars, htext, List.map_append, List.map_map]
    rfl
  · obtain ⟨v, -, rfl⟩ := List.mem_map.1 hc
    exact symbolChar_mem v

theorem exists_chars (h : HasForm cs) : ∃ k : Key, k.chars = cs := by
  obtain ⟨front, last, rfl, hlen, hfront, hlast⟩ := h
  obtain ⟨vs, hlt, rfl⟩ := exists_values hfront
  obtain ⟨w, hw, rfl⟩ := mem_clearSymbols_iff.1 hlast
  have hvs : vs.length = 4 * 10 + 2 := by simpa using hlen
  have hkey : (octetsOf (vs ++ [4 * w])).length = 32 := by
    rw [length_octetsOf, List.length_append, hvs, List.length_singleton]
  refine ⟨⟨octetsOf (vs ++ [4 * w]), hkey⟩, ?_⟩
  rw [chars, encode_octetsOf_two hvs hlt hw, List.map_append, List.map_map]
  rfl

/-- What one can see that keeps a text, less the white space around it, from being a key's. -/
inductive Flaw (cs : List Char) : Prop
  /-- Thirty-two octets are written with another number of characters. -/
  | length (h : cs.length ≠ 44)
  | unpadded (h : cs.getLast? ≠ some '=')
  /-- There is padding before the last character. -/
  | overpadded (h : '=' ∈ cs.dropLast)
  | foreign {c : Char} (mem : c ∈ cs.dropLast) (not_pad : c ≠ '=') (h : c ∉ alphabet)
  /-- The last symbol sets bits that belong to no octet. -/
  | spareBits {c : Char} (last : cs[42]? = some c) (mem : c ∈ alphabet) (h : c ∉ clearSymbols)

theorem HasForm.not_flaw (h : HasForm cs) : ¬ Flaw cs := by
  obtain ⟨front, last, rfl, hlen, hfront, hlast⟩ := h
  have hbody : (front ++ [last, '=']).dropLast = front ++ [last] := by simp
  have hsymbols : ∀ c ∈ front ++ [last], c ∈ alphabet := by
    simpa [or_imp, forall_and] using ⟨hfront, mem_alphabet_of_clear hlast⟩
  intro hflaw
  cases hflaw with
  | length h => simp [hlen] at h
  | unpadded h => simp at h
  | overpadded h => exact pad_notMem_alphabet (hsymbols _ (hbody ▸ h))
  | foreign mem _ h => exact h (hsymbols _ (hbody ▸ mem))
  | spareBits hc _ h =>
    rw [List.getElem?_append_right (by omega), hlen] at hc
    obtain rfl := Option.some.inj hc
    exact h hlast

theorem hasForm_of_not_flaw (h : ¬ Flaw cs) : HasForm cs := by
  have hlen : cs.length = 44 := Decidable.not_not.1 fun hlen => h (.length hlen)
  have hpad : cs.getLast? = some '=' := Decidable.not_not.1 fun hpad => h (.unpadded hpad)
  obtain ⟨body, rfl⟩ := List.getLast?_eq_some_iff.1 hpad
  have hbody : (body ++ ['=']).dropLast = body := by simp
  have hsymbols : ∀ c ∈ body, c ∈ alphabet := by
    intro c hc
    by_cases hpad : c = '='
    · exact absurd (.overpadded (hbody.symm ▸ hpad ▸ hc)) h
    · exact Decidable.not_not.1 fun hforeign => h (.foreign (hbody.symm ▸ hc) hpad hforeign)
  rw [List.length_append, List.length_singleton] at hlen
  obtain ⟨front, last, rfl⟩ : ∃ front last, body = front ++ [last] :=
    ⟨_, _, (List.dropLast_concat_getLast (List.ne_nil_of_length_pos (by omega))).symm⟩
  rw [List.length_append, List.length_singleton] at hlen
  have hlast : (front ++ [last] ++ ['='])[42]? = some last := by
    rw [List.append_assoc, List.getElem?_append_right (by omega), show front.length = 42 by omega]
    rfl
  refine ⟨front, last, by simp, by omega, fun c hc => hsymbols c (by simp [hc]), ?_⟩
  exact Decidable.not_not.1 fun hbits => h (.spareBits hlast (hsymbols last (by simp)) hbits)

/-- A text is read as a key if and only if, less the white space around it, it is the key's printed
text. So a printed key reads back, and two texts of one key differ in the white space around them.
Every other text is refused, and it has a flaw: too few or too many characters, no padding or more
than one pad, something that is no symbol, or a last symbol with bits that no octet has. -/
theorem one_text :
    (∀ (s : String) (k : Key), parse s = .ok k ↔ trim s = k.text) ∧
    (∀ k : Key, parse k.text = .ok k) ∧
    (∀ (s t : String) (k : Key), parse s = .ok k → parse t = .ok k → trim s = trim t) ∧
    (∀ s : String, (∃ e, parse s = .error e) ↔ Flaw (trimmed s.toList)) := by
  refine ⟨fun s k => parse_eq_ok_iff, parse_text, fun s t k hs ht => ?_, fun s => ?_⟩
  · rw [parse_eq_ok_iff.1 hs, parse_eq_ok_iff.1 ht]
  · constructor
    · rintro ⟨e, he⟩
      refine Classical.byContradiction fun hflaw => ?_
      obtain ⟨k, hk⟩ := exists_chars (hasForm_of_not_flaw hflaw)
      have hread : parse s = .ok k := by rw [parse_eq_ok_iff, trim, text, hk]
      rw [hread] at he
      cases he
    · intro hflaw
      cases hread : parse s with
      | error e => exact ⟨e, rfl⟩
      | ok k =>
        have htext : trimmed s.toList = k.chars := String.ofList_inj.1 (parse_eq_ok_iff.1 hread)
        exact absurd (htext ▸ hflaw) (hasForm_chars k).not_flaw

end TunnelKeeper.Key

/-! ## Texts of one key -/

namespace TunnelKeeper.Sample

open Key

/-- A key's text between a line break and a no-break space. -/
def spacedText : String := "\nAQEBAQEBAQEBAQEBAQEBAQEBAQEBAQEBAQEBAQEBAQE=\u00a0"

def plainText : String := "AQEBAQEBAQEBAQEBAQEBAQEBAQEBAQEBAQEBAQEBAQE="

/-- The same symbols, but the last of them sets its lowest bit. -/
def spareText : String := "AQEBAQEBAQEBAQEBAQEBAQEBAQEBAQEBAQEBAQEBAQF="

theorem one_text_spaced :
    (parse spacedText = .ok ⟨List.replicate 32 1, by decide⟩ ∧
      Text.trim spacedText = Text.trim plainText) ∧
    ∃ e, parse spareText = .error e := by
  obtain ⟨hiff, -, hsame, hrefused⟩ := one_text
  have hspaced : parse spacedText = .ok ⟨List.replicate 32 1, by decide⟩ :=
    (hiff _ _).2 (by decide +kernel)
  have hplain : parse plainText = .ok ⟨List.replicate 32 1, by decide⟩ :=
    (hiff _ _).2 (by decide +kernel)
  have hbits : (Text.trimmed spareText.toList)[42]? = some 'F' := by decide +kernel
  exact ⟨⟨hspaced, hsame _ _ _ hspaced hplain⟩,
    (hrefused _).2 (.spareBits hbits (by decide +kernel) (by decide +kernel))⟩

end TunnelKeeper.Sample
