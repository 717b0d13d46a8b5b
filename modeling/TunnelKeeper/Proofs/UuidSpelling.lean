import TunnelKeeper.Proofs.UuidText

/-!
# The spellings of an identifier

An identifier has four forms: its digits together, its text, its text in braces, and its text after
the start of its URN (`Uuid.forms`). A text is read as the identifier if and only if it is one of
them, with its letters in either case (`Uuid.parse?_eq_some_iff`): reading does not tell the cases
apart (`Uuid.parse?_map_toLower`), and the digits that were read are those that are printed, up to
case (`Uuid.map_toLower_of_octetsOf?`).
-/

namespace TunnelKeeper.Uuid

open Text

variable {c d : Char} {v : Nat} {s : List Char} {os : List UInt8} {u : Uuid}

/-! ## Letters in either case -/

/-- A property of characters is known by its ASCII ones and by those after them. -/
theorem forall_char {P : Char → Prop} (hascii : ∀ n : Fin 128, P (Char.ofNat n.val))
    (hrest : ∀ c : Char, 128 ≤ c.toNat → P c) (c : Char) : P c := by
  by_cases hc : c.toNat < 128
  · simpa using hascii ⟨c.toNat, hc⟩
  · exact hrest c (by omega)

theorem toLower_of_le (h : 128 ≤ c.toNat) : c.toLower = c := by
  refine dif_neg fun hupper => ?_
  have : c.toNat ≤ 90 := UInt32.le_iff_toNat_le.1 hupper.2
  omega

theorem toLower_toLower (c : Char) : c.toLower.toLower = c.toLower := by
  refine forall_char (P := fun c => c.toLower.toLower = c.toLower) (by decide +kernel) ?_ c
  intro c hc
  rw [toLower_of_le hc, toLower_of_le hc]

/-- The characters around the digits have one case. -/
theorem toLower_eq_iff (hd : d ∈ ['-', '\x7b', '\x7d']) : c.toLower = d ↔ c = d := by
  have hall : ∀ c : Char, (c.toLower = '-' ↔ c = '-') ∧ (c.toLower = '\x7b' ↔ c = '\x7b') ∧
      (c.toLower = '\x7d' ↔ c = '\x7d') := by
    refine forall_char (by decide +kernel) fun c hc => ?_
    rw [toLower_of_le hc]
    exact ⟨.rfl, .rfl, .rfl⟩
  simp only [List.mem_cons, List.not_mem_nil, or_false] at hd
  rcases hd with rfl | rfl | rfl
  · exact (hall c).1
  · exact (hall c).2.1
  · exact (hall c).2.2

theorem hexValue?_of_le (h : 128 ≤ c.toNat) : Net.hexValue? c = none := by
  have hle : ∀ {d : Char}, d.toNat < 128 → ¬ c ≤ d := fun hd hcd =>
    Nat.not_lt.2 h (Nat.lt_of_le_of_lt (UInt32.le_iff_toNat_le.1 hcd) hd)
  rw [Net.hexValue?, if_neg fun hc => hle (by decide) hc.2, if_neg fun hc => hle (by decide) hc.2,
    if_neg fun hc => hle (by decide) hc.2]

theorem hexValue?_toLower (c : Char) : Net.hexValue? c.toLower = Net.hexValue? c := by
  refine forall_char (P := fun c => Net.hexValue? c.toLower = Net.hexValue? c)
    (by decide +kernel) ?_ c
  intro c hc
  rw [toLower_of_le hc]

theorem toLower_of_hexValue? (h : Net.hexValue? c = some v) : v < 16 ∧ c.toLower = digit v := by
  refine forall_char (P := fun c => ∀ v ∈ Net.hexValue? c, v < 16 ∧ c.toLower = digit v)
    (by decide +kernel) ?_ c v h
  intro c hc v hv
  rw [hexValue?_of_le hc] at hv
  cases hv

/-! ## Reading does not tell the cases apart -/

theorem octetsOf?_map_toLower (s : List Char) : octetsOf? (s.map Char.toLower) = octetsOf? s := by
  induction s using octetsOf?.induct with
  | case1 => rfl
  | case2 a b rest ih =>
    rw [List.map_cons, List.map_cons, octetsOf?, octetsOf?, hexValue?_toLower, hexValue?_toLower, ih]
  | case3 => rfl

theorem parseSimple?_map_toLower (s : List Char) :
    parseSimple? (s.map Char.toLower) = parseSimple? s := by
  unfold parseSimple?
  rw [octetsOf?_map_toLower]

theorem parseHyphenated?_map_toLower (s : List Char) :
    parseHyphenated? (s.map Char.toLower) = parseHyphenated? s := by
  have hsplit : splitOn (· = '-') (s.map Char.toLower)
      = (splitOn (· = '-') s).map (List.map Char.toLower) :=
    splitOn_map (fun c => decide_eq_decide.2 (toLower_eq_iff (by decide))) s
  unfold parseHyphenated?
  rw [hsplit]
  rcases splitOn (· = '-') s with _ | ⟨a, _ | ⟨b, _ | ⟨c, _ | ⟨d, _ | ⟨e, _ | ⟨f, rest⟩⟩⟩⟩⟩⟩
  · rfl
  · rfl
  · rfl
  · rfl
  · rfl
  · simp only [List.map_cons, List.map_nil, List.length_map, ← List.map_append,
      parseSimple?_map_toLower]
  · rfl

theorem parse?_map_toLower (s : List Char) : parse? (s.map Char.toLower) = parse? s := by
  have hhead : (s.map Char.toLower).head? = some '\x7b' ↔ s.head? = some '\x7b' := by
    cases s with
    | nil => rfl
    | cons c s => simpa using toLower_eq_iff (by decide)
  have hlast : (s.map Char.toLower).getLast? = some '\x7d' ↔ s.getLast? = some '\x7d' := by
    cases hs : s.getLast? with
    | none => simp [hs]
    | some c => simpa [hs] using toLower_eq_iff (by decide)
  have hstart : ((s.map Char.toLower).take 9).map Char.toLower = (s.take 9).map Char.toLower := by
    rw [← List.map_take, List.map_map]
    exact List.map_congr_left fun c _ => toLower_toLower c
  unfold parse?
  rw [List.length_map, parseSimple?_map_toLower, hstart, ← List.map_drop, ← List.map_drop,
    ← List.map_dropLast, parseHyphenated?_map_toLower, parseHyphenated?_map_toLower,
    parseHyphenated?_map_toLower]
  simp only [hhead, hlast]

/-! ## What was read is printed, up to case -/

theorem map_toLower_of_octetsOf? (h : octetsOf? s = some os) :
    s.map Char.toLower = os.flatMap octetDigits := by
  induction s using octetsOf?.induct generalizing os with
  | case1 =>
    obtain rfl := Option.some.inj h
    rfl
  | case2 a b rest ih =>
    simp only [octetsOf?, Option.bind_eq_bind, Option.bind_eq_some_iff, Option.pure_def] at h
    obtain ⟨high, hhigh, low, hlow, octets, hoctets, hos⟩ := h
    obtain rfl := Option.some.inj hos
    obtain ⟨hhighlt, ha⟩ := toLower_of_hexValue? hhigh
    obtain ⟨hlowlt, hb⟩ := toLower_of_hexValue? hlow
    have hvalue : (UInt8.ofNat (16 * high + low)).toNat = 16 * high + low :=
      UInt8.toNat_ofNat_of_lt' (by show _ < 256; omega)
    rw [List.map_cons, List.map_cons, ih hoctets, ha, hb, List.flatMap_cons, octetDigits, hvalue,
      show (16 * high + low) / 16 = high by omega, show (16 * high + low) % 16 = low by omega]
    rfl
  | case3 => cases h

theorem map_toLower_of_parseSimple? (h : parseSimple? s = some u) :
    s.map Char.toLower = u.octets.flatMap octetDigits := by
  unfold parseSimple? at h
  split at h
  · rename_i os hos
    split at h
    · rw [map_toLower_of_octetsOf? hos, ← Option.some.inj h]
    · cases h
  · cases h

theorem map_toLower_of_parseHyphenated? (h : parseHyphenated? s = some u) :
    s.map Char.toLower = u.chars := by
  have hjoin := intercalate_splitOn '-' s
  unfold parseHyphenated? at h
  split at h
  · rename_i a b c d e hpieces
    split at h
    · rename_i hlen
      obtain ⟨ha, hb, hc, hd, he⟩ := hlen
      rw [hpieces] at hjoin
      have hdigits := map_toLower_of_parseSimple? h
      rw [chars, ← hdigits, ← hjoin]
      -- every group ends where the next one is taken from
      simp (disch := simp [ha, hb, hc, hd]) [List.intercalate, List.drop_append,
        List.drop_eq_nil_of_le, ha, hb, hc]
    · cases h
  · cases h

/-! ## The forms of an identifier -/

/-- The forms in which an identifier is read, its letters in lower case: its digits together, its
text, its text in braces, and its text after the start of its URN. -/
def forms (u : Uuid) : List (List Char) :=
  [u.octets.flatMap octetDigits, u.chars, '\x7b' :: u.chars ++ ['\x7d'], urnStart ++ u.chars]

/-- Whether a text is a form of the identifier, its letters in either case. -/
def Spells (u : Uuid) (s : String) : Prop := s.toList.map Char.toLower ∈ u.forms

instance (u : Uuid) (s : String) : Decidable (u.Spells s) :=
  inferInstanceAs (Decidable (_ ∈ u.forms))

theorem parse?_of_mem_forms (h : s ∈ u.forms) : parse? s = some u := by
  have hdigits := u.length_digits
  have hchars := u.length_chars
  simp only [forms, List.mem_cons, List.not_mem_nil, or_false] at h
  rcases h with rfl | rfl | rfl | rfl
  · rw [parse?, if_pos hdigits, parseSimple?_digits]
  · rw [parse?, if_neg (by omega), if_neg (by omega), if_neg (by omega), parseHyphenated?_chars]
  · have hlen : ('\x7b' :: u.chars ++ ['\x7d']).length = 38 := by simp [hchars]
    have hlast : ('\x7b' :: u.chars ++ ['\x7d']).getLast? = some '\x7d' := List.getLast?_concat
    have hinside : (('\x7b' :: u.chars ++ ['\x7d']).drop 1).dropLast = u.chars :=
      List.dropLast_concat
    rw [parse?, if_neg (by omega), if_pos hlen, if_pos ⟨rfl, hlast⟩, hinside, parseHyphenated?_chars]
  · have hlen : (urnStart ++ u.chars).length = 45 := by
      rw [List.length_append, hchars]
      rfl
    have htake : (urnStart ++ u.chars).take 9 = urnStart := rfl
    have hdrop : (urnStart ++ u.chars).drop 9 = u.chars := rfl
    rw [parse?, if_neg (by omega), if_neg (by omega), if_pos hlen, htake, hdrop,
      if_pos (by decide), parseHyphenated?_chars]

theorem mem_forms_of_parse? (h : parse? s = some u) : s.map Char.toLower ∈ u.forms := by
  simp only [forms, List.mem_cons, List.not_mem_nil, or_false]
  unfold parse? at h
  split at h
  · exact .inl (map_toLower_of_parseSimple? h)
  · split at h
    · rename_i hlen
      split at h
      · rename_i hbraces
        obtain ⟨t, rfl⟩ := List.head?_eq_some_iff.1 hbraces.1
        have ht : t.getLast? = some '\x7d' := by
          rw [← hbraces.2, List.getLast?_cons_of_ne_nil]
          rintro rfl
          simp at hlen
        obtain ⟨t, rfl⟩ := List.getLast?_eq_some_iff.1 ht
        have htext : t.map Char.toLower = u.chars := map_toLower_of_parseHyphenated? (by simpa using h)
        refine .inr (.inr (.inl ?_))
        rw [List.map_cons, List.map_append, htext]
        rfl
      · cases h
    · split at h
      · split at h
        · rename_i hstart
          refine .inr (.inr (.inr ?_))
          rw [← List.take_append_drop 9 s, List.map_append, hstart, map_toLower_of_parseHyphenated? h]
        · cases h
      · exact .inr (.inl (map_toLower_of_parseHyphenated? h))

/-- A text is read as an identifier if and only if it is one of its forms, its letters in either
case. -/
theorem parse?_eq_some_iff : parse? s = some u ↔ s.map Char.toLower ∈ u.forms := by
  constructor
  · exact mem_forms_of_parse?
  · intro h
    rw [← parse?_map_toLower, parse?_of_mem_forms h]

/-- The start of the URN may be in capitals, too. -/
example : nil.Spells "URN:uuid:00000000-0000-0000-0000-000000000000" := by decide +kernel

end TunnelKeeper.Uuid
