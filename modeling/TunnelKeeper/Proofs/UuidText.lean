import TunnelKeeper.Proofs.Text.Trim
import TunnelKeeper.Uuid

/-!
# The text of an identifier reads back

`Uuid.parse?_text`: an identifier is printed as five groups of digits, which are the pieces between
the hyphens, and each pair of digits is read as the octet that it was printed for. So two
identifiers are the same where their texts are (`Uuid.text_inj`).
-/

namespace TunnelKeeper.Uuid

open Text

theorem hexValue?_digit {n : Nat} (h : n < 16) : Net.hexValue? (digit n) = some n := by
  have : ∀ d : Fin 16, Net.hexValue? (digit d.val) = some d.val := by decide
  exact this ⟨n, h⟩

theorem digit_ne_hyphen {n : Nat} (h : n < 16) : digit n ≠ '-' := by
  have : ∀ d : Fin 16, digit d.val ≠ '-' := by decide
  exact this ⟨n, h⟩

/-- Pairs of digits read back. -/
theorem octetsOf?_octetDigits (os : List UInt8) : octetsOf? (os.flatMap octetDigits) = some os := by
  induction os with
  | nil => rfl
  | cons o os ih =>
    have ho := o.toNat_lt
    have hval : UInt8.ofNat (16 * (o.toNat / 16) + o.toNat % 16) = o := by
      rw [Nat.div_add_mod, UInt8.ofNat_toNat]
    rw [List.flatMap_cons, octetDigits, List.cons_append, List.cons_append, List.nil_append, octetsOf?,
      hexValue?_digit (by omega), hexValue?_digit (by omega), ih]
    simp only [Option.bind_eq_bind, Option.bind_some, Option.pure_def, hval]

theorem length_octetDigits (os : List UInt8) : (os.flatMap octetDigits).length = 2 * os.length := by
  induction os with
  | nil => rfl
  | cons o os ih => simp [octetDigits, ih]; omega

theorem hyphen_notMem_octetDigits (os : List UInt8) : '-' ∉ os.flatMap octetDigits := by
  intro h
  obtain ⟨o, -, ho⟩ := List.mem_flatMap.1 h
  have hlt := o.toNat_lt
  simp only [octetDigits, List.mem_cons, List.not_mem_nil, or_false] at ho
  rcases ho with ho | ho
  · exact digit_ne_hyphen (by omega) ho.symm
  · exact digit_ne_hyphen (by omega) ho.symm

/-- Digits in their groups are read as the digits together. -/
theorem parseHyphenated?_groups {ds : List Char} (hl : ds.length = 32) (hh : '-' ∉ ds) :
    parseHyphenated? (ds.take 8 ++ '-' :: (ds.drop 8).take 4 ++ '-' :: (ds.drop 12).take 4
      ++ '-' :: (ds.drop 16).take 4 ++ '-' :: ds.drop 20) = parseSimple? ds := by
  have hsub : ∀ {s : List Char}, s.Sublist ds → ∀ c ∈ s, decide (c = '-') = false := by
    intro s hs c hc
    refine decide_eq_false fun he => hh ?_
    subst he
    exact hs.mem hc
  have htake : ∀ n m, ((ds.drop n).take m).Sublist ds := fun n m =>
    (List.take_sublist m _).trans (List.drop_sublist n ds)
  have hsplit : splitOn (· = '-') (ds.take 8 ++ '-' :: (ds.drop 8).take 4 ++ '-' :: (ds.drop 12).take 4
      ++ '-' :: (ds.drop 16).take 4 ++ '-' :: ds.drop 20)
      = [ds.take 8, (ds.drop 8).take 4, (ds.drop 12).take 4, (ds.drop 16).take 4, ds.drop 20] := by
    simp only [List.append_assoc, List.cons_append]
    rw [splitOn_append (hsub (List.take_sublist 8 ds)) (by decide),
      splitOn_append (hsub (htake 8 4)) (by decide), splitOn_append (hsub (htake 12 4)) (by decide),
      splitOn_append (hsub (htake 16 4)) (by decide), splitOn_of_none (hsub (List.drop_sublist 20 ds))]
  have hjoin : ds.take 8 ++ (ds.drop 8).take 4 ++ (ds.drop 12).take 4 ++ (ds.drop 16).take 4
      ++ ds.drop 20 = ds := by
    have step : ∀ n m, (ds.drop n).take m ++ ds.drop (n + m) = ds.drop n := fun n m => by
      rw [← List.drop_drop, List.take_append_drop]
    simp only [List.append_assoc]
    rw [step 16 4, step 12 4, step 8 4, List.take_append_drop]
  rw [parseHyphenated?, hsplit]
  simp only [hjoin, List.length_take, List.length_drop, hl]
  rw [if_pos (by decide)]

theorem length_digits (u : Uuid) : (u.octets.flatMap octetDigits).length = 32 := by
  rw [length_octetDigits, u.length_octets]

theorem length_chars (u : Uuid) : u.chars.length = 36 := by
  simp only [chars, List.length_append, List.length_cons, List.length_take, List.length_drop,
    length_digits]
  rfl

theorem parseSimple?_digits (u : Uuid) : parseSimple? (u.octets.flatMap octetDigits) = some u := by
  rw [parseSimple?, octetsOf?_octetDigits]
  exact dif_pos u.length_octets

theorem parseHyphenated?_chars (u : Uuid) : parseHyphenated? u.chars = some u := by
  rw [chars, parseHyphenated?_groups u.length_digits (hyphen_notMem_octetDigits _), parseSimple?_digits]

/-- The text of an identifier reads back. -/
theorem parse?_text (u : Uuid) : parse? u.text.toList = some u := by
  have hl := u.length_chars
  rw [text, String.toList_ofList, parse?, if_neg (by omega), if_neg (by omega), if_neg (by omega),
    parseHyphenated?_chars]

theorem text_inj {a b : Uuid} : a.text = b.text ↔ a = b := by
  constructor
  · intro h
    have : parse? a.text.toList = parse? b.text.toList := by rw [h]
    rwa [parse?_text, parse?_text, Option.some.injEq] at this
  · exact congrArg text

end TunnelKeeper.Uuid
