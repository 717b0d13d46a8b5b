import TunnelKeeper.Text.Blank
import TunnelKeeper.Text.Split

/-!
# Texts without blanks, and texts without a separator

Printed keys, identifiers and blocks hold no white space, so trimming leaves them (`trimmed_eq`),
and a separator that occurs in none of the parts splits a text where the parts were put together
(`splitFirst?_append`, `splitLast?_append`, `splitOn_append`). What was split is put together again
(`intercalate_splitOn`), and what was put together is split again (`splitOn_intercalate`).
-/

namespace TunnelKeeper.Text

/-- The printable ASCII characters but the space are no white space. -/
theorem isBlank_eq_false {c : Char} (h : 33 ≤ c.toNat) (h' : c.toNat < 133) :
    isBlank c = false := by
  simp only [isBlank, blankRuns, inRuns, Bool.and_eq_false_iff, Bool.or_eq_false_iff,
    decide_eq_false_iff_not]
  omega

theorem isBlank_of_isAlpha {c : Char} (h : c.isAlpha = true) : isBlank c = false := by
  have hranges : (decide (65 ≤ c.val ∧ c.val ≤ 90) ||
      (decide (97 ≤ c.val) && decide (c.val ≤ 122))) = true := h
  simp only [Bool.or_eq_true, Bool.and_eq_true, decide_eq_true_eq,
    UInt32.le_iff_toNat_le] at hranges
  have hbounds : 65 ≤ c.toNat ∧ c.toNat ≤ 122 := by
    rcases hranges with h | h
    · exact ⟨h.1, Nat.le_trans h.2 (show (90 : Nat) ≤ 122 by decide)⟩
    · exact ⟨Nat.le_trans (show (65 : Nat) ≤ 97 by decide) h.1, h.2⟩
  exact isBlank_eq_false (by omega) (by omega)

theorem dropWhile_isBlank {s : List Char} (h : ∀ c ∈ s, isBlank c = false) :
    s.dropWhile isBlank = s := by
  cases s with
  | nil => rfl
  | cons c s => rw [List.dropWhile_cons_of_neg (by simp [h c List.mem_cons_self])]

theorem trimmed_eq {s : List Char} (h : ∀ c ∈ s, isBlank c = false) : trimmed s = s := by
  rw [trimmed, trimEnd, dropWhile_isBlank h,
    dropWhile_isBlank fun c hc => h c (List.mem_reverse.1 hc), List.reverse_reverse]

theorem splitFirst?_append {sep : Char} {a b : List Char} (h : sep ∉ a) :
    splitFirst? sep (a ++ sep :: b) = some (a, b) := by
  induction a with
  | nil => simp [splitFirst?]
  | cons c a ih =>
    rw [List.mem_cons, not_or] at h
    rw [List.cons_append, splitFirst?, if_neg (Ne.symm h.1), ih h.2]
    rfl

theorem splitLast?_of_notMem {sep : Char} {s : List Char} (h : sep ∉ s) :
    splitLast? sep s = none := by
  induction s with
  | nil => rfl
  | cons c s ih =>
    rw [List.mem_cons, not_or] at h
    rw [splitLast?, ih h.2]
    exact if_neg (Ne.symm h.1)

/-- A text is split at the last separator where no separator follows. -/
theorem splitLast?_append {sep : Char} {a b : List Char} (h : sep ∉ b) :
    splitLast? sep (a ++ sep :: b) = some (a, b) := by
  induction a with
  | nil =>
    rw [List.nil_append, splitLast?, splitLast?_of_notMem h]
    exact if_pos rfl
  | cons c a ih => rw [List.cons_append, splitLast?, ih]

theorem splitOn_of_none {sep : Char → Bool} {a : List Char} (h : ∀ c ∈ a, sep c = false) :
    splitOn sep a = [a] := by
  induction a with
  | nil => rfl
  | cons c a ih =>
    rw [splitOn, if_neg (by simp [h c List.mem_cons_self]),
      ih fun d hd => h d (List.mem_cons_of_mem _ hd)]

/-- A separator splits a text into the pieces before it and those after it. -/
theorem splitOn_append_sep {sep : Char → Bool} {s : Char} (hs : sep s = true) (a b : List Char) :
    splitOn sep (a ++ s :: b) = splitOn sep a ++ splitOn sep b := by
  induction a with
  | nil => simp [splitOn, hs]
  | cons c a ih =>
    rw [List.cons_append, splitOn, splitOn]
    split
    · rw [ih, List.cons_append]
    · rw [ih]
      cases hp : splitOn sep a with
      | nil => exact absurd hp (splitOn_ne_nil sep a)
      | cons piece pieces => simp

theorem splitOn_append {sep : Char → Bool} {a b : List Char} {s : Char}
    (h : ∀ c ∈ a, sep c = false) (hs : sep s = true) :
    splitOn sep (a ++ s :: b) = a :: splitOn sep b := by
  rw [splitOn_append_sep hs, splitOn_of_none h, List.singleton_append]

/-- What is in a text is a separator or in one of the pieces. -/
theorem mem_splitOn (sep : Char → Bool) {s : List Char} {c : Char} (h : c ∈ s) :
    sep c = true ∨ ∃ piece ∈ splitOn sep s, c ∈ piece := by
  induction s with
  | nil => cases h
  | cons d s ih =>
    rw [splitOn]
    by_cases hd : sep d = true
    · rw [if_pos hd]
      rcases List.mem_cons.1 h with rfl | h
      · exact .inl hd
      · rcases ih h with hsep | ⟨piece, hp, hc⟩
        · exact .inl hsep
        · exact .inr ⟨piece, .tail _ hp, hc⟩
    · rw [if_neg hd]
      cases hs : splitOn sep s with
      | nil => exact absurd hs (splitOn_ne_nil sep s)
      | cons first rest =>
        rcases List.mem_cons.1 h with rfl | h
        · exact .inr ⟨_, List.mem_cons_self, List.mem_cons_self⟩
        · rcases ih h with hsep | ⟨piece, hp, hc⟩
          · exact .inl hsep
          · rw [hs] at hp
            rcases List.mem_cons.1 hp with rfl | hp
            · exact .inr ⟨_, List.mem_cons_self, .tail _ hc⟩
            · exact .inr ⟨piece, .tail _ hp, hc⟩

/-- A split loses nothing. -/
theorem intercalate_splitOn (sep : Char) (s : List Char) :
    [sep].intercalate (splitOn (· = sep) s) = s := by
  induction s with
  | nil => rfl
  | cons c s ih =>
    rw [splitOn]
    cases hp : splitOn (· = sep) s with
    | nil => exact absurd hp (splitOn_ne_nil _ s)
    | cons piece pieces =>
      rw [hp] at ih
      split
      · rename_i hc
        rw [List.intercalate_cons_cons, ih, of_decide_eq_true hc]
        rfl
      · cases pieces with
        | nil =>
          rw [List.intercalate_singleton] at ih ⊢
          rw [ih]
        | cons piece' pieces =>
          rw [List.intercalate_cons_cons] at ih ⊢
          rw [List.cons_append, List.cons_append, ih]

/-- Pieces without the separator are split where they were put together. -/
theorem splitOn_intercalate {sep : Char} {pieces : List (List Char)} (hne : pieces ≠ [])
    (h : ∀ piece ∈ pieces, sep ∉ piece) :
    splitOn (· = sep) ([sep].intercalate pieces) = pieces := by
  have hnone : ∀ piece ∈ pieces, ∀ c ∈ piece, decide (c = sep) = false := fun piece hp c hc =>
    decide_eq_false fun hsep => h piece hp (hsep ▸ hc)
  clear h
  induction pieces with
  | nil => exact absurd rfl hne
  | cons a pieces ih =>
    rw [List.forall_mem_cons] at hnone
    cases pieces with
    | nil => rw [List.intercalate_singleton, splitOn_of_none hnone.1]
    | cons b pieces =>
      rw [List.intercalate_cons_cons, List.append_assoc, List.singleton_append,
        splitOn_append hnone.1 (decide_eq_true rfl), ih (List.cons_ne_nil _ _) hnone.2]

/-- A text is split where it was, if its characters become others of which the same are separators. -/
theorem splitOn_map {sep : Char → Bool} {f : Char → Char} (h : ∀ c, sep (f c) = sep c)
    (s : List Char) : splitOn sep (s.map f) = (splitOn sep s).map (List.map f) := by
  induction s with
  | nil => rfl
  | cons c s ih =>
    rw [List.map_cons, splitOn, splitOn, h, ih]
    split
    · rfl
    · cases splitOn sep s <;> rfl

/-- What a joined text is made of. -/
theorem mem_join {c : Char} {sep : String} {parts : List String}
    (h : c ∈ (join sep parts).toList) : c ∈ sep.toList ∨ ∃ s ∈ parts, c ∈ s.toList := by
  induction parts with
  | nil => simp [join] at h
  | cons a parts ih =>
    cases parts with
    | nil => exact .inr ⟨a, List.mem_singleton.2 rfl, by simpa [join] using h⟩
    | cons b parts =>
      rw [join, String.intercalate_cons_cons, String.toList_append, String.toList_append,
        List.mem_append, List.mem_append] at h
      rcases h with (h | h) | h
      · exact .inr ⟨a, List.mem_cons_self, h⟩
      · exact .inl h
      · exact (ih h).imp_right fun ⟨s, hs, hc⟩ => ⟨s, .tail _ hs, hc⟩

end TunnelKeeper.Text
