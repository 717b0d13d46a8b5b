import Mathlib.Data.List.Infix
import TunnelKeeper.Text.Search

/-!
# What a search finds

A search compares texts in lower case, and lower case goes letter by letter except for the capital
sigma, which is written by what stands around it. So an occurrence of a word in a text is one in lower
case exactly if each capital sigma of the word takes the form there that it takes in the word alone
(`SigmasAlike`, `lowerWithin_eq_iff`), as it is the case for every word without one
(`sigmasAlike_of_notMem`); and then a search for the word finds the text (`matchesSearch_of_occurs`).
-/

namespace TunnelKeeper.Text

/-! ## Lower case of a part of a text -/

/-- Whether a capital sigma is written in its final form between `before`, which is given backwards,
and `after`. -/
def endsWord (before after : List Char) : Bool := startsCased before && !startsCased after

/-- Lower case of `s` between `before`, which is given backwards, and `after`. -/
def lowerWithin : (before s after : List Char) → List Char
  | _, [], _ => []
  | before, c :: rest, after =>
    (if c = 'Σ' then [if endsWord before (rest ++ after) then 'ς' else 'σ'] else lowerChar c)
      ++ lowerWithin (c :: before) rest after

theorem lowerFrom_append (before s after : List Char) :
    lowerFrom before (s ++ after)
      = lowerWithin before s after ++ lowerFrom (s.reverse ++ before) after := by
  induction s generalizing before with
  | nil => rfl
  | cons c s ih =>
    rw [List.cons_append, lowerFrom, lowerWithin, ih, List.append_assoc, List.reverse_cons,
      List.append_assoc]
    rfl

theorem lowercase_eq_lowerWithin (s : List Char) : lowercase s = lowerWithin [] s [] := by
  have h := lowerFrom_append [] s []
  rwa [List.append_nil, lowerFrom, List.append_nil] at h

/-- Each capital sigma of `s` takes the same form between `before` and `after` as in `s` alone. -/
def SigmasAlike (before s after : List Char) : Prop :=
  ∀ front back, s = front ++ 'Σ' :: back →
    endsWord (front.reverse ++ before.reverse) (back ++ after) = endsWord front.reverse back

theorem sigmasAlike_of_notMem {s : List Char} (h : 'Σ' ∉ s) (before after : List Char) :
    SigmasAlike before s after := by
  intro front back hs
  exact absurd (by simp [hs]) h

theorem forall_sigma_cons {c : Char} {s : List Char} {p : List Char → List Char → Prop} :
    (∀ front back, c :: s = front ++ 'Σ' :: back → p front back) ↔
      (c = 'Σ' → p [] s) ∧ ∀ front back, s = front ++ 'Σ' :: back → p (c :: front) back := by
  constructor
  · exact fun h => ⟨fun hc => h [] s (by simp [hc]), fun front back hs => h _ back (by simp [hs])⟩
  · rintro ⟨hfirst, hrest⟩ front back hs
    rcases List.cons_eq_append_iff.1 hs with ⟨rfl, hback⟩ | ⟨front', rfl, hs'⟩
    · obtain ⟨rfl, rfl⟩ := List.cons.inj hback
      exact hfirst rfl
    · exact hrest front' back hs'

theorem form_inj {x y : Bool} : (if x then 'ς' else 'σ') = (if y then 'ς' else 'σ') ↔ x = y := by
  revert x y
  decide

/-- The lower case of a text depends on its surroundings in the form of its capital sigmas only. -/
theorem lowerWithin_eq_iff_of_contexts (s : List Char) (b₁ b₂ a₁ a₂ : List Char) :
    lowerWithin b₁ s a₁ = lowerWithin b₂ s a₂ ↔
      ∀ front back, s = front ++ 'Σ' :: back →
        endsWord (front.reverse ++ b₁) (back ++ a₁) = endsWord (front.reverse ++ b₂) (back ++ a₂) := by
  induction s generalizing b₁ b₂ with
  | nil => simp [lowerWithin]
  | cons c s ih =>
    simp only [forall_sigma_cons, List.reverse_nil, List.nil_append, List.reverse_cons,
      List.append_assoc, List.singleton_append, ← ih, lowerWithin]
    by_cases hc : c = 'Σ'
    · rw [if_pos hc, if_pos hc, List.singleton_append, List.singleton_append, List.cons.injEq,
        form_inj, forall_prop_of_true hc]
    · rw [if_neg hc, if_neg hc, List.append_cancel_left_eq, forall_prop_of_false hc, true_and]

/-- A word stands in lower case where it stands in a text, exactly if its sigmas are alike there. -/
theorem lowerWithin_eq_iff {before s after : List Char} :
    lowerWithin before.reverse s after = lowercase s ↔ SigmasAlike before s after := by
  rw [lowercase_eq_lowerWithin, lowerWithin_eq_iff_of_contexts]
  simp only [List.append_nil, SigmasAlike]

/-! ## Searching -/

theorem containsPart_iff {needle s : List Char} : containsPart needle s = true ↔ needle <:+: s := by
  induction s with
  | nil => simp [containsPart]
  | cons c s ih =>
    rw [containsPart, Bool.or_eq_true, List.isPrefixOf_iff_prefix, ih, List.infix_cons_iff]

/-- The word stands in the text with its capital sigmas as they are in the word alone. -/
def Occurs (word s : List Char) : Prop :=
  ∃ before after, s = before ++ word ++ after ∧ SigmasAlike before word after

theorem occurs_of_infix {word s : List Char} (h : word <:+: s) (hsigma : 'Σ' ∉ word) :
    Occurs word s := by
  obtain ⟨before, after, hs⟩ := h
  exact ⟨before, after, hs.symm, sigmasAlike_of_notMem hsigma before after⟩

/-- What occurs in a text occurs in it in lower case. -/
theorem Occurs.lowercase {word s : List Char} (h : Occurs word s) :
    lowercase word <:+: lowercase s := by
  obtain ⟨before, after, rfl, halike⟩ := h
  refine ⟨lowerWithin [] before (word ++ after),
    lowerFrom (word.reverse ++ (before.reverse ++ [])) after, ?_⟩
  rw [← lowerWithin_eq_iff.2 halike, Text.lowercase, List.append_assoc, List.append_assoc,
    lowerFrom_append, lowerFrom_append, List.append_nil]

theorem matchesSearch_iff {needle : String} {haystacks : List String} :
    matchesSearch (some needle) haystacks = true ↔ trimmed needle.toList = [] ∨
      ∃ s ∈ haystacks, lowercase (trimmed needle.toList) <:+: lowercase s.toList := by
  simp only [matchesSearch, Bool.or_eq_true, List.isEmpty_iff, List.any_eq_true, containsPart_iff]

/-- A search finds a text in which its word occurs; a blank one finds every list of texts. -/
theorem matchesSearch_of_occurs {needle : String} {haystacks : List String}
    (h : trimmed needle.toList = [] ∨
      ∃ s ∈ haystacks, Occurs (trimmed needle.toList) s.toList) :
    matchesSearch (some needle) haystacks = true :=
  matchesSearch_iff.2 (h.imp_right fun ⟨s, hs, hocc⟩ => ⟨s, hs, hocc.lowercase⟩)

end TunnelKeeper.Text
