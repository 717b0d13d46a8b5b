import TunnelKeeper.Device.Endpoint
import TunnelKeeper.Proofs.Text.Trim

/-!
# The grammar of endpoints

An endpoint is an address with a port, or a host name and a port with a colon between them. A host
name is made of labels with points between them (`IsHost`), and a port of digits (`IsPort`), which may
have a plus sign before them. Every such text is an endpoint and no other is (`isEndpoint_iff`).
-/

namespace TunnelKeeper

open Text

/-! ## The grammar -/

/-- The character is a letter or a digit of ASCII, or a hyphen. -/
def IsLabelChar (c : Char) : Prop :=
  ('A' ≤ c ∧ c ≤ 'Z') ∨ ('a' ≤ c ∧ c ≤ 'z') ∨ ('0' ≤ c ∧ c ≤ '9') ∨ c = '-'

/-- A label of a host name. -/
structure IsLabel (s : List Char) : Prop where
  ne_nil : s ≠ []
  length_le : s.length ≤ 63
  chars : ∀ c ∈ s, IsLabelChar c
  head : s.head? ≠ some '-'
  last : s.getLast? ≠ some '-'

/-- A host name: one label or more, with points between them. -/
structure IsHost (s : List Char) : Prop where
  labels : ∃ labels : List (List Char), labels ≠ [] ∧ (∀ l ∈ labels, IsLabel l) ∧
    s = ['.'].intercalate labels
  ne_nil : s ≠ []
  length_le : s.length ≤ 253

/-- The number of a port, with or without zeros before it. -/
structure IsPort (s : List Char) : Prop where
  ne_nil : s ≠ []
  digits : ∀ c ∈ s, '0' ≤ c ∧ c ≤ '9'
  le : digitsValue 0 s ≤ 65535

/-! ## Host names -/

theorem isDigit_iff {c : Char} : c.isDigit = true ↔ '0' ≤ c ∧ c ≤ '9' := by
  simp [Char.isDigit, Char.le_def]

theorem isLabelChar_iff {c : Char} : (c.isAlphanum || c = '-') = true ↔ IsLabelChar c := by
  have hupper : c.isUpper = true ↔ 'A' ≤ c ∧ c ≤ 'Z' := by
    show decide (c.val ≥ 'A'.val ∧ c.val ≤ 'Z'.val) = true ↔ _
    rw [decide_eq_true_eq]
    rfl
  have hlower : c.isLower = true ↔ 'a' ≤ c ∧ c ≤ 'z' := by
    show (decide (c.val ≥ 'a'.val) && decide (c.val ≤ 'z'.val)) = true ↔ _
    rw [Bool.and_eq_true, decide_eq_true_eq, decide_eq_true_eq]
    rfl
  show (((c.isUpper || c.isLower) || c.isDigit) || decide (c = '-')) = true ↔ _
  simp only [Bool.or_eq_true, hupper, hlower, isDigit_iff, decide_eq_true_eq, IsLabelChar, or_assoc]

theorem isHostLabel_iff {s : List Char} : isHostLabel s = true ↔ IsLabel s := by
  simp only [isHostLabel, Bool.and_eq_true, decide_eq_true_eq, List.all_eq_true, isLabelChar_iff]
  constructor
  · rintro ⟨⟨⟨⟨hpos, hle⟩, hhead⟩, hlast⟩, hchars⟩
    exact ⟨List.length_pos_iff.1 hpos, hle, hchars, hhead, hlast⟩
  · rintro ⟨hne, hle, hchars, hhead, hlast⟩
    exact ⟨⟨⟨⟨List.length_pos_iff.2 hne, hle⟩, hhead⟩, hlast⟩, hchars⟩

theorem IsLabel.notMem {s : List Char} (h : IsLabel s) : '.' ∉ s := fun hc =>
  absurd (h.chars '.' hc) (by simp only [IsLabelChar]; decide)

theorem isHostName_iff {s : List Char} : isHostName s = true ↔ IsHost s := by
  simp only [isHostName, Bool.and_eq_true, decide_eq_true_eq, List.all_eq_true, isHostLabel_iff]
  constructor
  · rintro ⟨⟨hpos, hle⟩, hlabels⟩
    exact ⟨⟨_, splitOn_ne_nil _ s, hlabels, (intercalate_splitOn '.' s).symm⟩,
      List.length_pos_iff.1 hpos, hle⟩
  · rintro ⟨⟨labels, hne, hlabels, rfl⟩, hpos, hle⟩
    refine ⟨⟨List.length_pos_iff.2 hpos, hle⟩, ?_⟩
    rwa [splitOn_intercalate hne fun l hl => (hlabels l hl).notMem]

/-! ## Ports -/

theorem readDigits?_le_iff {s : List Char} :
    ((readDigits? s).filter (· ≤ 65535)).isSome = true ↔ IsPort s := by
  by_cases h : s ≠ [] ∧ ∀ c ∈ s, c.isDigit = true
  · have hread : readDigits? s = some (digitsValue 0 s) := by
      simp [readDigits?, h.1, List.all_eq_true.2 h.2]
    rw [hread, Option.filter_some, Option.isSome_ite, decide_eq_true_eq]
    exact ⟨fun hle => ⟨h.1, fun c hc => isDigit_iff.1 (h.2 c hc), hle⟩, IsPort.le⟩
  · have hread : readDigits? s = none := by simpa [readDigits?] using h
    rw [hread]
    constructor
    · exact fun hs => by cases hs
    · exact fun hs => absurd ⟨hs.ne_nil, fun c hc => isDigit_iff.2 (hs.digits c hc)⟩ h

theorem IsPort.notMem {s : List Char} (h : IsPort s) {c : Char} (hc : ¬('0' ≤ c ∧ c ≤ '9')) :
    c ∉ s := fun hmem => hc (h.digits c hmem)

/-- A port may have a plus sign before its digits. -/
theorem readNat?_iff {s : List Char} :
    (readNat? 65535 s).isSome = true ↔ IsPort s ∨ ∃ digits, s = '+' :: digits ∧ IsPort digits := by
  unfold readNat?
  split
  · rename_i rest
    rw [readDigits?_le_iff]
    refine ⟨fun h => .inr ⟨rest, rfl, h⟩, ?_⟩
    rintro (h | ⟨digits, hs, h⟩)
    · exact absurd List.mem_cons_self (h.notMem (c := '+') (by decide))
    · rwa [(List.cons.inj hs).2]
  · rename_i hplus
    rw [readDigits?_le_iff]
    refine ⟨.inl, ?_⟩
    rintro (h | ⟨digits, hs, -⟩)
    · exact h
    · exact absurd hs (hplus digits)

/-! ## Endpoints -/

/-- An endpoint is an address with a port, or a host name, a colon and a port, which may have a plus
sign before its digits. -/
theorem isEndpoint_iff (s : String) :
    isEndpoint s = true ↔ (∃ a, SocketAddress.parse? s.toList = some a) ∨
      ∃ host port, s.toList = host ++ ':' :: port ∧ IsHost host ∧
        (IsPort port ∨ ∃ digits, port = '+' :: digits ∧ IsPort digits) := by
  rw [isEndpoint, Bool.or_eq_true, Option.isSome_iff_exists]
  refine or_congr Iff.rfl ⟨fun h => ?_, ?_⟩
  · split at h
    · rename_i host port hsplit
      rw [Bool.and_eq_true, readNat?_iff, isHostName_iff] at h
      exact ⟨host, port, eq_of_splitLast? hsplit, h.2, h.1⟩
    · cases h
  · rintro ⟨host, port, hs, hhost, hport⟩
    have hcolon : ':' ∉ port := by
      rcases hport with h | ⟨digits, rfl, h⟩
      · exact h.notMem (by decide)
      · exact fun hc => (List.mem_cons.1 hc).elim (by decide) (h.notMem (by decide))
    simp only [hs, splitLast?_append hcolon, Bool.and_eq_true]
    exact ⟨readNat?_iff.2 hport, isHostName_iff.2 hhost⟩

/-! ## A plus sign -/

namespace Sample

/-- A host name with a signed number after the colon is an endpoint. -/
theorem signed_port_accepted :
    isEndpoint "host:+80" = true ∧ ¬ ((∃ a, SocketAddress.parse? "host:+80".toList = some a) ∨
      ∃ host port, "host:+80".toList = host ++ ':' :: port ∧ IsHost host ∧ IsPort port) := by
  refine ⟨by decide +kernel, ?_⟩
  rintro (⟨a, ha⟩ | ⟨host, port, hs, -, hport⟩)
  · have hnone : SocketAddress.parse? "host:+80".toList = none := by decide +kernel
    rw [hnone] at ha
    cases ha
  · have hsplit := splitLast?_append (a := host) (hport.notMem (c := ':') (by decide))
    rw [← hs] at hsplit
    have hlast : splitLast? ':' "host:+80".toList = some ("host".toList, "+80".toList) := by
      decide +kernel
    obtain ⟨-, rfl⟩ := Prod.mk.inj (Option.some.inj (hlast.symm.trans hsplit))
    exact absurd (by decide : '+' ∈ "+80".toList) (hport.notMem (by decide))

end Sample

end TunnelKeeper
