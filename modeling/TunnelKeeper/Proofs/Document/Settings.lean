import Mathlib.Data.List.TakeWhile
import TunnelKeeper.Document.Render
import TunnelKeeper.Proofs.Document.Reader
import TunnelKeeper.Proofs.KeyText
import TunnelKeeper.Proofs.Net.AddressChars
import TunnelKeeper.Proofs.Net.CidrText

/-!
# Settings and their values

A setting that depends on a condition is there exactly if the condition holds. The values that are
printed from data are on one line: keys, numbers, and the name servers of a record whose name
servers were checked, since each of them reads as an address. The list of them reads as the addresses
that the record lists (`readAddresses?_join`).
-/

namespace TunnelKeeper

open Text

namespace Document

/-! ## Settings under a condition -/

section Settings

variable {name value n v : String}

theorem mem_settingIf {present : Bool} :
    (n, v) ∈ settingIf present name value ↔ present = true ∧ n = name ∧ v = value := by
  cases present with
  | false => simp [settingIf]
  | true => simp [settingIf]

theorem mem_settingUnlessZero {k : Nat} :
    (n, v) ∈ settingUnlessZero name k ↔ k ≠ 0 ∧ n = name ∧ v = toString k := by
  rw [settingUnlessZero, mem_settingIf, decide_eq_true_eq]

theorem mem_settingUnlessEmpty :
    (n, v) ∈ settingUnlessEmpty name value ↔ value ≠ "" ∧ n = name ∧ v = value := by
  rw [settingUnlessEmpty, mem_settingIf, decide_eq_true_eq]

theorem mem_presharedKeySetting {key : Option Key} :
    (n, v) ∈ presharedKeySetting key ↔ ∃ k, key = some k ∧ n = "PresharedKey" ∧ v = k.text := by
  cases key with
  | none => simp [presharedKeySetting]
  | some k => simp [presharedKeySetting]

theorem names_settingIf (present : Bool) (name value : String) :
    ((settingIf present name value).map Prod.fst).Sublist [name] := by
  cases present with
  | false => exact List.nil_sublist _
  | true => exact .refl _

theorem names_presharedKeySetting (key : Option Key) :
    ((presharedKeySetting key).map Prod.fst).Sublist ["PresharedKey"] := by
  cases key with
  | none => exact List.nil_sublist _
  | some k => exact .refl _

end Settings

/-! ## Name servers -/

theorem join_ne_empty {sep : String} {parts : List String} (h : ∀ s ∈ parts, s ≠ "") :
    join sep parts ≠ "" ↔ parts ≠ [] := by
  cases parts with
  | nil => simp [join]
  | cons a parts =>
    have ha := h a List.mem_cons_self
    cases parts with
    | nil => simpa [join] using ha
    | cons b parts => simp [join, String.intercalate_cons_cons, ha]

theorem mem_dnsEntries {dns e : String} :
    e ∈ Validation.dnsEntries dns ↔ ∃ piece ∈ splitOn (· = ',') dns.toList,
      trimmed piece ≠ [] ∧ String.ofList (trimmed piece) = e := by
  simp only [Validation.dnsEntries, List.mem_map, List.mem_filter, decide_eq_true_eq]
  constructor
  · rintro ⟨_, ⟨⟨piece, hp, rfl⟩, hne⟩, rfl⟩
    exact ⟨piece, hp, hne, rfl⟩
  · rintro ⟨piece, hp, hne, rfl⟩
    exact ⟨_, ⟨⟨piece, hp, rfl⟩, hne⟩, rfl⟩

theorem mem_dnsSetting {dns n v : String} :
    (n, v) ∈ dnsSetting dns ↔ Validation.dnsEntries dns ≠ [] ∧ n = "DNS" ∧
      v = join ", " (Validation.dnsEntries dns) := by
  have hentries : ∀ e ∈ Validation.dnsEntries dns, e ≠ "" := by
    intro e he
    obtain ⟨piece, -, hne, rfl⟩ := mem_dnsEntries.1 he
    simpa using hne
  rw [dnsSetting, mem_settingUnlessEmpty, join_ne_empty hentries]

theorem dnsEntries_of_blank {dns : String} (h : isBlankText dns = true) :
    Validation.dnsEntries dns = [] := by
  -- A blank text is one piece, of which nothing is left.
  have hall : ∀ c ∈ dns.toList, isBlank c = true := List.all_eq_true.1 h
  have hcomma : ∀ c ∈ dns.toList, decide (c = ',') = false := fun c hc =>
    decide_eq_false fun he => absurd (he ▸ hall c hc) (by decide)
  have hnone : trimmed dns.toList = [] := by
    rw [trimmed, List.dropWhile_eq_nil_iff.2 hall]
    rfl
  simp [Validation.dnsEntries, splitOn_of_none hcomma, hnone]

/-- Of a text that passes the check and is not blank, every piece is an address. -/
theorem parse?_of_checkDns {dns : String} (h : Validation.checkDns dns = [])
    (hb : isBlankText dns = false) :
    ∀ piece ∈ splitOn (· = ',') dns.toList, ∃ a, IpAddress.parse? (trimmed piece) = some a := by
  intro piece hp
  rw [Validation.checkDns, if_neg (by simp [hb])] at h
  have hnone := List.filterMap_eq_nil_iff.1 h piece hp
  simp only at hnone
  split at hnone
  · rename_i a ha
    exact ⟨a, ha⟩
  · cases hnone

/-- The name servers that pass the check read as addresses. -/
theorem parse?_of_mem_dnsEntries {dns e : String} (h : Validation.checkDns dns = [])
    (he : e ∈ Validation.dnsEntries dns) : ∃ a, IpAddress.parse? e.toList = some a := by
  by_cases hb : isBlankText dns = true
  · rw [dnsEntries_of_blank hb] at he
    cases he
  · obtain ⟨piece, hp, -, rfl⟩ := mem_dnsEntries.1 he
    rw [String.toList_ofList]
    exact parse?_of_checkDns h (eq_false_of_ne_true hb) piece hp

/-! ## Lists of addresses -/

/-- Reads a list of addresses with commas between them, less the white space around each. -/
def readAddresses? (value : String) : Option (List IpAddress) :=
  ((splitOn (· = ',') value.toList).map trimmed).mapM IpAddress.parse?

theorem exists_mapM {α β : Type} {f : α → Option β} {l : List α} (h : ∀ a ∈ l, ∃ b, f a = some b) :
    ∃ bs, l.mapM f = some bs := by
  induction l with
  | nil => exact ⟨[], rfl⟩
  | cons a l ih =>
    rw [List.forall_mem_cons] at h
    obtain ⟨b, hb⟩ := h.1
    obtain ⟨bs, hbs⟩ := ih h.2
    exact ⟨b :: bs, by simp [List.mapM_cons, hb, hbs]⟩

/-- Texts without a comma are split where they were joined. -/
theorem splitOn_join {a : String} {parts : List String}
    (h : ∀ s ∈ a :: parts, ∀ c ∈ s.toList, decide (c = ',') = false) :
    splitOn (· = ',') (join ", " (a :: parts)).toList
      = a.toList :: parts.map fun s => ' ' :: s.toList := by
  induction parts generalizing a with
  | nil => simpa [join] using splitOn_of_none (h a List.mem_cons_self)
  | cons b parts ih =>
    rw [List.forall_mem_cons] at h
    have hjoin : (join ", " (a :: b :: parts)).toList
        = a.toList ++ ',' :: ' ' :: (join ", " (b :: parts)).toList := by
      simp [join, String.intercalate_cons_cons]
    rw [hjoin, splitOn_append h.1 (by decide), splitOn, ih h.2]
    simp

/-- A text that passes the check and is not blank has an entry for every piece. -/
theorem toList_dnsEntries {dns : String} (h : Validation.checkDns dns = [])
    (hb : isBlankText dns = false) :
    (Validation.dnsEntries dns).map String.toList
      = (splitOn (· = ',') dns.toList).map trimmed := by
  have hall : ((splitOn (· = ',') dns.toList).map trimmed).filter (· ≠ [])
      = (splitOn (· = ',') dns.toList).map trimmed := by
    rw [List.filter_eq_self, List.forall_mem_map]
    intro piece hp
    obtain ⟨a, ha⟩ := parse?_of_checkDns h hb piece hp
    have hnone : IpAddress.parse? [] = none := rfl
    rw [decide_eq_true_eq]
    intro hempty
    rw [hempty, hnone] at ha
    cases ha
  rw [Validation.dnsEntries, hall, List.map_map]
  exact (List.map_congr_left fun _ _ => String.toList_ofList).trans (List.map_id _)

/-- The name servers that pass the check are listed in a document as they are in the record. -/
theorem readAddresses?_join {dns : String} (h : Validation.checkDns dns = [])
    (hne : Validation.dnsEntries dns ≠ []) :
    ∃ addresses, readAddresses? dns = some addresses ∧
      readAddresses? (join ", " (Validation.dnsEntries dns)) = some addresses := by
  have hb : isBlankText dns = false := eq_false_of_ne_true fun hb => hne (dnsEntries_of_blank hb)
  have hchars : ∀ e ∈ Validation.dnsEntries dns, ∀ c ∈ e.toList, IpAddress.isTextChar c = true :=
    fun e he c hc =>
      have ⟨_, ha⟩ := parse?_of_mem_dnsEntries h he
      IpAddress.isTextChar_of_parse? ha hc
  have hcomma : ∀ e ∈ Validation.dnsEntries dns, ∀ c ∈ e.toList, decide (c = ',') = false := by
    intro e he c hc
    refine decide_eq_false fun hcomma => ?_
    exact absurd (hcomma ▸ hchars e he c hc) (by decide)
  have htrimmed : ∀ e ∈ Validation.dnsEntries dns, trimmed e.toList = e.toList ∧
      trimmed (' ' :: e.toList) = e.toList := by
    intro e he
    have hsolid : trimmed e.toList = e.toList := trimmed_eq fun c hc => by
      obtain ⟨h1, h2, -⟩ := IpAddress.toNat_of_isTextChar (hchars e he c hc)
      exact isBlank_eq_false (by omega) (by omega)
    refine ⟨hsolid, ?_⟩
    rw [trimmed, List.dropWhile_cons_of_pos (by decide)]
    exact hsolid
  have hpieces : (splitOn (· = ',') (join ", " (Validation.dnsEntries dns)).toList).map trimmed
      = (Validation.dnsEntries dns).map String.toList := by
    obtain ⟨e, rest, he⟩ := List.exists_cons_of_ne_nil hne
    rw [he] at hcomma htrimmed ⊢
    rw [List.forall_mem_cons] at htrimmed
    rw [splitOn_join hcomma, List.map_cons, List.map_cons, htrimmed.1.1, List.map_map]
    exact congrArg _ (List.map_congr_left fun e he => (htrimmed.2 e he).2)
  have hread : ∃ addresses, readAddresses? dns = some addresses :=
    exists_mapM (List.forall_mem_map.2 (parse?_of_checkDns h hb))
  obtain ⟨addresses, haddresses⟩ := hread
  refine ⟨addresses, haddresses, ?_⟩
  rw [← haddresses, readAddresses?, readAddresses?, hpieces, toList_dnsEntries h hb]

/-! ## Values on one line -/

theorem newline_notMem_key (k : Key) : '\n' ∉ k.text.toList := by
  intro h
  rw [Key.text, String.toList_ofList] at h
  exact absurd (Key.isBlank_of_mem_chars h) (by decide)

theorem newline_notMem_toString (n : Nat) : '\n' ∉ (toString n).toList := by
  intro h
  have hdigit : ('\n').isDigit = true :=
    isDigit_of_mem_toDigits (n := n) (by rwa [show toString n = String.ofList _ from rfl,
      String.toList_ofList] at h)
  cases hdigit

theorem newline_notMem_join {parts : List String} (h : ∀ s ∈ parts, '\n' ∉ s.toList) :
    '\n' ∉ (join ", " parts).toList := by
  intro hc
  rcases mem_join hc with hc | ⟨s, hs, hc⟩
  · exact absurd hc (by decide)
  · exact h s hs hc

theorem newline_notMem_dns {dns : String} (h : Validation.checkDns dns = []) :
    '\n' ∉ (join ", " (Validation.dnsEntries dns)).toList := by
  refine newline_notMem_join fun e he hc => ?_
  obtain ⟨a, ha⟩ := parse?_of_mem_dnsEntries h he
  exact absurd (IpAddress.isTextChar_of_parse? ha hc) (by decide)

end Document

end TunnelKeeper
