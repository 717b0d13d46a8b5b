import TunnelKeeper.Proofs.InMemory
import TunnelKeeper.Proofs.Store.Spelling
import TunnelKeeper.Proofs.Text.Search

/-!
# Peers found by a part of what they say

A search goes through the name, the description and the e-mail address of each row. A row is listed
under every word that occurs in one of them (`PeerRow.listed_by_occurrence`), where an occurrence has
the capital sigmas of the word in the form that they have in the word alone. A word with a sigma that
stands at its end, and not at the end of a word of the text, is missed (`Sample.occurrence_missed`).
-/

namespace TunnelKeeper

open Text

namespace PeerRow

variable {q : PeerQuery} {rows : List PeerRow} {r : PeerRow}

/-- The texts of a row that a search goes through. -/
def searched (r : PeerRow) : List String := [r.name, r.description, r.email]

theorem fits_iff : r.fits q = true ↔ r.isOf q.device = true ∧
    matchesSearch q.search r.searched = true := Bool.and_eq_true_iff

/-- Without a limit a query lists the rows that it asks for. -/
theorem mem_items_page (hskip : q.skip = 0) (hlimit : q.limit = 0) :
    r ∈ (page q rows).items ↔ r ∈ rows ∧ r.fits q = true := by
  rw [page, Page.ofList, hskip, if_pos hlimit, List.drop_zero, (sortBy_perm _ _).mem_iff,
    List.mem_filter]

/-- A listing that is given has the peers of the rows on its page. -/
theorem mem_items_of_select {listing : Page Peer} (h : select q rows = .ok listing)
    (hr : r ∈ (page q rows).items) : ∃ p ∈ listing.items, r.toPeer = .ok p := by
  simp only [select] at h
  split at h
  · rename_i ps hps
    obtain rfl := Except.ok.inj h
    obtain ⟨p, hp⟩ := toPeers_ok_iff.1 ⟨ps, hps⟩ r hr
    exact ⟨p, (mem_toPeers hps).2 ⟨r, hr, hp⟩, hp⟩
  · cases h

/-- A listing is given where the rows on its page can be read. -/
theorem exists_select (h : ∀ r ∈ (page q rows).items, ∃ p, r.toPeer = .ok p) :
    ∃ listing, select q rows = .ok listing := by
  obtain ⟨ps, hps⟩ := toPeers_ok_iff.2 h
  exact ⟨_, by rw [select, hps]⟩

/-- A search finds the texts in which its word, less the white space around it, stands in lower case,
and so every text in which the word occurs; a word without a capital sigma occurs wherever it is
written. So a row is listed, of its device or of all, under every word that occurs in its name, its
description or its e-mail address. -/
theorem listed_by_occurrence (needle : String) :
    (∀ haystacks : List String,
      (matchesSearch (some needle) haystacks = true ↔ trimmed needle.toList = [] ∨
        ∃ s ∈ haystacks, lowercase (trimmed needle.toList) <:+: lowercase s.toList) ∧
      ((trimmed needle.toList = [] ∨
        ∃ s ∈ haystacks, Occurs (trimmed needle.toList) s.toList) →
        matchesSearch (some needle) haystacks = true) ∧
      ('Σ' ∉ trimmed needle.toList →
        (∃ s ∈ haystacks, trimmed needle.toList <:+: s.toList) →
          matchesSearch (some needle) haystacks = true)) ∧
    ∀ (device : Option Uuid) (rows : List PeerRow), ∀ r ∈ rows, r.isOf device = true →
      (trimmed needle.toList = [] ∨ ∃ s ∈ [r.name, r.description, r.email],
        Occurs (trimmed needle.toList) s.toList) →
      r ∈ (page ⟨0, 0, some needle, device⟩ rows).items ∧
        (∀ listing, select ⟨0, 0, some needle, device⟩ rows = .ok listing →
          ∃ p ∈ listing.items, r.toPeer = .ok p) ∧
        ((∀ s ∈ rows, ∃ p, s.toPeer = .ok p) →
          ∃ listing, select ⟨0, 0, some needle, device⟩ rows = .ok listing) := by
  refine ⟨fun haystacks => ⟨matchesSearch_iff, matchesSearch_of_occurs, fun hsigma h => ?_⟩,
    fun device rows r hr hdevice h => ?_⟩
  · obtain ⟨s, hs, hwritten⟩ := h
    exact matchesSearch_of_occurs (.inr ⟨s, hs, occurs_of_infix hwritten hsigma⟩)
  have hlisted : r ∈ (page ⟨0, 0, some needle, device⟩ rows).items :=
    (mem_items_page rfl rfl).2 ⟨hr, fits_iff.2 ⟨hdevice, matchesSearch_of_occurs h⟩⟩
  refine ⟨hlisted, fun listing hl => mem_items_of_select hl hlisted, fun hread => ?_⟩
  exact exists_select fun s hs => hread s ((mem_items_page rfl rfl).1 hs).1

end PeerRow

/-! ## Words with a sigma -/

namespace Sample

/-- A row whose name has two words in capitals that end in a sigma. -/
def sigmaRow : PeerRow := { (peer 1 true []).toRow with name := "ΔΡΟΜΟΣ ΟΔΟΣ." }

theorem occurs_sigma : Occurs (trimmed " ΜΟΣ ".toList) sigmaRow.name.toList := by
  refine ⟨"ΔΡΟ".toList, " ΟΔΟΣ.".toList, by decide +kernel, ?_⟩
  exact lowerWithin_eq_iff.1 (by decide +kernel)

/-- The end of a word in capitals finds the text that it is from. -/
theorem listed_by_occurrence_sigma :
    matchesSearch (some " ΜΟΣ ") ["x", sigmaRow.name] = true ∧
      sigmaRow ∈ (PeerRow.page ⟨0, 0, some " ΜΟΣ ", none⟩ [capitalRow, sigmaRow]).items :=
  ⟨((PeerRow.listed_by_occurrence " ΜΟΣ ").1 _).2.1 (.inr ⟨sigmaRow.name, by simp, occurs_sigma⟩),
    ((PeerRow.listed_by_occurrence " ΜΟΣ ").2 none _ sigmaRow (by simp) rfl
      (.inr ⟨sigmaRow.name, by simp, occurs_sigma⟩)).1⟩

/-- A text that begins with the word that is searched for, and is not found. -/
theorem occurrence_missed :
    trimmed "ΑΣ".toList ≠ [] ∧ trimmed "ΑΣ".toList <:+: "ΑΣΑ".toList ∧
      matchesSearch (some "ΑΣ") ["ΑΣΑ"] = false :=
  ⟨by decide +kernel, ⟨[], ['Α'], by decide +kernel⟩, by decide +kernel⟩

end Sample

end TunnelKeeper
