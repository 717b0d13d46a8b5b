import TunnelKeeper.Device.Endpoint
import TunnelKeeper.Proofs.Net.AddressChars
import TunnelKeeper.Proofs.Net.CidrText

/-!
# An endpoint has no white space

What is taken for an endpoint is an address with a port, of which brackets, a per cent sign and
digits are left besides the characters of an address, or labels of letters, digits and hyphens with a
number after a colon. There is no white space among these (`isSolid_of_isEndpoint`), and so no line
break.
-/

namespace TunnelKeeper

open Text Net IpAddress

/-- The character is no white space. -/
def isSolid (c : Char) : Bool := !isBlank c

theorem isSolid_of_isTextChar {c : Char} (h : isTextChar c = true) : isSolid c = true := by
  obtain ⟨h1, h2, -⟩ := toNat_of_isTextChar h
  rw [isSolid, isBlank_eq_false (by omega) (by omega)]
  rfl

/-! ## Addresses with a port -/

namespace SocketAddress

variable {s rest : List Char}

theorem ate_readPort? {n : UInt16} (h : readPort? s = some (n, rest)) : Ate isSolid s rest := by
  simp only [readPort?, Option.bind_eq_bind, Option.bind_eq_some_iff, Prod.exists, Option.pure_def,
    Option.some.injEq, Prod.mk.injEq] at h
  obtain ⟨_, hcolon, _, _, hn, -, rfl⟩ := h
  exact (ate_readChar? (by decide) hcolon).trans (ate_readDecimal? (fun _ => isSolid_of_isTextChar) hn)

theorem ate_readScope (s : List Char) : Ate isSolid s (readScope s).2 := by
  unfold readScope
  split
  · rename_i n rest h
    obtain ⟨t, hpercent, hn⟩ := Option.bind_eq_some_iff.1 h
    exact (ate_readChar? (by decide) hpercent).trans
      (ate_readDecimal? (fun _ => isSolid_of_isTextChar) hn)
  · exact .refl s

theorem ate_readBracketed? {a : SocketAddress} (h : readBracketed? s = some (a, rest)) :
    Ate isSolid s rest := by
  simp only [readBracketed?, Option.bind_eq_bind, Option.bind_eq_some_iff, Prod.exists,
    Option.pure_def, Option.some.injEq, Prod.mk.injEq] at h
  obtain ⟨_, hopen, _, t, hip, _, hclose, _, _, hport, -, rfl⟩ := h
  exact (ate_readChar? (by decide) hopen).trans
    ((ate_readV6? (fun _ => isSolid_of_isTextChar) hip).trans ((ate_readScope t).trans
      ((ate_readChar? (by decide) hclose).trans (ate_readPort? hport))))

theorem ate_readPlain? {a : SocketAddress} (h : readPlain? s = some (a, rest)) :
    Ate isSolid s rest := by
  simp only [readPlain?, Option.bind_eq_bind, Option.bind_eq_some_iff, Prod.exists, Option.pure_def,
    Option.some.injEq, Prod.mk.injEq] at h
  obtain ⟨_, _, hip, _, _, hport, -, rfl⟩ := h
  exact (ate_readV4? (fun _ => isSolid_of_isTextChar) hip).trans (ate_readPort? hport)

theorem isSolid_of_parse? {a : SocketAddress} (h : parse? s = some a) {c : Char} (hc : c ∈ s) :
    isSolid c = true := by
  unfold parse? whole? at h
  split at h
  · rename_i b hr
    have hate : Ate isSolid s [] := by
      rcases Option.or_eq_some_iff.1 hr with hr | ⟨-, hr⟩
      · exact ate_readPlain? hr
      · exact ate_readBracketed? hr
    exact hate.all hc
  · cases h

end SocketAddress

/-! ## Host names -/

theorem isSolid_of_isDigit {c : Char} (h : c.isDigit = true) : isSolid c = true :=
  isSolid_of_isTextChar (isTextChar_of_isDigit h)

theorem isSolid_of_isHostLabel {s : List Char} (h : isHostLabel s = true) {c : Char} (hc : c ∈ s) :
    isSolid c = true := by
  simp only [isHostLabel, Bool.and_eq_true, List.all_eq_true, Bool.or_eq_true,
    decide_eq_true_eq] at h
  rcases h.2 c hc with halphanum | rfl
  · rcases Bool.or_eq_true_iff.1 halphanum with halpha | hdigit
    · rw [isSolid, isBlank_of_isAlpha halpha]
      rfl
    · exact isSolid_of_isDigit hdigit
  · decide

theorem isSolid_of_isHostName {s : List Char} (h : isHostName s = true) {c : Char} (hc : c ∈ s) :
    isSolid c = true := by
  simp only [isHostName, Bool.and_eq_true, List.all_eq_true] at h
  rcases mem_splitOn (fun c => decide (c = '.')) hc with hpoint | ⟨label, hlabel, hc⟩
  · obtain rfl : c = '.' := of_decide_eq_true hpoint
    decide
  · exact isSolid_of_isHostLabel (h.2 label hlabel) hc

theorem isSolid_of_readNat? {bound : Nat} {s : List Char} (h : (readNat? bound s).isSome = true)
    {c : Char} (hc : c ∈ s) : isSolid c = true := by
  have hdigits : ∀ t : List Char, ((readDigits? t).filter (· ≤ bound)).isSome = true →
      ∀ c ∈ t, isSolid c = true := by
    intro t ht c hc
    obtain ⟨n, hn⟩ := Option.isSome_iff_exists.1 ht
    have hread := (Option.filter_eq_some_iff.1 hn).1
    unfold readDigits? at hread
    split at hread
    · rename_i hall
      exact isSolid_of_isDigit (List.all_eq_true.1 (Bool.and_eq_true_iff.1 hall).2 c hc)
    · cases hread
  unfold readNat? at h
  split at h
  · rcases List.mem_cons.1 hc with rfl | hc
    · decide
    · exact hdigits _ h c hc
  · exact hdigits _ h c hc

/-- An endpoint has no white space in it. -/
theorem isSolid_of_isEndpoint {s : String} (h : isEndpoint s = true) {c : Char}
    (hc : c ∈ s.toList) : isSolid c = true := by
  rcases Bool.or_eq_true_iff.1 h with h | h
  · obtain ⟨a, ha⟩ := Option.isSome_iff_exists.1 h
    exact SocketAddress.isSolid_of_parse? ha hc
  · split at h
    · rename_i host port hsplit
      obtain ⟨hport, hhost⟩ := Bool.and_eq_true_iff.1 h
      rw [eq_of_splitLast? hsplit, List.mem_append, List.mem_cons] at hc
      rcases hc with hc | rfl | hc
      · exact isSolid_of_isHostName hhost hc
      · decide
      · exact isSolid_of_readNat? hport hc
    · cases h

end TunnelKeeper
