import TunnelKeeper.Proofs.Net.AddressText

/-!
# The characters of what reads as an address

Whatever the readers of addresses take off the front of a text is made of hexadecimal digits, points
and colons, so it is made of any characters that include these (`Ate`). A text that reads as an
address as a whole has no other characters (`isTextChar_of_parse?`), and no line break.
-/

namespace TunnelKeeper

open Text IpAddress

namespace Net

/-- `rest` is left of `s` after characters that `p` allows. -/
def Ate (p : Char → Bool) (s rest : List Char) : Prop :=
  ∃ front, s = front ++ rest ∧ ∀ c ∈ front, p c = true

variable {p : Char → Bool} {s t u rest : List Char}

theorem Ate.refl (s : List Char) : Ate p s s := ⟨[], rfl, List.forall_mem_nil _⟩

theorem Ate.trans (h : Ate p s t) (h' : Ate p t u) : Ate p s u := by
  obtain ⟨front, rfl, hfront⟩ := h
  obtain ⟨front', rfl, hfront'⟩ := h'
  exact ⟨front ++ front', (List.append_assoc _ _ _).symm,
    List.forall_mem_append.2 ⟨hfront, hfront'⟩⟩

/-- What was eaten is all there was. -/
theorem Ate.all (h : Ate p s []) {c : Char} (hc : c ∈ s) : p c = true := by
  obtain ⟨front, rfl, hfront⟩ := h
  exact hfront c (by simpa using hc)

theorem ate_takeWhile {q : Char → Bool} (hq : ∀ c, q c = true → p c = true) (s : List Char) :
    Ate p s (s.drop (s.takeWhile q).length) := by
  have hall : ∀ c ∈ s.takeWhile q, q c = true := List.all_eq_true.1 List.all_takeWhile
  have htake : s.take (s.takeWhile q).length = s.takeWhile q :=
    (List.prefix_iff_eq_take.1 (List.takeWhile_prefix q)).symm
  have hsplit := List.take_append_drop (s.takeWhile q).length s
  rw [htake] at hsplit
  exact ⟨s.takeWhile q, hsplit.symm, fun c hc => hq c (hall c hc)⟩

theorem ate_readChar? {c : Char} (hc : p c = true) (h : readChar? c s = some rest) :
    Ate p s rest := by
  cases s with
  | nil => cases h
  | cons d s =>
    simp only [readChar?] at h
    split at h
    · rename_i hd
      obtain rfl := Option.some.inj h
      exact ⟨[d], rfl, List.forall_mem_singleton.2 (hd ▸ hc)⟩
    · cases h

section

variable (hp : ∀ c, isTextChar c = true → p c = true)
include hp

theorem ate_readDecimal? {bound n : Nat} (h : readDecimal? bound s = some (n, rest)) :
    Ate p s rest := by
  simp only [readDecimal?, Option.map_eq_some_iff, Prod.mk.injEq] at h
  obtain ⟨_, -, -, rfl⟩ := h
  exact ate_takeWhile (fun c hc => hp c (isTextChar_of_isDigit hc)) s

theorem ate_readOctet? {o : UInt8} (h : readOctet? s = some (o, rest)) : Ate p s rest := by
  simp only [readOctet?] at h
  split at h
  · obtain ⟨⟨n, t⟩, hn, he⟩ := Option.map_eq_some_iff.1 h
    obtain ⟨-, rfl⟩ := Prod.mk.inj he
    exact ate_readDecimal? hp hn
  · cases h

theorem ate_readGroup? {g : Nat} (h : readGroup? s = some (g, rest)) : Ate p s rest := by
  simp only [readGroup?] at h
  split at h
  · cases h
  · obtain ⟨-, rfl⟩ := Prod.mk.inj (Option.some.inj h)
    exact ate_takeWhile (fun c hc => hp c (by simp [isTextChar, isHex, hc])) s

theorem ate_readV4? {a : IpAddress} (h : readV4? s = some (a, rest)) : Ate p s rest := by
  simp only [readV4?, Option.bind_eq_bind, Option.bind_eq_some_iff, Prod.exists, Option.pure_def,
    Option.some.injEq, Prod.mk.injEq] at h
  obtain ⟨_, _, h1, _, p1, _, _, h2, _, p2, _, _, h3, _, p3, _, _, h4, -, rfl⟩ := h
  have octet : ∀ {s t o}, readOctet? s = some (o, t) → Ate p s t := ate_readOctet? hp
  have point : ∀ {s t}, readChar? '.' s = some t → Ate p s t := ate_readChar? (hp '.' (by decide))
  exact (octet h1).trans ((point p1).trans ((octet h2).trans ((point p2).trans
    ((octet h3).trans ((point p3).trans (octet h4))))))

theorem ate_readSeparator? {first : Bool} (h : readSeparator? first s = some t) : Ate p s t := by
  unfold readSeparator? at h
  split at h
  · exact Option.some.inj h ▸ .refl s
  · exact ate_readChar? (hp ':' (by decide)) h

theorem ate_readGroups (first : Bool) (slots : Nat) (s : List Char) :
    Ate p s (readGroups first slots s).rest := by
  induction slots generalizing first s with
  | zero => exact .refl s
  | succ slots ih =>
    unfold readGroups
    split
    · exact .refl s
    · rename_i t ht
      have hst := ate_readSeparator? hp ht
      split
      · rename_i a rest hr
        split at hr
        · exact hst.trans (ate_readV4? hp hr)
        · cases hr
      · split
        · exact .refl s
        · rename_i g rest hg
          exact hst.trans ((ate_readGroup? hp hg).trans (ih false rest))

theorem ate_readV6? {a : IpAddress} (h : readV6? s = some (a, rest)) : Ate p s rest := by
  simp only [readV6?] at h
  have hhead := ate_readGroups hp true 8 s
  split at h
  · obtain ⟨-, rfl⟩ := Prod.mk.inj (Option.some.inj h)
    exact hhead
  · split at h
    · cases h
    · simp only [Option.bind_eq_bind, Option.bind_eq_some_iff, Option.pure_def, Option.some.injEq,
        Prod.mk.injEq] at h
      obtain ⟨_, c1, _, c2, -, rfl⟩ := h
      have colon : ∀ {s t}, readChar? ':' s = some t → Ate p s t :=
        ate_readChar? (hp ':' (by decide))
      exact hhead.trans ((colon c1).trans ((colon c2).trans (ate_readGroups hp _ _ _)))

end

end Net

/-- A text that reads as an address has the characters of one. -/
theorem IpAddress.isTextChar_of_parse? {s : List Char} {a : IpAddress} (h : parse? s = some a)
    {c : Char} (hc : c ∈ s) : isTextChar c = true := by
  unfold parse? Net.whole? at h
  split at h
  · rename_i b hr
    have hate : Net.Ate isTextChar s [] := by
      rcases Option.or_eq_some_iff.1 hr with hr | ⟨-, hr⟩
      · exact Net.ate_readV4? (fun _ h => h) hr
      · exact Net.ate_readV6? (fun _ h => h) hr
    exact hate.all hc
  · cases h

end TunnelKeeper
