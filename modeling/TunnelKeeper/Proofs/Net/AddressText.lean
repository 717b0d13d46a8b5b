import TunnelKeeper.Proofs.Net.Octets
import TunnelKeeper.Proofs.Text.Digits

/-!
# The text of an address reads back

`parse?_text`: reading the text of an address gives the address. For four octets this is
`readV4?_octets`. For eight groups the reader works without looking ahead, so `readGroups_chain`
says what it takes off a run of printed groups and where it stops; the run of zeros that a text
leaves out is one of the address (`zeros_longestZeros`), so putting it back gives the same groups.
-/

namespace TunnelKeeper.Net

open Text

/-! ## Four octets -/

theorem readOctet?_decimal (o : UInt8) {rest : List Char} (hr : Stops Char.isDigit rest) :
    readOctet? (Nat.toDigits 10 o.toNat ++ rest) = some (o, rest) := by
  have hlt := o.toNat_lt
  have htake : (Nat.toDigits 10 o.toNat ++ rest).takeWhile Char.isDigit
      = Nat.toDigits 10 o.toNat :=
    takeWhile_append_of_stops (fun c hc => isDigit_of_mem_toDigits hc) hr
  have hlen : (Nat.toDigits 10 o.toNat).length ≤ 3 :=
    (Nat.length_toDigits_le_iff (by decide) (by decide)).2 (by omega)
  have hhead : (Nat.toDigits 10 o.toNat).length ≤ 1 ∨
      (Nat.toDigits 10 o.toNat).head? ≠ some '0' := by
    rcases Nat.eq_zero_or_pos o.toNat with h0 | hpos
    · exact .inl (by simp [h0])
    · exact .inr (head?_toDigits hpos)
  unfold readOctet? readDecimal?
  simp only [htake, readDigits?_toDigits, List.drop_left, Option.filter_some]
  rw [if_pos ⟨hlen, hhead⟩, if_pos (by simp; omega)]
  simp

theorem toList_octetsText (a b c d : UInt8) :
    (octetsText [a, b, c, d]).toList = Nat.toDigits 10 a.toNat ++ '.' :: (Nat.toDigits 10 b.toNat
      ++ '.' :: (Nat.toDigits 10 c.toNat ++ '.' :: Nat.toDigits 10 d.toNat)) := by
  simp [octetsText, Text.join, Text.decimal]

theorem readV4?_octets (a b c d : UInt8) {rest : List Char} (hr : Stops Char.isDigit rest) :
    readV4? ((octetsText [a, b, c, d]).toList ++ rest) = some (IpAddress.v4 a b c d, rest) := by
  have hdot : ∀ s : List Char, Stops Char.isDigit ('.' :: s) := fun s => stops_cons (by decide)
  rw [toList_octetsText]
  simp only [List.append_assoc, List.cons_append, readV4?, readOctet?_decimal a (hdot _),
    readOctet?_decimal b (hdot _), readOctet?_decimal c (hdot _), readOctet?_decimal d hr,
    readChar?, if_true, Option.bind_eq_bind, Option.bind_some, Option.pure_def]

/-- Four octets have a point. -/
theorem mem_of_readV4? {s rest : List Char} {a : IpAddress} (h : readV4? s = some (a, rest)) :
    '.' ∈ s := by
  simp only [readV4?, Option.bind_eq_bind, Option.bind_eq_some_iff, Prod.exists] at h
  obtain ⟨o, t, ho, u, hu, -⟩ := h
  have hmem : '.' ∈ t := by
    cases t with
    | nil => simp [readChar?] at hu
    | cons c t =>
      simp only [readChar?] at hu
      split at hu
      · rename_i hc; subst hc; exact List.mem_cons_self
      · cases hu
  unfold readOctet? at ho
  simp only at ho
  split at ho
  · simp only [readDecimal?, Option.map_map, Option.map_eq_some_iff, Function.comp_apply,
      Prod.mk.injEq] at ho
    obtain ⟨n, -, -, rfl⟩ := ho
    exact List.mem_of_mem_drop hmem
  · cases ho

theorem readV4?_eq_none {s : List Char} (h : '.' ∉ s) : readV4? s = none := by
  cases hs : readV4? s with
  | none => rfl
  | some r => exact absurd (mem_of_readV4? hs) h

/-- Four octets begin with a digit. -/
theorem readV4?_eq_none_of_stops {s : List Char} (h : Stops Char.isDigit s) :
    readV4? s = none := by
  have htake : s.takeWhile Char.isDigit = [] :=
    takeWhile_of_stops h
  have ho : readOctet? s = none := by
    simp [readOctet?, readDecimal?, htake, readDigits?]
  simp [readV4?, ho]

/-! ## Runs of groups -/

/-- Groups as they follow another group. -/
def chain (gs : List Nat) : List Char := gs.flatMap fun g => ':' :: hexDigits g

theorem toList_groupsText_cons (g : Nat) (gs : List Nat) :
    (groupsText (g :: gs)).toList = hexDigits g ++ chain gs := by
  induction gs generalizing g with
  | nil => simp [groupsText, chain, Text.join]
  | cons h gs ih =>
    have := ih h
    simp only [groupsText, Text.join, List.map_cons] at this ⊢
    rw [String.intercalate_cons_cons, String.toList_append, String.toList_append, this]
    simp [chain]

theorem point_notMem_hexDigits (n : Nat) : '.' ∉ hexDigits n := by
  intro h
  have := isSome_hexValue?_of_mem h
  exact absurd this (by decide)

theorem point_notMem_chain (gs : List Nat) : '.' ∉ chain gs := by
  simp only [chain, List.mem_flatMap, List.mem_cons, not_exists, not_and, not_or]
  exact fun g _ => ⟨by decide, point_notMem_hexDigits g⟩

/-- Groups are printed in digits and colons. -/
theorem mem_groupsText {gs : List Nat} {c : Char} (h : c ∈ (groupsText gs).toList) :
    isHex c = true ∨ c = ':' := by
  cases gs with
  | nil => simp [groupsText, Text.join] at h
  | cons g gs =>
    rw [toList_groupsText_cons, List.mem_append, chain, List.mem_flatMap] at h
    rcases h with h | ⟨g', -, h⟩
    · exact .inl (isSome_hexValue?_of_mem h)
    · rcases List.mem_cons.1 h with rfl | h
      · exact .inr rfl
      · exact .inl (isSome_hexValue?_of_mem h)

theorem point_notMem_groupsText (gs : List Nat) : '.' ∉ (groupsText gs).toList := by
  intro h
  rcases mem_groupsText h with h | h
  · exact absurd h (by decide)
  · exact absurd h (by decide)

/-- What stops a run of groups: no digit, and no colon with a digit after it. -/
structure EndsGroups (rest : List Char) : Prop where
  stops : Stops isHex rest
  after_colon : ∀ t, rest = ':' :: t → Stops isHex t
  no_point : '.' ∉ rest

theorem EndsGroups.nil : EndsGroups [] := ⟨stops_nil _, by simp, by simp⟩

theorem readGroup?_eq_none {s : List Char} (h : Stops isHex s) : readGroup? s = none := by
  have htake : s.takeWhile (fun c => (hexValue? c).isSome) = [] :=
    takeWhile_of_stops (p := isHex) h
  simp [readGroup?, htake]

theorem stops_chain_append (gs : List Nat) {rest : List Char} (h : Stops isHex rest) :
    Stops isHex (chain gs ++ rest) := by
  cases gs with
  | nil => exact h
  | cons g gs => exact stops_cons (by decide)

/-- A run of printed groups is read up to its end, where `slots` are enough. -/
theorem readGroups_chain (gs : List Nat) (slots : Nat) {rest : List Char}
    (hlen : gs.length ≤ slots) (hg : ∀ g ∈ gs, g < 65536) (hr : EndsGroups rest) :
    readGroups false slots (chain gs ++ rest) = ⟨gs, false, rest⟩ := by
  induction gs generalizing slots with
  | nil =>
    show readGroups false slots rest = _
    cases slots with
    | zero => rfl
    | succ slots =>
      cases rest with
      | nil => simp [readGroups, readSeparator?, readChar?]
      | cons c t =>
        by_cases hc : c = ':'
        · subst hc
          have h4 : readV4? t = none :=
            readV4?_eq_none fun h => hr.no_point (List.mem_cons_of_mem _ h)
          have hgr : readGroup? t = none := readGroup?_eq_none (hr.after_colon t rfl)
          simp [readGroups, readSeparator?, readChar?, h4, hgr]
        · simp [readGroups, readSeparator?, readChar?, hc]
  | cons g gs ih =>
    cases slots with
    | zero => simp at hlen
    | succ slots =>
      have h4 : readV4? (hexDigits g ++ (chain gs ++ rest)) = none := by
        refine readV4?_eq_none ?_
        simp only [List.mem_append, not_or]
        exact ⟨point_notMem_hexDigits g, point_notMem_chain gs, hr.no_point⟩
      have hgr := readGroup?_hex (hg g List.mem_cons_self) (stops_chain_append gs hr.stops)
      have htail := ih slots (by simpa using hlen)
        fun g' hg' => hg g' (List.mem_cons_of_mem _ hg')
      have hs : chain (g :: gs) ++ rest = ':' :: (hexDigits g ++ (chain gs ++ rest)) := by
        simp [chain]
      simp [hs, readGroups, readSeparator?, readChar?, h4, hgr, htail]

/-- The same at the start of a run, which has no colon before it. -/
theorem readGroups_groupsText (gs : List Nat) (slots : Nat) {rest : List Char}
    (hlen : gs.length ≤ slots) (hg : ∀ g ∈ gs, g < 65536) (hr : EndsGroups rest) :
    readGroups true slots ((groupsText gs).toList ++ rest) = ⟨gs, false, rest⟩ := by
  cases gs with
  | nil =>
    have htext : (groupsText []).toList = [] := by simp [groupsText, Text.join]
    cases slots with
    | zero => simp [readGroups, htext]
    | succ slots =>
      simp [readGroups, readSeparator?, htext, readV4?_eq_none hr.no_point,
        readGroup?_eq_none hr.stops]
  | cons g gs =>
    cases slots with
    | zero => simp at hlen
    | succ slots =>
      have h4 : readV4? (hexDigits g ++ (chain gs ++ rest)) = none := by
        refine readV4?_eq_none ?_
        simp only [List.mem_append, not_or]
        exact ⟨point_notMem_hexDigits g, point_notMem_chain gs, hr.no_point⟩
      have hgr := readGroup?_hex (hg g List.mem_cons_self) (stops_chain_append gs hr.stops)
      have htail := readGroups_chain gs slots (by simpa using hlen)
        (fun g' hg' => hg g' (List.mem_cons_of_mem _ hg')) hr
      rw [toList_groupsText_cons, List.append_assoc]
      simp [readGroups, readSeparator?, h4, hgr, htail]

/-! ## The run of zeros that is left out -/

/-- The `r.1` groups from position `r.2` are zero. -/
def Zeros (gs : List Nat) (r : Nat × Nat) : Prop :=
  ∃ before after, gs = before ++ List.replicate r.1 0 ++ after ∧ before.length = r.2

/-- What the search for the longest run finds is a run, if what it starts from is one. -/
theorem zeros_longestZeros {gs rest : List Nat} (before : List Nat) {i start run : Nat}
    {best : Nat × Nat} (hgs : gs = before ++ List.replicate run 0 ++ rest)
    (hi : i = before.length + run) (hstart : 0 < run → before.length = start)
    (hbest : Zeros gs best) : Zeros gs (longestZeros rest i start run best) := by
  induction rest generalizing before i start run best with
  | nil => exact hbest
  | cons g rest ih =>
    unfold longestZeros
    by_cases hg : g = 0
    · subst hg
      have hgs' : gs = before ++ List.replicate (run + 1) 0 ++ rest := by
        rw [hgs, List.replicate_succ']
        simp
      have hstart' : before.length = if run = 0 then i else start := by
        split
        · omega
        · exact hstart (by omega)
      rw [if_pos rfl]
      refine ih before hgs' (by omega) (fun _ => hstart') ?_
      split
      · exact ⟨before, rest, hgs', hstart'⟩
      · exact hbest
    · rw [if_neg hg]
      refine ih (before ++ List.replicate run 0 ++ [g]) ?_ ?_ (by omega) hbest
      · rw [hgs]; simp
      · simp; omega

theorem Zeros.take {gs : List Nat} {r : Nat × Nat} (h : Zeros gs r) :
    gs = gs.take r.2 ++ List.replicate r.1 0 ++ gs.drop (r.2 + r.1) ∧
      r.2 + r.1 ≤ gs.length := by
  obtain ⟨before, after, hgs, hlen⟩ := h
  have htake : gs.take r.2 = before := by
    rw [hgs, List.append_assoc, ← hlen, List.take_left]
  have hdrop : gs.drop (r.2 + r.1) = after := by
    rw [hgs, ← hlen, List.drop_left' (by simp)]
  refine ⟨by rw [htake, hdrop]; exact hgs, ?_⟩
  rw [hgs]
  simp only [List.length_append, List.length_replicate]
  omega

/-! ## Groups and octets -/

theorem groups_drop (k : Nat) (os : List UInt8) :
    IpAddress.groups (os.drop (2 * k)) = (IpAddress.groups os).drop k := by
  induction k generalizing os with
  | zero => rfl
  | succ k ih =>
    match os with
    | [] => simp [IpAddress.groups]
    | [a] =>
      rw [List.drop_eq_nil_of_le (by simp; omega)]
      simp [IpAddress.groups]
    | a :: b :: rest => simpa [IpAddress.groups, Nat.mul_succ] using ih rest

theorem length_groups (os : List UInt8) : (IpAddress.groups os).length = os.length / 2 := by
  induction os using IpAddress.groups.induct with
  | case1 a b rest ih =>
    rw [IpAddress.groups, List.length_cons, ih, List.length_cons, List.length_cons]
    omega
  | case2 os h =>
    match os, h with
    | [], _ => rfl
    | [a], _ => simp [IpAddress.groups]
    | a :: b :: rest, h => exact absurd rfl (h a b rest)

theorem lt_of_mem_groups {os : List UInt8} {g : Nat} (h : g ∈ IpAddress.groups os) :
    g < 65536 := by
  induction os using IpAddress.groups.induct with
  | case1 a b rest ih =>
    rw [IpAddress.groups, List.mem_cons] at h
    rcases h with rfl | h
    · have := a.toNat_lt
      have := b.toNat_lt
      omega
    · exact ih h
  | case2 os ho =>
    match os, ho with
    | [], _ => simp [IpAddress.groups] at h
    | [a], _ => simp [IpAddress.groups] at h
    | a :: b :: rest, ho => exact absurd rfl (ho a b rest)

theorem foldl_groups (os : List UInt8) (n : Nat) (h : os.length % 2 = 0) :
    (IpAddress.groups os).foldl (fun n g => 65536 * n + g) n
      = os.foldl (fun n o => 256 * n + o.toNat) n := by
  induction os using IpAddress.groups.induct generalizing n with
  | case1 a b rest ih =>
    simp only [IpAddress.groups, List.foldl_cons]
    rw [ih _ (by simp only [List.length_cons] at h; omega)]
    congr 1
    omega
  | case2 os ho =>
    match os, ho, h with
    | [], _, _ => rfl
    | [a], _, h => simp at h
    | a :: b :: rest, ho, _ => exact absurd rfl (ho a b rest)

/-- The groups of an address stand for the address. -/
theorem v6_groupsValue {a : IpAddress} (h : a.family = .v6) :
    IpAddress.v6 (groupsValue (IpAddress.groups a.octets)) = a := by
  obtain ⟨f, os, hl⟩ := a
  obtain rfl : f = .v6 := h
  have hlen : os.length = 16 := hl
  have hv : groupsValue (IpAddress.groups os) = Octets.toNat os :=
    foldl_groups os 0 (by rw [hlen])
  unfold IpAddress.v6
  congr 1
  rw [hv, ← hlen]
  exact Octets.ofNat_toNat os

end TunnelKeeper.Net

namespace TunnelKeeper.IpAddress

open Net Text

/-! ## Addresses -/

theorem exists_v4 {a : IpAddress} (h : a.family = .v4) : ∃ w x y z, a = v4 w x y z := by
  obtain ⟨f, os, hl⟩ := a
  obtain rfl : f = .v4 := h
  match os, hl with
  | [w, x, y, z], _ => exact ⟨w, x, y, z, rfl⟩

theorem text_v4 (w x y z : UInt8) : (v4 w x y z).text = octetsText [w, x, y, z] := rfl

theorem readIp?_v4 (w x y z : UInt8) :
    readIp? (v4 w x y z).text.toList = some (v4 w x y z, []) := by
  have h := readV4?_octets w x y z (stops_nil Char.isDigit)
  rw [List.append_nil] at h
  rw [readIp?, text_v4, h]
  rfl

/-- The groups with a run of zeros left out read back. -/
theorem readV6?_compressed {a : IpAddress} (hf : a.family = .v6) {length start : Nat}
    (hz : Zeros (groups a.octets) (length, start)) (hl : 1 < length) :
    readV6? ((groupsText ((groups a.octets).take start)).toList
      ++ ':' :: ':' :: (groupsText ((groups a.octets).drop (start + length))).toList)
      = some (a, []) := by
  obtain ⟨hsplit, hle⟩ := hz.take
  have hlen : (groups a.octets).length = 8 := by
    rw [length_groups, a.length_octets, hf]
    rfl
  have htake : ((groups a.octets).take start).length = start := by
    rw [List.length_take]; omega
  have hdrop : ((groups a.octets).drop (start + length)).length = 8 - (start + length) := by
    rw [List.length_drop, hlen]
  have hends : EndsGroups
      (':' :: ':' :: (groupsText ((groups a.octets).drop (start + length))).toList) := by
    refine ⟨stops_cons (by decide), ?_, ?_⟩
    · intro t ht
      rw [← (List.cons.inj ht).2]
      exact stops_cons (by decide)
    · simp only [List.mem_cons, not_or]
      exact ⟨by decide, by decide, point_notMem_groupsText _⟩
  have hhead := readGroups_groupsText ((groups a.octets).take start) 8 (by omega)
    (fun g hg => lt_of_mem_groups (List.mem_of_mem_take hg)) hends
  have htail := readGroups_groupsText ((groups a.octets).drop (start + length))
    (7 - start) (by omega)
    (fun g hg => lt_of_mem_groups (List.mem_of_mem_drop hg)) EndsGroups.nil
  rw [List.append_nil] at htail
  unfold readV6?
  simp only [hhead, htake]
  rw [if_neg (by omega)]
  simp only [Bool.false_eq_true, if_false, readChar?, if_true, Option.bind_eq_bind,
    Option.bind_some, htail, hdrop]
  rw [show 8 - start - (8 - (start + length)) = length by omega, ← hsplit, v6_groupsValue hf]
  rfl

/-- All eight groups read back. -/
theorem readV6?_groups {a : IpAddress} (hf : a.family = .v6) :
    readV6? (groupsText (groups a.octets)).toList = some (a, []) := by
  have hlen : (groups a.octets).length = 8 := by
    rw [length_groups, a.length_octets, hf]
    rfl
  have hhead := readGroups_groupsText (groups a.octets) 8 (by omega)
    (fun g hg => lt_of_mem_groups hg) EndsGroups.nil
  rw [List.append_nil] at hhead
  unfold readV6?
  simp only [hhead, hlen, if_true, v6_groupsValue hf]

/-- The groups with the last two written as four octets read back. -/
theorem readV6?_mapped {a : IpAddress} (hf : a.family = .v6)
    (h6 : (groups a.octets).take 6 = [0, 0, 0, 0, 0, 65535]) :
    readV6? (':' :: ':' :: 'f' :: 'f' :: 'f' :: 'f' :: ':' :: (octetsText (a.octets.drop 12)).toList)
      = some (a, []) := by
  have hlen : (a.octets.drop 12).length = 4 := by
    rw [List.length_drop, a.length_octets, hf]
    rfl
  obtain ⟨w, x, y, z, hw⟩ : ∃ w x y z, a.octets.drop 12 = [w, x, y, z] := by
    match hd : a.octets.drop 12, hlen with
    | [w, x, y, z], _ => exact ⟨w, x, y, z, rfl⟩
  have hgs : groups a.octets = [0, 0, 0, 0, 0, 65535] ++ groups [w, x, y, z] := by
    rw [← hw, groups_drop 6, ← h6, List.take_append_drop]
  have h4 : readV4? (octetsText [w, x, y, z]).toList = some (v4 w x y z, []) := by
    have := readV4?_octets w x y z (stops_nil Char.isDigit)
    rwa [List.append_nil] at this
  have hcolon : ∀ s : List Char, readGroups true 8 (':' :: s) = ⟨[], false, ':' :: s⟩ := by
    intro s
    simp [readGroups, readSeparator?, readV4?_eq_none_of_stops (stops_cons (c := ':') (by decide)),
      readGroup?_eq_none (stops_cons (c := ':') (by decide))]
  have hffff : ∀ s : List Char, readGroup? ('f' :: 'f' :: 'f' :: 'f' :: ':' :: s)
      = some (65535, ':' :: s) := fun s =>
    readGroup?_hex (g := 65535) (by decide) (stops_cons (by decide))
  have htail : readGroups true 7 ('f' :: 'f' :: 'f' :: 'f' :: ':' :: (octetsText [w, x, y, z]).toList)
      = ⟨65535 :: groups [w, x, y, z], true, []⟩ := by
    have hf4 : ∀ s, readV4? ('f' :: s) = none := fun s =>
      readV4?_eq_none_of_stops (stops_cons (by decide))
    simp [readGroups, readSeparator?, hf4, hffff, readChar?, h4, v4]
  unfold readV6?
  rw [hw, hcolon]
  simp only [List.length_nil, Nat.zero_ne_add_one, if_false, Bool.false_eq_true, readChar?, if_true,
    Option.bind_eq_bind, Option.bind_some, Nat.sub_zero, htail]
  rw [show (65535 :: groups [w, x, y, z]).length = 3 from rfl,
    show [] ++ List.replicate (8 - 3) 0 ++ 65535 :: groups [w, x, y, z] = groups a.octets by
      rw [hgs]; rfl,
    v6_groupsValue hf]
  rfl

theorem text_v6 {a : IpAddress} (h : a.family = .v6) :
    a.text.toList =
      if (groups a.octets).take 6 = [0, 0, 0, 0, 0, 65535] then
        ':' :: ':' :: 'f' :: 'f' :: 'f' :: 'f' :: ':' :: (octetsText (a.octets.drop 12)).toList
      else if 1 < (longestZeros (groups a.octets) 0 0 0 (0, 0)).1 then
        (groupsText ((groups a.octets).take (longestZeros (groups a.octets) 0 0 0 (0, 0)).2)).toList
          ++ ':' :: ':' :: (groupsText ((groups a.octets).drop
            ((longestZeros (groups a.octets) 0 0 0 (0, 0)).2
              + (longestZeros (groups a.octets) 0 0 0 (0, 0)).1))).toList
      else (groupsText (groups a.octets)).toList := by
  unfold text
  rw [h]
  simp only
  split
  · simp
  · split <;> simp

theorem readIp?_v6 {a : IpAddress} (hf : a.family = .v6) :
    readIp? a.text.toList = some (a, []) := by
  have hzeros : Zeros (groups a.octets) (longestZeros (groups a.octets) 0 0 0 (0, 0)) :=
    zeros_longestZeros [] rfl rfl (by omega) ⟨[], groups a.octets, rfl, rfl⟩
  have hcolon : ∀ s, readV4? (':' :: s) = none := fun s =>
    readV4?_eq_none_of_stops (stops_cons (by decide))
  rw [text_v6 hf, readIp?]
  split
  · rename_i h6
    rw [hcolon, readV6?_mapped hf h6]
    rfl
  · split
    · rename_i hl
      rw [readV6?_compressed hf hzeros hl, readV4?_eq_none (by simp [point_notMem_groupsText])]
      rfl
    · rw [readV6?_groups hf, readV4?_eq_none (point_notMem_groupsText _)]
      rfl

/-- The text of an address reads back. -/
theorem parse?_text (a : IpAddress) : parse? a.text.toList = some a := by
  have hread : readIp? a.text.toList = some (a, []) := by
    cases hf : a.family with
    | v4 =>
      obtain ⟨w, x, y, z, rfl⟩ := exists_v4 hf
      exact readIp?_v4 w x y z
    | v6 => exact readIp?_v6 hf
  rw [parse?, whole?, hread]

/-! ## The characters of the text -/

/-- The characters that the text of an address is made of. -/
def isTextChar (c : Char) : Bool := isHex c || c = '.' || c = ':'

theorem isTextChar_of_isDigit {c : Char} (h : c.isDigit = true) : isTextChar c = true := by
  have hc : '0' ≤ c ∧ c ≤ '9' := by simpa [Char.isDigit, Char.le_def] using h
  simp [isTextChar, isHex, hexValue?, hc]

theorem isTextChar_of_mem_octetsText {os : List UInt8} {c : Char} (hl : os.length = 4)
    (h : c ∈ (octetsText os).toList) : isTextChar c = true := by
  have hdec : ∀ o : UInt8, c ∈ Nat.toDigits 10 o.toNat → isTextChar c = true := fun o ho =>
    isTextChar_of_isDigit (isDigit_of_mem_toDigits ho)
  match os, hl with
  | [w, x, y, z], _ =>
    rw [toList_octetsText] at h
    simp only [List.mem_append, List.mem_cons] at h
    rcases h with h | rfl | h | rfl | h | rfl | h
    · exact hdec w h
    · decide
    · exact hdec x h
    · decide
    · exact hdec y h
    · decide
    · exact hdec z h

theorem isTextChar_of_mem_groupsText {gs : List Nat} {c : Char}
    (h : c ∈ (groupsText gs).toList) : isTextChar c = true := by
  rcases mem_groupsText h with h | rfl
  · simp [isTextChar, h]
  · decide

theorem isTextChar_of_mem_text {a : IpAddress} {c : Char} (h : c ∈ a.text.toList) :
    isTextChar c = true := by
  cases hf : a.family with
  | v4 =>
    obtain ⟨w, x, y, z, rfl⟩ := exists_v4 hf
    exact isTextChar_of_mem_octetsText rfl h
  | v6 =>
    have hlen : (a.octets.drop 12).length = 4 := by
      rw [List.length_drop, a.length_octets, hf]
      rfl
    rw [text_v6 hf] at h
    split at h
    · simp only [List.mem_cons] at h
      rcases h with rfl | rfl | rfl | rfl | rfl | rfl | rfl | h
      all_goals first
        | decide
        | exact isTextChar_of_mem_octetsText hlen h
    · split at h
      · simp only [List.mem_append, List.mem_cons] at h
        rcases h with h | rfl | rfl | h
        · exact isTextChar_of_mem_groupsText h
        · decide
        · decide
        · exact isTextChar_of_mem_groupsText h
      · exact isTextChar_of_mem_groupsText h

end TunnelKeeper.IpAddress
