import TunnelKeeper.Json.Reader
import TunnelKeeper.Json.Writer
import TunnelKeeper.Proofs.Text.Digits

/-!
# The text of a JSON value reads back

`ReadsBack j`: the text that is written for `j` is read as `j`, at any depth of indentation and
before any rest that no number goes on with. Words, strings and whole numbers read back
(`readsBack_ofString`, `readsBack_ofNat`), and so do arrays and records of what reads back
(`readsBack_array`, `readsBack_ofMembers`). So whatever is put together from these is what its text
is parsed as (`parse?_text`); the fuel of the readers is the length of the text.
-/

namespace TunnelKeeper.Json

open Text

/-! ## White space -/

theorem skipSpace_cons {c : Char} {s : List Char} (h : isSpace c = false) :
    skipSpace (c :: s) = c :: s :=
  List.dropWhile_cons_of_neg (by simp [h])

theorem skipSpace_newline (depth : Nat) (s : List Char) :
    skipSpace (newline depth ++ s) = skipSpace s := by
  have hspace : ∀ c ∈ newline depth, isSpace c = true := by
    intro c hc
    simp only [newline, List.mem_cons, List.mem_replicate] at hc
    rcases hc with rfl | ⟨-, rfl⟩ <;> rfl
  exact List.dropWhile_append_of_pos hspace

/-! ## Strings -/

theorem textOf?_whole (cs : List Char) : textOf? (cs.map .whole) = some cs := by
  induction cs with
  | nil => rfl
  | cons c cs ih => rw [List.map_cons, textOf?, ih]; rfl

theorem hexFour?_control {n : Nat} (h : n < 32) :
    hexFour? '0' '0' (if n < 16 then '0' else '1') (Nat.digitChar (n % 16)) = some n := by
  have : ∀ n : Fin 32, hexFour? '0' '0' (if n.val < 16 then '0' else '1')
      (Nat.digitChar (n.val % 16)) = some n.val := by decide
  exact this ⟨n, h⟩

theorem unit16_ofNat {c : Char} (h : c.toNat < 32) : Unit16.ofNat c.toNat = .whole c := by
  unfold Unit16.ofNat
  rw [if_neg (by omega), if_neg (by omega), Char.ofNat_toNat]

section Units

variable {c e : Char} {s rest : List Char} {units : List Unit16}
  (h : readUnits? s = some (units, rest))
include h

theorem readUnits?_short (he : shortEscape? e = some c) (hu : e ≠ 'u') :
    readUnits? ('\\' :: e :: s) = some (.whole c :: units, rest) := by
  rw [readUnits?.eq_3 e s fun _ _ _ _ _ he => absurd he hu, he, h]
  rfl

theorem readUnits?_control (hc : c.toNat < 32) :
    readUnits? ('\\' :: 'u' :: '0' :: '0' :: (if c.toNat < 16 then '0' else '1')
      :: Nat.digitChar (c.toNat % 16) :: s) = some (.whole c :: units, rest) := by
  rw [readUnits?, hexFour?_control hc, h, ← unit16_ofNat hc]
  rfl

theorem readUnits?_plain (hc : 32 ≤ c.toNat) (hq : c ≠ '"') (hb : c ≠ '\\') :
    readUnits? (c :: s) = some (.whole c :: units, rest) := by
  rw [readUnits?.eq_4 c s hq (fun _ _ _ _ _ he => absurd he hb) fun _ _ he => absurd he hb, h,
    if_neg (by simpa [hb] using hc)]
  rfl

/-- What a character is written as is read as its unit. -/
theorem readUnits?_escaped (c : Char) :
    readUnits? (escaped c ++ s) = some (.whole c :: units, rest) := by
  unfold escaped
  split
  · exact readUnits?_short h rfl (by decide)
  · exact readUnits?_short h rfl (by decide)
  · exact readUnits?_short h rfl (by decide)
  · exact readUnits?_short h rfl (by decide)
  · exact readUnits?_short h rfl (by decide)
  · rename_i hq hb _ _ _
    by_cases h8 : c.toNat = 8
    · rw [if_pos h8]
      exact readUnits?_short h (by rw [← Char.ofNat_toNat c, h8]; rfl) (by decide)
    rw [if_neg h8]
    by_cases h12 : c.toNat = 12
    · rw [if_pos h12]
      exact readUnits?_short h (by rw [← Char.ofNat_toNat c, h12]; rfl) (by decide)
    rw [if_neg h12]
    by_cases h32 : c.toNat < 32
    · rw [if_pos h32]
      exact readUnits?_control h h32
    · rw [if_neg h32]
      exact readUnits?_plain h (Nat.not_lt.1 h32) hq hb

end Units

theorem readUnits?_flatMap (cs rest : List Char) :
    readUnits? (cs.flatMap escaped ++ '"' :: rest) = some (cs.map .whole, rest) := by
  induction cs with
  | nil => rfl
  | cons c cs ih =>
    rw [List.flatMap_cons, List.append_assoc, readUnits?_escaped ih, List.map_cons]

/-- A string is read up to its closing quote. -/
theorem readString?_writeString (s : String) (rest : List Char) :
    readString? (s.toList.flatMap escaped ++ '"' :: rest) = some (some s, rest) := by
  rw [readString?, readUnits?_flatMap, Option.map_some]
  simp only [textOf?_whole, Option.map_some, String.ofList_toList]

/-! ## Numbers -/

/-- Whether a number may go on with `c`. -/
def continuesNumber (c : Char) : Bool := c.isDigit || c = '.' || c = 'e' || c = 'E'

theorem readDigits?_append {ds rest : List Char} (hne : ds ≠ []) (hd : ∀ c ∈ ds, c.isDigit = true)
    (hr : Stops Char.isDigit rest) : readDigits? (ds ++ rest) = some (ds, rest) := by
  have hrest : rest.dropWhile Char.isDigit = rest := by
    cases rest with
    | nil => rfl
    | cons c rest => exact List.dropWhile_cons_of_neg (by simp [hr c (by simp)])
  unfold readDigits?
  rw [takeWhile_append_of_stops hd hr, List.dropWhile_append_of_pos hd, hrest]
  cases ds with
  | nil => exact absurd rfl hne
  | cons d ds => rfl

theorem readWhole?_toDigits (n : Nat) {rest : List Char} (hr : Stops Char.isDigit rest) :
    readWhole? (Nat.toDigits 10 n ++ rest) = some (Nat.toDigits 10 n, rest) := by
  rcases Nat.eq_zero_or_pos n with rfl | hpos
  · rw [Nat.toDigits_zero, List.singleton_append, readWhole?]
    cases rest with
    | nil => rfl
    | cons c rest => simp [hr c (by simp)]
  · have hread := readDigits?_append Nat.toDigits_ne_nil
      (fun c hc => isDigit_of_mem_toDigits (n := n) hc) hr
    have hhead := head?_toDigits hpos
    cases hds : Nat.toDigits 10 n with
    | nil => exact absurd hds Nat.toDigits_ne_nil
    | cons d ds =>
      rw [hds] at hread hhead
      rw [List.cons_append, readWhole?.eq_2, ← List.cons_append, hread]
      intro t ht
      exact hhead (by rw [(List.cons.inj ht).1]; rfl)

theorem readNumber?_toDigits (n : Nat) {rest : List Char} (hr : Stops continuesNumber rest) :
    readNumber? (Nat.toDigits 10 n ++ rest) = some (Nat.toDigits 10 n, rest) := by
  have hdigit : Stops Char.isDigit rest := fun c hc => by
    have := hr c hc
    simp_all [continuesNumber]
  have hmagnitude : readMagnitude? (Nat.toDigits 10 n ++ rest) = some (Nat.toDigits 10 n, rest) := by
    have hfraction : readFraction? rest = some ([], rest) := by
      unfold readFraction?
      split
      · exact absurd (hr '.' (by simp)) (by decide)
      · rfl
    have hexponent : readExponent? rest = some ([], rest) := by
      unfold readExponent?
      split
      · rename_i e t
        have he := hr e (by simp)
        rw [if_neg]
        rintro (rfl | rfl)
        · exact absurd he (by decide)
        · exact absurd he (by decide)
      · rfl
    rw [readMagnitude?, readWhole?_toDigits n hdigit]
    simp [hfraction, hexponent]
  unfold readNumber?
  split
  · rename_i t ht
    have hmem : '-' ∈ Nat.toDigits 10 n := by
      cases hds : Nat.toDigits 10 n with
      | nil => exact absurd hds Nat.toDigits_ne_nil
      | cons d ds =>
        rw [hds, List.cons_append] at ht
        rw [(List.cons.inj ht).1]
        exact List.mem_cons_self
    exact absurd (isDigit_of_mem_toDigits hmem) (by decide)
  · exact hmagnitude

/-! ## Values -/

/-- The text of a value, at any depth and before any rest that no number goes on with, is read as the
value, if there is fuel for every character of it. -/
structure ReadsBack (j : Json) : Prop where
  starts : ∀ depth, ∃ c s, write depth j = c :: s ∧ isSpace c = false ∧ c ≠ ']'
  reads : ∀ depth {fuel : Nat} {rest : List Char}, (write depth j).length ≤ fuel + 1 →
    Stops continuesNumber rest → readValue? (fuel + 1) (write depth j ++ rest) = some (j, rest)

theorem ReadsBack.readValue?_eq {j : Json} (h : ReadsBack j) (depth fuel : Nat) (rest : List Char)
    (hf : (write depth j).length ≤ fuel) (hr : Stops continuesNumber rest) :
    readValue? fuel (write depth j ++ rest) = some (j, rest) := by
  obtain ⟨c, s, hw, -⟩ := h.starts depth
  cases fuel with
  | zero => simp [hw] at hf
  | succ fuel => exact h.reads depth hf hr

theorem readValue?_congr (fuel : Nat) {s t : List Char} (h : skipSpace s = skipSpace t) :
    readValue? fuel s = readValue? fuel t := by
  cases fuel with
  | zero => rfl
  | succ fuel => rw [readValue?, readValue?, h]

theorem readsBack_bool (b : Bool) : ReadsBack (bool b) := by
  cases b with
  | false => exact ⟨fun _ => ⟨_, _, rfl, rfl, by decide⟩, fun _ _ _ _ _ => rfl⟩
  | true => exact ⟨fun _ => ⟨_, _, rfl, rfl, by decide⟩, fun _ _ _ _ _ => rfl⟩

theorem readsBack_ofString (s : String) : ReadsBack (ofString s) where
  starts _ := ⟨_, _, rfl, rfl, by decide⟩
  reads depth fuel rest _ _ := by
    have htext : write depth (ofString s) ++ rest
        = '"' :: (s.toList.flatMap escaped ++ '"' :: rest) := by
      simp [ofString, write, writeString]
    rw [htext, readValue?, skipSpace_cons rfl]
    simp only [readString?_writeString, Option.map_some]
    rfl

theorem readsBack_ofNat (n : Nat) : ReadsBack (ofNat n) := by
  obtain ⟨d, ds, hds⟩ := List.exists_cons_of_ne_nil (Nat.toDigits_ne_nil (b := 10) (n := n))
  have hd : d.isDigit = true :=
    isDigit_of_mem_toDigits (n := n) (by rw [hds]; exact List.mem_cons_self)
  have hne : ∀ c, c.isDigit = false → d ≠ c := fun c hc he => by simp [he, hc] at hd
  have hspace : isSpace d = false := by
    simp [isSpace, hne ' ' rfl, hne '\n' rfl, hne '\t' rfl, hne '\r' rfl]
  constructor
  · intro depth
    exact ⟨d, ds, by rw [← hds]; rfl, hspace, hne _ rfl⟩
  · intro depth fuel rest _ hr
    have hword : readWord? (d :: (ds ++ rest)) = none := by
      simp [readWord?, words, afterPrefix?, (hne 'n' rfl).symm, (hne 't' rfl).symm,
        (hne 'f' rfl).symm]
    have hnumber := readNumber?_toDigits n hr
    rw [hds, List.cons_append] at hnumber
    rw [show write depth (ofNat n) = d :: ds from hds, List.cons_append, readValue?,
      skipSpace_cons hspace]
    split
    · rename_i he
      exact absurd (List.cons.inj he).1 (hne _ rfl)
    · rename_i he
      exact absurd (List.cons.inj he).1 (hne _ rfl)
    · rename_i he
      exact absurd (List.cons.inj he).1 (hne _ rfl)
    · rw [hword, hnumber, ofNat, hds]
      rfl

/-! ## Arrays -/

/-- Items are read up to the bracket after them. -/
theorem readItems?_writeItems {items : List Json} {item : Json}
    (h : ∀ j ∈ item :: items, ReadsBack j)
    (depth outer fuel : Nat) (s rest : List Char)
    (hf : (write depth item).length + (writeItems depth items).length < fuel)
    (hs : skipSpace s = skipSpace (write depth item ++ (writeItems depth items
      ++ (newline outer ++ ']' :: rest)))) :
    readItems? fuel s = some (item :: items, rest) := by
  induction items generalizing item fuel s with
  | nil =>
    obtain ⟨fuel, rfl⟩ : ∃ f, fuel = f + 1 := ⟨fuel - 1, by omega⟩
    have hread := (h item List.mem_cons_self).readValue?_eq depth fuel
      (newline outer ++ ']' :: rest) (by omega) (stops_cons rfl)
    rw [readItems?, readValue?_congr fuel hs, writeItems, List.nil_append, hread]
    simp only [skipSpace_newline, skipSpace_cons (c := ']') rfl]
  | cons item' items ih =>
    obtain ⟨fuel, rfl⟩ : ∃ f, fuel = f + 1 := ⟨fuel - 1, by omega⟩
    have hread := (h item List.mem_cons_self).readValue?_eq depth fuel
      (writeItems depth (item' :: items) ++ (newline outer ++ ']' :: rest)) (by omega)
      (by rw [writeItems]; exact stops_cons rfl)
    have hrest := ih (fun j hj => h j (List.mem_cons_of_mem _ hj)) fuel
      (newline depth ++ (write depth item' ++ (writeItems depth items
        ++ (newline outer ++ ']' :: rest))))
      (by simp only [writeItems, List.length_cons, List.length_append] at hf; omega)
      (skipSpace_newline _ _)
    rw [readItems?, readValue?_congr fuel hs, hread]
    simp only [writeItems, List.cons_append, List.append_assoc, skipSpace_cons (c := ',') rfl, hrest,
      Option.map_some]

theorem readsBack_array {items : List Json} (h : ∀ j ∈ items, ReadsBack j) :
    ReadsBack (array items) := by
  cases items with
  | nil => exact ⟨fun _ => ⟨_, _, rfl, rfl, by decide⟩, fun _ _ _ _ _ => rfl⟩
  | cons item items =>
    refine ⟨fun _ => ⟨_, _, rfl, rfl, by decide⟩, fun depth fuel rest hf hr => ?_⟩
    obtain ⟨c, s, hw, hspace, hc⟩ := (h item List.mem_cons_self).starts (depth + 1)
    have hitems := readItems?_writeItems h (depth + 1) depth fuel _ rest
      (by simp only [write, List.length_cons, List.length_append] at hf; omega) rfl
    have htext : write depth (array (item :: items)) ++ rest
        = '[' :: (newline (depth + 1) ++ (write (depth + 1) item ++ (writeItems (depth + 1) items
          ++ (newline depth ++ ']' :: rest)))) := by
      simp [write]
    rw [htext, readValue?, skipSpace_cons rfl]
    simp only [skipSpace_newline, hw, List.cons_append, skipSpace_cons hspace] at hitems ⊢
    split
    · rename_i he
      exact absurd (List.cons.inj he).1 hc
    · rw [hitems]
      rfl

/-! ## Objects -/

/-- The members of a record, as they stand in an object. -/
def named (members : List (String × Json)) : List (Option String × Json) :=
  members.map fun (name, value) => (some name, value)

/-- The text of a member, with `rest` behind it. -/
def memberText (depth : Nat) (name : String) (value : Json) (rest : List Char) : List Char :=
  '"' :: (name.toList.flatMap escaped ++ '"' :: ':' :: ' ' :: (write depth value ++ rest))

theorem skipSpace_memberText (depth : Nat) (name : String) (value : Json) (rest : List Char) :
    skipSpace (memberText depth name value rest) = memberText depth name value rest :=
  skipSpace_cons rfl

theorem writeMembers_cons (depth : Nat) (name : String) (value : Json)
    (members : List (String × Json)) (rest : List Char) :
    writeMembers depth (named ((name, value) :: members)) ++ rest
      = ',' :: (newline depth ++ memberText depth name value
        (writeMembers depth (named members) ++ rest)) := by
  simp [named, memberText, writeMembers, writeString]

/-- Members are read up to the brace after them. -/
theorem readMembers?_writeMembers {members : List (String × Json)} {name : String} {value : Json}
    (h : ∀ m ∈ (name, value) :: members, ReadsBack m.2) (depth outer fuel : Nat)
    (s rest : List Char)
    (hf : (write depth value).length + (writeMembers depth (named members)).length < fuel)
    (hs : skipSpace s = memberText depth name value (writeMembers depth (named members)
      ++ (newline outer ++ '\x7d' :: rest))) :
    readMembers? fuel s = some (named ((name, value) :: members), rest) := by
  have hblank : ∀ t : List Char, skipSpace (' ' :: t) = skipSpace t := fun _ => rfl
  induction members generalizing name value fuel s with
  | nil =>
    obtain ⟨fuel, rfl⟩ : ∃ f, fuel = f + 1 := ⟨fuel - 1, by omega⟩
    have hread := (h _ List.mem_cons_self).readValue?_eq depth fuel
      (newline outer ++ '\x7d' :: rest) (by simp only; omega) (stops_cons rfl)
    rw [readMembers?, hs, memberText]
    simp only [readString?_writeString, skipSpace_cons (c := ':') rfl,
      readValue?_congr fuel (hblank _), named, List.map_nil, writeMembers, List.nil_append, hread,
      skipSpace_newline, skipSpace_cons (c := '\x7d') rfl, List.map_cons]
  | cons m members ih =>
    obtain ⟨name', value'⟩ := m
    obtain ⟨fuel, rfl⟩ : ∃ f, fuel = f + 1 := ⟨fuel - 1, by omega⟩
    have hnext := writeMembers_cons depth name' value' members (newline outer ++ '\x7d' :: rest)
    have hread := (h _ List.mem_cons_self).readValue?_eq depth fuel
      (writeMembers depth (named ((name', value') :: members))
        ++ (newline outer ++ '\x7d' :: rest)) (by simp only; omega)
      (by rw [hnext]; exact stops_cons rfl)
    have hlength := congrArg List.length (writeMembers_cons depth name' value' members [])
    have hrest := ih (fun j hj => h j (List.mem_cons_of_mem _ hj)) fuel
      (newline depth ++ memberText depth name' value' (writeMembers depth (named members)
        ++ (newline outer ++ '\x7d' :: rest)))
      (by
        simp only [memberText, List.append_nil, List.length_cons, List.length_append] at hlength
        omega)
      (by rw [skipSpace_newline, skipSpace_memberText])
    rw [hnext] at hread
    rw [readMembers?, hs, hnext, memberText]
    simp only [readString?_writeString, skipSpace_cons (c := ':') rfl,
      readValue?_congr fuel (hblank _), hread, skipSpace_cons (c := ',') rfl, hrest, Option.map_some]
    rfl

theorem readsBack_ofMembers {members : List (String × Json)} (h : ∀ m ∈ members, ReadsBack m.2) :
    ReadsBack (ofMembers members) := by
  cases members with
  | nil => exact ⟨fun _ => ⟨_, _, rfl, rfl, by decide⟩, fun _ _ _ _ _ => rfl⟩
  | cons m members =>
    obtain ⟨name, value⟩ := m
    refine ⟨fun _ => ⟨_, _, rfl, rfl, by decide⟩, fun depth fuel rest hf hr => ?_⟩
    have htext : ∀ rest, write depth (ofMembers ((name, value) :: members)) ++ rest
        = '\x7b' :: (newline (depth + 1) ++ memberText (depth + 1) name value
          (writeMembers (depth + 1) (named members) ++ (newline depth ++ '\x7d' :: rest))) := by
      simp [ofMembers, named, memberText, write, writeString]
    have hlength := congrArg List.length (htext [])
    have hmembers := readMembers?_writeMembers h (depth + 1) depth fuel _ rest
      (by
        simp only [memberText, List.append_nil, List.length_cons, List.length_append] at hlength
        omega) (skipSpace_memberText _ _ _ _)
    rw [htext, readValue?, skipSpace_cons rfl]
    simp only [skipSpace_newline, skipSpace_memberText]
    split
    · rename_i he
      exact absurd (List.cons.inj he).1 (by decide)
    · rw [hmembers]
      rfl

/-! ## Texts -/

/-- The text of a value reads back. -/
theorem parse?_text {j : Json} (h : ReadsBack j) : parse? j.text = some j := by
  have hread := h.readValue?_eq 0 (2 * (write 0 j).length + 2) []
    (by omega) (stops_nil _)
  rw [List.append_nil] at hread
  unfold parse? text
  simp only [String.toList_ofList, hread]
  rfl

end TunnelKeeper.Json
