import Mathlib.Data.List.Nodup
import TunnelKeeper.Document.Basic
import TunnelKeeper.Proofs.Text.Trim

/-!
# Reading a document line by line

`Document.read?` is a reader of documents: a blank line and one that begins with `#` say nothing, a
title in brackets opens a section, and any other line sets a name to a value. Sections whose names
are words and whose values are on one line are read back as they are, if nothing of their remarks
speaks (`read?_text`); and a remark that does speak adds to what is read (`silent_of_read?`).
-/

namespace TunnelKeeper

open Text

/-! ## The reader -/

/-- What is read under a title. -/
structure ReadSection where
  title : String
  settings : List (String × String)
  deriving DecidableEq, Repr

namespace ReadSection

/-- The number of lines that it takes to say sections. -/
def lineCount (rs : List ReadSection) : Nat := rs.length + (rs.flatMap settings).length

theorem lineCount_cons (r : ReadSection) (rs : List ReadSection) :
    lineCount (r :: rs) = r.settings.length + 1 + lineCount rs := by
  simp only [lineCount, List.length_cons, List.flatMap_cons, List.length_append]
  omega

/-- The section has this title, and says this and nothing else, each name once. -/
structure Says (r : ReadSection) (title : String) (P : String → String → Prop) : Prop where
  title : r.title = title
  nodup : (r.settings.map Prod.fst).Nodup
  settings : ∀ name value, (name, value) ∈ r.settings ↔ P name value

/-- Sections that say the same have as many settings. -/
theorem Says.length_eq {r r' : ReadSection} {t t' : String} {P : String → String → Prop}
    (h : r.Says t P) (h' : r'.Says t' P) : r.settings.length = r'.settings.length := by
  have hperm : r.settings.Perm r'.settings :=
    (List.perm_ext_iff_of_nodup h.nodup.of_map h'.nodup.of_map).2 fun e =>
      (h.settings e.1 e.2).trans (h'.settings e.1 e.2).symm
  exact hperm.length_eq

end ReadSection

namespace Document

/-- A line that says nothing: it is blank, or a remark. -/
def isSilent (line : List Char) : Bool := line.all isBlank || line.head? = some '#'

/-- The title in a line of brackets. -/
def readTitle? : List Char → Option String
  | '[' :: rest => if rest.getLast? = some ']' then some (String.ofList rest.dropLast) else none
  | _ => none

/-- The name and the value in a line `name = value`. -/
def readSetting? (line : List Char) : Option (String × String) :=
  match splitFirst? ' ' line with
  | some (name, '=' :: ' ' :: value) => some (String.ofList name, String.ofList value)
  | _ => none

/-- Reads lines: the settings before the first title, and the sections. -/
def readLines? : List (List Char) → Option (List (String × String) × List ReadSection)
  | [] => some ([], [])
  | line :: rest =>
    match readLines? rest with
    | none => none
    | some (settings, sections) =>
      if isSilent line then some (settings, sections)
      else match readTitle? line with
        | some title => some ([], ⟨title, settings⟩ :: sections)
        | none => (readSetting? line).map fun setting => (setting :: settings, sections)

def linesOf (text : List Char) : List (List Char) := splitOn (· = '\n') text

/-- The sections of a document, in which no setting comes before the first title. -/
def read? (text : String) : Option (List ReadSection) :=
  match readLines? (linesOf text.toList) with
  | some ([], sections) => some sections
  | _ => none

/-! ## Lines -/

theorem linesOf_append (a b : List Char) : linesOf (a ++ '\n' :: b) = linesOf a ++ linesOf b :=
  splitOn_append_sep (by decide) a b

theorem linesOf_of_notMem {a : List Char} (h : '\n' ∉ a) : linesOf a = [a] :=
  splitOn_of_none fun _ hc => decide_eq_false fun he => h (he ▸ hc)

/-- Texts that are ended by a line break each have the lines of all of them, and an empty one. -/
theorem linesOf_ended (ls : List String) :
    linesOf (String.join (ls.map (· ++ "\n"))).toList
      = ls.flatMap (fun l => linesOf l.toList) ++ [[]] := by
  have hlist : (String.join (ls.map (· ++ "\n"))).toList
      = ls.flatMap fun l => l.toList ++ ['\n'] := by
    rw [String.toList_join, List.flatMap_map]
    simp
  rw [hlist]
  clear hlist
  induction ls with
  | nil => rfl
  | cons l ls ih =>
    rw [List.flatMap_cons, List.append_assoc, List.singleton_append, linesOf_append, ih,
      List.flatMap_cons, List.append_assoc]

/-- The lines that are not silent. -/
def spoken (ls : List (List Char)) : Nat := ls.countP fun l => !isSilent l

/-- Every line that says something is a title or a setting of what is read. -/
theorem spoken_of_readLines? {ls : List (List Char)} {settings : List (String × String)}
    {sections : List ReadSection} (h : readLines? ls = some (settings, sections)) :
    spoken ls = settings.length + ReadSection.lineCount sections := by
  induction ls generalizing settings sections with
  | nil =>
    cases h
    rfl
  | cons line ls ih =>
    -- A title makes a section of the settings after it, so what is read grows by one line.
    unfold readLines? at h
    split at h
    · cases h
    · rename_i settings' sections' hls
      have hrest := ih hls
      rw [spoken] at hrest
      rw [spoken, List.countP_cons, hrest]
      split at h
      · rename_i hs
        cases h
        simp [hs]
      · rename_i hs
        rw [Bool.not_eq_true] at hs
        split at h
        · cases h
          simp only [hs, ReadSection.lineCount_cons, List.length_nil]
          simp
          omega
        · obtain ⟨setting, -, h⟩ := Option.map_eq_some_iff.1 h
          cases h
          simp [hs]
          omega

theorem readLines?_silent {line : List Char} (h : isSilent line = true)
    (rest : List (List Char)) : readLines? (line :: rest) = readLines? rest := by
  rw [readLines?]
  cases readLines? rest with
  | none => rfl
  | some r => simp [h]

theorem readLines?_silent_append {ls : List (List Char)} (h : ∀ l ∈ ls, isSilent l = true)
    (rest : List (List Char)) : readLines? (ls ++ rest) = readLines? rest := by
  induction ls with
  | nil => rfl
  | cons l ls ih =>
    rw [List.forall_mem_cons] at h
    rw [List.cons_append, readLines?_silent h.1, ih h.2]

end Document

/-! ## Sections -/

/-- A name that is a word of letters. -/
def isWord (name : String) : Bool := name ≠ "" && name.toList.all Char.isAlpha

namespace DocumentSection

/-- What is read of a section. -/
def body (s : DocumentSection) : ReadSection := ⟨s.title, s.settings⟩

/-- The lines of the remark after its first. -/
def remainder (s : DocumentSection) : List (List Char) :=
  (s.comment.toList.flatMap fun c => (Document.linesOf c.toList).tail)

/-- The title and the values are on one line each, and the names are words. -/
structure Orderly (s : DocumentSection) : Prop where
  title : '\n' ∉ s.title.toList
  names : ∀ e ∈ s.settings, isWord e.1 = true
  values : ∀ e ∈ s.settings, '\n' ∉ e.2.toList

end DocumentSection

namespace Document

theorem notMem_of_isWord {name : String} {c : Char} (h : isWord name = true)
    (hc : c.isAlpha = false) : c ∉ name.toList := by
  intro hmem
  simp only [isWord, Bool.and_eq_true, List.all_eq_true] at h
  rw [h.2 c hmem] at hc
  cases hc

theorem exists_cons_of_isWord {name : String} (h : isWord name = true) :
    ∃ c rest, name.toList = c :: rest ∧ c.isAlpha = true := by
  simp only [isWord, Bool.and_eq_true, List.all_eq_true, decide_eq_true_eq] at h
  cases hl : name.toList with
  | nil => exact absurd (String.toList_eq_nil_iff.1 hl) h.1
  | cons c rest => exact ⟨c, rest, rfl, h.2 c (hl ▸ List.mem_cons_self)⟩

/-! ### Titles and settings -/

def titleLine (title : String) : List Char := '[' :: (title.toList ++ [']'])

def settingLine (e : String × String) : List Char := e.1.toList ++ ' ' :: '=' :: ' ' :: e.2.toList

theorem isSilent_titleLine (title : String) : isSilent (titleLine title) = false := by
  have : isBlank '[' = false := by decide
  simp [isSilent, titleLine, this]

theorem readTitle?_titleLine (title : String) : readTitle? (titleLine title) = some title := by
  simp [readTitle?, titleLine]

theorem isSilent_settingLine {e : String × String} (h : isWord e.1 = true) :
    isSilent (settingLine e) = false := by
  obtain ⟨c, rest, hl, hc⟩ := exists_cons_of_isWord h
  have hremark : c ≠ '#' := by
    rintro rfl
    cases hc
  simp [isSilent, settingLine, hl, isBlank_of_isAlpha hc, hremark]

theorem readTitle?_settingLine {e : String × String} (h : isWord e.1 = true) :
    readTitle? (settingLine e) = none := by
  obtain ⟨c, rest, hl, hc⟩ := exists_cons_of_isWord h
  have hbracket : c ≠ '[' := by
    rintro rfl
    cases hc
  simp [readTitle?, settingLine, hl, hbracket]

theorem readSetting?_settingLine {e : String × String} (h : isWord e.1 = true) :
    readSetting? (settingLine e) = some e := by
  rw [readSetting?, settingLine, splitFirst?_append (notMem_of_isWord h (by decide))]
  simp

theorem readLines?_settings {settings : List (String × String)}
    (h : ∀ e ∈ settings, isWord e.1 = true) (rest : List (List Char)) :
    readLines? (settings.map settingLine ++ rest)
      = (readLines? rest).map fun r => (settings ++ r.1, r.2) := by
  induction settings with
  | nil => simp
  | cons e settings ih =>
    rw [List.forall_mem_cons] at h
    rw [List.map_cons, List.cons_append, readLines?, ih h.2]
    cases readLines? rest with
    | none => rfl
    | some r =>
      simp [isSilent_settingLine h.1, readTitle?_settingLine h.1, readSetting?_settingLine h.1]

theorem readLines?_title (title : String) (rest : List (List Char)) :
    readLines? (titleLine title :: rest)
      = (readLines? rest).map fun r => ([], ⟨title, r.1⟩ :: r.2) := by
  rw [readLines?]
  cases readLines? rest with
  | none => rfl
  | some r => simp [isSilent_titleLine, readTitle?_titleLine]

end Document

/-! ### Sections as a whole -/

namespace DocumentSection

open Document

variable {s : DocumentSection}

/-- The first line of the remark. -/
def remark (s : DocumentSection) : List (List Char) :=
  s.comment.toList.map fun c => '#' :: ' ' :: (linesOf c.toList).headD []

/-- The lines of a section, one by one. -/
theorem linesOf_lines (h : s.Orderly) :
    s.lines.flatMap (fun l => linesOf l.toList)
      = s.remark ++ s.remainder ++ titleLine s.title :: s.settings.map settingLine := by
  have hremark : (s.comment.map fun c => "# " ++ c).toList.flatMap (fun l => linesOf l.toList)
      = s.remark ++ s.remainder := by
    rw [remark, remainder]
    cases s.comment with
    | none => rfl
    | some c =>
      cases hc : linesOf c.toList with
      | nil => exact absurd hc (splitOn_ne_nil _ _)
      | cons first rest =>
        have : linesOf ('#' :: ' ' :: c.toList) = ('#' :: ' ' :: first) :: rest := by
          rw [linesOf, splitOn, splitOn, show splitOn _ c.toList = _ from hc]
          simp
        simp [this, hc]
  have htitle : linesOf ("[" ++ s.title ++ "]").toList = [titleLine s.title] := by
    have hl : ("[" ++ s.title ++ "]").toList = titleLine s.title := by simp [titleLine]
    rw [hl, linesOf_of_notMem (by simp [titleLine, h.title])]
  have hsettings : (s.settings.map fun e => e.1 ++ " = " ++ e.2).flatMap
      (fun l => linesOf l.toList) = s.settings.map settingLine := by
    rw [List.flatMap_map, List.map_eq_flatMap]
    refine List.flatMap_congr fun e he => ?_
    have hl : (e.1 ++ " = " ++ e.2).toList = settingLine e := by simp [settingLine]
    have hline : '\n' ∉ settingLine e := by
      simp [settingLine, notMem_of_isWord (h.names e he), h.values e he]
    rw [hl, linesOf_of_notMem hline]
  rw [lines, List.flatMap_append, List.flatMap_append, hremark, hsettings, List.flatMap_singleton,
    htitle, List.append_assoc, List.singleton_append]

theorem isSilent_remark {l : List Char} (h : l ∈ s.remark) : isSilent l = true := by
  obtain ⟨c, -, rfl⟩ := List.mem_map.1 h
  simp [isSilent]

/-- Every title and every setting is a line that speaks, and so may be lines of the remark. -/
theorem spoken_lines (h : s.Orderly) :
    spoken (s.lines.flatMap fun l => linesOf l.toList)
      = spoken s.remainder + (s.settings.length + 1) := by
  have hremark : spoken s.remark = 0 :=
    List.countP_eq_zero.2 fun l hl => by simp [isSilent_remark hl]
  have hsettings : spoken (s.settings.map settingLine) = s.settings.length := by
    have hall : ∀ l ∈ s.settings.map settingLine, (!isSilent l) = true := by
      rintro l hl
      obtain ⟨e, he, rfl⟩ := List.mem_map.1 hl
      simp [isSilent_settingLine (h.names e he)]
    rw [spoken, List.countP_eq_length.2 hall, List.length_map]
  rw [linesOf_lines h]
  simp only [spoken, List.countP_append, List.countP_cons, isSilent_titleLine] at *
  rw [hremark, hsettings]
  simp

theorem readLines?_lines (h : s.Orderly) (hs : ∀ l ∈ s.remainder, isSilent l = true)
    (rest : List (List Char)) :
    readLines? (s.lines.flatMap (fun l => linesOf l.toList) ++ rest)
      = (readLines? rest).map fun r => ([], ⟨s.title, s.settings ++ r.1⟩ :: r.2) := by
  rw [linesOf_lines h, List.append_assoc, List.append_assoc,
    readLines?_silent_append fun l hl => isSilent_remark hl, readLines?_silent_append hs,
    List.cons_append, readLines?_title, readLines?_settings h.names]
  cases readLines? rest with
  | none => rfl
  | some r => rfl

end DocumentSection

/-! ## Documents -/

namespace Document

variable {sections : List DocumentSection}

/-- The lines of sections, each after an empty line. -/
def followingLines (sections : List DocumentSection) : List (List Char) :=
  (sections.flatMap fun s => "" :: s.lines).flatMap fun l => linesOf l.toList

theorem followingLines_cons (s : DocumentSection) (rest : List DocumentSection) :
    followingLines (s :: rest)
      = [] :: (s.lines.flatMap (fun l => linesOf l.toList) ++ followingLines rest) := by
  simp [followingLines, linesOf, splitOn]

theorem linesOf_text (s : DocumentSection) (rest : List DocumentSection) :
    linesOf (text (s :: rest)).toList
      = s.lines.flatMap (fun l => linesOf l.toList) ++ (followingLines rest ++ [[]]) := by
  rw [text, linesOf_ended, lines, List.flatMap_append, List.append_assoc]
  rfl

theorem readLines?_following (h : ∀ s ∈ sections, s.Orderly)
    (hs : ∀ s ∈ sections, ∀ l ∈ s.remainder, isSilent l = true) :
    readLines? (followingLines sections ++ [[]])
      = some ([], sections.map DocumentSection.body) := by
  induction sections with
  | nil => rfl
  | cons s sections ih =>
    rw [List.forall_mem_cons] at h hs
    rw [followingLines_cons, List.cons_append, readLines?_silent rfl, List.append_assoc,
      DocumentSection.readLines?_lines h.1 hs.1, ih h.2 hs.2]
    simp [DocumentSection.body]

/-- Sections are read back as they are, if all lines of their remarks are silent. -/
theorem read?_text (h : ∀ s ∈ sections, s.Orderly)
    (hs : ∀ s ∈ sections, ∀ l ∈ s.remainder, isSilent l = true) :
    read? (text sections) = some (sections.map DocumentSection.body) := by
  cases sections with
  | nil => rfl
  | cons s sections =>
    rw [List.forall_mem_cons] at h hs
    rw [read?, linesOf_text, DocumentSection.readLines?_lines h.1 hs.1,
      readLines?_following h.2 hs.2]
    simp [DocumentSection.body]

theorem spoken_following (h : ∀ s ∈ sections, s.Orderly) :
    spoken (followingLines sections ++ [[]])
      = spoken (sections.flatMap DocumentSection.remainder)
        + ReadSection.lineCount (sections.map DocumentSection.body) := by
  induction sections with
  | nil => rfl
  | cons s sections ih =>
    rw [List.forall_mem_cons] at h
    have hsection := DocumentSection.spoken_lines h.1
    have hrest := ih h.2
    have hempty : isSilent [] = true := rfl
    rw [followingLines_cons, List.map_cons, ReadSection.lineCount_cons, List.flatMap_cons]
    simp only [spoken, List.cons_append, List.append_assoc, List.countP_cons, List.countP_append,
      List.countP_nil, hempty, Bool.not_true, Bool.false_eq_true, if_false,
      DocumentSection.body] at hsection hrest ⊢
    omega

theorem spoken_text (h : ∀ s ∈ sections, s.Orderly) :
    spoken (linesOf (text sections).toList)
      = spoken (sections.flatMap DocumentSection.remainder)
        + ReadSection.lineCount (sections.map DocumentSection.body) := by
  cases sections with
  | nil => rfl
  | cons s sections =>
    rw [List.forall_mem_cons] at h
    rw [linesOf_text, spoken, List.countP_append, ← spoken, ← spoken,
      DocumentSection.spoken_lines h.1, spoken_following h.2, List.map_cons,
      ReadSection.lineCount_cons, List.flatMap_cons, spoken, spoken, spoken, List.countP_append]
    simp only [DocumentSection.body]
    omega

/-- Where no more is read than the sections have to say, all lines of their remarks are silent. -/
theorem silent_of_read? (h : ∀ s ∈ sections, s.Orderly) {rs : List ReadSection}
    (hread : read? (text sections) = some rs)
    (hcount : ReadSection.lineCount rs
      = ReadSection.lineCount (sections.map DocumentSection.body)) :
    ∀ s ∈ sections, ∀ l ∈ s.remainder, isSilent l = true := by
  have hlines : readLines? (linesOf (text sections).toList) = some ([], rs) := by
    unfold read? at hread
    split at hread
    · rename_i hr
      rw [hr, Option.some.inj hread]
    · cases hread
  have hspoken := spoken_of_readLines? hlines
  rw [spoken_text h, List.length_nil, hcount] at hspoken
  have hzero : spoken (sections.flatMap DocumentSection.remainder) = 0 := by omega
  intro s hs l hl
  simpa using List.countP_eq_zero.1 hzero l (List.mem_flatMap.2 ⟨s, hs, hl⟩)

end Document

end TunnelKeeper
