/-!
The segments that the octets of a text fall into when it is written as a picture code: runs of
digits, of the forty-five characters of the alphanumeric mode, of pairs of octets that can be kanji,
and of any octets. Neighbours are joined where that is no longer.
-/

namespace TunnelKeeper.Qr

/-- How a segment is written. -/
inductive Mode
  | numeric
  | alphanumeric
  | byte
  | kanji
  deriving DecidableEq, Repr

/-- The narrowest mode that can write what either of two can. -/
def Mode.join : Mode → Mode → Mode
  | .numeric, .alphanumeric => .alphanumeric
  | .alphanumeric, .numeric => .alphanumeric
  | a, b => if a = b then a else .byte

/-- A run of octets in one mode. -/
structure Segment where
  mode : Mode
  /-- The number of octets. -/
  size : Nat
  deriving DecidableEq, Repr

inductive OctetClass
  /-- A space or a mark of the alphanumeric mode. -/
  | mark
  | digit
  /-- A capital letter. -/
  | letter
  /-- The first octet of a kanji. -/
  | kanjiFirst
  /-- The first octet of the last kanji, which can be second octets only in part. -/
  | kanjiLast
  /-- The first octets that cannot follow that one. -/
  | kanjiFirstHigh
  /-- A second octet of a kanji. -/
  | kanjiSecond
  /-- A second octet that cannot follow the first octet of the last kanji. -/
  | kanjiSecondHigh
  /-- Any other octet. -/
  | other
  deriving DecidableEq, Repr

def OctetClass.of (o : UInt8) : OctetClass :=
  let n := o.toNat
  if [0x20, 0x24, 0x25, 0x2a, 0x2b, 0x2d, 0x2e, 0x2f, 0x3a].contains n then .mark
  else if 0x30 ≤ n ∧ n ≤ 0x39 then .digit
  else if 0x41 ≤ n ∧ n ≤ 0x5a then .letter
  else if 0x81 ≤ n ∧ n ≤ 0x9f then .kanjiFirst
  else if 0xe0 ≤ n ∧ n ≤ 0xea then .kanjiFirstHigh
  else if n = 0xeb then .kanjiLast
  else if n = 0x40 ∨ (0x5b ≤ n ∧ n ≤ 0x7e) ∨ n = 0x80 ∨ (0xa0 ≤ n ∧ n ≤ 0xbf) then .kanjiSecond
  else if (0xc0 ≤ n ∧ n ≤ 0xdf) ∨ (0xec ≤ n ∧ n ≤ 0xfc) then .kanjiSecondHigh
  else .other

/-- What the octets read so far have in common. -/
inductive RunState
  | start
  | numeric
  | alphanumeric
  | byte
  /-- Whole kanji, and the first octet of one. -/
  | kanjiFirst
  /-- Whole kanji, and the first octet of the last one. -/
  | kanjiLast
  /-- Whole kanji. -/
  | kanji
  deriving DecidableEq, Repr

/-- The state after an octet that begins a run. -/
def RunState.begin : OctetClass → RunState
  | .mark => .alphanumeric
  | .digit => .numeric
  | .letter => .alphanumeric
  | .kanjiFirst => .kanjiFirst
  | .kanjiFirstHigh => .kanjiFirst
  | .kanjiLast => .kanjiLast
  | .kanjiSecond => .byte
  | .kanjiSecondHigh => .byte
  | .other => .byte

/-- The state after an octet that belongs to the run, or none if the run ends before it. -/
def RunState.next? : RunState → OctetClass → Option RunState
  | .start, c => some (begin c)
  | .numeric, .digit => some .numeric
  | .alphanumeric, .mark => some .alphanumeric
  | .alphanumeric, .letter => some .alphanumeric
  | .byte, .kanjiSecond => some .byte
  | .byte, .kanjiSecondHigh => some .byte
  | .byte, .other => some .byte
  | .kanjiFirst, .mark => none
  | .kanjiFirst, .digit => none
  | .kanjiFirst, .other => none
  | .kanjiFirst, _ => some .kanji
  | .kanjiLast, .letter => some .kanji
  | .kanjiLast, .kanjiFirst => some .kanji
  | .kanjiLast, .kanjiSecond => some .kanji
  | .kanji, .kanjiFirst => some .kanjiFirst
  | .kanji, .kanjiFirstHigh => some .kanjiFirst
  | .kanji, .kanjiLast => some .kanjiLast
  | _, _ => none

/-- The segments of a run of `size` octets. A first octet that lacks its second is on its own. -/
def RunState.segments (size : Nat) : RunState → List Segment
  | .start => []
  | .numeric => [⟨.numeric, size⟩]
  | .alphanumeric => [⟨.alphanumeric, size⟩]
  | .byte => [⟨.byte, size⟩]
  | .kanji => [⟨.kanji, size⟩]
  | .kanjiFirst | .kanjiLast =>
    if size ≤ 1 then [⟨.byte, size⟩] else [⟨.kanji, size - 1⟩, ⟨.byte, 1⟩]

/-- The segments of the octets that follow a run of `size` octets in `state`. -/
def segmentsFrom (state : RunState) (size : Nat) : List UInt8 → List Segment
  | [] => state.segments size
  | o :: rest =>
    match state.next? (.of o) with
    | some next => segmentsFrom next (size + 1) rest
    | none => state.segments size ++ segmentsFrom (.begin (.of o)) 1 rest

def segments (octets : List UInt8) : List Segment := segmentsFrom .start 0 octets

/-- The sizes of picture codes whose segments have equally long counters. -/
inductive SizeClass
  | small
  | medium
  | large
  deriving DecidableEq, Repr

/-- The number of bits of a segment's counter. -/
def counterBits : SizeClass → Mode → Nat
  | .small, .numeric => 10
  | .small, .alphanumeric => 9
  | .small, _ => 8
  | .medium, .numeric => 12
  | .medium, .alphanumeric => 11
  | .medium, .byte => 16
  | .medium, .kanji => 10
  | .large, .numeric => 14
  | .large, .alphanumeric => 13
  | .large, .byte => 16
  | .large, .kanji => 12

/-- The number of bits of a segment's content. -/
def Segment.contentBits (s : Segment) : Nat :=
  match s.mode with
  | .numeric => (10 * s.size + 2) / 3
  | .alphanumeric => (11 * s.size + 1) / 2
  | .byte => 8 * s.size
  | .kanji => 13 * (s.size / 2)

/-- The number of bits of a segment with its mode and its counter. -/
def Segment.bits (c : SizeClass) (s : Segment) : Nat := 4 + counterBits c s.mode + s.contentBits

def Segment.join (a b : Segment) : Segment := ⟨a.mode.join b.mode, a.size + b.size⟩

/-- The number of bits of `last` and the segments after it, each joined to those before it where
that takes no more bits. -/
def joinedBits (c : SizeClass) (last : Segment) : List Segment → Nat
  | [] => last.bits c
  | s :: rest =>
    if (last.join s).bits c ≤ last.bits c + s.bits c then joinedBits c (last.join s) rest
    else last.bits c + joinedBits c s rest

def totalBits (c : SizeClass) : List Segment → Nat
  | [] => 0
  | s :: rest => joinedBits c s rest

end TunnelKeeper.Qr
