import TunnelKeeper.Text.Alphanumeric
import TunnelKeeper.Text.Blank
import TunnelKeeper.Text.Split

/-!
Mail addresses, with or without a name before them: `user@host` or `Name <user@host>`. The text is
first read by its grammar, from left to right and without going back to another reading of a part
that matched; then the two parts of the address are checked. Comments and hosts in brackets are not
understood.

A local part could also be a list of words with points between them; as each word is an atom or a
quoted string, which match on their own before, that form adds nothing.
-/

namespace TunnelKeeper.Mailbox

/-- Whether `c` is a space or a tab. -/
def isSpace (c : Char) : Bool := c = ' ' || c = '\t'

def atomMarks : List Char :=
  ['!', '#', '$', '%', '&', '\'', '*', '+', '-', '/', '=', '?', '^', '_', '\x60', '\x7b', '|',
    '\x7d', '~']

def isAtomChar (c : Char) : Bool :=
  c.isAlphanum || atomMarks.contains c || 128 ≤ c.toNat

/-- Reads an atom, less the spaces before it. -/
def readAtom? (s : List Char) : Option (List Char × List Char) :=
  let s := s.dropWhile isSpace
  match s.takeWhile isAtomChar with
  | [] => none
  | atom => some (atom, s.dropWhile isAtomChar)

/-- Reads further atoms, each behind a point; `fuel` bounds their number. -/
def readDotted : (fuel : Nat) → List Char → List Char × List Char
  | 0, s => ([], s)
  | fuel + 1, s =>
    match s with
    | '.' :: t =>
      match t.takeWhile isAtomChar with
      | [] => ([], s)
      | atom =>
        let (more, rest) := readDotted fuel (t.dropWhile isAtomChar)
        ('.' :: atom ++ more, rest)
    | _ => ([], s)

/-- Reads atoms with points between them, less the spaces before them. -/
def readDotAtom? (s : List Char) : Option (List Char × List Char) :=
  (readAtom? s).map fun (atom, t) =>
    let (more, rest) := readDotted t.length t
    (atom ++ more, rest)

/-- Whether `c` may stand in a quoted string as it is. -/
def isQuotable (c : Char) : Bool :=
  let n := c.toNat
  (33 ≤ n && n ≠ 34 && n ≠ 92) || (1 ≤ n && n ≤ 31 && n ≠ 9 && n ≠ 10 && n ≠ 13)

/-- Reads the inside of a quoted string and the quote that ends it. A run of spaces counts as its
first, and the last one before the quote not at all; `pending` holds the first space of the run
before `s`. -/
def readQuotedRest : (pending : List Char) → List Char → Option (List Char × List Char)
  | _, '"' :: rest => some ([], rest)
  | pending, '\\' :: c :: rest =>
    if c.toNat < 128 then
      (readQuotedRest [] rest).map fun (value, rest) => (pending ++ c :: value, rest)
    else none
  | pending, c :: rest =>
    if isSpace c then readQuotedRest (if pending.isEmpty then [c] else pending) rest
    else if isQuotable c then
      (readQuotedRest [] rest).map fun (value, rest) => (pending ++ c :: value, rest)
    else none
  | _, [] => none

/-- Reads a quoted string, which is its inside without the quotes. -/
def readQuoted? : List Char → Option (List Char × List Char)
  | '"' :: rest => readQuotedRest [] rest
  | _ => none

/-- Reads a local part, an at sign and a host. -/
def readAddress? (s : List Char) : Option ((List Char × List Char) × List Char) := do
  let (localPart, s) ← (readDotAtom? s).or (readQuoted? s)
  let s ← Text.afterPrefix? ['@'] s
  let (host, s) ← readDotAtom? s
  return ((localPart, host), s)

/-- Drops a word: a quoted string or an atom. -/
def dropWord? (s : List Char) : Option (List Char) :=
  ((readQuoted? s).or (readAtom? s)).map Prod.snd

/-- Drops words, points and spaces; `fuel` bounds their number. -/
def dropPhrase : (fuel : Nat) → List Char → List Char
  | 0, s => s
  | fuel + 1, s =>
    match dropWord? s with
    | some rest => dropPhrase fuel rest
    | none =>
      match s with
      | c :: rest => if c = '.' || isSpace c then dropPhrase fuel rest else s
      | [] => []

/-- Reads an address in angle brackets, less the name before it. -/
def readNamed? (s : List Char) : Option ((List Char × List Char) × List Char) := do
  let s := match dropWord? s with
    | some rest => dropPhrase rest.length rest
    | none => s
  let s ← Text.afterPrefix? ['<'] (s.dropWhile isSpace)
  let (parts, s) ← readAddress? s
  let s ← Text.afterPrefix? ['>'] s
  return (parts, s.dropWhile isSpace)

/-- Whether `c` may stand in a checked local part or label. -/
def isAddressChar (c : Char) : Bool := Text.isAlphanumeric c || atomMarks.contains c

/-- The number of octets of `s` in UTF-8. -/
def size (s : List Char) : Nat := s.foldl (fun n c => n + c.utf8Size) 0

/-- Whether `s` is a local part of a mail address. -/
def isLocalPart (s : List Char) : Bool :=
  1 ≤ size s && size s ≤ 64 &&
    ((s.head? = some '"' && s.getLast? = some '"') ||
      (Text.splitOn (· = '.') s).all fun atom => atom ≠ [] && atom.all isAddressChar)

/-- Whether `s` is a label of a host. -/
def isLabel (s : List Char) : Bool :=
  1 ≤ size s && size s ≤ 63 && s.all isAddressChar &&
    s.head?.any Text.isAlphanumeric && s.getLast?.any Text.isAlphanumeric

/-- Whether `s` is a host of a mail address. -/
def isHost (s : List Char) : Bool :=
  size s ≤ 254 && (Text.splitOn (· = '.') s).all isLabel

end Mailbox

open Mailbox in
/-- Whether `s` is a mail address, with or without a name before it. -/
def isMailbox (s : String) : Bool :=
  let s := s.toList.dropWhile Text.isBlank
  match (readNamed? s).or (readAddress? s) with
  | some ((localPart, host), rest) =>
    rest.all Text.isBlank && isLocalPart localPart && isHost host
  | none => false

end TunnelKeeper
