import TunnelKeeper.Toml.Quoted
import TunnelKeeper.Toml.Scalar
import TunnelKeeper.Toml.Tree

/-!
Reading TOML text. Each reader takes what it understands off the front and gives back the rest. A
reader of several things is given the reader of one; the length of the text bounds their number, and
arrays and tables within values may be nested eighty deep.
-/

namespace TunnelKeeper.Toml

/-! ## Blanks -/

/-- Drops the spaces and tabs at the start. -/
def skipSpace (s : List Char) : List Char := s.dropWhile isSpace

/-- Drops a comment up to the end of its line, if there is one. -/
def skipComment (s : List Char) : List Char :=
  match s with
  | '#' :: rest => rest.dropWhile isPlain
  | _ => s

def skipRemark (s : List Char) : List Char := skipComment (skipSpace s)

/-- Drops spaces, comments and line breaks; `fuel` bounds the number of lines. -/
def skipLines : (fuel : Nat) → List Char → List Char
  | 0, s => s
  | fuel + 1, s =>
    match dropNewline? (skipRemark s) with
    | some rest => skipLines fuel rest
    | none => skipRemark s

/-! ## Names -/

/-- Whether `c` may stand in a name without quotes. -/
def isNameChar (c : Char) : Bool := c.isAlphanum || c = '_' || c = '-'

/-- Reads a name without points. -/
def readName? (s : List Char) : Option (String × List Char) :=
  match s with
  | '"' :: rest => (readBasic? rest).map fun (name, rest) => (String.ofList name, rest)
  | '\'' :: rest => (readLiteral? rest).map fun (name, rest) => (String.ofList name, rest)
  | _ =>
    match s.takeWhile isNameChar with
    | [] => none
    | name => some (String.ofList name, s.dropWhile isNameChar)

/-- Reads names with points between them, and the spaces after them; `fuel` bounds their number. -/
def readPath? : (fuel : Nat) → List Char → Option (List String × List Char)
  | 0, _ => none
  | fuel + 1, s =>
    match readName? (skipSpace s) with
    | none => none
    | some (name, rest) =>
      match skipSpace rest with
      | '.' :: rest => (readPath? fuel rest).map fun (path, rest) => (name :: path, rest)
      | rest => some ([name], rest)

/-- Reads a dotted name, an equals sign, and a value. -/
def readAssignment? (value : List Char → Option (Toml × List Char)) (s : List Char) :
    Option ((List String × Toml) × List Char) :=
  match readPath? s.length s with
  | some (path, '=' :: rest) => (value (skipSpace rest)).map fun (v, rest) => ((path, v), rest)
  | _ => none

/-! ## Values -/

/-- Reads the items of an array and the bracket that ends it. Items may stand on lines of their own,
and a comma may follow the last. -/
def readItems? (value : List Char → Option (Toml × List Char)) :
    (fuel : Nat) → List Char → Option (List Toml × List Char)
  | 0, _ => none
  | fuel + 1, s =>
    match skipLines s.length s with
    | ']' :: rest => some ([], rest)
    | s =>
      match value s with
      | none => none
      | some (item, rest) =>
        match skipLines rest.length rest with
        | ',' :: rest => (readItems? value fuel rest).map fun (items, rest) => (item :: items, rest)
        | ']' :: rest => some ([item], rest)
        | _ => none

/-- Reads the members of a table on one line, of which there is at least one, and the brace that ends
it. -/
def readMembers? (value : List Char → Option (Toml × List Char)) :
    (fuel : Nat) → List Char → Option (List (List String × Toml) × List Char)
  | 0, _ => none
  | fuel + 1, s =>
    match readAssignment? value s with
    | none => none
    | some (entry, rest) =>
      match skipSpace rest with
      | ',' :: rest =>
        (readMembers? value fuel rest).map fun (entries, rest) => (entry :: entries, rest)
      | '\x7d' :: rest => some ([entry], rest)
      | _ => none

/-- Reads a table on one line after its first brace. -/
def readInline? (value : List Char → Option (Toml × List Char)) (s : List Char) :
    Option (Toml × List Char) :=
  match skipSpace s with
  | '\x7d' :: rest => some (.table [], rest)
  | s => do
    let (entries, rest) ← readMembers? value s.length s
    let members ← Nodes.ofEntries? entries
    return (.table (Node.membersToToml members), rest)

/-- Reads a value in which arrays and tables are nested at most `depth` deep. -/
def readValue? : (depth : Nat) → List Char → Option (Toml × List Char)
  | depth, s =>
    match s, depth with
    | '[' :: rest, depth + 1 =>
      (readItems? (readValue? depth) rest.length rest).map fun (items, rest) => (.array items, rest)
    | '\x7b' :: rest, depth + 1 => readInline? (readValue? depth) rest
    | _, _ =>
      ((readString? s).map fun (text, rest) => (.string (String.ofList text), rest)).or (readWord? s)

/-! ## Statements -/

/-- How deep arrays and tables within a value may be nested. -/
def maxDepth : Nat := 80

def readStatement? (s : List Char) : Option (Statement × List Char) :=
  match s with
  | '[' :: '[' :: rest =>
    match readPath? rest.length rest with
    | some (path, ']' :: ']' :: rest) => some (.element path, rest)
    | _ => none
  | '[' :: rest =>
    match readPath? rest.length rest with
    | some (path, ']' :: rest) => some (.table path, rest)
    | _ => none
  | _ => (readAssignment? (readValue? maxDepth) s).map fun ((path, v), rest) => (.entry path v, rest)

/-- Reads statements, each on a line of its own; `fuel` bounds their number. -/
def readStatements? : (fuel : Nat) → List Char → Option (List Statement)
  | 0, _ => none
  | fuel + 1, s =>
    match skipLines s.length s with
    | [] => some []
    | s =>
      match readStatement? s with
      | none => none
      | some (statement, rest) =>
        match skipRemark rest with
        | [] => some [statement]
        | rest =>
          match dropNewline? rest with
          | some rest => (readStatements? fuel rest).map (statement :: ·)
          | none => none

/-- The text without the mark of byte order that it may begin with. -/
def dropMark (s : List Char) : List Char :=
  if s.head? = some (Char.ofNat 0xFEFF) then s.drop 1 else s

def parse? (text : String) : Option Toml :=
  let s := dropMark text.toList
  (readStatements? (s.length + 1) s).bind ofStatements?

end TunnelKeeper.Toml
