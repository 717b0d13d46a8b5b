import TunnelKeeper.Net.AddressText

/-!
TOML strings: in double quotes with escapes, or in single quotes as they are; on one line, or between
three quotes over several. Controls other than the tab are refused. Between three quotes a line break
right at the start is dropped, a backslash at the end of a line drops what is blank up to the next
visible character, and up to two quotes may stand right before the three that end the string.
-/

namespace TunnelKeeper.Toml

/-- Whether `c` is a space or a tab. -/
def isSpace (c : Char) : Bool := c = ' ' || c = '\t'

def isPlain (c : Char) : Bool := c = '\t' || (32 ≤ c.toNat && c.toNat ≠ 127)

/-- The line break that `s` begins with is dropped. -/
def dropNewline? : List Char → Option (List Char)
  | '\n' :: rest => some rest
  | '\r' :: '\n' :: rest => some rest
  | _ => none

def atNewline (s : List Char) : Bool := (dropNewline? s).isSome

/-- The character that a short escape stands for. -/
def shortEscape? (c : Char) : Option Char :=
  match c with
  | '"' => some '"'
  | '\\' => some '\\'
  | 'b' => some (Char.ofNat 8)
  | 'f' => some (Char.ofNat 12)
  | 'n' => some '\n'
  | 'r' => some '\r'
  | 't' => some '\t'
  | _ => none

/-- The character whose code point the hexadecimal digits write. -/
def ofHex? (digits : List Char) : Option Char := do
  let values ← digits.mapM Net.hexValue?
  let n := values.foldl (fun n v => 16 * n + v) 0
  if n.isValidChar then some (Char.ofNat n) else none

def before (c : Char) (text : Option (List Char × List Char)) : Option (List Char × List Char) :=
  text.map fun (text, rest) => (c :: text, rest)

/-- Reads the inside of a string on one line and the quote that ends it. -/
def readBasic? : List Char → Option (List Char × List Char)
  | '"' :: rest => some ([], rest)
  | '\\' :: 'u' :: a :: b :: c :: d :: rest =>
    (ofHex? [a, b, c, d]).bind fun c => before c (readBasic? rest)
  | '\\' :: 'U' :: a :: b :: c :: d :: e :: f :: g :: h :: rest =>
    (ofHex? [a, b, c, d, e, f, g, h]).bind fun c => before c (readBasic? rest)
  | '\\' :: e :: rest => (shortEscape? e).bind fun c => before c (readBasic? rest)
  | c :: rest => if isPlain c then before c (readBasic? rest) else none
  | [] => none

/-- Reads the inside of a string over several lines and the three quotes that end it. `skipping`
tells whether blanks are being dropped. -/
def readLongBasic? : (skipping : Bool) → List Char → Option (List Char × List Char)
  | _, '"' :: '"' :: '"' :: '"' :: '"' :: rest => some (['"', '"'], rest)
  | _, '"' :: '"' :: '"' :: '"' :: rest => some (['"'], rest)
  | _, '"' :: '"' :: '"' :: rest => some ([], rest)
  | _, '\\' :: 'u' :: a :: b :: c :: d :: rest =>
    (ofHex? [a, b, c, d]).bind fun c => before c (readLongBasic? false rest)
  | _, '\\' :: 'U' :: a :: b :: c :: d :: e :: f :: g :: h :: rest =>
    (ofHex? [a, b, c, d, e, f, g, h]).bind fun c => before c (readLongBasic? false rest)
  | _, '\\' :: e :: rest =>
    if atNewline ((e :: rest).dropWhile isSpace) then readLongBasic? true (e :: rest)
    else (shortEscape? e).bind fun c => before c (readLongBasic? false rest)
  | skipping, c :: rest =>
    if skipping && (isSpace c || atNewline (c :: rest) || c = '\n') then readLongBasic? true rest
    else if c = '\n' || isPlain c || atNewline (c :: rest) then before c (readLongBasic? false rest)
    else none
  | _, [] => none

/-- Reads the inside of a string in single quotes on one line and the quote that ends it. -/
def readLiteral? : List Char → Option (List Char × List Char)
  | '\'' :: rest => some ([], rest)
  | c :: rest => if isPlain c then before c (readLiteral? rest) else none
  | [] => none

/-- Reads the inside of a string in single quotes over several lines and the three quotes that end
it. -/
def readLongLiteral? : List Char → Option (List Char × List Char)
  | '\'' :: '\'' :: '\'' :: '\'' :: '\'' :: rest => some (['\'', '\''], rest)
  | '\'' :: '\'' :: '\'' :: '\'' :: rest => some (['\''], rest)
  | '\'' :: '\'' :: '\'' :: rest => some ([], rest)
  | c :: rest =>
    if isPlain c || atNewline (c :: rest) then before c (readLongLiteral? rest) else none
  | [] => none

/-- A text without the line break it begins with. -/
def skipNewline (s : List Char) : List Char := (dropNewline? s).getD s

def readString? : List Char → Option (List Char × List Char)
  | '"' :: '"' :: '"' :: rest => readLongBasic? false (skipNewline rest)
  | '"' :: rest => readBasic? rest
  | '\'' :: '\'' :: '\'' :: rest => readLongLiteral? (skipNewline rest)
  | '\'' :: rest => readLiteral? rest
  | _ => none

end TunnelKeeper.Toml
