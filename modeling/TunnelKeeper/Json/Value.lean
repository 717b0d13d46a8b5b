import TunnelKeeper.Text.Decimal

/-!
JSON values as they are written: an object keeps its members in order, with names that repeat, and a
number keeps its digits. A string whose escapes leave half of a surrogate pair stands for no text; it
may still be a value that nobody reads.
-/

namespace TunnelKeeper

inductive Json
  | null
  | bool (b : Bool)
  /-- A number, by its text. -/
  | number (literal : List Char)
  /-- A string, unless it stands for no text. -/
  | string (text : Option String)
  | array (items : List Json)
  /-- Members in the order they are written. -/
  | object (members : List (Option String × Json))

namespace Json

instance : Inhabited Json := ⟨null⟩

def ofString (s : String) : Json := .string (some s)

def ofNat (n : Nat) : Json := .number (Nat.toDigits 10 n)

/-- The value of `x`, or null. -/
def ofOption {α : Type} (value : α → Json) : Option α → Json
  | none => .null
  | some x => value x

def ofMembers (members : List (String × Json)) : Json :=
  .object (members.map fun (name, value) => (some name, value))

def string? : Json → Option String
  | .string s => s
  | _ => none

/-- The value of a number that is written with digits alone, of at most `bound`. -/
def nat? (bound : Nat) : Json → Option Nat
  | .number literal => (Text.readDigits? literal).filter (· ≤ bound)
  | _ => none

def bool? : Json → Option Bool
  | .bool b => some b
  | _ => none

/-- The items of an array, each read by `item`. -/
def list? {α : Type} (item : Json → Option α) : Json → Option (List α)
  | .array items => items.mapM item
  | _ => none

/-- What `value` makes of a value other than null. -/
def option? {α : Type} (value : Json → Option α) : Json → Option (Option α)
  | .null => some none
  | j => (value j).map some

end Json

end TunnelKeeper
