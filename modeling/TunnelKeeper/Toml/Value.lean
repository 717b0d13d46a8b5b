import TunnelKeeper.Members

/-!
TOML values, as far as a configuration uses them: of a fractional number and of a date or a time it
is only known that they are there.
-/

namespace TunnelKeeper

inductive Toml
  | string (text : String)
  | integer (value : Int)
  | fractional
  | bool (value : Bool)
  /-- A date, a time of day, or both. -/
  | moment
  | array (items : List Toml)
  /-- Members in the order in which their names first appear; every name appears once. -/
  | table (members : List (String × Toml))

namespace Toml

instance : Inhabited Toml := ⟨moment⟩

def string? : Toml → Option String
  | .string s => some s
  | _ => none

/-- The value of an integer that is not negative and at most `bound`. -/
def nat? (bound : Nat) : Toml → Option Nat
  | .integer (.ofNat n) => if n ≤ bound then some n else none
  | _ => none

def bool? : Toml → Option Bool
  | .bool b => some b
  | _ => none

/-- The items of an array, each read by `item`. -/
def list? {α : Type} (item : Toml → Option α) : Toml → Option (List α)
  | .array items => items.mapM item
  | _ => none

/-- The members of a value among `names`. A table has them by name, and an array in order; what is
not known is passed over. A moment counts as a record of which nothing is known. -/
def members? (names : List String) : Toml → Option (Members Toml)
  | .table members => some ⟨false, members⟩
  | .array items => some (.ofList names items)
  | .moment => some ⟨false, []⟩
  | _ => none

end Toml

end TunnelKeeper
