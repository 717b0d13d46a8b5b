/-!
The known members of a record in a text of named values. A record may also be written as a list of
its members in order, which may stop before those that have a default.
-/

namespace TunnelKeeper

/-- The known members of a record, with values in `V`. -/
structure Members (V : Type) where
  /-- Whether they are written as a list. -/
  positional : Bool
  values : List (String × V)

namespace Members

variable {V α : Type}

/-- The members of a list, in the order of `names`. -/
def ofList (names : List String) (values : List V) : Members V := ⟨true, names.zip values⟩

def get? (m : Members V) (name : String) : Option V := m.values.lookup name

/-- A member that has to be there. -/
def required? (m : Members V) (name : String) (value : V → Option α) : Option α :=
  (m.get? name).bind value

/-- A member that takes a default when it is not there. -/
def defaulted? (m : Members V) (name : String) (default : α) (value : V → Option α) : Option α :=
  match m.get? name with
  | some v => value v
  | none => some default

end Members

end TunnelKeeper
