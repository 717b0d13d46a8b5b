import TunnelKeeper.Json.Value
import TunnelKeeper.Members

/-!
Reading a JSON value as a record with known members. An object has them by name: names that are not
known are passed over, and a known name that comes twice is refused. An array has them in order.
-/

namespace TunnelKeeper.Json

/-- Members of an object under names that stand for a text. -/
def namedMembers? (members : List (Option String × Json)) : Option (List (String × Json)) :=
  members.mapM fun (name, value) => name.map fun n => (n, value)

def members? (names : List String) : Json → Option (Members Json)
  | .object members => do
    let members ← namedMembers? members
    let known := members.filter fun (name, _) => names.contains name
    if (known.map Prod.fst).Nodup then return ⟨false, known⟩ else none
  | .array items => if items.length ≤ names.length then some (.ofList names items) else none
  | _ => none

/-- Reads the name of a case: a string, or an object whose one member has that name and no value. -/
def caseName? : Json → Option String
  | .string s => s
  | .object [(name, .null)] => name
  | _ => none

end TunnelKeeper.Json

namespace TunnelKeeper.Members

/-- A member that may be null, and in an object may not be there. -/
def optional? {α : Type} (m : Members Json) (name : String) (value : Json → Option α) :
    Option (Option α) :=
  match m.get? name with
  | some j => j.option? value
  | none => if m.positional then none else some none

end TunnelKeeper.Members
