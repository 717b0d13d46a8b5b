import TunnelKeeper.Net.AddressText
import TunnelKeeper.Text.Blank

/-!
Checks of the fields of a record. A check adds what it finds to a list, so that a record is refused
for all its faults at once.
-/

namespace TunnelKeeper

/-- A fault of one field. -/
structure Violation where
  field : String
  description : String
  deriving DecidableEq, Repr

def Violation.text (v : Violation) : String := v.field ++ ": " ++ v.description

/-- A record is refused for these faults. -/
structure ValidationError where
  subject : String
  violations : List Violation
  deriving DecidableEq, Repr

namespace ValidationError

def message (e : ValidationError) : String :=
  "invalid " ++ e.subject ++ ": " ++ Text.join "; " (e.violations.map Violation.text)

/-- The names of the faulty fields, in the order of the faults. -/
def fields (e : ValidationError) : List String := e.violations.map Violation.field

end ValidationError

namespace Validation

def result (subject : String) (violations : List Violation) : Except ValidationError Unit :=
  if violations = [] then .ok () else .error ⟨subject, violations⟩

theorem result_eq_ok_iff {subject : String} {vs : List Violation} {u : Unit} :
    result subject vs = .ok u ↔ vs = [] := by
  unfold result
  split <;> simp_all

/-- The faults of a list of name servers: each entry has to be an address. A blank list is none. -/
def checkDns (dns : String) : List Violation :=
  if Text.isBlankText dns then []
  else (Text.splitOn (· = ',') dns.toList).filterMap fun entry =>
    let entry := Text.trimmed entry
    match IpAddress.parse? entry with
    | some _ => none
    | none => some ⟨"dns", "wrong DNS address: " ++ String.ofList entry⟩

/-- The entries of a list of name servers, less the blank ones. -/
def dnsEntries (dns : String) : List String :=
  ((Text.splitOn (· = ',') dns.toList).map Text.trimmed).filter (· ≠ []) |>.map String.ofList

/-- The fault of a value of more than `max` characters. -/
def checkMaxLength (field value : String) (max : Nat) : List Violation :=
  if value.length ≤ max then []
  else [⟨field, field ++ " should be " ++ toString max ++ " characters max"⟩]

end Validation

end TunnelKeeper
