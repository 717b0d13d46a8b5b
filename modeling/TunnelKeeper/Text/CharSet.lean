/-!
Sets of characters given by their bounds: an ascending list that alternates between the first
member of a run and the first number past it. The Unicode properties of the neighbouring modules
are such lists.
-/

namespace TunnelKeeper.Text

/-- Whether `n` lies in one of the runs of `bounds`. A last bound without a partner opens a run
that never closes. -/
def inRuns : List Nat → Nat → Bool
  | [], _ => false
  | [first], n => first ≤ n
  | first :: past :: rest, n => first ≤ n && (n < past || inRuns rest n)

end TunnelKeeper.Text
