/-!
Splitting and joining texts at a separator.
-/

namespace TunnelKeeper.Text

/-- The pieces of `s` between the characters that `sep` picks; one more than there are of those. -/
def splitOn (sep : Char → Bool) : List Char → List (List Char)
  | [] => [[]]
  | c :: rest =>
    if sep c then [] :: splitOn sep rest
    else match splitOn sep rest with
      | [] => [[c]]
      | piece :: pieces => (c :: piece) :: pieces

/-- Splits `s` at its first `sep`, which belongs to neither part. -/
def splitFirst? (sep : Char) : List Char → Option (List Char × List Char)
  | [] => none
  | c :: rest =>
    if c = sep then some ([], rest)
    else (splitFirst? sep rest).map fun (before, after) => (c :: before, after)

/-- Splits `s` at its last `sep`, which belongs to neither part. -/
def splitLast? (sep : Char) : List Char → Option (List Char × List Char)
  | [] => none
  | c :: rest =>
    match splitLast? sep rest with
    | some (before, after) => some (c :: before, after)
    | none => if c = sep then some ([], rest) else none

/-- The rest of `s` after `start`, where `s` begins with it. -/
def afterPrefix? : (start s : List Char) → Option (List Char)
  | [], s => some s
  | p :: ps, c :: cs => if p = c then afterPrefix? ps cs else none
  | _ :: _, [] => none

def join (sep : String) (parts : List String) : String := sep.intercalate parts

theorem splitOn_ne_nil (sep : Char → Bool) (s : List Char) : splitOn sep s ≠ [] := by
  cases s with
  | nil => simp [splitOn]
  | cons c rest =>
    unfold splitOn
    split
    · simp
    · split <;> simp

/-- A split at the last separator loses nothing. -/
theorem eq_of_splitLast? {sep : Char} {s before after : List Char}
    (h : splitLast? sep s = some (before, after)) : s = before ++ sep :: after := by
  induction s generalizing before after with
  | nil => simp [splitLast?] at h
  | cons c rest ih =>
    unfold splitLast? at h
    split at h
    · rename_i b a hr
      obtain ⟨rfl, rfl⟩ : c :: b = before ∧ a = after := by simpa using h
      simp [ih hr]
    · split at h
      · rename_i hc
        obtain ⟨rfl, rfl⟩ : [] = before ∧ rest = after := by simpa using h
        simp [hc]
      · simp at h

end TunnelKeeper.Text
