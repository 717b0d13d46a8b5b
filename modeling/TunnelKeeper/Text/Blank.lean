import TunnelKeeper.Text.CharSet

/-!
White space and trimming. A blank is a character with the Unicode property `White_Space`, so a
no-break space is one and a zero width space is not.
-/

namespace TunnelKeeper.Text

/-- The runs of the property `White_Space`. -/
def blankRuns : List Nat :=
  [
  9, 14, 32, 33, 133, 134, 160, 161, 5760, 5761, 8192, 8203, 8232, 8234, 8239, 8240, 8287, 8288,
  12288, 12289]

def isBlank (c : Char) : Bool := inRuns blankRuns c.toNat

/-- `s` without the blanks at its end. -/
def trimEnd (s : List Char) : List Char := (s.reverse.dropWhile isBlank).reverse

/-- `s` without the blanks at either end. -/
def trimmed (s : List Char) : List Char := trimEnd (s.dropWhile isBlank)

/-- `s` without the blanks at either end. -/
def trim (s : String) : String := String.ofList (trimmed s.toList)

def isBlankText (s : String) : Bool := s.toList.all isBlank

@[simp] theorem toList_trim (s : String) : (trim s).toList = trimmed s.toList := by
  simp [trim]

end TunnelKeeper.Text
