import TunnelKeeper.Text.Blank
import TunnelKeeper.Text.Lowercase

/-!
Searching texts for a word without regard to case.
-/

namespace TunnelKeeper.Text

def containsPart (needle : List Char) : List Char → Bool
  | [] => needle.isEmpty
  | c :: rest => needle.isPrefixOf (c :: rest) || containsPart needle rest

/-- Whether one of `haystacks` contains `needle`, less the white space around it and without regard
to case. No needle, or a blank one, is found everywhere. -/
def matchesSearch (needle : Option String) (haystacks : List String) : Bool :=
  match needle with
  | none => true
  | some n =>
    let needle := trimmed n.toList
    needle.isEmpty || haystacks.any fun h => containsPart (lowercase needle) (lowercase h.toList)

end TunnelKeeper.Text
