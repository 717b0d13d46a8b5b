import TunnelKeeper.Text.Split

/-!
Configuration documents: sections of settings, each setting on a line of its own, with an empty line
between sections.
-/

namespace TunnelKeeper

/-- A section of a document. -/
structure DocumentSection where
  /-- A remark on the line before the title. -/
  comment : Option String
  /-- What stands in the brackets. -/
  title : String
  settings : List (String × String)
  deriving DecidableEq, Repr

namespace DocumentSection

def lines (s : DocumentSection) : List String :=
  (s.comment.map fun c => "# " ++ c).toList ++ ["[" ++ s.title ++ "]"]
    ++ s.settings.map fun (name, value) => name ++ " = " ++ value

end DocumentSection

namespace Document

/-- The lines of the sections, with an empty line before every section but the first. -/
def lines : List DocumentSection → List String
  | [] => []
  | s :: rest => s.lines ++ rest.flatMap fun s => "" :: s.lines

/-- The text of the sections, in which every line is ended. -/
def text (sections : List DocumentSection) : String :=
  String.join ((lines sections).map (· ++ "\n"))

end Document

end TunnelKeeper
