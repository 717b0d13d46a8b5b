/-!
What can be found at the place of a file. Every file of the program is a text in UTF-8.
-/

namespace TunnelKeeper

/-- What is at the place of a file. -/
inductive FileEntry
  | absent
  | text (content : String)
  /-- A directory, or something else that cannot be read as a text. -/
  | unreadable
  deriving DecidableEq, Repr

def FileEntry.ofOctets (octets : ByteArray) : FileEntry :=
  match String.fromUTF8? octets with
  | some content => .text content
  | none => .unreadable

end TunnelKeeper
