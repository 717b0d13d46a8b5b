import TunnelKeeper.Json.Value
import TunnelKeeper.Text.Quoted

/-!
Writing JSON text over several lines, each level indented by two spaces. An empty array or object
stays on its line. A string shows every character that JSON allows as it is.
-/

namespace TunnelKeeper.Json

def escaped (c : Char) : List Char :=
  match c with
  | '"' => ['\\', '"']
  | '\\' => ['\\', '\\']
  | '\n' => ['\\', 'n']
  | '\r' => ['\\', 'r']
  | '\t' => ['\\', 't']
  | c =>
    if c.toNat = 8 then ['\\', 'b']
    else if c.toNat = 12 then ['\\', 'f']
    else if c.toNat < 32 then
      ['\\', 'u', '0', '0', if c.toNat < 16 then '0' else '1', Nat.digitChar (c.toNat % 16)]
    else [c]

def writeString (s : String) : List Char := '"' :: s.toList.flatMap escaped ++ ['"']

def newline (depth : Nat) : List Char := '\n' :: List.replicate (2 * depth) ' '

mutual

/-- A value at `depth`. A string that stands for no text has no form of its own and is written as an
empty one. -/
def write (depth : Nat) : Json → List Char
  | .null => "null".toList
  | .bool true => "true".toList
  | .bool false => "false".toList
  | .number literal => literal
  | .string text => writeString (text.getD "")
  | .array [] => ['[', ']']
  | .array (item :: items) =>
    '[' :: newline (depth + 1) ++ write (depth + 1) item ++ writeItems (depth + 1) items
      ++ newline depth ++ [']']
  | .object [] => ['\x7b', '\x7d']
  | .object ((name, value) :: members) =>
    '\x7b' :: newline (depth + 1) ++ writeString (name.getD "") ++ [':', ' ']
      ++ write (depth + 1) value ++ writeMembers (depth + 1) members ++ newline depth ++ ['\x7d']

/-- The items of an array after its first. -/
def writeItems (depth : Nat) : List Json → List Char
  | [] => []
  | item :: items => ',' :: newline depth ++ write depth item ++ writeItems depth items

/-- The members of an object after its first. -/
def writeMembers (depth : Nat) : List (Option String × Json) → List Char
  | [] => []
  | (name, value) :: members =>
    ',' :: newline depth ++ writeString (name.getD "") ++ [':', ' '] ++ write depth value
      ++ writeMembers depth members

end

def text (j : Json) : String := String.ofList (write 0 j)

end TunnelKeeper.Json
