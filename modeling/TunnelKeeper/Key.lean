import TunnelKeeper.Base64
import TunnelKeeper.Curve25519
import TunnelKeeper.Text.Blank

/-!
Keys: thirty-two octets, private, public or preshared. Their text is standard base64 with padding;
white space around it is not part of it.
-/

namespace TunnelKeeper

/-- A key of a tunnel. -/
structure Key where
  octets : List UInt8
  length_octets : octets.length = 32
  deriving DecidableEq

/-- Why a text is not a key. -/
inductive KeyError
  | decode (error : Base64.DecodeError)
  /-- The text stands for another number of octets. -/
  | invalidLength (length : Nat)
  deriving DecidableEq, Repr

def KeyError.message : KeyError → String
  | .decode e => "failed to decode base64 key: " ++ e.message
  | .invalidLength n => "invalid key length: expected 32 bytes, got " ++ toString n

namespace Key

/-- The key of the octets, if there are thirty-two. -/
def ofOctets? (octets : List UInt8) : Option Key :=
  if h : octets.length = 32 then some ⟨octets, h⟩ else none

/-- The key whose octets are all zero. As a preshared key it stands for none. -/
def zero : Key := ⟨List.replicate 32 0, by simp⟩

instance : Inhabited Key := ⟨zero⟩

/-- Whether every octet is zero. -/
def isZero (k : Key) : Bool := k.octets.all (· = 0)

/-- The public key that belongs to `k` as a private key. -/
def publicKey (k : Key) : Key :=
  ⟨Curve25519.publicOctets k.octets, Curve25519.length_toOctets 32 _⟩

/-- The characters of the text of a key. -/
def chars (k : Key) : List Char := (Base64.encode k.octets).map fun o => Char.ofNat o.toNat

def text (k : Key) : String := String.ofList k.chars

/-- The form of a key that gives away only its first characters. -/
def abbreviated (k : Key) : String := "WgKey(" ++ String.ofList (k.chars.take 8) ++ "…)"

def utf8 (s : List Char) : List UInt8 := s.flatMap String.utf8EncodeChar

/-- Reads a key, less the white space around it. -/
def parse (s : String) : Except KeyError Key :=
  match Base64.decode (utf8 (Text.trimmed s.toList)) with
  | .error e => .error (.decode e)
  | .ok octets =>
    match ofOctets? octets with
    | some k => .ok k
    | none => .error (.invalidLength octets.length)

@[simp] theorem isZero_iff {k : Key} : k.isZero = true ↔ k = zero := by
  cases k with
  | mk octets h =>
    simp only [isZero, zero, List.all_eq_true, decide_eq_true_eq, mk.injEq]
    exact ⟨fun hz => List.eq_replicate_iff.mpr ⟨h, hz⟩, fun hz o ho => (List.eq_replicate_iff.mp hz).2 o ho⟩

end Key

end TunnelKeeper
