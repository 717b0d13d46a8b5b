import TunnelKeeper.Net.AddressText

/-!
An address with a port. An IPv6 address stands in brackets and may carry the number of its scope.
-/

namespace TunnelKeeper

/-- An address with a port. -/
structure SocketAddress where
  ip : IpAddress
  port : UInt16
  /-- The scope of an IPv6 address, zero for none. -/
  scope : UInt32
  deriving DecidableEq

namespace SocketAddress

open TunnelKeeper.Net

def readPort? (s : List Char) : Option (UInt16 × List Char) := do
  let s ← readChar? ':' s
  let (n, s) ← readDecimal? 65535 s
  return (UInt16.ofNat n, s)

/-- Reads a per cent sign and the number of a scope, if they are there. -/
def readScope (s : List Char) : UInt32 × List Char :=
  match (readChar? '%' s).bind (readDecimal? 4294967295) with
  | some (n, rest) => (UInt32.ofNat n, rest)
  | none => (0, s)

/-- Reads an IPv6 address in brackets, and its port. -/
def readBracketed? (s : List Char) : Option (SocketAddress × List Char) := do
  let s ← readChar? '[' s
  let (ip, s) ← readV6? s
  let (scope, s) := readScope s
  let s ← readChar? ']' s
  let (port, s) ← readPort? s
  return (⟨ip, port, scope⟩, s)

/-- Reads an IPv4 address and its port. -/
def readPlain? (s : List Char) : Option (SocketAddress × List Char) := do
  let (ip, s) ← readV4? s
  let (port, s) ← readPort? s
  return (⟨ip, port, 0⟩, s)

def parse? (s : List Char) : Option SocketAddress :=
  whole? (fun s => (readPlain? s).or (readBracketed? s)) s

/-- The text of an address with its port. -/
def text (a : SocketAddress) : String :=
  match a.ip.family with
  | .v4 => a.ip.text ++ ":" ++ toString a.port
  | .v6 =>
    let scope := if a.scope = 0 then "" else "%" ++ toString a.scope
    "[" ++ a.ip.text ++ scope ++ "]:" ++ toString a.port

instance : ToString SocketAddress := ⟨text⟩

end SocketAddress

end TunnelKeeper
