import TunnelKeeper.Net.SocketAddress

/-!
Endpoints: where clients reach a device, an address or a host name with a port.
-/

namespace TunnelKeeper

/-- Whether `s` is a label of a host name: letters, digits and inner hyphens, at most 63. -/
def isHostLabel (s : List Char) : Bool :=
  1 ≤ s.length && s.length ≤ 63 && s.head? ≠ some '-' && s.getLast? ≠ some '-'
    && s.all fun c => c.isAlphanum || c = '-'

/-- Whether `s` is a host name of at most 253 characters. -/
def isHostName (s : List Char) : Bool :=
  1 ≤ s.length && s.length ≤ 253 && (Text.splitOn (· = '.') s).all isHostLabel

/-- Whether `s` is an endpoint: an address with a port, or a host name and a port after the last
colon. -/
def isEndpoint (s : String) : Bool :=
  (SocketAddress.parse? s.toList).isSome ||
    match Text.splitLast? ':' s.toList with
    | some (host, port) => (Text.readNat? 65535 port).isSome && isHostName host
    | none => false

end TunnelKeeper
