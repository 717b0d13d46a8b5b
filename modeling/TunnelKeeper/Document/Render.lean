import TunnelKeeper.Device.Basic
import TunnelKeeper.Document.Basic
import TunnelKeeper.Peer.Basic

/-!
The documents of a tunnel: what a peer imports to reach its device, and the device's own. A setting
that is not set is left out.
-/

namespace TunnelKeeper

namespace Document

/-- A setting that is there only under a condition. -/
def settingIf (present : Bool) (name value : String) : List (String × String) :=
  if present then [(name, value)] else []

/-- A setting that is there unless its value is zero. -/
def settingUnlessZero (name : String) (value : Nat) : List (String × String) :=
  settingIf (value ≠ 0) name (toString value)

/-- A setting that is there unless its value is empty. -/
def settingUnlessEmpty (name value : String) : List (String × String) :=
  settingIf (value ≠ "") name value

/-- The setting of name servers, which is there unless there are none. -/
def dnsSetting (dns : String) : List (String × String) :=
  settingUnlessEmpty "DNS" (Text.join ", " (Validation.dnsEntries dns))

def presharedKeySetting (key : Option Key) : List (String × String) :=
  (key.map fun k => ("PresharedKey", k.text)).toList

/-- The section of a peer in the document that it imports. -/
def clientSection (p : Peer) : DocumentSection :=
  ⟨none, "Interface",
    [("PrivateKey", p.privateKey.text), ("Address", Text.join ", " p.allowedIps)]
      ++ dnsSetting p.dns ++ settingUnlessZero "MTU" p.mtu.toNat⟩

/-- The section of its device there, with the routes that the peer sends through the tunnel. -/
def remoteSection (p : Peer) (d : Device) (routes : List String) : DocumentSection :=
  ⟨none, "Peer",
    [("PublicKey", d.publicKey.text)] ++ presharedKeySetting p.presharedKey
      ++ [("Endpoint", d.endpoint), ("AllowedIPs", Text.join ", " routes)]
      ++ settingUnlessZero "PersistentKeepalive" p.keepalive.seconds.toNat⟩

/-- The sections of the document that a peer imports. -/
def clientSections (p : Peer) (d : Device) (routes : List String) : List DocumentSection :=
  [clientSection p, remoteSection p d routes]

/-- The section of a device in its own document. -/
def deviceSection (d : Device) : DocumentSection :=
  ⟨none, "Interface",
    [("PrivateKey", d.privateKey.text), ("Address", d.address),
        ("ListenPort", toString d.listenPort)]
      ++ settingUnlessZero "MTU" d.mtu.toNat ++ dnsSetting d.dns
      ++ settingUnlessZero "FwMark" d.firewallMark.toNat ++ settingUnlessEmpty "Table" d.table
      ++ settingUnlessZero "PersistentKeepalive" d.keepalive.seconds.toNat
      ++ settingUnlessEmpty "PreUp" d.preUp ++ settingUnlessEmpty "PostUp" d.postUp
      ++ settingUnlessEmpty "PreDown" d.preDown ++ settingUnlessEmpty "PostDown" d.postDown⟩

/-- The section of a peer in the document of its device. -/
def peerSection (p : Peer) : DocumentSection :=
  ⟨some p.name, "Peer",
    [("PublicKey", p.publicKey.text)] ++ presharedKeySetting p.presharedKey
      ++ [("AllowedIPs", Text.join ", " p.allowedIps)]⟩

/-- The sections of a device's own document: its own, and one for each enabled peer. -/
def serverSections (d : Device) (peers : List Peer) : List DocumentSection :=
  deviceSection d :: (peers.filter Peer.isEnabled).map peerSection

def client (p : Peer) (d : Device) (routes : List String) : String :=
  text (clientSections p d routes)

def server (d : Device) (peers : List Peer) : String := text (serverSections d peers)

end Document

end TunnelKeeper
