import TunnelKeeper.Proofs.Document.Settings
import TunnelKeeper.Proofs.InMemory
import TunnelKeeper.Proofs.Net.EndpointChars

/-!
# What the document of a peer says

The document that a peer imports has two sections, its own and that of its device. `ClientSets` and
`RemoteSets` are what they are to set, and the document of a valid peer and a valid device reads as
just that (`client_read`): the checks leave no line break in the name servers and in the endpoint,
and the other texts are asked to have none.
-/

namespace TunnelKeeper

open Text

theorem Peer.checkDns_eq_nil {p : Peer} (h : p.validate = .ok ()) :
    Validation.checkDns p.dns = [] := by
  have := Validation.result_eq_ok_iff.1 h
  simp only [Peer.violations, List.append_eq_nil_iff] at this
  exact this.1.1.2

theorem Device.isEndpoint_of_validate {d : Device} (h : d.validate = .ok ()) :
    isEndpoint d.endpoint = true := by
  have := Validation.result_eq_ok_iff.1 h
  simp only [Device.violations, List.append_eq_nil_iff] at this
  have hendpoint := this.1.1.1
  unfold Device.endpointViolations at hendpoint
  split at hendpoint
  · cases hendpoint
  · split at hendpoint
    · assumption
    · cases hendpoint

namespace Document

variable {p : Peer} {d : Device} {routes : List String} {n v : String}

/-! ## What is to be set -/

/-- What a peer sets for itself in the document that it imports. -/
inductive ClientSets (p : Peer) : String → String → Prop
  | privateKey : ClientSets p "PrivateKey" p.privateKey.text
  | address : ClientSets p "Address" (join ", " p.allowedIps)
  | dns (h : Validation.dnsEntries p.dns ≠ []) :
      ClientSets p "DNS" (join ", " (Validation.dnsEntries p.dns))
  | mtu (h : p.mtu ≠ 0) : ClientSets p "MTU" (toString p.mtu)

theorem ClientSets.eq_privateKey (h : ClientSets p "PrivateKey" v) : v = p.privateKey.text := by
  generalize hn : "PrivateKey" = n at h
  cases h with
  | privateKey => rfl
  | address | dns | mtu => exact absurd hn (by decide)

theorem ClientSets.eq_dns (h : ClientSets p "DNS" v) : Validation.dnsEntries p.dns ≠ [] ∧
    v = join ", " (Validation.dnsEntries p.dns) := by
  generalize hn : "DNS" = n at h
  cases h with
  | dns h => exact ⟨h, rfl⟩
  | privateKey | address | mtu => exact absurd hn (by decide)

/-- What a peer sets for its device in the document that it imports, with the routes it sends through
the tunnel. -/
inductive RemoteSets (p : Peer) (d : Device) (routes : List String) : String → String → Prop
  | publicKey : RemoteSets p d routes "PublicKey" d.publicKey.text
  | presharedKey {k : Key} (h : p.presharedKey = some k) :
      RemoteSets p d routes "PresharedKey" k.text
  | endpoint : RemoteSets p d routes "Endpoint" d.endpoint
  | allowedIps : RemoteSets p d routes "AllowedIPs" (join ", " routes)
  | keepalive (h : p.keepalive.seconds ≠ 0) :
      RemoteSets p d routes "PersistentKeepalive" (toString p.keepalive.seconds)

/-! ## What the sections say -/

theorem mem_clientSection : (n, v) ∈ (clientSection p).settings ↔ ClientSets p n v := by
  have hmtu : p.mtu.toNat ≠ 0 ↔ p.mtu ≠ 0 := not_congr (UInt32.toNat_inj (b := 0))
  simp only [clientSection, List.mem_append, List.mem_cons, List.not_mem_nil, or_false, or_assoc,
    mem_settingUnlessZero, mem_dnsSetting, Prod.mk.injEq, hmtu]
  constructor
  · rintro (⟨rfl, rfl⟩ | ⟨rfl, rfl⟩ | ⟨h, rfl, rfl⟩ | ⟨h, rfl, rfl⟩)
    · exact .privateKey
    · exact .address
    · exact .dns h
    · exact .mtu h
  · intro h
    cases h with
    | privateKey => simp
    | address => simp
    | dns h => simp [h]
    | mtu h =>
      simp [h]
      rfl

theorem mem_remoteSection :
    (n, v) ∈ (remoteSection p d routes).settings ↔ RemoteSets p d routes n v := by
  have hkeepalive : p.keepalive.seconds.toNat ≠ 0 ↔ p.keepalive.seconds ≠ 0 :=
    not_congr (UInt64.toNat_inj (b := 0))
  simp only [remoteSection, List.mem_append, List.mem_cons, List.not_mem_nil, or_false, or_assoc,
    mem_settingUnlessZero, mem_presharedKeySetting, Prod.mk.injEq, hkeepalive]
  constructor
  · rintro (⟨rfl, rfl⟩ | ⟨k, h, rfl, rfl⟩ | ⟨rfl, rfl⟩ | ⟨rfl, rfl⟩ | ⟨h, rfl, rfl⟩)
    · exact .publicKey
    · exact .presharedKey h
    · exact .endpoint
    · exact .allowedIps
    · exact .keepalive h
  · intro h
    cases h with
    | publicKey => simp
    | presharedKey h => simp [h]
    | endpoint => simp
    | allowedIps => simp
    | keepalive h =>
      simp [h]
      rfl

theorem says_clientSection (p : Peer) :
    (clientSection p).body.Says "Interface" (ClientSets p) where
  title := rfl
  nodup := by
    have hnames : ((clientSection p).settings.map Prod.fst).Sublist
        (["PrivateKey", "Address"] ++ ["DNS"] ++ ["MTU"]) := by
      simp only [clientSection, List.map_append]
      exact ((List.Sublist.refl _).append (names_settingIf _ _ _)).append (names_settingIf _ _ _)
    exact hnames.nodup (by decide)
  settings _ _ := mem_clientSection

theorem says_remoteSection (p : Peer) (d : Device) (routes : List String) :
    (remoteSection p d routes).body.Says "Peer" (RemoteSets p d routes) where
  title := rfl
  nodup := by
    have hnames : ((remoteSection p d routes).settings.map Prod.fst).Sublist
        (["PublicKey"] ++ ["PresharedKey"] ++ ["Endpoint", "AllowedIPs"]
          ++ ["PersistentKeepalive"]) := by
      simp only [remoteSection, List.map_append]
      exact (((List.Sublist.refl _).append (names_presharedKeySetting _)).append (.refl _)).append
        (names_settingIf _ _ _)
    exact hnames.nodup (by decide)
  settings _ _ := mem_remoteSection

/-! ## Values on one line -/

theorem orderly_clientSection (hp : p.validate = .ok ())
    (hips : ∀ s ∈ p.allowedIps, '\n' ∉ s.toList) : (clientSection p).Orderly := by
  have hplain : ∀ {n v}, ClientSets p n v → isWord n = true ∧ '\n' ∉ v.toList := by
    intro n v hs
    cases hs with
    | privateKey => exact ⟨by decide, newline_notMem_key _⟩
    | address => exact ⟨by decide, newline_notMem_join hips⟩
    | dns => exact ⟨by decide, newline_notMem_dns (Peer.checkDns_eq_nil hp)⟩
    | mtu => exact ⟨by decide, newline_notMem_toString _⟩
  exact {
    title := by simp [clientSection]
    names := fun _ he => (hplain (mem_clientSection.1 he)).1
    values := fun _ he => (hplain (mem_clientSection.1 he)).2 }

theorem orderly_remoteSection (hd : d.validate = .ok ())
    (hroutes : ∀ s ∈ routes, '\n' ∉ s.toList) : (remoteSection p d routes).Orderly := by
  have hendpoint : '\n' ∉ d.endpoint.toList := fun h =>
    absurd (isSolid_of_isEndpoint (Device.isEndpoint_of_validate hd) h) (by decide)
  have hplain : ∀ {n v}, RemoteSets p d routes n v → isWord n = true ∧ '\n' ∉ v.toList := by
    intro n v hs
    cases hs with
    | publicKey => exact ⟨by decide, newline_notMem_key _⟩
    | presharedKey => exact ⟨by decide, newline_notMem_key _⟩
    | endpoint => exact ⟨by decide, hendpoint⟩
    | allowedIps => exact ⟨by decide, newline_notMem_join hroutes⟩
    | keepalive => exact ⟨by decide, newline_notMem_toString _⟩
  exact {
    title := by simp [remoteSection]
    names := fun _ he => (hplain (mem_remoteSection.1 he)).1
    values := fun _ he => (hplain (mem_remoteSection.1 he)).2 }

theorem read?_client (hp : p.validate = .ok ()) (hd : d.validate = .ok ())
    (hips : ∀ s ∈ p.allowedIps, '\n' ∉ s.toList) (hroutes : ∀ s ∈ routes, '\n' ∉ s.toList) :
    read? (client p d routes)
      = some [(clientSection p).body, (remoteSection p d routes).body] := by
  rw [client, clientSections]
  refine read?_text ?_ ?_
  · rw [List.forall_mem_cons, List.forall_mem_singleton]
    exact ⟨orderly_clientSection hp hips, orderly_remoteSection hd hroutes⟩
  · -- There are no remarks in it.
    rw [List.forall_mem_cons, List.forall_mem_singleton]
    exact ⟨List.forall_mem_nil _, List.forall_mem_nil _⟩

/-- The document of a valid peer and a valid device is a section of the peer and a section of the
device, which say what the records say and nothing else. The private key in it is the peer's, and the
name servers are addresses, those of the record in their order. -/
theorem client_read (hp : p.validate = .ok ()) (hd : d.validate = .ok ())
    (hips : ∀ s ∈ p.allowedIps, '\n' ∉ s.toList) (hroutes : ∀ s ∈ routes, '\n' ∉ s.toList) :
    ∃ own remote, read? (client p d routes) = some [own, remote] ∧
      own.Says "Interface" (ClientSets p) ∧ remote.Says "Peer" (RemoteSets p d routes) ∧
      (∀ v, ("PrivateKey", v) ∈ own.settings → Key.parse v = .ok p.privateKey) ∧
      ∀ v, ("DNS", v) ∈ own.settings →
        ∃ addresses, readAddresses? v = some addresses ∧
          readAddresses? p.dns = some addresses := by
  refine ⟨_, _, read?_client hp hd hips hroutes, says_clientSection p,
    says_remoteSection p d routes, fun v hv => ?_, fun v hv => ?_⟩
  · rw [(mem_clientSection.1 hv).eq_privateKey]
    exact Key.parse_text _
  · obtain ⟨hne, rfl⟩ := (mem_clientSection.1 hv).eq_dns
    obtain ⟨addresses, hrecord, hlisted⟩ := readAddresses?_join (Peer.checkDns_eq_nil hp) hne
    exact ⟨addresses, hlisted, hrecord⟩

end Document

/-! ## A document with every setting -/

namespace Sample

open Document

/-- A peer in whose document every setting is there. -/
def equippedPeer : Peer :=
  { peer 1 true ["10.0.0.2/32", "fd00::2/128"] with
    presharedKey := some (key 9)
    dns := " 10.0.0.53,fd00::53 , 9.9.9.9"
    mtu := 1420
    keepalive := .ofSeconds 25 }

theorem client_read_equipped :
    ∃ own remote,
      read? (client equippedPeer device ["0.0.0.0/0", "::/0"]) = some [own, remote] ∧
        own.Says "Interface" (ClientSets equippedPeer) ∧
        remote.Says "Peer" (RemoteSets equippedPeer device ["0.0.0.0/0", "::/0"]) ∧
        (∀ v, ("PrivateKey", v) ∈ own.settings → Key.parse v = .ok equippedPeer.privateKey) ∧
        ∀ v, ("DNS", v) ∈ own.settings →
          ∃ addresses, readAddresses? v = some addresses ∧
            readAddresses? equippedPeer.dns = some addresses :=
  client_read (by decide +kernel) (by decide +kernel)
    (show ∀ s ∈ ["10.0.0.2/32", "fd00::2/128"], _ by decide) (by decide)

end Sample

end TunnelKeeper
