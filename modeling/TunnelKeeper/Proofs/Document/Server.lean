import TunnelKeeper.Proofs.Document.Settings
import TunnelKeeper.Proofs.InMemory

/-!
# What the document of a device says

`DeviceSets` and `PeerSets` are what the records say is to be set, and the sections of the document
say just that, each value on one line. What is left are the names of the peers, which go into
remarks as they are: the document reads as the records say if and only if no name of an enabled peer
goes on, after a line break, with a line that speaks (`server_read_iff`). A name that passes the
checks of a peer can do so, and then sets what the device does not (`postUp_from_name`).
-/

namespace TunnelKeeper

open Text

namespace Document

/-! ## What is to be set -/

/-- What a device sets in its own document. -/
inductive DeviceSets (d : Device) : String → String → Prop
  | privateKey : DeviceSets d "PrivateKey" d.privateKey.text
  | address : DeviceSets d "Address" d.address
  | listenPort : DeviceSets d "ListenPort" (toString d.listenPort)
  | mtu (h : d.mtu ≠ 0) : DeviceSets d "MTU" (toString d.mtu)
  | dns (h : Validation.dnsEntries d.dns ≠ []) :
      DeviceSets d "DNS" (join ", " (Validation.dnsEntries d.dns))
  | firewallMark (h : d.firewallMark ≠ 0) : DeviceSets d "FwMark" (toString d.firewallMark)
  | table (h : d.table ≠ "") : DeviceSets d "Table" d.table
  | keepalive (h : d.keepalive.seconds ≠ 0) :
      DeviceSets d "PersistentKeepalive" (toString d.keepalive.seconds)
  | preUp (h : d.preUp ≠ "") : DeviceSets d "PreUp" d.preUp
  | postUp (h : d.postUp ≠ "") : DeviceSets d "PostUp" d.postUp
  | preDown (h : d.preDown ≠ "") : DeviceSets d "PreDown" d.preDown
  | postDown (h : d.postDown ≠ "") : DeviceSets d "PostDown" d.postDown

/-- What a peer sets in the document of its device. -/
inductive PeerSets (p : Peer) : String → String → Prop
  | publicKey : PeerSets p "PublicKey" p.publicKey.text
  | presharedKey {k : Key} (h : p.presharedKey = some k) : PeerSets p "PresharedKey" k.text
  | allowedIps : PeerSets p "AllowedIPs" (join ", " p.allowedIps)

/-- A section says what the device sets, and one for each enabled peer, in order, what that sets. -/
def SaysRecords (d : Device) (peers : List Peer) (rs : List ReadSection) : Prop :=
  ∃ r rest, rs = r :: rest ∧ r.Says "Interface" (DeviceSets d) ∧
    List.Forall₂ (fun r p => r.Says "Peer" (PeerSets p)) rest (peers.filter Peer.isEnabled)

/-! ## What the sections say -/

variable {d : Device} {p : Peer} {peers : List Peer} {n v : String}

theorem mem_deviceSection : (n, v) ∈ (deviceSection d).settings ↔ DeviceSets d n v := by
  have hmtu : d.mtu.toNat ≠ 0 ↔ d.mtu ≠ 0 := not_congr (UInt32.toNat_inj (b := 0))
  have hmark : d.firewallMark.toNat ≠ 0 ↔ d.firewallMark ≠ 0 :=
    not_congr (UInt32.toNat_inj (b := 0))
  have hkeepalive : d.keepalive.seconds.toNat ≠ 0 ↔ d.keepalive.seconds ≠ 0 :=
    not_congr (UInt64.toNat_inj (b := 0))
  simp only [deviceSection, List.mem_append, List.mem_cons, List.not_mem_nil, or_false, or_assoc,
    mem_settingUnlessZero, mem_settingUnlessEmpty, mem_dnsSetting, Prod.mk.injEq, hmtu, hmark,
    hkeepalive]
  constructor
  · rintro (⟨rfl, rfl⟩ | ⟨rfl, rfl⟩ | ⟨rfl, rfl⟩ | ⟨h, rfl, rfl⟩ | ⟨h, rfl, rfl⟩ | ⟨h, rfl, rfl⟩ |
      ⟨h, rfl, rfl⟩ | ⟨h, rfl, rfl⟩ | ⟨h, rfl, rfl⟩ | ⟨h, rfl, rfl⟩ | ⟨h, rfl, rfl⟩ | ⟨h, rfl, rfl⟩)
    · exact .privateKey
    · exact .address
    · exact .listenPort
    · exact .mtu h
    · exact .dns h
    · exact .firewallMark h
    · exact .table h
    · exact .keepalive h
    · exact .preUp h
    · exact .postUp h
    · exact .preDown h
    · exact .postDown h
  · intro h
    cases h with
    | privateKey => simp
    | address => simp
    | listenPort => simp
    | mtu h =>
      simp [h]
      rfl
    | dns h => simp [h]
    | firewallMark h =>
      simp [h]
      rfl
    | table h => simp [h]
    | keepalive h =>
      simp [h]
      rfl
    | preUp h => simp [h]
    | postUp h => simp [h]
    | preDown h => simp [h]
    | postDown h => simp [h]

theorem mem_peerSection : (n, v) ∈ (peerSection p).settings ↔ PeerSets p n v := by
  simp only [peerSection, List.mem_append, List.mem_cons, List.not_mem_nil, or_false,
    mem_presharedKeySetting, Prod.mk.injEq]
  constructor
  · rintro ((⟨rfl, rfl⟩ | ⟨k, h, rfl, rfl⟩) | ⟨rfl, rfl⟩)
    · exact .publicKey
    · exact .presharedKey h
    · exact .allowedIps
  · intro h
    cases h with
    | publicKey => simp
    | presharedKey h => simp [h]
    | allowedIps => simp

theorem says_deviceSection (d : Device) :
    (deviceSection d).body.Says "Interface" (DeviceSets d) where
  title := rfl
  nodup := by
    have hnames : ((deviceSection d).settings.map Prod.fst).Sublist
        (["PrivateKey", "Address", "ListenPort"] ++ ["MTU"] ++ ["DNS"] ++ ["FwMark"] ++ ["Table"]
          ++ ["PersistentKeepalive"] ++ ["PreUp"] ++ ["PostUp"] ++ ["PreDown"]
          ++ ["PostDown"]) := by
      simp only [deviceSection, List.map_append]
      repeat' apply List.Sublist.append
      · exact .refl _
      all_goals exact names_settingIf _ _ _
    exact hnames.nodup (by decide)
  settings _ _ := mem_deviceSection

theorem says_peerSection (p : Peer) : (peerSection p).body.Says "Peer" (PeerSets p) where
  title := rfl
  nodup := by
    have hnames : ((peerSection p).settings.map Prod.fst).Sublist
        (["PublicKey"] ++ ["PresharedKey"] ++ ["AllowedIPs"]) := by
      simp only [peerSection, List.map_append]
      exact ((List.Sublist.refl _).append (names_presharedKeySetting _)).append (.refl _)
    exact hnames.nodup (by decide)
  settings _ _ := mem_peerSection

theorem saysRecords_bodies (d : Device) (peers : List Peer) :
    SaysRecords d peers ((serverSections d peers).map DocumentSection.body) := by
  refine ⟨_, _, rfl, says_deviceSection d, ?_⟩
  rw [List.map_map, List.forall₂_map_left_iff, List.forall₂_same]
  exact fun p _ => says_peerSection p

/-- All that say what the records say take as many lines. -/
theorem SaysRecords.lineCount {rs : List ReadSection} (h : SaysRecords d peers rs) :
    ReadSection.lineCount rs
      = ReadSection.lineCount ((serverSections d peers).map DocumentSection.body) := by
  obtain ⟨r, rest, rfl, hdevice, hpeers⟩ := h
  have hrest : ReadSection.lineCount rest = ReadSection.lineCount
      (((peers.filter Peer.isEnabled).map peerSection).map DocumentSection.body) := by
    generalize peers.filter Peer.isEnabled = ps at hpeers
    induction hpeers with
    | nil => rfl
    | @cons r p _ _ hp _ ih =>
      rw [List.map_cons, List.map_cons, ReadSection.lineCount_cons, ReadSection.lineCount_cons, ih,
        hp.length_eq (says_peerSection p)]
  rw [serverSections, List.map_cons, ReadSection.lineCount_cons, ReadSection.lineCount_cons, hrest,
    hdevice.length_eq (says_deviceSection d)]

/-! ## Values on one line -/

/-- The texts that go into the document as they are have no line breaks. -/
structure Unbroken (d : Device) (peers : List Peer) : Prop where
  address : '\n' ∉ d.address.toList
  table : '\n' ∉ d.table.toList
  preUp : '\n' ∉ d.preUp.toList
  postUp : '\n' ∉ d.postUp.toList
  preDown : '\n' ∉ d.preDown.toList
  postDown : '\n' ∉ d.postDown.toList
  allowedIps : ∀ p ∈ peers, ∀ s ∈ p.allowedIps, '\n' ∉ s.toList

theorem checkDns_of_validate (h : d.validate = .ok ()) : Validation.checkDns d.dns = [] := by
  have := Validation.result_eq_ok_iff.1 h
  simp only [Device.violations, List.append_eq_nil_iff] at this
  exact this.1.2

theorem DeviceSets.plain (hd : d.validate = .ok ()) (h : Unbroken d peers)
    (hs : DeviceSets d n v) : isWord n = true ∧ '\n' ∉ v.toList := by
  cases hs with
  | privateKey => exact ⟨by decide, newline_notMem_key _⟩
  | address => exact ⟨by decide, h.address⟩
  | listenPort => exact ⟨by decide, newline_notMem_toString _⟩
  | mtu => exact ⟨by decide, newline_notMem_toString _⟩
  | dns => exact ⟨by decide, newline_notMem_dns (checkDns_of_validate hd)⟩
  | firewallMark => exact ⟨by decide, newline_notMem_toString _⟩
  | table => exact ⟨by decide, h.table⟩
  | keepalive => exact ⟨by decide, newline_notMem_toString _⟩
  | preUp => exact ⟨by decide, h.preUp⟩
  | postUp => exact ⟨by decide, h.postUp⟩
  | preDown => exact ⟨by decide, h.preDown⟩
  | postDown => exact ⟨by decide, h.postDown⟩

theorem PeerSets.plain (h : ∀ s ∈ p.allowedIps, '\n' ∉ s.toList) (hs : PeerSets p n v) :
    isWord n = true ∧ '\n' ∉ v.toList := by
  cases hs with
  | publicKey => exact ⟨by decide, newline_notMem_key _⟩
  | presharedKey => exact ⟨by decide, newline_notMem_key _⟩
  | allowedIps => exact ⟨by decide, newline_notMem_join h⟩

theorem orderly_deviceSection (hd : d.validate = .ok ()) (h : Unbroken d peers) :
    (deviceSection d).Orderly where
  title := by simp [deviceSection]
  names _ he := ((mem_deviceSection.1 he).plain hd h).1
  values _ he := ((mem_deviceSection.1 he).plain hd h).2

theorem orderly_peerSection (h : ∀ s ∈ p.allowedIps, '\n' ∉ s.toList) :
    (peerSection p).Orderly where
  title := by simp [peerSection]
  names _ he := ((mem_peerSection.1 he).plain h).1
  values _ he := ((mem_peerSection.1 he).plain h).2

theorem orderly_serverSections (hd : d.validate = .ok ()) (h : Unbroken d peers) :
    ∀ s ∈ serverSections d peers, s.Orderly := by
  rw [serverSections, List.forall_mem_cons, List.forall_mem_map]
  exact ⟨orderly_deviceSection hd h,
    fun p hp => orderly_peerSection (h.allowedIps p (List.mem_of_mem_filter hp))⟩

/-- The remarks of the document are the names of the enabled peers. -/
theorem silent_serverSections_iff :
    (∀ s ∈ serverSections d peers, ∀ l ∈ s.remainder, isSilent l = true) ↔
      ∀ p ∈ peers, p.isEnabled = true → ∀ l ∈ (linesOf p.name.toList).tail, isSilent l = true := by
  have hdevice : (deviceSection d).remainder = [] := rfl
  have hpeer : ∀ p : Peer, (peerSection p).remainder = (linesOf p.name.toList).tail := fun p =>
    List.append_nil _
  simp only [serverSections, List.forall_mem_cons, List.forall_mem_map, List.mem_filter, hdevice,
    hpeer, and_imp]
  exact and_iff_right (List.forall_mem_nil _)

/-- The document of a valid device reads as the records say if and only if no line of a name of an
enabled peer, after the first, says anything. -/
theorem server_read_iff (hd : d.validate = .ok ()) (h : Unbroken d peers) :
    (∃ rs, read? (server d peers) = some rs ∧ SaysRecords d peers rs) ↔
      ∀ p ∈ peers, p.isEnabled = true → ∀ l ∈ (linesOf p.name.toList).tail, isSilent l = true := by
  have horderly := orderly_serverSections hd h
  rw [← silent_serverSections_iff (d := d)]
  constructor
  · -- What the records say fills all the lines that the document has beside its remarks.
    rintro ⟨rs, hread, hsays⟩
    exact silent_of_read? horderly hread hsays.lineCount
  · intro hs
    exact ⟨_, read?_text horderly hs, saysRecords_bodies d peers⟩

end Document

/-! ## Names of two lines -/

namespace Sample

open Document

/-- An enabled peer of this name. -/
def namedPeer (name : String) : Peer := { peer 1 true ["10.0.0.2/32"] with name }

theorem unbroken_namedPeer (name : String) : Unbroken device [namedPeer name] where
  address := by decide
  table := by decide
  preUp := by decide
  postUp := by decide
  preDown := by decide
  postDown := by decide
  allowedIps := List.forall_mem_singleton.2 (by show ∀ s ∈ ["10.0.0.2/32"], _; decide)

/-- A name that goes on with a remark does no harm. -/
theorem server_read_iff_remark :
    ∃ rs, read? (server device [namedPeer "a\n# b"]) = some rs ∧
      SaysRecords device [namedPeer "a\n# b"] rs := by
  have hvalid : device.validate = .ok () := by decide +kernel
  refine (server_read_iff hvalid (unbroken_namedPeer _)).2 ?_
  show ∀ p ∈ [namedPeer "a\n# b"], _
  decide

/-- The document of a device without hooks has one, out of the name of a valid peer. -/
theorem postUp_from_name :
    device.validate = .ok () ∧ (namedPeer "a\nPostUp = reboot").validate = .ok () ∧
      Unbroken device [namedPeer "a\nPostUp = reboot"] ∧
      (∃ r rest, read? (server device [namedPeer "a\nPostUp = reboot"]) = some (r :: rest) ∧
        ("PostUp", "reboot") ∈ r.settings) ∧
      ¬ ∃ rs, read? (server device [namedPeer "a\nPostUp = reboot"]) = some rs ∧
        SaysRecords device [namedPeer "a\nPostUp = reboot"] rs := by
  have hread : read? (server device [namedPeer "a\nPostUp = reboot"]) = some
      [⟨"Interface", (deviceSection device).settings ++ [("PostUp", "reboot")]⟩,
        (peerSection (namedPeer "a\nPostUp = reboot")).body] := by
    rw [read?, server, text, linesOf_ended]
    decide +kernel
  refine ⟨by decide +kernel, by decide +kernel, unbroken_namedPeer _, ⟨_, _, hread, by simp⟩, ?_⟩
  rintro ⟨rs, hrs, r, rest, rfl, hdevice, -⟩
  rw [hread] at hrs
  obtain ⟨rfl, -⟩ := List.cons.inj (Option.some.inj hrs)
  have hset := (hdevice.settings "PostUp" "reboot").1 (by simp)
  exact absurd (mem_deviceSection.2 hset) (by decide +kernel)

end Sample

end TunnelKeeper
