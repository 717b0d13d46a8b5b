import TunnelKeeper.Proofs.Reconcile.Account
import TunnelKeeper.Proofs.Reconcile.Stability
import TunnelKeeper.Proofs.Store.Spelling

/-!
# Keys that several records have

Nothing keeps two stored peers of a device from having one key, and a pass looks at each of them by
itself. It takes a key out of the kernel that a disabled record has, also if an enabled one has it
(`removes_changes_iff`), and where the kernel lacks the key it puts it in for the enabled one. So the next
pass undoes what the last one did, for as long as the stores stay the same. A key of no disabled record
stays in the kernel over any number of passes (`keys_of_passes`).
-/

namespace TunnelKeeper

/-! ## Keys in a batch -/

namespace PeerChange

variable {c : PeerChange} {cs : List PeerChange} {peers : List KernelPeer} {key : Key}

/-- One of the changes takes the key out. -/
def Removes (cs : List PeerChange) (key : Key) : Prop :=
  ∃ c ∈ cs, c.remove = true ∧ c.publicKey = key

/-- One of the changes puts the key in, or changes what is there under it. -/
def Installs (cs : List PeerChange) (key : Key) : Prop :=
  ∃ c ∈ cs, c.remove = false ∧ c.publicKey = key

theorem removes_cons : Removes (c :: cs) key ↔
    c.remove = true ∧ c.publicKey = key ∨ Removes cs key := by
  simp only [Removes, List.exists_mem_cons_iff]

theorem installs_cons : Installs (c :: cs) key ↔
    c.remove = false ∧ c.publicKey = key ∨ Installs cs key := by
  simp only [Installs, List.exists_mem_cons_iff]

theorem mem_keys_apply_self (hr : c.remove = false) (hu : c.updateOnly = false) :
    c.publicKey ∈ (c.apply peers).map KernelPeer.publicKey := by
  induction peers with
  | nil => simp [apply, hr, hu, KernelPeer.new]
  | cons p ps ih =>
    rw [apply]
    by_cases hp : p.publicKey = c.publicKey
    · simp [hp, hr]
    · rw [if_neg hp]
      exact List.mem_cons_of_mem _ ih

theorem notMem_keys_apply_self (hr : c.remove = true) (hn : (peers.map KernelPeer.publicKey).Nodup) :
    c.publicKey ∉ (c.apply peers).map KernelPeer.publicKey := by
  rw [apply_of_remove hr hn, List.mem_map]
  rintro ⟨k, hk, hkey⟩
  simpa [hkey] using (List.mem_filter.1 hk).2

/-- A key that no change takes out is there afterwards, if it was there or one puts it in. -/
theorem mem_keys_applyAll_of_installs (hadds : ∀ c ∈ cs, c.remove = false → c.updateOnly = false)
    (hremoves : ¬ Removes cs key)
    (h : key ∈ peers.map KernelPeer.publicKey ∨ Installs cs key) :
    key ∈ (applyAll cs peers).map KernelPeer.publicKey := by
  induction cs generalizing peers with
  | nil => exact h.resolve_right (by simp [Installs])
  | cons c cs ih =>
    rw [removes_cons, not_or] at hremoves
    refine ih (fun d hd => hadds d (List.mem_cons_of_mem _ hd)) hremoves.2 ?_
    by_cases hc : c.publicKey = key
    · have hr : c.remove = false := Bool.eq_false_iff.2 fun hr => hremoves.1 ⟨hr, hc⟩
      left
      rw [← hc]
      exact mem_keys_apply_self hr (hadds c List.mem_cons_self hr)
    · rw [installs_cons] at h
      rcases h with h | ⟨-, h⟩ | h
      · exact .inl ((mem_keys_apply (Ne.symm hc)).2 h)
      · exact absurd h hc
      · exact .inr h

/-- A key that no change puts in is not there afterwards, if it was not or one takes it out. -/
theorem notMem_keys_applyAll_of_removes (hn : (peers.map KernelPeer.publicKey).Nodup)
    (hinstalls : ¬ Installs cs key) (h : key ∉ peers.map KernelPeer.publicKey ∨ Removes cs key) :
    key ∉ (applyAll cs peers).map KernelPeer.publicKey := by
  induction cs generalizing peers with
  | nil => exact h.resolve_right (by simp [Removes])
  | cons c cs ih =>
    rw [installs_cons, not_or] at hinstalls
    refine ih (nodup_apply c hn) hinstalls.2 ?_
    by_cases hc : c.publicKey = key
    · have hr : c.remove = true := Bool.of_not_eq_false fun hr => hinstalls.1 ⟨hr, hc⟩
      left
      rw [← hc]
      exact notMem_keys_apply_self hr hn
    · rw [removes_cons] at h
      rcases h with h | ⟨-, h⟩ | h
      · exact .inl (mt (mem_keys_apply (Ne.symm hc)).1 h)
      · exact absurd h hc
      · exact .inr h

end PeerChange

open PeerChange (Removes Installs)

/-! ## Keys in a pass -/

namespace Pass.Input

variable {i : Input} {p : Peer} {key : Key}

/-- A sound peer of the listing, enabled or not as said, has the key. -/
def Carried (i : Input) (isEnabled : Bool) (key : Key) : Prop :=
  ∃ p ∈ i.peers, p.Sound ∧ p.isEnabled = isEnabled ∧ p.publicKey = key

/-- A pass takes a key out if the kernel has it and a disabled record has, whatever other records have it. -/
theorem removes_changes_iff : Removes i.changes key ↔
    key ∈ i.snapshot.peers.map KernelPeer.publicKey ∧ i.Carried false key := by
  constructor
  · rintro ⟨c, hc, hr, rfl⟩
    obtain ⟨p, hp, networks, hsound, ⟨-, rfl, -⟩ | ⟨hd, rfl, hin⟩⟩ := spec_change hc
    · cases hr
    · exact ⟨hin, p, hp, sound_iff.2 ⟨networks, hsound⟩, hd, rfl⟩
  · rintro ⟨hin, p, hp, hsound, hd, rfl⟩
    obtain ⟨networks, hcheck⟩ := sound_iff.1 hsound
    obtain ⟨v, hm⟩ := exists_verdict hp
    obtain ⟨-, before, after, hj⟩ := exists_judged hm
    obtain ⟨-, ⟨-, rfl⟩ | ⟨habsent, -⟩⟩ := hj.of_disabled hcheck hd
    · exact ⟨_, mem_changes hm rfl, rfl, rfl⟩
    · exact absurd hin habsent

/-- A pass puts in keys of enabled records that the kernel lacks. -/
theorem of_installs (h : Installs i.changes key) :
    key ∉ i.snapshot.peers.map KernelPeer.publicKey ∧ i.Carried true key := by
  obtain ⟨c, hc, hr, rfl⟩ := h
  obtain ⟨p, hp, networks, hsound, ⟨he, rfl, habsent⟩ | ⟨-, rfl, -⟩⟩ := spec_change hc
  · exact ⟨habsent, p, hp, sound_iff.2 ⟨networks, hsound⟩, he, rfl⟩
  · cases hr

/-- It puts in the key of every such record that does not conflict. -/
theorem installs_or_conflicting (hp : p ∈ i.peers) (hsound : p.Sound) (he : p.isEnabled = true)
    (habsent : p.publicKey ∉ i.snapshot.peers.map KernelPeer.publicKey) :
    Installs i.changes p.publicKey ∨ (p, .conflicting) ∈ i.verdicts := by
  obtain ⟨networks, hcheck⟩ := sound_iff.1 hsound
  obtain ⟨v, hm⟩ := exists_verdict hp
  obtain ⟨-, before, after, hj⟩ := exists_judged hm
  obtain ⟨hin, -⟩ | ⟨-, ⟨-, rfl, -⟩ | ⟨-, rfl, -⟩⟩ := hj.of_enabled hcheck he
  · exact absurd hin habsent
  · exact .inl ⟨_, mem_changes hm rfl, rfl, rfl⟩
  · exact .inr hm

theorem adds_changes : ∀ c ∈ i.changes, c.remove = false → c.updateOnly = false := by
  intro c hc hr
  obtain ⟨p, -, networks, -, ⟨-, rfl, -⟩ | ⟨-, rfl, -⟩⟩ := spec_change hc
  · rfl
  · cases hr

/-- A key of the kernel's that no disabled record has stays there. -/
theorem mem_keys_after (h : key ∈ i.snapshot.peers.map KernelPeer.publicKey)
    (hcarried : ¬ i.Carried false key) : key ∈ i.after.map KernelPeer.publicKey :=
  PeerChange.mem_keys_applyAll_of_installs adds_changes
    (fun hr => hcarried (removes_changes_iff.1 hr).2) (.inl h)

/-- After a pass the kernel has the keys it had, but for those of disabled records, and those that were
put in. -/
theorem mem_keys_after_iff (hn : (i.snapshot.peers.map KernelPeer.publicKey).Nodup) :
    key ∈ i.after.map KernelPeer.publicKey ↔
      (key ∈ i.snapshot.peers.map KernelPeer.publicKey ∧ ¬ i.Carried false key) ∨
        Installs i.changes key := by
  by_cases hinstalls : Installs i.changes key
  · have hremoves : ¬ Removes i.changes key :=
      fun hr => (of_installs hinstalls).1 (removes_changes_iff.1 hr).1
    exact iff_of_true
      (PeerChange.mem_keys_applyAll_of_installs adds_changes hremoves (.inr hinstalls))
      (.inr hinstalls)
  · rw [or_iff_left hinstalls]
    refine ⟨fun hafter => ?_, fun h => mem_keys_after h.1 h.2⟩
    by_contra hgone
    refine PeerChange.notMem_keys_applyAll_of_removes hn hinstalls ?_ hafter
    rw [removes_changes_iff]
    tauto

end Pass.Input

/-! ## Keys in a state file -/

/-- A row of the device, enabled or not as said, reads as a peer without faults that has the key. -/
def FilePeers.Carries (s : FilePeers) (id : Uuid) (isEnabled : Bool) (key : Key) : Prop :=
  ∃ row ∈ s.rows, row.deviceId = id.text ∧
    ∃ p, row.toPeer = .ok p ∧ p.Sound ∧ p.isEnabled = isEnabled ∧ p.publicKey = key

/-- What a pass over the device does about keys: it sends `changes`, by which the kernel comes from the
keys `before` to the keys `after`. -/
structure FilePeers.Switches (s : FilePeers) (id : Uuid) (report : SyncReport)
    (changes : List PeerChange) (before after : List Key) : Prop where
  /-- It takes out the keys of disabled rows. -/
  removes : ∀ key, Removes changes key ↔ key ∈ before ∧ s.Carries id false key
  /-- It puts in keys of enabled rows where they are missing. -/
  installs : ∀ key, Installs changes key → key ∉ before ∧ s.Carries id true key
  /-- A row whose key is missing afterwards as before conflicts. -/
  misses : ∀ row ∈ s.rows, row.deviceId = id.text → ∀ p, row.toPeer = .ok p → p.Sound →
    p.isEnabled = true → p.publicKey ∉ before →
      Installs changes p.publicKey ∨ p.id ∈ report.conflicting
  /-- Nothing else happens to keys. -/
  leaves : before.Nodup → ∀ key, key ∈ after ↔
    (key ∈ before ∧ ¬ s.Carries id false key) ∨ Installs changes key

namespace Reconciler

variable {κ δ : Type} {r : Reconciler κ FilePeers δ} {peersOf : κ → String → List KernelPeer}
  {id : Uuid} {d : Device} {w w' : World κ FilePeers δ} {i : Pass.Input} {device : Device}
  {report : SyncReport} {key : Key}

/-- The listing of a pass has the peers of the rows of the device. -/
theorem Reads.mem_peers_iff (hs : r.peers = FilePeers.store) (hm : FilePeers.Mirrored w.peers)
    (h : r.Reads id w i) {p : Peer} :
    p ∈ i.peers ↔ ∃ row ∈ w.peers.rows, row.deviceId = id.text ∧ row.toPeer = .ok p := by
  obtain ⟨page, hlist, hitems⟩ := h.listed
  rw [hs] at hlist
  obtain ⟨page', hlist', hmem⟩ := PeerRow.select_ofDevice_readable hm.readable id
  obtain rfl : page' = page := Except.ok.inj (hlist'.symm.trans hlist)
  rw [← hitems, hmem]

theorem Reads.carried_iff (hs : r.peers = FilePeers.store) (hm : FilePeers.Mirrored w.peers)
    (h : r.Reads id w i) {isEnabled : Bool} :
    i.Carried isEnabled key ↔ w.peers.Carries id isEnabled key := by
  constructor
  · rintro ⟨p, hp, hsound⟩
    obtain ⟨row, hrow, hdevice, hread⟩ := (h.mem_peers_iff hs hm).1 hp
    exact ⟨row, hrow, hdevice, p, hread, hsound⟩
  · rintro ⟨row, hrow, hdevice, p, hread, hsound⟩
    exact ⟨p, (h.mem_peers_iff hs hm).2 ⟨row, hrow, hdevice, hread⟩, hsound⟩

/-- The keys of an interface. -/
def keysOf (peersOf : κ → String → List KernelPeer) (d : Device) (w : World κ FilePeers δ) : List Key :=
  (peersOf w.kernel d.name).map KernelPeer.publicKey

theorem Completed.switches (hs : r.peers = FilePeers.store) (hm : FilePeers.Mirrored w.peers)
    (hg : r.gateway.Faithful peersOf) (h : r.Completed id w i device report w') :
    w.peers.Switches id report i.changes (keysOf peersOf i.device w) (keysOf peersOf i.device w') := by
  obtain ⟨hlive, hafter, -⟩ := h.effect hg
  have hcarried : ∀ isEnabled key, i.Carried isEnabled key ↔ w.peers.Carries id isEnabled key :=
    fun _ _ => h.toReads.carried_iff hs hm
  unfold keysOf
  rw [hafter, ← hlive]
  constructor
  case removes =>
    intro key
    rw [Pass.Input.removes_changes_iff, hcarried]
  case installs =>
    intro key hinstalls
    rw [← hcarried]
    exact Pass.Input.of_installs hinstalls
  case misses =>
    intro row hrow hdevice p hread hsound he habsent
    have hp := (h.toReads.mem_peers_iff hs hm).2 ⟨row, hrow, hdevice, hread⟩
    refine (Pass.Input.installs_or_conflicting hp hsound he habsent).imp_right fun hc => ?_
    rw [h.report_eq]
    exact Pass.mem_conflicting.2 ⟨p, hc, rfl⟩
  case leaves =>
    intro hn key
    rw [← hcarried]
    exact Pass.Input.mem_keys_after_iff hn

/-! ## Passes one after another -/

theorem stores_afterPasses (r : Reconciler κ FilePeers δ) (id : Uuid) (w : World κ FilePeers δ) (n : Nat) :
    (r.afterPasses id w n).peers = w.peers ∧ (r.afterPasses id w n).devices = w.devices := by
  induction n with
  | zero => exact ⟨rfl, rfl⟩
  | succ n ih =>
    exact ⟨(r.peers_syncDevice id _).trans ih.1, (r.devices_syncDevice id _).trans ih.2⟩

/-- A pass that fails leaves the keys. -/
theorem keys_of_failed {e : ReconcileError} (hg : r.gateway.Faithful peersOf)
    (h : r.syncDevice id w = (.error e, w')) : keysOf peersOf d w' = keysOf peersOf d w := by
  obtain ⟨k, hk, rfl⟩ := syncDevice_error h
  show (peersOf k d.name).map KernelPeer.publicKey = _
  rw [hk.same_peers hg]
  rfl

theorem switches_syncDevice (hs : r.peers = FilePeers.store) (hm : FilePeers.Mirrored w.peers)
    (hg : r.gateway.Faithful peersOf) (hd : r.devices.get w.devices id = .ok d)
    (h : r.syncDevice id w = (.ok report, w')) :
    ∃ changes, Sent r.gateway d.name changes (r.gateway.read d.name w.kernel).2 w'.kernel ∧
      w.peers.Switches id report changes (keysOf peersOf d w) (keysOf peersOf d w') := by
  obtain ⟨i, device, hc⟩ := syncDevice_ok h
  obtain rfl : i.device = d := Except.ok.inj (hc.stored.symm.trans hd)
  exact ⟨i.changes, hc.sent, hc.switches hs hm hg⟩

/-- A key of no disabled row stays over a pass. -/
theorem mem_keys_syncDevice (hs : r.peers = FilePeers.store) (hm : FilePeers.Mirrored w.peers)
    (hg : r.gateway.Faithful peersOf) (hd : r.devices.get w.devices id = .ok d)
    (hkey : key ∈ keysOf peersOf d w) (hcarried : ¬ w.peers.Carries id false key) :
    key ∈ keysOf peersOf d (r.syncDevice id w).2 := by
  rcases hrun : r.syncDevice id w with ⟨e | report, w'⟩
  · rwa [keys_of_failed hg hrun]
  · obtain ⟨i, device, hc⟩ := syncDevice_ok hrun
    obtain rfl : i.device = d := Except.ok.inj (hc.stored.symm.trans hd)
    obtain ⟨hlive, hafter, -⟩ := hc.effect hg
    unfold keysOf at hkey ⊢
    rw [← hlive] at hkey hafter
    rw [hafter]
    exact Pass.Input.mem_keys_after hkey (mt (hc.carried_iff hs hm).1 hcarried)

theorem nodup_keys_syncDevice (hg : r.gateway.Faithful peersOf)
    (hd : r.devices.get w.devices id = .ok d) (hn : (keysOf peersOf d w).Nodup) :
    (keysOf peersOf d (r.syncDevice id w).2).Nodup := by
  rcases hrun : r.syncDevice id w with ⟨e | report, w'⟩
  · rwa [keys_of_failed hg hrun]
  · obtain ⟨i, device, hc⟩ := syncDevice_ok hrun
    obtain rfl : i.device = d := Except.ok.inj (hc.stored.symm.trans hd)
    obtain ⟨-, hafter, -⟩ := hc.effect hg
    unfold keysOf at hn ⊢
    rw [hafter]
    exact PeerChange.nodup_applyAll hn

/-- When passes are run over a device one after another, each that succeeds takes out the keys of disabled
rows that it finds in the kernel, puts in keys of enabled rows that it finds missing, and does nothing else
about keys. So the key of an enabled row stays in the kernel as long as no disabled row has it too. A key
that both have comes and goes from one pass to the next, unless the enabled row conflicts. -/
theorem keys_of_passes {place : FilePlace} (hs : r.peers = FilePeers.store)
    (hopen : FilePeers.openAt place = .ok w.peers) (hg : r.gateway.Faithful peersOf)
    (hd : r.devices.get w.devices id = .ok d) :
    let v := r.afterPasses id w
    let keys n := keysOf peersOf d (v n)
    (∀ n report v', r.syncDevice id (v n) = (.ok report, v') →
      ∃ changes, Sent r.gateway d.name changes (r.gateway.read d.name (v n).kernel).2 v'.kernel ∧
        w.peers.Switches id report changes (keys n) (keys (n + 1))) ∧
    (∀ n e v', r.syncDevice id (v n) = (.error e, v') → keys (n + 1) = keys n) ∧
    (∀ n key, key ∈ keys n → ¬ w.peers.Carries id false key → ∀ m, key ∈ keys (n + m)) ∧
    ((keys 0).Nodup → (∀ n, (keys n).Nodup) ∧
      ∀ row ∈ w.peers.rows, row.deviceId = id.text → ∀ p, row.toPeer = .ok p → p.Sound →
        p.isEnabled = true → w.peers.Carries id false p.publicKey → ∀ n report v',
          r.syncDevice id (v n) = (.ok report, v') → p.id ∉ report.conflicting →
            (p.publicKey ∈ keys (n + 1) ↔ p.publicKey ∉ keys n)) := by
  intro v keys
  have hm := FilePeers.mirrored_openAt hopen
  have hpeers : ∀ n, (v n).peers = w.peers := fun n => (r.stores_afterPasses id w n).1
  have hd' : ∀ n, r.devices.get (v n).devices id = .ok d := fun n => by
    rw [(r.stores_afterPasses id w n).2, hd]
  have hswitches : ∀ n report v', r.syncDevice id (v n) = (.ok report, v') →
      ∃ changes, Sent r.gateway d.name changes (r.gateway.read d.name (v n).kernel).2 v'.kernel ∧
        w.peers.Switches id report changes (keys n) (keys (n + 1)) := by
    intro n report v' hrun
    have hnext : v (n + 1) = v' := congrArg Prod.snd hrun
    obtain ⟨changes, hsent, hsw⟩ :=
      switches_syncDevice hs (by rw [hpeers n]; exact hm) hg (hd' n) hrun
    rw [hpeers n, ← hnext] at hsw
    exact ⟨changes, hsent, hsw⟩
  have hnodup : (keys 0).Nodup → ∀ n, (keys n).Nodup := by
    intro h0 n
    induction n with
    | zero => exact h0
    | succ n ih => exact nodup_keys_syncDevice hg (hd' n) ih
  refine ⟨hswitches, fun n e v' hrun => ?failed, fun n key hkey hfree m => ?stays,
    fun h0 => ⟨hnodup h0, ?alternates⟩⟩
  case failed =>
    have hnext : v (n + 1) = v' := congrArg Prod.snd hrun
    show keysOf peersOf d (v (n + 1)) = _
    rw [hnext, keys_of_failed hg hrun]
  case stays =>
    induction m with
    | zero => exact hkey
    | succ m ih =>
      have hm' : FilePeers.Mirrored (v (n + m)).peers := by rw [hpeers]; exact hm
      exact mem_keys_syncDevice hs hm' hg (hd' _) ih (by rwa [hpeers])
  case alternates =>
    intro row hrow hdevice p hread hsound he hcarried n report v' hrun hconflict
    obtain ⟨changes, -, hsw⟩ := hswitches n report v' hrun
    rw [hsw.leaves (hnodup h0 n)]
    constructor
    · rintro (⟨-, hfree⟩ | hinstalls)
      · exact absurd hcarried hfree
      · exact (hsw.installs _ hinstalls).1
    · intro habsent
      exact .inr ((hsw.misses row hrow hdevice p hread hsound he habsent).resolve_right hconflict)

end Reconciler

/-! ## A key that two records have -/

namespace Sample

open Reconciler

/-- A disabled peer with the key of the peer `1`. -/
def sharer : Peer := { peer 2 false ["10.0.0.3/32"] with publicKey := key 1 }

/-- An enabled peer, and the disabled one that has its key. -/
def sharedFile : FilePeers :=
  let rows := [(peer 1 true ["10.0.0.2/32"]).toRow, sharer.toRow]
  ⟨rows, .ofEntry (.text (StateFile.write rows))⟩

theorem openAt_sharedFile : FilePeers.openAt sharedFile.place = .ok sharedFile := by
  refine (FilePeers.mirrored_write fun r hr => ?_).openAt
  simp only [List.mem_cons, List.not_mem_nil, or_false] at hr
  rcases hr with rfl | rfl
  · exact ⟨_, PeerRow.toPeer_toRow _⟩
  · exact ⟨_, PeerRow.toPeer_toRow _⟩

/-- Peers in a state file, with all else in memory. -/
def overFile : Reconciler MemoryKernel FilePeers MemoryDevices :=
  ⟨MemoryKernel.gateway, FilePeers.store, MemoryDevices.store, .default⟩

/-- The kernel has the enabled peer as it is stored. -/
def sharedWorld : World MemoryKernel FilePeers MemoryDevices :=
  ⟨.ofTable (.ofList [interface [kernelPeer 1 [ip 2]]]), sharedFile, ⟨[device]⟩, ∅⟩

/-- The keys of the kernel after `n` passes. -/
def sharedKeys (n : Nat) : List Key :=
  keysOf MemoryKernel.peersOf device (overFile.afterPasses device.id sharedWorld n)

/-- What the pass after `n` passes reports. -/
def sharedPass (n : Nat) : Except ReconcileError SyncReport :=
  (overFile.syncDevice device.id (overFile.afterPasses device.id sharedWorld n)).1

theorem passes_sharedWorld :
    [0, 1, 2, 3].map sharedKeys = [[key 1], [], [key 1], []] ∧
      sharedPass 0 = .ok ⟨[device.name], [], [], [uuid 2], [], []⟩ ∧
      sharedPass 1 = .ok ⟨[device.name], [], [uuid 1], [], [], []⟩ ∧
      sharedPass 2 = .ok ⟨[device.name], [], [], [uuid 2], [], []⟩ := by
  decide +kernel

theorem carries_sharedFile : sharedFile.Carries device.id false (key 1) := by
  refine ⟨sharer.toRow, .tail _ List.mem_cons_self, rfl, _, PeerRow.toPeer_toRow _, ⟨?_, [ip 3], ?_⟩,
    rfl, rfl⟩
  · decide +kernel
  · decide +kernel

theorem keys_of_passes_shared : key 1 ∈ sharedKeys 0 ∧ key 1 ∉ sharedKeys 1 ∧ key 1 ∈ sharedKeys 2 := by
  have hd : overFile.devices.get sharedWorld.devices device.id = .ok device := rfl
  obtain ⟨-, -, -, hshared⟩ := keys_of_passes rfl openAt_sharedFile MemoryKernel.faithful hd
  have hsound : (peer 1 true ["10.0.0.2/32"]).stored.Sound :=
    ⟨by decide +kernel, [ip 2], by decide +kernel⟩
  have hstart : key 1 ∈ sharedKeys 0 := by decide +kernel
  obtain ⟨-, hfirst, hsecond, -⟩ := passes_sharedWorld
  have hflips := (hshared (by decide +kernel)).2 _ List.mem_cons_self rfl _ (PeerRow.toPeer_toRow _) hsound
    rfl carries_sharedFile
  have hgone : key 1 ∉ sharedKeys 1 := fun hthere =>
    (hflips 0 _ _ (Attempt.run_eq hfirst) List.not_mem_nil).1 hthere hstart
  exact ⟨hstart, hgone, (hflips 1 _ _ (Attempt.run_eq hsecond) List.not_mem_nil).2 hgone⟩

/-- The enabled peer is in the kernel as it is stored; its key is pulled, pushed and pulled again. -/
theorem shared_key_alternates :
    FilePeers.openAt sharedFile.place = .ok sharedFile ∧ (sharedFile.rows.map PeerRow.id).Nodup ∧
      (peer 1 true ["10.0.0.2/32"]).validate = .ok () ∧
      [0, 1, 2, 3].map sharedKeys = [[key 1], [], [key 1], []] ∧
      sharedPass 0 = .ok ⟨[device.name], [], [], [uuid 2], [], []⟩ ∧
      sharedPass 1 = .ok ⟨[device.name], [], [uuid 1], [], [], []⟩ ∧
      sharedPass 2 = .ok ⟨[device.name], [], [], [uuid 2], [], []⟩ :=
  ⟨openAt_sharedFile, by decide +kernel, by decide +kernel, passes_sharedWorld⟩

end Sample

end TunnelKeeper
