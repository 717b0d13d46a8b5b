import TunnelKeeper.Proofs.Kernel.Steady
import TunnelKeeper.Proofs.Service.Walk

/-!
# Listing and looking up

A listing reads the devices of the enabled peers on the page one after the other, and tells of each
peer what was read of its device. Where the kernel stands still meanwhile, and the devices are
registered, this is what a lookup of the peer alone tells (`listing_agrees`).
-/

namespace TunnelKeeper

theorem nodup_eraseDups {α : Type} [BEq α] [LawfulBEq α] (l : List α) : l.eraseDups.Nodup := by
  -- What is left after the first item is shorter, but not the tail.
  induction hn : l.length using Nat.strongRecOn generalizing l with
  | ind n ih =>
    cases l with
    | nil => exact List.nodup_nil
    | cons a l =>
      have hshorter : (l.filter fun b => !b == a).length < n :=
        hn ▸ Nat.lt_succ_of_le (List.length_filter_le _ _)
      rw [List.eraseDups_cons, List.nodup_cons, List.mem_eraseDups, List.mem_filter]
      exact ⟨by simp, ih _ hshorter _ rfl⟩

namespace PeerService

variable {κ σ δ : Type} {s : PeerService κ σ δ} {ps : List Peer} {q : PeerQuery}
  {w : World κ σ δ} {reads : κ → List String} {now : Timestamp} {p : Peer} {id : Uuid}
  {m : ManagedDevice}

/-! ## Registered devices -/

theorem look_registered (h : w.registry[id]? = some m) :
    s.look id w = ((s.reconciler.gateway.read m.device.name w.kernel).1.toOption,
      { w with kernel := (s.reconciler.gateway.read m.device.name w.kernel).2 }) := by
  rw [look, device_registered h]

/-- Registered devices are looked at as each would be alone, and each of them is read once. -/
theorem looks_registered (hg : s.reconciler.gateway.Steady reads) {ids : List Uuid}
    (h : ∀ id ∈ ids, ∃ m, w.registry[id]? = some m) :
    ∃ ms snapshots, List.Forall₂ (fun id m => w.registry[id]? = some m) ids ms ∧
      s.looks ids w = (snapshots,
        { w with kernel :=
          s.reconciler.gateway.readAll (ms.map fun m => m.device.name) w.kernel }) ∧
      ∀ id ∈ ids, snapshots.lookup id = some (s.look id w).1 := by
  induction ids generalizing w with
  | nil => exact ⟨[], [], .nil, rfl, List.forall_mem_nil _⟩
  | cons id ids ih =>
    rw [List.forall_mem_cons] at h
    obtain ⟨⟨m, hm⟩, hrest⟩ := h
    have hlook := look_registered (s := s) hm
    have hregistry : (s.look id w).2.registry = w.registry := by rw [hlook]
    obtain ⟨ms, snapshots, hms, hlooks, hlooked⟩ := ih (w := (s.look id w).2) (hregistry ▸ hrest)
    refine ⟨m :: ms, (id, (s.look id w).1) :: snapshots, .cons hm (hregistry ▸ hms), ?_, ?_⟩
    · rw [looks, hlooks, hlook]
      rfl
    · intro i hi
      by_cases hid : i = id
      · rw [hid, List.lookup_cons_self]
      · -- The other devices are looked at later, and the kernel has stood still.
        have hmem := (List.mem_cons.1 hi).resolve_left hid
        obtain ⟨m', hm'⟩ := hrest i hmem
        have hlater : (s.look i (s.look id w).2).1 = (s.look i w).1 := by
          rw [look_registered (hregistry ▸ hm'), look_registered hm', hlook]
          exact congrArg Except.toOption (hg.still _ _ _)
        rw [List.lookup_cons, beq_eq_false_iff_ne.2 hid, ← hlater]
        exact hlooked i hmem

/-! ## A peer alone -/

theorem get_apply (hshows : s.reconciler.peers.Shows w.peers ps) (hp : p ∈ ps)
    (hm : w.registry[p.deviceId]? = some m) :
    (s.get now p.id w).1 = .ok
      (if p.isEnabled then overlaid now (s.look p.deviceId w).1 p.stored else p.stored) := by
  have hget : s.reconciler.peers.get w.peers p.id = .ok p.stored := by
    simp only [hshows.get, Peer.listStore, Keyed.find?_of_mem hshows.nodup hp]
  rw [get, Attempt.bind_of_ok (storedPeer_apply hget), Peer.isEnabled_stored]
  by_cases he : p.isEnabled = true
  · have hdevice : s.device p.stored.deviceId w = (.ok m, w) := device_registered hm
    rw [if_pos he, if_pos he, Attempt.bind_of_ok hdevice, overlay_apply, look_registered hm]
  · rw [if_neg he, if_neg he, Attempt.pure_apply]

/-! ## A page of peers -/

theorem mem_devicesOf {peers : List Peer} :
    id ∈ devicesOf peers ↔ ∃ p ∈ peers, p.isEnabled = true ∧ p.deviceId = id := by
  simp only [devicesOf, List.mem_eraseDups, List.mem_map, List.mem_filter, and_assoc]

theorem devicesOf_listed (snapshots : List (Uuid × Option Snapshot)) (peers : List Peer) :
    devicesOf (peers.map (listed now snapshots)) = devicesOf peers := by
  have henabled : Peer.isEnabled ∘ listed now snapshots = Peer.isEnabled := funext fun p => by
    obtain ⟨status, h⟩ := exists_listed now snapshots p
    rw [Function.comp_apply, h]
  have hdevice : Peer.deviceId ∘ listed now snapshots = Peer.deviceId := funext fun p => by
    obtain ⟨status, h⟩ := exists_listed now snapshots p
    rw [Function.comp_apply, h]
  rw [devicesOf, devicesOf, List.filter_map, List.map_map, henabled, hdevice]

theorem mem_storedPage (h : p ∈ (storedPage q ps).items) : ∃ r ∈ ps, p = r.stored := by
  have hmem := (q.arrange_perm ps).mem_iff.1 (Page.mem_of_mem_items h)
  obtain ⟨r, hr, rfl⟩ := List.mem_map.1 hmem
  exact ⟨r, List.mem_of_mem_filter hr, rfl⟩

/-- A lookup tells of a peer what a listing does that has looked at its device. -/
theorem get_listed (hshows : s.reconciler.peers.Shows w.peers ps) (hp : p ∈ ps)
    (hm : w.registry[p.deviceId]? = some m) {snapshots : List (Uuid × Option Snapshot)}
    (hlooked : p.isEnabled = true →
      snapshots.lookup p.deviceId = some (s.look p.deviceId w).1) :
    (s.get now p.id w).1 = .ok (listed now snapshots p.stored) := by
  rw [get_apply hshows hp hm, listed, Peer.isEnabled_stored, Peer.deviceId_stored]
  by_cases he : p.isEnabled = true
  · rw [if_pos he, if_pos he, hlooked he]
    rfl
  · rw [if_neg he, if_neg he]

/-- Nothing is reported of a disabled peer. -/
theorem status_listed {snapshots : List (Uuid × Option Snapshot)}
    (h : (listed now snapshots p.stored).isEnabled = false) :
    (listed now snapshots p.stored).status = .unknown := by
  obtain ⟨status, hlisted⟩ := exists_listed now snapshots p.stored
  have hdisabled : p.isEnabled = false := by rwa [hlisted] at h
  rw [listed, Peer.isEnabled_stored, if_neg (by simp [hdisabled])]
  rfl

/-- Where the devices of all stored peers are registered, every peer on a page is told as a lookup of
it alone would at that instant, and of a disabled peer nothing is reported. The listing does nothing but
read the devices that have an enabled peer on the page, each of them once. -/
theorem listing_agrees (hg : s.reconciler.gateway.Steady reads)
    (hshows : s.reconciler.peers.Shows w.peers ps)
    (hreg : ∀ p ∈ ps, ∃ m, w.registry[p.deviceId]? = some m) (hlimit : q.limit ≤ maxPageLimit)
    (now : Timestamp) :
    ∃ page k ids ms, s.list now q w = (.ok page, { w with kernel := k }) ∧
      page.map Peer.configured = .ofList (q.arrange ps) q.skip (pageSize q.limit) ∧
      (∀ p ∈ page.items, (s.get now p.id w).1 = .ok p ∧
        (p.isEnabled = false → p.status = .unknown)) ∧
      (∀ id, id ∈ ids ↔ ∃ p ∈ page.items, p.isEnabled = true ∧ p.deviceId = id) ∧ ids.Nodup ∧
      List.Forall₂ (fun id m => w.registry[id]? = some m) ids ms ∧
      reads k = reads w.kernel ++ ms.map fun m => m.device.name := by
  have hids : ∀ id ∈ devicesOf (storedPage q ps).items, ∃ m, w.registry[id]? = some m := by
    intro id hid
    obtain ⟨p, hp, -, rfl⟩ := mem_devicesOf.1 hid
    obtain ⟨r, hr, rfl⟩ := mem_storedPage hp
    exact hreg r hr
  obtain ⟨ms, snapshots, hms, hlooks, hlooked⟩ := looks_registered hg hids
  refine ⟨(storedPage q ps).map (listed now snapshots), _, devicesOf (storedPage q ps).items, ms, ?_,
    configured_storedPage now snapshots, ?_, fun id => ?_, nodup_eraseDups _, hms,
    hg.reads_readAll _ _⟩
  · rw [list_eq hshows hlimit, hlooks]
  · intro p hp
    obtain ⟨p, hpage, rfl⟩ := List.mem_map.1 hp
    obtain ⟨r, hr, rfl⟩ := mem_storedPage hpage
    obtain ⟨m, hm⟩ := hreg r hr
    have hid : (listed now snapshots r.stored).id = r.id := by
      obtain ⟨status, h⟩ := exists_listed now snapshots r.stored
      rw [h]
      rfl
    rw [hid]
    exact ⟨get_listed hshows hr hm fun he => hlooked _ (mem_devicesOf.2 ⟨_, hpage, he, rfl⟩),
      status_listed⟩
  · rw [← mem_devicesOf, Page.map, devicesOf_listed]

end PeerService

/-! ## Two devices, one of which cannot be read -/

namespace Sample

open PeerService

/-- A service with its peers in a state file. -/
def fileService : PeerService MemoryKernel FilePeers MemoryDevices :=
  ⟨⟨MemoryKernel.gateway, FilePeers.store, MemoryDevices.store, .default⟩, .default⟩

def secondDevice : Device := { device with id := uuid 8, name := "wg1" }

/-- Enabled peers of both devices, and a disabled one. -/
def twoDevicePeers : List Peer :=
  [peer 1 true ["10.0.0.2/32"], { peer 2 true [] with deviceId := secondDevice.id },
    peer 3 false ["10.0.0.3/32"], peer 4 true ["10.0.0.4/32"]]

/-- The kernel has the first peer and the disabled one, and does not let the second device be read. -/
def unreadableWorld : World MemoryKernel FilePeers MemoryDevices where
  kernel :=
    { MemoryKernel.ofTable (.ofList [interface [kernelPeer 1 [ip 2], kernelPeer 3 [ip 3]],
        { interface [kernelPeer 2 []] with name := secondDevice.name }]) with
      faults := [⟨.read, some secondDevice.name, fun _ => .io "refused"⟩] }
  peers := ⟨twoDevicePeers.map Peer.toRow, .ofEntry .absent⟩
  devices := ⟨[device, secondDevice]⟩
  registry :=
    ((∅ : Registry).insert device.id ⟨device, none⟩).insert secondDevice.id ⟨secondDevice, none⟩

theorem listing_agrees_mixed :
    ∃ page k ids ms,
      fileService.list ⟨0, 0⟩ .all unreadableWorld = (.ok page, { unreadableWorld with kernel := k }) ∧
        page.map Peer.configured
          = .ofList (PeerQuery.all.arrange twoDevicePeers) PeerQuery.all.skip (pageSize 0) ∧
        (∀ p ∈ page.items, (fileService.get ⟨0, 0⟩ p.id unreadableWorld).1 = .ok p ∧
          (p.isEnabled = false → p.status = .unknown)) ∧
        (∀ id, id ∈ ids ↔ ∃ p ∈ page.items, p.isEnabled = true ∧ p.deviceId = id) ∧ ids.Nodup ∧
        List.Forall₂ (fun id m => unreadableWorld.registry[id]? = some m) ids ms ∧
        k.reads = unreadableWorld.kernel.reads ++ ms.map fun m => m.device.name := by
  have hholds : FilePeers.Holds unreadableWorld.peers twoDevicePeers := ⟨rfl, by decide +kernel⟩
  have hregistered : ∀ p ∈ twoDevicePeers, (unreadableWorld.registry[p.deviceId]?).isSome = true := by
    decide +kernel
  exact listing_agrees (s := fileService) MemoryKernel.steady hholds.shows
    (fun p hp => Option.isSome_iff_exists.1 (hregistered p hp)) (by decide) ⟨0, 0⟩

end Sample

end TunnelKeeper
