import Mathlib.Logic.Relation
import TunnelKeeper.Proofs.InMemory
import TunnelKeeper.Proofs.Service.Devices
import TunnelKeeper.Proofs.Service.Peers

/-!
# Runs of the services

A run is a sequence of operations of the two services, passes and lookups (`Operation`). Between them
the kernel and the stores may come to answer otherwise, as long as they hold what they held
(`Step.meanwhile`), and the stored devices may become any others. All that is asked of a run is that a
peer is added with a key that nobody has by then (`Unused`).

Each operation keeps the invariant, whichever of its calls fail (`kept_perform`). So from an empty
store of peers each run keeps it (`kept_of_run`), and no two stored peers of one device ever declare
one address (`addresses_apart`).
-/

namespace TunnelKeeper

/-- What the services are asked to do. -/
inductive Operation
  | addPeer (now : Timestamp) (draw : PeerDraw) (req : AddPeer)
  | updatePeer (now : Timestamp) (fresh : Key) (id : Uuid) (req : UpdatePeer)
  | removePeer (id : Uuid)
  | enablePeer (id : Uuid)
  | disablePeer (id : Uuid)
  | sync (id : Uuid)
  | syncAll
  | lookup (id : Uuid)
  | addDevice (d : Device)
  | updateDevice (id : Uuid) (req : UpdateDevice)
  | removeDevice (id : Uuid)

namespace PeerService

open Attempt (Preserves)

variable {κ σ δ : Type} {s : PeerService κ σ δ} {peersOf : κ → String → List KernelPeer}
  {Holds : σ → List Peer → Prop} {ps : List Peer} {w w' w₀ : World κ σ δ}

/-- The world after an operation, whatever came of it. The services share one reconciler. -/
def perform (s : PeerService κ σ δ) (w : World κ σ δ) : Operation → World κ σ δ
  | .addPeer now draw req => (s.add now draw req w).2
  | .updatePeer now fresh id req => (s.update now fresh id req w).2
  | .removePeer id => (s.remove id w).2
  | .enablePeer id => (s.enable id w).2
  | .disablePeer id => (s.disable id w).2
  | .sync id => (s.reconciler.syncDevice id w).2
  | .syncAll => (s.reconciler.syncDevices w).2
  | .lookup id => (s.reconciler.device id w).2
  | .addDevice d => (DeviceService.add ⟨s.reconciler⟩ d w).2
  | .updateDevice id req => (DeviceService.update ⟨s.reconciler⟩ id req w).2
  | .removeDevice id => (DeviceService.remove ⟨s.reconciler⟩ id w).2

/-- No stored peer and no peer of the kernel's has the key. -/
structure Unused (peersOf : κ → String → List KernelPeer) (Holds : σ → List Peer → Prop) (key : Key)
    (w : World κ σ δ) : Prop where
  stored : ∀ ps, Holds w.peers ps → ∀ p ∈ ps, p.publicKey ≠ key
  kernel : ∀ name, ∀ k ∈ peersOf w.kernel name, k.publicKey ≠ key

/-- A new peer comes with a key that is unused. -/
def Suitable (peersOf : κ → String → List KernelPeer) (Holds : σ → List Peer → Prop)
    (w : World κ σ δ) : Operation → Prop
  | .addPeer _ draw _ => Unused peersOf Holds draw.privateKey.publicKey w
  | _ => True

/-- One step of a run. -/
inductive Step (s : PeerService κ σ δ) (peersOf : κ → String → List KernelPeer)
    (Holds : σ → List Peer → Prop) : World κ σ δ → World κ σ δ → Prop
  | perform {w : World κ σ δ} (op : Operation) (h : Suitable peersOf Holds w op) :
      Step s peersOf Holds w (s.perform w op)
  | meanwhile {w : World κ σ δ} (k : κ) (p : σ) (d : δ) (hk : peersOf k = peersOf w.kernel)
      (hp : ∀ ps, Holds w.peers ps → Holds p ps) : Step s peersOf Holds w ⟨k, p, d, w.registry⟩

/-- What the store of peers is told to refuse may change between the operations. -/
theorem Step.reordered {s : PeerService κ (Refusing σ) δ} {w : World κ (Refusing σ) δ}
    (operation : StoreOperation) (reason : Option String) :
    s.Step peersOf (fun t => Holds t.inner) w
      { w with peers := w.peers.setRefused operation reason } :=
  .meanwhile _ _ _ rfl fun _ h => h

/-! ## The invariant along a run -/

theorem Kept.lift {α ε : Type} {x : Attempt ε (World κ σ δ) α}
    (h : ∀ ps, Preserves (World.Orderly peersOf Holds ps []) x) :
    Preserves (Kept peersOf Holds) x := by
  rintro w ⟨ps, hw⟩
  exact ⟨ps, h ps w hw⟩

/-- An unused key may be set aside. -/
theorem Unused.orderly {key : Key} (hkey : Unused peersOf Holds key w)
    (h : w.Orderly peersOf Holds ps []) : w.Orderly peersOf Holds ps [key] where
  holds := h.holds
  rows := h.rows
  spare := fun p hp hmem => hkey.stored ps h.holds p hp (List.mem_singleton.1 hmem)
  kernel := ⟨h.kernel.own, fun name k hk hmem => hkey.kernel name k hk (List.mem_singleton.1 hmem)⟩
  registry := h.registry

section Runs

variable (hg : s.reconciler.gateway.Faithful peersOf) (hs : s.reconciler.peers.Faithful Holds)
  (hd : s.reconciler.devices.Keyed)
include hg hs hd

theorem kept_perform {op : Operation} (hop : Suitable peersOf Holds w op) (h : Kept peersOf Holds w) :
    Kept peersOf Holds (s.perform w op) := by
  cases op with
  | addPeer now draw req =>
    obtain ⟨ps, hw⟩ := h
    rcases added_add hg hs hd now draw req (Unused.orderly hop hw) with hkept | ⟨p, -, hkept⟩
    · exact ⟨_, hkept⟩
    · exact ⟨_, hkept⟩
  | updatePeer now fresh id req => exact preserves_update hg hs hd now fresh id req w h
  | removePeer id => exact preserves_remove hg hs hd id w h
  | enablePeer id => exact preserves_enable hg hs hd id w h
  | disablePeer id => exact preserves_disable hg hs hd id w h
  | sync id => exact Kept.lift (fun _ => Reconciler.preserves_syncDevice hg hs hd id) w h
  | syncAll => exact Kept.lift (fun _ => Reconciler.preserves_syncDevices hg hs hd) w h
  | lookup id => exact Kept.lift (fun _ => Reconciler.preserves_device hg hs hd id) w h
  | addDevice d => exact Kept.lift (fun _ => DeviceService.preserves_add hg hs hd d) w h
  | updateDevice id req =>
    exact Kept.lift (fun _ => DeviceService.preserves_update hg hs hd id req) w h
  | removeDevice id => exact Kept.lift (fun _ => DeviceService.preserves_remove hg id) w h

theorem kept_step (hstep : s.Step peersOf Holds w w') (h : Kept peersOf Holds w) :
    Kept peersOf Holds w' := by
  cases hstep with
  | perform op hop => exact kept_perform hg hs hd hop h
  | meanwhile k p d hk hp =>
    obtain ⟨ps, hw⟩ := h
    refine ⟨ps, hp ps hw.holds, hw.rows, hw.spare, ?_, hw.registry⟩
    show RoutesOwn (peersOf k) ps []
    rw [hk]
    exact hw.kernel

omit hg hs hd in
/-- Before any peer is stored nothing is asked of the kernel. -/
theorem kept_initial (hrows : Holds w₀.peers []) (hregistry : w₀.registry = ∅) :
    Kept peersOf Holds w₀ := by
  refine ⟨[], hrows, .nil, by simp, ⟨by simp, by simp⟩, fun id m hm => ?_⟩
  rw [hregistry, Std.ExtTreeMap.getElem?_empty] at hm
  cases hm

theorem kept_of_run (hrows : Holds w₀.peers []) (hregistry : w₀.registry = ∅)
    (hrun : Relation.ReflTransGen (s.Step peersOf Holds) w₀ w) : Kept peersOf Holds w := by
  induction hrun with
  | refl => exact kept_initial hrows hregistry
  | tail _ hstep ih => exact kept_step hg hs hd hstep ih

/-- After a run from an empty store each stored peer declares one address, and those of two peers of
one device differ. And a peer that is added then has an address from the device it is added to, as that
is registered, which is neither end of the device's block nor its own. -/
theorem addresses_apart (hrows : Holds w₀.peers []) (hregistry : w₀.registry = ∅)
    (hrun : Relation.ReflTransGen (s.Step peersOf Holds) w₀ w) :
    ∃ ps, Holds w.peers ps ∧
      (∀ p ∈ ps, ∀ q ∈ ps, p.id ≠ q.id → p.deviceId = q.deviceId →
        ∃ a b, p.reservedIps = .ok [a] ∧ q.reservedIps = .ok [b] ∧ a ≠ b) ∧
      ∀ now draw req, Unused peersOf Holds draw.privateKey.publicKey w →
        Holds (s.add now draw req w).2.peers ps ∨
          ∃ p, Handed s w draw req p ∧ Holds (s.add now draw req w).2.peers (ps ++ [p]) := by
  obtain ⟨ps, hw⟩ := kept_of_run hg hs hd hrows hregistry hrun
  refine ⟨ps, hw.holds, ?_, ?_⟩
  · intro p hp q hq hne hdev
    obtain ⟨a, ha⟩ := hw.rows.single p hp
    obtain ⟨b, hb⟩ := hw.rows.single q hq
    refine ⟨a, b, ha.reservedIps, hb.reservedIps, ?_⟩
    rintro rfl
    exact hw.rows.apart p hp q hq hne hdev a ha hb
  · intro now draw req hkey
    rcases added_add hg hs hd now draw req (hkey.orderly hw) with hkept | ⟨p, hhanded, hkept⟩
    · exact .inl hkept.holds
    · exact .inr ⟨p, hhanded, hkept.holds⟩

end Runs

/-! ## A second peer that the kernel refuses, or the store -/

/-- Whether a key is unused can be looked up, where the rows are in memory. -/
theorem Unused.of_memory {rows : σ → MemoryPeers} {w : World MemoryKernel σ δ} {key : Key}
    (hrows : ∀ r ∈ (rows w.peers).rows, r.publicKey ≠ key.text)
    (hkernel : ∀ e ∈ w.kernel.table.toList, ∀ k ∈ e.2.peers, k.publicKey ≠ key) :
    Unused MemoryKernel.peersOf (fun s => MemoryPeers.Holds (rows s)) key w where
  stored := by
    intro ps hps p hp hkey
    refine hrows p.toRow ?_ (congrArg Key.text hkey)
    rw [hps.rows]
    exact List.mem_map_of_mem hp
  kernel := by
    intro name k hk
    obtain ⟨t, ht, hkt⟩ := MemoryKernel.mem_peersOf hk
    exact hkernel (name, t) (Std.ExtTreeMap.mem_toList_iff_getElem?_eq_some.2 ht) k hkt

end PeerService

namespace Sample

open Reconciler PeerService

def service : PeerService MemoryKernel MemoryPeers MemoryDevices := ⟨inMemory .default, .default⟩

def draw (o : UInt8) : PeerDraw := ⟨uuid o, key o, key 0⟩

def request : AddPeer := ⟨device.id, "peer", "", "", [], "", 0, .ofSeconds 0, false⟩

/-- The device, without peers. -/
def emptyWorld : World MemoryKernel MemoryPeers MemoryDevices :=
  memoryWorld (interface []) [device] []

/-- The first peer is in, and from here on the kernel refuses to change peers. -/
def refusingWorld : World MemoryKernel MemoryPeers MemoryDevices :=
  let w := service.perform emptyWorld (.addPeer ⟨0, 0⟩ (draw 1) request)
  { w with
    kernel := w.kernel.setFault .configure (some ⟨.configure, none, fun _ => .io "refused"⟩) }

/-- The second peer is stored, but not in the kernel. -/
def unfinishedWorld : World MemoryKernel MemoryPeers MemoryDevices :=
  service.perform refusingWorld (.addPeer ⟨0, 0⟩ (draw 2) request)

theorem run_unfinishedWorld :
    Relation.ReflTransGen (service.Step MemoryKernel.peersOf MemoryPeers.Holds) emptyWorld
      unfinishedWorld := by
  have hfirst : Unused MemoryKernel.peersOf MemoryPeers.Holds (draw 1).privateKey.publicKey
      emptyWorld := .of_memory (by decide +kernel) (by decide +kernel)
  have hsecond : Unused MemoryKernel.peersOf MemoryPeers.Holds (draw 2).privateKey.publicKey
      refusingWorld := .of_memory (by decide +kernel) (by decide +kernel)
  exact ((Relation.ReflTransGen.single (.perform (.addPeer ⟨0, 0⟩ (draw 1) request) hfirst)).tail
    (.meanwhile _ _ _ rfl fun _ h => h)).tail (.perform (.addPeer ⟨0, 0⟩ (draw 2) request) hsecond)

/-- The service over stores that can be told to refuse. -/
def orderedService : PeerService MemoryKernel (Refusing MemoryPeers) (Refusing MemoryDevices) :=
  ⟨⟨MemoryKernel.gateway, Refusing.peers MemoryPeers.store, Refusing.devices MemoryDevices.store,
    .default⟩, .default⟩

/-- The empty world, its stores under no orders. -/
def orderedWorld : World MemoryKernel (Refusing MemoryPeers) (Refusing MemoryDevices) :=
  ⟨emptyWorld.kernel, .ofInner emptyWorld.peers, .ofInner emptyWorld.devices, ∅⟩

/-- The first peer is in, and from here on the store takes no new ones. -/
def unwritableWorld : World MemoryKernel (Refusing MemoryPeers) (Refusing MemoryDevices) :=
  let w := orderedService.perform orderedWorld (.addPeer ⟨0, 0⟩ (draw 1) request)
  { w with peers := w.peers.setRefused .add (some "the disk is full") }

/-- The second peer was not stored, and the store takes new ones again. -/
def clearedWorld : World MemoryKernel (Refusing MemoryPeers) (Refusing MemoryDevices) :=
  let w := orderedService.perform unwritableWorld (.addPeer ⟨0, 0⟩ (draw 2) request)
  { w with peers := w.peers.setRefused .add none }

/-- A third peer is in. -/
def refilledWorld : World MemoryKernel (Refusing MemoryPeers) (Refusing MemoryDevices) :=
  orderedService.perform clearedWorld (.addPeer ⟨0, 0⟩ (draw 3) request)

theorem run_refilledWorld :
    Relation.ReflTransGen
      (orderedService.Step MemoryKernel.peersOf fun s => MemoryPeers.Holds s.inner) orderedWorld
      refilledWorld := by
  have hfirst : Unused MemoryKernel.peersOf (fun s => MemoryPeers.Holds s.inner)
      (draw 1).privateKey.publicKey orderedWorld := .of_memory (by decide +kernel) (by decide +kernel)
  have hsecond : Unused MemoryKernel.peersOf (fun s => MemoryPeers.Holds s.inner)
      (draw 2).privateKey.publicKey unwritableWorld :=
    .of_memory (by decide +kernel) (by decide +kernel)
  have hthird : Unused MemoryKernel.peersOf (fun s => MemoryPeers.Holds s.inner)
      (draw 3).privateKey.publicKey clearedWorld := .of_memory (by decide +kernel) (by decide +kernel)
  exact ((((Relation.ReflTransGen.single (.perform (.addPeer ⟨0, 0⟩ (draw 1) request) hfirst)).tail
    (.reordered .add (some "the disk is full"))).tail
    (.perform (.addPeer ⟨0, 0⟩ (draw 2) request) hsecond)).tail
    (.reordered .add none)).tail (.perform (.addPeer ⟨0, 0⟩ (draw 3) request) hthird)

/-- A second peer that the kernel refuses is stored, with an address of its own. One that the store
refuses is not, and the third is given the address that was meant for it. -/
theorem addresses_apart_refused :
    (unfinishedWorld.peers.rows.map PeerRow.allowedIps = [["10.0.0.2/32"], ["10.0.0.3/32"]] ∧
      (unfinishedWorld.kernel.peersOf device.name).length = 1 ∧
      ∃ ps, MemoryPeers.Holds unfinishedWorld.peers ps ∧
        (∀ p ∈ ps, ∀ q ∈ ps, p.id ≠ q.id → p.deviceId = q.deviceId →
          ∃ a b, p.reservedIps = .ok [a] ∧ q.reservedIps = .ok [b] ∧ a ≠ b) ∧
        ∀ now draw req,
          Unused MemoryKernel.peersOf MemoryPeers.Holds draw.privateKey.publicKey unfinishedWorld →
          MemoryPeers.Holds (service.add now draw req unfinishedWorld).2.peers ps ∨
            ∃ p, Handed service unfinishedWorld draw req p ∧
              MemoryPeers.Holds (service.add now draw req unfinishedWorld).2.peers (ps ++ [p])) ∧
    refilledWorld.peers.inner.rows.map PeerRow.allowedIps = [["10.0.0.2/32"], ["10.0.0.3/32"]] ∧
      ∃ ps, MemoryPeers.Holds refilledWorld.peers.inner ps ∧
        ∀ p ∈ ps, ∀ q ∈ ps, p.id ≠ q.id → p.deviceId = q.deviceId →
          ∃ a b, p.reservedIps = .ok [a] ∧ q.reservedIps = .ok [b] ∧ a ≠ b := by
  refine ⟨⟨by decide +kernel, by decide +kernel, ?_⟩, by decide +kernel, ?_⟩
  · exact addresses_apart MemoryKernel.faithful MemoryPeers.faithful MemoryDevices.keyed
      (holds_memoryWorld List.nodup_nil) rfl run_unfinishedWorld
  · have hempty : MemoryPeers.Holds orderedWorld.peers.inner [] := ⟨rfl, List.nodup_nil⟩
    obtain ⟨ps, hps, hapart, -⟩ := addresses_apart (s := orderedService) MemoryKernel.faithful
      (Refusing.faithful MemoryPeers.faithful) (Refusing.keyed MemoryDevices.keyed) hempty rfl
      run_refilledWorld
    exact ⟨ps, hps, hapart⟩

end Sample

end TunnelKeeper
