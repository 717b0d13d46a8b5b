import TunnelKeeper.Proofs.Reconcile.Pass
import TunnelKeeper.Service.Peers

/-!
# The course of a call to the peer service

A call first looks things up: the peer it is about, and the device of that peer (`task`). From what is
stored and registered, and from nothing else, it settles all that it is going to do (`Draft`): the
device to register, the write to the store and the change to send. Then it carries that out
(`Outcome`): if the store refuses, the device is registered as it was before, exactly; if the kernel
refuses, the write stays.

`course` says that each of the five operations runs this course. What a call can do to a world is read
off it, and no later proof opens an operation.
-/

namespace TunnelKeeper

/-- A call to the peer service that may change something, with what is drawn for it. -/
inductive PeerCall
  | add (now : Timestamp) (draw : PeerDraw) (req : AddPeer)
  | update (now : Timestamp) (fresh : Key) (id : Uuid) (req : UpdatePeer)
  | remove (id : Uuid)
  | enable (id : Uuid)
  | disable (id : Uuid)

namespace PeerService

variable {κ σ δ α β ε : Type} (s : PeerService κ σ δ)

/-- An operation, less what it gives. -/
def silent (x : Attempt ε σ α) : Attempt ε σ Unit := fun s => ((x s).1.map fun _ => (), (x s).2)

/-- Makes a call. -/
def call : PeerCall → Attempt ServiceFault (World κ σ δ) Unit
  | .add now draw req => silent (s.add now draw req)
  | .update now fresh id req => silent (s.update now fresh id req)
  | .remove id => s.remove id
  | .enable id => s.enable id
  | .disable id => s.disable id

/-! ## What a call settles -/

/-- What a call is going to do. -/
structure Draft (σ : Type) where
  /-- The device as it is registered first. -/
  taken : ManagedDevice
  /-- The write to the store. -/
  write : Attempt StoreError σ Unit
  /-- What the kernel is told then. -/
  change : Option PeerChange

/-- What a call is to do once its device is known. -/
structure Task (σ : Type) where
  device : Uuid
  draft : ManagedDevice → Except ServiceFault (Draft σ)

def draftAdd (draw : PeerDraw) (req : AddPeer) (m : ManagedDevice) :
    Except ServiceFault (Draft σ) := do
  let peer := (Peer.ofRequest draw m.device.id req).withDefaults s.defaults
  peer.validate.mapError .validation
  let address ← (m.allocate (.peer peer.id)).1.mapError .ofDevice
  let peer := { peer with allowedIps := [address.text] }
  let change ← peer.toChange.mapError .peer
  return ⟨(m.allocate (.peer peer.id)).2, s.reconciler.peers.add peer, some change⟩

def draftUpdate (fresh : Key) (req : UpdatePeer) (before : Peer) (m : ManagedDevice) :
    Except ServiceFault (Draft σ) := do
  let peer := { (before.withFields req).withDefaults s.defaults with
    presharedKey := before.presharedKeyAfter req fresh }
  peer.validate.mapError .validation
  let networks ← peer.allowedNetworks.mapError .peer
  return ⟨m, s.reconciler.peers.update peer,
    if peer.isEnabled then some (peer.updateChange before networks) else none⟩

def draftRemove (id : Uuid) (peer : Peer) (m : ManagedDevice) : Except ServiceFault (Draft σ) := do
  let pool ← m.getPool.mapError .ofDevice
  let ips ← peer.reservedIps.mapError .peer
  return ⟨{ m with pool := some (pool.releaseAllFor peer.id ips).2 },
    s.reconciler.peers.remove id,
    if peer.isEnabled then some (.removal peer.publicKey) else none⟩

def draftEnable (peer : Peer) (m : ManagedDevice) : Except ServiceFault (Draft σ) := do
  let pool ← m.getPool.mapError .ofDevice
  let networks ← peer.allowedNetworks.mapError .peer
  let _ ← (pool.claim (networks.map Cidr.ip) peer.id).1.mapError .pool
  return ⟨{ m with pool := some (pool.claim (networks.map Cidr.ip) peer.id).2 },
    s.reconciler.peers.update { peer with isEnabled := true }, some (peer.changeFor networks)⟩

def draftDisable (peer : Peer) (m : ManagedDevice) : Except ServiceFault (Draft σ) := do
  let _ ← m.getPool.mapError .ofDevice
  return ⟨m, s.reconciler.peers.update { peer with isEnabled := false },
    some (.removal peer.publicKey)⟩

/-- The task of a call, none if there is nothing to do. It depends on what is stored alone. -/
def task (t : σ) : PeerCall → Except ServiceFault (Option (Task σ))
  | .add _ draw req => .ok (some ⟨req.deviceId, s.draftAdd draw req⟩)
  | .update _ fresh id req => stored id fun p => some ⟨p.deviceId, s.draftUpdate fresh req p⟩
  | .remove id => stored id fun p => some ⟨p.deviceId, s.draftRemove id p⟩
  | .enable id =>
    stored id fun p => if p.isEnabled then none else some ⟨p.deviceId, s.draftEnable p⟩
  | .disable id =>
    stored id fun p => if p.isEnabled then some ⟨p.deviceId, s.draftDisable p⟩ else none
where
  stored (id : Uuid) (f : Peer → Option (Task σ)) : Except ServiceFault (Option (Task σ)) :=
    ((s.reconciler.peers.get t id).mapError .ofStore).map f

/-! ## What it comes to -/

/-- The kernel was read at most. -/
inductive Looked (g : Gateway κ) (k : κ) : κ → Prop
  | refl : Looked g k k
  | read {k' : κ} (name : String) (h : Looked g k k') : Looked g k (g.read name k').2

/-- What comes of telling the kernel a change, if there is one, and of a look at it. -/
inductive Told (g : Gateway κ) (name : String) :
    Option PeerChange → κ → Except ServiceFault Unit → κ → Prop
  | nothing {k k' : κ} (looked : Looked g k k') : Told g name none k (.ok ()) k'
  | applied {c : PeerChange} {k k₁ k' : κ} (configured : g.configure name [c] k = (.ok (), k₁))
    (looked : Looked g k₁ k') : Told g name (some c) k (.ok ()) k'
  | refused {c : PeerChange} {k k' : κ} {e : KernelError}
    (configured : g.configure name [c] k = (.error e, k')) :
    Told g name (some c) k (.error (.kernelApplyFailed e)) k'

/-- What comes of carrying out the draft `d` for the registered device `m`. -/
inductive Outcome (m : ManagedDevice) (d : Draft σ) (w : World κ σ δ) :
    Except ServiceFault Unit → World κ σ δ → Prop
  | unstored {e : StoreError} {t : σ} (write : d.write w.peers = (.error e, t)) :
    Outcome m d w (.error (.ofStore e)) { w with peers := t }
  | stored {t : σ} {r : Except ServiceFault Unit} {k : κ} (write : d.write w.peers = (.ok (), t))
    (told : Told s.reconciler.gateway m.device.name d.change w.kernel r k) :
    Outcome m d w r ⟨k, t, w.devices, w.registry.insert d.taken.device.id d.taken⟩

/-- What comes of a call. -/
inductive Course (c : PeerCall) (w : World κ σ δ) : Except ServiceFault Unit → World κ σ δ → Prop
  /-- Its peer cannot be found. -/
  | unknown {e : ServiceFault} (task : s.task w.peers c = .error e) : Course c w (.error e) w
  | idle (task : s.task w.peers c = .ok none) : Course c w (.ok ()) w
  /-- Its device cannot be found. -/
  | unregistered {t : Task σ} {e : ServiceFault} {w₁ : World κ σ δ}
    (task : s.task w.peers c = .ok (some t)) (lookup : s.device t.device w = (.error e, w₁)) :
    Course c w (.error e) w₁
  /-- It is faulty. -/
  | refused {t : Task σ} {m : ManagedDevice} {e : ServiceFault} {w₁ : World κ σ δ}
    (task : s.task w.peers c = .ok (some t)) (lookup : s.device t.device w = (.ok m, w₁))
    (draft : t.draft m = .error e) : Course c w (.error e) w₁
  | carriedOut {t : Task σ} {m : ManagedDevice} {d : Draft σ} {r : Except ServiceFault Unit}
    {w₁ w' : World κ σ δ} (task : s.task w.peers c = .ok (some t))
    (lookup : s.device t.device w = (.ok m, w₁)) (draft : t.draft m = .ok d)
    (outcome : s.Outcome m d w₁ r w') : Course c w r w'

variable {s} {m taken : ManagedDevice} {w w₁ w' : World κ σ δ} {change : Option PeerChange}

/-! ## Telling the kernel -/

theorem Told.error {g : Gateway κ} {name : String} {k k' : κ} {e : ServiceFault}
    (h : Told g name change k (.error e) k') :
    ∃ c e', change = some c ∧ e = .kernelApplyFailed e' ∧ g.configure name [c] k = (.error e', k') := by
  cases h with
  | refused configured => exact ⟨_, _, rfl, rfl, configured⟩

/-- A kernel that takes every change does not refuse. -/
theorem Told.accepted {g : Gateway κ} {name : String} {k k' : κ} {r : Except ServiceFault Unit}
    (h : Told g name change k r k') (hk : ∀ c, (g.configure name [c] k).1 = .ok ()) : r = .ok () := by
  cases h with
  | nothing => rfl
  | applied => rfl
  | @refused c _ _ e configured =>
    have := hk c
    rw [configured] at this
    cases this

/-- All that the program does is to tell the kernel the change. -/
def Tells (s : PeerService κ σ δ) (name : String) (change : Option PeerChange)
    (x : Attempt ServiceFault (World κ σ δ) α) : Prop :=
  ∀ w, ∃ k, (x w).2 = { w with kernel := k } ∧
    Told s.reconciler.gateway name change w.kernel ((x w).1.map fun _ => ()) k

theorem tells_pure {name : String} (a : α) :
    s.Tells name none (pure a : Attempt ServiceFault (World κ σ δ) α) :=
  fun w => ⟨w.kernel, rfl, .nothing .refl⟩

theorem tells_apply (name : String) (c : PeerChange) : s.Tells name (some c) (s.apply name c) := by
  intro w
  rcases hc : s.reconciler.gateway.configure name [c] w.kernel with ⟨e | u, k⟩
  · refine ⟨k, ?_, ?_⟩
    · simp [apply, Reconciler.onKernel, Attempt.onPart_apply, hc]
    · simp only [apply, Reconciler.onKernel, Attempt.onPart_apply, hc]
      exact .refused hc
  · refine ⟨k, ?_, ?_⟩
    · simp [apply, Reconciler.onKernel, Attempt.onPart_apply, hc]
    · simp only [apply, Reconciler.onKernel, Attempt.onPart_apply, hc]
      exact .applied hc .refl

/-- A look at the kernel never fails. -/
theorem overlay_apply (now : Timestamp) (d : Device) (p : Peer) (w : World κ σ δ) :
    s.overlay now d p w
      = (.ok (overlaid now (s.reconciler.gateway.read d.name w.kernel).1.toOption p),
        { w with kernel := (s.reconciler.gateway.read d.name w.kernel).2 }) := by
  simp only [overlay, snapshot?, Attempt.bind_apply, Attempt.capture_apply, Reconciler.onKernel,
    Attempt.onPart_apply, Attempt.pure_apply]
  cases (s.reconciler.gateway.read d.name w.kernel).1 with
  | error e => rfl
  | ok t => rfl

theorem Tells.overlay {name : String} {x : Attempt ServiceFault (World κ σ δ) α}
    (h : s.Tells name change x) (now : Timestamp) (d : Device) (p : Peer) :
    s.Tells name change (x >>= fun _ => s.overlay now d p) := by
  intro w
  obtain ⟨k, hw, htold⟩ := h w
  rw [Attempt.bind_apply]
  rcases hx : x w with ⟨e | a, v⟩
  · rw [hx] at hw htold
    exact ⟨k, hw, htold⟩
  · rw [hx] at hw htold
    obtain rfl : v = { w with kernel := k } := hw
    have hlook := overlay_apply (s := s) now d p { w with kernel := k }
    refine ⟨_, congrArg Prod.snd hlook, ?_⟩
    simp only [hlook]
    cases htold with
    | nothing looked => exact .nothing (.read d.name looked)
    | applied configured looked => exact .applied configured (.read d.name looked)

theorem Tells.ite {name : String} {x y : Attempt ServiceFault (World κ σ δ) α} {c : PeerChange}
    {b : Bool} (hx : s.Tells name (some c) x) (hy : s.Tells name none y) :
    s.Tells name (if b then some c else none) (if b then x else y) := by
  cases b with
  | true => exact hx
  | false => exact hy

/-! ## Storing -/

theorem persist_apply (undone : ManagedDevice) (x : Attempt StoreError σ Unit) (w : World κ σ δ) :
    persist undone x w = match x w.peers with
      | (.ok (), t) => (.ok (), { w with peers := t })
      | (.error e, t) => (.error (.ofStore e),
          { w with peers := t, registry := w.registry.insert undone.device.id undone }) := by
  simp only [persist, Attempt.bind_apply, Attempt.capture_apply, Reconciler.onPeers,
    Attempt.onPart_apply]
  rcases x w.peers with ⟨e | u, t⟩
  · rfl
  · rfl

/-- A program that registers `taken` and stores, and where that fails registers `m` again. -/
theorem outcome_persist (taken : ManagedDevice) {undone : ManagedDevice}
    {write : Attempt StoreError σ Unit}
    {rest : Attempt ServiceFault (World κ σ δ) α} (hm : w.registry[m.device.id]? = some m)
    (htaken : taken.device = m.device) (hundone : undone = m)
    (hrest : s.Tells m.device.name change rest) :
    s.Outcome m ⟨taken, write, change⟩ w
      (((do Reconciler.register taken; persist undone write; rest) w).1.map fun _ => ())
      ((do Reconciler.register taken; persist undone write; rest) w).2 := by
  simp only [Attempt.bind_apply, Reconciler.register, Attempt.modify_apply, persist_apply]
  rcases hw : write w.peers with ⟨e | u, t⟩
  · simp only [htaken, hundone, Registry.insert_insert, Registry.insert_self hm]
    exact .unstored hw
  · obtain ⟨k, hk, htold⟩ := hrest
      { w with peers := t, registry := w.registry.insert taken.device.id taken }
    simp only [hk]
    exact .stored hw htold

/-- A program that stores, and leaves the pool alone. -/
theorem outcome_onPeers {write : Attempt StoreError σ Unit}
    {rest : Attempt ServiceFault (World κ σ δ) α} (hm : w.registry[m.device.id]? = some m)
    (hrest : s.Tells m.device.name change rest) :
    s.Outcome m ⟨m, write, change⟩ w
      (((do Reconciler.onPeers ServiceFault.ofStore write; rest) w).1.map fun _ => ())
      ((do Reconciler.onPeers ServiceFault.ofStore write; rest) w).2 := by
  simp only [Attempt.bind_apply, Reconciler.onPeers, Attempt.onPart_apply]
  rcases hw : write w.peers with ⟨e | u, t⟩
  · exact .unstored hw
  · obtain ⟨k, hk, htold⟩ := hrest { w with peers := t }
    have hstored : s.Outcome m ⟨m, write, change⟩ w ((rest { w with peers := t }).1.map fun _ => ())
        ⟨k, t, w.devices, w.registry.insert m.device.id m⟩ := .stored hw htold
    rw [Registry.insert_self hm] at hstored
    simp only [hk, Except.mapError]
    exact hstored

/-! ## Carrying out a draft -/

/-- Once the device `m` is known, the program goes as the draft `r` says. -/
structure Carries (s : PeerService κ σ δ) (m : ManagedDevice) (w : World κ σ δ)
    (x : Attempt ServiceFault (World κ σ δ) α) (r : Except ServiceFault (Draft σ)) : Prop where
  refused : ∀ e, r = .error e → x w = (.error e, w)
  done : ∀ d, r = .ok d → s.Outcome m d w ((x w).1.map fun _ => ()) (x w).2

theorem Carries.of_outcome {x : Attempt ServiceFault (World κ σ δ) α} {d : Draft σ}
    (h : s.Outcome m d w ((x w).1.map fun _ => ()) (x w).2) : s.Carries m w x (.ok d) :=
  ⟨fun e he => (by cases he), fun d' hd => by rw [← Except.ok.inj hd]; exact h⟩

/-- The draft fails where the program does, and with the same fault. -/
theorem Carries.bind {wrap : ε → ServiceFault} {r : Except ε β}
    {f : β → Attempt ServiceFault (World κ σ δ) α} {g : β → Except ServiceFault (Draft σ)}
    (h : ∀ b, r = .ok b → s.Carries m w (f b) (g b)) :
    s.Carries m w (.ofExcept wrap r >>= f) (r.mapError wrap >>= g) := by
  cases hr : r with
  | error e => exact ⟨fun e' he => (by cases he; rfl), fun d hd => (by cases hd)⟩
  | ok b => exact h b hr

/-! ## The five operations -/

theorem device_allocate (m : ManagedDevice) (holder : Holder) :
    (m.allocate holder).2.device = m.device := by
  unfold ManagedDevice.allocate
  split
  · rfl
  · split
    · rfl
    · rfl

/-- A device has the pool that it gives. -/
theorem undo_getPool {pool pool' : AddressPool} (h : m.getPool = .ok pool) (hundone : pool' = pool) :
    ({ m with pool := some pool' } : ManagedDevice) = m := by
  obtain ⟨d, p⟩ := m
  cases p with
  | none => cases h
  | some p => rw [hundone, ← Except.ok.inj h]

/-- What allocation gives is given back. -/
theorem undo_allocate {c : Cidr} {holder : Holder} (h : (m.allocate holder).1 = .ok c) :
    (m.allocate holder).2.mapPool (fun p => p.releaseAll [c.ip]) = m := by
  unfold ManagedDevice.allocate at h ⊢
  cases hblock : m.device.network with
  | error e => simp only [hblock] at h; cases h
  | ok block =>
    cases hpool : m.getPool with
    | error e => simp only [hblock, hpool] at h; cases h
    | ok pool =>
      simp only [hblock, hpool] at h ⊢
      rcases halloc : pool.allocateFor block holder with ⟨e | c', pool'⟩
      · rw [halloc] at h
        cases h
      · rw [halloc] at h
        obtain rfl := Except.ok.inj h
        obtain ⟨ip, rfl, rfl, -, -, hfree⟩ := AddressPool.spec_allocateFor halloc
        exact undo_getPool hpool (AddressPool.undo_put hfree holder)

/-- From `w` the program looks up the device of the task, and goes as its draft says. -/
def Performs (s : PeerService κ σ δ) (w : World κ σ δ)
    (x : Attempt ServiceFault (World κ σ δ) α) (t : Task σ) : Prop :=
  ∃ f, x w = (s.device t.device >>= f) w ∧
    ∀ m w₁, m.device.id = t.device → w₁.registry[t.device]? = some m →
      s.Carries m w₁ (f m) (t.draft m)

theorem performs_add (w : World κ σ δ) (now : Timestamp) (draw : PeerDraw) (req : AddPeer) :
    s.Performs w (s.add now draw req) ⟨req.deviceId, s.draftAdd draw req⟩ := by
  refine ⟨_, rfl, fun m w₁ hid hm => ?_⟩
  rw [← hid] at hm
  refine .bind fun _ _ => .bind fun address haddress => .bind fun change _ => .of_outcome ?_
  exact outcome_persist _ hm (device_allocate m _) (undo_allocate haddress)
    ((tells_apply _ change).overlay now m.device _)

theorem storedPeer_apply {id : Uuid} {p : Peer} (h : s.reconciler.peers.get w.peers id = .ok p) :
    s.storedPeer id w = (.ok p, w) := Reconciler.ask_eq_ok.2 ⟨h, rfl⟩

section Stored

variable {id : Uuid} {p : Peer} (hget : s.reconciler.peers.get w.peers id = .ok p)
include hget

theorem performs_update (now : Timestamp) (fresh : Key) (req : UpdatePeer) :
    s.Performs w (s.update now fresh id req) ⟨p.deviceId, s.draftUpdate fresh req p⟩ := by
  refine ⟨_, by rw [update, Attempt.bind_apply, storedPeer_apply hget], fun m w₁ hid hm => ?_⟩
  rw [← hid] at hm
  refine .bind fun _ _ => .bind fun networks _ => .of_outcome ?_
  exact outcome_onPeers hm
    (.ite ((tells_apply _ _).overlay now m.device _) ((tells_pure ()).overlay now m.device _))

theorem performs_remove : s.Performs w (s.remove id) ⟨p.deviceId, s.draftRemove id p⟩ := by
  refine ⟨_, by rw [remove, Attempt.bind_apply, storedPeer_apply hget], fun m w₁ hid hm => ?_⟩
  rw [← hid] at hm
  refine .bind fun pool hpool => .bind fun ips _ => .of_outcome ?_
  refine outcome_persist { m with pool := some (pool.releaseAllFor p.id ips).2 } hm rfl ?_
    (.ite (tells_apply _ _) (tells_pure ()))
  exact undo_getPool hpool (AddressPool.undo_release pool p.id ips)

theorem performs_enable (hd : p.isEnabled = false) :
    s.Performs w (s.enable id) ⟨p.deviceId, s.draftEnable p⟩ := by
  have hsteps : s.enable id w = s.enableSteps p w := by
    rw [enable, Attempt.bind_apply, storedPeer_apply hget]
    simp only [hd]
    rfl
  refine ⟨_, hsteps, fun m w₁ hid hm => ?_⟩
  rw [← hid] at hm
  refine .bind fun pool hpool => .bind fun networks _ => .bind fun newly hnewly => .of_outcome ?_
  refine outcome_persist { m with pool := some (pool.claim (networks.map Cidr.ip) p.id).2 } hm rfl ?_
    (tells_apply _ _)
  exact undo_getPool hpool (AddressPool.undo_claim (Prod.ext hnewly rfl))

theorem performs_disable (he : p.isEnabled = true) :
    s.Performs w (s.disable id) ⟨p.deviceId, s.draftDisable p⟩ := by
  have hsteps : s.disable id w = s.disableSteps p w := by
    rw [disable, Attempt.bind_apply, storedPeer_apply hget]
    simp only [he]
    rfl
  refine ⟨_, hsteps, fun m w₁ hid hm => ?_⟩
  rw [← hid] at hm
  exact .bind fun pool _ => .of_outcome (outcome_onPeers hm (tells_apply _ _))

end Stored

/-! ## The course -/

/-- A device that was looked up is registered by then. -/
theorem device_ok {id : Uuid} (h : s.device id w = (.ok m, w')) : w'.registry[id]? = some m :=
  Reconciler.registered_of_device (Attempt.mapError_eq_ok.1 h)

/-- A registered device is looked up without doing anything. -/
theorem device_registered {id : Uuid} (h : w.registry[id]? = some m) : s.device id w = (.ok m, w) :=
  Attempt.mapError_eq_ok.2 (Reconciler.device_of_registered h)

theorem Performs.course {c : PeerCall} {x : Attempt ServiceFault (World κ σ δ) α} {t : Task σ}
    (h : s.Performs w x t) (htask : s.task w.peers c = .ok (some t))
    (hid : ∀ m w₁, s.device t.device w = (.ok m, w₁) → m.device.id = t.device) :
    s.Course c w ((x w).1.map fun _ => ()) (x w).2 := by
  obtain ⟨f, hx, hf⟩ := h
  rw [hx, Attempt.bind_apply]
  rcases hlookup : s.device t.device w with ⟨e | m, w₁⟩
  · exact .unregistered htask hlookup
  · have hcarries := hf m w₁ (hid m w₁ hlookup) (device_ok hlookup)
    cases hdraft : t.draft m with
    | error e =>
      simp only [hcarries.refused e hdraft]
      exact .refused htask hlookup hdraft
    | ok d => exact .carriedOut htask hlookup hdraft (hcarries.done d hdraft)

theorem map_unit (r : Except ε Unit) : (r.map fun _ => ()) = r := by
  cases r with
  | error e => rfl
  | ok u => rfl

theorem Course.of_map {c : PeerCall} {r : Except ServiceFault Unit}
    (h : s.Course c w (r.map fun _ => ()) w') : s.Course c w r w' := by
  rwa [map_unit] at h

theorem task_stored {id : Uuid} {p : Peer} (hget : s.reconciler.peers.get w.peers id = .ok p)
    (f : Peer → Option (Task σ)) : task.stored s w.peers id f = .ok (f p) := by
  rw [task.stored, hget]
  rfl

/-- Without its peer a call fails as the store does. -/
theorem course_unknown {c : PeerCall} {x : Attempt ServiceFault (World κ σ δ) α}
    {f : Peer → Attempt ServiceFault (World κ σ δ) α} {g : Peer → Option (Task σ)} {id : Uuid}
    {e : StoreError} (hget : s.reconciler.peers.get w.peers id = .error e)
    (hx : x = s.storedPeer id >>= f) (htask : s.task w.peers c = task.stored s w.peers id g) :
    s.Course c w ((x w).1.map fun _ => ()) (x w).2 := by
  have hfail : x w = (.error (.ofStore e), w) := by
    rw [hx, Attempt.bind_apply]
    simp only [storedPeer, Reconciler.ask, Attempt.bind_apply, Attempt.get_apply, hget]
    rfl
  rw [hfail]
  refine .unknown ?_
  rw [htask, task.stored, hget]
  rfl

theorem course_call {c : PeerCall}
    (hid : ∀ t m w₁, s.task w.peers c = .ok (some t) → s.device t.device w = (.ok m, w₁) →
      m.device.id = t.device) :
    s.Course c w (s.call c w).1 (s.call c w).2 := by
  cases c with
  | add now draw req => exact (performs_add w now draw req).course rfl (hid _ · · rfl)
  | update now fresh id req =>
    cases hget : s.reconciler.peers.get w.peers id with
    | error e => exact course_unknown (x := s.update now fresh id req) hget rfl rfl
    | ok p =>
      have htask := task_stored hget fun p => some ⟨p.deviceId, s.draftUpdate fresh req p⟩
      exact (performs_update hget now fresh req).course htask (hid _ · · htask)
  | remove id =>
    cases hget : s.reconciler.peers.get w.peers id with
    | error e => exact .of_map (course_unknown hget rfl rfl)
    | ok p =>
      have htask := task_stored hget fun p => some ⟨p.deviceId, s.draftRemove id p⟩
      exact .of_map ((performs_remove hget).course htask (hid _ · · htask))
  | enable id =>
    cases hget : s.reconciler.peers.get w.peers id with
    | error e => exact .of_map (course_unknown hget rfl rfl)
    | ok p =>
      have htask := task_stored hget fun p =>
        if p.isEnabled then none else some ⟨p.deviceId, s.draftEnable p⟩
      by_cases he : p.isEnabled = true
      · have hidle : s.call (.enable id) w = (.ok (), w) := by
          simp only [call, enable, Attempt.bind_apply, storedPeer_apply hget, he]
          rfl
        rw [hidle]
        rw [if_pos he] at htask
        exact .idle htask
      · rw [if_neg he] at htask
        exact .of_map ((performs_enable hget (by simpa using he)).course htask (hid _ · · htask))
  | disable id =>
    cases hget : s.reconciler.peers.get w.peers id with
    | error e => exact .of_map (course_unknown hget rfl rfl)
    | ok p =>
      have htask := task_stored hget fun p =>
        if p.isEnabled then some ⟨p.deviceId, s.draftDisable p⟩ else none
      by_cases he : p.isEnabled = true
      · rw [if_pos he] at htask
        exact .of_map ((performs_disable hget he).course htask (hid _ · · htask))
      · have hidle : s.call (.disable id) w = (.ok (), w) := by
          simp only [call, disable, Attempt.bind_apply, storedPeer_apply hget, he]
          rfl
        rw [hidle]
        rw [if_neg he] at htask
        exact .idle htask

/-- Every call runs its course. -/
theorem course {c : PeerCall} {r : Except ServiceFault Unit}
    (hid : ∀ {t m w₁}, s.task w.peers c = .ok (some t) → s.device t.device w = (.ok m, w₁) →
      m.device.id = t.device)
    (hrun : s.call c w = (r, w')) : s.Course c w r w' := by
  have hcourse := course_call (c := c) fun t m w₁ => hid (t := t) (m := m)
  rwa [hrun] at hcourse

end PeerService

end TunnelKeeper
