import TunnelKeeper.Proofs.Service.Course
import TunnelKeeper.Proofs.Service.Peers

/-!
# What a call changes

`Assigned` lists the tasks of the five operations, and `Edit` what they settle to do, one constructor
each. Every task is one of the former (`assigned`) and every draft one of the latter (`edit`), so a
proof about all operations is a case analysis.
-/

namespace TunnelKeeper

/-- The peer as an update that draws `fresh` stores it. -/
def Peer.updated (p : Peer) (defaults : PeerDefaults) (req : UpdatePeer) (fresh : Key) : Peer :=
  { (p.withFields req).withDefaults defaults with presharedKey := p.presharedKeyAfter req fresh }

namespace PeerService

variable {κ σ δ : Type} {s : PeerService κ σ δ} {t : σ} {w : World κ σ δ} {m : ManagedDevice}
  {c : PeerCall} {d : Draft σ}

/-- What a call is going to do about the registered device `m`, by what the store has in `t`. -/
inductive Edit (s : PeerService κ σ δ) (t : σ) (m : ManagedDevice) : PeerCall → Draft σ → Prop
  | add {now : Timestamp} {draw : PeerDraw} {req : AddPeer} {address : Cidr} {networks : List Cidr}
    (allocated : (m.allocate (.peer draw.id)).1 = .ok address)
    (valid : (newPeer s draw req m address).validate = .ok ())
    (readable : (newPeer s draw req m address).allowedNetworks = .ok networks) :
    Edit s t m (.add now draw req) ⟨(m.allocate (.peer draw.id)).2,
      s.reconciler.peers.add (newPeer s draw req m address),
      some ((newPeer s draw req m address).changeFor networks)⟩
  | update {now : Timestamp} {fresh : Key} {id : Uuid} {req : UpdatePeer} {p : Peer}
    {networks : List Cidr} (found : s.reconciler.peers.get t id = .ok p)
    (valid : (p.updated s.defaults req fresh).validate = .ok ())
    (readable : p.allowedNetworks = .ok networks) :
    Edit s t m (.update now fresh id req) ⟨m,
      s.reconciler.peers.update (p.updated s.defaults req fresh),
      if p.isEnabled then some ((p.updated s.defaults req fresh).updateChange p networks) else none⟩
  | remove {id : Uuid} {p : Peer} {pool : AddressPool} {ips : List IpAddress}
    (found : s.reconciler.peers.get t id = .ok p) (hasPool : m.pool = some pool)
    (readable : p.reservedIps = .ok ips) :
    Edit s t m (.remove id) ⟨{ m with pool := some (pool.releaseAllFor p.id ips).2 },
      s.reconciler.peers.remove id, if p.isEnabled then some (.removal p.publicKey) else none⟩
  | enable {id : Uuid} {p : Peer} {pool pool' : AddressPool} {networks : List Cidr}
    {newly : List IpAddress} (found : s.reconciler.peers.get t id = .ok p)
    (disabled : p.isEnabled = false) (hasPool : m.pool = some pool)
    (readable : p.allowedNetworks = .ok networks)
    (claimed : pool.claim (networks.map Cidr.ip) p.id = (.ok newly, pool')) :
    Edit s t m (.enable id) ⟨{ m with pool := some pool' },
      s.reconciler.peers.update { p with isEnabled := true }, some (p.changeFor networks)⟩
  | disable {id : Uuid} {p : Peer} (found : s.reconciler.peers.get t id = .ok p)
    (enabled : p.isEnabled = true) :
    Edit s t m (.disable id) ⟨m, s.reconciler.peers.update { p with isEnabled := false },
      some (.removal p.publicKey)⟩

/-! ## What a call is given to do -/

/-- The call `c` has the task, by what the store has in `t`. -/
inductive Assigned (s : PeerService κ σ δ) (t : σ) : PeerCall → Task σ → Prop
  | add {now : Timestamp} {draw : PeerDraw} {req : AddPeer} :
    Assigned s t (.add now draw req) ⟨req.deviceId, s.draftAdd draw req⟩
  | update {now : Timestamp} {fresh : Key} {id : Uuid} {req : UpdatePeer} {p : Peer}
    (found : s.reconciler.peers.get t id = .ok p) :
    Assigned s t (.update now fresh id req) ⟨p.deviceId, s.draftUpdate fresh req p⟩
  | remove {id : Uuid} {p : Peer} (found : s.reconciler.peers.get t id = .ok p) :
    Assigned s t (.remove id) ⟨p.deviceId, s.draftRemove id p⟩
  | enable {id : Uuid} {p : Peer} (found : s.reconciler.peers.get t id = .ok p)
    (disabled : p.isEnabled = false) : Assigned s t (.enable id) ⟨p.deviceId, s.draftEnable p⟩
  | disable {id : Uuid} {p : Peer} (found : s.reconciler.peers.get t id = .ok p)
    (enabled : p.isEnabled = true) : Assigned s t (.disable id) ⟨p.deviceId, s.draftDisable p⟩

/-- A call about a stored peer has found it. -/
theorem task_stored_eq_ok {id : Uuid} {f : Peer → Option (Task σ)} {job : Option (Task σ)}
    (h : task.stored s t id f = .ok job) :
    ∃ p, s.reconciler.peers.get t id = .ok p ∧ f p = job := by
  unfold task.stored at h
  cases hget : s.reconciler.peers.get t id with
  | error e => rw [hget] at h; cases h
  | ok p =>
    rw [hget] at h
    exact ⟨p, rfl, Except.ok.inj h⟩

theorem assigned {job : Task σ} (h : s.task t c = .ok (some job)) : s.Assigned t c job := by
  cases c with
  | add now draw req =>
    obtain rfl := Option.some.inj (Except.ok.inj h)
    exact .add
  | update now fresh id req =>
    obtain ⟨p, hget, hp⟩ := task_stored_eq_ok h
    obtain rfl := Option.some.inj hp
    exact .update hget
  | remove id =>
    obtain ⟨p, hget, hp⟩ := task_stored_eq_ok h
    obtain rfl := Option.some.inj hp
    exact .remove hget
  | enable id =>
    obtain ⟨p, hget, hp⟩ := task_stored_eq_ok h
    obtain ⟨hd, hjob⟩ := Option.ite_none_left_eq_some.1 hp
    obtain rfl := Option.some.inj hjob
    exact .enable hget (eq_false_of_ne_true hd)
  | disable id =>
    obtain ⟨p, hget, hp⟩ := task_stored_eq_ok h
    obtain ⟨he, hjob⟩ := Option.ite_none_right_eq_some.1 hp
    obtain rfl := Option.some.inj hjob
    exact .disable hget he

/-! ## Every draft is an edit -/

theorem bind_mapError_eq_ok {ε ε' α β : Type} {wrap : ε' → ε} {r : Except ε' α}
    {f : α → Except ε β} {b : β} :
    (r.mapError wrap >>= f) = .ok b ↔ ∃ a, r = .ok a ∧ f a = .ok b := by
  cases r with
  | error e => simp [Except.mapError, bind, Except.bind]
  | ok a => simp [Except.mapError, bind, Except.bind]

theorem pool_of_getPool {pool : AddressPool} (h : m.getPool = .ok pool) : m.pool = some pool := by
  unfold ManagedDevice.getPool at h
  cases hp : m.pool with
  | none => simp [hp] at h
  | some p => simpa [hp] using h

theorem change_of_toChange {p : Peer} {change : PeerChange} (h : p.toChange = .ok change) :
    ∃ networks, p.allowedNetworks = .ok networks ∧ change = p.changeFor networks := by
  unfold Peer.toChange at h
  cases hnet : p.allowedNetworks with
  | error e => rw [hnet] at h; cases h
  | ok networks =>
    rw [hnet] at h
    exact ⟨networks, rfl, (Except.ok.inj h).symm⟩

theorem edit_add {now : Timestamp} {draw : PeerDraw} {req : AddPeer}
    (h : s.draftAdd draw req m = .ok d) : s.Edit t m (.add now draw req) d := by
  obtain ⟨_, hvalid, h⟩ := bind_mapError_eq_ok.1 h
  obtain ⟨address, haddress, h⟩ := bind_mapError_eq_ok.1 h
  obtain ⟨change, hchange, h⟩ := bind_mapError_eq_ok.1 h
  obtain rfl := Except.ok.inj h
  obtain ⟨networks, hnet, rfl⟩ := change_of_toChange (p := newPeer s draw req m address) hchange
  exact .add haddress hvalid hnet

section Stored

variable {id : Uuid} {p : Peer} (hget : s.reconciler.peers.get t id = .ok p)
include hget

theorem edit_update {now : Timestamp} {fresh : Key} {req : UpdatePeer}
    (h : s.draftUpdate fresh req p m = .ok d) : s.Edit t m (.update now fresh id req) d := by
  obtain ⟨_, hvalid, h⟩ := bind_mapError_eq_ok.1 h
  obtain ⟨networks, hnet, h⟩ := bind_mapError_eq_ok.1 h
  obtain rfl := Except.ok.inj h
  exact .update hget hvalid hnet

theorem edit_remove (h : s.draftRemove id p m = .ok d) : s.Edit t m (.remove id) d := by
  obtain ⟨pool, hpool, h⟩ := bind_mapError_eq_ok.1 h
  obtain ⟨ips, hips, h⟩ := bind_mapError_eq_ok.1 h
  obtain rfl := Except.ok.inj h
  exact .remove hget (pool_of_getPool hpool) hips

theorem edit_enable (hd : p.isEnabled = false) (h : s.draftEnable p m = .ok d) :
    s.Edit t m (.enable id) d := by
  obtain ⟨pool, hpool, h⟩ := bind_mapError_eq_ok.1 h
  obtain ⟨networks, hnet, h⟩ := bind_mapError_eq_ok.1 h
  obtain ⟨newly, hnewly, h⟩ := bind_mapError_eq_ok.1 h
  obtain rfl := Except.ok.inj h
  exact .enable hget hd (pool_of_getPool hpool) hnet (Prod.ext hnewly rfl)

theorem edit_disable (he : p.isEnabled = true) (h : s.draftDisable p m = .ok d) :
    s.Edit t m (.disable id) d := by
  obtain ⟨pool, -, h⟩ := bind_mapError_eq_ok.1 h
  obtain rfl := Except.ok.inj h
  exact .disable hget he

end Stored

/-- The call is about a peer of the device `id`, as far as its peer is stored. -/
def Concerns (s : PeerService κ σ δ) (w : World κ σ δ) (c : PeerCall) (id : Uuid) : Prop :=
  match c with
  | .add _ _ req => req.deviceId = id
  | .update _ _ peer _ | .remove peer | .enable peer | .disable peer =>
    ∃ p, s.reconciler.peers.get w.peers peer = .ok p ∧ p.deviceId = id

theorem concerns_of_task {job : Task σ} (h : s.task w.peers c = .ok (some job)) :
    s.Concerns w c job.device := by
  cases assigned h with
  | add => rfl
  | update found | remove found | enable found | disable found => exact ⟨_, found, rfl⟩

theorem edit {job : Task σ} (htask : s.task t c = .ok (some job)) (hd : job.draft m = .ok d) :
    s.Edit t m c d := by
  cases assigned htask with
  | add => exact edit_add hd
  | update found => exact edit_update found hd
  | remove found => exact edit_remove found hd
  | enable found disabled => exact edit_enable found disabled hd
  | disable found enabled => exact edit_disable found enabled hd

/-- A call registers the device that it found, with another pool at most. -/
theorem Edit.device (h : s.Edit t m c d) : d.taken.device = m.device := by
  cases h with
  | add => exact device_allocate m _
  | update | remove | enable | disable => rfl

end PeerService

end TunnelKeeper
