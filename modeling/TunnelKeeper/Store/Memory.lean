import TunnelKeeper.Store.Basic

/-!
Stores in memory. Peers are kept in their stored form, so that nothing the kernel reports gets into
the store.
-/

namespace TunnelKeeper

/-- Peers in memory: rows under the identifiers of their peers. -/
structure MemoryPeers where
  entries : List (Uuid × PeerRow)

namespace MemoryPeers

def empty : MemoryPeers := ⟨[]⟩

def rows (s : MemoryPeers) : List PeerRow := s.entries.map Prod.snd

def row? (s : MemoryPeers) (id : Uuid) : Option PeerRow := s.entries.lookup id

/-- The store with `row` under `id` in place of what was there. -/
def replace (s : MemoryPeers) (id : Uuid) (row : PeerRow) : MemoryPeers :=
  ⟨s.entries.map fun e => if e.1 = id then (id, row) else e⟩

def put (s : MemoryPeers) (id : Uuid) (row : PeerRow) : MemoryPeers :=
  if (s.row? id).isSome then s.replace id row else ⟨s.entries ++ [(id, row)]⟩

def erase (s : MemoryPeers) (id : Uuid) : MemoryPeers := ⟨s.entries.filter fun e => e.1 ≠ id⟩

/-- The store of these rows; of two with one identifier, the later. -/
def ofRows : List PeerRow → Except StoreError MemoryPeers :=
  go empty
where
  go (s : MemoryPeers) : List PeerRow → Except StoreError MemoryPeers
    | [] => .ok s
    | r :: rest =>
      match r.toPeer with
      | .error e => .error (.corrupt e)
      | .ok p => go (s.put p.id r) rest

def store : PeerStore MemoryPeers where
  add p s :=
    if (s.row? p.id).isSome then (.error (.duplicateId p.id), s) else (.ok (), s.put p.id p.toRow)
  update p s :=
    if (s.row? p.id).isSome then (.ok (), s.replace p.id p.toRow)
    else (.error (.peerNotFound p.id), s)
  remove id s :=
    if (s.row? id).isSome then (.ok (), s.erase id) else (.error (.peerNotFound id), s)
  get s id :=
    match s.row? id with
    | none => .error (.peerNotFound id)
    | some r => r.toPeer.mapError .corrupt
  list s q := PeerRow.select q s.rows
  count s device := .ok (PeerRow.count device s.rows)

end MemoryPeers

structure MemoryDevices where
  /-- The devices, each identifier once. -/
  devices : List Device

namespace MemoryDevices

def get? (s : MemoryDevices) (id : Uuid) : Option Device := s.devices.find? fun d => d.id = id

/-- The store with `d` in place of the device with its identifier. -/
def replace (s : MemoryDevices) (d : Device) : MemoryDevices :=
  ⟨s.devices.map fun e => if e.id = d.id then d else e⟩

def put (s : MemoryDevices) (d : Device) : MemoryDevices :=
  if (s.get? d.id).isSome then s.replace d else ⟨s.devices ++ [d]⟩

/-- The store of these devices; of two with one identifier, the later. -/
def ofList (devices : List Device) : MemoryDevices := devices.foldl put ⟨[]⟩

/-- The order of devices in a listing: by name, then by identifier. -/
def before (a b : Device) : Bool := a.name < b.name || (a.name = b.name && (compare a.id b.id).isLE)

/-- The page of devices that the query asks for. -/
def select (q : DeviceQuery) (devices : List Device) : Page Device :=
  .ofList
    (sortBy before (devices.filter fun d => Text.matchesSearch q.search [d.name, d.description]))
    q.skip q.limit

/-- The operations on devices in memory. No two devices have one name. -/
def store : DeviceStore MemoryDevices where
  add d s :=
    if (s.get? d.id).isSome then (.error (.duplicateId d.id), s)
    else if s.devices.any fun e => e.name = d.name then (.error (.duplicateName d.name), s)
    else (.ok (), s.put d)
  update d s :=
    if s.devices.any fun e => e.name = d.name && e.id ≠ d.id then
      (.error (.duplicateName d.name), s)
    else if (s.get? d.id).isSome then (.ok (), s.replace d)
    else (.error (.deviceNotFound d.id), s)
  remove id s :=
    if (s.get? id).isSome then (.ok (), ⟨s.devices.filter fun d => d.id ≠ id⟩)
    else (.error (.deviceNotFound id), s)
  get s id :=
    match s.get? id with
    | some d => .ok d
    | none => .error (.deviceNotFound id)
  list s q := .ok (select q s.devices)

end MemoryDevices

end TunnelKeeper
