import TunnelKeeper.Attempt
import TunnelKeeper.Device.Basic
import TunnelKeeper.Peer.Row
import TunnelKeeper.Store.Sort
import TunnelKeeper.Text.Search

/-!
Stores of peers and devices: what they can be asked, and how they page and search what they list. A
store is known by its operations on a state; the library's own stores are in the neighbouring
modules.
-/

namespace TunnelKeeper

inductive StoreError
  | peerNotFound (id : Uuid)
  | deviceNotFound (id : Uuid)
  /-- There is a record with this identifier. -/
  | duplicateId (id : Uuid)
  /-- There is a device with this name. -/
  | duplicateName (name : String)
  | corrupt (error : PeerError)
  /-- What the store writes to or reads from failed. -/
  | backend (reason : String)
  deriving DecidableEq

namespace StoreError

def message : StoreError → String
  | .peerNotFound id => "peer " ++ id.text ++ " not found"
  | .deviceNotFound id => "device " ++ id.text ++ " not found"
  | .duplicateId id => "record " ++ id.text ++ " already exists"
  | .duplicateName name => "device name " ++ name ++ " already taken"
  | .corrupt e => "stored peer is unreadable: " ++ e.message
  | .backend reason => "storage backend error: " ++ reason

/-- Whether the error is that there is no such record. -/
def isNotFound : StoreError → Bool
  | .peerNotFound _ => true
  | .deviceNotFound _ => true
  | _ => false

end StoreError

/-! ## Pages -/

/-- One page of a listing. -/
structure Page (α : Type) where
  items : List α
  /-- The number of items on all pages. -/
  total : Nat
  /-- Whether there are items after the page. -/
  hasNext : Bool
  deriving DecidableEq

namespace Page

variable {α β : Type}

/-- The page with every item changed. -/
def map (f : α → β) (p : Page α) : Page β := ⟨p.items.map f, p.total, p.hasNext⟩

/-- The page of at most `limit` items after the first `skip`; a limit of zero is none. -/
def ofList (items : List α) (skip limit : Nat) : Page α :=
  let page := if limit = 0 then items.drop skip else (items.drop skip).take limit
  ⟨page, items.length, skip + page.length < items.length⟩

end Page

/-- What to list of the peers. -/
structure PeerQuery where
  /-- The number of peers before the page. -/
  skip : Nat
  /-- The greatest number of peers on the page, zero for no limit. -/
  limit : Nat
  search : Option String
  device : Option Uuid
  deriving DecidableEq

namespace PeerQuery

def all : PeerQuery := ⟨0, 0, none, none⟩

def ofDevice (id : Uuid) : PeerQuery := { all with device := some id }

end PeerQuery

/-- What to list of the devices. -/
structure DeviceQuery where
  /-- The number of devices before the page. -/
  skip : Nat
  /-- The greatest number of devices on the page, zero for no limit. -/
  limit : Nat
  search : Option String
  deriving DecidableEq

def DeviceQuery.all : DeviceQuery := ⟨0, 0, none⟩

/-! ## Listings of peers -/

namespace PeerRow

def isOf (device : Option Uuid) (r : PeerRow) : Bool := device.all fun id => r.deviceId = id.text

def fits (q : PeerQuery) (r : PeerRow) : Bool :=
  r.isOf q.device && Text.matchesSearch q.search [r.name, r.description, r.email]

/-- The order of rows in a listing: by name, then by identifier. -/
def before (a b : PeerRow) : Bool := a.name < b.name || (a.name = b.name && a.id ≤ b.id)

/-- The peers of rows. The first row that cannot be read is the error. -/
def toPeers : List PeerRow → Except PeerError (List Peer)
  | [] => .ok []
  | r :: rest =>
    match r.toPeer with
    | .error e => .error e
    | .ok p =>
      match toPeers rest with
      | .error e => .error e
      | .ok ps => .ok (p :: ps)

/-- The page of rows that the query asks for. -/
def page (q : PeerQuery) (rows : List PeerRow) : Page PeerRow :=
  .ofList (sortBy before (rows.filter (fits q))) q.skip q.limit

/-- The page of peers that the query asks for. Only the rows of the page are read. -/
def select (q : PeerQuery) (rows : List PeerRow) : Except StoreError (Page Peer) :=
  let page := page q rows
  match toPeers page.items with
  | .ok peers => .ok ⟨peers, page.total, page.hasNext⟩
  | .error e => .error (.corrupt e)

/-- The number of rows that belong to a device, or of all. -/
def count (device : Option Uuid) (rows : List PeerRow) : Nat := (rows.filter (isOf device)).length

end PeerRow

/-! ## Stores -/

/-- A store of peers with states in `σ`. -/
structure PeerStore (σ : Type) where
  add : Peer → Attempt StoreError σ Unit
  /-- Stores a peer in place of the one with its identifier. -/
  update : Peer → Attempt StoreError σ Unit
  remove : Uuid → Attempt StoreError σ Unit
  get : σ → Uuid → Except StoreError Peer
  list : σ → PeerQuery → Except StoreError (Page Peer)
  /-- The number of peers of a device, or of all. -/
  count : σ → Option Uuid → Except StoreError Nat

/-- A store of devices with states in `δ`. -/
structure DeviceStore (δ : Type) where
  add : Device → Attempt StoreError δ Unit
  /-- Stores a device in place of the one with its identifier. -/
  update : Device → Attempt StoreError δ Unit
  remove : Uuid → Attempt StoreError δ Unit
  get : δ → Uuid → Except StoreError Device
  list : δ → DeviceQuery → Except StoreError (Page Device)

end TunnelKeeper
