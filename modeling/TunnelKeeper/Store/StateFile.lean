import TunnelKeeper.FileEntry
import TunnelKeeper.Json.Reader
import TunnelKeeper.Json.Writer
import TunnelKeeper.Peer.Json
import TunnelKeeper.Store.Basic

/-!
Peers in a state file: a JSON text with all rows, written anew at every change. A change is made on
a copy of the rows, the copy is written beside the file and renamed into its place, and only then
the copy counts; so an operation that fails has changed neither the rows nor the file.
-/

namespace TunnelKeeper

/-! ## The text -/

namespace StateFile

def toJson (rows : List PeerRow) : Json :=
  .ofMembers [("peers", .array (rows.map PeerRow.toJson))]

/-- The text of a state file with these rows. -/
def write (rows : List PeerRow) : String := (toJson rows).text

/-- Reads the JSON form of rows, which may be missing. -/
def ofJson? (j : Json) : Option (List PeerRow) := do
  let m ← j.members? ["peers"]
  m.defaulted? "peers" [] (Json.list? PeerRow.ofJson?)

def read? (text : String) : Option (List PeerRow) := (Json.parse? text).bind ofJson?

end StateFile

/-! ## The place -/

/-- A step of writing a file. -/
inductive SaveStep
  /-- Creating the directory of the file. -/
  | createDirectory
  /-- Writing the text beside the file. -/
  | writeBeside
  /-- Renaming that text into the place of the file. -/
  | rename
  deriving DecidableEq, Repr

/-- The place of a state file. -/
structure FilePlace where
  /-- What is there. -/
  entry : FileEntry
  /-- The text beside it that is not in place yet. -/
  beside : Option String
  /-- The steps of writing that fail. -/
  failing : List SaveStep
  deriving DecidableEq, Repr

namespace FilePlace

/-- A place where every step of writing works. -/
def ofEntry (entry : FileEntry) : FilePlace := ⟨entry, none, []⟩

/-- Writes a text. A text cannot be renamed into the place of a directory. -/
def save (content : String) : Attempt StoreError FilePlace Unit := fun f =>
  if f.failing.contains .createDirectory then (.error (.backend "cannot create the directory"), f)
  else if f.failing.contains .writeBeside then (.error (.backend "cannot write the file"), f)
  else if f.failing.contains .rename || f.entry = .unreadable then
    (.error (.backend "cannot rename the file"), { f with beside := some content })
  else (.ok (), { f with entry := .text content, beside := none })

end FilePlace

/-! ## The store -/

/-- Peers in a state file. -/
structure FilePeers where
  /-- The rows in memory. -/
  rows : List PeerRow
  /-- The place of the file. -/
  place : FilePlace

namespace FilePeers

/-- The rows of what is at a place; none if there is nothing. -/
def rowsOf : FileEntry → Except StoreError (List PeerRow)
  | .absent => .ok []
  | .unreadable => .error (.backend "cannot read the state file")
  | .text content =>
    match StateFile.read? content with
    | some rows => .ok rows
    | none => .error (.backend "the state file is not in its format")

/-- Opens a state file, all of whose rows have to be readable. -/
def openAt (place : FilePlace) : Except StoreError FilePeers :=
  match rowsOf place.entry with
  | .error e => .error e
  | .ok rows =>
    match PeerRow.toPeers rows with
    | .error e => .error (.corrupt e)
    | .ok _ => .ok ⟨rows, place⟩

/-- The position of the row whose identifier is written as `id` is. -/
def position? (rows : List PeerRow) (id : Uuid) : Option Nat :=
  rows.findIdx? fun r => r.id = id.text

/-- Makes a change of the rows, and writes them. -/
def commit (change : List PeerRow → Except StoreError (List PeerRow)) :
    Attempt StoreError FilePeers Unit := fun s =>
  match change s.rows with
  | .error e => (.error e, s)
  | .ok rows =>
    match FilePlace.save (StateFile.write rows) s.place with
    | (.ok (), place) => (.ok (), ⟨rows, place⟩)
    | (.error e, place) => (.error e, { s with place })

/-- The operations on peers in a state file. -/
def store : PeerStore FilePeers where
  add p := commit fun rows =>
    match position? rows p.id with
    | some _ => .error (.duplicateId p.id)
    | none => .ok (rows ++ [p.toRow])
  update p := commit fun rows =>
    match position? rows p.id with
    | some i => .ok (rows.set i p.toRow)
    | none => .error (.peerNotFound p.id)
  remove id := commit fun rows =>
    match position? rows id with
    | some i => .ok (rows.eraseIdx i)
    | none => .error (.peerNotFound id)
  get s id :=
    match s.rows.find? fun r => r.id = id.text with
    | some r => r.toPeer.mapError .corrupt
    | none => .error (.peerNotFound id)
  list s q := PeerRow.select q s.rows
  count s device := .ok (PeerRow.count device s.rows)

end FilePeers

end TunnelKeeper
