import TunnelKeeper.Store.Basic

/-!
Stores that can be told to refuse operations. A refused operation has no effect.
-/

namespace TunnelKeeper

/-- A kind of operation on a store. -/
inductive StoreOperation
  | add
  | update
  | remove
  | get
  | list
  | count
  deriving DecidableEq, Repr

/-- A store's state with the operations to refuse, and the reason given. -/
structure Refusing (σ : Type) where
  inner : σ
  refused : List (StoreOperation × String)

namespace Refusing

variable {σ α : Type}

/-- A state of which nothing is refused. -/
def ofInner (inner : σ) : Refusing σ := ⟨inner, []⟩

/-- Orders to refuse an operation, or no longer to refuse it. -/
def setRefused (s : Refusing σ) (operation : StoreOperation) (reason : Option String) :
    Refusing σ :=
  let others := s.refused.filter fun r => r.1 ≠ operation
  { s with refused := (reason.map fun r => (operation, r)).toList ++ others }

/-- Does an operation that changes the state, unless it is refused. -/
def change (operation : StoreOperation) (x : Attempt StoreError σ α) :
    Attempt StoreError (Refusing σ) α := fun s =>
  match s.refused.lookup operation with
  | some reason => (.error (.backend reason), s)
  | none => ((x s.inner).1, { s with inner := (x s.inner).2 })

/-- Does an operation that reads the state, unless it is refused. -/
def query (operation : StoreOperation) (s : Refusing σ) (x : σ → Except StoreError α) :
    Except StoreError α :=
  match s.refused.lookup operation with
  | some reason => .error (.backend reason)
  | none => x s.inner

/-- A store of peers that can be told to refuse. -/
def peers (store : PeerStore σ) : PeerStore (Refusing σ) where
  add p := change .add (store.add p)
  update p := change .update (store.update p)
  remove id := change .remove (store.remove id)
  get s id := query .get s fun s => store.get s id
  list s q := query .list s fun s => store.list s q
  count s device := query .count s fun s => store.count s device

/-- A store of devices that can be told to refuse. -/
def devices (store : DeviceStore σ) : DeviceStore (Refusing σ) where
  add d := change .add (store.add d)
  update d := change .update (store.update d)
  remove id := change .remove (store.remove id)
  get s id := query .get s fun s => store.get s id
  list s q := query .list s fun s => store.list s q

end Refusing

end TunnelKeeper
