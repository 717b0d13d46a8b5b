import TunnelKeeper.Proofs.Kernel.Faithful

/-!
# Kernels that stand still while they are read

A gateway is `Steady` if reading an interface changes no answer to later readings, and is noted. The
kernel in memory is steady, whatever it has been told to refuse.
-/

namespace TunnelKeeper

variable {κ : Type}

/-- Reading changes no answer to later readings, and `reads` gives the interfaces that were read, in
order and as often as they were. -/
structure Gateway.Steady (g : Gateway κ) (reads : κ → List String) : Prop where
  still : ∀ name other k, (g.read other (g.read name k).2).1 = (g.read other k).1
  noted : ∀ name k, reads (g.read name k).2 = reads k ++ [name]

/-- The kernel after interfaces were read. -/
def Gateway.readAll (g : Gateway κ) (names : List String) (k : κ) : κ :=
  names.foldl (fun k name => (g.read name k).2) k

namespace Gateway.Steady

variable {g : Gateway κ} {reads : κ → List String}

theorem reads_readAll (h : g.Steady reads) (names : List String) (k : κ) :
    reads (g.readAll names k) = reads k ++ names := by
  induction names generalizing k with
  | nil => rw [List.append_nil]; rfl
  | cons name names ih =>
    refine (ih (g.read name k).2).trans ?_
    rw [h.noted, List.append_assoc, List.singleton_append]

end Gateway.Steady

namespace MemoryKernel

/-- The interfaces that were read, also where that was refused. -/
def reads (k : MemoryKernel) : List String :=
  (k.calls.filter fun c => c.request.operation = .read).map KernelCall.device

theorem faults_call {α : Type} (device : String) (request : KernelRequest)
    (effect : KernelTable → Except KernelError α × KernelTable) (k : MemoryKernel) :
    (call device request effect k).2.faults = k.faults := by
  unfold call
  cases k.fault? request.operation device with
  | some f => rfl
  | none => rfl

/-- What a reading gives goes by the table and the orders to refuse. -/
theorem read_congr {k k' : MemoryKernel} (htable : k.table = k'.table) (hfaults : k.faults = k'.faults)
    (name : String) : (gateway.read name k).1 = (gateway.read name k').1 := by
  have hfault : k.fault? KernelRequest.read.operation name
      = k'.fault? KernelRequest.read.operation name := by
    rw [fault?, fault?, hfaults]
  simp only [gateway, call, hfault, htable]
  cases k'.fault? KernelRequest.read.operation name with
  | some f => rfl
  | none => rfl

theorem steady : Gateway.Steady gateway reads where
  still name other k := by
    have hfaults : (gateway.read name k).2.faults = k.faults := faults_call name .read _ k
    exact read_congr (table_of_read rfl).1 hfaults other
  noted name k := by
    have hcalls : (gateway.read name k).2.calls = k.calls ++ [⟨.read, name, _⟩] :=
      calls_call name .read _ k
    rw [reads, hcalls, List.filter_append, List.map_append]
    rfl

end MemoryKernel

end TunnelKeeper
