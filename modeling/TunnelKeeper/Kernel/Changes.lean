import TunnelKeeper.Kernel.Snapshot

/-!
What a change to a peer means. Changes are made one after another; each concerns the first peer with
its key.
-/

namespace TunnelKeeper

namespace PeerChange

/-- The preshared key of a peer that had `old`. -/
def presharedKeyAfter (c : PeerChange) (old : Option Key) : Option Key :=
  match c.presharedKey with
  | none => old
  | some k => if k.isZero then none else some k

def applyTo (c : PeerChange) (p : KernelPeer) : KernelPeer :=
  { p with
    presharedKey := c.presharedKeyAfter p.presharedKey
    endpoint := c.endpoint.or p.endpoint
    keepalive := c.keepalive.getD p.keepalive
    allowedIps := if c.replaceAllowedIps then c.allowedIps else p.allowedIps ++ c.allowedIps }

/-- The peers of an interface after the change. -/
def apply (c : PeerChange) : List KernelPeer → List KernelPeer
  | [] => if c.remove || c.updateOnly then [] else [c.applyTo (KernelPeer.new c.publicKey)]
  | p :: ps =>
    if p.publicKey = c.publicKey then if c.remove then ps else c.applyTo p :: ps
    else p :: c.apply ps

/-- The peers of an interface after all the changes, in order. -/
def applyAll (changes : List PeerChange) (peers : List KernelPeer) : List KernelPeer :=
  changes.foldl (fun ps c => c.apply ps) peers

@[simp] theorem applyAll_nil (peers : List KernelPeer) : applyAll [] peers = peers := rfl

@[simp] theorem applyAll_cons (c : PeerChange) (cs : List PeerChange) (peers : List KernelPeer) :
    applyAll (c :: cs) peers = applyAll cs (c.apply peers) := rfl

@[simp] theorem publicKey_applyTo (c : PeerChange) (p : KernelPeer) :
    (c.applyTo p).publicKey = p.publicKey := rfl

end PeerChange

end TunnelKeeper
