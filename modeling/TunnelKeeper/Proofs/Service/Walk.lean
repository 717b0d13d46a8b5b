import TunnelKeeper.Proofs.Service.Course
import TunnelKeeper.Proofs.Service.Run
import TunnelKeeper.Proofs.Store.Paging

/-!
# Walking the pages of a listing

A look at the live states of devices never fails (`snapshots_apply`), so a listing that asks for at
most `maxPageLimit` peers succeeds whatever the kernel says, leaves the stored peers, and gives a page of
the peers that it asks for (`list_shown`). Whoever asks for page after page, each after the peers of the
one before, until there is no next page, comes to an end and has been given these peers, each once and
in order (`walk_visits_all`).
-/

namespace TunnelKeeper

/-- The peer less what is reported about it. -/
def Peer.configured (p : Peer) : Peer := { p with status := .unknown }

namespace PeerService

variable {κ σ δ : Type} (s : PeerService κ σ δ)

/-! ## Looking at devices -/

/-- The live state of a device, if the device can be found and its state be read. -/
def look (id : Uuid) (w : World κ σ δ) : Option Snapshot × World κ σ δ :=
  match s.device id w with
  | (.ok m, v) =>
    ((s.reconciler.gateway.read m.device.name v.kernel).1.toOption,
      { v with kernel := (s.reconciler.gateway.read m.device.name v.kernel).2 })
  | (.error _, v) => (none, v)

/-- The live states of devices, looked at one after the other. -/
def looks : List Uuid → World κ σ δ → List (Uuid × Option Snapshot) × World κ σ δ
  | [], w => ([], w)
  | id :: ids, w =>
    ((id, (s.look id w).1) :: (looks ids (s.look id w).2).1, (looks ids (s.look id w).2).2)

variable {s} {ps : List Peer} {q : PeerQuery} {w w' : World κ σ δ}

theorem snapshot?_apply (d : Device) (w : World κ σ δ) :
    s.snapshot? d w = (.ok (s.reconciler.gateway.read d.name w.kernel).1.toOption,
      { w with kernel := (s.reconciler.gateway.read d.name w.kernel).2 }) := by
  simp only [snapshot?, Attempt.bind_apply, Attempt.capture_apply, Reconciler.onKernel_apply,
    Attempt.pure_apply]
  cases (s.reconciler.gateway.read d.name w.kernel).1 with
  | error e => rfl
  | ok t => rfl

/-- A look at the live states of devices never fails. -/
theorem snapshots_apply (ids : List Uuid) (w : World κ σ δ) :
    s.snapshots ids w = (.ok (s.looks ids w).1, (s.looks ids w).2) := by
  induction ids generalizing w with
  | nil => rfl
  | cons id ids ih =>
    simp only [snapshots, looks, look, Attempt.bind_apply, Attempt.capture_apply]
    rcases s.device id w with ⟨e | m, v⟩
    · simp only [Attempt.bind_apply, Attempt.pure_apply, ih]
    · simp only [Attempt.bind_apply, snapshot?_apply, Attempt.pure_apply, ih]

theorem peers_device (id : Uuid) (w : World κ σ δ) : (s.device id w).2.peers = w.peers :=
  (Reconciler.preserves_device_of (I := fun v => v.peers = w.peers)
    (fun id v hv => (Reconciler.peers_syncDevice _ id v).trans hv) id).mapError _ w rfl

theorem peers_looks (ids : List Uuid) (w : World κ σ δ) : (s.looks ids w).2.peers = w.peers := by
  have hlook : ∀ id (w : World κ σ δ), (s.look id w).2.peers = w.peers := by
    intro id w
    have hdevice := peers_device (s := s) id w
    unfold look
    split
    · rename_i h
      rwa [h] at hdevice
    · rename_i h
      rwa [h] at hdevice
  induction ids generalizing w with
  | nil => rfl
  | cons id ids ih => exact (ih _).trans (hlook id w)

/-! ## One page -/

/-- The greatest number of peers on a page for which `limit` is asked. -/
def pageSize (limit : Nat) : Nat := if limit = 0 then defaultPageLimit else limit

theorem pageSize_ne_zero (limit : Nat) : pageSize limit ≠ 0 := by
  unfold pageSize defaultPageLimit
  split
  · decide
  · assumption

theorem pageLimit_of_le {limit : Nat} (h : limit ≤ maxPageLimit) :
    pageLimit limit = .ok (pageSize limit) := by
  rw [pageLimit, if_pos h]
  rfl

/-- A peer of a listing, with what the live states tell of it if it is enabled. -/
def listed (now : Timestamp) (snapshots : List (Uuid × Option Snapshot)) (p : Peer) : Peer :=
  if p.isEnabled then overlaid now ((snapshots.lookup p.deviceId).bind fun t => t) p else p

/-- A listing adds to a peer what is reported, if anything. -/
theorem exists_listed (now : Timestamp) (snapshots : List (Uuid × Option Snapshot)) (p : Peer) :
    ∃ status, listed now snapshots p = { p with status } := by
  unfold listed overlaid
  split
  · split
    · exact ⟨_, rfl⟩
    · exact ⟨p.status, rfl⟩
  · exact ⟨p.status, rfl⟩

/-- The page that a query asks for, with the peers as they are stored. -/
def storedPage (q : PeerQuery) (ps : List Peer) : Page Peer :=
  .ofList (q.arrange ps) q.skip (pageSize q.limit)

theorem configured_storedPage (now : Timestamp) (snapshots : List (Uuid × Option Snapshot)) :
    ((storedPage q ps).map (listed now snapshots)).map Peer.configured = storedPage q ps := by
  rw [storedPage, Page.map_ofList, Page.map_ofList]
  congr 1
  rw [PeerQuery.arrange, List.map_map, List.map_map]
  refine List.map_congr_left fun p _ => ?_
  obtain ⟨status, h⟩ := exists_listed now snapshots p.stored
  rw [Function.comp_apply, Function.comp_apply, h]
  rfl

theorem list_apply {page : Page Peer} (hlimit : q.limit ≤ maxPageLimit)
    (hpage : s.reconciler.peers.list w.peers { q with limit := pageSize q.limit } = .ok page)
    (now : Timestamp) :
    s.list now q w = (.ok (page.map (listed now (s.looks (devicesOf page.items) w).1)),
      (s.looks (devicesOf page.items) w).2) := by
  simp only [list, pageLimit_of_le hlimit, Attempt.bind_apply, Attempt.ofExcept, Attempt.done,
    Reconciler.ask_apply, hpage, Except.mapError, snapshots_apply, Attempt.pure_apply]
  rfl

section Shown

variable (hshows : s.reconciler.peers.Shows w.peers ps) (hlimit : q.limit ≤ maxPageLimit)
include hshows hlimit

/-- A listing gives the page that it asks for, with what a look at the devices of the page tells. -/
theorem list_eq (now : Timestamp) :
    s.list now q w = (.ok ((storedPage q ps).map
        (listed now (s.looks (devicesOf (storedPage q ps).items) w).1)),
      (s.looks (devicesOf (storedPage q ps).items) w).2) :=
  list_apply hlimit ((hshows.list { q with limit := pageSize q.limit }).trans
    (PeerRow.select_arranged _ ps)) now

/-- A listing leaves the stored peers, and what it tells of them is what is stored and more. -/
theorem list_shown (now : Timestamp) :
    ∃ page w', s.list now q w = (.ok page, w') ∧ w'.peers = w.peers ∧
      page.map Peer.configured = .ofList (q.arrange ps) q.skip (pageSize q.limit) :=
  ⟨_, _, list_eq hshows hlimit now, peers_looks _ w, configured_storedPage now _⟩

end Shown

/-! ## Page after page -/

/-- Pages listed one after the other, the first after `skip` peers and each of the others after those
of the one before, until there is no next page. The clock tells when each is asked for. -/
inductive Walk (s : PeerService κ σ δ) (clock : Nat → Timestamp) (q : PeerQuery) :
    Nat → World κ σ δ → List (Page Peer) → Prop
  | last {skip : Nat} {w w' : World κ σ δ} {page : Page Peer}
    (page_ok : s.list (clock skip) { q with skip } w = (.ok page, w'))
    (ends : page.hasNext = false) : Walk s clock q skip w [page]
  | more {skip : Nat} {w w' : World κ σ δ} {page : Page Peer} {pages : List (Page Peer)}
    (page_ok : s.list (clock skip) { q with skip } w = (.ok page, w'))
    (goes_on : page.hasNext = true)
    (rest : Walk s clock q (skip + page.items.length) w' pages) : Walk s clock q skip w (page :: pages)

variable {skip : Nat} {clock : Nat → Timestamp} {pages : List (Page Peer)}

/-- The page after `skip` peers, less what is reported. -/
theorem list_skip (hshows : s.reconciler.peers.Shows w.peers ps) (hlimit : q.limit ≤ maxPageLimit)
    (now : Timestamp) (skip : Nat) :
    ∃ page w', s.list now { q with skip } w = (.ok page, w') ∧ w'.peers = w.peers ∧
      page.map Peer.configured = .ofList (q.arrange ps) skip (pageSize q.limit) :=
  list_shown (q := { q with skip }) hshows hlimit now

theorem list_eq_ok (hshows : s.reconciler.peers.Shows w.peers ps) (hlimit : q.limit ≤ maxPageLimit)
    {now : Timestamp} {page : Page Peer} (h : s.list now { q with skip } w = (.ok page, w')) :
    w'.peers = w.peers ∧
      page.map Peer.configured = .ofList (q.arrange ps) skip (pageSize q.limit) := by
  obtain ⟨page', v, hpage, hpeers, hmap⟩ := list_skip hshows hlimit now skip
  obtain ⟨hok, rfl⟩ := Prod.mk.inj (h.symm.trans hpage)
  obtain rfl := Except.ok.inj hok
  exact ⟨hpeers, hmap⟩

theorem exists_walk (hlimit : q.limit ≤ maxPageLimit) (clock : Nat → Timestamp) {n : Nat}
    (hn : (q.arrange ps).length ≤ skip + n) (hshows : s.reconciler.peers.Shows w.peers ps) :
    ∃ pages, s.Walk clock q skip w pages := by
  induction n generalizing skip w with
  | zero =>
    obtain ⟨page, w', hpage, -, hmap⟩ := list_skip hshows hlimit (clock skip) skip
    obtain ⟨-, -, hnext⟩ := Page.of_map_eq hmap
    refine ⟨_, .last hpage (eq_false_of_ne_true fun h => hnext.1 h ?_)⟩
    exact List.drop_eq_nil_iff.2 (by omega)
  | succ n ih =>
    obtain ⟨page, w', hpage, hpeers, hmap⟩ := list_skip hshows hlimit (clock skip) skip
    obtain ⟨-, -, hnext⟩ := Page.of_map_eq hmap
    by_cases h : page.hasNext = true
    · -- The page is not empty, so less is left after it.
      have hskip : skip + page.items.length < (q.arrange ps).length :=
        Nat.not_le.1 fun hle => hnext.1 h (List.drop_eq_nil_iff.2 hle)
      have hitems : page.items.map Peer.configured ≠ [] := by
        rw [show page.items.map Peer.configured = _ from congrArg Page.items hmap]
        exact Page.items_ne_nil (pageSize_ne_zero _) (by omega)
      have hpos : 0 < page.items.length :=
        List.length_pos_iff.2 fun hnil => hitems (List.map_eq_nil_iff.2 hnil)
      have hshows' : s.reconciler.peers.Shows w'.peers ps := hpeers.symm ▸ hshows
      obtain ⟨pages, hrest⟩ : ∃ pages, s.Walk clock q (skip + page.items.length) w' pages :=
        ih (by omega) hshows'
      exact ⟨_, .more hpage h hrest⟩
    · exact ⟨_, .last hpage (eq_false_of_ne_true h)⟩

/-- The pages of a walk hold what is listed from its first peer on. -/
theorem Walk.items (h : s.Walk clock q skip w pages) (hlimit : q.limit ≤ maxPageLimit)
    (hshows : s.reconciler.peers.Shows w.peers ps) :
    pages.flatMap (fun page => page.items.map Peer.configured) = (q.arrange ps).drop skip ∧
      ∀ page ∈ pages, page.total = (q.arrange ps).length := by
  induction h with
  | last page_ok ends =>
    obtain ⟨hafter, htotal, hnext⟩ := Page.of_map_eq (list_eq_ok hshows hlimit page_ok).2
    have hnone := not_not.1 fun hne => Bool.false_ne_true (ends.symm.trans (hnext.2 hne))
    rw [hnone, List.append_nil] at hafter
    exact ⟨by rw [List.flatMap_singleton, hafter], List.forall_mem_singleton.2 htotal⟩
  | more page_ok goes_on rest ih =>
    obtain ⟨hpeers, hmap⟩ := list_eq_ok hshows hlimit page_ok
    obtain ⟨hafter, htotal, -⟩ := Page.of_map_eq hmap
    obtain ⟨hitems, htotals⟩ := ih (hpeers.symm ▸ hshows)
    exact ⟨by rw [List.flatMap_cons, hitems, hafter], List.forall_mem_cons.2 ⟨htotal, htotals⟩⟩

/-- The peers that a query asks for stand in one order, by name and then by identifier. Walking the
pages of any size from the first of them ends and gives all of them in this order, each once, with
their number on every page. And wherever a page begins, there is a next page if and only if one of them
comes after it, also where the sum of what comes before is cut off at a bound that they do not
exceed. -/
theorem walk_visits_all (hlimit : q.limit ≤ maxPageLimit)
    (hshows : s.reconciler.peers.Shows w.peers ps) :
    ∃ arranged : List Peer, arranged.Perm ((ps.filter q.wants).map Peer.stored) ∧
      arranged.Pairwise Peer.Precedes ∧
      (∀ clock, (∃ pages, s.Walk clock q 0 w pages) ∧
        ∀ pages, s.Walk clock q 0 w pages →
          pages.flatMap (fun page => page.items.map Peer.configured) = arranged ∧
            ∀ page ∈ pages, page.total = arranged.length) ∧
      ∀ now skip, ∃ page w', s.list now { q with skip } w = (.ok page, w') ∧
        page.items.map Peer.configured = (arranged.drop skip).take (pageSize q.limit) ∧
        page.total = arranged.length ∧
        (page.hasNext = true ↔ arranged.drop (skip + page.items.length) ≠ []) ∧
        ∀ bound, arranged.length ≤ bound →
          (page.hasNext = true ↔ min (skip + page.items.length) bound < arranged.length) := by
  refine ⟨q.arrange ps, q.arrange_perm ps, q.pairwise_arrange hshows.nodup, fun clock => ⟨?_, ?_⟩,
    fun now skip => ?_⟩
  · exact exists_walk hlimit clock (Nat.le_add_left _ 0) hshows
  · exact fun pages h => h.items hlimit hshows
  · obtain ⟨page, w', hpage, -, hmap⟩ := list_skip hshows hlimit now skip
    obtain ⟨-, htotal, hnext⟩ := Page.of_map_eq hmap
    refine ⟨page, w', hpage, ?_, htotal, hnext, fun bound hbound => ?_⟩
    · rw [show page.items.map Peer.configured = _ from congrArg Page.items hmap]
      exact if_neg (pageSize_ne_zero _)
    · rw [hnext, ne_eq, List.drop_eq_nil_iff]
      omega

end PeerService

/-! ## A listing of four pages -/

namespace Sample

open Reconciler PeerService

/-- Six peers, of which one has another device and one does not match the query. -/
def severalPeers : List Peer :=
  [{ peer 3 true ["10.0.0.4/32"] with name := "peer b" },
    { peer 2 false ["10.0.0.3/32"] with name := "peer a" },
    { peer 4 true [] with deviceId := uuid 9 },
    { peer 1 true ["10.0.0.2/32"] with name := "peer a" },
    { peer 5 true [] with name := "other" },
    { peer 6 true [] with name := "guest", description := "Peer of b" }]

/-- The peers of the device that match, one on a page. -/
def severalQuery : PeerQuery := ⟨0, 1, some " PEER ", some device.id⟩

/-- The device, not registered yet, with an interface that has one of the peers. -/
def severalWorld : World MemoryKernel MemoryPeers MemoryDevices :=
  memoryWorld (interface [kernelPeer 1 [ip 2]]) [device] severalPeers

theorem walk_visits_all_several :
    ((severalPeers.filter severalQuery.wants).map Peer.id = [uuid 3, uuid 2, uuid 1, uuid 6]) ∧
      ∃ arranged : List Peer,
        arranged.Perm ((severalPeers.filter severalQuery.wants).map Peer.stored) ∧
          arranged.Pairwise Peer.Precedes ∧
          (∀ clock, (∃ pages, service.Walk clock severalQuery 0 severalWorld pages) ∧
            ∀ pages, service.Walk clock severalQuery 0 severalWorld pages →
              pages.flatMap (fun page => page.items.map Peer.configured) = arranged ∧
                ∀ page ∈ pages, page.total = arranged.length) ∧
          ∀ now skip, ∃ page w',
            service.list now { severalQuery with skip } severalWorld = (.ok page, w') ∧
              page.items.map Peer.configured = (arranged.drop skip).take (pageSize 1) ∧
              page.total = arranged.length ∧
              (page.hasNext = true ↔ arranged.drop (skip + page.items.length) ≠ []) ∧
              ∀ bound, arranged.length ≤ bound →
                (page.hasNext = true ↔ min (skip + page.items.length) bound < arranged.length) := by
  have hkeeps : MemoryPeers.Keeps severalWorld.peers severalPeers := ⟨.refl _, by decide +kernel⟩
  exact ⟨by decide +kernel, walk_visits_all (s := service) (q := severalQuery) (by decide)
    hkeeps.shows⟩

end Sample

end TunnelKeeper
