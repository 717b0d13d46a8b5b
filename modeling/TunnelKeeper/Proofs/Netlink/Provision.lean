import TunnelKeeper.Proofs.InMemory
import TunnelKeeper.Proofs.Netlink.Steps

/-!
# What provisioning makes of an interface

Provisioning first sees to it that there is a tunnel (`LinkTable.ensured`), and then gives it its
settings, its address and its state, which is one change of the links with its name
(`yields_settle`). So it leaves a table that depends on the table before and on the settings alone,
also on a kernel with failing steps, provided it succeeds (`provision_ok`). Made again, the change
makes no difference (`provisioned_provisioned`). A mark of zero is not sent: a tunnel that was there
keeps its mark.
-/

namespace TunnelKeeper

/-! ## The tunnel is there -/

namespace LinkTable

variable {t : LinkTable} {name : String} {l : Link}

/-- The links with one of this name, which is a new tunnel unless the name is taken. -/
def ensured (t : LinkTable) (name : String) : LinkTable := (t.add? name Link.tunnelKind).getD t

theorem ensured_of_find? (h : t.find? name = some l) : t.ensured name = t := by
  rw [ensured, add?, h, Option.getD_none]

theorem ensured_of_none (h : t.find? name = none) :
    t.ensured name = ⟨t.links ++ [.new t.next name Link.tunnelKind], t.next + 1⟩ := by
  rw [ensured, add?, h, Option.getD_some]

theorem find?_ensured (t : LinkTable) (name : String) : (t.ensured name).find? name
    = some ((t.find? name).getD (.new t.next name Link.tunnelKind)) := by
  cases h : t.find? name with
  | some l => rw [ensured_of_find? h, h, Option.getD_some]
  | none =>
    have hlinks : t.links.find? (fun l : Link => l.name = name) = none := h
    rw [ensured_of_none h, find?, List.find?_append, hlinks]
    simp [Link.new]

/-- Links with other names stay as they are. -/
theorem others_ensured (t : LinkTable) (name : String) :
    (t.ensured name).links.filter (fun l => l.name ≠ name)
      = t.links.filter fun l => l.name ≠ name := by
  cases h : t.find? name with
  | some l => rw [ensured_of_find? h]
  | none => simp [ensured_of_none h, Link.new]

theorem Sound.ensured (h : t.Sound) (name : String) : (t.ensured name).Sound := by
  unfold LinkTable.ensured
  cases hadd : t.add? name Link.tunnelKind with
  | none => exact h
  | some t' => exact h.add? hadd

end LinkTable

/-! ## The settings of a link -/

/-- The link with the settings of an interface, its address and its state. -/
def Link.provisioned (settings : InterfaceSettings) (l : Link) : Link :=
  { Netlink.onlyAddress settings.address ((TunnelSetting.ofInterface settings).applyTo l) with
    up := true }

/-- The interface `l` has its settings, where `old` was there before. -/
structure Link.Established (settings : InterfaceSettings) (old : Option Link) (l : Link) : Prop where
  isTunnel : l.isTunnel = true
  /-- It is the same interface, if there was one. -/
  index : ∀ o, old = some o → l.index = o.index
  privateKey : l.privateKey.getD .zero = settings.privateKey
  publicKey : l.publicKey = l.privateKey.map Key.publicKey
  listenPort : l.listenPort = settings.listenPort
  /-- A mark of zero leaves the mark alone, which is zero on a new interface. -/
  firewallMark : l.firewallMark = if settings.firewallMark = 0 then (old.map Link.firewallMark).getD 0
    else settings.firewallMark
  addresses : l.addresses = [settings.address]
  up : l.up = true
  peers : l.peers = (old.map Link.peers).getD []

theorem Key.getD_unlessZero (k : Key) : k.unlessZero.getD .zero = k := by
  unfold Key.unlessZero
  split
  · rename_i h
    exact (Key.isZero_iff.1 h).symm
  · rfl

namespace Link

variable {settings : InterfaceSettings}

theorem provisioned_provisioned (settings : InterfaceSettings) (l : Link) :
    (l.provisioned settings).provisioned settings = l.provisioned settings := by
  by_cases hmark : settings.firewallMark = 0 <;>
    simp [provisioned, Netlink.onlyAddress, TunnelSetting.ofInterface, TunnelSetting.applyTo, hmark]

theorem firewallMark_provisioned (settings : InterfaceSettings) (l : Link) :
    (l.provisioned settings).firewallMark
      = if settings.firewallMark = 0 then l.firewallMark else settings.firewallMark := by
  by_cases hmark : settings.firewallMark = 0 <;>
    simp [provisioned, Netlink.onlyAddress, TunnelSetting.ofInterface, TunnelSetting.applyTo, hmark]

theorem publicKey_provisioned (settings : InterfaceSettings) (l : Link) :
    (l.provisioned settings).publicKey = (l.provisioned settings).privateKey.map Key.publicKey := rfl

/-- A tunnel is established by its settings, a new one where there was none. -/
theorem established_provisioned {old : Option Link} {index : Nat} {name : String}
    (h : (old.getD (.new index name tunnelKind)).isTunnel = true) :
    Established settings old ((old.getD (.new index name tunnelKind)).provisioned settings) where
  isTunnel := h
  index := by
    rintro o rfl
    rfl
  privateKey := Key.getD_unlessZero settings.privateKey
  publicKey := publicKey_provisioned settings _
  listenPort := rfl
  firewallMark := by
    rw [firewallMark_provisioned]
    cases old <;> rfl
  addresses := rfl
  up := rfl
  peers := by cases old <;> rfl

end Link

namespace Netlink

variable {k k' : Kernel} {t : LinkTable} {name : String} {l : Link} {settings : InterfaceSettings}

/-! ## Provisioning -/

/-- A tunnel is found where there is one, and made where its name is free. -/
theorem yields_ensureTunnel (h : ∀ l, t.find? name = some l → l.isTunnel = true) :
    Yields (ensureTunnel name) t () (t.ensured name) := by
  refine (yields_tunnelExists t name).bind ?_
  cases hfind : t.find? name with
  | some l =>
    rw [if_pos (listsTunnel_of_tunnel? (LinkTable.tunnel?_eq_some.2 ⟨hfind, h l hfind⟩)),
      LinkTable.ensured_of_find? hfind]
    exact .pure () t
  | none =>
    have hunlisted : listsTunnel t name ≠ true := by
      rw [Ne, listsTunnel_iff]
      rintro ⟨l, hl, -, hname⟩
      exact List.find?_eq_none.1 hfind l hl (decide_eq_true hname)
    rw [if_neg hunlisted]
    refine (yields_openSocket _ t).bind (yields_send ?_)
    rw [LinkTable.ensured, LinkTable.add?_eq_some.2 ⟨hfind, rfl⟩, Option.map_some, Option.getD_some]

/-- What was found or made is a tunnel. -/
theorem tunnel?_ensured (h : ∀ l, t.find? name = some l → l.isTunnel = true) :
    ∃ l, (t.ensured name).tunnel? name = some l := by
  refine ⟨_, LinkTable.tunnel?_eq_some.2 ⟨LinkTable.find?_ensured t name, ?_⟩⟩
  cases hfind : t.find? name with
  | some l => exact h l hfind
  | none => simp [Link.isTunnel, Link.new]

/-- Where a tunnel was found or made, it is there. -/
theorem ensureTunnel_ok (ht : k.table.Sound) (h : ensureTunnel name k = (.ok (), k')) :
    k'.table = k.table.ensured name ∧ ∃ l, k'.table.tunnel? name = some l := by
  obtain ⟨there, k₁, hthere, hmade⟩ := Attempt.bind_eq_ok.1 h
  obtain ⟨htable, hlists⟩ := tunnelExists_ok hthere
  cases there with
  | true =>
    obtain ⟨-, rfl⟩ := Attempt.pure_eq_ok.1 hmade
    obtain ⟨l, hl⟩ := exists_tunnel?_of_listsTunnel ht (hlists rfl)
    rw [htable]
    exact ⟨(LinkTable.ensured_of_find? (LinkTable.tunnel?_eq_some.1 hl).1).symm, l, hl⟩
  | false =>
    obtain ⟨_, k₂, hopen, hadd⟩ := Attempt.bind_eq_ok.1 hmade
    obtain rfl := openSocket_ok hopen
    obtain ⟨t', heffect, rfl⟩ := send_ok hadd
    obtain ⟨t₁, hnew, heq⟩ := Option.map_eq_some_iff.1 heffect
    obtain ⟨-, rfl⟩ := Prod.mk.inj heq
    rw [htable] at hnew
    have hensured : t₁ = k.table.ensured name := by rw [LinkTable.ensured, hnew, Option.getD_some]
    obtain ⟨hnone, -⟩ := LinkTable.add?_eq_some.1 hnew
    have hfree : ∀ l, k.table.find? name = some l → l.isTunnel = true := by simp [hnone]
    obtain ⟨l, hl⟩ := tunnel?_ensured hfree
    exact ⟨hensured, l, by rw [hensured, hl]⟩

/-- What is done with a tunnel that is there. -/
def settle (name : String) (settings : InterfaceSettings) : Attempt KernelError Kernel Unit := do
  openTunnels
  setTunnel name (.ofInterface settings)
  assignAddress name settings.address
  setUp name

theorem provision_eq (name : String) (settings : InterfaceSettings) :
    gateway.provision name settings = (ensureTunnel name >>= fun _ => settle name settings) := rfl

theorem bold_settle (name : String) (settings : InterfaceSettings) : Bold (settle name settings) :=
  bold_openTunnels.bind fun _ => (bold_send _ _).bind fun _ => (bold_assignAddress _ _).bind fun _ =>
    bold_setUp _

theorem yields_settle (ht : t.Sound) (h : t.tunnel? name = some l) :
    Yields (settle name settings) t ()
      (t.change (·.name = name) (Link.provisioned settings)) := by
  have hl : l.name = name := (LinkTable.mem_of_find? (LinkTable.tunnel?_eq_some.1 h).1).2
  let set := (TunnelSetting.ofInterface settings).applyTo
  let only := onlyAddress settings.address
  have hset : (t.change (·.name = name) set).tunnel? name = some (set l) :=
    LinkTable.tunnel?_change (fun _ => rfl) (fun _ => rfl) (decide_eq_true hl) h
  have hsetSound : (t.change (·.name = name) set).Sound :=
    ht.change _ (fun _ => rfl) fun _ => rfl
  have honly : ((t.change (·.name = name) set).change (·.name = name) only).tunnel? name
      = some (only (set l)) :=
    LinkTable.tunnel?_change (fun _ => rfl) (fun _ => rfl) (decide_eq_true hl) hset
  have honlySound : ((t.change (·.name = name) set).change (·.name = name) only).Sound :=
    hsetSound.change _ (fun _ => rfl) fun _ => rfl
  have hrun : Yields (settle name settings) t () (((t.change (·.name = name) set).change
      (·.name = name) only).change (·.name = name) fun l => { l with up := true }) :=
    (yields_openTunnels t).bind ((yields_setTunnel h _).bind
      ((yields_assignAddress hsetSound (LinkTable.tunnel?_eq_some.1 hset).1 _).bind
        (yields_setUp honlySound (LinkTable.tunnel?_eq_some.1 honly).1)))
  -- The three changes concern the same links.
  rw [LinkTable.change_change (f := set), LinkTable.change_change (f := fun l => only (set l))] at hrun
  · exact hrun
  · exact fun _ hl => hl
  · exact fun _ hl => hl

/-- Success leaves a table that is known beforehand, whichever steps would have failed. -/
theorem provision_ok (ht : k.table.Sound) (h : gateway.provision name settings k = (.ok (), k')) :
    k'.table = (k.table.ensured name).change (·.name = name) (Link.provisioned settings) ∧
      ∃ l, (k.table.ensured name).tunnel? name = some l := by
  rw [provision_eq] at h
  obtain ⟨_, k₁, hensure, hsettle⟩ := Attempt.bind_eq_ok.1 h
  obtain ⟨htable, l, hl⟩ := ensureTunnel_ok ht hensure
  rw [← htable]
  have hsound : k₁.table.Sound := htable ▸ ht.ensured name
  exact ⟨((yields_settle hsound hl).of_ok (bold_settle name settings) rfl hsettle).2, l, hl⟩

/-- Where no step fails, provisioning succeeds unless the name is that of another kind of link. -/
theorem yields_provision (ht : t.Sound) (h : ∀ l, t.find? name = some l → l.isTunnel = true) :
    Yields (gateway.provision name settings) t ()
      ((t.ensured name).change (·.name = name) (Link.provisioned settings)) := by
  obtain ⟨l, hl⟩ := tunnel?_ensured h
  exact (yields_ensureTunnel h).bind (yields_settle (ht.ensured name) hl)

/-- Settings that a tunnel has are given to it without effect. -/
theorem change_provisioned (t : LinkTable) :
    (t.change (·.name = name) (Link.provisioned settings)).change (·.name = name)
      (Link.provisioned settings) = t.change (·.name = name) (Link.provisioned settings) := by
  rw [LinkTable.change_change (f := Link.provisioned settings)]
  · simp only [Link.provisioned_provisioned]
  · exact fun _ hl => hl

/-- Where no step fails, provisioning succeeds if the name is free or a tunnel's. And whenever it
succeeds, the interface is established with its settings, all others are as they were, and doing it
once more makes no difference. -/
theorem provision_establishes (ht : k.table.Sound) (name : String) (settings : InterfaceSettings) :
    (k.failing = [] → (∀ l, k.table.find? name = some l → l.isTunnel = true) →
      ∃ k', gateway.provision name settings k = (.ok (), k')) ∧
    ∀ k', gateway.provision name settings k = (.ok (), k') →
      (∃ l, k'.table.find? name = some l ∧ l.Established settings (k.table.find? name)) ∧
      k'.table.links.filter (fun l => l.name ≠ name)
        = k.table.links.filter (fun l => l.name ≠ name) ∧
      k'.table.Sound ∧
      ∀ k₂, gateway.provision name settings k' = (.ok (), k₂) → k₂.table = k'.table := by
  refine ⟨fun hcalm htunnel => ?_, fun k' h => ?_⟩
  · obtain ⟨k', hrun, -⟩ := (yields_provision ht htunnel).run ⟨hcalm, rfl⟩
    exact ⟨k', hrun⟩
  · obtain ⟨htable, l, hl⟩ := provision_ok ht h
    obtain ⟨hfind, hkind⟩ := LinkTable.tunnel?_eq_some.1 hl
    have hsound : k'.table.Sound := by
      have hkeeps := keepsSound_provision name settings k ht
      rwa [h] at hkeeps
    have hthere : k'.table.find? name = some (l.provisioned settings) := by
      have hname : l.name = name := (LinkTable.mem_of_find? hfind).2
      rw [htable, LinkTable.find?_change (f := Link.provisioned settings) fun _ => rfl, hfind,
        Option.map_some, if_pos (decide_eq_true hname)]
    refine ⟨⟨_, hthere, ?_⟩, ?_, hsound, fun k₂ hagain => ?_⟩
    · rw [LinkTable.find?_ensured] at hfind
      obtain rfl := Option.some.inj hfind
      exact Link.established_provisioned hkind
    · rw [htable, LinkTable.others_change (f := Link.provisioned settings) fun _ => rfl,
        LinkTable.others_ensured]
    · rw [(provision_ok hsound hagain).1, LinkTable.ensured_of_find? hthere, htable,
        change_provisioned]

end Netlink

/-! ## An interface that was in use -/

namespace Sample

open Netlink

/-- An interface that is up, with a key, a mark, two addresses and a peer, next to a link of another
kind. -/
def usedLinks : LinkTable where
  links :=
    [{ Link.new 1 "eth0" "dummy" with addresses := [⟨.v4 192 168 0 7, 24, by decide⟩] },
     { Link.new 2 "wg0" Link.tunnelKind with
        up := true
        addresses := [⟨ip 9, 24, by decide⟩, ⟨ip 8, 32, by decide⟩]
        privateKey := some (key 1)
        publicKey := some (key 2)
        listenPort := 4500
        firewallMark := 9
        peers := [LinkPeer.new (key 3)] }]
  next := 3

theorem sound_usedLinks : usedLinks.Sound :=
  ⟨by decide +kernel, by decide +kernel, by decide +kernel⟩

/-- Settings with the mark `mark`. -/
def settingsOf (mark : UInt32) : InterfaceSettings := ⟨key 4, 51820, mark, ⟨ip 1, 24, by decide⟩⟩

theorem provision_establishes_used :
    ∃ k', gateway.provision "wg0" (settingsOf 5) (.ofTable usedLinks) = (.ok (), k') ∧
      (∃ l, k'.table.find? "wg0" = some l ∧
        l.Established (settingsOf 5) (usedLinks.find? "wg0")) ∧
      k'.table.links.filter (fun l => l.name ≠ "wg0")
        = usedLinks.links.filter (fun l => l.name ≠ "wg0") ∧
      k'.table.Sound ∧
      ∀ k₂, gateway.provision "wg0" (settingsOf 5) k' = (.ok (), k₂) → k₂.table = k'.table := by
  have hall := provision_establishes (k := .ofTable usedLinks) sound_usedLinks "wg0" (settingsOf 5)
  have htunnel : ∀ l, usedLinks.find? "wg0" = some l → l.isTunnel = true := by
    intro l hl
    rw [← Option.some.inj hl]
    rfl
  obtain ⟨k', hrun⟩ := hall.1 rfl htunnel
  exact ⟨k', hrun, hall.2 k' hrun⟩

/-- Settings without a mark leave the mark of the interface. -/
theorem mark_stays :
    (settingsOf 0).firewallMark = 0 ∧ usedLinks.Sound ∧
      ∃ k' l, gateway.provision "wg0" (settingsOf 0) (.ofTable usedLinks) = (.ok (), k') ∧
        k'.table.find? "wg0" = some l ∧ l.firewallMark = 9 := by
  have hrun : gateway.provision "wg0" (settingsOf 0) (.ofTable usedLinks) = (.ok (), _) :=
    Attempt.run_eq (by rfl)
  exact ⟨rfl, sound_usedLinks, _, _, hrun, rfl, rfl⟩

end Sample

end TunnelKeeper
