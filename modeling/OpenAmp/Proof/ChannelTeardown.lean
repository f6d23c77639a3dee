import OpenAmp.ChannelTeardown
import OpenAmp.Proof.ChannelRendezvous

/-!
# What is left of a device that is taken down

A teardown goes through states of the running system, less the name service of the side that is taken
down. So the other side learns of every endpoint that has gone, as it would of any other.
-/

namespace OpenAmp

/-! ### Without the name service -/

def Rdev.withoutNs (rdev : Rdev) : Rdev :=
  rpmsgUnregisterEndpoint rdev .nsEpt

def ChannelSystem.withoutNs (s : ChannelSystem) (role : Role) : ChannelSystem :=
  { s with rdev := Function.update s.rdev role (s.rdev role).withoutNs }

section WithoutNs

variable {rdev : Rdev} {s s' : ChannelSystem} {role : Role} {i : Nat}

theorem Rdev.withoutNs_ept_user (rdev : Rdev) (i : Nat) :
    rdev.withoutNs.ept (.user i) = rdev.ept (.user i) :=
  rpmsgUnregisterEndpoint_of_ne EptRef.noConfusion

/-- Releasing a reserved address changes nothing. -/
theorem rpmsgUnregisterEndpoint_low {ref : EptRef}
    (haddr : (rdev.ept ref).addr.toNat < RPMSG_RESERVED_ADDRESSES) :
    rpmsgUnregisterEndpoint rdev ref =
      { rdev with endpoints := rdev.endpoints.erase ref }.setEpt ref
        { rdev.ept ref with rdev := false } := by
  unfold rpmsgUnregisterEndpoint
  dsimp only
  rw [rpmsgReleaseAddress_of_not_covered haddr, ite_self]

theorem Rdev.withoutNs_unregister (hns : (rdev.ept .nsEpt).addr = RPMSG_NS_EPT_ADDR) (i : Nat) :
    rpmsgUnregisterEndpoint rdev.withoutNs (.user i) =
      (rpmsgUnregisterEndpoint rdev (.user i)).withoutNs := by
  have hne : EptRef.nsEpt ≠ .user i := EptRef.noConfusion
  have hlow : (rdev.ept .nsEpt).addr.toNat < RPMSG_RESERVED_ADDRESSES := by
    rw [hns]
    decide
  have hlow' : ((rpmsgUnregisterEndpoint rdev (.user i)).ept .nsEpt).addr.toNat <
      RPMSG_RESERVED_ADDRESSES := by
    rw [rpmsgUnregisterEndpoint_of_ne hne]
    exact hlow
  unfold Rdev.withoutNs
  rw [rpmsgUnregisterEndpoint_low hlow', rpmsgUnregisterEndpoint_low hlow]
  simp only [rpmsgUnregisterEndpoint, Rdev.setEpt, Function.update_of_ne hne,
    Function.update_of_ne hne.symm]
  rw [List.erase_comm, Function.update_comm hne.symm]

theorem Rdev.withoutNs_destroy (hns : (rdev.ept .nsEpt).addr = RPMSG_NS_EPT_ADDR) (i : Nat) :
    rpmsgDestroyEpt rdev.withoutNs (some (.user i)) =
      ((rpmsgDestroyEpt rdev (some (.user i))).1.withoutNs,
        (rpmsgDestroyEpt rdev (some (.user i))).2) := by
  have hsupport : rdev.withoutNs.supportNs = rdev.supportNs := rfl
  simp only [rpmsgDestroyEpt, rdev.withoutNs_ept_user, hsupport, Rdev.withoutNs_unregister hns]
  split_ifs
  · rfl
  · rfl
  · rfl

/-- The name service has a reserved address, so that nobody is told of its end. -/
theorem SideInv.destroy_ns {inbox : List Packet} (h : SideInv rdev inbox) :
    rpmsgDestroyEpt rdev (some .nsEpt) = (rdev.withoutNs, none) := by
  have hregistered := (h.inv.registered _).mpr h.nsMem
  have hlow : ¬ (rdev.ept .nsEpt).addr.toNat ≥ RPMSG_RESERVED_ADDRESSES := by
    rw [h.nsAddr]
    decide
  unfold rpmsgDestroyEpt
  dsimp only
  rw [if_neg (by rw [hregistered]; decide), if_neg fun hand => hlow hand.2.2]
  rfl

theorem ChannelSystem.withoutNs_post (s : ChannelSystem) (role : Role) (rdev : Rdev)
    (packet : Option Packet) :
    (s.withoutNs role).post role rdev.withoutNs packet =
      (s.post role rdev packet).withoutNs role := by
  unfold ChannelSystem.withoutNs ChannelSystem.post
  simp only [Function.update_idem, Function.update_self]

theorem ChannelSystem.withoutNs_post_peer (s : ChannelSystem) (role : Role) (rdev : Rdev)
    (packet : Option Packet) :
    (s.withoutNs role).post role.peer rdev packet =
      (s.post role.peer rdev packet).withoutNs role := by
  unfold ChannelSystem.withoutNs ChannelSystem.post
  simp only [Function.update_of_ne role.ne_peer]
  rw [Function.update_comm role.ne_peer]

theorem ChannelSystem.withoutNs_peer (s : ChannelSystem) (role : Role) :
    (s.withoutNs role).rdev role.peer = s.rdev role.peer :=
  Function.update_of_ne role.ne_peer.symm ..

theorem ChannelSystem.withoutNs_receive (s : ChannelSystem) (role : Role) :
    (s.withoutNs role).receive role.peer =
      (s.receive role.peer).map fun s' => s'.withoutNs role := by
  have hinbox : (s.withoutNs role).inbox = s.inbox := rfl
  unfold ChannelSystem.receive
  rw [hinbox, s.withoutNs_peer]
  cases s.inbox role.peer with
  | nil => rfl
  | cons packet rest =>
      dsimp only
      rw [Option.map_some, Option.some_inj]
      unfold ChannelSystem.withoutNs
      simp only [Function.update_of_ne role.ne_peer]
      rw [Function.update_comm role.ne_peer]

/-- What the other side does is the same with the name service and without. -/
theorem ChannelSystem.withoutNs_step {action : ChannelAction} (hrole : action.role = role.peer) :
    (s.withoutNs role).step action = (s.step action).map fun s' => s'.withoutNs role := by
  cases action with
  | create other i name unbindCb =>
      obtain rfl : other = role.peer := hrole
      refine congrArg some ?_
      unfold ChannelSystem.create
      rw [s.withoutNs_peer]
      exact s.withoutNs_post_peer role _ _
  | destroy other i =>
      obtain rfl : other = role.peer := hrole
      refine congrArg some ?_
      unfold ChannelSystem.destroy
      rw [s.withoutNs_peer]
      exact s.withoutNs_post_peer role _ _
  | send other i data =>
      obtain rfl : other = role.peer := hrole
      refine congrArg some ?_
      unfold ChannelSystem.send
      rw [s.withoutNs_peer]
      exact s.withoutNs_post_peer role _ _
  | receive other =>
      obtain rfl : other = role.peer := hrole
      exact s.withoutNs_receive role

theorem ChannelSystem.withoutNs_allowed {action : ChannelAction} (hrole : action.role = role.peer)
    (h : (s.withoutNs role).Allowed action) : s.Allowed action := by
  cases action with
  | create other i name unbindCb =>
      obtain rfl : other = role.peer := hrole
      obtain ⟨hnew, hunused⟩ := h
      rw [s.withoutNs_peer] at hnew hunused
      exact ⟨hnew, hunused⟩
  | destroy other i => trivial
  | send other i data => trivial
  | receive other => trivial

/-- No new endpoint takes the address of the name service. -/
theorem ChannelInv.withoutNs_forgotten (h : ChannelInv s) {action : ChannelAction}
    (hrole : action.role = role.peer) (hforgotten : (s.withoutNs role).TakesForgotten action) :
    s.TakesForgotten action := by
  cases action with
  | create other i name unbindCb =>
      obtain rfl : other = role.peer := hrole
      intro bitmap addr hclaim service hknown
      rw [Role.peer_peer] at hknown
      refine hforgotten bitmap addr (by rw [s.withoutNs_peer]; exact hclaim) service ?_
      rw [Role.peer_peer]
      refine hknown.imp (fun hknows => ?_) id
      have hself : (s.withoutNs role).rdev role = (s.rdev role).withoutNs := Function.update_self ..
      rw [hself]
      cases hknows with
      | bound ref href hdest hany hservice =>
          have hne : ref ≠ .nsEpt := by
            rintro rfl
            have hhigh := rpmsgClaimAddress_any_high hclaim
            rw [← hdest, (h.side role).nsDest] at hhigh
            exact absurd hhigh (by decide)
          refine .bound ref ((List.mem_erase_of_ne hne).mpr href) ?_ hany ?_
          · rw [Rdev.withoutNs, rpmsgUnregisterEndpoint_of_ne hne]
            exact hdest
          · rw [Rdev.withoutNs, rpmsgUnregisterEndpoint_of_ne hne]
            exact hservice
      | data packet hpacket hsrc hservice => exact .data packet hpacket hsrc hservice
      | announced msg hpacket haddr hcreate hservice =>
          exact .announced msg hpacket haddr hcreate hservice
  | destroy other i => trivial
  | send other i data => trivial
  | receive other => trivial

end WithoutNs

/-! ### The states of a teardown -/

/-- A state of the running system, or one without the name service of a side. -/
def TeardownInv (role : Role) (s : ChannelSystem) : Prop :=
  ∃ running, RendezvousInv running ∧ (s = running ∨ s = running.withoutNs role)

section Teardown

variable {rdev : Rdev} {s s' : ChannelSystem} {role : Role} {ref : EptRef}

theorem ChannelSystem.rdev_withoutNs_self (s : ChannelSystem) (role : Role) :
    (s.withoutNs role).rdev role = (s.rdev role).withoutNs :=
  Function.update_self ..

theorem TeardownInv.inv (h : TeardownInv role s) : (s.rdev role).Inv := by
  obtain ⟨running, hrunning, rfl | rfl⟩ := h
  · exact (hrunning.channel.side role).inv
  · rw [running.rdev_withoutNs_self]
    have hside := hrunning.channel.side role
    exact hside.inv.unregister hside.nsMem

theorem ChannelSystem.deinitRound_cases (hstep : s.deinitRound role = some s') :
    ∃ ref ∈ (s.rdev role).endpoints, s' = s.post role (rpmsgDestroyEpt (s.rdev role) (some ref)).1
      ((rpmsgDestroyEpt (s.rdev role) (some ref)).2.map announcement) := by
  unfold ChannelSystem.deinitRound at hstep
  split at hstep
  next => cases hstep
  next ref rest hendpoints =>
    refine ⟨ref, ?_, (Option.some.inj hstep).symm⟩
    rw [hendpoints]
    exact List.mem_cons_self

theorem Rdev.Inv.length_destroy (h : rdev.Inv) (href : ref ∈ rdev.endpoints) :
    (rpmsgDestroyEpt rdev (some ref)).1.endpoints.length + 1 = rdev.endpoints.length := by
  have hregistered := (h.registered ref).mpr href
  have hcall : (rpmsgDestroyEpt rdev (some ref)).1 = rpmsgUnregisterEndpoint rdev ref := by
    unfold rpmsgDestroyEpt
    dsimp only
    rw [if_neg (by rw [hregistered]; decide)]
  rw [hcall, rpmsgUnregisterEndpoint_endpoints, List.length_erase_of_mem href]
  have hpos := List.length_pos_of_mem href
  omega

theorem TeardownInv.round (h : TeardownInv role s) (hstep : s.deinitRound role = some s') :
    TeardownInv role s' := by
  obtain ⟨ref, href, rfl⟩ := ChannelSystem.deinitRound_cases hstep
  obtain ⟨running, hrunning, rfl | rfl⟩ := h
  · have hside := hrunning.channel.side role
    cases ref with
    | nsEpt =>
        refine ⟨s, hrunning, .inr ?_⟩
        rw [hside.destroy_ns, Option.map_none]
        unfold ChannelSystem.post ChannelSystem.withoutNs
        rw [Option.toList_none, List.append_nil, Function.update_eq_self]
    | user i => exact ⟨s.destroy role i, hrunning.destroy i (hrunning.channel.destroy i), .inl rfl⟩
  · have hside := hrunning.channel.side role
    rw [running.rdev_withoutNs_self] at href ⊢
    cases ref with
    | nsEpt =>
        have hgone : EptRef.nsEpt ∉ (running.rdev role).withoutNs.endpoints :=
          hside.inv.nodup.not_mem_erase
        exact absurd href hgone
    | user i =>
        refine ⟨running.destroy role i, hrunning.destroy i (hrunning.channel.destroy i), .inr ?_⟩
        rw [Rdev.withoutNs_destroy hside.nsAddr]
        exact running.withoutNs_post role _ _

theorem TeardownInv.other (h : TeardownInv role s) {action : ChannelAction}
    (hrole : action.role = role.peer) (hallowed : s.Allowed action)
    (hforgotten : s.TakesForgotten action) (hstep : s.step action = some s') :
    TeardownInv role s' := by
  obtain ⟨running, hrunning, rfl | rfl⟩ := h
  · exact ⟨s', hrunning.step hallowed hforgotten hstep, .inl rfl⟩
  · rw [ChannelSystem.withoutNs_step hrole] at hstep
    obtain ⟨next, hnext, rfl⟩ := Option.map_eq_some_iff.mp hstep
    exact ⟨next, hrunning.step (ChannelSystem.withoutNs_allowed hrole hallowed)
      (hrunning.channel.withoutNs_forgotten hrole hforgotten) hnext, .inr rfl⟩

theorem ChannelSystem.rdev_step_peer {action : ChannelAction} (hrole : action.role = role.peer)
    (hstep : s.step action = some s') : s'.rdev role = s.rdev role := by
  have hpost (rdev : Rdev) (packet : Option Packet) :
      (s.post role.peer rdev packet).rdev role = s.rdev role :=
    Function.update_of_ne role.ne_peer ..
  cases action with
  | create other i name unbindCb =>
      obtain rfl : other = role.peer := hrole
      obtain rfl := Option.some.inj hstep
      exact hpost _ _
  | destroy other i =>
      obtain rfl : other = role.peer := hrole
      obtain rfl := Option.some.inj hstep
      exact hpost _ _
  | send other i data =>
      obtain rfl : other = role.peer := hrole
      obtain rfl := Option.some.inj hstep
      exact hpost _ _
  | receive other =>
      obtain rfl : other = role.peer := hrole
      obtain ⟨-, -, -, -, hsame, -⟩ := ChannelSystem.receive_cases hstep
      rw [Role.peer_peer] at hsame
      exact hsame

/-- Each round takes one endpoint away, and nothing else does. -/
theorem TeardownInv.step (h : TeardownInv role s) {action : TeardownAction}
    (hallowed : s.TeardownAllowed role action) (hstep : s.teardownStep role action = some s') :
    TeardownInv role s' ∧ (s'.rdev role).endpoints.length + action.isRound.toNat =
      (s.rdev role).endpoints.length := by
  cases action with
  | round =>
      refine ⟨h.round hstep, ?_⟩
      obtain ⟨ref, href, rfl⟩ := ChannelSystem.deinitRound_cases hstep
      rw [ChannelSystem.rdev_post_self]
      exact h.inv.length_destroy href
  | other action =>
      obtain ⟨hrole, hguard, hforgotten⟩ := hallowed
      refine ⟨h.other hrole hguard hforgotten hstep, ?_⟩
      rw [ChannelSystem.rdev_step_peer hrole hstep]
      rfl

/-! ### Once the endpoints are gone -/

theorem Rdev.Inv.released (h : rdev.Inv) (hempty : rdev.endpoints = []) :
    (∀ k, rdev.bitmap k = false) ∧ ∀ ref, (rdev.ept ref).rdev = false := by
  refine ⟨fun k => Bool.eq_false_iff.mpr fun hbit => ?_, fun ref =>
    Bool.eq_false_iff.mpr fun hregistered => ?_⟩
  · obtain ⟨-, ref, href, -⟩ := (h.bit k).mp hbit
    rw [hempty] at href
    cases href
  · have href := (h.registered ref).mp hregistered
    rw [hempty] at href
    cases href

theorem TeardownInv.unbound (h : TeardownInv role s) (hempty : (s.rdev role).endpoints = [])
    (hinbox : s.inbox role.peer = []) {i : Nat} (hi : .user i ∈ (s.rdev role.peer).endpoints)
    (hservice : ((s.rdev role.peer).ept (.user i)).service ≠ []) :
    ((s.rdev role.peer).ept (.user i)).destAddr = RPMSG_ADDR_ANY := by
  obtain ⟨running, hrunning, rfl | rfl⟩ := h
  · have hns := (hrunning.channel.side role).nsMem
    rw [hempty] at hns
    cases hns
  · rw [running.rdev_withoutNs_self] at hempty
    rw [running.withoutNs_peer] at hi hservice ⊢
    have hfollows := hrunning.follows role.peer
    rw [Role.peer_peer, show running.inbox role.peer = [] from hinbox] at hfollows
    by_contra hbound
    obtain ⟨ref, href, haddr, -⟩ := hfollows.live_of_bound (hrunning.single role) hi hservice hbound
    have honly : ref = .nsEpt := by
      by_contra hne
      have hleft := (List.mem_erase_of_ne hne).mpr href
      rw [show (running.rdev role).endpoints.erase .nsEpt = [] from hempty] at hleft
      cases hleft
    rw [honly, (hrunning.channel.side role).nsAddr] at haddr
    have hhigh := (hrunning.channel.side role.peer).userDest i hi
    rw [← haddr] at hhigh
    exact absurd hhigh (by decide)

end Teardown

/-- `rpmsg_deinit_vdev` in any state of two running devices, whatever the other side does meanwhile.
Each round takes one of the endpoints there were at the start, so that the loop ends after as many
rounds. Then every address is free, no endpoint object is registered, and once the other side has
received what is on its way, none of its endpoints with a service name is bound any more. -/
theorem deinit_unbinds (nsBindCb : Bool) {s : ChannelSystem}
    (hs : Run.Reachable (fun s action => s.Allowed action ∧ s.TakesForgotten action)
      ChannelSystem.step (ChannelSystem.init nsBindCb) s) (role : Role)
    {actions : List TeardownAction}
    (hallowed : Run.Along (ChannelSystem.teardownStep role) (ChannelSystem.TeardownAllowed role) s
      actions) {s' : ChannelSystem}
    (hexec : Run.exec (ChannelSystem.teardownStep role) s actions = some s') :
    (s'.rdev role).endpoints.length + actions.countP TeardownAction.isRound =
        (s.rdev role).endpoints.length ∧
      ((s'.rdev role).endpoints = [] →
        (∀ k, (s'.rdev role).bitmap k = false) ∧
          (∀ ref, ((s'.rdev role).ept ref).rdev = false) ∧
          (s'.inbox role.peer = [] → ∀ i, .user i ∈ (s'.rdev role.peer).endpoints →
            ((s'.rdev role.peer).ept (.user i)).service ≠ [] →
              ((s'.rdev role.peer).ept (.user i)).destAddr = RPMSG_ADDR_ANY)) := by
  have hrunning : RendezvousInv s := hs.invariant (rendezvousInv_init nsBindCb)
    fun s action s' h hallowed hstep => h.step hallowed.1 hallowed.2 hstep
  obtain ⟨hend, hcount⟩ := hallowed.countP_add (TeardownInv role) TeardownAction.isRound
    (fun s => (s.rdev role).endpoints.length) (fun s action s' h hguard hstep => h.step hguard hstep)
    ⟨s, hrunning, .inl rfl⟩ hexec
  refine ⟨hcount, fun hempty => ?_⟩
  obtain ⟨hbitmap, hregistered⟩ := hend.inv.released hempty
  exact ⟨hbitmap, hregistered, fun hinbox i hi hservice => hend.unbound hempty hinbox hi hservice⟩

/-- The master is taken down while the endpoint of the slave is bound to its own. -/
theorem deinit_unbinds_bound :
    ∃ s s' : ChannelSystem,
      ((s.rdev .slave).ept (.user 0)).destAddr = ((s.rdev .master).ept (.user 0)).addr ∧
      Run.exec (ChannelSystem.teardownStep .master) s
        [.round, .round, .other (.receive .slave)] = some s' ∧
      (∀ k, (s'.rdev .master).bitmap k = false) ∧
      ((s'.rdev .slave).ept (.user 0)).destAddr = RPMSG_ADDR_ANY := by
  let actions : List TeardownAction := [.round, .round, .other (.receive .slave)]
  obtain ⟨s, hs, hseen⟩ := Run.exists_reachable
    (fun (s : ChannelSystem) action => s.Allowed action ∧ s.takesUnreferenced action = true)
    ChannelSystem.step (ChannelSystem.init false)
    [.create .slave 0 (some [120]) false, .create .master 0 (some [120]) false, .receive .slave]
    (fun s => (((s.rdev .slave).ept (.user 0)).destAddr == ((s.rdev .master).ept (.user 0)).addr,
      (Run.exec (ChannelSystem.teardownStep .master) s actions).any fun s' =>
        (s'.rdev .master).endpoints = [] ∧ s'.inbox .slave = [] ∧
          .user 0 ∈ (s'.rdev .slave).endpoints ∧ ((s'.rdev .slave).ept (.user 0)).service ≠ []))
    (true, true) (by decide +kernel)
  obtain ⟨hbound, hseen⟩ := Prod.mk.inj hseen
  obtain ⟨s', hexec, hend⟩ := (Option.any_eq_true _ _).mp hseen
  obtain ⟨hempty, hinbox, hmem, hservice⟩ := of_decide_eq_true hend
  have hallowed : Run.Along (ChannelSystem.teardownStep .master)
      (ChannelSystem.TeardownAllowed .master) s actions :=
    ⟨trivial, fun _ _ => ⟨trivial, fun _ _ => ⟨⟨rfl, trivial, trivial⟩, fun _ _ => trivial⟩⟩⟩
  obtain ⟨hbitmap, -, hunbound⟩ := (deinit_unbinds false (hs.mono fun s action hallowed =>
    ⟨hallowed.1, ChannelSystem.takesForgotten_of_unreferenced hallowed.2⟩) .master hallowed hexec).2 hempty
  exact ⟨s, s', eq_of_beq hbound, hexec, hbitmap, hunbound hinbox 0 hmem hservice⟩

end OpenAmp
