import OpenAmp.ChannelSystem
import OpenAmp.Proof.NameService
import Mathlib.Data.List.TakeWhile

/-!
# Channels of different services

An address outlives the endpoint that had it: in the endpoints of the other side that are bound to it
and in the messages on their way. As long as no new endpoint takes an address that is still known for
another service, the services stay apart.
-/

namespace OpenAmp

open ByteMemory

/-! ### Names and announcements -/

theorem length_nameChars_le (bytes : List UInt8) : (nameChars bytes).length ≤ RPMSG_NAME_SIZE :=
  (List.takeWhile_prefix _).length_le.trans (List.length_take_le _ _)

theorem length_strncpy (bytes : List UInt8) : (strncpy bytes).length = RPMSG_NAME_SIZE := by
  have hle := length_nameChars_le bytes
  rw [strncpy, List.length_append, List.length_replicate]
  omega

@[simp]
theorem nameChars_strncpy (bytes : List UInt8) : nameChars (strncpy bytes) = nameChars bytes := by
  have hchars : ∀ char ∈ nameChars bytes, (fun char : UInt8 => decide (char ≠ 0)) char = true := by
    intro char hchar
    have hp := List.mem_takeWhile_imp hchar
    exact hp
  have hpad : (List.replicate (RPMSG_NAME_SIZE - (nameChars bytes).length) (0 : UInt8)).takeWhile
      (· ≠ 0) = [] := by
    rw [List.takeWhile_replicate]
    rfl
  conv_lhs => rw [nameChars, List.take_of_length_le (length_strncpy bytes).le]
  rw [strncpy, List.takeWhile_append_of_pos hchars, hpad, List.append_nil]

theorem RpmsgNsMsg.length_bytes {msg : RpmsgNsMsg} (hname : msg.name.length = RPMSG_NAME_SIZE) :
    msg.bytes.length = RPMSG_NS_MSG_SIZE := by
  simp only [RpmsgNsMsg.bytes, List.length_append, length_leBytes, hname]
  rfl

theorem RpmsgNsMsg.ofBytes_bytes {msg : RpmsgNsMsg} (hname : msg.name.length = RPMSG_NAME_SIZE) :
    RpmsgNsMsg.ofBytes msg.bytes = msg := by
  have hword : ∀ word : UInt32, UInt32.ofNat (leValue (leBytes 4 word.toNat)) = word := by
    intro word
    have hlt : word.toNat < 256 ^ 4 := word.toNat_lt
    rw [leValue_leBytes, Nat.mod_eq_of_lt hlt]
    exact UInt32.ofNat_toNat
  have haddr : (msg.bytes.drop RPMSG_NAME_SIZE).take 4 = leBytes 4 msg.addr.toNat := by
    rw [RpmsgNsMsg.bytes, List.append_assoc, ← hname, List.drop_left,
      List.take_left' (length_leBytes _ _)]
  have hflags : (msg.bytes.drop (RPMSG_NAME_SIZE + 4)).take 4 = leBytes 4 msg.flags.toNat := by
    have hlen : (msg.name ++ leBytes 4 msg.addr.toNat).length = RPMSG_NAME_SIZE + 4 := by
      rw [List.length_append, hname, length_leBytes]
    rw [RpmsgNsMsg.bytes, ← hlen, List.drop_left]
    exact List.take_of_length_le (length_leBytes _ _).le
  have hchars : msg.bytes.take RPMSG_NAME_SIZE = msg.name := by
    rw [RpmsgNsMsg.bytes, List.append_assoc, ← hname, List.take_left]
  rw [RpmsgNsMsg.ofBytes, hchars, haddr, hflags, hword, hword]

theorem announcement_inj {msg msg' : RpmsgNsMsg} (hname : msg'.name.length = RPMSG_NAME_SIZE)
    (h : announcement msg = announcement msg') : msg = msg' := by
  have hbytes : msg.bytes = msg'.bytes := congrArg (fun packet => packet.msg.payload) h
  have hlen := congrArg List.length hbytes
  simp only [RpmsgNsMsg.bytes, List.length_append, length_leBytes] at hlen
  have hname' : msg.name.length = RPMSG_NAME_SIZE := by omega
  rw [← RpmsgNsMsg.ofBytes_bytes hname', ← RpmsgNsMsg.ofBytes_bytes hname, hbytes]

/-! ### The invariant -/

/-- A message as the two devices send it: data between endpoints with addresses of the bitmap, or an
announcement of such an endpoint. -/
def Packet.WellFormed (packet : Packet) : Prop :=
  match packet.service with
  | some _ => RPMSG_RESERVED_ADDRESSES ≤ packet.msg.src.toNat ∧
      RPMSG_RESERVED_ADDRESSES ≤ packet.msg.dst.toNat
  | none => ∃ msg, packet = announcement msg ∧ msg.name.length = RPMSG_NAME_SIZE ∧
      RPMSG_RESERVED_ADDRESSES ≤ msg.addr.toNat

/-- What holds of one side by itself. -/
structure SideInv (rdev : Rdev) (inbox : List Packet) : Prop where
  inv : rdev.Inv
  nsMem : .nsEpt ∈ rdev.endpoints
  nsAddr : (rdev.ept .nsEpt).addr = RPMSG_NS_EPT_ADDR
  nsDest : (rdev.ept .nsEpt).destAddr = RPMSG_NS_EPT_ADDR
  nsCb : (rdev.ept .nsEpt).cb = .nsCallback
  userCb : ∀ i, .user i ∈ rdev.endpoints → (rdev.ept (.user i)).cb = .user
  userAddr : ∀ i, .user i ∈ rdev.endpoints →
    RPMSG_RESERVED_ADDRESSES ≤ (rdev.ept (.user i)).addr.toNat
  userDest : ∀ i, .user i ∈ rdev.endpoints →
    RPMSG_RESERVED_ADDRESSES ≤ (rdev.ept (.user i)).destAddr.toNat
  packets : ∀ packet ∈ inbox, packet.WellFormed

/-- An endpoint of the service has the address. -/
def Rdev.Live (rdev : Rdev) (addr : UInt32) (service : List UInt8) : Prop :=
  ∃ ref ∈ rdev.endpoints, (rdev.ept ref).addr = addr ∧ (rdev.ept ref).service = service

/-- Whatever is known of an address is known for the service that has it. -/
structure ChannelInv (s : ChannelSystem) : Prop where
  side : ∀ role, SideInv (s.rdev role) (s.inbox role)
  knows : ∀ role addr service service', Knows (s.rdev role) (s.inbox role) addr service →
    (s.rdev role.peer).Live addr service' → service = service'
  targets : ∀ role addr service service', Targets (s.inbox role) addr service →
    (s.rdev role).Live addr service' → service = service'
  delivered : ∀ entry ∈ s.delivered, entry.1 = entry.2

section Sides

variable {s : ChannelSystem} {rdev rdev' : Rdev} {inbox rest : List Packet} {packet : Packet}
  {role : Role} {addr : UInt32} {service : List UInt8}

theorem ChannelInv.isolated (h : ChannelInv s) : s.Isolated := by
  refine ⟨h.delivered, fun role ref href ref' href' heq => ?_⟩
  refine h.knows role _ _ _ (.bound ref href heq ?_ rfl) ⟨ref', href', rfl, rfl⟩
  exact (h.side role.peer).inv.addr_ne_any href'

theorem Knows.mono (h : Knows rdev inbox addr service) (hsub : inbox ⊆ rest) :
    Knows rdev rest addr service := by
  cases h with
  | bound ref href hdest hany hservice => exact .bound ref href hdest hany hservice
  | data packet hpacket hsrc hservice => exact .data packet (hsub hpacket) hsrc hservice
  | announced msg hpacket haddr hcreate hservice =>
      exact .announced msg (hsub hpacket) haddr hcreate hservice

theorem Knows.of_append (h : Knows rdev (inbox ++ rest) addr service) :
    Knows rdev inbox addr service ∨ Knows rdev rest addr service := by
  cases h with
  | bound ref href hdest hany hservice => exact .inl (.bound ref href hdest hany hservice)
  | data packet hpacket hsrc hservice =>
      rcases List.mem_append.mp hpacket with hold | hnew
      · exact .inl (.data packet hold hsrc hservice)
      · exact .inr (.data packet hnew hsrc hservice)
  | announced msg hpacket haddr hcreate hservice =>
      rcases List.mem_append.mp hpacket with hold | hnew
      · exact .inl (.announced msg hold haddr hcreate hservice)
      · exact .inr (.announced msg hnew haddr hcreate hservice)

/-- A side has processed a message, and has learnt nothing that was not in the message. -/
theorem ChannelInv.received (h : ChannelInv s) (hinbox : s.inbox role = packet :: rest)
    {new : List (List UInt8 × List UInt8)} (hside : SideInv rdev' rest)
    (hlive : ∀ addr service, rdev'.Live addr service → (s.rdev role).Live addr service)
    (hknows : ∀ addr service, Knows rdev' rest addr service →
      Knows (s.rdev role) (packet :: rest) addr service)
    (hnew : ∀ entry ∈ new, entry.1 = entry.2) :
    ChannelInv
      { rdev := Function.update s.rdev role rdev'
        inbox := Function.update s.inbox role rest
        delivered := s.delivered ++ new } := by
  have hpeer : ∀ {α : Type} (f : Role → α) (x : α),
      Function.update f role x role.peer = f role.peer := fun f x =>
    Function.update_of_ne role.ne_peer.symm x f
  constructor
  · intro role'
    rcases role.eq_or_eq_peer role' with rfl | rfl
    · simp only [Function.update_self]
      exact hside
    · simp only [hpeer]
      exact h.side role.peer
  · intro role' addr service service'
    rcases role.eq_or_eq_peer role' with rfl | rfl
    · simp only [Function.update_self, hpeer]
      intro hk hl
      refine h.knows _ addr service service' ?_ hl
      rw [hinbox]
      exact hknows addr service hk
    · simp only [hpeer, Role.peer_peer, Function.update_self]
      intro hk hl
      refine h.knows role.peer addr service service' hk ?_
      rw [Role.peer_peer]
      exact hlive addr service' hl
  · intro role' addr service service'
    rcases role.eq_or_eq_peer role' with rfl | rfl
    · simp only [Function.update_self]
      rintro ⟨other, hother, htarget⟩ hl
      refine h.targets _ addr service service' ⟨other, ?_, htarget⟩ (hlive addr service' hl)
      rw [hinbox]
      exact List.mem_cons_of_mem _ hother
    · simp only [hpeer]
      exact h.targets role.peer addr service service'
  · intro entry hentry
    rcases List.mem_append.mp hentry with hold | hnew'
    · exact h.delivered entry hold
    · exact hnew entry hnew'

/-- An operation that fails leaves the device as it is and sends nothing. -/
theorem ChannelSystem.post_self (s : ChannelSystem) (role : Role) :
    s.post role (s.rdev role) none = s := by
  rw [ChannelSystem.post, Option.toList_none, List.append_nil, Function.update_eq_self,
    Function.update_eq_self]

/-- A side has changed its endpoints and sent a message, if any. -/
theorem ChannelInv.post (h : ChannelInv s) {packet : Option Packet}
    (hside : SideInv rdev' (s.inbox role)) (hpacket : ∀ p ∈ packet, p.WellFormed)
    (hknows : ∀ addr service, Knows rdev' (s.inbox role) addr service →
      Knows (s.rdev role) (s.inbox role) addr service)
    (hlive : ∀ addr service', rdev'.Live addr service' → (s.rdev role).Live addr service' ∨
      ∀ service, Knows (s.rdev role.peer) (s.inbox role.peer) addr service ∨
        Targets (s.inbox role) addr service → service = service')
    (hsrc : ∀ addr service service', Knows (s.rdev role.peer) packet.toList addr service →
      rdev'.Live addr service' → Knows (s.rdev role.peer) (s.inbox role.peer) addr service ∨
        service = service')
    (hdst : ∀ addr service, Targets packet.toList addr service →
      Knows (s.rdev role) (s.inbox role) addr service) :
    ChannelInv (s.post role rdev' packet) := by
  have hpeer : ∀ {α : Type} (f : Role → α) (x : α),
      Function.update f role x role.peer = f role.peer := fun f x =>
    Function.update_of_ne role.ne_peer.symm x f
  have hself : ∀ {α : Type} (f : Role → α) (x : α),
      Function.update f role.peer x role = f role := fun f x =>
    Function.update_of_ne role.ne_peer x f
  -- what the other side knows now, it has known before or from the message
  have hagree : ∀ addr service service', Knows (s.rdev role.peer) (s.inbox role.peer) addr service →
      rdev'.Live addr service' → service = service' := by
    intro addr service service' hk hl
    rcases hlive addr service' hl with hold | hnew
    · refine h.knows role.peer addr service service' hk ?_
      rw [Role.peer_peer]
      exact hold
    · exact hnew service (.inl hk)
  constructor
  · intro role'
    rcases role.eq_or_eq_peer role' with rfl | rfl
    · simp only [ChannelSystem.post, Function.update_self, hself]
      exact hside
    · simp only [ChannelSystem.post, hpeer, Function.update_self]
      refine { h.side role.peer with packets := fun p hp => ?_ }
      rcases List.mem_append.mp hp with hold | hnew
      · exact (h.side role.peer).packets p hold
      · exact hpacket p (Option.mem_toList.mp hnew)
  · intro role' addr service service'
    rcases role.eq_or_eq_peer role' with rfl | rfl
    · simp only [ChannelSystem.post, Function.update_self, hself, hpeer]
      exact fun hk hl => h.knows _ addr service service' (hknows addr service hk) hl
    · simp only [ChannelSystem.post, hpeer, Role.peer_peer, Function.update_self]
      intro hk hl
      rcases hk.of_append with hold | hnew
      · exact hagree addr service service' hold hl
      · rcases hsrc addr service service' hnew hl with hold | heq
        · exact hagree addr service service' hold hl
        · exact heq
  · intro role' addr service service'
    rcases role.eq_or_eq_peer role' with rfl | rfl
    · simp only [ChannelSystem.post, Function.update_self, hself]
      intro ht hl
      rcases hlive addr service' hl with hold | hnew
      · exact h.targets _ addr service service' ht hold
      · exact hnew service (.inr ht)
    · simp only [ChannelSystem.post, hpeer, Function.update_self]
      rintro ⟨p, hp, htarget⟩ hl
      rcases List.mem_append.mp hp with hold | hnew
      · exact h.targets role.peer addr service service' ⟨p, hold, htarget⟩ hl
      · exact h.knows role addr service service' (hdst addr service ⟨p, hnew, htarget⟩) hl
  · exact h.delivered

/-! ### The steps -/

theorem Rdev.live_setDestAddr (ref : EptRef) (dest : UInt32) :
    (rdev.setDestAddr ref dest).Live addr service ↔ rdev.Live addr service := by
  have hsame : ∀ other, ((rdev.setDestAddr ref dest).ept other).addr = (rdev.ept other).addr ∧
      ((rdev.setDestAddr ref dest).ept other).service = (rdev.ept other).service := by
    intro other
    rw [Rdev.ept_setDestAddr]
    split_ifs with heq
    · rw [heq]
      exact ⟨rfl, rfl⟩
    · exact ⟨rfl, rfl⟩
  refine exists_congr fun other => and_congr_right fun _ => ?_
  rw [(hsame other).1, (hsame other).2]

theorem SideInv.setDestAddr (h : SideInv rdev inbox) (i : Nat) {dest : UInt32}
    (hdest : RPMSG_RESERVED_ADDRESSES ≤ dest.toNat) :
    SideInv (rdev.setDestAddr (.user i) dest) inbox := by
  have hns : (rdev.setDestAddr (.user i) dest).ept .nsEpt = rdev.ept .nsEpt := by
    rw [Rdev.ept_setDestAddr, if_neg EptRef.noConfusion]
  have huser : ∀ j, (rdev.setDestAddr (.user i) dest).ept (.user j) =
      { rdev.ept (.user j) with
        destAddr := if j = i then dest else (rdev.ept (.user j)).destAddr } := by
    intro j
    rw [Rdev.ept_setDestAddr]
    by_cases heq : j = i
    · subst heq
      simp
    · rw [if_neg fun hrefs => heq (EptRef.user.inj hrefs), if_neg heq]
  exact
    { inv := h.inv.setDestAddr _ _
      nsMem := h.nsMem
      nsAddr := by rw [hns]; exact h.nsAddr
      nsDest := by rw [hns]; exact h.nsDest
      nsCb := by rw [hns]; exact h.nsCb
      userCb := fun j hj => by rw [huser]; exact h.userCb j hj
      userAddr := fun j hj => by rw [huser]; exact h.userAddr j hj
      userDest := fun j hj => by
        rw [huser]
        by_cases heq : j = i
        · simp only [if_pos heq]
          exact hdest
        · simp only [if_neg heq]
          exact h.userDest j hj
      packets := h.packets }

theorem SideInv.tail (h : SideInv rdev (packet :: rest)) : SideInv rdev rest :=
  { h with packets := fun p hp => h.packets p (List.mem_cons_of_mem _ hp) }

theorem SideInv.addr_ne_any (h : SideInv rdev inbox) :
    ∀ ref ∈ rdev.endpoints, (rdev.ept ref).addr ≠ RPMSG_ADDR_ANY :=
  fun _ href => h.inv.addr_ne_any href

theorem SideInv.getEpt_user (h : SideInv rdev inbox) {ref : EptRef}
    (hfound : rpmsgGetEptFromAddr rdev addr = some ref)
    (haddr : RPMSG_RESERVED_ADDRESSES ≤ addr.toNat) :
    ∃ i, ref = .user i ∧ .user i ∈ rdev.endpoints ∧ (rdev.ept (.user i)).addr = addr := by
  obtain ⟨hmem, href⟩ := h.inv.getEpt_some hfound
  cases ref with
  | nsEpt =>
      rw [← href, h.nsAddr] at haddr
      exact absurd haddr (by decide)
  | user i => exact ⟨i, rfl, hmem, href⟩

theorem SideInv.getEpt_ns (h : SideInv rdev inbox) :
    rpmsgGetEptFromAddr rdev RPMSG_NS_EPT_ADDR = some .nsEpt := by
  cases hfound : rpmsgGetEptFromAddr rdev RPMSG_NS_EPT_ADDR with
  | none =>
      rw [rpmsgGetEptFromAddr_eq (by decide)] at hfound
      have hno := List.find?_eq_none.mp hfound .nsEpt h.nsMem
      exact absurd (decide_eq_true h.nsAddr) hno
  | some ref =>
      obtain ⟨hmem, href⟩ := h.inv.getEpt_some hfound
      cases ref with
      | nsEpt => rfl
      | user i =>
          have hhigh := h.userAddr i hmem
          rw [href] at hhigh
          exact absurd hhigh (by decide)

/-- The name service itself is no candidate of an announcement. -/
theorem SideInv.firstCandidate_user (h : SideInv rdev inbox) {name : List UInt8} {ref : EptRef}
    (hfound : rdev.firstCandidate name addr = some ref)
    (haddr : RPMSG_RESERVED_ADDRESSES ≤ addr.toNat) : ∃ i, ref = .user i := by
  cases ref with
  | user i => exact ⟨i, rfl⟩
  | nsEpt =>
      obtain ⟨-, -, hbound | hunbound⟩ := Rdev.mem_of_firstCandidate hfound
      · rw [← hbound.1, h.nsDest] at haddr
        exact absurd haddr (by decide)
      · rw [Rdev.Unbound, h.nsDest] at hunbound
        exact absurd hunbound (by decide)

theorem Knows.of_setDestAddr {ref : EptRef} {dest : UInt32}
    (h : Knows (rdev.setDestAddr ref dest) inbox addr service) :
    Knows rdev inbox addr service ∨
      (ref ∈ rdev.endpoints ∧ addr = dest ∧ dest ≠ RPMSG_ADDR_ANY ∧
        service = (rdev.ept ref).service) := by
  cases h with
  | bound other hother hdest hany hservice =>
      rw [Rdev.ept_setDestAddr] at hdest hservice
      by_cases heq : other = ref
      · subst heq
        rw [if_pos rfl] at hdest hservice
        obtain rfl : dest = addr := hdest
        exact .inr ⟨hother, rfl, hany, hservice.symm⟩
      · rw [if_neg heq] at hdest hservice
        exact .inl (.bound other hother hdest hany hservice)
  | data p hp hsrc hservice => exact .inl (.data p hp hsrc hservice)
  | announced msg hp haddr hcreate hservice =>
      exact .inl (.announced msg hp haddr hcreate hservice)

theorem SideInv.rxCallback_user (h : SideInv rdev (packet :: rest)) {i : Nat}
    (hmem : .user i ∈ rdev.endpoints)
    (hfound : rpmsgGetEptFromAddr rdev packet.msg.dst = some (.user i)) :
    rpmsgVirtioRxCallback rdev packet.msg =
      (rdev.learnDestAddr (.user i) packet.msg.src, some (.receive (.user i))) := by
  have hcb : ((rdev.learnDestAddr (.user i) packet.msg.src).ept (.user i)).cb = .user := by
    rw [Rdev.learnDestAddr]
    split_ifs
    · rw [Rdev.ept_setDestAddr, if_pos rfl]
      exact h.userCb i hmem
    · exact h.userCb i hmem
  simp only [rpmsgVirtioRxCallback, hfound, hcb]

theorem ChannelInv.receive_data (h : ChannelInv s) {s' : ChannelSystem}
    (hinbox : s.inbox role = packet :: rest) (hservice : packet.service = some service)
    (hstep : s.receive role = some s') : ChannelInv s' := by
  have hside := h.side role
  rw [hinbox] at hside
  have hwf := hside.packets packet (List.mem_cons_self ..)
  simp only [Packet.WellFormed, hservice] at hwf
  have hself : packet ∈ s.inbox role := by
    rw [hinbox]
    exact List.mem_cons_self ..
  simp only [ChannelSystem.receive, hinbox, Option.some.injEq] at hstep
  subst hstep
  cases hfound : rpmsgGetEptFromAddr (s.rdev role) packet.msg.dst with
  | none =>
      simp only [rpmsgVirtioRxCallback, hfound]
      exact h.received hinbox hside.tail (fun _ _ hl => hl)
        (fun _ _ hk => hk.mono (List.subset_cons_self ..)) (fun _ hentry => absurd hentry List.not_mem_nil)
  | some ref =>
      obtain ⟨i, rfl, hmem, haddr⟩ := hside.getEpt_user hfound hwf.2
      have hname : service = ((s.rdev role).ept (.user i)).service :=
        h.targets role packet.msg.dst service _ ⟨packet, hself, rfl, hservice⟩
          ⟨.user i, hmem, haddr, rfl⟩
      simp only [hside.rxCallback_user hmem hfound, handedOver, hservice, Option.map_some,
        Option.toList_some, Rdev.learnDestAddr]
      split_ifs
      · refine h.received hinbox (hside.tail.setDestAddr i hwf.1)
          (fun _ _ hl => (Rdev.live_setDestAddr _ _).mp hl) (fun addr service' hk => ?_) ?_
        · rcases hk.of_setDestAddr with hold | ⟨-, rfl, -, rfl⟩
          · exact hold.mono (List.subset_cons_self ..)
          · rw [← hname]
            exact .data packet (List.mem_cons_self ..) rfl hservice
        · intro entry hentry
          obtain rfl := List.mem_singleton.mp hentry
          rw [Rdev.ept_setDestAddr, if_pos rfl]
          exact hname
      · refine h.received hinbox hside.tail (fun _ _ hl => hl)
          (fun _ _ hk => hk.mono (List.subset_cons_self ..)) ?_
        intro entry hentry
        obtain rfl := List.mem_singleton.mp hentry
        exact hname

/-- An announcement reaches the name service, which binds or unbinds an endpoint of that name. -/
theorem SideInv.rxCallback_ns {msg : RpmsgNsMsg} (h : SideInv rdev (announcement msg :: rest))
    (hname : msg.name.length = RPMSG_NAME_SIZE)
    (haddr : RPMSG_RESERVED_ADDRESSES ≤ msg.addr.toNat) :
    (rpmsgVirtioRxCallback rdev (announcement msg).msg).1 = rdev ∨
      ∃ i dest, (rpmsgVirtioRxCallback rdev (announcement msg).msg).1 =
          rdev.setDestAddr (.user i) dest ∧
        (dest = RPMSG_ADDR_ANY ∨ dest = msg.addr ∧ msg.flags &&& RPMSG_NS_DESTROY = 0 ∧
          (rdev.ept (.user i)).service = nameChars msg.name) := by
  have hlearn : rdev.learnDestAddr .nsEpt (announcement msg).msg.src = rdev := by
    rw [Rdev.learnDestAddr, if_neg]
    rw [h.nsDest]
    decide
  have hget : rpmsgGetEptFromAddr rdev (announcement msg).msg.dst = some .nsEpt := h.getEpt_ns
  have hcall : rpmsgVirtioRxCallback rdev (announcement msg).msg =
      rpmsgVirtioNsCallback rdev .nsEpt msg.bytes := by
    simp only [rpmsgVirtioRxCallback, hget, hlearn, h.nsCb]
    rfl
  rw [hcall, rpmsgVirtioNsCallback_eq h.addr_ne_any (RpmsgNsMsg.length_bytes hname)
    (RpmsgNsMsg.ofBytes_bytes hname)]
  cases hfound : rdev.firstCandidate msg.name msg.addr with
  | none => exact .inl rfl
  | some ref =>
      obtain ⟨i, rfl⟩ := h.firstCandidate_user hfound haddr
      obtain ⟨-, hnamed, -⟩ := Rdev.mem_of_firstCandidate hfound
      right
      by_cases hdestroy : msg.flags &&& RPMSG_NS_DESTROY ≠ 0
      · simp only [if_pos hdestroy]
        exact ⟨i, RPMSG_ADDR_ANY, rfl, .inl rfl⟩
      · simp only [if_neg hdestroy]
        exact ⟨i, msg.addr, rfl, .inr ⟨rfl, not_not.mp hdestroy, hnamed⟩⟩

theorem ChannelInv.receive_announcement (h : ChannelInv s) {s' : ChannelSystem}
    (hinbox : s.inbox role = packet :: rest) (hservice : packet.service = none)
    (hstep : s.receive role = some s') : ChannelInv s' := by
  have hside := h.side role
  rw [hinbox] at hside
  have hwf := hside.packets packet (List.mem_cons_self ..)
  simp only [Packet.WellFormed, hservice] at hwf
  obtain ⟨msg, rfl, hname, haddr⟩ := hwf
  simp only [ChannelSystem.receive, hinbox, Option.some.injEq] at hstep
  subst hstep
  have hnew : ∀ rdev call, ∀ entry ∈ handedOver rdev (announcement msg) call, entry.1 = entry.2 := by
    intro rdev call entry hentry
    rcases call with - | ref | ⟨owner, ept⟩ | ⟨name, dest⟩ <;> exact nomatch hentry
  rcases hside.rxCallback_ns hname haddr with hsame | ⟨i, dest, hset, hdest⟩
  · rw [hsame]
    exact h.received hinbox hside.tail (fun _ _ hl => hl)
      (fun _ _ hk => hk.mono (List.subset_cons_self ..)) (hnew _ _)
  · rw [hset]
    have hhigh : RPMSG_RESERVED_ADDRESSES ≤ dest.toNat := by
      rcases hdest with rfl | ⟨rfl, -⟩
      · decide
      · exact haddr
    refine h.received hinbox (hside.tail.setDestAddr i hhigh)
      (fun _ _ hl => (Rdev.live_setDestAddr _ _).mp hl) (fun addr service' hk => ?_) (hnew _ _)
    rcases hk.of_setDestAddr with hold | ⟨-, rfl, hany, rfl⟩
    · exact hold.mono (List.subset_cons_self ..)
    · rcases hdest with rfl | ⟨rfl, hcreate, hnamed⟩
      · exact absurd rfl hany
      · exact .announced msg (List.mem_cons_self ..) rfl hcreate hnamed.symm

/-- `rpmsg_create_ept` where an address is free and the announcement is sent. -/
theorem rpmsgCreateEpt_ok (ref : EptRef) (name : Option (List UInt8)) {src : UInt32}
    (dest : UInt32) (unbindCb : Bool) {ret : Int} (hret : 0 ≤ ret) {bitmap : Nat → Bool}
    (hclaim : rpmsgClaimAddress rdev.bitmap src = .ok (bitmap, addr)) :
    ∃ status msg, rpmsgCreateEpt rdev (some ref) name src dest unbindCb ret =
        ({ rdev with bitmap, endpoints := rdev.endpoints ++ [ref] }.setEpt ref
          ⟨strncpy (name.getD []), true, addr, dest, .user, unbindCb⟩, status, msg) ∧
      ∀ m ∈ msg, m = ⟨strncpy (strncpy (name.getD [])), addr, RPMSG_NS_CREATE⟩ := by
  simp only [rpmsgCreateEpt, hclaim, Rdev.register_eq, Rdev.setEpt_self, rpmsgSendNsMessage,
    if_neg (not_lt.mpr hret)]
  split_ifs with hsend hstatus
  · exact absurd rfl hstatus
  · exact ⟨_, _, rfl, fun m hm => (Option.some.inj hm).symm⟩
  · exact ⟨_, _, rfl, fun m hm => absurd hm (Option.not_mem_none m)⟩

theorem rpmsgClaimAddress_any_high {bitmap bitmap' : Nat → Bool}
    (hclaim : rpmsgClaimAddress bitmap RPMSG_ADDR_ANY = .ok (bitmap', addr)) :
    RPMSG_RESERVED_ADDRESSES ≤ addr.toNat := by
  rw [rpmsgClaimAddress_any] at hclaim
  split_ifs at hclaim with hlt
  obtain ⟨-, rfl⟩ := Prod.mk.inj (Except.ok.inj hclaim)
  simp only [UInt32.toNat_ofNat', RPMSG_RESERVED_ADDRESSES, RPMSG_ADDR_BMP_SIZE] at hlt ⊢
  omega

/-- What an endpoint object of the application that has changed leaves of the invariant of its
side. -/
theorem SideInv.of_user (h : SideInv rdev inbox) (h' : rdev'.Inv) {i : Nat}
    (hother : ∀ other, other ≠ EptRef.user i → rdev'.ept other = rdev.ept other)
    (hmem : ∀ other, other ≠ EptRef.user i →
      (other ∈ rdev'.endpoints ↔ other ∈ rdev.endpoints))
    (hnew : EptRef.user i ∈ rdev'.endpoints → (rdev'.ept (.user i)).cb = .user ∧
      RPMSG_RESERVED_ADDRESSES ≤ (rdev'.ept (.user i)).addr.toNat ∧
      RPMSG_RESERVED_ADDRESSES ≤ (rdev'.ept (.user i)).destAddr.toNat) :
    SideInv rdev' inbox := by
  have hns : rdev'.ept .nsEpt = rdev.ept .nsEpt := hother _ EptRef.noConfusion
  have husers : ∀ j, .user j ∈ rdev'.endpoints → (rdev'.ept (.user j)).cb = .user ∧
      RPMSG_RESERVED_ADDRESSES ≤ (rdev'.ept (.user j)).addr.toNat ∧
      RPMSG_RESERVED_ADDRESSES ≤ (rdev'.ept (.user j)).destAddr.toNat := by
    intro j hj
    by_cases heq : j = i
    · subst heq
      exact hnew hj
    · have hne : EptRef.user j ≠ .user i := fun hrefs => heq (EptRef.user.inj hrefs)
      have hold := (hmem _ hne).mp hj
      rw [hother _ hne]
      exact ⟨h.userCb j hold, h.userAddr j hold, h.userDest j hold⟩
  exact
    { inv := h'
      nsMem := (hmem _ EptRef.noConfusion).mpr h.nsMem
      nsAddr := by rw [hns]; exact h.nsAddr
      nsDest := by rw [hns]; exact h.nsDest
      nsCb := by rw [hns]; exact h.nsCb
      userCb := fun j hj => (husers j hj).1
      userAddr := fun j hj => (husers j hj).2.1
      userDest := fun j hj => (husers j hj).2.2
      packets := h.packets }

theorem Knows.of_announcement {packet : Option RpmsgNsMsg}
    (h : Knows rdev (packet.map announcement).toList addr service)
    (hname : ∀ msg ∈ packet, msg.name.length = RPMSG_NAME_SIZE) :
    (∀ inbox, Knows rdev inbox addr service) ∨
      ∃ msg ∈ packet, msg.addr = addr ∧ msg.flags &&& RPMSG_NS_DESTROY = 0 ∧
        nameChars msg.name = service := by
  cases h with
  | bound ref href hdest hany hservice =>
      exact .inl fun _ => .bound ref href hdest hany hservice
  | data p hp hsrc hservice =>
      obtain ⟨msg, -, rfl⟩ := Option.map_eq_some_iff.mp (Option.mem_toList.mp hp)
      exact nomatch hservice
  | announced msg hp haddr hcreate hservice =>
      obtain ⟨msg', hmsg', heq⟩ := Option.map_eq_some_iff.mp (Option.mem_toList.mp hp)
      obtain rfl := announcement_inj (hname msg' hmsg') heq.symm
      exact .inr ⟨msg, hmsg', haddr, hcreate, hservice⟩

theorem not_targets_announcement {packet : Option RpmsgNsMsg} :
    ¬ Targets (packet.map announcement).toList addr service := by
  rintro ⟨p, hp, -, hservice⟩
  obtain ⟨msg, -, rfl⟩ := Option.map_eq_some_iff.mp (Option.mem_toList.mp hp)
  exact nomatch hservice

/-- An endpoint object is written and its endpoint added to a device. -/
structure Rdev.Adds (rdev rdev' : Rdev) (new : EptRef) (ept : RpmsgEndpoint) : Prop where
  self : rdev'.ept new = ept
  other : ∀ ref, ref ≠ new → rdev'.ept ref = rdev.ept ref
  mem : ∀ ref, ref ∈ rdev'.endpoints ↔ ref ∈ rdev.endpoints ∨ ref = new

theorem Rdev.adds_setEpt (rdev : Rdev) (bitmap : Nat → Bool) (new : EptRef) (ept : RpmsgEndpoint) :
    rdev.Adds (({ rdev with bitmap, endpoints := rdev.endpoints ++ [new] } : Rdev).setEpt new ept)
      new ept where
  self := Rdev.setEpt_self _
  other _ hne := Rdev.setEpt_of_ne _ hne
  mem ref := by rw [Rdev.endpoints_setEpt, List.mem_append, List.mem_singleton]

section Adds

variable {rdev rdev' : Rdev} {new : EptRef} {ept : RpmsgEndpoint}

theorem Rdev.Adds.live_cases (hadds : rdev.Adds rdev' new ept) {addr : UInt32}
    {service : List UInt8} (hlive : rdev'.Live addr service) :
    rdev.Live addr service ∨ ept.addr = addr ∧ ept.service = service := by
  obtain ⟨ref, href, hat, rfl⟩ := hlive
  by_cases heq : ref = new
  · rw [heq, hadds.self] at hat ⊢
    exact .inr ⟨hat, rfl⟩
  · rw [hadds.other ref heq] at hat ⊢
    exact .inl ⟨ref, ((hadds.mem ref).mp href).resolve_right heq, hat, rfl⟩

/-- A side learns nothing from an endpoint that it does not bind. -/
theorem Rdev.Adds.knows (hadds : rdev.Adds rdev' new ept) (hdest : ept.destAddr = RPMSG_ADDR_ANY)
    {inbox : List Packet} {addr : UInt32} {service : List UInt8}
    (hk : Knows rdev' inbox addr service) : Knows rdev inbox addr service := by
  cases hk with
  | bound ref href hat hany hservice =>
      by_cases heq : ref = new
      · rw [heq, hadds.self, hdest] at hat
        exact absurd hat.symm hany
      · rw [hadds.other ref heq] at hat hservice
        exact .bound ref (((hadds.mem ref).mp href).resolve_right heq) hat hany hservice
  | data p hp hsrc hservice => exact .data p hp hsrc hservice
  | announced m hp haddr hcreate hservice => exact .announced m hp haddr hcreate hservice

end Adds

theorem ChannelInv.create (h : ChannelInv s) {i : Nat} {name : Option (List UInt8)}
    {unbindCb : Bool} (hnew : EptRef.user i ∉ (s.rdev role).endpoints)
    (hforgotten : s.TakesForgotten (.create role i name unbindCb)) :
    ChannelInv (s.create role i name unbindCb) := by
  have hside := h.side role
  cases hclaim : rpmsgClaimAddress (s.rdev role).bitmap RPMSG_ADDR_ANY with
  | error status =>
      simp only [ChannelSystem.create, rpmsgCreateEpt, hclaim]
      rw [Option.map_none, ChannelSystem.post_self]
      exact h
  | ok claim =>
      obtain ⟨bitmap, addr⟩ := claim
      have hhigh := rpmsgClaimAddress_any_high hclaim
      have hret : (0 : Int) ≤ RPMSG_NS_MSG_SIZE := by decide
      obtain ⟨status, msg, hcall, hmsg⟩ :=
        rpmsgCreateEpt_ok (.user i) name RPMSG_ADDR_ANY unbindCb hret hclaim
      simp only [ChannelSystem.create, hcall]
      set ept : RpmsgEndpoint :=
        ⟨strncpy (name.getD []), true, addr, RPMSG_ADDR_ANY, .user, unbindCb⟩
      set rdev' := ({ s.rdev role with bitmap, endpoints := (s.rdev role).endpoints ++ [.user i] } :
        Rdev).setEpt (.user i) ept with hrdev'
      have hinv : rdev'.Inv :=
        hside.inv.register ept hnew (rpmsgClaimAddress_claimed hclaim) rfl hrdev'
      have hadds : (s.rdev role).Adds rdev' (.user i) ept := Rdev.adds_setEpt _ _ _ _
      have hservice : ept.service = nameChars (name.getD []) := nameChars_strncpy _
      -- the only endpoint at the new address is the new one
      have honly : ∀ service', rdev'.Live addr service' → service' = nameChars (name.getD []) := by
        rintro service' ⟨ref, href, hat, rfl⟩
        have hatNew : (rdev'.ept ref).addr = (rdev'.ept (.user i)).addr := by
          rw [hat, hadds.self]
        have hmemNew : EptRef.user i ∈ rdev'.endpoints := (hadds.mem _).mpr (.inr rfl)
        rw [hinv.unique ref href (.user i) hmemNew hatNew (by rw [hat]; exact hhigh), hadds.self]
        exact hservice
      have hwf : ∀ m ∈ msg, m.name.length = RPMSG_NAME_SIZE := by
        intro m hm
        rw [hmsg m hm]
        exact length_strncpy _
      refine h.post (hside.of_user hinv hadds.other (fun other hne => ?_) fun _ => ?_) ?_
        (fun _ _ hk => hadds.knows rfl hk) ?_ ?_ fun _ _ ht => absurd ht not_targets_announcement
      · rw [hadds.mem]
        exact ⟨fun hor => hor.resolve_right hne, .inl⟩
      · have hany : RPMSG_RESERVED_ADDRESSES ≤ RPMSG_ADDR_ANY.toNat := by decide
        rw [hadds.self]
        exact ⟨rfl, hhigh, hany⟩
      · intro p hp
        obtain ⟨m, hm, rfl⟩ := Option.map_eq_some_iff.mp hp
        refine ⟨m, rfl, hwf m hm, ?_⟩
        rw [hmsg m hm]
        exact hhigh
      · intro a service' hlive
        rcases hadds.live_cases hlive with hold | ⟨hat, hname⟩
        · exact .inl hold
        · right
          intro service hknown
          obtain rfl : addr = a := hat
          rw [← hname, hservice]
          exact hforgotten bitmap addr hclaim service hknown
      · intro a service service' hk hl
        rcases hk.of_announcement hwf with hold | ⟨m, hm, rfl, -, rfl⟩
        · exact .inl (hold _)
        · right
          rw [hmsg m hm] at hl ⊢
          rw [honly service' hl, nameChars_strncpy, nameChars_strncpy]

theorem ChannelInv.destroy (h : ChannelInv s) (i : Nat) : ChannelInv (s.destroy role i) := by
  have hside := h.side role
  simp only [ChannelSystem.destroy, rpmsgDestroyEpt]
  by_cases hrdev : ((s.rdev role).ept (.user i)).rdev = false
  · simp only [if_pos hrdev]
    rw [Option.map_none, ChannelSystem.post_self]
    exact h
  · simp only [if_neg hrdev]
    have hregistered : EptRef.user i ∈ (s.rdev role).endpoints :=
      (hside.inv.registered _).mp (Bool.not_eq_false _ ▸ hrdev)
    have hmem : ∀ other, other ∈ (rpmsgUnregisterEndpoint (s.rdev role) (.user i)).endpoints ↔
        other ≠ .user i ∧ other ∈ (s.rdev role).endpoints :=
      fun _ => hside.inv.nodup.mem_erase_iff
    set msg : Option RpmsgNsMsg :=
      if ((s.rdev role).ept (.user i)).named ∧ (s.rdev role).supportNs ∧
          ((s.rdev role).ept (.user i)).addr.toNat ≥ RPMSG_RESERVED_ADDRESSES then
        some (rpmsgSendNsMessage ((s.rdev role).ept (.user i)) RPMSG_NS_DESTROY 0).1
      else none with hmsg
    have hsent : ∀ m ∈ msg, m = ⟨strncpy ((s.rdev role).ept (.user i)).name,
        ((s.rdev role).ept (.user i)).addr, RPMSG_NS_DESTROY⟩ := by
      intro m hm
      rw [hmsg] at hm
      split_ifs at hm
      · exact (Option.some.inj hm).symm
      · cases hm
    have hwf : ∀ m ∈ msg, m.name.length = RPMSG_NAME_SIZE := by
      intro m hm
      rw [hsent m hm]
      exact length_strncpy _
    refine h.post (hside.of_user (hside.inv.unregister hregistered)
      (fun other hne => rpmsgUnregisterEndpoint_of_ne hne) (fun other hne => ?_) fun hself => ?_)
      ?_ ?_ ?_ ?_ fun _ _ ht => absurd ht not_targets_announcement
    · rw [hmem]
      exact ⟨fun hand => hand.2, fun hold => ⟨hne, hold⟩⟩
    · exact absurd rfl ((hmem _).mp hself).1
    · intro p hp
      obtain ⟨m, hm, rfl⟩ := Option.map_eq_some_iff.mp hp
      refine ⟨m, rfl, hwf m hm, ?_⟩
      rw [hsent m hm]
      exact hside.userAddr i hregistered
    · intro a service hk
      cases hk with
      | bound ref href hdest hany hservice =>
          obtain ⟨hne, hold⟩ := (hmem ref).mp href
          rw [rpmsgUnregisterEndpoint_of_ne hne] at hdest hservice
          exact .bound ref hold hdest hany hservice
      | data p hp hsrc hservice => exact .data p hp hsrc hservice
      | announced m hp haddr hcreate hservice => exact .announced m hp haddr hcreate hservice
    · rintro a service' ⟨ref, href, hat, rfl⟩
      obtain ⟨hne, hold⟩ := (hmem ref).mp href
      rw [rpmsgUnregisterEndpoint_of_ne hne] at hat ⊢
      exact .inl ⟨ref, hold, hat, rfl⟩
    · intro a service service' hk _
      rcases hk.of_announcement hwf with hold | ⟨m, hm, -, hcreate, -⟩
      · exact .inl (hold _)
      · have hdestroy : RPMSG_NS_DESTROY &&& RPMSG_NS_DESTROY ≠ 0 := by decide
        rw [hsent m hm] at hcreate
        exact absurd hcreate hdestroy

theorem ChannelInv.send (h : ChannelInv s) (i : Nat) (data : List UInt8) :
    ChannelInv (s.send role i data) := by
  have hside := h.side role
  simp only [ChannelSystem.send, rpmsgSend]
  by_cases hfail : ((s.rdev role).ept (.user i)).rdev = false ∨
      ((s.rdev role).ept (.user i)).destAddr = RPMSG_ADDR_ANY
  · simp only [if_pos hfail]
    rw [Option.map_none, ChannelSystem.post_self]
    exact h
  · simp only [if_neg hfail, Option.map_some]
    rw [not_or] at hfail
    have hregistered : EptRef.user i ∈ (s.rdev role).endpoints :=
      (hside.inv.registered _).mp (Bool.not_eq_false _ ▸ hfail.1)
    refine h.post hside ?_ (fun _ _ hk => hk) (fun _ _ hl => .inl hl) ?_ ?_
    · intro p hp
      obtain rfl := Option.some.inj hp
      exact ⟨hside.userAddr i hregistered, hside.userDest i hregistered⟩
    · intro a service service' hk hl
      cases hk with
      | bound ref href hdest hany hservice => exact .inl (.bound ref href hdest hany hservice)
      | data p hp hsrc hservice =>
          right
          obtain rfl := List.mem_singleton.mp hp
          obtain ⟨ref, href, hat, rfl⟩ := hl
          obtain rfl : ref = .user i := by
            refine hside.inv.unique ref href (.user i) hregistered (hat.trans hsrc.symm) ?_
            rw [hat, ← hsrc]
            exact hside.userAddr i hregistered
          exact (Option.some.inj hservice).symm
      | announced msg hp haddr hcreate hservice =>
          have hpacket := congrArg Packet.service (List.mem_singleton.mp hp)
          exact nomatch hpacket
    · rintro a service ⟨p, hp, hdst, hservice⟩
      obtain rfl := List.mem_singleton.mp hp
      refine .bound (.user i) hregistered hdst ?_ (Option.some.inj hservice)
      rw [← hdst]
      exact hfail.2

theorem ChannelInv.step (h : ChannelInv s) {action : ChannelAction} (hallowed : s.Allowed action)
    (hforgotten : s.TakesForgotten action) {s' : ChannelSystem} (hstep : s.step action = some s') :
    ChannelInv s' := by
  cases action with
  | create role i name unbindCb =>
      obtain rfl := Option.some.inj hstep
      exact h.create hallowed.1 hforgotten
  | destroy role i =>
      obtain rfl := Option.some.inj hstep
      exact h.destroy i
  | send role i data =>
      obtain rfl := Option.some.inj hstep
      exact h.send i data
  | receive role =>
      cases hinbox : s.inbox role with
      | nil =>
          simp only [ChannelSystem.step, ChannelSystem.receive, hinbox] at hstep
          exact nomatch hstep
      | cons packet rest =>
          cases hservice : packet.service with
          | none => exact h.receive_announcement hinbox hservice hstep
          | some service => exact h.receive_data hinbox hservice hstep

theorem channelInv_init (nsBindCb : Bool) : ChannelInv (ChannelSystem.init nsBindCb) := by
  have honly : ∀ ref ∈ (rpmsgInitEndpoints true nsBindCb).endpoints, ref = .nsEpt :=
    fun ref href => List.mem_singleton.mp href
  constructor
  · intro role
    refine ⟨rpmsgInitEndpoints_inv true nsBindCb, List.mem_singleton.mpr rfl, rfl, rfl, rfl,
      ?_, ?_, ?_, fun packet hpacket => nomatch hpacket⟩ <;>
    · intro i hi
      exact nomatch honly _ hi
  · rintro role addr service service' hk ⟨ref', href', -, rfl⟩
    cases hk with
    | bound ref href hdest hany hservice =>
        rw [← hservice, honly ref href, honly ref' href']
        rfl
    | data packet hpacket => exact nomatch hpacket
    | announced msg hpacket => exact nomatch hpacket
  · rintro role addr service service' ⟨packet, hpacket, -⟩
    exact nomatch hpacket
  · intro entry hentry
    exact nomatch hentry

end Sides

/-- Services stay apart in every run in which no endpoint takes an address that the other side still
knows, or still sends to, for another service. -/
theorem channels_isolated (nsBindCb : Bool) {s : ChannelSystem}
    (hs : Run.Reachable (fun s action => s.Allowed action ∧ s.TakesForgotten action)
      ChannelSystem.step (ChannelSystem.init nsBindCb) s) : s.Isolated := by
  have h : ChannelInv s := hs.invariant (channelInv_init nsBindCb)
    fun s action s' h hallowed hstep => h.step hallowed.1 hallowed.2 hstep
  exact h.isolated

/-- The other side is not bound to the address that a new endpoint takes, and nothing on its way is from
it or to it. -/
def ChannelSystem.takesUnreferenced (s : ChannelSystem) : ChannelAction → Bool
  | .create role _ _ _ =>
      match rpmsgClaimAddress (s.rdev role).bitmap RPMSG_ADDR_ANY with
      | .error _ => true
      | .ok (_, addr) =>
          (s.rdev role.peer).endpoints.all (fun ref => ((s.rdev role.peer).ept ref).destAddr ≠ addr) &&
            (s.inbox role.peer).all (fun packet => packet.msg.src ≠ addr) &&
            (s.inbox role).all fun packet => packet.msg.dst ≠ addr
  | .destroy _ _ | .send _ _ _ | .receive _ => true

theorem ChannelSystem.takesForgotten_of_unreferenced {s : ChannelSystem} {action : ChannelAction}
    (h : s.takesUnreferenced action = true) : s.TakesForgotten action := by
  cases action with
  | create role i name unbindCb =>
      intro bitmap addr hclaim service hknown
      simp only [ChannelSystem.takesUnreferenced, hclaim, Bool.and_eq_true, List.all_eq_true,
        decide_eq_true_eq] at h
      obtain ⟨⟨hbound, hfrom⟩, hto⟩ := h
      rcases hknown with hk | ⟨packet, hpacket, hdst, -⟩
      · cases hk with
        | bound ref href hdest => exact absurd hdest (hbound ref href)
        | data packet hpacket hsrc => exact absurd hsrc (hfrom packet hpacket)
        | announced msg hpacket haddr => exact absurd haddr (hfrom (announcement msg) hpacket)
      · exact absurd hdst (hto packet hpacket)
  | destroy role i => trivial
  | send role i data => trivial
  | receive role => trivial

/-- Two services `x` and `y`. The slave destroys its endpoint of `y`, and once the master has heard of
it, one of the service `z` takes the address. -/
theorem channels_isolated_recycled :
    ∃ s : ChannelSystem, s.delivered = [([120], [120]), ([121], [121]), ([122], [122])] ∧
      s.Isolated := by
  obtain ⟨s, hs, hdelivered⟩ := Run.exists_reachable
    (fun (s : ChannelSystem) action => s.Allowed action ∧ s.takesUnreferenced action = true)
    ChannelSystem.step (ChannelSystem.init false)
    [.create .master 0 (some [120]) false, .create .slave 0 (some [120]) false, .receive .master,
      .create .master 1 (some [121]) false, .create .slave 1 (some [121]) false, .receive .master,
      .receive .slave, .receive .slave, .send .master 0 [7], .send .master 1 [8], .receive .slave,
      .receive .slave, .destroy .slave 1, .receive .master, .create .slave 2 (some [122]) false,
      .create .master 2 (some [122]) false, .receive .master, .receive .slave, .send .slave 2 [9],
      .receive .master]
    ChannelSystem.delivered [([120], [120]), ([121], [121]), ([122], [122])] (by decide +kernel)
  exact ⟨s, hdelivered, channels_isolated false (hs.mono fun s action hallowed =>
    ⟨hallowed.1, ChannelSystem.takesForgotten_of_unreferenced hallowed.2⟩)⟩

/-- The slave destroys its endpoint of the service `x` and creates one of the service `y`, which takes
the address. A message of `x` that was sent in between is handed to `y`. -/
theorem channels_not_isolated :
    ∃ s : ChannelSystem, Run.Reachable ChannelSystem.Allowed ChannelSystem.step
        (ChannelSystem.init false) s ∧ s.delivered = [([120], [121])] ∧ ¬ s.Isolated := by
  obtain ⟨s, hs, hdelivered⟩ := Run.exists_reachable ChannelSystem.Allowed ChannelSystem.step
    (ChannelSystem.init false)
    [.create .master 0 (some [120]) false, .create .slave 0 (some [120]) false, .receive .master,
      .destroy .slave 0, .create .slave 1 (some [121]) false, .send .master 0 [7], .receive .slave,
      .receive .slave] ChannelSystem.delivered [([120], [121])] (by decide +kernel)
  refine ⟨s, hs, hdelivered, fun hisolated => ?_⟩
  have heq := hisolated.delivered ([120], [121]) (by rw [hdelivered]; exact List.mem_singleton.mpr rfl)
  exact absurd heq (by decide)

end OpenAmp
