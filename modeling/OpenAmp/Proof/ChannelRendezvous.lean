import OpenAmp.Library.Presence
import OpenAmp.Proof.ChannelIsolation

/-!
# How the two ends of a service find each other

Neither end of a service may know of the other while announcements are on their way, or an announcement
may have come before there was an endpoint to bind. Once everything has arrived, an endpoint is bound to
nothing but the other end, and one of two ends is bound to the other one.
-/

namespace OpenAmp

open Presence

/-! ### What is heard of a service -/

/-- What an announcement says of its service. -/
def RpmsgNsMsg.event (msg : RpmsgNsMsg) : Event UInt32 :=
  if msg.flags &&& RPMSG_NS_DESTROY = 0 then .appear msg.addr else .vanish msg.addr

theorem RpmsgNsMsg.event_create (name : List UInt8) (addr : UInt32) :
    (RpmsgNsMsg.mk name addr RPMSG_NS_CREATE).event = .appear addr := by
  have hcreate : RPMSG_NS_CREATE &&& RPMSG_NS_DESTROY = 0 := by decide
  exact if_pos hcreate

theorem RpmsgNsMsg.event_destroy (name : List UInt8) (addr : UInt32) :
    (RpmsgNsMsg.mk name addr RPMSG_NS_DESTROY).event = .vanish addr := by
  have hdestroy : ¬ RPMSG_NS_DESTROY &&& RPMSG_NS_DESTROY = 0 := by decide
  exact if_neg hdestroy

/-- What a packet means for the endpoint of a service at an address: data for it shows where the other
end is. -/
def Packet.event? (service : List UInt8) (addr : UInt32) (packet : Packet) : Option (Event UInt32) :=
  match packet.service with
  | some sender =>
      if sender = service ∧ packet.msg.dst = addr then some (.hear packet.msg.src) else none
  | none =>
      let msg := RpmsgNsMsg.ofBytes packet.msg.payload
      if nameChars msg.name = service then some msg.event else none

def heard (service : List UInt8) (addr : UInt32) (inbox : List Packet) : List (Event UInt32) :=
  inbox.filterMap (Packet.event? service addr)

/-- Where an endpoint sends to. -/
def RpmsgEndpoint.view (ept : RpmsgEndpoint) : Option UInt32 :=
  if ept.destAddr = RPMSG_ADDR_ANY then none else some ept.destAddr

/-- Where the endpoint of a service is on a side. -/
def Rdev.At (rdev : Rdev) (service : List UInt8) (here : Option UInt32) : Prop :=
  ∀ addr, rdev.Live addr service ↔ here = some addr

/-- A packet names an address that an endpoint can have. -/
def Packet.Addressed (packet : Packet) : Prop :=
  match packet.service with
  | some _ => packet.msg.src ≠ RPMSG_ADDR_ANY
  | none => (RpmsgNsMsg.ofBytes packet.msg.payload).addr ≠ RPMSG_ADDR_ANY

def Rdev.Single (rdev : Rdev) : Prop :=
  ∀ ref ∈ rdev.endpoints, ∀ ref' ∈ rdev.endpoints,
    (rdev.ept ref).service = (rdev.ept ref').service → ref = ref'

section Heard

variable {rdev rdev' peer peer' : Rdev} {inbox rest : List Packet} {packet : Packet} {i : Nat}
  {service : List UInt8} {addr : UInt32} {here here' : Option UInt32}

theorem heard_append : heard service addr (inbox ++ rest) =
    heard service addr inbox ++ heard service addr rest :=
  List.filterMap_append

theorem heard_cons : heard service addr (packet :: rest) =
    (packet.event? service addr).toList ++ heard service addr rest := by
  unfold heard
  cases hevent : packet.event? service addr with
  | none => rw [List.filterMap_cons_none hevent]; rfl
  | some event => rw [List.filterMap_cons_some hevent]; rfl

theorem Rdev.At.unique (h : rdev.At service here) (h' : rdev.At service here') : here = here' := by
  cases here with
  | some addr => exact ((h' addr).mp ((h addr).mpr rfl)).symm
  | none =>
      cases here' with
      | none => rfl
      | some addr => exact (h addr).mp ((h' addr).mpr rfl)

theorem Rdev.At.of_mem (hsingle : rdev.Single) {ref : EptRef} (href : ref ∈ rdev.endpoints) :
    rdev.At (rdev.ept ref).service (some (rdev.ept ref).addr) := by
  intro addr
  constructor
  · rintro ⟨other, hother, rfl, hservice⟩
    rw [hsingle other hother ref href hservice]
  · intro heq
    exact ⟨ref, href, Option.some.inj heq, rfl⟩

theorem Rdev.At.of_not (hnone : ∀ ref ∈ rdev.endpoints, (rdev.ept ref).service ≠ service) :
    rdev.At service none := by
  intro addr
  constructor
  · rintro ⟨ref, href, -, hservice⟩
    exact absurd hservice (hnone ref href)
  · intro heq
    cases heq

theorem Rdev.exists_at (hsingle : rdev.Single) (service : List UInt8) :
    ∃ here, rdev.At service here := by
  by_cases hlive : ∃ ref ∈ rdev.endpoints, (rdev.ept ref).service = service
  · obtain ⟨ref, href, rfl⟩ := hlive
    exact ⟨_, .of_mem hsingle href⟩
  · exact ⟨none, .of_not fun ref href heq => hlive ⟨ref, href, heq⟩⟩

theorem RpmsgEndpoint.view_of_bound {ept : RpmsgEndpoint} (h : ept.destAddr ≠ RPMSG_ADDR_ANY) :
    ept.view = some ept.destAddr :=
  if_neg h

theorem RpmsgEndpoint.view_of_unbound {ept : RpmsgEndpoint} (h : ept.destAddr = RPMSG_ADDR_ANY) :
    ept.view = none :=
  if_pos h

theorem RpmsgEndpoint.view_eq_some {ept : RpmsgEndpoint} :
    ept.view = some addr ↔ ept.destAddr = addr ∧ addr ≠ RPMSG_ADDR_ANY := by
  unfold RpmsgEndpoint.view
  split_ifs with hany
  · constructor
    · intro h
      cases h
    · rintro ⟨rfl, hne⟩
      exact absurd hany hne
  · rw [Option.some_inj]
    constructor
    · rintro rfl
      exact ⟨rfl, hany⟩
    · exact And.left

/-! ### A message that arrives -/

/-- The endpoints of a side are where they were, whatever they are bound to. -/
structure Rdev.SameEnds (rdev rdev' : Rdev) : Prop where
  endpoints : rdev'.endpoints = rdev.endpoints
  addr : ∀ ref, (rdev'.ept ref).addr = (rdev.ept ref).addr
  service : ∀ ref, (rdev'.ept ref).service = (rdev.ept ref).service
  supportNs : rdev'.supportNs = rdev.supportNs

theorem Rdev.SameEnds.live (h : rdev.SameEnds rdev') :
    rdev'.Live addr service ↔ rdev.Live addr service := by
  unfold Rdev.Live
  simp only [h.endpoints, h.addr, h.service]

theorem Rdev.SameEnds.at_iff (h : rdev.SameEnds rdev') :
    rdev'.At service here ↔ rdev.At service here := by
  unfold Rdev.At
  simp only [h.live]

theorem Rdev.SameEnds.single (h : rdev.SameEnds rdev') (hsingle : rdev.Single) : rdev'.Single := by
  unfold Rdev.Single
  simp only [h.endpoints, h.service]
  exact hsingle

theorem Rdev.sameEnds_self (rdev : Rdev) : rdev.SameEnds rdev :=
  ⟨rfl, fun _ => rfl, fun _ => rfl, rfl⟩

theorem Rdev.sameEnds_setDestAddr (rdev : Rdev) (ref : EptRef) (dest : UInt32) :
    rdev.SameEnds (rdev.setDestAddr ref dest) := by
  refine ⟨rfl, fun other => ?_, fun other => ?_, rfl⟩
  · rw [Rdev.ept_setDestAddr]
    split_ifs with heq
    · rw [heq]
    · rfl
  · rw [Rdev.ept_setDestAddr]
    split_ifs with heq
    · rw [heq]
      rfl
    · rfl

theorem Rdev.sameEnds_learnDestAddr (rdev : Rdev) (ref : EptRef) (src : UInt32) :
    rdev.SameEnds (rdev.learnDestAddr ref src) := by
  unfold Rdev.learnDestAddr
  split_ifs
  · exact rdev.sameEnds_setDestAddr ref src
  · exact rdev.sameEnds_self

theorem Rdev.view_setDestAddr_of_ne {ref other : EptRef} (hne : other ≠ ref) (dest : UInt32) :
    ((rdev.setDestAddr ref dest).ept other).view = (rdev.ept other).view := by
  rw [Rdev.ept_setDestAddr, if_neg hne]

theorem Rdev.view_setDestAddr {ref : EptRef} {dest : UInt32} (hdest : dest ≠ RPMSG_ADDR_ANY) :
    ((rdev.setDestAddr ref dest).ept ref).view = some dest := by
  rw [Rdev.ept_setDestAddr, if_pos rfl]
  exact RpmsgEndpoint.view_of_bound hdest

theorem Rdev.view_setDestAddr_any {ref : EptRef} :
    ((rdev.setDestAddr ref RPMSG_ADDR_ANY).ept ref).view = none := by
  rw [Rdev.ept_setDestAddr, if_pos rfl]
  exact RpmsgEndpoint.view_of_unbound rfl

theorem Rdev.view_learnDestAddr {ref : EptRef} {src : UInt32} (hsrc : src ≠ RPMSG_ADDR_ANY) :
    ((rdev.learnDestAddr ref src).ept ref).view = follow (rdev.ept ref).view (.hear src) := by
  unfold Rdev.learnDestAddr
  split_ifs with hany
  · rw [Rdev.view_setDestAddr hsrc, RpmsgEndpoint.view_of_unbound hany]
    rfl
  · rw [RpmsgEndpoint.view_of_bound hany]
    rfl

theorem Rdev.view_learnDestAddr_of_ne {ref other : EptRef} (hne : other ≠ ref) (src : UInt32) :
    ((rdev.learnDestAddr ref src).ept other).view = (rdev.ept other).view := by
  unfold Rdev.learnDestAddr
  split_ifs
  · exact Rdev.view_setDestAddr_of_ne hne src
  · rfl

/-- What a message leaves of a side: its endpoints bound as what they hear says. -/
structure Rdev.Hears (rdev rdev' : Rdev) (packet : Packet) : Prop where
  ends : rdev.SameEnds rdev'
  view : ∀ i, .user i ∈ rdev.endpoints → (rdev'.ept (.user i)).view =
    replay (rdev.ept (.user i)).view
      (packet.event? (rdev.ept (.user i)).service (rdev.ept (.user i)).addr).toList

theorem Packet.event?_data (hservice : packet.service = some service) {other : List UInt8} :
    packet.event? other addr =
      if service = other ∧ packet.msg.dst = addr then some (.hear packet.msg.src) else none := by
  simp only [Packet.event?, hservice]

theorem event?_announcement {msg : RpmsgNsMsg} (hname : msg.name.length = RPMSG_NAME_SIZE) :
    (announcement msg).event? service addr =
      if nameChars msg.name = service then some msg.event else none := by
  have hparsed : RpmsgNsMsg.ofBytes msg.bytes = msg := RpmsgNsMsg.ofBytes_bytes hname
  have hevent : (announcement msg).event? service addr =
      if nameChars (RpmsgNsMsg.ofBytes msg.bytes).name = service then
        some (RpmsgNsMsg.ofBytes msg.bytes).event
      else none := rfl
  rw [hevent, hparsed]

/-- What is heard of an announcement of an endpoint. -/
theorem heard_announcement (ept : RpmsgEndpoint) (flags : UInt32) :
    heard service addr (some (announcement ⟨strncpy ept.name, ept.addr, flags⟩)).toList =
      if ept.service = service then [(RpmsgNsMsg.mk (strncpy ept.name) ept.addr flags).event]
      else [] := by
  have hevent : (announcement ⟨strncpy ept.name, ept.addr, flags⟩).event? service addr =
      if nameChars (strncpy ept.name) = service then
        some (RpmsgNsMsg.mk (strncpy ept.name) ept.addr flags).event else none :=
    event?_announcement (length_strncpy ept.name)
  rw [nameChars_strncpy] at hevent
  unfold heard RpmsgEndpoint.service
  split_ifs with hservice
  · rw [if_pos hservice] at hevent
    exact List.filterMap_cons_some hevent
  · rw [if_neg hservice] at hevent
    exact List.filterMap_cons_none hevent

theorem SideInv.hears_data (h : SideInv rdev (packet :: rest))
    (hservice : packet.service = some service) (haddressed : packet.Addressed)
    (htargets : ∀ service', rdev.Live packet.msg.dst service' → service = service') :
    rdev.Hears (rpmsgVirtioRxCallback rdev packet.msg).1 packet := by
  have hwf := h.packets packet List.mem_cons_self
  simp only [Packet.WellFormed, hservice] at hwf
  simp only [Packet.Addressed, hservice] at haddressed
  have hsilent {i : Nat} (hne : packet.msg.dst ≠ (rdev.ept (.user i)).addr) :
      packet.event? (rdev.ept (.user i)).service (rdev.ept (.user i)).addr = none := by
    rw [Packet.event?_data hservice, if_neg fun hand => hne hand.2]
  cases hfound : rpmsgGetEptFromAddr rdev packet.msg.dst with
  | none =>
      have hcall : (rpmsgVirtioRxCallback rdev packet.msg).1 = rdev := by
        simp only [rpmsgVirtioRxCallback, hfound]
      rw [hcall]
      refine ⟨rdev.sameEnds_self, fun i hi => ?_⟩
      rw [hsilent]
      · rfl
      · intro hdst
        rw [hdst, rpmsgGetEptFromAddr_eq (h.inv.addr_ne_any hi)] at hfound
        exact absurd (decide_eq_true rfl) (List.find?_eq_none.mp hfound (.user i) hi)
  | some ref =>
      obtain ⟨k, rfl, hk, haddr⟩ := h.getEpt_user hfound hwf.2
      rw [h.rxCallback_user hk hfound]
      refine ⟨rdev.sameEnds_learnDestAddr _ _, fun i hi => ?_⟩
      by_cases hik : i = k
      · subst hik
        have hsender := htargets _ ⟨.user i, hk, haddr, rfl⟩
        rw [Packet.event?_data hservice, if_pos ⟨hsender, haddr.symm⟩]
        exact Rdev.view_learnDestAddr haddressed
      · have hne : EptRef.user i ≠ .user k := fun heq => hik (EptRef.user.inj heq)
        rw [Rdev.view_learnDestAddr_of_ne hne, hsilent]
        · rfl
        · intro hdst
          refine hne (h.inv.unique _ hi _ hk (hdst.symm.trans haddr.symm) ?_)
          rw [← hdst]
          exact hwf.2

theorem SideInv.rxCallback_announcement {msg : RpmsgNsMsg}
    (h : SideInv rdev (announcement msg :: rest)) :
    rpmsgVirtioRxCallback rdev (announcement msg).msg =
      rpmsgVirtioNsCallback rdev .nsEpt msg.bytes := by
  have hlearn : rdev.learnDestAddr .nsEpt (announcement msg).msg.src = rdev := by
    rw [Rdev.learnDestAddr, if_neg]
    rw [h.nsDest]
    decide
  have hget : rpmsgGetEptFromAddr rdev (announcement msg).msg.dst = some .nsEpt := h.getEpt_ns
  simp only [rpmsgVirtioRxCallback, hget, hlearn, h.nsCb]
  rfl

/-- The candidate is bound to what is announced, or unbound. -/
theorem SideInv.announce (h : SideInv rdev inbox) {msg : RpmsgNsMsg} {ept : EptRef}
    (hname : msg.name.length = RPMSG_NAME_SIZE) :
    (rpmsgVirtioNsCallback rdev ept msg.bytes).1 =
      match rdev.firstCandidate msg.name msg.addr with
      | none => rdev
      | some ref => rdev.setDestAddr ref
          (if msg.flags &&& RPMSG_NS_DESTROY = 0 then msg.addr else RPMSG_ADDR_ANY) := by
  rw [rpmsgVirtioNsCallback_eq h.addr_ne_any (RpmsgNsMsg.length_bytes hname)
    (RpmsgNsMsg.ofBytes_bytes hname)]
  cases rdev.firstCandidate msg.name msg.addr with
  | none => rfl
  | some ref =>
      by_cases hcreate : msg.flags &&& RPMSG_NS_DESTROY = 0
      · simp only [hcreate, ne_eq, not_true_eq_false, if_false, if_true]
      · simp only [hcreate, ne_eq, not_false_eq_true, if_false, if_true]

theorem Rdev.view_announced {ref : EptRef} {msg : RpmsgNsMsg} (haddr : msg.addr ≠ RPMSG_ADDR_ANY)
    (hcandidate : rdev.BoundTo msg.addr ref ∨ rdev.Unbound ref) :
    ((rdev.setDestAddr ref
        (if msg.flags &&& RPMSG_NS_DESTROY = 0 then msg.addr else RPMSG_ADDR_ANY)).ept ref).view =
      follow (rdev.ept ref).view msg.event := by
  have hview : (rdev.ept ref).view = some msg.addr ∨ (rdev.ept ref).view = none :=
    hcandidate.imp RpmsgEndpoint.view_eq_some.mpr RpmsgEndpoint.view_of_unbound
  unfold RpmsgNsMsg.event
  split_ifs
  · rw [Rdev.view_setDestAddr haddr]
    obtain heq | heq := hview
    · rw [heq]
      rfl
    · rw [heq]
      rfl
  · rw [Rdev.view_setDestAddr_any]
    obtain heq | heq := hview
    · rw [heq]
      exact (if_pos rfl).symm
    · rw [heq]
      rfl

/-- An endpoint that is bound elsewhere is no candidate. -/
theorem Rdev.view_not_announced {ref : EptRef} {msg : RpmsgNsMsg}
    (hcandidate : ¬ (rdev.BoundTo msg.addr ref ∨ rdev.Unbound ref)) :
    follow (rdev.ept ref).view msg.event = (rdev.ept ref).view := by
  obtain ⟨hbound, hunbound⟩ := not_or.mp hcandidate
  have hview := RpmsgEndpoint.view_of_bound hunbound
  have hne : (rdev.ept ref).view ≠ some msg.addr := fun heq =>
    hbound (RpmsgEndpoint.view_eq_some.mp heq)
  unfold RpmsgNsMsg.event
  split_ifs
  · rw [hview]
    rfl
  · exact if_neg hne

theorem SideInv.hears_announcement {msg : RpmsgNsMsg}
    (h : SideInv rdev (announcement msg :: rest)) (hsingle : rdev.Single)
    (hname : msg.name.length = RPMSG_NAME_SIZE) (haddr : msg.addr ≠ RPMSG_ADDR_ANY) :
    rdev.Hears (rpmsgVirtioRxCallback rdev (announcement msg).msg).1 (announcement msg) := by
  rw [h.rxCallback_announcement, h.announce hname]
  cases hfound : rdev.firstCandidate msg.name msg.addr with
  | none =>
      dsimp only
      refine ⟨rdev.sameEnds_self, fun i hi => ?_⟩
      rw [event?_announcement hname]
      split_ifs with hservice
      · exact (Rdev.view_not_announced (Rdev.not_of_firstCandidate hfound hi hservice.symm)).symm
      · rfl
  | some ref =>
      obtain ⟨href, hnamed, hcandidate⟩ := Rdev.mem_of_firstCandidate hfound
      dsimp only
      refine ⟨rdev.sameEnds_setDestAddr ref _, fun i hi => ?_⟩
      rw [event?_announcement hname]
      by_cases hservice : nameChars msg.name = (rdev.ept (.user i)).service
      · obtain rfl := hsingle ref href _ hi (Eq.trans hnamed hservice)
        rw [if_pos hservice]
        exact Rdev.view_announced haddr hcandidate
      · have hne : EptRef.user i ≠ ref := by
          rintro rfl
          exact hservice hnamed.symm
        rw [if_neg hservice]
        exact Rdev.view_setDestAddr_of_ne hne _

/-- A message does to the endpoints of a side what it tells them. -/
theorem SideInv.hears (h : SideInv rdev (packet :: rest)) (hsingle : rdev.Single)
    (haddressed : packet.Addressed)
    (htargets : ∀ service service', packet.service = some service →
      rdev.Live packet.msg.dst service' → service = service') :
    rdev.Hears (rpmsgVirtioRxCallback rdev packet.msg).1 packet := by
  cases hservice : packet.service with
  | some service =>
      exact h.hears_data hservice haddressed fun service' => htargets service service' hservice
  | none =>
      have hwf := h.packets packet List.mem_cons_self
      simp only [Packet.WellFormed, hservice] at hwf
      obtain ⟨msg, rfl, hname, -⟩ := hwf
      have haddr : (RpmsgNsMsg.ofBytes msg.bytes).addr ≠ RPMSG_ADDR_ANY := haddressed
      rw [RpmsgNsMsg.ofBytes_bytes hname] at haddr
      exact h.hears_announcement hsingle hname haddr

/-! ### One side and what it has still to hear -/

/-- What a side has still to hear of a service leads from where its endpoint has last found the other
end, if it has, to where that end is now. -/
structure Follows (rdev peer : Rdev) (inbox : List Packet) : Prop where
  addressed : ∀ packet ∈ inbox, packet.Addressed
  history : ∀ service addr, service ≠ [] → ∃ here last, peer.At service last ∧
    History here (heard service addr inbox) last ∧
      ∀ i, .user i ∈ rdev.endpoints → (rdev.ept (.user i)).service = service →
        (rdev.ept (.user i)).addr = addr → Trails (rdev.ept (.user i)).view here

/-- An endpoint that has heard everything will know where the other end is, or that there is none. -/
def Finds (rdev peer : Rdev) (inbox : List Packet) (i : Nat) : Prop :=
  ∀ here, peer.At (rdev.ept (.user i)).service here →
    replay (rdev.ept (.user i)).view
      (heard (rdev.ept (.user i)).service (rdev.ept (.user i)).addr inbox) = here

/-- A packet tells of a change of the sender's endpoints. -/
def Tells (peer peer' : Rdev) (packet : Option Packet) : Prop :=
  ∀ service addr last, service ≠ [] → peer.At service last →
    ∃ next, peer'.At service next ∧ History last (heard service addr packet.toList) next

theorem Follows.receive (h : Follows rdev peer (packet :: rest)) (hhears : rdev.Hears rdev' packet) :
    Follows rdev' peer rest := by
  refine ⟨fun p hp => h.addressed p (List.mem_cons_of_mem _ hp), fun service addr hservice => ?_⟩
  obtain ⟨here, last, hlast, hhistory, htrails⟩ := h.history service addr hservice
  rw [heard_cons] at hhistory
  obtain ⟨middle, hfirst, hlater⟩ := hhistory.of_append
  refine ⟨middle, last, hlast, hlater, fun i hi hname haddr => ?_⟩
  rw [hhears.ends.endpoints] at hi
  rw [hhears.ends.service] at hname
  rw [hhears.ends.addr] at haddr
  rw [hhears.view i hi, hname, haddr]
  exact (htrails i hi hname haddr).replay hfirst

theorem Finds.receive (h : Finds rdev peer (packet :: rest) i) (hi : .user i ∈ rdev.endpoints)
    (hhears : rdev.Hears rdev' packet) : Finds rdev' peer rest i := by
  intro here hhere
  rw [hhears.ends.service] at hhere
  have hright := h here hhere
  rw [heard_cons, replay_append] at hright
  rw [hhears.view i hi, hhears.ends.service, hhears.ends.addr]
  exact hright

theorem Follows.post (h : Follows rdev peer inbox) {packet : Option Packet}
    (haddressed : ∀ p ∈ packet, p.Addressed) (htells : Tells peer peer' packet) :
    Follows rdev peer' (inbox ++ packet.toList) := by
  refine ⟨fun p hp => ?_, fun service addr hservice => ?_⟩
  · obtain hold | hnew := List.mem_append.mp hp
    · exact h.addressed p hold
    · exact haddressed p (Option.mem_toList.mp hnew)
  · obtain ⟨here, last, hlast, hhistory, htrails⟩ := h.history service addr hservice
    obtain ⟨next, hnext, hlater⟩ := htells service addr last hservice hlast
    refine ⟨here, next, hnext, ?_, htrails⟩
    rw [heard_append]
    exact hhistory.append hlater

theorem Finds.post (h : Finds rdev peer inbox i) {packet : Option Packet}
    (hservice : (rdev.ept (.user i)).service ≠ []) (hsingle : peer.Single)
    (htells : Tells peer peer' packet) : Finds rdev peer' (inbox ++ packet.toList) i := by
  intro here hhere
  obtain ⟨last, hlast⟩ := Rdev.exists_at hsingle (rdev.ept (.user i)).service
  obtain ⟨next, hnext, hlater⟩ := htells _ (rdev.ept (.user i)).addr last hservice hlast
  rw [heard_append, replay_append, h last hlast, replay_here hlater]
  exact hnext.unique hhere

theorem Follows.trails (h : Follows rdev peer inbox) (hi : .user i ∈ rdev.endpoints)
    (hservice : (rdev.ept (.user i)).service ≠ []) (hhere : peer.At (rdev.ept (.user i)).service here) :
    Trails (replay (rdev.ept (.user i)).view
      (heard (rdev.ept (.user i)).service (rdev.ept (.user i)).addr inbox)) here := by
  obtain ⟨before, last, hlast, hhistory, htrails⟩ := h.history _ (rdev.ept (.user i)).addr hservice
  rw [← hlast.unique hhere]
  exact (htrails i hi rfl rfl).replay hhistory

/-- As long as there is no other end, an endpoint will not take anything for it. -/
theorem Follows.finds_of_absent (h : Follows rdev peer inbox) (hi : .user i ∈ rdev.endpoints)
    (hservice : (rdev.ept (.user i)).service ≠ [])
    (habsent : peer.At (rdev.ept (.user i)).service none) : Finds rdev peer inbox i := by
  intro here hhere
  rw [hhere.unique habsent]
  exact (h.trails hi hservice habsent).elim id id

/-- An endpoint of the own side is as it was, or new and not bound. -/
def Rdev.Keeps (rdev rdev' : Rdev) (i : Nat) : Prop :=
  (.user i ∈ rdev.endpoints ∧ rdev'.ept (.user i) = rdev.ept (.user i)) ∨
    ((rdev'.ept (.user i)).view = none ∧ rdev.At (rdev'.ept (.user i)).service none)

theorem Follows.own (h : Follows rdev peer inbox)
    (hkeeps : ∀ i, .user i ∈ rdev'.endpoints → rdev.Keeps rdev' i) : Follows rdev' peer inbox := by
  refine ⟨h.addressed, fun service addr hservice => ?_⟩
  obtain ⟨here, last, hlast, hhistory, htrails⟩ := h.history service addr hservice
  refine ⟨here, last, hlast, hhistory, fun i hi hname haddr => ?_⟩
  obtain ⟨hold, hsame⟩ | ⟨hview, -⟩ := hkeeps i hi
  · rw [hsame] at hname haddr ⊢
    exact htrails i hold hname haddr
  · exact .inl hview

end Heard

/-! ### Both sides -/

/-- What holds throughout a run: both sides follow each other, and of two ends one at least will find
the other. -/
structure RendezvousInv (s : ChannelSystem) : Prop where
  channel : ChannelInv s
  supportNs : ∀ role, (s.rdev role).supportNs = true
  single : ∀ role, (s.rdev role).Single
  follows : ∀ role, Follows (s.rdev role) (s.rdev role.peer) (s.inbox role)
  finds : ∀ role i j, .user i ∈ (s.rdev role).endpoints → .user j ∈ (s.rdev role.peer).endpoints →
    ((s.rdev role).ept (.user i)).service = ((s.rdev role.peer).ept (.user j)).service →
      ((s.rdev role).ept (.user i)).service ≠ [] →
        Finds (s.rdev role) (s.rdev role.peer) (s.inbox role) i ∨
          Finds (s.rdev role.peer) (s.rdev role) (s.inbox role.peer) j

section Steps

variable {s s' : ChannelSystem} {role : Role} {rdev' : Rdev} {packet : Option Packet}

/-- It is enough to look at the pairs of two ends from one side. -/
theorem RendezvousInv.of_side (channel : ChannelInv s) (role : Role)
    (supportNs : ∀ role, (s.rdev role).supportNs = true) (single : ∀ role, (s.rdev role).Single)
    (own : Follows (s.rdev role) (s.rdev role.peer) (s.inbox role))
    (other : Follows (s.rdev role.peer) (s.rdev role) (s.inbox role.peer))
    (finds : ∀ i j, .user i ∈ (s.rdev role).endpoints → .user j ∈ (s.rdev role.peer).endpoints →
      ((s.rdev role).ept (.user i)).service = ((s.rdev role.peer).ept (.user j)).service →
        ((s.rdev role).ept (.user i)).service ≠ [] →
          Finds (s.rdev role) (s.rdev role.peer) (s.inbox role) i ∨
            Finds (s.rdev role.peer) (s.rdev role) (s.inbox role.peer) j) : RendezvousInv s where
  channel := channel
  supportNs := supportNs
  single := single
  follows := by
    refine (Role.forall_iff role).mpr ⟨own, ?_⟩
    rw [Role.peer_peer]
    exact other
  finds := by
    refine (Role.forall_iff role).mpr ⟨finds, fun i j hi hj hsame hservice => ?_⟩
    rw [Role.peer_peer] at hj hsame ⊢
    exact (finds j i hj hi hsame.symm (hsame ▸ hservice)).symm

theorem ChannelSystem.rdev_post_self (s : ChannelSystem) (role : Role) (rdev' : Rdev)
    (packet : Option Packet) : (s.post role rdev' packet).rdev role = rdev' :=
  Function.update_self ..

theorem ChannelSystem.rdev_post_peer (s : ChannelSystem) (role : Role) (rdev' : Rdev)
    (packet : Option Packet) : (s.post role rdev' packet).rdev role.peer = s.rdev role.peer :=
  Function.update_of_ne role.ne_peer.symm ..

theorem ChannelSystem.inbox_post_self (s : ChannelSystem) (role : Role) (rdev' : Rdev)
    (packet : Option Packet) : (s.post role rdev' packet).inbox role = s.inbox role :=
  Function.update_of_ne role.ne_peer ..

theorem ChannelSystem.inbox_post_peer (s : ChannelSystem) (role : Role) (rdev' : Rdev)
    (packet : Option Packet) :
    (s.post role rdev' packet).inbox role.peer = s.inbox role.peer ++ packet.toList :=
  Function.update_self ..

theorem RendezvousInv.post (h : RendezvousInv s) (hchannel : ChannelInv (s.post role rdev' packet))
    (hns : rdev'.supportNs = true) (hsingle : rdev'.Single)
    (haddressed : ∀ p ∈ packet, p.Addressed) (htells : Tells (s.rdev role) rdev' packet)
    (hkeeps : ∀ i, .user i ∈ rdev'.endpoints → (s.rdev role).Keeps rdev' i) :
    RendezvousInv (s.post role rdev' packet) := by
  have hfollows := h.follows role.peer
  rw [Role.peer_peer] at hfollows
  refine .of_side hchannel role ?_ ?_ ?_ ?_ ?_
  · refine (Role.forall_iff role).mpr ⟨?_, ?_⟩
    · rw [s.rdev_post_self]
      exact hns
    · rw [s.rdev_post_peer]
      exact h.supportNs role.peer
  · refine (Role.forall_iff role).mpr ⟨?_, ?_⟩
    · rw [s.rdev_post_self]
      exact hsingle
    · rw [s.rdev_post_peer]
      exact h.single role.peer
  · rw [s.rdev_post_self, s.rdev_post_peer, s.inbox_post_self]
    exact (h.follows role).own hkeeps
  · rw [s.rdev_post_self, s.rdev_post_peer, s.inbox_post_peer]
    exact hfollows.post haddressed htells
  · rw [s.rdev_post_self, s.rdev_post_peer, s.inbox_post_self, s.inbox_post_peer]
    intro i j hi hj hsame hservice
    have hservice' : ((s.rdev role.peer).ept (.user j)).service ≠ [] := hsame ▸ hservice
    obtain ⟨hold, hkept⟩ | ⟨-, habsent⟩ := hkeeps i hi
    · rw [hkept] at hsame hservice
      obtain hown | hother := h.finds role i j hold hj hsame hservice
      · left
        intro here hhere
        rw [hkept] at hhere ⊢
        exact hown here hhere
      · exact .inr (hother.post hservice' (h.single role) htells)
    · rw [hsame] at habsent
      exact .inr ((hfollows.finds_of_absent hj hservice' habsent).post hservice' (h.single role) htells)

/-- What a message that arrives changes, and what it does not. -/
theorem ChannelSystem.receive_cases (hstep : s.receive role = some s') :
    ∃ packet rest, s.inbox role = packet :: rest ∧
      s'.rdev role = (rpmsgVirtioRxCallback (s.rdev role) packet.msg).1 ∧
      s'.rdev role.peer = s.rdev role.peer ∧ s'.inbox role = rest ∧
      s'.inbox role.peer = s.inbox role.peer ∧
      s'.delivered = s.delivered ++ handedOver (rpmsgVirtioRxCallback (s.rdev role) packet.msg).1
        packet (rpmsgVirtioRxCallback (s.rdev role) packet.msg).2 := by
  unfold ChannelSystem.receive at hstep
  split at hstep
  next => cases hstep
  next packet rest hinbox =>
    obtain rfl := Option.some.inj hstep
    exact ⟨packet, rest, hinbox, Function.update_self .., Function.update_of_ne role.ne_peer.symm ..,
      Function.update_self .., Function.update_of_ne role.ne_peer.symm .., rfl⟩

theorem RendezvousInv.receive (h : RendezvousInv s) (hchannel : ChannelInv s')
    (hstep : s.receive role = some s') : RendezvousInv s' := by
  obtain ⟨packet, rest, hinbox, hrdev, hrdevPeer, hrest, hrestPeer, -⟩ :=
    ChannelSystem.receive_cases hstep
  have hside := h.channel.side role
  have hown := h.follows role
  have hother := h.follows role.peer
  rw [hinbox] at hside hown
  rw [Role.peer_peer] at hother
  have hhears := hside.hears (h.single role) (hown.addressed packet List.mem_cons_self)
    fun service service' hservice hlive => by
      refine h.channel.targets role _ _ _ ⟨packet, ?_, rfl, hservice⟩ hlive
      rw [hinbox]
      exact List.mem_cons_self
  rw [← hrdev] at hhears
  refine .of_side hchannel role ?_ ?_ ?_ ?_ ?_
  · refine (Role.forall_iff role).mpr ⟨?_, ?_⟩
    · rw [hhears.ends.supportNs]
      exact h.supportNs role
    · rw [hrdevPeer]
      exact h.supportNs role.peer
  · refine (Role.forall_iff role).mpr ⟨?_, ?_⟩
    · exact hhears.ends.single (h.single role)
    · rw [hrdevPeer]
      exact h.single role.peer
  · rw [hrdevPeer, hrest]
    exact hown.receive hhears
  · rw [hrdevPeer, hrestPeer]
    refine ⟨hother.addressed, fun service addr hservice => ?_⟩
    obtain ⟨here, last, hlast, hhistory⟩ := hother.history service addr hservice
    exact ⟨here, last, hhears.ends.at_iff.mpr hlast, hhistory⟩
  · rw [hrdevPeer, hrest, hrestPeer]
    intro i j hi hj hsame hservice
    rw [hhears.ends.endpoints] at hi
    rw [hhears.ends.service] at hsame hservice
    obtain hfinds | hfinds := h.finds role i j hi hj hsame hservice
    · rw [hinbox] at hfinds
      exact .inl (hfinds.receive hi hhears)
    · exact .inr fun here hhere => hfinds here (hhears.ends.at_iff.mp hhere)

/-! ### What the sides say -/

theorem RpmsgEndpoint.named_iff (ept : RpmsgEndpoint) : ept.named = true ↔ ept.service ≠ [] := by
  unfold RpmsgEndpoint.named RpmsgEndpoint.service nameChars
  cases ept.name with
  | nil => simp
  | cons char chars =>
      by_cases hzero : char = 0
      · simp [hzero, RPMSG_NAME_SIZE]
      · simp [hzero, RPMSG_NAME_SIZE]

section Tells

variable {rdev : Rdev} {new : EptRef} {ept : RpmsgEndpoint} {addr : UInt32} {service : List UInt8}
  {here : Option UInt32}

/-- An endpoint of another service makes no difference. -/
theorem Rdev.Adds.at_of_ne (hadds : rdev.Adds rdev' new ept) (hnew : new ∉ rdev.endpoints)
    (hne : ept.service ≠ service) (h : rdev.At service here) : rdev'.At service here := by
  intro addr
  rw [← h addr]
  constructor
  · intro hlive
    obtain hold | ⟨-, hservice⟩ := hadds.live_cases hlive
    · exact hold
    · exact absurd hservice hne
  · rintro ⟨ref, href, haddr, hservice⟩
    have hother := hadds.other ref fun heq => hnew (heq ▸ href)
    exact ⟨ref, (hadds.mem ref).mpr (.inl href), by rw [hother, haddr], by rw [hother, hservice]⟩

theorem Rdev.Adds.single (hadds : rdev.Adds rdev' new ept) (hsingle : rdev.Single)
    (hunused : ∀ ref ∈ rdev.endpoints, (rdev.ept ref).service ≠ ept.service) : rdev'.Single := by
  have hcases {ref : EptRef} (href : ref ∈ rdev'.endpoints) :
      ref = new ∨ ref ∈ rdev.endpoints ∧ rdev'.ept ref = rdev.ept ref := by
    by_cases heq : ref = new
    · exact .inl heq
    · exact .inr ⟨((hadds.mem ref).mp href).resolve_right heq, hadds.other ref heq⟩
  intro ref href ref' href' hsame
  obtain rfl | ⟨hold, hkept⟩ := hcases href
  · obtain rfl | ⟨hold', hkept'⟩ := hcases href'
    · rfl
    · rw [hadds.self, hkept'] at hsame
      exact absurd hsame.symm (hunused ref' hold')
  · obtain rfl | ⟨hold', hkept'⟩ := hcases href'
    · rw [hadds.self, hkept] at hsame
      exact absurd hsame (hunused ref hold)
    · rw [hkept, hkept'] at hsame
      exact hsingle ref hold ref' hold' hsame

/-- A new endpoint is announced if it has a name. -/
theorem tells_created (hadds : rdev.Adds rdev' new ept) (hnew : new ∉ rdev.endpoints)
    (hunused : ∀ ref ∈ rdev.endpoints, (rdev.ept ref).service ≠ ept.service)
    (hsingle : rdev'.Single) {msg : Option RpmsgNsMsg}
    (hmsg : msg = if ept.named then some ⟨strncpy ept.name, ept.addr, RPMSG_NS_CREATE⟩ else none) :
    Tells rdev rdev' (msg.map announcement) := by
  intro service addr last hservice hlast
  by_cases hsame : ept.service = service
  · subst hsame
    have hnext := Rdev.At.of_mem hsingle ((hadds.mem new).mpr (.inr rfl))
    rw [hadds.self] at hnext
    obtain rfl : last = none := hlast.unique (.of_not hunused)
    rw [hmsg, if_pos ((ept.named_iff).mpr hservice), Option.map_some, heard_announcement,
      if_pos rfl, RpmsgNsMsg.event_create]
    exact ⟨_, hnext, .cons (.appear ept.addr) (.nil _)⟩
  · refine ⟨last, hadds.at_of_ne hnew hsame hlast, ?_⟩
    rw [hmsg]
    split_ifs
    · rw [Option.map_some, heard_announcement, if_neg hsame]
      exact .nil last
    · exact .nil last

/-- An endpoint is taken from a device. -/
structure Rdev.Removes (rdev rdev' : Rdev) (gone : EptRef) : Prop where
  other : ∀ ref, ref ≠ gone → rdev'.ept ref = rdev.ept ref
  mem : ∀ ref, ref ∈ rdev'.endpoints ↔ ref ≠ gone ∧ ref ∈ rdev.endpoints

theorem Rdev.Removes.single {gone : EptRef} (h : rdev.Removes rdev' gone) (hsingle : rdev.Single) :
    rdev'.Single := by
  intro ref href ref' href' hsame
  obtain ⟨hne, hold⟩ := (h.mem ref).mp href
  obtain ⟨hne', hold'⟩ := (h.mem ref').mp href'
  rw [h.other ref hne, h.other ref' hne'] at hsame
  exact hsingle ref hold ref' hold' hsame

theorem Rdev.Removes.at_of_ne {gone : EptRef} (h : rdev.Removes rdev' gone)
    (hne : (rdev.ept gone).service ≠ service) (hhere : rdev.At service here) :
    rdev'.At service here := by
  intro addr
  rw [← hhere addr]
  constructor
  · rintro ⟨ref, href, haddr, hservice⟩
    obtain ⟨hother, hold⟩ := (h.mem ref).mp href
    rw [h.other ref hother] at haddr hservice
    exact ⟨ref, hold, haddr, hservice⟩
  · rintro ⟨ref, href, haddr, hservice⟩
    have hother : ref ≠ gone := by
      rintro rfl
      exact hne hservice
    rw [← h.other ref hother] at haddr hservice
    exact ⟨ref, (h.mem ref).mpr ⟨hother, href⟩, haddr, hservice⟩

/-- The end of an endpoint is announced if it has a name. -/
theorem tells_destroyed {gone : EptRef} (h : rdev.Removes rdev' gone) (hgone : gone ∈ rdev.endpoints)
    (hsingle : rdev.Single) {msg : Option RpmsgNsMsg}
    (hmsg : msg = if (rdev.ept gone).named then
      some ⟨strncpy (rdev.ept gone).name, (rdev.ept gone).addr, RPMSG_NS_DESTROY⟩ else none) :
    Tells rdev rdev' (msg.map announcement) := by
  intro service addr last hservice hlast
  by_cases hsame : (rdev.ept gone).service = service
  · subst hsame
    obtain rfl := hlast.unique (.of_mem hsingle hgone)
    rw [hmsg, if_pos ((rdev.ept gone).named_iff.mpr hservice), Option.map_some, heard_announcement,
      if_pos rfl, RpmsgNsMsg.event_destroy]
    refine ⟨none, .of_not fun ref href hsame => ?_, .cons (.vanish _) (.nil _)⟩
    obtain ⟨hne, hold⟩ := (h.mem ref).mp href
    rw [h.other ref hne] at hsame
    exact hne (hsingle ref hold gone hgone hsame)
  · refine ⟨last, h.at_of_ne hsame hlast, ?_⟩
    rw [hmsg]
    split_ifs
    · rw [Option.map_some, heard_announcement, if_neg hsame]
      exact .nil last
    · exact .nil last

/-- A message shows where the endpoint is that sends it. -/
theorem tells_sent (hsingle : rdev.Single) {ref : EptRef} (href : ref ∈ rdev.endpoints) (dst : UInt32)
    (data : List UInt8) :
    Tells rdev rdev (some ⟨⟨(rdev.ept ref).addr, dst, data⟩, some (rdev.ept ref).service⟩) := by
  intro service addr last hservice hlast
  refine ⟨last, hlast, ?_⟩
  let packet : Packet := ⟨⟨(rdev.ept ref).addr, dst, data⟩, some (rdev.ept ref).service⟩
  have hevent : packet.event? service addr =
      if (rdev.ept ref).service = service ∧ dst = addr then some (.hear (rdev.ept ref).addr)
      else none := Packet.event?_data rfl
  unfold heard
  split_ifs at hevent with haddressed
  · obtain ⟨rfl, -⟩ := haddressed
    obtain rfl := hlast.unique (.of_mem hsingle href)
    rw [Option.toList_some, List.filterMap_cons_some hevent]
    exact .cons (.hear _) (.nil _)
  · rw [Option.toList_some, List.filterMap_cons_none hevent]
    exact .nil last

end Tells

/-! ### The steps -/

theorem ChannelInv.addr_ne_any (h : ChannelInv s) {ref : EptRef}
    (href : ref ∈ (s.rdev role).endpoints) : ((s.rdev role).ept ref).addr ≠ RPMSG_ADDR_ANY :=
  (h.side role).inv.addr_ne_any href

theorem addressed_announcement {msg : RpmsgNsMsg} (hname : msg.name.length = RPMSG_NAME_SIZE)
    (haddr : msg.addr ≠ RPMSG_ADDR_ANY) : (announcement msg).Addressed := by
  change (RpmsgNsMsg.ofBytes msg.bytes).addr ≠ RPMSG_ADDR_ANY
  rw [RpmsgNsMsg.ofBytes_bytes hname]
  exact haddr

/-- `rpmsg_create_ept` where an address is free: an endpoint with a name is announced. -/
theorem rpmsgCreateEpt_announces {rdev : Rdev} (ref : EptRef) (name : Option (List UInt8))
    {src addr : UInt32} (unbindCb : Bool) {ret : Int} (hret : 0 ≤ ret) {bitmap : Nat → Bool}
    (hns : rdev.supportNs = true) (hclaim : rpmsgClaimAddress rdev.bitmap src = .ok (bitmap, addr)) :
    ∃ status ept, ept = ⟨strncpy (name.getD []), true, addr, RPMSG_ADDR_ANY, .user, unbindCb⟩ ∧
      rpmsgCreateEpt rdev (some ref) name src RPMSG_ADDR_ANY unbindCb ret =
        ({ rdev with bitmap, endpoints := rdev.endpoints ++ [ref] }.setEpt ref ept, status,
          if ept.named then some ⟨strncpy ept.name, ept.addr, RPMSG_NS_CREATE⟩ else none) := by
  simp only [rpmsgCreateEpt, hclaim, Rdev.register_eq, Rdev.setEpt_self, rpmsgSendNsMessage,
    if_neg (not_lt.mpr hret)]
  split_ifs with hsend hstatus
  · exact absurd rfl hstatus
  · refine ⟨RPMSG_SUCCESS, _, rfl, ?_⟩
    rw [if_pos hsend.1]
  · refine ⟨RPMSG_SUCCESS, _, rfl, ?_⟩
    rw [if_neg fun hnamed => hsend ⟨hnamed, hns, trivial⟩]

theorem RendezvousInv.create (h : RendezvousInv s) {i : Nat} {name : Option (List UInt8)}
    {unbindCb : Bool} (hallowed : s.Allowed (.create role i name unbindCb))
    (hchannel : ChannelInv (s.create role i name unbindCb)) :
    RendezvousInv (s.create role i name unbindCb) := by
  obtain ⟨hnew, hunused⟩ := hallowed
  cases hclaim : rpmsgClaimAddress (s.rdev role).bitmap RPMSG_ADDR_ANY with
  | error status =>
      simp only [ChannelSystem.create, rpmsgCreateEpt, hclaim]
      rw [Option.map_none, ChannelSystem.post_self]
      exact h
  | ok claim =>
      obtain ⟨bitmap, addr⟩ := claim
      have hret : (0 : Int) ≤ RPMSG_NS_MSG_SIZE := by decide
      obtain ⟨status, ept, hept, hcall⟩ :=
        rpmsgCreateEpt_announces (.user i) name unbindCb hret (h.supportNs role) hclaim
      simp only [ChannelSystem.create, hcall] at hchannel ⊢
      have hadds := Rdev.adds_setEpt (s.rdev role) bitmap (.user i) ept
      have hservice : ept.service = nameChars (name.getD []) := by
        rw [hept]
        exact nameChars_strncpy _
      have hother : ∀ ref ∈ (s.rdev role).endpoints,
          ((s.rdev role).ept ref).service ≠ ept.service := by
        rw [hservice]
        exact hunused
      have hsingle := hadds.single (h.single role) hother
      refine h.post hchannel (h.supportNs role) hsingle ?_
        (tells_created hadds hnew hother hsingle rfl) fun j hj => ?_
      · intro p hp
        obtain ⟨msg, hmsg, rfl⟩ := Option.map_eq_some_iff.mp hp
        split_ifs at hmsg
        obtain rfl := Option.some.inj hmsg
        refine addressed_announcement (length_strncpy _) ?_
        have hside := (hchannel.side role).inv
        rw [ChannelSystem.rdev_post_self] at hside
        have haddr := hside.addr_ne_any ((hadds.mem _).mpr (.inr rfl))
        rw [hadds.self] at haddr
        exact haddr
      · by_cases heq : EptRef.user j = .user i
        · right
          rw [heq, hadds.self]
          refine ⟨RpmsgEndpoint.view_of_unbound ?_, .of_not hother⟩
          rw [hept]
        · exact .inl ⟨((hadds.mem _).mp hj).resolve_right heq, hadds.other _ heq⟩

theorem RendezvousInv.destroy (h : RendezvousInv s) (i : Nat)
    (hchannel : ChannelInv (s.destroy role i)) : RendezvousInv (s.destroy role i) := by
  have hside := h.channel.side role
  simp only [ChannelSystem.destroy, rpmsgDestroyEpt] at hchannel ⊢
  by_cases hrdev : ((s.rdev role).ept (.user i)).rdev = false
  · simp only [if_pos hrdev]
    rw [Option.map_none, ChannelSystem.post_self]
    exact h
  · simp only [if_neg hrdev] at hchannel ⊢
    have hregistered : EptRef.user i ∈ (s.rdev role).endpoints :=
      (hside.inv.registered _).mp (Bool.not_eq_false _ ▸ hrdev)
    have hhigh := hside.userAddr i hregistered
    have hremoves : (s.rdev role).Removes
        (rpmsgUnregisterEndpoint (s.rdev role) (.user i)) (.user i) :=
      ⟨fun _ hne => rpmsgUnregisterEndpoint_of_ne hne, fun _ => hside.inv.nodup.mem_erase_iff⟩
    refine h.post hchannel (h.supportNs role) (hremoves.single (h.single role)) ?_
      (tells_destroyed hremoves hregistered (h.single role) ?_) fun j hj => ?_
    · intro p hp
      obtain ⟨msg, hmsg, rfl⟩ := Option.map_eq_some_iff.mp hp
      split_ifs at hmsg
      obtain rfl := Option.some.inj hmsg
      exact addressed_announcement (length_strncpy _) (h.channel.addr_ne_any hregistered)
    · by_cases hnamed : ((s.rdev role).ept (.user i)).named = true
      · rw [if_pos hnamed, if_pos ⟨hnamed, h.supportNs role, hhigh⟩]
        rfl
      · rw [if_neg hnamed, if_neg fun hand => hnamed hand.1]
    · obtain ⟨hne, hold⟩ := (hremoves.mem _).mp hj
      exact .inl ⟨hold, hremoves.other _ hne⟩

theorem RendezvousInv.send (h : RendezvousInv s) (i : Nat) (data : List UInt8)
    (hchannel : ChannelInv (s.send role i data)) : RendezvousInv (s.send role i data) := by
  have hside := h.channel.side role
  simp only [ChannelSystem.send, rpmsgSend] at hchannel ⊢
  by_cases hfail : ((s.rdev role).ept (.user i)).rdev = false ∨
      ((s.rdev role).ept (.user i)).destAddr = RPMSG_ADDR_ANY
  · simp only [if_pos hfail]
    rw [Option.map_none, ChannelSystem.post_self]
    exact h
  · simp only [if_neg hfail, Option.map_some] at hchannel ⊢
    have hregistered : EptRef.user i ∈ (s.rdev role).endpoints :=
      (hside.inv.registered _).mp (Bool.not_eq_false _ ▸ (not_or.mp hfail).1)
    refine h.post hchannel (h.supportNs role) (h.single role) ?_
      (tells_sent (h.single role) hregistered _ data) fun j hj => .inl ⟨hj, rfl⟩
    intro p hp
    obtain rfl := Option.some.inj hp
    exact h.channel.addr_ne_any hregistered

theorem RendezvousInv.step (h : RendezvousInv s) {action : ChannelAction}
    (hallowed : s.Allowed action) (hforgotten : s.TakesForgotten action)
    (hstep : s.step action = some s') : RendezvousInv s' := by
  have hchannel := h.channel.step hallowed hforgotten hstep
  cases action with
  | create role i name unbindCb =>
      obtain rfl := Option.some.inj hstep
      exact h.create hallowed hchannel
  | destroy role i =>
      obtain rfl := Option.some.inj hstep
      exact h.destroy i hchannel
  | send role i data =>
      obtain rfl := Option.some.inj hstep
      exact h.send i data hchannel
  | receive role => exact h.receive hchannel hstep

theorem rendezvousInv_init (nsBindCb : Bool) : RendezvousInv (ChannelSystem.init nsBindCb) := by
  have honly : ∀ ref ∈ (rpmsgInitEndpoints true nsBindCb).endpoints, ref = .nsEpt :=
    fun ref href => List.mem_singleton.mp href
  have hsingle : (rpmsgInitEndpoints true nsBindCb).Single := by
    intro ref href ref' href' _
    rw [honly ref href, honly ref' href']
  refine ⟨channelInv_init nsBindCb, fun _ => rfl, fun _ => hsingle, fun _ => ?_, ?_⟩
  · refine ⟨fun packet hpacket => absurd hpacket List.not_mem_nil, fun service addr _ => ?_⟩
    obtain ⟨here, hhere⟩ := Rdev.exists_at hsingle service
    refine ⟨here, here, hhere, .nil here, fun i hi => ?_⟩
    cases honly _ hi
  · intro role i j hi
    cases honly _ hi

end Steps

/-! ### Once everything has arrived -/

/-- The two ends of a service that has a name. -/
structure ChannelSystem.Ends (s : ChannelSystem) (role : Role) (i j : Nat) : Prop where
  mem : .user i ∈ (s.rdev role).endpoints
  memPeer : .user j ∈ (s.rdev role.peer).endpoints
  service : ((s.rdev role).ept (.user i)).service = ((s.rdev role.peer).ept (.user j)).service
  named : ((s.rdev role).ept (.user i)).service ≠ []

def ChannelSystem.BoundTo (s : ChannelSystem) (role : Role) (i j : Nat) : Prop :=
  ((s.rdev role).ept (.user i)).destAddr = ((s.rdev role.peer).ept (.user j)).addr

section Quiet

variable {s : ChannelSystem} {role : Role} {i j : Nat}

/-- Nothing is on its way to a side. -/
theorem Follows.live_of_bound {rdev peer : Rdev} (h : Follows rdev peer []) (hsingle : peer.Single)
    (hi : .user i ∈ rdev.endpoints) (hservice : (rdev.ept (.user i)).service ≠ [])
    (hbound : (rdev.ept (.user i)).destAddr ≠ RPMSG_ADDR_ANY) :
    peer.Live (rdev.ept (.user i)).destAddr (rdev.ept (.user i)).service := by
  obtain ⟨here, hhere⟩ := Rdev.exists_at hsingle (rdev.ept (.user i)).service
  have hview := RpmsgEndpoint.view_of_bound hbound
  obtain hnone | hright := h.trails hi hservice hhere
  · cases hview.symm.trans hnone
  · exact (hhere _).mpr (hright.symm.trans hview)

theorem Finds.bound {rdev peer : Rdev} (h : Finds rdev peer [] i) (hsingle : peer.Single)
    (hj : .user j ∈ peer.endpoints)
    (hsame : (rdev.ept (.user i)).service = (peer.ept (.user j)).service) :
    (rdev.ept (.user i)).destAddr = (peer.ept (.user j)).addr := by
  have hhere := Rdev.At.of_mem hsingle hj
  rw [← hsame] at hhere
  exact (RpmsgEndpoint.view_eq_some.mp (h _ hhere)).1

theorem RendezvousInv.rpmsgSend_some (h : RendezvousInv s) (hi : .user i ∈ (s.rdev role).endpoints)
    (hbound : ((s.rdev role).ept (.user i)).destAddr ≠ RPMSG_ADDR_ANY) (data : List UInt8) :
    rpmsgSend ((s.rdev role).ept (.user i)) data =
      some ⟨((s.rdev role).ept (.user i)).addr, ((s.rdev role).ept (.user i)).destAddr, data⟩ := by
  have hregistered := ((h.channel.side role).inv.registered _).mpr hi
  refine if_neg ?_
  rw [hregistered]
  exact fun hor => hor.elim (fun heq => absurd heq (by decide)) hbound

theorem SideInv.getEpt_of_mem {rdev : Rdev} {inbox : List Packet} (h : SideInv rdev inbox)
    (hj : .user j ∈ rdev.endpoints) :
    rpmsgGetEptFromAddr rdev (rdev.ept (.user j)).addr = some (.user j) := by
  cases hfound : rpmsgGetEptFromAddr rdev (rdev.ept (.user j)).addr with
  | none =>
      rw [rpmsgGetEptFromAddr_eq (h.inv.addr_ne_any hj)] at hfound
      exact absurd (decide_eq_true rfl) (List.find?_eq_none.mp hfound (.user j) hj)
  | some ref =>
      obtain ⟨href, haddr⟩ := h.inv.getEpt_some hfound
      rw [h.inv.unique _ hj ref href haddr.symm (h.userAddr j hj)]

/-- An endpoint that hears from the other end is bound to it. -/
theorem RendezvousInv.learns (h : RendezvousInv s) (hinbox : s.inbox role.peer = [])
    (hpair : s.Ends role i j) :
    (((s.rdev role.peer).learnDestAddr (.user j) ((s.rdev role).ept (.user i)).addr).ept
      (.user j)).destAddr = ((s.rdev role).ept (.user i)).addr := by
  rw [Rdev.learnDestAddr]
  split_ifs with hany
  · exact Rdev.destAddr_setDestAddr _ _ _
  · have hfollows := h.follows role.peer
    rw [hinbox, Role.peer_peer] at hfollows
    have hlive := hfollows.live_of_bound (h.single role) hpair.memPeer (hpair.service ▸ hpair.named)
      hany
    rw [← hpair.service] at hlive
    exact (Option.some.inj ((Rdev.At.of_mem (h.single role) hpair.mem _).mp hlive)).symm

/-- A message from the end that is bound binds the other one. -/
theorem RendezvousInv.joins (h : RendezvousInv s) (hinbox : s.inbox role.peer = [])
    (hpair : s.Ends role i j) (hbound : s.BoundTo role i j) (data : List UInt8) :
    ∃ s', Run.exec ChannelSystem.step s [.send role i data, .receive role.peer] = some s' ∧
      s'.delivered = s.delivered ++ [(((s.rdev role).ept (.user i)).service,
        ((s.rdev role.peer).ept (.user j)).service)] ∧
      s'.BoundTo role i j ∧ s'.BoundTo role.peer j i := by
  unfold ChannelSystem.BoundTo at hbound
  have hany := (h.channel.side role.peer).inv.addr_ne_any hpair.memPeer
  rw [← hbound] at hany
  let packet : Packet := ⟨⟨((s.rdev role).ept (.user i)).addr,
    ((s.rdev role).ept (.user i)).destAddr, data⟩, some ((s.rdev role).ept (.user i)).service⟩
  have hsend : s.send role i data = s.post role (s.rdev role) (some packet) := by
    rw [ChannelSystem.send, h.rpmsgSend_some hpair.mem hany]
    rfl
  have hchannel : ChannelInv (s.send role i data) := h.channel.send i data
  have hside := hchannel.side role.peer
  have hqueue := s.inbox_post_peer role (s.rdev role) (some packet)
  rw [hinbox] at hqueue
  rw [hsend, s.rdev_post_peer, hqueue] at hside
  have hfound : rpmsgGetEptFromAddr (s.rdev role.peer) packet.msg.dst = some (.user j) := by
    have hget := (h.channel.side role.peer).getEpt_of_mem hpair.memPeer
    rw [← hbound] at hget
    exact hget
  have hends := (s.rdev role.peer).sameEnds_learnDestAddr (.user j) packet.msg.src
  cases hreceive : (s.send role i data).receive role.peer with
  | none =>
      rw [hsend, ChannelSystem.receive, hqueue] at hreceive
      cases hreceive
  | some s' =>
      obtain ⟨packet', rest, hpacket, hrdev, hrdevSelf, -, -, hdelivered⟩ :=
        ChannelSystem.receive_cases hreceive
      rw [hsend, hqueue] at hpacket
      obtain rfl : packet = packet' := (List.cons.inj hpacket).1
      rw [hsend, s.rdev_post_peer, hside.rxCallback_user hpair.memPeer hfound] at hrdev hdelivered
      rw [hsend, Role.peer_peer, s.rdev_post_self] at hrdevSelf
      refine ⟨s', ?_, ?_, ?_, ?_⟩
      · change ((s.send role i data).receive role.peer).bind some = some s'
        rw [hreceive]
        rfl
      · rw [hdelivered, handedOver, hends.service]
        rfl
      · rw [ChannelSystem.BoundTo, hrdevSelf, hrdev, hends.addr]
        exact hbound
      · rw [ChannelSystem.BoundTo, Role.peer_peer, hrdevSelf, hrdev]
        exact h.learns hinbox hpair

end Quiet

/-- The ends of a service find each other, in every run in which no endpoint takes an address that the
other side still knows for another service. Where nothing is on its way to a side, an endpoint of it
with a service name is bound to nothing or to the other end. Where nothing is on its way at all, one of
the two ends of a service is bound to the other, and then a message from it binds them both. -/
theorem channels_rendezvous (nsBindCb : Bool) {s : ChannelSystem}
    (hs : Run.Reachable (fun s action => s.Allowed action ∧ s.TakesForgotten action)
      ChannelSystem.step (ChannelSystem.init nsBindCb) s) :
    (∀ role i, s.inbox role = [] → .user i ∈ (s.rdev role).endpoints →
      ((s.rdev role).ept (.user i)).service ≠ [] →
        ((s.rdev role).ept (.user i)).destAddr ≠ RPMSG_ADDR_ANY →
          (s.rdev role.peer).Live ((s.rdev role).ept (.user i)).destAddr
            ((s.rdev role).ept (.user i)).service) ∧
      (∀ role i j, s.Ends role i j → (∀ role, s.inbox role = []) →
        s.BoundTo role i j ∨ s.BoundTo role.peer j i) ∧
      ∀ role i j, s.Ends role i j → s.inbox role.peer = [] → s.BoundTo role i j → ∀ data,
        ∃ s', Run.exec ChannelSystem.step s [.send role i data, .receive role.peer] = some s' ∧
          s'.delivered = s.delivered ++ [(((s.rdev role).ept (.user i)).service,
            ((s.rdev role.peer).ept (.user j)).service)] ∧
          s'.BoundTo role i j ∧ s'.BoundTo role.peer j i := by
  have h : RendezvousInv s := hs.invariant (rendezvousInv_init nsBindCb)
    fun s action s' h hallowed hstep => h.step hallowed.1 hallowed.2 hstep
  refine ⟨fun role i hinbox hi hservice hbound => ?_, fun role i j hpair hquiet => ?_,
    fun role i j hpair hinbox hbound data => h.joins hinbox hpair hbound data⟩
  · have hfollows := h.follows role
    rw [hinbox] at hfollows
    exact hfollows.live_of_bound (h.single role.peer) hi hservice hbound
  · have hfinds := h.finds role i j hpair.mem hpair.memPeer hpair.service hpair.named
    rw [hquiet, hquiet] at hfinds
    refine hfinds.imp (fun hown => hown.bound (h.single role.peer) hpair.memPeer hpair.service)
      fun hother => ?_
    rw [ChannelSystem.BoundTo, Role.peer_peer]
    exact hother.bound (h.single role) hpair.mem hpair.service.symm

/-- The master announces its endpoint before the slave has one. The announcement is lost on the slave,
whose own is not, and the first message of the master binds the slave. -/
theorem channels_rendezvous_missed :
    ∃ s s' : ChannelSystem, ((s.rdev .slave).ept (.user 0)).destAddr = RPMSG_ADDR_ANY ∧
      Run.exec ChannelSystem.step s [.send .master 0 [7], .receive .slave] = some s' ∧
      s'.BoundTo .master 0 0 ∧ s'.BoundTo .slave 0 0 := by
  let ept (destAddr : UInt32) : RpmsgEndpoint :=
    ⟨strncpy [120], true, 1024, destAddr, .user, false⟩
  obtain ⟨s, hs, hseen⟩ := Run.exists_reachable
    (fun (s : ChannelSystem) action => s.Allowed action ∧ s.takesUnreferenced action = true)
    ChannelSystem.step (ChannelSystem.init false)
    [.create .master 0 (some [120]) false, .receive .slave, .create .slave 0 (some [120]) false,
      .receive .master]
    (fun s => (s.inbox .slave, (s.rdev .master).endpoints, (s.rdev .slave).endpoints,
      (s.rdev .master).ept (.user 0), (s.rdev .slave).ept (.user 0)))
    ([], [.nsEpt, .user 0], [.nsEpt, .user 0], ept 1024, ept RPMSG_ADDR_ANY) (by decide +kernel)
  obtain ⟨hinbox, hseen⟩ := Prod.mk.inj hseen
  obtain ⟨hmaster, hseen⟩ := Prod.mk.inj hseen
  obtain ⟨hslave, hseen⟩ := Prod.mk.inj hseen
  obtain ⟨heptMaster, heptSlave⟩ := Prod.mk.inj hseen
  have hpair : s.Ends .master 0 0 := by
    refine ⟨?_, ?_, ?_, ?_⟩
    · rw [hmaster]
      decide
    · rw [Role.peer, hslave]
      decide
    · rw [Role.peer, heptMaster, heptSlave]
      rfl
    · rw [heptMaster]
      decide +kernel
  have hbound : s.BoundTo .master 0 0 := by
    rw [ChannelSystem.BoundTo, Role.peer, heptMaster, heptSlave]
  obtain ⟨s', hexec, -, hjoined⟩ := (channels_rendezvous false (hs.mono fun s action hallowed =>
    ⟨hallowed.1, ChannelSystem.takesForgotten_of_unreferenced hallowed.2⟩)).2.2 .master 0 0 hpair hinbox
      hbound [7]
  exact ⟨s, s', by rw [heptSlave], hexec, hjoined⟩

end OpenAmp
