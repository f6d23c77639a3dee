import OpenAmp.RpmsgEndpoint

/-!
# Two devices and the messages between them

Both devices support the name service, and a message arrives in the order it was sent and without
loss. The applications create and destroy endpoints, send on them, and process what has arrived; each
of these calls is one step.
-/

namespace OpenAmp

/-- A message on its way, with the service of the endpoint it was sent on; announcements have none. -/
structure Packet where
  msg : RxMessage
  service : Option (List UInt8)
deriving DecidableEq, Repr

structure ChannelSystem where
  rdev : Role → Rdev
  -- the messages on their way to a side, oldest first
  inbox : Role → List Packet
  -- the services of the sender and of the receiver of each data message handed to an endpoint
  delivered : List (List UInt8 × List UInt8)

/-- The service of an endpoint. -/
def RpmsgEndpoint.service (ept : RpmsgEndpoint) : List UInt8 := nameChars ept.name

/-- The announcement of an endpoint on its way: `rpmsg_send_ns_message`. -/
def announcement (msg : RpmsgNsMsg) : Packet := ⟨⟨msg.addr, RPMSG_NS_EPT_ADDR, msg.bytes⟩, none⟩

/-- A side has changed its endpoints and sent a message, if any. -/
def ChannelSystem.post (s : ChannelSystem) (role : Role) (rdev : Rdev) (packet : Option Packet) :
    ChannelSystem :=
  { s with
    rdev := Function.update s.rdev role rdev
    inbox := Function.update s.inbox role.peer (s.inbox role.peer ++ packet.toList) }

inductive ChannelAction where
  | create (role : Role) (i : Nat) (name : Option (List UInt8)) (unbindCb : Bool)
  | destroy (role : Role) (i : Nat)
  | send (role : Role) (i : Nat) (data : List UInt8)
  | receive (role : Role)

/-- `rpmsg_create_ept` with both addresses `RPMSG_ADDR_ANY`. -/
def ChannelSystem.create (s : ChannelSystem) (role : Role) (i : Nat) (name : Option (List UInt8))
    (unbindCb : Bool) : ChannelSystem :=
  let (rdev, _, msg) := rpmsgCreateEpt (s.rdev role) (some (.user i)) name RPMSG_ADDR_ANY
    RPMSG_ADDR_ANY unbindCb RPMSG_NS_MSG_SIZE
  s.post role rdev (msg.map announcement)

def ChannelSystem.destroy (s : ChannelSystem) (role : Role) (i : Nat) : ChannelSystem :=
  let (rdev, msg) := rpmsgDestroyEpt (s.rdev role) (some (.user i))
  s.post role rdev (msg.map announcement)

def ChannelSystem.send (s : ChannelSystem) (role : Role) (i : Nat) (data : List UInt8) :
    ChannelSystem :=
  let ept := (s.rdev role).ept (.user i)
  s.post role (s.rdev role) ((rpmsgSend ept data).map fun msg => ⟨msg, some ept.service⟩)

/-- The data message of a packet, handed to an endpoint by a callback. -/
def handedOver (rdev : Rdev) (packet : Packet) : Option AppCall → List (List UInt8 × List UInt8)
  | some (.receive ref) =>
      (packet.service.map fun service => (service, (rdev.ept ref).service)).toList
  | some (.nsUnbind _ _) | some (.nsBind _ _) | none => []

/-- The oldest message is processed. What the callbacks of the application do, they do in steps of
their own. -/
def ChannelSystem.receive (s : ChannelSystem) (role : Role) : Option ChannelSystem :=
  match s.inbox role with
  | [] => none
  | packet :: rest =>
      let (rdev, call) := rpmsgVirtioRxCallback (s.rdev role) packet.msg
      some
        { rdev := Function.update s.rdev role rdev
          inbox := Function.update s.inbox role rest
          delivered := s.delivered ++ handedOver rdev packet call }

def ChannelSystem.step (s : ChannelSystem) : ChannelAction → Option ChannelSystem
  | .create role i name unbindCb => some (s.create role i name unbindCb)
  | .destroy role i => some (s.destroy role i)
  | .send role i data => some (s.send role i data)
  | .receive role => s.receive role

/-- Both devices after `rpmsg_init_vdev`. -/
def ChannelSystem.init (nsBindCb : Bool) : ChannelSystem :=
  { rdev := fun _ => rpmsgInitEndpoints true nsBindCb
    inbox := fun _ => []
    delivered := [] }

/-- An endpoint is created on an object that is not registered, and under a name that no endpoint of
its side has. -/
def ChannelSystem.Allowed (s : ChannelSystem) : ChannelAction → Prop
  | .create role i name _ => EptRef.user i ∉ (s.rdev role).endpoints ∧
      ∀ ref ∈ (s.rdev role).endpoints, ((s.rdev role).ept ref).service ≠ nameChars (name.getD [])
  | .destroy _ _ | .send _ _ _ | .receive _ => True

instance ChannelSystem.decidableAllowed (s : ChannelSystem) (action : ChannelAction) :
    Decidable (s.Allowed action) :=
  match action with
  | .create _ _ _ _ => inferInstanceAs (Decidable (_ ∧ _))
  | .destroy _ _ | .send _ _ _ | .receive _ => isTrue trivial

/-! ### References -/

/-- A side knows an address of the other one, for a service: an endpoint is bound to it, or a message
is on its way that an unbound endpoint would take it from. -/
inductive Knows (rdev : Rdev) (inbox : List Packet) (addr : UInt32) (service : List UInt8) : Prop where
  | bound (ref : EptRef) (href : ref ∈ rdev.endpoints) (hdest : (rdev.ept ref).destAddr = addr)
      (hany : addr ≠ RPMSG_ADDR_ANY) (hservice : (rdev.ept ref).service = service)
  | data (packet : Packet) (hpacket : packet ∈ inbox) (hsrc : packet.msg.src = addr)
      (hservice : packet.service = some service)
  | announced (msg : RpmsgNsMsg) (hpacket : announcement msg ∈ inbox) (haddr : msg.addr = addr)
      (hcreate : msg.flags &&& RPMSG_NS_DESTROY = 0) (hservice : nameChars msg.name = service)

/-- A data message is on its way to an address. -/
def Targets (inbox : List Packet) (addr : UInt32) (service : List UInt8) : Prop :=
  ∃ packet ∈ inbox, packet.msg.dst = addr ∧ packet.service = some service

/-- The address a new endpoint takes is not one that the other side still knows, or still sends to,
for another service. -/
def ChannelSystem.TakesForgotten (s : ChannelSystem) : ChannelAction → Prop
  | .create role _ name _ => ∀ bitmap addr,
      rpmsgClaimAddress (s.rdev role).bitmap RPMSG_ADDR_ANY = .ok (bitmap, addr) → ∀ service,
        Knows (s.rdev role.peer) (s.inbox role.peer) addr service ∨
            Targets (s.inbox role) addr service →
          service = nameChars (name.getD [])
  | .destroy _ _ | .send _ _ _ | .receive _ => True

/-- A data message is handed only to an endpoint of the service it was sent on, and no endpoint is
bound to an endpoint of another service. -/
structure ChannelSystem.Isolated (s : ChannelSystem) : Prop where
  delivered : ∀ entry ∈ s.delivered, entry.1 = entry.2
  bound : ∀ role, ∀ ref ∈ (s.rdev role).endpoints, ∀ ref' ∈ (s.rdev role.peer).endpoints,
    ((s.rdev role).ept ref).destAddr = ((s.rdev role.peer).ept ref').addr →
      ((s.rdev role).ept ref).service = ((s.rdev role.peer).ept ref').service

end OpenAmp
