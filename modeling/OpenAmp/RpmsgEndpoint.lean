import OpenAmp.Library.Bitmap
import OpenAmp.Library.Run
import OpenAmp.RpmsgVirtio

/-!
# Endpoints of an rpmsg device

The list of endpoints and the addresses they take (`lib/rpmsg/rpmsg.c`), and what a received message
does to them (`lib/rpmsg/rpmsg_virtio.c`). How a message travels is left to the caller: a send comes
with the value the device returns for it, and a receive with the message.
-/

namespace OpenAmp

open ByteMemory

def RPMSG_NAME_SIZE : Nat := 32
def RPMSG_ADDR_BMP_SIZE : Nat := 128
def RPMSG_NS_EPT_ADDR : UInt32 := 0x35
def RPMSG_RESERVED_ADDRESSES : Nat := 1024
def RPMSG_ADDR_ANY : UInt32 := 0xFFFFFFFF
def RPMSG_ERR_ADDR : Int := RPMSG_ERROR_BASE - 7

def RPMSG_NS_CREATE : UInt32 := 0
def RPMSG_NS_DESTROY : UInt32 := 1

/-! ### Names -/

/-- The characters that `strncmp` and `strncpy` see of at most `RPMSG_NAME_SIZE` bytes. -/
def nameChars (bytes : List UInt8) : List UInt8 :=
  (bytes.take RPMSG_NAME_SIZE).takeWhile (· ≠ 0)

/-- `strncpy` into an array of `RPMSG_NAME_SIZE` bytes. -/
def strncpy (bytes : List UInt8) : List UInt8 :=
  nameChars bytes ++ List.replicate (RPMSG_NAME_SIZE - (nameChars bytes).length) 0

/-! ### Endpoints -/

/-- An endpoint object: the one inside the device or one of the application's. -/
inductive EptRef where
  | nsEpt
  | user (i : Nat)
deriving DecidableEq, Repr

/-- The receive callback of an endpoint: the name service or one of the application's. -/
inductive RpmsgEptCb where
  | nsCallback
  | user
deriving DecidableEq, Repr

/-- `struct rpmsg_endpoint`. Of `rdev` and `ns_unbind_cb` only whether they are set is kept. -/
structure RpmsgEndpoint where
  name : List UInt8
  rdev : Bool
  addr : UInt32
  destAddr : UInt32
  cb : RpmsgEptCb
  nsUnbindCb : Bool
deriving DecidableEq, Repr

def RpmsgEndpoint.zeroed : RpmsgEndpoint :=
  ⟨List.replicate RPMSG_NAME_SIZE 0, false, 0, 0, .user, false⟩

/-- `ept->name[0]`. -/
def RpmsgEndpoint.named (ept : RpmsgEndpoint) : Bool := ept.name.headD 0 ≠ 0

/-- `struct rpmsg_device` with the endpoint objects: `endpoints` in the order of registration. -/
structure Rdev where
  endpoints : List EptRef
  ept : EptRef → RpmsgEndpoint
  bitmap : Nat → Bool
  supportNs : Bool
  nsBindCb : Bool

def Rdev.setEpt (rdev : Rdev) (ref : EptRef) (ept : RpmsgEndpoint) : Rdev :=
  { rdev with ept := Function.update rdev.ept ref ept }

def Rdev.setDestAddr (rdev : Rdev) (ref : EptRef) (destAddr : UInt32) : Rdev :=
  rdev.setEpt ref { rdev.ept ref with destAddr }

/-! ### Addresses -/

/-- `metal_bitmap_is_bit_set`, positive for a set bit. -/
def metalBitmapIsBitSet (bitmap : Nat → Bool) (bit : Nat) : Int := if bitmap bit then 1 else 0

def rpmsgGetAddress (bitmap : Nat → Bool) (size : Nat) : (Nat → Bool) × UInt32 :=
  let nextbit := Bitmap.nextClearBit bitmap 0 size
  if nextbit < size then
    (Bitmap.setBit bitmap nextbit, UInt32.ofNat (RPMSG_RESERVED_ADDRESSES + nextbit))
  else
    (bitmap, RPMSG_ADDR_ANY)

/-- `addr -= RPMSG_RESERVED_ADDRESSES` on an address passed as an `int`. -/
def addrOffset (addr : UInt32) : Int :=
  toInt32 (toInt32 addr.toNat - RPMSG_RESERVED_ADDRESSES)

def rpmsgReleaseAddress (bitmap : Nat → Bool) (size : Int) (addr : UInt32) : Nat → Bool :=
  let addr := addrOffset addr
  if addr ≥ 0 ∧ addr < size then Bitmap.clearBit bitmap addr.toNat else bitmap

def rpmsgIsAddressSet (bitmap : Nat → Bool) (size : Int) (addr : UInt32) : Int :=
  let addr := addrOffset addr
  if addr ≥ 0 ∧ addr < size then metalBitmapIsBitSet bitmap addr.toNat else RPMSG_ERR_PARAM

def rpmsgSetAddress (bitmap : Nat → Bool) (size : Int) (addr : UInt32) : (Nat → Bool) × Int :=
  let addr := addrOffset addr
  if addr ≥ 0 ∧ addr < size then
    (Bitmap.setBit bitmap addr.toNat, RPMSG_SUCCESS)
  else
    (bitmap, RPMSG_ERR_PARAM)

/-! ### Messages -/

/-- A message without what only its way to the other side depends on. -/
structure RxMessage where
  src : UInt32
  dst : UInt32
  payload : List UInt8
deriving DecidableEq, Repr

/-- `rpmsg_send`: the message it hands to the device. An endpoint that is not registered, or not
bound, has none. -/
def rpmsgSend (ept : RpmsgEndpoint) (data : List UInt8) : Option RxMessage :=
  if ept.rdev = false ∨ ept.destAddr = RPMSG_ADDR_ANY then
    none
  else
    some ⟨ept.addr, ept.destAddr, data⟩

/-! ### The name service -/

/-- `struct rpmsg_ns_msg`. -/
structure RpmsgNsMsg where
  name : List UInt8
  addr : UInt32
  flags : UInt32
deriving DecidableEq, Repr

def RpmsgNsMsg.bytes (msg : RpmsgNsMsg) : List UInt8 :=
  msg.name ++ leBytes 4 msg.addr.toNat ++ leBytes 4 msg.flags.toNat

/-- `sizeof(struct rpmsg_ns_msg)`. -/
def RPMSG_NS_MSG_SIZE : Nat := 40

/-- The message in the payload of a received one. -/
def RpmsgNsMsg.ofBytes (bytes : List UInt8) : RpmsgNsMsg :=
  { name := bytes.take RPMSG_NAME_SIZE
    addr := UInt32.ofNat (leValue ((bytes.drop RPMSG_NAME_SIZE).take 4))
    flags := UInt32.ofNat (leValue ((bytes.drop (RPMSG_NAME_SIZE + 4)).take 4)) }

/-- `rpmsg_send_ns_message`, with the value that the send of the device returns. -/
def rpmsgSendNsMessage (ept : RpmsgEndpoint) (flags : UInt32) (ret : Int) : RpmsgNsMsg × Int :=
  (⟨strncpy ept.name, ept.addr, flags⟩, if ret < 0 then ret else RPMSG_SUCCESS)

def rpmsgGetEndpoint (rdev : Rdev) (name : Option (List UInt8)) (addr destAddr : UInt32) :
    Option EptRef :=
  rdev.endpoints.find? fun ref =>
    let ept := rdev.ept ref
    -- by local address only
    (addr ≠ RPMSG_ADDR_ANY && ept.addr = addr) ||
    -- by local and remote address
    (addr = ept.addr && destAddr = ept.destAddr) ||
    -- by name, bound to the remote address or not bound
    ((match name with
      | none => false
      | some name => nameChars ept.name = nameChars name) &&
      ((destAddr ≠ RPMSG_ADDR_ANY && ept.destAddr = destAddr) ||
        (addr = RPMSG_ADDR_ANY && ept.destAddr = RPMSG_ADDR_ANY)))

def rpmsgGetEptFromAddr (rdev : Rdev) (addr : UInt32) : Option EptRef :=
  rpmsgGetEndpoint rdev none addr RPMSG_ADDR_ANY

/-! ### Creating and destroying endpoints -/

def rpmsgUnregisterEndpoint (rdev : Rdev) (ref : EptRef) : Rdev :=
  let ept := rdev.ept ref
  { rdev with
    bitmap :=
      if ept.addr ≠ RPMSG_ADDR_ANY then
        rpmsgReleaseAddress rdev.bitmap RPMSG_ADDR_BMP_SIZE ept.addr
      else
        rdev.bitmap
    endpoints := rdev.endpoints.erase ref }.setEpt ref { ept with rdev := false }

def rpmsgRegisterEndpoint (rdev : Rdev) (ref : EptRef) : Rdev :=
  { rdev with endpoints := rdev.endpoints ++ [ref] }.setEpt ref { rdev.ept ref with rdev := true }

def rpmsgInitializeEpt (rdev : Rdev) (ref : EptRef) (name : Option (List UInt8)) (src dest : UInt32)
    (cb : RpmsgEptCb) (nsUnbindCb : Bool) : Rdev :=
  rdev.setEpt ref
    { rdev.ept ref with
      name := strncpy (name.getD [])
      addr := src
      destAddr := dest
      cb
      nsUnbindCb }

/-- The first part of `rpmsg_create_ept`: the address of the new endpoint, marked as used. -/
def rpmsgClaimAddress (bitmap : Nat → Bool) (src : UInt32) : Except Int ((Nat → Bool) × UInt32) :=
  if src = RPMSG_ADDR_ANY then
    let (bitmap, addr) := rpmsgGetAddress bitmap RPMSG_ADDR_BMP_SIZE
    if addr = RPMSG_ADDR_ANY then .error RPMSG_ERR_ADDR else .ok (bitmap, addr)
  else if src.toNat ≥ RPMSG_RESERVED_ADDRESSES then
    let status := rpmsgIsAddressSet bitmap RPMSG_ADDR_BMP_SIZE src
    if status = 0 then
      .ok ((rpmsgSetAddress bitmap RPMSG_ADDR_BMP_SIZE src).1, src)
    else if status > 0 then
      .error RPMSG_ERR_ADDR
    else
      .error status
  else
    .ok (bitmap, src)

/-- `rpmsg_create_ept`, with the announcement it sends and `ret` the value that the send returns. -/
def rpmsgCreateEpt (rdev : Rdev) (ept : Option EptRef) (name : Option (List UInt8))
    (src dest : UInt32) (unbindCb : Bool) (ret : Int) : Rdev × Int × Option RpmsgNsMsg :=
  match ept with
  | none => (rdev, RPMSG_ERR_PARAM, none)
  | some ref =>
      match rpmsgClaimAddress rdev.bitmap src with
      | .error status => (rdev, status, none)
      | .ok (bitmap, addr) =>
          let rdev := rpmsgRegisterEndpoint
            (rpmsgInitializeEpt { rdev with bitmap } ref name addr dest .user unbindCb) ref
          let ept := rdev.ept ref
          if ept.named ∧ rdev.supportNs ∧ ept.destAddr = RPMSG_ADDR_ANY then
            let (msg, status) := rpmsgSendNsMessage ept RPMSG_NS_CREATE ret
            if status ≠ 0 then
              (rpmsgUnregisterEndpoint rdev ref, status, some msg)
            else
              (rdev, status, some msg)
          else
            (rdev, RPMSG_SUCCESS, none)

/-- `rpmsg_destroy_ept`, with the announcement it sends, whatever becomes of it. -/
def rpmsgDestroyEpt (rdev : Rdev) (ept : Option EptRef) : Rdev × Option RpmsgNsMsg :=
  match ept with
  | none => (rdev, none)
  | some ref =>
      let ept := rdev.ept ref
      if ept.rdev = false then
        (rdev, none)
      else
        let msg :=
          if ept.named ∧ rdev.supportNs ∧ ept.addr.toNat ≥ RPMSG_RESERVED_ADDRESSES then
            some (rpmsgSendNsMessage ept RPMSG_NS_DESTROY 0).1
          else
            none
        (rpmsgUnregisterEndpoint rdev ref, msg)

/-- The endpoints `rpmsg_init_vdev` leaves. -/
def rpmsgInitEndpoints (supportNs nsBindCb : Bool) : Rdev :=
  let rdev : Rdev :=
    { endpoints := []
      ept := fun _ => RpmsgEndpoint.zeroed
      bitmap := Bitmap.empty
      supportNs
      nsBindCb }
  if supportNs then
    rpmsgRegisterEndpoint (rpmsgInitializeEpt rdev .nsEpt (some [78, 83]) RPMSG_NS_EPT_ADDR
      RPMSG_NS_EPT_ADDR .nsCallback false) .nsEpt
  else
    rdev

/-! ### Receiving -/

/-- A call of a callback of the application. -/
inductive AppCall where
  -- the receive callback of an endpoint, with a message for it
  | receive (ept : EptRef)
  -- the unbind callback of an endpoint, and the endpoint it is passed
  | nsUnbind (owner ept : EptRef)
  | nsBind (name : List UInt8) (dest : UInt32)
deriving DecidableEq, Repr

/-- `rpmsg_virtio_ns_callback`. -/
def rpmsgVirtioNsCallback (rdev : Rdev) (ept : EptRef) (data : List UInt8) :
    Rdev × Option AppCall :=
  if data.length ≠ RPMSG_NS_MSG_SIZE then
    (rdev, none)
  else
    let nsMsg := RpmsgNsMsg.ofBytes data
    let found := rpmsgGetEndpoint rdev (some nsMsg.name) RPMSG_ADDR_ANY nsMsg.addr
    if nsMsg.flags &&& RPMSG_NS_DESTROY ≠ 0 then
      match found with
      | none => (rdev, none)
      | some ref =>
          let rdev := rdev.setDestAddr ref RPMSG_ADDR_ANY
          (rdev, if (rdev.ept ref).nsUnbindCb then some (.nsUnbind ref ept) else none)
    else
      match found with
      | none => (rdev, if rdev.nsBindCb then some (.nsBind nsMsg.name nsMsg.addr) else none)
      | some ref => (rdev.setDestAddr ref nsMsg.addr, none)

/-- The first message from the remote side sets the destination of an endpoint that has none. -/
def Rdev.learnDestAddr (rdev : Rdev) (ref : EptRef) (src : UInt32) : Rdev :=
  if (rdev.ept ref).destAddr = RPMSG_ADDR_ANY then rdev.setDestAddr ref src else rdev

/-- What `rpmsg_virtio_rx_callback` does with one message. -/
def rpmsgVirtioRxCallback (rdev : Rdev) (msg : RxMessage) : Rdev × Option AppCall :=
  match rpmsgGetEptFromAddr rdev msg.dst with
  | none => (rdev, none)
  | some ref =>
      let rdev := rdev.learnDestAddr ref msg.src
      match (rdev.ept ref).cb with
      | .nsCallback => rpmsgVirtioNsCallback rdev ref msg.payload
      | .user => (rdev, some (.receive ref))

/-! ### Runs -/

inductive RdevAction where
  | create (ept : Option EptRef) (name : Option (List UInt8)) (src dest : UInt32) (unbindCb : Bool)
      (ret : Int)
  | destroy (ept : Option EptRef)
  | receive (msg : RxMessage)

/-- An application whose unbind callbacks destroy the endpoint they are passed. -/
def unbindDestroys : Rdev × Option AppCall → Rdev
  | (rdev, some (.nsUnbind _ ept)) => (rpmsgDestroyEpt rdev (some ept)).1
  | (rdev, _) => rdev

def Rdev.receive (rdev : Rdev) (msg : RxMessage) : Rdev :=
  unbindDestroys (rpmsgVirtioRxCallback rdev msg)

def Rdev.step (rdev : Rdev) : RdevAction → Option Rdev
  | .create ept name src dest unbindCb ret =>
      some (rpmsgCreateEpt rdev ept name src dest unbindCb ret).1
  | .destroy ept => some (rpmsgDestroyEpt rdev ept).1
  | .receive msg => some (rdev.receive msg)

/-- An endpoint is created only on an object that is not registered. -/
def Rdev.Allowed (rdev : Rdev) : RdevAction → Prop
  | .create ept _ _ _ _ _ => ∀ ref, ept = some ref → ref ∉ rdev.endpoints
  | .destroy _ => True
  | .receive _ => True

/-- What an application does that gives all its endpoints an unbind callback, and what it receives. -/
inductive NsAction where
  | create (i : Nat) (name : Option (List UInt8)) (src dest : UInt32) (ret : Int)
  | destroy (i : Nat)
  | receive (msg : RxMessage)

def Rdev.nsStep (rdev : Rdev) : NsAction → Option Rdev
  | .create i name src dest ret =>
      if EptRef.user i ∈ rdev.endpoints then none
      else rdev.step (.create (some (.user i)) name src dest true ret)
  | .destroy i => rdev.step (.destroy (some (.user i)))
  | .receive msg => rdev.step (.receive msg)

/-- The endpoint that a received message asks to be unbound: the one that
`rpmsg_virtio_ns_callback` finds for a DESTROY. -/
def Rdev.unboundBy (rdev : Rdev) (msg : RxMessage) : Option EptRef :=
  let nsMsg := RpmsgNsMsg.ofBytes msg.payload
  if msg.dst = RPMSG_NS_EPT_ADDR ∧ msg.payload.length = RPMSG_NS_MSG_SIZE ∧
      nsMsg.flags &&& RPMSG_NS_DESTROY ≠ 0 then
    rpmsgGetEndpoint (rdev.learnDestAddr .nsEpt msg.src) (some nsMsg.name) RPMSG_ADDR_ANY nsMsg.addr
  else
    none

end OpenAmp
