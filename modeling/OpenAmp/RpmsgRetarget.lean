import Mathlib.Data.Fintype.Basic
import OpenAmp.Library.ByteMemory
import OpenAmp.Library.Run
import OpenAmp.Vring

/-!
# Remote procedure calls of the proxy

`rpmsg_rpc_send` and the endpoint callback of `lib/proxy/rpmsg_retarget.c`. Any number of calls may be
under way on one `rpmsg_rpc_data`, and their statements interleave with each other and with the
callback. What the callback and the calls do under `buflock` is one step; the callback clears the flag
last, and nothing it does before depends on the flag.
-/

namespace OpenAmp

def TERM_SYSCALL_ID : Nat := 6

structure RpmsgRpcData where
  eptDestroyed : Bool
  nacked : Bool
  respbuf : Nat
  respbufLen : Nat
deriving DecidableEq, Repr

/-- The response buffer passed to a call. -/
structure RpcResp where
  resp : Nat
  respLen : Nat
deriving DecidableEq, Repr

/-- A message at the endpoint: the word at its start, where the callback looks for the id of a system
call, its bytes, and the call whose request it answers, if any. -/
structure RpcMessage (ι : Type*) where
  id : Nat
  data : List UInt8
  answers : Option ι

/-- How far a call has come. -/
inductive RpcSend where
  | idle
  -- the response buffer is set
  | buffered
  -- and `nacked` too
  | flagged
  -- `rpmsg_send` has returned `ret`
  | waiting (ret : Int)
  | returned (ret : Int)
deriving DecidableEq, Repr

/-- The call has set its buffer and has not returned. -/
def RpcSend.pending : RpcSend → Bool
  | .idle => false
  | .returned _ => false
  | _ => true

/-! ### The functions -/

/-- What `rpmsg_rpc_init` stores before it creates the endpoint. -/
def rpmsgRpcInit : RpmsgRpcData :=
  { eptDestroyed := false
    nacked := true
    respbuf := NULL
    respbufLen := 0 }

def RpmsgRpcData.setResp (rpc : RpmsgRpcData) (buf : RpcResp) : RpmsgRpcData :=
  { rpc with respbuf := buf.resp, respbufLen := buf.respLen }

/-- The bytes `rpmsg_rpc_ept_cb` copies to the response buffer. -/
def RpmsgRpcData.copied (rpc : RpmsgRpcData) (data : List UInt8) : List UInt8 :=
  if rpc.respbuf ≠ NULL ∧ rpc.respbufLen ≠ 0 then
    data.take (if data.length > rpc.respbufLen then rpc.respbufLen else data.length)
  else []

/-- `rpmsg_rpc_ept_cb` for a message that is not a `TERM_SYSCALL_ID`. -/
def rpmsgRpcEptCb (rpc : RpmsgRpcData) (memory : Nat → UInt8) (data : List UInt8) :
    RpmsgRpcData × (Nat → UInt8) :=
  ({ rpc with nacked := false }, ByteMemory.writeBytes memory rpc.respbuf (rpc.copied data))

/-! ### Calls and messages -/

inductive RpcAction (ι : Type*) where
  -- the statements of a call of `rpmsg_rpc_send`; `wait` is one test of the loop at its end
  | setBuffer (c : ι)
  | setFlag (c : ι)
  | send (c : ι) (ret : Int)
  | wait (c : ι)
  -- the answer to the oldest open request reaches the endpoint, or a message nobody asked for
  | answer (id : Nat) (data : List UInt8)
  | arrive (id : Nat) (data : List UInt8)
  -- the callback runs for one of the messages it has been called for
  | callback (i : Nat)
  | unbind
  -- the two halves of `rpmsg_rpc_release`
  | releaseEpt
  | releaseBuffer

structure RpcSystem (ι : Type*) where
  rpc : RpmsgRpcData
  -- whether the device knows the endpoint
  registered : Bool
  calls : ι → RpcSend
  memory : Nat → UInt8
  -- the calls whose requests the server has still to answer, oldest first
  requests : List ι
  dispatched : List (RpcMessage ι)
  -- the answers the callback has run for; no step reads it, nor the next one
  answered : ι → Option (List UInt8)
  -- the call that set the buffer last, none after an initialisation or a release
  owner : Option ι

namespace RpcSystem

variable {ι : Type*} [DecidableEq ι]

/-- After `rpmsg_rpc_init` has created the endpoint. -/
def start (ι : Type*) (memory : Nat → UInt8) : RpcSystem ι where
  rpc := rpmsgRpcInit
  registered := true
  calls := fun _ => .idle
  memory := memory
  requests := []
  dispatched := []
  answered := fun _ => none
  owner := none

def setCall (s : RpcSystem ι) (c : ι) (pc : RpcSend) : RpcSystem ι :=
  { s with calls := Function.update s.calls c pc }

def stepSend (bufs : ι → RpcResp) (s : RpcSystem ι) (c : ι) (ret : Int) : RpcSystem ι :=
  if ret < 0 then s.setCall c (.returned (-EINVAL))
  else
    let s := { s with requests := s.requests ++ [c] }
    if (bufs c).resp = NULL then s.setCall c (.returned ret) else s.setCall c (.waiting ret)

/-- `atomic_flag_test_and_set`: the call returns if the flag was clear. -/
def stepWait (s : RpcSystem ι) (c : ι) (ret : Int) : RpcSystem ι :=
  if s.rpc.nacked then s
  else { s with rpc := { s.rpc with nacked := true } }.setCall c (.returned ret)

def record (answered : ι → Option (List UInt8)) (msg : RpcMessage ι) : ι → Option (List UInt8) :=
  match msg.answers with
  | some c => Function.update answered c (some msg.data)
  | none => answered

def stepCallback (s : RpcSystem ι) (msg : RpcMessage ι) : RpcSystem ι :=
  if msg.id = TERM_SYSCALL_ID then { s with registered := false }
  else
    let (rpc, memory) := rpmsgRpcEptCb s.rpc s.memory msg.data
    { s with rpc, memory, answered := record s.answered msg }

def step (bufs : ι → RpcResp) (s : RpcSystem ι) : RpcAction ι → Option (RpcSystem ι)
  | .setBuffer c =>
      if s.calls c = .idle then
        some ({ s with rpc := s.rpc.setResp (bufs c), owner := some c }.setCall c .buffered)
      else none
  | .setFlag c =>
      if s.calls c = .buffered then
        some ({ s with rpc := { s.rpc with nacked := true } }.setCall c .flagged)
      else none
  | .send c ret => if s.calls c = .flagged then some (s.stepSend bufs c ret) else none
  | .wait c =>
      match s.calls c with
      | .waiting ret => some (s.stepWait c ret)
      | _ => none
  | .answer id data =>
      match s.requests with
      | [] => none
      | c :: requests =>
          if s.registered then
            some { s with requests, dispatched := s.dispatched ++ [⟨id, data, some c⟩] }
          else none
  | .arrive id data =>
      if s.registered then some { s with dispatched := s.dispatched ++ [⟨id, data, none⟩] } else none
  | .callback i =>
      match s.dispatched[i]? with
      | none => none
      | some msg => some ({ s with dispatched := s.dispatched.eraseIdx i }.stepCallback msg)
  | .unbind =>
      if s.registered then
        some { s with
          rpc := { s.rpc with eptDestroyed := true, nacked := false }
          registered := false }
      else none
  | .releaseEpt =>
      some (if s.rpc.eptDestroyed then s else { s with registered := false })
  | .releaseBuffer => some { s with rpc := s.rpc.setResp ⟨NULL, 0⟩, owner := none }

/-! ### Calls that are all served -/

/-- The buffers have no byte in common. -/
def Apart (buf buf' : RpcResp) : Prop :=
  buf.resp + buf.respLen ≤ buf'.resp ∨ buf'.resp + buf'.respLen ≤ buf.resp

/-- Each call brings a response buffer of its own, its request is accepted, and the server answers
each request once and in order. -/
def Served (bufs : ι → RpcResp) (s : RpcSystem ι) : RpcAction ι → Prop
  | .setBuffer c =>
      (bufs c).resp ≠ NULL ∧ ∀ c', (s.calls c').pending = true → Apart (bufs c) (bufs c')
  | .setFlag _ => True
  | .send _ ret => 0 ≤ ret
  | .wait _ => True
  | .answer id _ => id ≠ TERM_SYSCALL_ID
  | .callback _ => True
  | _ => False

instance decidableServed [Fintype ι] (bufs : ι → RpcResp) (s : RpcSystem ι) :
    (a : RpcAction ι) → Decidable (s.Served bufs a)
  | .setBuffer c =>
      inferInstanceAs (Decidable ((bufs c).resp ≠ NULL ∧ ∀ c', (s.calls c').pending = true →
        (bufs c).resp + (bufs c).respLen ≤ (bufs c').resp ∨
          (bufs c').resp + (bufs c').respLen ≤ (bufs c).resp))
  | .setFlag _ => inferInstanceAs (Decidable True)
  | .send _ ret => inferInstanceAs (Decidable (0 ≤ ret))
  | .wait _ => inferInstanceAs (Decidable True)
  | .answer id _ => inferInstanceAs (Decidable (id ≠ TERM_SYSCALL_ID))
  | .callback _ => inferInstanceAs (Decidable True)
  | .arrive _ _ => inferInstanceAs (Decidable False)
  | .unbind => inferInstanceAs (Decidable False)
  | .releaseEpt => inferInstanceAs (Decidable False)
  | .releaseBuffer => inferInstanceAs (Decidable False)

/-- No call sets its buffer while another one has still to get its answer. -/
def Alone (s : RpcSystem ι) : RpcAction ι → Prop
  | .setBuffer _ => ∀ c, (s.calls c).pending = true → s.answered c ≠ none
  | _ => True

instance decidableAlone [Fintype ι] (s : RpcSystem ι) :
    (a : RpcAction ι) → Decidable (s.Alone a)
  | .setBuffer _ =>
      inferInstanceAs (Decidable (∀ c, (s.calls c).pending = true → s.answered c ≠ none))
  | .setFlag _ => inferInstanceAs (Decidable True)
  | .send _ _ => inferInstanceAs (Decidable True)
  | .wait _ => inferInstanceAs (Decidable True)
  | .answer _ _ => inferInstanceAs (Decidable True)
  | .callback _ => inferInstanceAs (Decidable True)
  | .arrive _ _ => inferInstanceAs (Decidable True)
  | .unbind => inferInstanceAs (Decidable True)
  | .releaseEpt => inferInstanceAs (Decidable True)
  | .releaseBuffer => inferInstanceAs (Decidable True)

/-- The answer to the call has arrived and its buffer holds as much of it as fits. -/
def HoldsAnswer (bufs : ι → RpcResp) (s : RpcSystem ι) (c : ι) : Prop :=
  ∃ data, s.answered c = some data ∧
    ByteMemory.readBytes s.memory (bufs c).resp (data.take (bufs c).respLen).length =
      data.take (bufs c).respLen

/-! ### Where the callback writes -/

/-- What the callback copies goes to the buffer of a call that has not returned, and fits there. -/
def WritesLive (bufs : ι → RpcResp) (s : RpcSystem ι) : RpcAction ι → Prop
  | .callback i =>
      ∀ msg, s.dispatched[i]? = some msg → msg.id ≠ TERM_SYSCALL_ID → s.rpc.copied msg.data ≠ [] →
        ∃ c, (s.calls c).pending = true ∧ (bufs c).resp = s.rpc.respbuf ∧
          (s.rpc.copied msg.data).length ≤ (bufs c).respLen
  | _ => True

/-- The callback does not run for a message with content when the call that set the buffer last, not
a NULL or empty one, has returned and the buffer has not been released since. -/
def BeforeReturn (bufs : ι → RpcResp) (s : RpcSystem ι) : RpcAction ι → Prop
  | .callback i =>
      ∀ msg, s.dispatched[i]? = some msg → msg.id ≠ TERM_SYSCALL_ID → msg.data ≠ [] →
        ∀ c, s.owner = some c → (bufs c).resp ≠ NULL → (bufs c).respLen ≠ 0 →
          ∀ ret, s.calls c ≠ .returned ret
  | _ => True

end RpcSystem

end OpenAmp
