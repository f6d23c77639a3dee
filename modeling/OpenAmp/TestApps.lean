import OpenAmp.Library.ByteMemory
import OpenAmp.Library.Exchange
import OpenAmp.Library.Slice
import OpenAmp.Vring

/-!
# The message tests

A test sends payloads to an echo on the other side and examines what comes back. Messages arrive in the
order they were sent and without loss; each takes one of the buffers of its direction until the callback
that gets it has returned and the buffer is given back, of which nobody is notified. Each message is
notified. The endpoints are bound, and nobody destroys them while a test runs. `platform_poll` sleeps
until a notification and handles all messages that have arrived. The echo of `rpmsg-update` tries again
while there is no buffer for its answer.
-/

namespace OpenAmp

open ByteMemory Slice Exchange

/-- The 64-bit `struct _payload` with its data. -/
structure Payload where
  num : Nat
  size : Nat
  data : List UInt8

def PAYLOAD_SIZE : Nat := 16

def PAYLOAD_MIN_SIZE : Nat := 1

def Payload.bytes (payload : Payload) : List UInt8 :=
  leBytes 8 payload.num ++ leBytes 8 payload.size ++ payload.data

def payloadNum (data : List UInt8) : Nat := leValue (slice data 0 8)

def payloadSize (data : List UInt8) : Nat := leValue (slice data 8 8)

def payloadData (data : List UInt8) (i : Nat) : Option UInt8 := data[PAYLOAD_SIZE + i]?

def SHUTDOWN_MSG : Nat := 0xEF56A55A

/-- `rpmsg_endpoint_cb` of the echo: the message it sends back, or none for a shutdown request. -/
def echoEndpointCb (data : List UInt8) : Option (List UInt8) :=
  if leValue (slice data 0 4) = SHUTDOWN_MSG then none else some data

/-! ### One payload at a time -/

/-- The variables of `rpmsg-ping`; it waits in the inner loop of `app`, and a send that fails ends the
outer one. -/
structure Ping where
  i : Nat
  rnum : Int
  expectRnum : Int
  errCnt : Nat
  waiting : Bool
  sendFailed : Bool
deriving DecidableEq, Repr

def Ping.init : Ping := ⟨0, 0, 0, 0, false, false⟩

def pingMessage (i : Nat) : List UInt8 :=
  let size := PAYLOAD_MIN_SIZE + i
  (Payload.mk i size (List.replicate size 0xA5)).bytes

/-- `rpmsg_endpoint_cb` of `rpmsg-ping`. -/
def Ping.endpointCb (ping : Ping) (data : List UInt8) : Ping :=
  if payloadSize data = 0 then
    { ping with errCnt := ping.errCnt + 1 }
  else
    let intact := (List.range (toInt32 (payloadSize data)).toNat).all fun i =>
      payloadData data i = some 0xA5
    { ping with
      rnum := toInt32 (u64 (payloadNum data + 1))
      errCnt := if intact then ping.errCnt else ping.errCnt + 1 }

/-- `app` of `rpmsg-ping`, with the size of the largest payload. -/
def Ping.client (maxSize : Nat) : Client Ping (List UInt8) where
  next ping :=
    let numPayloads := maxSize + 1 - PAYLOAD_MIN_SIZE
    if ping.waiting then
      .poll
    else if ping.i < numPayloads ∧ ping.sendFailed = false then
      .send (pingMessage ping.i) { ping with expectRnum := ping.expectRnum + 1, waiting := true }
        { ping with sendFailed := true }
    else
      .done
  receive := Ping.endpointCb
  polled ping :=
    if ping.rnum < ping.expectRnum ∧ ping.errCnt = 0 then
      ping
    else
      { ping with i := ping.i + 1, waiting := false }

/-! ### As many payloads as there is room for -/

def NUMS_PACKAGES : Nat := 0x100000

/-- The variables of `rpmsg-flood-ping`; with `i` at the number of packages it waits for the last ones. -/
structure FloodPing where
  s : Nat
  i : Nat
  rnum : Int
  errCnt : Nat
  finished : Bool
deriving DecidableEq, Repr

def FloodPing.init (maxSize : Nat) : FloodPing :=
  ⟨PAYLOAD_MIN_SIZE, 0, 0, 0, !(PAYLOAD_MIN_SIZE ≤ maxSize : Bool)⟩

def floodData (maxSize : Nat) : List UInt8 := List.replicate maxSize 0xA5

def floodMessage (maxSize num size : Nat) : List UInt8 :=
  (Payload.mk num size (floodData maxSize)).bytes.take (PAYLOAD_SIZE + size)

/-- `rpmsg_endpoint_cb` of `rpmsg-flood-ping`. -/
def FloodPing.endpointCb (maxSize : Nat) (ping : FloodPing) (data : List UInt8) : FloodPing :=
  let size := payloadSize data
  if size = 0 ∨ size > 496 then
    { ping with errCnt := ping.errCnt + 1 }
  else
    let intact := (List.range size).all fun i =>
      (payloadData data i).any fun byte => (floodData maxSize)[i]? = some byte
    { ping with
      rnum := toInt32 (u64 (payloadNum data + 1))
      errCnt := if intact then ping.errCnt else ping.errCnt + 1 }

/-- The loop conditions of `app`, up to the next call of `rpmsg_trysend` or `platform_poll`. -/
def FloodPing.goOn (maxSize : Nat) (ping : FloodPing) : FloodPing :=
  if ping.errCnt ≠ 0 then
    { ping with finished := true }
  else if ping.i < NUMS_PACKAGES ∨ ping.rnum < NUMS_PACKAGES then
    ping
  else if ping.s + 1 ≤ maxSize then
    { ping with s := ping.s + 1, i := 0, rnum := 0 }
  else
    { ping with s := ping.s + 1, finished := true }

/-- `app` of `rpmsg-flood-ping`, with the size of the largest payload. -/
def FloodPing.client (maxSize : Nat) : Client FloodPing (List UInt8) where
  next ping :=
    if ping.finished then
      .done
    else if ping.i < NUMS_PACKAGES then
      .trySend (floodMessage maxSize ping.i ping.s)
        (FloodPing.goOn maxSize { ping with i := ping.i + 1 })
    else
      .poll
  receive := FloodPing.endpointCb maxSize
  polled := FloodPing.goOn maxSize

end OpenAmp
