import OpenAmp.Library.WordRecord
import OpenAmp.RpmsgRetarget

/-!
# Reading and writing through the proxy

`_write` and `_read` of `lib/proxy/rpmsg_retarget.c` with the buffers on their stacks, and the callback
of `rpc_demod.c` with the handlers that answer the two calls.
-/

namespace OpenAmp

open ByteMemory WordRecord

def WRITE_SYSCALL_ID : Nat := 3
def READ_SYSCALL_ID : Nat := 4

def MAX_BUF_LEN : Nat := 496
def RPC_BUFF_SIZE : Nat := 496

/-- `struct rpmsg_rpc_syscall`. -/
structure RpmsgRpcSyscall where
  id : Nat
  intField1 : Int
  intField2 : Int
  dataLen : Nat
deriving DecidableEq, Repr

namespace RpmsgRpcSyscall

def size : Nat := 16

def bytes (syscall : RpmsgRpcSyscall) : List UInt8 :=
  words 4 [syscall.id, ofInt 32 syscall.intField1, ofInt 32 syscall.intField2, syscall.dataLen]

/-- The structure at the start of a buffer. -/
def ofBuf (buf : Nat → UInt8) : RpmsgRpcSyscall where
  id := wordAt buf 0 4 0
  intField1 := toInt32 (wordAt buf 0 4 1)
  intField2 := toInt32 (wordAt buf 0 4 2)
  dataLen := wordAt buf 0 4 3

end RpmsgRpcSyscall

/-! ### `rpmsg_rpc_send` with a response buffer -/

/-- What becomes of a request: what `rpmsg_send` returns for it, and the last message that the callback
stores before the call ends. Unbinding ends a call too, and stores nothing. -/
structure RpcOutcome where
  sent : Int
  received : List UInt8

/-- The bytes of a message that fit in the response buffer. -/
def rpcStored (respLen : Nat) (data : List UInt8) : List UInt8 :=
  data.take (if data.length > respLen then respLen else data.length)

def RpcOutcome.stored (outcome : RpcOutcome) (respLen : Nat) : List UInt8 :=
  if outcome.sent < 0 then [] else rpcStored respLen outcome.received

/-- What `rpmsg_rpc_send` returns, and the response buffer after it. -/
def rpmsgRpcSend (outcome : RpcOutcome) (resp : Nat → UInt8) (respLen : Nat) : Int × (Nat → UInt8) :=
  if outcome.sent < 0 then (-EINVAL, resp)
  else (outcome.sent, writeBytes resp 0 (outcome.stored respLen))

namespace Proxy

/-! ### `_write` -/

/-- A block that starts so far from the start of `tmpbuf` lies in it. -/
def InTmpbuf (offset : Int) (size : Nat) : Prop := 0 ≤ offset ∧ offset + size ≤ MAX_BUF_LEN

instance (offset : Int) (size : Nat) : Decidable (InTmpbuf offset size) :=
  inferInstanceAs (Decidable (_ ∧ _))

def nullTerm (fd : Int) : Nat := if fd = 1 then 1 else 0

/-- What `rpmsg_rpc_send` gets to send, if it all lies in `tmpbuf`. -/
def sentBytes (tmpbuf : Nat → UInt8) (payloadSize : Int) : Option (List UInt8) :=
  if InTmpbuf 0 (ofInt 64 payloadSize) then some (readBytes tmpbuf 0 (ofInt 64 payloadSize)) else none

/-- The request that `_write` builds, from the bytes that its stack has left in `tmpbuf`. There is none
if it writes or sends anything else. -/
def writeRequest (tmpbuf : Nat → UInt8) (fd : Int) (ptr : Nat → UInt8) (len : Int) :
    Option (List UInt8) :=
  let payloadSize := toInt32 (u64 (RpmsgRpcSyscall.size + ofInt 64 len))
  let syscall : RpmsgRpcSyscall := ⟨WRITE_SYSCALL_ID, fd, len, ofInt 32 (len + nullTerm fd)⟩
  let tmpptr := RpmsgRpcSyscall.size
  if InTmpbuf tmpptr (ofInt 64 len) then
    let tmpbuf := writeBytes tmpbuf 0 syscall.bytes
    let tmpbuf := writeBytes tmpbuf tmpptr (readBytes ptr 0 (ofInt 64 len))
    if nullTerm fd = 1 then
      let terminator := tmpptr + len + nullTerm fd
      if InTmpbuf terminator 1 then
        sentBytes (writeBytes tmpbuf terminator.toNat [0]) (payloadSize + 1)
      else none
    else sentBytes tmpbuf payloadSize
  else none

/-- What `_write` returns and what it sends. `rpc` is the default one, `resp` what its stack has left in
the response. -/
def write (rpc : Nat) (tmpbuf resp : Nat → UInt8) (fd : Int) (ptr : Nat → UInt8) (len : Int)
    (outcome : RpcOutcome) : Option (Int × Option (List UInt8)) :=
  if rpc = NULL then some (-EINVAL, none)
  else (writeRequest tmpbuf fd ptr len).map fun request =>
    let (ret, resp) := rpmsgRpcSend outcome (writeBytes resp 0 (leBytes 4 0)) RpmsgRpcSyscall.size
    let resp := RpmsgRpcSyscall.ofBuf resp
    let ret :=
      if ret ≥ 0 then if resp.id = WRITE_SYSCALL_ID then resp.intField1 else -EINVAL else ret
    (ret, if outcome.sent < 0 then none else some request)

/-! ### `_read` -/

/-- The request that `_read` builds. -/
def readRequest (fd buflen : Int) : List UInt8 :=
  RpmsgRpcSyscall.bytes ⟨READ_SYSCALL_ID, fd, buflen, 0⟩

/-- What `_read` returns, what it sends, and the size of what it copies to the caller's buffer from
behind the structure in `tmpbuf`. -/
structure ReadOut where
  ret : Int
  sent : Option (List UInt8)
  copied : Nat
  tmpbuf : Nat → UInt8

/-- `tmpbuf` once the response is in it. -/
def readResponse (tmpbuf : Nat → UInt8) (outcome : RpcOutcome) : Nat → UInt8 :=
  (rpmsgRpcSend outcome (writeBytes tmpbuf 0 (leBytes 4 0)) MAX_BUF_LEN).2

def read (rpc buffer : Nat) (tmpbuf : Nat → UInt8) (fd buflen : Int) (outcome : RpcOutcome) :
    ReadOut :=
  if rpc = NULL ∨ buffer = NULL ∨ buflen = 0 then ⟨-EINVAL, none, 0, tmpbuf⟩
  else
    let (ret, _) := rpmsgRpcSend outcome (writeBytes tmpbuf 0 (leBytes 4 0)) MAX_BUF_LEN
    let sent := if outcome.sent < 0 then none else some (readRequest fd buflen)
    let tmpbuf := readResponse tmpbuf outcome
    let resp := RpmsgRpcSyscall.ofBuf tmpbuf
    if ret ≥ 0 then
      if resp.id = READ_SYSCALL_ID then
        let tmplen := toInt32 resp.dataLen
        let tmplen := if tmplen > buflen then buflen else tmplen
        ⟨resp.intField1, sent, if resp.intField1 > 0 then ofInt 64 tmplen else 0, tmpbuf⟩
      else ⟨-EINVAL, sent, 0, tmpbuf⟩
    else ⟨ret, sent, 0, tmpbuf⟩

/-! ### The server -/

/-- The request as `rpmsg_endpoint_cb` gives it to a handler: a copy in a buffer on its stack. -/
def endpointCopy (buf : Nat → UInt8) (data : List UInt8) : Option (Nat → UInt8) :=
  if data.length < RpmsgRpcSyscall.size then none
  else
    let len := if data.length > RPC_BUFF_SIZE then RPC_BUFF_SIZE else data.length
    some (writeBytes buf 0 (data.take len))

/-- What `handle_write` writes, and to which file. -/
def handleWrite (request : Nat → UInt8) : Int × List UInt8 :=
  let syscall := RpmsgRpcSyscall.ofBuf request
  (syscall.intField1, readBytes request RpmsgRpcSyscall.size (ofInt 64 syscall.intField2))

/-- The answer of `handle_read`. `fileRead` is `read` of the C library: the bytes read, or an error.
There is no answer where they do not fit in the handler's buffer. -/
def handleRead (fileRead : Int → Nat → Option (List UInt8)) (request : Nat → UInt8) :
    Option (List UInt8) :=
  let syscall := RpmsgRpcSyscall.ofBuf request
  let count :=
    if syscall.intField1 = 0 then RPC_BUFF_SIZE - RpmsgRpcSyscall.size
    else ofInt 64 syscall.intField2
  match fileRead syscall.intField1 count with
  | none => some (RpmsgRpcSyscall.bytes ⟨READ_SYSCALL_ID, -1, 0, ofInt 32 (-1)⟩)
  | some bytes =>
      if RpmsgRpcSyscall.size + bytes.length ≤ RPC_BUFF_SIZE then
        some (RpmsgRpcSyscall.bytes ⟨READ_SYSCALL_ID, bytes.length, 0, bytes.length⟩ ++ bytes)
      else none

/-- The part of `handle_rpc` for the two calls: what is written to a file. -/
def serveWrite (buf : Nat → UInt8) (data : List UInt8) : Option (Int × List UInt8) := do
  let request ← endpointCopy buf data
  if (RpmsgRpcSyscall.ofBuf request).id = WRITE_SYSCALL_ID then some (handleWrite request) else none

/-- And what is sent back. -/
def serveRead (fileRead : Int → Nat → Option (List UInt8)) (buf : Nat → UInt8) (data : List UInt8) :
    Option (List UInt8) := do
  let request ← endpointCopy buf data
  if (RpmsgRpcSyscall.ofBuf request).id = READ_SYSCALL_ID then handleRead fileRead request else none

/-! ### What is asked of the two calls -/

/-- The bytes after the header of a write request. -/
def writePayload (fd : Int) (ptr : Nat → UInt8) (len : Int) : List UInt8 :=
  readBytes ptr 0 len.toNat ++ if fd = 1 then [0] else []

/-- The request has the data, with a NUL behind it for the standard output, and the server gets the data
from it, whatever has been in its buffer. -/
structure Encoded (fd : Int) (ptr : Nat → UInt8) (len : Int) (request : List UInt8) : Prop where
  len_nonneg : 0 ≤ len
  bytes : request =
    RpmsgRpcSyscall.bytes ⟨WRITE_SYSCALL_ID, fd, len, (writePayload fd ptr len).length⟩ ++
      writePayload fd ptr len
  served : ∀ buf, (serveWrite buf request).map Prod.snd = some (readBytes ptr 0 len.toNat)

/-- The call stays in its buffer, and returns an error without sending or sends the encoded data. -/
def WriteContract (fd : Int) (ptr : Nat → UInt8) (len : Int)
    (out : Option (Int × Option (List UInt8))) : Prop :=
  ∃ ret sent, out = some (ret, sent) ∧
    (ret < 0 ∧ sent = none ∨ ∃ request, sent = some request ∧ Encoded fd ptr len request)

/-- There is no default one, or the request fits: for the standard output with a byte to spare behind
it, and a zero where the byte behind the data already is. -/
def WriteFits (rpc : Nat) (tmpbuf : Nat → UInt8) (fd len : Int) : Prop :=
  rpc = NULL ∨ 0 ≤ len ∧
    if fd = 1 then len ≤ 478 ∧ tmpbuf (RpmsgRpcSyscall.size + len.toNat) = 0 else len ≤ 480

/-- The bytes that are copied to the caller's buffer fit there and are bytes of the payload that has been
received, and the call returns an error or how many they are. -/
structure ReadContract (buflen : Int) (outcome : RpcOutcome) (out : ReadOut) : Prop where
  fits : out.copied ≤ buflen
  received : ∀ i < out.copied,
    (outcome.stored MAX_BUF_LEN)[RpmsgRpcSyscall.size + i]? =
      some (out.tmpbuf (RpmsgRpcSyscall.size + i))
  counted : out.ret < 0 ∨ out.ret = out.copied

/-- The response asks for nothing to be copied, or its two lengths agree, with the caller's one as a
bound on the second, and so many bytes of payload have come with it. -/
def ReadAgrees (tmpbuf : Nat → UInt8) (buflen : Int) (outcome : RpcOutcome) : Prop :=
  let resp := RpmsgRpcSyscall.ofBuf (readResponse tmpbuf outcome)
  outcome.sent < 0 ∨ resp.id ≠ READ_SYSCALL_ID ∨ resp.intField1 ≤ 0 ∨
    min (toInt32 resp.dataLen) buflen = resp.intField1 ∧
      RpmsgRpcSyscall.size + resp.intField1 ≤ (outcome.stored MAX_BUF_LEN).length

/-- `read` of the C library reads no more than it is asked for. -/
def ReadsAtMost (fileRead : Int → Nat → Option (List UInt8)) : Prop :=
  ∀ fd count bytes, fileRead fd count = some bytes → bytes.length ≤ count

/-- With `handle_read` as the server, the call never reports more than the caller has room for. -/
def ServedWithin (fd buflen : Int) : Prop :=
  ∀ fileRead, ReadsAtMost fileRead → ∀ buf tmpbuf rpc buffer sent response,
    serveRead fileRead buf (readRequest fd buflen) = some response →
      (read rpc buffer tmpbuf fd buflen ⟨sent, response⟩).ret ≤ buflen

end Proxy

end OpenAmp
