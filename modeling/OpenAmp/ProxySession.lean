import OpenAmp.Library.FixedString
import OpenAmp.ProxyIo

/-!
# Files over the proxy

The four system calls that `lib/proxy/rpmsg_retarget.c` redirects, one after the other, and the server
of `apps/examples/rpc_demo/rpc_demod.c` that carries them out. The C library of the server is a
parameter. Requests and responses are accepted for sending, and each response is the one that its
request asked for.
-/

namespace OpenAmp

open ByteMemory

def OPEN_SYSCALL_ID : Nat := 1
def CLOSE_SYSCALL_ID : Nat := 2

namespace Proxy

/-! ### Copying a request out of the shared memory -/

/-- `sizeof(int)`. -/
def INT_SIZE : Nat := 4

/-- The variables of `copy_from_shbuf`: the buffer with the position in it, the address in the shared
memory, and the bytes to go. -/
structure ShbufCopy where
  buf : Nat → UInt8
  dst : Nat
  shbuf : Nat
  len : Nat

/-- The body of the first and of the last loop. -/
def ShbufCopy.copyByte (shm : Nat → UInt8) (copy : ShbufCopy) : ShbufCopy where
  buf := writeBytes copy.buf copy.dst [shm copy.shbuf]
  dst := copy.dst + 1
  shbuf := copy.shbuf + 1
  len := copy.len - 1

/-- The body of the second one. -/
def ShbufCopy.copyInt (shm : Nat → UInt8) (copy : ShbufCopy) : ShbufCopy where
  buf := writeBytes copy.buf copy.dst (leBytes INT_SIZE (leValue (readBytes shm copy.shbuf INT_SIZE)))
  dst := copy.dst + INT_SIZE
  shbuf := copy.shbuf + INT_SIZE
  len := copy.len - INT_SIZE

/-! The three loops, with a bound on the rounds to go. -/

def copyAlign (shm : Nat → UInt8) : Nat → ShbufCopy → ShbufCopy
  | 0, copy => copy
  | rounds + 1, copy =>
      if copy.len ≠ 0 ∧ copy.shbuf % INT_SIZE ≠ 0 then copyAlign shm rounds (copy.copyByte shm)
      else copy

def copyInts (shm : Nat → UInt8) : Nat → ShbufCopy → ShbufCopy
  | 0, copy => copy
  | rounds + 1, copy =>
      if INT_SIZE ≤ copy.len then copyInts shm rounds (copy.copyInt shm) else copy

def copyRest (shm : Nat → UInt8) : Nat → ShbufCopy → ShbufCopy
  | 0, copy => copy
  | rounds + 1, copy => if 0 < copy.len then copyRest shm rounds (copy.copyByte shm) else copy

/-- The buffer after `copy_from_shbuf`. -/
def copyFromShbuf (shm buf : Nat → UInt8) (shbuf len : Nat) : Nat → UInt8 :=
  (copyRest shm len (copyInts shm len (copyAlign shm len ⟨buf, 0, shbuf, len⟩))).buf

/-! ### The server -/

/-- What the server calls of its C library. A `read` that fails returns -1. -/
structure FileOps (σ : Type) where
  openFile : List UInt8 → Int → Int → σ → Int × σ
  closeFile : Int → σ → Int × σ
  readFile : Int → Nat → σ → Option (List UInt8) × σ
  writeFile : Int → List UInt8 → σ → Int × σ

/-- The results are of type `int`, and nobody reads or writes more than was asked. -/
structure FileOps.Lawful {σ : Type} (ops : FileOps σ) : Prop where
  openFile : ∀ name flags mode files, -2 ^ 31 ≤ (ops.openFile name flags mode files).1 ∧
    (ops.openFile name flags mode files).1 < 2 ^ 31
  closeFile : ∀ fd files, -2 ^ 31 ≤ (ops.closeFile fd files).1 ∧ (ops.closeFile fd files).1 < 2 ^ 31
  readFile : ∀ fd count files bytes, (ops.readFile fd count files).1 = some bytes →
    bytes.length ≤ count
  writeFile : ∀ fd bytes files, -1 ≤ (ops.writeFile fd bytes files).1 ∧
    (ops.writeFile fd bytes files).1 ≤ bytes.length

/-- The static variables of `rpc_demod.c` that requests change, and the files of its system. -/
structure RpcServer (σ : Type) where
  files : σ
  errCnt : Nat
  requestTermination : Bool

variable {σ : Type} (ops : FileOps σ)

/-- What a handler returns, the response if it has been sent, and the files afterwards. -/
structure Handled (σ : Type) where
  retval : Int
  response : Option (List UInt8)
  files : σ

/-- The end of each handler. `sendRet` is what `rpmsg_send` returns. -/
def sendResponse (sendRet : List UInt8 → Int) (files : σ) (response : List UInt8) : Handled σ :=
  let ret := sendRet response
  { retval := if ret > 0 then 0 else ret
    response := if ret < 0 then none else some response
    files }

/-- The string behind the structure, if it ends in the buffer of the callback. -/
def requestString (request : Nat → UInt8) : Option (List UInt8) :=
  let bytes := readBytes request RpmsgRpcSyscall.size (RPC_BUFF_SIZE - RpmsgRpcSyscall.size)
  if 0 ∈ bytes then some (FixedString.chars bytes.length bytes) else none

/-- `handle_open`. A string that does not end would be read beyond the buffer. -/
def handleOpen (sendRet : List UInt8 → Int) (request : Nat → UInt8) (files : σ) :
    Option (Handled σ) := do
  let syscall := RpmsgRpcSyscall.ofBuf request
  let name ← requestString request
  let (fd, files) := ops.openFile name syscall.intField1 syscall.intField2 files
  some (sendResponse sendRet files (RpmsgRpcSyscall.bytes ⟨OPEN_SYSCALL_ID, fd, 0, 0⟩))

def handleClose (sendRet : List UInt8 → Int) (request : Nat → UInt8) (files : σ) : Handled σ :=
  let (ret, files) := ops.closeFile (RpmsgRpcSyscall.ofBuf request).intField1 files
  sendResponse sendRet files (RpmsgRpcSyscall.bytes ⟨CLOSE_SYSCALL_ID, ret, 0, 0⟩)

/-- How much `handle_read` asks for. -/
def readCount (request : Nat → UInt8) : Nat :=
  let syscall := RpmsgRpcSyscall.ofBuf request
  if syscall.intField1 = 0 then RPC_BUFF_SIZE - RpmsgRpcSyscall.size
  else ofInt 64 syscall.intField2

/-- `handle_read` on these files. -/
def handleReadFile (sendRet : List UInt8 → Int) (request : Nat → UInt8) (files : σ) :
    Option (Handled σ) :=
  let (bytes, files) :=
    ops.readFile (RpmsgRpcSyscall.ofBuf request).intField1 (readCount request) files
  (handleRead (fun _ _ => bytes) request).map (sendResponse sendRet files)

/-- `handle_write` on these files. -/
def handleWriteFile (sendRet : List UInt8 → Int) (request : Nat → UInt8) (files : σ) : Handled σ :=
  let (fd, bytes) := handleWrite request
  let (bytesWritten, files) := ops.writeFile fd bytes files
  sendResponse sendRet files
    (RpmsgRpcSyscall.bytes ⟨WRITE_SYSCALL_ID, toInt32 bytesWritten, 0, 0⟩)

/-- `handle_rpc`, with whether it asks for termination. -/
def handleRpc (sendRet : List UInt8 → Int) (request : Nat → UInt8) (files : σ) :
    Option (Handled σ × Bool) :=
  let id := (RpmsgRpcSyscall.ofBuf request).id
  if id = OPEN_SYSCALL_ID then (handleOpen ops sendRet request files).map (·, false)
  else if id = CLOSE_SYSCALL_ID then some (handleClose ops sendRet request files, false)
  else if id = READ_SYSCALL_ID then (handleReadFile ops sendRet request files).map (·, false)
  else if id = WRITE_SYSCALL_ID then some (handleWriteFile ops sendRet request files, false)
  else if id = TERM_SYSCALL_ID then some (⟨0, none, files⟩, true)
  else some (⟨-1, none, files⟩, false)

/-- `rpmsg_endpoint_cb`, for `len` bytes at `data` in the shared memory, with the response. `buf` is what
its stack has left in the buffer. -/
def rpmsgEndpointCb (sendRet : List UInt8 → Int) (buf shm : Nat → UInt8) (data len : Nat)
    (server : RpcServer σ) : Option (Option (List UInt8) × RpcServer σ) :=
  if len < RpmsgRpcSyscall.size then some (none, { server with errCnt := server.errCnt + 1 })
  else do
    let len := if len > RPC_BUFF_SIZE then RPC_BUFF_SIZE else len
    let (handled, terminate) ← handleRpc ops sendRet (copyFromShbuf shm buf data len) server.files
    some (handled.response,
      { files := handled.files
        errCnt := if handled.retval ≠ 0 then server.errCnt + 1 else server.errCnt
        requestTermination := server.requestTermination || terminate })

/-- How the loop of the server ends after a poll, if it does. -/
def RpcServer.exit (server : RpcServer σ) : Option Int :=
  if server.errCnt ≠ 0 then some (-EINVAL)
  else if server.requestTermination then some 0
  else none

/-! ### The other two calls of the client -/

/-- The request that `_open` builds, if the name fits. -/
def openRequest (filename : List UInt8) (flags mode : Int) : Option (List UInt8) :=
  let filenameLen := filename.length + 1
  if RpmsgRpcSyscall.size + filenameLen > MAX_BUF_LEN then none
  else some (RpmsgRpcSyscall.bytes ⟨OPEN_SYSCALL_ID, flags, mode, filenameLen⟩ ++ (filename ++ [0]))

/-- What a call returns for a response of 16 bytes. -/
def simpleReturn (id : Nat) (resp : Nat → UInt8) (outcome : RpcOutcome) : Int :=
  let (ret, resp) := rpmsgRpcSend outcome (writeBytes resp 0 (leBytes 4 0)) RpmsgRpcSyscall.size
  let resp := RpmsgRpcSyscall.ofBuf resp
  if ret ≥ 0 then if resp.id = id then resp.intField1 else -EINVAL else ret

/-- What `_open` returns and what it sends. -/
def openCall (rpc : Nat) (resp : Nat → UInt8) (filename : List UInt8) (flags mode : Int)
    (outcome : RpcOutcome) : Int × Option (List UInt8) :=
  match openRequest filename flags mode with
  | none => (-EINVAL, none)
  | some request =>
      if rpc = NULL then (-EINVAL, none)
      else (simpleReturn OPEN_SYSCALL_ID resp outcome,
        if outcome.sent < 0 then none else some request)

/-- What `_close` returns and what it sends. -/
def closeCall (rpc : Nat) (resp : Nat → UInt8) (fd : Int) (outcome : RpcOutcome) :
    Int × Option (List UInt8) :=
  if rpc = NULL then (-EINVAL, none)
  else (simpleReturn CLOSE_SYSCALL_ID resp outcome,
    if outcome.sent < 0 then none
    else some (RpmsgRpcSyscall.bytes ⟨CLOSE_SYSCALL_ID, fd, 0, 0⟩))

/-! ### Sessions -/

inductive FileCall where
  | openFile (filename : List UInt8) (flags mode : Int)
  | close (fd : Int)
  | read (fd buflen : Int)
  | write (fd : Int) (ptr : Nat → UInt8) (len : Int)

/-- What a call returns, and what it stores in the caller's buffer. -/
structure FileResult where
  ret : Int
  stored : List UInt8
deriving DecidableEq, Repr

/-- What a call finds: its default `rpc`, the caller's buffer, the stacks of both sides, and the shared
memory with the address of the buffer that its request travels in. -/
structure CallContext where
  rpc : Nat
  buffer : Nat
  tmpbuf : Nat → UInt8
  resp : Nat → UInt8
  serverBuf : Nat → UInt8
  shm : Nat → UInt8
  data : Nat

/-- A call whose request has this outcome: what it sends and how it ends. -/
def FileCall.perform (ctx : CallContext) (outcome : RpcOutcome) :
    FileCall → Option (Option (List UInt8) × FileResult)
  | .openFile filename flags mode =>
      let (ret, sent) := openCall ctx.rpc ctx.resp filename flags mode outcome
      some (sent, ⟨ret, []⟩)
  | .close fd =>
      let (ret, sent) := closeCall ctx.rpc ctx.resp fd outcome
      some (sent, ⟨ret, []⟩)
  | .read fd buflen =>
      let out := Proxy.read ctx.rpc ctx.buffer ctx.tmpbuf fd buflen outcome
      some (out.sent, ⟨out.ret, readBytes out.tmpbuf RpmsgRpcSyscall.size out.copied⟩)
  | .write fd ptr len =>
      (Proxy.write ctx.rpc ctx.tmpbuf ctx.resp fd ptr len outcome).map fun (ret, sent) =>
        (sent, ⟨ret, []⟩)

/-- A call over the proxy, on a server whose loop goes on. The request is what the call sends, whatever
comes back for it. -/
def remoteCall (sendRet : List UInt8 → Int) (ctx : CallContext) (server : RpcServer σ)
    (call : FileCall) : Option (FileResult × RpcServer σ) := do
  let (sent, failed) ← call.perform ctx ⟨0, []⟩
  match sent with
  | none => some (failed, server)
  | some request =>
      if server.exit.isSome then none
      else do
        let shm := writeBytes ctx.shm ctx.data request
        let (response, server) ←
          rpmsgEndpointCb ops sendRet ctx.serverBuf shm ctx.data request.length server
        let (_, result) ← call.perform ctx ⟨request.length, ← response⟩
        some (result, server)

/-- The calls of a session, one after the other. -/
def remoteSession (sendRet : List UInt8 → Int) (server : RpcServer σ) :
    List (FileCall × CallContext) → Option (List FileResult × RpcServer σ)
  | [] => some ([], server)
  | (call, ctx) :: session => do
      let (result, server) ← remoteCall ops sendRet ctx server call
      let (results, server) ← remoteSession sendRet server session
      some (result :: results, server)

/-! ### The same without a proxy -/

/-- What a caller gets of a read that may have failed. -/
def readResult : Option (List UInt8) → FileResult
  | none => ⟨-1, []⟩
  | some bytes => ⟨bytes.length, bytes⟩

/-- A read asks for no more than a response holds. -/
def localCall (files : σ) : FileCall → FileResult × σ
  | .openFile filename flags mode =>
      let (fd, files) := ops.openFile filename flags mode files
      (⟨fd, []⟩, files)
  | .close fd =>
      let (ret, files) := ops.closeFile fd files
      (⟨ret, []⟩, files)
  | .read fd buflen =>
      let result := ops.readFile fd (min buflen.toNat (RPC_BUFF_SIZE - RpmsgRpcSyscall.size)) files
      (readResult result.1, result.2)
  | .write fd ptr len =>
      let (ret, files) := ops.writeFile fd (readBytes ptr 0 len.toNat) files
      (⟨ret, []⟩, files)

def localSession (files : σ) : List FileCall → List FileResult × σ
  | [] => ([], files)
  | call :: session =>
      let (result, files) := localCall ops files call
      let (results, files) := localSession files session
      (result :: results, files)

/-- The arguments are of type `int`, a name is a C string, and the data fits in a request with the
terminator that `_write` adds for the standard output. A read of the standard input has room for all
that the server sends, any other one asks for no more than the server has room for. -/
def FileCall.Fits : FileCall → Prop
  | .openFile filename flags mode =>
      0 ∉ filename ∧ filename.length < 480 ∧ (-2 ^ 31 ≤ flags ∧ flags < 2 ^ 31) ∧
        -2 ^ 31 ≤ mode ∧ mode < 2 ^ 31
  | .close fd => -2 ^ 31 ≤ fd ∧ fd < 2 ^ 31
  | .read fd buflen =>
      (-2 ^ 31 ≤ fd ∧ fd < 2 ^ 31) ∧ (0 < buflen ∧ buflen < 2 ^ 31) ∧
        if fd = 0 then 480 ≤ buflen else buflen ≤ 480
  | .write fd _ len =>
      (-2 ^ 31 ≤ fd ∧ fd < 2 ^ 31) ∧ 0 ≤ len ∧ if fd = 1 then len ≤ 478 else len ≤ 480

end Proxy

end OpenAmp
