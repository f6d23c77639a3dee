import OpenAmp.Proof.ProxyIo
import OpenAmp.ProxySession

/-!
# Sessions over the proxy

A call whose data fits in a request does what the same call does on the server's files, and a session of
such calls what the same calls do one after the other; nothing on the way adds an error to the server's
count.
-/

namespace OpenAmp

open ByteMemory WordRecord

namespace Proxy

/-! ### Copying a request -/

section Copy

variable {shm : Nat → UInt8} {copy copy' copy'' : ShbufCopy} {rounds : Nat}

/-- So many bytes have been copied from one point to the other. -/
structure ShbufCopy.Advanced (shm : Nat → UInt8) (copy copy' : ShbufCopy) (count : Nat) : Prop where
  len : copy.len = copy'.len + count
  dst : copy'.dst = copy.dst + count
  shbuf : copy'.shbuf = copy.shbuf + count
  buf : copy'.buf = writeBytes copy.buf copy.dst (readBytes shm copy.shbuf count)

theorem ShbufCopy.Advanced.refl (shm : Nat → UInt8) (copy : ShbufCopy) :
    ShbufCopy.Advanced shm copy copy 0 :=
  ⟨rfl, rfl, rfl, writeBytes_nil.symm⟩

theorem ShbufCopy.Advanced.trans {first rest : Nat} (h : ShbufCopy.Advanced shm copy copy' first)
    (h' : ShbufCopy.Advanced shm copy' copy'' rest) :
    ShbufCopy.Advanced shm copy copy'' (first + rest) := by
  have hbytes := writeBytes_append copy.buf copy.dst (readBytes shm copy.shbuf first)
    (readBytes shm (copy.shbuf + first) rest)
  rw [length_readBytes, ← readBytes_add] at hbytes
  refine ⟨?_, ?_, ?_, ?_⟩
  · rw [h.len, h'.len]
    omega
  · rw [h'.dst, h.dst]
    omega
  · rw [h'.shbuf, h.shbuf]
    omega
  · rw [h'.buf, h.buf, h.dst, h.shbuf, hbytes]

theorem ShbufCopy.advanced_copyByte (hlen : 0 < copy.len) :
    ShbufCopy.Advanced shm copy (copy.copyByte shm) 1 :=
  ⟨(Nat.sub_add_cancel hlen).symm, rfl, rfl, rfl⟩

theorem ShbufCopy.advanced_copyInt (hlen : INT_SIZE ≤ copy.len) :
    ShbufCopy.Advanced shm copy (copy.copyInt shm) INT_SIZE := by
  refine ⟨(Nat.sub_add_cancel hlen).symm, rfl, rfl, ?_⟩
  have hbytes := leBytes_leValue (readBytes shm copy.shbuf INT_SIZE)
  rw [length_readBytes] at hbytes
  exact congrArg (writeBytes copy.buf copy.dst) hbytes

theorem copyAlign_advanced (shm : Nat → UInt8) (rounds : Nat) (copy : ShbufCopy) :
    ∃ count, ShbufCopy.Advanced shm copy (copyAlign shm rounds copy) count := by
  induction rounds generalizing copy with
  | zero => exact ⟨0, .refl shm copy⟩
  | succ rounds ih =>
      unfold copyAlign
      split_ifs with hloop
      · obtain ⟨count, hcount⟩ := ih (copy.copyByte shm)
        exact ⟨1 + count, (ShbufCopy.advanced_copyByte (Nat.pos_of_ne_zero hloop.1)).trans hcount⟩
      · exact ⟨0, .refl shm copy⟩

theorem copyInts_advanced (shm : Nat → UInt8) (rounds : Nat) (copy : ShbufCopy) :
    ∃ count, ShbufCopy.Advanced shm copy (copyInts shm rounds copy) count := by
  induction rounds generalizing copy with
  | zero => exact ⟨0, .refl shm copy⟩
  | succ rounds ih =>
      unfold copyInts
      split_ifs with hloop
      · obtain ⟨count, hcount⟩ := ih (copy.copyInt shm)
        exact ⟨INT_SIZE + count, (ShbufCopy.advanced_copyInt hloop).trans hcount⟩
      · exact ⟨0, .refl shm copy⟩

/-- The last loop copies what is left. -/
theorem copyRest_advanced (shm : Nat → UInt8) (hrounds : copy.len ≤ rounds) :
    ShbufCopy.Advanced shm copy (copyRest shm rounds copy) copy.len := by
  induction rounds generalizing copy with
  | zero =>
      have hlen := Nat.le_zero.mp hrounds
      rw [hlen]
      exact .refl shm copy
  | succ rounds ih =>
      unfold copyRest
      split_ifs with hloop
      · have hnext : (copy.copyByte shm).len = copy.len - 1 := rfl
        have hrest := ih (show (copy.copyByte shm).len ≤ rounds by omega)
        have hall := (ShbufCopy.advanced_copyByte hloop).trans hrest
        rwa [hnext, Nat.add_sub_cancel' hloop] at hall
      · have hlen : copy.len = 0 := by omega
        rw [hlen]
        exact .refl shm copy

/-- Whatever the alignment, the copy is the bytes. -/
theorem copyFromShbuf_eq (shm buf : Nat → UInt8) (shbuf len : Nat) :
    copyFromShbuf shm buf shbuf len = writeBytes buf 0 (readBytes shm shbuf len) := by
  let start : ShbufCopy := ⟨buf, 0, shbuf, len⟩
  obtain ⟨first, halign⟩ := copyAlign_advanced shm len start
  obtain ⟨second, hints⟩ := copyInts_advanced shm len (copyAlign shm len start)
  have hboth := halign.trans hints
  have hlen := hboth.len
  change len = _ at hlen
  have hleft : (copyInts shm len (copyAlign shm len start)).len ≤ len := by omega
  have hrest := copyRest_advanced shm hleft
  have hall := (hboth.trans hrest).buf
  rw [show first + second + (copyInts shm len (copyAlign shm len start)).len = len by omega] at hall
  exact hall

end Copy

/-! ### The two ends of a call -/

section Ends

variable {σ : Type} {ops : FileOps σ} {sendRet : List UInt8 → Int} {request response : List UInt8}
  {server : RpcServer σ} {files : σ}

/-- A response that is accepted for sending. -/
theorem sendResponse_eq (hsend : ∀ response, 0 < sendRet response) (files : σ)
    (response : List UInt8) : sendResponse sendRet files response = ⟨0, some response, files⟩ := by
  unfold sendResponse
  dsimp only
  have hpos := hsend response
  rw [if_pos hpos, if_neg (by omega)]

/-- A request in the shared memory reaches the handlers as it was sent. -/
theorem endpointCb_eq (buf shm : Nat → UInt8) (data : Nat)
    (hle : RpmsgRpcSyscall.size ≤ request.length) (hfits : request.length ≤ RPC_BUFF_SIZE)
    (hhandled : handleRpc ops sendRet (writeBytes buf 0 request) server.files =
      some (⟨0, some response, files⟩, false)) :
    rpmsgEndpointCb ops sendRet buf (writeBytes shm data request) data request.length server =
      some (some response, { server with files }) := by
  unfold rpmsgEndpointCb
  rw [if_neg (Nat.not_lt.mpr hle), if_neg (Nat.not_lt.mpr hfits)]
  dsimp only
  rw [copyFromShbuf_eq, readBytes_writeBytes_self, hhandled, Option.bind_eq_bind, Option.bind_some,
    Bool.or_false]
  rfl

theorem rpcStored_of_le {respLen : Nat} {data : List UInt8} (hle : data.length ≤ respLen) :
    rpcStored respLen data = data := by
  unfold rpcStored
  rw [if_neg (Nat.not_lt.mpr hle), List.take_length]

/-- A response to a call that looks at its first field only. -/
theorem simpleReturn_eq {id sent : Nat} (hid : id < 2 ^ 32) (resp : Nat → UInt8) (ret : Int) :
    simpleReturn id resp ⟨sent, RpmsgRpcSyscall.bytes ⟨id, ret, 0, 0⟩⟩ = toInt32 ret := by
  have hstored : rpcStored RpmsgRpcSyscall.size (RpmsgRpcSyscall.bytes ⟨id, ret, 0, 0⟩) =
      RpmsgRpcSyscall.bytes ⟨id, ret, 0, 0⟩ := rpcStored_of_le (Nat.le_of_eq length_syscall)
  have hbuf := ofBuf_writeBytes (writeBytes resp 0 (leBytes 4 0)) ⟨id, ret, 0, 0⟩ [] hid
    (Nat.two_pow_pos 32)
  rw [List.append_nil] at hbuf
  have hsent : ¬ (sent : Int) < 0 := by omega
  unfold simpleReturn rpmsgRpcSend RpcOutcome.stored
  dsimp only
  rw [if_neg hsent, if_neg hsent, hstored, hbuf]
  dsimp only
  rw [if_pos (by omega), if_pos rfl]

/-- A call that sends a request which the server answers. -/
theorem remoteCall_eq {call : FileCall} {ctx : CallContext} {failed result : FileResult}
    {sent : Option (List UInt8)} (hexit : server.exit = none)
    (hrequest : call.perform ctx ⟨0, []⟩ = some (some request, failed))
    (hle : RpmsgRpcSyscall.size ≤ request.length) (hfits : request.length ≤ RPC_BUFF_SIZE)
    (hhandled : ∀ buf, handleRpc ops sendRet (writeBytes buf 0 request) server.files =
      some (⟨0, some response, files⟩, false))
    (hresult : call.perform ctx ⟨request.length, response⟩ = some (sent, result)) :
    remoteCall ops sendRet ctx server call = some (result, { server with files }) := by
  have hserved := endpointCb_eq ctx.serverBuf ctx.shm ctx.data hle hfits (hhandled ctx.serverBuf)
  unfold remoteCall
  rw [hrequest, Option.bind_eq_bind, Option.bind_some]
  dsimp only
  rw [hexit, Option.isSome_none, if_neg Bool.false_ne_true, hserved]
  simp only [Option.bind_eq_bind, Option.bind_some, hresult]

/-- A call whose response has no data. -/
theorem remoteCall_simple {call : FileCall} {ctx : CallContext} {id : Nat} {ret : Int}
    (hid : id < 2 ^ 32) (hret : -2 ^ 31 ≤ ret ∧ ret < 2 ^ 31) (hexit : server.exit = none)
    (hperform : ∀ outcome : RpcOutcome, ¬ outcome.sent < 0 → call.perform ctx outcome =
      some (some request, ⟨simpleReturn id ctx.resp outcome, []⟩))
    (hle : RpmsgRpcSyscall.size ≤ request.length) (hfits : request.length ≤ RPC_BUFF_SIZE)
    (hhandled : ∀ buf, handleRpc ops sendRet (writeBytes buf 0 request) server.files =
      some (⟨0, some (RpmsgRpcSyscall.bytes ⟨id, ret, 0, 0⟩), files⟩, false)) :
    remoteCall ops sendRet ctx server call = some (⟨ret, []⟩, { server with files }) := by
  let outcome : RpcOutcome := ⟨request.length, RpmsgRpcSyscall.bytes ⟨id, ret, 0, 0⟩⟩
  have hsent : ¬ outcome.sent < 0 := Int.not_lt.mpr (Int.natCast_nonneg _)
  have hreturn : simpleReturn id ctx.resp outcome = ret := by
    rw [simpleReturn_eq hid, toInt32_of_int hret.1 hret.2]
  have hresult := hperform outcome hsent
  rw [hreturn] at hresult
  exact remoteCall_eq hexit (hperform ⟨0, []⟩ (by decide)) hle hfits hhandled hresult

theorem handleRpc_openFile {buf : Nat → UInt8}
    (hid : (RpmsgRpcSyscall.ofBuf buf).id = OPEN_SYSCALL_ID) :
    handleRpc ops sendRet buf files = (handleOpen ops sendRet buf files).map (·, false) := by
  unfold handleRpc
  rw [hid]
  rfl

theorem handleRpc_close {buf : Nat → UInt8}
    (hid : (RpmsgRpcSyscall.ofBuf buf).id = CLOSE_SYSCALL_ID) :
    handleRpc ops sendRet buf files = some (handleClose ops sendRet buf files, false) := by
  unfold handleRpc
  rw [hid]
  rfl

theorem handleRpc_read {buf : Nat → UInt8}
    (hid : (RpmsgRpcSyscall.ofBuf buf).id = READ_SYSCALL_ID) :
    handleRpc ops sendRet buf files = (handleReadFile ops sendRet buf files).map (·, false) := by
  unfold handleRpc
  rw [hid]
  rfl

theorem handleRpc_write {buf : Nat → UInt8}
    (hid : (RpmsgRpcSyscall.ofBuf buf).id = WRITE_SYSCALL_ID) :
    handleRpc ops sendRet buf files = some (handleWriteFile ops sendRet buf files, false) := by
  unfold handleRpc
  rw [hid]
  rfl

/-- The structure that a handler finds. -/
theorem ofBuf_request {id dataLen : Nat} {field1 field2 : Int} (hid : id < 2 ^ 32)
    (hlen : dataLen < 2 ^ 32) (hfield1 : -2 ^ 31 ≤ field1 ∧ field1 < 2 ^ 31)
    (hfield2 : -2 ^ 31 ≤ field2 ∧ field2 < 2 ^ 31) (rest : List UInt8) (buf : Nat → UInt8) :
    RpmsgRpcSyscall.ofBuf
        (writeBytes buf 0 (RpmsgRpcSyscall.bytes ⟨id, field1, field2, dataLen⟩ ++ rest)) =
      ⟨id, field1, field2, dataLen⟩ := by
  rw [ofBuf_writeBytes buf ⟨id, field1, field2, dataLen⟩ rest hid hlen]
  dsimp only
  rw [toInt32_of_int hfield1.1 hfield1.2, toInt32_of_int hfield2.1 hfield2.2]

end Ends

/-! ### The four calls -/

section Calls

variable {σ : Type} {ops : FileOps σ} {sendRet : List UInt8 → Int} {server : RpcServer σ}
  {ctx : CallContext}

theorem requestString_eq {header filename : List UInt8} (hheader : header.length = RpmsgRpcSyscall.size)
    (hfilename : 0 ∉ filename) (hlen : filename.length < 480) (buf : Nat → UInt8) :
    requestString (writeBytes buf 0 (header ++ (filename ++ [0]))) = some filename := by
  let request := writeBytes buf 0 (header ++ (filename ++ [0]))
  have hname : readBytes request RpmsgRpcSyscall.size (filename.length + 1) = filename ++ [0] := by
    have hpart : RpmsgRpcSyscall.size + (filename.length + 1) ≤
        (header ++ (filename ++ [0])).length := by
      rw [List.length_append, List.length_append, hheader]
      exact le_rfl
    have hread := readBytes_part request 0 hpart
    rw [Nat.zero_add, readBytes_writeBytes_self, Slice.slice, List.drop_left' hheader,
      List.take_of_length_le (by rw [List.length_append]; exact le_rfl)] at hread
    exact hread
  have hsplit : readBytes request RpmsgRpcSyscall.size (RPC_BUFF_SIZE - RpmsgRpcSyscall.size) =
      filename ++ 0 :: readBytes request (RpmsgRpcSyscall.size + (filename.length + 1))
        (480 - (filename.length + 1)) := by
    rw [show RPC_BUFF_SIZE - RpmsgRpcSyscall.size =
      filename.length + 1 + (480 - (filename.length + 1)) by
        unfold RPC_BUFF_SIZE RpmsgRpcSyscall.size
        omega, readBytes_add, hname, List.append_assoc]
    rfl
  unfold requestString
  dsimp only
  rw [hsplit, if_pos (List.mem_append_right _ List.mem_cons_self)]
  refine congrArg some ?_
  rw [FixedString.chars_of_holds ⟨hfilename, _, rfl⟩, List.take_of_length_le]
  rw [List.length_append]
  omega

theorem remoteCall_openFile (hops : ops.Lawful) (hsend : ∀ response, 0 < sendRet response)
    (hexit : server.exit = none) (hrpc : ctx.rpc ≠ NULL) {filename : List UInt8} {flags mode : Int}
    (hfits : FileCall.Fits (.openFile filename flags mode)) :
    remoteCall ops sendRet ctx server (.openFile filename flags mode) =
      some (⟨(ops.openFile filename flags mode server.files).1, []⟩,
        { server with files := (ops.openFile filename flags mode server.files).2 }) := by
  obtain ⟨hname, hlen, hflags, hmode⟩ := hfits
  let header : RpmsgRpcSyscall := ⟨OPEN_SYSCALL_ID, flags, mode, filename.length + 1⟩
  have hheader : header.bytes.length = RpmsgRpcSyscall.size := length_syscall
  have hsize : (header.bytes ++ (filename ++ [0])).length = 16 + (filename.length + 1) := by
    rw [List.length_append, List.length_append, hheader]
    rfl
  have hrequest : openRequest filename flags mode = some (header.bytes ++ (filename ++ [0])) := by
    unfold openRequest
    refine if_neg ?_
    unfold RpmsgRpcSyscall.size MAX_BUF_LEN
    omega
  have hperform (outcome : RpcOutcome) (hsent : ¬ outcome.sent < 0) :
      FileCall.perform ctx outcome (.openFile filename flags mode) =
        some (some (header.bytes ++ (filename ++ [0])),
          ⟨simpleReturn OPEN_SYSCALL_ID ctx.resp outcome, []⟩) := by
    unfold FileCall.perform openCall
    dsimp only
    rw [hrequest]
    dsimp only
    rw [if_neg hrpc, if_neg hsent]
  have hret := hops.openFile filename flags mode server.files
  refine remoteCall_simple (by decide) hret hexit hperform (by rw [hsize]; exact Nat.le_add_right _ _)
    (by rw [hsize]; unfold RPC_BUFF_SIZE; omega) (fun buf => ?_)
  have hbuf : RpmsgRpcSyscall.ofBuf (writeBytes buf 0 (header.bytes ++ (filename ++ [0]))) = header :=
    ofBuf_request (by decide) (by omega) hflags hmode _ buf
  rw [handleRpc_openFile (congrArg RpmsgRpcSyscall.id hbuf)]
  unfold handleOpen
  dsimp only
  rw [hbuf, requestString_eq hheader hname hlen, Option.bind_eq_bind, Option.bind_some,
    sendResponse_eq hsend]
  rfl

theorem remoteCall_close (hops : ops.Lawful) (hsend : ∀ response, 0 < sendRet response)
    (hexit : server.exit = none) (hrpc : ctx.rpc ≠ NULL) {fd : Int}
    (hfits : FileCall.Fits (.close fd)) :
    remoteCall ops sendRet ctx server (.close fd) =
      some (⟨(ops.closeFile fd server.files).1, []⟩,
        { server with files := (ops.closeFile fd server.files).2 }) := by
  let header : RpmsgRpcSyscall := ⟨CLOSE_SYSCALL_ID, fd, 0, 0⟩
  have hsize : header.bytes.length = RpmsgRpcSyscall.size := length_syscall
  have hperform (outcome : RpcOutcome) (hsent : ¬ outcome.sent < 0) :
      FileCall.perform ctx outcome (.close fd) =
        some (some header.bytes, ⟨simpleReturn CLOSE_SYSCALL_ID ctx.resp outcome, []⟩) := by
    unfold FileCall.perform closeCall
    dsimp only
    rw [if_neg hrpc, if_neg hsent]
  have hret := hops.closeFile fd server.files
  refine remoteCall_simple (by decide) hret hexit hperform (Nat.le_of_eq hsize.symm)
    (by rw [hsize]; decide) (fun buf => ?_)
  have hbuf : RpmsgRpcSyscall.ofBuf (writeBytes buf 0 header.bytes) = header := by
    have hrequest := ofBuf_request (show CLOSE_SYSCALL_ID < 2 ^ 32 by decide) (Nat.two_pow_pos 32)
      hfits (show -2 ^ 31 ≤ (0 : Int) ∧ (0 : Int) < 2 ^ 31 by decide) [] buf
    rwa [List.append_nil] at hrequest
  rw [handleRpc_close (congrArg RpmsgRpcSyscall.id hbuf)]
  unfold handleClose
  dsimp only
  rw [hbuf, sendResponse_eq hsend]

theorem remoteCall_write (hops : ops.Lawful) (hsend : ∀ response, 0 < sendRet response)
    (hexit : server.exit = none) (hrpc : ctx.rpc ≠ NULL) {fd len : Int} {ptr : Nat → UInt8}
    (hfits : FileCall.Fits (.write fd ptr len)) :
    remoteCall ops sendRet ctx server (.write fd ptr len) =
      some (⟨(ops.writeFile fd (readBytes ptr 0 len.toNat) server.files).1, []⟩,
        { server with
          files := (ops.writeFile fd (readBytes ptr 0 len.toNat) server.files).2 }) := by
  obtain ⟨hfd, hnonneg, hroom⟩ := hfits
  obtain ⟨n, rfl⟩ := Int.eq_ofNat_of_zero_le hnonneg
  have hn : n ≤ 480 := by
    split_ifs at hroom <;> omega
  have hterm : fd = 1 → n ≤ 478 := by
    intro hfd
    rw [if_pos hfd] at hroom
    omega
  have hnull : n + nullTerm fd ≤ 480 := by
    unfold nullTerm
    split_ifs with hfd
    · have hle := hterm hfd
      omega
    · exact hn
  let header : RpmsgRpcSyscall := ⟨WRITE_SYSCALL_ID, fd, n, n + nullTerm fd⟩
  let rest := readBytes ctx.tmpbuf (RpmsgRpcSyscall.size + n) (nullTerm fd)
  let request := header.bytes ++ (readBytes ptr 0 n ++ rest)
  have hsize : request.length = 16 + (n + nullTerm fd) := by
    rw [List.length_append, List.length_append, length_syscall, length_readBytes, length_readBytes]
    rfl
  have hrequest : writeRequest ctx.tmpbuf fd ptr n = some request := writeRequest_eq hn hterm
  have hperform (outcome : RpcOutcome) (hsent : ¬ outcome.sent < 0) :
      FileCall.perform ctx outcome (.write fd ptr n) =
        some (some request, ⟨simpleReturn WRITE_SYSCALL_ID ctx.resp outcome, []⟩) := by
    unfold FileCall.perform write
    dsimp only
    rw [if_neg hrpc, hrequest, Option.map_some, Option.map_some]
    dsimp only
    rw [if_neg hsent]
    rfl
  obtain ⟨hlow, hhigh⟩ := hops.writeFile fd (readBytes ptr 0 n) server.files
  rw [length_readBytes] at hhigh
  have hret : toInt32 (ops.writeFile fd (readBytes ptr 0 n) server.files).1 =
      (ops.writeFile fd (readBytes ptr 0 n) server.files).1 := toInt32_of_int (by omega) (by omega)
  rw [Int.toNat_natCast]
  refine remoteCall_simple (by decide) (by omega) hexit hperform
    (by rw [hsize]; exact Nat.le_add_right _ _) (by rw [hsize]; unfold RPC_BUFF_SIZE; omega)
    (fun buf => ?_)
  have hbuf : RpmsgRpcSyscall.ofBuf (writeBytes buf 0 request) = header :=
    ofBuf_request (by decide) (by omega) hfd (by omega) _ buf
  have hserved : handleWrite (writeBytes buf 0 request) = (fd, readBytes ptr 0 n) := by
    have hcopy : endpointCopy buf request = some (writeBytes buf 0 request) :=
      endpointCopy_eq (by rw [hsize]; exact Nat.le_add_right _ _)
        (by rw [hsize]; unfold RPC_BUFF_SIZE; omega)
    have hserve : serveWrite buf request = some (toInt32 fd, readBytes ptr 0 n) := by
      refine serveWrite_eq buf ?_ (by omega)
      rw [length_readBytes]
      exact hnull
    unfold serveWrite at hserve
    rw [hcopy, Option.bind_eq_bind, Option.bind_some, hbuf, if_pos rfl,
      toInt32_of_int hfd.1 hfd.2] at hserve
    exact Option.some.inj hserve
  rw [handleRpc_write (congrArg RpmsgRpcSyscall.id hbuf)]
  unfold handleWriteFile
  dsimp only
  rw [hserved, sendResponse_eq hsend]
  dsimp only
  rw [hret]

/-- How `_read` ends for a response to it. -/
theorem read_eq {rpc buffer : Nat} (tmpbuf : Nat → UInt8) (fd : Int) {buflen : Int} (ret : Int)
    {dataLen : Nat} (sent : Nat) {payload : List UInt8} (hrpc : rpc ≠ NULL) (hbuffer : buffer ≠ NULL) (hbuflen : buflen ≠ 0)
    (hlen : dataLen < 2 ^ 32) (hlength : payload.length ≤ 480) :
    let header : RpmsgRpcSyscall := ⟨READ_SYSCALL_ID, ret, 0, dataLen⟩
    read rpc buffer tmpbuf fd buflen ⟨sent, header.bytes ++ payload⟩ =
      ⟨toInt32 ret, some (readRequest fd buflen),
        if toInt32 ret > 0 then ofInt 64 (min (toInt32 dataLen) buflen) else 0,
        writeBytes (writeBytes tmpbuf 0 (leBytes 4 0)) 0 (header.bytes ++ payload)⟩ := by
  intro header
  have hstored : rpcStored MAX_BUF_LEN (header.bytes ++ payload) = header.bytes ++ payload := by
    refine rpcStored_of_le ?_
    rw [List.length_append, length_syscall]
    exact Nat.add_le_add_left hlength 16
  have hbuf := ofBuf_writeBytes (writeBytes tmpbuf 0 (leBytes 4 0)) header payload
    (show READ_SYSCALL_ID < 2 ^ 32 by decide) hlen
  have hsent : ¬ (sent : Int) < 0 := by omega
  unfold read readResponse rpmsgRpcSend RpcOutcome.stored
  dsimp only
  rw [if_neg (by omega), if_neg hsent, if_neg hsent, if_neg hsent, hstored, hbuf]
  dsimp only
  rw [if_pos (by omega), if_pos rfl, clamped_eq]

theorem perform_read (hrpc : ctx.rpc ≠ NULL) (hbuffer : ctx.buffer ≠ NULL) {fd buflen : Int}
    (hbuflen : 0 < buflen) {sent : Nat} {payload : List UInt8} (hfits : payload.length ≤ buflen)
    (hlength : payload.length ≤ 480) :
    FileCall.perform ctx ⟨sent, RpmsgRpcSyscall.bytes
        ⟨READ_SYSCALL_ID, payload.length, 0, payload.length⟩ ++ payload⟩ (.read fd buflen) =
      some (some (readRequest fd buflen), ⟨payload.length, payload⟩) := by
  have hint : toInt32 (payload.length : Nat) = payload.length := toInt32_of_lt (by omega)
  have hout := read_eq ctx.tmpbuf fd payload.length sent hrpc hbuffer (show buflen ≠ 0 by omega)
    (show payload.length < 2 ^ 32 by omega) hlength
  dsimp only at hout
  have hcopied : (if toInt32 (payload.length : Nat) > 0
      then ofInt 64 (min (toInt32 (payload.length : Nat)) buflen) else 0) = payload.length := by
    rw [hint]
    split_ifs
    · rw [Int.min_eq_left hfits, ofInt_natCast (by omega)]
    · omega
  rw [hcopied, hint] at hout
  unfold FileCall.perform
  dsimp only
  rw [hout]
  dsimp only
  generalize hheader : RpmsgRpcSyscall.bytes _ = header
  have hsize : header.length = RpmsgRpcSyscall.size := by
    rw [← hheader]
    exact length_syscall
  have hpart : RpmsgRpcSyscall.size + payload.length ≤ (header ++ payload).length := by
    rw [List.length_append, hsize]
  have hread := readBytes_part (writeBytes (writeBytes ctx.tmpbuf 0 (leBytes 4 0)) 0
    (header ++ payload)) 0 hpart
  rw [Nat.zero_add, readBytes_writeBytes_self, Slice.slice, List.drop_left' hsize,
    List.take_length] at hread
  rw [hread]

theorem perform_read_failed (hrpc : ctx.rpc ≠ NULL) (hbuffer : ctx.buffer ≠ NULL) {fd buflen : Int}
    (hbuflen : 0 < buflen) {sent : Nat} :
    FileCall.perform ctx
        ⟨sent, RpmsgRpcSyscall.bytes ⟨READ_SYSCALL_ID, -1, 0, ofInt 32 (-1)⟩⟩ (.read fd buflen) =
      some (some (readRequest fd buflen), ⟨-1, []⟩) := by
  have hout := read_eq ctx.tmpbuf fd (-1) sent hrpc hbuffer (show buflen ≠ 0 by omega)
    (show ofInt 32 (-1) < 2 ^ 32 by decide) (show [].length ≤ 480 from Nat.zero_le 480)
  dsimp only at hout
  rw [List.append_nil, toInt32_of_int (by decide) (by decide), if_neg (by decide)] at hout
  unfold FileCall.perform
  dsimp only
  rw [hout]
  rfl

theorem remoteCall_read (hops : ops.Lawful) (hsend : ∀ response, 0 < sendRet response)
    (hexit : server.exit = none) (hrpc : ctx.rpc ≠ NULL) (hbuffer : ctx.buffer ≠ NULL)
    {fd buflen : Int} (hfits : FileCall.Fits (.read fd buflen)) :
    remoteCall ops sendRet ctx server (.read fd buflen) =
      some ((localCall ops server.files (.read fd buflen)).1,
        { server with files := (localCall ops server.files (.read fd buflen)).2 }) := by
  obtain ⟨hfd, ⟨hpos, hlt⟩, hroom⟩ := hfits
  let count := min buflen.toNat (RPC_BUFF_SIZE - RpmsgRpcSyscall.size)
  have hcount480 : count ≤ 480 := Nat.min_le_right _ _
  have hcountLe : (count : Int) ≤ buflen := by
    have hle : count ≤ buflen.toNat := Nat.min_le_left _ _
    omega
  have hsize : (readRequest fd buflen).length = RpmsgRpcSyscall.size := length_syscall
  have hbuf (buf : Nat → UInt8) : RpmsgRpcSyscall.ofBuf (writeBytes buf 0 (readRequest fd buflen)) =
      ⟨READ_SYSCALL_ID, fd, buflen, 0⟩ := by
    have hrequest := ofBuf_request (show READ_SYSCALL_ID < 2 ^ 32 by decide) (Nat.two_pow_pos 32)
      hfd (show -2 ^ 31 ≤ buflen ∧ buflen < 2 ^ 31 by omega) [] buf
    rwa [List.append_nil] at hrequest
  have hcount (buf : Nat → UInt8) : readCount (writeBytes buf 0 (readRequest fd buflen)) = count := by
    unfold readCount
    dsimp only
    rw [hbuf]
    dsimp only [count]
    unfold ofInt RPC_BUFF_SIZE RpmsgRpcSyscall.size
    split_ifs at hroom ⊢
    · omega
    · omega
  have hfail : FileCall.perform ctx ⟨0, []⟩ (.read fd buflen) =
      some (some (readRequest fd buflen),
        ⟨(read ctx.rpc ctx.buffer ctx.tmpbuf fd buflen ⟨0, []⟩).ret,
          readBytes (read ctx.rpc ctx.buffer ctx.tmpbuf fd buflen ⟨0, []⟩).tmpbuf
            RpmsgRpcSyscall.size (read ctx.rpc ctx.buffer ctx.tmpbuf fd buflen ⟨0, []⟩).copied⟩) := by
    have hsent : (read ctx.rpc ctx.buffer ctx.tmpbuf fd buflen ⟨0, []⟩).sent =
        some (readRequest fd buflen) := by
      unfold read
      dsimp only
      rw [if_neg (by omega)]
      split_ifs <;> first | rfl | contradiction
    unfold FileCall.perform
    dsimp only
    rw [hsent]
  have hhandle (buf : Nat → UInt8) : handleReadFile ops sendRet
      (writeBytes buf 0 (readRequest fd buflen)) server.files =
        (handleRead (fun _ _ => (ops.readFile fd count server.files).1)
          (writeBytes buf 0 (readRequest fd buflen))).map
            (sendResponse sendRet (ops.readFile fd count server.files).2) := by
    unfold handleReadFile
    rw [hcount, hbuf]
  have hlocal : localCall ops server.files (.read fd buflen) =
      (readResult (ops.readFile fd count server.files).1,
        (ops.readFile fd count server.files).2) := rfl
  have hlawful := hops.readFile fd count server.files
  rw [hlocal]
  generalize (ops.readFile fd count server.files).2 = files at hhandle
  cases hbytes : (ops.readFile fd count server.files).1 with
  | none =>
      rw [hbytes] at hhandle
      refine remoteCall_eq hexit hfail (Nat.le_of_eq hsize.symm) (by rw [hsize]; decide)
        (fun buf => ?_) (perform_read_failed hrpc hbuffer hpos)
      rw [handleRpc_read (congrArg RpmsgRpcSyscall.id (hbuf buf)), hhandle]
      unfold handleRead
      dsimp only
      rw [Option.map_some, sendResponse_eq hsend]
      rfl
  | some bytes =>
      rw [hbytes] at hhandle
      have hlen := hlawful bytes hbytes
      refine remoteCall_eq hexit hfail (Nat.le_of_eq hsize.symm) (by rw [hsize]; decide)
        (fun buf => ?_) (perform_read hrpc hbuffer hpos (by omega) (by omega))
      have hroom' : RpmsgRpcSyscall.size + bytes.length ≤ RPC_BUFF_SIZE := by
        unfold RPC_BUFF_SIZE RpmsgRpcSyscall.size
        omega
      rw [handleRpc_read (congrArg RpmsgRpcSyscall.id (hbuf buf)), hhandle]
      unfold handleRead
      dsimp only
      rw [if_pos hroom', Option.map_some, sendResponse_eq hsend]
      rfl

/-- A call that fits does what it would do on the server. -/
theorem remoteCall_local (hops : ops.Lawful) (hsend : ∀ response, 0 < sendRet response)
    (hexit : server.exit = none) (hrpc : ctx.rpc ≠ NULL) (hbuffer : ctx.buffer ≠ NULL)
    {call : FileCall} (hfits : call.Fits) :
    remoteCall ops sendRet ctx server call = some ((localCall ops server.files call).1,
      { server with files := (localCall ops server.files call).2 }) := by
  cases call with
  | openFile filename flags mode => exact remoteCall_openFile hops hsend hexit hrpc hfits
  | close fd => exact remoteCall_close hops hsend hexit hrpc hfits
  | read fd buflen => exact remoteCall_read hops hsend hexit hrpc hbuffer hfits
  | write fd ptr len => exact remoteCall_write hops hsend hexit hrpc hfits

end Calls

/-! ### Whole sessions -/

section Sessions

variable {σ : Type} {ops : FileOps σ} {sendRet : List UInt8 → Int} {server : RpcServer σ}

theorem remoteSession_local (hops : ops.Lawful) (hsend : ∀ response, 0 < sendRet response)
    (hexit : server.exit = none) {session : List (FileCall × CallContext)}
    (hfits : ∀ call ∈ session, call.1.Fits ∧ call.2.rpc ≠ NULL ∧ call.2.buffer ≠ NULL) :
    remoteSession ops sendRet server session =
      some ((localSession ops server.files (session.map Prod.fst)).1,
        { server with files := (localSession ops server.files (session.map Prod.fst)).2 }) := by
  induction session generalizing server with
  | nil => rfl
  | cons first session ih =>
      obtain ⟨call, ctx⟩ := first
      obtain ⟨⟨hcall, hrpc, hbuffer⟩, hrest⟩ := List.forall_mem_cons.mp hfits
      have hfirst := remoteCall_local hops hsend hexit hrpc hbuffer hcall
      have hexit' : RpcServer.exit { server with files := (localCall ops server.files call).2 } =
          none := hexit
      unfold remoteSession
      rw [hfirst, Option.bind_eq_bind, Option.bind_some]
      dsimp only
      rw [ih hexit' hrest, Option.bind_eq_bind, Option.bind_some]
      rfl

/-- A message that asks for termination, with anything behind its id. -/
theorem endpointCb_term (hexit : server.exit = none) (buf shm : Nat → UInt8) (data : Nat)
    (field1 field2 : Int) {dataLen : Nat} (hlen : dataLen < 2 ^ 32) :
    let request := RpmsgRpcSyscall.bytes ⟨TERM_SYSCALL_ID, field1, field2, dataLen⟩
    ∃ server', rpmsgEndpointCb ops sendRet buf (writeBytes shm data request) data request.length
        server = some (none, server') ∧ server'.exit = some 0 ∧ server'.files = server.files := by
  intro request
  have hsize : request.length = RpmsgRpcSyscall.size := length_syscall
  have hid : (RpmsgRpcSyscall.ofBuf (writeBytes buf 0 request)).id = TERM_SYSCALL_ID := by
    have hbuf := ofBuf_writeBytes buf ⟨TERM_SYSCALL_ID, field1, field2, dataLen⟩ []
      (show TERM_SYSCALL_ID < 2 ^ 32 by decide) hlen
    rw [List.append_nil] at hbuf
    exact congrArg RpmsgRpcSyscall.id hbuf
  have hhandled : handleRpc ops sendRet (writeBytes buf 0 request) server.files =
      some (⟨0, none, server.files⟩, true) := by
    unfold handleRpc
    rw [hid]
    rfl
  have hcount : server.errCnt = 0 := by
    unfold RpcServer.exit at hexit
    by_contra hne
    rw [if_pos hne] at hexit
    cases hexit
  refine ⟨{ server with requestTermination := true }, ?_, ?_, rfl⟩
  · unfold rpmsgEndpointCb
    rw [hsize, if_neg (lt_irrefl _), if_neg (by decide)]
    dsimp only
    rw [copyFromShbuf_eq, ← hsize, readBytes_writeBytes_self, hhandled, Option.bind_eq_bind,
      Option.bind_some, Bool.or_true]
    rfl
  · unfold RpcServer.exit
    dsimp only
    rw [if_neg (not_not.mpr hcount), if_pos rfl]

end Sessions

/-- A session of calls that fit returns and stores what the same calls do on the server's files, and
leaves the files as they do, whatever the stacks and the alignment of the shared memory. The server
counts no error, and exits with success when the client then asks for termination. -/
theorem remote_session_local {σ : Type} {ops : FileOps σ} (hops : ops.Lawful)
    {sendRet : List UInt8 → Int} (hsend : ∀ response, 0 < sendRet response) {server : RpcServer σ}
    (hexit : server.exit = none) {session : List (FileCall × CallContext)}
    (hfits : ∀ call ∈ session, call.1.Fits ∧ call.2.rpc ≠ NULL ∧ call.2.buffer ≠ NULL) :
    ∃ server', remoteSession ops sendRet server session =
        some ((localSession ops server.files (session.map Prod.fst)).1, server') ∧
      server'.files = (localSession ops server.files (session.map Prod.fst)).2 ∧
      server'.exit = none ∧
      ∀ buf shm data field1 field2 dataLen, dataLen < 2 ^ 32 →
        let request := RpmsgRpcSyscall.bytes ⟨TERM_SYSCALL_ID, field1, field2, dataLen⟩
        ∃ server'', rpmsgEndpointCb ops sendRet buf (writeBytes shm data request) data request.length
            server' = some (none, server'') ∧
          server''.exit = some 0 ∧ server''.files = server'.files := by
  let files := (localSession ops server.files (session.map Prod.fst)).2
  have hexit' : RpcServer.exit { server with files } = none := hexit
  refine ⟨{ server with files }, remoteSession_local hops hsend hexit hfits, rfl, hexit', ?_⟩
  exact fun buf shm data field1 field2 _ hlen => endpointCb_term hexit' buf shm data field1 field2 hlen

/-- One file, whose reader takes away what it reads. -/
def oneFile : FileOps (List UInt8) where
  openFile _ _ _ files := (3, files)
  closeFile _ files := (0, files)
  readFile _ count files := (some (files.take count), files.drop count)
  writeFile _ bytes files := (bytes.length, files ++ bytes)

theorem oneFile_lawful : oneFile.Lawful where
  openFile _ _ _ _ := (by decide : -2 ^ 31 ≤ (3 : Int) ∧ (3 : Int) < 2 ^ 31)
  closeFile _ _ := (by decide : -2 ^ 31 ≤ (0 : Int) ∧ (0 : Int) < 2 ^ 31)
  readFile _ count files bytes hread := by
    obtain rfl := Option.some.inj hread
    exact List.length_take_le count files
  writeFile _ bytes _ := by
    change -1 ≤ (bytes.length : Int) ∧ (bytes.length : Int) ≤ bytes.length
    omega

/-- Two bytes are written and read back, with the shared memory at an odd address. -/
theorem remote_session_two_bytes :
    ∃ (session : List (FileCall × CallContext)) (server' : RpcServer (List UInt8)),
      remoteSession oneFile (fun response => response.length + 1) ⟨[], 0, false⟩ session =
        some ([⟨3, []⟩, ⟨2, []⟩, ⟨2, [7, 7]⟩, ⟨0, []⟩], server') ∧ server'.files = [] := by
  let ctx : CallContext := ⟨1, 1, fun _ => 170, fun _ => 170, fun _ => 170, fun _ => 170, 4097⟩
  let session : List (FileCall × CallContext) :=
    [(.openFile [97] 0 0, ctx), (.write 3 (fun _ => 7) 2, ctx), (.read 3 2, ctx), (.close 3, ctx)]
  have hfits : ∀ call ∈ session, call.1.Fits ∧ call.2.rpc ≠ NULL ∧ call.2.buffer ≠ NULL := by
    intro call hcall
    simp only [session, List.mem_cons, List.not_mem_nil, or_false] at hcall
    obtain rfl | rfl | rfl | rfl := hcall
    all_goals
      refine ⟨?_, by decide, by decide⟩
      simp [FileCall.Fits]
  have hexit : RpcServer.exit (⟨[], 0, false⟩ : RpcServer (List UInt8)) = none := rfl
  obtain ⟨server', hrun, hfiles, -⟩ := remote_session_local oneFile_lawful
    (fun response => Int.lt_add_one_of_le (Int.natCast_nonneg response.length)) hexit hfits
  exact ⟨session, server', hrun, hfiles⟩

end Proxy

end OpenAmp
