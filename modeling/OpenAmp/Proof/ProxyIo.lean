import OpenAmp.ProxyIo

/-!
# The proxy's read and write calls

Which requests of `_write` are what the server reads back, and which responses `_read` passes on as they
are.
-/

namespace OpenAmp

open ByteMemory WordRecord

/-! ### The structure in a buffer -/

section Structure

variable {buf : Nat → UInt8} {syscall : RpmsgRpcSyscall} {rest : List UInt8}

theorem toInt32_ofInt (value : Int) : toInt32 (ofInt 32 value) = toInt32 value := by
  have hcast : (ofInt 32 value : Int) = value % (2 ^ 32 : Nat) :=
    Int.toNat_of_nonneg (Int.emod_nonneg _ (by decide))
  rw [hcast]
  exact Int.emod_bmod value (2 ^ 32)

theorem toInt32_of_int {value : Int} (hle : -2 ^ 31 ≤ value) (hlt : value < 2 ^ 31) :
    toInt32 value = value := by
  unfold toInt32
  rw [Int.bmod_eq_of_le] <;> omega

theorem ofInt_lt (value : Int) : ofInt 32 value < 256 ^ 4 := by
  unfold ofInt
  omega

@[simp] theorem length_syscall : syscall.bytes.length = RpmsgRpcSyscall.size := length_words

variable (buf syscall rest) in
theorem ofBuf_writeBytes (hid : syscall.id < 2 ^ 32) (hlen : syscall.dataLen < 2 ^ 32) :
    RpmsgRpcSyscall.ofBuf (writeBytes buf 0 (syscall.bytes ++ rest)) =
      { syscall with
        intField1 := toInt32 syscall.intField1, intField2 := toInt32 syscall.intField2 } := by
  have hword (i : Nat) (hi : i < 4) :
      wordAt (writeBytes buf 0 (syscall.bytes ++ rest)) 0 4 i =
        [syscall.id, ofInt 32 syscall.intField1, ofInt 32 syscall.intField2, syscall.dataLen][i] %
          256 ^ 4 :=
    wordAt_writeBytes hi
  have hint (value : Int) : toInt32 ((ofInt 32 value % 256 ^ 4 : Nat) : Int) = toInt32 value := by
    rw [Nat.mod_eq_of_lt (ofInt_lt value)]
    exact toInt32_ofInt value
  unfold RpmsgRpcSyscall.ofBuf
  rw [hword 0 (by decide), hword 1 (by decide), hword 2 (by decide), hword 3 (by decide)]
  simp only [RpmsgRpcSyscall.mk.injEq]
  exact ⟨Nat.mod_eq_of_lt hid, hint _, hint _, Nat.mod_eq_of_lt hlen⟩

end Structure

namespace Proxy

/-! ### Requests to write -/

section Write

variable {tmpbuf resp ptr : Nat → UInt8} {fd len : Int} {request : List UInt8}

theorem nullTerm_one (hfd : fd = 1) : nullTerm fd = 1 := if_pos hfd

theorem nullTerm_other (hfd : fd ≠ 1) : nullTerm fd = 0 := if_neg hfd

theorem endpointCopy_eq {data : List UInt8} {buf : Nat → UInt8} (hle : RpmsgRpcSyscall.size ≤ data.length)
    (hfits : data.length ≤ RPC_BUFF_SIZE) :
    endpointCopy buf data = some (writeBytes buf 0 data) := by
  unfold endpointCopy
  rw [if_neg (Nat.not_lt.mpr hle), if_neg (Nat.not_lt.mpr hfits)]
  dsimp only
  rw [List.take_length]

theorem serveWrite_eq (buf : Nat → UInt8) {n dataLen : Nat} {rest : List UInt8}
    (hfits : n + rest.length ≤ 480) (hlen : dataLen < 2 ^ 32) :
    serveWrite buf (RpmsgRpcSyscall.bytes ⟨WRITE_SYSCALL_ID, fd, n, dataLen⟩ ++
      (readBytes ptr 0 n ++ rest)) = some (toInt32 fd, readBytes ptr 0 n) := by
  generalize hdata : readBytes ptr 0 n = data
  have hn : data.length = n := by
    rw [← hdata]
    exact length_readBytes
  generalize hheader : RpmsgRpcSyscall.mk WRITE_SYSCALL_ID fd n dataLen = header
  have hbuf := ofBuf_writeBytes buf header (data ++ rest)
    (by rw [← hheader]; exact (by decide : WRITE_SYSCALL_ID < 2 ^ 32)) (by rw [← hheader]; exact hlen)
  generalize hrequest : header.bytes ++ (data ++ rest) = request at hbuf
  have hlength : request.length = 16 + (n + rest.length) := by
    rw [← hrequest, List.length_append, List.length_append, length_syscall, hn]
    rfl
  have hpart : RpmsgRpcSyscall.size + n ≤ request.length := by
    rw [hlength]
    exact Nat.add_le_add_left (Nat.le_add_right _ _) 16
  have hcopied : readBytes (writeBytes buf 0 request) (0 + RpmsgRpcSyscall.size) n = data := by
    rw [readBytes_part _ _ hpart, readBytes_writeBytes_self, ← hrequest, Slice.slice,
      List.drop_left' length_syscall, List.take_left' hn]
  have hcopy : endpointCopy buf request = some (writeBytes buf 0 request) := by
    refine endpointCopy_eq ?_ ?_
    · rw [hlength]
      exact Nat.le_add_right _ _
    · rw [hlength]
      exact Nat.add_le_add_left hfits 16
  rw [Nat.zero_add] at hcopied
  unfold serveWrite handleWrite
  rw [hcopy, Option.bind_eq_bind, Option.bind_some, hbuf, ← hheader, if_pos rfl]
  dsimp only
  rw [ofInt_toInt32 (by omega), hcopied]

theorem inTmpbuf_nat {offset size : Nat} : InTmpbuf offset size ↔ offset + size ≤ MAX_BUF_LEN := by
  unfold InTmpbuf
  omega

theorem sentBytes_eq {n : Nat} (hn : n ≤ MAX_BUF_LEN) :
    sentBytes tmpbuf n = some (readBytes tmpbuf 0 n) := by
  have hcount : ofInt 64 n = n := ofInt_natCast (by unfold MAX_BUF_LEN at hn; omega)
  unfold sentBytes
  rw [hcount, if_pos]
  refine inTmpbuf_nat.mpr ?_
  rwa [Nat.zero_add]

/-- A request that stays in the buffer: behind the data comes what has been in the buffer there, since
the terminator is stored one byte further on. -/
theorem writeRequest_eq {n : Nat} (hn : n ≤ 480) (hterm : fd = 1 → n ≤ 478) :
    writeRequest tmpbuf fd ptr n =
      some (RpmsgRpcSyscall.bytes ⟨WRITE_SYSCALL_ID, fd, n, n + nullTerm fd⟩ ++
        (readBytes ptr 0 n ++ readBytes tmpbuf (RpmsgRpcSyscall.size + n) (nullTerm fd))) := by
  have hcount : ofInt 64 n = n := ofInt_natCast (by omega)
  have hpayload : toInt32 (u64 (RpmsgRpcSyscall.size + n)) = ((RpmsgRpcSyscall.size + n : Nat) : Int) := by
    unfold RpmsgRpcSyscall.size
    rw [u64_of_lt (by omega), toInt32_of_lt (by omega)]
  have hdataLen : ofInt 32 ((n : Int) + nullTerm fd) = n + nullTerm fd := by
    unfold ofInt nullTerm
    split_ifs <;> omega
  have hfits : InTmpbuf (RpmsgRpcSyscall.size : Nat) n := inTmpbuf_nat.mpr (Nat.add_le_add_left hn 16)
  unfold writeRequest
  dsimp only
  rw [hcount, hpayload, hdataLen, if_pos hfits]
  generalize hdata : readBytes ptr 0 n = data
  generalize hheader : RpmsgRpcSyscall.bytes _ = header
  have hsize : header.length = RpmsgRpcSyscall.size := by
    rw [← hheader]
    exact length_syscall
  have hlength : (header ++ data).length = RpmsgRpcSyscall.size + n := by
    rw [List.length_append, hsize, ← hdata, length_readBytes]
  have hstored : writeBytes (writeBytes tmpbuf 0 header) RpmsgRpcSyscall.size data =
      writeBytes tmpbuf 0 (header ++ data) := by
    have happend := writeBytes_append tmpbuf 0 header data
    rwa [Nat.zero_add, hsize] at happend
  have hread : readBytes (writeBytes tmpbuf 0 (header ++ data)) 0 (RpmsgRpcSyscall.size + n) =
      header ++ data := by
    rw [← hlength]
    exact readBytes_writeBytes_self _ _ _
  have hmax : MAX_BUF_LEN = RpmsgRpcSyscall.size + 480 := rfl
  rw [hstored, ← List.append_assoc]
  by_cases hfd : fd = 1
  · have hend : RpmsgRpcSyscall.size + n + 1 + 1 ≤ MAX_BUF_LEN := by
      have hle := hterm hfd
      omega
    have hterminator : (RpmsgRpcSyscall.size : Int) + n + (1 : Nat) =
        ((RpmsgRpcSyscall.size + n + 1 : Nat) : Int) := by
      push_cast
      rfl
    rw [nullTerm_one hfd, if_pos rfl, hterminator, if_pos (inTmpbuf_nat.mpr hend), Int.toNat_natCast]
    refine (sentBytes_eq (Nat.le_of_succ_le hend)).trans ?_
    rw [readBytes_writeBytes_of_disjoint (Or.inl (Nat.le_of_eq (Nat.zero_add _))),
      readBytes_add, hread,
      readBytes_writeBytes_of_disjoint (Or.inr (by omega)), Nat.zero_add]
  · rw [nullTerm_other hfd, if_neg (by omega), sentBytes_eq (by omega), hread]
    exact congrArg some (List.append_nil _).symm

theorem length_sentBytes {payloadSize : Int} (h : sentBytes tmpbuf payloadSize = some request) :
    request.length ≤ MAX_BUF_LEN := by
  unfold sentBytes at h
  split_ifs at h with hfits
  obtain rfl := Option.some.inj h
  rw [length_readBytes]
  have hle := hfits.2
  omega

theorem length_writeRequest (h : writeRequest tmpbuf fd ptr len = some request) :
    request.length ≤ MAX_BUF_LEN := by
  unfold writeRequest at h
  dsimp only at h
  split_ifs at h
  · exact length_sentBytes h
  · exact length_sentBytes h

theorem length_writePayload : (writePayload fd ptr len).length = len.toNat + nullTerm fd := by
  unfold writePayload nullTerm
  split_ifs <;> simp

/-- A request for the standard output that needs the last byte of the buffer, or the one behind it, is
never sent: the terminator misses the buffer. -/
theorem writeRequest_none {n : Nat} (hlow : 478 < n) (hhigh : n ≤ 480) :
    writeRequest tmpbuf 1 ptr n = none := by
  have hcount : ofInt 64 n = n := ofInt_natCast (by omega)
  have hfits : InTmpbuf (RpmsgRpcSyscall.size : Nat) n := inTmpbuf_nat.mpr (Nat.add_le_add_left hhigh 16)
  unfold writeRequest
  dsimp only
  rw [hcount, if_pos hfits, nullTerm_one rfl, if_pos rfl, if_neg]
  rintro ⟨-, hend⟩
  unfold RpmsgRpcSyscall.size MAX_BUF_LEN at hend
  omega

theorem encoded_iff {n : Nat} (hn : n ≤ 480) (hterm : fd = 1 → n ≤ 478) :
    (∃ request, writeRequest tmpbuf fd ptr n = some request ∧ Encoded fd ptr n request) ↔
      (fd = 1 → tmpbuf (RpmsgRpcSyscall.size + n) = 0) := by
  rw [writeRequest_eq hn hterm]
  constructor
  · rintro ⟨request, hrequest, hencoded⟩ hfd
    obtain rfl := Option.some.inj hrequest
    have hbytes := hencoded.bytes
    rw [length_writePayload, Int.toNat_natCast] at hbytes
    have hrest := List.append_cancel_left (List.append_cancel_left hbytes)
    rw [nullTerm_one hfd, if_pos hfd] at hrest
    exact (List.cons.inj hrest).1
  · intro hzero
    have hrest : readBytes tmpbuf (RpmsgRpcSyscall.size + n) (nullTerm fd) =
        if fd = 1 then [0] else [] := by
      split_ifs with hfd
      · rw [nullTerm_one hfd]
        exact congrArg (fun byte => [byte]) (hzero hfd)
      · rw [nullTerm_other hfd]
        rfl
    refine ⟨_, rfl, Int.natCast_nonneg n, ?_, fun buf => ?_⟩
    · rw [length_writePayload, Int.toNat_natCast, hrest]
      rfl
    · rw [serveWrite_eq]
      · rfl
      · rw [length_readBytes]
        unfold nullTerm
        split_ifs with hfd
        · have hle := hterm hfd
          omega
        · exact hn
      · unfold nullTerm
        split_ifs <;> omega

theorem write_contract_iff {rpc : Nat} (hrpc : rpc ≠ NULL) :
    (∀ resp outcome, WriteContract fd ptr len (write rpc tmpbuf resp fd ptr len outcome)) ↔
      ∃ request, writeRequest tmpbuf fd ptr len = some request ∧ Encoded fd ptr len request := by
  unfold write
  simp only [if_neg hrpc]
  constructor
  · intro h
    obtain ⟨ret, sent, hout, hsent⟩ := h (fun _ => 0) ⟨0, []⟩
    obtain ⟨request, hrequest, hpair⟩ := Option.map_eq_some_iff.mp hout
    have hsome : some request = sent := congrArg Prod.snd hpair
    rcases hsent with ⟨-, hnone⟩ | ⟨request', hsome', hencoded⟩
    · exact nomatch hsome.trans hnone
    · obtain rfl := Option.some.inj (hsome.trans hsome')
      exact ⟨request, hrequest, hencoded⟩
  · rintro ⟨request, hrequest, hencoded⟩ resp outcome
    rw [hrequest, Option.map_some]
    refine ⟨_, _, rfl, ?_⟩
    by_cases hfailed : outcome.sent < 0
    · refine Or.inl ⟨?_, if_pos hfailed⟩
      unfold rpmsgRpcSend
      rw [if_pos hfailed]
      dsimp only
      rw [if_neg (by decide)]
      decide
    · exact Or.inr ⟨request, if_neg hfailed, hencoded⟩

/-- Whatever becomes of the request, `_write` sends it encoded exactly where it fits, with a byte that
is zero already in place of the terminator. -/
theorem write_encoded_iff (rpc : Nat) (tmpbuf : Nat → UInt8) (fd : Int) (ptr : Nat → UInt8)
    (len : Int) :
    (∀ resp outcome, WriteContract fd ptr len (write rpc tmpbuf resp fd ptr len outcome)) ↔
      WriteFits rpc tmpbuf fd len := by
  by_cases hrpc : rpc = NULL
  · refine iff_of_true (fun resp outcome => ?_) (Or.inl hrpc)
    exact ⟨-EINVAL, none, if_pos hrpc, Or.inl ⟨by decide, rfl⟩⟩
  rw [write_contract_iff hrpc]
  unfold WriteFits
  rw [or_iff_right hrpc]
  constructor
  · rintro ⟨request, hrequest, hencoded⟩
    obtain ⟨n, rfl⟩ := Int.eq_ofNat_of_zero_le hencoded.len_nonneg
    have hlength := length_writeRequest hrequest
    rw [hencoded.bytes, List.length_append, length_syscall, length_writePayload, Int.toNat_natCast]
      at hlength
    have hn : n ≤ 480 := by
      unfold RpmsgRpcSyscall.size MAX_BUF_LEN at hlength
      omega
    have hterm : fd = 1 → n ≤ 478 := by
      rintro rfl
      by_contra hlow
      rw [writeRequest_none (by omega) hn] at hrequest
      exact nomatch hrequest
    have hzero := (encoded_iff hn hterm).mp ⟨request, hrequest, hencoded⟩
    refine ⟨hencoded.len_nonneg, ?_⟩
    split_ifs with hfd
    · exact ⟨by have hle := hterm hfd; omega, hzero hfd⟩
    · omega
  · rintro ⟨hnonneg, hfits⟩
    obtain ⟨n, rfl⟩ := Int.eq_ofNat_of_zero_le hnonneg
    split_ifs at hfits with hfd
    · obtain ⟨hle, hzero⟩ := hfits
      exact (encoded_iff (by omega) (fun _ => by omega)).mpr fun _ => hzero
    · exact (encoded_iff (by omega) (fun h => absurd h hfd)).mpr fun h => absurd h hfd

end Write

/-- A byte for the standard output, on a stack that is not zero. -/
theorem write_unterminated :
    ¬ ∀ resp outcome, WriteContract 1 (fun _ => 65) 1
      (write 1 (fun _ => 170) resp 1 (fun _ => 65) 1 outcome) := by
  rw [write_contract_iff (by decide)]
  exact fun h => absurd ((encoded_iff (n := 1) (by decide) (fun _ => by decide)).mp h rfl) (by decide)

/-! ### Responses to a read -/

section Read

variable {tmpbuf : Nat → UInt8} {rpc buffer : Nat} {fd buflen : Int} {outcome : RpcOutcome}

theorem readResponse_apply {i : Nat} (hsent : ¬ outcome.sent < 0)
    (hi : i < (outcome.stored MAX_BUF_LEN).length) :
    (outcome.stored MAX_BUF_LEN)[i]? = some (readResponse tmpbuf outcome i) := by
  unfold readResponse rpmsgRpcSend
  rw [if_neg hsent, List.getElem?_eq_getElem hi, ← writeBytes_apply_add hi, Nat.zero_add]

theorem einval_neg : -EINVAL < 0 := by decide

theorem readContract_of_none {ret : Int} {sent : Option (List UInt8)} (hret : ret ≤ 0)
    (hbuflen : 0 < buflen) : ReadContract buflen outcome ⟨ret, sent, 0, tmpbuf⟩ where
  fits := Int.le_of_lt hbuflen
  received := fun i hi => absurd hi (Nat.not_lt_zero i)
  counted := by
    change ret < 0 ∨ ret = ((0 : Nat) : Int)
    omega

theorem clamped_eq (tmplen buflen : Int) :
    (if tmplen > buflen then buflen else tmplen) = min tmplen buflen := by
  split_ifs <;> omega

theorem ofInt_eq_iff {count value : Int} (hlow : -2 ^ 31 ≤ count) (hhigh : count < 2 ^ 31)
    (hvalue : value < 2 ^ 31) (hpos : 0 ≤ value) : value = ofInt 64 count ↔ count = value := by
  unfold ofInt
  omega

theorem intField1_lt {buf : Nat → UInt8} : (RpmsgRpcSyscall.ofBuf buf).intField1 < 2 ^ 31 := by
  unfold RpmsgRpcSyscall.ofBuf
  dsimp only
  exact (toInt32_bounds _).2

theorem readContract_copied_iff {ret tmplen : Int} {sent : Option (List UInt8)}
    (hsent : ¬ outcome.sent < 0) (hbuflen : 0 < buflen) (hpos : 0 < ret) (hret : ret < 2 ^ 31)
    (hlow : -2 ^ 31 ≤ tmplen) (hhigh : tmplen < 2 ^ 31) :
    ReadContract buflen outcome
      ⟨ret, sent, ofInt 64 (min tmplen buflen), readResponse tmpbuf outcome⟩ ↔
      min tmplen buflen = ret ∧
        RpmsgRpcSyscall.size + ret ≤ (outcome.stored MAX_BUF_LEN).length := by
  have hcount : ret = ofInt 64 (min tmplen buflen) ↔ min tmplen buflen = ret :=
    ofInt_eq_iff (by omega) (by omega) hret (by omega)
  constructor
  · intro h
    have hcopied : ret = ofInt 64 (min tmplen buflen) := h.counted.resolve_left (by simp; omega)
    have hlast := h.received (ret.toNat - 1) (by dsimp only; omega)
    have hlt := (List.getElem?_eq_some_iff.mp hlast).1
    exact ⟨hcount.mp hcopied, by omega⟩
  · rintro ⟨hmin, hlength⟩
    have hcopied := hcount.mpr hmin
    refine ⟨?_, fun i hi => ?_, Or.inr hcopied⟩
    · dsimp only
      omega
    · refine readResponse_apply hsent ?_
      dsimp only at hi
      omega

theorem readContract_iff (hbuflen : 0 < buflen) :
    ReadContract buflen outcome (read rpc buffer tmpbuf fd buflen outcome) ↔
      rpc = NULL ∨ buffer = NULL ∨ ReadAgrees tmpbuf buflen outcome := by
  unfold read
  by_cases hnull : rpc = NULL ∨ buffer = NULL
  · rw [if_pos (by omega)]
    exact iff_of_true (readContract_of_none einval_neg.le hbuflen) (by omega)
  rw [if_neg (by omega), ← or_assoc, or_iff_right hnull]
  unfold ReadAgrees rpmsgRpcSend
  dsimp only
  by_cases hsent : outcome.sent < 0
  · rw [if_pos hsent]
    exact iff_of_true (readContract_of_none einval_neg.le hbuflen) (Or.inl hsent)
  rw [if_neg hsent, or_iff_right hsent, if_pos (Int.not_lt.mp hsent)]
  generalize hresp : RpmsgRpcSyscall.ofBuf (readResponse tmpbuf outcome) = resp
  by_cases hid : resp.id = READ_SYSCALL_ID
  · rw [if_pos hid, or_iff_right (not_not_intro hid), clamped_eq]
    by_cases hpos : 0 < resp.intField1
    · rw [if_pos hpos, or_iff_right (Int.not_le.mpr hpos)]
      obtain ⟨hlow, hhigh⟩ := toInt32_bounds resp.dataLen
      refine readContract_copied_iff hsent hbuflen hpos ?_ hlow hhigh
      rw [← hresp]
      exact intField1_lt
    · rw [if_neg hpos]
      exact iff_of_true (readContract_of_none (Int.not_lt.mp hpos) hbuflen)
        (Or.inl (Int.not_lt.mp hpos))
  · rw [if_neg hid]
    exact iff_of_true (readContract_of_none einval_neg.le hbuflen) (Or.inl hid)

theorem read_ret (hbuflen : buflen ≠ 0) (hrpc : rpc ≠ NULL) (hbuffer : buffer ≠ NULL) {sent ret : Int}
    (hsent : 0 ≤ sent) {dataLen : Nat} {payload : List UInt8} (hlen : dataLen < 2 ^ 32)
    (hlength : payload.length ≤ 480) :
    (read rpc buffer tmpbuf fd buflen
      ⟨sent, RpmsgRpcSyscall.bytes ⟨READ_SYSCALL_ID, ret, 0, dataLen⟩ ++ payload⟩).ret =
      toInt32 ret := by
  generalize hheader : RpmsgRpcSyscall.mk READ_SYSCALL_ID ret 0 dataLen = header
  have hfits : (header.bytes ++ payload).length ≤ MAX_BUF_LEN := by
    rw [List.length_append, length_syscall]
    exact Nat.add_le_add_left hlength 16
  have hstored : rpcStored MAX_BUF_LEN (header.bytes ++ payload) = header.bytes ++ payload := by
    unfold rpcStored
    rw [if_neg (Nat.not_lt.mpr hfits), List.take_length]
  have hbuf := ofBuf_writeBytes (writeBytes tmpbuf 0 (leBytes 4 0)) header payload
    (by rw [← hheader]; exact (by decide : READ_SYSCALL_ID < 2 ^ 32)) (by rw [← hheader]; exact hlen)
  unfold read readResponse rpmsgRpcSend RpcOutcome.stored
  dsimp only
  rw [if_neg (by omega), if_neg (Int.not_lt.mpr hsent), if_neg (Int.not_lt.mpr hsent), hstored, hbuf,
    if_pos hsent, ← hheader, if_pos rfl]

theorem read_ret_le {sent ret bound : Int} {dataLen : Nat} {payload : List UInt8}
    (hlen : dataLen < 2 ^ 32) (hlength : payload.length ≤ 480) (hret : toInt32 ret ≤ bound)
    (hbound : 0 < bound) :
    (read rpc buffer tmpbuf fd buflen
      ⟨sent, RpmsgRpcSyscall.bytes ⟨READ_SYSCALL_ID, ret, 0, dataLen⟩ ++ payload⟩).ret ≤ bound := by
  have herror : -EINVAL ≤ bound := (einval_neg.trans hbound).le
  by_cases hnull : rpc = NULL ∨ buffer = NULL ∨ buflen = 0
  · unfold read
    rwa [if_pos hnull]
  by_cases hsent : 0 ≤ sent
  · rw [read_ret (by omega) (by omega) (by omega) hsent hlen hlength]
    exact hret
  · unfold read rpmsgRpcSend
    dsimp only
    rw [if_neg hnull, if_pos (Int.not_le.mp hsent), if_neg (Int.not_le.mpr einval_neg)]
    exact herror

variable (fd buflen) in
theorem serveRead_readRequest (fileRead : Int → Nat → Option (List UInt8)) (buf : Nat → UInt8) :
    ∃ request, serveRead fileRead buf (readRequest fd buflen) = handleRead fileRead request ∧
      RpmsgRpcSyscall.ofBuf request = ⟨READ_SYSCALL_ID, toInt32 fd, toInt32 buflen, 0⟩ := by
  have hbuf := ofBuf_writeBytes buf ⟨READ_SYSCALL_ID, fd, buflen, 0⟩ []
    (show READ_SYSCALL_ID < 2 ^ 32 by decide) (Nat.two_pow_pos 32)
  rw [List.append_nil] at hbuf
  refine ⟨_, ?_, hbuf⟩
  unfold serveRead readRequest
  rw [endpointCopy_eq (by rw [length_syscall]) (by rw [length_syscall]; decide),
    Option.bind_eq_bind, Option.bind_some, hbuf, if_pos rfl]

/-- A server with as much on its standard input as it asks for sends more than a short buffer holds. -/
theorem not_servedWithin (hpos : 0 < buflen) (hlow : buflen < 480) : ¬ ServedWithin 0 buflen := by
  intro h
  let fileRead : Int → Nat → Option (List UInt8) := fun _ count => some (List.replicate count 0)
  obtain ⟨request, hhandled, hrequest⟩ := serveRead_readRequest 0 buflen fileRead fun _ => 0
  have hresponse : handleRead fileRead request =
      some (RpmsgRpcSyscall.bytes ⟨READ_SYSCALL_ID, (480 : Nat), 0, 480⟩ ++
        List.replicate 480 0) := by
    unfold handleRead
    rw [hrequest]
    dsimp only
    rw [toInt32_of_int (by decide) (by decide), if_pos rfl]
    dsimp only [fileRead]
    rw [if_pos (by rw [List.length_replicate]; decide)]
    rw [List.length_replicate]
    rfl
  have hread : ReadsAtMost fileRead := by
    intro _ count bytes hbytes
    obtain rfl := Option.some.inj hbytes
    exact (List.length_replicate).le
  have hret := h fileRead hread _ (fun _ => 0) 1 1 0 _ (hhandled.trans hresponse)
  rw [read_ret (by omega) (by decide) (by decide) (by decide) (by decide)
    (List.length_replicate).le, toInt32_of_lt (by decide)] at hret
  omega

theorem servedWithin (hfd : -2 ^ 31 ≤ fd ∧ fd < 2 ^ 31) (hbuflen : 0 < buflen ∧ buflen < 2 ^ 31)
    (hbound : fd ≠ 0 ∨ 480 ≤ buflen) : ServedWithin fd buflen := by
  intro fileRead hread buf tmpbuf rpc buffer sent response hresponse
  have hfd' : toInt32 fd = fd := toInt32_of_int hfd.1 hfd.2
  have hcount : ofInt 64 (toInt32 buflen) = buflen.toNat := by
    rw [toInt32_of_int (by omega) hbuflen.2]
    unfold ofInt
    omega
  obtain ⟨request, hhandled, hrequest⟩ := serveRead_readRequest fd buflen fileRead buf
  rw [hhandled] at hresponse
  unfold handleRead at hresponse
  rw [hrequest] at hresponse
  dsimp only at hresponse
  rw [hfd', hcount] at hresponse
  generalize hasked : (if fd = 0 then _ else buflen.toNat) = count at hresponse
  have hle : (count : Int) ≤ buflen := by
    unfold RPC_BUFF_SIZE RpmsgRpcSyscall.size at hasked
    split_ifs at hasked <;> omega
  cases hbytes : fileRead fd count with
  | none =>
      rw [hbytes] at hresponse
      obtain rfl := Option.some.inj hresponse
      have hret : (read rpc buffer tmpbuf fd buflen
          ⟨sent, RpmsgRpcSyscall.bytes ⟨READ_SYSCALL_ID, -1, 0, ofInt 32 (-1)⟩ ++ []⟩).ret ≤ buflen :=
        read_ret_le (by decide) (by decide) (by rw [toInt32_of_int] <;> omega) hbuflen.1
      rwa [List.append_nil] at hret
  | some bytes =>
      rw [hbytes] at hresponse
      dsimp only at hresponse
      split_ifs at hresponse with hfits
      obtain rfl := Option.some.inj hresponse
      have hlength := hread fd count bytes hbytes
      unfold RpmsgRpcSyscall.size RPC_BUFF_SIZE at hfits
      exact read_ret_le (by omega) (by omega) (by rw [toInt32_of_lt (by omega)]; omega) hbuflen.1

theorem servedWithin_iff (hfd : -2 ^ 31 ≤ fd ∧ fd < 2 ^ 31) (hbuflen : 0 < buflen ∧ buflen < 2 ^ 31) :
    ServedWithin fd buflen ↔ fd ≠ 0 ∨ 480 ≤ buflen := by
  refine ⟨fun h => ?_, servedWithin hfd hbuflen⟩
  by_contra hbound
  obtain ⟨rfl, hlow⟩ : fd = 0 ∧ buflen < 480 := by omega
  exact not_servedWithin hbuflen.1 hlow h

/-- A response is passed on as the contract asks exactly where it agrees with itself, and the handler of
the server keeps to the caller's length exactly if it asks for no more than that. -/
theorem read_contract_iff (rpc buffer : Nat) (tmpbuf : Nat → UInt8) (fd buflen : Int)
    (outcome : RpcOutcome) (hfd : -2 ^ 31 ≤ fd ∧ fd < 2 ^ 31) (hbuflen : 0 < buflen ∧ buflen < 2 ^ 31) :
    (ReadContract buflen outcome (read rpc buffer tmpbuf fd buflen outcome) ↔
      rpc = NULL ∨ buffer = NULL ∨ ReadAgrees tmpbuf buflen outcome) ∧
      (ServedWithin fd buflen ↔ fd ≠ 0 ∨ 480 ≤ buflen) :=
  ⟨readContract_iff hbuflen.1, servedWithin_iff hfd hbuflen⟩

end Read

/-- The response to a read of four bytes of a file. -/
def fourBytes : List UInt8 :=
  RpmsgRpcSyscall.bytes ⟨READ_SYSCALL_ID, 4, 0, 4⟩ ++ [104, 101, 108, 108]

theorem read_contract_four :
    ReadContract 4 ⟨16, fourBytes⟩ (read 1 1 (fun _ => 170) 3 4 ⟨16, fourBytes⟩) ∧
      ServedWithin 3 4 := by
  obtain ⟨hcontract, hserved⟩ := read_contract_iff 1 1 (fun _ => 170) 3 4 ⟨16, fourBytes⟩
    ⟨by decide, by decide⟩ ⟨by decide, by decide⟩
  have hagrees : ReadAgrees (fun _ => 170) 4 ⟨16, fourBytes⟩ :=
    Or.inr (Or.inr (Or.inr (by decide +kernel)))
  exact ⟨hcontract.mpr (Or.inr (Or.inr hagrees)), hserved.mpr (Or.inl (by decide))⟩

/-- A line of five bytes on the standard input. -/
def stdinLine (_ : Int) (count : Nat) : Option (List UInt8) :=
  some ([104, 101, 108, 108, 111].take count)

/-- The caller asks for four bytes of the line, and the server sends it whole. -/
theorem read_overreports :
    ∃ response, serveRead stdinLine (fun _ => 0) (readRequest 0 4) = some response ∧
      ¬ ReadContract 4 ⟨16, response⟩ (read 1 1 (fun _ => 170) 0 4 ⟨16, response⟩) ∧
      4 < (read 1 1 (fun _ => 170) 0 4 ⟨16, response⟩).ret := by
  refine ⟨RpmsgRpcSyscall.bytes ⟨READ_SYSCALL_ID, 5, 0, 5⟩ ++ [104, 101, 108, 108, 111], ?_, ?_, ?_⟩
  · decide +kernel
  · intro h
    exact absurd h.counted (by decide +kernel)
  · decide +kernel

end Proxy

end OpenAmp
