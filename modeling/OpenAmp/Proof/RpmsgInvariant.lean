import OpenAmp.Proof.RpmsgPool

/-!
# Who owns which buffer

Every buffer handed out by the pool is in one place: in a queue of one of the two rings, or in the
hands of one call. The invariant accounts for all of them, and for what the bytes of those that carry
a message mean.
-/

namespace OpenAmp

open ByteMemory ListCuts

/-! ### Messages in memory -/

/-- The largest payload a buffer of the pool has room for. -/
def capacity : Nat := RPMSG_BUFFER_SIZE - RPMSG_HDR_SIZE

/-- The buffer at `start` holds the header of a call. -/
def HeaderAt (shm : Nat → UInt8) (start : Nat) (call : SendCall) : Prop :=
  readBytes shm start RPMSG_HDR_SIZE = call.rpHdr

/-- The buffer at `start` holds the message of a call. -/
structure MessageAt (shm : Nat → UInt8) (start : Nat) (call : SendCall) : Prop where
  nonneg : 0 ≤ call.size
  fits : call.size ≤ capacity
  header : HeaderAt shm start call
  payload : readBytes shm (start + RPMSG_HDR_SIZE) call.size.toNat = call.payload

theorem SendCall.length_rpHdr (call : SendCall) : call.rpHdr.length = RPMSG_HDR_SIZE := by
  simp [SendCall.rpHdr, RPMSG_HDR_SIZE]

theorem SendCall.length_payload (call : SendCall) : call.payload.length = call.size.toNat := by
  simp [SendCall.payload]

theorem HeaderAt.congr {shm shm' : Nat → UInt8} {start : Nat} {call : SendCall}
    (h : HeaderAt shm start call)
    (hsame : ∀ i < RPMSG_BUFFER_SIZE, shm' (start + i) = shm (start + i)) :
    HeaderAt shm' start call := by
  rw [HeaderAt, readBytes_congr fun i hi => hsame i (lt_trans hi (by decide))]
  exact h

theorem MessageAt.congr {shm shm' : Nat → UInt8} {start : Nat} {call : SendCall}
    (h : MessageAt shm start call)
    (hsame : ∀ i < RPMSG_BUFFER_SIZE, shm' (start + i) = shm (start + i)) :
    MessageAt shm' start call := by
  refine { h with header := h.header.congr hsame, payload := ?_ }
  have hfits := h.fits
  rw [← h.payload]
  refine readBytes_congr fun i hi => ?_
  rw [Nat.add_assoc]
  refine hsame _ ?_
  simp only [capacity, RPMSG_BUFFER_SIZE, RPMSG_HDR_SIZE] at *
  omega

/-- A slice of the header. -/
theorem HeaderAt.slice {shm : Nat → UInt8} {start : Nat} {call : SendCall}
    (h : HeaderAt shm start call) (offset len : Nat) (hlen : offset + len ≤ RPMSG_HDR_SIZE) :
    readBytes shm (start + offset) len = (call.rpHdr.drop offset).take len := by
  have hsplit : RPMSG_HDR_SIZE = offset + (len + (RPMSG_HDR_SIZE - offset - len)) := by omega
  have hbytes : readBytes shm start RPMSG_HDR_SIZE = call.rpHdr := h
  rw [hsplit, readBytes_add, readBytes_add] at hbytes
  rw [← hbytes, List.drop_left' length_readBytes, List.take_left' length_readBytes]

theorem SendCall.rpHdr_src (call : SendCall) :
    leValue ((call.rpHdr.drop 0).take 4) = call.src.toNat := by
  have hslice : (call.rpHdr.drop 0).take 4 = leBytes 4 call.src.toNat := rfl
  rw [hslice, leValue_leBytes]
  exact Nat.mod_eq_of_lt call.src.toNat_lt

theorem SendCall.rpHdr_dst (call : SendCall) :
    leValue ((call.rpHdr.drop 4).take 4) = call.dst.toNat := by
  have hslice : (call.rpHdr.drop 4).take 4 = leBytes 4 call.dst.toNat := rfl
  rw [hslice, leValue_leBytes]
  exact Nat.mod_eq_of_lt call.dst.toNat_lt

theorem SendCall.rpHdr_len (call : SendCall) (hnonneg : 0 ≤ call.size)
    (hfits : call.size ≤ capacity) :
    leValue ((call.rpHdr.drop 12).take 2) = call.size.toNat := by
  have hslice : (call.rpHdr.drop 12).take 2 = leBytes 2 (ofInt 16 call.size) := rfl
  simp only [capacity, RPMSG_BUFFER_SIZE, RPMSG_HDR_SIZE] at hfits
  rw [hslice, leValue_leBytes, ofInt]
  omega

/-- A receiver reads the message its sender meant. -/
theorem RpmsgConfig.rpmsgRead_eq (cfg : RpmsgConfig) (role : Role) {buf : Nat}
    (hbuf : buf < cfg.buffers) {shm : Nat → UInt8} {call : SendCall}
    (h : MessageAt shm (cfg.cell buf) call) :
    rpmsgRead (cfg.io role) shm (cfg.addr role buf) = call.message := by
  have hnonneg := h.nonneg
  have hfits := h.fits
  simp only [capacity, RPMSG_BUFFER_SIZE, RPMSG_HDR_SIZE] at hfits
  have hsrc : leValue ((cfg.io role).load shm (cfg.addr role buf) 4) = call.src.toNat := by
    have hload := cfg.load_addr role hbuf shm 0 4 (by decide)
    rw [Nat.add_zero] at hload
    rw [hload]
    exact (congrArg leValue (h.header.slice 0 4 (by decide))).trans call.rpHdr_src
  have hdst : leValue ((cfg.io role).load shm (cfg.addr role buf + 4) 4) = call.dst.toNat := by
    rw [cfg.load_addr role hbuf shm _ _ (by decide), h.header.slice 4 4 (by decide)]
    exact call.rpHdr_dst
  have hlen : leValue ((cfg.io role).load shm (cfg.addr role buf + 12) 2) = call.size.toNat := by
    rw [cfg.load_addr role hbuf shm _ _ (by decide), h.header.slice 12 2 (by decide)]
    exact call.rpHdr_len h.nonneg h.fits
  have hpayload : (cfg.io role).load shm (cfg.addr role buf + RPMSG_HDR_SIZE) call.size.toNat =
      call.payload := by
    rw [cfg.load_addr role hbuf shm]
    · exact h.payload
    · simp only [RPMSG_BUFFER_SIZE, RPMSG_HDR_SIZE]
      omega
  simp only [rpmsgRead, hsrc, hdst, hlen, hpayload]
  rfl

/-! ### The invariant -/

/-- The two rings, and how many buffers the pool has handed out. -/
structure RpmsgView where
  ring0 : SlotView
  ring1 : SlotView
  allocated : Nat

/-- The buffers with a message for a side that it has not taken. -/
def RpmsgView.pending (view : RpmsgView) : Role → List Slot
  | .master => view.ring0.used
  | .slave => view.ring1.avail

def RpmsgSystem.txNumbers (cfg : RpmsgConfig) (s : RpmsgSystem) (role : Role) : List Nat :=
  (s.device role).txBuffers.map (cfg.number role)

def RpmsgSystem.rxNumbers (cfg : RpmsgConfig) (s : RpmsgSystem) (role : Role) : List Nat :=
  (s.device role).rxBuffers.map (cfg.number role)

/-- The buffers in each place. -/
def RpmsgView.owned (cfg : RpmsgConfig) (s : RpmsgSystem) (view : RpmsgView) : List Nat :=
  view.ring0.avail.map Slot.buf ++ view.ring0.used.map Slot.buf ++
    view.ring1.avail.map Slot.buf ++ view.ring1.used.map Slot.buf ++
    s.txNumbers cfg .slave ++ s.rxNumbers cfg .slave ++
    s.txNumbers cfg .master ++ s.rxNumbers cfg .master

/-- What the buffer of a send holds. -/
def Send.Written (cfg : RpmsgConfig) (shm : Nat → UInt8) (role : Role) (send : Send) : Prop :=
  match send.pc with
  | .header buffer => HeaderAt shm (cfg.cell (cfg.number role buffer)) send.call
  | .payload buffer => MessageAt shm (cfg.cell (cfg.number role buffer)) send.call
  | .loop _ | .tested _ _ | .taken _ | .enqueued => True

theorem Send.written_header (cfg : RpmsgConfig) (shm : Nat → UInt8) (role : Role) (call : SendCall)
    (buf idx : Nat) :
    Send.Written cfg shm role ⟨call, .header (cfg.buffer role buf idx)⟩ ↔
      HeaderAt shm (cfg.cell buf) call := by
  simp only [Send.Written, cfg.number_buffer]

theorem Send.written_payload (cfg : RpmsgConfig) (shm : Nat → UInt8) (role : Role) (call : SendCall)
    (buf idx : Nat) :
    Send.Written cfg shm role ⟨call, .payload (cfg.buffer role buf idx)⟩ ↔
      MessageAt shm (cfg.cell buf) call := by
  simp only [Send.Written, cfg.number_buffer]

/-- A send of a message that fits, with its buffer as far as it has written it. -/
structure Send.Ok (cfg : RpmsgConfig) (shm : Nat → UInt8) (role : Role) (send : Send) : Prop where
  nonneg : 0 ≤ send.call.size
  fits : send.call.size ≤ capacity
  written : send.Written cfg shm role

/-- A receive callback handles one of the messages sent. -/
def RxPc.Reads (cfg : RpmsgConfig) (shm : Nat → UInt8) (role : Role) (sent : List SendCall)
    (pc : RxPc) : Prop :=
  match pc with
  | .handling buffer position =>
      ∃ call, sent[position]? = some call ∧
        MessageAt shm (cfg.cell (cfg.number role buffer)) call
  | .returned => True

/-- What the bytes in the buffers and the histories say. -/
structure RpmsgContent (cfg : RpmsgConfig) (s : RpmsgSystem) (view : RpmsgView) : Prop where
  sends : ∀ role, ∀ send ∈ (s.device role).sends, send.Ok cfg s.shm role
  pending : ∀ role, List.Forall₂ (fun slot call => MessageAt s.shm (cfg.cell slot.buf) call)
    (view.pending role) ((s.device role.peer).sent.drop (s.device role).received.length)
  received_le : ∀ role, (s.device role).received.length ≤ (s.device role.peer).sent.length
  received : ∀ role, (s.device role).received =
    ((s.device role.peer).sent.take (s.device role).received.length).map SendCall.message
  reads : ∀ role, ∀ pc ∈ (s.device role).receives,
    pc.Reads cfg s.shm role (s.device role.peer).sent

/-- The invariant of two devices. The part about the contents of the buffers is kept only where
`content` is asked for; the accounting does not depend on it. -/
structure RpmsgInv (cfg : RpmsgConfig) (content : Prop) (s : RpmsgSystem) (view : RpmsgView) :
    Prop where
  ring0 : RingInv cfg.ring0 s.vring0 s.master.rvq s.slave.svq (view.ring0.ring cfg)
  ring1 : RingInv cfg.ring1 s.vring1 s.master.svq s.slave.rvq (view.ring1.ring cfg)
  io : ∀ role, (s.device role).shbufIo = cfg.io role
  status : s.status = VIRTIO_CONFIG_STATUS_DRIVER_OK
  pool : s.shpool = cfg.pool view.allocated
  allocated_le : view.allocated ≤ cfg.buffers
  slaveTx : s.slave.txBuffers.Perm
    (view.ring0.held.map fun slot => cfg.buffer .slave slot.buf slot.head)
  slaveRx : s.slave.rxBuffers.Perm
    (view.ring1.held.map fun slot => cfg.buffer .slave slot.buf slot.head)
  masterTx : ∀ buffer ∈ s.master.txBuffers, ∃ buf idx, buffer = cfg.buffer .master buf idx
  masterRx : ∀ buffer ∈ s.master.rxBuffers, ∃ buf idx, buffer = cfg.buffer .master buf idx
  partition : (view.owned cfg s).Perm (List.range view.allocated)
  ring0Free : view.ring0.free.length = s.master.rxBuffers.length
  contents : content → RpmsgContent cfg s view

end OpenAmp
