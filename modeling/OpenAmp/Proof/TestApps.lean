import OpenAmp.TestApps

/-!
# The message tests pass

Neither test counts an error, in any order in which the two sides take their steps, and both come to an
end with every payload back, if there are two buffers for the payloads and one for the echoes.
-/

namespace OpenAmp

open ByteMemory Slice Exchange

/-! ### Payloads -/

section Payloads

variable {payload : Payload} {num size i : Nat}

theorem payloadNum_bytes (hnum : payload.num < 2 ^ 64) : payloadNum payload.bytes = payload.num := by
  have hhead : slice payload.bytes 0 8 = leBytes 8 payload.num := by
    rw [Payload.bytes, List.append_assoc, slice, List.drop_zero,
      List.take_left' (length_leBytes 8 payload.num)]
  rw [payloadNum, hhead, leValue_leBytes]
  exact Nat.mod_eq_of_lt hnum

theorem payloadSize_bytes (hsize : payload.size < 2 ^ 64) :
    payloadSize payload.bytes = payload.size := by
  have hsecond : slice payload.bytes 8 8 = leBytes 8 payload.size := by
    rw [Payload.bytes, List.append_assoc, slice, List.drop_left' (length_leBytes 8 payload.num),
      List.take_left' (length_leBytes 8 payload.size)]
  rw [payloadSize, hsecond, leValue_leBytes]
  exact Nat.mod_eq_of_lt hsize

theorem payloadData_bytes : payloadData payload.bytes i = payload.data[i]? := by
  have hlen : (leBytes 8 payload.num ++ leBytes 8 payload.size).length = PAYLOAD_SIZE := by
    rw [List.length_append, length_leBytes, length_leBytes]
    rfl
  rw [payloadData, Payload.bytes, List.getElem?_append_right (by rw [hlen]; exact Nat.le_add_right ..),
    hlen, Nat.add_sub_cancel_left]

/-- The echo sends every payload back: its number is none that asks for a shutdown. -/
theorem echoEndpointCb_bytes (hnum : payload.num < SHUTDOWN_MSG) :
    echoEndpointCb payload.bytes = some payload.bytes := by
  refine if_neg fun hshutdown => ?_
  have hlt : payload.num < 256 ^ 4 := Nat.lt_trans hnum (by decide)
  have hhead : slice payload.bytes 0 4 = leBytes 4 payload.num := by
    have hparts : leBytes 8 payload.num = leBytes 4 payload.num ++ leBytes 4 (payload.num / 2 ^ 32) := by
      simp only [leBytes, Nat.div_div_eq_div_mul]
      rfl
    rw [Payload.bytes, hparts, List.append_assoc, List.append_assoc, slice, List.drop_zero,
      List.take_left' (length_leBytes 4 payload.num)]
  rw [hhead, leValue_leBytes, Nat.mod_eq_of_lt hlt] at hshutdown
  exact Nat.ne_of_lt hnum hshutdown

theorem floodMessage_eq {maxSize : Nat} (hsize : size ≤ maxSize) :
    floodMessage maxSize num size = (Payload.mk num size (List.replicate size 0xA5)).bytes := by
  have hlen : (leBytes 8 num ++ leBytes 8 size).length = PAYLOAD_SIZE := by
    rw [List.length_append, length_leBytes, length_leBytes]
    rfl
  unfold floodMessage Payload.bytes floodData
  rw [← hlen, List.take_length_add_append, List.take_replicate, Nat.min_eq_left hsize]

end Payloads

/-! ### One payload at a time -/

section Ping

variable {maxSize i : Nat}

theorem pingMessage_eq (i : Nat) :
    pingMessage i = (Payload.mk i (i + 1) (List.replicate (i + 1) 0xA5)).bytes := by
  unfold pingMessage PAYLOAD_MIN_SIZE
  rw [Nat.add_comm 1 i]

theorem Ping.endpointCb_message (ping : Ping) (hi : i + 1 < 2 ^ 31) :
    ping.endpointCb (pingMessage i) = { ping with rnum := i + 1 } := by
  have hnum : payloadNum (pingMessage i) = i := by
    rw [pingMessage_eq]
    exact payloadNum_bytes (Nat.lt_trans (Nat.lt_succ_self i) (Nat.lt_trans hi (by decide)))
  have hsize : payloadSize (pingMessage i) = i + 1 := by
    rw [pingMessage_eq]
    exact payloadSize_bytes (Nat.lt_trans hi (by decide))
  have hintact : ((List.range (toInt32 (payloadSize (pingMessage i))).toNat).all fun k =>
      payloadData (pingMessage i) k = some 0xA5) = true := by
    rw [hsize, toInt32_of_lt hi, Int.toNat_natCast, List.all_eq_true]
    intro k hk
    rw [pingMessage_eq, payloadData_bytes, List.getElem?_replicate, if_pos (List.mem_range.mp hk)]
    rfl
  unfold Ping.endpointCb
  rw [hintact, hsize, if_neg (Nat.succ_ne_zero i), hnum, u64_of_lt (Nat.lt_trans hi (by decide)),
    toInt32_of_lt hi]
  rfl

def Ping.rounds (hsize : maxSize < 2 ^ 31) :
    Rounds (Ping.client maxSize) echoEndpointCb maxSize where
  request := pingMessage
  reply := pingMessage
  ready k := ⟨k, k, k, 0, false, false⟩
  waiting k := ⟨k, k, k + 1, 0, true, false⟩
  back k := ⟨k - 1, k, k, 0, true, false⟩
  failed k := ⟨k, k, k, 0, false, true⟩
  serves := by
    intro k hk
    rw [pingMessage_eq]
    exact echoEndpointCb_bytes (Nat.lt_trans hk (Nat.lt_trans hsize (by decide)))
  sends := by
    intro k hk
    exact if_pos ⟨hk, rfl⟩
  ends := if_neg fun hand => Nat.lt_irrefl maxSize hand.1
  waits := fun _ => rfl
  receives := by
    intro k hk
    have hcall := Ping.endpointCb_message ⟨k, k, k + 1, 0, true, false⟩ (Nat.lt_of_le_of_lt hk hsize)
    simp only [Ping.client, hcall, Nat.add_sub_cancel, Int.natCast_add, Int.natCast_one]
  goes_on := by
    intro k hk
    simp only [Ping.client]
    rw [if_neg fun hand => absurd hand.1 (Int.lt_irrefl _)]
    rfl
  stays := by
    intro k hk
    have hwaits : (k : Int) < k + 1 := Int.lt_succ k
    simp only [Ping.client]
    rw [if_pos ⟨hwaits, trivial⟩]

theorem Ping.no_failure (hsize : maxSize < 2 ^ 31) {s : State Ping (List UInt8)} {n : Counts}
    (h : (Ping.rounds hsize).script.At s n) :
    s.client.errCnt = 0 ∧ s.client.sendFailed = false := by
  rw [h.client]
  simp only [Rounds.script, Ping.rounds]
  split_ifs
  · exact ⟨rfl, rfl⟩
  · exact ⟨rfl, rfl⟩
  · exact ⟨rfl, rfl⟩
  · exact ⟨rfl, rfl⟩

theorem Ping.length_on_way (hsize : maxSize < 2 ^ 31) {s : State Ping (List UInt8)} {n : Counts}
    (h : (Ping.rounds hsize).script.At s n) :
    s.requests.queue.length + s.answers.queue.length ≤ 1 := by
  have hdue : n.sent = n.received ∨ n.sent = n.received + 1 := h.due.1
  have hreceived := h.received_le
  have hanswered := h.answered_le
  have htaken := h.taken_le
  rw [h.requests, h.answers, length_queue, length_queue]
  omega

end Ping

/-- `rpmsg-ping` against the echo, whatever the order of the steps, with two buffers for the payloads
and one for the echoes at least: no error is counted, no send fails and the echo is not shut down, at
most one message is on its way, and what comes back are the payloads in order; a run takes no more than
thirteen steps for each of them and does not end before all are back. -/
theorem ping_passes {maxSize requests answers : Nat} (hsize : maxSize < 2 ^ 31)
    (hrequests : 2 ≤ requests) (hanswers : 0 < answers) {actions : List Action}
    {s : State Ping (List UInt8)}
    (hexec : Run.exec (step (Ping.client maxSize) echoEndpointCb requests answers)
      (State.init Ping.init) actions = some s) :
    s.client.errCnt = 0 ∧ s.client.sendFailed = false ∧ s.stopped = false ∧
      s.requests.queue.length + s.answers.queue.length ≤ 1 ∧
      (∃ count, s.received = queue pingMessage 0 count) ∧ actions.length ≤ 13 * maxSize ∧
      ((s.Finished (Ping.client maxSize) ∧ s.received = queue pingMessage 0 maxSize) ∨
        ∃ action s', step (Ping.client maxSize) echoEndpointCb requests answers s action = some s') := by
  obtain ⟨⟨n, hat⟩, hlen, hend⟩ := (Ping.rounds hsize).script.completes hrequests hanswers hexec
  obtain ⟨herr, hsent⟩ := Ping.no_failure hsize hat
  refine ⟨herr, hsent, hat.running, Ping.length_on_way hsize hat,
    ⟨n.received, hat.received⟩, hlen, hend.imp (fun hdone => ?_) id⟩
  exact ⟨hdone.1, hdone.2.1⟩

/-- Two payloads there and back. The second is sent while the server still has the buffer of the
first. -/
theorem ping_passes_two : ∃ s : State Ping (List UInt8),
    s.received = [pingMessage 0, pingMessage 1] ∧ s.client.errCnt = 0 := by
  let round : List Action :=
    [.client, .client, .client, .server, .server, .server, .server, .client, .client, .client, .client]
  let rest : List Action :=
    [.client, .server, .server, .client, .client, .server, .server, .server, .client, .client]
  have hrun : (Run.exec (step (Ping.client 2) echoEndpointCb 2 1) (State.init Ping.init)
      (round ++ rest)).map State.received = some [pingMessage 0, pingMessage 1] := by decide +kernel
  obtain ⟨s, hexec, hreceived⟩ := Option.map_eq_some_iff.mp hrun
  exact ⟨s, hreceived, (ping_passes (by decide) le_rfl Nat.one_pos hexec).1⟩

/-! ### As many payloads as there is room for -/

theorem NUMS_PACKAGES_pos : 0 < NUMS_PACKAGES := by decide

section Flood

variable {maxSize q i k : Nat} {r : Nat}

def floodRequest (maxSize k : Nat) : List UInt8 :=
  floodMessage maxSize (k % NUMS_PACKAGES) (k / NUMS_PACKAGES + 1)

def FloodPing.inRound (q i r : Nat) : FloodPing := ⟨q + 1, i, r, 0, false⟩

theorem div_of_round (hi : i < NUMS_PACKAGES) : (NUMS_PACKAGES * q + i) / NUMS_PACKAGES = q := by
  rw [Nat.mul_add_div NUMS_PACKAGES_pos, Nat.div_eq_of_lt hi, Nat.add_zero]

theorem floodRequest_eq (hi : i < NUMS_PACKAGES) :
    floodRequest maxSize (NUMS_PACKAGES * q + i) = floodMessage maxSize i (q + 1) := by
  rw [floodRequest, div_of_round hi, Nat.mul_add_mod, Nat.mod_eq_of_lt hi]

/-- The callback finds the package as it was sent. -/
theorem FloodPing.endpointCb_message (hmax : maxSize ≤ 496) (hq : q + 1 ≤ maxSize)
    (hr : r < NUMS_PACKAGES) :
    FloodPing.endpointCb maxSize (FloodPing.inRound q i r) (floodMessage maxSize r (q + 1)) =
      FloodPing.inRound q i (r + 1) := by
  have hbound : r + 1 < 2 ^ 31 := Nat.lt_of_le_of_lt hr (by decide)
  rw [floodMessage_eq hq]
  let payload : Payload := ⟨r, q + 1, List.replicate (q + 1) 0xA5⟩
  have hnum : payloadNum payload.bytes = r := payloadNum_bytes (show r < 2 ^ 64 by omega)
  have hsize : payloadSize payload.bytes = q + 1 := payloadSize_bytes (show q + 1 < 2 ^ 64 by omega)
  have hintact : ((List.range (q + 1)).all fun k => (payloadData payload.bytes k).any fun byte =>
      (floodData maxSize)[k]? = some byte) = true := by
    rw [List.all_eq_true]
    intro k hk
    have hlt := List.mem_range.mp hk
    rw [payloadData_bytes, List.getElem?_replicate, if_pos hlt, Option.any_some, floodData,
      List.getElem?_replicate, if_pos (Nat.lt_of_lt_of_le hlt hq)]
    exact decide_eq_true rfl
  have hvalid : ¬ (q + 1 = 0 ∨ q + 1 > 496) := by omega
  change FloodPing.endpointCb maxSize (FloodPing.inRound q i r) payload.bytes = _
  unfold FloodPing.endpointCb
  dsimp only
  rw [hsize, if_neg hvalid, hnum, hintact, u64_of_lt (by omega), toInt32_of_lt hbound]
  rfl

/-! ### Where the loops of `app` go -/

theorem FloodPing.no_error : ¬ (FloodPing.inRound q i r).errCnt ≠ 0 := not_not.mpr rfl

theorem FloodPing.not_finished : ¬ (FloodPing.inRound q i r).finished = true := Bool.false_ne_true

theorem FloodPing.goOn_stays (h : i < NUMS_PACKAGES ∨ r < NUMS_PACKAGES) :
    FloodPing.goOn maxSize (FloodPing.inRound q i r) = FloodPing.inRound q i r := by
  have hloop : (FloodPing.inRound q i r).i < NUMS_PACKAGES ∨
      (FloodPing.inRound q i r).rnum < NUMS_PACKAGES := h.imp id Int.ofNat_lt.mpr
  unfold FloodPing.goOn
  rw [if_neg FloodPing.no_error, if_pos hloop]

theorem FloodPing.loop_ends : ¬ ((FloodPing.inRound q NUMS_PACKAGES NUMS_PACKAGES).i < NUMS_PACKAGES ∨
    (FloodPing.inRound q NUMS_PACKAGES NUMS_PACKAGES).rnum < NUMS_PACKAGES) :=
  not_or.mpr ⟨Nat.lt_irrefl _, Int.lt_irrefl _⟩

theorem FloodPing.goOn_next (hq : q + 2 ≤ maxSize) :
    FloodPing.goOn maxSize (FloodPing.inRound q NUMS_PACKAGES NUMS_PACKAGES) =
      FloodPing.inRound (q + 1) 0 0 := by
  have hsize : (FloodPing.inRound q NUMS_PACKAGES NUMS_PACKAGES).s + 1 ≤ maxSize := hq
  unfold FloodPing.goOn
  rw [if_neg FloodPing.no_error, if_neg FloodPing.loop_ends, if_pos hsize]
  rfl

theorem FloodPing.goOn_finishes (hq : ¬ q + 2 ≤ maxSize) :
    (FloodPing.goOn maxSize (FloodPing.inRound q NUMS_PACKAGES NUMS_PACKAGES)).finished = true := by
  have hsize : ¬ (FloodPing.inRound q NUMS_PACKAGES NUMS_PACKAGES).s + 1 ≤ maxSize := hq
  unfold FloodPing.goOn
  rw [if_neg FloodPing.no_error, if_neg FloodPing.loop_ends, if_neg hsize]

/-! ### The numbers of all packages sent and returned -/

def FloodPing.busy (sent received : Nat) : FloodPing :=
  let q := (sent - 1) / NUMS_PACKAGES
  FloodPing.inRound q (sent - NUMS_PACKAGES * q) (received - NUMS_PACKAGES * q)

def FloodPing.idle (maxSize sent received : Nat) : FloodPing :=
  if sent = 0 then FloodPing.init maxSize else FloodPing.goOn maxSize (FloodPing.busy sent received)

/-- All packages of the earlier sizes have returned. -/
def FloodDue (maxSize sent received : Nat) : Prop :=
  received ≤ sent ∧ sent ≤ NUMS_PACKAGES * maxSize ∧
    NUMS_PACKAGES * ((sent - 1) / NUMS_PACKAGES) ≤ received

theorem sent_round (hpos : 0 < i) (hi : i ≤ NUMS_PACKAGES) :
    (NUMS_PACKAGES * q + i - 1) / NUMS_PACKAGES = q := by
  rw [Nat.add_sub_assoc hpos]
  exact div_of_round (by omega)

theorem FloodPing.busy_eq (hpos : 0 < i) (hi : i ≤ NUMS_PACKAGES) :
    FloodPing.busy (NUMS_PACKAGES * q + i) (NUMS_PACKAGES * q + r) = FloodPing.inRound q i r := by
  unfold FloodPing.busy
  dsimp only
  rw [sent_round hpos hi, Nat.add_sub_cancel_left, Nat.add_sub_cancel_left]

theorem floodDue_of_round (hpos : 0 < i) (hi : i ≤ NUMS_PACKAGES) (hr : r ≤ i) (hq : q + 1 ≤ maxSize) :
    FloodDue maxSize (NUMS_PACKAGES * q + i) (NUMS_PACKAGES * q + r) := by
  have hall : NUMS_PACKAGES * (q + 1) ≤ NUMS_PACKAGES * maxSize := Nat.mul_le_mul_left _ hq
  rw [Nat.mul_succ] at hall
  refine ⟨Nat.add_le_add_left hr _, by omega, ?_⟩
  rw [sent_round hpos hi]
  exact Nat.le_add_right ..

theorem FloodDue.round {sent received : Nat} (h : FloodDue maxSize sent received) (hpos : 0 < sent) :
    ∃ q i r, 0 < i ∧ i ≤ NUMS_PACKAGES ∧ r ≤ i ∧ q + 1 ≤ maxSize ∧ sent = NUMS_PACKAGES * q + i ∧
      received = NUMS_PACKAGES * q + r := by
  obtain ⟨hle, htotal, hround⟩ := h
  have hparts := Nat.div_add_mod (sent - 1) NUMS_PACKAGES
  have hmod := Nat.mod_lt (sent - 1) NUMS_PACKAGES_pos
  have hlast : (sent - 1) / NUMS_PACKAGES < maxSize := Nat.div_lt_of_lt_mul (by omega)
  refine ⟨(sent - 1) / NUMS_PACKAGES, (sent - 1) % NUMS_PACKAGES + 1,
    received - NUMS_PACKAGES * ((sent - 1) / NUMS_PACKAGES), Nat.succ_pos _, hmod, ?_, hlast, ?_, ?_⟩
  · omega
  · omega
  · omega

theorem FloodPing.next_inRound (hi : i < NUMS_PACKAGES) :
    (FloodPing.client maxSize).next (FloodPing.inRound q i r) =
      .trySend (floodRequest maxSize (NUMS_PACKAGES * q + i))
        (FloodPing.idle maxSize (NUMS_PACKAGES * q + i + 1) (NUMS_PACKAGES * q + r)) := by
  have hnext : FloodPing.idle maxSize (NUMS_PACKAGES * q + i + 1) (NUMS_PACKAGES * q + r) =
      FloodPing.goOn maxSize (FloodPing.inRound q (i + 1) r) := by
    rw [FloodPing.idle, if_neg (Nat.succ_ne_zero _), Nat.add_assoc,
      FloodPing.busy_eq (Nat.succ_pos i) hi]
  rw [floodRequest_eq hi, hnext]
  have hloop : (FloodPing.inRound q i r).i < NUMS_PACKAGES := hi
  unfold FloodPing.client
  dsimp only
  rw [if_neg FloodPing.not_finished, if_pos hloop]
  rfl

theorem FloodPing.next_waiting :
    (FloodPing.client maxSize).next (FloodPing.inRound q NUMS_PACKAGES r) = .poll := by
  have hloop : ¬ (FloodPing.inRound q NUMS_PACKAGES r).i < NUMS_PACKAGES := Nat.lt_irrefl _
  unfold FloodPing.client
  dsimp only
  rw [if_neg FloodPing.not_finished, if_neg hloop]

theorem FloodPing.acts_send (hi : i < NUMS_PACKAGES) (hr : r ≤ i) (hq : q + 1 ≤ maxSize) :
    Acts (floodRequest maxSize) (FloodPing.idle maxSize) (FloodDue maxSize) (NUMS_PACKAGES * maxSize)
      (NUMS_PACKAGES * q + i) (NUMS_PACKAGES * q + r)
      ((FloodPing.client maxSize).next (FloodPing.inRound q i r)) := by
  have hdue := floodDue_of_round (Nat.succ_pos i) hi (Nat.le_succ_of_le hr) hq
  rw [FloodPing.next_inRound hi]
  exact .trySend hdue.2.1 hdue

theorem FloodPing.acts {sent received : Nat} (hdue : FloodDue maxSize sent received) :
    Acts (floodRequest maxSize) (FloodPing.idle maxSize) (FloodDue maxSize) (NUMS_PACKAGES * maxSize)
      sent received ((FloodPing.client maxSize).next (FloodPing.idle maxSize sent received)) := by
  obtain rfl | hpos := Nat.eq_zero_or_pos sent
  · obtain rfl := Nat.le_zero.mp hdue.1
    obtain rfl | hmax := Nat.eq_zero_or_pos maxSize
    · exact .done rfl rfl
    · have hfirst : FloodPing.idle maxSize 0 0 = FloodPing.inRound 0 0 0 := by
        have hstart : decide (PAYLOAD_MIN_SIZE ≤ maxSize) = true := decide_eq_true hmax
        rw [FloodPing.idle, if_pos rfl, FloodPing.init, hstart]
        rfl
      rw [hfirst]
      exact FloodPing.acts_send NUMS_PACKAGES_pos le_rfl hmax
  · obtain ⟨q, i, r, hi, hle, hr, hq, rfl, rfl⟩ := hdue.round hpos
    rw [FloodPing.idle, if_neg (Nat.ne_of_gt hpos), FloodPing.busy_eq hi hle]
    obtain hlt | rfl := Nat.lt_or_eq_of_le hle
    · rw [FloodPing.goOn_stays (.inl hlt)]
      exact FloodPing.acts_send hlt hr hq
    · obtain hwaits | rfl := Nat.lt_or_eq_of_le hr
      · rw [FloodPing.goOn_stays (.inr hwaits)]
        rw [FloodPing.next_waiting]
        exact .poll (Nat.add_lt_add_left hwaits _)
      · have hround : NUMS_PACKAGES * q + NUMS_PACKAGES = NUMS_PACKAGES * (q + 1) + 0 := by
          rw [Nat.add_zero, Nat.mul_succ]
        by_cases hmore : q + 2 ≤ maxSize
        · rw [FloodPing.goOn_next hmore, hround]
          exact FloodPing.acts_send NUMS_PACKAGES_pos le_rfl hmore
        · have hnext : (FloodPing.client maxSize).next
              (FloodPing.goOn maxSize (FloodPing.inRound q NUMS_PACKAGES NUMS_PACKAGES)) = .done :=
            if_pos (FloodPing.goOn_finishes hmore)
          obtain rfl : maxSize = q + 1 := by omega
          rw [hnext]
          exact .done hround hround

theorem FloodPing.receive_busy (hmax : maxSize ≤ 496) {sent received : Nat}
    (hdue : FloodDue maxSize sent received) (hlt : received < sent) :
    FloodPing.endpointCb maxSize (FloodPing.busy sent received) (floodRequest maxSize received) =
      FloodPing.busy sent (received + 1) := by
  obtain ⟨q, i, r, hi, hle, hr, hq, rfl, rfl⟩ := hdue.round (Nat.zero_lt_of_lt hlt)
  have hreturned : r < NUMS_PACKAGES := by omega
  rw [FloodPing.busy_eq hi hle, floodRequest_eq hreturned, FloodPing.endpointCb_message hmax hq hreturned,
    Nat.add_assoc, FloodPing.busy_eq hi hle]

/-- As long as packages are on their way, the loops of `app` have not ended. -/
theorem FloodPing.idle_eq_busy {sent received : Nat} (hdue : FloodDue maxSize sent received)
    (hlt : received < sent) : FloodPing.idle maxSize sent received = FloodPing.busy sent received := by
  have hpos := Nat.zero_lt_of_lt hlt
  obtain ⟨q, i, r, hi, hle, hr, hq, rfl, rfl⟩ := hdue.round hpos
  rw [FloodPing.idle, if_neg (Nat.ne_of_gt hpos), FloodPing.busy_eq hi hle]
  exact FloodPing.goOn_stays (.inr (by omega))

/-- What the test does, by the numbers of packages sent and returned. -/
def FloodPing.script (hmax : maxSize ≤ 496) :
    Script (FloodPing.client maxSize) echoEndpointCb (NUMS_PACKAGES * maxSize) where
  request := floodRequest maxSize
  reply := floodRequest maxSize
  due := FloodDue maxSize
  idle := FloodPing.idle maxSize
  busy := FloodPing.busy
  due_start := ⟨le_rfl, Nat.zero_le _, le_rfl⟩
  due_receive := fun hdue hlt => ⟨hlt, hdue.2.1, Nat.le_succ_of_le hdue.2.2⟩
  le_total := fun hdue => hdue.2.1
  serves := by
    intro k hk
    have hsize : k / NUMS_PACKAGES + 1 ≤ maxSize := Nat.div_lt_of_lt_mul hk
    have hnum : k % NUMS_PACKAGES < SHUTDOWN_MSG :=
      Nat.lt_trans (Nat.mod_lt k NUMS_PACKAGES_pos) (by decide)
    rw [floodRequest, floodMessage_eq hsize]
    exact echoEndpointCb_bytes hnum
  acts := fun hdue _ => FloodPing.acts hdue
  enters := FloodPing.idle_eq_busy
  receives := FloodPing.receive_busy hmax
  leaves := fun _ _ hpos => (if_neg (Nat.ne_of_gt hpos)).symm

theorem FloodPing.errCnt_goOn (ping : FloodPing) :
    (FloodPing.goOn maxSize ping).errCnt = ping.errCnt := by
  unfold FloodPing.goOn
  split_ifs
  · rfl
  · rfl
  · rfl
  · rfl

theorem FloodPing.errCnt_eq (hmax : maxSize ≤ 496) {s : State FloodPing (List UInt8)} {n : Counts}
    (h : (FloodPing.script hmax).At s n) : s.client.errCnt = 0 := by
  rw [h.client]
  simp only [FloodPing.script, FloodPing.idle]
  split_ifs
  · rfl
  · rfl
  · rw [FloodPing.errCnt_goOn]
    rfl

end Flood

/-- `rpmsg-flood-ping` against the echo, whatever the order of the steps, with two buffers for the
packages and one for the echoes at least: no error is counted and the echo is not shut down, and what
comes back are the packages of all sizes in order. The two sides cannot wait for each other for ever: a
run takes no more than thirteen steps for each package and does not end before all are back. -/
theorem flood_passes {maxSize requests answers : Nat} (hmax : maxSize ≤ 496)
    (hrequests : 2 ≤ requests) (hanswers : 0 < answers) {actions : List Action}
    {s : State FloodPing (List UInt8)}
    (hexec : Run.exec (step (FloodPing.client maxSize) echoEndpointCb requests answers)
      (State.init (FloodPing.init maxSize)) actions = some s) :
    s.client.errCnt = 0 ∧ s.stopped = false ∧
      (∃ count, s.received = queue (floodRequest maxSize) 0 count) ∧
      actions.length ≤ 13 * (NUMS_PACKAGES * maxSize) ∧
      ((s.Finished (FloodPing.client maxSize) ∧
          s.received = queue (floodRequest maxSize) 0 (NUMS_PACKAGES * maxSize)) ∨
        ∃ action s', step (FloodPing.client maxSize) echoEndpointCb requests answers s action =
          some s') := by
  obtain ⟨⟨n, hat⟩, hlen, hend⟩ := (FloodPing.script hmax).completes hrequests hanswers hexec
  refine ⟨FloodPing.errCnt_eq hmax hat, hat.running, ⟨n.received, hat.received⟩, hlen,
    hend.imp (fun hdone => ?_) id⟩
  exact ⟨hdone.1, hdone.2.1⟩

/-- The client finds no room for a third package and polls; both echoes take the only buffer for them
one after the other. -/
theorem flood_passes_two : ∃ s : State FloodPing (List UInt8),
    s.received = [floodMessage 1 0 1, floodMessage 1 1 1] ∧ s.client.errCnt = 0 := by
  have hrun : (Run.exec (step (FloodPing.client 1) echoEndpointCb 2 1)
      (State.init (FloodPing.init 1))
      [.client, .client, .client, .client, .client, .server, .server, .server, .server, .server, .server,
        .client, .client, .client, .server, .server, .server, .client, .client]).map State.received =
        some [floodMessage 1 0 1, floodMessage 1 1 1] := by decide +kernel
  obtain ⟨s, hexec, hreceived⟩ := Option.map_eq_some_iff.mp hrun
  exact ⟨s, hreceived, (flood_passes (by decide) le_rfl Nat.one_pos hexec).1⟩

end OpenAmp
