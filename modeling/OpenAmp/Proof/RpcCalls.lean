import OpenAmp.RpmsgRetarget

/-!
# Remote procedure calls and their answers

All calls share one buffer pointer and one flag, and `rpmsg_rpc_send` takes no lock across its
statements. An answer goes to the buffer set last, whichever call it is for, and lets any one of the
waiting calls go. A call can rely on its answer only if no other call sets its buffer before that
answer has arrived.

Nothing resets the pointer when a call returns, so what arrives later is still written through it.
-/

namespace OpenAmp.RpcSystem

open ByteMemory Run

variable {ι : Type*} {bufs : ι → RpcResp} {s s' : RpcSystem ι} {c c' : ι}
  {data : List UInt8}

/-! ### What is copied -/

theorem copied_eq_take {rpc : RpmsgRpcData} (hresp : rpc.respbuf ≠ NULL) (data : List UInt8) :
    rpc.copied data = data.take rpc.respbufLen := by
  unfold RpmsgRpcData.copied
  by_cases hlen : rpc.respbufLen = 0
  · simp [hlen]
  · rw [if_pos ⟨hresp, hlen⟩]
    split_ifs with hlong
    · rfl
    · have hfits : data.length ≤ rpc.respbufLen := Nat.not_lt.mp hlong
      rw [List.take_of_length_le (Nat.le_refl _), List.take_of_length_le hfits]

theorem length_copied_le (rpc : RpmsgRpcData) (data : List UInt8) :
    (rpc.copied data).length ≤ rpc.respbufLen := by
  unfold RpmsgRpcData.copied
  split_ifs with hbuf hlong
  · exact List.length_take_le _ _
  · rw [List.length_take]
    omega
  · exact Nat.zero_le _

/-! ### What a step does -/

section Inversion

variable [DecidableEq ι]

theorem step_setBuffer (hstep : s.step bufs (.setBuffer c) = some s') :
    s.calls c = .idle ∧
      s' = { s with rpc := s.rpc.setResp (bufs c), owner := some c }.setCall c .buffered := by
  obtain ⟨hidle, hs'⟩ := Option.ite_none_right_eq_some.mp hstep
  exact ⟨hidle, (Option.some.inj hs').symm⟩

theorem step_setFlag (hstep : s.step bufs (.setFlag c) = some s') :
    s.calls c = .buffered ∧
      s' = { s with rpc := { s.rpc with nacked := true } }.setCall c .flagged := by
  obtain ⟨hbuffered, hs'⟩ := Option.ite_none_right_eq_some.mp hstep
  exact ⟨hbuffered, (Option.some.inj hs').symm⟩

theorem step_send {ret : Int} (hstep : s.step bufs (.send c ret) = some s') :
    s.calls c = .flagged ∧ s' = s.stepSend bufs c ret := by
  obtain ⟨hflagged, hs'⟩ := Option.ite_none_right_eq_some.mp hstep
  exact ⟨hflagged, (Option.some.inj hs').symm⟩

/-- The request of a call with a response buffer is accepted. -/
theorem stepSend_accepted {ret : Int} (hret : 0 ≤ ret) (hresp : (bufs c).resp ≠ NULL) :
    s.stepSend bufs c ret =
      { s with requests := s.requests ++ [c] }.setCall c (.waiting ret) := by
  rw [stepSend, if_neg (Int.not_lt.mpr hret)]
  dsimp only
  rw [if_neg hresp]

theorem step_wait (hstep : s.step bufs (.wait c) = some s') :
    ∃ ret, s.calls c = .waiting ret ∧ s' = s.stepWait c ret := by
  simp only [RpcSystem.step] at hstep
  split at hstep
  case h_1 ret hwaiting => exact ⟨ret, hwaiting, (Option.some.inj hstep).symm⟩
  case h_2 => cases hstep

theorem step_answer {id : Nat} (hstep : s.step bufs (.answer id data) = some s') :
    ∃ c requests, s.requests = c :: requests ∧
      s' = { s with requests, dispatched := s.dispatched ++ [⟨id, data, some c⟩] } := by
  simp only [RpcSystem.step] at hstep
  split at hstep
  case h_1 => cases hstep
  case h_2 c requests hrequests =>
    obtain ⟨-, hs'⟩ := Option.ite_none_right_eq_some.mp hstep
    exact ⟨c, requests, hrequests, (Option.some.inj hs').symm⟩

theorem step_callback {i : Nat} (hstep : s.step bufs (.callback i) = some s') :
    ∃ msg, s.dispatched[i]? = some msg ∧
      s' = { s with dispatched := s.dispatched.eraseIdx i }.stepCallback msg := by
  simp only [RpcSystem.step] at hstep
  split at hstep
  case h_1 => cases hstep
  case h_2 msg hmsg => exact ⟨msg, hmsg, (Option.some.inj hstep).symm⟩

end Inversion

/-! ### One call at a time -/

/-- The call has set its buffer, and its answer has not arrived. -/
def Open (s : RpcSystem ι) (c : ι) : Prop := (s.calls c).pending = true ∧ s.answered c = none

/-- The calls whose requests or answers are on their way. -/
def inFlight (s : RpcSystem ι) : List (Option ι) :=
  s.requests.map some ++ s.dispatched.map RpcMessage.answers

/-- Nothing is on its way, or only the request or the answer of one open call. -/
def OneInFlight (s : RpcSystem ι) : Prop :=
  s.inFlight = [] ∨ ∃ c ret, s.inFlight = [some c] ∧ s.Open c ∧ s.calls c = .waiting ret

/-- At most one call is open. The buffer pointer is its own and the flag is set for it, and the
calls whose answers have arrived still have them. -/
structure Exclusive (bufs : ι → RpcResp) (s : RpcSystem ι) : Prop where
  unique : ∀ c c', s.Open c → s.Open c' → c = c'
  buffer : ∀ c, s.Open c → s.rpc.respbuf = (bufs c).resp ∧ s.rpc.respbufLen = (bufs c).respLen
  flag : ∀ c, s.Open c → s.calls c = .buffered ∨ s.rpc.nacked = true
  flight : s.OneInFlight
  ids : ∀ msg ∈ s.dispatched, msg.id ≠ TERM_SYSCALL_ID
  sent : ∀ c, s.answered c ≠ none → ∃ ret, s.calls c = .waiting ret ∨ s.calls c = .returned ret
  resp : ∀ c, (s.calls c).pending = true → (bufs c).resp ≠ NULL
  apart : ∀ c c', (s.calls c).pending = true → (s.calls c').pending = true → c ≠ c' →
    Apart (bufs c) (bufs c')
  held : ∀ c, (s.calls c).pending = true → s.answered c ≠ none → s.HoldsAnswer bufs c

theorem exclusive_start (bufs : ι → RpcResp) (memory : Nat → UInt8) :
    (start ι memory).Exclusive bufs where
  unique := fun _ _ h => absurd h.1 Bool.false_ne_true
  buffer := fun _ h => absurd h.1 Bool.false_ne_true
  flag := fun _ h => absurd h.1 Bool.false_ne_true
  flight := .inl rfl
  ids := fun _ h => absurd h List.not_mem_nil
  sent := fun _ h => absurd rfl h
  resp := fun _ h => absurd h Bool.false_ne_true
  apart := fun _ _ h => absurd h Bool.false_ne_true
  held := fun _ h => absurd h Bool.false_ne_true

/-- A call that is open and not yet waiting has sent nothing, and nobody else has. -/
theorem Exclusive.inFlight_eq_nil (h : s.Exclusive bufs) (hopen : s.Open c)
    (hcall : ∀ ret, s.calls c ≠ .waiting ret) : s.inFlight = [] := by
  rcases h.flight with hnil | ⟨d, ret, -, hd, hwaiting⟩
  · exact hnil
  · obtain rfl := h.unique c d hopen hd
    exact absurd hwaiting (hcall ret)

theorem Exclusive.open_of_calls (h : s.Exclusive bufs) (hpending : (s.calls c).pending = true)
    (hcall : ∀ ret, s.calls c ≠ .waiting ret) : s.Open c := by
  refine ⟨hpending, ?_⟩
  by_contra hanswered
  obtain ⟨ret, hwaiting | hreturned⟩ := h.sent c hanswered
  · exact hcall ret hwaiting
  · rw [hreturned] at hpending
    exact Bool.false_ne_true hpending

section Steps

variable [DecidableEq ι]

theorem setCall_of_ne {pc : RpcSend} (hne : c' ≠ c) : (s.setCall c pc).calls c' = s.calls c' :=
  Function.update_of_ne hne _ _

theorem setCall_self {pc : RpcSend} : (s.setCall c pc).calls c = pc := Function.update_self _ _ _

/-- The first call of all that are pending sets its buffer. -/
theorem Exclusive.setBuffer (h : s.Exclusive bufs) (hidle : s.calls c = .idle)
    (hserved : s.Served bufs (.setBuffer c)) (halone : s.Alone (.setBuffer c)) :
    Exclusive bufs
      ({ s with rpc := s.rpc.setResp (bufs c), owner := some c }.setCall c .buffered) := by
  obtain ⟨hresp, hapart⟩ := hserved
  have hnone : ∀ d, ¬ s.Open d := fun d hd => halone d hd.1 hd.2
  have hother : ∀ d, d ≠ c → ({ s with rpc := s.rpc.setResp (bufs c), owner := some c }.setCall c
      .buffered).calls d = s.calls d := fun d hne => setCall_of_ne hne
  have hopen : ∀ d, Open ({ s with rpc := s.rpc.setResp (bufs c), owner := some c }.setCall c
      .buffered) d → d = c := by
    intro d hd
    by_contra hne
    exact hnone d ⟨hother d hne ▸ hd.1, hd.2⟩
  have hanswered : s.answered c = none := by
    by_contra hne
    obtain ⟨ret, hcall | hcall⟩ := h.sent c hne <;> rw [hidle] at hcall <;> cases hcall
  constructor
  case unique => exact fun d d' hd hd' => (hopen d hd).trans (hopen d' hd').symm
  case buffer =>
    intro d hd
    rw [hopen d hd]
    exact ⟨rfl, rfl⟩
  case flag =>
    intro d hd
    rw [hopen d hd]
    exact .inl setCall_self
  case flight =>
    rcases h.flight with hnil | ⟨d, ret, -, hd, -⟩
    · exact .inl hnil
    · exact absurd hd (hnone d)
  case ids => exact h.ids
  case sent =>
    intro d hd
    have hne : d ≠ c := by
      rintro rfl
      exact hd hanswered
    rw [hother d hne]
    exact h.sent d hd
  case resp =>
    intro d hd
    by_cases hne : d = c
    · rw [hne]
      exact hresp
    · exact h.resp d (hother d hne ▸ hd)
  case apart =>
    intro d d' hd hd' hne
    by_cases hdc : d = c
    · subst hdc
      exact hapart d' (hother d' hne.symm ▸ hd')
    · by_cases hdc' : d' = c
      · subst hdc'
        exact (hapart d (hother d hdc ▸ hd)).symm
      · exact h.apart d d' (hother d hdc ▸ hd) (hother d' hdc' ▸ hd') hne
  case held =>
    intro d hd hda
    have hne : d ≠ c := by
      rintro rfl
      exact hda hanswered
    exact h.held d (hother d hne ▸ hd) hda

/-- The open call moves on to its next statement. -/
theorem Exclusive.advance (h : s.Exclusive bufs) {pc : RpcSend} {requests : List ι}
    {rpc : RpmsgRpcData} (hopen : s.Open c) (hpc : pc.pending = true)
    (hs' : s' = ({ s with rpc, requests } : RpcSystem ι).setCall c pc)
    (hrpc : rpc.respbuf = s.rpc.respbuf ∧ rpc.respbufLen = s.rpc.respbufLen) (hset : rpc.nacked = true)
    (hflight : s'.OneInFlight) : s'.Exclusive bufs := by
  have hpending : ∀ d, (s'.calls d).pending = (s.calls d).pending := by
    intro d
    by_cases hd : d = c
    · rw [hd, hs', setCall_self, hpc, hopen.1]
    · rw [hs', setCall_of_ne hd]
  have hanswered : s'.answered = s.answered := by rw [hs']; rfl
  have hopenOf : ∀ d, s'.Open d → s.Open d := by
    intro d hd
    exact ⟨hpending d ▸ hd.1, hanswered ▸ hd.2⟩
  constructor
  case unique => exact fun d d' hd hd' => h.unique d d' (hopenOf d hd) (hopenOf d' hd')
  case buffer =>
    intro d hd
    obtain ⟨hbuf, hlen⟩ := h.buffer d (hopenOf d hd)
    rw [hs']
    exact ⟨hrpc.1.trans hbuf, hrpc.2.trans hlen⟩
  case flag =>
    intro d hd
    rw [hs']
    exact .inr hset
  case flight => exact hflight
  case ids =>
    rw [hs']
    exact h.ids
  case sent =>
    intro d hd
    rw [hanswered] at hd
    have hne : d ≠ c := by
      rintro rfl
      exact hd hopen.2
    rw [hs', setCall_of_ne hne]
    exact h.sent d hd
  case resp => exact fun d hd => h.resp d (hpending d ▸ hd)
  case apart =>
    exact fun d d' hd hd' hne => h.apart d d' (hpending d ▸ hd) (hpending d' ▸ hd') hne
  case held =>
    intro d hd hda
    rw [hpending] at hd
    rw [hanswered] at hda
    rw [hs']
    exact h.held d hd hda

omit [DecidableEq ι] in
/-- A call that finds the flag clear is not open any more. -/
theorem Exclusive.not_open_of_clear (h : s.Exclusive bufs) {ret : Int}
    (hwaiting : s.calls c = .waiting ret) (hclear : s.rpc.nacked = false) : ¬ s.Open c := by
  intro hopen
  rcases h.flag c hopen with hbuffered | hset
  · rw [hwaiting] at hbuffered
    cases hbuffered
  · rw [hclear] at hset
    cases hset

theorem Exclusive.wait (h : s.Exclusive bufs) {ret : Int} (hwaiting : s.calls c = .waiting ret)
    (hclear : s.rpc.nacked = false) : Exclusive bufs
      (({ s with rpc := { s.rpc with nacked := true } } : RpcSystem ι).setCall c (.returned ret)) := by
  have hclosed := h.not_open_of_clear hwaiting hclear
  generalize hs' : ({ s with rpc := { s.rpc with nacked := true } } : RpcSystem ι).setCall c
    (.returned ret) = s'
  have hanswered : s'.answered = s.answered := by rw [← hs']; rfl
  have hpending : ∀ d, (s'.calls d).pending = true → d ≠ c ∧ (s.calls d).pending = true := by
    intro d hd
    by_cases hne : d = c
    · rw [hne, ← hs', setCall_self] at hd
      cases hd
    · rw [← hs', setCall_of_ne hne] at hd
      exact ⟨hne, hd⟩
  have hopenOf : ∀ d, s'.Open d → s.Open d := fun d hd => ⟨(hpending d hd.1).2, hanswered ▸ hd.2⟩
  constructor
  case unique => exact fun d d' hd hd' => h.unique d d' (hopenOf d hd) (hopenOf d' hd')
  case buffer =>
    intro d hd
    rw [← hs']
    exact h.buffer d (hopenOf d hd)
  case flag =>
    intro d hd
    rw [← hs']
    exact .inr rfl
  case flight =>
    have hsame : s'.inFlight = s.inFlight := by rw [← hs']; rfl
    rcases h.flight with hnil | ⟨d, ret', hone, hd, hcall⟩
    · exact .inl (hsame.trans hnil)
    · have hne : d ≠ c := by
        rintro rfl
        exact hclosed hd
      have hkept : s'.calls d = s.calls d := by rw [← hs', setCall_of_ne hne]
      exact .inr ⟨d, ret', hsame.trans hone, ⟨hkept ▸ hd.1, hanswered ▸ hd.2⟩, hkept.trans hcall⟩
  case ids =>
    rw [← hs']
    exact h.ids
  case sent =>
    intro d hd
    rw [hanswered] at hd
    by_cases hne : d = c
    · exact ⟨ret, .inr (by rw [hne, ← hs', setCall_self])⟩
    · rw [← hs', setCall_of_ne hne]
      exact h.sent d hd
  case resp => exact fun d hd => h.resp d (hpending d hd).2
  case apart =>
    exact fun d d' hd hd' hne => h.apart d d' (hpending d hd).2 (hpending d' hd').2 hne
  case held =>
    intro d hd hda
    rw [hanswered] at hda
    rw [← hs']
    exact h.held d (hpending d hd).2 hda

omit [DecidableEq ι] in
theorem Exclusive.answer (h : s.Exclusive bufs) {requests : List ι} {id : Nat}
    (hrequests : s.requests = c :: requests) (hid : id ≠ TERM_SYSCALL_ID) : Exclusive bufs
      { s with requests, dispatched := s.dispatched ++ [⟨id, data, some c⟩] } := by
  constructor
  case flight =>
    rcases h.flight with hnil | ⟨d, ret, hone, hd, hcall⟩
    · rw [inFlight, hrequests] at hnil
      cases hnil
    · rw [inFlight, hrequests, List.map_cons, List.cons_append, List.cons.injEq,
        List.append_eq_nil_iff, List.map_eq_nil_iff, List.map_eq_nil_iff] at hone
      obtain ⟨hcd, rfl, hdispatched⟩ := hone
      refine .inr ⟨d, ret, ?_, hd, hcall⟩
      rw [inFlight, hdispatched]
      exact congrArg (fun x => [x]) hcd
  case ids =>
    intro msg hmsg
    rcases List.mem_append.mp hmsg with hold | hnew
    · exact h.ids msg hold
    · rw [List.mem_singleton.mp hnew]
      exact hid
  case unique => exact h.unique
  case buffer => exact h.buffer
  case flag => exact h.flag
  case sent => exact h.sent
  case resp => exact h.resp
  case apart => exact h.apart
  case held => exact h.held

omit [DecidableEq ι] in
/-- The only message the callback can run for is the answer to the open call. -/
theorem Exclusive.dispatched_eq (h : s.Exclusive bufs) {i : Nat} {msg : RpcMessage ι}
    (hmsg : s.dispatched[i]? = some msg) :
    ∃ c, s.requests = [] ∧ s.dispatched = [msg] ∧ i = 0 ∧ msg.answers = some c ∧ s.Open c ∧
      ∃ ret, s.calls c = .waiting ret := by
  have hmem := List.mem_of_getElem? hmsg
  rcases h.flight with hnil | ⟨c, ret, hone, hopen, hcall⟩
  · rw [inFlight, List.append_eq_nil_iff, List.map_eq_nil_iff, List.map_eq_nil_iff] at hnil
    rw [hnil.2] at hmem
    exact absurd hmem List.not_mem_nil
  · rcases List.append_eq_singleton_iff.mp hone with ⟨hrequests, hdispatched⟩ | ⟨-, hdispatched⟩
    · obtain ⟨msg', hlist, hanswers⟩ := List.map_eq_singleton_iff.mp hdispatched
      rw [hlist] at hmsg hmem
      obtain rfl := List.mem_singleton.mp hmem
      refine ⟨c, List.map_eq_nil_iff.mp hrequests, hlist, ?_, hanswers, hopen, ret, hcall⟩
      cases i with
      | zero => rfl
      | succ i => cases hmsg
    · rw [List.map_eq_nil_iff.mp hdispatched] at hmem
      exact absurd hmem List.not_mem_nil

omit [DecidableEq ι] in
/-- A write to the buffer of one pending call leaves the answers of the others where they are. -/
theorem HoldsAnswer.write {bytes : List UInt8} (hheld : s.HoldsAnswer bufs c')
    (hlen : bytes.length ≤ (bufs c).respLen) (hapart : Apart (bufs c') (bufs c)) :
    HoldsAnswer bufs { s with memory := writeBytes s.memory (bufs c).resp bytes } c' := by
  obtain ⟨data, hanswered, hread⟩ := hheld
  refine ⟨data, hanswered, ?_⟩
  have htake : (data.take (bufs c').respLen).length ≤ (bufs c').respLen := List.length_take_le _ _
  rw [readBytes_writeBytes_of_disjoint, hread]
  rcases hapart with hlow | hhigh
  · left
    omega
  · right
    omega

/-- The callback runs for the one answer on its way, while the buffer of its call is set. -/
theorem Exclusive.callback (h : s.Exclusive bufs) {i : Nat} {msg : RpcMessage ι}
    (hmsg : s.dispatched[i]? = some msg) :
    Exclusive bufs ({ s with dispatched := s.dispatched.eraseIdx i }.stepCallback msg) := by
  obtain ⟨c, hrequests, hdispatched, rfl, hanswers, hopen, ret, hcall⟩ := h.dispatched_eq hmsg
  have hid : msg.id ≠ TERM_SYSCALL_ID := h.ids msg (List.mem_of_getElem? hmsg)
  obtain ⟨hbuf, hbufLen⟩ := h.buffer c hopen
  have hresp := h.resp c hopen.1
  have hcopied : s.rpc.copied msg.data = msg.data.take (bufs c).respLen := by
    rw [copied_eq_take (hbuf ▸ hresp), hbufLen]
  have hs' : ({ s with dispatched := s.dispatched.eraseIdx 0 } : RpcSystem ι).stepCallback msg =
      { s with
        dispatched := []
        rpc := { s.rpc with nacked := false }
        memory := writeBytes s.memory s.rpc.respbuf (msg.data.take (bufs c).respLen)
        answered := Function.update s.answered c (some msg.data) } := by
    rw [stepCallback, if_neg hid, rpmsgRpcEptCb, hcopied, hdispatched, record, hanswers]
    rfl
  rw [hs', hbuf]
  have hother : ∀ d, d ≠ c → Function.update s.answered c (some msg.data) d = s.answered d :=
    fun d hne => Function.update_of_ne hne _ _
  have hnone : ∀ d, (s.calls d).pending = true →
      Function.update s.answered c (some msg.data) d ≠ none := by
    intro d hd hunanswered
    by_cases hne : d = c
    · rw [hne, Function.update_self] at hunanswered
      cases hunanswered
    · exact hne (h.unique d c ⟨hd, hother d hne ▸ hunanswered⟩ hopen)
  constructor
  case unique => exact fun d d' hd => absurd hd.2 (hnone d hd.1)
  case buffer => exact fun d hd => absurd hd.2 (hnone d hd.1)
  case flag => exact fun d hd => absurd hd.2 (hnone d hd.1)
  case flight => exact .inl (by rw [inFlight, hrequests]; rfl)
  case ids => exact fun m hm => absurd hm List.not_mem_nil
  case sent =>
    intro d hd
    by_cases hne : d = c
    · exact ⟨ret, .inl (hne ▸ hcall)⟩
    · exact h.sent d (hother d hne ▸ hd)
  case resp => exact h.resp
  case apart => exact h.apart
  case held =>
    intro d hd hda
    by_cases hne : d = c
    · subst hne
      exact ⟨msg.data, Function.update_self _ _ _, readBytes_writeBytes_self _ _ _⟩
    · have hda' : s.answered d ≠ none := hother d hne ▸ hda
      obtain ⟨data, hdata, hread⟩ := (h.held d hd hda').write (List.length_take_le _ _)
        (h.apart d c hd hopen.1 hne)
      exact ⟨data, (hother d hne).trans hdata, hread⟩

/-- The request of the open call is accepted. -/
theorem Exclusive.send (h : s.Exclusive bufs) (hflagged : s.calls c = .flagged) {ret : Int}
    (hret : 0 ≤ ret) : (s.stepSend bufs c ret).Exclusive bufs := by
  have hwaiting : ∀ ret, s.calls c ≠ .waiting ret := by simp [hflagged]
  have hopen := h.open_of_calls (by rw [hflagged]; rfl) hwaiting
  have hset : s.rpc.nacked = true := by
    rcases h.flag c hopen with hbuffered | hset
    · rw [hflagged] at hbuffered
      cases hbuffered
    · exact hset
  have hnil := h.inFlight_eq_nil hopen hwaiting
  rw [stepSend_accepted hret (h.resp c hopen.1)]
  refine h.advance hopen rfl rfl ⟨rfl, rfl⟩ hset (.inr ⟨c, ret, ?_, ⟨?_, hopen.2⟩, setCall_self⟩)
  · rw [inFlight, List.append_eq_nil_iff, List.map_eq_nil_iff] at hnil
    unfold inFlight setCall
    rw [hnil.1, hnil.2]
    rfl
  · rw [setCall_self]
    rfl

theorem Exclusive.step (h : s.Exclusive bufs) {a : RpcAction ι} (hserved : s.Served bufs a)
    (halone : s.Alone a) (hstep : s.step bufs a = some s') : s'.Exclusive bufs := by
  cases a with
  | setBuffer c =>
      obtain ⟨hidle, rfl⟩ := step_setBuffer hstep
      exact h.setBuffer hidle hserved halone
  | setFlag c =>
      obtain ⟨hbuffered, rfl⟩ := step_setFlag hstep
      have hwaiting : ∀ ret, s.calls c ≠ .waiting ret := by simp [hbuffered]
      have hopen := h.open_of_calls (by rw [hbuffered]; rfl) hwaiting
      exact h.advance hopen rfl rfl ⟨rfl, rfl⟩ rfl (.inl (h.inFlight_eq_nil hopen hwaiting))
  | send c ret =>
      obtain ⟨hflagged, rfl⟩ := step_send hstep
      exact h.send hflagged hserved
  | wait c =>
      obtain ⟨ret, hwaiting, rfl⟩ := step_wait hstep
      rw [stepWait]
      split_ifs with hset
      · exact h
      · exact h.wait hwaiting (Bool.not_eq_true _ ▸ hset)
  | answer id data =>
      obtain ⟨c, requests, hrequests, rfl⟩ := step_answer hstep
      exact h.answer hrequests hserved
  | callback i =>
      obtain ⟨msg, hmsg, rfl⟩ := step_callback hstep
      exact h.callback hmsg
  | arrive => exact hserved.elim
  | unbind => exact hserved.elim
  | releaseEpt => exact hserved.elim
  | releaseBuffer => exact hserved.elim

/-- A call that is moved to a statement it does not return from does not make any call return. -/
theorem setCall_ne_returned {pc : RpcSend} {ret : Int} (hpc : pc.pending = true)
    (hc : s.calls c ≠ .returned ret) : (s.setCall c' pc).calls c ≠ .returned ret := by
  by_cases hne : c = c'
  · rw [hne, setCall_self]
    intro hreturned
    rw [hreturned] at hpc
    cases hpc
  · rw [setCall_of_ne hne]
    exact hc

/-- A served call returns by finding the flag clear. -/
theorem flag_clear_of_returned {a : RpcAction ι} (h : s.Exclusive bufs) (hserved : s.Served bufs a)
    (hstep : s.step bufs a = some s') {ret : Int} (hbefore : (s.calls c).pending = true)
    (hafter : s'.calls c = .returned ret) :
    s.rpc.nacked = false ∧ s.calls c = .waiting ret ∧ s'.memory = s.memory ∧
      s'.answered = s.answered := by
  have hnot : s.calls c ≠ .returned ret := by
    intro hreturned
    rw [hreturned] at hbefore
    cases hbefore
  cases a with
  | setBuffer d =>
      obtain ⟨-, rfl⟩ := step_setBuffer hstep
      exact absurd hafter (setCall_ne_returned rfl hnot)
  | setFlag d =>
      obtain ⟨-, rfl⟩ := step_setFlag hstep
      exact absurd hafter (setCall_ne_returned rfl hnot)
  | send d ret' =>
      obtain ⟨hflagged, rfl⟩ := step_send hstep
      rw [stepSend_accepted hserved (h.resp d (by rw [hflagged]; rfl))] at hafter
      exact absurd hafter (setCall_ne_returned rfl hnot)
  | wait d =>
      obtain ⟨ret', hwaiting, rfl⟩ := step_wait hstep
      rw [stepWait] at hafter ⊢
      split_ifs at hafter ⊢ with hset
      · exact absurd hafter hnot
      · by_cases hne : c = d
        · subst hne
          rw [setCall_self] at hafter
          cases hafter
          exact ⟨Bool.not_eq_true _ ▸ hset, hwaiting, rfl, rfl⟩
        · rw [setCall_of_ne hne] at hafter
          exact absurd hafter hnot
  | answer id data =>
      obtain ⟨d, requests, -, rfl⟩ := step_answer hstep
      exact absurd hafter hnot
  | callback i =>
      obtain ⟨msg, -, rfl⟩ := step_callback hstep
      rw [stepCallback] at hafter
      split_ifs at hafter <;> exact absurd hafter hnot
  | arrive => exact hserved.elim
  | unbind => exact hserved.elim
  | releaseEpt => exact hserved.elim
  | releaseBuffer => exact hserved.elim

theorem exclusive_of_reachable {memory : Nat → UInt8}
    (hs : Reachable (fun s a => s.Served bufs a ∧ s.Alone a) (step bufs) (start ι memory) s) :
    s.Exclusive bufs := by
  refine hs.invariant (exclusive_start bufs memory) ?_
  intro s a s' h ha hstep
  exact h.step ha.1 ha.2 hstep

/-- Whenever a call returns, its own answer is in its buffer. -/
theorem rpc_call_returns_answer {memory : Nat → UInt8} {a : RpcAction ι} {ret : Int}
    (hs : Reachable (fun s a => s.Served bufs a ∧ s.Alone a) (step bufs) (start ι memory) s)
    (hserved : s.Served bufs a) (hstep : s.step bufs a = some s')
    (hbefore : (s.calls c).pending = true) (hafter : s'.calls c = .returned ret) :
    s'.HoldsAnswer bufs c := by
  have h := exclusive_of_reachable hs
  obtain ⟨hclear, hwaiting, hmemory, hanswered⟩ :=
    flag_clear_of_returned h hserved hstep hbefore hafter
  have hclosed := h.not_open_of_clear hwaiting hclear
  obtain ⟨data, hdata, hread⟩ := h.held c hbefore fun hnone => hclosed ⟨hbefore, hnone⟩
  exact ⟨data, hanswered ▸ hdata, hmemory ▸ hread⟩

end Steps

/-- Two callers with a buffer of four bytes each. -/
def twoBufs (second : Bool) : RpcResp := if second then ⟨32, 4⟩ else ⟨16, 4⟩

theorem rpc_call_returns_answer_twice :
    ∃ s s' : RpcSystem Bool, s.step twoBufs (.wait true) = some s' ∧ s'.calls true = .returned 16 ∧
      s'.HoldsAnswer twoBufs true := by
  obtain ⟨s, hs, hcalls⟩ := Run.exists_reachable
    (fun (s : RpcSystem Bool) a => s.Served twoBufs a ∧ s.Alone a) (step twoBufs)
    (start Bool fun _ => 0)
    [.setBuffer false, .setFlag false, .send false 16, .answer 1 [7], .callback 0, .setBuffer true,
      .wait false, .setFlag true, .send true 16, .answer 1 [8], .callback 0]
    (fun s => (s.calls true, (s.step twoBufs (.wait true)).map fun s' => s'.calls true))
    (.waiting 16, some (.returned 16)) (by decide +kernel)
  obtain ⟨hbefore, hwait⟩ := Prod.mk.inj hcalls
  obtain ⟨s', hstep, hafter⟩ := Option.map_eq_some_iff.mp hwait
  refine ⟨s, s', hstep, hafter, ?_⟩
  have hserved : s.Served twoBufs (.wait true) := trivial
  exact rpc_call_returns_answer hs hserved hstep
    (by rw [hbefore]; rfl) hafter

/-- Two calls that set their buffers before either is answered, up to the first answer. -/
def mixedCalls : List (RpcAction Bool) :=
  [.setBuffer false, .setBuffer true, .setFlag false, .setFlag true, .send false 16, .send true 16,
    .answer 1 [7], .callback 0]

/-- The answer to the first call goes to the buffer of the second, and either of them may return with
it. -/
theorem rpc_calls_mix_answers :
    ∃ s, Reachable (fun s a => s.Served twoBufs a) (step twoBufs) (start Bool fun _ => 0) s ∧
      (∃ s', s.step twoBufs (.wait false) = some s' ∧ s'.calls false = .returned 16 ∧
        ¬ s'.HoldsAnswer twoBufs false) ∧
      ∃ s', s.step twoBufs (.wait true) = some s' ∧ s'.calls true = .returned 16 ∧
        s'.answered true = none := by
  let run := Run.exec (Run.guarded (fun s a => s.Served twoBufs a) (step twoBufs))
    (start Bool fun _ => 0) mixedCalls
  have hfirst : (run.map fun s => (s.step twoBufs (.wait false)).map fun s' =>
      (s'.calls false, s'.answered false, readBytes s'.memory 16 1)) =
      some (some (.returned 16, some [7], [0])) := by decide +kernel
  have hsecond : (run.map fun s => (s.step twoBufs (.wait true)).map fun s' =>
      (s'.calls true, s'.answered true)) = some (some (.returned 16, none)) := by decide +kernel
  obtain ⟨s, hexec, hwait₁⟩ := Option.map_eq_some_iff.mp hfirst
  rw [hexec, Option.map_some, Option.some.injEq] at hsecond
  obtain ⟨s₁, hstep₁, hobs₁⟩ := Option.map_eq_some_iff.mp hwait₁
  obtain ⟨s₂, hstep₂, hobs₂⟩ := Option.map_eq_some_iff.mp hsecond
  simp only [Prod.mk.injEq] at hobs₁ hobs₂
  refine ⟨s, Run.reachable_of_exec .start hexec, ⟨s₁, hstep₁, hobs₁.1, ?_⟩, s₂, hstep₂, hobs₂⟩
  rintro ⟨data, hdata, hread⟩
  obtain rfl : [7] = data := Option.some.inj (hobs₁.2.1.symm.trans hdata)
  exact absurd (hobs₁.2.2.symm.trans hread) (by decide)

/-! ### Where the callback writes -/

section Writes

variable [DecidableEq ι]

/-- The buffer pointer is the one its owner passed, and NULL without an owner. -/
structure Owned (bufs : ι → RpcResp) (s : RpcSystem ι) : Prop where
  owner : ∀ c, s.owner = some c →
    s.rpc.respbuf = (bufs c).resp ∧ s.rpc.respbufLen = (bufs c).respLen ∧ s.calls c ≠ .idle
  null : s.owner = none → s.rpc.respbuf = NULL

omit [DecidableEq ι] in
theorem owned_start (bufs : ι → RpcResp) (memory : Nat → UInt8) : (start ι memory).Owned bufs where
  owner := fun _ h => nomatch h
  null := fun _ => rfl

/-- A call that has been made stays made. -/
theorem setCall_ne_idle {pc : RpcSend} (hpc : pc ≠ .idle) (hc : s.calls c ≠ .idle) :
    (s.setCall c' pc).calls c ≠ .idle := by
  by_cases hne : c = c'
  · rw [hne, setCall_self]
    exact hpc
  · rw [setCall_of_ne hne]
    exact hc

omit [DecidableEq ι] in
/-- A step that keeps the buffer, its owner and which calls have been made. -/
theorem Owned.frame (h : s.Owned bufs) (howner : s'.owner = s.owner)
    (hbuf : s'.rpc.respbuf = s.rpc.respbuf) (hlen : s'.rpc.respbufLen = s.rpc.respbufLen)
    (hcalls : ∀ c, s.calls c ≠ .idle → s'.calls c ≠ .idle) : s'.Owned bufs where
  owner := by
    intro c hc
    obtain ⟨hresp, hrespLen, hidle⟩ := h.owner c (howner ▸ hc)
    exact ⟨hbuf.trans hresp, hlen.trans hrespLen, hcalls c hidle⟩
  null := fun hnone => hbuf.trans (h.null (howner ▸ hnone))

theorem Owned.stepSend (h : s.Owned bufs) (ret : Int) : (s.stepSend bufs c ret).Owned bufs := by
  unfold RpcSystem.stepSend
  dsimp only
  split_ifs
  · exact h.frame rfl rfl rfl fun d => setCall_ne_idle RpcSend.noConfusion
  · exact h.frame rfl rfl rfl fun d => setCall_ne_idle RpcSend.noConfusion
  · exact h.frame rfl rfl rfl fun d => setCall_ne_idle RpcSend.noConfusion

theorem Owned.stepCallback (h : s.Owned bufs) (msg : RpcMessage ι) :
    (s.stepCallback msg).Owned bufs := by
  unfold RpcSystem.stepCallback
  split_ifs
  · exact h.frame rfl rfl rfl fun d => id
  · exact h.frame rfl rfl rfl fun d => id

theorem Owned.step (h : s.Owned bufs) {a : RpcAction ι} (hstep : s.step bufs a = some s') :
    s'.Owned bufs := by
  cases a with
  | setBuffer c =>
      obtain ⟨-, rfl⟩ := step_setBuffer hstep
      constructor
      case owner =>
        rintro d hd
        obtain rfl : c = d := Option.some.inj hd
        refine ⟨rfl, rfl, ?_⟩
        rw [setCall_self]
        exact RpcSend.noConfusion
      case null => exact fun hnone => nomatch hnone
  | setFlag c =>
      obtain ⟨-, rfl⟩ := step_setFlag hstep
      exact h.frame rfl rfl rfl fun d => setCall_ne_idle RpcSend.noConfusion
  | send c ret =>
      obtain ⟨-, rfl⟩ := step_send hstep
      exact h.stepSend ret
  | wait c =>
      obtain ⟨ret, -, rfl⟩ := step_wait hstep
      unfold stepWait
      split_ifs
      · exact h
      · exact h.frame rfl rfl rfl fun d => setCall_ne_idle RpcSend.noConfusion
  | answer word data =>
      obtain ⟨c, requests, -, rfl⟩ := step_answer hstep
      exact h.frame rfl rfl rfl fun d => id
  | arrive word data =>
      simp only [RpcSystem.step] at hstep
      split_ifs at hstep
      cases hstep
      exact h.frame rfl rfl rfl fun d => id
  | callback i =>
      obtain ⟨msg, -, rfl⟩ := step_callback hstep
      have hkept : Owned bufs { s with dispatched := s.dispatched.eraseIdx i } :=
        h.frame rfl rfl rfl fun d => id
      exact hkept.stepCallback msg
  | unbind =>
      simp only [RpcSystem.step] at hstep
      split_ifs at hstep
      cases hstep
      exact h.frame rfl rfl rfl fun d => id
  | releaseEpt =>
      simp only [RpcSystem.step] at hstep
      cases hstep
      split_ifs
      · exact h
      · exact h.frame rfl rfl rfl fun d => id
  | releaseBuffer =>
      simp only [RpcSystem.step] at hstep
      cases hstep
      exact ⟨fun c hc => (nomatch hc), fun _ => rfl⟩

omit [DecidableEq ι] in
/-- The callback copies nothing without an owner, and no more than the buffer of the owner holds. -/
theorem Owned.writesLive (h : s.Owned bufs) {a : RpcAction ι} (ha : s.BeforeReturn bufs a) :
    s.WritesLive bufs a := by
  cases a with
  | callback i =>
      intro msg hmsg hid hcopied
      have hbuf : s.rpc.respbuf ≠ NULL ∧ s.rpc.respbufLen ≠ 0 := by
        by_contra hempty
        exact hcopied (if_neg hempty)
      have hdata : msg.data ≠ [] := by
        intro hnil
        apply hcopied
        rw [copied_eq_take hbuf.1, hnil, List.take_nil]
      cases howner : s.owner with
      | none => exact absurd (h.null howner) hbuf.1
      | some c =>
          obtain ⟨hresp, hlen, hidle⟩ := h.owner c howner
          have hlive := ha msg hmsg hid hdata c howner (hresp ▸ hbuf.1) (hlen ▸ hbuf.2)
          refine ⟨c, ?_, hresp.symm, hlen ▸ length_copied_le s.rpc msg.data⟩
          cases hcall : s.calls c with
          | idle => exact absurd hcall hidle
          | returned ret => exact absurd hcall (hlive ret)
          | buffered => rfl
          | flagged => rfl
          | waiting ret => rfl
  | _ => trivial

end Writes

/-- The callback writes only to the buffers of calls that have not returned, in every run in which it
has nothing to do between the return of the call that set the buffer last and the next buffer or
release. -/
theorem rpc_callback_writes_live [DecidableEq ι] (bufs : ι → RpcResp) (memory : Nat → UInt8)
    (actions : List (RpcAction ι))
    (hrun : Along (step bufs) (fun s a => s.BeforeReturn bufs a) (start ι memory) actions) :
    Along (step bufs) (fun s a => s.WritesLive bufs a) (start ι memory) actions := by
  refine hrun.imp (fun s a h ha => h.writesLive ha) ?_ (owned_start bufs memory)
  intro s a s' h _ hstep
  exact h.step hstep

/-- A message that arrives while a call is under way. -/
theorem rpc_callback_writes_live_once :
    Along (step twoBufs) (fun s a => s.WritesLive twoBufs a) (start Bool fun _ => 0)
      [.setBuffer false, .arrive 1 [7], .callback 0] := by
  apply rpc_callback_writes_live
  refine ⟨trivial, fun s hs => ⟨trivial, fun s' hs' => ⟨?_, fun _ _ => trivial⟩⟩⟩
  obtain rfl := Option.some.inj hs
  obtain rfl := Option.some.inj hs'
  intro msg _ _ _ c hc _ _ ret
  obtain rfl : false = c := Option.some.inj hc
  exact RpcSend.noConfusion

/-- A second message after the answer is written to the buffer of a call that has returned. -/
theorem rpc_callback_writes_dead :
    ∃ s, Reachable (fun _ _ => True) (step twoBufs) (start Bool fun _ => 0) s ∧
      ¬ s.WritesLive twoBufs (.callback 0) := by
  obtain ⟨s, hs, hobs⟩ := Run.exists_reachable (fun _ _ => True) (step twoBufs)
    (start Bool fun _ => 0) [.setBuffer false, .setFlag false, .send false 16, .answer 1 [7],
      .callback 0, .wait false, .arrive 1 [9]]
    (fun s => (s.dispatched.map fun msg => (msg.id, msg.data), s.rpc, s.calls false, s.calls true))
    ([(1, [9])], ⟨false, true, 16, 4⟩, .returned 16, .idle) (by decide +kernel)
  simp only [Prod.mk.injEq] at hobs
  obtain ⟨hdispatched, hrpc, hfirst, hsecond⟩ := hobs
  obtain ⟨msg, hlist, hmsg⟩ := List.map_eq_singleton_iff.mp hdispatched
  refine ⟨s, hs, fun hlive => ?_⟩
  obtain ⟨hid, hdata⟩ := Prod.mk.inj hmsg
  obtain ⟨c, hpending, -, -⟩ := hlive msg (by rw [hlist]; rfl) (by rw [hid]; decide)
    (by rw [hrpc, hdata]; decide)
  cases c with
  | false =>
      rw [hfirst] at hpending
      cases hpending
  | true =>
      rw [hsecond] at hpending
      cases hpending

end OpenAmp.RpcSystem
