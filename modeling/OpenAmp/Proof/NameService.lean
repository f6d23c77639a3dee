import Mathlib.Data.List.Find
import OpenAmp.Proof.EndpointAddresses

/-!
# What an announcement does

The name service looks for an endpoint by name. Whether it finds the one that is meant depends on the
order in which endpoints of one name were registered, and the endpoint that an unbind callback is
passed is not the one that was found.
-/

namespace OpenAmp

section Lookup

variable {rdev : Rdev} {ref : EptRef} {name : List UInt8} {dest : UInt32}

def Rdev.Named (rdev : Rdev) (name : List UInt8) (ref : EptRef) : Prop :=
  nameChars (rdev.ept ref).name = nameChars name

def Rdev.BoundTo (rdev : Rdev) (dest : UInt32) (ref : EptRef) : Prop :=
  (rdev.ept ref).destAddr = dest ∧ dest ≠ RPMSG_ADDR_ANY

def Rdev.Unbound (rdev : Rdev) (ref : EptRef) : Prop :=
  (rdev.ept ref).destAddr = RPMSG_ADDR_ANY

instance : Decidable (rdev.Named name ref) := inferInstanceAs (Decidable (_ = _))

instance : Decidable (rdev.BoundTo dest ref) := inferInstanceAs (Decidable (_ ∧ _))

instance : Decidable (rdev.Unbound ref) := inferInstanceAs (Decidable (_ = _))

/-- The first endpoint of a name, in the order of registration, that is bound to an address or not
bound. -/
def Rdev.firstCandidate (rdev : Rdev) (name : List UInt8) (dest : UInt32) : Option EptRef :=
  rdev.endpoints.find? fun ref => rdev.Named name ref ∧ (rdev.BoundTo dest ref ∨ rdev.Unbound ref)

/-- What the lookup of the name service finds. -/
theorem rpmsgGetEndpoint_name (haddr : ∀ ref ∈ rdev.endpoints, (rdev.ept ref).addr ≠ RPMSG_ADDR_ANY)
    (name : List UInt8) (dest : UInt32) :
    rpmsgGetEndpoint rdev (some name) RPMSG_ADDR_ANY dest = rdev.firstCandidate name dest := by
  rw [rpmsgGetEndpoint, Rdev.firstCandidate]
  refine List.find?_congr fun ref href => ?_
  have hany := (haddr ref href).symm
  rw [Bool.eq_iff_iff]
  simp only [Rdev.Named, Rdev.BoundTo, Rdev.Unbound, hany, Bool.and_eq_true, Bool.or_eq_true,
    decide_eq_true_eq, ne_eq, not_true_eq_false, false_and, false_or, true_and,
    and_comm (a := (rdev.ept ref).destAddr = dest)]

theorem rpmsgGetEptFromAddr_eq {addr : UInt32} (haddr : addr ≠ RPMSG_ADDR_ANY) :
    rpmsgGetEptFromAddr rdev addr = rdev.endpoints.find? fun ref => (rdev.ept ref).addr = addr := by
  rw [rpmsgGetEptFromAddr, rpmsgGetEndpoint]
  refine List.find?_congr fun ref _ => ?_
  by_cases heq : (rdev.ept ref).addr = addr
  · simp [heq, haddr]
  · simp [heq, Ne.symm heq]

theorem Rdev.Inv.getEpt_some (h : rdev.Inv) {addr : UInt32}
    (hfound : rpmsgGetEptFromAddr rdev addr = some ref) :
    ref ∈ rdev.endpoints ∧ (rdev.ept ref).addr = addr := by
  have hmem : ref ∈ rdev.endpoints := List.mem_of_find?_eq_some hfound
  refine ⟨hmem, ?_⟩
  by_cases hany : addr = RPMSG_ADDR_ANY
  · have hp := List.find?_some hfound
    have hne := (h.addr_ne_any hmem).symm
    simp [hany, hne] at hp
  · rw [rpmsgGetEptFromAddr_eq hany] at hfound
    simpa using List.find?_some hfound

theorem Rdev.setDestAddr_self (h : (rdev.ept ref).destAddr = dest) :
    rdev.setDestAddr ref dest = rdev := by
  subst h
  simp [Rdev.setDestAddr, Rdev.setEpt]

theorem Rdev.destAddr_setDestAddr (rdev : Rdev) (ref : EptRef) (dest : UInt32) :
    ((rdev.setDestAddr ref dest).ept ref).destAddr = dest := by
  simp [Rdev.setDestAddr]

end Lookup

/-! ### Which endpoint is meant -/

/-- What an announcement is to do. -/
def Rdev.Announced (rdev : Rdev) (msg : RpmsgNsMsg) (outcome : Rdev × Option AppCall) : Prop :=
  if ∃ ref ∈ rdev.endpoints, rdev.Named msg.name ref ∧ rdev.BoundTo msg.addr ref then
    if msg.flags &&& RPMSG_NS_DESTROY ≠ 0 then
      ∃ ref ∈ rdev.endpoints, rdev.Named msg.name ref ∧ rdev.BoundTo msg.addr ref ∧
        outcome.1 = rdev.setDestAddr ref RPMSG_ADDR_ANY ∧
        ∀ owner ept, outcome.2 = some (.nsUnbind owner ept) → rdev.BoundTo msg.addr owner
    else
      outcome = (rdev, none)
  else
    if msg.flags &&& RPMSG_NS_DESTROY ≠ 0 then
      outcome = (rdev, none)
    else if ∃ ref ∈ rdev.endpoints, rdev.Named msg.name ref ∧ rdev.Unbound ref then
      ∃ ref ∈ rdev.endpoints, rdev.Named msg.name ref ∧ rdev.Unbound ref ∧
        outcome = (rdev.setDestAddr ref msg.addr, none)
    else
      outcome = (rdev, if rdev.nsBindCb then some (.nsBind msg.name msg.addr) else none)

/-- Where an endpoint of the name is bound to the address, such an endpoint comes before every unbound
one. Where none is, a DESTROY finds no unbound endpoint of the name with an unbind callback. -/
def Rdev.InOrder (rdev : Rdev) (msg : RpmsgNsMsg) : Prop :=
  if ∃ ref ∈ rdev.endpoints, rdev.Named msg.name ref ∧ rdev.BoundTo msg.addr ref then
    ∀ ref, rdev.firstCandidate msg.name msg.addr = some ref → rdev.BoundTo msg.addr ref
  else
    msg.flags &&& RPMSG_NS_DESTROY ≠ 0 →
      ∀ ref, rdev.firstCandidate msg.name msg.addr = some ref → (rdev.ept ref).nsUnbindCb = false

section Announcements

variable {rdev : Rdev} {ref ept : EptRef} {msg : RpmsgNsMsg} {data : List UInt8}

theorem Rdev.mem_of_firstCandidate {name : List UInt8} {dest : UInt32}
    (h : rdev.firstCandidate name dest = some ref) :
    ref ∈ rdev.endpoints ∧ rdev.Named name ref ∧ (rdev.BoundTo dest ref ∨ rdev.Unbound ref) := by
  have hp := List.find?_some h
  exact ⟨List.mem_of_find?_eq_some h, of_decide_eq_true hp⟩

theorem Rdev.not_of_firstCandidate {name : List UInt8} {dest : UInt32}
    (h : rdev.firstCandidate name dest = none) (href : ref ∈ rdev.endpoints)
    (hname : rdev.Named name ref) : ¬ (rdev.BoundTo dest ref ∨ rdev.Unbound ref) := by
  intro hp
  have hnone := List.find?_eq_none.mp h ref href
  exact hnone (decide_eq_true ⟨hname, hp⟩)

/-- `rpmsg_virtio_ns_callback` on an announcement, by what it finds. -/
theorem rpmsgVirtioNsCallback_eq
    (haddr : ∀ ref ∈ rdev.endpoints, (rdev.ept ref).addr ≠ RPMSG_ADDR_ANY)
    (hlen : data.length = RPMSG_NS_MSG_SIZE) (hmsg : RpmsgNsMsg.ofBytes data = msg) :
    rpmsgVirtioNsCallback rdev ept data =
      match rdev.firstCandidate msg.name msg.addr with
      | none =>
          (rdev, if msg.flags &&& RPMSG_NS_DESTROY ≠ 0 then none
            else if rdev.nsBindCb then some (.nsBind msg.name msg.addr) else none)
      | some ref =>
          if msg.flags &&& RPMSG_NS_DESTROY ≠ 0 then
            (rdev.setDestAddr ref RPMSG_ADDR_ANY,
              if (rdev.ept ref).nsUnbindCb then some (.nsUnbind ref ept) else none)
          else
            (rdev.setDestAddr ref msg.addr, none) := by
  have hgood : ¬ data.length ≠ RPMSG_NS_MSG_SIZE := not_not.mpr hlen
  simp only [rpmsgVirtioNsCallback, if_neg hgood, hmsg, rpmsgGetEndpoint_name haddr]
  cases rdev.firstCandidate msg.name msg.addr with
  | none =>
      simp only
      split_ifs <;> rfl
  | some ref =>
      simp only [Rdev.ept_setDestAddr, if_true]

theorem Rdev.announced_none (h : rdev.firstCandidate msg.name msg.addr = none) :
    rdev.Announced msg (rdev, if msg.flags &&& RPMSG_NS_DESTROY ≠ 0 then none
      else if rdev.nsBindCb then some (.nsBind msg.name msg.addr) else none) := by
  have hbound : ¬ ∃ ref ∈ rdev.endpoints, rdev.Named msg.name ref ∧ rdev.BoundTo msg.addr ref := by
    rintro ⟨ref, href, hname, hb⟩
    exact Rdev.not_of_firstCandidate h href hname (.inl hb)
  have hunbound : ¬ ∃ ref ∈ rdev.endpoints, rdev.Named msg.name ref ∧ rdev.Unbound ref := by
    rintro ⟨ref, href, hname, hu⟩
    exact Rdev.not_of_firstCandidate h href hname (.inr hu)
  rw [Rdev.Announced, if_neg hbound]
  by_cases hdestroy : msg.flags &&& RPMSG_NS_DESTROY ≠ 0
  · simp only [if_pos hdestroy]
  · simp only [if_neg hdestroy, if_neg hunbound]

theorem Rdev.announced_bound (href : ref ∈ rdev.endpoints) (hname : rdev.Named msg.name ref)
    (hbound : rdev.BoundTo msg.addr ref) (call : Option AppCall)
    (hcall : ∀ owner ept, call = some (.nsUnbind owner ept) → owner = ref) :
    rdev.Announced msg (if msg.flags &&& RPMSG_NS_DESTROY ≠ 0 then
      (rdev.setDestAddr ref RPMSG_ADDR_ANY, call) else (rdev.setDestAddr ref msg.addr, none)) := by
  rw [Rdev.Announced, if_pos ⟨ref, href, hname, hbound⟩]
  by_cases hdestroy : msg.flags &&& RPMSG_NS_DESTROY ≠ 0
  · simp only [if_pos hdestroy]
    refine ⟨ref, href, hname, hbound, rfl, fun owner ept howner => ?_⟩
    rw [hcall owner ept howner]
    exact hbound
  · simp only [if_neg hdestroy]
    rw [Rdev.setDestAddr_self hbound.1]

/-- The announcement finds an unbound endpoint though another one is bound to the address. -/
theorem Rdev.not_announced_of_unbound (hunbound : rdev.Unbound ref)
    (hbound : ∃ ref ∈ rdev.endpoints, rdev.Named msg.name ref ∧ rdev.BoundTo msg.addr ref)
    (call : Option AppCall) :
    ¬ rdev.Announced msg (if msg.flags &&& RPMSG_NS_DESTROY ≠ 0 then
      (rdev.setDestAddr ref RPMSG_ADDR_ANY, call) else (rdev.setDestAddr ref msg.addr, none)) := by
  rw [Rdev.Announced, if_pos hbound]
  by_cases hdestroy : msg.flags &&& RPMSG_NS_DESTROY ≠ 0
  · simp only [if_pos hdestroy, Rdev.setDestAddr_self hunbound]
    rintro ⟨other, -, -, hother, heq, -⟩
    have hdest := rdev.destAddr_setDestAddr other RPMSG_ADDR_ANY
    rw [← heq, hother.1] at hdest
    exact hother.2 hdest
  · simp only [if_neg hdestroy]
    intro heq
    obtain ⟨other, -, -, -, hdest⟩ := hbound
    have hself := rdev.destAddr_setDestAddr ref msg.addr
    rw [(Prod.mk.inj heq).1, hunbound] at hself
    exact hdest hself.symm

/-- The announcement finds an unbound endpoint, and none is bound to the address. -/
theorem Rdev.announced_iff_of_unbound (href : ref ∈ rdev.endpoints)
    (hname : rdev.Named msg.name ref) (hunbound : rdev.Unbound ref)
    (hbound : ¬ ∃ ref ∈ rdev.endpoints, rdev.Named msg.name ref ∧ rdev.BoundTo msg.addr ref)
    (call : Option AppCall) :
    rdev.Announced msg (if msg.flags &&& RPMSG_NS_DESTROY ≠ 0 then
      (rdev.setDestAddr ref RPMSG_ADDR_ANY, call) else (rdev.setDestAddr ref msg.addr, none)) ↔
      (msg.flags &&& RPMSG_NS_DESTROY ≠ 0 → call = none) := by
  rw [Rdev.Announced, if_neg hbound]
  by_cases hdestroy : msg.flags &&& RPMSG_NS_DESTROY ≠ 0
  · simp only [if_pos hdestroy, Rdev.setDestAddr_self hunbound, Prod.mk.injEq, true_and]
    exact ⟨fun hcall _ => hcall, fun hcall => hcall hdestroy⟩
  · simp only [if_neg hdestroy, if_pos (⟨ref, href, hname, hunbound⟩ :
      ∃ ref ∈ rdev.endpoints, rdev.Named msg.name ref ∧ rdev.Unbound ref)]
    exact ⟨fun _ hyes => absurd hyes hdestroy, fun _ => ⟨ref, href, hname, hunbound, rfl⟩⟩

end Announcements

/-- An announcement does to the endpoints what it is to do exactly when the endpoint that is meant is
the first one that can be. No endpoint of a device has the address `RPMSG_ADDR_ANY`. -/
theorem announcement_addressed {rdev : Rdev}
    (haddr : ∀ ref ∈ rdev.endpoints, (rdev.ept ref).addr ≠ RPMSG_ADDR_ANY) (ept : EptRef)
    {data : List UInt8} (hlen : data.length = RPMSG_NS_MSG_SIZE) :
    rdev.Announced (RpmsgNsMsg.ofBytes data) (rpmsgVirtioNsCallback rdev ept data) ↔
      rdev.InOrder (RpmsgNsMsg.ofBytes data) := by
  generalize hmsg : RpmsgNsMsg.ofBytes data = msg
  rw [rpmsgVirtioNsCallback_eq haddr hlen hmsg, Rdev.InOrder]
  cases hfound : rdev.firstCandidate msg.name msg.addr with
  | none =>
      refine ⟨fun _ => ?_, fun _ => Rdev.announced_none hfound⟩
      split_ifs <;> simp
  | some ref =>
      obtain ⟨href, hname, hcandidate⟩ := Rdev.mem_of_firstCandidate hfound
      by_cases hb : rdev.BoundTo msg.addr ref
      · have hexists : ∃ ref ∈ rdev.endpoints,
            rdev.Named msg.name ref ∧ rdev.BoundTo msg.addr ref := ⟨ref, href, hname, hb⟩
        rw [if_pos hexists]
        refine ⟨fun _ other hother => ?_, fun _ =>
          Rdev.announced_bound href hname hb _ fun owner ept howner => ?_⟩
        · rw [← Option.some.inj hother]
          exact hb
        · split_ifs at howner
          exact (AppCall.nsUnbind.inj (Option.some.inj howner)).1.symm
      · have hunbound := hcandidate.resolve_left hb
        by_cases hexists : ∃ ref ∈ rdev.endpoints,
            rdev.Named msg.name ref ∧ rdev.BoundTo msg.addr ref
        · rw [if_pos hexists]
          refine ⟨fun h => absurd h (Rdev.not_announced_of_unbound hunbound hexists _),
            fun h => absurd (h ref rfl) hb⟩
        · rw [if_neg hexists]
          refine (Rdev.announced_iff_of_unbound href hname hunbound hexists _).trans
            (forall_congr' fun _ => ?_)
          constructor
          · intro hcall other hother
            rw [← Option.some.inj hother]
            simpa using hcall
          · intro hno
            simp [hno ref rfl]

/-- Two endpoints of one name, registered one after the other with these destinations. -/
def sameNamed (dest dest' : UInt32) : Rdev :=
  let rdev := rpmsgInitEndpoints true false
  let rdev := (rpmsgCreateEpt rdev (some (.user 0)) (some [120]) RPMSG_ADDR_ANY dest true 40).1
  (rpmsgCreateEpt rdev (some (.user 1)) (some [120]) RPMSG_ADDR_ANY dest' true 40).1

/-- The endpoint that is bound was registered first. -/
theorem announcement_addressed_in_order :
    (sameNamed 1024 RPMSG_ADDR_ANY).Announced (RpmsgNsMsg.ofBytes
        (RpmsgNsMsg.mk (strncpy [120]) 1024 RPMSG_NS_DESTROY).bytes)
      (rpmsgVirtioNsCallback (sameNamed 1024 RPMSG_ADDR_ANY) .nsEpt
        (RpmsgNsMsg.mk (strncpy [120]) 1024 RPMSG_NS_DESTROY).bytes) := by
  refine (announcement_addressed (by decide +kernel) .nsEpt (by decide +kernel)).mpr ?_
  have hbound : ∃ ref ∈ (sameNamed 1024 RPMSG_ADDR_ANY).endpoints,
      (sameNamed 1024 RPMSG_ADDR_ANY).Named (RpmsgNsMsg.ofBytes
        (RpmsgNsMsg.mk (strncpy [120]) 1024 RPMSG_NS_DESTROY).bytes).name ref ∧
      (sameNamed 1024 RPMSG_ADDR_ANY).BoundTo (RpmsgNsMsg.ofBytes
        (RpmsgNsMsg.mk (strncpy [120]) 1024 RPMSG_NS_DESTROY).bytes).addr ref := by
    decide +kernel
  have hfirst : (sameNamed 1024 RPMSG_ADDR_ANY).firstCandidate
      (RpmsgNsMsg.ofBytes (RpmsgNsMsg.mk (strncpy [120]) 1024 RPMSG_NS_DESTROY).bytes).name
      (RpmsgNsMsg.ofBytes (RpmsgNsMsg.mk (strncpy [120]) 1024 RPMSG_NS_DESTROY).bytes).addr =
      some (.user 0) := by
    decide +kernel
  rw [Rdev.InOrder, if_pos hbound]
  intro ref href
  obtain rfl := Option.some.inj (hfirst.symm.trans href)
  decide +kernel

/-- The endpoint that is bound was registered second: it stays bound, and the callback of the other
one is called. -/
theorem announcement_misaddressed :
    (rpmsgVirtioNsCallback (sameNamed RPMSG_ADDR_ANY 1024) .nsEpt
        (RpmsgNsMsg.mk (strncpy [120]) 1024 RPMSG_NS_DESTROY).bytes).2 =
        some (.nsUnbind (.user 0) .nsEpt) ∧
      ¬ (sameNamed RPMSG_ADDR_ANY 1024).Announced (RpmsgNsMsg.ofBytes
          (RpmsgNsMsg.mk (strncpy [120]) 1024 RPMSG_NS_DESTROY).bytes)
        (rpmsgVirtioNsCallback (sameNamed RPMSG_ADDR_ANY 1024) .nsEpt
          (RpmsgNsMsg.mk (strncpy [120]) 1024 RPMSG_NS_DESTROY).bytes) := by
  have hcall : (rpmsgVirtioNsCallback (sameNamed RPMSG_ADDR_ANY 1024) .nsEpt
      (RpmsgNsMsg.mk (strncpy [120]) 1024 RPMSG_NS_DESTROY).bytes).2 =
      some (.nsUnbind (.user 0) .nsEpt) := by
    decide +kernel
  have hbound : ∃ ref ∈ (sameNamed RPMSG_ADDR_ANY 1024).endpoints,
      (sameNamed RPMSG_ADDR_ANY 1024).Named (RpmsgNsMsg.ofBytes
        (RpmsgNsMsg.mk (strncpy [120]) 1024 RPMSG_NS_DESTROY).bytes).name ref ∧
      (sameNamed RPMSG_ADDR_ANY 1024).BoundTo (RpmsgNsMsg.ofBytes
        (RpmsgNsMsg.mk (strncpy [120]) 1024 RPMSG_NS_DESTROY).bytes).addr ref := by
    decide +kernel
  have hdestroy : (RpmsgNsMsg.ofBytes
      (RpmsgNsMsg.mk (strncpy [120]) 1024 RPMSG_NS_DESTROY).bytes).flags &&& RPMSG_NS_DESTROY ≠ 0 := by
    decide +kernel
  refine ⟨hcall, ?_⟩
  rw [Rdev.Announced, if_pos hbound, if_pos hdestroy]
  rintro ⟨ref, -, -, -, -, hnotified⟩
  exact absurd (hnotified _ _ hcall) (by decide +kernel)

/-! ### Which endpoint is torn down -/

/-- A message that unbinds an endpoint of the application unregisters that endpoint, and a message
unregisters no other endpoint; the name service goes on receiving. -/
def Rdev.TearsDown (rdev : Rdev) : NsAction → Prop
  | .create _ _ _ _ _ => True
  | .destroy _ => True
  | .receive msg =>
      rpmsgGetEptFromAddr (rdev.receive msg) RPMSG_NS_EPT_ADDR = some .nsEpt ∧
        (rdev.receive msg).endpoints =
          match rdev.unboundBy msg with
          | some (.user i) => rdev.endpoints.erase (.user i)
          | some .nsEpt | none => rdev.endpoints

/-- The message is not a DESTROY that matches an endpoint of the application. -/
def Rdev.UnbindsNone (rdev : Rdev) : NsAction → Prop
  | .create _ _ _ _ _ => True
  | .destroy _ => True
  | .receive msg => ∀ i, rdev.unboundBy msg ≠ some (.user i)

/-- A device whose name service is registered first. -/
structure Rdev.NsReady (rdev : Rdev) : Prop where
  inv : rdev.Inv
  head : ∃ rest, rdev.endpoints = .nsEpt :: rest
  addr : (rdev.ept .nsEpt).addr = RPMSG_NS_EPT_ADDR
  cb : (rdev.ept .nsEpt).cb = .nsCallback
  noUnbind : (rdev.ept .nsEpt).nsUnbindCb = false
  userCb : ∀ i, .user i ∈ rdev.endpoints → (rdev.ept (.user i)).cb = .user
  userUnbind : ∀ i, .user i ∈ rdev.endpoints → (rdev.ept (.user i)).nsUnbindCb = true

section TearDown

variable {rdev rdev' : Rdev} {ref : EptRef} {msg : RxMessage}

theorem Rdev.NsReady.setDestAddr (h : rdev.NsReady) (ref : EptRef) (destAddr : UInt32) :
    (rdev.setDestAddr ref destAddr).NsReady := by
  have hsame : ∀ other, ((rdev.setDestAddr ref destAddr).ept other).addr = (rdev.ept other).addr ∧
      ((rdev.setDestAddr ref destAddr).ept other).cb = (rdev.ept other).cb ∧
      ((rdev.setDestAddr ref destAddr).ept other).nsUnbindCb = (rdev.ept other).nsUnbindCb := by
    intro other
    rw [Rdev.ept_setDestAddr]
    split_ifs with heq
    · rw [heq]
      exact ⟨rfl, rfl, rfl⟩
    · exact ⟨rfl, rfl, rfl⟩
  exact
    { inv := h.inv.setDestAddr ref destAddr
      head := h.head
      addr := (hsame _).1.trans h.addr
      cb := (hsame _).2.1.trans h.cb
      noUnbind := (hsame _).2.2.trans h.noUnbind
      userCb := fun i hi => (hsame _).2.1.trans (h.userCb i hi)
      userUnbind := fun i hi => (hsame _).2.2.trans (h.userUnbind i hi) }

theorem Rdev.NsReady.learnDestAddr (h : rdev.NsReady) (ref : EptRef) (src : UInt32) :
    (rdev.learnDestAddr ref src).NsReady := by
  rw [Rdev.learnDestAddr]
  split_ifs
  · exact h.setDestAddr ref src
  · exact h

theorem Rdev.endpoints_learnDestAddr (rdev : Rdev) (ref : EptRef) (src : UInt32) :
    (rdev.learnDestAddr ref src).endpoints = rdev.endpoints := by
  rw [Rdev.learnDestAddr]
  split_ifs <;> rfl

theorem Rdev.NsReady.mem (h : rdev.NsReady) : EptRef.nsEpt ∈ rdev.endpoints := by
  obtain ⟨rest, hrest⟩ := h.head
  rw [hrest]
  exact List.mem_cons_self ..

theorem Rdev.NsReady.getEpt (h : rdev.NsReady) :
    rpmsgGetEptFromAddr rdev RPMSG_NS_EPT_ADDR = some .nsEpt := by
  obtain ⟨rest, hrest⟩ := h.head
  rw [rpmsgGetEptFromAddr_eq (by decide), hrest]
  exact List.find?_cons_of_pos (decide_eq_true h.addr)

/-- A message for another endpoint than the name service. -/
theorem Rdev.NsReady.receive_user (h : rdev.NsReady) (hdst : msg.dst ≠ RPMSG_NS_EPT_ADDR) :
    rdev.receive msg = rdev ∨ ∃ i, rdev.receive msg = rdev.learnDestAddr (.user i) msg.src := by
  simp only [Rdev.receive, rpmsgVirtioRxCallback]
  cases hfound : rpmsgGetEptFromAddr rdev msg.dst with
  | none => exact .inl rfl
  | some ref =>
      obtain ⟨hmem, href⟩ := h.inv.getEpt_some hfound
      cases ref with
      | nsEpt => exact absurd (href.symm.trans h.addr) hdst
      | user i =>
          have hcb := (h.learnDestAddr (.user i) msg.src).userCb i
            (by rw [Rdev.endpoints_learnDestAddr]; exact hmem)
          simp only [hcb]
          exact .inr ⟨i, rfl⟩

/-- A message for the name service. -/
theorem Rdev.NsReady.receive_ns (h : rdev.NsReady) (hdst : msg.dst = RPMSG_NS_EPT_ADDR) :
    rdev.receive msg = unbindDestroys
      (rpmsgVirtioNsCallback (rdev.learnDestAddr .nsEpt msg.src) .nsEpt msg.payload) := by
  simp only [Rdev.receive, rpmsgVirtioRxCallback, hdst, h.getEpt,
    (h.learnDestAddr .nsEpt msg.src).cb]

theorem Rdev.NsReady.addr_ne_any (h : rdev.NsReady) :
    ∀ ref ∈ rdev.endpoints, (rdev.ept ref).addr ≠ RPMSG_ADDR_ANY :=
  fun _ href => h.inv.addr_ne_any href

/-- A message that unbinds no endpoint of the application leaves all endpoints registered. -/
theorem Rdev.NsReady.receive_of_none (h : rdev.NsReady)
    (hnone : ∀ i, rdev.unboundBy msg ≠ some (.user i)) :
    (rdev.receive msg).NsReady ∧ (rdev.receive msg).endpoints = rdev.endpoints := by
  by_cases hdst : msg.dst = RPMSG_NS_EPT_ADDR
  · have h' := h.learnDestAddr .nsEpt msg.src
    have hsame := rdev.endpoints_learnDestAddr .nsEpt msg.src
    rw [h.receive_ns hdst]
    by_cases hlen : msg.payload.length = RPMSG_NS_MSG_SIZE
    · rw [rpmsgVirtioNsCallback_eq h'.addr_ne_any hlen rfl]
      cases hfound : (rdev.learnDestAddr .nsEpt msg.src).firstCandidate
          (RpmsgNsMsg.ofBytes msg.payload).name (RpmsgNsMsg.ofBytes msg.payload).addr with
      | none =>
          simp only
          split_ifs
          · exact ⟨h', hsame⟩
          · exact ⟨h', hsame⟩
          · exact ⟨h', hsame⟩
      | some ref =>
          by_cases hdestroy : (RpmsgNsMsg.ofBytes msg.payload).flags &&& RPMSG_NS_DESTROY ≠ 0
          · -- only the name service itself can have been found, and it has no unbind callback
            have hunbound : rdev.unboundBy msg = some ref := by
              rw [Rdev.unboundBy, if_pos ⟨hdst, hlen, hdestroy⟩, rpmsgGetEndpoint_name
                h'.addr_ne_any, hfound]
            obtain rfl : ref = .nsEpt := by
              cases ref with
              | nsEpt => rfl
              | user i => exact absurd hunbound (hnone i)
            simp only [if_pos hdestroy, h'.noUnbind, Bool.false_eq_true, if_false]
            exact ⟨h'.setDestAddr _ _, hsame⟩
          · simp only [if_neg hdestroy]
            exact ⟨h'.setDestAddr _ _, hsame⟩
    · rw [rpmsgVirtioNsCallback, if_pos hlen]
      exact ⟨h', hsame⟩
  · rcases h.receive_user hdst with hsame | ⟨i, hlearn⟩
    · rw [hsame]
      exact ⟨h, rfl⟩
    · rw [hlearn]
      exact ⟨h.learnDestAddr _ _, Rdev.endpoints_learnDestAddr _ _ _⟩

/-- A message that unbinds an endpoint of the application tears down the name service. -/
theorem Rdev.NsReady.receive_of_user (h : rdev.NsReady) {i : Nat}
    (hunbound : rdev.unboundBy msg = some (.user i)) :
    (rdev.receive msg).endpoints = rdev.endpoints.erase .nsEpt := by
  have h' := h.learnDestAddr .nsEpt msg.src
  rw [Rdev.unboundBy] at hunbound
  split_ifs at hunbound with hmsg
  · obtain ⟨hdst, hlen, hdestroy⟩ := hmsg
    rw [rpmsgGetEndpoint_name h'.addr_ne_any] at hunbound
    have hmem := (Rdev.mem_of_firstCandidate hunbound).1
    rw [h.receive_ns hdst, rpmsgVirtioNsCallback_eq h'.addr_ne_any hlen rfl, hunbound]
    simp only [if_pos hdestroy, h'.userUnbind i hmem, if_true]
    have hdest := h'.setDestAddr (.user i) RPMSG_ADDR_ANY
    have hregistered : ¬ (((rdev.learnDestAddr .nsEpt msg.src).setDestAddr (.user i)
        RPMSG_ADDR_ANY).ept .nsEpt).rdev = false := by
      rw [(hdest.inv.registered .nsEpt).mpr hdest.mem]
      decide
    simp only [unbindDestroys, rpmsgDestroyEpt, if_neg hregistered,
      rpmsgUnregisterEndpoint_endpoints]
    exact congrArg (fun endpoints => endpoints.erase EptRef.nsEpt)
      (rdev.endpoints_learnDestAddr .nsEpt msg.src)

theorem Rdev.NsReady.tearsDown_iff (h : rdev.NsReady) (action : NsAction) :
    rdev.TearsDown action ↔ rdev.UnbindsNone action := by
  cases action with
  | create i name src dest ret => exact Iff.rfl
  | destroy i => exact Iff.rfl
  | receive msg =>
      constructor
      · rintro ⟨hget, -⟩ i hunbound
        have hmem := List.mem_of_find?_eq_some hget
        rw [h.receive_of_user hunbound] at hmem
        exact h.inv.nodup.not_mem_erase hmem
      · intro hnone
        obtain ⟨h', hsame⟩ := h.receive_of_none hnone
        refine ⟨h'.getEpt, ?_⟩
        rw [hsame]
        split
        · next i hunbound => exact absurd hunbound (hnone i)
        · rfl
        · rfl

/-- What is kept when one object of the application has been created or destroyed. -/
theorem Rdev.NsReady.of_user (h : rdev.NsReady) (h' : rdev'.Inv) {i : Nat}
    (hother : ∀ other, other ≠ EptRef.user i → rdev'.ept other = rdev.ept other)
    (hhead : ∃ rest, rdev'.endpoints = .nsEpt :: rest)
    (hmem : ∀ other, other ≠ EptRef.user i → other ∈ rdev'.endpoints → other ∈ rdev.endpoints)
    (hnew : EptRef.user i ∈ rdev'.endpoints →
      (rdev'.ept (.user i)).cb = .user ∧ (rdev'.ept (.user i)).nsUnbindCb = true) :
    rdev'.NsReady := by
  have hns : rdev'.ept .nsEpt = rdev.ept .nsEpt := hother _ EptRef.noConfusion
  have husers : ∀ j, .user j ∈ rdev'.endpoints →
      (rdev'.ept (.user j)).cb = .user ∧ (rdev'.ept (.user j)).nsUnbindCb = true := by
    intro j hj
    by_cases heq : j = i
    · subst heq
      exact hnew hj
    · have hne : EptRef.user j ≠ .user i := fun hrefs => heq (EptRef.user.inj hrefs)
      rw [hother _ hne]
      exact ⟨h.userCb j (hmem _ hne hj), h.userUnbind j (hmem _ hne hj)⟩
  exact
    { inv := h'
      head := hhead
      addr := by rw [hns]; exact h.addr
      cb := by rw [hns]; exact h.cb
      noUnbind := by rw [hns]; exact h.noUnbind
      userCb := fun j hj => (husers j hj).1
      userUnbind := fun j hj => (husers j hj).2 }

theorem Rdev.NsReady.create (h : rdev.NsReady) {i : Nat} (hnew : EptRef.user i ∉ rdev.endpoints)
    (name : Option (List UInt8)) (src dest : UInt32) (ret : Int) :
    (rpmsgCreateEpt rdev (some (.user i)) name src dest true ret).1.NsReady := by
  have hinv := (h.inv.create (some (.user i))
    (fun ref href => Option.some.inj href ▸ hnew) name src dest true ret).1
  obtain ⟨rest, hrest⟩ := h.head
  rcases rpmsgCreateEpt_endpoints hnew name src dest true ret with hsame | ⟨happend, addr, hept⟩
  · refine h.of_user hinv (fun other hne => rpmsgCreateEpt_of_ne hne) ⟨rest, hsame.trans hrest⟩
      (fun other _ hmem => hsame ▸ hmem) fun hmem => ?_
    rw [hsame] at hmem
    exact absurd hmem hnew
  · refine h.of_user hinv (fun other hne => rpmsgCreateEpt_of_ne hne)
      ⟨rest ++ [.user i], by rw [happend, hrest]; rfl⟩ (fun other hne hmem => ?_) fun _ => ?_
    · rw [happend] at hmem
      rcases List.mem_append.mp hmem with hold | hself
      · exact hold
      · exact absurd (List.mem_singleton.mp hself) hne
    · rw [hept]
      exact ⟨rfl, rfl⟩

theorem Rdev.NsReady.destroy (h : rdev.NsReady) (i : Nat) :
    (rpmsgDestroyEpt rdev (some (.user i))).1.NsReady := by
  have hinv := h.inv.destroy (some (.user i))
  simp only [rpmsgDestroyEpt] at hinv ⊢
  by_cases hrdev : (rdev.ept (.user i)).rdev = false
  · rw [if_pos hrdev]
    exact h
  · rw [if_neg hrdev] at hinv ⊢
    obtain ⟨rest, hrest⟩ := h.head
    refine h.of_user hinv (fun other hne => rpmsgUnregisterEndpoint_of_ne hne)
      ⟨rest.erase (.user i), ?_⟩ (fun other _ hmem => List.mem_of_mem_erase hmem) fun hmem => ?_
    · rw [rpmsgUnregisterEndpoint_endpoints, hrest, List.erase_cons_tail (by simp)]
    · exact absurd hmem h.inv.nodup.not_mem_erase

theorem Rdev.NsReady.step (h : rdev.NsReady) {action : NsAction} (hgood : rdev.UnbindsNone action)
    (hstep : rdev.nsStep action = some rdev') : rdev'.NsReady := by
  cases action with
  | create i name src dest ret =>
      simp only [Rdev.nsStep] at hstep
      split_ifs at hstep with hmem
      obtain rfl := Option.some.inj hstep
      exact h.create hmem name src dest ret
  | destroy i =>
      obtain rfl := Option.some.inj hstep
      exact h.destroy i
  | receive msg =>
      obtain rfl := Option.some.inj hstep
      exact (h.receive_of_none hgood).1

theorem rpmsgInitEndpoints_nsReady (nsBindCb : Bool) :
    (rpmsgInitEndpoints true nsBindCb).NsReady := by
  refine ⟨rpmsgInitEndpoints_inv true nsBindCb, ⟨[], rfl⟩, rfl, rfl, rfl, ?_, ?_⟩
  · intro i hi
    exact absurd (List.mem_singleton.mp hi) EptRef.noConfusion
  · intro i hi
    exact absurd (List.mem_singleton.mp hi) EptRef.noConfusion

end TearDown

/-- Every DESTROY tears down the endpoint it matches, and leaves the name service in place, exactly as
long as none of them matches an endpoint of the application. -/
theorem destroy_tears_down_own (nsBindCb : Bool) (actions : List NsAction) :
    Run.Along Rdev.nsStep Rdev.TearsDown (rpmsgInitEndpoints true nsBindCb) actions ↔
      Run.Along Rdev.nsStep Rdev.UnbindsNone (rpmsgInitEndpoints true nsBindCb) actions :=
  Run.along_iff (P := Rdev.NsReady) (fun _ action h => h.tearsDown_iff action)
    (fun _ _ _ h hgood hstep => h.step hgood hstep) (rpmsgInitEndpoints_nsReady nsBindCb)

/-- A service of the peer is announced and destroyed: the endpoint bound to it stays, and the name
service is gone. -/
theorem destroy_tears_down_name_service :
    ∃ rdev : Rdev, Run.exec Rdev.nsStep (rpmsgInitEndpoints true false)
        [.create 0 (some [120]) RPMSG_ADDR_ANY RPMSG_ADDR_ANY 40,
          .receive ⟨1024, RPMSG_NS_EPT_ADDR, (RpmsgNsMsg.mk (strncpy [120]) 1024 0).bytes⟩,
          .receive ⟨1024, RPMSG_NS_EPT_ADDR, (RpmsgNsMsg.mk (strncpy [120]) 1024 1).bytes⟩] =
        some rdev ∧
      rdev.endpoints = [.user 0] ∧
      ¬ Run.Along Rdev.nsStep Rdev.TearsDown (rpmsgInitEndpoints true false)
        [.create 0 (some [120]) RPMSG_ADDR_ANY RPMSG_ADDR_ANY 40,
          .receive ⟨1024, RPMSG_NS_EPT_ADDR, (RpmsgNsMsg.mk (strncpy [120]) 1024 0).bytes⟩,
          .receive ⟨1024, RPMSG_NS_EPT_ADDR, (RpmsgNsMsg.mk (strncpy [120]) 1024 1).bytes⟩] := by
  refine ⟨_, rfl, by decide +kernel, ?_⟩
  rintro ⟨-, hcreated⟩
  obtain ⟨-, hbound⟩ := hcreated _ rfl
  obtain ⟨⟨hget, -⟩, -⟩ := hbound _ rfl
  exact absurd hget (by decide +kernel)

end OpenAmp
