import OpenAmp.SlaveInit

/-!
# Reception while a slave initialises its device
-/

namespace OpenAmp.SlaveInit

variable {rpvdev : RemoteprocVirtio} {ns : Bool} {s s' : SlaveInit}

/-! ### The statements -/

/-- `rdev` is cleared by the first statement only. -/
theorem eq_zero_of_memset {pc : Nat} (h : slaveInitStmts[pc]? = some .memset) : pc = 0 := by
  have hlt : pc < slaveInitStmts.length := (List.getElem?_eq_some_iff.mp h).1
  revert h
  revert pc
  decide

/-- The lock and the regions come before the list of endpoints. -/
theorem mem_take_of_metalListInit {pc : Nat} (h : .metalListInit ∈ slaveInitStmts.take pc) :
    .mutexInit ∈ slaveInitStmts.take pc ∧ .vqShmIo 1 ∈ slaveInitStmts.take pc := by
  by_cases hlt : pc < slaveInitStmts.length
  · revert h
    revert pc
    decide
  · rw [List.take_of_length_le (by omega)]
    decide

/-- What the device owes to the statements that have been executed. -/
structure DeviceOk (executed : List InitStmt) (device : InitDevice) : Prop where
  lock : .mutexInit ∈ executed → device.lock = true
  endpoints : .metalListInit ∈ executed → device.endpoints ≠ none
  shmIo : .vqShmIo 1 ∈ executed → (device.vqs 1).shmIo = true

theorem DeviceOk.initialised {pc : Nat} {device : InitDevice}
    (h : DeviceOk (slaveInitStmts.take pc) device)
    (hlist : .metalListInit ∈ slaveInitStmts.take pc) : device.Initialised := by
  obtain ⟨hlock, hshmIo⟩ := mem_take_of_metalListInit hlist
  exact ⟨h.lock hlock, h.endpoints hlist, h.shmIo hshmIo⟩

theorem exec_lock {stmt : InitStmt} {device : InitDevice} (hstmt : stmt ≠ .memset)
    (h : device.lock = true ∨ stmt = .mutexInit) : (stmt.exec ns device).lock = true := by
  cases stmt with
  | memset => exact absurd rfl hstmt
  | mutexInit => rfl
  | registerNsEpt =>
      have hlock : device.lock = true := h.resolve_right nofun
      unfold InitStmt.exec
      split_ifs <;> exact hlock
  | _ => exact h.resolve_right nofun

theorem exec_endpoints {stmt : InitStmt} {device : InitDevice} (hstmt : stmt ≠ .memset)
    (h : device.endpoints ≠ none ∨ stmt = .metalListInit) :
    (stmt.exec ns device).endpoints ≠ none := by
  cases stmt with
  | memset => exact absurd rfl hstmt
  | metalListInit => exact nofun
  | registerNsEpt =>
      have hendpoints : device.endpoints ≠ none := h.resolve_right nofun
      unfold InitStmt.exec
      split_ifs
      · simpa using hendpoints
      · exact hendpoints
  | _ => exact h.resolve_right nofun

theorem exec_endpoints_none {stmt : InitStmt} {device : InitDevice} (hstmt : stmt ≠ .metalListInit)
    (h : device.endpoints = none) : (stmt.exec ns device).endpoints = none := by
  cases stmt with
  | memset => rfl
  | metalListInit => exact absurd rfl hstmt
  | registerNsEpt =>
      unfold InitStmt.exec
      split_ifs
      · simp [h]
      · exact h
  | _ => exact h

theorem setVq_shmIo (device : InitDevice) (i j : Nat) (vq : InitVq) :
    ((device.setVq i vq).vqs j).shmIo = if j = i then vq.shmIo else (device.vqs j).shmIo := by
  by_cases hj : j = i
  · simp [InitDevice.setVq, hj]
  · simp [InitDevice.setVq, hj]

theorem exec_shmIo {stmt : InitStmt} {device : InitDevice}
    (h : (device.vqs 1).shmIo = true ∨ stmt = .vqShmIo 1) :
    ((stmt.exec ns device).vqs 1).shmIo = true := by
  cases stmt with
  | vqCallback i _ =>
      have hshmIo : (device.vqs 1).shmIo = true := h.resolve_right nofun
      rw [InitStmt.exec, setVq_shmIo]
      split_ifs with hi
      · rw [← hi]
        exact hshmIo
      · exact hshmIo
  | vqShmIo i =>
      rw [InitStmt.exec, setVq_shmIo]
      split_ifs with hi
      · rfl
      · exact h.resolve_right fun heq => hi (InitStmt.vqShmIo.inj heq).symm
  | registerNsEpt =>
      have hshmIo : (device.vqs 1).shmIo = true := h.resolve_right nofun
      unfold InitStmt.exec
      split_ifs <;> exact hshmIo
  | _ => exact h.resolve_right nofun

theorem DeviceOk.exec {pc : Nat} {stmt : InitStmt} {device : InitDevice}
    (h : DeviceOk (slaveInitStmts.take pc) device) (hstmt : slaveInitStmts[pc]? = some stmt) :
    DeviceOk (slaveInitStmts.take (pc + 1)) (stmt.exec ns device) := by
  by_cases hmemset : stmt = .memset
  · subst hmemset
    obtain rfl := eq_zero_of_memset hstmt
    constructor
    all_goals exact fun hmem => absurd hmem (by decide)
  · have hmem : ∀ {other}, other ∈ slaveInitStmts.take (pc + 1) →
        other ∈ slaveInitStmts.take pc ∨ stmt = other := by
      intro other hother
      rw [List.take_add_one, hstmt] at hother
      simpa [eq_comm] using hother
    exact ⟨fun hlock => exec_lock hmemset ((hmem hlock).imp_left h.lock),
      fun hlist => exec_endpoints hmemset ((hmem hlist).imp_left h.endpoints),
      fun hshmIo => exec_shmIo ((hmem hshmIo).imp_left h.shmIo)⟩

/-! ### Runs -/

/-- The call is in the receive callback. -/
def receiving : NotifyPc → Bool
  | .getRxBuffer _ | .getEpt _ _ => true
  | .vring _ | .returned => false

/-- What holds in every state of a run without an early notification: a call that receives has been
let in late. -/
structure Inv (s : SlaveInit) : Prop where
  device : DeviceOk s.executed s.device
  calls : ∀ call ∈ s.calls, receiving call.pc = true → .metalListInit ∈ s.executed

theorem inv_start (device : InitDevice) (driverOk : Bool) (inbox : List UInt32) :
    (start device driverOk inbox).Inv where
  device := by
    constructor
    all_goals exact nofun
  calls := nofun

theorem receivesInitialised_of_late {action : SlaveInitAction} (h : s.Inv)
    (hlate : s.NotifiedLate rpvdev action) : s.ReceivesInitialised rpvdev action := by
  cases action with
  | run k =>
      intro call hcall
      refine ⟨fun hruns => h.device.initialised (hlate call hcall hruns), fun i dst hpc => ?_⟩
      have hreceiving : receiving call.pc = true := by
        rw [hpc]
        rfl
      exact h.device.endpoints (h.calls call (List.mem_of_getElem? hcall) hreceiving)
  | _ => trivial

/-- What a step of a call can do: it changes nothing that the initialisation is about, and it is in
the receive callback after the step only if the step enters it or was taken in it. -/
theorem runCall_spec {k : Nat} {call : NotifyCall} (h : s.runCall rpvdev k call = some s') :
    s'.pc = s.pc ∧ s'.device = s.device ∧ ∃ pc, s'.calls = s.calls.set k { call with pc } ∧
      (receiving pc = true → call.runsRxCallback rpvdev s.device = true ∨
        receiving call.pc = true) := by
  unfold runCall at h
  obtain ⟨notifyid, pc⟩ := call
  cases pc with
  | vring i =>
      dsimp only at h
      split_ifs at h with hruns
      · cases h
        exact ⟨rfl, rfl, _, rfl, fun _ => .inl hruns⟩
      · cases h
        exact ⟨rfl, rfl, _, rfl, nofun⟩
      · cases h
        exact ⟨rfl, rfl, _, rfl, nofun⟩
  | getRxBuffer i =>
      obtain ⟨rvq, -, hget⟩ := Option.bind_eq_some_iff.mp h
      cases hinbox : s.inbox with
      | nil =>
          rw [hinbox] at hget
          cases hget
          exact ⟨rfl, rfl, _, rfl, nofun⟩
      | cons dst inbox =>
          rw [hinbox] at hget
          dsimp only at hget
          split_ifs at hget
          cases hget
          exact ⟨rfl, rfl, _, rfl, fun _ => .inr rfl⟩
  | getEpt i dst =>
      obtain ⟨endpoints, -, hget⟩ := Option.bind_eq_some_iff.mp h
      cases hget
      exact ⟨rfl, rfl, _, rfl, fun _ => .inr rfl⟩
  | returned => cases h

theorem inv_step {action : SlaveInitAction} (h : s.Inv) (hlate : s.NotifiedLate rpvdev action)
    (hstep : s.step rpvdev ns action = some s') : s'.Inv := by
  cases action with
  | init =>
      obtain ⟨stmt, hstmt, hexec⟩ := Option.bind_eq_some_iff.mp hstep
      split_ifs at hexec
      cases hexec
      refine ⟨h.device.exec hstmt, fun call hcall hreceives => ?_⟩
      have hlist := h.calls call hcall hreceives
      exact (List.take_subset_take_left slaveInitStmts (Nat.le_succ s.pc)) hlist
  | driverOk | send =>
      cases hstep
      exact ⟨h.device, h.calls⟩
  | notified notifyid =>
      cases hstep
      refine ⟨h.device, fun call hcall hreceives => ?_⟩
      rcases List.mem_append.mp hcall with hold | hnew
      · exact h.calls call hold hreceives
      · obtain rfl := List.mem_singleton.mp hnew
        unfold rprocVirtioNotifiedCall at hreceives
        split_ifs at hreceives <;> cases hreceives
  | run k =>
      obtain ⟨call, hcall, hrun⟩ := Option.bind_eq_some_iff.mp hstep
      obtain ⟨hpc, hdevice, pc, hcalls, hreceiving⟩ := runCall_spec hrun
      have hexecuted : s'.executed = s.executed := by rw [executed, executed, hpc]
      refine ⟨by rw [hexecuted, hdevice]; exact h.device, fun other hother hreceives => ?_⟩
      rw [hexecuted]
      rw [hcalls] at hother
      rcases List.mem_or_eq_of_mem_set hother with hold | rfl
      · exact h.calls other hold hreceives
      · rcases hreceiving hreceives with hruns | hwas
        · exact hlate call hcall hruns
        · exact h.calls call (List.mem_of_getElem? hcall) hwas

/-! ### The converse -/

/-- The device of a call on an uninitialised one: it has no lock, or no list of endpoints, until the
list is initialised. -/
structure Blank (s : SlaveInit) : Prop where
  lock : s.pc = 0 → s.device.lock = false
  endpoints : s.pc ≠ 0 → .metalListInit ∉ s.executed → s.device.endpoints = none

theorem blank_step {action : SlaveInitAction} (h : s.Blank)
    (hstep : s.step rpvdev ns action = some s') : s'.Blank := by
  cases action with
  | init =>
      obtain ⟨stmt, hstmt, hexec⟩ := Option.bind_eq_some_iff.mp hstep
      split_ifs at hexec
      cases hexec
      refine ⟨nofun, fun _ hlist => ?_⟩
      have hmem : ∀ other, other ∈ slaveInitStmts.take s.pc ∨ stmt = other →
          other ∈ slaveInitStmts.take (s.pc + 1) := by
        intro other hother
        rw [List.take_add_one, hstmt]
        simpa [eq_comm] using hother
      have hne : stmt ≠ .metalListInit := fun heq => hlist (hmem _ (.inr heq))
      by_cases hpc : s.pc = 0
      · obtain rfl : stmt = .memset := by
          rw [hpc] at hstmt
          exact (Option.some.inj hstmt).symm
        rfl
      · have hnone := h.endpoints hpc fun hold => hlist (hmem _ (.inl hold))
        exact exec_endpoints_none hne hnone
  | driverOk | send | notified =>
      cases hstep
      exact ⟨h.lock, h.endpoints⟩
  | run k =>
      obtain ⟨call, -, hrun⟩ := Option.bind_eq_some_iff.mp hstep
      obtain ⟨hpc, hdevice, -⟩ := runCall_spec hrun
      constructor
      · rw [hpc, hdevice]
        exact h.lock
      · rw [hpc, hdevice, executed, hpc]
        exact h.endpoints

theorem late_of_receivesInitialised {action : SlaveInitAction} (h : s.Blank)
    (hreceives : s.ReceivesInitialised rpvdev action) : s.NotifiedLate rpvdev action := by
  cases action with
  | run k =>
      intro call hcall hruns
      have hinit := (hreceives call hcall).1 hruns
      by_contra hlist
      by_cases hpc : s.pc = 0
      · exact absurd hinit.lock (by simp [h.lock hpc])
      · exact hinit.endpoints (h.endpoints hpc hlist)
  | _ => trivial

/-- In every run in which no notification reaches the receive callback before the list of endpoints
is initialised, reception finds the device initialised. On a device that was not initialised before,
there is no other such run. -/
theorem reception_initialised (rpvdev : RemoteprocVirtio) (ns : Bool) (device : InitDevice)
    (driverOk : Bool) (inbox : List UInt32) (actions : List SlaveInitAction) :
    (Run.Along (step rpvdev ns) (NotifiedLate rpvdev) (start device driverOk inbox) actions →
      Run.Along (step rpvdev ns) (ReceivesInitialised rpvdev) (start device driverOk inbox)
        actions) ∧
    (device.lock = false →
      Run.Along (step rpvdev ns) (ReceivesInitialised rpvdev) (start device driverOk inbox)
        actions →
      Run.Along (step rpvdev ns) (NotifiedLate rpvdev) (start device driverOk inbox) actions) := by
  constructor
  · refine Run.Along.imp (P := Inv) (fun s action hs => receivesInitialised_of_late hs) ?_
      (inv_start device driverOk inbox)
    intro s action s' hs hlate hstep
    exact inv_step hs hlate hstep
  · intro hlock
    have hblank : (start device driverOk inbox).Blank := ⟨fun _ => hlock, fun hne => absurd rfl hne⟩
    refine Run.Along.imp (P := Blank) (fun s action hs => late_of_receivesInitialised hs) ?_ hblank
    intro s action s' hs _ hstep
    exact blank_step hs hstep

/-- A device as it is allocated. -/
def newDevice : InitDevice :=
  ⟨false, none, false, none, fun _ => ⟨none, false⟩⟩

/-- A device whose vrings have the ids 1 and 2. -/
def twoVrings : RemoteprocVirtio := ⟨0, 0, [1, 2]⟩

/-- The master notifies the slave once before it starts and once after it is done. -/
def lateNotification : List SlaveInitAction :=
  [SlaveInitAction.notified 2, .run 0, .run 0, .run 0] ++ List.replicate 11 SlaveInitAction.init ++
    [SlaveInitAction.notified 2, .run 1, .run 1, .run 1, .run 1]

theorem reception_initialised_late :
    Run.Along (step twoVrings true) (ReceivesInitialised twoVrings)
      (start newDevice true [RPMSG_NS_EPT_ADDR]) lateNotification := by
  apply (reception_initialised twoVrings true newDevice true [RPMSG_NS_EPT_ADDR] _).1
  have hrun : ((Run.exec (Run.guarded (NotifiedLate twoVrings) (step twoVrings true))
      (start newDevice true [RPMSG_NS_EPT_ADDR]) lateNotification).map fun s => s.received) =
      some [(RPMSG_NS_EPT_ADDR, true)] := by decide +kernel
  obtain ⟨s, hexec, -⟩ := Option.map_eq_some_iff.mp hrun
  exact Run.along_of_exec hexec

/-- A notification after the regions have been set, up to the search for the endpoint. -/
def earlyNotification : List SlaveInitAction :=
  List.replicate 9 SlaveInitAction.init ++ [SlaveInitAction.notified 2, .run 0, .run 0, .run 0]

/-- The callback runs without a list of endpoints, and it has a message to look up in it. -/
theorem reception_uninitialised :
    (∃ s, Run.exec (step twoVrings true) (start newDevice true [RPMSG_NS_EPT_ADDR])
        earlyNotification = some s ∧
      s.calls = [⟨2, .getEpt 1 RPMSG_NS_EPT_ADDR⟩] ∧ s.device.endpoints = none) ∧
    ¬ Run.Along (step twoVrings true) (ReceivesInitialised twoVrings)
      (start newDevice true [RPMSG_NS_EPT_ADDR])
      (earlyNotification ++ [SlaveInitAction.run 0]) := by
  have hrun : (Run.exec (step twoVrings true) (start newDevice true [RPMSG_NS_EPT_ADDR])
      earlyNotification).map (fun s => (s.calls, s.device.endpoints)) =
      some ([⟨2, .getEpt 1 RPMSG_NS_EPT_ADDR⟩], none) := by decide +kernel
  obtain ⟨s, hexec, hobs⟩ := Option.map_eq_some_iff.mp hrun
  obtain ⟨hcalls, hendpoints⟩ := Prod.mk.inj hobs
  refine ⟨⟨s, hexec, hcalls, hendpoints⟩, fun halong => ?_⟩
  have hreceives := halong.holds_of_exec hexec ⟨2, .getEpt 1 RPMSG_NS_EPT_ADDR⟩ (by rw [hcalls]; rfl)
  exact hreceives.2 1 RPMSG_NS_EPT_ADDR rfl hendpoints

end OpenAmp.SlaveInit
