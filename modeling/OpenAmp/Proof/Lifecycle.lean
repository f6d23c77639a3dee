import OpenAmp.Lifecycle
import OpenAmp.Proof.LoadRounds

/-!
# The state of an instance and the processor behind it

When the state of an instance tells the truth about the callbacks of the platform, and when a
processor is started with firmware. Both are decided call by call, so that each result is an
equivalence along every run.
-/

namespace OpenAmp

open Stateful

section History

variable (rproc : RemoteprocLcm) (event : LcmEvent)

@[simp] theorem record_state : (rproc.record event).state = rproc.state := rfl

@[simp] theorem record_lock : (rproc.record event).lock = rproc.lock := rfl

@[simp] theorem latestConfig_record :
    latestConfig (rproc.record event).history =
      event.configRet?.or (latestConfig rproc.history) := by
  unfold latestConfig RemoteprocLcm.record
  cases hret : event.configRet? <;> simp [hret]

@[simp] theorem latestStop_record :
    latestStop (rproc.record event).history = event.stopRet?.or (latestStop rproc.history) := by
  unfold latestStop RemoteprocLcm.record
  cases hret : event.stopRet? <;> simp [hret]

@[simp] theorem latestTurn_record :
    latestTurn (rproc.record event).history =
      if event.turns then some event else latestTurn rproc.history := by
  unfold latestTurn RemoteprocLcm.record
  cases hturns : event.turns <;> simp [hturns]

@[simp] theorem latestLoad_record :
    latestLoad (rproc.record event).history =
      if event.loads then some event else latestLoad rproc.history := by
  unfold latestLoad RemoteprocLcm.record
  cases hloads : event.loads <;> simp [hloads]

end History

/-- What `remoteproc_shutdown` does: nothing, a `stop` that fails, or a `stop` where it is needed and
then the `shutdown`. -/
theorem remoteprocShutdown_cases (ops : RemoteprocOps) (stopRet shutdownRet : Int)
    (rproc : RemoteprocLcm) :
    (rproc.state = .offline ∧
      remoteprocShutdown ops stopRet shutdownRet rproc = (0, rproc)) ∨
    (rproc.state ≠ .stopped ∧ rproc.state ≠ .offline ∧ stopRet ≠ 0 ∧
      remoteprocShutdown ops stopRet shutdownRet rproc =
        (stopRet, rproc.record (.stop stopRet))) ∨
    ∃ rproc', rproc.state ≠ .offline ∧
      ((rproc' = rproc ∧ (rproc.state = .stopped ∨ ops.stop = false)) ∨
        (rproc' = rproc.record (.stop 0) ∧ rproc.state ≠ .stopped ∧ ops.stop = true ∧
          stopRet = 0)) ∧
      ((ops.shutdown = true ∧ shutdownRet ≠ 0 ∧
          remoteprocShutdown ops stopRet shutdownRet rproc =
            (shutdownRet, rproc'.record (.shutdown shutdownRet))) ∨
        remoteprocShutdown ops stopRet shutdownRet rproc = (0, { rproc' with state := .offline }) ∨
        remoteprocShutdown ops stopRet shutdownRet rproc =
          (0, { rproc'.record (.shutdown 0) with state := .offline })) := by
  by_cases hstate : rproc.state = .offline
  · exact .inl ⟨hstate, by simp [remoteprocShutdown, hstate]⟩
  refine .inr ?_
  by_cases hstop : rproc.state ≠ .stopped ∧ ops.stop = true
  · by_cases hstopRet : stopRet = 0
    · refine .inr ⟨_, hstate, .inr ⟨rfl, hstop.1, hstop.2, hstopRet⟩, ?_⟩
      by_cases hshutdown : ops.shutdown = true
      · by_cases hshutdownRet : shutdownRet = 0
        · exact .inr (.inr (by simp [remoteprocShutdown, *]))
        · exact .inl ⟨hshutdown, hshutdownRet, by simp [remoteprocShutdown, *]⟩
      · exact .inr (.inl (by simp [remoteprocShutdown, *]))
    · exact .inl ⟨hstop.1, hstate, hstopRet, by simp [remoteprocShutdown, *]⟩
  · have hskip : rproc.state = .stopped ∨ ops.stop = false := by
      by_cases hstopped : rproc.state = .stopped
      · exact .inl hstopped
      · exact .inr (Bool.eq_false_iff.mpr fun hops => hstop ⟨hstopped, hops⟩)
    refine .inr ⟨_, hstate, .inl ⟨rfl, hskip⟩, ?_⟩
    by_cases hshutdown : ops.shutdown = true
    · by_cases hshutdownRet : shutdownRet = 0
      · exact .inr (.inr (by simp [remoteprocShutdown, *]))
      · exact .inl ⟨hshutdown, hshutdownRet, by simp [remoteprocShutdown, *]⟩
    · exact .inr (.inl (by simp [remoteprocShutdown, *]))

/-! ### The loaders -/

section Loaders

variable {env : LoaderEnv} {store : ImageStore} {target target' : Target} {ret : Int}

theorem imageData_rproc (env : LoaderEnv) (store : ImageStore) (rproc : Remoteproc) :
    (imageData env store).All fun _ => Preserves fun target => target.rproc = rproc where
  loadData _ _ h := h
  load _ _ _ h := h
  mmap da size io target h := by
    change (ite _ _ _ : Target).rproc = rproc
    split_ifs <;> exact h
  loadTarget _ _ _ _ h := h
  blockSet _ _ _ _ _ _ h := h

theorem dataLoop_body_rproc (env : LoaderEnv) (store : ImageStore) (s : DataLoop) :
    (afterRound (DataLoop.body env store s)).target.rproc = s.target.rproc := by
  obtain ⟨vars, hafter⟩ := afterRound_withWorld DataLoop.mk ((imageData env store).round s.toDataVars)
    s.target
  rw [DataLoop.body, hafter]
  exact (imageData_rproc env store s.target.rproc).round (closed_preserves _) _ _ rfl

theorem dataLoop_returns_rproc {s data : DataLoop} {exit : LoopExit}
    (hreturns : Loop.Returns (DataLoop.body env store) s (data, exit)) :
    data.target.rproc = s.target.rproc :=
  hreturns.along (P := fun round => (afterRound round).target.rproc = s.target.rproc) rfl
    fun t _ ht => (dataLoop_body_rproc env store t).trans ht

/-- `remoteproc_load` acts on the state as the life cycle has it. -/
theorem remoteprocLoad_lcm {rounds : Nat}
    (hload : remoteprocLoad env rounds store target = some (ret, target')) :
    ∃ completed status, ∀ rproc : RemoteprocLcm, rproc.state = target.rproc.state →
      (remoteprocLoadLcm completed status rproc).1 = ret ∧
        (remoteprocLoadLcm completed status rproc).2.state = target'.rproc.state := by
  have hgives : target'.rproc.state = target.rproc.state →
      (¬ (target.rproc.state ≠ .ready ∧ target.rproc.state ≠ .configured) ∨ ret = -RPROC_EINVAL) →
      ∀ rproc : RemoteprocLcm, rproc.state = target.rproc.state →
        (remoteprocLoadLcm false ret rproc).1 = ret ∧
          (remoteprocLoadLcm false ret rproc).2.state = target'.rproc.state := by
    intro hsame hret rproc hstate
    unfold remoteprocLoadLcm
    rw [hstate, if_neg Bool.false_ne_true]
    split_ifs with hrefused
    · exact ⟨(hret.resolve_left fun h => h hrefused).symm, hstate.trans hsame.symm⟩
    · exact ⟨rfl, hstate.trans hsame.symm⟩
  unfold remoteprocLoad at hload
  dsimp only at hload
  split_ifs at hload with hstate
  · obtain ⟨rfl, rfl⟩ := Prod.mk.inj (Option.some.inj hload)
    exact ⟨false, _, hgives rfl (.inr rfl)⟩
  · obtain ⟨rfl, rfl⟩ := Prod.mk.inj (Option.some.inj hload)
    exact ⟨false, _, hgives rfl (.inr rfl)⟩
  · obtain ⟨rfl, rfl⟩ := Prod.mk.inj (Option.some.inj hload)
    exact ⟨false, _, hgives rfl (.inr rfl)⟩
  · obtain ⟨headers, -, hrest⟩ := Option.bind_eq_some_iff.mp hload
    match headers, hrest with
    | (_, .error status), hrest =>
        obtain ⟨rfl, rfl⟩ := Prod.mk.inj (Option.some.inj hrest)
        exact ⟨false, _, hgives rfl (.inl hstate)⟩
    | (headers, .leave), hrest =>
        obtain ⟨info, -, hdata⟩ := Option.bind_eq_some_iff.mp hrest
        obtain ⟨outcome, hrun, hend⟩ := Option.bind_eq_some_iff.mp hdata
        match outcome, hrun, hend with
        | (data, .error status), hrun, hend =>
            have hsame : data.target.rproc = { target.rproc with loader := true } :=
              dataLoop_returns_rproc ⟨rounds, hrun⟩
            dsimp only at hend
            split at hend
            · exact absurd hend nofun
            · obtain ⟨rfl, rfl⟩ := Prod.mk.inj (Option.some.inj hend)
              refine ⟨false, _, hgives ?_ (.inl hstate)⟩
              rw [hsame]
        | (data, .leave), hrun, hend =>
            obtain ⟨info', -, hfinal⟩ := Option.bind_eq_some_iff.mp hend
            obtain ⟨updated, -, hlast⟩ := Option.bind_eq_some_iff.mp hfinal
            obtain ⟨rfl, rfl⟩ := Prod.mk.inj (Option.some.inj hlast)
            refine ⟨true, 0, fun rproc hsame => ?_⟩
            unfold remoteprocLoadLcm
            rw [hsame, if_neg hstate]
            exact ⟨rfl, rfl⟩

theorem noblockComplete_rproc (env : LoaderEnv) (info : ElfInfo) (lastLoadState : Nat)
    (vars : NoblockVars) (target : Target) :
    ∃ bootaddr, (noblockComplete env info lastLoadState vars target).target.rproc =
      { target.rproc with bootaddr } := by
  unfold noblockComplete
  dsimp only
  repeat' split
  all_goals exact ⟨_, rfl⟩

theorem noblockData_rproc {imgData : Option (List UInt8)} {offset len lastLoadState : Nat}
    {imgInfo : Option ElfInfo} {vars : NoblockVars} {out : NoblockOut}
    (hdata : noblockData env imgData offset len imgInfo lastLoadState vars target = some out) :
    ∃ bootaddr, out.target.rproc = { target.rproc with bootaddr } := by
  have hcomplete : ∀ {imgInfo : Option ElfInfo} {lastLoadState vars} (target' : Target),
      target'.rproc = target.rproc →
      (imgInfo.bind fun info => some (noblockComplete env info lastLoadState vars target')) =
        some out → ∃ bootaddr, out.target.rproc = { target.rproc with bootaddr } := by
    intro imgInfo lastLoadState vars target' hsame hbind
    obtain ⟨info, -, hout⟩ := Option.bind_eq_some_iff.mp hbind
    obtain rfl := Option.some.inj hout
    rw [← hsame]
    exact noblockComplete_rproc env info lastLoadState vars target'
  unfold noblockData at hdata
  split at hdata
  · obtain ⟨⟨status | lastLoadState, imgInfo, vars⟩, -, hrest⟩ := Option.bind_eq_some_iff.mp hdata
    · obtain rfl := Option.some.inj hrest
      exact ⟨_, rfl⟩
    · dsimp only at hrest
      split at hrest
      · split at hrest
        · obtain rfl := Option.some.inj hrest
          exact ⟨_, rfl⟩
        · split at hrest
          · obtain rfl := Option.some.inj hrest
            exact ⟨_, rfl⟩
          · exact hcomplete { target with mapped := target.mapped ++ [(vars.da, vars.nmemsize)] }
              rfl hrest
      · split at hrest
        · obtain rfl := Option.some.inj hrest
          exact ⟨_, rfl⟩
        · exact hcomplete target rfl hrest
  · exact hcomplete target rfl hdata

/-- A call of `remoteproc_load_noblock` writes two fields of the instance, and it is refused in any
state but `RPROC_READY`. -/
theorem remoteprocLoadNoblock_rproc {imgData : Option (List UInt8)} {offset len : Nat}
    {imgInfo : Option ElfInfo} {vars : NoblockVars} {out : NoblockOut}
    (hload : remoteprocLoadNoblock env imgData offset len imgInfo vars target = some out) :
    (∃ loader bootaddr, out.target.rproc = { target.rproc with loader, bootaddr }) ∧
      (target.rproc.state ≠ .ready → out.ret = -RPROC_EINVAL) := by
  unfold remoteprocLoadNoblock at hload
  dsimp only at hload
  split at hload
  · obtain rfl := Option.some.inj hload
    exact ⟨⟨_, _, rfl⟩, fun _ => rfl⟩
  · rename_i hready
    refine ⟨?_, fun hne => absurd hne hready⟩
    split at hload
    · obtain rfl := Option.some.inj hload
      exact ⟨_, _, rfl⟩
    · split at hload
      · obtain ⟨header, -, hrest⟩ := Option.bind_eq_some_iff.mp hload
        split at hrest
        · obtain rfl := Option.some.inj hrest
          exact ⟨_, _, rfl⟩
        · split at hrest
          · obtain rfl := Option.some.inj hrest
            exact ⟨_, _, rfl⟩
          · obtain ⟨bootaddr, hrproc⟩ := noblockData_rproc hrest
            exact ⟨_, bootaddr, hrproc⟩
      · obtain ⟨bootaddr, hrproc⟩ := noblockData_rproc hload
        exact ⟨_, bootaddr, hrproc⟩

theorem remoteprocLoadNoblock_lcm {imgData : Option (List UInt8)} {offset len : Nat}
    {imgInfo : Option ElfInfo} {vars : NoblockVars} {out : NoblockOut}
    (hload : remoteprocLoadNoblock env imgData offset len imgInfo vars target = some out) :
    ∃ completed status, ∀ rproc : RemoteprocLcm, rproc.state = target.rproc.state →
      (remoteprocLoadNoblockLcm completed status rproc).1 = out.ret ∧
        (remoteprocLoadNoblockLcm completed status rproc).2.state = out.target.rproc.state := by
  obtain ⟨⟨loader, bootaddr, hrproc⟩, hrefuses⟩ := remoteprocLoadNoblock_rproc hload
  have hstate : out.target.rproc.state = target.rproc.state := by rw [hrproc]
  refine ⟨false, out.ret, fun rproc hsame => ?_⟩
  unfold remoteprocLoadNoblockLcm
  rw [hsame, if_neg Bool.false_ne_true]
  split_ifs with hrefused
  · exact ⟨(hrefuses hrefused).symm, hsame.trans hstate.symm⟩
  · exact ⟨rfl, hsame.trans hstate.symm⟩

end Loaders

/-! ### The state tells the truth -/

/-- The state says of the processor what the callbacks have reported. -/
structure RemoteprocLcm.Truthful (rproc : RemoteprocLcm) : Prop where
  running : rproc.state = .running → latestTurn rproc.history = some (.start 0)
  stopped : rproc.state = .stopped → ∀ ret ∈ latestStop rproc.history, ret = 0
  ready : rproc.state = .ready → ∀ ret ∈ latestConfig rproc.history, ret = 0

/-- The state is truthful after a call, and a call that returns an error leaves the state and the
lock as they were. -/
structure LcmAction.Truthful (ops : RemoteprocOps) (rproc : RemoteprocLcm) (action : LcmAction) :
    Prop where
  after : (rproc.call ops action).2.Truthful
  unchanged : (rproc.call ops action).1 ≠ 0 →
    (rproc.call ops action).2.state = rproc.state ∧ (rproc.call ops action).2.lock = rproc.lock

/-- No callback fails in a call that updates the state all the same, `stop` is not missing where it
is needed, `shutdown` does not fail after a `stop` of a running processor, and an instance is only
removed offline. -/
def LcmAction.Reported (ops : RemoteprocOps) (rproc : RemoteprocLcm) : LcmAction → Prop
  | .config configRet => rproc.state = .offline → ops.config = true → configRet = 0
  | .start startRet => rproc.state = .ready → startRet = 0
  | .stop stopRet =>
      rproc.state ≠ .stopped → rproc.state ≠ .offline → ops.stop = true ∧ stopRet = 0
  | .shutdown stopRet shutdownRet =>
      rproc.state = .running → ops.stop = true → stopRet = 0 → ops.shutdown = true →
        shutdownRet = 0
  | .remove => rproc.lock = true → rproc.state = .offline
  | .load _ _ | .loadNoblock _ _ => True

/-- What holds before each call of a run whose calls are all reported: the state is truthful, and no
`config` has failed. -/
structure LcmInv (rproc : RemoteprocLcm) : Prop extends rproc.Truthful where
  config : ∀ ret ∈ latestConfig rproc.history, ret = 0

section Truthful

variable {ops : RemoteprocOps} {rproc : RemoteprocLcm}

theorem lcmInv_init : LcmInv remoteprocInit := by
  refine ⟨⟨nofun, nofun, nofun⟩, nofun⟩

/-- A call keeps the invariant, and an error leaves the state and the lock alone. -/
def Keeps (rproc : RemoteprocLcm) (outcome : Int × RemoteprocLcm) : Prop :=
  LcmInv outcome.2 ∧
    (outcome.1 ≠ 0 → outcome.2.state = rproc.state ∧ outcome.2.lock = rproc.lock)

theorem LcmInv.keeps_self (h : LcmInv rproc) (ret : Int) : Keeps rproc (ret, rproc) :=
  ⟨h, fun _ => ⟨rfl, rfl⟩⟩

theorem LcmInv.config_keeps (h : LcmInv rproc) {configRet : Int}
    (hret : rproc.state = .offline → ops.config = true → configRet = 0) :
    Keeps rproc (remoteprocConfig ops configRet rproc) := by
  unfold remoteprocConfig
  split_ifs with hstate hops
  · obtain rfl := hret hstate hops
    refine ⟨⟨⟨nofun, nofun, fun _ => ?_⟩, ?_⟩, fun hne => absurd rfl hne⟩ <;>
      simp [LcmEvent.configRet?]
  · refine ⟨⟨⟨nofun, nofun, fun _ => ?_⟩, ?_⟩, fun hne => absurd rfl hne⟩ <;>
      simpa [LcmEvent.configRet?] using h.config
  · exact h.keeps_self _

theorem LcmInv.start_keeps (h : LcmInv rproc) {startRet : Int}
    (hret : rproc.state = .ready → startRet = 0) :
    Keeps rproc (remoteprocStart startRet rproc) := by
  unfold remoteprocStart
  split_ifs with hstate
  · obtain rfl := hret hstate
    refine ⟨⟨⟨fun _ => ?_, nofun, nofun⟩, ?_⟩, fun hne => absurd rfl hne⟩
    · simp [LcmEvent.turns]
    · simpa [LcmEvent.configRet?] using h.config
  · exact h.keeps_self _

theorem LcmInv.stop_keeps (h : LcmInv rproc) {stopRet : Int}
    (hret : rproc.state ≠ .stopped → rproc.state ≠ .offline → ops.stop = true ∧ stopRet = 0) :
    Keeps rproc (remoteprocStop ops stopRet rproc) := by
  unfold remoteprocStop
  split_ifs with hstate hops
  · obtain rfl := (hret hstate.1 hstate.2).2
    refine ⟨⟨⟨nofun, fun _ => ?_, nofun⟩, ?_⟩, fun hne => absurd rfl hne⟩
    · simp [LcmEvent.stopRet?]
    · simpa [LcmEvent.configRet?] using h.config
  · exact absurd (hret hstate.1 hstate.2).1 hops
  · exact h.keeps_self _

/-- A `stop` callback that leaves the instance in its state. A running processor has to stay so. -/
theorem LcmInv.record_stop (h : LcmInv rproc) {stopRet : Int} (hstate : rproc.state ≠ .stopped)
    (hrunning : rproc.state = .running → stopRet ≠ 0) :
    LcmInv (rproc.record (.stop stopRet)) := by
  refine ⟨⟨fun hrun => ?_, fun hstop => absurd hstop hstate, fun _ => ?_⟩, ?_⟩
  · have hfailed := hrunning hrun
    simpa [LcmEvent.turns, hfailed] using h.running hrun
  · simpa [LcmEvent.configRet?] using h.config
  · simpa [LcmEvent.configRet?] using h.config

theorem LcmInv.record_other (h : LcmInv rproc) (event : LcmEvent)
    (hconfig : event.configRet? = none) (hstop : event.stopRet? = none)
    (hturns : event.turns = false) :
    LcmInv (rproc.record event) := by
  refine ⟨⟨fun hrun => ?_, fun hstopped => ?_, fun _ => ?_⟩, ?_⟩
  · simpa [hturns] using h.running hrun
  · simpa [hstop] using h.stopped hstopped
  · simpa [hconfig] using h.config
  · simpa [hconfig] using h.config

theorem LcmInv.shutdown_keeps (h : LcmInv rproc) {stopRet shutdownRet : Int}
    (hret : rproc.state = .running → ops.stop = true → stopRet = 0 → ops.shutdown = true →
      shutdownRet = 0) :
    Keeps rproc (remoteprocShutdown ops stopRet shutdownRet rproc) := by
  rcases remoteprocShutdown_cases ops stopRet shutdownRet rproc with
    ⟨-, hcall⟩ | ⟨hstopped, -, hfailed, hcall⟩ | ⟨rproc', -, hstopped, hlast⟩
  · rw [hcall]
    exact h.keeps_self 0
  · rw [hcall]
    exact ⟨h.record_stop hstopped fun _ => hfailed, fun _ => ⟨rfl, rfl⟩⟩
  · have hconfig : ∀ ret ∈ latestConfig rproc'.history, ret = 0 := by
      rcases hstopped with ⟨rfl, -⟩ | ⟨rfl, -⟩
      · exact h.config
      · simpa [LcmEvent.configRet?] using h.config
    rcases hlast with ⟨hops, hfailed, hcall⟩ | hcall | hcall
    · rw [hcall]
      refine ⟨LcmInv.record_other ?_ _ rfl rfl rfl, fun _ => ?_⟩
      · rcases hstopped with ⟨rfl, -⟩ | ⟨rfl, hstate, hstop, hstopRet⟩
        · exact h
        · exact h.record_stop hstate fun hrun => absurd (hret hrun hstop hstopRet hops) hfailed
      · rcases hstopped with ⟨rfl, -⟩ | ⟨rfl, -⟩
        · exact ⟨rfl, rfl⟩
        · exact ⟨rfl, rfl⟩
    · rw [hcall]
      exact ⟨⟨⟨nofun, nofun, nofun⟩, hconfig⟩, fun hne => absurd rfl hne⟩
    · rw [hcall]
      exact ⟨⟨⟨nofun, nofun, nofun⟩, by simpa [LcmEvent.configRet?] using hconfig⟩,
        fun hne => absurd rfl hne⟩

theorem LcmInv.remove_keeps (h : LcmInv rproc) (hret : rproc.lock = true → rproc.state = .offline) :
    Keeps rproc (remoteprocRemove rproc) := by
  unfold remoteprocRemove
  split_ifs with hstate
  · have hrecord := h.record_other .remove rfl rfl rfl
    exact ⟨⟨⟨hrecord.running, hrecord.stopped, hrecord.ready⟩, hrecord.config⟩,
      fun hne => absurd rfl hne⟩
  · have hlock : rproc.lock = false := Bool.eq_false_iff.mpr fun hlock => hstate (hret hlock)
    exact ⟨⟨⟨h.running, h.stopped, h.ready⟩, h.config⟩, fun _ => ⟨rfl, hlock.symm⟩⟩

theorem LcmInv.load_keeps (h : LcmInv rproc) (completed : Bool) (ret : Int) :
    Keeps rproc (remoteprocLoadLcm completed ret rproc) := by
  unfold remoteprocLoadLcm
  split_ifs
  · exact h.keeps_self _
  · have hrecord := h.record_other .loaded rfl rfl rfl
    exact ⟨⟨⟨nofun, nofun, fun _ => hrecord.config⟩, hrecord.config⟩, fun hne => absurd rfl hne⟩
  · exact h.keeps_self _

theorem LcmInv.loadNoblock_keeps (h : LcmInv rproc) (completed : Bool) (ret : Int) :
    Keeps rproc (remoteprocLoadNoblockLcm completed ret rproc) := by
  unfold remoteprocLoadNoblockLcm
  split_ifs
  · exact h.keeps_self _
  · exact ⟨h.record_other _ rfl rfl rfl, fun hne => absurd rfl hne⟩
  · exact h.keeps_self _

theorem LcmInv.call_keeps (h : LcmInv rproc) {action : LcmAction}
    (hreported : action.Reported ops rproc) : Keeps rproc (rproc.call ops action) := by
  cases action with
  | config configRet => exact h.config_keeps hreported
  | load completed ret => exact h.load_keeps completed ret
  | loadNoblock completed ret => exact h.loadNoblock_keeps completed ret
  | start startRet => exact h.start_keeps hreported
  | stop stopRet => exact h.stop_keeps hreported
  | shutdown stopRet shutdownRet => exact h.shutdown_keeps hreported
  | remove => exact h.remove_keeps hreported

/-- A call that is not reported ends in a state that shows it. -/
theorem LcmAction.Truthful.reported {action : LcmAction} (h : action.Truthful ops rproc) :
    action.Reported ops rproc := by
  obtain ⟨⟨hrunning, hstopped, hready⟩, hunchanged⟩ := h
  cases action with
  | config configRet =>
      intro hstate hops
      have hcall := hready (by simp [RemoteprocLcm.call, remoteprocConfig, hstate])
      simpa [RemoteprocLcm.call, remoteprocConfig, hstate, hops, LcmEvent.configRet?] using hcall
  | load completed ret => trivial
  | loadNoblock completed ret => trivial
  | start startRet =>
      intro hstate
      have hcall := hrunning (by simp [RemoteprocLcm.call, remoteprocStart, hstate])
      simpa [RemoteprocLcm.call, remoteprocStart, hstate, LcmEvent.turns] using hcall
  | stop stopRet =>
      intro hstopped hoffline
      have hafter : (rproc.call ops (.stop stopRet)).2.state = .stopped := by
        simp [RemoteprocLcm.call, remoteprocStop, hstopped, hoffline]
      have hret : (rproc.call ops (.stop stopRet)).1 = 0 := by
        by_contra herror
        rw [(hunchanged herror).1] at hafter
        exact hstopped hafter
      cases hops : ops.stop with
      | false =>
          simp [RemoteprocLcm.call, remoteprocStop, hstopped, hoffline, hops, RPROC_ENODEV] at hret
      | true =>
          simp only [RemoteprocLcm.call, remoteprocStop, hops] at hret
          simpa [hstopped, hoffline] using hret
  | shutdown stopRet shutdownRet =>
      rintro hstate hstop rfl hshutdown
      by_contra hfailed
      have hcall := hrunning (by
        simp [RemoteprocLcm.call, remoteprocShutdown, hstate, hstop, hshutdown, hfailed])
      simp [RemoteprocLcm.call, remoteprocShutdown, hstate, hstop, hshutdown, hfailed,
        LcmEvent.turns] at hcall
  | remove =>
      intro hlock
      by_contra hstate
      have herror := (hunchanged (by
        simp [RemoteprocLcm.call, remoteprocRemove, hstate, RPROC_EAGAIN])).2
      simp [RemoteprocLcm.call, remoteprocRemove, hstate, hlock] at herror

/-- Along every run, the state tells the truth exactly as long as the calls are reported. -/
theorem lifecycle_truthful (ops : RemoteprocOps) (actions : List LcmAction) :
    Run.Along (RemoteprocLcm.step ops) (fun rproc action => action.Truthful ops rproc)
        remoteprocInit actions ↔
      Run.Along (RemoteprocLcm.step ops) (fun rproc action => action.Reported ops rproc)
        remoteprocInit actions := by
  refine Run.along_iff (P := LcmInv) (fun rproc action h => ?_) ?_ lcmInv_init
  · refine ⟨LcmAction.Truthful.reported, fun hreported => ?_⟩
    obtain ⟨hafter, hunchanged⟩ := h.call_keeps hreported
    exact ⟨hafter.toTruthful, hunchanged⟩
  · rintro rproc action rproc' h hreported hstep
    obtain rfl := Option.some.inj hstep
    exact (h.call_keeps hreported).1

end Truthful

/-- A `start` that fails leaves the instance running. -/
theorem failed_start_runs :
    ¬ Run.Along (RemoteprocLcm.step ⟨true, true, true⟩)
      (fun rproc action => action.Truthful ⟨true, true, true⟩ rproc) remoteprocInit
      [.config 0, .start (-1)] := by
  rintro ⟨-, hnext⟩
  obtain ⟨hstart, -⟩ := hnext _ rfl
  exact absurd (hstart.after.running rfl) (by decide)

/-! ### A processor is started with firmware -/

/-- The states of `docs/remoteproc-design.md`. -/
inductive LcmState where
  | offline
  | configured
  | ready
  | running
  | stopped
deriving DecidableEq, Repr

/-- The documented transitions, by the call that triggers them and what it returns. -/
def LcmState.next : LcmState → LcmAction → Int → LcmState
  | .offline, .config _, _ => .configured
  | .configured, .load true _, _ | .configured, .loadNoblock true _, _ => .ready
  | .ready, .start _, _ => .running
  | .configured, .stop _, _ | .ready, .stop _, _ | .running, .stop _, _ => .stopped
  | _, .shutdown _ _, 0 => .offline
  | doc, _, _ => doc

/-- An instance beside the documented machine. -/
def RemoteprocLcm.docStep (ops : RemoteprocOps) (s : RemoteprocLcm × LcmState)
    (action : LcmAction) : Option (RemoteprocLcm × LcmState) :=
  let (ret, rproc) := s.1.call ops action
  some (rproc, s.2.next action ret)

/-- A call that invokes the `start` callback finds a load completed since the instance last left
`RPROC_OFFLINE`. -/
def LcmAction.StartsLoaded (ops : RemoteprocOps) (rproc : RemoteprocLcm) (action : LcmAction) :
    Prop :=
  ∀ ret, (rproc.call ops action).2.history = rproc.history ++ [.start ret] →
    latestLoad rproc.history = some .loaded

/-- `remoteproc_start` is not called while the documented state is configured. -/
def LcmAction.InOrder (doc : LcmState) (action : LcmAction) : Prop :=
  ∀ startRet, action = .start startRet → doc ≠ .configured

/-- The instance is in the state the documentation gives it. `RPROC_READY` stands for two states. -/
def RemoteprocLcm.Matches (rproc : RemoteprocLcm) : LcmState → Prop
  | .offline => rproc.state = .offline
  | .configured => rproc.state = .ready ∧ latestLoad rproc.history ≠ some .loaded
  | .ready => rproc.state = .ready ∧ latestLoad rproc.history = some .loaded
  | .running => rproc.state = .running
  | .stopped => rproc.state = .stopped

section Firmware

variable {ops : RemoteprocOps} {rproc : RemoteprocLcm} {doc : LcmState}

theorem RemoteprocLcm.Matches.of_same {rproc' : RemoteprocLcm} (h : rproc.Matches doc)
    (hstate : rproc'.state = rproc.state)
    (hload : latestLoad rproc'.history = latestLoad rproc.history) : rproc'.Matches doc := by
  cases doc <;> simp only [RemoteprocLcm.Matches, hstate, hload] at h ⊢ <;> exact h

theorem RemoteprocLcm.Matches.config (h : rproc.Matches doc) (configRet ret : Int) :
    (remoteprocConfig ops configRet rproc).2.Matches (doc.next (.config configRet) ret) := by
  unfold remoteprocConfig
  cases doc with
  | offline =>
      have hstate : rproc.state = .offline := h
      rw [if_pos hstate]
      refine ⟨rfl, ?_⟩
      simp [LcmEvent.loads]
  | configured | ready =>
      have hstate : rproc.state ≠ .offline := by simp [h.1]
      rw [if_neg hstate]
      exact h
  | running | stopped =>
      have hstate : rproc.state ≠ .offline := by simp [show rproc.state = _ from h]
      rw [if_neg hstate]
      exact h

theorem RemoteprocLcm.Matches.load (h : rproc.Matches doc) (completed : Bool) (ret ret' : Int) :
    (remoteprocLoadLcm completed ret rproc).2.Matches (doc.next (.load completed ret) ret') := by
  unfold remoteprocLoadLcm
  cases doc with
  | configured | ready =>
      have hstate : ¬ (rproc.state ≠ .ready ∧ rproc.state ≠ .configured) := fun hne => hne.1 h.1
      rw [if_neg hstate]
      cases completed with
      | false => exact h
      | true => exact ⟨rfl, by simp [LcmEvent.loads]⟩
  | offline | running | stopped =>
      have hstate : rproc.state = _ := h
      have hrefused : rproc.state ≠ .ready ∧ rproc.state ≠ .configured := by simp [hstate]
      rw [if_pos hrefused]
      exact h

theorem RemoteprocLcm.Matches.loadNoblock (h : rproc.Matches doc) (completed : Bool)
    (ret ret' : Int) :
    (remoteprocLoadNoblockLcm completed ret rproc).2.Matches
      (doc.next (.loadNoblock completed ret) ret') := by
  unfold remoteprocLoadNoblockLcm
  cases doc with
  | configured | ready =>
      have hstate : ¬ rproc.state ≠ .ready := fun hne => hne h.1
      rw [if_neg hstate]
      cases completed with
      | false => exact h
      | true => exact ⟨h.1, by simp [LcmEvent.loads]⟩
  | offline | running | stopped =>
      have hstate : rproc.state = _ := h
      have hrefused : rproc.state ≠ .ready := by simp [hstate]
      rw [if_pos hrefused]
      exact h

theorem RemoteprocLcm.Matches.start (h : rproc.Matches doc) (horder : doc ≠ .configured)
    (startRet ret : Int) :
    (remoteprocStart startRet rproc).2.Matches (doc.next (.start startRet) ret) := by
  unfold remoteprocStart
  cases doc with
  | configured => exact absurd rfl horder
  | ready =>
      rw [if_pos h.1]
      rfl
  | offline | running | stopped =>
      have hstate : rproc.state = _ := h
      have hrefused : rproc.state ≠ .ready := by simp [hstate]
      rw [if_neg hrefused]
      exact h

theorem RemoteprocLcm.Matches.stop (h : rproc.Matches doc) (stopRet ret : Int) :
    (remoteprocStop ops stopRet rproc).2.Matches (doc.next (.stop stopRet) ret) := by
  unfold remoteprocStop
  cases doc with
  | configured | ready =>
      have hstate : rproc.state ≠ .stopped ∧ rproc.state ≠ .offline := by simp [h.1]
      rw [if_pos hstate]
      rfl
  | running =>
      have hstate : rproc.state ≠ .stopped ∧ rproc.state ≠ .offline := by
        simp [show rproc.state = _ from h]
      rw [if_pos hstate]
      rfl
  | offline | stopped =>
      have hstate : ¬ (rproc.state ≠ .stopped ∧ rproc.state ≠ .offline) := by
        simp [show rproc.state = _ from h]
      rw [if_neg hstate]
      exact h

theorem LcmState.next_shutdown_zero (stopRet shutdownRet : Int) :
    doc.next (.shutdown stopRet shutdownRet) 0 = .offline := by
  cases doc <;> rfl

theorem LcmState.next_shutdown_error {stopRet shutdownRet ret : Int} (hret : ret ≠ 0) :
    doc.next (.shutdown stopRet shutdownRet) ret = doc := by
  unfold LcmState.next
  split <;> simp_all

theorem RemoteprocLcm.Matches.shutdown (h : rproc.Matches doc) (stopRet shutdownRet : Int) :
    (remoteprocShutdown ops stopRet shutdownRet rproc).2.Matches
      (doc.next (.shutdown stopRet shutdownRet)
        (remoteprocShutdown ops stopRet shutdownRet rproc).1) := by
  rcases remoteprocShutdown_cases ops stopRet shutdownRet rproc with
    ⟨hstate, hcall⟩ | ⟨-, -, hfailed, hcall⟩ | ⟨rproc', -, hstopped, hlast⟩
  · rw [hcall, LcmState.next_shutdown_zero]
    exact hstate
  · rw [hcall, LcmState.next_shutdown_error hfailed]
    exact h.of_same rfl (by simp [LcmEvent.loads])
  · rcases hlast with ⟨-, hfailed, hcall⟩ | hcall | hcall
    · rw [hcall, LcmState.next_shutdown_error hfailed]
      rcases hstopped with ⟨rfl, -⟩ | ⟨rfl, -⟩
      · exact h.of_same rfl (by simp [LcmEvent.loads])
      · exact h.of_same rfl (by simp [LcmEvent.loads])
    · rw [hcall, LcmState.next_shutdown_zero]
      rfl
    · rw [hcall, LcmState.next_shutdown_zero]
      rfl

theorem RemoteprocLcm.Matches.remove (h : rproc.Matches doc) (ret : Int) :
    (remoteprocRemove rproc).2.Matches (doc.next .remove ret) := by
  have hnext : doc.next .remove ret = doc := by cases doc <;> rfl
  rw [hnext]
  unfold remoteprocRemove
  split_ifs
  · exact h.of_same rfl (by simp [LcmEvent.loads])
  · exact h.of_same rfl rfl

/-- A call in order keeps the instance in the documented state. -/
theorem RemoteprocLcm.Matches.call (h : rproc.Matches doc) {action : LcmAction}
    (horder : action.InOrder doc) :
    (rproc.call ops action).2.Matches (doc.next action (rproc.call ops action).1) := by
  cases action with
  | config configRet => exact h.config configRet _
  | load completed ret => exact h.load completed ret _
  | loadNoblock completed ret => exact h.loadNoblock completed ret _
  | start startRet => exact h.start (horder startRet rfl) startRet _
  | stop stopRet => exact h.stop stopRet _
  | shutdown stopRet shutdownRet => exact h.shutdown stopRet shutdownRet
  | remove => exact h.remove _

/-- Only `remoteproc_start` invokes the `start` callback, and only in `RPROC_READY`. -/
theorem state_of_started {action : LcmAction} {ret : Int}
    (hstarted : (rproc.call ops action).2.history = rproc.history ++ [.start ret]) :
    action = .start ret ∧ rproc.state = .ready := by
  have hnone : rproc.history ≠ rproc.history ++ [.start ret] := fun heq =>
    absurd (List.self_eq_append_right.mp heq) (List.cons_ne_nil _ _)
  have hother : ∀ (rproc' : RemoteprocLcm) event, event ≠ .start ret →
      (rproc'.record event).history ≠ rproc.history ++ [.start ret] := fun rproc' event hne heq =>
    hne (List.singleton_inj.mp (List.append_inj' heq rfl).2)
  cases action with
  | config configRet =>
      simp only [RemoteprocLcm.call, remoteprocConfig] at hstarted
      split_ifs at hstarted
      · exact absurd hstarted (hother _ _ nofun)
      · exact absurd hstarted (hother _ _ nofun)
      · exact absurd hstarted hnone
  | load completed ret =>
      simp only [RemoteprocLcm.call, remoteprocLoadLcm] at hstarted
      split_ifs at hstarted
      · exact absurd hstarted hnone
      · exact absurd hstarted (hother _ _ nofun)
      · exact absurd hstarted hnone
  | loadNoblock completed ret =>
      simp only [RemoteprocLcm.call, remoteprocLoadNoblockLcm] at hstarted
      split_ifs at hstarted
      · exact absurd hstarted hnone
      · exact absurd hstarted (hother _ _ nofun)
      · exact absurd hstarted hnone
  | start startRet =>
      simp only [RemoteprocLcm.call, remoteprocStart] at hstarted
      split_ifs at hstarted with hstate
      · have hevent := List.singleton_inj.mp (List.append_inj' hstarted rfl).2
        exact ⟨congrArg LcmAction.start (LcmEvent.start.inj hevent), hstate⟩
      · exact absurd hstarted hnone
  | stop stopRet =>
      simp only [RemoteprocLcm.call, remoteprocStop] at hstarted
      split_ifs at hstarted
      · exact absurd hstarted (hother _ _ nofun)
      · exact absurd hstarted hnone
      · exact absurd hstarted hnone
  | shutdown stopRet shutdownRet =>
      simp only [RemoteprocLcm.call] at hstarted
      rcases remoteprocShutdown_cases ops stopRet shutdownRet rproc with
        ⟨-, hcall⟩ | ⟨-, -, -, hcall⟩ | ⟨rproc', -, hstopped, hlast⟩
      · rw [hcall] at hstarted
        exact absurd hstarted hnone
      · rw [hcall] at hstarted
        exact absurd hstarted (hother _ _ nofun)
      · rcases hlast with ⟨-, -, hcall⟩ | hcall | hcall
        · rw [hcall] at hstarted
          exact absurd hstarted (hother _ _ nofun)
        · rw [hcall] at hstarted
          rcases hstopped with ⟨rfl, -⟩ | ⟨rfl, -⟩
          · exact absurd hstarted hnone
          · exact absurd hstarted (hother _ _ nofun)
        · rw [hcall] at hstarted
          exact absurd hstarted (hother _ _ nofun)
  | remove =>
      simp only [RemoteprocLcm.call, remoteprocRemove] at hstarted
      split_ifs at hstarted
      · exact absurd hstarted (hother _ _ nofun)
      · exact absurd hstarted hnone

theorem RemoteprocLcm.Matches.startsLoaded_iff (h : rproc.Matches doc) (action : LcmAction) :
    action.StartsLoaded ops rproc ↔ action.InOrder doc := by
  constructor
  · rintro hloaded startRet rfl rfl
    have hcall : (rproc.call ops (.start startRet)).2.history =
        rproc.history ++ [.start startRet] := by
      simp only [RemoteprocLcm.call, remoteprocStart, if_pos h.1]
      rfl
    exact h.2 (hloaded startRet hcall)
  · intro horder ret hstarted
    obtain ⟨rfl, hready⟩ := state_of_started hstarted
    cases doc with
    | configured => exact absurd rfl (horder ret rfl)
    | ready => exact h.2
    | offline | running | stopped =>
        have hstate : rproc.state = _ := h
        rw [hready] at hstate
        exact absurd hstate nofun

/-- Along every run, the processor is started with firmware exactly as long as `remoteproc_start` is
not called in the documented state before the load. -/
theorem started_with_firmware (ops : RemoteprocOps) (actions : List LcmAction) :
    Run.Along (RemoteprocLcm.docStep ops) (fun s action => action.StartsLoaded ops s.1)
        (remoteprocInit, .offline) actions ↔
      Run.Along (RemoteprocLcm.docStep ops) (fun s action => action.InOrder s.2)
        (remoteprocInit, .offline) actions := by
  refine Run.along_iff (P := fun s => s.1.Matches s.2) (fun s action h => h.startsLoaded_iff action)
    ?_ rfl
  rintro s action s' h horder hstep
  obtain rfl := Option.some.inj hstep
  exact h.call horder

end Firmware

/-- Configured and started, without a load. -/
theorem started_without_firmware :
    ¬ Run.Along (RemoteprocLcm.docStep ⟨true, true, true⟩)
      (fun s action => action.StartsLoaded ⟨true, true, true⟩ s.1) (remoteprocInit, .offline)
      [.config 0, .start 0] := by
  rintro ⟨-, hnext⟩
  obtain ⟨hstart, -⟩ := hnext _ rfl
  exact absurd (hstart 0 rfl) (by decide)

end OpenAmp
