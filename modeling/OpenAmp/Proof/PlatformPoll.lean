import OpenAmp.PlatformPoll

/-!
# No kick is lost

A kick that has not been heard is in the status register, in the flag, or with an application about to
run the callbacks. Nothing takes it from one place before it is in the next; so the processor never
waits in vain, and the callbacks run after so many of its steps.
-/

namespace OpenAmp

variable {vdevs : List RemoteprocVirtio} {s s' : PollSystem} {action : PollAction}

/-- The state to restore, between saving and restoring it. -/
def PlatformPollPc.saved : PlatformPollPc → Option Bool
  | .testAndSet flags | .restoreEnable flags | .rprocWait flags | .restoreAgain flags => some flags
  | .idle | .saveDisable | .getNotification => none

/-- The application has taken the flag and is about to run the callbacks. -/
def PlatformPollPc.seen : PlatformPollPc → Bool
  | .restoreEnable _ | .getNotification => true
  | .idle | .saveDisable | .testAndSet _ | .rprocWait _ | .restoreAgain _ => false

/-- The interrupts of the processor: off between the two calls of libmetal and on elsewhere. -/
def PollSystem.Masking (s : PollSystem) : Prop :=
  (s.poll.saved = none ∧ s.irqEnabled = true) ∨
    (s.poll.saved = some true ∧ s.irqEnabled = false ∧ s.handler = none)

structure PollInv (s : PollSystem) : Prop where
  heard_le : s.heard ≤ s.kicks
  masking : s.Masking
  -- the bit stays until the handler clears it
  raised : s.handler.isSome = true → s.isr = true
  flagged : s.handler = some .acknowledge → s.ipiNokick = false
  -- nothing clears the flag while interrupts are off
  tested : s.poll.waits = true → s.ipiNokick = true
  pending : s.heard < s.kicks → s.isr = true ∨ s.ipiNokick = false ∨ s.poll.seen = true

theorem PlatformPollPc.saved_of_waits {pc : PlatformPollPc} (h : pc.waits = true) :
    pc.saved ≠ none := by
  cases pc with
  | rprocWait flags => exact Option.some_ne_none flags
  | _ => cases h

/-- While the handler does not run. -/
theorem PollInv.of_handler (hhandler : s.handler = none) (hle : s.heard ≤ s.kicks)
    (hmask : s.Masking) (htested : s.poll.waits = true → s.ipiNokick = true)
    (hpending : s.heard < s.kicks → s.isr = true ∨ s.ipiNokick = false ∨ s.poll.seen = true) :
    PollInv s := by
  refine ⟨hle, hmask, fun hsome => ?_, fun hack => ?_, htested, hpending⟩
  · rw [hhandler] at hsome
    cases hsome
  · rw [hhandler] at hack
    cases hack

theorem pollInv_start (isr : Bool) : PollInv (.start isr) :=
  .of_handler rfl le_rfl (.inl ⟨rfl, rfl⟩) (fun h => Bool.noConfusion h)
    fun h => absurd h (lt_irrefl 0)

theorem PollInv.unmasked (h : PollInv s) (hsaved : s.poll.saved = none) : s.irqEnabled = true := by
  obtain ⟨-, henabled⟩ | ⟨hsome, -⟩ := h.masking
  · exact henabled
  · rw [hsaved] at hsome
    cases hsome

theorem PollInv.masked (h : PollInv s) {flags : Bool} (hsaved : s.poll.saved = some flags) :
    flags = true ∧ s.irqEnabled = false := by
  obtain ⟨hnone, -⟩ | ⟨hsome, hoff, -⟩ := h.masking
  · rw [hsaved] at hnone
    cases hnone
  · rw [hsaved] at hsome
    exact ⟨Option.some.inj hsome, hoff⟩

/-- The application is outside the part with interrupts off while the handler runs. -/
theorem PollInv.open_of_handler (h : PollInv s) {pc : IrqHandlerPc} (hpc : s.handler = some pc) :
    s.poll.saved = none ∧ s.irqEnabled = true ∧ s.isr = true := by
  have hisr : s.isr = true := by
    apply h.raised
    rw [hpc]
    rfl
  obtain ⟨hsaved, henabled⟩ | ⟨-, -, hnone⟩ := h.masking
  · exact ⟨hsaved, henabled, hisr⟩
  · rw [hpc] at hnone
    cases hnone

theorem PollInv.stepHandler (h : PollInv s) (hstep : s.stepHandler = some s') : PollInv s' := by
  unfold PollSystem.stepHandler at hstep
  split at hstep
  next => cases hstep
  next hpc =>
    obtain ⟨hsaved, henabled, hisr⟩ := h.open_of_handler hpc
    rw [if_pos hisr] at hstep
    obtain rfl := Option.some.inj hstep
    refine ⟨h.heard_le, .inl ⟨hsaved, henabled⟩, fun _ => hisr, fun hack => ?_, h.tested,
      h.pending⟩
    cases hack
  next hpc =>
    obtain ⟨hsaved, henabled, hisr⟩ := h.open_of_handler hpc
    obtain rfl := Option.some.inj hstep
    exact ⟨h.heard_le, .inl ⟨hsaved, henabled⟩, fun _ => hisr, fun _ => rfl,
      fun hwaits => absurd hsaved (PlatformPollPc.saved_of_waits hwaits), fun _ => .inr (.inl rfl)⟩
  next hpc =>
    obtain ⟨hsaved, henabled, hisr⟩ := h.open_of_handler hpc
    obtain rfl := Option.some.inj hstep
    -- the flag is clear before the bit is
    exact .of_handler rfl h.heard_le (.inl ⟨hsaved, henabled⟩) h.tested
      fun _ => .inr (.inl (h.flagged hpc))

theorem PollInv.stepPoll (h : PollInv s) (hhandler : s.handler = none)
    (hstep : s.stepPoll vdevs = some s') : PollInv s' := by
  have hpending := h.pending
  unfold PollSystem.stepPoll at hstep
  split at hstep
  next => cases hstep
  next hpc =>
    have henabled := h.unmasked (congrArg PlatformPollPc.saved hpc)
    rw [hpc] at hpending
    obtain rfl := Option.some.inj hstep
    exact .of_handler hhandler h.heard_le (.inr ⟨congrArg some henabled, rfl, hhandler⟩)
      (fun hwaits => Bool.noConfusion hwaits) hpending
  next flags hpc =>
    obtain ⟨rfl, hoff⟩ := h.masked (congrArg PlatformPollPc.saved hpc)
    rw [hpc] at hpending
    obtain rfl := Option.some.inj hstep
    cases hflag : s.ipiNokick with
    | true =>
        refine .of_handler hhandler h.heard_le (.inr ⟨?_, hoff, hhandler⟩) (fun _ => rfl)
          fun hlt => ?_
        · rfl
        · obtain hisr | hclear | hseen := hpending hlt
          · exact .inl hisr
          · rw [hflag] at hclear
            cases hclear
          · cases hseen
    | false =>
        refine .of_handler hhandler h.heard_le (.inr ⟨?_, hoff, hhandler⟩) (fun _ => rfl)
          fun _ => ?_
        · rfl
        · exact .inr (.inr rfl)
  next flags hpc =>
    obtain ⟨rfl, -⟩ := h.masked (congrArg PlatformPollPc.saved hpc)
    obtain rfl := Option.some.inj hstep
    exact .of_handler hhandler h.heard_le (.inl ⟨rfl, rfl⟩)
      (fun hwaits => Bool.noConfusion hwaits) fun _ => .inr (.inr rfl)
  next hpc =>
    have henabled := h.unmasked (congrArg PlatformPollPc.saved hpc)
    obtain rfl := Option.some.inj hstep
    exact .of_handler hhandler le_rfl (.inl ⟨rfl, henabled⟩)
      (fun hwaits => Bool.noConfusion hwaits) fun hlt => absurd hlt (lt_irrefl _)
  next flags hpc =>
    obtain ⟨rfl, hoff⟩ := h.masked (congrArg PlatformPollPc.saved hpc)
    rw [hpc] at hpending
    obtain rfl := Option.some.inj hstep
    exact .of_handler hhandler h.heard_le (.inr ⟨rfl, hoff, hhandler⟩)
      (fun hwaits => Bool.noConfusion hwaits) hpending
  next flags hpc =>
    obtain ⟨rfl, -⟩ := h.masked (congrArg PlatformPollPc.saved hpc)
    rw [hpc] at hpending
    obtain rfl := Option.some.inj hstep
    exact .of_handler hhandler h.heard_le (.inl ⟨rfl, rfl⟩)
      (fun hwaits => Bool.noConfusion hwaits) hpending

theorem PollInv.step (h : PollInv s) (hallowed : s.Allowed action)
    (hstep : s.step vdevs action = some s') : PollInv s' := by
  cases action with
  | kick =>
      obtain rfl := Option.some.inj hstep
      exact ⟨h.heard_le.trans (Nat.le_succ _), h.masking, fun _ => rfl, h.flagged, h.tested,
        fun _ => .inl rfl⟩
  | call =>
      obtain ⟨hhandler, hpoll⟩ := hallowed
      have henabled := h.unmasked (congrArg PlatformPollPc.saved hpoll)
      have hpending := h.pending
      rw [hpoll] at hpending
      obtain rfl := Option.some.inj hstep
      exact .of_handler hhandler h.heard_le (.inl ⟨rfl, henabled⟩)
        (fun hwaits => Bool.noConfusion hwaits) hpending
  | interrupt =>
      obtain ⟨-, henabled, hisr⟩ := hallowed
      obtain rfl := Option.some.inj hstep
      obtain ⟨hsaved, -⟩ | ⟨-, hoff, -⟩ := h.masking
      · refine ⟨h.heard_le, .inl ⟨hsaved, henabled⟩, fun _ => hisr, fun hack => ?_, h.tested,
          h.pending⟩
        cases hack
      · rw [henabled] at hoff
        cases hoff
  | stepHandler => exact h.stepHandler hstep
  | stepPoll => exact h.stepPoll hallowed.1 hstep
  | wake => exact h.stepPoll hallowed.1 hstep

theorem pollInv_of_reachable {isr : Bool}
    (hs : Run.Reachable PollSystem.Allowed (PollSystem.step vdevs) (.start isr) s) : PollInv s :=
  hs.invariant (pollInv_start isr) fun _ _ _ h hallowed hstep => h.step hallowed hstep

/-! ### How far the callbacks are -/

/-- The steps the handler still takes, the interrupt included. -/
def PollSystem.handlerSteps (s : PollSystem) : Nat :=
  match s.handler with
  | none => if s.isr then 4 else 0
  | some .readStatus => 3
  | some .clearFlag => 2
  | some .acknowledge => 1

/-- The steps of the application before it runs the callbacks, if it then finds the flag clear. -/
def PollSystem.pollSteps (s : PollSystem) : Nat :=
  match s.poll with
  | .getNotification | .idle => 0
  | .restoreEnable _ => 1
  | .testAndSet _ => if s.ipiNokick then 6 else 2
  | .saveDisable => 3
  | .restoreAgain _ => 4
  | .rprocWait _ => 5

def PollSystem.measure (s : PollSystem) : Nat :=
  s.handlerSteps + s.pollSteps

theorem PollSystem.handlerSteps_le (s : PollSystem) : s.handlerSteps ≤ 4 := by
  unfold PollSystem.handlerSteps
  split
  · split_ifs <;> omega
  all_goals omega

theorem PollSystem.pollSteps_le (s : PollSystem) : s.pollSteps ≤ 6 := by
  unfold PollSystem.pollSteps
  split
  case h_4 => split_ifs <;> omega
  all_goals omega

/-- A kick costs at most one run of the handler. -/
theorem PollSystem.measure_kick (s : PollSystem) (kicks : Nat) :
    ({ s with isr := true, kicks } : PollSystem).measure ≤ s.measure + 4 := by
  have hle := PollSystem.handlerSteps_le { s with isr := true, kicks }
  have hsame : ({ s with isr := true, kicks } : PollSystem).pollSteps = s.pollSteps := rfl
  unfold PollSystem.measure
  omega

/-- The application polls, and has a kick to hear and run no callback since `before`. -/
structure Unheard (before s : PollSystem) : Prop where
  inv : PollInv s
  polling : s.poll ≠ .idle
  callbacks : s.callbacks = before.callbacks
  unheard : s.heard < s.kicks

section Progress

variable {before : PollSystem}

theorem Unheard.stepHandler (h : Unheard before s) (hstep : s.stepHandler = some s') :
    Unheard before s' ∧ s'.measure < s.measure := by
  have hinv := h.inv.stepHandler hstep
  unfold PollSystem.stepHandler at hstep
  split at hstep
  next => cases hstep
  next hpc =>
    obtain ⟨-, -, hisr⟩ := h.inv.open_of_handler hpc
    rw [if_pos hisr] at hstep
    obtain rfl := Option.some.inj hstep
    have hsteps : s.handlerSteps = 3 := by rw [PollSystem.handlerSteps, hpc]
    refine ⟨⟨hinv, h.polling, h.callbacks, h.unheard⟩, ?_⟩
    change 2 + s.pollSteps < s.handlerSteps + s.pollSteps
    omega
  next hpc =>
    obtain rfl := Option.some.inj hstep
    have hsteps : s.handlerSteps = 2 := by rw [PollSystem.handlerSteps, hpc]
    obtain ⟨hsaved, -, -⟩ := h.inv.open_of_handler hpc
    have hpoll : ({ s with ipiNokick := false, handler := some .acknowledge } :
        PollSystem).pollSteps ≤ s.pollSteps := by
      unfold PollSystem.pollSteps
      cases hpoll : s.poll with
      | testAndSet flags =>
          rw [hpoll] at hsaved
          cases hsaved
      | _ => exact le_rfl
    refine ⟨⟨hinv, h.polling, h.callbacks, h.unheard⟩, ?_⟩
    change 1 + PollSystem.pollSteps _ < s.handlerSteps + s.pollSteps
    omega
  next hpc =>
    obtain rfl := Option.some.inj hstep
    have hsteps : s.handlerSteps = 1 := by rw [PollSystem.handlerSteps, hpc]
    refine ⟨⟨hinv, h.polling, h.callbacks, h.unheard⟩, ?_⟩
    change 0 + s.pollSteps < s.handlerSteps + s.pollSteps
    omega

/-- A step of the application that does not run the callbacks yet. -/
theorem Unheard.movePoll (h : Unheard before s) (hinv : PollInv s')
    (hpoll : s'.poll ≠ .idle) (hcallbacks : s'.callbacks = s.callbacks) (hheard : s'.heard = s.heard)
    (hkicks : s'.kicks = s.kicks) (hhandler : s'.handlerSteps = s.handlerSteps)
    (hlt : s'.pollSteps < s.pollSteps) : Unheard before s' ∧ s'.measure < s.measure := by
  refine ⟨⟨hinv, hpoll, hcallbacks.trans h.callbacks, ?_⟩, ?_⟩
  · rw [hheard, hkicks]
    exact h.unheard
  · unfold PollSystem.measure
    omega

theorem Unheard.stepPoll (h : Unheard before s) (hhandler : s.handler = none)
    (hprompt : ¬ s.Interruptible) (hstep : s.stepPoll vdevs = some s') :
    s'.callbacks = before.callbacks ++ remoteprocGetNotification vdevs RSC_NOTIFY_ID_ANY ∨
      (Unheard before s' ∧ s'.measure < s.measure) := by
  have hinv := h.inv.stepPoll hhandler hstep
  unfold PollSystem.stepPoll at hstep
  split at hstep
  next => cases hstep
  next hpc =>
    -- with interrupts on, the bit would have been taken already
    have henabled := h.inv.unmasked (congrArg PlatformPollPc.saved hpc)
    have hflag : s.ipiNokick = false := by
      have hpending := h.inv.pending h.unheard
      rw [hpc] at hpending
      obtain hisr | hflag | hseen := hpending
      · exact absurd ⟨hhandler, henabled, hisr⟩ hprompt
      · exact hflag
      · cases hseen
    have hsteps : s.pollSteps = 3 := by rw [PollSystem.pollSteps, hpc]
    obtain rfl := Option.some.inj hstep
    refine .inr (h.movePoll hinv PlatformPollPc.noConfusion rfl rfl rfl rfl ?_)
    rw [hsteps]
    change (if s.ipiNokick = true then 6 else 2) < 3
    rw [hflag]
    decide
  next flags hpc =>
    obtain rfl := Option.some.inj hstep
    cases hflag : s.ipiNokick with
    | true =>
        have hsteps : s.pollSteps = 6 := by rw [PollSystem.pollSteps, hpc, hflag]; rfl
        rw [hflag] at hinv
        refine .inr (h.movePoll hinv PlatformPollPc.noConfusion rfl rfl rfl rfl ?_)
        rw [hsteps]
        exact Nat.lt_succ_self 5
    | false =>
        have hsteps : s.pollSteps = 2 := by rw [PollSystem.pollSteps, hpc, hflag]; rfl
        rw [hflag] at hinv
        refine .inr (h.movePoll hinv PlatformPollPc.noConfusion rfl rfl rfl rfl ?_)
        rw [hsteps]
        exact Nat.lt_succ_self 1
  next flags hpc =>
    have hsteps : s.pollSteps = 1 := by rw [PollSystem.pollSteps, hpc]
    obtain rfl := Option.some.inj hstep
    refine .inr (h.movePoll hinv PlatformPollPc.noConfusion rfl rfl rfl rfl ?_)
    rw [hsteps]
    exact Nat.lt_succ_self 0
  next hpc =>
    obtain rfl := Option.some.inj hstep
    exact .inl (congrArg (· ++ _) h.callbacks)
  next flags hpc =>
    have hsteps : s.pollSteps = 5 := by rw [PollSystem.pollSteps, hpc]
    obtain rfl := Option.some.inj hstep
    refine .inr (h.movePoll hinv PlatformPollPc.noConfusion rfl rfl rfl rfl ?_)
    rw [hsteps]
    exact Nat.lt_succ_self 4
  next flags hpc =>
    have hsteps : s.pollSteps = 4 := by rw [PollSystem.pollSteps, hpc]
    obtain rfl := Option.some.inj hstep
    refine .inr (h.movePoll hinv PlatformPollPc.noConfusion rfl rfl rfl rfl ?_)
    rw [hsteps]
    exact Nat.lt_succ_self 3

theorem Unheard.own (h : Unheard before s) (hown : action.own = true) (hprompt : s.Prompt action)
    (hstep : s.step vdevs action = some s') :
    s'.callbacks = before.callbacks ++ remoteprocGetNotification vdevs RSC_NOTIFY_ID_ANY ∨
      (Unheard before s' ∧ s'.measure < s.measure) := by
  obtain ⟨hallowed, hfirst⟩ := hprompt
  cases action with
  | kick => cases hown
  | call => cases hown
  | interrupt =>
      have hinv := h.inv.step hallowed hstep
      obtain ⟨hhandler, -, hisr⟩ := hallowed
      have hsteps : s.handlerSteps = 4 := by rw [PollSystem.handlerSteps, hhandler, hisr]; rfl
      obtain rfl := Option.some.inj hstep
      refine .inr ⟨⟨hinv, h.polling, h.callbacks, h.unheard⟩, ?_⟩
      change 3 + s.pollSteps < s.handlerSteps + s.pollSteps
      omega
  | stepHandler => exact .inr (h.stepHandler hstep)
  | stepPoll =>
      refine h.stepPoll hallowed.1 (fun htake => ?_) hstep
      obtain heq | heq := hfirst htake <;> cases heq
  | wake =>
      refine h.stepPoll hallowed.1 (fun htake => ?_) hstep
      obtain heq | heq := hfirst htake <;> cases heq

theorem Unheard.other (h : Unheard before s) (hother : action.own = false)
    (hallowed : s.Allowed action) (hstep : s.step vdevs action = some s') :
    Unheard before s' ∧ s'.measure ≤ s.measure + 4 := by
  cases action with
  | kick =>
      have hinv := h.inv.step hallowed hstep
      obtain rfl := Option.some.inj hstep
      exact ⟨⟨hinv, h.polling, h.callbacks, h.unheard.trans (Nat.lt_succ_self _)⟩,
        s.measure_kick (s.kicks + 1)⟩
  | call => exact absurd hallowed.2 h.polling
  | interrupt => cases hother
  | stepHandler => cases hother
  | stepPoll => cases hother
  | wake => cases hother

/-- The processor has a step to take. -/
theorem Unheard.exists_own (h : Unheard before s) (vdevs : List RemoteprocVirtio) :
    ∃ action, action.own = true ∧ s.Prompt action ∧ (s.step vdevs action).isSome = true := by
  cases hhandler : s.handler with
  | some pc =>
      refine ⟨.stepHandler, rfl, ⟨?_, fun htake => ?_⟩, ?_⟩
      · change s.handler.isSome = true
        rw [hhandler]
        rfl
      · rw [htake.1] at hhandler
        cases hhandler
      · obtain ⟨-, -, hisr⟩ := h.inv.open_of_handler hhandler
        change s.stepHandler.isSome = true
        unfold PollSystem.stepHandler
        rw [hhandler, hisr]
        cases pc <;> rfl
  | none =>
      by_cases htake : s.Interruptible
      · exact ⟨.interrupt, rfl, ⟨htake, fun _ => .inl rfl⟩, rfl⟩
      · refine ⟨.stepPoll, rfl, ⟨⟨hhandler, h.polling, fun hwaits => ?_⟩,
          fun hinterruptible => absurd hinterruptible htake⟩, ?_⟩
        · obtain hisr | hflag | hseen := h.inv.pending h.unheard
          · exact hisr
          · rw [h.inv.tested hwaits] at hflag
            cases hflag
          · cases hpoll : s.poll with
            | rprocWait flags =>
                rw [hpoll] at hseen
                cases hseen
            | _ =>
                rw [hpoll] at hwaits
                cases hwaits
        · change (s.stepPoll vdevs).isSome = true
          unfold PollSystem.stepPoll
          cases hpoll : s.poll with
          | idle => exact absurd hpoll h.polling
          | _ => rfl

end Progress

/-! ### The callbacks -/

theorem mem_rprocVirtioNotified {rpvdev : RemoteprocVirtio}
    (hany : rpvdev.notifyid ≠ RSC_NOTIFY_ID_ANY) {i : Nat} (hi : i < rpvdev.vringsInfo.length) :
    (rpvdev.vdevRsc, i) ∈ rprocVirtioNotified rpvdev RSC_NOTIFY_ID_ANY := by
  rw [rprocVirtioNotified, if_neg hany]
  refine List.mem_map_of_mem (List.mem_filter.mpr ⟨List.mem_range.mpr hi, ?_⟩)
  exact decide_eq_true (.inr rfl)

theorem PollSystem.callbacks_stepHandler (hstep : s.stepHandler = some s') :
    s'.callbacks = s.callbacks := by
  unfold PollSystem.stepHandler at hstep
  split at hstep
  next => cases hstep
  next =>
    split_ifs at hstep
    all_goals
      obtain rfl := Option.some.inj hstep
      rfl
  all_goals
    obtain rfl := Option.some.inj hstep
    rfl

theorem PollSystem.callbacks_stepPoll (hstep : s.stepPoll vdevs = some s') :
    s.callbacks <+: s'.callbacks := by
  unfold PollSystem.stepPoll at hstep
  split at hstep
  case h_1 => cases hstep
  case h_5 =>
    obtain rfl := Option.some.inj hstep
    exact List.prefix_append s.callbacks _
  all_goals
    obtain rfl := Option.some.inj hstep
    exact List.prefix_rfl

theorem PollSystem.callbacks_prefix (hstep : s.step vdevs action = some s') :
    s.callbacks <+: s'.callbacks := by
  cases action with
  | stepHandler => exact (PollSystem.callbacks_stepHandler hstep).symm ▸ List.prefix_rfl
  | stepPoll => exact PollSystem.callbacks_stepPoll hstep
  | wake => exact PollSystem.callbacks_stepPoll hstep
  | _ =>
      obtain rfl := Option.some.inj hstep
      exact List.prefix_rfl

/-- An application that polls hears every kick, whatever the other processor does and however long
interrupts are delayed: as long as it has not, this processor has a step to take; and once interrupts
are delayed no longer, the callbacks of all vrings run within eleven of these steps and four more for
every kick that comes in between. -/
theorem kick_heard {vdevs : List RemoteprocVirtio}
    (hvdevs : ∀ rpvdev ∈ vdevs, rpvdev.notifyid ≠ RSC_NOTIFY_ID_ANY) {isr : Bool} {s : PollSystem}
    (hs : Run.Reachable PollSystem.Allowed (PollSystem.step vdevs) (.start isr) s)
    (hpoll : s.poll ≠ .idle) (hkick : s.heard < s.kicks) :
    (∃ action, action.own = true ∧ s.Prompt action ∧ (s.step vdevs action).isSome = true) ∧
      ∀ actions s',
        Run.exec (Run.guarded PollSystem.Prompt (PollSystem.step vdevs)) s actions = some s' →
        11 + 4 * actions.countP (fun action => !action.own) ≤ actions.countP PollAction.own →
        ∀ rpvdev ∈ vdevs, ∀ i < rpvdev.vringsInfo.length,
          (rpvdev.vdevRsc, i) ∈ s'.callbacks.drop s.callbacks.length := by
  have h : Unheard s s := ⟨pollInv_of_reachable hs, hpoll, rfl, hkick⟩
  refine ⟨h.exists_own vdevs, fun actions s' hexec hcount rpvdev hrpvdev i hi => ?_⟩
  let all := remoteprocGetNotification vdevs RSC_NOTIFY_ID_ANY
  have hmem : (rpvdev.vdevRsc, i) ∈ all :=
    List.mem_flatMap.mpr ⟨rpvdev, hrpvdev, mem_rprocVirtioNotified (hvdevs rpvdev hrpvdev) hi⟩
  have hgoal : s.callbacks ++ all <+: s'.callbacks := by
    refine Run.goal_of_exec (Unheard s) (fun t => s.callbacks ++ all <+: t.callbacks)
      PollAction.own PollSystem.measure 4 ?_ ?_ ?_ h hexec ?_
    · intro t a t' hprefix hstep
      rw [Run.guarded] at hstep
      split_ifs at hstep
      exact hprefix.trans (PollSystem.callbacks_prefix hstep)
    · intro t a t' hunheard hown hstep
      rw [Run.guarded] at hstep
      split_ifs at hstep with hprompt
      obtain heq | hmove := hunheard.own hown hprompt hstep
      · exact .inl (heq ▸ List.prefix_rfl)
      · exact .inr hmove
    · intro t a t' hunheard hother hstep
      rw [Run.guarded] at hstep
      split_ifs at hstep with hprompt
      exact hunheard.other hother hprompt.1 hstep
    · have hhandler := s.handlerSteps_le
      have hsteps := s.pollSteps_le
      unfold PollSystem.measure
      omega
  obtain ⟨rest, hrest⟩ := hgoal
  rw [← hrest, List.append_assoc, List.drop_left]
  exact List.mem_append_left rest hmem

/-- The kick comes when interrupts are off, just before the application looks at the flag. -/
theorem kick_heard_before_test :
    let vdevs : List RemoteprocVirtio := [⟨0, 2, [1, 3]⟩]
    ∃ s s' : PollSystem, s.poll = .testAndSet true ∧ s.ipiNokick = true ∧ s.callbacks = [] ∧
      Run.exec (PollSystem.step vdevs) s
        ([.stepPoll, .stepPoll, .stepPoll, .interrupt] ++ List.replicate 3 .stepHandler ++
          List.replicate 4 .stepPoll) = some s' ∧
      (0, 1) ∈ s'.callbacks := by
  intro vdevs
  let s : PollSystem := ⟨true, true, false, none, .testAndSet true, [], 1, 0⟩
  let s' : PollSystem := ⟨false, true, true, none, .idle, [(0, 0), (0, 1)], 1, 1⟩
  have hvdevs : ∀ rpvdev ∈ vdevs, rpvdev.notifyid ≠ RSC_NOTIFY_ID_ANY := by decide
  have hrun : Run.exec (Run.guarded PollSystem.Allowed (PollSystem.step vdevs)) (.start false)
      [.call, .stepPoll, .kick] = some s := by decide +kernel
  have hs := Run.reachable_of_exec .start hrun
  have hheard := (kick_heard hvdevs hs (by decide) (by decide)).2
    ([.stepPoll, .stepPoll, .stepPoll, .interrupt] ++ List.replicate 3 .stepHandler ++
      List.replicate 4 .stepPoll) s' (by decide +kernel) (by decide)
  exact ⟨s, s', rfl, rfl, rfl, by decide +kernel, hheard ⟨0, 2, [1, 3]⟩ (by decide) 1 (by decide)⟩

end OpenAmp
