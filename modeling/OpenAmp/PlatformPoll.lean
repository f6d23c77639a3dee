import OpenAmp.RprocVirtio

/-!
# Polling for notifications

`platform_poll` of `apps/machine/zynqmp_r5/platform_info.c` and the handler of the inter-processor
interrupt in `apps/machine/zynqmp_r5/zynqmp_r5_a53_rproc.c`, access by access, against a peer that
may kick between any two of them. A kick sets a bit of the status register and leaves it set if it
was; the bit raises the interrupt. An interrupt may be delayed as long as the processor likes. A
processor that waits for an interrupt goes on when one is pending, masked or not, and may go on
without one.
-/

namespace OpenAmp

/-- Where the handler stands. -/
inductive IrqHandlerPc where
  -- about to read the status register
  | readStatus
  -- about to clear `ipi_nokick`
  | clearFlag
  -- about to write the status register, which clears the bit of the channel
  | acknowledge
deriving DecidableEq, Repr

/-- Where the application stands. `flags` is what `metal_irq_save_disable` returned. -/
inductive PlatformPollPc where
  -- outside `platform_poll`
  | idle
  | saveDisable
  | testAndSet (flags : Bool)
  -- a kick has been seen
  | restoreEnable (flags : Bool)
  | getNotification
  -- none has
  | rprocWait (flags : Bool)
  | restoreAgain (flags : Bool)
deriving DecidableEq, Repr

structure PollSystem where
  -- the bit of the channel in the interrupt status register
  isr : Bool
  ipiNokick : Bool
  -- whether the processor accepts interrupts
  irqEnabled : Bool
  handler : Option IrqHandlerPc
  poll : PlatformPollPc
  -- the callbacks that have run, each with its vdev and its vring, oldest first
  callbacks : List (Nat × Nat)
  -- how many kicks there were, and how many of them before the callbacks last began to run
  kicks : Nat
  heard : Nat
deriving DecidableEq, Repr

/-- After `zynqmp_r5_a53_proc_init`. A kick from before may have left its bit set. -/
def PollSystem.start (isr : Bool) : PollSystem where
  isr := isr
  ipiNokick := true
  irqEnabled := true
  handler := none
  poll := .idle
  callbacks := []
  kicks := 0
  heard := 0

/-- `zynqmp_r5_a53_proc_irq_handler`. -/
def PollSystem.stepHandler (s : PollSystem) : Option PollSystem :=
  match s.handler with
  | none => none
  | some .readStatus =>
      -- the interrupt is not this channel's
      if s.isr then some { s with handler := some .clearFlag } else some { s with handler := none }
  | some .clearFlag => some { s with ipiNokick := false, handler := some .acknowledge }
  | some .acknowledge => some { s with isr := false, handler := none }

/-- `platform_poll`. `remoteproc_get_notification` returns 0 for devices that exist. -/
def PollSystem.stepPoll (vdevs : List RemoteprocVirtio) (s : PollSystem) : Option PollSystem :=
  match s.poll with
  | .idle => none
  | .saveDisable => some { s with irqEnabled := false, poll := .testAndSet s.irqEnabled }
  | .testAndSet flags =>
      some { s with
        ipiNokick := true
        poll := if s.ipiNokick then .rprocWait flags else .restoreEnable flags }
  | .restoreEnable flags => some { s with irqEnabled := flags, poll := .getNotification }
  | .getNotification =>
      some { s with
        callbacks := s.callbacks ++ remoteprocGetNotification vdevs RSC_NOTIFY_ID_ANY
        heard := s.kicks
        poll := .idle }
  | .rprocWait flags => some { s with poll := .restoreAgain flags }
  | .restoreAgain flags => some { s with irqEnabled := flags, poll := .saveDisable }

inductive PollAction where
  -- the peer writes the trigger register
  | kick
  -- the application calls `platform_poll`
  | call
  -- the processor takes the interrupt
  | interrupt
  | stepHandler
  | stepPoll
  -- it stops waiting for no reason of this channel
  | wake
deriving DecidableEq, Repr

def PollSystem.step (vdevs : List RemoteprocVirtio) (s : PollSystem) :
    PollAction → Option PollSystem
  | .kick => some { s with isr := true, kicks := s.kicks + 1 }
  | .call => some { s with poll := .saveDisable }
  | .interrupt => some { s with handler := some .readStatus }
  | .stepHandler => s.stepHandler
  | .stepPoll | .wake => s.stepPoll vdevs

/-- The processor may take the interrupt. -/
def PollSystem.Interruptible (s : PollSystem) : Prop :=
  s.handler = none ∧ s.irqEnabled = true ∧ s.isr = true

/-- The application waits for an interrupt. -/
def PlatformPollPc.waits : PlatformPollPc → Bool
  | .rprocWait _ => true
  | .idle | .saveDisable | .testAndSet _ | .restoreEnable _ | .getNotification | .restoreAgain _ =>
      false

/-- The application runs while the handler does not, and waits until the interrupt is pending. -/
def PollSystem.Allowed (s : PollSystem) : PollAction → Prop
  | .kick => True
  | .call => s.handler = none ∧ s.poll = .idle
  | .interrupt => s.Interruptible
  | .stepHandler => s.handler.isSome = true
  | .stepPoll => s.handler = none ∧ s.poll ≠ .idle ∧ (s.poll.waits = true → s.isr = true)
  | .wake => s.handler = none ∧ s.poll.waits = true

/-- The same when the processor takes an interrupt before it does anything else. -/
def PollSystem.Prompt (s : PollSystem) (action : PollAction) : Prop :=
  s.Allowed action ∧ (s.Interruptible → action = .interrupt ∨ action = .kick)

instance PollSystem.decidableInterruptible (s : PollSystem) : Decidable s.Interruptible :=
  inferInstanceAs (Decidable (_ ∧ _))

instance PollSystem.decidableAllowed (s : PollSystem) (action : PollAction) :
    Decidable (s.Allowed action) :=
  match action with
  | .kick => inferInstanceAs (Decidable True)
  | .call => inferInstanceAs (Decidable (_ ∧ _))
  | .interrupt => inferInstanceAs (Decidable s.Interruptible)
  | .stepHandler => inferInstanceAs (Decidable (_ = _))
  | .stepPoll => inferInstanceAs (Decidable (_ ∧ _ ∧ _))
  | .wake => inferInstanceAs (Decidable (_ ∧ _))

instance PollSystem.decidablePrompt (s : PollSystem) (action : PollAction) :
    Decidable (s.Prompt action) :=
  inferInstanceAs (Decidable (_ ∧ _))

/-- A step of this processor while it polls. -/
def PollAction.own : PollAction → Bool
  | .interrupt | .stepHandler | .stepPoll | .wake => true
  | .kick | .call => false

end OpenAmp
