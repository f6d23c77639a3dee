import OpenAmp.Library.Run
import OpenAmp.RemoteprocLoad

/-!
# The life cycle of a remote processor

`remoteproc_init` to `remoteproc_shutdown` of `lib/remoteproc/remoteproc.c`, and what the two loaders
do to the state of the instance. What a callback of the platform returns is an argument of the call
that invokes it. A history beside the state records the callbacks and the loads; no call reads it.
-/

namespace OpenAmp

def RPROC_EAGAIN : Int := 4

/-- The optional operations a platform has. It always has `start` and `remove`. -/
structure RemoteprocOps where
  config : Bool
  stop : Bool
  shutdown : Bool
deriving DecidableEq, Repr

inductive LcmEvent where
  | config (ret : Int)
  | start (ret : Int)
  | stop (ret : Int)
  | shutdown (ret : Int)
  | remove
  -- the instance leaves `RPROC_OFFLINE`
  | left
  -- a load has come to its end
  | loaded
deriving DecidableEq, Repr

/-- The part of an instance that its life cycle is about. -/
structure RemoteprocLcm where
  state : RemoteprocState
  -- whether the lock is initialised
  lock : Bool
  -- what has happened, oldest first
  history : List LcmEvent
deriving DecidableEq, Repr

/-- The instance after `remoteproc_init`, whose platform leaves the state alone. -/
def remoteprocInit : RemoteprocLcm := ⟨.offline, true, []⟩

def RemoteprocLcm.record (rproc : RemoteprocLcm) (event : LcmEvent) : RemoteprocLcm :=
  { rproc with history := rproc.history ++ [event] }

def remoteprocRemove (rproc : RemoteprocLcm) : Int × RemoteprocLcm :=
  if rproc.state = .offline then
    (0, { rproc.record .remove with lock := false })
  else
    (-RPROC_EAGAIN, { rproc with lock := false })

def remoteprocConfig (ops : RemoteprocOps) (configRet : Int) (rproc : RemoteprocLcm) :
    Int × RemoteprocLcm :=
  if rproc.state = .offline then
    let (ret, rproc) :=
      if ops.config then (configRet, rproc.record (.config configRet)) else (0, rproc)
    (ret, { rproc.record .left with state := .ready })
  else
    (-RPROC_EINVAL, rproc)

def remoteprocStart (startRet : Int) (rproc : RemoteprocLcm) : Int × RemoteprocLcm :=
  if rproc.state = .ready then
    (startRet, { rproc.record (.start startRet) with state := .running })
  else
    (-RPROC_EINVAL, rproc)

def remoteprocStop (ops : RemoteprocOps) (stopRet : Int) (rproc : RemoteprocLcm) :
    Int × RemoteprocLcm :=
  if rproc.state ≠ .stopped ∧ rproc.state ≠ .offline then
    let (ret, rproc) :=
      if ops.stop then (stopRet, rproc.record (.stop stopRet)) else (-RPROC_ENODEV, rproc)
    (ret, { rproc with state := .stopped })
  else
    (0, rproc)

def remoteprocShutdown (ops : RemoteprocOps) (stopRet shutdownRet : Int) (rproc : RemoteprocLcm) :
    Int × RemoteprocLcm :=
  if rproc.state ≠ .offline then
    let (ret, rproc) :=
      if rproc.state ≠ .stopped ∧ ops.stop then (stopRet, rproc.record (.stop stopRet))
      else (0, rproc)
    if ret = 0 then
      let (ret, rproc) :=
        if ops.shutdown then (shutdownRet, rproc.record (.shutdown shutdownRet)) else (0, rproc)
      (ret, if ret = 0 then { rproc with state := .offline } else rproc)
    else
      (ret, rproc)
  else
    (0, rproc)

/-- `remoteproc_load`. It comes to its end, or else gives up and returns `ret`. -/
def remoteprocLoadLcm (completed : Bool) (ret : Int) (rproc : RemoteprocLcm) :
    Int × RemoteprocLcm :=
  if rproc.state ≠ .ready ∧ rproc.state ≠ .configured then
    (-RPROC_EINVAL, rproc)
  else if completed then
    (0, { rproc.record .loaded with state := .ready })
  else
    (ret, rproc)

/-- A call of `remoteproc_load_noblock`: the one that completes the load, or another. -/
def remoteprocLoadNoblockLcm (completed : Bool) (ret : Int) (rproc : RemoteprocLcm) :
    Int × RemoteprocLcm :=
  if rproc.state ≠ .ready then
    (-RPROC_EINVAL, rproc)
  else if completed then
    (0, rproc.record .loaded)
  else
    (ret, rproc)

/-! ### Runs -/

inductive LcmAction where
  | config (configRet : Int)
  | load (completed : Bool) (ret : Int)
  | loadNoblock (completed : Bool) (ret : Int)
  | start (startRet : Int)
  | stop (stopRet : Int)
  | shutdown (stopRet shutdownRet : Int)
  | remove
deriving DecidableEq, Repr

/-- A call: what it returns, and the instance after it. -/
def RemoteprocLcm.call (ops : RemoteprocOps) (rproc : RemoteprocLcm) :
    LcmAction → Int × RemoteprocLcm
  | .config configRet => remoteprocConfig ops configRet rproc
  | .load completed ret => remoteprocLoadLcm completed ret rproc
  | .loadNoblock completed ret => remoteprocLoadNoblockLcm completed ret rproc
  | .start startRet => remoteprocStart startRet rproc
  | .stop stopRet => remoteprocStop ops stopRet rproc
  | .shutdown stopRet shutdownRet => remoteprocShutdown ops stopRet shutdownRet rproc
  | .remove => remoteprocRemove rproc

def RemoteprocLcm.step (ops : RemoteprocOps) (rproc : RemoteprocLcm) (action : LcmAction) :
    Option RemoteprocLcm :=
  some (rproc.call ops action).2

/-! ### What the history says -/

def LcmEvent.configRet? : LcmEvent → Option Int
  | .config ret => some ret
  | _ => none

def LcmEvent.stopRet? : LcmEvent → Option Int
  | .stop ret => some ret
  | _ => none

/-- Whether an event starts the processor or stops it. -/
def LcmEvent.turns : LcmEvent → Bool
  | .start _ => true
  | .stop ret => ret = 0
  | _ => false

/-- Whether an event is a load, or undoes those before it. -/
def LcmEvent.loads : LcmEvent → Bool
  | .left | .loaded => true
  | _ => false

/-- The result of the latest `config` callback. -/
def latestConfig (history : List LcmEvent) : Option Int :=
  (history.filterMap LcmEvent.configRet?).getLast?

/-- The result of the latest `stop` callback. -/
def latestStop (history : List LcmEvent) : Option Int :=
  (history.filterMap LcmEvent.stopRet?).getLast?

/-- The latest `start` callback, or the success of a `stop` callback since. -/
def latestTurn (history : List LcmEvent) : Option LcmEvent :=
  (history.filter LcmEvent.turns).getLast?

/-- The latest load that has completed, or the instance leaving `RPROC_OFFLINE` since. -/
def latestLoad (history : List LcmEvent) : Option LcmEvent :=
  (history.filter LcmEvent.loads).getLast?

end OpenAmp
