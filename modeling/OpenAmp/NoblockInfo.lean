import OpenAmp.Library.Run
import OpenAmp.StoreLoad

/-!
# The image information of a stream

Calls of `remoteproc_load_noblock` that share one `img_info` variable: which image information each of
them reads, leaves in the variable and releases.
-/

namespace OpenAmp

/-- A call with the address of the variable. Between two calls anything else may happen to the
instance, so each has the instance as it finds it. -/
structure NoblockCall where
  plat : LoadPlatform
  blockRead : IoRegion → Nat → Nat → Int × List UInt8
  imgData : Option (Nat → UInt8)
  offset : Nat
  len : Nat
  vars : StreamVars
  proc : LoadProc

open ByteMemory

namespace NoblockCall

def run (call : NoblockCall) (imgInfo : Option ElfInfo) : Option StreamResult :=
  remoteprocLoadNoblockAny call.plat call.blockRead call.imgData call.offset call.len imgInfo call.vars
    call.proc

/-- The instance is ready and has a loader, or gets one: the call goes on to the image information. -/
def Looks (call : NoblockCall) : Prop :=
  call.proc.state = .ready ∧
    (call.proc.loader = true ∨ call.offset = 0 ∧ call.len ≠ 0 ∧
      remoteprocCheckFwFormat (call.imgData.map fun img => readBytes img 0 SELFMAG) call.len = true)

instance (call : NoblockCall) : Decidable call.Looks := inferInstanceAs (Decidable (_ ∧ _))

/-- `limg_info` is set where the call ends. If the caller has none, the first call of the loader's
`load_header` is the one that allocates it. -/
def holdsInfo (call : NoblockCall) (imgInfo : Option ElfInfo) : Bool :=
  imgInfo.isSome || (call.Looks && (elfLoadHeaderFrom call.plat call.imgData call.offset call.len none
    ELF_STATE_INIT call.vars.noffset 0).any fun out => out.imgInfo.isSome)

end NoblockCall

/-- The variable, and what has become of the objects. An object has the number of the call that has
allocated it. -/
structure InfoSystem where
  -- what the variable points at, and what was last stored there
  imgInfo : Option (Nat × ElfInfo)
  released : List Nat
  -- for each call whether it has found the variable set, and whether it has left through `error1`
  calls : List (Bool × Bool)

namespace InfoSystem

/-- The variable is NULL. -/
def start : InfoSystem := ⟨none, [], []⟩

/-- What `limg_info` points at if it is set. -/
def object (s : InfoSystem) : Nat := s.imgInfo.elim s.calls.length Prod.fst

/-- What `loader->get_load_state` reads. -/
def reads (s : InfoSystem) (call : NoblockCall) : List Nat :=
  if call.Looks then s.imgInfo.toList.map Prod.fst else []

/-- What `loader->release` is called with on the way out. -/
def releases (s : InfoSystem) (call : NoblockCall) : List Nat :=
  if (call.run (s.imgInfo.map Prod.snd)).any (fun r => r.gaveUp) ∧
      call.holdsInfo (s.imgInfo.map Prod.snd) then [s.object]
  else []

def step (s : InfoSystem) (call : NoblockCall) : Option InfoSystem := do
  let r ← call.run (s.imgInfo.map Prod.snd)
  some
    { imgInfo := if r.gaveUp then s.imgInfo else r.imgInfo.map fun info => (s.object, info)
      released := s.releases call ++ s.released
      calls := (s.imgInfo.isSome, r.gaveUp) :: s.calls }

/-- The call neither reads nor releases an object that an earlier call has released. -/
def NoReuse (s : InfoSystem) (call : NoblockCall) : Prop :=
  ∀ object ∈ s.reads call ++ s.releases call, object ∉ s.released

instance (s : InfoSystem) (call : NoblockCall) : Decidable (s.NoReuse call) :=
  inferInstanceAs (Decidable (∀ object ∈ _, object ∉ s.released))

/-- No call that has found image information has failed through `error1` before, or this call does not
get as far as the variable. -/
def Unfailed (s : InfoSystem) (call : NoblockCall) : Prop :=
  call.Looks → (true, true) ∉ s.calls

end InfoSystem

end OpenAmp
