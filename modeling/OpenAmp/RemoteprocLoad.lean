import OpenAmp.ElfLoader
import OpenAmp.Library.Loop

/-!
# Loading firmware

The two loaders of `lib/remoteproc/remoteproc.c` over the ELF loader: `remoteproc_load`, which fetches
the image from a store and copies the segments itself, and `remoteproc_load_noblock` with the loop of
`load_exectuable_noblock` that drives it. The target memory is addressed physically.
-/

namespace OpenAmp

open ByteMemory Slice

inductive RemoteprocState where
  | offline
  | configured
  | ready
  | running
  | suspended
  | error
  | stopped
deriving DecidableEq, Repr

/-- What the loaders use of a libmetal region: its addresses, and the block operations as they act on
the target memory. Their lengths are of type `int`. A read returns how many bytes it has read or an
error, and the bytes. -/
structure TargetIo where
  physToOffset : Nat → Nat
  physToVirt : Nat → Nat
  virtToOffset : Nat → Nat
  blockSet : Nat → UInt8 → Int → (Nat → UInt8) → Nat → UInt8
  blockRead : Nat → Int → (Nat → UInt8) → Int × List UInt8
  blockWrite : Nat → List UInt8 → Int → (Nat → UInt8) → Nat → UInt8

/-- The device and the physical address of a memory, and its size. -/
structure MemRange where
  da : Nat
  pa : Nat
  size : Nat

structure RemoteprocMem extends MemRange where
  io : TargetIo

/-- Where a range of device addresses is mapped. -/
structure TargetMapping where
  va : Nat
  pa : Nat
  io : TargetIo

structure Remoteproc where
  state : RemoteprocState
  -- whether `loader` has been set to the ELF loader, the only one
  loader : Bool
  mems : List RemoteprocMem
  -- `ops->mmap`, if there is one: it maps a range of device addresses, or fails and sets nothing
  mmap : Option (Nat → Nat → Option TargetMapping)
  bootaddr : Nat

/-- A remote processor and its memory. `mapped` collects the device addresses and sizes of the
mappings that were made. -/
structure Target where
  rproc : Remoteproc
  ram : Nat → UInt8
  mapped : List (Nat × Nat)

/-- `remoteproc_get_mem` without a name and without a virtual address. -/
def remoteprocGetMem (mems : List RemoteprocMem) (pa da size : Nat) : Option RemoteprocMem :=
  mems.find? fun mem =>
    if pa ≠ METAL_BAD_PHYS then
      mem.pa ≤ pa ∧ u64 (pa + size) ≤ u64 (mem.pa + mem.size)
    else if da ≠ METAL_BAD_PHYS then
      mem.da ≤ da ∧ u64 (da + size) ≤ u64 (mem.da + mem.size)
    else false

def remoteprocDatopa (mem : RemoteprocMem) (da : Nat) : Nat :=
  ofInt 64 ((mem.pa : Int) + da - mem.da)

/-- The mapping of a device address: through a registered memory, or by the platform. -/
def Remoteproc.mapping (rproc : Remoteproc) (da size : Nat) : Option TargetMapping :=
  match remoteprocGetMem rproc.mems METAL_BAD_PHYS da size with
  | some mem =>
      let pa := if da ≠ METAL_BAD_PHYS then remoteprocDatopa mem da else METAL_BAD_PHYS
      some ⟨mem.io.physToVirt pa, pa, mem.io⟩
  | none => rproc.mmap.bind fun map => map da size

/-- What `remoteproc_mmap` returns, and what it leaves in the variables of its caller. -/
structure TargetMmapOut where
  va : Nat
  pa : Nat
  io : Option TargetIo

/-- `remoteproc_mmap` of a device address, where the caller passes `METAL_BAD_PHYS` for the physical
one. The region stays as it was if the range cannot be mapped. -/
def remoteprocMmap (rproc : Remoteproc) (da size : Nat) (io : Option TargetIo) : TargetMmapOut :=
  match rproc.mapping da size with
  | some map => ⟨map.va, map.pa, some map.io⟩
  | none => ⟨NULL, METAL_BAD_PHYS, io⟩

/-- An image store that can seek: `open` hands out the first `openLen` bytes. -/
structure ImageStore where
  image : List UInt8
  openLen : Nat
  -- what a load to target memory leaves in the caller's pointer to local image data
  leave : Option (List UInt8) → Option (List UInt8)

/-- `load` to local memory: what was asked for, if the image has it. -/
def ImageStore.load (store : ImageStore) (offset size : Nat) : Int × Option (List UInt8) :=
  if offset + size ≤ store.image.length then
    (toInt32 size, some (slice store.image offset size))
  else (-RPROC_EINVAL, none)

/-- `load` to target memory. -/
def ImageStore.loadTarget (store : ImageStore) (offset size pa : Nat) (ram : Nat → UInt8) :
    Int × (Nat → UInt8) :=
  if offset + size ≤ store.image.length then
    (toInt32 size, writeBytes ram pa (slice store.image offset size))
  else (-RPROC_EINVAL, ram)

/-- What the loaders call besides: the allocator, and `handle_rsc_table`, which returns a status and
leaves the table with the notification ids it has given out. -/
structure LoaderEnv where
  allocate : Nat → Bool
  handleRscTable : List UInt8 → Int × List UInt8

def remoteprocCheckFwFormat (imgData : Option (List UInt8)) (imgLen : Nat) : Bool :=
  imgLen ≠ 0 ∧ elfIdentify imgData imgLen = 0

/-! ### The loops of `remoteproc_load`

A round is written once, in any monad: it calls the store, the loader and the platform through
operations, and what these act on is in the monad. -/

/-- How a loop is left: by `break`, with an error, or not at all. -/
inductive LoopExit where
  | leave
  | error (ret : Int)
  | stuck
deriving DecidableEq, Repr

/-- The variables of the loop that loads the headers. -/
structure HeaderVars (Img : Type) where
  imgData : Option Img
  offset : Nat
  len : Nat
  imgInfo : Option ElfInfo
  lastLoadState : Nat
  noffset : Nat
  nlen : Nat

/-- `load_header` has no outcome where it reads through a null pointer; `load` is told where the piece
of the file starts and how long it is. -/
structure HeaderOps (m : Type → Type) (Img : Type) where
  supportSeek : Bool
  loadHeader : HeaderVars Img → m (Option HeaderOut)
  load : Nat → Nat → m (Int × Option Img)

/-- A round of the loop that loads the headers. -/
def HeaderOps.round {m : Type → Type} [Monad m] {Img : Type} (ops : HeaderOps m Img)
    (s : HeaderVars Img) : m (HeaderVars Img ⊕ (HeaderVars Img × LoopExit)) := do
  match ← ops.loadHeader s with
  | none => pure (.inr (s, .stuck))
  | some out =>
      let s := { s with imgInfo := out.imgInfo, noffset := out.noffset, nlen := out.nlen }
      match out.ret with
      | .error status => pure (.inr (s, .error status))
      | .ok lastLoadState =>
          let s := { s with lastLoadState }
          if lastLoadState &&& RPROC_LOADER_READY_TO_LOAD ≠ 0 ∧
              (s.nlen = 0 ∨ s.noffset > u64 (s.offset + s.len) ∧ ops.supportSeek = false) then
            pure (.inr (s, .leave))
          else do
            let (ret, imgData) ← ops.load s.noffset s.nlen
            let s := { s with imgData }
            if ret < toInt32 s.nlen then pure (.inr (s, .error ret))
            else pure (.inl { s with offset := s.noffset, len := s.nlen })

/-- The variables of the loop that loads the data. -/
structure DataVars (Img Io : Type) where
  imgData : Option Img
  offset : Nat
  len : Nat
  imgInfo : Option ElfInfo
  lastLoadState : Nat
  io : Option Io

/-- A range of target memory that `remoteproc_mmap` has accepted for a device address. -/
structure Mapped where
  da : Nat
  pa : Nat
  size : Nat
deriving DecidableEq, Repr

structure DataOps (m : Type → Type) (Img Io : Type) where
  loadData : DataVars Img Io → m (Option LoadOut)
  load : Nat → Nat → m (Int × Option Img)
  -- the physical address of a device address, and its region
  mmap : Nat → Nat → Option Io → m (Nat × Option Io)
  -- `load` to the start of a range
  loadTarget : Mapped → Nat → Nat → m (Int × Option Img)
  physToOffset : Io → Nat → Nat
  blockSet : Mapped → Io → Nat → UInt8 → Int → m Unit

namespace DataOps

variable {m : Type → Type} [Monad m] {Img Io : Type} (ops : DataOps m Img Io)

/-- The bytes of a segment that are in the file. -/
def loadSegment (s : DataVars Img Io) (mapped : Mapped) (vars : LoadVars) : m (Int × Option Img) :=
  if vars.nlen > 0 then ops.loadTarget mapped vars.noffset vars.nlen
  else pure (toInt32 vars.nlen, s.imgData)

/-- The copy of a segment to the range mapped for it, and padding behind it. -/
def copySegment (s : DataVars Img Io) (io : Io) (mapped : Mapped) (vars : LoadVars) :
    m (DataVars Img Io ⊕ (DataVars Img Io × LoopExit)) := do
  let (ret, imgData) ← ops.loadSegment s mapped vars
  let s := { s with imgData }
  if ret ≠ toInt32 vars.nlen then pure (.inr (s, .error (-RPROC_EINVAL)))
  else if vars.nmemsize > vars.nlen then do
    let tmpoffset := ops.physToOffset io (u64 (mapped.pa + vars.nlen))
    -- the length is passed on as an `int`
    ops.blockSet mapped io tmpoffset vars.padding (toInt32 (vars.nmemsize - vars.nlen : Nat))
    pure (.inl s)
  else pure (.inl s)

/-- A piece of the file for the loader. -/
def fetch (s : DataVars Img Io) (vars : LoadVars) :
    m (DataVars Img Io ⊕ (DataVars Img Io × LoopExit)) := do
  let (ret, imgData) ← ops.load vars.noffset vars.nlen
  let s := { s with imgData }
  if ret < toInt32 vars.nlen then
    if s.lastLoadState &&& RPROC_LOADER_POST_DATA_LOAD ≠ 0 then pure (.inr (s, .leave))
    else pure (.inr (s, .error ret))
  else pure (.inl { s with offset := vars.noffset, len := vars.nlen })

/-- What a round makes of the variables that the loader has written. -/
def act (s : DataVars Img Io) (vars : LoadVars) :
    m (DataVars Img Io ⊕ (DataVars Img Io × LoopExit)) :=
  if vars.da ≠ RPROC_LOAD_ANYADDR then do
    let (pa, io) ← ops.mmap vars.da vars.nmemsize s.io
    let s := { s with imgData := none, io }
    match io with
    | none => pure (.inr (s, .error (-RPROC_EINVAL)))
    | some io =>
        if pa = METAL_BAD_PHYS then pure (.inr (s, .error (-RPROC_EINVAL)))
        else ops.copySegment s io ⟨vars.da, pa, vars.nmemsize⟩ vars
  else if vars.nlen ≠ 0 then ops.fetch s vars
  else pure (.inr (s, .leave))

/-- A round of the loop that loads the data. -/
def round (s : DataVars Img Io) : m (DataVars Img Io ⊕ (DataVars Img Io × LoopExit)) := do
  match ← ops.loadData s with
  | none => pure (.inr (s, .stuck))
  | some out =>
      let s := { s with imgInfo := out.imgInfo }
      match out.ret with
      | .error status => pure (.inr (s, .error status))
      | .ok lastLoadState => ops.act { s with lastLoadState } out.vars

end DataOps

/-- The state that a round leaves behind, whether the loop goes on or not. -/
def afterRound {S : Type} : S ⊕ (S × LoopExit) → S
  | .inl s => s
  | .inr (s, _) => s

/-- A round on the variables of a loop, as one on the whole state. -/
def withWorld {V W S : Type} (mk : V → W → S) (round : StateM W (V ⊕ (V × LoopExit))) (w : W) :
    S ⊕ (S × LoopExit) :=
  match round.run w with
  | (.inl v, w) => .inl (mk v w)
  | (.inr (v, exit), w) => .inr (mk v w, exit)

/-! ### `remoteproc_load` -/

abbrev HeaderLoop := HeaderVars (List UInt8)

def imageHeaders (env : LoaderEnv) (store : ImageStore) : HeaderOps Id (List UInt8) where
  supportSeek := true
  loadHeader s :=
    pure (elfLoadHeader env.allocate s.imgData s.offset s.len s.imgInfo s.lastLoadState s.noffset
      s.nlen)
  load noffset nlen := pure (store.load noffset nlen)

def HeaderLoop.body (env : LoaderEnv) (store : ImageStore) (s : HeaderLoop) :
    HeaderLoop ⊕ (HeaderLoop × LoopExit) :=
  ((imageHeaders env store).round s).run

structure DataLoop extends DataVars (List UInt8) TargetIo where
  target : Target

def imageData (env : LoaderEnv) (store : ImageStore) :
    DataOps (StateM Target) (List UInt8) TargetIo where
  loadData s :=
    pure (elfLoad env.allocate s.imgData s.offset s.len s.imgInfo s.lastLoadState
      ⟨RPROC_LOAD_ANYADDR, 0, 0, 0, 0⟩)
  load noffset nlen := pure (store.load noffset nlen)
  mmap da size io := modifyGet fun target =>
    let map := remoteprocMmap target.rproc da size io
    ((map.pa, map.io),
      if map.io.isSome ∧ map.pa ≠ METAL_BAD_PHYS then
        { target with mapped := target.mapped ++ [(da, size)] }
      else target)
  loadTarget mapped noffset nlen := modifyGet fun target =>
    let (ret, ram) := store.loadTarget noffset nlen mapped.pa target.ram
    ((ret, store.leave none), { target with ram })
  physToOffset := TargetIo.physToOffset
  blockSet _ io offset value len := modify fun target =>
    { target with ram := io.blockSet offset value len target.ram }

def DataLoop.body (env : LoaderEnv) (store : ImageStore) (s : DataLoop) :
    DataLoop ⊕ (DataLoop × LoopExit) :=
  withWorld .mk ((imageData env store).round s.toDataVars) s.target

/-- The resource table, if the headers show one. -/
def locatedRscTable (info : ElfInfo) : Option Shdr :=
  match elfLocateRscTable info with
  | .error _ => none
  | .ok shdr => shdr.filter fun shdr => shdr.shSize > 0

def remoteprocGetRscTable (env : LoaderEnv) (store : ImageStore) (offset len : Nat) :
    Except Int (List UInt8) :=
  if env.allocate len = false then .error (-RPROC_ENOMEM)
  else
    match store.load offset len with
    | (_, none) => .error (-RPROC_EINVAL)
    | (ret, some rscTable) =>
        if ret < 0 ∨ ret < toInt32 len then .error (-RPROC_EINVAL)
        else
          let (status, rscTable) := env.handleRscTable rscTable
          if status < 0 then .error status else .ok rscTable

/-- The resource table as `remoteproc_load` keeps it: a failure is kept in place of the pointer. -/
def fileRscTable (env : LoaderEnv) (store : ImageStore) (info : ElfInfo) :
    Option (Shdr × Except Int (List UInt8)) :=
  (locatedRscTable info).map fun shdr =>
    (shdr, remoteprocGetRscTable env store shdr.shOffset shdr.shSize)

/-- Update resource table. A failure is taken for a pointer then, which has no outcome, and neither
has an address without a region. -/
def updateRscTable (io : Option TargetIo) (target : Target) :
    Option (Shdr × Except Int (List UInt8)) → Option Target
  | none => some target
  | some (_, .error _) => none
  | some (shdr, .ok rscTable) =>
      let map := remoteprocMmap target.rproc shdr.shAddr shdr.shSize io
      if map.va = NULL then some target
      else map.io.map fun io => { target with
        ram := io.blockWrite (io.virtToOffset map.va) rscTable (toInt32 shdr.shSize) target.ram
        mapped := target.mapped ++ [(shdr.shAddr, shdr.shSize)] }

/-- The part of `remoteproc_load` after the headers. -/
def remoteprocLoadData (env : LoaderEnv) (rounds : Nat) (store : ImageStore) (headers : HeaderLoop)
    (target : Target) : Option (Int × Target) := do
  let info ← headers.imgInfo
  let early := fileRscTable env store info
  match ← Loop.run (DataLoop.body env store) rounds
      ⟨⟨headers.imgData, 0, 0, headers.imgInfo, headers.lastLoadState, none⟩, target⟩ with
  | (_, .stuck) => none
  | (data, .error status) =>
      -- the table is released, if there is one
      match early with
      | some (_, .error _) => none
      | _ => some (status, data.target)
  | (data, .leave) => do
      let info ← data.imgInfo
      let target ← updateRscTable data.io data.target (early <|> fileRscTable env store info)
      some (0, { target with
        rproc := { target.rproc with bootaddr := elfGetEntry info, state := .ready } })

/-- `remoteproc_load`. The loops run for so many rounds at most; more rounds than a loop needs make no
difference. -/
def remoteprocLoad (env : LoaderEnv) (rounds : Nat) (store : ImageStore) (target : Target) :
    Option (Int × Target) :=
  if target.rproc.state ≠ .ready ∧ target.rproc.state ≠ .configured then
    some (-RPROC_EINVAL, target)
  else if store.openLen = 0 then
    some (-RPROC_EINVAL, target)
  else
    let imgData := some (slice store.image 0 store.openLen)
    if target.rproc.loader = false ∧ remoteprocCheckFwFormat imgData store.openLen = false then
      some (-RPROC_EINVAL, target)
    else do
      let target := { target with rproc := { target.rproc with loader := true } }
      match ← Loop.run (HeaderLoop.body env store) rounds
          ⟨imgData, 0, store.openLen, none, RPROC_LOADER_NOT_READY, 0, 0⟩ with
      | (_, .stuck) => none
      | (_, .error status) => some (status, target)
      | (headers, .leave) => remoteprocLoadData env rounds store headers target

/-! ### `remoteproc_load_noblock` -/

/-- The variables of the caller that `remoteproc_load_noblock` writes. -/
structure NoblockVars where
  pa : Nat
  io : Option TargetIo
  noffset : Nat
  nlen : Nat
  nmlen : Nat
  padding : UInt8

/-- What a call returns and leaves behind. The image information is released where it is `none`. -/
structure NoblockOut where
  ret : Int
  imgInfo : Option ElfInfo
  vars : NoblockVars
  target : Target

/-- The end of a call: the resource table and the entry point, once everything is there. If the table
cannot be mapped, the status is still that of `locate_rsc_table`. -/
def noblockComplete (env : LoaderEnv) (info : ElfInfo) (lastLoadState : Nat) (vars : NoblockVars)
    (target : Target) : NoblockOut :=
  if lastLoadState &&& RPROC_LOADER_LOAD_COMPLETE ≠ 0 then
    let rproc := { target.rproc with bootaddr := elfGetEntry info }
    match locatedRscTable info with
    | none => ⟨0, some info, vars, { target with rproc }⟩
    | some shdr =>
        if env.allocate shdr.shSize = false then ⟨-RPROC_ENOMEM, none, vars, target⟩
        else
          match remoteprocMmap target.rproc shdr.shAddr shdr.shSize vars.io with
          | ⟨_, _, none⟩ => ⟨0, none, vars, target⟩
          | ⟨va, _, some io⟩ =>
              let vars := { vars with io := some io }
              let (count, rscTable) :=
                io.blockRead (io.virtToOffset va) (toInt32 shdr.shSize) target.ram
              if count ≠ toInt32 shdr.shSize then ⟨count, none, vars, target⟩
              else
                let (status, rscTable) := env.handleRscTable rscTable
                if status < 0 then ⟨status, none, vars, target⟩
                else
                  let ram :=
                    io.blockWrite (io.virtToOffset va) rscTable (toInt32 shdr.shSize) target.ram
                  let mapped := target.mapped ++ [(shdr.shAddr, shdr.shSize)]
                  ⟨0, some info, vars, ⟨rproc, ram, mapped⟩⟩
  else ⟨0, some info, vars, target⟩

/-- The middle of a call: the next segment, or what is left of the headers. -/
def noblockData (env : LoaderEnv) (imgData : Option (List UInt8)) (offset len : Nat)
    (imgInfo : Option ElfInfo) (lastLoadState : Nat) (vars : NoblockVars) (target : Target) :
    Option NoblockOut :=
  if lastLoadState &&& RPROC_LOADER_READY_TO_LOAD ≠ 0 ∨
      lastLoadState &&& RPROC_LOADER_POST_DATA_LOAD ≠ 0 then do
    let out ← elfLoad env.allocate imgData offset len imgInfo lastLoadState
      ⟨RPROC_LOAD_ANYADDR, vars.noffset, vars.nlen, vars.padding, vars.nmlen⟩
    let vars := { vars with
      noffset := out.vars.noffset, nlen := out.vars.nlen, nmlen := out.vars.nmemsize
      padding := out.vars.padding }
    match out.ret with
    | .error status => some ⟨status, none, vars, target⟩
    | .ok lastLoadState =>
        if out.vars.da ≠ RPROC_LOAD_ANYADDR then
          let map := remoteprocMmap target.rproc out.vars.da vars.nmlen vars.io
          let vars := { vars with pa := map.pa, io := map.io }
          if map.pa = METAL_BAD_PHYS then some ⟨-RPROC_EINVAL, none, vars, target⟩
          else
            let target := { target with mapped := target.mapped ++ [(out.vars.da, vars.nmlen)] }
            if vars.nlen ≠ 0 then some ⟨0, out.imgInfo, vars, target⟩
            else some (noblockComplete env (← out.imgInfo) lastLoadState vars target)
        else if vars.nlen ≠ 0 then some ⟨0, out.imgInfo, vars, target⟩
        else some (noblockComplete env (← out.imgInfo) lastLoadState vars target)
  else do
    some (noblockComplete env (← imgInfo) lastLoadState vars target)

/-- `remoteproc_load_noblock`. -/
def remoteprocLoadNoblock (env : LoaderEnv) (imgData : Option (List UInt8)) (offset len : Nat)
    (imgInfo : Option ElfInfo) (vars : NoblockVars) (target : Target) : Option NoblockOut :=
  if target.rproc.state ≠ .ready then some ⟨-RPROC_EINVAL, imgInfo, vars, target⟩
  else if target.rproc.loader = false ∧
      (imgData = none ∨ offset ≠ 0 ∨ len = 0 ∨ remoteprocCheckFwFormat imgData len = false) then
    some ⟨-RPROC_EINVAL, imgInfo, vars, target⟩
  else
    let target := { target with rproc := { target.rproc with loader := true } }
    let lastLoadState := imgInfo.elim 0 elfGetLoadState
    let vars := { vars with nlen := 0 }
    if lastLoadState &&& RPROC_LOADER_READY_TO_LOAD = 0 ∧
        lastLoadState &&& RPROC_LOADER_LOAD_COMPLETE = 0 then do
      let out ← elfLoadHeader env.allocate imgData offset len imgInfo lastLoadState vars.noffset
        vars.nlen
      let vars := { vars with noffset := out.noffset, nlen := out.nlen }
      match out.ret with
      | .error status => some ⟨status, none, vars, target⟩
      | .ok lastLoadState =>
          if vars.nlen ≠ 0 ∧ lastLoadState &&& RPROC_LOADER_READY_TO_LOAD = 0 then
            some ⟨0, out.imgInfo, vars, target⟩
          else noblockData env imgData offset len out.imgInfo lastLoadState vars target
    else noblockData env imgData offset len imgInfo lastLoadState vars target

/-! ### `load_exectuable_noblock` -/

structure StreamLoop where
  imgData : Option (List UInt8)
  offset : Nat
  len : Nat
  imgInfo : Option ElfInfo
  noffset : Nat
  padding : UInt8
  target : Target

/-- `load` as a call of `remoteproc_load_noblock` has asked for: to local memory, or to the target. -/
def ImageStore.fetch (store : ImageStore) (imgData : Option (List UInt8)) (vars : NoblockVars)
    (ram : Nat → UInt8) : Int × Option (List UInt8) × (Nat → UInt8) :=
  if vars.pa = METAL_BAD_PHYS then
    let (ret, imgData) := store.load vars.noffset vars.nlen
    (ret, imgData, ram)
  else
    let (ret, loaded) := store.loadTarget vars.noffset vars.nlen vars.pa ram
    (ret, store.leave imgData, loaded)

/-- A round of the loop of `load_exectuable_noblock`. -/
def StreamLoop.body (env : LoaderEnv) (store : ImageStore) (s : StreamLoop) :
    StreamLoop ⊕ Option (Int × Target) :=
  match remoteprocLoadNoblock env s.imgData s.offset s.len s.imgInfo
      ⟨METAL_BAD_PHYS, none, s.noffset, 0, 0, s.padding⟩ s.target with
  | none => .inr none
  | some ⟨ret, imgInfo, vars, target⟩ =>
      if ret ≠ 0 then .inr (some (ret, target))
      else if vars.nlen = 0 then .inr (some (0, target))
      else
        let (ret, imgData, loaded) := store.fetch s.imgData vars target.ram
        if ret ≠ toInt32 vars.nlen then .inr (some (ret, target))
        else
          let ram :=
            if vars.nmlen > vars.nlen then
              -- pad the rest of the memory
              vars.io.elim loaded fun io =>
                io.blockSet (io.physToOffset (u64 (vars.pa + vars.nlen))) vars.padding
                  (toInt32 (vars.nmlen - vars.nlen : Nat)) loaded
            else loaded
          .inl ⟨imgData, vars.noffset, vars.nlen, imgInfo, vars.noffset, vars.padding,
            { target with ram }⟩

/-- `load_exectuable_noblock` up to the start of the processor. The variables `noffset` and `padding`
are not set before the first call. -/
def loadExectuableNoblock (env : LoaderEnv) (rounds : Nat) (store : ImageStore) (noffset : Nat)
    (padding : UInt8) (target : Target) : Option (Int × Target) :=
  if store.openLen = 0 then some (-EINVAL, target)
  else do
    ← Loop.run (StreamLoop.body env store) rounds
      ⟨some (slice store.image 0 store.openLen), 0, store.openLen, none, noffset, padding, target⟩

end OpenAmp
