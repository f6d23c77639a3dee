import OpenAmp.LoadHistory
import OpenAmp.Proof.FirmwareLoad
import OpenAmp.Proof.Lifecycle

/-!
# What a load owes to the loads before it
-/

namespace OpenAmp

open Slice ByteMemory Stateful

/-! ### The parser of the resource table -/

section Table

variable (ops : RscOps) (io : Option (Nat → Bool))

theorem handleRsc_forgetId (bitmap₁ bitmap₂ : Nat → Bool) (status : Int) (rsc : FwRsc) :
    (handleRsc ops bitmap₁ status rsc).2.1.forgetId = rsc.forgetId ∧
      (handleRsc ops bitmap₁ status rsc).2.2 = (handleRsc ops bitmap₂ status rsc).2.2 := by
  cases rsc <;> exact ⟨rfl, rfl⟩

/-- Which ids are in use makes no difference to what the loop returns, and none to the entries but
for the ids of the vdevs. -/
theorem handleRscs_forgetId (bitmap₁ bitmap₂ : Nat → Bool) (status : Int)
    (entries : List (Nat × FwRsc)) :
    (handleRscs ops io bitmap₁ status entries).2.1.map (fun entry => (entry.1, entry.2.forgetId)) =
        entries.map (fun entry => (entry.1, entry.2.forgetId)) ∧
      (handleRscs ops io bitmap₁ status entries).2.2 =
        (handleRscs ops io bitmap₂ status entries).2.2 := by
  induction entries generalizing bitmap₁ bitmap₂ status with
  | nil => exact ⟨rfl, rfl⟩
  | cons entry entries ih =>
      obtain ⟨offset, rsc⟩ := entry
      obtain ⟨hforget, hstatus⟩ := handleRsc_forgetId ops bitmap₁ bitmap₂ status rsc
      simp only [handleRscs, ← hstatus]
      split_ifs
      · exact ⟨rfl, rfl⟩
      · exact ⟨by simp [hforget, (ih _ bitmap₂ 0).1], (ih _ _ 0).2⟩
      · exact ⟨by simp [hforget], rfl⟩
      · exact ⟨by simp [hforget, (ih _ bitmap₂ _).1], (ih _ _ _).2⟩

theorem handleRscTable_forgetIds (size : Nat) (bitmap₁ bitmap₂ : Nat → Bool)
    (table : ResourceTable) :
    (handleRscTable ops io size bitmap₁ table).2.1.forgetIds = table.forgetIds ∧
      (handleRscTable ops io size bitmap₁ table).2.2 =
        (handleRscTable ops io size bitmap₂ table).2.2 := by
  obtain ⟨hentries, hstatus⟩ := handleRscs_forgetId ops io bitmap₁ bitmap₂ 0 table.entries
  unfold handleRscTable
  split_ifs
  · exact ⟨rfl, rfl⟩
  · exact ⟨rfl, rfl⟩
  · exact ⟨rfl, rfl⟩
  · exact ⟨rfl, rfl⟩
  · exact ⟨by simp [ResourceTable.forgetIds, hentries], hstatus⟩

theorem vdev_of_forgetId {rsc rsc' : FwRsc} (h : rsc'.forgetId = rsc.forgetId) :
    (∃ vdev, rsc' = .vdev vdev) ↔ ∃ vdev, rsc = .vdev vdev := by
  cases rsc <;> cases rsc' <;> simp_all [FwRsc.forgetId]

end Table

/-! ### The bytes of the table -/

section Bytes

variable {bytes : List UInt8} {offset i : Nat}

theorem length_writeRsc_le (bytes : List UInt8) (entry : Nat × FwRsc) :
    bytes.length ≤ (writeRsc bytes entry).length := by
  obtain ⟨offset, rsc⟩ := entry
  cases rsc with
  | vdev rsc =>
      simp only [writeRsc, List.length_append, List.length_take, length_leBytes, List.length_drop]
      omega
  | carveout | devmem | trace | vendor | other => exact Nat.le_refl _

/-- Only the id of a vdev is written. -/
theorem writeRsc_getElem? (entry : Nat × FwRsc) (hi : i < bytes.length)
    (hkept : (∃ rsc, entry.2 = .vdev rsc) → i ∉ Set.Ico (entry.1 + 8) (entry.1 + 12)) :
    (writeRsc bytes entry)[i]? = bytes[i]? := by
  obtain ⟨offset, rsc⟩ := entry
  cases rsc with
  | vdev rsc =>
      have hout : ¬ (offset + 8 ≤ i ∧ i < offset + 12) := hkept ⟨rsc, rfl⟩
      simp only [writeRsc, List.append_assoc]
      by_cases hlow : i < offset + 8
      · have hlen : i < (bytes.take (offset + 8)).length := by
          rw [List.length_take]
          omega
        rw [List.getElem?_append_left hlen, List.getElem?_take_of_lt hlow]
      · have hlen : (bytes.take (offset + 8)).length = offset + 8 := by
          rw [List.length_take]
          omega
        rw [List.getElem?_append_right (by omega), hlen,
          List.getElem?_append_right (by rw [length_leBytes]; omega), length_leBytes,
          List.getElem?_drop]
        congr 1
        omega
  | carveout | devmem | trace | vendor | other => rfl

theorem foldl_writeRsc_getElem? (entries : List (Nat × FwRsc)) (hi : i < bytes.length)
    (hkept : ∀ entry ∈ entries, (∃ rsc, entry.2 = .vdev rsc) →
      i ∉ Set.Ico (entry.1 + 8) (entry.1 + 12)) :
    (entries.foldl writeRsc bytes)[i]? = bytes[i]? := by
  induction entries generalizing bytes with
  | nil => rfl
  | cons entry entries ih =>
      rw [List.foldl_cons, ih (Nat.lt_of_lt_of_le hi (length_writeRsc_le bytes entry))
        fun entry hentry => hkept entry (List.mem_cons_of_mem _ hentry)]
      exact writeRsc_getElem? entry hi (hkept entry List.mem_cons_self)

/-- Behind the parser the bytes are as they were, but for the ids of the vdevs. -/
theorem loaderEnv_getElem? (allocate : Nat → Bool) (ops : RscOps) (ids : Nat → Bool)
    (hi : i < bytes.length) (hkept : i ∉ vdevIds bytes) :
    ((loaderEnv allocate ops ids).handleRscTable bytes).2[i]? = bytes[i]? := by
  have hforget : (handleRscTable ops none bytes.length ids (.ofBytes bytes)).2.1.forgetIds =
      (ResourceTable.ofBytes bytes).forgetIds :=
    (handleRscTable_forgetIds ops none bytes.length ids ids (.ofBytes bytes)).1
  have hentries := congrArg ResourceTable.entries hforget
  simp only [ResourceTable.forgetIds] at hentries
  change ((handleRscTable ops none bytes.length ids (.ofBytes bytes)).2.1.entries.foldl
    writeRsc bytes)[i]? = bytes[i]?
  apply foldl_writeRsc_getElem? _ hi
  rintro entry hentry ⟨rsc, hrsc⟩ hin
  -- the entry of the file at the same place is a vdev as well
  have hmap := List.mem_map_of_mem (f := fun entry => (entry.1, entry.2.forgetId)) hentry
  rw [hentries] at hmap
  obtain ⟨entry', hentry', hsame⟩ := List.mem_map.mp hmap
  obtain ⟨hoffset, hkind⟩ := Prod.mk.inj hsame
  obtain ⟨rsc', hrsc'⟩ := (vdev_of_forgetId hkind).mpr ⟨rsc, hrsc⟩
  rw [← hoffset] at hin
  exact hkept ⟨entry', hentry', rsc', hrsc', hin⟩

end Bytes

/-! ### Two runs of the loop that loads the data -/

section TwoRuns

variable {env₁ env₂ : LoaderEnv} {store : ImageStore} {before₁ before₂ now₁ now₂ : Target}

/-- The same mappings and the same writes have been made to two targets. -/
structure SameChanges (before₁ before₂ now₁ now₂ : Target) : Prop where
  rproc₁ : now₁.rproc = before₁.rproc
  rproc₂ : now₂.rproc = before₂.rproc
  mapped : ∃ mapped, now₁.mapped = before₁.mapped ++ mapped ∧ now₂.mapped = before₂.mapped ++ mapped
  ram : before₁.ram = before₂.ram → now₁.ram = now₂.ram

theorem SameChanges.refl (before₁ before₂ : Target) :
    SameChanges before₁ before₂ before₁ before₂ where
  rproc₁ := rfl
  rproc₂ := rfl
  mapped := ⟨[], by simp⟩
  ram h := h

theorem SameChanges.map (h : SameChanges before₁ before₂ now₁ now₂) (mapping : Nat × Nat) :
    SameChanges before₁ before₂ { now₁ with mapped := now₁.mapped ++ [mapping] }
      { now₂ with mapped := now₂.mapped ++ [mapping] } where
  rproc₁ := h.rproc₁
  rproc₂ := h.rproc₂
  mapped := by
    obtain ⟨mapped, h₁, h₂⟩ := h.mapped
    exact ⟨mapped ++ [mapping], by simp [h₁], by simp [h₂]⟩
  ram := h.ram

theorem SameChanges.write (h : SameChanges before₁ before₂ now₁ now₂)
    (write : (Nat → UInt8) → Nat → UInt8) :
    SameChanges before₁ before₂ { now₁ with ram := write now₁.ram }
      { now₂ with ram := write now₂.ram } where
  rproc₁ := h.rproc₁
  rproc₂ := h.rproc₂
  mapped := h.mapped
  ram hram := congrArg write (h.ram hram)

theorem remoteprocMmap_congr {rproc₁ rproc₂ : Remoteproc} (h : rproc₁.mapping = rproc₂.mapping)
    (da size : Nat) (io : Option TargetIo) :
    remoteprocMmap rproc₁ da size io = remoteprocMmap rproc₂ da size io := by
  unfold remoteprocMmap
  rw [h]

theorem loadTarget_uniform (store : ImageStore) (offset size pa : Nat) :
    ∃ (ret : Int) (write : (Nat → UInt8) → Nat → UInt8),
      ∀ ram, store.loadTarget offset size pa ram = (ret, write ram) := by
  unfold ImageStore.loadTarget
  by_cases hfits : offset + size ≤ store.image.length
  · exact ⟨_, _, fun ram => if_pos hfits⟩
  · exact ⟨_, _, fun ram => if_neg hfits⟩

theorem imageData_same (hmapping : before₁.rproc.mapping = before₂.rproc.mapping) (env : LoaderEnv)
    (store : ImageStore) :
    (imageData env store).All fun _ => Respects (SameChanges before₁ before₂) where
  loadData _ _ _ h := ⟨rfl, h⟩
  load _ _ _ _ h := ⟨rfl, h⟩
  mmap da size io now₁ now₂ h := by
    have hnow : now₁.rproc.mapping = now₂.rproc.mapping := by rw [h.rproc₁, h.rproc₂, hmapping]
    simp only [imageData, StateT.run_modifyGet, remoteprocMmap_congr hnow]
    refine ⟨rfl, ?_⟩
    split_ifs
    · exact h.map (da, size)
    · exact h
  loadTarget mapped noffset nlen now₁ now₂ h := by
    obtain ⟨ret, write, hload⟩ := loadTarget_uniform store noffset nlen mapped.pa
    simp only [imageData, StateT.run_modifyGet, hload]
    exact ⟨rfl, h.write write⟩
  blockSet _ io offset value len _ _ h := ⟨rfl, h.write (io.blockSet offset value len)⟩

/-- Two states of the loop that differ in nothing but the targets. -/
inductive DataLoop.Alike (before₁ before₂ : Target) : DataLoop → DataLoop → Prop where
  | intro (vars : DataVars (List UInt8) TargetIo) {now₁ now₂ : Target}
      (h : SameChanges before₁ before₂ now₁ now₂) : Alike before₁ before₂ ⟨vars, now₁⟩ ⟨vars, now₂⟩

theorem imageHeaders_congr (halloc : env₁.allocate = env₂.allocate) (store : ImageStore) :
    imageHeaders env₁ store = imageHeaders env₂ store := by
  unfold imageHeaders
  rw [halloc]

theorem imageData_congr (halloc : env₁.allocate = env₂.allocate) (store : ImageStore) :
    imageData env₁ store = imageData env₂ store := by
  unfold imageData
  rw [halloc]

theorem DataLoop.body_rel (halloc : env₁.allocate = env₂.allocate)
    (hmapping : before₁.rproc.mapping = before₂.rproc.mapping) (s₁ s₂ : DataLoop)
    (h : Alike before₁ before₂ s₁ s₂) :
    Sum.LiftRel (Alike before₁ before₂) (fun r₁ r₂ => Alike before₁ before₂ r₁.1 r₂.1 ∧ r₁.2 = r₂.2)
      (body env₁ store s₁) (body env₂ store s₂) := by
  obtain ⟨vars, hchanges⟩ := h
  unfold body
  rw [imageData_congr halloc]
  have hround := (imageData_same hmapping env₂ store).round (closed_respects _) vars
  exact withWorld_rel hround (fun vars _ _ hsame => .intro vars hsame) hchanges

theorem DataLoop.run_rel (halloc : env₁.allocate = env₂.allocate)
    (hmapping : before₁.rproc.mapping = before₂.rproc.mapping) (store : ImageStore) (rounds : Nat)
    (vars : DataVars (List UInt8) TargetIo) :
    Option.Rel (fun r₁ r₂ => Alike before₁ before₂ r₁.1 r₂.1 ∧ r₁.2 = r₂.2)
      (Loop.run (body env₁ store) rounds ⟨vars, before₁⟩)
      (Loop.run (body env₂ store) rounds ⟨vars, before₂⟩) :=
  Loop.run_rel (body_rel halloc hmapping) (.intro vars (.refl before₁ before₂)) rounds

/-! ### The resource table in two loads -/

/-- The two environments give the same memory, accept the same resource tables, and leave the same
bytes of them but for the ids. -/
structure SameEnv (env₁ env₂ : LoaderEnv) : Prop where
  allocate : env₁.allocate = env₂.allocate
  status : ∀ data, (env₁.handleRscTable data).1 = (env₂.handleRscTable data).1
  bytes : ∀ data i, i < data.length → i ∉ vdevIds data →
    (env₁.handleRscTable data).2[i]? = (env₂.handleRscTable data).2[i]?

theorem sameEnv_loaderEnv (allocate : Nat → Bool) (ops : RscOps) (ids₁ ids₂ : Nat → Bool) :
    SameEnv (loaderEnv allocate ops ids₁) (loaderEnv allocate ops ids₂) where
  allocate := rfl
  status data := (handleRscTable_forgetIds ops none data.length ids₁ ids₂ (.ofBytes data)).2
  bytes data i hi hkept := by
    rw [loaderEnv_getElem? allocate ops ids₁ hi hkept, loaderEnv_getElem? allocate ops ids₂ hi hkept]

theorem remoteprocGetRscTable_rel (henv : SameEnv env₁ env₂) (store : ImageStore)
    (offset len : Nat) :
    ∃ fetched : Except Int (List UInt8),
      remoteprocGetRscTable env₁ store offset len =
          fetched.map (fun data => (env₁.handleRscTable data).2) ∧
        remoteprocGetRscTable env₂ store offset len =
          fetched.map (fun data => (env₂.handleRscTable data).2) ∧
        ∀ data, fetched = .ok data →
          data = slice store.image offset len ∧ data.length = len ∧ 0 ≤ toInt32 len := by
  unfold remoteprocGetRscTable
  rw [henv.allocate]
  by_cases halloc : env₂.allocate len = false
  · rw [if_pos halloc, if_pos halloc]
    exact ⟨.error (-RPROC_ENOMEM), rfl, rfl, nofun⟩
  rw [if_neg halloc, if_neg halloc]
  unfold ImageStore.load
  by_cases hle : offset + len ≤ store.image.length
  · simp only [if_pos hle]
    by_cases hret : toInt32 len < 0 ∨ toInt32 len < toInt32 len
    · simp only [if_pos hret]
      exact ⟨.error (-RPROC_EINVAL), rfl, rfl, nofun⟩
    · simp only [if_neg hret, henv.status]
      by_cases hstatus : (env₂.handleRscTable (slice store.image offset len)).1 < 0
      · simp only [if_pos hstatus]
        exact ⟨.error _, rfl, rfl, nofun⟩
      · simp only [if_neg hstatus]
        refine ⟨.ok (slice store.image offset len), rfl, rfl, ?_⟩
        rintro _ ⟨rfl⟩
        exact ⟨rfl, length_slice hle, Int.not_lt.mp (not_or.mp hret).1⟩
  · simp only [if_neg hle]
    exact ⟨.error (-RPROC_EINVAL), rfl, rfl, nofun⟩

/-- A resource table as it was fetched, and as `env` leaves it. -/
def handled (env : LoaderEnv) (found : Shdr × Except Int (List UInt8)) :
    Shdr × Except Int (List UInt8) :=
  (found.1, found.2.map fun data => (env.handleRscTable data).2)

/-- A resource table as it was fetched from the image. -/
def Fetched (store : ImageStore) (found : Option (Shdr × Except Int (List UInt8))) : Prop :=
  ∀ shdr data, found = some (shdr, .ok data) → data = slice store.image shdr.shOffset shdr.shSize ∧
    data.length = shdr.shSize ∧ 0 ≤ toInt32 shdr.shSize

theorem fileRscTable_rel (henv : SameEnv env₁ env₂) (store : ImageStore) (info : ElfInfo) :
    ∃ found : Option (Shdr × Except Int (List UInt8)),
      fileRscTable env₁ store info = found.map (handled env₁) ∧
      fileRscTable env₂ store info = found.map (handled env₂) ∧
      found.map Prod.fst = locatedRscTable info ∧ Fetched store found := by
  unfold fileRscTable
  cases locatedRscTable info with
  | none => exact ⟨none, rfl, rfl, rfl, nofun⟩
  | some shdr =>
      obtain ⟨fetched, h₁, h₂, hfetched⟩ :=
        remoteprocGetRscTable_rel henv store shdr.shOffset shdr.shSize
      refine ⟨some (shdr, fetched), by simp [handled, h₁], by simp [handled, h₂], rfl, ?_⟩
      rintro _ data ⟨rfl⟩
      exact hfetched data rfl

/-- A table whose bytes differ in the ids only makes the memory differ in the ids only. -/
theorem blockWrite_rel (henv : SameEnv env₁ env₂) {rproc : Remoteproc} (hstores : rproc.Stores)
    {shdr : Shdr} {map : TargetMapping} (hmap : rproc.mapping shdr.shAddr shdr.shSize = some map)
    {data : List UInt8} (hlength : data.length = shdr.shSize) (hsize : 0 ≤ toInt32 shdr.shSize)
    (ram : Nat → UInt8) {a : Nat} (hkept : ∀ i ∈ vdevIds data, a ≠ map.pa + i) :
    map.io.blockWrite (map.io.virtToOffset map.va) (env₁.handleRscTable data).2
        (toInt32 shdr.shSize) ram a =
      map.io.blockWrite (map.io.virtToOffset map.va) (env₂.handleRscTable data).2
        (toInt32 shdr.shSize) ram a := by
  have hle := toInt32_toNat_le shdr.shSize
  have hlt := (toInt32_bounds shdr.shSize).2
  obtain ⟨n, hn⟩ := Int.eq_ofNat_of_zero_le hsize
  obtain ⟨count, hcount, hwrite⟩ := hstores _ _ map hmap n (by omega)
  rw [hn, hwrite, hwrite]
  unfold writeBytes
  by_cases hfrom : map.pa ≤ a
  · rw [if_pos hfrom, if_pos hfrom]
    by_cases hin : a - map.pa < count
    · have hid : a - map.pa ∉ vdevIds data := fun hid => hkept _ hid (by omega)
      rw [List.getElem?_take_of_lt hin, List.getElem?_take_of_lt hin,
        henv.bytes data _ (by omega) hid]
    · rw [List.getElem?_take, List.getElem?_take, if_neg hin, if_neg hin]
  · rw [if_neg hfrom, if_neg hfrom]

theorem SameChanges.sameLoad (h : SameChanges before₁ before₂ now₁ now₂) (status : Int)
    (table : Option Shdr) :
    SameLoad store table before₁ before₂ (status, now₁) (status, now₂) where
  ret := rfl
  bootaddr := .inr ⟨by rw [h.rproc₁], by rw [h.rproc₂]⟩
  mapped := h.mapped
  ram hram _ _ := congrFun (h.ram hram) _

/-- The end of a load that has come so far: the resource table, the boot address and the state. -/
theorem updateRscTable_rel (henv : SameEnv env₁ env₂) (hstores : before₁.rproc.Stores)
    (hmapping : before₁.rproc.mapping = before₂.rproc.mapping)
    (h : SameChanges before₁ before₂ now₁ now₂) (io : Option TargetIo)
    {found : Option (Shdr × Except Int (List UInt8))} (hfound : Fetched store found)
    (bootaddr : Nat) (state : RemoteprocState) :
    Option.Rel (fun now₁ now₂ => SameLoad store (found.map Prod.fst) before₁ before₂
        (0, { now₁ with rproc := { now₁.rproc with bootaddr, state } })
        (0, { now₂ with rproc := { now₂.rproc with bootaddr, state } }))
      (updateRscTable io now₁ (found.map (handled env₁)))
      (updateRscTable io now₂ (found.map (handled env₂))) := by
  have hnow : now₁.rproc.mapping = before₁.rproc.mapping := by rw [h.rproc₁]
  have hnow' : now₂.rproc.mapping = before₁.rproc.mapping := by rw [h.rproc₂, hmapping]
  have hsame : SameLoad store (found.map Prod.fst) before₁ before₂
      (0, { now₁ with rproc := { now₁.rproc with bootaddr, state } })
      (0, { now₂ with rproc := { now₂.rproc with bootaddr, state } }) :=
    ⟨rfl, .inl ⟨rfl, rfl⟩, h.mapped, fun hram _ _ => congrFun (h.ram hram) _⟩
  match found with
  | none => exact .some hsame
  | some (_, .error _) => exact .none
  | some (shdr, .ok data) =>
      obtain ⟨rfl, hlength, hsize⟩ := hfound shdr data rfl
      simp only [Option.map_some, handled, Except.map, updateRscTable, remoteprocMmap_congr hnow,
        remoteprocMmap_congr hnow']
      cases hmap : before₁.rproc.mapping shdr.shAddr shdr.shSize with
      | none =>
          simp only [remoteprocMmap_of_none hmap, if_true]
          exact .some hsame
      | some map =>
          simp only [remoteprocMmap_of_some hmap, Option.map_some]
          by_cases hnull : map.va = NULL
          · simp only [if_pos hnull]
            exact .some hsame
          · simp only [if_neg hnull]
            have hmapped := (h.map (shdr.shAddr, shdr.shSize)).mapped
            refine .some ⟨rfl, .inl ⟨rfl, rfl⟩, hmapped, fun hram a ha => ?_⟩
            simp only [h.ram hram]
            apply blockWrite_rel henv hstores hmap hlength hsize
            rintro i hi rfl
            exact ha shdr rfl ⟨map, hmap, i, hi, rfl⟩

/-- The end of a load whose data are there. -/
theorem loadEnd_rel (henv : SameEnv env₁ env₂) (hstores : before₁.rproc.Stores)
    (hmapping : before₁.rproc.mapping = before₂.rproc.mapping)
    {s₁ s₂ : DataLoop} (h : DataLoop.Alike before₁ before₂ s₁ s₂)
    {early : Option (Shdr × Except Int (List UInt8))} (hearly : Fetched store early) :
    Option.Rel (SameLoad store
        ((early.map Prod.fst).or (s₁.imgInfo.bind locatedRscTable)) before₁ before₂)
      (s₁.imgInfo.bind fun info =>
        (updateRscTable s₁.io s₁.target
          (early.map (handled env₁) <|> fileRscTable env₁ store info)).bind fun target =>
            some (0, { target with
              rproc := { target.rproc with bootaddr := elfGetEntry info, state := .ready } }))
      (s₂.imgInfo.bind fun info =>
        (updateRscTable s₂.io s₂.target
          (early.map (handled env₂) <|> fileRscTable env₂ store info)).bind fun target =>
            some (0, { target with
              rproc := { target.rproc with bootaddr := elfGetEntry info, state := .ready } })) := by
  obtain ⟨vars, hchanges⟩ := h
  dsimp only
  cases vars.imgInfo with
  | none => exact .none
  | some info =>
      obtain ⟨late, hlate₁, hlate₂, hlate, hfetched⟩ := fileRscTable_rel henv store info
      have hfound : Fetched store (early.or late) := by
        cases early with
        | none => exact hfetched
        | some _ => exact hearly
      simp only [Option.bind_some, hlate₁, hlate₂, ← hlate, Option.orElse_eq_orElse,
        Option.orElse_eq_or, ← Option.map_or]
      have hupdate := updateRscTable_rel henv hstores hmapping hchanges vars.io hfound
        (elfGetEntry info) .ready
      generalize updateRscTable vars.io _ (Option.map _ _) = updated₁ at hupdate ⊢
      generalize updateRscTable vars.io _ _ = updated₂ at hupdate ⊢
      cases hupdate with
      | none => exact .none
      | some hsame => exact .some hsame

theorem remoteprocLoadData_rel (henv : SameEnv env₁ env₂) (hstores : before₁.rproc.Stores)
    (hmapping : before₁.rproc.mapping = before₂.rproc.mapping) (rounds : Nat)
    (headers : HeaderLoop) :
    Option.Rel (SameLoad store (remoteprocDataTable env₁ rounds store headers before₁) before₁ before₂)
      (remoteprocLoadData env₁ rounds store headers before₁)
      (remoteprocLoadData env₂ rounds store headers before₂) := by
  obtain ⟨imgData, offset, len, imgInfo, lastLoadState, noffset, nlen⟩ := headers
  cases imgInfo with
  | none => exact .none
  | some info =>
      obtain ⟨early, hearly₁, hearly₂, hearly, hfetched⟩ := fileRscTable_rel henv store info
      have hrun := DataLoop.run_rel henv.allocate hmapping store rounds
        ⟨imgData, 0, 0, some info, lastLoadState, none⟩
      simp only [remoteprocLoadData, remoteprocDataTable, hearly₁, hearly₂, ← hearly,
        Option.bind_eq_bind, Option.bind_some]
      generalize Loop.run (DataLoop.body env₁ store) rounds _ = run₁ at hrun ⊢
      generalize Loop.run (DataLoop.body env₂ store) rounds _ = run₂ at hrun ⊢
      cases hrun with
      | none => exact .none
      | @some left₁ left₂ hout =>
          obtain ⟨data₁, exit⟩ := left₁
          obtain ⟨data₂, exit'⟩ := left₂
          obtain ⟨hstates, rfl : exit = exit'⟩ := hout
          cases exit with
          | stuck => exact .none
          | error status =>
              obtain ⟨vars, hchanges⟩ := hstates
              match early with
              | none => exact .some (hchanges.sameLoad _ _)
              | some (_, .ok _) => exact .some (hchanges.sameLoad _ _)
              | some (_, .error _) => exact .none
          | leave =>
              have hend := loadEnd_rel henv hstores hmapping hstates hfetched
              cases early with
              | none => exact hend
              | some found => exact hend

/-- Setting the loader is no part of what a load is compared by. -/
theorem rel_of_identified {table : Option Shdr} {after₁ after₂ : Option (Int × Target)}
    (h : Option.Rel (SameLoad store table before₁.identified before₂.identified) after₁ after₂) :
    Option.Rel (SameLoad store table before₁ before₂) after₁ after₂ := by
  cases h with
  | none => exact .none
  | some hsame => exact .some ⟨hsame.ret, hsame.bootaddr, hsame.mapped, hsame.ram⟩

/-- A load in a state that allows it. -/
theorem remoteprocLoad_of_allowed {target : Target} (hallowed : target.LoadAllowed)
    (env : LoaderEnv) (rounds : Nat) (store : ImageStore) :
    remoteprocLoad env rounds store target =
      if store.openLen = 0 ∨ target.rproc.loader = false ∧ store.identified = false then
        some (-RPROC_EINVAL, target)
      else
        (Loop.run (HeaderLoop.body env store) rounds ⟨some (slice store.image 0 store.openLen), 0,
            store.openLen, none, RPROC_LOADER_NOT_READY, 0, 0⟩).bind fun
          | (_, .stuck) => none
          | (_, .error status) => some (status, target.identified)
          | (headers, .leave) => remoteprocLoadData env rounds store headers target.identified := by
  have hstate : ¬ (target.rproc.state ≠ .ready ∧ target.rproc.state ≠ .configured) := by
    simpa [Target.LoadAllowed, or_iff_not_imp_left] using hallowed
  unfold remoteprocLoad
  rw [if_neg hstate]
  by_cases hempty : store.openLen = 0
  · rw [if_pos hempty, if_pos (.inl hempty)]
  · rw [if_neg hempty]
    by_cases hrejected : target.rproc.loader = false ∧ store.identified = false
    · exact (if_pos hrejected).trans (if_pos (.inr hrejected)).symm
    · exact (if_neg hrejected).trans (if_neg (not_or.mpr ⟨hempty, hrejected⟩)).symm

/-- Two loads of an image have the same outcome if it is identified, or else if the instance has a
loader in both of them or in neither. -/
theorem remoteprocLoad_rel (henv : SameEnv env₁ env₂) (hstores : before₁.rproc.Stores)
    (hmapping : before₁.rproc.mapping = before₂.rproc.mapping) (hallowed₁ : before₁.LoadAllowed)
    (hallowed₂ : before₂.LoadAllowed)
    (himage : store.identified = true ∨ before₁.rproc.loader = before₂.rproc.loader)
    (rounds : Nat) :
    Option.Rel (SameLoad store (remoteprocLoadTable env₁ rounds store before₁) before₁ before₂)
      (remoteprocLoad env₁ rounds store before₁) (remoteprocLoad env₂ rounds store before₂) := by
  have hloader : (before₁.rproc.loader = false ∧ store.identified = false) ↔
      (before₂.rproc.loader = false ∧ store.identified = false) := by
    rcases himage with himage | himage
    · simp [himage]
    · rw [himage]
  have hheader : HeaderLoop.body env₁ store = HeaderLoop.body env₂ store := by
    funext s
    unfold HeaderLoop.body
    rw [imageHeaders_congr henv.allocate]
  rw [remoteprocLoad_of_allowed hallowed₁, remoteprocLoad_of_allowed hallowed₂]
  simp only [hloader, hheader, remoteprocLoadTable, Option.bind_eq_bind]
  split_ifs with hrejected
  · exact .some ((SameChanges.refl before₁ before₂).sameLoad _ _)
  · cases Loop.run (HeaderLoop.body env₂ store) rounds _ with
    | none => exact .none
    | some result =>
        match result with
        | (_, .stuck) => exact .none
        | (_, .error status) =>
            exact rel_of_identified (.some ((SameChanges.refl _ _).sameLoad status _))
        | (headers, .leave) =>
            have hidentified : before₁.identified.rproc.mapping = before₂.identified.rproc.mapping :=
              hmapping
            have hstores' : before₁.identified.rproc.Stores := hstores
            exact rel_of_identified (remoteprocLoadData_rel henv hstores' hidentified rounds headers)

end TwoRuns

/-! ### What a history leaves -/

section History

variable {env : LoaderEnv} {rounds : Nat} {store : ImageStore} {target target' : Target}

theorem updateRscTable_rproc {found : Option (Shdr × Except Int (List UInt8))}
    {io : Option TargetIo} (h : updateRscTable io target found = some target') :
    target'.rproc = target.rproc := by
  unfold updateRscTable at h
  split at h
  · rw [Option.some.inj h]
  · cases h
  · dsimp only at h
    split at h
    · rw [Option.some.inj h]
    · obtain ⟨io, -, rfl⟩ := Option.map_eq_some_iff.mp h
      rfl

theorem remoteprocLoadData_mapping {headers : HeaderLoop} {ret : Int}
    (h : remoteprocLoadData env rounds store headers target = some (ret, target')) :
    target'.rproc.mapping = target.rproc.mapping := by
  simp only [remoteprocLoadData, Option.bind_eq_bind, Option.bind_eq_some_iff] at h
  obtain ⟨info, -, result, hresult, hend⟩ := h
  match result, hend with
  | (data, .error status), hend =>
      have hnow : target' = data.target := by
        dsimp only at hend
        split at hend
        · cases hend
        · cases hend
          rfl
      have hrproc : data.target.rproc = target.rproc := dataLoop_returns_rproc ⟨rounds, hresult⟩
      rw [hnow, hrproc]
  | (data, .leave), hend =>
      simp only [Option.bind_eq_some_iff] at hend
      obtain ⟨info, -, updated, hupdated, hlast⟩ := hend
      cases hlast
      have hrproc : data.target.rproc = target.rproc := dataLoop_returns_rproc ⟨rounds, hresult⟩
      change updated.rproc.mapping = target.rproc.mapping
      rw [updateRscTable_rproc hupdated, hrproc]

theorem remoteprocLoad_mapping {ret : Int}
    (h : remoteprocLoad env rounds store target = some (ret, target')) :
    target'.rproc.mapping = target.rproc.mapping := by
  by_cases hallowed : target.LoadAllowed
  · rw [remoteprocLoad_of_allowed hallowed] at h
    split_ifs at h with hrejected
    · cases h
      rfl
    · obtain ⟨result, -, hend⟩ := Option.bind_eq_some_iff.mp h
      match result, hend with
      | (_, .error status), hend =>
          cases hend
          rfl
      | (headers, .leave), hend =>
          have hdata : remoteprocLoadData env rounds store headers target.identified =
            some (ret, target') := hend
          exact (remoteprocLoadData_mapping hdata).trans rfl
  · unfold remoteprocLoad at h
    rw [if_pos (not_or.mp hallowed)] at h
    cases h
    rfl

/-- An image that is not identified is refused by an instance without a loader. -/
theorem remoteprocLoad_unidentified (hunknown : store.identified = false)
    (hloader : target.rproc.loader = false) (env : LoaderEnv) (rounds : Nat) :
    remoteprocLoad env rounds store target = some (-RPROC_EINVAL, target) := by
  by_cases hallowed : target.LoadAllowed
  · rw [remoteprocLoad_of_allowed hallowed, if_pos (.inr ⟨hloader, hunknown⟩)]
  · unfold remoteprocLoad
    rw [if_pos (not_or.mp hallowed)]

theorem remoteprocLoadNoblock_unidentified {imgData : Option (List UInt8)} {offset len : Nat}
    (hunknown : offset = 0 → remoteprocCheckFwFormat imgData len = false)
    (hloader : target.rproc.loader = false) (env : LoaderEnv) (imgInfo : Option ElfInfo)
    (vars : NoblockVars) :
    remoteprocLoadNoblock env imgData offset len imgInfo vars target =
      some ⟨-RPROC_EINVAL, imgInfo, vars, target⟩ := by
  unfold remoteprocLoadNoblock
  split_ifs with hready hrefused
  · rfl
  · rfl
  · exfalso
    apply hrefused
    refine ⟨hloader, ?_⟩
    by_cases hoffset : offset = 0
    · exact .inr (.inr (.inr (hunknown hoffset)))
    · exact .inr (.inl hoffset)

/-- A step of a history leaves what is mapped as it is, and the loader unset as long as nothing can
be identified. -/
theorem Target.step_spec {action : LoadAction} (h : target.step action = some target') :
    target'.rproc.mapping = target.rproc.mapping ∧
      (action.identifies = false → target.rproc.loader = false → target'.rproc.loader = false) := by
  cases action with
  | config | start | stop | shutdown | written =>
      cases h
      exact ⟨rfl, fun _ hloader => hloader⟩
  | load env rounds store =>
      obtain ⟨⟨ret, after⟩, hload, rfl⟩ := Option.map_eq_some_iff.mp h
      refine ⟨remoteprocLoad_mapping hload, fun hunknown hloader => ?_⟩
      rw [remoteprocLoad_unidentified hunknown hloader] at hload
      cases hload
      exact hloader
  | loadNoblock env imgData offset len imgInfo vars =>
      obtain ⟨out, hload, rfl⟩ := Option.map_eq_some_iff.mp h
      obtain ⟨⟨loader, bootaddr, hrproc⟩, -⟩ := remoteprocLoadNoblock_rproc hload
      refine ⟨by rw [hrproc]; rfl, fun hunknown hloader => ?_⟩
      have hunknown : offset = 0 → remoteprocCheckFwFormat imgData len = false := by
        simpa [LoadAction.identifies] using hunknown
      rw [remoteprocLoadNoblock_unidentified hunknown hloader] at hload
      cases hload
      exact hloader

/-- What holds of the instance after any history. -/
theorem Target.exec_spec {start : Target} {actions : List LoadAction}
    (h : Run.exec Target.step start actions = some target) (hstart : start.rproc.loader = false) :
    target.rproc.mapping = start.rproc.mapping ∧
      ((∀ action ∈ actions, action.identifies = false) → target.rproc.loader = false) := by
  constructor
  · refine Run.exec_invariant (P := fun now => now.rproc.mapping = start.rproc.mapping) h rfl ?_
    intro now action next _ hnow hstep
    exact (Target.step_spec hstep).1.trans hnow
  · intro hunknown
    refine Run.exec_invariant (P := fun now => now.rproc.loader = false) h hstart ?_
    intro now action next haction hnow hstep
    exact (Target.step_spec hstep).2 (hunknown action haction) hnow

end History

/-! ### Two histories -/

/-- After any two histories a load of an image that is identified has the same outcome, and so does
any load if both of them have left a loader or neither has. Without an image that could be identified
in its history, an instance refuses one that is not. -/
theorem load_history_independent (mems : List RemoteprocMem)
    (mmap : Option (Nat → Nat → Option TargetMapping)) (ram₁ ram₂ : Nat → UInt8)
    (actions₁ actions₂ : List LoadAction) (target₁ target₂ : Target)
    (h₁ : Run.exec Target.step (Target.init mems mmap ram₁) actions₁ = some target₁)
    (h₂ : Run.exec Target.step (Target.init mems mmap ram₂) actions₂ = some target₂)
    (hallowed₁ : target₁.LoadAllowed) (hallowed₂ : target₂.LoadAllowed)
    (hstores : (Target.init mems mmap ram₁).rproc.Stores) (allocate : Nat → Bool) (ops : RscOps)
    (ids₁ ids₂ : Nat → Bool) (rounds : Nat) (store : ImageStore) :
    ((store.identified = true ∨ target₁.rproc.loader = target₂.rproc.loader) →
      Option.Rel (SameLoad store
          (remoteprocLoadTable (loaderEnv allocate ops ids₁) rounds store target₁) target₁ target₂)
        (remoteprocLoad (loaderEnv allocate ops ids₁) rounds store target₁)
        (remoteprocLoad (loaderEnv allocate ops ids₂) rounds store target₂)) ∧
      ((∀ action ∈ actions₁, action.identifies = false) → store.identified = false →
        remoteprocLoad (loaderEnv allocate ops ids₁) rounds store target₁ =
          some (-RPROC_EINVAL, target₁)) := by
  obtain ⟨hmapping₁, hloader₁⟩ := Target.exec_spec h₁ rfl
  obtain ⟨hmapping₂, -⟩ := Target.exec_spec h₂ rfl
  refine ⟨fun himage => ?_, fun hnone hunknown => ?_⟩
  · have henv := sameEnv_loaderEnv allocate ops ids₁ ids₂
    have hstores₁ : target₁.rproc.Stores := by
      unfold Remoteproc.Stores
      rw [hmapping₁]
      exact hstores
    exact remoteprocLoad_rel henv hstores₁ (hmapping₁.trans hmapping₂.symm) hallowed₁ hallowed₂
      himage rounds
  · exact remoteprocLoad_unidentified hunknown (hloader₁ hnone) _ rounds

/-- A platform with nothing to add, and no ids in use. -/
def freshEnv : LoaderEnv := loaderEnv (fun _ => true) ⟨fun _ => true, none⟩ fun _ => false

def configAction : LoadAction := .config ⟨false, false, false⟩ 0

/-- A resource table with one vdev that takes any id. -/
def anyIdTable : List UInt8 :=
  leBytes 4 1 ++ leBytes 4 1 ++ leBytes 8 0 ++ leBytes 4 20 ++
    leBytes 4 RSC_VDEV ++ leBytes 4 7 ++ leBytes 4 RSC_NOTIFY_ID_ANY ++ leBytes 16 0

/-- A firmware whose only segment is its resource table. -/
def tableStore : ImageStore :=
  ⟨ehdr32 0x1000 52 84 1 2 0 ++ phdr32 ⟨PT_LOAD, 181, 0x1000, 48, 48⟩ ++ shdr32 ⟨0, 0, 164, 17⟩ ++
    shdr32 ⟨1, 0x1000, 181, 48⟩ ++ [0] ++ rscTableName ++ [0] ++ anyIdTable, 60, id⟩

def tableMem : RemoteprocMem := ⟨⟨0x1000, 0x8000, 64⟩, flatIo⟩

/-- The ids in use that a load of `tableStore` takes. -/
def takenIds : Nat → Bool :=
  (handleRscTable ⟨fun _ => true, none⟩ none 48 (fun _ => false) (.ofBytes anyIdTable)).1

/-- The platform of `freshEnv` after a load of `tableStore`. -/
def laterEnv : LoaderEnv := loaderEnv (fun _ => true) ⟨fun _ => true, none⟩ takenIds

theorem stores_flat (range : MemRange) :
    (Target.init [⟨range, flatIo⟩] none fun _ => 0xAA).rproc.Stores := by
  intro da size map hmap n _
  refine ⟨n, Nat.le_refl n, fun bytes ram => ?_⟩
  have hflat : map.io = flatIo ∧ map.va = map.pa := by
    unfold Remoteproc.mapping at hmap
    split at hmap
    · rename_i mem hmem
      obtain rfl := List.mem_singleton.mp (List.mem_of_find?_eq_some hmem)
      obtain rfl := Option.some.inj hmap
      exact ⟨rfl, rfl⟩
    · cases hmap
  rw [hflat.1, hflat.2]
  simp only [flatIo, id, Int.toNat_natCast]

theorem load_history_independent_small :
    ∃ target₁ target₂,
      Run.exec Target.step (Target.init [tableMem] none fun _ => 0xAA) [configAction] =
        some target₁ ∧
      Run.exec Target.step (Target.init [tableMem] none fun _ => 0xAA)
          [configAction, .load freshEnv 10 tableStore] = some target₂ ∧
      Option.Rel (SameLoad tableStore (remoteprocLoadTable freshEnv 10 tableStore target₁) target₁
          target₂)
        (remoteprocLoad freshEnv 10 tableStore target₁)
        (remoteprocLoad laterEnv 10 tableStore target₂) := by
  have hready₁ : (Run.exec Target.step (Target.init [tableMem] none fun _ => 0xAA)
      [configAction]).map (fun target => target.rproc.state) = some .ready := by decide +kernel
  have hready₂ : (Run.exec Target.step (Target.init [tableMem] none fun _ => 0xAA)
      [configAction, .load freshEnv 10 tableStore]).map (fun target => target.rproc.state) =
        some .ready := by decide +kernel
  obtain ⟨target₁, h₁, hstate₁⟩ := Option.map_eq_some_iff.mp hready₁
  obtain ⟨target₂, h₂, hstate₂⟩ := Option.map_eq_some_iff.mp hready₂
  refine ⟨target₁, target₂, h₁, h₂, ?_⟩
  exact (load_history_independent [tableMem] none _ _ _ _ target₁ target₂ h₁ h₂ (.inl hstate₁)
    (.inl hstate₂) (stores_flat _) _ _ _ takenIds 10 tableStore).1 (.inl (by decide +kernel))

def smallStore : ImageStore := ⟨smallImage.bytes, 60, id⟩

/-- The firmware of `smallStore` without the first byte of the magic. -/
def unknownStore : ImageStore := ⟨smallImage.bytes.set 0 0, 60, id⟩

/-- What a load returns after a history, and the byte at the id of the vdev of `anyIdTable`. -/
def loadAfter (mem : RemoteprocMem) (actions : List LoadAction) (env : LoaderEnv)
    (store : ImageStore) : Option (Int × UInt8) :=
  (Run.exec Target.step (Target.init [mem] none fun _ => 0xAA) actions).bind fun target =>
    (remoteprocLoad env 10 store target).map fun after => (after.1, after.2.ram (0x8000 + 28))

/-- An image that is not identified is refused at first, and loaded once another has been loaded. The
second load of an image writes another id to its resource table. -/
theorem load_depends_on_history :
    unknownStore.identified = false ∧ tableStore.identified = true ∧
      loadAfter smallMem [configAction] freshEnv unknownStore = some (-RPROC_EINVAL, 0xAA) ∧
      loadAfter smallMem [configAction, .load freshEnv 10 smallStore] freshEnv unknownStore =
        some (0, 0xAA) ∧
      loadAfter tableMem [configAction] freshEnv tableStore = some (0, 0) ∧
      loadAfter tableMem [configAction, .load freshEnv 10 tableStore] laterEnv tableStore =
        some (0, 1) := by
  refine ⟨?_, ?_, ?_, ?_, ?_, ?_⟩
  all_goals decide +kernel

end OpenAmp
