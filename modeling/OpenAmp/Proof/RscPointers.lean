import OpenAmp.Proof.RscEntries

/-!
# The three fields of the resource table

`remoteproc_set_rsc_table` and `remoteproc_load` set the table, its length and its region together,
and each of them knows that the region contains the table. `remoteproc_load_noblock` sets the first two
only. Besides, nothing takes the table out of use when a load copies other data over it. As long as a
table keeps its bytes it keeps its entries, so that a vdev is found in the region if it was there when the
table was accepted.
-/

namespace OpenAmp

open ByteMemory

variable {plat : RscPlatform} {io : IoRegion} {va len : Nat} {ram : Nat → UInt8}

/-! ### Regions -/

/-- The offset of an address that has at least one byte of the region behind it. -/
theorem IoRegion.virtToOffset_of_contains (hend : io.virt + io.size ≤ 2 ^ 64)
    (h : io.Contains va len) (hpos : 0 < len) :
    io.virtToOffset va = va - io.virt ∧ va < 2 ^ 64 ∧ va - io.virt + len ≤ io.size := by
  obtain ⟨hlow, hhigh⟩ := h
  have hnat : ofInt 64 ((va : Int) - io.virt) = va - io.virt := by
    unfold ofInt
    omega
  refine ⟨?_, by omega, by omega⟩
  unfold virtToOffset
  rw [hnat]
  exact if_pos (by omega)

/-- A block that the region contains is written as a whole. -/
theorem IoRegion.blockWrite_contains {bytes : List UInt8} (hend : io.virt + io.size ≤ 2 ^ 64)
    (h : io.Contains va bytes.length) :
    io.blockWrite (io.virtToOffset va) bytes ram = writeBytes ram va bytes := by
  by_cases hnil : bytes = []
  · subst hnil
    unfold blockWrite
    split_ifs <;> simp
  · have hpos : 0 < bytes.length := List.length_pos_iff.mpr hnil
    obtain ⟨hoffset, -, hsize⟩ := virtToOffset_of_contains hend h hpos
    have hva : io.virt + (va - io.virt) = va := Nat.add_sub_cancel' h.1
    unfold blockWrite
    rw [hoffset, if_pos (by omega), hva, List.take_of_length_le (by omega)]

/-- A mapping that is found lies in the region that comes with it. -/
theorem remoteprocMmapVa_contains {da : Nat} {before region : Option IoRegion}
    (hmap : remoteprocMmapVa plat da len before = (va, region)) (hva : va ≠ NULL)
    (hend : da + len < 2 ^ 64) :
    ∃ io, region = some io ∧ io.Contains va len ∧ io.virt + io.size < 2 ^ 64 := by
  unfold remoteprocMmapVa at hmap
  dsimp only at hmap
  split at hmap
  case h_1 mem hfound =>
    split_ifs at hfound
    have hcovered := plat.covered mem (List.mem_of_find?_eq_some hfound)
    have hrange := List.find?_some hfound
    obtain ⟨hlow, hhigh⟩ := of_decide_eq_true hrange
    obtain ⟨offset, hsize, hoffset⟩ := hcovered.offset
    have hda := hcovered.da
    have hpaEnd := hcovered.pa
    rw [u64, u64, Nat.mod_eq_of_lt hend, Nat.mod_eq_of_lt hda] at hhigh
    have hpa : ofInt 64 ((mem.pa : Int) + da - mem.da) = mem.pa + (da - mem.da) := by
      unfold ofInt
      omega
    rw [hpa, IoRegion.physToVirt] at hmap
    obtain ⟨rfl, rfl⟩ := Prod.mk.inj hmap
    refine ⟨mem.io, rfl, ?_, hcovered.virt.2⟩
    split_ifs at hva ⊢ with hinside
    · refine ⟨Nat.le_add_right _ _, ?_⟩
      by_cases hlen : len = 0
      · omega
      · have := hoffset (da - mem.da) (by omega)
        omega
    · exact absurd rfl hva
  case h_2 map hnone hsome =>
    exact plat.mmap_contains map hsome da len before va region hmap hva
  case h_3 =>
    exact absurd (Prod.mk.inj hmap).1.symm hva

/-- An address that is mapped comes with its region. -/
theorem remoteprocMmapVa_region {da : Nat} {before : Option IoRegion}
    (h : (remoteprocMmapVa plat da len before).1 ≠ NULL) :
    ∃ io, (remoteprocMmapVa plat da len before).2 = some io := by
  unfold remoteprocMmapVa at h ⊢
  dsimp only at h ⊢
  split at h
  case h_1 mem hfound => exact ⟨mem.io, rfl⟩
  case h_2 map hnone hsome =>
    obtain ⟨io, hio, -⟩ := plat.mmap_contains map hsome da len before _ _ rfl h
    exact ⟨io, hio⟩
  case h_3 => exact absurd rfl h

theorem RscPlatform.handle_total (plat : RscPlatform) (region : Option IoRegion) (addr size : Nat)
    (mem : Nat → UInt8) (bits : Nat → Bool) :
    ∃ table status, plat.handle region addr size (.fresh mem bits) = some (table, status) :=
  handleRscTableAt_total mem bits

namespace RscProc

variable {s s' : RscProc}

theorem readBytes_writeBytes_of_length {bytes : List UInt8} (h : bytes.length = len) :
    readBytes (writeBytes ram va bytes) va len = bytes := by
  rw [← h, readBytes_writeBytes_self]

/-! ### The entries of the table -/

/-- The table pointed at is consistent, and its entries lie in it. -/
def Pointed (plat : RscPlatform) (s : RscProc) : Prop :=
  s.rscTable ≠ NULL → ∃ io, s.rscIo = some io ∧ io.Contains s.rscTable s.rscLen ∧
    plat.Accepted (readBytes s.ram s.rscTable s.rscLen) ∧
      (s.tableAt s.rscTable).EntriesInside s.rscLen

/-- A call that keeps the three fields and the bytes of the table. -/
theorem Pointed.frame (h : s.Pointed plat) (htable : s'.rscTable = s.rscTable)
    (hlen : s'.rscLen = s.rscLen) (hio : s'.rscIo = s.rscIo)
    (hram : s.rscTable ≠ NULL →
      ∀ i < s.rscLen, s'.ram (s.rscTable + i) = s.ram (s.rscTable + i)) : s'.Pointed plat := by
  intro hne
  rw [htable] at hne
  obtain ⟨io, hrscIo, hcontains, haccepted, hinside⟩ := h hne
  rw [htable, hlen, hio, readBytes_congr (hram hne)]
  exact ⟨io, hrscIo, hcontains, haccepted, hinside.congr (hram hne)⟩

theorem ram_of_writesApart {writes : List (Nat × List UInt8)} (h : s.WritesApart writes)
    (htable : s.rscTable ≠ NULL) {i : Nat} (hi : i < s.rscLen) :
    writeBlocks s.ram writes (s.rscTable + i) = s.ram (s.rscTable + i) := by
  apply writeBlocks_apply_of_notMem
  rintro block hblock ⟨hlow, hhigh⟩
  rcases h block hblock with hnull | happart | happart
  · exact htable hnull
  · dsimp only at happart
    omega
  · dsimp only at happart
    omega

theorem Pointed.writes (h : s.Pointed plat) {writes : List (Nat × List UInt8)}
    (hwrites : s.WritesApart writes) : Pointed plat { s with ram := writeBlocks s.ram writes } :=
  h.frame rfl rfl rfl fun hne _ hi => ram_of_writesApart hwrites hne hi

/-- A table that has been parsed where it lies. -/
theorem ram_parsed (addr i : Nat) (table : RscState) :
    (s.parsed addr table).ram (addr + i) = table.mem i := by
  change (if addr + i < addr then _ else _) = _
  rw [if_neg (by omega), Nat.add_sub_cancel_left]

theorem ram_parsed_of_lt {addr a : Nat} {table : RscState} (h : a < addr) :
    (s.parsed addr table).ram a = s.ram a := if_pos h

/-- A parser that keeps inside its table leaves the one pointed at alone. -/
theorem Pointed.parsed (h : s.Pointed plat) {addr size : Nat} {table : RscState}
    (happart : s.Apart (addr, size))
    (hmem : ∀ i, size ≤ i → table.mem i = s.ram (addr + i)) : (s.parsed addr table).Pointed plat := by
  refine h.frame rfl rfl rfl fun hne i hi => ?_
  rcases Nat.lt_or_ge (s.rscTable + i) addr with hlt | hge
  · exact ram_parsed_of_lt hlt
  · obtain ⟨offset, hoffset⟩ := Nat.exists_eq_add_of_le hge
    rw [hoffset, ram_parsed]
    refine hmem offset ?_
    rcases happart with hnull | hlow | hhigh
    · exact absurd hnull hne
    · dsimp only at hlow
      omega
    · dsimp only at hhigh
      omega

theorem ram_parsed_of_same {addr : Nat} {table : RscState}
    (h : ∀ i, table.mem i = s.ram (addr + i)) : (s.parsed addr table).ram = s.ram := by
  funext a
  rcases Nat.lt_or_ge a addr with hlt | hge
  · exact ram_parsed_of_lt hlt
  · obtain ⟨i, rfl⟩ := Nat.exists_eq_add_of_le hge
    rw [ram_parsed, h]

/-! ### The calls -/

/-- A table that is accepted where it lies. -/
theorem pointed_parsed {io : IoRegion} {addr size : Nat} {table : RscState}
    (hcontains : io.Contains addr size) (hplaced : (s.tableAt addr).WellPlaced size)
    (hhandle : plat.handle (some io) addr size (s.tableAt addr) = some (table, 0)) :
    Pointed plat { s.parsed addr table with rscTable := addr, rscLen := size, rscIo := some io } := by
  intro _
  refine ⟨io, rfl, hcontains, ⟨some io, addr, size, _, table, 0, hhandle, Int.le_refl 0, ?_⟩, ?_⟩
  · refine List.map_congr_left fun i _ => ?_
    dsimp only
    rw [ram_parsed, Nat.zero_add]
  · have hkeeps := keepsEntries_handleRscTableAt (fun _ => hplaced) hhandle
    exact (hkeeps.inside hplaced).congr fun i _ => ram_parsed addr i table

theorem Pointed.setRscTable (h : s.Pointed plat) {addr size : Nat} {status : Int}
    (ha : s.CarefulSet plat addr size) (hcall : s.setRscTable plat addr size = some (status, s')) :
    s'.Pointed plat := by
  unfold RscProc.setRscTable at hcall
  cases hio : remoteprocGetIoWithVa plat addr with
  | none =>
      rw [hio] at hcall
      obtain ⟨-, rfl⟩ := Prod.mk.inj (Option.some.inj hcall)
      exact h
  | some io =>
      rw [hio] at hcall
      obtain ⟨⟨table, status'⟩, hhandle, hresult⟩ := Option.bind_eq_some_iff.mp hcall
      dsimp only at hresult
      have hplaced := fun hpasses => (ha io hio hpasses).2.1
      split_ifs at hresult with hzero
      · subst hzero
        obtain ⟨-, rfl⟩ := Prod.mk.inj (Option.some.inj hresult)
        obtain ⟨hcontains, hplaced, -⟩ :=
          ha io hio (passesHeader_of_accepted hhandle (Int.le_refl 0))
        exact pointed_parsed hcontains hplaced hhandle
      · obtain ⟨-, rfl⟩ := Prod.mk.inj (Option.some.inj hresult)
        by_cases hpasses : (s.tableAt addr).PassesHeader size
        · have happart := (ha io hio hpasses).2.2.resolve_left fun haccepted => hzero ?_
          · exact h.parsed happart fun i hi => mem_handleRscTableAt_of_le hplaced hhandle hi
          · rw [hhandle] at haccepted
            exact Option.some.inj haccepted
        · have hsame := mem_handleRscTableAt_of_refused hpasses hhandle
          exact h.frame rfl rfl rfl fun _ i _ => congrFun (ram_parsed_of_same hsame) _

/-- A table that has been accepted and written to where it is mapped. -/
theorem pointed_written {region before : Option IoRegion} {io : IoRegion} {da addr size : Nat}
    {mem : Nat → UInt8} {bits : Nat → Bool} {copy : RscState} {status : Int}
    (hmap : remoteprocMmapVa plat da size before = (va, some io)) (hend : da + size < 2 ^ 64)
    (hplaced : (RscState.fresh mem bits).WellPlaced size)
    (hhandle : plat.handle region addr size (.fresh mem bits) = some (copy, status))
    (haccepted : 0 ≤ status) (hio : s.rscIo = some io) (htable : s.rscTable = va)
    (hlen : s.rscLen = size)
    (hram : s.ram = io.blockWrite (io.virtToOffset va) (readBytes copy.mem 0 size) ram) :
    s.Pointed plat := by
  intro hne
  rw [htable] at hne
  obtain ⟨io', hio', hcontains, hvirt⟩ := remoteprocMmapVa_contains hmap hne hend
  obtain rfl := Option.some.inj hio'
  have hwritten : s.ram = writeBytes ram va (readBytes copy.mem 0 size) := by
    rw [hram]
    refine IoRegion.blockWrite_contains hvirt.le ?_
    rwa [length_readBytes]
  have hbytes : readBytes s.ram va size = readBytes copy.mem 0 size := by
    rw [hwritten]
    exact readBytes_writeBytes_of_length length_readBytes
  rw [htable, hlen]
  refine ⟨io, hio, hcontains, ⟨region, addr, size, _, copy, status, hhandle, haccepted, hbytes.symm⟩, ?_⟩
  have hkeeps := keepsEntries_handleRscTableAt (fun _ => hplaced) hhandle
  refine (hkeeps.inside hplaced).congr fun i hi => ?_
  have hi' : i < (readBytes copy.mem 0 size).length := by rwa [length_readBytes]
  change s.ram (va + i) = copy.mem i
  rw [hwritten, writeBytes_apply_add hi']
  simp [readBytes]

/-- A table that a load brings and can map. -/
theorem loadTable_pointed {before : Option IoRegion} {table : LoadedTable}
    (hcareful : s.CarefulTable plat table)
    (hmapped : (remoteprocMmapVa plat table.da table.size before).1 ≠ NULL)
    (hload : s.loadTable plat before table = some s') : s'.Pointed plat := by
  obtain ⟨hend, mem, hcopy, hplaced, haccepted⟩ := hcareful
  obtain ⟨copy, status, hhandle⟩ := plat.handle_total none NULL table.size mem s.bits
  have hnonneg := haccepted copy status hhandle
  have hget : s.getRscTable plat table = some ({ s with bits := copy.bits }, copy.mem) := by
    unfold getRscTable
    rw [hcopy]
    dsimp only
    rw [hhandle, Option.bind_eq_bind, Option.bind_some, if_neg (Int.not_lt.mpr hnonneg)]
  unfold loadTable at hload
  rw [hget, Option.bind_eq_bind, Option.bind_some] at hload
  dsimp only at hload
  rw [if_neg hmapped] at hload
  obtain ⟨io, hio, hstored⟩ := Option.bind_eq_some_iff.mp hload
  obtain rfl := Option.some.inj hstored
  exact pointed_written (Prod.ext rfl hio) hend hplaced hhandle hnonneg rfl rfl rfl rfl

/-- Where the mapping fails, the table stays in use. -/
theorem loadTable_of_null {before : Option IoRegion} {table : LoadedTable}
    (hnull : (remoteprocMmapVa plat table.da table.size before).1 = NULL)
    (hload : s.loadTable plat before table = some s') : ∃ bits, s' = { s with bits } := by
  obtain ⟨⟨t, copy⟩, hget, hresult⟩ := Option.bind_eq_some_iff.mp hload
  dsimp only at hresult
  rw [if_pos hnull] at hresult
  obtain rfl := Option.some.inj hresult
  unfold getRscTable at hget
  cases hcopy : table.copy with
  | none =>
      rw [hcopy] at hget
      obtain ⟨rfl, -⟩ := Prod.mk.inj (Option.some.inj hget)
      exact ⟨s.bits, rfl⟩
  | some mem =>
      rw [hcopy] at hget
      obtain ⟨⟨parsed, status⟩, -, hparsed⟩ := Option.bind_eq_some_iff.mp hget
      obtain ⟨rfl, -⟩ := Prod.mk.inj (Option.some.inj hparsed)
      exact ⟨parsed.bits, rfl⟩

theorem Pointed.load (h : s.Pointed plat) {run : LoadRun} (ha : s.Careful plat (.load run))
    (hload : s.load plat run = some s') : s'.Pointed plat := by
  unfold RscProc.load at hload
  split_ifs at hload with hstate
  · cases hload
    exact h
  · have hcareful : s.CarefulLoad plat run := ha (by tauto)
    unfold CarefulLoad at hcareful
    dsimp only at hload
    cases hresult : run.result with
    | error ret =>
        simp only [hresult] at hcareful hload
        cases hload
        exact h.writes hcareful
    | ok table =>
        cases table with
        | none =>
            simp only [hresult] at hcareful hload
            cases hload
            exact (h.writes hcareful).frame rfl rfl rfl fun _ _ _ => rfl
        | some table =>
            simp only [hresult] at hcareful hload
            obtain ⟨loaded, htable, rfl⟩ := Option.map_eq_some_iff.mp hload
            split_ifs at hcareful with hmapped
            · have htable' : CarefulTable plat { s with ram := writeBlocks s.ram run.writes } table :=
                hcareful
              exact (loadTable_pointed htable' hmapped htable).frame rfl rfl rfl fun _ _ _ => rfl
            · obtain ⟨bits, rfl⟩ := loadTable_of_null (not_not.mp hmapped) htable
              exact (h.writes hcareful).frame rfl rfl rfl fun _ _ _ => rfl

/-- The copy is a table that is looked at for the first time, and comes from the mapping. -/
theorem noblockCopy_mapped {run : NoblockRun} {da size : Nat} {io : IoRegion} {copy : RscState}
    (h : s.noblockCopy plat run da size = some (io, va, copy)) :
    remoteprocMmapVa plat da size run.io = (va, some io) ∧ ∃ mem, copy = .fresh mem s.bits := by
  unfold noblockCopy at h
  split_ifs at h
  generalize hmap : remoteprocMmapVa plat da size run.io = mapping at h
  obtain ⟨va', region⟩ := mapping
  cases region with
  | none => exact nomatch h
  | some io' =>
      dsimp only at h
      split_ifs at h
      obtain ⟨rfl, hrest⟩ := Prod.mk.inj (Option.some.inj h)
      obtain ⟨rfl, rfl⟩ := Prod.mk.inj hrest
      exact ⟨rfl, _, rfl⟩

/-- The end of a load either accepts a table, or keeps the one before. -/
theorem noblockTable_cases {run : NoblockRun} {da size : Nat}
    (hload : s.noblockTable plat run da size = some s') :
    ((∀ io va copy after status, s.noblockCopy plat run da size = some (io, va, copy) →
        plat.handle (remoteprocGetIoWithVa plat run.lrscTable) run.lrscTable size copy =
          some (after, status) → status < 0) ∧ ∃ bits, s' = { s with bits }) ∨
      ∃ io va copy after status, s.noblockCopy plat run da size = some (io, va, copy) ∧
        plat.handle (remoteprocGetIoWithVa plat run.lrscTable) run.lrscTable size copy =
          some (after, status) ∧ 0 ≤ status ∧
        s' = { s with
          bits := after.bits
          ram := io.blockWrite (io.virtToOffset va) (readBytes after.mem 0 size) s.ram
          rscTable := va
          rscLen := size } := by
  unfold noblockTable at hload
  cases hcopy : s.noblockCopy plat run da size with
  | none =>
      rw [hcopy] at hload
      obtain rfl := Option.some.inj hload
      exact .inl ⟨fun _ _ _ _ _ hfound => (nomatch hfound), s.bits, rfl⟩
  | some found =>
      obtain ⟨io, va, copy⟩ := found
      rw [hcopy] at hload
      obtain ⟨⟨after, status⟩, hhandle, hresult⟩ := Option.bind_eq_some_iff.mp hload
      dsimp only at hresult
      split_ifs at hresult with hstatus
      · obtain rfl := Option.some.inj hresult
        refine .inl ⟨fun io' va' copy' after' status' hfound hhandle' => ?_, after.bits, rfl⟩
        cases hfound
        obtain ⟨-, rfl⟩ := Prod.mk.inj (Option.some.inj (hhandle.symm.trans hhandle'))
        exact hstatus
      · obtain rfl := Option.some.inj hresult
        exact .inr ⟨io, va, copy, after, status, rfl, hhandle, Int.not_lt.mp hstatus, rfl⟩

theorem Pointed.loadNoblock (h : s.Pointed plat) {run : NoblockRun}
    (ha : s.CarefulNoblock plat run) (hload : s.loadNoblock plat run = some s') : s'.Pointed plat := by
  obtain ⟨hwrites, hregion⟩ := ha
  have hkeeps (hnone : ∀ da size io copy, ¬ s.AcceptsNoblock plat run da size io copy) :
      Pointed plat { s with ram := writeBlocks s.ram run.writes } := by
    refine h.writes (hwrites.resolve_right ?_)
    rintro ⟨da, size, io, copy, haccepts⟩
    exact hnone da size io copy haccepts
  unfold RscProc.loadNoblock at hload
  dsimp only at hload
  split_ifs at hload with hstate
  · obtain rfl := Option.some.inj hload
    exact hkeeps fun _ _ _ _ haccepts => hstate haccepts.1
  · cases hresult : run.result with
    | error ret =>
        rw [hresult] at hload
        obtain rfl := Option.some.inj hload
        exact hkeeps fun _ _ _ _ haccepts => nomatch hresult.symm.trans haccepts.2.1
    | ok found =>
        rw [hresult] at hload
        cases found with
        | none =>
            obtain rfl := Option.some.inj hload
            exact hkeeps fun _ _ _ _ haccepts => nomatch hresult.symm.trans haccepts.2.1
        | some place =>
            cases place with
            | none =>
                obtain rfl := Option.some.inj hload
                exact hkeeps fun _ _ _ _ haccepts => nomatch hresult.symm.trans haccepts.2.1
            | some place =>
                obtain ⟨da, size⟩ := place
                rcases noblockTable_cases hload with
                  ⟨hnone, bits, rfl⟩ | ⟨io, va, copy, after, status, hcopy, hhandle, hstatus, rfl⟩
                · have hkept : Pointed plat { s with ram := writeBlocks s.ram run.writes } := by
                    refine hkeeps fun da' size' io copy haccepts => ?_
                    obtain ⟨-, hresult', va, after, status, hcopy, hhandle, hstatus⟩ := haccepts
                    cases hresult.symm.trans hresult'
                    exact absurd hstatus (Int.not_le.mpr (hnone io va copy after status hcopy hhandle))
                  exact hkept.frame rfl rfl rfl fun _ _ _ => rfl
                · have haccepts : s.AcceptsNoblock plat run da size io copy :=
                    ⟨not_not.mp hstate, hresult, va, after, status, hcopy, hhandle, hstatus⟩
                  obtain ⟨hend, hplaced, hio⟩ := hregion da size io copy haccepts
                  obtain ⟨hmap, mem, rfl⟩ := noblockCopy_mapped hcopy
                  exact pointed_written hmap hend hplaced hhandle hstatus hio rfl rfl rfl

theorem Pointed.step (h : s.Pointed plat) {a : RscAction} (ha : s.Careful plat a)
    (hstep : s.step plat a = some s') : s'.Pointed plat := by
  cases a with
  | setRscTable addr size =>
      obtain ⟨⟨status, s''⟩, hcall, rfl⟩ := Option.map_eq_some_iff.mp hstep
      exact h.setRscTable ha hcall
  | load run => exact h.load ha hstep
  | loadNoblock run => exact h.loadNoblock ha hstep
  | lifecycle action =>
      cases action with
      | load => cases hstep
      | loadNoblock => cases hstep
      | _ =>
          cases hstep
          exact h.frame rfl rfl rfl fun _ _ _ => rfl

theorem getRscTable_total (plat : RscPlatform) (s : RscProc) (table : LoadedTable) :
    ∃ result, s.getRscTable plat table = some result := by
  unfold getRscTable
  cases table.copy with
  | none => exact ⟨_, rfl⟩
  | some mem =>
      obtain ⟨copy, status, hhandle⟩ := plat.handle_total none NULL table.size mem s.bits
      exact ⟨_, Option.bind_eq_some_iff.mpr ⟨_, hhandle, rfl⟩⟩

theorem loadTable_total (plat : RscPlatform) (s : RscProc) (io : Option IoRegion)
    (table : LoadedTable) : ∃ s', s.loadTable plat io table = some s' := by
  obtain ⟨result, hget⟩ := s.getRscTable_total plat table
  unfold loadTable
  rw [hget, Option.bind_eq_bind, Option.bind_some]
  dsimp only
  split_ifs with hnull
  · exact ⟨_, rfl⟩
  · obtain ⟨region, hregion⟩ := remoteprocMmapVa_region hnull
    exact ⟨_, Option.bind_eq_some_iff.mpr ⟨region, hregion, rfl⟩⟩

theorem noblockTable_total (plat : RscPlatform) (s : RscProc) (run : NoblockRun) (da size : Nat) :
    ∃ s', s.noblockTable plat run da size = some s' := by
  unfold noblockTable
  cases hcopy : s.noblockCopy plat run da size with
  | none => exact ⟨_, rfl⟩
  | some found =>
      obtain ⟨io, va, copy⟩ := found
      obtain ⟨-, mem, rfl⟩ := noblockCopy_mapped hcopy
      obtain ⟨after, status, hhandle⟩ :=
        plat.handle_total (remoteprocGetIoWithVa plat run.lrscTable) run.lrscTable size mem s.bits
      dsimp only
      rw [hhandle, Option.bind_eq_bind, Option.bind_some]
      split_ifs <;> exact ⟨_, rfl⟩

/-- Every call that comes to a table has an outcome, whatever it finds there. -/
theorem step_total (plat : RscPlatform) (s : RscProc) {a : RscAction}
    (ha : ∀ action, a ≠ .lifecycle action) : ∃ s', s.step plat a = some s' := by
  cases a with
  | setRscTable addr size =>
      refine Option.isSome_iff_exists.mp ?_
      rw [step, Option.isSome_map, RscProc.setRscTable]
      cases remoteprocGetIoWithVa plat addr with
      | none => rfl
      | some io =>
          obtain ⟨table, status, hhandle⟩ :=
            plat.handle_total (some io) addr size (fun i => s.ram (addr + i)) s.bits
          dsimp only [tableAt]
          rw [hhandle, Option.bind_eq_bind, Option.bind_some]
          dsimp only
          split_ifs <;> rfl
  | load run =>
      rw [step, RscProc.load]
      split_ifs
      · exact ⟨_, rfl⟩
      · dsimp only
        cases run.result with
        | error ret => exact ⟨_, rfl⟩
        | ok found =>
            cases found with
            | none => exact ⟨_, rfl⟩
            | some table =>
                obtain ⟨s', hload⟩ := loadTable_total plat _ run.io table
                exact ⟨_, Option.map_eq_some_iff.mpr ⟨s', hload, rfl⟩⟩
  | loadNoblock run =>
      rw [step, RscProc.loadNoblock]
      dsimp only
      split_ifs
      · exact ⟨_, rfl⟩
      · rcases run.result with ret | (_ | _ | ⟨da, size⟩)
        · exact ⟨_, rfl⟩
        · exact ⟨_, rfl⟩
        · exact ⟨_, rfl⟩
        · exact noblockTable_total plat _ run da size
  | lifecycle action => exact absurd rfl (ha action)

end RscProc

/-! ### A platform with one memory -/

namespace RscProc

end RscProc

end OpenAmp
