import OpenAmp.ElfPointers
import OpenAmp.Library.Logged
import OpenAmp.Proof.ElfSegments

/-!
# What the ELF loader reads

A call of `elf_load_header` stays inside its chunk unless a table ends behind `2 ^ 64`: the two ends
that its range tests compare are taken modulo `2 ^ 64`, and they are in order there whenever the table
wraps and the chunk does not. The class of the file is read in any case.
-/

namespace OpenAmp

open ByteMemory Logged Slice

theorem MemRead.inside_iff {index size len : Nat} :
    MemRead.Inside ⟨index, size⟩ len ↔ size = 0 ∨ index + size ≤ len := by
  constructor
  · intro h
    by_cases hsize : size = 0
    · exact .inl hsize
    · have hlast := h (index + size - 1) (by simp only []; omega) (by simp only []; omega)
      exact .inr (by omega)
  · rintro (rfl | hle) i hlow hhigh
    · simp only [Nat.add_zero] at hlow hhigh
      omega
    · simp only [] at hlow hhigh
      omega

theorem readsInside_nil (len : Nat) : ReadsInside len [] := fun _ h => absurd h List.not_mem_nil

theorem readsInside_cons {len : Nat} {read : MemRead} {reads : List MemRead} :
    ReadsInside len (read :: reads) ↔ read.Inside len ∧ ReadsInside len reads :=
  List.forall_mem_cons

theorem readsInside_append {len : Nat} {reads more : List MemRead} :
    ReadsInside len (reads ++ more) ↔ ReadsInside len reads ∧ ReadsInside len more :=
  List.forall_mem_append

/-! ### One table -/

section Table

variable {allocate : Nat → Bool} {img : Nat → UInt8} {offset len tableOffset tableSize : Nat}

theorem elfLoadTableAt_wait (h : elfTableWaits offset len tableOffset tableSize = true) :
    elfLoadTableAt allocate img offset len tableOffset tableSize = (.wait, []) := by
  rw [elfLoadTableAt, if_pos h]

theorem elfLoadTableAt_noMemory (h : elfTableWaits offset len tableOffset tableSize = false)
    (hallocate : allocate tableSize = false) :
    elfLoadTableAt allocate img offset len tableOffset tableSize = (.noMemory, []) := by
  rw [elfLoadTableAt, if_neg (by simp [h]), if_pos hallocate]

theorem elfLoadTableAt_loaded (h : elfTableWaits offset len tableOffset tableSize = false)
    (hallocate : allocate tableSize = true) :
    elfLoadTableAt allocate img offset len tableOffset tableSize =
      (.loaded (readBytes img (tableOffset - offset) (u32 tableSize)),
        [⟨tableOffset - offset, tableSize⟩]) := by
  rw [elfLoadTableAt, if_neg (by simp [h]), if_neg (by simp [hallocate])]

theorem elfTableWaits_eq_false :
    elfTableWaits offset len tableOffset tableSize = false ↔
      offset ≤ tableOffset ∧ u64 (tableOffset + tableSize) ≤ u64 (offset + len) := by
  simp [elfTableWaits]

/-- A copy that passes the range test stays inside the chunk unless the end of the table wraps alone:
if neither end wraps or both do, they compare as the ends themselves do. -/
theorem tableReads_inside_iff (hoffset : offset < 2 ^ 64) (hlen : len < 2 ^ 64)
    (htable : tableOffset < 2 ^ 64) (hsize : tableSize < 2 ^ 64) :
    ReadsInside len (elfLoadTableAt allocate img offset len tableOffset tableSize).2 ↔
      ¬ WrapsPast allocate offset len tableOffset tableSize := by
  cases hwaits : elfTableWaits offset len tableOffset tableSize with
  | true =>
      rw [elfLoadTableAt_wait hwaits]
      exact iff_of_true (readsInside_nil len) fun h => by simp [WrapsPast, hwaits] at h
  | false =>
      cases hallocate : allocate tableSize with
      | false =>
          rw [elfLoadTableAt_noMemory hwaits hallocate]
          exact iff_of_true (readsInside_nil len) fun h => by simp [WrapsPast, hallocate] at h
      | true =>
          rw [elfLoadTableAt_loaded hwaits hallocate, readsInside_cons, MemRead.inside_iff,
            WrapsPast]
          obtain ⟨hle, hends⟩ := elfTableWaits_eq_false.mp hwaits
          simp only [hwaits, hallocate, readsInside_nil, and_true, true_and]
          unfold u64 at hends
          omega

end Table

/-! ### The fields of the header -/

theorem elfField_lt (is64 : Bool) (bytes : List UInt8) (offset32 width32 offset64 width64 : Nat)
    {width : Nat} (h32 : width32 ≤ width) (h64 : width64 ≤ width) :
    elfField is64 bytes offset32 width32 offset64 width64 < 256 ^ width := by
  unfold elfField
  split
  · exact (ElfImage.field_lt ..).trans_le (Nat.pow_le_pow_right (by decide) h64)
  · exact (ElfImage.field_lt ..).trans_le (Nat.pow_le_pow_right (by decide) h32)

theorem elfPhoff_lt (ehdr : List UInt8) : elfPhoff ehdr < 2 ^ 64 :=
  @elfField_lt _ _ _ _ _ _ 8 (by decide) (by decide)

theorem elfShoff_lt (ehdr : List UInt8) : elfShoff ehdr < 2 ^ 64 :=
  @elfField_lt _ _ _ _ _ _ 8 (by decide) (by decide)

theorem tableBytes_lt {num entsize : Nat} (hnum : num < 256 ^ 2) (hentsize : entsize < 256 ^ 2) :
    num * entsize < 2 ^ 32 :=
  calc
    num * entsize < 256 ^ 2 * 256 ^ 2 := Nat.mul_lt_mul'' hnum hentsize
    _ = 2 ^ 32 := by decide

theorem phdrsBytes_lt (ehdr : List UInt8) : elfPhnum ehdr * elfPhentsize ehdr < 2 ^ 32 :=
  tableBytes_lt (elfField_lt _ _ _ _ _ _ (by decide) (by decide))
    (elfField_lt _ _ _ _ _ _ (by decide) (by decide))

theorem shdrsBytes_lt (ehdr : List UInt8) : elfShnum ehdr * elfShentsize ehdr < 2 ^ 32 :=
  tableBytes_lt (elfField_lt _ _ _ _ _ _ (by decide) (by decide))
    (elfField_lt _ _ _ _ _ _ (by decide) (by decide))

theorem shOffset_lt (is64 : Bool) (shdrs : List UInt8) (behind : Nat → UInt8) (entry : Nat) :
    (elfParseSectionAt is64 shdrs behind entry).shOffset < 2 ^ 64 :=
  @elfField_lt _ _ _ _ _ _ 8 (by decide) (by decide)

theorem shSize_lt (is64 : Bool) (shdrs : List UInt8) (behind : Nat → UInt8) (entry : Nat) :
    (elfParseSectionAt is64 shdrs behind entry).shSize < 2 ^ 64 :=
  @elfField_lt _ _ _ _ _ _ 8 (by decide) (by decide)

theorem clearBits_or_and (state mask bits : Nat) :
    (clearBits state mask ||| bits) &&& mask = bits &&& mask := by
  apply Nat.eq_of_testBit_eq
  intro i
  simp only [clearBits, Nat.testBit_and, Nat.testBit_or, Nat.testBit_xor]
  cases state.testBit i <;> cases mask.testBit i <;> simp

/-! ### The stages -/

section Stages

variable {allocate : ElfMem → Nat → Bool} {img behind : Nat → UInt8} {offset len : Nat}
  {info : ElfInfo} {lastLoadState noffset nlen : Nat}

/-- What follows a table is read behind it. -/
theorem run_load_bind {mem : ElfMem} {tableOffset tableSize : Nat}
    (f : TableLoad → Writer (List MemRead) HeaderOut) :
    ((memTables allocate img behind offset len).load mem tableOffset tableSize >>= f).run =
      ((f (elfLoadTableAt (allocate mem) img offset len tableOffset tableSize).1).run.1,
        (elfLoadTableAt (allocate mem) img offset len tableOffset tableSize).2 ++
          (f (elfLoadTableAt (allocate mem) img offset len tableOffset tableSize).1).run.2) :=
  rfl

theorem shstrtabReads_of_section {shdrs : List UInt8} {entry : Nat}
    (hbit : info.loadState &&& ELF_STATE_WAIT_FOR_SHSTRTAB ≠ 0) (hshdrs : info.shdrs = some shdrs)
    (hentry : elfGetSectionFromIndexAt info (elfShstrndx info.ehdr) = some entry) :
    (elfLoadShstrtabAt allocate img behind offset len info lastLoadState noffset nlen).2 =
      (elfLoadTableAt (allocate .shstrtab) img offset len
        (elfParseSectionAt info.is64 shdrs behind entry).shOffset
        (elfParseSectionAt info.is64 shdrs behind entry).shSize).2 := by
  have hsection : (memTables allocate img behind offset len).sectionFromIndex info
      (elfShstrndx info.ehdr) = some (elfParseSectionAt info.is64 shdrs behind entry) := by
    simp only [memTables, hshdrs, hentry]
  rw [elfLoadShstrtabAt, elfLoadShstrtabWith, if_pos hbit, hsection]
  dsimp only
  rw [run_load_bind]
  rcases elfLoadTableAt (allocate .shstrtab) img offset len
    (elfParseSectionAt info.is64 shdrs behind entry).shOffset
    (elfParseSectionAt info.is64 shdrs behind entry).shSize with ⟨load, reads⟩
  cases load <;> exact List.append_nil reads

theorem shstrtabReads_inside_iff (hoffset : offset < 2 ^ 64) (hlen : len < 2 ^ 64)
    (hbit : info.loadState &&& ELF_STATE_WAIT_FOR_SHSTRTAB ≠ 0) :
    ReadsInside len
        (elfLoadShstrtabAt allocate img behind offset len info lastLoadState noffset nlen).2 ↔
      ¬ ShstrtabWraps allocate behind offset len info := by
  cases hshdrs : info.shdrs with
  | none =>
      have hsection : (memTables allocate img behind offset len).sectionFromIndex info
          (elfShstrndx info.ehdr) = none := by
        simp only [memTables, hshdrs]
      rw [elfLoadShstrtabAt, elfLoadShstrtabWith, if_pos hbit, hsection]
      exact iff_of_true (readsInside_nil len) (by simp [ShstrtabWraps, hshdrs])
  | some shdrs =>
      cases hentry : elfGetSectionFromIndexAt info (elfShstrndx info.ehdr) with
      | none =>
          have hsection : (memTables allocate img behind offset len).sectionFromIndex info
              (elfShstrndx info.ehdr) = none := by
            simp only [memTables, hshdrs, hentry]
          rw [elfLoadShstrtabAt, elfLoadShstrtabWith, if_pos hbit, hsection]
          exact iff_of_true (readsInside_nil len) (by simp [ShstrtabWraps, hentry])
      | some entry =>
          rw [shstrtabReads_of_section hbit hshdrs hentry,
            tableReads_inside_iff hoffset hlen (shOffset_lt ..) (shSize_lt ..)]
          simp [ShstrtabWraps, hshdrs, hentry]

theorem shstrtabReads_nil (hbit : info.loadState &&& ELF_STATE_WAIT_FOR_SHSTRTAB = 0) :
    (elfLoadShstrtabAt allocate img behind offset len info lastLoadState noffset nlen).2 = [] := by
  rw [elfLoadShstrtabAt, elfLoadShstrtabWith, if_neg (by simp [hbit])]
  rfl

theorem shstrtab_due (state : Nat) :
    (clearBits state ELF_STATE_MASK ||| ELF_STATE_WAIT_FOR_SHSTRTAB) &&&
      ELF_STATE_WAIT_FOR_SHSTRTAB ≠ 0 := by
  have hmask : ELF_STATE_WAIT_FOR_SHSTRTAB = ELF_STATE_MASK &&& ELF_STATE_WAIT_FOR_SHSTRTAB := rfl
  have hbits : (clearBits state ELF_STATE_MASK ||| ELF_STATE_WAIT_FOR_SHSTRTAB) &&&
      ELF_STATE_WAIT_FOR_SHSTRTAB = ELF_STATE_WAIT_FOR_SHSTRTAB := by
    nth_rewrite 2 [hmask]
    rw [← Nat.and_assoc, clearBits_or_and]
    rfl
  rw [hbits]
  decide

theorem shdrsReads_inside_iff (hoffset : offset < 2 ^ 64) (hlen : len < 2 ^ 64)
    (hbit : info.loadState &&& ELF_STATE_WAIT_FOR_SHDRS ≠ 0) :
    ReadsInside len
        (elfLoadShdrsAt allocate img behind offset len info lastLoadState noffset nlen).2 ↔
      ¬ ShdrsWraps allocate img behind offset len info := by
  rw [elfLoadShdrsAt, elfLoadShdrsWith, if_pos hbit]
  by_cases hnum : elfShnum info.ehdr = 0
  · rw [if_pos hnum]
    exact iff_of_true (readsInside_nil len) fun h => h.1 hnum
  · rw [if_neg hnum, run_load_bind]
    have htable := @tableReads_inside_iff (allocate .shdrs) img offset len (elfShoff info.ehdr)
      (elfShnum info.ehdr * elfShentsize info.ehdr) hoffset hlen (elfShoff_lt _)
      ((shdrsBytes_lt _).trans (by decide))
    simp only [ShdrsWraps, hnum, ne_eq, not_false_iff, true_and, not_or]
    rw [← htable, elfTableAt]
    cases hwaits : elfTableWaits offset len (elfShoff info.ehdr)
        (elfShnum info.ehdr * elfShentsize info.ehdr) with
    | true =>
        rw [elfLoadTableAt_wait hwaits]
        exact iff_of_true (readsInside_nil len) ⟨readsInside_nil len, by simp⟩
    | false =>
        cases hallocate : allocate .shdrs (elfShnum info.ehdr * elfShentsize info.ehdr) with
        | false =>
            rw [elfLoadTableAt_noMemory hwaits hallocate]
            exact iff_of_true (readsInside_nil len) ⟨readsInside_nil len, by simp⟩
        | true =>
            simp only [elfLoadTableAt_loaded hwaits hallocate, and_self, if_true,
              Option.some.injEq, exists_eq_left', readsInside_append]
            exact and_congr_right fun _ =>
              shstrtabReads_inside_iff hoffset hlen (shstrtab_due info.loadState)

theorem shdrs_due :
    (ELF_STATE_WAIT_FOR_SHDRS ||| RPROC_LOADER_READY_TO_LOAD) &&& ELF_STATE_WAIT_FOR_SHDRS ≠ 0 := by
  decide

theorem phdrsReads_inside_iff (hoffset : offset < 2 ^ 64) (hlen : len < 2 ^ 64)
    (hstate : info.loadState = ELF_STATE_WAIT_FOR_PHDRS) :
    ReadsInside len
        (elfLoadPhdrsAt allocate img behind offset len info info.loadState noffset nlen).2 ↔
      ¬ PhdrsWraps allocate img behind offset len info := by
  have htable := @tableReads_inside_iff (allocate .phdrs) img offset len (elfPhoff info.ehdr)
    (elfPhnum info.ehdr * elfPhentsize info.ehdr) hoffset hlen (elfPhoff_lt _)
    ((phdrsBytes_lt _).trans (by decide))
  rw [elfLoadPhdrsAt, elfLoadPhdrsWith, if_neg (by simp), if_pos hstate, run_load_bind]
  simp only [PhdrsWraps, not_or]
  rw [← htable, elfTableAt]
  cases hwaits : elfTableWaits offset len (elfPhoff info.ehdr)
      (elfPhnum info.ehdr * elfPhentsize info.ehdr) with
  | true =>
      rw [elfLoadTableAt_wait hwaits]
      exact iff_of_true (readsInside_nil len) ⟨readsInside_nil len, by simp⟩
  | false =>
      cases hallocate : allocate .phdrs (elfPhnum info.ehdr * elfPhentsize info.ehdr) with
      | false =>
          rw [elfLoadTableAt_noMemory hwaits hallocate]
          exact iff_of_true (readsInside_nil len) ⟨readsInside_nil len, by simp⟩
      | true =>
          simp only [elfLoadTableAt_loaded hwaits hallocate, and_self, if_true, ne_eq,
            Option.some_ne_none, not_false_iff, true_and, readsInside_append]
          exact and_congr_right fun _ => shdrsReads_inside_iff hoffset hlen shdrs_due

theorem tablesReads_inside_iff (hoffset : offset < 2 ^ 64) (hlen : len < 2 ^ 64) :
    ReadsInside len
        (elfLoadPhdrsAt allocate img behind offset len info info.loadState noffset nlen).2 ↔
      ¬ TablesWrap allocate img behind offset len info := by
  unfold TablesWrap
  by_cases hphdrs : info.loadState = ELF_STATE_WAIT_FOR_PHDRS
  · rw [if_pos hphdrs]
    exact phdrsReads_inside_iff hoffset hlen hphdrs
  · rw [if_neg hphdrs, elfLoadPhdrsAt, elfLoadPhdrsWith, if_neg (by simp), if_neg hphdrs]
    by_cases hshdrs : info.loadState &&& ELF_STATE_WAIT_FOR_SHDRS ≠ 0
    · rw [if_pos hshdrs]
      exact shdrsReads_inside_iff hoffset hlen hshdrs
    · rw [if_neg hshdrs, elfLoadShdrsWith, if_neg hshdrs]
      change ReadsInside len (elfLoadShstrtabAt allocate img behind offset len info info.loadState
        noffset nlen).2 ↔ _
      by_cases hbit : info.loadState &&& ELF_STATE_WAIT_FOR_SHSTRTAB = 0
      · rw [shstrtabReads_nil hbit]
        exact iff_of_true (readsInside_nil len) fun h => h.1 hbit
      · rw [shstrtabReads_inside_iff hoffset hlen hbit]
        simp [hbit]

end Stages

/-! ### The call -/

section Header

variable {allocate : ElfMem → Nat → Bool} {img behind : Nat → UInt8} {offset len : Nat}
  {imgInfo : Option ElfInfo} {lastLoadState noffset nlen : Nat}

theorem elfLoadHeaderAt_short (hshort : len < sizeofEhdr (img EI_CLASS == ELFCLASS64)) :
    elfLoadHeaderAt allocate img behind offset len imgInfo ELF_STATE_INIT noffset nlen =
      (some ⟨.ok ELF_STATE_INIT, imgInfo, 0, sizeofEhdr (img EI_CLASS == ELFCLASS64)⟩,
        [⟨EI_CLASS, 1⟩]) := by
  rw [elfLoadHeaderAt, elfLoadHeaderWith, if_pos rfl]
  simp only [memEhdr, run_mk_bind, if_pos hshort]
  rfl

theorem elfLoadHeaderAt_noMemory (hlong : ¬ len < sizeofEhdr (img EI_CLASS == ELFCLASS64))
    (hallocate : allocate .info (if img EI_CLASS == ELFCLASS64 then 96 else 80) = false) :
    elfLoadHeaderAt allocate img behind offset len none ELF_STATE_INIT noffset nlen =
      (some ⟨.error (-RPROC_ENOMEM), none, noffset, nlen⟩, [⟨EI_CLASS, 1⟩, ⟨EI_CLASS, 1⟩]) := by
  rw [elfLoadHeaderAt, elfLoadHeaderWith, if_pos rfl]
  simp only [memEhdr, EhdrOps.allocateInfo, run_mk_bind, if_neg hlong, hallocate]
  rfl

/-- The ELF header is copied, and the call goes on to the tables. -/
theorem elfLoadHeaderAt_copied (hlong : ¬ len < sizeofEhdr (img EI_CLASS == ELFCLASS64))
    (hallocate : ¬ (imgInfo = none ∧
      allocate .info (if img EI_CLASS == ELFCLASS64 then 96 else 80) = false)) :
    elfLoadHeaderAt allocate img behind offset len imgInfo ELF_STATE_INIT noffset nlen =
      let tables := elfLoadPhdrsAt allocate img behind offset len
        (elfHeaderCopied imgInfo (readBytes img 0 (sizeofEhdr (img EI_CLASS == ELFCLASS64))))
        ELF_STATE_WAIT_FOR_PHDRS noffset nlen
      (some tables.1, ⟨EI_CLASS, 1⟩ :: ⟨EI_CLASS, 1⟩ ::
        ⟨0, sizeofEhdr (img EI_CLASS == ELFCLASS64)⟩ :: tables.2) := by
  rw [elfLoadHeaderAt, elfLoadHeaderWith, if_pos rfl]
  simp only [memEhdr, run_mk_bind, if_neg hlong]
  cases imgInfo with
  | none =>
      have hgranted : allocate .info (if img EI_CLASS == ELFCLASS64 then 96 else 80) = true := by
        simpa using hallocate
      simp only [EhdrOps.allocateInfo, hgranted]
      rfl
  | some info => rfl

theorem elfLoadHeaderAt_some (hinit : lastLoadState ≠ ELF_STATE_INIT) (info : ElfInfo) :
    elfLoadHeaderAt allocate img behind offset len (some info) lastLoadState noffset nlen =
      let tables := elfLoadPhdrsAt allocate img behind offset len info lastLoadState noffset nlen
      (some tables.1, tables.2) := by
  rw [elfLoadHeaderAt, elfLoadHeaderWith, if_neg hinit]
  rfl

/-- Without an object to go on with. -/
theorem elfLoadHeaderAt_none (hinit : lastLoadState ≠ ELF_STATE_INIT) :
    elfLoadHeaderAt allocate img behind offset len none lastLoadState noffset nlen = (none, []) := by
  rw [elfLoadHeaderAt, elfLoadHeaderWith, if_neg hinit]
  rfl

/-- How a call can end: it waits for the ELF header, has no memory for an object, or comes to the
tables, with a new header or with the object that it was given. -/
theorem elfLoadHeaderAt_cases {out : HeaderOut}
    (h : (elfLoadHeaderAt allocate img behind offset len imgInfo lastLoadState noffset nlen).1 =
      some out) :
    (lastLoadState = ELF_STATE_INIT ∧ ∃ is64, len < sizeofEhdr is64 ∧
        out = ⟨.ok ELF_STATE_INIT, imgInfo, 0, sizeofEhdr is64⟩) ∨
      (lastLoadState = ELF_STATE_INIT ∧ imgInfo = none ∧
        out = ⟨.error (-RPROC_ENOMEM), none, noffset, nlen⟩) ∨
      (lastLoadState = ELF_STATE_INIT ∧ ∃ ehdr, out = (elfLoadPhdrsAt allocate img behind offset len
        (elfHeaderCopied imgInfo ehdr) ELF_STATE_WAIT_FOR_PHDRS noffset nlen).1) ∨
      (lastLoadState ≠ ELF_STATE_INIT ∧ ∃ info, imgInfo = some info ∧
        out = (elfLoadPhdrsAt allocate img behind offset len info lastLoadState noffset nlen).1) := by
  by_cases hinit : lastLoadState = ELF_STATE_INIT
  · subst hinit
    by_cases hshort : len < sizeofEhdr (img EI_CLASS == ELFCLASS64)
    · rw [elfLoadHeaderAt_short hshort] at h
      exact .inl ⟨rfl, _, hshort, (Option.some.inj h).symm⟩
    · by_cases hallocate : imgInfo = none ∧
          allocate .info (if img EI_CLASS == ELFCLASS64 then 96 else 80) = false
      · obtain ⟨rfl, hrefused⟩ := hallocate
        rw [elfLoadHeaderAt_noMemory hshort hrefused] at h
        exact .inr (.inl ⟨rfl, rfl, (Option.some.inj h).symm⟩)
      · rw [elfLoadHeaderAt_copied hshort hallocate] at h
        exact .inr (.inr (.inl ⟨rfl, _, (Option.some.inj h).symm⟩))
  · cases imgInfo with
    | none =>
        rw [elfLoadHeaderAt_none hinit] at h
        exact nomatch h
    | some info =>
        rw [elfLoadHeaderAt_some hinit] at h
        exact .inr (.inr (.inr ⟨hinit, info, rfl, (Option.some.inj h).symm⟩))

end Header

/-- A call reads only the chunk exactly if the chunk reaches to the class of the file, where that is
read, and no table that is due wraps. -/
theorem elf_header_reads_inside_iff (allocate : ElfMem → Nat → Bool) (img behind : Nat → UInt8)
    (offset len : UInt64) (imgInfo : Option ElfInfo) (lastLoadState noffset nlen : Nat) :
    ReadsInside len.toNat (elfLoadHeaderAt allocate img behind offset.toNat len.toNat imgInfo
        lastLoadState noffset nlen).2 ↔
      (lastLoadState = ELF_STATE_INIT → EI_CLASS < len.toNat) ∧
        ∀ info, dueInfo allocate img len.toNat imgInfo lastLoadState = some info →
          ¬ TablesWrap allocate img behind offset.toNat len.toNat info := by
  have hoffset := offset.toNat_lt
  have hlen := len.toNat_lt
  unfold dueInfo
  by_cases hinit : lastLoadState = ELF_STATE_INIT
  · subst hinit
    simp only [forall_const, if_true]
    by_cases hshort : len.toNat < sizeofEhdr (img EI_CLASS == ELFCLASS64)
    · have hclass : MemRead.Inside ⟨EI_CLASS, 1⟩ len.toNat ↔ EI_CLASS < len.toNat :=
        MemRead.inside_iff.trans ((or_iff_right Nat.one_ne_zero).trans Nat.succ_le_iff)
      rw [elfLoadHeaderAt_short hshort]
      simp [hshort, readsInside_cons, readsInside_nil, hclass]
    · have hclass : EI_CLASS < len.toNat := by
        have hsize : EI_CLASS < sizeofEhdr (img EI_CLASS == ELFCLASS64) := by
          cases img EI_CLASS == ELFCLASS64 <;> decide
        omega
      have hread : MemRead.Inside ⟨EI_CLASS, 1⟩ len.toNat := MemRead.inside_iff.mpr (.inr hclass)
      simp only [hshort, false_or, hclass, true_and]
      by_cases hallocate : imgInfo = none ∧
          allocate .info (if (img EI_CLASS == ELFCLASS64) = true then 96 else 80) = false
      · rw [if_pos hallocate]
        obtain ⟨rfl, hrefused⟩ := hallocate
        rw [elfLoadHeaderAt_noMemory hshort hrefused]
        simp [readsInside_cons, readsInside_nil, hread]
      · have hehdr : MemRead.Inside ⟨0, sizeofEhdr (img EI_CLASS == ELFCLASS64)⟩ len.toNat :=
          MemRead.inside_iff.mpr (.inr (by omega))
        rw [if_neg hallocate, elfLoadHeaderAt_copied hshort hallocate]
        simp only [readsInside_cons, hread, hehdr, true_and, Option.some.injEq, forall_eq']
        have hcopied : (elfHeaderCopied imgInfo
            (readBytes img 0 (sizeofEhdr (img EI_CLASS == ELFCLASS64)))).loadState =
            ELF_STATE_WAIT_FOR_PHDRS := by
          cases imgInfo <;> rfl
        rw [← hcopied]
        exact tablesReads_inside_iff hoffset hlen
  · simp only [hinit, false_implies, true_and, if_false]
    cases imgInfo with
    | none =>
        rw [elfLoadHeaderAt_none hinit]
        simp [readsInside_nil]
    | some info =>
        rw [elfLoadHeaderAt_some hinit]
        by_cases hstate : info.loadState = lastLoadState
        · simp only [Option.filter_some, hstate, decide_true, if_true, Option.some.injEq, forall_eq']
          rw [← hstate]
          exact tablesReads_inside_iff hoffset hlen
        · have hne : lastLoadState ≠ info.loadState := fun h => hstate h.symm
          rw [elfLoadPhdrsAt, elfLoadPhdrsWith, if_pos hne, Option.filter_some, if_neg (by simp [hstate])]
          exact iff_of_true (readsInside_nil _) (by simp)

/-- An ELF64 header whose one program header starts 8 bytes before `2 ^ 64`. -/
def wrappingHeader : List UInt8 :=
  [127, 69, 76, 70, 2, 0, 0, 0, 0, 0, 0, 0, 0, 0, 0, 0, 0, 0, 0, 0, 0, 0, 0, 0, 0, 0, 0, 0, 0,
   0, 0, 0, 248, 255, 255, 255, 255, 255, 255, 255, 0, 0, 0, 0, 0, 0, 0, 0, 0, 0, 0, 0, 0, 0,
   56, 0, 1, 0, 0, 0, 0, 0, 0, 0]

/-- The program header is read 8 bytes before the chunk, and of a chunk of 4 bytes the fifth is
read. -/
theorem elf_header_reads_outside :
    ¬ ReadsInside 64 (elfLoadHeaderAt (fun _ _ => true) (blockMem wrappingHeader fun _ => 0)
        (fun _ => 0) 0 64 none ELF_STATE_INIT 0 0).2 ∧
      ¬ ReadsInside 4 (elfLoadHeaderAt (fun _ _ => true) (blockMem wrappingHeader fun _ => 0)
        (fun _ => 0) 0 4 none ELF_STATE_INIT 0 0).2 := by
  constructor
  · intro h
    have hread := h ⟨2 ^ 64 - 8, 56⟩ (by decide +kernel) (2 ^ 64 - 8) (by decide) (by decide)
    exact absurd hread (by decide)
  · intro h
    have hread := h ⟨EI_CLASS, 1⟩ (by decide +kernel) EI_CLASS (by decide) (by decide)
    exact absurd hread (by decide)

end OpenAmp
