import OpenAmp.Proof.ElfPointers

/-!
# Walking the stored tables

A table is stored with the size of its entries that the file gives, and walked with the size of the
structure. The two agree for every entry if the sizes are the same, or if there is at most one entry.
A name is compared inside the string table as long as the table does not end first.
-/

namespace OpenAmp

open ByteMemory Slice

/-! ### The blocks of an object -/

/-- The blocks have the sizes that the header gives, and the object has a stage. -/
structure ElfInfo.Stored (info : ElfInfo) : Prop where
  phdrs : ∀ phdrs, info.phdrs = some phdrs →
    phdrs.length = elfPhnum info.ehdr * elfPhentsize info.ehdr
  shdrs : ∀ shdrs, info.shdrs = some shdrs →
    shdrs.length = elfShnum info.ehdr * elfShentsize info.ehdr
  stage : info.loadState &&& ELF_STATE_MASK ≠ 0

/-- What a call leaves, with a state that is not the first one. -/
def HeaderOut.Stored (out : HeaderOut) : Prop :=
  (∃ info, out.imgInfo = some info ∧ info.Stored) ∧
    ∀ state, out.ret = .ok state → state &&& ELF_STATE_MASK ≠ 0

theorem stage_of_setStage (state : Nat) {bits : Nat} (h : bits &&& ELF_STATE_MASK ≠ 0) :
    (clearBits state ELF_STATE_MASK ||| bits) &&& ELF_STATE_MASK ≠ 0 := by
  rwa [clearBits_or_and]

theorem phdrs_stage : ELF_STATE_WAIT_FOR_PHDRS &&& ELF_STATE_MASK ≠ 0 := by decide

theorem shdrs_stage :
    (ELF_STATE_WAIT_FOR_SHDRS ||| RPROC_LOADER_READY_TO_LOAD) &&& ELF_STATE_MASK ≠ 0 := by decide

section Stages

variable {allocate : ElfMem → Nat → Bool} {img behind : Nat → UInt8} {offset len : Nat}
  {info : ElfInfo} {lastLoadState noffset nlen : Nat}

theorem HeaderOut.Stored.of_error (h : info.Stored) (status : Int) :
    HeaderOut.Stored ⟨.error status, some info, noffset, nlen⟩ := by
  refine ⟨⟨info, rfl, h⟩, ?_⟩
  intro state hret
  exact absurd hret (by simp)

theorem HeaderOut.Stored.of_ok {state : Nat} (h : info.Stored) (hstate : state &&& ELF_STATE_MASK ≠ 0) :
    HeaderOut.Stored ⟨.ok state, some info, noffset, nlen⟩ := by
  refine ⟨⟨info, rfl, h⟩, ?_⟩
  intro state' hret
  obtain rfl : state = state' := by simpa using hret
  exact hstate

theorem elfLoadShstrtabAt_stored (h : info.Stored) (hlast : lastLoadState &&& ELF_STATE_MASK ≠ 0) :
    (elfLoadShstrtabAt allocate img behind offset len info lastLoadState noffset nlen).1.Stored := by
  unfold elfLoadShstrtabAt elfLoadShstrtabWith
  split
  · split
    · exact .of_error h _
    · rw [run_load_bind]
      dsimp only
      split
      · exact .of_ok h h.stage
      · exact .of_error h _
      · have hstage := @stage_of_setStage info.loadState ELF_STATE_HDRS_COMPLETE (by decide)
        exact .of_ok ⟨h.phdrs, h.shdrs, hstage⟩ hstage
  · exact .of_ok h hlast

theorem elfLoadTableAt_length {allocate : Nat → Bool} {tableOffset tableSize : Nat}
    {table : List UInt8}
    (h : (elfLoadTableAt allocate img offset len tableOffset tableSize).1 = .loaded table) :
    table.length = u32 tableSize := by
  unfold elfLoadTableAt at h
  split_ifs at h
  · obtain rfl := TableLoad.loaded.inj h
    exact length_readBytes

theorem elfLoadTableAt_length_of_lt {allocate : Nat → Bool} {tableOffset tableSize : Nat}
    {table : List UInt8}
    (h : (elfLoadTableAt allocate img offset len tableOffset tableSize).1 = .loaded table)
    (hsize : tableSize < 2 ^ 32) : table.length = tableSize :=
  (elfLoadTableAt_length h).trans (Nat.mod_eq_of_lt hsize)

theorem elfLoadShdrsAt_stored (h : info.Stored) (hlast : lastLoadState &&& ELF_STATE_MASK ≠ 0) :
    (elfLoadShdrsAt allocate img behind offset len info lastLoadState noffset nlen).1.Stored := by
  unfold elfLoadShdrsAt elfLoadShdrsWith
  split
  · split
    · have hstage := @stage_of_setStage info.loadState ELF_STATE_HDRS_COMPLETE (by decide)
      exact .of_ok ⟨h.phdrs, h.shdrs, hstage⟩ hstage
    · rw [run_load_bind]
      dsimp only
      split
      · exact .of_ok h h.stage
      · exact .of_error h _
      · next shdrs htable =>
        refine elfLoadShstrtabAt_stored ⟨h.phdrs, ?_, ?_⟩ hlast
        · rintro _ ⟨⟩
          exact elfLoadTableAt_length_of_lt htable (shdrsBytes_lt _)
        · exact stage_of_setStage _ (by decide)
  · exact elfLoadShstrtabAt_stored h hlast

theorem elfLoadPhdrsAt_stored (h : info.Stored) :
    (elfLoadPhdrsAt allocate img behind offset len info lastLoadState noffset nlen).1.Stored := by
  unfold elfLoadPhdrsAt elfLoadPhdrsWith
  split
  · exact .of_error h _
  · next hlast =>
    have hstage : lastLoadState &&& ELF_STATE_MASK ≠ 0 := by
      rw [not_ne_iff.mp hlast]
      exact h.stage
    split
    · rw [run_load_bind]
      dsimp only
      split
      · exact .of_ok h h.stage
      · exact .of_error h _
      · next phdrs htable =>
        refine elfLoadShdrsAt_stored ⟨?_, h.shdrs, shdrs_stage⟩ hstage
        rintro _ ⟨⟩
        exact elfLoadTableAt_length_of_lt htable (phdrsBytes_lt _)
    · exact elfLoadShdrsAt_stored h hstage

end Stages

/-- An object goes with a state other than the first, so that its header is never replaced. -/
def StoredObject (imgInfo : Option ElfInfo) (state : Nat) : Prop :=
  ∀ info, imgInfo = some info → info.Stored ∧ state &&& ELF_STATE_MASK ≠ 0

theorem elfLoadHeaderAt_stored {allocate : ElfMem → Nat → Bool} {img behind : Nat → UInt8}
    {offset len noffset nlen state state' : Nat} {imgInfo : Option ElfInfo} {out : HeaderOut}
    (h : StoredObject imgInfo state)
    (hcall : (elfLoadHeaderAt allocate img behind offset len imgInfo state noffset nlen).1 = some out)
    (hret : out.ret = .ok state') : StoredObject out.imgInfo state' := by
  have hkept (hstored : out.Stored) : StoredObject out.imgInfo state' := by
    obtain ⟨⟨info, hinfo, hkept⟩, hstate⟩ := hstored
    intro info' hinfo'
    obtain rfl : info = info' := Option.some.inj (hinfo.symm.trans hinfo')
    exact ⟨hkept, hstate _ hret⟩
  have hnone (hinit : state = ELF_STATE_INIT) : imgInfo = none :=
    Option.eq_none_iff_forall_ne_some.mpr fun info hinfo =>
      (h info hinfo).2 (by simp [hinit, ELF_STATE_INIT])
  rcases elfLoadHeaderAt_cases hcall with
    ⟨hinit, _, -, rfl⟩ | ⟨-, -, rfl⟩ | ⟨hinit, ehdr, rfl⟩ | ⟨-, info, rfl, rfl⟩
  · obtain rfl := hnone hinit
    exact fun _ h => absurd h (by simp)
  · exact absurd hret (by simp)
  · obtain rfl := hnone hinit
    have hstored : (elfHeaderCopied none ehdr).Stored :=
      ⟨fun _ h => absurd h (by simp [elfHeaderCopied]),
        fun _ h => absurd h (by simp [elfHeaderCopied]), phdrs_stage⟩
    exact hkept (elfLoadPhdrsAt_stored hstored)
  · exact hkept (elfLoadPhdrsAt_stored (h info rfl).1)

theorem storedObject_of_elfCalls {imgInfo : Option ElfInfo} {state : Nat} (h : ElfCalls imgInfo state) :
    StoredObject imgInfo state := by
  induction h with
  | start => exact fun _ h => absurd h (by simp)
  | header _ _ _ _ _ _ _ _ hcall hret ih => exact elfLoadHeaderAt_stored ih hcall hret
  | data _ hstage ih =>
      rintro _ ⟨⟩
      obtain ⟨hstored, -⟩ := ih _ rfl
      have hbits : _ &&& ELF_STATE_MASK ≠ 0 := hstage ▸ hstored.stage
      exact ⟨⟨hstored.phdrs, hstored.shdrs, hbits⟩, hbits⟩

/-! ### Entries by their index -/

section Entries

variable {table : Option (List UInt8)} {num entsize size : Nat}

theorem tableEntry_eq_some {index : Int} {entry : Nat} :
    tableEntry table num size index = some entry ↔
      table ≠ none ∧ 0 ≤ index ∧ index < num ∧ entry = index.toNat * size := by
  cases table with
  | none => simp [tableEntry]
  | some bytes =>
      by_cases hrange : index < 0 ∨ index ≥ num
      · simp only [tableEntry, if_pos hrange]
        constructor
        · intro h
          exact absurd h (by simp)
        · rintro ⟨-, hlow, hhigh, -⟩
          omega
      · simp only [tableEntry, if_neg hrange, Option.some.injEq, ne_eq, reduceCtorEq, not_false_iff,
          true_and]
        constructor
        · rintro rfl
          exact ⟨by omega, by omega, rfl⟩
        · rintro ⟨-, -, rfl⟩
          rfl

/-- The first entry shows that the structure fits, the second that the sizes are the same. -/
theorem entriesInside_iff (hlength : ∀ bytes, table = some bytes → bytes.length = num * entsize) :
    EntriesInside (tableEntry table num size) table entsize size ↔
      EntriesFit table num entsize size := by
  cases table with
  | none => exact iff_of_true (fun _ _ h => absurd rfl (tableEntry_eq_some.mp h).1) (.inl rfl)
  | some bytes =>
      have hbytes := hlength bytes rfl
      constructor
      · intro h
        by_cases hzero : num = 0
        · exact .inr (.inl hzero)
        · have hfirst := h 0 0 (tableEntry_eq_some.mpr ⟨by simp, by omega, by omega, by simp⟩)
          simp only [Option.getD_some, hbytes] at hfirst
          by_cases hone : num = 1
          · refine .inr (.inr (.inr ⟨hone, ?_⟩))
            rw [hone] at hfirst
            omega
          · have hsecond := h 1 size (tableEntry_eq_some.mpr ⟨by simp, by omega, by omega, by simp⟩)
            exact .inr (.inr (.inl (by omega)))
      · intro h index entry hentry
        obtain ⟨-, hlow, hhigh, rfl⟩ := tableEntry_eq_some.mp hentry
        obtain ⟨i, rfl⟩ := Int.eq_ofNat_of_zero_le hlow
        have hi : i < num := by omega
        simp only [Option.getD_some, hbytes, Int.toNat_natCast]
        rcases h with h | hzero | rfl | ⟨rfl, hle⟩
        · exact absurd h (by simp)
        · omega
        · refine ⟨by push_cast; rfl, ?_⟩
          calc
            i * entsize + entsize = (i + 1) * entsize := (Nat.succ_mul i entsize).symm
            _ ≤ num * entsize := Nat.mul_le_mul_right entsize hi
        · obtain rfl : i = 0 := by omega
          simpa using hle

end Entries

/-! ### Names -/

section Names

variable {nameTable : List UInt8} {behind : Nat → UInt8}

theorem blockMem_of_lt {block : List UInt8} {i : Nat} (h : i < block.length) :
    blockMem block behind i = block[i] := by
  simp [blockMem, h]

theorem strcmpAt_count_ne_zero {mem : Nat → UInt8} (name : List UInt8) (start : Nat) :
    (strcmpAt mem name start).2 ≠ 0 := by
  cases name with
  | nil => simp [strcmpAt]
  | cons byte name =>
      unfold strcmpAt
      split <;> simp

/-- A comparison goes outside the string table exactly if the table ends before the two names
differ. -/
theorem strcmpAt_inside_iff (name : List UInt8) (start : Nat) :
    start + (strcmpAt (blockMem nameTable behind) name start).2 ≤ nameTable.length ↔
      ¬ nameTable.drop start <+: name := by
  induction name generalizing start with
  | nil =>
      rw [List.prefix_nil, List.drop_eq_nil_iff, Nat.not_le]
      exact Nat.succ_le_iff
  | cons byte name ih =>
      by_cases hstart : start < nameTable.length
      · rw [List.drop_eq_getElem_cons hstart, List.cons_prefix_cons, strcmpAt,
          blockMem_of_lt hstart]
        by_cases hbyte : nameTable[start] = byte
        · rw [if_pos hbyte]
          have hrest := ih (start + 1)
          simp only [hbyte, true_and]
          rw [← hrest]
          omega
        · rw [if_neg hbyte]
          simp only [hbyte, false_and, not_false_iff, iff_true]
          omega
      · have hcount := @strcmpAt_count_ne_zero (blockMem nameTable behind) (byte :: name) start
        rw [List.drop_of_length_le (by omega)]
        exact iff_of_false (by omega) (by simp)

theorem strcmpAt_equal_iff (name : List UInt8) (start : Nat)
    (h : ¬ nameTable.drop start <+: name) :
    (strcmpAt (blockMem nameTable behind) name start).1 = true ↔
      name ++ [0] <+: nameTable.drop start := by
  induction name generalizing start with
  | nil =>
      have hstart : start < nameTable.length := by simpa using h
      rw [strcmpAt, blockMem_of_lt hstart, List.drop_eq_getElem_cons hstart, List.nil_append,
        List.cons_prefix_cons, beq_iff_eq]
      exact ⟨fun hzero => ⟨hzero.symm, List.nil_prefix⟩, fun hprefix => hprefix.1.symm⟩
  | cons byte name ih =>
      have hstart : start < nameTable.length := by
        by_contra hge
        exact h (by rw [List.drop_of_length_le (by omega)]; exact List.nil_prefix)
      rw [List.drop_eq_getElem_cons hstart, List.cons_prefix_cons] at h
      rw [List.drop_eq_getElem_cons hstart, strcmpAt, blockMem_of_lt hstart, List.cons_append,
        List.cons_prefix_cons]
      by_cases hbyte : nameTable[start] = byte
      · rw [if_pos hbyte]
        have hrest := ih (start + 1) fun hprefix => h ⟨hbyte, hprefix⟩
        simp only [hbyte, true_and]
        exact hrest
      · rw [if_neg hbyte]
        simp [Ne.symm hbyte]

end Names

/-! ### Sections by their name -/

section Sections

variable {info : ElfInfo} {shdrs nameTable : List UInt8} {behindShdrs behindStrings : Nat → UInt8}
  {name : CString}

theorem readBytes_blockMem {block : List UInt8} {behind : Nat → UInt8} {start size : Nat}
    (h : start + size ≤ block.length) :
    readBytes (blockMem block behind) start size = slice block start size := by
  refine List.ext_getElem (by rw [length_readBytes, length_slice h]) fun i hi hi' => ?_
  rw [length_readBytes] at hi
  simp only [readBytes, List.getElem_map, List.getElem_range, slice, List.getElem_take,
    List.getElem_drop]
  exact blockMem_of_lt (by omega)

theorem shName_eq_sectionNameStart (hshdrs : info.shdrs = some shdrs)
    (hinside : EntriesInside (elfGetSectionFromIndexAt info) info.shdrs (elfShentsize info.ehdr)
      (sizeofShdr info.is64)) {i : Nat} (hi : i < elfShnum info.ehdr) :
    (elfParseSectionAt info.is64 shdrs behindShdrs (i * sizeofShdr info.is64)).shName =
        sectionNameStart info shdrs i ∧
      i * sizeofShdr info.is64 = i * elfShentsize info.ehdr := by
  have hentry : elfGetSectionFromIndexAt info i = some (i * sizeofShdr info.is64) := by
    rw [elfGetSectionFromIndexAt, tableEntry_eq_some]
    exact ⟨by simp [hshdrs], by omega, by omega, by simp⟩
  obtain ⟨heq, hle⟩ := hinside i _ hentry
  simp only [hshdrs, Option.getD_some] at hle
  have hnat : i * sizeofShdr info.is64 = i * elfShentsize info.ehdr := by exact_mod_cast heq
  refine ⟨?_, hnat⟩
  rw [elfParseSectionAt, readBytes_blockMem hle, sectionNameStart, hnat]

/-- `NamesEnd` over the sections from one on. -/
def NamesEndFrom (info : ElfInfo) (shdrs nameTable : List UInt8) (name : CString) (first : Nat) :
    Prop :=
  ∀ i, first ≤ i → i < elfShnum info.ehdr →
    (∀ j, first ≤ j → j < i → ¬ SectionNamed info shdrs nameTable name j) →
      ¬ nameTable.drop (sectionNameStart info shdrs i) <+: name.1

theorem namesEndFrom_succ_iff {first : Nat} (h : first < elfShnum info.ehdr) :
    NamesEndFrom info shdrs nameTable name first ↔
      ¬ nameTable.drop (sectionNameStart info shdrs first) <+: name.1 ∧
        (¬ SectionNamed info shdrs nameTable name first →
          NamesEndFrom info shdrs nameTable name (first + 1)) := by
  constructor
  · intro hnames
    refine ⟨hnames first le_rfl h fun j hlow hhigh => absurd hhigh (by omega), ?_⟩
    intro hfirst i hlow hi hearlier
    refine hnames i (by omega) hi fun j hj hlt => ?_
    rcases Nat.eq_or_lt_of_le hj with rfl | hlater
    · exact hfirst
    · exact hearlier j hlater hlt
  · rintro ⟨hhead, hrest⟩ i hlow hi hearlier
    rcases Nat.eq_or_lt_of_le hlow with rfl | hlater
    · exact hhead
    · refine hrest (hearlier first le_rfl hlater) i hlater hi fun j hj hlt => ?_
      exact hearlier j (by omega) hlt

variable (hshdrs : info.shdrs = some shdrs)
  (hinside : EntriesInside (elfGetSectionFromIndexAt info) info.shdrs (elfShentsize info.ehdr)
    (sizeofShdr info.is64))

include hshdrs hinside

/-- The loop from one section on, by induction on the sections that are left. -/
theorem sectionFromName_spec (first count : Nat) (hcount : first + count = elfShnum info.ehdr) :
    (ReadsInside nameTable.length
        (sectionFromName info.is64 shdrs behindShdrs (blockMem nameTable behindStrings) name.1
          (List.range' first count)).2 ↔ NamesEndFrom info shdrs nameTable name first) ∧
      (NamesEndFrom info shdrs nameTable name first →
        (sectionFromName info.is64 shdrs behindShdrs (blockMem nameTable behindStrings) name.1
          (List.range' first count)).1 =
          ((List.range' first count).find? fun i =>
            SectionNamed info shdrs nameTable name i).map (· * elfShentsize info.ehdr)) := by
  induction count generalizing first with
  | zero =>
      refine ⟨iff_of_true (readsInside_nil _) fun i hlow hi => absurd hi (by omega), ?_⟩
      exact fun _ => rfl
  | succ count ih =>
      have hfirst : first < elfShnum info.ehdr := by omega
      obtain ⟨hname, hentry⟩ :=
        @shName_eq_sectionNameStart info shdrs behindShdrs hshdrs hinside first hfirst
      obtain ⟨ihreads, ihfound⟩ := ih (first + 1) (by omega)
      have hread : MemRead.Inside ⟨sectionNameStart info shdrs first,
            (strcmpAt (blockMem nameTable behindStrings) name.1
              (sectionNameStart info shdrs first)).2⟩ nameTable.length ↔
          ¬ nameTable.drop (sectionNameStart info shdrs first) <+: name.1 := by
        rw [MemRead.inside_iff, ← @strcmpAt_inside_iff nameTable behindStrings]
        exact or_iff_right (strcmpAt_count_ne_zero _ _)
      have hequal := @strcmpAt_equal_iff nameTable behindStrings name.1
        (sectionNameStart info shdrs first)
      rw [List.range'_succ, namesEndFrom_succ_iff hfirst, List.find?_cons]
      simp only [sectionFromName, hname]
      cases hfound : (strcmpAt (blockMem nameTable behindStrings) name.1
          (sectionNameStart info shdrs first)).1 with
      | true =>
          simp only [if_true, readsInside_cons, readsInside_nil, and_true, hread]
          constructor
          · refine ⟨fun hend => ⟨hend, fun hnamed => ?_⟩, fun h => h.1⟩
            exact absurd ((hequal hend).mp hfound) hnamed
          · rintro ⟨hend, -⟩
            have hnamed : SectionNamed info shdrs nameTable name first := (hequal hend).mp hfound
            simp [hnamed, hentry]
      | false =>
          simp only [Bool.false_eq_true, if_false, readsInside_cons, hread, ihreads]
          have hnamed (hend : ¬ nameTable.drop (sectionNameStart info shdrs first) <+: name.1) :
              ¬ SectionNamed info shdrs nameTable name first := by
            intro h
            exact absurd ((hequal hend).mpr h) (by simp [hfound])
          constructor
          · exact and_congr_right fun hend => ⟨fun h _ => h, fun h => h (hnamed hend)⟩
          · rintro ⟨hend, hrest⟩
            simp [hnamed hend, ihfound (hrest (hnamed hend))]

end Sections

theorem namesEnd_iff {info : ElfInfo} {shdrs nameTable : List UInt8} {name : CString}
    (hshdrs : info.shdrs = some shdrs) (hstrings : info.shstrtab = some nameTable) :
    NamesEnd info name ↔ NamesEndFrom info shdrs nameTable name 0 := by
  simp [NamesEnd, NamesEndFrom, hshdrs, hstrings]

/-- The objects that the loader leaves have their tables walked as the header describes them exactly
if the entries have the size of the structure and no name that is looked at runs into the end of the
string table. -/
theorem elf_tables_indexed_iff {info : ElfInfo} {state : Nat} (h : ElfCalls (some info) state)
    (behindShdrs behindStrings : Nat → UInt8) (name : CString) :
    TablesIndexed info behindShdrs behindStrings name ↔
      EntriesFit info.phdrs (elfPhnum info.ehdr) (elfPhentsize info.ehdr) (sizeofPhdr info.is64) ∧
        EntriesFit info.shdrs (elfShnum info.ehdr) (elfShentsize info.ehdr) (sizeofShdr info.is64) ∧
          NamesEnd info name := by
  obtain ⟨hstored, -⟩ := storedObject_of_elfCalls h info rfl
  have hsegments := @entriesInside_iff _ _ _ (sizeofPhdr info.is64) hstored.phdrs
  have hsections := @entriesInside_iff _ _ _ (sizeofShdr info.is64) hstored.shdrs
  have hnames (hinside : EntriesInside (elfGetSectionFromIndexAt info) info.shdrs
        (elfShentsize info.ehdr) (sizeofShdr info.is64)) :
      (ReadsInside (info.shstrtab.getD []).length
          (elfGetSectionFromNameAt info behindShdrs behindStrings name).2 ↔ NamesEnd info name) ∧
        (NamesEnd info name → (elfGetSectionFromNameAt info behindShdrs behindStrings name).1 =
          firstSectionNamed info name) := by
    unfold elfGetSectionFromNameAt firstSectionNamed
    cases hshdrs : info.shdrs with
    | none => exact ⟨iff_of_true (readsInside_nil _) (by simp [NamesEnd, hshdrs]), fun _ => rfl⟩
    | some shdrs =>
        cases hstrings : info.shstrtab with
        | none => exact ⟨iff_of_true (readsInside_nil _) (by simp [NamesEnd, hstrings]), fun _ => rfl⟩
        | some nameTable =>
            rw [namesEnd_iff hshdrs hstrings, Option.getD_some]
            simp only [List.range_eq_range']
            exact sectionFromName_spec hshdrs hinside 0 (elfShnum info.ehdr) (Nat.zero_add _)
  constructor
  · intro htables
    refine ⟨hsegments.mp htables.segments, hsections.mp htables.sections, ?_⟩
    exact (hnames htables.sections).1.mp htables.compared
  · rintro ⟨hphdrs, hshdrs, hend⟩
    have hinside := hsections.mpr hshdrs
    exact ⟨hsegments.mpr hphdrs, hinside, (hnames hinside).1.mpr hend, (hnames hinside).2 hend⟩

/-! ### The parser on the bytes of its chunk

Where the reads stay inside the chunk and the section headers have the size of the structure, the
memory behind both does not matter, and the call is one of `elfLoadHeader` on the bytes of the chunk. -/

section Chunk

variable {allocate : Nat → Bool} {img behind : Nat → UInt8} {offset len : Nat} {info : ElfInfo}
  {lastLoadState noffset nlen : Nat}

theorem imgCopy_readBytes {start size : Nat} (h : MemRead.Inside ⟨start, size⟩ len) :
    imgCopy (some (readBytes img 0 len)) start size = some (readBytes img start size) := by
  rcases MemRead.inside_iff.mp h with rfl | hle
  · rfl
  · unfold imgCopy
    split
    · next hsize =>
      rw [hsize]
      rfl
    · dsimp only
      rw [length_readBytes, if_pos hle, ← readBytes_part img 0 hle, Nat.zero_add]

/-- A computation on the bytes of the chunk has the result of one on memory that reads nothing else. -/
def Mirrors (len : Nat) {α : Type} (x : Option α) (y : Writer (List MemRead) α) : Prop :=
  ReadsInside len y.run.2 → x = some y.run.1

theorem Mirrors.pure {α : Type} (a : α) : Mirrors len (Pure.pure a) (Pure.pure a) := fun _ => rfl

theorem Mirrors.bind {α β : Type} {x : Option α} {y : Writer (List MemRead) α} {f : α → Option β}
    {g : α → Writer (List MemRead) β} (h : Mirrors len x y)
    (hrest : Mirrors len (f y.run.1) (g y.run.1)) : Mirrors len (x >>= f) (y >>= g) := by
  intro hreads
  obtain ⟨hfirst, hmore⟩ := readsInside_append.mp hreads
  rw [h hfirst]
  exact hrest hmore

theorem mirrors_load (hlen : len < 2 ^ 32) (mem : ElfMem) (tableOffset tableSize : Nat) :
    Mirrors len ((listTables allocate (some (readBytes img 0 len)) offset len).load mem tableOffset
        tableSize)
      ((memTables (fun _ => allocate) img behind offset len).load mem tableOffset tableSize) := by
  intro h
  change ReadsInside len (elfLoadTableAt allocate img offset len tableOffset tableSize).2 at h
  change elfLoadTable allocate (some (readBytes img 0 len)) offset len tableOffset tableSize =
    some (elfLoadTableAt allocate img offset len tableOffset tableSize).1
  unfold elfLoadTable
  cases hwaits : elfTableWaits offset len tableOffset tableSize with
  | true =>
      rw [elfLoadTableAt_wait hwaits, if_pos (by simpa [elfTableWaits] using hwaits)]
  | false =>
      have hrange := elfTableWaits_eq_false.mp hwaits
      rw [if_neg (by omega)]
      cases hallocate : allocate tableSize with
      | false => rw [elfLoadTableAt_noMemory hwaits hallocate, if_pos rfl]
      | true =>
          rw [elfLoadTableAt_loaded hwaits hallocate] at h ⊢
          have hcopied := (readsInside_cons.mp h).1
          have hsize : u32 tableSize = tableSize := by
            have hinside := MemRead.inside_iff.mp hcopied
            exact Nat.mod_eq_of_lt (by omega)
          rw [if_neg (by simp), imgCopy_readBytes hcopied, hsize]
          rfl

theorem sectionFromIndex_eq (hstored : info.Stored)
    (hentsize : elfShentsize info.ehdr = sizeofShdr info.is64) (index : Nat) :
    elfGetSectionFromIndex info index =
      (memTables (fun _ => allocate) img behind offset len).sectionFromIndex info index := by
  simp only [memTables]
  unfold elfGetSectionFromIndex elfGetSectionFromIndexAt tableEntry
  cases hshdrs : info.shdrs with
  | none => rfl
  | some shdrs =>
      simp only []
      by_cases hindex : index < elfShnum info.ehdr
      · have hle : index * sizeofShdr info.is64 + sizeofShdr info.is64 ≤ shdrs.length := by
          rw [hstored.shdrs shdrs hshdrs, hentsize, ← Nat.succ_mul]
          exact Nat.mul_le_mul_right _ hindex
        rw [if_pos hindex, if_neg (by omega)]
        dsimp only
        rw [elfParseSectionAt, Int.toNat_natCast, readBytes_blockMem hle]
      · rw [if_neg hindex, if_pos (.inr (by omega))]

theorem elfLoadShstrtab_mirrors (hstored : info.Stored) (hlen : len < 2 ^ 32)
    (hentsize : elfShentsize info.ehdr = sizeofShdr info.is64) :
    Mirrors len
      (elfLoadShstrtab allocate (some (readBytes img 0 len)) offset len info lastLoadState noffset nlen)
      (elfLoadShstrtabAt (fun _ => allocate) img behind offset len info lastLoadState noffset nlen) := by
  unfold elfLoadShstrtab elfLoadShstrtabAt elfLoadShstrtabWith
  by_cases hbit : info.loadState &&& ELF_STATE_WAIT_FOR_SHSTRTAB ≠ 0
  · have hsection := @sectionFromIndex_eq allocate img behind offset len info hstored hentsize
      (elfShstrndx info.ehdr)
    rw [if_pos hbit, if_pos hbit, ← hsection]
    dsimp only [listTables]
    cases elfGetSectionFromIndex info (elfShstrndx info.ehdr) with
    | none => exact .pure _
    | some shdr =>
        refine (mirrors_load hlen .shstrtab shdr.shOffset shdr.shSize).bind ?_
        split <;> exact .pure _
  · rw [if_neg hbit, if_neg hbit]
    exact .pure _

theorem elfLoadShdrs_mirrors (hstored : info.Stored) (hlen : len < 2 ^ 32)
    (hentsize : elfShentsize info.ehdr = sizeofShdr info.is64) :
    Mirrors len
      (elfLoadShdrs allocate (some (readBytes img 0 len)) offset len info lastLoadState noffset nlen)
      (elfLoadShdrsAt (fun _ => allocate) img behind offset len info lastLoadState noffset nlen) := by
  unfold elfLoadShdrs elfLoadShdrsAt elfLoadShdrsWith
  by_cases hbit : info.loadState &&& ELF_STATE_WAIT_FOR_SHDRS ≠ 0
  · rw [if_pos hbit, if_pos hbit]
    by_cases hnum : elfShnum info.ehdr = 0
    · rw [if_pos hnum, if_pos hnum]
      exact .pure _
    · rw [if_neg hnum, if_neg hnum]
      refine (mirrors_load hlen .shdrs (elfShoff info.ehdr)
        (elfShnum info.ehdr * elfShentsize info.ehdr)).bind ?_
      split
      · exact .pure _
      · exact .pure _
      · next shdrs hload =>
        refine elfLoadShstrtab_mirrors ⟨hstored.phdrs, ?_, ?_⟩ hlen hentsize
        · rintro _ ⟨⟩
          exact elfLoadTableAt_length_of_lt hload (shdrsBytes_lt _)
        · exact stage_of_setStage _ (by decide)
  · rw [if_neg hbit, if_neg hbit]
    exact elfLoadShstrtab_mirrors hstored hlen hentsize

theorem elfLoadPhdrs_mirrors (hstored : info.Stored) (hlen : len < 2 ^ 32)
    (hentsize : elfShentsize info.ehdr = sizeofShdr info.is64) :
    Mirrors len
      (elfLoadPhdrs allocate (some (readBytes img 0 len)) offset len info lastLoadState noffset nlen)
      (elfLoadPhdrsAt (fun _ => allocate) img behind offset len info lastLoadState noffset nlen) := by
  unfold elfLoadPhdrs elfLoadPhdrsAt elfLoadPhdrsWith
  by_cases hlast : lastLoadState ≠ info.loadState
  · rw [if_pos hlast, if_pos hlast]
    exact .pure _
  · rw [if_neg hlast, if_neg hlast]
    by_cases hstate : info.loadState = ELF_STATE_WAIT_FOR_PHDRS
    · rw [if_pos hstate, if_pos hstate]
      refine (mirrors_load hlen .phdrs (elfPhoff info.ehdr)
        (elfPhnum info.ehdr * elfPhentsize info.ehdr)).bind ?_
      split
      · exact .pure _
      · exact .pure _
      · next phdrs hload =>
        refine elfLoadShdrs_mirrors ⟨?_, hstored.shdrs, shdrs_stage⟩ hlen hentsize
        rintro _ ⟨⟩
        exact elfLoadTableAt_length_of_lt hload (phdrsBytes_lt _)
    · rw [if_neg hstate, if_neg hstate]
      exact elfLoadShdrs_mirrors hstored hlen hentsize

end Chunk

/-- The parser on memory and the parser on lists are the same function of what both are given. -/
theorem elfLoadHeader_eq_at {allocate : Nat → Bool} {img behind : Nat → UInt8}
    {offset len state noffset nlen : Nat} {imgInfo : Option ElfInfo}
    (hobject : StoredObject imgInfo state) (hlen : len < 2 ^ 32)
    (hentsize : ∀ info, dueInfo (fun _ => allocate) img len imgInfo state = some info →
      elfShentsize info.ehdr = sizeofShdr info.is64)
    (h : ReadsInside len
      (elfLoadHeaderAt (fun _ => allocate) img behind offset len imgInfo state noffset nlen).2) :
    elfLoadHeader allocate (some (readBytes img 0 len)) offset len imgInfo state noffset nlen =
      (elfLoadHeaderAt (fun _ => allocate) img behind offset len imgInfo state noffset nlen).1 := by
  by_cases hinit : state = ELF_STATE_INIT
  · subst hinit
    cases imgInfo with
    | some info => exact absurd (hobject info rfl).2 (by simp [ELF_STATE_INIT])
    | none =>
        unfold dueInfo at hentsize
        rw [if_pos rfl] at hentsize
        dsimp only at hentsize
        have hclass : EI_CLASS < len := by
          by_cases hshort : len < sizeofEhdr (img EI_CLASS == ELFCLASS64)
          · rw [elfLoadHeaderAt_short hshort] at h
            exact (MemRead.inside_iff.mp (readsInside_cons.mp h).1).resolve_left (by decide)
          · have hsize : EI_CLASS < sizeofEhdr (img EI_CLASS == ELFCLASS64) := by
              cases img EI_CLASS == ELFCLASS64 <;> decide
            omega
        have his64 : elfIs64 (readBytes img 0 len) = (img EI_CLASS == ELFCLASS64) := by
          simp [elfIs64, readBytes, hclass]
        rw [elfLoadHeader, elfLoadHeaderWith, if_pos rfl]
        simp only [listEhdr, EhdrOps.allocateInfo, elfEhdrSize, elfInfoSize, his64,
          Option.bind_eq_bind, Option.bind_some, Option.map_some]
        by_cases hshort : len < sizeofEhdr (img EI_CLASS == ELFCLASS64)
        · rw [if_pos hshort, elfLoadHeaderAt_short hshort]
          rfl
        · rw [if_neg hshort]
          by_cases hallocate :
              allocate (if img EI_CLASS == ELFCLASS64 then 96 else 80) = false
          · rw [if_pos hallocate, elfLoadHeaderAt_noMemory hshort hallocate]
            rfl
          · have hgranted : ¬ ((none : Option ElfInfo) = none ∧
                allocate (if img EI_CLASS == ELFCLASS64 then 96 else 80) = false) :=
              fun hrefused => hallocate hrefused.2
            rw [elfLoadHeaderAt_copied hshort hgranted] at h ⊢
            rw [if_neg fun hdue => hdue.elim hshort hgranted] at hentsize
            obtain ⟨-, -, hehdr, hreads⟩ := by simpa only [readsInside_cons] using h
            rw [if_neg hallocate, imgCopy_readBytes hehdr, Option.bind_some]
            refine elfLoadPhdrs_mirrors ⟨?_, ?_, phdrs_stage⟩ hlen (hentsize _ rfl) hreads
            · exact fun _ htable => absurd htable (by simp [elfHeaderCopied])
            · exact fun _ htable => absurd htable (by simp [elfHeaderCopied])
  · rw [elfLoadHeader, elfLoadHeaderWith, if_neg hinit]
    cases imgInfo with
    | none =>
        rw [elfLoadHeaderAt_none hinit]
        rfl
    | some info =>
        rw [elfLoadHeaderAt_some hinit] at h ⊢
        by_cases hstate : info.loadState = state
        · have hdue : dueInfo (fun _ => allocate) img len (some info) state = some info := by
            simp [dueInfo, hinit, hstate]
          exact elfLoadPhdrs_mirrors (hobject info rfl).1 hlen (hentsize info hdue) h
        · have hne : state ≠ info.loadState := fun heq => hstate heq.symm
          change elfLoadPhdrs _ _ _ _ _ _ _ _ = some _
          rw [elfLoadPhdrs, elfLoadPhdrsAt, elfLoadPhdrsWith, if_pos hne, elfLoadPhdrsWith, if_pos hne]
          rfl

/-- An ELF64 file with a program header of the right size, over the start of the ELF header, and one
section with the name of the resource table, which is the string table. -/
def sectionFile : List UInt8 :=
  [127, 69, 76, 70, 2, 0, 0, 0, 0, 0, 0, 0, 0, 0, 0, 0, 0, 0, 0, 0, 0, 0, 0, 0, 0, 0, 0, 0, 0,
   0, 0, 0, 0, 0, 0, 0, 0, 0, 0, 0, 64, 0, 0, 0, 0, 0, 0, 0, 0, 0, 0, 0, 0, 0, 56, 0, 1, 0, 64,
   0, 1, 0, 0, 0, 1, 0, 0, 0, 0, 0, 0, 0, 0, 0, 0, 0, 0, 0, 0, 0, 0, 0, 0, 0, 0, 0, 0, 0, 128,
   0, 0, 0, 0, 0, 0, 0, 17, 0, 0, 0, 0, 0, 0, 0, 0, 0, 0, 0, 0, 0, 0, 0, 0, 0, 0, 0, 0, 0, 0,
   0, 0, 0, 0, 0, 0, 0, 0, 0, 0, 46, 114, 101, 115, 111, 117, 114, 99, 101, 95, 116, 97, 98,
   108, 101, 0]

def sectionFileInfo : ElfInfo :=
  ⟨slice sectionFile 0 64, ELF_STATE_HDRS_COMPLETE ||| RPROC_LOADER_READY_TO_LOAD,
    some (slice sectionFile 0 56), some (slice sectionFile 64 64), some (slice sectionFile 128 17)⟩

theorem elf_tables_indexed_section_file :
    ElfCalls (some sectionFileInfo) (ELF_STATE_HDRS_COMPLETE ||| RPROC_LOADER_READY_TO_LOAD) ∧
      TablesIndexed sectionFileInfo (fun _ => 0) (fun _ => 0) ⟨rscTableName, by decide⟩ := by
  have hcall : (elfLoadHeaderAt (fun _ _ => true) (blockMem sectionFile fun _ => 0) (fun _ => 0) 0
      145 none ELF_STATE_INIT 0 0).1 =
      some ⟨.ok (ELF_STATE_HDRS_COMPLETE ||| RPROC_LOADER_READY_TO_LOAD), some sectionFileInfo, 0, 0⟩ := by
    decide +kernel
  have hcalls : ElfCalls (some sectionFileInfo)
      (ELF_STATE_HDRS_COMPLETE ||| RPROC_LOADER_READY_TO_LOAD) :=
    .header .start _ _ _ _ _ _ _ hcall rfl
  have hshnum : elfShnum sectionFileInfo.ehdr = 1 := by decide +kernel
  refine ⟨hcalls, (elf_tables_indexed_iff hcalls _ _ _).mpr ⟨?_, ?_, ?_⟩⟩
  · exact .inr (.inr (.inl (by decide +kernel)))
  · exact .inr (.inr (.inl (by decide +kernel)))
  · rintro _ _ ⟨⟩ ⟨⟩ i hi -
    obtain rfl : i = 0 := by omega
    decide +kernel

/-- An ELF64 header with two program headers of 32 bytes, over the ELF header, and no sections. -/
def narrowHeader : List UInt8 :=
  [127, 69, 76, 70, 2, 0, 0, 0, 0, 0, 0, 0, 0, 0, 0, 0, 0, 0, 0, 0, 0, 0, 0, 0, 0, 0, 0, 0, 0,
   0, 0, 0, 0, 0, 0, 0, 0, 0, 0, 0, 0, 0, 0, 0, 0, 0, 0, 0, 0, 0, 0, 0, 0, 0, 32, 0, 2, 0, 0,
   0, 0, 0, 0, 0]

def narrowInfo : ElfInfo :=
  ⟨narrowHeader, ELF_STATE_HDRS_COMPLETE ||| RPROC_LOADER_READY_TO_LOAD, some narrowHeader, none, none⟩

/-- The second program header is looked for 24 bytes too far, and lies across the end of the block. -/
theorem elf_tables_not_indexed :
    ElfCalls (some narrowInfo) (ELF_STATE_HDRS_COMPLETE ||| RPROC_LOADER_READY_TO_LOAD) ∧
      ∀ behindShdrs behindStrings name,
        ¬ TablesIndexed narrowInfo behindShdrs behindStrings name := by
  have hcall : (elfLoadHeaderAt (fun _ _ => true) (blockMem narrowHeader fun _ => 0) (fun _ => 0) 0
      64 none ELF_STATE_INIT 0 0).1 =
      some ⟨.ok (ELF_STATE_HDRS_COMPLETE ||| RPROC_LOADER_READY_TO_LOAD), some narrowInfo, 0, 0⟩ := by
    decide +kernel
  refine ⟨.header .start _ _ _ _ _ _ _ hcall rfl, ?_⟩
  intro behindShdrs behindStrings name h
  obtain ⟨hentry, -⟩ := h.segments 1 56 (by decide +kernel)
  have hentsize : elfPhentsize narrowInfo.ehdr = 32 := by decide +kernel
  rw [hentsize] at hentry
  omega

end OpenAmp
