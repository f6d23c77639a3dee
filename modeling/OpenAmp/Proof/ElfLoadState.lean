import Mathlib.Data.List.Nodup
import OpenAmp.ElfRun
import OpenAmp.Library.Logged
import OpenAmp.Proof.ElfHeader

/-!
# The load state of an image

Stage, loader phase and next segment share one word, which two functions change through masks. What
the loader has stored goes with the stage: each table is allocated in the call that leaves the stage
that waits for it, and no stage is entered twice.
-/

namespace OpenAmp

open Logged

/-! ### The calls with and without their allocations -/

section Traced

variable (allocate : Nat → Bool) (imgData : Option (List UInt8)) (offset len : Nat)

theorem outcome_load (mem : ElfMem) (tableOffset tableSize : Nat) :
    outcome ((tracedTables (fun _ => allocate) imgData offset len).load mem tableOffset tableSize) =
      (listTables allocate imgData offset len).load mem tableOffset tableSize := by
  change ((elfLoadTable allocate imgData offset len tableOffset tableSize).map _).map _ = _
  rw [Option.map_map]
  exact congrFun Option.map_id _

theorem traced_section (allocate : ElfMem → Nat → Bool) (info : ElfInfo) (index : Nat) :
    (tracedTables allocate imgData offset len).sectionFromIndex info index =
      elfGetSectionFromIndex info index := rfl

theorem list_section (info : ElfInfo) (index : Nat) :
    (listTables allocate imgData offset len).sectionFromIndex info index =
      elfGetSectionFromIndex info index := rfl

theorem elfLoadShstrtabTraced_fst (info : ElfInfo) (lastLoadState noffset nlen : Nat) :
    (elfLoadShstrtabTraced (fun _ => allocate) imgData offset len info lastLoadState noffset
      nlen).map Prod.fst =
      elfLoadShstrtab allocate imgData offset len info lastLoadState noffset nlen := by
  unfold elfLoadShstrtabTraced elfLoadShstrtab elfLoadShstrtabWith
  change outcome _ = _
  split
  · rw [traced_section, list_section]
    cases elfGetSectionFromIndex info (elfShstrndx info.ehdr) with
    | none => rfl
    | some shdr =>
        dsimp only
        rw [outcome_bind, outcome_load]
        refine bind_congr fun load => ?_
        cases load <;> rfl
  · rfl

theorem elfLoadShdrsTraced_fst (info : ElfInfo) (lastLoadState noffset nlen : Nat) :
    (elfLoadShdrsTraced (fun _ => allocate) imgData offset len info lastLoadState noffset
      nlen).map Prod.fst =
      elfLoadShdrs allocate imgData offset len info lastLoadState noffset nlen := by
  unfold elfLoadShdrsTraced elfLoadShdrs elfLoadShdrsWith
  change outcome _ = _
  split
  · split
    · rfl
    · rw [outcome_bind, outcome_load]
      refine bind_congr fun load => ?_
      cases load with
      | wait => rfl
      | noMemory => rfl
      | loaded shdrs => exact elfLoadShstrtabTraced_fst allocate imgData offset len _ _ noffset nlen
  · exact elfLoadShstrtabTraced_fst allocate imgData offset len info lastLoadState noffset nlen

theorem elfLoadPhdrsTraced_fst (info : ElfInfo) (lastLoadState noffset nlen : Nat) :
    (elfLoadPhdrsTraced (fun _ => allocate) imgData offset len info lastLoadState noffset
      nlen).map Prod.fst =
      elfLoadPhdrs allocate imgData offset len info lastLoadState noffset nlen := by
  unfold elfLoadPhdrsTraced elfLoadPhdrs elfLoadPhdrsWith
  change outcome _ = _
  split
  · rfl
  · split
    · rw [outcome_bind, outcome_load]
      refine bind_congr fun load => ?_
      cases load with
      | wait => rfl
      | noMemory => rfl
      | loaded phdrs => exact elfLoadShdrsTraced_fst allocate imgData offset len _ _ noffset nlen
    · exact elfLoadShdrsTraced_fst allocate imgData offset len info lastLoadState noffset nlen

theorem elfLoadHeaderTraced_fst (imgInfo : Option ElfInfo) (lastLoadState noffset nlen : Nat) :
    (elfLoadHeaderTraced (fun _ => allocate) imgData offset len imgInfo lastLoadState noffset
      nlen).map Prod.fst =
      elfLoadHeader allocate imgData offset len imgInfo lastLoadState noffset nlen := by
  unfold elfLoadHeaderTraced tracedHeader elfLoadHeader elfLoadHeaderWith
  change outcome _ = _
  split
  · rw [outcome_bind]
    refine bind_congr fun tmpsize => ?_
    split
    · rfl
    · rw [outcome_bind]
      change outcome (liftM _) >>= _ = _
      rw [outcome_lift]
      refine bind_congr fun infosize => ?_
      rw [outcome_bind]
      have hallocate : outcome ((tracedEhdr (fun _ => allocate) imgData).allocateInfo imgInfo infosize) =
          (listEhdr allocate imgData).allocateInfo imgInfo infosize := by
        cases imgInfo <;> rfl
      rw [hallocate]
      refine bind_congr fun allocated => ?_
      split
      · rfl
      · rw [outcome_bind]
        change outcome (liftM _) >>= _ = _
        rw [outcome_lift]
        refine bind_congr fun ehdr => ?_
        exact elfLoadPhdrsTraced_fst allocate imgData offset len _ _ noffset nlen
  · rw [outcome_bind, outcome_lift]
    refine bind_congr fun info => ?_
    exact elfLoadPhdrsTraced_fst allocate imgData offset len info lastLoadState noffset nlen

theorem elfLoadPostTraced_fst (info : ElfInfo) (lastLoadState : Nat) (vars : LoadVars) :
    outcome (elfLoadPostWith (tracedHeader (fun _ => allocate) imgData offset len) info lastLoadState
      vars) =
      elfLoadPostWith (elfLoadHeader allocate imgData offset len) info lastLoadState vars := by
  unfold elfLoadPostWith
  split
  · rw [outcome_bind]
    change ((elfLoadHeaderTraced _ _ _ _ _ _ _ _).map Prod.fst) >>= _ = _
    rw [elfLoadHeaderTraced_fst]
    refine bind_congr fun out => ?_
    cases out.ret with
    | error status => rfl
    | ok headerState =>
        dsimp only
        rw [outcome_bind, outcome_lift]
        refine bind_congr fun info => ?_
        split <;> rfl
  · rfl

theorem elfLoadDataTraced_fst (info : ElfInfo) (lastLoadState : Nat) (vars : LoadVars) :
    (elfLoadDataTraced (fun _ => allocate) imgData offset len info lastLoadState vars).map Prod.fst =
      elfLoadData allocate imgData offset len info lastLoadState vars := by
  unfold elfLoadDataTraced elfLoadData elfLoadDataWith
  change outcome _ = _
  dsimp only
  split
  · rfl
  · split
    · exact elfLoadPostTraced_fst allocate imgData offset len info lastLoadState _
    · rfl

/-- Where no request depends on what the memory is for, the calls are those of the loader. -/
theorem elfLoadTraced_fst (imgInfo : Option ElfInfo) (lastLoadState : Nat) (vars : LoadVars) :
    (elfLoadTraced (fun _ => allocate) imgData offset len imgInfo lastLoadState vars).map Prod.fst =
      elfLoad allocate imgData offset len imgInfo lastLoadState vars := by
  unfold elfLoadTraced elfLoad elfLoadWith
  change outcome _ = _
  split
  · rw [outcome_bind]
    change ((elfLoadHeaderTraced _ _ _ _ _ _ _ _).map Prod.fst) >>= _ = _
    rw [elfLoadHeaderTraced_fst]
    refine bind_congr fun out => ?_
    cases out.ret with
    | error status =>
        dsimp only
        rw [outcome_bind, outcome_lift]
        refine bind_congr fun info => ?_
        exact elfLoadDataTraced_fst allocate imgData offset len info _ _
    | ok headerState =>
        dsimp only
        split
        · rfl
        · rw [outcome_bind, outcome_lift]
          refine bind_congr fun info => ?_
          exact elfLoadDataTraced_fst allocate imgData offset len info _ _
  · rw [outcome_bind, outcome_lift]
    refine bind_congr fun info => ?_
    exact elfLoadDataTraced_fst allocate imgData offset len info lastLoadState vars

end Traced

/-! ### What an object holds at each stage -/

/-- How far the stages have come; an object without a header has come nowhere. -/
def HeaderPhase.rank : HeaderPhase → Nat
  | .phdrs => 1
  | .shdrs => 2
  | .shstrtab => 3
  | .complete => 4

/-- The stage that a piece of memory is allocated in. -/
def ElfMem.rank : ElfMem → Nat
  | .info => 0
  | .phdrs => 1
  | .shdrs => 2
  | .shstrtab => 3

/-- The object is at a stage and has what belongs to it. -/
structure ElfInfo.At (info : ElfInfo) (loader : LoaderPhase) (phase : HeaderPhase) (nseg : Nat) :
    Prop where
  seg : nseg < 2 ^ 8
  word : info.loadState = loadWord loader phase nseg
  waits : phase = .phdrs ↔ loader = .notReady
  first : phase = .phdrs → nseg = 0
  done : loader = .complete → phase = .complete
  phdrs : info.phdrs ≠ none ↔ phase ≠ .phdrs
  shdrs : phase = .shstrtab → info.shdrs ≠ none
  tables : phase = .complete →
    (info.shdrs ≠ none ∧ info.shstrtab ≠ none) ∨ elfShnum info.ehdr = 0

/-- Each piece of memory is allocated at most once, in one of the stages from `low` to below
`high`. -/
structure AllocatedIn (low high : Nat) (allocated : List ElfMem) : Prop where
  nodup : allocated.Nodup
  rank : ∀ mem ∈ allocated, low ≤ mem.rank ∧ mem.rank < high

theorem allocatedIn_nil (low high : Nat) : AllocatedIn low high [] :=
  ⟨List.nodup_nil, fun _ h => absurd h List.not_mem_nil⟩

theorem AllocatedIn.append {low middle high : Nat} {first rest : List ElfMem}
    (hfirst : AllocatedIn low middle first) (hrest : AllocatedIn middle high rest)
    (hlow : low ≤ middle) (hhigh : middle ≤ high) : AllocatedIn low high (first ++ rest) := by
  constructor
  · rw [List.nodup_append]
    refine ⟨hfirst.nodup, hrest.nodup, ?_⟩
    rintro mem hmem _ hmem' rfl
    have := (hfirst.rank mem hmem).2
    have := (hrest.rank mem hmem').1
    omega
  · intro mem hmem
    rcases List.mem_append.mp hmem with h | h
    · have := hfirst.rank mem h
      omega
    · have := hrest.rank mem h
      omega

theorem allocatedIn_singleton (mem : ElfMem) : AllocatedIn mem.rank (mem.rank + 1) [mem] := by
  refine ⟨List.nodup_cons.mpr ⟨List.not_mem_nil, List.nodup_nil⟩, ?_⟩
  intro mem' hmem
  rw [List.mem_singleton.mp hmem]
  omega

/-- What a call of `elf_load_header` makes of an object that is at a stage. -/
def HeaderCall (loader : LoaderPhase) (phase : HeaderPhase) (nseg : Nat)
    (traced : HeaderOut × List ElfMem) : Prop :=
  ∃ info loader' phase', traced.1.imgInfo = some info ∧ info.At loader' phase' nseg ∧
    phase.rank ≤ phase'.rank ∧ (phase ≠ .phdrs → loader' = loader) ∧
    (∀ state, traced.1.ret = .ok state → state = info.loadState) ∧
    AllocatedIn phase.rank phase'.rank traced.2

section Stages

variable {allocate : ElfMem → Nat → Bool} {imgData : Option (List UInt8)}
  {offset len lastLoadState noffset nlen : Nat} {info : ElfInfo} {loader : LoaderPhase}
  {phase phase' : HeaderPhase} {nseg : Nat} {traced : HeaderOut × List ElfMem}

/-- A call that waits or fails leaves the object at its stage. -/
theorem ElfInfo.At.stays (h : info.At loader phase nseg) {out : HeaderOut}
    (hinfo : out.imgInfo = some info) (hret : ∀ state, out.ret = .ok state → state = info.loadState) :
    HeaderCall loader phase nseg (out, []) :=
  ⟨info, loader, phase, hinfo, h, Nat.le_refl _, fun _ => rfl, hret, allocatedIn_nil _ _⟩

/-- A table is stored and the next stage goes on in the same call. -/
theorem HeaderCall.cons {mem : ElfMem} {out : HeaderOut} {allocated : List ElfMem}
    {loader' : LoaderPhase} (h : HeaderCall loader' phase' nseg (out, allocated))
    (hmem : mem.rank = phase.rank) (hnext : phase'.rank = phase.rank + 1) (hphase : phase' ≠ .phdrs)
    (hsame : phase ≠ .phdrs → loader' = loader) :
    HeaderCall loader phase nseg (out, mem :: allocated) := by
  obtain ⟨info, loader'', phase'', hinfo, hat, hrank, hloader, hret, hallocated⟩ := h
  refine ⟨info, loader'', phase'', hinfo, hat, by omega,
    fun hfirst => (hloader hphase).trans (hsame hfirst), hret, ?_⟩
  have hone : AllocatedIn phase.rank phase'.rank [mem] := by
    rw [hnext, ← hmem]
    exact allocatedIn_singleton mem
  exact hone.append hallocated (by omega) hrank

/-- The stage changes, and the loader goes on where it was. -/
theorem ElfInfo.At.setStage (h : info.At loader phase nseg) (phase' : HeaderPhase)
    (shdrs shstrtab : Option (List UInt8)) (hphase : phase ≠ .phdrs) (hphase' : phase' ≠ .phdrs)
    (hdone : loader ≠ .complete)
    (hshdrs : phase' = .shstrtab → shdrs ≠ none)
    (htables : phase' = .complete → (shdrs ≠ none ∧ shstrtab ≠ none) ∨ elfShnum info.ehdr = 0) :
    ElfInfo.At { info with
      shdrs, shstrtab, loadState := clearBits info.loadState ELF_STATE_MASK ||| phase'.bits }
      loader phase' nseg where
  seg := h.seg
  word := by
    rw [h.word]
    exact loadWord_setHeader loader phase phase' h.seg
  waits := ⟨fun heq => absurd heq hphase', fun heq => absurd (h.waits.mpr heq) hphase⟩
  first := fun heq => absurd heq hphase'
  done := fun heq => absurd heq hdone
  phdrs := ⟨fun _ => hphase', fun _ => h.phdrs.mpr hphase⟩
  shdrs := hshdrs
  tables := htables

/-- The program headers are stored, and the segments can be loaded. -/
theorem ElfInfo.At.stored (h : info.At .notReady .phdrs 0) (phdrs : List UInt8) :
    ElfInfo.At { info with
      phdrs := some phdrs, loadState := ELF_STATE_WAIT_FOR_SHDRS ||| RPROC_LOADER_READY_TO_LOAD }
      .ready .shdrs 0 where
  seg := h.seg
  word := rfl
  waits := by decide
  first _ := rfl
  done heq := nomatch heq
  phdrs := ⟨fun _ => by decide, fun _ => Option.some_ne_none _⟩
  shdrs heq := nomatch heq
  tables heq := nomatch heq

/-- The first object for a file waits for the program headers. -/
theorem elfHeaderCopied_at (ehdr : List UInt8) :
    (elfHeaderCopied none ehdr).At .notReady .phdrs 0 where
  seg := by decide
  word := rfl
  waits := by decide
  first _ := rfl
  done heq := nomatch heq
  phdrs := ⟨fun h => absurd rfl h, fun h => absurd rfl h⟩
  shdrs heq := nomatch heq
  tables heq := nomatch heq

/-- A table is loaded in a call, which then goes on without it. -/
theorem exists_load_of_bind {α : Type} {f : TableLoad → WriterT (List ElfMem) Option α} {mem : ElfMem}
    {tableOffset tableSize : Nat} {a : α} {allocated : List ElfMem}
    (h : ((tracedTables allocate imgData offset len).load mem tableOffset tableSize >>= f).run =
      some (a, allocated)) :
    ∃ load rest, (f load).run = some (a, rest) ∧ load.allocated mem ++ rest = allocated := by
  obtain ⟨load, first, rest, hload, hrest, hallocated⟩ := run_bind_eq_some.mp h
  obtain ⟨load', -, heq⟩ := Option.map_eq_some_iff.mp hload
  obtain ⟨rfl, rfl⟩ := Prod.mk.inj heq
  exact ⟨load', rest, hrest, hallocated⟩

theorem elfLoadShstrtabTraced_at (h : info.At loader .shstrtab nseg)
    (hcall : elfLoadShstrtabTraced allocate imgData offset len info lastLoadState noffset nlen =
      some traced) : HeaderCall loader .shstrtab nseg traced := by
  have hstage : info.loadState &&& ELF_STATE_WAIT_FOR_SHSTRTAB ≠ 0 := by
    rw [h.word]
    exact (header_bit loader .shstrtab .shstrtab h.seg).mpr rfl
  unfold elfLoadShstrtabTraced elfLoadShstrtabWith at hcall
  rw [if_pos hstage] at hcall
  cases hsection : (tracedTables allocate imgData offset len).sectionFromIndex info
      (elfShstrndx info.ehdr) with
  | none =>
      rw [hsection] at hcall
      cases hcall
      exact h.stays rfl fun state hret => nomatch hret
  | some shdr =>
      rw [hsection] at hcall
      obtain ⟨out, allocated⟩ := traced
      obtain ⟨load, rest, hload, rfl⟩ := exists_load_of_bind hcall
      cases load with
      | wait =>
          cases hload
          exact h.stays rfl fun state hret => (Except.ok.inj hret).symm
      | noMemory =>
          cases hload
          exact h.stays rfl fun state hret => nomatch hret
      | loaded shstrtab =>
          cases hload
          have hdone : loader ≠ .complete := fun heq => nomatch h.done heq
          have hnext := h.setStage .complete info.shdrs (some shstrtab) (by decide) (by decide) hdone
            (fun heq => nomatch heq) (fun _ => .inl ⟨h.shdrs rfl, Option.some_ne_none _⟩)
          exact ⟨_, loader, .complete, rfl, hnext, by decide, fun _ => rfl,
            fun state hret => (Except.ok.inj hret).symm, allocatedIn_singleton .shstrtab⟩

/-- Nothing is left to do once the headers are complete. -/
theorem elfLoadShdrsTraced_complete (h : info.At loader .complete nseg)
    (hlast : lastLoadState = info.loadState)
    (hcall : elfLoadShdrsTraced allocate imgData offset len info lastLoadState noffset nlen =
      some traced) : HeaderCall loader .complete nseg traced := by
  have hshdrs : ¬ info.loadState &&& ELF_STATE_WAIT_FOR_SHDRS ≠ 0 := by
    rw [h.word]
    exact fun hbit => nomatch (header_bit loader .complete .shdrs h.seg).mp hbit
  have hshstrtab : ¬ info.loadState &&& ELF_STATE_WAIT_FOR_SHSTRTAB ≠ 0 := by
    rw [h.word]
    exact fun hbit => nomatch (header_bit loader .complete .shstrtab h.seg).mp hbit
  unfold elfLoadShdrsTraced elfLoadShdrsWith elfLoadShstrtabWith at hcall
  rw [if_neg hshdrs, if_neg hshstrtab] at hcall
  cases hcall
  exact h.stays rfl fun state hret => (Except.ok.inj hret).symm.trans hlast

theorem elfLoadShdrsTraced_shstrtab (h : info.At loader .shstrtab nseg)
    (hcall : elfLoadShdrsTraced allocate imgData offset len info lastLoadState noffset nlen =
      some traced) : HeaderCall loader .shstrtab nseg traced := by
  have hshdrs : ¬ info.loadState &&& ELF_STATE_WAIT_FOR_SHDRS ≠ 0 := by
    rw [h.word]
    exact fun hbit => nomatch (header_bit loader .shstrtab .shdrs h.seg).mp hbit
  unfold elfLoadShdrsTraced elfLoadShdrsWith at hcall
  rw [if_neg hshdrs] at hcall
  exact elfLoadShstrtabTraced_at h hcall

theorem elfLoadShdrsTraced_shdrs (h : info.At loader .shdrs nseg)
    (hcall : elfLoadShdrsTraced allocate imgData offset len info lastLoadState noffset nlen =
      some traced) : HeaderCall loader .shdrs nseg traced := by
  have hstage : info.loadState &&& ELF_STATE_WAIT_FOR_SHDRS ≠ 0 := by
    rw [h.word]
    exact (header_bit loader .shdrs .shdrs h.seg).mpr rfl
  have hdone : loader ≠ .complete := fun heq => nomatch h.done heq
  unfold elfLoadShdrsTraced elfLoadShdrsWith at hcall
  rw [if_pos hstage] at hcall
  by_cases hnum : elfShnum info.ehdr = 0
  · rw [if_pos hnum] at hcall
    cases hcall
    have hnext := h.setStage .complete info.shdrs info.shstrtab (by decide) (by decide) hdone
      (fun heq => nomatch heq) (fun _ => .inr hnum)
    exact ⟨_, loader, .complete, rfl, hnext, by decide, fun _ => rfl,
      fun state hret => (Except.ok.inj hret).symm, allocatedIn_nil _ _⟩
  · rw [if_neg hnum] at hcall
    obtain ⟨out, allocated⟩ := traced
    obtain ⟨load, rest, hload, rfl⟩ := exists_load_of_bind hcall
    cases load with
    | wait =>
        cases hload
        exact h.stays rfl fun state hret => (Except.ok.inj hret).symm
    | noMemory =>
        cases hload
        exact h.stays rfl fun state hret => nomatch hret
    | loaded shdrs =>
        have hnext := h.setStage .shstrtab (some shdrs) info.shstrtab (by decide) (by decide) hdone
          (fun _ => Option.some_ne_none _) (fun heq => nomatch heq)
        exact (elfLoadShstrtabTraced_at hnext hload).cons rfl rfl (by decide) fun _ => rfl

theorem elfLoadPhdrsTraced_at (h : info.At loader phase nseg) (hlast : lastLoadState = info.loadState)
    (hcall : elfLoadPhdrsTraced allocate imgData offset len info lastLoadState noffset nlen =
      some traced) : HeaderCall loader phase nseg traced := by
  unfold elfLoadPhdrsTraced elfLoadPhdrsWith at hcall
  rw [if_neg (not_not.mpr hlast)] at hcall
  by_cases hphase : phase = .phdrs
  · subst hphase
    obtain rfl := h.waits.mp rfl
    obtain rfl := h.first rfl
    have hstage : info.loadState = ELF_STATE_WAIT_FOR_PHDRS := h.word
    rw [if_pos hstage] at hcall
    obtain ⟨out, allocated⟩ := traced
    obtain ⟨load, rest, hload, rfl⟩ := exists_load_of_bind hcall
    cases load with
    | wait =>
        cases hload
        exact h.stays rfl fun state hret => (Except.ok.inj hret).symm
    | noMemory =>
        cases hload
        exact h.stays rfl fun state hret => nomatch hret
    | loaded phdrs =>
        have hnext := h.stored phdrs
        exact (elfLoadShdrsTraced_shdrs hnext hload).cons rfl rfl (by decide)
          fun hfirst => absurd rfl hfirst
  · have hstage : info.loadState ≠ ELF_STATE_WAIT_FOR_PHDRS := by
      intro hword
      apply hphase
      apply (header_bit loader phase .phdrs h.seg).mp
      rw [← h.word, hword]
      decide
    rw [if_neg hstage] at hcall
    cases phase with
    | phdrs => exact absurd rfl hphase
    | shdrs => exact elfLoadShdrsTraced_shdrs h hcall
    | shstrtab => exact elfLoadShdrsTraced_shstrtab h hcall
    | complete => exact elfLoadShdrsTraced_complete h hlast hcall

end Stages

/-! ### Loading data -/

section Data

variable {allocate : ElfMem → Nat → Bool} {imgData : Option (List UInt8)}
  {offset len lastLoadState : Nat} {info : ElfInfo} {loader : LoaderPhase} {phase : HeaderPhase}
  {nseg : Nat} {vars : LoadVars}

theorem ElfInfo.At.setLoader (h : info.At loader phase nseg) (loader' : LoaderPhase)
    (hphase : phase ≠ .phdrs) (hloader' : loader' ≠ .notReady)
    (hdone : loader' = .complete → phase = .complete) :
    ElfInfo.At { info with
      loadState := clearBits info.loadState RPROC_LOADER_MASK ||| loader'.bits } loader' phase nseg where
  seg := h.seg
  word := by
    rw [h.word]
    exact loadWord_setLoader loader loader' phase h.seg
  waits := ⟨fun heq => absurd heq hphase, fun heq => absurd heq hloader'⟩
  first := h.first
  done := hdone
  phdrs := h.phdrs
  shdrs := h.shdrs
  tables := h.tables

/-- The number of the next segment is kept modulo 256. -/
theorem ElfInfo.At.setSegment (h : info.At loader phase nseg) (next : Nat) (hphase : phase ≠ .phdrs) :
    ElfInfo.At { info with
      loadState := clearBits info.loadState ELF_NEXT_SEGMENT_MASK ||| (next &&& ELF_NEXT_SEGMENT_MASK) }
      loader phase (next % 2 ^ 8) where
  seg := Nat.mod_lt _ (by decide)
  word := by
    have hmask : ELF_NEXT_SEGMENT_MASK = 2 ^ 8 - 1 := rfl
    have hnext : next &&& ELF_NEXT_SEGMENT_MASK = next % 2 ^ 8 &&& ELF_NEXT_SEGMENT_MASK := by
      rw [hmask, Nat.and_two_pow_sub_one_eq_mod, Nat.and_two_pow_sub_one_eq_mod, Nat.mod_mod]
    rw [h.word, hnext]
    exact loadWord_setSegment loader phase h.seg (Nat.mod_lt _ (by decide))
  waits := h.waits
  first := fun heq => absurd heq hphase
  done := h.done
  phdrs := h.phdrs
  shdrs := h.shdrs
  tables := h.tables

/-- What a call makes of an object that has come to a stage. -/
def ObjectCall (low : Nat) (imgInfo : Option ElfInfo) (ret : Except Int Nat)
    (allocated : List ElfMem) : Prop :=
  ∃ info loader phase nseg, imgInfo = some info ∧ info.At loader phase nseg ∧ low ≤ phase.rank ∧
    (∀ state, ret = .ok state → state = info.loadState) ∧ AllocatedIn low phase.rank allocated

/-- A call that allocates nothing and returns the load state it leaves. -/
theorem ElfInfo.At.returns (h : info.At loader phase nseg) :
    ObjectCall phase.rank (some info) (.ok info.loadState) [] :=
  ⟨info, loader, phase, nseg, rfl, h, Nat.le_refl _, fun _ hret => (Except.ok.inj hret).symm,
    allocatedIn_nil _ _⟩

theorem ElfInfo.At.ready_bit (h : info.At loader phase nseg) :
    info.loadState &&& RPROC_LOADER_READY_TO_LOAD ≠ 0 ↔ loader = .ready := by
  rw [h.word]
  exact loader_bit loader .ready phase (by decide) h.seg

theorem ElfInfo.At.post_bit (h : info.At loader phase nseg) :
    info.loadState &&& RPROC_LOADER_POST_DATA_LOAD ≠ 0 ↔ loader = .postData := by
  rw [h.word]
  exact loader_bit loader .postData phase (by decide) h.seg

theorem ElfInfo.At.stage_bit (h : info.At loader phase nseg) (phase' : HeaderPhase) :
    info.loadState &&& phase'.bits ≠ 0 ↔ phase = phase' := by
  rw [h.word]
  exact header_bit loader phase phase' h.seg

theorem elfLoadSegment_at (phdrs : List Phdr) (h : info.At loader phase nseg)
    (hphase : phase ≠ .phdrs) :
    ObjectCall phase.rank (elfLoadSegment phdrs info vars).imgInfo
      (elfLoadSegment phdrs info vars).ret [] := by
  unfold elfLoadSegment
  rcases elfNextLoadSegment phdrs _ with ⟨found, next⟩
  cases found with
  | false => exact (h.setSegment next.nseg hphase).returns
  | true =>
      simp only [Bool.not_true, Bool.false_eq_true, if_false]
      split_ifs with hlast
      · have hpost := h.setLoader .postData hphase (by decide) fun heq => nomatch heq
        exact (hpost.setSegment next.nseg hphase).returns
      · exact (h.setSegment next.nseg hphase).returns

theorem elfLoadHeaderTraced_at {noffset nlen : Nat} {traced : HeaderOut × List ElfMem}
    (h : info.At loader phase nseg)
    (hcall : elfLoadHeaderTraced allocate imgData offset len (some info) info.loadState noffset nlen =
      some traced) : HeaderCall loader phase nseg traced := by
  have hinit : info.loadState ≠ ELF_STATE_INIT := by
    rw [h.word]
    exact loadWord_ne_init loader phase
  unfold elfLoadHeaderTraced tracedHeader elfLoadHeaderWith at hcall
  rw [if_neg hinit] at hcall
  obtain ⟨out, allocated⟩ := traced
  obtain ⟨_, ⟨⟩, hphdrs⟩ := run_lift_bind_eq_some.mp hcall
  exact elfLoadPhdrsTraced_at h rfl hphdrs

/-- A call that still loads headers, or finds that they are all there. -/
theorem elfLoadPostTraced_at {out : LoadOut} {allocated : List ElfMem}
    (h : info.At .postData phase nseg) (hphase : phase ≠ .phdrs)
    (hcall : (elfLoadPostWith (tracedHeader allocate imgData offset len) info info.loadState vars).run =
      some (out, allocated)) : ObjectCall phase.rank out.imgInfo out.ret allocated := by
  unfold elfLoadPostWith at hcall
  split_ifs at hcall with hmore
  · obtain ⟨⟨ret, imgInfo, noffset, nlen⟩, first, rest, hheader, hrest, rfl⟩ :=
      run_bind_eq_some.mp hcall
    obtain ⟨info', loader', phase', hinfo, hat, hrank, hloader, hret, hallocated⟩ :=
      elfLoadHeaderTraced_at h hheader
    obtain rfl := hloader hphase
    dsimp only at hinfo hret hallocated
    subst hinfo
    have hphase' : phase' ≠ .phdrs := fun heq => nomatch hat.waits.mp heq
    cases ret with
    | error status =>
        obtain ⟨rfl, rfl⟩ := run_pure_eq_some.mp hrest
        rw [List.append_nil]
        exact ⟨info', .postData, phase', nseg, rfl, hat, hrank, fun _ herr => (nomatch herr),
          hallocated⟩
    | ok headerState =>
        obtain rfl := hret headerState rfl
        obtain ⟨_, ⟨⟩, hrest⟩ := run_lift_bind_eq_some.mp hrest
        by_cases hcomplete : phase' = .complete
        · have hbit : info'.loadState &&& ELF_STATE_HDRS_COMPLETE ≠ 0 :=
            (hat.stage_bit .complete).mpr hcomplete
          rw [if_pos hbit] at hrest
          obtain ⟨rfl, rfl⟩ := run_pure_eq_some.mp hrest
          rw [List.append_nil]
          exact ⟨_, .complete, phase', nseg, rfl,
            hat.setLoader .complete hphase' (by decide) fun _ => hcomplete, hrank,
            fun _ hret => (Except.ok.inj hret).symm, hallocated⟩
        · have hbit : ¬ info'.loadState &&& ELF_STATE_HDRS_COMPLETE ≠ 0 :=
            mt (hat.stage_bit .complete).mp hcomplete
          rw [if_neg hbit] at hrest
          obtain ⟨rfl, rfl⟩ := run_pure_eq_some.mp hrest
          rw [List.append_nil]
          exact ⟨info', .postData, phase', nseg, rfl, hat, hrank,
            fun _ hret => (Except.ok.inj hret).symm, hallocated⟩
  · obtain ⟨rfl, rfl⟩ := run_pure_eq_some.mp hcall
    have hcomplete : phase = .complete := (h.stage_bit .complete).mp hmore
    exact (h.setLoader .complete hphase (by decide) fun _ => hcomplete).returns

theorem elfLoadDataTraced_at {out : LoadOut} {allocated : List ElfMem}
    (h : info.At loader phase nseg) (hphase : phase ≠ .phdrs)
    (hcall : elfLoadDataTraced allocate imgData offset len info info.loadState vars =
      some (out, allocated)) : ObjectCall phase.rank out.imgInfo out.ret allocated := by
  unfold elfLoadDataTraced elfLoadDataWith at hcall
  by_cases hready : loader = .ready
  · rw [if_pos (h.ready_bit.mpr hready)] at hcall
    obtain ⟨rfl, rfl⟩ := run_pure_eq_some.mp hcall
    exact elfLoadSegment_at _ h hphase
  · rw [if_neg (mt h.ready_bit.mp hready)] at hcall
    by_cases hpost : loader = .postData
    · subst hpost
      rw [if_pos (h.post_bit.mpr rfl)] at hcall
      exact elfLoadPostTraced_at h hphase hcall
    · rw [if_neg (mt h.post_bit.mp hpost)] at hcall
      obtain ⟨rfl, rfl⟩ := run_pure_eq_some.mp hcall
      exact h.returns

end Data

/-! ### Runs -/

namespace ElfRun

/-- The object has what belongs to its stage, and memory has been allocated for nothing else. -/
def Inv (s : ElfRun) : Prop :=
  (s.imgInfo = none ∧ s.allocated = [] ∧ ∀ state, s.last = .ok state → state = ELF_STATE_INIT) ∨
    ObjectCall 0 s.imgInfo s.last s.allocated

theorem inv_start : start.Inv :=
  .inl ⟨rfl, rfl, fun _ hlast => (Except.ok.inj hlast).symm⟩

/-- The object of `s` has been taken on by a call, which has allocated `allocated`. -/
theorem objectCall_append {low : Nat} {imgInfo : Option ElfInfo} {ret : Except Int Nat}
    {before allocated : List ElfMem} (hbefore : AllocatedIn 0 low before)
    (h : ObjectCall low imgInfo ret allocated) : ObjectCall 0 imgInfo ret (before ++ allocated) := by
  obtain ⟨info, loader, phase, nseg, hinfo, hat, hrank, hret, hallocated⟩ := h
  exact ⟨info, loader, phase, nseg, hinfo, hat, Nat.zero_le _, hret,
    hbefore.append hallocated (Nat.zero_le _) hrank⟩

theorem stage_eq_bits {s : ElfRun} {info : ElfInfo} {loader : LoaderPhase} {phase : HeaderPhase}
    {nseg : Nat} (hinfo : s.imgInfo = some info) (h : info.At loader phase nseg) :
    s.stage = phase.bits := by
  have hmask : ELF_STATE_MASK = 0xFF * 2 ^ 8 := rfl
  rw [stage, hinfo]
  dsimp only
  rw [h.word, hmask, loadWord_and_high loader phase h.seg]
  cases loader <;> cases phase <;> rfl

theorem bits_le_of_rank_le {phase phase' : HeaderPhase} (h : phase.rank ≤ phase'.rank) :
    phase.bits ≤ phase'.bits := by
  cases phase <;> cases phase' <;> first | decide | exact absurd h (by decide)

theorem stage_le_of_call {s s' : ElfRun} {info : ElfInfo} {loader : LoaderPhase}
    {phase : HeaderPhase} {nseg : Nat} {allocated : List ElfMem} (hinfo : s.imgInfo = some info)
    (h : info.At loader phase nseg) (hcall : ObjectCall phase.rank s'.imgInfo s'.last allocated) :
    s.stage ≤ s'.stage := by
  obtain ⟨info', loader', phase', nseg', hinfo', hat, hrank, -, -⟩ := hcall
  rw [stage_eq_bits hinfo h, stage_eq_bits hinfo' hat]
  exact bits_le_of_rank_le hrank

/-- The first header is stored by a call that finds no object. -/
theorem elfLoadHeaderTraced_none {allocate : ElfMem → Nat → Bool} {imgData : Option (List UInt8)}
    {offset len noffset nlen : Nat} {out : HeaderOut} {allocated : List ElfMem}
    (hcall : elfLoadHeaderTraced allocate imgData offset len none ELF_STATE_INIT noffset nlen =
      some (out, allocated)) :
    Inv ⟨out.imgInfo, out.ret, allocated⟩ := by
  unfold elfLoadHeaderTraced tracedHeader elfLoadHeaderWith at hcall
  rw [if_pos rfl] at hcall
  obtain ⟨tmpsize, _, rest, hsize, hrest, rfl⟩ := run_bind_eq_some.mp hcall
  obtain ⟨rfl, rfl⟩ := run_pure_eq_some.mp hsize
  split_ifs at hrest with hshort
  · obtain ⟨rfl, rfl⟩ := run_pure_eq_some.mp hrest
    exact .inl ⟨rfl, rfl, fun _ hlast => (Except.ok.inj hlast).symm⟩
  · obtain ⟨infosize, -, hrest⟩ := run_lift_bind_eq_some.mp hrest
    obtain ⟨granted, first, rest', hallocate, hcopied, rfl⟩ := run_bind_eq_some.mp hrest
    obtain ⟨rfl, rfl⟩ := Prod.mk.inj (Option.some.inj hallocate)
    split_ifs at hcopied with hmemory
    · obtain ⟨rfl, rfl⟩ := run_pure_eq_some.mp hcopied
      rw [if_neg (by simp [hmemory])]
      exact .inl ⟨rfl, rfl, fun _ hlast => (nomatch hlast)⟩
    · obtain ⟨ehdr, -, hphdrs⟩ := run_lift_bind_eq_some.mp hcopied
      obtain ⟨info, loader, phase, hinfo, hat', hrank, -, hret, hallocated⟩ :=
        elfLoadPhdrsTraced_at (elfHeaderCopied_at ehdr) rfl hphdrs
      rw [if_pos (by simpa using hmemory), List.nil_append]
      right
      exact objectCall_append (allocatedIn_singleton .info)
        ⟨info, loader, phase, 0, hinfo, hat', hrank, hret, hallocated⟩

theorem Inv.step {s s' : ElfRun} {call : ElfCall} (h : s.Inv) (hallowed : s.Allowed call)
    (hstep : s.step call = some s') : s'.Inv ∧ s.stage ≤ s'.stage := by
  rcases h with ⟨hnone, hempty, hlast⟩ | ⟨info, loader, phase, nseg, hinfo, hat, -, hlast, hallocated⟩
  · cases call with
    | header allocate imgData offset len noffset nlen =>
        obtain ⟨state, hstate⟩ := hallowed
        obtain rfl := hlast state hstate
        simp only [ElfRun.step, hstate, hnone, hempty, List.nil_append, Option.bind_eq_bind,
          Option.bind_eq_some_iff] at hstep
        obtain ⟨⟨out, allocated⟩, hcall, heq⟩ := hstep
        cases heq
        refine ⟨elfLoadHeaderTraced_none hcall, ?_⟩
        rw [stage, hnone]
        exact Nat.zero_le _
    | load allocate imgData offset len vars =>
        obtain ⟨state, hstate, hbit⟩ := hallowed
        obtain rfl := hlast state hstate
        exact absurd rfl hbit
  · cases call with
    | header allocate imgData offset len noffset nlen =>
        obtain ⟨state, hstate⟩ := hallowed
        obtain rfl := hlast state hstate
        simp only [ElfRun.step, hstate, hinfo, Option.bind_eq_bind, Option.bind_eq_some_iff] at hstep
        obtain ⟨⟨out, allocated⟩, hcall, heq⟩ := hstep
        cases heq
        obtain ⟨info', loader', phase', hinfo', hat', hrank, -, hret, hmore⟩ :=
          elfLoadHeaderTraced_at hat hcall
        have hobject : ObjectCall phase.rank out.imgInfo out.ret allocated :=
          ⟨info', loader', phase', nseg, hinfo', hat', hrank, hret, hmore⟩
        exact ⟨.inr (objectCall_append hallocated hobject), stage_le_of_call hinfo hat hobject⟩
    | load allocate imgData offset len vars =>
        obtain ⟨state, hstate, hbit⟩ := hallowed
        obtain rfl := hlast state hstate
        have hphase : phase ≠ .phdrs := by
          intro heq
          obtain rfl := hat.waits.mp heq
          rw [hat.word, loadWord_and_mask .notReady phase hat.seg] at hbit
          exact hbit rfl
        simp only [ElfRun.step, hstate, hinfo, elfLoadTraced, elfLoadWith, if_neg hbit,
          Option.bind_eq_bind, Option.bind_eq_some_iff] at hstep
        obtain ⟨⟨out, allocated⟩, hcall, heq⟩ := hstep
        cases heq
        obtain ⟨_, ⟨⟩, hdata⟩ := run_lift_bind_eq_some.mp hcall
        have hobject := elfLoadDataTraced_at hat hphase hdata
        exact ⟨.inr (objectCall_append hallocated hobject), stage_le_of_call hinfo hat hobject⟩

theorem inv_of_reachable {s : ElfRun} (hs : Run.Reachable Allowed step start s) : s.Inv := by
  refine hs.invariant inv_start ?_
  intro s call s' h hallowed hstep
  exact (h.step hallowed hstep).1

/-- The stage never goes back. -/
theorem stage_le_of_reachable {s s' : ElfRun} (hs : s.Inv)
    (hrun : Run.Reachable Allowed step s s') : s.stage ≤ s'.stage := by
  have hboth : s'.Inv ∧ s.stage ≤ s'.stage := by
    refine hrun.invariant (P := fun t => t.Inv ∧ s.stage ≤ t.stage) ⟨hs, Nat.le_refl _⟩ ?_
    rintro t call t' ⟨ht, hle⟩ hallowed hstep
    obtain ⟨ht', hle'⟩ := ht.step hallowed hstep
    exact ⟨ht', Nat.le_trans hle hle'⟩
  exact hboth.2

end ElfRun

/-! ### The bits of the load state -/

section Bits

variable {info : ElfInfo} {loader : LoaderPhase} {phase : HeaderPhase} {nseg : Nat}

theorem setBits_stage (h : info.At loader phase nseg) :
    setBits info.loadState stageBits = [phase.bits] := by
  have hall : stageBits = [HeaderPhase.phdrs, .shdrs, .shstrtab, .complete].map HeaderPhase.bits := rfl
  rw [setBits, hall, List.filter_map, List.filter_congr (q := fun phase' => phase = phase')]
  · cases phase <;> rfl
  · intro phase' _
    exact decide_eq_decide.mpr (h.stage_bit phase')

theorem setBits_loader (h : info.At loader phase nseg) :
    setBits info.loadState loaderBits = if loader = .notReady then [] else [loader.bits] := by
  have hall : loaderBits = [LoaderPhase.ready, .postData, .complete].map LoaderPhase.bits := rfl
  rw [setBits, hall, List.filter_map, List.filter_congr (q := fun loader' => loader = loader')]
  · cases loader <;> rfl
  · intro loader' hmem
    have hready : loader' ≠ .notReady := by
      rintro rfl
      exact absurd hmem (by decide)
    apply decide_eq_decide.mpr
    rw [h.word]
    exact loader_bit loader loader' phase hready h.seg

theorem ElfInfo.At.stateOk (h : info.At loader phase nseg) : info.StateOk := by
  have hphdrs : info.loadState &&& ELF_STATE_WAIT_FOR_PHDRS ≠ 0 ↔ phase = .phdrs := h.stage_bit .phdrs
  have hloader := setBits_loader h
  constructor
  case stage => rw [setBits_stage h, List.length_singleton]
  case not_ready =>
    intro hbit
    rw [hloader, if_pos (h.waits.mp (hphdrs.mp hbit))]
  case ready =>
    intro hbit
    have hready : loader ≠ .notReady := fun heq => hphdrs.mpr (h.waits.mpr heq) hbit
    rw [hloader, if_neg hready, List.length_singleton]
  case complete =>
    intro hbit
    rw [h.word] at hbit
    have hdone := (loader_bit loader .complete phase (by decide) h.seg).mp hbit
    exact (h.stage_bit .complete).mpr (h.done hdone)
  case phdrs =>
    rw [h.phdrs, ← not_iff_not, not_not]
    exact hphdrs.symm
  case shdrs => exact fun hbit => h.shdrs ((h.stage_bit .shstrtab).mp hbit)
  case tables => exact fun hbit => h.tables ((h.stage_bit .complete).mp hbit)

end Bits

/-- The load state through every run of calls with pieces of the file, refused allocations and a last
call that may fail. -/
theorem elf_load_state {s : ElfRun} (hs : Run.Reachable ElfRun.Allowed ElfRun.step ElfRun.start s) :
    (∀ info, s.imgInfo = some info →
      info.StateOk ∧ ∀ state, s.last = .ok state → state = info.loadState) ∧
    (∀ mem, s.allocated.count mem ≤ 1) ∧
    ∀ s', Run.Reachable ElfRun.Allowed ElfRun.step s s' → s.stage ≤ s'.stage := by
  have h := ElfRun.inv_of_reachable hs
  refine ⟨?_, ?_, fun s' hrun => ElfRun.stage_le_of_reachable h hrun⟩
  · intro info hinfo
    rcases h with ⟨hnone, -⟩ | ⟨info', loader, phase, nseg, hinfo', hat, -, hlast, -⟩
    · rw [hnone] at hinfo
      cases hinfo
    · obtain rfl : info' = info := Option.some.inj (hinfo'.symm.trans hinfo)
      exact ⟨hat.stateOk, hlast⟩
  · intro mem
    rcases h with ⟨-, hempty, -⟩ | ⟨_, _, _, _, _, _, _, _, hallocated⟩
    · rw [hempty]
      exact Nat.zero_le 1
    · exact List.nodup_iff_count_le_one.mp hallocated.nodup mem

/-- The headers of an image whose last byte is not there yet, and then its segment. -/
theorem elf_load_state_small_image :
    ∃ (s : ElfRun) (info : ElfInfo), s.imgInfo = some info ∧ info.StateOk ∧
      s.allocated.count .phdrs = 1 := by
  let headers : ElfCall := .header (fun _ _ => true) (some smallImage.bytes) 0 124 0 0
  let segment : ElfCall := .load (fun _ _ => true) none 0 0 ⟨0, 0, 0, 0, 0⟩
  have hheaders : (ElfRun.start.step headers).map ElfRun.last =
      some (.ok (loadWord .ready .shstrtab 0)) := by decide +kernel
  obtain ⟨s₁, hstep₁, hlast₁⟩ := Option.map_eq_some_iff.mp hheaders
  have hsegment : ((ElfRun.start.step headers).bind (·.step segment)).map (fun s =>
      (s.imgInfo.isSome, s.allocated)) = some (true, [.info, .phdrs, .shdrs]) := by decide +kernel
  rw [hstep₁, Option.bind_some] at hsegment
  obtain ⟨s₂, hstep₂, hobs⟩ := Option.map_eq_some_iff.mp hsegment
  obtain ⟨hsome, hallocated⟩ := Prod.mk.inj hobs
  obtain ⟨info, hinfo⟩ := Option.isSome_iff_exists.mp hsome
  have hreach₁ : Run.Reachable ElfRun.Allowed ElfRun.step ElfRun.start s₁ :=
    .next headers .start ⟨_, rfl⟩ hstep₁
  have hreach₂ := Run.Reachable.next segment hreach₁ ⟨_, hlast₁, by decide⟩ hstep₂
  exact ⟨s₂, info, hinfo, ((elf_load_state hreach₂).1 info hinfo).1, by rw [hallocated]; rfl⟩

end OpenAmp
