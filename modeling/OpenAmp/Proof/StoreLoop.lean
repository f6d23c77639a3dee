import OpenAmp.Proof.ElfLoadState
import OpenAmp.Proof.ElfTables
import OpenAmp.StoreLoad

/-!
# The loops over the store

What one round makes of the image information. A call of the header parser takes an object from one
stage to a later one, and asks for the table of the stage it comes to unless that lies in the piece it
was given; a piece that was asked for is never asked for again.
-/

namespace OpenAmp

open ByteMemory

/-! ### Errors of the loader -/

/-- An error is a negative number. -/
def NegativeError (ret : Except Int Nat) : Prop := ∀ status, ret = .error status → status < 0

theorem negativeError_ok (state : Nat) : NegativeError (.ok state) := nofun

theorem negativeError_error {status : Int} (h : status < 0) : NegativeError (.error status) := by
  intro status' heq
  rwa [← Except.error.inj heq]

/-- What the stages of the header parser leave, whatever they come to. -/
structure HeaderOut.Proper (out : HeaderOut) : Prop where
  isSome : out.imgInfo.isSome
  negative : NegativeError out.ret

section Errors

variable {allocate : ElfMem → Nat → Bool} {img behind : Nat → UInt8} {plat : LoadPlatform}
  {imgData : Option (Nat → UInt8)} {imgInfo : Option ElfInfo} {info : ElfInfo}
  {offset len lastLoadState noffset nlen : Nat} {vars : LoadVars}

theorem HeaderOut.Proper.ok (state : Nat) : Proper ⟨.ok state, some info, noffset, nlen⟩ :=
  ⟨rfl, negativeError_ok state⟩

theorem HeaderOut.Proper.error {status : Int} (h : status < 0) :
    Proper ⟨.error status, some info, noffset, nlen⟩ :=
  ⟨rfl, negativeError_error h⟩

theorem elfLoadShstrtabAt_proper :
    (elfLoadShstrtabAt allocate img behind offset len info lastLoadState noffset nlen).1.Proper := by
  unfold elfLoadShstrtabAt elfLoadShstrtabWith
  split
  · split
    · exact .error (by decide)
    · rw [run_load_bind]
      dsimp only
      split
      · exact .ok _
      · exact .error (by decide)
      · exact .ok _
  · exact .ok _

theorem elfLoadShdrsAt_proper :
    (elfLoadShdrsAt allocate img behind offset len info lastLoadState noffset nlen).1.Proper := by
  unfold elfLoadShdrsAt elfLoadShdrsWith
  split
  · split
    · exact .ok _
    · rw [run_load_bind]
      dsimp only
      split
      · exact .ok _
      · exact .error (by decide)
      · exact elfLoadShstrtabAt_proper
  · exact elfLoadShstrtabAt_proper

theorem elfLoadPhdrsAt_proper :
    (elfLoadPhdrsAt allocate img behind offset len info lastLoadState noffset nlen).1.Proper := by
  unfold elfLoadPhdrsAt elfLoadPhdrsWith
  split
  · exact .error (by decide)
  · split
    · rw [run_load_bind]
      dsimp only
      split
      · exact .ok _
      · exact .error (by decide)
      · exact elfLoadShdrsAt_proper
    · exact elfLoadShdrsAt_proper

/-- How a call can end on what the store hands out: a null pointer is read through nowhere. -/
theorem elfLoadHeaderFrom_cases {out : HeaderOut}
    (h : elfLoadHeaderFrom plat imgData offset len imgInfo lastLoadState noffset nlen = some out) :
    (lastLoadState = ELF_STATE_INIT ∧ ∃ is64, len < sizeofEhdr is64 ∧
        out = ⟨.ok ELF_STATE_INIT, imgInfo, 0, sizeofEhdr is64⟩) ∨
      (lastLoadState = ELF_STATE_INIT ∧ imgInfo = none ∧
        out = ⟨.error (-RPROC_ENOMEM), none, noffset, nlen⟩) ∨
      (lastLoadState = ELF_STATE_INIT ∧ ∃ img ehdr, out = (elfLoadPhdrsAt plat.allocate img
        (plat.behind .shdrs) offset len (elfHeaderCopied imgInfo ehdr) ELF_STATE_WAIT_FOR_PHDRS noffset
        nlen).1) ∨
      (lastLoadState ≠ ELF_STATE_INIT ∧ ∃ img info, imgInfo = some info ∧
        out = (elfLoadPhdrsAt plat.allocate img (plat.behind .shdrs) offset len info lastLoadState
          noffset nlen).1) := by
  have hcall : (lastLoadState = ELF_STATE_INIT ∧ ∃ is64, len < sizeofEhdr is64 ∧
        out = ⟨.ok ELF_STATE_INIT, imgInfo, 0, sizeofEhdr is64⟩) ∨
      ∃ img, (elfLoadHeaderAt plat.allocate img (plat.behind .shdrs) offset len imgInfo lastLoadState
        noffset nlen).1 = some out := by
    unfold elfLoadHeaderFrom at h
    cases imgData with
    | some img => exact .inr ⟨img, h⟩
    | none =>
        dsimp only at h
        split_ifs at h with hshort
        · exact .inl ⟨hshort.1, true, hshort.2, (Option.some.inj h).symm⟩
        · exact .inr ⟨_, h⟩
  rcases hcall with hshort | ⟨img, hout⟩
  · exact .inl hshort
  · rcases elfLoadHeaderAt_cases hout with hshort | hmemory | ⟨hinit, ehdr, hcopied⟩ |
      ⟨hinit, info, hinfo, htables⟩
    · exact .inl hshort
    · exact .inr (.inl hmemory)
    · exact .inr (.inr (.inl ⟨hinit, img, ehdr, hcopied⟩))
    · exact .inr (.inr (.inr ⟨hinit, img, info, hinfo, htables⟩))

theorem elfLoadHeaderFrom_negative {out : HeaderOut}
    (h : elfLoadHeaderFrom plat imgData offset len imgInfo lastLoadState noffset nlen = some out) :
    NegativeError out.ret := by
  rcases elfLoadHeaderFrom_cases h with
    ⟨-, _, -, rfl⟩ | ⟨-, -, rfl⟩ | ⟨-, _, _, rfl⟩ | ⟨-, _, _, -, rfl⟩
  · exact negativeError_ok _
  · exact negativeError_error (by decide)
  · exact elfLoadPhdrsAt_proper.negative
  · exact elfLoadPhdrsAt_proper.negative

theorem elfLoadHeaderFrom_isSome {out : HeaderOut}
    (h : elfLoadHeaderFrom plat imgData offset len (some info) lastLoadState noffset nlen = some out) :
    out.imgInfo.isSome := by
  rcases elfLoadHeaderFrom_cases h with
    ⟨-, _, -, rfl⟩ | ⟨-, hnone, -⟩ | ⟨-, _, _, rfl⟩ | ⟨-, _, _, -, rfl⟩
  · rfl
  · exact nomatch hnone
  · exact elfLoadPhdrsAt_proper.isSome
  · exact elfLoadPhdrsAt_proper.isSome

/-- What `elf_load` leaves, once there is an object, unless the headers fail. -/
theorem elfLoadPostWith_proper {out : LoadOut}
    (h : elfLoadPostWith (elfLoadHeaderFrom plat imgData offset len) info lastLoadState vars =
      some out) :
    NegativeError out.ret ∧ out.imgInfo.isSome := by
  unfold elfLoadPostWith at h
  split_ifs at h
  · obtain ⟨header, hheader, hout⟩ := Option.bind_eq_some_iff.mp h
    have hnegative := elfLoadHeaderFrom_negative hheader
    have hsome := elfLoadHeaderFrom_isSome hheader
    dsimp only at hout
    split at hout
    · next status hret =>
        obtain rfl := Option.some.inj hout
        exact ⟨negativeError_error (hnegative _ hret), hsome⟩
    · obtain ⟨info', -, hdone⟩ := Option.bind_eq_some_iff.mp hout
      split_ifs at hdone
      · obtain rfl := Option.some.inj hdone
        exact ⟨negativeError_ok _, rfl⟩
      · obtain rfl := Option.some.inj hdone
        exact ⟨negativeError_ok _, rfl⟩
  · obtain rfl := Option.some.inj h
    exact ⟨negativeError_ok _, rfl⟩

theorem elfLoadSegment_proper (phdrs : List Phdr) :
    NegativeError (elfLoadSegment phdrs info vars).ret ∧
      (elfLoadSegment phdrs info vars).imgInfo.isSome := by
  unfold elfLoadSegment
  dsimp only
  split
  · exact ⟨negativeError_ok _, rfl⟩
  · exact ⟨negativeError_ok _, rfl⟩

theorem elfLoadDataWith_proper {out : LoadOut}
    (h : elfLoadDataWith (elfLoadHeaderFrom plat imgData offset len) plat.segments info lastLoadState
      vars = some out) :
    NegativeError out.ret ∧ out.imgInfo.isSome := by
  unfold elfLoadDataWith at h
  dsimp only at h
  split_ifs at h
  · obtain rfl := Option.some.inj h
    exact elfLoadSegment_proper _
  · exact elfLoadPostWith_proper h
  · obtain rfl := Option.some.inj h
    exact ⟨negativeError_ok _, rfl⟩

theorem elfLoadFrom_negative {out : LoadOut}
    (h : elfLoadFrom plat imgData offset len imgInfo lastLoadState vars = some out) :
    NegativeError out.ret := by
  unfold elfLoadFrom elfLoadWith at h
  split_ifs at h
  · obtain ⟨header, -, hout⟩ := Option.bind_eq_some_iff.mp h
    dsimp only at hout
    split at hout
    · split_ifs at hout
      · obtain rfl := Option.some.inj hout
        exact negativeError_ok _
      · obtain ⟨info, -, hdata⟩ := Option.bind_eq_some_iff.mp hout
        exact (elfLoadDataWith_proper hdata).1
    · obtain ⟨info, -, hdata⟩ := Option.bind_eq_some_iff.mp hout
      exact (elfLoadDataWith_proper hdata).1
  · obtain ⟨info, -, hdata⟩ := Option.bind_eq_some_iff.mp h
    exact (elfLoadDataWith_proper hdata).1

end Errors

/-! ### The table of a stage -/

/-- The place of the table that an object waits for. -/
def ElfInfo.due (info : ElfInfo) (behind : Nat → UInt8) : HeaderPhase → Option (Nat × Nat)
  | .phdrs => some (elfPhoff info.ehdr, elfPhnum info.ehdr * elfPhentsize info.ehdr)
  | .shdrs => some (elfShoff info.ehdr, elfShnum info.ehdr * elfShentsize info.ehdr)
  | .shstrtab =>
      match info.shdrs, elfGetSectionFromIndexAt info (elfShstrndx info.ehdr) with
      | some shdrs, some entry =>
          let shdr := elfParseSectionAt info.is64 shdrs behind entry
          some (shdr.shOffset, shdr.shSize)
      | _, _ => none
  | .complete => none

/-- What a call of `elf_load_header` makes of an object at a stage. -/
structure HeaderStep (behind : Nat → UInt8) (offset len : Nat) (info : ElfInfo) (loader : LoaderPhase)
    (phase : HeaderPhase) (nseg : Nat) (out : HeaderOut) (info' : ElfInfo) (loader' : LoaderPhase)
    (phase' : HeaderPhase) : Prop where
  imgInfo : out.imgInfo = some info'
  at_stage : info'.At loader' phase' nseg
  rank : phase.rank ≤ phase'.rank
  same : phase'.rank = phase.rank → info' = info
  loader : phase ≠ .phdrs → loader' = loader
  ready : phase = .phdrs → loader' = .notReady ∨ loader' = .ready
  -- the program headers are stored once
  ehdr : info'.ehdr = info.ehdr
  phdrs : phase ≠ .phdrs → info'.phdrs = info.phdrs
  state : ∀ state, out.ret = .ok state → state = info'.loadState
  asks : ∀ state, out.ret = .ok state → phase' ≠ .complete →
    info'.due behind phase' = some (out.noffset, out.nlen) ∧
      elfTableWaits offset len out.noffset out.nlen = true
  done : ∀ state, out.ret = .ok state → phase' = .complete → phase ≠ .complete → out.nlen = 0

section Stages

variable {allocate : ElfMem → Nat → Bool} {img behind : Nat → UInt8}
  {offset len lastLoadState noffset nlen : Nat} {info info' : ElfInfo} {loader loader' : LoaderPhase}
  {phase phase' : HeaderPhase} {nseg : Nat} {out : HeaderOut}

theorem HeaderStep.failed (h : info.At loader phase nseg) (status : Int) :
    HeaderStep behind offset len info loader phase nseg ⟨.error status, some info, noffset, nlen⟩ info
      loader phase where
  imgInfo := rfl
  at_stage := h
  rank := Nat.le_refl _
  same _ := rfl
  loader _ := rfl
  ready heq := .inl (h.waits.mp heq)
  ehdr := rfl
  phdrs _ := rfl
  state _ hret := nomatch hret
  asks _ hret := nomatch hret
  done _ hret := nomatch hret

theorem HeaderStep.waits (h : info.At loader phase nseg) (hphase : phase ≠ .complete)
    (hdue : info.due behind phase = some (noffset, nlen))
    (hwaits : elfTableWaits offset len noffset nlen = true) :
    HeaderStep behind offset len info loader phase nseg
      ⟨.ok info.loadState, some info, noffset, nlen⟩ info loader phase where
  imgInfo := rfl
  at_stage := h
  rank := Nat.le_refl _
  same _ := rfl
  loader _ := rfl
  ready heq := .inl (h.waits.mp heq)
  ehdr := rfl
  phdrs _ := rfl
  state _ hret := (Except.ok.inj hret).symm
  asks _ _ _ := ⟨hdue, hwaits⟩
  done _ _ heq := absurd heq hphase

/-- The last table is stored. -/
theorem HeaderStep.completes (hphase : phase.rank < HeaderPhase.complete.rank) (hne : phase ≠ .phdrs)
    (hinfo : info'.At loader .complete nseg) (hehdr : info'.ehdr = info.ehdr)
    (hphdrs : info'.phdrs = info.phdrs) :
    HeaderStep behind offset len info loader phase nseg
      ⟨.ok info'.loadState, some info', noffset, 0⟩ info' loader .complete where
  imgInfo := rfl
  at_stage := hinfo
  rank := hphase.le
  same heq := by omega
  loader _ := rfl
  ready heq := absurd heq hne
  ehdr := hehdr
  phdrs _ := hphdrs
  state _ hret := (Except.ok.inj hret).symm
  asks _ _ hne := absurd rfl hne
  done _ _ _ _ := rfl

/-- A table is stored and the next stage goes on in the same call. -/
theorem HeaderStep.trans {middle : ElfInfo} {loader₁ : LoaderPhase} {phase₁ : HeaderPhase}
    (h : HeaderStep behind offset len middle loader₁ phase₁ nseg out info' loader' phase')
    (hrank : phase.rank < phase₁.rank) (hphase : phase₁ ≠ .phdrs) (hincomplete : phase₁ ≠ .complete)
    (hloader : phase ≠ .phdrs → loader₁ = loader) (hready : phase = .phdrs → loader₁ = .ready)
    (hehdr : middle.ehdr = info.ehdr)
    (hphdrs : phase ≠ .phdrs → middle.phdrs = info.phdrs) :
    HeaderStep behind offset len info loader phase nseg out info' loader' phase' where
  imgInfo := h.imgInfo
  at_stage := h.at_stage
  rank := hrank.le.trans h.rank
  same heq := absurd h.rank (by omega)
  loader hne := (h.loader hphase).trans (hloader hne)
  ready heq := .inr ((h.loader hphase).trans (hready heq))
  ehdr := h.ehdr.trans hehdr
  phdrs hne := (h.phdrs hphase).trans (hphdrs hne)
  state := h.state
  asks := h.asks
  done state hret heq _ := h.done state hret heq hincomplete

theorem elfLoadShstrtabAt_step (h : info.At loader .shstrtab nseg) :
    ∃ info' phase', HeaderStep behind offset len info loader .shstrtab nseg
      (elfLoadShstrtabAt allocate img behind offset len info lastLoadState noffset nlen).1 info' loader
      phase' := by
  have hstage : info.loadState &&& ELF_STATE_WAIT_FOR_SHSTRTAB ≠ 0 := (h.stage_bit .shstrtab).mpr rfl
  unfold elfLoadShstrtabAt elfLoadShstrtabWith
  rw [if_pos hstage]
  dsimp only [memTables]
  cases hshdrs : info.shdrs with
  | none => exact absurd hshdrs (h.shdrs rfl)
  | some shdrs =>
      cases hentry : elfGetSectionFromIndexAt info (elfShstrndx info.ehdr) with
      | none => exact ⟨info, .shstrtab, .failed h _⟩
      | some entry =>
          dsimp only
          generalize hshdr : elfParseSectionAt info.is64 shdrs behind entry = shdr
          have hdue : info.due behind .shstrtab = some (shdr.shOffset, shdr.shSize) := by
            simp only [ElfInfo.due, hshdrs, hentry, hshdr]
          cases hwaits : elfTableWaits offset len shdr.shOffset shdr.shSize with
          | true =>
              rw [elfLoadTableAt_wait hwaits]
              exact ⟨info, .shstrtab, .waits h (by decide) hdue hwaits⟩
          | false =>
              cases hallocate : allocate .shstrtab shdr.shSize with
              | false =>
                  rw [elfLoadTableAt_noMemory hwaits hallocate]
                  exact ⟨info, .shstrtab, .failed h _⟩
              | true =>
                  rw [elfLoadTableAt_loaded hwaits hallocate]
                  have hdone : loader ≠ .complete := fun heq => nomatch h.done heq
                  have hnext := h.setStage .complete info.shdrs
                    (some (readBytes img (shdr.shOffset - offset) (u32 shdr.shSize))) (by decide) (by decide)
                    hdone (fun heq => nomatch heq) (fun _ => .inl ⟨h.shdrs rfl, Option.some_ne_none _⟩)
                  rw [hshdrs] at hnext
                  exact ⟨_, .complete, .completes (by decide) (by decide) hnext rfl rfl⟩

theorem elfLoadShdrsAt_step (h : info.At loader .shdrs nseg) :
    ∃ info' phase', HeaderStep behind offset len info loader .shdrs nseg
      (elfLoadShdrsAt allocate img behind offset len info lastLoadState noffset nlen).1 info' loader
      phase' := by
  have hstage : info.loadState &&& ELF_STATE_WAIT_FOR_SHDRS ≠ 0 := (h.stage_bit .shdrs).mpr rfl
  have hdone : loader ≠ .complete := fun heq => nomatch h.done heq
  unfold elfLoadShdrsAt elfLoadShdrsWith
  rw [if_pos hstage]
  by_cases hnum : elfShnum info.ehdr = 0
  · rw [if_pos hnum]
    have hnext := h.setStage .complete info.shdrs info.shstrtab (by decide) (by decide) hdone
      (fun heq => nomatch heq) (fun _ => .inr hnum)
    exact ⟨_, .complete, .completes (by decide) (by decide) hnext rfl rfl⟩
  · rw [if_neg hnum, run_load_bind]
    cases hwaits : elfTableWaits offset len (elfShoff info.ehdr)
        (elfShnum info.ehdr * elfShentsize info.ehdr) with
    | true =>
        rw [elfLoadTableAt_wait hwaits]
        exact ⟨info, .shdrs, .waits h (by decide) rfl hwaits⟩
    | false =>
        cases hallocate : allocate .shdrs (elfShnum info.ehdr * elfShentsize info.ehdr) with
        | false =>
            rw [elfLoadTableAt_noMemory hwaits hallocate]
            exact ⟨info, .shdrs, .failed h _⟩
        | true =>
            rw [elfLoadTableAt_loaded hwaits hallocate]
            have hnext := h.setStage .shstrtab (some (readBytes img (elfShoff info.ehdr - offset)
                (u32 (elfShnum info.ehdr * elfShentsize info.ehdr)))) info.shstrtab (by decide) (by decide)
              hdone (fun _ => Option.some_ne_none _) (fun heq => nomatch heq)
            obtain ⟨info', phase', hstep⟩ := elfLoadShstrtabAt_step hnext
            exact ⟨info', phase', hstep.trans (by decide) (by decide) (by decide) (fun _ => rfl)
              (fun heq => nomatch heq) rfl fun _ => rfl⟩

/-- A call that finds all the headers there returns the state it was given. -/
theorem HeaderStep.complete (h : info.At loader .complete nseg)
    (hlast : lastLoadState = info.loadState) :
    HeaderStep behind offset len info loader .complete nseg
      ⟨.ok lastLoadState, some info, noffset, nlen⟩ info loader .complete where
  imgInfo := rfl
  at_stage := h
  rank := Nat.le_refl _
  same _ := rfl
  loader _ := rfl
  ready heq := .inl (h.waits.mp heq)
  ehdr := rfl
  phdrs _ := rfl
  state _ hret := (Except.ok.inj hret).symm.trans hlast
  asks _ _ hne := absurd rfl hne
  done _ _ _ hne := absurd rfl hne

theorem elfLoadPhdrsAt_step (h : info.At loader phase nseg) (hlast : lastLoadState = info.loadState) :
    ∃ info' loader' phase', HeaderStep behind offset len info loader phase nseg
      (elfLoadPhdrsAt allocate img behind offset len info lastLoadState noffset nlen).1 info' loader'
      phase' := by
  have hsame : ¬ lastLoadState ≠ info.loadState := not_not.mpr hlast
  unfold elfLoadPhdrsAt elfLoadPhdrsWith
  rw [if_neg hsame]
  have hshdrs (hne : phase ≠ .shdrs) : ¬ info.loadState &&& ELF_STATE_WAIT_FOR_SHDRS ≠ 0 :=
    fun hbit => hne ((h.stage_bit .shdrs).mp hbit)
  have hfirst (hne : phase ≠ .phdrs) : info.loadState ≠ ELF_STATE_WAIT_FOR_PHDRS := by
    intro hword
    apply hne
    apply (h.stage_bit .phdrs).mp
    rw [hword]
    decide
  cases phase with
  | phdrs =>
      obtain rfl := h.waits.mp rfl
      obtain rfl := h.first rfl
      have hstage : info.loadState = ELF_STATE_WAIT_FOR_PHDRS := h.word
      rw [if_pos hstage, run_load_bind]
      cases hwaits : elfTableWaits offset len (elfPhoff info.ehdr)
          (elfPhnum info.ehdr * elfPhentsize info.ehdr) with
      | true =>
          rw [elfLoadTableAt_wait hwaits]
          exact ⟨info, .notReady, .phdrs, .waits h (by decide) rfl hwaits⟩
      | false =>
          cases hallocate : allocate .phdrs (elfPhnum info.ehdr * elfPhentsize info.ehdr) with
          | false =>
              rw [elfLoadTableAt_noMemory hwaits hallocate]
              exact ⟨info, .notReady, .phdrs, .failed h _⟩
          | true =>
              rw [elfLoadTableAt_loaded hwaits hallocate]
              have hnext := h.stored (readBytes img (elfPhoff info.ehdr - offset)
                (u32 (elfPhnum info.ehdr * elfPhentsize info.ehdr)))
              obtain ⟨info', phase', hstep⟩ := elfLoadShdrsAt_step hnext
              exact ⟨info', .ready, phase', hstep.trans (by decide) (by decide) (by decide)
                (fun hne => absurd rfl hne) (fun _ => rfl) rfl fun hne => absurd rfl hne⟩
  | shdrs =>
      rw [if_neg (hfirst (by decide))]
      obtain ⟨info', phase', hstep⟩ := elfLoadShdrsAt_step h
      exact ⟨info', loader, phase', hstep⟩
  | shstrtab =>
      rw [if_neg (hfirst (by decide)), elfLoadShdrsWith, if_neg (hshdrs (by decide))]
      obtain ⟨info', phase', hstep⟩ := elfLoadShstrtabAt_step h
      exact ⟨info', loader, phase', hstep⟩
  | complete =>
      have hshstrtab : ¬ info.loadState &&& ELF_STATE_WAIT_FOR_SHSTRTAB ≠ 0 :=
        fun hbit => absurd ((h.stage_bit .shstrtab).mp hbit) (by decide)
      rw [if_neg (hfirst (by decide)), elfLoadShdrsWith, if_neg (hshdrs (by decide)),
        elfLoadShstrtabWith, if_neg hshstrtab]
      exact ⟨info, loader, .complete, .complete h hlast⟩

end Stages

/-! ### The header parser on what the store hands out -/

section From

variable {plat : LoadPlatform} {imgData : Option (Nat → UInt8)} {offset len state noffset nlen : Nat}
  {info : ElfInfo} {loader : LoaderPhase} {phase : HeaderPhase} {nseg : Nat} {out : HeaderOut}

theorem ElfInfo.At.ne_init (h : info.At loader phase nseg) : info.loadState ≠ ELF_STATE_INIT := by
  rw [h.word]
  exact loadWord_ne_init loader phase

theorem elfLoadHeaderFrom_at (h : info.At loader phase nseg)
    (hcall : elfLoadHeaderFrom plat imgData offset len (some info) info.loadState noffset nlen =
      some out) :
    ∃ info' loader' phase', HeaderStep (plat.behind .shdrs) offset len info loader phase nseg out info'
      loader' phase' := by
  rcases elfLoadHeaderFrom_cases hcall with ⟨hinit, -⟩ | ⟨hinit, -⟩ | ⟨hinit, -⟩ | ⟨-, img, _, ⟨⟩, rfl⟩
  · exact absurd hinit h.ne_init
  · exact absurd hinit h.ne_init
  · exact absurd hinit h.ne_init
  · exact elfLoadPhdrsAt_step h rfl

/-- The first call on a file asks for the ELF header, fails for want of memory, or goes on with a new
object. -/
theorem elfLoadHeaderFrom_init
    (hcall : elfLoadHeaderFrom plat imgData offset len none ELF_STATE_INIT noffset nlen = some out) :
    (∃ tmpsize ≤ 64, len < tmpsize ∧ out = ⟨.ok ELF_STATE_INIT, none, 0, tmpsize⟩) ∨
      (∃ status, out.ret = .error status) ∨
      ∃ ehdr info' loader' phase', HeaderStep (plat.behind .shdrs) offset len
        ⟨ehdr, ELF_STATE_WAIT_FOR_PHDRS, none, none, none⟩ .notReady .phdrs 0 out info' loader'
        phase' := by
  rcases elfLoadHeaderFrom_cases hcall with
    ⟨-, is64, hshort, rfl⟩ | ⟨-, -, rfl⟩ | ⟨-, img, ehdr, rfl⟩ | ⟨hinit, -⟩
  · have hsize : sizeofEhdr is64 ≤ 64 := by cases is64 <;> decide
    exact .inl ⟨_, hsize, hshort, rfl⟩
  · exact .inr (.inl ⟨-RPROC_ENOMEM, rfl⟩)
  · exact .inr (.inr ⟨ehdr, elfLoadPhdrsAt_step (elfHeaderCopied_at ehdr) rfl⟩)
  · exact absurd rfl hinit

end From

/-! ### A round of the header loop -/

/-- Where the loop stands at the start of a round: nothing has been parsed, or the piece at hand is the
table that the object waits for. The rank comes down with every round. -/
inductive HeadersAt (plat : LoadPlatform) : Nat → StoreHeaders → Prop where
  | opened {rank : Nat} {s : StoreHeaders} (hrank : rank = 5 + (64 - s.len)) (hinfo : s.imgInfo = none)
      (hlast : s.lastLoadState = ELF_STATE_INIT) : HeadersAt plat rank s
  | asked {rank : Nat} {s : StoreHeaders} {info : ElfInfo} {loader : LoaderPhase}
      {phase : HeaderPhase} (hrank : rank = 5 - phase.rank) (hinfo : s.imgInfo = some info)
      (hat : info.At loader phase 0)
      (hloader : loader = .notReady ∨ loader = .ready) (hlast : s.lastLoadState = info.loadState)
      (hdue : info.due (plat.behind .shdrs) phase = some (s.offset, s.len)) : HeadersAt plat rank s

/-- Blocks that the loader has allocated. -/
def Allocations (events : List LoadEvent) : Prop :=
  ∀ event ∈ events, ∃ block, event = .allocated block

theorem allocations_elfAllocated (before after : Option ElfInfo) :
    Allocations (elfAllocated before after) := by
  intro event hmem
  obtain ⟨mem, -, rfl⟩ := List.mem_map.mp hmem
  exact ⟨.loader mem, rfl⟩

/-- What a round comes to. -/
inductive HeadersRound (plat : LoadPlatform) (rank : Nat) (s : StoreHeaders) :
    StoreHeaders ⊕ (StoreHeaders × LoopExit) → Prop where
  | stuck : HeadersRound plat rank s (.inr (s, .stuck))
  | failed {s' : StoreHeaders} {blocks : List LoadEvent} {status : Int} (hstatus : status < 0)
      (hblocks : Allocations blocks) (hevents : s'.events = s.events ++ blocks) :
      HeadersRound plat rank s (.inr (s', .error status))
  | left {s' : StoreHeaders} {blocks : List LoadEvent} {info : ElfInfo} {phase : HeaderPhase}
      (hinfo : s'.imgInfo = some info) (hat : info.At .ready phase 0)
      (hlast : s'.lastLoadState = info.loadState)
      (hblocks : Allocations blocks) (hevents : s'.events = s.events ++ blocks) :
      HeadersRound plat rank s (.inr (s', .leave))
  | short {s' : StoreHeaders} {blocks : List LoadEvent} {size : Nat} {ret : Int}
      (hlt : ret < toInt32 size) (hblocks : Allocations blocks)
      (hevents : s'.events = s.events ++ blocks ++ [.header size ret]) :
      HeadersRound plat rank s (.inr (s', .error ret))
  | next {s' : StoreHeaders} {blocks : List LoadEvent} {size : Nat} {ret : Int} {rank' : Nat}
      (hle : toInt32 size ≤ ret) (hblocks : Allocations blocks)
      (hevents : s'.events = s.events ++ blocks ++ [.header size ret])
      (hrank : rank' < rank) (hnext : HeadersAt plat rank' s') :
      HeadersRound plat rank s (.inl s')

theorem elfTableWaits_self (offset len : Nat) : elfTableWaits offset len offset len = false :=
  elfTableWaits_eq_false.mpr ⟨Nat.le_refl _, Nat.le_refl _⟩

theorem HeaderPhase.rank_inj {phase phase' : HeaderPhase} (h : phase.rank = phase'.rank) :
    phase = phase' := by
  cases phase <;> cases phase' <;> first | rfl | exact nomatch h

theorem HeaderPhase.rank_bounds (phase : HeaderPhase) : 1 ≤ phase.rank ∧ phase.rank ≤ 4 := by
  cases phase <;> decide

/-- A call that is given the table it has asked for does not ask for it again, and comes to a later
stage. -/
theorem rank_lt_of_waits {behind : Nat → UInt8} {offset len noffset nlen : Nat} {info info' : ElfInfo}
    {phase phase' : HeaderPhase} (hle : phase.rank ≤ phase'.rank)
    (hsame : phase'.rank = phase.rank → info' = info)
    (hasked : info.due behind phase = some (offset, len))
    (hdue : info'.due behind phase' = some (noffset, nlen))
    (hwaits : elfTableWaits offset len noffset nlen = true) : phase.rank < phase'.rank := by
  apply Nat.lt_of_le_of_ne hle
  intro heq
  rw [hsame heq.symm, ← HeaderPhase.rank_inj heq, hasked] at hdue
  obtain ⟨hoffset, hlen⟩ := Prod.mk.inj (Option.some.inj hdue)
  rw [← hoffset, ← hlen, elfTableWaits_self] at hwaits
  exact nomatch hwaits

section Round

variable {plat : LoadPlatform} {store : StoreOps} {rank : Nat} {s : StoreHeaders} {out : HeaderOut}

/-- What is known of a call in the loop, whether it is the first one or not. -/
theorem HeadersAt.call (h : HeadersAt plat rank s)
    (hcall : elfLoadHeaderFrom plat s.imgData s.offset s.len s.imgInfo s.lastLoadState s.noffset
      s.nlen = some out) {state : Nat} (hret : out.ret = .ok state) :
    (state = ELF_STATE_INIT ∧ out.imgInfo = none ∧ 5 + (64 - out.nlen) < rank) ∨
      ∃ info loader phase, out.imgInfo = some info ∧ info.At loader phase 0 ∧
        (loader = .notReady ∨ loader = .ready) ∧ state = info.loadState ∧
        (phase = .complete → out.nlen = 0) ∧
        (phase ≠ .complete → 5 - phase.rank < rank ∧
          info.due (plat.behind .shdrs) phase = some (out.noffset, out.nlen)) := by
  cases h with
  | opened hrank hinfo hlast =>
      rw [hinfo, hlast] at hcall
      rcases elfLoadHeaderFrom_init hcall with ⟨tmpsize, hle, hlt, rfl⟩ | ⟨status, herror⟩ |
        ⟨ehdr, info, loader, phase, hstep⟩
      · exact .inl ⟨(Except.ok.inj hret).symm, rfl, by simp only []; omega⟩
      · exact nomatch hret.symm.trans herror
      · refine .inr ⟨info, loader, phase, hstep.imgInfo, hstep.at_stage, hstep.ready rfl,
          hstep.state state hret, fun heq => hstep.done state hret heq (by decide), fun hne => ?_⟩
        have hfirst : 1 ≤ phase.rank := hstep.rank
        exact ⟨by omega, (hstep.asks state hret hne).1⟩
  | @asked info loader phase hrank hinfo hat hloader hlast hdue =>
      rw [hinfo, hlast] at hcall
      obtain ⟨info', loader', phase', hstep⟩ := elfLoadHeaderFrom_at hat hcall
      have hincomplete : phase ≠ .complete := by
        rintro rfl
        exact nomatch hdue
      have hloader' : loader' = .notReady ∨ loader' = .ready := by
        by_cases hphase : phase = .phdrs
        · exact hstep.ready hphase
        · rwa [hstep.loader hphase]
      refine .inr ⟨info', loader', phase', hstep.imgInfo, hstep.at_stage, hloader',
        hstep.state state hret, fun heq => hstep.done state hret heq hincomplete, fun hne => ?_⟩
      obtain ⟨hnext, hwaits⟩ := hstep.asks state hret hne
      have hlt := rank_lt_of_waits hstep.rank hstep.same hdue hnext hwaits
      have hbounds := phase'.rank_bounds
      exact ⟨by omega, hnext⟩

theorem storeHeaders_loadHeader (vars : HeaderVars (Nat → UInt8)) (w : StoreCalls) :
    ((storeHeaders plat store).loadHeader vars).run w =
      pure (elfLoadHeaderFrom plat vars.imgData vars.offset vars.len vars.imgInfo vars.lastLoadState
          vars.noffset vars.nlen,
        ⟨w.calls, w.events ++ (elfLoadHeaderFrom plat vars.imgData vars.offset vars.len vars.imgInfo
          vars.lastLoadState vars.noffset vars.nlen).elim [] fun out =>
            elfAllocated vars.imgInfo out.imgInfo⟩) := rfl

theorem storeHeaders_load (noffset nlen : Nat) (w : StoreCalls) :
    ((storeHeaders plat store).load noffset nlen).run w =
      pure (((store.load w.calls ⟨noffset, nlen, RPROC_LOAD_ANYADDR⟩).ret,
          (store.load w.calls ⟨noffset, nlen, RPROC_LOAD_ANYADDR⟩).imgData),
        ⟨w.calls + 1, w.events ++
          [.header nlen (store.load w.calls ⟨noffset, nlen, RPROC_LOAD_ANYADDR⟩).ret]⟩) := rfl

theorem headers_round (store : StoreOps) (h : HeadersAt plat rank s) :
    HeadersRound plat rank s (s.body plat store) := by
  simp only [StoreHeaders.body, withWorld, HeaderOps.round, StateT.run_bind, storeHeaders_loadHeader,
    pure_bind]
  cases hcall : elfLoadHeaderFrom plat s.imgData s.offset s.len s.imgInfo s.lastLoadState s.noffset
      s.nlen with
  | none =>
      simp only [Option.elim, List.append_nil]
      exact .stuck
  | some out =>
      have hblocks := allocations_elfAllocated s.imgInfo out.imgInfo
      simp only [Option.elim]
      cases hret : out.ret with
      | error status => exact .failed (elfLoadHeaderFrom_negative hcall status hret) hblocks rfl
      | ok state =>
          dsimp only
          by_cases hleave : state &&& RPROC_LOADER_READY_TO_LOAD ≠ 0 ∧
              (out.nlen = 0 ∨ out.noffset > u64 (s.offset + s.len) ∧
                (storeHeaders plat store).supportSeek = false)
          · rw [if_pos hleave]
            rcases h.call hcall hret with ⟨rfl, -⟩ | ⟨info, loader, phase, hinfo, hat, -, rfl, -⟩
            · exact absurd hleave.1 (by decide)
            · obtain rfl := hat.ready_bit.mp hleave.1
              exact .left hinfo hat rfl hblocks rfl
          · rw [if_neg hleave, StateT.run_bind, storeHeaders_load, pure_bind]
            by_cases hlt : (store.load s.calls ⟨out.noffset, out.nlen, RPROC_LOAD_ANYADDR⟩).ret <
                toInt32 out.nlen
            · rw [if_pos hlt]
              exact .short hlt hblocks rfl
            · rw [if_neg hlt]
              rcases h.call hcall hret with ⟨rfl, hinfo, hrank⟩ |
                ⟨info, loader, phase, hinfo, hat, hloader, rfl, hdone, hdue⟩
              · exact .next (Int.not_lt.mp hlt) hblocks rfl hrank (.opened rfl hinfo rfl)
              · have hphase : phase ≠ .complete := by
                  rintro rfl
                  have hready : loader = .ready :=
                    hloader.resolve_left fun heq => nomatch hat.waits.mpr heq
                  exact hleave ⟨hat.ready_bit.mpr hready, .inl (hdone rfl)⟩
                obtain ⟨hrank, hdue⟩ := hdue hphase
                exact .next (Int.not_lt.mp hlt) hblocks rfl hrank
                  (.asked rfl hinfo hat hloader rfl hdue)

end Round

/-! ### A call of `elf_load` in the data loop -/

/-- An object that loads the segments of a list of program headers. -/
structure ElfInfo.Loads (plat : LoadPlatform) (segments : List Phdr) (info : ElfInfo)
    (loader : LoaderPhase) (phase : HeaderPhase) (nseg : Nat) : Prop where
  at_stage : info.At loader phase nseg
  loader : loader ≠ .notReady
  segments : plat.segments info = segments

theorem segments_congr {plat : LoadPlatform} {info info' : ElfInfo} (hehdr : info'.ehdr = info.ehdr)
    (hphdrs : info'.phdrs = info.phdrs) : plat.segments info' = plat.segments info := by
  unfold LoadPlatform.segments ElfInfo.segmentsAt ElfInfo.is64
  rw [hehdr, hphdrs]

/-- The device address that is left when no segment is found: that of the last header that was
skipped. -/
def skippedDa (phdrs : List Phdr) : Nat := phdrs.getLast?.elim RPROC_LOAD_ANYADDR Phdr.pVaddr

/-- What a call with fresh variables comes to. -/
inductive DataCall (plat : LoadPlatform) (segments : List Phdr) (offset len : Nat) (info : ElfInfo)
    (loader : LoaderPhase) (phase : HeaderPhase) (nseg : Nat) : Option LoadOut → Prop where
  | stuck (hpost : loader = .postData) : DataCall plat segments offset len info loader phase nseg none
  | failed {status : Int} {imgInfo : Option ElfInfo} {vars : LoadVars} (hpost : loader = .postData)
      (hstatus : status < 0) :
      DataCall plat segments offset len info loader phase nseg (some ⟨.error status, imgInfo, vars⟩)
  | found {info' : ElfInfo} {phdr : Phdr} {rest : List Phdr} (hready : loader = .ready)
      (hnext : nextLoads (segments.drop nseg) = phdr :: rest)
      (hloads : info'.Loads plat segments (if rest = [] then .postData else .ready) phase
        ((segments.length - rest.length) % 2 ^ 8)) :
      DataCall plat segments offset len info loader phase nseg
        (some ⟨.ok info'.loadState, some info',
          ⟨phdr.pVaddr, phdr.pOffset, phdr.pFilesz, 0, phdr.pMemsz⟩⟩)
  | left {info' : ElfInfo} {noffset : Nat} (hready : loader = .ready)
      (hnext : nextLoads (segments.drop nseg) = [])
      (hloads : info'.Loads plat segments .ready phase
        ((if nseg < segments.length then segments.length else nseg) % 2 ^ 8)) :
      DataCall plat segments offset len info loader phase nseg
        (some ⟨.ok info'.loadState, some info', ⟨skippedDa (segments.drop nseg), noffset, 0, 0, 0⟩⟩)
  | asks {info' : ElfInfo} {phase' : HeaderPhase} {noffset nlen : Nat} (hpost : loader = .postData)
      (hloads : info'.Loads plat segments .postData phase' nseg) (hrank : phase.rank ≤ phase'.rank)
      (hsame : phase'.rank = phase.rank → info' = info)
      (hdue : info'.due (plat.behind .shdrs) phase' = some (noffset, nlen))
      (hwaits : elfTableWaits offset len noffset nlen = true) :
      DataCall plat segments offset len info loader phase nseg
        (some ⟨.ok info'.loadState, some info', ⟨RPROC_LOAD_ANYADDR, noffset, nlen, 0, 0⟩⟩)
  | done {info' : ElfInfo} {noffset : Nat} (hnext : loader ≠ .ready)
      (hloads : info'.Loads plat segments .complete .complete nseg) :
      DataCall plat segments offset len info loader phase nseg
        (some ⟨.ok info'.loadState, some info', ⟨RPROC_LOAD_ANYADDR, noffset, 0, 0, 0⟩⟩)

section Data

variable {plat : LoadPlatform} {segments : List Phdr} {imgData : Option (Nat → UInt8)}
  {offset len nseg : Nat} {info : ElfInfo} {loader : LoaderPhase} {phase : HeaderPhase}

theorem ElfInfo.Loads.phase_ne (h : info.Loads plat segments loader phase nseg) : phase ≠ .phdrs :=
  fun heq => h.loader (h.at_stage.waits.mp heq)

theorem ElfInfo.Loads.length (h : info.Loads plat segments loader phase nseg) :
    segments.length = elfPhnum info.ehdr := by
  rw [← h.segments, LoadPlatform.segments, ElfInfo.segmentsAt]
  cases hphdrs : info.phdrs with
  | none => exact absurd hphdrs (h.at_stage.phdrs.mpr h.phase_ne)
  | some phdrs => simp

theorem ElfInfo.Loads.setSegment (h : info.Loads plat segments loader phase nseg) (next : Nat) :
    ElfInfo.Loads plat segments { info with
      loadState := clearBits info.loadState ELF_NEXT_SEGMENT_MASK ||| (next &&& ELF_NEXT_SEGMENT_MASK) }
      loader phase (next % 2 ^ 8) :=
  ⟨h.at_stage.setSegment next h.phase_ne, h.loader, h.segments⟩

theorem ElfInfo.Loads.setLoader (h : info.Loads plat segments loader phase nseg) (loader' : LoaderPhase)
    (hloader' : loader' ≠ .notReady) (hdone : loader' = .complete → phase = .complete) :
    ElfInfo.Loads plat segments { info with
      loadState := clearBits info.loadState RPROC_LOADER_MASK ||| loader'.bits } loader' phase nseg :=
  ⟨h.at_stage.setLoader loader' h.phase_ne hloader' hdone, hloader', h.segments⟩

theorem ElfInfo.Loads.nsegment (h : info.Loads plat segments loader phase nseg) :
    info.loadState &&& ELF_NEXT_SEGMENT_MASK = nseg := by
  rw [h.at_stage.word]
  exact loadWord_and_segment loader phase h.at_stage.seg

theorem elfLoadSegment_call (h : info.Loads plat segments .ready phase nseg) :
    DataCall plat segments offset len info .ready phase nseg
      (some (elfLoadSegment (plat.segments info) info ⟨RPROC_LOAD_ANYADDR, 0, 0, 0, 0⟩)) := by
  unfold elfLoadSegment elfNextLoadSegment
  dsimp only
  rw [h.nsegment, h.segments]
  cases hnext : nextLoads (segments.drop nseg) with
  | nil =>
      rw [nextLoad_of_nil hnext]
      cases hlast : (segments.drop nseg).getLast? with
      | none =>
          have hdrop : segments.length ≤ nseg := by
            rwa [List.getLast?_eq_none_iff, List.drop_eq_nil_iff] at hlast
          have hleft := @DataCall.left plat segments offset len info .ready phase nseg _ 0 rfl hnext
            (by rw [if_neg (Nat.not_lt.mpr hdrop)]; exact h.setSegment nseg)
          rw [skippedDa, hlast] at hleft
          exact hleft
      | some phdr =>
          have hdrop : nseg < segments.length := by
            by_contra hle
            rw [List.drop_of_length_le (Nat.not_lt.mp hle)] at hlast
            exact nomatch hlast
          have hnumber : nseg + (segments.drop nseg).length = segments.length := by
            rw [List.length_drop]
            omega
          have hleft := @DataCall.left plat segments offset len info .ready phase nseg _ phdr.pOffset rfl
            hnext (by rw [if_pos hdrop]; exact h.setSegment segments.length)
          rw [skippedDa, hlast] at hleft
          dsimp only
          rw [hnumber]
          exact hleft
  | cons phdr rest =>
      rw [nextLoad_of_cons hnext]
      have hle := (nextLoads_suffix (segments.drop nseg)).length_le
      rw [hnext, List.length_cons, List.length_drop] at hle
      have hnumber : nseg + ((segments.drop nseg).length - rest.length) =
          segments.length - rest.length := by
        rw [List.length_drop]
        omega
      dsimp only
      rw [hnumber, ← h.length, if_neg (by decide)]
      by_cases hrest : rest = []
      · have hlast : segments.length - rest.length = segments.length := by simp [hrest]
        rw [if_pos hlast]
        have hposted := h.setLoader .postData (by decide) fun heq => nomatch heq
        exact @DataCall.found plat segments offset len info .ready phase nseg _ phdr rest rfl hnext
          (by rw [if_pos hrest]; exact hposted.setSegment (segments.length - rest.length))
      · have hmore : segments.length - rest.length ≠ segments.length := by
          have hpos := List.length_pos_iff.mpr hrest
          omega
        rw [if_neg hmore]
        exact @DataCall.found plat segments offset len info .ready phase nseg _ phdr rest rfl hnext
          (by rw [if_neg hrest]; exact h.setSegment (segments.length - rest.length))

theorem ElfInfo.Loads.headersComplete (h : info.Loads plat segments loader phase nseg) :
    info.loadState &&& ELF_STATE_HDRS_COMPLETE = 0 ↔ phase ≠ .complete := by
  rw [← not_iff_not, not_not]
  exact h.at_stage.stage_bit .complete

/-- The state of a loader that has nothing more to do. -/
theorem ElfInfo.Loads.complete (h : info.Loads plat segments loader .complete nseg) :
    ElfInfo.Loads plat segments { info with
      loadState := clearBits info.loadState RPROC_LOADER_MASK ||| RPROC_LOADER_LOAD_COMPLETE }
      .complete .complete nseg :=
  h.setLoader .complete (by decide) fun _ => rfl

theorem elfLoadPost_call (h : info.Loads plat segments .postData phase nseg) :
    DataCall plat segments offset len info .postData phase nseg
      (elfLoadPostWith (elfLoadHeaderFrom plat imgData offset len) info info.loadState
        ⟨RPROC_LOAD_ANYADDR, 0, 0, 0, 0⟩) := by
  unfold elfLoadPostWith
  by_cases hphase : phase = .complete
  · subst hphase
    rw [if_neg (h.headersComplete.not.mpr (not_not.mpr rfl))]
    exact .done (by decide) h.complete
  · rw [if_pos (h.headersComplete.mpr hphase)]
    cases hcall : elfLoadHeaderFrom plat imgData offset len (some info) info.loadState 0 0 with
    | none => exact .stuck rfl
    | some out =>
        obtain ⟨info', loader', phase', hstep⟩ := elfLoadHeaderFrom_at h.at_stage hcall
        obtain rfl := hstep.loader h.phase_ne
        have hnext : info'.Loads plat segments .postData phase' nseg :=
          ⟨hstep.at_stage, by decide,
            (segments_congr hstep.ehdr (hstep.phdrs h.phase_ne)).trans h.segments⟩
        obtain ⟨ret, imgInfo, noffset, nlen⟩ := out
        obtain rfl : imgInfo = some info' := hstep.imgInfo
        cases ret with
        | error status => exact .failed rfl (elfLoadHeaderFrom_negative hcall status rfl)
        | ok state =>
            obtain rfl := hstep.state state rfl
            by_cases hdone : phase' = .complete
            · subst hdone
              have hcomplete := hnext.headersComplete.not.mpr (not_not.mpr rfl)
              dsimp only [bind, Option.bind, liftM, monadLift_self]
              rw [if_pos hcomplete]
              exact .done (by decide) hnext.complete
            · have hmore := hnext.headersComplete.mpr hdone
              obtain ⟨hdue, hwaits⟩ := hstep.asks _ rfl hdone
              dsimp only [bind, Option.bind, liftM, monadLift_self]
              rw [if_neg (not_not.mpr hmore)]
              exact .asks rfl hnext hstep.rank hstep.same hdue hwaits

theorem LoaderPhase.bits_eq_notReady {loader : LoaderPhase} :
    loader.bits = RPROC_LOADER_NOT_READY ↔ loader = .notReady := by
  cases loader <;> decide

/-- A call on an object that has its program headers. -/
theorem elfLoadFrom_call (h : info.Loads plat segments loader phase nseg) :
    DataCall plat segments offset len info loader phase nseg
      (elfLoadFrom plat imgData offset len (some info) info.loadState
        ⟨RPROC_LOAD_ANYADDR, 0, 0, 0, 0⟩) := by
  have hwaits : info.loadState &&& RPROC_LOADER_MASK ≠ RPROC_LOADER_NOT_READY := by
    rw [h.at_stage.word, loadWord_and_mask loader phase h.at_stage.seg]
    exact fun heq => h.loader (LoaderPhase.bits_eq_notReady.mp heq)
  rw [elfLoadFrom, elfLoadWith, if_neg hwaits]
  dsimp only [bind, Option.bind, liftM, monadLift_self]
  unfold elfLoadDataWith
  cases loader with
  | notReady => exact absurd rfl h.loader
  | ready =>
      rw [if_pos (h.at_stage.ready_bit.mpr rfl)]
      exact elfLoadSegment_call h
  | postData =>
      have hready : ¬ info.loadState &&& RPROC_LOADER_READY_TO_LOAD ≠ 0 :=
        fun hbit => LoaderPhase.noConfusion (h.at_stage.ready_bit.mp hbit)
      rw [if_neg hready, if_pos (h.at_stage.post_bit.mpr rfl)]
      exact elfLoadPost_call h
  | complete =>
      have hready : ¬ info.loadState &&& RPROC_LOADER_READY_TO_LOAD ≠ 0 :=
        fun hbit => LoaderPhase.noConfusion (h.at_stage.ready_bit.mp hbit)
      have hpost : ¬ info.loadState &&& RPROC_LOADER_POST_DATA_LOAD ≠ 0 :=
        fun hbit => LoaderPhase.noConfusion (h.at_stage.post_bit.mp hbit)
      obtain rfl := h.at_stage.done rfl
      rw [if_neg hready, if_neg hpost]
      exact .done (by decide) h

end Data

end OpenAmp
