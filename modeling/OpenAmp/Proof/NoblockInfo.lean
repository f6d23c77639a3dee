import OpenAmp.NoblockInfo
import OpenAmp.Proof.LoadErrors

/-!
# Released image information

A call that gives up releases the image information and leaves the variable as it is. The variable
holds a released object from the first such call on that has found it set, and the next call that looks
at it uses that object.
-/

namespace OpenAmp

open ByteMemory

variable {call : NoblockCall} {imgInfo : Option ElfInfo} {r : StreamResult} {s s' : InfoSystem}

/-! ### One call -/

theorem run_of_not_looks (hlooks : ¬ call.Looks) :
    call.run imgInfo = some ⟨-RPROC_EINVAL, false, imgInfo, call.vars, call.proc⟩ := by
  unfold NoblockCall.run remoteprocLoadNoblockAny remoteprocLoadNoblockBefore
  by_cases hstate : call.proc.state = .ready
  · rw [if_neg (not_not_intro hstate), if_pos]
    · rfl
    · have hloader := not_and.mp hlooks hstate
      grind
  · rw [if_pos hstate]
    rfl

theorem run_of_looks (hlooks : call.Looks) :
    call.run imgInfo =
      (StreamCall.before call.plat call.imgData call.offset call.len
        ⟨imgInfo, imgInfo.elim 0 elfGetLoadState, { call.vars with nlen := 0 },
          { call.proc with loader := true }⟩).map
        (Sum.elim id fun s => s.finish call.plat call.blockRead) := by
  unfold NoblockCall.run remoteprocLoadNoblockAny remoteprocLoadNoblockBefore
  rw [if_neg (not_not_intro hlooks.1), if_neg]
  · generalize StreamCall.before _ _ _ _ _ = result
    rcases result with _ | (_ | _) <;> rfl
  · have hloader := hlooks.2
    grind

/-- Where a call stops, or goes on, image information is there or not. -/
def InfoIsSome (some : Bool) : StreamResult ⊕ StreamCall → Prop
  | .inl r => r.gaveUp = false → r.imgInfo.isSome = some
  | .inr s => s.imgInfo.isSome = some

section Stages

variable {plat : LoadPlatform} {blockRead : IoRegion → Nat → Nat → Int × List UInt8}
  {imgData : Option (Nat → UInt8)} {offset len : Nat} {s : StreamCall}
  {result : StreamResult ⊕ StreamCall}

/-- `limg_info` after `load_header`. -/
def headerInfo (plat : LoadPlatform) (imgData : Option (Nat → UInt8)) (offset len noffset : Nat)
    (imgInfo : Option ElfInfo) : Bool :=
  imgInfo.isSome || (elfLoadHeaderFrom plat imgData offset len none ELF_STATE_INIT noffset 0).any
    fun out => out.imgInfo.isSome

theorem loadHeader_isSome (hnone : s.imgInfo = none → s.lastLoadState = 0) (hnlen : s.vars.nlen = 0)
    (h : s.loadHeader plat imgData offset len = some result) :
    InfoIsSome (headerInfo plat imgData offset len s.vars.noffset s.imgInfo) result := by
  unfold StreamCall.loadHeader at h
  split_ifs at h with hstate
  · obtain ⟨out, hcall, hout⟩ := Option.bind_eq_some_iff.mp h
    have hinfo : out.imgInfo.isSome =
        headerInfo plat imgData offset len s.vars.noffset s.imgInfo := by
      unfold headerInfo
      cases himg : s.imgInfo with
      | none =>
          rw [himg, hnone himg, hnlen] at hcall
          rw [show ELF_STATE_INIT = 0 from rfl, hcall]
          rfl
      | some info =>
          rw [himg] at hcall
          rw [elfLoadHeaderFrom_isSome hcall]
          rfl
    dsimp only at hout
    split at hout
    · obtain rfl := Option.some.inj hout
      exact nofun
    · split_ifs at hout
      · obtain rfl := Option.some.inj hout
        exact fun _ => hinfo
      · obtain rfl := Option.some.inj hout
        exact hinfo
  · obtain rfl := Option.some.inj h
    cases himg : s.imgInfo with
    | none =>
        rw [hnone himg] at hstate
        exact absurd (by decide) hstate
    | some info =>
        change s.imgInfo.isSome = _
        rw [himg]
        rfl

theorem loader_of_ready (state : Nat) (h : state &&& RPROC_LOADER_READY_TO_LOAD ≠ 0 ∨
    state &&& RPROC_LOADER_POST_DATA_LOAD ≠ 0) :
    state &&& RPROC_LOADER_MASK ≠ RPROC_LOADER_NOT_READY := by
  intro hmask
  have hbits (bits : Nat) (hsub : RPROC_LOADER_MASK &&& bits = bits) : state &&& bits = 0 := by
    rw [← hsub, ← Nat.and_assoc, hmask]
    exact Nat.zero_and bits
  rcases h with hready | hpost
  · exact hready (hbits _ rfl)
  · exact hpost (hbits _ rfl)

theorem loadData_isSome (h : s.loadData plat imgData offset len = some result) :
    InfoIsSome s.imgInfo.isSome result := by
  unfold StreamCall.loadData at h
  split_ifs at h with hstate
  · obtain ⟨out, hcall, hout⟩ := Option.bind_eq_some_iff.mp h
    unfold elfLoadFrom elfLoadWith at hcall
    rw [if_neg (loader_of_ready _ hstate)] at hcall
    obtain ⟨info, hinfo, hdata⟩ := Option.bind_eq_some_iff.mp hcall
    have himg : s.imgInfo = some info := hinfo
    dsimp only at hout
    split at hout
    · obtain rfl := Option.some.inj hout
      exact nofun
    · next state hret =>
        generalize hmapped : (if out.vars.da ≠ RPROC_LOAD_ANYADDR then (_ : StreamCall) else _) = mapped
          at hout
        have hinfo : mapped.imgInfo.isSome = s.imgInfo.isSome := by
          rw [← hmapped, himg]
          split_ifs <;> exact (elfLoadDataWith_proper hdata).2
        split_ifs at hout
        · obtain rfl := Option.some.inj hout
          exact nofun
        · obtain rfl := Option.some.inj hout
          exact fun _ => hinfo
        · obtain rfl := Option.some.inj hout
          exact hinfo
  · obtain rfl := Option.some.inj h
    rfl

theorem finish_isSome (hkept : (s.finish plat blockRead).gaveUp = false) :
    (s.finish plat blockRead).imgInfo.isSome = s.imgInfo.isSome := by
  unfold StreamCall.finish at hkept ⊢
  by_cases hcomplete : s.lastLoadState &&& RPROC_LOADER_LOAD_COMPLETE ≠ 0
  · rw [if_pos hcomplete] at hkept ⊢
    dsimp only at hkept ⊢
    cases hlocated : s.imgInfo.bind (locatedRscTableAt plat) with
    | none => rfl
    | some shdr =>
        rw [hlocated] at hkept
        dsimp only at hkept ⊢
        split at hkept <;> rename_i hmemory
        · exact nomatch hkept
        · rw [if_neg hmemory]
          cases hio : (remoteprocMmapAny plat shdr.shAddr shdr.shSize s.vars.io).io with
          | none =>
              rw [hio] at hkept
              exact nomatch hkept
          | some io =>
              rw [hio] at hkept
              dsimp only at hkept ⊢
              split_ifs at hkept ⊢ <;> first
                | rfl
                | exact nomatch hkept
  · rw [if_neg hcomplete]
    rfl

end Stages

/-- Where the call does not give up, `limg_info` is what it stores in the variable. -/
theorem holdsInfo_eq (hrun : call.run imgInfo = some r) (hkept : r.gaveUp = false) :
    r.imgInfo.isSome = call.holdsInfo imgInfo := by
  unfold NoblockCall.holdsInfo
  by_cases hlooks : call.Looks
  · rw [run_of_looks hlooks] at hrun
    obtain ⟨result, hbefore, rfl⟩ := Option.map_eq_some_iff.mp hrun
    obtain ⟨first, hheader, hresult⟩ := Option.bind_eq_some_iff.mp hbefore
    have hfirst := loadHeader_isSome (by rintro rfl; rfl) rfl hheader
    rw [decide_eq_true hlooks, Bool.true_and]
    cases first with
    | inl r =>
        obtain rfl := Option.some.inj hresult
        exact hfirst hkept
    | inr s =>
        have hsecond := loadData_isSome hresult
        cases result with
        | inl r => exact (hsecond hkept).trans hfirst
        | inr s' => exact ((finish_isSome hkept).trans hsecond).trans hfirst
  · obtain rfl := Option.some.inj ((run_of_not_looks hlooks).symm.trans hrun)
    rw [decide_eq_false hlooks, Bool.false_and, Bool.or_false]

/-! ### The objects -/

/-- Only objects of earlier calls are released, and the one that the variable points at has been released
if a call that had found it there gave up. -/
structure InfoInv (s : InfoSystem) : Prop where
  released_lt : ∀ object ∈ s.released, object < s.calls.length
  object_lt : ∀ object info, s.imgInfo = some (object, info) → object < s.calls.length
  dangling : ∀ object info, s.imgInfo = some (object, info) →
    (object ∈ s.released ↔ (true, true) ∈ s.calls)
  null : s.imgInfo = none → (true, true) ∉ s.calls

theorem infoInv_start : InfoInv .start where
  released_lt := nofun
  object_lt := nofun
  dangling := nofun
  null := nofun

theorem releases_of_kept (hrun : call.run (s.imgInfo.map Prod.snd) = some r)
    (hkept : r.gaveUp = false) : s.releases call = [] := by
  unfold InfoSystem.releases
  rw [hrun, Option.any_some, hkept, if_neg (fun h => nomatch h.1)]

theorem releases_of_set {object : Nat} {info : ElfInfo} (hset : s.imgInfo = some (object, info))
    (hrun : call.run (s.imgInfo.map Prod.snd) = some r) (hgave : r.gaveUp = true) :
    s.releases call = [object] := by
  unfold InfoSystem.releases
  have hholds : call.holdsInfo (s.imgInfo.map Prod.snd) = true := by
    rw [hset]
    rfl
  rw [hrun, Option.any_some, hgave, if_pos ⟨rfl, hholds⟩]
  unfold InfoSystem.object
  rw [hset]
  rfl

theorem mem_releases {object : Nat} (h : object ∈ s.releases call) : object = s.object := by
  unfold InfoSystem.releases at h
  split_ifs at h
  · exact List.mem_singleton.mp h
  · exact nomatch h

theorem InfoInv.object_le (h : InfoInv s) : s.object ≤ s.calls.length := by
  unfold InfoSystem.object
  cases hset : s.imgInfo with
  | none => exact Nat.le_refl _
  | some entry => exact Nat.le_of_lt (h.object_lt entry.1 entry.2 hset)

theorem InfoInv.step (h : InfoInv s) (hstep : s.step call = some s') : InfoInv s' := by
  obtain ⟨r, hrun, hs'⟩ := Option.bind_eq_some_iff.mp hstep
  obtain rfl := Option.some.inj hs'
  have hlt : ∀ object ∈ s.releases call ++ s.released, object < s.calls.length + 1 := by
    intro object hmem
    rcases List.mem_append.mp hmem with hmem | hmem
    · rw [mem_releases hmem]
      exact Nat.lt_succ_of_le h.object_le
    · exact Nat.lt_succ_of_lt (h.released_lt object hmem)
  cases hgave : r.gaveUp with
  | true =>
      refine ⟨hlt, fun object info hset => ?_, fun object info hset => ?_, fun hnull => ?_⟩
      · exact Nat.lt_succ_of_lt (h.object_lt object info hset)
      · have hset : s.imgInfo = some (object, info) := hset
        dsimp only
        rw [releases_of_set hset hrun hgave, hset]
        exact iff_of_true List.mem_cons_self List.mem_cons_self
      · have hnull : s.imgInfo = none := hnull
        rw [hnull]
        exact List.not_mem_cons_of_ne_of_not_mem (by decide) (h.null hnull)
  | false =>
      have hcalls : (true, true) ∈ (s.imgInfo.isSome, false) :: s.calls ↔ (true, true) ∈ s.calls :=
        List.mem_cons.trans (or_iff_right (by simp))
      have hsome := holdsInfo_eq hrun hgave
      refine ⟨hlt, fun object info hset => ?_, fun object info hset => ?_, fun hnull => ?_⟩
      · obtain ⟨info, -, hentry⟩ := Option.map_eq_some_iff.mp hset
        rw [← (Prod.mk.inj hentry).1]
        exact Nat.lt_succ_of_le h.object_le
      · obtain ⟨info, -, hentry⟩ := Option.map_eq_some_iff.mp hset
        rw [← (Prod.mk.inj hentry).1]
        dsimp only
        rw [hcalls, releases_of_kept hrun hgave, List.nil_append]
        unfold InfoSystem.object
        cases hold : s.imgInfo with
        | none =>
            refine iff_of_false (fun hmem => ?_) (h.null hold)
            exact Nat.lt_irrefl _ (h.released_lt _ hmem)
        | some entry => exact h.dangling entry.1 entry.2 hold
      · dsimp only
        rw [hcalls]
        refine h.null ?_
        have hnone : r.imgInfo = none := Option.map_eq_none_iff.mp hnull
        rw [hnone] at hsome
        cases hold : s.imgInfo with
        | none => rfl
        | some entry =>
            rw [hold] at hsome
            exact nomatch hsome

theorem InfoInv.noReuse_iff (h : InfoInv s) (call : NoblockCall) :
    s.NoReuse call ↔ s.Unfailed call := by
  unfold InfoSystem.NoReuse InfoSystem.Unfailed InfoSystem.reads
  by_cases hlooks : call.Looks
  · rw [if_pos hlooks, forall_prop_of_true hlooks]
    have hreleases : ∀ object ∈ s.releases call, object = s.object := fun _ => mem_releases
    unfold InfoSystem.object at hreleases
    cases hset : s.imgInfo with
    | none =>
        rw [hset] at hreleases
        refine iff_of_true (fun object hmem hreleased => ?_) (h.null hset)
        rw [hreleases object hmem] at hreleased
        exact Nat.lt_irrefl _ (h.released_lt _ hreleased)
    | some entry =>
        rw [hset] at hreleases
        rw [← h.dangling entry.1 entry.2 hset]
        constructor
        · intro hunused
          exact hunused entry.1 List.mem_cons_self
        · intro hunused object hmem
          rcases List.mem_cons.mp hmem with rfl | hmem
          · exact hunused
          · rwa [hreleases object hmem]
  · rw [if_neg hlooks, releases_of_kept (run_of_not_looks hlooks) rfl]
    exact iff_of_true nofun fun hlooks' => absurd hlooks' hlooks

/-- Along every sequence of calls from a variable that is NULL, no call uses an object that an earlier
call has released, as long as none looks at the variable after a call that has found it set has
failed. -/
theorem released_info_unused_iff (calls : List NoblockCall) :
    Run.Along InfoSystem.step InfoSystem.NoReuse .start calls ↔
      Run.Along InfoSystem.step InfoSystem.Unfailed .start calls :=
  Run.along_iff (P := InfoInv) (fun _ call h => h.noReuse_iff call)
    (fun _ _ _ h _ hstep => h.step hstep) infoInv_start

/-- A chunk of `loadableFile` on a platform that has no memory left for some of the tables. -/
def loadableChunk (allocate : ElfMem → Nat → Bool) (offset len : Nat) : NoblockCall where
  plat := { mappingPlatform with allocate }
  blockRead _ _ _ := (0, [])
  imgData := some (blockMem (loadableFile.drop offset) fun _ => 0)
  offset
  len
  vars := ⟨0, none, 0, 0, 0, 0⟩
  proc := { readyProc with loader := true }

/-- The ELF header arrives, there is no memory for the program headers, and the caller tries again. -/
def retriedCalls : List NoblockCall :=
  [loadableChunk (fun _ _ => true) 0 64, loadableChunk (fun mem _ => mem ≠ .phdrs) 64 56]

theorem retried_call_reuses :
    (Run.exec InfoSystem.step .start retriedCalls).map
      (fun s => decide (s.NoReuse (loadableChunk (fun _ _ => true) 64 56))) = some false := by
  decide +kernel

/-- The third call reads the image information that the second one has released. -/
theorem released_info_reused :
    ¬ ∀ calls, Run.Along InfoSystem.step InfoSystem.NoReuse .start calls := by
  intro hunused
  obtain ⟨s, hexec, hreused⟩ := Option.map_eq_some_iff.mp retried_call_reuses
  have hunused := hunused (retriedCalls ++ [loadableChunk (fun _ _ => true) 64 56])
  exact of_decide_eq_false hreused (hunused.holds_of_exec hexec)

end OpenAmp
