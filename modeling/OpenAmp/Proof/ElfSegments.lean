import Mathlib.Data.List.Basic
import Mathlib.Data.List.TakeWhile
import OpenAmp.Proof.ElfHeader

/-!
# Going through the program headers

What a call of `elf_load` does in each phase of the loader. The program headers that are left are a
suffix of the table, and its length is all that the load state keeps of it.
-/

namespace OpenAmp

open ByteMemory Slice

/-- Headers up to the first one that is loaded. -/
def nextLoads (phdrs : List Phdr) : List Phdr := phdrs.dropWhile fun phdr => phdr.pType ≠ PT_LOAD

def loads (phdrs : List Phdr) : List Phdr := phdrs.filter fun phdr => phdr.pType = PT_LOAD

section List

variable {phdr : Phdr} {phdrs rest : List Phdr}

theorem nextLoads_cons_of_load (h : phdr.pType = PT_LOAD) :
    nextLoads (phdr :: phdrs) = phdr :: phdrs := by
  simp [nextLoads, h]

theorem nextLoads_cons_of_skip (h : phdr.pType ≠ PT_LOAD) :
    nextLoads (phdr :: phdrs) = nextLoads phdrs := by
  simp [nextLoads, h]

theorem nextLoads_suffix (phdrs : List Phdr) : nextLoads phdrs <:+ phdrs :=
  List.dropWhile_suffix _

theorem loads_nextLoads (phdrs : List Phdr) : loads (nextLoads phdrs) = loads phdrs := by
  induction phdrs with
  | nil => rfl
  | cons phdr phdrs ih =>
      by_cases hload : phdr.pType = PT_LOAD
      · rw [nextLoads_cons_of_load hload]
      · rw [nextLoads_cons_of_skip hload, ih]
        simp [loads, hload]

theorem pType_of_nextLoads (h : nextLoads phdrs = phdr :: rest) : phdr.pType = PT_LOAD := by
  induction phdrs with
  | nil => exact absurd h nofun
  | cons first phdrs ih =>
      by_cases hload : first.pType = PT_LOAD
      · rw [nextLoads_cons_of_load hload] at h
        rwa [← (List.cons.inj h).1]
      · rw [nextLoads_cons_of_skip hload] at h
        exact ih h

theorem mem_of_nextLoads (h : nextLoads phdrs = phdr :: rest) : phdr ∈ loads phdrs := by
  have hmem : phdr ∈ nextLoads phdrs := by
    rw [h]
    exact List.mem_cons_self
  exact List.mem_filter.mpr
    ⟨(nextLoads_suffix phdrs).mem hmem, decide_eq_true (pType_of_nextLoads h)⟩

theorem mem_of_nextLoads_drop {n : Nat} (h : nextLoads (phdrs.drop n) = phdr :: rest) :
    phdr ∈ loads phdrs := by
  have hin := mem_of_nextLoads h
  rw [loads, List.mem_filter] at hin ⊢
  exact ⟨List.mem_of_mem_drop hin.1, hin.2⟩

theorem suffix_of_nextLoads {n : Nat} (h : nextLoads (phdrs.drop n) = phdr :: rest) :
    phdr :: rest <:+ phdrs := by
  rw [← h]
  exact (nextLoads_suffix _).trans (List.drop_suffix _ _)

theorem drop_length_of_nextLoads {n : Nat} (h : nextLoads (phdrs.drop n) = phdr :: rest) :
    phdrs.drop (phdrs.length - rest.length) = rest :=
  (List.suffix_iff_eq_drop.mp ((List.suffix_cons phdr rest).trans (suffix_of_nextLoads h))).symm

/-- The place of the next segment. -/
theorem nextLoads_split {n : Nat} (h : nextLoads (phdrs.drop n) = phdr :: rest) :
    ∃ skipped, phdrs = phdrs.take n ++ skipped ++ phdr :: rest ∧
      ∀ e ∈ skipped, e.pType ≠ PT_LOAD := by
  refine ⟨(phdrs.drop n).takeWhile fun phdr => phdr.pType ≠ PT_LOAD, ?_, ?_⟩
  · rw [← h, List.append_assoc, nextLoads, List.takeWhile_append_dropWhile, List.take_append_drop]
  · intro e hmem
    have htype := List.mem_takeWhile_imp hmem
    exact of_decide_eq_true htype

theorem length_of_nextLoads {n : Nat} (h : nextLoads (phdrs.drop n) = phdr :: rest) :
    n < phdrs.length - rest.length := by
  have hle := (nextLoads_suffix (phdrs.drop n)).length_le
  rw [h, List.length_cons, List.length_drop] at hle
  omega

/-- The headers up to the next segment. -/
theorem take_of_nextLoads {n : Nat} (h : nextLoads (phdrs.drop n) = phdr :: rest) :
    ∃ skipped, phdrs.take (phdrs.length - rest.length) = phdrs.take n ++ skipped ++ [phdr] ∧
      ∀ e ∈ skipped, e.pType ≠ PT_LOAD := by
  obtain ⟨skipped, hsplit, hskipped⟩ := nextLoads_split h
  refine ⟨skipped, ?_, hskipped⟩
  generalize phdrs.take n = before at hsplit ⊢
  rw [List.append_cons] at hsplit
  rw [hsplit]
  apply List.take_left'
  rw [@List.length_append _ _ rest, Nat.add_sub_cancel]

theorem nextLoads_eq_nil : nextLoads phdrs = [] ↔ ∀ e ∈ phdrs, e.pType ≠ PT_LOAD := by
  simp [nextLoads, List.dropWhile_eq_nil_iff]

theorem getLast?_of_nextLoads (h : nextLoads phdrs = phdr :: rest) :
    phdrs.getLast? = (phdr :: rest).getLast? := by
  obtain ⟨skipped, hskipped⟩ := nextLoads_suffix phdrs
  rw [← hskipped, h]
  exact List.getLast?_append_cons skipped phdr rest

theorem loads_of_nextLoads (h : nextLoads phdrs = phdr :: rest) :
    loads phdrs = phdr :: loads rest := by
  have hload := pType_of_nextLoads h
  rw [← loads_nextLoads, h]
  simp [loads, hload]

theorem nextLoad_of_cons (h : nextLoads phdrs = phdr :: rest) (next : NextSegment) :
    nextLoad phdrs next = (true, ⟨next.nseg + (phdrs.length - rest.length), phdr.pVaddr,
      phdr.pOffset, phdr.pFilesz, phdr.pMemsz⟩) := by
  induction phdrs generalizing next with
  | nil => exact absurd h nofun
  | cons first phdrs ih =>
      by_cases hload : first.pType = PT_LOAD
      · rw [nextLoads_cons_of_load hload] at h
        obtain ⟨rfl, rfl⟩ := List.cons.inj h
        rw [nextLoad]
        simp only [hload, if_true, List.length_cons]
        congr 2
        omega
      · rw [nextLoads_cons_of_skip hload] at h
        have hle := (nextLoads_suffix phdrs).length_le
        rw [h, List.length_cons] at hle
        rw [nextLoad]
        simp only [hload, if_false]
        rw [ih h, List.length_cons]
        congr 2
        simp only
        omega

/-- If there is no segment left, the variables are those of the last header. -/
theorem nextLoad_of_nil (h : nextLoads phdrs = []) (next : NextSegment) :
    nextLoad phdrs next = (false,
      match phdrs.getLast? with
      | none => next
      | some phdr => ⟨next.nseg + phdrs.length, phdr.pVaddr, phdr.pOffset, phdr.pFilesz,
          phdr.pMemsz⟩) := by
  induction phdrs generalizing next with
  | nil => rfl
  | cons first phdrs ih =>
      by_cases hload : first.pType = PT_LOAD
      · rw [nextLoads_cons_of_load hload] at h
        exact absurd h nofun
      · rw [nextLoads_cons_of_skip hload] at h
        rw [nextLoad]
        simp only [hload, if_false]
        rw [ih h]
        cases phdrs with
        | nil => rfl
        | cons second phdrs =>
            rw [List.getLast?_cons_cons]
            cases hlast : (second :: phdrs).getLast? with
            | none => simp at hlast
            | some phdr =>
                simp only [List.length_cons]
                congr 2
                omega

end List

/-! ### The calls of the loader -/

namespace ElfImage

/-- The program headers, as the file has them. -/
def phdrs (image : ElfImage) : List Phdr :=
  (List.range (elfPhnum image.bytes)).map fun index =>
    elfParseSegment image.is64
      (slice image.bytes (elfPhoff image.bytes + index * sizeofPhdr image.is64)
        (sizeofPhdr image.is64))

theorem field_lt (bytes : List UInt8) (offset width : Nat) :
    field bytes offset width < 256 ^ width := by
  have hlt := leValue_lt (slice bytes offset width)
  have hlength : (slice bytes offset width).length ≤ width := List.length_take_le _ _
  exact Nat.lt_of_lt_of_le hlt (Nat.pow_le_pow_right (by decide) hlength)

@[simp] theorem length_phdrs (image : ElfImage) : image.phdrs.length = elfPhnum image.bytes := by
  simp [phdrs]

theorem segments_infoAt (image : ElfImage) {phase : HeaderPhase} (hphase : phase ≠ .phdrs)
    (loadState : Nat) : (image.infoAt phase loadState).segments = image.phdrs := by
  have hclass : (image.infoAt phase loadState).is64 = image.is64 := image.elfIs64_ehdr
  have hnum : elfPhnum (image.infoAt phase loadState).ehdr = elfPhnum image.bytes :=
    image.elfPhnum_ehdr
  have hphdrs : (image.infoAt phase loadState).phdrs = some (image.table .phdrs) := by
    simp [infoAt, hphase]
  unfold ElfInfo.segments phdrs
  rw [hphdrs, hclass, hnum]
  refine List.map_congr_left fun index hindex => ?_
  have hlt := List.mem_range.mp hindex
  have hinside : index * sizeofPhdr image.is64 + sizeofPhdr image.is64 ≤
      elfPhnum image.bytes * sizeofPhdr image.is64 := by
    rw [← Nat.succ_mul]
    exact Nat.mul_le_mul_right _ hlt
  rw [table, pending, slice_slice hinside]

section Calls

variable {image : ElfImage} {imgData : Option (List UInt8)} {offset len : Nat} {phase : HeaderPhase}
  {nseg : Nat} (vars : LoadVars)

/-- In any phase but the first, the headers are not looked at first. -/
theorem elfLoad_eq (loader : LoaderPhase) (hloader : loader ≠ .notReady) (hseg : nseg < 2 ^ 8) :
    elfLoad (fun _ => true) imgData offset len
        (some (image.infoAt phase (loadWord loader phase nseg))) (loadWord loader phase nseg) vars =
      elfLoadData (fun _ => true) imgData offset len
        (image.infoAt phase (loadWord loader phase nseg)) (loadWord loader phase nseg) vars := by
  have hready : ¬ loadWord loader phase nseg &&& RPROC_LOADER_MASK = RPROC_LOADER_NOT_READY := by
    rw [loadWord_and_mask loader phase hseg]
    cases loader with
    | notReady => exact absurd rfl hloader
    | ready => decide
    | postData => decide
    | complete => decide
  rw [elfLoad, elfLoadWith, if_neg hready]
  rfl

/-- The state after the segment before `rest`. -/
def wordBefore (image : ElfImage) (phase : HeaderPhase) (rest : List Phdr) : Nat :=
  loadWord (if rest = [] then .postData else .ready) phase (elfPhnum image.bytes - rest.length)

theorem elfLoad_found (imgData : Option (List UInt8)) (offset len : Nat) (vars : LoadVars)
    {phdr : Phdr} {rest : List Phdr} (hphase : phase ≠ .phdrs)
    (hnum : elfPhnum image.bytes < 2 ^ 8) (hnseg : nseg ≤ elfPhnum image.bytes)
    (hnext : nextLoads (image.phdrs.drop nseg) = phdr :: rest) :
    elfLoad (fun _ => true) imgData offset len
        (some (image.infoAt phase (loadWord .ready phase nseg))) (loadWord .ready phase nseg) vars =
      some ⟨.ok (image.wordBefore phase rest),
        some (image.infoAt phase (image.wordBefore phase rest)),
        ⟨phdr.pVaddr, phdr.pOffset, phdr.pFilesz, 0, phdr.pMemsz⟩⟩ := by
  have hseg : nseg < 2 ^ 8 := by omega
  have hready : (image.infoAt phase (loadWord .ready phase nseg)).loadState &&&
      RPROC_LOADER_READY_TO_LOAD ≠ 0 :=
    (loader_bit .ready .ready phase nofun hseg).mpr rfl
  have hsegments := image.segments_infoAt hphase (loadWord .ready phase nseg)
  have hnumber : elfPhnum (image.infoAt phase (loadWord .ready phase nseg)).ehdr =
    elfPhnum image.bytes := image.elfPhnum_ehdr
  have hle := (nextLoads_suffix (image.phdrs.drop nseg)).length_le
  rw [hnext, List.length_cons, List.length_drop, length_phdrs] at hle
  have hnextSeg : nseg + ((image.phdrs.drop nseg).length - rest.length) =
      elfPhnum image.bytes - rest.length := by
    rw [List.length_drop, length_phdrs]
    omega
  rw [elfLoad_eq vars .ready nofun hseg, elfLoadData, elfLoadDataWith, if_pos hready, hsegments,
    elfLoadSegment, elfNextLoadSegment]
  have hword : (image.infoAt phase (loadWord .ready phase nseg)).loadState =
    loadWord .ready phase nseg := rfl
  rw [hword, loadWord_and_segment .ready phase hseg, nextLoad_of_cons hnext]
  simp only [hnextSeg, hnumber, Bool.not_true, Bool.false_eq_true, if_false]
  have hlast : elfPhnum image.bytes - rest.length = elfPhnum image.bytes ↔ rest = [] := by
    rw [← List.length_eq_zero_iff]
    omega
  have hstate : clearBits (if elfPhnum image.bytes - rest.length = elfPhnum image.bytes then
        clearBits (loadWord .ready phase nseg) RPROC_LOADER_MASK ||| RPROC_LOADER_POST_DATA_LOAD
      else loadWord .ready phase nseg) ELF_NEXT_SEGMENT_MASK |||
        (elfPhnum image.bytes - rest.length &&& ELF_NEXT_SEGMENT_MASK) =
      image.wordBefore phase rest := by
    have hpost := loadWord_setLoader .ready .postData phase hseg
    unfold wordBefore
    by_cases hrest : rest = []
    · rw [if_pos (hlast.mpr hrest), if_pos hrest]
      change clearBits (clearBits _ _ ||| LoaderPhase.postData.bits) _ ||| _ = _
      rw [hpost, loadWord_setSegment .postData phase hseg (by omega)]
    · rw [if_neg (mt hlast.mp hrest), if_neg hrest,
        loadWord_setSegment .ready phase hseg (by omega)]
  rw [hstate]
  rfl

/-- Without a segment left, the address and the offset of the last header are what is left behind. -/
def leftVars (phdrs : List Phdr) (vars : LoadVars) : LoadVars :=
  match phdrs.getLast? with
  | none => { vars with padding := 0 }
  | some phdr => { vars with da := phdr.pVaddr, noffset := phdr.pOffset, padding := 0 }

theorem elfLoad_none (imgData : Option (List UInt8)) (offset len : Nat) (vars : LoadVars)
    (hphase : phase ≠ .phdrs) (hnum : elfPhnum image.bytes < 2 ^ 8)
    (hnseg : nseg ≤ elfPhnum image.bytes) (hnext : nextLoads (image.phdrs.drop nseg) = []) :
    elfLoad (fun _ => true) imgData offset len
        (some (image.infoAt phase (loadWord .ready phase nseg))) (loadWord .ready phase nseg) vars =
      some ⟨.ok (loadWord .ready phase (elfPhnum image.bytes)),
        some (image.infoAt phase (loadWord .ready phase (elfPhnum image.bytes))),
        leftVars (image.phdrs.drop nseg) vars⟩ := by
  have hseg : nseg < 2 ^ 8 := by omega
  have hready : (image.infoAt phase (loadWord .ready phase nseg)).loadState &&&
      RPROC_LOADER_READY_TO_LOAD ≠ 0 :=
    (loader_bit .ready .ready phase nofun hseg).mpr rfl
  have hsegments := image.segments_infoAt hphase (loadWord .ready phase nseg)
  have hword : (image.infoAt phase (loadWord .ready phase nseg)).loadState =
    loadWord .ready phase nseg := rfl
  have hlength : (image.phdrs.drop nseg).length = elfPhnum image.bytes - nseg := by
    rw [List.length_drop, length_phdrs]
  rw [elfLoad_eq vars .ready nofun hseg, elfLoadData, elfLoadDataWith, if_pos hready, hsegments,
    elfLoadSegment, elfNextLoadSegment]
  rw [hword, loadWord_and_segment .ready phase hseg, nextLoad_of_nil hnext]
  simp only [Bool.not_false, if_true]
  unfold leftVars
  cases hlast : (image.phdrs.drop nseg).getLast? with
  | none =>
      have hend : nseg = elfPhnum image.bytes := by
        rw [List.getLast?_eq_none_iff.mp hlast, List.length_nil] at hlength
        omega
      subst hend
      simp only
      rw [loadWord_setSegment .ready phase hseg hnum]
      rfl
  | some phdr =>
      have hend : nseg + (image.phdrs.drop nseg).length = elfPhnum image.bytes := by omega
      simp only
      rw [hend, loadWord_setSegment .ready phase hseg hnum]
      rfl

/-- The state once all the data has been loaded. -/
def postWord (phase : HeaderPhase) (nseg : Nat) : Nat :=
  loadWord (if phase = .complete then .complete else .postData) phase nseg

/-- A call then goes on with the headers. -/
theorem elfLoad_post (imgData : Option (List UInt8)) (offset len : Nat) (vars : LoadVars)
    {next : HeaderPhase} (hadvance : image.advance offset len phase = next)
    (hphase : phase ≠ .phdrs) (hseg : nseg < 2 ^ 8)
    (hsections : phase = .shstrtab → elfShnum image.bytes ≠ 0)
    (hpiece : offset + len ≤ image.bytes.length)
    (hdata : Covers offset len (image.pending phase) → (image.pending phase).2 ≠ 0 →
      imgData = some (slice image.bytes offset len))
    (hda : vars.da = RPROC_LOAD_ANYADDR) (hnlen : vars.nlen = 0) :
    elfLoad (fun _ => true) imgData offset len
        (some (image.infoAt phase (loadWord .postData phase nseg))) (loadWord .postData phase nseg)
        vars =
      some ⟨.ok (postWord next nseg), some (image.infoAt next (postWord next nseg)),
        ⟨RPROC_LOAD_ANYADDR, if next = .complete then vars.noffset else (image.pending next).1,
          (image.pending next).2, 0, vars.nmemsize⟩⟩ := by
  have hready : ¬ (image.infoAt phase (loadWord .postData phase nseg)).loadState &&&
      RPROC_LOADER_READY_TO_LOAD ≠ 0 := fun hbit =>
    absurd ((loader_bit .postData .ready phase nofun hseg).mp hbit) nofun
  have hpost : (image.infoAt phase (loadWord .postData phase nseg)).loadState &&&
      RPROC_LOADER_POST_DATA_LOAD ≠ 0 :=
    (loader_bit .postData .postData phase nofun hseg).mpr rfl
  have hword : (image.infoAt phase (loadWord .postData phase nseg)).loadState =
    loadWord .postData phase nseg := rfl
  have hset : ∀ phase', clearBits (loadWord .postData phase' nseg) RPROC_LOADER_MASK |||
      RPROC_LOADER_LOAD_COMPLETE = loadWord .complete phase' nseg := fun phase' =>
    loadWord_setLoader .postData .complete phase' hseg
  rw [elfLoad_eq vars .postData nofun hseg, elfLoadData, elfLoadDataWith, if_neg hready, if_pos hpost,
    elfLoadPostWith]
  by_cases hdone : phase = .complete
  · subst hdone
    have hbit : (image.infoAt .complete (loadWord .postData .complete nseg)).loadState &&&
        ELF_STATE_HDRS_COMPLETE ≠ 0 := (infoAt_waits .postData .complete .complete hseg).mpr rfl
    rw [if_neg hbit, hword, hset, ← hadvance]
    simp only [advance, postWord, if_true, hda]
    rfl
  · have hbit : (image.infoAt phase (loadWord .postData phase nseg)).loadState &&&
        ELF_STATE_HDRS_COMPLETE = 0 := by
      by_contra hbit
      exact hdone ((infoAt_waits .postData phase .complete hseg).mp hbit)
    have hheader := elfLoadHeader_eq .postData hphase nofun hsections hpiece hdata hseg vars.noffset
      (fun _ => rfl)
    rw [hnlen, if_pos hbit, hheader, headerOut, hadvance, postWord]
    simp only [Option.bind_eq_bind, Option.bind_some, liftM, monadLift_self]
    by_cases hnext : next = .complete
    · have hbit' : loadWord .postData next nseg &&& ELF_STATE_HDRS_COMPLETE ≠ 0 :=
        (header_bit .postData next .complete hseg).mpr hnext
      subst hnext
      rw [if_pos hbit']
      simp only [if_true]
      rw [infoAt, hset]
      rfl
    · have hbit' : ¬ loadWord .postData next nseg &&& ELF_STATE_HDRS_COMPLETE ≠ 0 := fun hbit' =>
        hnext ((header_bit .postData next .complete hseg).mp hbit')
      rw [if_neg hbit']
      simp only [if_neg hnext]
      rfl

end Calls

end ElfImage

end OpenAmp
