import OpenAmp.Proof.LoadTerminates
import OpenAmp.ResourceTable

/-!
# A resource table that is rejected

Where the copy of the table cannot be read or is not accepted, its address is replaced by an error
before it is released. The error is released in its place and the block never is, whatever happens later
in the call.
-/

namespace OpenAmp

open ByteMemory

section Rejected

variable {plat : LoadPlatform} {store : StoreOps} {headers : StoreHeaders} {proc : LoadProc}

/-! ### The error is released -/

theorem TableRejected.released {calls : Nat} {shdr : Shdr} (h : TableRejected plat store calls shdr) :
    ∃ status, .freed (.error status) ∈
      (remoteprocGetRscTableFrom plat store calls shdr.shOffset shdr.shSize).2 := by
  obtain ⟨hallocate, hreply⟩ := h
  have hmemory : ¬ plat.allocateRsc shdr.shSize = false := by
    rw [hallocate]
    decide
  unfold remoteprocGetRscTableFrom
  rw [if_neg hmemory]
  dsimp only
  cases himg : (store.load calls ⟨shdr.shOffset, shdr.shSize, RPROC_LOAD_ANYADDR⟩).imgData with
  | none => exact ⟨_, List.mem_append_right _ (List.mem_singleton_self _)⟩
  | some img =>
      dsimp only
      by_cases hshort : (store.load calls ⟨shdr.shOffset, shdr.shSize, RPROC_LOAD_ANYADDR⟩).ret < 0 ∨
          (store.load calls ⟨shdr.shOffset, shdr.shSize, RPROC_LOAD_ANYADDR⟩).ret <
            toInt32 shdr.shSize
      · rw [if_pos hshort]
        exact ⟨_, List.mem_append_right _ (List.mem_singleton_self _)⟩
      · rw [if_neg hshort]
        have hrefused : (plat.handleRscTable (readBytes img 0 shdr.shSize)).1 < 0 := by
          rcases hreply with hneg | hless | hnone | ⟨img', hsome, hstatus⟩
          · exact absurd (.inl hneg) hshort
          · exact absurd (.inr hless) hshort
          · exact nomatch himg.symm.trans hnone
          · rwa [Option.some.inj (himg.symm.trans hsome)]
        rw [if_pos hrefused]
        exact ⟨_, List.mem_append_right _ (List.mem_singleton_self _)⟩

theorem locateAndGet_released {calls : Nat} {imgInfo : Option ElfInfo} {shdr : Shdr}
    (hlocated : imgInfo.bind (locatedRscTableAt plat) = some shdr)
    (h : TableRejected plat store calls shdr) :
    ∃ status, .freed (.error status) ∈ (locateAndGetRscTable plat store calls imgInfo).2 := by
  obtain ⟨status, hmem⟩ := h.released
  refine ⟨status, ?_⟩
  unfold locateAndGetRscTable
  rw [hlocated]
  exact hmem

/-! ### The call -/

/-- A call that comes to the loops and returns has been through the loop of the headers. -/
theorem LoadStarts.run {rounds : Nat} {keep : Bool} {r : LoadResult} (h : LoadStarts store proc)
    (hready : headers.Ready plat store)
    (hcall : remoteprocLoadAny plat rounds store keep proc = some r) :
    remoteprocLoadAfter plat rounds store keep { proc with loader := true } headers = some r := by
  cases load_call hcall with
  | refused hstarts => exact absurd h hstarts
  | unopened hstarts => exact absurd h hstarts
  | stuck hreturns => exact nomatch hready.unique hreturns
  | failed hreturns => exact nomatch hready.unique hreturns
  | loaded hready' hafter =>
      obtain ⟨rfl, -⟩ := Prod.mk.inj (hready'.unique hready)
      exact hafter

/-- Wherever the call comes to the rejected table, it releases the error. -/
theorem LoadRejects.released {rounds : Nat} {keep : Bool} {r : LoadResult}
    (hrejects : LoadRejects plat store) (hstarts : LoadStarts store proc)
    (hcall : remoteprocLoadAny plat rounds store keep proc = some r) :
    ∃ status, .freed (.error status) ∈ r.events := by
  obtain ⟨headers, hready, hrejected⟩ := hrejects
  have hafter := hstarts.run hready hcall
  unfold remoteprocLoadAfter at hafter
  dsimp only at hafter
  cases hrun : Loop.run (StoreData.body plat store) rounds (.start plat store headers) with
  | none =>
      rw [hrun] at hafter
      exact nomatch hafter
  | some result =>
      obtain ⟨data, exit⟩ := result
      have hreturns : Loop.Returns (StoreData.body plat store) (.start plat store headers)
          (data, exit) :=
        ⟨rounds, hrun⟩
      rw [hrun] at hafter
      rcases hrejected with ⟨shdr, hlocated, htable⟩ | ⟨hnone, data', shdr, hleave, hlocated, htable⟩
      · obtain ⟨status, hmem⟩ := locateAndGet_released hlocated htable
        have hdata : .freed (.error status) ∈ data.events :=
          (loop_extends hreturns).subset (List.mem_append_right _ hmem)
        refine ⟨status, ?_⟩
        cases exit with
        | stuck =>
            obtain rfl := Option.some.inj hafter
            exact hdata
        | error ret =>
            obtain rfl := Option.some.inj hafter
            exact List.mem_append_left _ (List.mem_append_left _ hdata)
        | leave =>
            obtain rfl := Option.some.inj hafter
            exact (loadEnd_extends plat store _ keep _ data).subset (List.mem_append_left _ hdata)
      · obtain ⟨rfl, rfl⟩ := Prod.mk.inj (hreturns.unique hleave)
        obtain ⟨status, hmem⟩ := locateAndGet_released hlocated htable
        have hearly : (locateAndGetRscTable plat store headers.calls headers.imgInfo).1 = none := by
          unfold locateAndGetRscTable
          rw [hnone]
        rw [hearly] at hafter
        obtain rfl := Option.some.inj hafter
        exact ⟨status,
          (loadEnd_extends plat store _ keep none data).subset (List.mem_append_right _ hmem)⟩

/-- Where the table is rejected, the call never refuses the image as it should. -/
theorem rejected_table_mishandled (hstarts : LoadStarts store proc) (hrejects : LoadRejects plat store)
    (rounds : Nat) (keep : Bool) (r : LoadResult)
    (hcall : remoteprocLoadAny plat rounds store keep proc = some r) : ¬ r.Refuses proc := by
  obtain ⟨status, hmem⟩ := hrejects.released hstarts hcall
  exact fun hrefuses => hrefuses.only status hmem

end Rejected

/-! ### A section that is not a table -/

/-- The section of the file does not start with the version of a table. -/
def rejectingPlatform : LoadPlatform :=
  { mappingPlatform with handleRscTable := fun table => (-RPROC_ERR_RSC_TAB_VER, table) }

theorem section_load_starts : LoadStarts sectionStore readyProc :=
  ⟨.inl rfl, by decide, _, rfl, .inr (by decide +kernel)⟩

theorem section_load_rejects : LoadRejects rejectingPlatform sectionStore := by
  have hlocated : sectionHeaders.imgInfo.bind (locatedRscTableAt rejectingPlatform) =
      some ⟨1, 0, 128, 17⟩ := by
    decide +kernel
  have hrejected (table : List UInt8) : (rejectingPlatform.handleRscTable table).1 < 0 := by
    have hstatus : (rejectingPlatform.handleRscTable table).1 = -RPROC_ERR_RSC_TAB_VER := rfl
    rw [hstatus]
    decide
  exact ⟨sectionHeaders, Loop.Returns.of_inr rfl, .inl ⟨_, hlocated, rfl,
    .inr (.inr (.inr ⟨_, rfl, hrejected _⟩))⟩⟩

/-- What the call takes and releases: the error is released twice, and the block of the copy never. -/
def LoadResult.memory (r : LoadResult) : List LoadBlock × List LoadPtr :=
  (r.events.filterMap LoadEvent.acquired, r.events.filterMap LoadEvent.released)

theorem section_load_result :
    (remoteprocLoadAny rejectingPlatform 2 sectionStore true readyProc).map
      (fun r => (r.ret, r.memory)) =
        some (some 0, [.loader .info, .loader .phdrs, .loader .shdrs, .loader .shstrtab, .rscTable],
          [.error (-RPROC_ERR_RSC_TAB_VER), .error (-RPROC_ERR_RSC_TAB_VER)]) := by
  decide +kernel

theorem section_load_mishandled : ∃ r,
    remoteprocLoadAny rejectingPlatform 2 sectionStore true readyProc = some r ∧
      ¬ r.Refuses readyProc := by
  obtain ⟨r, hcall, -⟩ := Option.map_eq_some_iff.mp section_load_result
  exact ⟨r, hcall, rejected_table_mishandled section_load_starts section_load_rejects 2 true r
    hcall⟩

/-- The call returns 0 for a section that is not a table. -/
theorem section_load_not_refused : ∃ r,
    LoadRejects rejectingPlatform sectionStore ∧
      remoteprocLoadAny rejectingPlatform 2 sectionStore true readyProc = some r ∧ r.ret = some 0 ∧
      ¬ r.Refuses readyProc := by
  obtain ⟨r, hcall, hr⟩ := Option.map_eq_some_iff.mp section_load_result
  obtain ⟨hret, hmemory⟩ := Prod.mk.inj hr
  refine ⟨r, section_load_rejects, hcall, hret, fun hrefuses => ?_⟩
  have hreleased : .error (-RPROC_ERR_RSC_TAB_VER) ∈ r.memory.2 := by
    rw [hmemory]
    exact List.mem_cons_self
  obtain ⟨event, hmem, hevent⟩ := List.mem_filterMap.mp hreleased
  cases event with
  | freed ptr => exact hrefuses.only _ (Option.some.inj hevent ▸ hmem)
  | _ => exact nomatch hevent

end OpenAmp
