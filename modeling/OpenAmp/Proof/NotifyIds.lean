import OpenAmp.Library.Allocation
import OpenAmp.ResourceTable

/-!
# The notify ids of a parsed resource table

Parsing asks the bitmap for one id after the other, in table order. A pass that finds every id free
leaves exactly those ids marked. What it writes back is another matter: only the id of the vdev is
ever written, so the ids of the vrings stay as they were and the last of them replaces that of the
vdev.
-/

namespace OpenAmp

open Allocation

variable {bitmap : Nat → Bool} {taken : List Nat} {id : Nat} {ids : List Nat}

/-! ### One id -/

/-- The bits that are set are the numbers in the list. -/
def Marks (bitmap : Nat → Bool) (taken : List Nat) : Prop := ∀ i, bitmap i = true ↔ i ∈ taken

/-- An id the allocator can be asked for. -/
def AskableId (id : Nat) : Prop := id = RSC_NOTIFY_ID_ANY ∨ id < METAL_BITS_PER_ULONG

/-- What an id in the table asks for. -/
def idRequest (id : Nat) : Option Nat := if id = RSC_NOTIFY_ID_ANY then none else some id

def allocateId (bitmap : Nat → Bool) (id : Nat) : (Nat → Bool) × Nat :=
  remoteprocAllocateId bitmap id (u32 (id + 1))

theorem marks_setBit (hmarks : Marks bitmap taken) :
    Marks (Bitmap.setBit bitmap id) (taken ++ [id]) := by
  intro i
  rw [Bitmap.setBit_eq_true, hmarks i, List.mem_append, List.mem_singleton]
  exact Or.comm

theorem idRequest_eq_some {e : Nat} (h : idRequest id = some e) :
    id ≠ RSC_NOTIFY_ID_ANY ∧ id = e := by
  unfold idRequest at h
  split_ifs at h with hany
  exact ⟨hany, Option.some.inj h⟩

theorem ne_any_of_lt (hlt : id < METAL_BITS_PER_ULONG) : id ≠ RSC_NOTIFY_ID_ANY := by
  rintro rfl
  exact absurd hlt (by decide)

/-- Below `2 ^ 31` the helpers go to the bit they are asked for. -/
theorem metalBit_of_lt (hid : id < 2 ^ 31) : metalBit id = id := ofInt_toInt32 hid

theorem allocateId_any :
    allocateId bitmap RSC_NOTIFY_ID_ANY =
      if Bitmap.nextClearBit bitmap 0 64 ≠ 64 then
        (Bitmap.setBit bitmap (Bitmap.nextClearBit bitmap 0 64), Bitmap.nextClearBit bitmap 0 64)
      else (bitmap, RSC_NOTIFY_ID_ANY) := by
  have hbits : Bitmap.nextClearBit (fun bit => bitmap (metalBit bit)) 0 64 =
      Bitmap.nextClearBit bitmap 0 64 :=
    Bitmap.nextClearBit_congr fun i _ hlt => by rw [metalBit_of_lt (by omega)]
  have hown : metalBit (Bitmap.nextClearBit bitmap 0 64) = Bitmap.nextClearBit bitmap 0 64 :=
    metalBit_of_lt (Bitmap.nextClearBit_le.trans_lt (by decide))
  have hcall : allocateId bitmap RSC_NOTIFY_ID_ANY =
      let id := Bitmap.nextClearBit (fun bit => bitmap (metalBit bit)) 0 64
      if id ≠ 64 then (Bitmap.setBit bitmap (metalBit id), id) else (bitmap, RSC_NOTIFY_ID_ANY) := rfl
  rw [hcall, hbits]
  dsimp only
  rw [hown]

/-- An explicit id is tried alone, wherever its bit lies. -/
theorem allocateId_of_lt_any (hid : id < RSC_NOTIFY_ID_ANY) :
    allocateId bitmap id =
      if bitmap (metalBit id) then (bitmap, RSC_NOTIFY_ID_ANY)
      else (Bitmap.setBit bitmap (metalBit id), id) := by
  have hbound : id < 2 ^ 32 - 1 := hid
  have hlast : u32 (id + 1) = id + 1 := Nat.mod_eq_of_lt (by omega)
  rw [allocateId, remoteprocAllocateId, hlast, if_neg (Nat.ne_of_lt hid),
    if_neg (Nat.succ_ne_zero id), Bitmap.nextClearBit_succ]
  cases bitmap (metalBit id) <;> simp

theorem allocateId_of_lt (hid : id < METAL_BITS_PER_ULONG) :
    allocateId bitmap id =
      if bitmap id then (bitmap, RSC_NOTIFY_ID_ANY) else (Bitmap.setBit bitmap id, id) := by
  have hbit : metalBit id = id := metalBit_of_lt (hid.trans (by decide))
  rw [allocateId_of_lt_any (hid.trans (by decide)), hbit]

/-- What one allocation can do: hand out what is asked for and mark it, or change nothing because
there is no free id, or not this one. -/
theorem allocateId_cases (hmarks : Marks bitmap taken) (hid : AskableId id) :
    ((allocateId bitmap id).2 < METAL_BITS_PER_ULONG ∧
        Gets taken (idRequest id) (allocateId bitmap id).2 ∧
        Marks (allocateId bitmap id).1 (taken ++ [(allocateId bitmap id).2])) ∨
      (allocateId bitmap id = (bitmap, RSC_NOTIFY_ID_ANY) ∧
        ∀ k < METAL_BITS_PER_ULONG, idRequest id = none ∨ idRequest id = some k → k ∈ taken) := by
  rcases hid with rfl | hlt
  · rw [allocateId_any]
    by_cases hfull : Bitmap.nextClearBit bitmap 0 64 ≠ 64
    · have hlt : Bitmap.nextClearBit bitmap 0 64 < 64 :=
        Nat.lt_of_le_of_ne Bitmap.nextClearBit_le hfull
      rw [if_pos hfull]
      refine .inl ⟨hlt, ⟨?_, ?_⟩, marks_setBit hmarks⟩
      · show _ ∉ taken
        rw [← hmarks, Bitmap.nextClearBit_clear hlt]
        exact Bool.false_ne_true
      · intro k hk
        by_contra hsmaller
        exact hk ((hmarks k).mp (Bitmap.bit_of_lt_nextClearBit (Nat.not_le.mp hsmaller)))
    · rw [if_neg hfull]
      refine .inr ⟨rfl, fun k hk _ => (hmarks k).mp ?_⟩
      apply Bitmap.bit_of_lt_nextClearBit
      rwa [not_not.mp hfull]
  · have hrequest : idRequest id = some id := if_neg (ne_any_of_lt hlt)
    rw [allocateId_of_lt hlt, hrequest]
    by_cases hbit : bitmap id = true
    · rw [if_pos hbit]
      refine .inr ⟨rfl, ?_⟩
      rintro k - (hnone | hsome)
      · cases hnone
      · rw [← Option.some.inj hsome]
        exact (hmarks id).mp hbit
    · rw [if_neg hbit]
      exact .inl ⟨hlt, ⟨rfl, fun hmem => hbit ((hmarks id).mpr hmem)⟩, marks_setBit hmarks⟩

/-! ### One id after the other -/

/-- The ids handed out for a list of ids, `RSC_NOTIFY_ID_ANY` where none was. -/
def allocateIds : (Nat → Bool) → List Nat → (Nat → Bool) × List Nat
  | bitmap, [] => (bitmap, [])
  | bitmap, id :: ids =>
      let rest := allocateIds (allocateId bitmap id).1 ids
      (rest.1, (allocateId bitmap id).2 :: rest.2)

/-- The ids that were handed out. -/
def granted (results : List Nat) : List Nat := results.filter (· ≠ RSC_NOTIFY_ID_ANY)

@[simp]
theorem allocateIds_length : (allocateIds bitmap ids).2.length = ids.length := by
  induction ids generalizing bitmap with
  | nil => rfl
  | cons id ids ih => simp [allocateIds, ih]

theorem allocateIds_append {ids' : List Nat} :
    allocateIds bitmap (ids ++ ids') =
      ((allocateIds (allocateIds bitmap ids).1 ids').1,
        (allocateIds bitmap ids).2 ++ (allocateIds (allocateIds bitmap ids).1 ids').2) := by
  induction ids generalizing bitmap with
  | nil => rfl
  | cons id ids ih => simp only [List.cons_append, allocateIds, ih]

theorem allocateIds_singleton :
    allocateIds bitmap [id] = ((allocateId bitmap id).1, [(allocateId bitmap id).2]) := rfl

/-- The marks after a pass: those before it and the ids handed out, all of them different. -/
theorem allocateIds_marks (hmarks : Marks bitmap taken) (hnodup : taken.Nodup)
    (hids : ∀ id ∈ ids, AskableId id) :
    Marks (allocateIds bitmap ids).1 (taken ++ granted (allocateIds bitmap ids).2) ∧
      (taken ++ granted (allocateIds bitmap ids).2).Nodup := by
  induction ids generalizing bitmap taken with
  | nil => simpa [allocateIds, granted] using ⟨hmarks, hnodup⟩
  | cons id ids ih =>
      obtain ⟨hid, hrest⟩ := List.forall_mem_cons.mp hids
      rcases allocateId_cases hmarks hid with ⟨hlt, hgets, hnext⟩ | ⟨hfail, -⟩
      · have hne : (allocateId bitmap id).2 ≠ RSC_NOTIFY_ID_ANY := ne_any_of_lt hlt
        have hfresh : (taken ++ [(allocateId bitmap id).2]).Nodup := by
          simpa using List.Nodup.concat hgets.free hnodup
        simpa [allocateIds, granted, hne] using ih hnext hfresh hrest
      · have hsame := ih hmarks hnodup hrest
        simpa [allocateIds, granted, hfail] using hsame

/-- A pass without a failure serves the ids as requests. -/
theorem served_of_no_failure (hmarks : Marks bitmap taken) (hids : ∀ id ∈ ids, AskableId id)
    (hall : RSC_NOTIFY_ID_ANY ∉ (allocateIds bitmap ids).2) :
    Served taken (ids.map idRequest) (allocateIds bitmap ids).2 := by
  induction ids generalizing bitmap taken with
  | nil => exact .nil
  | cons id ids ih =>
      obtain ⟨hid, hrest⟩ := List.forall_mem_cons.mp hids
      simp only [allocateIds, List.mem_cons, not_or] at hall
      rcases allocateId_cases hmarks hid with ⟨-, hgets, hnext⟩ | ⟨hfail, -⟩
      · exact .cons hgets (ih hnext hrest hall.2)
      · exact absurd (congrArg Prod.snd hfail).symm hall.1

/-- The ids a table names are its ids other than `RSC_NOTIFY_ID_ANY`, which `granted` keeps. -/
theorem unnamed_before {id : Nat} {before after : List Nat} (hne : id ≠ RSC_NOTIFY_ID_ANY)
    (hdistinct : (granted (before ++ id :: after)).Nodup) : some id ∉ before.map idRequest := by
  intro hmem
  obtain ⟨x, hx, hrequest⟩ := List.mem_map.mp hmem
  obtain rfl : x = id := (idRequest_eq_some hrequest).2
  simp only [granted, List.filter_append, List.nodup_append] at hdistinct
  exact hdistinct.2.2 x (by simp [hx, hne]) x (by simp [hne]) rfl

/-- A pass does not fail if the requests spare the ids they name and are not too many. -/
theorem no_failure_of_spared {before numbers : List Nat} (hmarks : Marks bitmap numbers)
    (hserved : Served [] (before.map idRequest) numbers)
    (hids : ∀ id ∈ ids, AskableId id) (hdistinct : (granted (before ++ ids)).Nodup)
    (hcount : (before ++ ids).length ≤ METAL_BITS_PER_ULONG)
    (hspared : Spared ((before ++ ids).map idRequest)) :
    RSC_NOTIFY_ID_ANY ∉ (allocateIds bitmap ids).2 := by
  induction ids generalizing bitmap before numbers with
  | nil => exact List.not_mem_nil
  | cons id ids ih =>
      obtain ⟨hid, hrest⟩ := List.forall_mem_cons.mp hids
      rcases allocateId_cases hmarks hid with ⟨hlt, hgets, hnext⟩ | ⟨-, htaken⟩
      · have hserved' : Served [] ((before ++ [id]).map idRequest)
            (numbers ++ [(allocateId bitmap id).2]) := by
          rw [List.map_append, served_append]
          exact ⟨numbers, _, rfl, hserved, .cons hgets .nil⟩
        simp only [allocateIds, List.mem_cons, not_or]
        refine ⟨(ne_any_of_lt hlt).symm, ?_⟩
        apply ih hnext hserved' hrest
        · simpa using hdistinct
        · simpa using hcount
        · simpa using hspared
      · exfalso
        by_cases hany : id = RSC_NOTIFY_ID_ANY
        -- a full bitmap means that as many ids were handed out before
        · have hfull : List.range METAL_BITS_PER_ULONG ⊆ numbers := fun k hk =>
            htaken k (List.mem_range.mp hk) (.inl (if_pos hany))
          have hle := (List.nodup_range.subperm hfull).length_le
          rw [List.length_range, hserved.length_eq, List.length_map] at hle
          simp only [List.length_append, List.length_cons] at hcount
          omega
        · have hlt : id < METAL_BITS_PER_ULONG := hid.resolve_left hany
          have hrequest : idRequest id = some id := if_neg hany
          apply hserved.free_of_spared _ (unnamed_before hany hdistinct)
            (htaken id hlt (.inr hrequest))
          · exact ids.map idRequest
          · simpa [hrequest] using hspared

/-! ### One vdev -/

/-- The id written last, or the old one if none was. -/
def lastGranted (vdevId : Nat) (results : List Nat) : Nat := (granted results).getLastD vdevId

theorem lastGranted_cons {vdevId result : Nat} {results : List Nat} :
    lastGranted vdevId (result :: results) =
      lastGranted (if result ≠ RSC_NOTIFY_ID_ANY then result else vdevId) results := by
  unfold lastGranted granted
  by_cases hany : result = RSC_NOTIFY_ID_ANY
  · rw [List.filter_cons_of_neg (by simpa using hany), if_neg (not_not.mpr hany)]
  · rw [List.filter_cons_of_pos (by simpa using hany), if_pos hany, List.getLastD_cons]

theorem lastGranted_concat {vdevId result : Nat} {results : List Nat}
    (hne : result ≠ RSC_NOTIFY_ID_ANY) : lastGranted vdevId (results ++ [result]) = result := by
  simp [lastGranted, granted, hne]

theorem handleVdevVrings_eq {vdevId : Nat} {vrings : List FwRscVdevVring} :
    handleVdevVrings bitmap vdevId vrings =
      ((allocateIds bitmap (vrings.map FwRscVdevVring.notifyid)).1,
        lastGranted vdevId (allocateIds bitmap (vrings.map FwRscVdevVring.notifyid)).2) := by
  induction vrings generalizing bitmap vdevId with
  | nil => rfl
  | cons vring vrings ih =>
      show handleVdevVrings (allocateId bitmap vring.notifyid).1 _ vrings = _
      rw [ih, List.map_cons, allocateIds, lastGranted_cons]
      rfl

/-- A vdev entry gets ids for itself and its vrings, and keeps the last of them as its own. -/
theorem handleVdevRsc_eq {rsc : FwRscVdev} :
    handleVdevRsc bitmap rsc =
      ((allocateIds bitmap rsc.notifyIds).1,
        { rsc with notifyid := lastGranted rsc.notifyid (allocateIds bitmap rsc.notifyIds).2 },
        0) := by
  have hvrings : handleVdevRsc bitmap rsc =
      let vrings := handleVdevVrings (allocateId bitmap rsc.notifyid).1
        (if (allocateId bitmap rsc.notifyid).2 ≠ RSC_NOTIFY_ID_ANY then
          (allocateId bitmap rsc.notifyid).2 else rsc.notifyid) rsc.vring
      (vrings.1, { rsc with notifyid := vrings.2 }, 0) := rfl
  rw [hvrings, handleVdevVrings_eq, FwRscVdev.notifyIds, allocateIds, lastGranted_cons]

/-- With vrings, the ids of a vdev come out assigned and distinct for no bitmap. -/
theorem no_vrings_of_distinct {rsc : FwRscVdev} (hmarks : Marks bitmap taken)
    (hnodup : taken.Nodup) (hids : ∀ id ∈ rsc.notifyIds, AskableId id)
    (hall : RSC_NOTIFY_ID_ANY ∉ (allocateIds bitmap rsc.notifyIds).2)
    (hassigned : RSC_NOTIFY_ID_ANY ∉ (handleVdevRsc bitmap rsc).2.1.notifyIds)
    (hdistinct : (handleVdevRsc bitmap rsc).2.1.notifyIds.Nodup) : rsc.vring = [] := by
  rcases List.eq_nil_or_concat rsc.vring with hnil | ⟨vrings, vring, hconcat⟩
  · exact hnil
  exfalso
  rw [handleVdevRsc_eq] at hassigned hdistinct
  have hlastIds : rsc.notifyIds =
      (rsc.notifyid :: vrings.map FwRscVdevVring.notifyid) ++ [vring.notifyid] := by
    simp [FwRscVdev.notifyIds, hconcat]
  have hvring : vring.notifyid ∈ rsc.vring.map FwRscVdevVring.notifyid := by simp [hconcat]
  have hnamed : vring.notifyid ≠ RSC_NOTIFY_ID_ANY := fun heq =>
    hassigned (List.mem_cons_of_mem _ (heq ▸ hvring))
  -- the last allocation is for the last vring, and what it grants is the id asked for
  rw [hlastIds, allocateIds_append, allocateIds_singleton] at hall hdistinct
  simp only [List.mem_append, List.mem_singleton, not_or] at hall
  have hmarks' := (allocateIds_marks hmarks hnodup fun id hid => hids id (by
    rw [hlastIds]
    exact List.mem_append_left _ hid)).1
  rcases allocateId_cases hmarks' (hids vring.notifyid (List.mem_cons_of_mem _ hvring)) with
    ⟨-, hgets, -⟩ | ⟨hfail, -⟩
  · rw [idRequest, if_neg hnamed] at hgets
    rw [lastGranted_concat (Ne.symm hall.2), hgets.1] at hdistinct
    exact (List.nodup_cons.mp hdistinct).1 hvring
  · exact hall.2 (congrArg Prod.snd hfail).symm

/-! ### All the vdevs of a table -/

def handleVdevs : (Nat → Bool) → List FwRscVdev → (Nat → Bool) × List FwRscVdev
  | bitmap, [] => (bitmap, [])
  | bitmap, rsc :: rscs =>
      let rest := handleVdevs (handleVdevRsc bitmap rsc).1 rscs
      (rest.1, (handleVdevRsc bitmap rsc).2.1 :: rest.2)

theorem handleVdevs_bitmap {rscs : List FwRscVdev} :
    (handleVdevs bitmap rscs).1 =
      (allocateIds bitmap (rscs.flatMap FwRscVdev.notifyIds)).1 := by
  induction rscs generalizing bitmap with
  | nil => rfl
  | cons rsc rscs ih =>
      rw [handleVdevs, ih, List.flatMap_cons, allocateIds_append, handleVdevRsc_eq]

theorem handleVdevs_length {rscs : List FwRscVdev} :
    ((handleVdevs bitmap rscs).2.flatMap FwRscVdev.notifyIds).length =
      (rscs.flatMap FwRscVdev.notifyIds).length := by
  induction rscs generalizing bitmap with
  | nil => rfl
  | cons rsc rscs ih =>
      simp only [handleVdevs, List.flatMap_cons, List.length_append, ih]
      simp [handleVdevRsc_eq, FwRscVdev.notifyIds]

theorem handleVdevs_notifyIds {rscs : List FwRscVdev} (hvrings : ∀ rsc ∈ rscs, rsc.vring = [])
    (hall : RSC_NOTIFY_ID_ANY ∉ (allocateIds bitmap (rscs.flatMap FwRscVdev.notifyIds)).2) :
    (handleVdevs bitmap rscs).2.flatMap FwRscVdev.notifyIds =
      (allocateIds bitmap (rscs.flatMap FwRscVdev.notifyIds)).2 := by
  induction rscs generalizing bitmap with
  | nil => rfl
  | cons rsc rscs ih =>
      have hnil : rsc.vring = [] := hvrings rsc List.mem_cons_self
      have hnotifyIds : rsc.notifyIds = [rsc.notifyid] := by simp [FwRscVdev.notifyIds, hnil]
      rw [List.flatMap_cons, allocateIds_append] at hall ⊢
      simp only [List.mem_append, not_or] at hall
      rw [handleVdevs, List.flatMap_cons, handleVdevRsc_eq,
        ih (fun rsc h => hvrings rsc (List.mem_cons_of_mem _ h)) hall.2]
      congr 1
      rw [hnotifyIds] at hall ⊢
      simp only [allocateIds, List.mem_singleton] at hall
      simp only [FwRscVdev.notifyIds, hnil, allocateIds, List.map_nil]
      have hlast : lastGranted rsc.notifyid ([] ++ [(allocateId bitmap rsc.notifyid).2]) =
          (allocateId bitmap rsc.notifyid).2 := lastGranted_concat (Ne.symm hall.1)
      exact congrArg (fun notifyid => [notifyid]) hlast

theorem no_vrings_of_all_distinct {rscs : List FwRscVdev} (hmarks : Marks bitmap taken)
    (hnodup : taken.Nodup) (hids : ∀ id ∈ rscs.flatMap FwRscVdev.notifyIds, AskableId id)
    (hall : RSC_NOTIFY_ID_ANY ∉ (allocateIds bitmap (rscs.flatMap FwRscVdev.notifyIds)).2)
    (hassigned : RSC_NOTIFY_ID_ANY ∉ (handleVdevs bitmap rscs).2.flatMap FwRscVdev.notifyIds)
    (hdistinct : ((handleVdevs bitmap rscs).2.flatMap FwRscVdev.notifyIds).Nodup) :
    ∀ rsc ∈ rscs, rsc.vring = [] := by
  induction rscs generalizing bitmap taken with
  | nil => simp
  | cons rsc rscs ih =>
      rw [List.flatMap_cons, allocateIds_append] at hall
      simp only [List.mem_append, not_or] at hall
      simp only [handleVdevs, List.flatMap_cons, List.mem_append, not_or] at hassigned
      simp only [handleVdevs, List.flatMap_cons] at hdistinct
      have hfirst : ∀ id ∈ rsc.notifyIds, AskableId id := fun id hid =>
        hids id (by simp [hid])
      have hrest : ∀ id ∈ rscs.flatMap FwRscVdev.notifyIds, AskableId id := fun id hid =>
        hids id (by simpa using .inr (by simpa using hid))
      obtain ⟨hmarks', hnodup'⟩ := allocateIds_marks hmarks hnodup hfirst
      have hbitmap : (handleVdevRsc bitmap rsc).1 = (allocateIds bitmap rsc.notifyIds).1 := by
        rw [handleVdevRsc_eq]
      intro other hother
      rcases List.mem_cons.mp hother with rfl | hother
      · exact no_vrings_of_distinct hmarks hnodup hfirst hall.1 hassigned.1
          (List.Nodup.of_append_left hdistinct)
      · rw [hbitmap] at hassigned hdistinct
        exact ih hmarks' hnodup' hrest hall.2 hassigned.2
          (List.Nodup.of_append_right hdistinct) other hother

/-! ### The table -/

section Table

variable {ops : RscOps} {io : Option (Nat → Bool)} {bitmap' : Nat → Bool}
  {entries entries' : List (Nat × FwRsc)}

theorem handleRscs_cons_ok {offset : Nat} {rsc : FwRsc}
    (hok : handleRscs ops io bitmap 0 ((offset, rsc) :: entries) = (bitmap', entries', 0)) :
    ∃ rest, entries' = (offset, (handleRsc ops bitmap 0 rsc).2.1) :: rest ∧
      handleRscs ops io (handleRsc ops bitmap 0 rsc).1 0 entries = (bitmap', rest, 0) := by
  have hgo : ∀ result : (Nat → Bool) × List (Nat × FwRsc) × Int,
      (result.1, (offset, (handleRsc ops bitmap 0 rsc).2.1) :: result.2.1, result.2.2) =
        (bitmap', entries', 0) →
      ∃ rest, entries' = (offset, (handleRsc ops bitmap 0 rsc).2.1) :: rest ∧
        result = (bitmap', rest, 0) := by
    rintro ⟨_, rest, _⟩ heq
    simp only [Prod.mk.injEq] at heq
    obtain ⟨rfl, rfl, rfl⟩ := heq
    exact ⟨rest, rfl, rfl⟩
  rw [handleRscs] at hok
  split_ifs at hok with hio
  · have hstatus : -RPROC_ERR_RSC_TAB_TRUNC = 0 := congrArg (·.2.2) hok
    exact absurd hstatus (by decide)
  by_cases hns : (handleRsc ops bitmap 0 rsc).2.2 = -RPROC_ERR_RSC_TAB_NS
  · simp only [hns, if_true] at hok
    exact hgo _ hok
  · by_cases hzero : (handleRsc ops bitmap 0 rsc).2.2 = 0
    · have hzns : (0 : Int) ≠ -RPROC_ERR_RSC_TAB_NS := by decide
      simp only [hzero, hzns, if_false, ne_eq, not_true_eq_false] at hok
      exact hgo _ hok
    · simp only [hns, hzero, if_false, ne_eq, not_false_eq_true, if_true] at hok
      exact absurd (congrArg (·.2.2) hok) hzero

/-- Parsing the entries is parsing the vdevs among them. -/
theorem handleRscs_ok (hok : handleRscs ops io bitmap 0 entries = (bitmap', entries', 0)) :
    handleVdevs bitmap (rscVdevs entries) = (bitmap', rscVdevs entries') := by
  induction entries generalizing bitmap entries' with
  | nil =>
      simp only [handleRscs, Prod.mk.injEq, and_true] at hok
      obtain ⟨rfl, rfl⟩ := hok
      rfl
  | cons entry entries ih =>
      obtain ⟨offset, rsc⟩ := entry
      obtain ⟨rest, rfl, hrest⟩ := handleRscs_cons_ok hok
      have hvdevs := ih hrest
      cases rsc with
      | vdev rsc =>
          simp only [rscVdevs, handleRsc, List.filterMap_cons, FwRsc.vdev?, handleVdevs] at hvdevs ⊢
          rw [hvdevs]
      | _ => exact hvdevs

theorem handleRscTable_ok {size : Nat} {table table' : ResourceTable}
    (hok : handleRscTable ops io size bitmap table = (bitmap', table', 0)) :
    handleVdevs bitmap (rscVdevs table.entries) = (bitmap', rscVdevs table'.entries) := by
  unfold handleRscTable at hok
  split_ifs at hok with hsize hver htrunc hreserved
  · exact absurd (congrArg (·.2.2) hok) (by simp [RPROC_ERR_RSC_TAB_TRUNC])
  · exact absurd (congrArg (·.2.2) hok) (by simp [RPROC_ERR_RSC_TAB_VER])
  · exact absurd (congrArg (·.2.2) hok) (by simp [RPROC_ERR_RSC_TAB_TRUNC])
  · exact absurd (congrArg (·.2.2) hok) (by simp [RPROC_ERR_RSC_TAB_RSVD])
  · simp only [Prod.mk.injEq] at hok
    obtain ⟨hbitmap, rfl, hstatus⟩ := hok
    exact handleRscs_ok (Prod.ext hbitmap (Prod.ext rfl hstatus))

end Table

/-- What the ids before and after a parse, and the bitmap after it, should be to each other. -/
structure UniqueNotifyIds (before after : List Nat) (bitmap : Nat → Bool) : Prop where
  assigned : RSC_NOTIFY_ID_ANY ∉ after
  distinct : after.Nodup
  kept : List.Forall₂ (fun old new => old ≠ RSC_NOTIFY_ID_ANY → new = old) before after
  marked : Marks bitmap after

theorem marks_empty : Marks Bitmap.empty [] := by simp [Marks]

/-- If the ids come out as they should, no allocation has failed: a failed one leaves a mark less. -/
theorem UniqueNotifyIds.no_failure {before after : List Nat} (hids : ∀ id ∈ before, AskableId id)
    (hlength : after.length = before.length)
    (hunique : UniqueNotifyIds before after (allocateIds Bitmap.empty before).1) :
    RSC_NOTIFY_ID_ANY ∉ (allocateIds Bitmap.empty before).2 := by
  obtain ⟨hmarks, hnodup⟩ := allocateIds_marks marks_empty .nil hids
  rw [List.nil_append] at hmarks hnodup
  have hperm : (granted (allocateIds Bitmap.empty before).2).Perm after :=
    (List.perm_ext_iff_of_nodup hnodup hunique.distinct).mpr fun i =>
      (hmarks i).symm.trans (hunique.marked i)
  have hall : (granted (allocateIds Bitmap.empty before).2).length =
      (allocateIds Bitmap.empty before).2.length := by
    rw [hperm.length_eq, hlength, allocateIds_length]
  have hfilter := List.length_filter_eq_length_iff.mp hall
  intro hmem
  simpa using hfilter _ hmem

/-- The ids of a parsed table come out as they should just if no vdev in it has a vring and the ids
to choose spare those that are named. -/
theorem notify_ids_unique (ops : RscOps) (io : Option (Nat → Bool)) (size : Nat)
    (table table' : ResourceTable) (bitmap : Nat → Bool)
    (hids : ∀ id ∈ table.notifyIds, id = RSC_NOTIFY_ID_ANY ∨ id < METAL_BITS_PER_ULONG)
    (hdistinct : (table.notifyIds.filter (· ≠ RSC_NOTIFY_ID_ANY)).Nodup)
    (hcount : table.notifyIds.length ≤ 64)
    (hok : handleRscTable ops io size Bitmap.empty table = (bitmap, table', 0)) :
    UniqueNotifyIds table.notifyIds table'.notifyIds bitmap ↔
      (∀ rsc ∈ rscVdevs table.entries, rsc.vring = []) ∧
        Spared (table.notifyIds.map idRequest) := by
  have hvdevs := handleRscTable_ok hok
  have hbitmap : bitmap = (allocateIds Bitmap.empty table.notifyIds).1 := by
    rw [ResourceTable.notifyIds, ← handleVdevs_bitmap, hvdevs]
  have hafter : table'.notifyIds =
      (handleVdevs Bitmap.empty (rscVdevs table.entries)).2.flatMap FwRscVdev.notifyIds := by
    rw [hvdevs, ResourceTable.notifyIds]
  rw [hbitmap]
  constructor
  · intro hunique
    have hlength : table'.notifyIds.length = table.notifyIds.length := by
      rw [hafter, handleVdevs_length, ResourceTable.notifyIds]
    have hall := hunique.no_failure hids hlength
    refine ⟨?_, (served_of_no_failure marks_empty hids hall).spared⟩
    apply no_vrings_of_all_distinct marks_empty .nil hids hall
    · rw [← hafter]
      exact hunique.assigned
    · rw [← hafter]
      exact hunique.distinct
  · rintro ⟨hvrings, hspared⟩
    have hstart : Served [] (([] : List Nat).map idRequest) [] := .nil
    have hall : RSC_NOTIFY_ID_ANY ∉ (allocateIds Bitmap.empty table.notifyIds).2 :=
      no_failure_of_spared marks_empty hstart hids hdistinct hcount hspared
    have hresults : table'.notifyIds = (allocateIds Bitmap.empty table.notifyIds).2 := by
      rw [hafter]
      exact handleVdevs_notifyIds hvrings hall
    have hserved := served_of_no_failure marks_empty hids hall
    obtain ⟨hmarks, -⟩ := allocateIds_marks marks_empty .nil hids
    have hgranted : granted (allocateIds Bitmap.empty table.notifyIds).2 =
        (allocateIds Bitmap.empty table.notifyIds).2 := by
      apply List.filter_eq_self.mpr
      intro result hmem
      refine decide_eq_true fun heq => hall ?_
      rwa [← heq]
    rw [hresults]
    refine ⟨hall, hserved.nodup .nil, ?_, by rwa [hgranted] at hmarks⟩
    refine (List.forall₂_map_left_iff.mp hserved.forall₂).imp ?_
    intro old new hnamed hne
    exact hnamed old (if_neg hne)

/-- A platform that maps every carveout and has no handler of its own. -/
def plainOps : RscOps := ⟨fun _ => true, none⟩

/-- A table of vdevs only, with the offset of each, its id and those of its vrings. -/
def vdevTable (rscs : List (Nat × Nat × List Nat)) : ResourceTable where
  ver := RSC_TAB_SUPPORTED_VERSION
  reserved := (0, 0)
  entries := rscs.map fun rsc => (rsc.1, .vdev ⟨rsc.2.1, rsc.2.2.map FwRscVdevVring.mk⟩)

/-- Two vdevs without vrings, the first of them leaving its id to the parser. -/
theorem notify_ids_unique_two :
    UniqueNotifyIds [RSC_NOTIFY_ID_ANY, 5] [0, 5]
      (Bitmap.setBit (Bitmap.setBit Bitmap.empty 0) 5) := by
  have hserved : Served [] [none, some 5] [0, 5] :=
    .cons ⟨by simp, fun _ _ => Nat.zero_le _⟩ (.cons ⟨rfl, by decide⟩ .nil)
  exact (notify_ids_unique plainOps none 80
    (vdevTable [(24, RSC_NOTIFY_ID_ANY, []), (52, 5, [])]) (vdevTable [(24, 0, []), (52, 5, [])]) _
    (by decide) (by decide) (by decide) rfl).mpr ⟨by decide, hserved.spared⟩

/-- One vdev with one vring, both with ids of their own: the vdev ends up with that of the vring. -/
theorem notify_ids_collide :
    ∃ ops io size table table' bitmap,
      (∀ id ∈ table.notifyIds, id = RSC_NOTIFY_ID_ANY ∨ id < METAL_BITS_PER_ULONG) ∧
        (table.notifyIds.filter (· ≠ RSC_NOTIFY_ID_ANY)).Nodup ∧
        table.notifyIds.length ≤ 64 ∧
        handleRscTable ops io size Bitmap.empty table = (bitmap, table', 0) ∧
        ¬ UniqueNotifyIds table.notifyIds table'.notifyIds bitmap := by
  refine ⟨plainOps, none, 68, vdevTable [(20, 0, [1])], vdevTable [(20, 1, [1])], _, by decide,
    by decide, by decide, rfl, fun hunique => ?_⟩
  exact absurd hunique.distinct (by decide)

end OpenAmp
