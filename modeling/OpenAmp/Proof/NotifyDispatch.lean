import OpenAmp.Proof.NotifyIds
import OpenAmp.RprocVirtio

/-!
# Where a notification arrives

Both sides parse the same table, so the id of a vdev is overwritten twice: the first parse leaves the
id of its last vring there, the second the id of the one before. A device keeps the id it finds when
it is created and takes a notification with this id for one of the vdev, which runs nothing. So each
device is deaf to one of its vrings, and to which one depends on how often the table had been parsed
by then.
-/

namespace OpenAmp

open Allocation

variable {bitmap : Nat → Bool} {taken : List Nat} {ids : List Nat} {rsc : FwRscVdev}
  {rscs : List FwRscVdev}

/-! ### What a parse does to explicit ids -/

/-- Of different explicit ids, those that were free are handed out. -/
theorem granted_allocateIds (hmarks : Marks bitmap taken)
    (hids : ∀ id ∈ ids, id < METAL_BITS_PER_ULONG) (hnodup : ids.Nodup) :
    granted (allocateIds bitmap ids).2 = ids.filter (· ∉ taken) := by
  induction ids generalizing bitmap taken with
  | nil => rfl
  | cons id ids ih =>
      obtain ⟨hnotMem, hnodup⟩ := List.nodup_cons.mp hnodup
      obtain ⟨hlt, hrest⟩ := List.forall_mem_cons.mp hids
      rw [allocateIds, allocateId_of_lt hlt]
      by_cases hmem : id ∈ taken
      · rw [if_pos ((hmarks id).mpr hmem), List.filter_cons_of_neg (by simpa using hmem),
          ← ih hmarks hrest hnodup]
        exact List.filter_cons_of_neg (by simp)
      · have hsame : ids.filter (· ∉ taken ++ [id]) = ids.filter (· ∉ taken) := by
          apply List.filter_congr
          intro x hx
          have hne : x ≠ id := fun heq => hnotMem (heq ▸ hx)
          simp [hne]
        rw [if_neg (fun hbit => hmem ((hmarks id).mp hbit)),
          List.filter_cons_of_pos (by simpa using hmem), ← hsame,
          ← ih (marks_setBit hmarks) hrest hnodup]
        exact List.filter_cons_of_pos (by simpa using ne_any_of_lt hlt)

theorem granted_subset (hids : ∀ id ∈ ids, id < METAL_BITS_PER_ULONG) :
    granted (allocateIds bitmap ids).2 ⊆ ids := by
  induction ids generalizing bitmap with
  | nil => exact List.Subset.refl _
  | cons id ids ih =>
      intro x hx
      obtain ⟨hlt, hrest⟩ := List.forall_mem_cons.mp hids
      rw [allocateIds, allocateId_of_lt hlt] at hx
      obtain ⟨hx, hne⟩ := List.mem_filter.mp hx
      split_ifs at hx with hbit
      all_goals
        rcases List.mem_cons.mp hx with rfl | hx
        · simp at hne ⊢
        · exact List.mem_cons_of_mem _ (ih hrest (List.mem_filter.mpr ⟨hx, hne⟩))

def FwRscVdev.vringIds (rsc : FwRscVdev) : List Nat := rsc.vring.map FwRscVdevVring.notifyid

/-- A vdev entry with explicit ids after a parse that found them free. -/
def FwRscVdev.parsed (rsc : FwRscVdev) : FwRscVdev :=
  { rsc with notifyid := (rsc.vringIds.filter (· ≠ rsc.notifyid)).getLastD rsc.notifyid }

theorem parsed_notifyid_mem : rsc.parsed.notifyid ∈ rsc.notifyIds := by
  show List.getLastD _ _ ∈ _
  rcases List.eq_nil_or_concat' (rsc.vringIds.filter (· ≠ rsc.notifyid)) with hnil | ⟨init, x, hx⟩
  · rw [hnil]
    exact List.mem_cons_self
  · have hmem : x ∈ rsc.vringIds.filter (· ≠ rsc.notifyid) := by
      rw [hx]
      exact List.mem_concat_self
    rw [hx, List.getLastD_concat]
    exact List.mem_cons_of_mem _ (List.mem_filter.mp hmem).1

theorem parsed_notifyIds_subset : rsc.parsed.notifyIds ⊆ rsc.notifyIds := by
  intro id hid
  rcases List.mem_cons.mp hid with rfl | hvring
  · exact parsed_notifyid_mem
  · exact List.mem_cons_of_mem _ hvring

theorem handleVdevRsc_parsed (hmarks : Marks bitmap taken)
    (hids : ∀ id ∈ rsc.notifyIds, id < METAL_BITS_PER_ULONG)
    (hfree : ∀ id ∈ rsc.notifyIds, id ∉ taken) (hnodup : rsc.vringIds.Nodup) :
    (handleVdevRsc bitmap rsc).2.1 = rsc.parsed := by
  have hlt : rsc.notifyid < METAL_BITS_PER_ULONG := hids _ List.mem_cons_self
  have hnotMem : rsc.notifyid ∉ taken := hfree _ List.mem_cons_self
  have hvrings : rsc.vringIds.filter (· ∉ taken ++ [rsc.notifyid]) =
      rsc.vringIds.filter (· ≠ rsc.notifyid) := by
    apply List.filter_congr
    intro id hid
    simp [hfree id (List.mem_cons_of_mem _ hid)]
  have hmarks' : Marks (Bitmap.setBit bitmap rsc.notifyid) (taken ++ [rsc.notifyid]) :=
    marks_setBit hmarks
  have hgranted : granted (allocateIds (Bitmap.setBit bitmap rsc.notifyid) rsc.vringIds).2 =
      rsc.vringIds.filter (· ≠ rsc.notifyid) := by
    rw [← hvrings]
    exact granted_allocateIds hmarks' (fun id hid => hids id (List.mem_cons_of_mem _ hid)) hnodup
  rw [handleVdevRsc_eq]
  simp only [FwRscVdev.notifyIds, allocateIds, allocateId_of_lt hlt]
  rw [if_neg (fun hbit => hnotMem ((hmarks _).mp hbit)), lastGranted_cons,
    if_pos (ne_any_of_lt hlt), lastGranted]
  unfold FwRscVdev.vringIds at hgranted
  rw [hgranted]
  rfl

/-- A parse of a table with the ids in `rscs`, up to what earlier parses have made of the vdevs. -/
theorem handleVdevs_parsed {f : FwRscVdev → FwRscVdev} (hmarks : Marks bitmap taken)
    (hnodupTaken : taken.Nodup)
    (hf : ∀ rsc, (f rsc).vring = rsc.vring ∧ (f rsc).notifyIds ⊆ rsc.notifyIds)
    (hids : ∀ id ∈ rscs.flatMap FwRscVdev.notifyIds, id < METAL_BITS_PER_ULONG)
    (hnodup : (rscs.flatMap FwRscVdev.notifyIds).Nodup)
    (hfree : ∀ id ∈ rscs.flatMap FwRscVdev.notifyIds, id ∉ taken) :
    (handleVdevs bitmap (rscs.map f)).2 = rscs.map fun rsc => (f rsc).parsed := by
  induction rscs generalizing bitmap taken with
  | nil => rfl
  | cons rsc rscs ih =>
      obtain ⟨hvring, hsubset⟩ := hf rsc
      simp only [List.flatMap_cons, List.mem_append] at hids hfree
      rw [List.flatMap_cons] at hnodup
      obtain ⟨hnodupFirst, hnodupRest, hapart⟩ := List.nodup_append.mp hnodup
      have hfirst : ∀ id ∈ (f rsc).notifyIds, id < METAL_BITS_PER_ULONG := fun id hid =>
        hids id (.inl (hsubset hid))
      have hvrings : (f rsc).vringIds.Nodup := by
        rw [FwRscVdev.vringIds, hvring]
        exact (List.nodup_cons.mp hnodupFirst).2
      obtain ⟨hmarks', hnodupTaken'⟩ := allocateIds_marks hmarks hnodupTaken
        fun id hid => .inr (hfirst id hid)
      have hgrantedSubset : ∀ id ∈ granted (allocateIds bitmap (f rsc).notifyIds).2,
          id ∈ rsc.notifyIds := fun id hid => hsubset (granted_subset hfirst hid)
      simp only [List.map_cons, handleVdevs]
      rw [handleVdevRsc_parsed hmarks hfirst (fun id hid => hfree id (.inl (hsubset hid))) hvrings,
        handleVdevRsc_eq]
      congr 1
      apply ih hmarks' hnodupTaken' (fun id hid => hids id (.inr hid)) hnodupRest
      intro id hid
      simp only [List.mem_append, not_or]
      refine ⟨hfree id (.inr hid), fun hgranted => ?_⟩
      exact hapart id (hgrantedSubset id hgranted) id hid rfl

/-! ### The order of the steps -/

theorem createdEarly_concat {history : List VdevAction} {action : VdevAction} {role : Role} {d : Nat}
    (hne : action ≠ .create role d) :
    CreatedEarly (history ++ [action]) role d ↔ CreatedEarly history role d := by
  constructor
  · rintro ⟨before, after, hsplit, hbefore⟩
    rcases List.eq_nil_or_concat' after with rfl | ⟨after, last, rfl⟩
    · exact absurd (List.append_inj' hsplit rfl).2 (by simpa using hne)
    · rw [← List.cons_append, ← List.append_assoc] at hsplit
      exact ⟨before, after, (List.append_inj' hsplit rfl).1, hbefore⟩
  · rintro ⟨before, after, rfl, hbefore⟩
    exact ⟨before, after ++ [action], by simp, hbefore⟩

theorem createdEarly_concat_self {history : List VdevAction} {role : Role} {d : Nat}
    (hfirst : .create role d ∉ history) :
    CreatedEarly (history ++ [.create role d]) role d ↔ .parse role.peer ∉ history := by
  constructor
  · rintro ⟨before, after, hsplit, hbefore⟩
    rcases List.eq_nil_or_concat' after with rfl | ⟨after, last, rfl⟩
    · rwa [(List.append_inj' hsplit rfl).1]
    · rw [← List.cons_append, ← List.append_assoc] at hsplit
      have hmem : VdevAction.create role d ∈ history := by
        rw [(List.append_inj' hsplit rfl).1]
        simp
      exact absurd hmem hfirst
  · intro hpeer
    exact ⟨history, [], rfl, hpeer⟩

theorem findRsc_eq {d : Nat} {entries : List (Nat × FwRsc)} :
    findRsc d entries = (rscVdevs entries)[d]? := by
  induction entries generalizing d with
  | nil => rfl
  | cons entry entries ih =>
      obtain ⟨offset, rsc⟩ := entry
      cases rsc with
      | vdev rsc =>
          cases d with
          | zero => rfl
          | succ d => exact ih
      | _ => exact ih

/-! ### The invariant -/

section Invariant

variable {args : Role → ParseArgs} {s s' : VdevSystem} {role : Role} {d : Nat}

theorem VdevSystem.step_parse (hstep : s.step args (.parse role) = some s') :
    ∃ bitmap table, handleRscTable (args role).ops (some (args role).io) (args role).size
        (s.rproc role).bitmap s.table = (bitmap, table, 0) ∧
      s'.table = table ∧
      s'.rproc = Function.update s.rproc role ⟨bitmap, (s.rproc role).vdevs⟩ ∧
      s'.history = s.history ++ [.parse role] := by
  rcases hparse : handleRscTable (args role).ops (some (args role).io) (args role).size
    (s.rproc role).bitmap s.table with ⟨bitmap, table, status⟩
  simp only [VdevSystem.step, hparse] at hstep
  split_ifs at hstep with hstatus
  simp only [Option.some.injEq] at hstep
  subst hstatus hstep
  exact ⟨bitmap, table, rfl, rfl, rfl, rfl⟩

theorem VdevSystem.step_create (hstep : s.step args (.create role d) = some s') :
    ∃ rsc vdevs, (rscVdevs s.table.entries)[d]? = some rsc ∧
      ((∀ rpvdev ∈ (s.rproc role).vdevs, rpvdev.notifyid ≠ rsc.notifyid) →
        vdevs = (s.rproc role).vdevs ++ [rprocVirtioCreateVdev d rsc]) ∧
      s'.table = s.table ∧
      s'.rproc = Function.update s.rproc role ⟨(s.rproc role).bitmap, vdevs⟩ ∧
      s'.history = s.history ++ [.create role d] := by
  simp only [VdevSystem.step, remoteprocCreateVirtio, findRsc_eq] at hstep
  cases hrsc : (rscVdevs s.table.entries)[d]? with
  | none => simp [hrsc] at hstep
  | some rsc =>
      simp only [hrsc] at hstep
      cases hfind : (s.rproc role).vdevs.find? (·.notifyid = rsc.notifyid) with
      | some rpvdev =>
          simp only [hfind, Option.isSome_some, if_true, Option.some.injEq] at hstep
          subst hstep
          refine ⟨rsc, _, rfl, fun hnone => ?_, rfl, rfl, rfl⟩
          have hmem := List.mem_of_find?_eq_some hfind
          have heq := List.find?_some hfind
          exact absurd (by simpa using heq) (hnone rpvdev hmem)
      | none =>
          simp only [hfind, if_true, Option.isSome_some, Option.some.injEq] at hstep
          subst hstep
          exact ⟨rsc, _, rfl, fun _ => rfl, rfl, rfl, rfl⟩

/-- A device has the ids of its entry, that of the vdev as the parses before its creation left it. -/
def CreatedFrom (rscs : List FwRscVdev) (history : List VdevAction) (role : Role)
    (rpvdev : RemoteprocVirtio) : Prop :=
  ∃ rsc, rscs[rpvdev.vdevRsc]? = some rsc ∧ rpvdev.vringsInfo = rsc.vringIds ∧
    ((CreatedEarly history role rpvdev.vdevRsc ∧ rpvdev.notifyid = rsc.parsed.notifyid) ∨
      (¬ CreatedEarly history role rpvdev.vdevRsc ∧
        rpvdev.notifyid = rsc.parsed.parsed.notifyid))

structure VdevInv (rscs : List FwRscVdev) (s : VdevSystem) : Prop where
  unparsed : (∀ role, .parse role ∉ s.history) → rscVdevs s.table.entries = rscs
  parsed : ∀ role, .parse role ∈ s.history → rscVdevs s.table.entries =
    if .parse role.peer ∈ s.history then rscs.map fun rsc => rsc.parsed.parsed
    else rscs.map FwRscVdev.parsed
  bitmap : ∀ role, .parse role ∉ s.history → (s.rproc role).bitmap = Bitmap.empty
  created : ∀ role, ∀ rpvdev ∈ (s.rproc role).vdevs, CreatedFrom rscs s.history role rpvdev
  nodup : ∀ role, ((s.rproc role).vdevs.map RemoteprocVirtio.vdevRsc).Nodup
  mem_vdevs : ∀ role d, .create role d ∈ s.history ↔
    d ∈ (s.rproc role).vdevs.map RemoteprocVirtio.vdevRsc

theorem CreatedFrom.concat {history : List VdevAction} {action : VdevAction}
    {rpvdev : RemoteprocVirtio} (hcreated : CreatedFrom rscs history role rpvdev)
    (hne : action ≠ .create role rpvdev.vdevRsc) :
    CreatedFrom rscs (history ++ [action]) role rpvdev := by
  unfold CreatedFrom
  rwa [createdEarly_concat hne]

theorem VdevInv.start {table : ResourceTable} :
    VdevInv (rscVdevs table.entries) (VdevSystem.start table) where
  unparsed _ := rfl
  parsed role hmem := absurd hmem List.not_mem_nil
  bitmap _ _ := rfl
  created _ _ hmem := absurd hmem List.not_mem_nil
  nodup _ := List.nodup_nil
  mem_vdevs _ _ := by simp [VdevSystem.start]

/-- A parse makes of every vdev entry what `FwRscVdev.parsed` says. -/
theorem VdevInv.table_of_parse (hinv : VdevInv rscs s)
    (hids : ∀ id ∈ rscs.flatMap FwRscVdev.notifyIds, id < METAL_BITS_PER_ULONG)
    (hnodup : (rscs.flatMap FwRscVdev.notifyIds).Nodup) (hfirst : .parse role ∉ s.history)
    {table : ResourceTable}
    (hvdevs : handleVdevs (s.rproc role).bitmap (rscVdevs s.table.entries) =
      (bitmap, rscVdevs table.entries)) :
    rscVdevs table.entries = if .parse role.peer ∈ s.history
      then rscs.map fun rsc => rsc.parsed.parsed else rscs.map FwRscVdev.parsed := by
  have hparsed : ∀ f : FwRscVdev → FwRscVdev, rscVdevs s.table.entries = rscs.map f →
      (∀ rsc, (f rsc).vring = rsc.vring ∧ (f rsc).notifyIds ⊆ rsc.notifyIds) →
      rscVdevs table.entries = rscs.map fun rsc => (f rsc).parsed := by
    intro f hcurrent hf
    rw [hinv.bitmap role hfirst, hcurrent] at hvdevs
    rw [← handleVdevs_parsed marks_empty .nil hf hids hnodup fun _ _ => List.not_mem_nil, hvdevs]
  by_cases hpeer : .parse role.peer ∈ s.history
  · have hcurrent := hinv.parsed role.peer hpeer
    rw [Role.peer_peer, if_neg hfirst] at hcurrent
    rw [if_pos hpeer]
    exact hparsed _ hcurrent fun rsc => ⟨rfl, parsed_notifyIds_subset⟩
  · have hcurrent := hinv.unparsed ((Role.forall_iff role).mpr ⟨hfirst, hpeer⟩)
    rw [if_neg hpeer]
    exact hparsed id (by rw [hcurrent, List.map_id]) fun rsc => ⟨rfl, List.Subset.refl _⟩

theorem VdevInv.parse (hinv : VdevInv rscs s)
    (hids : ∀ id ∈ rscs.flatMap FwRscVdev.notifyIds, id < METAL_BITS_PER_ULONG)
    (hnodup : (rscs.flatMap FwRscVdev.notifyIds).Nodup) (hfirst : .parse role ∉ s.history)
    (hstep : s.step args (.parse role) = some s') : VdevInv rscs s' := by
  obtain ⟨bitmap, table, hparse, htable', hrproc, hhistory⟩ := VdevSystem.step_parse hstep
  have htable := hinv.table_of_parse hids hnodup hfirst (handleRscTable_ok hparse)
  rw [← htable'] at htable
  have hvdevs : ∀ role', (s'.rproc role').vdevs = (s.rproc role').vdevs := by
    intro role'
    rw [hrproc]
    by_cases heq : role' = role
    · rw [heq, Function.update_self]
    · rw [Function.update_of_ne heq]
  have hmem : ∀ role', .parse role' ∈ s'.history ↔ .parse role' ∈ s.history ∨ role' = role := by
    simp [hhistory]
  constructor
  · intro hnone
    exact absurd ((hmem role).mpr (.inr rfl)) (hnone role)
  · intro role' hrole'
    rcases role.eq_or_eq_peer role' with rfl | rfl
    · simp only [hmem, role'.ne_peer.symm, or_false]
      exact htable
    · have hpeer := ((hmem _).mp hrole').resolve_right role.ne_peer.symm
      rw [if_pos hpeer] at htable
      simp only [Role.peer_peer, hmem, or_true, if_true]
      exact htable
  · intro role' hrole'
    simp only [hmem, not_or] at hrole'
    rw [hrproc, Function.update_of_ne hrole'.2]
    exact hinv.bitmap role' hrole'.1
  · intro role' rpvdev hrpvdev
    rw [hvdevs] at hrpvdev
    rw [hhistory]
    exact (hinv.created role' rpvdev hrpvdev).concat (by simp)
  · intro role'
    rw [hvdevs]
    exact hinv.nodup role'
  · intro role' d
    rw [hvdevs, ← hinv.mem_vdevs, hhistory]
    simp

/-- The ids of two entries have none in common. -/
theorem eq_of_mem_notifyIds (hnodup : (rscs.flatMap FwRscVdev.notifyIds).Nodup) {d d' id : Nat}
    {rsc rsc' : FwRscVdev} (hd : rscs[d]? = some rsc) (hd' : rscs[d']? = some rsc')
    (hid : id ∈ rsc.notifyIds) (hid' : id ∈ rsc'.notifyIds) : d = d' := by
  have hpairwise := List.pairwise_iff_getElem.mp (List.nodup_flatMap.mp hnodup).2
  obtain ⟨hlt, rfl⟩ := List.getElem?_eq_some_iff.mp hd
  obtain ⟨hlt', rfl⟩ := List.getElem?_eq_some_iff.mp hd'
  rcases Nat.lt_trichotomy d d' with hless | heq | hless
  · exact absurd hid' (hpairwise d d' hlt hlt' hless hid)
  · exact heq
  · exact absurd hid (hpairwise d' d hlt' hlt hless hid')

theorem CreatedFrom.notifyid_mem {history : List VdevAction} {rpvdev : RemoteprocVirtio}
    {rsc : FwRscVdev} (hcreated : CreatedFrom rscs history role rpvdev)
    (hrsc : rscs[rpvdev.vdevRsc]? = some rsc) : rpvdev.notifyid ∈ rsc.notifyIds := by
  obtain ⟨rsc', hrsc', -, ⟨-, heq⟩ | ⟨-, heq⟩⟩ := hcreated
  all_goals
    obtain rfl : rsc' = rsc := Option.some.inj (hrsc'.symm.trans hrsc)
    rw [heq]
  · exact parsed_notifyid_mem
  · exact parsed_notifyIds_subset parsed_notifyid_mem

theorem VdevInv.current (hinv : VdevInv rscs s) (hparsed : .parse role ∈ s.history)
    {current : FwRscVdev} (hcurrent : (rscVdevs s.table.entries)[d]? = some current) :
    ∃ rsc, rscs[d]? = some rsc ∧
      current = if .parse role.peer ∈ s.history then rsc.parsed.parsed else rsc.parsed := by
  rw [hinv.parsed role hparsed] at hcurrent
  split_ifs at hcurrent ⊢
  all_goals
    obtain ⟨rsc, hrsc, rfl⟩ := by simpa using hcurrent
    exact ⟨rsc, hrsc, rfl⟩

theorem VdevInv.vdevRsc_ne (hinv : VdevInv rscs s) (hfirst : .create role d ∉ s.history) :
    ∀ rpvdev ∈ (s.rproc role).vdevs, rpvdev.vdevRsc ≠ d := by
  rintro rpvdev hrpvdev rfl
  exact hfirst ((hinv.mem_vdevs role _).mpr (List.mem_map_of_mem hrpvdev))

/-- Devices of other entries have other ids. -/
theorem VdevInv.notifyid_ne {id : Nat} (hinv : VdevInv rscs s)
    (hnodup : (rscs.flatMap FwRscVdev.notifyIds).Nodup) (hfirst : .create role d ∉ s.history)
    (hrsc : rscs[d]? = some rsc) (hid : id ∈ rsc.notifyIds) :
    ∀ rpvdev ∈ (s.rproc role).vdevs, rpvdev.notifyid ≠ id := by
  intro rpvdev hrpvdev heq
  obtain ⟨rsc', hrsc', -⟩ := hinv.created role rpvdev hrpvdev
  have hid' := (hinv.created role rpvdev hrpvdev).notifyid_mem hrsc'
  rw [heq] at hid'
  exact hinv.vdevRsc_ne hfirst rpvdev hrpvdev (eq_of_mem_notifyIds hnodup hrsc' hrsc hid' hid)

theorem createdFrom_new {history : List VdevAction} {current : FwRscVdev}
    (hrsc : rscs[d]? = some rsc) (hfirst : .create role d ∉ history)
    (hcurrent : current =
      if .parse role.peer ∈ history then rsc.parsed.parsed else rsc.parsed) :
    CreatedFrom rscs (history ++ [.create role d]) role (rprocVirtioCreateVdev d current) := by
  have hearly : CreatedEarly (history ++ [.create role d]) role d ↔ .parse role.peer ∉ history :=
    createdEarly_concat_self hfirst
  by_cases hpeer : .parse role.peer ∈ history
  · rw [if_pos hpeer] at hcurrent
    rw [hcurrent]
    exact ⟨rsc, hrsc, rfl, .inr ⟨fun h => hearly.mp h hpeer, rfl⟩⟩
  · rw [if_neg hpeer] at hcurrent
    rw [hcurrent]
    exact ⟨rsc, hrsc, rfl, .inl ⟨hearly.mpr hpeer, rfl⟩⟩

theorem VdevInv.create (hinv : VdevInv rscs s)
    (hnodup : (rscs.flatMap FwRscVdev.notifyIds).Nodup) (hparsed : .parse role ∈ s.history)
    (hfirst : .create role d ∉ s.history)
    (hstep : s.step args (.create role d) = some s') : VdevInv rscs s' := by
  obtain ⟨current, vdevs, hcurrent, hvdevs, htable, hrproc, hhistory⟩ :=
    VdevSystem.step_create hstep
  obtain ⟨rsc, hrsc, hcurrentEq⟩ := hinv.current hparsed hcurrent
  have hid : current.notifyid ∈ rsc.notifyIds := by
    rw [hcurrentEq]
    split_ifs
    · exact parsed_notifyIds_subset parsed_notifyid_mem
    · exact parsed_notifyid_mem
  -- the new device is not taken for an old one
  have hnew : vdevs = (s.rproc role).vdevs ++ [rprocVirtioCreateVdev d current] :=
    hvdevs (hinv.notifyid_ne hnodup hfirst hrsc hid)
  have hmem : ∀ role', .parse role' ∈ s'.history ↔ .parse role' ∈ s.history := by
    simp [hhistory]
  have hpeer : ∀ role', role' ≠ role → s'.rproc role' = s.rproc role' := by
    intro role' hne
    rw [hrproc, Function.update_of_ne hne]
  have hself : (s'.rproc role).vdevs =
      (s.rproc role).vdevs ++ [rprocVirtioCreateVdev d current] := by
    rw [hrproc, Function.update_self, hnew]
  constructor
  · intro hnone
    exact absurd ((hmem role).mpr hparsed) (hnone role)
  · intro role' hrole'
    rw [htable]
    simpa only [hmem] using hinv.parsed role' ((hmem role').mp hrole')
  · intro role' hrole'
    rw [hmem] at hrole'
    rw [hpeer role' (fun heq => hrole' (heq ▸ hparsed))]
    exact hinv.bitmap role' hrole'
  · intro role' rpvdev hrpvdev
    rw [hhistory]
    by_cases heq : role' = role
    · subst heq
      rw [hself] at hrpvdev
      rcases List.mem_append.mp hrpvdev with hold | hlast
      · refine (hinv.created role' rpvdev hold).concat ?_
        simpa using Ne.symm (hinv.vdevRsc_ne hfirst rpvdev hold)
      · rw [List.mem_singleton.mp hlast]
        exact createdFrom_new hrsc hfirst hcurrentEq
    · rw [hpeer role' heq] at hrpvdev
      refine (hinv.created role' rpvdev hrpvdev).concat ?_
      simp [Ne.symm heq]
  · intro role'
    by_cases heq : role' = role
    · subst heq
      rw [hself, List.map_append]
      have hnotMem := (hinv.mem_vdevs role' d).not.mp hfirst
      simpa [rprocVirtioCreateVdev] using List.Nodup.concat hnotMem (hinv.nodup role')
    · rw [hpeer role' heq]
      exact hinv.nodup role'
  · intro role' d'
    rw [hhistory]
    by_cases heq : role' = role
    · subst heq
      rw [hself, List.map_append, List.mem_append, List.mem_append, ← hinv.mem_vdevs]
      simp [rprocVirtioCreateVdev]
    · rw [hpeer role' heq, ← hinv.mem_vdevs]
      simp [heq]

theorem VdevInv.of_reachable {table : ResourceTable}
    (hids : ∀ id ∈ table.notifyIds, id < METAL_BITS_PER_ULONG) (hnodup : table.notifyIds.Nodup)
    (hs : Run.Reachable VdevSystem.Allowed (VdevSystem.step args) (.start table) s) :
    VdevInv (rscVdevs table.entries) s := by
  refine hs.invariant .start ?_
  intro s action s' hinv hallowed hstep
  cases action with
  | parse role => exact hinv.parse hids hnodup hallowed hstep
  | create role d => exact hinv.create hnodup hallowed.1 hallowed.2 hstep

end Invariant

/-! ### The way of a notification -/

section Dispatch

variable {s : VdevSystem} {role : Role} {rpvdev : RemoteprocVirtio} {i id : Nat}

/-- A device runs the callback of the vring with this id, unless it takes the id for its own. -/
theorem notified_eq (hid : rpvdev.vringsInfo[i]? = some id) (hnodup : rpvdev.vringsInfo.Nodup)
    (hany : id ≠ RSC_NOTIFY_ID_ANY) :
    rprocVirtioNotified rpvdev id =
      if rpvdev.notifyid = id then [] else [(rpvdev.vdevRsc, i)] := by
  unfold rprocVirtioNotified
  split_ifs with hself
  · rfl
  · have hi : i < rpvdev.vringsInfo.length := (List.getElem?_eq_some_iff.mp hid).1
    have honly : ∀ j ∈ List.range rpvdev.vringsInfo.length,
        decide (rpvdev.vringsInfo[j]? = some id ∨ id = RSC_NOTIFY_ID_ANY) = decide (j = i) := by
      intro j hj
      have hiff : rpvdev.vringsInfo[j]? = some id ↔ j = i := by
        rw [← hid]
        exact List.getElem?_inj (List.mem_range.mp hj) hnodup
      simp only [hiff, hany, or_false]
    rw [List.filter_congr honly, List.filter_eq,
      List.count_eq_one_of_mem List.nodup_range (List.mem_range.mpr hi)]
    rfl

theorem notified_eq_nil (hid : id ∉ rpvdev.vringsInfo) (hany : id ≠ RSC_NOTIFY_ID_ANY) :
    rprocVirtioNotified rpvdev id = [] := by
  unfold rprocVirtioNotified
  split_ifs
  · rfl
  · rw [List.map_eq_nil_iff, List.filter_eq_nil_iff]
    intro i _
    simp only [hany, or_false, decide_eq_true_eq]
    exact fun hget => hid (List.mem_of_getElem? hget)

/-- A notification with the id of a vring runs its callback and no other, unless the device has that
id for its own. -/
theorem getNotification_eq {vdevs : List RemoteprocVirtio} (hrpvdev : rpvdev ∈ vdevs)
    (hid : rpvdev.vringsInfo[i]? = some id) (hnodup : rpvdev.vringsInfo.Nodup)
    (hany : id ≠ RSC_NOTIFY_ID_ANY) (hdistinct : (vdevs.map RemoteprocVirtio.vdevRsc).Nodup)
    (hother : ∀ other ∈ vdevs, id ∈ other.vringsInfo → other.vdevRsc = rpvdev.vdevRsc) :
    remoteprocGetNotification vdevs id =
      if rpvdev.notifyid = id then [] else [(rpvdev.vdevRsc, i)] := by
  obtain ⟨front, back, rfl⟩ := List.append_of_mem hrpvdev
  rw [List.map_append, List.map_cons, List.nodup_middle, List.nodup_cons] at hdistinct
  have hnil : ∀ other ∈ front ++ back, rprocVirtioNotified other id = [] := by
    intro other hmem
    apply notified_eq_nil _ hany
    intro hother'
    have hmem' : other ∈ front ++ rpvdev :: back :=
      List.mem_append.mpr ((List.mem_append.mp hmem).imp_right (List.mem_cons_of_mem _))
    apply hdistinct.1
    rw [← hother other hmem' hother', ← List.map_append]
    exact List.mem_map_of_mem hmem
  have hfront : front.flatMap (rprocVirtioNotified · id) = [] :=
    List.flatMap_eq_nil_iff.mpr fun other h => hnil other (List.mem_append_left _ h)
  have hback : back.flatMap (rprocVirtioNotified · id) = [] :=
    List.flatMap_eq_nil_iff.mpr fun other h => hnil other (List.mem_append_right _ h)
  rw [remoteprocGetNotification, List.flatMap_append, List.flatMap_cons, hfront, hback,
    notified_eq hid hnodup hany]
  simp

theorem ne_iff_of_getElem? {numbers : List Nat} {j x : Nat} (hnodup : numbers.Nodup)
    (hj : numbers[j]? = some x) (hi : numbers[i]? = some id) : x ≠ id ↔ j ≠ i := by
  have hlt : j < numbers.length := (List.getElem?_eq_some_iff.mp hj).1
  apply not_congr
  rw [← Option.some_inj, ← hj, ← hi, List.getElem?_inj hlt hnodup]

section LastIds

variable {init : List Nat} {last : Nat}

/-- The first parse leaves the id of the last vring. -/
theorem parsed_notifyid (hnodup : rsc.notifyIds.Nodup) (hvrings : rsc.vringIds = init ++ [last]) :
    rsc.parsed.notifyid = last := by
  have hnotMem : rsc.notifyid ∉ rsc.vringIds := (List.nodup_cons.mp hnodup).1
  have hall : rsc.vringIds.filter (· ≠ rsc.notifyid) = rsc.vringIds := by
    apply List.filter_eq_self.mpr
    intro id hid
    refine decide_eq_true fun heq => hnotMem ?_
    rwa [← heq]
  show (rsc.vringIds.filter (· ≠ rsc.notifyid)).getLastD rsc.notifyid = last
  rw [hall, hvrings, List.getLastD_concat]

/-- The second parse finds that id taken by the vdev and leaves the one before. -/
theorem parsed_parsed_notifyid (hnodup : rsc.notifyIds.Nodup)
    (hvrings : rsc.vringIds = init ++ [last]) :
    rsc.parsed.parsed.notifyid = init.getLastD last := by
  have hnodupVrings : (init ++ [last]).Nodup := hvrings ▸ (List.nodup_cons.mp hnodup).2
  have hlast : last ∉ init := fun hmem =>
    (List.nodup_append.mp hnodupVrings).2.2 last hmem last (List.mem_singleton_self _) rfl
  have hinit : (init ++ [last]).filter (· ≠ last) = init := by
    rw [List.filter_append, List.filter_cons_of_neg (by simp), List.filter_nil, List.append_nil]
    apply List.filter_eq_self.mpr
    intro id hid
    refine decide_eq_true fun heq => hlast ?_
    rwa [← heq]
  show (rsc.vringIds.filter (· ≠ rsc.parsed.notifyid)).getLastD rsc.parsed.notifyid = _
  rw [parsed_notifyid hnodup hvrings, hvrings, hinit]

end LastIds

theorem parsed_notifyid_ne_iff (hnodup : rsc.notifyIds.Nodup) (hid : rsc.vringIds[i]? = some id) :
    rsc.parsed.notifyid ≠ id ↔ i + 1 ≠ rsc.vring.length := by
  have hlength : rsc.vringIds.length = rsc.vring.length := List.length_map _
  rcases List.eq_nil_or_concat' rsc.vringIds with hnil | ⟨init, last, hvrings⟩
  · simp [hnil] at hid
  · rw [parsed_notifyid hnodup hvrings, ← hlength]
    have hnodupVrings := (List.nodup_cons.mp hnodup).2
    have hlast : rsc.vringIds[init.length]? = some last := by simp [hvrings]
    rw [ne_iff_of_getElem? hnodupVrings hlast hid, hvrings, List.length_append,
      List.length_singleton]
    omega

theorem parsed_parsed_notifyid_ne_iff (hnodup : rsc.notifyIds.Nodup)
    (hid : rsc.vringIds[i]? = some id) :
    rsc.parsed.parsed.notifyid ≠ id ↔ 2 ≤ rsc.vring.length ∧ i + 2 ≠ rsc.vring.length := by
  have hlength : rsc.vringIds.length = rsc.vring.length := List.length_map _
  have hlt : i < rsc.vringIds.length := (List.getElem?_eq_some_iff.mp hid).1
  have hnodupVrings := (List.nodup_cons.mp hnodup).2
  rcases List.eq_nil_or_concat' rsc.vringIds with hnil | ⟨init, last, hvrings⟩
  · simp [hnil] at hid
  rw [parsed_parsed_notifyid hnodup hvrings, ← hlength]
  rcases List.eq_nil_or_concat' init with rfl | ⟨init, previous, rfl⟩
  · -- with a single vring the second parse has nothing else to leave
    have hlast : rsc.vringIds[0]? = some last := by simp [hvrings]
    rw [List.getLastD_nil, ne_iff_of_getElem? hnodupVrings hlast hid]
    simp only [hvrings, List.nil_append, List.length_singleton] at hlt ⊢
    omega
  · have hprevious : rsc.vringIds[init.length]? = some previous := by simp [hvrings]
    rw [List.getLastD_concat, ne_iff_of_getElem? hnodupVrings hprevious hid]
    simp only [hvrings, List.length_append, List.length_singleton] at hlt ⊢
    omega

theorem VdevInv.device {d : Nat} (hinv : VdevInv rscs s) (hready : s.Ready) (role : Role)
    (hd : rscs[d]? = some rsc) :
    ∃ rpvdev ∈ (s.rproc role).vdevs, rpvdev.vdevRsc = d ∧ rpvdev.vringsInfo = rsc.vringIds ∧
      ((CreatedEarly s.history role d ∧ rpvdev.notifyid = rsc.parsed.notifyid) ∨
        (¬ CreatedEarly s.history role d ∧ rpvdev.notifyid = rsc.parsed.parsed.notifyid)) := by
  have hlength : (rscVdevs s.table.entries).length = rscs.length := by
    rw [hinv.parsed role (hready role).1]
    split_ifs <;> exact List.length_map _
  have hlt : d < (rscVdevs s.table.entries).length := by
    rw [hlength]
    exact (List.getElem?_eq_some_iff.mp hd).1
  have hmem := (hinv.mem_vdevs role d).mp ((hready role).2 d hlt)
  obtain ⟨rpvdev, hrpvdev, rfl⟩ := List.mem_map.mp hmem
  obtain ⟨rsc', hrsc', hvrings, hnotifyid⟩ := hinv.created role rpvdev hrpvdev
  obtain rfl : rsc' = rsc := Option.some.inj (hrsc'.symm.trans hd)
  exact ⟨rpvdev, hrpvdev, rfl, hvrings, hnotifyid⟩

/-- A kick arrives at a device that does not have the id of the vring for its own. -/
theorem VdevInv.dispatched_iff {d : Nat} (hinv : VdevInv rscs s) (hready : s.Ready)
    (hnodup : (rscs.flatMap FwRscVdev.notifyIds).Nodup) (hd : rscs[d]? = some rsc)
    (hid : rsc.vringIds[i]? = some id) (hany : id ≠ RSC_NOTIFY_ID_ANY) {sender : Role}
    (hrpvdev : rpvdev ∈ (s.rproc sender.peer).vdevs) (hrsc : rpvdev.vdevRsc = d)
    (hvrings : rpvdev.vringsInfo = rsc.vringIds) :
    s.Dispatched sender d i ↔ rpvdev.notifyid ≠ id := by
  have hmemId : id ∈ rsc.notifyIds := List.mem_cons_of_mem _ (List.mem_of_getElem? hid)
  have hnodupIds : rsc.notifyIds.Nodup :=
    (List.nodup_flatMap.mp hnodup).1 rsc (List.mem_of_getElem? hd)
  have hother : ∀ other ∈ (s.rproc sender.peer).vdevs, id ∈ other.vringsInfo →
      other.vdevRsc = rpvdev.vdevRsc := by
    intro other hmem hmemOther
    obtain ⟨rsc', hrsc', hvrings', -⟩ := hinv.created sender.peer other hmem
    rw [hrsc]
    rw [hvrings'] at hmemOther
    exact eq_of_mem_notifyIds hnodup hrsc' hd (List.mem_cons_of_mem _ hmemOther) hmemId
  have hnotification := getNotification_eq hrpvdev (by rwa [hvrings])
    (by rw [hvrings]; exact (List.nodup_cons.mp hnodupIds).2) hany (hinv.nodup _) hother
  have hkick : s.Dispatched sender d i ↔
      remoteprocGetNotification (s.rproc sender.peer).vdevs id = [(d, i)] := by
    obtain ⟨sent, hsent, hsentRsc, hsentVrings, -⟩ := hinv.device hready sender hd
    constructor
    · rintro ⟨other, hmem, rfl, id', hid', harrives⟩
      obtain ⟨rsc', hrsc', hvrings', -⟩ := hinv.created sender other hmem
      obtain rfl : rsc' = rsc := Option.some.inj (hrsc'.symm.trans hd)
      rw [rprocVirtioVirtqueueNotify, hvrings'] at hid'
      obtain rfl : id' = id := Option.some.inj (hid'.symm.trans hid)
      exact harrives
    · intro harrives
      exact ⟨sent, hsent, hsentRsc, id, by rwa [rprocVirtioVirtqueueNotify, hsentVrings], harrives⟩
  rw [hkick, hnotification, hrsc]
  split_ifs with heq <;> simp [heq]

/-- When both sides are ready, a kick of a vring arrives just if the device on the other side does not
have the id of the vring for its own: it was created after one parse and this is not its last vring,
or after both and this is not its last but one, and not its only one. -/
theorem notification_arrives {args : Role → ParseArgs} {table : ResourceTable}
    (hids : ∀ id ∈ table.notifyIds, id < METAL_BITS_PER_ULONG) (hnodup : table.notifyIds.Nodup)
    (hs : Run.Reachable VdevSystem.Allowed (VdevSystem.step args) (.start table) s)
    (hready : s.Ready) (sender : Role) {d : Nat}
    (hd : (rscVdevs table.entries)[d]? = some rsc) (hi : i < rsc.vring.length) :
    s.Dispatched sender d i ↔
      (CreatedEarly s.history sender.peer d ∧ i + 1 ≠ rsc.vring.length) ∨
        (¬ CreatedEarly s.history sender.peer d ∧
          2 ≤ rsc.vring.length ∧ i + 2 ≠ rsc.vring.length) := by
  have hinv := VdevInv.of_reachable hids hnodup hs
  have hnodupIds : rsc.notifyIds.Nodup :=
    (List.nodup_flatMap.mp hnodup).1 rsc (List.mem_of_getElem? hd)
  obtain ⟨id, hid⟩ : ∃ id, rsc.vringIds[i]? = some id :=
    ⟨_, List.getElem?_eq_getElem (by simpa [FwRscVdev.vringIds] using hi)⟩
  have hany : id ≠ RSC_NOTIFY_ID_ANY := by
    apply ne_any_of_lt (hids id _)
    apply List.mem_flatMap.mpr
    exact ⟨rsc, List.mem_of_getElem? hd, List.mem_cons_of_mem _ (List.mem_of_getElem? hid)⟩
  obtain ⟨rpvdev, hrpvdev, hrsc, hvrings, hnotifyid⟩ := hinv.device hready sender.peer hd
  rw [hinv.dispatched_iff hready hnodup hd hid hany hrpvdev hrsc hvrings]
  rcases hnotifyid with ⟨hearly, heq⟩ | ⟨hlate, heq⟩
  · rw [heq, parsed_notifyid_ne_iff hnodupIds hid]
    simp [hearly]
  · rw [heq, parsed_parsed_notifyid_ne_iff hnodupIds hid]
    simp [hlate]

end Dispatch

instance VdevSystem.decidableAllowed (s : VdevSystem) (action : VdevAction) :
    Decidable (s.Allowed action) :=
  match action with
  | .parse role => inferInstanceAs (Decidable (.parse role ∉ s.history))
  | .create role vdevId =>
      inferInstanceAs (Decidable (.parse role ∈ s.history ∧ .create role vdevId ∉ s.history))

/-- Both sides with no more than the table, which is all inside the region. -/
def plainArgs (size : Nat) (_ : Role) : ParseArgs := ⟨plainOps, fun _ => true, size⟩

def VdevSystem.run (table : ResourceTable) (size : Nat) (actions : List VdevAction) :
    Option VdevSystem :=
  Run.exec (fun s action => if s.Allowed action then s.step (plainArgs size) action else none)
    (.start table) actions

theorem VdevSystem.reachable_of_run {table : ResourceTable} {size : Nat} {actions : List VdevAction}
    {s : VdevSystem} (hrun : VdevSystem.run table size actions = some s) :
    Run.Reachable VdevSystem.Allowed (VdevSystem.step (plainArgs size)) (.start table) s :=
  Run.reachable_of_exec .start hrun

/-- The master is done before the slave parses the table, and hears of the first of two vrings. -/
theorem notification_arrives_early :
    ∃ s : VdevSystem, (s.rproc .master).vdevs = [⟨0, 2, [1, 2]⟩] ∧ s.Dispatched .slave 0 0 := by
  have hrun : (VdevSystem.run (vdevTable [(20, 0, [1, 2])]) 88
      [.parse .master, .create .master 0, .parse .slave, .create .slave 0]).map
        (fun s => (s.history, s.table, (s.rproc .master).vdevs)) =
      some ([.parse .master, .create .master 0, .parse .slave, .create .slave 0],
        vdevTable [(20, 1, [1, 2])], [⟨0, 2, [1, 2]⟩]) := by
    decide +kernel
  obtain ⟨s, hexec, hview⟩ := Option.map_eq_some_iff.mp hrun
  simp only [Prod.mk.injEq] at hview
  obtain ⟨hhistory, htable, hmaster⟩ := hview
  have hready : s.Ready := by
    unfold VdevSystem.Ready
    rw [hhistory, htable]
    intro role
    cases role <;> decide
  have hearly : CreatedEarly s.history Role.slave.peer 0 := by
    rw [hhistory]
    exact ⟨[.parse .master], [.parse .slave, .create .slave 0], rfl, by decide⟩
  exact ⟨s, hmaster, (notification_arrives (by decide) (by decide)
    (VdevSystem.reachable_of_run hexec) hready .slave rfl (by decide)).mpr
    (.inl ⟨hearly, by decide⟩)⟩

/-- Both sides parse before either creates its device: neither hears of the first of two vrings. -/
theorem notification_lost :
    ∃ args table s sender d rsc i, (∀ id ∈ table.notifyIds, id < METAL_BITS_PER_ULONG) ∧
      table.notifyIds.Nodup ∧
      Run.Reachable VdevSystem.Allowed (VdevSystem.step args) (.start table) s ∧ s.Ready ∧
      (rscVdevs table.entries)[d]? = some rsc ∧ i < rsc.vring.length ∧
      ¬ s.Dispatched sender d i := by
  have hrun : (VdevSystem.run (vdevTable [(20, 0, [1, 2])]) 88
      [.parse .master, .parse .slave, .create .master 0, .create .slave 0]).map
        (fun s => (s.history, s.table, (s.rproc .master).vdevs, (s.rproc .slave).vdevs)) =
      some ([.parse .master, .parse .slave, .create .master 0, .create .slave 0],
        vdevTable [(20, 1, [1, 2])], [⟨0, 1, [1, 2]⟩], [⟨0, 1, [1, 2]⟩]) := by
    decide +kernel
  obtain ⟨s, hexec, hview⟩ := Option.map_eq_some_iff.mp hrun
  simp only [Prod.mk.injEq] at hview
  obtain ⟨hhistory, htable, hmaster, hslave⟩ := hview
  have hready : s.Ready := by
    unfold VdevSystem.Ready
    rw [hhistory, htable]
    intro role
    cases role <;> decide
  refine ⟨plainArgs 88, vdevTable [(20, 0, [1, 2])], s, .master, 0, ⟨0, [⟨1⟩, ⟨2⟩]⟩, 0, by decide,
    by decide, VdevSystem.reachable_of_run hexec, hready, rfl, by decide, ?_⟩
  rintro ⟨rpvdev, hmem, -, id, hid, harrives⟩
  rw [hmaster, List.mem_singleton] at hmem
  obtain rfl : 1 = id := by simpa [hmem, rprocVirtioVirtqueueNotify] using hid
  rw [Role.peer, hslave] at harrives
  exact absurd harrives (by decide)

end OpenAmp
