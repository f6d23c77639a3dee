import Mathlib.Data.List.Nodup
import OpenAmp.Library.FirstMatch
import OpenAmp.Proof.NotifyDispatch
import OpenAmp.VdevCreate

/-!
# The list of virtio devices, and what a failed creation frees
-/

namespace OpenAmp

/-! ### One call -/

section Calls

variable {env : VdevEnv} {entries : List (Nat × VdevRscEntry)} {vdevs : List RpVdev} {vdevId : Int}
  {role : Role} {out : VdevCreated} {vdev : RpVdev} {rsc : FwRscVdevRings}

theorem lockedOnce {middle : List VdevEvent} (h : Unlocked middle) :
    LockedOnce ([.acquired] ++ middle ++ [.released]) := ⟨middle, rfl, h⟩

theorem Unlocked.append {events events' : List VdevEvent} (h : Unlocked events)
    (h' : Unlocked events') : Unlocked (events ++ events') := by
  simp_all [Unlocked]

theorem unlocked_removeVdev : Unlocked (rprocVirtioRemoveVdev vdev) := by
  simp [Unlocked, rprocVirtioRemoveVdev]

theorem unlocked_createVdev : Unlocked (rprocVirtioCreateVdevWith env role vdevId rsc).2 := by
  unfold rprocVirtioCreateVdevWith
  split_ifs
  · simp [Unlocked]
  · simp [Unlocked]
  · rcases allocateVqs env role 0 rsc.vring with ⟨vqs, _ | _⟩
    · simp [Unlocked]
    · cases role <;> simp [Unlocked]

theorem createVdev_some (h : (rprocVirtioCreateVdevWith env role vdevId rsc).1 = some vdev) :
    vdev.addr = env.rpvdev ∧ vdev.notifyid = rsc.notifyid ∧ vdev.vdevId = vdevId := by
  unfold rprocVirtioCreateVdevWith at h
  split_ifs at h
  rcases hvqs : allocateVqs env role 0 rsc.vring with ⟨vqs, _ | _⟩
  · simp [hvqs] at h
  · simp only [hvqs, if_true, Option.some.injEq] at h
    subst h
    exact ⟨rfl, rfl, rfl⟩

theorem mapVrings_notifyids {vringsNum : Nat} (vrings : List FwRscVdevVringRing) (i : Nat)
    {infos : List VirtioVringInfo} (h : mapVrings env vringsNum i vrings = some infos) :
    infos.map VirtioVringInfo.notifyid = vrings.map fun vring => vring.notifyid := by
  induction vrings generalizing i infos with
  | nil =>
      obtain rfl := Option.some.inj h
      rfl
  | cons vring vrings ih =>
      rw [mapVrings] at h
      split_ifs at h
      unfold rprocVirtioInitVring at h
      split_ifs at h
      obtain ⟨rest, hrest, rfl⟩ := Option.map_eq_some_iff.mp h
      rw [List.map_cons, List.map_cons, ih (i + 1) hrest]

/-- With its vrings a device has the ids of its resource. -/
theorem createVdev_ids (h : (rprocVirtioCreateVdevWith env role vdevId rsc).1 = some vdev)
    {vrings : List VirtioVringInfo} (hmap : mapVrings env rsc.vring.length 0 rsc.vring = some vrings) :
    RpVdev.ids { vdev with vrings } = rprocVirtioCreateVdev vdevId.toNat rsc.ids := by
  obtain ⟨-, hid, hnumber⟩ := createVdev_some h
  unfold RpVdev.ids rprocVirtioCreateVdev FwRscVdevRings.ids
  dsimp only
  rw [hnumber, hid, mapVrings_notifyids rsc.vring 0 hmap, List.map_map]
  rfl

/-- All that a call can do to the list: find the device, fail, or add one. -/
inductive CreateOutcome (env : VdevEnv) (entries : List (Nat × VdevRscEntry)) (vdevs : List RpVdev)
    (vdevId : Int) (out : VdevCreated) : Prop where
  | missing (hrsc : vdevRscAt entries vdevId = none) (hvdevs : out.vdevs = vdevs)
      (hret : out.ret = none)
  | found (rsc : FwRscVdevRings) (vdev : RpVdev) (hrsc : vdevRscAt entries vdevId = some rsc)
      (hfind : vdevs.find? (·.notifyid = rsc.notifyid) = some vdev)
      (hout : out = ⟨vdevs, some vdev, [.acquired, .released]⟩)
  | failed (rsc : FwRscVdevRings) (hrsc : vdevRscAt entries vdevId = some rsc)
      (hfind : vdevs.find? (·.notifyid = rsc.notifyid) = none)
      (hvdevs : out.vdevs = vdevs) (hret : out.ret = none)
  | created (rsc : FwRscVdevRings) (vdev : RpVdev) (hrsc : vdevRscAt entries vdevId = some rsc)
      (hfind : vdevs.find? (·.notifyid = rsc.notifyid) = none)
      (haddr : vdev.addr = env.rpvdev) (hid : vdev.notifyid = rsc.notifyid)
      (hids : vdev.ids = rprocVirtioCreateVdev vdevId.toNat rsc.ids)
      (hvdevs : out.vdevs = vdevs ++ [vdev]) (hret : out.ret = some vdev)

/-- The device that has been added last is taken out again, if no other lies at its address. -/
theorem vdevListDel_append (h : vdev.addr ∉ vdevs.map RpVdev.addr) :
    vdevListDel (vdevs ++ [vdev]) vdev.addr = vdevs := by
  have hother : ∀ other ∈ vdevs, ¬ (decide (other.addr = vdev.addr)) = true := by
    intro other hmem heq
    exact h (List.mem_map.mpr ⟨other, hmem, of_decide_eq_true heq⟩)
  rw [vdevListDel, List.eraseP_append_right _ hother]
  simp

theorem createVirtio_outcome (hfresh : env.rpvdev ∉ vdevs.map RpVdev.addr)
    (h : remoteprocCreateVirtioWith env entries vdevs vdevId role = some out) :
    CreateOutcome env entries vdevs vdevId out ∧ LockedOnce out.events := by
  unfold remoteprocCreateVirtioWith at h
  cases hrsc : vdevRscAt entries vdevId with
  | none =>
      simp only [hrsc, Option.some.injEq] at h
      subst h
      exact ⟨.missing hrsc rfl rfl, @lockedOnce [] (by simp [Unlocked])⟩
  | some rsc =>
      simp only [hrsc] at h
      cases hfind : vdevs.find? (·.notifyid = rsc.notifyid) with
      | some vdev =>
          simp only [hfind, Option.some.injEq] at h
          subst h
          exact ⟨.found rsc vdev hrsc hfind rfl, @lockedOnce [] (by simp [Unlocked])⟩
      | none =>
          simp only [hfind] at h
          have hunlocked := @unlocked_createVdev env vdevId role rsc
          have hvdev := @createVdev_some env vdevId role
          have hids := @createVdev_ids env vdevId role
          rcases hcreate : rprocVirtioCreateVdevWith env role vdevId rsc with ⟨_ | vdev, events⟩
          · simp only [hcreate, Option.some.injEq] at h hunlocked
            subst h
            exact ⟨.failed rsc hrsc hfind rfl rfl, lockedOnce hunlocked⟩
          · simp only [hcreate] at h hunlocked
            obtain ⟨haddr, hid, -⟩ := hvdev (congrArg Prod.fst hcreate)
            split_ifs at h
            cases hmap : mapVrings env rsc.vring.length 0 rsc.vring with
            | some vrings =>
                simp only [hmap, Option.some.injEq] at h
                subst h
                exact ⟨.created rsc { vdev with vrings } hrsc hfind haddr hid
                  (hids (congrArg Prod.fst hcreate) hmap) rfl rfl, lockedOnce hunlocked⟩
            | none =>
                simp only [hmap, remoteprocRemoveVirtio, Option.some.injEq] at h
                subst h
                refine ⟨.failed rsc hrsc hfind (vdevListDel_append (by rwa [haddr])) rfl, ?_⟩
                rw [List.append_assoc [VdevEvent.acquired]]
                exact lockedOnce (hunlocked.append unlocked_removeVdev)

end Calls

/-! ### Runs -/

/-- No two devices of the list have the same id or lie at the same address. -/
structure VdevsInv (vdevs : List RpVdev) : Prop where
  ids : (vdevs.map RpVdev.notifyid).Nodup
  addrs : (vdevs.map RpVdev.addr).Nodup

section Runs

variable {entries : List (Nat × VdevRscEntry)} {vdevs vdevs' : List RpVdev}

theorem VdevsInv.create (h : VdevsInv vdevs) {env : VdevEnv} {vdevId : Int} {role : Role}
    {out : VdevCreated} (hfresh : env.rpvdev ∉ vdevs.map RpVdev.addr)
    (hcall : remoteprocCreateVirtioWith env entries vdevs vdevId role = some out) :
    VdevsInv out.vdevs := by
  cases (createVirtio_outcome hfresh hcall).1 with
  | missing hrsc hvdevs hret => rwa [hvdevs]
  | found rsc vdev hrsc hfind hout => rwa [hout]
  | failed rsc hrsc hfind hvdevs hret => rwa [hvdevs]
  | created rsc vdev hrsc hfind haddr hid hids hvdevs hret =>
      have hnew : vdev.notifyid ∉ vdevs.map RpVdev.notifyid := by
        intro hmem
        obtain ⟨other, hother, heq⟩ := List.mem_map.mp hmem
        have hne := List.find?_eq_none.mp hfind other hother
        exact hne (decide_eq_true (heq.trans hid))
      rw [hvdevs]
      constructor
      · simpa using List.Nodup.concat hnew h.ids
      · simpa using List.Nodup.concat (haddr ▸ hfresh) h.addrs

theorem VdevsInv.step (h : VdevsInv vdevs) {call : VdevCall} (hallowed : VdevAllowed vdevs call)
    (hstep : vdevStep entries vdevs call = some vdevs') : VdevsInv vdevs' := by
  cases call with
  | create env vdevId role =>
      obtain ⟨out, hcall, rfl⟩ := Option.map_eq_some_iff.mp hstep
      exact h.create hallowed hcall
  | remove vdev =>
      obtain rfl := Option.some.inj hstep
      have hsub : (vdevListDel vdevs vdev.addr).Sublist vdevs := List.eraseP_sublist
      exact ⟨h.ids.sublist (hsub.map _), h.addrs.sublist (hsub.map _)⟩

theorem VdevsInv.find? (h : VdevsInv vdevs) {vdev : RpVdev} (hmem : vdev ∈ vdevs) {notifyid : Nat}
    (hid : vdev.notifyid = notifyid) : vdevs.find? (·.notifyid = notifyid) = some vdev := by
  obtain ⟨found, hfind⟩ := @FirstMatch.exists_find? _ (·.notifyid = notifyid) _ _ _ hmem hid
  obtain ⟨hfound, hid'⟩ := FirstMatch.of_find? hfind
  have heq : found = vdev := List.inj_on_of_nodup_map h.ids hfound hmem (hid'.trans hid.symm)
  rwa [heq] at hfind

theorem VdevsInv.sound (h : VdevsInv vdevs) {env : VdevEnv} {vdevId : Int} {role : Role}
    {out : VdevCreated} (hfresh : env.rpvdev ∉ vdevs.map RpVdev.addr)
    (hcall : remoteprocCreateVirtioWith env entries vdevs vdevId role = some out) :
    out.Sound entries vdevs vdevId := by
  obtain ⟨houtcome, hlocked⟩ := createVirtio_outcome hfresh hcall
  refine ⟨fun rsc hrsc vdev hmem hid => ?_, fun hnull => ?_, hlocked⟩
  · have hpresent := h.find? hmem hid
    cases houtcome with
    | missing hrsc' hvdevs hret => exact nomatch hrsc.symm.trans hrsc'
    | found rsc' vdev' hrsc' hfind hout =>
        obtain rfl := Option.some.inj (hrsc.symm.trans hrsc')
        obtain rfl := Option.some.inj (hpresent.symm.trans hfind)
        exact hout
    | failed rsc' hrsc' hfind hvdevs hret =>
        obtain rfl := Option.some.inj (hrsc.symm.trans hrsc')
        exact nomatch hpresent.symm.trans hfind
    | created rsc' vdev' hrsc' hfind haddr hid' hids hvdevs hret =>
        obtain rfl := Option.some.inj (hrsc.symm.trans hrsc')
        exact nomatch hpresent.symm.trans hfind
  · cases houtcome with
    | missing hrsc' hvdevs hret => exact hvdevs
    | found rsc' vdev' hrsc' hfind hout => exact nomatch (congrArg VdevCreated.ret hout).symm.trans hnull
    | failed rsc' hrsc' hfind hvdevs hret => exact hvdevs
    | created rsc' vdev' hrsc' hfind haddr hid' hids hvdevs hret => exact nomatch hret.symm.trans hnull

end Runs

/-- After any calls no two devices have the same id; every call that creates a device finds the one
that is there already, leaves the list alone if it returns NULL, and releases the lock once; and a
call that removes one leaves the lock alone. -/
theorem vdev_list_sound (entries : List (Nat × VdevRscEntry)) (vdevs : List RpVdev)
    (hs : Run.Reachable VdevAllowed (vdevStep entries) [] vdevs) :
    (vdevs.map RpVdev.notifyid).Nodup ∧
      (∀ env vdevId role, VdevAllowed vdevs (.create env vdevId role) → ∀ out,
        remoteprocCreateVirtioWith env entries vdevs vdevId role = some out →
          out.Sound entries vdevs vdevId) ∧
      ∀ vdev, Unlocked (remoteprocRemoveVirtio vdevs vdev).2 := by
  have h : VdevsInv vdevs := hs.invariant ⟨.nil, .nil⟩ fun _ _ _ hinv hallowed hstep =>
    hinv.step hallowed hstep
  refine ⟨h.ids, fun env vdevId role hfresh out hcall => h.sound hfresh hcall, fun vdev => ?_⟩
  exact unlocked_removeVdev

/-- A platform with memory from an address on, that maps the vrings with the given indices. -/
def vdevEnv (addr : Nat) (mapped : List Nat) : VdevEnv where
  rpvdev := addr
  vringsInfo := addr + 1
  vq i _ := addr + 2 + i
  left _ := NULL
  mmap i _ _ := if i ∈ mapped then 4096 else NULL
  driverOk := true

/-- Two vdevs of two vrings. -/
def twoVdevs : List (Nat × VdevRscEntry) :=
  [(32, .vdev ⟨1, 0, [⟨⟨2⟩, 0, 4096, 4⟩, ⟨⟨3⟩, 0, 4096, 4⟩]⟩),
    (128, .vdev ⟨4, 0, [⟨⟨5⟩, 0, 4096, 4⟩, ⟨⟨6⟩, 0, 4096, 4⟩]⟩)]

/-- The second device cannot be created at first, for lack of a mapping of its last vring. -/
theorem vdev_list_sound_retry :
    ∃ vdevs, vdevs.map RpVdev.notifyid = [1, 4] ∧ (vdevs.map RpVdev.notifyid).Nodup ∧
      ∀ out, remoteprocCreateVirtioWith (vdevEnv 256 []) twoVdevs vdevs 1 .master = some out →
        out.Sound twoVdevs vdevs 1 := by
  obtain ⟨vdevs, hs, hobs⟩ := Run.exists_reachable VdevAllowed (vdevStep twoVdevs) []
    [.create (vdevEnv 64 [0, 1]) 0 .slave, .create (vdevEnv 128 [0]) 1 .slave,
      .create (vdevEnv 192 [0, 1]) 1 .master]
    (fun vdevs => (vdevs.map RpVdev.notifyid, vdevs.map RpVdev.addr)) ([1, 4], [64, 192])
    (by decide +kernel)
  obtain ⟨hids, haddrs⟩ := Prod.mk.inj hobs
  have h := vdev_list_sound twoVdevs vdevs hs
  refine ⟨vdevs, hids, h.1, h.2.1 (vdevEnv 256 []) 1 .master ?_⟩
  change 256 ∉ vdevs.map RpVdev.addr
  rw [haddrs]
  decide

/-! ### The devices as notifications see them -/

section Ids

variable {env : VdevEnv} {entries : List (Nat × VdevRscEntry)} {vdevs : List RpVdev} {role : Role}
  {out : VdevCreated} {table : ResourceTable}

theorem findVdevRsc_eq (index : Nat) :
    (findVdevRsc index entries).map Prod.snd =
      (entries.filterMap fun entry => entry.2.vdev?)[index]? := by
  induction entries generalizing index with
  | nil => rfl
  | cons entry entries ih =>
      obtain ⟨offset, rsc | type⟩ := entry
      · cases index with
        | zero => rfl
        | succ index => exact ih index
      · exact ih index

theorem findVdevRsc_mem {index offset : Nat} {rsc : FwRscVdevRings}
    (h : findVdevRsc index entries = some (offset, rsc)) : (offset, .vdev rsc) ∈ entries := by
  induction entries generalizing index with
  | nil => exact nomatch h
  | cons entry entries ih =>
      obtain ⟨offset', rsc' | type⟩ := entry
      · cases index with
        | zero =>
            obtain ⟨rfl, rfl⟩ := Prod.mk.inj (Option.some.inj h)
            exact List.mem_cons_self
        | succ index => exact List.mem_cons_of_mem _ (ih h)
      · exact List.mem_cons_of_mem _ (ih h)

theorem EntriesOf.findRsc (h : EntriesOf table entries) {vdevId : Nat} (hid : vdevId < 2 ^ 32) :
    findRsc vdevId table.entries = (vdevRscAt entries vdevId).map FwRscVdevRings.ids := by
  have hindex : ofInt 32 (vdevId : Int) = vdevId := by
    unfold ofInt
    omega
  rw [findRsc_eq, h.vdevs, List.getElem?_map, ← findVdevRsc_eq, vdevRscAt, hindex]
  cases hfind : findVdevRsc vdevId entries with
  | none => rfl
  | some found =>
      obtain ⟨offset, rsc⟩ := found
      dsimp only
      rw [if_neg (h.offsets _ (findVdevRsc_mem hfind))]
      rfl

/-- Seen through the ids, a call does what a call on the list of devices does that finds all its memory,
or finds none. -/
theorem createVirtio_refines (htable : EntriesOf table entries) {vdevId : Nat} (hid : vdevId < 2 ^ 32)
    (hfresh : env.rpvdev ∉ vdevs.map RpVdev.addr)
    (h : remoteprocCreateVirtioWith env entries vdevs vdevId role = some out) :
    ∃ memory, remoteprocCreateVirtio memory table (vdevs.map RpVdev.ids) vdevId =
      (out.vdevs.map RpVdev.ids, out.ret.map RpVdev.ids) := by
  have hfound (rsc : FwRscVdevRings) :
      (vdevs.map RpVdev.ids).find? (·.notifyid = rsc.ids.notifyid) =
        (vdevs.find? (·.notifyid = rsc.notifyid)).map RpVdev.ids :=
    List.find?_map
  cases (createVirtio_outcome hfresh h).1 with
  | missing hrsc hvdevs hret =>
      refine ⟨true, ?_⟩
      rw [remoteprocCreateVirtio, htable.findRsc hid, hrsc, hvdevs, hret]
      rfl
  | found rsc vdev hrsc hfind hout =>
      refine ⟨true, ?_⟩
      rw [remoteprocCreateVirtio, htable.findRsc hid, hrsc, hout]
      dsimp only [Option.map_some]
      rw [hfound, hfind]
      rfl
  | failed rsc hrsc hfind hvdevs hret =>
      refine ⟨false, ?_⟩
      rw [remoteprocCreateVirtio, htable.findRsc hid, hrsc, hvdevs, hret]
      dsimp only [Option.map_some]
      rw [hfound, hfind]
      rfl
  | created rsc vdev hrsc hfind haddr hnotifyid hids hvdevs hret =>
      refine ⟨true, ?_⟩
      rw [remoteprocCreateVirtio, htable.findRsc hid, hrsc, hvdevs, hret]
      dsimp only [Option.map_some]
      rw [Int.toNat_natCast] at hids
      rw [hfound, hfind, List.map_append, ← hids]
      rfl

end Ids

/-! ### The vrings as `VdevOps` answers for them -/

section Ops

variable {env : VdevEnv} {ops : VdevOps} {role : Role}

theorem mapVrings_eq (hmmap : ∀ i, env.mmap i = ops.mmap) {vringsNum : Nat}
    (vrings : List FwRscVdevVringRing) (i : Nat) :
    mapVrings env vringsNum i vrings = remoteprocCreateVirtioVrings ops vringsNum i vrings := by
  induction vrings generalizing i with
  | nil => rfl
  | cons vring vrings ih =>
      unfold mapVrings remoteprocCreateVirtioVrings
      rw [hmmap i]
      dsimp only
      split_ifs
      · rfl
      · cases rprocVirtioInitVring vringsNum i vring.notifyid (ops.mmap vring.da (vringMapSize vring))
          vring.num vring.align with
        | error status => rfl
        | ok info => exact congrArg (Option.map (info :: ·)) (ih (i + 1))

theorem allocateVqs_eq (hvq : ∀ i n, env.vq i n ≠ NULL ↔ ops.allocate n = true)
    (vrings : List FwRscVdevVringRing) (i : Nat) :
    (allocateVqs env role i vrings).2 = rprocVirtioAllocateVqs ops role vrings := by
  have hextra (vring : FwRscVdevVringRing) :
      numExtraDesc role vring = if role = .master then vring.num else 0 := by
    cases role <;> rfl
  unfold rprocVirtioAllocateVqs
  induction vrings generalizing i with
  | nil => rfl
  | cons vring vrings ih =>
      rw [allocateVqs, List.all_cons, ← ih (i + 1), ← hextra]
      split_ifs with hfails
      · have hallocate := (not_congr (hvq i (numExtraDesc role vring))).mp (not_not_intro hfails)
        rw [Bool.eq_false_of_not_eq_true hallocate, Bool.false_and]
      · rw [(hvq i _).mp hfails, Bool.true_and]

/-- On a platform that answers alike for every vring, the loops leave what `remoteprocCreateVringsInfo`
has. -/
theorem remoteprocCreateVringsInfo_eq (hvq : ∀ i n, env.vq i n ≠ NULL ↔ ops.allocate n = true)
    (hmmap : ∀ i, env.mmap i = ops.mmap) (vrings : List FwRscVdevVringRing) :
    remoteprocCreateVringsInfo ops role vrings =
      if (allocateVqs env role 0 vrings).2 then mapVrings env vrings.length 0 vrings else none := by
  rw [remoteprocCreateVringsInfo, allocateVqs_eq hvq, mapVrings_eq hmmap]

end Ops

/-! ### Clean failure -/

section Failure

variable {env : VdevEnv} {role : Role} {vdevId : Int} {rsc : FwRscVdevRings}

theorem allocateVqs_ne (vrings : List FwRscVdevVringRing) (i : Nat) :
    ∀ vq ∈ (allocateVqs env role i vrings).1, vq ≠ NULL := by
  induction vrings generalizing i with
  | nil => simp [allocateVqs]
  | cons vring vrings ih =>
      rw [allocateVqs]
      split_ifs with hfails
      · simp
      · exact List.forall_mem_cons.mpr ⟨hfails, ih (i + 1)⟩

theorem StopsAt.cons {i count : Nat} {vring : FwRscVdevVringRing} {vrings : List FwRscVdevVringRing}
    (hvring : ¬ VqFails env role i vring) (h : StopsAt env role (i + 1) vrings count) :
    StopsAt env role i (vring :: vrings) (count + 1) := by
  obtain ⟨⟨failing, hat, hfails⟩, hearlier⟩ := h
  refine ⟨⟨failing, hat, ?_⟩, fun j hj other hother => ?_⟩
  · rwa [show i + (count + 1) = i + 1 + count by omega]
  · cases j with
    | zero =>
        obtain rfl := Option.some.inj hother
        exact hvring
    | succ j =>
        rw [show i + (j + 1) = i + 1 + j by omega]
        exact hearlier j (by omega) other hother

theorem allocateVqs_spec (vrings : List FwRscVdevVringRing) (i : Nat) :
    ((allocateVqs env role i vrings).2 = true ∧
        ∀ j vring, vrings[j]? = some vring → ¬ VqFails env role (i + j) vring) ∨
      ((allocateVqs env role i vrings).2 = false ∧
        StopsAt env role i vrings (allocateVqs env role i vrings).1.length) := by
  induction vrings generalizing i with
  | nil => exact .inl ⟨rfl, fun j vring hvring => by simp at hvring⟩
  | cons vring vrings ih =>
      rw [allocateVqs]
      split_ifs with hfails
      · exact .inr ⟨rfl, ⟨vring, rfl, hfails⟩, fun j hj => absurd hj (Nat.not_lt_zero j)⟩
      · rcases ih (i + 1) with ⟨hcomplete, hall⟩ | ⟨hcomplete, hstops⟩
        · refine .inl ⟨hcomplete, fun j other hother => ?_⟩
          cases j with
          | zero =>
              obtain rfl := Option.some.inj hother
              exact hfails
          | succ j =>
              rw [show i + (j + 1) = i + 1 + j by omega]
              exact hall j other hother
        · exact .inr ⟨hcomplete, hstops.cons hfails⟩

theorem StopsAt.unique {i count count' : Nat} {vrings : List FwRscVdevVringRing}
    (h : StopsAt env role i vrings count) (h' : StopsAt env role i vrings count') :
    count = count' := by
  obtain ⟨vring, hat, hfails⟩ := h.fails
  obtain ⟨vring', hat', hfails'⟩ := h'.fails
  rcases Nat.lt_trichotomy count count' with hlt | heq | hgt
  · exact absurd hfails (h'.earlier count hlt vring hat)
  · exact heq
  · exact absurd hfails' (h.earlier count' hgt vring' hat')

/-- The fields that `err1` finds set without having been written. -/
def strayVqs (env : VdevEnv) (k numVrings : Nat) : List Nat :=
  ((List.range' k (numVrings - k)).map fun i => if i = 0 then NULL else env.left i).filter (· ≠ NULL)

theorem strayVqs_eq_nil_iff {k numVrings : Nat} (hle : k ≤ numVrings) :
    strayVqs env k numVrings = [] ↔ ∀ i, k ≤ i → i < numVrings → i ≠ 0 → env.left i = NULL := by
  simp only [strayVqs, List.filter_eq_nil_iff, List.forall_mem_map, List.mem_range'_1,
    decide_eq_true_eq, not_not]
  refine ⟨fun h i hk hlt hne => ?_, fun h i hi => ?_⟩
  · simpa [hne] using h i ⟨hk, by omega⟩
  · by_cases hzero : i = 0
    · simp [hzero]
    · simpa [hzero] using h i hi.1 (by omega) hzero

theorem freedVqs_eq {vqs : List Nat} (hne : ∀ vq ∈ vqs, vq ≠ NULL) {numVrings : Nat}
    (hle : vqs.length ≤ numVrings) :
    freedVqs env vqs numVrings = vqs ++ strayVqs env vqs.length numVrings := by
  have hrange : List.range numVrings =
      List.range vqs.length ++ List.range' vqs.length (numVrings - vqs.length) := by
    have happend := List.range'_append_1 (s := 0) (m := vqs.length) (n := numVrings - vqs.length)
    rw [Nat.zero_add, Nat.add_sub_cancel' hle] at happend
    rw [List.range_eq_range', List.range_eq_range', ← happend]
  have hwritten : (List.range vqs.length).map (vqField env vqs) = vqs := by
    refine List.ext_getElem (by simp) fun i hi hi' => ?_
    simp [vqField, List.getElem?_eq_getElem hi']
  have hrest : (List.range' vqs.length (numVrings - vqs.length)).map (vqField env vqs) =
      (List.range' vqs.length (numVrings - vqs.length)).map
        fun i => if i = 0 then NULL else env.left i := by
    refine List.map_congr_left fun i hi => ?_
    rw [vqField, List.getElem?_eq_none (List.mem_range'_1.mp hi).1]
    rfl
  rw [freedVqs, hrange, List.map_append, List.filter_append, hwritten, hrest, strayVqs,
    List.filter_eq_self.mpr fun vq hvq => decide_eq_true (hne vq hvq)]

theorem filterMap_allocated (vqs : List Nat) :
    (vqs.map VdevEvent.allocated).filterMap VdevEvent.allocated? = vqs ∧
      (vqs.map VdevEvent.allocated).filterMap VdevEvent.freed? = [] := by
  constructor
  · rw [List.filterMap_map]
    exact List.filterMap_some
  · rw [List.filterMap_map]
    exact List.filterMap_eq_nil_iff.mpr fun _ _ => rfl

theorem filterMap_freed (vqs : List Nat) :
    (vqs.map VdevEvent.freed).filterMap VdevEvent.freed? = vqs ∧
      (vqs.map VdevEvent.freed).filterMap VdevEvent.allocated? = [] := by
  constructor
  · rw [List.filterMap_map]
    exact List.filterMap_some
  · rw [List.filterMap_map]
    exact List.filterMap_eq_nil_iff.mpr fun _ _ => rfl

/-- More blocks are freed than were allocated just if some stray pointer is freed with them. -/
theorem freed_perm_iff (first second : Nat) (vqs stray : List Nat) :
    (vqs ++ stray ++ [second, first]).Perm ([first, second] ++ vqs) ↔ stray = [] := by
  constructor
  · intro hperm
    have hlength := hperm.length_eq
    simp only [List.length_append, List.length_cons, List.length_nil] at hlength
    exact List.length_eq_zero_iff.mp (by omega)
  · rintro rfl
    rw [List.append_nil]
    exact List.perm_append_comm.trans (.append_right vqs (.swap ..))

theorem createVdev_stopped (hfirst : env.rpvdev ≠ NULL) (hsecond : env.vringsInfo ≠ NULL)
    (hcomplete : (allocateVqs env role 0 rsc.vring).2 = false) {k : Nat}
    (hk : (allocateVqs env role 0 rsc.vring).1.length = k) (hle : k ≤ rsc.vring.length) :
    (rprocVirtioCreateVdevWith env role vdevId rsc).1 = none ∧
      (((rprocVirtioCreateVdevWith env role vdevId rsc).2.filterMap VdevEvent.freed?).Perm
          ((rprocVirtioCreateVdevWith env role vdevId rsc).2.filterMap VdevEvent.allocated?) ↔
        strayVqs env k rsc.vring.length = []) := by
  have hne := @allocateVqs_ne env role rsc.vring 0
  unfold rprocVirtioCreateVdevWith
  rw [if_neg hfirst, if_neg hsecond]
  rcases hvqs : allocateVqs env role 0 rsc.vring with ⟨vqs, complete⟩
  rw [hvqs] at hcomplete hk hne
  obtain rfl : complete = false := hcomplete
  subst hk
  refine ⟨rfl, ?_⟩
  rw [← freed_perm_iff env.rpvdev env.vringsInfo vqs]
  simp only [Bool.false_eq_true, if_false, List.filterMap_append, filterMap_allocated,
    filterMap_freed, freedVqs_eq hne hle, List.nil_append, List.append_nil]

end Failure

/-- A failed call frees just what it has allocated exactly where the fields of the array that have not
been written hold NULL. -/
theorem fails_clean_iff (env : VdevEnv) (role : Role) (vdevId : Int) (rsc : FwRscVdevRings) :
    FailsClean env role vdevId rsc ↔ FieldsNull env role rsc := by
  by_cases hfirst : env.rpvdev = NULL
  · refine iff_of_true (fun _ => ?_) fun hne => absurd hfirst hne
    simp [rprocVirtioCreateVdevWith, hfirst]
  by_cases hsecond : env.vringsInfo = NULL
  · refine iff_of_true (fun _ => ?_) fun _ hne => absurd hsecond hne
    unfold rprocVirtioCreateVdevWith
    rw [if_neg hfirst, if_pos hsecond]
    exact ⟨rfl, .refl _⟩
  rcases @allocateVqs_spec env role rsc.vring 0 with ⟨-, hall⟩ | ⟨hcomplete, hstops⟩
  · have hnone : ∀ i vring, rsc.vring[i]? = some vring → ¬ VqFails env role i vring :=
      fun i vring hvring => by simpa using hall i vring hvring
    refine iff_of_true (fun hfails => ?_) fun _ _ k hstops => ?_
    · rcases hfails with hnull | hnull | ⟨i, vring, hvring, hfails⟩
      · exact absurd hnull hfirst
      · exact absurd hnull hsecond
      · exact absurd hfails (hnone i vring hvring)
    · obtain ⟨vring, hvring, hfails⟩ := hstops.fails
      exact absurd hfails (by simpa using hnone k vring hvring)
  · obtain ⟨vring, hvring, hfails⟩ := id hstops.fails
    have hle := (List.getElem?_eq_some_iff.mp hvring).1.le
    obtain ⟨hnull, hclean⟩ := @createVdev_stopped env role vdevId rsc hfirst hsecond hcomplete _ rfl hle
    have hallocation : AllocationFails env role rsc :=
      .inr (.inr ⟨_, vring, hvring, by simpa using hfails⟩)
    calc FailsClean env role vdevId rsc
        ↔ strayVqs env (allocateVqs env role 0 rsc.vring).1.length rsc.vring.length = [] := by
          rw [← hclean]
          exact ⟨fun h => (h hallocation).2, fun h _ => ⟨hnull, h⟩⟩
      _ ↔ _ := strayVqs_eq_nil_iff hle
      _ ↔ FieldsNull env role rsc := by
          constructor
          · intro h _ _ k hstops' i hk
            rw [hstops'.unique hstops] at hk
            exact h i hk
          · exact fun h => h hfirst hsecond _ hstops

/-- The virtqueue of the second of two vrings cannot be allocated, and its field holds an address that
was in the block before. -/
theorem failure_frees_stray :
    ¬ FailsClean { vdevEnv 64 [] with vq := fun i _ => if i = 0 then 66 else NULL, left := fun _ => 99 }
      .master 0 ⟨1, 0, [⟨⟨2⟩, 0, 4096, 4⟩, ⟨⟨3⟩, 0, 4096, 4⟩]⟩ := by
  intro hclean
  have hfails : AllocationFails
      { vdevEnv 64 [] with vq := fun i _ => if i = 0 then 66 else NULL, left := fun _ => 99 }
      .master ⟨1, 0, [⟨⟨2⟩, 0, 4096, 4⟩, ⟨⟨3⟩, 0, 4096, 4⟩]⟩ := .inr (.inr ⟨1, _, rfl, rfl⟩)
  exact absurd (hclean hfails).2 (by decide)

end OpenAmp
