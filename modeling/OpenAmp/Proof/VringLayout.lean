import Mathlib.Order.Interval.Set.Disjoint
import OpenAmp.Library.Alignment
import OpenAmp.VringLayout

/-!
# The layout of a vring and the sizes it can have

`vring_size` and `vring_init` round up separately, the one a size and the other an address. They
agree because the ring starts at a multiple of its alignment, and nothing is lost in the conversions
to `int` as long as the alignment leaves room in one.

Nothing between the resource entry and the virtqueue looks at the number of descriptors: it is cut to
16 bits on the way and then taken for a power of two.
-/

namespace OpenAmp

open Alignment

variable {num k base align value : Nat}

/-! ### Machine arithmetic without overflow -/

theorem alignUp_two_pow (hk : k ≤ 30) (hvalue : value + 2 ^ k - 1 < 2 ^ 64) :
    alignUp value (2 ^ k) = roundUp (2 ^ k) value := by
  have hpos := Nat.two_pow_pos k
  have hle : 2 ^ k ≤ 2 ^ 30 := Nat.pow_le_pow_right (by decide) hk
  have hsum : ((value : Int) + (2 ^ k : Nat) - 1) = (value + 2 ^ k - 1 : Nat) := by omega
  have hmask : (((2 ^ k : Nat) : Int) - 1) = (2 ^ k - 1 : Nat) := by omega
  have hnot : 2 ^ 64 - 1 - (2 ^ k - 1) = 2 ^ 64 - 2 ^ k := by omega
  unfold alignUp
  rw [hsum, hmask, ofInt_natCast hvalue, ofInt_natCast (by omega), hnot,
    add_and_mask_eq_roundUp (by omega) hvalue]

/-! ### The two formulas -/

/-- No conversion to `int` on the way to the size of a ring loses anything. -/
theorem vringSizes_two_pow (hnum : num ≤ 32768) (hk : k ≤ 30) :
    vringSizes num (2 ^ k) =
      ⟨num * 16, num * 18 + 6, roundUp (2 ^ k) (num * 18 + 6),
        roundUp (2 ^ k) (num * 18 + 6) + (num * 8 + 6)⟩ := by
  have hle : 2 ^ k ≤ 2 ^ 30 := Nat.pow_le_pow_right (by decide) hk
  have hround : roundUp (2 ^ k) (num * 18 + 6) ≤ num * 18 + 6 + 2 ^ k - 1 := roundUp_le
  have hdesc : u64 (num * sizeofVringDesc) = num * 16 := u64_of_lt (by unfold sizeofVringDesc; omega)
  have havail : u64 (num * 16 + (sizeofVringAvail + num * sizeofUint16 + sizeofUint16)) =
      num * 18 + 6 := by
    unfold sizeofVringAvail sizeofUint16
    rw [u64_of_lt] <;> omega
  have hused : u64 (roundUp (2 ^ k) (num * 18 + 6) +
      (sizeofVringUsed + num * sizeofVringUsedElem + sizeofUint16)) =
      roundUp (2 ^ k) (num * 18 + 6) + (num * 8 + 6) := by
    unfold sizeofVringUsed sizeofVringUsedElem sizeofUint16
    rw [u64_of_lt] <;> omega
  unfold vringSizes
  simp only [hdesc, ofInt_toInt32 (show num * 16 < 2 ^ 31 by omega), havail,
    ofInt_toInt32 (show num * 18 + 6 < 2 ^ 31 by omega), alignUp_two_pow hk
      (show num * 18 + 6 + 2 ^ k - 1 < 2 ^ 64 by omega),
    ofInt_toInt32 (show roundUp (2 ^ k) (num * 18 + 6) < 2 ^ 31 by omega), hused]

theorem vringSizes_lt (hnum : num ≤ 32768) (hk : k ≤ 30) :
    ∀ size ∈ (vringSizes num (2 ^ k)).toList, size < 2 ^ 31 := by
  have hle : 2 ^ k ≤ 2 ^ 30 := Nat.pow_le_pow_right (by decide) hk
  have hround : roundUp (2 ^ k) (num * 18 + 6) ≤ num * 18 + 6 + 2 ^ k - 1 := roundUp_le
  rw [vringSizes_two_pow hnum hk]
  simp only [VringSizes.toList, List.forall_mem_cons, List.not_mem_nil, false_implies, implies_true,
    and_true]
  omega

theorem vringSize_two_pow (hnum : num ≤ 32768) (hk : k ≤ 30) :
    vringSize num (2 ^ k) = (roundUp (2 ^ k) (num * 18 + 6) + (num * 8 + 6) : Nat) := by
  have hlt := vringSizes_lt hnum hk
  rw [vringSizes_two_pow hnum hk] at hlt
  rw [vringSize, vringSizes_two_pow hnum hk, toInt32_of_lt (hlt _ (by simp [VringSizes.toList]))]

/-- The ring ends where its size says, so nothing that `vring_init` adds up wraps. -/
theorem vringInit_two_pow (hk : k ≤ 30) (hbase : 2 ^ k ∣ base)
    (hwrap : base + (roundUp (2 ^ k) (num * 18 + 6) + (num * 8 + 6)) ≤ 2 ^ 64) :
    vringInit num base (2 ^ k) =
      ⟨num, base, base + num * 16, base + roundUp (2 ^ k) (num * 18 + 6)⟩ := by
  have hpos := Nat.two_pow_pos k
  have hround : num * 18 + 6 ≤ roundUp (2 ^ k) (num * 18 + 6) := le_roundUp hpos
  -- the used ring starts at a multiple of the alignment, and so does what lies past the last address
  have hroom : base + roundUp (2 ^ k) (num * 18 + 6) + 2 ^ k ≤ 2 ^ 64 := by
    have hused : 2 ^ k ∣ base + roundUp (2 ^ k) (num * 18 + 6) := Nat.dvd_add hbase dvd_roundUp
    have htop : 2 ^ k ∣ 2 ^ 64 := pow_dvd_pow 2 (by omega)
    obtain ⟨c, hc⟩ := hused
    obtain ⟨d, hd⟩ := htop
    have hcd : c < d := by
      apply Nat.lt_of_mul_lt_mul_left (a := 2 ^ k)
      omega
    calc base + roundUp (2 ^ k) (num * 18 + 6) + 2 ^ k = 2 ^ k * (c + 1) := by rw [hc, Nat.mul_succ]
      _ ≤ 2 ^ k * d := Nat.mul_le_mul_left _ hcd
      _ = 2 ^ 64 := hd.symm
  have havail : u64 (base + num * sizeofVringDesc) = base + num * 16 :=
    u64_of_lt (by unfold sizeofVringDesc; omega)
  have hend : u64 (availRingAddr (base + num * 16) num + sizeofUint16) = base + (num * 18 + 6) := by
    unfold availRingAddr sizeofVringAvail sizeofUint16
    rw [u64_of_lt] <;> omega
  unfold vringInit
  simp only [havail, hend,
    alignUp_two_pow hk (show base + (num * 18 + 6) + 2 ^ k - 1 < 2 ^ 64 by omega),
    roundUp_add_of_dvd hpos hbase]

/-! ### The layout -/

/-- The parts lie apart from each other in the `size` bytes from `base` on, from the first of these
to the last, and leave nothing out but the padding in front of the used ring. -/
structure VringAddrs.LaidOut (vr : VringAddrs) (base align size : Nat) : Prop where
  desc_avail : Disjoint vr.descBytes vr.availBytes
  desc_used : Disjoint vr.descBytes vr.usedBytes
  avail_used : Disjoint vr.availBytes vr.usedBytes
  start : vr.desc = base
  aligned : align ∣ vr.used
  stop : usedRingAddr vr.used vr.num + sizeofUint16 = base + size
  within : vr.bytes ⊆ Set.Ico base (base + size)
  padding : Set.Ico base (base + size) \ vr.bytes =
    Set.Ico (availRingAddr vr.avail vr.num + sizeofUint16) vr.used

theorem laidOut_of_addrs {gap : Nat} (halign : align ∣ base + (num * 18 + 6 + gap)) :
    VringAddrs.LaidOut ⟨num, base, base + num * 16, base + (num * 18 + 6 + gap)⟩ base align
      (num * 18 + 6 + gap + (num * 8 + 6)) := by
  have hmem : ∀ x, x ∈ (⟨num, base, base + num * 16, base + (num * 18 + 6 + gap)⟩ : VringAddrs).bytes ↔
      (base ≤ x ∧ x < base + (num * 18 + 6)) ∨
        (base + (num * 18 + 6 + gap) ≤ x ∧ x < base + (num * 18 + 6 + gap + (num * 8 + 6))) := by
    intro x
    simp only [VringAddrs.bytes, VringAddrs.descBytes, VringAddrs.availBytes, VringAddrs.usedBytes,
      availRingAddr, usedRingAddr, sizeofVringDesc, sizeofVringAvail, sizeofVringUsed,
      sizeofVringUsedElem, sizeofUint16, Set.mem_union, Set.mem_Ico]
    omega
  refine ⟨?_, ?_, ?_, rfl, halign, ?_, ?_, ?_⟩
  · exact Set.Ico_disjoint_Ico_same
  · rw [VringAddrs.descBytes, VringAddrs.usedBytes, Set.Ico_disjoint_Ico]
    simp only [sizeofVringDesc]
    omega
  · rw [VringAddrs.availBytes, VringAddrs.usedBytes, Set.Ico_disjoint_Ico]
    simp only [availRingAddr, sizeofVringAvail, sizeofUint16]
    omega
  · simp only [usedRingAddr, sizeofVringUsed, sizeofVringUsedElem, sizeofUint16]
    omega
  · intro x hx
    rw [hmem] at hx
    rw [Set.mem_Ico]
    omega
  · ext x
    rw [Set.mem_sdiff, hmem, Set.mem_Ico, Set.mem_Ico]
    simp only [availRingAddr, sizeofVringAvail, sizeofUint16]
    omega

theorem vringInit_laidOut (hk : k ≤ 30) (hbase : 2 ^ k ∣ base)
    (hwrap : base + (roundUp (2 ^ k) (num * 18 + 6) + (num * 8 + 6)) ≤ 2 ^ 64) :
    (vringInit num base (2 ^ k)).LaidOut base (2 ^ k)
      (roundUp (2 ^ k) (num * 18 + 6) + (num * 8 + 6)) := by
  have hround : num * 18 + 6 ≤ roundUp (2 ^ k) (num * 18 + 6) := le_roundUp (Nat.two_pow_pos k)
  have hused : 2 ^ k ∣ base + roundUp (2 ^ k) (num * 18 + 6) := Nat.dvd_add hbase dvd_roundUp
  rw [vringInit_two_pow hk hbase hwrap]
  obtain ⟨gap, hgap⟩ := Nat.exists_eq_add_of_le hround
  rw [hgap] at hused ⊢
  exact laidOut_of_addrs hused

/-- What `remoteproc_create_virtio` maps and the master clears is the ring that both sides lay out
there. -/
theorem virtioCreateVirtqueue_layout (role : Role) (features id : Nat) (content : Vring)
    {vring : FwRscVdevVringRing} {vringsNum index base k : Nat} {vringInfo : VirtioVringInfo}
    (hnum : 1 ≤ vring.num ∧ vring.num ≤ 32768) (hk : k ≤ 30) (halign : vring.align = 2 ^ k)
    (hbase : vring.align ∣ base) (hwrap : base + vringSize vring.num vring.align ≤ 2 ^ 64)
    (hinit : rprocVirtioInitVring vringsNum index vring.notifyid base vring.num vring.align =
      .ok vringInfo) :
    let created := virtioCreateVirtqueue role features id content vringInfo.info
    created.vring = vringInit vring.num base vring.align ∧
      created.vring.LaidOut base vring.align (vringMapSize vring) ∧
      (∀ size ∈ (vringSizes vring.num vring.align).toList, toInt32 size = size) ∧
      (vringMapSize vring : Int) = vringSize vring.num vring.align ∧
      (role = .master → created.cleared = some (base, vringSize vring.num vring.align)) := by
  have hle : 2 ^ k ≤ 2 ^ 30 := Nat.pow_le_pow_right (by decide) hk
  rw [halign] at hbase hwrap hinit ⊢
  have hround : roundUp (2 ^ k) (vring.num * 18 + 6) ≤ vring.num * 18 + 6 + 2 ^ k - 1 := roundUp_le
  have hsize := vringSize_two_pow hnum.2 hk
  have hmap : vringMapSize vring =
      roundUp (2 ^ k) (vring.num * 18 + 6) + (vring.num * 8 + 6) := by
    rw [vringMapSize, halign, hsize, ofInt_natCast (by omega)]
  unfold rprocVirtioInitVring at hinit
  split at hinit
  · cases hinit
  · cases hinit
    have hnentries : u16 vring.num = vring.num := Nat.mod_eq_of_lt (by omega)
    have hu32 : u32 (2 ^ k) = 2 ^ k := Nat.mod_eq_of_lt (by omega)
    have hvring : (virtioCreateVirtqueue role features id content
        ⟨base, u32 (2 ^ k), u16 vring.num⟩).vring = vringInit vring.num base (2 ^ k) := by
      have hvq : (virtqueueCreate role features id vring.num true content
          virtqueueAllocate).2.vqNentries = vring.num := by cases role <;> rfl
      simp only [virtioCreateVirtqueue, vqRingInitAddrs, hnentries, hu32, hvq,
        ofInt_toInt32 (show 2 ^ k < 2 ^ 31 by omega)]
    refine ⟨hvring, ?_, ?_, ?_, ?_⟩
    · rw [hvring, hmap]
      exact vringInit_laidOut hk hbase (by omega)
    · intro size hmem
      exact toInt32_of_lt (vringSizes_lt hnum.2 hk size hmem)
    · rw [hmap, hsize]
    · rintro rfl
      simp only [virtioCreateVirtqueue, hnentries, hu32, if_true]

/-- A ring of four descriptors, aligned to a page. -/
theorem virtioCreateVirtqueue_layout_page :
    let created := virtioCreateVirtqueue .master 0 0 (Vring.zeroed 4) ⟨0x10000, 4096, 4⟩
    created.vring.LaidOut 0x10000 4096 4134 := by
  have hmap : vringMapSize ⟨⟨1⟩, 0, 4096, 4⟩ = 4134 := by decide +kernel
  have hlayout := @virtioCreateVirtqueue_layout .master 0 0 (Vring.zeroed 4) ⟨⟨1⟩, 0, 4096, 4⟩
    2 0 0x10000 12 ⟨1, 0x10000, 4096, 4⟩ (by decide) (by decide) (by decide) (by decide +kernel)
    (by decide +kernel) (by rfl)
  rw [← hmap]
  exact hlayout.2.1

/-! ### The number of descriptors -/

section NumDescs

variable {ops : VdevOps} {role : Role} {vrings : List FwRscVdevVringRing}
  {vringsInfo : List VirtioVringInfo} {vringsNum : Nat}

/-- The vring infos are made one for each entry, in order. -/
theorem remoteprocCreateVirtioVrings_numDescs {i : Nat}
    (h : remoteprocCreateVirtioVrings ops vringsNum i vrings = some vringsInfo) :
    vringsInfo.map (fun vringInfo => vringInfo.info.numDescs) =
      vrings.map fun vring => u16 vring.num := by
  induction vrings generalizing i vringsInfo with
  | nil =>
      cases h
      rfl
  | cons vring vrings ih =>
      unfold remoteprocCreateVirtioVrings at h
      dsimp only at h
      split at h
      · cases h
      · unfold rprocVirtioInitVring at h
        by_cases hindex : i ≥ vringsNum
        · rw [if_pos hindex] at h
          cases h
        · rw [if_neg hindex] at h
          obtain ⟨rest, hrest, rfl⟩ := Option.map_eq_some_iff.mp h
          rw [List.map_cons, List.map_cons, ih hrest]

theorem remoteprocCreateVringsInfo_numDescs
    (h : remoteprocCreateVringsInfo ops role vrings = some vringsInfo) :
    vringsInfo.map (fun vringInfo => vringInfo.info.numDescs) =
      vrings.map fun vring => u16 vring.num := by
  unfold remoteprocCreateVringsInfo at h
  split at h
  · exact remoteprocCreateVirtioVrings_numDescs h
  · cases h

theorem virtioCreateVirtqueue_nentries (role : Role) (features id : Nat) (content : Vring)
    (info : VringAllocInfo) :
    (virtioCreateVirtqueue role features id content info).vq.vqNentries = info.numDescs := by
  cases role <;> rfl

/-- A virtqueue has as many entries as 16 bits keep of the number in its resource entry. -/
theorem virtioCreateVirtqueues_nentries {features nvqs i : Nat} {content : Nat → Vring}
    {created : List CreatedVirtqueue} {queue : CreatedVirtqueue} {vring : FwRscVdevVringRing}
    (hcreate : remoteprocCreateVringsInfo ops role vrings = some vringsInfo)
    (hvqs : virtioCreateVirtqueues role features content vringsInfo nvqs = .ok created)
    (hvring : vrings[i]? = some vring) (hqueue : created[i]? = some queue) :
    queue.vq.vqNentries = u16 vring.num := by
  have hnum := congrArg (·[i]?) (remoteprocCreateVringsInfo_numDescs hcreate)
  simp only [List.getElem?_map, hvring, Option.map_some] at hnum
  obtain ⟨vringInfo, hinfo, hdescs⟩ := Option.map_eq_some_iff.mp hnum
  unfold virtioCreateVirtqueues at hvqs
  split at hvqs
  · cases hvqs
  · cases hvqs
    rw [List.getElem?_mapIdx] at hqueue
    obtain ⟨vringInfo', htake, rfl⟩ := Option.map_eq_some_iff.mp hqueue
    rw [List.getElem?_take, hinfo] at htake
    split at htake
    · cases htake
      rw [virtioCreateVirtqueue_nentries, hdescs]
    · cases htake

/-- The virtqueue has the number of entries its resource entry asks for, a power of two up to 32768,
so that masking an index selects a slot of the ring. -/
def UsableRing (vring : FwRscVdevVringRing) (vq : Virtqueue) : Prop :=
  vq.vqNentries = vring.num ∧ (∃ order ≤ 15, vq.vqNentries = 2 ^ order) ∧
    ∀ idx, idx &&& ringMask vq.vqNentries = idx % vq.vqNentries

theorem ringMask_two_pow {order : Nat} (horder : order ≤ 15) :
    ringMask (2 ^ order) = 2 ^ order - 1 := by
  have hpos := Nat.two_pow_pos order
  have hle : 2 ^ order ≤ 2 ^ 15 := Nat.pow_le_pow_right (by decide) horder
  unfold ringMask u32
  omega

theorem created_usable_iff {features nvqs i : Nat} {content : Nat → Vring}
    {created : List CreatedVirtqueue} {queue : CreatedVirtqueue} {vring : FwRscVdevVringRing}
    (hcreate : remoteprocCreateVringsInfo ops role vrings = some vringsInfo)
    (hvqs : virtioCreateVirtqueues role features content vringsInfo nvqs = .ok created)
    (hvring : vrings[i]? = some vring) (hqueue : created[i]? = some queue) :
    UsableRing vring queue.vq ↔ ∃ order ≤ 15, vring.num = 2 ^ order := by
  have hnentries := virtioCreateVirtqueues_nentries hcreate hvqs hvring hqueue
  constructor
  · rintro ⟨hnum, ⟨order, horder, hpow⟩, -⟩
    exact ⟨order, horder, hnum ▸ hpow⟩
  · rintro ⟨order, horder, hpow⟩
    have hle : 2 ^ order ≤ 2 ^ 15 := Nat.pow_le_pow_right (by decide) horder
    have heq : queue.vq.vqNentries = 2 ^ order := by
      rw [hnentries, hpow]
      exact Nat.mod_eq_of_lt (by omega)
    refine ⟨heq.trans hpow.symm, ⟨order, horder, heq⟩, ?_⟩
    intro idx
    rw [heq, ringMask_two_pow horder, Nat.and_two_pow_sub_one_eq_mod]

/-- A platform that finds memory for every control block and a mapping for every ring. -/
def willingOps : VdevOps := ⟨fun _ => true, fun _ _ => 0x1000⟩

theorem created_usable_256 :
    ∃ vringsInfo created queue,
      remoteprocCreateVringsInfo willingOps .slave [⟨⟨1⟩, 0, 4096, 256⟩] = some vringsInfo ∧
      virtioCreateVirtqueues .slave 0 (fun _ => Vring.zeroed 256) vringsInfo 1 = .ok created ∧
      created[0]? = some queue ∧ UsableRing ⟨⟨1⟩, 0, 4096, 256⟩ queue.vq := by
  have hiff := @created_usable_iff willingOps .slave [⟨⟨1⟩, 0, 4096, 256⟩] _ 0 1 0
    (fun _ => Vring.zeroed 256) _ _ ⟨⟨1⟩, 0, 4096, 256⟩ rfl rfl rfl rfl
  exact ⟨_, _, _, rfl, rfl, rfl, hiff.mpr ⟨8, by decide, by decide⟩⟩

/-- Neither a number that is not a power of two nor one that 16 bits cut to a power of two is turned
down. -/
theorem created_not_usable :
    ∃ vringsInfo created three cut,
      remoteprocCreateVringsInfo willingOps .slave
        [⟨⟨1⟩, 0, 4096, 3⟩, ⟨⟨2⟩, 0, 4096, 65540⟩] = some vringsInfo ∧
      virtioCreateVirtqueues .slave 0 (fun _ => Vring.zeroed 4) vringsInfo 2 = .ok created ∧
      created[0]? = some three ∧ created[1]? = some cut ∧
      ¬ UsableRing ⟨⟨1⟩, 0, 4096, 3⟩ three.vq ∧ ¬ UsableRing ⟨⟨2⟩, 0, 4096, 65540⟩ cut.vq := by
  refine ⟨_, _, _, _, rfl, rfl, rfl, rfl, ?_, ?_⟩
  · rintro ⟨-, -, hmask⟩
    exact absurd (hmask 3) (by decide)
  · rintro ⟨hnum, -, -⟩
    exact absurd hnum (by decide)

end NumDescs

end OpenAmp
