import OpenAmp.Proof.RscPointers
import OpenAmp.VdevConfig

/-!
# Which accesses to the config space are confined

The guard of both operations compares a sum of 32 bits. Where it is not the sum of the integers, it lets
pass ranges that are none of the config space.
-/

namespace OpenAmp

open ByteMemory

/-! ### Blocks that a region contains -/

section Blocks

variable {io : IoRegion} {va len offset addr : Nat} {ram : Nat → UInt8} {bytes : List UInt8}

@[simp] theorem IoRegion.blockRange_zero : io.blockRange offset 0 = ∅ := by
  simp [blockRange]

theorem IoRegion.blockRange_outside (h : io.size ≤ offset) : io.blockRange offset len = ∅ :=
  if_neg (Nat.not_lt.mpr h)

theorem IoRegion.start_mem_blockRange (h : offset < io.size) (hpos : 0 < len) :
    io.virt + offset ∈ io.blockRange offset len := by
  rw [blockRange, if_pos h]
  exact ⟨Nat.le_refl _, by omega⟩

theorem IoRegion.blockWrite_frame (h : addr ∉ io.blockRange offset bytes.length) :
    io.blockWrite offset bytes ram addr = ram addr := by
  unfold blockRange at h
  unfold blockWrite
  split_ifs with hoffset
  · rw [if_pos hoffset] at h
    refine @writeBytes_apply_of_notMem ram (io.virt + offset, bytes.take (io.size - offset)) addr ?_
    rwa [blockAddrs, List.length_take, Nat.min_comm]
  · rfl

/-- The block at an address. At the end of the address space there is only the empty one. -/
theorem IoRegion.u64_of_contains (hend : io.virt + io.size ≤ 2 ^ 64) (h : io.Contains va len)
    (hpos : 0 < len) : u64 va = va :=
  u64_of_lt (virtToOffset_of_contains hend h hpos).2.1

theorem IoRegion.blockRange_contains (hend : io.virt + io.size ≤ 2 ^ 64) (h : io.Contains va len) :
    io.blockRange (io.virtToOffset (u64 va)) len = Set.Ico va (va + len) := by
  rcases Nat.eq_zero_or_pos len with rfl | hpos
  · simp
  · obtain ⟨hoffset, -, hsize⟩ := virtToOffset_of_contains hend h hpos
    have hva : io.virt + (va - io.virt) = va := Nat.add_sub_cancel' h.1
    rw [u64_of_contains hend h hpos, hoffset, blockRange, if_pos (by omega), hva,
      Nat.min_eq_left (by omega)]

theorem IoRegion.blockRead_contains (hend : io.virt + io.size ≤ 2 ^ 64) (h : io.Contains va len) :
    io.blockRead (io.virtToOffset (u64 va)) len ram = readBytes ram va len := by
  rcases Nat.eq_zero_or_pos len with rfl | hpos
  · unfold blockRead
    split_ifs <;> simp [readBytes]
  · obtain ⟨hoffset, -, hsize⟩ := virtToOffset_of_contains hend h hpos
    have hva : io.virt + (va - io.virt) = va := Nat.add_sub_cancel' h.1
    rw [u64_of_contains hend h hpos, hoffset, blockRead, if_pos (by omega), hva,
      Nat.min_eq_left (by omega)]

theorem IoRegion.blockWrite_contains_u64 (hend : io.virt + io.size ≤ 2 ^ 64)
    (h : io.Contains va bytes.length) :
    io.blockWrite (io.virtToOffset (u64 va)) bytes ram = writeBytes ram va bytes := by
  by_cases hnil : bytes = []
  · subst hnil
    unfold blockWrite
    split_ifs <;> simp
  · rw [u64_of_contains hend h (List.length_pos_iff.mpr hnil)]
    exact blockWrite_contains hend h

theorem IoRegion.virtToOffset_lt (h : io.virtToOffset va ≠ METAL_BAD_OFFSET) :
    io.virtToOffset va < io.size := by
  unfold virtToOffset at h ⊢
  dsimp only at h ⊢
  split_ifs at h ⊢ with hlt
  · exact hlt
  · exact absurd rfl h

end Blocks

/-- A libmetal that touches the first byte of a block of negative length. -/
def MetalBlocks.firstByte (io : IoRegion) : MetalBlocks io where
  read call ram := io.blockRead call.offset call.len.toNat ram
  write call src ram := io.blockWrite call.offset (readBytes src 0 call.len.toNat) ram
  touched call := io.blockRange call.offset (if 0 ≤ call.len then call.len.toNat else 1)
  read_nat _ _ _ := rfl
  write_nat _ _ _ _ := rfl
  touched_nat offset len := congrArg (io.blockRange offset) (if_pos (Int.natCast_nonneg len))
  touched_outside _ h := IoRegion.blockRange_outside h
  write_frame call src ram addr h := by
    refine IoRegion.blockWrite_frame fun hmem => h ?_
    rw [length_readBytes] at hmem
    by_cases hlen : 0 ≤ call.len
    · rwa [if_pos hlen]
    · rw [Int.toNat_of_nonpos (Int.le_of_not_le hlen), IoRegion.blockRange_zero] at hmem
      exact absurd hmem (Set.notMem_empty addr)

theorem MetalBlocks.start_mem_firstByte {io : IoRegion} {call : BlockCall}
    (h : call.offset < io.size) (hlen : call.len ≠ 0) :
    io.virt + call.offset ∈ (MetalBlocks.firstByte io).touched call := by
  refine IoRegion.start_mem_blockRange h ?_
  split_ifs <;> omega

namespace ConfigVdev

variable {v : ConfigVdev} {blocks : MetalBlocks v.vdevRscIo} {offset : Nat} {length : Int}
  {ram src : Nat → UInt8}

/-! ### One call -/

theorem configLen_lt : v.configLen ram < 2 ^ 32 := by
  have hlt := leValue_lt (readBytes ram (v.vdevRsc + 20) 4)
  rw [length_readBytes] at hlt
  exact hlt

theorem readConfig_block :
    (v.rprocVirtioReadConfig blocks offset length ram).block = v.configBlock offset length ram := by
  unfold rprocVirtioReadConfig
  cases v.configBlock offset length ram <;> rfl

theorem writeConfig_block :
    (v.rprocVirtioWriteConfig blocks offset length src ram).block =
      v.configBlock offset length ram := by
  unfold rprocVirtioWriteConfig
  cases v.configBlock offset length ram <;> rfl

/-- A write changes no byte that it does not touch. -/
theorem writeConfig_frame {addr : Nat}
    (h : addr ∉ blocks.touchedBy (v.configBlock offset length ram)) :
    (v.rprocVirtioWriteConfig blocks offset length src ram).ram addr = ram addr := by
  unfold rprocVirtioWriteConfig
  cases hblock : v.configBlock offset length ram with
  | none => rfl
  | some call =>
      rw [hblock] at h
      exact blocks.write_frame call src ram addr h

theorem range_eq_empty (h : ¬ (0 ≤ length ∧ offset + length ≤ v.configLen ram)) :
    v.range offset length ram = ∅ :=
  Set.eq_empty_of_forall_notMem fun _ hmem => h ⟨hmem.1, hmem.2.1⟩

section Range

variable {n : Nat}

theorem configBlock_of_range (hle : offset + n ≤ v.configLen ram) :
    v.configBlock offset n ram =
      some ⟨v.vdevRscIo.virtToOffset (u64 (v.config + offset)), n⟩ := by
  have hsum : ofInt 32 ((offset : Int) + n) = offset + n := by
    have hlt := configLen_lt.trans_le' hle
    unfold ofInt
    omega
  rw [configBlock, hsum, if_pos hle]

theorem Lies.contains_range (h : v.Lies ram) (hle : offset + n ≤ v.configLen ram) :
    v.vdevRscIo.Contains (v.config + offset) n := by
  obtain ⟨hlow, hhigh⟩ := h.contains
  unfold config
  exact ⟨by omega, by omega⟩

theorem range_eq (hle : offset + n ≤ v.configLen ram) :
    v.range offset n ram = Set.Ico (v.config + offset) (v.config + offset + n) := by
  ext addr
  refine (and_iff_right (Int.natCast_nonneg n)).trans ?_
  refine (and_iff_right (by omega)).trans ?_
  rw [Int.toNat_natCast]

/-- Within the config space, just the bytes of the range are touched. -/
theorem Lies.touched_range (h : v.Lies ram) (hle : offset + n ≤ v.configLen ram) :
    blocks.touchedBy (v.configBlock offset n ram) = v.range offset n ram := by
  rw [configBlock_of_range hle, range_eq hle]
  refine (blocks.touched_nat _ n).trans ?_
  exact IoRegion.blockRange_contains h.fits (h.contains_range hle)

theorem Lies.write_range (h : v.Lies ram) (hle : offset + n ≤ v.configLen ram) :
    (v.rprocVirtioWriteConfig blocks offset n src ram).ram =
      writeBytes ram (v.config + offset) (readBytes src 0 n) := by
  unfold rprocVirtioWriteConfig
  rw [configBlock_of_range hle]
  refine (blocks.write_nat _ n src ram).trans ?_
  refine IoRegion.blockWrite_contains_u64 h.fits ?_
  rw [length_readBytes]
  exact h.contains_range hle

theorem Lies.read_range (h : v.Lies ram) (hle : offset + n ≤ v.configLen ram) :
    (v.rprocVirtioReadConfig blocks offset n ram).dst = readBytes ram (v.config + offset) n := by
  unfold rprocVirtioReadConfig
  rw [configBlock_of_range hle]
  refine (blocks.read_nat _ n ram).trans ?_
  exact IoRegion.blockRead_contains h.fits (h.contains_range hle)

/-- Fields below the config space are as they were, so that it has the same length. -/
theorem Lies.write_field (h : v.Lies ram) (hle : offset + n ≤ v.configLen ram) {addr len : Nat}
    (hbelow : addr + len ≤ v.config) :
    readBytes (v.rprocVirtioWriteConfig blocks offset n src ram).ram addr len =
      readBytes ram addr len := by
  rw [h.write_range hle]
  exact readBytes_writeBytes_of_disjoint (.inl (Nat.le_add_right_of_le hbelow))

theorem Lies.write_configLen (h : v.Lies ram) (hle : offset + n ≤ v.configLen ram) :
    v.configLen (v.rprocVirtioWriteConfig blocks offset n src ram).ram = v.configLen ram := by
  refine congrArg leValue (h.write_field hle ?_)
  unfold config
  omega

theorem Lies.read_write (h : v.Lies ram) (hle : offset + n ≤ v.configLen ram) :
    (v.rprocVirtioReadConfig blocks offset n
      (v.rprocVirtioWriteConfig blocks offset n src ram).ram).dst = readBytes src 0 n := by
  have hlen : v.configLen (v.rprocVirtioWriteConfig blocks offset n src ram).ram = v.configLen ram :=
    h.write_configLen hle
  have hlies : v.Lies (v.rprocVirtioWriteConfig blocks offset n src ram).ram :=
    ⟨h.size, h.fits, hlen.symm ▸ h.contains⟩
  rw [hlies.read_range (hlen.symm ▸ hle), h.write_range hle]
  have hself := readBytes_writeBytes_self ram (v.config + offset) (readBytes src 0 n)
  rwa [length_readBytes] at hself

end Range

/-- All that the guard has to see to is which bytes are touched. -/
theorem Lies.confined_iff (h : v.Lies ram) :
    v.Confined blocks offset length ram ↔
      blocks.touchedBy (v.configBlock offset length ram) ⊆ v.range offset length ram := by
  constructor
  · intro hconfined
    have hread := hconfined.read
    rwa [readConfig_block] at hread
  · intro htouched
    refine ⟨?_, fun src => ?_, fun hlength hle src => ?_, fun src addr hout => ?_⟩
    · rwa [readConfig_block]
    · rwa [writeConfig_block]
    · obtain ⟨n, rfl⟩ := Int.eq_ofNat_of_zero_le hlength
      rw [Int.toNat_natCast]
      exact h.read_write (by omega)
    · exact writeConfig_frame fun hmem => hout (htouched hmem)

/-- A sum of the integers that fits is the sum of the guard. -/
theorem Lies.confined_of_fits (h : v.Lies ram) (hlength : 0 ≤ length)
    (hfits : offset + length < 2 ^ 32) : v.Confined blocks offset length ram := by
  obtain ⟨n, rfl⟩ := Int.eq_ofNat_of_zero_le hlength
  rw [h.confined_iff]
  by_cases hle : offset + n ≤ v.configLen ram
  · rw [h.touched_range hle]
  · have hsum : ofInt 32 ((offset : Int) + n) = offset + n := by
      unfold ofInt
      omega
    rw [configBlock, hsum, if_neg hle]
    exact Set.empty_subset _

/-- Otherwise no byte may be touched, and none is exactly where the guard refuses the sum that it has, or
libmetal refuses the address. -/
theorem Lies.confined_wrapped_iff (h : v.Lies ram) (hoffset : offset < 2 ^ 32)
    (hwrapped : length < 0 ∨ 2 ^ 32 ≤ offset + length) :
    (∀ blocks, v.Confined blocks offset length ram) ↔
      v.configLen ram < ofInt 32 (offset + length) ∨
        v.vdevRscIo.virtToOffset (u64 (v.config + offset)) = METAL_BAD_OFFSET := by
  have hlt := @configLen_lt v ram
  have hempty : v.range offset length ram = ∅ := range_eq_empty (by omega)
  simp only [h.confined_iff, hempty, Set.subset_empty_iff]
  unfold configBlock
  by_cases hguard : ofInt 32 (offset + length) ≤ v.configLen ram
  · rw [if_pos hguard, or_iff_right (Nat.not_lt.mpr hguard)]
    constructor
    · intro huntouched
      by_contra hinside
      have hlen : length ≠ 0 := by omega
      have hstart := @MetalBlocks.start_mem_firstByte v.vdevRscIo ⟨_, length⟩
        (IoRegion.virtToOffset_lt hinside) hlen
      exact Set.eq_empty_iff_forall_notMem.mp (huntouched _) _ hstart
    · intro hbad blocks
      refine blocks.touched_outside _ ?_
      change v.vdevRscIo.size ≤ v.vdevRscIo.virtToOffset _
      rw [hbad]
      exact Nat.le_sub_one_of_lt h.size
  · rw [if_neg hguard]
    exact iff_of_true (fun _ => rfl) (.inl (Nat.not_le.mp hguard))

theorem Lies.confined_of_sumTells (h : v.Lies ram) (hoffset : offset < 2 ^ 32)
    (hsum : v.SumTells offset length ram) : v.Confined blocks offset length ram := by
  by_cases hfits : 0 ≤ length ∧ offset + length < 2 ^ 32
  · exact h.confined_of_fits hfits.1 hfits.2
  · have hwrapped := (or_iff_right hfits).mp hsum
    exact (h.confined_wrapped_iff hoffset (by omega)).mpr hwrapped blocks

end ConfigVdev

/-- Whatever libmetal makes of a block of negative length, both operations are confined to the range they
are called with exactly where the sum of the guard misleads nobody. -/
theorem config_confined_iff (v : ConfigVdev) (ram : Nat → UInt8) (offset : Nat) (length : Int)
    (hlies : v.Lies ram) (hoffset : offset < 2 ^ 32) :
    (∀ blocks, v.Confined blocks offset length ram) ↔ v.SumTells offset length ram := by
  constructor
  · intro hconfined
    by_cases hfits : 0 ≤ length ∧ offset + length < 2 ^ 32
    · exact Or.inl hfits
    · exact Or.inr ((hlies.confined_wrapped_iff hoffset (by omega)).mp hconfined)
  · exact fun hsum blocks => hlies.confined_of_sumTells hoffset hsum

/-- A device with one vring, at the start of a region of the given size. -/
def oneVring (size : Nat) : ConfigVdev := ⟨4096, ⟨4096, size, fun phys => phys - 4096⟩, 1, 0⟩

/-- Its `config_len` is 8, and everything else is zero. -/
def eightConfig : Nat → UInt8 := writeBytes (fun _ => 0) 4116 (leBytes 4 8)

theorem oneVring_lies {size : Nat} (hlow : 56 ≤ size) (hhigh : size ≤ 2 ^ 63) :
    (oneVring size).Lies eightConfig := by
  have hlen : (oneVring size).configLen eightConfig = 8 := by
    change leValue (readBytes eightConfig (4096 + 20) 4) = 8
    decide
  refine ⟨?_, ?_, Nat.le_refl _, ?_⟩
  · change size < 2 ^ 64
    omega
  · change 4096 + size ≤ 2 ^ 64
    omega
  · rw [hlen]
    change 4096 + 56 ≤ 4096 + size
    omega

theorem config_confined_upper_half :
    (oneVring 64).Lies eightConfig ∧ ∀ blocks, (oneVring 64).Confined blocks 4 4 eightConfig := by
  have hlies := @oneVring_lies 64 (by decide) (by decide)
  refine ⟨hlies, (config_confined_iff (oneVring 64) eightConfig 4 4 hlies (by decide)).mpr ?_⟩
  exact Or.inl (by decide)

/-- Eight bytes from 4 bytes below `2 ^ 32` on, and a negative length: the sum of the guard is 4. -/
theorem config_not_confined :
    ((oneVring (2 ^ 33)).Lies eightConfig ∧
      ∀ blocks, ¬ (oneVring (2 ^ 33)).Confined blocks (2 ^ 32 - 4) 8 eightConfig) ∧
    (oneVring 64).Lies eightConfig ∧
      ¬ ∀ blocks, (oneVring 64).Confined blocks 8 (-4) eightConfig := by
  have hlarge := @oneVring_lies (2 ^ 33) (by decide) (by decide)
  have hsmall := @oneVring_lies 64 (by decide) (by decide)
  refine ⟨⟨hlarge, fun blocks hconfined => ?_⟩, hsmall, fun hconfined => ?_⟩
  · have hblock : (oneVring (2 ^ 33)).configBlock (2 ^ 32 - 4) 8 eightConfig =
        some ⟨2 ^ 32 + 44, (8 : Nat)⟩ := by
      decide +kernel
    have htouched := hconfined.read
    rw [ConfigVdev.readConfig_block, hblock] at htouched
    have hstart : 4096 + (2 ^ 32 + 44) ∈ (oneVring (2 ^ 33)).vdevRscIo.blockRange (2 ^ 32 + 44) 8 :=
      IoRegion.start_mem_blockRange (show 2 ^ 32 + 44 < 2 ^ 33 by decide) (by decide)
    rw [← blocks.touched_nat] at hstart
    exact absurd (htouched hstart).2.1 (by decide +kernel)
  · rcases (hsmall.confined_wrapped_iff (by decide) (Or.inl (by decide))).mp hconfined with hsum | hbad
    · exact absurd hsum (by decide +kernel)
    · exact absurd hbad (by decide +kernel)

end OpenAmp
