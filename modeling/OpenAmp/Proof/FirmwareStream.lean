import OpenAmp.Proof.FirmwareLoad

/-!
# Loading a firmware piece by piece

The loop of `load_exectuable_noblock` around `remoteproc_load_noblock`, next to `remoteproc_load`.
The two agree if each segment keeps the loop going and the last one leads on to the headers.
-/

namespace OpenAmp

open ByteMemory Slice

/-! ### Calls -/

section Calls

variable {image : ElfImage} {env : LoaderEnv} {imgData : Option (List UInt8)} {offset len : Nat}
  {phase : HeaderPhase} {nseg : Nat} {vars : NoblockVars} {target : Target}

theorem Target.identified_of_loader (hloader : target.rproc.loader = true) :
    target.identified = target := by
  obtain ⟨⟨state, loader, mems, mmap, bootaddr⟩, ram, mapped⟩ := target
  subst hloader
  rfl

theorem remoteprocLoadNoblock_ready (hstate : target.rproc.state = .ready)
    (hloader : target.rproc.loader = true) (hseg : nseg < 2 ^ 8) :
    remoteprocLoadNoblock env imgData offset len
        (some (image.infoAt phase (loadWord .ready phase nseg))) vars target =
      noblockData env imgData offset len (some (image.infoAt phase (loadWord .ready phase nseg)))
        (loadWord .ready phase nseg) { vars with nlen := 0 } target := by
  have hready : ¬ (loadWord .ready phase nseg &&& RPROC_LOADER_READY_TO_LOAD = 0 ∧
      loadWord .ready phase nseg &&& RPROC_LOADER_LOAD_COMPLETE = 0) := fun hbits =>
    (loader_bit .ready .ready phase nofun hseg).mpr rfl hbits.1
  have hformat : ¬ (target.rproc.loader = false ∧ (imgData = none ∨ offset ≠ 0 ∨ len = 0 ∨
      remoteprocCheckFwFormat imgData len = false)) := by
    rw [hloader]
    simp
  rw [remoteprocLoadNoblock, if_neg (not_not.mpr hstate), if_neg hformat]
  change (if loadWord .ready phase nseg &&& RPROC_LOADER_READY_TO_LOAD = 0 ∧
    loadWord .ready phase nseg &&& RPROC_LOADER_LOAD_COMPLETE = 0 then _ else noblockData env
      imgData offset len (some (image.infoAt phase (loadWord .ready phase nseg)))
        (loadWord .ready phase nseg) { vars with nlen := 0 } target.identified) = _
  rw [if_neg hready, Target.identified_of_loader hloader]

theorem remoteprocLoadNoblock_headers {imgInfo : Option ElfInfo} {loader : LoaderPhase}
    {next : HeaderPhase} (vars : NoblockVars)
    (hcall : elfLoadHeader env.allocate imgData offset len imgInfo
      (imgInfo.elim 0 elfGetLoadState) vars.noffset 0 =
        some (image.headerOut loader nseg next vars.noffset)) (hstate : target.rproc.state = .ready)
    (hformat : target.rproc.loader = true ∨ (imgData ≠ none ∧ offset = 0 ∧ len ≠ 0 ∧
      remoteprocCheckFwFormat imgData len = true))
    (hready : imgInfo.elim 0 elfGetLoadState &&& RPROC_LOADER_READY_TO_LOAD = 0)
    (hcomplete : imgInfo.elim 0 elfGetLoadState &&& RPROC_LOADER_LOAD_COMPLETE = 0)
    (hseg : nseg < 2 ^ 8) :
    remoteprocLoadNoblock env imgData offset len imgInfo vars target =
      let out := image.headerOut loader nseg next vars.noffset
      if out.nlen ≠ 0 ∧ loader ≠ .ready then
        some ⟨0, out.imgInfo, { vars with noffset := out.noffset, nlen := out.nlen },
          target.identified⟩
      else
        noblockData env imgData offset len out.imgInfo (loadWord loader next nseg)
          { vars with noffset := out.noffset, nlen := out.nlen } target.identified := by
  have hformat' : ¬ (target.rproc.loader = false ∧ (imgData = none ∨ offset ≠ 0 ∨ len = 0 ∨
      remoteprocCheckFwFormat imgData len = false)) := by
    rintro ⟨hloader, hbad⟩
    rcases hformat with hset | ⟨hdata, hoffset, hlen, hcheck⟩
    · rw [hset] at hloader
      exact absurd hloader nofun
    · rcases hbad with h | h | h | h
      · exact hdata h
      · exact h hoffset
      · exact hlen h
      · rw [hcheck] at h
        exact absurd h nofun
  have hbit : loadWord loader next nseg &&& RPROC_LOADER_READY_TO_LOAD = 0 ↔ loader ≠ .ready := by
    rw [← not_iff_not, not_not]
    exact loader_bit loader .ready next nofun hseg
  rw [remoteprocLoadNoblock, if_neg (not_not.mpr hstate), if_neg hformat']
  simp only [hready, hcomplete, and_self, if_true, hcall, Option.bind_eq_bind, Option.bind_some,
    ElfImage.headerOut, hbit]
  rfl

theorem noblockComplete_of_not {info : ElfInfo} {loader : LoaderPhase} (hloader : loader ≠ .complete)
    (hseg : nseg < 2 ^ 8) :
    noblockComplete env info (loadWord loader phase nseg) vars target =
      ⟨0, some info, vars, target⟩ := by
  have hbit : ¬ loadWord loader phase nseg &&& RPROC_LOADER_LOAD_COMPLETE ≠ 0 := fun hbit =>
    hloader ((loader_bit loader .complete phase nofun hseg).mp hbit)
  rw [noblockComplete, if_neg hbit]

theorem ready_or_post (hseg : nseg < 2 ^ 8) :
    loadWord .ready phase nseg &&& RPROC_LOADER_READY_TO_LOAD ≠ 0 ∨
      loadWord .ready phase nseg &&& RPROC_LOADER_POST_DATA_LOAD ≠ 0 :=
  .inl ((loader_bit .ready .ready phase nofun hseg).mpr rfl)

theorem noblockData_found (imgData : Option (List UInt8)) (offset len : Nat) (vars : NoblockVars)
    {phdr : Phdr} {rest : List Phdr} (henv : env.allocate = fun _ => true)
    (hload : Loadable image target.rproc) (hphase : phase ≠ .phdrs)
    (hnseg : nseg ≤ elfPhnum image.bytes)
    (hnext : nextLoads (image.phdrs.drop nseg) = phdr :: rest) :
    ∃ map : TargetMapping, map.pa ≠ METAL_BAD_PHYS ∧
      target.storeSegment image phdr = { target with
        ram := placeSegment image phdr map.pa map.io target.ram
        mapped := target.mapped ++ [(phdr.pVaddr, phdr.pMemsz)] } ∧
      noblockData env imgData offset len (some (image.infoAt phase (loadWord .ready phase nseg)))
          (loadWord .ready phase nseg) vars target =
        some ⟨0, some (image.infoAt phase (image.wordBefore phase rest)),
          ⟨map.pa, some map.io, phdr.pOffset, phdr.pFilesz, phdr.pMemsz, 0⟩,
          { target with mapped := target.mapped ++ [(phdr.pVaddr, phdr.pMemsz)] }⟩ := by
  obtain ⟨map, hmap⟩ := hload.mapped phdr (mem_of_nextLoads_drop hnext)
  have hmmap := remoteprocMmap_of_some hmap.mapping_eq vars.io
  have hseg : nseg < 2 ^ 8 := Nat.lt_of_le_of_lt hnseg hload.phnum_lt
  have hcall := ElfImage.elfLoad_found imgData offset len
    ⟨RPROC_LOAD_ANYADDR, vars.noffset, vars.nlen, vars.padding, vars.nmlen⟩ hphase hload.phnum_lt
    hnseg hnext
  refine ⟨map, hmap.pa_ne, by rw [Target.storeSegment, hmap.mapping_eq], ?_⟩
  rw [noblockData, if_pos (ready_or_post hseg), henv, hcall]
  simp only [Option.bind_eq_bind, Option.bind_some, hmap.da_ne, ne_eq, not_false_eq_true, if_true,
    hmmap, hmap.pa_ne, if_false]
  by_cases hempty : phdr.pFilesz = 0
  · have hword : ∀ vars target, noblockComplete env
        (image.infoAt phase (image.wordBefore phase rest)) (image.wordBefore phase rest) vars target =
          ⟨0, some (image.infoAt phase (image.wordBefore phase rest)), vars, target⟩ := by
      intro vars target
      apply noblockComplete_of_not
      · split_ifs <;> decide
      · exact Nat.lt_of_le_of_lt (Nat.sub_le _ _) hload.phnum_lt
    rw [if_neg (not_not.mpr hempty), hword]
  · rw [if_pos hempty]

/-- Without a segment left, a call changes nothing but what is mapped. -/
theorem noblockData_left (imgData : Option (List UInt8)) (offset len : Nat) (vars : NoblockVars)
    (henv : env.allocate = fun _ => true) (hnum : elfPhnum image.bytes < 2 ^ 8)
    (hphase : phase ≠ .phdrs) (hnseg : nseg ≤ elfPhnum image.bytes)
    (hnext : nextLoads (image.phdrs.drop nseg) = []) :
    ∃ out, noblockData env imgData offset len
        (some (image.infoAt phase (loadWord .ready phase nseg))) (loadWord .ready phase nseg) vars
        target = some out ∧ out.target.rproc = target.rproc ∧
      (out.ret = 0 →
        out.imgInfo = some (image.infoAt phase (loadWord .ready phase (elfPhnum image.bytes)))) := by
  have hseg : nseg < 2 ^ 8 := Nat.lt_of_le_of_lt hnseg hnum
  have hcall := ElfImage.elfLoad_none imgData offset len
    ⟨RPROC_LOAD_ANYADDR, vars.noffset, vars.nlen, vars.padding, vars.nmlen⟩ hphase hnum hnseg hnext
  have hword : ∀ vars target, noblockComplete env
      (image.infoAt phase (loadWord .ready phase (elfPhnum image.bytes)))
      (loadWord .ready phase (elfPhnum image.bytes)) vars target =
        ⟨0, some (image.infoAt phase (loadWord .ready phase (elfPhnum image.bytes))), vars, target⟩ :=
    fun vars target => noblockComplete_of_not nofun hnum
  have heinval : -RPROC_EINVAL ≠ 0 := by decide
  rw [noblockData, if_pos (ready_or_post hseg), henv, hcall]
  simp only [Option.bind_eq_bind, Option.bind_some, hword]
  split_ifs
  · exact ⟨_, rfl, rfl, fun hret => absurd hret heinval⟩
  · exact ⟨_, rfl, rfl, fun _ => rfl⟩
  · exact ⟨_, rfl, rfl, fun _ => rfl⟩
  · exact ⟨_, rfl, rfl, fun _ => rfl⟩
  · exact ⟨_, rfl, rfl, fun _ => rfl⟩

end Calls

/-! ### Rounds -/

/-- The call of a round. -/
def StreamLoop.call (env : LoaderEnv) (s : StreamLoop) : Option NoblockOut :=
  remoteprocLoadNoblock env s.imgData s.offset s.len s.imgInfo
    ⟨METAL_BAD_PHYS, none, s.noffset, 0, 0, s.padding⟩ s.target

section Rounds

variable {image : ElfImage} {env : LoaderEnv} {store : ImageStore} {s : StreamLoop}
  {imgInfo : Option ElfInfo} {vars : NoblockVars} {target : Target} {phase : HeaderPhase}
  {nseg : Nat} {phdr : Phdr} {rest : List Phdr}

theorem streamBody_none (hcall : s.call env = none) : StreamLoop.body env store s = .inr none := by
  rw [StreamLoop.call] at hcall
  rw [StreamLoop.body, hcall]

theorem streamBody_stop {out : NoblockOut} (hcall : s.call env = some out)
    (hnlen : out.vars.nlen = 0) :
    StreamLoop.body env store s = .inr (some (out.ret, out.target)) := by
  rw [StreamLoop.call] at hcall
  rw [StreamLoop.body, hcall]
  by_cases hret : out.ret = 0
  · simp only [hret, hnlen, ne_eq, not_true_eq_false, if_false, if_true]
  · simp only [hret, ne_eq, not_false_eq_true, if_true]

/-- A piece of the file is asked for. -/
theorem streamBody_local {noffset nlen nmlen : Nat} {padding : UInt8}
    (hcall : s.call env =
      some ⟨0, imgInfo, ⟨METAL_BAD_PHYS, none, noffset, nlen, nmlen, padding⟩, target⟩)
    (hnlen : nlen ≠ 0) (hle : noffset + nlen ≤ store.image.length) :
    StreamLoop.body env store s =
      .inl ⟨some (slice store.image noffset nlen), noffset, nlen, imgInfo, noffset, padding,
        target⟩ := by
  rw [StreamLoop.call] at hcall
  rw [StreamLoop.body, hcall]
  simp only [hnlen, ne_eq, not_true_eq_false, if_false, if_true, ImageStore.fetch,
    ImageStore.load_eq _ _ hle, Option.elim_none, ite_self]

theorem streamBody_segment {pa : Nat} {io : TargetIo} (hstore : Serves store image)
    (hcall : s.call env = some ⟨0, imgInfo,
      ⟨pa, some io, phdr.pOffset, phdr.pFilesz, phdr.pMemsz, 0⟩, target⟩)
    (hpa : pa ≠ METAL_BAD_PHYS) (hsome : phdr.pFilesz ≠ 0)
    (hfile : phdr.pOffset + phdr.pFilesz ≤ image.bytes.length) :
    StreamLoop.body env store s =
      .inl ⟨store.leave s.imgData, phdr.pOffset, phdr.pFilesz, imgInfo, phdr.pOffset, 0,
        { target with ram := placeSegment image phdr pa io target.ram }⟩ := by
  have hload : store.loadTarget phdr.pOffset phdr.pFilesz pa target.ram =
      (toInt32 phdr.pFilesz,
        writeBytes target.ram pa (slice image.bytes phdr.pOffset phdr.pFilesz)) := by
    rw [ImageStore.loadTarget, hstore.image_eq, if_pos hfile]
  rw [StreamLoop.call] at hcall
  rw [StreamLoop.body, hcall]
  simp only [hsome, ne_eq, not_true_eq_false, if_false, ImageStore.fetch, hpa, hload,
    Option.elim_some]
  rfl

/-- The call of a round goes on with the segments that are left. -/
def StreamLoop.Seeks (env : LoaderEnv) (image : ElfImage) (phase : HeaderPhase) (nseg : Nat)
    (target : Target) (s : StreamLoop) : Prop :=
  ∃ imgData offset len noffset nlen padding,
    s.call env = noblockData env imgData offset len
      (some (image.infoAt phase (loadWord .ready phase nseg))) (loadWord .ready phase nseg)
      ⟨METAL_BAD_PHYS, none, noffset, nlen, 0, padding⟩ target

theorem seeks_ready (env : LoaderEnv)
    (hinfo : s.imgInfo = some (image.infoAt phase (loadWord .ready phase nseg)))
    (hstate : s.target.rproc.state = .ready) (hloader : s.target.rproc.loader = true)
    (hseg : nseg < 2 ^ 8) : s.Seeks env image phase nseg s.target := by
  refine ⟨s.imgData, s.offset, s.len, s.noffset, 0, s.padding, ?_⟩
  rw [StreamLoop.call, hinfo, remoteprocLoadNoblock_ready hstate hloader hseg]

/-- The loop after a segment. -/
def StreamLoop.after (image : ElfImage) (phase : HeaderPhase) (phdr : Phdr) (rest : List Phdr)
    (imgData : Option (List UInt8)) (target : Target) : StreamLoop :=
  ⟨imgData, phdr.pOffset, phdr.pFilesz, some (image.infoAt phase (image.wordBefore phase rest)),
    phdr.pOffset, 0, target⟩

theorem streamBody_found (henv : env.allocate = fun _ => true) (hstore : Serves store image)
    (hload : Loadable image target.rproc) (hphase : phase ≠ .phdrs)
    (hnseg : nseg ≤ elfPhnum image.bytes)
    (hnext : nextLoads (image.phdrs.drop nseg) = phdr :: rest)
    (hseeks : s.Seeks env image phase nseg target) (hsome : phdr.pFilesz ≠ 0) :
    StreamLoop.body env store s =
      .inl (.after image phase phdr rest (store.leave s.imgData)
        (target.storeSegment image phdr)) := by
  obtain ⟨imgData, offset, len, noffset, nlen, padding, hcall⟩ := hseeks
  obtain ⟨map, haddr, hstored, hdata⟩ := noblockData_found imgData offset len
    ⟨METAL_BAD_PHYS, none, noffset, nlen, 0, padding⟩ henv hload hphase hnseg hnext
  rw [hdata] at hcall
  rw [streamBody_segment hstore hcall haddr hsome (hload.file_le phdr (mem_of_nextLoads_drop hnext)),
    hstored]
  rfl

/-- A segment without bytes in the file ends the loop. -/
theorem streamBody_empty (henv : env.allocate = fun _ => true)
    (hload : Loadable image target.rproc) (hphase : phase ≠ .phdrs)
    (hnseg : nseg ≤ elfPhnum image.bytes)
    (hnext : nextLoads (image.phdrs.drop nseg) = phdr :: rest)
    (hseeks : s.Seeks env image phase nseg target) (hnone : phdr.pFilesz = 0) :
    ∃ target', target'.rproc = target.rproc ∧
      StreamLoop.body env store s = .inr (some (0, target')) := by
  obtain ⟨imgData, offset, len, noffset, nlen, padding, hcall⟩ := hseeks
  obtain ⟨map, -, -, hdata⟩ := noblockData_found imgData offset len
    ⟨METAL_BAD_PHYS, none, noffset, nlen, 0, padding⟩ henv hload hphase hnseg hnext
  rw [hdata] at hcall
  refine ⟨_, ?_, streamBody_stop hcall ?_⟩
  · rfl
  · exact hnone

/-- A round that goes on does not touch the remote processor beyond its call. -/
theorem streamBody_cases {out : NoblockOut} (hcall : s.call env = some out) :
    (∃ ret target', target'.rproc = out.target.rproc ∧
      StreamLoop.body env store s = .inr (some (ret, target'))) ∨
    out.ret = 0 ∧ ∃ s', s'.imgInfo = out.imgInfo ∧ s'.target.rproc = out.target.rproc ∧
      StreamLoop.body env store s = .inl s' := by
  rw [StreamLoop.call] at hcall
  rw [StreamLoop.body, hcall]
  simp only
  by_cases hret : out.ret ≠ 0
  · rw [if_pos hret]
    exact .inl ⟨_, _, rfl, rfl⟩
  · rw [if_neg hret]
    by_cases hnlen : out.vars.nlen = 0
    · rw [if_pos hnlen]
      exact .inl ⟨_, _, rfl, rfl⟩
    · rw [if_neg hnlen]
      generalize store.fetch s.imgData out.vars out.target.ram = fetched
      by_cases hload : fetched.1 ≠ toInt32 out.vars.nlen
      · rw [if_pos hload]
        exact .inl ⟨_, _, rfl, rfl⟩
      · rw [if_neg hload]
        exact .inr ⟨not_not.mp hret, _, rfl, rfl, rfl⟩

/-- Without a segment left, the loop ends or goes on to seek one. -/
theorem streamBody_left (henv : env.allocate = fun _ => true)
    (hload : Loadable image target.rproc) (hphase : phase ≠ .phdrs)
    (hnseg : nseg ≤ elfPhnum image.bytes) (hnext : nextLoads (image.phdrs.drop nseg) = [])
    (hseeks : s.Seeks env image phase nseg target) :
    (∃ ret target', target'.rproc = target.rproc ∧
      StreamLoop.body env store s = .inr (some (ret, target'))) ∨
    ∃ s', s'.imgInfo = some (image.infoAt phase (loadWord .ready phase (elfPhnum image.bytes))) ∧
      s'.target.rproc = target.rproc ∧ StreamLoop.body env store s = .inl s' := by
  obtain ⟨imgData, offset, len, noffset, nlen, padding, hcall⟩ := hseeks
  obtain ⟨out, hdata, hrproc, hinfo⟩ := noblockData_left imgData offset len
    ⟨METAL_BAD_PHYS, none, noffset, nlen, 0, padding⟩ henv hload.phnum_lt hphase hnseg hnext
  rw [hdata] at hcall
  rw [← hrproc]
  rcases streamBody_cases hcall with hstop | ⟨hret, s', hinfo', hrproc', hbody⟩
  · exact .inl hstop
  · exact .inr ⟨s', hinfo'.trans (hinfo hret), hrproc', hbody⟩

end Rounds

/-! ### Runs that never get to the entry point -/

/-- All the segments have bytes in the file, and the last header is one of them. -/
structure Streamable (phdrs : List Phdr) : Prop where
  last : ∃ phdr, phdrs.getLast? = some phdr ∧ phdr.pType = PT_LOAD
  filesz : ∀ phdr ∈ loads phdrs, phdr.pFilesz ≠ 0

section Stuck

variable {image : ElfImage} {env : LoaderEnv} {store : ImageStore} {s : StreamLoop}
  {target : Target} {phase : HeaderPhase} {nseg : Nat} {phdr : Phdr} {phdrs rest : List Phdr}
  {rproc : Remoteproc}

theorem Streamable.of_nextLoads (hnext : nextLoads phdrs = phdr :: rest)
    (hsome : phdr.pFilesz ≠ 0) (hrest : rest = [] ∨ Streamable rest) : Streamable phdrs := by
  have hloads := loads_of_nextLoads hnext
  have hlast := getLast?_of_nextLoads hnext
  rcases hrest with rfl | ⟨hlastRest, hfilesz⟩
  · refine ⟨⟨phdr, hlast, pType_of_nextLoads hnext⟩, ?_⟩
    rw [hloads]
    simpa [loads] using hsome
  · constructor
    · obtain ⟨last, hget, hload⟩ := hlastRest
      refine ⟨last, ?_, hload⟩
      cases rest with
      | nil => cases hget
      | cons second others => rw [hlast, List.getLast?_cons_cons, hget]
    · rw [hloads]
      intro p hp
      rcases List.mem_cons.mp hp with rfl | hp
      · exact hsome
      · exact hfilesz p hp

/-- The loop seeks segments, and it will not get through all of them. -/
def StreamLoop.Stuck (image : ElfImage) (rproc : Remoteproc) (s : StreamLoop) : Prop :=
  ∃ phase nseg, phase ≠ .phdrs ∧ nseg ≤ elfPhnum image.bytes ∧
    s.imgInfo = some (image.infoAt phase (loadWord .ready phase nseg)) ∧
    ¬ Streamable (image.phdrs.drop nseg) ∧ s.target.rproc = rproc

theorem stuck_step (henv : env.allocate = fun _ => true) (hstore : Serves store image)
    (hload : Loadable image rproc) (hphase : phase ≠ .phdrs)
    (hnseg : nseg ≤ elfPhnum image.bytes) (htarget : target.rproc = rproc)
    (hseeks : s.Seeks env image phase nseg target) (hstuck : ¬ Streamable (image.phdrs.drop nseg)) :
    (∃ ret target', target'.rproc = rproc ∧
      StreamLoop.body env store s = .inr (some (ret, target'))) ∨
    ∃ s', s'.Stuck image rproc ∧ StreamLoop.body env store s = .inl s' := by
  subst htarget
  cases hnext : nextLoads (image.phdrs.drop nseg) with
  | nil =>
      rcases streamBody_left henv hload hphase hnseg hnext hseeks with
    hstop | ⟨s', hinfo, hrproc, hbody⟩
      · exact .inl hstop
      · have hdrop : image.phdrs.drop (elfPhnum image.bytes) = [] := by
          rw [← image.length_phdrs, List.drop_length]
        have hnone : ¬ Streamable (image.phdrs.drop (elfPhnum image.bytes)) := by
          rw [hdrop]
          rintro ⟨⟨phdr, hget, -⟩, -⟩
          exact absurd hget nofun
        exact .inr ⟨s', ⟨phase, _, hphase, Nat.le_refl _, hinfo, hnone, hrproc⟩, hbody⟩
  | cons phdr rest =>
      by_cases hnone : phdr.pFilesz = 0
      · obtain ⟨target', hrproc, hbody⟩ :=
          streamBody_empty henv hload hphase hnseg hnext hseeks hnone
        exact .inl ⟨0, target', hrproc, hbody⟩
      · have hbody := streamBody_found henv hstore hload hphase hnseg hnext hseeks hnone
        have hrest : rest ≠ [] := fun hrest =>
          hstuck (.of_nextLoads hnext hnone (.inl hrest))
        have hstuck' : ¬ Streamable rest := fun hrest =>
          hstuck (.of_nextLoads hnext hnone (.inr hrest))
        refine .inr ⟨_, ⟨phase, elfPhnum image.bytes - rest.length, hphase, Nat.sub_le _ _, ?_, ?_,
          storeSegment_rproc⟩, hbody⟩
        · rw [StreamLoop.after, ElfImage.wordBefore, if_neg hrest]
        · rwa [drop_of_nextLoads hnext]

/-- Such a run ends with the entry point as it was, if it ends. -/
theorem stuck_returns (rproc : Remoteproc) (henv : env.allocate = fun _ => true)
    (hstore : Serves store image) (hload : Loadable image rproc)
    (hstate : rproc.state = .ready) (hloader : rproc.loader = true) (hphase : phase ≠ .phdrs)
    (hnseg : nseg ≤ elfPhnum image.bytes) (htarget : target.rproc = rproc)
    (hseeks : s.Seeks env image phase nseg target) (hstuck : ¬ Streamable (image.phdrs.drop nseg))
    {r : Option (Int × Target)} (hreturns : Loop.Returns (StreamLoop.body env store) s r) :
    ∃ ret target', target'.rproc = rproc ∧ r = some (ret, target') := by
  have hstep : ∀ s : StreamLoop, s.Stuck image rproc →
      (∃ ret target', target'.rproc = rproc ∧
        StreamLoop.body env store s = .inr (some (ret, target'))) ∨
      ∃ s', s'.Stuck image rproc ∧ StreamLoop.body env store s = .inl s' := by
    rintro s ⟨phase, nseg, hphase, hnseg, hinfo, hstuck, hrproc⟩
    have hseg : nseg < 2 ^ 8 := Nat.lt_of_le_of_lt hnseg hload.phnum_lt
    have hseeks := seeks_ready env hinfo (by rw [hrproc, hstate]) (by rw [hrproc, hloader]) hseg
    exact stuck_step henv hstore hload hphase hnseg hrproc hseeks hstuck
  have hends : ∀ {s : StreamLoop}, s.Stuck image rproc →
      Loop.Returns (StreamLoop.body env store) s r →
      ∃ ret target', target'.rproc = rproc ∧ r = some (ret, target') := by
    intro s hs hreturns
    have hround : ∀ s s', s.Stuck image rproc → StreamLoop.body env store s = .inl s' →
        s'.Stuck image rproc := by
      intro s s' hs hs'
      rcases hstep s hs with ⟨_, _, -, hbody⟩ | ⟨s'', hs'', hbody⟩
      · exact absurd (hbody.symm.trans hs') nofun
      · obtain rfl := Sum.inl.inj (hbody.symm.trans hs')
        exact hs''
    obtain ⟨s', hs', hbody⟩ := hreturns.invariant hs hround
    rcases hstep s' hs' with ⟨ret, target', hrproc, hbody'⟩ | ⟨s'', -, hbody'⟩
    · exact ⟨ret, target', hrproc, Sum.inr.inj (hbody.symm.trans hbody')⟩
    · exact absurd (hbody.symm.trans hbody') nofun
  rcases stuck_step henv hstore hload hphase hnseg htarget hseeks hstuck with
    ⟨ret, target', hrproc, hbody⟩ | ⟨s', hs', hbody⟩
  · exact ⟨ret, target', hrproc, hreturns.unique (.of_inr hbody)⟩
  · exact hends hs' (hreturns.of_returns hbody)

end Stuck

/-! ### Runs that get through the segments -/

section Segments

variable {image : ElfImage} {env : LoaderEnv} {store : ImageStore} {s : StreamLoop}
  {target : Target} {phase : HeaderPhase} {nseg : Nat} {last : Phdr} {r : Option (Int × Target)}

theorem storeAll_rproc (phdrs : List Phdr) (target : Target) :
    (target.storeAll image phdrs).rproc = target.rproc := by
  induction phdrs generalizing target with
  | nil => rfl
  | cons phdr phdrs ih => exact (ih (target.storeSegment image phdr)).trans storeSegment_rproc

/-- The loop loads one segment a round, and comes to the last one. -/
theorem segments_return (target : Target) (henv : env.allocate = fun _ => true)
    (hstore : Serves store image) (hload : Loadable image target.rproc)
    (hstate : target.rproc.state = .ready)
    (hloader : target.rproc.loader = true) (hphase : phase ≠ .phdrs)
    (hnseg : nseg ≤ elfPhnum image.bytes) (hseeks : s.Seeks env image phase nseg target)
    (hstream : Streamable (image.phdrs.drop nseg))
    (hlast : (image.phdrs.drop nseg).getLast? = some last)
    (hrest : ∀ imgData, Loop.Returns (StreamLoop.body env store)
      (.after image phase last [] (store.leave imgData)
        (target.storeAll image (loads (image.phdrs.drop nseg)))) r) :
    Loop.Returns (StreamLoop.body env store) s r := by
  induction hleft : elfPhnum image.bytes - nseg using Nat.strongRecOn
    generalizing nseg s target with
  | _ left ih =>
      cases hnext : nextLoads (image.phdrs.drop nseg) with
      | nil =>
          -- the last header is a segment
          obtain ⟨phdr, hget, htype⟩ := hstream.last
          have hin : phdr ∈ loads (image.phdrs.drop nseg) :=
            List.mem_filter.mpr ⟨List.mem_of_getLast? hget, decide_eq_true htype⟩
          rw [← loads_nextLoads, hnext] at hin
          exact absurd hin List.not_mem_nil
      | cons phdr rest =>
          have hloads := loads_of_nextLoads hnext
          have hsome : phdr.pFilesz ≠ 0 := hstream.filesz phdr (mem_of_nextLoads hnext)
          have hbody := streamBody_found henv hstore hload hphase hnseg hnext hseeks hsome
          have hget := getLast?_of_nextLoads hnext
          apply Loop.Returns.of_inl hbody
          have hstored : target.storeAll image (loads (image.phdrs.drop nseg)) =
              (target.storeSegment image phdr).storeAll image (loads rest) := by
            rw [hloads]
            rfl
          rw [hstored] at hrest
          by_cases hempty : rest = []
          · subst hempty
            obtain rfl := Option.some.inj (hget.symm.trans hlast)
            exact hrest s.imgData
          · have hlen : rest.length < elfPhnum image.bytes - nseg := by
              have hle := (nextLoads_suffix (image.phdrs.drop nseg)).length_le
              rw [hnext, List.length_cons, List.length_drop, image.length_phdrs] at hle
              omega
            have hpos : 0 < rest.length := List.length_pos_iff.mpr hempty
            have hdrop := drop_of_nextLoads hnext
            obtain ⟨second, others, hcons⟩ := List.exists_cons_of_ne_nil hempty
            have hgetRest : (image.phdrs.drop nseg).getLast? = rest.getLast? := by
              rw [hget, hcons, List.getLast?_cons_cons]
            have hinfo : (StreamLoop.after image phase phdr rest (store.leave s.imgData)
                (target.storeSegment image phdr)).imgInfo = some (image.infoAt phase
                  (loadWord .ready phase (elfPhnum image.bytes - rest.length))) := by
              rw [StreamLoop.after, ElfImage.wordBefore, if_neg hempty]
            have hseg : elfPhnum image.bytes - rest.length < 2 ^ 8 :=
              Nat.lt_of_le_of_lt (Nat.sub_le _ _) hload.phnum_lt
            have hrproc : (StreamLoop.after image phase phdr rest (store.leave s.imgData)
                (target.storeSegment image phdr)).target.rproc = target.rproc := storeSegment_rproc
            have hseeks' := seeks_ready env hinfo (by rw [hrproc, hstate]) (by rw [hrproc, hloader])
              hseg
            have hstream' : Streamable rest := by
              constructor
              · rw [← hgetRest]
                exact hstream.last
              · intro p hp
                apply hstream.filesz p
                rw [hloads]
                exact List.mem_cons_of_mem _ hp
            refine ih _ ?_ _ (by rwa [hrproc]) (by rwa [hrproc]) (by rwa [hrproc]) (Nat.sub_le _ _)
              hseeks' (by rwa [hdrop]) (by rwa [hdrop, ← hgetRest]) (by rwa [hdrop]) rfl
            omega

end Segments

/-! ### The headers after the segments -/

/-- What the last call comes to. -/
def ElfImage.finish (image : ElfImage) (env : LoaderEnv) (target : Target) : Int × Target :=
  let out := noblockComplete env (image.infoAt .complete (loadWord .complete .complete 0))
    (loadWord .complete .complete 0) ⟨METAL_BAD_PHYS, none, 0, 0, 0, 0⟩ target
  (out.ret, out.target)

/-- The tables that are waited for are not empty. -/
def ElfImage.TablesNonempty (image : ElfImage) : Prop :=
  elfShnum image.bytes ≠ 0 → (imageShstrtab image.bytes).shSize ≠ 0

section Headers

variable {image : ElfImage} {env : LoaderEnv} {store : ImageStore} {s : StreamLoop}
  {target : Target} {phase next : HeaderPhase} {nseg : Nat} {vars : NoblockVars}

theorem noblockComplete_finish (image : ElfImage) (env : LoaderEnv) (vars : NoblockVars)
    (target : Target) (hseg : nseg < 2 ^ 8) (hio : vars.io = none) :
    let out := noblockComplete env (image.infoAt .complete (loadWord .complete .complete nseg))
      (loadWord .complete .complete nseg) vars target
    (out.ret, out.target) = image.finish env target ∧ out.vars.nlen = vars.nlen := by
  have hbit : loadWord .complete .complete nseg &&& RPROC_LOADER_LOAD_COMPLETE ≠ 0 :=
    (loader_bit .complete .complete .complete nofun hseg).mpr rfl
  have hbit₀ : loadWord .complete .complete 0 &&& RPROC_LOADER_LOAD_COMPLETE ≠ 0 := by decide
  unfold ElfImage.finish noblockComplete
  rw [if_pos hbit, if_pos hbit₀, locatedRscTable_complete .complete hseg,
    locatedRscTable_complete .complete (Nat.two_pow_pos 8)]
  cases image.rscShdr with
  | none => exact ⟨rfl, rfl⟩
  | some shdr =>
      simp only [hio]
      split_ifs
      · exact ⟨rfl, rfl⟩
      · cases remoteprocMmap target.rproc shdr.shAddr shdr.shSize none with
        | mk va pa io =>
            cases io with
            | none => exact ⟨rfl, rfl⟩
            | some io =>
                simp only
                split_ifs
                · exact ⟨rfl, rfl⟩
                · exact ⟨rfl, rfl⟩
                · exact ⟨rfl, rfl⟩

theorem pending_ne (hnonempty : image.TablesNonempty) (hwaits : image.Waits phase)
    (hphase : phase ≠ .phdrs) (hmore : phase ≠ .complete) : (image.pending phase).2 ≠ 0 := by
  cases phase with
  | phdrs => exact absurd rfl hphase
  | shdrs => exact image.pending_shdrs_ne (hwaits (.inl rfl))
  | shstrtab => exact hnonempty (hwaits (.inr rfl))
  | complete => exact absurd rfl hmore

/-- The loop once the segments are loaded and a table has been asked for. -/
def StreamLoop.posted (image : ElfImage) (phase : HeaderPhase) (nseg : Nat) (padding : UInt8)
    (target : Target) : StreamLoop :=
  ⟨some (image.table phase), (image.pending phase).1, (image.pending phase).2,
    some (image.infoAt phase (loadWord .postData phase nseg)), (image.pending phase).1, padding,
    target⟩

/-- The loop once the segments are loaded, with a piece of the file. -/
structure StreamLoop.Post (image : ElfImage) (phase : HeaderPhase) (nseg : Nat) (s : StreamLoop) :
    Prop where
  info : s.imgInfo = some (image.infoAt phase (loadWord .postData phase nseg))
  state : s.target.rproc.state = .ready
  loader : s.target.rproc.loader = true
  phase_ne : phase ≠ .phdrs
  waits : image.Waits phase
  seg_lt : nseg < 2 ^ 8
  piece_le : s.offset + s.len ≤ image.bytes.length
  data : Covers s.offset s.len (image.pending phase) → (image.pending phase).2 ≠ 0 →
    s.imgData = some (slice image.bytes s.offset s.len)

theorem post_call (henv : env.allocate = fun _ => true) (hs : s.Post image phase nseg)
    (hnext : image.advance s.offset s.len phase = next) :
    s.call env =
      let out := image.headerOut .postData nseg next s.noffset
      if out.nlen ≠ 0 then
        some ⟨0, out.imgInfo, ⟨METAL_BAD_PHYS, none, out.noffset, out.nlen, 0, s.padding⟩, s.target⟩
      else
        noblockData env s.imgData s.offset s.len out.imgInfo (loadWord .postData next nseg)
          ⟨METAL_BAD_PHYS, none, out.noffset, out.nlen, 0, s.padding⟩ s.target := by
  have hword : (some (image.infoAt phase (loadWord .postData phase nseg))).elim 0 elfGetLoadState =
    loadWord .postData phase nseg := rfl
  have hready : loadWord .postData phase nseg &&& RPROC_LOADER_READY_TO_LOAD = 0 := by
    by_contra hbit
    exact absurd ((loader_bit .postData .ready phase nofun hs.seg_lt).mp hbit) nofun
  have hcomplete : loadWord .postData phase nseg &&& RPROC_LOADER_LOAD_COMPLETE = 0 := by
    by_contra hbit
    exact absurd ((loader_bit .postData .complete phase nofun hs.seg_lt).mp hbit) nofun
  have hheader := ElfImage.elfLoadHeader_eq .postData hs.phase_ne nofun
    (fun h => hs.waits (.inr h)) hs.piece_le hs.data hs.seg_lt s.noffset (fun _ => rfl)
  rw [hnext, ← henv] at hheader
  rw [StreamLoop.call, hs.info, remoteprocLoadNoblock_headers _ (by rwa [hword]) hs.state
    (.inl hs.loader) (by rwa [hword]) (by rwa [hword]) hs.seg_lt,
    Target.identified_of_loader hs.loader]
  simp only [ne_eq, reduceCtorEq, not_false_eq_true, and_true]

theorem StreamLoop.Post.posted (hs : s.Post image phase nseg)
    (hnext : image.advance s.offset s.len phase = next) (hmore : next ≠ .complete)
    (padding : UInt8) :
    (StreamLoop.posted image next nseg padding s.target).Post image next nseg := by
  have hphase : next ≠ .phdrs := by
    rw [← hnext]
    exact image.advance_ne_phdrs s.offset s.len hs.phase_ne
  have hwaits : image.Waits next := by
    rw [← hnext]
    exact hs.waits.advance s.offset s.len
  exact ⟨rfl, hs.state, hs.loader, hphase, hwaits, hs.seg_lt,
    image.pending_le next (.inr (hwaits.sections hphase hmore)), fun _ _ => rfl⟩

theorem streamBody_post_more (henv : env.allocate = fun _ => true) (hstore : Serves store image)
    (hnonempty : image.TablesNonempty) (hs : s.Post image phase nseg)
    (hnext : image.advance s.offset s.len phase = next) (hmore : next ≠ .complete) :
    StreamLoop.body env store s = .inl (.posted image next nseg s.padding s.target) := by
  have hposted := hs.posted hnext hmore s.padding
  have hsome := pending_ne hnonempty hposted.waits hposted.phase_ne hmore
  have hcall := post_call henv hs hnext
  simp only [ElfImage.headerOut, hsome, ne_eq, not_false_eq_true, if_true, hmore, if_false] at hcall
  have hle : (image.pending next).1 + (image.pending next).2 ≤ store.image.length := by
    rw [hstore.image_eq]
    exact hposted.piece_le
  rw [streamBody_local hcall hsome hle, hstore.image_eq]
  rfl

theorem streamBody_post_done (henv : env.allocate = fun _ => true) (hs : s.Post image phase nseg)
    (hnext : image.advance s.offset s.len phase = .complete) :
    StreamLoop.body env store s = .inr (some (image.finish env s.target)) := by
  have hseg := hs.seg_lt
  have hcall := post_call henv hs hnext
  have hpost : loadWord .postData .complete nseg &&& RPROC_LOADER_READY_TO_LOAD ≠ 0 ∨
      loadWord .postData .complete nseg &&& RPROC_LOADER_POST_DATA_LOAD ≠ 0 :=
    .inr ((loader_bit .postData .postData .complete nofun hseg).mpr rfl)
  have hadvance : image.advance s.offset s.len .complete = .complete := rfl
  have hload := ElfImage.elfLoad_post s.imgData s.offset s.len
    ⟨RPROC_LOAD_ANYADDR, s.noffset, 0, s.padding, 0⟩ hadvance nofun hseg nofun hs.piece_le
    (fun _ hsome => absurd rfl hsome) rfl rfl
  have hzero : (image.pending .complete).2 = 0 := rfl
  have hword : ElfImage.postWord .complete nseg = loadWord .complete .complete nseg := rfl
  rw [← henv, hword, hzero, if_pos rfl] at hload
  simp only [ElfImage.headerOut, hzero, ne_eq, not_true_eq_false, if_false, if_true] at hcall
  rw [noblockData, if_pos hpost] at hcall
  simp only [hload, Option.bind_eq_bind, Option.bind_some, ne_eq, not_true_eq_false, if_false] at hcall
  obtain ⟨hfinish, hnlen⟩ := noblockComplete_finish image env
    ⟨METAL_BAD_PHYS, none, s.noffset, 0, 0, 0⟩ s.target hseg rfl
  rw [streamBody_stop hcall hnlen, hfinish]

/-- The rest of the headers is asked for, and then the loop is done. -/
theorem posted_return (henv : env.allocate = fun _ => true) (hstore : Serves store image)
    (hnonempty : image.TablesNonempty) {padding : UInt8}
    (hs : (StreamLoop.posted image phase nseg padding target).Post image phase nseg)
    (hphase : phase ≠ .complete) :
    Loop.Returns (StreamLoop.body env store) (.posted image phase nseg padding target)
      (some (image.finish env target)) := by
  induction hmissing : phase.missing using Nat.strongRecOn generalizing phase with
  | _ missing ih =>
      by_cases hdone : image.advance (image.pending phase).1 (image.pending phase).2 phase = .complete
      · exact .of_inr (streamBody_post_done henv hs hdone)
      · have hbody := streamBody_post_more henv hstore hnonempty hs rfl hdone
        have hless := image.missing_advance hphase
        rw [hmissing] at hless
        exact .of_inl hbody (ih _ hless (hs.posted rfl hdone padding) hdone rfl)

theorem post_return (henv : env.allocate = fun _ => true) (hstore : Serves store image)
    (hnonempty : image.TablesNonempty) (hs : s.Post image phase nseg) :
    Loop.Returns (StreamLoop.body env store) s (some (image.finish env s.target)) := by
  by_cases hdone : image.advance s.offset s.len phase = .complete
  · exact .of_inr (streamBody_post_done henv hs hdone)
  · have hbody := streamBody_post_more henv hstore hnonempty hs rfl hdone
    exact .of_inl hbody
      (posted_return henv hstore hnonempty (hs.posted rfl hdone s.padding) hdone)

end Headers

/-! ### The start -/

/-- How far the headers are read when the program headers are there: the first piece has the ELF
header, and if the program headers are not in it, they are asked for alone. -/
def ElfImage.streamPhase (image : ElfImage) (openLen : Nat) : HeaderPhase :=
  let first := image.advance 0 (max openLen (sizeofEhdr image.is64)) .phdrs
  if first = .phdrs then image.advance (image.pending .phdrs).1 (image.pending .phdrs).2 .phdrs
  else first

section Start

variable {image : ElfImage} {env : LoaderEnv} {store : ImageStore} {s : StreamLoop}
  {target : Target} {imgData : Option (List UInt8)}

theorem advance_pending_phdrs (image : ElfImage) :
    image.advance (image.pending .phdrs).1 (image.pending .phdrs).2 .phdrs ≠ .phdrs := by
  have hcovers : Covers (image.pending .phdrs).1 (image.pending .phdrs).2 (image.pending .phdrs) :=
    ⟨Nat.le_refl _, Nat.le_refl _⟩
  simp only [ElfImage.advance, ElfImage.advancePhdrs, if_pos hcovers]
  exact image.advanceShdrs_ne_phdrs _ _

theorem streamPhase_ne_phdrs (image : ElfImage) (openLen : Nat) :
    image.streamPhase openLen ≠ .phdrs := by
  unfold ElfImage.streamPhase
  simp only
  split_ifs with hfirst
  · exact advance_pending_phdrs image
  · exact hfirst

theorem waits_streamPhase (image : ElfImage) (openLen : Nat) :
    image.Waits (image.streamPhase openLen) := by
  have hwaits : image.Waits .phdrs := nofun
  unfold ElfImage.streamPhase
  simp only
  split_ifs
  · exact hwaits.advance _ _
  · exact hwaits.advance _ _

/-- A call whose headers reach the program headers goes on with the segments. -/
theorem seeks_of_headers {next : HeaderPhase} (hstate : s.target.rproc.state = .ready)
    (hformat : s.target.rproc.loader = true ∨ (s.imgData ≠ none ∧ s.offset = 0 ∧ s.len ≠ 0 ∧
      remoteprocCheckFwFormat s.imgData s.len = true))
    (hready : s.imgInfo.elim 0 elfGetLoadState &&& RPROC_LOADER_READY_TO_LOAD = 0)
    (hcomplete : s.imgInfo.elim 0 elfGetLoadState &&& RPROC_LOADER_LOAD_COMPLETE = 0)
    (hcall : elfLoadHeader env.allocate s.imgData s.offset s.len s.imgInfo
      (s.imgInfo.elim 0 elfGetLoadState) s.noffset 0 =
        some (image.headerOut .ready 0 next s.noffset)) :
    s.Seeks env image next 0 s.target.identified := by
  have hblock := remoteprocLoadNoblock_headers
    ⟨METAL_BAD_PHYS, none, s.noffset, 0, 0, s.padding⟩ hcall hstate hformat hready hcomplete
    (Nat.two_pow_pos 8)
  simp only [ne_eq, not_true_eq_false, and_false, if_false] at hblock
  exact ⟨s.imgData, s.offset, s.len, _, _, s.padding, hblock⟩

/-- The loop before the ELF header has been found. -/
def StreamLoop.opened (image : ElfImage) (len noffset : Nat) (padding : UInt8) (target : Target) :
    StreamLoop :=
  ⟨some (slice image.bytes 0 len), 0, len, none, noffset, padding, target⟩

/-- The loop comes to seek the first segment, or it stops for want of program headers. -/
def StreamLoop.Starts (env : LoaderEnv) (store : ImageStore) (image : ElfImage)
    (phase : HeaderPhase) (target : Target) (s : StreamLoop) : Prop :=
  (elfPhnum image.bytes = 0 ∧ Loop.Returns (StreamLoop.body env store) s (some (0, target))) ∨
    ∃ s' : StreamLoop, s'.Seeks env image phase 0 target ∧
      ∀ r, Loop.Returns (StreamLoop.body env store) s' r ↔
        Loop.Returns (StreamLoop.body env store) s r

theorem starts_opened (target : Target) (henv : env.allocate = fun _ => true)
    (hstore : Serves store image) (hstate : target.rproc.state = .ready) {len : Nat}
    (hclass : EI_CLASS < len)
    (hlen : len ≤ image.bytes.length) (hlong : ¬ len < sizeofEhdr image.is64) (noffset : Nat)
    (padding : UInt8) :
    (StreamLoop.opened image len noffset padding target).Starts env store image
      (if image.advance 0 len .phdrs = .phdrs then
        image.advance (image.pending .phdrs).1 (image.pending .phdrs).2 .phdrs
      else image.advance 0 len .phdrs) target.identified := by
  have hinit := ElfImage.elfLoadHeader_init hlen hclass noffset 0
  rw [if_neg hlong, ← henv] at hinit
  have hformat : remoteprocCheckFwFormat (some (slice image.bytes 0 len)) len = true :=
    checkFwFormat_slice image hclass
  have hpos : len ≠ 0 := by omega
  by_cases hfirst : image.advance 0 len .phdrs = .phdrs
  · have hphase : image.advancePhdrs 0 len = .phdrs := hfirst
    rw [if_pos hfirst]
    rw [if_pos hphase, hphase] at hinit
    have hcall : (StreamLoop.opened image len noffset padding target).call env = _ :=
      remoteprocLoadNoblock_headers ⟨METAL_BAD_PHYS, none, noffset, 0, 0, padding⟩ hinit hstate
        (.inr ⟨nofun, rfl, hpos, hformat⟩) (Nat.zero_and _) (Nat.zero_and _) (Nat.two_pow_pos 8)
    by_cases hnone : (image.pending .phdrs).2 = 0
    · have hphnum : elfPhnum image.bytes = 0 := by
        have hsize : sizeofPhdr image.is64 ≠ 0 := by cases image.is64 <;> decide
        exact (Nat.mul_eq_zero.mp hnone).resolve_right hsize
      have hidle : ¬ (loadWord .notReady .phdrs 0 &&& RPROC_LOADER_READY_TO_LOAD ≠ 0 ∨
          loadWord .notReady .phdrs 0 &&& RPROC_LOADER_POST_DATA_LOAD ≠ 0) := by decide
      have hword : ∀ vars target, noblockComplete env
          (image.infoAt .phdrs (loadWord .notReady .phdrs 0)) (loadWord .notReady .phdrs 0) vars
          target = ⟨0, some (image.infoAt .phdrs (loadWord .notReady .phdrs 0)), vars, target⟩ :=
        fun vars target => noblockComplete_of_not nofun (Nat.two_pow_pos 8)
      simp only [ElfImage.headerOut, hnone, ne_eq, not_true_eq_false, false_and, if_false,
        noblockData, if_neg hidle, Option.bind_eq_bind, Option.bind_some, hword] at hcall
      exact .inl ⟨hphnum, .of_inr (streamBody_stop hcall rfl)⟩
    · simp only [ElfImage.headerOut, hnone, ne_eq, not_false_eq_true, true_and, if_true, reduceCtorEq,
        if_false] at hcall
      have hle : (image.pending .phdrs).1 + (image.pending .phdrs).2 ≤ store.image.length := by
        rw [hstore.image_eq]
        exact image.phdrs_le
      have hbody := streamBody_local hcall hnone hle
      rw [hstore.image_eq] at hbody
      have hnext := ElfImage.elfLoadHeader_phdrs (image.pending_le .phdrs (.inl rfl))
        (image.pending .phdrs).1 0
      have hphase' : ¬ image.advancePhdrs (image.pending .phdrs).1 (image.pending .phdrs).2 = .phdrs :=
        advance_pending_phdrs image
      rw [if_neg hphase', ← henv] at hnext
      refine .inr ⟨_, ?_, fun r => ⟨.of_inl hbody, .of_returns hbody⟩⟩
      have hready : loadWord .notReady .phdrs 0 &&& RPROC_LOADER_READY_TO_LOAD = 0 := by decide
      have hcomplete : loadWord .notReady .phdrs 0 &&& RPROC_LOADER_LOAD_COMPLETE = 0 := by decide
      exact seeks_of_headers hstate (.inl rfl) hready hcomplete hnext
  · have hphase : ¬ image.advancePhdrs 0 len = .phdrs := hfirst
    rw [if_neg hfirst]
    rw [if_neg hphase] at hinit
    refine .inr ⟨.opened image len noffset padding target, ?_, fun _ => Iff.rfl⟩
    exact seeks_of_headers hstate (.inr ⟨nofun, rfl, hpos, hformat⟩) (Nat.zero_and _)
      (Nat.zero_and _) hinit

theorem starts_serves (henv : env.allocate = fun _ => true) (hstore : Serves store image)
    (hstate : target.rproc.state = .ready) (noffset : Nat) (padding : UInt8) :
    (StreamLoop.opened image store.openLen noffset padding target).Starts env store image
      (image.streamPhase store.openLen) target.identified := by
  unfold ElfImage.streamPhase
  by_cases hshort : store.openLen < sizeofEhdr image.is64
  · have hmax : max store.openLen (sizeofEhdr image.is64) = sizeofEhdr image.is64 := by omega
    have hclass : EI_CLASS < sizeofEhdr image.is64 := by cases image.is64 <;> decide
    have hstarts := starts_opened target.identified henv hstore hstate hclass
      image.ehdr_le (Nat.lt_irrefl _) 0 padding
    rw [hmax]
    have hbody : StreamLoop.body env store (.opened image store.openLen noffset padding target) =
        .inl (.opened image (sizeofEhdr image.is64) 0 padding target.identified) := by
      have hinit := ElfImage.elfLoadHeader_init hstore.open_le hstore.class_lt noffset 0
      rw [if_pos hshort, ← henv] at hinit
      have hformat := checkFwFormat_slice image hstore.class_lt
      have hpos : store.openLen ≠ 0 := by
        have hopen := hstore.class_lt
        omega
      have hsize : sizeofEhdr image.is64 ≠ 0 := by omega
      have hle : 0 + sizeofEhdr image.is64 ≤ store.image.length := by
        rw [hstore.image_eq, Nat.zero_add]
        exact image.ehdr_le
      have hcall : (StreamLoop.opened image store.openLen noffset padding target).call env =
          some ⟨0, none, ⟨METAL_BAD_PHYS, none, 0, sizeofEhdr image.is64, 0, padding⟩,
            target.identified⟩ := by
        have hinit' : elfLoadHeader env.allocate (some (slice image.bytes 0 store.openLen)) 0
          store.openLen none 0 noffset 0 = _ := hinit
        have hidle : ELF_STATE_INIT &&& RPROC_LOADER_READY_TO_LOAD = 0 := Nat.zero_and _
        simp only [StreamLoop.call, StreamLoop.opened, remoteprocLoadNoblock, hstate, hformat, hpos,
          ne_eq, not_true_eq_false, if_false, reduceCtorEq, or_false, and_false,
          Bool.true_eq_false, Option.elim_none, Nat.zero_and, and_self, if_true, hinit',
          Option.bind_eq_bind, Option.bind_some, hsize, not_false_eq_true, hidle,
          Target.identified]
      rw [streamBody_local hcall hsize hle, hstore.image_eq]
      rfl
    rcases hstarts with ⟨hphnum, hreturns⟩ | ⟨s', hseeks, hreturns⟩
    · exact .inl ⟨hphnum, .of_inl hbody hreturns⟩
    · refine .inr ⟨s', hseeks, fun r => (hreturns r).trans ⟨.of_inl hbody, .of_returns hbody⟩⟩
  · have hmax : max store.openLen (sizeofEhdr image.is64) = store.openLen := by omega
    rw [hmax]
    exact starts_opened target henv hstore hstate hstore.class_lt hstore.open_le hshort noffset
      padding

end Start

/-! ### The resource table -/

/-- The resource table is part of the bytes of a segment, and its length and those of the paddings are
such that an `int` holds them. -/
def ElfImage.RscLoaded (image : ElfImage) : Prop :=
  ∀ shdr, image.rscShdr = some shdr → image.PaddingFits ∧ shdr.shSize < 2 ^ 31 ∧
    ∃ phdr ∈ loads image.phdrs, phdr.pVaddr ≤ shdr.shAddr ∧
      shdr.shAddr + shdr.shSize ≤ phdr.pVaddr + phdr.pFilesz ∧
      shdr.shOffset = phdr.pOffset + (shdr.shAddr - phdr.pVaddr)

/-- Mappings agree on where a device address is, a part of what is mapped is mapped, and libmetal
fills and reads what is mapped, if the length is one that an `int` holds. -/
structure TargetAccess (rproc : Remoteproc) : Prop where
  linear : ∀ da size map da' size' map', rproc.MapsTo da size map → rproc.MapsTo da' size' map' →
    ∀ i < size, ∀ j < size', map.pa + i = map'.pa + j ↔ da + i = da' + j
  part : ∀ da size map, rproc.MapsTo da size map → ∀ k n, 0 < n → k + n ≤ size →
    ∃ map', rproc.MapsTo (da + k) n map'
  fills : rproc.Fills
  va_ne : ∀ da size map, rproc.MapsTo da size map → 0 < size → map.va ≠ NULL
  block_read : ∀ da size map, rproc.MapsTo da size map → 0 < size → size < 2 ^ 31 → ∀ ram,
    map.io.blockRead (map.io.virtToOffset map.va) size ram = ((size : Int), readBytes ram map.pa size)

section RscTable

variable {image : ElfImage} {env : LoaderEnv} {store : ImageStore} {target : Target} {shdr : Shdr}
  {rproc rproc' : Remoteproc}

theorem mapsTo_congr (hmapping : rproc'.mapping = rproc.mapping) {da size : Nat}
    {map : TargetMapping} : rproc'.MapsTo da size map ↔ rproc.MapsTo da size map := by
  constructor
  · rintro ⟨hmap, hda, hpa⟩
    exact ⟨by rwa [hmapping] at hmap, hda, hpa⟩
  · rintro ⟨hmap, hda, hpa⟩
    exact ⟨by rwa [hmapping], hda, hpa⟩

theorem Loadable.congr (h : Loadable image rproc) (hmapping : rproc'.mapping = rproc.mapping) :
    Loadable image rproc' where
  phnum_lt := h.phnum_lt
  file_le := h.file_le
  mapped := by
    simp only [mapsTo_congr hmapping]
    exact h.mapped

theorem TargetAccess.congr (h : TargetAccess rproc) (hmapping : rproc'.mapping = rproc.mapping) :
    TargetAccess rproc' := by
  constructor
  · simp only [mapsTo_congr hmapping]
    exact h.linear
  · simp only [mapsTo_congr hmapping]
    exact h.part
  · simp only [Remoteproc.Fills, mapsTo_congr hmapping]
    exact h.fills
  · simp only [mapsTo_congr hmapping]
    exact h.va_ne
  · simp only [mapsTo_congr hmapping]
    exact h.block_read

theorem rscShdr_size (hshdr : image.rscShdr = some shdr) : 0 < shdr.shSize :=
  of_decide_eq_true (Option.filter_eq_some_iff.mp hshdr).2

/-- The table is found in the target memory as it is in the file. -/
theorem read_rscTable (haccess : TargetAccess target.rproc) (hload : Loadable image target.rproc)
    (hsegments : SegmentsOk image) (hrsc : image.RscLoaded) (hshdr : image.rscShdr = some shdr) :
    ∃ map, target.rproc.MapsTo shdr.shAddr shdr.shSize map ∧
      map.io.blockRead (map.io.virtToOffset map.va) shdr.shSize
          (target.storeAll image (loads image.phdrs)).ram =
        ((shdr.shSize : Int), slice image.bytes shdr.shOffset shdr.shSize) ∧
      shdr.shOffset + shdr.shSize ≤ image.bytes.length := by
  have hpos := rscShdr_size hshdr
  obtain ⟨hfits, hshort, phdr, hphdr, hfrom, hto, hoffset⟩ := hrsc shdr hshdr
  have hfile := hload.file_le phdr hphdr
  have hsize := hsegments.filesz_le phdr hphdr
  obtain ⟨segment, hsegment⟩ := hload.mapped phdr hphdr
  obtain ⟨map, hmap⟩ := haccess.part _ _ segment hsegment (shdr.shAddr - phdr.pVaddr) shdr.shSize
    hpos (by omega)
  rw [show phdr.pVaddr + (shdr.shAddr - phdr.pVaddr) = shdr.shAddr by omega] at hmap
  have haddr := (haccess.linear _ _ _ _ _ _ hmap hsegment 0 hpos (shdr.shAddr - phdr.pVaddr)
    (by omega)).mpr (by omega)
  rw [Nat.add_zero] at haddr
  have haddress : target.rproc.OneAddress := fun da size map da' size' map' h h' i hi j hj =>
    (haccess.linear da size map da' size' map' h h' i hi j hj).mp
  have hcontent := readBytes_storeAll haddress (places_of_fits haccess.fills hload hfits) hload
    hsegments hphdr (hfits phdr hphdr) hsegment
  have hinside : shdr.shAddr - phdr.pVaddr + shdr.shSize ≤ phdr.pMemsz := by omega
  have hpart : shdr.shAddr - phdr.pVaddr + shdr.shSize ≤ phdr.pFilesz := by omega
  refine ⟨map, hmap, ?_, by omega⟩
  rw [haccess.block_read _ _ map hmap hpos hshort]
  congr 1
  calc
    readBytes (target.storeAll image (loads image.phdrs)).ram map.pa shdr.shSize =
        slice (image.content phdr) (shdr.shAddr - phdr.pVaddr) shdr.shSize := by
          rw [haddr, readBytes_part _ _ hinside, hcontent]
    _ = slice (slice image.bytes phdr.pOffset phdr.pFilesz) (shdr.shAddr - phdr.pVaddr)
        shdr.shSize := by
          apply slice_append_left
          rwa [length_slice hfile]
    _ = slice image.bytes shdr.shOffset shdr.shSize := by
          rw [slice_slice hpart, hoffset]

/-- The last call makes the same of the table as `remoteproc_load` does. -/
theorem finish_of_update (target : Target) (henv : env.allocate = fun _ => true)
    (hstore : Serves store image) (haccess : TargetAccess target.rproc)
    (hload : Loadable image target.rproc)
    (hsegments : SegmentsOk image) (hrsc : image.RscLoaded) {left : List (Nat × Nat)}
    {io : Option TargetIo} {updated : Target}
    (hupdate : updateRscTable io
      { target.storeAll image (loads image.phdrs) with
        mapped := (target.storeAll image (loads image.phdrs)).mapped ++ left }
      (image.fileRsc env store) = some updated) :
    ∃ finished, image.finish env (target.storeAll image (loads image.phdrs)) = (0, finished) ∧
      finished.ram = updated.ram ∧ finished.rproc.bootaddr = elfEntry image.bytes := by
  have hbit : loadWord .complete .complete 0 &&& RPROC_LOADER_LOAD_COMPLETE ≠ 0 := by decide
  have hrproc : (target.storeAll image (loads image.phdrs)).rproc = target.rproc :=
    storeAll_rproc (loads image.phdrs) target
  unfold ElfImage.finish noblockComplete
  rw [if_pos hbit, locatedRscTable_complete .complete (Nat.two_pow_pos 8)]
  unfold ElfImage.fileRsc at hupdate
  cases hshdr : image.rscShdr with
  | none =>
      rw [hshdr] at hupdate
      obtain rfl := Option.some.inj hupdate
      exact ⟨_, rfl, rfl, image.elfEntry_ehdr⟩
  | some shdr =>
      obtain ⟨map, hmap, hread, hfile⟩ := read_rscTable haccess hload hsegments hrsc hshdr
      have hva := haccess.va_ne _ _ map hmap (rscShdr_size hshdr)
      have hshort : toInt32 shdr.shSize = shdr.shSize := toInt32_of_lt (hrsc shdr hshdr).2.1
      rw [hshdr] at hupdate
      simp only [Option.map_some, remoteprocGetRscTable, henv, Bool.true_eq_false, if_false,
        ImageStore.load, hstore.image_eq, if_pos hfile] at hupdate
      by_cases hnegative : toInt32 shdr.shSize < 0 ∨ toInt32 shdr.shSize < toInt32 shdr.shSize
      · rw [if_pos hnegative] at hupdate
        cases hupdate
      · rw [if_neg hnegative] at hupdate
        by_cases hstatus : (env.handleRscTable (slice image.bytes shdr.shOffset shdr.shSize)).1 < 0
        · rw [if_pos hstatus] at hupdate
          cases hupdate
        · rw [if_neg hstatus] at hupdate
          simp only [updateRscTable, hrproc, remoteprocMmap_of_some hmap.mapping_eq, hva, if_false,
            Option.map_some] at hupdate
          obtain rfl := Option.some.inj hupdate
          simp only [henv, Bool.true_eq_false, if_false, hrproc,
            remoteprocMmap_of_some hmap.mapping_eq, hshort, hread, ne_eq, not_true_eq_false, hstatus]
          exact ⟨_, rfl, rfl, image.elfEntry_ehdr⟩

end RscTable

/-! ### The two loaders -/

/-- Every segment has bytes in the file, the last program header is one of them, and no header table
that is still missing then lies in its part of the file. -/
structure StreamOk (image : ElfImage) (openLen : Nat) : Prop where
  streamable : Streamable image.phdrs
  missing : ∀ phdr, image.phdrs.getLast? = some phdr → image.streamPhase openLen ≠ .complete →
    ¬ Covers phdr.pOffset phdr.pFilesz (image.pending (image.streamPhase openLen))

/-- From whatever state of the memory and with whatever the store leaves in the pointer to local
data, the loop of `load_exectuable_noblock` comes to the same as `remoteproc_load`. What is mapped is
given by `rproc`. -/
def LoadersAgree (env : LoaderEnv) (image : ElfImage) (openLen : Nat) (rproc : Remoteproc) : Prop :=
  ∀ (store : ImageStore) (target : Target), Serves store image → store.openLen = openLen →
    target.rproc.mapping = rproc.mapping → target.rproc.state = .ready →
    ∀ rounds target', remoteprocLoad env rounds store target = some (0, target') →
      ∀ noffset padding, ∃ rounds target'',
        loadExectuableNoblock env rounds store noffset padding target = some (0, target'') ∧
          target''.ram = target'.ram ∧ target''.rproc.bootaddr = target'.rproc.bootaddr

section Agree

variable {image : ElfImage} {env : LoaderEnv} {store : ImageStore} {target : Target}

theorem loadExectuableNoblock_iff (hstore : Serves store image) (noffset : Nat) (padding : UInt8)
    (result : Int × Target) :
    (∃ rounds, loadExectuableNoblock env rounds store noffset padding target = some result) ↔
      Loop.Returns (StreamLoop.body env store)
        (.opened image store.openLen noffset padding target) (some result) := by
  have hopen : store.openLen ≠ 0 := by
    have hclass := hstore.class_lt
    omega
  simp only [loadExectuableNoblock, if_neg hopen, hstore.image_eq]
  constructor
  · rintro ⟨rounds, hrun⟩
    refine ⟨rounds, ?_⟩
    obtain ⟨r, hr, hresult⟩ := Option.bind_eq_some_iff.mp hrun
    rw [StreamLoop.opened, hr, hresult]
  · rintro ⟨rounds, hrun⟩
    refine ⟨rounds, ?_⟩
    rw [StreamLoop.opened] at hrun
    rw [hrun]
    rfl

/-- With all the headers there, what `remoteproc_load` returns depends on the resource table. -/
theorem remoteprocLoad_update (target : Target) (henv : env.allocate = fun _ => true)
    (hstore : Serves store image) (hload : Loadable image target.rproc)
    (hnonempty : image.TablesNonempty)
    (hstate : target.rproc.state = .ready) (hmapped : LastMapped target.rproc image.phdrs) :
    ∃ left io least, ∀ rounds ≥ least, remoteprocLoad env rounds store target =
      (updateRscTable io (target.stored image left) (image.fileRsc env store)).map
        fun target => (0, target.booted (elfEntry image.bytes)) := by
  obtain ⟨phase, left, io, late, hdone, -, hlate, least, hfinal⟩ :=
    (remoteprocLoad_outcome henv hstore hload (.inl hstate)).1 hmapped
  have hphase : phase = .complete := by
    by_contra hmore
    exact pending_ne hnonempty hdone.waits hdone.ne_phdrs hmore hdone.nothing
  subst hphase
  have hearly : fileRscTable env store (image.infoAt .complete (loadWord .ready .complete 0)) =
      image.fileRsc env store := by
    unfold fileRscTable
    rw [locatedRscTable_complete .ready (Nat.two_pow_pos 8)]
    rfl
  have hboth : (image.fileRsc env store <|> late) = image.fileRsc env store := by
    cases hfile : image.fileRsc env store with
    | none =>
        rw [hfile, or_self] at hlate
        rw [hlate]
        rfl
    | some table => rfl
  refine ⟨left, io, least, fun rounds hrounds => ?_⟩
  rw [hfinal rounds hrounds, hearly, hboth]

theorem remoteprocLoad_success (henv : env.allocate = fun _ => true) (hstore : Serves store image)
    (hload : Loadable image target.rproc) (hnonempty : image.TablesNonempty)
    (hstate : target.rproc.state = .ready) {rounds : Nat} {target' : Target}
    (hresult : remoteprocLoad env rounds store target = some (0, target')) :
    LastMapped target.rproc image.phdrs ∧
      ∃ left io updated, updateRscTable io (target.stored image left) (image.fileRsc env store) =
        some updated ∧ target' = updated.booted (elfEntry image.bytes) := by
  by_cases hmapped : LastMapped target.rproc image.phdrs
  · obtain ⟨left, io, least, hfinal⟩ :=
      remoteprocLoad_update target henv hstore hload hnonempty hstate hmapped
    have hlarge := remoteprocLoad_mono hstore (.inl hstate) (Nat.le_max_left rounds least) hresult
    rw [hfinal _ (Nat.le_max_right rounds least)] at hlarge
    obtain ⟨updated, hupdate, hbooted⟩ := Option.map_eq_some_iff.mp hlarge
    exact ⟨hmapped, left, io, updated, hupdate, (congrArg Prod.snd hbooted).symm⟩
  · exact absurd hresult
      ((remoteprocLoad_outcome henv hstore hload (.inl hstate)).2 hmapped rounds target')

/-- Only the table itself decides whether it can be copied back. -/
theorem updateRscTable_isSome {rsc : Option (Shdr × Except Int (List UInt8))}
    {io : Option TargetIo} {updated : Target} (hupdate : updateRscTable io target rsc = some updated)
    (io' : Option TargetIo) (other : Target) :
    ∃ updated', updateRscTable io' other rsc = some updated' := by
  match rsc, hupdate with
  | none, _ => exact ⟨other, rfl⟩
  | some (shdr, .error status), hupdate => exact absurd hupdate nofun
  | some (shdr, .ok rscTable), _ =>
      cases hmap : other.rproc.mapping shdr.shAddr shdr.shSize with
      | none =>
          simp only [updateRscTable, remoteprocMmap_of_none hmap, if_true]
          exact ⟨_, rfl⟩
      | some map =>
          simp only [updateRscTable, remoteprocMmap_of_some hmap]
          split_ifs
          · exact ⟨_, rfl⟩
          · exact ⟨_, rfl⟩

/-- Under the condition, the loop ends with the call that sets the entry point. -/
theorem stream_returns (henv : env.allocate = fun _ => true) (hstore : Serves store image)
    (hload : Loadable image target.rproc) (hnonempty : image.TablesNonempty)
    (hstate : target.rproc.state = .ready) (hstream : StreamOk image store.openLen) (noffset : Nat)
    (padding : UInt8) :
    Loop.Returns (StreamLoop.body env store)
      (.opened image store.openLen noffset padding target)
      (some (image.finish env (target.identified.storeAll image (loads image.phdrs)))) := by
  obtain ⟨last, hlast, htype⟩ := hstream.streamable.last
  have hlastMem : last ∈ loads image.phdrs :=
    List.mem_filter.mpr ⟨List.mem_of_getLast? hlast, decide_eq_true htype⟩
  rcases starts_serves henv hstore hstate noffset padding with ⟨hphnum, -⟩ | ⟨s, hseeks, hreturns⟩
  · have hlength := image.length_phdrs
    rw [hphnum, List.length_eq_zero_iff] at hlength
    rw [hlength] at hlast
    exact absurd hlast nofun
  · rw [← hreturns]
    have hstream' := hstream.streamable
    rw [← image.phdrs.drop_zero] at hstream' hlast
    apply segments_return target.identified henv hstore hload.identified hstate rfl
      (streamPhase_ne_phdrs image store.openLen) (Nat.zero_le _) hseeks hstream' hlast
    intro imgData
    rw [List.drop_zero]
    have hpost : (StreamLoop.after image (image.streamPhase store.openLen) last []
        (store.leave imgData) (target.identified.storeAll image (loads image.phdrs))).Post image
          (image.streamPhase store.openLen) (elfPhnum image.bytes) :=
      { info := rfl
        state := by
          rw [StreamLoop.after, storeAll_rproc]
          exact hstate
        loader := by
          rw [StreamLoop.after, storeAll_rproc]
          rfl
        phase_ne := streamPhase_ne_phdrs image store.openLen
        waits := waits_streamPhase image store.openLen
        seg_lt := hload.phnum_lt
        piece_le := hload.file_le last hlastMem
        data := fun hcovers hsome => by
          rw [List.drop_zero] at hlast
          by_cases hcomplete : image.streamPhase store.openLen = .complete
          · rw [hcomplete] at hsome
            exact absurd rfl hsome
          · exact absurd hcovers (hstream.missing last hlast hcomplete) }
    exact post_return henv hstore hnonempty hpost

/-- With a table in the part of the file that was loaded to the target, the headers are copied from
what the store has left behind. -/
theorem post_call_null {s : StreamLoop} {phase : HeaderPhase} {nseg : Nat}
    (henv : env.allocate = fun _ => true) (hnonempty : image.TablesNonempty)
    (hinfo : s.imgInfo = some (image.infoAt phase (loadWord .postData phase nseg)))
    (hstate : s.target.rproc.state = .ready) (hloader : s.target.rproc.loader = true)
    (hphase : phase ≠ .phdrs) (hmore : phase ≠ .complete) (hwaits : image.Waits phase)
    (hseg : nseg < 2 ^ 8) (hpiece : s.offset + s.len ≤ image.bytes.length)
    (hcovers : Covers s.offset s.len (image.pending phase)) (hdata : s.imgData = none) :
    s.call env = none := by
  have hnull := ElfImage.elfLoadHeader_null .postData hphase hmore nofun
    (hwaits.sections hphase hmore) hpiece hcovers (pending_ne hnonempty hwaits hphase hmore) hseg
    s.noffset 0
  have hready : loadWord .postData phase nseg &&& RPROC_LOADER_READY_TO_LOAD = 0 := by
    by_contra hbit
    exact absurd ((loader_bit .postData .ready phase nofun hseg).mp hbit) nofun
  have hcomplete : loadWord .postData phase nseg &&& RPROC_LOADER_LOAD_COMPLETE = 0 := by
    by_contra hbit
    exact absurd ((loader_bit .postData .complete phase nofun hseg).mp hbit) nofun
  have hword : elfGetLoadState (image.infoAt phase (loadWord .postData phase nseg)) =
    loadWord .postData phase nseg := rfl
  rw [← henv] at hnull
  simp only [StreamLoop.call, remoteprocLoadNoblock, hinfo, hdata, hstate, hloader, ne_eq,
    not_true_eq_false, if_false, Bool.true_eq_false, false_and, Option.elim_some, hword, hready,
    hcomplete, and_self, if_true, hnull, Option.bind_eq_bind, Option.bind_none]

theorem streamOk_of_agree (target : Target) (henv : env.allocate = fun _ => true)
    (hstore : Serves store image) (hload : Loadable image target.rproc)
    (hnonempty : image.TablesNonempty)
    (hstate : target.rproc.state = .ready) (hleave : ∀ imgData, store.leave imgData = none)
    (hboot : target.rproc.bootaddr ≠ elfEntry image.bytes) {noffset : Nat} {padding : UInt8}
    {target' : Target} (hboot' : target'.rproc.bootaddr = elfEntry image.bytes)
    (hreturns : Loop.Returns (StreamLoop.body env store)
      (.opened image store.openLen noffset padding target) (some (0, target'))) :
    StreamOk image store.openLen := by
  have hkept : target'.rproc ≠ target.identified.rproc := by
    intro hsame
    rw [hsame] at hboot'
    exact hboot hboot'
  have hphase := streamPhase_ne_phdrs image store.openLen
  rcases starts_serves henv hstore hstate noffset padding with ⟨-, hstop⟩ | ⟨s, hseeks, hiff⟩
  · have hsame := hreturns.unique hstop
    exact absurd (congrArg (fun r => r.2.rproc) (Option.some.inj hsame)) hkept
  · rw [← hiff] at hreturns
    have hstreamable : Streamable image.phdrs := by
      by_contra hstuck
      rw [← image.phdrs.drop_zero] at hstuck
      obtain ⟨ret, target'', hrproc, hsame⟩ := stuck_returns target.identified.rproc henv hstore
        hload.identified hstate rfl hphase (Nat.zero_le _) rfl hseeks hstuck hreturns
      have htarget : target' = target'' := congrArg Prod.snd (Option.some.inj hsame)
      exact hkept (htarget ▸ hrproc)
    refine ⟨hstreamable, fun last hlast hmore hcovers => ?_⟩
    obtain ⟨phdr, hphdr, htype⟩ := hstreamable.last
    obtain rfl := Option.some.inj (hphdr.symm.trans hlast)
    have hmem : phdr ∈ loads image.phdrs :=
      List.mem_filter.mpr ⟨List.mem_of_getLast? hlast, decide_eq_true htype⟩
    rw [← image.phdrs.drop_zero] at hstreamable hlast
    have hnone : Loop.Returns (StreamLoop.body env store) s none := by
      apply segments_return target.identified henv hstore hload.identified hstate rfl hphase
        (Nat.zero_le _) hseeks hstreamable hlast
      intro imgData
      apply Loop.Returns.of_inr
      apply streamBody_none
      have hrproc : (target.identified.storeAll image (loads (image.phdrs.drop 0))).rproc =
        target.identified.rproc := storeAll_rproc _ _
      apply post_call_null henv hnonempty rfl (by rw [StreamLoop.after, hrproc]; exact hstate)
        (by rw [StreamLoop.after, hrproc]; rfl) hphase hmore (waits_streamPhase image store.openLen)
        hload.phnum_lt (hload.file_le phdr hmem) hcovers (hleave imgData)
    exact absurd (hreturns.unique hnone) nofun

end Agree

/-- Where `remoteproc_load` succeeds, the two loaders agree exactly under the condition. -/
theorem loaders_agree (image : ElfImage) (env : LoaderEnv) (openLen : Nat)
    (rproc : Remoteproc) (halloc : env.allocate = fun _ => true)
    (haccess : TargetAccess rproc) (hload : Loadable image rproc) (hsegments : SegmentsOk image)
    (hrsc : image.RscLoaded) (hnonempty : image.TablesNonempty)
    (hzero : ∃ (store : ImageStore) (target : Target) (rounds : Nat) (target' : Target),
      Serves store image ∧ store.openLen = openLen ∧ target.rproc.mapping = rproc.mapping ∧
        target.rproc.state = .ready ∧
        remoteprocLoad env rounds store target = some (0, target')) :
    LoadersAgree env image openLen rproc ↔ StreamOk image openLen := by
  constructor
  · intro hagree
    obtain ⟨store, target, rounds, target', hstore, rfl, hmapping, hstate, hresult⟩ := hzero
    obtain ⟨hmapped, left, io, updated, hupdate, -⟩ :=
      remoteprocLoad_success halloc hstore (hload.congr hmapping) hnonempty hstate hresult
    let other : ImageStore := ⟨image.bytes, store.openLen, fun _ => none⟩
    let fresh : Target :=
      ⟨{ target.rproc with loader := false, bootaddr := elfEntry image.bytes + 1 }, target.ram, []⟩
    have hother : Serves other image := ⟨rfl, hstore.class_lt, hstore.open_le⟩
    have hfresh : Loadable image fresh.rproc := hload.congr hmapping
    obtain ⟨left', io', least, hfinal⟩ :=
      remoteprocLoad_update fresh halloc hother hfresh hnonempty hstate hmapped
    have hfile : image.fileRsc env other = image.fileRsc env store := by
      unfold ElfImage.fileRsc remoteprocGetRscTable ImageStore.load
      rw [hstore.image_eq]
    rw [hfile] at hfinal
    obtain ⟨updated', hupdate'⟩ := updateRscTable_isSome hupdate io' (fresh.stored image left')
    have hsucceeds := hfinal least (Nat.le_refl _)
    rw [hupdate'] at hsucceeds
    obtain ⟨rounds', target'', hstream, -, hboot⟩ :=
      hagree other fresh hother rfl hmapping hstate least _ hsucceeds 0 0
    have hreturns := (loadExectuableNoblock_iff hother 0 0 (0, target'')).mp ⟨rounds', hstream⟩
    have hok : StreamOk image other.openLen := streamOk_of_agree fresh halloc hother hfresh
      hnonempty hstate (fun _ => rfl) (Nat.succ_ne_self _) hboot hreturns
    exact hok
  · intro hstream store target hstore hopen hmapping hstate rounds target' hresult noffset padding
    subst hopen
    have hload' := hload.congr hmapping
    obtain ⟨-, left, io, updated, hupdate, rfl⟩ :=
      remoteprocLoad_success halloc hstore hload' hnonempty hstate hresult
    obtain ⟨finished, hfinish, hram, hboot⟩ := finish_of_update target.identified halloc hstore
      (haccess.congr hmapping) hload'.identified hsegments hrsc hupdate
    have hreturns := stream_returns halloc hstore hload' hnonempty hstate hstream noffset padding
    rw [hfinish] at hreturns
    obtain ⟨rounds', hrun⟩ :=
      (loadExectuableNoblock_iff hstore noffset padding (0, finished)).mpr hreturns
    exact ⟨rounds', finished, hrun, hram, hboot⟩

theorem targetAccess_flat {image : ElfImage} {range : MemRange} (hplace : Placeable image [range])
    (hpos : 0 < range.pa) : TargetAccess (flatTarget [range]).rproc := by
  have hosts := hosts_flat [range]
  have hmapped : ∀ {da size map}, (flatTarget [range]).rproc.MapsTo da size map →
      range.Holds da size ∧ map = ⟨range.addr da, range.addr da, flatIo⟩ := by
    intro da size map hmap
    obtain ⟨mem, hmem, hholds, hmap⟩ := hosts.mapped_inv hplace hmap
    obtain rfl := List.mem_singleton.mp hmem
    exact ⟨hholds, hmap⟩
  constructor
  · intro da size map da' size' map' hmap hmap' i hi j hj
    obtain ⟨⟨hfrom, hto⟩, rfl⟩ := hmapped hmap
    obtain ⟨⟨hfrom', hto'⟩, rfl⟩ := hmapped hmap'
    simp only [MemRange.addr]
    omega
  · intro da size map hmap k n _ hk
    obtain ⟨⟨hfrom, hto⟩, -⟩ := hmapped hmap
    have hpart : range.Holds (da + k) n := ⟨by omega, by omega⟩
    obtain ⟨mem, -, -, -, hmapped⟩ := mapsTo_of_holds (hosts.addressable hplace)
      ⟨⟨range, flatIo⟩, List.mem_singleton_self _, hpart⟩
    exact ⟨_, hmapped⟩
  · exact hosts.rproc_fills hplace
  · intro da size map hmap _
    obtain ⟨-, rfl⟩ := hmapped hmap
    exact Nat.ne_of_gt (Nat.add_pos_left hpos _)
  · intro da size map hmap _ _ ram
    obtain ⟨-, rfl⟩ := hmapped hmap
    rfl

theorem rscLoaded_of_none {image : ElfImage} (hnone : image.NoRscTable) : image.RscLoaded := by
  intro shdr hshdr
  rw [rscShdr_of_noRscTable hnone] at hshdr
  exact absurd hshdr nofun

theorem loaders_agree_small : LoadersAgree smallEnv smallImage 60 smallTarget.rproc := by
  have hloads : loads smallImage.phdrs = [⟨PT_LOAD, 124, 0x1000, 1, 3⟩] := by
    rw [phdrs_smallImage]
    rfl
  have hzero : (remoteprocLoad smallEnv 6 ⟨smallImage.bytes, 60, id⟩ smallTarget).map Prod.fst =
      some 0 := by
    decide +kernel
  obtain ⟨⟨status, target'⟩, hresult, rfl⟩ := Option.map_eq_some_iff.mp hzero
  have hplace : Placeable smallImage [smallRange] :=
    placeable_of_one hloads (by decide +kernel) (by decide +kernel) (by decide)
  apply (loaders_agree smallImage smallEnv 60 smallTarget.rproc rfl (targetAccess_flat hplace (by decide))
    ((hosts_flat [smallRange]).loadable hplace) (segmentsOk_of_one hloads (by decide)) (rscLoaded_of_none (by decide +kernel))
    (fun _ => by decide +kernel)
    ⟨⟨smallImage.bytes, 60, id⟩, smallTarget, 6, target', ⟨rfl, by decide, by decide +kernel⟩, rfl,
      rfl, rfl, hresult⟩).mpr
  refine ⟨⟨⟨_, by rw [phdrs_smallImage]; rfl, rfl⟩, ?_⟩, ?_⟩
  · rw [hloads]
    decide
  · rw [phdrs_smallImage]
    rintro phdr hphdr -
    obtain rfl := Option.some.inj hphdr
    decide +kernel

/-- A segment without bytes in the file. -/
def bssImage : ElfImage where
  bytes := ehdr32 0x1000 52 84 1 1 0 ++ phdr32 ⟨PT_LOAD, 124, 0x1000, 0, 3⟩ ++
    shdr32 ⟨0, 0, 124, 1⟩ ++ [0]
  length_lt := by decide +kernel
  magic := by decide +kernel
  ehdr_le := by decide +kernel
  phentsize := by decide +kernel
  phdrs_le := by decide +kernel
  sections := fun _ => ⟨by decide +kernel, by decide +kernel, by decide +kernel,
    by decide +kernel⟩

/-- The length 0 of the segment ends the loop of `load_exectuable_noblock`, before the segment is
padded and the entry point is set. -/
theorem empty_segment_ends_stream :
    Serves ⟨bssImage.bytes, 60, id⟩ bssImage ∧ TargetAccess smallTarget.rproc ∧
      Loadable bssImage smallTarget.rproc ∧ SegmentsOk bssImage ∧ bssImage.NoRscTable ∧
      (remoteprocLoad smallEnv 6 ⟨bssImage.bytes, 60, id⟩ smallTarget).map
        (fun r => (r.1, r.2.rproc.bootaddr, r.2.ram 0x8000)) = some (0, 0x1000, 0) ∧
      (loadExectuableNoblock smallEnv 6 ⟨bssImage.bytes, 60, id⟩ 0 0 smallTarget).map
        (fun r => (r.1, r.2.rproc.bootaddr, r.2.ram 0x8000)) = some (0, 0, 0xAA) ∧
      ¬ LoadersAgree smallEnv bssImage 60 smallTarget.rproc := by
  have hphdrs : bssImage.phdrs = [⟨PT_LOAD, 124, 0x1000, 0, 3⟩] := by decide +kernel
  have hloads : loads bssImage.phdrs = [⟨PT_LOAD, 124, 0x1000, 0, 3⟩] := by
    rw [hphdrs]
    rfl
  have hstore : Serves ⟨bssImage.bytes, 60, id⟩ bssImage := ⟨rfl, by decide, by decide +kernel⟩
  have hblocking : (remoteprocLoad smallEnv 6 ⟨bssImage.bytes, 60, id⟩ smallTarget).map
      (fun r => (r.1, r.2.rproc.bootaddr, r.2.ram 0x8000)) = some (0, 0x1000, 0) := by
    decide +kernel
  have hstreaming : (loadExectuableNoblock smallEnv 6 ⟨bssImage.bytes, 60, id⟩ 0 0 smallTarget).map
      (fun r => (r.1, r.2.rproc.bootaddr, r.2.ram 0x8000)) = some (0, 0, 0xAA) := by
    decide +kernel
  have hplace : Placeable bssImage [smallRange] :=
    placeable_of_one hloads (by decide +kernel) (by decide +kernel) (by decide)
  refine ⟨hstore, targetAccess_flat hplace (by decide), (hosts_flat [smallRange]).loadable hplace, segmentsOk_of_one hloads (by decide), by decide +kernel, hblocking, hstreaming, ?_⟩
  intro hagree
  obtain ⟨⟨status, target'⟩, hresult, hloaded⟩ := Option.map_eq_some_iff.mp hblocking
  obtain ⟨⟨status', target''⟩, hstream, hstopped⟩ := Option.map_eq_some_iff.mp hstreaming
  simp only [Prod.mk.injEq] at hloaded hstopped
  obtain ⟨rfl, hboot, -⟩ := hloaded
  obtain ⟨rfl, hboot', -⟩ := hstopped
  obtain ⟨rounds, final, hfinal, -, hsame⟩ :=
    hagree _ smallTarget hstore rfl rfl rfl 6 target' hresult 0 0
  have hreturns := (loadExectuableNoblock_iff hstore 0 0 _).mp ⟨6, hstream⟩
  have hreturns' := (loadExectuableNoblock_iff hstore 0 0 _).mp ⟨rounds, hfinal⟩
  have hunique := Option.some.inj (hreturns'.unique hreturns)
  obtain rfl : final = target'' := congrArg Prod.snd hunique
  rw [hboot, hboot'] at hsame
  exact absurd hsame (by decide)

end OpenAmp
