import OpenAmp.Proof.LoadRounds
import OpenAmp.Proof.StoreLoop

/-!
# Rounds of the data loop

A round of the loop is a call of `elf_load` and what the loop makes of the variables that the call has
written: a device address is mapped and copied to, a length without an address is fetched for the
loader, and neither of the two ends the loop.
-/

namespace OpenAmp

open ByteMemory

/-! ### What is done with the variables -/

def StoreData.mapped (plat : LoadPlatform) (s : StoreData) (vars : LoadVars) : Mapped :=
  ⟨vars.da, (remoteprocMmapAny plat vars.da vars.nmemsize s.io).pa, vars.nmemsize⟩

/-- The copy of a segment, and the padding behind it. -/
def copyEvents (io : IoRegion) (mapped : Mapped) (vars : LoadVars) (ret : Int) : List LoadEvent :=
  (if 0 < vars.nlen then [.transfer mapped vars.noffset vars.nlen ret] else []) ++
    (if vars.nlen < vars.nmemsize then
      [.padded mapped io (io.physToOffset (u64 (mapped.pa + vars.nlen)))
        (toInt32 (vars.nmemsize - vars.nlen : Nat))] else [])

/-- The rest of a round, after the call of the loader. -/
def StoreData.act (plat : LoadPlatform) (store : StoreOps) (s : StoreData) (vars : LoadVars) :
    StoreData ⊕ (StoreData × LoopExit) :=
  withWorld .mk ((storeData plat store).act s.toDataVars vars) s.toStoreCalls

/-- What the rest of a round comes to. -/
inductive DataAct (plat : LoadPlatform) (store : StoreOps) (s : StoreData) (vars : LoadVars) :
    StoreData ⊕ (StoreData × LoopExit) → Prop where
  | unmapped {s' : StoreData} (haddr : vars.da ≠ RPROC_LOAD_ANYADDR) (hmap : ¬ s.Maps plat vars)
      (hevents : s'.events = s.events)
      (hregion : s'.io = (remoteprocMmapAny plat vars.da vars.nmemsize s.io).io) :
      DataAct plat store s vars (.inr (s', .error (-RPROC_EINVAL)))
  | refused {s' : StoreData} {ret : Int} (haddr : vars.da ≠ RPROC_LOAD_ANYADDR)
      (hmap : s.Maps plat vars) (hlen : 0 < vars.nlen)
      (hreply : (store.load s.calls ⟨vars.noffset, vars.nlen, (s.mapped plat vars).pa⟩).ret = ret)
      (hret : ret ≠ toInt32 vars.nlen)
      (hevents : s'.events =
        s.events ++ [.transfer (s.mapped plat vars) vars.noffset vars.nlen ret])
      (hregion : s'.io = (remoteprocMmapAny plat vars.da vars.nmemsize s.io).io) :
      DataAct plat store s vars (.inr (s', .error (-RPROC_EINVAL)))
  | copied {s' : StoreData} {io : IoRegion} (haddr : vars.da ≠ RPROC_LOAD_ANYADDR)
      (hmap : s.Maps plat vars) (hio : (remoteprocMmapAny plat vars.da vars.nmemsize s.io).io = some io)
      (hcopies : s.Copies plat store vars) (hinfo : s'.imgInfo = s.imgInfo)
      (hlast : s'.lastLoadState = s.lastLoadState)
      (hevents : s'.events =
        s.events ++ copyEvents io (s.mapped plat vars) vars (toInt32 vars.nlen))
      (hregion : s'.io = (remoteprocMmapAny plat vars.da vars.nmemsize s.io).io) :
      DataAct plat store s vars (.inl s')
  | short {s' : StoreData} {ret : Int} {exit : LoopExit} (haddr : vars.da = RPROC_LOAD_ANYADDR)
      (hlen : vars.nlen ≠ 0)
      (hreply : (store.load s.calls ⟨vars.noffset, vars.nlen, RPROC_LOAD_ANYADDR⟩).ret = ret)
      (hret : ret < toInt32 vars.nlen)
      (hexit : exit =
        if s.lastLoadState &&& RPROC_LOADER_POST_DATA_LOAD ≠ 0 then .leave else .error ret)
      (hinfo : s'.imgInfo = s.imgInfo)
      (hevents : s'.events = s.events ++ [.fetched vars.nlen ret]) (hregion : s'.io = s.io) :
      DataAct plat store s vars (.inr (s', exit))
  | fetched {s' : StoreData} {ret : Int} (haddr : vars.da = RPROC_LOAD_ANYADDR)
      (hlen : vars.nlen ≠ 0) (hinfo : s'.imgInfo = s.imgInfo)
      (hlast : s'.lastLoadState = s.lastLoadState)
      (hplace : s'.offset = vars.noffset ∧ s'.len = vars.nlen)
      (hevents : s'.events = s.events ++ [.fetched vars.nlen ret]) (hregion : s'.io = s.io) :
      DataAct plat store s vars (.inl s')
  | left (haddr : vars.da = RPROC_LOAD_ANYADDR) (hlen : vars.nlen = 0) :
      DataAct plat store s vars (.inr (s, .leave))

section Act

variable {plat : LoadPlatform} {store : StoreOps} {s : StoreData} {vars : LoadVars}

theorem storeData_mmap (da size : Nat) (io : Option IoRegion) (w : StoreCalls) :
    ((storeData plat store).mmap da size io).run w =
      pure (((remoteprocMmapAny plat da size io).pa, (remoteprocMmapAny plat da size io).io), w) := rfl

theorem storeData_load (noffset nlen : Nat) (w : StoreCalls) :
    ((storeData plat store).load noffset nlen).run w =
      pure (((store.load w.calls ⟨noffset, nlen, RPROC_LOAD_ANYADDR⟩).ret,
          (store.load w.calls ⟨noffset, nlen, RPROC_LOAD_ANYADDR⟩).imgData),
        ⟨w.calls + 1, w.events ++
          [.fetched nlen (store.load w.calls ⟨noffset, nlen, RPROC_LOAD_ANYADDR⟩).ret]⟩) := rfl

theorem storeData_loadTarget (mapped : Mapped) (noffset nlen : Nat) (w : StoreCalls) :
    ((storeData plat store).loadTarget mapped noffset nlen).run w =
      pure (((store.load w.calls ⟨noffset, nlen, mapped.pa⟩).ret,
          (store.load w.calls ⟨noffset, nlen, mapped.pa⟩).imgData),
        ⟨w.calls + 1, w.events ++
          [.transfer mapped noffset nlen (store.load w.calls ⟨noffset, nlen, mapped.pa⟩).ret]⟩) := rfl

theorem storeData_blockSet (mapped : Mapped) (io : IoRegion) (offset : Nat) (value : UInt8) (len : Int)
    (w : StoreCalls) :
    ((storeData plat store).blockSet mapped io offset value len).run w =
      pure ((), ⟨w.calls, w.events ++ [.padded mapped io offset len]⟩) := rfl

theorem copySegment_act {s' : StoreData} {io : IoRegion} (haddr : vars.da ≠ RPROC_LOAD_ANYADDR)
    (hmap : s.Maps plat vars) (hio : (remoteprocMmapAny plat vars.da vars.nmemsize s.io).io = some io)
    (hinfo : s'.imgInfo = s.imgInfo) (hlast : s'.lastLoadState = s.lastLoadState)
    (hcalls : s'.calls = s.calls) (hevents : s'.events = s.events) (hregion : s'.io = some io) :
    DataAct plat store s vars (withWorld .mk ((storeData plat store).copySegment s'.toDataVars io
      (s.mapped plat vars) vars) s'.toStoreCalls) := by
  rw [← hio] at hregion
  simp only [withWorld, DataOps.copySegment, DataOps.loadSegment, StateT.run_bind]
  by_cases hlen : 0 < vars.nlen
  · rw [if_pos hlen, storeData_loadTarget, pure_bind, hcalls]
    by_cases hret : (store.load s.calls ⟨vars.noffset, vars.nlen, (s.mapped plat vars).pa⟩).ret ≠
        toInt32 vars.nlen
    · rw [if_pos hret]
      exact .refused haddr hmap hlen rfl hret (by rw [← hevents]) hregion
    · have hcopies : s.Copies plat store vars := .inr (not_not.mp hret)
      rw [if_neg hret, not_not.mp hret]
      by_cases hpad : vars.nmemsize > vars.nlen
      · rw [if_pos hpad, StateT.run_bind, storeData_blockSet, pure_bind]
        exact .copied haddr hmap hio hcopies hinfo hlast
          (by simp [copyEvents, hlen, hpad, hevents, storeData]) hregion
      · rw [if_neg hpad]
        exact .copied haddr hmap hio hcopies hinfo hlast
          (by simp [copyEvents, hlen, hpad, hevents]) hregion
  · have hcopies : s.Copies plat store vars := .inl (Nat.eq_zero_of_not_pos hlen)
    rw [if_neg hlen, StateT.run_pure, pure_bind, if_neg (not_not.mpr rfl)]
    by_cases hpad : vars.nmemsize > vars.nlen
    · rw [if_pos hpad, StateT.run_bind, storeData_blockSet, pure_bind]
      exact .copied haddr hmap hio hcopies hinfo hlast
        (by simp [copyEvents, hlen, hpad, hevents, storeData]) hregion
    · rw [if_neg hpad]
      exact .copied haddr hmap hio hcopies hinfo hlast
        (by simp [copyEvents, hlen, hpad, hevents]) hregion

theorem act_cases (plat : LoadPlatform) (store : StoreOps) (s : StoreData) (vars : LoadVars) :
    DataAct plat store s vars (s.act plat store vars) := by
  unfold StoreData.act DataOps.act
  by_cases haddr : vars.da ≠ RPROC_LOAD_ANYADDR
  · simp only [if_pos haddr, withWorld, StateT.run_bind, storeData_mmap, pure_bind]
    cases hio : (remoteprocMmapAny plat vars.da vars.nmemsize s.io).io with
    | none => exact .unmapped haddr (fun hmap => hmap.2 hio) rfl hio.symm
    | some io =>
        by_cases hpa : (remoteprocMmapAny plat vars.da vars.nmemsize s.io).pa = METAL_BAD_PHYS
        · simp only [if_pos hpa]
          exact .unmapped haddr (fun hmap => hmap.1 hpa) rfl hio.symm
        · simp only [if_neg hpa]
          have hmap : s.Maps plat vars := ⟨hpa, hio ▸ Option.some_ne_none io⟩
          exact @copySegment_act plat store s vars
            ⟨{ s.toDataVars with imgData := none, io := some io }, s.toStoreCalls⟩ io haddr hmap hio rfl
            rfl rfl rfl rfl
  · rw [if_neg haddr]
    have hany := not_not.mp haddr
    by_cases hlen : vars.nlen ≠ 0
    · rw [if_pos hlen]
      have hload := @storeData_load plat store vars.noffset vars.nlen s.toStoreCalls
      by_cases hret : (store.load s.calls ⟨vars.noffset, vars.nlen, RPROC_LOAD_ANYADDR⟩).ret <
          toInt32 vars.nlen
      · rw [withWorld_of_inr (DataOps.fetch_short hload hret)]
        exact .short hany hlen rfl hret rfl rfl rfl rfl
      · rw [withWorld_of_inl (DataOps.fetch_served hload hret)]
        exact .fetched hany hlen rfl rfl ⟨rfl, rfl⟩ rfl rfl
    · rw [if_neg hlen]
      exact .left hany (not_not.mp hlen)

end Act

/-! ### A round -/

/-- The loop is about to call the loader with an object. -/
structure StoreData.At (plat : LoadPlatform) (segments : List Phdr) (s : StoreData) (info : ElfInfo)
    (loader : LoaderPhase) (phase : HeaderPhase) (nseg : Nat) : Prop where
  imgInfo : s.imgInfo = some info
  last : s.lastLoadState = info.loadState
  loads : info.Loads plat segments loader phase nseg

/-- Memory of the call itself, and requests for pieces of the file behind the headers. -/
def LoadEvent.Quiet : LoadEvent → Prop
  | .allocated _ => True
  | .freed _ => True
  | .fetched _ _ => True
  | _ => False

/-- A state that is reached from another with quiet events only. -/
def StoreData.Quietly (s s' : StoreData) : Prop :=
  ∃ more, s'.events = s.events ++ more ∧ ∀ event ∈ more, event.Quiet

/-- What a round comes to. The loader gives up only after the segments, and what the store or the
mappings refuse is told apart. -/
inductive DataRound (plat : LoadPlatform) (store : StoreOps) (segments : List Phdr) (s : StoreData)
    (loader : LoaderPhase) (phase : HeaderPhase) (nseg : Nat) :
    StoreData ⊕ (StoreData × LoopExit) → Prop where
  | stuck (hpost : loader = .postData) :
      DataRound plat store segments s loader phase nseg (.inr (s, .stuck))
  | failed {s' : StoreData} {status : Int} (hpost : loader = .postData) (hstatus : status < 0)
      (hquiet : s.Quietly s') :
      DataRound plat store segments s loader phase nseg (.inr (s', .error status))
  | refused {s' : StoreData} {status : Int} (hserves : ¬ ServesAll plat store) (hstatus : status < 0) :
      DataRound plat store segments s loader phase nseg (.inr (s', .error status))
  | shortAnywhere {s' : StoreData} {info : ElfInfo} {phdr : Phdr} {exit : LoopExit}
      (hserves : ¬ ServesAll plat store) (hinfo : s'.imgInfo = some info)
      (hsegments : plat.segments info = segments) (hmem : phdr ∈ loads segments)
      (haddr : phdr.pVaddr = RPROC_LOAD_ANYADDR) :
      DataRound plat store segments s loader phase nseg (.inr (s', exit))
  | copied {s' : StoreData} {info : ElfInfo} {phdr : Phdr} {rest : List Phdr} {io : IoRegion}
      {mapped : Mapped} {more : List LoadEvent} (hready : loader = .ready)
      (hnext : nextLoads (segments.drop nseg) = phdr :: rest)
      (haddr : phdr.pVaddr ≠ RPROC_LOAD_ANYADDR)
      (hat : s'.At plat segments info (if rest = [] then .postData else .ready) phase
        ((segments.length - rest.length) % 2 ^ 8))
      (hmapped : mapped.da = phdr.pVaddr) (hquiet : ∀ event ∈ more, event.Quiet)
      (hevents : s'.events =
        s.events ++ (more ++ copyEvents io mapped phdr.vars (toInt32 phdr.pFilesz))) :
      DataRound plat store segments s loader phase nseg (.inl s')
  | skipped {s' : StoreData} {info : ElfInfo} (hready : loader = .ready)
      (hnext : nextLoads (segments.drop nseg) = [])
      (haddr : skippedDa (segments.drop nseg) ≠ RPROC_LOAD_ANYADDR)
      (hat : s'.At plat segments info .ready phase
        ((if nseg < segments.length then segments.length else nseg) % 2 ^ 8))
      (hquiet : s.Quietly s') :
      DataRound plat store segments s loader phase nseg (.inl s')
  | anywhere {s' : StoreData} {info : ElfInfo} {phdr : Phdr} {rest : List Phdr}
      (hready : loader = .ready) (hnext : nextLoads (segments.drop nseg) = phdr :: rest)
      (haddr : phdr.pVaddr = RPROC_LOAD_ANYADDR) (hlen : phdr.pFilesz ≠ 0)
      (hat : s'.At plat segments info (if rest = [] then .postData else .ready) phase
        ((segments.length - rest.length) % 2 ^ 8))
      (hquiet : s.Quietly s') :
      DataRound plat store segments s loader phase nseg (.inl s')
  | asks {s' : StoreData} {info : ElfInfo} {phase' : HeaderPhase} (hpost : loader = .postData)
      (hat : s'.At plat segments info .postData phase' nseg) (hrank : phase.rank ≤ phase'.rank)
      (hsame : phase'.rank = phase.rank → s.imgInfo = some info)
      (hdue : info.due (plat.behind .shdrs) phase' = some (s'.offset, s'.len))
      (hwaits : elfTableWaits s.offset s.len s'.offset s'.len = true) (hquiet : s.Quietly s') :
      DataRound plat store segments s loader phase nseg (.inl s')
  | final {s' : StoreData} {info : ElfInfo} {phdr : Phdr} {rest : List Phdr}
      (hready : loader = .ready) (hnext : nextLoads (segments.drop nseg) = phdr :: rest)
      (hfinal : phdr.Final) (hinfo : s'.imgInfo = some info)
      (hsegments : plat.segments info = segments) (hquiet : s.Quietly s') :
      DataRound plat store segments s loader phase nseg (.inr (s', .leave))
  | left {s' : StoreData} {info : ElfInfo} (hready : loader = .ready)
      (hnext : nextLoads (segments.drop nseg) = [])
      (haddr : skippedDa (segments.drop nseg) = RPROC_LOAD_ANYADDR) (hinfo : s'.imgInfo = some info)
      (hsegments : plat.segments info = segments) (hquiet : s.Quietly s') :
      DataRound plat store segments s loader phase nseg (.inr (s', .leave))
  | finished {s' : StoreData} {info : ElfInfo} (hready : loader ≠ .ready)
      (hinfo : s'.imgInfo = some info) (hsegments : plat.segments info = segments)
      (hquiet : s.Quietly s') :
      DataRound plat store segments s loader phase nseg (.inr (s', .leave))

section Round

variable {plat : LoadPlatform} {store : StoreOps} {segments : List Phdr} {s s' : StoreData}
  {info info' : ElfInfo} {loader loader' : LoaderPhase} {phase phase' : HeaderPhase} {nseg nseg' : Nat}
  {vars : LoadVars}

theorem quiet_elfAllocated (before after : Option ElfInfo) :
    ∀ event ∈ elfAllocated before after, event.Quiet := by
  intro event hmem
  obtain ⟨block, rfl⟩ := allocations_elfAllocated before after event hmem
  trivial

/-- The state once the loader has returned, whatever it has returned. -/
def StoreData.returned (s : StoreData) (imgInfo : Option ElfInfo) : StoreData :=
  { s with imgInfo, events := s.events ++ elfAllocated s.imgInfo imgInfo }

/-- The state that the loader leaves behind. -/
def StoreData.called (s : StoreData) (info : ElfInfo) : StoreData :=
  { s.returned (some info) with lastLoadState := info.loadState }

theorem StoreData.quietly_called (s : StoreData) (info : ElfInfo) : s.Quietly (s.called info) :=
  ⟨_, rfl, quiet_elfAllocated s.imgInfo (some info)⟩

theorem StoreData.Quietly.append (h : s.Quietly s') {s'' : StoreData} {events : List LoadEvent}
    (hevents : s''.events = s'.events ++ events) (hquiet : ∀ event ∈ events, event.Quiet) :
    s.Quietly s'' := by
  obtain ⟨more, hmore, hall⟩ := h
  refine ⟨more ++ events, by rw [hevents, hmore, List.append_assoc], ?_⟩
  intro event hmem
  rcases List.mem_append.mp hmem with hmem | hmem
  · exact hall event hmem
  · exact hquiet event hmem

theorem quiet_fetched (size : Nat) (ret : Int) :
    ∀ event ∈ [LoadEvent.fetched size ret], event.Quiet :=
  List.forall_mem_singleton.mpr trivial

theorem StoreData.called_at (hloads : info.Loads plat segments loader phase nseg)
    (hinfo : s'.imgInfo = (s.called info).imgInfo)
    (hlast : s'.lastLoadState = (s.called info).lastLoadState) :
    s'.At plat segments info loader phase nseg :=
  ⟨hinfo, hlast, hloads⟩

theorem not_servesAll_of_unmapped (haddr : vars.da ≠ RPROC_LOAD_ANYADDR) (hmap : ¬ s.Maps plat vars) :
    ¬ ServesAll plat store :=
  fun hserves => hmap (hserves.map vars.da vars.nmemsize s.io haddr)

theorem not_servesAll_of_ret {calls : Nat} {request : StoreRequest} {ret : Int}
    (hreply : (store.load calls request).ret = ret) (hret : ret ≠ toInt32 request.size) :
    ¬ ServesAll plat store :=
  fun hserves => hret (hreply.symm.trans (hserves.load calls request))

/-- A segment has been found. -/
theorem dataRound_found {phdr : Phdr} {rest : List Phdr}
    (hnext : nextLoads (segments.drop nseg) = phdr :: rest)
    (hloads : info.Loads plat segments (if rest = [] then .postData else .ready) phase
      ((segments.length - rest.length) % 2 ^ 8)) :
    DataRound plat store segments s .ready phase nseg ((s.called info).act plat store phdr.vars) := by
  have hcalled := s.quietly_called info
  generalize hresult : (s.called info).act plat store phdr.vars = result
  have hact := hresult ▸ act_cases plat store (s.called info) _
  cases hact with
  | unmapped haddr hmap hevents =>
      exact .refused (not_servesAll_of_unmapped haddr hmap) (by decide)
  | refused haddr hmap hlen hreply hret hevents =>
      exact .refused (not_servesAll_of_ret hreply hret) (by decide)
  | @copied s' io haddr hmap hio hcopies hinfo hlast hevents =>
      have hmapped : ((s.called info).mapped plat phdr.vars).da = phdr.pVaddr := rfl
      have hall : s'.events = s.events ++ (elfAllocated s.imgInfo (some info) ++
          copyEvents io ((s.called info).mapped plat phdr.vars) phdr.vars (toInt32 phdr.pFilesz)) := by
        rw [hevents, ← List.append_assoc]
        rfl
      exact .copied rfl hnext haddr (StoreData.called_at hloads hinfo hlast) hmapped
        (quiet_elfAllocated s.imgInfo (some info)) hall
  | short haddr hlen hreply hret hexit hinfo hevents =>
      exact .shortAnywhere (not_servesAll_of_ret hreply hret.ne) hinfo hloads.segments
        (mem_of_nextLoads_drop hnext) haddr
  | fetched haddr hlen hinfo hlast hplace hevents =>
      exact .anywhere rfl hnext haddr hlen (StoreData.called_at hloads hinfo hlast)
        (hcalled.append hevents (quiet_fetched _ _))
  | left haddr hlen => exact .final rfl hnext ⟨haddr, hlen⟩ rfl hloads.segments hcalled

/-- No segment has been found. -/
theorem dataRound_none {noffset : Nat} (hnext : nextLoads (segments.drop nseg) = [])
    (hloads : info.Loads plat segments .ready phase
      ((if nseg < segments.length then segments.length else nseg) % 2 ^ 8)) :
    DataRound plat store segments s .ready phase nseg ((s.called info).act plat store
      ⟨skippedDa (segments.drop nseg), noffset, 0, 0, 0⟩) := by
  have hcalled := s.quietly_called info
  generalize hresult : (s.called info).act plat store
    ⟨skippedDa (segments.drop nseg), noffset, 0, 0, 0⟩ = result
  have hact := hresult ▸ act_cases plat store (s.called info) _
  cases hact with
  | unmapped haddr hmap hevents =>
      exact .refused (not_servesAll_of_unmapped haddr hmap) (by decide)
  | refused haddr hmap hlen => exact absurd hlen (lt_irrefl _)
  | copied haddr hmap hio hcopies hinfo hlast hevents =>
      exact .skipped rfl hnext haddr (StoreData.called_at hloads hinfo hlast)
        (hcalled.append hevents nofun)
  | short haddr hlen => exact absurd rfl hlen
  | fetched haddr hlen => exact absurd rfl hlen
  | left haddr hlen => exact .left rfl hnext haddr rfl hloads.segments hcalled

/-- The loader waits for a table. -/
theorem dataRound_asks {noffset nlen : Nat} (hloads : info'.Loads plat segments .postData phase' nseg)
    (hrank : phase.rank ≤ phase'.rank) (hsame : phase'.rank = phase.rank → s.imgInfo = some info')
    (hdue : info'.due (plat.behind .shdrs) phase' = some (noffset, nlen))
    (hwaits : elfTableWaits s.offset s.len noffset nlen = true) :
    DataRound plat store segments s .postData phase nseg ((s.called info').act plat store
      ⟨RPROC_LOAD_ANYADDR, noffset, nlen, 0, 0⟩) := by
  have hcalled := s.quietly_called info'
  generalize hresult : (s.called info').act plat store
    ⟨RPROC_LOAD_ANYADDR, noffset, nlen, 0, 0⟩ = result
  have hact := hresult ▸ act_cases plat store (s.called info') _
  cases hact with
  | unmapped haddr => exact absurd rfl haddr
  | refused haddr => exact absurd rfl haddr
  | copied haddr => exact absurd rfl haddr
  | short haddr hlen hreply hret hexit hinfo hevents =>
      have hpost : (s.called info').lastLoadState &&& RPROC_LOADER_POST_DATA_LOAD ≠ 0 :=
        hloads.at_stage.post_bit.mpr rfl
      rw [hexit, if_pos hpost]
      exact .finished (by decide) hinfo hloads.segments (hcalled.append hevents (quiet_fetched _ _))
  | fetched haddr hlen hinfo hlast hplace hevents =>
      refine .asks rfl (StoreData.called_at hloads hinfo hlast) hrank hsame ?_ ?_
        (hcalled.append hevents (quiet_fetched _ _))
      · rw [hdue, hplace.1, hplace.2]
      · rw [hplace.1, hplace.2]
        exact hwaits
  | left haddr hlen => exact .finished (by decide) rfl hloads.segments hcalled

theorem dataRound_done {noffset : Nat} (hready : loader ≠ .ready)
    (hloads : info.Loads plat segments .complete .complete nseg) :
    DataRound plat store segments s loader phase nseg ((s.called info).act plat store
      ⟨RPROC_LOAD_ANYADDR, noffset, 0, 0, 0⟩) := by
  have hleave : (s.called info).act plat store ⟨RPROC_LOAD_ANYADDR, noffset, 0, 0, 0⟩ =
      .inr (s.called info, .leave) := by
    rw [StoreData.act, DataOps.act_left _ _ rfl rfl]
    rfl
  rw [hleave]
  exact .finished hready rfl hloads.segments (s.quietly_called info)

/-- What `elf_load` makes of the state of a round. -/
def StoreData.loaded (plat : LoadPlatform) (s : StoreData) : Option LoadOut :=
  elfLoadFrom plat s.imgData s.offset s.len s.imgInfo s.lastLoadState ⟨RPROC_LOAD_ANYADDR, 0, 0, 0, 0⟩

theorem storeData_loadData (w : StoreCalls) :
    ((storeData plat store).loadData s.toDataVars).run w = pure (s.loaded plat,
      ⟨w.calls, w.events ++ (s.loaded plat).elim [] fun out => elfAllocated s.imgInfo out.imgInfo⟩) :=
  rfl

theorem body_stuck (h : s.loaded plat = none) : s.body plat store = .inr (s, .stuck) := by
  simp only [StoreData.body, withWorld, DataOps.round, StateT.run_bind, storeData_loadData, h, pure_bind,
    Option.elim, List.append_nil]
  rfl

theorem body_failed {status : Int} {imgInfo : Option ElfInfo}
    (h : s.loaded plat = some ⟨.error status, imgInfo, vars⟩) :
    s.body plat store = .inr (s.returned imgInfo, .error status) := by
  simp only [StoreData.body, withWorld, DataOps.round, StateT.run_bind, storeData_loadData, h, pure_bind,
    Option.elim]
  rfl

theorem body_act {lastLoadState : Nat} {imgInfo : Option ElfInfo}
    (h : s.loaded plat = some ⟨.ok lastLoadState, imgInfo, vars⟩) :
    s.body plat store =
      StoreData.act plat store { s.returned imgInfo with lastLoadState } vars := by
  simp only [StoreData.body, withWorld, DataOps.round, StateT.run_bind, storeData_loadData, h, pure_bind,
    Option.elim]
  rfl

theorem loaded_call (h : s.At plat segments info loader phase nseg) :
    DataCall plat segments s.offset s.len info loader phase nseg (s.loaded plat) := by
  rw [StoreData.loaded, h.imgInfo, h.last]
  exact elfLoadFrom_call h.loads

theorem data_round (store : StoreOps) (h : s.At plat segments info loader phase nseg) :
    DataRound plat store segments s loader phase nseg (s.body plat store) := by
  have hcall := loaded_call h
  generalize hloaded : s.loaded plat = out at hcall
  cases hcall with
  | stuck hpost =>
      rw [body_stuck hloaded]
      exact .stuck hpost
  | failed hpost hstatus =>
      rw [body_failed hloaded]
      exact .failed hpost hstatus ⟨_, rfl, quiet_elfAllocated _ _⟩
  | found hready hnext hloads =>
      subst hready
      rw [body_act hloaded]
      exact dataRound_found hnext hloads
  | left hready hnext hloads =>
      subst hready
      rw [body_act hloaded]
      exact dataRound_none hnext hloads
  | asks hpost hloads hrank hsame hdue hwaits =>
      subst hpost
      rw [body_act hloaded]
      refine dataRound_asks hloads hrank (fun heq => ?_) hdue hwaits
      rw [h.imgInfo, hsame heq]
  | done hready hloads =>
      rw [body_act hloaded]
      exact dataRound_done hready hloads

end Round

/-! ### From the headers to the data -/

/-- Blocks that the loader has allocated, and requests that the loop of the headers has accepted. -/
def HeaderEvents (events : List LoadEvent) : Prop :=
  ∀ event ∈ events, (∃ block, event = .allocated block) ∨
    ∃ size ret, event = .header size ret ∧ toInt32 size ≤ ret

section Start

variable {plat : LoadPlatform} {store : StoreOps} {headers : StoreHeaders} {result : LoopExit}

theorem headersAt_start : HeadersAt plat (5 + (64 - store.opened.ret.toNat)) (.start store) :=
  .opened rfl rfl rfl

theorem headers_return : ∃ r, Loop.Returns (StoreHeaders.body plat store) (.start store) r := by
  refine Loop.returns_of_rank (P := HeadersAt plat) ?_ headersAt_start
  intro rank s s' hat hbody
  have hround := hbody ▸ headers_round store hat
  cases hround with
  | next hle hblocks hevents hrank hnext => exact ⟨_, hrank, hnext⟩

theorem HeaderEvents.append {events more : List LoadEvent} (h : HeaderEvents events)
    (hmore : HeaderEvents more) : HeaderEvents (events ++ more) := by
  intro event hmem
  rcases List.mem_append.mp hmem with hmem | hmem
  · exact h event hmem
  · exact hmore event hmem

theorem Allocations.headerEvents {events : List LoadEvent} (h : Allocations events) :
    HeaderEvents events :=
  fun event hmem => .inl (h event hmem)

theorem headerEvents_accepted {size : Nat} {ret : Int} (hle : toInt32 size ≤ ret) :
    HeaderEvents [.header size ret] := by
  intro event hmem
  exact .inr ⟨size, ret, List.mem_singleton.mp hmem, hle⟩

/-- A round of the header loop starts with requests that have been accepted. -/
theorem headers_last (h : Loop.Returns (StoreHeaders.body plat store) (.start store)
      (headers, result)) :
    ∃ s rank, HeadersAt plat rank s ∧ HeaderEvents s.events ∧
      s.body plat store = .inr (headers, result) := by
  have hlast := h.invariant (P := fun s => HeaderEvents s.events ∧ ∃ rank, HeadersAt plat rank s)
    ⟨nofun, _, headersAt_start⟩ (by
      rintro s s' ⟨hevents, rank, hat⟩ hbody
      have hround := hbody ▸ headers_round store hat
      cases hround with
      | next hle hblocks happend hrank hnext =>
          refine ⟨?_, _, hnext⟩
          rw [happend]
          exact (hevents.append hblocks.headerEvents).append (headerEvents_accepted hle))
  obtain ⟨s, ⟨hevents, rank, hat⟩, hbody⟩ := hlast
  exact ⟨s, rank, hat, hevents, hbody⟩

theorem quiet_locateAndGetRscTable (calls : Nat) (imgInfo : Option ElfInfo) :
    ∀ event ∈ (locateAndGetRscTable plat store calls imgInfo).2, event.Quiet := by
  unfold locateAndGetRscTable
  cases imgInfo.bind (locatedRscTableAt plat) with
  | none => exact nofun
  | some shdr =>
      dsimp only
      unfold remoteprocGetRscTableFrom
      intro event hmem
      split_ifs at hmem
      · exact nomatch hmem
      · dsimp only at hmem
        cases himg : (store.load calls ⟨shdr.shOffset, shdr.shSize, RPROC_LOAD_ANYADDR⟩).imgData with
        | none =>
            rw [himg] at hmem
            simp only [List.cons_append, List.nil_append, List.mem_cons, List.not_mem_nil, or_false]
              at hmem
            rcases hmem with rfl | rfl | rfl <;> trivial
        | some img =>
            rw [himg] at hmem
            dsimp only at hmem
            split_ifs at hmem <;>
              simp only [List.cons_append, List.nil_append, List.mem_cons, List.not_mem_nil, or_false]
                at hmem
            · rcases hmem with rfl | rfl | rfl <;> trivial
            · rcases hmem with rfl | rfl | rfl <;> trivial
            · rcases hmem with rfl | rfl <;> trivial

/-- The data loop starts with the program headers stored and nothing copied. -/
theorem StoreHeaders.Ready.start_at (h : headers.Ready plat store) :
    ∃ info phase, (StoreData.start plat store headers).At plat (headers.segments plat) info .ready
      phase 0 ∧ HeaderEvents headers.events := by
  obtain ⟨s, rank, hat, hevents, hbody⟩ := headers_last h
  have hround := hbody ▸ headers_round store hat
  cases hround with
  | @left _ blocks info phase hinfo hready hlast hblocks happend =>
      refine ⟨info, phase, ⟨hinfo, hlast, hready, by decide, ?_⟩, ?_⟩
      · rw [StoreHeaders.segments, hinfo]
        rfl
      · rw [happend]
        exact hevents.append hblocks.headerEvents

/-- At the start of every round the loop loads the segments of the file. -/
theorem StoreData.Rounds.at_segment {data : StoreData} (h : data.Rounds plat store headers)
    (hready : headers.Ready plat store) :
    ∃ info loader phase nseg, data.At plat (headers.segments plat) info loader phase nseg := by
  obtain ⟨info, phase, hat, -⟩ := hready.start_at
  refine h.invariant (P := fun s => ∃ info loader phase nseg,
    s.At plat (headers.segments plat) info loader phase nseg) ⟨info, .ready, phase, 0, hat⟩ ?_
  rintro s s' - ⟨info', loader, phase', nseg, hs⟩ hbody
  have hround := hbody ▸ data_round store hs
  cases hround with
  | copied _ _ _ hnext => exact ⟨_, _, _, _, hnext⟩
  | skipped _ _ _ hnext => exact ⟨_, _, _, _, hnext⟩
  | anywhere _ _ _ _ hnext => exact ⟨_, _, _, _, hnext⟩
  | asks _ hnext => exact ⟨_, _, _, _, hnext⟩

end Start

/-! ### What has happened stays in the events -/

def LoadEvent.BehindHeaders : LoadEvent → Prop
  | .header _ _ => False
  | _ => True

/-- More has happened, behind the loop of the headers. -/
def Extends (events events' : List LoadEvent) : Prop :=
  ∃ more, events' = events ++ more ∧ ∀ event ∈ more, event.BehindHeaders

section Extends

variable {plat : LoadPlatform} {store : StoreOps} {proc : LoadProc}
  {events events' events'' more : List LoadEvent}

theorem Extends.refl (events : List LoadEvent) : Extends events events :=
  ⟨[], (List.append_nil events).symm, nofun⟩

theorem Extends.trans (h : Extends events events') (h' : Extends events' events'') :
    Extends events events'' := by
  obtain ⟨more, rfl, hmore⟩ := h
  obtain ⟨more', rfl, hmore'⟩ := h'
  exact ⟨more ++ more', List.append_assoc _ _ _, List.forall_mem_append.mpr ⟨hmore, hmore'⟩⟩

theorem Extends.subset (h : Extends events events') : events ⊆ events' := by
  obtain ⟨more, rfl, -⟩ := h
  exact List.subset_append_left _ _

theorem Extends.header_mem (h : Extends events events') {size : Nat} {ret : Int} :
    .header size ret ∈ events' ↔ .header size ret ∈ events := by
  obtain ⟨more, rfl, hmore⟩ := h
  rw [List.mem_append, or_iff_left]
  exact fun hmem => hmore _ hmem

theorem extends_append (h : ∀ event ∈ more, event.BehindHeaders) : Extends events (events ++ more) :=
  ⟨more, rfl, h⟩

theorem LoadEvent.Quiet.behindHeaders {event : LoadEvent} (h : event.Quiet) : event.BehindHeaders := by
  cases event with
  | header size ret => exact h
  | _ => trivial

theorem extends_quiet (h : ∀ event ∈ more, event.Quiet) : Extends events (events ++ more) :=
  extends_append fun event hmem => (h event hmem).behindHeaders

theorem behindHeaders_copyEvents (io : IoRegion) (mapped : Mapped) (vars : LoadVars) (ret : Int) :
    ∀ event ∈ copyEvents io mapped vars ret, event.BehindHeaders := by
  unfold copyEvents
  rw [List.forall_mem_append]
  constructor
  · split_ifs
    · rw [List.forall_mem_singleton]
      trivial
    · exact nofun
  · split_ifs
    · rw [List.forall_mem_singleton]
      trivial
    · exact nofun

theorem act_extends (plat : LoadPlatform) (store : StoreOps) (s : StoreData) (vars : LoadVars) :
    Extends s.events (afterRound (s.act plat store vars)).events := by
  have hact := act_cases plat store s vars
  generalize s.act plat store vars = result at hact
  cases hact with
  | unmapped haddr hmap hevents => exact hevents ▸ .refl _
  | refused haddr hmap hlen hreply hret hevents =>
      rw [afterRound, hevents]
      exact extends_append (List.forall_mem_singleton.mpr trivial)
  | copied haddr hmap hio hcopies hinfo hlast hevents =>
      rw [afterRound, hevents]
      exact extends_append (behindHeaders_copyEvents _ _ _ _)
  | short haddr hlen hreply hret hexit hinfo hevents =>
      rw [afterRound, hevents]
      exact extends_quiet (quiet_fetched _ _)
  | fetched haddr hlen hinfo hlast hplace hevents =>
      rw [afterRound, hevents]
      exact extends_quiet (quiet_fetched _ _)
  | left => exact .refl _

theorem body_extends (plat : LoadPlatform) (store : StoreOps) (s : StoreData) :
    Extends s.events (afterRound (s.body plat store)).events := by
  have hallocated (imgInfo : Option ElfInfo) : Extends s.events (s.returned imgInfo).events :=
    extends_quiet (quiet_elfAllocated _ _)
  rcases hloaded : s.loaded plat with _ | ⟨status | lastLoadState, imgInfo, vars⟩
  · rw [body_stuck hloaded]
    exact .refl _
  · rw [body_failed hloaded]
    exact hallocated imgInfo
  · rw [body_act hloaded]
    exact (hallocated imgInfo).trans
      (act_extends plat store { s.returned imgInfo with lastLoadState } vars)

theorem loop_extends {start data : StoreData} {exit : LoopExit}
    (h : Loop.Returns (StoreData.body plat store) start (data, exit)) :
    Extends start.events data.events := by
  refine h.along (P := fun s => Extends start.events (afterRound s).events) (.refl _) ?_
  exact fun s _ hs => hs.trans (body_extends plat store s)

theorem quiet_elfReleased (imgInfo : Option ElfInfo) : ∀ event ∈ elfReleased imgInfo, event.Quiet := by
  intro event hmem
  obtain ⟨mem, -, rfl⟩ := List.mem_map.mp hmem
  trivial

theorem quiet_rscTableLate (data : StoreData) (early : Option (Shdr × RscCopy)) :
    ∀ event ∈ (rscTableLate plat store data early).2, event.Quiet := by
  cases early with
  | none => exact quiet_locateAndGetRscTable _ _
  | some table => exact nofun

theorem behindHeaders_updateRscTableAny (plat : LoadPlatform) (proc : LoadProc) (io : Option IoRegion)
    (table : Option (Shdr × RscCopy)) :
    ∀ event ∈ (updateRscTableAny plat proc io table).2, event.BehindHeaders := by
  cases table with
  | none => exact nofun
  | some table =>
      obtain ⟨shdr, copy⟩ := table
      unfold updateRscTableAny
      dsimp only
      split_ifs
      · cases copy with
        | error status => exact nofun
        | copy rscTable =>
            cases (remoteprocMmapAny plat shdr.shAddr shdr.shSize io).io with
            | none => exact nofun
            | some region =>
                exact List.forall_mem_cons.mpr ⟨trivial, List.forall_mem_singleton.mpr trivial⟩
      · exact List.forall_mem_singleton.mpr trivial

theorem loadEnd_extends (plat : LoadPlatform) (store : StoreOps) (proc : LoadProc) (keep : Bool)
    (early : Option (Shdr × RscCopy)) (data : StoreData) :
    Extends (data.events ++ (rscTableLate plat store data early).2)
      (remoteprocLoadEnd plat store keep proc early data).events := by
  unfold remoteprocLoadEnd
  have hupdate := behindHeaders_updateRscTableAny plat proc data.io
    (rscTableLate plat store data early).1
  dsimp only
  cases hresult : updateRscTableAny plat proc data.io (rscTableLate plat store data early).1 with
  | mk updated more =>
      rw [hresult] at hupdate
      cases updated with
      | none => exact extends_append hupdate
      | some proc =>
          refine (extends_append hupdate).trans (extends_quiet ?_)
          split_ifs
          · exact nofun
          · exact quiet_elfReleased _

end Extends

/-! ### The call -/

/-- What `remoteproc_load` comes to, up to the end of the loop of the headers. -/
inductive LoadCall (plat : LoadPlatform) (rounds : Nat) (store : StoreOps) (keep : Bool)
    (proc : LoadProc) : LoadResult → Prop where
  | refused (hstarts : ¬ LoadStarts store proc) :
      LoadCall plat rounds store keep proc ⟨some (-RPROC_EINVAL), proc, none, []⟩
  | unopened (hstarts : ¬ LoadStarts store proc) :
      LoadCall plat rounds store keep proc ⟨none, proc, none, []⟩
  | stuck {headers : StoreHeaders}
      (hreturns : Loop.Returns (StoreHeaders.body plat store) (.start store) (headers, .stuck)) :
      LoadCall plat rounds store keep proc
        ⟨none, { proc with loader := true }, headers.imgInfo, headers.events⟩
  | failed {headers : StoreHeaders} {ret : Int}
      (hreturns : Loop.Returns (StoreHeaders.body plat store) (.start store) (headers, .error ret)) :
      LoadCall plat rounds store keep proc
        ⟨some ret, { proc with loader := true }, headers.imgInfo,
          headers.events ++ elfReleased headers.imgInfo⟩
  | loaded {headers : StoreHeaders} {r : LoadResult} (hready : headers.Ready plat store)
      (hafter : remoteprocLoadAfter plat rounds store keep { proc with loader := true } headers =
        some r) :
      LoadCall plat rounds store keep proc r

theorem load_call {plat : LoadPlatform} {rounds : Nat} {store : StoreOps} {keep : Bool}
    {proc : LoadProc} {r : LoadResult} (hcall : remoteprocLoadAny plat rounds store keep proc = some r) :
    LoadCall plat rounds store keep proc r := by
  unfold remoteprocLoadAny at hcall
  by_cases hstate : proc.state ≠ .ready ∧ proc.state ≠ .configured
  · rw [if_pos hstate] at hcall
    obtain rfl := Option.some.inj hcall
    exact .refused fun hstarts => hstarts.1.elim hstate.1 hstate.2
  rw [if_neg hstate] at hcall
  by_cases hopened : store.opened.ret ≤ 0
  · rw [if_pos hopened] at hcall
    obtain rfl := Option.some.inj hcall
    exact .refused fun hstarts => Int.not_le.mpr hstarts.2.1 hopened
  rw [if_neg hopened] at hcall
  cases himg : store.opened.imgData with
  | none =>
      rw [himg] at hcall
      obtain rfl := Option.some.inj hcall
      refine .unopened ?_
      rintro ⟨-, -, img, hsome, -⟩
      exact nomatch himg.symm.trans hsome
  | some img =>
      rw [himg] at hcall
      dsimp only at hcall
      by_cases hformat : proc.loader = false ∧
          remoteprocCheckFwFormat (some (readBytes img 0 SELFMAG)) store.opened.ret.toNat = false
      · rw [if_pos hformat] at hcall
        obtain rfl := Option.some.inj hcall
        refine .refused ?_
        rintro ⟨-, -, img', hsome, hknown⟩
        obtain rfl := Option.some.inj (himg.symm.trans hsome)
        rcases hknown with hset | hknown
        · exact nomatch hset.symm.trans hformat.1
        · exact nomatch hknown.symm.trans hformat.2
      rw [if_neg hformat] at hcall
      obtain ⟨⟨headers, exit⟩, hrun, hcall⟩ := Option.bind_eq_some_iff.mp hcall
      have hreturns : Loop.Returns (StoreHeaders.body plat store) (.start store) (headers, exit) :=
        ⟨rounds, hrun⟩
      cases exit with
      | stuck =>
          obtain rfl := Option.some.inj hcall
          exact .stuck hreturns
      | error ret =>
          obtain rfl := Option.some.inj hcall
          exact .failed hreturns
      | leave => exact .loaded hreturns hcall

end OpenAmp
