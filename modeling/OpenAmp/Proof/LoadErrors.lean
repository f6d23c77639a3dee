import OpenAmp.Proof.StoreData

/-!
# Errors of a load

The value that a load returns is whatever was written last to one variable, which holds byte counts and
errors in turn. The loader and the platform give negative numbers; a request for the headers that gets
fewer bytes than it asked for passes its count on, and so does a resource table that cannot be read.
-/

namespace OpenAmp

open ByteMemory

/-! ### Segments that have been copied -/

/-- Every segment with bytes has been copied in full. -/
def Copied (events : List LoadEvent) (segments : List Phdr) : Prop :=
  ∀ phdr ∈ segments, phdr.pType = PT_LOAD → 0 < phdr.pFilesz →
    ∃ mapped, mapped.da = phdr.pVaddr ∧
      .transfer mapped phdr.pOffset phdr.pFilesz phdr.pFilesz ∈ events

/-- What a loader has copied that comes to a number next. -/
def LoaderPhase.copied (loader : LoaderPhase) (segments : List Phdr) (nseg : Nat) : List Phdr :=
  if loader = .ready then segments.take nseg else segments

section Copied

variable {plat : LoadPlatform} {store : StoreOps} {segments segments' : List Phdr}
  {events events' more : List LoadEvent} {s s' : StoreData} {loader : LoaderPhase}
  {phase : HeaderPhase} {nseg : Nat} {exit : LoopExit}

theorem Copied.mono (h : Copied events segments) (hevents : events ⊆ events')
    (hsegments : segments' ⊆ segments) : Copied events' segments' := by
  intro phdr hmem hload hlen
  obtain ⟨mapped, hda, htransfer⟩ := h phdr (hsegments hmem) hload hlen
  exact ⟨mapped, hda, hevents htransfer⟩

theorem Copied.append (h : Copied events segments) (h' : Copied events segments') :
    Copied events (segments ++ segments') := by
  intro phdr hmem
  rcases List.mem_append.mp hmem with hmem | hmem
  · exact h phdr hmem
  · exact h' phdr hmem

theorem copied_of_no_load (h : ∀ e ∈ segments, e.pType ≠ PT_LOAD) : Copied events segments :=
  fun phdr hmem hload => absurd hload (h phdr hmem)

/-- There is nothing left to copy. -/
theorem Copied.all (h : Copied events (segments.take nseg))
    (hnext : nextLoads (segments.drop nseg) = []) : Copied events segments := by
  have happend := h.append (copied_of_no_load (nextLoads_eq_nil.mp hnext))
  rwa [List.take_append_drop] at happend

theorem copied_copyEvents {io : IoRegion} {mapped : Mapped} {phdr : Phdr}
    (hmapped : mapped.da = phdr.pVaddr)
    (hshort : ∀ event ∈ events ++ (more ++ copyEvents io mapped phdr.vars (toInt32 phdr.pFilesz)),
      event.Short) :
    Copied (events ++ (more ++ copyEvents io mapped phdr.vars (toInt32 phdr.pFilesz))) [phdr] := by
  intro phdr' hmem _ hlen
  obtain rfl := List.mem_singleton.mp hmem
  have htransfer : .transfer mapped phdr'.pOffset phdr'.pFilesz (toInt32 phdr'.pFilesz) ∈
      events ++ (more ++ copyEvents io mapped phdr'.vars (toInt32 phdr'.pFilesz)) := by
    refine List.mem_append_right _ (List.mem_append_right _ (List.mem_append_left _ ?_))
    have hpos : 0 < phdr'.vars.nlen := hlen
    rw [if_pos hpos]
    exact List.mem_singleton_self _
  have hint : toInt32 phdr'.pFilesz = phdr'.pFilesz := toInt32_of_lt (hshort _ htransfer)
  rw [hint] at htransfer ⊢
  exact ⟨mapped, hmapped, htransfer⟩

/-- The segment that is found is copied with those before it. -/
theorem Copied.found {phdr : Phdr} {rest : List Phdr}
    (hnext : nextLoads (segments.drop nseg) = phdr :: rest)
    (hbefore : Copied events (segments.take nseg)) (hphdr : Copied events [phdr]) :
    Copied events (segments.take (segments.length - rest.length)) := by
  obtain ⟨skipped, htake, hskipped⟩ := take_of_nextLoads hnext
  rw [htake]
  exact (hbefore.append (copied_of_no_load hskipped)).append hphdr

/-- No segment is to be loaded anywhere. -/
def Addressed (segments : List Phdr) : Prop :=
  ∀ phdr ∈ segments, phdr.pType = PT_LOAD → phdr.pVaddr ≠ RPROC_LOAD_ANYADDR

theorem Addressed.not_load (h : Addressed segments) {phdr : Phdr} (hmem : phdr ∈ loads segments) :
    phdr.pVaddr ≠ RPROC_LOAD_ANYADDR := by
  obtain ⟨hin, hload⟩ := List.mem_filter.mp hmem
  exact h phdr hin (of_decide_eq_true hload)

theorem copied_round (haddressed : Addressed segments)
    (hround : DataRound plat store segments s loader phase nseg (.inl s'))
    (hshort : ∀ event ∈ s'.events, event.Short)
    (hcopied : Copied s.events (loader.copied segments nseg)) :
    ∃ info loader' phase' nseg', s'.At plat segments info loader' phase' nseg' ∧
      Copied s'.events (loader'.copied segments nseg') := by
  cases hround with
  | @copied _ info phdr rest io mapped more hready hnext haddr hat hmapped hquiet hevents =>
      subst hready
      rw [hevents] at hshort
      have hphdr := copied_copyEvents hmapped hshort
      rw [← hevents] at hphdr
      have hbefore : Copied s'.events (segments.take nseg) :=
        hcopied.mono (hevents ▸ List.subset_append_left _ _) (List.Subset.refl _)
      have hall := hbefore.found hnext hphdr
      refine ⟨info, _, phase, _, hat, ?_⟩
      by_cases hrest : rest = []
      · rw [if_pos hrest]
        have htake : segments.take (segments.length - rest.length) = segments := by
          rw [hrest]
          exact List.take_length
        rwa [htake] at hall
      · rw [if_neg hrest]
        -- behind 255 the number starts again, and less has been copied than the loop knows of
        exact hall.mono (List.Subset.refl _)
          (List.take_sublist_take_left (Nat.mod_le _ _)).subset
  | @skipped _ info hready hnext haddr hat hquiet =>
      subst hready
      obtain ⟨more, hevents, -⟩ := hquiet
      have hall : Copied s'.events segments :=
        (hcopied.all hnext).mono (hevents ▸ List.subset_append_left _ _) (List.Subset.refl _)
      exact ⟨info, .ready, phase, _, hat, hall.mono (List.Subset.refl _) (List.take_subset _ _)⟩
  | anywhere hready hnext haddr =>
      exact absurd haddr (haddressed.not_load (mem_of_nextLoads_drop hnext))
  | @asks _ info phase' hpost hat hrank hsame hdue hwaits hquiet =>
      subst hpost
      obtain ⟨more, hevents, -⟩ := hquiet
      exact ⟨info, .postData, phase', nseg, hat,
        hcopied.mono (hevents ▸ List.subset_append_left _ _) (List.Subset.refl _)⟩

end Copied

/-! ### How the loop of the data is left -/

section Data

variable {plat : LoadPlatform} {store : StoreOps} {segments : List Phdr} {headers : StoreHeaders}
  {s data : StoreData} {loader : LoaderPhase} {phase : HeaderPhase} {nseg : Nat} {exit : LoopExit}

theorem rounds_copied (hready : headers.Ready plat store)
    (hreturns : Loop.Returns (StoreData.body plat store) (.start plat store headers) (data, exit))
    (haddressed : Addressed (headers.segments plat)) (hshort : ∀ event ∈ data.events, event.Short)
    (hs : s.Rounds plat store headers) :
    ∃ info loader phase nseg, s.At plat (headers.segments plat) info loader phase nseg ∧
      Copied s.events (loader.copied (headers.segments plat) nseg) := by
  obtain ⟨info, phase, hat, -⟩ := hready.start_at
  refine hs.invariant (P := fun s => ∃ info loader phase nseg,
    s.At plat (headers.segments plat) info loader phase nseg ∧
      Copied s.events (loader.copied (headers.segments plat) nseg)) ⟨info, .ready, phase, 0, hat, ?_⟩ ?_
  · exact fun phdr hmem => nomatch hmem
  · rintro t t' ht ⟨info', loader, phase', nseg, hat', hcopied⟩ hbody
    have hsub := (loop_extends ((ht.round hbody).returns hreturns)).subset
    have hround := data_round store hat'
    rw [hbody] at hround
    exact copied_round haddressed hround (fun event hmem => hshort event (hsub hmem)) hcopied

theorem DataRound.leave_segments
    (h : DataRound plat store segments s loader phase nseg (.inr (data, .leave))) :
    ∃ info, data.imgInfo = some info ∧ plat.segments info = segments := by
  cases h with
  | shortAnywhere hserves hinfo hsegments => exact ⟨_, hinfo, hsegments⟩
  | final hready hnext hfinal hinfo hsegments => exact ⟨_, hinfo, hsegments⟩
  | left hready hnext haddr hinfo hsegments => exact ⟨_, hinfo, hsegments⟩
  | finished hready hinfo hsegments => exact ⟨_, hinfo, hsegments⟩

/-- The loop is left with an error that is negative. -/
theorem data_error {ret : Int} (hready : headers.Ready plat store)
    (hreturns : Loop.Returns (StoreData.body plat store) (.start plat store headers)
      (data, .error ret))
    (haddressed : ∀ info, data.imgInfo = some info → Addressed (plat.segments info)) : ret < 0 := by
  obtain ⟨s, hs, hbody⟩ := hreturns.last
  obtain ⟨info, loader, phase, nseg, hat⟩ := StoreData.Rounds.at_segment hs hready
  have hround := data_round store hat
  rw [hbody] at hround
  cases hround with
  | failed hpost hstatus => exact hstatus
  | refused hserves hstatus => exact hstatus
  | shortAnywhere hserves hinfo hsegments hmem haddr =>
      exact absurd haddr ((hsegments ▸ haddressed _ hinfo).not_load hmem)

/-- The loop is left with every segment copied. -/
theorem data_leave (hready : headers.Ready plat store)
    (hreturns : Loop.Returns (StoreData.body plat store) (.start plat store headers) (data, .leave))
    (haddressed : ∀ info, data.imgInfo = some info → Addressed (plat.segments info))
    (hshort : ∀ event ∈ data.events, event.Short) :
    ∃ info, data.imgInfo = some info ∧ Copied data.events (plat.segments info) := by
  obtain ⟨s, hs, hbody⟩ := hreturns.last
  obtain ⟨_, _, _, _, hat⟩ := StoreData.Rounds.at_segment hs hready
  have hlast := data_round store hat
  rw [hbody] at hlast
  obtain ⟨info, hinfo, hsegments⟩ := hlast.leave_segments
  have haddr := haddressed info hinfo
  rw [hsegments] at haddr
  obtain ⟨_, loader, phase, nseg, hat', hcopied⟩ := rounds_copied hready hreturns haddr hshort hs
  have hround := data_round store hat'
  have hextends := body_extends plat store s
  rw [hbody] at hround hextends
  have hall : Copied s.events (headers.segments plat) := by
    cases hround with
    | shortAnywhere hserves hinfo hsegments hmem hany => exact absurd hany (haddr.not_load hmem)
    | final hloader hnext hfinal =>
        exact absurd hfinal.1 (haddr.not_load (mem_of_nextLoads_drop hnext))
    | left hloader hnext =>
        subst hloader
        exact hcopied.all hnext
    | finished hloader => rwa [LoaderPhase.copied, if_neg hloader] at hcopied
  rw [← hsegments] at hall
  exact ⟨info, hinfo, hall.mono hextends.subset (List.Subset.refl _)⟩

end Data

/-! ### `remoteproc_load` -/

section Load

variable {plat : LoadPlatform} {store : StoreOps} {headers : StoreHeaders} {proc : LoadProc}
  {rounds : Nat} {keep : Bool} {r : LoadResult} {events : List LoadEvent}

theorem reported_stuck (h : r.ret = none) : r.Reported plat :=
  fun _ hret => nomatch h.symm.trans hret

theorem reported_error {status : Int} (h : r.ret = some status) (hstatus : status < 0) :
    r.Reported plat := by
  intro ret hret
  obtain rfl := Option.some.inj (h.symm.trans hret)
  exact .inr hstatus

theorem HeaderEvents.size_le (h : HeaderEvents events) (hshort : ∀ event ∈ events, event.Short)
    {size : Nat} {ret : Int} (hmem : .header size ret ∈ events) : (size : Int) ≤ ret := by
  rcases h _ hmem with ⟨block, heq⟩ | ⟨size', ret', heq, hle⟩
  · exact nomatch heq
  · obtain ⟨rfl, rfl⟩ := LoadEvent.header.inj heq
    rwa [toInt32_of_lt (hshort _ hmem)] at hle

theorem served_iff : (∀ event ∈ events, event.Served) ↔
    ∀ (size : Nat) (ret : Int), .header size ret ∈ events → ret < 0 ∨ (size : Int) ≤ ret := by
  constructor
  · exact fun h size ret hmem => h _ hmem
  · intro h event hmem
    cases event with
    | header size ret => exact h size ret hmem
    | _ => trivial

theorem loadEnd_imgInfo (keep : Bool) (early : Option (Shdr × RscCopy)) (data : StoreData) :
    (remoteprocLoadEnd plat store keep proc early data).imgInfo = data.imgInfo := by
  unfold remoteprocLoadEnd
  obtain ⟨table, events⟩ := rscTableLate plat store data early
  dsimp only
  obtain ⟨updated, more⟩ := updateRscTableAny plat proc data.io table
  cases updated <;> rfl

/-- The end of a call that has left both loops is a success, and a complete one. -/
theorem loadEnd_complete {early : Option (Shdr × RscCopy)} {data : StoreData} {info : ElfInfo}
    (hinfo : data.imgInfo = some info) (hcopied : Copied data.events (plat.segments info))
    (hheaders : ∀ (size : Nat) (ret : Int), .header size ret ∈ data.events → (size : Int) ≤ ret) :
    LoadResult.Reported plat (remoteprocLoadEnd plat store keep proc early data) := by
  have hlate : Extends data.events (data.events ++ (rscTableLate plat store data early).2) :=
    extends_quiet (quiet_rscTableLate data early)
  have hextends := hlate.trans (loadEnd_extends plat store proc keep early data)
  intro ret hret
  generalize hresult : remoteprocLoadEnd plat store keep proc early data = r at hret hextends
  unfold remoteprocLoadEnd at hresult
  dsimp only at hresult
  cases hupdate : updateRscTableAny plat proc data.io (rscTableLate plat store data early).1 with
  | mk updated more =>
      rw [hupdate] at hresult
      cases updated with
      | none =>
          rw [← hresult] at hret
          exact nomatch hret
      | some proc =>
          rw [← hresult] at hret
          refine .inl ⟨(Option.some.inj hret).symm, ?_, info, ?_, ?_, ?_⟩
          · exact fun size ret hmem => hheaders size ret (hextends.header_mem.mp hmem)
          · rw [← hresult]
            exact hinfo
          · rw [← hresult]
            dsimp only
            rw [hinfo]
          · exact hcopied.mono hextends.subset (List.Subset.refl _)

/-- After the headers, the call reports every failure. -/
theorem after_reported (hready : headers.Ready plat store)
    (hcall : remoteprocLoadAfter plat rounds store keep proc headers = some r)
    (hshort : ∀ event ∈ r.events, event.Short) (haddressed : r.Addressed plat) :
    r.Reported plat ∧ Extends headers.events r.events := by
  obtain ⟨_, _, -, hheaders⟩ := hready.start_at
  have hstart : Extends headers.events (StoreData.start plat store headers).events :=
    extends_quiet (quiet_locateAndGetRscTable _ _)
  unfold remoteprocLoadAfter at hcall
  obtain ⟨⟨data, exit⟩, hrun, hcall⟩ := Option.bind_eq_some_iff.mp hcall
  have hreturns : Loop.Returns (StoreData.body plat store) (.start plat store headers) (data, exit) :=
    ⟨rounds, hrun⟩
  have hdata := hstart.trans (loop_extends hreturns)
  cases exit with
  | stuck =>
      obtain rfl := Option.some.inj hcall
      exact ⟨reported_stuck rfl, hdata⟩
  | error ret =>
      obtain rfl := Option.some.inj hcall
      refine ⟨reported_error rfl (data_error hready hreturns haddressed), hdata.trans ?_⟩
      rw [List.append_assoc]
      refine extends_quiet (List.forall_mem_append.mpr ⟨?_, quiet_elfReleased _⟩)
      cases (locateAndGetRscTable plat store headers.calls headers.imgInfo).1 with
      | none => exact nofun
      | some table => exact List.forall_mem_singleton.mpr trivial
  | leave =>
      obtain rfl := Option.some.inj hcall
      have hlate : Extends data.events (data.events ++ (rscTableLate plat store data
          (locateAndGetRscTable plat store headers.calls headers.imgInfo).1).2) :=
        extends_quiet (quiet_rscTableLate data _)
      have hend := hlate.trans (loadEnd_extends plat store proc keep _ data)
      have hdataShort : ∀ event ∈ data.events, event.Short :=
        fun event hmem => hshort event (hend.subset hmem)
      have haddr : ∀ info, data.imgInfo = some info → Addressed (plat.segments info) :=
        fun info hinfo => haddressed info ((loadEnd_imgInfo _ _ _).trans hinfo)
      obtain ⟨info, hinfo, hcopied⟩ := data_leave hready hreturns haddr hdataShort
      refine ⟨loadEnd_complete hinfo hcopied fun size ret hmem => ?_, hdata.trans hend⟩
      exact hheaders.size_le (fun event hin => hdataShort event (hdata.subset hin))
        (hdata.header_mem.mp hmem)

/-- The loop of the headers is left with an error of the loader, or with what the store has returned for
the last request. -/
theorem headers_error {ret : Int}
    (hreturns : Loop.Returns (StoreHeaders.body plat store) (.start store) (headers, .error ret)) :
    (ret < 0 ∧ HeaderEvents headers.events) ∨
      ∃ (events : List LoadEvent) (size : Nat), HeaderEvents events ∧
        headers.events = events ++ [.header size ret] ∧ ret < toInt32 size := by
  obtain ⟨s, rank, hat, hevents, hbody⟩ := headers_last hreturns
  have hround := headers_round store hat
  rw [hbody] at hround
  cases hround with
  | failed hstatus hblocks happend =>
      rw [happend]
      exact .inl ⟨hstatus, hevents.append hblocks.headerEvents⟩
  | short hlt hblocks happend =>
      exact .inr ⟨_, _, hevents.append hblocks.headerEvents, happend, hlt⟩

theorem HeaderEvents.served (h : HeaderEvents events) (hextends : Extends events r.events)
    (hshort : ∀ event ∈ r.events, event.Short) : ∀ event ∈ r.events, event.Served := by
  refine served_iff.mpr fun size ret hmem => .inr ?_
  exact h.size_le (fun event hin => hshort event (hextends.subset hin)) (hextends.header_mem.mp hmem)

/-- The request that ends the loop has to get an error. -/
theorem short_reported_iff {size : Nat} {ret : Int} (hret : r.ret = some ret) (h : HeaderEvents events)
    (hlt : ret < toInt32 size) (hextends : Extends (events ++ [.header size ret]) r.events)
    (hshort : ∀ event ∈ r.events, event.Short) :
    r.Reported plat ↔ ∀ event ∈ r.events, event.Served := by
  have hlast : .header size ret ∈ r.events :=
    hextends.subset (List.mem_append_right _ (List.mem_singleton_self _))
  have hless : ret < size := by rwa [toInt32_of_lt (hshort _ hlast)] at hlt
  have hbefore : ∀ event ∈ events, event.Short :=
    fun event hmem => hshort event (hextends.subset (List.mem_append_left _ hmem))
  rw [served_iff]
  constructor
  · intro hreported size' ret' hmem
    have hneg : ret < 0 := by
      rcases hreported ret hret with ⟨-, hcomplete⟩ | hneg
      · exact absurd (hcomplete.1 size ret hlast) (Int.not_le.mpr hless)
      · exact hneg
    rcases List.mem_append.mp (hextends.header_mem.mp hmem) with hin | hin
    · exact .inr (h.size_le hbefore hin)
    · obtain ⟨rfl, rfl⟩ := LoadEvent.header.inj (List.mem_singleton.mp hin)
      exact .inl hneg
  · intro hserved
    exact reported_error hret ((hserved size ret hlast).resolve_right (Int.not_le.mpr hless))

/-- The call reports what happens to it unless a request for the headers gets fewer bytes than it asked
for and no error. -/
theorem load_reported_iff (hcall : remoteprocLoadAny plat rounds store keep proc = some r)
    (hshort : ∀ event ∈ r.events, event.Short) (haddressed : r.Addressed plat) :
    r.Reported plat ↔ ∀ event ∈ r.events, event.Served := by
  cases load_call hcall with
  | refused => exact iff_of_true (reported_error rfl (by decide)) nofun
  | unopened => exact iff_of_true (reported_stuck rfl) nofun
  | stuck hreturns =>
      obtain ⟨s, rank, hat, hevents, hbody⟩ := headers_last hreturns
      have hround := headers_round store hat
      rw [hbody] at hround
      cases hround
      exact iff_of_true (reported_stuck rfl) (hevents.served (.refl _) hshort)
  | @failed headers ret hreturns =>
      have hextends : Extends headers.events (headers.events ++ elfReleased headers.imgInfo) :=
        extends_quiet (quiet_elfReleased _)
      rcases headers_error hreturns with ⟨hneg, hevents⟩ | ⟨events, size, hevents, happend, hlt⟩
      · exact iff_of_true (reported_error rfl hneg) (hevents.served hextends hshort)
      · rw [happend] at hextends
        refine short_reported_iff rfl hevents hlt ?_ hshort
        dsimp only
        rw [happend]
        exact hextends
  | loaded hready hafter =>
      obtain ⟨hreported, hextends⟩ := after_reported hready hafter hshort haddressed
      obtain ⟨_, _, -, hevents⟩ := hready.start_at
      exact iff_of_true hreported (hevents.served hextends hshort)

end Load

/-! ### `remoteproc_load_noblock` -/

section Stream

variable {plat : LoadPlatform} {blockRead : IoRegion → Nat → Nat → Int × List UInt8}
  {imgData : Option (Nat → UInt8)} {offset len : Nat} {imgInfo : Option ElfInfo} {vars : StreamVars}
  {proc : LoadProc} {s : StreamCall} {r : StreamResult}

theorem StreamCall.out_reported (s : StreamCall) : s.out.Reported := nofun

theorem StreamCall.error1_reported_iff (s : StreamCall) (ret : Int) :
    (s.error1 ret).Reported ↔ ret < 0 :=
  forall_prop_of_true rfl

theorem loadHeader_reported (h : s.loadHeader plat imgData offset len = some (.inl r)) :
    r.Reported := by
  unfold StreamCall.loadHeader at h
  split_ifs at h
  · obtain ⟨out, hcall, hout⟩ := Option.bind_eq_some_iff.mp h
    have hnegative := elfLoadHeaderFrom_negative hcall
    dsimp only at hout
    split at hout
    · next status hret =>
        obtain rfl := Sum.inl.inj (Option.some.inj hout)
        exact (StreamCall.error1_reported_iff _ _).mpr (hnegative status hret)
    · split_ifs at hout
      · obtain rfl := Sum.inl.inj (Option.some.inj hout)
        exact StreamCall.out_reported _
      · exact nomatch Option.some.inj hout
  · exact nomatch Option.some.inj h

theorem loadData_reported (h : s.loadData plat imgData offset len = some (.inl r)) : r.Reported := by
  unfold StreamCall.loadData at h
  split_ifs at h
  · obtain ⟨out, hcall, hout⟩ := Option.bind_eq_some_iff.mp h
    have hnegative := elfLoadFrom_negative hcall
    dsimp only at hout
    split at hout
    · next status hret =>
        obtain rfl := Sum.inl.inj (Option.some.inj hout)
        exact (StreamCall.error1_reported_iff _ _).mpr (hnegative status hret)
    · generalize (if out.vars.da ≠ RPROC_LOAD_ANYADDR then (_ : StreamCall) else _) = mapped at hout
      split_ifs at hout
      · obtain rfl := Sum.inl.inj (Option.some.inj hout)
        exact (StreamCall.error1_reported_iff _ _).mpr (by decide)
      · obtain rfl := Sum.inl.inj (Option.some.inj hout)
        exact StreamCall.out_reported _
      · exact nomatch Option.some.inj hout
  · exact nomatch Option.some.inj h

/-- Before it turns to the resource table, the call reports every failure. -/
theorem noblockBefore_reported
    (h : remoteprocLoadNoblockBefore plat imgData offset len imgInfo vars proc = some (.inl r)) :
    r.Reported := by
  unfold remoteprocLoadNoblockBefore at h
  split_ifs at h
  · obtain rfl := Sum.inl.inj (Option.some.inj h)
    exact nofun
  · obtain rfl := Sum.inl.inj (Option.some.inj h)
    exact nofun
  · obtain ⟨result, hheader, hresult⟩ := Option.bind_eq_some_iff.mp h
    cases result with
    | inl r' =>
        obtain rfl := Sum.inl.inj (Option.some.inj hresult)
        exact loadHeader_reported hheader
    | inr s => exact loadData_reported hresult

theorem finish_reported_iff (s : StreamCall) :
    (s.finish plat blockRead).Reported ↔ s.TableReads plat blockRead := by
  unfold StreamCall.finish StreamCall.TableReads
  by_cases hcomplete : s.lastLoadState &&& RPROC_LOADER_LOAD_COMPLETE ≠ 0
  · rw [if_pos hcomplete, forall_prop_of_true hcomplete]
    dsimp only
    cases hlocated : s.imgInfo.bind (locatedRscTableAt plat) with
    | none => exact iff_of_true (StreamCall.out_reported _) nofun
    | some shdr =>
        dsimp only
        by_cases hallocate : plat.allocateRsc shdr.shSize = false
        · rw [if_pos hallocate]
          refine iff_of_true ((StreamCall.error1_reported_iff _ _).mpr (by decide)) ?_
          rintro _ ⟨⟩ hallocated
          exact nomatch hallocate.symm.trans hallocated
        · rw [if_neg hallocate]
          have hmemory := Bool.eq_true_of_not_eq_false hallocate
          have hone {P : Shdr → Prop} : (∀ shdr', some shdr = some shdr' →
              plat.allocateRsc shdr'.shSize = true → P shdr') ↔ P shdr := by
            refine ⟨fun h => h shdr rfl hmemory, ?_⟩
            rintro h _ ⟨⟩ -
            exact h
          rw [hone]
          cases hmap : (remoteprocMmapAny plat shdr.shAddr shdr.shSize s.vars.io).io with
          | none =>
              refine iff_of_false ?_ ?_
              · exact fun h => absurd ((StreamCall.error1_reported_iff _ _).mp h) (by decide)
              · rintro ⟨io, hio, -⟩
                exact nomatch hio
          | some io =>
              dsimp only
              simp only [Option.some.injEq, exists_eq_left']
              generalize blockRead io (io.virtToOffset
                (remoteprocMmapAny plat shdr.shAddr shdr.shSize s.vars.io).va) shdr.shSize = read
              by_cases hcount : read.1 ≠ toInt32 shdr.shSize
              · rw [if_pos hcount, StreamCall.error1_reported_iff]
                exact (or_iff_left hcount).symm
              · rw [if_neg hcount]
                refine iff_of_true ?_ (.inr (not_not.mp hcount))
                by_cases hstatus : (plat.handleRscTable read.2).1 < 0
                · rw [if_pos hstatus]
                  exact (StreamCall.error1_reported_iff _ _).mpr hstatus
                · rw [if_neg hstatus]
                  exact StreamCall.out_reported _
  · rw [if_neg hcomplete]
    exact iff_of_true (StreamCall.out_reported _) fun h => absurd h hcomplete

/-- The call reports what happens to it unless it comes to a resource table that cannot be mapped, or
reading it stops short with no error. -/
theorem noblock_reported_iff
    (hcall : remoteprocLoadNoblockAny plat blockRead imgData offset len imgInfo vars proc = some r) :
    r.Reported ↔ ∀ s, remoteprocLoadNoblockBefore plat imgData offset len imgInfo vars proc =
      some (.inr s) → s.TableReads plat blockRead := by
  obtain ⟨result, hbefore, hresult⟩ := Option.bind_eq_some_iff.mp hcall
  rw [hbefore]
  cases result with
  | inl r' =>
      obtain rfl := Option.some.inj hresult
      exact iff_of_true (noblockBefore_reported hbefore) fun s h => nomatch Option.some.inj h
  | inr s =>
      obtain rfl := Option.some.inj hresult
      rw [finish_reported_iff]
      refine ⟨fun h s' hs' => ?_, fun h => h s rfl⟩
      rwa [← Sum.inr.inj (Option.some.inj hs')]

end Stream

/-- A load reports its failures exactly where the store answers every request for the headers with an
error or with all the bytes, and where the call that does not block can map and read the table. -/
theorem load_failures_reported (plat : LoadPlatform) :
    (∀ rounds store keep proc r, remoteprocLoadAny plat rounds store keep proc = some r →
      (∀ event ∈ r.events, event.Short) → r.Addressed plat →
        (r.Reported plat ↔ ∀ event ∈ r.events, event.Served)) ∧
      ∀ blockRead imgData offset len imgInfo vars proc r,
        remoteprocLoadNoblockAny plat blockRead imgData offset len imgInfo vars proc = some r →
          (r.Reported ↔ ∀ s, remoteprocLoadNoblockBefore plat imgData offset len imgInfo vars proc =
            some (.inr s) → s.TableReads plat blockRead) :=
  ⟨fun _ _ _ _ _ hcall hshort haddressed => load_reported_iff hcall hshort haddressed,
    fun _ _ _ _ _ _ _ _ hcall => noblock_reported_iff hcall⟩

/-! ### A file with a segment and a section -/

def loadableFile : List UInt8 :=
  [127, 69, 76, 70, 2, 0, 0, 0, 0, 0, 0, 0, 0, 0, 0, 0, 0, 0, 0, 0, 0, 0, 0, 0, 0, 0, 0, 0, 0, 0,
   0, 0, 64, 0, 0, 0, 0, 0, 0, 0, 120, 0, 0, 0, 0, 0, 0, 0, 0, 0, 0, 0, 0, 0, 56, 0, 1, 0, 64, 0,
   1, 0, 0, 0, 1, 0, 0, 0, 0, 0, 0, 0, 0, 0, 0, 0, 0, 0, 0, 0, 0, 0, 0, 0, 0, 0, 0, 0, 0, 0, 0, 0,
   0, 0, 0, 0, 8, 0, 0, 0, 0, 0, 0, 0, 8, 0, 0, 0, 0, 0, 0, 0, 0, 0, 0, 0, 0, 0, 0, 0, 1, 0, 0, 0,
   0, 0, 0, 0, 0, 0, 0, 0, 0, 0, 0, 0, 0, 0, 0, 0, 0, 0, 0, 0, 184, 0, 0, 0, 0, 0, 0, 0, 17, 0, 0,
   0, 0, 0, 0, 0, 0, 0, 0, 0, 0, 0, 0, 0, 0, 0, 0, 0, 0, 0, 0, 0, 0, 0, 0, 0, 0, 0, 0, 0, 0, 46,
   114, 101, 115, 111, 117, 114, 99, 101, 95, 116, 97, 98, 108, 101, 0]

def loadableStore : StoreOps := servingStore (blockMem loadableFile fun _ => 0) 201

/-- A store that fails behind the ELF header. -/
def failingStore : StoreOps :=
  ⟨⟨64, some (blockMem loadableFile fun _ => 0)⟩, fun _ _ => ⟨-5, none⟩, true⟩

/-- What a call comes to that is to be reported: its requests and the segments of the file. -/
def LoadResult.requests (plat : LoadPlatform) (r : LoadResult) : Bool × List Phdr :=
  (r.events.all fun event => event.Short ∧ event.Served, r.imgInfo.elim [] plat.segments)

theorem loadable_result :
    (remoteprocLoadAny mappingPlatform 3 loadableStore true readyProc).map
      (LoadResult.requests mappingPlatform) = some (true, [⟨PT_LOAD, 0, 0, 8, 8⟩]) := by
  decide +kernel

theorem failing_result :
    (remoteprocLoadAny mappingPlatform 1 failingStore true readyProc).map
      (LoadResult.requests mappingPlatform) = some (true, []) := by
  decide +kernel

section Requests

variable {plat : LoadPlatform} {r : LoadResult} {phdrs : List Phdr}

theorem requests_answered (h : r.requests plat = (true, phdrs)) {event : LoadEvent}
    (hmem : event ∈ r.events) : event.Short ∧ event.Served :=
  of_decide_eq_true (List.all_eq_true.mp (congrArg Prod.fst h) event hmem)

theorem requests_addressed (h : r.requests plat = (true, phdrs))
    (haddr : ∀ phdr ∈ phdrs, phdr.pVaddr ≠ RPROC_LOAD_ANYADDR) : r.Addressed plat := by
  intro info hinfo phdr hmem _
  have hphdrs : r.imgInfo.elim [] plat.segments = phdrs := congrArg Prod.snd h
  rw [hinfo] at hphdrs
  exact haddr phdr (hphdrs ▸ hmem)

end Requests

/-- The first call without blocking, on the whole file. -/
def loadableCall (plat : LoadPlatform) (imgInfo : Option ElfInfo) (vars : StreamVars)
    (proc : LoadProc) : Option StreamResult :=
  remoteprocLoadNoblockAny plat (fun _ _ _ => (0, [])) (some (blockMem loadableFile fun _ => 0)) 0 201
    imgInfo vars proc

theorem loadable_before :
    (remoteprocLoadNoblockBefore mappingPlatform (some (blockMem loadableFile fun _ => 0)) 0 201 none
      ⟨0, none, 0, 0, 0, 0⟩ readyProc).map Sum.isLeft = some true := by
  decide +kernel

/-- A load that succeeds, one whose store fails, and a call without blocking. -/
theorem loadable_load_reported :
    (∃ r, remoteprocLoadAny mappingPlatform 3 loadableStore true readyProc = some r ∧
      r.Reported mappingPlatform) ∧
      (∃ r, remoteprocLoadAny mappingPlatform 1 failingStore true readyProc = some r ∧
        r.Reported mappingPlatform) ∧
      ∃ r, loadableCall mappingPlatform none ⟨0, none, 0, 0, 0, 0⟩ readyProc = some r ∧
        r.Reported := by
  refine ⟨?_, ?_, ?_⟩
  · obtain ⟨r, hcall, hr⟩ := Option.map_eq_some_iff.mp loadable_result
    have haddr := requests_addressed hr (List.forall_mem_singleton.mpr (by decide))
    exact ⟨r, hcall, ((load_failures_reported mappingPlatform).1 3 loadableStore true readyProc r hcall
      (fun event hmem => (requests_answered hr hmem).1) haddr).mpr
        fun event hmem => (requests_answered hr hmem).2⟩
  · obtain ⟨r, hcall, hr⟩ := Option.map_eq_some_iff.mp failing_result
    have haddr := requests_addressed hr (List.forall_mem_nil _)
    exact ⟨r, hcall, ((load_failures_reported mappingPlatform).1 1 failingStore true readyProc r hcall
      (fun event hmem => (requests_answered hr hmem).1) haddr).mpr
        fun event hmem => (requests_answered hr hmem).2⟩
  · obtain ⟨result, hbefore, hleft⟩ := Option.map_eq_some_iff.mp loadable_before
    obtain ⟨r, rfl⟩ := Sum.isLeft_iff.mp hleft
    have hcall : loadableCall mappingPlatform none ⟨0, none, 0, 0, 0, 0⟩ readyProc = some r := by
      rw [loadableCall, remoteprocLoadNoblockAny, hbefore]
      rfl
    refine ⟨r, hcall, ((load_failures_reported mappingPlatform).2 _ _ _ _ _ _ _ r hcall).mpr ?_⟩
    intro s hs
    exact nomatch Option.some.inj (hbefore.symm.trans hs)

/-! ### Failures that return 0 -/

/-- A store that has nothing behind the ELF header, and says so. -/
def silentStore : StoreOps :=
  ⟨⟨64, some (blockMem loadableFile fun _ => 0)⟩, fun _ _ => ⟨0, none⟩, true⟩

theorem silent_result :
    (remoteprocLoadAny mappingPlatform 1 silentStore true readyProc).map (fun r => (r.ret, r.events)) =
      some (some 0, [.allocated (.loader .info), .header 56 0, .freed (.block (.loader .info))]) := by
  rfl

/-- A platform that has no region for what it maps. -/
def lostPlatform : LoadPlatform := { mappingPlatform with mmap := some fun _ _ _ => ⟨0, 0, none⟩ }

theorem lost_result :
    ((loadableCall lostPlatform none ⟨0, none, 0, 0, 0, 0⟩ readyProc).bind fun r =>
      loadableCall lostPlatform r.imgInfo r.vars r.proc).map (fun r => (r.ret, r.gaveUp)) =
      some (0, true) := by
  decide +kernel

/-- Both calls give up, release the image information and return 0. -/
theorem failed_loads_not_reported :
    (∃ r, remoteprocLoadAny mappingPlatform 1 silentStore true readyProc = some r ∧
      ¬ r.Reported mappingPlatform) ∧
      ∃ r₁ r, loadableCall lostPlatform none ⟨0, none, 0, 0, 0, 0⟩ readyProc = some r₁ ∧
        loadableCall lostPlatform r₁.imgInfo r₁.vars r₁.proc = some r ∧ ¬ r.Reported := by
  constructor
  · obtain ⟨r, hcall, hr⟩ := Option.map_eq_some_iff.mp silent_result
    obtain ⟨hret, hevents⟩ := Prod.mk.inj hr
    refine ⟨r, hcall, fun hreported => ?_⟩
    rcases hreported 0 hret with ⟨-, hcomplete⟩ | hneg
    · have hmem : .header 56 0 ∈ r.events := by
        rw [hevents]
        simp
      exact absurd (hcomplete.1 56 0 hmem) (by decide)
    · exact absurd hneg (by decide)
  · obtain ⟨r, hcalls, hr⟩ := Option.map_eq_some_iff.mp lost_result
    obtain ⟨r₁, hfirst, hsecond⟩ := Option.bind_eq_some_iff.mp hcalls
    obtain ⟨hret, hgave⟩ := Prod.mk.inj hr
    refine ⟨r₁, r, hfirst, hsecond, fun hreported => ?_⟩
    exact absurd (hreported hgave) (by rw [hret]; decide)

end OpenAmp
