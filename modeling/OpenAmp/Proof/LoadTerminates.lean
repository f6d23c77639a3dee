import OpenAmp.Proof.StoreData

/-!
# The end of the loops

With a store that serves everything, the loop of the headers ends with every image. The loop of the
data goes through the program headers by a number of 8 bits; it ends exactly when that number does not
hide the end of the headers, and then no header is copied twice.
-/

namespace OpenAmp

open ByteMemory

/-! ### The way through the program headers -/

/-- Starting from any number that satisfies `Q`, the loop is over or the number goes up, to one that is
kept in 8 bits. -/
structure Forward (segments : List Phdr) (Q : Nat → Prop) : Prop where
  found : ∀ nseg phdr rest, Q nseg → nextLoads (segments.drop nseg) = phdr :: rest → rest ≠ [] →
    ¬ phdr.Final → segments.length - rest.length < 2 ^ 8 ∧ Q (segments.length - rest.length)
  none : ∀ nseg, Q nseg → nextLoads (segments.drop nseg) = [] →
    skippedDa (segments.drop nseg) ≠ RPROC_LOAD_ANYADDR →
    segments.length < 2 ^ 8 ∧ Q segments.length

section Segments

variable {segments rest : List Phdr} {phdr : Phdr} {nseg : Nat}

/-- The segment that is found, by its index. -/
theorem getElem?_of_nextLoads (h : nextLoads (segments.drop nseg) = phdr :: rest) :
    segments[segments.length - rest.length - 1]? = some phdr := by
  have hdrop := List.suffix_iff_eq_drop.mp (suffix_of_nextLoads h)
  rw [List.length_cons, ← Nat.sub_sub] at hdrop
  rw [← List.head?_drop, ← hdrop]
  rfl

/-- The headers before it have been passed over. -/
theorem passed_of_nextLoads (h : nextLoads (segments.drop nseg) = phdr :: rest) {index : Nat}
    (hle : nseg ≤ index) (hlt : index + 1 < segments.length - rest.length) {e : Phdr}
    (he : segments[index]? = some e) : e.pType ≠ PT_LOAD := by
  obtain ⟨skipped, hsplit, hskipped⟩ := nextLoads_split h
  have hlength := congrArg List.length hsplit
  simp only [List.length_append, List.length_cons, List.length_take] at hlength
  have hfirst : (segments.take nseg).length = nseg := by
    rw [List.length_take]
    omega
  rw [hsplit, List.append_assoc, List.getElem?_append_right (by omega), hfirst,
    List.getElem?_append_left (by omega)] at he
  exact hskipped e (List.mem_of_getElem? he)

theorem mem_drop_of_getElem? {index n : Nat} (h : segments[index]? = some phdr) (hle : n ≤ index) :
    phdr ∈ segments.drop n := by
  apply List.mem_of_getElem? (i := index - n)
  rw [List.getElem?_drop, Nat.add_sub_cancel' hle, h]

theorem skippedDa_drop (h : nseg < segments.length) :
    skippedDa (segments.drop nseg) = skippedDa segments := by
  rw [skippedDa, skippedDa, List.getLast?_drop, if_neg (Nat.not_le.mpr h)]

theorem skippedDa_of_length_le (h : segments.length ≤ nseg) :
    skippedDa (segments.drop nseg) = RPROC_LOAD_ANYADDR := by
  rw [List.drop_of_length_le h]
  rfl

theorem skippedDa_eq (h : segments ≠ []) :
    skippedDa segments = RPROC_LOAD_ANYADDR ↔
      segments.getLast?.map Phdr.pVaddr = some RPROC_LOAD_ANYADDR := by
  rw [skippedDa, List.getLast?_eq_some_getLast h]
  simp

/-- A segment that is found from a number of 8 bits is not behind another one with a number from 255
on. -/
theorem drop_before (hseg : nseg < 2 ^ 8) {skipped : List Phdr}
    (hskipped : ∀ e ∈ skipped, e.pType ≠ PT_LOAD) :
    ∀ e ∈ (segments.take nseg ++ skipped).drop 255, e.pType ≠ PT_LOAD := by
  intro e hmem
  rw [List.drop_append] at hmem
  rcases List.mem_append.mp hmem with hmem | hmem
  · have hlength : (segments.take nseg).length ≤ 255 := by
      rw [List.length_take]
      omega
    rw [List.drop_of_length_le hlength] at hmem
    exact nomatch hmem
  · exact hskipped e (List.mem_of_mem_drop hmem)

/-- Where the end of the headers is hidden, no number of 8 bits comes to it. -/
theorem found_of_not_end (hend : ¬ SegmentsEnd segments) (hseg : nseg < 2 ^ 8)
    (h : nextLoads (segments.drop nseg) = phdr :: rest) : rest ≠ [] ∧ ¬ phdr.Final := by
  obtain ⟨skipped, hsplit, hskipped⟩ := nextLoads_split h
  rw [← not_or]
  intro hlast
  exact hend (.inr (.inl ⟨_, phdr, rest, hsplit, pType_of_nextLoads h, hlast,
    drop_before hseg hskipped⟩))

theorem skipped_of_not_end (hend : ¬ SegmentsEnd segments) (hseg : nseg < 2 ^ 8)
    (h : nextLoads (segments.drop nseg) = []) :
    skippedDa (segments.drop nseg) ≠ RPROC_LOAD_ANYADDR := by
  have hmany : 255 < segments.length := Nat.not_le.mp fun hle => hend (.inl hle)
  have hne : segments ≠ [] := by
    rintro rfl
    exact nomatch hmany
  rw [skippedDa_drop (by omega)]
  intro haddr
  refine hend (.inr (.inr ⟨?_, (skippedDa_eq hne).mp haddr⟩))
  intro e hmem
  have hdrop : segments.drop 255 = (segments.drop nseg).drop (255 - nseg) := by
    rw [List.drop_drop]
    congr 1
    omega
  rw [hdrop] at hmem
  exact nextLoads_eq_nil.mp h e (List.mem_of_mem_drop hmem)

theorem forward_of_short (h : segments.length ≤ 255) : Forward segments fun _ => True where
  found _ _ _ _ _ _ _ := ⟨by omega, trivial⟩
  none _ _ _ _ := ⟨by omega, trivial⟩

/-- Segments before one that ends the loop. -/
theorem forward_of_ender {before : List Phdr} (hload : phdr.pType = PT_LOAD)
    (hend : rest = [] ∨ phdr.Final) (hbefore : ∀ e ∈ before.drop 255, e.pType ≠ PT_LOAD) :
    Forward (before ++ phdr :: rest) fun nseg => nseg ≤ before.length where
  found nseg phdr' rest' hle hnext hne hfinal := by
    have hlt := length_of_nextLoads hnext
    have hfound := getElem?_of_nextLoads hnext
    have hender : (before ++ phdr :: rest)[before.length]? = some phdr := by simp
    generalize hindex : (before ++ phdr :: rest).length - rest'.length = index at hlt hfound ⊢
    rcases Nat.lt_trichotomy before.length (index - 1) with hbehind | hlast | hearly
    · exact absurd hload (passed_of_nextLoads hnext hle (by omega) hender)
    · -- the segment that is found is the one that ends the loop
      exfalso
      rw [← hlast, hender] at hfound
      obtain rfl := Option.some.inj hfound
      have hrest := drop_length_of_nextLoads hnext
      have hnumber : index = before.length + 1 := by omega
      rw [hindex, hnumber, List.drop_append, List.drop_of_length_le (Nat.le_succ _), List.nil_append,
        Nat.add_sub_cancel_left, List.drop_succ_cons, List.drop_zero] at hrest
      rw [hrest] at hend
      exact hend.elim hne hfinal
    · refine ⟨?_, by omega⟩
      by_contra hmany
      rw [List.getElem?_append_left hearly] at hfound
      exact hbefore phdr' (mem_drop_of_getElem? hfound (by omega)) (pType_of_nextLoads hnext)
  none nseg hle hnext haddr := by
    exfalso
    have hmem : phdr ∈ (before ++ phdr :: rest).drop nseg := by
      rw [List.drop_append_of_le_length hle]
      exact List.mem_append_right _ List.mem_cons_self
    exact nextLoads_eq_nil.mp hnext phdr hmem hload

theorem forward_of_skipped (hnone : ∀ e ∈ segments.drop 255, e.pType ≠ PT_LOAD)
    (haddr : segments.getLast?.map Phdr.pVaddr = some RPROC_LOAD_ANYADDR) :
    Forward segments fun _ => True where
  found nseg phdr rest _ hnext _ _ := by
    refine ⟨?_, trivial⟩
    by_contra hge
    have hmem : phdr ∈ segments.drop 255 :=
      mem_drop_of_getElem? (getElem?_of_nextLoads hnext) (by omega)
    exact hnone phdr hmem (pType_of_nextLoads hnext)
  none nseg _ hnext hskipped := by
    exfalso
    have hne : segments ≠ [] := by
      rintro rfl
      exact nomatch haddr
    by_cases hlt : nseg < segments.length
    · rw [skippedDa_drop hlt] at hskipped
      exact hskipped ((skippedDa_eq hne).mpr haddr)
    · exact hskipped (skippedDa_of_length_le (Nat.not_lt.mp hlt))

theorem SegmentsEnd.forward (h : SegmentsEnd segments) : ∃ Q, Q 0 ∧ Forward segments Q := by
  rcases h with hshort | ⟨before, phdr, rest, rfl, hload, hend, hbefore⟩ | ⟨hnone, haddr⟩
  · exact ⟨_, trivial, forward_of_short hshort⟩
  · exact ⟨fun nseg => nseg ≤ before.length, Nat.zero_le _, forward_of_ender hload hend hbefore⟩
  · exact ⟨_, trivial, forward_of_skipped hnone haddr⟩

/-- The segment that is found stands behind the headers up to the number. -/
theorem sublist_take_of_nextLoads (h : nextLoads (segments.drop nseg) = phdr :: rest) :
    (segments.take nseg ++ [phdr]).Sublist (segments.take (segments.length - rest.length)) := by
  obtain ⟨skipped, htake, -⟩ := take_of_nextLoads h
  rw [htake]
  exact (List.sublist_append_left _ skipped).append (List.Sublist.refl [phdr])

end Segments

/-! ### The transfers -/

/-- The transfers are to some of these segments, in order. -/
def Moved (events : List LoadEvent) (segments : List Phdr) : Prop :=
  (events.filterMap LoadEvent.transferred).Sublist (segments.map Phdr.transferred)

section Moved

variable {segments segments' : List Phdr} {events more : List LoadEvent}

theorem Moved.mono (h : Moved events segments) (hsub : segments.Sublist segments') :
    Moved events segments' :=
  h.trans (hsub.map Phdr.transferred)

theorem transferred_of_quiet (hquiet : ∀ event ∈ more, event.Quiet) :
    more.filterMap LoadEvent.transferred = [] := by
  rw [List.filterMap_eq_nil_iff]
  intro event hmem
  have hevent := hquiet event hmem
  cases event with
  | transfer mapped offset size ret => exact hevent.elim
  | _ => rfl

theorem Moved.append (h : Moved events segments) (hmore : Moved more segments') :
    Moved (events ++ more) (segments ++ segments') := by
  unfold Moved
  rw [List.filterMap_append, List.map_append]
  exact List.Sublist.append h hmore

theorem Moved.quiet (h : Moved events segments) (hquiet : ∀ event ∈ more, event.Quiet) :
    Moved (events ++ more) segments := by
  unfold Moved
  rw [List.filterMap_append, transferred_of_quiet hquiet, List.append_nil]
  exact h

theorem Moved.quietly {s s' : StoreData} (h : Moved s.events segments) (hquiet : s.Quietly s') :
    Moved s'.events segments := by
  obtain ⟨more, hevents, hall⟩ := hquiet
  rw [hevents]
  exact h.quiet hall

theorem moved_copyEvents {io : IoRegion} {mapped : Mapped} {phdr : Phdr}
    (hmapped : mapped.da = phdr.pVaddr) (hquiet : ∀ event ∈ more, event.Quiet) (ret : Int) :
    Moved (more ++ copyEvents io mapped phdr.vars ret) [phdr] := by
  unfold Moved copyEvents
  rw [List.filterMap_append, transferred_of_quiet hquiet, List.nil_append, List.filterMap_append]
  have hpadded : (if phdr.vars.nlen < phdr.vars.nmemsize then
      [LoadEvent.padded mapped io (io.physToOffset (u64 (mapped.pa + phdr.vars.nlen)))
        (toInt32 (phdr.vars.nmemsize - phdr.vars.nlen : Nat))] else []).filterMap
          LoadEvent.transferred = [] := by
    split_ifs <;> rfl
  rw [hpadded, List.append_nil]
  split_ifs
  · have htransferred : (mapped.da, phdr.vars.noffset, phdr.vars.nlen) = phdr.transferred := by
      rw [hmapped]
      rfl
    simp only [List.filterMap_cons, LoadEvent.transferred, htransferred, List.filterMap_nil,
      List.map_cons, List.map_nil, List.Sublist.refl]
  · exact List.nil_sublist _

theorem HeaderEvents.transferred (h : HeaderEvents events) :
    events.filterMap LoadEvent.transferred = [] := by
  rw [List.filterMap_eq_nil_iff]
  intro event hmem
  rcases h event hmem with ⟨block, rfl⟩ | ⟨size, ret, rfl, -⟩ <;> rfl

end Moved

/-! ### The loop of the data -/

/-- Where the loop stands, with a rank that every round brings down: it loads segments, it has come to
the headers that are left, or it has been given the table that it asked for. -/
inductive DataRank (plat : LoadPlatform) (segments : List Phdr) (Q : Nat → Prop) :
    Nat → StoreData → Prop where
  | ready {rank nseg : Nat} {s : StoreData} {info : ElfInfo} {phase : HeaderPhase}
      (hat : s.At plat segments info .ready phase nseg) (hnumber : Q nseg)
      (hmoved : Moved s.events (segments.take nseg)) (hrank : rank = 10 + (segments.length - nseg)) :
      DataRank plat segments Q rank s
  | post {rank nseg : Nat} {s : StoreData} {info : ElfInfo} {phase : HeaderPhase}
      (hat : s.At plat segments info .postData phase nseg) (hmoved : Moved s.events segments)
      (hrank : rank = 9) : DataRank plat segments Q rank s
  | asked {rank nseg : Nat} {s : StoreData} {info : ElfInfo} {phase : HeaderPhase}
      (hat : s.At plat segments info .postData phase nseg)
      (hdue : info.due (plat.behind .shdrs) phase = some (s.offset, s.len))
      (hmoved : Moved s.events segments) (hrank : rank = 5 - phase.rank) :
      DataRank plat segments Q rank s

section Loop

variable {plat : LoadPlatform} {store : StoreOps} {segments : List Phdr} {Q : Nat → Prop}
  {s s' : StoreData} {info : ElfInfo} {phase : HeaderPhase} {nseg rank : Nat}

/-- A round that goes on comes down, and one that ends the loop has moved the segments in order. -/
def DataRank.Next (plat : LoadPlatform) (segments : List Phdr) (Q : Nat → Prop) (rank : Nat) :
    StoreData ⊕ (StoreData × LoopExit) → Prop
  | .inl s => ∃ rank' < rank, DataRank plat segments Q rank' s
  | .inr (s, _) => Moved s.events segments

/-- A segment has been found and is behind the loop. -/
theorem DataRank.found {phdr : Phdr} {rest : List Phdr} (hforward : Forward segments Q)
    (hnumber : Q nseg) (hnext : nextLoads (segments.drop nseg) = phdr :: rest) (hfinal : ¬ phdr.Final)
    (hat : s'.At plat segments info (if rest = [] then .postData else .ready) phase
      ((segments.length - rest.length) % 2 ^ 8))
    (hmoved : Moved s'.events (segments.take (segments.length - rest.length))) :
    DataRank.Next plat segments Q (10 + (segments.length - nseg)) (.inl s') := by
  have hlt := length_of_nextLoads hnext
  by_cases hrest : rest = []
  · rw [if_pos hrest] at hat
    exact ⟨9, by omega, .post hat (hmoved.mono (List.take_sublist _ _)) rfl⟩
  · obtain ⟨hsmall, hnumber'⟩ := hforward.found nseg phdr rest hnumber hnext hrest hfinal
    rw [if_neg hrest, Nat.mod_eq_of_lt hsmall] at hat
    exact ⟨_, by omega, .ready hat hnumber' hmoved rfl⟩

theorem DataRank.next_ready (hserves : ServesAll plat store) (hforward : Forward segments Q)
    (hat : s.At plat segments info .ready phase nseg) (hnumber : Q nseg)
    (hmoved : Moved s.events (segments.take nseg)) :
    DataRank.Next plat segments Q (10 + (segments.length - nseg)) (s.body plat store) := by
  have hround := data_round store hat
  generalize s.body plat store = result at hround
  have hall : Moved s.events segments := hmoved.mono (List.take_sublist _ _)
  cases hround with
  | stuck => exact hall
  | failed hpost hstatus hquiet => exact hall.quietly hquiet
  | refused hrefused => exact absurd hserves hrefused
  | shortAnywhere hshort => exact absurd hserves hshort
  | copied hready hnext haddr hat' hmapped hquiet hevents =>
      refine DataRank.found hforward hnumber hnext (fun hfinal => haddr hfinal.1) hat' ?_
      rw [hevents]
      exact (hmoved.append (moved_copyEvents hmapped hquiet _)).mono (sublist_take_of_nextLoads hnext)
  | anywhere hready hnext haddr hlen hat' hquiet =>
      refine DataRank.found hforward hnumber hnext (fun hfinal => hlen hfinal.2) hat' ?_
      exact (hmoved.quietly hquiet).mono
        ((List.sublist_append_left _ _).trans (sublist_take_of_nextLoads hnext))
  | skipped hready hnext haddr hat' hquiet =>
      have hlt : nseg < segments.length :=
        Nat.lt_of_not_le fun hle => haddr (skippedDa_of_length_le hle)
      obtain ⟨hsmall, hnumber'⟩ := hforward.none nseg hnumber hnext haddr
      rw [if_pos hlt, Nat.mod_eq_of_lt hsmall] at hat'
      refine ⟨_, ?_, .ready hat' hnumber' ?_ rfl⟩
      · omega
      · rw [List.take_length]
        exact hall.quietly hquiet
  | asks hpost => exact nomatch hpost
  | final hready hnext hfinal hinfo hsegments hquiet => exact hall.quietly hquiet
  | left hready hnext haddr hinfo hsegments hquiet => exact hall.quietly hquiet
  | finished hready hinfo hsegments hquiet => exact hall.quietly hquiet

/-- The loader asks for a table, and not for the one at hand. -/
theorem DataRank.next_post (hserves : ServesAll plat store)
    (hat : s.At plat segments info .postData phase nseg) (hmoved : Moved s.events segments)
    (hrank : rank = 9 ∨
      rank = 5 - phase.rank ∧ info.due (plat.behind .shdrs) phase = some (s.offset, s.len)) :
    DataRank.Next plat segments Q rank (s.body plat store) := by
  have hround := data_round store hat
  generalize s.body plat store = result at hround
  cases hround with
  | stuck => exact hmoved
  | failed hpost hstatus hquiet => exact hmoved.quietly hquiet
  | refused hrefused => exact absurd hserves hrefused
  | shortAnywhere hshort => exact absurd hserves hshort
  | copied hready => exact nomatch hready
  | anywhere hready => exact nomatch hready
  | skipped hready => exact nomatch hready
  | @asks s' info' phase' hpost hat' hle hsame hdue hwaits hquiet =>
      refine ⟨_, ?_, .asked hat' hdue (hmoved.quietly hquiet) rfl⟩
      have hbounds := phase.rank_bounds
      have hbounds' := phase'.rank_bounds
      rcases hrank with rfl | ⟨rfl, hasked⟩
      · omega
      · have hsame' : phase'.rank = phase.rank → info' = info :=
          fun heq => Option.some.inj ((hsame heq).symm.trans hat.imgInfo)
        have hlt := rank_lt_of_waits hle hsame' hasked hdue hwaits
        omega
  | final hready => exact nomatch hready
  | left hready => exact nomatch hready
  | finished hready hinfo hsegments hquiet => exact hmoved.quietly hquiet

theorem DataRank.next (hserves : ServesAll plat store) (hforward : Forward segments Q)
    (h : DataRank plat segments Q rank s) :
    DataRank.Next plat segments Q rank (s.body plat store) := by
  cases h with
  | ready hat hnumber hmoved hrank =>
      subst hrank
      exact DataRank.next_ready hserves hforward hat hnumber hmoved
  | post hat hmoved hrank => exact DataRank.next_post hserves hat hmoved (.inl hrank)
  | asked hat hdue hmoved hrank => exact DataRank.next_post hserves hat hmoved (.inr ⟨hrank, hdue⟩)

end Loop

/-! ### Both loops -/

section Load

variable {plat : LoadPlatform} {store : StoreOps} {headers : StoreHeaders}

theorem moved_start (h : headers.Ready plat store) :
    Moved (StoreData.start plat store headers).events [] := by
  obtain ⟨info, phase, -, hevents⟩ := h.start_at
  unfold Moved StoreData.start
  rw [List.filterMap_append, hevents.transferred, transferred_of_quiet (quiet_locateAndGetRscTable _ _)]
  exact List.Sublist.refl _

theorem dataLoopEnds_of_segmentsEnd (hserves : ServesAll plat store) (h : headers.Ready plat store)
    (hend : SegmentsEnd (headers.segments plat)) : DataLoopEnds plat store headers := by
  obtain ⟨info, phase, hat, -⟩ := h.start_at
  obtain ⟨Q, hfirst, hforward⟩ := hend.forward
  have hstart := DataRank.ready hat hfirst (moved_start h) rfl
  have hround : ∀ rank s, DataRank plat (headers.segments plat) Q rank s →
      DataRank.Next plat (headers.segments plat) Q rank (s.body plat store) :=
    fun rank s hrank => hrank.next hserves hforward
  have hall : ∃ r, Loop.Returns (StoreData.body plat store) (.start plat store headers) r := by
    refine Loop.returns_of_rank (P := DataRank plat (headers.segments plat) Q) ?_ hstart
    intro rank s s' hrank hbody
    have hnext := hround rank s hrank
    rwa [hbody] at hnext
  obtain ⟨⟨data, exit⟩, hreturns⟩ := hall
  refine ⟨data, exit, hreturns, ?_⟩
  have hinvariant : ∀ s s', (∃ rank, DataRank plat (headers.segments plat) Q rank s) →
      s.body plat store = .inl s' → ∃ rank, DataRank plat (headers.segments plat) Q rank s' := by
    rintro s s' ⟨rank, hrank⟩ hbody
    have hnext := hround rank s hrank
    rw [hbody] at hnext
    obtain ⟨rank', -, hrank'⟩ := hnext
    exact ⟨rank', hrank'⟩
  obtain ⟨s, ⟨rank, hrank⟩, hbody⟩ := hreturns.invariant ⟨_, hstart⟩ hinvariant
  have hlast := hround rank s hrank
  rwa [hbody] at hlast

/-- Where the end is hidden, every round finds a segment or passes over headers, and goes on. -/
theorem round_of_not_end {segments : List Phdr} {s : StoreData} {info : ElfInfo} {phase : HeaderPhase}
    {nseg : Nat} (hserves : ServesAll plat store) (hend : ¬ SegmentsEnd segments)
    (hat : s.At plat segments info .ready phase nseg) :
    ∃ s' info' nseg', s.body plat store = .inl s' ∧ s'.At plat segments info' .ready phase nseg' := by
  have hround := data_round store hat
  have hseg := hat.loads.at_stage.seg
  generalize s.body plat store = result at hround
  cases hround with
  | stuck hpost => exact nomatch hpost
  | failed hpost => exact nomatch hpost
  | refused hrefused => exact absurd hserves hrefused
  | shortAnywhere hshort => exact absurd hserves hshort
  | @copied s' _ _ _ _ _ _ hready hnext haddr hat' =>
      rw [if_neg (found_of_not_end hend hseg hnext).1] at hat'
      exact ⟨s', _, _, rfl, hat'⟩
  | @anywhere s' _ _ _ hready hnext haddr hlen hat' =>
      rw [if_neg (found_of_not_end hend hseg hnext).1] at hat'
      exact ⟨s', _, _, rfl, hat'⟩
  | @skipped s' _ hready hnext haddr hat' => exact ⟨s', _, _, rfl, hat'⟩
  | asks hpost => exact nomatch hpost
  | final hready hnext hfinal => exact absurd hfinal (found_of_not_end hend hseg hnext).2
  | left hready hnext haddr => exact absurd haddr (skipped_of_not_end hend hseg hnext)
  | finished hready => exact absurd rfl hready

theorem segmentsEnd_of_dataLoopEnds (hserves : ServesAll plat store) (h : headers.Ready plat store)
    (hends : DataLoopEnds plat store headers) : SegmentsEnd (headers.segments plat) := by
  by_contra hend
  obtain ⟨data, exit, hreturns, -⟩ := hends
  obtain ⟨info, phase, hat, -⟩ := h.start_at
  have hround : ∀ s s' : StoreData,
      (∃ info nseg, s.At plat (headers.segments plat) info .ready phase nseg) →
      s.body plat store = .inl s' →
      ∃ info nseg, s'.At plat (headers.segments plat) info .ready phase nseg := by
    rintro s s' ⟨info', nseg, hat'⟩ hbody
    obtain ⟨next, info'', nseg', hnext, hat''⟩ := round_of_not_end hserves hend hat'
    obtain rfl := Sum.inl.inj (hbody.symm.trans hnext)
    exact ⟨info'', nseg', hat''⟩
  obtain ⟨s, ⟨info', nseg, hat'⟩, hbody⟩ := hreturns.invariant ⟨info, 0, hat⟩ hround
  obtain ⟨next, _, _, hnext, -⟩ := round_of_not_end hserves hend hat'
  exact nomatch hbody.symm.trans hnext

/-- The loops of a load end exactly if the 8 bits of the segment number do not hide the end of the
program headers. -/
theorem load_ends_iff (hserves : ServesAll plat store) :
    LoadEnds plat store ↔
      ∀ headers : StoreHeaders, headers.Ready plat store → SegmentsEnd (headers.segments plat) := by
  constructor
  · rintro ⟨-, hdata⟩ headers hready
    exact segmentsEnd_of_dataLoopEnds hserves hready (hdata headers hready)
  · intro hend
    refine ⟨headers_return, fun headers hready => ?_⟩
    exact dataLoopEnds_of_segmentsEnd hserves hready (hend headers hready)

end Load

/-! ### A file that is loaded -/

theorem servesAll_serving (file : Nat → UInt8) (len : Nat) :
    ServesAll mappingPlatform (servingStore file len) where
  load calls request := by rw [servingStore]
  map da size io haddr := by
    have hmap : remoteprocMmapAny mappingPlatform da size io = ⟨0, 0, some ⟨0, 2 ^ 64, id⟩⟩ := by
      unfold remoteprocMmapAny mappingPlatform
      split_ifs <;> rfl
    rw [hmap]
    exact ⟨by decide, Option.some_ne_none _⟩

def sectionStore : StoreOps := servingStore (blockMem sectionFile fun _ => 0) 145

def sectionHeaders : StoreHeaders :=
  ⟨⟨some (blockMem sectionFile fun _ => 0), 0, 145, some sectionFileInfo,
    ELF_STATE_HDRS_COMPLETE ||| RPROC_LOADER_READY_TO_LOAD, 0, 0⟩, 0,
    elfAllocated none (some sectionFileInfo)⟩

theorem sectionHeaders_ready : sectionHeaders.Ready mappingPlatform sectionStore :=
  Loop.Returns.of_inr rfl

theorem section_load_ends : LoadEnds mappingPlatform sectionStore := by
  refine (load_ends_iff (servesAll_serving _ _)).mpr fun headers hready => .inl ?_
  obtain ⟨rfl, -⟩ := Prod.mk.inj (hready.unique sectionHeaders_ready)
  decide +kernel

/-! ### A file with too many segments -/

/-- An ELF64 header with 257 program headers behind it. -/
def loopingHeader : List UInt8 :=
  [127, 69, 76, 70, 2, 0, 0, 0, 0, 0, 0, 0, 0, 0, 0, 0, 0, 0, 0, 0, 0, 0, 0, 0, 0, 0, 0, 0, 0,
   0, 0, 0, 64, 0, 0, 0, 0, 0, 0, 0, 0, 0, 0, 0, 0, 0, 0, 0, 0, 0, 0, 0, 0, 0, 56, 0, 1, 1, 0, 0,
   0, 0, 0, 0]

/-- Each of the program headers is a segment with no bytes, at device address 0. -/
def loopingFile (i : Nat) : UInt8 :=
  if i < 64 then loopingHeader.getD i 0 else if (i - 64) % 56 = 0 then 1 else 0

def loopingStore : StoreOps := servingStore loopingFile 14456

def loopingInfo : ElfInfo :=
  ⟨readBytes loopingFile 0 64, ELF_STATE_HDRS_COMPLETE ||| RPROC_LOADER_READY_TO_LOAD,
    some (readBytes loopingFile 64 (257 * 56)), none, none⟩

def loopingHeaders : StoreHeaders :=
  ⟨⟨some loopingFile, 0, 14456, some loopingInfo,
    ELF_STATE_HDRS_COMPLETE ||| RPROC_LOADER_READY_TO_LOAD, 0, 0⟩, 0,
    elfAllocated none (some loopingInfo)⟩

theorem loopingHeaders_ready : loopingHeaders.Ready mappingPlatform loopingStore :=
  Loop.Returns.of_inr rfl

theorem loopingFile_segment {index : Nat} (h : index < 257) :
    readBytes (blockMem (readBytes loopingFile 64 (257 * 56)) fun _ => 0) (index * 56) 56 =
      1 :: List.replicate 55 0 := by
  have hpart : readBytes loopingFile (64 + index * 56) 56 = 1 :: List.replicate 55 0 := by
    have hperiod : readBytes loopingFile (64 + index * 56) 56 = readBytes loopingFile 64 56 := by
      refine List.ext_getElem (by simp) fun i hi _ => ?_
      rw [length_readBytes] at hi
      have hmod : (64 + index * 56 + i - 64) % 56 = (64 + i - 64) % 56 := by omega
      have hle : ¬ 64 + index * 56 + i < 64 := by omega
      have hle' : ¬ 64 + i < 64 := by omega
      simp only [readBytes, List.getElem_map, List.getElem_range, loopingFile, hmod, hle, hle',
        if_false]
    rw [hperiod]
    decide +kernel
  have hle : index * 56 + 56 ≤ (readBytes loopingFile 64 (257 * 56)).length := by
    rw [length_readBytes]
    omega
  have hinside : index * 56 + 56 ≤ 257 * 56 := by omega
  rw [readBytes_blockMem hle, ← readBytes_part loopingFile 64 hinside, hpart]

theorem loopingHeaders_segments :
    loopingHeaders.segments mappingPlatform = List.replicate 257 ⟨PT_LOAD, 0, 0, 0, 0⟩ := by
  have hnum : elfPhnum loopingInfo.ehdr = 257 := by decide +kernel
  have his64 : loopingInfo.is64 = true := by decide +kernel
  have hsegments : loopingHeaders.segments mappingPlatform = (List.range 257).map fun index =>
      elfParseSegment true (readBytes (blockMem (readBytes loopingFile 64 (257 * 56)) fun _ => 0)
        (index * 56) 56) := by
    rw [← hnum, ← his64]
    rfl
  rw [hsegments, List.eq_replicate_iff]
  refine ⟨by rw [List.length_map, List.length_range], fun phdr hmem => ?_⟩
  obtain ⟨index, hindex, rfl⟩ := List.mem_map.mp hmem
  rw [loopingFile_segment (List.mem_range.mp hindex)]
  decide +kernel

theorem not_segmentsEnd_looping :
    ¬ SegmentsEnd (List.replicate 257 ⟨PT_LOAD, 0, 0, 0, 0⟩) := by
  have hload {segments : List Phdr} (hsub : segments.Sublist
      (List.replicate 257 ⟨PT_LOAD, 0, 0, 0, 0⟩)) : ∀ e ∈ segments, e = ⟨PT_LOAD, 0, 0, 0, 0⟩ :=
    fun e hmem => List.eq_of_mem_replicate (hsub.subset hmem)
  rintro (hshort | ⟨before, phdr, rest, hsplit, -, hend, hbefore⟩ | ⟨hnone, -⟩)
  · rw [List.length_replicate] at hshort
    omega
  · have hlength := congrArg List.length hsplit
    rw [List.length_replicate, List.length_append, List.length_cons] at hlength
    have hphdr := List.eq_of_mem_replicate (hsplit ▸ List.mem_append_right before List.mem_cons_self)
    rcases hend with rfl | hfinal
    · rw [List.length_nil] at hlength
      have hmem : before[255] ∈ before.drop 255 :=
        mem_drop_of_getElem? (List.getElem?_eq_getElem (by omega)) (Nat.le_refl _)
      have hbefore255 := List.eq_of_mem_replicate
        (hsplit ▸ List.mem_append_left _ (List.mem_of_mem_drop hmem))
      exact hbefore _ hmem (by rw [hbefore255])
    · rw [hphdr] at hfinal
      exact nomatch hfinal.1
  · rw [List.drop_replicate] at hnone
    exact hnone ⟨PT_LOAD, 0, 0, 0, 0⟩ (List.mem_replicate.mpr ⟨by decide, rfl⟩) rfl

/-- After 256 segments the loop is at the first one again. -/
theorem looping_load_not_ends :
    ServesAll mappingPlatform loopingStore ∧ ¬ LoadEnds mappingPlatform loopingStore := by
  have hserves := servesAll_serving loopingFile 14456
  refine ⟨hserves, fun hends => not_segmentsEnd_looping ?_⟩
  rw [← loopingHeaders_segments]
  exact segmentsEnd_of_dataLoopEnds hserves loopingHeaders_ready
    (hends.2 loopingHeaders loopingHeaders_ready)

end OpenAmp
