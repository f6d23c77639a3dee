import OpenAmp.ElfPointers
import OpenAmp.Library.FixedString
import OpenAmp.Proof.ChannelIsolation

/-!
# Names of services on their way

From the name that `rpmsg_create_ept` gets on one side to the one that the application gets on the
other, and back to an endpoint. Every comparison on the way looks at the whole of the array, so names
match however long they are. The array has no room for the zero of a name that fills it.
-/

namespace OpenAmp

/-- The application of the peer gets a string, the name as far as the array has room for it. An endpoint
that it creates with this string, where nothing else answers to it, is the one that another
announcement finds, bound to the address or not bound. -/
structure NameSurvives (name : CString) (bound : List UInt8) (addr : UInt32) : Prop where
  string : FixedString.Holds bound (name.1.take (RPMSG_NAME_SIZE - 1))
  found : ∀ (rdev : Rdev) (ref : EptRef) (src dest : UInt32) (unbindCb : Bool) (ret : Int),
    rpmsgGetEndpoint rdev (some bound) RPMSG_ADDR_ANY addr = none → ref ∉ rdev.endpoints →
    (rpmsgCreateEpt rdev (some ref) (some bound) src dest unbindCb ret).2.1 = RPMSG_SUCCESS →
    ∀ destAddr, destAddr = addr ∨ destAddr = RPMSG_ADDR_ANY →
      rpmsgGetEndpoint ((rpmsgCreateEpt rdev (some ref) (some bound) src dest unbindCb
        ret).1.setDestAddr ref destAddr) (some bound) RPMSG_ADDR_ANY addr = some ref

variable {rdev rdev' peer : Rdev} {ref ept : EptRef} {name : CString} {bound : List UInt8}
  {src dest addr : UInt32} {unbindCb : Bool} {ret status : Int} {msg : RpmsgNsMsg}

theorem nameChars_string (name : CString) : nameChars (name.1 ++ [0]) = name.1.take RPMSG_NAME_SIZE :=
  FixedString.chars_of_holds ⟨name.2, [], rfl⟩

theorem strncpy_congr {bytes bytes' : List UInt8} (h : nameChars bytes = nameChars bytes') :
    strncpy bytes = strncpy bytes' := by
  unfold strncpy
  rw [h]

theorem announced_name
    (hcreate : rpmsgCreateEpt rdev (some ref) (some bound) src dest unbindCb ret =
      (rdev', status, some msg)) : msg.name = strncpy bound := by
  cases hclaim : rpmsgClaimAddress rdev.bitmap src with
  | error status =>
      simp only [rpmsgCreateEpt, hclaim, Prod.mk.injEq, reduceCtorEq, and_false] at hcreate
  | ok claim =>
      obtain ⟨bitmap, addr⟩ := claim
      simp only [rpmsgCreateEpt, hclaim, Rdev.register_eq, Rdev.setEpt_self, rpmsgSendNsMessage] at hcreate
      have hname : strncpy (strncpy bound) = strncpy bound := strncpy_congr (nameChars_strncpy bound)
      have hmsg := congrArg (fun out : Rdev × Int × Option RpmsgNsMsg => out.2.2) hcreate
      dsimp only at hmsg
      split_ifs at hmsg <;> simp only [Option.some.injEq] at hmsg
      all_goals
        rw [← hmsg]
        exact hname

/-- The application gets the array of the announcement. -/
theorem bound_name (hname : msg.name.length = RPMSG_NAME_SIZE)
    (hbind : (rpmsgVirtioNsCallback peer ept msg.bytes).2 = some (.nsBind bound addr)) :
    bound = msg.name := by
  unfold rpmsgVirtioNsCallback at hbind
  rw [if_neg (not_not_intro (RpmsgNsMsg.length_bytes hname)), RpmsgNsMsg.ofBytes_bytes hname] at hbind
  dsimp only at hbind
  cases hfound : rpmsgGetEndpoint peer (some msg.name) RPMSG_ADDR_ANY msg.addr with
  | none =>
      rw [hfound] at hbind
      dsimp only at hbind
      split_ifs at hbind
      exact (AppCall.nsBind.inj (Option.some.inj hbind)).1.symm
  | some found =>
      rw [hfound] at hbind
      dsimp only at hbind
      split_ifs at hbind
      exact nomatch Option.some.inj hbind

theorem claimAddress_error {bitmap : Nat → Bool} (h : rpmsgClaimAddress bitmap src = .error status) :
    status ≠ RPMSG_SUCCESS := by
  unfold rpmsgClaimAddress at h
  by_cases hany : src = RPMSG_ADDR_ANY
  · rw [if_pos hany] at h
    dsimp only at h
    split_ifs at h
    rw [← Except.error.inj h]
    decide
  · rw [if_neg hany] at h
    split_ifs at h with hreserved
    dsimp only at h
    split_ifs at h with hclear hset
    · rw [← Except.error.inj h]
      decide
    · rw [← Except.error.inj h]
      exact hclear

/-- An endpoint whose creation succeeds is registered. -/
theorem createEpt_success
    (hstatus : (rpmsgCreateEpt rdev (some ref) (some bound) src dest unbindCb ret).2.1 = RPMSG_SUCCESS) :
    (rpmsgCreateEpt rdev (some ref) (some bound) src dest unbindCb ret).1.endpoints =
        rdev.endpoints ++ [ref] ∧
      ∃ claimed, (rpmsgCreateEpt rdev (some ref) (some bound) src dest unbindCb ret).1.ept ref =
        ⟨strncpy bound, true, claimed, dest, .user, unbindCb⟩ := by
  cases hclaim : rpmsgClaimAddress rdev.bitmap src with
  | error status =>
      simp only [rpmsgCreateEpt, hclaim] at hstatus
      exact absurd hstatus (claimAddress_error hclaim)
  | ok claim =>
      obtain ⟨bitmap, claimed⟩ := claim
      simp only [rpmsgCreateEpt, hclaim, Rdev.register_eq] at hstatus ⊢
      split_ifs at hstatus ⊢ with hnamed hfailed
      · exact absurd hstatus hfailed
      · exact ⟨rfl, claimed, Rdev.setEpt_self _⟩
      · exact ⟨rfl, claimed, Rdev.setEpt_self _⟩

/-- What `rpmsg_get_endpoint` asks of one endpoint. -/
def Rdev.answers (rdev : Rdev) (name : List UInt8) (destAddr : UInt32) (ref : EptRef) : Bool :=
  (RPMSG_ADDR_ANY = (rdev.ept ref).addr && destAddr = (rdev.ept ref).destAddr) ||
    (nameChars (rdev.ept ref).name = nameChars name &&
      ((destAddr ≠ RPMSG_ADDR_ANY && (rdev.ept ref).destAddr = destAddr) ||
        (rdev.ept ref).destAddr = RPMSG_ADDR_ANY))

theorem getEndpoint_eq (rdev : Rdev) (name : List UInt8) (destAddr : UInt32) :
    rpmsgGetEndpoint rdev (some name) RPMSG_ADDR_ANY destAddr =
      rdev.endpoints.find? (rdev.answers name destAddr) := by
  unfold rpmsgGetEndpoint
  refine List.find?_congr fun ref _ => ?_
  simp [Rdev.answers]

theorem getEndpoint_created (hnone : rpmsgGetEndpoint rdev (some bound) RPMSG_ADDR_ANY addr = none)
    (hnew : ref ∉ rdev.endpoints)
    (hstatus : (rpmsgCreateEpt rdev (some ref) (some bound) src dest unbindCb ret).2.1 = RPMSG_SUCCESS)
    {destAddr : UInt32} (hdest : destAddr = addr ∨ destAddr = RPMSG_ADDR_ANY) :
    rpmsgGetEndpoint ((rpmsgCreateEpt rdev (some ref) (some bound) src dest unbindCb
      ret).1.setDestAddr ref destAddr) (some bound) RPMSG_ADDR_ANY addr = some ref := by
  have hothers (other : EptRef) (hne : other ≠ ref) :
      (rpmsgCreateEpt rdev (some ref) (some bound) src dest unbindCb ret).1.ept other =
        rdev.ept other := rpmsgCreateEpt_of_ne hne
  obtain ⟨hendpoints, claimed, hept⟩ := createEpt_success hstatus
  generalize (rpmsgCreateEpt rdev (some ref) (some bound) src dest unbindCb ret).1 = created at *
  rw [getEndpoint_eq, List.find?_eq_none] at hnone
  have hold : ∀ other ∈ rdev.endpoints,
      ¬ (created.setDestAddr ref destAddr).answers bound addr other = true := by
    intro other hmem
    have hne : other ≠ ref := fun h => hnew (h ▸ hmem)
    have hanswers := hnone other hmem
    unfold Rdev.answers at hanswers ⊢
    rwa [Rdev.ept_setDestAddr, if_neg hne, hothers other hne]
  have hanswers : (created.setDestAddr ref destAddr).answers bound addr ref = true := by
    unfold Rdev.answers
    rw [Rdev.ept_setDestAddr, if_pos rfl, hept, nameChars_strncpy]
    grind
  rw [getEndpoint_eq]
  change (created.endpoints.find? _) = _
  rw [hendpoints, List.find?_append, List.find?_eq_none.mpr hold, Option.none_or,
    List.find?_singleton, if_pos hanswers]

theorem holds_strncpy_iff (name : CString) :
    FixedString.Holds (strncpy (name.1 ++ [0])) (name.1.take (RPMSG_NAME_SIZE - 1)) ↔
      name.1.length < RPMSG_NAME_SIZE := by
  constructor
  · rintro ⟨-, rest, hrest⟩
    by_contra hlong
    -- a name that fills the array leaves no zero in it
    have hfull : strncpy (name.1 ++ [0]) = name.1.take RPMSG_NAME_SIZE := by
      unfold strncpy
      rw [nameChars_string, List.length_take_of_le (Nat.not_lt.mp hlong), Nat.sub_self,
        List.replicate_zero, List.append_nil]
    have hmem : 0 ∈ name.1.take RPMSG_NAME_SIZE := by
      rw [← hfull, hrest]
      exact List.mem_append_right _ List.mem_cons_self
    exact name.2 (List.mem_of_mem_take hmem)
  · intro hlt
    have hcopy : strncpy (name.1 ++ [0]) = strncpy name.1 := by
      refine strncpy_congr ?_
      rw [nameChars_string]
      exact (FixedString.chars_of_notMem name.2).symm
    rw [hcopy, List.take_of_length_le (Nat.le_sub_one_of_lt hlt)]
    exact FixedString.holds_copy name.2 hlt

/-- The name of a service that is announced survives, up to the application of the other side and back
to an endpoint, exactly if its zero fits in the array as well. -/
theorem service_name_survives_iff
    (hcreate : rpmsgCreateEpt rdev (some ref) (some (name.1 ++ [0])) src dest unbindCb ret =
      (rdev', status, some msg))
    (hbind : (rpmsgVirtioNsCallback peer ept msg.bytes).2 = some (.nsBind bound addr)) :
    NameSurvives name bound addr ↔ name.1.length < RPMSG_NAME_SIZE := by
  have hmsg := announced_name hcreate
  have hlength : msg.name.length = RPMSG_NAME_SIZE := by
    rw [hmsg]
    exact length_strncpy _
  have hbound : bound = strncpy (name.1 ++ [0]) := (bound_name hlength hbind).trans hmsg
  rw [← holds_strncpy_iff, ← hbound]
  refine ⟨fun h => h.string, fun hstring => ⟨hstring, ?_⟩⟩
  intro now created src dest unbindCb ret hnone hnew hstatus destAddr hdest
  exact getEndpoint_created hnone hnew hstatus hdest

/-- A name that leaves room for the zero only. -/
def longName : CString := ⟨List.replicate 31 97, by decide⟩

/-- Two devices as they come up, with the application of one asking for any address. -/
theorem service_name_survives_long :
    NameSurvives longName (strncpy longName.1) 1024 := by
  have hcreate : ∃ rdev' status,
      rpmsgCreateEpt (rpmsgInitEndpoints true true) (some (.user 0)) (some (longName.1 ++ [0]))
        RPMSG_ADDR_ANY RPMSG_ADDR_ANY true 40 =
        (rdev', status, some ⟨strncpy longName.1, 1024, RPMSG_NS_CREATE⟩) := ⟨_, _, rfl⟩
  have hbind : (rpmsgVirtioNsCallback (rpmsgInitEndpoints true true) .nsEpt
      (RpmsgNsMsg.bytes ⟨strncpy longName.1, 1024, RPMSG_NS_CREATE⟩)).2 =
      some (.nsBind (strncpy longName.1) 1024) := by
    decide +kernel
  obtain ⟨rdev', status, hcreate⟩ := hcreate
  exact (service_name_survives_iff hcreate hbind).mpr (by decide)

/-- A name that fills the array. -/
def fullName : CString := ⟨List.replicate 32 97, by decide⟩

theorem full_name_unterminated :
    ∃ rdev' status msg,
      rpmsgCreateEpt (rpmsgInitEndpoints true true) (some (.user 0)) (some (fullName.1 ++ [0]))
        RPMSG_ADDR_ANY RPMSG_ADDR_ANY true 40 = (rdev', status, some msg) ∧
      (rpmsgVirtioNsCallback (rpmsgInitEndpoints true true) .nsEpt msg.bytes).2 =
        some (.nsBind fullName.1 1024) ∧
      ¬ NameSurvives fullName fullName.1 1024 := by
  refine ⟨_, _, ⟨fullName.1, 1024, RPMSG_NS_CREATE⟩, rfl, by decide +kernel, fun h => ?_⟩
  obtain ⟨-, rest, hrest⟩ := h.string
  refine fullName.2 ?_
  rw [hrest]
  exact List.mem_append_right _ List.mem_cons_self

end OpenAmp
