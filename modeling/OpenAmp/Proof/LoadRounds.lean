import OpenAmp.Library.Stateful
import OpenAmp.RemoteprocLoad

/-!
# Rounds in any monad

A round has no effects but those of its operations, so what holds of these and survives `pure` and
`bind` holds of the round.
-/

namespace OpenAmp

open Stateful

section Round

variable {m : Type → Type} [Monad m] {Img Io : Type}

/-- Every operation of the loop over the segments has the property. -/
structure DataOps.All (Q : ∀ ⦃α : Type⦄, m α → Prop) (ops : DataOps m Img Io) : Prop where
  loadData : ∀ s, Q (ops.loadData s)
  load : ∀ noffset nlen, Q (ops.load noffset nlen)
  mmap : ∀ da size io, Q (ops.mmap da size io)
  loadTarget : ∀ mapped noffset nlen, Q (ops.loadTarget mapped noffset nlen)
  blockSet : ∀ mapped io offset value len, Q (ops.blockSet mapped io offset value len)

variable {Q : ∀ ⦃α : Type⦄, m α → Prop} {ops : DataOps m Img Io}

theorem DataOps.All.copySegment (hQ : Closed Q) (h : ops.All Q) (s : DataVars Img Io) (io : Io)
    (mapped : Mapped) (vars : LoadVars) : Q (ops.copySegment s io mapped vars) := by
  have hload : Q (ops.loadSegment s mapped vars) := by
    unfold DataOps.loadSegment
    split_ifs
    · exact h.loadTarget _ _ _
    · exact hQ.pure _
  refine hQ.bind hload fun (ret, imgData) => ?_
  dsimp only
  split_ifs
  · exact hQ.pure _
  · exact hQ.bind (h.blockSet _ _ _ _ _) fun _ => hQ.pure _
  · exact hQ.pure _

theorem DataOps.All.fetch (hQ : Closed Q) (h : ops.All Q) (s : DataVars Img Io) (vars : LoadVars) :
    Q (ops.fetch s vars) := by
  refine hQ.bind (h.load _ _) fun (ret, imgData) => ?_
  dsimp only
  split_ifs <;> exact hQ.pure _

theorem DataOps.All.act (hQ : Closed Q) (h : ops.All Q) (s : DataVars Img Io) (vars : LoadVars) :
    Q (ops.act s vars) := by
  unfold DataOps.act
  split_ifs
  · refine hQ.bind (h.mmap _ _ _) fun (pa, io) => ?_
    cases io with
    | none => exact hQ.pure _
    | some io =>
        dsimp only
        split_ifs
        · exact hQ.pure _
        · exact h.copySegment hQ _ _ _ _
  · exact h.fetch hQ _ _
  · exact hQ.pure _

theorem DataOps.All.round (hQ : Closed Q) (h : ops.All Q) (s : DataVars Img Io) :
    Q (ops.round s) := by
  refine hQ.bind (h.loadData _) fun out => ?_
  cases out with
  | none => exact hQ.pure _
  | some out =>
      obtain ⟨status | lastLoadState, imgInfo, vars⟩ := out
      · exact hQ.pure _
      · exact h.act hQ _ _

/-- Nothing is copied of a segment without any bytes. -/
theorem DataOps.copySegment_empty [LawfulMonad m] (ops : DataOps m Img Io) (s : DataVars Img Io)
    (io : Io) (mapped : Mapped) (da noffset : Nat) (padding : UInt8) :
    ops.copySegment s io mapped ⟨da, noffset, 0, padding, 0⟩ = pure (.inl s) := by
  simp [DataOps.copySegment, DataOps.loadSegment]

/-- Nothing is left to be loaded. -/
theorem DataOps.act_left (ops : DataOps m Img Io) (s : DataVars Img Io) {vars : LoadVars}
    (haddr : vars.da = RPROC_LOAD_ANYADDR) (hlen : vars.nlen = 0) :
    ops.act s vars = pure (.inr (s, .leave)) := by
  rw [DataOps.act, if_neg (not_not.mpr haddr), if_neg (not_not.mpr hlen)]

end Round

section World

variable {V W S : Type} {mk : V → W → S} {round : StateM W (V ⊕ (V × LoopExit))} {w w' : W} {v : V}

theorem afterRound_withWorld (mk : V → W → S) (round : StateM W (V ⊕ (V × LoopExit))) (w : W) :
    ∃ v, afterRound (withWorld mk round w) = mk v (round.run w).2 := by
  unfold withWorld
  split
  case h_1 v w' hrun => exact ⟨v, by rw [hrun]; rfl⟩
  case h_2 v exit w' hrun => exact ⟨v, by rw [hrun]; rfl⟩

/-- Rounds from related states of the world leave the same variables and related states. -/
theorem withWorld_rel {R : W → W → Prop} {Q : S → S → Prop} (hround : Respects R round)
    (hmk : ∀ v w₁ w₂, R w₁ w₂ → Q (mk v w₁) (mk v w₂)) {w₁ w₂ : W} (h : R w₁ w₂) :
    Sum.LiftRel Q (fun r₁ r₂ => Q r₁.1 r₂.1 ∧ r₁.2 = r₂.2) (withWorld mk round w₁)
      (withWorld mk round w₂) := by
  obtain ⟨hvalue, hstate⟩ := hround w₁ w₂ h
  unfold withWorld
  generalize round.run w₁ = out₁ at hvalue hstate
  generalize round.run w₂ = out₂ at hvalue hstate
  obtain ⟨next, w₁'⟩ := out₁
  obtain ⟨next', w₂'⟩ := out₂
  obtain rfl : next = next' := hvalue
  cases next with
  | inl v => exact .inl (hmk v _ _ hstate)
  | inr leave => exact .inr ⟨hmk leave.1 _ _ hstate, rfl⟩

theorem withWorld_of_inl (h : round.run w = pure (.inl v, w')) :
    withWorld mk round w = .inl (mk v w') := by
  rw [withWorld, h]
  rfl

theorem withWorld_of_inr {exit : LoopExit} (h : round.run w = pure (.inr (v, exit), w')) :
    withWorld mk round w = .inr (mk v w', exit) := by
  rw [withWorld, h]
  rfl

section Fetch

variable {Img Io : Type} {ops : DataOps (StateM W) Img Io} {s : DataVars Img Io} {vars : LoadVars}
  {ret : Int} {imgData : Option Img}

theorem DataOps.fetch_short
    (hload : (ops.load vars.noffset vars.nlen).run w = pure ((ret, imgData), w'))
    (hret : ret < toInt32 vars.nlen) :
    (ops.fetch s vars).run w = pure (.inr ({ s with imgData },
      if s.lastLoadState &&& RPROC_LOADER_POST_DATA_LOAD ≠ 0 then .leave else .error ret), w') := by
  rw [DataOps.fetch, StateT.run_bind, hload, pure_bind]
  generalize RPROC_LOADER_POST_DATA_LOAD = mask
  simp only [if_pos hret]
  split_ifs <;> rfl

theorem DataOps.fetch_served
    (hload : (ops.load vars.noffset vars.nlen).run w = pure ((ret, imgData), w'))
    (hret : ¬ ret < toInt32 vars.nlen) :
    (ops.fetch s vars).run w =
      pure (.inl { s with imgData, offset := vars.noffset, len := vars.nlen }, w') := by
  rw [DataOps.fetch, StateT.run_bind, hload, pure_bind]
  generalize RPROC_LOADER_POST_DATA_LOAD = mask
  simp only [if_neg hret]
  rfl

end Fetch

/-- A device address that is not mapped to a physical one. -/
theorem DataOps.act_unmapped {Img Io : Type} {ops : DataOps (StateM W) Img Io} {s : DataVars Img Io}
    {vars : LoadVars} {io : Option Io} (haddr : vars.da ≠ RPROC_LOAD_ANYADDR)
    (hmap : (ops.mmap vars.da vars.nmemsize s.io).run w = pure ((METAL_BAD_PHYS, io), w')) :
    ∃ s', (ops.act s vars).run w = pure (.inr (s', .error (-RPROC_EINVAL)), w') := by
  rw [DataOps.act, if_pos haddr, StateT.run_bind, hmap, pure_bind]
  cases io with
  | none => exact ⟨_, rfl⟩
  | some io =>
      dsimp only
      rw [if_pos rfl]
      exact ⟨_, rfl⟩

end World

end OpenAmp
