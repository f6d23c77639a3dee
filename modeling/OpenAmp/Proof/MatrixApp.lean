import Mathlib.Algebra.BigOperators.Group.Finset.Basic
import Mathlib.Algebra.BigOperators.Intervals
import Mathlib.Data.UInt
import OpenAmp.MatrixApp
import OpenAmp.Proof.TestApps

/-!
# The matrix demonstration finds no error

The server sends the exact products of the matrices, and the client gets all of them.
-/

namespace OpenAmp

open ByteMemory Slice Exchange Finset

/-! ### The loops of the product -/

section Loops

theorem foldl_addElement (r : Nat → Nat → UInt32) (i j : Nat) (value : Nat → UInt32) (count i' j' : Nat) :
    (List.range count).foldl (fun r k => addElement r i j (value k)) r i' j' =
      if i' = i ∧ j' = j then r i' j' + ∑ k ∈ range count, value k else r i' j' := by
  induction count with
  | zero =>
      rw [sum_range_zero, add_zero, ite_self]
      rfl
  | succ count ih =>
      rw [List.range_succ, List.foldl_append, List.foldl_cons, List.foldl_nil, sum_range_succ]
      unfold addElement at ih ⊢
      rw [ih]
      split_ifs
      · rw [add_assoc]
      · rfl

/-- A loop whose rounds change different entries. -/
theorem foldl_owned (body : (Nat → Nat → UInt32) → Nat → Nat → Nat → UInt32)
    (owner : Nat → Nat → Nat) (inside : Nat → Nat → Prop) [∀ i j, Decidable (inside i j)]
    (total : Nat → Nat → UInt32)
    (hbody : ∀ r k i j, body r k i j =
      if inside i j ∧ owner i j = k then r i j + total i j else r i j)
    (r : Nat → Nat → UInt32) (count i j : Nat) :
    (List.range count).foldl body r i j =
      if inside i j ∧ owner i j < count then r i j + total i j else r i j := by
  induction count with
  | zero => exact (if_neg fun hand => absurd hand.2 (Nat.not_lt_zero _)).symm
  | succ count ih =>
      rw [List.range_succ, List.foldl_append, List.foldl_cons, List.foldl_nil, hbody, ih]
      by_cases hinside : inside i j
      · obtain hlt | heq | hgt := Nat.lt_trichotomy (owner i j) count
        · rw [if_neg fun hand => absurd hand.2 (Nat.ne_of_lt hlt), if_pos ⟨hinside, hlt⟩,
            if_pos ⟨hinside, Nat.lt_succ_of_lt hlt⟩]
        · rw [if_pos ⟨hinside, heq⟩, if_neg fun hand => absurd hand.2 (by omega),
            if_pos ⟨hinside, by omega⟩]
        · rw [if_neg fun hand => absurd hand.2 (Nat.ne_of_gt hgt),
            if_neg fun hand => absurd hand.2 (Nat.lt_asymm hgt),
            if_neg fun hand => absurd hand.2 (by omega)]
      · rw [if_neg fun hand => hinside hand.1, if_neg fun hand => hinside hand.1,
          if_neg fun hand => hinside hand.1]

/-- The loops compute the product of the matrices modulo `2 ^ 32`. -/
theorem elements_matrixMultiply (m n : MatrixData) (i j : Nat) :
    (matrixMultiply m n).elements i j =
      if i < m.size.toNat ∧ j < n.size.toNat then
        ∑ k ∈ range m.size.toNat, m.elements i k * n.elements k j
      else 0 := by
  let entry (i j : Nat) : UInt32 := ∑ k ∈ range m.size.toNat, m.elements i k * n.elements k j
  let cell (r : Nat → Nat → UInt32) (i j : Nat) : Nat → Nat → UInt32 :=
    (List.range m.size.toNat).foldl
      (fun r k => addElement r i j (m.elements i k * n.elements k j)) r
  let row (r : Nat → Nat → UInt32) (i : Nat) : Nat → Nat → UInt32 :=
    (List.range n.size.toNat).foldl (fun r j => cell r i j) r
  have hcell (r : Nat → Nat → UInt32) (i j i' j' : Nat) :
      cell r i j i' j' = if i' = i ∧ j' = j then r i' j' + entry i' j' else r i' j' := by
    refine (foldl_addElement r i j _ _ i' j').trans (ite_congr rfl (fun hand => ?_) fun _ => rfl)
    rw [hand.1, hand.2]
  have hrow (r : Nat → Nat → UInt32) (i i' j' : Nat) :
      row r i i' j' = if j' < n.size.toNat ∧ i' = i then r i' j' + entry i' j' else r i' j' := by
    have hcolumns := foldl_owned (fun r j => cell r i j) (fun _ j' => j') (fun i' _ => i' = i) entry
      (fun r j => hcell r i j) r n.size.toNat i' j'
    exact hcolumns.trans (if_congr and_comm rfl rfl)
  have hrows := foldl_owned row (fun i' _ => i') (fun _ j' => j' < n.size.toNat) entry hrow
    (fun _ _ => 0) m.size.toNat i j
  rw [zero_add] at hrows
  exact hrows.trans (if_congr and_comm rfl rfl)

end Loops

/-! ### Matrices in messages -/

/-- A matrix has nothing outside of its array. -/
def MatrixData.Within (m : MatrixData) : Prop :=
  ∀ i j, ¬ (i < MAX_SIZE ∧ j < MAX_SIZE) → m.elements i j = 0

section Messages

variable {m n : MatrixData} {values : List Nat} {c value i j : Nat}

theorem MatrixData.length_values (m : MatrixData) : m.values.length = MATRIX_WORDS := by
  rw [values, List.length_cons, List.length_map, List.length_range]
  rfl

theorem MatrixData.getElem?_values (hi : i < MAX_SIZE) (hj : j < MAX_SIZE) :
    m.values[1 + (MAX_SIZE * i + j)]? = some (m.elements i j).toNat := by
  have hlt : MAX_SIZE * i + j < MAX_SIZE * MAX_SIZE := by
    unfold MAX_SIZE at hi hj ⊢
    omega
  rw [Nat.add_comm 1, values, List.getElem?_cons_succ, List.getElem?_map, List.getElem?_range hlt,
    Option.map_some, Nat.mul_add_div (by decide), Nat.div_eq_of_lt hj, Nat.add_zero, Nat.mul_add_mod,
    Nat.mod_eq_of_lt hj]

theorem leValue_word (hget : values[c]? = some value) (hvalue : value < 2 ^ 32) :
    leValue (slice (WordRecord.words 4 values) (c * 4) 4) = value := by
  obtain ⟨hc, rfl⟩ := List.getElem?_eq_some_iff.mp hget
  have hslice := @WordRecord.slice_words 4 c values [] hc
  rw [List.append_nil] at hslice
  rw [hslice, leValue_leBytes]
  exact Nat.mod_eq_of_lt hvalue

theorem MatrixData.ofBytes_words (hwithin : m.Within) (first : Nat)
    (hwords : ∀ c < MATRIX_WORDS, values[first + c]? = m.values[c]?) :
    MatrixData.ofBytes (WordRecord.words 4 values) first = m := by
  have hsize : values[first + 0]? = some m.size.toNat := hwords 0 (by decide)
  refine MatrixData.ext ?_ (funext fun i => funext fun j => ?_)
  · unfold MatrixData.ofBytes
    dsimp only
    rw [leValue_word hsize m.size.toNat_lt, UInt32.ofNat_toNat]
  · unfold MatrixData.ofBytes
    dsimp only
    split_ifs with hin
    · have hlt : 1 + (MAX_SIZE * i + j) < MATRIX_WORDS := by
        have hi := hin.1
        have hj := hin.2
        unfold MATRIX_WORDS MAX_SIZE at *
        omega
      have hget := (hwords _ hlt).trans (m.getElem?_values hin.1 hin.2)
      rw [leValue_word hget (m.elements i j).toNat_lt, UInt32.ofNat_toNat]
    · exact (hwithin i j hin).symm

theorem MatrixData.ofBytes_bytes (hwithin : m.Within) : MatrixData.ofBytes m.bytes 0 = m :=
  MatrixData.ofBytes_words hwithin 0 fun c _ => by rw [Nat.zero_add]

end Messages

/-! ### The two sides -/

section Sides

variable {rand : Nat → Nat} {c p i j : Nat}

theorem inputMatrix_within (rand : Nat → Nat) (c p : Nat) : (inputMatrix rand c p).Within :=
  fun _ _ hout => if_neg hout

theorem productMatrix_within (rand : Nat → Nat) (c : Nat) : (productMatrix rand c).Within := by
  intro i j hout
  rw [productMatrix, elements_matrixMultiply]
  exact if_neg hout

theorem matrixMessage_eq (rand : Nat → Nat) (c : Nat) : matrixMessage rand c =
    WordRecord.words 4 ((inputMatrix rand c 0).values ++ (inputMatrix rand c 1).values) :=
  List.flatMap_append.symm

theorem matrixEndpointCb_message (rand : Nat → Nat) (c : Nat) :
    matrixEndpointCb (matrixMessage rand c) = some (productMatrix rand c).bytes := by
  let first := inputMatrix rand c 0
  let second := inputMatrix rand c 1
  have hfirst : MatrixData.ofBytes (matrixMessage rand c) 0 = first := by
    rw [matrixMessage_eq]
    refine MatrixData.ofBytes_words (inputMatrix_within rand c 0) 0 fun k hk => ?_
    rw [Nat.zero_add, List.getElem?_append_left (by rw [MatrixData.length_values]; exact hk)]
  have hsecond : MatrixData.ofBytes (matrixMessage rand c) MATRIX_WORDS = second := by
    rw [matrixMessage_eq]
    refine MatrixData.ofBytes_words (inputMatrix_within rand c 1) MATRIX_WORDS fun k _ => ?_
    rw [List.getElem?_append_right (by rw [MatrixData.length_values]; exact Nat.le_add_right ..),
      MatrixData.length_values, Nat.add_sub_cancel_left]
  have hgoes : ¬ leValue (slice (matrixMessage rand c) 0 4) = SHUTDOWN_MSG := by
    have hsize : (first.values ++ second.values)[0]? = some MAX_SIZE := rfl
    rw [matrixMessage_eq, leValue_word hsize (by decide)]
    decide
  unfold matrixEndpointCb
  rw [if_neg hgoes, hfirst, hsecond]
  rfl

theorem MatrixApp.endpointCb_expected (app : MatrixApp) (hwithin : app.eMatrix.Within)
    (herr : app.errCnt = 0) :
    app.endpointCb app.eMatrix.bytes = { app with resultReturned := true } := by
  have hlen : app.eMatrix.bytes.length = MATRIX_WORDS * 4 := by
    rw [MatrixData.bytes, WordRecord.length_words, MatrixData.length_values]
  have hright : ((List.range MAX_SIZE).countP fun i => (List.range MAX_SIZE).any fun j =>
      app.eMatrix.elements i j != app.eMatrix.elements i j) = 0 := by
    refine List.countP_eq_zero.mpr fun i _ hany => ?_
    obtain ⟨j, -, hne⟩ := List.any_eq_true.mp hany
    rw [bne_self_eq_false] at hne
    exact Bool.false_ne_true hne
  unfold MatrixApp.endpointCb
  rw [if_neg (not_not.mpr hlen)]
  dsimp only
  rw [MatrixData.ofBytes_bytes hwithin, hright, herr, if_neg (not_not.mpr rfl)]

def expectedMatrix (rand : Nat → Nat) : Nat → MatrixData
  | 0 => .zeroed
  | c + 1 => productMatrix rand c

def MatrixApp.rounds (rand : Nat → Nat) : Rounds (MatrixApp.client rand) matrixEndpointCb 200 where
  request := matrixMessage rand
  reply c := (productMatrix rand c).bytes
  ready c := ⟨c, expectedMatrix rand c, decide (0 < c), 0, false, false⟩
  waiting c := ⟨c, productMatrix rand c, false, 0, true, false⟩
  back c := ⟨c - 1, expectedMatrix rand c, true, 0, true, false⟩
  failed c := ⟨c, productMatrix rand c, false, 0, false, true⟩
  serves := fun _ => matrixEndpointCb_message rand _
  sends := by
    intro c hc
    exact if_pos ⟨rfl, hc, rfl⟩
  ends := by
    simp only [MatrixApp.client, Bool.false_eq_true, if_false, Nat.lt_irrefl, false_and, and_false]
  waits := fun _ => rfl
  receives := by
    intro c hc
    have hcall : MatrixApp.endpointCb ⟨c, productMatrix rand c, false, 0, true, false⟩
        (productMatrix rand c).bytes = ⟨c, productMatrix rand c, true, 0, true, false⟩ :=
      MatrixApp.endpointCb_expected _ (productMatrix_within rand c) rfl
    simp only [MatrixApp.client, hcall, Nat.add_sub_cancel, expectedMatrix]
  goes_on := fun _ => rfl
  stays := fun _ => rfl

theorem MatrixApp.no_failure {s : State MatrixApp (List UInt8)} {n : Counts}
    (h : (MatrixApp.rounds rand).script.At s n) :
    s.client.errCnt = 0 ∧ s.client.sendFailed = false := by
  rw [h.client]
  simp only [Rounds.script, MatrixApp.rounds]
  split_ifs
  · exact ⟨rfl, rfl⟩
  · exact ⟨rfl, rfl⟩
  · exact ⟨rfl, rfl⟩
  · exact ⟨rfl, rfl⟩

/-! ### The products as numbers -/

theorem toNat_inputMatrix_lt (rand : Nat → Nat) (c p i j : Nat) :
    ((inputMatrix rand c p).elements i j).toNat < 10 := by
  unfold inputMatrix generateMatrix
  dsimp only
  split_ifs
  · rw [UInt32.toNat_ofNat']
    exact Nat.lt_of_le_of_lt (Nat.mod_le _ _) (Nat.mod_lt _ (by decide))
  · decide

theorem toNat_sum_range (bound : Nat) (f : Nat → UInt32) (hf : ∀ k, (f k).toNat ≤ bound) (count : Nat)
    (hcount : count * bound < 2 ^ 32) :
    (∑ k ∈ range count, f k).toNat = ∑ k ∈ range count, (f k).toNat ∧
      ∑ k ∈ range count, (f k).toNat ≤ count * bound := by
  induction count with
  | zero => exact ⟨rfl, Nat.zero_le _⟩
  | succ count ih =>
      have hlast := hf count
      rw [Nat.succ_mul] at hcount ⊢
      obtain ⟨heq, hle⟩ := ih (by omega)
      rw [sum_range_succ, sum_range_succ, UInt32.toNat_add, heq]
      exact ⟨Nat.mod_eq_of_lt (by omega), by omega⟩

theorem toNat_productMatrix (rand : Nat → Nat) (c : Nat) (hi : i < MAX_SIZE) (hj : j < MAX_SIZE) :
    ((productMatrix rand c).elements i j).toNat = ∑ k ∈ range MAX_SIZE,
      ((inputMatrix rand c 0).elements i k).toNat * ((inputMatrix rand c 1).elements k j).toNat := by
  let term (k : Nat) : UInt32 :=
    (inputMatrix rand c 0).elements i k * (inputMatrix rand c 1).elements k j
  have hbound (k : Nat) : ((inputMatrix rand c 0).elements i k).toNat *
      ((inputMatrix rand c 1).elements k j).toNat < 10 * 10 :=
    Nat.mul_lt_mul'' (toNat_inputMatrix_lt rand c 0 i k) (toNat_inputMatrix_lt rand c 1 k j)
  have hmul (k : Nat) : (term k).toNat = ((inputMatrix rand c 0).elements i k).toNat *
      ((inputMatrix rand c 1).elements k j).toNat := by
    rw [UInt32.toNat_mul]
    exact Nat.mod_eq_of_lt (Nat.lt_trans (hbound k) (by decide))
  have hle (k : Nat) : (term k).toNat ≤ 100 := by
    rw [hmul]
    exact Nat.le_of_lt (hbound k)
  have hsum := (toNat_sum_range 100 term hle MAX_SIZE (by decide)).1
  rw [productMatrix, elements_matrixMultiply, if_pos ⟨hi, hj⟩]
  refine hsum.trans (sum_congr rfl fun k _ => hmul k)

end Sides

/-- The matrix demonstration, whatever the random numbers and the order of the steps, with two buffers
for the pairs of matrices and one for the products at least: the client counts no error and no send of
it fails, what it gets are the products of its pairs in order, each entry the exact number, and a run
takes no more than thirteen steps for each pair and does not end before all products are back. -/
theorem matrix_products_returned (rand : Nat → Nat) {requests answers : Nat} (hrequests : 2 ≤ requests)
    (hanswers : 0 < answers) {actions : List Action} {s : State MatrixApp (List UInt8)}
    (hexec : Run.exec (step (MatrixApp.client rand) matrixEndpointCb requests answers)
      (State.init MatrixApp.init) actions = some s) :
    s.client.errCnt = 0 ∧ s.client.sendFailed = false ∧ s.stopped = false ∧
      (∃ count, s.received = queue (fun c => (productMatrix rand c).bytes) 0 count) ∧
      (∀ c, MatrixData.ofBytes (productMatrix rand c).bytes 0 = productMatrix rand c ∧
        ∀ i < MAX_SIZE, ∀ j < MAX_SIZE, ((productMatrix rand c).elements i j).toNat =
          ∑ k ∈ range MAX_SIZE, ((inputMatrix rand c 0).elements i k).toNat *
            ((inputMatrix rand c 1).elements k j).toNat) ∧
      actions.length ≤ 13 * 200 ∧
      ((s.Finished (MatrixApp.client rand) ∧
          s.received = queue (fun c => (productMatrix rand c).bytes) 0 200) ∨
        ∃ action s', step (MatrixApp.client rand) matrixEndpointCb requests answers s action =
          some s') := by
  obtain ⟨⟨n, hat⟩, hlen, hend⟩ := (MatrixApp.rounds rand).script.completes hrequests hanswers hexec
  obtain ⟨herr, hsent⟩ := MatrixApp.no_failure hat
  refine ⟨herr, hsent, hat.running, ⟨n.received, hat.received⟩, fun c => ⟨?_, ?_⟩, hlen,
    hend.imp (fun hdone => ?_) id⟩
  · exact MatrixData.ofBytes_bytes (productMatrix_within rand c)
  · exact fun i hi j hj => toNat_productMatrix rand c hi hj
  · exact ⟨hdone.1, hdone.2.1⟩

/-- One round, with random numbers that count up. -/
theorem matrix_products_returned_one : ∃ s : State MatrixApp (List UInt8),
    s.received = [(productMatrix id 0).bytes] ∧ s.client.errCnt = 0 := by
  have hrun : (Run.exec (step (MatrixApp.client id) matrixEndpointCb 2 1) (State.init MatrixApp.init)
      [.client, .client, .client, .server, .server, .server, .server, .client, .client]).map
        State.received = some [(productMatrix id 0).bytes] := by decide +kernel
  obtain ⟨s, hexec, hreceived⟩ := Option.map_eq_some_iff.mp hrun
  exact ⟨s, hreceived, (matrix_products_returned id le_rfl Nat.one_pos hexec).1⟩

end OpenAmp
