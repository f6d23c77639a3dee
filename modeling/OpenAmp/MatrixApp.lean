import OpenAmp.Library.WordRecord
import OpenAmp.TestApps

/-!
# The matrix demonstration

A client sends pairs of matrices, and the server sends their product back, which the client compares
with the one it has computed itself.
-/

namespace OpenAmp

open ByteMemory Slice Exchange

def MAX_SIZE : Nat := 6

/-- `struct _matrix`, with zero for what is not in it. -/
@[ext]
structure MatrixData where
  size : UInt32
  elements : Nat → Nat → UInt32

def MatrixData.zeroed : MatrixData := ⟨0, fun _ _ => 0⟩

def MatrixData.values (m : MatrixData) : List Nat :=
  m.size.toNat :: (List.range (MAX_SIZE * MAX_SIZE)).map fun c =>
    (m.elements (c / MAX_SIZE) (c % MAX_SIZE)).toNat

def MATRIX_WORDS : Nat := 1 + MAX_SIZE * MAX_SIZE

def MatrixData.bytes (m : MatrixData) : List UInt8 := WordRecord.words 4 m.values

/-- The matrix that starts at a word of a message. -/
def MatrixData.ofBytes (data : List UInt8) (first : Nat) : MatrixData :=
  let word (c : Nat) : UInt32 := UInt32.ofNat (leValue (slice data ((first + c) * 4) 4))
  { size := word 0
    elements := fun i j =>
      if i < MAX_SIZE ∧ j < MAX_SIZE then word (1 + (MAX_SIZE * i + j)) else 0 }

def addElement (r : Nat → Nat → UInt32) (i j : Nat) (value : UInt32) : Nat → Nat → UInt32 :=
  fun i' j' => if i' = i ∧ j' = j then r i' j' + value else r i' j'

/-- `matrix_multiply` of the client and `Matrix_Multiply` of the server, for sizes up to `MAX_SIZE`. -/
def matrixMultiply (m n : MatrixData) : MatrixData :=
  let r : MatrixData := { MatrixData.zeroed with size := m.size }
  { r with
    elements :=
      (List.range m.size.toNat).foldl (fun r' i =>
        (List.range n.size.toNat).foldl (fun r' j =>
          (List.range r.size.toNat).foldl (fun r' k =>
            addElement r' i j (m.elements i k * n.elements k j)) r') r') r.elements }

/-- `rpmsg_endpoint_cb` of the server, which gets two matrices. -/
def matrixEndpointCb (data : List UInt8) : Option (List UInt8) :=
  if leValue (slice data 0 4) = SHUTDOWN_MSG then
    none
  else
    some (matrixMultiply (.ofBytes data 0) (.ofBytes data MATRIX_WORDS)).bytes

/-- A matrix of `generate_matrices`, from what `rand` returns, counted from the first call for it. -/
def generateMatrix (rand : Nat → Nat) (first : Nat) : MatrixData where
  size := UInt32.ofNat MAX_SIZE
  elements j k :=
    if j < MAX_SIZE ∧ k < MAX_SIZE then
      UInt32.ofNat ((rand (first + MAX_SIZE * j + k) &&& 0x7F) % 10)
    else
      0

def inputMatrix (rand : Nat → Nat) (c p : Nat) : MatrixData :=
  generateMatrix rand ((2 * c + p) * (MAX_SIZE * MAX_SIZE))

def productMatrix (rand : Nat → Nat) (c : Nat) : MatrixData :=
  matrixMultiply (inputMatrix rand c 0) (inputMatrix rand c 1)

def matrixMessage (rand : Nat → Nat) (c : Nat) : List UInt8 :=
  (inputMatrix rand c 0).bytes ++ (inputMatrix rand c 1).bytes

/-- The variables of the client; it waits in the inner loop of `app`, and a send that fails ends the
outer one. -/
structure MatrixApp where
  c : Nat
  eMatrix : MatrixData
  resultReturned : Bool
  errCnt : Nat
  waiting : Bool
  sendFailed : Bool

def MatrixApp.init : MatrixApp := ⟨0, .zeroed, false, 0, false, false⟩

/-- `rpmsg_endpoint_cb` of the client: an error for each row that differs. -/
def MatrixApp.endpointCb (app : MatrixApp) (data : List UInt8) : MatrixApp :=
  if data.length ≠ MATRIX_WORDS * 4 then
    { app with errCnt := app.errCnt + 1 }
  else
    let rMatrix := MatrixData.ofBytes data 0
    let wrong := (List.range MAX_SIZE).countP fun i =>
      (List.range MAX_SIZE).any fun j => rMatrix.elements i j != app.eMatrix.elements i j
    if app.errCnt + wrong ≠ 0 then
      { app with errCnt := app.errCnt + wrong }
    else
      { app with resultReturned := true }

/-- `app` of the client. -/
def MatrixApp.client (rand : Nat → Nat) : Client MatrixApp (List UInt8) where
  next app :=
    if app.waiting then
      .poll
    else if app.errCnt = 0 ∧ app.c < 200 ∧ app.sendFailed = false then
      let app :=
        { app with eMatrix := productMatrix rand app.c, resultReturned := false }
      .send (matrixMessage rand app.c) { app with waiting := true } { app with sendFailed := true }
    else
      .done
  receive := MatrixApp.endpointCb
  polled app :=
    if app.resultReturned = false ∧ app.errCnt = 0 then
      app
    else if app.errCnt ≠ 0 then
      { app with waiting := false }
    else
      { app with c := app.c + 1, waiting := false }

end OpenAmp
