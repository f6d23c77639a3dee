import Mathlib.Data.Nat.Basic
import Mathlib.Tactic.Common

/-!
# Channels of bounded room

A message takes room in a channel from when its sender has found some for it until the receiver has done
with it. Messages are taken in the order they were posted.
-/

namespace BoundedChannel

variable {μ ν : Type*}

@[ext]
structure Channel (μ : Type*) where
  -- the messages that have room but have not been posted
  reserved : Nat
  queue : List μ
  -- the messages in the hands of the receiver
  held : Nat

namespace Channel

def empty : Channel μ := ⟨0, [], 0⟩

def inUse (channel : Channel μ) : Nat :=
  channel.reserved + channel.queue.length + channel.held

def reserve (room : Nat) (channel : Channel μ) : Option (Channel μ) :=
  if channel.inUse < room then some { channel with reserved := channel.reserved + 1 } else none

def post (channel : Channel μ) (msg : μ) : Channel μ :=
  { channel with reserved := channel.reserved - 1, queue := channel.queue ++ [msg] }

/-- The sends of a party that has no other send under way. -/
def send (room : Nat) (channel : Channel μ) (msg : μ) : Option (Channel μ) :=
  (channel.reserve room).map fun channel => channel.post msg

def take (channel : Channel μ) : Option (μ × Channel μ) :=
  match channel.queue with
  | [] => none
  | msg :: rest => some (msg, { channel with queue := rest, held := channel.held + 1 })

/-- The channel once its next message has been taken, if there is one. -/
def next (channel : Channel μ) : Channel μ :=
  channel.take.elim channel Prod.snd

def giveBack (channel : Channel μ) : Channel μ :=
  { channel with held := channel.held - 1 }

section Operations

variable {room : Nat} {channel : Channel μ} {msg : μ} {rest : List μ}

theorem send_of_lt (h : channel.inUse < room) :
    channel.send room msg = some { channel with queue := channel.queue ++ [msg] } := by
  rw [send, reserve, if_pos h]
  rfl

theorem send_of_le (h : room ≤ channel.inUse) : channel.send room msg = none := by
  rw [send, reserve, if_neg (Nat.not_lt.mpr h)]
  rfl

theorem take_of_nil (h : channel.queue = []) : channel.take = none := by
  rw [take, h]

theorem take_of_cons (h : channel.queue = msg :: rest) :
    channel.take = some (msg, { channel with queue := rest, held := channel.held + 1 }) := by
  rw [take, h]

theorem next_of_nil (h : channel.queue = []) : channel.next = channel := by
  rw [next, take_of_nil h]
  rfl

theorem next_of_cons (h : channel.queue = msg :: rest) :
    channel.next = { channel with queue := rest, held := channel.held + 1 } := by
  rw [next, take_of_cons h]
  rfl

end Operations

end Channel

end BoundedChannel
