import Mathlib.Tactic.Common

/-!
# Following something that comes and goes

Something is present at one address at a time, or absent. Who hears of it in order, and whose view was
right or empty at some point of what is still to be heard, ends up with a view that is right or empty.
-/

namespace Presence

variable {α : Type*}

/-- What can be heard: it has appeared, it has gone, or it shows itself. -/
inductive Event (α : Type*) where
  | appear (addr : α)
  | vanish (addr : α)
  | hear (addr : α)

/-- Where it is before an event and after it. -/
inductive Moves : Option α → Event α → Option α → Prop where
  | appear (addr : α) : Moves none (.appear addr) (some addr)
  | vanish (addr : α) : Moves (some addr) (.vanish addr) none
  | hear (addr : α) : Moves (some addr) (.hear addr) (some addr)

/-- Where it is before a list of events and after it. -/
inductive History : Option α → List (Event α) → Option α → Prop where
  | nil (here : Option α) : History here [] here
  | cons {here next last : Option α} {event : Event α} {events : List (Event α)}
      (hmoves : Moves here event next) (hlater : History next events last) :
      History here (event :: events) last

theorem History.append {here middle last : Option α} {events later : List (Event α)}
    (h : History here events middle) (hlater : History middle later last) :
    History here (events ++ later) last := by
  induction h with
  | nil here => exact hlater
  | cons hmoves _ ih => exact .cons hmoves (ih hlater)

theorem History.of_append {here last : Option α} {events later : List (Event α)}
    (h : History here (events ++ later) last) :
    ∃ middle, History here events middle ∧ History middle later last := by
  induction events generalizing here with
  | nil => exact ⟨here, .nil here, h⟩
  | cons event events ih =>
      cases h with
      | cons hmoves hlater =>
          obtain ⟨middle, hfirst, hrest⟩ := ih hlater
          exact ⟨middle, .cons hmoves hfirst, hrest⟩

variable [DecidableEq α]

/-- What an event makes of a view: an empty one takes the address, and only the news that it has gone
from there empties it. -/
def follow (view : Option α) : Event α → Option α
  | .appear addr | .hear addr => view.or (some addr)
  | .vanish addr => if view = some addr then none else view

def replay (view : Option α) (events : List (Event α)) : Option α :=
  events.foldl follow view

@[simp] theorem replay_nil (view : Option α) : replay view [] = view := rfl

@[simp] theorem replay_cons (view : Option α) (event : Event α) (events : List (Event α)) :
    replay view (event :: events) = replay (follow view event) events := rfl

theorem replay_append (view : Option α) (events later : List (Event α)) :
    replay view (events ++ later) = replay (replay view events) later :=
  List.foldl_append

/-- The view is empty, or right. -/
def Trails (view here : Option α) : Prop :=
  view = none ∨ view = here

/-- A view that is right stays so. -/
theorem follow_here {here next : Option α} {event : Event α} (hmoves : Moves here event next) :
    follow here event = next := by
  cases hmoves with
  | appear addr => rfl
  | vanish addr => exact if_pos rfl
  | hear addr => rfl

theorem replay_here {here last : Option α} {events : List (Event α)}
    (h : History here events last) : replay here events = last := by
  induction h with
  | nil here => rfl
  | cons hmoves _ ih => rw [replay_cons, follow_here hmoves, ih]

theorem Trails.follow {view here next : Option α} {event : Event α} (h : Trails view here)
    (hmoves : Moves here event next) : Trails (follow view event) next := by
  obtain rfl | rfl := h
  · cases hmoves with
    | appear addr => exact .inr rfl
    | vanish addr => exact .inl rfl
    | hear addr => exact .inr rfl
  · exact .inr (follow_here hmoves)

theorem Trails.replay {view here last : Option α} {events : List (Event α)} (h : Trails view here)
    (hhistory : History here events last) : Trails (replay view events) last := by
  induction hhistory generalizing view with
  | nil here => exact h
  | cons hmoves _ ih => exact ih (h.follow hmoves)

end Presence
