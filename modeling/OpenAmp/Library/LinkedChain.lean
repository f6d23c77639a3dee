import Mathlib.Data.List.Basic
import Mathlib.Logic.Function.Basic

/-!
# Chains threaded through a successor function

A chain is what one sees by following `next` from a head up to an end mark. Chains are split and
spliced without touching the links inside the pieces, so every lemma is about the list of cells
visited.
-/

namespace LinkedChain

variable {α : Type*} {next next' : α → α} {head stop : α} {cells front back : List α}

/-- Following `next` from `head` visits exactly `cells`, in order, and arrives at `stop`. -/
def Path (next : α → α) : α → List α → α → Prop
  | head, [], stop => head = stop
  | head, cell :: cells, stop => head = cell ∧ Path next (next cell) cells stop

@[simp]
theorem path_nil : Path next head [] stop ↔ head = stop := Iff.rfl

@[simp]
theorem path_cons {cell : α} :
    Path next head (cell :: cells) stop ↔ head = cell ∧ Path next (next cell) cells stop := Iff.rfl

theorem path_append :
    Path next head (front ++ back) stop ↔
      ∃ middle, Path next head front middle ∧ Path next middle back stop := by
  induction front generalizing head with
  | nil => simp
  | cons cell front ih =>
      simp only [List.cons_append, path_cons, ih]
      constructor
      · rintro ⟨hhead, middle, hfront, hback⟩
        exact ⟨middle, ⟨hhead, hfront⟩, hback⟩
      · rintro ⟨middle, ⟨hhead, hfront⟩, hback⟩
        exact ⟨hhead, middle, hfront, hback⟩

/-- Only the links of the visited cells matter. -/
theorem Path.congr (h : Path next head cells stop) (hsame : ∀ cell ∈ cells, next' cell = next cell) :
    Path next' head cells stop := by
  induction cells generalizing head with
  | nil => exact h
  | cons cell cells ih =>
      refine ⟨h.1, ?_⟩
      rw [hsame cell (List.mem_cons_self ..)]
      exact ih h.2 fun other hother => hsame other (List.mem_cons_of_mem _ hother)

end LinkedChain
