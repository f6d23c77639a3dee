import Mathlib.Algebra.GroupWithZero.Nat
import Mathlib.Data.List.Forall2

/-!
# Cutting lists at a position

Histories only grow at the end and queues are suffixes of histories; these lemmas move the cut.
-/

namespace ListCuts

variable {α β : Type*}

theorem getElem?_append_of_some {l : List α} {i : Nat} {x : α} (h : l[i]? = some x)
    (l' : List α) : (l ++ l')[i]? = some x := by
  rw [List.getElem?_append_left (List.getElem?_eq_some_iff.mp h).1]
  exact h

/-- Moving a cut of a list past the element right behind it. -/
theorem cut_succ {l rest : List α} {k : Nat} {x : α} (h : l.drop k = x :: rest) :
    k < l.length ∧ l[k]? = some x ∧ l.take (k + 1) = l.take k ++ [x] ∧ l.drop (k + 1) = rest := by
  have hlt : k < l.length := by
    by_contra hle
    rw [List.drop_eq_nil_of_le (by omega)] at h
    exact List.cons_ne_nil x rest h.symm
  have hget : l[k]? = some x := by
    have hhead := congrArg List.head? h
    rwa [List.head?_drop, List.head?_cons] at hhead
  refine ⟨hlt, hget, ?_, ?_⟩
  · rw [List.take_add_one, hget]
    rfl
  · rw [← List.drop_drop, h]
    rfl

/-- A list around one of its positions, with what replacing or erasing that position gives. -/
theorem exists_around {l : List α} {i : Nat} {x : α} (h : l[i]? = some x) :
    ∃ front back, l = front ++ x :: back ∧ (∀ y, l.set i y = front ++ y :: back) ∧
      l.eraseIdx i = front ++ back := by
  obtain ⟨hlt, hget⟩ := List.getElem?_eq_some_iff.mp h
  refine ⟨l.take i, l.drop (i + 1), ?_, fun y => ?_, List.eraseIdx_eq_take_drop_succ l i⟩
  · rw [← hget, List.getElem_cons_drop, List.take_append_drop]
  · rw [List.set_eq_take_append_cons_drop, if_pos hlt]

theorem countP_set {p : α → Bool} {l : List α} {i : Nat} {x : α} (h : l[i]? = some x) (y : α) :
    (l.set i y).countP p + (p x).toNat = l.countP p + (p y).toNat := by
  obtain ⟨front, back, rfl, hset, -⟩ := exists_around h
  rw [hset, List.countP_append, List.countP_append, List.countP_cons, List.countP_cons]
  cases p x <;> cases p y <;> simp <;> omega

theorem countP_eraseIdx {p : α → Bool} {l : List α} {i : Nat} {x : α} (h : l[i]? = some x) :
    (l.eraseIdx i).countP p + (p x).toNat = l.countP p := by
  obtain ⟨front, back, rfl, -, herase⟩ := exists_around h
  rw [herase, List.countP_append, List.countP_append, List.countP_cons]
  cases p x
  · simp
  · simp only [Bool.toNat_true, if_true]
    omega

theorem sum_map_set {f : α → Nat} {l : List α} {i : Nat} {x : α} (h : l[i]? = some x) (y : α) :
    ((l.set i y).map f).sum + f x = (l.map f).sum + f y := by
  obtain ⟨front, back, rfl, hset, -⟩ := exists_around h
  rw [hset, List.map_append, List.map_append, List.map_cons, List.map_cons, List.sum_append,
    List.sum_append, List.sum_cons, List.sum_cons]
  omega

theorem sum_map_eraseIdx {f : α → Nat} {l : List α} {i : Nat} {x : α} (h : l[i]? = some x) :
    ((l.eraseIdx i).map f).sum + f x = (l.map f).sum := by
  obtain ⟨front, back, rfl, -, herase⟩ := exists_around h
  rw [herase, List.map_append, List.map_append, List.map_cons, List.sum_append, List.sum_append,
    List.sum_cons]
  omega

theorem mem_around {front back : List α} {x y : α} :
    y ∈ front ++ x :: back ↔ y = x ∨ y ∈ front ++ back := by
  rw [List.perm_middle.mem_iff, List.mem_cons]

theorem forall₂_split {R : α → β → Prop} {l : List α} {front back : List β} {x : β}
    (h : List.Forall₂ R l (front ++ x :: back)) :
    ∃ lfront y lback, l = lfront ++ y :: lback ∧ List.Forall₂ R lfront front ∧ R y x ∧
      List.Forall₂ R lback back := by
  have htake := List.forall₂_take_append l front (x :: back) h
  have hdrop := List.forall₂_drop_append l front (x :: back) h
  obtain ⟨y, lback, hy, hback, hcons⟩ := List.forall₂_cons_right_iff.mp hdrop
  refine ⟨l.take front.length, y, lback, ?_, htake, hy, hback⟩
  rw [← hcons, List.take_append_drop]

theorem forall₂_getElem? {R : α → β → Prop} {l : List α} {m : List β} {i : Nat} {x : α} {y : β}
    (h : List.Forall₂ R l m) (hx : l[i]? = some x) (hy : m[i]? = some y) : R x y := by
  obtain ⟨hl, rfl⟩ := List.getElem?_eq_some_iff.mp hx
  obtain ⟨hm, rfl⟩ := List.getElem?_eq_some_iff.mp hy
  exact h.get hl hm

theorem forall₂_eraseIdx {R : α → β → Prop} {l : List α} {m : List β} (h : List.Forall₂ R l m)
    (i : Nat) : List.Forall₂ R (l.eraseIdx i) (m.eraseIdx i) := by
  rw [List.eraseIdx_eq_take_drop_succ, List.eraseIdx_eq_take_drop_succ]
  exact List.rel_append (List.forall₂_take i h) (List.forall₂_drop (i + 1) h)

theorem forall₂_set {R : α → β → Prop} {l : List α} {m : List β} (h : List.Forall₂ R l m) (i : Nat)
    {x : α} {y : β} (hxy : R x y) : List.Forall₂ R (l.set i x) (m.set i y) := by
  rw [List.set_eq_take_append_cons_drop, List.set_eq_take_append_cons_drop, ← h.length_eq]
  split_ifs
  · exact List.rel_append (List.forall₂_take i h) (.cons hxy (List.forall₂_drop (i + 1) h))
  · exact h

end ListCuts
