import Mathlib.Data.List.Find
import Mathlib.Tactic.Common

/-!
# Lookups that take the first hit

A table is searched for the first entry that passes a test, while its users mean the entries that are
right. Every right entry that passes is found only if no wrong one passes before it.
-/

namespace FirstMatch

variable {α β : Type*}

section First

variable {passes : α → Prop} [DecidablePred passes] {entries : List α} {entry : α}

theorem exists_find? (hmem : entry ∈ entries) (hpasses : passes entry) :
    ∃ first, entries.find? passes = some first :=
  Option.isSome_iff_exists.mp (List.find?_isSome.mpr ⟨entry, hmem, decide_eq_true hpasses⟩)

theorem of_find? (hfind : entries.find? passes = some entry) : entry ∈ entries ∧ passes entry :=
  ⟨List.mem_of_find?_eq_some hfind, by simpa using List.find?_some hfind⟩

theorem find?_congr {passes' : α → Prop} [DecidablePred passes']
    (h : ∀ entry ∈ entries, (passes entry ↔ passes' entry)) :
    entries.find? passes = entries.find? passes' :=
  List.find?_congr fun entry hmem => decide_eq_decide.mpr (h entry hmem)

end First

/-- A lookup answers with every right entry, and with nothing where there is none. -/
structure Exact (right : α → Prop) (value : α → β) (entries : List α) (answer : Option β) : Prop where
  present : ∀ entry ∈ entries, right entry → answer = some (value entry)
  absent : (∀ entry ∈ entries, ¬ right entry) → answer = none

/-- The first entry that passes has the value of every right one, and nothing passes where no entry is
right. -/
structure Unshadowed (right passes : α → Prop) [DecidablePred passes] (value found : α → β)
    (entries : List α) : Prop where
  first : ∀ entry ∈ entries, right entry →
    ∃ first, entries.find? passes = some first ∧ found first = value entry
  none : (∀ entry ∈ entries, ¬ right entry) → ∀ entry ∈ entries, ¬ passes entry

theorem exact_find?_iff (right passes : α → Prop) [DecidablePred passes] (value found : α → β)
    (entries : List α) :
    Exact right value entries ((entries.find? passes).map found) ↔
      Unshadowed right passes value found entries := by
  constructor
  · rintro ⟨hpresent, habsent⟩
    refine ⟨fun entry hmem hright => ?_, fun hnone => ?_⟩
    · exact Option.map_eq_some_iff.mp (hpresent entry hmem hright)
    · have hfind := Option.map_eq_none_iff.mp (habsent hnone)
      simpa using List.find?_eq_none.mp hfind
  · rintro ⟨hfirst, hnone⟩
    refine ⟨fun entry hmem hright => ?_, fun hwrong => ?_⟩
    · exact Option.map_eq_some_iff.mpr (hfirst entry hmem hright)
    · rw [Option.map_eq_none_iff, List.find?_eq_none]
      simpa using hnone hwrong

end FirstMatch
