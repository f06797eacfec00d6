import Mathlib.Data.List.Count
import Mathlib.Data.List.Infix
import Mathlib.Data.List.Perm.Subperm
import Mathlib.Tactic.Common

namespace Occurrence

variable {α : Type} [DecidableEq α]

/-- The entry at the index is the value, and the value occurs `k` times before it. -/
def Occurs (entries : List α) (value : α) (k index : Nat) : Prop :=
  entries[index]? = some value ∧ (entries.take index).count value = k

variable {entries later : List α} {value : α} {k index other : Nat}

instance : Decidable (Occurs entries value k index) := inferInstanceAs (Decidable (_ ∧ _))

theorem Occurs.lt_length (occurs : Occurs entries value k index) : index < entries.length :=
  (List.getElem?_eq_some_iff.mp occurs.1).1

theorem Occurs.extend (occurs : Occurs entries value k index) (inside : entries <+: later) :
    Occurs later value k index := by
  rcases inside with ⟨back, rfl⟩
  have bound := occurs.lt_length
  refine ⟨?_, ?_⟩
  · rw [List.getElem?_append_left bound]
    exact occurs.1
  · rw [List.take_append_of_le_length (Nat.le_of_lt bound)]
    exact occurs.2

theorem Occurs.restrict (occurs : Occurs later value k index) (inside : entries <+: later)
    (bound : index < entries.length) : Occurs entries value k index := by
  rcases inside with ⟨back, rfl⟩
  rcases occurs with ⟨found, counted⟩
  rw [List.getElem?_append_left bound] at found
  rw [List.take_append_of_le_length (Nat.le_of_lt bound)] at counted
  exact ⟨found, counted⟩

theorem count_take_succ (found : entries[index]? = some value) :
    (entries.take (index + 1)).count value = (entries.take index).count value + 1 := by
  rw [List.take_add_one, found, Option.toList_some, List.count_append, List.count_singleton_self]

theorem Occurs.not_lt (first : Occurs entries value k index)
    (second : Occurs entries value k other) : ¬index < other := by
  intro before
  have counted := count_take_succ first.1
  have sub : (entries.take (index + 1)).Sublist (entries.take other) :=
    List.take_sublist_take_left before
  have most := sub.count_le value
  rw [second.2] at most
  rw [first.2] at counted
  omega

theorem Occurs.unique (first : Occurs entries value k index)
    (second : Occurs entries value k other) : index = other :=
  Nat.le_antisymm (Nat.not_lt.mp (second.not_lt first)) (Nat.not_lt.mp (first.not_lt second))

theorem occurs_append_self (entries : List α) (value : α) :
    Occurs (entries ++ [value]) value (entries.count value) entries.length :=
  ⟨List.getElem?_concat_length, by rw [List.take_left]⟩

theorem exists_occurs (inside : k < entries.count value) :
    ∃ index, Occurs entries value k index := by
  induction entries using List.reverseRecOn with
  | nil => cases inside
  | append_singleton front last ih =>
      have grown : front <+: front ++ [last] := List.prefix_append _ _
      by_cases earlier : k < front.count value
      · rcases ih earlier with ⟨index, occurs⟩
        exact ⟨index, occurs.extend grown⟩
      · by_cases same : last = value
        · subst same
          rw [List.count_append, List.count_singleton_self] at inside
          have exact_k : k = front.count last := by omega
          rw [exact_k]
          exact ⟨front.length, occurs_append_self _ _⟩
        · rw [List.count_append, List.count_singleton, if_neg (by simpa using same)] at inside
          omega

theorem countP_le_of_places {β : Type} {entries : List β} {P : β → Bool} {place : β → Nat}
    {bound : Nat} (below : ∀ entry ∈ entries, P entry = true → place entry < bound)
    (apart : entries.Pairwise
      (fun first second => P first = true → P second = true → place first ≠ place second)) :
    entries.countP P ≤ bound := by
  have distinct : ((entries.filter P).map place).Nodup :=
    List.pairwise_map.mpr (List.pairwise_filter.mpr apart)
  have inside : (entries.filter P).map place ⊆ List.range bound := by
    intro held member
    rcases List.mem_map.mp member with ⟨entry, kept, rfl⟩
    rcases List.mem_filter.mp kept with ⟨there, holds⟩
    exact List.mem_range.mpr (below entry there holds)
  have fits := (distinct.subperm inside).length_le
  rw [List.length_map, List.length_range] at fits
  rw [List.countP_eq_length_filter]
  exact fits

end Occurrence
