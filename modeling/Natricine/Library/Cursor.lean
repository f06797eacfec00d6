import Mathlib.Data.List.Basic

/-! Reading a list by position while others edit it. The entries before the position have
been passed, the others lie ahead; an edit is harmless to the reader when it leaves every
entry on its side. -/

namespace Cursor

variable {α : Type} {entries : List α} {cursor : Nat}

def passed (entries : List α) (cursor : Nat) : List α := entries.take cursor

def ahead (entries : List α) (cursor : Nat) : List α := entries.drop cursor

def Undisturbed (entries : List α) (cursor : Nat) (gone : α) : Prop :=
  gone ∈ passed entries cursor → ahead entries cursor = []

instance [DecidableEq α] (entries : List α) (cursor : Nat) (gone : α) :
    Decidable (Undisturbed entries cursor gone) :=
  inferInstanceAs (Decidable (_ → _))

theorem mem_iff_passed_or_ahead (entries : List α) (cursor : Nat) (entry : α) :
    entry ∈ entries ↔ entry ∈ passed entries cursor ∨ entry ∈ ahead entries cursor := by
  rw [passed, ahead, ← List.mem_append, List.take_append_drop]

theorem not_mem_passed_zero (entry : α) : entry ∉ passed entries 0 := by
  rw [passed, List.take_zero]
  exact List.not_mem_nil

theorem ahead_eq_cons {next : α} (found : entries[cursor]? = some next) :
    ahead entries cursor = next :: ahead entries (cursor + 1) := by
  rcases List.getElem?_eq_some_iff.mp found with ⟨bound, rfl⟩
  exact List.drop_eq_getElem_cons bound

theorem mem_passed_succ {next entry : α} (found : entries[cursor]? = some next) :
    entry ∈ passed entries (cursor + 1) ↔ entry ∈ passed entries cursor ∨ entry = next := by
  rcases List.getElem?_eq_some_iff.mp found with ⟨bound, rfl⟩
  rw [passed, List.take_succ_eq_append_getElem bound, List.mem_append, List.mem_singleton]
  rfl

theorem mem_passed_of_end (finished : entries[cursor]? = none) {entry : α}
    (member : entry ∈ entries) : entry ∈ passed entries cursor := by
  rw [passed, List.take_of_length_le (List.getElem?_eq_none_iff.mp finished)]
  exact member

theorem not_passed_of_ahead (distinct : entries.Nodup) {entry : α}
    (member : entry ∈ ahead entries cursor) : entry ∉ passed entries cursor := by
  intro behind
  rw [← List.take_append_drop cursor entries] at distinct
  exact (List.nodup_append.mp distinct).2.2 entry behind entry member rfl

theorem next_not_ahead (distinct : entries.Nodup) {next : α}
    (found : entries[cursor]? = some next) : next ∉ ahead entries (cursor + 1) := by
  intro member
  exact not_passed_of_ahead distinct member ((mem_passed_succ found).mpr (Or.inr rfl))

theorem mem_passed_append {last entry : α} (member : entry ∈ passed (entries ++ [last]) cursor) :
    entry ∈ passed entries cursor ∨ entry = last := by
  rw [passed, List.take_append] at member
  rcases List.mem_append.mp member with member | member
  · exact Or.inl member
  · exact Or.inr (List.mem_singleton.mp (List.mem_of_mem_take member))

theorem mem_ahead_append {last entry : α} (member : entry ∈ ahead (entries ++ [last]) cursor) :
    entry ∈ ahead entries cursor ∨ entry = last := by
  rw [ahead, List.drop_append] at member
  rcases List.mem_append.mp member with member | member
  · exact Or.inl member
  · exact Or.inr (List.mem_singleton.mp (List.mem_of_mem_drop member))

private theorem length_take_of_not_end (more : entries.drop cursor ≠ []) :
    (entries.take cursor).length = cursor := by
  rw [List.length_take]
  apply Nat.min_eq_left
  by_contra beyond
  exact more (List.drop_eq_nil_of_le (Nat.le_of_lt (Nat.lt_of_not_le beyond)))

section Erase

variable [DecidableEq α] {gone entry : α}

private theorem erase_ahead (ahead_of : gone ∉ entries.take cursor) :
    entries.erase gone = entries.take cursor ++ (entries.drop cursor).erase gone := by
  rw [← List.erase_append_right _ ahead_of, List.take_append_drop]

private theorem erase_at_end (finished : entries.drop cursor = []) :
    (entries.erase gone).length ≤ cursor :=
  Nat.le_trans (List.erase_sublist).length_le (List.drop_eq_nil_iff.mp finished)

theorem mem_passed_erase (undisturbed : Undisturbed entries cursor gone)
    (member : entry ∈ passed (entries.erase gone) cursor) : entry ∈ passed entries cursor := by
  by_cases finished : ahead entries cursor = []
  · have whole : passed entries cursor = entries :=
      List.take_of_length_le (List.drop_eq_nil_iff.mp finished)
    rw [whole]
    exact List.mem_of_mem_erase (List.mem_of_mem_take member)
  · have stays : gone ∉ entries.take cursor := fun behind => finished (undisturbed behind)
    rw [passed, erase_ahead stays,
      List.take_left' (length_take_of_not_end finished)] at member
    exact member

theorem mem_ahead_erase (undisturbed : Undisturbed entries cursor gone)
    (member : entry ∈ ahead (entries.erase gone) cursor) : entry ∈ ahead entries cursor := by
  by_cases finished : ahead entries cursor = []
  · rw [ahead, List.drop_eq_nil_of_le (erase_at_end finished)] at member
    cases member
  · have stays : gone ∉ entries.take cursor := fun behind => finished (undisturbed behind)
    rw [ahead, erase_ahead stays,
      List.drop_left' (length_take_of_not_end finished)] at member
    exact List.mem_of_mem_erase member

end Erase

end Cursor
