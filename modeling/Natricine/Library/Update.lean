import Mathlib.Data.List.Basic
import Mathlib.Order.Defs.Unbundled

namespace Update

variable {α : Type} {entries : List α} {index : Nat} {old : α} (new : α)

instance decidableForallIndexed {P : Nat → α → Prop} [∀ place entry, Decidable (P place entry)]
    (entries : List α) :
    Decidable (∀ (place : Nat) entry, entries[place]? = some entry → P place entry) :=
  decidable_of_iff (∀ place : Fin entries.length, P place entries[place]) (by
    constructor
    · intro all place entry found
      rcases List.getElem?_eq_some_iff.mp found with ⟨bound, rfl⟩
      exact all ⟨place, bound⟩
    · intro all place
      exact all place _ (List.getElem?_eq_getElem place.isLt))

theorem getElem?_set_cases {place : Nat} {entry : α}
    (at_place : (entries.set index new)[place]? = some entry) :
    (place = index ∧ entry = new) ∨ (place ≠ index ∧ entries[place]? = some entry) := by
  by_cases same : place = index
  · subst same
    rcases List.getElem?_eq_some_iff.mp at_place with ⟨bound, value⟩
    rw [List.getElem_set_self] at value
    exact Or.inl ⟨rfl, value.symm⟩
  · rw [List.getElem?_set_ne (Ne.symm same)] at at_place
    exact Or.inr ⟨same, at_place⟩

theorem getElem?_append_cases {place : Nat} {entry : α}
    (at_place : (entries ++ [new])[place]? = some entry) :
    (place = entries.length ∧ entry = new) ∨ entries[place]? = some entry := by
  rcases Nat.lt_trichotomy place entries.length with before | here | beyond
  · rw [List.getElem?_append_left before] at at_place
    exact Or.inr at_place
  · subst here
    rw [List.getElem?_concat_length] at at_place
    exact Or.inl ⟨rfl, (Option.some.inj at_place).symm⟩
  · rw [List.getElem?_eq_none (by simp only [List.length_append, List.length_singleton]; omega)]
      at at_place
    cases at_place

theorem getElem?_append_of_some {place : Nat} {entry : α}
    (at_place : entries[place]? = some entry) : (entries ++ [new])[place]? = some entry := by
  rcases List.getElem?_eq_some_iff.mp at_place with ⟨bound, -⟩
  rw [List.getElem?_append_left bound, at_place]

theorem modify_eq_set (change : α → α) (found : entries[index]? = some old) :
    entries.modify index change = entries.set index (change old) := by
  apply List.ext_getElem?
  intro place
  by_cases same : index = place
  · subst same
    rcases List.getElem?_eq_some_iff.mp found with ⟨bound, -⟩
    rw [List.getElem?_modify_eq, found, List.getElem?_set_self bound]
    rfl
  · rw [List.getElem?_modify_ne _ _ same, List.getElem?_set_ne same]

theorem mem_set_of_mem (found : entries[index]? = some old) {entry : α} (member : entry ∈ entries) :
    entry ∈ entries.set index new ∨ entry = old := by
  obtain ⟨place, at_place⟩ := List.mem_iff_getElem?.mp member
  by_cases same : place = index
  · right
    rw [same, found] at at_place
    exact (Option.some.inj at_place).symm
  · left
    apply List.mem_iff_getElem?.mpr
    exact ⟨place, by rw [List.getElem?_set_ne (Ne.symm same), at_place]⟩

theorem new_mem_set (found : entries[index]? = some old) : new ∈ entries.set index new := by
  obtain ⟨bound, -⟩ := List.getElem?_eq_some_iff.mp found
  exact List.mem_set bound new

theorem exists_mem_set_iff {P : α → Prop} (found : entries[index]? = some old)
    (same : P new ↔ P old) :
    (∃ entry ∈ entries.set index new, P entry) ↔ ∃ entry ∈ entries, P entry := by
  constructor
  · rintro ⟨entry, member, holds⟩
    rcases List.mem_or_eq_of_mem_set member with member | rfl
    · exact ⟨entry, member, holds⟩
    · exact ⟨old, List.mem_of_getElem? found, same.mp holds⟩
  · rintro ⟨entry, member, holds⟩
    rcases mem_set_of_mem new found member with member | rfl
    · exact ⟨entry, member, holds⟩
    · exact ⟨new, new_mem_set new found, same.mpr holds⟩

theorem exists_mem_set_or_iff {P : α → Prop} (found : entries[index]? = some old)
    (keeps : P old → P new) :
    (∃ entry ∈ entries.set index new, P entry) ↔ (∃ entry ∈ entries, P entry) ∨ P new := by
  constructor
  · rintro ⟨entry, member, holds⟩
    rcases List.mem_or_eq_of_mem_set member with member | rfl
    · exact Or.inl ⟨entry, member, holds⟩
    · exact Or.inr holds
  · rintro (⟨entry, member, holds⟩ | holds)
    · rcases mem_set_of_mem new found member with member | rfl
      · exact ⟨entry, member, holds⟩
      · exact ⟨new, new_mem_set new found, keeps holds⟩
    · exact ⟨new, new_mem_set new found, holds⟩

theorem forall_mem_set_iff {P : α → Prop} (found : entries[index]? = some old)
    (same : P new ↔ P old) :
    (∀ entry ∈ entries.set index new, P entry) ↔ ∀ entry ∈ entries, P entry := by
  constructor
  · intro all entry member
    rcases mem_set_of_mem new found member with member | rfl
    · exact all entry member
    · exact same.mp (all new (new_mem_set new found))
  · intro all entry member
    rcases List.mem_or_eq_of_mem_set member with member | rfl
    · exact all entry member
    · exact same.mpr (all old (List.mem_of_getElem? found))

theorem map_set_eq {β : Type} {f : α → β} (found : entries[index]? = some old)
    (same : f new = f old) : (entries.set index new).map f = entries.map f := by
  rw [List.map_set, same]
  apply List.ext_getElem?
  intro place
  by_cases here : index = place
  · subst here
    obtain ⟨bound, -⟩ := List.getElem?_eq_some_iff.mp found
    rw [List.getElem?_set_self (by simpa using bound), List.getElem?_map, found]
    rfl
  · rw [List.getElem?_set_ne here]

theorem filterMap_set_eq {β : Type} {f : α → Option β} (found : entries[index]? = some old)
    (same : f new = f old) : (entries.set index new).filterMap f = entries.filterMap f := by
  have mapped : ∀ list : List α, list.filterMap f = (list.map f).filterMap id := by
    intro list
    rw [List.filterMap_map, Function.id_comp]
  rw [mapped, mapped, map_set_eq new found same]

omit new in
theorem filterMap_single {β : Type} {f : α → Option β} (found : entries[index]? = some old)
    (others : ∀ (place : Nat) entry, entries[place]? = some entry → place ≠ index →
      f entry = none) : entries.filterMap f = (f old).toList := by
  induction entries generalizing index with
  | nil => cases found
  | cons head rest ih =>
      cases index with
      | zero =>
          cases found
          have none_later : rest.filterMap f = [] := by
            apply List.filterMap_eq_nil_iff.mpr
            intro entry member
            rcases List.mem_iff_getElem?.mp member with ⟨place, at_place⟩
            exact others (place + 1) entry at_place (Nat.succ_ne_zero place)
          cases kept : f old with
          | none => rw [List.filterMap_cons_none kept, none_later, Option.toList_none]
          | some value => rw [List.filterMap_cons_some kept, none_later, Option.toList_some]
      | succ index =>
          rw [List.filterMap_cons_none (others 0 head rfl (Nat.succ_ne_zero index).symm)]
          apply ih found
          intro place entry at_place differs
          exact others (place + 1) entry at_place (fun same => differs (Nat.succ.inj same))

def Persists (R : α → α → Prop) (before after : List α) : Prop :=
  ∀ (place : Nat) old, before[place]? = some old → ∃ new, after[place]? = some new ∧ R old new

section Persists

variable {R : α → α → Prop} [IsPreorder α R]

omit new in
theorem persists_refl (entries : List α) : Persists R entries entries :=
  fun _ old found => ⟨old, found, refl_of R old⟩

theorem persists_set (found : entries[index]? = some old) (related : R old new) :
    Persists R entries (entries.set index new) := by
  intro place entry here
  by_cases same : place = index
  · subst same
    rw [found] at here
    cases here
    exact ⟨new, List.getElem?_set_self (List.getElem?_eq_some_iff.mp found).1, related⟩
  · exact ⟨entry, by rw [List.getElem?_set_ne (Ne.symm same)]; exact here, refl_of R entry⟩

theorem persists_append : Persists R entries (entries ++ [new]) :=
  fun _ old found => ⟨old, getElem?_append_of_some new found, refl_of R old⟩

end Persists

end Update
