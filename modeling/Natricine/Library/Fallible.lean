import Mathlib.Data.List.Forall2
import Mathlib.Tactic.Common

namespace Fallible

variable {ε α β : Type} {first : Except ε α} {next : α → Except ε β} {result : β}

@[simp] theorem ok_bind (value : α) (next : α → Except ε β) :
    Except.ok value >>= next = next value := rfl

@[simp] theorem error_bind (e : ε) (next : α → Except ε β) :
    Except.error e >>= next = .error e := rfl

theorem bind_eq_ok_iff :
    first >>= next = .ok result ↔ ∃ value, first = .ok value ∧ next value = .ok result := by
  cases first with
  | error e => exact ⟨nofun, nofun⟩
  | ok value =>
      constructor
      · exact fun returned => ⟨value, rfl, returned⟩
      · rintro ⟨_, same, returned⟩
        cases same
        exact returned

def Returns (first : Except ε α) : Prop := ∃ value, first = .ok value

@[simp] theorem returns_ok (value : α) : Returns (.ok value : Except ε α) := ⟨value, rfl⟩

@[simp] theorem not_returns_error (e : ε) : ¬Returns (.error e : Except ε α) := nofun

theorem returns_bind_iff :
    Returns (first >>= next) ↔ ∃ value, first = .ok value ∧ Returns (next value) := by
  cases first with
  | error e => exact ⟨nofun, nofun⟩
  | ok value =>
      constructor
      · exact fun returns => ⟨value, rfl, returns⟩
      · rintro ⟨_, same, returns⟩
        cases same
        exact returns

theorem mapM_eq_ok_iff {turn : α → Except ε β} {entries : List α} {results : List β} :
    entries.mapM turn = .ok results ↔
      List.Forall₂ (fun entry result => turn entry = .ok result) entries results := by
  induction entries generalizing results with
  | nil =>
      rw [List.mapM_nil, List.forall₂_nil_left_iff]
      exact ⟨fun same => (Except.ok.inj same).symm, fun none => none ▸ rfl⟩
  | cons entry rest ih =>
      rw [List.mapM_cons, bind_eq_ok_iff, List.forall₂_cons_left_iff]
      constructor
      · rintro ⟨value, here, later⟩
        rcases bind_eq_ok_iff.mp later with ⟨values, others, same⟩
        exact ⟨value, values, here, ih.mp others, (Except.ok.inj same).symm⟩
      · rintro ⟨value, values, here, others, rfl⟩
        exact ⟨value, here, bind_eq_ok_iff.mpr ⟨values, ih.mpr others, rfl⟩⟩

theorem mapM_returns_iff {turn : α → Except ε β} {entries : List α} :
    Returns (entries.mapM turn) ↔ ∀ entry ∈ entries, Returns (turn entry) := by
  induction entries with
  | nil => exact iff_of_true ⟨[], rfl⟩ (fun _ member => absurd member List.not_mem_nil)
  | cons entry rest ih =>
      rw [List.mapM_cons, returns_bind_iff, List.forall_mem_cons, ← ih]
      constructor
      · rintro ⟨value, here, later⟩
        rcases returns_bind_iff.mp later with ⟨values, others, -⟩
        exact ⟨⟨value, here⟩, values, others⟩
      · rintro ⟨⟨value, here⟩, values, others⟩
        exact ⟨value, here, returns_bind_iff.mpr ⟨values, others, returns_ok _⟩⟩

def orRaise (error : ε) : Option α → Except ε α
  | some value => .ok value
  | none => .error error

@[simp] theorem orRaise_eq_ok_iff {error : ε} {given : Option α} {value : α} :
    orRaise error given = .ok value ↔ given = some value := by
  cases given <;> simp [orRaise]

theorem returns_orRaise_iff {error : ε} {given : Option α} :
    Returns (orRaise error given) ↔ given.isSome = true := by
  simp [Returns, Option.isSome_iff_exists]

end Fallible
