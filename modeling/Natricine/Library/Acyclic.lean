import Mathlib.Data.Fintype.Card
import Mathlib.Data.Set.Finite.Basic
import Mathlib.Logic.Relation

namespace Graph

open Relation

variable {α : Type} {edge : α → α → Prop} {start : α}

/-- Finitely much is reached from the start, and nothing of it reaches itself. -/
structure Acyclic (edge : α → α → Prop) (start : α) : Prop where
  finite : {other | ReflTransGen edge start other}.Finite
  irreflexive : ∀ other, ReflTransGen edge start other → ¬TransGen edge other other

theorem Acyclic.acc (acyclic : Acyclic edge start) :
    Acc (fun next here => edge here next) start := by
  let Reached := {other // ReflTransGen edge start other}
  let above (next here : Reached) : Prop := TransGen edge here.val next.val
  have : Finite Reached := acyclic.finite.to_subtype
  have : IsTrans Reached above := ⟨fun _ _ _ first second => second.trans first⟩
  have : Std.Irrefl above := ⟨fun here => acyclic.irreflexive here.val here.property⟩
  have founded : WellFounded above := Finite.wellFounded_of_trans_of_irrefl above
  have each : ∀ here : Reached, Acc (fun next here => edge here next) here.val := by
    intro here
    induction here using founded.induction with
    | _ here ih =>
      constructor
      intro next along
      exact ih ⟨next, here.property.tail along⟩ (.single along)
  exact each ⟨start, .refl⟩

theorem acyclic_of_rank [Finite α] (rank : α → ℕ)
    (lower : ∀ here next, edge here next → rank next < rank here) : Acyclic edge start := by
  have below : ∀ here next, TransGen edge here next → rank next < rank here := by
    intro here next along
    induction along with
    | single along => exact lower _ _ along
    | tail _ along ih => exact Nat.lt_trans (lower _ _ along) ih
  exact ⟨Set.toFinite _, fun other _ along => Nat.lt_irrefl _ (below other other along)⟩

end Graph
