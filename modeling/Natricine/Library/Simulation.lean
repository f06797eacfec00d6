import Natricine.Library.Effect

/-! Two computations on different states that end alike: the one may do more than the other, as
long as the relation between their states does not tell. -/

namespace Effect

variable {ε σ τ α β : Type}

/-- From related states the two end alike, in related states. -/
def Simulates (R : σ → τ → Prop) (concrete : Effect ε σ α) (abstract : Effect ε τ α) : Prop :=
  ∀ s t, R s t →
    (exec concrete s).1 = (exec abstract t).1 ∧ R (exec concrete s).2 (exec abstract t).2

/-- The computation returns, and the relation does not tell that it was there. -/
def Silent (R : σ → τ → Prop) (action : Effect ε σ α) : Prop :=
  ∀ s t, R s t → (∃ value, (exec action s).1 = .ok value) ∧ R (exec action s).2 t

variable {R : σ → τ → Prop}

theorem simulates_pure (value : α) :
    Simulates R (pure value : Effect ε σ α) (pure value : Effect ε τ α) :=
  fun _ _ related => ⟨rfl, related⟩

theorem simulates_throw (e : ε) :
    Simulates R (throw e : Effect ε σ α) (throw e : Effect ε τ α) :=
  fun _ _ related => ⟨rfl, related⟩

theorem silent_pure (value : α) : Silent R (pure value : Effect ε σ α) :=
  fun _ _ related => ⟨⟨value, rfl⟩, related⟩

theorem Simulates.bind {concrete : Effect ε σ α} {abstract : Effect ε τ α}
    (first : Simulates R concrete abstract) {next : α → Effect ε σ β} {after : α → Effect ε τ β}
    (rest : ∀ value, Simulates R (next value) (after value)) :
    Simulates R (concrete >>= next) (abstract >>= after) := by
  intro s t related
  have both := first s t related
  rw [exec_bind, exec_bind]
  generalize exec concrete s = one at both ⊢
  generalize exec abstract t = two at both ⊢
  rcases one with ⟨result, u⟩
  rcases two with ⟨_, v⟩
  rcases both with ⟨rfl, still⟩
  cases result with
  | error e => exact ⟨rfl, still⟩
  | ok value => exact rest value u v still

theorem Simulates.tryCatch {concrete : Effect ε σ α} {abstract : Effect ε τ α}
    (body : Simulates R concrete abstract) {handle : ε → Effect ε σ α}
    {rescue : ε → Effect ε τ α} (rest : ∀ e, Simulates R (handle e) (rescue e)) :
    Simulates R (tryCatch concrete handle) (tryCatch abstract rescue) := by
  intro s t related
  have both := body s t related
  rw [exec_tryCatch, exec_tryCatch]
  generalize exec concrete s = one at both ⊢
  generalize exec abstract t = two at both ⊢
  rcases one with ⟨result, u⟩
  rcases two with ⟨_, v⟩
  rcases both with ⟨rfl, still⟩
  cases result with
  | error e => exact rest e u v still
  | ok value => exact ⟨rfl, still⟩

theorem Silent.before {action : Effect ε σ α} (silent : Silent R action)
    {next : α → Effect ε σ β} {abstract : Effect ε τ β}
    (rest : ∀ value, Simulates R (next value) abstract) :
    Simulates R (action >>= next) abstract := by
  intro s t related
  have unseen := silent s t related
  rw [exec_bind]
  generalize exec action s = one at unseen ⊢
  rcases one with ⟨_, u⟩
  rcases unseen with ⟨⟨value, rfl⟩, still⟩
  exact rest value u t still

theorem Simulates.passing {concrete : Effect ε σ α} {abstract : Effect ε τ α}
    (body : Simulates R concrete abstract) {leave : α → Effect ε σ α}
    (returned : ∀ value, Simulates R (leave value) (pure value : Effect ε τ α)) :
    Simulates R (concrete >>= leave) abstract := by
  intro s t related
  have both := body s t related
  rw [exec_bind]
  generalize exec concrete s = one at both ⊢
  generalize exec abstract t = two at both ⊢
  rcases one with ⟨result, u⟩
  rcases two with ⟨_, v⟩
  rcases both with ⟨rfl, still⟩
  cases result with
  | error e => exact ⟨rfl, still⟩
  | ok value => exact returned value u v still

theorem Simulates.rethrowing {concrete : Effect ε σ α} {abstract : Effect ε τ α}
    (body : Simulates R concrete abstract) {handle : ε → Effect ε σ α}
    (raised : ∀ e, Simulates R (handle e) (throw e : Effect ε τ α)) :
    Simulates R (MonadExcept.tryCatch concrete handle) abstract := by
  intro s t related
  have both := body s t related
  rw [exec_tryCatch]
  generalize exec concrete s = one at both ⊢
  generalize exec abstract t = two at both ⊢
  rcases one with ⟨result, u⟩
  rcases two with ⟨_, v⟩
  rcases both with ⟨rfl, still⟩
  cases result with
  | error e => exact raised e u v still
  | ok value => exact ⟨rfl, still⟩

theorem simulates_mapM {entries : List α} {concrete : α → Effect ε σ β}
    {abstract : α → Effect ε τ β}
    (each : ∀ entry ∈ entries, Simulates R (concrete entry) (abstract entry)) :
    Simulates R (entries.mapM concrete) (entries.mapM abstract) := by
  induction entries with
  | nil =>
      rw [List.mapM_nil, List.mapM_nil]
      exact simulates_pure []
  | cons entry rest ih =>
      rw [List.mapM_cons, List.mapM_cons]
      apply (each entry List.mem_cons_self).bind
      intro value
      apply Simulates.bind (ih fun later member => each later (List.mem_cons_of_mem entry member))
      intro values
      exact simulates_pure _

end Effect
