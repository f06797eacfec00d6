import Mathlib.Order.Defs.Unbundled
import Mathlib.Tactic.Common

/-! Computations on a state that outlives exceptions: what one leaves behind when it returns and
when it throws, and the relations between the states before and after that all its parts keep. -/

abbrev Effect (ε σ α : Type) := ExceptT ε (StateM σ) α

namespace Effect

variable {ε σ α β : Type}

def exec (action : Effect ε σ α) (s : σ) : Except ε α × σ := action.run.run s

section Exec

variable {action : Effect ε σ α} {s t : σ}

@[simp] theorem exec_pure (value : α) (s : σ) :
    exec (pure value : Effect ε σ α) s = (.ok value, s) := rfl

@[simp] theorem exec_throw (e : ε) (s : σ) :
    exec (throw e : Effect ε σ α) s = (.error e, s) := rfl

@[simp] theorem exec_get (s : σ) : exec (get : Effect ε σ σ) s = (.ok s, s) := rfl

@[simp] theorem exec_modify (change : σ → σ) (s : σ) :
    exec (modify change : Effect ε σ PUnit) s = (.ok ⟨⟩, change s) := rfl

theorem exec_bind (next : α → Effect ε σ β) :
    exec (action >>= next) s =
      match exec action s with
      | (.ok value, t) => exec (next value) t
      | (.error e, t) => (.error e, t) := by
  have split : exec (action >>= next) s =
      exec (ExceptT.mk (ExceptT.bindCont next (exec action s).1)) (exec action s).2 := rfl
  rw [split]
  rcases exec action s with ⟨result, t⟩
  cases result <;> rfl

theorem exec_tryCatch (handle : ε → Effect ε σ α) :
    exec (tryCatch action handle) s =
      match exec action s with
      | (.ok value, t) => (.ok value, t)
      | (.error e, t) => exec (handle e) t := by
  have split : exec (tryCatch action handle) s =
      exec (ExceptT.mk (match (exec action s).1 with
        | .ok value => pure (.ok value)
        | .error e => (handle e).run)) (exec action s).2 := rfl
  rw [split]
  rcases exec action s with ⟨result, t⟩
  cases result <;> rfl

end Exec

def Keeps (R : σ → σ → Prop) (action : Effect ε σ α) : Prop := ∀ s, R s (exec action s).2

section Keeps

variable {R : σ → σ → Prop} [IsPreorder σ R] {action : Effect ε σ α}

theorem keeps_pure (value : α) : Keeps R (pure value : Effect ε σ α) := fun s => refl_of R s

theorem keeps_throw (e : ε) : Keeps R (throw e : Effect ε σ α) := fun s => refl_of R s

theorem Keeps.bind (first : Keeps R action) {next : α → Effect ε σ β}
    (rest : ∀ value, Keeps R (next value)) : Keeps R (action >>= next) := by
  intro s
  have kept := first s
  rw [exec_bind]
  rcases ended : exec action s with ⟨result, t⟩
  rw [ended] at kept
  cases result with
  | ok value => exact trans_of R kept (rest value t)
  | error e => exact kept

theorem Keeps.tryCatch (body : Keeps R action) {handle : ε → Effect ε σ α}
    (rest : ∀ e, Keeps R (handle e)) : Keeps R (tryCatch action handle) := by
  intro s
  have kept := body s
  rw [exec_tryCatch]
  rcases ended : exec action s with ⟨result, t⟩
  rw [ended] at kept
  cases result with
  | ok value => exact kept
  | error e => exact trans_of R kept (rest e t)

end Keeps

end Effect
