import Natricine.Library.Effect

namespace Effect

structure Logged (η τ : Type) where
  log : List η
  rest : τ
  deriving DecidableEq, Repr

variable {ε η τ α : Type}

def unlogged (action : Effect ε τ α) : Effect ε (Logged η τ) α :=
  ExceptT.mk fun s => ((exec action s.rest).1, { s with rest := (exec action s.rest).2 })

def logged (entry : Except ε α → η) (action : Effect ε τ α) : Effect ε (Logged η τ) α :=
  ExceptT.mk fun s => ((exec action s.rest).1,
    ⟨s.log ++ [entry (exec action s.rest).1], (exec action s.rest).2⟩)

def note (entry : η) : Effect ε (Logged η τ) Unit :=
  modify (fun s => { s with log := s.log ++ [entry] })

theorem exec_logged (entry : Except ε α → η) (action : Effect ε τ α) (s : Logged η τ) :
    exec (logged entry action) s =
      ((exec action s.rest).1,
        ⟨s.log ++ [entry (exec action s.rest).1], (exec action s.rest).2⟩) := rfl

@[simp] theorem exec_note (entry : η) (s : Logged η τ) :
    exec (note entry : Effect ε (Logged η τ) Unit) s =
      (.ok (), { s with log := s.log ++ [entry] }) := rfl

def Appends (P : η → Prop) (s t : Logged η τ) : Prop :=
  ∃ later, t.log = s.log ++ later ∧ ∀ entry ∈ later, P entry

section Appends

variable {P Q : η → Prop}

theorem Appends.refl (s : Logged η τ) : Appends P s s :=
  ⟨[], (List.append_nil _).symm, fun _ none => absurd none List.not_mem_nil⟩

instance : IsPreorder (Logged η τ) (Appends P) where
  refl := Appends.refl
  trans s t u first second := by
    rcases first with ⟨front, begun, early⟩
    rcases second with ⟨back, ended, late⟩
    refine ⟨front ++ back, ?_, ?_⟩
    · rw [ended, begun, List.append_assoc]
    · intro entry member
      rcases List.mem_append.mp member with before | after
      · exact early entry before
      · exact late entry after

theorem unlogged_appends (action : Effect ε τ α) : Keeps (Appends P) (unlogged action) :=
  fun _ => Appends.refl _

theorem logged_appends {entry : Except ε α → η} (each : ∀ result, P (entry result))
    (action : Effect ε τ α) : Keeps (Appends P) (logged entry action) := by
  intro s
  refine ⟨[entry (exec action s.rest).1], rfl, ?_⟩
  intro other member
  rw [List.mem_singleton.mp member]
  exact each _

end Appends

def Adds (Q : Except ε α → List η → Prop) (action : Effect ε (Logged η τ) α) : Prop :=
  ∀ s, ∃ later, (exec action s).2.log = s.log ++ later ∧ Q (exec action s).1 later

section Adds

variable {β : Type} {Q : Except ε α → List η → Prop} {R : Except ε β → List η → Prop}
  {action : Effect ε (Logged η τ) α}

theorem adds_pure {value : α} (holds : Q (.ok value) []) :
    Adds Q (pure value : Effect ε (Logged η τ) α) :=
  fun s => ⟨[], (List.append_nil s.log).symm, holds⟩

theorem adds_throw {e : ε} (holds : Q (.error e) []) :
    Adds Q (throw e : Effect ε (Logged η τ) α) :=
  fun s => ⟨[], (List.append_nil s.log).symm, holds⟩

theorem adds_unlogged {inner : Effect ε τ α} (holds : ∀ result, Q result []) :
    Adds Q (unlogged inner : Effect ε (Logged η τ) α) :=
  fun s => ⟨[], (List.append_nil s.log).symm, holds _⟩

theorem adds_logged {entry : Except ε α → η} {inner : Effect ε τ α}
    (holds : ∀ s, Q (exec inner s).1 [entry (exec inner s).1]) : Adds Q (logged entry inner) :=
  fun s => ⟨_, rfl, holds s.rest⟩

theorem Adds.mono {Q R : Except ε α → List η → Prop} (adds : Adds Q action)
    (weaker : ∀ result later, Q result later → R result later) : Adds R action := by
  intro s
  rcases adds s with ⟨later, added, holds⟩
  exact ⟨later, added, weaker _ _ holds⟩

theorem Adds.bind (first : Adds Q action) {next : α → Effect ε (Logged η τ) β}
    (returned : ∀ value front, Q (.ok value) front →
      Adds (fun result back => R result (front ++ back)) (next value))
    (raised : ∀ e front, Q (.error e) front → R (.error e) front) : Adds R (action >>= next) := by
  intro s
  rcases first s with ⟨front, added, holds⟩
  rw [exec_bind]
  generalize exec action s = ended at added holds ⊢
  rcases ended with ⟨result, t⟩
  cases result with
  | error e => exact ⟨front, added, raised e front holds⟩
  | ok value =>
      rcases returned value front holds t with ⟨back, appended, after⟩
      refine ⟨front ++ back, ?_, after⟩
      rw [appended, added, List.append_assoc]

theorem adds_note_bind {entry : η} {next : Unit → Effect ε (Logged η τ) β}
    (rest : Adds (fun result back => R result (entry :: back)) (next ())) :
    Adds R (note entry >>= next) := by
  intro s
  rcases rest { s with log := s.log ++ [entry] } with ⟨back, added, holds⟩
  refine ⟨entry :: back, ?_, holds⟩
  rw [exec_bind, exec_note]
  exact added.trans (List.append_cons s.log entry back).symm

theorem Adds.tryCatch (body : Adds Q action) {handle : ε → Effect ε (Logged η τ) α}
    {R : Except ε α → List η → Prop} (returned : ∀ value front, Q (.ok value) front →
      R (.ok value) front)
    (raised : ∀ e front, Q (.error e) front →
      Adds (fun result back => R result (front ++ back)) (handle e)) :
    Adds R (tryCatch action handle) := by
  intro s
  rcases body s with ⟨front, added, holds⟩
  rw [exec_tryCatch]
  generalize exec action s = ended at added holds ⊢
  rcases ended with ⟨result, t⟩
  cases result with
  | ok value => exact ⟨front, added, returned value front holds⟩
  | error e =>
      rcases raised e front holds t with ⟨back, appended, after⟩
      refine ⟨front ++ back, ?_, after⟩
      rw [appended, added, List.append_assoc]

end Adds

end Effect
