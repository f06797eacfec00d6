import Mathlib.Data.List.Infix
import Mathlib.Tactic.Common

/-! Runs of a system given by a partial step function on states and events. A run is a
list of events; what an event may not do in a state, the step refuses. -/

namespace Transition

variable {σ ε : Type} (step : σ → ε → Option σ)

def exec : σ → List ε → Option σ
  | s, [] => some s
  | s, e :: events => (step s e).bind (fun t => exec t events)

/-- Every step of the run, with the state it is taken in, satisfies `P`. -/
def Along (P : σ → ε → Prop) : σ → List ε → Prop
  | _, [] => True
  | s, e :: events => P s e ∧ ∀ t, step s e = some t → Along P t events

def Visits (s : σ) (events : List ε) (t : σ) : Prop :=
  ∃ front, front <+: events ∧ exec step s front = some t

/-- In every state of the run, the first and the last included, `I` holds. -/
def Throughout (I : σ → Prop) (s : σ) (events : List ε) : Prop :=
  ∀ t, Visits step s events t → I t

variable {step}

theorem exec_cons {s : σ} {e : ε} {events : List ε} {u : σ} :
    exec step s (e :: events) = some u ↔
      ∃ t, step s e = some t ∧ exec step t events = some u := by
  rw [exec, Option.bind_eq_some_iff]

theorem exec_singleton {s : σ} {e : ε} : exec step s [e] = step s e := by
  cases next : step s e <;> simp [exec, next]

theorem exec_append {s u : σ} {front back : List ε} :
    exec step s (front ++ back) = some u ↔
      ∃ t, exec step s front = some t ∧ exec step t back = some u := by
  induction front generalizing s with
  | nil => simp [exec]
  | cons e front ih =>
      rw [List.cons_append, exec_cons]
      constructor
      · rintro ⟨t, first, rest⟩
        obtain ⟨v, middle, last⟩ := ih.mp rest
        exact ⟨v, exec_cons.mpr ⟨t, first, middle⟩, last⟩
      · rintro ⟨v, whole, last⟩
        obtain ⟨t, first, middle⟩ := exec_cons.mp whole
        exact ⟨t, first, ih.mpr ⟨v, middle, last⟩⟩

instance decidableAlong {P : σ → ε → Prop} [∀ s e, Decidable (P s e)] :
    (s : σ) → (events : List ε) → Decidable (Along step P s events)
  | _, [] => isTrue trivial
  | s, e :: events =>
      match next : step s e with
      | none => decidable_of_iff (P s e) (by simp [Along, next])
      | some t =>
          have := decidableAlong (P := P) t events
          decidable_of_iff (P s e ∧ Along step P t events) (by simp [Along, next])

theorem along_of_forall {P : σ → ε → Prop} {events : List ε} (always : ∀ e ∈ events, ∀ s, P s e)
    (s : σ) : Along step P s events := by
  induction events generalizing s with
  | nil => trivial
  | cons e events ih =>
      refine ⟨always e List.mem_cons_self s, ?_⟩
      intro t _
      exact ih (fun other member => always other (List.mem_cons_of_mem e member)) t

theorem along_and {P Q : σ → ε → Prop} {s : σ} {events : List ε}
    (first : Along step P s events) (second : Along step Q s events) :
    Along step (fun s e => P s e ∧ Q s e) s events := by
  induction events generalizing s with
  | nil => trivial
  | cons e events ih =>
      refine ⟨⟨first.1, second.1⟩, ?_⟩
      intro t taken
      exact ih (first.2 t taken) (second.2 t taken)

theorem along_front {P : σ → ε → Prop} {s : σ} {front events : List ε}
    (guarded : Along step P s events) (inside : front <+: events) : Along step P s front := by
  induction front generalizing s events with
  | nil => trivial
  | cons e front ih =>
      rcases inside with ⟨back, rfl⟩
      refine ⟨guarded.1, ?_⟩
      intro t taken
      exact ih (guarded.2 t taken) (List.prefix_append front back)

theorem along_append {P : σ → ε → Prop} {s : σ} {front back : List ε} :
    Along step P s (front ++ back) ↔
      Along step P s front ∧ ∀ t, exec step s front = some t → Along step P t back := by
  induction front generalizing s with
  | nil => simp [Along, exec]
  | cons e front ih =>
      rw [List.cons_append, Along, Along, and_assoc]
      apply and_congr_right
      intro _
      constructor
      · intro guarded
        refine ⟨fun t first => (ih.mp (guarded t first)).1, ?_⟩
        intro u run
        rcases exec_cons.mp run with ⟨t, first, rest⟩
        exact (ih.mp (guarded t first)).2 u rest
      · rintro ⟨guarded, later⟩ t first
        apply ih.mpr
        exact ⟨guarded t first, fun u rest => later u (exec_cons.mpr ⟨t, first, rest⟩)⟩

theorem exec_invariant {P : σ → ε → Prop} {I : σ → Prop}
    (preserved : ∀ s e t, I s → P s e → step s e = some t → I t)
    {s u : σ} {events : List ε} (start : I s) (guarded : Along step P s events)
    (run : exec step s events = some u) : I u := by
  induction events generalizing s with
  | nil =>
      cases run
      exact start
  | cons e events ih =>
      obtain ⟨t, first, rest⟩ := exec_cons.mp run
      exact ih (preserved s e t start guarded.1 first) (guarded.2 t first) rest

theorem exec_preserves {I : σ → Prop}
    (preserved : ∀ s e t, I s → step s e = some t → I t)
    {s u : σ} {events : List ε} (start : I s)
    (run : exec step s events = some u) : I u :=
  exec_invariant (P := fun _ _ => True) (fun s e t holds _ => preserved s e t holds) start
    (along_of_forall (fun _ _ _ => trivial) s) run

theorem along_of_invariant {P Q : σ → ε → Prop} {I : σ → Prop}
    (preserved : ∀ s e t, I s → P s e → step s e = some t → I t)
    (implied : ∀ s e, I s → P s e → Q s e)
    {s : σ} {events : List ε} (start : I s) (guarded : Along step P s events) :
    Along step Q s events := by
  induction events generalizing s with
  | nil => trivial
  | cons e events ih =>
      refine ⟨implied s e start guarded.1, ?_⟩
      intro t first
      exact ih (preserved s e t start guarded.1 first) (guarded.2 t first)

theorem along_iff_of_invariant {P Q : σ → ε → Prop} {I : σ → Prop}
    (preserved : ∀ s e t, I s → step s e = some t → I t)
    (agree : ∀ s e, I s → (P s e ↔ Q s e)) {s : σ} {events : List ε} (start : I s) :
    Along step P s events ↔ Along step Q s events := by
  induction events generalizing s with
  | nil => exact Iff.rfl
  | cons e events ih =>
      rw [Along, Along, agree s e start]
      apply and_congr_right
      intro _
      apply forall_congr'
      intro t
      apply forall_congr'
      intro taken
      exact ih (preserved s e t start taken)

theorem exec_of_total (total : ∀ s e, ∃ t, step s e = some t) (s : σ) (events : List ε) :
    ∃ t, exec step s events = some t := by
  induction events generalizing s with
  | nil => exact ⟨s, rfl⟩
  | cons e events ih =>
      rcases total s e with ⟨t, first⟩
      rcases ih t with ⟨u, rest⟩
      exact ⟨u, exec_cons.mpr ⟨t, first, rest⟩⟩

theorem exec_mono {other : σ → ε → Option σ}
    (takes : ∀ s e t, step s e = some t → other s e = some t) {s u : σ} {events : List ε}
    (run : exec step s events = some u) : exec other s events = some u := by
  induction events generalizing s with
  | nil => exact run
  | cons e events ih =>
      rcases exec_cons.mp run with ⟨t, first, rest⟩
      exact exec_cons.mpr ⟨t, takes s e t first, ih rest⟩

theorem visits_self (s : σ) (events : List ε) : Visits step s events s :=
  ⟨[], List.nil_prefix, rfl⟩

theorem visits_cons {s t u : σ} {e : ε} {events : List ε} (first : step s e = some t)
    (visited : Visits step t events u) : Visits step s (e :: events) u := by
  obtain ⟨front, inside, run⟩ := visited
  exact ⟨e :: front, List.cons_prefix_cons.mpr ⟨rfl, inside⟩, exec_cons.mpr ⟨t, first, run⟩⟩

theorem visits_invariant {P : σ → ε → Prop} {I : σ → Prop}
    (preserved : ∀ s e t, I s → P s e → step s e = some t → I t)
    {s u : σ} {events : List ε} (start : I s) (guarded : Along step P s events)
    (visited : Visits step s events u) : I u := by
  rcases visited with ⟨front, inside, run⟩
  exact exec_invariant preserved start (along_front guarded inside) run

theorem throughout_nil {I : σ → Prop} {s : σ} : Throughout step I s [] ↔ I s := by
  constructor
  · intro throughout
    exact throughout s (visits_self s [])
  · intro holds t visited
    rcases visited with ⟨front, inside, run⟩
    rw [List.prefix_nil.mp inside] at run
    cases run
    exact holds

theorem throughout_cons {I : σ → Prop} {s : σ} {e : ε} {events : List ε} :
    Throughout step I s (e :: events) ↔
      I s ∧ ∀ t, step s e = some t → Throughout step I t events := by
  constructor
  · intro throughout
    refine ⟨throughout s (visits_self s _), ?_⟩
    intro t first u visited
    exact throughout u (visits_cons first visited)
  · intro split u visited
    rcases visited with ⟨front, inside, run⟩
    cases front with
    | nil =>
        cases run
        exact split.1
    | cons head front =>
        rcases List.cons_prefix_cons.mp inside with ⟨rfl, shorter⟩
        rcases exec_cons.mp run with ⟨t, first, rest⟩
        exact split.2 t first u ⟨front, shorter, rest⟩

instance decidableThroughout {I : σ → Prop} [∀ s, Decidable (I s)] :
    (s : σ) → (events : List ε) → Decidable (Throughout step I s events)
  | s, [] => decidable_of_iff (I s) throughout_nil.symm
  | s, e :: events =>
      match next : step s e with
      | none => decidable_of_iff (I s) (by simp [throughout_cons, next])
      | some t =>
          have := decidableThroughout (I := I) t events
          decidable_of_iff (I s ∧ Throughout step I t events) (by simp [throughout_cons, next])

theorem visits_preserves {I : σ → Prop}
    (preserved : ∀ s e t, I s → step s e = some t → I t)
    {s u : σ} {events : List ε} (start : I s) (visited : Visits step s events u) : I u := by
  obtain ⟨front, -, run⟩ := visited
  exact exec_preserves preserved start run

/-- Where the guard is exact at each step, it is exact over whole runs: the invariant
holds throughout a run if and only if the guard does. -/
theorem throughout_iff_along {P : σ → ε → Prop} {I : σ → Prop}
    (exact_step : ∀ s e t, I s → step s e = some t → (P s e ↔ I t))
    {s u : σ} {events : List ε} (start : I s) (run : exec step s events = some u) :
    Throughout step I s events ↔ Along step P s events := by
  induction events generalizing s with
  | nil => exact iff_of_true (throughout_nil.mpr start) trivial
  | cons e events ih =>
      rcases exec_cons.mp run with ⟨t, first, rest⟩
      rw [throughout_cons]
      constructor
      · intro split
        have remaining := split.2 t first
        have next : I t := remaining t (visits_self t events)
        refine ⟨(exact_step s e t start first).mpr next, ?_⟩
        intro other same
        rw [first] at same
        cases same
        exact (ih next rest).mp remaining
      · intro guarded
        refine ⟨start, ?_⟩
        intro other same
        rw [first] at same
        cases same
        have next : I t := (exact_step s e t start first).mp guarded.1
        exact (ih next rest).mpr (guarded.2 t first)

theorem throughout_iff_along_within {P : σ → ε → Prop} {I J : σ → Prop}
    (preserved : ∀ s e t, J s → step s e = some t → J t)
    (exact_step : ∀ s e t, J s → I s → step s e = some t → (P s e ↔ I t))
    {s u : σ} {events : List ε} (always : J s) (start : I s)
    (run : exec step s events = some u) :
    Throughout step I s events ↔ Along step P s events := by
  have both : Throughout step (fun t => J t ∧ I t) s events ↔ Along step P s events := by
    apply throughout_iff_along _ ⟨always, start⟩ run
    intro s e t holds taken
    rw [exact_step s e t holds.1 holds.2 taken]
    exact (and_iff_right (preserved s e t holds.1 taken)).symm
  rw [← both]
  constructor
  · intro throughout t visited
    exact ⟨visits_preserves preserved always visited, throughout t visited⟩
  · intro throughout t visited
    exact (throughout t visited).2

theorem exec_before {I J : σ → Prop} (preserved : ∀ s e t, J s → step s e = some t → J t)
    (lost : ∀ s e t, J s → step s e = some t → I t → I s) {s u : σ} {events : List ε}
    (always : J s) (run : exec step s events = some u) (holds : I u) : I s := by
  induction events generalizing s with
  | nil =>
      cases run
      exact holds
  | cons e events ih =>
      rcases exec_cons.mp run with ⟨t, first, rest⟩
      exact lost s e t always first (ih (preserved s e t always first) rest)

/-- Where the guard is exact at each step and no step restores what is lost, the guard holds along
a run if and only if nothing is lost at its end. -/
theorem final_iff_along {P : σ → ε → Prop} {I J : σ → Prop}
    (preserved : ∀ s e t, J s → step s e = some t → J t)
    (exact_step : ∀ s e t, J s → I s → step s e = some t → (P s e ↔ I t))
    (lost : ∀ s e t, J s → step s e = some t → I t → I s) {s u : σ} {events : List ε}
    (always : J s) (start : I s) (run : exec step s events = some u) :
    I u ↔ Along step P s events := by
  induction events generalizing s with
  | nil =>
      cases run
      exact iff_of_true start trivial
  | cons e events ih =>
      rcases exec_cons.mp run with ⟨t, first, rest⟩
      have still := preserved s e t always first
      constructor
      · intro holds
        have next : I t := exec_before preserved lost still rest holds
        refine ⟨(exact_step s e t always start first).mpr next, ?_⟩
        intro other same
        rw [first] at same
        cases same
        exact (ih still next rest).mp holds
      · intro guarded
        have next : I t := (exact_step s e t always start first).mp guarded.1
        exact (ih still next rest).mpr (guarded.2 t first)

end Transition
