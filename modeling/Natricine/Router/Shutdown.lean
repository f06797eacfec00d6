import Natricine.Library.Transition
import Natricine.Service.Processing

/-! `graceful_shutdown`: a watcher that closes one item after another once a signal has come, in a
task group that the end of the body cancels. -/

namespace Natricine.Shutdown

open Service Transition

/-- The task of `shutdown_watcher`: it waits for the event, it awaits the `close()` of an item
with `rest` still to come, or it is over. -/
inductive Watcher (κ : Type) where
  | waiting
  | closing (item : κ) (rest : List κ)
  | ended (outcome : Await Unit)
  deriving DecidableEq, Repr

/-- `event` is `shutdown_event`, `body` how the body of the context has ended, `cancelled` whether
the scope of the group is. `calls` are the `close()` calls that are over. The code does not read
`early`: whether a signal came before the body had ended. -/
structure State (κ : Type) where
  event : Bool
  early : Bool
  body : Option (Await Unit)
  cancelled : Bool
  watcher : Watcher κ
  calls : List (κ × Await Unit)
  exited : Bool
  deriving DecidableEq, Repr

inductive Event where
  | signal
  | wake
  | closeEnds (outcome : Except Exn Unit)
  | cancelWatcher
  | bodyEnds (outcome : Await Unit)
  | interrupt
  | exit
  deriving DecidableEq, Repr

variable {κ : Type}

def initial (κ : Type) : State κ := ⟨false, false, none, false, .waiting, [], false⟩

namespace Watcher

def next : List κ → Watcher κ
  | [] => .ended (.returned ())
  | item :: rest => .closing item rest

def isEnded : Watcher κ → Bool
  | .ended _ => true
  | .waiting | .closing _ _ => false

def rest : Watcher κ → List κ
  | .closing _ rest => rest
  | .waiting | .ended _ => []

def ahead (closeables : List κ) : Watcher κ → List κ
  | .waiting => closeables
  | .closing item rest => item :: rest
  | .ended _ => []

end Watcher

/-- A `close()` that suspends has no step of its own: others may come before its end. An await of
the watcher in a cancelled scope raises the cancellation. -/
def step (closeables : List κ) (s : State κ) : Event → Option (State κ)
  | .signal =>
      if s.exited then none
      else some { s with event := true, early := s.early || s.body.isNone }
  | .wake =>
      match s.watcher with
      | .waiting => if s.event then some { s with watcher := .next closeables } else none
      | .closing _ _ | .ended _ => none
  | .closeEnds outcome =>
      match s.watcher with
      | .closing item rest =>
          match outcome with
          | .ok _ =>
              some { s with calls := s.calls ++ [(item, .returned ())], watcher := .next rest }
          | .error exn =>
              some { s with
                calls := s.calls ++ [(item, .raised exn)]
                watcher := .ended (.raised exn)
                cancelled := true }
      | .waiting | .ended _ => none
  | .cancelWatcher =>
      if s.cancelled then
        match s.watcher with
        | .waiting => some { s with watcher := .ended .cancelled }
        | .closing item _ =>
            some { s with calls := s.calls ++ [(item, .cancelled)], watcher := .ended .cancelled }
        | .ended _ => none
      else none
  | .bodyEnds outcome =>
      if s.body = none ∧ (outcome = .cancelled → s.cancelled = true) then
        some { s with body := some outcome, cancelled := true }
      else none
  | .interrupt => if s.exited then none else some { s with cancelled := true }
  | .exit =>
      if s.exited = false ∧ s.body.isSome ∧ s.watcher.isEnded = true then
        some { s with exited := true }
      else none

/-- The context has exited, and a signal had come before its body ended: every closeable was
closed, and no `close()` was cut off. -/
def ClosedAll (closeables : List κ) (s : State κ) : Prop :=
  s.early = true → s.calls.map Prod.fst = closeables ∧ ∀ call ∈ s.calls, call.2 ≠ .cancelled

/-- Once the signal has come, no `close()` but the last one raises, and no await of the watcher
falls into the cancelled scope; and the first signal finds the watcher waiting. -/
def LeftAlone (closeables : List κ) (s : State κ) : Event → Prop
  | .closeEnds (.error _) => s.early = true → s.watcher.rest = []
  | .cancelWatcher => s.early = true → closeables = []
  | .signal => s.event = false → s.body = none → s.watcher.isEnded = true → closeables = []
  | .wake | .closeEnds (.ok _) | .bodyEnds _ | .interrupt | .exit => True

instance [DecidableEq κ] (closeables : List κ) (s : State κ) :
    (e : Event) → Decidable (LeftAlone closeables s e)
  | .closeEnds (.error _) | .cancelWatcher => inferInstanceAs (Decidable (_ → _))
  | .signal => inferInstanceAs (Decidable (_ → _ → _ → _))
  | .wake | .closeEnds (.ok _) | .bodyEnds _ | .interrupt | .exit => isTrue trivial

structure Sequential (closeables : List κ) (s : State κ) : Prop where
  order : s.watcher.isEnded = false →
    s.calls.map Prod.fst ++ s.watcher.ahead closeables = closeables ∧
      ∀ call ∈ s.calls, call.2 ≠ .cancelled
  asleep : s.event = false → s.calls = [] ∧ ∀ item rest, s.watcher ≠ .closing item rest
  early : s.early = true → s.event = true
  late : s.event = true → s.early = true ∨ s.body ≠ none
  outlived : s.exited = true → s.watcher.isEnded = true

def Onward (closeables : List κ) (s : State κ) : Prop :=
  s.early = true → s.calls.map Prod.fst ++ s.watcher.ahead closeables = closeables ∧
    ∀ call ∈ s.calls, call.2 ≠ .cancelled

section Steps

variable {closeables : List κ} {s t : State κ} {e : Event}

theorem initial_sequential (closeables : List κ) : Sequential closeables (initial κ) :=
  ⟨fun _ => ⟨rfl, fun _ none => absurd none List.not_mem_nil⟩, fun _ => ⟨rfl, nofun⟩, nofun,
    nofun, nofun⟩

theorem ahead_next (items : List κ) : (Watcher.next items).ahead closeables = items := by
  cases items <;> rfl

inductive Taken (closeables : List κ) (s : State κ) : Event → State κ → Prop where
  | signal : Taken closeables s .signal { s with event := true, early := s.early || s.body.isNone }
  | wake (waiting : s.watcher = .waiting) (set : s.event = true) :
      Taken closeables s .wake { s with watcher := .next closeables }
  | closed (item : κ) (rest : List κ) (closing : s.watcher = .closing item rest) :
      Taken closeables s (.closeEnds (.ok ()))
        { s with calls := s.calls ++ [(item, .returned ())], watcher := .next rest }
  | failed (item : κ) (rest : List κ) (exn : Exn) (closing : s.watcher = .closing item rest) :
      Taken closeables s (.closeEnds (.error exn))
        { s with
          calls := s.calls ++ [(item, .raised exn)]
          watcher := .ended (.raised exn)
          cancelled := true }
  | dropped (waiting : s.watcher = .waiting) :
      Taken closeables s .cancelWatcher { s with watcher := .ended .cancelled }
  | cut (item : κ) (rest : List κ) (closing : s.watcher = .closing item rest) :
      Taken closeables s .cancelWatcher
        { s with calls := s.calls ++ [(item, .cancelled)], watcher := .ended .cancelled }
  | bodyEnds (outcome : Await Unit) (unfinished : s.body = none) :
      Taken closeables s (.bodyEnds outcome) { s with body := some outcome, cancelled := true }
  | interrupt : Taken closeables s .interrupt { s with cancelled := true }
  | exit (ended : s.watcher.isEnded = true) : Taken closeables s .exit { s with exited := true }

theorem taken_of_step (taken : step closeables s e = some t) : Taken closeables s e t := by
  cases e with
  | signal =>
      simp only [step] at taken
      split at taken
      · cases taken
      · cases taken
        exact .signal
  | wake =>
      simp only [step] at taken
      split at taken
      · rename_i waiting
        split at taken
        · rename_i set
          cases taken
          exact .wake waiting set
        · cases taken
      all_goals cases taken
  | closeEnds outcome =>
      simp only [step] at taken
      split at taken
      · rename_i item rest closing
        cases outcome with
        | ok value =>
            cases taken
            exact .closed item rest closing
        | error exn =>
            cases taken
            exact .failed item rest exn closing
      all_goals cases taken
  | cancelWatcher =>
      simp only [step] at taken
      split at taken
      · split at taken
        · rename_i waiting
          cases taken
          exact .dropped waiting
        · rename_i item rest closing
          cases taken
          exact .cut item rest closing
        · cases taken
      · cases taken
  | bodyEnds outcome =>
      simp only [step] at taken
      split at taken
      · rename_i both
        cases taken
        exact .bodyEnds outcome both.1
      · cases taken
  | interrupt =>
      simp only [step] at taken
      split at taken
      · cases taken
      · cases taken
        exact .interrupt
  | exit =>
      simp only [step] at taken
      split at taken
      · rename_i all
        cases taken
        exact .exit all.2.2
      · cases taken

theorem Sequential.closing (inv : Sequential closeables s) {item : κ} {rest : List κ}
    (closing : s.watcher = .closing item rest) :
    s.calls.map Prod.fst ++ item :: rest = closeables ∧ (∀ call ∈ s.calls, call.2 ≠ .cancelled) ∧
      s.event = true := by
  have order := inv.order (by rw [closing, Watcher.isEnded])
  rw [closing] at order
  refine ⟨order.1, order.2, ?_⟩
  cases set : s.event with
  | true => rfl
  | false => exact absurd closing ((inv.asleep set).2 item rest)

theorem uncut_append {calls : List (κ × Await Unit)} (uncut : ∀ call ∈ calls, call.2 ≠ .cancelled)
    {item : κ} {outcome : Await Unit} (ran : outcome ≠ .cancelled) :
    ∀ call ∈ calls ++ [(item, outcome)], call.2 ≠ .cancelled := by
  intro call member
  rcases List.mem_append.mp member with old | new
  · exact uncut call old
  · rw [List.mem_singleton.mp new]
    exact ran

theorem Sequential.open (inv : Sequential closeables s) (active : s.watcher.isEnded = false)
    {P : Prop} (exited : s.exited = true) : P := by
  have ended := inv.outlived exited
  rw [active] at ended
  cases ended

theorem step_sequential (inv : Sequential closeables s) (taken : step closeables s e = some t) :
    Sequential closeables t := by
  cases taken_of_step taken with
  | signal =>
      refine ⟨inv.order, nofun, fun _ => rfl, ?_, inv.outlived⟩
      intro _
      cases here : s.body with
      | none => exact Or.inl (Bool.or_true _)
      | some outcome => exact Or.inr nofun
  | wake waiting set =>
      have active : s.watcher.isEnded = false := by rw [waiting, Watcher.isEnded]
      refine ⟨?_, ?_, inv.early, inv.late, inv.open active⟩
      · intro _
        have order := inv.order active
        rw [waiting] at order
        rw [ahead_next]
        exact order
      · intro unset
        rw [set] at unset
        cases unset
  | closed item rest closing =>
      have active : s.watcher.isEnded = false := by rw [closing, Watcher.isEnded]
      rcases inv.closing closing with ⟨order, uncut, set⟩
      refine ⟨?_, ?_, inv.early, inv.late, inv.open active⟩
      · intro _
        refine ⟨?_, uncut_append uncut nofun⟩
        rw [ahead_next, List.map_append, List.append_assoc]
        exact order
      · intro unset
        rw [set] at unset
        cases unset
  | failed item rest exn closing =>
      rcases inv.closing closing with ⟨-, -, set⟩
      refine ⟨nofun, ?_, inv.early, inv.late, fun _ => rfl⟩
      intro unset
      rw [set] at unset
      cases unset
  | dropped waiting =>
      refine ⟨nofun, ?_, inv.early, inv.late, fun _ => rfl⟩
      intro unset
      exact ⟨(inv.asleep unset).1, nofun⟩
  | cut item rest closing =>
      rcases inv.closing closing with ⟨-, -, set⟩
      refine ⟨nofun, ?_, inv.early, inv.late, fun _ => rfl⟩
      intro unset
      rw [set] at unset
      cases unset
  | bodyEnds outcome unfinished =>
      refine ⟨inv.order, inv.asleep, inv.early, ?_, inv.outlived⟩
      intro _
      exact Or.inr nofun
  | interrupt => exact ⟨inv.order, inv.asleep, inv.early, inv.late, inv.outlived⟩
  | exit ended => exact ⟨inv.order, inv.asleep, inv.early, inv.late, fun _ => ended⟩

theorem ahead_of_isEnded {watcher : Watcher κ} (ended : watcher.isEnded = true) :
    watcher.ahead closeables = [] := by
  cases watcher with
  | waiting => cases ended
  | closing item rest => cases ended
  | ended outcome => rfl

theorem signal_leftAlone_iff (inv : Sequential closeables s) (onward : Onward closeables s) :
    LeftAlone closeables s .signal ↔
      Onward closeables { s with event := true, early := s.early || s.body.isNone } := by
  constructor
  · intro alone early
    rw [Bool.or_eq_true] at early
    rcases early with was | none
    · exact onward was
    have unfinished := Option.isNone_iff_eq_none.mp none
    cases set : s.event with
    | true =>
        rcases inv.late set with was | ended
        · exact onward was
        · exact absurd unfinished ended
    | false =>
        cases ended : s.watcher.isEnded with
        | false => exact inv.order ended
        | true =>
            rw [alone set unfinished ended, (inv.asleep set).1, ahead_of_isEnded ended]
            exact ⟨rfl, fun _ none => absurd none List.not_mem_nil⟩
  · intro whole unset unfinished ended
    have order := (whole (by rw [unfinished]; exact Bool.or_true _)).1
    rw [(inv.asleep unset).1, ahead_of_isEnded ended] at order
    exact order.symm

theorem failed_leftAlone_iff (inv : Sequential closeables s) {item : κ} {rest : List κ} (exn : Exn)
    (closing : s.watcher = .closing item rest) :
    LeftAlone closeables s (.closeEnds (.error exn)) ↔
      Onward closeables
        { s with
          calls := s.calls ++ [(item, .raised exn)]
          watcher := .ended (.raised exn)
          cancelled := true } := by
  rcases inv.closing closing with ⟨order, uncut, -⟩
  constructor
  · intro last early
    refine ⟨?_, uncut_append uncut nofun⟩
    have none := last early
    rw [closing, Watcher.rest] at none
    rw [none] at order
    rw [List.map_append]
    exact (List.append_nil _).trans order
  · intro whole early
    rw [closing, Watcher.rest]
    have covered := (whole early).1
    rw [List.map_append] at covered
    have lengths := congrArg List.length (covered.trans order.symm)
    simp only [Watcher.ahead, List.append_nil, List.length_append, List.length_map,
      List.length_cons, List.length_nil] at lengths
    exact List.length_eq_zero_iff.mp (by omega)

theorem leftAlone_iff (inv : Sequential closeables s) (onward : Onward closeables s)
    (taken : step closeables s e = some t) : LeftAlone closeables s e ↔ Onward closeables t := by
  cases taken_of_step taken with
  | signal => exact signal_leftAlone_iff inv onward
  | wake waiting set =>
      refine iff_of_true trivial ?_
      intro early
      have order := onward early
      rw [waiting] at order
      rw [ahead_next]
      exact order
  | closed item rest closing =>
      refine iff_of_true trivial ?_
      intro early
      have order := onward early
      rw [closing] at order
      refine ⟨?_, uncut_append order.2 nofun⟩
      rw [ahead_next, List.map_append, List.append_assoc]
      exact order.1
  | failed item rest exn closing => exact failed_leftAlone_iff inv exn closing
  | dropped waiting =>
      have order := (inv.order (by rw [waiting, Watcher.isEnded])).1
      have none : s.calls = [] := by
        rw [waiting, Watcher.ahead] at order
        have lengths := congrArg List.length order
        rw [List.length_append, List.length_map] at lengths
        exact List.length_eq_zero_iff.mp (by omega)
      constructor
      · intro alone early
        rw [none]
        exact ⟨(alone early).symm, fun _ member => absurd member List.not_mem_nil⟩
      · intro whole early
        have covered := (whole early).1
        rw [none] at covered
        exact covered.symm
  | cut item rest closing =>
      rcases inv.closing closing with ⟨order, -, -⟩
      constructor
      · intro alone early
        rw [alone early] at order
        exact absurd order (by simp)
      · intro whole early
        have uncut := (whole early).2 (item, .cancelled)
          (List.mem_append_right _ List.mem_cons_self)
        exact absurd rfl uncut
  | bodyEnds outcome unfinished => exact iff_of_true trivial onward
  | interrupt => exact iff_of_true trivial onward
  | exit ended => exact iff_of_true trivial onward

theorem onward_before (inv : Sequential closeables s) (taken : step closeables s e = some t)
    (onward : Onward closeables t) : Onward closeables s := by
  intro early
  cases ended : s.watcher.isEnded with
  | false => exact inv.order ended
  | true =>
      cases taken_of_step taken with
      | signal => exact onward (by rw [early]; rfl)
      | wake waiting set => rw [waiting] at ended; cases ended
      | closed item rest closing => rw [closing] at ended; cases ended
      | failed item rest exn closing => rw [closing] at ended; cases ended
      | dropped waiting => rw [waiting] at ended; cases ended
      | cut item rest closing => rw [closing] at ended; cases ended
      | bodyEnds outcome unfinished => exact onward early
      | interrupt => exact onward early
      | exit ended => exact onward early

end Steps

/-- For every list of closeables, every behaviour of their `close()` and every interleaving with
the body: once the context has exited, everything has been closed if and only if the watcher was
left alone. -/
theorem closed_all_iff_left_alone {closeables : List κ} {events : List Event} {u : State κ}
    (run : exec (step closeables) (initial κ) events = some u) (exited : u.exited = true) :
    ClosedAll closeables u ↔ Along (step closeables) (LeftAlone closeables) (initial κ) events := by
  have start := initial_sequential closeables
  have inv : Sequential closeables u :=
    exec_preserves (fun _ _ _ inv taken => step_sequential inv taken) start run
  have none_ahead : u.watcher.ahead closeables = [] := by
    have ended := inv.outlived exited
    cases watcher : u.watcher with
    | ended outcome => rfl
    | waiting =>
        rw [watcher] at ended
        cases ended
    | closing item rest =>
        rw [watcher] at ended
        cases ended
  have final : Onward closeables u ↔
      Along (step closeables) (LeftAlone closeables) (initial κ) events := by
    apply final_iff_along (J := Sequential closeables) _ _ _ start nofun run
    · exact fun _ _ _ inv taken => step_sequential inv taken
    · exact fun _ _ _ inv onward taken => leftAlone_iff inv onward taken
    · exact fun _ _ _ inv taken onward => onward_before inv taken onward
  rw [← final, ClosedAll, Onward, none_ahead, List.append_nil]

def patientBody : List Event :=
  [.signal, .wake, .closeEnds (.ok ()), .closeEnds (.ok ()), .bodyEnds (.returned ()), .exit]

def endedBody : List Event :=
  [.signal, .wake, .closeEnds (.ok ()), .bodyEnds (.returned ()), .cancelWatcher, .exit]

theorem patient_body_closes_all :
    ∃ u ∈ exec (step ["router", "event_bus"]) (initial String) patientBody,
      u.exited = true ∧ ClosedAll ["router", "event_bus"] u := by
  have run : exec (step ["router", "event_bus"]) (initial String) patientBody = some
      ⟨true, true, some (.returned ()), true, .ended (.returned ()),
        [("router", .returned ()), ("event_bus", .returned ())], true⟩ := rfl
  exact ⟨_, run, rfl, (closed_all_iff_left_alone run rfl).mpr (by decide)⟩

theorem ended_body_cuts_off_close :
    ∃ u ∈ exec (step ["router", "event_bus"]) (initial String) endedBody,
      u.exited = true ∧ ¬ClosedAll ["router", "event_bus"] u := by
  refine ⟨_, rfl, rfl, ?_⟩
  intro closed
  exact (closed rfl).2 ("event_bus", .cancelled) (by decide) rfl

end Natricine.Shutdown
