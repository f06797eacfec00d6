import Natricine.Library.Log
import Natricine.Router.Middleware
import Mathlib.Algebra.Order.Ring.Rat
import Mathlib.Data.Nat.Find

namespace Natricine.Router

open Effect PubSub

inductive RetryEvent where
  | invoked (msg : Message)
  | retried (attempt : Int) (failure : Failure) (msg : Message)
  | slept (delay : ℚ)
  deriving DecidableEq, Repr

abbrev Attempted := Logged RetryEvent Nat

abbrev Outcomes := Nat → Except Failure (List Message)

def attempting (outcomes : Outcomes) : HandlerFunc Attempted := fun msg =>
  ExceptT.mk fun s => ((outcomes s.rest).mapError .raised,
    ⟨s.log ++ [.invoked msg], s.rest + 1⟩)

/-- The arguments of `retry`, without jitter and with a callback that returns. -/
structure Retries where
  maxRetries : Nat
  delay : ℚ
  backoff : ℚ
  retryOn : Option (Failure → Bool)

def Retries.config (retries : Retries) : Retry Attempted where
  maxRetries := retries.maxRetries
  delay := retries.delay
  backoff := retries.backoff
  jitter := 0
  retryOn := retries.retryOn
  onRetry := some fun attempt failure msg => note (.retried attempt failure msg)

def sleeping (ambient : Ambient Attempted) : Ambient Attempted :=
  { ambient with sleep := fun delay => note (.slept delay) }

namespace Retries

/-- A `PermanentError`, or no instance of `retry_on`. -/
def Unretryable (retries : Retries) (failure : Failure) : Prop :=
  (∃ cause, failure = .permanentError cause) ∨
    ∃ isInstance, retries.retryOn = some isInstance ∧ isInstance failure = false

def Ends (retries : Retries) (outcomes : Outcomes) (attempt : Nat) : Prop :=
  (∃ outputs, outcomes attempt = .ok outputs) ∨
    (∃ failure, outcomes attempt = .error failure ∧ retries.Unretryable failure) ∨
    attempt = retries.maxRetries

/-- The first attempt that no other follows. -/
def IsLast (retries : Retries) (outcomes : Outcomes) (attempt : Nat) : Prop :=
  retries.Ends outcomes attempt ∧ ∀ before < attempt, ¬retries.Ends outcomes before

def round (retries : Retries) (outcomes : Outcomes) (msg : Message) (attempt : Nat) :
    List RetryEvent :=
  match outcomes attempt with
  | .ok _ => [.invoked msg]
  | .error failure => [.invoked msg, .retried (attempt + 1) failure.actual msg,
      .slept (retries.delay * retries.backoff ^ attempt)]

/-- How the last attempt is passed on. -/
def result (outcomes : Outcomes) (attempt : Nat) : Except Abort (List Message) :=
  match outcomes attempt with
  | .ok outputs => .ok outputs
  | .error failure => .error (.raised failure.actual)

section Attempts

variable {retries : Retries} {outcomes : Outcomes} {ambient : Ambient Attempted} {msg : Message}

theorem shouldRetry_iff (failure : Failure) :
    retries.config.shouldRetry failure = true ↔ ¬retries.Unretryable failure := by
  cases failure with
  | permanentError cause =>
      exact iff_of_false nofun (fun retryable => retryable (.inl ⟨cause, rfl⟩))
  | other exn =>
      rw [Retry.shouldRetry, config, Unretryable]
      cases retries.retryOn with
      | none => simp
      | some isInstance => simp

theorem exists_isLast (retries : Retries) (outcomes : Outcomes) :
    ∃ last, retries.IsLast outcomes last := by
  classical
  have ends : ∃ attempt, retries.Ends outcomes attempt :=
    ⟨retries.maxRetries, Or.inr (Or.inr rfl)⟩
  exact ⟨Nat.find ends, Nat.find_spec ends, fun before less => Nat.find_min ends less⟩

def raised (ambient : Ambient Attempted) (outcomes : Outcomes) (attempt : Nat) :
    Except Abort (List Message) :=
  match outcomes attempt with
  | .ok outputs => .ok outputs
  | .error failure => .error (.raised (Retry.raises ambient (some failure.actual)))

theorem exec_attempting (s : Attempted) :
    exec (attempting outcomes msg) s =
      ((outcomes s.rest).mapError .raised, ⟨s.log ++ [.invoked msg], s.rest + 1⟩) := rfl

theorem exec_last {attempt more : Nat} (here : retries.Ends outcomes attempt) (currentDelay : ℚ)
    (last : Option Failure) (log : List RetryEvent) :
    exec (retries.config.attempts ambient (attempting outcomes) msg (more + 1) attempt currentDelay
        last) ⟨log, attempt⟩ =
      (raised ambient outcomes attempt, ⟨log ++ [.invoked msg], attempt + 1⟩) := by
  rw [Retry.attempts, exec_tryCatch, exec_attempting, raised]
  cases ended : outcomes attempt with
  | ok outputs => rfl
  | error failure =>
      have done : ¬retries.config.shouldRetry failure = true ∨
          retries.config.maxRetries ≤ attempt := by
        rcases here with ⟨outputs, same⟩ | ⟨other, same, unretryable⟩ | same
        · rw [ended] at same
          cases same
        · rw [ended] at same
          cases same
          exact Or.inl (fun retried => (shouldRetry_iff failure).mp retried unretryable)
        · exact Or.inr (Int.ofNat_le.mpr (Nat.le_of_eq same.symm))
      simp only [Except.mapError]
      rw [if_pos done, exec_throw]

theorem exec_backOff (attempt : Int) (actual : Failure) (currentDelay : ℚ) (s : Attempted) :
    exec (retries.config.backOff (sleeping ambient) msg attempt actual currentDelay) s =
      (.ok (), { s with
        log := s.log ++ [.retried (attempt + 1) actual msg] ++ [.slept currentDelay] }) := by
  have base : retries.config.addJitter (sleeping ambient) currentDelay = pure currentDelay :=
    if_pos (le_refl (0 : ℚ))
  rw [Retry.backOff, base]
  rfl

theorem exec_round {attempt more : Nat} (within : attempt ≤ retries.maxRetries)
    (goesOn : ¬retries.Ends outcomes attempt) (last : Option Failure) (log : List RetryEvent) :
    ∃ failure, exec (retries.config.attempts (sleeping ambient) (attempting outcomes) msg (more + 1)
        attempt (retries.delay * retries.backoff ^ attempt) last) ⟨log, attempt⟩ =
      exec (retries.config.attempts (sleeping ambient) (attempting outcomes) msg more
        (attempt + 1 : Nat) (retries.delay * retries.backoff ^ (attempt + 1)) (some failure))
        ⟨log ++ retries.round outcomes msg attempt, attempt + 1⟩ := by
  rw [Ends, not_or, not_or] at goesOn
  rcases goesOn with ⟨failed, retryable, more_⟩
  cases ended : outcomes attempt with
  | ok outputs => exact absurd ⟨outputs, ended⟩ failed
  | error failure =>
      have undone : ¬(¬retries.config.shouldRetry failure = true ∨
          retries.config.maxRetries ≤ attempt) := by
        rw [not_or, not_not, shouldRetry_iff]
        refine ⟨fun unretryable => retryable ⟨failure, ended, unretryable⟩, fun beyond => more_ ?_⟩
        have bound : retries.maxRetries ≤ attempt := Int.ofNat_le.mp beyond
        omega
      refine ⟨failure.actual, ?_⟩
      rw [Retry.attempts, exec_tryCatch, exec_attempting, round, ended]
      simp only [Except.mapError]
      rw [if_neg undone, exec_bind, exec_backOff]
      dsimp only
      rw [pow_succ, ← mul_assoc, Nat.cast_succ]
      simp only [List.append_assoc, List.cons_append, List.nil_append]
      rfl

theorem exec_attempts {attempt rounds : Nat} (within : attempt + rounds ≤ retries.maxRetries)
    (goesOn : ∀ before < rounds, ¬retries.Ends outcomes (attempt + before))
    (ends : retries.Ends outcomes (attempt + rounds)) (last : Option Failure)
    (log : List RetryEvent) :
    exec (retries.config.attempts (sleeping ambient) (attempting outcomes) msg
        (retries.maxRetries - attempt + 1) attempt (retries.delay * retries.backoff ^ attempt) last)
        ⟨log, attempt⟩ =
      (raised (sleeping ambient) outcomes (attempt + rounds),
        ⟨log ++ ((List.range' attempt rounds).flatMap (retries.round outcomes msg) ++
          [.invoked msg]), attempt + rounds + 1⟩) := by
  induction rounds generalizing attempt last log with
  | zero => exact exec_last ends _ last log
  | succ rounds ih =>
      have more : retries.maxRetries - attempt = retries.maxRetries - (attempt + 1) + 1 := by omega
      have shift : ∀ n, attempt + 1 + n = attempt + (n + 1) := by
        intro n
        omega
      have here : ¬retries.Ends outcomes attempt := goesOn 0 (Nat.succ_pos rounds)
      have next := @exec_round retries outcomes ambient msg attempt (retries.maxRetries - attempt)
        (by omega) here last log
      rcases next with ⟨failure, next⟩
      rw [next, more, ih]
      · rw [shift, List.range'_succ, List.flatMap_cons, List.append_assoc, List.append_assoc]
      · omega
      · intro before less
        rw [shift]
        exact goesOn (before + 1) (Nat.succ_lt_succ less)
      · rw [shift]
        exact ends

theorem raised_eq_result_iff {attempt : Nat} :
    raised ambient outcomes attempt = result outcomes attempt ↔
      ∀ failure, outcomes attempt = .error failure → ambient.bool failure.actual = true := by
  rw [raised, result]
  cases outcomes attempt with
  | ok outputs => exact iff_of_true rfl nofun
  | error failure =>
      dsimp only
      rw [Retry.raises]
      constructor
      · intro same other given
        cases given
        by_contra false_
        rw [if_neg false_] at same
        have actual : failedUnexpectedly = failure.actual := by
          injection same with same
          injection same
        exact false_ (actual ▸ ambient.runtimeError)
      · intro true_
        rw [if_pos (true_ failure rfl)]

end Attempts

end Retries

/-- The retries are as many as the last attempt says, each announced and slept for in its turn; and
how that attempt ends is passed on just when it returns or its exception, taken out of a
`PermanentError`, is true. -/
theorem retry_semantics_iff (retries : Retries) (outcomes : Outcomes) (ambient : Ambient Attempted)
    (msg : Message) :
    ∃ last, retries.IsLast outcomes last ∧
      (exec (retry (sleeping ambient) retries.config (attempting outcomes) msg) ⟨[], 0⟩ =
          (Retries.result outcomes last,
            ⟨(List.range last).flatMap (retries.round outcomes msg) ++ [.invoked msg],
              last + 1⟩) ↔
        ∀ failure, outcomes last = .error failure → ambient.bool failure.actual = true) := by
  rcases retries.exists_isLast outcomes with ⟨last, ends, first⟩
  refine ⟨last, ⟨ends, first⟩, ?_⟩
  have within : last ≤ retries.maxRetries := by
    by_contra beyond
    exact first retries.maxRetries (by omega) (Or.inr (Or.inr rfl))
  have run := @Retries.exec_attempts retries outcomes ambient msg 0 last (by omega)
    (fun before less => by rw [Nat.zero_add]; exact first before less)
    (by rw [Nat.zero_add]; exact ends) none []
  have whole : (retries.config.maxRetries + 1).toNat = retries.maxRetries - 0 + 1 := by
    have same : retries.config.maxRetries = retries.maxRetries := rfl
    omega
  have start : retries.delay * retries.backoff ^ 0 = retries.config.delay := by
    rw [pow_zero, mul_one]
    rfl
  rw [start, ← whole, Nat.zero_add, ← List.range_eq_range', List.nil_append] at run
  rw [retry]
  change exec (retries.config.attempts (sleeping ambient) (attempting outcomes) msg
    (retries.config.maxRetries + 1).toNat (0 : Nat) retries.config.delay none) ⟨[], 0⟩ = _ ↔ _
  rw [run, Prod.mk.injEq, and_iff_left rfl]
  exact Retries.raised_eq_result_iff

def emptyBatch : Failure := .other (.other "EmptyBatch")

def lengths : Ambient Attempted where
  uniform low _ := pure low
  sleep _ := pure ()
  bool failure := failure ≠ emptyBatch
  runtimeError := by decide

/-- It does not come out of a retry: the handler raises `RuntimeError` in its place. -/
theorem false_exception_replaced :
    (⟨0, 1, 2, none⟩ : Retries).IsLast (fun _ => .error emptyBatch) 0 ∧
      Retries.result (fun _ => .error emptyBatch) 0 = .error (.raised emptyBatch) ∧
      (exec (retry (sleeping lengths) (⟨0, 1, 2, none⟩ : Retries).config
        (attempting (fun _ => .error emptyBatch)) ⟨[], [], 0, AckState.fresh⟩) ⟨[], 0⟩).1 =
        .error (.raised failedUnexpectedly) ∧
      emptyBatch ≠ failedUnexpectedly := by
  refine ⟨⟨Or.inr (Or.inr rfl), nofun⟩, rfl, ?_, by decide⟩
  have run := @Retries.exec_last ⟨0, 1, 2, none⟩ (fun _ => .error emptyBatch) (sleeping lengths)
    ⟨[], [], 0, AckState.fresh⟩ 0 0 (Or.inr (Or.inr rfl)) 1 none []
  exact congrArg Prod.fst run

end Natricine.Router
