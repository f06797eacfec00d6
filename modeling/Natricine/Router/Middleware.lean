import Mathlib.Data.Rat.Defs
import Natricine.Library.Effect
import Natricine.Service.Processing

/-! `middleware.py`: the functions that a router wraps around a handler. -/

namespace Natricine.Router

open Effect PubSub Service

/-- What a handler raises: `PermanentError` carries the exception that it was made from. -/
inductive Failure where
  | other (exn : Exn)
  | permanentError (cause : Failure)
  deriving DecidableEq, Repr

/-- How a call is left without a value. `except Exception` lets a cancellation pass. -/
inductive Abort where
  | raised (failure : Failure)
  | cancelled
  deriving DecidableEq, Repr

def Failure.toExn : Failure → Exn
  | .other exn => exn
  | .permanentError _ => .other "PermanentError"

def Abort.toExn : Abort → Exn
  | .raised failure => failure.toExn
  | .cancelled => .other "CancelledError"

/-- A handler that returns `None` is taken to return no messages. -/
abbrev HandlerFunc (σ : Type) := Message → Effect Abort σ (List Message)

abbrev Middleware (σ : Type) := HandlerFunc σ → HandlerFunc σ

/-- The chain that `_run_handler` builds: router middlewares, then handler middlewares. -/
def wrap {σ : Type} (router handler : List (Middleware σ)) (func : HandlerFunc σ) : HandlerFunc σ :=
  let wrapped := handler.foldr (fun middleware next => middleware next) func
  router.foldr (fun middleware next => middleware next) wrapped

structure LogRecord where
  text : String
  uuid : BitVec 128
  deriving DecidableEq, Repr

/-- `exception` is the method of the logger. -/
def recoverer {σ : Type} (exception : LogRecord → Effect Abort σ Unit) : Middleware σ :=
  fun next msg =>
    tryCatch (next msg) fun
      | .raised failure => do
          exception ⟨"Handler failed for message %s", msg.uuid⟩
          throw (.raised failure)
      | .cancelled => throw .cancelled

/-- The arguments of `retry`; `retryOn` is the test `isinstance(exc, retry_on)`. -/
structure Retry (σ : Type) where
  maxRetries : Int
  delay : ℚ
  backoff : ℚ
  jitter : ℚ
  retryOn : Option (Failure → Bool)
  onRetry : Option (Int → Failure → Message → Effect Abort σ Unit)

/-- The `RuntimeError` at the end of the handler that `retry` makes. -/
def failedUnexpectedly : Failure := .other (.other "Retry failed unexpectedly")

/-- `random.uniform`, `anyio.sleep`, and `bool` of an exception, which its class may define; that of
a `RuntimeError` is as by default. -/
structure Ambient (σ : Type) where
  uniform : ℚ → ℚ → Effect Abort σ ℚ
  sleep : ℚ → Effect Abort σ Unit
  bool : Failure → Bool
  runtimeError : bool failedUnexpectedly = true

/-- `e.cause if isinstance(e, PermanentError) else e` -/
def Failure.actual : Failure → Failure
  | .permanentError cause => cause
  | .other exn => .other exn

namespace Retry

variable {σ : Type}

def raises (ambient : Ambient σ) (lastException : Option Failure) : Failure :=
  match lastException with
  | some failure => if ambient.bool failure then failure else failedUnexpectedly
  | none => failedUnexpectedly

def shouldRetry (config : Retry σ) : Failure → Bool
  | .permanentError _ => false
  | .other exn =>
      match config.retryOn with
      | none => true
      | some isInstance => isInstance (.other exn)

def addJitter (ambient : Ambient σ) (config : Retry σ) (baseDelay : ℚ) : Effect Abort σ ℚ :=
  if config.jitter ≤ 0 then return baseDelay
  else do
    let jitterRange := baseDelay * config.jitter
    return baseDelay + (← ambient.uniform (-jitterRange) jitterRange)

def backOff (ambient : Ambient σ) (config : Retry σ) (msg : Message) (attempt : Int)
    (actual : Failure) (currentDelay : ℚ) : Effect Abort σ Unit := do
  match config.onRetry with
  | some onRetry => onRetry (attempt + 1) actual msg
  | none => pure ()
  ambient.sleep (← config.addJitter ambient currentDelay)

/-- The attempts that are left of `range(max_retries + 1)`, and the exception once there are
none. -/
def attempts (ambient : Ambient σ) (config : Retry σ) (next : HandlerFunc σ) (msg : Message) :
    Nat → Int → ℚ → Option Failure → Effect Abort σ (List Message)
  | 0, _, _, lastException =>
      throw (.raised (raises ambient lastException))
  | more + 1, attempt, currentDelay, _ =>
      tryCatch (next msg) fun
        | .raised failure =>
            if ¬config.shouldRetry failure ∨ config.maxRetries ≤ attempt then
              throw (.raised (raises ambient (some failure.actual)))
            else do
              config.backOff ambient msg attempt failure.actual currentDelay
              config.attempts ambient next msg more (attempt + 1) (currentDelay * config.backoff)
                (some failure.actual)
        | .cancelled => throw .cancelled

end Retry

def retry {σ : Type} (ambient : Ambient σ) (config : Retry σ) : Middleware σ :=
  fun next msg => config.attempts ambient next msg (config.maxRetries + 1).toNat 0 config.delay none

/-- The argument of `timeout`; `expired` tells whether its scope has caught the cancellation. -/
structure Timeout (σ : Type) where
  seconds : ℚ
  expired : ℚ → Effect Abort σ Bool

def timeoutError : Failure := .other (.other "TimeoutError")

/-- `anyio.fail_after` turns the cancellation of its own scope into a `TimeoutError`. -/
def timeout {σ : Type} (config : Timeout σ) : Middleware σ := fun next msg =>
  tryCatch (next msg) fun
    | .raised failure => throw (.raised failure)
    | .cancelled => do
        if ← config.expired config.seconds then throw (.raised timeoutError) else throw .cancelled

section Keeps

variable {σ : Type} {R : σ → σ → Prop}

def Middleware.Keeps (R : σ → σ → Prop) (middleware : Middleware σ) : Prop :=
  ∀ next : HandlerFunc σ, (∀ msg, Effect.Keeps R (next msg)) →
    ∀ msg, Effect.Keeps R (middleware next msg)

theorem foldr_keeps {middlewares : List (Middleware σ)}
    (each : ∀ middleware ∈ middlewares, middleware.Keeps R) {func : HandlerFunc σ}
    (inner : ∀ msg, Effect.Keeps R (func msg)) (msg : Message) :
    Effect.Keeps R (middlewares.foldr (fun middleware next => middleware next) func msg) := by
  induction middlewares generalizing msg with
  | nil => exact inner msg
  | cons middleware rest ih =>
      apply each middleware List.mem_cons_self
      intro other
      exact ih (fun later member => each later (List.mem_cons_of_mem _ member)) other

theorem wrap_keeps {router handler : List (Middleware σ)}
    (outer : ∀ middleware ∈ router, middleware.Keeps R)
    (own : ∀ middleware ∈ handler, middleware.Keeps R) {func : HandlerFunc σ}
    (inner : ∀ msg, Effect.Keeps R (func msg)) (msg : Message) :
    Effect.Keeps R (wrap router handler func msg) :=
  foldr_keeps outer (foldr_keeps own inner) msg

variable [IsPreorder σ R]

theorem recoverer_keeps {exception : LogRecord → Effect Abort σ Unit}
    (logs : ∀ entry, Effect.Keeps R (exception entry)) : (recoverer exception).Keeps R := by
  intro next inner msg
  apply (inner msg).tryCatch
  intro abort
  cases abort with
  | raised failure =>
      apply (logs _).bind
      intro _
      exact keeps_throw _
  | cancelled => exact keeps_throw _

theorem timeout_keeps {config : Timeout σ}
    (asks : ∀ seconds, Effect.Keeps R (config.expired seconds)) :
    (timeout config).Keeps R := by
  intro next inner msg
  apply (inner msg).tryCatch
  intro abort
  cases abort with
  | raised failure => exact keeps_throw _
  | cancelled =>
      apply (asks _).bind
      intro expired
      cases expired <;> exact keeps_throw _

theorem backOff_keeps {ambient : Ambient σ} {config : Retry σ}
    (calls : ∀ onRetry ∈ config.onRetry, ∀ attempt failure msg,
      Effect.Keeps R (onRetry attempt failure msg))
    (uniform : ∀ low high, Effect.Keeps R (ambient.uniform low high))
    (sleep : ∀ delay, Effect.Keeps R (ambient.sleep delay)) (msg : Message) (attempt : Int)
    (actual : Failure) (currentDelay : ℚ) :
    Effect.Keeps R (config.backOff ambient msg attempt actual currentDelay) := by
  have jittered : Effect.Keeps R (config.addJitter ambient currentDelay) := by
    rw [Retry.addJitter]
    split
    · exact keeps_pure _
    · apply (uniform _ _).bind
      intro _
      exact keeps_pure _
  have slept : Effect.Keeps R (do ambient.sleep (← config.addJitter ambient currentDelay)) :=
    jittered.bind sleep
  rw [Retry.backOff]
  cases given : config.onRetry with
  | none => exact slept
  | some onRetry => exact (calls onRetry given _ _ _).bind (fun _ => slept)

section Retry

variable {ambient : Ambient σ} {config : Retry σ} {next : HandlerFunc σ}

theorem attempted_keeps
    (calls : ∀ onRetry ∈ config.onRetry, ∀ attempt failure msg,
      Effect.Keeps R (onRetry attempt failure msg))
    (uniform : ∀ low high, Effect.Keeps R (ambient.uniform low high))
    (sleep : ∀ delay, Effect.Keeps R (ambient.sleep delay)) (msg : Message) (more : Nat)
    (attempt : Int) (failure : Failure) (currentDelay : ℚ)
    (later : ∀ attempt currentDelay last,
      Effect.Keeps R (config.attempts ambient next msg more attempt currentDelay last)) :
    Effect.Keeps R (if ¬config.shouldRetry failure ∨ config.maxRetries ≤ attempt then
        throw (.raised (Retry.raises ambient (some failure.actual)))
      else do
        config.backOff ambient msg attempt failure.actual currentDelay
        config.attempts ambient next msg more (attempt + 1) (currentDelay * config.backoff)
          (some failure.actual)) := by
  split
  · exact keeps_throw _
  · apply Keeps.bind
    · exact backOff_keeps calls uniform sleep _ _ _ _
    · exact fun _ => later _ _ _

theorem attempts_keeps
    (calls : ∀ onRetry ∈ config.onRetry, ∀ attempt failure msg,
      Effect.Keeps R (onRetry attempt failure msg))
    (uniform : ∀ low high, Effect.Keeps R (ambient.uniform low high))
    (sleep : ∀ delay, Effect.Keeps R (ambient.sleep delay))
    (inner : ∀ msg, Effect.Keeps R (next msg)) (msg : Message) (more : Nat) (attempt : Int)
    (currentDelay : ℚ) (last : Option Failure) :
    Effect.Keeps R (config.attempts ambient next msg more attempt currentDelay last) := by
  induction more generalizing attempt currentDelay last with
  | zero => exact keeps_throw _
  | succ more ih =>
      apply (inner msg).tryCatch
      intro abort
      cases abort with
      | cancelled => exact keeps_throw _
      | raised failure =>
          exact attempted_keeps calls uniform sleep msg more attempt failure currentDelay ih

theorem attempts_after_first
    (calls : ∀ onRetry ∈ config.onRetry, ∀ attempt failure msg,
      Effect.Keeps R (onRetry attempt failure msg))
    (uniform : ∀ low high, Effect.Keeps R (ambient.uniform low high))
    (sleep : ∀ delay, Effect.Keeps R (ambient.sleep delay))
    (inner : ∀ msg, Effect.Keeps R (next msg)) (msg : Message) (more : Nat) (attempt : Int)
    (currentDelay : ℚ) (last : Option Failure) (s : σ) :
    R (exec (next msg) s).2
      (exec (config.attempts ambient next msg (more + 1) attempt currentDelay last) s).2 := by
  rw [Retry.attempts, exec_tryCatch]
  rcases exec (next msg) s with ⟨ended, t⟩
  cases ended with
  | ok outputs => exact refl_of R t
  | error abort =>
      cases abort with
      | cancelled => exact refl_of R t
      | raised failure =>
          exact attempted_keeps calls uniform sleep msg more attempt failure currentDelay
            (attempts_keeps calls uniform sleep inner msg more) t

theorem retry_keeps
    (calls : ∀ onRetry ∈ config.onRetry, ∀ attempt failure msg,
      Effect.Keeps R (onRetry attempt failure msg))
    (uniform : ∀ low high, Effect.Keeps R (ambient.uniform low high))
    (sleep : ∀ delay, Effect.Keeps R (ambient.sleep delay)) :
    (retry ambient config).Keeps R := by
  intro next inner msg
  exact attempts_keeps calls uniform sleep inner msg _ _ _ _

end Retry

end Keeps

end Natricine.Router
