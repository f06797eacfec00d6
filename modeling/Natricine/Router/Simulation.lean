import Natricine.Library.Simulation
import Natricine.Router.FailureQueue

/-! The middlewares of `middleware.py` over two kinds of state: they pass on what their handler
does, and add to it what their parameters do. -/

namespace Natricine.Router

open Effect PubSub Text

variable {σ τ : Type} {R : σ → τ → Prop}

/-- Around handlers that do the same, the two do the same. -/
def Middleware.Simulates (R : σ → τ → Prop) (concrete : Middleware σ)
    (abstract : Middleware τ) : Prop :=
  ∀ (next : HandlerFunc σ) (other : HandlerFunc τ),
    (∀ msg, Effect.Simulates R (next msg) (other msg)) →
    ∀ msg, Effect.Simulates R (concrete next msg) (abstract other msg)

structure Ambient.Simulates (R : σ → τ → Prop) (concrete : Ambient σ)
    (abstract : Ambient τ) : Prop where
  uniform : ∀ low high, Effect.Simulates R (concrete.uniform low high) (abstract.uniform low high)
  sleep : ∀ delay, Effect.Simulates R (concrete.sleep delay) (abstract.sleep delay)
  bool : concrete.bool = abstract.bool

structure Retry.Simulates (R : σ → τ → Prop) (concrete : Retry σ) (abstract : Retry τ) : Prop where
  maxRetries : concrete.maxRetries = abstract.maxRetries
  delay : concrete.delay = abstract.delay
  backoff : concrete.backoff = abstract.backoff
  jitter : concrete.jitter = abstract.jitter
  retryOn : concrete.retryOn = abstract.retryOn
  onRetry : Option.Rel (fun one two => ∀ attempt failure msg,
    Effect.Simulates R (one attempt failure msg) (two attempt failure msg))
      concrete.onRetry abstract.onRetry

structure Runtime.Simulates (R : σ → τ → Prop) (concrete : Runtime σ)
    (abstract : Runtime τ) : Prop where
  str : ∀ failure, Effect.Simulates R (concrete.str failure) (abstract.str failure)
  typeName : concrete.typeName = abstract.typeName
  uuid4 : Effect.Simulates R concrete.uuid4 abstract.uuid4

theorem recoverer_simulates {log : LogRecord → Effect Abort σ Unit}
    {other : LogRecord → Effect Abort τ Unit}
    (logs : ∀ entry, Effect.Simulates R (log entry) (other entry)) :
    (recoverer log).Simulates R (recoverer other) := by
  intro next inner same msg
  apply (same msg).tryCatch
  intro abort
  cases abort with
  | cancelled => exact simulates_throw _
  | raised failure =>
      apply (logs _).bind
      intro _
      exact simulates_throw _

theorem timeout_simulates {seconds : ℚ} {expired : ℚ → Effect Abort σ Bool}
    {other : ℚ → Effect Abort τ Bool}
    (asks : ∀ seconds, Effect.Simulates R (expired seconds) (other seconds)) :
    (timeout ⟨seconds, expired⟩).Simulates R (timeout ⟨seconds, other⟩) := by
  intro next inner same msg
  apply (same msg).tryCatch
  intro abort
  cases abort with
  | raised failure => exact simulates_throw _
  | cancelled =>
      apply (asks seconds).bind
      intro expired
      cases expired <;> exact simulates_throw _

section Retry

variable {ambient : Ambient σ} {around : Ambient τ} {config : Retry σ} {other : Retry τ}

theorem raises_congr (same : ambient.Simulates R around) (last : Option Failure) :
    Retry.raises ambient last = Retry.raises around last := by
  cases last with
  | none => rfl
  | some failure => rw [Retry.raises, Retry.raises, same.bool]

theorem shouldRetry_congr (same : config.Simulates R other) (failure : Failure) :
    config.shouldRetry failure = other.shouldRetry failure := by
  cases failure with
  | permanentError cause => rfl
  | other exn => rw [Retry.shouldRetry, Retry.shouldRetry, same.retryOn]

theorem backOff_simulates (runtime : ambient.Simulates R around) (same : config.Simulates R other)
    (msg : Message) (attempt : Int) (actual : Failure) (currentDelay : ℚ) :
    Effect.Simulates R (config.backOff ambient msg attempt actual currentDelay)
      (other.backOff around msg attempt actual currentDelay) := by
  have jittered : Effect.Simulates R (config.addJitter ambient currentDelay)
      (other.addJitter around currentDelay) := by
    rw [Retry.addJitter, Retry.addJitter, same.jitter]
    split
    · exact simulates_pure _
    · apply (runtime.uniform _ _).bind
      intro _
      exact simulates_pure _
  have slept := jittered.bind runtime.sleep
  have callback := same.onRetry
  rw [Retry.backOff, Retry.backOff]
  generalize config.onRetry = given at callback ⊢
  generalize other.onRetry = also at callback ⊢
  cases callback with
  | none => exact slept
  | some calls => exact (calls _ _ _).bind (fun _ => slept)

theorem attempts_simulates (runtime : ambient.Simulates R around) (same : config.Simulates R other)
    {next : HandlerFunc σ} {inner : HandlerFunc τ}
    (calls : ∀ msg, Effect.Simulates R (next msg) (inner msg)) (msg : Message) (more : Nat)
    (attempt : Int) (currentDelay : ℚ) (last : Option Failure) :
    Effect.Simulates R (config.attempts ambient next msg more attempt currentDelay last)
      (other.attempts around inner msg more attempt currentDelay last) := by
  induction more generalizing attempt currentDelay last with
  | zero =>
      rw [Retry.attempts, Retry.attempts, raises_congr runtime]
      exact simulates_throw _
  | succ more ih =>
      apply (calls msg).tryCatch
      intro abort
      cases abort with
      | cancelled => exact simulates_throw _
      | raised failure =>
          dsimp only
          rw [shouldRetry_congr same, same.maxRetries, raises_congr runtime, same.backoff]
          split
          · exact simulates_throw _
          · apply (backOff_simulates runtime same _ _ _ _).bind
            intro _
            exact ih _ _ _

theorem retry_simulates (runtime : ambient.Simulates R around) (same : config.Simulates R other) :
    (retry ambient config).Simulates R (retry around other) := by
  intro next inner calls msg
  rw [retry, retry, same.maxRetries, same.delay]
  exact attempts_simulates runtime same calls msg _ _ _ _

end Retry

section FailureQueue

structure FailureQueue.Simulates (R : σ → τ → Prop) (concrete : FailureQueue σ)
    (abstract : FailureQueue τ) : Prop where
  publish : ∀ topic copy,
    Effect.Simulates R (concrete.publish topic copy) (abstract.publish topic copy)
  topic : concrete.topic = abstract.topic
  catches : concrete.catches = abstract.catches
  entries : ∀ msg failure,
    Effect.Simulates R (concrete.entries msg failure) (abstract.entries msg failure)
  callback : Option.Rel (fun one two => ∀ msg failure,
    Effect.Simulates R (one msg failure) (two msg failure)) concrete.callback abstract.callback

theorem failureQueue_simulates {runtime : Runtime σ} {around : Runtime τ} {queue : FailureQueue σ}
    {other : FailureQueue τ} (draws : Effect.Simulates R runtime.uuid4 around.uuid4)
    (same : queue.Simulates R other) :
    (queue.middleware runtime).Simulates R (other.middleware around) := by
  intro next inner calls msg
  apply (calls msg).tryCatch
  intro abort
  cases abort with
  | cancelled => exact simulates_throw _
  | raised failure =>
      dsimp only
      rw [same.catches]
      split
      · apply (same.entries msg failure).bind
        intro entries
        apply draws.bind
        intro uuid
        rw [FailureQueue.deliver, FailureQueue.deliver, same.topic]
        apply (same.publish _ _).bind
        intro _
        have callback := same.callback
        generalize queue.callback = given at callback ⊢
        generalize other.callback = also at callback ⊢
        cases callback with
        | none => exact simulates_pure []
        | some calls => exact (calls msg failure).bind (fun _ => simulates_pure [])
      · exact simulates_throw _

theorem deadLetterQueue_simulates {runtime : Runtime σ} {around : Runtime τ}
    {publish : Str → Message → Effect Abort σ Unit} {send : Str → Message → Effect Abort τ Unit}
    {topic : Str} {catches : Failure → Bool}
    {onDlq : Option (Message → Failure → Effect Abort σ Unit)}
    {callback : Option (Message → Failure → Effect Abort τ Unit)}
    (same : runtime.Simulates R around)
    (publishes : ∀ topic copy, Effect.Simulates R (publish topic copy) (send topic copy))
    (calls : Option.Rel (fun one two => ∀ msg failure,
      Effect.Simulates R (one msg failure) (two msg failure)) onDlq callback) :
    (deadLetterQueue runtime ⟨publish, topic, catches, false, onDlq⟩).Simulates R
      (deadLetterQueue around ⟨send, topic, catches, false, callback⟩) := by
  apply failureQueue_simulates same.uuid4
  refine ⟨publishes, rfl, rfl, ?_, calls⟩
  intro msg failure
  apply (same.str failure).bind
  intro error
  apply (simulates_pure []).bind
  intro traceback
  rw [same.typeName]
  exact simulates_pure _

theorem poisonQueue_simulates {runtime : Runtime σ} {around : Runtime τ}
    {publish : Str → Message → Effect Abort σ Unit} {send : Str → Message → Effect Abort τ Unit}
    {topic handlerName subscriberName : Str} {catches : Failure → Bool}
    {onPoison : Option (Message → Failure → Effect Abort σ Unit)}
    {callback : Option (Message → Failure → Effect Abort τ Unit)}
    (same : runtime.Simulates R around)
    (publishes : ∀ topic copy, Effect.Simulates R (publish topic copy) (send topic copy))
    (calls : Option.Rel (fun one two => ∀ msg failure,
      Effect.Simulates R (one msg failure) (two msg failure)) onPoison callback) :
    (poisonQueue runtime ⟨publish, topic, handlerName, subscriberName, catches, false,
        onPoison⟩).Simulates R
      (poisonQueue around ⟨send, topic, handlerName, subscriberName, catches, false,
        callback⟩) := by
  apply failureQueue_simulates same.uuid4
  refine ⟨publishes, rfl, rfl, ?_, calls⟩
  intro msg failure
  apply (same.str failure).bind
  intro reason
  apply (simulates_pure []).bind
  intro traceback
  exact simulates_pure _

end FailureQueue

end Natricine.Router
