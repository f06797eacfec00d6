import Natricine.Library.Log
import Natricine.Library.Uuid
import Natricine.Router.OwnSettlement

/-! `poison_queue` and `dead_letter_queue` around `retry`: what becomes of a message on which every
attempt fails. -/

namespace Natricine.Router

open Effect PubSub Service Text

abbrev Metadata := List (Str × Str)

/-- What a middleware asks of an exception and of the runtime. `str(e)` runs code of the
exception's class, and `traceback.format_exc()` shows the frames that it has come through. -/
structure Runtime (σ : Type) where
  str : Failure → Effect Abort σ Str
  typeName : Failure → Str
  formatExc : Failure → Effect Abort σ Str
  uuid4 : Effect Abort σ (BitVec 128)

def Runtime.traceback {σ : Type} (runtime : Runtime σ) (includeTraceback : Bool) (key : Str)
    (failure : Failure) : Effect Abort σ Metadata :=
  if includeTraceback then do
    let text ← runtime.formatExc failure
    return [(key, text)]
  else return []

def tracebackKeys (includeTraceback : Bool) (key : Str) : List Str :=
  if includeTraceback then [key] else []

theorem keys_of_traceback {σ : Type} {runtime : Runtime σ} {includeTraceback : Bool} {key : Str}
    {failure : Failure} {s t : σ} {entries : Metadata}
    (made : exec (runtime.traceback includeTraceback key failure) s = (.ok entries, t)) :
    entries.map Prod.fst = tracebackKeys includeTraceback key := by
  cases includeTraceback with
  | false =>
      cases made
      rfl
  | true =>
      rw [Runtime.traceback, if_pos rfl, exec_bind] at made
      split at made
      · cases made
        rfl
      · cases made

theorem Runtime.traceback_keeps {σ : Type} {R : σ → σ → Prop} [IsPreorder σ R]
    {runtime : Runtime σ} {failure : Failure} (shown : Keeps R (runtime.formatExc failure))
    (includeTraceback : Bool) (key : Str) :
    Keeps R (runtime.traceback includeTraceback key failure) := by
  rw [Runtime.traceback]
  split
  · exact shown.bind fun _ => keeps_pure _
  · exact keeps_pure _

/-- What the two middlewares share: where they publish, which exceptions they catch, the entries
they write over the metadata, and the callback. -/
structure FailureQueue (σ : Type) where
  publish : Str → Message → Effect Abort σ Unit
  topic : Str
  catches : Failure → Bool
  entries : Message → Failure → Effect Abort σ Metadata
  callback : Option (Message → Failure → Effect Abort σ Unit)

namespace FailureQueue

variable {σ : Type}

def deliver (queue : FailureQueue σ) (msg : Message) (failure : Failure) (copy : Message) :
    Effect Abort σ (List Message) := do
  queue.publish queue.topic copy
  match queue.callback with
  | some callback => callback msg failure
  | none => pure ()
  return []

def take (runtime : Runtime σ) (queue : FailureQueue σ) (msg : Message) (failure : Failure) :
    Effect Abort σ (List Message) := do
  let entries ← queue.entries msg failure
  let uuid ← runtime.uuid4
  queue.deliver msg failure
    ⟨msg.payload, Entries.update msg.metadata entries, uuid, AckState.fresh⟩

def middleware (runtime : Runtime σ) (queue : FailureQueue σ) : Middleware σ := fun next msg =>
  tryCatch (next msg) fun
    | .raised failure =>
        if queue.catches failure then queue.take runtime msg failure else throw (.raised failure)
    | .cancelled => throw .cancelled

theorem middleware_keeps {R : σ → σ → Prop} [IsPreorder σ R] {runtime : Runtime σ}
    {queue : FailureQueue σ} (draws : Keeps R runtime.uuid4)
    (publishes : ∀ topic copy, Keeps R (queue.publish topic copy))
    (describes : ∀ msg failure, Keeps R (queue.entries msg failure))
    (calls : ∀ callback ∈ queue.callback, ∀ msg failure, Keeps R (callback msg failure)) :
    (queue.middleware runtime).Keeps R := by
  intro next inner msg
  apply (inner msg).tryCatch
  intro abort
  cases abort with
  | cancelled => exact keeps_throw _
  | raised failure =>
      dsimp only
      split
      · apply (describes msg failure).bind
        intro entries
        apply draws.bind
        intro uuid
        apply (publishes _ _).bind
        intro published
        cases given : queue.callback with
        | none => exact keeps_pure []
        | some callback => exact (calls callback given msg failure).bind (fun _ => keeps_pure _)
      · exact keeps_throw _

end FailureQueue

/-- The arguments of `dead_letter_queue`; `catches` is the test `isinstance(e, catch)`. -/
structure DeadLetterQueue (σ : Type) where
  publish : Str → Message → Effect Abort σ Unit
  topic : Str
  catches : Failure → Bool
  includeTraceback : Bool
  onDlq : Option (Message → Failure → Effect Abort σ Unit)

/-- The arguments of `poison_queue`. -/
structure PoisonQueue (σ : Type) where
  publish : Str → Message → Effect Abort σ Unit
  topic : Str
  handlerName : Str
  subscriberName : Str
  catches : Failure → Bool
  includeTraceback : Bool
  onPoison : Option (Message → Failure → Effect Abort σ Unit)

def poisonReasonKey : Str := ofString "reason_poisoned"
def poisonTopicKey : Str := ofString "topic_poisoned"
def poisonHandlerKey : Str := ofString "handler_poisoned"
def poisonSubscriberKey : Str := ofString "subscriber_poisoned"

def optional (key text : Str) : Metadata := if text.isEmpty then [] else [(key, text)]

namespace DeadLetterQueue

variable {σ : Type}

def entries (runtime : Runtime σ) (config : DeadLetterQueue σ) (msg : Message)
    (failure : Failure) : Effect Abort σ Metadata := do
  let error ← runtime.str failure
  let traceback ← runtime.traceback config.includeTraceback (ofString "dlq.traceback") failure
  return [(ofString "dlq.error", error), (ofString "dlq.error_type", runtime.typeName failure),
      (ofString "dlq.original_uuid", Uuid.toStr msg.uuid)] ++ traceback

def keys (config : DeadLetterQueue σ) : List Str :=
  [ofString "dlq.error", ofString "dlq.error_type", ofString "dlq.original_uuid"] ++
    tracebackKeys config.includeTraceback (ofString "dlq.traceback")

theorem keys_of_entries (config : DeadLetterQueue σ) {runtime : Runtime σ} {msg : Message}
    {failure : Failure} {s t : σ} {entries : Metadata}
    (made : exec (config.entries runtime msg failure) s = (.ok entries, t)) :
    entries.map Prod.fst = config.keys := by
  rw [DeadLetterQueue.entries, exec_bind] at made
  split at made
  · rw [exec_bind] at made
    split at made
    · rename_i traceback _ shown
      cases made
      rw [List.map_append, keys_of_traceback shown]
      rfl
    · cases made
  · cases made

def queue (runtime : Runtime σ) (config : DeadLetterQueue σ) : FailureQueue σ where
  publish := config.publish
  topic := config.topic
  catches := config.catches
  entries := config.entries runtime
  callback := config.onDlq

end DeadLetterQueue

def deadLetterQueue {σ : Type} (runtime : Runtime σ) (config : DeadLetterQueue σ) : Middleware σ :=
  (config.queue runtime).middleware runtime

namespace PoisonQueue

variable {σ : Type}

def entries (runtime : Runtime σ) (config : PoisonQueue σ) (msg : Message) (failure : Failure) :
    Effect Abort σ Metadata := do
  let reason ← runtime.str failure
  let traceback ← runtime.traceback config.includeTraceback (ofString "traceback") failure
  return [(poisonReasonKey, reason)] ++ optional poisonHandlerKey config.handlerName ++
    optional poisonSubscriberKey config.subscriberName ++
    optional poisonTopicKey ((Entries.get? msg.metadata (ofString "_topic")).getD []) ++ traceback

def keys (config : PoisonQueue σ) (msg : Message) : List Str :=
  [poisonReasonKey] ++ (optional poisonHandlerKey config.handlerName).map Prod.fst ++
    (optional poisonSubscriberKey config.subscriberName).map Prod.fst ++
    (optional poisonTopicKey
      ((Entries.get? msg.metadata (ofString "_topic")).getD [])).map Prod.fst ++
    tracebackKeys config.includeTraceback (ofString "traceback")

theorem keys_of_entries (config : PoisonQueue σ) {runtime : Runtime σ} {msg : Message}
    {failure : Failure} {s t : σ} {entries : Metadata}
    (made : exec (config.entries runtime msg failure) s = (.ok entries, t)) :
    entries.map Prod.fst = config.keys msg := by
  rw [PoisonQueue.entries, exec_bind] at made
  split at made
  · rw [exec_bind] at made
    split at made
    · rename_i traceback _ shown
      cases made
      simp only [PoisonQueue.keys, List.map_append, keys_of_traceback shown]
      rfl
    · cases made
  · cases made

def queue (runtime : Runtime σ) (config : PoisonQueue σ) : FailureQueue σ where
  publish := config.publish
  topic := config.topic
  catches := config.catches
  entries := config.entries runtime
  callback := config.onPoison

end PoisonQueue

def poisonQueue {σ : Type} (runtime : Runtime σ) (config : PoisonQueue σ) : Middleware σ :=
  (config.queue runtime).middleware runtime

inductive Happening where
  | attempted (result : Except Abort (List Message))
  | published (topic : Str) (copy : Message) (result : Except Abort Unit)
  deriving DecidableEq, Repr

section Lift

variable {τ : Type}

def Ambient.unlogged (ambient : Ambient τ) : Ambient (Logged Happening τ) where
  uniform low high := Effect.unlogged (ambient.uniform low high)
  sleep delay := Effect.unlogged (ambient.sleep delay)
  bool := ambient.bool
  runtimeError := ambient.runtimeError

def Runtime.unlogged (runtime : Runtime τ) : Runtime (Logged Happening τ) where
  str failure := Effect.unlogged (runtime.str failure)
  typeName := runtime.typeName
  formatExc failure := Effect.unlogged (runtime.formatExc failure)
  uuid4 := Effect.unlogged runtime.uuid4

def Retry.unlogged (config : Retry τ) : Retry (Logged Happening τ) where
  maxRetries := config.maxRetries
  delay := config.delay
  backoff := config.backoff
  jitter := config.jitter
  retryOn := config.retryOn
  onRetry := config.onRetry.map fun onRetry attempt failure msg =>
    Effect.unlogged (onRetry attempt failure msg)

def loggedPublish (publish : Str → Message → Effect Abort τ Unit) (topic : Str) (copy : Message) :
    Effect Abort (Logged Happening τ) Unit :=
  logged (.published topic copy) (publish topic copy)

def DeadLetterQueue.logged (config : DeadLetterQueue τ) : DeadLetterQueue (Logged Happening τ) where
  publish := loggedPublish config.publish
  topic := config.topic
  catches := config.catches
  includeTraceback := config.includeTraceback
  onDlq := config.onDlq.map fun onDlq msg failure => Effect.unlogged (onDlq msg failure)

def PoisonQueue.logged (config : PoisonQueue τ) : PoisonQueue (Logged Happening τ) where
  publish := loggedPublish config.publish
  topic := config.topic
  handlerName := config.handlerName
  subscriberName := config.subscriberName
  catches := config.catches
  includeTraceback := config.includeTraceback
  onPoison := config.onPoison.map fun onPoison msg failure => Effect.unlogged (onPoison msg failure)

def attempt (handler : HandlerFunc τ) : HandlerFunc (Logged Happening τ) := fun msg =>
  logged .attempted (handler msg)

end Lift

def Happening.isAttempt : Happening → Bool
  | .attempted _ => true
  | .published _ _ _ => false

abbrev Attempts {τ : Type} : Logged Happening τ → Logged Happening τ → Prop :=
  Appends (fun happening => happening.isAttempt = true)

section Attempts

variable {τ : Type} {ambient : Ambient τ} {config : Retry τ} {handler : HandlerFunc τ}

theorem attempt_keeps (msg : Message) : Keeps Attempts (attempt handler msg) := by
  apply logged_appends
  exact fun result => rfl

theorem onRetry_unlogged_keeps {R : Logged Happening τ → Logged Happening τ → Prop}
    (quiet : ∀ {α : Type} (action : Effect Abort τ α), Keeps R (unlogged action)) :
    ∀ onRetry ∈ config.unlogged.onRetry, ∀ attempt failure msg,
      Keeps R (onRetry attempt failure msg) := by
  intro onRetry given attempt failure msg
  rcases Option.map_eq_some_iff.mp given with ⟨original, -, rfl⟩
  exact quiet _

theorem retry_unlogged_keeps : (retry ambient.unlogged config.unlogged).Keeps Attempts := by
  apply retry_keeps
  · exact onRetry_unlogged_keeps unlogged_appends
  · exact fun low high => unlogged_appends _
  · exact fun delay => unlogged_appends _

theorem attempts_succeeded {msg : Message} {more : Nat} {number : Int} {delay : ℚ}
    {last : Option Failure} {s t : Logged Happening τ} {outputs : List Message}
    (returned : exec (config.unlogged.attempts ambient.unlogged (attempt handler) msg more number
      delay last) s = (.ok outputs, t)) : .attempted (.ok outputs) ∈ t.log := by
  induction more generalizing number delay last s with
  | zero => cases returned
  | succ more ih =>
      rw [Retry.attempts, exec_tryCatch, attempt, exec_logged] at returned
      cases ended : (exec (handler msg) s.rest).1 with
      | ok value =>
          simp only [ended] at returned
          cases returned
          exact List.mem_append_right _ List.mem_cons_self
      | error abort =>
          cases abort with
          | cancelled =>
              simp only [ended] at returned
              cases returned
          | raised failure =>
              simp only [ended] at returned
              split at returned
              · cases returned
              · rw [exec_bind] at returned
                split at returned
                · exact ih returned
                · cases returned

end Attempts

/-- The copy has the payload of the message, and all its metadata but what has been written
over. -/
def CopyOf (keys : List Str) (msg copy : Message) : Prop :=
  copy.payload = msg.payload ∧ ∀ entry ∈ msg.metadata, entry.1 ∉ keys → entry ∈ copy.metadata

structure Quiet {τ : Type} (queue : FailureQueue (Logged Happening τ)) (keys : List Str)
    (msg : Message) : Prop where
  publish : ∃ publish, queue.publish = loggedPublish publish
  entries : ∀ failure s, (exec (queue.entries msg failure) s).2.log = s.log
  written : ∀ failure s entries t, exec (queue.entries msg failure) s = (.ok entries, t) →
    entries.map Prod.fst = keys
  callback : ∀ callback ∈ queue.callback, ∀ failure s, (exec (callback msg failure) s).2.log = s.log

inductive Took {τ : Type} (topic : Str) (keys : List Str) (msg : Message) (s : Logged Happening τ) :
    Except Abort (List Message) × Logged Happening τ → Prop where
  | undescribed (abort : Abort) (t : Logged Happening τ) (same : t.log = s.log) :
      Took topic keys msg s (.error abort, t)
  | unpublished (copy : Message) (abort : Abort) (t : Logged Happening τ)
      (log : t.log = s.log ++ [.published topic copy (.error abort)]) :
      Took topic keys msg s (.error abort, t)
  | published (copy : Message) (result : Except Abort (List Message)) (t : Logged Happening τ)
      (copied : CopyOf keys msg copy) (log : t.log = s.log ++ [.published topic copy (.ok ())]) :
      Took topic keys msg s (result, t)

section Queue

variable {τ : Type} {queue : FailureQueue (Logged Happening τ)} {keys : List Str} {msg : Message}

theorem exec_deliver (quiet : Quiet queue keys msg) (failure : Failure) {copy : Message}
    (copied : CopyOf keys msg copy) (s : Logged Happening τ) :
    Took queue.topic keys msg s (exec (queue.deliver msg failure copy) s) := by
  rcases quiet.publish with ⟨publish, logs⟩
  rw [FailureQueue.deliver, exec_bind, logs, loggedPublish, exec_logged]
  rcases exec (publish queue.topic copy) s.rest with ⟨ended, rest⟩
  cases ended with
  | error abort => exact .unpublished copy abort _ rfl
  | ok value =>
      cases given : queue.callback with
      | none => exact .published copy _ _ copied rfl
      | some callback =>
          have called := quiet.callback callback given failure
            ⟨s.log ++ [.published queue.topic copy (.ok ())], rest⟩
          dsimp only
          rw [exec_bind]
          generalize exec (callback msg failure)
            ⟨s.log ++ [.published queue.topic copy (.ok ())], rest⟩ = after at called ⊢
          rcases after with ⟨ended, v⟩
          cases ended with
          | ok value => exact .published copy _ v copied called
          | error abort => exact .published copy _ v copied called

theorem Took.of_log {s t : Logged Happening τ}
    {result : Except Abort (List Message) × Logged Happening τ} {topic : Str}
    (took : Took topic keys msg t result) (same : t.log = s.log) :
    Took topic keys msg s result := by
  cases took with
  | undescribed abort u kept => exact .undescribed abort u (kept.trans same)
  | unpublished copy abort u log => exact .unpublished copy abort u (same ▸ log)
  | published copy ended u copied log => exact .published copy ended u copied (same ▸ log)

theorem exec_take (quiet : Quiet queue keys msg) (runtime : Runtime τ) (failure : Failure)
    (s : Logged Happening τ) :
    Took queue.topic keys msg s (exec (queue.take runtime.unlogged msg failure) s) := by
  have described := quiet.entries failure s
  have written := quiet.written failure s
  rw [FailureQueue.take, exec_bind]
  generalize exec (queue.entries msg failure) s = first at described written ⊢
  rcases first with ⟨ended, t⟩
  cases ended with
  | error abort => exact .undescribed abort t described
  | ok entries =>
      dsimp only
      rw [exec_bind]
      have drawn : (exec runtime.unlogged.uuid4 t).2.log = t.log := rfl
      generalize exec runtime.unlogged.uuid4 t = second at drawn ⊢
      rcases second with ⟨ended, u⟩
      cases ended with
      | error abort => exact .undescribed abort u (drawn.trans described)
      | ok uuid =>
          have copied : CopyOf keys msg
              ⟨msg.payload, Entries.update msg.metadata entries, uuid, AckState.fresh⟩ := by
            refine ⟨rfl, ?_⟩
            intro entry member unwritten
            rw [← written entries t rfl] at unwritten
            exact Entries.mem_update member unwritten
          exact (exec_deliver quiet failure copied u).of_log (drawn.trans described)

def SameLog (s t : Logged Happening τ) : Prop := t.log = s.log

instance : IsPreorder (Logged Happening τ) SameLog where
  refl _ := rfl
  trans _ _ _ first second := Eq.trans second first

theorem unlogged_formatExc (runtime : Runtime τ) (failure : Failure) :
    Keeps SameLog (runtime.unlogged.formatExc failure) := fun _ => rfl

theorem dead_letter_quiet (runtime : Runtime τ) (config : DeadLetterQueue τ) (msg : Message) :
    Quiet (config.logged.queue runtime.unlogged) config.keys msg := by
  refine ⟨⟨config.publish, rfl⟩, ?_, ?_, ?_⟩
  · intro failure
    have described : Keeps SameLog (runtime.unlogged.str failure) := fun _ => rfl
    exact described.bind fun _ =>
      (Runtime.traceback_keeps (unlogged_formatExc runtime failure) _ _).bind fun _ => keeps_pure _
  · exact fun failure s entries t made => config.logged.keys_of_entries made
  · intro callback given failure s
    rcases Option.map_eq_some_iff.mp given with ⟨onDlq, -, rfl⟩
    rfl

theorem poison_quiet (runtime : Runtime τ) (config : PoisonQueue τ) (msg : Message) :
    Quiet (config.logged.queue runtime.unlogged) (config.keys msg) msg := by
  refine ⟨⟨config.publish, rfl⟩, ?_, ?_, ?_⟩
  · intro failure
    have described : Keeps SameLog (runtime.unlogged.str failure) := fun _ => rfl
    exact described.bind fun _ =>
      (Runtime.traceback_keeps (unlogged_formatExc runtime failure) _ _).bind fun _ => keeps_pure _
  · exact fun failure s entries t made => config.logged.keys_of_entries made
  · intro callback given failure s
    rcases Option.map_eq_some_iff.mp given with ⟨onPoison, -, rfl⟩
    rfl

end Queue

def CopiedOnce (topic : Str) (keys : List Str) (msg : Message) (log : List Happening) : Prop :=
  ∃ attempts copy, log = attempts ++ [.published topic copy (.ok ())] ∧
    (∀ happening ∈ attempts, happening.isAttempt = true) ∧ CopyOf keys msg copy

/-- Either an attempt has succeeded, or there is a copy. -/
def Accounted (topic : Str) (keys : List Str) (msg : Message) (log : List Happening) : Prop :=
  (∃ outputs, .attempted (.ok outputs) ∈ log) ∨ CopiedOnce topic keys msg log

structure Passed {τ : Type} (topic : Str) (keys : List Str) (catches : Failure → Bool)
    (msg : Message) (retried called : Except Abort (List Message) × Logged Happening τ) : Prop where
  returned : ∀ outputs, called.1 = .ok outputs → Accounted topic keys msg called.2.log
  uncaught : ∀ failure, retried.1 = .error (.raised failure) → catches failure = false →
    called.1 = .error (.raised failure)
  unpublished : ∀ name copy failure,
    .published name copy (.error (.raised failure)) ∈ called.2.log →
      called.1 = .error (.raised failure)

section Passed

variable {τ : Type} {queue : FailureQueue (Logged Happening τ)} {keys : List Str} {msg : Message}

theorem not_published {s : Logged Happening τ} {rest : τ} (attempts : Attempts ⟨[], rest⟩ s)
    (name : Str) (copy : Message) (result : Except Abort Unit) :
    .published name copy result ∉ s.log := by
  rcases attempts with ⟨later, log, each⟩
  intro member
  rw [log, List.nil_append] at member
  exact absurd (each _ member) nofun

theorem Took.passed {topic : Str} {catches : Failure → Bool} {failure : Failure}
    {s : Logged Happening τ} {rest : τ} {result : Except Abort (List Message) × Logged Happening τ}
    (took : Took topic keys msg s result) (attempts : Attempts ⟨[], rest⟩ s)
    (caught : catches failure = true) :
    Passed topic keys catches msg (.error (.raised failure), s) result := by
  have excluded : ∀ other : Failure, Except.error (Abort.raised failure) =
      (.error (.raised other) : Except Abort (List Message)) → ¬catches other = false := by
    intro other same missed
    cases same
    rw [caught] at missed
    cases missed
  have silent := not_published attempts
  cases took with
  | undescribed abort t same =>
      refine ⟨nofun, fun other raised missed => absurd missed (excluded other raised), ?_⟩
      intro name copy other member
      rw [same] at member
      exact absurd member (silent _ _ _)
  | unpublished made abort t log =>
      refine ⟨nofun, fun other raised missed => absurd missed (excluded other raised), ?_⟩
      intro name copy other member
      rw [log] at member
      rcases List.mem_append.mp member with before | last
      · exact absurd before (silent _ _ _)
      · cases List.mem_singleton.mp last
        rfl
  | published made ended t copied log =>
      refine ⟨?_, fun other raised missed => absurd missed (excluded other raised), ?_⟩
      · intro outputs returned
        rcases attempts with ⟨later, all, each⟩
        rw [all, List.nil_append] at log
        exact Or.inr ⟨later, made, log, each, copied⟩
      · intro name copy other member
        rw [log] at member
        rcases List.mem_append.mp member with before | last
        · exact absurd before (silent _ _ _)
        · cases List.mem_singleton.mp last

theorem exec_middleware (quiet : Quiet queue keys msg) (runtime : Runtime τ)
    (ambient : Ambient τ) (config : Retry τ) (func : HandlerFunc τ) (rest : τ) :
    Passed queue.topic keys queue.catches msg
      (exec (retry ambient.unlogged config.unlogged (attempt func) msg) ⟨[], rest⟩)
      (exec (queue.middleware runtime.unlogged
        (retry ambient.unlogged config.unlogged (attempt func)) msg) ⟨[], rest⟩) := by
  have attempts : Attempts ⟨[], rest⟩
      (exec (retry ambient.unlogged config.unlogged (attempt func) msg) ⟨[], rest⟩).2 :=
    retry_unlogged_keeps (attempt func) attempt_keeps msg ⟨[], rest⟩
  have succeeded : ∀ outputs t,
      exec (retry ambient.unlogged config.unlogged (attempt func) msg) ⟨[], rest⟩ =
        (.ok outputs, t) → .attempted (.ok outputs) ∈ t.log :=
    fun outputs t returned => attempts_succeeded returned
  rw [FailureQueue.middleware, exec_tryCatch]
  generalize exec (retry ambient.unlogged config.unlogged (attempt func) msg) ⟨[], rest⟩ = retried
    at attempts succeeded ⊢
  rcases retried with ⟨ended, s⟩
  have silent := not_published attempts
  cases ended with
  | ok outputs =>
      refine ⟨?_, nofun, fun name copy failure member => absurd member (silent _ _ _)⟩
      intro later returned
      exact Or.inl ⟨outputs, succeeded outputs s rfl⟩
  | error abort =>
      cases abort with
      | cancelled => exact ⟨nofun, nofun, fun name copy failure member =>
          absurd member (silent _ _ _)⟩
      | raised failure =>
          dsimp only
          split
          · rename_i caught
            exact (exec_take quiet runtime failure s).passed attempts caught
          · exact ⟨nofun, fun other raised missed => raised, fun name copy other member =>
              absurd member (silent _ _ _)⟩

end Passed

/-- The router nacks the message and raises the exception again, unless `nack` raises another. -/
def Propagates {τ : Type} (surroundings : Surroundings) (failure : Failure)
    (result : Except Abort Unit × Settling τ) : Prop :=
  SettledBy .nack result.2 ∧ result.1 = .error (.raised
    (match surroundings.callback .nack with
      | .ok _ => failure
      | .error exn => .other exn))

/-- What the router makes of a message, from what the retries and then the queue made of it. -/
structure NoLoss {τ : Type} (topic : Str) (keys : List Str) (catches : Failure → Bool)
    (surroundings : Surroundings) (msg : Message)
    (retried : Except Abort (List Message) × Logged Happening τ)
    (result : Except Abort Unit × Settling (Logged Happening τ)) : Prop where
  acked : result.2.flags.acked = true → Accounted topic keys msg result.2.rest.log
  uncaught : ∀ failure, retried.1 = .error (.raised failure) → catches failure = false →
    Propagates surroundings failure result
  unpublished : ∀ name copy failure,
    .published name copy (.error (.raised failure)) ∈ result.2.rest.log →
      Propagates surroundings failure result

section Process

variable {τ : Type}

def processFresh (handler : Handler) (surroundings : Surroundings) (wrapped : HandlerFunc τ)
    (msg : Message) (rest : τ) : Except Abort Unit × Settling τ :=
  exec (processWith handler surroundings (fun other => outside (wrapped other)) msg)
    ⟨AckState.fresh, [], rest⟩

/-- The router acks what the wrapped function returns on, nacks what it raises on, and leaves
what is cancelled. -/
inductive Processes (surroundings : Surroundings) :
    Except Abort (List Message) × τ → Except Abort Unit × Settling τ → Prop where
  | acks (outputs : List Message) (outcome : Except Abort Unit) (rest : τ) :
      Processes surroundings (.ok outputs, rest) (outcome, ⟨flagsOf .ack, [.ack], rest⟩)
  | nacks (failure : Failure) (rest : τ) (result : Except Abort Unit × Settling τ)
      (same : result.2.rest = rest) (propagates : Propagates surroundings failure result) :
      Processes surroundings (.error (.raised failure), rest) result
  | leaves (rest : τ) :
      Processes surroundings (.error .cancelled, rest)
        (.error .cancelled, ⟨AckState.fresh, [], rest⟩)

theorem processes (handler : Handler) (surroundings : Surroundings) (wrapped : HandlerFunc τ)
    (msg : Message) (rest : τ) :
    Processes surroundings (exec (wrapped msg) rest)
      (processFresh handler surroundings wrapped msg rest) := by
  have called : exec (outside (wrapped msg)) ⟨AckState.fresh, [], rest⟩ =
      ((exec (wrapped msg) rest).1, ⟨AckState.fresh, [], (exec (wrapped msg) rest).2⟩) := rfl
  rw [processFresh, exec_processWith, called]
  rcases exec (wrapped msg) rest with ⟨ended, after⟩
  cases ended with
  | error abort =>
      cases abort with
      | cancelled => exact .leaves after
      | raised failure =>
          dsimp only
          rw [exec_abandon_fresh rfl]
          refine .nacks failure after _ rfl ⟨⟨rfl, rfl⟩, ?_⟩
          cases surroundings.callback .nack <;> rfl
  | ok outputs =>
      dsimp only
      rw [exec_complete_fresh rfl]
      cases completion handler surroundings outputs with
      | ok value => exact .acks outputs _ after
      | error exn =>
          -- The flag of the `ack` is set: the `nack` that follows is refused.
          have settled : (⟨flagsOf .ack, [.ack], after⟩ : Settling τ).flags = flagsOf .ack := rfl
          have refused := exec_abandon_settled surroundings settled (.other exn)
          simp only [Except.mapError, List.nil_append, refused]
          exact .acks outputs _ after

end Process

section NoLoss

variable {τ : Type} {queue : FailureQueue (Logged Happening τ)} {keys : List Str} {msg : Message}

theorem Passed.processed {topic : Str} {catches : Failure → Bool} {surroundings : Surroundings}
    {retried called : Except Abort (List Message) × Logged Happening τ}
    {result : Except Abort Unit × Settling (Logged Happening τ)}
    (passed : Passed topic keys catches msg retried called)
    (processed : Processes surroundings called result) :
    NoLoss topic keys catches surroundings msg retried result := by
  rcases passed with ⟨returned, uncaught, unpublished⟩
  cases processed with
  | acks outputs outcome log =>
      refine ⟨fun _ => returned outputs rfl, ?_, ?_⟩
      · intro failure raised missed
        exact absurd (uncaught failure raised missed) nofun
      · intro name copy failure member
        exact absurd (unpublished name copy failure member) nofun
  | nacks failure log result same propagates =>
      cases same
      refine ⟨?_, ?_, ?_⟩
      · intro acked
        rw [propagates.1.1] at acked
        cases acked
      · intro other raised missed
        cases uncaught other raised missed
        exact propagates
      · intro name copy other member
        cases unpublished name copy other member
        exact propagates
  | leaves log =>
      refine ⟨nofun, ?_, ?_⟩
      · intro failure raised missed
        exact absurd (uncaught failure raised missed) nofun
      · intro name copy failure member
        exact absurd (unpublished name copy failure member) nofun

theorem wrap_take_drop {σ : Type} (middlewares : List (Middleware σ)) (own : Nat)
    (func : HandlerFunc σ) :
    wrap (middlewares.take own) (middlewares.drop own) func =
      middlewares.foldr (fun middleware next => middleware next) func := by
  rw [wrap, ← List.foldr_append, List.take_append_drop]

def underQueue (queue : Middleware (Logged Happening τ)) (ambient : Ambient τ) (config : Retry τ)
    (own : Nat) (func : HandlerFunc τ) : HandlerFunc (Logged Happening τ) :=
  wrap ([queue, retry ambient.unlogged config.unlogged].take own)
    ([queue, retry ambient.unlogged config.unlogged].drop own) (attempt func)

theorem queue_no_loss (quiet : Quiet queue keys msg) (runtime : Runtime τ) (ambient : Ambient τ)
    (config : Retry τ) (own : Nat) (func : HandlerFunc τ) (handler : Handler)
    (surroundings : Surroundings) (rest : τ) :
    NoLoss queue.topic keys queue.catches surroundings msg
      (exec (retry ambient.unlogged config.unlogged (attempt func) msg) ⟨[], rest⟩)
      (processFresh handler surroundings
        (underQueue (queue.middleware runtime.unlogged) ambient config own func) msg
        ⟨[], rest⟩) := by
  rw [underQueue, wrap_take_drop]
  have passed := exec_middleware quiet runtime ambient config func rest
  exact passed.processed (processes handler surroundings _ msg _)

end NoLoss

/-- For every handler in a failure queue around retries, wherever the router's own middlewares
end: an acked message has been handled, or copied once to the failure topic. -/
theorem failure_queue_keeps_message {τ : Type} (runtime : Runtime τ) (ambient : Ambient τ)
    (config : Retry τ) (own : Nat) (func : HandlerFunc τ) (handler : Handler)
    (surroundings : Surroundings) (msg : Message) (rest : τ) :
    (∀ deadLetters : DeadLetterQueue τ,
      NoLoss deadLetters.topic deadLetters.keys deadLetters.catches surroundings msg
        (exec (retry ambient.unlogged config.unlogged (attempt func) msg) ⟨[], rest⟩)
        (processFresh handler surroundings
          (underQueue (deadLetterQueue runtime.unlogged deadLetters.logged) ambient config own func)
          msg ⟨[], rest⟩)) ∧
    ∀ poison : PoisonQueue τ,
      NoLoss poison.topic (poison.keys msg) poison.catches surroundings msg
        (exec (retry ambient.unlogged config.unlogged (attempt func) msg) ⟨[], rest⟩)
        (processFresh handler surroundings
          (underQueue (poisonQueue runtime.unlogged poison.logged) ambient config own func)
          msg ⟨[], rest⟩) := by
  constructor
  · intro deadLetters
    exact queue_no_loss (dead_letter_quiet runtime deadLetters msg) runtime ambient config own func
      handler surroundings rest
  · intro poison
    exact queue_no_loss (poison_quiet runtime poison msg) runtime ambient config own func handler
      surroundings rest

end Natricine.Router
