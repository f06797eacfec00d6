import Natricine.PubSub.Message

/-! The processing of one message, as `Router._run_handler` and the `_process_message` of the
two buses do it: call the handler, `ack`, publish what it returned, and `nack` on an exception.
It is a coroutine that stops at each `await` and is resumed with its outcome. -/

namespace Natricine.Service

open PubSub Text

inductive Exn where
  | valueError (text : String)
  | other (name : String)
  deriving DecidableEq, Repr

/-- How an `await` ends. A cancellation is no `Exception`: `except Exception` lets it pass. -/
inductive Await (α : Type) where
  | returned (value : α)
  | raised (exn : Exn)
  | cancelled
  deriving DecidableEq, Repr

def Await.Raised {α : Type} : Await α → Prop
  | .raised _ => True
  | .returned _ | .cancelled => False

instance {α : Type} : (outcome : Await α) → Decidable outcome.Raised
  | .raised _ => isTrue trivial
  | .returned _ | .cancelled => isFalse id

def Await.Returned {α : Type} : Await α → Prop
  | .returned _ => True
  | .raised _ | .cancelled => False

instance {α : Type} : (outcome : Await α) → Decidable outcome.Returned
  | .returned _ => isTrue trivial
  | .raised _ | .cancelled => isFalse id

def Await.forget {α : Type} : Await α → Await Unit
  | .returned _ => .returned ()
  | .raised exn => .raised exn
  | .cancelled => .cancelled

def Await.withoutValue {α : Type} : Await Unit → Await (List α)
  | .returned _ => .returned []
  | .raised exn => .raised exn
  | .cancelled => .cancelled

/-- The publishing half of a handler: whether it has a publisher, and its topic. -/
structure Handler where
  publisher : Bool
  publishTopic : Option Str
  deriving DecidableEq, Repr

namespace Handler

def addHandler (publishTopic : Str) : Handler := ⟨true, some publishTopic⟩

def addNoPublisherHandler : Handler := ⟨false, none⟩

/-- `if output_messages and handler.publisher and handler.publish_topic`, where a handler that
returns `None` is taken to return no messages. -/
def publishes (handler : Handler) (outputs : List Message) : Bool :=
  !outputs.isEmpty && handler.publisher && !(handler.publishTopic.getD []).isEmpty

end Handler

inductive Phase where
  | handling
  | acking (outputs : List Message)
  | publishing (outputs : List Message)
  | nacking (cause : Exn)
  deriving DecidableEq, Repr

inductive Turn where
  | running (phase : Phase)
  | ended (outcome : Await Unit)
  deriving DecidableEq, Repr

/-- The `except` branch up to the callback of `nack`. -/
def beginNack (flags : AckState) (cause : Exn) : AckState × Turn :=
  match flags.nack with
  | .ok next => (next, .running (.nacking cause))
  | .error text => (flags, .ended (.raised (.valueError text)))

/-- `await msg.ack()` up to its callback; where it refuses, the `except` branch follows. -/
def beginAck (flags : AckState) (outputs : List Message) : AckState × Turn :=
  match flags.ack with
  | .ok next => (next, .running (.acking outputs))
  | .error text => beginNack flags (.valueError text)

def resume (handler : Handler) (flags : AckState) : Phase → Await (List Message) → AckState × Turn
  | _, .cancelled => (flags, .ended .cancelled)
  | .handling, .returned outputs => beginAck flags outputs
  | .handling, .raised exn => beginNack flags exn
  | .acking outputs, .returned _ =>
      if handler.publishes outputs then (flags, .running (.publishing outputs))
      else (flags, .ended (.returned ()))
  | .acking _, .raised exn => beginNack flags exn
  | .publishing _, .returned _ => (flags, .ended (.returned ()))
  | .publishing _, .raised exn => beginNack flags exn
  | .nacking cause, .returned _ => (flags, .ended (.raised cause))
  | .nacking _, .raised exn => (flags, .ended (.raised exn))

theorem beginNack_cases (flags : AckState) (cause : Exn) :
    (flags = AckState.fresh ∧ beginNack flags cause = (⟨false, true⟩, .running (.nacking cause))) ∨
      (flags ≠ AckState.fresh ∧ ∃ exn, beginNack flags cause = (flags, .ended (.raised exn))) := by
  rcases flags with ⟨acked, nacked⟩
  cases acked with
  | true => cases nacked <;> exact Or.inr ⟨nofun, _, rfl⟩
  | false =>
      cases nacked with
      | true => exact Or.inr ⟨nofun, _, rfl⟩
      | false => exact Or.inl ⟨rfl, rfl⟩

theorem beginAck_cases (flags : AckState) (outputs : List Message) :
    (flags = AckState.fresh ∧
        beginAck flags outputs = (⟨true, false⟩, .running (.acking outputs))) ∨
      (flags ≠ AckState.fresh ∧ ∃ exn, beginAck flags outputs = (flags, .ended (.raised exn))) := by
  rcases flags with ⟨acked, nacked⟩
  cases acked with
  | true => cases nacked <;> exact Or.inr ⟨nofun, _, rfl⟩
  | false =>
      cases nacked with
      | true => exact Or.inr ⟨nofun, _, rfl⟩
      | false => exact Or.inl ⟨rfl, rfl⟩

inductive Resumes (flags : AckState) : Phase → Await (List Message) → AckState × Turn → Prop where
  | cancelled (phase : Phase) : Resumes flags phase .cancelled (flags, .ended .cancelled)
  | acks (outputs : List Message) (unsettled : flags = AckState.fresh) :
      Resumes flags .handling (.returned outputs) (⟨true, false⟩, .running (.acking outputs))
  | nacks (phase : Phase) (exn cause : Exn) (unsettled : flags = AckState.fresh) :
      Resumes flags phase (.raised exn) (⟨false, true⟩, .running (.nacking cause))
  | refused (phase : Phase) (outcome : Await (List Message)) (exn : Exn)
      (settled : flags ≠ AckState.fresh) (asked : ∀ cause, phase ≠ .nacking cause)
      (answered : phase = .handling ∨ outcome.Raised) (ran : outcome ≠ .cancelled) :
      Resumes flags phase outcome (flags, .ended (.raised exn))
  | publishes (outputs value : List Message) :
      Resumes flags (.acking outputs) (.returned value) (flags, .running (.publishing outputs))
  | acked (outputs value : List Message) :
      Resumes flags (.acking outputs) (.returned value) (flags, .ended (.returned ()))
  | published (outputs value : List Message) :
      Resumes flags (.publishing outputs) (.returned value) (flags, .ended (.returned ()))
  | nacked (cause exn : Exn) (outcome : Await (List Message)) (ran : outcome ≠ .cancelled) :
      Resumes flags (.nacking cause) outcome (flags, .ended (.raised exn))

theorem resumes (handler : Handler) (flags : AckState) (phase : Phase)
    (outcome : Await (List Message)) :
    Resumes flags phase outcome (resume handler flags phase outcome) := by
  cases outcome with
  | cancelled => cases phase <;> exact .cancelled _
  | returned value =>
      cases phase with
      | handling =>
          rcases beginAck_cases flags value with ⟨unsettled, same⟩ | ⟨settled, exn, same⟩
          · rw [resume, same]
            exact .acks value unsettled
          · rw [resume, same]
            exact .refused _ _ exn settled nofun (Or.inl rfl) nofun
      | acking outputs =>
          rw [resume]
          split
          · exact .publishes outputs value
          · exact .acked outputs value
      | publishing outputs => exact .published outputs value
      | nacking cause => exact .nacked cause cause _ nofun
  | raised exn =>
      have asked : ∀ phase, (∀ cause, phase ≠ .nacking cause) →
          Resumes flags phase (.raised exn) (beginNack flags exn) := by
        intro phase asked
        rcases beginNack_cases flags exn with ⟨unsettled, same⟩ | ⟨settled, other, same⟩
        · rw [same]
          exact .nacks phase exn exn unsettled
        · rw [same]
          exact .refused phase _ other settled asked (Or.inr trivial) nofun
      cases phase with
      | handling => exact asked _ nofun
      | acking outputs => exact asked _ nofun
      | publishing outputs => exact asked _ nofun
      | nacking cause => exact .nacked cause exn _ nofun

end Natricine.Service
