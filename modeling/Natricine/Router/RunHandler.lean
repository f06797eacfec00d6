import Natricine.Service.Processing

/-! `Router._run_handler` over the messages of one subscription, and when a message is
acknowledged although its outputs were not published. -/

namespace Natricine.Router

open PubSub Service Text

inductive Stop where
  | raised (exn : Exn)
  | cancelled
  deriving DecidableEq, Repr

structure PublishCall where
  topic : Str
  messages : List Message
  outcome : Await Unit
  deriving DecidableEq, Repr

/-- What the code leaves behind for one input message; `outputs` are the messages that its
handler returned. -/
structure Ledger where
  ackState : AckState
  outputs : List Message
  calls : List PublishCall
  inFlight : Int
  deriving DecidableEq, Repr

/-- One message with all that is decided outside the router: whether it is closing when the
message arrives, how the handler settles the message itself and how it ends, and how the
callbacks and the publisher behave. -/
structure Delivery where
  closing : Bool
  ownSettlement : AckState
  handler : Await (List Message)
  ackCallback : Await Unit
  nackCallback : Await Unit
  publish : Await Unit
  deriving DecidableEq, Repr

abbrev Action := ExceptT Stop (StateM Ledger)

def await {α : Type} : Await α → Action α
  | .returned value => pure value
  | .raised exn => throw (.raised exn)
  | .cancelled => throw .cancelled

def ack (callback : Await Unit) : Action Unit := do
  match (← get).ackState.ack with
  | .error text => throw (.raised (.valueError text))
  | .ok flags =>
      modify (fun ledger => { ledger with ackState := flags })
      await callback

def nack (callback : Await Unit) : Action Unit := do
  match (← get).ackState.nack with
  | .error text => throw (.raised (.valueError text))
  | .ok flags =>
      modify (fun ledger => { ledger with ackState := flags })
      await callback

def callHandler (delivery : Delivery) : Action (List Message) := do
  modify (fun ledger => { ledger with ackState := delivery.ownSettlement })
  let outputs ← await delivery.handler
  modify (fun ledger => { ledger with outputs := outputs })
  return outputs

def publish (topic : Str) (messages : List Message) (outcome : Await Unit) : Action Unit := do
  modify (fun ledger =>
    { ledger with calls := ledger.calls ++ [⟨topic, messages, outcome⟩] })
  await outcome

def process (handler : Handler) (delivery : Delivery) : Action Unit := do
  modify (fun ledger => { ledger with inFlight := ledger.inFlight + 1 })
  try
    let outputs ← callHandler delivery
    ack delivery.ackCallback
    if handler.publishes outputs then
      publish (handler.publishTopic.getD []) outputs delivery.publish
  catch
    | .raised exn =>
        nack delivery.nackCallback
        throw (.raised exn)
    | .cancelled => throw .cancelled
  finally
    modify (fun ledger => { ledger with inFlight := ledger.inFlight - 1 })

def Ledger.fresh : Ledger := ⟨AckState.fresh, [], [], 0⟩

def receive (handler : Handler) (delivery : Delivery) : Bool × Ledger :=
  if delivery.closing then (false, ((nack delivery.nackCallback).run.run Ledger.fresh).2)
  else
    match (process handler delivery).run.run Ledger.fresh with
    | (.ok (), ledger) => (true, ledger)
    | (.error _, ledger) => (false, ledger)

def runHandler (handler : Handler) : List Delivery → List (Delivery × Ledger)
  | [] => []
  | delivery :: rest =>
      let result := receive handler delivery
      (delivery, result.2) :: if result.1 then runHandler handler rest else []

/-- Every output of an acknowledged message was accepted, and a message whose publishing raised
is nacked and not acknowledged. -/
def OutputsKept (ledger : Ledger) : Prop :=
  (ledger.ackState.acked = true →
    ∀ output ∈ ledger.outputs, ∃ call ∈ ledger.calls,
      output ∈ call.messages ∧ call.outcome = .returned ()) ∧
  ∀ call ∈ ledger.calls, call.outcome.Raised →
    ledger.ackState.acked = false ∧ ledger.ackState.nacked = true

/-- The outputs cannot be lost: there are none, or the handler has nacked its message, or the
ack callback and the publisher both return and there is a topic to publish to. -/
def PublishSafe (publishTopic : Str) (delivery : Delivery) : Prop :=
  delivery.closing = true ∨
    match delivery.handler with
    | .returned outputs =>
        outputs = [] ∨ delivery.ownSettlement = ⟨false, true⟩ ∨
          (delivery.ownSettlement = AckState.fresh ∧ delivery.ackCallback = .returned () ∧
            publishTopic ≠ [] ∧ delivery.publish = .returned ())
    | .raised _ | .cancelled => True

instance (ledger : Ledger) : Decidable (OutputsKept ledger) :=
  inferInstanceAs (Decidable (_ ∧ _))

instance (publishTopic : Str) :
    (delivery : Delivery) → Decidable (PublishSafe publishTopic delivery)
  | ⟨_, _, .returned _, _, _, _⟩ => inferInstanceAs (Decidable (_ ∨ _ ∨ _ ∨ _))
  | ⟨_, _, .raised _, _, _, _⟩ | ⟨_, _, .cancelled, _, _, _⟩ =>
      inferInstanceAs (Decidable (_ ∨ True))

section Process

variable {handler : Handler} {delivery : Delivery} {outputs : List Message}

theorem process_cancelled (ends : delivery.handler = .cancelled) :
    ((process handler delivery).run.run Ledger.fresh).2 = ⟨delivery.ownSettlement, [], [], 0⟩ := by
  rcases delivery with ⟨_, _, _, _, _, _⟩
  cases ends
  rfl

theorem process_raised (handler : Handler) {exn : Exn} (ends : delivery.handler = .raised exn) :
    ∃ flags, ((process handler delivery).run.run Ledger.fresh).2 = ⟨flags, [], [], 0⟩ := by
  rcases delivery with ⟨_, ⟨acked, nacked⟩, _, _, nackCallback, _⟩
  cases ends
  cases acked <;> cases nacked <;> cases nackCallback <;> exact ⟨_, rfl⟩

theorem process_settled (ends : delivery.handler = .returned outputs)
    (settled : delivery.ownSettlement ≠ AckState.fresh) :
    ((process handler delivery).run.run Ledger.fresh).2 =
      ⟨delivery.ownSettlement, outputs, [], 0⟩ := by
  rcases delivery with ⟨_, ⟨acked, nacked⟩, _, _, _, _⟩
  cases ends
  cases acked with
  | true => cases nacked <;> rfl
  | false =>
      cases nacked with
      | true => rfl
      | false => exact absurd rfl settled

theorem process_acked (ends : delivery.handler = .returned outputs)
    (unsettled : delivery.ownSettlement = AckState.fresh) :
    ((process handler delivery).run.run Ledger.fresh).2 =
      ⟨⟨true, false⟩, outputs,
        if delivery.ackCallback = .returned () ∧ handler.publishes outputs = true then
          [⟨handler.publishTopic.getD [], outputs, delivery.publish⟩] else [], 0⟩ := by
  rcases handler with ⟨publisher, publishTopic⟩
  rcases delivery with ⟨_, _, _, ackCallback, _, publishing⟩
  cases ends
  cases unsettled
  cases ackCallback with
  | raised exn => rfl
  | cancelled => rfl
  | returned done =>
      cases outputs with
      | nil => rfl
      | cons first rest =>
          cases publisher with
          | false => rfl
          | true =>
              rcases publishTopic with _ | _ | ⟨letter, letters⟩
              · rfl
              · rfl
              · cases publishing <;> rfl

theorem addHandler_publishes_iff (publishTopic : Str) (outputs : List Message) :
    (Handler.addHandler publishTopic).publishes outputs = true ↔
      outputs ≠ [] ∧ publishTopic ≠ [] := by
  cases outputs <;> cases publishTopic <;> simp [Handler.publishes, Handler.addHandler]

theorem kept_without_outputs (flags : AckState) (inFlight : Int) :
    OutputsKept ⟨flags, [], [], inFlight⟩ :=
  ⟨fun _ _ member => absurd member List.not_mem_nil,
    fun _ member => absurd member List.not_mem_nil⟩

theorem settled_kept_iff {flags : AckState} (settled : flags ≠ AckState.fresh)
    (inFlight : Int) :
    OutputsKept ⟨flags, outputs, [], inFlight⟩ ↔ outputs = [] ∨ flags = ⟨false, true⟩ := by
  constructor
  · intro kept
    rcases flags with ⟨acked, nacked⟩
    cases acked with
    | true =>
        left
        apply List.eq_nil_iff_forall_not_mem.mpr
        intro output member
        rcases kept.1 rfl output member with ⟨call, none, -⟩
        cases none
    | false =>
        right
        cases nacked with
        | true => rfl
        | false => exact absurd rfl settled
  · intro either
    rcases either with rfl | rfl
    · exact kept_without_outputs flags inFlight
    · exact ⟨nofun, fun _ member => absurd member List.not_mem_nil⟩

theorem acked_kept_iff (publishTopic : Str) (called : Prop) [Decidable called]
    (publishing : Await Unit) (inFlight : Int) :
    OutputsKept ⟨⟨true, false⟩, outputs,
        if called ∧ (Handler.addHandler publishTopic).publishes outputs = true then
          [⟨publishTopic, outputs, publishing⟩] else [], inFlight⟩ ↔
      outputs = [] ∨ (called ∧ publishTopic ≠ [] ∧ publishing = .returned ()) := by
  simp only [addHandler_publishes_iff]
  constructor
  · intro kept
    rcases outputs with _ | ⟨first, rest⟩
    · exact Or.inl rfl
    · right
      rcases kept.1 rfl first List.mem_cons_self with ⟨call, member, -, accepted⟩
      split at member
      · rename_i both
        rw [List.mem_singleton.mp member] at accepted
        exact ⟨both.1, both.2.2, accepted⟩
      · cases member
  · intro either
    rcases either with rfl | ⟨ran, topic, rfl⟩
    · rw [if_neg (fun both => both.2.1 rfl)]
      exact kept_without_outputs _ inFlight
    · by_cases empty : outputs = []
      · subst empty
        rw [if_neg (fun both => both.2.1 rfl)]
        exact kept_without_outputs _ inFlight
      · rw [if_pos ⟨ran, empty, topic⟩]
        refine ⟨?_, ?_⟩
        · intro _ output member
          exact ⟨_, List.mem_singleton_self _, member, rfl⟩
        · intro call member raised
          rw [List.mem_singleton.mp member] at raised
          cases raised

theorem process_kept_iff (publishTopic : Str) (working : delivery.closing = false) :
    OutputsKept ((process (Handler.addHandler publishTopic) delivery).run.run Ledger.fresh).2 ↔
      PublishSafe publishTopic delivery := by
  rw [PublishSafe, working]
  cases ends : delivery.handler with
  | cancelled =>
      rw [process_cancelled ends]
      exact iff_of_true (kept_without_outputs _ 0) (Or.inr trivial)
  | raised exn =>
      have last := process_raised (Handler.addHandler publishTopic) ends
      rcases last with ⟨flags, same⟩
      rw [same]
      exact iff_of_true (kept_without_outputs _ 0) (Or.inr trivial)
  | returned outputs =>
      by_cases unsettled : delivery.ownSettlement = AckState.fresh
      · rw [process_acked ends unsettled]
        apply (acked_kept_iff publishTopic _ delivery.publish 0).trans
        simp [unsettled, AckState.fresh]
      · rw [process_settled ends unsettled, settled_kept_iff unsettled]
        simp [unsettled]

end Process

def answer (delivery : Delivery) : Phase → Await (List Message)
  | .handling => delivery.handler
  | .acking _ => delivery.ackCallback.withoutValue
  | .publishing _ => delivery.publish.withoutValue
  | .nacking _ => delivery.nackCallback.withoutValue

def drive (handler : Handler) (delivery : Delivery) :
    Nat → AckState → Phase → Option (AckState × Await Unit)
  | 0, _, _ => none
  | fuel + 1, flags, phase =>
      match resume handler flags phase (answer delivery phase) with
      | (next, .running later) => drive handler delivery fuel next later
      | (next, .ended outcome) => some (next, outcome)

def outcomeOf : Except Stop Unit → Await Unit
  | .ok value => .returned value
  | .error (.raised exn) => .raised exn
  | .error .cancelled => .cancelled

theorem drive_eq_process (handler : Handler) (delivery : Delivery) :
    drive handler delivery 4 delivery.ownSettlement .handling =
      some (((process handler delivery).run.run Ledger.fresh).2.ackState,
        outcomeOf ((process handler delivery).run.run Ledger.fresh).1) := by
  rcases handler with ⟨publisher, publishTopic⟩
  rcases delivery with ⟨closing, ⟨acked, nacked⟩, handled, ackCallback, nackCallback, publishing⟩
  cases handled with
  | cancelled => rfl
  | raised exn => cases acked <;> cases nacked <;> cases nackCallback <;> rfl
  | returned outputs =>
      cases acked with
      | true => cases nacked <;> rfl
      | false =>
          cases nacked with
          | true => rfl
          | false =>
              cases ackCallback with
              | raised exn => rfl
              | cancelled => rfl
              | returned done =>
                  rcases outputs with _ | ⟨first, rest⟩
                  · rfl
                  · cases publisher with
                    | false => rfl
                    | true =>
                        rcases publishTopic with _ | _ | ⟨letter, letters⟩
                        · rfl
                        · rfl
                        · cases publishing <;> rfl

theorem receive_kept_iff (publishTopic : Str) (delivery : Delivery) :
    OutputsKept (receive (Handler.addHandler publishTopic) delivery).2 ↔
      PublishSafe publishTopic delivery := by
  rw [receive]
  cases closing : delivery.closing with
  | true =>
      have nacked : ∃ flags,
          ((nack delivery.nackCallback).run.run Ledger.fresh).2 = ⟨flags, [], [], 0⟩ := by
        cases delivery.nackCallback <;> exact ⟨_, rfl⟩
      rcases nacked with ⟨flags, same⟩
      rw [if_pos rfl, same]
      exact iff_of_true (kept_without_outputs flags 0) (Or.inl closing)
  | false =>
      rw [if_neg Bool.false_ne_true, ← process_kept_iff publishTopic closing]
      split
      · rename_i ledger done
        rw [done]
      · rename_i stop ledger done
        rw [done]

theorem mem_runHandler {handler : Handler} {deliveries : List Delivery} {entry : Delivery × Ledger}
    (member : entry ∈ runHandler handler deliveries) :
    entry.2 = (receive handler entry.1).2 := by
  induction deliveries with
  | nil => cases member
  | cons delivery rest ih =>
      rw [runHandler] at member
      rcases List.mem_cons.mp member with rfl | later
      · rfl
      · by_cases more : (receive handler delivery).1 = true
        · simp only [if_pos more] at later
          exact ih later
        · simp only [if_neg more] at later
          cases later

theorem receive_goes_on {handler : Handler} {delivery : Delivery}
    (goesOn : (receive handler delivery).1 = true) :
    (receive handler delivery).2.ackState = ⟨true, false⟩ ∧
      delivery.ackCallback = .returned () := by
  rcases handler with ⟨publisher, publishTopic⟩
  rcases delivery with ⟨closing, ⟨acked, nacked⟩, handled, ackCallback, nackCallback, publish⟩
  cases closing with
  | true => cases goesOn
  | false =>
      cases handled with
      | cancelled => cases goesOn
      | raised exn => cases acked <;> cases nacked <;> cases nackCallback <;> cases goesOn
      | returned outputs =>
          cases acked with
          | true => cases nacked <;> cases goesOn
          | false =>
              cases nacked with
              | true => cases goesOn
              | false =>
                  cases ackCallback with
                  | raised exn => cases goesOn
                  | cancelled => cases goesOn
                  | returned done =>
                      rcases outputs with _ | ⟨first, rest⟩
                      · exact ⟨rfl, rfl⟩
                      · cases publisher with
                        | false => exact ⟨rfl, rfl⟩
                        | true =>
                            rcases publishTopic with _ | _ | ⟨letter, letters⟩
                            · exact ⟨rfl, rfl⟩
                            · exact ⟨rfl, rfl⟩
                            · cases publish with
                              | returned done => exact ⟨rfl, rfl⟩
                              | raised exn => cases goesOn
                              | cancelled => cases goesOn

theorem receive_opened {handler : Handler} {delivery : Delivery}
    (opened : delivery.closing = false) :
    (receive handler delivery).2 = ((process handler delivery).run.run Ledger.fresh).2 := by
  rw [receive, opened]
  rcases (process handler delivery).run.run Ledger.fresh with ⟨_ | _, _⟩ <;> rfl

theorem receive_unsettled (handler : Handler) {delivery : Delivery}
    (unsettled : delivery.ownSettlement = AckState.fresh) :
    (receive handler delivery).2.ackState =
      if delivery.closing then ⟨false, true⟩
      else
        match delivery.handler with
        | .returned _ => ⟨true, false⟩
        | .raised _ => ⟨false, true⟩
        | .cancelled => AckState.fresh := by
  cases closing : delivery.closing with
  | true =>
      rw [receive, closing]
      cases delivery.nackCallback <;> rfl
  | false =>
      rw [receive_opened closing, if_neg Bool.false_ne_true]
      cases ends : delivery.handler with
      | returned outputs => rw [process_acked ends unsettled]
      | cancelled =>
          rcases delivery with ⟨_, _, _, _, _, _⟩
          cases ends
          cases unsettled
          rfl
      | raised exn =>
          rcases delivery with ⟨_, _, _, _, nackCallback, _⟩
          cases ends
          cases unsettled
          cases nackCallback <;> rfl

/-- Over every sequence of messages and every outcome of the handler, its callbacks and its
publisher: the outputs of each message taken are kept if and only if they cannot be lost. -/
theorem outputs_kept_iff_publish_safe (publishTopic : Str) (deliveries : List Delivery) :
    (∀ entry ∈ runHandler (Handler.addHandler publishTopic) deliveries, OutputsKept entry.2) ↔
      ∀ entry ∈ runHandler (Handler.addHandler publishTopic) deliveries,
        PublishSafe publishTopic entry.1 := by
  apply forall₂_congr
  intro entry member
  rw [mem_runHandler member]
  exact receive_kept_iff publishTopic entry.1

/-- The publisher raises: the message stays acked, `nack` refuses, and the output is lost. -/
theorem failed_publish_loses_output :
    ¬ ∀ entry ∈ runHandler (Handler.addHandler [0])
        [⟨false, AckState.fresh, .returned [⟨[], [], 0, AckState.fresh⟩], .returned (),
          .returned (), .raised (.other "publish failed")⟩],
      OutputsKept entry.2 := by
  decide

end Natricine.Router
