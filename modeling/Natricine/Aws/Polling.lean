import Natricine.Aws.Messages
import Natricine.Library.Transition
import Natricine.Library.Update
import Mathlib.Logic.Function.Basic

/-! The loops of `SQSSubscriber._subscribe_iter` and `SNSSubscriber._subscribe_iter`: any number of
subscribers with any number of iterators, each advanced from one suspension to the next. Nothing is
assumed of the queue. Its answers contain any messages, also again and in any order, and it need not
do what it is asked for. -/

namespace Natricine.Aws.Polling

open PubSub Text Transition

/-- Where `_subscribe_iter` stands: in `receive_message`, in the loop over the messages of its
answer, or over, by the test of its outer loop or by an exception. -/
inductive Stage where
  | polling
  | looping (batch : List Nat)
  | ended
  deriving DecidableEq, Repr

def Stage.batch : Stage → List Nat
  | .polling | .ended => []
  | .looping batch => batch

/-- No code reads `given`, the messages of its answers in their order, nor `yielded`. -/
structure Iterator where
  subscriber : Nat
  stage : Stage
  given : List Nat
  yielded : List Nat
  deriving DecidableEq, Repr

/-- A message of an answer of `receive_message`, and whose iterator has it. The message for the
consumer is there once it was yielded. -/
structure Received (ν : Type) where
  iterator : Nat
  sqsMsg : SqsMessage
  receiptHandle : Str
  message : Option (Content ν)
  ackState : AckState

/-- `change_message_visibility` is called with a timeout of 0. -/
inductive Request where
  | deleteMessage (receiptHandle : Str)
  | changeMessageVisibility (receiptHandle : Str)
  deriving DecidableEq, Repr

/-- `closed` is the field of each subscriber; batches and requests name a message by its place in
`received`. -/
structure State (ν : Type) where
  closed : Nat → Bool
  iterators : List Iterator
  received : List (Received ν)
  requests : List (Nat × Request)

/-- `stop` ends an iterator where it is suspended. An answer has each message with its receipt
handle, if there is one. -/
inductive Event where
  | subscribe (subscriber : Nat)
  | close (subscriber : Nat)
  | stop (iterator : Nat)
  | receive (iterator : Nat) (answer : List (SqsMessage × Option Str))
  | next (iterator : Nat) (uuid4 : BitVec 128)
  | ack (place : Nat)
  | nack (place : Nat)

abbrev Unmarshal (ν : Type) := SqsMessage → BitVec 128 → Except UnmarshalError (Content ν)

variable {ν : Type}

def initial : State ν := ⟨fun _ => false, [], [], []⟩

def State.setIterator (s : State ν) (i : Nat) (iterator : Iterator) : State ν :=
  { s with iterators := s.iterators.set i iterator }

/-- `while not self._closed`, and the call behind it. -/
def State.loopTest (s : State ν) (iterator : Iterator) : Stage :=
  if s.closed iterator.subscriber then .ended else .polling

/-- `sqs_msg.get("ReceiptHandle", "")` -/
def received (i : Nat) (answered : SqsMessage × Option Str) : Received ν :=
  ⟨i, answered.1, answered.2.getD [], none, AckState.fresh⟩

/-- The answer of `receive_message`; an empty one goes back to the test. -/
def receive (s : State ν) (i : Nat) (iterator : Iterator)
    (answer : List (SqsMessage × Option Str)) : State ν :=
  let places := List.range' s.received.length answer.length
  { s with
    received := s.received ++ answer.map (received i)
    iterators := s.iterators.set i
      { iterator with
        stage := if answer = [] then s.loopTest iterator else .looping places
        given := iterator.given ++ places } }

def yielded (s : State ν) (i : Nat) (iterator : Iterator) (place : Nat) (rest : List Nat)
    (entry : Received ν) (message : Content ν) : State ν :=
  { s with
    received := s.received.set place { entry with message := some message }
    iterators := s.iterators.set i
      { iterator with stage := .looping rest, yielded := iterator.yielded ++ [place] } }

def next (unmarshal : Unmarshal ν) (s : State ν) (i : Nat) (iterator : Iterator) (batch : List Nat)
    (uuid4 : BitVec 128) : Option (State ν) :=
  match batch with
  | [] => some (s.setIterator i { iterator with stage := s.loopTest iterator })
  | place :: rest =>
      match s.received[place]? with
      | none => none
      | some entry =>
          match unmarshal entry.sqsMsg uuid4 with
          | .error _ => some (s.setIterator i { iterator with stage := .ended })
          | .ok message => some (yielded s i iterator place rest entry message)

def settle (s : State ν) (place : Nat) (guard : AckState → Except String AckState)
    (callback : Str → Request) : Option (State ν) :=
  match s.received[place]? with
  | none => none
  | some entry =>
      if entry.message.isSome then
        match guard entry.ackState with
        | .error _ => some s
        | .ok flags =>
            some { s with
              received := s.received.set place { entry with ackState := flags }
              requests := s.requests ++ [(place, callback entry.receiptHandle)] }
      else none

def makeAck (rh : Str) : Request := .deleteMessage rh

def makeNack (rh : Str) : Request := .changeMessageVisibility rh

def step (unmarshal : Unmarshal ν) (s : State ν) : Event → Option (State ν)
  | .subscribe subscriber =>
      if s.closed subscriber then none
      else some { s with iterators := s.iterators ++ [⟨subscriber, .looping [], [], []⟩] }
  | .close subscriber => some { s with closed := Function.update s.closed subscriber true }
  | .stop i => s.iterators[i]?.map fun iterator => s.setIterator i { iterator with stage := .ended }
  | .receive i answer =>
      match s.iterators[i]? with
      | some iterator =>
          if iterator.stage = .polling then some (receive s i iterator answer) else none
      | none => none
  | .next i uuid4 =>
      match s.iterators[i]? with
      | some iterator =>
          match iterator.stage with
          | .looping batch => next unmarshal s i iterator batch uuid4
          | .polling | .ended => none
      | none => none
  | .ack place => settle s place AckState.ack makeAck
  | .nack place => settle s place AckState.nack makeNack

inductive Taken (unmarshal : Unmarshal ν) (s : State ν) : Event → State ν → Prop where
  | subscribe {subscriber : Nat} (opened : s.closed subscriber = false) :
      Taken unmarshal s (.subscribe subscriber)
        { s with iterators := s.iterators ++ [⟨subscriber, .looping [], [], []⟩] }
  | close {subscriber : Nat} : Taken unmarshal s (.close subscriber)
      { s with closed := Function.update s.closed subscriber true }
  | stop {i : Nat} {iterator : Iterator} (found : s.iterators[i]? = some iterator) :
      Taken unmarshal s (.stop i) (s.setIterator i { iterator with stage := .ended })
  | receive {i : Nat} {iterator : Iterator} {answer : List (SqsMessage × Option Str)}
      (found : s.iterators[i]? = some iterator) (polling : iterator.stage = .polling) :
      Taken unmarshal s (.receive i answer) (receive s i iterator answer)
  | done {i : Nat} {iterator : Iterator} {uuid4 : BitVec 128}
      (found : s.iterators[i]? = some iterator) (looping : iterator.stage = .looping []) :
      Taken unmarshal s (.next i uuid4)
        (s.setIterator i { iterator with stage := s.loopTest iterator })
  | raise {i : Nat} {iterator : Iterator} {uuid4 : BitVec 128}
      (found : s.iterators[i]? = some iterator) :
      Taken unmarshal s (.next i uuid4) (s.setIterator i { iterator with stage := .ended })
  | yield {i place : Nat} {iterator : Iterator} {uuid4 : BitVec 128} {rest : List Nat}
      {entry : Received ν} {message : Content ν} (found : s.iterators[i]? = some iterator)
      (looping : iterator.stage = .looping (place :: rest))
      (listed : s.received[place]? = some entry)
      (made : unmarshal entry.sqsMsg uuid4 = .ok message) :
      Taken unmarshal s (.next i uuid4) (yielded s i iterator place rest entry message)
  | refused {e : Event} {place : Nat} {entry : Received ν}
      (asked : e = .ack place ∨ e = .nack place) (listed : s.received[place]? = some entry)
      (settled : entry.ackState ≠ AckState.fresh) :
      Taken unmarshal s e s
  | acked {place : Nat} {entry : Received ν} (listed : s.received[place]? = some entry)
      (yielded : entry.message.isSome = true) (fresh : entry.ackState = AckState.fresh) :
      Taken unmarshal s (.ack place)
        { s with
          received := s.received.set place { entry with ackState := ⟨true, false⟩ }
          requests := s.requests ++ [(place, .deleteMessage entry.receiptHandle)] }
  | nacked {place : Nat} {entry : Received ν} (listed : s.received[place]? = some entry)
      (yielded : entry.message.isSome = true) (fresh : entry.ackState = AckState.fresh) :
      Taken unmarshal s (.nack place)
        { s with
          received := s.received.set place { entry with ackState := ⟨false, true⟩ }
          requests := s.requests ++ [(place, .changeMessageVisibility entry.receiptHandle)] }

section Taken

variable {unmarshal : Unmarshal ν} {s t : State ν}

theorem settle_cases {place : Nat} {guard : AckState → Except String AckState}
    {callback : Str → Request} (taken : settle s place guard callback = some t) :
    ∃ entry, s.received[place]? = some entry ∧ entry.message.isSome = true ∧
      ((∃ text, guard entry.ackState = .error text ∧ t = s) ∨
        ∃ flags, guard entry.ackState = .ok flags ∧ t = { s with
          received := s.received.set place { entry with ackState := flags }
          requests := s.requests ++ [(place, callback entry.receiptHandle)] }) := by
  rw [settle] at taken
  split at taken
  · cases taken
  · rename_i entry listed
    split at taken
    · rename_i yielded
      refine ⟨entry, listed, yielded, ?_⟩
      split at taken
      · rename_i text refused
        cases taken
        exact Or.inl ⟨text, refused, rfl⟩
      · rename_i flags allowed
        cases taken
        exact Or.inr ⟨flags, allowed, rfl⟩
    · cases taken

theorem taken_of_next {i : Nat} {iterator : Iterator} {batch : List Nat} {uuid4 : BitVec 128}
    (found : s.iterators[i]? = some iterator) (looping : iterator.stage = .looping batch)
    (taken : next unmarshal s i iterator batch uuid4 = some t) :
    Taken unmarshal s (.next i uuid4) t := by
  cases batch with
  | nil =>
      cases taken
      exact .done found looping
  | cons place rest =>
      simp only [next] at taken
      split at taken
      · cases taken
      · rename_i entry listed
        split at taken
        · cases taken
          exact .raise found
        · rename_i message made
          cases taken
          exact .yield found looping listed made

theorem taken_of_step {e : Event} (taken : step unmarshal s e = some t) :
    Taken unmarshal s e t := by
  cases e with
  | subscribe subscriber =>
      simp only [step] at taken
      split at taken
      · cases taken
      · rename_i opened
        cases taken
        exact .subscribe (Bool.eq_false_iff.mpr opened)
  | close subscriber =>
      cases taken
      exact .close
  | stop i =>
      rcases Option.map_eq_some_iff.mp taken with ⟨iterator, found, rfl⟩
      exact .stop found
  | receive i answer =>
      simp only [step] at taken
      split at taken
      · rename_i iterator found
        split at taken
        · rename_i polling
          cases taken
          exact .receive found polling
        · cases taken
      · cases taken
  | next i uuid4 =>
      simp only [step] at taken
      split at taken
      · rename_i iterator found
        split at taken
        · rename_i batch looping
          exact taken_of_next found looping taken
        · cases taken
        · cases taken
      · cases taken
  | ack place =>
      rcases settle_cases taken with
        ⟨entry, listed, yielded, ⟨text, refused, rfl⟩ | ⟨flags, allowed, rfl⟩⟩
      · apply Taken.refused (Or.inl rfl) listed
        intro fresh
        rw [fresh] at refused
        cases refused
      · rcases (AckState.ack_ok_iff _ _).mp allowed with ⟨fresh, rfl⟩
        exact .acked listed yielded fresh
  | nack place =>
      rcases settle_cases taken with
        ⟨entry, listed, yielded, ⟨text, refused, rfl⟩ | ⟨flags, allowed, rfl⟩⟩
      · apply Taken.refused (Or.inr rfl) listed
        intro fresh
        rw [fresh] at refused
        cases refused
      · rcases (AckState.nack_ok_iff _ _).mp allowed with ⟨fresh, rfl⟩
        exact .nacked listed yielded fresh

theorem step_yields {i place : Nat} {uuid4 : BitVec 128}
    {iterator : Iterator} {rest : List Nat} {entry : Received ν} {message : Content ν}
    (found : s.iterators[i]? = some iterator) (looping : iterator.stage = .looping (place :: rest))
    (listed : s.received[place]? = some entry)
    (made : unmarshal entry.sqsMsg uuid4 = .ok message) :
    step unmarshal s (.next i uuid4) =
      some (yielded s i iterator place rest entry message) := by
  simp only [step, next, found, looping, listed, made]

end Taken

end Natricine.Aws.Polling
