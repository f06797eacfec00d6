import Natricine.Library.ConsumerGroup
import Natricine.Library.Transition
import Natricine.Library.Update
import Natricine.PubSub.Message
import Mathlib.Logic.Function.Basic

/-! `RedisStreamSubscriber` iterators of one group on one stream, one for each consumer name.
The stream enters through what it promises: `XREADGROUP` with id `0` returns what is pending for
the named consumer, with id `>` what the group was never delivered, and `XACK` ends an entry's
pending state. -/

namespace Natricine.Redis

open ConsumerGroup PubSub Text

/-- Where `_subscribe_iter` stands: not running, or in the loop over the entries of one of its two
reads. The top of the outer loop is the end of the second one. -/
inductive Stage where
  | idle
  | redelivering (batch : List Nat)
  | delivering (batch : List Nat)
  deriving DecidableEq, Repr

def Stage.batch : Stage → List Nat
  | .idle => []
  | .redelivering batch | .delivering batch => batch

def Stage.rest : Stage → Stage
  | .idle => .idle
  | .redelivering batch => .redelivering batch.tail
  | .delivering batch => .delivering batch.tail

def Stage.emptied : Stage → Stage
  | .idle => .idle
  | .redelivering _ => .redelivering []
  | .delivering _ => .delivering []

theorem Stage.emptied_rest (stage : Stage) : stage.rest.emptied = stage.emptied := by
  cases stage <;> rfl

theorem Stage.emptied_of_batch {stage : Stage} (batch : stage.batch = []) :
    stage.emptied = stage := by
  cases stage with
  | idle => rfl
  | redelivering waiting | delivering waiting =>
      cases batch
      rfl

theorem Stage.batch_rest (stage : Stage) : stage.rest.batch = stage.batch.tail := by
  cases stage <;> rfl

/-- The subscriber of a consumer name and its iterator; `session` counts the iterators that were
started under the name. -/
structure Iterator where
  closed : Bool
  session : Nat
  stage : Stage
  deriving DecidableEq, Repr

/-- A yielded message: whose iterator made it, of which entry, and its flags. -/
structure Delivery where
  consumer : Str
  session : Nat
  entry : Nat
  ackState : AckState
  deriving DecidableEq, Repr

structure State where
  group : StreamGroup Str
  iterators : Str → Iterator
  deliveries : List Delivery

def initial : State := ⟨StreamGroup.empty, fun _ => ⟨false, 0, .idle⟩, []⟩

/-- `stop` is an iterator that ends where it is suspended; `ack` and `nack` name a delivery by its
place in yield order. -/
inductive Event where
  | append
  | start (consumer : Str)
  | close (consumer : Str)
  | stop (consumer : Str)
  | readPending (consumer : Str)
  | readNew (consumer : Str)
  | yield (consumer : Str)
  | ack (index : Nat)
  | nack (index : Nat)
  deriving DecidableEq, Repr

namespace State

def setStage (s : State) (consumer : Str) (stage : Stage) : State :=
  { s with
    iterators := Function.update s.iterators consumer { s.iterators consumer with stage := stage } }

theorem setStage_self (s : State) (consumer : Str) (stage : Stage) :
    (s.setStage consumer stage).iterators consumer =
      { s.iterators consumer with stage := stage } :=
  Function.update_self _ _ _

def deliver (s : State) (consumer : Str) (entry : Nat) : State :=
  { s with
    deliveries := s.deliveries ++
      [⟨consumer, (s.iterators consumer).session, entry, AckState.fresh⟩] }

end State

def settle (s : State) (index : Nat) (guard : AckState → Except String AckState)
    (callback : StreamGroup Str → Nat → StreamGroup Str) : Option State :=
  match s.deliveries[index]? with
  | none => none
  | some d =>
      match guard d.ackState with
      | .error _ => some s
      | .ok flags =>
          some { s with
            group := callback s.group d.entry
            deliveries := s.deliveries.set index { d with ackState := flags } }

def ackFunc (group : StreamGroup Str) (entry : Nat) : StreamGroup Str := group.ack entry

def nackFunc (group : StreamGroup Str) (_entry : Nat) : StreamGroup Str := group

/-- What the iterator's next `XREADGROUP` returns if it is the one with id `0`. -/
def pendingRead (count : Str → Nat) (s : State) (consumer : Str) : List Nat :=
  match (s.iterators consumer).stage with
  | .delivering [] =>
      if (s.iterators consumer).closed then []
      else (s.group.pendingOf consumer).take (count consumer)
  | .idle | .redelivering _ | .delivering (_ :: _) => []

def newRead (count : Str → Nat) (s : State) (consumer : Str) : List Nat :=
  match (s.iterators consumer).stage with
  | .redelivering [] => s.group.fresh (count consumer)
  | .idle | .redelivering (_ :: _) | .delivering _ => []

/-- `_subscribe_iter`. `closed` is looked at only at the top of the loop. -/
def step (count : Str → Nat) (s : State) : Event → Option State
  | .append => some { s with group := s.group.append }
  | .start consumer =>
      if (s.iterators consumer).stage = .idle then
        some { s with
          iterators := Function.update s.iterators consumer
            ⟨false, (s.iterators consumer).session + 1, .delivering []⟩ }
      else none
  | .close consumer =>
      some { s with
        iterators := Function.update s.iterators consumer
          { s.iterators consumer with closed := true } }
  | .stop consumer => some (s.setStage consumer .idle)
  | .readPending consumer =>
      match (s.iterators consumer).stage with
      | .delivering [] =>
          if (s.iterators consumer).closed then some (s.setStage consumer .idle)
          else
            let pending := (s.group.pendingOf consumer).take (count consumer)
            some (s.setStage consumer (.redelivering pending))
      | .idle | .redelivering _ | .delivering (_ :: _) => none
  | .readNew consumer =>
      match (s.iterators consumer).stage with
      | .redelivering [] =>
          some { s.setStage consumer (.delivering (s.group.fresh (count consumer))) with
            group := s.group.readNew consumer (count consumer) }
      | .idle | .redelivering (_ :: _) | .delivering _ => none
  | .yield consumer =>
      match (s.iterators consumer).stage.batch with
      | [] => none
      | entry :: _ =>
          some ((s.setStage consumer (s.iterators consumer).stage.rest).deliver consumer entry)
  | .ack index => settle s index AckState.ack ackFunc
  | .nack index => settle s index AckState.nack nackFunc

theorem step_readPending {count : Str → Nat} {s : State} {consumer : Str} {entry : Nat}
    (returned : entry ∈ pendingRead count s consumer) :
    step count s (.readPending consumer) =
      some (s.setStage consumer (.redelivering (pendingRead count s consumer))) := by
  rw [pendingRead] at returned
  split at returned
  · rename_i top
    split at returned
    · cases returned
    · rename_i opened
      simp only [step, pendingRead, top, if_neg opened]
  all_goals cases returned

theorem mem_pendingOf_of_mem_pendingRead {count : Str → Nat} {s : State} {consumer : Str}
    {entry : Nat}
    (returned : entry ∈ pendingRead count s consumer) : entry ∈ s.group.pendingOf consumer := by
  rw [pendingRead] at returned
  split at returned
  · split at returned
    · cases returned
    · exact List.mem_of_mem_take returned
  all_goals cases returned

theorem mem_fresh_of_mem_newRead {count : Str → Nat} {s : State} {consumer : Str} {entry : Nat}
    (returned : entry ∈ newRead count s consumer) : entry ∈ s.group.fresh (count consumer) := by
  rw [newRead] at returned
  split at returned
  · exact returned
  all_goals cases returned

theorem pendingRead_of_top {count : Str → Nat} {s : State} {consumer : Str}
    (top : (s.iterators consumer).stage = .delivering [])
    (opened : (s.iterators consumer).closed = false) :
    pendingRead count s consumer = (s.group.pendingOf consumer).take (count consumer) := by
  rw [pendingRead, top, opened]
  rfl

theorem step_yield (count : Str → Nat) {s : State} {consumer : Str} {entry : Nat} {rest : List Nat}
    (batch : (s.iterators consumer).stage.batch = entry :: rest) :
    step count s (.yield consumer) =
      some ((s.setStage consumer (s.iterators consumer).stage.rest).deliver consumer entry) := by
  simp only [step, batch]

theorem step_readNew (count : Str → Nat) {s : State} {consumer : Str}
    (middle : (s.iterators consumer).stage = .redelivering []) :
    step count s (.readNew consumer) =
      some { s.setStage consumer (.delivering (s.group.fresh (count consumer))) with
        group := s.group.readNew consumer (count consumer) } := by
  simp only [step, middle]

theorem step_ack (count : Str → Nat) {s : State} {index : Nat} {d : Delivery}
    (found : s.deliveries[index]? = some d) (unsettled : d.ackState = AckState.fresh) :
    step count s (.ack index) = some { s with
      group := s.group.ack d.entry
      deliveries := s.deliveries.set index { d with ackState := ⟨true, false⟩ } } := by
  have passed := (AckState.ack_ok_iff d.ackState _).mpr ⟨unsettled, rfl⟩
  simp only [step, settle, found, passed, ackFunc]

theorem settle_cases {s t : State} {index : Nat} {guard : AckState → Except String AckState}
    {callback : StreamGroup Str → Nat → StreamGroup Str}
    (settled : settle s index guard callback = some t) :
    ∃ d, s.deliveries[index]? = some d ∧
      ((∃ text, guard d.ackState = .error text ∧ t = s) ∨
        ∃ flags, guard d.ackState = .ok flags ∧ t = { s with
          group := callback s.group d.entry
          deliveries := s.deliveries.set index { d with ackState := flags } }) := by
  rw [settle] at settled
  split at settled
  · cases settled
  · rename_i d found
    refine ⟨d, found, ?_⟩
    split at settled
    · rename_i text refused
      exact Or.inl ⟨text, refused, (Option.some.inj settled).symm⟩
    · rename_i flags passed
      exact Or.inr ⟨flags, passed, (Option.some.inj settled).symm⟩

inductive Taken (count : Str → Nat) (s : State) : Event → State → Prop where
  | append : Taken count s .append { s with group := s.group.append }
  | start (consumer : Str) (idle : (s.iterators consumer).stage = .idle) :
      Taken count s (.start consumer) { s with
        iterators := Function.update s.iterators consumer
          ⟨false, (s.iterators consumer).session + 1, .delivering []⟩ }
  | close (consumer : Str) :
      Taken count s (.close consumer) { s with
        iterators := Function.update s.iterators consumer
          { s.iterators consumer with closed := true } }
  | stop (consumer : Str) : Taken count s (.stop consumer) (s.setStage consumer .idle)
  | leave (consumer : Str) (top : (s.iterators consumer).stage = .delivering [])
      (closed : (s.iterators consumer).closed = true) :
      Taken count s (.readPending consumer) (s.setStage consumer .idle)
  | readPending (consumer : Str) (top : (s.iterators consumer).stage = .delivering [])
      (returned : pendingRead count s consumer =
        (s.group.pendingOf consumer).take (count consumer)) :
      Taken count s (.readPending consumer)
        (s.setStage consumer (.redelivering ((s.group.pendingOf consumer).take (count consumer))))
  | readNew (consumer : Str) (middle : (s.iterators consumer).stage = .redelivering []) :
      Taken count s (.readNew consumer)
        { s.setStage consumer (.delivering (s.group.fresh (count consumer))) with
          group := s.group.readNew consumer (count consumer) }
  | yield (consumer : Str) (entry : Nat) (rest : List Nat)
      (batch : (s.iterators consumer).stage.batch = entry :: rest) :
      Taken count s (.yield consumer)
        ((s.setStage consumer (s.iterators consumer).stage.rest).deliver consumer entry)
  | refused (e : Event) : Taken count s e s
  | ack (index : Nat) (d : Delivery) (found : s.deliveries[index]? = some d)
      (unsettled : d.ackState = AckState.fresh) :
      Taken count s (.ack index) { s with
        group := s.group.ack d.entry
        deliveries := s.deliveries.set index { d with ackState := ⟨true, false⟩ } }
  | nack (index : Nat) (d : Delivery) (found : s.deliveries[index]? = some d)
      (unsettled : d.ackState = AckState.fresh) :
      Taken count s (.nack index) { s with
        deliveries := s.deliveries.set index { d with ackState := ⟨false, true⟩ } }

theorem taken_of_step {count : Str → Nat} {s t : State} {e : Event}
    (taken : step count s e = some t) :
    Taken count s e t := by
  cases e with
  | append =>
      cases taken
      exact .append
  | start consumer =>
      simp only [step] at taken
      split at taken
      · rename_i idle
        cases taken
        exact .start consumer idle
      · cases taken
  | close consumer =>
      cases taken
      exact .close consumer
  | stop consumer =>
      cases taken
      exact .stop consumer
  | readPending consumer =>
      simp only [step] at taken
      split at taken
      · rename_i top
        split at taken
        · rename_i closed
          cases taken
          exact .leave consumer top closed
        · rename_i opened
          cases taken
          refine .readPending consumer top ?_
          simp only [pendingRead, top, if_neg opened]
      all_goals cases taken
  | readNew consumer =>
      simp only [step] at taken
      split at taken
      · rename_i middle
        cases taken
        exact .readNew consumer middle
      all_goals cases taken
  | yield consumer =>
      simp only [step] at taken
      split at taken
      · cases taken
      · rename_i entry rest batch
        cases taken
        exact .yield consumer entry rest batch
  | ack index =>
      rcases settle_cases taken with ⟨d, found, ⟨text, -, rfl⟩ | ⟨flags, passed, rfl⟩⟩
      · exact .refused _
      · rcases (AckState.ack_ok_iff _ _).mp passed with ⟨unsettled, rfl⟩
        exact .ack index d found unsettled
  | nack index =>
      rcases settle_cases taken with ⟨d, found, ⟨text, -, rfl⟩ | ⟨flags, passed, rfl⟩⟩
      · exact .refused _
      · rcases (AckState.nack_ok_iff _ _).mp passed with ⟨unsettled, rfl⟩
        exact .nack index d found unsettled

end Natricine.Redis
