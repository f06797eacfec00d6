import Natricine.Library.Transition
import Natricine.Library.Update
import Natricine.PubSub.Message
import Natricine.Sql.Dialect
import Mathlib.Logic.Function.Basic

/-! Any number of `SQLSubscriber` iterators on one topic table. Each statement is a
transaction of its own, as through an asyncpg pool; a step runs one of them. -/

namespace Natricine.Sql

open Text (Str)
open PubSub

/-- The fields of `SQLConfig` that the iterator reads. -/
structure SQLConfig where
  consumerGroup : Str
  ackDeadline : Time
  batchSize : Nat

/-- A yielded message: the iterator and row it came from, when its claim was made and
runs out, and its flags. -/
structure Delivery where
  worker : Nat
  rowId : Nat
  claimedAt : Time
  expiry : Time
  ackState : AckState
  deriving DecidableEq, Repr

/-- `batches` holds, for each iterator, the fetched rows it has not yielded yet. -/
structure State (κ : Type) where
  now : Time
  table : Table κ
  nextId : Nat
  closed : Nat → Bool
  batches : Nat → List (Row κ)
  deliveries : List Delivery

variable {κ : Type}

def initial (κ : Type) (now : Time) : State κ :=
  { now, table := [], nextId := 1, closed := fun _ => false, batches := fun _ => [],
    deliveries := [] }

inductive Event (κ : Type) where
  | tick (elapsed : Nat)
  | insert (content : κ) (group : Str)
  | select (worker : Nat)
  | claim (worker : Nat)
  | ack (index : Nat)
  | nack (index : Nat)
  | close (worker : Nat)

def settle (s : State κ) (index : Nat) (guard : AckState → Except String AckState)
    (statement : Table κ → Nat → Time → Table κ) : Option (State κ) :=
  match s.deliveries[index]? with
  | none => none
  | some d =>
      match guard d.ackState with
      | .error _ => some s
      | .ok flags => some { s with
          deliveries := s.deliveries.set index { d with ackState := flags }
          table := statement s.table d.rowId s.now }

/-- `_subscribe_iter`. An iterator selects when it is resumed after its batch; it claims a
row by its id and yields the message with no await in between. -/
def step (dialect : Dialect) (config : Nat → SQLConfig) (s : State κ) :
    Event κ → Option (State κ)
  | .tick elapsed => some { s with now := s.now + elapsed }
  | .insert content group =>
      some { s with
        table := insertRow s.table s.nextId content group s.now
        nextId := s.nextId + 1 }
  | .select worker =>
      if s.batches worker = [] ∧ s.closed worker = false then
        some { s with
          batches := Function.update s.batches worker
            (selectPending dialect s.table (config worker).consumerGroup s.now
              (config worker).batchSize) }
      else none
  | .claim worker =>
      match s.batches worker with
      | [] => none
      | row :: rest =>
          let expiry := s.now + (config worker).ackDeadline
          some { s with
            table := claimMessage s.table row.id s.now expiry
            batches := Function.update s.batches worker rest
            deliveries := s.deliveries ++ [⟨worker, row.id, s.now, expiry, AckState.fresh⟩] }
  | .ack index => settle s index AckState.ack ackMessage
  | .nack index => settle s index AckState.nack nackMessage
  | .close worker => some { s with closed := Function.update s.closed worker true }

/-- What a settle call can do: be refused, or set a flag of one delivery and update
its row. -/
theorem settle_cases {s t : State κ} {index : Nat} {guard : AckState → Except String AckState}
    {statement : Table κ → Nat → Time → Table κ}
    (settled : settle s index guard statement = some t) :
    ∃ d, s.deliveries[index]? = some d ∧
      ((∃ text, guard d.ackState = .error text ∧ t = s) ∨
        ∃ flags, guard d.ackState = .ok flags ∧ t = { s with
          deliveries := s.deliveries.set index { d with ackState := flags }
          table := statement s.table d.rowId s.now }) := by
  rw [settle] at settled
  split at settled
  · cases settled
  · rename_i d found
    refine ⟨d, found, ?_⟩
    split at settled
    · rename_i text refused
      exact Or.inl ⟨text, refused, (Option.some.inj settled).symm⟩
    · rename_i flags passed
      exact Or.inr ⟨flags, passed, (Option.some.inj settled).symm⟩

def Held (s : State κ) (d : Delivery) : Prop :=
  ¬ d.ackState.Settled ∧ s.now < d.expiry

instance (s : State κ) (d : Delivery) : Decidable (Held s d) :=
  inferInstanceAs (Decidable (_ ∧ _))

end Natricine.Sql
