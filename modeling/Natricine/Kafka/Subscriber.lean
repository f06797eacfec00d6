import Natricine.Library.Transition
import Natricine.Library.Update
import Natricine.PubSub.Message

/-! One partition consumed by one iterator of `KafkaSubscriber`. The broker and the
consumer enter through what they promise: `getmany` returns consecutive records from the
position and advances it, `seek` sets the position, `commit` sets the group's offset. -/

namespace Natricine.Kafka

open PubSub

/-- A yielded message: the record it was made from, the iterator session that
made it, and its flags. -/
structure Delivery where
  offset : Nat
  session : Nat
  ackState : AckState
  deriving DecidableEq, Repr

/-- `origin` is where the session started to read. -/
structure State where
  logEnd : Nat
  position : Nat
  committed : Option Nat
  batch : List Nat
  session : Nat
  origin : Nat
  delivered : List Delivery
  deriving DecidableEq, Repr

/-- A consumer joins the group at the committed offset, else where `auto_offset_reset`
places it. -/
def initial (logEnd : Nat) (committed : Option Nat) (reset : Nat) : State :=
  { logEnd, position := committed.getD reset, committed, batch := [], session := 0,
    origin := committed.getD reset, delivered := [] }

/-- `ack` and `nack` name a delivery by its place in yield order; `commits` is whether the
broker takes the commit. `restart` is a crash or close followed by a new iterator. -/
inductive Event where
  | append
  | getmany (count : Nat)
  | yield
  | ack (index : Nat) (commits : Bool)
  | nack (index : Nat)
  | restart (reset : Nat)
  deriving DecidableEq, Repr

def ackFunc (commits : Bool) (s : State) (d : Delivery) : State :=
  if d.session = s.session ∧ commits = true then { s with committed := some (d.offset + 1) } else s

def nackFunc (s : State) (d : Delivery) : State :=
  if d.session = s.session then { s with position := d.offset } else s

def settle (s : State) (index : Nat) (guard : AckState → Except String AckState)
    (callback : State → Delivery → State) : Option State :=
  match s.delivered[index]? with
  | none => none
  | some d =>
      match guard d.ackState with
      | .error _ => some s
      | .ok flags =>
          some (callback
            { s with delivered := s.delivered.set index { d with ackState := flags } } d)

/-- `_subscribe_iter` and the callbacks of `_to_message`. The iterator polls again only
when it is resumed after the last record of its batch. -/
def step (maxPollRecords : Nat) (s : State) : Event → Option State
  | .append => some { s with logEnd := s.logEnd + 1 }
  | .getmany count =>
      if s.batch = [] ∧ count ≤ maxPollRecords ∧ s.position + count ≤ s.logEnd then
        some { s with
          batch := List.range' s.position count
          position := s.position + count }
      else none
  | .yield =>
      match s.batch with
      | [] => none
      | offset :: rest =>
          some { s with
            batch := rest
            delivered := s.delivered ++ [⟨offset, s.session, AckState.fresh⟩] }
  | .ack index commits => settle s index AckState.ack (ackFunc commits)
  | .nack index => settle s index AckState.nack nackFunc
  | .restart reset =>
      some { s with
        batch := []
        session := s.session + 1
        position := s.committed.getD reset
        origin := s.committed.getD reset }

def Delivered (s : State) (offset : Nat) : Prop := ∃ d ∈ s.delivered, d.offset = offset

def Acked (s : State) (offset : Nat) : Prop :=
  ∃ d ∈ s.delivered, d.offset = offset ∧ d.ackState.acked = true

instance (s : State) (offset : Nat) : Decidable (Acked s offset) :=
  inferInstanceAs (Decidable (∃ d ∈ s.delivered, _))

/-- What a settle call can do: be refused, or set a flag of one delivery and run its
callback. -/
theorem settle_cases {s t : State} {index : Nat} {guard : AckState → Except String AckState}
    {callback : State → Delivery → State} (settled : settle s index guard callback = some t) :
    ∃ d, s.delivered[index]? = some d ∧
      ((∃ text, guard d.ackState = .error text ∧ t = s) ∨
        ∃ flags, guard d.ackState = .ok flags ∧ t = callback { s with
          delivered := s.delivered.set index { d with ackState := flags } } d) := by
  rw [settle] at settled
  split at settled
  · cases settled
  · rename_i d found
    refine ⟨d, found, ?_⟩
    split at settled
    · rename_i text refused
      exact Or.inl ⟨text, refused, (Option.some.inj settled).symm⟩
    · rename_i flags passed
      exact Or.inr ⟨flags, passed, (Option.some.inj settled).symm⟩

theorem settle_of_passed {s : State} {index : Nat} {d : Delivery} {flags : AckState}
    {guard : AckState → Except String AckState} {callback : State → Delivery → State}
    (found : s.delivered[index]? = some d) (passed : guard d.ackState = .ok flags) :
    settle s index guard callback = some (callback { s with
      delivered := s.delivered.set index { d with ackState := flags } } d) := by
  simp only [settle, found, passed]

section Settled

variable {s : State} {index : Nat} {d : Delivery}

theorem delivered_settled (found : s.delivered[index]? = some d) (flags : AckState)
    (offset : Nat) :
    Delivered { s with delivered := s.delivered.set index { d with ackState := flags } } offset ↔
      Delivered s offset :=
  Update.exists_mem_set_iff _ found Iff.rfl

theorem acked_settled (found : s.delivered[index]? = some d) (unacked : d.ackState.acked = false)
    (flags : AckState) (offset : Nat) :
    Acked { s with delivered := s.delivered.set index { d with ackState := flags } } offset ↔
      Acked s offset ∨ (d.offset = offset ∧ flags.acked = true) := by
  apply Update.exists_mem_set_or_iff _ found
  rintro ⟨-, acked⟩
  rw [unacked] at acked
  cases acked

end Settled

end Natricine.Kafka
