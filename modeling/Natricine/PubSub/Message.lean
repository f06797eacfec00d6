import Natricine.Library.Dict
import Natricine.Library.Text

/-! `message.py`: a message, its two settlement flags, and the guards that `ack()` and
`nack()` pass before their callbacks run. -/

namespace Natricine.PubSub

structure AckState where
  acked : Bool
  nacked : Bool
  deriving DecidableEq, Repr

namespace AckState

def fresh : AckState := ⟨false, false⟩

def Settled (state : AckState) : Prop := state.acked = true ∨ state.nacked = true

instance (state : AckState) : Decidable state.Settled :=
  inferInstanceAs (Decidable (_ ∨ _))

/-- `Message.ack` up to its callback: the text of the `ValueError`, or the flags it leaves. -/
def ack (state : AckState) : Except String AckState :=
  if state.acked then .error "Message already acked"
  else if state.nacked then .error "Cannot ack a message that has been nacked"
  else .ok { state with acked := true }

/-- `Message.nack` up to its callback. -/
def nack (state : AckState) : Except String AckState :=
  if state.nacked then .error "Message already nacked"
  else if state.acked then .error "Cannot nack a message that has been acked"
  else .ok { state with nacked := true }

theorem ack_ok_iff (state next : AckState) :
    state.ack = .ok next ↔ state = fresh ∧ next = ⟨true, false⟩ := by
  obtain ⟨acked, nacked⟩ := state
  cases acked <;> cases nacked <;> simp [ack, fresh, eq_comm]

theorem nack_ok_iff (state next : AckState) :
    state.nack = .ok next ↔ state = fresh ∧ next = ⟨false, true⟩ := by
  obtain ⟨acked, nacked⟩ := state
  cases acked <;> cases nacked <;> simp [nack, fresh, eq_comm]

theorem not_settled_fresh : ¬fresh.Settled := by decide

theorem settled_of_ne_fresh {state : AckState} (other : state ≠ fresh) : state.Settled := by
  rcases state with ⟨acked, nacked⟩
  cases acked with
  | true => exact Or.inl rfl
  | false =>
      cases nacked with
      | true => exact Or.inr rfl
      | false => exact absurd rfl other

end AckState

structure Message where
  payload : Text.Bytes
  metadata : List (Text.Str × Text.Str)
  uuid : BitVec 128
  ackState : AckState
  deriving DecidableEq, Repr

namespace Message

def copy (message : Message) : Message :=
  ⟨message.payload, message.metadata, message.uuid, AckState.fresh⟩

end Message

/-- The fields of a message that travel; `ν` holds the values of its metadata. -/
structure Content (ν : Type) where
  payload : Text.Bytes
  metadata : Dict Text.Str ν
  uuid : BitVec 128

def orders : Text.Str := Text.ofString "orders"

def created : Content Text.Str :=
  ⟨[1], Dict.empty.set (Text.ofString "kind") (Text.ofString "created"), 7⟩

end Natricine.PubSub
