import Natricine.Library.Text
import Mathlib.Data.List.Sort

/-! The topic table of `dialect.py` and what its statements do to it. Times are what the
database clock shows, in its own unit. The columns `uuid`, `payload` and `metadata`
travel together as the content of a row. -/

namespace Natricine.Sql

open Text (Str)

inductive Dialect where
  | sqlite
  | postgres
  deriving DecidableEq, Repr

abbrev Time := Int

structure Row (κ : Type) where
  id : Nat
  content : κ
  consumerGroup : Str
  claimedAt : Option Time
  ackedAt : Option Time
  deliveryCount : Nat
  nextDeliveryAt : Time
  deriving DecidableEq, Repr

variable {κ : Type}

abbrev Table (κ : Type) := List (Row κ)

/-- `insert`: the columns it does not name take their defaults. -/
def insertRow (table : Table κ) (id : Nat) (content : κ) (group : Str) (now : Time) : Table κ :=
  table ++ [
    { id, content, consumerGroup := group, claimedAt := none, ackedAt := none,
      deliveryCount := 0, nextDeliveryAt := now }]

/-- The `WHERE` of `select_pending`. SQLite also asks that the row be unclaimed. -/
def Pending (dialect : Dialect) (group : Str) (now : Time) (row : Row κ) : Prop :=
  row.consumerGroup = group ∧ row.nextDeliveryAt ≤ now ∧ row.ackedAt = none ∧
    (dialect = .sqlite → row.claimedAt = none)

instance (dialect : Dialect) (group : Str) (now : Time) (row : Row κ) :
    Decidable (Pending dialect group now row) :=
  inferInstanceAs (Decidable (_ ∧ _ ∧ _ ∧ _))

def DeliverBefore (first second : Row κ) : Prop :=
  first.nextDeliveryAt < second.nextDeliveryAt ∨
    (first.nextDeliveryAt = second.nextDeliveryAt ∧ first.id ≤ second.id)

instance (first second : Row κ) : Decidable (DeliverBefore first second) :=
  inferInstanceAs (Decidable (_ ∨ (_ ∧ _)))

/-- `select_pending`. The locks of `FOR UPDATE SKIP LOCKED` end with the statement. -/
def selectPending (dialect : Dialect) (table : Table κ) (group : Str) (now : Time)
    (batchSize : Nat) : List (Row κ) :=
  ((table.filter (fun row => decide (Pending dialect group now row))).insertionSort
    DeliverBefore).take batchSize

def updateRow (table : Table κ) (id : Nat) (update : Row κ → Row κ) : Table κ :=
  table.map (fun row => if row.id = id then update row else row)

/-- `claim_message`; `expiry` is the clock plus `ack_deadline`. -/
def claimMessage (table : Table κ) (id : Nat) (now expiry : Time) : Table κ :=
  updateRow table id (fun row => { row with
    claimedAt := some now
    nextDeliveryAt := expiry
    deliveryCount := row.deliveryCount + 1 })

def ackMessage (table : Table κ) (id : Nat) (now : Time) : Table κ :=
  updateRow table id (fun row => { row with ackedAt := some now })

def nackMessage (table : Table κ) (id : Nat) (now : Time) : Table κ :=
  updateRow table id (fun row => { row with nextDeliveryAt := now, claimedAt := none })

theorem mem_updateRow (table : Table κ) (id : Nat) (update : Row κ → Row κ) (row : Row κ) :
    row ∈ updateRow table id update ↔
      ∃ old ∈ table, (if old.id = id then update old else old) = row :=
  List.mem_map

theorem mem_updateRow_cases {table : Table κ} {id : Nat} {update : Row κ → Row κ} {row : Row κ}
    (member : row ∈ updateRow table id update) :
    (∃ old ∈ table, old.id = id ∧ row = update old) ∨ (row ∈ table ∧ row.id ≠ id) := by
  rcases (mem_updateRow _ _ _ _).mp member with ⟨old, inside, same⟩
  by_cases named : old.id = id
  · rw [if_pos named] at same
    exact Or.inl ⟨old, inside, named, same.symm⟩
  · rw [if_neg named] at same
    rw [← same]
    exact Or.inr ⟨inside, named⟩

theorem exists_mem_updateRow_iff {table : Table κ} {id : Nat} {update : Row κ → Row κ}
    {P : Row κ → Prop} (same : ∀ row, P (update row) ↔ P row) :
    (∃ row ∈ updateRow table id update, P row) ↔ ∃ row ∈ table, P row := by
  constructor
  · intro holds
    rcases holds with ⟨row, member, holds⟩
    rcases mem_updateRow_cases member with ⟨old, inside, -, rfl⟩ | ⟨inside, -⟩
    · exact ⟨old, inside, (same old).mp holds⟩
    · exact ⟨row, inside, holds⟩
  · intro holds
    rcases holds with ⟨row, inside, holds⟩
    refine ⟨_, (mem_updateRow _ _ _ _).mpr ⟨row, inside, rfl⟩, ?_⟩
    split
    · exact (same row).mpr holds
    · exact holds

end Natricine.Sql
