import Mathlib.Data.List.Range
import Mathlib.Data.List.Nodup
import Mathlib.Tactic.Common

/-! A log read by a group of consumers. Each entry is delivered once, to one consumer, and is
pending for that consumer until it is acked. -/

namespace ConsumerGroup

/-- Entries are numbered in the order they are published. `owners` says to whom each delivered
entry was delivered. -/
structure StreamGroup (α : Type) where
  published : Nat
  owners : List α
  pending : List (Nat × α)
  bounded : owners.length ≤ published
  ordered : (pending.map Prod.fst).Pairwise (· < ·)
  owned : ∀ entry ∈ pending, owners[entry.1]? = some entry.2

namespace StreamGroup

variable {α : Type}

def empty : StreamGroup α where
  published := 0
  owners := []
  pending := []
  bounded := le_refl 0
  ordered := List.Pairwise.nil
  owned := nofun

def append (group : StreamGroup α) : StreamGroup α :=
  { group with
    published := group.published + 1
    bounded := Nat.le_succ_of_le group.bounded }

def fresh (group : StreamGroup α) (count : Nat) : List Nat :=
  List.range' group.owners.length (min count (group.published - group.owners.length))

theorem lt_of_owned {group : StreamGroup α} {entry : Nat × α} (member : entry ∈ group.pending) :
    entry.1 < group.owners.length :=
  (List.getElem?_eq_some_iff.mp (group.owned entry member)).1

theorem mem_fresh {group : StreamGroup α} {count entry : Nat} :
    entry ∈ group.fresh count ↔ group.owners.length ≤ entry ∧
      entry < group.owners.length + min count (group.published - group.owners.length) := by
  simp [fresh, List.mem_range'_1]

def readNew (group : StreamGroup α) (consumer : α) (count : Nat) : StreamGroup α where
  published := group.published
  owners := group.owners ++
    List.replicate (min count (group.published - group.owners.length)) consumer
  pending := group.pending ++ (group.fresh count).map (fun entry => (entry, consumer))
  bounded := by
    have bounded := group.bounded
    simp only [List.length_append, List.length_replicate]
    omega
  ordered := by
    simp only [List.map_append, List.map_map, Function.comp_def, List.map_id']
    apply List.pairwise_append.mpr
    refine ⟨group.ordered, List.pairwise_lt_range', ?_⟩
    intro old before new after
    rcases List.mem_map.mp before with ⟨entry, member, rfl⟩
    exact Nat.lt_of_lt_of_le (lt_of_owned member) (mem_fresh.mp after).1
  owned := by
    intro entry member
    rcases List.mem_append.mp member with old | new
    · rw [List.getElem?_append_left (lt_of_owned old)]
      exact group.owned entry old
    · rcases List.mem_map.mp new with ⟨place, inside, rfl⟩
      rcases mem_fresh.mp inside with ⟨low, high⟩
      rw [List.getElem?_append_right low, List.getElem?_replicate_of_lt]
      omega

def ack (group : StreamGroup α) (entry : Nat) : StreamGroup α where
  published := group.published
  owners := group.owners
  pending := group.pending.filter (fun other => other.1 ≠ entry)
  bounded := group.bounded
  ordered := group.ordered.sublist (List.Sublist.map _ List.filter_sublist)
  owned := fun other member => group.owned other (List.mem_of_mem_filter member)

theorem fresh_nodup {group : StreamGroup α} {count : Nat} : (group.fresh count).Nodup :=
  List.nodup_range'

theorem owner_readNew {group : StreamGroup α} {consumer other : α} {count entry : Nat} :
    (group.readNew consumer count).owners[entry]? = some other ↔
      group.owners[entry]? = some other ∨ (other = consumer ∧ entry ∈ group.fresh count) := by
  rw [readNew, mem_fresh]
  rcases Nat.lt_or_ge entry group.owners.length with old | new
  · rw [List.getElem?_append_left old]
    constructor
    · exact Or.inl
    · rintro (same | ⟨-, low, -⟩)
      · exact same
      · exact absurd old (Nat.not_lt.mpr low)
  · rw [List.getElem?_append_right new, List.getElem?_replicate, List.getElem?_eq_none new]
    constructor
    · intro found
      split at found
      · rename_i inside
        exact Or.inr ⟨(Option.some.inj found).symm, new, by omega⟩
      · cases found
    · rintro (never | ⟨rfl, -, high⟩)
      · cases never
      · rw [if_pos (by omega)]

section Pending

variable [DecidableEq α]

def pendingOf (group : StreamGroup α) (consumer : α) : List Nat :=
  (group.pending.filter (fun entry => entry.2 = consumer)).map Prod.fst

variable {group : StreamGroup α} {consumer other : α} {entry acked count : Nat}

theorem mem_pendingOf : entry ∈ group.pendingOf consumer ↔ (entry, consumer) ∈ group.pending := by
  simp [pendingOf]

theorem pendingOf_ordered : (group.pendingOf consumer).Pairwise (· < ·) :=
  group.ordered.sublist (List.Sublist.map _ List.filter_sublist)

theorem pendingOf_nodup : (group.pendingOf consumer).Nodup :=
  pendingOf_ordered.imp Nat.ne_of_lt

theorem owner_of_pending (pending : entry ∈ group.pendingOf consumer) :
    group.owners[entry]? = some consumer :=
  group.owned _ (mem_pendingOf.mp pending)

theorem pendingOf_ack :
    (group.ack acked).pendingOf consumer =
      (group.pendingOf consumer).filter (fun entry => entry ≠ acked) := by
  rw [pendingOf, pendingOf, ack, List.filter_map, List.filter_filter, List.filter_filter]
  congr 1
  apply List.filter_congr
  intro entry _
  simp [Bool.and_comm]

theorem pendingOf_ack_first {rest : List Nat}
    (pending : group.pendingOf consumer = entry :: rest) :
    (group.ack entry).pendingOf consumer = rest := by
  have distinct : (group.pendingOf consumer).Nodup := group.pendingOf_nodup
  rw [pending, List.nodup_cons] at distinct
  have others : rest.filter (fun other => other ≠ entry) = rest := by
    apply List.filter_eq_self.mpr
    intro other member
    apply decide_eq_true
    intro same
    exact distinct.1 (same ▸ member)
  rw [pendingOf_ack, pending, List.filter_cons, others]
  simp

theorem pendingOf_readNew :
    (group.readNew consumer count).pendingOf consumer =
      group.pendingOf consumer ++ group.fresh count := by
  simp [pendingOf, readNew, List.filter_map, Function.comp_def]

theorem mem_take_iff_of_ordered {entries : List Nat} (ordered : entries.Pairwise (· < ·))
    (member : entry ∈ entries) :
    entry ∈ entries.take count ↔
      (entries.filter (fun other => other < entry)).length < count := by
  induction entries generalizing count with
  | nil => cases member
  | cons first rest ih =>
      rcases List.pairwise_cons.mp ordered with ⟨least, ordered⟩
      cases count with
      | zero => simp
      | succ count =>
          rcases List.mem_cons.mp member with same | later
          · subst same
            have none_before : rest.filter (fun other => other < entry) = [] := by
              apply List.filter_eq_nil_iff.mpr
              intro other inside
              simpa using Nat.le_of_lt (least other inside)
            simp [none_before]
          · have before := least entry later
            have apart : entry ≠ first := Nat.ne_of_gt before
            simp [before, apart, ih ordered later]

theorem mem_take_pendingOf_iff (pending : entry ∈ group.pendingOf consumer) :
    entry ∈ (group.pendingOf consumer).take count ↔
      ((group.pendingOf consumer).filter (fun other => other < entry)).length < count :=
  mem_take_iff_of_ordered pendingOf_ordered pending

theorem pendingOf_readNew_other (differs : other ≠ consumer) :
    (group.readNew consumer count).pendingOf other = group.pendingOf other := by
  simp [pendingOf, readNew, List.filter_map, Function.comp_def, differs.symm]

end Pending

end StreamGroup

end ConsumerGroup
