import Natricine.Kafka.Subscriber

namespace Natricine.Kafka

open PubSub Transition

/-- What the consumer does with a yielded record before it asks for the next one. -/
inductive Settle where
  | ack (commits : Bool)
  | nack
  | leave
  deriving DecidableEq, Repr

def Settle.events (index : Nat) : Settle → List Event
  | .ack commits => [.ack index commits]
  | .nack => [.nack index]
  | .leave => []

def batchEvents (index : Nat) : List Settle → List Event
  | [] => []
  | first :: rest => .yield :: first.events index ++ batchEvents (index + 1) rest

/-- The offset of the last nack, the records being numbered from `offset`. -/
def lastNack (position offset : Nat) : List Settle → Nat
  | [] => position
  | .nack :: rest => lastNack offset (offset + 1) rest
  | _ :: rest => lastNack position (offset + 1) rest

theorem lastNack_of_not_mem (position offset : Nat) (pattern : List Settle)
    (absent : Settle.nack ∉ pattern) : lastNack position offset pattern = position := by
  induction pattern generalizing offset with
  | nil => rfl
  | cons first rest ih =>
      simp only [List.mem_cons, not_or] at absent
      cases first with
      | nack => exact absurd rfl absent.1
      | ack commits => exact ih (offset + 1) absent.2
      | leave => exact ih (offset + 1) absent.2

theorem le_lastNack_of_mem (position offset : Nat) (pattern : List Settle)
    (present : Settle.nack ∈ pattern) : offset ≤ lastNack position offset pattern := by
  induction pattern generalizing position offset with
  | nil => cases present
  | cons first rest ih =>
      by_cases later : Settle.nack ∈ rest
      · cases first with
        | nack => exact Nat.le_of_succ_le (ih offset (offset + 1) later)
        | ack commits => exact Nat.le_of_succ_le (ih position (offset + 1) later)
        | leave => exact Nat.le_of_succ_le (ih position (offset + 1) later)
      · rcases List.mem_cons.mp present with rfl | inside
        · rw [lastNack, lastNack_of_not_mem _ _ _ later]
        · exact absurd inside later

private theorem forall_getElem_cons {first : Settle} {rest : List Settle} {P : Nat → Prop} :
    (∀ i, (first :: rest)[i]? = some .nack → P i) ↔
      (first = .nack → P 0) ∧ ∀ i, rest[i]? = some .nack → P (i + 1) := by
  constructor
  · intro all
    refine ⟨?_, fun i found => all (i + 1) (by simpa using found)⟩
    rintro rfl
    exact all 0 rfl
  · rintro ⟨zero, later⟩ i found
    cases i with
    | zero => exact zero (by simpa using found)
    | succ i => exact later i (by simpa using found)

theorem lastNack_lowest_iff (position offset : Nat) (pattern : List Settle) :
    (∀ i, pattern[i]? = some .nack → lastNack position offset pattern ≤ offset + i) ↔
      pattern.count .nack ≤ 1 := by
  induction pattern generalizing position offset with
  | nil => simp
  | cons first rest ih =>
      rw [forall_getElem_cons]
      have shifted (p : Nat) := ih p (offset + 1)
      simp only [Nat.add_assoc, Nat.add_comm 1] at shifted
      cases first with
      | ack commits => simpa [lastNack] using shifted position
      | leave => simpa [lastNack] using shifted position
      | nack =>
          simp only [lastNack, List.count_cons_self, Nat.add_zero, forall_const]
          by_cases later : Settle.nack ∈ rest
          · have above := le_lastNack_of_mem offset (offset + 1) rest later
            have counted := List.count_pos_iff.mpr later
            constructor
            · rintro ⟨below, -⟩
              omega
            · intro single
              omega
          · rw [lastNack_of_not_mem _ _ _ later, List.count_eq_zero.mpr later]
            refine iff_of_true ⟨le_refl _, ?_⟩ (le_refl _)
            intro i found
            exact absurd (List.mem_of_getElem? found) later

theorem exec_settle (maxPollRecords : Nat) (first : Settle) (s : State) (d : Delivery)
    (front : List Delivery) (last : s.delivered = front ++ [d])
    (unsettled : d.ackState = AckState.fresh) (live : d.session = s.session) :
    ∃ t, exec (step maxPollRecords) s (first.events front.length) = some t ∧
      t.batch = s.batch ∧ t.delivered.length = s.delivered.length ∧
      t.position = if first = .nack then d.offset else s.position := by
  have found : s.delivered[front.length]? = some d := by rw [last]; simp
  cases first with
  | leave => exact ⟨s, rfl, rfl, rfl, rfl⟩
  | ack commits =>
      have passed : d.ackState.ack = .ok ⟨true, false⟩ :=
        (AckState.ack_ok_iff _ _).mpr ⟨unsettled, rfl⟩
      refine ⟨_, exec_singleton.trans (settle_of_passed found passed), ?_⟩
      rw [ackFunc]
      split <;> simp
  | nack =>
      have passed : d.ackState.nack = .ok ⟨false, true⟩ :=
        (AckState.nack_ok_iff _ _).mpr ⟨unsettled, rfl⟩
      refine ⟨_, exec_singleton.trans (settle_of_passed found passed), ?_⟩
      rw [nackFunc, if_pos live]
      simp

theorem exec_batch (maxPollRecords : Nat) (pattern : List Settle) (s : State) (head : Nat)
    (batch : s.batch = List.range' head pattern.length) :
    ∃ t, exec (step maxPollRecords) s (batchEvents s.delivered.length pattern) = some t ∧
      t.batch = [] ∧ t.position = lastNack s.position head pattern := by
  induction pattern generalizing s head with
  | nil => exact ⟨s, rfl, batch, rfl⟩
  | cons first rest ih =>
      rw [List.length_cons, List.range'_succ] at batch
      have yielded : step maxPollRecords s .yield = some { s with
          batch := List.range' (head + 1) rest.length
          delivered := s.delivered ++ [⟨head, s.session, AckState.fresh⟩] } := by
        simp only [step, batch]
      obtain ⟨t, settled, kept, grown, position⟩ := exec_settle maxPollRecords first
        { s with
          batch := List.range' (head + 1) rest.length
          delivered := s.delivered ++ [⟨head, s.session, AckState.fresh⟩] }
        ⟨head, s.session, AckState.fresh⟩ s.delivered rfl rfl rfl
      obtain ⟨u, finished, empty, final⟩ := ih t (head + 1) kept
      rw [grown, List.length_append, List.length_singleton] at finished
      refine ⟨u, ?_, empty, ?_⟩
      · apply exec_cons.mpr
        exact ⟨_, yielded, exec_append.mpr ⟨t, settled, finished⟩⟩
      · rw [final, position]
        cases first <;> rfl

/-- After a batch whose records are acked, nacked or left in yield order, the position is at
or below every nacked offset if and only if at most one record was nacked. -/
theorem nacked_refetched_iff (maxPollRecords : Nat) (s : State) (pattern : List Settle)
    (idle : s.batch = []) (fits : pattern.length ≤ maxPollRecords)
    (available : s.position + pattern.length ≤ s.logEnd) :
    ∃ t, exec (step maxPollRecords) s
        (.getmany pattern.length :: batchEvents s.delivered.length pattern) = some t ∧
      t.batch = [] ∧
      ((∀ i, pattern[i]? = some .nack → t.position ≤ s.position + i) ↔
        pattern.count .nack ≤ 1) := by
  have fetched : step maxPollRecords s (.getmany pattern.length) = some { s with
      batch := List.range' s.position pattern.length
      position := s.position + pattern.length } := by
    simp only [step, idle, fits, available, and_self, if_true]
  obtain ⟨t, run, empty, position⟩ := exec_batch maxPollRecords pattern
    { s with
      batch := List.range' s.position pattern.length
      position := s.position + pattern.length } s.position rfl
  refine ⟨t, exec_cons.mpr ⟨_, fetched, run⟩, empty, ?_⟩
  rw [position]
  exact lastNack_lowest_iff _ _ pattern

theorem single_nack_refetched :
    ∃ t, exec (step 10) (initial 3 none 0)
        (.getmany 3 :: batchEvents 0 [.ack true, .nack, .leave]) = some t ∧ t.batch = [] ∧
      ((∀ i, [Settle.ack true, .nack, .leave][i]? = some .nack → t.position ≤ 0 + i) ↔
        [Settle.ack true, .nack, .leave].count .nack ≤ 1) :=
  nacked_refetched_iff 10 (initial 3 none 0) [.ack true, .nack, .leave] rfl (by decide) (by decide)

/-- Two nacks in one batch of two: the consumer stays at the second record, and the
first is not fetched again. -/
theorem two_nacks_skip_first :
    ∃ t, exec (step 10) (initial 2 none 0) (.getmany 2 :: batchEvents 0 [.nack, .nack]) = some t ∧
      t.batch = [] ∧ ¬ t.position ≤ 0 :=
  ⟨_, rfl, rfl, by decide⟩

end Natricine.Kafka
