import Natricine.Kafka.Subscriber

namespace Natricine.Kafka

open PubSub Transition

/-- Every record delivered to the group below the committed offset has been acked. -/
def CommittedAcked (s : State) : Prop :=
  ∀ c ∈ s.committed, ∀ d ∈ s.delivered, d.offset < c → Acked s d.offset

instance (s : State) : Decidable (CommittedAcked s) :=
  inferInstanceAs (Decidable (∀ c ∈ s.committed, _))

/-- An ack that reaches the broker comes after the acks of all records delivered before
it at lower offsets. Every other event is free. -/
def AcksInOrder (s : State) : Event → Prop
  | .ack index commits =>
      ∀ d ∈ s.delivered[index]?, d.ackState = AckState.fresh → d.session = s.session →
        commits = true → ∀ earlier ∈ s.delivered, earlier.offset < d.offset →
          Acked s earlier.offset
  | _ => True

instance (s : State) : (e : Event) → Decidable (AcksInOrder s e)
  | .ack index _ => inferInstanceAs (Decidable (∀ d ∈ s.delivered[index]?, _))
  | .append | .getmany _ | .yield | .nack _ | .restart _ => isTrue trivial

/-- The records between the start of the session and `offset` have been delivered. -/
def DeliveredBelow (s : State) (offset : Nat) : Prop :=
  ∀ o, s.origin ≤ o → o < offset → Delivered s o

/-- Records are yielded without gaps: what is left of the batch starts at the first
record not yet yielded, or the position lies behind it where a nack has set it. -/
structure Contiguous (s : State) : Prop where
  batch : ∃ head, s.batch = List.range' head s.batch.length ∧ s.origin ≤ head ∧
    DeliveredBelow s head ∧
    (s.position = head + s.batch.length ∨ (s.origin ≤ s.position ∧ DeliveredBelow s s.position))
  sessions : ∀ d ∈ s.delivered, d.session ≤ s.session
  delivered : ∀ d ∈ s.delivered, d.session = s.session →
    s.origin ≤ d.offset ∧ DeliveredBelow s d.offset
  committed : ∀ c, s.committed = some c → DeliveredBelow s c

theorem deliveredBelow_succ {s : State} {d : Delivery} (member : d ∈ s.delivered)
    (below : DeliveredBelow s d.offset) : DeliveredBelow s (d.offset + 1) := by
  intro o low high
  rcases Nat.lt_succ_iff_lt_or_eq.mp high with less | rfl
  · exact below o low less
  · exact ⟨d, member, rfl⟩

theorem initial_contiguous (logEnd : Nat) (committed : Option Nat) (reset : Nat) :
    Contiguous (initial logEnd committed reset) := by
  refine ⟨⟨committed.getD reset, rfl, le_refl _, ?_, Or.inl rfl⟩, ?_, ?_, ?_⟩
  · intro o low high
    exact absurd high (Nat.not_lt.mpr low)
  · intro d member
    cases member
  · intro d member
    cases member
  · intro c same o low high
    simp only [initial] at same
    subst same
    exact absurd high (Nat.not_lt.mpr low)

theorem getmany_contiguous {s : State} (inv : Contiguous s) (count : Nat) (idle : s.batch = []) :
    Contiguous { s with
      batch := List.range' s.position count
      position := s.position + count } := by
  obtain ⟨head, -, low, below, position⟩ := inv.batch
  have ready : s.origin ≤ s.position ∧ DeliveredBelow s s.position := by
    rcases position with same | ready
    · rw [idle, List.length_nil, Nat.add_zero] at same
      rw [same]
      exact ⟨low, below⟩
    · exact ready
  refine ⟨⟨s.position, ?_, ready.1, ready.2, Or.inl ?_⟩, inv.sessions, inv.delivered,
    inv.committed⟩
  · simp only [List.length_range']
  · simp only [List.length_range']

theorem yield_contiguous {s : State} (inv : Contiguous s) (offset : Nat) (rest : List Nat)
    (batch : s.batch = offset :: rest) :
    Contiguous { s with
      batch := rest
      delivered := s.delivered ++ [⟨offset, s.session, AckState.fresh⟩] } := by
  obtain ⟨head, range, low, below, position⟩ := inv.batch
  rw [batch] at range position
  obtain ⟨rfl, -, tail⟩ := List.range'_eq_cons_iff.mp range.symm
  have grows (o : Nat) (found : Delivered s o) : Delivered { s with
      batch := rest
      delivered := s.delivered ++ [⟨head, s.session, AckState.fresh⟩] } o := by
    obtain ⟨d, member, same⟩ := found
    exact ⟨d, List.mem_append_left _ member, same⟩
  have next : Delivered { s with
      batch := rest
      delivered := s.delivered ++ [⟨head, s.session, AckState.fresh⟩] } head :=
    ⟨_, List.mem_append_right _ List.mem_cons_self, rfl⟩
  refine ⟨⟨head + 1, tail, Nat.le_succ_of_le low, ?_, ?_⟩, ?_, ?_, ?_⟩
  · intro o origin high
    rcases Nat.lt_succ_iff_lt_or_eq.mp high with less | rfl
    · exact grows o (below o origin less)
    · exact next
  · rcases position with same | ⟨origin, reached⟩
    · left
      simp only [List.length_cons] at same
      simp only [same]
      omega
    · exact Or.inr ⟨origin, fun o low high => grows o (reached o low high)⟩
  · intro d member
    rcases List.mem_append.mp member with member | member
    · exact inv.sessions d member
    · rw [List.mem_singleton.mp member]
  · intro d member current
    rcases List.mem_append.mp member with member | member
    · obtain ⟨origin, reached⟩ := inv.delivered d member current
      exact ⟨origin, fun o low high => grows o (reached o low high)⟩
    · rw [List.mem_singleton.mp member]
      exact ⟨low, fun o origin high => grows o (below o origin high)⟩
  · intro c same o origin high
    exact grows o (inv.committed c same o origin high)

theorem flags_contiguous {s : State} (inv : Contiguous s) {index : Nat} {d : Delivery}
    (found : s.delivered[index]? = some d) (flags : AckState) :
    Contiguous { s with delivered := s.delivered.set index { d with ackState := flags } } := by
  have same (o : Nat) := delivered_settled found flags o
  obtain ⟨head, range, low, below, position⟩ := inv.batch
  refine ⟨⟨head, range, low, ?_, ?_⟩, ?_, ?_, ?_⟩
  · exact fun o origin high => (same o).mpr (below o origin high)
  · exact position.imp_right (fun ready =>
      ⟨ready.1, fun o origin high => (same o).mpr (ready.2 o origin high)⟩)
  · exact (Update.forall_mem_set_iff { d with ackState := flags }
      (P := fun d => d.session ≤ s.session) found Iff.rfl).mpr inv.sessions
  · have kept := (Update.forall_mem_set_iff { d with ackState := flags }
      (P := fun d => d.session = s.session → s.origin ≤ d.offset ∧ DeliveredBelow s d.offset)
      found Iff.rfl).mpr inv.delivered
    intro other member current
    obtain ⟨origin, reached⟩ := kept other member current
    exact ⟨origin, fun o low high => (same o).mpr (reached o low high)⟩
  · exact fun c committed o origin high => (same o).mpr (inv.committed c committed o origin high)

theorem ackFunc_contiguous {s : State} (inv : Contiguous s) {d : Delivery}
    (member : d ∈ s.delivered) (commits : Bool) : Contiguous (ackFunc commits s d) := by
  rw [ackFunc]
  split
  · rename_i live
    obtain ⟨-, reached⟩ := inv.delivered d member live.1
    refine ⟨inv.batch, inv.sessions, inv.delivered, ?_⟩
    rintro c ⟨⟩ o origin high
    exact deliveredBelow_succ member reached o origin high
  · exact inv

theorem nackFunc_contiguous {s : State} (inv : Contiguous s) {d : Delivery}
    (member : d ∈ s.delivered) : Contiguous (nackFunc s d) := by
  rw [nackFunc]
  split
  · rename_i live
    obtain ⟨origin, reached⟩ := inv.delivered d member live
    obtain ⟨head, range, low, below, -⟩ := inv.batch
    exact ⟨⟨head, range, low, below, Or.inr ⟨origin, reached⟩⟩, inv.sessions, inv.delivered,
      inv.committed⟩
  · exact inv

theorem restart_contiguous {s : State} (inv : Contiguous s) (reset : Nat) :
    Contiguous { s with
      position := s.committed.getD reset
      batch := []
      session := s.session + 1
      origin := s.committed.getD reset } := by
  refine ⟨⟨s.committed.getD reset, rfl, le_refl _, ?_, Or.inl rfl⟩, ?_, ?_, ?_⟩
  · intro o low high
    exact absurd high (Nat.not_lt.mpr low)
  · exact fun d member => Nat.le_succ_of_le (inv.sessions d member)
  · intro d member current
    have old := inv.sessions d member
    simp only at current
    omega
  · intro c committed o low high
    simp only at committed low
    rw [committed] at low
    exact absurd high (Nat.not_lt.mpr low)

theorem step_contiguous (maxPollRecords : Nat) (s : State) (e : Event) (t : State)
    (inv : Contiguous s) (taken : step maxPollRecords s e = some t) : Contiguous t := by
  cases e with
  | append =>
      cases taken
      exact ⟨inv.batch, inv.sessions, inv.delivered, inv.committed⟩
  | getmany count =>
      simp only [step] at taken
      split at taken
      · rename_i ready
        cases taken
        exact getmany_contiguous inv count ready.1
      · cases taken
  | yield =>
      simp only [step] at taken
      split at taken
      · cases taken
      · rename_i offset rest batch
        cases taken
        exact yield_contiguous inv offset rest batch
  | ack index commits =>
      obtain ⟨d, found, ⟨text, -, rfl⟩ | ⟨flags, -, rfl⟩⟩ := settle_cases taken
      · exact inv
      · have bound := (List.getElem?_eq_some_iff.mp found).1
        have member := List.mem_set bound { d with ackState := flags }
        exact ackFunc_contiguous (flags_contiguous inv found flags) member commits
  | nack index =>
      obtain ⟨d, found, ⟨text, -, rfl⟩ | ⟨flags, -, rfl⟩⟩ := settle_cases taken
      · exact inv
      · have bound := (List.getElem?_eq_some_iff.mp found).1
        have member := List.mem_set bound { d with ackState := flags }
        have seeks := nackFunc_contiguous (flags_contiguous inv found flags) member
        exact seeks
  | restart reset =>
      cases taken
      exact restart_contiguous inv reset

theorem initial_committedAcked (logEnd : Nat) (committed : Option Nat) (reset : Nat) :
    CommittedAcked (initial logEnd committed reset) := by
  intro c same d member
  cases member

theorem yield_committedAcked {s : State} (inv : Contiguous s) (good : CommittedAcked s)
    (offset : Nat) (rest : List Nat) (batch : s.batch = offset :: rest) :
    CommittedAcked { s with
      batch := rest
      delivered := s.delivered ++ [⟨offset, s.session, AckState.fresh⟩] } := by
  obtain ⟨head, range, low, -, -⟩ := inv.batch
  rw [batch] at range
  obtain ⟨rfl, -, -⟩ := List.range'_eq_cons_iff.mp range.symm
  -- A record yielded below the committed offset is a redelivery: it was acked before.
  have old : ∀ c, s.committed = some c → ∀ d ∈ s.delivered ++ [⟨head, s.session, AckState.fresh⟩],
      d.offset < c → Acked s d.offset := by
    intro c committed d member high
    rcases List.mem_append.mp member with member | member
    · exact good c committed d member high
    · rw [List.mem_singleton.mp member] at high ⊢
      obtain ⟨before, found, same⟩ := inv.committed c committed head low high
      rw [← same] at high ⊢
      exact good c committed before found high
  intro c committed d member high
  obtain ⟨other, found, same, acked⟩ := old c committed d member high
  exact ⟨other, List.mem_append_left _ found, same, acked⟩

theorem ack_committedAcked_iff {s : State} {index : Nat} {d : Delivery}
    (found : s.delivered[index]? = some d) (unsettled : d.ackState = AckState.fresh) :
    CommittedAcked { s with
        committed := some (d.offset + 1)
        delivered := s.delivered.set index { d with ackState := ⟨true, false⟩ } } ↔
      ∀ earlier ∈ s.delivered, earlier.offset < d.offset → Acked s earlier.offset := by
  have acked (o : Nat) := acked_settled found (by rw [unsettled]; rfl) ⟨true, false⟩ o
  constructor
  · intro good earlier member less
    have kept : earlier ∈ s.delivered.set index { d with ackState := ⟨true, false⟩ } := by
      rcases Update.mem_set_of_mem _ found member with inside | rfl
      · exact inside
      · exact absurd less (Nat.lt_irrefl _)
    rcases (acked earlier.offset).mp (good _ rfl earlier kept (Nat.lt_succ_of_lt less))
      with before | ⟨same, -⟩
    · exact before
    · exact absurd less (by rw [same]; exact Nat.lt_irrefl _)
  · rintro ordered c ⟨⟩ other member high
    apply (acked other.offset).mpr
    rcases Nat.lt_succ_iff_lt_or_eq.mp high with less | same
    · left
      rcases List.mem_or_eq_of_mem_set member with member | rfl
      · exact ordered other member less
      · exact absurd less (Nat.lt_irrefl _)
    · exact Or.inr ⟨same.symm, rfl⟩

theorem flags_committedAcked {s : State} (good : CommittedAcked s) {index : Nat} {d : Delivery}
    (found : s.delivered[index]? = some d) (unsettled : d.ackState = AckState.fresh)
    (flags : AckState) :
    CommittedAcked { s with
      delivered := s.delivered.set index { d with ackState := flags } } := by
  intro c committed other member high
  apply (acked_settled found (by rw [unsettled]; rfl) flags other.offset).mpr
  left
  rcases List.mem_or_eq_of_mem_set member with member | rfl
  · exact good c committed other member high
  · exact good c committed d (List.mem_of_getElem? found) high

theorem step_committedAcked_iff (maxPollRecords : Nat) (s : State) (e : Event) (t : State)
    (inv : Contiguous s) (good : CommittedAcked s) (taken : step maxPollRecords s e = some t) :
    AcksInOrder s e ↔ CommittedAcked t := by
  cases e with
  | append =>
      cases taken
      exact iff_of_true trivial good
  | getmany count =>
      simp only [step] at taken
      split at taken
      · cases taken
        exact iff_of_true trivial good
      · cases taken
  | yield =>
      simp only [step] at taken
      split at taken
      · cases taken
      · rename_i offset rest batch
        cases taken
        exact iff_of_true trivial (yield_committedAcked inv good offset rest batch)
  | ack index commits =>
      obtain ⟨d, found, ⟨text, refused, rfl⟩ | ⟨flags, passed, rfl⟩⟩ := settle_cases taken
      · refine iff_of_true ?_ good
        intro other same unsettled
        rw [found] at same
        cases same
        rw [unsettled] at refused
        cases refused
      · obtain ⟨unsettled, rfl⟩ := (AckState.ack_ok_iff _ _).mp passed
        rw [ackFunc]
        split
        · rename_i live
          rw [ack_committedAcked_iff found unsettled]
          constructor
          · intro ordered
            exact ordered d found unsettled live.1 live.2
          · intro ordered other same _ _ _
            rw [found] at same
            cases same
            exact ordered
        · rename_i dead
          refine iff_of_true ?_ (flags_committedAcked good found unsettled _)
          intro other same _ current reaches
          rw [found] at same
          cases same
          exact absurd ⟨current, reaches⟩ dead
  | nack index =>
      obtain ⟨d, found, ⟨text, -, rfl⟩ | ⟨flags, passed, rfl⟩⟩ := settle_cases taken
      · exact iff_of_true trivial good
      · obtain ⟨unsettled, rfl⟩ := (AckState.nack_ok_iff _ _).mp passed
        have kept := flags_committedAcked good found unsettled ⟨false, true⟩
        rw [nackFunc]
        split
        · exact iff_of_true trivial kept
        · exact iff_of_true trivial kept
  | restart reset =>
      cases taken
      exact iff_of_true trivial good

/-- In every run of polls, yields, acks, nacks and restarts: no unacked record lies below the
committed offset at any time if and only if every ack comes after the acks of all
records delivered before it. -/
theorem committed_acked_iff_acks_in_order (maxPollRecords logEnd : Nat) (committed : Option Nat)
    (reset : Nat) (events : List Event) (s : State)
    (run : exec (step maxPollRecords) (initial logEnd committed reset) events = some s) :
    Throughout (step maxPollRecords) CommittedAcked (initial logEnd committed reset) events ↔
      Along (step maxPollRecords) AcksInOrder (initial logEnd committed reset) events := by
  exact throughout_iff_along_within (step_contiguous maxPollRecords)
    (step_committedAcked_iff maxPollRecords) (initial_contiguous logEnd committed reset)
    (initial_committedAcked logEnd committed reset) run

/-- Two records are yielded and only the second is acked: the offset 2 is committed
over the unacked record 0. -/
theorem second_ack_commits_over_first :
    ∃ s, exec (step 10) (initial 2 none 0) [.getmany 2, .yield, .yield, .ack 1 true] = some s ∧
      ¬ CommittedAcked s := by
  exact ⟨_, rfl, by decide⟩

theorem ordered_run_committed_acked :
    Throughout (step 10) CommittedAcked (initial 2 none 0)
      [.getmany 2, .yield, .ack 0 true, .yield, .nack 1, .getmany 1, .yield, .ack 2 true] :=
  (committed_acked_iff_acks_in_order 10 2 none 0 _ _ rfl).mpr (by decide)

end Natricine.Kafka
