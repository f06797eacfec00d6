import Natricine.Sql.Subscriber

namespace Natricine.Sql

open PubSub Transition

variable {κ : Type}

def Stored (table : Table κ) (id : Nat) : Prop := ∃ row ∈ table, row.id = id

/-- A row with this id has `acked_at` set. -/
def StoredAcked (table : Table κ) (id : Nat) : Prop :=
  ∃ row ∈ table, row.id = id ∧ row.ackedAt ≠ none

def DeliveryAcked (deliveries : List Delivery) (id : Nat) : Prop :=
  ∃ d ∈ deliveries, d.rowId = id ∧ d.ackState.acked = true

/-- Fetched and delivered rows are stored, and the table knows of exactly the acks that were
made. -/
structure AcksRecorded (s : State κ) : Prop where
  fetched : ∀ worker, ∀ row ∈ s.batches worker, Stored s.table row.id
  delivered : ∀ d ∈ s.deliveries, Stored s.table d.rowId
  recorded : ∀ id, StoredAcked s.table id ↔ DeliveryAcked s.deliveries id

theorem initial_acksRecorded (now : Time) : AcksRecorded (initial κ now) := by
  refine ⟨?_, ?_, ?_⟩
  · intro worker row member
    cases member
  · intro d member
    cases member
  · intro id
    constructor
    · intro stored
      rcases stored with ⟨row, member, -⟩
      cases member
    · intro acked
      rcases acked with ⟨d, member, -⟩
      cases member

section Rows

variable {table : Table κ} {id : Nat} {update : Row κ → Row κ}

theorem stored_updateRow (sameId : ∀ row, (update row).id = row.id) (other : Nat) :
    Stored (updateRow table id update) other ↔ Stored table other := by
  apply exists_mem_updateRow_iff
  intro row
  rw [sameId]

theorem storedAcked_updateRow (sameId : ∀ row, (update row).id = row.id)
    (sameAck : ∀ row, (update row).ackedAt = row.ackedAt) (other : Nat) :
    StoredAcked (updateRow table id update) other ↔ StoredAcked table other := by
  apply exists_mem_updateRow_iff
  intro row
  rw [sameId, sameAck]

theorem storedAcked_ackMessage (stored : Stored table id) (now : Time) (other : Nat) :
    StoredAcked (ackMessage table id now) other ↔ StoredAcked table other ∨ other = id := by
  constructor
  · intro after
    rcases after with ⟨row, member, same, acked⟩
    rcases mem_updateRow_cases member with ⟨old, -, named, rfl⟩ | ⟨inside, -⟩
    · exact Or.inr (same.symm.trans named)
    · exact Or.inl ⟨row, inside, same, acked⟩
  · intro before
    rcases before with ⟨row, member, same, acked⟩ | here
    · refine ⟨_, (mem_updateRow _ _ _ _).mpr ⟨row, member, rfl⟩, ?_⟩
      split
      · exact ⟨same, nofun⟩
      · exact ⟨same, acked⟩
    · rcases stored with ⟨row, member, same⟩
      refine ⟨_, (mem_updateRow _ _ _ _).mpr ⟨row, member, rfl⟩, ?_⟩
      rw [if_pos same]
      exact ⟨same.trans here.symm, nofun⟩

end Rows

section Settled

variable {deliveries : List Delivery} {index : Nat} {d : Delivery}

theorem deliveryAcked_settled (found : deliveries[index]? = some d)
    (unacked : d.ackState.acked = false) (flags : AckState) (id : Nat) :
    DeliveryAcked (deliveries.set index { d with ackState := flags }) id ↔
      DeliveryAcked deliveries id ∨ (d.rowId = id ∧ flags.acked = true) := by
  apply Update.exists_mem_set_or_iff _ found
  rintro ⟨-, acked⟩
  rw [unacked] at acked
  cases acked

end Settled

theorem insert_acksRecorded {s : State κ} (inv : AcksRecorded s) (content : κ) (group : Text.Str) :
    AcksRecorded { s with
      table := insertRow s.table s.nextId content group s.now
      nextId := s.nextId + 1 } := by
  have grows : ∀ id, Stored s.table id →
      Stored (insertRow s.table s.nextId content group s.now) id := by
    intro id stored
    rcases stored with ⟨row, member, same⟩
    exact ⟨row, List.mem_append_left _ member, same⟩
  refine ⟨?_, ?_, ?_⟩
  · intro worker row member
    exact grows row.id (inv.fetched worker row member)
  · intro d member
    exact grows d.rowId (inv.delivered d member)
  · intro id
    rw [← inv.recorded id]
    constructor
    · intro stored
      rcases stored with ⟨row, member, same, acked⟩
      rcases List.mem_append.mp member with old | new
      · exact ⟨row, old, same, acked⟩
      · rw [List.mem_singleton.mp new] at acked
        exact absurd rfl acked
    · intro stored
      rcases stored with ⟨row, member, same, acked⟩
      exact ⟨row, List.mem_append_left _ member, same, acked⟩

theorem select_acksRecorded {s : State κ} (inv : AcksRecorded s) (dialect : Dialect) (worker : Nat)
    (group : Text.Str) (batchSize : Nat) :
    AcksRecorded { s with
      batches := Function.update s.batches worker
        (selectPending dialect s.table group s.now batchSize) } := by
  refine ⟨?_, inv.delivered, inv.recorded⟩
  intro other row member
  by_cases same : other = worker
  · subst same
    simp only [Function.update_self] at member
    have sorted := List.mem_of_mem_take member
    have filtered := (List.mem_insertionSort _).mp sorted
    exact ⟨row, List.mem_of_mem_filter filtered, rfl⟩
  · simp only [Function.update_of_ne same] at member
    exact inv.fetched other row member

theorem claim_acksRecorded {s : State κ} (inv : AcksRecorded s) {worker : Nat} {row : Row κ}
    {rest : List (Row κ)} (batch : s.batches worker = row :: rest) (expiry : Time) :
    AcksRecorded { s with
      table := claimMessage s.table row.id s.now expiry
      batches := Function.update s.batches worker rest
      deliveries := s.deliveries ++ [⟨worker, row.id, s.now, expiry, AckState.fresh⟩] } := by
  have fetched := inv.fetched worker
  rw [batch] at fetched
  have kept : ∀ id, Stored (claimMessage s.table row.id s.now expiry) id ↔ Stored s.table id :=
    stored_updateRow (fun _ => rfl)
  refine ⟨?_, ?_, ?_⟩
  · intro other next member
    rw [kept]
    by_cases same : other = worker
    · subst same
      simp only [Function.update_self] at member
      exact fetched next (List.mem_cons_of_mem row member)
    · simp only [Function.update_of_ne same] at member
      exact inv.fetched other next member
  · intro d member
    rw [kept]
    rcases List.mem_append.mp member with old | new
    · exact inv.delivered d old
    · rw [List.mem_singleton.mp new]
      exact fetched row List.mem_cons_self
  · intro id
    have rows : StoredAcked (claimMessage s.table row.id s.now expiry) id ↔
        StoredAcked s.table id := by
      apply storedAcked_updateRow
      · exact fun _ => rfl
      · exact fun _ => rfl
    rw [rows, inv.recorded id]
    constructor
    · intro acked
      rcases acked with ⟨d, member, same⟩
      exact ⟨d, List.mem_append_left _ member, same⟩
    · intro acked
      rcases acked with ⟨d, member, same, passed⟩
      rcases List.mem_append.mp member with old | new
      · exact ⟨d, old, same, passed⟩
      · rw [List.mem_singleton.mp new] at passed
        cases passed

theorem AcksRecorded.settled {s : State κ} (inv : AcksRecorded s) {index : Nat} {d : Delivery}
    (found : s.deliveries[index]? = some d) {flags : AckState} {table : Table κ}
    (kept : ∀ id, Stored table id ↔ Stored s.table id)
    (recorded : ∀ id, StoredAcked table id ↔
      DeliveryAcked (s.deliveries.set index { d with ackState := flags }) id) :
    AcksRecorded { s with
      deliveries := s.deliveries.set index { d with ackState := flags }
      table := table } := by
  refine ⟨?_, ?_, recorded⟩
  · intro worker row member
    rw [kept]
    exact inv.fetched worker row member
  · intro other member
    rw [kept]
    rcases List.mem_or_eq_of_mem_set member with old | new
    · exact inv.delivered other old
    · rw [new]
      exact inv.delivered d (List.mem_of_getElem? found)

theorem ack_acksRecorded {s : State κ} (inv : AcksRecorded s) {index : Nat} {d : Delivery}
    (found : s.deliveries[index]? = some d) (unsettled : d.ackState = AckState.fresh) :
    AcksRecorded { s with
      deliveries := s.deliveries.set index { d with ackState := ⟨true, false⟩ }
      table := ackMessage s.table d.rowId s.now } := by
  apply inv.settled found
  · exact stored_updateRow (fun _ => rfl)
  · intro id
    have present := inv.delivered d (List.mem_of_getElem? found)
    have flags := deliveryAcked_settled found (by rw [unsettled]; rfl) ⟨true, false⟩ id
    rw [storedAcked_ackMessage present, inv.recorded id]
    apply Iff.trans _ flags.symm
    apply or_congr_right
    constructor
    · intro same
      exact ⟨same.symm, rfl⟩
    · intro both
      exact both.1.symm

theorem nack_acksRecorded {s : State κ} (inv : AcksRecorded s) {index : Nat} {d : Delivery}
    (found : s.deliveries[index]? = some d) (unsettled : d.ackState = AckState.fresh) :
    AcksRecorded { s with
      deliveries := s.deliveries.set index { d with ackState := ⟨false, true⟩ }
      table := nackMessage s.table d.rowId s.now } := by
  apply inv.settled found
  · exact stored_updateRow (fun _ => rfl)
  · intro id
    have rows : StoredAcked (nackMessage s.table d.rowId s.now) id ↔ StoredAcked s.table id := by
      apply storedAcked_updateRow
      · exact fun _ => rfl
      · exact fun _ => rfl
    have flags := deliveryAcked_settled found (by rw [unsettled]; rfl) ⟨false, true⟩ id
    rw [rows, inv.recorded id]
    apply Iff.trans _ flags.symm
    simp

theorem step_acksRecorded (dialect : Dialect) (config : Nat → SQLConfig) (s : State κ)
    (e : Event κ) (t : State κ) (inv : AcksRecorded s)
    (taken : step dialect config s e = some t) : AcksRecorded t := by
  cases e with
  | tick elapsed =>
      cases taken
      exact ⟨inv.fetched, inv.delivered, inv.recorded⟩
  | insert content group =>
      cases taken
      exact insert_acksRecorded inv content group
  | select worker =>
      simp only [step] at taken
      split at taken
      · cases taken
        exact select_acksRecorded inv dialect worker _ _
      · cases taken
  | claim worker =>
      simp only [step] at taken
      split at taken
      · cases taken
      · rename_i row rest batch
        cases taken
        exact claim_acksRecorded inv batch _
  | ack index =>
      rcases settle_cases taken with ⟨d, found, ⟨text, -, rfl⟩ | ⟨flags, passed, rfl⟩⟩
      · exact inv
      · rcases (AckState.ack_ok_iff _ _).mp passed with ⟨unsettled, rfl⟩
        exact ack_acksRecorded inv found unsettled
  | nack index =>
      rcases settle_cases taken with ⟨d, found, ⟨text, -, rfl⟩ | ⟨flags, passed, rfl⟩⟩
      · exact inv
      · rcases (AckState.nack_ok_iff _ _).mp passed with ⟨unsettled, rfl⟩
        exact nack_acksRecorded inv found unsettled
  | close worker =>
      cases taken
      exact ⟨inv.fetched, inv.delivered, inv.recorded⟩

/-- The claim of the delivery `index` has run out, and another iterator has claimed the row
since. -/
def Superseded (s : State κ) (index : Nat) (d : Delivery) : Prop :=
  d.expiry ≤ s.now ∧
    ∃ later ∈ s.deliveries.drop (index + 1), later.rowId = d.rowId ∧ later.worker ≠ d.worker

/-- `claimed_at` and `next_delivery_at` of all rows. -/
def schedule (table : Table κ) : List (Nat × Option Time × Time) :=
  table.map (fun row => (row.id, row.claimedAt, row.nextDeliveryAt))

/-- The nack of a superseded delivery leaves the schedule of the rows as it is. -/
def NacksFenced (config : Nat → SQLConfig) (s : State κ) : Event κ → Prop
  | .nack index => ∀ d ∈ s.deliveries[index]?, Superseded s index d →
      ∀ t ∈ step .postgres config s (.nack index), schedule t.table = schedule s.table
  | _ => True

/-- No superseded delivery is nacked, unless its row has just been released: it is unclaimed and
due since this instant. -/
def NacksCurrent (s : State κ) : Event κ → Prop
  | .nack index => ∀ d ∈ s.deliveries[index]?, d.ackState = AckState.fresh → Superseded s index d →
      ∀ row ∈ s.table, row.id = d.rowId → row.claimedAt = none ∧ row.nextDeliveryAt = s.now
  | _ => True

instance (s : State κ) (index : Nat) (d : Delivery) : Decidable (Superseded s index d) :=
  inferInstanceAs (Decidable (_ ∧ ∃ later ∈ s.deliveries.drop (index + 1), _))

instance (config : Nat → SQLConfig) (s : State κ) :
    (e : Event κ) → Decidable (NacksFenced config s e)
  | .nack index => inferInstanceAs (Decidable (∀ d ∈ s.deliveries[index]?, _ →
      ∀ t ∈ step .postgres config s (.nack index), schedule t.table = schedule s.table))
  | .tick _ | .insert _ _ | .select _ | .claim _ | .ack _ | .close _ => isTrue trivial

theorem schedule_nackMessage_iff (table : Table κ) (id : Nat) (now : Time) :
    schedule (nackMessage table id now) = schedule table ↔
      ∀ row ∈ table, row.id = id → row.claimedAt = none ∧ row.nextDeliveryAt = now := by
  rw [schedule, schedule, nackMessage, updateRow, List.map_map, List.map_inj_left]
  apply forall₂_congr
  intro row member
  by_cases named : row.id = id
  · simp [named, eq_comm]
  · simp [named]

theorem nacksFenced_iff (config : Nat → SQLConfig) (s : State κ) (e : Event κ) :
    NacksFenced config s e ↔ NacksCurrent s e := by
  cases e with
  | nack index =>
      apply forall₂_congr
      intro d found
      by_cases unsettled : d.ackState = AckState.fresh
      · have passed : d.ackState.nack = .ok ⟨false, true⟩ :=
          (AckState.nack_ok_iff _ _).mpr ⟨unsettled, rfl⟩
        have taken : step .postgres config s (.nack index) = some { s with
            deliveries := s.deliveries.set index { d with ackState := ⟨false, true⟩ }
            table := nackMessage s.table d.rowId s.now } := by
          simp only [step, settle, Option.mem_def.mp found, passed]
        simp only [taken, Option.mem_some_iff, forall_eq', schedule_nackMessage_iff, unsettled,
          true_implies]
      · apply iff_of_true
        · intro _ t taken
          rcases settle_cases taken with ⟨same, here, ⟨text, -, rfl⟩ | ⟨flags, passed, -⟩⟩
          · rfl
          · rw [Option.mem_def.mp found] at here
            cases here
            exact absurd ((AckState.nack_ok_iff _ _).mp passed).1 unsettled
        · intro fresh
          exact absurd fresh unsettled
  | tick _ | insert _ _ | select _ | claim _ | ack _ | close _ => exact Iff.rfl

/-- In every run of PostgreSQL iterators: the nacks of superseded deliveries leave the rows alone
if and only if there are none, but for rows released at the same instant. -/
theorem nacks_fenced_iff_current (config : Nat → SQLConfig) (now : Time)
    (events : List (Event κ)) :
    Along (step .postgres config) (NacksFenced config) (initial κ now) events ↔
      Along (step .postgres config) NacksCurrent (initial κ now) events := by
  apply along_iff_of_invariant (I := fun _ => True)
  · intro s e t _ _
    trivial
  · intro s e _
    exact nacksFenced_iff config s e
  · trivial

/-- The first worker's claim runs out and the second one claims the row; the late nack of the
first makes it due, and the third one claims it as well. -/
theorem late_nack_releases_held_row :
    ¬ Along (step .postgres (fun _ => ⟨[], 30000000, 10⟩))
      (NacksFenced (fun _ => ⟨[], 30000000, 10⟩))
      (initial Unit 0)
      [.insert () [], .select 0, .claim 0, .tick 30000000, .select 1, .claim 1, .nack 0, .select 2,
        .claim 2] := by
  decide

end Natricine.Sql
