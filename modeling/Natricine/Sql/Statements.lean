import Natricine.Sql.Subscriber

namespace Natricine.Sql

open PubSub Text Transition

variable {κ : Type}

structure Database (κ : Type) where
  now : Time
  nextId : Nat
  table : Table κ

/-- A statement with its parameters, or the passing of time. -/
inductive Statement (κ : Type) where
  | tick (elapsed : Nat)
  | insert (content : κ) (group : Str)
  | selectPending (group : Str) (batchSize : Nat)
  | claimMessage (id ackDeadline : Nat)
  | ackMessage (id : Nat)
  | nackMessage (id : Nat)

namespace Database

def empty (κ : Type) (now : Time) : Database κ := ⟨now, 1, []⟩

/-- What a statement leaves in the table. `select_pending` only reads. -/
def execute (db : Database κ) : Statement κ → Database κ
  | .tick elapsed => { db with now := db.now + elapsed }
  | .insert content group =>
      { db with
        table := insertRow db.table db.nextId content group db.now
        nextId := db.nextId + 1 }
  | .selectPending _ _ => db
  | .claimMessage id ackDeadline =>
      { db with table := claimMessage db.table id db.now (db.now + ackDeadline) }
  | .ackMessage id => { db with table := ackMessage db.table id db.now }
  | .nackMessage id => { db with table := nackMessage db.table id db.now }

def step (db : Database κ) (statement : Statement κ) : Option (Database κ) :=
  some (db.execute statement)

end Database

/-- Every row that is not acked and is due meets the `WHERE` of `select_pending` for its group. -/
def DueIsPending (dialect : Dialect) (db : Database κ) : Prop :=
  ∀ row ∈ db.table, row.ackedAt = none → row.nextDeliveryAt ≤ db.now →
    Pending dialect row.consumerGroup db.now row

/-- On SQLite, no claim of a row that is not acked runs out: time does not pass its end, and it
does not end at once. -/
def NoClaimRunsOut (dialect : Dialect) (db : Database κ) : Statement κ → Prop
  | .tick elapsed => dialect = .sqlite → ∀ row ∈ db.table, row.claimedAt ≠ none →
      row.ackedAt = none → db.now + elapsed < row.nextDeliveryAt
  | .claimMessage id ackDeadline => dialect = .sqlite → ∀ row ∈ db.table, row.id = id →
      row.ackedAt = none → 0 < ackDeadline
  | _ => True

instance (dialect : Dialect) (db : Database κ) : Decidable (DueIsPending dialect db) :=
  inferInstanceAs (Decidable (∀ row ∈ db.table, _))

instance (dialect : Dialect) (db : Database κ) :
    (statement : Statement κ) → Decidable (NoClaimRunsOut dialect db statement)
  | .tick _ | .claimMessage _ _ => inferInstanceAs (Decidable (_ → ∀ row ∈ db.table, _))
  | .insert _ _ | .selectPending _ _ | .ackMessage _ | .nackMessage _ => isTrue trivial

theorem dueIsPending_iff (dialect : Dialect) (db : Database κ) :
    DueIsPending dialect db ↔ ∀ row ∈ db.table, row.ackedAt = none → row.nextDeliveryAt ≤ db.now →
      dialect = .sqlite → row.claimedAt = none := by
  constructor
  · intro pending row member unacked due
    exact (pending row member unacked due).2.2.2
  · intro unclaimed row member unacked due
    exact ⟨rfl, due, unacked, unclaimed row member unacked due⟩

theorem empty_dueIsPending (dialect : Dialect) (now : Time) :
    DueIsPending dialect (Database.empty κ now) := by
  intro row member
  cases member

section Step

variable {dialect : Dialect} {db : Database κ}

theorem insert_dueIsPending (pending : DueIsPending dialect db) (content : κ) (group : Str) :
    DueIsPending dialect (db.execute (.insert content group)) := by
  intro row member unacked due
  rcases List.mem_append.mp member with old | new
  · exact pending row old unacked due
  · rw [List.mem_singleton.mp new]
    exact ⟨rfl, le_refl _, rfl, fun _ => rfl⟩

theorem ack_dueIsPending (pending : DueIsPending dialect db) (id : Nat) :
    DueIsPending dialect (db.execute (.ackMessage id)) := by
  intro row member unacked due
  rcases mem_updateRow_cases member with ⟨old, -, -, rfl⟩ | ⟨inside, -⟩
  · cases unacked
  · exact pending row inside unacked due

theorem nack_dueIsPending (pending : DueIsPending dialect db) (id : Nat) :
    DueIsPending dialect (db.execute (.nackMessage id)) := by
  intro row member unacked due
  rcases mem_updateRow_cases member with ⟨old, -, -, rfl⟩ | ⟨inside, -⟩
  · exact ⟨rfl, le_refl _, unacked, fun _ => rfl⟩
  · exact pending row inside unacked due

theorem tick_dueIsPending_iff (elapsed : Nat) :
    DueIsPending dialect (db.execute (.tick elapsed)) ↔
      NoClaimRunsOut dialect db (.tick elapsed) := by
  rw [dueIsPending_iff]
  constructor
  · intro later sqlite row member claimed unacked
    apply Int.not_le.mp
    intro due
    exact claimed (later row member unacked due sqlite)
  · intro kept row member unacked due sqlite
    by_contra claimed
    exact absurd due (Int.not_le.mpr (kept sqlite row member claimed unacked))

theorem claim_dueIsPending_iff (pending : DueIsPending dialect db) (id ackDeadline : Nat) :
    DueIsPending dialect (db.execute (.claimMessage id ackDeadline)) ↔
      NoClaimRunsOut dialect db (.claimMessage id ackDeadline) := by
  rw [dueIsPending_iff]
  constructor
  · intro later sqlite row member named unacked
    by_contra instant
    have claimed := later _ ((mem_updateRow _ _ _ _).mpr ⟨row, member, if_pos named⟩) unacked
    have due : db.now + (ackDeadline : Int) ≤ db.now := by
      rw [Nat.eq_zero_of_not_pos instant]
      simp
    cases claimed due sqlite
  · intro kept row member unacked due sqlite
    rcases mem_updateRow_cases member with ⟨old, inside, named, rfl⟩ | ⟨inside, -⟩
    · have lasting := kept sqlite old inside named unacked
      have later : db.now < db.now + (ackDeadline : Int) :=
        Int.lt_add_of_pos_right _ (Int.natCast_pos.mpr lasting)
      exact absurd due (Int.not_le.mpr later)
    · exact (pending row inside unacked due).2.2.2 sqlite

/-- From a table in which due rows are pending, a statement leaves them so exactly when it lets
no claim run out. -/
theorem execute_dueIsPending_iff (pending : DueIsPending dialect db) (statement : Statement κ) :
    NoClaimRunsOut dialect db statement ↔ DueIsPending dialect (db.execute statement) := by
  cases statement with
  | tick elapsed => exact (tick_dueIsPending_iff elapsed).symm
  | insert content group => exact iff_of_true trivial (insert_dueIsPending pending content group)
  | selectPending group batchSize => exact iff_of_true trivial pending
  | claimMessage id ackDeadline => exact (claim_dueIsPending_iff pending id ackDeadline).symm
  | ackMessage id => exact iff_of_true trivial (ack_dueIsPending pending id)
  | nackMessage id => exact iff_of_true trivial (nack_dueIsPending pending id)

end Step

def State.database (s : State κ) : Database κ := ⟨s.now, s.nextId, s.table⟩

theorem step_executes {dialect : Dialect} {config : Nat → SQLConfig}
    (positive : ∀ worker, 0 ≤ (config worker).ackDeadline) {s t : State κ} {e : Event κ}
    (taken : step dialect config s e = some t) :
    t.database = s.database ∨ ∃ statement, t.database = s.database.execute statement := by
  cases e with
  | tick elapsed =>
      cases taken
      exact Or.inr ⟨.tick elapsed, rfl⟩
  | insert content group =>
      cases taken
      exact Or.inr ⟨.insert content group, rfl⟩
  | select worker =>
      simp only [step] at taken
      split at taken
      · cases taken
        exact Or.inr ⟨.selectPending (config worker).consumerGroup (config worker).batchSize, rfl⟩
      · cases taken
  | claim worker =>
      simp only [step] at taken
      split at taken
      · cases taken
      · rename_i row rest batch
        cases taken
        have deadline := Int.toNat_of_nonneg (positive worker)
        refine Or.inr ⟨.claimMessage row.id (config worker).ackDeadline.toNat, ?_⟩
        simp only [Database.execute, State.database, deadline]
  | ack index =>
      rcases settle_cases taken with ⟨d, found, ⟨text, -, rfl⟩ | ⟨flags, -, rfl⟩⟩
      · exact Or.inl rfl
      · exact Or.inr ⟨.ackMessage d.rowId, rfl⟩
  | nack index =>
      rcases settle_cases taken with ⟨d, found, ⟨text, -, rfl⟩ | ⟨flags, -, rfl⟩⟩
      · exact Or.inl rfl
      · exact Or.inr ⟨.nackMessage d.rowId, rfl⟩
  | close worker =>
      cases taken
      exact Or.inl rfl

theorem exec_executes {dialect : Dialect} {config : Nat → SQLConfig}
    (positive : ∀ worker, 0 ≤ (config worker).ackDeadline) {s t : State κ} {events : List (Event κ)}
    (run : exec (step dialect config) s events = some t) :
    ∃ statements, exec Database.step s.database statements = some t.database := by
  induction events generalizing s with
  | nil =>
      cases run
      exact ⟨[], rfl⟩
  | cons e events ih =>
      rcases exec_cons.mp run with ⟨next, first, rest⟩
      rcases ih rest with ⟨statements, later⟩
      rcases step_executes positive first with same | ⟨statement, same⟩
      · rw [same] at later
        exact ⟨statements, later⟩
      · refine ⟨statement :: statements, exec_cons.mpr ⟨_, rfl, ?_⟩⟩
        rw [← same]
        exact later

/-- On PostgreSQL nothing but the deadline keeps a row from being selected again, whatever the
iterators do. -/
theorem postgres_iterators_due_is_pending {config : Nat → SQLConfig} {now : Time}
    (positive : ∀ worker, 0 ≤ (config worker).ackDeadline) {s : State κ} {events : List (Event κ)}
    (run : exec (step .postgres config) (initial κ now) events = some s) :
    DueIsPending .postgres s.database := by
  rcases exec_executes positive run with ⟨statements, executed⟩
  apply exec_preserves _ (empty_dueIsPending .postgres now) executed
  intro db statement next pending taken
  cases taken
  apply (execute_dueIsPending_iff pending statement).mp
  cases statement with
  | tick elapsed => exact nofun
  | claimMessage id ackDeadline => exact nofun
  | insert content group => trivial
  | selectPending group batchSize => trivial
  | ackMessage id => trivial
  | nackMessage id => trivial

/-- In every run of statements and clock advances: all rows that are due and not acked are pending
at all times if and only if, on SQLite, no claim of a row that is not acked runs out. On
PostgreSQL that is always so. -/
theorem due_is_pending_iff_no_claim_runs_out (dialect : Dialect) (now : Time)
    (statements : List (Statement κ)) :
    Throughout Database.step (DueIsPending dialect) (Database.empty κ now) statements ↔
      Along Database.step (NoClaimRunsOut dialect) (Database.empty κ now) statements := by
  have total : ∀ (db : Database κ) statement, ∃ later, db.step statement = some later :=
    fun db statement => ⟨_, rfl⟩
  rcases exec_of_total total (Database.empty κ now) statements with ⟨last, run⟩
  apply throughout_iff_along _ (empty_dueIsPending dialect now) run
  intro db statement next pending taken
  cases taken
  exact execute_dueIsPending_iff pending statement

/-- A worker claims the only row of a SQLite table and dies: the row falls due and is not
pending. -/
theorem sqlite_claim_never_runs_out :
    ¬ Throughout Database.step (DueIsPending .sqlite) (Database.empty Unit 0)
      [.insert () [], .selectPending [] 10, .claimMessage 1 30, .tick 30] := by
  decide

end Natricine.Sql
