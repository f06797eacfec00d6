import Natricine.Sql.Subscriber

/-! The iterators of `Sql.Subscriber` await by await: other tasks run between the `UPDATE` of a
claim and the yield of its message, and while the callback of an ack or nack is under way. -/

namespace Natricine.Sql.Interleaved

open PubSub Text Transition

/-- How far `make_ack` or `make_nack` of a message has come: it is called, its statement takes
effect, and it returns. -/
inductive Callback where
  | uncalled
  | called
  | executed
  | returned
  deriving DecidableEq, Repr

structure Settling extends Delivery where
  callback : Callback
  deriving DecidableEq, Repr

/-- `claimed` holds, for each iterator, the delivery whose claim has taken effect and that it has
yet to yield. -/
structure State (κ : Type) where
  now : Time
  table : Table κ
  nextId : Nat
  closed : Nat → Bool
  batches : Nat → List (Row κ)
  claimed : Nat → Option Delivery
  deliveries : List Settling

variable {κ : Type}

def initial (κ : Type) (now : Time) : State κ :=
  { now, table := [], nextId := 1, closed := fun _ => false, batches := fun _ => [],
    claimed := fun _ => none, deliveries := [] }

inductive Event (κ : Type) where
  | tick (elapsed : Nat)
  | insert (content : κ) (group : Str)
  | select (worker : Nat)
  | claim (worker : Nat)
  | yield (worker : Nat)
  | ack (index : Nat)
  | nack (index : Nat)
  | execute (index : Nat)
  | finish (index : Nat)
  | leave (worker : Nat)
  | close (worker : Nat)

def call (s : State κ) (index : Nat) (guard : AckState → Except String AckState) :
    Option (State κ) :=
  match s.deliveries[index]? with
  | none => none
  | some d =>
      match guard d.ackState with
      | .error _ => some s
      | .ok flags => some { s with
          deliveries := s.deliveries.set index
            { d with ackState := flags, callback := .called } }

def statement (d : Settling) (table : Table κ) (now : Time) : Table κ :=
  if d.ackState.acked then ackMessage table d.rowId now else nackMessage table d.rowId now

/-- `_subscribe_iter`, whose task may be cancelled or its generator closed at any await. -/
def step (dialect : Dialect) (config : Nat → SQLConfig) (s : State κ) :
    Event κ → Option (State κ)
  | .tick elapsed => some { s with now := s.now + elapsed }
  | .insert content group =>
      some { s with
        table := insertRow s.table s.nextId content group s.now
        nextId := s.nextId + 1 }
  | .select worker =>
      if s.batches worker = [] ∧ s.claimed worker = none ∧ s.closed worker = false then
        some { s with
          batches := Function.update s.batches worker
            (selectPending dialect s.table (config worker).consumerGroup s.now
              (config worker).batchSize) }
      else none
  | .claim worker =>
      match s.batches worker, s.claimed worker with
      | row :: rest, none =>
          let expiry := s.now + (config worker).ackDeadline
          some { s with
            table := claimMessage s.table row.id s.now expiry
            batches := Function.update s.batches worker rest
            claimed := Function.update s.claimed worker
              (some ⟨worker, row.id, s.now, expiry, AckState.fresh⟩) }
      | _, _ => none
  | .yield worker =>
      match s.claimed worker with
      | none => none
      | some d =>
          some { s with
            claimed := Function.update s.claimed worker none
            deliveries := s.deliveries ++ [⟨d, .uncalled⟩] }
  | .ack index => call s index AckState.ack
  | .nack index => call s index AckState.nack
  | .execute index =>
      match s.deliveries[index]? with
      | none => none
      | some d =>
          if d.callback = .called then
            some { s with
              table := statement d s.table s.now
              deliveries := s.deliveries.set index { d with callback := .executed } }
          else none
  | .finish index =>
      match s.deliveries[index]? with
      | none => none
      | some d =>
          if d.callback = .executed then
            some { s with
              deliveries := s.deliveries.set index { d with callback := .returned } }
          else none
  | .leave worker =>
      some { s with
        batches := Function.update s.batches worker []
        claimed := Function.update s.claimed worker none }
  | .close worker => some { s with closed := Function.update s.closed worker true }

def AckCompleted (s : State κ) (id : Nat) : Prop :=
  ∃ d ∈ s.deliveries, d.rowId = id ∧ d.ackState.acked = true ∧ d.callback = .returned

def Fetched (s : State κ) (id : Nat) : Prop :=
  ∃ worker, (∃ row ∈ s.batches worker, row.id = id) ∨ ∃ d ∈ s.claimed worker, d.rowId = id

/-- No row is yielded once an ack callback of one of its deliveries has completed. -/
def YieldsUnacked (s : State κ) : Event κ → Prop
  | .yield worker => ∀ d ∈ s.claimed worker, ¬AckCompleted s d.rowId
  | _ => True

/-- No ack callback completes while an iterator is yet to yield a row that it fetched before. -/
def AcksUnfetched (s : State κ) : Event κ → Prop
  | .finish index => ∀ d ∈ s.deliveries[index]?, d.ackState.acked = true → ¬Fetched s d.rowId
  | _ => True

instance (s : State κ) (id : Nat) : Decidable (AckCompleted s id) :=
  inferInstanceAs (Decidable (∃ d ∈ s.deliveries, _))

instance (s : State κ) : (e : Event κ) → Decidable (YieldsUnacked s e)
  | .yield worker => inferInstanceAs (Decidable (∀ d ∈ s.claimed worker, _))
  | .tick _ | .insert _ _ | .select _ | .claim _ | .ack _ | .nack _ | .execute _ | .finish _
  | .leave _ | .close _ => isTrue trivial

section Step

variable {dialect : Dialect} {config : Nat → SQLConfig} {s t : State κ} {e : Event κ}

inductive Taken (dialect : Dialect) (config : Nat → SQLConfig) (s : State κ) :
    Event κ → State κ → Prop where
  | tick {elapsed : Nat} : Taken dialect config s (.tick elapsed) { s with now := s.now + elapsed }
  | insert {content : κ} {group : Str} : Taken dialect config s (.insert content group) { s with
      table := insertRow s.table s.nextId content group s.now
      nextId := s.nextId + 1 }
  | select {worker : Nat} : Taken dialect config s (.select worker) { s with
      batches := Function.update s.batches worker
        (selectPending dialect s.table (config worker).consumerGroup s.now
          (config worker).batchSize) }
  | claim {worker : Nat} {row : Row κ} {rest : List (Row κ)} {expiry : Time}
      (batch : s.batches worker = row :: rest) : Taken dialect config s (.claim worker) { s with
        table := claimMessage s.table row.id s.now expiry
        batches := Function.update s.batches worker rest
        claimed := Function.update s.claimed worker
          (some ⟨worker, row.id, s.now, expiry, AckState.fresh⟩) }
  | yield {worker : Nat} {d : Delivery} (held : s.claimed worker = some d) :
      Taken dialect config s (.yield worker) { s with
        claimed := Function.update s.claimed worker none
        deliveries := s.deliveries ++ [⟨d, .uncalled⟩] }
  | refused {e : Event κ} : Taken dialect config s e s
  | call {e : Event κ} {index : Nat} {d : Settling} {flags : AckState}
      (found : s.deliveries[index]? = some d) : Taken dialect config s e { s with
        deliveries := s.deliveries.set index { d with ackState := flags, callback := .called } }
  | execute {index : Nat} {d : Settling} (found : s.deliveries[index]? = some d) :
      Taken dialect config s (.execute index) { s with
        table := statement d s.table s.now
        deliveries := s.deliveries.set index { d with callback := .executed } }
  | finish {index : Nat} {d : Settling} (found : s.deliveries[index]? = some d)
      (executed : d.callback = .executed) : Taken dialect config s (.finish index) { s with
        deliveries := s.deliveries.set index { d with callback := .returned } }
  | leave {worker : Nat} : Taken dialect config s (.leave worker) { s with
      batches := Function.update s.batches worker []
      claimed := Function.update s.claimed worker none }
  | close {worker : Nat} : Taken dialect config s (.close worker)
      { s with closed := Function.update s.closed worker true }

theorem taken_of_call {index : Nat} {guard : AckState → Except String AckState}
    (called : call s index guard = some t) : Taken dialect config s e t := by
  rw [call] at called
  split at called
  · cases called
  · rename_i d found
    split at called
    · cases called
      exact .refused
    · cases called
      exact .call found

theorem taken_of_step (taken : step dialect config s e = some t) : Taken dialect config s e t := by
  cases e with
  | tick elapsed =>
      cases taken
      exact .tick
  | insert content group =>
      cases taken
      exact .insert
  | select worker =>
      simp only [step] at taken
      split at taken
      · cases taken
        exact .select
      · cases taken
  | claim worker =>
      simp only [step] at taken
      split at taken
      · rename_i row rest batch _
        cases taken
        exact .claim batch
      · cases taken
  | yield worker =>
      simp only [step] at taken
      split at taken
      · cases taken
      · rename_i d held
        cases taken
        exact .yield held
  | ack index => exact taken_of_call taken
  | nack index => exact taken_of_call taken
  | execute index =>
      simp only [step] at taken
      split at taken
      · cases taken
      · rename_i d found
        split at taken
        · cases taken
          exact .execute found
        · cases taken
  | finish index =>
      simp only [step] at taken
      split at taken
      · cases taken
      · rename_i d found
        split at taken
        · rename_i executed
          cases taken
          exact .finish found executed
        · cases taken
  | leave worker =>
      cases taken
      exact .leave
  | close worker =>
      cases taken
      exact .close

end Step

/-- The table knows of every ack whose statement has taken effect, and an ack that has completed is
of no row that an iterator is yet to yield. -/
structure AcksFinal (s : State κ) : Prop where
  stored : ∀ row ∈ s.table, row.id < s.nextId
  delivered : ∀ d ∈ s.deliveries, d.rowId < s.nextId
  fetched : ∀ id, Fetched s id → id < s.nextId
  recorded : ∀ d ∈ s.deliveries, d.ackState.acked = true →
    d.callback = .executed ∨ d.callback = .returned →
      ∀ row ∈ s.table, row.id = d.rowId → row.ackedAt ≠ none
  unfetched : ∀ id, Fetched s id → ¬AckCompleted s id

theorem initial_acksFinal (now : Time) : AcksFinal (initial κ now) where
  stored := fun _ member => absurd member List.not_mem_nil
  delivered := fun _ member => absurd member List.not_mem_nil
  fetched := by
    rintro id ⟨worker, ⟨row, member, -⟩ | ⟨d, member, -⟩⟩
    · cases member
    · cases member
  recorded := fun _ member => absurd member List.not_mem_nil
  unfetched := by
    rintro id - ⟨d, member, -⟩
    cases member

section Run

variable {config : Nat → SQLConfig} {s t : State κ} {e : Event κ}

theorem fetched_claimed {worker : Nat} {row : Row κ} {rest : List (Row κ)} {expiry : Time}
    (batch : s.batches worker = row :: rest) {table : Table κ} {id : Nat}
    (fetched : Fetched { s with
      table := table
      batches := Function.update s.batches worker rest
      claimed := Function.update s.claimed worker
        (some ⟨worker, row.id, s.now, expiry, AckState.fresh⟩) } id) : Fetched s id := by
  have first : row ∈ s.batches worker := by
    rw [batch]
    exact List.mem_cons_self
  rcases fetched with ⟨other, ⟨next, member, named⟩ | ⟨d, member, named⟩⟩
  · by_cases same : other = worker
    · subst same
      simp only [Function.update_self] at member
      refine ⟨other, Or.inl ⟨next, ?_, named⟩⟩
      rw [batch]
      exact List.mem_cons_of_mem row member
    · simp only [Function.update_of_ne same] at member
      exact ⟨other, Or.inl ⟨next, member, named⟩⟩
  · by_cases same : other = worker
    · subst same
      simp only [Function.update_self] at member
      cases member
      exact ⟨other, Or.inl ⟨row, first, named⟩⟩
    · simp only [Function.update_of_ne same] at member
      exact ⟨other, Or.inr ⟨d, member, named⟩⟩

theorem fetched_dropped {worker : Nat} {batches : Nat → List (Row κ)} {deliveries : List Settling}
    {id : Nat} (fewer : ∀ other, (batches other).Sublist (s.batches other))
    (fetched : Fetched { s with
      batches := batches
      claimed := Function.update s.claimed worker none
      deliveries := deliveries } id) : Fetched s id := by
  rcases fetched with ⟨other, ⟨row, member, named⟩ | ⟨d, member, named⟩⟩
  · exact ⟨other, Or.inl ⟨row, (fewer other).subset member, named⟩⟩
  · by_cases same : other = worker
    · subst same
      simp only [Function.update_self] at member
      cases member
    · simp only [Function.update_of_ne same] at member
      exact ⟨other, Or.inr ⟨d, member, named⟩⟩

theorem fetched_selected {worker batchSize : Nat} {dialect : Dialect} {group : Str} {id : Nat}
    (fetched : Fetched { s with
      batches := Function.update s.batches worker
        (selectPending dialect s.table group s.now batchSize) } id) :
    Fetched s id ∨ ∃ row ∈ s.table, row.id = id ∧ row.ackedAt = none := by
  rcases fetched with ⟨other, ⟨row, member, named⟩ | held⟩
  · by_cases same : other = worker
    · subst same
      simp only [Function.update_self] at member
      have chosen := (List.mem_insertionSort _).mp (List.mem_of_mem_take member)
      rcases List.mem_filter.mp chosen with ⟨inside, pending⟩
      exact Or.inr ⟨row, inside, named, (of_decide_eq_true pending).2.2.1⟩
    · simp only [Function.update_of_ne same] at member
      exact Or.inl ⟨other, Or.inl ⟨row, member, named⟩⟩
  · exact Or.inl ⟨other, Or.inr held⟩

theorem acked_updateRow {table : Table κ} {id : Nat} {update : Row κ → Row κ}
    (sameId : ∀ row, (update row).id = row.id)
    (keeps : ∀ row, row.ackedAt ≠ none → (update row).ackedAt ≠ none) {other : Nat}
    (acked : ∀ row ∈ table, row.id = other → row.ackedAt ≠ none) :
    ∀ row ∈ updateRow table id update, row.id = other → row.ackedAt ≠ none := by
  intro row member named
  rcases mem_updateRow_cases member with ⟨old, inside, -, rfl⟩ | ⟨inside, -⟩
  · exact keeps old (acked old inside ((sameId old).symm.trans named))
  · exact acked row inside named

theorem id_updateRow {table : Table κ} {id : Nat} {update : Row κ → Row κ} {bound : Nat}
    (sameId : ∀ row, (update row).id = row.id) (below : ∀ row ∈ table, row.id < bound) :
    ∀ row ∈ updateRow table id update, row.id < bound := by
  intro row member
  rcases mem_updateRow_cases member with ⟨old, inside, -, rfl⟩ | ⟨inside, -⟩
  · rw [sameId]
    exact below old inside
  · exact below row inside

theorem acked_statement (d : Settling) {table : Table κ} {now : Time} {other : Nat}
    (acked : ∀ row ∈ table, row.id = other → row.ackedAt ≠ none) :
    ∀ row ∈ statement d table now, row.id = other → row.ackedAt ≠ none := by
  rw [statement]
  split
  · apply acked_updateRow _ _ acked
    · exact fun _ => rfl
    · exact fun _ _ => Option.some_ne_none now
  · apply acked_updateRow _ _ acked
    · exact fun _ => rfl
    · exact fun _ same => same

theorem id_statement (d : Settling) {table : Table κ} {now : Time} {bound : Nat}
    (below : ∀ row ∈ table, row.id < bound) : ∀ row ∈ statement d table now, row.id < bound := by
  rw [statement]
  split
  · exact id_updateRow (fun _ => rfl) below
  · exact id_updateRow (fun _ => rfl) below

theorem AcksFinal.settling (inv : AcksFinal s) {index : Nat} {d d' : Settling} {table : Table κ}
    (found : s.deliveries[index]? = some d) (same : d'.rowId = d.rowId)
    (below : ∀ row ∈ table, row.id < s.nextId)
    (kept : ∀ other, (∀ row ∈ s.table, row.id = other → row.ackedAt ≠ none) →
      ∀ row ∈ table, row.id = other → row.ackedAt ≠ none)
    (recorded : d'.ackState.acked = true → d'.callback = .executed ∨ d'.callback = .returned →
      ∀ row ∈ table, row.id = d.rowId → row.ackedAt ≠ none)
    (unfetched : d'.ackState.acked = true → d'.callback = .returned → ¬Fetched s d.rowId) :
    AcksFinal { s with table := table, deliveries := s.deliveries.set index d' } where
  stored := below
  delivered := by
    intro other member
    rcases List.mem_or_eq_of_mem_set member with old | rfl
    · exact inv.delivered other old
    · rw [same]
      exact inv.delivered d (List.mem_of_getElem? found)
  fetched := inv.fetched
  recorded := by
    intro other member acked reached
    rcases List.mem_or_eq_of_mem_set member with old | rfl
    · exact kept other.rowId (inv.recorded other old acked reached)
    · rw [same]
      exact recorded acked reached
  unfetched := by
    rintro id fetched ⟨other, member, rfl, acked, returned⟩
    rcases List.mem_or_eq_of_mem_set member with old | rfl
    · exact inv.unfetched _ fetched ⟨other, old, rfl, acked, returned⟩
    · rw [same] at fetched
      exact unfetched acked returned fetched

theorem AcksFinal.insert (inv : AcksFinal s) (content : κ) (group : Str) :
    AcksFinal { s with
      table := insertRow s.table s.nextId content group s.now
      nextId := s.nextId + 1 } where
  stored := by
    intro row member
    rcases List.mem_append.mp member with old | new
    · exact Nat.lt_succ_of_lt (inv.stored row old)
    · rw [List.mem_singleton.mp new]
      exact Nat.lt_succ_self _
  delivered := fun d member => Nat.lt_succ_of_lt (inv.delivered d member)
  fetched := fun id fetched => Nat.lt_succ_of_lt (inv.fetched id fetched)
  recorded := by
    intro d member acked reached row stored named
    rcases List.mem_append.mp stored with old | new
    · exact inv.recorded d member acked reached row old named
    · rw [List.mem_singleton.mp new] at named
      exact absurd named.symm (Nat.ne_of_lt (inv.delivered d member))
  unfetched := inv.unfetched

theorem AcksFinal.select (inv : AcksFinal s) (dialect : Dialect) (worker : Nat) (group : Str)
    (batchSize : Nat) :
    AcksFinal { s with
      batches := Function.update s.batches worker
        (selectPending dialect s.table group s.now batchSize) } where
  stored := inv.stored
  delivered := inv.delivered
  fetched := by
    intro id fetched
    rcases fetched_selected fetched with before | ⟨row, stored, rfl, -⟩
    · exact inv.fetched id before
    · exact inv.stored row stored
  recorded := inv.recorded
  unfetched := by
    rintro id fetched ⟨d, member, rfl, acked, returned⟩
    rcases fetched_selected fetched with before | ⟨row, stored, named, unacked⟩
    · exact inv.unfetched _ before ⟨d, member, rfl, acked, returned⟩
    · exact inv.recorded d member acked (Or.inr returned) row stored named unacked

theorem AcksFinal.claim (inv : AcksFinal s) {worker : Nat} {row : Row κ} {rest : List (Row κ)}
    (batch : s.batches worker = row :: rest) (expiry : Time) :
    AcksFinal { s with
      table := claimMessage s.table row.id s.now expiry
      batches := Function.update s.batches worker rest
      claimed := Function.update s.claimed worker
        (some ⟨worker, row.id, s.now, expiry, AckState.fresh⟩) } where
  stored := id_updateRow (fun _ => rfl) inv.stored
  delivered := inv.delivered
  fetched := fun id fetched => inv.fetched id (fetched_claimed batch fetched)
  recorded := by
    intro d member acked reached
    apply acked_updateRow _ _ (inv.recorded d member acked reached)
    · exact fun _ => rfl
    · exact fun _ same => same
  unfetched := fun id fetched => inv.unfetched id (fetched_claimed batch fetched)

theorem AcksFinal.yield (inv : AcksFinal s) {worker : Nat} {d : Delivery}
    (held : s.claimed worker = some d) :
    AcksFinal { s with
      claimed := Function.update s.claimed worker none
      deliveries := s.deliveries ++ [⟨d, .uncalled⟩] } where
  stored := inv.stored
  delivered := by
    intro other member
    rcases List.mem_append.mp member with old | new
    · exact inv.delivered other old
    · rw [List.mem_singleton.mp new]
      exact inv.fetched d.rowId ⟨worker, Or.inr ⟨d, held, rfl⟩⟩
  fetched := fun id fetched =>
    inv.fetched id (fetched_dropped (fun _ => List.Sublist.refl _) fetched)
  recorded := by
    intro other member acked reached
    rcases List.mem_append.mp member with old | new
    · exact inv.recorded other old acked reached
    · rw [List.mem_singleton.mp new] at reached
      rcases reached with reached | reached <;> cases reached
  unfetched := by
    rintro id fetched ⟨other, member, named, acked, returned⟩
    rcases List.mem_append.mp member with old | new
    · have before : Fetched s id := fetched_dropped (fun _ => List.Sublist.refl _) fetched
      exact inv.unfetched id before ⟨other, old, named, acked, returned⟩
    · rw [List.mem_singleton.mp new] at returned
      cases returned

theorem AcksFinal.execute (inv : AcksFinal s) {index : Nat} {d : Settling}
    (found : s.deliveries[index]? = some d) :
    AcksFinal { s with
      table := statement d s.table s.now
      deliveries := s.deliveries.set index { d with callback := .executed } } := by
  apply inv.settling found
  · rfl
  · exact id_statement d inv.stored
  · exact fun _ => acked_statement d
  · intro acked _ row member named
    rw [statement, if_pos acked] at member
    rcases mem_updateRow_cases member with ⟨old, -, -, rfl⟩ | ⟨-, other⟩
    · exact nofun
    · exact absurd named other
  · rintro - reached
    cases reached

theorem AcksFinal.finish (inv : AcksFinal s) {index : Nat} {d : Settling}
    (found : s.deliveries[index]? = some d) (executed : d.callback = .executed)
    (unfetched : d.ackState.acked = true → ¬Fetched s d.rowId) :
    AcksFinal { s with
      deliveries := s.deliveries.set index { d with callback := .returned } } := by
  apply inv.settling found
  · rfl
  · exact inv.stored
  · exact fun _ same => same
  · intro acked _
    exact inv.recorded d (List.mem_of_getElem? found) acked (Or.inl executed)
  · exact fun acked _ => unfetched acked

theorem AcksFinal.leave (inv : AcksFinal s) (worker : Nat) :
    AcksFinal { s with
      batches := Function.update s.batches worker []
      claimed := Function.update s.claimed worker none } := by
  have fewer : ∀ other, (Function.update s.batches worker [] other).Sublist
      (s.batches other) := by
    intro other
    by_cases same : other = worker
    · rw [same, Function.update_self]
      exact List.nil_sublist _
    · rw [Function.update_of_ne same]
  refine ⟨inv.stored, inv.delivered, ?_, inv.recorded, ?_⟩
  · exact fun id fetched => inv.fetched id (fetched_dropped fewer fetched)
  · exact fun id fetched => inv.unfetched id (fetched_dropped fewer fetched)

theorem step_acksFinal (s : State κ) (e : Event κ) (t : State κ) (inv : AcksFinal s)
    (guarded : AcksUnfetched s e) (taken : step .postgres config s e = some t) : AcksFinal t := by
  cases taken_of_step taken with
  | tick | refused | close =>
      exact ⟨inv.stored, inv.delivered, inv.fetched, inv.recorded, inv.unfetched⟩
  | insert => exact inv.insert _ _
  | @select worker => exact inv.select _ worker _ _
  | claim batch => exact inv.claim batch _
  | yield held => exact inv.yield held
  | call found =>
      -- A call has executed no statement yet, whatever the flags that it has set.
      apply inv.settling found
      · rfl
      · exact inv.stored
      · exact fun _ same => same
      · rintro - (reached | reached) <;> cases reached
      · rintro - reached
        cases reached
  | execute found => exact inv.execute found
  | finish found executed => exact inv.finish found executed (guarded _ found)
  | leave => exact inv.leave _

theorem acked_row_comes (dialect : Dialect) {worker : Nat} {front rest : List (Row κ)} {row : Row κ}
    (batch : s.batches worker = front ++ row :: rest) (idle : s.claimed worker = none)
    (acked : AckCompleted s row.id) :
    ∃ later, ¬Along (step dialect config) YieldsUnacked s later := by
  induction front generalizing s with
  | nil =>
      refine ⟨[.claim worker, .yield worker], ?_⟩
      intro along
      simp only [step, batch, List.nil_append, idle, Along] at along
      have yields := (along.2 _ rfl).1
      exact yields _ (Function.update_self ..) acked
  | cons first front ih =>
      have passed := ih (s := { s with
        table := claimMessage s.table first.id s.now (s.now + (config worker).ackDeadline)
        batches := Function.update s.batches worker (front ++ row :: rest)
        claimed := Function.update (Function.update s.claimed worker (some ⟨worker, first.id, s.now,
          s.now + (config worker).ackDeadline, AckState.fresh⟩)) worker none
        deliveries := s.deliveries ++ [⟨⟨worker, first.id, s.now,
          s.now + (config worker).ackDeadline, AckState.fresh⟩, .uncalled⟩] })
        (Function.update_self ..) (Function.update_self ..) (by
          rcases acked with ⟨d, member, rest⟩
          exact ⟨d, List.mem_append_left _ member, rest⟩)
      rcases passed with ⟨later, yielded⟩
      refine ⟨.claim worker :: .yield worker :: later, ?_⟩
      intro along
      simp only [step, batch, List.cons_append, idle, Along] at along
      apply yielded
      apply (along.2 _ rfl).2
      simp only [Function.update_self]

theorem acked_fetched_comes (dialect : Dialect) {id : Nat} (fetched : Fetched s id)
    (acked : AckCompleted s id) : ∃ later, ¬Along (step dialect config) YieldsUnacked s later := by
  rcases fetched with ⟨worker, ⟨row, member, rfl⟩ | ⟨d, held, rfl⟩⟩
  · rcases List.append_of_mem member with ⟨front, rest, batch⟩
    cases held : s.claimed worker with
    | none => exact acked_row_comes dialect batch held acked
    | some d =>
        -- The iterator first yields the row that it has claimed.
        let t : State κ := { s with
          claimed := Function.update s.claimed worker none
          deliveries := s.deliveries ++ [⟨d, .uncalled⟩] }
        have later_acked : AckCompleted t row.id := by
          rcases acked with ⟨d, member, rest⟩
          exact ⟨d, List.mem_append_left _ member, rest⟩
        have yielded : ∃ later, ¬Along (step dialect config) YieldsUnacked t later :=
          acked_row_comes dialect batch (Function.update_self ..) later_acked
        rcases yielded with ⟨later, yielded⟩
        refine ⟨.yield worker :: later, ?_⟩
        intro along
        apply yielded
        apply along.2
        rw [step, held]
  · refine ⟨[.yield worker], ?_⟩
    intro along
    exact along.1 d held acked

end Run

/-- PostgreSQL iterators: no acked row is yielded along a run in which no ack completes while an
iterator is yet to yield the row; and where one does, the run can go on to a yield of that row. -/
theorem ack_is_final_iff_unfetched (config : Nat → SQLConfig) (now : Time)
    (events : List (Event κ)) :
    (Along (step .postgres config) AcksUnfetched (initial κ now) events →
      Along (step .postgres config) YieldsUnacked (initial κ now) events) ∧
    ∀ s e t, exec (step .postgres config) (initial κ now) events = some s →
      step .postgres config s e = some t → ¬AcksUnfetched s e →
        ∃ later, ¬Along (step .postgres config) YieldsUnacked t later := by
  constructor
  · intro guarded
    apply along_of_invariant step_acksFinal _ (initial_acksFinal now) guarded
    intro s e inv _
    cases e with
    | yield worker =>
        intro d held
        exact inv.unfetched d.rowId ⟨worker, Or.inr ⟨d, held, rfl⟩⟩
    | _ => trivial
  · intro s e t _ taken unguarded
    cases e with
    | finish index =>
        simp only [AcksUnfetched, not_forall, not_not] at unguarded
        rcases unguarded with ⟨d, found, acked, fetched⟩
        simp only [step, Option.mem_def.mp found] at taken
        split at taken
        · cases taken
          have bound := (List.getElem?_eq_some_iff.mp (Option.mem_def.mp found)).1
          have done : AckCompleted { s with
              deliveries := s.deliveries.set index { d with callback := .returned } } d.rowId :=
            ⟨_, List.mem_set bound _, rfl, acked, rfl⟩
          exact acked_fetched_comes .postgres fetched done
        · cases taken
    | _ => exact absurd trivial unguarded

/-- Two iterators fetch the only row and the first yields it; its ack completes when the second has
claimed the row, which the second then yields. -/
theorem acked_row_yielded :
    ¬Along (step .postgres (fun _ => ⟨[], 30000000, 10⟩)) YieldsUnacked (initial Unit 0)
      [.insert () [], .select 0, .select 1, .claim 0, .yield 0, .claim 1, .ack 0, .execute 0,
        .finish 0, .yield 1] := by
  decide

theorem unfetched_ack_final :
    Along (step .postgres (fun _ => ⟨[], 30000000, 10⟩)) YieldsUnacked (initial Unit 0)
      [.insert () [], .select 0, .claim 0, .yield 0, .ack 0, .execute 0, .finish 0,
        .tick 60000000, .select 1, .select 0] := by
  apply (ack_is_final_iff_unfetched _ 0 _).1
  simp only [Along, AcksUnfetched, true_and]
  intro s first t second u third v fourth w fifth x sixth
  cases first
  cases second
  cases third
  cases fourth
  cases fifth
  cases sixth
  refine ⟨?_, fun _ _ _ _ _ _ _ _ => trivial⟩
  rintro d - - ⟨worker, ⟨row, member, -⟩ | ⟨held, member, -⟩⟩
  · by_cases same : worker = 0
    · subst same
      simp only [Function.update_self] at member
      cases member
    · simp only [Function.update_of_ne same] at member
      cases member
  · by_cases same : worker = 0
    · subst same
      simp only [Function.update_self] at member
      cases member
    · simp only [Function.update_of_ne same] at member
      cases member

/-- A state between the steps of `Sql.step`: nothing is claimed and not yielded, and no callback is
under way. -/
def ofState (s : Sql.State κ) : State κ :=
  { now := s.now, table := s.table, nextId := s.nextId, closed := s.closed, batches := s.batches,
    claimed := fun _ => none
    deliveries := s.deliveries.map (fun d =>
      ⟨d, if d.ackState.Settled then .returned else .uncalled⟩) }

section Refines

variable {dialect : Dialect} {config : Nat → SQLConfig} {s t : Sql.State κ}

theorem settle_refined {index : Nat} {guard : AckState → Except String AckState} {e : Event κ}
    {query : Table κ → Nat → Time → Table κ}
    (calls : ∀ u, step dialect config u e = call u index guard)
    (settles : ∀ flags next, guard flags = .ok next → next.Settled ∧
      ∀ (d : Settling) table now, d.ackState = next →
        statement d table now = query table d.rowId now)
    (taken : settle s index guard query = some t) :
    ∃ events, exec (step dialect config) (ofState s) events = some (ofState t) := by
  rcases settle_cases taken with ⟨d, found, ⟨text, -, rfl⟩ | ⟨flags, passed, rfl⟩⟩
  · exact ⟨[], rfl⟩
  · rcases settles _ _ passed with ⟨settled, queried⟩
    have inside : index < (ofState s).deliveries.length := by
      rw [ofState, List.length_map]
      exact (List.getElem?_eq_some_iff.mp found).1
    have embedded : (ofState s).deliveries[index]? =
        some ⟨d, if d.ackState.Settled then .returned else .uncalled⟩ := by
      rw [ofState, List.getElem?_map, found]
      rfl
    refine ⟨[e, .execute index, .finish index], ?_⟩
    apply exec_cons.mpr
    have called : step dialect config (ofState s) e = some { ofState s with
        deliveries :=
          (ofState s).deliveries.set index ⟨{ d with ackState := flags }, .called⟩ } := by
      rw [calls]
      simp only [call, embedded, passed]
    refine ⟨_, called, ?_⟩
    apply exec_cons.mpr
    refine ⟨{ ofState s with
      table := query s.table d.rowId s.now
      deliveries :=
        (ofState s).deliveries.set index ⟨{ d with ackState := flags }, .executed⟩ }, ?_, ?_⟩
    · simp only [step, List.getElem?_set_self inside, if_true, List.set_set]
      rw [queried _ _ _ rfl]
      rfl
    rw [exec_singleton]
    simp only [step, List.getElem?_set_self inside, if_true, List.set_set]
    simp [ofState, List.map_set, settled]

theorem step_refined {e : Sql.Event κ} (taken : Sql.step dialect config s e = some t) :
    ∃ events, exec (step dialect config) (ofState s) events = some (ofState t) := by
  cases e with
  | tick elapsed =>
      cases taken
      exact ⟨[.tick elapsed], rfl⟩
  | insert content group =>
      cases taken
      exact ⟨[.insert content group], rfl⟩
  | select worker =>
      simp only [Sql.step] at taken
      split at taken
      · rename_i idle
        cases taken
        refine ⟨[.select worker], ?_⟩
        rw [exec_singleton]
        exact if_pos ⟨idle.1, rfl, idle.2⟩
      · cases taken
  | claim worker =>
      simp only [Sql.step] at taken
      split at taken
      · cases taken
      · rename_i row rest batch
        cases taken
        refine ⟨[.claim worker, .yield worker], ?_⟩
        simp [exec, step, ofState, batch, AckState.not_settled_fresh, Function.update_idem]
  | ack index =>
      apply settle_refined (e := .ack index) _ _ taken
      · exact fun _ => rfl
      · intro flags next passed
        rcases (AckState.ack_ok_iff _ _).mp passed with ⟨-, rfl⟩
        refine ⟨Or.inl rfl, fun d table now same => ?_⟩
        rw [statement, same, if_pos rfl]
  | nack index =>
      apply settle_refined (e := .nack index) _ _ taken
      · exact fun _ => rfl
      · intro flags next passed
        rcases (AckState.nack_ok_iff _ _).mp passed with ⟨-, rfl⟩
        refine ⟨Or.inr rfl, fun d table now same => ?_⟩
        rw [statement, same, if_neg Bool.false_ne_true]
  | close worker =>
      cases taken
      exact ⟨[.close worker], rfl⟩

/-- Every run of `Sql.step` is one of the iterators that wait at no await of a claim or a
callback. -/
theorem exec_refined {events : List (Sql.Event κ)}
    (run : exec (Sql.step dialect config) s events = some t) :
    ∃ finer, exec (step dialect config) (ofState s) finer = some (ofState t) := by
  induction events generalizing s with
  | nil =>
      cases run
      exact ⟨[], rfl⟩
  | cons e events ih =>
      rcases exec_cons.mp run with ⟨u, first, rest⟩
      rcases step_refined first with ⟨front, before⟩
      rcases ih rest with ⟨back, after⟩
      exact ⟨front ++ back, exec_append.mpr ⟨_, before, after⟩⟩

end Refines

end Natricine.Sql.Interleaved
