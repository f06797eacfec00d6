import Natricine.Sql.Publisher

namespace Natricine.Sql.Shared

open Text (Str)
open Transition

variable {κ : Type}

def Tables.Holds (tables : Tables (Entry κ)) (c k : Nat) : Prop :=
  ∃ table, ∃ row ∈ tables.rows table, row.content.call = some c ∧ row.content.index = k

def Call.Absent (call : Call κ) (tables : Tables (Entry κ)) (c : Nat) : Prop :=
  ∀ k < call.messages.length, ¬tables.Holds c k

def Call.Complete (call : Call κ) (tables : Tables (Entry κ)) (c : Nat) : Prop :=
  ∀ k < call.messages.length, tables.Holds c k

/-- What a committed read sees of a call: all that it published once it has returned, nothing of it
once it has raised, and never a part. -/
def Call.Seen (call : Call κ) (tables : Tables (Entry κ)) (c : Nat) : Prop :=
  match call.status with
  | .running => call.Absent tables c ∨ call.Complete tables c
  | .returned => call.Complete tables c
  | .cancelled | .raised => call.Absent tables c

def AllOrNothing (s : State κ) : Prop :=
  ∀ (c : Nat) call, s.calls[c]? = some call → call.Seen s.committed c

def State.Pending (s : State κ) (c k : Nat) : Prop :=
  s.working.Holds c k ∧ ¬s.committed.Holds c k

/-- What the transaction may hold of a call when it is committed: nothing if the call has raised;
all of it or nothing while the call is under way; and all, committed before or not, if this is the
commit behind which the call returns. -/
def Call.Fits (call : Call κ) (s : State κ) (c : Nat) (returns : Bool) : Prop :=
  match call.status with
  | .running => ((∃ k < call.messages.length, s.Pending c k) ∨ returns = true) →
      call.Complete s.working c
  | .returned => True
  | .cancelled | .raised => ∀ k < call.messages.length, ¬s.Pending c k

def Query.IsCommit : Query κ → Bool
  | .commit | .commitTable _ => true
  | _ => false

def Query.IsIndex : Query κ → Bool
  | .createIndex _ => true
  | _ => false

/-- A commit succeeds only where the transaction fits all publish calls, and no call fails or is
cancelled once a commit has made its messages visible. -/
def Unbroken (s : State κ) : Event κ → Prop
  | .execute c _ => ∀ call query rest, s.calls[c]? = some call → call.queries = query :: rest →
      query.IsCommit = true → ∀ (q : Nat) other, s.calls[q]? = some other →
        other.Fits s q (decide (q = c) && rest.isEmpty)
  | .fail c _ => ∀ call query rest, s.calls[c]? = some call → call.queries = query :: rest →
      query.IsIndex = false → call.Absent s.committed c
  | .cancel c => ∀ call, s.calls[c]? = some call → call.Absent s.committed c
  | _ => True

/-- A call with queries left is not over, they insert its own messages, and one that publishes
commits last. -/
structure Call.Formed (call : Call κ) (c : Nat) : Prop where
  live : call.queries ≠ [] → call.status = .running ∨ call.status = .cancelled
  own : ∀ table entry group, .insert table entry group ∈ call.queries → entry.call = some c
  ends : call.messages ≠ [] → ∀ last ∈ call.queries.getLast?, last.IsCommit = true

structure Formed (s : State κ) : Prop where
  formed : ∀ (c : Nat) call, s.calls[c]? = some call → call.Formed c
  kept : ∀ c k, s.committed.Holds c k → s.working.Holds c k
  known : ∀ c k, s.working.Holds c k → c < s.calls.length

section Tables

variable {tables : Tables (Entry κ)} {c k : Nat}

theorem holds_updateRow {table : Str} {id : Nat} {change : Row (Entry κ) → Row (Entry κ)}
    (same : ∀ row, (change row).content = row.content) :
    (tables.update table (fun rows => updateRow rows id change)).Holds c k ↔ tables.Holds c k := by
  apply exists_congr
  intro other
  by_cases here : other = table
  · subst here
    simp only [Tables.update, Function.update_self]
    apply exists_mem_updateRow_iff
    intro row
    rw [same]
  · simp only [Tables.update, Function.update_of_ne here]

theorem holds_insert {table : Str} {entry : Entry κ} {group : Str} {now : Time} :
    (tables.execute now (.insert table entry group)).Holds c k ↔
      tables.Holds c k ∨ (entry.call = some c ∧ entry.index = k) := by
  constructor
  · intro holds
    rcases holds with ⟨other, row, member, named⟩
    by_cases here : other = table
    · subst here
      simp only [Tables.execute, Function.update_self] at member
      rcases List.mem_append.mp member with before | last
      · exact Or.inl ⟨other, row, before, named⟩
      · rw [List.mem_singleton.mp last] at named
        exact Or.inr named
    · simp only [Tables.execute, Function.update_of_ne here] at member
      exact Or.inl ⟨other, row, member, named⟩
  · intro holds
    rcases holds with ⟨other, row, member, named⟩ | named
    · refine ⟨other, row, ?_, named⟩
      by_cases here : other = table
      · subst here
        simp only [Tables.execute, Function.update_self]
        exact List.mem_append_left _ member
      · simp only [Tables.execute, Function.update_of_ne here]
        exact member
    · simp only [Tables.Holds, Tables.execute]
      refine ⟨table, ?_⟩
      rw [Function.update_self]
      exact ⟨_, List.mem_append_right _ (List.mem_singleton_self _), named⟩

theorem holds_execute {now : Time} (query : Query (Entry κ)) :
    (tables.execute now query).Holds c k ↔ tables.Holds c k ∨
      ∃ table entry group, query = .insert table entry group ∧
        entry.call = some c ∧ entry.index = k := by
  cases query with
  | insert table entry group =>
      rw [holds_insert]
      apply or_congr_right
      constructor
      · exact fun named => ⟨table, entry, group, rfl, named⟩
      · intro inserts
        rcases inserts with ⟨_, _, _, same, named⟩
        cases same
        exact named
  | claimMessage table id ackDeadline =>
      have same : (tables.execute now (.claimMessage table id ackDeadline)).Holds c k ↔
          tables.Holds c k := by
        apply holds_updateRow
        exact fun _ => rfl
      simpa using same
  | ackMessage table id =>
      have same : (tables.execute now (.ackMessage table id)).Holds c k ↔ tables.Holds c k := by
        apply holds_updateRow
        exact fun _ => rfl
      simpa using same
  | nackMessage table id =>
      have same : (tables.execute now (.nackMessage table id)).Holds c k ↔ tables.Holds c k := by
        apply holds_updateRow
        exact fun _ => rfl
      simpa using same
  | createTable table => simp [Tables.execute]
  | createIndex table => simp [Tables.execute]
  | commitTable table => simp [Tables.execute]
  | selectPending table group batchSize => simp [Tables.execute]
  | commit => simp [Tables.execute]

end Tables

section Calls

variable {call next : Call κ} {c : Nat} {query : Query (Entry κ)} {rest : List (Query (Entry κ))}

theorem Call.Formed.tail (formed : call.Formed c) (queue : call.queries = query :: rest)
    (same : next.messages = call.messages) (fewer : next.queries = rest)
    (live : rest ≠ [] → next.status = .running) : next.Formed c := by
  rw [← fewer] at queue live
  refine ⟨fun left => Or.inl (live left), ?_, ?_⟩
  · intro table entry group member
    apply formed.own table entry group
    rw [queue]
    exact List.mem_cons_of_mem _ member
  · intro publishes last final
    apply formed.ends (same ▸ publishes)
    rw [queue, List.getLast?_cons, final]
    rfl

theorem formed_of_empty (empty : next.queries = []) : next.Formed c := by
  refine ⟨fun left => absurd empty left, ?_, ?_⟩
  · intro table entry group member
    rw [empty] at member
    cases member
  · intro _ last final
    rw [empty] at final
    cases final

theorem proceed_cases (call : Call κ) (rest : List (Query (Entry κ))) :
    (call.status = .cancelled ∧ call.proceed rest = call.raise) ∨
      (call.status ≠ .cancelled ∧ call.proceed rest =
        { call with
          queries := rest
          status := if rest.isEmpty then .returned else .running }) := by
  rw [Call.proceed]
  split
  · rename_i cancelled
    exact Or.inl ⟨cancelled, rfl⟩
  · rename_i other
    exact Or.inr ⟨other, rfl⟩

theorem Call.Formed.proceed (formed : call.Formed c) (queue : call.queries = query :: rest) :
    (call.proceed rest).Formed c := by
  rcases proceed_cases call rest with ⟨-, same⟩ | ⟨-, same⟩
  · rw [same]
    exact formed_of_empty rfl
  · rw [same]
    refine formed.tail queue rfl rfl ?_
    intro left
    exact if_neg (by simpa using left)

theorem ensureTable_inserts {client : Client} {table other : Str} {entry : Entry κ} {group : Str} :
    .insert other entry group ∉ ensureTable client table := by
  rw [ensureTable]
  split <;> simp

theorem begun_formed (client : Nat) (fields : Client) (topic : Str) (operation : Operation κ) :
    (begun client c fields topic operation).Formed c := by
  refine ⟨?_, ?_, ?_⟩
  · intro left
    left
    exact if_neg (by simpa [begun] using left)
  · intro table entry group member
    cases operation with
    | publish messages =>
        simp only [begun, queriesOf, List.mem_append, List.mem_singleton] at member
        rcases member with (ensures | inserts) | last
        · exact absurd ensures ensureTable_inserts
        · rcases List.mem_mapIdx.mp inserts with ⟨index, bound, same⟩
          cases same
          rfl
        · cases last
    | subscribe => exact absurd member ensureTable_inserts
    | poll => simp [begun, queriesOf] at member
    | claim id => simp [begun, queriesOf] at member
    | ack id => simp [begun, queriesOf] at member
    | nack id => simp [begun, queriesOf] at member
  · intro publishes last final
    cases operation with
    | publish messages =>
        simp only [begun, queriesOf, List.getLast?_concat, Option.mem_def] at final
        cases final
        rfl
    | subscribe => exact absurd rfl publishes
    | poll => exact absurd rfl publishes
    | claim id => exact absurd rfl publishes
    | ack id => exact absurd rfl publishes
    | nack id => exact absurd rfl publishes

end Calls

section Step

variable {s t : State κ} {c : Nat} {call next : Call κ}

theorem initial_formed (clients : Nat → Client) (tables : Tables κ) :
    Formed (initial clients tables) := by
  refine ⟨fun _ _ => nofun, ?_, ?_⟩
  · intro c k holds
    exact holds
  · intro c k holds
    rcases holds with ⟨table, row, member, named, -⟩
    rcases List.mem_map.mp member with ⟨before, -, rfl⟩
    cases named

theorem Formed.set_call (inv : Formed s) (found : s.calls[c]? = some call)
    (next : Call κ) (formed : next.Formed c) {clients : Nat → Client}
    {committed working : Tables (Entry κ)}
    (kept : ∀ q k, committed.Holds q k → working.Holds q k)
    (known : ∀ q k, working.Holds q k → s.working.Holds q k ∨ q = c) :
    Formed ⟨clients, committed, working, s.calls.set c next⟩ := by
  refine ⟨?_, kept, ?_⟩
  · intro q other at_place
    rcases Update.getElem?_set_cases next at_place with ⟨rfl, rfl⟩ | ⟨-, before⟩
    · exact formed
    · exact inv.formed q other before
  · intro q k holds
    rw [List.length_set]
    rcases known q k holds with before | rfl
    · exact inv.known q k before
    · exact (List.getElem?_eq_some_iff.mp found).1

theorem Formed.add_call (inv : Formed s) (formed : next.Formed s.calls.length) :
    Formed { s with calls := s.calls ++ [next] } := by
  refine ⟨?_, inv.kept, ?_⟩
  · intro q other at_place
    rcases Update.getElem?_append_cases next at_place with ⟨rfl, rfl⟩ | before
    · exact formed
    · exact inv.formed q other before
  · intro q k holds
    have bound := inv.known q k holds
    simp only [List.length_append, List.length_singleton]
    omega

theorem Formed.execute (inv : Formed s) (found : s.calls[c]? = some call)
    {query : Query (Entry κ)} {rest : List (Query (Entry κ))}
    (queue : call.queries = query :: rest) (now : Time) :
    Formed (execute s c call query rest now) := by
  have formed := (inv.formed c call found).proceed queue
  have runs : Formed ⟨s.clients, s.committed, s.working.execute now query,
      s.calls.set c (call.proceed rest)⟩ := by
    refine inv.set_call found _ formed ?_ ?_
    · intro q k holds
      exact (holds_execute query).mpr (Or.inl (inv.kept q k holds))
    · intro q k holds
      rcases (holds_execute query).mp holds with before | ⟨table, entry, group, rfl, named, -⟩
      · exact Or.inl before
      · right
        have own := (inv.formed c call found).own table entry group
        rw [queue, named] at own
        exact Option.some.inj (own List.mem_cons_self)
  cases query with
  | commit => exact inv.set_call found _ formed (fun _ _ => id) (fun _ _ => Or.inl)
  | commitTable table => exact inv.set_call found _ formed (fun _ _ => id) (fun _ _ => Or.inl)
  | _ => exact runs

theorem Formed.fail (inv : Formed s) (found : s.calls[c]? = some call)
    {query : Query (Entry κ)} {rest : List (Query (Entry κ))}
    (queue : call.queries = query :: rest) (rollback : Bool) :
    Formed (fail s c call query rest rollback) := by
  apply inv.set_call found
  · split
    · exact (inv.formed c call found).proceed queue
    · exact formed_of_empty rfl
  · intro q k holds
    split
    · exact holds
    · exact inv.kept q k holds
  · intro q k holds
    left
    split at holds
    · exact inv.kept q k holds
    · exact holds

theorem step_formed (s : State κ) (e : Event κ) (t : State κ) (inv : Formed s)
    (taken : step s e = some t) : Formed t := by
  cases taken_of_step taken with
  | start => exact inv.add_call (begun_formed _ _ _ _)
  | refused => exact inv.add_call (formed_of_empty rfl)
  | execute found queue => exact inv.execute found queue _
  | fail found queue => exact inv.fail found queue _
  | @cancel c call found =>
      have formed := inv.formed c call found
      exact inv.set_call found { call with status := .cancelled }
        ⟨fun _ => Or.inr rfl, formed.own, formed.ends⟩ inv.kept (fun _ _ => Or.inl)
  | close => exact ⟨inv.formed, inv.kept, inv.known⟩

theorem begun_seen {client : Nat} {fields : Client} {topic : Str} {operation : Operation κ}
    {tables : Tables (Entry κ)} (unknown : ∀ k, ¬tables.Holds c k) :
    (begun client c fields topic operation).Seen tables c := by
  cases none_left : (queriesOf fields c topic operation).isEmpty with
  | true =>
      have returned : (begun client c fields topic operation).status = .returned := if_pos none_left
      rw [Call.Seen, returned]
      intro k bound
      cases operation with
      | publish messages => simp [queriesOf] at none_left
      | _ => exact absurd bound (Nat.not_lt_zero k)
  | false =>
      have runs : (begun client c fields topic operation).status = .running :=
        if_neg (by rw [none_left]; exact Bool.false_ne_true)
      rw [Call.Seen, runs]
      exact Or.inl (fun k _ => unknown k)

theorem allOrNothing_set_iff (seen : AllOrNothing s) (found : s.calls[c]? = some call)
    (next : Call κ) {clients : Nat → Client} {working : Tables (Entry κ)} :
    AllOrNothing ⟨clients, s.committed, working, s.calls.set c next⟩ ↔ next.Seen s.committed c := by
  constructor
  · intro after
    exact after c next (List.getElem?_set_self (List.getElem?_eq_some_iff.mp found).1)
  · intro here q other at_place
    rcases Update.getElem?_set_cases next at_place with ⟨rfl, rfl⟩ | ⟨-, before⟩
    · exact here
    · exact seen q other before

theorem proceed_seen {query : Query (Entry κ)} {rest : List (Query (Entry κ))}
    {tables : Tables (Entry κ)} (formed : call.Formed c) (queue : call.queries = query :: rest)
    (other : query.IsCommit = false) (seen : call.Seen tables c) :
    (call.proceed rest).Seen tables c := by
  have live := formed.live (by rw [queue]; exact List.cons_ne_nil _ _)
  rcases proceed_cases call rest with ⟨cancelled, same⟩ | ⟨running, same⟩
  · rw [Call.Seen, cancelled] at seen
    rw [same]
    exact seen
  · rw [Call.Seen, live.resolve_right running] at seen
    rw [same]
    cases rest with
    | cons next later => exact seen
    | nil =>
        intro k bound
        have publishes : call.messages ≠ [] := List.ne_nil_of_length_pos (Nat.zero_lt_of_lt bound)
        have commits := formed.ends publishes query (by rw [queue]; rfl)
        rw [other] at commits
        cases commits

theorem not_pending_iff (absent : call.Absent s.committed c) :
    (∀ k < call.messages.length, ¬s.Pending c k) ↔ call.Absent s.working c := by
  constructor
  · exact fun fits k bound holds => fits k bound ⟨holds, absent k bound⟩
  · exact fun gone k bound waits => gone k bound waits.1

theorem fits_iff_seen (inv : Formed s) (seen : call.Seen s.committed c) :
    call.Fits s c false ↔ call.Seen s.working c := by
  cases status : call.status with
  | running =>
      rw [Call.Seen, status] at seen
      simp only [Call.Fits, Call.Seen, status, Bool.false_eq_true, or_false]
      constructor
      · intro fits
        by_cases waits : ∃ k < call.messages.length, s.Pending c k
        · exact Or.inr (fits waits)
        · rcases seen with absent | complete
          · left
            intro k bound holds
            exact waits ⟨k, bound, holds, absent k bound⟩
          · exact Or.inr (fun k bound => inv.kept c k (complete k bound))
      · intro whole waits
        rcases waits with ⟨k, bound, holds, -⟩
        rcases whole with absent | complete
        · exact absurd holds (absent k bound)
        · exact complete
  | returned =>
      rw [Call.Seen, status] at seen
      simp only [Call.Fits, Call.Seen, status, true_iff]
      exact fun k bound => inv.kept c k (seen k bound)
  | cancelled =>
      rw [Call.Seen, status] at seen
      simp only [Call.Fits, Call.Seen, status]
      exact not_pending_iff seen
  | raised =>
      rw [Call.Seen, status] at seen
      simp only [Call.Fits, Call.Seen, status]
      exact not_pending_iff seen

theorem fits_iff_proceed_seen (inv : Formed s) (found : s.calls[c]? = some call)
    (seen : call.Seen s.committed c) {query : Query (Entry κ)} {rest : List (Query (Entry κ))}
    (queue : call.queries = query :: rest) :
    call.Fits s c rest.isEmpty ↔ (call.proceed rest).Seen s.working c := by
  have live := (inv.formed c call found).live (by rw [queue]; exact List.cons_ne_nil _ _)
  rcases proceed_cases call rest with ⟨cancelled, same⟩ | ⟨running, same⟩
  · have others := fits_iff_seen inv seen
    simp only [Call.Fits, Call.Seen, cancelled] at others
    rw [same]
    simp only [Call.Fits, Call.Seen, cancelled, Call.raise]
    exact others
  · have runs := live.resolve_right running
    rw [same]
    cases rest with
    | cons next later =>
        refine (fits_iff_seen inv seen).trans ?_
        rw [Call.Seen, runs]
        exact Iff.rfl
    | nil =>
        simp only [Call.Fits, runs, List.isEmpty_nil, or_true, true_imp_iff]
        exact Iff.rfl

theorem commit_unbroken_iff (inv : Formed s) (seen : AllOrNothing s)
    (found : s.calls[c]? = some call) {query : Query (Entry κ)} {rest : List (Query (Entry κ))}
    (queue : call.queries = query :: rest) (commits : query.IsCommit = true)
    (clients : Nat → Client) (now : Time) :
    Unbroken s (.execute c now) ↔
      AllOrNothing ⟨clients, s.working, s.working, s.calls.set c (call.proceed rest)⟩ := by
  constructor
  · intro unbroken q other at_place
    have fits := unbroken call query rest found queue commits
    rcases Update.getElem?_set_cases _ at_place with ⟨rfl, rfl⟩ | ⟨differs, before⟩
    · have own := fits q call found
      simp only [decide_true, Bool.true_and] at own
      exact (fits_iff_proceed_seen inv found (seen q call found) queue).mp own
    · have fit := fits q other before
      simp only [differs, decide_false, Bool.false_and] at fit
      exact (fits_iff_seen inv (seen q other before)).mp fit
  · intro after own query' rest' found' queue' _ q other at_place
    rw [found] at found'
    cases found'
    rw [queue] at queue'
    cases queue'
    by_cases same : q = c
    · subst same
      rw [found] at at_place
      cases at_place
      simp only [decide_true, Bool.true_and]
      apply (fits_iff_proceed_seen inv found (seen q call found) queue).mpr
      exact after q _ (List.getElem?_set_self (List.getElem?_eq_some_iff.mp found).1)
    · simp only [same, decide_false, Bool.false_and]
      apply (fits_iff_seen inv (seen q other at_place)).mpr
      exact after q other ((List.getElem?_set_ne (Ne.symm same)).trans at_place)

theorem execute_unbroken_iff (inv : Formed s) (seen : AllOrNothing s)
    (found : s.calls[c]? = some call) {query : Query (Entry κ)} {rest : List (Query (Entry κ))}
    (queue : call.queries = query :: rest) (now : Time) :
    Unbroken s (.execute c now) ↔ AllOrNothing (execute s c call query rest now) := by
  have plain : query.IsCommit = false → (Unbroken s (.execute c now) ↔
      AllOrNothing { s with
        working := s.working.execute now query
        calls := s.calls.set c (call.proceed rest) }) := by
    intro other
    apply iff_of_true
    · intro own query' rest' found' queue' commits
      rw [found] at found'
      cases found'
      rw [queue] at queue'
      cases queue'
      rw [other] at commits
      cases commits
    · apply (allOrNothing_set_iff seen found _).mpr
      exact proceed_seen (inv.formed c call found) queue other (seen c call found)
  cases query with
  | commit => exact commit_unbroken_iff inv seen found queue rfl _ now
  | commitTable table => exact commit_unbroken_iff inv seen found queue rfl _ now
  | _ => exact plain rfl

theorem fail_unbroken_iff (inv : Formed s) (seen : AllOrNothing s)
    (found : s.calls[c]? = some call) {query : Query (Entry κ)} {rest : List (Query (Entry κ))}
    (queue : call.queries = query :: rest) (rollback : Bool) :
    Unbroken s (.fail c rollback) ↔ AllOrNothing (fail s c call query rest rollback) := by
  refine Iff.trans ?_ (allOrNothing_set_iff seen found _).symm
  have raises : (∀ other query' rest', s.calls[c]? = some other → other.queries = query' :: rest' →
      query'.IsIndex = false → other.Absent s.committed c) ↔
        (query.IsIndex = false → call.Absent s.committed c) := by
    constructor
    · exact fun all => all call query rest found queue
    · intro own other query' rest' found' queue'
      rw [found] at found'
      cases found'
      rw [queue] at queue'
      cases queue'
      exact own
  rw [Unbroken, raises]
  split
  · apply iff_of_true nofun
    exact proceed_seen (inv.formed c call found) queue rfl (seen c call found)
  · rename_i other
    have raised : query.IsIndex = false := by
      cases query with
      | createIndex table => exact absurd rfl (other table)
      | _ => rfl
    rw [raised]
    exact ⟨fun absent => absent rfl, fun absent _ => absent⟩

theorem allOrNothing_add_call (inv : Formed s) (seen : AllOrNothing s) {call : Call κ}
    (starts : (∀ k, ¬s.committed.Holds s.calls.length k) → call.Seen s.committed s.calls.length) :
    AllOrNothing { s with calls := s.calls ++ [call] } := by
  intro q other at_place
  rcases Update.getElem?_append_cases call at_place with ⟨rfl, rfl⟩ | before
  · apply starts
    exact fun k holds => Nat.lt_irrefl _ (inv.known _ k (inv.kept _ k holds))
  · exact seen q other before

theorem step_allOrNothing_iff (s : State κ) (e : Event κ) (t : State κ) (inv : Formed s)
    (seen : AllOrNothing s) (taken : step s e = some t) : Unbroken s e ↔ AllOrNothing t := by
  cases taken_of_step taken with
  | start => exact iff_of_true trivial (allOrNothing_add_call inv seen begun_seen)
  | refused =>
      exact iff_of_true trivial (allOrNothing_add_call inv seen (fun unknown k _ => unknown k))
  | execute found queue => exact execute_unbroken_iff inv seen found queue _
  | fail found queue => exact fail_unbroken_iff inv seen found queue _
  | @cancel c call found =>
      refine Iff.trans ?_ (allOrNothing_set_iff seen found _).symm
      constructor
      · exact fun all => all call found
      · intro absent other found'
        rw [found] at found'
        cases found'
        exact absent
  | close => exact iff_of_true trivial seen

end Step

/-- In every run on the connection, a committed read sees all of each publish call that returned,
nothing of one that raised and never a part if and only if the transaction fits the calls at each
commit and no call fails or is cancelled once its messages are visible. -/
theorem all_or_nothing_iff_unbroken (clients : Nat → Client) (tables : Tables κ)
    (events : List (Event κ)) (s : State κ)
    (run : exec step (initial clients tables) events = some s) :
    Throughout step AllOrNothing (initial clients tables) events ↔
      Along step Unbroken (initial clients tables) events :=
  throughout_iff_along_within step_formed step_allOrNothing_iff (initial_formed clients tables)
    (fun _ _ => nofun) run

section Runs

def client : Client := ⟨[], [], 30, 10, true, false, [[]]⟩

def empty : Tables Nat := ⟨fun _ => [], fun _ => 1⟩

/-- The second insert of a publish call fails and the call raises; a subscriber on the connection
claims the first row, and the commit behind the claim makes it visible. -/
theorem claim_commits_raised_call :
    ¬Throughout step AllOrNothing (initial (fun _ => client) empty)
      [.start 0 [] (.publish [5, 6]), .execute 0 0, .fail 0 false, .start 1 [] (.claim 1),
        .execute 1 0, .execute 1 0] := by
  intro throughout
  have seen := throughout _ ⟨_, List.prefix_rfl, rfl⟩ 0 _ rfl
  exact seen 0 (by decide) ⟨[], _, List.mem_cons_self, rfl, rfl⟩

theorem undisturbed_call_all_seen :
    Throughout step AllOrNothing (initial (fun _ => client) empty)
      [.start 0 [] (.publish [5, 6]), .execute 0 0, .execute 0 0, .execute 0 0] := by
  have run := (all_or_nothing_iff_unbroken (fun _ => client) empty
    [.start 0 [] (.publish [5, 6]), .execute 0 0, .execute 0 0, .execute 0 0] _ rfl).mpr
  apply run
  refine ⟨trivial, ?_⟩
  intro s taken
  cases taken
  refine ⟨?_, ?_⟩
  · intro call query rest found queue commits
    cases found
    cases queue
    cases commits
  intro s taken
  cases taken
  refine ⟨?_, ?_⟩
  · intro call query rest found queue commits
    cases found
    cases queue
    cases commits
  intro s taken
  cases taken
  refine ⟨?_, fun _ _ => trivial⟩
  intro call query rest found queue commits q other at_place
  cases q with
  | zero =>
      cases at_place
      intro _ k bound
      match k, bound with
      | 0, _ => exact ⟨[], _, List.mem_cons_self, rfl, rfl⟩
      | 1, _ => exact ⟨[], _, List.mem_cons_of_mem _ List.mem_cons_self, rfl, rfl⟩
  | succ q => cases at_place

end Runs

end Natricine.Sql.Shared
