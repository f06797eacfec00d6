import Natricine.Library.Transition
import Natricine.Library.Update
import Natricine.Sql.Dialect
import Mathlib.Logic.Function.Basic

/-! `SQLPublisher` and the queries of `SQLSubscriber` over one connection with explicit commits: the
calls under way queue one query at a time, and the queries of all of them share the transaction. -/

namespace Natricine.Sql.Shared

open Text (Str)

/-- The fields of an `SQLPublisher` or an `SQLSubscriber`, with those of its config, that the calls
below read. -/
structure Client where
  tablePrefix : Str
  consumerGroup : Str
  ackDeadline : Time
  batchSize : Nat
  autoCreateTables : Bool
  closed : Bool
  tablesCreated : List Str

/-- What a call asks of the connection; `commitTable` is the commit of `_ensure_table`. -/
inductive Query (κ : Type) where
  | createTable (table : Str)
  | createIndex (table : Str)
  | commitTable (table : Str)
  | insert (table : Str) (content : κ) (group : Str)
  | selectPending (table : Str) (group : Str) (batchSize : Nat)
  | claimMessage (table : Str) (id : Nat) (ackDeadline : Time)
  | ackMessage (table : Str) (id : Nat)
  | nackMessage (table : Str) (id : Nat)
  | commit
  deriving DecidableEq, Repr

/-- The rows of each table, and the id that its next row gets. -/
structure Tables (κ : Type) where
  rows : Str → Table κ
  nextId : Str → Nat

/-- A stored message, as the one at the index in the arguments of the publish call; a row from
before the run has no call. -/
structure Entry (κ : Type) where
  call : Option Nat
  index : Nat
  message : κ
  deriving DecidableEq, Repr

inductive Status where
  | running
  | cancelled
  | returned
  | raised
  deriving DecidableEq, Repr

structure Call (κ : Type) where
  client : Nat
  messages : List κ
  queries : List (Query (Entry κ))
  status : Status

/-- `committed` is what another connection reads, `working` what the queries work on: the open
transaction is what they differ by. -/
structure State (κ : Type) where
  clients : Nat → Client
  committed : Tables (Entry κ)
  working : Tables (Entry κ)
  calls : List (Call κ)

/-- `subscribe`, `poll` and `claim` are the stretches of `_subscribe_iter` from its start, from the
top of its loop, and for one row. -/
inductive Operation (κ : Type) where
  | publish (messages : List κ)
  | subscribe
  | poll
  | claim (id : Nat)
  | ack (id : Nat)
  | nack (id : Nat)

/-- `execute` and `fail` are the end of the query that a call waits for; a failing one may also make
the database roll the transaction back. -/
inductive Event (κ : Type) where
  | start (client : Nat) (topic : Str) (operation : Operation κ)
  | execute (call : Nat) (now : Time)
  | fail (call : Nat) (rollback : Bool)
  | cancel (call : Nat)
  | close (client : Nat)

variable {κ : Type}

def older (row : Row κ) : Row (Entry κ) :=
  { id := row.id, content := ⟨none, 0, row.content⟩, consumerGroup := row.consumerGroup,
    claimedAt := row.claimedAt, ackedAt := row.ackedAt, deliveryCount := row.deliveryCount,
    nextDeliveryAt := row.nextDeliveryAt }

def initial (clients : Nat → Client) (tables : Tables κ) : State κ :=
  let stored : Tables (Entry κ) :=
    ⟨fun table => (tables.rows table).map older, tables.nextId⟩
  ⟨clients, stored, stored, []⟩

namespace Tables

def update (tables : Tables κ) (table : Str) (change : Table κ → Table κ) : Tables κ :=
  { tables with rows := Function.update tables.rows table (change (tables.rows table)) }

def execute (tables : Tables κ) (now : Time) : Query κ → Tables κ
  | .insert table content group =>
      { rows := Function.update tables.rows table
          (insertRow (tables.rows table) (tables.nextId table) content group now)
        nextId := Function.update tables.nextId table (tables.nextId table + 1) }
  | .claimMessage table id ackDeadline =>
      tables.update table (fun rows => claimMessage rows id now (now + ackDeadline))
  | .ackMessage table id => tables.update table (fun rows => ackMessage rows id now)
  | .nackMessage table id => tables.update table (fun rows => nackMessage rows id now)
  | .createTable _ | .createIndex _ | .commitTable _ | .selectPending _ _ _ | .commit => tables

end Tables

def ensureTable (client : Client) (table : Str) : List (Query κ) :=
  if client.autoCreateTables = false ∨ table ∈ client.tablesCreated then []
  else [.createTable table, .createIndex table, .commitTable table]

def queriesOf (client : Client) (call : Nat) (topic : Str) :
    Operation κ → List (Query (Entry κ))
  | .publish messages =>
      let table := client.tablePrefix ++ topic
      ensureTable client table ++
        messages.mapIdx (fun index message =>
          .insert table ⟨some call, index, message⟩ client.consumerGroup) ++ [.commit]
  | .subscribe => ensureTable client (client.tablePrefix ++ topic)
  | .poll => [.selectPending (client.tablePrefix ++ topic) client.consumerGroup client.batchSize]
  | .claim id => [.claimMessage (client.tablePrefix ++ topic) id client.ackDeadline, .commit]
  | .ack id => [.ackMessage (client.tablePrefix ++ topic) id, .commit]
  | .nack id => [.nackMessage (client.tablePrefix ++ topic) id, .commit]

def Operation.messages : Operation κ → List κ
  | .publish messages => messages
  | _ => []

def begun (client call : Nat) (fields : Client) (topic : Str) (operation : Operation κ) : Call κ :=
  let queries := queriesOf fields call topic operation
  ⟨client, operation.messages, queries, if queries.isEmpty then .returned else .running⟩

def refused (client : Nat) (operation : Operation κ) : Call κ :=
  ⟨client, operation.messages, [], .raised⟩

def start (s : State κ) (client : Nat) (topic : Str) (operation : Operation κ) :
    Option (State κ) :=
  let fields := s.clients client
  let call := begun client s.calls.length fields topic operation
  match operation with
  | .publish _ | .subscribe =>
      some { s with
        calls := s.calls ++ [if fields.closed then refused client operation else call] }
  | .poll => if fields.closed then none else some { s with calls := s.calls ++ [call] }
  | .claim _ | .ack _ | .nack _ => some { s with calls := s.calls ++ [call] }

def Call.proceed (call : Call κ) (rest : List (Query (Entry κ))) : Call κ :=
  match call.status with
  | .cancelled => { call with queries := [], status := .raised }
  | _ => { call with queries := rest, status := if rest.isEmpty then .returned else .running }

def Call.raise (call : Call κ) : Call κ := { call with queries := [], status := .raised }

/-- The clients after a commit: `_ensure_table` notes the table, unless its call was cancelled. -/
def ensured (clients : Nat → Client) (call : Call κ) (table : Str) : Nat → Client :=
  if call.status = .cancelled then clients
  else
    Function.update clients call.client
      { clients call.client with
        tablesCreated := table :: (clients call.client).tablesCreated }

def execute (s : State κ) (c : Nat) (call : Call κ) (query : Query (Entry κ))
    (rest : List (Query (Entry κ))) (now : Time) : State κ :=
  let calls := s.calls.set c (call.proceed rest)
  match query with
  | .commit => { s with committed := s.working, calls := calls }
  | .commitTable table =>
      { s with
        committed := s.working
        clients := ensured s.clients call table
        calls := calls }
  | _ => { s with working := s.working.execute now query, calls := calls }

/-- The query fails: the call raises, but for the index of `_ensure_table`. -/
def fail (s : State κ) (c : Nat) (call : Call κ) (query : Query (Entry κ))
    (rest : List (Query (Entry κ))) (rollback : Bool) : State κ :=
  { s with
    working := if rollback then s.committed else s.working
    calls := s.calls.set c
      (match query with
      | .createIndex _ => call.proceed rest
      | _ => call.raise) }

def step (s : State κ) : Event κ → Option (State κ)
  | .start client topic operation => start s client topic operation
  | .execute c now =>
      match s.calls[c]? with
      | some call =>
          match call.queries with
          | query :: rest => some (execute s c call query rest now)
          | [] => none
      | none => none
  | .fail c rollback =>
      match s.calls[c]? with
      | some call =>
          match call.queries with
          | query :: rest => some (fail s c call query rest rollback)
          | [] => none
      | none => none
  | .cancel c =>
      match s.calls[c]? with
      | some call =>
          if call.status = .running then
            some { s with calls := s.calls.set c { call with status := .cancelled } }
          else none
      | none => none
  | .close client =>
      some { s with
        clients := Function.update s.clients client { s.clients client with closed := true } }

inductive Taken (s : State κ) : Event κ → State κ → Prop where
  | start {client : Nat} {topic : Str} {operation : Operation κ} :
      Taken s (.start client topic operation)
        { s with
          calls := s.calls ++
            [begun client s.calls.length (s.clients client) topic operation] }
  | refused {client : Nat} {topic : Str} {operation : Operation κ}
      (closed : (s.clients client).closed = true) : Taken s (.start client topic operation)
        { s with calls := s.calls ++ [refused client operation] }
  | execute {c : Nat} {call : Call κ} {query : Query (Entry κ)} {rest : List (Query (Entry κ))}
      {now : Time} (found : s.calls[c]? = some call) (queue : call.queries = query :: rest) :
      Taken s (.execute c now) (execute s c call query rest now)
  | fail {c : Nat} {call : Call κ} {query : Query (Entry κ)} {rest : List (Query (Entry κ))}
      {rollback : Bool} (found : s.calls[c]? = some call) (queue : call.queries = query :: rest) :
      Taken s (.fail c rollback) (fail s c call query rest rollback)
  | cancel {c : Nat} {call : Call κ} (found : s.calls[c]? = some call)
      (running : call.status = .running) : Taken s (.cancel c)
        { s with calls := s.calls.set c { call with status := .cancelled } }
  | close {client : Nat} : Taken s (.close client)
      { s with
        clients := Function.update s.clients client { s.clients client with closed := true } }

section Taken

variable {s t : State κ}

theorem taken_of_start {client : Nat} {topic : Str} {operation : Operation κ}
    (taken : start s client topic operation = some t) :
    Taken s (.start client topic operation) t := by
  cases operation with
  | publish messages =>
      cases taken
      split
      · rename_i closed
        exact .refused closed
      · exact .start
  | subscribe =>
      cases taken
      split
      · rename_i closed
        exact .refused closed
      · exact .start
  | poll =>
      simp only [start] at taken
      split at taken
      · cases taken
      · cases taken
        exact .start
  | claim id =>
      cases taken
      exact .start
  | ack id =>
      cases taken
      exact .start
  | nack id =>
      cases taken
      exact .start

theorem taken_of_step {e : Event κ} (taken : step s e = some t) : Taken s e t := by
  cases e with
  | start client topic operation => exact taken_of_start taken
  | execute c now =>
      simp only [step] at taken
      split at taken
      · rename_i call found
        split at taken
        · rename_i query rest queue
          cases taken
          exact .execute found queue
        · cases taken
      · cases taken
  | fail c rollback =>
      simp only [step] at taken
      split at taken
      · rename_i call found
        split at taken
        · rename_i query rest queue
          cases taken
          exact .fail found queue
        · cases taken
      · cases taken
  | cancel c =>
      simp only [step] at taken
      split at taken
      · rename_i call found
        split at taken
        · rename_i running
          cases taken
          exact .cancel found running
        · cases taken
      · cases taken
  | close client =>
      cases taken
      exact .close

end Taken

end Natricine.Sql.Shared
