import Natricine.Library.Fallible
import Natricine.Library.JsonDumps
import Natricine.Library.Uuid
import Natricine.PubSub.Message
import Natricine.Sql.Dialect

namespace Natricine.Sql

open PubSub Text
open Json (Value Limits)

/-- What the iterator raises while it reads a row; `attributeError` is a method that a UUID does not
have. -/
inductive RowError where
  | loads (cause : Json.LoadsError)
  | unicodeEncodeError
  | valueError
  | attributeError
  deriving DecidableEq, Repr

/-- The parameters of `insert` that come from the message. -/
structure InsertParams where
  uuid : Str
  payload : Bytes
  metadata : Str

/-- A UUID column: `TEXT`, or `UUID`, which comes back as an instance. -/
inductive UuidColumn where
  | text (value : Str)
  | instance (value : BitVec 128)

inductive PayloadColumn where
  | text (value : Str)
  | bytes (value : Bytes)

structure Columns where
  uuid : UuidColumn
  payload : PayloadColumn
  metadata : Str

/-- What PostgreSQL does to the values of its own types: the UUID of a text, and how it writes
`JSONB`. -/
structure Server where
  uuid : Str → BitVec 128
  jsonb : Str → Str

structure Received where
  payload : Bytes
  metadata : Value
  uuid : BitVec 128

def insertParams (message : Content Str) : InsertParams :=
  ⟨Uuid.toStr message.uuid, message.payload, Json.dumps message.metadata⟩

/-- `create_table`, as far as it decides what the columns give back. -/
def stored (server : Server) (params : InsertParams) : Dialect → Columns
  | .sqlite => ⟨.text params.uuid, .bytes params.payload, params.metadata⟩
  | .postgres =>
      ⟨.instance (server.uuid params.uuid), .bytes params.payload, server.jsonb params.metadata⟩

/-- `json.loads(metadata_json) if metadata_json else {}` -/
def readMetadata (limits : Limits) (metadataJson : Str) : Except RowError Value :=
  if metadataJson = [] then .ok (.object [])
  else (Json.loads limits metadataJson).mapError .loads

def readPayload : PayloadColumn → Except RowError Bytes
  | .text value =>
      match encodeUtf8 value with
      | some bytes => .ok bytes
      | none => .error .unicodeEncodeError
  | .bytes value => .ok value

/-- `UUID(uuid_str) if uuid_str else uuid4()`; the constructor calls a method of text. -/
def readUuid (unicode : Uuid.Unicode) (uuid4 : BitVec 128) :
    UuidColumn → Except RowError (BitVec 128)
  | .text [] => .ok uuid4
  | .text value =>
      match Uuid.parse unicode value with
      | some uuid => .ok uuid
      | none => .error .valueError
  | .instance _ => .error .attributeError

/-- The message that `_subscribe_iter` builds of a row. -/
def readRow (unicode : Uuid.Unicode) (limits : Limits) (row : Columns) (uuid4 : BitVec 128) :
    Except RowError Received := do
  let metadata ← readMetadata limits row.metadata
  let payload ← readPayload row.payload
  let uuid ← readUuid unicode uuid4 row.uuid
  return ⟨payload, metadata, uuid⟩

/-- The iterator builds the message that was published. -/
def RoundTrips (unicode : Uuid.Unicode) (limits : Limits) (server : Server) (dialect : Dialect)
    (message : Content Str) (uuid4 : BitVec 128) : Prop :=
  ∃ received, readRow unicode limits (stored server (insertParams message) dialect) uuid4 =
      .ok received ∧
    received.payload = message.payload ∧ received.metadata.IsDict message.metadata ∧
    received.uuid = message.uuid

theorem readUuid_toStr (unicode : Uuid.Unicode) (uuid uuid4 : BitVec 128) :
    readUuid unicode uuid4 (.text (Uuid.toStr uuid)) = .ok uuid := by
  rw [readUuid, Uuid.parse_toStr]
  exact Uuid.toStr_ne_nil uuid

theorem readRow_instance (unicode : Uuid.Unicode) (limits : Limits) {row : Columns}
    {uuid : BitVec 128} (given : row.uuid = .instance uuid) (uuid4 : BitVec 128)
    (received : Received) : readRow unicode limits row uuid4 ≠ .ok received := by
  intro read
  rcases Fallible.bind_eq_ok_iff.mp read with ⟨metadata, -, read⟩
  rcases Fallible.bind_eq_ok_iff.mp read with ⟨payload, -, read⟩
  rcases Fallible.bind_eq_ok_iff.mp read with ⟨found, identified, -⟩
  rw [given] at identified
  cases identified

theorem roundTrips_sqlite (unicode : Uuid.Unicode) (limits : Limits) (server : Server)
    (message : Content Str) (uuid4 : BitVec 128)
    (undone : Json.loads limits (Json.dumps message.metadata) =
      .ok (Json.ofStrings message.metadata)) :
    RoundTrips unicode limits server .sqlite message uuid4 := by
  refine ⟨⟨message.payload, Json.ofStrings message.metadata, message.uuid⟩, ?_, rfl,
    Json.ofStrings_isDict message.metadata, rfl⟩
  have metadata : readMetadata limits (Json.dumps message.metadata) =
      .ok (Json.ofStrings message.metadata) := by
    have written : Json.dumps message.metadata ≠ [] := List.cons_ne_nil _ _
    rw [readMetadata, if_neg written, undone]
    rfl
  simp only [readRow, stored, insertParams, metadata, readPayload, readUuid_toStr,
    Fallible.ok_bind]
  rfl

/-- What is published round-trips through SQLite, and nothing does through PostgreSQL, whose driver
makes an instance of `UUID` where the iterator takes text. -/
theorem round_trips_iff (unicode : Uuid.Unicode) (limits : Limits) (server : Server)
    (dialect : Dialect) (message : Content Str) (uuid4 : BitVec 128)
    (undone : Json.loads limits (Json.dumps message.metadata) =
      .ok (Json.ofStrings message.metadata)) :
    RoundTrips unicode limits server dialect message uuid4 ↔ dialect = .sqlite := by
  cases dialect with
  | sqlite => exact iff_of_true (roundTrips_sqlite _ _ _ _ _ undone) rfl
  | postgres =>
      refine iff_of_false ?_ nofun
      rintro ⟨received, read, -⟩
      exact readRow_instance unicode limits rfl uuid4 received read

def sampleMessage : Content Str :=
  ⟨[0, 255], Dict.empty.set (ofString "trace") (ofString "a\"b"), 1⟩

theorem round_trips_sample :
    RoundTrips ⟨fun _ => false, fun _ => none⟩ ⟨1000, 4300⟩ ⟨fun _ => 1, id⟩ .sqlite
      sampleMessage 0 ↔ Dialect.sqlite = .sqlite :=
  round_trips_iff _ _ _ _ _ _ (Json.loads_dumps (by decide) _ (by decide))

/-- The same message with PostgreSQL is not built at all. -/
theorem not_roundTrips_sample :
    ¬RoundTrips ⟨fun _ => false, fun _ => none⟩ ⟨1000, 4300⟩ ⟨fun _ => 1, id⟩ .postgres
      sampleMessage 0 := by
  rintro ⟨received, read, -⟩
  exact readRow_instance _ _ rfl 0 received read

end Natricine.Sql
