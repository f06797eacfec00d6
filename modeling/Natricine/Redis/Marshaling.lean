import Natricine.Library.Fallible
import Natricine.Library.Uuid
import Natricine.PubSub.Message

/-! The entry that `RedisStreamPublisher` makes of a message, and the message that `_parse_message`
makes of an entry. Msgpack enters as a pair of functions. -/

namespace Natricine.Redis

open PubSub Text

inductive EntryError where
  | unicodeEncodeError
  | unicodeDecodeError
  | unpack
  | valueError
  deriving DecidableEq, Repr

structure KeyNames where
  uuid : Str
  payload : Str
  metadata : Str

def defaultKeys : KeyNames :=
  ⟨ofString "_natricine_message_uuid", ofString "payload", ofString "metadata"⟩

/-- What is unpacked: text, or anything else with what `str` makes of it. -/
inductive Object where
  | text (value : Str)
  | other (shown : Str)

def Object.str : Object → Str
  | .text value | .other value => value

inductive Unpacked where
  | dict (items : List (Object × Object))
  | other

/-- `packb` of a dict of strings, and `unpackb`, which may raise. -/
structure Msgpack where
  packb : Dict Str Str → Bytes
  unpackb : Bytes → Option Unpacked

/-- A message as it is parsed; the UUID may be `None`. -/
structure Parsed where
  payload : Bytes
  metadata : Dict Str Str
  uuid : Option (BitVec 128)

inductive Field where
  | text (value : Str)
  | bytes (value : Bytes)

def uuidText : Option (BitVec 128) → Str
  | some uuid => Uuid.toStr uuid
  | none => ofString "None"

def publishFields (msgpack : Msgpack) (keys : KeyNames) (message : Parsed) : Dict Str Field :=
  let fields := (Dict.empty.set keys.uuid (.text (uuidText message.uuid))).set keys.payload
    (.bytes message.payload)
  if message.metadata.entries = [] then fields
  else fields.set keys.metadata (.bytes (msgpack.packb message.metadata))

def encode (text : Str) : Except EntryError Bytes :=
  Fallible.orRaise .unicodeEncodeError (encodeUtf8 text)

def decode (bytes : Bytes) : Except EntryError Str :=
  Fallible.orRaise .unicodeDecodeError (decodeUtf8 bytes)

def Field.encode : Field → Except EntryError Bytes
  | .text value => Redis.encode value
  | .bytes value => .ok value

/-- `publish`, to the pairs that the client sends. -/
def publish (msgpack : Msgpack) (keys : KeyNames) (message : Parsed) :
    Except EntryError (List (Bytes × Bytes)) :=
  (publishFields msgpack keys message).entries.mapM fun entry => do
    return (← encode entry.1, ← entry.2.encode)

def entryOf (pairs : List (Bytes × Bytes)) : Dict Bytes Bytes := Dict.empty.setAll pairs

/-- `{k.decode(): v for k, v in fields.items()}` -/
def decodeKeys (fields : Dict Bytes Bytes) : Except EntryError (Dict Str Bytes) := do
  return Dict.empty.setAll (← fields.entries.mapM fun entry => do
    return (← decode entry.1, entry.2))

def unpackMetadata (msgpack : Msgpack) (raw : Option Bytes) :
    Except EntryError (Dict Str Str) :=
  match raw with
  | none | some [] => .ok .empty
  | some raw =>
      match msgpack.unpackb raw with
      | none => .error .unpack
      | some .other => .ok .empty
      | some (.dict items) =>
          .ok (Dict.empty.setAll (items.map fun item => (item.1.str, item.2.str)))

/-- `UUID(uuid_str) if uuid_str else None` -/
def parseUuid (unicode : Uuid.Unicode) (uuidStr : Str) :
    Except EntryError (Option (BitVec 128)) :=
  if uuidStr = [] then .ok none
  else (Fallible.orRaise .valueError (Uuid.parse unicode uuidStr)).map some

/-- `_parse_message`, once the keys are decoded. -/
def parseFields (msgpack : Msgpack) (unicode : Uuid.Unicode) (keys : KeyNames)
    (decoded : Dict Str Bytes) : Except EntryError Parsed := do
  let uuidStr ← decode ((decoded.get? keys.uuid).getD [])
  let metadata ← unpackMetadata msgpack (decoded.get? keys.metadata)
  let uuid ← parseUuid unicode uuidStr
  return ⟨(decoded.get? keys.payload).getD [], metadata, uuid⟩

def parseMessage (msgpack : Msgpack) (unicode : Uuid.Unicode) (keys : KeyNames)
    (fields : Dict Bytes Bytes) : Except EntryError Parsed := do
  parseFields msgpack unicode keys (← decodeKeys fields)

theorem encode_eq_ok_iff {text : Str} {bytes : Bytes} :
    encode text = .ok bytes ↔ encodeUtf8 text = some bytes :=
  Fallible.orRaise_eq_ok_iff

theorem decode_encoded {text : Str} {bytes : Bytes} (encoded : encodeUtf8 text = some bytes) :
    decode bytes = .ok text := by
  rw [decode, decodeUtf8_of_encodeUtf8 encoded]
  rfl

def IsPair (entry : Str × Field) (pair : Bytes × Bytes) : Prop :=
  encodeUtf8 entry.1 = some pair.1 ∧ entry.2.encode = .ok pair.2

section Published

variable {msgpack : Msgpack} {unicode : Uuid.Unicode} {keys : KeyNames} {message : Parsed}
  {entries : List (Str × Field)} {pairs : List (Bytes × Bytes)}

theorem publish_eq_ok_iff :
    publish msgpack keys message = .ok pairs ↔
      List.Forall₂ IsPair (publishFields msgpack keys message).entries pairs := by
  have pair : ∀ (entry : Str × Field) (pair : Bytes × Bytes),
      (do return (← encode entry.1, ← entry.2.encode)) = Except.ok pair ↔ IsPair entry pair := by
    intro entry pair
    simp only [Fallible.bind_eq_ok_iff, encode_eq_ok_iff, IsPair]
    constructor
    · rintro ⟨key, encoded, value, given, same⟩
      cases same
      exact ⟨encoded, given⟩
    · rintro ⟨encoded, given⟩
      exact ⟨_, encoded, _, given, rfl⟩
  rw [publish, Fallible.mapM_eq_ok_iff]
  simp only [pair]

def Field.arrived (field : Field) : Option Bytes := field.encode.toOption

theorem decode_pairs (each : List.Forall₂ IsPair entries pairs) :
    (pairs.mapM fun pair => do return (← decode pair.1, pair.2)) =
      Except.ok (ε := EntryError) (entries.filterMap fun entry =>
        entry.2.arrived.map (entry.1, ·)) := by
  induction each with
  | nil => rfl
  | @cons entry pair entries pairs here later ih =>
      have arrived : entry.2.arrived = some pair.2 := by
        rw [Field.arrived, here.2]
        rfl
      rw [List.mapM_cons, decode_encoded here.1, ih,
        List.filterMap_cons_some (by rw [arrived]; rfl)]
      rfl

theorem distinct_pairs (each : List.Forall₂ IsPair entries pairs)
    (distinct : (entries.map Prod.fst).Nodup) : (pairs.map Prod.fst).Nodup := by
  have decoded : (pairs.map Prod.fst).map decodeUtf8 = (entries.map Prod.fst).map some := by
    induction each with
    | nil => rfl
    | cons here later ih =>
        simp only [List.map_cons, decodeUtf8_of_encodeUtf8 here.1]
        rw [ih (List.nodup_cons.mp distinct).2]
  apply List.Nodup.of_map decodeUtf8
  rw [decoded]
  exact distinct.map (Option.some_injective _)

theorem parseMessage_published (published : publish msgpack keys message = .ok pairs) :
    parseMessage msgpack unicode keys (entryOf pairs) =
      parseFields msgpack unicode keys
        ((publishFields msgpack keys message).filterMap fun _ field => field.arrived) := by
  have each := publish_eq_ok_iff.mp published
  have distinct := distinct_pairs each (publishFields msgpack keys message).distinct
  have entries : (entryOf pairs).entries = pairs := Dict.entries_setAll_of_fresh distinct
  rw [parseMessage, decodeKeys, entries, decode_pairs each]
  rfl

theorem get?_publishFields {key : Str} :
    (publishFields msgpack keys message).get? key =
      if key = keys.metadata ∧ message.metadata.entries ≠ [] then
        some (.bytes (msgpack.packb message.metadata))
      else if key = keys.payload then some (.bytes message.payload)
      else if key = keys.uuid then some (.text (uuidText message.uuid))
      else none := by
  rw [publishFields]
  by_cases empty : message.metadata.entries = []
  · simp only [empty, ne_eq, not_true_eq_false, and_false, if_false, if_true, Dict.get?_set]
    rfl
  · simp only [empty, ne_eq, not_false_eq_true, and_true, if_false, Dict.get?_set]
    rfl

theorem parseFields_congr {decoded other : Dict Str Bytes}
    (same : ∀ key, decoded.get? key = other.get? key) :
    parseFields msgpack unicode keys decoded = parseFields msgpack unicode keys other := by
  simp only [parseFields, same]

end Published

/-- Unpacking undoes packing, and what is empty cannot be unpacked. -/
structure Msgpack.Undoes (msgpack : Msgpack) : Prop where
  packb : ∀ d : Dict Str Str, msgpack.unpackb (msgpack.packb d) =
    some (.dict (d.entries.map fun entry => (.text entry.1, .text entry.2)))
  empty : msgpack.unpackb [] = none

structure KeyNames.Separate (keys : KeyNames) : Prop where
  uuid_payload : keys.uuid ≠ keys.payload
  uuid_metadata : keys.uuid ≠ keys.metadata
  payload_metadata : keys.payload ≠ keys.metadata

/-- The names have UTF-8 forms. -/
structure KeyNames.Encode (keys : KeyNames) : Prop where
  uuid : ∃ bytes, encodeUtf8 keys.uuid = some bytes
  payload : ∃ bytes, encodeUtf8 keys.payload = some bytes
  metadata : ∃ bytes, encodeUtf8 keys.metadata = some bytes

/-- The entry has a field for the UUID, and something in it. -/
def HasUuid (keys : KeyNames) (fields : Dict Bytes Bytes) : Prop :=
  ∃ name value, encodeUtf8 keys.uuid = some name ∧ fields.get? name = some value ∧ value ≠ []

/-- The message has a UUID, and is what is parsed of the entry that it is published as. -/
def Relays (msgpack : Msgpack) (unicode : Uuid.Unicode) (keys : KeyNames) (message : Parsed) :
    Prop :=
  message.uuid ≠ none ∧ ∃ pairs, publish msgpack keys message = .ok pairs ∧
    parseMessage msgpack unicode keys (entryOf pairs) = .ok message

def parsedOf (message : Content Str) : Parsed :=
  ⟨message.payload, message.metadata, some message.uuid⟩

section Relay

variable {msgpack : Msgpack} {unicode : Uuid.Unicode} {keys : KeyNames} {message : Parsed}
  {uuid : BitVec 128}

theorem unpackMetadata_packb (undoes : msgpack.Undoes) (metadata : Dict Str Str) :
    unpackMetadata msgpack (some (msgpack.packb metadata)) = .ok metadata := by
  have unpacked := undoes.packb metadata
  cases packed : msgpack.packb metadata with
  | nil =>
      rw [packed, undoes.empty] at unpacked
      cases unpacked
  | cons byte rest =>
      rw [packed] at unpacked
      rw [unpackMetadata, unpacked]
      · simp only [List.map_map, Function.comp_def, Object.str, Prod.mk.eta, List.map_id']
        exact congrArg Except.ok (Dict.setAll_entries metadata)
      · exact List.cons_ne_nil byte rest

theorem parseUuid_toStr : parseUuid unicode (Uuid.toStr uuid) = .ok (some uuid) := by
  rw [parseUuid, if_neg (Uuid.toStr_ne_nil uuid), Uuid.parse_toStr]
  rfl

theorem encode_uuidText (uuid : BitVec 128) :
    ∃ bytes, encodeUtf8 (Uuid.toStr uuid) = some bytes ∧
      (Field.text (uuidText (some uuid))).encode = .ok bytes := by
  rcases Uuid.encodeUtf8_toStr uuid with ⟨bytes, encoded⟩
  refine ⟨bytes, encoded, ?_⟩
  rw [Field.encode, uuidText]
  exact encode_eq_ok_iff.mpr encoded

theorem publish_returns (encode : keys.Encode) (given : message.uuid = some uuid) :
    ∃ pairs, publish msgpack keys message = .ok pairs := by
  apply Fallible.mapM_returns_iff.mpr
  rintro ⟨key, field⟩ member
  have found := Dict.get?_eq_some_iff.mpr member
  have sends : ∀ {name}, (∃ bytes, encodeUtf8 name = some bytes) →
      (∃ bytes, field.encode = .ok bytes) →
      Fallible.Returns (do return (← Redis.encode name, ← field.encode)) := by
    rintro name ⟨bytes, encoded⟩ ⟨value, sent⟩
    rw [encode_eq_ok_iff.mpr encoded, sent]
    exact ⟨_, rfl⟩
  rw [get?_publishFields, given] at found
  split at found
  · rename_i here
    cases found
    exact sends (here.1 ▸ encode.metadata) ⟨_, rfl⟩
  · split at found
    · rename_i here
      cases found
      exact sends (here ▸ encode.payload) ⟨_, rfl⟩
    · split at found
      · rename_i here
        cases found
        rcases encode_uuidText uuid with ⟨bytes, -, sent⟩
        exact sends (here ▸ encode.uuid) ⟨bytes, sent⟩
      · cases found

theorem relays_of_separate (undoes : msgpack.Undoes) (separate : keys.Separate)
    (encode : keys.Encode) (given : message.uuid = some uuid) :
    Relays msgpack unicode keys message := by
  refine ⟨by rw [given]; exact Option.some_ne_none uuid, ?_⟩
  rcases publish_returns encode given with ⟨pairs, published⟩
  refine ⟨pairs, published, ?_⟩
  rcases encode_uuidText uuid with ⟨bytes, encoded, sent⟩
  have uuidField : ((publishFields msgpack keys message).filterMap fun _ field =>
      field.arrived).get? keys.uuid = some bytes := by
    rw [Dict.get?_filterMap, get?_publishFields, if_neg (fun here => separate.uuid_metadata here.1),
      if_neg separate.uuid_payload, if_pos rfl, given, Option.bind_some, Field.arrived, sent]
    rfl
  have payloadField : ((publishFields msgpack keys message).filterMap fun _ field =>
      field.arrived).get? keys.payload = some message.payload := by
    rw [Dict.get?_filterMap, get?_publishFields,
      if_neg (fun here => separate.payload_metadata here.1), if_pos rfl]
    rfl
  have metadata : unpackMetadata msgpack (((publishFields msgpack keys message).filterMap
      fun _ field => field.arrived).get? keys.metadata) = .ok message.metadata := by
    rw [Dict.get?_filterMap, get?_publishFields]
    by_cases empty : message.metadata.entries = []
    · rw [if_neg (fun here => here.2 empty), if_neg separate.payload_metadata.symm,
        if_neg separate.uuid_metadata.symm]
      exact congrArg Except.ok (Dict.eq_of_entries empty.symm)
    · rw [if_pos ⟨rfl, empty⟩]
      exact unpackMetadata_packb undoes message.metadata
  rw [parseMessage_published published, parseFields, uuidField, payloadField]
  simp only [Option.getD_some, decode_encoded encoded, metadata, parseUuid_toStr, Fallible.ok_bind]
  rw [← given]
  rfl

theorem eq_of_fields {first second : Content Str}
    (relays : ∀ content, Relays msgpack unicode keys (parsedOf content))
    (same : ∀ key, (publishFields msgpack keys (parsedOf first)).get? key =
      (publishFields msgpack keys (parsedOf second)).get? key) :
    parsedOf first = parsedOf second := by
  rcases relays first with ⟨-, pairs, published, parsed⟩
  rcases relays second with ⟨-, others, republished, reparsed⟩
  rw [parseMessage_published published] at parsed
  rw [parseMessage_published republished] at reparsed
  have congr : parseFields msgpack unicode keys
      ((publishFields msgpack keys (parsedOf first)).filterMap fun _ field => field.arrived) =
      parseFields msgpack unicode keys
        ((publishFields msgpack keys (parsedOf second)).filterMap fun _ field =>
          field.arrived) := by
    apply parseFields_congr
    intro key
    rw [Dict.get?_filterMap, Dict.get?_filterMap, same]
  rw [congr, reparsed] at parsed
  exact (Except.ok.inj parsed).symm

def fullMessage (payload : Bytes) (uuid : BitVec 128) : Content Str :=
  ⟨payload, Dict.empty.set [] [], uuid⟩

theorem get?_fullMessage {payload : Bytes} {key : Str} :
    (publishFields msgpack keys (parsedOf (fullMessage payload uuid))).get? key =
      if key = keys.metadata then some (.bytes (msgpack.packb (Dict.empty.set [] [])))
      else if key = keys.payload then some (.bytes payload)
      else if key = keys.uuid then some (.text (uuidText (some uuid)))
      else none := by
  have metadata : (parsedOf (fullMessage payload uuid)).metadata.entries ≠ [] :=
    List.cons_ne_nil _ _
  rw [get?_publishFields]
  simp only [metadata, ne_eq, not_false_eq_true, and_true]
  rfl

theorem separate_of_relays
    (relays : ∀ content, Relays msgpack unicode keys (parsedOf content)) : keys.Separate := by
  have uuids : parsedOf (fullMessage [] 0) ≠ parsedOf (fullMessage [] 1) := by
    intro same
    exact absurd (congrArg Parsed.uuid same) (by decide)
  have payloads : parsedOf (fullMessage [] 0) ≠ parsedOf (fullMessage [0] 0) := by
    intro same
    exact absurd (congrArg Parsed.payload same) (by decide)
  -- with two names the same, one field takes the place of another
  refine ⟨fun same => uuids (eq_of_fields relays fun key => ?_),
    fun same => uuids (eq_of_fields relays fun key => ?_),
    fun same => payloads (eq_of_fields relays fun key => ?_)⟩
  · rw [get?_fullMessage, get?_fullMessage, same]
    by_cases here : key = keys.payload
    · simp only [if_pos here]
    · simp only [if_neg here]
  · rw [get?_fullMessage, get?_fullMessage, same]
    by_cases here : key = keys.metadata
    · simp only [if_pos here]
    · simp only [if_neg here]
  · rw [get?_fullMessage, get?_fullMessage, same]
    by_cases here : key = keys.metadata
    · simp only [if_pos here]
    · simp only [if_neg here]

theorem encode_of_relays
    (relays : ∀ content, Relays msgpack unicode keys (parsedOf content)) : keys.Encode := by
  rcases relays (fullMessage [] 0) with ⟨-, pairs, published, -⟩
  have encodes : ∀ key field,
      (publishFields msgpack keys (parsedOf (fullMessage [] 0))).get? key = some field →
      ∃ bytes, encodeUtf8 key = some bytes := by
    intro key field found
    have returned := Fallible.mapM_returns_iff.mp ⟨pairs, published⟩ _
      (Dict.get?_eq_some_iff.mp found)
    rcases Fallible.returns_bind_iff.mp returned with ⟨bytes, encoded, -⟩
    exact ⟨bytes, encode_eq_ok_iff.mp encoded⟩
  have separate := separate_of_relays relays
  refine ⟨encodes keys.uuid (.text (uuidText (some 0))) ?_, encodes keys.payload (.bytes []) ?_,
    encodes keys.metadata (.bytes (msgpack.packb (Dict.empty.set [] []))) ?_⟩
  · rw [get?_fullMessage, if_neg separate.uuid_metadata, if_neg separate.uuid_payload, if_pos rfl]
  · rw [get?_fullMessage, if_neg separate.payload_metadata, if_pos rfl]
  · rw [get?_fullMessage, if_pos rfl]

end Relay

section Entries

variable {msgpack : Msgpack} {unicode : Uuid.Unicode} {keys : KeyNames} {message : Parsed}
  {fields : Dict Bytes Bytes} {decoded : Dict Str Bytes}

theorem decode_eq_ok_iff {bytes : Bytes} {text : Str} :
    decode bytes = .ok text ↔ encodeUtf8 text = some bytes := by
  rw [decode, Fallible.orRaise_eq_ok_iff]
  constructor
  · exact encodeUtf8_of_decodeUtf8 bytes text
  · exact fun encoded => decodeUtf8_of_encodeUtf8 encoded

theorem encodeUtf8_inj {first second : Str} {bytes : Bytes}
    (encoded : encodeUtf8 first = some bytes) (other : encodeUtf8 second = some bytes) :
    first = second :=
  Option.some.inj ((decodeUtf8_of_encodeUtf8 encoded).symm.trans (decodeUtf8_of_encodeUtf8 other))

theorem get?_decodeKeys (read : decodeKeys fields = .ok decoded) {key : Str} {value : Bytes} :
    decoded.get? key = some value ↔
      ∃ name, encodeUtf8 key = some name ∧ fields.get? name = some value := by
  rcases Fallible.bind_eq_ok_iff.mp read with ⟨pairs, mapped, made⟩
  have shape : pairs.map (fun pair => (encodeUtf8 pair.1, pair.2)) =
      fields.entries.map (fun entry => (some entry.1, entry.2)) := by
    have each := Fallible.mapM_eq_ok_iff.mp mapped
    generalize fields.entries = entries at each
    clear mapped made
    induction each with
    | nil => rfl
    | cons here later ih =>
        rcases Fallible.bind_eq_ok_iff.mp here with ⟨text, decoded, same⟩
        cases same
        simp only [List.map_cons, decode_eq_ok_iff.mp decoded, ih]
  have distinct : (pairs.map Prod.fst).Nodup := by
    apply List.Nodup.of_map encodeUtf8
    have names := congrArg (List.map Prod.fst) shape
    simp only [List.map_map, Function.comp_def] at names
    rw [List.map_map, Function.comp_def, names]
    have some_ := fields.distinct.map (Option.some_injective Bytes)
    rw [List.map_map] at some_
    exact some_
  have entries : decoded.entries = pairs := by
    cases made
    exact Dict.entries_setAll_of_fresh distinct
  simp only [Dict.get?_eq_some_iff, entries]
  constructor
  · intro member
    have there := List.mem_map_of_mem (f := fun pair => (encodeUtf8 pair.1, pair.2)) member
    rw [shape] at there
    rcases List.mem_map.mp there with ⟨entry, inside, same⟩
    cases (Prod.mk.inj same).2
    exact ⟨entry.1, (Prod.mk.inj same).1.symm, inside⟩
  · rintro ⟨name, encoded, member⟩
    have there := List.mem_map_of_mem (f := fun entry => (some entry.1, entry.2)) member
    rw [← shape] at there
    rcases List.mem_map.mp there with ⟨pair, inside, same⟩
    have parts := Prod.mk.inj same
    have given : pair.2 = value := parts.2
    rw [encodeUtf8_inj encoded parts.1, ← given]
    exact inside

theorem uuid_of_accepted (accepted : parseMessage msgpack unicode keys fields = .ok message) :
    message.uuid ≠ none ↔ HasUuid keys fields := by
  rcases Fallible.bind_eq_ok_iff.mp accepted with ⟨decoded, read, accepted⟩
  rcases Fallible.bind_eq_ok_iff.mp accepted with ⟨uuidStr, text, accepted⟩
  rcases Fallible.bind_eq_ok_iff.mp accepted with ⟨metadata, -, accepted⟩
  rcases Fallible.bind_eq_ok_iff.mp accepted with ⟨uuid, identified, same⟩
  cases same
  have hasUuid : HasUuid keys fields ↔ (decoded.get? keys.uuid).getD [] ≠ [] := by
    constructor
    · rintro ⟨name, value, encoded, found, other⟩
      rw [(get?_decodeKeys read).mpr ⟨name, encoded, found⟩]
      exact other
    · intro other
      cases found : decoded.get? keys.uuid with
      | none =>
          rw [found] at other
          exact absurd rfl other
      | some value =>
          rw [found] at other
          rcases (get?_decodeKeys read).mp found with ⟨name, encoded, here⟩
          exact ⟨name, value, encoded, here, other⟩
  have encoded := decode_eq_ok_iff.mp text
  rw [hasUuid]
  by_cases empty : uuidStr = []
  · rw [parseUuid, if_pos empty] at identified
    cases identified
    rw [empty] at encoded
    exact iff_of_false (fun other => other rfl) (fun other => other (Option.some.inj encoded).symm)
  · rw [parseUuid, if_neg empty] at identified
    have some_ : uuid ≠ none := by
      cases parsed : Uuid.parse unicode uuidStr with
      | none =>
          rw [parsed] at identified
          cases identified
      | some value =>
          rw [parsed] at identified
          cases identified
          exact Option.some_ne_none _
    refine iff_of_true some_ (fun none => empty ?_)
    rw [none] at encoded
    exact encodeUtf8_inj encoded rfl

end Entries

/-- Entries are relayed as they are, and messages come back as they were, just when the names of the
fields differ and have UTF-8 forms, and the entry has a UUID: for one that has none, none is
made. -/
theorem relay_stable_iff (msgpack : Msgpack) (undoes : msgpack.Undoes) (unicode : Uuid.Unicode)
    (keys : KeyNames) (fields : Dict Bytes Bytes) (message : Parsed)
    (accepted : parseMessage msgpack unicode keys fields = .ok message) :
    (Relays msgpack unicode keys message ∧
        ∀ content, Relays msgpack unicode keys (parsedOf content)) ↔
      keys.Separate ∧ keys.Encode ∧ HasUuid keys fields := by
  constructor
  · rintro ⟨⟨identified, -⟩, relays⟩
    exact ⟨separate_of_relays relays, encode_of_relays relays,
      (uuid_of_accepted accepted).mp identified⟩
  · rintro ⟨separate, encode, hasUuid⟩
    rcases Option.ne_none_iff_exists'.mp ((uuid_of_accepted accepted).mpr hasUuid) with
      ⟨uuid, given⟩
    exact ⟨relays_of_separate undoes separate encode given,
      fun content => relays_of_separate undoes separate encode rfl⟩

section Sample

def packText (text : Str) : Bytes :=
  text.flatMap (fun c => [1, .ofNat (c.val / 65536), .ofNat (c.val / 256), .ofNat c.val]) ++ [0]

def unpackTexts : Bytes → List Str
  | 0 :: rest => [] :: unpackTexts rest
  | 1 :: a :: b :: c :: rest =>
      match unpackTexts rest with
      | text :: texts =>
          (⟨(a.toNat * 65536 + b.toNat * 256 + c.toNat) % 0x110000, by omega⟩ :: text) :: texts
      | [] => []
  | _ => []

def pairUp : List Str → List (Object × Object)
  | key :: value :: rest => (.text key, .text value) :: pairUp rest
  | _ => []

def sampleMsgpack : Msgpack where
  packb d := 0x80 :: d.entries.flatMap (fun entry => packText entry.1 ++ packText entry.2)
  unpackb
    | 0x80 :: rest => some (.dict (pairUp (unpackTexts rest)))
    | _ => none

theorem unpackTexts_packText (text : Str) (rest : Bytes) :
    unpackTexts (packText text ++ rest) = text :: unpackTexts rest := by
  induction text with
  | nil => rfl
  | cons c text ih =>
      have whole : packText (c :: text) ++ rest = 1 :: .ofNat (c.val / 65536) ::
          .ofNat (c.val / 256) :: .ofNat c.val :: (packText text ++ rest) := by
        simp [packText]
      rw [whole, unpackTexts, ih]
      refine congrArg (fun point => (point :: text) :: unpackTexts rest) (Fin.ext ?_)
      simp only [UInt8.toNat_ofNat']
      omega

theorem sampleMsgpack_undoes : sampleMsgpack.Undoes where
  packb d := by
    have texts : ∀ entries : List (Str × Str),
        pairUp (unpackTexts (entries.flatMap fun entry =>
          packText entry.1 ++ packText entry.2)) =
          entries.map (fun entry => (Object.text entry.1, Object.text entry.2)) := by
      intro entries
      induction entries with
      | nil => rfl
      | cons entry rest ih =>
          calc
            _ = pairUp (entry.1 :: entry.2 :: unpackTexts (rest.flatMap fun entry =>
                packText entry.1 ++ packText entry.2)) := by
              rw [List.flatMap_cons, List.append_assoc, unpackTexts_packText, unpackTexts_packText]
            _ = (Object.text entry.1, Object.text entry.2) :: rest.map (fun entry =>
                (Object.text entry.1, Object.text entry.2)) := by
              rw [pairUp, ih]
    exact congrArg (fun items => some (Unpacked.dict items)) (texts d.entries)
  empty := rfl

def foreignEntry : Dict Bytes Bytes := Dict.empty.set [112, 97, 121, 108, 111, 97, 100] [1]

theorem foreign_accepted (msgpack : Msgpack) (unicode : Uuid.Unicode) :
    parseMessage msgpack unicode defaultKeys foreignEntry = .ok ⟨[1], .empty, none⟩ := by
  have name : decode [112, 97, 121, 108, 111, 97, 100] = .ok (ofString "payload") := by
    have ascii : Ascii [112, 97, 121, 108, 111, 97, 100] := by simp [Ascii]
    rw [decode, decodeUtf8_ascii _ ascii]
    rfl
  have keys : decodeKeys foreignEntry = .ok (Dict.empty.set (ofString "payload") [1]) := by
    change ((do return Dict.empty.setAll (← [_].mapM _)) : Except EntryError _) = _
    rw [List.mapM_cons, name]
    rfl
  have empty : decode [] = .ok [] := decode_encoded rfl
  rw [parseMessage, keys, Fallible.ok_bind, parseFields]
  have uuid : (Dict.empty.set (ofString "payload") ([1] : Bytes)).get? defaultKeys.uuid = none := by
    decide
  rw [uuid, Option.getD_none, empty]
  rfl

theorem relay_stable_foreign :
    (Relays sampleMsgpack ⟨fun _ => false, fun _ => none⟩ defaultKeys ⟨[1], .empty, none⟩ ∧
        ∀ content, Relays sampleMsgpack ⟨fun _ => false, fun _ => none⟩ defaultKeys
          (parsedOf content)) ↔
      defaultKeys.Separate ∧ defaultKeys.Encode ∧ HasUuid defaultKeys foreignEntry :=
  relay_stable_iff sampleMsgpack sampleMsgpack_undoes _ defaultKeys foreignEntry _
    (foreign_accepted sampleMsgpack _)

/-- The message of that entry has no UUID. -/
theorem foreign_not_relayed :
    ∃ message, parseMessage sampleMsgpack ⟨fun _ => false, fun _ => none⟩ defaultKeys foreignEntry =
        .ok message ∧
      ¬Relays sampleMsgpack ⟨fun _ => false, fun _ => none⟩ defaultKeys message :=
  ⟨_, foreign_accepted _ _, fun relays => relays.1 rfl⟩

end Sample

end Natricine.Redis
