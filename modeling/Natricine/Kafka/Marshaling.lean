import Natricine.Library.Fallible
import Natricine.Library.Uuid
import Natricine.PubSub.Message

/-! `marshaling.py` of the Kafka package: the headers of a record, and what is read from them. -/

namespace Natricine.Kafka

open PubSub Text

inductive HeaderError where
  | unicodeEncodeError
  | unicodeDecodeError
  | valueError
  deriving DecidableEq, Repr

abbrev Headers := List (Str × Bytes)

def defaultUuidHeader : Str := ofString "_natricine_message_uuid"

def encode (text : Str) : Except HeaderError Bytes :=
  Fallible.orRaise .unicodeEncodeError (encodeUtf8 text)

def decode (bytes : Bytes) : Except HeaderError Str :=
  Fallible.orRaise .unicodeDecodeError (decodeUtf8 bytes)

def uuidOf (unicode : Uuid.Unicode) (text : Str) : Except HeaderError (BitVec 128) :=
  Fallible.orRaise .valueError (Uuid.parse unicode text)

def toKafkaHeaders (message : Content Str) (uuidHeader : Str) : Except HeaderError Headers := do
  let uuid ← encode (Uuid.toStr message.uuid)
  let headers ← message.metadata.entries.mapM fun entry => do return (entry.1, ← encode entry.2)
  return (uuidHeader, uuid) :: headers

def readHeader (unicode : Uuid.Unicode) (uuidHeader : Str)
    (read : Option (BitVec 128) × Dict Str Str) (header : Str × Bytes) :
    Except HeaderError (Option (BitVec 128) × Dict Str Str) := do
  if header.1 = uuidHeader then return (some (← uuidOf unicode (← decode header.2)), read.2)
  else return (read.1, read.2.set header.1 (← decode header.2))

def fromKafkaHeaders (unicode : Uuid.Unicode) (headers : Headers) (uuidHeader : Str) :
    Except HeaderError (Option (BitVec 128) × Dict Str Str) :=
  headers.foldlM (readHeader unicode uuidHeader) (none, .empty)

/-- The headers of a message are read as its UUID and its metadata. -/
def HeadersKept (unicode : Uuid.Unicode) (message : Content Str) (uuidHeader : Str) : Prop :=
  ∃ headers, toKafkaHeaders message uuidHeader = .ok headers ∧
    fromKafkaHeaders unicode headers uuidHeader = .ok (some message.uuid, message.metadata)

theorem encode_eq_ok_iff {text : Str} {bytes : Bytes} :
    encode text = .ok bytes ↔ encodeUtf8 text = some bytes :=
  Fallible.orRaise_eq_ok_iff

theorem decode_encoded {text : Str} {bytes : Bytes} (encoded : encodeUtf8 text = some bytes) :
    decode bytes = .ok text := by
  rw [decode, decodeUtf8_of_encodeUtf8 encoded]
  rfl

theorem uuidOf_toStr (unicode : Uuid.Unicode) (uuid : BitVec 128) :
    uuidOf unicode (Uuid.toStr uuid) = .ok uuid := by
  rw [uuidOf, Uuid.parse_toStr]
  rfl

def IsHeader (entry : Str × Str) (header : Str × Bytes) : Prop :=
  header.1 = entry.1 ∧ encodeUtf8 entry.2 = some header.2

section Headers

variable {message : Content Str} {uuidHeader : Str} {headers rest : Headers}
  {entries : List (Str × Str)} {unicode : Uuid.Unicode}

theorem toKafkaHeaders_eq_ok_iff :
    toKafkaHeaders message uuidHeader = .ok headers ↔
      ∃ uuid rest, encodeUtf8 (Uuid.toStr message.uuid) = some uuid ∧
        List.Forall₂ IsHeader message.metadata.entries rest ∧
        headers = (uuidHeader, uuid) :: rest := by
  have header : ∀ (entry : Str × Str) (header : Str × Bytes),
      (do return (entry.1, ← encode entry.2)) = Except.ok header ↔ IsHeader entry header := by
    intro entry header
    rw [Fallible.bind_eq_ok_iff]
    constructor
    · rintro ⟨bytes, encoded, same⟩
      cases same
      exact ⟨rfl, encode_eq_ok_iff.mp encoded⟩
    · rintro ⟨key, encoded⟩
      exact ⟨header.2, encode_eq_ok_iff.mpr encoded, by rw [← key]; rfl⟩
  rw [toKafkaHeaders, Fallible.bind_eq_ok_iff]
  simp only [Fallible.bind_eq_ok_iff, Fallible.mapM_eq_ok_iff, header, encode_eq_ok_iff]
  constructor
  · rintro ⟨uuid, encoded, rest, each, same⟩
    exact ⟨uuid, rest, encoded, each, (Except.ok.inj same).symm⟩
  · rintro ⟨uuid, rest, encoded, each, rfl⟩
    exact ⟨uuid, encoded, rest, each, rfl⟩

theorem exists_headers_iff :
    (∃ rest, List.Forall₂ IsHeader entries rest) ↔
      ∀ entry ∈ entries, (encodeUtf8 entry.2).isSome = true := by
  induction entries with
  | nil => exact iff_of_true ⟨[], .nil⟩ (fun _ member => absurd member List.not_mem_nil)
  | cons entry later ih =>
      rw [List.forall_mem_cons, ← ih, Option.isSome_iff_exists]
      constructor
      · rintro ⟨_, each⟩
        rcases List.forall₂_cons_left_iff.mp each with ⟨header, rest, isHeader, others, -⟩
        exact ⟨⟨header.2, isHeader.2⟩, rest, others⟩
      · rintro ⟨⟨bytes, encoded⟩, rest, others⟩
        exact ⟨(entry.1, bytes) :: rest, .cons ⟨rfl, encoded⟩ others⟩

theorem readHeader_uuid {text : Str} {bytes : Bytes} {uuid : BitVec 128}
    (encoded : encodeUtf8 text = some bytes) (parsed : uuidOf unicode text = .ok uuid)
    (read : Option (BitVec 128) × Dict Str Str) :
    readHeader unicode uuidHeader read (uuidHeader, bytes) = .ok (some uuid, read.2) := by
  rw [readHeader, if_pos rfl, decode_encoded encoded]
  change uuidOf unicode text >>= _ = _
  rw [parsed]
  rfl

theorem readHeaders_metadata (each : List.Forall₂ IsHeader entries rest)
    (apart : uuidHeader ∉ entries.map Prod.fst) (uuid : Option (BitVec 128))
    (metadata : Dict Str Str) :
    rest.foldlM (readHeader unicode uuidHeader) (uuid, metadata) =
      .ok (uuid, metadata.setAll entries) := by
  induction each generalizing metadata with
  | nil => rfl
  | @cons entry header entries rest isHeader _ ih =>
      have other : header.1 ≠ uuidHeader := by
        intro same
        apply apart
        rw [← same, isHeader.1]
        exact List.mem_cons_self
      have turn : readHeader unicode uuidHeader (uuid, metadata) header =
          .ok (uuid, metadata.set entry.1 entry.2) := by
        rw [readHeader, if_neg other, decode_encoded isHeader.2, isHeader.1]
        rfl
      rw [List.foldlM_cons, turn]
      exact ih (fun member => apart (List.mem_cons_of_mem _ member)) _

theorem readHeaders_reserved {read final : Option (BitVec 128) × Dict Str Str}
    (absent : uuidHeader ∉ read.2.keys)
    (returned : headers.foldlM (readHeader unicode uuidHeader) read = .ok final) :
    uuidHeader ∉ final.2.keys := by
  induction headers generalizing read with
  | nil =>
      cases returned
      exact absent
  | cons header rest ih =>
      rw [List.foldlM_cons, Fallible.bind_eq_ok_iff] at returned
      rcases returned with ⟨next, turn, later⟩
      apply ih _ later
      rw [readHeader] at turn
      split at turn
      · simp only [Fallible.bind_eq_ok_iff] at turn
        rcases turn with ⟨text, -, uuid, -, same⟩
        cases same
        exact absent
      · rename_i other
        rw [Fallible.bind_eq_ok_iff] at turn
        rcases turn with ⟨text, -, same⟩
        cases same
        rw [Dict.mem_keys_set]
        rintro (here | before)
        · exact other here.symm
        · exact absent before

theorem not_headersKept_of_mem (reserved : uuidHeader ∈ message.metadata.keys) :
    ¬HeadersKept unicode message uuidHeader := by
  rintro ⟨headers, -, returned⟩
  exact readHeaders_reserved (List.not_mem_nil) returned reserved

end Headers

/-- The headers are read back just when no key of the metadata is the UUID header, whose value
would then be taken for the UUID, and all values have a UTF-8 form. -/
theorem headers_kept_iff (unicode : Uuid.Unicode) (message : Content Str) (uuidHeader : Str) :
    HeadersKept unicode message uuidHeader ↔
      uuidHeader ∉ message.metadata.keys ∧
        ∀ entry ∈ message.metadata.entries, (encodeUtf8 entry.2).isSome = true := by
  constructor
  · intro kept
    refine ⟨fun reserved => not_headersKept_of_mem reserved kept, ?_⟩
    rcases kept with ⟨headers, made, -⟩
    rcases toKafkaHeaders_eq_ok_iff.mp made with ⟨uuid, rest, -, each, -⟩
    exact exists_headers_iff.mp ⟨rest, each⟩
  · rintro ⟨apart, encodable⟩
    rcases Uuid.encodeUtf8_toStr message.uuid with ⟨uuid, encoded⟩
    rcases exists_headers_iff.mpr encodable with ⟨rest, each⟩
    have first : readHeader unicode uuidHeader (none, .empty) (uuidHeader, uuid) =
        .ok (some message.uuid, .empty) :=
      readHeader_uuid encoded (uuidOf_toStr unicode message.uuid) _
    refine ⟨(uuidHeader, uuid) :: rest, ?_, ?_⟩
    · exact toKafkaHeaders_eq_ok_iff.mpr ⟨uuid, rest, encoded, each, rfl⟩
    · rw [fromKafkaHeaders, List.foldlM_cons, first]
      change rest.foldlM (readHeader unicode uuidHeader) (some message.uuid, .empty) = _
      rw [readHeaders_metadata each apart, Dict.setAll_entries]

/-- Metadata with the key of the UUID header: the message does not come through. -/
theorem reserved_key_not_kept :
    ¬HeadersKept ⟨fun _ => false, fun _ => none⟩
      ⟨[], Dict.empty.set defaultUuidHeader (ofString "other"), 0⟩ defaultUuidHeader :=
  not_headersKept_of_mem (Dict.mem_keys_set.mpr (Or.inl rfl))

end Natricine.Kafka
