import Natricine.Aws.Marshaling
import Natricine.Library.Fallible
import Natricine.Library.Json
import Natricine.Library.Uuid
import Natricine.PubSub.Message

/-! The rest of `marshaling.py`: message attributes, the envelope that SNS puts around a message,
and the messages that the subscribers make of what they receive. -/

namespace Natricine.Aws

open PubSub Text

/-- What unmarshalling raises; `attributeError` is a method that the value at hand does not have. -/
inductive UnmarshalError where
  | codec (cause : CodecError)
  | loads (cause : Json.LoadsError)
  | valueError
  | attributeError
  deriving DecidableEq, Repr

structure AttributeValue where
  dataType : Str
  stringValue : Option Str
  deriving DecidableEq, Repr

def defaultUuidAttr : Str := ofString "_natricine_message_uuid"

def deduplicationIdKey : Str := ofString "MessageDeduplicationId"

def groupIdKey : Str := ofString "MessageGroupId"

def stringAttribute (value : Str) : AttributeValue := ⟨ofString "String", some value⟩

structure Attributes where
  attrs : Dict Str AttributeValue
  deduplicationId : Option Str
  groupId : Option Str

def Attributes.add (made : Attributes) (entry : Str × Str) : Attributes :=
  if entry.1 = deduplicationIdKey then { made with deduplicationId := some entry.2 }
  else if entry.1 = groupIdKey then { made with groupId := some entry.2 }
  else { made with attrs := made.attrs.set entry.1 (stringAttribute entry.2) }

def toMessageAttributes (message : Content Str) (uuidAttr : Str) : Attributes :=
  message.metadata.entries.foldl Attributes.add
    ⟨Dict.empty.set uuidAttr (stringAttribute (Uuid.toStr message.uuid)), none, none⟩

/-- The arguments of `send_message`, or of `publish` to SNS, that make the message; an empty id is
left out. -/
structure PublishArgs where
  message : Str
  messageAttributes : Dict Str AttributeValue
  messageDeduplicationId : Option Str
  messageGroupId : Option Str

def publishArgs (message : Content Str) (uuidAttr : Str) : PublishArgs :=
  let made := toMessageAttributes message uuidAttr
  ⟨encodeMessageBody message.payload, made.attrs, made.deduplicationId.filter (· ≠ []),
    made.groupId.filter (· ≠ [])⟩

/-- A received message, with the keys that are there. -/
structure SqsMessage where
  body : Option Str
  messageAttributes : Option (Dict Str AttributeValue)

def PublishArgs.received (args : PublishArgs) : SqsMessage :=
  ⟨some args.message, some args.messageAttributes⟩

def uuidOf (unicode : Uuid.Unicode) (text : Str) : Except UnmarshalError (BitVec 128) :=
  Fallible.orRaise .valueError (Uuid.parse unicode text)

/-- The UUID in the text, or else what `uuid4()` draws. -/
def uuidOr (unicode : Uuid.Unicode) (text : Option Str) (uuid4 : BitVec 128) :
    Except UnmarshalError (BitVec 128) :=
  match text with
  | none | some [] => .ok uuid4
  | some text => uuidOf unicode text

def decodeBody (body : Str) : Except UnmarshalError Bytes :=
  (decodeMessageBody body false).mapError .codec

def fromSqsMessage (unicode : Uuid.Unicode) (uuidAttr : Str) (sqsMsg : SqsMessage)
    (uuid4 : BitVec 128) : Except UnmarshalError (Content Str) := do
  let attrs := sqsMsg.messageAttributes.getD .empty
  let uuid ← uuidOr unicode ((attrs.get? uuidAttr).bind AttributeValue.stringValue) uuid4
  let metadata := attrs.filterMap fun key value =>
    if key = uuidAttr then none else value.stringValue
  let payload ← decodeBody (sqsMsg.body.getD [])
  return ⟨payload, metadata, uuid⟩

section Envelope

open Json (Value Limits member?)

/-- `value.get(key, default)` -/
def getItem (value : Value) (key : Str) (default : Value) : Except UnmarshalError Value :=
  match value with
  | .object members => .ok ((member? members key).getD default)
  | _ => .error .attributeError

/-- `value.items()` -/
def items (value : Value) : Except UnmarshalError (List (Str × Value)) :=
  match value with
  | .object members => .ok members
  | _ => .error .attributeError

def isNotification : Value → Bool
  | .string text => text = ofString "Notification"
  | _ => false

def unwrapSnsEnvelope (limits : Limits) (body : Str) : Except UnmarshalError (Value × Value) :=
  match Json.loads limits body with
  | .error .jsonDecodeError => .ok (.string body, .object [])
  | .error cause => .error (.loads cause)
  | .ok envelope => do
      if isNotification (← getItem envelope (ofString "Type") .null) then
        return (← getItem envelope (ofString "Message") (.string []),
          ← getItem envelope (ofString "MessageAttributes") (.object []))
      else return (.string body, .object [])

/-- `UUID(value)` of a true value; the constructor calls a method of text. -/
def uuidOfValue (unicode : Uuid.Unicode) : Value → Except UnmarshalError (BitVec 128)
  | .string text => uuidOf unicode text
  | _ => .error .attributeError

def uuidOrValue (unicode : Uuid.Unicode) (value : Value) (uuid4 : BitVec 128) :
    Except UnmarshalError (BitVec 128) :=
  if value.IsTrue then uuidOfValue unicode value else .ok uuid4

/-- `decode_message_body`; what is not text has no `encode`. -/
def decodeValue : Value → Except UnmarshalError Bytes
  | .string text => decodeBody text
  | _ => .error .attributeError

def addAttribute (uuidAttr : Str) (metadata : Dict Str Value) (item : Str × Value) :
    Except UnmarshalError (Dict Str Value) :=
  if item.1 = uuidAttr then .ok metadata
  else do
    match ← getItem item.2 (ofString "Value") .null with
    | .null => return metadata
    | value => return metadata.set item.1 value

def fromSnsSqsMessage (unicode : Uuid.Unicode) (limits : Limits) (uuidAttr : Str)
    (sqsMsg : SqsMessage) (uuid4 : BitVec 128) : Except UnmarshalError (Content Value) := do
  let (innerBody, snsAttrs) ← unwrapSnsEnvelope limits (sqsMsg.body.getD [])
  let uuidAttrValue ← getItem snsAttrs uuidAttr (.object [])
  let uuidStr ← getItem uuidAttrValue (ofString "Value") .null
  let uuid ← uuidOrValue unicode uuidStr uuid4
  let metadata ← (← items snsAttrs).foldlM (addAttribute uuidAttr) .empty
  let payload ← decodeValue innerBody
  return ⟨payload, metadata, uuid⟩

end Envelope

/-- What `_subscribe_iter` yields of the messages that it receives, and what it raises; each message
comes with what `uuid4()` would draw for it. -/
def subscribeIter {ν : Type}
    (unmarshal : SqsMessage → BitVec 128 → Except UnmarshalError (Content ν)) :
    List (SqsMessage × BitVec 128) → List (Content ν) × Option UnmarshalError
  | [] => ([], none)
  | (sqsMsg, uuid4) :: rest =>
      match unmarshal sqsMsg uuid4 with
      | .error cause => ([], some cause)
      | .ok message =>
          (message :: (subscribeIter unmarshal rest).1, (subscribeIter unmarshal rest).2)

theorem uuidOr_text {unicode : Uuid.Unicode} {text : Str} (other : text ≠ [])
    (uuid4 : BitVec 128) : uuidOr unicode (some text) uuid4 = uuidOf unicode text := by
  cases text with
  | nil => exact absurd rfl other
  | cons c rest => rfl

theorem uuidOr_toStr (unicode : Uuid.Unicode) (uuid uuid4 : BitVec 128) :
    uuidOr unicode (some (Uuid.toStr uuid)) uuid4 = .ok uuid := by
  rw [uuidOr_text (Uuid.toStr_ne_nil uuid), uuidOf, Uuid.parse_toStr]
  rfl

theorem fromSqsMessage_eq_ok_iff {unicode : Uuid.Unicode} {uuidAttr : Str}
    {sqsMsg : SqsMessage} {uuid4 : BitVec 128} {message : Content Str} :
    fromSqsMessage unicode uuidAttr sqsMsg uuid4 = .ok message ↔
      uuidOr unicode (((sqsMsg.messageAttributes.getD .empty).get? uuidAttr).bind
        AttributeValue.stringValue) uuid4 = .ok message.uuid ∧
      message.metadata = (sqsMsg.messageAttributes.getD .empty).filterMap (fun key value =>
        if key = uuidAttr then none else value.stringValue) ∧
      decodeBody (sqsMsg.body.getD []) = .ok message.payload := by
  simp only [fromSqsMessage, Fallible.bind_eq_ok_iff]
  constructor
  · rintro ⟨uuid, identified, payload, decoded, same⟩
    cases same
    exact ⟨identified, rfl, decoded⟩
  · rintro ⟨identified, metadata, decoded⟩
    refine ⟨_, identified, _, decoded, ?_⟩
    rw [← metadata]
    rfl

theorem decodeBody_returns_iff {body : Str} :
    (∃ payload, decodeBody body = .ok payload) ↔ (encodeUtf8 body).isSome = true := by
  by_cases guessed : ∃ data, b64encode data = body
  · rcases guessed with ⟨data, rfl⟩
    refine iff_of_true ⟨data, ?_⟩ ?_
    · rw [decodeBody, decode_encoded]
      rfl
    · have text := decodeUtf8_ascii _ (Base64.encode_ascii data)
      rw [b64encode, encodeUtf8_of_decodeUtf8 _ _ text]
      rfl
  · have plain : ∀ data, b64encode data ≠ body := fun data same => guessed ⟨data, same⟩
    rw [decodeBody, decode_plain body plain, encodeText]
    cases encodeUtf8 body with
    | none => exact iff_of_false (by rintro ⟨_, same⟩; cases same) Bool.false_ne_true
    | some bytes => exact iff_of_true ⟨bytes, rfl⟩ rfl

theorem decodeBody_encoded (payload : Bytes) :
    ∃ decoded, decodeBody (encodeMessageBody payload) = .ok decoded := by
  rw [encodeMessageBody]
  split
  · rename_i text decoded
    rw [decodeBody_returns_iff, encodeUtf8_of_decodeUtf8 payload text decoded]
    rfl
  · refine ⟨payload, ?_⟩
    rw [decodeBody, decode_encoded]
    rfl

end Natricine.Aws
