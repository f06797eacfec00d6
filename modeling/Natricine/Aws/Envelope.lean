import Natricine.Aws.Messages

namespace Natricine.Aws

open PubSub Text
open Json (Value Limits member?)

def envelopeAttribute (value : AttributeValue) : Value :=
  .object ((ofString "Type", .string value.dataType) ::
    value.stringValue.toList.map (fun text => (ofString "Value", .string text)))

/-- The members of the envelope that SNS makes of what is published, beside others. -/
structure Notifies (members : List (Str × Value)) (args : PublishArgs) : Prop where
  type : member? members (ofString "Type") = some (.string (ofString "Notification"))
  message : member? members (ofString "Message") = some (.string args.message)
  attributes : member? members (ofString "MessageAttributes") =
    some (.object (args.messageAttributes.mapValues envelopeAttribute).entries)

def jsonContent (message : Content Str) : Content Value :=
  ⟨message.payload, message.metadata.mapValues .string, message.uuid⟩

section Unwrap

variable {limits : Limits} {body : Str} {members : List (Str × Value)} {args : PublishArgs}

theorem unwrap_envelope (parsed : Json.loads limits body = .ok (.object members))
    (envelope : Notifies members args) :
    unwrapSnsEnvelope limits body =
      .ok (.string args.message,
        .object (args.messageAttributes.mapValues envelopeAttribute).entries) := by
  have type : getItem (.object members) (ofString "Type") .null =
      .ok (.string (ofString "Notification")) := by
    rw [getItem, envelope.type]
    rfl
  have message : getItem (.object members) (ofString "Message") (.string []) =
      .ok (.string args.message) := by
    rw [getItem, envelope.message]
    rfl
  have attributes : getItem (.object members) (ofString "MessageAttributes") (.object []) =
      .ok (.object (args.messageAttributes.mapValues envelopeAttribute).entries) := by
    rw [getItem, envelope.attributes]
    rfl
  rw [unwrapSnsEnvelope, parsed]
  simp only [type, message, attributes]
  rfl

theorem getItem_value (value : AttributeValue) :
    getItem (envelopeAttribute value) (ofString "Value") .null =
      .ok ((value.stringValue.map Value.string).getD .null) := by
  rcases value with ⟨dataType, _ | text⟩ <;> rfl

theorem getItem_attribute (attrs : Dict Str AttributeValue) (key : Str) :
    getItem (.object (attrs.mapValues envelopeAttribute).entries) key (.object []) =
      .ok (((attrs.get? key).map envelopeAttribute).getD (.object [])) := by
  have found : member? (attrs.mapValues envelopeAttribute).entries key =
      (attrs.mapValues envelopeAttribute).get? key := rfl
  rw [getItem, found, Dict.get?_mapValues]

/-- The loop over the attributes of the envelope sets what the loop over the same attributes of an
SQS message sets. -/
theorem addAttributes_envelope (uuidAttr : Str) (entries : List (Str × AttributeValue))
    (metadata : Dict Str Value) :
    (entries.map (fun entry => (entry.1, envelopeAttribute entry.2))).foldlM
        (addAttribute uuidAttr) metadata =
      .ok (metadata.setAll ((entries.filterMap (fun entry =>
        (if entry.1 = uuidAttr then none else entry.2.stringValue).map (entry.1, ·))).map
          (fun entry => (entry.1, .string entry.2)))) := by
  induction entries generalizing metadata with
  | nil => rfl
  | cons entry rest ih =>
      rw [List.map_cons, List.foldlM_cons, addAttribute]
      by_cases same : entry.1 = uuidAttr
      · rw [if_pos same, List.filterMap_cons_none (by rw [if_pos same]; rfl)]
        exact ih metadata
      · rw [if_neg same, getItem_value]
        cases given : entry.2.stringValue with
        | none =>
            rw [List.filterMap_cons_none (by rw [if_neg same, given]; rfl)]
            exact ih metadata
        | some text =>
            rw [List.filterMap_cons_some (by rw [if_neg same, given]; rfl)]
            exact ih (metadata.set entry.1 (.string text))

theorem metadata_agrees (uuidAttr : Str) (attrs : Dict Str AttributeValue) :
    (attrs.mapValues envelopeAttribute).entries.foldlM (addAttribute uuidAttr) .empty =
      .ok ((attrs.filterMap fun key value =>
        if key = uuidAttr then none else value.stringValue).mapValues Value.string) := by
  have set := addAttributes_envelope uuidAttr attrs.entries .empty
  rw [Dict.mapValues_entries, set, Dict.filterMap, Dict.mapValues_setAll]
  rfl

theorem getItem_text (attrs : Dict Str AttributeValue) (key : Str) :
    getItem (((attrs.get? key).map envelopeAttribute).getD (.object [])) (ofString "Value") .null =
      .ok ((((attrs.get? key).bind AttributeValue.stringValue).map Value.string).getD .null) := by
  cases attrs.get? key with
  | none => rfl
  | some value => exact getItem_value value

theorem uuid_agrees (unicode : Uuid.Unicode) (text : Option Str) (uuid4 : BitVec 128) :
    uuidOrValue unicode ((text.map Value.string).getD .null) uuid4 =
      uuidOr unicode text uuid4 := by
  match text with
  | none | some [] => rfl
  | some (c :: rest) => exact if_pos (List.cons_ne_nil c rest)

end Unwrap

theorem fromSnsSqsMessage_envelope {unicode : Uuid.Unicode} {limits : Limits} {uuidAttr : Str}
    {uuid4 : BitVec 128} {sqsMsg : SqsMessage} {members : List (Str × Value)} {args : PublishArgs}
    (parsed : Json.loads limits (sqsMsg.body.getD []) = .ok (.object members))
    (envelope : Notifies members args) :
    fromSnsSqsMessage unicode limits uuidAttr sqsMsg uuid4 =
      (fromSqsMessage unicode uuidAttr args.received uuid4).map jsonContent := by
  rw [fromSnsSqsMessage, unwrap_envelope parsed envelope]
  simp only [Fallible.ok_bind, getItem_attribute, getItem_text, items, decodeValue, uuid_agrees,
    metadata_agrees]
  have sqs : fromSqsMessage unicode uuidAttr args.received uuid4 = (do
      let uuid ← uuidOr unicode
        ((args.messageAttributes.get? uuidAttr).bind AttributeValue.stringValue) uuid4
      let payload ← decodeBody args.message
      return ⟨payload, args.messageAttributes.filterMap (fun key value =>
        if key = uuidAttr then none else value.stringValue), uuid⟩) := rfl
  rw [sqs]
  -- the UUID is read first on both ways, the body last
  cases uuidOr unicode _ uuid4 with
  | error cause => rfl
  | ok uuid => cases decodeBody args.message <;> rfl

/-- A message that comes through SNS is what it would be through SQS, or fails to be read in the
same way. -/
theorem deliveries_agree (unicode : Uuid.Unicode) (limits : Limits) (message : Content Str)
    (uuidAttr : Str) (uuid4 : BitVec 128) (sqsMsg : SqsMessage) (members : List (Str × Value))
    (parsed : Json.loads limits (sqsMsg.body.getD []) = .ok (.object members))
    (envelope : Notifies members (publishArgs message uuidAttr)) :
    fromSnsSqsMessage unicode limits uuidAttr sqsMsg uuid4 =
      (fromSqsMessage unicode uuidAttr (publishArgs message uuidAttr).received uuid4).map
        jsonContent :=
  fromSnsSqsMessage_envelope parsed envelope

def sampleMessage : Content Str :=
  ⟨[104, 105], (Dict.empty.set (ofString "kind") (ofString "order")).set groupIdKey (ofString "g"),
    0⟩

def sampleEnvelope : List (Str × Value) :=
  [(ofString "Type", .string (ofString "Notification")),
    (ofString "Message", .string (ofString "hi")),
    (ofString "MessageAttributes", .object
      [(ofString "u", .object
        [(ofString "Type", .string (ofString "String")),
          (ofString "Value", .string (ofString "00000000-0000-0000-0000-000000000000"))]),
      (ofString "kind", .object
        [(ofString "Type", .string (ofString "String")),
          (ofString "Value", .string (ofString "order"))])])]

def sampleBody : Str :=
  Json.openBrace ::
    ofString "\"Type\":\"Notification\",\"Message\":\"hi\",\"MessageAttributes\":" ++
    (Json.openBrace :: ofString "\"u\":" ++
      (Json.openBrace :: ofString "\"Type\":\"String\"," ++
        ofString "\"Value\":\"00000000-0000-0000-0000-000000000000\"" ++
        (Json.closeBrace :: ofString ",\"kind\":" ++
          (Json.openBrace :: ofString "\"Type\":\"String\",\"Value\":\"order\"" ++
            [Json.closeBrace, Json.closeBrace, Json.closeBrace]))))

set_option maxRecDepth 4000 in
theorem loads_sampleBody : Json.loads ⟨10, 0⟩ sampleBody = .ok (.object sampleEnvelope) := rfl

theorem sampleEnvelope_notifies :
    Notifies sampleEnvelope (publishArgs sampleMessage (ofString "u")) := by
  refine ⟨rfl, ?_, rfl⟩
  have text : encodeMessageBody [104, 105] = ofString "hi" := by
    rw [encodeMessageBody, decodeUtf8_ascii [104, 105] (by simp [Ascii])]
    rfl
  change _ = some (Value.string (encodeMessageBody [104, 105]))
  rw [text]
  rfl

theorem deliveries_agree_sample :
    fromSnsSqsMessage ⟨fun _ => false, fun _ => none⟩ ⟨10, 0⟩ (ofString "u")
        ⟨some sampleBody, none⟩ 0 =
      (fromSqsMessage ⟨fun _ => false, fun _ => none⟩ (ofString "u")
        (publishArgs sampleMessage (ofString "u")).received 0).map jsonContent :=
  deliveries_agree _ _ sampleMessage _ _ ⟨some sampleBody, none⟩ sampleEnvelope
    loads_sampleBody sampleEnvelope_notifies

end Natricine.Aws
