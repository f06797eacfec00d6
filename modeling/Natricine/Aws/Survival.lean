import Natricine.Aws.Messages

namespace Natricine.Aws

open PubSub Text Fallible
open Json (Value Limits member?)

/-- The iterator yields one message for each received one, in order, and does not raise. -/
def Survives {ν : Type} (unmarshal : SqsMessage → BitVec 128 → Except UnmarshalError (Content ν))
    (messages : List (SqsMessage × BitVec 128)) : Prop :=
  ∃ contents, subscribeIter unmarshal messages = (contents, none) ∧
    List.Forall₂ (fun received message => unmarshal received.1 received.2 = .ok message)
      messages contents

theorem survives_iff {ν : Type}
    {unmarshal : SqsMessage → BitVec 128 → Except UnmarshalError (Content ν)}
    {messages : List (SqsMessage × BitVec 128)} :
    Survives unmarshal messages ↔
      ∀ received ∈ messages, Returns (unmarshal received.1 received.2) := by
  induction messages with
  | nil => exact iff_of_true ⟨[], rfl, .nil⟩ (fun _ member => absurd member List.not_mem_nil)
  | cons received rest ih =>
      rw [List.forall_mem_cons, ← ih, Survives, subscribeIter]
      cases read : unmarshal received.1 received.2 with
      | error cause => exact ⟨nofun, fun both => absurd both.1 (not_returns_error cause)⟩
      | ok message =>
          constructor
          · rintro ⟨contents, iterated, each⟩
            cases each with
            | cons here later =>
                have same := Prod.mk.inj iterated
                refine ⟨returns_ok message, _, Prod.ext (List.cons.inj same.1).2 same.2, later⟩
          · rintro ⟨-, contents, iterated, each⟩
            refine ⟨message :: contents, ?_, .cons read each⟩
            rw [iterated]

def Encodes (text : Str) : Prop := (encodeUtf8 text).isSome = true

def NoneOrUuid (unicode : Uuid.Unicode) (text : Option Str) : Prop :=
  ∀ given, text = some given → given ≠ [] → (Uuid.parse unicode given).isSome = true

/-- A message of SQS that can be read. -/
def SqsReadable (unicode : Uuid.Unicode) (uuidAttr : Str) (sqsMsg : SqsMessage) : Prop :=
  NoneOrUuid unicode (((sqsMsg.messageAttributes.getD .empty).get? uuidAttr).bind
    AttributeValue.stringValue) ∧ Encodes (sqsMsg.body.getD [])

def FalseOrUuid (unicode : Uuid.Unicode) (value : Value) : Prop :=
  value.IsTrue → ∃ text, value = .string text ∧ (Uuid.parse unicode text).isSome = true

/-- Attributes of an envelope that can be read: all are objects, and that of the UUID holds one, or
a false value. -/
structure AttributesReadable (unicode : Uuid.Unicode) (uuidAttr : Str)
    (attrs : List (Str × Value)) : Prop where
  uuid : ∃ fields, (member? attrs uuidAttr).getD (.object []) = .object fields ∧
    FalseOrUuid unicode ((member? fields (ofString "Value")).getD .null)
  others : ∀ item ∈ attrs, item.1 ≠ uuidAttr → item.2.IsObject

structure NotificationReadable (unicode : Uuid.Unicode) (uuidAttr : Str)
    (members : List (Str × Value)) : Prop where
  message : ∃ text, (member? members (ofString "Message")).getD (.string []) = .string text ∧
    Encodes text
  attributes : ∃ attrs,
    (member? members (ofString "MessageAttributes")).getD (.object []) = .object attrs ∧
      AttributesReadable unicode uuidAttr attrs

def IsEnvelope (limits : Limits) (body : Str) : Prop :=
  ∃ members, Json.loads limits body = .ok (.object members) ∧
    member? members (ofString "Type") = some (.string (ofString "Notification"))

/-- The body of a message to an SNS subscriber that can be read. Any other JSON than an object
cannot: the exception of `envelope.get` is not caught. -/
inductive BodyReadable (unicode : Uuid.Unicode) (limits : Limits) (uuidAttr body : Str) : Prop where
  | notJson (refused : Json.loads limits body = .error .jsonDecodeError) (encodes : Encodes body)
  | other (members : List (Str × Value)) (parsed : Json.loads limits body = .ok (.object members))
      (type : member? members (ofString "Type") ≠ some (.string (ofString "Notification")))
      (encodes : Encodes body)
  | notification (members : List (Str × Value))
      (parsed : Json.loads limits body = .ok (.object members))
      (type : member? members (ofString "Type") = some (.string (ofString "Notification")))
      (readable : NotificationReadable unicode uuidAttr members)

section Readable

variable {unicode : Uuid.Unicode} {limits : Limits} {uuidAttr body : Str}

theorem uuidOf_returns_iff {text : Str} :
    Returns (uuidOf unicode text) ↔ (Uuid.parse unicode text).isSome = true :=
  returns_orRaise_iff

theorem uuidOr_returns_iff {text : Option Str} {uuid4 : BitVec 128} :
    Returns (uuidOr unicode text uuid4) ↔ NoneOrUuid unicode text := by
  match text with
  | none => exact iff_of_true ⟨uuid4, rfl⟩ nofun
  | some [] =>
      refine iff_of_true ⟨uuid4, rfl⟩ (fun given same other => ?_)
      cases same
      exact absurd rfl other
  | some (c :: rest) =>
      rw [uuidOr_text (List.cons_ne_nil c rest), uuidOf_returns_iff]
      constructor
      · intro parses given same _
        cases same
        exact parses
      · exact fun noneOrUuid => noneOrUuid _ rfl (List.cons_ne_nil c rest)

theorem fromSqsMessage_returns_iff {sqsMsg : SqsMessage} {uuid4 : BitVec 128} :
    Returns (fromSqsMessage unicode uuidAttr sqsMsg uuid4) ↔
      SqsReadable unicode uuidAttr sqsMsg := by
  rw [SqsReadable, ← @uuidOr_returns_iff unicode _ uuid4, Encodes, ← decodeBody_returns_iff]
  constructor
  · rintro ⟨message, read⟩
    have parts := fromSqsMessage_eq_ok_iff.mp read
    exact ⟨⟨_, parts.1⟩, ⟨_, parts.2.2⟩⟩
  · rintro ⟨⟨uuid, identified⟩, payload, decoded⟩
    exact ⟨⟨payload, _, uuid⟩, fromSqsMessage_eq_ok_iff.mpr ⟨identified, rfl, decoded⟩⟩

theorem isNotification_iff {members : List (Str × Value)} :
    isNotification ((member? members (ofString "Type")).getD .null) = true ↔
      member? members (ofString "Type") = some (.string (ofString "Notification")) := by
  cases found : member? members (ofString "Type") with
  | none => exact iff_of_false nofun nofun
  | some value =>
      cases value with
      | string text =>
          rw [Option.getD_some, isNotification, decide_eq_true_iff]
          constructor
          · exact fun same => same ▸ rfl
          · exact fun same => Value.string.inj (Option.some.inj same)
      | null | bool _ | number _ | array _ | object _ => exact iff_of_false nofun nofun

theorem unwrap_notification {members : List (Str × Value)}
    (parsed : Json.loads limits body = .ok (.object members))
    (type : member? members (ofString "Type") = some (.string (ofString "Notification"))) :
    unwrapSnsEnvelope limits body =
      .ok ((member? members (ofString "Message")).getD (.string []),
        (member? members (ofString "MessageAttributes")).getD (.object [])) := by
  rw [unwrapSnsEnvelope, parsed]
  simp only [getItem, ok_bind, isNotification_iff.mpr type, if_true]
  rfl

theorem unwrap_other {members : List (Str × Value)}
    (parsed : Json.loads limits body = .ok (.object members))
    (type : member? members (ofString "Type") ≠ some (.string (ofString "Notification"))) :
    unwrapSnsEnvelope limits body = .ok (.string body, .object []) := by
  rw [unwrapSnsEnvelope, parsed]
  simp only [getItem, ok_bind, if_neg (mt isNotification_iff.mp type)]
  rfl

theorem unwrap_notJson (refused : Json.loads limits body = .error .jsonDecodeError) :
    unwrapSnsEnvelope limits body = .ok (.string body, .object []) := by
  rw [unwrapSnsEnvelope, refused]

theorem unwrap_raises {value : Value} (parsed : Json.loads limits body = .ok value)
    (other : ¬value.IsObject) : unwrapSnsEnvelope limits body = .error .attributeError := by
  rw [unwrapSnsEnvelope, parsed]
  cases value with
  | object members => exact absurd ⟨members, rfl⟩ other
  | null | bool _ | number _ | string _ | array _ => rfl

theorem getItem_returns_iff {value default : Value} {key : Str} :
    Returns (getItem value key default) ↔ value.IsObject := by
  cases value with
  | object members => exact iff_of_true ⟨_, rfl⟩ ⟨members, rfl⟩
  | null | bool _ | number _ | string _ | array _ => exact iff_of_false nofun nofun

theorem addAttribute_returns_iff {metadata : Dict Str Value} {item : Str × Value} :
    Returns (addAttribute uuidAttr metadata item) ↔ (item.1 ≠ uuidAttr → item.2.IsObject) := by
  rw [addAttribute]
  by_cases same : item.1 = uuidAttr
  · rw [if_pos same]
    exact iff_of_true ⟨_, rfl⟩ (fun other => absurd same other)
  · rw [if_neg same, returns_bind_iff]
    constructor
    · rintro ⟨value, read, -⟩ _
      exact getItem_returns_iff.mp ⟨value, read⟩
    · intro object
      rcases getItem_returns_iff.mpr (object same) with ⟨value, read⟩
      refine ⟨value, read, ?_⟩
      cases value <;> exact ⟨_, rfl⟩

theorem addAttributes_returns_iff {attrs : List (Str × Value)} {metadata : Dict Str Value} :
    Returns (attrs.foldlM (addAttribute uuidAttr) metadata) ↔
      ∀ item ∈ attrs, item.1 ≠ uuidAttr → item.2.IsObject := by
  induction attrs generalizing metadata with
  | nil => exact iff_of_true ⟨metadata, rfl⟩ (fun _ member => absurd member List.not_mem_nil)
  | cons item rest ih =>
      rw [List.foldlM_cons, returns_bind_iff, List.forall_mem_cons, ← addAttribute_returns_iff]
      constructor
      · rintro ⟨added, here, later⟩
        exact ⟨⟨added, here⟩, ih.mp later⟩
      · rintro ⟨⟨added, here⟩, later⟩
        exact ⟨added, here, ih.mpr later⟩

theorem uuidOrValue_returns_iff {value : Value} {uuid4 : BitVec 128} :
    Returns (uuidOrValue unicode value uuid4) ↔ FalseOrUuid unicode value := by
  rw [uuidOrValue]
  by_cases true_ : value.IsTrue
  · rw [if_pos true_, FalseOrUuid]
    cases value with
    | string text =>
        rw [uuidOfValue, uuidOf_returns_iff]
        constructor
        · exact fun parses _ => ⟨text, rfl, parses⟩
        · intro readable
          rcases readable true_ with ⟨given, same, parses⟩
          cases same
          exact parses
    | null | bool _ | number _ | array _ | object _ =>
        refine iff_of_false nofun (fun readable => ?_)
        rcases readable true_ with ⟨_, same, -⟩
        cases same
  · rw [if_neg true_]
    exact iff_of_true ⟨uuid4, rfl⟩ (fun is => absurd is true_)

theorem decodeValue_returns_iff {value : Value} :
    Returns (decodeValue value) ↔ ∃ text, value = .string text ∧ Encodes text := by
  cases value with
  | string text =>
      rw [decodeValue, Returns, decodeBody_returns_iff]
      constructor
      · exact fun encodes => ⟨text, rfl, encodes⟩
      · rintro ⟨_, same, encodes⟩
        cases same
        exact encodes
  | null | bool _ | number _ | array _ | object _ =>
      apply iff_of_false (not_returns_error _)
      rintro ⟨_, same, -⟩
      cases same

theorem fromSnsSqsMessage_returns_iff {sqsMsg : SqsMessage} {uuid4 : BitVec 128} :
    Returns (fromSnsSqsMessage unicode limits uuidAttr sqsMsg uuid4) ↔
      ∃ message attrs, unwrapSnsEnvelope limits (sqsMsg.body.getD []) =
          .ok (.string message, .object attrs) ∧
        Encodes message ∧ AttributesReadable unicode uuidAttr attrs := by
  rw [fromSnsSqsMessage, returns_bind_iff]
  constructor
  · rintro ⟨⟨inner, snsAttrs⟩, unwrapped, read⟩
    rcases returns_bind_iff.mp read with ⟨attrValue, found, read⟩
    rcases getItem_returns_iff.mp ⟨_, found⟩ with ⟨attrs, rfl⟩
    cases found
    rcases returns_bind_iff.mp read with ⟨uuidStr, found, read⟩
    rcases getItem_returns_iff.mp ⟨_, found⟩ with ⟨fields, object⟩
    rw [object] at found
    cases found
    rcases returns_bind_iff.mp read with ⟨uuid, identified, read⟩
    rcases returns_bind_iff.mp read with ⟨_, listed, read⟩
    cases listed
    rcases returns_bind_iff.mp read with ⟨metadata, added, read⟩
    rcases returns_bind_iff.mp read with ⟨payload, decoded, -⟩
    rcases decodeValue_returns_iff.mp ⟨_, decoded⟩ with ⟨message, rfl, encodes⟩
    exact ⟨message, attrs, unwrapped, encodes,
      ⟨fields, object, uuidOrValue_returns_iff.mp ⟨_, identified⟩⟩,
      addAttributes_returns_iff.mp ⟨_, added⟩⟩
  · rintro ⟨message, attrs, unwrapped, encodes, readable⟩
    rcases readable.uuid with ⟨fields, object, falseOrUuid⟩
    have identified : Returns (uuidOrValue unicode _ uuid4) :=
      uuidOrValue_returns_iff.mpr falseOrUuid
    have added : Returns (attrs.foldlM (addAttribute uuidAttr) .empty) :=
      addAttributes_returns_iff.mpr readable.others
    rcases identified with ⟨uuid, identified⟩
    rcases added with ⟨metadata, added⟩
    rcases decodeValue_returns_iff.mpr ⟨message, rfl, encodes⟩ with ⟨payload, decoded⟩
    refine ⟨_, unwrapped, ⟨payload, metadata, uuid⟩, ?_⟩
    simp only [getItem, ok_bind, object, identified, items, added, decoded]
    rfl

theorem attributesReadable_nil : AttributesReadable unicode uuidAttr [] :=
  ⟨⟨[], rfl, fun true_ => absurd true_ id⟩, fun _ member => absurd member List.not_mem_nil⟩

theorem body_read_iff {sqsMsg : SqsMessage} {uuid4 : BitVec 128} :
    Returns (fromSnsSqsMessage unicode limits uuidAttr sqsMsg uuid4) ↔
      BodyReadable unicode limits uuidAttr (sqsMsg.body.getD []) := by
  rw [fromSnsSqsMessage_returns_iff]
  generalize sqsMsg.body.getD [] = body
  constructor
  · rintro ⟨message, attrs, unwrapped, encodes, readable⟩
    cases parsed : Json.loads limits body with
    | error cause =>
        cases cause with
        | jsonDecodeError =>
            cases (unwrap_notJson parsed).symm.trans unwrapped
            exact .notJson parsed encodes
        | recursionError | valueError =>
            rw [unwrapSnsEnvelope, parsed] at unwrapped
            cases unwrapped
    | ok value =>
        by_cases object : value.IsObject
        · rcases object with ⟨members, rfl⟩
          by_cases type : member? members (ofString "Type") =
              some (.string (ofString "Notification"))
          · have parts := (unwrap_notification parsed type).symm.trans unwrapped
            injection parts with parts
            injection parts with first second
            exact .notification members parsed type
              ⟨⟨message, first, encodes⟩, attrs, second, readable⟩
          · cases (unwrap_other parsed type).symm.trans unwrapped
            exact .other members parsed type encodes
        · rw [unwrap_raises parsed object] at unwrapped
          cases unwrapped
  · intro readable
    cases readable with
    | notJson refused encodes =>
        exact ⟨body, [], unwrap_notJson refused, encodes, attributesReadable_nil⟩
    | other members parsed type encodes =>
        exact ⟨body, [], unwrap_other parsed type, encodes, attributesReadable_nil⟩
    | notification members parsed type readable =>
        rcases readable with ⟨⟨message, first, encodes⟩, attrs, second, readable⟩
        refine ⟨message, attrs, ?_, encodes, readable⟩
        rw [unwrap_notification parsed type, first, second]

theorem unwrap_plain_iff (plain : ¬IsEnvelope limits body) :
    unwrapSnsEnvelope limits body = .ok (.string body, .object []) ↔
      Json.loads limits body = .error .jsonDecodeError ∨
        ∃ members, Json.loads limits body = .ok (.object members) := by
  constructor
  · intro unwrapped
    cases parsed : Json.loads limits body with
    | error cause =>
        cases cause with
        | jsonDecodeError => exact Or.inl rfl
        | recursionError | valueError =>
            rw [unwrapSnsEnvelope, parsed] at unwrapped
            cases unwrapped
    | ok value =>
        by_cases object : value.IsObject
        · rcases object with ⟨members, rfl⟩
          exact Or.inr ⟨members, rfl⟩
        · rw [unwrap_raises parsed object] at unwrapped
          cases unwrapped
  · rintro (refused | ⟨members, parsed⟩)
    · exact unwrap_notJson refused
    · exact unwrap_other parsed (fun type => plain ⟨members, parsed, type⟩)

end Readable

/-- Both iterators survive just the messages that can be read: a UUID attribute that is no UUID ends
either, and JSON that is no object ends that of SNS. -/
theorem subscriptions_survive_iff (unicode : Uuid.Unicode) (limits : Limits) (uuidAttr : Str)
    (messages : List (SqsMessage × BitVec 128)) :
    (Survives (fromSqsMessage unicode uuidAttr) messages ↔
      ∀ received ∈ messages, SqsReadable unicode uuidAttr received.1) ∧
    (Survives (fromSnsSqsMessage unicode limits uuidAttr) messages ↔
      ∀ received ∈ messages, BodyReadable unicode limits uuidAttr (received.1.body.getD [])) ∧
    ∀ body, (¬IsEnvelope limits body →
        unwrapSnsEnvelope limits body = .ok (.string body, .object [])) ↔
      IsEnvelope limits body ∨ Json.loads limits body = .error .jsonDecodeError ∨
        ∃ members, Json.loads limits body = .ok (.object members) := by
  refine ⟨?_, ?_, fun body => ?_⟩
  · rw [survives_iff]
    exact forall₂_congr (fun _ _ => fromSqsMessage_returns_iff)
  · rw [survives_iff]
    exact forall₂_congr (fun _ _ => body_read_iff)
  · by_cases envelope : IsEnvelope limits body
    · exact iff_of_true (fun plain => absurd envelope plain) (Or.inl envelope)
    · rw [or_iff_right envelope, ← unwrap_plain_iff envelope]
      exact forall_prop_of_true envelope

/-- The body `[]` ends the iterator of SNS, whose message it should have been. -/
theorem list_ends_subscription :
    ¬Survives (fromSnsSqsMessage ⟨fun _ => false, fun _ => none⟩ ⟨1000, 4300⟩ defaultUuidAttr)
        [(⟨some (ofString "[]"), none⟩, 0)] ∧
      unwrapSnsEnvelope ⟨1000, 4300⟩ (ofString "[]") = .error .attributeError := by
  have parsed : Json.loads ⟨1000, 4300⟩ (ofString "[]") = .ok (.array []) := rfl
  have raises := unwrap_raises parsed nofun
  refine ⟨fun survives => ?_, raises⟩
  rcases survives_iff.mp survives _ List.mem_cons_self with ⟨message, read⟩
  rw [fromSnsSqsMessage, show (some (ofString "[]")).getD [] = ofString "[]" from rfl, raises]
    at read
  cases read

end Natricine.Aws
