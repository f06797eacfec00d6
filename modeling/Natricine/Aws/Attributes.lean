import Natricine.Aws.Messages

namespace Natricine.Aws

open PubSub Text

/-- The keys whose values are sent as ids of a FIFO queue. -/
def IsFifoKey (key : Str) : Prop := key = deduplicationIdKey ∨ key = groupIdKey

instance (key : Str) : Decidable (IsFifoKey key) := inferInstanceAs (Decidable (_ ∨ _))

section Making

variable {message : Content Str} {uuidAttr key : Str} {entries : List (Str × Str)}

theorem add_deduplicationId (made : Attributes) :
    (entries.foldl Attributes.add made).deduplicationId =
      entries.foldl (fun id entry => if entry.1 = deduplicationIdKey then some entry.2 else id)
        made.deduplicationId := by
  induction entries generalizing made with
  | nil => rfl
  | cons entry rest ih =>
      rw [List.foldl_cons, List.foldl_cons, ih]
      congr 1
      rw [Attributes.add]
      split
      · rfl
      · split <;> rfl

theorem add_groupId (made : Attributes) :
    (entries.foldl Attributes.add made).groupId =
      entries.foldl (fun id entry => if entry.1 = groupIdKey then some entry.2 else id)
        made.groupId := by
  induction entries generalizing made with
  | nil => rfl
  | cons entry rest ih =>
      rw [List.foldl_cons, List.foldl_cons, ih]
      congr 1
      rw [Attributes.add]
      split
      · rename_i same
        rw [if_neg (by rw [same]; decide)]
      · split <;> rfl

theorem add_attrs (made : Attributes) :
    (entries.foldl Attributes.add made).attrs =
      made.attrs.setAll (entries.filterMap (fun entry =>
        (if IsFifoKey entry.1 then none else some (stringAttribute entry.2)).map
          (entry.1, ·))) := by
  induction entries generalizing made with
  | nil => rfl
  | cons entry rest ih =>
      rw [List.foldl_cons, ih]
      by_cases fifo : IsFifoKey entry.1
      · have same : (made.add entry).attrs = made.attrs := by
          rw [Attributes.add]
          split
          · rfl
          · rw [if_pos (fifo.resolve_left ‹_›)]
        rw [List.filterMap_cons_none (by rw [if_pos fifo]; rfl), same]
      · have set : (made.add entry).attrs =
            made.attrs.set entry.1 (stringAttribute entry.2) := by
          rw [Attributes.add, if_neg (fun same => fifo (Or.inl same)),
            if_neg (fun same => fifo (Or.inr same))]
        rw [List.filterMap_cons_some (by rw [if_neg fifo]; rfl), set]
        rfl

theorem deduplicationId_eq :
    (toMessageAttributes message uuidAttr).deduplicationId =
      message.metadata.get? deduplicationIdKey := by
  rw [toMessageAttributes, add_deduplicationId, Dict.foldl_value]

theorem groupId_eq :
    (toMessageAttributes message uuidAttr).groupId = message.metadata.get? groupIdKey := by
  rw [toMessageAttributes, add_groupId, Dict.foldl_value]

theorem get?_attrs :
    (toMessageAttributes message uuidAttr).attrs.get? key =
      ((message.metadata.get? key).bind fun value =>
        if IsFifoKey key then none else some (stringAttribute value)).or
      (if key = uuidAttr then some (stringAttribute (Uuid.toStr message.uuid)) else none) := by
  have kept : (message.metadata.filterMap fun key value =>
      if IsFifoKey key then none else some (stringAttribute value)).get? key = _ :=
    Dict.get?_filterMap _ _
  have distinct := (message.metadata.filterMap
    (fun key value => if IsFifoKey key then none else some (stringAttribute value))).distinct
  rw [Dict.entries_filterMap] at distinct
  rw [Dict.get?, Dict.entries_filterMap] at kept
  rw [toMessageAttributes, add_attrs, Dict.get?_setAll distinct, kept, Dict.get?_set]
  rfl

end Making

/-- From the attributes of a message come its UUID and its metadata, but for the FIFO keys, whose
values are the two ids. -/
def AttributesKept (unicode : Uuid.Unicode) (message : Content Str) (uuidAttr : Str)
    (uuid4 : BitVec 128) : Prop :=
  let made := toMessageAttributes message uuidAttr
  made.deduplicationId = message.metadata.get? deduplicationIdKey ∧
    made.groupId = message.metadata.get? groupIdKey ∧
    ∃ received, fromSqsMessage unicode uuidAttr (publishArgs message uuidAttr).received uuid4 =
        .ok received ∧
      received.uuid = message.uuid ∧
      ∀ key, received.metadata.get? key =
        if IsFifoKey key then none else message.metadata.get? key

section Kept

variable {unicode : Uuid.Unicode} {message : Content Str} {uuidAttr : Str} {uuid4 : BitVec 128}

theorem received_reserved {received : Content Str}
    (returned : fromSqsMessage unicode uuidAttr (publishArgs message uuidAttr).received uuid4 =
      .ok received) : received.metadata.get? uuidAttr = none := by
  rw [(fromSqsMessage_eq_ok_iff.mp returned).2.1, Dict.get?_filterMap]
  cases ((publishArgs message uuidAttr).received.messageAttributes.getD .empty).get? uuidAttr with
  | none => rfl
  | some value => exact if_pos rfl

theorem not_attributesKept_of_mem (reserved : uuidAttr ∈ message.metadata.keys)
    (plain : ¬IsFifoKey uuidAttr) : ¬AttributesKept unicode message uuidAttr uuid4 := by
  rintro ⟨-, -, received, returned, -, metadata⟩
  rcases Dict.mem_keys_iff.mp reserved with ⟨value, here⟩
  have none := received_reserved returned
  rw [metadata, if_neg plain, here] at none
  cases none

theorem get?_attrs_apart (apart : uuidAttr ∈ message.metadata.keys → IsFifoKey uuidAttr)
    (key : Str) :
    (toMessageAttributes message uuidAttr).attrs.get? key =
      if key = uuidAttr then some (stringAttribute (Uuid.toStr message.uuid))
      else (message.metadata.get? key).bind fun value =>
        if IsFifoKey key then none else some (stringAttribute value) := by
  rw [get?_attrs]
  by_cases same : key = uuidAttr
  · rw [same]
    by_cases fifo : IsFifoKey uuidAttr
    · cases message.metadata.get? uuidAttr <;> simp [fifo]
    · have absent : message.metadata.get? uuidAttr = none :=
        Dict.get?_eq_none_iff.mpr (fun member => fifo (apart member))
      rw [absent]
      simp only [Option.bind_none, Option.none_or, if_true]
  · rw [if_neg same, if_neg same, Option.or_none]

theorem get?_received_apart (apart : uuidAttr ∈ message.metadata.keys → IsFifoKey uuidAttr)
    (key : Str) :
    ((toMessageAttributes message uuidAttr).attrs.filterMap fun key value =>
        if key = uuidAttr then none else value.stringValue).get? key =
      if IsFifoKey key then none else message.metadata.get? key := by
  rw [Dict.get?_filterMap, get?_attrs_apart apart]
  by_cases same : key = uuidAttr
  · rw [if_pos same, Option.bind_some, if_pos same]
    by_cases fifo : IsFifoKey key
    · rw [if_pos fifo]
    · rw [if_neg fifo]
      exact (Dict.get?_eq_none_iff.mpr (fun member => fifo (same ▸ apart (same ▸ member)))).symm
  · rw [if_neg same]
    cases message.metadata.get? key with
    | none => simp only [Option.bind_none, ite_self]
    | some value =>
        by_cases fifo : IsFifoKey key
        · simp only [Option.bind_some, if_pos fifo, Option.bind_none]
        · simp only [Option.bind_some, if_neg fifo, if_neg same, stringAttribute]

theorem uuidOr_apart (apart : uuidAttr ∈ message.metadata.keys → IsFifoKey uuidAttr) :
    uuidOr unicode (((toMessageAttributes message uuidAttr).attrs.get? uuidAttr).bind
      AttributeValue.stringValue) uuid4 = .ok message.uuid := by
  rw [get?_attrs_apart apart, if_pos rfl]
  exact uuidOr_toStr unicode message.uuid uuid4

theorem read_published (apart : uuidAttr ∈ message.metadata.keys → IsFifoKey uuidAttr) :
    ∃ payload, fromSqsMessage unicode uuidAttr (publishArgs message uuidAttr).received uuid4 =
      .ok ⟨payload, (toMessageAttributes message uuidAttr).attrs.filterMap (fun key value =>
        if key = uuidAttr then none else value.stringValue), message.uuid⟩ := by
  rcases decodeBody_encoded message.payload with ⟨payload, decoded⟩
  exact ⟨payload, fromSqsMessage_eq_ok_iff.mpr ⟨uuidOr_apart apart, rfl, decoded⟩⟩

end Kept

/-- A message keeps its UUID and its metadata in attributes just when no key of the metadata is the
attribute of the UUID, unless that is one of the FIFO keys: the entry would take its place. -/
theorem attributes_kept_iff (unicode : Uuid.Unicode) (message : Content Str) (uuidAttr : Str)
    (uuid4 : BitVec 128) :
    AttributesKept unicode message uuidAttr uuid4 ↔
      (uuidAttr ∈ message.metadata.keys → IsFifoKey uuidAttr) := by
  constructor
  · intro kept reserved
    by_contra plain
    exact not_attributesKept_of_mem reserved plain kept
  · intro apart
    refine ⟨deduplicationId_eq, groupId_eq, ?_⟩
    rcases read_published apart with ⟨payload, read⟩
    exact ⟨_, read, rfl, get?_received_apart apart⟩

/-- Metadata with the key of the UUID attribute: the receiver sees another UUID. -/
theorem reserved_attribute_not_kept :
    ¬AttributesKept ⟨fun _ => false, fun _ => none⟩
      ⟨[], Dict.empty.set defaultUuidAttr (Uuid.toStr 1), 0⟩ defaultUuidAttr 0 :=
  not_attributesKept_of_mem (Dict.mem_keys_set.mpr (Or.inl rfl)) (by decide)

end Natricine.Aws
