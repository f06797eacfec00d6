import Natricine.Aws.Attributes
import Natricine.Aws.Envelope
import Natricine.Aws.Sessions
import Natricine.Library.AppendLog

/-! `SQSPublisher` and `SNSPublisher` calls in front of routers that consume a queue: one that is
published to, or one that is subscribed to a topic. A client may send a message again when it does
not hear of the first time. Of the queue it is assumed that it answers with messages that were sent,
and of nothing else: neither their order, nor how often or whether they come. -/

namespace Natricine.Aws.Polling

open AppendLog PubSub Service Text Transition
open Json (Limits)

inductive PublishError where
  | runtimeError
  | clientError
  | cancelled
  deriving DecidableEq, Repr

def argsOf (uuidAttr : Str) (message : Content Str) : Except PublishError PublishArgs :=
  .ok (publishArgs message uuidAttr)

/-- `_get_queue_url` or `_get_topic_arn` takes a topic to the same address each time. -/
def addressed (address : Str → Str) (topic slot : Str) : Bool := address topic = slot

/-- The calls of publishers, and the routers on one queue. -/
structure Account (ν : Type) where
  publishers : AppendLog.State Str (Content Str) Str PublishArgs PublishError
  routers : Sessions ν

inductive AccountEvent where
  | publish (event : AppendLog.Event Str (Content Str) Str PublishArgs PublishError)
  | route (event : LoopEvent)

variable {ν : Type}

def Account.empty : Account ν := ⟨State.empty, idle⟩

/-- Publishers and subscribers have the same `uuid_attr`. -/
def Account.step (uuidAttr : Str) (address : Str → Str) (unmarshal : Unmarshal ν)
    (handler : Nat → Handler) (s : Account ν) : AccountEvent → Option (Account ν)
  | .publish e =>
      (AppendLog.step (argsOf uuidAttr) (addressed address) s.publishers e).map (⟨·, s.routers⟩)
  | .route e => (loopStep unmarshal handler s.routers e).map (⟨s.publishers, ·⟩)

/-- What the queue answers with was sent to its address. -/
def Genuine (carries : PublishArgs → SqsMessage → Prop) (slot : Str) (s : Account ν) :
    AccountEvent → Prop
  | .route (.receive _ answer) =>
      ∀ answered ∈ answer, ∃ sent ∈ s.publishers.log slot, carries sent.output answered.1
  | _ => True

/-- A message of a queue that was sent to it. -/
def AsSent (args : PublishArgs) (sqsMsg : SqsMessage) : Prop := sqsMsg = args.received

/-- A message of a queue that is the notification of one that was sent to a topic. -/
def Notified (limits : Limits) (args : PublishArgs) (sqsMsg : SqsMessage) : Prop :=
  ∃ members, Json.loads limits (sqsMsg.body.getD []) = .ok (.object members) ∧
    Notifies members args

/-- What becomes of a message on its way: the FIFO keys are left out of its metadata. -/
structure Arrives (uuidAttr : Str) (published message : Content Str) : Prop where
  uuid : (uuidAttr ∈ published.metadata.keys → IsFifoKey uuidAttr) → message.uuid = published.uuid
  metadata : (uuidAttr ∈ published.metadata.keys → IsFifoKey uuidAttr) → ∀ key,
    message.metadata.get? key = if IsFifoKey key then none else published.metadata.get? key
  payload : (∀ data, Base64.encode data ≠ published.payload) → message.payload = published.payload

section Messages

variable {unicode : Uuid.Unicode} {uuidAttr : Str} {published message : Content Str}
  {uuid4 : BitVec 128}

theorem decodeBody_encodeMessageBody {payload : Bytes}
    (plain : ∀ data, Base64.encode data ≠ payload) :
    decodeBody (encodeMessageBody payload) = .ok payload := by
  rw [decodeBody, encodeMessageBody]
  cases decoded : decodeUtf8 payload with
  | none =>
      simp only [decode_encoded]
      rfl
  | some text =>
      have unlike : ∀ data, b64encode data ≠ text := by
        intro data same
        exact plain data ((text_encoded_iff payload data text decoded).mp same)
      simp only [decode_plain text unlike, encodeText_of_decodeUtf8 payload text decoded]
      rfl

theorem arrives_of_read
    (read : fromSqsMessage unicode uuidAttr (publishArgs published uuidAttr).received uuid4 =
      .ok message) : Arrives uuidAttr published message := by
  rcases fromSqsMessage_eq_ok_iff.mp read with ⟨identified, kept, decoded⟩
  refine ⟨?_, ?_, ?_⟩
  · intro apart
    have known : Except.ok message.uuid = .ok published.uuid :=
      identified.symm.trans (uuidOr_apart apart)
    exact Except.ok.inj known
  · intro apart key
    rw [kept]
    exact get?_received_apart apart key
  · intro plain
    have same : decodeBody (encodeMessageBody published.payload) = .ok message.payload := decoded
    rw [decodeBody_encodeMessageBody plain] at same
    exact (Except.ok.inj same).symm

theorem arrives_of_notified {limits : Limits} {sqsMsg : SqsMessage} {content : Content Json.Value}
    (carried : Notified limits (publishArgs published uuidAttr) sqsMsg)
    (read : fromSnsSqsMessage unicode limits uuidAttr sqsMsg uuid4 = .ok content) :
    ∃ message, content = jsonContent message ∧ Arrives uuidAttr published message := by
  rcases carried with ⟨members, parsed, envelope⟩
  rw [fromSnsSqsMessage_envelope parsed envelope] at read
  cases sqs : fromSqsMessage unicode uuidAttr (publishArgs published uuidAttr).received uuid4 with
  | error cause =>
      rw [sqs] at read
      cases read
  | ok message =>
      rw [sqs] at read
      cases read
      exact ⟨message, rfl, arrives_of_read sqs⟩

end Messages

/-- What the routers were given was sent to the address of their queue; what publishers have sent
there is read as what a call on a topic with this address has published. -/
def Handed (address : Str → Str) (slot : Str) (reads : Content Str → Content ν → Prop)
    (s : Account ν) : Prop :=
  ∀ entry ∈ s.routers.polling.received, ∀ message ∈ entry.message,
    ∃ sent ∈ s.publishers.log slot, ∀ c k, sent.source = some (c, k) →
      ∃ call published, s.publishers.calls[c]? = some call ∧ address call.topic = slot ∧
        call.items[k]? = some published ∧ reads published message

def asking (rh : Str) (acks : Bool) : Request := if acks then makeAck rh else makeNack rh

/-- For each message the queue is asked for what was asked first: by whoever was handed it, or by
the router when the handler has returned or raised, or when it is closing. -/
structure SettledAsAsked (s : Sessions ν) : Prop where
  asked : ∀ (place : Nat) entry, s.polling.received[place]? = some entry →
    s.polling.asked place = (firstAsked s.journal place).toList.map (asking entry.receiptHandle)
  yielded : ∀ request ∈ s.polling.requests,
    ∃ entry, s.polling.received[request.1]? = some entry ∧ entry.message.isSome = true

section Run

variable {unmarshal : Unmarshal ν}

theorem asks_of_flags {entry : Received ν} {asked : Option Bool}
    (flags : entry.ackState = flagsOf asked) :
    entry.asks = asked.toList.map (asking entry.receiptHandle) := by
  rw [Received.asks, flags]
  rcases asked with _ | _ | _ <;> rfl

theorem Governed.settledAsAsked {s : Sessions ν} (governed : Governed unmarshal s) :
    SettledAsAsked s where
  asked := by
    intro place entry listed
    rw [(governed.sound.received place entry listed).asked]
    exact asks_of_flags (governed.flags place entry listed)
  yielded := by
    rintro ⟨place, request⟩ member
    have listed := List.getElem?_eq_getElem (governed.sound.known _ member)
    have delivered := governed.sound.received place _ listed
    refine ⟨_, listed, delivered.settled ?_⟩
    intro fresh
    have inside : request ∈ s.polling.asked place := by
      simpa [State.asked] using member
    rw [delivered.asked, Received.asks, fresh] at inside
    cases inside

theorem mem_settlement {place : Nat} {flags : AckState} {e : Event}
    (member : e ∈ settlement place flags) : ∃ acks, e = settling place acks := by
  rw [settlement] at member
  split at member
  · exact ⟨true, List.mem_singleton.mp member⟩
  · split at member
    · exact ⟨false, List.mem_singleton.mp member⟩
    · cases member

theorem received_of_step {s t : State ν} {e : Event} (taken : step unmarshal s e = some t) :
    ∀ entry ∈ t.received, (∃ old ∈ s.received, old.sqsMsg = entry.sqsMsg) ∨
      ∃ i answer, e = .receive i answer ∧ ∃ answered ∈ answer, answered.1 = entry.sqsMsg := by
  intro entry member
  have changed {place : Nat} {old new : Received ν} (listed : s.received[place]? = some old)
      (there : entry ∈ s.received.set place new) (same : old.sqsMsg = new.sqsMsg) :
      ∃ old ∈ s.received, old.sqsMsg = entry.sqsMsg := by
    rcases List.mem_or_eq_of_mem_set there with before | rfl
    · exact ⟨entry, before, rfl⟩
    · exact ⟨old, List.mem_of_getElem? listed, same⟩
  cases taken_of_step taken with
  | subscribe | close | stop | done | raise | refused => exact Or.inl ⟨entry, member, rfl⟩
  | @receive i iterator answer found polling =>
      rcases List.mem_append.mp member with before | new
      · exact Or.inl ⟨entry, before, rfl⟩
      · rcases List.mem_map.mp new with ⟨answered, inside, rfl⟩
        exact Or.inr ⟨i, answer, rfl, answered, inside, rfl⟩
  | yield found looping listed made => exact Or.inl (changed listed member rfl)
  | acked listed yielded fresh => exact Or.inl (changed listed member rfl)
  | nacked listed yielded fresh => exact Or.inl (changed listed member rfl)

theorem received_of_exec {s t : State ν} {events : List Event}
    (run : exec (step unmarshal) s events = some t)
    (others : ∀ e ∈ events, ∀ i answer, e ≠ .receive i answer) :
    ∀ entry ∈ t.received, ∃ old ∈ s.received, old.sqsMsg = entry.sqsMsg := by
  induction events generalizing s with
  | nil =>
      cases run
      exact fun entry member => ⟨entry, member, rfl⟩
  | cons e events ih =>
      rcases exec_cons.mp run with ⟨u, first, rest⟩
      intro entry member
      rcases ih rest (fun other inside => others other (List.mem_cons_of_mem e inside)) entry member
        with ⟨middle, there, same⟩
      rcases received_of_step first middle there with ⟨old, before, alike⟩ | ⟨i, answer, now, -⟩
      · exact ⟨old, before, alike.trans same⟩
      · exact absurd now (others e List.mem_cons_self i answer)

theorem received_of_loopStep {handler : Nat → Handler} {s t : Sessions ν} {e : LoopEvent}
    (taken : loopStep unmarshal handler s e = some t) :
    ∀ entry ∈ t.polling.received, (∃ old ∈ s.polling.received, old.sqsMsg = entry.sqsMsg) ∨
      ∃ i answer, e = .receive i answer ∧ ∃ answered ∈ answer, answered.1 = entry.sqsMsg := by
  intro entry member
  have moves {e : Event} (moved : step unmarshal s.polling e = some t.polling)
      (other : ∀ i answer, e ≠ .receive i answer) :
      ∃ old ∈ s.polling.received, old.sqsMsg = entry.sqsMsg := by
    apply received_of_exec (exec_singleton.trans moved) _ entry member
    intro only inside
    rw [List.mem_singleton.mp inside]
    exact other
  cases e with
  | start | close | crash =>
      simp only [loopStep] at taken
      rcases Option.map_eq_some_iff.mp taken with ⟨u, moved, rfl⟩
      exact Or.inl (moves moved (fun _ _ same => Event.noConfusion same))
  | receive i answer =>
      rcases Option.map_eq_some_iff.mp taken with ⟨u, moved, rfl⟩
      rcases received_of_step moved entry member with old | ⟨j, other, same, answered⟩
      · exact Or.inl old
      · cases same
        exact Or.inr ⟨i, answer, rfl, answered⟩
  | next i uuid4 =>
      simp only [loopStep] at taken
      split at taken
      · rcases Option.map_eq_some_iff.mp taken with ⟨u, moved, rfl⟩
        exact Or.inl (moves moved (fun _ _ same => Event.noConfusion same))
      · cases taken
  | settle place acks =>
      rcases Option.map_eq_some_iff.mp taken with ⟨u, moved, rfl⟩
      apply Or.inl (moves moved _)
      cases acks <;> exact fun _ _ same => Event.noConfusion same
  | finish i delivery =>
      simp only [loopStep] at taken
      split at taken
      · split at taken
        · rcases Option.map_eq_some_iff.mp taken with ⟨u, ended, rfl⟩
          apply Or.inl (received_of_exec ended _ entry member)
          intro e inside i answer
          rcases List.mem_append.mp inside with settles | stops
          · rcases mem_settlement settles with ⟨acks, rfl⟩
            cases acks <;> exact fun same => Event.noConfusion same
          · split at stops
            · cases stops
            · rw [List.mem_singleton.mp stops]
              exact fun same => Event.noConfusion same
        · cases taken
      · cases taken

structure Consistent (uuidAttr : Str) (address : Str → Str) (unmarshal : Unmarshal ν)
    (carries : PublishArgs → SqsMessage → Prop) (slot : Str) (s : Account ν) : Prop where
  published : AppendLog.Sound (argsOf uuidAttr) (addressed address) s.publishers
  governed : Governed unmarshal s.routers
  sent : ∀ entry ∈ s.routers.polling.received,
    ∃ sent ∈ s.publishers.log slot, carries sent.output entry.sqsMsg

variable {uuidAttr : Str} {address : Str → Str} {carries : PublishArgs → SqsMessage → Prop}
  {slot : Str} {handler : Nat → Handler}

theorem empty_consistent :
    Consistent uuidAttr address unmarshal carries slot (Account.empty : Account ν) where
  published := sound_empty
  governed := idle_governed
  sent := fun _ member => absurd member List.not_mem_nil

theorem step_consistent (s : Account ν) (e : AccountEvent) (t : Account ν)
    (consistent : Consistent uuidAttr address unmarshal carries slot s)
    (genuine : Genuine carries slot s e)
    (taken : Account.step uuidAttr address unmarshal handler s e = some t) :
    Consistent uuidAttr address unmarshal carries slot t := by
  cases e with
  | publish e =>
      rcases Option.map_eq_some_iff.mp taken with ⟨publishers, published, rfl⟩
      refine ⟨sound_step consistent.published published, consistent.governed, ?_⟩
      intro entry member
      rcases consistent.sent entry member with ⟨sent, there, carried⟩
      exact ⟨sent, (log_step published slot).subset there, carried⟩
  | route e =>
      rcases Option.map_eq_some_iff.mp taken with ⟨routers, routed, rfl⟩
      refine ⟨consistent.published, step_governed consistent.governed routed, ?_⟩
      intro entry member
      rcases received_of_loopStep routed entry member with
        ⟨old, before, same⟩ | ⟨i, answer, rfl, answered, inside, same⟩
      · rw [← same]
        exact consistent.sent old before
      · rw [← same]
        exact genuine answered inside

theorem Consistent.handed {s : Account ν} {reads : Content Str → Content ν → Prop}
    (consistent : Consistent uuidAttr address unmarshal carries slot s)
    (read : ∀ published sqsMsg uuid4 message, carries (publishArgs published uuidAttr) sqsMsg →
      unmarshal sqsMsg uuid4 = .ok message → reads published message) :
    Handed address slot reads s := by
  intro entry member message given
  rcases List.mem_iff_getElem?.mp member with ⟨place, listed⟩
  rcases (consistent.governed.sound.received place entry listed).made message given with
    ⟨uuid4, made⟩
  rcases consistent.sent entry member with ⟨sent, there, carried⟩
  refine ⟨sent, there, ?_⟩
  intro c k source
  rcases List.mem_filter.mp there with ⟨stands, here⟩
  rcases consistent.published.made sent stands c k source with
    ⟨call, published, found, placed, encoded, routed⟩
  have output : publishArgs published uuidAttr = sent.output := Except.ok.inj encoded
  rw [← output] at carried
  rw [of_decide_eq_true here] at routed
  exact ⟨call, published, found, of_decide_eq_true routed, placed,
    read published entry.sqsMsg uuid4 message carried made⟩

theorem exec_consistent {events : List AccountEvent} {s : Account ν}
    (genuine : Along (Account.step uuidAttr address unmarshal handler) (Genuine carries slot) .empty
      events)
    (run : exec (Account.step uuidAttr address unmarshal handler) .empty events = some s) :
    Consistent uuidAttr address unmarshal carries slot s :=
  exec_invariant step_consistent empty_consistent genuine run

end Run

section Twice

variable {sqsMsg : SqsMessage} {published : Content Str}

def Answers (sqsMsg : SqsMessage) : AccountEvent → Prop
  | .route (.receive _ answer) => ∀ answered ∈ answer, answered.1 = sqsMsg
  | _ => True

theorem genuine_of_sent {unmarshal : Unmarshal ν} {uuidAttr : Str} {address : Str → Str}
    {carries : PublishArgs → SqsMessage → Prop} {slot : Str} {handler : Nat → Handler}
    {s : Account ν} {events : List AccountEvent}
    (sent : ∃ sent ∈ s.publishers.log slot, carries sent.output sqsMsg)
    (only : ∀ e ∈ events, Answers sqsMsg e) :
    Along (Account.step uuidAttr address unmarshal handler) (Genuine carries slot) s events := by
  apply along_of_invariant (P := fun _ e => Answers sqsMsg e)
    (I := fun s : Account ν => ∃ sent ∈ s.publishers.log slot, carries sent.output sqsMsg) _ _ sent
    (along_of_forall (fun e member _ => only e member) s)
  · rintro s e t ⟨sent, there, carried⟩ - taken
    cases e with
    | publish e =>
        rcases Option.map_eq_some_iff.mp taken with ⟨publishers, published, rfl⟩
        exact ⟨sent, (log_step published slot).subset there, carried⟩
    | route e =>
        rcases Option.map_eq_some_iff.mp taken with ⟨routers, routed, rfl⟩
        exact ⟨sent, there, carried⟩
  · intro s e sent answers
    cases e with
    | publish e => trivial
    | route e =>
        cases e with
        | receive i answer =>
            intro answered member
            rw [answers answered member]
            exact sent
        | _ => trivial

def publishing (published : Content Str) : List AccountEvent :=
  [.publish (.start orders [published] none), .publish (.send 0 orders .returned),
    .publish (.finish 0)]

def consuming (sqsMsg : SqsMessage) : List AccountEvent :=
  let ends (handled : Await (List Message)) : Router.Delivery :=
    ⟨false, AckState.fresh, handled, .returned (), .returned (), .returned ()⟩
  [.route (.start 0), .route (.next 0 0), .route (.receive 0 [(sqsMsg, some [1])]),
    .route (.next 0 0), .route (.finish 0 (ends (.raised (.other "ValueError")))),
    .route (.start 0), .route (.next 1 0), .route (.receive 1 [(sqsMsg, some [2])]),
    .route (.next 1 0), .route (.finish 1 (ends (.returned [])))]

theorem route_next {unmarshal : Unmarshal ν} {uuidAttr : Str} {address : Str → Str}
    {handler : Nat → Handler} {s : Account ν} {i : Nat} {uuid4 : BitVec 128} {u : State ν}
    (free : s.routers.current i = none)
    (moved : step unmarshal s.routers.polling (.next i uuid4) = some u) :
    Account.step uuidAttr address unmarshal handler s (.route (.next i uuid4)) =
      some ⟨s.publishers, u, Function.update s.routers.current i
        (yieldedBetween s.routers.polling u i), s.routers.journal⟩ := by
  simp only [Account.step, loopStep, if_pos free, moved, Option.map_some]

theorem consuming_runs {unmarshal : Unmarshal ν} {uuidAttr : Str} {message : Content ν}
    {publishers : AppendLog.State Str (Content Str) Str PublishArgs PublishError}
    (read : unmarshal sqsMsg 0 = .ok message) :
    ∃ s, exec (Account.step uuidAttr id unmarshal (fun _ => Handler.addNoPublisherHandler))
        ⟨publishers, idle⟩ (consuming sqsMsg) = some s ∧
      s.routers.polling.requests = [(0, .changeMessageVisibility [1]), (1, .deleteMessage [2])] :=
  ⟨_, exec_cons.mpr ⟨_, rfl, exec_cons.mpr ⟨_, rfl, exec_cons.mpr ⟨_, rfl, exec_cons.mpr
    ⟨_, route_next rfl (step_yields rfl rfl rfl read), exec_cons.mpr ⟨_, rfl, exec_cons.mpr
    ⟨_, rfl, exec_cons.mpr ⟨_, rfl, exec_cons.mpr ⟨_, rfl, exec_cons.mpr
    ⟨_, route_next rfl (step_yields rfl rfl rfl read), exec_cons.mpr ⟨_, rfl, rfl⟩⟩⟩⟩⟩⟩⟩⟩⟩⟩, rfl⟩

theorem publishing_runs {unmarshal : Unmarshal ν} {uuidAttr : Str} {handler : Nat → Handler} :
    ∃ publishers, exec (Account.step uuidAttr id unmarshal handler) .empty (publishing published) =
        some ⟨publishers, idle⟩ ∧
      publishers.log orders = [⟨some (0, 0), orders, publishArgs published uuidAttr, false⟩] :=
  ⟨_, rfl, rfl⟩

theorem twice_runs {unmarshal : Unmarshal ν} {uuidAttr : Str} {message : Content ν}
    {carries : PublishArgs → SqsMessage → Prop}
    (carried : carries (publishArgs published uuidAttr) sqsMsg)
    (read : unmarshal sqsMsg 0 = .ok message) :
    ∃ s, exec (Account.step uuidAttr id unmarshal (fun _ => Handler.addNoPublisherHandler)) .empty
        (publishing published ++ consuming sqsMsg) = some s ∧
      Along (Account.step uuidAttr id unmarshal (fun _ => Handler.addNoPublisherHandler))
        (Genuine carries orders) .empty (publishing published ++ consuming sqsMsg) ∧
      s.routers.polling.requests =
        [(0, .changeMessageVisibility [1]), (1, .deleteMessage [2])] := by
  rcases @publishing_runs ν published unmarshal uuidAttr (fun _ => Handler.addNoPublisherHandler)
    with ⟨publishers, first, log⟩
  rcases @consuming_runs ν sqsMsg unmarshal uuidAttr message publishers read with
    ⟨s, second, requests⟩
  refine ⟨s, exec_append.mpr ⟨_, first, second⟩, along_append.mpr ⟨?_, ?_⟩, requests⟩
  · apply along_of_forall
    intro e member _
    rcases List.mem_cons.mp member with rfl | member
    · trivial
    · rcases List.mem_cons.mp member with rfl | member
      · trivial
      · rw [List.mem_singleton.mp member]
        trivial
  · intro t run
    cases first.symm.trans run
    apply genuine_of_sent ⟨_, log ▸ List.mem_cons_self, carried⟩
    intro e member
    simp only [consuming, List.mem_cons, List.not_mem_nil, or_false] at member
    rcases member with rfl | rfl | rfl | rfl | rfl | rfl | rfl | rfl | rfl | rfl
    all_goals simp [Answers]

end Twice

/-- In every run of publishers and of routers that consume an SQS queue run after run, whatever
fails, crashes or is cancelled, and however often and in whatever order the queue answers with what
was sent to it: calls publish in order; what a router is given was published, with its payload, UUID
and metadata; and for each delivery the queue is asked for what was asked first, and for nothing
else. -/
theorem messages_handled_as_published (unicode : Uuid.Unicode) (uuidAttr : Str)
    (queueUrl : Str → Str) (slot : Str) (handler : Nat → Handler) (events : List AccountEvent)
    (s : Account Str)
    (genuine : Along (Account.step uuidAttr queueUrl (fromSqsMessage unicode uuidAttr) handler)
      (Genuine AsSent slot) .empty events)
    (run : exec (Account.step uuidAttr queueUrl (fromSqsMessage unicode uuidAttr) handler) .empty
      events = some s) :
    s.publishers.Published ∧ Handed queueUrl slot (Arrives uuidAttr) s ∧
      SettledAsAsked s.routers := by
  have consistent := exec_consistent genuine run
  refine ⟨consistent.published.published, consistent.handed ?_,
    consistent.governed.settledAsAsked⟩
  intro published sqsMsg uuid4 message carried read
  rw [show sqsMsg = _ from carried] at read
  exact arrives_of_read read

theorem sampleMessage_apart :
    ofString "u" ∈ sampleMessage.metadata.keys → IsFifoKey (ofString "u") := by
  intro member
  exact absurd member (by decide)

theorem sample_handled_from_queue :
    ∃ s, exec (Account.step (ofString "u") id
          (fromSqsMessage ⟨fun _ => false, fun _ => none⟩ (ofString "u"))
          (fun _ => Handler.addNoPublisherHandler)) .empty
        (publishing sampleMessage ++
          consuming (publishArgs sampleMessage (ofString "u")).received) = some s ∧
      s.routers.polling.requests = [(0, .changeMessageVisibility [1]), (1, .deleteMessage [2])] ∧
      Handed id orders (Arrives (ofString "u")) s ∧ SettledAsAsked s.routers := by
  rcases @read_published ⟨fun _ => false, fun _ => none⟩ sampleMessage (ofString "u") 0
    sampleMessage_apart with ⟨payload, read⟩
  rcases @twice_runs Str _ sampleMessage _ _ _ AsSent rfl read with
    ⟨s, run, genuine, requests⟩
  have handled := messages_handled_as_published _ _ id orders _ _ s genuine run
  exact ⟨s, run, requests, handled.2.1, handled.2.2⟩

/-- The same of routers that consume a queue behind an SNS topic, which answers with the
notifications of what was published to the topic. -/
theorem notifications_handled_as_published (unicode : Uuid.Unicode) (limits : Limits)
    (uuidAttr : Str) (topicArn : Str → Str) (slot : Str) (handler : Nat → Handler)
    (events : List AccountEvent) (s : Account Json.Value)
    (genuine : Along (Account.step uuidAttr topicArn (fromSnsSqsMessage unicode limits uuidAttr)
      handler) (Genuine (Notified limits) slot) .empty events)
    (run : exec (Account.step uuidAttr topicArn (fromSnsSqsMessage unicode limits uuidAttr) handler)
      .empty events = some s) :
    s.publishers.Published ∧
      Handed topicArn slot (fun published content => ∃ message, content = jsonContent message ∧
        Arrives uuidAttr published message) s ∧
      SettledAsAsked s.routers := by
  have consistent := exec_consistent genuine run
  refine ⟨consistent.published.published, consistent.handed ?_,
    consistent.governed.settledAsAsked⟩
  intro published sqsMsg uuid4 content carried read
  exact arrives_of_notified carried read

theorem sample_handled_from_topic :
    ∃ s, exec (Account.step (ofString "u") id
          (fromSnsSqsMessage ⟨fun _ => false, fun _ => none⟩ ⟨10, 0⟩ (ofString "u"))
          (fun _ => Handler.addNoPublisherHandler)) .empty
        (publishing sampleMessage ++ consuming ⟨some sampleBody, none⟩) = some s ∧
      s.routers.polling.requests = [(0, .changeMessageVisibility [1]), (1, .deleteMessage [2])] ∧
      Handed id orders (fun published content => ∃ message, content = jsonContent message ∧
        Arrives (ofString "u") published message) s ∧ SettledAsAsked s.routers := by
  have carried : Notified ⟨10, 0⟩ (publishArgs sampleMessage (ofString "u"))
      ⟨some sampleBody, none⟩ := ⟨sampleEnvelope, loads_sampleBody, sampleEnvelope_notifies⟩
  rcases @read_published ⟨fun _ => false, fun _ => none⟩ sampleMessage (ofString "u") 0
    sampleMessage_apart with ⟨payload, read⟩
  have agree := @fromSnsSqsMessage_envelope ⟨fun _ => false, fun _ => none⟩ ⟨10, 0⟩ (ofString "u") 0
    ⟨some sampleBody, none⟩ sampleEnvelope _ loads_sampleBody sampleEnvelope_notifies
  have content := agree.trans (congrArg (Except.map jsonContent) read)
  rcases @twice_runs _ _ sampleMessage _ _ _ (Notified ⟨10, 0⟩) carried content with
    ⟨s, run, genuine, requests⟩
  have handled := notifications_handled_as_published _ _ _ id orders _ _ s genuine run
  exact ⟨s, run, requests, handled.2.1, handled.2.2⟩

end Natricine.Aws.Polling
