import Natricine.Kafka.Marshaling
import Natricine.Kafka.Sessions
import Natricine.Library.AppendLog

/-! `KafkaPublisher` calls in front of a router that consumes one of the partitions they publish
to: the brokers keep a log for each partition, and put a record into one of its topic. A producer
that is not idempotent may write a record twice when it does not hear of the first time. With `acks`
other than 0, `send_and_wait` returns once the record is in the log. -/

namespace Natricine.Kafka

open AppendLog PubSub Service Text Transition

abbrev Record := Bytes × Headers

inductive PublishError where
  | runtimeError
  | header (error : HeaderError)
  | producer
  | cancelled
  deriving DecidableEq, Repr

/-- What `publish` gives to `send_and_wait` for a message. -/
def recordOf (uuidHeader : Str) (message : Content Str) : Except PublishError Record :=
  match toKafkaHeaders message uuidHeader with
  | .ok headers => .ok (message.payload, headers)
  | .error error => .error (.header error)

/-- `_to_message`; `uuid4` is what `uuid4()` draws. -/
def toMessage (unicode : Uuid.Unicode) (uuidHeader : Str) (uuid4 : BitVec 128) (record : Record) :
    Except HeaderError (Content Str) := do
  let (uuidValue, metadata) ← fromKafkaHeaders unicode record.2 uuidHeader
  return ⟨record.1, metadata, uuidValue.getD uuid4⟩

structure TopicPartition where
  topic : Str
  partition : Nat
  deriving DecidableEq, Repr

def inTopic (topic : Str) (slot : TopicPartition) : Bool := slot.topic = topic

abbrev Cluster := System Str (Content Str) TopicPartition Record PublishError Sessions

def Cluster.empty : Cluster := ⟨State.empty, idle 0 none⟩

def Cluster.step (uuidHeader : Str) (slot : TopicPartition) (config : ConsumerConfig)
    (handler : Handler) :
    Cluster → Happening Str (Content Str) TopicPartition Record PublishError LoopEvent →
      Option Cluster :=
  System.step (recordOf uuidHeader) inTopic slot (loopStep config handler)
    (fun _ => .append) (fun e => e = .append)

section Records

variable {unicode : Uuid.Unicode} {uuidHeader : Str} {message : Content Str} {record : Record}

theorem toMessage_recordOf (made : recordOf uuidHeader message = .ok record)
    (apart : uuidHeader ∉ message.metadata.keys) (uuid4 : BitVec 128) :
    toMessage unicode uuidHeader uuid4 record = .ok message := by
  rw [recordOf] at made
  cases headers : toKafkaHeaders message uuidHeader with
  | error error =>
      rw [headers] at made
      cases made
  | ok given =>
      rw [headers] at made
      cases made
      rcases toKafkaHeaders_eq_ok_iff.mp headers with ⟨uuid, rest, encoded, each, rfl⟩
      have first : readHeader unicode uuidHeader (none, .empty) (uuidHeader, uuid) =
          .ok (some message.uuid, .empty) :=
        readHeader_uuid encoded (uuidOf_toStr unicode message.uuid) _
      have read : fromKafkaHeaders unicode ((uuidHeader, uuid) :: rest) uuidHeader =
          .ok (some message.uuid, message.metadata) := by
        rw [fromKafkaHeaders, List.foldlM_cons, first]
        change rest.foldlM (readHeader unicode uuidHeader) (some message.uuid, .empty) = _
        rw [readHeaders_metadata each apart, Dict.setAll_entries]
      rw [toMessage, read]
      rfl

end Records

structure Within (s : State) : Prop where
  position : s.position ≤ s.logEnd
  committed : ∀ offset ∈ s.committed, offset ≤ s.logEnd
  batch : ∀ record ∈ s.batch, record < s.logEnd
  delivered : ∀ d ∈ s.delivered, d.offset < s.logEnd

section Router

variable {config : ConsumerConfig} {handler : Handler} {s t : Sessions} {e : LoopEvent}

theorem within_idle : Within (idle 0 none).partition where
  position := Nat.le_refl 0
  committed := fun offset reached => by cases reached
  batch := fun record member => absurd member List.not_mem_nil
  delivered := fun d member => absurd member List.not_mem_nil

theorem Within.yielded {s : State} {record : Nat} {rest : List Nat} (within : Within s)
    (batch : s.batch = record :: rest) (flags : AckState) :
    Within (s.yielded record rest flags) where
  position := within.position
  committed := within.committed
  batch := fun other member => within.batch other (batch ▸ List.mem_cons_of_mem record member)
  delivered := by
    intro d member
    rcases List.mem_append.mp member with old | new
    · exact within.delivered d old
    · rw [List.mem_singleton.mp new]
      exact within.batch record (batch ▸ List.mem_cons_self)

theorem within_handled {s t : State} {looping : Bool} (within : Within s)
    (handled : Handled s t looping) : Within t := by
  cases handled with
  | @acked record rest batch reached looping =>
      have bound := within.batch record (batch ▸ List.mem_cons_self)
      have yielded := within.yielded batch ⟨true, false⟩
      rw [ackFunc]
      split
      · refine ⟨yielded.position, ?_, yielded.batch, yielded.delivered⟩
        intro offset reached
        cases reached
        exact bound
      · exact yielded
  | @nacked record rest batch =>
      have bound := within.batch record (batch ▸ List.mem_cons_self)
      have yielded := within.yielded batch ⟨false, true⟩
      rw [nackFunc]
      split
      · exact ⟨Nat.le_of_lt bound, yielded.committed, yielded.batch, yielded.delivered⟩
      · exact yielded
  | unsettled batch => exact within.yielded batch _

theorem Within.joins {policy : AutoOffsetReset} {s : State} {offset : Nat} (within : Within s)
    (joined : policy.position s = some offset) : s.committed.getD offset ≤ s.logEnd := by
  cases committed : s.committed with
  | some reached => exact within.committed reached committed
  | none =>
      simp only [AutoOffsetReset.position, committed] at joined
      cases policy with
      | earliest =>
          cases joined
          exact Nat.zero_le _
      | latest =>
          cases joined
          exact Nat.le_refl _
      | none => cases joined

theorem within_step (within : Within s.partition)
    (taken : loopStep config handler s e = some t) : Within t.partition := by
  cases e with
  | append =>
      cases taken
      refine ⟨?_, ?_, ?_, ?_⟩
      · exact Nat.le_succ_of_le within.position
      · exact fun offset reached => Nat.le_succ_of_le (within.committed offset reached)
      · exact fun record member => Nat.lt_succ_of_lt (within.batch record member)
      · exact fun d member => Nat.lt_succ_of_lt (within.delivered d member)
  | getmany count =>
      simp only [loopStep] at taken
      split at taken
      · rcases Option.map_eq_some_iff.mp taken with ⟨partition, polled, rfl⟩
        simp only [step] at polled
        split at polled
        · rename_i ready
          cases polled
          refine ⟨ready.2.2, within.committed, ?_, within.delivered⟩
          intro record member
          have high := (List.mem_range'_1.mp member).2
          have room := ready.2.2
          dsimp only
          omega
        · cases polled
      · cases taken
  | handle delivery commits =>
      simp only [loopStep] at taken
      split at taken
      · exact within_handled within (handled_of_handle taken)
      · cases taken
  | autoCommit =>
      simp only [loopStep] at taken
      split at taken
      · cases taken
        refine ⟨within.position, ?_, within.batch, within.delivered⟩
        intro offset reached
        cases reached
        exact within.position
      · cases taken
  | start =>
      rcases Option.bind_eq_some_iff.mp taken with ⟨offset, joined, started⟩
      cases started
      refine ⟨within.joins joined, within.committed, ?_, within.delivered⟩
      exact fun record member => absurd member List.not_mem_nil

theorem logEnd_step (other : e ≠ .append)
    (taken : loopStep config handler s e = some t) :
    t.partition.logEnd = s.partition.logEnd := by
  cases e with
  | append => exact absurd rfl other
  | getmany count =>
      simp only [loopStep] at taken
      split at taken
      · rcases Option.map_eq_some_iff.mp taken with ⟨partition, polled, rfl⟩
        simp only [step] at polled
        split at polled
        · cases polled
          rfl
        · cases polled
      · cases taken
  | handle delivery commits =>
      simp only [loopStep] at taken
      split at taken
      · have handled := handled_of_handle taken
        generalize t.partition = partition, t.looping = looping at handled ⊢
        cases handled with
        | acked => rw [ackFunc]; split <;> rfl
        | nacked => rw [nackFunc]; split <;> rfl
        | unsettled => rfl
      · cases taken
  | autoCommit =>
      simp only [loopStep] at taken
      split at taken
      · cases taken
        rfl
      · cases taken
  | start =>
      rcases Option.bind_eq_some_iff.mp taken with ⟨offset, -, started⟩
      cases started
      rfl

end Router

theorem counted_exec {uuidHeader : Str} {slot : TopicPartition} {config : ConsumerConfig}
    {handler : Handler} {s : Cluster}
    {events : List (Happening Str (Content Str) TopicPartition Record PublishError LoopEvent)}
    (run : exec (Cluster.step uuidHeader slot config handler) .empty events = some s) :
    s.reader.partition.logEnd = (s.publishers.log slot).length := by
  apply System.exec_tells (T := fun log s => s.partition.logEnd = log.length) _ _ _ run
  · intro log entry s t counted taken
    cases taken
    rw [List.length_append, List.length_singleton, ← counted]
  · intro log s e t other counted taken
    exact (logEnd_step (of_decide_eq_false other) taken).trans counted
  · rfl

/-- What the router was given are records of its partition; those of publishers carry the message
that a call on its topic has there. -/
def Handed (unicode : Uuid.Unicode) (uuidHeader : Str) (slot : TopicPartition) (s : Cluster) :
    Prop :=
  ∀ d ∈ s.reader.partition.delivered, ∃ record, (s.publishers.log slot)[d.offset]? = some record ∧
    ∀ c k, record.source = some (c, k) → ∃ call message, s.publishers.calls[c]? = some call ∧
      call.topic = slot.topic ∧ call.items[k]? = some message ∧
        (uuidHeader ∉ message.metadata.keys →
          ∀ uuid4, toMessage unicode uuidHeader uuid4 record.output = .ok message)

/-- In every run of publishers and of a router that consumes one partition session after session,
whatever fails, crashes or is cancelled, where the consumers leave the commits to the acks and do
not join at the end of the log: calls publish in order; the router is given what was published, and
no record before all those ahead of it are acked. -/
theorem records_handled_as_published (unicode : Uuid.Unicode) (uuidHeader : Str)
    (slot : TopicPartition) (config : ConsumerConfig) (handler : Handler)
    (manual : config.enableAutoCommit = false) (known : config.autoOffsetReset ≠ .latest)
    (events : List (Happening Str (Content Str) TopicPartition Record PublishError LoopEvent))
    (s : Cluster)
    (run : exec (Cluster.step uuidHeader slot config handler) .empty events = some s) :
    s.publishers.Published ∧ AtLeastOnce 0 s.reader.partition ∧
      Handed unicode uuidHeader slot s := by
  have first : Sound config.autoOffsetReset 0 (idle 0 none) :=
    @sound_idle config.autoOffsetReset 0 none (Or.inr known)
  rcases System.exec_keeps (P := AppendLog.Sound (recordOf uuidHeader) inTopic)
    (R := fun s : Sessions => Within s.partition ∧ Sound config.autoOffsetReset 0 s)
    (fun _ _ _ published taken => AppendLog.sound_step published taken)
    (fun _ _ _ held taken => ⟨within_step held.1 taken, sound_step manual held.2 taken⟩)
    sound_empty ⟨within_idle, first⟩ run with ⟨published, within, sound⟩
  have counted := counted_exec run
  refine ⟨published.published, sound.toAtLeastOnce, ?_⟩
  intro d member
  have bound := within.delivered d member
  rw [counted] at bound
  rcases published.stands bound with ⟨record, stands, made⟩
  refine ⟨record, stands, ?_⟩
  intro c k source
  rcases made c k source with ⟨call, message, found, placed, encoded, routed⟩
  refine ⟨call, message, found, ?_, placed, toMessage_recordOf encoded⟩
  exact (of_decide_eq_true routed).symm

def ordersZero : TopicPartition := ⟨orders, 0⟩

def manualCommit : ConsumerConfig := ⟨.earliest, false, 10⟩

def createdRun :
    List (Happening Str (Content Str) TopicPartition Record PublishError LoopEvent) :=
  [.publish (.start orders [created] none), .publish (.send 0 ordersZero .returned),
    .publish (.again 0), .publish (.finish 0), .read .start, .read (.getmany 2),
    .read (.handle
      ⟨false, AckState.fresh, .returned [], .returned (), .returned (), .returned ()⟩ false)]

theorem createdRun_runs :
    ∃ s, exec (Cluster.step defaultUuidHeader ordersZero manualCommit Handler.addNoPublisherHandler)
        .empty createdRun = some s ∧
      s.reader.partition.delivered = [⟨0, 1, ⟨true, false⟩⟩] ∧
      (s.publishers.log ordersZero).map Entry.source = [some (0, 0), some (0, 0)] ∧
      s.publishers.calls.map Call.items = [[created]] :=
  ⟨_, rfl, rfl, rfl, rfl⟩

theorem created_handled_from_partition :
    ∃ s, exec (Cluster.step defaultUuidHeader ordersZero manualCommit Handler.addNoPublisherHandler)
        .empty createdRun = some s ∧
      ∃ record, (s.publishers.log ordersZero)[0]? = some record ∧
        toMessage ⟨fun _ => false, fun _ => none⟩ defaultUuidHeader 0 record.output =
          .ok created := by
  rcases createdRun_runs with ⟨s, run, delivered, sources, items⟩
  rcases records_handled_as_published ⟨fun _ => false, fun _ => none⟩ defaultUuidHeader ordersZero
    manualCommit Handler.addNoPublisherHandler rfl (by decide) createdRun s run with
    ⟨-, -, handed⟩
  rcases handed ⟨0, 1, ⟨true, false⟩⟩ (by rw [delivered]; simp) with ⟨record, stands, made⟩
  have source : record.source = some (0, 0) := by
    have first := congrArg (·[0]?) sources
    rw [List.getElem?_map, stands] at first
    exact Option.some.inj first
  rcases made 0 0 source with ⟨call, message, found, -, placed, read⟩
  have same : call.items = [created] := by
    have first := congrArg (·[0]?) items
    rw [List.getElem?_map, found] at first
    exact Option.some.inj first
  rw [same] at placed
  cases placed
  exact ⟨s, run, record, stands, read (by decide) 0⟩

end Natricine.Kafka
