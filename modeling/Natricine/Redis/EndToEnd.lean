import Natricine.Library.AppendLog
import Natricine.Redis.Marshaling
import Natricine.Redis.Sessions

/-! `RedisStreamPublisher` calls in front of the routers that consume one of the streams they
publish to: an entry of a stream is what `XADD` was given. A client may send an `XADD` again when it
does not hear of the first one. -/

namespace Natricine.Redis

open AppendLog ConsumerGroup PubSub Service Text Transition

abbrev Pairs := List (Bytes × Bytes)

inductive PublishError where
  | runtimeError
  | entry (error : EntryError)
  | client
  | cancelled
  deriving DecidableEq, Repr

/-- What `publish` gives to `xadd` for a message, as the client sends it. -/
def pairsOf (msgpack : Msgpack) (keys : KeyNames) (message : Content Str) :
    Except PublishError Pairs :=
  match publish msgpack keys (parsedOf message) with
  | .ok pairs => .ok pairs
  | .error error => .error (.entry error)

/-- What all publishers and subscribers of a stream agree on; `publish` gives `maxlen` to `XADD`. -/
structure RedisStreamPublisher where
  maxlen : Option Nat
  keys : KeyNames

/-- No `XADD` has found more in the stream than it leaves there. -/
def Untrimmed (maxlen : Option Nat) (log : List (Entry Str Pairs)) : Prop :=
  ∀ limit ∈ maxlen, log.length ≤ limit

instance decidableUntrimmed (log : List (Entry Str Pairs)) :
    (maxlen : Option Nat) → Decidable (Untrimmed maxlen log)
  | none => isTrue nofun
  | some limit => decidable_of_iff (log.length ≤ limit) (by simp [Untrimmed])

def inStream (topic stream : Str) : Bool := stream = topic

abbrev Streams := System Str (Content Str) Str Pairs PublishError Sessions

def Streams.empty : Streams := ⟨State.empty, idle⟩

/-- Where the stream outgrows `maxlen`, it is trimmed, and nothing is said of the run from there. -/
def Streams.step (msgpack : Msgpack) (publisher : RedisStreamPublisher) (stream : Str)
    (count : Str → Nat) (handler : Str → Handler) (s : Streams)
    (e : Happening Str (Content Str) Str Pairs PublishError LoopEvent) : Option Streams :=
  (System.step (pairsOf msgpack publisher.keys) inStream stream (loopStep count handler)
    (fun _ => .append) (fun e => e = .append) s e).filter
      fun t => Untrimmed publisher.maxlen (t.publishers.log stream)

theorem exec_untrimmed {msgpack : Msgpack} {publisher : RedisStreamPublisher} {stream : Str}
    {count : Str → Nat} {handler : Str → Handler} {s t : Streams}
    {events : List (Happening Str (Content Str) Str Pairs PublishError LoopEvent)}
    (run : exec (Streams.step msgpack publisher stream count handler) s events = some t) :
    exec (System.step (pairsOf msgpack publisher.keys) inStream stream (loopStep count handler)
      (fun _ => .append) (fun e => e = .append)) s events = some t :=
  exec_mono (fun _ _ _ taken => (Option.filter_eq_some_iff.mp taken).1) run

section Router

variable {count : Str → Nat} {handler : Str → Handler} {s t : Sessions}

theorem published_of_step {s t : State} {e : Event} (other : e ≠ .append)
    (taken : step count s e = some t) : t.group.published = s.group.published := by
  cases taken_of_step taken with
  | append => exact absurd rfl other
  | start | close | stop | leave | readPending | readNew | yield | refused | ack | nack => rfl

theorem published_step {e : LoopEvent} (other : e ≠ .append)
    (taken : loopStep count handler s e = some t) :
    t.stream.group.published = s.stream.group.published := by
  cases e with
  | append => exact absurd rfl other
  | close consumer =>
      cases taken
      rfl
  | readPending consumer | readNew consumer =>
      simp only [loopStep] at taken
      split at taken
      · rcases Option.map_eq_some_iff.mp taken with ⟨stream, read, rfl⟩
        exact published_of_step (fun same => by cases same) read
      · cases taken
  | handle consumer delivery removes =>
      simp only [loopStep] at taken
      split at taken
      · rcases Option.map_eq_some_iff.mp taken with ⟨⟨stream, looping⟩, ended, rfl⟩
        cases handled_of_handle ended <;> rfl
      · cases taken
  | start consumer =>
      rcases Option.map_eq_some_iff.mp taken with ⟨stream, started, rfl⟩
      rcases exec_cons.mp started with ⟨stopped, stops, starts⟩
      rw [exec_singleton] at starts
      rw [published_of_step (fun same => by cases same) starts,
        published_of_step (fun same => by cases same) stops]

end Router

theorem counted_exec {msgpack : Msgpack} {publisher : RedisStreamPublisher} {stream : Str}
    {count : Str → Nat} {handler : Str → Handler} {s : Streams}
    {events : List (Happening Str (Content Str) Str Pairs PublishError LoopEvent)}
    (run : exec (Streams.step msgpack publisher stream count handler) .empty events = some s) :
    s.reader.stream.group.published = (s.publishers.log stream).length := by
  apply System.exec_tells (T := fun log s => s.stream.group.published = log.length) _ _ _
    (exec_untrimmed run)
  · intro log entry s t counted taken
    cases taken
    rw [List.length_append, List.length_singleton, ← counted]
    rfl
  · intro log s e t other counted taken
    exact (published_step (of_decide_eq_false other) taken).trans counted
  · rfl

theorem parseMessage_pairsOf {msgpack : Msgpack} {unicode : Uuid.Unicode} {keys : KeyNames}
    {message : Content Str} {pairs : Pairs} (undoes : msgpack.Undoes) (separate : keys.Separate)
    (encode : keys.Encode) (made : pairsOf msgpack keys message = .ok pairs) :
    parseMessage msgpack unicode keys (entryOf pairs) = .ok (parsedOf message) := by
  have relays : Relays msgpack unicode keys (parsedOf message) :=
    relays_of_separate undoes separate encode rfl
  rcases relays with ⟨-, sent, published, parsed⟩
  rw [pairsOf, published] at made
  cases made
  exact parsed

/-- What the routers were given are entries of their stream; those of publishers are parsed as the
message that a call on the stream has there. -/
def Handed (msgpack : Msgpack) (unicode : Uuid.Unicode) (keys : KeyNames) (stream : Str)
    (s : Streams) : Prop :=
  ∀ d ∈ s.reader.stream.deliveries, ∃ entry, (s.publishers.log stream)[d.entry]? = some entry ∧
    ∀ c k, entry.source = some (c, k) → ∃ call message, s.publishers.calls[c]? = some call ∧
      call.topic = stream ∧ call.items[k]? = some message ∧
        parseMessage msgpack unicode keys (entryOf entry.output) = .ok (parsedOf message)

/-- In every run of publishers and of routers that consume one stream session after session,
whatever fails, crashes or is cancelled, as long as the stream is not trimmed: calls publish in
order; every router is given what was published, and nothing before all older entries of its
consumer are acked. -/
theorem entries_handled_as_published (msgpack : Msgpack) (unicode : Uuid.Unicode)
    (publisher : RedisStreamPublisher) (undoes : msgpack.Undoes)
    (separate : publisher.keys.Separate) (encode : publisher.keys.Encode) (stream : Str)
    (count : Str → Nat) (handler : Str → Handler)
    (events : List (Happening Str (Content Str) Str Pairs PublishError LoopEvent)) (s : Streams)
    (run : exec (Streams.step msgpack publisher stream count handler) .empty events = some s) :
    s.publishers.Published ∧ AtLeastOnce s.reader.stream ∧
      Handed msgpack unicode publisher.keys stream s := by
  rcases System.exec_keeps (P := AppendLog.Sound (pairsOf msgpack publisher.keys) inStream)
    (R := Sound count) (fun _ _ _ published taken => AppendLog.sound_step published taken)
    (fun _ _ _ sound taken => sound_step sound taken) sound_empty (sound_idle count)
    (exec_untrimmed run) with ⟨published, sound⟩
  have counted := counted_exec run
  refine ⟨published.published, sound.tracked.atLeastOnce, ?_⟩
  intro d member
  have owned := (List.getElem?_eq_some_iff.mp (sound.tracked.delivered d member)).1
  have bound := Nat.lt_of_lt_of_le owned s.reader.stream.group.bounded
  rw [counted] at bound
  rcases published.stands bound with ⟨entry, stands, made⟩
  refine ⟨entry, stands, ?_⟩
  intro c k source
  rcases made c k source with ⟨call, message, found, placed, encoded, routed⟩
  exact ⟨call, message, found, (of_decide_eq_true routed).symm, placed,
    parseMessage_pairsOf undoes separate encode encoded⟩

def unlimited : RedisStreamPublisher := ⟨none, defaultKeys⟩

def createdRun : List (Happening Str (Content Str) Str Pairs PublishError LoopEvent) :=
  [.publish (.start orders [created] none), .publish (.send 0 orders .returned),
    .publish (.finish 0), .read (.start [119]), .read (.readPending [119]),
    .read (.readNew [119]),
    .read (.handle [119]
      ⟨false, AckState.fresh, .returned [], .returned (), .returned (), .returned ()⟩ false)]

theorem createdRun_runs :
    ∃ s, exec (Streams.step sampleMsgpack unlimited orders (fun _ => 10)
        (fun _ => Handler.addNoPublisherHandler)) .empty createdRun = some s ∧
      s.reader.stream.deliveries = [⟨[119], 1, 0, ⟨true, false⟩⟩] ∧
      (s.publishers.log orders).map Entry.source = [some (0, 0)] ∧
      s.publishers.calls.map Call.items = [[created]] :=
  ⟨_, rfl, rfl, rfl, rfl⟩

theorem created_handled_from_stream :
    ∃ s, exec (Streams.step sampleMsgpack unlimited orders (fun _ => 10)
        (fun _ => Handler.addNoPublisherHandler)) .empty createdRun = some s ∧
      ∃ entry, (s.publishers.log orders)[0]? = some entry ∧
        parseMessage sampleMsgpack ⟨fun _ => false, fun _ => none⟩ defaultKeys
          (entryOf entry.output) = .ok (parsedOf created) := by
  have separate : defaultKeys.Separate := ⟨by decide, by decide, by decide⟩
  have encode : defaultKeys.Encode := ⟨⟨_, rfl⟩, ⟨_, rfl⟩, ⟨_, rfl⟩⟩
  rcases createdRun_runs with ⟨s, run, deliveries, sources, items⟩
  rcases entries_handled_as_published sampleMsgpack ⟨fun _ => false, fun _ => none⟩ unlimited
    sampleMsgpack_undoes separate encode orders _ _ createdRun s run with ⟨-, -, handed⟩
  rcases handed ⟨[119], 1, 0, ⟨true, false⟩⟩ (by rw [deliveries]; simp) with
    ⟨entry, stands, made⟩
  have source : entry.source = some (0, 0) := by
    have first := congrArg (·[0]?) sources
    rw [List.getElem?_map, stands] at first
    exact Option.some.inj first
  rcases made 0 0 source with ⟨call, message, found, -, placed, parsed⟩
  have same : call.items = [created] := by
    have first := congrArg (·[0]?) items
    rw [List.getElem?_map, found] at first
    exact Option.some.inj first
  rw [same] at placed
  cases placed
  exact ⟨s, run, entry, stands, parsed⟩

end Natricine.Redis
