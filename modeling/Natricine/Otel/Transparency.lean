import Natricine.Otel.Middleware
import Natricine.Router.Simulation

namespace Natricine.Otel

open Effect PubSub Router Text

variable {θ σ τ α : Type} {R : Observed θ σ → τ → Prop}

/-- The relation does not tell one telemetry from another. -/
def Blind (R : Observed θ σ → τ → Prop) : Prop :=
  ∀ s t telemetry, R s t → R { s with telemetry := telemetry } t

section Parts

variable (blind : Blind R)
include blind

theorem tell_silent (change : θ → θ) :
    Silent R (tell change : Effect Abort (Observed θ σ) Unit) :=
  fun s t related => ⟨⟨(), rfl⟩, blind s t (change s.telemetry) related⟩

theorem call_silent (change : θ → α × θ) :
    Silent R (call change : Effect Abort (Observed θ σ) α) :=
  fun s t related =>
    ⟨⟨(change s.telemetry).1, rfl⟩, blind s t (change s.telemetry).2 related⟩

theorem recordDuration_silent (sdk : Sdk θ) (histogram : Str) (start : ℚ)
    (attributes : Attributes) :
    Silent R (recordDuration sdk histogram start attributes : Effect Abort (Observed θ σ) Unit) :=
  fun s t related => ⟨⟨(), rfl⟩, blind s t _ related⟩

theorem startAsCurrentSpan_simulates {sdk : Sdk θ} {name : Str} {context : Option sdk.Context}
    {kind : SpanKind} {attributes : Attributes}
    {body : sdk.Span → Effect Abort (Observed θ σ) α} {abstract : Effect Abort τ α}
    (inner : ∀ span, Simulates R (body span) abstract) :
    Simulates R (startAsCurrentSpan sdk name context kind attributes body) abstract := by
  apply (call_silent blind _).before
  intro span
  apply Simulates.passing
  · apply (inner span).rethrowing
    intro abort
    apply (tell_silent blind _).before
    intro _
    exact simulates_throw _
  · intro value
    apply (tell_silent blind _).before
    intro _
    exact simulates_pure value

theorem observe_simulates {sdk : Sdk θ} {runtime : Runtime (Observed θ σ)} {span : sdk.Span}
    (quiet : ∀ failure, Silent R (runtime.str failure)) {work : Effect Abort (Observed θ σ) α}
    {abstract : Effect Abort τ α} (inner : Simulates R work abstract) :
    Simulates R (observe sdk runtime span work) abstract := by
  have status (result : α) : Simulates R (do tell (sdk.setStatus span .ok); return result)
      (pure result : Effect Abort τ α) := by
    apply (tell_silent blind _).before
    intro _
    exact simulates_pure result
  apply (inner.passing status).rethrowing
  intro abort
  cases abort with
  | cancelled => exact simulates_throw _
  | raised failure =>
      apply (quiet failure).before
      intro description
      apply (tell_silent blind _).before
      intro _
      apply (tell_silent blind _).before
      intro _
      exact simulates_throw _

theorem measure_simulates {sdk : Sdk θ} {runtime : Runtime (Observed θ σ)} {histogram counter : Str}
    {amount : Nat} {attributes : Attributes} {work : Effect Abort (Observed θ σ) α}
    {abstract : Effect Abort τ α} (inner : Simulates R work abstract) :
    Simulates R (measure sdk runtime histogram counter amount attributes work) abstract := by
  apply (call_silent blind _).before
  intro start
  apply Simulates.passing
  · apply inner.rethrowing
    intro abort
    cases abort <;>
    · apply (recordDuration_silent blind _ _ _ _).before
      intro _
      exact simulates_throw _
  · intro result
    apply (tell_silent blind _).before
    intro _
    apply (recordDuration_silent blind _ _ _ _).before
    intro _
    exact simulates_pure result

theorem processSpan_simulates {sdk : Sdk θ} {runtime : Runtime (Observed θ σ)}
    (quiet : ∀ failure, Silent R (runtime.str failure)) {system : Str} {context : sdk.Context}
    {topic shown : Option Str} {next : HandlerFunc (Observed θ σ)} {other : HandlerFunc τ}
    {msg : Message} (inner : Simulates R (next msg) (other msg)) :
    Simulates R (processSpan sdk runtime system context topic shown next msg) (other msg) := by
  apply startAsCurrentSpan_simulates blind
  intro span
  exact observe_simulates blind quiet inner

end Parts

/-- The message with what the propagation has added to its metadata, and the fresh flags of a copy
where it has added something. -/
structure Carries (keys : List Str) (message traced : Message) : Prop where
  payload : traced.payload = message.payload
  uuid : traced.uuid = message.uuid
  ackState : traced.ackState = message.ackState ∨ traced.ackState = AckState.fresh
  metadata : ∀ key, key ∉ keys →
    Entries.get? traced.metadata key = Entries.get? message.metadata key

theorem Carries.inject {keys : List Str} {carrier : Metadata}
    (keyed : ∀ entry ∈ carrier, entry.1 ∈ keys) {message traced : Message}
    (carries : Carries keys message traced) :
    Carries keys message (injectContext carrier traced) := by
  rw [injectContext]
  split
  · exact carries
  · refine ⟨carries.payload, carries.uuid, Or.inr rfl, ?_⟩
    intro key other
    rw [← carries.metadata key other]
    apply Entries.get?_update_of_not_mem
    intro written
    rcases List.mem_map.mp written with ⟨entry, member, rfl⟩
    exact other (keyed entry member)

/-- The publisher does with traced messages what another does with the messages themselves. -/
def Publishes (R : Observed θ σ → τ → Prop) (keys : List Str) (publish : Publish (Observed θ σ))
    (plain : Publish τ) : Prop :=
  ∀ topic messages traced, List.Forall₂ (Carries keys) messages traced →
    Simulates R (publish topic traced) (plain topic messages)

section Publishers

variable {keys : List Str} {sdk : Sdk θ} {runtime : Runtime (Observed θ σ)}
  {publish : Publish (Observed θ σ)} {plain : Publish τ} {system : Str}

theorem injected {carrier : Metadata} (keyed : ∀ entry ∈ carrier, entry.1 ∈ keys)
    {messages traced : List Message} (carried : List.Forall₂ (Carries keys) messages traced) :
    List.Forall₂ (Carries keys) messages (traced.map (injectContext carrier)) := by
  induction carried with
  | nil => exact .nil
  | cons here rest ih => exact .cons (here.inject keyed) ih

theorem injectAll_simulates {β : Type}
    (keyed : ∀ telemetry, ∀ entry ∈ sdk.inject telemetry, entry.1 ∈ keys)
    {messages traced : List Message} (carried : List.Forall₂ (Carries keys) messages traced)
    {next : List Message → Effect Abort (Observed θ σ) β} {abstract : Effect Abort τ β}
    (rest : ∀ other, List.Forall₂ (Carries keys) messages other →
      Simulates R (next other) abstract) :
    Simulates R (injectAll sdk traced >>= next) abstract :=
  fun s t related => rest _ (injected (keyed s.telemetry) carried) s t related

theorem tracingPublisher_publishes (blind : Blind R)
    (quiet : ∀ failure, Silent R (runtime.str failure))
    (keyed : ∀ telemetry, ∀ entry ∈ sdk.inject telemetry, entry.1 ∈ keys)
    (inner : Publishes R keys publish plain) :
    Publishes R keys (tracingPublisher sdk runtime system publish) plain := by
  intro topic messages traced carried
  apply startAsCurrentSpan_simulates blind
  intro span
  apply observe_simulates blind quiet
  apply injectAll_simulates keyed carried
  intro other injected
  have sent := inner topic messages other injected
  dsimp only
  cases batchAttribute other with
  | none => exact sent
  | some shown =>
      rcases shown with ⟨key, value⟩
      apply (tell_silent blind _).before
      intro _
      exact sent

theorem metricsPublisher_publishes (blind : Blind R)
    (keyed : ∀ telemetry, ∀ entry ∈ sdk.inject telemetry, entry.1 ∈ keys)
    (inner : Publishes R keys publish plain) :
    Publishes R keys (metricsPublisher sdk runtime system publish) plain := by
  intro topic messages traced carried
  apply measure_simulates blind
  apply injectAll_simulates keyed carried
  exact fun other injected => inner topic messages other injected

end Publishers

/-- However a publisher is wrapped to trace and to measure, each call ends as that of the publisher
itself, which is given the same messages in the same order, with nothing changed of them but the
metadata under the keys of the propagation. -/
theorem decoration_unnoticed (blind : Blind R) (sdk : Sdk θ) (runtime : Runtime (Observed θ σ))
    (keys : List Str) (publish : Publish (Observed θ σ)) (plain : Publish τ)
    (quiet : ∀ failure, Silent R (runtime.str failure))
    (keyed : ∀ telemetry, ∀ entry ∈ sdk.inject telemetry, entry.1 ∈ keys)
    (base : Publishes R keys publish plain) (decorators : List Decorator) :
    Publishes R keys (decorate sdk runtime publish decorators) plain := by
  induction decorators with
  | nil => exact base
  | cons decorator rest ih =>
      cases decorator with
      | tracing system => exact tracingPublisher_publishes blind quiet keyed ih
      | metrics system => exact metricsPublisher_publishes blind keyed ih

def plainRuntime : Runtime σ where
  str failure :=
    match failure.toExn with
    | .valueError text => return ofString text
    | .other _ => return []
  typeName failure :=
    match failure.toExn with
    | .valueError _ => ofString "ValueError"
    | .other name => ofString name
  formatExc _ := return []
  uuid4 := return 1

theorem plainRuntime_silent (failure : Failure) : Silent R (plainRuntime.str failure) := by
  rw [plainRuntime]
  dsimp only
  split <;> exact silent_pure _

/-- The span of the current context, how many spans were started and how often the clock was read,
and what was recorded. -/
structure Telemetry where
  current : Option Nat
  spans : Nat
  readings : Nat
  log : List (Str × Attributes)

def traceparent : Str := ofString "traceparent"

/-- Spans of one sampled trace, that are counted and stand for their contexts, for messages that
bring no context of their own. -/
def counting : Sdk Telemetry where
  Context := Option Nat
  Span := Nat × Option Nat
  start name _ _ attributes telemetry :=
    ((telemetry.spans, telemetry.current),
      { telemetry with
        current := some telemetry.spans
        spans := telemetry.spans + 1
        log := telemetry.log ++ [(name, attributes)] })
  leave span _ telemetry := { telemetry with current := span.2 }
  setStatus _ _ := id
  setAttribute _ key value telemetry :=
    { telemetry with log := telemetry.log ++ [([], [(key, value)])] }
  add counter _ attributes telemetry :=
    { telemetry with log := telemetry.log ++ [(counter, attributes)] }
  record histogram _ attributes telemetry :=
    { telemetry with log := telemetry.log ++ [(histogram, attributes)] }
  perfCounter telemetry :=
    (telemetry.readings, { telemetry with readings := telemetry.readings + 1 })
  inject telemetry :=
    match telemetry.current with
    | some span => [(traceparent, ofString "00-" ++ Hex.format 32 1 ++ ofString "-" ++
        Hex.format 16 (span + 1) ++ ofString "-01")]
    | none => []
  extract _ telemetry := telemetry.current

/-- The messages of a broker, where those that are traced differ in the metadata of the trace. -/
def Delivered (s : Observed Telemetry (List (Str × Message))) (t : List (Str × Message)) : Prop :=
  List.Forall₂ (fun plain traced => traced.1 = plain.1 ∧ Carries [traceparent] plain.2 traced.2)
    t s.core

theorem decorated_broker :
    Publishes Delivered [traceparent]
      (decorate counting plainRuntime
        (fun topic messages => modify fun s =>
          { s with core := s.core ++ messages.map fun message => (topic, message) })
        [.tracing (ofString "kafka"), .metrics (ofString "kafka"), .tracing (ofString "natricine")])
      (fun topic messages => modify (· ++ messages.map fun message => (topic, message))) := by
  apply decoration_unnoticed (fun s t telemetry related => related)
  · exact plainRuntime_silent
  · intro telemetry entry member
    rcases telemetry with ⟨_ | span, spans, readings, log⟩
    · cases member
    · rw [List.mem_singleton.mp member]
      exact List.mem_singleton_self traceparent
  · intro topic messages traced carried s t related
    refine ⟨rfl, ?_⟩
    apply List.rel_append related
    rw [List.forall₂_map_left_iff, List.forall₂_map_right_iff]
    exact carried.imp fun message traced carries => ⟨rfl, carries⟩

/-- The extractor returns, and touches nothing that the relation tells. -/
def TopicExtractor.Silent (R : Observed θ σ → τ → Prop)
    (extractor : TopicExtractor (Observed θ σ)) : Prop :=
  ∀ topicExtractor ∈ extractor, ∀ msg, Effect.Silent R (topicExtractor msg)

theorem TopicExtractor.Silent.topic {extractor : TopicExtractor (Observed θ σ)}
    (silent : extractor.Silent R) (msg : Message) : Effect.Silent R (extractor.topic msg) := by
  cases extractor with
  | none => exact silent_pure none
  | some topicExtractor => exact silent topicExtractor rfl msg

theorem extractContext_silent {sdk : Sdk θ} (msg : Message) :
    Effect.Silent R (extractContext sdk msg : Effect Abort (Observed θ σ) sdk.Context) :=
  fun s _ related => ⟨⟨sdk.extract msg.metadata s.telemetry, rfl⟩, related⟩

/-- A list of middlewares, and what is left of it without those that only observe. -/
inductive Instrumented (R : Observed θ σ → τ → Prop) (sdk : Sdk θ) :
    List (Middleware (Observed θ σ)) → List (Middleware τ) → Prop where
  | bare : Instrumented R sdk [] []
  | kept {middleware : Middleware (Observed θ σ)} {other : Middleware τ}
      {middlewares : List (Middleware (Observed θ σ))} {others : List (Middleware τ)}
      (same : middleware.Simulates R other) (rest : Instrumented R sdk middlewares others) :
      Instrumented R sdk (middleware :: middlewares) (other :: others)
  | tracing {runtime : Runtime (Observed θ σ)} {config : Tracing}
      {middlewares : List (Middleware (Observed θ σ))} {others : List (Middleware τ)}
      (quiet : ∀ failure, Effect.Silent R (runtime.str failure))
      (rest : Instrumented R sdk middlewares others) :
      Instrumented R sdk (tracing sdk runtime config :: middlewares) others
  | tracingMiddleware {runtime : Runtime (Observed θ σ)} {config : TracingMiddleware (Observed θ σ)}
      {middlewares : List (Middleware (Observed θ σ))} {others : List (Middleware τ)}
      (quiet : ∀ failure, Effect.Silent R (runtime.str failure))
      (extracts : config.topicExtractor.Silent R) (rest : Instrumented R sdk middlewares others) :
      Instrumented R sdk (tracingMiddleware sdk runtime config :: middlewares) others
  | metrics {runtime : Runtime (Observed θ σ)} {config : Metrics}
      {middlewares : List (Middleware (Observed θ σ))} {others : List (Middleware τ)}
      (rest : Instrumented R sdk middlewares others) :
      Instrumented R sdk (metricsMiddleware sdk runtime config :: middlewares) others
  | metricsMiddleware {runtime : Runtime (Observed θ σ)} {config : MetricsMiddleware (Observed θ σ)}
      {middlewares : List (Middleware (Observed θ σ))} {others : List (Middleware τ)}
      (extracts : config.topicExtractor.Silent R) (rest : Instrumented R sdk middlewares others) :
      Instrumented R sdk (config.middleware sdk runtime :: middlewares) others

theorem Instrumented.foldr {sdk : Sdk θ} {middlewares : List (Middleware (Observed θ σ))}
    {others : List (Middleware τ)} (blind : Blind R)
    (instrumented : Instrumented R sdk middlewares others) {func : HandlerFunc (Observed θ σ)}
    {other : HandlerFunc τ} (inner : ∀ msg, Simulates R (func msg) (other msg)) (msg : Message) :
    Simulates R (middlewares.foldr (fun middleware next => middleware next) func msg)
      (others.foldr (fun middleware next => middleware next) other msg) := by
  induction instrumented generalizing msg with
  | bare => exact inner msg
  | kept same rest ih => exact same _ _ ih msg
  | tracing quiet rest ih =>
      apply (extractContext_silent msg).before
      intro context
      exact processSpan_simulates blind quiet (ih msg)
  | tracingMiddleware quiet extracts rest ih =>
      apply (extractContext_silent msg).before
      intro context
      apply (extracts.topic msg).before
      intro topic
      exact processSpan_simulates blind quiet (ih msg)
  | metrics rest ih => exact measure_simulates blind (ih msg)
  | metricsMiddleware extracts rest ih =>
      apply (extracts.topic msg).before
      intro topic
      exact measure_simulates blind (ih msg)

/-- Spans and measurements are not noticed: wherever they are put among the middlewares of the
router and of a handler, the messages of a subscription are handled as they are without, up to the
same exception, and what they work on is left the same. -/
theorem instrumentation_unnoticed (blind : Blind R) (sdk : Sdk θ)
    {router handler : List (Middleware (Observed θ σ))} {outer own : List (Middleware τ)}
    (routers : Instrumented R sdk router outer) (handlers : Instrumented R sdk handler own)
    {func : HandlerFunc (Observed θ σ)} {other : HandlerFunc τ}
    (inner : ∀ msg, Simulates R (func msg) (other msg)) (messages : List Message) :
    Simulates R (messages.mapM (wrap router handler func))
      (messages.mapM (wrap outer own other)) := by
  apply simulates_mapM
  intro msg _
  exact routers.foldr blind (handlers.foldr blind inner) msg

def secondTime {σ : Type} (seen : σ → List Message) (add : Message → σ → σ) : HandlerFunc σ :=
  fun msg => do
    let before := seen (← get)
    modify (add msg)
    if msg ∈ before then return [msg] else throw (.raised (.other (.valueError "not yet")))

/-- Each of the middlewares of `middleware.py` once; what fails to the end is stored. -/
def oneOfEach {σ : Type} (store : Message → Effect Abort σ Unit) : List (Middleware σ) :=
  [recoverer fun _ => return (),
    deadLetterQueue plainRuntime
      ⟨fun _ copy => store copy, ofString "dead", fun _ => true, false, none⟩,
    poisonQueue plainRuntime
      ⟨fun _ copy => store copy, ofString "poison", [], [], fun _ => true, false, none⟩,
    retry ⟨fun low _ => return low, fun _ => return (), fun _ => true, rfl⟩
      ⟨2, 1, 2, 0, none, none⟩,
    timeout ⟨30, fun _ => return false⟩]

theorem plainRuntime_simulates :
    (plainRuntime : Runtime (Observed θ σ)).Simulates R plainRuntime := by
  refine ⟨fun failure => ?_, rfl, simulates_pure 1⟩
  rw [plainRuntime, plainRuntime]
  dsimp only
  split <;> exact simulates_pure _

theorem oneOfEach_instrumented {sdk : Sdk θ} {store : Message → Effect Abort (Observed θ σ) Unit}
    {other : Message → Effect Abort τ Unit}
    (stores : ∀ copy, Simulates R (store copy) (other copy)) :
    Instrumented R sdk (oneOfEach store) (oneOfEach other) := by
  apply Instrumented.kept (recoverer_simulates fun _ => simulates_pure ())
  apply Instrumented.kept
    (deadLetterQueue_simulates plainRuntime_simulates (fun _ copy => stores copy) .none)
  apply Instrumented.kept
    (poisonQueue_simulates plainRuntime_simulates (fun _ copy => stores copy) .none)
  apply Instrumented.kept
  · apply retry_simulates
    · exact ⟨fun low _ => simulates_pure low, fun _ => simulates_pure (), rfl⟩
    · exact ⟨rfl, rfl, rfl, rfl, rfl, .none⟩
  · exact .kept (timeout_simulates fun _ => simulates_pure false) .bare

theorem retried_unnoticed :
    let messages : List Message := [⟨[1], [], 7, AckState.fresh⟩, ⟨[2], [], 8, AckState.fresh⟩]
    let add : Message → Observed Telemetry (List Message) → Observed Telemetry (List Message) :=
      fun msg s => { s with core := s.core ++ [msg] }
    let append : Message → List Message → List Message := fun msg t => t ++ [msg]
    Simulates (fun (s : Observed Telemetry (List Message)) (t : List Message) => s.core = t)
      (messages.mapM (wrap
        (tracing counting plainRuntime ⟨ofString "natricine", none⟩ ::
          oneOfEach fun copy => modify (add copy))
        [metricsMiddleware counting plainRuntime ⟨ofString "natricine", none⟩]
        (secondTime Observed.core add)))
      (messages.mapM (wrap (oneOfEach fun copy => modify (append copy)) []
        (secondTime id append))) := by
  intro messages add append
  apply instrumentation_unnoticed (fun s t telemetry related => related) counting
  · apply Instrumented.tracing plainRuntime_silent
    apply oneOfEach_instrumented
    intro copy s t related
    exact ⟨rfl, congrArg (· ++ [copy]) related⟩
  · exact .metrics .bare
  · intro msg s t related
    cases related
    by_cases seen : msg ∈ s.core <;>
    · simp only [secondTime, exec_bind, exec_get, exec_modify, id, seen, if_true, if_false]
      exact ⟨rfl, rfl⟩

end Natricine.Otel
