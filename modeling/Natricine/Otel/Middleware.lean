import Natricine.Otel.Telemetry

/-! `middleware.py`, `metrics.py` and `publisher.py` of `natricine_otel`: spans and measurements
around the handlers of a router, and around what a publisher sends. -/

namespace Natricine.Otel

open Effect PubSub Router Text

variable {θ σ α : Type}

def systemKey : Str := ofString "messaging.system"
def operationTypeKey : Str := ofString "messaging.operation.type"
def operationNameKey : Str := ofString "messaging.operation.name"
def messageIdKey : Str := ofString "messaging.message.id"
def destinationKey : Str := ofString "messaging.destination.name"
def batchCountKey : Str := ofString "messaging.batch.message_count"
def errorTypeKey : Str := ofString "error.type"

def truthy (text : Option Str) : Option Str := text.filter (· ≠ [])

def destination (topic : Option Str) : Attributes :=
  (topic.map fun topic => (destinationKey, .text topic)).toList

/-- `f"process {topic}" if topic else "process"` -/
def processName (topic : Option Str) : Str :=
  match truthy topic with
  | some topic => ofString "process " ++ topic
  | none => ofString "process"

/-- The span of the processing of a message, with what both middlewares record of it; they differ
in the topic of its name and the one of its attributes. -/
def processSpan (sdk : Sdk θ) (runtime : Runtime (Observed θ σ)) (system : Str)
    (context : sdk.Context) (topic shown : Option Str) (next : HandlerFunc (Observed θ σ)) :
    HandlerFunc (Observed θ σ) := fun msg =>
  startAsCurrentSpan sdk (processName topic) (some context) .consumer
    ([(systemKey, .text system), (operationTypeKey, .text (ofString "process")),
      (operationNameKey, .text (ofString "process")),
      (messageIdKey, .text (Uuid.toStr msg.uuid))] ++ destination shown)
    fun span => observe sdk runtime span (next msg)

structure Tracing where
  messagingSystem : Str
  topicFromMetadata : Option Str

def tracing (sdk : Sdk θ) (runtime : Runtime (Observed θ σ)) (config : Tracing) :
    Middleware (Observed θ σ) := fun next msg => do
  let context ← extractContext sdk msg
  let topic := (truthy config.topicFromMetadata).bind (Entries.get? msg.metadata)
  processSpan sdk runtime config.messagingSystem context topic topic next msg

abbrev TopicExtractor (σ : Type) := Option (Message → Effect Abort σ (Option Str))

def TopicExtractor.topic (extractor : TopicExtractor σ) (msg : Message) :
    Effect Abort σ (Option Str) :=
  match extractor with
  | some topicExtractor => topicExtractor msg
  | none => return none

structure TracingMiddleware (σ : Type) where
  system : Str
  topicExtractor : TopicExtractor σ

def tracingMiddleware (sdk : Sdk θ) (runtime : Runtime (Observed θ σ))
    (config : TracingMiddleware (Observed θ σ)) : Middleware (Observed θ σ) := fun next msg => do
  let context ← extractContext sdk msg
  let topic ← config.topicExtractor.topic msg
  processSpan sdk runtime config.system context topic (truthy topic) next msg

def recordDuration (sdk : Sdk θ) (histogram : Str) (start : ℚ) (attributes : Attributes) :
    Effect Abort (Observed θ σ) Unit := do
  let now ← call sdk.perfCounter
  tell (sdk.record histogram (now - start) attributes)

def measure (sdk : Sdk θ) (runtime : Runtime (Observed θ σ)) (histogram counter : Str)
    (amount : Nat) (attributes : Attributes) (work : Effect Abort (Observed θ σ) α) :
    Effect Abort (Observed θ σ) α := do
  let start ← call sdk.perfCounter
  let result ← tryCatch work fun
    | .raised failure => do
        recordDuration sdk histogram start
          (attributes ++ [(errorTypeKey, .text (runtime.typeName failure))])
        throw (.raised failure)
    | .cancelled => do
        recordDuration sdk histogram start attributes
        throw .cancelled
  tell (sdk.add counter amount attributes)
  recordDuration sdk histogram start attributes
  return result

def processDuration : Str := ofString "messaging.process.duration"
def consumedMessages : Str := ofString "messaging.client.consumed.messages"
def operationDuration : Str := ofString "messaging.client.operation.duration"
def sentMessages : Str := ofString "messaging.client.sent.messages"

def measureProcess (sdk : Sdk θ) (runtime : Runtime (Observed θ σ)) (system : Str)
    (topic : Option Str) (next : HandlerFunc (Observed θ σ)) :
    HandlerFunc (Observed θ σ) := fun msg =>
  measure sdk runtime processDuration consumedMessages 1
    ([(systemKey, .text system), (operationNameKey, .text (ofString "process"))] ++
      destination (truthy topic)) (next msg)

structure Metrics where
  messagingSystem : Str
  topicFromMetadata : Option Str

def metricsMiddleware (sdk : Sdk θ) (runtime : Runtime (Observed θ σ)) (config : Metrics) :
    Middleware (Observed θ σ) := fun next msg =>
  measureProcess sdk runtime config.messagingSystem
    ((truthy config.topicFromMetadata).bind (Entries.get? msg.metadata)) next msg

structure MetricsMiddleware (σ : Type) where
  system : Str
  topicExtractor : TopicExtractor σ

def MetricsMiddleware.middleware (sdk : Sdk θ) (runtime : Runtime (Observed θ σ))
    (config : MetricsMiddleware (Observed θ σ)) : Middleware (Observed θ σ) := fun next msg => do
  let topic ← config.topicExtractor.topic msg
  measureProcess sdk runtime config.system topic next msg

abbrev Publish (σ : Type) := Str → List Message → Effect Abort σ Unit

def batchAttribute : List Message → Option (Str × AttributeValue)
  | [] => none
  | [message] => some (messageIdKey, .text (Uuid.toStr message.uuid))
  | messages => some (batchCountKey, .number messages.length)

def sendAttributes (system topic : Str) : Attributes :=
  [(systemKey, .text system), (operationTypeKey, .text (ofString "send")),
    (operationNameKey, .text (ofString "send")), (destinationKey, .text topic)]

def tracingPublisher (sdk : Sdk θ) (runtime : Runtime (Observed θ σ)) (system : Str)
    (publish : Publish (Observed θ σ)) : Publish (Observed θ σ) := fun topic messages =>
  startAsCurrentSpan sdk (ofString "send " ++ topic) none .producer (sendAttributes system topic)
    fun span => observe sdk runtime span (do
      let tracedMessages ← injectAll sdk messages
      match batchAttribute tracedMessages with
      | some (key, value) => tell (sdk.setAttribute span key value)
      | none => pure ()
      publish topic tracedMessages)

def metricsPublisher (sdk : Sdk θ) (runtime : Runtime (Observed θ σ)) (system : Str)
    (publish : Publish (Observed θ σ)) : Publish (Observed θ σ) := fun topic messages =>
  measure sdk runtime operationDuration sentMessages messages.length
    [(systemKey, .text system), (operationNameKey, .text (ofString "send")),
      (destinationKey, .text topic)] (do
    publish topic (← injectAll sdk messages))

/-- The wrappers of a publisher, each with its `messaging_system`. -/
inductive Decorator where
  | tracing (system : Str)
  | metrics (system : Str)
  deriving DecidableEq, Repr

def decorate (sdk : Sdk θ) (runtime : Runtime (Observed θ σ)) (publish : Publish (Observed θ σ)) :
    List Decorator → Publish (Observed θ σ)
  | [] => publish
  | .tracing system :: rest =>
      tracingPublisher sdk runtime system (decorate sdk runtime publish rest)
  | .metrics system :: rest =>
      metricsPublisher sdk runtime system (decorate sdk runtime publish rest)

end Natricine.Otel
