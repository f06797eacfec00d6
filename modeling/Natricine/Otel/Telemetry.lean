import Natricine.Router.FailureQueue
import Mathlib.Data.Rat.Init

/-! `propagation.py`, and the calls of the package to OpenTelemetry. What its tracers, meters and
propagators do is left open: each call returns, and may change the telemetry as it likes. -/

namespace Natricine.Otel

open Effect PubSub Router Text

inductive SpanKind where
  | consumer
  | producer
  deriving DecidableEq, Repr

inductive Status where
  | ok
  | error (description : Str)
  deriving DecidableEq, Repr

inductive AttributeValue where
  | text (value : Str)
  | number (value : Nat)
  deriving DecidableEq, Repr

abbrev Attributes := List (Str × AttributeValue)

/-- What the rest of the program works on, with the telemetry beside it. -/
structure Observed (θ σ : Type) where
  telemetry : θ
  core : σ

/-- The calls on tracers, meters, propagators and `time.perf_counter`. Where `start` is given no
context it takes the current one, and `leave` learns of what the block of the span raised. -/
structure Sdk (θ : Type) where
  Context : Type
  Span : Type
  start : Str → Option Context → SpanKind → Attributes → θ → Span × θ
  leave : Span → Option Abort → θ → θ
  setStatus : Span → Status → θ → θ
  setAttribute : Span → Str → AttributeValue → θ → θ
  add : Str → Nat → Attributes → θ → θ
  record : Str → ℚ → Attributes → θ → θ
  perfCounter : θ → ℚ × θ
  inject : θ → Metadata
  extract : Metadata → θ → Context

variable {θ σ α : Type}

def tell (change : θ → θ) : Effect Abort (Observed θ σ) Unit :=
  modify fun s => { s with telemetry := change s.telemetry }

def call (change : θ → α × θ) : Effect Abort (Observed θ σ) α := do
  let s ← get
  tell fun _ => (change s.telemetry).2
  return (change s.telemetry).1

/-- `with tracer.start_as_current_span(...) as span:`, which raises what its block raises. -/
def startAsCurrentSpan (sdk : Sdk θ) (name : Str) (context : Option sdk.Context) (kind : SpanKind)
    (attributes : Attributes) (body : sdk.Span → Effect Abort (Observed θ σ) α) :
    Effect Abort (Observed θ σ) α := do
  let span ← call (sdk.start name context kind attributes)
  let value ← tryCatch (body span) fun abort => do
    tell (sdk.leave span (some abort))
    throw abort
  tell (sdk.leave span none)
  return value

/-- `inject_context`, of what the propagators write to an empty carrier. -/
def injectContext (carrier : Metadata) (message : Message) : Message :=
  if carrier = [] then message
  else ⟨message.payload, Entries.update message.metadata carrier, message.uuid, AckState.fresh⟩

def extractContext (sdk : Sdk θ) (message : Message) :
    Effect Abort (Observed θ σ) sdk.Context := do
  return sdk.extract message.metadata (← get).telemetry

def injectAll (sdk : Sdk θ) (messages : List Message) :
    Effect Abort (Observed θ σ) (List Message) := do
  let carrier := sdk.inject (← get).telemetry
  return messages.map (injectContext carrier)

/-- The `except` branch around what a span is for: `str(e)` runs code of the exception's class. -/
def failSpan (sdk : Sdk θ) (runtime : Runtime (Observed θ σ)) (span : sdk.Span) :
    Abort → Effect Abort (Observed θ σ) α
  | .raised failure => do
      let description ← runtime.str failure
      tell (sdk.setStatus span (.error description))
      tell (sdk.setAttribute span (ofString "error.type") (.text (runtime.typeName failure)))
      throw (.raised failure)
  | .cancelled => throw .cancelled

def observe (sdk : Sdk θ) (runtime : Runtime (Observed θ σ)) (span : sdk.Span)
    (work : Effect Abort (Observed θ σ) α) : Effect Abort (Observed θ σ) α :=
  tryCatch (do
    let result ← work
    tell (sdk.setStatus span .ok)
    return result) (failSpan sdk runtime span)

end Natricine.Otel
