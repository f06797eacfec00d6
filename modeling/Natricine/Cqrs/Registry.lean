import Natricine.Library.Dict
import Natricine.Library.Text

/-! Registration of handlers on the routers and the buses, and the topics that the buses use. A
class is a value of `τ`, told from another by identity; its `__name__` is a parameter, which is
what `PydanticMarshaler.name` returns. -/

namespace Natricine.Cqrs

open Text

/-- `raised` is what `get_type_hints` raises on an annotation that it cannot resolve. -/
inductive RegistrationError where
  | typeError (text : Str)
  | valueError (text : Str)
  | raised (text : Str)
  deriving DecidableEq, Repr

/-- A handler function: the object, its `__name__` or else its `repr`, its parameters and its
annotations. -/
structure Handler (τ φ : Type) where
  func : φ
  name : Str
  params : List Str
  hints : Except RegistrationError (Dict Str τ)

variable {τ φ : Type} [DecidableEq τ]

/-- The type that a handler is registered for: the annotation of its first parameter. The body that
the four `handler` decorators share. -/
def Handler.handledType (func : Handler τ φ) : Except RegistrationError τ := do
  let hints ← func.hints
  match func.params with
  | [] =>
      .error (.typeError
        (ofString "Handler " ++ func.name ++ ofString " must have at least one parameter"))
  | first :: _ =>
      match hints.get? first with
      | none =>
          .error (.typeError
            (ofString "First parameter '" ++ first ++ ofString "' of " ++ func.name ++
              ofString " must be typed"))
      | some type => .ok type

def handlerOf (func : Nat) (type : τ) : Handler τ Nat :=
  ⟨func, ofString "handle", [ofString "event"], .ok (Dict.empty.set (ofString "event") type)⟩

/-- `_topic_for_type` of both buses. -/
def topicFor (name : τ → Str) (generateTopic : Option (Str → Str)) (topicPrefix : Str)
    (handlerPrefixes : Dict τ Str) (type : τ) : Str :=
  match generateTopic with
  | some generate => generate (name type)
  | none => topicPrefix ++ (handlerPrefixes.get? type).getD [] ++ name type

theorem topicFor_default (name : τ → Str) (topicPrefix : Str) (handlerPrefixes : Dict τ Str)
    (type : τ) : topicFor name none topicPrefix handlerPrefixes type =
      topicPrefix ++ ((handlerPrefixes.get? type).getD [] ++ name type) :=
  List.append_assoc _ _ _

/-- One of the loops that `run` starts: a handler, its type, and the topic it subscribes to. -/
structure Subscription (τ φ : Type) where
  topic : Str
  type : τ
  handler : Handler τ φ

def extend (handlers : Dict τ (List (Handler τ φ))) (type : τ) (more : List (Handler τ φ)) :
    Dict τ (List (Handler τ φ)) :=
  handlers.set type ((handlers.get? type).getD [] ++ more)

structure EventRouter (τ φ : Type) where
  handlers : Dict τ (List (Handler τ φ))

namespace EventRouter

def handler (router : EventRouter τ φ) (func : Handler τ φ) :
    Except RegistrationError (EventRouter τ φ) := do
  let type ← func.handledType
  return ⟨extend router.handlers type [func]⟩

end EventRouter

structure EventBus (τ φ : Type) where
  generateTopic : Option (Str → Str)
  topicPrefix : Str
  handlers : Dict τ (List (Handler τ φ))
  handlerPrefixes : Dict τ Str

namespace EventBus

def create (generateTopic : Option (Str → Str)) (topicPrefix : Str) : EventBus τ φ :=
  ⟨generateTopic, topicPrefix, Dict.empty, Dict.empty⟩

def handler (bus : EventBus τ φ) (func : Handler τ φ) :
    Except RegistrationError (EventBus τ φ) := do
  let type ← func.handledType
  return { bus with handlers := extend bus.handlers type [func] }

/-- One pass of the loop of `include_router`. -/
def includeType (routerPrefix : Str) (bus : EventBus τ φ) (entry : τ × List (Handler τ φ)) :
    EventBus τ φ :=
  { bus with
    handlers := extend bus.handlers entry.1 entry.2
    handlerPrefixes :=
      if routerPrefix ≠ [] ∧ entry.1 ∉ bus.handlerPrefixes.keys then
        bus.handlerPrefixes.set entry.1 routerPrefix
      else bus.handlerPrefixes }

def includeRouter (bus : EventBus τ φ) (router : EventRouter τ φ) (routerPrefix : Str) :
    EventBus τ φ :=
  router.handlers.entries.foldl (includeType routerPrefix) bus

def topicForType (name : τ → Str) (bus : EventBus τ φ) (type : τ) : Str :=
  topicFor name bus.generateTopic bus.topicPrefix bus.handlerPrefixes type

def subscriptions (name : τ → Str) (bus : EventBus τ φ) : List (Subscription τ φ) :=
  bus.handlers.entries.flatMap (fun entry =>
    entry.2.map (fun func => ⟨bus.topicForType name entry.1, entry.1, func⟩))

/-- The handlers in the order in which `run` starts their loops. -/
def handlerList (bus : EventBus τ φ) : List (Handler τ φ) :=
  bus.handlers.entries.flatMap Prod.snd

end EventBus

inductive EventRegistration (τ φ : Type) where
  | handler (func : Handler τ φ)
  | includeRouter (router : EventRouter τ φ) (routerPrefix : Str)

def EventBus.register (bus : EventBus τ φ) : EventRegistration τ φ → EventBus τ φ
  | .handler func =>
      match bus.handler func with
      | .ok changed => changed
      | .error _ => bus
  | .includeRouter router routerPrefix => bus.includeRouter router routerPrefix

structure CommandRouter (τ φ : Type) where
  handlers : Dict τ (Handler τ φ)

namespace CommandRouter

def handler (router : CommandRouter τ φ) (func : Handler τ φ) :
    Except RegistrationError (CommandRouter τ φ) := do
  let type ← func.handledType
  return ⟨router.handlers.set type func⟩

end CommandRouter

structure CommandBus (τ φ : Type) where
  generateTopic : Option (Str → Str)
  topicPrefix : Str
  handlers : Dict τ (Handler τ φ)
  handlerPrefixes : Dict τ Str

namespace CommandBus

def create (generateTopic : Option (Str → Str)) (topicPrefix : Str) : CommandBus τ φ :=
  ⟨generateTopic, topicPrefix, Dict.empty, Dict.empty⟩

def handler (bus : CommandBus τ φ) (func : Handler τ φ) :
    Except RegistrationError (CommandBus τ φ) := do
  let type ← func.handledType
  return { bus with handlers := bus.handlers.set type func }

/-- The loop of `include_router`: the bus as it is left, and what is raised. -/
def includeTypes (name : τ → Str) (routerPrefix : Str) :
    CommandBus τ φ → List (τ × Handler τ φ) → CommandBus τ φ × Except RegistrationError Unit
  | bus, [] => (bus, .ok ())
  | bus, (type, func) :: entries =>
      if type ∈ bus.handlers.keys then
        (bus, .error (.valueError (ofString "Handler already registered for " ++ name type)))
      else
        includeTypes name routerPrefix { bus with
          handlers := bus.handlers.set type func
          handlerPrefixes :=
            if routerPrefix ≠ [] then bus.handlerPrefixes.set type routerPrefix
            else bus.handlerPrefixes } entries

def includeRouter (name : τ → Str) (bus : CommandBus τ φ) (router : CommandRouter τ φ)
    (routerPrefix : Str) : CommandBus τ φ × Except RegistrationError Unit :=
  includeTypes name routerPrefix bus router.handlers.entries

def topicForType (name : τ → Str) (bus : CommandBus τ φ) (type : τ) : Str :=
  topicFor name bus.generateTopic bus.topicPrefix bus.handlerPrefixes type

def subscriptions (name : τ → Str) (bus : CommandBus τ φ) : List (Subscription τ φ) :=
  bus.handlers.entries.map (fun entry => ⟨bus.topicForType name entry.1, entry.1, entry.2⟩)

end CommandBus

inductive CommandRegistration (τ φ : Type) where
  | handler (func : Handler τ φ)
  | includeRouter (router : CommandRouter τ φ) (routerPrefix : Str)

def CommandBus.register (name : τ → Str) (bus : CommandBus τ φ) :
    CommandRegistration τ φ → CommandBus τ φ
  | .handler func =>
      match bus.handler func with
      | .ok changed => changed
      | .error _ => bus
  | .includeRouter router routerPrefix => (bus.includeRouter name router routerPrefix).1

end Natricine.Cqrs
