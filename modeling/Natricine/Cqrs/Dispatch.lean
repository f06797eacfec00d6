import Natricine.Cqrs.Registry

namespace Natricine.Cqrs

open Text

variable {τ φ : Type}

def receivers (subscriptions : List (Subscription τ φ)) (topic : Str) : List (Handler τ φ) :=
  (subscriptions.filter (fun subscription => subscription.topic = topic)).map Subscription.handler

variable [DecidableEq τ]

namespace EventBus

def dispatched (name : τ → Str) (bus : EventBus τ φ) (type : τ) : List (Handler τ φ) :=
  receivers (bus.subscriptions name) (bus.topicForType name type)

def registeredBy (type : τ) : EventRegistration τ φ → List (Handler τ φ)
  | .handler func =>
      match func.handledType with
      | .ok own => if own = type then [func] else []
      | .error _ => []
  | .includeRouter router _ => (router.handlers.get? type).getD []

def offeredPrefix (type : τ) : EventRegistration τ φ → Option Str
  | .handler _ => none
  | .includeRouter router routerPrefix =>
      if routerPrefix ≠ [] ∧ type ∈ router.handlers.keys then some routerPrefix else none

def firstPrefix (registrations : List (EventRegistration τ φ)) (type : τ) : Str :=
  (registrations.findSome? (offeredPrefix type)).getD []

end EventBus

namespace CommandBus

def dispatched (name : τ → Str) (bus : CommandBus τ φ) (type : τ) : List (Handler τ φ) :=
  receivers (bus.subscriptions name) (bus.topicForType name type)

end CommandBus

section Receivers

/-- Where the topic of a subscription is that of its class, the messages of each class reach its own
handlers and no others if and only if no other class has the topic of a class with a handler. -/
theorem receivers_exact_iff {topic : τ → Str} {subscriptions : List (Subscription τ φ)}
    (by_type : ∀ subscription ∈ subscriptions, subscription.topic = topic subscription.type) :
    (∀ type, receivers subscriptions (topic type) =
      (subscriptions.filter (fun subscription => subscription.type = type)).map
        Subscription.handler) ↔
      ∀ type other, type ≠ other → (∃ subscription ∈ subscriptions, subscription.type = other) →
        topic type ≠ topic other := by
  constructor
  · rintro dispatches type other differs ⟨subscription, member, rfl⟩ collide
    have received : subscription ∈ subscriptions.filter (fun subscription =>
        subscription.topic = topic type) := by
      apply List.mem_filter.mpr
      exact ⟨member, decide_eq_true ((by_type _ member).trans collide.symm)⟩
    have inner : (subscriptions.filter (fun subscription => subscription.topic = topic type)).filter
        (fun subscription => subscription.type = type) =
          subscriptions.filter (fun subscription => subscription.type = type) := by
      rw [List.filter_filter]
      apply List.filter_congr
      intro own inside
      rw [by_type own inside, Bool.and_eq_left_iff_imp]
      intro same
      rw [of_decide_eq_true same]
      exact decide_eq_true rfl
    -- the receivers of the topic are as many as the handlers of the class, so they are the same
    have counts := congrArg List.length (dispatches type)
    rw [receivers, List.length_map, List.length_map, ← inner] at counts
    rw [← List.filter_sublist.eq_of_length counts.symm] at received
    exact differs (of_decide_eq_true (List.mem_filter.mp received).2).symm
  · intro apart type
    rw [receivers]
    congr 1
    apply List.filter_congr
    intro subscription member
    rw [by_type subscription member]
    by_cases same : subscription.type = type
    · simp [same]
    · have differs := apart type subscription.type (Ne.symm same) ⟨subscription, member, rfl⟩
      simp [same, differs.symm]

theorem filter_subscriptions {ν : Type} {make : τ × ν → List (Subscription τ φ)} {d : Dict τ ν}
    (own : ∀ entry, ∀ subscription ∈ make entry, subscription.type = entry.1) (type : τ) :
    (d.entries.flatMap make).filter (fun subscription => subscription.type = type) =
      (d.get? type).toList.flatMap (fun value => make (type, value)) := by
  have kept : (d.entries.filter (fun entry => entry.1 = type)).flatMap make =
      (d.entries.flatMap make).filter (fun subscription => subscription.type = type) := by
    generalize d.entries = entries
    induction entries with
    | nil => rfl
    | cons entry entries ih =>
        rw [List.filter_cons, List.flatMap_cons, List.filter_append, ← ih]
        split
        · rename_i same
          have all : (make entry).filter (fun subscription => subscription.type = type) =
              make entry := by
            apply List.filter_eq_self.mpr
            intro subscription member
            rw [own entry subscription member]
            exact same
          rw [List.flatMap_cons, all]
        · rename_i differs
          have empty : (make entry).filter (fun subscription => subscription.type = type) = [] := by
            apply List.filter_eq_nil_iff.mpr
            intro subscription member
            rw [own entry subscription member]
            exact differs
          rw [empty, List.nil_append]
  rw [← kept, Dict.filter_entries, List.flatMap_map]

/-- Every object reaches the handlers of its class and no others, and no two classes with handlers
have one topic. -/
def DispatchesByType (dispatched registered : τ → List (Handler τ φ)) (topic : τ → Str) : Prop :=
  (∀ type, dispatched type = registered type) ∧
    ∀ type other, registered type ≠ [] → registered other ≠ [] → type ≠ other →
      topic type ≠ topic other

theorem dispatchesByType_iff {registered : τ → List (Handler τ φ)} {topic key : τ → Str}
    {topicPrefix : Str} {subscriptions : List (Subscription τ φ)}
    (by_type : ∀ subscription ∈ subscriptions, subscription.topic = topic subscription.type)
    (of_type : ∀ type, (subscriptions.filter (fun subscription => subscription.type = type)).map
      Subscription.handler = registered type)
    (keyed : ∀ type, topic type = topicPrefix ++ key type) :
    DispatchesByType (fun type => receivers subscriptions (topic type)) registered topic ↔
      ∀ type other, type ≠ other → registered other ≠ [] → key type ≠ key other := by
  have handled (other : τ) : registered other ≠ [] ↔
      ∃ subscription ∈ subscriptions, subscription.type = other := by
    rw [← of_type other, ne_eq, List.map_eq_nil_iff, List.filter_eq_nil_iff]
    push Not
    simp
  have exact_iff := receivers_exact_iff by_type
  simp only [of_type] at exact_iff
  have apart_iff (type other : τ) : topic type ≠ topic other ↔ key type ≠ key other := by
    rw [keyed, keyed, ne_eq, List.append_cancel_left_eq]
  constructor
  · rintro ⟨dispatches, -⟩ type other differs present
    apply (apart_iff type other).mp
    exact exact_iff.mp dispatches type other differs ((handled other).mp present)
  · intro apart
    refine ⟨exact_iff.mpr ?_, ?_⟩
    · intro type other differs present
      exact (apart_iff type other).mpr (apart type other differs ((handled other).mpr present))
    · intro type other _ present differs
      exact (apart_iff type other).mpr (apart type other differs present)

end Receivers

namespace EventBus

variable {name : τ → Str} {bus : EventBus τ φ} {type : τ}

theorem get?_extend {handlers : Dict τ (List (Handler τ φ))} {own : τ}
    {more : List (Handler τ φ)} :
    ((extend handlers own more).get? type).getD [] =
      (handlers.get? type).getD [] ++ if own = type then more else [] := by
  rw [extend, Dict.get?_set]
  by_cases same : type = own
  · subst same
    simp
  · simp [same, Ne.symm same]

theorem get?_includeType {routerPrefix : Str} {entry : τ × List (Handler τ φ)} :
    (bus.includeType routerPrefix entry).handlerPrefixes.get? type =
      (bus.handlerPrefixes.get? type).or
        (if routerPrefix ≠ [] ∧ type = entry.1 then some routerPrefix else none) := by
  rw [includeType]
  dsimp only
  by_cases empty : routerPrefix = []
  · simp [empty]
  · by_cases same : type = entry.1
    · subst same
      by_cases known : entry.1 ∈ bus.handlerPrefixes.keys
      · rcases Dict.mem_keys_iff.mp known with ⟨old, found⟩
        simp [known, found]
      · have absent := Dict.get?_eq_none_iff.mpr known
        simp [empty, known, absent, Dict.get?_set_self]
    · simp only [same, and_false, if_false, Option.or_none]
      split
      · exact Dict.get?_set_of_ne same
      · rfl

theorem handlers_includeTypes {routerPrefix : Str} (entries : List (τ × List (Handler τ φ))) :
    (((entries.foldl (includeType routerPrefix) bus).handlers.get? type).getD []) =
      (bus.handlers.get? type).getD [] ++
        (entries.filter (fun entry => entry.1 = type)).flatMap Prod.snd := by
  induction entries generalizing bus with
  | nil => simp
  | cons entry entries ih =>
      rw [List.foldl_cons, ih, includeType, get?_extend, List.append_assoc, List.filter_cons]
      by_cases same : entry.1 = type
      · simp [same]
      · simp [same]

theorem prefixes_includeTypes {routerPrefix : Str} (entries : List (τ × List (Handler τ φ))) :
    (entries.foldl (includeType routerPrefix) bus).handlerPrefixes.get? type =
      (bus.handlerPrefixes.get? type).or
        (if routerPrefix ≠ [] ∧ type ∈ entries.map Prod.fst then some routerPrefix else none) := by
  induction entries generalizing bus with
  | nil => simp
  | cons entry entries ih =>
      rw [List.foldl_cons, ih, get?_includeType, Option.or_assoc]
      congr 1
      have whole : routerPrefix ≠ [] ∧ type ∈ (entry :: entries).map Prod.fst ↔
          (routerPrefix ≠ [] ∧ type = entry.1) ∨
            (routerPrefix ≠ [] ∧ type ∈ entries.map Prod.fst) := by
        rw [← and_or_left, List.map_cons, List.mem_cons]
      rw [if_congr whole rfl rfl]
      by_cases first : routerPrefix ≠ [] ∧ type = entry.1
      · rw [if_pos first, if_pos (Or.inl first)]
        rfl
      · rw [if_neg first, Option.none_or, if_congr (or_iff_right first) rfl rfl]

theorem topics_includeTypes {routerPrefix : Str} (entries : List (τ × List (Handler τ φ))) :
    (entries.foldl (includeType routerPrefix) bus).generateTopic = bus.generateTopic ∧
      (entries.foldl (includeType routerPrefix) bus).topicPrefix = bus.topicPrefix := by
  induction entries generalizing bus with
  | nil => exact ⟨rfl, rfl⟩
  | cons entry entries ih => exact ih

theorem handlers_register (registration : EventRegistration τ φ) :
    ((bus.register registration).handlers.get? type).getD [] =
      (bus.handlers.get? type).getD [] ++ registeredBy type registration := by
  cases registration with
  | handler func =>
      rw [register, handler, registeredBy]
      cases handled : func.handledType with
      | error raised => exact (List.append_nil _).symm
      | ok own => exact get?_extend
  | includeRouter router routerPrefix =>
      rw [register, includeRouter, handlers_includeTypes, Dict.filter_entries, registeredBy]
      cases router.handlers.get? type <;> simp

theorem prefixes_register (registration : EventRegistration τ φ) :
    (bus.register registration).handlerPrefixes.get? type =
      (bus.handlerPrefixes.get? type).or (offeredPrefix type registration) := by
  cases registration with
  | handler func =>
      rw [register, handler, offeredPrefix, Option.or_none]
      cases func.handledType <;> rfl
  | includeRouter router routerPrefix => exact prefixes_includeTypes _

theorem topics_register (registration : EventRegistration τ φ) :
    (bus.register registration).generateTopic = bus.generateTopic ∧
      (bus.register registration).topicPrefix = bus.topicPrefix := by
  cases registration with
  | handler func =>
      rw [register, handler]
      cases func.handledType <;> exact ⟨rfl, rfl⟩
  | includeRouter router routerPrefix => exact topics_includeTypes _

variable (bus) (registrations : List (EventRegistration τ φ))

theorem handlers_registered :
    ((registrations.foldl register bus).handlers.get? type).getD [] =
      (bus.handlers.get? type).getD [] ++ registrations.flatMap (registeredBy type) := by
  induction registrations generalizing bus with
  | nil => exact (List.append_nil _).symm
  | cons registration registrations ih =>
      rw [List.foldl_cons, ih, handlers_register, List.flatMap_cons, List.append_assoc]

theorem prefixes_registered (type : τ) :
    (registrations.foldl register bus).handlerPrefixes.get? type =
      (bus.handlerPrefixes.get? type).or (registrations.findSome? (offeredPrefix type)) := by
  induction registrations generalizing bus with
  | nil => exact (Option.or_none).symm
  | cons registration registrations ih =>
      rw [List.foldl_cons, ih, prefixes_register, Option.or_assoc, List.findSome?_cons]
      cases offeredPrefix type registration <;> rfl

theorem topics_registered :
    (registrations.foldl register bus).generateTopic = bus.generateTopic ∧
      (registrations.foldl register bus).topicPrefix = bus.topicPrefix := by
  induction registrations generalizing bus with
  | nil => exact ⟨rfl, rfl⟩
  | cons registration registrations ih =>
      rw [List.foldl_cons, (ih _).1, (ih _).2]
      exact topics_register registration

theorem topicForType_registered (topicPrefix : Str) (type : τ) :
    (registrations.foldl register (create none topicPrefix)).topicForType name type =
      topicPrefix ++ (firstPrefix registrations type ++ name type) := by
  have topics := topics_registered (create none topicPrefix) registrations
  have recorded := prefixes_registered (create none topicPrefix) registrations type
  rw [topicForType, topics.1, topics.2]
  refine (topicFor_default _ _ _ _).trans ?_
  rw [recorded]
  rfl

theorem subscriptions_by_type : ∀ subscription ∈ bus.subscriptions name,
    subscription.topic = bus.topicForType name subscription.type := by
  intro subscription member
  rcases List.mem_flatMap.mp member with ⟨entry, -, inside⟩
  rcases List.mem_map.mp inside with ⟨func, -, rfl⟩
  rfl

theorem registered_subscriptions :
    ((bus.subscriptions name).filter (fun subscription => subscription.type = type)).map
      Subscription.handler = (bus.handlers.get? type).getD [] := by
  rw [subscriptions, filter_subscriptions]
  · cases bus.handlers.get? type <;> simp [Function.comp_def]
  · simp

end EventBus

namespace CommandBus

variable {name : τ → Str} {bus : CommandBus τ φ} {type : τ}

theorem topics_includeTypes {routerPrefix : Str} (entries : List (τ × Handler τ φ)) :
    (includeTypes name routerPrefix bus entries).1.generateTopic = bus.generateTopic ∧
      (includeTypes name routerPrefix bus entries).1.topicPrefix = bus.topicPrefix := by
  induction entries generalizing bus with
  | nil => exact ⟨rfl, rfl⟩
  | cons entry entries ih =>
      rw [includeTypes]
      split
      · exact ⟨rfl, rfl⟩
      · exact ih

theorem topics_register (registration : CommandRegistration τ φ) :
    (bus.register name registration).generateTopic = bus.generateTopic ∧
      (bus.register name registration).topicPrefix = bus.topicPrefix := by
  cases registration with
  | handler func =>
      rw [register, handler]
      cases func.handledType <;> exact ⟨rfl, rfl⟩
  | includeRouter router routerPrefix => exact topics_includeTypes _

variable (name) (bus) (registrations : List (CommandRegistration τ φ))

theorem topics_registered :
    (registrations.foldl (register name) bus).generateTopic = bus.generateTopic ∧
      (registrations.foldl (register name) bus).topicPrefix = bus.topicPrefix := by
  induction registrations generalizing bus with
  | nil => exact ⟨rfl, rfl⟩
  | cons registration registrations ih =>
      rw [List.foldl_cons, (ih _).1, (ih _).2]
      exact topics_register registration

theorem topicForType_registered (topicPrefix : Str) (type : τ) :
    (registrations.foldl (register name) (create none topicPrefix)).topicForType name type =
      topicPrefix ++ (((registrations.foldl (register name)
        (create none topicPrefix)).handlerPrefixes.get? type).getD [] ++ name type) := by
  have topics := topics_registered name (create none topicPrefix) registrations
  rw [topicForType, topics.1, topics.2]
  exact topicFor_default _ _ _ _

theorem subscriptions_by_type : ∀ subscription ∈ bus.subscriptions name,
    subscription.topic = bus.topicForType name subscription.type := by
  intro subscription member
  rcases List.mem_map.mp member with ⟨entry, -, rfl⟩
  rfl

theorem registered_subscriptions :
    ((bus.subscriptions name).filter (fun subscription => subscription.type = type)).map
      Subscription.handler = (bus.handlers.get? type).toList := by
  have made : bus.subscriptions name = bus.handlers.entries.flatMap (fun entry =>
      [⟨bus.topicForType name entry.1, entry.1, entry.2⟩]) := List.map_eq_flatMap
  rw [made, filter_subscriptions]
  · cases bus.handlers.get? type <;> simp
  · simp

end CommandBus

/-- On either bus, objects are dispatched by type if and only if no class and no other class with a
handler have equal names behind the prefixes recorded for them. -/
theorem dispatches_by_type_iff (name : τ → Str) (topicPrefix : Str) :
    (∀ registrations : List (EventRegistration τ φ),
      let bus := registrations.foldl EventBus.register (EventBus.create none topicPrefix)
      let registered := fun type => registrations.flatMap (EventBus.registeredBy type)
      DispatchesByType (bus.dispatched name) registered (bus.topicForType name) ↔
        ∀ type other, type ≠ other → registered other ≠ [] →
          EventBus.firstPrefix registrations type ++ name type ≠
            EventBus.firstPrefix registrations other ++ name other) ∧
    ∀ registrations : List (CommandRegistration τ φ),
      let bus := registrations.foldl (CommandBus.register name) (CommandBus.create none topicPrefix)
      let registered := fun type => (bus.handlers.get? type).toList
      DispatchesByType (bus.dispatched name) registered (bus.topicForType name) ↔
        ∀ type other, type ≠ other → registered other ≠ [] →
          (bus.handlerPrefixes.get? type).getD [] ++ name type ≠
            (bus.handlerPrefixes.get? other).getD [] ++ name other := by
  constructor
  · intro registrations
    apply dispatchesByType_iff
    · exact EventBus.subscriptions_by_type _
    · intro type
      rw [EventBus.registered_subscriptions, EventBus.handlers_registered]
      rfl
    · exact EventBus.topicForType_registered registrations topicPrefix
  · intro registrations
    apply dispatchesByType_iff
    · exact CommandBus.subscriptions_by_type name _
    · exact fun type => CommandBus.registered_subscriptions name _
    · exact CommandBus.topicForType_registered name registrations topicPrefix

/-- Two classes of the name `Created` from two modules: each object reaches both handlers. -/
theorem same_named_classes_dispatched_together :
    (let registrations : List (EventRegistration (String × String) Nat) :=
      [.handler (handlerOf 0 ("orders", "Created")), .handler (handlerOf 1 ("users", "Created"))]
    let name := fun type => ofString type.2
    let bus := registrations.foldl EventBus.register (EventBus.create none (ofString "event."))
    ¬DispatchesByType (bus.dispatched name)
      (fun type => registrations.flatMap (EventBus.registeredBy type)) (bus.topicForType name)) ∧
    let registrations : List (CommandRegistration (String × String) Nat) :=
      [.handler (handlerOf 0 ("orders", "Created")), .handler (handlerOf 1 ("users", "Created"))]
    let name := fun type => ofString type.2
    let bus := registrations.foldl (CommandBus.register name)
      (CommandBus.create none (ofString "command."))
    ¬DispatchesByType (bus.dispatched name) (fun type => (bus.handlers.get? type).toList)
      (bus.topicForType name) := by
  constructor
  · intro registrations name bus dispatching
    rcases dispatching with ⟨dispatches, -⟩
    have counts := congrArg List.length (dispatches ("orders", "Created"))
    revert counts
    decide
  · intro registrations name bus dispatching
    rcases dispatching with ⟨dispatches, -⟩
    have counts := congrArg List.length (dispatches ("orders", "Created"))
    revert counts
    decide

end Natricine.Cqrs
