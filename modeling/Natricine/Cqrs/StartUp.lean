import Natricine.Cqrs.Dispatch
import Natricine.PubSub.Delivery

/-! A bus over one in-memory pub/sub: `run` starts a task for every handler, which subscribes when
it takes its first step, and messages are sent at any time. -/

namespace Natricine.Cqrs.StartUp

open PubSub Text Transition

/-- What `CommandBus` and `EventBus` have in common here: `subscriptions` is what `run` starts. -/
structure Kind (τ φ β ρ : Type) where
  register : β → ρ → β
  subscriptions : β → List (Subscription τ φ)
  topicForType : β → τ → Str
  by_type : ∀ bus, ∀ subscription ∈ subscriptions bus,
    subscription.topic = topicForType bus subscription.type

/-- A `_run_handler` task: not begun, in the loop over its subscription, or cancelled before it
could subscribe. -/
inductive Stage where
  | spawned
  | subscribed (index : Nat)
  | dropped
  deriving DecidableEq, Repr

structure Loop (τ φ : Type) where
  subscription : Subscription τ φ
  stage : Stage

structure Sent (τ φ : Type) where
  publication : Nat
  handlers : List (Subscription τ φ)

/-- The tasks stay on record. `sends` is read by no code. -/
structure State (τ φ β : Type) where
  bus : β
  running : Bool
  loops : List (Loop τ φ)
  pubsub : Memory.State
  sends : List (Sent τ φ)

inductive Event (τ ρ : Type) where
  | register (registration : ρ)
  | run
  | begin (loop : Nat)
  | drop (loop : Nat)
  | finish
  | send (type : τ) (message : Message)
  | pubsub (event : Memory.Event)

variable {τ φ β ρ : Type}

def initial (bus : β) : State τ φ β := ⟨bus, false, [], Memory.initial, []⟩

def Loop.IsOver (pubsub : Memory.State) (loop : Loop τ φ) : Prop :=
  match loop.stage with
  | .spawned => False
  | .subscribed index => ∀ sub ∈ pubsub.subscriptions[index]?, sub.stage = .left
  | .dropped => True

instance (pubsub : Memory.State) : (loop : Loop τ φ) → Decidable (loop.IsOver pubsub)
  | ⟨_, .spawned⟩ => isFalse id
  | ⟨_, .subscribed index⟩ =>
      inferInstanceAs (Decidable (∀ sub ∈ pubsub.subscriptions[index]?, sub.stage = .left))
  | ⟨_, .dropped⟩ => isTrue trivial

def beginLoop (s : State τ φ β) (index : Nat) (loop : Loop τ φ) : State τ φ β :=
  match Memory.subscribe s.pubsub loop.subscription.topic with
  | .ok pubsub =>
      { s with
        loops := s.loops.set index { loop with stage := .subscribed s.pubsub.subscriptions.length }
        pubsub := pubsub }
  | .error _ => { s with loops := s.loops.set index { loop with stage := .dropped } }

section Step

variable [DecidableEq τ]

/-- `send` of a command, or `publish` of an event. -/
def send (kind : Kind τ φ β ρ) (s : State τ φ β) (type : τ) (message : Message) : State τ φ β :=
  { s with
    pubsub := { s.pubsub with
      publications := s.pubsub.publications ++
        [Memory.publish s.pubsub (kind.topicForType s.bus type) [message]] }
    sends :=
      if s.running then
        s.sends ++ [⟨s.pubsub.publications.length,
          (kind.subscriptions s.bus).filter (fun subscription => subscription.type = type)⟩]
      else s.sends }

def step (kind : Kind τ φ β ρ) (bufferSize : Nat) (s : State τ φ β) :
    Event τ ρ → Option (State τ φ β)
  | .register registration => some { s with bus := kind.register s.bus registration }
  | .run =>
      if s.running then some s
      else
        some { s with
          running := true
          loops := s.loops ++
            (kind.subscriptions s.bus).map (fun subscription => ⟨subscription, .spawned⟩) }
  | .begin index =>
      match s.loops[index]? with
      | some loop => if loop.stage = .spawned then some (beginLoop s index loop) else none
      | none => none
  | .drop index =>
      match s.loops[index]? with
      | some loop =>
          if loop.stage = .spawned then
            some { s with loops := s.loops.set index { loop with stage := .dropped } }
          else none
      | none => none
  | .finish =>
      if s.running ∧ ∀ loop ∈ s.loops, loop.IsOver s.pubsub then some { s with running := false }
      else none
  | .send type message => some (send kind s type message)
  | .pubsub event =>
      (Memory.step bufferSize s.pubsub event).map (fun pubsub => { s with pubsub := pubsub })

end Step

/-- What was sent while the bus ran is put on the subscription of every handler of its type. -/
def Put (s : State τ φ β) : Prop :=
  ∀ sent ∈ s.sends, ∀ handler ∈ sent.handlers, ∃ loop ∈ s.loops, loop.subscription = handler ∧
    ∃ index, loop.stage = .subscribed index ∧ Memory.Arrives s.pubsub sent.publication index

/-- A message is sent when all the handlers of its type have subscribed to the topic and are still
in their loops; and where a subscriber leaves, it disturbs no publish call, and if it is a
handler's, all that was sent to it before has arrived. -/
def Attended (kind : Kind τ φ β ρ) (s : State τ φ β) : Event τ ρ → Prop
  | .send type _ => s.running = true → ∀ handler ∈ kind.subscriptions s.bus, handler.type = type →
      ∃ loop ∈ s.loops, loop.subscription = handler ∧
        ∃ index, loop.stage = .subscribed index ∧ index ∈ s.pubsub.subscribers handler.topic
  | .pubsub event => Memory.LeaversBehindNone s.pubsub event ∧
      ∀ sent ∈ s.sends, ∀ loop ∈ s.loops, ∀ index, loop.stage = .subscribed index →
        Memory.LeavesServed sent.publication index s.pubsub event
  | _ => True

structure Attending (s : State τ φ β) : Prop where
  delivering : Memory.Delivering s.pubsub
  known : ∀ sent ∈ s.sends, sent.publication < s.pubsub.publications.length
  put : Put s

section Run

variable {kind : Kind τ φ β ρ} {bufferSize : Nat} {s t : State τ φ β} {e : Event τ ρ}

theorem initial_attending (bus : β) : Attending (initial bus : State τ φ β) :=
  ⟨Memory.initial_delivering, fun _ none => absurd none List.not_mem_nil,
    fun _ none => absurd none List.not_mem_nil⟩

theorem Attending.pubsub (inv : Attending s) {event : Memory.Event}
    (taken : Memory.step bufferSize s.pubsub event = some t.pubsub) (unclosed : event ≠ .close)
    (behind : Memory.LeaversBehindNone s.pubsub event)
    (served : ∀ sent ∈ s.sends, ∀ loop ∈ s.loops, ∀ index, loop.stage = .subscribed index →
      Memory.LeavesServed sent.publication index s.pubsub event)
    (kept : ∀ loop ∈ s.loops, loop.stage ≠ .spawned → loop ∈ t.loops)
    (same : t.sends = s.sends) : Attending t := by
  refine ⟨?_, ?_, ?_⟩
  · exact Memory.step_delivering bufferSize _ _ _ inv.delivering ⟨behind, unclosed⟩ taken
  · intro sent member
    rw [same] at member
    have before := List.getElem?_eq_getElem (inv.known sent member)
    rcases Memory.publication_step inv.delivering unclosed taken before with ⟨next, there, -⟩
    exact (List.getElem?_eq_some_iff.mp there).1
  · intro sent member handler needed
    rw [same] at member
    rcases inv.put sent member handler needed with ⟨loop, there, named, index, stage, arrives⟩
    refine ⟨loop, kept loop there ?_, named, index, stage, ?_⟩
    · rw [stage]
      exact nofun
    · exact Memory.arrives_step inv.delivering behind unclosed
        (served sent member loop there index stage) taken (inv.known sent member) arrives

theorem Attending.keep (inv : Attending s) (pubsub : t.pubsub = s.pubsub)
    (sends : t.sends = s.sends)
    (kept : ∀ loop ∈ s.loops, loop.stage ≠ .spawned → loop ∈ t.loops) : Attending t := by
  refine ⟨pubsub ▸ inv.delivering, ?_, ?_⟩
  · intro sent member
    rw [sends] at member
    rw [pubsub]
    exact inv.known sent member
  · intro sent member handler needed
    rw [sends] at member
    rcases inv.put sent member handler needed with ⟨loop, there, named, index, stage, arrives⟩
    refine ⟨loop, kept loop there ?_, named, index, stage, pubsub ▸ arrives⟩
    rw [stage]
    exact nofun

theorem Attending.beginLoop (inv : Attending s) {index : Nat} {loop : Loop τ φ}
    (found : s.loops[index]? = some loop) (spawned : loop.stage = .spawned) :
    Attending (beginLoop s index loop) := by
  have kept : ∀ changed : Loop τ φ, ∀ other ∈ s.loops, other.stage ≠ .spawned →
      other ∈ s.loops.set index changed := by
    intro changed other member begun
    rcases Update.mem_set_of_mem changed found member with stays | rfl
    · exact stays
    · exact absurd spawned begun
  rw [StartUp.beginLoop]
  split
  · rename_i pubsub made
    have taken : Memory.step 0 s.pubsub (.subscribe loop.subscription.topic) = some pubsub := by
      simp only [Memory.step, made]
    exact inv.pubsub taken (by simp) trivial (by simp [Memory.LeavesServed]) (kept _) rfl
  · exact inv.keep rfl rfl (kept _)

variable [DecidableEq τ]

theorem Attending.send (inv : Attending s) {type : τ}
    (listening : s.running = true → ∀ handler ∈ kind.subscriptions s.bus, handler.type = type →
      ∃ loop ∈ s.loops, loop.subscription = handler ∧
        ∃ index, loop.stage = .subscribed index ∧ index ∈ s.pubsub.subscribers handler.topic)
    (message : Message) : Attending (StartUp.send kind s type message) := by
  have taken : Memory.step 0 s.pubsub (.publish (kind.topicForType s.bus type) [message]) =
      some (StartUp.send kind s type message).pubsub := rfl
  have rest : Attending { StartUp.send kind s type message with sends := s.sends } :=
    inv.pubsub taken nofun trivial (fun _ _ _ _ _ _ => nofun) (fun _ member _ => member) rfl
  rcases rest with ⟨delivering, known, put⟩
  have cases_of : ∀ sent ∈ (StartUp.send kind s type message).sends, sent ∈ s.sends ∨
      s.running = true ∧ sent = ⟨s.pubsub.publications.length,
        (kind.subscriptions s.bus).filter (fun subscription => subscription.type = type)⟩ := by
    intro sent member
    simp only [StartUp.send] at member
    split at member
    · rename_i runs
      rcases List.mem_append.mp member with before | last
      · exact Or.inl before
      · exact Or.inr ⟨runs, List.mem_singleton.mp last⟩
    · exact Or.inl member
  refine ⟨delivering, ?_, ?_⟩
  · intro sent member
    rcases cases_of sent member with before | ⟨-, rfl⟩
    · exact known sent before
    · simp only [StartUp.send, List.length_append, List.length_singleton]
      omega
  · intro sent member
    rcases cases_of sent member with before | ⟨runs, rfl⟩
    · exact put sent before
    · intro handler needed
      rcases List.mem_filter.mp needed with ⟨registered, typed⟩
      have same : handler.type = type := of_decide_eq_true typed
      rcases listening runs handler registered same with ⟨loop, there, named, index, stage, listens⟩
      rw [kind.by_type s.bus handler registered, same] at listens
      exact ⟨loop, there, named, index, stage,
        Memory.arrives_publish inv.delivering listens [message] taken⟩

theorem step_attending (inv : Attending s) (attended : Attended kind s e)
    (unclosed : e ≠ .pubsub .close) (taken : step kind bufferSize s e = some t) :
    Attending t := by
  cases e with
  | register registration =>
      cases taken
      exact inv.keep rfl rfl (fun _ member _ => member)
  | run =>
      simp only [step] at taken
      split at taken
      · cases taken
        exact inv
      · cases taken
        exact inv.keep rfl rfl (fun _ member _ => List.mem_append_left _ member)
  | begin index =>
      simp only [step] at taken
      split at taken
      · rename_i loop found
        split at taken
        · rename_i spawned
          cases taken
          exact inv.beginLoop found spawned
        · cases taken
      · cases taken
  | drop index =>
      simp only [step] at taken
      split at taken
      · rename_i loop found
        split at taken
        · rename_i spawned
          cases taken
          refine inv.keep rfl rfl ?_
          intro other member begun
          rcases Update.mem_set_of_mem { loop with stage := .dropped } found member with
            stays | rfl
          · exact stays
          · exact absurd spawned begun
        · cases taken
      · cases taken
  | finish =>
      simp only [step] at taken
      split at taken
      · cases taken
        exact inv.keep rfl rfl (fun _ member _ => member)
      · cases taken
  | send type message =>
      cases taken
      exact inv.send attended message
  | pubsub event =>
      rcases Option.map_eq_some_iff.mp taken with ⟨pubsub, moved, rfl⟩
      have opened : event ≠ .close := fun same => unclosed (same ▸ rfl)
      exact inv.pubsub moved opened attended.1 attended.2 (fun _ member _ => member) rfl

end Run

/-- Where every message comes when the handlers of its type listen, and no subscriber leaves in the
way of one, none is lost. -/
theorem attended_sends_put [DecidableEq τ] (kind : Kind τ φ β ρ) (bufferSize : Nat) (bus : β)
    (events : List (Event τ ρ)) (unclosed : ∀ e ∈ events, e ≠ .pubsub .close)
    (attended : Along (step kind bufferSize) (Attended kind) (initial bus) events) :
    Throughout (step kind bufferSize) Put (initial bus) events := by
  intro s visited
  have both := along_and attended (along_of_forall (fun e member _ => unclosed e member)
    (initial bus))
  have preserved : ∀ s e t, Attending s → Attended kind s e ∧ e ≠ .pubsub .close →
      step kind bufferSize s e = some t → Attending t :=
    fun _ _ _ inv guarded taken => step_attending inv guarded.1 guarded.2 taken
  exact (visits_invariant preserved (initial_attending bus) both visited).put

def commandBus [DecidableEq τ] (name : τ → Str) :
    Kind τ φ (CommandBus τ φ) (CommandRegistration τ φ) where
  register := CommandBus.register name
  subscriptions := CommandBus.subscriptions name
  topicForType := CommandBus.topicForType name
  by_type := CommandBus.subscriptions_by_type name

def eventBus [DecidableEq τ] (name : τ → Str) :
    Kind τ φ (EventBus τ φ) (EventRegistration τ φ) where
  register := EventBus.register
  subscriptions := EventBus.subscriptions name
  topicForType := EventBus.topicForType name
  by_type := EventBus.subscriptions_by_type

section Runs

def started {ρ : Type} (registration : ρ) (rest : List (Event Nat ρ)) : List (Event Nat ρ) :=
  .register registration :: .run :: rest

def created : Message := ⟨[], [], 0, AckState.fresh⟩

/-- A message comes after `run` has spawned the task of its handler and before that subscribes: it
is dropped, on either bus. -/
theorem sent_before_first_step_dropped :
    (¬Throughout (step (commandBus fun _ => ofString "Created") 10) Put
      (initial (CommandBus.create none (ofString "command.")))
      (started (.handler (handlerOf 0 7)) [.send 7 created])) ∧
    ¬Throughout (step (eventBus fun _ => ofString "Created") 10) Put
      (initial (EventBus.create none (ofString "event.")))
      (started (.handler (handlerOf 0 7)) [.send 7 created]) := by
  constructor
  · intro throughout
    have put := throughout _ ⟨_, List.prefix_rfl, rfl⟩
    rcases put _ List.mem_cons_self _ List.mem_cons_self with ⟨loop, member, -, index, stage, -⟩
    rw [List.mem_singleton.mp member] at stage
    cases stage
  · intro throughout
    have put := throughout _ ⟨_, List.prefix_rfl, rfl⟩
    rcases put _ List.mem_cons_self _ List.mem_cons_self with ⟨loop, member, -, index, stage, -⟩
    rw [List.mem_singleton.mp member] at stage
    cases stage

theorem sent_after_first_step_put :
    Throughout (step (commandBus fun _ => ofString "Created") 10) Put
      (initial (CommandBus.create none (ofString "command.")))
      (started (.handler (handlerOf 0 7))
        [.begin 0, .send 7 created, .pubsub (.advance 0), .pubsub (.put 0),
          .pubsub (.advance 0)]) := by
  apply attended_sends_put
  · intro e member same
    rw [same] at member
    simp [started] at member
  · refine ⟨trivial, ?_⟩
    intro s taken
    cases taken
    refine ⟨trivial, ?_⟩
    intro s taken
    cases taken
    refine ⟨trivial, ?_⟩
    intro s taken
    cases taken
    refine ⟨?_, ?_⟩
    · intro _ handler member _
      rw [List.mem_singleton.mp member]
      exact ⟨_, List.mem_cons_self, rfl, 0, rfl, by decide⟩
    · intro s taken
      cases taken
      refine ⟨⟨trivial, fun _ _ _ _ _ _ => nofun⟩, ?_⟩
      intro s taken
      cases taken
      refine ⟨⟨trivial, fun _ _ _ _ _ _ => nofun⟩, ?_⟩
      intro s taken
      cases taken
      exact ⟨⟨trivial, fun _ _ _ _ _ _ => nofun⟩, fun _ _ => trivial⟩

end Runs

end Natricine.Cqrs.StartUp
