import Natricine.Cqrs.Registry
import Natricine.Library.Transition
import Natricine.Library.Update

/-! The subscribers that a bus with a `subscriber_factory` creates for its handlers, over any number
of calls of `run` and `close`. Both buses cache them under the `__name__` of the handler. -/

namespace Natricine.Cqrs

open Text Transition

variable {τ φ : Type}

/-- A `_run_handler` task, and the factory call whose subscriber it consumes once it began. -/
structure Loop (τ φ : Type) where
  handler : Handler τ φ
  subscriber : Option Nat

/-- A call of `close`: in its wait for what is in flight, in the iteration over the cache, whose
size the iterator keeps, or over. -/
inductive Closer where
  | draining
  | releasing (size position : Nat)
  | ended (raised : Bool)
  deriving DecidableEq, Repr

/-- `created` has the names that the factory was called with, `released` the calls whose subscriber
had `close` called. The tasks of a run stay on record until the next one. -/
structure Pool (τ φ : Type) where
  running : Bool
  closing : Bool
  loops : List (Loop τ φ)
  cache : Dict Str Nat
  created : List Str
  closers : List Closer
  released : List Nat

namespace Pool

def initial : Pool τ φ := ⟨false, false, [], Dict.empty, [], [], []⟩

def getSubscriber (s : Pool τ φ) (name : Str) : Pool τ φ × Nat :=
  match s.cache.get? name with
  | some call => (s, call)
  | none =>
      ({ s with
          cache := s.cache.set name s.created.length
          created := s.created ++ [name] }, s.created.length)

inductive Event where
  | run
  | begin (loop : Nat)
  | finish
  | close
  | cancel (closer : Nat)
  | release (closer : Nat) (raises : Bool)
  deriving DecidableEq, Repr

def release (s : Pool τ φ) (closer size position : Nat) (raises : Bool) : Pool τ φ :=
  if s.cache.entries.length ≠ size then
    { s with closers := s.closers.set closer (.ended true) }
  else
    match s.cache.entries[position]? with
    | some (_, call) =>
        { s with
          released := s.released ++ [call]
          closers := s.closers.set closer
            (if raises then .ended true else .releasing size (position + 1)) }
    | none =>
        { s with
          cache := Dict.empty
          closers := s.closers.set closer (.ended false) }

/-- A second `run` raises and a `close` of a bus that is not running returns; either changes
nothing. -/
def step (handlers : List (Handler τ φ)) (s : Pool τ φ) : Event → Option (Pool τ φ)
  | .run =>
      if s.running then some s
      else
        some { s with
          running := true
          closing := false
          loops := handlers.map (fun handler => ⟨handler, none⟩) }
  | .begin index =>
      match s.running, s.loops[index]? with
      | true, some ⟨handler, none⟩ =>
          let (t, call) := s.getSubscriber handler.name
          some { t with loops := t.loops.set index ⟨handler, some call⟩ }
      | _, _ => none
  | .finish =>
      if s.running then
        some { s with
          running := false
          closing := false }
      else none
  | .close =>
      if s.running then
        some { s with
          closing := true
          closers := s.closers ++ [.draining] }
      else some { s with closers := s.closers ++ [.ended false] }
  | .cancel closer =>
      match s.closers[closer]? with
      | some .draining =>
          some { s with
            closers := s.closers.set closer (.releasing s.cache.entries.length 0) }
      | some (.releasing _ _) | some (.ended _) | none => none
  | .release closer raises =>
      match s.closers[closer]? with
      | some (.releasing size position) => some (s.release closer size position raises)
      | some .draining | some (.ended _) | none => none

inductive Taken (handlers : List (Handler τ φ)) (s : Pool τ φ) : Event → Pool τ φ → Prop where
  | again (running : s.running = true) : Taken handlers s .run s
  | run (stopped : s.running = false) :
      Taken handlers s .run { s with
        running := true
        closing := false
        loops := handlers.map (fun handler => ⟨handler, none⟩) }
  | cached {index call : Nat} {handler : Handler τ φ}
      (waiting : s.loops[index]? = some ⟨handler, none⟩)
      (known : s.cache.get? handler.name = some call) :
      Taken handlers s (.begin index) { s with
        loops := s.loops.set index ⟨handler, some call⟩ }
  | created {index : Nat} {handler : Handler τ φ}
      (waiting : s.loops[index]? = some ⟨handler, none⟩)
      (fresh : s.cache.get? handler.name = none) :
      Taken handlers s (.begin index) { s with
        cache := s.cache.set handler.name s.created.length
        created := s.created ++ [handler.name]
        loops := s.loops.set index ⟨handler, some s.created.length⟩ }
  | finish (running : s.running = true) :
      Taken handlers s .finish { s with
        running := false
        closing := false }
  | close (running : s.running = true) :
      Taken handlers s .close { s with
        closing := true
        closers := s.closers ++ [.draining] }
  | closeStopped (stopped : s.running = false) :
      Taken handlers s .close { s with closers := s.closers ++ [.ended false] }
  | cancel {closer : Nat} (draining : s.closers[closer]? = some .draining) :
      Taken handlers s (.cancel closer) { s with
        closers := s.closers.set closer (.releasing s.cache.entries.length 0) }
  | resized {closer size position : Nat} {raises : Bool}
      (releasing : s.closers[closer]? = some (.releasing size position))
      (differs : s.cache.entries.length ≠ size) :
      Taken handlers s (.release closer raises) { s with
        closers := s.closers.set closer (.ended true) }
  | released {closer size position call : Nat} {raises : Bool} {name : Str}
      (releasing : s.closers[closer]? = some (.releasing size position))
      (same : s.cache.entries.length = size)
      (found : s.cache.entries[position]? = some (name, call)) :
      Taken handlers s (.release closer raises) { s with
        released := s.released ++ [call]
        closers := s.closers.set closer
          (if raises then .ended true else .releasing size (position + 1)) }
  | emptied {closer size position : Nat} {raises : Bool}
      (releasing : s.closers[closer]? = some (.releasing size position))
      (done : s.cache.entries[position]? = none) :
      Taken handlers s (.release closer raises) { s with
        cache := Dict.empty
        closers := s.closers.set closer (.ended false) }

/-- Two handlers of a run consume from two subscribers. -/
def Separate (s : Pool τ φ) : Prop :=
  ∀ one ∈ s.loops, ∀ two ∈ s.loops, one.handler.func ≠ two.handler.func →
    ∀ call, one.subscriber = some call → two.subscriber ≠ some call

/-- A subscriber was created under the name that it is cached under, and under the name of each
handler that consumes from it. -/
structure Named (handlers : List (Handler τ φ)) (s : Pool τ φ) : Prop where
  cached : ∀ name call, s.cache.get? name = some call → s.created[call]? = some name
  consumed : ∀ loop ∈ s.loops, ∀ call, loop.subscriber = some call →
    s.created[call]? = some loop.handler.name
  registered : ∀ loop ∈ s.loops, loop.handler ∈ handlers

section Step

variable {handlers : List (Handler τ φ)} {s t : Pool τ φ} {e : Event}

theorem taken_of_step (taken : step handlers s e = some t) : Taken handlers s e t := by
  cases e with
  | run =>
      rw [step] at taken
      split at taken
      · cases taken
        exact Taken.again ‹_›
      · cases taken
        exact Taken.run (Bool.eq_false_iff.mpr ‹_›)
  | begin index =>
      simp only [step] at taken
      split at taken
      · rename_i handler _ waiting
        cases taken
        rw [getSubscriber]
        cases known : s.cache.get? handler.name with
        | some call => exact Taken.cached waiting known
        | none => exact Taken.created waiting known
      · cases taken
  | finish =>
      rw [step] at taken
      split at taken
      · cases taken
        exact Taken.finish ‹_›
      · cases taken
  | close =>
      rw [step] at taken
      split at taken
      · cases taken
        exact Taken.close ‹_›
      · cases taken
        exact Taken.closeStopped (Bool.eq_false_iff.mpr ‹_›)
  | cancel closer =>
      simp only [step] at taken
      split at taken
      · rename_i draining
        cases taken
        exact Taken.cancel draining
      all_goals cases taken
  | release closer raises =>
      simp only [step] at taken
      split at taken
      · rename_i size position releasing
        cases taken
        rw [release]
        split
        · exact Taken.resized releasing ‹_›
        · rename_i same
          cases found : s.cache.entries[position]? with
          | some entry => exact Taken.released releasing (not_not.mp same) found
          | none => exact Taken.emptied releasing found
      all_goals cases taken

theorem named_initial : Named handlers (initial : Pool τ φ) where
  cached := nofun
  consumed := nofun
  registered := nofun

theorem Named.create (named : Named handlers s) (name : Str) :
    Named handlers { s with
      cache := s.cache.set name s.created.length
      created := s.created ++ [name] } where
  cached other call found := by
    rw [Dict.get?_set] at found
    split at found
    · rename_i same
      cases found
      rw [same]
      exact List.getElem?_concat_length
    · exact Update.getElem?_append_of_some _ (named.cached other call found)
  consumed loop member call consumes :=
    Update.getElem?_append_of_some _ (named.consumed loop member call consumes)
  registered := named.registered

theorem Named.consume (named : Named handlers s) {index call : Nat} {handler : Handler τ φ}
    (waiting : s.loops[index]? = some ⟨handler, none⟩)
    (created : s.created[call]? = some handler.name) :
    Named handlers { s with loops := s.loops.set index ⟨handler, some call⟩ } where
  cached := named.cached
  consumed loop member other consumes := by
    rcases List.mem_or_eq_of_mem_set member with old | rfl
    · exact named.consumed loop old other consumes
    · cases consumes
      exact created
  registered loop member := by
    rcases List.mem_or_eq_of_mem_set member with old | rfl
    · exact named.registered loop old
    · have before := named.registered _ (List.mem_of_getElem? waiting)
      exact before

theorem named_step (named : Named handlers s) (taken : step handlers s e = some t) :
    Named handlers t := by
  cases taken_of_step taken with
  | again => exact named
  | run =>
      refine ⟨named.cached, ?_, ?_⟩
      · intro loop member call consumes
        rcases List.mem_map.mp member with ⟨handler, -, rfl⟩
        cases consumes
      · intro loop member
        rcases List.mem_map.mp member with ⟨handler, inside, rfl⟩
        exact inside
  | cached waiting known => exact named.consume waiting (named.cached _ _ known)
  | created waiting => exact (named.create _).consume waiting List.getElem?_concat_length
  | finish | close | closeStopped | cancel | resized | released =>
      exact ⟨named.cached, named.consumed, named.registered⟩
  | emptied => exact ⟨nofun, named.consumed, named.registered⟩

theorem separate_of_named (named : Named handlers s)
    (distinct : ∀ f ∈ handlers, ∀ g ∈ handlers, f.func ≠ g.func → f.name ≠ g.name) :
    Separate s := by
  intro one first two second differs call own shared
  apply distinct _ (named.registered one first) _ (named.registered two second) differs
  have created := named.consumed one first call own
  rw [named.consumed two second call shared] at created
  exact (Option.some.inj created).symm

theorem run_spec (handlers : List (Handler τ φ)) :
    ∃ t, step handlers initial .run = some t ∧ t.running = true ∧
      t.loops = handlers.map (fun handler => ⟨handler, none⟩) :=
  ⟨_, rfl, rfl, rfl⟩

theorem begin_spec (handlers : List (Handler τ φ)) {index : Nat} {handler : Handler τ φ}
    (running : s.running = true) (waiting : s.loops[index]? = some ⟨handler, none⟩) :
    ∃ t call, step handlers s (.begin index) = some t ∧ t.running = true ∧
      t.loops = s.loops.set index ⟨handler, some call⟩ ∧
      t.cache.get? handler.name = some call ∧
      ∀ known, s.cache.get? handler.name = some known → call = known := by
  simp only [step, running, waiting, getSubscriber]
  cases cached : s.cache.get? handler.name with
  | some call => exact ⟨_, call, rfl, running, rfl, cached, fun _ same => Option.some.inj same⟩
  | none => exact ⟨_, _, rfl, rfl, rfl, Dict.get?_set_self, fun _ same => by cases same⟩

theorem shared_of_same_name {f g : Handler τ φ} (f_in : f ∈ handlers) (g_in : g ∈ handlers)
    (differs : f.func ≠ g.func) (same : f.name = g.name) :
    ∃ events s, exec (step handlers) initial events = some s ∧ ¬Separate s := by
  rcases List.mem_iff_getElem?.mp f_in with ⟨i, at_i⟩
  rcases List.mem_iff_getElem?.mp g_in with ⟨j, at_j⟩
  have apart : i ≠ j := by
    rintro rfl
    rw [at_i] at at_j
    cases at_j
    exact differs rfl
  have started {place : Nat} {handler : Handler τ φ} (found : handlers[place]? = some handler) :
      (handlers.map (fun handler => (⟨handler, none⟩ : Loop τ φ)))[place]? =
        some ⟨handler, none⟩ := by
    rw [List.getElem?_map, found]
    rfl
  rcases run_spec handlers with ⟨s, ran, running, loops⟩
  have waiting : s.loops[i]? = some ⟨f, none⟩ := by
    rw [loops]
    exact started at_i
  rcases begin_spec handlers running waiting with ⟨t, call, first, running, loops_t, cached, -⟩
  have waiting : t.loops[j]? = some ⟨g, none⟩ := by
    rw [loops_t, List.getElem?_set_ne apart, loops]
    exact started at_j
  rcases begin_spec handlers running waiting with ⟨u, other, second, -, loops_u, -, known⟩
  refine ⟨[.run, .begin i, .begin j], u, ?_, ?_⟩
  · exact exec_cons.mpr ⟨s, ran, exec_cons.mpr ⟨t, first, exec_cons.mpr ⟨u, second, rfl⟩⟩⟩
  · intro separate
    rw [same] at cached
    have shared := known call cached
    have one : ⟨f, some call⟩ ∈ u.loops := by
      apply List.mem_iff_getElem?.mpr
      refine ⟨i, ?_⟩
      rw [loops_u, List.getElem?_set_ne apart.symm, loops_t, List.getElem?_set_self]
      exact (List.getElem?_eq_some_iff.mp ‹_›).1
    have two : ⟨g, some other⟩ ∈ u.loops := by
      rw [loops_u]
      exact Update.new_mem_set _ waiting
    apply separate _ one _ two differs call rfl
    rw [shared]

end Step

end Pool

/-- In every run the handlers of a bus consume from subscribers of their own, if and only if no two
of them have one `__name__`. -/
theorem separate_iff_names_distinct (bus : EventBus τ φ) :
    (∀ events s, exec (Pool.step bus.handlerList) Pool.initial events = some s →
      Pool.Separate s) ↔
      ∀ f ∈ bus.handlerList, ∀ g ∈ bus.handlerList, f.func ≠ g.func → f.name ≠ g.name := by
  constructor
  · intro separate f f_in g g_in differs same
    rcases Pool.shared_of_same_name f_in g_in differs same with ⟨events, s, run, shared⟩
    exact shared (separate events s run)
  · intro distinct events s run
    apply Pool.separate_of_named _ distinct
    exact exec_preserves (fun _ _ _ => Pool.named_step) Pool.named_initial run

/-- Two functions of one name, from two modules, for one class. -/
theorem same_named_handlers_share_subscriber :
    let registrations : List (EventRegistration String Nat) :=
      [.handler (handlerOf 0 "Created"), .handler (handlerOf 1 "Created")]
    let bus := registrations.foldl EventBus.register (EventBus.create none (ofString "event."))
    ∃ s, exec (Pool.step bus.handlerList) Pool.initial [.run, .begin 0, .begin 1] = some s ∧
      ¬Pool.Separate s := by
  intro registrations bus
  refine ⟨_, rfl, ?_⟩
  intro separate
  have first : (⟨handlerOf 0 "Created", some 0⟩ : Loop String Nat) ∈
      [⟨handlerOf 0 "Created", some 0⟩, ⟨handlerOf 1 "Created", some 0⟩] := List.mem_cons_self
  have second : (⟨handlerOf 1 "Created", some 0⟩ : Loop String Nat) ∈
      [⟨handlerOf 0 "Created", some 0⟩, ⟨handlerOf 1 "Created", some 0⟩] :=
    List.mem_cons_of_mem _ List.mem_cons_self
  exact separate _ first _ second (by decide) 0 rfl rfl

end Natricine.Cqrs
