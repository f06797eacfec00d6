import Natricine.Cqrs.Registry
import Natricine.Library.Transition

/-! When a command type keeps the first handler that a bus was given for it, and when
`include_router` leaves a bus that it refuses as it was. -/

namespace Natricine.Cqrs

open Text Transition

variable {τ φ : Type} [DecidableEq τ]

namespace CommandBus

variable {name : τ → Str} {bus : CommandBus τ φ} {routerPrefix : Str}

theorem includeTypes_keeps (entries : List (τ × Handler τ φ)) {type : τ} {func : Handler τ φ}
    (registered : bus.handlers.get? type = some func) :
    (includeTypes name routerPrefix bus entries).1.handlers.get? type = some func := by
  induction entries generalizing bus with
  | nil => exact registered
  | cons entry entries ih =>
      rw [includeTypes]
      split
      · exact registered
      · rename_i fresh
        apply ih
        rw [Dict.get?_set_of_ne]
        · exact registered
        · rintro rfl
          exact fresh (Dict.mem_keys_iff.mpr ⟨func, registered⟩)

theorem includeTypes_raises (entries : List (τ × Handler τ φ))
    (distinct : (entries.map Prod.fst).Nodup) :
    (∃ error, (includeTypes name routerPrefix bus entries).2 = .error error) ↔
      ∃ entry ∈ entries, entry.1 ∈ bus.handlers.keys := by
  induction entries generalizing bus with
  | nil =>
      constructor
      · rintro ⟨error, raised⟩
        cases raised
      · rintro ⟨entry, member, -⟩
        cases member
  | cons entry entries ih =>
      rcases List.nodup_cons.mp distinct with ⟨absent, others⟩
      rw [includeTypes]
      split
      · rename_i conflict
        exact iff_of_true ⟨_, rfl⟩ ⟨entry, List.mem_cons_self, conflict⟩
      · rename_i fresh
        rw [ih others]
        simp only [Dict.mem_keys_set, List.exists_mem_cons_iff, fresh, false_or]
        constructor
        · rintro ⟨other, member, same | conflict⟩
          · rw [← same] at absent
            exact absurd (List.mem_map_of_mem member) absent
          · exact ⟨other, member, conflict⟩
        · rintro ⟨other, member, conflict⟩
          exact ⟨other, member, Or.inr conflict⟩

theorem includeRouter_raises (name : τ → Str) (bus : CommandBus τ φ) (router : CommandRouter τ φ)
    (routerPrefix : Str) :
    (∃ error, (bus.includeRouter name router routerPrefix).2 = .error error) ↔
      ∃ type ∈ router.handlers.keys, type ∈ bus.handlers.keys := by
  rw [includeRouter, includeTypes_raises _ router.handlers.distinct]
  constructor
  · rintro ⟨entry, member, conflict⟩
    exact ⟨entry.1, List.mem_map_of_mem member, conflict⟩
  · rintro ⟨type, member, conflict⟩
    rcases List.mem_map.mp member with ⟨entry, inside, rfl⟩
    exact ⟨entry, inside, conflict⟩

/-- `include_router` raises if and only if the router has a type that the bus has, and then the bus
is as before. -/
def IncludesAtomically (name : τ → Str) (bus : CommandBus τ φ) (router : CommandRouter τ φ)
    (routerPrefix : Str) : Prop :=
  ((∃ error, (bus.includeRouter name router routerPrefix).2 = .error error) ↔
    ∃ type ∈ router.handlers.keys, type ∈ bus.handlers.keys) ∧
  ∀ error, (bus.includeRouter name router routerPrefix).2 = .error error →
    (bus.includeRouter name router routerPrefix).1.handlers = bus.handlers ∧
    (bus.includeRouter name router routerPrefix).1.handlerPrefixes = bus.handlerPrefixes ∧
    ∀ type, (bus.includeRouter name router routerPrefix).1.topicForType name type =
      bus.topicForType name type

/-- The types before the first conflict have been registered when the loop meets it: only where it
meets none, or meets it at once, is nothing left half done. -/
theorem includeRouter_atomic_iff (name : τ → Str) (bus : CommandBus τ φ)
    (router : CommandRouter τ φ) (routerPrefix : Str) :
    IncludesAtomically name bus router routerPrefix ↔
      (∀ type ∈ router.handlers.keys, type ∉ bus.handlers.keys) ∨
        ∃ first, router.handlers.keys.head? = some first ∧ first ∈ bus.handlers.keys := by
  have raises := includeRouter_raises name bus router routerPrefix
  constructor
  · rintro ⟨-, restored⟩
    by_cases conflicts : ∃ type ∈ router.handlers.keys, type ∈ bus.handlers.keys
    · right
      rcases raises.mpr conflicts with ⟨error, raised⟩
      have same := (restored error raised).1
      rw [includeRouter] at same
      rw [Dict.keys] at conflicts ⊢
      cases entries : router.handlers.entries with
      | nil =>
          rw [entries] at conflicts
          rcases conflicts with ⟨type, member, -⟩
          cases member
      | cons entry others =>
          refine ⟨entry.1, rfl, ?_⟩
          -- a first type that is new to the bus has been registered
          by_contra fresh
          rw [entries, includeTypes, if_neg fresh] at same
          have added : (bus.handlers.set entry.1 entry.2).get? entry.1 = some entry.2 :=
            Dict.get?_set_self
          have kept : bus.handlers.get? entry.1 = some entry.2 := by
            rw [← same]
            exact includeTypes_keeps others added
          exact fresh (Dict.mem_keys_iff.mpr ⟨_, kept⟩)
    · left
      intro type member conflict
      exact conflicts ⟨type, member, conflict⟩
  · intro safe
    refine ⟨raises, ?_⟩
    intro error raised
    rcases safe with fresh | ⟨first, head, conflict⟩
    · rcases raises.mp ⟨error, raised⟩ with ⟨type, member, conflict⟩
      exact absurd conflict (fresh type member)
    · rw [Dict.keys, List.head?_map] at head
      rcases Option.map_eq_some_iff.mp head with ⟨entry, found, rfl⟩
      rcases List.head?_eq_some_iff.mp found with ⟨others, entries⟩
      have unchanged : (bus.includeRouter name router routerPrefix).1 = bus := by
        rw [includeRouter, entries, includeTypes, if_pos conflict]
      rw [unchanged]
      exact ⟨rfl, rfl, fun _ => rfl⟩

end CommandBus

/-- A bus and the routers that have been made, as the modules of a program fill them. -/
structure Modules (τ φ : Type) where
  bus : CommandBus τ φ
  routers : List (CommandRouter τ φ)

inductive Call (τ φ : Type) where
  | newRouter
  | routerHandler (router : Nat) (func : Handler τ φ)
  | busHandler (func : Handler τ φ)
  | includeRouter (router : Nat) (routerPrefix : Str)

namespace Modules

def perform (name : τ → Str) (s : Modules τ φ) :
    Call τ φ → Option (Modules τ φ × Except RegistrationError Unit)
  | .newRouter => some ({ s with routers := s.routers ++ [⟨Dict.empty⟩] }, .ok ())
  | .routerHandler index func =>
      s.routers[index]?.map fun router =>
        match router.handler func with
        | .ok changed => ({ s with routers := s.routers.set index changed }, .ok ())
        | .error error => (s, .error error)
  | .busHandler func =>
      some (match s.bus.handler func with
        | .ok changed => ({ s with bus := changed }, .ok ())
        | .error error => (s, .error error))
  | .includeRouter index routerPrefix =>
      s.routers[index]?.map fun router =>
        ({ s with bus := (s.bus.includeRouter name router routerPrefix).1 },
          (s.bus.includeRouter name router routerPrefix).2)

def step (name : τ → Str) (s : Modules τ φ) (call : Call τ φ) : Option (Modules τ φ) :=
  (s.perform name call).map Prod.fst

def Registers (s : Modules τ φ) (type : τ) : Call τ φ → Prop
  | .newRouter | .routerHandler _ _ => False
  | .busHandler func => func.handledType = .ok type
  | .includeRouter index _ =>
      ∃ router, s.routers[index]? = some router ∧ type ∈ router.handlers.keys

/-- A type that has a handler when the call is made keeps it to the end of the calls, and where the
call is to register one for the type, it raises. -/
def KeepsFirst (name : τ → Str) (s : Modules τ φ) (calls : List (Call τ φ)) : Prop :=
  ∀ front call back, calls = front ++ call :: back → ∀ t, exec (step name) s front = some t →
    ∀ type func, t.bus.handlers.get? type = some func →
      (t.Registers type call → ∀ result, t.perform name call = some result →
        ∃ error, result.2 = .error error) ∧
      ∀ u, exec (step name) t (call :: back) = some u → u.bus.handlers.get? type = some func

/-- `CommandBus.handler` is not given a type that the bus has a handler for. -/
def NewToBus (s : Modules τ φ) (call : Call τ φ) : Prop :=
  ∀ func type, call = .busHandler func → func.handledType = .ok type →
    type ∉ s.bus.handlers.keys

section Step

variable {name : τ → Str} {s t : Modules τ φ} {call : Call τ φ} {type : τ} {func : Handler τ φ}

theorem handler_registered (bus : CommandBus τ φ) (handled : func.handledType = .ok type) :
    bus.handler func = .ok { bus with handlers := bus.handlers.set type func } := by
  rw [CommandBus.handler, handled]
  rfl

theorem handler_failed (bus : CommandBus τ φ) {error : RegistrationError}
    (failed : func.handledType = .error error) : bus.handler func = .error error := by
  rw [CommandBus.handler, failed]
  rfl

theorem step_keeps (registered : s.bus.handlers.get? type = some func) (fresh : s.NewToBus call)
    (taken : step name s call = some t) : t.bus.handlers.get? type = some func := by
  rcases Option.map_eq_some_iff.mp taken with ⟨result, performed, rfl⟩
  cases call with
  | newRouter =>
      cases performed
      exact registered
  | routerHandler index added =>
      rcases Option.map_eq_some_iff.mp performed with ⟨router, -, rfl⟩
      cases router.handler added <;> exact registered
  | includeRouter index routerPrefix =>
      rcases Option.map_eq_some_iff.mp performed with ⟨router, -, rfl⟩
      exact CommandBus.includeTypes_keeps _ registered
  | busHandler added =>
      rw [perform] at performed
      cases handled : added.handledType with
      | error error =>
          rw [handler_failed s.bus handled] at performed
          cases performed
          exact registered
      | ok other =>
          rw [handler_registered s.bus handled] at performed
          cases performed
          dsimp only
          rw [Dict.get?_set_of_ne]
          · exact registered
          · rintro rfl
            exact fresh added type rfl handled (Dict.mem_keys_iff.mpr ⟨func, registered⟩)

theorem step_refuses (registered : s.bus.handlers.get? type = some func) (fresh : s.NewToBus call)
    (attempt : s.Registers type call) {result : Modules τ φ × Except RegistrationError Unit}
    (performed : s.perform name call = some result) : ∃ error, result.2 = .error error := by
  have known := Dict.mem_keys_iff.mpr ⟨func, registered⟩
  cases call with
  | newRouter => exact attempt.elim
  | routerHandler index added => exact attempt.elim
  | busHandler added => exact absurd known (fresh added type rfl attempt)
  | includeRouter index routerPrefix =>
      rcases attempt with ⟨router, found, inside⟩
      rw [perform, found] at performed
      cases performed
      exact (CommandBus.includeRouter_raises name s.bus router routerPrefix).mpr
        ⟨type, inside, known⟩

theorem busHandler_returns (handled : func.handledType = .ok type) :
    s.perform name (.busHandler func) =
      some ({ s with bus := { s.bus with handlers := s.bus.handlers.set type func } }, .ok ()) := by
  rw [perform, handler_registered s.bus handled]

end Step

/-- Whatever the calls, a command type keeps its first handler, and every later attempt raises, if
and only if `CommandBus.handler` is never used for a type that has one. -/
theorem keepsFirst_iff (name : τ → Str) (s : Modules τ φ) (calls : List (Call τ φ)) :
    KeepsFirst name s calls ↔ Along (step name) NewToBus s calls := by
  constructor
  · intro keeps
    induction calls generalizing s with
    | nil => trivial
    | cons call calls ih =>
        constructor
        · rintro func type rfl handled known
          rcases Dict.mem_keys_iff.mp known with ⟨first, registered⟩
          have attempts := (keeps [] _ calls rfl s rfl type first registered).1
          rcases attempts handled _ (busHandler_returns handled) with ⟨error, raised⟩
          cases raised
        · intro t taken
          apply ih
          rintro front other back rfl u run
          exact keeps (call :: front) other back rfl u (exec_cons.mpr ⟨t, taken, run⟩)
  · rintro guarded front call back rfl t run type func registered
    have remaining : Along (step name) NewToBus t (call :: back) :=
      (along_append.mp guarded).2 t run
    refine ⟨fun attempt result => step_refuses registered remaining.1 attempt, ?_⟩
    intro u rest
    exact exec_invariant (fun _ _ _ kept fresh => step_keeps kept fresh) registered remaining rest

def start (generateTopic : Option (Str → Str)) (topicPrefix : Str) : Modules τ φ :=
  ⟨CommandBus.create generateTopic topicPrefix, []⟩

/-- Two handlers for one type, both registered with `CommandBus.handler`: the second replaces the
first, and nothing is raised. -/
theorem busHandler_replaces :
    ¬KeepsFirst (fun _ => []) (start none (ofString "command."))
        [.busHandler (handlerOf 0 ()), .busHandler (handlerOf 1 ())] := by
  intro keeps
  have first : ((start none (ofString "command.")).bus.handlers.set () (handlerOf 0 ())).get? () =
      some (handlerOf 0 ()) := Dict.get?_set_self
  rcases (keeps [.busHandler (handlerOf 0 ())] (.busHandler (handlerOf 1 ())) [] rfl _ rfl () _
    first).1 rfl _ rfl with ⟨error, raised⟩
  cases raised

end Modules

/-- A router with two types, of which the bus has the second: the first is registered under the
prefix before the call raises. -/
theorem includeRouter_half_done :
    ¬∀ (bus : CommandBus Bool Nat) (router : CommandRouter Bool Nat) (routerPrefix : Str),
      CommandBus.IncludesAtomically (fun _ => []) bus router routerPrefix := by
  intro atomic
  let bus : CommandBus Bool Nat :=
    ⟨none, ofString "command.", Dict.empty.set true (handlerOf 0 true), Dict.empty⟩
  let router : CommandRouter Bool Nat :=
    ⟨(Dict.empty.set false (handlerOf 1 false)).set true (handlerOf 2 true)⟩
  have restored := (atomic bus router (ofString "users.")).2 _ rfl
  have topic := restored.2.2 false
  revert topic
  decide

end Natricine.Cqrs
