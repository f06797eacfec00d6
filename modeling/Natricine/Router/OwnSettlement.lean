import Natricine.Router.Middleware
import Natricine.Router.RunHandler
import Natricine.Service.Workload

namespace Natricine.Router

open Effect PubSub Service

/-- A message in the hands of its handler: its flags, the callbacks of it that were run, and the
rest of what the handler and the retries work on. -/
structure Settling (τ : Type) where
  flags : AckState
  callbacks : List Settlement
  rest : τ
  deriving DecidableEq, Repr

/-- How the callbacks of the message and the publishing of its outputs end. -/
structure Surroundings where
  callback : Settlement → Except Exn Unit
  publish : Except Exn Unit

def guardOf : Settlement → AckState → Except String AckState
  | .ack => AckState.ack
  | .nack => AckState.nack

def flagsOf : Settlement → AckState
  | .ack => ⟨true, false⟩
  | .nack => ⟨false, true⟩

section Actions

variable {τ α : Type}

def answered : Except Exn α → Effect Abort (Settling τ) α
  | .ok value => pure value
  | .error exn => throw (.raised (.other exn))

def settle (surroundings : Surroundings) (settlement : Settlement) :
    Effect Abort (Settling τ) Unit := do
  match guardOf settlement (← get).flags with
  | .error text => throw (.raised (.other (.valueError text)))
  | .ok flags =>
      modify (fun s => { s with flags := flags, callbacks := s.callbacks ++ [settlement] })
      answered (surroundings.callback settlement)

def outside (action : Effect Abort τ α) : Effect Abort (Settling τ) α :=
  ExceptT.mk fun s => ((exec action s.rest).1, { s with rest := (exec action s.rest).2 })

/-- A handler: what it does with the message is to settle it, as often as it likes, and go on
from there whether that returns or raises. -/
inductive Body (τ : Type) where
  | returns (outputs : List Message)
  | raises (failure : Failure)
  | reads (next : τ → Body τ)
  | writes (state : τ) (next : Body τ)
  | settles (settlement : Settlement) (passed : Body τ) (raised : Failure → Body τ)

def failureOf (action : Effect Abort (Settling τ) Unit) :
    Effect Abort (Settling τ) (Option Failure) :=
  tryCatch (do action; return none) fun
    | .raised failure => return some failure
    | .cancelled => throw .cancelled

def Body.run (surroundings : Surroundings) : Body τ → Effect Abort (Settling τ) (List Message)
  | .returns outputs => pure outputs
  | .raises failure => throw (.raised failure)
  | .reads next => do (next (← get).rest).run surroundings
  | .writes state next => do
      modify (fun s => { s with rest := state })
      next.run surroundings
  | .settles settlement passed raised => do
      let failed ← failureOf (settle surroundings settlement)
      failed.elim (passed.run surroundings) (fun failure => (raised failure).run surroundings)

def Ambient.outside (ambient : Ambient τ) : Ambient (Settling τ) where
  uniform low high := Router.outside (ambient.uniform low high)
  sleep delay := Router.outside (ambient.sleep delay)
  bool := ambient.bool
  runtimeError := ambient.runtimeError

def Retry.outside (config : Retry τ) : Retry (Settling τ) where
  maxRetries := config.maxRetries
  delay := config.delay
  backoff := config.backoff
  jitter := config.jitter
  retryOn := config.retryOn
  onRetry := config.onRetry.map fun onRetry attempt failure msg =>
    Router.outside (onRetry attempt failure msg)

def complete (handler : Handler) (surroundings : Surroundings) (outputs : List Message) :
    Effect Abort (Settling τ) Unit := do
  settle surroundings .ack
  if handler.publishes outputs then answered surroundings.publish

/-- The `except` branch, which a cancellation does not enter. -/
def abandon (surroundings : Surroundings) : Abort → Effect Abort (Settling τ) Unit
  | .raised failure => do
      settle surroundings .nack
      throw (.raised failure)
  | .cancelled => throw .cancelled

/-- The body of the loop in `_run_handler` for a message that is processed. -/
def processWith (handler : Handler) (surroundings : Surroundings)
    (wrapped : HandlerFunc (Settling τ)) (msg : Message) : Effect Abort (Settling τ) Unit :=
  tryCatch (do complete handler surroundings (← wrapped msg)) (abandon surroundings)

end Actions

/-- A handler as the router has it, with the retries of the router and its own around it. -/
structure Registered (τ : Type) where
  handler : Handler
  func : Message → Body τ
  ambient : Ambient τ
  routerRetries : List (Retry τ)
  ownRetries : List (Retry τ)

/-- A message that the loop has processed: how the rest stood before, how the body of the loop
ended, and what it left. -/
structure Passage (τ : Type) where
  message : Message
  surroundings : Surroundings
  before : τ
  outcome : Except Abort Unit
  after : Settling τ

namespace Registered

variable {τ : Type}

def middleware (registered : Registered τ) (config : Retry τ) : Middleware (Settling τ) :=
  retry registered.ambient.outside config.outside

def wrapped (registered : Registered τ) (surroundings : Surroundings) : HandlerFunc (Settling τ) :=
  wrap (registered.routerRetries.map registered.middleware)
    (registered.ownRetries.map registered.middleware)
    (fun msg => (registered.func msg).run surroundings)

def runHandler (registered : Registered τ) : τ → List (Message × Surroundings) → List (Passage τ)
  | _, [] => []
  | rest, (msg, surroundings) :: offers =>
      let result := exec (processWith registered.handler surroundings
        (registered.wrapped surroundings) msg) ⟨AckState.fresh, [], rest⟩
      ⟨msg, surroundings, rest, result.1, result.2⟩ ::
        match result.1 with
        | .ok _ => registered.runHandler result.2.rest offers
        | .error _ => []

def call (registered : Registered τ) (passage : Passage τ) :
    Except Abort (List Message) × Settling τ :=
  exec (registered.wrapped passage.surroundings passage.message)
    ⟨AckState.fresh, [], passage.before⟩

end Registered

def refusal : Settlement → String
  | .ack => "Cannot nack a message that has been acked"
  | .nack => "Message already nacked"

section Settle

variable {τ : Type} {surroundings : Surroundings} {s : Settling τ}

theorem guardOf_fresh (settlement : Settlement) :
    guardOf settlement AckState.fresh = .ok (flagsOf settlement) := by
  cases settlement <;> rfl

theorem fresh_of_guardOf {settlement : Settlement} {flags next : AckState}
    (passed : guardOf settlement flags = .ok next) : flags = AckState.fresh := by
  cases settlement with
  | ack => exact ((AckState.ack_ok_iff flags next).mp passed).1
  | nack => exact ((AckState.nack_ok_iff flags next).mp passed).1

theorem guardOf_settled (settlement choice : Settlement) :
    ∃ text, guardOf settlement (flagsOf choice) = .error text := by
  cases settlement <;> cases choice <;> exact ⟨_, rfl⟩

theorem nack_refused (choice : Settlement) :
    guardOf .nack (flagsOf choice) = .error (refusal choice) := by
  cases choice <;> rfl

theorem flagsOf_ne_fresh (choice : Settlement) : flagsOf choice ≠ AckState.fresh := by
  cases choice <;> exact nofun

theorem exec_answered {α : Type} (answer : Except Exn α) (s : Settling τ) :
    exec (answered answer) s = (answer.mapError (fun exn => .raised (.other exn)), s) := by
  cases answer <;> rfl

theorem exec_settle_fresh (unsettled : s.flags = AckState.fresh) (settlement : Settlement) :
    exec (settle surroundings settlement) s =
      ((surroundings.callback settlement).mapError (fun exn => .raised (.other exn)),
        ⟨flagsOf settlement, s.callbacks ++ [settlement], s.rest⟩) := by
  simp only [settle, exec_bind, exec_get, unsettled, guardOf_fresh, exec_modify, exec_answered]

theorem exec_settle_refused {settlement : Settlement} {text : String}
    (refused : guardOf settlement s.flags = .error text) :
    exec (settle surroundings settlement) s =
      (.error (.raised (.other (.valueError text))), s) := by
  simp only [settle, exec_bind, exec_get, refused, exec_throw]

end Settle

def Advances {τ : Type} (s t : Settling τ) : Prop :=
  (t.flags = s.flags ∧ t.callbacks = s.callbacks) ∨
    (s.flags = AckState.fresh ∧
      ∃ choice, t.flags = flagsOf choice ∧ t.callbacks = s.callbacks ++ [choice])

instance {τ : Type} : IsPreorder (Settling τ) Advances where
  refl s := Or.inl ⟨rfl, rfl⟩
  trans s t u first second := by
    rcases first with ⟨flags, callbacks⟩ | ⟨unsettled, choice, flags, callbacks⟩
    · rw [Advances, flags, callbacks] at second
      exact second
    · rcases second with ⟨kept, same⟩ | ⟨fresh, -⟩
      · exact Or.inr ⟨unsettled, choice, kept.trans flags, same.trans callbacks⟩
      · rw [flags] at fresh
        exact absurd fresh (flagsOf_ne_fresh choice)

section Advances

variable {τ : Type}

theorem settle_keeps (surroundings : Surroundings) (settlement : Settlement) :
    Keeps Advances (settle surroundings settlement : Effect Abort (Settling τ) Unit) := by
  intro s
  cases guarded : guardOf settlement s.flags with
  | ok flags =>
      have unsettled := fresh_of_guardOf guarded
      rw [exec_settle_fresh unsettled]
      exact Or.inr ⟨unsettled, settlement, rfl, rfl⟩
  | error text =>
      rw [exec_settle_refused guarded]
      exact Or.inl ⟨rfl, rfl⟩

theorem outside_keeps {α : Type} (action : Effect Abort τ α) : Keeps Advances (outside action) :=
  fun _ => Or.inl ⟨rfl, rfl⟩

theorem failureOf_keeps {action : Effect Abort (Settling τ) Unit} (keeps : Keeps Advances action) :
    Keeps Advances (failureOf action) := by
  apply Keeps.tryCatch
  · exact keeps.bind (fun _ => keeps_pure _)
  · intro abort
    cases abort with
    | raised failure => exact keeps_pure _
    | cancelled => exact keeps_throw _

theorem Body.run_keeps (surroundings : Surroundings) (body : Body τ) :
    Keeps Advances (body.run surroundings) := by
  induction body with
  | returns outputs => exact keeps_pure _
  | raises failure => exact keeps_throw _
  | reads next ih =>
      intro s
      exact ih s.rest s
  | writes state next ih =>
      intro s
      exact ih { s with rest := state }
  | settles settlement passed raised ihPassed ihRaised =>
      rw [Body.run]
      apply (failureOf_keeps (settle_keeps surroundings settlement)).bind
      intro ended
      cases ended with
      | none => exact ihPassed
      | some failure => exact ihRaised failure

theorem middleware_keeps (registered : Registered τ) (config : Retry τ) :
    (registered.middleware config).Keeps Advances := by
  apply retry_keeps
  · intro onRetry given attempt failure msg
    rcases Option.map_eq_some_iff.mp given with ⟨original, -, rfl⟩
    exact outside_keeps _
  · exact fun low high => outside_keeps _
  · exact fun delay => outside_keeps _

theorem wrapped_keeps (registered : Registered τ) (surroundings : Surroundings) (msg : Message) :
    Keeps Advances (registered.wrapped surroundings msg) := by
  apply wrap_keeps
  · intro middleware member
    rcases List.mem_map.mp member with ⟨config, -, rfl⟩
    exact middleware_keeps registered config
  · intro middleware member
    rcases List.mem_map.mp member with ⟨config, -, rfl⟩
    exact middleware_keeps registered config
  · intro other
    exact (registered.func other).run_keeps surroundings

end Advances

def SettledBy {τ : Type} (choice : Settlement) (s : Settling τ) : Prop :=
  s.flags = flagsOf choice ∧ s.callbacks = [choice]

section Process

variable {τ : Type} {handler : Handler} {surroundings : Surroundings}
  {wrapped : HandlerFunc (Settling τ)} {msg : Message} {s t : Settling τ} {failure : Failure}
  {outputs : List Message} {choice : Settlement}

theorem exec_processWith (handler : Handler) (surroundings : Surroundings)
    (wrapped : HandlerFunc (Settling τ)) (msg : Message) (s : Settling τ) :
    exec (processWith handler surroundings wrapped msg) s =
      match exec (wrapped msg) s with
      | (.ok outputs, t) =>
          match exec (complete handler surroundings outputs) t with
          | (.ok value, u) => (.ok value, u)
          | (.error abort, u) => exec (abandon surroundings abort) u
      | (.error abort, t) => exec (abandon surroundings abort) t := by
  rw [processWith, exec_tryCatch, exec_bind]
  rcases exec (wrapped msg) s with ⟨result, t⟩
  cases result with
  | error abort => rfl
  | ok outputs =>
      dsimp only
      rcases exec (complete handler surroundings outputs) t with ⟨ended, u⟩
      cases ended <;> rfl

theorem exec_abandon_settled (surroundings : Surroundings) (settled : t.flags = flagsOf choice)
    (failure : Failure) :
    exec (abandon surroundings (.raised failure)) t =
      (.error (.raised (.other (.valueError (refusal choice)))), t) := by
  have refused : guardOf .nack t.flags = .error (refusal choice) := by
    rw [settled]
    exact nack_refused choice
  rw [abandon, exec_bind, exec_settle_refused refused]

theorem exec_abandon_fresh (unsettled : t.flags = AckState.fresh) (failure : Failure) :
    exec (abandon surroundings (.raised failure)) t =
      (match surroundings.callback .nack with
        | .ok _ => .error (.raised failure)
        | .error exn => .error (.raised (.other exn)),
        ⟨flagsOf .nack, t.callbacks ++ [.nack], t.rest⟩) := by
  rw [abandon, exec_bind, exec_settle_fresh unsettled]
  cases surroundings.callback .nack <;> rfl

theorem abandon_raises (abort : Abort) : (exec (abandon surroundings abort) t).1 ≠ .ok () := by
  cases abort with
  | cancelled => exact nofun
  | raised failure =>
      rw [abandon, exec_bind]
      rcases exec (settle surroundings .nack) t with ⟨result, u⟩
      cases result <;> exact nofun

theorem exec_complete_settled (handler : Handler) (surroundings : Surroundings)
    (outputs : List Message) (settled : t.flags = flagsOf choice) :
    ∃ failure, exec (complete handler surroundings outputs) t = (.error (.raised failure), t) := by
  rcases guardOf_settled .ack choice with ⟨text, refused⟩
  rw [← settled] at refused
  rw [complete, exec_bind, exec_settle_refused refused]
  exact ⟨_, rfl⟩

def completion (handler : Handler) (surroundings : Surroundings) (outputs : List Message) :
    Except Exn Unit := do
  surroundings.callback .ack
  if handler.publishes outputs then surroundings.publish

theorem exec_complete_fresh (unsettled : t.flags = AckState.fresh) :
    exec (complete handler surroundings outputs) t =
      ((completion handler surroundings outputs).mapError (fun exn => .raised (.other exn)),
        ⟨flagsOf .ack, t.callbacks ++ [.ack], t.rest⟩) := by
  rw [complete, completion, exec_bind, exec_settle_fresh unsettled]
  cases surroundings.callback .ack with
  | error exn => rfl
  | ok value =>
      dsimp only [Except.mapError]
      split
      · exact exec_answered _ _
      · rfl

end Process

section Passages

variable {τ : Type} {registered : Registered τ} {passage : Passage τ} {choice : Settlement}

/-- The message is left to the router, which acks it and has its outputs published. -/
def GoesOn (registered : Registered τ) (passage : Passage τ) : Prop :=
  (registered.call passage).2.callbacks = [] ∧ ∃ outputs,
    (registered.call passage).1 = .ok outputs ∧
      completion registered.handler passage.surroundings outputs = .ok ()

/-- The message is settled as the handler chose, and if it did not, as the router does when the
handler returns and when it raises. A second settlement is refused. -/
structure SettledOnce (registered : Registered τ) (passage : Passage τ) : Prop where
  own : ∀ choice ∈ (registered.call passage).2.callbacks, SettledBy choice passage.after
  returned : (registered.call passage).2.callbacks = [] → ∀ outputs,
    (registered.call passage).1 = .ok outputs → SettledBy .ack passage.after
  raised : (registered.call passage).2.callbacks = [] → ∀ failure,
    (registered.call passage).1 = .error (.raised failure) → SettledBy .nack passage.after
  refused : ∀ choice ∈ (registered.call passage).2.callbacks,
    (registered.call passage).1 ≠ .error .cancelled →
      passage.outcome = .error (.raised (.other (.valueError (refusal choice))))

def Passage.Made (registered : Registered τ) (passage : Passage τ) : Prop :=
  exec (processWith registered.handler passage.surroundings
    (registered.wrapped passage.surroundings) passage.message)
      ⟨AckState.fresh, [], passage.before⟩ = (passage.outcome, passage.after)

theorem call_cases (registered : Registered τ) (passage : Passage τ) :
    ((registered.call passage).2.flags = AckState.fresh ∧
        (registered.call passage).2.callbacks = []) ∨
      ∃ choice, SettledBy choice (registered.call passage).2 := by
  have advanced := wrapped_keeps registered passage.surroundings passage.message
    ⟨AckState.fresh, [], passage.before⟩
  rcases advanced with same | ⟨-, choice, settled⟩
  · exact Or.inl same
  · exact Or.inr ⟨choice, settled⟩

theorem Passage.Made.of_call (made : passage.Made registered) :
    (passage.outcome, passage.after) =
      match registered.call passage with
      | (.ok outputs, t) =>
          match exec (complete registered.handler passage.surroundings outputs) t with
          | (.ok value, u) => (.ok value, u)
          | (.error abort, u) => exec (abandon passage.surroundings abort) u
      | (.error abort, t) => exec (abandon passage.surroundings abort) t :=
  made.symm.trans (exec_processWith _ _ _ _ _)

theorem Passage.Made.settled (made : passage.Made registered)
    (settled : SettledBy choice (registered.call passage).2) :
    passage.after = (registered.call passage).2 ∧ passage.outcome ≠ .ok () ∧
      ((registered.call passage).1 ≠ .error .cancelled →
        passage.outcome = .error (.raised (.other (.valueError (refusal choice))))) := by
  have whole := made.of_call
  generalize registered.call passage = called at whole settled ⊢
  rcases called with ⟨result, t⟩
  have refuses := exec_abandon_settled passage.surroundings settled.1
  cases result with
  | ok outputs =>
      have completed := exec_complete_settled registered.handler passage.surroundings outputs
        settled.1
      rcases completed with ⟨failure, completed⟩
      simp only [completed, refuses failure] at whole
      rcases Prod.mk.inj whole with ⟨outcome, after⟩
      rw [outcome]
      exact ⟨after, nofun, fun _ => rfl⟩
  | error abort =>
      cases abort with
      | raised failure =>
          simp only [refuses failure] at whole
          rcases Prod.mk.inj whole with ⟨outcome, after⟩
          rw [outcome]
          exact ⟨after, nofun, fun _ => rfl⟩
      | cancelled =>
          rcases Prod.mk.inj whole with ⟨outcome, after⟩
          rw [outcome]
          exact ⟨after, nofun, fun ran => absurd rfl ran⟩

theorem Passage.Made.returned (made : passage.Made registered) {outputs : List Message}
    (returned : (registered.call passage).1 = .ok outputs)
    (unsettled : (registered.call passage).2.flags = AckState.fresh)
    (uncalled : (registered.call passage).2.callbacks = []) :
    SettledBy .ack passage.after ∧ (passage.outcome = .ok () ↔
      completion registered.handler passage.surroundings outputs = .ok ()) := by
  have whole := made.of_call
  generalize registered.call passage = called at whole returned unsettled uncalled
  rcases called with ⟨result, t⟩
  cases returned
  simp only [exec_complete_fresh unsettled] at whole
  rw [uncalled, List.nil_append] at whole
  cases completed : completion registered.handler passage.surroundings outputs with
  | ok value =>
      rw [completed] at whole
      rcases Prod.mk.inj whole with ⟨outcome, after⟩
      rw [outcome, after]
      exact ⟨⟨rfl, rfl⟩, iff_of_true rfl rfl⟩
  | error exn =>
      have acked : (⟨flagsOf .ack, [.ack], t.rest⟩ : Settling τ).flags = flagsOf .ack := rfl
      have refused := exec_abandon_settled passage.surroundings acked (.other exn)
      rw [completed] at whole
      simp only [Except.mapError, refused] at whole
      rcases Prod.mk.inj whole with ⟨outcome, after⟩
      rw [outcome, after]
      exact ⟨⟨rfl, rfl⟩, iff_of_false nofun nofun⟩

theorem Passage.Made.raised (made : passage.Made registered) {failure : Failure}
    (raised : (registered.call passage).1 = .error (.raised failure))
    (unsettled : (registered.call passage).2.flags = AckState.fresh)
    (uncalled : (registered.call passage).2.callbacks = []) : SettledBy .nack passage.after := by
  have whole := made.of_call
  generalize registered.call passage = called at whole raised unsettled uncalled
  rcases called with ⟨result, t⟩
  cases raised
  simp only [exec_abandon_fresh unsettled] at whole
  rw [uncalled, List.nil_append] at whole
  rw [(Prod.mk.inj whole).2]
  exact ⟨rfl, rfl⟩

theorem Passage.Made.stopped (made : passage.Made registered) {abort : Abort}
    (ended : (registered.call passage).1 = .error abort) : passage.outcome ≠ .ok () := by
  have whole := made.of_call
  generalize registered.call passage = called at whole ended
  rcases called with ⟨result, t⟩
  cases ended
  intro done
  rw [done] at whole
  exact abandon_raises abort (congrArg Prod.fst whole).symm

theorem Passage.Made.settledOnce (made : passage.Made registered) :
    SettledOnce registered passage := by
  rcases call_cases registered passage with ⟨unsettled, uncalled⟩ | ⟨choice, settled⟩
  · refine ⟨?_, ?_, ?_, ?_⟩
    · intro choice member
      rw [uncalled] at member
      cases member
    · intro _ outputs returned
      exact (made.returned returned unsettled uncalled).1
    · intro _ failure raised
      exact made.raised raised unsettled uncalled
    · intro choice member
      rw [uncalled] at member
      cases member
  · rcases made.settled settled with ⟨after, -, refused⟩
    refine ⟨?_, ?_, ?_, ?_⟩
    · intro other member
      rw [settled.2] at member
      rw [after, List.mem_singleton.mp member]
      exact settled
    · intro none
      rw [settled.2] at none
      cases none
    · intro none
      rw [settled.2] at none
      cases none
    · intro other member
      rw [settled.2] at member
      rw [List.mem_singleton.mp member]
      exact refused

theorem Passage.Made.goesOn_iff (made : passage.Made registered) :
    passage.outcome = .ok () ↔ GoesOn registered passage := by
  rcases call_cases registered passage with ⟨unsettled, uncalled⟩ | ⟨choice, settled⟩
  · cases ended : (registered.call passage).1 with
    | ok outputs =>
        rw [(made.returned ended unsettled uncalled).2]
        constructor
        · intro returning
          exact ⟨uncalled, outputs, ended, returning⟩
        · rintro ⟨-, others, same, returning⟩
          rw [ended] at same
          cases same
          exact returning
    | error abort =>
        apply iff_of_false (made.stopped ended)
        rintro ⟨-, outputs, returned, -⟩
        rw [ended] at returned
        cases returned
  · apply iff_of_false (made.settled settled).2.1
    rintro ⟨none, -⟩
    rw [settled.2] at none
    cases none

def endOf {α : Type} : Except Abort α → Await α
  | .ok value => .returned value
  | .error (.raised failure) => .raised failure.toExn
  | .error .cancelled => .cancelled

def delivery (surroundings : Surroundings) (called : Except Abort (List Message) × Settling τ) :
    Delivery where
  closing := false
  ownSettlement := called.2.flags
  handler := endOf called.1
  ackCallback := .ofExcept (surroundings.callback .ack)
  nackCallback := .ofExcept (surroundings.callback .nack)
  publish := .ofExcept surroundings.publish

def processed (handler : Handler) (surroundings : Surroundings)
    (called : Except Abort (List Message) × Settling τ) : AckState × Await Unit :=
  (((process handler (delivery surroundings called)).run.run Ledger.fresh).2.ackState,
    outcomeOf ((process handler (delivery surroundings called)).run.run Ledger.fresh).1)

theorem processed_raised (handler : Handler) (surroundings : Surroundings) (failure : Failure)
    (t : Settling τ) :
    processed handler surroundings (.error (.raised failure), t) =
      ((exec (abandon surroundings (.raised failure)) t).2.flags,
        endOf (exec (abandon surroundings (.raised failure)) t).1) := by
  rcases t with ⟨⟨acked, nacked⟩, callbacks, rest⟩
  cases acked with
  | true => cases nacked <;> rfl
  | false =>
      cases nacked with
      | true => rfl
      | false =>
          rw [exec_abandon_fresh rfl, processed, delivery]
          cases surroundings.callback .nack <;> rfl

theorem processed_returned (handler : Handler) (surroundings : Surroundings)
    (outputs : List Message) (t : Settling τ) :
    processed handler surroundings (.ok outputs, t) =
      match exec (complete handler surroundings outputs) t with
      | (.ok value, u) => (u.flags, .returned value)
      | (.error abort, u) => ((exec (abandon surroundings abort) u).2.flags,
          endOf (exec (abandon surroundings abort) u).1) := by
  rcases t with ⟨⟨acked, nacked⟩, callbacks, rest⟩
  cases acked with
  | true => cases nacked <;> rfl
  | false =>
      cases nacked with
      | true => rfl
      | false =>
          rw [exec_complete_fresh rfl, processed, delivery, completion]
          cases surroundings.callback .ack with
          | error exn => rfl
          | ok value =>
              rcases handler with ⟨publisher, publishTopic⟩
              cases outputs with
              | nil => rfl
              | cons first rest =>
                  cases publisher with
                  | false => rfl
                  | true =>
                      rcases publishTopic with _ | _ | ⟨letter, letters⟩
                      · rfl
                      · rfl
                      · cases surroundings.publish <;> rfl

theorem Passage.Made.agrees (made : passage.Made registered) :
    processed registered.handler passage.surroundings (registered.call passage) =
      (passage.after.flags, endOf passage.outcome) := by
  have whole := made.of_call
  generalize registered.call passage = called at whole ⊢
  rcases called with ⟨result, t⟩
  cases result with
  | ok outputs =>
      dsimp only at whole
      rw [processed_returned]
      generalize exec (complete registered.handler passage.surroundings outputs) t = completed
        at whole ⊢
      rcases completed with ⟨ended, u⟩
      cases ended with
      | ok value =>
          rcases Prod.mk.inj whole with ⟨outcome, after⟩
          rw [outcome, after]
          rfl
      | error abort =>
          dsimp only at whole ⊢
          rw [← whole]
  | error abort =>
      dsimp only at whole
      cases abort with
      | raised failure => rw [processed_raised, ← whole]
      | cancelled =>
          rcases Prod.mk.inj whole with ⟨outcome, after⟩
          rw [outcome, after]
          rfl

end Passages

section Run

variable {τ : Type} {registered : Registered τ} {passage : Passage τ} {rest : τ} {k : Nat}
  {offers : List (Message × Surroundings)}

theorem made_of_mem (member : passage ∈ registered.runHandler rest offers) :
    passage.Made registered := by
  induction offers generalizing rest with
  | nil => cases member
  | cons offer offers ih =>
      rw [Registered.runHandler] at member
      rcases List.mem_cons.mp member with rfl | later
      · rfl
      · split at later
        · exact ih later
        · cases later

theorem runHandler_pos (offer : Message × Surroundings) :
    0 < (registered.runHandler rest (offer :: offers)).length := Nat.succ_pos _

theorem runHandler_next (found : (registered.runHandler rest offers)[k]? = some passage) :
    offers[k]? = some (passage.message, passage.surroundings) ∧
      (k + 1 < offers.length →
        (k + 1 < (registered.runHandler rest offers).length ↔ passage.outcome = .ok ())) := by
  induction offers generalizing rest k with
  | nil => cases found
  | cons offer offers ih =>
      rw [Registered.runHandler] at found ⊢
      cases k with
      | zero =>
          cases found
          refine ⟨rfl, ?_⟩
          intro more
          dsimp only
          split
          · rename_i value done
            refine iff_of_true ?_ done
            cases offers with
            | nil => exact absurd more (Nat.lt_irrefl 1)
            | cons next later => exact Nat.succ_lt_succ (runHandler_pos next)
          · rename_i abort stopped
            apply iff_of_false (Nat.lt_irrefl 1)
            rw [stopped]
            exact nofun
      | succ k =>
          rw [List.getElem?_cons_succ] at found
          split at found
          · rcases ih found with ⟨offered, later⟩
            refine ⟨offered, ?_⟩
            intro more
            have shorter := later (Nat.lt_of_succ_lt_succ more)
            simp only [List.length_cons, Nat.add_lt_add_iff_right]
            exact shorter
          · cases found

end Run

/-- Over every handler, every stack of retries around it and every sequence of messages: each
message that the loop takes is settled once, as the handler chose where it settled it, and the
loop goes on to the next exactly when it was left to the router and nothing raised. -/
theorem own_choice_kept {τ : Type} (registered : Registered τ) (rest : τ)
    (offers : List (Message × Surroundings)) :
    (∀ passage ∈ registered.runHandler rest offers, SettledOnce registered passage) ∧
      ∀ (k : Nat) passage, (registered.runHandler rest offers)[k]? = some passage →
        offers[k]? = some (passage.message, passage.surroundings) ∧
          (k + 1 < offers.length →
            (k + 1 < (registered.runHandler rest offers).length ↔ GoesOn registered passage)) := by
  refine ⟨fun passage member => (made_of_mem member).settledOnce, ?_⟩
  intro k passage found
  rcases runHandler_next found with ⟨offered, next⟩
  rw [(made_of_mem (List.mem_of_getElem? found)).goesOn_iff] at next
  exact ⟨offered, next⟩

def acksItself : Registered Unit where
  handler := Handler.addNoPublisherHandler
  func _ := .settles .ack (.returns []) .raises
  ambient := ⟨fun low _ => pure low, fun _ => pure (), fun _ => true, rfl⟩
  routerRetries := []
  ownRetries := []

def quiet : Surroundings := ⟨fun _ => .ok (), .ok ()⟩

/-- Of two messages the loop takes one: the router's own settlement of it raises. -/
theorem own_ack_ends_loop :
    (acksItself.runHandler () [(⟨[], [], 0, AckState.fresh⟩, quiet),
        (⟨[], [], 1, AckState.fresh⟩, quiet)]).map (fun passage =>
          (passage.outcome, passage.after.callbacks)) =
      [(.error (.raised (.other (.valueError "Cannot nack a message that has been acked"))),
        [.ack])] := by
  decide

end Natricine.Router
