import Natricine.Router.Middleware
import Natricine.Service.Undisturbed

/-! When a router whose first middleware is `recoverer` goes on after the exceptions of its
handlers. -/

namespace Natricine.Router

open Effect Occurrence PubSub Service Transition

def logException (entry : LogRecord) : Effect Abort (List LogRecord) Unit :=
  modify (fun log => log ++ [entry])

/-- A message, and how the function inside the recoverer ends for it: the handler with the
middlewares that come after the first. -/
structure Offer where
  message : Message
  outcome : Except Failure (List Message)
  deriving DecidableEq, Repr

namespace Offer

def Raises (offer : Offer) : Prop := ∃ failure, offer.outcome = .error failure

instance : (offer : Offer) → Decidable offer.Raises
  | ⟨_, .ok _⟩ => isFalse nofun
  | ⟨_, .error failure⟩ => isTrue ⟨failure, rfl⟩

def inner (offer : Offer) : HandlerFunc (List LogRecord) := fun _ =>
  match offer.outcome with
  | .ok outputs => pure outputs
  | .error failure => throw (.raised failure)

def call (offer : Offer) : Except Abort (List Message) × List LogRecord :=
  exec (wrap [recoverer logException] [] offer.inner offer.message) []

def script (offer : Offer) : Script :=
  ⟨.ok (), offer.call.1.mapError Abort.toExn, .ok (), .ok (), .ok ()⟩

def logRecord (offer : Offer) : LogRecord :=
  ⟨"Handler failed for message %s", offer.message.uuid⟩

end Offer

/-- A handler that the router was given, and what its subscription offers. -/
structure Subscribed where
  handler : Handler
  offers : List Offer
  deriving DecidableEq, Repr

def routerOf (subscribed : List Subscribed) : Setup :=
  Setup.router (subscribed.map Subscribed.handler)

def workloadOf (subscribed : List Subscribed) : Workload :=
  fun h => (subscribed[h]?.elim [] Subscribed.offers).map Offer.script

/-- What the recoverer is for: every message has been processed and is acked, every failure is
logged, and no loop has ended with an exception, so that `run()` raises none. -/
structure KeptAlive (subscribed : List Subscribed) (u : State) : Prop where
  acked : ∀ (h : Nat) entry, subscribed[h]? = some entry → ∀ k, k < entry.offers.length →
    ∃ index job, Occurs u.takers h k index ∧ u.jobs[index]? = some job ∧ job.concluded = true ∧
      job.flags.acked = true
  logged : ∀ entry ∈ subscribed, ∀ offer ∈ entry.offers, offer.Raises →
    offer.logRecord ∈ offer.call.2
  alive : ∀ loop ∈ u.loops, ∀ exn, loop.stage ≠ .ended (.raised exn)

section Call

variable {offer : Offer} {entry : Subscribed} {subscribed : List Subscribed} {h : Nat}

theorem exec_wrap_recoverer (rest own : List (Middleware (List LogRecord)))
    (func : HandlerFunc (List LogRecord)) (msg : Message) (log : List LogRecord) :
    exec (wrap (recoverer logException :: rest) own func msg) log =
      match exec (wrap rest own func msg) log with
      | (.ok outputs, later) => (.ok outputs, later)
      | (.error (.raised failure), later) =>
          (.error (.raised failure), later ++ [⟨"Handler failed for message %s", msg.uuid⟩])
      | (.error .cancelled, later) => (.error .cancelled, later) := by
  have chained : wrap (recoverer logException :: rest) own func msg =
      recoverer logException (wrap rest own func) msg := rfl
  rw [chained, recoverer, exec_tryCatch]
  rcases exec (wrap rest own func msg) log with ⟨result, later⟩
  cases result with
  | ok outputs => rfl
  | error abort => cases abort <;> rfl

theorem call_of_returned {outputs : List Message} (returned : offer.outcome = .ok outputs) :
    offer.call = (.ok outputs, []) := by
  have ended : exec (wrap [] [] offer.inner offer.message) [] = (.ok outputs, []) := by
    rw [wrap, List.foldr_nil, List.foldr_nil, Offer.inner, returned, exec_pure]
  rw [Offer.call, exec_wrap_recoverer, ended]

theorem call_of_raised {failure : Failure} (raised : offer.outcome = .error failure) :
    offer.call = (.error (.raised failure), [offer.logRecord]) := by
  have ended : exec (wrap [] [] offer.inner offer.message) [] = (.error (.raised failure), []) := by
    rw [wrap, List.foldr_nil, List.foldr_nil, Offer.inner, raised, exec_throw]
  rw [Offer.call, exec_wrap_recoverer, ended]
  rfl

theorem script_of_returned {outputs : List Message} (returned : offer.outcome = .ok outputs) :
    offer.script.Returns := by
  refine ⟨rfl, ⟨outputs, ?_⟩, rfl, rfl, rfl⟩
  rw [Offer.script, call_of_returned returned]
  rfl

theorem not_succeeds_of_raised (raises : offer.Raises) : ¬offer.script.Succeeds .router := by
  rcases raises with ⟨failure, raised⟩
  rintro ⟨outputs, result⟩
  have handled : offer.script.result .router = .error failure.toExn := by
    rw [Script.result, if_neg (by decide), Offer.script, call_of_raised raised]
    rfl
  rw [handled] at result
  cases result

theorem workloadOf_eq (found : subscribed[h]? = some entry) :
    workloadOf subscribed h = entry.offers.map Offer.script := by
  rw [workloadOf, found]
  rfl

theorem mem_workloadOf {script : Script} (member : script ∈ workloadOf subscribed h) :
    ∃ entry ∈ subscribed, ∃ offer ∈ entry.offers, offer.script = script := by
  rw [workloadOf] at member
  cases found : subscribed[h]? with
  | none =>
      rw [found] at member
      cases member
  | some entry =>
      rw [found] at member
      rcases List.mem_map.mp member with ⟨offer, given, same⟩
      exact ⟨entry, List.mem_of_getElem? found, offer, given, same⟩

end Call

section Run

variable {subscribed : List Subscribed} {events : List Event} {u : State}

theorem logged_always : ∀ entry ∈ subscribed, ∀ offer ∈ entry.offers, offer.Raises →
    offer.logRecord ∈ offer.call.2 := by
  rintro entry - offer - ⟨failure, raised⟩
  rw [call_of_raised raised]
  exact List.mem_singleton_self _

theorem not_raises_of_acked (kept : Kept (routerOf subscribed) (workloadOf subscribed) u)
    (acked : ∀ (h : Nat) entry, subscribed[h]? = some entry → ∀ k, k < entry.offers.length →
      ∃ index job, Occurs u.takers h k index ∧ u.jobs[index]? = some job ∧
        job.concluded = true ∧ job.flags.acked = true) :
    ∀ entry ∈ subscribed, ∀ offer ∈ entry.offers, ¬offer.Raises := by
  intro entry member offer given raises
  rcases List.mem_iff_getElem?.mp member with ⟨h, found⟩
  rcases List.mem_iff_getElem?.mp given with ⟨k, offered⟩
  rcases acked h entry found k (List.getElem?_eq_some_iff.mp offered).1 with
    ⟨index, job, occurs, present, -, settled⟩
  rcases kept.tracked.scripted index job present with ⟨script, scripted, consistent⟩
  rw [scriptOf_occurs occurs, workloadOf_eq found, List.getElem?_map, offered] at scripted
  cases scripted
  exact not_succeeds_of_raised raises (consistent.succeeds settled)

theorem acked_of_unharmed (kept : Kept (routerOf subscribed) (workloadOf subscribed) u)
    (succeeding : Succeeding none u) (unharmed : Unharmed (workloadOf subscribed) u)
    (loops : u.loops.length = subscribed.length) (off : u.running = false) (h : Nat)
    (entry : Subscribed) (found : subscribed[h]? = some entry) (k : Nat)
    (offered : k < entry.offers.length) :
    ∃ index job, Occurs u.takers h k index ∧ u.jobs[index]? = some job ∧ job.concluded = true ∧
      job.flags.acked = true := by
  have bound : h < u.loops.length := by
    rw [loops]
    exact (List.getElem?_eq_some_iff.mp found).1
  have present : u.loops[h]? = some u.loops[h] := List.getElem?_eq_getElem bound
  have count := unharmed.taken kept.supervised off present
  rw [workloadOf_eq found, List.length_map] at count
  rw [← count] at offered
  rcases exists_occurs offered with ⟨index, occurs⟩
  have inside := occurs.lt_length
  rw [State.takers, List.length_map] at inside
  have there : u.jobs[index]? = some u.jobs[index] := List.getElem?_eq_getElem inside
  have returned := succeeding.returned kept.supervised off there
  have concluded : u.jobs[index].concluded = true := by rw [Job.concluded, returned]
  rcases kept.tracked.scripted index _ there with ⟨script, -, consistent⟩
  rw [Consistent, returned] at consistent
  refine ⟨index, u.jobs[index], occurs, there, concluded, ?_⟩
  rw [consistent.1]

theorem alive_of_unharmed (unharmed : Unharmed (workloadOf subscribed) u) :
    ∀ loop ∈ u.loops, ∀ exn, loop.stage ≠ .ended (.raised exn) := by
  intro loop member exn stage
  rcases List.mem_iff_getElem?.mp member with ⟨h, present⟩
  cases (unharmed.exhausted h loop _ present (Or.inr stage)).1

end Run

/-- For every set of handlers, every sequence of messages, every pattern of exceptions and every
run that is over: the router has kept going as the recoverer promises if and only if there was
nothing to recover from. -/
theorem kept_alive_iff_none_raises (subscribed : List Subscribed) (events : List Event) (u : State)
    (follows : Along (routerOf subscribed).step (Follows (workloadOf subscribed)) initial
      (.run :: events))
    (run : exec (routerOf subscribed).step initial (.run :: events) = some u)
    (ended : u.running = false) :
    KeptAlive subscribed u ↔ ∀ entry ∈ subscribed, ∀ offer ∈ entry.offers, ¬offer.Raises := by
  have kept := kept_of_run follows run
  constructor
  · intro alive
    exact not_raises_of_acked kept alive.acked
  · intro none_raises
    have returns : ∀ h, ∀ script ∈ workloadOf subscribed h, script.Returns := by
      intro h script member
      rcases mem_workloadOf member with ⟨entry, there, offer, given, rfl⟩
      cases outcome : offer.outcome with
      | ok outputs => exact script_of_returned outcome
      | error failure => exact absurd ⟨failure, outcome⟩ (none_raises entry there offer given)
    have loops := loops_length_of_run follows run
    rw [routerOf, Setup.router, List.length_map] at loops
    rcases undisturbed_of_returns returns follows run with ⟨succeeding, unharmed⟩ | done
    · exact ⟨acked_of_unharmed kept succeeding unharmed loops ended, logged_always,
        alive_of_unharmed unharmed⟩
    · rcases done with ⟨index, -, ⟨place, given, -⟩, -⟩
      cases given

def working : List Subscribed :=
  [⟨Handler.addNoPublisherHandler,
      [⟨⟨[104, 105], [(Text.ofString "kind", Text.ofString "order")], 1, AckState.fresh⟩, .ok []⟩,
        ⟨⟨[33], [], 2, AckState.fresh⟩, .ok []⟩]⟩,
    ⟨Handler.addNoPublisherHandler, [⟨⟨[48], [], 3, AckState.fresh⟩, .ok []⟩]⟩]

def failing : List Subscribed :=
  [⟨Handler.addNoPublisherHandler,
    [⟨⟨[], [], 0, AckState.fresh⟩, .error (.other (.other "boom"))⟩]⟩]

def runWorking : List Event :=
  [.start 0, .start 1, .receive 0, .receive 1, .resume 0 (.returned []), .resume 1 (.returned []),
    .resume 0 (.returned []), .receive 0, .resume 1 (.returned []), .resume 2 (.returned []),
    .exhaust 1, .resume 2 (.returned []), .exhaust 0, .finish]

/-- The recoverer logs the exception and raises it again: the router nacks the message, and its
loop is over. -/
def runFailing : List Event :=
  [.start 0, .receive 0, .resume 0 (.raised (.other "boom")), .resume 0 (.returned []), .finish]

theorem kept_alive_without_failure :
    ∃ u ∈ exec (routerOf working).step initial (.run :: runWorking), KeptAlive working u :=
  ⟨_, rfl, (kept_alive_iff_none_raises working runWorking _ (by decide) rfl rfl).mpr (by decide)⟩

theorem recovered_failure_ends_run :
    Along (routerOf failing).step (Follows (workloadOf failing)) initial (.run :: runFailing) ∧
      ∃ u ∈ exec (routerOf failing).step initial (.run :: runFailing),
        u.running = false ∧ ¬KeptAlive failing u := by
  refine ⟨by decide, _, rfl, rfl, ?_⟩
  intro kept
  exact kept.alive _ (List.mem_singleton_self _) (.other "boom") rfl

end Natricine.Router
