import Natricine.Service.Undisturbed

namespace Natricine.Cqrs

open Occurrence PubSub Service Transition

/-- The step calls the handler of loop `h` with the `k`-th event of its subscription: it has been
unmarshalled. -/
def Calls (h k : Nat) (s : State) : Event → Prop
  | .begin index (.ok _) => Occurs s.takers h k index
  | _ => False

instance (h k : Nat) (s : State) : (e : Event) → Decidable (Calls h k s e)
  | .begin index (.ok _) => inferInstanceAs (Decidable (Occurs s.takers h k index))
  | .begin _ (.error _) | .run | .start _ | .receive _ | .exhaust _ | .breaks _ _ | .cancelLoop _
  | .join _ | .ownSettle _ _ | .ownCallback _ | .resume _ _ | .settle _ _ | .close | .poll _
  | .timeout _ | .interrupt | .finish => isFalse id

def invocations (setup : Setup) (h k : Nat) : State → List Event → Nat
  | _, [] => 0
  | s, e :: events =>
      match setup.step s e with
      | some t => (if Calls h k s e then 1 else 0) + invocations setup h k t events
      | none => 0

/-- At the end of the run the event is acked. -/
def Acked (setup : Setup) (h k : Nat) (events : List Event) : Prop :=
  ∃ u ∈ exec setup.step initial events, ∃ index ∈ List.range u.jobs.length,
    Occurs u.takers h k index ∧ ∃ job ∈ u.jobs[index]?, job.flags.acked = true

/-- A run over the workload in which the bus offers the event to the handler, and at whose end
`run()` has ended or the handler is through with the event. -/
structure Completes (setup : Setup) (workload : Workload) (h k : Nat) (events : List Event) :
    Prop where
  offered : k < (workload h).length
  follows : Along setup.step (Follows workload) initial events
  complete : ∃ u ∈ exec setup.step initial events, u.loops[h]? ≠ none ∧
    (u.running = false ∨ Over (some (h, k)) u)

/-- Until the handler is through with the event, no other message fails. -/
def NoneElseFails (setup : Setup) (h k : Nat) (events : List Event) : Prop :=
  Along setup.step (OthersSucceed (some (h, k))) initial events

instance (setup : Setup) (h k : Nat) (events : List Event) : Decidable (Acked setup h k events) :=
  inferInstanceAs (Decidable (∃ u ∈ _, _))

instance (setup : Setup) (workload : Workload) (h k : Nat) (events : List Event) :
    Decidable (Completes setup workload h k events) :=
  decidable_of_iff (k < (workload h).length ∧ Along setup.step (Follows workload) initial events ∧
      ∃ u ∈ exec setup.step initial events, u.loops[h]? ≠ none ∧
        (u.running = false ∨ Over (some (h, k)) u))
    ⟨fun ⟨offered, follows, complete⟩ => ⟨offered, follows, complete⟩,
      fun ⟨offered, follows, complete⟩ => ⟨offered, follows, complete⟩⟩

instance (setup : Setup) (h k : Nat) (events : List Event) :
    Decidable (NoneElseFails setup h k events) :=
  inferInstanceAs (Decidable (Along _ _ _ _))

def Begun (h k : Nat) (s : State) : Prop :=
  ∃ index job, Occurs s.takers h k index ∧ s.jobs[index]? = some job ∧ job.stage ≠ .spawned

section Calls

variable {setup : Setup} {workload : Workload} {script : Script} {h k index : Nat}
  {s t u : State} {e : Event} {events : List Event}

theorem turn_not_spawned (turn : Turn) : turn.stage ≠ .spawned := by
  cases turn <;> simp [Turn.stage]

theorem changes_not_spawned {job next : Job} (change : Changes setup s index job e next)
    (begun : job.stage ≠ .spawned) : next.stage ≠ .spawned := by
  cases change with
  | started value spawned => exact absurd spawned begun
  | failed exn result spawned resumed => exact absurd spawned begun
  | ownAck | ownNack | ownCallback => exact begun
  | answered outcome phase loop result running present reached resumed =>
      exact turn_not_spawned result.2
  | settled => simp

theorem begun_step (begun : Begun h k s) (taken : setup.step s e = some t) : Begun h k t := by
  have inside := takers_step taken
  rcases begun with ⟨index, job, occurs, found, stage⟩
  rcases job_of_step taken found with kept | ⟨next, change, there⟩
  · exact ⟨index, job, occurs.extend inside, kept, stage⟩
  · exact ⟨index, next, occurs.extend inside, there, changes_not_spawned change stage⟩

theorem begin_of_changes {job next : Job} (change : Changes setup s index job e next)
    (spawned : job.stage = .spawned) : ∃ unmarshalled, e = .begin index unmarshalled := by
  cases change with
  | started value _ => exact ⟨_, rfl⟩
  | failed exn result _ _ => exact ⟨_, rfl⟩
  | ownAck _ _ running =>
      rw [spawned] at running
      cases running
  | ownNack _ _ running =>
      rw [spawned] at running
      cases running
  | ownCallback running =>
      rw [spawned] at running
      cases running
  | answered _ _ _ _ running =>
      rw [spawned] at running
      cases running
  | settled _ _ away =>
      rw [spawned] at away
      cases away

theorem begin_changes {unmarshalled : Except Exn Unit}
    (taken : setup.step s (.begin index unmarshalled) = some t) :
    ∃ job next, s.jobs[index]? = some job ∧ job.stage = .spawned ∧
      Changes setup s index job (.begin index unmarshalled) next ∧
        t.jobs = s.jobs.set index next := by
  cases taken_of_step taken with
  | begin _ _ job loop found spawned present =>
      have begun : ∃ next, Changes setup s index job (.begin index unmarshalled) next ∧
        (begin setup s index job loop unmarshalled).jobs = s.jobs.set index next :=
        begin_jobs spawned unmarshalled
      rcases begun with ⟨next, change, same⟩
      exact ⟨job, next, found, spawned, change, same⟩

theorem begin_not_spawned {unmarshalled : Except Exn Unit} {job next : Job}
    (change : Changes setup s index job (.begin index unmarshalled) next) :
    next.stage ≠ .spawned := by
  cases change with
  | started value spawned => simp
  | failed exn result spawned resumed =>
      exact turn_not_spawned result.2

theorem not_calls_of_begun (begun : Begun h k s) (taken : setup.step s e = some t) :
    ¬Calls h k s e := by
  rcases begun with ⟨place, job, occurs, found, stage⟩
  intro calls
  cases e with
  | begin index unmarshalled =>
      cases unmarshalled with
      | ok value =>
          rcases begin_changes taken with ⟨other, next, present, spawned, -, -⟩
          cases occurs.unique calls
          rw [found] at present
          cases present
          exact stage spawned
      | error exn => exact calls
  | _ => exact calls

theorem begun_of_begin {unmarshalled : Except Exn Unit} (occurs : Occurs s.takers h k index)
    (taken : setup.step s (.begin index unmarshalled) = some t) : Begun h k t := by
  rcases begin_changes taken with ⟨job, next, found, -, change, same⟩
  refine ⟨index, next, occurs.extend (takers_step taken), ?_, begin_not_spawned change⟩
  rw [same]
  exact List.getElem?_set_self (List.getElem?_eq_some_iff.mp found).1

theorem begun_of_calls (calls : Calls h k s e) (taken : setup.step s e = some t) :
    Begun h k t := by
  cases e with
  | begin index unmarshalled =>
      cases unmarshalled with
      | ok value => exact begun_of_begin calls taken
      | error exn => exact calls.elim
  | _ => exact calls.elim

theorem begin_of_begun (spawns : setup.kind.spawns = true) (opened : s.closing = false)
    (waiting : ¬Begun h k s) (begun : Begun h k t) (taken : setup.step s e = some t) :
    ∃ index unmarshalled, e = .begin index unmarshalled ∧ Occurs s.takers h k index := by
  rcases begun with ⟨place, job, occurs, found, stage⟩
  -- The event is the same in both states, since messages are only added.
  have earlier : ∀ old, s.jobs[place]? = some old → Occurs s.takers h k place := by
    intro old present
    apply occurs.restrict (takers_step taken)
    rw [State.takers, List.length_map]
    exact (List.getElem?_eq_some_iff.mp present).1
  rcases job_before_step taken found with
    old | ⟨old, present, change⟩ | ⟨-, taker, -, arrives, -⟩
  · exact absurd ⟨place, job, earlier job old, old, stage⟩ waiting
  · have occurred := earlier old present
    have spawned : old.stage = .spawned := by
      by_contra begun
      exact waiting ⟨place, old, occurred, present, begun⟩
    rcases begin_of_changes change spawned with ⟨unmarshalled, rfl⟩
    exact ⟨place, unmarshalled, rfl, occurred⟩
  · cases arrives with
    | turnedAway closing =>
        rw [opened] at closing
        cases closing
    | spawned _ => exact absurd rfl stage
    | running inline =>
        rw [spawns] at inline
        cases inline

theorem invocations_of_begun (begun : Begun h k s) (run : exec setup.step s events = some u) :
    invocations setup h k s events = 0 := by
  induction events generalizing s with
  | nil => rfl
  | cons e events ih =>
      rcases exec_cons.mp run with ⟨t, taken, rest⟩
      have uncalled := not_calls_of_begun begun taken
      have later := ih (begun_step begun taken) rest
      simp only [invocations, taken, if_neg uncalled, later]

theorem invocations_until_begun (spawns : setup.kind.spawns = true)
    (scripted : (workload h)[k]? = some script) (kept : Kept setup workload s)
    (waiting : ¬Begun h k s) (begun : Begun h k u)
    (follows : Along setup.step (Follows workload) s events)
    (run : exec setup.step s events = some u) :
    invocations setup h k s events = if script.unmarshalled = .ok () then 1 else 0 := by
  induction events generalizing s with
  | nil =>
      cases run
      exact absurd begun waiting
  | cons e events ih =>
      rcases exec_cons.mp run with ⟨t, taken, rest⟩
      by_cases now : Begun h k t
      · rcases begin_of_begun spawns kept.tracked.opened waiting now taken with
          ⟨index, unmarshalled, rfl, occurs⟩
        have answer : script.unmarshalled = unmarshalled := by
          apply follows.1 script
          rw [scriptOf_occurs occurs, scripted]
          rfl
        simp only [invocations, taken, invocations_of_begun now rest, answer]
        cases unmarshalled with
        | ok value =>
            have calls : Calls h k s (.begin index (.ok value)) := occurs
            rw [if_pos calls, if_pos rfl]
        | error exn =>
            have uncalled : ¬Calls h k s (.begin index (.error exn)) := id
            rw [if_neg uncalled, if_neg nofun]
      · have uncalled : ¬Calls h k s e := fun calls => now (begun_of_calls calls taken)
        have later := ih (kept_step s e t kept follows.1 taken) now (follows.2 t taken) rest
        simp only [invocations, taken, if_neg uncalled, Nat.zero_add, later]

end Calls

section Observed

variable {setup : Setup} {workload : Workload} {script : Script} {h k : Nat} {events : List Event}

theorem observed (spawns : setup.kind.spawns = true) (scripted : (workload h)[k]? = some script)
    (completes : Completes setup workload h k events) (others : NoneElseFails setup h k events) :
    (invocations setup h k initial events = if script.unmarshalled = .ok () then 1 else 0) ∧
      (Acked setup h k events ↔ script.Succeeds setup.kind) := by
  rcases completes with ⟨offered, follows, u, run, looping, complete⟩
  rcases Option.ne_none_iff_exists'.mp looping with ⟨loop, present⟩
  have kept := kept_of_run follows run
  rcases concluded_of_undisturbed (undisturbed_of_run follows others run) kept.supervised present
    complete offered with ⟨index, job, occurs, found, concluded⟩
  refine ⟨?_, ?_⟩
  · apply invocations_until_begun spawns scripted (kept_initial setup workload) _ _ follows run
    · rintro ⟨place, other, -, none, -⟩
      cases none
    · refine ⟨index, job, occurs, found, ?_⟩
      intro spawned
      rw [Job.concluded, spawned] at concluded
      cases concluded
  · rcases kept.tracked.scripted index job found with ⟨same, answers, consistent⟩
    rw [scriptOf_occurs occurs, scripted] at answers
    cases answers
    rw [← consistent.acked_iff concluded]
    constructor
    · rintro ⟨v, again, place, -, other, twin, there, acked⟩
      rw [run] at again
      cases again
      cases occurs.unique other
      rw [found] at there
      cases there
      exact acked
    · intro acked
      have bound := (List.getElem?_eq_some_iff.mp found).1
      exact ⟨u, run, index, List.mem_range.mpr bound, occurs, job, found, acked⟩

end Observed

/-- For every set of handlers, every two sequences of events that offer a handler the same event
and agree on its own outcome on it, and every two interleavings: as long as no other message fails
before the handler is through with the event, it is called equally often and acks equally. -/
theorem handler_independent (handlers h k : Nat) (first second : Workload)
    (left right : List Event) (same : (first h)[k]? = (second h)[k]?)
    (complete : Completes (Setup.eventBus handlers) first h k left)
    (completes : Completes (Setup.eventBus handlers) second h k right)
    (others : NoneElseFails (Setup.eventBus handlers) h k left)
    (rest : NoneElseFails (Setup.eventBus handlers) h k right) :
    invocations (Setup.eventBus handlers) h k initial left =
        invocations (Setup.eventBus handlers) h k initial right ∧
      (Acked (Setup.eventBus handlers) h k left ↔ Acked (Setup.eventBus handlers) h k right) := by
  have offered := complete.offered
  have scripted : (first h)[k]? = some (first h)[k] := List.getElem?_eq_getElem offered
  have one := observed rfl scripted complete others
  have other := observed rfl (same.symm.trans scripted) completes rest
  exact ⟨one.1.trans other.1.symm, one.2.trans other.2.symm⟩

def succeeding : Script := ⟨.ok (), .ok [], .ok (), .ok (), .ok ()⟩

def raising : Script := { succeeding with handled := .error (.other "boom") }

def bothSucceed : Workload := fun _ => [succeeding]

def firstRaises : Workload := fun h => if h = 0 then [raising] else [succeeding]

def runUntilOver : List Event :=
  [.run, .start 0, .start 1, .receive 1, .begin 0 (.ok ()), .resume 0 (.returned []),
    .resume 0 (.returned [])]

def runFailingLater : List Event :=
  [.run, .start 0, .start 1, .receive 0, .receive 1, .begin 0 (.ok ()), .begin 1 (.ok ()),
    .resume 1 (.returned []), .resume 1 (.returned []), .resume 0 (.raised (.other "boom")),
    .resume 0 (.returned []), .cancelLoop 0, .join 0, .cancelLoop 1, .join 1, .finish]

theorem handler_independent_of_later_failure :
    invocations (Setup.eventBus 2) 1 0 initial runUntilOver =
        invocations (Setup.eventBus 2) 1 0 initial runFailingLater ∧
      (Acked (Setup.eventBus 2) 1 0 runUntilOver ↔ Acked (Setup.eventBus 2) 1 0 runFailingLater) :=
  handler_independent 2 1 0 bothSucceed firstRaises runUntilOver runFailingLater rfl (by decide)
    (by decide) (by decide) (by decide)

def runSucceeding : List Event :=
  [.run, .start 0, .start 1, .receive 0, .receive 1, .begin 0 (.ok ()), .begin 1 (.ok ()),
    .resume 0 (.returned []), .resume 0 (.returned []), .resume 1 (.returned []),
    .resume 1 (.returned []), .exhaust 0, .exhaust 1, .join 0, .join 1, .finish]

/-- The first handler raises, and the group of `run` is cancelled before the second loop has taken
its event. -/
def runFailingFirst : List Event :=
  [.run, .start 0, .start 1, .receive 0, .begin 0 (.ok ()), .resume 0 (.raised (.other "boom")),
    .resume 0 (.returned []), .cancelLoop 0, .join 0, .cancelLoop 1, .join 1, .finish]

/-- Only the first handler's outcome differs, and the second is neither called nor acks. -/
theorem failing_handler_stops_other :
    Completes (Setup.eventBus 2) bothSucceed 1 0 runSucceeding ∧
      Completes (Setup.eventBus 2) firstRaises 1 0 runFailingFirst ∧
      (bothSucceed 1)[0]? = (firstRaises 1)[0]? ∧
      invocations (Setup.eventBus 2) 1 0 initial runSucceeding ≠
        invocations (Setup.eventBus 2) 1 0 initial runFailingFirst ∧
      ¬(Acked (Setup.eventBus 2) 1 0 runSucceeding ↔
        Acked (Setup.eventBus 2) 1 0 runFailingFirst) := by
  decide

end Natricine.Cqrs
