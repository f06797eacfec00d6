import Natricine.Service.Workload

/-! The state of a `Router`, `CommandBus` or `EventBus` over any number of consecutive runs:
`_in_flight` counts what is being processed, nothing of a run is left when it is over, and a
second `run()` is refused. -/

namespace Natricine.Service

open Occurrence Transition

/-- A service, and how many of its `run()` calls have passed their guard and not ended. -/
structure Observed where
  state : State
  active : Nat
  deriving DecidableEq, Repr

def Observed.initial : Observed := ⟨Service.initial, 0⟩

/-- The `run()` calls under way after an event. -/
def activeAfter (setup : Setup) (o : Observed) : Event → Nat
  | .run =>
      match run setup o.state with
      | .ok _ => o.active + 1
      | .error _ => o.active
  | .finish => o.active - 1
  | _ => o.active

def Setup.observe (setup : Setup) (o : Observed) (e : Event) : Option Observed :=
  (setup.step o.state e).map (fun t => ⟨t, activeAfter setup o e⟩)

theorem exec_observe {setup : Setup} {events : List Event} {o : Observed} {u : State}
    (run : exec setup.step o.state events = some u) :
    ∃ n, exec setup.observe o events = some ⟨u, n⟩ := by
  induction events generalizing o with
  | nil =>
      cases run
      exact ⟨o.active, rfl⟩
  | cons e events ih =>
      rcases exec_cons.mp run with ⟨t, first, rest⟩
      rcases ih (o := ⟨t, activeAfter setup o e⟩) rest with ⟨n, observed⟩
      refine ⟨n, exec_cons.mpr ⟨⟨t, activeAfter setup o e⟩, ?_, observed⟩⟩
      rw [Setup.observe, first]
      rfl

structure Lifecycle (setup : Setup) (o : Observed) : Prop where
  counted : o.state.inFlight = (o.state.jobs.countP Job.isRunning : Int)
  bounded : setup.kind = .router → o.state.inFlight ≤ (setup.handlers.length : Int)
  idle : o.active = 0 → o.state.inFlight = 0 ∧ o.state.running = false ∧
    o.state.closing = false ∧ o.state.cancelScope = none
  exclusive : 0 < o.active →
    run setup o.state = .error (.other (setup.kind.name ++ " is already running")) ∧
      setup.observe o .run = some o

structure Steady (s t : State) : Prop extends Framed s t where
  running : t.running = s.running
  scope : s.cancelScope = none → t.cancelScope = none

section Steady

variable {kind : Kind} {setup : Setup} {s t : State} {index h : Nat} {job : Job} {loop : Loop}

theorem cancel_steady : Steady s s.cancel := by
  refine ⟨⟨rfl, rfl⟩, rfl, ?_⟩
  intro none
  rw [State.cancel, none]
  rfl

theorem putLoop_steady (next : Loop) : Steady s (s.putLoop h next) :=
  ⟨putLoop_framed next, rfl, id⟩

theorem Steady.trans {u : State} (first : Steady s t) (second : Steady t u) : Steady s u :=
  ⟨⟨second.closing.trans first.closing, second.length.trans first.length⟩,
    second.running.trans first.running, fun none => second.scope (first.scope none)⟩

theorem endLoop_steady (outcome : Await Unit) : Steady s (endLoop kind s h loop outcome) := by
  rw [endLoop]
  split
  · exact putLoop_steady _
  · split
    · exact (putLoop_steady _).trans cancel_steady
    · exact putLoop_steady _

theorem conclude_steady (outcome : Await Unit) : Steady s (conclude kind s h loop outcome) := by
  unfold conclude
  split
  · split
    · exact putLoop_steady _
    · exact ⟨⟨rfl, rfl⟩, rfl, id⟩
  · split
    · exact putLoop_steady _
    · exact endLoop_steady _
    · exact endLoop_steady _

theorem putJob_steady (next : Job) (counted : Int) : Steady s (s.putJob index next counted) :=
  ⟨⟨rfl, rfl⟩, rfl, id⟩

theorem join_steady (outcome : Await Unit) : Steady s (join s h loop outcome) := by
  rw [join]
  split
  · exact (putLoop_steady _).trans cancel_steady
  · exact putLoop_steady _

theorem receive_steady : Steady s (receive kind s h loop) := by
  refine ⟨receive_framed, ?_, ?_⟩
  · rw [receive]
    split
    · rfl
    · split <;> rfl
  · intro none
    rw [receive]
    split
    · exact none
    · split <;> exact none

theorem resumeJob_steady (phase : Phase) (outcome : Await (List PubSub.Message)) :
    Steady s (resumeJob setup s index job phase loop outcome) := by
  rcases resumeJob_cases setup s index job phase loop outcome with
    ⟨result, -, -, ⟨later, -, same⟩ | ⟨ending, -, same⟩⟩
  · rw [same]
    exact putJob_steady _ _
  · rw [same]
    exact (putJob_steady _ _).trans (conclude_steady _)

theorem begin_steady (unmarshalled : Except Exn Unit) :
    Steady s (begin setup s index job loop unmarshalled) := by
  cases unmarshalled with
  | ok value => exact putJob_steady _ _
  | error exn => exact (putJob_steady _ _).trans (resumeJob_steady _ _)

theorem ownSettle_steady (settlement : Settlement) :
    Steady s (ownSettle s index job settlement) := by
  cases settlement with
  | ack =>
      simp only [ownSettle]
      split
      · exact putJob_steady _ _
      · exact ⟨⟨rfl, rfl⟩, rfl, id⟩
  | nack =>
      simp only [ownSettle]
      split
      · exact putJob_steady _ _
      · exact ⟨⟨rfl, rfl⟩, rfl, id⟩

theorem look_steady : Steady s (look s).1 := by
  rw [look]
  split
  · exact ⟨⟨rfl, rfl⟩, rfl, id⟩
  · exact cancel_steady

end Steady

section Run

variable {setup : Setup} {s t : State} {e : Event} {o next : Observed}

theorem steady_step (taken : setup.step s e = some t) (later : e ≠ .run) (unfinished : e ≠ .finish)
    (unclosed : e ≠ .close) : Steady s t := by
  cases taken_of_step taken with
  | run => exact absurd rfl later
  | refused => exact absurd rfl later
  | start h loop found spawned => exact putLoop_steady _
  | receive h loop found waiting => exact receive_steady
  | exhaust h loop found waiting => exact endLoop_steady _
  | breaks h exn loop found waiting => exact endLoop_steady _
  | cancelLoop h loop found waiting cancelled => exact endLoop_steady _
  | join h loop outcome found joining drained => exact join_steady _
  | begin index unmarshalled job loop found spawned present => exact begin_steady _
  | ownSettle index settlement job found inline handling => exact ownSettle_steady _
  | ownCallback index job found handling settled => exact putJob_steady _ _
  | resume index outcome job phase loop found running present reached => exact resumeJob_steady _ _
  | settle index outcome job loop found away present reached =>
      exact (putJob_steady _ _).trans (endLoop_steady _)
  | close => exact absurd rfl unclosed
  | poll k found =>
      have seen : Steady s (look s).1 := look_steady
      exact ⟨⟨seen.closing, seen.length⟩, seen.running, seen.scope⟩
  | timeout k found =>
      have cancelled : Steady s s.cancel := cancel_steady
      exact ⟨⟨cancelled.closing, cancelled.length⟩, cancelled.running, cancelled.scope⟩
  | interrupt running => exact cancel_steady
  | finish => exact absurd rfl unfinished

theorem close_spec : (close s).running = s.running ∧ (close s).loops.length = s.loops.length ∧
    (s.running = false → close s = s) := by
  cases on : s.running with
  | true =>
      rw [close, if_pos on]
      have seen : Steady { s with closing := true, closeCalled := true }
        (look { s with closing := true, closeCalled := true }).1 := look_steady
      exact ⟨seen.running.trans on, seen.length, fun off => by cases off⟩
  | false =>
      rw [close, if_neg (by rw [on]; exact Bool.false_ne_true)]
      exact ⟨on, rfl, fun _ => rfl⟩

structure Governed (setup : Setup) (o : Observed) : Prop where
  supervised : Supervised setup.kind o.state
  active : o.active = if o.state.running then 1 else 0
  reset : o.state.running = false → o.state.closing = false ∧ o.state.cancelScope = none
  loops : o.state.running = true → o.state.loops.length = setup.handlers.length

theorem initial_governed (setup : Setup) : Governed setup .initial :=
  ⟨initial_supervised setup.kind, rfl, fun _ => ⟨rfl, rfl⟩, nofun⟩

theorem Governed.steady (governed : Governed setup o) (supervised : Supervised setup.kind t)
    (steady : Steady o.state t) : Governed setup ⟨t, o.active⟩ := by
  refine ⟨supervised, ?_, ?_, ?_⟩
  · rw [governed.active, steady.running]
  · intro off
    rw [steady.running] at off
    rcases governed.reset off with ⟨closing, scope⟩
    exact ⟨steady.closing.trans closing, steady.scope scope⟩
  · intro on
    rw [steady.running] at on
    exact steady.length.trans (governed.loops on)

theorem Governed.run (governed : Governed setup o) (taken : setup.step o.state .run = some t) :
    Governed setup ⟨t, activeAfter setup o .run⟩ := by
  have supervised := step_supervised setup _ _ _ governed.supervised taken
  simp only [Setup.step] at taken
  rw [activeAfter]
  cases made : Service.run setup o.state with
  | error exn =>
      rw [made] at taken
      cases taken
      exact governed
  | ok next =>
      rw [made] at taken
      cases taken
      rw [Service.run] at made
      split at made
      · cases made
      · rename_i idle
        cases made
        refine ⟨supervised, ?_, (fun off => by cases off), fun _ => List.length_map _⟩
        rw [governed.active, Bool.not_eq_true _ |>.mp idle]
        rfl

theorem governed_step (setup : Setup) (o : Observed) (e : Event) (next : Observed)
    (governed : Governed setup o) (taken : setup.observe o e = some next) :
    Governed setup next := by
  rcases Option.map_eq_some_iff.mp taken with ⟨t, stepped, rfl⟩
  have supervised := step_supervised setup _ _ _ governed.supervised stepped
  by_cases begins : e = .run
  · subst begins
    exact governed.run stepped
  by_cases ends : e = .finish
  · subst ends
    cases taken_of_step stepped with
    | finish running drained =>
        refine ⟨supervised, ?_, fun _ => ⟨rfl, rfl⟩, nofun⟩
        rw [activeAfter, governed.active, running]
        rfl
  have unchanged : activeAfter setup o e = o.active := by
    cases e with
    | run => exact absurd rfl begins
    | finish => exact absurd rfl ends
    | _ => rfl
  rw [unchanged]
  by_cases closes : e = .close
  · subst closes
    cases stepped
    rcases close_spec (s := o.state) with ⟨running, length, idle⟩
    refine ⟨supervised, ?_, ?_, ?_⟩
    · rw [governed.active, running]
    · intro off
      rw [running] at off
      rw [idle off]
      exact governed.reset off
    · intro on
      rw [running] at on
      exact length.trans (governed.loops on)
  · exact governed.steady supervised (steady_step stepped begins ends closes)

theorem Supervised.countP_le_loops (inv : Supervised .router s) :
    s.jobs.countP Job.isRunning ≤ s.loops.length := by
  have busy : ∀ (index : Nat) job, s.jobs[index]? = some job → job.isRunning = true →
      ∃ loop, s.loops[job.loop]? = some loop ∧ loop.stage = .busy index := by
    intro index job found runs
    have active : job.isEnded = false := by
      rw [Job.isRunning] at runs
      split at runs
      · rename_i phase stage
        rw [Job.isEnded, stage]
      all_goals cases runs
    rcases inv.attached index job found active with ⟨loop, present, supported⟩
    exact ⟨loop, present, supported⟩
  have below : ∀ job ∈ s.jobs, job.isRunning = true → job.loop < s.loops.length := by
    intro job member runs
    rcases List.mem_iff_getElem?.mp member with ⟨index, found⟩
    rcases busy index job found runs with ⟨loop, present, -⟩
    exact (List.getElem?_eq_some_iff.mp present).1
  have apart : s.jobs.Pairwise (fun first second =>
      first.isRunning = true → second.isRunning = true → first.loop ≠ second.loop) := by
    apply List.pairwise_iff_getElem.mpr
    intro first second here there before runs goes same
    rcases busy first _ (List.getElem?_eq_getElem here) runs with ⟨loop, present, stage⟩
    rcases busy second _ (List.getElem?_eq_getElem there) goes with ⟨other, found, held⟩
    rw [← same, present] at found
    cases found
    rw [stage] at held
    cases held
    exact Nat.lt_irrefl _ before
  exact countP_le_of_places below apart

theorem Supervised.inFlight_idle {kind : Kind} (inv : Supervised kind s)
    (off : s.running = false) : s.inFlight = 0 := by
  rw [inv.counted]
  have none : s.jobs.countP Job.isRunning = 0 := by
    apply List.countP_eq_zero.mpr
    intro job member runs
    rcases ended_stage (inv.all_ended (inv.stopped off) job member) with ⟨outcome, stage⟩
    rw [Job.isRunning, stage] at runs
    cases runs
  rw [none]
  rfl

theorem Governed.lifecycle (governed : Governed setup o) : Lifecycle setup o := by
  have active := governed.active
  refine ⟨governed.supervised.counted, ?_, ?_, ?_⟩
  · intro router
    have inv := governed.supervised
    cases on : o.state.running with
    | false =>
        rw [inv.inFlight_idle on]
        exact Int.natCast_nonneg _
    | true =>
        rw [inv.counted, ← governed.loops on]
        rw [router] at inv
        exact Int.ofNat_le.mpr inv.countP_le_loops
  · intro none
    have off : o.state.running = false := by
      cases on : o.state.running with
      | false => rfl
      | true =>
          rw [on, none] at active
          cases active
    exact ⟨governed.supervised.inFlight_idle off, off, governed.reset off⟩
  · intro under
    have on : o.state.running = true := by
      cases on : o.state.running with
      | true => rfl
      | false =>
          rw [on] at active
          rw [active] at under
          cases under
    have refused : Service.run setup o.state =
        .error (.other (setup.kind.name ++ " is already running")) := by
      rw [Service.run, if_pos on]
    refine ⟨refused, ?_⟩
    simp only [Setup.observe, Setup.step, activeAfter, refused, Option.map_some]

end Run

/-- In every state that any number of runs passes through, of a router or a bus, under every
interleaving of `run()`, `close()`, messages, exceptions and cancellations. -/
theorem run_lifecycle (setup : Setup) (events : List Event) :
    Throughout setup.observe (Lifecycle setup) .initial events := by
  intro o visited
  have governed := visits_preserves (governed_step setup) (initial_governed setup) visited
  exact governed.lifecycle

end Natricine.Service
