import Natricine.Service.Settlement

namespace Natricine.Service

open PubSub Transition

/-- When `run()` has ended, each message taken before `close()` was called has been processed to
its end, uncancelled, and is settled. -/
def EarlyCompleted (s : State) : Prop :=
  s.running = false → ∀ job ∈ s.jobs, job.early = true →
    job.isEnded = true ∧ job.stage ≠ .ended .cancelled ∧ job.flags.Settled

/-- When `run()` has ended, each message is settled and its callback has run to completion. -/
def EverySettled (s : State) : Prop :=
  s.running = false → ∀ job ∈ s.jobs, job.flags.Settled ∧ job.callbackDone = true

/-- No `close()` runs into its timeout, and `run()` is not cancelled from outside. -/
def Unforced : Event → Prop
  | .timeout _ | .interrupt => False
  | _ => True

/-- The messages that a result is about: all of them, or those taken before `close()`. -/
def Concerned (all : Bool) (job : Job) : Prop := all = true ∨ job.early = true

/-- The scope that an exception of the loop `h` cancels holds no unfinished message of concern
but the one that raises. -/
def OthersEnded (all : Bool) (kind : Kind) (s : State) (h : Nat) (raising : Option Nat) : Prop :=
  ∀ (index : Nat) job, s.jobs[index]? = some job → some index ≠ raising → Concerned all job →
    (kind.spawns = true → job.loop = h) → job.isEnded = true

def NoneUncounted (all : Bool) (s : State) : Prop :=
  ∀ job ∈ s.jobs, Concerned all job → job.stage ≠ .spawned ∧ job.stage ≠ .turnedAway

/-- The answer ends the processing of the message with an exception: `ack` or `nack` is refused,
or its callback or the publish raises, or the `nack` after an exception is over. -/
def Raises (job : Job) (outcome : Await (List Message)) : Prop :=
  match job.stage with
  | .running .handling => job.flags.Settled ∧ outcome ≠ .cancelled
  | .running (.acking _) | .running (.publishing _) => outcome.Raised
  | .running (.nacking _) => outcome ≠ .cancelled
  | .spawned | .turnedAway | .ended _ => False

/-- No step cancels a scope in which a message of concern is unfinished, or takes one into a
cancelled scope: `close()` reads zero only when none is uncounted, and nothing raises beside
one. -/
def Spares (all : Bool) (setup : Setup) (s : State) : Event → Prop
  | .receive h => ∀ loop ∈ s.loops[h]?, s.Cancelled loop → all = false ∧ s.closeCalled = true
  | .breaks h _ => OthersEnded all setup.kind s h none
  | .join h => ∀ loop ∈ s.loops[h]?, loop.failed = true →
      ∀ job ∈ s.jobs, Concerned all job → job.isEnded = true
  | .resume index outcome => ∀ job ∈ s.jobs[index]?, Raises job outcome →
      OthersEnded all setup.kind s job.loop (some index)
  | .settle index outcome => ∀ job ∈ s.jobs[index]?, outcome.Raised →
      OthersEnded all setup.kind s job.loop (some index)
  | .close => s.running = true → s.inFlight ≤ 0 → NoneUncounted all s
  | .poll _ => s.inFlight ≤ 0 → NoneUncounted all s
  | _ => True

/-- The answer is not an exception of a settlement callback, and no end of a handler that has
settled its message without awaiting the callback. -/
def SettlesFully (job : Job) (outcome : Await (List Message)) : Prop :=
  match job.stage with
  | .running .handling => job.flags.Settled → job.callbackDone = true
  | .running (.acking _) | .running (.nacking _) => ¬ outcome.Raised
  | .running (.publishing _) | .spawned | .turnedAway | .ended _ => True

/-- No settlement callback raises, and a handler that settles its message awaits the callback. -/
def CallbacksComplete (s : State) : Event → Prop
  | .resume index outcome => ∀ job ∈ s.jobs[index]?, SettlesFully job outcome
  | .settle _ outcome => ¬ outcome.Raised
  | _ => True

section Decidable

instance (s : State) : Decidable (EarlyCompleted s) := inferInstanceAs (Decidable (_ → _))

instance (s : State) : Decidable (EverySettled s) := inferInstanceAs (Decidable (_ → _))

instance : (e : Event) → Decidable (Unforced e)
  | .timeout _ | .interrupt => isFalse id
  | .run | .start _ | .receive _ | .exhaust _ | .breaks _ _ | .cancelLoop _ | .join _ | .begin _ _
  | .ownSettle _ _ | .ownCallback _ | .resume _ _ | .settle _ _ | .close | .poll _ | .finish =>
      isTrue trivial

instance (all : Bool) (job : Job) : Decidable (Concerned all job) :=
  inferInstanceAs (Decidable (_ ∨ _))

instance (all : Bool) (kind : Kind) (s : State) (h : Nat) (raising : Option Nat) :
    Decidable (OthersEnded all kind s h raising) :=
  Update.decidableForallIndexed s.jobs

instance (all : Bool) (s : State) : Decidable (NoneUncounted all s) :=
  inferInstanceAs (Decidable (∀ job ∈ s.jobs, _))

instance (outcome : Await (List Message)) : (job : Job) → Decidable (Raises job outcome)
  | ⟨_, _, .running .handling, _, _, _, _⟩ => inferInstanceAs (Decidable (_ ∧ _))
  | ⟨_, _, .running (.acking _), _, _, _, _⟩ | ⟨_, _, .running (.publishing _), _, _, _, _⟩ =>
      inferInstanceAs (Decidable outcome.Raised)
  | ⟨_, _, .running (.nacking _), _, _, _, _⟩ => inferInstanceAs (Decidable (outcome ≠ .cancelled))
  | ⟨_, _, .spawned, _, _, _, _⟩ | ⟨_, _, .turnedAway, _, _, _, _⟩ | ⟨_, _, .ended _, _, _, _, _⟩ =>
      isFalse id

instance (all : Bool) (setup : Setup) (s : State) : (e : Event) → Decidable (Spares all setup s e)
  | .receive h => inferInstanceAs (Decidable (∀ loop ∈ s.loops[h]?, _))
  | .breaks h _ => inferInstanceAs (Decidable (OthersEnded all setup.kind s h none))
  | .join h => inferInstanceAs (Decidable (∀ loop ∈ s.loops[h]?, _))
  | .resume index _ => inferInstanceAs (Decidable (∀ job ∈ s.jobs[index]?, _))
  | .settle index _ => inferInstanceAs (Decidable (∀ job ∈ s.jobs[index]?, _))
  | .close => inferInstanceAs (Decidable (_ → _))
  | .poll _ => inferInstanceAs (Decidable (_ → _))
  | .run | .start _ | .exhaust _ | .cancelLoop _ | .begin _ _ | .ownSettle _ _ | .ownCallback _
  | .timeout _ | .interrupt | .finish => isTrue trivial

instance (outcome : Await (List Message)) : (job : Job) → Decidable (SettlesFully job outcome)
  | ⟨_, _, .running .handling, _, _, _, _⟩ => inferInstanceAs (Decidable (_ → _))
  | ⟨_, _, .running (.acking _), _, _, _, _⟩ | ⟨_, _, .running (.nacking _), _, _, _, _⟩ =>
      inferInstanceAs (Decidable (¬ outcome.Raised))
  | ⟨_, _, .running (.publishing _), _, _, _, _⟩ | ⟨_, _, .spawned, _, _, _, _⟩
  | ⟨_, _, .turnedAway, _, _, _, _⟩ | ⟨_, _, .ended _, _, _, _, _⟩ => isTrue trivial

instance (s : State) : (e : Event) → Decidable (CallbacksComplete s e)
  | .resume index _ => inferInstanceAs (Decidable (∀ job ∈ s.jobs[index]?, _))
  | .settle _ outcome => inferInstanceAs (Decidable (¬ outcome.Raised))
  | .run | .start _ | .receive _ | .exhaust _ | .breaks _ _ | .cancelLoop _ | .join _ | .begin _ _
  | .ownSettle _ _ | .ownCallback _ | .close | .poll _ | .timeout _ | .interrupt | .finish =>
      isTrue trivial

end Decidable

structure Calm (all : Bool) (s : State) : Prop where
  outer : s.cancelScope = some true → ∀ job ∈ s.jobs, Concerned all job → job.isEnded = true
  nested : ∀ (h : Nat) loop, s.loops[h]? = some loop → loop.cancelled = true →
    ∀ job ∈ s.jobs, Concerned all job → job.loop = h → job.isEnded = true
  unharmed : ∀ job ∈ s.jobs, Concerned all job → job.stage ≠ .ended .cancelled

theorem initial_calm (all : Bool) : Calm all initial := by
  refine ⟨nofun, ?_, ?_⟩
  · intro h loop found
    cases found
  · intro job member
    cases member

section Moves

variable {all : Bool} {kind : Kind} {s : State} {index h : Nat} {job next : Job}
  {loop later : Loop}

theorem Calm.putJob (inv : Calm all s) (found : s.jobs[index]? = some job)
    (active : job.isEnded = false)
    (fine : Concerned all job → next.stage ≠ .ended .cancelled)
    (sameLoop : next.loop = job.loop) (sameEarly : next.early = job.early) (counted : Int) :
    Calm all (s.putJob index next counted) := by
  have member := List.mem_of_getElem? found
  have same : Concerned all next → Concerned all job := by
    intro concerned
    rw [Concerned, ← sameEarly]
    exact concerned
  have busy : Concerned all job → ¬ job.isEnded = true := by
    intro _ ended
    rw [active] at ended
    cases ended
  refine ⟨?_, ?_, ?_⟩
  · intro cancelled other inside concerned
    rcases List.mem_or_eq_of_mem_set inside with old | rfl
    · exact inv.outer cancelled other old concerned
    · have before := same concerned
      exact absurd (inv.outer cancelled job member before) (busy before)
  · intro place loop present cancelled other inside concerned here
    rcases List.mem_or_eq_of_mem_set inside with old | rfl
    · exact inv.nested place loop present cancelled other old concerned here
    · have before := same concerned
      rw [sameLoop] at here
      exact absurd (inv.nested place loop present cancelled job member before here) (busy before)
  · intro other inside concerned
    rcases List.mem_or_eq_of_mem_set inside with old | rfl
    · exact inv.unharmed other old concerned
    · exact fine (same concerned)

theorem Calm.addJob (inv : Calm all s)
    (outside : Concerned all next → s.cancelScope ≠ some true ∧
      ∀ loop, s.loops[next.loop]? = some loop → loop.cancelled ≠ true)
    (fine : next.stage ≠ .ended .cancelled) (counted : Int) :
    Calm all (s.addJob next counted) := by
  refine ⟨?_, ?_, ?_⟩
  · intro cancelled other inside concerned
    rcases List.mem_append.mp inside with old | new
    · exact inv.outer cancelled other old concerned
    · rw [List.mem_singleton.mp new] at concerned
      exact absurd cancelled (outside concerned).1
  · intro place loop present cancelled other inside concerned here
    rcases List.mem_append.mp inside with old | new
    · exact inv.nested place loop present cancelled other old concerned here
    · rw [List.mem_singleton.mp new] at concerned here
      rw [← here] at present
      exact absurd cancelled ((outside concerned).2 loop present)
  · intro other inside concerned
    rcases List.mem_append.mp inside with old | new
    · exact inv.unharmed other old concerned
    · rw [List.mem_singleton.mp new]
      exact fine

theorem Calm.putLoop (inv : Calm all s) (found : s.loops[h]? = some loop)
    (spared : later.cancelled = true → loop.cancelled = true ∨
      ∀ job ∈ s.jobs, Concerned all job → job.loop = h → job.isEnded = true) :
    Calm all (s.putLoop h later) := by
  refine ⟨inv.outer, ?_, inv.unharmed⟩
  intro place other present cancelled job member concerned here
  rcases Update.getElem?_set_cases _ present with ⟨rfl, rfl⟩ | ⟨-, present⟩
  · rcases spared cancelled with before | drained
    · exact inv.nested place loop found before job member concerned here
    · exact drained job member concerned here
  · exact inv.nested place other present cancelled job member concerned here

theorem Calm.cancel (inv : Calm all s)
    (drained : ∀ job ∈ s.jobs, Concerned all job → job.isEnded = true) : Calm all s.cancel :=
  ⟨fun _ => drained, inv.nested, inv.unharmed⟩

def Spared (all : Bool) (kind : Kind) (s : State) (h : Nat) : Prop :=
  ∀ job ∈ s.jobs, Concerned all job → (kind.spawns = true → job.loop = h) → job.isEnded = true

theorem Calm.endLoop (inv : Calm all s) (found : s.loops[h]? = some loop) {outcome : Await Unit}
    (spared : outcome.Raised → Spared all kind s h) : Calm all (endLoop kind s h loop outcome) := by
  rw [Service.endLoop]
  cases spawns : kind.spawns with
  | true =>
      rw [if_pos rfl]
      apply inv.putLoop found
      intro cancelled
      rcases Bool.or_eq_true_iff.mp cancelled with before | raised
      · exact Or.inl before
      · right
        intro job member concerned here
        exact spared (of_decide_eq_true raised) job member concerned (fun _ => here)
  | false =>
      rw [if_neg Bool.false_ne_true]
      have left : Calm all (s.putLoop h { loop with stage := .ended outcome }) :=
        inv.putLoop found Or.inl
      split
      · rename_i raised
        apply left.cancel
        intro job member concerned
        apply spared raised job member concerned
        intro spawned
        rw [spawns] at spawned
        cases spawned
      · exact left

theorem Calm.conclude (inv : Calm all s) (found : s.loops[h]? = some loop) {outcome : Await Unit}
    (spared : outcome.Raised → Spared all kind s h) :
    Calm all (conclude kind s h loop outcome) := by
  unfold Service.conclude
  split
  · split
    · rename_i raised
      apply inv.putLoop found
      intro _
      right
      intro job member concerned here
      exact spared raised job member concerned (fun _ => here)
    · exact inv
  · split
    · exact inv.putLoop found Or.inl
    · exact inv.endLoop found spared
    · exact inv.endLoop found spared

theorem Resumes.not_cancelled {flags : AckState} {phase : Phase}
    {outcome : Await (List Message)} {result : AckState × Turn}
    (resumed : Resumes flags phase outcome result) (ran : outcome ≠ .cancelled) :
    result.2.stage ≠ .ended .cancelled := by
  cases resumed with
  | cancelled => exact absurd rfl ran
  | acks outputs unsettled => nofun
  | nacks _ exn cause unsettled => nofun
  | refused _ _ exn settled asked answered ran => nofun
  | publishes outputs value => nofun
  | acked outputs value => nofun
  | published outputs value => nofun
  | nacked cause exn _ ran => nofun

theorem Resumes.raises {phase : Phase} {outcome : Await (List Message)}
    {result : AckState × Turn} (resumed : Resumes job.flags phase outcome result)
    (running : job.stage = .running phase) {ending : Await Unit} (turn : result.2 = .ended ending)
    (raised : ending.Raised) : Raises job outcome := by
  rw [Raises, running]
  cases resumed with
  | cancelled =>
      cases turn
      cases raised
  | acks outputs unsettled => cases turn
  | nacks _ exn cause unsettled => cases turn
  | refused _ _ exn settled asked answered ran =>
      cases phase with
      | handling => exact ⟨AckState.settled_of_ne_fresh settled, ran⟩
      | acking outputs => exact answered.resolve_left nofun
      | publishing outputs => exact answered.resolve_left nofun
      | nacking cause => exact absurd rfl (asked cause)
  | publishes outputs value => cases turn
  | acked outputs value =>
      cases turn
      cases raised
  | published outputs value =>
      cases turn
      cases raised
  | nacked cause exn _ ran => exact ran

theorem OthersEnded.spared (others : OthersEnded all kind s h (some index))
    (ended : next.isEnded = true) (counted : Int) :
    Spared all kind (s.putJob index next counted) h := by
  intro other member concerned here
  rcases List.mem_iff_getElem?.mp member with ⟨place, found⟩
  rcases Update.getElem?_set_cases _ found with ⟨-, rfl⟩ | ⟨elsewhere, found⟩
  · exact ended
  · exact others place other found (fun same => elsewhere (Option.some.inj same)) concerned here

theorem Calm.not_cancelled (inv : Calm all s) (found : s.jobs[index]? = some job)
    (active : job.isEnded = false) (present : s.loops[job.loop]? = some loop)
    (concerned : Concerned all job) : ¬ s.Cancelled loop := by
  have member := List.mem_of_getElem? found
  intro cancelled
  have ended : job.isEnded = true := by
    rcases cancelled with outer | nested
    · exact inv.outer outer job member concerned
    · exact inv.nested job.loop loop present nested job member concerned rfl
  rw [active] at ended
  cases ended

theorem Calm.resumeJob {setup : Setup} (inv : Calm all s) {phase : Phase}
    (found : s.jobs[index]? = some job) (running : job.stage = .running phase)
    (present : s.loops[job.loop]? = some loop) {outcome : Await (List Message)}
    (reached : outcome = .cancelled → s.Cancelled loop)
    (others : ∀ ending,
      (resume (setup.handler job.loop) job.flags phase outcome).2 = .ended ending →
      ending.Raised → OthersEnded all setup.kind s job.loop (some index)) :
    Calm all (resumeJob setup s index job phase loop outcome) := by
  have active : job.isEnded = false := by rw [Job.isEnded, running]
  rcases resumeJob_cases setup s index job phase loop outcome with ⟨result, made, resumed, turns⟩
  have fine : Concerned all job →
      (job.answered phase outcome result).stage ≠ .ended .cancelled := by
    intro concerned
    apply resumed.not_cancelled
    intro cancelled
    exact inv.not_cancelled found active present concerned (reached cancelled)
  rcases turns with ⟨later, turn, same⟩ | ⟨ending, turn, same⟩
  · rw [same]
    exact inv.putJob found active fine rfl rfl 0
  · rw [same]
    have ended : (job.answered phase outcome result).isEnded = true := by
      rw [Job.answered, turn]
      rfl
    apply (inv.putJob found active fine rfl rfl (-1)).conclude present
    intro raised
    rw [made] at turn
    exact (others ending turn raised).spared ended (-1)

theorem Calm.begin {setup : Setup} (inv : Calm all s) (found : s.jobs[index]? = some job)
    (spawned : job.stage = .spawned) (unsettled : job.flags = AckState.fresh)
    (present : s.loops[job.loop]? = some loop) (unmarshalled : Except Exn Unit) :
    Calm all (begin setup s index job loop unmarshalled) := by
  have started : Calm all (s.putJob index { job with stage := .running .handling } 1) := by
    apply inv.putJob found
    · rw [Job.isEnded, spawned]
    · simp
    · rfl
    · rfl
  cases unmarshalled with
  | ok value => exact started
  | error exn =>
      rw [Service.begin]
      refine started.resumeJob (getElem?_putJob found _ 1) rfl present (by simp) ?_
      -- A fresh message is nacked, so nothing is raised yet.
      intro ending turn
      simp only [unsettled] at turn
      cases turn

theorem Calm.settle (inv : Calm all s) (found : s.jobs[index]? = some job)
    (away : job.stage = .turnedAway) (present : s.loops[job.loop]? = some loop)
    {outcome : Await Unit} (reached : outcome = .cancelled → s.Cancelled loop)
    (others : outcome.Raised → OthersEnded all kind s job.loop (some index)) :
    Calm all (settle kind s index job loop outcome) := by
  have active : job.isEnded = false := by rw [Job.isEnded, away]
  rw [Service.settle]
  apply Calm.endLoop
  · apply inv.putJob found active
    · intro concerned cancelled
      apply inv.not_cancelled found active present concerned
      apply reached
      exact Stage.ended.inj cancelled
    · rfl
    · rfl
  · exact present
  · intro raised
    exact (others raised).spared rfl 0

theorem Calm.receive (inv : Calm all s) (found : s.loops[h]? = some loop)
    (outside : s.Cancelled loop → all = false ∧ s.closeCalled = true) :
    Calm all (receive kind s h loop) := by
  have bound := (List.getElem?_eq_some_iff.mp found).1
  -- Where a message of concern is added, its loop is in no cancelled scope.
  have spared : ∀ (t : State) flags stage, t.cancelScope = s.cancelScope →
      (∀ other, t.loops[h]? = some other → other.cancelled = loop.cancelled) →
      Concerned all ⟨h, flags, stage, !s.closeCalled, none, false, false⟩ →
      t.cancelScope ≠ some true ∧ ∀ other, t.loops[h]? = some other → other.cancelled ≠ true := by
    intro t flags stage sameScope sameLoop concerned
    have free : ¬ s.Cancelled loop := by
      intro cancelled
      rcases outside cancelled with ⟨earlyOnly, called⟩
      rcases concerned with every | early
      · rw [earlyOnly] at every
        cases every
      · simp only [called] at early
        cases early
    refine ⟨?_, ?_⟩
    · rw [sameScope]
      exact fun outer => free (Or.inl outer)
    · intro other present
      rw [sameLoop other present]
      exact fun nested => free (Or.inr nested)
  have busy : Calm all (s.putLoop h { loop with stage := .busy s.jobs.length }) :=
    inv.putLoop found Or.inl
  have busy_loop : ∀ other,
      (s.putLoop h { loop with stage := .busy s.jobs.length }).loops[h]? = some other →
        other.cancelled = loop.cancelled := by
    intro other present
    simp only [State.putLoop, List.getElem?_set_self bound, Option.some.injEq] at present
    rw [← present]
  rw [Service.receive]
  split
  · apply busy.addJob
    · exact spared _ _ _ rfl busy_loop
    · simp
  · split
    · apply inv.addJob
      · apply spared s _ _ rfl
        intro other present
        rw [found, Option.some.injEq] at present
        rw [present]
      · simp
    · apply busy.addJob
      · exact spared _ _ _ rfl busy_loop
      · simp

theorem Calm.join (inv : Calm all s) (found : s.loops[h]? = some loop)
    (drained : loop.failed = true → ∀ job ∈ s.jobs, Concerned all job → job.isEnded = true)
    (outcome : Await Unit) : Calm all (join s h loop outcome) := by
  rw [Service.join]
  split
  · rename_i failed
    apply Calm.cancel
    · exact inv.putLoop found Or.inl
    · exact drained failed
  · exact inv.putLoop found Or.inl

theorem Calm.ownSettle (inv : Calm all s) (found : s.jobs[index]? = some job)
    (handling : job.stage = .running .handling) (settlement : Settlement) :
    Calm all (ownSettle s index job settlement) := by
  have active : job.isEnded = false := by rw [Job.isEnded, handling]
  have fine : job.stage ≠ .ended .cancelled := by
    rw [handling]
    simp
  cases settlement with
  | ack =>
      simp only [Service.ownSettle]
      split
      · apply inv.putJob found active
        · exact fun _ => fine
        · rfl
        · rfl
      · exact inv
  | nack =>
      simp only [Service.ownSettle]
      split
      · apply inv.putJob found active
        · exact fun _ => fine
        · rfl
        · rfl
      · exact inv

/-- The counter covers what is being processed: when it is zero and nothing of concern is
uncounted, everything of concern has ended. -/
theorem all_ended_of_zero (counted : s.inFlight = (s.jobs.countP Job.isRunning : Int))
    (zero : ¬ 0 < s.inFlight) (none : NoneUncounted all s) :
    ∀ job ∈ s.jobs, Concerned all job → job.isEnded = true := by
  have idle : s.jobs.countP Job.isRunning = 0 := by omega
  intro job member concerned
  have still := List.countP_eq_zero.mp idle job member
  rcases none job member concerned with ⟨started, kept⟩
  rw [Job.isRunning] at still
  rw [Job.isEnded]
  cases stage : job.stage with
  | spawned => exact absurd stage started
  | running phase =>
      rw [stage] at still
      exact absurd rfl still
  | turnedAway => exact absurd stage kept
  | ended outcome => rfl

theorem Calm.look (inv : Calm all s) (counted : s.inFlight = (s.jobs.countP Job.isRunning : Int))
    (none : s.inFlight ≤ 0 → NoneUncounted all s) : Calm all (look s).1 := by
  rw [Service.look]
  split
  · exact inv
  · rename_i zero
    exact inv.cancel (all_ended_of_zero counted zero (none (Int.not_lt.mp zero)))

theorem Calm.run {setup : Setup} (inv : Calm all s) {t : State} (made : run setup s = .ok t) :
    Calm all t := by
  rw [Service.run] at made
  split at made
  · cases made
  · cases made
    refine ⟨(fun scope => by cases scope), ?_, inv.unharmed⟩
    intro place loop present cancelled
    rw [List.getElem?_map, Option.map_eq_some_iff] at present
    rcases present with ⟨handler, -, rfl⟩
    cases cancelled

end Moves

theorem step_calm (all : Bool) (setup : Setup) (s : State) (e : Event) (t : State)
    (structured : Supervised setup.kind s) (sound : AllSound setup.kind s) (inv : Calm all s)
    (spares : Spares all setup s e) (unforced : Unforced e) (taken : setup.step s e = some t) :
    Calm all t := by
  cases taken_of_step taken with
  | run _ made => exact inv.run made
  | refused => exact inv
  | start h loop found spawned => exact inv.putLoop found Or.inl
  | receive h loop found waiting => exact inv.receive found (spares loop found)
  | exhaust h loop found waiting => exact inv.endLoop found (fun raised => by cases raised)
  | breaks h exn loop found waiting =>
      apply inv.endLoop found
      intro _ job member concerned here
      rcases List.mem_iff_getElem?.mp member with ⟨place, present⟩
      exact spares place job present (by simp) concerned here
  | cancelLoop h loop found waiting cancelled =>
      exact inv.endLoop found (fun raised => by cases raised)
  | join h loop outcome found joining drained => exact inv.join found (spares loop found) outcome
  | begin index unmarshalled job loop found spawned present =>
      have staged := (sound job (List.mem_of_getElem? found)).staged
      rw [Staged, spawned] at staged
      exact inv.begin found spawned staged.1 present unmarshalled
  | ownSettle index settlement job found inline handling =>
      exact inv.ownSettle found handling settlement
  | ownCallback index job found handling settled =>
      apply inv.putJob found
      · rw [Job.isEnded, handling]
      · intro _
        simp only [handling]
        simp
      · rfl
      · rfl
  | resume index outcome job phase loop found running present reached =>
      apply inv.resumeJob found running present reached
      intro ending turn raised
      apply spares job found
      exact (resumes _ _ _ _).raises running turn raised
  | settle index outcome job loop found away present reached =>
      exact inv.settle found away present reached (spares job found)
  | close =>
      rw [close]
      split
      · rename_i running
        have closing : Calm all { s with closing := true, closeCalled := true } :=
          ⟨inv.outer, inv.nested, inv.unharmed⟩
        have seen := closing.look structured.counted (spares running)
        exact ⟨seen.outer, seen.nested, seen.unharmed⟩
      · exact inv
  | poll k found =>
      have seen := inv.look structured.counted spares
      exact ⟨seen.outer, seen.nested, seen.unharmed⟩
  | timeout k found => exact absurd unforced id
  | interrupt running => exact absurd unforced id
  | finish running drained => exact ⟨(fun scope => by cases scope), inv.nested, inv.unharmed⟩

def CallbackRan (job : Job) : Prop :=
  match job.stage with
  | .running (.publishing _) | .ended _ => job.callbackDone = true
  | .spawned | .running (.handling) | .running (.acking _) | .running (.nacking _) | .turnedAway =>
      True

def CallbacksRan (s : State) : Prop := ∀ job ∈ s.jobs, CallbackRan job

section Callbacks

variable {kind : Kind} {s : State} {index h : Nat} {job next : Job} {loop : Loop}

theorem returned_of_completed {α : Type} {outcome : Await α} (completed : ¬ outcome.Raised)
    (ran : outcome ≠ .cancelled) : decide outcome.Returned = true := by
  cases outcome with
  | returned value => rfl
  | raised exn => exact absurd trivial completed
  | cancelled => exact absurd rfl ran

theorem CallbackRan.answered (before : CallbackRan job) {phase : Phase}
    (running : job.stage = .running phase) {outcome : Await (List Message)}
    {result : AckState × Turn} (resumed : Resumes job.flags phase outcome result)
    (uncancelled : outcome ≠ .cancelled)
    (own : phase = .handling → job.flags.Settled → job.callbackDone = true)
    (completed : phase.settles = true → ¬ outcome.Raised) :
    CallbackRan (job.answered phase outcome result) := by
  rw [CallbackRan, running] at before
  have kept : job.callbackDone = true →
      (job.answered phase outcome result).callbackDone = true := by
    intro done
    simp [Job.answered, done]
  have finished : phase.settles = true →
      (job.answered phase outcome result).callbackDone = true := by
    intro settles
    have returned := returned_of_completed (completed settles) uncancelled
    simp [Job.answered, settles, returned]
  cases resumed with
  | cancelled => exact absurd rfl uncancelled
  | acks outputs unsettled => trivial
  | nacks _ exn cause unsettled => trivial
  | refused _ _ exn settled asked answered ran =>
      cases phase with
      | handling => exact kept (own rfl (AckState.settled_of_ne_fresh settled))
      | acking outputs =>
          rcases answered with never | raised
          · cases never
          · exact absurd raised (completed rfl)
      | publishing outputs => exact kept before
      | nacking cause => exact absurd rfl (asked cause)
  | publishes outputs value => exact finished rfl
  | acked outputs value => exact finished rfl
  | published outputs value => exact kept before
  | nacked cause exn _ ran => exact finished rfl

theorem CallbackRan.arrives (arrived : Arrives kind s h job) : CallbackRan job := by
  cases arrived <;> trivial

end Callbacks

theorem step_callbacksRan (setup : Setup) (s : State) (e : Event) (t : State)
    (sound : AllSound setup.kind s) (calm : Calm true s) (all : CallbacksRan s)
    (complete : CallbacksComplete s e) (taken : setup.step s e = some t) : CallbacksRan t := by
  apply forall_jobs_of_step taken all
  · intro h job arrived
    exact .arrives arrived
  · intro index job next found change
    have member := List.mem_of_getElem? found
    have staged := (sound job member).staged
    have before := all job member
    cases change with
    | started value spawned => trivial
    | failed exn result spawned resumed =>
        have started : CallbackRan { job with stage := .running .handling } := trivial
        apply started.answered rfl resumed
        · simp
        · intro _ settled
          rw [Staged, spawned] at staged
          rw [staged.1] at settled
          rcases settled with acked | nacked
          · cases acked
          · cases nacked
        · intro settles
          cases settles
    | ownAck flags inline handling passed =>
        simp only [CallbackRan, handling]
    | ownNack flags inline handling passed =>
        simp only [CallbackRan, handling]
    | ownCallback handling settled =>
        simp only [CallbackRan, handling]
    | answered outcome phase loop result running present reached resumed =>
        have active : job.isEnded = false := by rw [Job.isEnded, running]
        have fully := complete job found
        rw [SettlesFully, running] at fully
        apply before.answered running resumed
        · intro cancelled
          exact calm.not_cancelled found active present (Or.inl rfl) (reached cancelled)
        · intro handling
          subst handling
          exact fully
        · intro settles
          cases phase with
          | handling => cases settles
          | acking outputs => exact fully
          | publishing outputs => cases settles
          | nacking cause => exact fully
    | settled outcome loop away present reached =>
        have active : job.isEnded = false := by rw [Job.isEnded, away]
        apply returned_of_completed complete
        intro cancelled
        exact calm.not_cancelled found active present (Or.inl rfl) (reached cancelled)

structure Graceful (all : Bool) (kind : Kind) (s : State) : Prop where
  structured : Supervised kind s
  sound : AllSound kind s
  calm : Calm all s

theorem initial_graceful (all : Bool) (kind : Kind) : Graceful all kind initial := by
  refine ⟨initial_supervised kind, ?_, initial_calm all⟩
  intro job member
  cases member

theorem step_graceful (all : Bool) (setup : Setup) (s : State) (e : Event) (t : State)
    (inv : Graceful all setup.kind s) (guard : Unforced e ∧ Spares all setup s e)
    (taken : setup.step s e = some t) : Graceful all setup.kind t := by
  refine ⟨?_, ?_, ?_⟩
  · exact step_supervised setup s e t inv.structured taken
  · exact step_allSound setup s e t inv.sound taken
  · exact step_calm all setup s e t inv.structured inv.sound inv.calm guard.2 guard.1 taken

theorem Graceful.finished {all : Bool} {kind : Kind} {s : State} {job : Job}
    (inv : Graceful all kind s) (off : s.running = false) (member : job ∈ s.jobs)
    (concerned : Concerned all job) :
    job.isEnded = true ∧ job.stage ≠ .ended .cancelled ∧ job.flags.Settled := by
  have ended := inv.structured.all_ended (inv.structured.stopped off) job member
  have unharmed := inv.calm.unharmed job member concerned
  refine ⟨ended, unharmed, ?_⟩
  rcases ended_stage ended with ⟨outcome, stage⟩
  have staged := (inv.sound job member).staged
  rw [Staged, stage] at staged
  rcases staged with settled | ⟨cancelled, -⟩
  · exact settled
  · rw [stage] at unharmed
    exact absurd cancelled unharmed

theorem unforced_spares {all : Bool} {setup : Setup} {events : List Event}
    (unforced : ∀ e ∈ events, Unforced e)
    (spared : Along setup.step (Spares all setup) initial events) :
    Along setup.step (fun s e => Unforced e ∧ Spares all setup s e) initial events :=
  along_and (along_of_forall (fun e member _ => unforced e member) initial) spared

/-- In a run in which no `close()` times out: if no scope is cancelled while a message taken before
`close()` is unfinished in it, each of these messages is processed to its end and settled. -/
theorem early_messages_completed (setup : Setup) (events : List Event)
    (unforced : ∀ e ∈ events, Unforced e)
    (spared : Along setup.step (Spares false setup) initial events) :
    Throughout setup.step EarlyCompleted initial events := by
  intro s visited off job member early
  have inv : Graceful false setup.kind s :=
    visits_invariant (step_graceful false setup) (initial_graceful false setup.kind)
      (unforced_spares unforced spared) visited
  exact inv.finished off member (Or.inr early)

theorem started_task_completed :
    Throughout (Setup.commandBus 1).step EarlyCompleted initial
      [.run, .start 0, .receive 0, .begin 0 (.ok ()), .close, .resume 0 (.returned []),
        .resume 0 (.returned []), .poll 0, .cancelLoop 0, .join 0, .finish] :=
  early_messages_completed _ _ (by decide) (by decide)

/-- The task of the message was spawned, but is not counted before its first step: `close()` reads
zero and cancels it. -/
theorem spawned_task_cancelled :
    ¬ ∀ events, (∀ e ∈ events, Unforced e) →
      Throughout (Setup.commandBus 1).step EarlyCompleted initial events := by
  intro claimed
  refine absurd (claimed [.run, .start 0, .receive 0, .close, .begin 0 (.ok ()),
    .resume 0 .cancelled, .cancelLoop 0, .join 0, .finish] ?_) ?_
  · decide
  · decide

/-- In a run in which no `close()` times out: if no scope is cancelled while a message is
unfinished in it, and each settlement callback completes, each message is settled in full. -/
theorem every_message_settled (handlers : List Handler) (events : List Event)
    (unforced : ∀ e ∈ events, Unforced e)
    (spared : Along (Setup.router handlers).step (Spares true (Setup.router handlers)) initial
      events)
    (complete : Along (Setup.router handlers).step CallbacksComplete initial events) :
    Throughout (Setup.router handlers).step EverySettled initial events := by
  intro s visited off job member
  have both : Graceful true .router s ∧ CallbacksRan s := by
    apply visits_invariant (I := fun s => Graceful true .router s ∧ CallbacksRan s) _ _
      (along_and (unforced_spares unforced spared) complete) visited
    · intro s e t inv guard taken
      refine ⟨step_graceful true _ s e t inv.1 guard.1 taken, ?_⟩
      exact step_callbacksRan _ s e t inv.1.sound inv.1.calm inv.2 guard.2 taken
    · refine ⟨initial_graceful true .router, ?_⟩
      intro job member
      cases member
  rcases both with ⟨inv, ran⟩
  rcases inv.finished off member (Or.inl rfl) with ⟨ended, -, settled⟩
  rcases ended_stage ended with ⟨outcome, stage⟩
  have done := ran job member
  rw [CallbackRan, stage] at done
  exact ⟨settled, done⟩

theorem late_message_settled :
    Throughout (Setup.router [Handler.addNoPublisherHandler, Handler.addNoPublisherHandler]).step
      EverySettled initial
      [.run, .start 0, .start 1, .receive 0, .close, .receive 1, .resume 0 (.returned []),
        .settle 1 (.returned ()), .resume 0 (.returned []), .poll 0, .cancelLoop 0, .finish] :=
  every_message_settled _ _ (by decide) (by decide) (by decide)

/-- The second loop nacks the message it received while closing; the first message ends, `close()`
reads zero and cancels that nack. -/
theorem closing_nack_cancelled :
    ¬ ∀ events, (∀ e ∈ events, Unforced e) →
      Throughout (Setup.router
          [Handler.addNoPublisherHandler, Handler.addNoPublisherHandler]).step
        EverySettled initial events := by
  intro claimed
  refine absurd (claimed [.run, .start 0, .start 1, .receive 0, .close, .receive 1,
    .resume 0 (.returned []), .resume 0 (.returned []), .poll 0, .settle 1 .cancelled,
    .cancelLoop 0, .finish] ?_) ?_
  · decide
  · decide

end Natricine.Service
