import Natricine.Service.Messages

namespace Natricine.Service

open PubSub Transition

/-- When `run()` has ended: each message whose handler was called is settled, and acked only if
its handler returned. -/
def SettledAlways (s : State) : Prop :=
  s.running = false → ∀ job ∈ s.jobs, job.handlerEnd ≠ none →
    job.flags.Settled ∧ (job.flags.acked = true → job.handlerEnd = some (.returned ()))

/-- When `run()` has ended: each message is settled unless its handler was itself cancelled, and
it is acked only if its handler returned or, in a router, acked it itself. -/
def SettledUnlessCancelled (kind : Kind) (s : State) : Prop :=
  s.running = false → ∀ job ∈ s.jobs,
    (job.flags.Settled ∨ job.handlerEnd = some .cancelled) ∧
    (job.flags.acked = true →
      job.handlerEnd = some (.returned ()) ∨ (kind = .router ∧ job.ownAck = true))

instance (s : State) : Decidable (SettledAlways s) :=
  inferInstanceAs (Decidable (_ → _))

instance (kind : Kind) (s : State) : Decidable (SettledUnlessCancelled kind s) :=
  inferInstanceAs (Decidable (_ → _))

def Job.ownTask (kind : Kind) (job : Job) : Bool :=
  kind.spawns && decide (job.stage ≠ .turnedAway)

def Supports (kind : Kind) (loop : Loop) (index : Nat) (job : Job) : Prop :=
  if job.ownTask kind then loop.isEnded = false else loop.stage = .busy index

structure Supervised (kind : Kind) (s : State) : Prop where
  counted : s.inFlight = (s.jobs.countP Job.isRunning : Int)
  attached : ∀ (index : Nat) job, s.jobs[index]? = some job → job.isEnded = false →
    ∃ loop, s.loops[job.loop]? = some loop ∧ Supports kind loop index job
  stopped : s.running = false → ∀ loop ∈ s.loops, loop.isEnded = true

theorem initial_supervised (kind : Kind) : Supervised kind initial := by
  refine ⟨rfl, ?_, ?_⟩
  · intro index job found
    cases found
  · intro _ loop member
    cases member

section Moves

variable {kind : Kind} {s : State} {index h : Nat} {job next : Job} {loop later : Loop}

theorem Supports.not_ended (supported : Supports kind loop index job) : loop.isEnded = false := by
  rw [Supports] at supported
  split at supported
  · exact supported
  · rw [Loop.isEnded, supported]

theorem Supervised.all_ended (inv : Supervised kind s)
    (drained : ∀ loop ∈ s.loops, loop.isEnded = true) : ∀ job ∈ s.jobs, job.isEnded = true := by
  intro job member
  apply Bool.not_eq_false _ |>.mp
  intro active
  rcases List.mem_iff_getElem?.mp member with ⟨index, found⟩
  rcases inv.attached index job found active with ⟨loop, present, supported⟩
  have drained_here := drained loop (List.mem_of_getElem? present)
  rw [supported.not_ended] at drained_here
  cases drained_here

theorem Supervised.running (inv : Supervised kind s) (found : s.loops[h]? = some loop)
    (active : loop.isEnded = false) : s.running = true := by
  apply Bool.not_eq_false _ |>.mp
  intro off
  have drained := inv.stopped off loop (List.mem_of_getElem? found)
  rw [active] at drained
  cases drained

theorem Supervised.putJob (inv : Supervised kind s) (found : s.jobs[index]? = some job)
    {counted : Int}
    (counts : counted + (if job.isRunning then 1 else 0) = if next.isRunning then 1 else 0)
    (supported : next.isEnded = false →
      ∃ loop, s.loops[next.loop]? = some loop ∧ Supports kind loop index next) :
    Supervised kind (s.putJob index next counted) := by
  refine ⟨?_, ?_, inv.stopped⟩
  · rcases List.getElem?_eq_some_iff.mp found with ⟨bound, value⟩
    have whole := inv.counted
    have positive : job.isRunning = true → 0 < s.jobs.countP Job.isRunning := by
      intro runs
      exact List.countP_pos_iff.mpr ⟨job, List.mem_of_getElem? found, runs⟩
    simp only [State.putJob, List.countP_set bound, value]
    cases before : job.isRunning with
    | true =>
        have above := positive before
        rw [before] at counts
        cases after : next.isRunning with
        | true =>
            rw [after] at counts
            simp only [if_true] at counts ⊢
            omega
        | false =>
            rw [after] at counts
            simp only [if_true, Bool.false_eq_true, if_false] at counts ⊢
            omega
    | false =>
        rw [before] at counts
        cases after : next.isRunning with
        | true =>
            rw [after] at counts
            simp only [if_true, Bool.false_eq_true, if_false] at counts ⊢
            omega
        | false =>
            rw [after] at counts
            simp only [Bool.false_eq_true, if_false] at counts ⊢
            omega
  · intro place other present active
    rcases Update.getElem?_set_cases _ present with ⟨rfl, rfl⟩ | ⟨-, present⟩
    · exact supported active
    · exact inv.attached place other present active

theorem Supervised.addJob (inv : Supervised kind s) {counted : Int}
    (counts : counted = if next.isRunning then 1 else 0)
    (supported : next.isEnded = false →
      ∃ loop, s.loops[next.loop]? = some loop ∧ Supports kind loop s.jobs.length next) :
    Supervised kind (s.addJob next counted) := by
  refine ⟨?_, ?_, inv.stopped⟩
  · simp only [State.addJob, List.countP_append, List.countP_singleton, counts, inv.counted]
    split <;> simp
  · intro place other present active
    rcases Update.getElem?_append_cases _ present with ⟨rfl, rfl⟩ | present
    · exact supported active
    · exact inv.attached place other present active

theorem Supervised.putLoop (inv : Supervised kind s) (found : s.loops[h]? = some loop)
    (active : loop.isEnded = false)
    (kept : ∀ (index : Nat) job, s.jobs[index]? = some job → job.isEnded = false →
      job.loop = h → Supports kind loop index job → Supports kind later index job) :
    Supervised kind (s.putLoop h later) := by
  refine ⟨inv.counted, ?_, ?_⟩
  · intro place other present unfinished
    rcases inv.attached place other present unfinished with ⟨old, here, supported⟩
    by_cases same : other.loop = h
    · rw [same, found] at here
      cases here
      have bound := (List.getElem?_eq_some_iff.mp found).1
      refine ⟨later, ?_, kept place other present unfinished same supported⟩
      rw [same]
      exact List.getElem?_set_self bound
    · exact ⟨old, (List.getElem?_set_ne (Ne.symm same)).trans here, supported⟩
  · intro off
    have on := inv.running found active
    simp only [State.putLoop] at off
    rw [on] at off
    cases off

def Free (s : State) (h : Nat) (loop : Loop) : Prop :=
  ∀ (index : Nat) job, s.jobs[index]? = some job → job.isEnded = false → job.loop = h →
    loop.stage ≠ .busy index

theorem Supervised.putLoop_free (inv : Supervised kind s) (found : s.loops[h]? = some loop)
    (active : loop.isEnded = false) (free : Free s h loop)
    (stays : kind.spawns = true → later.isEnded = false) :
    Supervised kind (s.putLoop h later) := by
  apply inv.putLoop found active
  intro index job present unfinished same supported
  rw [Supports] at supported ⊢
  split
  · rename_i tasked
    exact stays (Bool.and_eq_true_iff.mp tasked).1
  · rename_i inline
    rw [if_neg inline] at supported
    exact absurd supported (free index job present unfinished same)

theorem Supervised.cancel (inv : Supervised kind s) : Supervised kind s.cancel :=
  ⟨inv.counted, inv.attached, inv.stopped⟩

theorem free_of_waiting (waiting : loop.stage = .waiting) : Free s h loop := by
  intro _ _ _ _ _
  rw [waiting]
  nofun

theorem Supervised.endLoop (inv : Supervised kind s) (found : s.loops[h]? = some loop)
    (active : loop.isEnded = false) (free : Free s h loop) (outcome : Await Unit) :
    Supervised kind (endLoop kind s h loop outcome) := by
  rw [Service.endLoop]
  cases spawns : kind.spawns with
  | true =>
      rw [if_pos rfl]
      exact inv.putLoop_free found active free (fun _ => rfl)
  | false =>
      rw [if_neg Bool.false_ne_true]
      have ended : Supervised kind (s.putLoop h { loop with stage := .ended outcome }) := by
        apply inv.putLoop_free found active free
        intro spawned
        rw [spawns] at spawned
        cases spawned
      split
      · exact ended.cancel
      · exact ended

theorem Supervised.conclude (inv : Supervised kind s) (found : s.loops[h]? = some loop)
    (active : loop.isEnded = false) (free : kind.spawns = false → Free s h loop)
    (outcome : Await Unit) : Supervised kind (conclude kind s h loop outcome) := by
  unfold Service.conclude
  cases spawns : kind.spawns with
  | true =>
      rw [if_pos rfl]
      split
      · apply inv.putLoop found active
        intro index job present unfinished same supported
        exact supported
      · exact inv
  | false =>
      rw [if_neg Bool.false_ne_true]
      split
      · exact inv.putLoop_free found active (free spawns) (fun _ => rfl)
      · exact inv.endLoop found active (free spawns) _
      · exact inv.endLoop found active (free spawns) _

theorem free_of_ended (found : s.jobs[index]? = some job) (ended : next.isEnded = true)
    (busy : loop.stage = .busy index) (counted : Int) :
    Free (s.putJob index next counted) h loop := by
  intro place other present unfinished _ same
  rw [busy] at same
  cases same
  have bound := (List.getElem?_eq_some_iff.mp found).1
  simp only [State.putJob, List.getElem?_set_self bound] at present
  cases present
  rw [ended] at unfinished
  cases unfinished

theorem ownTask_running {phase : Phase} (running : job.stage = .running phase) :
    job.ownTask kind = kind.spawns := by
  simp [Job.ownTask, running]

theorem Supports.stage_eq (supported : Supports kind loop index job)
    (same : next.ownTask kind = job.ownTask kind) : Supports kind loop index next := by
  rw [Supports] at supported ⊢
  rw [same]
  exact supported

theorem Supervised.supports (inv : Supervised kind s) (found : s.jobs[index]? = some job)
    (active : job.isEnded = false) (present : s.loops[job.loop]? = some loop) :
    Supports kind loop index job := by
  rcases inv.attached index job found active with ⟨same, here, supported⟩
  rw [present] at here
  cases here
  exact supported

theorem Supervised.resumeJob {setup : Setup} (inv : Supervised setup.kind s) {phase : Phase}
    (found : s.jobs[index]? = some job) (running : job.stage = .running phase)
    (present : s.loops[job.loop]? = some loop) (outcome : Await (List Message)) :
    Supervised setup.kind (resumeJob setup s index job phase loop outcome) := by
  have active : job.isEnded = false := by rw [Job.isEnded, running]
  have runs : job.isRunning = true := by rw [Job.isRunning, running]
  have supported := inv.supports found active present
  rcases resumeJob_cases setup s index job phase loop outcome with
    ⟨result, -, -, ⟨later, turn, same⟩ | ⟨ending, turn, same⟩⟩
  · have stage : (job.answered phase outcome result).stage = .running later := by
      rw [Job.answered, turn]
      rfl
    rw [same]
    apply inv.putJob found
    · rw [runs, Job.isRunning, stage]
      rfl
    · intro _
      refine ⟨loop, present, supported.stage_eq ?_⟩
      exact (ownTask_running stage).trans (ownTask_running running).symm
  · have stage : (job.answered phase outcome result).stage = .ended ending := by
      rw [Job.answered, turn]
      rfl
    have finished : (job.answered phase outcome result).isEnded = true := by
      rw [Job.isEnded, stage]
    rw [same]
    have ended : Supervised setup.kind
        (s.putJob index (job.answered phase outcome result) (-1)) := by
      apply inv.putJob found
      · rw [runs, Job.isRunning, stage]
        rfl
      · intro unfinished
        rw [finished] at unfinished
        cases unfinished
    refine ended.conclude present supported.not_ended ?_ ending
    intro inline
    rw [Supports] at supported
    rw [ownTask_running running, inline, if_neg Bool.false_ne_true] at supported
    exact free_of_ended found finished supported _

theorem getElem?_putJob (found : s.jobs[index]? = some job) (next : Job) (counted : Int) :
    (s.putJob index next counted).jobs[index]? = some next :=
  List.getElem?_set_self (List.getElem?_eq_some_iff.mp found).1

theorem Supervised.begin {setup : Setup} (inv : Supervised setup.kind s)
    (found : s.jobs[index]? = some job) (spawned : job.stage = .spawned)
    (present : s.loops[job.loop]? = some loop) (unmarshalled : Except Exn Unit) :
    Supervised setup.kind (begin setup s index job loop unmarshalled) := by
  have active : job.isEnded = false := by rw [Job.isEnded, spawned]
  have started : Supervised setup.kind
      (s.putJob index { job with stage := .running .handling } 1) := by
    apply inv.putJob found
    · rw [Job.isRunning, spawned]
      rfl
    · intro _
      refine ⟨loop, present, (inv.supports found active present).stage_eq ?_⟩
      simp [Job.ownTask, spawned]
  cases unmarshalled with
  | ok value => exact started
  | error exn => exact started.resumeJob (getElem?_putJob found _ 1) rfl present _

theorem Supervised.leave (inv : Supervised kind s) (found : s.loops[h]? = some loop)
    (waiting : loop.stage = .waiting) (outcome : Await Unit) :
    Supervised kind (Service.endLoop kind s h loop outcome) := by
  apply inv.endLoop found
  · rw [Loop.isEnded, waiting]
  · exact free_of_waiting waiting

theorem Supervised.settle (inv : Supervised kind s) (found : s.jobs[index]? = some job)
    (away : job.stage = .turnedAway) (present : s.loops[job.loop]? = some loop)
    (outcome : Await Unit) : Supervised kind (settle kind s index job loop outcome) := by
  have active : job.isEnded = false := by rw [Job.isEnded, away]
  have supported := inv.supports found active present
  have still := supported.not_ended
  simp only [Supports, Job.ownTask, away, ne_eq, not_true_eq_false, decide_false, Bool.and_false,
    Bool.false_eq_true, if_false] at supported
  rw [Service.settle]
  apply Supervised.endLoop
  · apply inv.putJob found
    · rw [Job.isRunning, away]
      rfl
    · intro unfinished
      cases unfinished
  · exact present
  · exact still
  · exact free_of_ended found rfl supported _

theorem Supervised.join (inv : Supervised kind s) {outcome : Await Unit}
    (found : s.loops[h]? = some loop) (joining : loop.stage = .joining outcome)
    (drained : ∀ job ∈ s.jobs, job.loop = h → job.isEnded = true) :
    Supervised kind (join s h loop outcome) := by
  have left : ∀ stage, Supervised kind (s.putLoop h { loop with stage := stage }) := by
    intro stage
    apply inv.putLoop found
    · rw [Loop.isEnded, joining]
    · intro place other here unfinished same _
      rw [drained other (List.mem_of_getElem? here) same] at unfinished
      cases unfinished
  rw [Service.join]
  split
  · exact (left _).cancel
  · exact left _

theorem Supervised.receive (inv : Supervised kind s) (found : s.loops[h]? = some loop)
    (waiting : loop.stage = .waiting) : Supervised kind (receive kind s h loop) := by
  have active : loop.isEnded = false := by rw [Loop.isEnded, waiting]
  have bound := (List.getElem?_eq_some_iff.mp found).1
  have busy : Supervised kind (s.putLoop h { loop with stage := .busy s.jobs.length }) := by
    apply inv.putLoop_free found active (free_of_waiting waiting)
    exact fun _ => rfl
  rw [Service.receive]
  split
  · apply busy.addJob
    · rfl
    · intro _
      refine ⟨_, List.getElem?_set_self bound, ?_⟩
      simp [Supports, Job.ownTask, State.putLoop]
  · split
    · rename_i spawns
      apply inv.addJob
      · rfl
      · intro _
        refine ⟨loop, found, ?_⟩
        simp [Supports, Job.ownTask, spawns, active]
    · rename_i inline
      apply busy.addJob
      · rfl
      · intro _
        refine ⟨_, List.getElem?_set_self bound, ?_⟩
        simp [Supports, Job.ownTask, inline, State.putLoop]

theorem Supervised.same_stage (inv : Supervised kind s) (found : s.jobs[index]? = some job)
    (sameLoop : next.loop = job.loop) (sameStage : next.stage = job.stage) :
    Supervised kind (s.putJob index next 0) := by
  have ended : next.isEnded = job.isEnded := by rw [Job.isEnded, sameStage, Job.isEnded]
  have running : next.isRunning = job.isRunning := by rw [Job.isRunning, sameStage, Job.isRunning]
  apply inv.putJob found
  · rw [running, Int.zero_add]
  · intro unfinished
    rw [ended] at unfinished
    rcases inv.attached index job found unfinished with ⟨loop, present, supported⟩
    refine ⟨loop, sameLoop ▸ present, supported.stage_eq ?_⟩
    rw [Job.ownTask, sameStage, Job.ownTask]

theorem Supervised.ownSettle (inv : Supervised kind s) (found : s.jobs[index]? = some job)
    (settlement : Settlement) : Supervised kind (ownSettle s index job settlement) := by
  cases settlement with
  | ack =>
      simp only [Service.ownSettle]
      split
      · exact inv.same_stage found rfl rfl
      · exact inv
  | nack =>
      simp only [Service.ownSettle]
      split
      · exact inv.same_stage found rfl rfl
      · exact inv

theorem Supervised.look (inv : Supervised kind s) : Supervised kind (look s).1 := by
  rw [Service.look]
  split
  · exact inv
  · exact inv.cancel

theorem Supervised.close (inv : Supervised kind s) : Supervised kind (close s) := by
  rw [Service.close]
  split
  · have closing : Supervised kind { s with closing := true, closeCalled := true } :=
      ⟨inv.counted, inv.attached, inv.stopped⟩
    have seen := closing.look
    exact ⟨seen.counted, seen.attached, seen.stopped⟩
  · exact inv

theorem Supervised.run {setup : Setup} (inv : Supervised setup.kind s) {t : State}
    (made : run setup s = .ok t) : Supervised setup.kind t := by
  rw [Service.run] at made
  split at made
  · cases made
  · rename_i idle
    cases made
    refine ⟨inv.counted, ?_, fun off => by cases off⟩
    intro place other present unfinished
    have off := Bool.not_eq_true _ |>.mp idle
    rw [inv.all_ended (inv.stopped off) other (List.mem_of_getElem? present)] at unfinished
    cases unfinished

end Moves

theorem step_supervised (setup : Setup) (s : State) (e : Event) (t : State)
    (inv : Supervised setup.kind s) (taken : setup.step s e = some t) :
    Supervised setup.kind t := by
  cases taken_of_step taken with
  | run _ made => exact inv.run made
  | refused => exact inv
  | start h loop found spawned =>
      apply inv.putLoop_free found
      · rw [Loop.isEnded, spawned]
      · intro _ _ _ _ _
        rw [spawned]
        nofun
      · exact fun _ => rfl
  | receive h loop found waiting => exact inv.receive found waiting
  | exhaust h loop found waiting => exact inv.leave found waiting _
  | breaks h exn loop found waiting => exact inv.leave found waiting _
  | cancelLoop h loop found waiting cancelled => exact inv.leave found waiting _
  | join h loop outcome found joining drained => exact inv.join found joining drained
  | begin index unmarshalled job loop found spawned present =>
      exact inv.begin found spawned present unmarshalled
  | ownSettle index settlement job found inline handling => exact inv.ownSettle found settlement
  | ownCallback index job found handling settled => exact inv.same_stage found rfl rfl
  | resume index outcome job phase loop found running present reached =>
      exact inv.resumeJob found running present outcome
  | settle index outcome job loop found away present reached =>
      exact inv.settle found away present outcome
  | close => exact inv.close
  | poll k found =>
      have seen := inv.look
      exact ⟨seen.counted, seen.attached, seen.stopped⟩
  | timeout k found => exact ⟨inv.counted, inv.attached, inv.stopped⟩
  | interrupt running => exact inv.cancel
  | finish running drained => exact ⟨inv.counted, inv.attached, fun _ => drained⟩

def Staged (job : Job) : Prop :=
  match job.stage with
  | .spawned => job.flags = AckState.fresh ∧ job.handlerEnd = none
  | .running .handling => job.handlerEnd = none
  | .running (.acking _) | .running (.publishing _) | .running (.nacking _) | .turnedAway =>
      job.flags.Settled
  | .ended _ =>
      job.flags.Settled ∨ (job.stage = .ended .cancelled ∧ job.handlerEnd = some .cancelled)

structure Sound (kind : Kind) (job : Job) : Prop where
  staged : Staged job
  acked : job.flags.acked = true →
    job.handlerEnd = some (.returned ()) ∨ (kind = .router ∧ job.ownAck = true)

def AllSound (kind : Kind) (s : State) : Prop := ∀ job ∈ s.jobs, Sound kind job

section Sound

variable {kind : Kind} {s : State} {index h : Nat} {job next : Job} {loop : Loop}

theorem Sound.answered (sound : Sound kind job) {phase : Phase}
    (running : job.stage = .running phase) {outcome : Await (List Message)}
    {result : AckState × Turn} (resumed : Resumes job.flags phase outcome result) :
    Sound kind (job.answered phase outcome result) := by
  have staged := sound.staged
  have acked := sound.acked
  rw [Staged, running] at staged
  -- What was acked before this answer was acked by the handler, or after it had returned.
  have kept : job.flags.acked = true → (job.answered phase outcome result).handlerEnd =
      some (.returned ()) ∨ (kind = .router ∧ job.ownAck = true) := by
    intro before
    cases phase with
    | handling =>
        simp only at staged
        rw [staged] at acked
        exact Or.inr ((acked before).resolve_left nofun)
    | acking outputs => exact acked before
    | publishing outputs => exact acked before
    | nacking cause => exact acked before
  cases resumed with
  | cancelled =>
      refine ⟨?_, kept⟩
      cases phase with
      | handling => exact Or.inr ⟨rfl, rfl⟩
      | acking outputs => exact Or.inl staged
      | publishing outputs => exact Or.inl staged
      | nacking cause => exact Or.inl staged
  | acks outputs unsettled => exact ⟨Or.inl rfl, fun _ => Or.inl rfl⟩
  | nacks _ exn cause unsettled => exact ⟨Or.inr rfl, nofun⟩
  | refused _ _ exn other asked answered ran =>
    exact ⟨Or.inl (AckState.settled_of_ne_fresh other), kept⟩
  | publishes outputs value => exact ⟨staged, kept⟩
  | acked outputs value => exact ⟨Or.inl staged, kept⟩
  | published outputs value => exact ⟨Or.inl staged, kept⟩
  | nacked cause exn _ ran => exact ⟨Or.inl staged, kept⟩

theorem router_of_inline (inline : kind.spawns = false) : kind = .router := by
  cases kind with
  | router => rfl
  | commandBus => cases inline
  | eventBus => cases inline

theorem Sound.arrives (arrived : Arrives kind s h job) : Sound kind job := by
  cases arrived with
  | turnedAway closing => exact ⟨Or.inr rfl, nofun⟩
  | spawned spawns => exact ⟨⟨rfl, rfl⟩, nofun⟩
  | running inline => exact ⟨rfl, nofun⟩

theorem Sound.started (sound : Sound kind job) (spawned : job.stage = .spawned) :
    Sound kind { job with stage := .running .handling } := by
  have staged := sound.staged
  rw [Staged, spawned] at staged
  exact ⟨staged.2, sound.acked⟩

theorem Sound.changes {setup : Setup} {e : Event} (sound : Sound setup.kind job)
    (change : Changes setup s index job e next) : Sound setup.kind next := by
  have staged := sound.staged
  cases change with
  | started value spawned => exact sound.started spawned
  | failed exn result spawned resumed => exact (sound.started spawned).answered rfl resumed
  | ownAck flags inline handling passed =>
      rw [Staged, handling] at staged
      refine ⟨?_, fun _ => Or.inr ⟨router_of_inline inline, rfl⟩⟩
      simp only [Staged, handling]
      exact staged
  | ownNack flags inline handling passed =>
      rcases (AckState.nack_ok_iff _ _).mp passed with ⟨-, rfl⟩
      rw [Staged, handling] at staged
      refine ⟨?_, nofun⟩
      simp only [Staged, handling]
      exact staged
  | ownCallback handling settled => exact ⟨staged, sound.acked⟩
  | answered outcome phase loop result running present reached resumed =>
      exact sound.answered running resumed
  | settled outcome loop away present reached =>
      rw [Staged, away] at staged
      exact ⟨Or.inl staged, sound.acked⟩

end Sound

theorem step_allSound (setup : Setup) (s : State) (e : Event) (t : State)
    (all : AllSound setup.kind s) (taken : setup.step s e = some t) : AllSound setup.kind t := by
  apply forall_jobs_of_step taken all
  · intro h job arrived
    exact .arrives arrived
  · intro index job next found change
    exact (all job (List.mem_of_getElem? found)).changes change

theorem ended_stage {job : Job} (ended : job.isEnded = true) :
    ∃ outcome, job.stage = .ended outcome := by
  rw [Job.isEnded] at ended
  split at ended
  · exact ⟨_, by assumption⟩
  all_goals cases ended

/-- In every run, and however the processing of its messages ends: once `run()` has ended, each
message is settled unless its handler was cancelled, and none is acked that its handler did
not return for or ack itself. -/
theorem settled_unless_cancelled (setup : Setup) (events : List Event) :
    Throughout setup.step (SettledUnlessCancelled setup.kind) initial events := by
  intro s visited off job member
  have inv := visits_preserves (step_supervised setup) (initial_supervised setup.kind) visited
  have all : AllSound setup.kind s :=
    visits_preserves (step_allSound setup) (fun job none => absurd none List.not_mem_nil) visited
  rcases ended_stage (inv.all_ended (inv.stopped off) job member) with ⟨outcome, stage⟩
  have sound := all job member
  have staged := sound.staged
  rw [Staged, stage] at staged
  exact ⟨staged.imp_right (fun both => both.2), sound.acked⟩

/-- `close()` runs into its timeout and cancels the handler: its message is neither acked nor
nacked when `run()` has ended. -/
theorem cancelled_handler_leaves_unsettled :
    ¬ Throughout (Setup.router [Handler.addNoPublisherHandler]).step SettledAlways initial
      [.run, .start 0, .receive 0, .close, .timeout 0, .resume 0 .cancelled, .finish] := by
  decide

end Natricine.Service
