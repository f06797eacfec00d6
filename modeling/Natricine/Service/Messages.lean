import Natricine.Service.Supervision

namespace Natricine.Service

open PubSub Transition

/-- A message as the loop `h` has just taken it. -/
inductive Arrives (kind : Kind) (s : State) (h : Nat) : Job → Prop where
  | turnedAway (closing : s.closing = true) :
      Arrives kind s h ⟨h, ⟨false, true⟩, .turnedAway, !s.closeCalled, none, false, false⟩
  | spawned (spawns : kind.spawns = true) :
      Arrives kind s h ⟨h, AckState.fresh, .spawned, !s.closeCalled, none, false, false⟩
  | running (inline : kind.spawns = false) :
      Arrives kind s h ⟨h, AckState.fresh, .running .handling, !s.closeCalled, none, false, false⟩

/-- What an event makes of the message `index`. -/
inductive Changes (setup : Setup) (s : State) (index : Nat) (job : Job) : Event → Job → Prop where
  | started (value : Unit) (spawned : job.stage = .spawned) :
      Changes setup s index job (.begin index (.ok value)) { job with stage := .running .handling }
  | failed (exn : Exn) (result : AckState × Turn) (spawned : job.stage = .spawned)
      (resumed : Resumes job.flags .handling (.raised exn) result) :
      Changes setup s index job (.begin index (.error exn))
        (Job.answered { job with stage := .running .handling } .handling (.raised exn) result)
  | ownAck (flags : AckState) (inline : setup.kind.spawns = false)
      (handling : job.stage = .running .handling) (passed : job.flags.ack = .ok flags) :
      Changes setup s index job (.ownSettle index .ack) { job with flags := flags, ownAck := true }
  | ownNack (flags : AckState) (inline : setup.kind.spawns = false)
      (handling : job.stage = .running .handling) (passed : job.flags.nack = .ok flags) :
      Changes setup s index job (.ownSettle index .nack) { job with flags := flags }
  | ownCallback (handling : job.stage = .running .handling) (settled : job.flags.Settled) :
      Changes setup s index job (.ownCallback index) { job with callbackDone := true }
  | answered (outcome : Await (List Message)) (phase : Phase) (loop : Loop)
      (result : AckState × Turn) (running : job.stage = .running phase)
      (present : s.loops[job.loop]? = some loop)
      (reached : outcome = .cancelled → s.Cancelled loop)
      (resumed : Resumes job.flags phase outcome result) :
      Changes setup s index job (.resume index outcome) (job.answered phase outcome result)
  | settled (outcome : Await Unit) (loop : Loop) (away : job.stage = .turnedAway)
      (present : s.loops[job.loop]? = some loop)
      (reached : outcome = .cancelled → s.Cancelled loop) :
      Changes setup s index job (.settle index outcome)
        { job with stage := .ended outcome, callbackDone := decide outcome.Returned }

section Jobs

variable {kind : Kind} {setup : Setup} {s t : State} {index h : Nat} {job next : Job} {loop : Loop}
  {P : Job → Prop}

theorem endLoop_jobs (outcome : Await Unit) : (endLoop kind s h loop outcome).jobs = s.jobs := by
  rw [endLoop]
  split
  · rfl
  · split <;> rfl

theorem conclude_jobs (outcome : Await Unit) : (conclude kind s h loop outcome).jobs = s.jobs := by
  unfold conclude
  split
  · split <;> rfl
  · split
    · rfl
    · exact endLoop_jobs _
    · exact endLoop_jobs _

theorem look_jobs : (look s).1.jobs = s.jobs := by
  rw [look]
  split <;> rfl

theorem close_jobs : (close s).jobs = s.jobs := by
  rw [close]
  split
  · exact look_jobs
  · rfl

theorem join_jobs (outcome : Await Unit) : (join s h loop outcome).jobs = s.jobs := by
  rw [join]
  split <;> rfl

theorem run_jobs (made : run setup s = .ok t) : t.jobs = s.jobs := by
  rw [run] at made
  split at made
  · cases made
  · cases made
    rfl

theorem settle_jobs (outcome : Await Unit) :
    (settle kind s index job loop outcome).jobs =
      s.jobs.set index
        { job with stage := .ended outcome, callbackDone := decide outcome.Returned } :=
  endLoop_jobs outcome

theorem receive_jobs : ∃ job, Arrives kind s h job ∧
    (receive kind s h loop).jobs = s.jobs ++ [job] := by
  rw [receive]
  split
  · rename_i closing
    exact ⟨_, .turnedAway closing, rfl⟩
  · split
    · rename_i spawns
      exact ⟨_, .spawned spawns, rfl⟩
    · rename_i inline
      exact ⟨_, .running (Bool.not_eq_true _ |>.mp inline), rfl⟩

theorem resumeJob_jobs (phase : Phase) (outcome : Await (List Message)) :
    ∃ result, Resumes job.flags phase outcome result ∧
      (resumeJob setup s index job phase loop outcome).jobs =
        s.jobs.set index (job.answered phase outcome result) := by
  rcases resumeJob_cases setup s index job phase loop outcome with
    ⟨result, -, resumed, ⟨later, -, same⟩ | ⟨ending, -, same⟩⟩
  · refine ⟨result, resumed, ?_⟩
    rw [same]
    rfl
  · refine ⟨result, resumed, ?_⟩
    rw [same, conclude_jobs]
    rfl

theorem begin_jobs (spawned : job.stage = .spawned) (unmarshalled : Except Exn Unit) :
    ∃ next, Changes setup s index job (.begin index unmarshalled) next ∧
      (begin setup s index job loop unmarshalled).jobs = s.jobs.set index next := by
  cases unmarshalled with
  | ok value => exact ⟨_, .started value spawned, rfl⟩
  | error exn =>
      have resumed : ∃ result, Resumes job.flags .handling (.raised exn) result ∧
          (begin setup s index job loop (.error exn)).jobs =
            (s.jobs.set index { job with stage := .running .handling }).set index
              (Job.answered { job with stage := .running .handling } .handling (.raised exn)
                result) :=
        resumeJob_jobs .handling (.raised exn)
      rcases resumed with ⟨result, resumed, same⟩
      rw [List.set_set] at same
      exact ⟨_, .failed exn result spawned resumed, same⟩

inductive JobsTaken (setup : Setup) (s : State) (e : Event) (t : State) : Prop where
  | kept (same : t.jobs = s.jobs)
  | arrived (h : Nat) (loop : Loop) (job : Job) (event : e = .receive h)
      (found : s.loops[h]? = some loop) (waiting : loop.stage = .waiting)
      (arrives : Arrives setup.kind s h job) (same : t.jobs = s.jobs ++ [job])
  | changed (index : Nat) (job next : Job) (found : s.jobs[index]? = some job)
      (change : Changes setup s index job e next) (same : t.jobs = s.jobs.set index next)

theorem jobs_of_step {e : Event} (taken : setup.step s e = some t) : JobsTaken setup s e t := by
  cases taken_of_step taken with
  | run _ made => exact .kept (run_jobs made)
  | refused => exact .kept rfl
  | start h loop found spawned => exact .kept rfl
  | receive h loop found waiting =>
      have received : ∃ job, Arrives setup.kind s h job ∧
        (receive setup.kind s h loop).jobs = s.jobs ++ [job] := receive_jobs
      rcases received with ⟨new, arrived, same⟩
      exact .arrived h loop new rfl found waiting arrived same
  | exhaust h loop found waiting => exact .kept (endLoop_jobs _)
  | breaks h exn loop found waiting => exact .kept (endLoop_jobs _)
  | cancelLoop h loop found waiting cancelled => exact .kept (endLoop_jobs _)
  | join h loop outcome found joining drained => exact .kept (join_jobs outcome)
  | begin index unmarshalled job loop found spawned present =>
      have begun : ∃ next, Changes setup s index job (.begin index unmarshalled) next ∧
        (begin setup s index job loop unmarshalled).jobs = s.jobs.set index next :=
        begin_jobs spawned unmarshalled
      rcases begun with ⟨next, change, same⟩
      exact .changed index job next found change same
  | ownSettle index settlement job found inline handling =>
      cases settlement with
      | ack =>
          cases passed : job.flags.ack with
          | ok flags =>
              apply JobsTaken.changed index job _ found (.ownAck flags inline handling passed)
              simp only [ownSettle, passed]
              rfl
          | error text =>
              apply JobsTaken.kept
              simp only [ownSettle, passed]
      | nack =>
          cases passed : job.flags.nack with
          | ok flags =>
              apply JobsTaken.changed index job _ found (.ownNack flags inline handling passed)
              simp only [ownSettle, passed]
              rfl
          | error text =>
              apply JobsTaken.kept
              simp only [ownSettle, passed]
  | ownCallback index job found handling settled =>
      exact .changed index job _ found (.ownCallback handling settled) rfl
  | resume index outcome job phase loop found running present reached =>
      have answered : ∃ result, Resumes job.flags phase outcome result ∧
          (resumeJob setup s index job phase loop outcome).jobs =
            s.jobs.set index (job.answered phase outcome result) :=
        resumeJob_jobs phase outcome
      rcases answered with ⟨result, resumed, same⟩
      apply JobsTaken.changed index job _ found _ same
      exact .answered outcome phase loop result running present reached resumed
  | settle index outcome job loop found away present reached =>
      apply JobsTaken.changed index job _ found _ (settle_jobs outcome)
      exact .settled outcome loop away present reached
  | close => exact .kept close_jobs
  | poll k found => exact .kept look_jobs
  | timeout k found => exact .kept rfl
  | interrupt running => exact .kept rfl
  | finish running drained => exact .kept rfl

theorem job_of_step {e : Event} (taken : setup.step s e = some t)
    (found : s.jobs[index]? = some job) :
    t.jobs[index]? = some job ∨
      ∃ next, Changes setup s index job e next ∧ t.jobs[index]? = some next := by
  cases jobs_of_step taken with
  | kept same => exact Or.inl (same ▸ found)
  | arrived h loop new event _ waiting arrived same =>
      rw [same]
      exact Or.inl (Update.getElem?_append_of_some _ found)
  | changed place other next present change same =>
      by_cases here : place = index
      · subst here
        rw [found] at present
        cases present
        refine Or.inr ⟨next, change, ?_⟩
        rw [same]
        exact List.getElem?_set_self (List.getElem?_eq_some_iff.mp found).1
      · rw [same, List.getElem?_set_ne here]
        exact Or.inl found

theorem job_before_step {e : Event} (taken : setup.step s e = some t)
    (found : t.jobs[index]? = some next) :
    s.jobs[index]? = some next ∨
      (∃ job, s.jobs[index]? = some job ∧ Changes setup s index job e next) ∨
        (index = s.jobs.length ∧ ∃ h, e = .receive h ∧ Arrives setup.kind s h next ∧
          t.jobs = s.jobs ++ [next]) := by
  cases jobs_of_step taken with
  | kept same => exact Or.inl (same ▸ found)
  | arrived h loop new event _ waiting arrived same =>
      have there := found
      rw [same] at there
      rcases Update.getElem?_append_cases _ there with ⟨last, rfl⟩ | old
      · exact Or.inr (Or.inr ⟨last, h, event, arrived, same⟩)
      · exact Or.inl old
  | changed place job other present change same =>
      rw [same] at found
      rcases Update.getElem?_set_cases _ found with ⟨rfl, rfl⟩ | ⟨-, old⟩
      · exact Or.inr (Or.inl ⟨job, present, change⟩)
      · exact Or.inl old

theorem forall_jobs_of_step {e : Event} (taken : setup.step s e = some t)
    (all : ∀ job ∈ s.jobs, P job)
    (arrives : ∀ h job, Arrives setup.kind s h job → P job)
    (changes : ∀ index job next, s.jobs[index]? = some job →
      Changes setup s index job e next → P next) :
    ∀ job ∈ t.jobs, P job := by
  intro next member
  rcases List.mem_iff_getElem?.mp member with ⟨index, there⟩
  rcases job_before_step taken there with old | ⟨job, found, change⟩ | ⟨-, h, -, arrived, -⟩
  · exact all next (List.mem_of_getElem? old)
  · exact changes index job next found change
  · exact arrives h next arrived

end Jobs

end Natricine.Service
