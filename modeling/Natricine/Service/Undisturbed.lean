import Natricine.Service.Workload

/-! Runs over a workload in which at most one message fails: as long as its processing is not over,
no group is cancelled, and a loop ends only when its subscription does. -/

namespace Natricine.Service

open Occurrence PubSub Transition

def Own (own : Option (Nat × Nat)) (s : State) (index : Nat) : Prop :=
  ∃ place ∈ own, Occurs s.takers place.1 place.2 index

def Event.fails : Event → Option Nat
  | .begin index (.error _) | .resume index (.raised _) => some index
  | .begin _ (.ok _) | .resume _ (.returned _) | .resume _ .cancelled | .run | .start _ | .receive _
  | .exhaust _ | .breaks _ _ | .cancelLoop _ | .join _ | .ownSettle _ _ | .ownCallback _
  | .settle _ _ | .close | .poll _ | .timeout _ | .interrupt | .finish => none

def Job.concluded (job : Job) : Bool :=
  match job.stage with
  | .ended (.returned _) | .ended (.raised _) => true
  | .spawned | .running _ | .turnedAway | .ended .cancelled => false

def Over (own : Option (Nat × Nat)) (s : State) : Prop :=
  ∃ index ∈ List.range s.jobs.length, Own own s index ∧
    ∃ job ∈ s.jobs[index]?, job.concluded = true

instance (own : Option (Nat × Nat)) (s : State) (index : Nat) : Decidable (Own own s index) :=
  inferInstanceAs (Decidable (∃ place ∈ own, _))

instance (own : Option (Nat × Nat)) (s : State) : Decidable (Over own s) :=
  inferInstanceAs (Decidable (∃ index ∈ _, _))

def OthersSucceed (own : Option (Nat × Nat)) (s : State) (e : Event) : Prop :=
  ∀ index ∈ e.fails, Own own s index ∨ Over own s

instance (own : Option (Nat × Nat)) (s : State) (e : Event) :
    Decidable (OthersSucceed own s e) :=
  inferInstanceAs (Decidable (∀ index ∈ e.fails, _))

structure Succeeding (own : Option (Nat × Nat)) (s : State) : Prop where
  nacking : ∀ (index : Nat) job cause, s.jobs[index]? = some job →
    job.stage = .running (.nacking cause) → Own own s index
  ended : ∀ (index : Nat) job outcome, s.jobs[index]? = some job →
    job.stage = .ended outcome → outcome = .returned ()

structure Unharmed (workload : Workload) (s : State) : Prop where
  scope : s.cancelScope ≠ some true
  groups : ∀ (h : Nat) loop, s.loops[h]? = some loop → loop.cancelled = false ∧ loop.failed = false
  exhausted : ∀ (h : Nat) loop outcome, s.loops[h]? = some loop →
    loop.stage = .joining outcome ∨ loop.stage = .ended outcome →
    outcome = .returned () ∧ s.takers.count h = (workload h).length

section Messages

variable {setup : Setup} {workload : Workload} {own : Option (Nat × Nat)} {s t : State} {e : Event}
  {index : Nat} {job next : Job}

theorem Own.extend (mine : Own own s index) (inside : s.takers <+: t.takers) :
    Own own t index := by
  rcases mine with ⟨place, given, occurs⟩
  exact ⟨place, given, occurs.extend inside⟩

theorem Unharmed.not_cancelled (unharmed : Unharmed workload s) {h : Nat} {loop : Loop}
    (found : s.loops[h]? = some loop) : ¬s.Cancelled loop := by
  rintro (scope | group)
  · exact unharmed.scope scope
  · rw [(unharmed.groups h loop found).1] at group
    cases group

theorem answered_stage {phase : Phase} {outcome : Await (List Message)}
    {result : AckState × Turn} (unsettled : phase = .handling → job.flags = AckState.fresh)
    (ran : outcome ≠ .cancelled)
    (resumed : Resumes job.flags phase outcome result) :
    (∃ later, (job.answered phase outcome result).stage = .running later ∧
        ∀ cause, later = .nacking cause → outcome.Raised) ∨
      (job.answered phase outcome result).stage = .ended (.returned ()) ∨
      ((∃ exn, (job.answered phase outcome result).stage = .ended (.raised exn)) ∧
        (outcome.Raised ∨ ∃ cause, phase = .nacking cause)) := by
  cases resumed with
  | cancelled => exact absurd rfl ran
  | acks outputs _ => exact Or.inl ⟨_, rfl, nofun⟩
  | nacks _ exn cause _ => exact Or.inl ⟨_, rfl, fun _ _ => trivial⟩
  | refused _ _ exn settled asked answered _ =>
      refine Or.inr (Or.inr ⟨⟨exn, rfl⟩, Or.inl ?_⟩)
      rcases answered with rfl | raised
      · exact absurd (unsettled rfl) settled
      · exact raised
  | publishes outputs value => exact Or.inl ⟨_, rfl, nofun⟩
  | acked outputs value => exact Or.inr (Or.inl rfl)
  | published outputs value => exact Or.inr (Or.inl rfl)
  | nacked cause exn _ _ => exact Or.inr (Or.inr ⟨⟨exn, rfl⟩, Or.inr ⟨cause, rfl⟩⟩)

theorem Succeeding.kept (succeeding : Succeeding own s) (same : t.jobs = s.jobs)
    (inside : s.takers <+: t.takers) : Succeeding own t := by
  refine ⟨?_, ?_⟩
  · intro place other cause found stage
    rw [same] at found
    exact (succeeding.nacking place other cause found stage).extend inside
  · intro place other outcome found stage
    rw [same] at found
    exact succeeding.ended place other outcome found stage

theorem Succeeding.arrived (succeeding : Succeeding own s) {kind : Kind} {h : Nat}
    (arrives : Arrives kind s h next) (same : t.jobs = s.jobs ++ [next])
    (inside : s.takers <+: t.takers) : Succeeding own t := by
  refine ⟨?_, ?_⟩
  · intro place other cause found stage
    rw [same] at found
    rcases Update.getElem?_append_cases _ found with ⟨-, rfl⟩ | old
    · cases arrives <;> cases stage
    · exact (succeeding.nacking place other cause old stage).extend inside
  · intro place other outcome found stage
    rw [same] at found
    rcases Update.getElem?_append_cases _ found with ⟨-, rfl⟩ | old
    · cases arrives <;> cases stage
    · exact succeeding.ended place other outcome old stage

theorem Succeeding.changed (succeeding : Succeeding own s) (same : t.jobs = s.jobs.set index next)
    (inside : s.takers <+: t.takers)
    (nacks : ∀ cause, next.stage = .running (.nacking cause) → Own own s index)
    (ends : ∀ outcome, next.stage = .ended outcome → outcome = .returned ()) :
    Succeeding own t := by
  refine ⟨?_, ?_⟩
  · intro place other cause found stage
    rw [same] at found
    rcases Update.getElem?_set_cases _ found with ⟨rfl, rfl⟩ | ⟨-, old⟩
    · exact (nacks cause stage).extend inside
    · exact (succeeding.nacking place other cause old stage).extend inside
  · intro place other outcome found stage
    rw [same] at found
    rcases Update.getElem?_set_cases _ found with ⟨rfl, rfl⟩ | ⟨-, old⟩
    · exact ends outcome stage
    · exact succeeding.ended place other outcome old stage

theorem Succeeding.answered (succeeding : Succeeding own s) (job : Job) {phase : Phase}
    {outcome : Await (List Message)} {result : AckState × Turn}
    (unsettled : phase = .handling → job.flags = AckState.fresh) (ran : outcome ≠ .cancelled)
    (resumed : Resumes job.flags phase outcome result)
    (same : t.jobs = s.jobs.set index (job.answered phase outcome result))
    (inside : s.takers <+: t.takers) (bound : index < s.jobs.length)
    (raised : outcome.Raised → Own own s index)
    (nacking : ∀ cause, phase = .nacking cause → Own own s index) :
    Succeeding own t ∨ Over own t := by
  rcases answered_stage unsettled ran resumed with
    ⟨later, stage, cause_raised⟩ | stage | ⟨⟨exn, stage⟩, why⟩
  · left
    apply succeeding.changed same inside
    · intro cause nacks
      rw [stage] at nacks
      cases nacks
      exact raised (cause_raised cause rfl)
    · intro ending ended
      rw [stage] at ended
      cases ended
  · left
    apply succeeding.changed same inside
    · intro cause nacks
      rw [stage] at nacks
      cases nacks
    · intro ending ended
      rw [stage] at ended
      cases ended
      rfl
  · right
    have mine : Own own s index := by
      rcases why with failed | ⟨cause, again⟩
      · exact raised failed
      · exact nacking cause again
    have found : t.jobs[index]? = some (job.answered phase outcome result) := by
      rw [same]
      exact List.getElem?_set_self bound
    have here := (List.getElem?_eq_some_iff.mp found).1
    refine ⟨index, List.mem_range.mpr here, mine.extend inside, _, found, ?_⟩
    rw [Job.concluded, stage]

theorem succeeding_step (tracked : Tracked setup workload s) (unharmed : Unharmed workload s)
    (succeeding : Succeeding own s) (follows : Follows workload s e)
    (mine : ∀ index, e.fails = some index → Own own s index) (taken : setup.step s e = some t) :
    Succeeding own t ∨ Over own t := by
  have inside := takers_step taken
  cases jobs_of_step taken with
  | kept same => exact Or.inl (succeeding.kept same inside)
  | arrived h loop job event found waiting arrives same =>
      exact Or.inl (succeeding.arrived arrives same inside)
  | changed index job next found change same =>
      rcases tracked.scripted index job found with ⟨script, scripted, consistent⟩
      have bound := (List.getElem?_eq_some_iff.mp found).1
      cases change with
      | started value spawned =>
          left
          apply succeeding.changed same inside
          · simp
          · simp
      | failed exn result spawned resumed =>
          rw [Consistent, spawned] at consistent
          apply succeeding.answered { job with stage := .running .handling } _ _ resumed same inside
            bound
          · exact fun _ => mine index rfl
          · simp
          · exact fun _ => consistent.1
          · simp
      | answered outcome phase loop result running present reached resumed =>
          have ran : outcome ≠ .cancelled := by
            intro cancelled
            exact unharmed.not_cancelled present (reached cancelled)
          apply succeeding.answered job _ ran resumed same inside bound
          · intro raised
            cases outcome with
            | raised exn => exact mine index rfl
            | returned | cancelled => exact raised.elim
          · intro cause again
            apply succeeding.nacking index job cause found
            rw [running, again]
          · rintro rfl
            rw [Consistent, running] at consistent
            exact consistent.1
      | ownAck | ownNack | ownCallback | settled => exact follows.elim

end Messages

section Loops

variable {setup : Setup} {kind : Kind} {workload : Workload} {own : Option (Nat × Nat)}
  {s t : State} {e : Event} {index h : Nat} {job next : Job} {loop later : Loop}

theorem Unharmed.of_same (unharmed : Unharmed workload s) (scope : t.cancelScope ≠ some true)
    (loops : t.loops = s.loops) (takers : t.takers = s.takers) : Unharmed workload t := by
  refine ⟨scope, ?_, ?_⟩
  · rw [loops]
    exact unharmed.groups
  · rw [loops, takers]
    exact unharmed.exhausted

theorem Unharmed.putJob (unharmed : Unharmed workload s) (found : s.jobs[index]? = some job)
    (same : next.loop = job.loop) (counted : Int) :
    Unharmed workload (s.putJob index next counted) :=
  unharmed.of_same unharmed.scope rfl (takers_set found rfl same)

theorem Unharmed.putLoop (unharmed : Unharmed workload s)
    (spared : later.cancelled = false) (clean : later.failed = false)
    (ends : ∀ outcome, later.stage = .joining outcome ∨ later.stage = .ended outcome →
      outcome = .returned () ∧ s.takers.count h = (workload h).length) :
    Unharmed workload (s.putLoop h later) := by
  refine ⟨unharmed.scope, ?_, ?_⟩
  · intro place other found
    rcases Update.getElem?_set_cases _ found with ⟨rfl, rfl⟩ | ⟨-, old⟩
    · exact ⟨spared, clean⟩
    · exact unharmed.groups place other old
  · intro place other outcome found stage
    rcases Update.getElem?_set_cases _ found with ⟨rfl, rfl⟩ | ⟨-, old⟩
    · exact ends outcome stage
    · exact unharmed.exhausted place other outcome old stage

theorem Unharmed.advanced (unharmed : Unharmed workload s) (found : s.loops[h]? = some loop)
    {stage : LoopStage} (active : ∀ outcome, ¬(stage = .joining outcome ∨ stage = .ended outcome)) :
    Unharmed workload (s.putLoop h { loop with stage := stage }) := by
  apply unharmed.putLoop
  · exact (unharmed.groups h loop found).1
  · exact (unharmed.groups h loop found).2
  · exact fun outcome same => absurd same (active outcome)

theorem Unharmed.addJob (unharmed : Unharmed workload s) (taker : next.loop = h)
    (active : ∀ loop outcome, s.loops[h]? = some loop →
      ¬(loop.stage = .joining outcome ∨ loop.stage = .ended outcome)) (counted : Int) :
    Unharmed workload (s.addJob next counted) := by
  have added : (s.addJob next counted).takers = s.takers ++ [h] := by
    rw [State.takers, State.addJob, List.map_append, List.map_singleton, taker]
    rfl
  refine ⟨unharmed.scope, unharmed.groups, ?_⟩
  intro place other outcome found stage
  rcases unharmed.exhausted place other outcome found stage with ⟨returned, counts⟩
  refine ⟨returned, ?_⟩
  have differs : h ≠ place := by
    rintro rfl
    exact active other outcome found stage
  rw [added, List.count_append, List.count_singleton, if_neg (by simpa using differs)]
  exact counts

theorem not_raised {α : Type} {value : α} : ¬(Await.returned value).Raised := id

theorem Unharmed.exhaust (unharmed : Unharmed workload s) (found : s.loops[h]? = some loop)
    (counts : s.takers.count h = (workload h).length) :
    Unharmed workload (endLoop kind s h loop (.returned ())) := by
  rcases unharmed.groups h loop found with ⟨spared, clean⟩
  rw [endLoop]
  split
  · apply unharmed.putLoop
    · rw [spared]
      rfl
    · rw [clean]
      rfl
    · intro outcome stage
      rcases stage with same | same
      · cases same
        exact ⟨rfl, counts⟩
      · cases same
  · rw [if_neg not_raised]
    apply unharmed.putLoop
    · exact spared
    · exact clean
    · intro outcome stage
      rcases stage with same | same
      · cases same
      · cases same
        exact ⟨rfl, counts⟩

theorem Unharmed.conclude (unharmed : Unharmed workload s) (found : s.loops[h]? = some loop) :
    Unharmed workload (conclude kind s h loop (.returned ())) := by
  unfold Service.conclude
  split
  · rw [if_neg not_raised]
    exact unharmed
  · exact unharmed.advanced found nofun

theorem Unharmed.resumeJob (unharmed : Unharmed workload s) {phase : Phase}
    (found : s.jobs[index]? = some job) (present : s.loops[job.loop]? = some loop)
    (outcome : Await (List Message))
    (after : ∀ ended, ∀ job',
      (Service.resumeJob setup s index job phase loop outcome).jobs[index]? = some job' →
        job'.stage = .ended ended → ended = .returned ()) :
    Unharmed workload (Service.resumeJob setup s index job phase loop outcome) := by
  rcases resumeJob_cases setup s index job phase loop outcome with
    ⟨result, -, -, ⟨later, turn, same⟩ | ⟨ending, turn, same⟩⟩
  · rw [same]
    apply unharmed.putJob found
    rfl
  · have ended : (Service.resumeJob setup s index job phase loop outcome).jobs[index]? =
        some (job.answered phase outcome result) := by
      rw [same, conclude_jobs]
      exact getElem?_putJob found _ _
    have returned := after ending _ ended (by rw [Job.answered, turn]; rfl)
    subst returned
    rw [same]
    apply Unharmed.conclude
    · apply unharmed.putJob found
      rfl
    · exact present

theorem Unharmed.begin (unharmed : Unharmed workload s) (found : s.jobs[index]? = some job)
    (present : s.loops[job.loop]? = some loop) (unmarshalled : Except Exn Unit)
    (after : ∀ ended, ∀ job', (Service.begin setup s index job loop unmarshalled).jobs[index]? =
      some job' → job'.stage = .ended ended → ended = .returned ()) :
    Unharmed workload (Service.begin setup s index job loop unmarshalled) := by
  have started : Unharmed workload (s.putJob index { job with stage := .running .handling } 1) := by
    apply unharmed.putJob found
    rfl
  cases unmarshalled with
  | ok value => exact started
  | error exn =>
      apply started.resumeJob
      · exact getElem?_putJob found _ 1
      · exact present
      · exact after

theorem Unharmed.receive (unharmed : Unharmed workload s) (opened : s.closing = false)
    (found : s.loops[h]? = some loop) (waiting : loop.stage = .waiting) :
    Unharmed workload (receive kind s h loop) := by
  have bound := (List.getElem?_eq_some_iff.mp found).1
  have busy : Unharmed workload (s.putLoop h { loop with stage := .busy s.jobs.length }) :=
    unharmed.advanced found nofun
  rw [Service.receive, opened, if_neg Bool.false_ne_true]
  split
  · apply unharmed.addJob rfl
    intro other outcome here stage
    rw [found] at here
    cases here
    rw [waiting] at stage
    rcases stage with same | same <;> cases same
  · apply busy.addJob rfl
    intro other outcome here stage
    have taken : (s.putLoop h { loop with stage := .busy s.jobs.length }).loops[h]? =
        some { loop with stage := .busy s.jobs.length } := List.getElem?_set_self bound
    rw [taken] at here
    cases here
    rcases stage with same | same <;> cases same

theorem Unharmed.join (unharmed : Unharmed workload s) {outcome : Await Unit}
    (found : s.loops[h]? = some loop) (joining : loop.stage = .joining outcome) :
    Unharmed workload (join s h loop outcome) := by
  rcases unharmed.groups h loop found with ⟨spared, clean⟩
  rw [Service.join, clean, if_neg Bool.false_ne_true]
  apply unharmed.putLoop
  · exact spared
  · rfl
  · intro ending stage
    rcases stage with same | same
    · cases same
    · cases same
      exact unharmed.exhausted h loop outcome found (Or.inl joining)

theorem unharmed_step (tracked : Tracked setup workload s) (unharmed : Unharmed workload s)
    (follows : Follows workload s e) (taken : setup.step s e = some t)
    (after : Succeeding own t) : Unharmed workload t := by
  cases taken_of_step taken with
  | run _ made =>
      subst follows
      cases made
      refine ⟨nofun, ?_, ?_⟩
      · intro h loop found
        rcases List.mem_map.mp (List.mem_of_getElem? found) with ⟨handler, -, rfl⟩
        exact ⟨rfl, rfl⟩
      · intro h loop outcome found stage
        rcases List.mem_map.mp (List.mem_of_getElem? found) with ⟨handler, -, rfl⟩
        rcases stage with same | same <;> cases same
  | refused => exact unharmed
  | start h loop found spawned => exact unharmed.advanced found nofun
  | receive h loop found waiting => exact unharmed.receive tracked.opened found waiting
  | exhaust h loop found waiting => exact unharmed.exhaust found follows
  | cancelLoop h loop found waiting cancelled =>
      exact absurd cancelled (unharmed.not_cancelled found)
  | join h loop outcome found joining drained => exact unharmed.join found joining
  | begin index unmarshalled job loop found spawned present =>
      apply unharmed.begin found present
      exact fun ended job' here stage => after.ended index job' ended here stage
  | resume index outcome job phase loop found running present reached =>
      apply unharmed.resumeJob found present
      exact fun ended job' here stage => after.ended index job' ended here stage
  | finish running drained => exact unharmed.of_same nofun rfl rfl
  | breaks | ownSettle | ownCallback | settle | close | poll | timeout | interrupt =>
      exact follows.elim

theorem concluded_changes (concluded : job.concluded = true) :
    ¬Changes setup s index job e next := by
  intro change
  rw [Job.concluded] at concluded
  cases change with
  | started value stage => simp [stage] at concluded
  | failed exn result stage _ => simp [stage] at concluded
  | ownAck flags _ stage _ => simp [stage] at concluded
  | ownNack flags _ stage _ => simp [stage] at concluded
  | ownCallback stage _ => simp [stage] at concluded
  | answered outcome phase loop result stage _ _ _ => simp [stage] at concluded
  | settled outcome loop stage _ _ => simp [stage] at concluded

theorem concluded_step (concluded : job.concluded = true) (found : s.jobs[index]? = some job)
    (taken : setup.step s e = some t) : t.jobs[index]? = some job := by
  rcases job_of_step taken found with kept | ⟨next, change, -⟩
  · exact kept
  · exact absurd change (concluded_changes concluded)

theorem over_step (done : Over own s) (taken : setup.step s e = some t) : Over own t := by
  rcases done with ⟨index, -, mine, job, found, concluded⟩
  have kept := concluded_step concluded found taken
  have bound := (List.getElem?_eq_some_iff.mp kept).1
  exact ⟨index, List.mem_range.mpr bound, mine.extend (takers_step taken), job, kept, concluded⟩

def Undisturbed (workload : Workload) (own : Option (Nat × Nat)) (s : State) : Prop :=
  (Succeeding own s ∧ Unharmed workload s) ∨ Over own s

theorem undisturbed_initial : Undisturbed workload own initial := by
  refine Or.inl ⟨⟨?_, ?_⟩, ⟨nofun, ?_, ?_⟩⟩
  · intro index job cause found
    cases found
  · intro index job outcome found
    cases found
  · intro h loop found
    cases found
  · intro h loop outcome found
    cases found

theorem undisturbed_step (tracked : Tracked setup workload s)
    (undisturbed : Undisturbed workload own s) (follows : Follows workload s e)
    (others : OthersSucceed own s e) (taken : setup.step s e = some t) :
    Undisturbed workload own t := by
  rcases undisturbed with ⟨succeeding, unharmed⟩ | done
  · by_cases done : Over own s
    · exact Or.inr (over_step done taken)
    · have mine : ∀ index, e.fails = some index → Own own s index := by
        intro index failed
        exact (others index failed).resolve_right done
      rcases succeeding_step tracked unharmed succeeding follows mine taken with after | ended
      · exact Or.inl ⟨after, unharmed_step tracked unharmed follows taken after⟩
      · exact Or.inr ended
  · exact Or.inr (over_step done taken)

end Loops

section Returning

variable {setup : Setup} {workload : Workload} {own : Option (Nat × Nat)} {s t : State} {e : Event}
  {index : Nat} {script : Script}

theorem Script.Returns.answer (returns : script.Returns) (phase : Phase) (exn : Exn) :
    script.answer phase ≠ .raised exn := by
  rcases returns with ⟨-, ⟨outputs, handled⟩, acking, publishing, nacking⟩
  cases phase with
  | handling =>
      rw [Script.answer, handled]
      exact nofun
  | acking _ =>
      rw [Script.answer, acking]
      exact nofun
  | publishing _ =>
      rw [Script.answer, publishing]
      exact nofun
  | nacking _ =>
      rw [Script.answer, nacking]
      exact nofun

theorem script_of_fails (tracked : Tracked setup workload s) (follows : Follows workload s e)
    (taken : setup.step s e = some t) (failed : e.fails = some index) :
    ∃ script, scriptOf workload s index = some script ∧ ¬script.Returns := by
  cases taken_of_step taken with
  | begin place unmarshalled job loop found spawned present =>
      rcases tracked.scripted place job found with ⟨script, scripted, -⟩
      cases unmarshalled with
      | ok value => cases failed
      | error exn =>
          cases failed
          refine ⟨script, scripted, ?_⟩
          rintro ⟨returns, -⟩
          have raised : script.unmarshalled = .error exn := follows script scripted
          rw [raised] at returns
          cases returns
  | resume place outcome job phase loop found running present reached =>
      rcases tracked.scripted place job found with ⟨script, scripted, -⟩
      cases outcome with
      | returned value => cases failed
      | cancelled => cases failed
      | raised exn =>
          cases failed
          have phased : phase ∈ job.stage.phase? := by
            rw [running]
            rfl
          refine ⟨script, scripted, ?_⟩
          intro returns
          rcases follows script scripted job found phase phased with cancelled | answer
          · cases cancelled
          · exact returns.answer phase exn answer.symm
  | _ => cases failed

theorem othersSucceed_of_returns (returns : ∀ h, ∀ script ∈ workload h, script.Returns)
    (tracked : Tracked setup workload s) (follows : Follows workload s e)
    (taken : setup.step s e = some t) : OthersSucceed own s e := by
  intro index failed
  rcases script_of_fails tracked follows taken failed with ⟨script, scripted, raises⟩
  rcases mem_of_scriptOf scripted with ⟨h, member⟩
  exact absurd (returns h script member) raises

end Returning

section Run

variable {setup : Setup} {workload : Workload} {own : Option (Nat × Nat)} {s u : State}
  {events : List Event} {index h k : Nat} {job : Job} {loop : Loop}

structure Kept (setup : Setup) (workload : Workload) (s : State) : Prop where
  supervised : Supervised setup.kind s
  tracked : Tracked setup workload s

theorem kept_initial (setup : Setup) (workload : Workload) : Kept setup workload initial :=
  ⟨initial_supervised setup.kind, tracked_initial setup workload⟩

theorem kept_step (s : State) (e : Event) (t : State) (kept : Kept setup workload s)
    (follows : Follows workload s e) (taken : setup.step s e = some t) : Kept setup workload t :=
  ⟨step_supervised setup s e t kept.supervised taken, tracked_step kept.tracked follows taken⟩

theorem kept_of_run (follows : Along setup.step (Follows workload) initial events)
    (run : exec setup.step initial events = some u) : Kept setup workload u :=
  exec_invariant kept_step (kept_initial setup workload) follows run

theorem undisturbed_of_run (follows : Along setup.step (Follows workload) initial events)
    (others : Along setup.step (OthersSucceed own) initial events)
    (run : exec setup.step initial events = some u) : Undisturbed workload own u := by
  have preserved : ∀ s e t, (Kept setup workload s ∧ Undisturbed workload own s) →
      (Follows workload s e ∧ OthersSucceed own s e) → setup.step s e = some t →
      Kept setup workload t ∧ Undisturbed workload own t := by
    rintro s e t ⟨kept, undisturbed⟩ ⟨follow, succeed⟩ taken
    exact ⟨kept_step s e t kept follow taken,
      undisturbed_step kept.tracked undisturbed follow succeed taken⟩
  exact (exec_invariant preserved ⟨kept_initial setup workload, undisturbed_initial⟩
    (along_and follows others) run).2

theorem undisturbed_of_returns (returns : ∀ h, ∀ script ∈ workload h, script.Returns)
    (follows : Along setup.step (Follows workload) initial events)
    (run : exec setup.step initial events = some u) : Undisturbed workload none u := by
  have preserved : ∀ s e t, (Kept setup workload s ∧ Undisturbed workload none s) →
      Follows workload s e → setup.step s e = some t →
      Kept setup workload t ∧ Undisturbed workload none t := by
    rintro s e t ⟨kept, undisturbed⟩ follow taken
    have others : OthersSucceed none s e :=
      othersSucceed_of_returns returns kept.tracked follow taken
    exact ⟨kept_step s e t kept follow taken,
      undisturbed_step kept.tracked undisturbed follow others taken⟩
  exact (exec_invariant preserved ⟨kept_initial setup workload, undisturbed_initial⟩
    follows run).2

theorem loops_length_of_run
    (follows : Along setup.step (Follows workload) initial (.run :: events))
    (run : exec setup.step initial (.run :: events) = some u) :
    u.loops.length = setup.handlers.length := by
  rcases exec_cons.mp run with ⟨t, first, rest⟩
  have preserved : ∀ s e t, s.loops.length = setup.handlers.length → Follows workload s e →
      setup.step s e = some t → t.loops.length = setup.handlers.length := by
    intro s e t same follow taken
    exact loops_length_step follow taken (Or.inr same)
  exact exec_invariant preserved (loops_length_step follows.1 first (Or.inl rfl))
    (follows.2 t first) rest

theorem Unharmed.taken (unharmed : Unharmed workload s) (inv : Supervised setup.kind s)
    (off : s.running = false) (present : s.loops[h]? = some loop) :
    s.takers.count h = (workload h).length := by
  have ended := inv.stopped off loop (List.mem_of_getElem? present)
  rw [Loop.isEnded] at ended
  split at ended
  · rename_i outcome stage
    exact (unharmed.exhausted h loop outcome present (Or.inr stage)).2
  all_goals cases ended

theorem Succeeding.returned (succeeding : Succeeding own s) (inv : Supervised setup.kind s)
    (off : s.running = false) (found : s.jobs[index]? = some job) :
    job.stage = .ended (.returned ()) := by
  have ended := inv.all_ended (inv.stopped off) job (List.mem_of_getElem? found)
  rcases ended_stage ended with ⟨outcome, stage⟩
  rw [stage, succeeding.ended index job outcome found stage]

theorem Consistent.acked_iff {kind : Kind} {script : Script}
    (consistent : Consistent kind script job) (concluded : job.concluded = true) :
    job.flags.acked = true ↔ script.Succeeds kind := by
  rw [Job.concluded] at concluded
  split at concluded
  · rename_i value stage
    rw [Consistent, stage] at consistent
    rw [consistent.1]
    exact iff_of_true rfl consistent.2
  · rename_i exn stage
    rw [Consistent, stage] at consistent
    rcases consistent with ⟨flags, succeeds, -⟩ | ⟨flags, fails⟩
    · rw [flags]
      exact iff_of_true rfl succeeds
    · rw [flags]
      exact iff_of_false Bool.false_ne_true fails
  all_goals cases concluded

theorem concluded_of_undisturbed (undisturbed : Undisturbed workload (some (h, k)) s)
    (inv : Supervised setup.kind s) (present : s.loops[h]? = some loop)
    (complete : s.running = false ∨ Over (some (h, k)) s) (offered : k < (workload h).length) :
    ∃ index job, Occurs s.takers h k index ∧ s.jobs[index]? = some job ∧ job.concluded = true := by
  have concluded_of_over : Over (some (h, k)) s → ∃ index job, Occurs s.takers h k index ∧
      s.jobs[index]? = some job ∧ job.concluded = true := by
    rintro ⟨index, -, ⟨place, given, occurs⟩, job, found, concluded⟩
    cases given
    exact ⟨index, job, occurs, found, concluded⟩
  rcases undisturbed with ⟨succeeding, unharmed⟩ | done
  · rcases complete with off | done
    · rw [← unharmed.taken inv off present] at offered
      rcases exists_occurs offered with ⟨index, occurs⟩
      have bound := occurs.lt_length
      rw [State.takers, List.length_map] at bound
      have found : s.jobs[index]? = some s.jobs[index] := List.getElem?_eq_getElem bound
      refine ⟨index, s.jobs[index], occurs, found, ?_⟩
      rw [Job.concluded, succeeding.returned inv off found]
    · exact concluded_of_over done
  · exact concluded_of_over done

end Run

end Natricine.Service
