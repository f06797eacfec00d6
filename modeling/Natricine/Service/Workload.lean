import Natricine.Library.Occurrence
import Natricine.Service.Settlement

/-! One `run()` over given messages: what the subscription of each loop offers, in order, and how
each await of a message ends unless it is cancelled. -/

namespace Natricine.Service

open Occurrence PubSub Transition

structure Script where
  unmarshalled : Except Exn Unit
  handled : Except Exn (List Message)
  acking : Except Exn Unit
  publishing : Except Exn Unit
  nacking : Except Exn Unit
  deriving DecidableEq, Repr

abbrev Workload := Nat → List Script

def Await.ofExcept {α : Type} : Except Exn α → Await α
  | .ok value => .returned value
  | .error exn => .raised exn

namespace Script

def answer (script : Script) : Phase → Await (List Message)
  | .handling => .ofExcept script.handled
  | .acking _ => (Await.ofExcept script.acking).withoutValue
  | .publishing _ => (Await.ofExcept script.publishing).withoutValue
  | .nacking _ => (Await.ofExcept script.nacking).withoutValue

/-- How the handler ends, or in a bus the unmarshalling before it. -/
def result (kind : Kind) (script : Script) : Except Exn (List Message) :=
  if kind.spawns then
    match script.unmarshalled with
    | .ok _ => script.handled
    | .error exn => .error exn
  else script.handled

def Returns (script : Script) : Prop :=
  script.unmarshalled = .ok () ∧ (∃ outputs, script.handled = .ok outputs) ∧
    script.acking = .ok () ∧ script.publishing = .ok () ∧ script.nacking = .ok ()

def Succeeds (kind : Kind) (script : Script) : Prop :=
  ∃ outputs, script.result kind = .ok outputs

end Script

def State.takers (s : State) : List Nat := s.jobs.map Job.loop

def scriptOf (workload : Workload) (s : State) (index : Nat) : Option Script :=
  (s.takers[index]?).bind (fun h => (workload h)[(s.takers.take index).count h]?)

def Stage.phase? : Stage → Option Phase
  | .running phase => some phase
  | .spawned | .turnedAway | .ended _ => none

/-- A step of a run over the workload: one `run()`, which nothing closes or cancels from outside,
with subscriptions that offer the messages and then end. -/
def Follows (workload : Workload) (s : State) : Event → Prop
  | .run => s = initial
  | .receive h => s.takers.count h < (workload h).length
  | .exhaust h => s.takers.count h = (workload h).length
  | .begin index unmarshalled =>
      ∀ script ∈ scriptOf workload s index, script.unmarshalled = unmarshalled
  | .resume index outcome =>
      ∀ script ∈ scriptOf workload s index, ∀ job ∈ s.jobs[index]?, ∀ phase ∈ job.stage.phase?,
        outcome = .cancelled ∨ outcome = script.answer phase
  | .start _ | .cancelLoop _ | .join _ | .finish => True
  | .breaks _ _ | .ownSettle _ _ | .ownCallback _ | .settle _ _ | .close | .poll _ | .timeout _
  | .interrupt => False

instance (workload : Workload) (s : State) : (e : Event) → Decidable (Follows workload s e)
  | .run => inferInstanceAs (Decidable (s = initial))
  | .receive h => inferInstanceAs (Decidable (s.takers.count h < (workload h).length))
  | .exhaust h => inferInstanceAs (Decidable (s.takers.count h = (workload h).length))
  | .begin index unmarshalled =>
      inferInstanceAs (Decidable (∀ script ∈ scriptOf workload s index,
        script.unmarshalled = unmarshalled))
  | .resume index outcome =>
      inferInstanceAs (Decidable (∀ script ∈ scriptOf workload s index, ∀ job ∈ s.jobs[index]?,
        ∀ phase ∈ job.stage.phase?, outcome = .cancelled ∨ outcome = script.answer phase))
  | .start _ | .cancelLoop _ | .join _ | .finish => isTrue trivial
  | .breaks _ _ | .ownSettle _ _ | .ownCallback _ | .settle _ _ | .close | .poll _ | .timeout _
  | .interrupt => isFalse id

def Consistent (kind : Kind) (script : Script) (job : Job) : Prop :=
  match job.stage with
  | .spawned => job.flags = AckState.fresh ∧ kind.spawns = true
  | .running .handling => job.flags = AckState.fresh ∧ script.result kind = script.handled
  | .running (.acking outputs) => job.flags = ⟨true, false⟩ ∧ script.result kind = .ok outputs
  | .running (.publishing outputs) => job.flags = ⟨true, false⟩ ∧ script.result kind = .ok outputs
  | .running (.nacking _) => job.flags = ⟨false, true⟩ ∧ ¬script.Succeeds kind
  | .turnedAway => False
  | .ended (.returned _) => job.flags = ⟨true, false⟩ ∧ script.Succeeds kind
  | .ended (.raised _) => (job.flags = ⟨true, false⟩ ∧ script.Succeeds kind ∧
      (script.acking ≠ .ok () ∨ script.publishing ≠ .ok ())) ∨
        (job.flags = ⟨false, true⟩ ∧ ¬script.Succeeds kind)
  | .ended .cancelled => job.flags.acked = true → script.Succeeds kind

structure Tracked (setup : Setup) (workload : Workload) (s : State) : Prop where
  opened : s.closing = false
  scripted : ∀ (index : Nat) job, s.jobs[index]? = some job →
    ∃ script, scriptOf workload s index = some script ∧ Consistent setup.kind script job

section Takers

variable {setup : Setup} {workload : Workload} {s t : State} {e : Event} {index h k : Nat}

theorem arrives_loop {kind : Kind} {job : Job} (arrived : Arrives kind s h job) : job.loop = h := by
  cases arrived <;> rfl

theorem changes_loop {job next : Job} (change : Changes setup s index job e next) :
    next.loop = job.loop := by
  cases change <;> rfl

theorem takers_set {job next : Job} (found : s.jobs[index]? = some job)
    (same : t.jobs = s.jobs.set index next) (loop : next.loop = job.loop) :
    t.takers = s.takers := by
  rw [State.takers, same]
  exact Update.map_set_eq next found loop

theorem takers_step (taken : setup.step s e = some t) : s.takers <+: t.takers := by
  cases jobs_of_step taken with
  | kept same =>
      rw [State.takers, State.takers, same]
  | arrived h loop job event found waiting arrives same =>
      rw [State.takers, State.takers, same, List.map_append]
      exact List.prefix_append _ _
  | changed index job next found change same =>
      rw [takers_set found same (changes_loop change)]

theorem scriptOf_occurs (occurs : Occurs s.takers h k index) :
    scriptOf workload s index = (workload h)[k]? := by
  rw [scriptOf, occurs.1, Option.bind_some, occurs.2]

theorem mem_of_scriptOf {script : Script} (scripted : scriptOf workload s index = some script) :
    ∃ h, script ∈ workload h := by
  rw [scriptOf] at scripted
  rcases Option.bind_eq_some_iff.mp scripted with ⟨h, taker, found⟩
  exact ⟨h, List.mem_of_getElem? found⟩

theorem scriptOf_extend {script : Script} (inside : s.takers <+: t.takers)
    (scripted : scriptOf workload s index = some script) :
    scriptOf workload t index = some script := by
  rw [scriptOf] at scripted
  rcases Option.bind_eq_some_iff.mp scripted with ⟨h, taker, found⟩
  have occurs : Occurs s.takers h ((s.takers.take index).count h) index := ⟨taker, rfl⟩
  rw [scriptOf_occurs (occurs.extend inside)]
  exact found

end Takers

section Consistent

variable {kind : Kind} {script : Script} {job : Job} {outcome : Await (List Message)}
  {result : AckState × Turn}

theorem Consistent.arrives {s : State} {h : Nat} (arrived : Arrives kind s h job)
    (opened : s.closing = false) : Consistent kind script job := by
  cases arrived with
  | turnedAway closing =>
      rw [opened] at closing
      cases closing
  | spawned spawns => exact ⟨rfl, spawns⟩
  | running inline =>
      refine ⟨rfl, ?_⟩
      rw [Script.result, inline]
      rfl

theorem Consistent.handled (unsettled : job.flags = AckState.fresh)
    (ends : outcome = .cancelled ∨ outcome = .ofExcept (script.result kind))
    (resumed : Resumes job.flags .handling outcome result) :
    Consistent kind script (job.answered .handling outcome result) := by
  cases resumed with
  | cancelled =>
      intro acked
      simp only [Job.answered, unsettled] at acked
      cases acked
  | acks outputs _ =>
      have ended : .returned outputs = Await.ofExcept (script.result kind) :=
        ends.resolve_left (by simp)
      refine ⟨rfl, ?_⟩
      cases returned : script.result kind with
      | ok value =>
          rw [returned] at ended
          cases ended
          rfl
      | error exn =>
          rw [returned] at ended
          cases ended
  | nacks _ exn cause _ =>
      have ended : .raised exn = Await.ofExcept (script.result kind) :=
        ends.resolve_left (by simp)
      refine ⟨rfl, ?_⟩
      rintro ⟨outputs, returned⟩
      rw [returned] at ended
      cases ended
  | refused _ _ exn settled => exact absurd unsettled settled

theorem answered_raised {answer : Except Exn Unit} (raised : outcome.Raised)
    (ends : outcome = .cancelled ∨ outcome = (Await.ofExcept answer).withoutValue) :
    answer ≠ .ok () := by
  rintro rfl
  rcases ends with rfl | rfl
  · exact raised
  · exact raised

theorem Consistent.answered {phase : Phase} (consistent : Consistent kind script job)
    (running : job.stage = .running phase)
    (ends : outcome = .cancelled ∨ outcome = script.answer phase)
    (resumed : Resumes job.flags phase outcome result) :
    Consistent kind script (job.answered phase outcome result) := by
  rw [Consistent, running] at consistent
  cases phase with
  | handling =>
      apply Consistent.handled consistent.1 _ resumed
      rw [consistent.2]
      exact ends
  | acking outputs =>
      cases resumed with
      | cancelled => exact fun _ => ⟨outputs, consistent.2⟩
      | nacks _ exn cause unsettled =>
          rw [consistent.1] at unsettled
          cases unsettled
      | refused _ _ exn _ _ answered ran =>
          have raised := answered.resolve_left nofun
          exact Or.inl ⟨consistent.1, ⟨outputs, consistent.2⟩, Or.inl (answered_raised raised ends)⟩
      | publishes _ value => exact consistent
      | acked _ value => exact ⟨consistent.1, outputs, consistent.2⟩
  | publishing outputs =>
      cases resumed with
      | cancelled => exact fun _ => ⟨outputs, consistent.2⟩
      | nacks _ exn cause unsettled =>
          rw [consistent.1] at unsettled
          cases unsettled
      | refused _ _ exn _ _ answered ran =>
          have raised := answered.resolve_left nofun
          exact Or.inl ⟨consistent.1, ⟨outputs, consistent.2⟩, Or.inr (answered_raised raised ends)⟩
      | published _ value => exact ⟨consistent.1, outputs, consistent.2⟩
  | nacking cause =>
      cases resumed with
      | cancelled =>
          intro acked
          simp only [Job.answered, consistent.1] at acked
          cases acked
      | nacks _ exn _ unsettled =>
          rw [consistent.1] at unsettled
          cases unsettled
      | refused _ _ exn _ asked _ _ => exact absurd rfl (asked cause)
      | nacked _ exn _ ran => exact Or.inr consistent

theorem Consistent.changes {setup : Setup} {workload : Workload} {s : State} {e : Event}
    {index : Nat} {next : Job} (consistent : Consistent setup.kind script job)
    (found : s.jobs[index]? = some job) (scripted : scriptOf workload s index = some script)
    (follows : Follows workload s e) (change : Changes setup s index job e next) :
    Consistent setup.kind script next := by
  cases change with
  | started value spawned =>
      rw [Consistent, spawned] at consistent
      have unmarshalled : script.unmarshalled = .ok value := follows script scripted
      refine ⟨consistent.1, ?_⟩
      rw [Script.result, if_pos consistent.2, unmarshalled]
  | failed exn result spawned resumed =>
      rw [Consistent, spawned] at consistent
      have unmarshalled : script.unmarshalled = .error exn := follows script scripted
      apply Consistent.handled consistent.1 _ resumed
      rw [Script.result, if_pos consistent.2, unmarshalled]
      exact Or.inr rfl
  | ownAck => exact follows.elim
  | ownNack => exact follows.elim
  | ownCallback => exact follows.elim
  | settled => exact follows.elim
  | answered outcome phase loop result running present reached resumed =>
      have phased : phase ∈ job.stage.phase? := by
        rw [running]
        rfl
      exact consistent.answered running (follows script scripted job found phase phased) resumed

theorem Consistent.succeeds (consistent : Consistent kind script job)
    (acked : job.flags.acked = true) : script.Succeeds kind := by
  rw [Consistent] at consistent
  split at consistent
  · rw [consistent.1] at acked
    cases acked
  · rw [consistent.1] at acked
    cases acked
  · exact ⟨_, consistent.2⟩
  · exact ⟨_, consistent.2⟩
  · rw [consistent.1] at acked
    cases acked
  · exact consistent.elim
  · exact consistent.2
  · rcases consistent with ⟨-, succeeds, -⟩ | ⟨flags, -⟩
    · exact succeeds
    · rw [flags] at acked
      cases acked
  · exact consistent acked

end Consistent

theorem tracked_initial (setup : Setup) (workload : Workload) : Tracked setup workload initial := by
  refine ⟨rfl, ?_⟩
  intro index job found
  cases found

structure Framed (s t : State) : Prop where
  closing : t.closing = s.closing
  length : t.loops.length = s.loops.length

section Framed

variable {kind : Kind} {setup : Setup} {s : State} {index h : Nat} {job : Job} {loop : Loop}

theorem putLoop_framed (next : Loop) : Framed s (s.putLoop h next) := ⟨rfl, List.length_set⟩

theorem endLoop_framed (outcome : Await Unit) : Framed s (endLoop kind s h loop outcome) := by
  rw [endLoop]
  split
  · exact putLoop_framed _
  · split
    · exact ⟨rfl, List.length_set⟩
    · exact putLoop_framed _

theorem conclude_framed (outcome : Await Unit) : Framed s (conclude kind s h loop outcome) := by
  unfold conclude
  split
  · split
    · exact putLoop_framed _
    · exact ⟨rfl, rfl⟩
  · split
    · exact putLoop_framed _
    · exact endLoop_framed _
    · exact endLoop_framed _

theorem join_framed (outcome : Await Unit) : Framed s (join s h loop outcome) := by
  rw [join]
  split
  · exact ⟨rfl, List.length_set⟩
  · exact putLoop_framed _

theorem receive_framed : Framed s (receive kind s h loop) := by
  rw [receive]
  split
  · exact ⟨rfl, List.length_set⟩
  · split
    · exact ⟨rfl, rfl⟩
    · exact ⟨rfl, List.length_set⟩

theorem resumeJob_framed (phase : Phase) (outcome : Await (List Message)) :
    Framed s (resumeJob setup s index job phase loop outcome) := by
  rcases resumeJob_cases setup s index job phase loop outcome with
    ⟨result, -, -, ⟨later, -, same⟩ | ⟨ending, -, same⟩⟩
  · rw [same]
    exact ⟨rfl, rfl⟩
  · rw [same]
    have concluded : Framed (s.putJob index (job.answered phase outcome result) (-1))
        (conclude setup.kind (s.putJob index (job.answered phase outcome result) (-1)) job.loop loop
          ending) := conclude_framed ending
    exact ⟨concluded.closing, concluded.length⟩

theorem begin_framed (unmarshalled : Except Exn Unit) :
    Framed s (begin setup s index job loop unmarshalled) := by
  cases unmarshalled with
  | ok value => exact ⟨rfl, rfl⟩
  | error exn =>
      have started : Framed (s.putJob index { job with stage := .running .handling } 1)
          (begin setup s index job loop (.error exn)) := resumeJob_framed _ _
      exact ⟨started.closing, started.length⟩

end Framed

section Step

variable {setup : Setup} {workload : Workload} {s t : State} {e : Event}

theorem framed_step (follows : Follows workload s e) (taken : setup.step s e = some t)
    (later : e ≠ .run) (unfinished : e ≠ .finish) : Framed s t := by
  cases taken_of_step taken with
  | run => exact absurd rfl later
  | refused => exact absurd rfl later
  | start h loop found spawned => exact putLoop_framed _
  | receive h loop found waiting => exact receive_framed
  | exhaust h loop found waiting => exact endLoop_framed _
  | cancelLoop h loop found waiting cancelled => exact endLoop_framed _
  | join h loop outcome found joining drained => exact join_framed _
  | begin index unmarshalled job loop found spawned present => exact begin_framed _
  | resume index outcome job phase loop found running present reached => exact resumeJob_framed _ _
  | finish => exact absurd rfl unfinished
  | breaks | ownSettle | ownCallback | settle | close | poll | timeout | interrupt =>
      exact follows.elim

theorem finish_spec (taken : setup.step s .finish = some t) : t = finish s := by
  cases taken_of_step taken
  rfl

theorem run_spec (follows : Follows workload s .run) (taken : setup.step s .run = some t) :
    t.closing = false ∧ t.loops.length = setup.handlers.length := by
  have idle : s = initial := follows
  subst idle
  cases taken
  exact ⟨rfl, List.length_map _⟩

theorem loops_length_step (follows : Follows workload s e) (taken : setup.step s e = some t)
    (called : e = .run ∨ s.loops.length = setup.handlers.length) :
    t.loops.length = setup.handlers.length := by
  by_cases first : e = .run
  · subst first
    exact (run_spec follows taken).2
  · have counted := called.resolve_left first
    by_cases last : e = .finish
    · subst last
      rw [finish_spec taken]
      exact counted
    · exact (framed_step follows taken first last).length.trans counted

theorem opened_step (opened : s.closing = false) (follows : Follows workload s e)
    (taken : setup.step s e = some t) : t.closing = false := by
  by_cases first : e = .run
  · subst first
    exact (run_spec follows taken).1
  · by_cases last : e = .finish
    · subst last
      rw [finish_spec taken]
      rfl
    · exact (framed_step follows taken first last).closing.trans opened

theorem tracked_step (tracked : Tracked setup workload s) (follows : Follows workload s e)
    (taken : setup.step s e = some t) : Tracked setup workload t := by
  refine ⟨opened_step tracked.opened follows taken, ?_⟩
  have inside := takers_step taken
  intro place next present
  rcases job_before_step taken present with
    old | ⟨job, found, change⟩ | ⟨rfl, h, rfl, arrives, same⟩
  · rcases tracked.scripted place next old with ⟨script, scripted, consistent⟩
    exact ⟨script, scriptOf_extend inside scripted, consistent⟩
  · rcases tracked.scripted place job found with ⟨script, scripted, consistent⟩
    exact ⟨script, scriptOf_extend inside scripted,
      consistent.changes found scripted follows change⟩
  · have occurs : Occurs t.takers h (s.takers.count h) s.jobs.length := by
      have added : t.takers = s.takers ++ [h] := by
        rw [State.takers, State.takers, same, List.map_append, List.map_singleton,
          arrives_loop arrives]
      have last := occurs_append_self s.takers h
      rw [← added] at last
      simpa only [State.takers, List.length_map] using last
    refine ⟨(workload h)[s.takers.count h], ?_, .arrives arrives tracked.opened⟩
    rw [scriptOf_occurs occurs]
    exact List.getElem?_eq_getElem follows

end Step

end Natricine.Service
