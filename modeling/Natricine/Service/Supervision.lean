import Natricine.Library.Transition
import Natricine.Library.Update
import Natricine.Service.Processing

/-! `Router`, `CommandBus` and `EventBus`: `run`, the loop of each handler, the tasks that the
buses spawn for their messages, and `close`. The task group of `run` and, in a bus, the nested
group of each loop do what `anyio` documents: a child that raises cancels its group, and a
group ends when its children have. -/

namespace Natricine.Service

open PubSub Text Transition

inductive Kind where
  | router
  | commandBus
  | eventBus
  deriving DecidableEq, Repr

namespace Kind

def name : Kind → String
  | .router => "Router"
  | .commandBus => "CommandBus"
  | .eventBus => "EventBus"

def spawns : Kind → Bool
  | .router => false
  | .commandBus | .eventBus => true

end Kind

/-- One loop is run for each handler. Those of a bus publish nothing. -/
structure Setup where
  kind : Kind
  handlers : List Handler
  deriving DecidableEq, Repr

namespace Setup

def router (handlers : List Handler) : Setup := ⟨.router, handlers⟩

def commandBus (handlers : Nat) : Setup :=
  ⟨.commandBus, List.replicate handlers Handler.addNoPublisherHandler⟩

def eventBus (handlers : Nat) : Setup :=
  ⟨.eventBus, List.replicate handlers Handler.addNoPublisherHandler⟩

def handler (setup : Setup) (index : Nat) : Handler :=
  setup.handlers.getD index Handler.addNoPublisherHandler

end Setup

/-- What becomes of a message that a loop has taken: in a bus its task waits to start, it is
processed, or it is nacked because the service is closing. -/
inductive Stage where
  | spawned
  | running (phase : Phase)
  | turnedAway
  | ended (outcome : Await Unit)
  deriving DecidableEq, Repr

/-- A message taken by a loop. The code reads none of the last four fields: whether no `close()`
was called yet, how the handler ended (or the unmarshalling before it), whether the handler
acked the message itself, and whether the callback of `ack` or `nack` has run to completion. -/
structure Job where
  loop : Nat
  flags : AckState
  stage : Stage
  early : Bool
  handlerEnd : Option (Await Unit)
  ownAck : Bool
  callbackDone : Bool
  deriving DecidableEq, Repr

namespace Job

def isRunning (job : Job) : Bool :=
  match job.stage with
  | .running _ => true
  | .spawned | .turnedAway | .ended _ => false

def isEnded (job : Job) : Bool :=
  match job.stage with
  | .ended _ => true
  | .spawned | .running _ | .turnedAway => false

end Job

inductive LoopStage where
  | spawned
  | waiting
  | busy (job : Nat)
  | joining (outcome : Await Unit)
  | ended (outcome : Await Unit)
  deriving DecidableEq, Repr

/-- The task of one `_run_handler`. In a bus its nested group may be cancelled, and may hold an
exception that it raises when it ends. -/
structure Loop where
  stage : LoopStage
  cancelled : Bool
  failed : Bool
  deriving DecidableEq, Repr

def Loop.isEnded (loop : Loop) : Bool :=
  match loop.stage with
  | .ended _ => true
  | .spawned | .waiting | .busy _ | .joining _ => false

inductive Closer where
  | polling
  | done
  deriving DecidableEq, Repr

/-- `cancelScope` is the scope of the running group, and whether it is cancelled. The code does
not read `closeCalled`: whether a `close()` call has begun, or was still polling when this run
began. -/
structure State where
  running : Bool
  closing : Bool
  inFlight : Int
  cancelScope : Option Bool
  loops : List Loop
  jobs : List Job
  closers : List Closer
  closeCalled : Bool
  deriving DecidableEq, Repr

def initial : State := ⟨false, false, 0, none, [], [], [], false⟩

inductive Settlement where
  | ack
  | nack
  deriving DecidableEq, Repr

inductive Event where
  | run
  | start (loop : Nat)
  | receive (loop : Nat)
  | exhaust (loop : Nat)
  | breaks (loop : Nat) (exn : Exn)
  | cancelLoop (loop : Nat)
  | join (loop : Nat)
  | begin (job : Nat) (unmarshalled : Except Exn Unit)
  | ownSettle (job : Nat) (settlement : Settlement)
  | ownCallback (job : Nat)
  | resume (job : Nat) (outcome : Await (List Message))
  | settle (job : Nat) (outcome : Await Unit)
  | close
  | poll (closer : Nat)
  | timeout (closer : Nat)
  | interrupt
  | finish

namespace State

def putJob (s : State) (index : Nat) (job : Job) (counted : Int) : State :=
  { s with jobs := s.jobs.set index job, inFlight := s.inFlight + counted }

def addJob (s : State) (job : Job) (counted : Int) : State :=
  { s with jobs := s.jobs ++ [job], inFlight := s.inFlight + counted }

def putLoop (s : State) (index : Nat) (loop : Loop) : State :=
  { s with loops := s.loops.set index loop }

def cancel (s : State) : State :=
  { s with cancelScope := s.cancelScope.map (fun _ => true) }

def Cancelled (s : State) (loop : Loop) : Prop :=
  s.cancelScope = some true ∨ loop.cancelled = true

instance (s : State) (loop : Loop) : Decidable (s.Cancelled loop) :=
  inferInstanceAs (Decidable (_ ∨ _))

end State

/-- `run` up to its group: a loop for each handler. -/
def run (setup : Setup) (s : State) : Except Exn State :=
  if s.running then .error (.other (setup.kind.name ++ " is already running"))
  else
    .ok { s with
      running := true
      closing := false
      cancelScope := some false
      loops := setup.handlers.map (fun _ => ⟨.spawned, false, false⟩)
      closeCalled := decide (Closer.polling ∈ s.closers) }

def endLoop (kind : Kind) (s : State) (index : Nat) (loop : Loop) (outcome : Await Unit) : State :=
  if kind.spawns then
    s.putLoop index
      { stage := .joining outcome
        cancelled := loop.cancelled || decide outcome.Raised
        failed := loop.failed || decide outcome.Raised }
  else if outcome.Raised then (s.putLoop index { loop with stage := .ended outcome }).cancel
  else s.putLoop index { loop with stage := .ended outcome }

/-- The processing of a message is over. In the router the loop goes on or ends with it; in a bus
an exception cancels the nested group. -/
def conclude (kind : Kind) (s : State) (index : Nat) (loop : Loop) (outcome : Await Unit) : State :=
  if kind.spawns then
    if outcome.Raised then s.putLoop index { loop with cancelled := true, failed := true } else s
  else
    match outcome with
    | .returned _ => s.putLoop index { loop with stage := .waiting }
    | .raised _ | .cancelled => endLoop kind s index loop outcome

def receive (kind : Kind) (s : State) (index : Nat) (loop : Loop) : State :=
  if s.closing then
    (s.putLoop index { loop with stage := .busy s.jobs.length }).addJob
      ⟨index, ⟨false, true⟩, .turnedAway, !s.closeCalled, none, false, false⟩ 0
  else if kind.spawns then
    s.addJob ⟨index, AckState.fresh, .spawned, !s.closeCalled, none, false, false⟩ 0
  else
    (s.putLoop index { loop with stage := .busy s.jobs.length }).addJob
      ⟨index, AckState.fresh, .running .handling, !s.closeCalled, none, false, false⟩ 1

def Phase.settles : Phase → Bool
  | .acking _ | .nacking _ => true
  | .handling | .publishing _ => false

def Turn.stage : Turn → Stage
  | .running phase => .running phase
  | .ended outcome => .ended outcome

def Job.answered (job : Job) (phase : Phase) (outcome : Await (List Message))
    (result : AckState × Turn) : Job :=
  { job with
    flags := result.1
    stage := result.2.stage
    handlerEnd := if phase = .handling then some outcome.forget else job.handlerEnd
    callbackDone := job.callbackDone || (phase.settles && decide outcome.Returned) }

def resumeJob (setup : Setup) (s : State) (index : Nat) (job : Job) (phase : Phase) (loop : Loop)
    (outcome : Await (List Message)) : State :=
  let result := resume (setup.handler job.loop) job.flags phase outcome
  let next := job.answered phase outcome result
  match result.2 with
  | .running _ => s.putJob index next 0
  | .ended ending => conclude setup.kind (s.putJob index next (-1)) job.loop loop ending

/-- The first step of a spawned task: `_process_message` up to its first await. -/
def begin (setup : Setup) (s : State) (index : Nat) (job : Job) (loop : Loop)
    (unmarshalled : Except Exn Unit) : State :=
  let started : Job := { job with stage := .running .handling }
  match unmarshalled with
  | .ok _ => s.putJob index started 1
  | .error exn =>
      resumeJob setup (s.putJob index started 1) index started .handling loop (.raised exn)

def settle (kind : Kind) (s : State) (index : Nat) (job : Job) (loop : Loop)
    (outcome : Await Unit) : State :=
  endLoop kind
    (s.putJob index
      { job with stage := .ended outcome, callbackDone := decide outcome.Returned } 0)
    job.loop loop outcome

def join (s : State) (index : Nat) (loop : Loop) (outcome : Await Unit) : State :=
  if loop.failed then
    (s.putLoop index { loop with stage := .ended (.raised (.other "ExceptionGroup")) }).cancel
  else s.putLoop index { loop with stage := .ended outcome }

/-- The handler calls `msg.ack()` or `msg.nack()`; what these raise is its own affair. -/
def ownSettle (s : State) (index : Nat) (job : Job) : Settlement → State
  | .ack =>
      match job.flags.ack with
      | .ok flags => s.putJob index { job with flags := flags, ownAck := true } 0
      | .error _ => s
  | .nack =>
      match job.flags.nack with
      | .ok flags => s.putJob index { job with flags := flags } 0
      | .error _ => s

/-- One look of `close()` at `_in_flight`: it goes on sleeping, or cancels what is left. -/
def look (s : State) : State × Closer :=
  if 0 < s.inFlight then (s, .polling) else (s.cancel, .done)

def close (s : State) : State :=
  if s.running then
    let seen := look { s with closing := true, closeCalled := true }
    { seen.1 with closers := s.closers ++ [seen.2] }
  else s

def finish (s : State) : State :=
  { s with running := false, closing := false, cancelScope := none }

def Setup.step (setup : Setup) (s : State) : Event → Option State
  | .run =>
      match run setup s with
      | .ok next => some next
      | .error _ => some s
  | .start index =>
      match s.loops[index]? with
      | some loop =>
          if loop.stage = .spawned then some (s.putLoop index { loop with stage := .waiting })
          else none
      | none => none
  | .receive index =>
      match s.loops[index]? with
      | some loop =>
          if loop.stage = .waiting then some (receive setup.kind s index loop) else none
      | none => none
  | .exhaust index =>
      match s.loops[index]? with
      | some loop =>
          if loop.stage = .waiting then some (endLoop setup.kind s index loop (.returned ()))
          else none
      | none => none
  | .breaks index exn =>
      match s.loops[index]? with
      | some loop =>
          if loop.stage = .waiting then some (endLoop setup.kind s index loop (.raised exn))
          else none
      | none => none
  | .cancelLoop index =>
      match s.loops[index]? with
      | some loop =>
          if loop.stage = .waiting ∧ s.Cancelled loop then
            some (endLoop setup.kind s index loop .cancelled)
          else none
      | none => none
  | .join index =>
      match s.loops[index]? with
      | some loop =>
          match loop.stage with
          | .joining outcome =>
              if ∀ job ∈ s.jobs, job.loop = index → job.isEnded = true then
                some (join s index loop outcome)
              else none
          | .spawned | .waiting | .busy _ | .ended _ => none
      | none => none
  | .begin index unmarshalled =>
      match s.jobs[index]? with
      | some job =>
          match job.stage, s.loops[job.loop]? with
          | .spawned, some loop => some (begin setup s index job loop unmarshalled)
          | _, _ => none
      | none => none
  | .ownSettle index settlement =>
      match s.jobs[index]? with
      | some job =>
          if setup.kind.spawns = false ∧ job.stage = .running .handling then
            some (ownSettle s index job settlement)
          else none
      | none => none
  | .ownCallback index =>
      match s.jobs[index]? with
      | some job =>
          if job.stage = .running .handling ∧ job.flags.Settled then
            some (s.putJob index { job with callbackDone := true } 0)
          else none
      | none => none
  | .resume index outcome =>
      match s.jobs[index]? with
      | some job =>
          match job.stage, s.loops[job.loop]? with
          | .running phase, some loop =>
              if outcome = .cancelled ∧ ¬ s.Cancelled loop then none
              else some (resumeJob setup s index job phase loop outcome)
          | _, _ => none
      | none => none
  | .settle index outcome =>
      match s.jobs[index]? with
      | some job =>
          match job.stage, s.loops[job.loop]? with
          | .turnedAway, some loop =>
              if outcome = .cancelled ∧ ¬ s.Cancelled loop then none
              else some (settle setup.kind s index job loop outcome)
          | _, _ => none
      | none => none
  | .close => some (close s)
  | .poll index =>
      match s.closers[index]? with
      | some .polling =>
          let seen := look s
          some { seen.1 with closers := s.closers.set index seen.2 }
      | some .done | none => none
  | .timeout index =>
      match s.closers[index]? with
      | some .polling => some { s.cancel with closers := s.closers.set index .done }
      | some .done | none => none
  | .interrupt => if s.running then some s.cancel else none
  | .finish =>
      if s.running = true ∧ ∀ loop ∈ s.loops, loop.isEnded = true then some (finish s) else none

theorem resumeJob_cases (setup : Setup) (s : State) (index : Nat) (job : Job) (phase : Phase)
    (loop : Loop) (outcome : Await (List Message)) :
    ∃ result, result = resume (setup.handler job.loop) job.flags phase outcome ∧
      Resumes job.flags phase outcome result ∧
      ((∃ later, result.2 = .running later ∧
          resumeJob setup s index job phase loop outcome =
            s.putJob index (job.answered phase outcome result) 0) ∨
        ∃ ending, result.2 = .ended ending ∧
          resumeJob setup s index job phase loop outcome =
            conclude setup.kind (s.putJob index (job.answered phase outcome result) (-1)) job.loop
              loop ending) := by
  refine ⟨_, rfl, resumes (setup.handler job.loop) job.flags phase outcome, ?_⟩
  cases turn : (resume (setup.handler job.loop) job.flags phase outcome).2 with
  | running later =>
      refine Or.inl ⟨later, rfl, ?_⟩
      simp only [resumeJob, turn]
  | ended ending =>
      refine Or.inr ⟨ending, rfl, ?_⟩
      simp only [resumeJob, turn]

inductive Taken (setup : Setup) (s : State) : Event → State → Prop where
  | run (next : State) (made : run setup s = .ok next) : Taken setup s .run next
  | refused : Taken setup s .run s
  | start (h : Nat) (loop : Loop) (found : s.loops[h]? = some loop)
      (spawned : loop.stage = .spawned) :
      Taken setup s (.start h) (s.putLoop h { loop with stage := .waiting })
  | receive (h : Nat) (loop : Loop) (found : s.loops[h]? = some loop)
      (waiting : loop.stage = .waiting) :
      Taken setup s (.receive h) (receive setup.kind s h loop)
  | exhaust (h : Nat) (loop : Loop) (found : s.loops[h]? = some loop)
      (waiting : loop.stage = .waiting) :
      Taken setup s (.exhaust h) (endLoop setup.kind s h loop (.returned ()))
  | breaks (h : Nat) (exn : Exn) (loop : Loop) (found : s.loops[h]? = some loop)
      (waiting : loop.stage = .waiting) :
      Taken setup s (.breaks h exn) (endLoop setup.kind s h loop (.raised exn))
  | cancelLoop (h : Nat) (loop : Loop) (found : s.loops[h]? = some loop)
      (waiting : loop.stage = .waiting) (cancelled : s.Cancelled loop) :
      Taken setup s (.cancelLoop h) (endLoop setup.kind s h loop .cancelled)
  | join (h : Nat) (loop : Loop) (outcome : Await Unit) (found : s.loops[h]? = some loop)
      (joining : loop.stage = .joining outcome)
      (drained : ∀ job ∈ s.jobs, job.loop = h → job.isEnded = true) :
      Taken setup s (.join h) (join s h loop outcome)
  | begin (index : Nat) (unmarshalled : Except Exn Unit) (job : Job) (loop : Loop)
      (found : s.jobs[index]? = some job) (spawned : job.stage = .spawned)
      (present : s.loops[job.loop]? = some loop) :
      Taken setup s (.begin index unmarshalled) (begin setup s index job loop unmarshalled)
  | ownSettle (index : Nat) (settlement : Settlement) (job : Job)
      (found : s.jobs[index]? = some job) (inline : setup.kind.spawns = false)
      (handling : job.stage = .running .handling) :
      Taken setup s (.ownSettle index settlement) (ownSettle s index job settlement)
  | ownCallback (index : Nat) (job : Job) (found : s.jobs[index]? = some job)
      (handling : job.stage = .running .handling) (settled : job.flags.Settled) :
      Taken setup s (.ownCallback index) (s.putJob index { job with callbackDone := true } 0)
  | resume (index : Nat) (outcome : Await (List Message)) (job : Job) (phase : Phase) (loop : Loop)
      (found : s.jobs[index]? = some job) (running : job.stage = .running phase)
      (present : s.loops[job.loop]? = some loop)
      (reached : outcome = .cancelled → s.Cancelled loop) :
      Taken setup s (.resume index outcome) (resumeJob setup s index job phase loop outcome)
  | settle (index : Nat) (outcome : Await Unit) (job : Job) (loop : Loop)
      (found : s.jobs[index]? = some job) (away : job.stage = .turnedAway)
      (present : s.loops[job.loop]? = some loop)
      (reached : outcome = .cancelled → s.Cancelled loop) :
      Taken setup s (.settle index outcome) (settle setup.kind s index job loop outcome)
  | close : Taken setup s .close (close s)
  | poll (k : Nat) (found : s.closers[k]? = some .polling) :
      Taken setup s (.poll k) { (look s).1 with closers := s.closers.set k (look s).2 }
  | timeout (k : Nat) (found : s.closers[k]? = some .polling) :
      Taken setup s (.timeout k) { s.cancel with closers := s.closers.set k .done }
  | interrupt (running : s.running = true) : Taken setup s .interrupt s.cancel
  | finish (running : s.running = true) (drained : ∀ loop ∈ s.loops, loop.isEnded = true) :
      Taken setup s .finish (finish s)

theorem taken_of_step {setup : Setup} {s t : State} {e : Event}
    (taken : setup.step s e = some t) : Taken setup s e t := by
  cases e with
  | run =>
      simp only [Setup.step] at taken
      split at taken
      · rename_i next made
        cases taken
        exact .run _ made
      · cases taken
        exact .refused
  | close =>
      cases taken
      exact .close
  | interrupt =>
      simp only [Setup.step] at taken
      split at taken
      · rename_i running
        cases taken
        exact .interrupt running
      · cases taken
  | finish =>
      simp only [Setup.step] at taken
      split at taken
      · rename_i both
        cases taken
        exact .finish both.1 both.2
      · cases taken
  | start h =>
      simp only [Setup.step] at taken
      split at taken
      · rename_i loop found
        split at taken
        · rename_i spawned
          cases taken
          exact .start h loop found spawned
        · cases taken
      · cases taken
  | receive h =>
      simp only [Setup.step] at taken
      split at taken
      · rename_i loop found
        split at taken
        · rename_i waiting
          cases taken
          exact .receive h loop found waiting
        · cases taken
      · cases taken
  | exhaust h =>
      simp only [Setup.step] at taken
      split at taken
      · rename_i loop found
        split at taken
        · rename_i waiting
          cases taken
          exact .exhaust h loop found waiting
        · cases taken
      · cases taken
  | breaks h exn =>
      simp only [Setup.step] at taken
      split at taken
      · rename_i loop found
        split at taken
        · rename_i waiting
          cases taken
          exact .breaks h exn loop found waiting
        · cases taken
      · cases taken
  | cancelLoop h =>
      simp only [Setup.step] at taken
      split at taken
      · rename_i loop found
        split at taken
        · rename_i both
          cases taken
          exact .cancelLoop h loop found both.1 both.2
        · cases taken
      · cases taken
  | join h =>
      simp only [Setup.step] at taken
      split at taken
      · rename_i loop found
        split at taken
        · rename_i outcome joining
          split at taken
          · rename_i drained
            cases taken
            exact .join h loop outcome found joining drained
          · cases taken
        all_goals cases taken
      · cases taken
  | begin index unmarshalled =>
      simp only [Setup.step] at taken
      split at taken
      · rename_i job found
        split at taken
        · rename_i loop spawned present
          cases taken
          exact .begin index unmarshalled job loop found spawned present
        · cases taken
      · cases taken
  | ownSettle index settlement =>
      simp only [Setup.step] at taken
      split at taken
      · rename_i job found
        split at taken
        · rename_i both
          cases taken
          exact .ownSettle index settlement job found both.1 both.2
        · cases taken
      · cases taken
  | ownCallback index =>
      simp only [Setup.step] at taken
      split at taken
      · rename_i job found
        split at taken
        · rename_i both
          cases taken
          exact .ownCallback index job found both.1 both.2
        · cases taken
      · cases taken
  | resume index outcome =>
      simp only [Setup.step] at taken
      split at taken
      · rename_i job found
        split at taken
        · rename_i phase loop running present
          split at taken
          · cases taken
          · rename_i allowed
            cases taken
            refine .resume index outcome job phase loop found running present ?_
            intro cancelled
            exact Decidable.not_not.mp (fun spared => allowed ⟨cancelled, spared⟩)
        · cases taken
      · cases taken
  | settle index outcome =>
      simp only [Setup.step] at taken
      split at taken
      · rename_i job found
        split at taken
        · rename_i loop away present
          split at taken
          · cases taken
          · rename_i allowed
            cases taken
            refine .settle index outcome job loop found away present ?_
            intro cancelled
            exact Decidable.not_not.mp (fun spared => allowed ⟨cancelled, spared⟩)
        · cases taken
      · cases taken
  | poll k =>
      simp only [Setup.step] at taken
      split at taken
      · rename_i found
        cases taken
        exact .poll k found
      all_goals cases taken
  | timeout k =>
      simp only [Setup.step] at taken
      split at taken
      · rename_i found
        cases taken
        exact .timeout k found
      all_goals cases taken

end Natricine.Service
