import Natricine.Service.Lifecycle

namespace Natricine.Service

open PubSub Text Transition

/-- What happens to the messages of the loop `h`: its `k`-th message is passed to the wrapped
function or nacked because the router is closing, the function returns, its outputs are handed to
the publisher, or the processing fails. -/
inductive Entry where
  | passed (h k : Nat)
  | turnedAway (h k : Nat)
  | returned (h : Nat) (outputs : List Message)
  | published (h : Nat) (topic : Str) (outputs : List Message)
  | failed (h : Nat)
  | close
  deriving DecidableEq, Repr

structure Journal where
  state : State
  log : List Entry
  deriving DecidableEq, Repr

def Journal.initial : Journal := ⟨Service.initial, []⟩

def returnEntries (h : Nat) : Phase → Await (List Message) → List Entry
  | .handling, .returned outputs => [.returned h outputs]
  | _, _ => []

def turnEntries (handler : Handler) (h : Nat) : Turn → List Entry
  | .running (.publishing outputs) => [.published h (handler.publishTopic.getD []) outputs]
  | .running (.nacking _) | .ended (.raised _) | .ended .cancelled => [.failed h]
  | .running .handling | .running (.acking _) | .ended (.returned _) => []

def entries (setup : Setup) (s : State) : Event → List Entry
  | .receive h =>
      [if s.closing then .turnedAway h (s.takers.count h) else .passed h (s.takers.count h)]
  | .resume index outcome =>
      match s.jobs[index]? with
      | some job =>
          match job.stage with
          | .running phase =>
              let handler := setup.handler job.loop
              returnEntries job.loop phase outcome ++
                turnEntries handler job.loop (resume handler job.flags phase outcome).2
          | .spawned | .turnedAway | .ended _ => []
      | none => []
  | .close => [.close]
  | .run | .start _ | .exhaust _ | .breaks _ _ | .cancelLoop _ | .join _ | .begin _ _
  | .ownSettle _ _ | .ownCallback _ | .settle _ _ | .poll _ | .timeout _ | .interrupt
  | .finish => []

def Setup.journal (setup : Setup) (j : Journal) (e : Event) : Option Journal :=
  (setup.step j.state e).map (fun t => ⟨t, j.log ++ entries setup j.state e⟩)

def passedTo (h : Nat) (log : List Entry) : List Nat :=
  log.filterMap fun
    | .passed g k => if g = h then some k else none
    | .turnedAway _ _ | .returned _ _ | .published _ _ _ | .failed _ | .close => none

def returnedBy (h : Nat) (log : List Entry) : List Message :=
  log.flatMap fun
    | .returned g outputs => if g = h then outputs else []
    | .passed _ _ | .turnedAway _ _ | .published _ _ _ | .failed _ | .close => []

def publishedFor (h : Nat) (log : List Entry) : List Message :=
  log.flatMap fun
    | .published g _ outputs => if g = h then outputs else []
    | .passed _ _ | .turnedAway _ _ | .returned _ _ | .failed _ | .close => []

def Job.awaitingAck (h : Nat) (job : Job) : Option (List Message) :=
  match job.stage with
  | .running (.acking outputs) => if job.loop = h then some outputs else none
  | .running .handling | .running (.publishing _) | .running (.nacking _) | .spawned | .turnedAway
  | .ended _ => none

def State.awaitingAck (s : State) (h : Nat) : List (List Message) :=
  s.jobs.filterMap (Job.awaitingAck h)

def Handler.Publishes (handler : Handler) : Prop :=
  handler.publisher = true ∧ handler.publishTopic.getD [] ≠ []

/-- Each handler has one message in processing at most. Its function is passed the messages of its
subscription in order, each once, but for those that are turned away, which needs a `close()`. And
unless a message of the handler fails, what its function returns is handed to its publisher, in
order, as soon as the `ack` has returned; a handler that cannot publish hands over nothing. -/
structure InOrder (handlers : List Handler) (j : Journal) : Prop where
  single : ∀ (one other : Nat) job next, j.state.jobs[one]? = some job →
    j.state.jobs[other]? = some next → job.loop = next.loop → job.isEnded = false →
    next.isEnded = false → one = other
  passed : ∀ h, passedTo h j.log =
    (List.range (j.state.takers.count h)).filter (fun k => .turnedAway h k ∉ j.log)
  opened : .close ∉ j.log → ∀ h k, .turnedAway h k ∉ j.log
  published : ∀ h, ((Setup.router handlers).handler h).Publishes → .failed h ∉ j.log →
    returnedBy h j.log = publishedFor h j.log ++ (j.state.awaitingAck h).flatten ∧
      (j.state.running = false → publishedFor h j.log = returnedBy h j.log)
  silent : ∀ h, ¬((Setup.router handlers).handler h).Publishes → publishedFor h j.log = []

section Entries

variable {handler : Handler} {h g : Nat} {flags : AckState} {phase : Phase}
  {outcome : Await (List Message)} {log more : List Entry}

theorem passedTo_append (h : Nat) (log more : List Entry) :
    passedTo h (log ++ more) = passedTo h log ++ passedTo h more :=
  List.filterMap_append

theorem returnedBy_append (h : Nat) (log more : List Entry) :
    returnedBy h (log ++ more) = returnedBy h log ++ returnedBy h more :=
  List.flatMap_append

theorem publishedFor_append (h : Nat) (log more : List Entry) :
    publishedFor h (log ++ more) = publishedFor h log ++ publishedFor h more :=
  List.flatMap_append

/-- The processing goes into the `except` branch, or ends with an exception. -/
def Turn.Fails : Turn → Prop
  | .running (.nacking _) | .ended (.raised _) | .ended .cancelled => True
  | .running .handling | .running (.acking _) | .running (.publishing _) | .ended (.returned _) =>
      False

inductive Answers (handler : Handler) (h : Nat) :
    Phase → Await (List Message) → Turn → List Entry → Prop where
  | acks (outputs : List Message) :
      Answers handler h .handling (.returned outputs) (.running (.acking outputs))
        [.returned h outputs]
  | refused (outputs : List Message) {turn : Turn} (fails : turn.Fails) :
      Answers handler h .handling (.returned outputs) turn [.returned h outputs, .failed h]
  | publishes (outputs value : List Message) (publishes : handler.Publishes) :
      Answers handler h (.acking outputs) (.returned value) (.running (.publishing outputs))
        [.published h (handler.publishTopic.getD []) outputs]
  | silent (outputs value : List Message) (nothing : handler.Publishes → outputs = []) :
      Answers handler h (.acking outputs) (.returned value) (.ended (.returned ())) []
  | published (outputs value : List Message) :
      Answers handler h (.publishing outputs) (.returned value) (.ended (.returned ())) []
  | fails (phase : Phase) (outcome : Await (List Message)) {turn : Turn} (fails : turn.Fails) :
      Answers handler h phase outcome turn [.failed h]

theorem beginNack_fails (flags : AckState) (cause : Exn) : (beginNack flags cause).2.Fails := by
  rcases beginNack_cases flags cause with ⟨-, same⟩ | ⟨-, exn, same⟩
  · rw [same]
    trivial
  · rw [same]
    trivial

theorem turnEntries_fails {turn : Turn} (fails : turn.Fails) :
    turnEntries handler h turn = [.failed h] := by
  unfold Turn.Fails at fails
  split at fails
  · rfl
  · rfl
  · rfl
  all_goals cases fails

theorem answers (handler : Handler) (h : Nat) (flags : AckState) (phase : Phase)
    (outcome : Await (List Message)) :
    Answers handler h phase outcome (resume handler flags phase outcome).2
      (returnEntries h phase outcome ++
        turnEntries handler h (resume handler flags phase outcome).2) := by
  have failing : ∀ turn : Turn, turn.Fails → returnEntries h phase outcome = [] →
      Answers handler h phase outcome turn
        (returnEntries h phase outcome ++ turnEntries handler h turn) := by
    intro turn fails nothing
    rw [nothing, turnEntries_fails fails]
    exact .fails phase outcome fails
  cases outcome with
  | cancelled => cases phase <;> exact failing _ trivial rfl
  | raised exn =>
      cases phase with
      | handling => exact failing _ (beginNack_fails flags exn) rfl
      | acking outputs => exact failing _ (beginNack_fails flags exn) rfl
      | publishing outputs => exact failing _ (beginNack_fails flags exn) rfl
      | nacking cause => exact failing _ trivial rfl
  | returned value =>
      cases phase with
      | handling =>
          rcases beginAck_cases flags value with ⟨-, same⟩ | ⟨-, exn, same⟩
          · rw [resume, same]
            exact .acks value
          · rw [resume, same]
            have fails : (Turn.ended (.raised exn)).Fails := trivial
            exact .refused value fails
      | acking outputs =>
          rw [resume]
          split
          · rename_i publishes
            simp only [Handler.publishes, Bool.and_eq_true, Bool.not_eq_true',
              List.isEmpty_eq_false_iff] at publishes
            exact .publishes outputs value ⟨publishes.1.2, publishes.2⟩
          · rename_i silent
            apply Answers.silent outputs value
            rintro ⟨publisher, topic⟩
            simpa [Handler.publishes, publisher, topic] using silent
      | publishing outputs => exact .published outputs value
      | nacking cause => exact failing _ trivial rfl

/-- An entry about the processing of a message of the loop `h`. -/
def Concerns (handler : Handler) (h : Nat) : Entry → Prop
  | .returned g _ | .failed g => g = h
  | .published g _ _ => g = h ∧ handler.Publishes
  | .passed _ _ | .turnedAway _ _ | .close => False

variable {turn : Turn}

theorem Answers.concerns (answers : Answers handler h phase outcome turn more) :
    ∀ entry ∈ more, Concerns handler h entry := by
  cases answers <;> simp_all [Concerns]

theorem passedTo_concerns (concerns : ∀ entry ∈ more, Concerns handler h entry) (g : Nat) :
    passedTo g more = [] := by
  apply List.filterMap_eq_nil_iff.mpr
  intro entry member
  have about := concerns entry member
  cases entry <;> first | rfl | cases about

theorem returnedBy_other (concerns : ∀ entry ∈ more, Concerns handler h entry) (other : g ≠ h) :
    returnedBy g more = [] := by
  apply List.flatMap_eq_nil_iff.mpr
  intro entry member
  have about := concerns entry member
  cases entry with
  | returned k outputs =>
      apply if_neg
      rintro rfl
      exact other about
  | passed | turnedAway | published | failed | close => rfl

theorem publishedFor_other (concerns : ∀ entry ∈ more, Concerns handler h entry)
    (other : g ≠ h ∨ ¬handler.Publishes) : publishedFor g more = [] := by
  apply List.flatMap_eq_nil_iff.mpr
  intro entry member
  have about := concerns entry member
  cases entry with
  | published k topic outputs =>
      apply if_neg
      rintro rfl
      rcases other with differs | never
      · exact differs about.1
      · exact never about.2
  | passed | turnedAway | returned | failed | close => rfl

theorem Answers.balanced (answers : Answers handler h phase outcome turn more)
    (publishes : handler.Publishes) (unfailing : .failed h ∉ more) {job : Job} (mine : job.loop = h)
    (running : job.stage = .running phase) (flags : AckState) :
    (job.awaitingAck h).getD [] ++ returnedBy h more =
      publishedFor h more ++
        ((job.answered phase outcome (flags, turn)).awaitingAck h).getD [] := by
  cases answers with
  | acks outputs =>
      simp [Job.awaitingAck, Job.answered, Turn.stage, running, mine, returnedBy, publishedFor]
  | refused outputs fails => simp at unfailing
  | publishes outputs value =>
      simp [Job.awaitingAck, Job.answered, Turn.stage, running, mine, returnedBy, publishedFor]
  | silent outputs value nothing =>
      rw [nothing publishes] at running
      simp [Job.awaitingAck, Job.answered, Turn.stage, running, mine, returnedBy, publishedFor]
  | published outputs value =>
      simp [Job.awaitingAck, Job.answered, Turn.stage, running, mine, returnedBy, publishedFor]
  | fails => simp at unfailing

end Entries

structure Ordered (handlers : List Handler) (j : Journal) : Prop where
  supervised : Supervised (Setup.router handlers).kind j.state
  passed : ∀ h, passedTo h j.log =
    (List.range (j.state.takers.count h)).filter (fun k => .turnedAway h k ∉ j.log)
  bounded : ∀ h k, .turnedAway h k ∈ j.log → k < j.state.takers.count h
  closed : j.state.closing = true → .close ∈ j.log
  opened : .close ∉ j.log → ∀ h k, .turnedAway h k ∉ j.log
  published : ∀ h, ((Setup.router handlers).handler h).Publishes → .failed h ∉ j.log →
    returnedBy h j.log = publishedFor h j.log ++ (j.state.awaitingAck h).flatten
  silent : ∀ h, ¬((Setup.router handlers).handler h).Publishes → publishedFor h j.log = []

theorem ordered_initial (handlers : List Handler) : Ordered handlers Journal.initial where
  supervised := initial_supervised _
  passed _ := rfl
  bounded _ _ member := nomatch member
  closed := nofun
  opened _ _ _ := nofun
  published _ _ _ := rfl
  silent _ _ := rfl

section Step

variable {handlers : List Handler} {s t : State} {log : List Entry} {e : Event} {h index : Nat}
  {job next : Job}

theorem Supervised.single (inv : Supervised .router s) {one other : Nat}
    (found : s.jobs[one]? = some job) (there : s.jobs[other]? = some next)
    (same : job.loop = next.loop) (unfinished : job.isEnded = false)
    (pending : next.isEnded = false) : one = other := by
  rcases inv.attached one job found unfinished with ⟨loop, present, busy⟩
  rcases inv.attached other next there pending with ⟨again, held, waiting⟩
  rw [← same, present] at held
  cases held
  have busy : loop.stage = .busy one := busy
  rw [waiting] at busy
  cases busy
  rfl

theorem awaitingAck_loop (other : job.loop ≠ h) : job.awaitingAck h = none := by
  rw [Job.awaitingAck]
  split
  · exact if_neg other
  all_goals rfl

theorem awaitingAck_ended (ended : job.isEnded = true) : job.awaitingAck h = none := by
  rcases ended_stage ended with ⟨outcome, stage⟩
  rw [Job.awaitingAck, stage]

theorem Supervised.awaitingAck_eq (inv : Supervised .router s) (found : s.jobs[index]? = some job)
    (unfinished : job.isEnded = false) {jobs : List Job}
    (same : jobs = s.jobs.set index next) :
    s.jobs.filterMap (Job.awaitingAck job.loop) = (job.awaitingAck job.loop).toList ∧
      jobs.filterMap (Job.awaitingAck job.loop) = (next.awaitingAck job.loop).toList := by
  have others : ∀ (place : Nat) other, s.jobs[place]? = some other → place ≠ index →
      other.awaitingAck job.loop = none := by
    intro place other there differs
    by_cases mine : other.loop = job.loop
    · cases ended : other.isEnded with
      | true => exact awaitingAck_ended ended
      | false => exact absurd (inv.single there found mine ended unfinished) differs
    · exact awaitingAck_loop mine
  constructor
  · exact Update.filterMap_single found others
  · rw [same]
    apply Update.filterMap_single
      (List.getElem?_set_self (List.getElem?_eq_some_iff.mp found).1)
    intro place other there differs
    rw [List.getElem?_set_ne (Ne.symm differs)] at there
    exact others place other there differs

theorem Ordered.keep (ordered : Ordered handlers ⟨s, log⟩)
    (supervised : Supervised (Setup.router handlers).kind t) (takers : t.takers = s.takers)
    (closing : t.closing = true → s.closing = true)
    (awaiting : ∀ h, t.awaitingAck h = s.awaitingAck h) : Ordered handlers ⟨t, log⟩ where
  supervised := supervised
  passed h := by
    rw [takers]
    exact ordered.passed h
  bounded h k member := by
    rw [takers]
    exact ordered.bounded h k member
  closed closes := ordered.closed (closing closes)
  opened := ordered.opened
  published h publishes unfailing := by
    rw [awaiting]
    exact ordered.published h publishes unfailing
  silent := ordered.silent

theorem filter_turnedAway {count : Nat} {more : List Entry}
    (others : ∀ k < count, .turnedAway h k ∉ more) :
    (List.range count).filter (fun k => .turnedAway h k ∉ log ++ more) =
      (List.range count).filter (fun k => .turnedAway h k ∉ log) := by
  apply List.filter_congr
  intro k member
  have absent := others k (List.mem_range.mp member)
  simp only [List.mem_append, absent, or_false]

theorem Ordered.append (ordered : Ordered handlers ⟨s, log⟩) {more : List Entry}
    (supervised : Supervised (Setup.router handlers).kind t)
    (passed : ∀ g, passedTo g (log ++ more) =
      (List.range (t.takers.count g)).filter (fun k => .turnedAway g k ∉ log ++ more))
    (grown : ∀ g, s.takers.count g ≤ t.takers.count g)
    (away : ∀ g k, .turnedAway g k ∈ more → k < t.takers.count g ∧ s.closing = true)
    (closing : t.closing = true → s.closing = true ∨ .close ∈ more)
    (balanced : ∀ g, ((Setup.router handlers).handler g).Publishes → .failed g ∉ more →
      (s.awaitingAck g).flatten ++ returnedBy g more =
        publishedFor g more ++ (t.awaitingAck g).flatten)
    (silent : ∀ g, ¬((Setup.router handlers).handler g).Publishes → publishedFor g more = []) :
    Ordered handlers ⟨t, log ++ more⟩ where
  supervised := supervised
  passed := passed
  bounded g k member := by
    rcases List.mem_append.mp member with before | last
    · exact Nat.lt_of_lt_of_le (ordered.bounded g k before) (grown g)
    · exact (away g k last).1
  closed closes := by
    rcases closing closes with before | called
    · exact List.mem_append_left _ (ordered.closed before)
    · exact List.mem_append_right _ called
  opened unclosed g k member := by
    have before : .close ∉ log := fun called => unclosed (List.mem_append_left _ called)
    rcases List.mem_append.mp member with earlier | last
    · exact ordered.opened before g k earlier
    · exact before (ordered.closed (away g k last).2)
  published g publishes unfailing := by
    have before := ordered.published g publishes
      (fun failed => unfailing (List.mem_append_left _ failed))
    have now := balanced g publishes (fun failed => unfailing (List.mem_append_right _ failed))
    calc
      _ = returnedBy g log ++ returnedBy g more := returnedBy_append g log more
      _ = publishedFor g log ++ ((s.awaitingAck g).flatten ++ returnedBy g more) := by
        rw [before, List.append_assoc]
      _ = publishedFor g log ++ (publishedFor g more ++ (t.awaitingAck g).flatten) := by
        rw [now]
      _ = publishedFor g (log ++ more) ++ (t.awaitingAck g).flatten := by
        rw [publishedFor_append, List.append_assoc]
  silent g never := by
    rw [publishedFor_append, ordered.silent g never, silent g never]
    rfl

theorem Ordered.receive (ordered : Ordered handlers ⟨s, log⟩) {entry : Entry}
    (supervised : Supervised (Setup.router handlers).kind t)
    (takers : t.takers = s.takers ++ [h]) (closing : t.closing = s.closing)
    (awaiting : ∀ g, t.awaitingAck g = s.awaitingAck g)
    (kind : (s.closing = true ∧ entry = .turnedAway h (s.takers.count h)) ∨
      entry = .passed h (s.takers.count h)) : Ordered handlers ⟨t, log ++ [entry]⟩ := by
  have count_self : t.takers.count h = s.takers.count h + 1 := by
    rw [takers, List.count_append, List.count_singleton_self]
  have count_other : ∀ g, g ≠ h → t.takers.count g = s.takers.count g := by
    intro g differs
    rw [takers, List.count_append, List.count_singleton, if_neg (by simp [Ne.symm differs])]
    rfl
  have away : ∀ g k, .turnedAway g k ∈ [entry] →
      g = h ∧ k = s.takers.count h ∧ s.closing = true := by
    intro g k member
    rw [List.mem_singleton] at member
    rcases kind with ⟨closes, rfl⟩ | rfl
    · cases member
      exact ⟨rfl, rfl, closes⟩
    · cases member
  have earlier : ∀ g, ∀ k < s.takers.count g, .turnedAway g k ∉ [entry] := by
    intro g k before member
    rcases away g k member with ⟨rfl, rfl, -⟩
    exact Nat.lt_irrefl _ before
  apply ordered.append supervised
  · intro g
    rw [passedTo_append, ordered.passed g]
    by_cases mine : g = h
    · subst mine
      rw [count_self, List.range_succ, List.filter_append, filter_turnedAway (earlier g)]
      rcases kind with ⟨-, rfl⟩ | rfl
      · simp [passedTo]
      · have fresh := ordered.bounded g (s.takers.count g)
        simp only [Nat.lt_irrefl, imp_false] at fresh
        simp [passedTo, fresh]
    · rw [count_other g mine, filter_turnedAway (earlier g)]
      rcases kind with ⟨-, rfl⟩ | rfl <;> simp [passedTo, Ne.symm mine]
  · intro g
    rw [takers]
    exact (List.sublist_append_left _ _).count_le g
  · intro g k member
    rcases away g k member with ⟨rfl, rfl, closes⟩
    rw [count_self]
    exact ⟨Nat.lt_succ_self _, closes⟩
  · intro closes
    rw [closing] at closes
    exact Or.inl closes
  · intro g _ _
    rw [awaiting]
    rcases kind with ⟨-, rfl⟩ | rfl <;> exact List.append_nil _
  · intro g _
    rcases kind with ⟨-, rfl⟩ | rfl <;> rfl

theorem flatten_toList (waiting : Option (List Message)) :
    waiting.toList.flatten = waiting.getD [] := by
  cases waiting <;> simp

theorem Ordered.resume (ordered : Ordered handlers ⟨s, log⟩)
    (supervised : Supervised (Setup.router handlers).kind t) (found : s.jobs[index]? = some job)
    {phase : Phase} (running : job.stage = .running phase) {outcome : Await (List Message)}
    {flags : AckState} {turn : Turn} {more : List Entry}
    (answers : Answers ((Setup.router handlers).handler job.loop) job.loop phase outcome turn more)
    (jobs : t.jobs = s.jobs.set index (job.answered phase outcome (flags, turn)))
    (closing : t.closing = s.closing) : Ordered handlers ⟨t, log ++ more⟩ := by
  have concerns := answers.concerns
  have takers : t.takers = s.takers := takers_set found jobs rfl
  have none_away : ∀ g k, .turnedAway g k ∉ more := fun g k member => concerns _ member
  apply ordered.append supervised
  · intro g
    rw [passedTo_append, passedTo_concerns concerns, List.append_nil, ordered.passed g,
      filter_turnedAway (fun k _ => none_away g k), takers]
  · intro g
    rw [takers]
  · intro g k member
    exact absurd member (none_away g k)
  · intro closes
    rw [closing] at closes
    exact Or.inl closes
  · intro g publishes unfailing
    by_cases mine : job.loop = g
    · subst mine
      have unfinished : job.isEnded = false := by rw [Job.isEnded, running]
      rcases Supervised.awaitingAck_eq ordered.supervised found unfinished jobs with ⟨old, new⟩
      rw [State.awaitingAck, State.awaitingAck, old, new, flatten_toList, flatten_toList]
      exact answers.balanced publishes unfailing rfl running flags
    · have kept : t.awaitingAck g = s.awaitingAck g := by
        rw [State.awaitingAck, State.awaitingAck, jobs]
        apply Update.filterMap_set_eq _ found
        rw [awaitingAck_loop mine]
        exact awaitingAck_loop mine
      rw [returnedBy_other concerns (Ne.symm mine),
        publishedFor_other concerns (Or.inl (Ne.symm mine)), kept, List.append_nil]
      rfl
  · intro g never
    by_cases mine : job.loop = g
    · subst mine
      exact publishedFor_other concerns (Or.inr never)
    · exact publishedFor_other concerns (Or.inl (Ne.symm mine))

theorem Ordered.close (ordered : Ordered handlers ⟨s, log⟩)
    (supervised : Supervised (Setup.router handlers).kind t) (jobs : t.jobs = s.jobs) :
    Ordered handlers ⟨t, log ++ [.close]⟩ := by
  have takers : t.takers = s.takers := by rw [State.takers, jobs, State.takers]
  have awaiting : ∀ g, t.awaitingAck g = s.awaitingAck g := by
    intro g
    rw [State.awaitingAck, jobs, State.awaitingAck]
  have none_away : ∀ g k, .turnedAway g k ∉ [Entry.close] := by
    intro g k member
    cases List.mem_singleton.mp member
  apply ordered.append supervised
  · intro g
    rw [passedTo_append, ordered.passed g, takers, filter_turnedAway (fun k _ => none_away g k)]
    exact List.append_nil _
  · intro g
    rw [takers]
  · intro g k member
    exact absurd member (none_away g k)
  · exact fun _ => Or.inr List.mem_cons_self
  · intro g _ _
    rw [awaiting]
    exact List.append_nil _
  · exact fun _ _ => rfl

theorem changes_awaitingAck {setup : Setup} (change : Changes setup s index job e next)
    (unanswered : ∀ outcome, e ≠ .resume index outcome) (h : Nat) :
    next.awaitingAck h = job.awaitingAck h := by
  cases change with
  | started value spawned => simp only [Job.awaitingAck, spawned]
  | failed exn result spawned resumed =>
      cases resumed <;> simp only [Job.awaitingAck, Job.answered, Turn.stage, spawned]
  | ownAck | ownNack | ownCallback => rfl
  | answered outcome => exact absurd rfl (unanswered outcome)
  | settled outcome loop away => simp only [Job.awaitingAck, away]

theorem closing_step {setup : Setup} (taken : setup.step s e = some t) (unclosed : e ≠ .close)
    (closes : t.closing = true) : s.closing = true := by
  by_cases begins : e = .run
  · subst begins
    cases taken_of_step taken with
    | run _ made =>
        rw [run] at made
        split at made
        · cases made
        · cases made
          cases closes
    | refused => exact closes
  by_cases ends : e = .finish
  · subst ends
    cases taken_of_step taken
    cases closes
  · rw [← (steady_step taken begins ends unclosed).closing]
    exact closes

theorem resumeJob_jobs_eq {setup : Setup} {phase : Phase} {loop : Loop}
    {outcome : Await (List Message)} :
    (resumeJob setup s index job phase loop outcome).jobs = s.jobs.set index
      (job.answered phase outcome (resume (setup.handler job.loop) job.flags phase outcome)) := by
  rcases resumeJob_cases setup s index job phase loop outcome with
    ⟨result, rfl, -, ⟨later, -, same⟩ | ⟨ending, -, same⟩⟩
  · rw [same]
    rfl
  · rw [same, conclude_jobs]
    rfl

theorem entries_resume {setup : Setup} (found : s.jobs[index]? = some job) {phase : Phase}
    (running : job.stage = .running phase) {outcome : Await (List Message)} :
    entries setup s (.resume index outcome) =
      returnEntries job.loop phase outcome ++ turnEntries (setup.handler job.loop) job.loop
        (resume (setup.handler job.loop) job.flags phase outcome).2 := by
  simp only [entries, found, running]

theorem Ordered.quiet (ordered : Ordered handlers ⟨s, log⟩)
    (taken : (Setup.router handlers).step s e = some t) (unreceived : ∀ h, e ≠ .receive h)
    (unanswered : ∀ index outcome, e ≠ .resume index outcome) (unclosed : e ≠ .close) :
    Ordered handlers ⟨t, log⟩ := by
  have supervised := step_supervised _ _ _ _ ordered.supervised taken
  have closing := closing_step taken unclosed
  cases jobs_of_step taken with
  | kept same =>
      apply ordered.keep supervised _ closing
      · intro h
        rw [State.awaitingAck, same, State.awaitingAck]
      · rw [State.takers, same, State.takers]
  | arrived h loop new event found waiting arrives same => exact absurd event (unreceived h)
  | changed index job next found change same =>
      apply ordered.keep supervised (takers_set found same (changes_loop change)) closing
      intro h
      rw [State.awaitingAck, same]
      exact Update.filterMap_set_eq _ found
        (changes_awaitingAck change (unanswered index) h)

theorem ordered_step {j k : Journal} (ordered : Ordered handlers j)
    (taken : (Setup.router handlers).journal j e = some k) : Ordered handlers k := by
  rcases j with ⟨s, log⟩
  rcases Option.map_eq_some_iff.mp taken with ⟨t, stepped, rfl⟩
  have supervised := step_supervised _ _ _ _ ordered.supervised stepped
  have quiet : (∀ h, e ≠ .receive h) → (∀ index outcome, e ≠ .resume index outcome) →
      e ≠ .close → Ordered handlers ⟨t, log⟩ := ordered.quiet stepped
  cases e with
  | receive h =>
      cases taken_of_step stepped with
      | receive _ loop found waiting =>
          have arrived : ∃ new, Arrives .router s h new ∧
              (receive .router s h loop).jobs = s.jobs ++ [new] := receive_jobs
          rcases arrived with ⟨new, arrives, jobs⟩
          have takers : (receive .router s h loop).takers = s.takers ++ [h] := by
            rw [State.takers, jobs, List.map_append, List.map_singleton, arrives_loop arrives]
            rfl
          have awaiting : ∀ g, (receive .router s h loop).awaitingAck g = s.awaitingAck g := by
            intro g
            have idle : new.awaitingAck g = none := by cases arrives <;> rfl
            rw [State.awaitingAck, jobs, List.filterMap_append, List.filterMap_cons_none idle,
              List.filterMap_nil, List.append_nil]
            rfl
          apply ordered.receive supervised takers receive_steady.closing awaiting
          split
          · rename_i closing
            exact Or.inl ⟨closing, rfl⟩
          · exact Or.inr rfl
  | resume index outcome =>
      cases taken_of_step stepped with
      | resume _ _ job phase loop found running present reached =>
          rw [entries_resume found running]
          have kept := (steady_step stepped (by simp) (by simp) (by simp)).closing
          exact ordered.resume supervised found running (answers _ _ _ _ _) resumeJob_jobs_eq kept
  | close =>
      cases stepped
      exact ordered.close supervised close_jobs
  | run | start | exhaust | breaks | cancelLoop | join | begin | ownSettle | ownCallback | settle
  | poll | timeout | interrupt | finish =>
      rw [entries, List.append_nil]
      exact quiet (by simp) (by simp) (by simp)

end Step

theorem Ordered.inOrder {handlers : List Handler} {j : Journal} (ordered : Ordered handlers j) :
    InOrder handlers j where
  single _ _ _ _ found there same unfinished pending :=
    Supervised.single ordered.supervised found there same unfinished pending
  passed := ordered.passed
  opened := ordered.opened
  published h publishes unfailing := by
    have balanced := ordered.published h publishes unfailing
    refine ⟨balanced, ?_⟩
    intro off
    have ended := ordered.supervised.all_ended (ordered.supervised.stopped off)
    have none_waits : j.state.awaitingAck h = [] :=
      List.filterMap_eq_nil_iff.mpr (fun job member => awaitingAck_ended (ended job member))
    rw [balanced, none_waits, List.flatten_nil, List.append_nil]
  silent := ordered.silent

/-- Whatever the handlers, and however their loops interleave, a router works in order. -/
theorem router_works_in_order (handlers : List Handler) (events : List Event) :
    Throughout (Setup.router handlers).journal (InOrder handlers) Journal.initial events := by
  intro j visited
  have ordered : Ordered handlers j :=
    visits_preserves (fun _ _ _ => ordered_step) (ordered_initial handlers) visited
  exact ordered.inOrder

/-- The second of two handlers gets its first message while the router is closing: it is not passed
on. And the outputs of a handler with an empty `publish_topic` are handed to nobody, though nothing
fails and nothing is closed. -/
theorem turned_away_and_unpublished :
    (¬∀ events, Throughout
      (Setup.router [Handler.addNoPublisherHandler, Handler.addNoPublisherHandler]).journal
      (fun j => ∀ h, passedTo h j.log = List.range (j.state.takers.count h)) Journal.initial
        events) ∧
    ¬∀ events, Throughout (Setup.router [Handler.addHandler []]).journal
      (fun j => (∀ h, .failed h ∉ j.log) → .close ∉ j.log → j.state.running = false →
        ∀ h, publishedFor h j.log = returnedBy h j.log) Journal.initial events := by
  constructor
  · intro always
    let events : List Event := [.run, .start 0, .start 1, .receive 0, .close, .receive 1]
    have passed := always events _ ⟨events, List.prefix_rfl, rfl⟩ 1
    revert passed
    decide
  · intro always
    let output : Message := ⟨[], [], 0, AckState.fresh⟩
    let events : List Event := [.run, .start 0, .receive 0, .resume 0 (.returned [output]),
      .resume 0 (.returned []), .exhaust 0, .finish]
    have run : ∃ s, exec (Setup.router [Handler.addHandler []]).journal Journal.initial events =
        some ⟨s, [.passed 0 0, .returned 0 [output]]⟩ ∧ s.running = false := ⟨_, rfl, rfl⟩
    rcases run with ⟨s, run, off⟩
    have published := always events _ ⟨events, List.prefix_rfl, run⟩ (by simp) (by simp) off 0
    cases published

end Natricine.Service
