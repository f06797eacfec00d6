import Natricine.Kafka.Subscriber
import Natricine.Router.RunHandler

/-! The loop of a router over an iterator of `KafkaSubscriber`, session after session: a failure, a
close or a crash ends one, and the next joins the group where it has committed. -/

namespace Natricine.Kafka

open PubSub Service Transition

/-- Where a consumer starts that joins a group without a committed offset. -/
inductive AutoOffsetReset where
  | earliest
  | latest
  | none
  deriving DecidableEq, Repr

/-- The position of a consumer that joins the group. With `none` it raises where nothing is
committed. -/
def AutoOffsetReset.position (policy : AutoOffsetReset) (partition : State) : Option Nat :=
  match partition.committed, policy with
  | .some offset, _ => .some offset
  | .none, .earliest => .some 0
  | .none, .latest => .some partition.logEnd
  | .none, .none => .none

/-- A partition, and whether the loop of the router still takes messages from the iterator. -/
structure Sessions where
  partition : State
  looping : Bool
  deriving DecidableEq, Repr

/-- `start` is a new run, after the loop has ended or wherever a crash has left it. `autoCommit` is
what a consumer does from time to time, and when it is stopped, if it was made to. -/
inductive LoopEvent where
  | append
  | getmany (count : Nat)
  | handle (delivery : Router.Delivery) (commits : Bool)
  | autoCommit
  | start
  deriving DecidableEq, Repr

def settlement (index : Nat) (commits : Bool) : AckState → List Event
  | ⟨true, _⟩ => [.ack index commits]
  | ⟨false, true⟩ => [.nack index]
  | ⟨false, false⟩ => []

/-- One turn of the loop: the iterator yields a record, and the router works on its message. A
commit that returns has reached the broker; `commits` is whether one that does not return has. -/
def handle (maxPollRecords : Nat) (handler : Handler) (partition : State)
    (delivery : Router.Delivery) (commits : Bool) : Option Sessions :=
  let ended := Router.receive handler delivery
  let reached := commits || delivery.ackCallback = .returned ()
  (exec (step maxPollRecords) partition
    (.yield :: settlement partition.delivered.length reached ended.2.ackState)).map
      (⟨·, ended.1⟩)

/-- What the consumer of a session is made with, besides where it connects. -/
structure ConsumerConfig where
  autoOffsetReset : AutoOffsetReset
  enableAutoCommit : Bool
  maxPollRecords : Nat
  deriving DecidableEq, Repr

def loopStep (config : ConsumerConfig) (handler : Handler) (s : Sessions) :
    LoopEvent → Option Sessions
  | .append => (step config.maxPollRecords s.partition .append).map (⟨·, s.looping⟩)
  | .getmany count =>
      if s.looping then (step config.maxPollRecords s.partition (.getmany count)).map (⟨·, true⟩)
      else none
  | .handle delivery commits =>
      if s.looping then handle config.maxPollRecords handler s.partition delivery commits else none
  | .autoCommit =>
      if config.enableAutoCommit ∧ 0 < s.partition.session then
        some { s with partition := { s.partition with committed := some s.partition.position } }
      else none
  | .start =>
      (config.autoOffsetReset.position s.partition).bind fun offset =>
        (step config.maxPollRecords s.partition (.restart offset)).map (⟨·, true⟩)

def idle (logEnd : Nat) (committed : Option Nat) : Sessions := ⟨initial logEnd committed 0, false⟩

def AckedUpTo (first offset : Nat) (s : State) : Prop :=
  ∀ record, first ≤ record → record < offset → Acked s record

/-- No record is delivered before all those ahead of it are acked, and none is committed over. -/
structure AtLeastOnce (first : Nat) (s : State) : Prop where
  delivered : ∀ d ∈ s.delivered, AckedUpTo first d.offset s
  committed : ∀ offset ∈ s.committed, AckedUpTo first offset s

section Handle

variable {maxPollRecords : Nat} {handler : Handler} {s t : State} {delivery : Router.Delivery}
  {commits looping : Bool}

def State.yielded (s : State) (record : Nat) (rest : List Nat) (flags : AckState) : State :=
  { s with
    batch := rest
    delivered := s.delivered ++ [⟨record, s.session, flags⟩] }

theorem settle_last {record : Nat} {rest : List Nat} {flags : AckState}
    {guard : AckState → Except String AckState} {callback : State → Delivery → State}
    (passed : guard AckState.fresh = .ok flags) :
    settle (s.yielded record rest AckState.fresh) s.delivered.length guard callback =
      some (callback (s.yielded record rest flags) ⟨record, s.session, AckState.fresh⟩) := by
  rw [settle_of_passed (d := ⟨record, s.session, AckState.fresh⟩) _ passed]
  · simp [State.yielded]
  · simp [State.yielded]

/-- How a turn of the loop ends: with an ack, whose commit may have failed, with a nack, or with a
message that nobody has settled. -/
inductive Handled (s : State) : State → Bool → Prop where
  | acked {record : Nat} {rest : List Nat} (batch : s.batch = record :: rest)
      (reached looping : Bool) :
      Handled s (ackFunc reached (s.yielded record rest ⟨true, false⟩)
        ⟨record, s.session, AckState.fresh⟩) looping
  | nacked {record : Nat} {rest : List Nat} (batch : s.batch = record :: rest) :
      Handled s (nackFunc (s.yielded record rest ⟨false, true⟩)
        ⟨record, s.session, AckState.fresh⟩) false
  | unsettled {record : Nat} {rest : List Nat} (batch : s.batch = record :: rest) :
      Handled s (s.yielded record rest AckState.fresh) false

theorem handled_of_handle
    (taken : handle maxPollRecords handler s delivery commits = some ⟨t, looping⟩) :
    Handled s t looping := by
  have goesOn := @Router.receive_goes_on handler delivery
  rcases result : Router.receive handler delivery with ⟨ended, ⟨acked, nacked⟩, _, _, _⟩
  simp only [handle, result] at goesOn taken
  rcases Option.map_eq_some_iff.mp taken with ⟨last, run, same⟩
  cases same
  rcases exec_cons.mp run with ⟨middle, yields, settles⟩
  simp only [step] at yields
  split at yields
  · cases yields
  · rename_i record rest batch
    cases yields
    cases acked with
    | true =>
        rw [settlement, exec_singleton, step] at settles
        cases settles.symm.trans (settle_last rfl)
        exact .acked batch _ _
    | false =>
        have ended : looping = false := by
          cases looping with
          | true => cases (goesOn rfl).1
          | false => rfl
        subst ended
        cases nacked with
        | true =>
            rw [settlement, exec_singleton, step] at settles
            cases settles.symm.trans (settle_last rfl)
            exact .nacked batch
        | false =>
            cases settles
            exact .unsettled batch

end Handle

section Acked

variable {s : State} {first offset record : Nat} {rest : List Nat} {flags : AckState}

theorem acked_yielded :
    Acked (s.yielded record rest flags) offset ↔
      Acked s offset ∨ (record = offset ∧ flags.acked = true) := by
  simp [Acked, State.yielded, or_and_right, exists_or]

theorem AckedUpTo.yielded (acked : AckedUpTo first offset s) :
    AckedUpTo first offset (s.yielded record rest flags) :=
  fun other low high => acked_yielded.mpr (Or.inl (acked other low high))

theorem AckedUpTo.succ (acked : AckedUpTo first record s) (now : flags.acked = true) :
    AckedUpTo first (record + 1) (s.yielded record rest flags) := by
  intro other low high
  apply acked_yielded.mpr
  rcases Nat.lt_succ_iff_lt_or_eq.mp high with less | same
  · exact Or.inl (acked other low less)
  · exact Or.inr ⟨same.symm, now⟩

theorem AtLeastOnce.yielded (held : AtLeastOnce first s) (ahead : AckedUpTo first record s) :
    AtLeastOnce first (s.yielded record rest flags) where
  delivered := by
    intro d member
    rcases List.mem_append.mp member with old | new
    · exact (held.delivered d old).yielded
    · rw [List.mem_singleton.mp new]
      exact ahead.yielded
  committed := fun offset reached => (held.committed offset reached).yielded

end Acked

structure Sound (policy : AutoOffsetReset) (first : Nat) (s : Sessions) : Prop extends
    AtLeastOnce first s.partition where
  joins : s.partition.committed.isSome ∨ (policy ≠ .latest ∧ first = 0)
  next : s.looping = true → ∃ head,
    s.partition.batch = List.range' head s.partition.batch.length ∧
      s.partition.position = head + s.partition.batch.length ∧
        AckedUpTo first head s.partition

section Step

variable {policy : AutoOffsetReset} {config : ConsumerConfig} {first : Nat} {handler : Handler}
  {s t : Sessions} {e : LoopEvent}

theorem sound_idle (logEnd : Nat) {committed : Option Nat}
    (joins : committed.isSome ∨ policy ≠ .latest) :
    Sound policy (committed.getD 0) (idle logEnd committed) where
  delivered := fun d member => absurd member List.not_mem_nil
  committed := by
    intro offset reached record low high
    have same : committed = some offset := reached
    rw [same] at low
    exact absurd high (Nat.not_lt.mpr low)
  joins := by
    cases committed with
    | some offset => exact Or.inl rfl
    | none =>
        rcases joins with some_offset | policy
        · cases some_offset
        · exact Or.inr ⟨policy, rfl⟩
  next := fun looping => by cases looping

theorem AtLeastOnce.moved {s t : State} (held : AtLeastOnce first s)
    (delivered : t.delivered = s.delivered) (committed : t.committed = s.committed) :
    AtLeastOnce first t := by
  have same (offset : Nat) : AckedUpTo first offset t = AckedUpTo first offset s := by
    simp only [AckedUpTo, Acked, delivered]
  constructor
  · intro d member
    rw [delivered] at member
    rw [same]
    exact held.delivered d member
  · intro offset reached
    rw [committed] at reached
    rw [same]
    exact held.committed offset reached

theorem AtLeastOnce.commit {s : State} {offset : Nat} (held : AtLeastOnce first s)
    (ahead : AckedUpTo first offset s) : AtLeastOnce first { s with committed := some offset } where
  delivered := held.delivered
  committed := by
    intro other reached
    cases reached
    exact ahead

theorem sound_handled {t : State} {looping : Bool} (sound : Sound policy first s)
    (looped : s.looping = true) (handled : Handled s.partition t looping) :
    Sound policy first ⟨t, looping⟩ := by
  rcases sound.next looped with ⟨head, range, position, acked⟩
  cases handled with
  | @acked record rest batch reached looping =>
      rw [batch] at range position
      rcases List.range'_eq_cons_iff.mp range.symm with ⟨rfl, -, tail⟩
      have yielded : AtLeastOnce first (s.partition.yielded head rest ⟨true, false⟩) :=
        sound.yielded acked
      have ahead : AckedUpTo first (head + 1) (s.partition.yielded head rest ⟨true, false⟩) :=
        acked.succ rfl
      have next : s.partition.position = head + 1 + rest.length := by
        rw [position, List.length_cons]
        omega
      cases reached with
      | true =>
          rw [ackFunc, if_pos ⟨rfl, rfl⟩]
          exact ⟨yielded.commit ahead, Or.inl rfl, fun _ => ⟨head + 1, tail, next, ahead⟩⟩
      | false =>
          rw [ackFunc, if_neg (fun both => Bool.noConfusion both.2)]
          exact ⟨yielded, sound.joins, fun _ => ⟨head + 1, tail, next, ahead⟩⟩
  | @nacked record rest batch =>
      rw [batch] at range
      rcases List.range'_eq_cons_iff.mp range.symm with ⟨rfl, -, -⟩
      have here : (⟨head, s.partition.session, AckState.fresh⟩ : Delivery).session =
          (s.partition.yielded head rest ⟨false, true⟩).session := rfl
      have yielded : AtLeastOnce first (s.partition.yielded head rest ⟨false, true⟩) :=
        sound.yielded acked
      rw [nackFunc, if_pos here]
      exact ⟨yielded.moved rfl rfl, sound.joins, fun more => Bool.noConfusion more⟩
  | @unsettled record rest batch =>
      rw [batch] at range
      rcases List.range'_eq_cons_iff.mp range.symm with ⟨rfl, -, -⟩
      exact ⟨sound.yielded acked, sound.joins, fun more => Bool.noConfusion more⟩

theorem AtLeastOnce.joined {s : State} {offset : Nat} (held : AtLeastOnce first s)
    (joins : s.committed.isSome ∨ (policy ≠ .latest ∧ first = 0))
    (joined : policy.position s = some offset) :
    s.committed.getD offset = offset ∧ AckedUpTo first offset s := by
  cases committed : s.committed with
  | some reached =>
      simp only [AutoOffsetReset.position, committed] at joined
      cases joined
      exact ⟨rfl, held.committed _ committed⟩
  | none =>
      rw [committed] at joins
      simp only [AutoOffsetReset.position, committed] at joined
      refine ⟨rfl, ?_⟩
      rcases joins with never | ⟨known, rfl⟩
      · cases never
      · cases policy with
        | earliest =>
            cases joined
            exact fun record _ high => absurd high (Nat.not_lt_zero record)
        | latest => exact absurd rfl known
        | none => cases joined

theorem sound_step (manual : config.enableAutoCommit = false)
    (sound : Sound config.autoOffsetReset first s) (taken : loopStep config handler s e = some t) :
    Sound config.autoOffsetReset first t := by
  cases e with
  | append =>
      cases taken
      exact ⟨sound.moved rfl rfl, sound.joins, sound.next⟩
  | getmany count =>
      simp only [loopStep] at taken
      split at taken
      · rename_i looped
        rcases Option.map_eq_some_iff.mp taken with ⟨partition, polled, same⟩
        cases same
        simp only [step] at polled
        split at polled
        · rename_i ready
          cases polled
          rcases sound.next looped with ⟨head, range, position, acked⟩
          rw [ready.1, List.length_nil, Nat.add_zero] at position
          refine ⟨sound.moved rfl rfl, sound.joins, fun _ => ⟨head, ?_, ?_, acked⟩⟩
          · simp [position]
          · simp [position]
        · cases polled
      · cases taken
  | handle delivery commits =>
      simp only [loopStep] at taken
      split at taken
      · rename_i looped
        exact sound_handled sound looped (handled_of_handle taken)
      · cases taken
  | autoCommit => simp [loopStep, manual] at taken
  | start =>
      rcases Option.bind_eq_some_iff.mp taken with ⟨offset, joined, started⟩
      cases started
      rcases sound.joined sound.joins joined with ⟨position, acked⟩
      refine ⟨sound.moved rfl rfl, sound.joins, fun _ => ⟨offset, rfl, ?_, acked⟩⟩
      simp [position]

end Step

/-- The handler fails on the first message of a partition that was joined at its end, and the next
session joins behind it. -/
def skipping : List LoopEvent :=
  let ends (handled : Await (List Message)) : Router.Delivery :=
    ⟨false, AckState.fresh, handled, .returned (), .returned (), .returned ()⟩
  [.start, .append, .getmany 1, .handle (ends (.raised (.other "ValueError"))) false,
    .start, .append, .getmany 1, .handle (ends (.returned [])) false]

def overtaking : List LoopEvent := [.start, .append, .getmany 1, .autoCommit]

/-- In whatever run, no record is let through before its time, and none is committed over. -/
def AlwaysAtLeastOnce (policy : AutoOffsetReset) (enableAutoCommit : Bool)
    (committed : Option Nat) : Prop :=
  ∀ maxPollRecords handler logEnd events s,
    exec (loopStep ⟨policy, enableAutoCommit, maxPollRecords⟩ handler) (idle logEnd committed)
        events = some s →
      AtLeastOnce (committed.getD 0) s.partition

section Always

variable {policy : AutoOffsetReset} {enableAutoCommit : Bool} {committed : Option Nat}

theorem skipped_by_latest : ¬AlwaysAtLeastOnce .latest enableAutoCommit none := by
  intro always
  have kept := always 10 Handler.addNoPublisherHandler 0 skipping _ rfl
  have passed : Acked _ 0 := kept.delivered ⟨1, 2, ⟨true, false⟩⟩ (by decide) 0 le_rfl Nat.one_pos
  revert passed
  decide

theorem overtaken_by_auto_commit (joins : committed.isSome ∨ policy ≠ .none) :
    ¬AlwaysAtLeastOnce policy true committed := by
  intro always
  have position : policy.position (initial (committed.getD 0) committed 0) =
      some (committed.getD 0) := by
    cases committed with
    | some offset => rfl
    | none =>
        cases policy with
        | earliest | latest => rfl
        | none => simp at joins
  simp only [initial] at position
  have joined : committed.getD (committed.getD 0) = committed.getD 0 := by
    cases committed <;> rfl
  have run : ∃ s ∈ exec (loopStep ⟨policy, true, 10⟩ Handler.addNoPublisherHandler)
      (idle (committed.getD 0) committed) overtaking,
      s.partition.committed = some (committed.getD 0 + 1) ∧ s.partition.delivered = [] := by
    simp [overtaking, exec, loopStep, position, joined, step, idle, initial]
  rcases run with ⟨s, run, reached, none_delivered⟩
  have kept := always 10 Handler.addNoPublisherHandler (committed.getD 0) overtaking s run
  rcases kept.committed _ reached (committed.getD 0) le_rfl (Nat.lt_succ_self _) with ⟨d, member, -⟩
  rw [none_delivered] at member
  cases member

theorem unjoined_idle {maxPollRecords logEnd : Nat} {handler : Handler} {events : List LoopEvent}
    {s : Sessions}
    (run : exec (loopStep ⟨.none, enableAutoCommit, maxPollRecords⟩ handler) (idle logEnd none)
      events = some s) :
    s.partition.session = 0 ∧ s.partition.committed = none ∧ s.partition.delivered = [] ∧
      s.looping = false := by
  apply exec_preserves (I := fun s : Sessions => s.partition.session = 0 ∧
    s.partition.committed = none ∧ s.partition.delivered = [] ∧ s.looping = false) _
    ⟨rfl, rfl, rfl, rfl⟩ run
  rintro s e t ⟨session, committed, delivered, looping⟩ taken
  cases e with
  | append =>
      cases taken
      exact ⟨session, committed, delivered, looping⟩
  | getmany count => simp [loopStep, looping] at taken
  | handle delivery commits => simp [loopStep, looping] at taken
  | autoCommit => simp [loopStep, session] at taken
  | start => simp [loopStep, AutoOffsetReset.position, committed] at taken

end Always

/-- Whatever its handlers do and its callbacks, and wherever it fails or crashes, a router that
consumes a partition session after session lets no record through before all those ahead of it are
acked, and commits over none: in every run if and only if the consumers leave the commits to the
acks, and the group has committed an offset before or does not join at the end of the log. -/
theorem at_least_once_iff (policy : AutoOffsetReset) (enableAutoCommit : Bool)
    (committed : Option Nat) :
    AlwaysAtLeastOnce policy enableAutoCommit committed ↔
      (committed = none ∧ policy = .none) ∨
        (enableAutoCommit = false ∧ (committed.isSome ∨ policy ≠ .latest)) := by
  constructor
  · intro always
    by_cases unjoined : committed = none ∧ policy = .none
    · exact Or.inl unjoined
    · refine Or.inr ⟨?_, ?_⟩
      · cases enableAutoCommit with
        | false => rfl
        | true =>
            have joins : committed.isSome ∨ policy ≠ .none := by
              rcases committed with _ | offset
              · exact Or.inr fun same => unjoined ⟨rfl, same⟩
              · exact Or.inl rfl
            exact absurd always (overtaken_by_auto_commit joins)
      · by_contra neither
        rcases not_or.mp neither with ⟨nothing, known⟩
        have none_committed : committed = none := Option.not_isSome_iff_eq_none.mp nothing
        have latest : policy = .latest := not_not.mp known
        subst none_committed latest
        exact skipped_by_latest always
  · rintro (⟨rfl, rfl⟩ | ⟨rfl, joins⟩) maxPollRecords handler logEnd events s run
    · rcases unjoined_idle run with ⟨-, committed, delivered, -⟩
      constructor
      · intro d member
        rw [delivered] at member
        cases member
      · intro offset reached
        rw [committed] at reached
        cases reached
    · have sound : Sound policy (committed.getD 0) s :=
        exec_preserves (fun _ _ _ => sound_step rfl) (sound_idle logEnd joins) run
      exact sound.toAtLeastOnce

end Natricine.Kafka
