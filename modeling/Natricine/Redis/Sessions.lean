import Natricine.Redis.Ownership
import Natricine.Router.RunHandler

/-! The loops of routers over iterators of `RedisStreamSubscriber`, one for each consumer name,
session after session: a failure, a close or a crash ends one, and the next reads first what is
pending for its consumer. -/

namespace Natricine.Redis

open ConsumerGroup PubSub Service Text Transition

/-- The stream with its consumers, and which of their routers' loops still take messages. -/
structure Sessions where
  stream : State
  looping : Str → Bool

/-- `start` is a new run, after the loop has ended or wherever a crash has left it. -/
inductive LoopEvent where
  | append
  | close (consumer : Str)
  | readPending (consumer : Str)
  | readNew (consumer : Str)
  | handle (consumer : Str) (delivery : Router.Delivery) (removes : Bool)
  | start (consumer : Str)
  deriving DecidableEq, Repr

/-- The callback behind the flags of a message, whether the router or the handler has settled it.
An `XACK` that does not reach the server leaves the entry pending. -/
def settlement (s : State) (index : Nat) (removes : Bool) : AckState → Option State
  | ⟨true, _⟩ =>
      settle s index AckState.ack (if removes then ackFunc else fun group _ => group)
  | ⟨false, true⟩ => settle s index AckState.nack nackFunc
  | ⟨false, false⟩ => some s

/-- One turn of the loop: the iterator yields an entry, and the router works on its message. An
`XACK` that returns has reached the server; `removes` is whether one that does not return has. -/
def handle (count : Str → Nat) (handler : Handler) (s : State) (consumer : Str)
    (delivery : Router.Delivery) (removes : Bool) : Option (State × Bool) :=
  let ended := Router.receive handler delivery
  let removed := removes || delivery.ackCallback = .returned ()
  (step count s (.yield consumer)).bind fun yielded =>
    (settlement yielded s.deliveries.length removed ended.2.ackState).map (·, ended.1)

def loopStep (count : Str → Nat) (handler : Str → Handler) (s : Sessions) :
    LoopEvent → Option Sessions
  | .append => (step count s.stream .append).map (⟨·, s.looping⟩)
  | .close consumer => (step count s.stream (.close consumer)).map (⟨·, s.looping⟩)
  | .readPending consumer =>
      if s.looping consumer then
        (step count s.stream (.readPending consumer)).map (⟨·, s.looping⟩)
      else none
  | .readNew consumer =>
      if s.looping consumer then
        (step count s.stream (.readNew consumer)).map (⟨·, s.looping⟩)
      else none
  | .handle consumer delivery removes =>
      if s.looping consumer then
        (handle count (handler consumer) s.stream consumer delivery removes).map
          fun ended => ⟨ended.1, Function.update s.looping consumer ended.2⟩
      else none
  | .start consumer =>
      (exec (step count) s.stream [.stop consumer, .start consumer]).map
        (⟨·, Function.update s.looping consumer true⟩)

def idle : Sessions := ⟨initial, fun _ => false⟩

/-- A consumer's entries stay pending until they are acked, and none is delivered before all older
ones of its consumer are acked and removed. -/
structure AtLeastOnce (s : State) : Prop where
  kept : ∀ consumer entry, s.group.owners[entry]? = some consumer →
    entry ∈ s.group.pendingOf consumer ∨ Acked s entry
  inTurn : ∀ d ∈ s.deliveries, ∀ entry < d.entry, s.group.owners[entry]? = some d.consumer →
    entry ∉ s.group.pendingOf d.consumer ∧ Acked s entry

section Handle

variable {count : Str → Nat} {handler : Handler} {s t : State} {consumer : Str}
  {delivery : Router.Delivery} {removes looping : Bool}

def State.concluded (s : State) (consumer : Str) (entry : Nat) (group : StreamGroup Str)
    (flags : AckState) : State :=
  { s.setStage consumer (s.iterators consumer).stage.rest with
    group := group
    deliveries := s.deliveries ++ [⟨consumer, (s.iterators consumer).session, entry, flags⟩] }

theorem settle_last {entry : Nat} {flags : AckState} {guard : AckState → Except String AckState}
    {callback : StreamGroup Str → Nat → StreamGroup Str}
    (passed : guard AckState.fresh = .ok flags) :
    settle (s.concluded consumer entry s.group AckState.fresh) s.deliveries.length guard callback =
      some (s.concluded consumer entry (callback s.group entry) flags) := by
  simp [settle, State.concluded, State.setStage, passed]

theorem settlement_acked (entry : Nat) (removed nacked : Bool) :
    settlement (s.concluded consumer entry s.group AckState.fresh) s.deliveries.length removed
        ⟨true, nacked⟩ =
      some (s.concluded consumer entry (if removed then s.group.ack entry else s.group)
        ⟨true, false⟩) := by
  cases removed <;> exact settle_last rfl

theorem settlement_nacked (entry : Nat) (removed : Bool) :
    settlement (s.concluded consumer entry s.group AckState.fresh) s.deliveries.length removed
        ⟨false, true⟩ =
      some (s.concluded consumer entry s.group ⟨false, true⟩) :=
  settle_last rfl

theorem deliver_eq (entry : Nat) :
    (s.setStage consumer (s.iterators consumer).stage.rest).deliver consumer entry =
      s.concluded consumer entry s.group AckState.fresh := by
  simp [State.deliver, State.concluded, State.setStage]

/-- How a turn of the loop ends: the entry is removed from what is pending, behind an ack, or it
stays and the loop ends. -/
inductive Handled (s : State) (consumer : Str) : State → Bool → Prop where
  | removed {entry : Nat} {rest : List Nat}
      (batch : (s.iterators consumer).stage.batch = entry :: rest) (looping : Bool) :
      Handled s consumer (s.concluded consumer entry (s.group.ack entry) ⟨true, false⟩) looping
  | kept {entry : Nat} {rest : List Nat}
      (batch : (s.iterators consumer).stage.batch = entry :: rest) (flags : AckState) :
      Handled s consumer (s.concluded consumer entry s.group flags) false

theorem handled_of_handle
    (taken : handle count handler s consumer delivery removes = some (t, looping)) :
    Handled s consumer t looping := by
  have goesOn := @Router.receive_goes_on handler delivery
  rcases result : Router.receive handler delivery with ⟨ended, ⟨acked, nacked⟩, _, _, _⟩
  simp only [handle, result] at goesOn taken
  rcases Option.bind_eq_some_iff.mp taken with ⟨yielded, yields, settles⟩
  rcases Option.map_eq_some_iff.mp settles with ⟨last, settled, same⟩
  cases same
  simp only [step] at yields
  split at yields
  · cases yields
  · rename_i entry rest batch
    rw [deliver_eq] at yields
    cases yields
    cases acked with
    | true =>
        cases settled.symm.trans (settlement_acked entry _ nacked)
        cases removed : removes || decide (delivery.ackCallback = .returned ()) with
        | true => exact .removed batch _
        | false =>
            have ended : looping = false := by
              cases looping with
              | true =>
                  rw [(goesOn rfl).2] at removed
                  simp at removed
              | false => rfl
            subst ended
            exact .kept batch _
    | false =>
        have ended : looping = false := by
          cases looping with
          | true => cases (goesOn rfl).1
          | false => rfl
        subst ended
        cases nacked with
        | true =>
            cases settled.symm.trans (settlement_nacked entry _)
            exact .kept batch _
        | false =>
            cases settled
            exact .kept batch _

end Handle

/-- What the deliveries have left: an entry that is not acked is pending, no consumer has more
pending than one read returns, and none older than what it was given. -/
structure Tracked (count : Str → Nat) (group : StreamGroup Str) (deliveries : List Delivery) :
    Prop where
  delivered : ∀ d ∈ deliveries, group.owners[d.entry]? = some d.consumer
  acked : ∀ consumer entry, group.owners[entry]? = some consumer →
    entry ∈ group.pendingOf consumer ∨ ∃ d ∈ deliveries, d.entry = entry ∧ d.ackState.acked = true
  few : ∀ consumer, (group.pendingOf consumer).length ≤ count consumer
  passed : ∀ d ∈ deliveries, ∀ entry < d.entry, group.owners[entry]? = some d.consumer →
    entry ∉ group.pendingOf d.consumer

section Tracking

variable {count : Str → Nat} {group : StreamGroup Str} {deliveries : List Delivery} {consumer : Str}
  {entry session : Nat} {rest : List Nat}

theorem tracked_initial (count : Str → Nat) : Tracked count initial.group [] where
  delivered := fun d member => absurd member List.not_mem_nil
  acked := fun consumer entry owned => by cases owned
  few := fun consumer => Nat.zero_le (count consumer)
  passed := fun d member => absurd member List.not_mem_nil

theorem Tracked.readNew (tracked : Tracked count group deliveries)
    (settled : group.pendingOf consumer = []) :
    Tracked count (group.readNew consumer (count consumer)) deliveries where
  delivered := fun d member => StreamGroup.owner_readNew.mpr (Or.inl (tracked.delivered d member))
  acked := by
    intro other entry owned
    rcases StreamGroup.owner_readNew.mp owned with old | ⟨same, new⟩
    · apply (tracked.acked other entry old).imp_left
      intro pending
      by_cases same : other = consumer
      · rw [same, settled] at pending
        cases pending
      · rwa [StreamGroup.pendingOf_readNew_other same]
    · rw [same, StreamGroup.pendingOf_readNew]
      exact Or.inl (List.mem_append_right _ new)
  few := by
    intro other
    by_cases same : other = consumer
    · rw [same, StreamGroup.pendingOf_readNew, settled, List.nil_append, StreamGroup.fresh,
        List.length_range']
      exact Nat.min_le_left _ _
    · rw [StreamGroup.pendingOf_readNew_other same]
      exact tracked.few other
  passed := by
    intro d member entry older owned pending
    have known := (List.getElem?_eq_some_iff.mp (tracked.delivered d member)).1
    have old : group.owners[entry]? = some d.consumer := by
      rcases StreamGroup.owner_readNew.mp owned with old | ⟨-, new⟩
      · exact old
      · have low := (StreamGroup.mem_fresh.mp new).1
        omega
    by_cases same : d.consumer = consumer
    · rw [same, StreamGroup.pendingOf_readNew, settled, List.nil_append] at pending
      have low := (StreamGroup.mem_fresh.mp pending).1
      omega
    · rw [StreamGroup.pendingOf_readNew_other same] at pending
      exact tracked.passed d member entry older old pending

theorem Tracked.given (tracked : Tracked count group deliveries)
    (pending : group.pendingOf consumer = entry :: rest) (flags : AckState) :
    Tracked count group (deliveries ++ [⟨consumer, session, entry, flags⟩]) where
  delivered := by
    intro d member
    rcases List.mem_append.mp member with old | new
    · exact tracked.delivered d old
    · rw [List.mem_singleton.mp new]
      exact StreamGroup.owner_of_pending (pending ▸ List.mem_cons_self)
  acked := by
    intro other place owned
    apply (tracked.acked other place owned).imp_right
    intro acked
    rcases acked with ⟨d, member, same⟩
    exact ⟨d, List.mem_append_left _ member, same⟩
  few := tracked.few
  passed := by
    intro d member
    rcases List.mem_append.mp member with old | new
    · exact tracked.passed d old
    · rw [List.mem_singleton.mp new]
      intro place older _ still
      have ordered : (group.pendingOf consumer).Pairwise (· < ·) := group.pendingOf_ordered
      rw [pending] at ordered
      rw [pending] at still
      rcases List.mem_cons.mp still with same | later
      · exact absurd same (Nat.ne_of_lt older)
      · exact absurd ((List.pairwise_cons.mp ordered).1 place later) (Nat.not_lt.mpr
          (Nat.le_of_lt older))

theorem Tracked.removed (tracked : Tracked count group deliveries)
    (acked : ∃ d ∈ deliveries, d.entry = entry ∧ d.ackState.acked = true) :
    Tracked count (group.ack entry) deliveries where
  delivered := tracked.delivered
  acked := by
    intro other place owned
    by_cases same : place = entry
    · exact Or.inr (same ▸ acked)
    · apply (tracked.acked other place owned).imp_left
      intro pending
      rw [StreamGroup.pendingOf_ack]
      exact List.mem_filter.mpr ⟨pending, by simpa using same⟩
  few := by
    intro other
    rw [StreamGroup.pendingOf_ack]
    exact (List.length_filter_le _ _).trans (tracked.few other)
  passed := by
    intro d member place older owned pending
    rw [StreamGroup.pendingOf_ack] at pending
    exact tracked.passed d member place older owned (List.mem_of_mem_filter pending)

end Tracking

def Stage.Covers (pending : List Nat) : Stage → Prop
  | .idle => True
  | .redelivering batch => batch = pending
  | .delivering batch => batch = [] ∨ batch = pending

structure Sound (count : Str → Nat) (s : Sessions) : Prop where
  tracked : Tracked count s.stream.group s.stream.deliveries
  covers : ∀ consumer, s.looping consumer = true →
    (s.stream.iterators consumer).stage.Covers (s.stream.group.pendingOf consumer)

section Step

variable {count : Str → Nat} {handler : Str → Handler} {s t : Sessions} {consumer : Str}

theorem sound_idle (count : Str → Nat) : Sound count idle where
  tracked := tracked_initial count
  covers := fun consumer looping => by cases looping

theorem Sound.moved {group : StreamGroup Str} {deliveries : List Delivery} {iterator : Iterator}
    {looping : Bool} (sound : Sound count s) (tracked : Tracked count group deliveries)
    (same : ∀ other, other ≠ consumer →
      group.pendingOf other = s.stream.group.pendingOf other)
    (covers : looping = true → iterator.stage.Covers (group.pendingOf consumer)) :
    Sound count
      ⟨⟨group, Function.update s.stream.iterators consumer iterator, deliveries⟩,
        Function.update s.looping consumer looping⟩ where
  tracked := tracked
  covers := by
    intro other looped
    dsimp only at looped ⊢
    by_cases here : other = consumer
    · subst here
      rw [Function.update_self] at looped ⊢
      exact covers looped
    · rw [Function.update_of_ne here] at looped ⊢
      rw [same other here]
      exact sound.covers other looped

theorem Sound.iterator (sound : Sound count s) {iterator : Iterator}
    (covers : iterator.stage.Covers (s.stream.group.pendingOf consumer)) (looping : Bool) :
    Sound count
      ⟨{ s.stream with iterators := Function.update s.stream.iterators consumer iterator },
        Function.update s.looping consumer looping⟩ :=
  sound.moved sound.tracked (fun _ _ => rfl) (fun _ => covers)

theorem Stage.Covers.pending {stage : Stage} {pending : List Nat} {entry : Nat} {rest : List Nat}
    (covers : stage.Covers pending) (batch : stage.batch = entry :: rest) :
    pending = entry :: rest ∧ stage.rest.Covers rest := by
  cases stage with
  | idle => cases batch
  | redelivering waiting =>
      rw [← covers, ← show waiting = entry :: rest from batch]
      subst batch
      exact ⟨rfl, rfl⟩
  | delivering waiting =>
      subst batch
      rcases covers with never | same
      · cases never
      · exact ⟨same.symm, Or.inr rfl⟩

theorem pendingOf_ack_other {group : StreamGroup Str} {other : Str} {entry : Nat}
    (owned : group.owners[entry]? = some consumer) (differs : other ≠ consumer) :
    (group.ack entry).pendingOf other = group.pendingOf other := by
  rw [StreamGroup.pendingOf_ack]
  apply List.filter_eq_self.mpr
  intro place member
  apply decide_eq_true
  intro same
  subst same
  have own := StreamGroup.owner_of_pending member
  rw [owned] at own
  exact differs (Option.some.inj own).symm

theorem sound_handled {stream : State} {looping : Bool} (sound : Sound count s)
    (looped : s.looping consumer = true) (handled : Handled s.stream consumer stream looping) :
    Sound count ⟨stream, Function.update s.looping consumer looping⟩ := by
  have covers := sound.covers consumer looped
  cases handled with
  | @removed entry rest batch looping =>
      rcases covers.pending batch with ⟨pending, left⟩
      have owned := StreamGroup.owner_of_pending (pending ▸ List.mem_cons_self)
      apply sound.moved
      · apply (sound.tracked.given pending ⟨true, false⟩).removed
        exact ⟨_, List.mem_append_right _ (List.mem_singleton_self _), rfl, rfl⟩
      · exact fun other differs => pendingOf_ack_other owned differs
      · intro _
        rw [StreamGroup.pendingOf_ack_first pending]
        exact left
  | @kept entry rest batch flags =>
      rcases covers.pending batch with ⟨pending, -⟩
      apply sound.moved
      · exact sound.tracked.given pending flags
      · exact fun _ _ => rfl
      · exact fun looping => by cases looping

theorem Sound.close (sound : Sound count s) (consumer : Str) :
    Sound count
      ⟨{ s.stream with
          iterators := Function.update s.stream.iterators consumer
            { s.stream.iterators consumer with closed := true } }, s.looping⟩ where
  tracked := sound.tracked
  covers := by
    intro other looped
    dsimp only
    rw [Function.update_apply]
    split
    · rename_i same
      subst same
      exact sound.covers other looped
    · exact sound.covers other looped

theorem Sound.readPending {stream : State} (sound : Sound count s)
    (read : step count s.stream (.readPending consumer) = some stream) :
    Sound count ⟨stream, s.looping⟩ := by
  cases taken_of_step read with
  | leave _ top closed =>
      rw [← Function.update_eq_self consumer s.looping]
      apply sound.iterator
      exact trivial
  | readPending _ top returned =>
      rw [← Function.update_eq_self consumer s.looping]
      apply sound.iterator
      exact List.take_of_length_le (sound.tracked.few consumer)
  | refused => exact sound

theorem Sound.readNew {stream : State} (sound : Sound count s) (looped : s.looping consumer = true)
    (read : step count s.stream (.readNew consumer) = some stream) :
    Sound count ⟨stream, s.looping⟩ := by
  have covers := sound.covers consumer looped
  cases taken_of_step read with
  | readNew _ middle =>
      rw [middle] at covers
      have settled : s.stream.group.pendingOf consumer = [] := covers.symm
      rw [← Function.update_eq_self consumer s.looping]
      apply sound.moved (sound.tracked.readNew settled)
      · exact fun other differs => StreamGroup.pendingOf_readNew_other differs
      · intro _
        rw [StreamGroup.pendingOf_readNew, settled]
        exact Or.inr rfl
  | refused => exact sound

theorem Sound.start {stream : State} (sound : Sound count s)
    (started : exec (step count) s.stream [.stop consumer, .start consumer] = some stream) :
    Sound count ⟨stream, Function.update s.looping consumer true⟩ := by
  rcases exec_cons.mp started with ⟨stopped, stops, starts⟩
  rw [exec_singleton] at starts
  cases stops
  have free : ((s.stream.setStage consumer .idle).iterators consumer).stage = .idle := by
    rw [State.setStage_self]
  rw [step, if_pos free] at starts
  cases starts
  simp only [State.setStage, Function.update_idem]
  apply sound.iterator
  exact Or.inl rfl

theorem sound_step {e : LoopEvent} (sound : Sound count s)
    (taken : loopStep count handler s e = some t) : Sound count t := by
  cases e with
  | append =>
      cases taken
      exact ⟨⟨sound.tracked.delivered, sound.tracked.acked, sound.tracked.few,
        sound.tracked.passed⟩, sound.covers⟩
  | close consumer =>
      cases taken
      exact sound.close consumer
  | readPending consumer =>
      simp only [loopStep] at taken
      split at taken
      · rcases Option.map_eq_some_iff.mp taken with ⟨stream, read, same⟩
        cases same
        exact sound.readPending read
      · cases taken
  | readNew consumer =>
      simp only [loopStep] at taken
      split at taken
      · rename_i looped
        rcases Option.map_eq_some_iff.mp taken with ⟨stream, read, same⟩
        cases same
        exact sound.readNew looped read
      · cases taken
  | handle consumer delivery removes =>
      simp only [loopStep] at taken
      split at taken
      · rename_i looped
        rcases Option.map_eq_some_iff.mp taken with ⟨⟨stream, looping⟩, handled, same⟩
        cases same
        exact sound_handled sound looped (handled_of_handle handled)
      · cases taken
  | start consumer =>
      rcases Option.map_eq_some_iff.mp taken with ⟨stream, started, same⟩
      cases same
      exact sound.start started

end Step

theorem Tracked.atLeastOnce {count : Str → Nat} {s : State}
    (tracked : Tracked count s.group s.deliveries) : AtLeastOnce s where
  kept := tracked.acked
  inTurn := by
    intro d member entry older owned
    have gone := tracked.passed d member entry older owned
    exact ⟨gone, (tracked.acked d.consumer entry owned).resolve_left gone⟩

/-- Whatever the handlers of the routers do and their callbacks, and wherever they fail or crash:
in every run of routers that consume a stream session after session, each under a name of its own,
an entry stays pending for its consumer until it is acked, and no router lets one through before
all older ones of its consumer are acked. -/
theorem at_least_once_in_turn (count : Str → Nat) (handler : Str → Handler)
    (events : List LoopEvent)
    (s : Sessions) (run : exec (loopStep count handler) idle events = some s) :
    AtLeastOnce s.stream := by
  have sound : Sound count s := exec_preserves (fun _ _ _ => sound_step) (sound_idle count) run
  exact sound.tracked.atLeastOnce

def failing : List LoopEvent :=
  let ends (handled : Await (List Message)) : Router.Delivery :=
    ⟨false, AckState.fresh, handled, .returned (), .returned (), .returned ()⟩
  [.append, .append, .start [119], .readPending [119], .readNew [119],
    .handle [119] (ends (.raised (.other "ValueError"))) false,
    .start [119], .readPending [119], .handle [119] (ends (.returned [])) false,
    .handle [119] (ends (.returned [])) false]

theorem failing_in_turn :
    ∃ s,
      exec (loopStep (fun _ => 10) (fun _ => Handler.addNoPublisherHandler)) idle failing = some s ∧
      s.stream.deliveries.map Delivery.entry = [0, 0, 1] ∧ Acked s.stream 0 := by
  have runs : ∃ s ∈
      exec (loopStep (fun _ => 10) (fun _ => Handler.addNoPublisherHandler)) idle failing,
      s.stream.deliveries.map Delivery.entry = [0, 0, 1] ∧
        ⟨[119], 2, 1, ⟨true, false⟩⟩ ∈ s.stream.deliveries ∧
          s.stream.group.owners[0]? = some [119] := by decide
  rcases runs with ⟨s, run, entries, last, owned⟩
  have kept := at_least_once_in_turn (fun _ => 10) _ failing s run
  exact ⟨s, run, entries, (kept.inTurn _ last 0 (by decide) owned).2⟩

end Natricine.Redis
