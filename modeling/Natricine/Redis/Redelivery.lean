import Natricine.Redis.Ownership

/-! What one iterator yields twice. The read with id `0` is made on every pass and returns
everything that is pending for the consumer, the entries in progress with the nacked ones. -/

namespace Natricine.Redis

open ConsumerGroup PubSub Text Transition

def InProgress (s : State) (consumer : Str) (entry : Nat) : Prop :=
  ∃ d ∈ s.deliveries, d.consumer = consumer ∧ d.session = (s.iterators consumer).session ∧
    d.entry = entry ∧ ¬d.ackState.Settled

instance (s : State) (consumer : Str) (entry : Nat) : Decidable (InProgress s consumer entry) :=
  inferInstanceAs (Decidable (∃ d ∈ _, _))

/-- Nothing is yielded again while it is in progress. -/
def YieldsSettled (s : State) : Event → Prop
  | .yield consumer =>
      ∀ entry ∈ (s.iterators consumer).stage.batch.head?, ¬InProgress s consumer entry
  | .append | .start _ | .close _ | .stop _ | .readPending _ | .readNew _ | .ack _ | .nack _ => True

/-- The read of what is pending returns no entry that is in progress. -/
def ReadsSettled (count : Str → Nat) (s : State) : Event → Prop
  | .readPending consumer => ∀ entry ∈ pendingRead count s consumer, ¬InProgress s consumer entry
  | .append | .start _ | .close _ | .stop _ | .readNew _ | .yield _ | .ack _ | .nack _ => True

section Decidable

variable (count : Str → Nat) (s : State)

instance : (e : Event) → Decidable (YieldsSettled s e)
  | .yield consumer =>
      inferInstanceAs (Decidable (∀ entry ∈ (s.iterators consumer).stage.batch.head?, _))
  | .append | .start _ | .close _ | .stop _ | .readPending _ | .readNew _ | .ack _ | .nack _ =>
      isTrue trivial

instance : (e : Event) → Decidable (ReadsSettled count s e)
  | .readPending consumer => inferInstanceAs (Decidable (∀ entry ∈ pendingRead count s consumer, _))
  | .append | .start _ | .close _ | .stop _ | .readNew _ | .yield _ | .ack _ | .nack _ =>
      isTrue trivial

end Decidable

section InProgress

variable {s t : State} {consumer other : Str} {entry new : Nat}

theorem inProgress_congr (same : t.deliveries = s.deliveries)
    (session : (t.iterators consumer).session = (s.iterators consumer).session) :
    InProgress t consumer entry ↔ InProgress s consumer entry := by
  rw [InProgress, InProgress, same, session]

theorem inProgress_deliver :
    InProgress (s.deliver other new) consumer entry ↔
      InProgress s consumer entry ∨ (consumer = other ∧ entry = new) := by
  constructor
  · rintro ⟨d, member, owner, session, rfl, unsettled⟩
    rcases List.mem_append.mp member with old | added
    · exact Or.inl ⟨d, old, owner, session, rfl, unsettled⟩
    · rw [List.mem_singleton.mp added] at owner ⊢
      exact Or.inr ⟨owner.symm, rfl⟩
  · rintro (⟨d, member, held⟩ | ⟨rfl, rfl⟩)
    · exact ⟨d, List.mem_append_left _ member, held⟩
    · exact ⟨_, List.mem_append_right _ List.mem_cons_self, rfl, rfl, rfl,
        AckState.not_settled_fresh⟩

theorem inProgress_of_settled {group : StreamGroup Str} {index : Nat} {d : Delivery}
    {flags : AckState} (settled : flags.Settled)
    (held : InProgress { s with
      group := group
      deliveries := s.deliveries.set index { d with ackState := flags } } consumer entry) :
    InProgress s consumer entry := by
  rcases held with ⟨other, member, owner, session, same, unsettled⟩
  rcases List.mem_or_eq_of_mem_set member with old | rfl
  · exact ⟨other, old, owner, session, same, unsettled⟩
  · exact absurd settled unsettled

end InProgress

structure Fetched (s : State) : Prop where
  nodup : ∀ consumer, (s.iterators consumer).stage.batch.Nodup
  idle : ∀ consumer, ∀ entry ∈ (s.iterators consumer).stage.batch, ¬InProgress s consumer entry

theorem fetched_initial : Fetched initial where
  nodup := fun _ => List.nodup_nil
  idle := nofun

section Step

variable {count : Str → Nat} {s t : State} {consumer : Str}

theorem Accounted.owned_of_inProgress (accounted : Accounted s) {entry : Nat}
    (held : InProgress s consumer entry) : s.group.owners[entry]? = some consumer := by
  rcases held with ⟨d, member, rfl, -, rfl, -⟩
  exact accounted.delivered d member

theorem Fetched.moved (fetched : Fetched s) {group : StreamGroup Str} {iterator : Iterator}
    (nodup : iterator.stage.batch.Nodup)
    (batch : ∀ entry ∈ iterator.stage.batch,
      iterator.session = (s.iterators consumer).session ∧ ¬InProgress s consumer entry) :
    Fetched { s with
      group := group
      iterators := Function.update s.iterators consumer iterator } where
  nodup := by
    intro other
    dsimp only
    rw [Function.update_apply]
    split
    · exact nodup
    · exact fetched.nodup other
  idle := by
    intro other entry member held
    dsimp only at member
    by_cases same : other = consumer
    · subst same
      rw [Function.update_self] at member
      rcases batch entry member with ⟨session, settled⟩
      apply settled
      refine (inProgress_congr ?_ ?_).mp held
      · rfl
      · exact (congrArg Iterator.session (Function.update_self _ _ _)).trans session
    · rw [Function.update_of_ne same] at member
      apply fetched.idle other entry member
      refine (inProgress_congr ?_ ?_).mp held
      · rfl
      · exact congrArg Iterator.session (Function.update_of_ne same _ _)

theorem Fetched.delivers (fetched : Fetched s) {entry : Nat} {rest : List Nat}
    (batch : (s.iterators consumer).stage.batch = entry :: rest) :
    Fetched ((s.setStage consumer (s.iterators consumer).stage.rest).deliver consumer entry) := by
  have apart := fetched.nodup consumer
  have settled := fetched.idle consumer
  have left : (s.iterators consumer).stage.rest.batch = rest := by
    rw [Stage.batch_rest, batch]
    rfl
  rw [batch] at apart settled
  have remaining : Fetched (s.setStage consumer (s.iterators consumer).stage.rest) := by
    apply fetched.moved
    · rw [left]
      exact (List.nodup_cons.mp apart).2
    · intro other member
      rw [left] at member
      exact ⟨rfl, settled other (List.mem_cons_of_mem _ member)⟩
  refine ⟨remaining.nodup, ?_⟩
  intro other place member held
  rcases inProgress_deliver.mp held with earlier | ⟨rfl, rfl⟩
  · exact remaining.idle other place member earlier
  · have member : place ∈ ((s.setStage other
        (s.iterators other).stage.rest).iterators other).stage.batch := member
    rw [State.setStage_self, left] at member
    exact (List.nodup_cons.mp apart).1 member

theorem Fetched.settled (fetched : Fetched s) {group : StreamGroup Str} {index : Nat} {d : Delivery}
    {flags : AckState} (settled : flags.Settled) :
    Fetched { s with
      group := group
      deliveries := s.deliveries.set index { d with ackState := flags } } where
  nodup := fetched.nodup
  idle := by
    intro other entry member held
    exact fetched.idle other entry member (inProgress_of_settled settled held)

theorem fetched_step {e : Event} (accounted : Accounted s) (fetched : Fetched s)
    (settled : ReadsSettled count s e) (taken : step count s e = some t) : Fetched t := by
  cases taken_of_step taken with
  | append => exact ⟨fetched.nodup, fetched.idle⟩
  | start consumer idle => exact fetched.moved List.nodup_nil nofun
  | close consumer =>
      apply fetched.moved
      · exact fetched.nodup consumer
      · exact fun entry member => ⟨rfl, fetched.idle consumer entry member⟩
  | stop consumer => exact fetched.moved List.nodup_nil nofun
  | leave consumer top closed => exact fetched.moved List.nodup_nil nofun
  | readPending consumer top returned =>
      apply fetched.moved
      · exact StreamGroup.pendingOf_nodup.sublist (List.take_sublist _ _)
      · intro entry member
        refine ⟨rfl, ?_⟩
        apply settled entry
        rw [returned]
        exact member
  | readNew consumer middle =>
      apply fetched.moved
      · exact StreamGroup.fresh_nodup
      · intro entry member
        refine ⟨rfl, ?_⟩
        intro held
        have owned := accounted.owned_of_inProgress held
        rw [List.getElem?_eq_none (StreamGroup.mem_fresh.mp member).1] at owned
        cases owned
  | yield consumer entry rest batch => exact fetched.delivers batch
  | refused e => exact fetched
  | ack index d found unsettled =>
      apply fetched.settled
      exact Or.inl rfl
  | nack index d found unsettled =>
      apply fetched.settled
      exact Or.inr rfl

theorem yield_settled {e : Event} (fetched : Fetched s) : YieldsSettled s e := by
  cases e with
  | yield consumer =>
      intro entry next
      exact fetched.idle consumer entry (List.mem_of_mem_head? next)
  | append | start | close | stop | readPending | readNew | ack | nack => exact trivial

theorem yielded_again {front rest : List Nat} {entry : Nat}
    (batch : (s.iterators consumer).stage.batch = front ++ entry :: rest)
    (held : InProgress s consumer entry) :
    ¬Along (step count) YieldsSettled s (List.replicate (front.length + 1) (.yield consumer)) := by
  induction front generalizing s with
  | nil =>
      rintro ⟨settled, -⟩
      apply settled entry _ held
      rw [batch]
      rfl
  | cons first front ih =>
      rintro ⟨-, remaining⟩
      have next := State.setStage_self s consumer (s.iterators consumer).stage.rest
      refine ih ?_ ?_ (remaining _ (step_yield count batch))
      · have left := congrArg (fun iterator => iterator.stage.batch) next
        exact left.trans (by rw [Stage.batch_rest, batch]; rfl)
      · apply inProgress_deliver.mpr
        left
        apply (inProgress_congr _ _).mpr held
        · rfl
        · rw [next]

theorem reread_in_progress (unsettled : ¬ReadsSettled count s (.readPending consumer)) :
    ∃ passes, ¬Along (step count) YieldsSettled s
      (.readPending consumer :: List.replicate passes (.yield consumer)) := by
  rw [ReadsSettled] at unsettled
  push Not at unsettled
  rcases unsettled with ⟨entry, returned, held⟩
  have taken := step_readPending returned
  rcases List.append_of_mem returned with ⟨front, rest, split⟩
  refine ⟨front.length + 1, ?_⟩
  rintro ⟨-, remaining⟩
  have again := remaining _ taken
  revert again
  apply yielded_again
  · rw [State.setStage_self]
    exact split
  · apply (inProgress_congr _ _).mpr held
    · rfl
    · rw [State.setStage_self]

theorem yields_settled_of_reads_settled {events : List Event}
    (guarded : Along (step count) (ReadsSettled count) initial events) :
    Along (step count) YieldsSettled initial events := by
  apply along_of_invariant (I := fun s => Accounted s ∧ Fetched s) _ _
    ⟨accounted_initial, fetched_initial⟩ guarded
  · intro s e t known settled taken
    exact ⟨accounted_step known.1 taken, fetched_step known.1 known.2 settled taken⟩
  · exact fun s e known _ => yield_settled known.2

theorem reads_settled_of_yields_settled {events : List Event}
    (yields : ∀ front, front <+: events → ∀ consumer passes,
      Along (step count) YieldsSettled s (front ++ List.replicate passes (.yield consumer))) :
    Along (step count) (ReadsSettled count) s events := by
  induction events generalizing s with
  | nil => trivial
  | cons e events ih =>
      constructor
      · cases e with
        | readPending consumer =>
            by_contra unsettled
            rcases reread_in_progress unsettled with ⟨passes, again⟩
            exact again (yields [.readPending consumer] ⟨events, rfl⟩ consumer passes)
        | append | start | close | stop | readNew | yield | ack | nack => trivial
      · intro t taken
        apply ih
        intro front inside consumer passes
        have whole := yields (e :: front) (List.cons_prefix_cons.mpr ⟨rfl, inside⟩) consumer passes
        exact whole.2 t taken

end Step

/-- Nothing in progress is yielded, in a run or where an iterator goes on from a point of it, if
and only if no read of what is pending returns an entry in progress. -/
theorem yields_settled_iff_reads_settled (count : Str → Nat) (events : List Event) :
    (∀ front, front <+: events → ∀ consumer passes, Along (step count) YieldsSettled initial
      (front ++ List.replicate passes (.yield consumer))) ↔
      Along (step count) (ReadsSettled count) initial events := by
  constructor
  · exact reads_settled_of_yields_settled
  · intro guarded front inside consumer passes
    apply yields_settled_of_reads_settled
    apply along_append.mpr
    refine ⟨along_front guarded inside, ?_⟩
    intro t _
    apply along_of_forall
    intro e member s
    rw [List.eq_of_mem_replicate member]
    trivial

/-- The iterator asks for the next message while the first one is in progress. -/
theorem entry_in_progress_yielded_again :
    ¬Along (step fun _ => 10) YieldsSettled initial
      [.append, .start [119], .readPending [119], .readNew [119], .yield [119],
        .readPending [119], .yield [119]] := by
  decide

end Natricine.Redis
