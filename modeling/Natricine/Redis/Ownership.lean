import Natricine.Redis.Subscriber

/-! Whose an entry is. Nothing moves an entry from one consumer to another: it is not delivered
yet, or acked, or pending for the consumer it was delivered to. -/

namespace Natricine.Redis

open ConsumerGroup PubSub Text Transition

def Acked (s : State) (entry : Nat) : Prop :=
  ∃ d ∈ s.deliveries, d.entry = entry ∧ d.ackState.acked = true

/-- The entry was delivered to the consumer and never acked, and no iterator of it runs. -/
def Orphaned (s : State) (consumer : Str) (entry : Nat) : Prop :=
  (s.iterators consumer).stage = .idle ∧ s.group.owners[entry]? = some consumer ∧ ¬Acked s entry

instance (s : State) (entry : Nat) : Decidable (Acked s entry) :=
  inferInstanceAs (Decidable (∃ d ∈ _, _))

instance (s : State) (consumer : Str) (entry : Nat) : Decidable (Orphaned s consumer entry) :=
  inferInstanceAs (Decidable (_ ∧ _))

structure Accounted (s : State) : Prop where
  fetched : ∀ consumer, ∀ entry ∈ (s.iterators consumer).stage.batch,
    s.group.owners[entry]? = some consumer
  delivered : ∀ d ∈ s.deliveries, s.group.owners[d.entry]? = some d.consumer
  pending : ∀ consumer entry, entry ∈ s.group.pendingOf consumer ↔
    s.group.owners[entry]? = some consumer ∧ ¬Acked s entry

theorem accounted_initial : Accounted initial where
  fetched := nofun
  delivered := nofun
  pending := by
    intro consumer entry
    constructor
    · exact nofun
    · exact nofun

section Step

variable {count : Str → Nat} {s t : State} {consumer : Str} {entry index : Nat} {d : Delivery}

theorem acked_after_ack (found : s.deliveries[index]? = some d) {group : StreamGroup Str} :
    Acked { s with
      group := group
      deliveries := s.deliveries.set index { d with ackState := ⟨true, false⟩ } } entry ↔
      Acked s entry ∨ entry = d.entry := by
  apply (Update.exists_mem_set_or_iff { d with ackState := ⟨true, false⟩ } found _).trans
  · apply or_congr_right
    constructor
    · exact fun here => here.1.symm
    · exact fun here => ⟨here.symm, rfl⟩
  · exact fun before => ⟨before.1, rfl⟩

theorem acked_after_nack (found : s.deliveries[index]? = some d)
    (unsettled : d.ackState = AckState.fresh) :
    Acked { s with
      deliveries := s.deliveries.set index { d with ackState := ⟨false, true⟩ } } entry ↔
      Acked s entry := by
  apply Update.exists_mem_set_iff _ found
  rw [unsettled]
  rfl

theorem Accounted.owned_of_acked (accounted : Accounted s) (acked : Acked s entry) :
    ∃ owner, s.group.owners[entry]? = some owner := by
  rcases acked with ⟨d, member, rfl, -⟩
  exact ⟨d.consumer, accounted.delivered d member⟩

theorem Accounted.moved (accounted : Accounted s) {iterator : Iterator}
    (batch : ∀ entry ∈ iterator.stage.batch, s.group.owners[entry]? = some consumer) :
    Accounted { s with iterators := Function.update s.iterators consumer iterator } where
  fetched := by
    intro other
    dsimp only
    rw [Function.update_apply]
    split
    · rename_i same
      rw [same]
      exact batch
    · exact accounted.fetched other
  delivered := accounted.delivered
  pending := accounted.pending

theorem Accounted.readNew (accounted : Accounted s) :
    Accounted { s with group := s.group.readNew consumer (count consumer) } where
  fetched := fun other entry member =>
    StreamGroup.owner_readNew.mpr (Or.inl (accounted.fetched other entry member))
  delivered := fun d member => StreamGroup.owner_readNew.mpr (Or.inl (accounted.delivered d member))
  pending := by
    intro other entry
    have before := accounted.pending other entry
    have unread : entry ∈ s.group.fresh (count consumer) → ¬Acked s entry := by
      intro member acked
      rcases accounted.owned_of_acked acked with ⟨owner, owned⟩
      have low := (StreamGroup.mem_fresh.mp member).1
      rw [List.getElem?_eq_none low] at owned
      cases owned
    rw [StreamGroup.owner_readNew]
    by_cases same : other = consumer
    · subst same
      rw [StreamGroup.pendingOf_readNew, List.mem_append, before]
      constructor
      · rintro (held | new)
        · exact ⟨Or.inl held.1, held.2⟩
        · exact ⟨Or.inr ⟨rfl, new⟩, unread new⟩
      · rintro ⟨owned | ⟨-, new⟩, unacked⟩
        · exact Or.inl ⟨owned, unacked⟩
        · exact Or.inr new
    · rw [StreamGroup.pendingOf_readNew_other same, before]
      constructor
      · exact fun held => ⟨Or.inl held.1, held.2⟩
      · rintro ⟨owned | ⟨own, -⟩, unacked⟩
        · exact ⟨owned, unacked⟩
        · exact absurd own same

theorem Accounted.delivers (accounted : Accounted s)
    (owned : s.group.owners[entry]? = some consumer) : Accounted (s.deliver consumer entry) where
  fetched := accounted.fetched
  delivered := by
    intro d member
    rcases List.mem_append.mp member with old | added
    · exact accounted.delivered d old
    · rw [List.mem_singleton.mp added]
      exact owned
  pending := by
    intro other place
    rw [show Acked (s.deliver consumer entry) place ↔ Acked s place from ?_]
    · exact accounted.pending other place
    · rw [Acked, State.deliver]
      simp [Acked, AckState.fresh, or_and_right, exists_or]

theorem Accounted.acks (accounted : Accounted s) (found : s.deliveries[index]? = some d) :
    Accounted { s with
      group := s.group.ack d.entry
      deliveries := s.deliveries.set index { d with ackState := ⟨true, false⟩ } } where
  fetched := accounted.fetched
  delivered := (Update.forall_mem_set_iff { d with ackState := ⟨true, false⟩ } found Iff.rfl).mpr
    accounted.delivered
  pending := by
    intro other entry
    rw [acked_after_ack found, StreamGroup.pendingOf_ack, List.mem_filter, accounted.pending,
      not_or, and_assoc, decide_eq_true_iff]
    rfl

theorem Accounted.nacks (accounted : Accounted s) (found : s.deliveries[index]? = some d)
    (unsettled : d.ackState = AckState.fresh) :
    Accounted { s with
      deliveries := s.deliveries.set index { d with ackState := ⟨false, true⟩ } } where
  fetched := accounted.fetched
  delivered := (Update.forall_mem_set_iff { d with ackState := ⟨false, true⟩ } found Iff.rfl).mpr
    accounted.delivered
  pending := by
    intro other entry
    rw [acked_after_nack found unsettled]
    exact accounted.pending other entry

theorem accounted_step {e : Event} (accounted : Accounted s) (taken : step count s e = some t) :
    Accounted t := by
  cases taken_of_step taken with
  | append => exact ⟨accounted.fetched, accounted.delivered, accounted.pending⟩
  | start consumer idle => exact accounted.moved nofun
  | close consumer => exact accounted.moved (accounted.fetched consumer)
  | stop consumer => exact accounted.moved nofun
  | leave consumer top closed => exact accounted.moved nofun
  | readPending consumer top returned =>
      apply accounted.moved
      intro entry member
      exact StreamGroup.owner_of_pending (List.mem_of_mem_take member)
  | readNew consumer middle =>
      apply accounted.readNew.moved
      intro entry member
      exact StreamGroup.owner_readNew.mpr (Or.inr ⟨rfl, member⟩)
  | yield consumer entry rest batch =>
      have owned := accounted.fetched consumer
      rw [batch] at owned
      apply Accounted.delivers
      · apply accounted.moved
        intro other member
        rw [Stage.batch_rest, batch] at member
        exact owned other (List.mem_cons_of_mem _ member)
      · exact owned entry List.mem_cons_self
  | refused e => exact accounted
  | ack index d found unsettled => exact accounted.acks found
  | nack index d found unsettled => exact accounted.nacks found unsettled

theorem accounted_exec {events : List Event} (run : exec (step count) initial events = some s) :
    Accounted s :=
  exec_preserves (fun _ _ _ => accounted_step) accounted_initial run

theorem owner_step {e : Event} (owned : s.group.owners[entry]? = some consumer)
    (taken : step count s e = some t) : t.group.owners[entry]? = some consumer := by
  cases taken_of_step taken with
  | readNew other middle => exact StreamGroup.owner_readNew.mpr (Or.inl owned)
  | append | start | close | stop | leave | readPending | yield | refused | ack | nack =>
      exact owned

theorem Accounted.not_read (accounted : Accounted s)
    (owned : s.group.owners[entry]? = some consumer) {other : Str} (differs : other ≠ consumer) :
    entry ∉ pendingRead count s other ∧ entry ∉ newRead count s other := by
  constructor
  · intro returned
    have pending := mem_pendingOf_of_mem_pendingRead returned
    have own := ((accounted.pending other entry).mp pending).1
    rw [owned] at own
    exact differs (Option.some.inj own).symm
  · intro returned
    have low := (StreamGroup.mem_fresh.mp (mem_fresh_of_mem_newRead returned)).1
    rw [List.getElem?_eq_none low] at owned
    cases owned

end Step

section Restart

variable {count : Str → Nat} {s : State} {consumer : Str} {entry : Nat}

/-- At the top of its outer loop. -/
def AtTop (s : State) (consumer : Str) : Prop :=
  (s.iterators consumer).stage = .delivering [] ∧ (s.iterators consumer).closed = false

theorem start_spec (count : Str → Nat) (idle : (s.iterators consumer).stage = .idle) :
    ∃ t, step count s (.start consumer) = some t ∧ t.group = s.group ∧ AtTop t consumer := by
  refine ⟨_, if_pos idle, rfl, ?_⟩
  rw [AtTop]
  dsimp only
  rw [Function.update_self]
  exact ⟨rfl, rfl⟩

theorem yield_spec (count : Str → Nat) {rest : List Nat}
    (batch : (s.iterators consumer).stage.batch = entry :: rest) :
    ∃ t d, step count s (.yield consumer) = some t ∧ t.group = s.group ∧
      t.iterators consumer =
        { s.iterators consumer with stage := (s.iterators consumer).stage.rest } ∧
      t.deliveries[s.deliveries.length]? = some d ∧ d.entry = entry ∧
      d.ackState = AckState.fresh :=
  ⟨_, _, step_yield count batch, rfl, State.setStage_self _ _ _, List.getElem?_concat_length,
    rfl, rfl⟩

theorem readNew_spec (count : Str → Nat)
    (middle : (s.iterators consumer).stage = .redelivering []) :
    ∃ t, step count s (.readNew consumer) = some t ∧
      t.group = s.group.readNew consumer (count consumer) ∧
      t.iterators consumer =
        { s.iterators consumer with stage := .delivering (s.group.fresh (count consumer)) } :=
  ⟨_, step_readNew count middle, rfl, State.setStage_self _ _ _⟩

theorem exec_yields (count : Str → Nat) {batch : List Nat}
    (waiting : (s.iterators consumer).stage.batch = batch) :
    ∃ t, exec (step count) s (List.replicate batch.length (.yield consumer)) = some t ∧
      t.group = s.group ∧ t.iterators consumer =
        { s.iterators consumer with stage := (s.iterators consumer).stage.emptied } := by
  induction batch generalizing s with
  | nil => exact ⟨s, rfl, rfl, by rw [Stage.emptied_of_batch waiting]⟩
  | cons entry rest ih =>
      rcases yield_spec count waiting with ⟨t, d, taken, group, next, -⟩
      have left : (t.iterators consumer).stage.batch = rest := by
        rw [next, Stage.batch_rest, waiting]
        rfl
      rcases ih left with ⟨u, run, same, iterator⟩
      refine ⟨u, exec_cons.mpr ⟨t, taken, run⟩, same.trans group, ?_⟩
      rw [iterator, next, Stage.emptied_rest]

theorem exec_rest_of_pass (count : Str → Nat) {batch : List Nat}
    (stage : (s.iterators consumer).stage = .redelivering batch)
    (opened : (s.iterators consumer).closed = false) :
    ∃ later t, exec (step count) s later = some t ∧ AtTop t consumer ∧
      t.group = s.group.readNew consumer (count consumer) := by
  rcases exec_yields count (congrArg Stage.batch stage) with ⟨t, redelivered, group, middle⟩
  rw [stage] at middle
  rcases readNew_spec count (congrArg Iterator.stage middle) with ⟨u, reading, new, started⟩
  rcases exec_yields count (congrArg (fun iterator => iterator.stage.batch) started) with
    ⟨v, delivered, same, top⟩
  refine ⟨_, v, exec_append.mpr ⟨t, redelivered, exec_cons.mpr ⟨u, reading, delivered⟩⟩, ?_, ?_⟩
  · rw [AtTop, top, started, middle]
    exact ⟨rfl, opened⟩
  · rw [same, new, group]

theorem exec_ack_first (positive : 0 < count consumer) (top : AtTop s consumer) {rest : List Nat}
    (pending : s.group.pendingOf consumer = entry :: rest) :
    ∃ later t batch, exec (step count) s later = some t ∧
      t.iterators consumer = { s.iterators consumer with stage := .redelivering batch } ∧
      t.group = s.group.ack entry := by
  have returned : pendingRead count s consumer = entry :: rest.take (count consumer - 1) := by
    rw [pendingRead_of_top top.1 top.2, pending, List.take_cons positive]
  have reading := step_readPending (returned ▸ List.mem_cons_self)
  have first := State.setStage_self s consumer (.redelivering (pendingRead count s consumer))
  have waiting := congrArg (fun iterator => iterator.stage.batch) first
  rcases yield_spec count (waiting.trans returned) with
    ⟨t, d, yielding, group, second, found, same, unsettled⟩
  rw [first] at second
  have acking := step_ack count found unsettled
  refine ⟨[.readPending consumer, .yield consumer, .ack s.deliveries.length], _, _,
    exec_cons.mpr ⟨_, reading, exec_cons.mpr ⟨t, yielding, exec_cons.mpr ⟨_, acking, rfl⟩⟩⟩,
    second, ?_⟩
  rw [group, same]
  rfl

theorem exec_pass (positive : 0 < count consumer) (top : AtTop s consumer) {rest : List Nat}
    (pending : s.group.pendingOf consumer = entry :: rest) :
    ∃ later t, exec (step count) s later = some t ∧ AtTop t consumer ∧
      ∃ new, t.group.pendingOf consumer = rest ++ new := by
  rcases exec_ack_first positive top pending with ⟨events, t, batch, acked, iterator, group⟩
  rcases exec_rest_of_pass count (congrArg Iterator.stage iterator)
    ((congrArg Iterator.closed iterator).trans top.2) with ⟨later, u, run, again, new⟩
  refine ⟨events ++ later, u, exec_append.mpr ⟨t, acked, run⟩, again,
    (s.group.ack entry).fresh (count consumer), ?_⟩
  rw [new, group, StreamGroup.pendingOf_readNew, StreamGroup.pendingOf_ack_first pending]

theorem exec_reads (positive : 0 < count consumer) (top : AtTop s consumer) {front back : List Nat}
    (pending : s.group.pendingOf consumer = front ++ entry :: back) :
    ∃ later t, exec (step count) s later = some t ∧ entry ∈ pendingRead count t consumer := by
  induction front generalizing s back with
  | nil =>
      refine ⟨[], s, rfl, ?_⟩
      rw [pendingRead_of_top top.1 top.2, pending]
      rw [List.nil_append, List.take_cons positive]
      exact List.mem_cons_self
  | cons first front ih =>
      rcases exec_pass positive top pending with ⟨events, t, run, again, new, left⟩
      have left : t.group.pendingOf consumer = front ++ entry :: (back ++ new) := by
        rw [left, ← List.cons_append, ← List.append_assoc]
        rfl
      rcases ih again left with ⟨later, u, rest, returned⟩
      exact ⟨events ++ later, u, exec_append.mpr ⟨t, run, rest⟩, returned⟩

end Restart

/-- An entry that a stopped consumer never acked stays pending for it, and no other consumer ever
reads it; a new iterator of its consumer can go on to read it. -/
theorem orphaned_entry_stays_with_consumer {count : Str → Nat} {consumer : Str}
    (positive : 0 < count consumer) {events : List Event} {s : State}
    (run : exec (step count) initial events = some s) {entry : Nat}
    (orphaned : Orphaned s consumer entry) :
    (∀ later t, exec (step count) s later = some t →
      (Acked t entry ∨ entry ∈ t.group.pendingOf consumer) ∧
        ∀ other, other ≠ consumer →
          entry ∉ pendingRead count t other ∧ entry ∉ newRead count t other) ∧
    ∃ later t, exec (step count) s (.start consumer :: later) = some t ∧
      entry ∈ pendingRead count t consumer := by
  rcases orphaned with ⟨idle, owned, unacked⟩
  have accounted := accounted_exec run
  constructor
  · intro later t further
    have accounted : Accounted t :=
      exec_preserves (fun _ _ _ => accounted_step) accounted further
    have owned : t.group.owners[entry]? = some consumer :=
      exec_preserves (I := fun t => t.group.owners[entry]? = some consumer)
        (fun _ _ _ => owner_step) owned further
    refine ⟨?_, fun other differs => accounted.not_read owned differs⟩
    by_cases acked : Acked t entry
    · exact Or.inl acked
    · exact Or.inr ((accounted.pending consumer entry).mpr ⟨owned, acked⟩)
  · have pending := (accounted.pending consumer entry).mpr ⟨owned, unacked⟩
    rcases List.append_of_mem pending with ⟨front, back, split⟩
    rcases start_spec count idle with ⟨t, starting, group, top⟩
    rw [← group] at split
    rcases exec_reads positive top split with ⟨later, u, further, returned⟩
    exact ⟨later, u, exec_cons.mpr ⟨t, starting, further⟩, returned⟩

theorem orphaned_entry_read_again :
    ∃ s, exec (step fun _ => 10) initial
        [.append, .start [119], .readPending [119], .readNew [119], .yield [119], .stop [119]] =
          some s ∧
      ∃ later t, exec (step fun _ => 10) s (.start [119] :: later) = some t ∧
        0 ∈ pendingRead (fun _ => 10) t [119] := by
  have stopped : ∃ s ∈ exec (step fun _ => 10) initial
      [.append, .start [119], .readPending [119], .readNew [119], .yield [119], .stop [119]],
      Orphaned s [119] 0 := by decide
  rcases stopped with ⟨s, run, orphaned⟩
  exact ⟨s, run, (orphaned_entry_stays_with_consumer (by decide) run orphaned).2⟩

/-- The first worker stops with the entry unacked; whatever happens from there on, no read of the
second one returns it. -/
theorem orphaned_entry_not_read_by_other_worker :
    ∃ s, exec (step fun _ => 10) initial
        [.append, .start [119], .start [120], .readPending [119], .readNew [119], .yield [119],
          .stop [119]] = some s ∧
      Orphaned s [119] 0 ∧ (s.iterators [120]).stage ≠ .idle ∧
        ∀ later t, exec (step fun _ => 10) s later = some t →
          0 ∉ pendingRead (fun _ => 10) t [120] ∧ 0 ∉ newRead (fun _ => 10) t [120] := by
  have stopped : ∃ s ∈ exec (step fun _ => 10) initial
      [.append, .start [119], .start [120], .readPending [119], .readNew [119], .yield [119],
        .stop [119]],
      Orphaned s [119] 0 ∧ (s.iterators [120]).stage ≠ .idle := by decide
  rcases stopped with ⟨s, run, orphaned, live⟩
  refine ⟨s, run, orphaned, live, ?_⟩
  intro later t further
  have accounted : Accounted t :=
    exec_preserves (fun _ _ _ => accounted_step) (accounted_exec run) further
  have owned : t.group.owners[0]? = some [119] :=
    exec_preserves (I := fun t => t.group.owners[0]? = some [119])
      (fun _ _ _ => owner_step) orphaned.2.1 further
  exact accounted.not_read owned (by decide)

end Natricine.Redis
