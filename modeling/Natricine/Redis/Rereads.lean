import Natricine.Redis.Ownership

namespace Natricine.Redis

open ConsumerGroup PubSub Text Transition

/-- The event yields another entry, or none. -/
def YieldsOther (entry : Nat) (s : State) : Event → Prop
  | .yield consumer => (s.iterators consumer).stage.batch.head? ≠ some entry
  | .append | .start _ | .close _ | .stop _ | .readPending _ | .readNew _ | .ack _ | .nack _ => True

/-- No iterator has fetched the entry and still to yield it. -/
def Unfetched (s : State) (entry : Nat) : Prop :=
  ∀ consumer, entry ∉ (s.iterators consumer).stage.batch

section Fetched

variable {count : Str → Nat} {s t : State} {consumer : Str} {entry : Nat}

theorem Unfetched.moved {group : StreamGroup Str} {iterator : Iterator}
    (unfetched : Unfetched s entry) (left : entry ∉ iterator.stage.batch) :
    Unfetched { s with
      group := group
      iterators := Function.update s.iterators consumer iterator } entry := by
  intro other
  dsimp only
  rw [Function.update_apply]
  split
  · exact left
  · exact unfetched other

theorem unfetched_step {e : Event} (unfetched : Unfetched s entry)
    (unread : ∀ consumer, entry ∉ pendingRead count s consumer)
    (delivered : entry < s.group.owners.length) (taken : step count s e = some t) :
    Unfetched t entry := by
  cases taken_of_step taken with
  | append | refused | ack | nack => exact unfetched
  | start consumer idle => exact unfetched.moved List.not_mem_nil
  | close consumer => exact unfetched.moved (unfetched consumer)
  | stop consumer => exact unfetched.moved List.not_mem_nil
  | leave consumer top closed => exact unfetched.moved List.not_mem_nil
  | readPending consumer top returned =>
      apply unfetched.moved
      have unread := unread consumer
      rwa [returned] at unread
  | readNew consumer middle =>
      apply unfetched.moved
      intro new
      exact absurd (StreamGroup.mem_fresh.mp new).1 (Nat.not_le.mpr delivered)
  | yield consumer first rest batch =>
      have moved : Unfetched (s.setStage consumer (s.iterators consumer).stage.rest) entry := by
        apply unfetched.moved
        intro member
        rw [Stage.batch_rest] at member
        exact unfetched consumer (List.mem_of_mem_tail member)
      exact moved

theorem Unfetched.yieldsOther (unfetched : Unfetched s entry) (e : Event) :
    YieldsOther entry s e := by
  cases e with
  | yield consumer =>
      intro next
      exact unfetched consumer (List.mem_of_mem_head? next)
  | append | start | close | stop | readPending | readNew | ack | nack => exact trivial

theorem fetched_yielded {front rest : List Nat}
    (batch : (s.iterators consumer).stage.batch = front ++ entry :: rest) :
    ¬Along (step count) (YieldsOther entry) s
      (List.replicate (front.length + 1) (.yield consumer)) := by
  induction front generalizing s with
  | nil =>
      intro along
      apply along.1
      rw [batch]
      rfl
  | cons first front ih =>
      intro along
      rcases yield_spec count batch with ⟨t, d, taken, -, iterator, -⟩
      apply ih _ (along.2 t taken)
      rw [iterator, Stage.batch_rest, batch]
      rfl

end Fetched

theorem mem_take_of_mem_pendingRead {count : Str → Nat} {s : State} {consumer : Str} {entry : Nat}
    (returned : entry ∈ pendingRead count s consumer) :
    entry ∈ (s.group.pendingOf consumer).take (count consumer) := by
  rw [pendingRead] at returned
  split at returned
  · split at returned
    · cases returned
    · exact returned
  all_goals cases returned

section Acked

variable {count : Str → Nat} {s t : State} {entry : Nat}

theorem acked_step {e : Event} (acked : Acked s entry) (taken : step count s e = some t) :
    Acked t entry := by
  cases taken_of_step taken with
  | append | start | close | stop | leave | readPending | readNew | refused => exact acked
  | yield consumer first rest batch =>
      rcases acked with ⟨d, member, same, flag⟩
      exact ⟨d, List.mem_append_left _ member, same, flag⟩
  | ack index d found unsettled => exact (acked_after_ack found).mpr (Or.inl acked)
  | nack index d found unsettled => exact (acked_after_nack found unsettled).mpr acked

theorem Accounted.unread_of_acked (accounted : Accounted s) (acked : Acked s entry)
    (consumer : Str) : entry ∉ pendingRead count s consumer := by
  intro returned
  have pending := mem_pendingOf_of_mem_pendingRead returned
  exact ((accounted.pending consumer entry).mp pending).2 acked

theorem unfetched_of_owned {consumer : Str} (accounted : Accounted s)
    (owned : s.group.owners[entry]? = some consumer)
    (own : entry ∉ (s.iterators consumer).stage.batch) : Unfetched s entry := by
  intro other fetched
  have same := accounted.fetched other entry fetched
  rw [owned] at same
  cases same
  exact own fetched

theorem Accounted.delivered_of_acked (accounted : Accounted s) (acked : Acked s entry) :
    entry < s.group.owners.length := by
  rcases accounted.owned_of_acked acked with ⟨owner, owned⟩
  exact (List.getElem?_eq_some_iff.mp owned).1

end Acked

theorem Accounted.unyielded_of_acked (accounted : Accounted s) (acked : Acked s entry)
    (unfetched : Unfetched s entry) (later : List Event) :
    Along (step count) (YieldsOther entry) s later := by
  apply along_of_invariant (P := fun _ _ => True)
    (I := fun s => Accounted s ∧ Acked s entry ∧ Unfetched s entry) _ _
    ⟨accounted, acked, unfetched⟩ (along_of_forall (fun _ _ _ => trivial) s)
  · intro s e t known _ taken
    rcases known with ⟨accounted, acked, unfetched⟩
    exact ⟨accounted_step accounted taken, acked_step acked taken,
      unfetched_step unfetched (accounted.unread_of_acked acked)
        (accounted.delivered_of_acked acked) taken⟩
  · exact fun s e known _ => known.2.2.yieldsOther e

/-- In every run, an entry that is acked is never yielded again, whatever follows, if and only if
no iterator has fetched it again before the ack and still to yield it. -/
theorem acked_unyielded_iff (count : Str → Nat) (events : List Event) (s : State) (entry : Nat)
    (run : exec (step count) initial events = some s) (acked : Acked s entry) :
    (∀ later, Along (step count) (YieldsOther entry) s later) ↔ Unfetched s entry := by
  constructor
  · intro always consumer fetched
    rcases List.append_of_mem fetched with ⟨front, rest, batch⟩
    exact fetched_yielded batch (always _)
  · exact (accounted_exec run).unyielded_of_acked acked

theorem acked_before_next_pass :
    ∃ s, exec (step fun _ => 10) initial
        [.append, .start [119], .readPending [119], .readNew [119], .yield [119], .ack 0] = some s ∧
      Acked s 0 ∧ Unfetched s 0 ∧ ∀ later, Along (step fun _ => 10) (YieldsOther 0) s later := by
  have acked : ∃ s ∈ exec (step fun _ => 10) initial
      [.append, .start [119], .readPending [119], .readNew [119], .yield [119], .ack 0],
      Acked s 0 ∧ s.group.owners[0]? = some [119] ∧
        (s.iterators [119]).stage.batch = [] := by decide
  rcases acked with ⟨s, run, acked, owned, empty⟩
  have unfetched := unfetched_of_owned (accounted_exec run) owned (by rw [empty]; simp)
  have unyielded := (acked_unyielded_iff (fun _ => 10) _ s 0 run acked).mpr unfetched
  exact ⟨s, run, acked, unfetched, unyielded⟩

section Backlog

variable {count : Str → Nat} {s t : State} {consumer : Str} {entry : Nat}

def older (s : State) (consumer : Str) (entry : Nat) : List Nat :=
  (s.group.pendingOf consumer).filter (fun other => other < entry)

structure Behind (count : Str → Nat) (consumer : Str) (entry : Nat) (s : State) : Prop where
  accounted : Accounted s
  owned : s.group.owners[entry]? = some consumer
  unfetched : Unfetched s entry
  backlog : count consumer ≤ (older s consumer entry).length

theorem Behind.unread (behind : Behind count consumer entry s) (other : Str) :
    entry ∉ pendingRead count s other := by
  intro returned
  by_cases same : other = consumer
  · subst same
    have pending := mem_pendingOf_of_mem_pendingRead returned
    have few := (StreamGroup.mem_take_pendingOf_iff pending).mp
      (mem_take_of_mem_pendingRead returned)
    exact absurd behind.backlog (Nat.not_le.mpr few)
  · exact (behind.accounted.not_read behind.owned same).1 returned

theorem older_readNew {reader : Str} (owned : s.group.owners[entry]? = some consumer)
    {iterators : Str → Iterator} :
    older { s with
      iterators := iterators
      group := s.group.readNew reader (count reader) } consumer entry = older s consumer entry := by
  rw [older, older]
  by_cases same : consumer = reader
  · subst same
    have later : (s.group.fresh (count consumer)).filter (fun other => other < entry) = [] := by
      apply List.filter_eq_nil_iff.mpr
      intro other new
      have low := (StreamGroup.mem_fresh.mp new).1
      have bound := (List.getElem?_eq_some_iff.mp owned).1
      simp only [decide_eq_true_eq]
      omega
    rw [StreamGroup.pendingOf_readNew, List.filter_append, later, List.append_nil]
  · rw [StreamGroup.pendingOf_readNew_other same]

theorem older_step {e : Event} (owned : s.group.owners[entry]? = some consumer)
    (unacking : ∀ index, e ≠ .ack index) (taken : step count s e = some t) :
    older t consumer entry = older s consumer entry := by
  cases taken_of_step taken with
  | readNew reader middle => exact older_readNew owned
  | ack index d found unsettled => exact absurd rfl (unacking index)
  | append | start | close | stop | leave | readPending | yield | refused | nack => rfl

theorem behind_step {e : Event} (behind : Behind count consumer entry s)
    (unacking : ∀ index, e ≠ .ack index) (taken : step count s e = some t) :
    Behind count consumer entry t where
  accounted := accounted_step behind.accounted taken
  owned := owner_step behind.owned taken
  unfetched := unfetched_step behind.unfetched behind.unread
    (List.getElem?_eq_some_iff.mp behind.owned).1 taken
  backlog := by
    rw [older_step behind.owned unacking taken]
    exact behind.backlog

end Backlog

/-- Where an iterator begins a pass, it can come to yield an entry of its consumer again without an
ack in between if and only if the entry is not acked and fewer older ones are pending than one read
returns. -/
theorem yielded_unacked_iff (count : Str → Nat) (events : List Event) (s : State) (consumer : Str)
    (entry : Nat) (run : exec (step count) initial events = some s) (top : AtTop s consumer)
    (owned : s.group.owners[entry]? = some consumer) :
    (∃ later, (∀ e ∈ later, ∀ index, e ≠ .ack index) ∧
        ¬Along (step count) (YieldsOther entry) s later) ↔
      ¬Acked s entry ∧ (older s consumer entry).length < count consumer := by
  have accounted := accounted_exec run
  have empty : entry ∉ (s.iterators consumer).stage.batch := by
    rw [top.1]
    exact List.not_mem_nil
  have unfetched := unfetched_of_owned accounted owned empty
  constructor
  · intro again
    rcases again with ⟨later, unacking, yields⟩
    constructor
    · intro acked
      exact yields (accounted.unyielded_of_acked acked unfetched later)
    · by_contra many
      apply yields
      have behind : Behind count consumer entry s :=
        ⟨accounted, owned, unfetched, Nat.not_lt.mp many⟩
      apply along_of_invariant (P := fun _ e => ∀ index, e ≠ .ack index)
        (I := Behind count consumer entry) _ _ behind
      · exact along_of_forall (fun e member _ => unacking e member) s
      · exact fun s e t behind unacking taken => behind_step behind unacking taken
      · exact fun s e behind _ => behind.unfetched.yieldsOther e
  · intro held
    have pending := (accounted.pending consumer entry).mpr ⟨owned, held.1⟩
    have returned : entry ∈ pendingRead count s consumer := by
      rw [pendingRead_of_top top.1 top.2]
      exact (StreamGroup.mem_take_pendingOf_iff pending).mpr held.2
    rcases List.append_of_mem returned with ⟨front, rest, batch⟩
    refine ⟨.readPending consumer :: List.replicate (front.length + 1) (.yield consumer), ?_, ?_⟩
    · intro e member index same
      rcases List.mem_cons.mp member with rfl | member
      · cases same
      · rw [List.eq_of_mem_replicate member] at same
        cases same
    · intro along
      have fetched := along.2 _ (step_readPending returned)
      apply fetched_yielded _ fetched
      · exact rest
      · rw [State.setStage_self]
        exact batch

theorem second_not_yielded_again :
    ∃ s, exec (step fun _ => 1) initial
        [.append, .append, .start [119], .readPending [119], .readNew [119], .yield [119],
          .readPending [119], .yield [119], .readNew [119], .yield [119]] = some s ∧
      AtTop s [119] ∧ s.group.owners[1]? = some [119] ∧
      ¬∃ later, (∀ e ∈ later, ∀ index, e ≠ .ack index) ∧
        ¬Along (step fun _ => 1) (YieldsOther 1) s later := by
  have held : ∃ s ∈ exec (step fun _ => 1) initial
      [.append, .append, .start [119], .readPending [119], .readNew [119], .yield [119],
        .readPending [119], .yield [119], .readNew [119], .yield [119]],
      AtTop s [119] ∧ s.group.owners[1]? = some [119] ∧ (older s [119] 1).length = 1 := by
    unfold AtTop
    decide
  rcases held with ⟨s, run, top, owned, backlog⟩
  refine ⟨s, run, top, owned, ?_⟩
  intro again
  have few := ((yielded_unacked_iff (fun _ => 1) _ s [119] 1 run top owned).mp again).2
  omega

end Natricine.Redis
