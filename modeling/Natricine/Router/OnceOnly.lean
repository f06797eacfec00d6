import Natricine.Router.OwnSettlement

/-! `Message.ack`, `Message.nack` and `Message.copy` under any interleaving of calls. A call stands
in its callback until the callback ends; what happens in between is up to the other calls. -/

namespace Natricine.Router.OnceOnly

open PubSub Service Transition

structure Held where
  message : Message
  callback : Settlement → Bool

/-- How far a call of `ack` or `nack` is: `refused` has the text of its `ValueError`, `returned`
whether it awaited a callback. -/
inductive Stage where
  | refused (text : String)
  | inCallback
  | returned (called : Bool)
  | raised (exn : Exn)
  deriving DecidableEq, Repr

namespace Stage

def passed : Stage → Bool
  | .refused _ => false
  | .inCallback | .returned _ | .raised _ => true

def pending : Stage → Bool
  | .inCallback => true
  | .refused _ | .returned _ | .raised _ => false

def completed : Stage → Bool
  | .returned called => called
  | .refused _ | .inCallback | .raised _ => false

def succeeded : Stage → Bool
  | .returned _ => true
  | .refused _ | .inCallback | .raised _ => false

def ended : Except Exn Unit → Stage
  | .ok _ => .returned true
  | .error exn => .raised exn

end Stage

structure Call where
  message : Nat
  settlement : Settlement
  stage : Stage
  deriving DecidableEq, Repr

structure State where
  messages : List Held
  calls : List Call

def State.empty : State := ⟨[], []⟩

inductive Event where
  | create (payload : Text.Bytes) (metadata : List (Text.Str × Text.Str)) (uuid : BitVec 128)
      (callback : Settlement → Bool)
  | copy (index : Nat)
  | settle (index : Nat) (settlement : Settlement)
  | callbackEnds (call : Nat) (outcome : Except Exn Unit)

def settle (s : State) (index : Nat) (settlement : Settlement) (held : Held) : State :=
  match guardOf settlement held.message.ackState with
  | .error text => { s with calls := s.calls ++ [⟨index, settlement, .refused text⟩] }
  | .ok flags =>
      { messages := s.messages.set index
          { held with message := { held.message with ackState := flags } }
        calls := s.calls ++ [⟨index, settlement,
          if held.callback settlement then .inCallback else .returned false⟩] }

def step (s : State) : Event → Option State
  | .create payload metadata uuid callback =>
      some { s with
        messages := s.messages ++ [⟨⟨payload, metadata, uuid, AckState.fresh⟩, callback⟩] }
  | .copy index =>
      s.messages[index]?.map fun held =>
        { s with messages := s.messages ++ [⟨held.message.copy, fun _ => false⟩] }
  | .settle index settlement => s.messages[index]?.map (settle s index settlement)
  | .callbackEnds index outcome =>
      match s.calls[index]? with
      | none => none
      | some call =>
          if call.stage = .inCallback then
            some { s with calls := s.calls.set index { call with stage := .ended outcome } }
          else none

def State.count (s : State) (index : Nat) (holds : Stage → Bool) : Nat :=
  s.calls.countP (fun call => call.message == index && holds call.stage)

/-- A message is not both acked and nacked, at most one of its callbacks has ever completed, and at
most one call is between its guard and its end. -/
def SettledOnce (s : State) : Prop :=
  ∀ (index : Nat) held, s.messages[index]? = some held →
    ¬(held.message.ackState.acked = true ∧ held.message.ackState.nacked = true) ∧
      s.count index Stage.completed ≤ 1 ∧ s.count index Stage.pending ≤ 1

def TooLate (s : State) (index : Nat) : Prop :=
  ∃ call ∈ s.calls, call.message = index ∧
    (call.stage.pending = true ∨ call.stage.succeeded = true)

/-- Such a call raises `ValueError`; it changes no message and invokes no callback. -/
def RefusesLate (s : State) (e : Event) : Prop :=
  ∀ (index : Nat) settlement, e = .settle index settlement → TooLate s index →
    ∃ text, step s e = some { s with calls := s.calls ++ [⟨index, settlement, .refused text⟩] }

def Settles (index : Nat) (e : Event) : Prop :=
  ∃ settlement, e = .settle index settlement

/-- A copy is a new message, unsettled; whatever follows, it stays so until it is settled itself,
and the original keeps its flags until that one is settled itself. -/
def CopiesApart (s : State) : Prop :=
  ∀ (index : Nat) held, s.messages[index]? = some held →
    ∃ copied, step s (.copy index) = some copied ∧ copied.calls = s.calls ∧
      copied.messages = s.messages ++ [⟨held.message.copy, fun _ => false⟩] ∧
      held.message.copy.ackState = AckState.fresh ∧
      ∀ (events : List Event) t, exec step copied events = some t →
        ((∀ e ∈ events, ¬Settles s.messages.length e) →
          t.messages[s.messages.length]? = some ⟨held.message.copy, fun _ => false⟩) ∧
        ((∀ e ∈ events, ¬Settles index e) → t.messages[index]? = some held)

section Step

variable {s t : State} {e : Event} {index : Nat} {held : Held} {call : Call}

theorem step_settle (found : s.messages[index]? = some held) (settlement : Settlement) :
    step s (.settle index settlement) = some (settle s index settlement held) := by
  rw [step, found, Option.map_some]

inductive Taken (s : State) : Event → State → Prop where
  | create (payload : Text.Bytes) (metadata : List (Text.Str × Text.Str)) (uuid : BitVec 128)
      (callback : Settlement → Bool) :
      Taken s (.create payload metadata uuid callback) { s with
        messages := s.messages ++ [⟨⟨payload, metadata, uuid, AckState.fresh⟩, callback⟩] }
  | copy {index : Nat} {held : Held} (found : s.messages[index]? = some held) :
      Taken s (.copy index)
        { s with messages := s.messages ++ [⟨held.message.copy, fun _ => false⟩] }
  | refused {index : Nat} {held : Held} {settlement : Settlement} {text : String}
      (found : s.messages[index]? = some held)
      (refused : guardOf settlement held.message.ackState = .error text) :
      Taken s (.settle index settlement)
        { s with calls := s.calls ++ [⟨index, settlement, .refused text⟩] }
  | settled {index : Nat} {held : Held} {settlement : Settlement}
      (found : s.messages[index]? = some held) (unsettled : held.message.ackState = AckState.fresh)
      {stage : Stage} (passed : stage.passed = true) :
      Taken s (.settle index settlement)
        { messages := s.messages.set index
            { held with message := { held.message with ackState := flagsOf settlement } }
          calls := s.calls ++ [⟨index, settlement, stage⟩] }
  | ended {index : Nat} {call : Call} {outcome : Except Exn Unit}
      (found : s.calls[index]? = some call) (waiting : call.stage = .inCallback) :
      Taken s (.callbackEnds index outcome)
        { s with calls := s.calls.set index { call with stage := .ended outcome } }

theorem taken_of_step (taken : step s e = some t) : Taken s e t := by
  cases e with
  | create payload metadata uuid callback =>
      cases taken
      exact Taken.create payload metadata uuid callback
  | copy index =>
      rcases Option.map_eq_some_iff.mp taken with ⟨held, found, rfl⟩
      exact Taken.copy found
  | settle index settlement =>
      rcases Option.map_eq_some_iff.mp taken with ⟨held, found, rfl⟩
      cases guarded : guardOf settlement held.message.ackState with
      | error text =>
          simp only [settle, guarded]
          exact Taken.refused found guarded
      | ok flags =>
          have unsettled := fresh_of_guardOf guarded
          rw [unsettled, guardOf_fresh] at guarded
          cases guarded
          simp only [settle, unsettled, guardOf_fresh]
          apply Taken.settled found unsettled
          split <;> rfl
  | callbackEnds index outcome =>
      rw [step] at taken
      cases found : s.calls[index]? with
      | none =>
          rw [found] at taken
          cases taken
      | some call =>
          simp only [found] at taken
          split at taken
          · rename_i waiting
            cases taken
            exact Taken.ended found waiting
          · cases taken

theorem count_append (s : State) (messages : List Held) (call : Call) (index : Nat)
    (holds : Stage → Bool) :
    State.count ⟨messages, s.calls ++ [call]⟩ index holds =
      s.count index holds + if call.message = index ∧ holds call.stage = true then 1 else 0 := by
  simp [State.count, List.countP_append, List.countP_singleton]

theorem passed_set {place : Nat} (found : s.calls[place]? = some call)
    (waiting : call.stage = .inCallback) (outcome : Except Exn Unit) (index : Nat) :
    State.count { s with calls := s.calls.set place { call with stage := .ended outcome } } index
        Stage.passed = s.count index Stage.passed := by
  let view : Call → Nat × Bool := fun other => (other.message, other.stage.passed)
  have same : view { call with stage := .ended outcome } = view call := by
    cases outcome <;> simp only [view, waiting, Stage.ended, Stage.passed]
  have mapped : ∀ calls : List Call,
      calls.countP (fun other => other.message == index && other.stage.passed) =
        (calls.map view).countP (fun pair => pair.1 == index && pair.2) := by
    intro calls
    rw [List.countP_map]
    rfl
  rw [State.count, State.count, mapped, mapped, Update.map_set_eq _ found same]

end Step

/-- The flags of a message tell whether a call about it has passed its guard, and no second one
has. -/
structure Guarded (s : State) : Prop where
  known : ∀ call ∈ s.calls, call.message < s.messages.length
  once : ∀ (index : Nat) held, s.messages[index]? = some held →
    (held.message.ackState = AckState.fresh ∧ s.count index Stage.passed = 0) ∨
      (∃ choice, held.message.ackState = flagsOf choice ∧ s.count index Stage.passed = 1)

theorem guarded_empty : Guarded State.empty where
  known _ member := absurd member List.not_mem_nil
  once _ _ found := absurd found nofun

section Guarded

variable {s t : State} {e : Event} {index : Nat} {held : Held} {call : Call}

theorem Guarded.add (inv : Guarded s) (unsettled : held.message.ackState = AckState.fresh) :
    Guarded { s with messages := s.messages ++ [held] } where
  known call member := by
    rw [List.length_append]
    exact Nat.lt_of_lt_of_le (inv.known call member) (Nat.le_add_right _ _)
  once index other found := by
    rcases Update.getElem?_append_cases _ found with ⟨here, same⟩ | before
    · left
      refine ⟨by rw [same, unsettled], ?_⟩
      apply List.countP_eq_zero.mpr
      intro call member
      have earlier := inv.known call member
      simp only [Bool.and_eq_true, beq_iff_eq]
      omega
    · exact inv.once index other before

theorem Guarded.refuse (inv : Guarded s) (bound : index < s.messages.length)
    (settlement : Settlement) (text : String) :
    Guarded { s with calls := s.calls ++ [⟨index, settlement, .refused text⟩] } where
  known call member := by
    rcases List.mem_append.mp member with before | last
    · exact inv.known call before
    · rw [List.mem_singleton.mp last]
      exact bound
  once other message found := by
    rw [count_append, if_neg (fun both => nomatch both.2)]
    exact inv.once other message found

theorem Guarded.pass (inv : Guarded s) (found : s.messages[index]? = some held)
    (unsettled : held.message.ackState = AckState.fresh) (settlement : Settlement) {stage : Stage}
    (passed : stage.passed = true) :
    Guarded {
      messages := s.messages.set index
        { held with message := { held.message with ackState := flagsOf settlement } }
      calls := s.calls ++ [⟨index, settlement, stage⟩] } where
  known call member := by
    rw [List.length_set]
    rcases List.mem_append.mp member with before | last
    · exact inv.known call before
    · rw [List.mem_singleton.mp last]
      exact (List.getElem?_eq_some_iff.mp found).1
  once other message at_place := by
    rw [count_append]
    rcases Update.getElem?_set_cases _ at_place with ⟨rfl, rfl⟩ | ⟨different, before⟩
    · right
      refine ⟨settlement, rfl, ?_⟩
      rcases inv.once _ held found with ⟨-, none⟩ | ⟨choice, settled, -⟩
      · rw [none, if_pos ⟨rfl, passed⟩]
      · rw [unsettled] at settled
        exact absurd settled.symm (flagsOf_ne_fresh choice)
    · rw [if_neg (fun both => different both.1.symm)]
      exact inv.once other message before

theorem guarded_step (inv : Guarded s) (taken : step s e = some t) : Guarded t := by
  cases taken_of_step taken with
  | create payload metadata uuid callback => exact inv.add rfl
  | copy found => exact inv.add rfl
  | refused found refused =>
      exact inv.refuse (List.getElem?_eq_some_iff.mp found).1 _ _
  | settled found unsettled passed => exact inv.pass found unsettled _ passed
  | @ended place call outcome found waiting =>
      constructor
      · intro other member
        rcases List.mem_or_eq_of_mem_set member with before | rfl
        · exact inv.known other before
        · exact inv.known call (List.mem_of_getElem? found)
      · intro index held at_place
        rw [passed_set found waiting]
        exact inv.once index held at_place

theorem Guarded.most (inv : Guarded s) (found : s.messages[index]? = some held)
    {holds : Stage → Bool} (implies : ∀ stage, holds stage = true → stage.passed = true) :
    s.count index holds ≤ 1 := by
  have fewer : s.count index holds ≤ s.count index Stage.passed := by
    apply List.countP_mono_left
    intro call _ both
    simp only [Bool.and_eq_true] at both ⊢
    exact ⟨both.1, implies _ both.2⟩
  rcases inv.once index held found with ⟨-, counted⟩ | ⟨choice, -, counted⟩ <;> omega

theorem Guarded.settledOnce (inv : Guarded s) : SettledOnce s := by
  intro index held found
  refine ⟨?_, ?_, ?_⟩
  · rintro ⟨acked, nacked⟩
    rcases inv.once index held found with ⟨flags, -⟩ | ⟨choice, flags, -⟩
    · rw [flags] at acked
      cases acked
    · rw [flags] at acked nacked
      cases choice with
      | ack => cases nacked
      | nack => cases acked
  · apply inv.most found
    intro stage
    cases stage <;> simp [Stage.completed, Stage.passed]
  · apply inv.most found
    intro stage
    cases stage <;> simp [Stage.pending, Stage.passed]

theorem Guarded.refusesLate (inv : Guarded s) (e : Event) : RefusesLate s e := by
  rintro index settlement rfl ⟨call, member, rfl, late⟩
  have bound := inv.known call member
  have found := List.getElem?_eq_getElem bound
  rcases inv.once _ _ found with ⟨-, none⟩ | ⟨choice, settled, -⟩
  · have passed : call.stage.passed = true := by
      revert late
      cases call.stage <;> simp [Stage.pending, Stage.succeeded, Stage.passed]
    have never := List.countP_eq_zero.mp none call member
    simp only [beq_self_eq_true, passed, Bool.and_self, not_true_eq_false] at never
  · rcases guardOf_settled settlement choice with ⟨text, refused⟩
    refine ⟨text, ?_⟩
    rw [step_settle found]
    simp only [settle, settled, refused]

theorem message_step (taken : step s e = some t) (untouched : ¬Settles index e)
    (found : s.messages[index]? = some held) : t.messages[index]? = some held := by
  cases taken_of_step taken with
  | create => exact Update.getElem?_append_of_some _ found
  | copy => exact Update.getElem?_append_of_some _ found
  | refused => exact found
  | @settled other message settlement at_place unsettled stage passed =>
      rw [List.getElem?_set_ne]
      · exact found
      · rintro rfl
        exact untouched ⟨settlement, rfl⟩
  | ended => exact found

theorem message_exec {events : List Event} (run : exec step s events = some t)
    (untouched : ∀ e ∈ events, ¬Settles index e) (found : s.messages[index]? = some held) :
    t.messages[index]? = some held := by
  have guarded : Along step (fun _ e => ¬Settles index e) s events :=
    along_of_forall (fun e member _ => untouched e member) s
  exact exec_invariant (fun _ _ _ here apart taken => message_step taken apart here) found guarded
    run

theorem copiesApart (s : State) : CopiesApart s := by
  intro index held found
  refine ⟨{ s with messages := s.messages ++ [⟨held.message.copy, fun _ => false⟩] },
    by rw [step, found, Option.map_some], rfl, rfl, rfl, ?_⟩
  intro events t run
  constructor
  · intro untouched
    exact message_exec run untouched List.getElem?_concat_length
  · intro untouched
    exact message_exec run untouched (Update.getElem?_append_of_some _ found)

end Guarded

/-- In every run of any number of messages and calls, each message is settled once only, a call
that comes late is refused and changes nothing, and a copy is settled apart from its original. -/
theorem settled_once_only (events : List Event) :
    Throughout step SettledOnce State.empty events ∧
      Along step RefusesLate State.empty events ∧
      Throughout step CopiesApart State.empty events := by
  refine ⟨?_, ?_, fun t _ => copiesApart t⟩
  · intro t visited
    exact (visits_preserves (fun _ _ _ => guarded_step) guarded_empty visited).settledOnce
  · apply along_of_invariant (P := fun _ _ => True) (I := Guarded) _ _ guarded_empty
      (along_of_forall (fun _ _ _ => trivial) _)
    · exact fun _ _ _ inv _ => guarded_step inv
    · exact fun _ e inv _ => inv.refusesLate e

end Natricine.Router.OnceOnly
