import Natricine.Aws.Deliveries
import Natricine.Router.RunHandler

/-! The loops of routers over the iterators of one queue, run after run. While a handler works on
its message, the other routers go on. -/

namespace Natricine.Aws.Polling

open PubSub Service Text Transition Update

/-- What becomes of a message that was yielded: somebody settles it, or the turn of the loop that
was given it ends. -/
inductive Doing where
  | settles (acks : Bool)
  | ends (delivery : Router.Delivery)
  deriving DecidableEq, Repr

/-- What is asked for a message that nobody has settled before: an ack, or a nack. -/
def Doing.asks : Doing → Option Bool
  | .settles acks => some acks
  | .ends delivery =>
      if delivery.closing then some false
      else
        match delivery.handler with
        | .returned _ => some true
        | .raised _ => some false
        | .cancelled => none

/-- What was asked first for the message at the place. -/
def firstAsked (journal : List (Nat × Doing)) (place : Nat) : Option Bool :=
  journal.findSome? fun entry => if entry.1 = place then entry.2.asks else none

def flagsOf : Option Bool → AckState
  | some true => ⟨true, false⟩
  | some false => ⟨false, true⟩
  | none => AckState.fresh

/-- `current` is the message that the loop over an iterator is at. No code reads the `journal`, in
which each entry comes with the place of its message. -/
structure Sessions (ν : Type) where
  polling : State ν
  current : Nat → Option Nat
  journal : List (Nat × Doing)

/-- `start` is a new run of a router; a crash ends its iterator wherever it is. `settle` is the call
of whoever was handed the message, while its turn lasts or later. -/
inductive LoopEvent where
  | start (subscriber : Nat)
  | close (subscriber : Nat)
  | crash (iterator : Nat)
  | receive (iterator : Nat) (answer : List (SqsMessage × Option Str))
  | next (iterator : Nat) (uuid4 : BitVec 128)
  | settle (place : Nat) (acks : Bool)
  | finish (iterator : Nat) (delivery : Router.Delivery)

variable {ν : Type}

def idle : Sessions ν := ⟨initial, fun _ => none, []⟩

def State.yieldedBy (s : State ν) (i : Nat) : List Nat :=
  (s.iterators[i]?.map Iterator.yielded).getD []

def yieldedBetween (s t : State ν) (i : Nat) : Option Nat :=
  ((t.yieldedBy i).drop (s.yieldedBy i).length).head?

def settling (place : Nat) (acks : Bool) : Event := if acks then .ack place else .nack place

/-- The call behind the flags that a turn has left. One that the handler has made before is refused
now. -/
def settlement (place : Nat) (flags : AckState) : List Event :=
  if flags.acked then [.ack place] else if flags.nacked then [.nack place] else []

def finish (unmarshal : Unmarshal ν) (handler : Handler) (s : State ν) (i place : Nat)
    (delivery : Router.Delivery) : Option (State ν) :=
  let ended := Router.receive handler delivery
  exec (step unmarshal) s
    (settlement place ended.2.ackState ++ if ended.1 then [] else [.stop i])

def loopStep (unmarshal : Unmarshal ν) (handler : Nat → Handler) (s : Sessions ν) :
    LoopEvent → Option (Sessions ν)
  | .start subscriber =>
      (step unmarshal s.polling (.subscribe subscriber)).map (⟨·, s.current, s.journal⟩)
  | .close subscriber =>
      (step unmarshal s.polling (.close subscriber)).map (⟨·, s.current, s.journal⟩)
  | .crash i =>
      (step unmarshal s.polling (.stop i)).map
        (⟨·, Function.update s.current i none, s.journal⟩)
  | .receive i answer =>
      (step unmarshal s.polling (.receive i answer)).map (⟨·, s.current, s.journal⟩)
  | .next i uuid4 =>
      if s.current i = none then
        (step unmarshal s.polling (.next i uuid4)).map fun polling =>
          ⟨polling, Function.update s.current i (yieldedBetween s.polling polling i), s.journal⟩
      else none
  | .settle place acks =>
      (step unmarshal s.polling (settling place acks)).map
        (⟨·, s.current, s.journal ++ [(place, .settles acks)]⟩)
  | .finish i delivery =>
      match s.current i with
      | some place =>
          if (s.polling.received[place]?).map Received.ackState = some delivery.ownSettlement then
            (finish unmarshal (handler i) s.polling i place delivery).map
              (⟨·, Function.update s.current i none, s.journal ++ [(place, .ends delivery)]⟩)
          else none
      | none => none

section Flags

variable {unmarshal : Unmarshal ν} {s t : State ν} {place : Nat} {entry : Received ν}

theorem eq_none_of_flagsOf {asked : Option Bool} (fresh : flagsOf asked = AckState.fresh) :
    asked = none := by
  rcases asked with _ | _ | _
  · rfl
  · cases fresh
  · cases fresh

theorem firstAsked_append (journal : List (Nat × Doing)) (other : Nat) (doing : Doing) :
    firstAsked (journal ++ [(other, doing)]) place =
      (firstAsked journal place).or (if other = place then doing.asks else none) := by
  rw [firstAsked, List.findSome?_append, List.findSome?_singleton]
  rfl

theorem firstAsked_unknown {journal : List (Nat × Doing)}
    (unknown : ∀ noted ∈ journal, noted.1 ≠ place) : firstAsked journal place = none := by
  apply List.findSome?_eq_none_iff.mpr
  intro noted member
  exact if_neg (unknown noted member)

theorem set_listed (listed : s.received[place]? = some entry) :
    s.received.set place entry = s.received := by
  rcases List.getElem?_eq_some_iff.mp listed with ⟨below, rfl⟩
  exact List.set_getElem_self below

/-- What settles no message leaves the flags of all, and those of new ones are fresh. -/
theorem flags_of_step {e : Event} (taken : step unmarshal s e = some t)
    (unsettling : ∀ place acks, e ≠ settling place acks) (listed : t.received[place]? = some entry) :
    (∃ old, s.received[place]? = some old ∧ old.ackState = entry.ackState) ∨
      s.received.length ≤ place ∧ entry.ackState = AckState.fresh := by
  cases taken_of_step taken with
  | subscribe | close | stop | done | raise | refused => exact Or.inl ⟨entry, listed, rfl⟩
  | receive found polling =>
      rcases receive_cases listed with before | ⟨new, answered, -, rfl⟩
      · exact Or.inl ⟨entry, before, rfl⟩
      · exact Or.inr ⟨(List.mem_range'_1.mp new).1, rfl⟩
  | yield found looping there made =>
      rcases getElem?_set_cases _ listed with ⟨rfl, rfl⟩ | ⟨-, old⟩
      · exact Or.inl ⟨_, there, rfl⟩
      · exact Or.inl ⟨entry, old, rfl⟩
  | @acked place => exact absurd rfl (unsettling place true)
  | @nacked place => exact absurd rfl (unsettling place false)

theorem length_of_step {e : Event} (taken : step unmarshal s e = some t) :
    s.received.length ≤ t.received.length := by
  cases taken_of_step taken with
  | subscribe | close | stop | done | raise | refused => exact Nat.le_refl _
  | receive found polling => simp [receive]
  | yield | acked | nacked => simp [yielded]

theorem listed_of_settling {acks : Bool}
    (taken : step unmarshal s (settling place acks) = some t) :
    ∃ entry, s.received[place]? = some entry := by
  cases acks with
  | true =>
      rcases settle_cases taken with ⟨entry, listed, -⟩
      exact ⟨entry, listed⟩
  | false =>
      rcases settle_cases taken with ⟨entry, listed, -⟩
      exact ⟨entry, listed⟩

theorem settling_step {acks : Bool} (listed : s.received[place]? = some entry)
    (taken : step unmarshal s (settling place acks) = some t) :
    t.received = s.received.set place
      { entry with
        ackState := if entry.ackState = AckState.fresh then flagsOf (some acks)
          else entry.ackState } := by
  have moved := taken_of_step taken
  generalize called : settling place acks = e at moved
  cases moved with
  | refused asked there settled =>
      rename_i other old
      have same : other = place := by
        cases acks <;> rcases asked with rfl | rfl <;> cases called <;> rfl
      subst same
      rw [listed] at there
      cases there
      rw [if_neg settled]
      exact (set_listed listed).symm
  | acked there yielded fresh =>
      cases acks with
      | false => cases called
      | true =>
          cases called
          rw [listed] at there
          cases there
          rw [if_pos fresh]
          rfl
  | nacked there yielded fresh =>
      cases acks with
      | true => cases called
      | false =>
          cases called
          rw [listed] at there
          cases there
          rw [if_pos fresh]
          rfl
  | subscribe | close | stop | receive | done | raise | yield => cases acks <;> cases called

theorem settlement_flagsOf (place : Nat) (acks : Bool) :
    settlement place (flagsOf (some acks)) = [settling place acks] := by
  cases acks <;> rfl

theorem settlement_cases (place : Nat) (flags : AckState) :
    settlement place flags = [] ∨ ∃ acks, settlement place flags = [settling place acks] := by
  rw [settlement]
  split
  · exact Or.inr ⟨true, rfl⟩
  · split
    · exact Or.inr ⟨false, rfl⟩
    · exact Or.inl rfl

/-- The call that follows on a turn leaves the flags of a message that was settled before, and else
gives it those that the turn has left. -/
theorem settlement_exec {flags : AckState} {asked : Option Bool}
    (listed : s.received[place]? = some entry)
    (left : entry.ackState = AckState.fresh → flags = flagsOf asked)
    (run : exec (step unmarshal) s (settlement place flags) = some t) :
    t.received = s.received.set place
      { entry with
        ackState := if entry.ackState = AckState.fresh then flagsOf asked else entry.ackState } := by
  by_cases fresh : entry.ackState = AckState.fresh
  · rw [left fresh] at run
    cases asked with
    | none =>
        cases run
        have unmoved : flagsOf none = entry.ackState := fresh.symm
        rw [if_pos fresh, unmoved]
        exact (set_listed listed).symm
    | some acks =>
        rw [settlement_flagsOf, exec_singleton] at run
        exact settling_step listed run
  · rw [if_neg fresh]
    rcases settlement_cases place flags with silent | ⟨acks, spoken⟩
    · rw [silent] at run
      cases run
      exact (set_listed listed).symm
    · rw [spoken, exec_singleton] at run
      have moved := settling_step listed run
      rwa [if_neg fresh] at moved

end Flags

/-- What a run of the routers keeps: the flags of a message are those of what was asked first for
it. -/
structure Governed (unmarshal : Unmarshal ν) (s : Sessions ν) : Prop where
  sound : Sound unmarshal s.polling
  known : ∀ noted ∈ s.journal, noted.1 < s.polling.received.length
  flags : ∀ (place : Nat) entry, s.polling.received[place]? = some entry →
    entry.ackState = flagsOf (firstAsked s.journal place)

section Run

variable {unmarshal : Unmarshal ν} {handler : Nat → Handler} {s t : Sessions ν} {i place : Nat}
  {u v : State ν}

theorem idle_governed : Governed unmarshal (idle : Sessions ν) where
  sound := initial_sound
  known := fun _ member => absurd member List.not_mem_nil
  flags := fun _ _ listed => by cases listed

theorem Governed.move {e : Event} (current : Nat → Option Nat) (governed : Governed unmarshal s)
    (taken : step unmarshal s.polling e = some u)
    (unsettling : ∀ place acks, e ≠ settling place acks) :
    Governed unmarshal ⟨u, current, s.journal⟩ where
  sound := step_sound _ _ _ governed.sound taken
  known := fun noted member => (governed.known noted member).trans_le (length_of_step taken)
  flags := by
    intro place entry listed
    rcases flags_of_step taken unsettling listed with ⟨old, there, same⟩ | ⟨new, fresh⟩
    · rw [← same]
      exact governed.flags place old there
    · have unknown : ∀ noted ∈ s.journal, noted.1 ≠ place := by
        intro noted member same
        have below := governed.known noted member
        omega
      rw [fresh, firstAsked_unknown unknown]
      rfl

theorem Governed.note {flags : AckState} {entry : Received ν} {doing : Doing}
    (governed : Governed unmarshal s) (listed : s.polling.received[place]? = some entry)
    (left : entry.ackState = AckState.fresh → flags = flagsOf doing.asks)
    (run : exec (step unmarshal) s.polling (settlement place flags) = some u)
    (current : Nat → Option Nat) :
    Governed unmarshal ⟨u, current, s.journal ++ [(place, doing)]⟩ := by
  have moved := settlement_exec listed left run
  have below := (List.getElem?_eq_some_iff.mp listed).1
  refine ⟨exec_preserves step_sound governed.sound run, ?_, ?_⟩
  · intro noted member
    rw [moved, List.length_set]
    rcases List.mem_append.mp member with before | new
    · exact governed.known noted before
    · rw [List.mem_singleton.mp new]
      exact below
  · intro other now there
    rw [moved] at there
    rw [firstAsked_append]
    rcases getElem?_set_cases _ there with ⟨rfl, rfl⟩ | ⟨elsewhere, old⟩
    · have before := governed.flags other entry listed
      rw [if_pos rfl]
      dsimp only
      split
      · rename_i fresh
        rw [before] at fresh
        rw [eq_none_of_flagsOf fresh, Option.none_or]
      · rename_i settled
        cases first : firstAsked s.journal other with
        | none =>
            rw [first] at before
            exact absurd before settled
        | some acks =>
            rw [before, first]
            rfl
    · rw [if_neg (Ne.symm elsewhere), Option.or_none]
      exact governed.flags other now old

theorem Governed.finish {own : Handler} {delivery : Router.Delivery} {entry : Received ν}
    (governed : Governed unmarshal s) (listed : s.polling.received[place]? = some entry)
    (flags : entry.ackState = delivery.ownSettlement) (current : Nat → Option Nat)
    (ended : finish unmarshal own s.polling i place delivery = some u) :
    Governed unmarshal ⟨u, current, s.journal ++ [(place, .ends delivery)]⟩ := by
  rcases exec_append.mp ended with ⟨v, settled, stopped⟩
  have noted : Governed unmarshal ⟨v, current, s.journal ++ [(place, .ends delivery)]⟩ := by
    apply governed.note listed _ settled
    intro fresh
    rw [Router.receive_unsettled own (flags.symm.trans fresh), Doing.asks]
    split
    · rfl
    · cases delivery.handler <;> rfl
  split at stopped
  · cases stopped
    exact noted
  · apply noted.move current (exec_singleton.symm.trans stopped)
    exact fun _ acks => by cases acks <;> exact fun same => Event.noConfusion same

theorem step_governed {e : LoopEvent} (governed : Governed unmarshal s)
    (taken : loopStep unmarshal handler s e = some t) : Governed unmarshal t := by
  have moves {e : Event} {u : State ν} {current : Nat → Option Nat}
      (moved : step unmarshal s.polling e = some u) (other : ∀ place, e ≠ .ack place)
      (another : ∀ place, e ≠ .nack place) : Governed unmarshal ⟨u, current, s.journal⟩ := by
    apply governed.move current moved
    intro place acks
    cases acks with
    | true => exact other place
    | false => exact another place
  cases e with
  | start | close | receive =>
      simp only [loopStep] at taken
      rcases Option.map_eq_some_iff.mp taken with ⟨u, moved, rfl⟩
      exact moves moved (fun _ same => Event.noConfusion same)
        (fun _ same => Event.noConfusion same)
  | crash i =>
      rcases Option.map_eq_some_iff.mp taken with ⟨u, moved, rfl⟩
      exact moves moved (fun _ same => Event.noConfusion same)
        (fun _ same => Event.noConfusion same)
  | next i uuid4 =>
      simp only [loopStep] at taken
      split at taken
      · rcases Option.map_eq_some_iff.mp taken with ⟨u, moved, rfl⟩
        exact moves moved (fun _ same => Event.noConfusion same)
          (fun _ same => Event.noConfusion same)
      · cases taken
  | settle place acks =>
      rcases Option.map_eq_some_iff.mp taken with ⟨u, moved, rfl⟩
      rcases listed_of_settling moved with ⟨entry, listed⟩
      have run : exec (step unmarshal) s.polling
          (settlement place (flagsOf (Doing.settles acks).asks)) = some u := by
        rw [Doing.asks, settlement_flagsOf]
        exact exec_singleton.trans moved
      exact governed.note listed (fun _ => rfl) run _
  | finish i delivery =>
      simp only [loopStep] at taken
      split at taken
      · split at taken
        · rename_i flags
          rcases Option.map_eq_some_iff.mp flags with ⟨entry, listed, own⟩
          rcases Option.map_eq_some_iff.mp taken with ⟨u, ended, rfl⟩
          exact governed.finish listed own _ ended
        · cases taken
      · cases taken

end Run

end Natricine.Aws.Polling
