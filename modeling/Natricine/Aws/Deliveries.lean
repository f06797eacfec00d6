import Natricine.Aws.Attributes
import Natricine.Aws.Polling

namespace Natricine.Aws.Polling

open PubSub Text Transition Update

variable {ν : Type}

def Received.asks (entry : Received ν) : List Request :=
  match entry.ackState with
  | ⟨true, _⟩ => [.deleteMessage entry.receiptHandle]
  | ⟨false, true⟩ => [.changeMessageVisibility entry.receiptHandle]
  | ⟨false, false⟩ => []

def State.asked (s : State ν) (place : Nat) : List Request :=
  (s.requests.filter fun request => request.1 = place).map Prod.snd

/-- An iterator yields the messages of its answers, each once and in their order, and all of them
unless it ends before. -/
structure InOrder (s : State ν) (i : Nat) (iterator : Iterator) : Prop where
  ordered : iterator.given.Pairwise (· < ·)
  own : ∀ place ∈ iterator.given, ∃ entry, s.received[place]? = some entry ∧ entry.iterator = i
  begun : iterator.yielded <+: iterator.given
  whole : iterator.stage ≠ .ended → iterator.given = iterator.yielded ++ iterator.stage.batch

/-- What has become of a message of an answer: its iterator has it, it was made of what was received
once it is yielded, and it has asked for what its flags say. -/
structure Delivered (unmarshal : Unmarshal ν) (s : State ν) (place : Nat) (entry : Received ν) :
    Prop where
  given : ∃ iterator, s.iterators[entry.iterator]? = some iterator ∧ place ∈ iterator.given
  yielded : entry.message.isSome = true ↔
    ∃ iterator, s.iterators[entry.iterator]? = some iterator ∧ place ∈ iterator.yielded
  made : ∀ message ∈ entry.message, ∃ uuid4, unmarshal entry.sqsMsg uuid4 = .ok message
  settled : entry.ackState ≠ AckState.fresh → entry.message.isSome = true
  asked : s.asked place = entry.asks

structure Sound (unmarshal : Unmarshal ν) (s : State ν) : Prop where
  iterators : ∀ (i : Nat) iterator, s.iterators[i]? = some iterator → InOrder s i iterator
  received : ∀ (place : Nat) entry, s.received[place]? = some entry →
    Delivered unmarshal s place entry
  known : ∀ request ∈ s.requests, request.1 < s.received.length

section Step

variable {unmarshal : Unmarshal ν} {s t : State ν} {i place : Nat} {iterator : Iterator}
  {entry : Received ν}

theorem initial_sound : Sound unmarshal (initial : State ν) where
  iterators := fun i iterator found => by cases found
  received := fun place entry listed => by cases listed
  known := fun request member => absurd member List.not_mem_nil

theorem Delivered.moves (delivered : Delivered unmarshal s place entry)
    (more : ∀ iterator, s.iterators[entry.iterator]? = some iterator →
      ∃ other, t.iterators[entry.iterator]? = some other ∧
        (place ∈ iterator.given → place ∈ other.given) ∧
          (place ∈ iterator.yielded ↔ place ∈ other.yielded))
    (asked : t.asked place = s.asked place) : Delivered unmarshal t place entry where
  given := by
    rcases delivered.given with ⟨iterator, found, member⟩
    rcases more iterator found with ⟨other, there, given, -⟩
    exact ⟨other, there, given member⟩
  yielded := by
    rcases delivered.given with ⟨iterator, found, -⟩
    rcases more iterator found with ⟨other, there, -, yielded⟩
    rw [delivered.yielded]
    simp [found, there, yielded]
  made := delivered.made
  settled := delivered.settled
  asked := asked.trans delivered.asked

theorem InOrder.moves (inOrder : InOrder s i iterator)
    (kept : ∀ (place : Nat) entry, s.received[place]? = some entry →
      ∃ other, t.received[place]? = some other ∧ other.iterator = entry.iterator) :
    InOrder t i iterator where
  ordered := inOrder.ordered
  own := by
    intro place member
    rcases inOrder.own place member with ⟨entry, listed, own⟩
    rcases kept place entry listed with ⟨other, there, same⟩
    exact ⟨other, there, same.trans own⟩
  begun := inOrder.begun
  whole := inOrder.whole

theorem Sound.setIterator (sound : Sound unmarshal s) (found : s.iterators[i]? = some iterator)
    {stage : Stage} (emptied : stage = .ended ∨ (iterator.stage.batch = stage.batch ∧
      iterator.stage ≠ .ended)) :
    Sound unmarshal (s.setIterator i { iterator with stage := stage }) where
  iterators := by
    intro j other there
    rcases getElem?_set_cases _ there with ⟨rfl, rfl⟩ | ⟨-, before⟩
    · have inOrder := sound.iterators j iterator found
      refine ⟨inOrder.ordered, inOrder.own, inOrder.begun, ?_⟩
      intro live
      rcases emptied with ends | ⟨same, running⟩
      · exact absurd ends live
      · rw [← same]
        exact inOrder.whole running
    · exact (sound.iterators j other before).moves fun place entry listed => ⟨entry, listed, rfl⟩
  received := by
    intro place entry listed
    refine (sound.received place entry listed).moves ?_ rfl
    intro mine here
    by_cases same : entry.iterator = i
    · rw [same] at here ⊢
      rw [found] at here
      cases here
      exact ⟨_, List.getElem?_set_self (List.getElem?_eq_some_iff.mp found).1, id, Iff.rfl⟩
    · exact ⟨mine, (List.getElem?_set_ne (Ne.symm same)).trans here, id, Iff.rfl⟩
  known := sound.known

theorem InOrder.lt (inOrder : InOrder s i iterator) (member : place ∈ iterator.given) :
    place < s.received.length := by
  rcases inOrder.own place member with ⟨entry, listed, -⟩
  exact (List.getElem?_eq_some_iff.mp listed).1

theorem asked_of_unknown (known : ∀ request ∈ s.requests, request.1 < s.received.length)
    (unknown : s.received.length ≤ place) : s.asked place = [] := by
  have nothing : s.requests.filter (fun request => request.1 = place) = [] := by
    apply List.filter_eq_nil_iff.mpr
    intro request member
    have less := known request member
    simp only [decide_eq_true_eq]
    omega
  rw [State.asked, nothing]
  rfl

section Receive

variable {answer : List (SqsMessage × Option Str)}

theorem receive_listed (below : place < s.received.length) :
    (receive s i iterator answer).received[place]? = s.received[place]? :=
  List.getElem?_append_left below

theorem receive_cases (listed : (receive s i iterator answer).received[place]? = some entry) :
    s.received[place]? = some entry ∨
      (place ∈ List.range' s.received.length answer.length ∧
        ∃ answered ∈ answer, entry = received i answered) := by
  rcases Nat.lt_or_ge place s.received.length with below | above
  · exact Or.inl ((receive_listed below).symm.trans listed)
  · right
    have there : (answer.map (received i))[place - s.received.length]? = some entry :=
      (List.getElem?_append_right above).symm.trans listed
    rcases List.getElem?_eq_some_iff.mp there with ⟨bound, -⟩
    rcases List.mem_map.mp (List.mem_of_getElem? there) with ⟨answered, member, rfl⟩
    rw [List.length_map] at bound
    refine ⟨List.mem_range'_1.mpr ⟨above, ?_⟩, answered, member, rfl⟩
    omega

theorem InOrder.receive (inOrder : InOrder s i iterator) (polling : iterator.stage = .polling) :
    InOrder (receive s i iterator answer) i
      { iterator with
        stage :=
          if answer = [] then s.loopTest iterator
          else .looping (List.range' s.received.length answer.length)
        given := iterator.given ++ List.range' s.received.length answer.length } where
  ordered := by
    apply List.pairwise_append.mpr
    refine ⟨inOrder.ordered, List.pairwise_lt_range', ?_⟩
    intro place before other behind
    exact Nat.lt_of_lt_of_le (inOrder.lt before) (List.mem_range'_1.mp behind).1
  own := by
    intro place member
    rcases List.mem_append.mp member with before | new
    · rcases inOrder.own place before with ⟨entry, listed, own⟩
      exact ⟨entry, (receive_listed (inOrder.lt before)).trans listed, own⟩
    · rcases List.mem_range'_1.mp new with ⟨above, below⟩
      have bound : place - s.received.length < answer.length := by omega
      refine ⟨Polling.received i answer[place - s.received.length], ?_, rfl⟩
      apply (List.getElem?_append_right above).trans
      rw [List.getElem?_map, List.getElem?_eq_getElem bound]
      rfl
  begun := inOrder.begun.trans (List.prefix_append _ _)
  whole := by
    intro _
    have whole := inOrder.whole (by rw [polling]; nofun)
    rw [polling] at whole
    rw [whole]
    by_cases empty : answer = []
    · subst empty
      rw [if_pos rfl, State.loopTest]
      split <;> simp [Stage.batch]
    · rw [if_neg empty]
      simp [Stage.batch]

theorem Sound.receive (sound : Sound unmarshal s) (found : s.iterators[i]? = some iterator)
    (polling : iterator.stage = .polling) :
    Sound unmarshal (Polling.receive s i iterator answer) where
  iterators := by
    intro j other there
    rcases getElem?_set_cases _ there with ⟨rfl, rfl⟩ | ⟨-, before⟩
    · exact (sound.iterators j iterator found).receive polling
    · apply (sound.iterators j other before).moves
      intro place entry listed
      have below := (List.getElem?_eq_some_iff.mp listed).1
      exact ⟨entry, (receive_listed below).trans listed, rfl⟩
  received := by
    have here (other : Iterator) : (s.iterators.set i other)[i]? = some other :=
      List.getElem?_set_self (List.getElem?_eq_some_iff.mp found).1
    intro place entry listed
    rcases receive_cases listed with before | ⟨new, answered, member, rfl⟩
    · refine (sound.received place entry before).moves ?_ rfl
      intro mine there
      by_cases same : entry.iterator = i
      · rw [same] at there ⊢
        rw [found] at there
        cases there
        exact ⟨_, here _, List.mem_append_left _, Iff.rfl⟩
      · exact ⟨mine, (List.getElem?_set_ne (Ne.symm same)).trans there, id, Iff.rfl⟩
    · have above := (List.mem_range'_1.mp new).1
      have unasked : s.asked place = [] := asked_of_unknown sound.known above
      refine ⟨⟨_, here _, List.mem_append_right _ new⟩, ⟨nofun, ?_⟩, nofun,
        fun flags => absurd rfl flags, unasked⟩
      rintro ⟨mine, there, yielded⟩
      have same := (here _).symm.trans there
      cases same
      have inOrder := sound.iterators i iterator found
      have below := inOrder.lt (inOrder.begun.subset yielded)
      omega
  known := by
    intro request member
    apply Nat.lt_of_lt_of_le (sound.known request member)
    simp [Polling.receive]

end Receive

theorem Sound.yield {uuid4 : BitVec 128} {rest : List Nat} {message : Content ν}
    (sound : Sound unmarshal s) (found : s.iterators[i]? = some iterator)
    (looping : iterator.stage = .looping (place :: rest)) (listed : s.received[place]? = some entry)
    (made : unmarshal entry.sqsMsg uuid4 = .ok message) :
    Sound unmarshal (yielded s i iterator place rest entry message) := by
  have inOrder := sound.iterators i iterator found
  have whole : iterator.given = iterator.yielded ++ place :: rest := by
    have given := inOrder.whole (by rw [looping]; nofun)
    rwa [looping] at given
  have owned : entry.iterator = i := by
    rcases inOrder.own place (by simp [whole]) with ⟨other, there, own⟩
    rw [listed] at there
    cases there
    exact own
  have kept : ∀ (other : Nat) old, s.received[other]? = some old →
      ∃ new, (yielded s i iterator place rest entry message).received[other]? = some new ∧
        new.iterator = old.iterator := by
    intro other old there
    by_cases same : other = place
    · subst same
      rw [listed] at there
      cases there
      exact ⟨_, List.getElem?_set_self (List.getElem?_eq_some_iff.mp listed).1, rfl⟩
    · exact ⟨old, (List.getElem?_set_ne (Ne.symm same)).trans there, rfl⟩
  have here (other : Iterator) : (s.iterators.set i other)[i]? = some other :=
      List.getElem?_set_self (List.getElem?_eq_some_iff.mp found).1
  refine ⟨?_, ?_, ?_⟩
  · intro j other there
    rcases getElem?_set_cases _ there with ⟨rfl, rfl⟩ | ⟨-, before⟩
    · have goes := inOrder.moves kept
      refine ⟨goes.ordered, goes.own, ?_, ?_⟩
      · exact ⟨rest, by simp [whole]⟩
      · exact fun _ => by simp [whole, Stage.batch]
    · exact (sound.iterators j other before).moves kept
  · intro other old there
    rcases getElem?_set_cases _ there with ⟨rfl, rfl⟩ | ⟨differs, before⟩
    · have delivered := sound.received other entry listed
      have mine : (yielded s i iterator other rest entry message).iterators[entry.iterator]? =
          some { iterator with
            stage := .looping rest
            yielded := iterator.yielded ++ [other] } := by
        rw [owned]
        exact here _
      refine ⟨⟨_, mine, by simp [whole]⟩, ⟨fun _ => ⟨_, mine, by simp⟩, fun _ => rfl⟩, ?_,
        fun _ => rfl, delivered.asked⟩
      intro text same
      cases same
      exact ⟨uuid4, made⟩
    · refine (sound.received other old before).moves ?_ rfl
      intro mine its
      by_cases same : old.iterator = i
      · rw [same] at its ⊢
        rw [found] at its
        cases its
        exact ⟨_, here _, id, by simp [differs]⟩
      · exact ⟨mine, (List.getElem?_set_ne (Ne.symm same)).trans its, id, Iff.rfl⟩
  · intro request member
    rw [yielded, List.length_set]
    exact sound.known request member

theorem Sound.settle {flags : AckState} {request : Request} (sound : Sound unmarshal s)
    (listed : s.received[place]? = some entry) (yielded : entry.message.isSome = true)
    (fresh : entry.ackState = AckState.fresh)
    (asks : ({ entry with ackState := flags } : Received ν).asks = [request]) :
    Sound unmarshal
      { s with
        received := s.received.set place { entry with ackState := flags }
        requests := s.requests ++ [(place, request)] } where
  iterators := by
    intro j iterator found
    apply (sound.iterators j iterator found).moves
    intro other old there
    by_cases same : other = place
    · subst same
      rw [listed] at there
      cases there
      exact ⟨_, List.getElem?_set_self (List.getElem?_eq_some_iff.mp listed).1, rfl⟩
    · exact ⟨old, (List.getElem?_set_ne (Ne.symm same)).trans there, rfl⟩
  received := by
    intro other old there
    rcases getElem?_set_cases _ there with ⟨rfl, rfl⟩ | ⟨differs, before⟩
    · have delivered := sound.received other entry listed
      refine ⟨delivered.given, delivered.yielded, delivered.made, fun _ => yielded, ?_⟩
      have none_before : s.asked other = [] := by
        rw [delivered.asked, Received.asks, fresh]
        rfl
      rw [asks, State.asked, List.filter_append, List.map_append]
      rw [State.asked] at none_before
      rw [none_before]
      simp
    · have unmoved := sound.received other old before
      refine unmoved.moves (fun mine found => ⟨mine, found, id, Iff.rfl⟩) ?_
      rw [State.asked, State.asked, List.filter_append]
      simp [Ne.symm differs]
  known := by
    intro asked member
    dsimp only
    rw [List.length_set]
    rcases List.mem_append.mp member with before | last
    · exact sound.known asked before
    · rw [List.mem_singleton.mp last]
      exact (List.getElem?_eq_some_iff.mp listed).1

theorem step_sound (s : State ν) (e : Event) (t : State ν) (sound : Sound unmarshal s)
    (taken : step unmarshal s e = some t) : Sound unmarshal t := by
  cases taken_of_step taken with
  | @subscribe subscriber opened =>
      refine ⟨?_, ?_, sound.known⟩
      · intro i iterator found
        rcases getElem?_append_cases _ found with ⟨-, rfl⟩ | before
        · exact ⟨List.Pairwise.nil, fun place member => absurd member List.not_mem_nil,
            List.prefix_rfl, fun _ => rfl⟩
        · exact (sound.iterators i iterator before).moves fun place entry listed =>
            ⟨entry, listed, rfl⟩
      · intro place entry listed
        refine (sound.received place entry listed).moves ?_ rfl
        exact fun iterator found => ⟨iterator, getElem?_append_of_some _ found, id, Iff.rfl⟩
  | close =>
      refine ⟨?_, ?_, sound.known⟩
      · exact fun i iterator found =>
          (sound.iterators i iterator found).moves fun place entry listed => ⟨entry, listed, rfl⟩
      · exact fun place entry listed => (sound.received place entry listed).moves
          (fun iterator found => ⟨iterator, found, id, Iff.rfl⟩) rfl
  | stop found => exact sound.setIterator found (Or.inl rfl)
  | receive found polling => exact sound.receive found polling
  | done found looping =>
      apply sound.setIterator found
      rw [State.loopTest, looping]
      split
      · exact Or.inl rfl
      · exact Or.inr ⟨rfl, nofun⟩
  | raise found => exact sound.setIterator found (Or.inl rfl)
  | yield found looping listed made => exact sound.yield found looping listed made
  | refused asked listed settled => exact sound
  | acked listed yielded fresh => exact sound.settle listed yielded fresh rfl
  | nacked listed yielded fresh => exact sound.settle listed yielded fresh rfl

end Step

/-- Whatever a queue answers and however often it does, in every run of iterators that poll it: each
of them yields the messages of its answers in their order and each once, and all of them until it
ends; each message was made of what was received there, and asks the queue at most once for
anything, under its own receipt handle: to be deleted when it is acked, or to be given again when it
is nacked. -/
theorem yielded_and_settled_apart (unmarshal : Unmarshal ν) (events : List Event) (s : State ν)
    (run : exec (step unmarshal) initial events = some s) :
    (∀ (i : Nat) iterator, s.iterators[i]? = some iterator → InOrder s i iterator) ∧
      ∀ (place : Nat) entry, s.received[place]? = some entry →
        Delivered unmarshal s place entry := by
  have sound : Sound unmarshal s :=
    exec_preserves step_sound initial_sound run
  exact ⟨sound.iterators, sound.received⟩

/-- A queue answers with a message twice. The second delivery is acked, and the first one is nacked,
whose late ack is refused. -/
def settledLate (sqsMsg : SqsMessage) : List Event :=
  [.subscribe 0, .next 0 0, .receive 0 [(sqsMsg, some [1]), (sqsMsg, some [2])], .next 0 0,
    .next 0 0, .ack 1, .nack 0, .ack 0]

theorem settledLate_runs {unmarshal : Unmarshal ν} {sqsMsg : SqsMessage} {message : Content ν}
    (read : unmarshal sqsMsg 0 = .ok message) :
    ∃ s, exec (step unmarshal) initial (settledLate sqsMsg) = some s ∧
      s.received = [⟨0, sqsMsg, [1], some message, ⟨false, true⟩⟩,
        ⟨0, sqsMsg, [2], some message, ⟨true, false⟩⟩] :=
  ⟨_, exec_cons.mpr ⟨_, rfl, exec_cons.mpr ⟨_, rfl, exec_cons.mpr ⟨_, rfl, exec_cons.mpr
    ⟨_, step_yields rfl rfl rfl read, exec_cons.mpr ⟨_, step_yields rfl rfl rfl read,
    exec_cons.mpr ⟨_, rfl, exec_cons.mpr ⟨_, rfl, exec_cons.mpr ⟨_, rfl, rfl⟩⟩⟩⟩⟩⟩⟩⟩, rfl⟩

theorem created_settled_late :
    ∃ s, exec (step (fromSqsMessage ⟨fun _ => false, fun _ => none⟩ defaultUuidAttr)) initial
        (settledLate (publishArgs created defaultUuidAttr).received) = some s ∧
      s.asked 0 = [.changeMessageVisibility [1]] ∧ s.asked 1 = [.deleteMessage [2]] := by
  have apart : defaultUuidAttr ∈ created.metadata.keys → IsFifoKey defaultUuidAttr :=
    fun member => absurd member (by decide)
  rcases @read_published ⟨fun _ => false, fun _ => none⟩ created defaultUuidAttr 0 apart with
    ⟨payload, read⟩
  rcases settledLate_runs read with ⟨s, run, received⟩
  rcases yielded_and_settled_apart _ _ s run with ⟨-, delivered⟩
  refine ⟨s, run, ?_, ?_⟩
  · rw [(delivered 0 _ (by rw [received]; rfl)).asked]
    rfl
  · rw [(delivered 1 _ (by rw [received]; rfl)).asked]
    rfl

end Natricine.Aws.Polling
