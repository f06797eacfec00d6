import Natricine.PubSub.Memory

/-! `close` ends every subscription, whatever is under way when it is called and whatever comes
after it. -/

namespace Natricine.PubSub.Memory

open Text Transition

/-- An open stream is in the list of its topic, which `close` goes through, and on a closed one
nobody waits. -/
structure Listed (s : State) : Prop where
  listed : ∀ (r : Nat) sub, s.subscriptions[r]? = some sub → sub.sendClosed = false →
    s.closed = false ∧ sub.topic ∈ s.order ∧ r ∈ s.subscribers sub.topic
  deaf : ∀ sub ∈ s.subscriptions, sub.sendClosed = true → sub.receiving = false

theorem initial_listed : Listed initial where
  listed := fun _ _ found => by cases found
  deaf := fun _ member => absurd member List.not_mem_nil

theorem getElem?_closeStreams (listed : List Nat) (subscriptions : List Subscription) (r : Nat) :
    (closeStreams listed subscriptions)[r]? =
      subscriptions[r]?.map (fun sub => if r ∈ listed then sub.closeSend else sub) := by
  induction listed generalizing subscriptions with
  | nil =>
      rw [closeStreams, List.foldl_nil]
      simp
  | cons next listed ih =>
      have later := ih (subscriptions.modify next Subscription.closeSend)
      rw [closeStreams] at later ⊢
      rw [List.foldl_cons, later]
      by_cases here : next = r
      · subst here
        rw [List.getElem?_modify_eq]
        cases subscriptions[next]? with
        | none => rfl
        | some sub => simp [Subscription.closeSend]
      · rw [List.getElem?_modify_ne _ _ here]
        simp [List.mem_cons, Ne.symm here]

section Step

variable {bufferSize : Nat} {s t : State}

theorem Listed.set (inv : Listed s) {r : Nat} {sub served : Subscription}
    (present : s.subscriptions[r]? = some sub) (same : SameEnds served sub)
    (publications : List Publication) :
    Listed { s with
      subscriptions := s.subscriptions.set r served
      publications := publications } := by
  constructor
  · intro x other found opened
    rcases Update.getElem?_set_cases _ found with ⟨rfl, rfl⟩ | ⟨-, found⟩
    · rw [same.sends] at opened
      rw [same.topic]
      exact inv.listed _ sub present opened
    · exact inv.listed x other found opened
  · intro other member closed
    rcases List.mem_or_eq_of_mem_set member with member | rfl
    · exact inv.deaf other member closed
    · rw [same.sends] at closed
      by_contra receiving
      have waits := same.listens closed ((Bool.not_eq_false _).mp receiving)
      rw [inv.deaf sub (List.mem_of_getElem? present) closed] at waits
      cases waits

theorem Listed.abandon (inv : Listed s) (p r : Nat) (publications : List Publication) :
    Listed { s with
      subscriptions := s.subscriptions.modify r (fun sub =>
        { sub with senders := sub.senders.filter (fun entry => entry.1 ≠ p) })
      publications := publications } := by
  cases present : s.subscriptions[r]? with
  | none =>
      rw [List.modify_eq_self (List.getElem?_eq_none_iff.mp present)]
      exact ⟨inv.listed, inv.deaf⟩
  | some sub =>
      rw [Update.modify_eq_set _ present]
      apply inv.set present
      exact ⟨rfl, rfl, rfl, fun _ => id⟩

theorem Listed.subscribe (inv : Listed s) {topic : Str} (made : subscribe s topic = .ok t) :
    Listed t := by
  rw [Memory.subscribe] at made
  split at made
  · cases made
  · rename_i opened
    cases made
    constructor
    · intro r sub found unclosed
      refine ⟨(Bool.not_eq_true _).mp opened, ?_⟩
      rcases Update.getElem?_append_cases _ found with ⟨rfl, rfl⟩ | found
      · refine ⟨?_, ?_⟩
        · simp only [Subscription.new]
          split
          · assumption
          · exact List.mem_append_right _ (List.mem_singleton_self topic)
        · simp [Subscription.new]
      · rcases inv.listed r sub found unclosed with ⟨-, known, registered⟩
        refine ⟨?_, ?_⟩
        · split
          · exact known
          · exact List.mem_append_left _ known
        · dsimp only
          by_cases same : sub.topic = topic
          · rw [same, Function.update_self]
            rw [same] at registered
            exact List.mem_append_left _ registered
          · rwa [Function.update_of_ne same]
    · intro sub member closed
      rcases List.mem_append.mp member with member | member
      · exact inv.deaf sub member closed
      · rw [List.mem_singleton.mp member]
        rfl

theorem Listed.leave (inv : Listed s) {r : Nat} {sub : Subscription}
    (present : s.subscriptions[r]? = some sub) : Listed (leave s r sub) := by
  constructor
  · intro x other found opened
    rcases Update.getElem?_set_cases _ found with ⟨rfl, rfl⟩ | ⟨elsewhere, found⟩
    · cases opened
    · rcases inv.listed x other found opened with ⟨unclosed, known, registered⟩
      refine ⟨unclosed, known, ?_⟩
      simp only [Memory.leave]
      split
      · by_cases same : other.topic = sub.topic
        · rw [same, Function.update_self]
          rw [same] at registered
          exact (List.mem_erase_of_ne elsewhere).mpr registered
        · rwa [Function.update_of_ne same]
      · exact registered
  · intro other member closed
    rcases List.mem_or_eq_of_mem_set member with member | rfl
    · exact inv.deaf other member closed
    · rfl

theorem Listed.close (inv : Listed s) : Listed (close s) := by
  constructor
  · intro r sub found opened
    simp only [Memory.close, getElem?_closeStreams] at found
    rcases Option.map_eq_some_iff.mp found with ⟨before, there, rfl⟩
    by_cases passed : r ∈ s.order.flatMap s.subscribers
    · rw [if_pos passed] at opened
      cases opened
    · rw [if_neg passed] at opened
      rcases inv.listed r before there opened with ⟨-, known, registered⟩
      exact absurd (List.mem_flatMap.mpr ⟨_, known, registered⟩) passed
  · intro sub member closed
    rcases List.mem_iff_getElem?.mp member with ⟨r, found⟩
    simp only [Memory.close, getElem?_closeStreams] at found
    rcases Option.map_eq_some_iff.mp found with ⟨before, there, rfl⟩
    split
    · rfl
    · rename_i unlisted
      rw [if_neg unlisted] at closed
      exact inv.deaf before (List.mem_of_getElem? there) closed

theorem listed_step (s : State) (e : Event) (t : State) (inv : Listed s)
    (taken : step bufferSize s e = some t) : Listed t := by
  cases taken_of_step taken with
  | publish | finished | nextMessage | picked | failed | abandonReady =>
      exact ⟨inv.listed, inv.deaf⟩
  | refused => exact inv
  | sent found sending item present unqueued result =>
      exact inv.set present (send_ok result).1 _
  | abandon found sending => exact inv.abandon _ _ _
  | subscribe made => exact inv.subscribe made
  | receiveWaiting present | receiveBuffered present =>
      apply inv.set present
      exact ⟨rfl, rfl, rfl, fun _ => id⟩
  | receiveNone present opened =>
      apply inv.set present
      exact ⟨rfl, rfl, rfl, fun closed => absurd closed opened⟩
  | cancel present =>
      apply inv.set present
      exact ⟨rfl, rfl, rfl, nofun⟩
  | leave present => exact inv.leave present
  | close => exact inv.close

theorem closed_step (s : State) (e : Event) (t : State) (closed : s.closed = true)
    (taken : step bufferSize s e = some t) : t.closed = true := by
  cases taken_of_step taken with
  | subscribe made =>
      rw [subscribe, if_pos closed] at made
      cases made
  | close => rfl
  | _ => exact closed

end Step

/-- However many topics and subscribers there are, and whoever is woken, leaves or gives up: once
`close` has been called, every stream that `subscribe` made is closed and nobody waits on one. -/
theorem close_ends_every_subscription (bufferSize : Nat) (before after : List Event) (s : State)
    (run : exec (step bufferSize) initial (before ++ .close :: after) = some s) :
    ∀ sub ∈ s.subscriptions, sub.sendClosed = true ∧ sub.receiving = false := by
  have inv : Listed s := exec_preserves listed_step initial_listed run
  have closed : s.closed = true := by
    rcases exec_append.mp run with ⟨t, -, rest⟩
    rcases exec_cons.mp rest with ⟨u, closing, later⟩
    cases closing
    exact exec_preserves closed_step rfl later
  intro sub member
  have ended : sub.sendClosed = true := by
    rcases List.mem_iff_getElem?.mp member with ⟨r, found⟩
    by_contra opened
    rcases inv.listed r sub found ((Bool.not_eq_true _).mp opened) with ⟨unclosed, -⟩
    rw [closed] at unclosed
    cases unclosed
  exact ⟨ended, inv.deaf sub member ended⟩

/-- Two subscribers of one topic wait, and a publish call waits for room in the stream of a third,
when `close` is called. -/
def beforeClose : List Event :=
  [.subscribe [1], .subscribe [1], .subscribe [2], .receive 0, .receive 1,
    .publish [2] [⟨[7], [], 0, AckState.fresh⟩], .advance 0, .put 0]

def afterClose : List Event := [.leave 0, .receive 2, .leave 1, .subscribe [2], .advance 0]

theorem waiting_subscribers_ended :
    ∃ s, exec (step 0) initial (beforeClose ++ .close :: afterClose) = some s ∧
      s.subscriptions.length = 3 ∧
      ∀ sub ∈ s.subscriptions, sub.sendClosed = true ∧ sub.receiving = false :=
  ⟨_, rfl, rfl, close_ends_every_subscription 0 beforeClose afterClose _ rfl⟩

end Natricine.PubSub.Memory
