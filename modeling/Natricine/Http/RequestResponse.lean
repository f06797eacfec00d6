import Natricine.Http.Subscriber
import Mathlib.Data.List.Nodup

namespace Natricine.Http

open PubSub Text Transition

variable {J : Type}

def Request.Acked (request : Request J) : Prop :=
  ∃ pending, request.pending = some pending ∧ pending.message.ackState.acked = true

def Request.Nacked (request : Request J) : Prop :=
  ∃ pending, request.pending = some pending ∧ pending.message.ackState.nacked = true

def Request.Waits (request : Request J) : Prop :=
  request.stage = .waiting ∧ ∀ pending ∈ request.pending, pending.result = false

def State.AllEnded (s : State J) : Prop := ∀ iterator ∈ s.iterators, iterator.stage = .ended

def State.Stranded (s : State J) : Prop :=
  s.closed = true ∧ s.AllEnded ∧ ∃ request ∈ s.requests, request.Waits

/-- What the claimed contract says of the messages and the answers so far, and of the requests that
wait. -/
structure Accounted (s : State J) : Prop where
  handed : (s.handed.map Prod.fst).Nodup
  answered : (s.answers.map Prod.fst).Nodup
  settled : ∀ answer ∈ s.answers, ∃ request, s.requests[answer.1]? = some request ∧
    (answer.2.statusCode = 200 → request.Acked) ∧ (answer.2.statusCode = 500 → request.Nacked)
  unstranded : ¬s.Stranded

def EndsServed (s : State J) (i : Nat) : Prop :=
  s.closed = true → (∀ (j : Nat) other, s.iterators[j]? = some other → j ≠ i →
    other.stage = .ended) → ∀ request ∈ s.requests, ¬request.Waits

/-- The headers of a request can be read, and it does not come to a closed subscriber without
iterators; none is left waiting where the subscriber is closed without iterators, nor where the
last iterator ends after that. -/
def Served (py : Python J) (config : HTTPSubscriberConfig) (s : State J) : Event → Prop
  | .receiveBody r payload uuid4 => ∀ request ∈ s.requests[r]?,
      (messageOf py config request.headers payload uuid4).isSome ∧ ¬(s.closed = true ∧ s.AllEnded)
  | .next i => EndsServed s i
  | .timeout i => EndsServed s i
  | .leave i => EndsServed s i
  | .close => s.AllEnded → ∀ request ∈ s.requests, ¬request.Waits
  | _ => True

instance (request : Request J) : Decidable request.Waits :=
  inferInstanceAs (Decidable (_ ∧ ∀ pending ∈ request.pending, pending.result = false))

instance (s : State J) : Decidable s.AllEnded :=
  inferInstanceAs (Decidable (∀ iterator ∈ s.iterators, _))

instance (s : State J) (i : Nat) : Decidable (EndsServed s i) :=
  inferInstanceAs (Decidable (_ → (∀ (j : Nat) other, s.iterators[j]? = some other → j ≠ i →
    other.stage = .ended) → ∀ request ∈ s.requests, ¬request.Waits))

instance (py : Python J) (config : HTTPSubscriberConfig) (s : State J) :
    (e : Event) → Decidable (Served py config s e)
  | .receiveBody r _ _ => inferInstanceAs (Decidable (∀ request ∈ s.requests[r]?, _))
  | .next i | .timeout i | .leave i => inferInstanceAs (Decidable (EndsServed s i))
  | .close => inferInstanceAs (Decidable (s.AllEnded → ∀ request ∈ s.requests, ¬request.Waits))
  | .post _ _ | .drop _ | .respond _ | .subscribe _ | .take _ | .ack _ | .nack _ => isTrue trivial

def PendingMessage.Consistent (pending : PendingMessage J) : Prop :=
  (pending.result = false ∧ pending.message.ackState = AckState.fresh) ∨
    (pending.result = true ∧ pending.message.ackState = ⟨pending.acked, !pending.acked⟩)

def Request.Gives (request : Request J) (response : Response) : Prop :=
  request.stage = .answered ∧
    ((∃ pending, request.pending = some pending ∧ pending.result = true ∧
      response = pending.response) ∨ (request.pending = none ∧ response = serverError))

structure Tracked (s : State J) : Prop where
  single : ∀ topic, (s.queues topic).Nodup
  queued : ∀ topic, ∀ r ∈ s.queues topic, r ∉ s.handed.map Prod.fst ∧
    ∃ request, s.requests[r]? = some request ∧ request.topic = topic ∧ request.pending.isSome
  handed : (s.handed.map Prod.fst).Nodup
  known : ∀ r ∈ s.handed.map Prod.fst, ∃ request, s.requests[r]? = some request ∧
    request.pending.isSome
  answered : (s.answers.map Prod.fst).Nodup
  given : ∀ answer ∈ s.answers, ∃ request, s.requests[answer.1]? = some request ∧
    request.Gives answer.2
  read : ∀ request ∈ s.requests, request.stage = .reading → request.pending = none
  consistent : ∀ request ∈ s.requests, ∀ pending, request.pending = some pending →
    pending.Consistent

section Settle

variable {pending : PendingMessage J}

theorem settle_settled (consistent : pending.Consistent) (set : pending.result = true)
    (accept : Bool) : pending.settle accept = pending := by
  rcases consistent with ⟨unset, -⟩ | ⟨-, flags⟩
  · rw [set] at unset
    cases unset
  · rw [PendingMessage.settle, flags]
    cases pending.acked <;> cases accept <;> rfl

theorem settle_consistent (consistent : pending.Consistent) (accept : Bool) :
    (pending.settle accept).Consistent := by
  cases set : pending.result with
  | true =>
      rw [settle_settled consistent set]
      exact consistent
  | false =>
      rcases consistent with ⟨-, fresh⟩ | ⟨set', -⟩
      · rw [PendingMessage.settle, fresh]
        cases accept <;> exact Or.inr ⟨rfl, rfl⟩
      · rw [set] at set'
        cases set'

theorem response_acked (consistent : pending.Consistent) (set : pending.result = true) :
    (pending.response.statusCode = 200 → pending.message.ackState.acked = true) ∧
      (pending.response.statusCode = 500 → pending.message.ackState.nacked = true) := by
  rcases consistent with ⟨unset, -⟩ | ⟨-, flags⟩
  · rw [set] at unset
    cases unset
  · rw [PendingMessage.response, flags]
    cases pending.acked <;> simp

theorem response_ne_serverError : pending.response ≠ serverError := by
  rw [PendingMessage.response, serverError]
  cases pending.acked <;> decide

end Settle

section Step

variable {s t : State J} {r : Nat} {old : Request J}

theorem initial_tracked : Tracked (initial : State J) :=
  ⟨fun _ => List.nodup_nil, fun _ _ => nofun, List.nodup_nil, fun _ => nofun, List.nodup_nil,
    fun _ => nofun, fun _ => nofun, fun _ => nofun⟩

theorem Tracked.set_request (inv : Tracked s) (found : s.requests[r]? = some old)
    (new : Request J) (topic : new.topic = old.topic)
    (pends : old.pending.isSome → new.pending.isSome)
    (gives : ∀ response, old.Gives response → new.Gives response)
    (read : new.stage = .reading → new.pending = none)
    (consistent : ∀ pending, new.pending = some pending → pending.Consistent) :
    Tracked { s with requests := s.requests.set r new } := by
  have kept : ∀ (x : Nat) request, s.requests[x]? = some request →
      (x = r ∧ request = old ∧ (s.requests.set r new)[x]? = some new) ∨
        (s.requests.set r new)[x]? = some request := by
    intro x request at_place
    by_cases same : x = r
    · subst same
      rw [found] at at_place
      cases at_place
      exact Or.inl ⟨rfl, rfl, List.getElem?_set_self (List.getElem?_eq_some_iff.mp found).1⟩
    · right
      rw [List.getElem?_set_ne (Ne.symm same)]
      exact at_place
  refine ⟨inv.single, ?_, inv.handed, ?_, inv.answered, ?_, ?_, ?_⟩
  · intro other x member
    rcases inv.queued other x member with ⟨unhanded, request, at_place, named, has⟩
    refine ⟨unhanded, ?_⟩
    rcases kept x request at_place with ⟨-, rfl, there⟩ | there
    · exact ⟨new, there, topic.trans named, pends has⟩
    · exact ⟨request, there, named, has⟩
  · intro x member
    rcases inv.known x member with ⟨request, at_place, has⟩
    rcases kept x request at_place with ⟨-, rfl, there⟩ | there
    · exact ⟨new, there, pends has⟩
    · exact ⟨request, there, has⟩
  · intro answer member
    rcases inv.given answer member with ⟨request, at_place, given⟩
    rcases kept answer.1 request at_place with ⟨-, rfl, there⟩ | there
    · exact ⟨new, there, gives _ given⟩
    · exact ⟨request, there, given⟩
  · intro request member
    rcases List.mem_or_eq_of_mem_set member with before | rfl
    · exact inv.read request before
    · exact read
  · intro request member
    rcases List.mem_or_eq_of_mem_set member with before | rfl
    · exact inv.consistent request before
    · exact consistent

theorem Tracked.answer (inv : Tracked s) (found : s.requests[r]? = some old)
    (unanswered : old.stage ≠ .answered) {response : Response}
    (given : ({ old with stage := .answered } : Request J).Gives response) :
    Tracked { s with
      requests := s.requests.set r { old with stage := .answered }
      answers := s.answers ++ [(r, response)] } := by
  have rest := inv.set_request found { old with stage := .answered } rfl id
    (fun _ before => absurd before.1 unanswered) nofun
    (inv.consistent old (List.mem_of_getElem? found))
  refine { rest with answered := ?_, given := ?_ }
  · dsimp only
    rw [List.map_append]
    apply List.nodup_append'.mpr
    refine ⟨inv.answered, List.nodup_singleton _, List.disjoint_singleton.mpr ?_⟩
    intro member
    rcases List.mem_map.mp member with ⟨answer, inside, same⟩
    rcases inv.given answer inside with ⟨request, at_place, done, -⟩
    rw [same, found] at at_place
    cases at_place
    exact unanswered done
  · intro answer member
    rcases List.mem_append.mp member with before | last
    · exact rest.given answer before
    · rw [List.mem_singleton.mp last]
      exact ⟨_, List.getElem?_set_self (List.getElem?_eq_some_iff.mp found).1, given⟩

theorem Tracked.enqueue (inv : Tracked s) {request : Request J}
    (found : s.requests[r]? = some request) (has : request.pending.isSome)
    (unqueued : ∀ topic, r ∉ s.queues topic) (unhanded : r ∉ s.handed.map Prod.fst) :
    Tracked { s with
      queues := Function.update s.queues request.topic (s.queues request.topic ++ [r]) } := by
  refine { inv with single := ?_, queued := ?_ }
  · intro topic
    dsimp only
    by_cases same : topic = request.topic
    · subst same
      rw [Function.update_self]
      apply List.nodup_append'.mpr
      exact ⟨inv.single _, List.nodup_singleton _, List.disjoint_singleton.mpr (unqueued _)⟩
    · rw [Function.update_of_ne same]
      exact inv.single topic
  · intro topic x member
    dsimp only at member
    by_cases same : topic = request.topic
    · subst same
      rw [Function.update_self] at member
      rcases List.mem_append.mp member with before | last
      · exact inv.queued _ x before
      · rw [List.mem_singleton.mp last]
        exact ⟨unhanded, request, found, rfl, has⟩
    · rw [Function.update_of_ne same] at member
      exact inv.queued topic x member

theorem Tracked.apart (inv : Tracked s) (found : s.requests[r]? = some old)
    (none_yet : old.pending = none) :
    (∀ topic, r ∉ s.queues topic) ∧ r ∉ s.handed.map Prod.fst := by
  constructor
  · intro topic member
    rcases inv.queued topic r member with ⟨-, request, here, -, has⟩
    rw [found] at here
    cases here
    rw [none_yet] at has
    cases has
  · intro member
    rcases inv.known r member with ⟨request, here, has⟩
    rw [found] at here
    cases here
    rw [none_yet] at has
    cases has

theorem Tracked.receiveBody (inv : Tracked s) (found : s.requests[r]? = some old)
    (reading : old.stage = .reading) (py : Python J) (config : HTTPSubscriberConfig)
    (payload : Bytes) (uuid4 : BitVec 128) :
    Tracked (receiveBody py config s r old payload uuid4) := by
  have none_yet := inv.read old (List.mem_of_getElem? found) reading
  have unanswered : old.stage ≠ .answered := by
    rw [reading]
    exact nofun
  rw [Http.receiveBody]
  split
  · rename_i message made
    have fresh : message.ackState = AckState.fresh := by
      simp only [messageOf, Option.bind_eq_bind, Option.bind_eq_some_iff] at made
      rcases made with ⟨metadata, -, uuid, -, same⟩
      cases same
      rfl
    have waiting := inv.set_request found
      { old with pending := some ⟨message, false, false⟩, stage := .waiting } rfl
      (fun _ => rfl) (fun _ before => absurd before.1 unanswered) nofun
      (by
        intro pending same
        cases same
        exact Or.inl ⟨rfl, fresh⟩)
    rcases inv.apart found none_yet with ⟨unqueued, unhanded⟩
    have there : (s.requests.set r
        { old with pending := some ⟨message, false, false⟩, stage := .waiting })[r]? = some _ :=
      List.getElem?_set_self (List.getElem?_eq_some_iff.mp found).1
    have queued := waiting.enqueue there rfl unqueued unhanded
    exact queued
  · exact inv.answer found unanswered ⟨rfl, Or.inr ⟨none_yet, rfl⟩⟩

theorem Tracked.settled (inv : Tracked s) (found : s.requests[r]? = some old) (accept : Bool) :
    Tracked (settled s r old accept) := by
  have agree := inv.consistent old (List.mem_of_getElem? found)
  apply inv.set_request found
  · exact rfl
  · intro has
    rw [Option.isSome_map]
    exact has
  · intro response given
    rcases given with ⟨done, ⟨pending, has, set, same⟩ | ⟨none_made, same⟩⟩
    · refine ⟨done, Or.inl ⟨pending, ?_, set, same⟩⟩
      simp only [has, Option.map_some, settle_settled (agree pending has) set]
    · refine ⟨done, Or.inr ⟨?_, same⟩⟩
      simp only [none_made, Option.map_none]
  · intro reading
    simp only [inv.read old (List.mem_of_getElem? found) reading, Option.map_none]
  · intro pending has
    rcases Option.map_eq_some_iff.mp has with ⟨before, here, rfl⟩
    exact settle_consistent (agree before here) accept

theorem Tracked.take (inv : Tracked s) {topic : Str} {rest : List Nat}
    (queue : s.queues topic = r :: rest) (i : Nat) (iterators : List Iterator) :
    Tracked { s with
      queues := Function.update s.queues topic rest
      iterators := iterators
      handed := s.handed ++ [(r, i)] } := by
  have front : r ∈ s.queues topic := by
    rw [queue]
    exact List.mem_cons_self
  have once : (r :: rest).Nodup := queue ▸ inv.single topic
  rcases inv.queued topic r front with ⟨unhanded, request, found, named, has⟩
  have shorter : ∀ other, ∀ x ∈ Function.update s.queues topic rest other,
      x ∈ s.queues other ∧ x ≠ r := by
    intro other x member
    by_cases same : other = topic
    · subst same
      rw [Function.update_self] at member
      rw [queue]
      refine ⟨List.mem_cons_of_mem _ member, ?_⟩
      intro again
      exact (List.nodup_cons.mp once).1 (again ▸ member)
    · rw [Function.update_of_ne same] at member
      refine ⟨member, ?_⟩
      intro again
      rcases inv.queued other x member with ⟨-, other_request, here, elsewhere, -⟩
      rw [again, found] at here
      cases here
      exact same (elsewhere.symm.trans named)
  refine { inv with single := ?_, queued := ?_, handed := ?_, known := ?_ }
  · intro other
    dsimp only
    by_cases same : other = topic
    · subst same
      rw [Function.update_self]
      exact (List.nodup_cons.mp once).2
    · rw [Function.update_of_ne same]
      exact inv.single other
  · intro other x member
    rcases shorter other x member with ⟨before, differs⟩
    rcases inv.queued other x before with ⟨absent, there⟩
    refine ⟨?_, there⟩
    simp only [List.map_append, List.mem_append, List.map_cons, List.map_nil, List.mem_singleton]
    exact not_or.mpr ⟨absent, differs⟩
  · dsimp only
    rw [List.map_append]
    apply List.nodup_append'.mpr
    exact ⟨inv.handed, List.nodup_singleton _, List.disjoint_singleton.mpr unhanded⟩
  · intro x member
    simp only [List.map_append, List.mem_append, List.map_cons, List.map_nil,
      List.mem_singleton] at member
    rcases member with before | rfl
    · exact inv.known x before
    · exact ⟨request, found, has⟩

theorem Tracked.post (inv : Tracked s) (topic : Str) (headers : Headers) :
    Tracked { s with requests := s.requests ++ [⟨topic, headers, none, .reading⟩] } := by
  have grown : ∀ (x : Nat) request, s.requests[x]? = some request →
      (s.requests ++ [⟨topic, headers, none, .reading⟩])[x]? = some request :=
    fun _ _ => Update.getElem?_append_of_some _
  refine { inv with queued := ?_, known := ?_, given := ?_, read := ?_, consistent := ?_ }
  · intro other x member
    rcases inv.queued other x member with ⟨unhanded, request, found, rest⟩
    exact ⟨unhanded, request, grown x request found, rest⟩
  · intro x member
    rcases inv.known x member with ⟨request, found, has⟩
    exact ⟨request, grown x request found, has⟩
  · intro answer member
    rcases inv.given answer member with ⟨request, found, given⟩
    exact ⟨request, grown _ request found, given⟩
  · intro request member
    rcases List.mem_append.mp member with before | last
    · exact inv.read request before
    · rw [List.mem_singleton.mp last]
      exact fun _ => rfl
  · intro request member
    rcases List.mem_append.mp member with before | last
    · exact inv.consistent request before
    · rw [List.mem_singleton.mp last]
      exact nofun

theorem step_tracked (py : Python J) (config : HTTPSubscriberConfig) (s : State J) (e : Event)
    (t : State J) (inv : Tracked s) (taken : step py config s e = some t) : Tracked t := by
  cases taken_of_step taken with
  | post => exact inv.post _ _
  | receiveBody found reading => exact inv.receiveBody found reading py config _ _
  | @drop r request found awaits =>
      apply inv.set_request found { request with stage := .dropped } rfl id
      · intro response given
        rcases awaits with same | same <;> exact absurd (same ▸ given.1) nofun
      · exact nofun
      · exact inv.consistent request (List.mem_of_getElem? found)
  | respond found waiting has set =>
      apply inv.answer found
      · rw [waiting]
        exact nofun
      · exact ⟨rfl, Or.inl ⟨_, has, set, rfl⟩⟩
  | subscribe => exact { inv with }
  | next => exact { inv with }
  | take found getting queue => exact inv.take queue _ _
  | timeout => exact { inv with }
  | leave => exact { inv with }
  | ack found => exact inv.settled found true
  | nack found => exact inv.settled found false
  | close => exact { inv with }

theorem Tracked.settled_iff (inv : Tracked s) :
    (∀ answer ∈ s.answers, ∃ request, s.requests[answer.1]? = some request ∧
      (answer.2.statusCode = 200 → request.Acked) ∧
        (answer.2.statusCode = 500 → request.Nacked)) ↔
      serverError ∉ s.answers.map Prod.snd := by
  constructor
  · intro settled member
    rcases List.mem_map.mp member with ⟨answer, inside, same⟩
    rcases settled answer inside with ⟨request, found, -, nacked⟩
    rcases nacked (by rw [same]; rfl) with ⟨pending, has, -⟩
    rcases inv.given answer inside with ⟨other, here, -, ⟨given, -, -, response⟩ | ⟨made, -⟩⟩
    · exact response_ne_serverError (response.symm.trans same)
    · rw [found] at here
      cases here
      rw [has] at made
      cases made
  · intro unfailed answer member
    rcases inv.given answer member with ⟨request, found, -, ⟨pending, has, set, same⟩ | ⟨-, same⟩⟩
    · have agree := inv.consistent request (List.mem_of_getElem? found) pending has
      have codes := response_acked agree set
      rw [same]
      exact ⟨request, found, fun ok => ⟨pending, has, codes.1 ok⟩,
        fun failed => ⟨pending, has, codes.2 failed⟩⟩
    · exact absurd (List.mem_map.mpr ⟨answer, member, same⟩) unfailed

theorem Tracked.accounted_iff (inv : Tracked s) :
    Accounted s ↔ serverError ∉ s.answers.map Prod.snd ∧ ¬s.Stranded := by
  constructor
  · intro accounted
    exact ⟨inv.settled_iff.mp accounted.settled, accounted.unstranded⟩
  · intro both
    exact ⟨inv.handed, inv.answered, inv.settled_iff.mpr both.1, both.2⟩

theorem not_stranded_set (unstranded : ¬s.Stranded) (found : s.requests[r]? = some old)
    {new : Request J} (fewer : new.Waits → old.Waits) (answers : List (Nat × Response)) :
    ¬State.Stranded { s with requests := s.requests.set r new, answers := answers } := by
  intro stranded
  rcases stranded with ⟨closed, ended, request, member, waits⟩
  apply unstranded
  rcases List.mem_or_eq_of_mem_set member with before | rfl
  · exact ⟨closed, ended, request, before, waits⟩
  · exact ⟨closed, ended, old, List.mem_of_getElem? found, fewer waits⟩

theorem not_stranded_alive {iterators : List Iterator} {iterator : Iterator}
    (member : iterator ∈ iterators) (alive : iterator.stage ≠ .ended) {queues : Str → List Nat}
    {handed : List (Nat × Nat)} :
    ¬State.Stranded
      { s with iterators := iterators, queues := queues, handed := handed } :=
  fun stranded => alive (stranded.2.1 iterator member)

theorem ends_served_iff {i : Nat} (ended : Iterator) (gone : ended.stage = .ended) :
    EndsServed s i ↔ ¬State.Stranded { s with iterators := s.iterators.set i ended } := by
  have others : (∀ (j : Nat) other, s.iterators[j]? = some other → j ≠ i → other.stage = .ended) ↔
      ∀ other ∈ s.iterators.set i ended, other.stage = .ended := by
    constructor
    · intro all other member
      rcases List.mem_iff_getElem?.mp member with ⟨j, at_place⟩
      rcases Update.getElem?_set_cases ended at_place with ⟨-, rfl⟩ | ⟨differs, before⟩
      · exact gone
      · exact all j other before differs
    · intro all j other before differs
      apply all other
      apply List.mem_iff_getElem?.mpr
      exact ⟨j, by rw [List.getElem?_set_ne (Ne.symm differs), before]⟩
  rw [EndsServed, others, State.Stranded]
  constructor
  · intro served stranded
    rcases stranded with ⟨closed, all, request, member, waits⟩
    exact served closed all request member waits
  · intro unstranded closed all request member waits
    exact unstranded ⟨closed, all, request, member, waits⟩

theorem loopTest_served_iff {i : Nat} {iterator : Iterator} :
    EndsServed s i ↔ ¬(loopTest s i iterator).Stranded := by
  rw [loopTest]
  cases closed : s.closed with
  | true =>
      rw [if_pos rfl, ends_served_iff { iterator with stage := .ended } rfl, closed]
  | false =>
      apply iff_of_true
      · intro shut
        rw [closed] at shut
        cases shut
      · intro stranded
        cases stranded.1

theorem receiveBody_served_iff (found : s.requests[r]? = some old) {py : Python J}
    {config : HTTPSubscriberConfig} {payload : Bytes} {uuid4 : BitVec 128}
    (unfailed : serverError ∉ s.answers.map Prod.snd) :
    Served py config s (.receiveBody r payload uuid4) ↔
      serverError ∉ (receiveBody py config s r old payload uuid4).answers.map Prod.snd ∧
        ¬(receiveBody py config s r old payload uuid4).Stranded := by
  rw [Http.receiveBody]
  cases made : messageOf py config old.headers payload uuid4 with
  | none =>
      apply iff_of_false
      · intro served
        have some_message := (served old found).1
        rw [made] at some_message
        cases some_message
      · intro both
        exact both.1 (by simp)
  | some message =>
      constructor
      · intro served
        refine ⟨unfailed, ?_⟩
        intro stranded
        exact (served old found).2 ⟨stranded.1, stranded.2.1⟩
      · intro both request here
        rw [found] at here
        cases here
        refine ⟨by rw [made]; rfl, ?_⟩
        intro shut
        apply both.2
        refine ⟨shut.1, shut.2, _, Update.new_mem_set _ found, rfl, ?_⟩
        intro pending same
        cases same
        rfl

theorem not_stranded_settled (unstranded : ¬s.Stranded) (found : s.requests[r]? = some old)
    (accept : Bool) : ¬(settled s r old accept).Stranded := by
  refine not_stranded_set unstranded found ?_ s.answers
  intro waits
  refine ⟨waits.1, ?_⟩
  intro pending has
  have unset := waits.2 _ (Option.mem_map_of_mem _ has)
  rw [PendingMessage.settle] at unset
  split at unset
  · cases unset
  · exact unset

theorem accounted_step_iff (py : Python J) (config : HTTPSubscriberConfig) (s : State J)
    (e : Event) (t : State J) (inv : Tracked s) (accounted : Accounted s)
    (taken : step py config s e = some t) :
    Served py config s e ↔ Accounted t := by
  rw [(step_tracked py config s e t inv taken).accounted_iff]
  rcases inv.accounted_iff.mp accounted with ⟨unfailed, unstranded⟩
  cases taken_of_step taken with
  | post =>
      refine iff_of_true trivial ⟨unfailed, ?_⟩
      intro stranded
      rcases stranded with ⟨closed, ended, request, member, waits⟩
      rcases List.mem_append.mp member with before | last
      · exact unstranded ⟨closed, ended, request, before, waits⟩
      · rw [List.mem_singleton.mp last] at waits
        cases waits.1
  | receiveBody found reading => exact receiveBody_served_iff found unfailed
  | drop found awaits =>
      refine iff_of_true trivial ⟨unfailed, not_stranded_set unstranded found ?_ s.answers⟩
      intro waits
      cases waits.1
  | respond found waiting has set =>
      refine iff_of_true trivial ⟨?_, not_stranded_set unstranded found ?_ _⟩
      · rw [List.map_append, List.mem_append, not_or]
        refine ⟨unfailed, ?_⟩
        intro member
        exact response_ne_serverError (List.mem_singleton.mp member).symm
      · intro waits
        cases waits.1
  | @subscribe topic =>
      have fresh : ⟨topic, .created⟩ ∈ s.iterators ++ [⟨topic, .created⟩] :=
        List.mem_append_right _ (List.mem_singleton_self _)
      exact iff_of_true trivial ⟨unfailed, not_stranded_alive fresh Iteration.noConfusion⟩
  | next => exact loopTest_served_iff.trans (and_iff_right unfailed).symm
  | take found =>
      exact iff_of_true trivial
        ⟨unfailed, not_stranded_alive (Update.new_mem_set _ found) Iteration.noConfusion⟩
  | timeout => exact loopTest_served_iff.trans (and_iff_right unfailed).symm
  | @leave i iterator =>
      exact (ends_served_iff { iterator with stage := .ended } rfl).trans
        (and_iff_right unfailed).symm
  | ack found => exact iff_of_true trivial ⟨unfailed, not_stranded_settled unstranded found true⟩
  | nack found => exact iff_of_true trivial ⟨unfailed, not_stranded_settled unstranded found false⟩
  | close =>
      constructor
      · intro served
        refine ⟨unfailed, ?_⟩
        intro stranded
        rcases stranded with ⟨-, ended, request, member, waits⟩
        exact served ended request member waits
      · intro both ended request member waits
        exact both.2 ⟨rfl, ended, request, member, waits⟩

end Step

/-- In every run, a message is handed over once, a request is answered once, and 200 stands for an
acked message. -/
theorem run_tracked (py : Python J) (config : HTTPSubscriberConfig) (events : List Event) :
    Throughout (step py config) Tracked initial events :=
  fun _ visited => visits_preserves (step_tracked py config) initial_tracked visited

/-- Along a run, every request is accounted for if and only if the headers of each can be read, and
none waits or comes where the subscriber is closed and the last iterator has ended. -/
theorem accounted_iff_served (py : Python J) (config : HTTPSubscriberConfig) (events : List Event)
    (s : State J) (run : exec (step py config) initial events = some s) :
    Throughout (step py config) Accounted initial events ↔
      Along (step py config) (Served py config) initial events := by
  refine throughout_iff_along_within (step_tracked py config) (accounted_step_iff py config)
    initial_tracked (initial_tracked.accounted_iff.mpr ⟨List.not_mem_nil, ?_⟩) run
  exact fun stranded => Bool.false_ne_true stranded.1

section Runs

def bare : Python Unit := ⟨id, fun _ => .error .jsonDecodeError, (), fun _ => none⟩

def defaults : HTTPSubscriberConfig := ⟨ofString "Message-Uuid", ofString "Message-Metadata"⟩

/-- The iterator ends after `close`, and the request that comes then waits for ever. -/
theorem late_request_waits :
    ¬Throughout (step bare defaults) Accounted initial
      [.subscribe [], .next 0, .close, .timeout 0, .post [] [], .receiveBody 0 [] 0] := by
  intro throughout
  have accounted := throughout _ ⟨_, List.prefix_rfl, rfl⟩
  apply accounted.unstranded
  exact ⟨rfl, by decide, _, List.mem_cons_self, by decide⟩

theorem settled_request_accounted :
    Throughout (step bare defaults) Accounted initial
      [.subscribe [], .next 0, .post [] [], .receiveBody 0 [] 0, .take 0, .close, .ack 0,
        .respond 0, .next 0] :=
  (accounted_iff_served bare defaults _ _ rfl).mpr (by decide)

end Runs

end Natricine.Http
