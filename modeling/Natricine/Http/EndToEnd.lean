import Natricine.Http.Publisher

/-! What a call of `publish` knows of its messages when it is over, and what their consumers are
given. -/

namespace Natricine.Http.Publisher

open PubSub Text Transition Update
open Json (Value Limits)

def SamePost (old new : Request Value) : Prop := new.topic = old.topic ∧ new.headers = old.headers

def SameTopic (old new : Iterator) : Prop := new.topic = old.topic

instance samePost_preorder : IsPreorder (Request Value) SamePost where
  refl _ := ⟨rfl, rfl⟩
  trans _ _ _ first second := ⟨second.1.trans first.1, second.2.trans first.2⟩

instance sameTopic_preorder : IsPreorder Iterator SameTopic where
  refl _ := rfl
  trans _ _ _ first second := Eq.trans second first

structure Goes (s t : Http.State Value) : Prop where
  requests : Persists SamePost s.requests t.requests
  iterators : Persists SameTopic s.iterators t.iterators
  answers : ∀ answer ∈ s.answers, answer ∈ t.answers

def MadeOf (py : Python Value) (subscriber : HTTPSubscriberConfig) (request : Request Value)
    (body : Option (Option Bytes)) (message : Http.Message Value) : Prop :=
  (∃ uuid4, messageOf py subscriber request.headers message.payload uuid4 =
    some { message with ackState := AckState.fresh }) ∧
      ∀ posted, body = some (some posted) → message.payload = posted

def OnTopic (server : Http.State Value) (entry : Nat × Nat) : Prop :=
  ∃ request iterator, server.requests[entry.1]? = some request ∧
    server.iterators[entry.2]? = some iterator ∧ iterator.topic = request.topic

structure Made (py : Python Value) (subscriber : HTTPSubscriberConfig) (server : Http.State Value)
    (bodies : List (Option Bytes)) : Prop where
  sizes : bodies.length = server.requests.length
  message : ∀ (r : Nat) request pending, server.requests[r]? = some request →
    request.pending = some pending → MadeOf py subscriber request bodies[r]? pending.message
  handed : ∀ entry ∈ server.handed, OnTopic server entry

section Server

variable {py : Python Value} {subscriber : HTTPSubscriberConfig} {s t : Http.State Value}

theorem Goes.refl (s : Http.State Value) : Goes s s :=
  ⟨persists_refl s.requests, persists_refl s.iterators, fun _ member => member⟩

theorem goes_of_step {e : Http.Event} (taken : Http.step py subscriber s e = some t) :
    Goes s t := by
  have requests := persists_refl (R := SamePost) s.requests
  have iterators := persists_refl (R := SameTopic) s.iterators
  have answers : ∀ answer ∈ s.answers, answer ∈ s.answers := fun _ member => member
  have more (r : Nat) (response : Response) :
      ∀ answer ∈ s.answers, answer ∈ s.answers ++ [(r, response)] :=
    fun _ member => List.mem_append_left _ member
  cases Http.taken_of_step taken with
  | post => exact ⟨persists_append _, iterators, answers⟩
  | receiveBody found reading =>
      rw [receiveBody]
      split
      · exact ⟨persists_set _ found ⟨rfl, rfl⟩, iterators, answers⟩
      · exact ⟨persists_set _ found ⟨rfl, rfl⟩, iterators, more _ _⟩
  | drop found awaits => exact ⟨persists_set _ found ⟨rfl, rfl⟩, iterators, answers⟩
  | respond found waiting has set =>
      exact ⟨persists_set _ found ⟨rfl, rfl⟩, iterators, more _ _⟩
  | subscribe => exact ⟨requests, persists_append _, answers⟩
  | next found => exact ⟨requests, persists_set _ found rfl, answers⟩
  | take found getting queue => exact ⟨requests, persists_set _ found rfl, answers⟩
  | timeout found => exact ⟨requests, persists_set _ found rfl, answers⟩
  | leave found => exact ⟨requests, persists_set _ found rfl, answers⟩
  | ack found => exact ⟨persists_set _ found ⟨rfl, rfl⟩, iterators, answers⟩
  | nack found => exact ⟨persists_set _ found ⟨rfl, rfl⟩, iterators, answers⟩
  | close => exact ⟨requests, iterators, answers⟩

theorem Goes.onTopic (goes : Goes s t) {entry : Nat × Nat} (here : OnTopic s entry) :
    OnTopic t entry := by
  rcases here with ⟨request, iterator, posted, subscribed, same⟩
  rcases goes.requests _ request posted with ⟨request', there, topic, -⟩
  rcases goes.iterators _ iterator subscribed with ⟨iterator', stays, named⟩
  exact ⟨request', iterator', there, stays, named.trans (same.trans topic.symm)⟩

variable {bodies : List (Option Bytes)}

theorem Made.set_request (made : Made py subscriber s bodies) {r : Nat} {old new : Request Value}
    (found : s.requests[r]? = some old) (same : SamePost old new)
    (message : ∀ pending, new.pending = some pending →
      MadeOf py subscriber old bodies[r]? pending.message) (queues : Str → List Nat)
    (answers : List (Nat × Response)) :
    Made py subscriber
      { s with requests := s.requests.set r new, queues := queues, answers := answers } bodies := by
  have goes : Goes s { s with requests := s.requests.set r new } :=
    ⟨persists_set _ found same, persists_refl _, fun _ member => member⟩
  refine ⟨?_, ?_, fun entry member => goes.onTopic (made.handed entry member)⟩
  · rw [made.sizes, List.length_set]
  · intro place request pending here has
    rcases getElem?_set_cases new here with ⟨rfl, rfl⟩ | ⟨-, before⟩
    · have whole := message pending has
      rw [MadeOf, same.2]
      exact whole
    · exact made.message place request pending before has

theorem Made.post (made : Made py subscriber s bodies) (topic : Str) (headers : Headers)
    (body : Option Bytes) :
    Made py subscriber { s with requests := s.requests ++ [⟨topic, headers, none, .reading⟩] }
      (bodies ++ [body]) := by
  have goes : Goes s { s with requests := s.requests ++ [⟨topic, headers, none, .reading⟩] } :=
    ⟨persists_append _, persists_refl _, fun _ member => member⟩
  refine ⟨?_, ?_, fun entry member => goes.onTopic (made.handed entry member)⟩
  · simp [made.sizes]
  · intro place request pending here has
    rcases getElem?_append_cases _ here with ⟨-, rfl⟩ | before
    · cases has
    · have bound : place < bodies.length := by
        rw [made.sizes]
        exact (List.getElem?_eq_some_iff.mp before).1
      rw [List.getElem?_append_left bound]
      exact made.message place request pending before has

theorem messageOf_fields {headers : Headers} {payload : Bytes} {uuid4 : BitVec 128}
    {message : Http.Message Value}
    (made : messageOf py subscriber headers payload uuid4 = some message) :
    message.payload = payload ∧ message.ackState = AckState.fresh := by
  simp only [messageOf, Option.bind_eq_bind, Option.bind_eq_some_iff] at made
  rcases made with ⟨metadata, -, uuid, -, same⟩
  cases same
  exact ⟨rfl, rfl⟩

theorem MadeOf.settle {request : Request Value} {body : Option (Option Bytes)}
    {pending : PendingMessage Value} (made : MadeOf py subscriber request body pending.message)
    (accept : Bool) : MadeOf py subscriber request body (pending.settle accept).message := by
  rw [PendingMessage.settle]
  split <;> exact made

theorem Made.settled (made : Made py subscriber s bodies) {r : Nat} {old : Request Value}
    (found : s.requests[r]? = some old) (accept : Bool) :
    Made py subscriber (settled s r old accept) bodies := by
  apply made.set_request found
  · exact ⟨rfl, rfl⟩
  · intro pending has
    rcases Option.map_eq_some_iff.mp has with ⟨before, here, rfl⟩
    exact (made.message r old before found here).settle accept

theorem Made.receiveBody (made : Made py subscriber s bodies) {r : Nat} {old : Request Value}
    (found : s.requests[r]? = some old) {payload : Bytes} (uuid4 : BitVec 128)
    (posted : ∀ body ∈ bodies[r]?, ∀ posted ∈ body, payload = posted) :
    Made py subscriber (receiveBody py subscriber s r old payload uuid4) bodies := by
  rw [Http.receiveBody]
  split
  · rename_i message made_now
    rcases messageOf_fields made_now with ⟨same, fresh⟩
    apply made.set_request found
    · exact ⟨rfl, rfl⟩
    · intro pending has
      cases has
      refine ⟨⟨uuid4, ?_⟩, ?_⟩
      · rw [same, ← fresh]
        rcases message with ⟨_, _, _, _⟩
        cases same
        exact made_now
      · intro body there
        rw [same]
        exact posted (some body) there body rfl
  · apply made.set_request found
    · exact ⟨rfl, rfl⟩
    · exact fun pending has => made.message r old pending found has

theorem made_step {e : Http.Event} (tracked : Tracked s) (made : Made py subscriber s bodies)
    (posted : ∀ r payload uuid4, e = .receiveBody r payload uuid4 →
      ∀ body ∈ bodies[r]?, ∀ posted ∈ body, payload = posted)
    (taken : Http.step py subscriber s e = some t) :
    Made py subscriber t (bodiesAfter bodies e) := by
  have goes := goes_of_step taken
  have handed := fun entry member => goes.onTopic (made.handed entry member)
  cases Http.taken_of_step taken with
  | post => exact made.post _ _ none
  | receiveBody found reading => exact made.receiveBody found _ (posted _ _ _ rfl)
  | @drop r old found awaits =>
      apply made.set_request found
      · exact ⟨rfl, rfl⟩
      · exact fun pending has => made.message r old pending found has
  | @respond r old pending found waiting has set =>
      apply made.set_request found
      · exact ⟨rfl, rfl⟩
      · exact fun pending has => made.message r old pending found has
  | @take i r iterator rest found getting queue =>
      refine ⟨made.sizes, made.message, ?_⟩
      intro entry member
      rcases List.mem_append.mp member with before | last
      · exact handed entry before
      · rw [List.mem_singleton.mp last]
        have front : r ∈ s.queues iterator.topic := by
          rw [queue]
          exact List.mem_cons_self
        rcases tracked.queued _ r front with ⟨-, request, here, named, -⟩
        refine ⟨request, { iterator with stage := .yielded }, here, ?_, named.symm⟩
        exact List.getElem?_set_self (List.getElem?_eq_some_iff.mp found).1
  | subscribe => exact ⟨made.sizes, made.message, handed⟩
  | next found => exact ⟨made.sizes, made.message, handed⟩
  | timeout found => exact ⟨made.sizes, made.message, handed⟩
  | leave found => exact ⟨made.sizes, made.message, handed⟩
  | ack found => exact made.settled found true
  | nack found => exact made.settled found false
  | close => exact ⟨made.sizes, made.message, handed⟩

end Server

def Posted (net : Network) (config : HTTPPublisherConfig) (s : State) (call : Call) : Prop :=
  ∀ (k : Nat) r, call.requests[k]? = some r → ∃ message request,
    call.messages[k]? = some message ∧ s.bodies[r]? = some (some message.payload) ∧
      s.server.requests[r]? = some request ∧ request.topic = net.route call.topic ∧
        net.headers (requestHeaders config message) = some request.headers

def Answered (s : State) (r : Nat) (success : Bool) (code : Nat) : Prop :=
  ∃ response, (r, response) ∈ s.server.answers ∧ response.statusCode = code ∧
    Response.isSuccess response = success

/-- The call posts one message after the other, each when the one before was answered with
success. -/
structure Proceeds (s : State) (call : Call) : Prop where
  once : call.requests.Nodup
  asked : ∀ (k : Nat) r, call.requests[k]? = some r →
    k + 1 < call.requests.length ∨ call.progress = .sending ∨ call.progress = .returned →
      ∃ code, Answered s r true code
  posting : ∀ r, call.progress = .posting r → call.requests.getLast? = some r
  returned : call.progress = .returned → call.messages.length ≤ call.requests.length
  status : ∀ code, call.progress = .raised (.httpStatus code) →
    ∃ r, call.requests.getLast? = some r ∧ Answered s r false code

/-- Whatever was posted with a body was posted by a call that knows of it. -/
def Known (s : State) : Prop :=
  ∀ (r : Nat) body, s.bodies[r]? = some (some body) → ∃ call ∈ s.calls, r ∈ call.requests

structure Sound (net : Network) (py : Python Value) (config : HTTPPublisherConfig)
    (subscriber : HTTPSubscriberConfig) (s : State) : Prop where
  tracked : Tracked s.server
  made : Made py subscriber s.server s.bodies
  posted : ∀ call ∈ s.calls, Posted net config s call
  proceeds : ∀ call ∈ s.calls, Proceeds s call
  known : Known s

section Step

variable {net : Network} {py : Python Value} {config : HTTPPublisherConfig}
  {subscriber : HTTPSubscriberConfig} {s t : State} {c : Nat} {call : Call}

theorem Posted.goes (posted : Posted net config s call) (goes : Goes s.server t.server)
    (bodies : ∀ (r : Nat) body, s.bodies[r]? = some body → t.bodies[r]? = some body) :
    Posted net config t call := by
  intro k r at_place
  rcases posted k r at_place with ⟨message, request, here, body, there, topic, headers⟩
  rcases goes.requests r request there with ⟨request', stays, same, kept⟩
  exact ⟨message, request', here, bodies r _ body, stays, same.trans topic, kept ▸ headers⟩

theorem Answered.goes {r code : Nat} {success : Bool} (answered : Answered s r success code)
    (goes : Goes s.server t.server) : Answered t r success code := by
  rcases answered with ⟨response, given, rest⟩
  exact ⟨response, goes.answers _ given, rest⟩

theorem Proceeds.goes (proceeds : Proceeds s call) (goes : Goes s.server t.server) :
    Proceeds t call := by
  refine ⟨proceeds.once, ?_, proceeds.posting, proceeds.returned, ?_⟩
  · intro k r at_place past
    rcases proceeds.asked k r at_place past with ⟨code, answered⟩
    exact ⟨code, answered.goes goes⟩
  · intro code raised
    rcases proceeds.status code raised with ⟨r, last, answered⟩
    exact ⟨r, last, answered.goes goes⟩

theorem initial_sound : Sound net py config subscriber initial where
  tracked := initial_tracked
  made := ⟨rfl, fun _ _ _ found => absurd found (by simp [initial, Http.initial]),
    fun _ member => absurd member List.not_mem_nil⟩
  posted _ member := absurd member List.not_mem_nil
  proceeds _ member := absurd member List.not_mem_nil
  known r body posted := absurd posted (by simp [initial])

theorem Known.set (known : Known s) (found : s.calls[c]? = some call) (other : Call)
    (more : ∀ r ∈ call.requests, r ∈ other.requests) {r : Nat} {body : Bytes}
    (posted : s.bodies[r]? = some (some body)) :
    ∃ own ∈ s.calls.set c other, r ∈ own.requests := by
  rcases known r body posted with ⟨own, member, mine⟩
  rcases List.mem_iff_getElem?.mp member with ⟨place, here⟩
  by_cases same : place = c
  · subst same
    rw [found] at here
    cases here
    exact ⟨other, List.mem_set (List.getElem?_eq_some_iff.mp found).1 other, more r mine⟩
  · refine ⟨own, ?_, mine⟩
    apply List.mem_of_getElem? (i := place)
    rwa [List.getElem?_set_ne (Ne.symm same)]

theorem Sound.setCall (sound : Sound net py config subscriber s) (found : s.calls[c]? = some call)
    {progress : Progress} (proceeds : Proceeds s { call with progress := progress }) :
    Sound net py config subscriber (s.setCall c { call with progress := progress }) := by
  have goes : Goes s.server (s.setCall c { call with progress := progress }).server :=
    Goes.refl s.server
  refine ⟨sound.tracked, sound.made, ?_, ?_, fun r body posted => ?_⟩
  · intro other inside
    rcases List.mem_or_eq_of_mem_set inside with before | rfl
    · exact sound.posted other before
    · exact sound.posted call (List.mem_of_getElem? found)
  · intro other inside
    rcases List.mem_or_eq_of_mem_set inside with before | rfl
    · exact (sound.proceeds other before).goes goes
    · exact proceeds.goes goes
  · exact sound.known.set found { call with progress := progress } (fun r mine => mine) posted

theorem Proceeds.stop (proceeds : Proceeds s call) {progress : Progress}
    (stopped : progress ≠ .sending ∧ progress ≠ .returned ∧ (∀ r, progress ≠ .posting r) ∧
      ∀ code, progress ≠ .raised (.httpStatus code)) :
    Proceeds s { call with progress := progress } := by
  rcases stopped with ⟨unsent, unreturned, unposted, unrefused⟩
  refine ⟨proceeds.once, ?_, fun r same => absurd same (unposted r),
    fun same => absurd same unreturned, fun code same => absurd same (unrefused code)⟩
  intro k r at_place past
  rcases past with before | same | same
  · exact proceeds.asked k r at_place (Or.inl before)
  · exact absurd same unsent
  · exact absurd same unreturned

theorem Proceeds.finish (proceeds : Proceeds s call) (sending : call.progress = .sending)
    (done : call.messages[call.requests.length]? = none) :
    Proceeds s { call with progress := .returned } := by
  refine ⟨proceeds.once, ?_, fun r => nofun, ?_, fun code => nofun⟩
  · exact fun k r at_place _ => proceeds.asked k r at_place (Or.inr (Or.inl sending))
  · exact fun _ => List.getElem?_eq_none_iff.mp done

theorem getLast_of_getElem {requests : List Nat} {k r : Nat} (at_place : requests[k]? = some r)
    (last : requests.length ≤ k + 1) : requests.getLast? = some r := by
  have bound := (List.getElem?_eq_some_iff.mp at_place).1
  have place : requests.length - 1 = k := by omega
  rw [List.getLast?_eq_getElem?, place, at_place]

theorem Proceeds.answer (proceeds : Proceeds s call) {r : Nat} {response : Response}
    (posting : call.progress = .posting r) (given : (r, response) ∈ s.server.answers) :
    Proceeds s { call with
      progress :=
        if Response.isSuccess response then .sending
        else .raised (.httpStatus response.statusCode) } := by
  have last := proceeds.posting r posting
  cases success : Response.isSuccess response with
  | true =>
      refine ⟨proceeds.once, ?_, fun r => nofun, nofun, fun code => nofun⟩
      intro k other at_place _
      by_cases before : k + 1 < call.requests.length
      · exact proceeds.asked k other at_place (Or.inl before)
      · have same := getLast_of_getElem at_place (Nat.le_of_not_lt before)
        rw [last] at same
        cases same
        exact ⟨_, response, given, rfl, success⟩
  | false =>
      refine ⟨proceeds.once, ?_, fun r => nofun, nofun, ?_⟩
      · intro k other at_place past
        rcases past with before | same | same
        · exact proceeds.asked k other at_place (Or.inl before)
        · cases same
        · cases same
      · intro code raised
        cases raised
        exact ⟨r, last, response, given, rfl, success⟩

section Post

variable {message : Content Str} {headers : Headers}

def State.post (net : Network) (s : State) (c : Nat) (call : Call) (message : Content Str)
    (headers : Headers) : State :=
  { s with
    server := { s.server with
      requests := s.server.requests ++ [⟨net.route call.topic, headers, none, .reading⟩] }
    bodies := s.bodies ++ [some message.payload]
    calls := s.calls.set c
      { call with
        requests := call.requests ++ [s.server.requests.length]
        progress := .posting s.server.requests.length } }

theorem post_goes : Goes s.server (s.post net c call message headers).server :=
  ⟨persists_append _, persists_refl _, fun _ member => member⟩

theorem post_bodies (r : Nat) (body : Option Bytes) (found : s.bodies[r]? = some body) :
    (s.post net c call message headers).bodies[r]? = some body :=
  getElem?_append_of_some _ found

theorem Sound.post_posted (sound : Sound net py config subscriber s)
    (posted : Posted net config s call)
    (next : call.messages[call.requests.length]? = some message)
    (sent : net.headers (requestHeaders config message) = some headers) :
    Posted net config (s.post net c call message headers)
      { call with
        requests := call.requests ++ [s.server.requests.length]
        progress := .posting s.server.requests.length } := by
  intro k r at_place
  rcases getElem?_append_cases _ at_place with ⟨rfl, rfl⟩ | before
  · refine ⟨message, ⟨net.route call.topic, headers, none, .reading⟩, next, ?_, ?_, rfl, sent⟩
    · rw [← sound.made.sizes]
      exact List.getElem?_concat_length
    · exact List.getElem?_concat_length
  · exact posted.goes post_goes post_bodies k r before

theorem Proceeds.post (proceeds : Proceeds s call) (posted : Posted net config s call)
    (sending : call.progress = .sending) :
    Proceeds (s.post net c call message headers)
      { call with
        requests := call.requests ++ [s.server.requests.length]
        progress := .posting s.server.requests.length } := by
  refine ⟨?_, ?_, ?_, nofun, fun code => nofun⟩
  · apply List.nodup_append'.mpr
    refine ⟨proceeds.once, List.nodup_singleton _, List.disjoint_singleton.mpr ?_⟩
    intro member
    rcases List.mem_iff_getElem?.mp member with ⟨k, at_place⟩
    rcases posted k _ at_place with ⟨-, request, -, -, found, -⟩
    exact absurd (List.getElem?_eq_some_iff.mp found).1 (Nat.lt_irrefl _)
  · intro k r at_place past
    rcases getElem?_append_cases _ at_place with ⟨rfl, rfl⟩ | before
    · rcases past with short | same | same
      · simp at short
      · cases same
      · cases same
    · rcases proceeds.asked k r before (Or.inr (Or.inl sending)) with ⟨code, answered⟩
      exact ⟨code, answered.goes post_goes⟩
  · intro r same
    cases same
    exact List.getLast?_concat

end Post

theorem proceeds_fresh {topic : Str} {messages : List (Content Str)} {progress : Progress}
    (starts : progress = .sending ∨ progress = .raised .runtimeError) :
    Proceeds s ⟨topic, messages, [], progress⟩ := by
  refine ⟨List.nodup_nil, fun _ _ none => absurd none (by simp), ?_, ?_, ?_⟩
  all_goals
    rcases starts with rfl | rfl
    all_goals simp

theorem Sound.publish (sound : Sound net py config subscriber s) (topic : Str)
    (messages : List (Content Str)) {progress : Progress}
    (starts : progress = .sending ∨ progress = .raised .runtimeError) :
    Sound net py config subscriber
      { s with calls := s.calls ++ [⟨topic, messages, [], progress⟩] } where
  tracked := sound.tracked
  made := sound.made
  posted := by
    intro other member
    rcases List.mem_append.mp member with before | last
    · exact sound.posted other before
    · rw [List.mem_singleton.mp last]
      exact fun _ _ none => absurd none (by simp)
  proceeds := by
    intro other member
    rcases List.mem_append.mp member with before | last
    · exact (sound.proceeds other before).goes (Goes.refl s.server)
    · rw [List.mem_singleton.mp last]
      exact proceeds_fresh starts
  known := by
    intro r body posted
    rcases sound.known r body posted with ⟨own, member, mine⟩
    exact ⟨own, List.mem_append_left _ member, mine⟩

theorem Sound.post {message : Content Str} {headers : Headers}
    (sound : Sound net py config subscriber s) (found : s.calls[c]? = some call)
    (sending : call.progress = .sending)
    (next : call.messages[call.requests.length]? = some message)
    (sent : net.headers (requestHeaders config message) = some headers) :
    Sound net py config subscriber (s.post net c call message headers) where
  tracked := step_tracked py subscriber s.server (.post (net.route call.topic) headers) _
    sound.tracked rfl
  made := sound.made.post _ _ _
  posted := by
    intro other inside
    rcases List.mem_or_eq_of_mem_set inside with before | rfl
    · exact (sound.posted other before).goes post_goes post_bodies
    · exact sound.post_posted (sound.posted call (List.mem_of_getElem? found)) next sent
  proceeds := by
    intro other inside
    rcases List.mem_or_eq_of_mem_set inside with before | rfl
    · exact (sound.proceeds other before).goes post_goes
    · have member := List.mem_of_getElem? found
      exact (sound.proceeds call member).post (sound.posted call member) sending
  known := by
    intro r body posted
    rcases getElem?_append_cases _ posted with ⟨rfl, -⟩ | before
    · refine ⟨_, List.mem_set (List.getElem?_eq_some_iff.mp found).1 _, ?_⟩
      rw [sound.made.sizes]
      exact List.mem_append_right _ (List.mem_singleton_self _)
    · exact sound.known.set found _ (fun r mine => List.mem_append_left _ mine) before

theorem bodiesAfter_of_some {bodies : List (Option Bytes)} (e : Http.Event) {r : Nat}
    {body : Option Bytes} (found : bodies[r]? = some body) :
    (bodiesAfter bodies e)[r]? = some body := by
  cases e with
  | post => exact getElem?_append_of_some _ found
  | _ => exact found

theorem posted_of_bodiesAfter {bodies : List (Option Bytes)} (e : Http.Event) {r : Nat}
    {body : Bytes} (posted : (bodiesAfter bodies e)[r]? = some (some body)) :
    bodies[r]? = some (some body) := by
  cases e with
  | post =>
      rcases getElem?_append_cases _ posted with ⟨-, none⟩ | before
      · cases none
      · exact before
  | _ => exact posted

theorem Sound.serve {e : Http.Event} {server : Http.State Value}
    (sound : Sound net py config subscriber s) (permitted : Permitted s e)
    (taken : Http.step py subscriber s.server e = some server) :
    Sound net py config subscriber
      { s with server := server, bodies := bodiesAfter s.bodies e } where
  tracked := step_tracked py subscriber s.server e server sound.tracked taken
  made := by
    apply made_step sound.tracked sound.made _ taken
    intro r payload uuid4 same
    subst same
    exact permitted
  posted := by
    intro other member
    apply (sound.posted other member).goes (goes_of_step taken)
    exact fun r body found => bodiesAfter_of_some e found
  proceeds := fun other member => (sound.proceeds other member).goes (goes_of_step taken)
  known := fun r body posted => sound.known r body (posted_of_bodiesAfter e posted)

theorem step_sound (e : Event) (sound : Sound net py config subscriber s)
    (taken : step net py config subscriber s e = some t) : Sound net py config subscriber t := by
  cases taken_of_step taken with
  | publish starts => exact sound.publish _ _ starts
  | returns found sending done =>
      have proceeds := sound.proceeds _ (List.mem_of_getElem? found)
      exact sound.setCall found (proceeds.finish sending done)
  | refused found sending own =>
      have proceeds := sound.proceeds _ (List.mem_of_getElem? found)
      apply sound.setCall found
      refine proceeds.stop ⟨nofun, nofun, fun r => nofun, ?_⟩
      intro code same
      cases same
      exact own code rfl
  | posts found sending next sent => exact sound.post found sending next sent
  | answered found posting given =>
      have proceeds := sound.proceeds _ (List.mem_of_getElem? found)
      exact sound.setCall found (proceeds.answer posting given)
  | fails found posting =>
      have proceeds := sound.proceeds _ (List.mem_of_getElem? found)
      apply sound.setCall found
      exact proceeds.stop ⟨nofun, nofun, fun r => nofun, fun code => nofun⟩
  | cancels found =>
      have proceeds := sound.proceeds _ (List.mem_of_getElem? found)
      apply sound.setCall found
      exact proceeds.stop ⟨nofun, nofun, fun r => nofun, fun code => nofun⟩
  | close =>
      refine ⟨sound.tracked, sound.made, sound.posted, ?_, sound.known⟩
      exact fun other member => (sound.proceeds other member).goes (Goes.refl s.server)
  | server permitted served => exact sound.serve permitted served

end Step

def AckedAt (s : State) (call : Call) (k : Nat) : Prop :=
  ∃ r request, call.requests[k]? = some r ∧ s.server.requests[r]? = some request ∧ request.Acked

/-- What a call has found out of its messages. -/
structure Outcome (net : Network) (config : HTTPPublisherConfig) (s : State) (call : Call) :
    Prop where
  posted : Posted net config s call
  once : call.requests.Nodup ∧ call.requests.length ≤ call.messages.length
  inOrder : ∀ k, k + 1 < call.requests.length → AckedAt s call k
  returned : call.progress = .returned → ∀ k < call.messages.length, AckedAt s call k
  refused : ∀ code, call.progress = .raised (.httpStatus code) →
    code = 500 ∧ ∃ k, k + 1 = call.requests.length ∧ ¬AckedAt s call k

section Outcome

variable {net : Network} {py : Python Value} {config : HTTPPublisherConfig}
  {subscriber : HTTPSubscriberConfig} {s : State} {call : Call} {r code : Nat}

theorem response_success (pending : PendingMessage Value) :
    Response.isSuccess pending.response = pending.acked := by
  rw [PendingMessage.response]
  cases pending.acked <;> rfl

theorem Answered.acked (tracked : Tracked s.server) (answered : Answered s r true code) :
    ∃ request, s.server.requests[r]? = some request ∧ request.Acked := by
  rcases answered with ⟨response, given, -, success⟩
  rcases tracked.given _ given with ⟨request, found, -, ⟨pending, has, set, rfl⟩ | ⟨-, rfl⟩⟩
  · rw [response_success] at success
    have agree := tracked.consistent request (List.mem_of_getElem? found) pending has
    refine ⟨request, found, pending, has, (response_acked agree set).1 ?_⟩
    rw [PendingMessage.response, success]
    rfl
  · cases success

theorem Answered.unacked (tracked : Tracked s.server) (answered : Answered s r false code) :
    code = 500 ∧ ∀ request, s.server.requests[r]? = some request → ¬request.Acked := by
  rcases answered with ⟨response, given, rfl, success⟩
  rcases tracked.given _ given with ⟨request, found, -, ⟨pending, has, set, rfl⟩ | ⟨none, rfl⟩⟩
  · rw [response_success] at success
    have agree := tracked.consistent request (List.mem_of_getElem? found) pending has
    refine ⟨by rw [PendingMessage.response, success]; rfl, ?_⟩
    intro other here acked
    rw [found] at here
    cases here
    rcases acked with ⟨same, again, flag⟩
    rw [has] at again
    cases again
    rcases agree with ⟨unset, -⟩ | ⟨-, flags⟩
    · rw [set] at unset
      cases unset
    · rw [flags, success] at flag
      cases flag
  · refine ⟨rfl, ?_⟩
    intro other here acked
    rw [found] at here
    cases here
    rcases acked with ⟨pending, has, -⟩
    rw [none] at has
    cases has

theorem Sound.outcome (sound : Sound net py config subscriber s) (member : call ∈ s.calls) :
    Outcome net config s call := by
  have posted := sound.posted call member
  have proceeds := sound.proceeds call member
  have fits : call.requests.length ≤ call.messages.length := by
    by_cases empty : call.requests.length = 0
    · omega
    · rcases List.getElem?_eq_some_iff.mp (List.getElem?_eq_getElem
        (show call.requests.length - 1 < call.requests.length by omega)) with ⟨bound, -⟩
      rcases posted _ _ (List.getElem?_eq_getElem bound) with ⟨message, -, here, -⟩
      have within := (List.getElem?_eq_some_iff.mp here).1
      omega
  have known (k : Nat) (bound : k < call.requests.length)
      (past : k + 1 < call.requests.length ∨ call.progress = .sending ∨
        call.progress = .returned) : AckedAt s call k := by
    have at_place := List.getElem?_eq_getElem bound
    rcases proceeds.asked k _ at_place past with ⟨code, answered⟩
    rcases answered.acked sound.tracked with ⟨request, found, acked⟩
    exact ⟨_, request, at_place, found, acked⟩
  refine ⟨posted, ⟨proceeds.once, fits⟩, fun k bound => known k (by omega) (Or.inl bound), ?_, ?_⟩
  · intro returned k bound
    have all := proceeds.returned returned
    exact known k (by omega) (Or.inr (Or.inr returned))
  · intro code raised
    rcases proceeds.status code raised with ⟨r, last, answered⟩
    rcases answered.unacked sound.tracked with ⟨internal, unacked⟩
    refine ⟨internal, call.requests.length - 1, ?_, ?_⟩
    · have some_request : call.requests ≠ [] := by
        intro empty
        rw [empty] at last
        cases last
      have positive := List.length_pos_iff.mpr some_request
      omega
    · intro acked
      rcases acked with ⟨other, request, here, found, flag⟩
      rw [← List.getLast?_eq_getElem?, last] at here
      cases here
      exact unacked request found flag

end Outcome

/-- In every run, a call of `publish` posts each message with its headers, once and in order, each
after the consumer has acked the one before, and nothing else. It returns when all are acked, and a
message on which it fails with a status was not. -/
theorem published_when_acked (net : Network) (py : Python Value) (config : HTTPPublisherConfig)
    (subscriber : HTTPSubscriberConfig) (events : List Event) (s : State)
    (run : exec (step net py config subscriber) initial events = some s) :
    (∀ call ∈ s.calls, Outcome net config s call) ∧ Known s := by
  have sound : Sound net py config subscriber s :=
    exec_preserves (fun _ e _ sound taken => step_sound e sound taken) initial_sound run
  exact ⟨fun call member => sound.outcome member, sound.known⟩

def asciiLower (text : Str) : Str :=
  text.map fun c => if 65 ≤ c.val ∧ c.val ≤ 90 then c + 32 else c

def asgi : Network := ⟨fun headers => some (headers.map fun header =>
  (asciiLower header.1, header.2)), id⟩

def posts : HTTPPublisherConfig := ⟨ofString "Message-Uuid", ofString "Message-Metadata"⟩

def cancelled : Content Str := ⟨[2], Dict.empty, 8⟩

def http : Python Value :=
  { python asciiLower ⟨1000, 4300⟩ ⟨fun _ => false, fun _ => none⟩ with
    uuid := fun text => [7, 8].find? fun uuid => Uuid.toStr uuid = text }

def secondNacked : List Event :=
  [.server (.subscribe orders), .server (.next 0),
    .publish orders [created, cancelled], .advance 0, .server (.receiveBody 0 [1] 0),
    .server (.take 0), .server (.ack 0), .server (.respond 0), .answer 0, .advance 0,
    .server (.receiveBody 1 [2] 0), .server (.next 0), .server (.take 0), .server (.nack 1),
    .server (.respond 1), .answer 0]

theorem published_first_alone : ∃ s,
    exec (step asgi http posts defaults) initial secondNacked = some s ∧
      (∀ call ∈ s.calls, Outcome asgi posts s call) ∧ Known s := by
  have goes : (exec (step asgi http posts defaults) initial secondNacked).isSome := by
    decide +kernel
  rcases Option.isSome_iff_exists.mp goes with ⟨s, run⟩
  exact ⟨s, run, published_when_acked asgi http posts defaults secondNacked s run⟩

example : (exec (step asgi http posts defaults) initial secondNacked).map
    (fun s => s.calls.map Call.progress) = some [.raised (.httpStatus 500)] := by decide +kernel

section Contents

variable {lower : Str → Str} {limits : Limits} {unicode : Uuid.Unicode} {net : Network}
  {config : HTTPPublisherConfig} {subscriber : HTTPSubscriberConfig}

/-- The two sides name the headers alike, up to their case, and each has a name of its own. -/
structure Agree (lower : Str → Str) (config : HTTPPublisherConfig)
    (subscriber : HTTPSubscriberConfig) : Prop where
  uuid : lower config.uuidHeader = lower subscriber.uuidHeader
  metadata : lower config.metadataHeader = lower subscriber.metadataHeader
  apart : lower config.uuidHeader ≠ lower config.metadataHeader
  uuidContent : lower config.uuidHeader ≠ lower (ofString "Content-Type")
  metadataContent : lower config.metadataHeader ≠ lower (ofString "Content-Type")

/-- The headers of a request arrive under their names, in whatever case. -/
def Network.Delivers (net : Network) (py : Python Value) : Prop :=
  ∀ headers sent, (headers.map (fun header => py.lower header.1)).Nodup →
    net.headers headers = some sent → ∀ header ∈ headers, Carries py sent header.1 header.2

theorem Agree.distinct (agree : Agree lower config subscriber) :
    [lower config.uuidHeader, lower config.metadataHeader,
      lower (ofString "Content-Type")].Nodup := by
  simp [agree.apart, agree.uuidContent, agree.metadataContent]

theorem requestHeaders_eq (agree : Agree lower config subscriber) (message : Content Str) :
    requestHeaders config message =
      [(config.uuidHeader, Uuid.toStr message.uuid),
        (config.metadataHeader, metadataToHeader message.metadata),
        (ofString "Content-Type", ofString "application/octet-stream")] := by
  have distinct : [config.uuidHeader, config.metadataHeader, ofString "Content-Type"].Nodup :=
    List.Nodup.of_map lower agree.distinct
  exact Dict.entries_setAll_of_fresh distinct

theorem extractUuid_carried {py : Python Value} {headers : Headers} {name value : Str}
    {uuid4 : BitVec 128} (carries : Carries py headers name value) :
    extractUuid py headers name uuid4 = py.uuid value := by
  rw [extractUuid, headerValue_carried carries]

theorem python_uuid (text : Str) : (python lower limits unicode).uuid text =
    Uuid.parse unicode text := rfl

theorem messageOf_eq {py : Python Value} {headers : Headers} {payload : Bytes}
    {uuid4 uuid : BitVec 128} {metadata : Value}
    (extracted : extractMetadata py headers subscriber.metadataHeader = some metadata)
    (read : extractUuid py headers subscriber.uuidHeader uuid4 = some uuid) :
    messageOf py subscriber headers payload uuid4 =
      some ⟨payload, metadata, uuid, AckState.fresh⟩ := by
  rw [messageOf, extracted, read]
  rfl

theorem messageOf_posted (nests : 0 < limits.depth) (agree : Agree lower config subscriber)
    (delivers : net.Delivers (python lower limits unicode)) {message : Content Str}
    {headers : Headers} (sent : net.headers (requestHeaders config message) = some headers)
    (unpaired : ∀ entry ∈ message.metadata.entries,
      Json.Unpaired entry.1 ∧ Json.Unpaired entry.2) (payload : Bytes) (uuid4 : BitVec 128) :
    messageOf (python lower limits unicode) subscriber headers payload uuid4 =
      some ⟨payload, Json.ofStrings message.metadata, message.uuid, AckState.fresh⟩ := by
  rw [requestHeaders_eq agree] at sent
  have carried := delivers [(config.uuidHeader, Uuid.toStr message.uuid),
    (config.metadataHeader, metadataToHeader message.metadata),
    (ofString "Content-Type", ofString "application/octet-stream")] headers agree.distinct sent
  have uuid : Carries (python lower limits unicode) headers subscriber.uuidHeader
      (Uuid.toStr message.uuid) := by
    have own := carried (config.uuidHeader, Uuid.toStr message.uuid) (by simp)
    rw [Carries] at own ⊢
    have same : (python lower limits unicode).lower config.uuidHeader =
      (python lower limits unicode).lower subscriber.uuidHeader := agree.uuid
    rwa [same] at own
  have metadata : Carries (python lower limits unicode) headers subscriber.metadataHeader
      (metadataToHeader message.metadata) := by
    have own := carried (config.metadataHeader, metadataToHeader message.metadata) (by simp)
    rw [Carries] at own ⊢
    have same : (python lower limits unicode).lower config.metadataHeader =
      (python lower limits unicode).lower subscriber.metadataHeader := agree.metadata
    rwa [same] at own
  have undone : (python lower limits unicode).loads (Json.dumps message.metadata) =
      .ok (Json.ofStrings message.metadata) := by
    have whole := Json.loads_dumps nests message.metadata unpaired
    simp only [python, whole]
    rfl
  have extracted := roundTrips _ _ message.metadata headers undone metadata
  have read : extractUuid (python lower limits unicode) headers subscriber.uuidHeader uuid4 =
      some message.uuid := by
    rw [extractUuid_carried uuid, python_uuid, Uuid.parse_toStr]
  exact messageOf_eq extracted read

end Contents

/-- Who is handed the request of a message has subscribed to its topic, as the server reads it, and
has the contents of the message before him. -/
structure HandedOver (net : Network) (s : State) (call : Call) (k r i : Nat) : Prop where
  contents : ∃ message request pending, call.messages[k]? = some message ∧
    s.server.requests[r]? = some request ∧ request.pending = some pending ∧
      pending.message.payload = message.payload ∧ pending.message.uuid = message.uuid ∧
        pending.message.metadata = Json.ofStrings message.metadata
  topic : ∃ iterator, s.server.iterators[i]? = some iterator ∧
    iterator.topic = net.route call.topic

/-- Wherever the two sides agree on the names of the headers, every message that a call publishes
and an iterator is handed has the payload, the uuid and the metadata that were published, and comes
to a subscription of its topic: whatever other requests, failures and settlements there are. -/
theorem handed_as_published (lower : Str → Str) (limits : Limits) (unicode : Uuid.Unicode)
    (net : Network) (config : HTTPPublisherConfig) (subscriber : HTTPSubscriberConfig)
    (nests : 0 < limits.depth) (agree : Agree lower config subscriber)
    (delivers : net.Delivers (python lower limits unicode)) (events : List Event) (s : State)
    (run : exec (step net (python lower limits unicode) config subscriber) initial events = some s)
    (call : Call) (member : call ∈ s.calls)
    (unpaired : ∀ message ∈ call.messages, ∀ entry ∈ message.metadata.entries,
      Json.Unpaired entry.1 ∧ Json.Unpaired entry.2) (k r i : Nat)
    (posted : call.requests[k]? = some r) (handed : (r, i) ∈ s.server.handed) :
    HandedOver net s call k r i := by
  have sound : Sound net (python lower limits unicode) config subscriber s :=
    exec_preserves (fun _ e _ sound taken => step_sound e sound taken) initial_sound run
  rcases sound.posted call member k r posted with
    ⟨message, request, here, body, found, topic, sent⟩
  rcases sound.tracked.known r (List.mem_map.mpr ⟨_, handed, rfl⟩) with ⟨_, again, some_pending⟩
  rw [found] at again
  cases again
  rcases Option.isSome_iff_exists.mp some_pending with ⟨pending, has⟩
  rcases sound.made.message r request pending found has with ⟨⟨uuid4, makes⟩, arrived⟩
  rw [messageOf_posted nests agree delivers sent
    (unpaired message (List.mem_of_getElem? here))] at makes
  have contents := Option.some.inj makes
  have uuid := (congrArg Http.Message.uuid contents).symm
  have metadata := (congrArg Http.Message.metadata contents).symm
  refine ⟨⟨message, request, pending, here, found, has, arrived _ body, uuid, metadata⟩, ?_⟩
  rcases sound.made.handed (r, i) handed with ⟨_, iterator, again, there, same⟩
  rw [found] at again
  cases again
  exact ⟨iterator, there, same.trans topic⟩

theorem asciiLower_asciiLower (text : Str) : asciiLower (asciiLower text) = asciiLower text := by
  rw [asciiLower, asciiLower, List.map_map]
  apply List.map_congr_left
  intro c _
  rw [Function.comp_apply]
  split
  · have shifted : (c + 32).val = c.val + 32 := by
      rw [Fin.val_add]
      have small : (32 : CodePoint).val = 32 := rfl
      omega
    rw [if_neg (by omega)]
  · rfl

theorem asgi_delivers (limits : Limits) (unicode : Uuid.Unicode) :
    asgi.Delivers (python asciiLower limits unicode) := by
  intro headers sent distinct same header member
  cases same
  have own : (asciiLower header.1, header.2) ∈
      headers.map (fun header => (asciiLower header.1, header.2)) :=
    List.mem_map.mpr ⟨header, member, rfl⟩
  refine ⟨⟨asciiLower header.1, own, asciiLower_asciiLower header.1⟩, ?_⟩
  intro entry inside named
  rcases List.mem_map.mp inside with ⟨other, listed, rfl⟩
  have alike : asciiLower other.1 = asciiLower header.1 :=
    (asciiLower_asciiLower other.1).symm.trans named
  rw [List.inj_on_of_nodup_map distinct listed member alike]

theorem step_receiveBody {net : Network} {py : Python Value} {config : HTTPPublisherConfig}
    {subscriber : HTTPSubscriberConfig} {s : State} {r : Nat} {request : Request Value}
    {payload : Bytes} {uuid4 : BitVec 128} {message : Http.Message Value}
    (permitted : Permitted s (.receiveBody r payload uuid4))
    (found : s.server.requests[r]? = some request) (reading : request.stage = .reading)
    (made : messageOf py subscriber request.headers payload uuid4 = some message) :
    step net py config subscriber s (.server (.receiveBody r payload uuid4)) =
      some { s with
        server := { s.server with
          requests := s.server.requests.set r
            { request with pending := some ⟨message, false, false⟩, stage := .waiting }
          queues := Function.update s.server.queues request.topic
            (s.server.queues request.topic ++ [r]) } } := by
  simp only [step, Http.step, if_pos permitted, found, if_pos reading, receiveBody, made,
    Option.map_some, bodiesAfter]

theorem posts_agree : Agree asciiLower posts defaults := by
  constructor <;> decide

theorem created_handed_over :
    ∃ s call, exec (step asgi (python asciiLower ⟨1000, 4300⟩ ⟨fun _ => false, fun _ => none⟩)
        posts defaults) initial
      [.publish orders [created], .advance 0,
        .server (.subscribe orders), .server (.next 0),
        .server (.receiveBody 0 [1] 0), .server (.take 0)] = some s ∧
      HandedOver asgi s call 0 0 0 := by
  have unpaired : ∀ entry ∈ created.metadata.entries,
      Json.Unpaired entry.1 ∧ Json.Unpaired entry.2 := by decide
  have sent : asgi.headers (requestHeaders posts created) = some
      ((requestHeaders posts created).map fun header => (asciiLower header.1, header.2)) := rfl
  have made := messageOf_posted (by decide) posts_agree
    (asgi_delivers ⟨1000, 4300⟩ ⟨fun _ => false, fun _ => none⟩) sent unpaired [1] 0
  have run : ∃ s call, exec (step asgi (python asciiLower ⟨1000, 4300⟩
      ⟨fun _ => false, fun _ => none⟩) posts defaults) initial
        [.publish orders [created], .advance 0,
          .server (.subscribe orders), .server (.next 0),
          .server (.receiveBody 0 [1] 0), .server (.take 0)] = some s ∧
      call ∈ s.calls ∧ call.messages = [created] ∧ call.requests[0]? = some 0 ∧
        (0, 0) ∈ s.server.handed := by
    refine ⟨_, _, exec_cons.mpr ⟨_, rfl, exec_cons.mpr ⟨_, rfl, exec_cons.mpr ⟨_, rfl,
      exec_cons.mpr ⟨_, rfl, exec_cons.mpr ⟨_, step_receiveBody (by decide) rfl rfl made,
        exec_cons.mpr ⟨_, rfl, rfl⟩⟩⟩⟩⟩⟩, List.mem_cons_self, rfl, rfl, List.mem_cons_self⟩
  rcases run with ⟨s, call, run, member, same, posted, handed⟩
  refine ⟨s, call, run, ?_⟩
  apply handed_as_published asciiLower ⟨1000, 4300⟩ ⟨fun _ => false, fun _ => none⟩ asgi posts
    defaults (by decide) posts_agree (asgi_delivers _ _) _ _ run _ member _ _ _ _ posted handed
  intro message listed
  rw [same, List.mem_singleton] at listed
  rw [listed]
  exact unpaired

end Natricine.Http.Publisher
