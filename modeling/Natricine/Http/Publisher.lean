import Natricine.Http.Marshaling
import Natricine.Http.RequestResponse

/-! `HTTPPublisher` in front of an `HTTPSubscriber`: the calls of `publish`, each advanced from one
request to the next, with the handlers and the iterators that their requests meet. -/

namespace Natricine.Http.Publisher

open PubSub Text Transition
open Json (Value Limits)

/-- What a call reads of the configuration, besides where it posts. -/
structure HTTPPublisherConfig where
  uuidHeader : Str
  metadataHeader : Str

/-- Between the client and the handler: the headers of a request as the handler finds them, unless
the client refuses to send them, and the topic that it reads from the URL made of a topic. -/
structure Network where
  headers : Headers → Option Headers
  route : Str → Str

inductive PublishError where
  | runtimeError
  | transport
  | httpStatus (code : Nat)
  deriving DecidableEq, Repr

/-- Where a call stands: before its next request or its end, in `client.post`, or over. -/
inductive Progress where
  | sending
  | posting (request : Nat)
  | returned
  | raised (error : PublishError)
  | cancelled
  deriving DecidableEq, Repr

structure Call where
  topic : Str
  messages : List (Content Str)
  requests : List Nat
  progress : Progress

/-- `bodies` has the body of each request that a call has posted; those of others may send what
they like. -/
structure State where
  server : Http.State Value
  bodies : List (Option Bytes)
  closed : Bool
  calls : List Call

/-- `uuid4` of a body is drawn where the headers name no uuid. -/
inductive Event where
  | publish (topic : Str) (messages : List (Content Str))
  | advance (call : Nat)
  | answer (call : Nat)
  | fail (call : Nat)
  | cancel (call : Nat)
  | close
  | server (event : Http.Event)

def initial : State := ⟨Http.initial, [], false, []⟩

def requestHeaders (config : HTTPPublisherConfig) (message : Content Str) : Headers :=
  (Dict.empty.setAll [(config.uuidHeader, Uuid.toStr message.uuid),
    (config.metadataHeader, metadataToHeader message.metadata),
    (ofString "Content-Type", ofString "application/octet-stream")]).entries

/-- `raise_for_status` raises elsewhere. -/
def Response.isSuccess (response : Response) : Bool :=
  200 ≤ response.statusCode && response.statusCode < 300

def State.setCall (s : State) (c : Nat) (call : Call) : State :=
  { s with calls := s.calls.set c call }

/-- The turn of the loop of `publish`: the next message is posted. -/
def advance (net : Network) (config : HTTPPublisherConfig) (s : State) (c : Nat) (call : Call) :
    State :=
  match call.messages[call.requests.length]? with
  | none => s.setCall c { call with progress := .returned }
  | some message =>
      if s.closed then s.setCall c { call with progress := .raised .runtimeError }
      else
        match net.headers (requestHeaders config message) with
        | none => s.setCall c { call with progress := .raised .transport }
        | some headers =>
            let r := s.server.requests.length
            { s with
              server := { s.server with
                requests := s.server.requests ++ [⟨net.route call.topic, headers, none, .reading⟩] }
              bodies := s.bodies ++ [some message.payload]
              calls := s.calls.set c
                { call with requests := call.requests ++ [r], progress := .posting r } }

def Permitted (s : State) : Http.Event → Prop
  | .receiveBody r payload _ => ∀ body ∈ s.bodies[r]?, ∀ posted ∈ body, payload = posted
  | _ => True

instance decidablePermitted (s : State) : (e : Http.Event) → Decidable (Permitted s e)
  | .receiveBody r payload _ =>
      inferInstanceAs (Decidable (∀ body ∈ s.bodies[r]?, ∀ posted ∈ body, payload = posted))
  | .post _ _ | .drop _ | .respond _ | .subscribe _ | .next _ | .take _ | .timeout _ | .leave _
  | .ack _ | .nack _ | .close => isTrue trivial

def bodiesAfter (bodies : List (Option Bytes)) : Http.Event → List (Option Bytes)
  | .post _ _ => bodies ++ [none]
  | _ => bodies

def step (net : Network) (py : Python Value) (config : HTTPPublisherConfig)
    (subscriber : HTTPSubscriberConfig) (s : State) : Event → Option State
  | .publish topic messages =>
      some { s with
        calls := s.calls ++
          [⟨topic, messages, [], if s.closed then .raised .runtimeError else .sending⟩] }
  | .advance c =>
      match s.calls[c]? with
      | some call =>
          if call.progress = .sending then some (advance net config s c call) else none
      | none => none
  | .answer c =>
      match s.calls[c]? with
      | some call =>
          match call.progress with
          | .posting r =>
              (s.server.answers.find? (fun answer => answer.1 = r)).map fun answer =>
                s.setCall c
                  { call with
                    progress :=
                      if Response.isSuccess answer.2 then .sending
                      else .raised (.httpStatus answer.2.statusCode) }
          | .sending | .returned | .raised _ | .cancelled => none
      | none => none
  | .fail c =>
      match s.calls[c]? with
      | some call =>
          match call.progress with
          | .posting _ => some (s.setCall c { call with progress := .raised .transport })
          | .sending | .returned | .raised _ | .cancelled => none
      | none => none
  | .cancel c =>
      match s.calls[c]? with
      | some call =>
          match call.progress with
          | .sending | .posting _ => some (s.setCall c { call with progress := .cancelled })
          | .returned | .raised _ | .cancelled => none
      | none => none
  | .close => some { s with closed := true }
  | .server e =>
      if Permitted s e then
        (Http.step py subscriber s.server e).map fun server =>
          { s with server := server, bodies := bodiesAfter s.bodies e }
      else none

inductive Taken (net : Network) (py : Python Value) (config : HTTPPublisherConfig)
    (subscriber : HTTPSubscriberConfig) (s : State) : Event → State → Prop where
  | publish {topic : Str} {messages : List (Content Str)} {progress : Progress}
      (starts : progress = .sending ∨ progress = .raised .runtimeError) :
      Taken net py config subscriber s (.publish topic messages)
        { s with calls := s.calls ++ [⟨topic, messages, [], progress⟩] }
  | returns {c : Nat} {call : Call} (found : s.calls[c]? = some call)
      (sending : call.progress = .sending)
      (done : call.messages[call.requests.length]? = none) :
      Taken net py config subscriber s (.advance c)
        (s.setCall c { call with progress := .returned })
  | refused {c : Nat} {call : Call} {error : PublishError} (found : s.calls[c]? = some call)
      (sending : call.progress = .sending) (local' : ∀ code, error ≠ .httpStatus code) :
      Taken net py config subscriber s (.advance c)
        (s.setCall c { call with progress := .raised error })
  | posts {c : Nat} {call : Call} {message : Content Str} {headers : Headers}
      (found : s.calls[c]? = some call) (sending : call.progress = .sending)
      (next : call.messages[call.requests.length]? = some message)
      (sent : net.headers (requestHeaders config message) = some headers) :
      Taken net py config subscriber s (.advance c)
        { s with
          server := { s.server with
            requests := s.server.requests ++ [⟨net.route call.topic, headers, none, .reading⟩] }
          bodies := s.bodies ++ [some message.payload]
          calls := s.calls.set c
            { call with
              requests := call.requests ++ [s.server.requests.length]
              progress := .posting s.server.requests.length } }
  | answered {c r : Nat} {call : Call} {response : Response} (found : s.calls[c]? = some call)
      (posting : call.progress = .posting r) (given : (r, response) ∈ s.server.answers) :
      Taken net py config subscriber s (.answer c)
        (s.setCall c
          { call with
            progress :=
              if Response.isSuccess response then .sending
              else .raised (.httpStatus response.statusCode) })
  | fails {c r : Nat} {call : Call} (found : s.calls[c]? = some call)
      (posting : call.progress = .posting r) :
      Taken net py config subscriber s (.fail c)
        (s.setCall c { call with progress := .raised .transport })
  | cancels {c : Nat} {call : Call} (found : s.calls[c]? = some call) :
      Taken net py config subscriber s (.cancel c)
        (s.setCall c { call with progress := .cancelled })
  | close : Taken net py config subscriber s .close { s with closed := true }
  | server {e : Http.Event} {server : Http.State Value} (permitted : Permitted s e)
      (taken : Http.step py subscriber s.server e = some server) :
      Taken net py config subscriber s (.server e)
        { s with server := server, bodies := bodiesAfter s.bodies e }

section Taken

variable {net : Network} {py : Python Value} {config : HTTPPublisherConfig}
  {subscriber : HTTPSubscriberConfig} {s t : State}

theorem taken_of_advance {c : Nat} {call : Call} (found : s.calls[c]? = some call)
    (sending : call.progress = .sending) :
    Taken net py config subscriber s (.advance c) (advance net config s c call) := by
  rw [advance]
  cases next : call.messages[call.requests.length]? with
  | none => exact .returns found sending next
  | some message =>
      dsimp only
      split
      · exact .refused found sending (fun _ => PublishError.noConfusion)
      · cases sent : net.headers (requestHeaders config message) with
        | none => exact .refused found sending (fun _ => PublishError.noConfusion)
        | some headers => exact .posts found sending next sent

theorem taken_of_step {e : Event} (taken : step net py config subscriber s e = some t) :
    Taken net py config subscriber s e t := by
  cases e with
  | publish topic messages =>
      cases taken
      apply Taken.publish
      cases s.closed
      · exact Or.inl rfl
      · exact Or.inr rfl
  | advance c =>
      simp only [step] at taken
      split at taken
      · rename_i call found
        split at taken
        · rename_i sending
          cases taken
          exact taken_of_advance found sending
        · cases taken
      · cases taken
  | answer c =>
      simp only [step] at taken
      split at taken
      · rename_i call found
        split at taken
        · rename_i r posting
          rcases Option.map_eq_some_iff.mp taken with ⟨⟨place, response⟩, given, rfl⟩
          have here : place = r := by simpa using List.find?_some given
          subst here
          exact .answered found posting (List.mem_of_find?_eq_some given)
        all_goals cases taken
      · cases taken
  | fail c =>
      simp only [step] at taken
      split at taken
      · rename_i call found
        split at taken
        · rename_i r posting
          cases taken
          exact .fails found posting
        all_goals cases taken
      · cases taken
  | cancel c =>
      simp only [step] at taken
      split at taken
      · rename_i call found
        split at taken
        · cases taken
          exact .cancels found
        · cases taken
          exact .cancels found
        all_goals cases taken
      · cases taken
  | close =>
      cases taken
      exact .close
  | server e =>
      simp only [step] at taken
      split at taken
      · rename_i permitted
        rcases Option.map_eq_some_iff.mp taken with ⟨server, goes, rfl⟩
        exact .server permitted goes
      · cases taken

end Taken

end Natricine.Http.Publisher
