import Natricine.Library.Text
import Natricine.Library.Transition
import Natricine.Library.Update
import Natricine.PubSub.Message
import Mathlib.Logic.Function.Basic

/-! `HTTPSubscriber`: the handler of each POST request, the iterators over the queues of the topics,
and the settlement that the handler waits for, each advanced from one suspension to the next. -/

namespace Natricine.Http

open PubSub Text

/-- What `json.loads` raises: the error that is caught, or one that is not. -/
inductive LoadsError where
  | jsonDecodeError
  | other
  deriving DecidableEq, Repr

/-- The parts of the standard library that read the headers, over the type `J` of JSON values;
`uuid` is `UUID(value)`, which raises `ValueError` on text that it cannot read. -/
structure Python (J : Type) where
  lower : Str → Str
  loads : Str → Except LoadsError J
  emptyObject : J
  uuid : Str → Option (BitVec 128)

structure HTTPSubscriberConfig where
  uuidHeader : Str
  metadataHeader : Str

abbrev Headers := List (Str × Str)

structure Message (J : Type) where
  payload : Bytes
  metadata : J
  uuid : BitVec 128
  ackState : AckState

/-- `_PendingMessage`; `result` is whether the event is set. -/
structure PendingMessage (J : Type) where
  message : Message J
  result : Bool
  acked : Bool

structure Response where
  statusCode : Nat
  content : String
  deriving DecidableEq, Repr

/-- Where `_handle_request` stands: in `request.body()`, in `pending.result.wait()`, or over, with
an answer sent or none (the client has gone or the task was cancelled). -/
inductive Stage where
  | reading
  | waiting
  | answered
  | dropped
  deriving DecidableEq, Repr

structure Request (J : Type) where
  topic : Str
  headers : Headers
  pending : Option (PendingMessage J)
  stage : Stage

/-- Where `_subscribe_iter` stands: not begun, in `queue.get()`, at its `yield`, or over. -/
inductive Iteration where
  | created
  | getting
  | yielded
  | ended
  deriving DecidableEq, Repr

structure Iterator where
  topic : Str
  stage : Iteration
  deriving DecidableEq, Repr

/-- A queue holds the places of its requests; a topic without a queue has an empty one. `handed`
and `answers` are read by no code. -/
structure State (J : Type) where
  closed : Bool
  requests : List (Request J)
  queues : Str → List Nat
  iterators : List Iterator
  handed : List (Nat × Nat)
  answers : List (Nat × Response)

/-- `receiveBody` comes with what `uuid4()` would draw. -/
inductive Event where
  | post (topic : Str) (headers : Headers)
  | receiveBody (request : Nat) (payload : Bytes) (uuid4 : BitVec 128)
  | drop (request : Nat)
  | respond (request : Nat)
  | subscribe (topic : Str)
  | next (iterator : Nat)
  | take (iterator : Nat)
  | timeout (iterator : Nat)
  | leave (iterator : Nat)
  | ack (request : Nat)
  | nack (request : Nat)
  | close
  deriving DecidableEq, Repr

variable {J : Type}

def initial : State J := ⟨false, [], fun _ => [], [], [], []⟩

def headerValue (py : Python J) (headers : Headers) (name : Str) : Option Str :=
  (headers.find? (fun entry => py.lower entry.1 = py.lower name)).map Prod.snd

def extractMetadata (py : Python J) (headers : Headers) (metadataHeader : Str) : Option J :=
  match headerValue py headers metadataHeader with
  | none => some py.emptyObject
  | some value =>
      match py.loads value with
      | .ok metadata => some metadata
      | .error .jsonDecodeError => some py.emptyObject
      | .error .other => none

def extractUuid (py : Python J) (headers : Headers) (uuidHeader : Str) (uuid4 : BitVec 128) :
    Option (BitVec 128) :=
  match headerValue py headers uuidHeader with
  | none => some uuid4
  | some value => py.uuid value

/-- The `Message(...)` of `_handle_request`, `none` where the headers make it raise. -/
def messageOf (py : Python J) (config : HTTPSubscriberConfig) (headers : Headers)
    (payload : Bytes) (uuid4 : BitVec 128) : Option (Message J) := do
  let metadata ← extractMetadata py headers config.metadataHeader
  let uuid ← extractUuid py headers config.uuidHeader uuid4
  return ⟨payload, metadata, uuid, AckState.fresh⟩

/-- What `_handle_request` returns after the wait. -/
def PendingMessage.response (pending : PendingMessage J) : Response :=
  if pending.acked then ⟨200, "OK"⟩ else ⟨500, "Processing failed"⟩

def serverError : Response := ⟨500, "Internal Server Error"⟩

/-- `ack()` or `nack()` of the message, the closure included; a refused call raises. -/
def PendingMessage.settle (pending : PendingMessage J) (accept : Bool) : PendingMessage J :=
  match if accept then pending.message.ackState.ack else pending.message.ackState.nack with
  | .ok ackState => ⟨{ pending.message with ackState := ackState }, true, accept⟩
  | .error _ => pending

def receiveBody (py : Python J) (config : HTTPSubscriberConfig) (s : State J) (r : Nat)
    (request : Request J) (payload : Bytes) (uuid4 : BitVec 128) : State J :=
  match messageOf py config request.headers payload uuid4 with
  | some message =>
      { s with
        requests := s.requests.set r
          { request with pending := some ⟨message, false, false⟩, stage := .waiting }
        queues := Function.update s.queues request.topic (s.queues request.topic ++ [r]) }
  | none =>
      { s with
        requests := s.requests.set r { request with stage := .answered }
        answers := s.answers ++ [(r, serverError)] }

/-- The test of the loop of `_subscribe_iter`, and the call of `queue.get()` behind it. -/
def loopTest (s : State J) (i : Nat) (iterator : Iterator) : State J :=
  { s with
    iterators := s.iterators.set i
      { iterator with stage := if s.closed then .ended else .getting } }

def settled (s : State J) (r : Nat) (request : Request J) (accept : Bool) : State J :=
  { s with
    requests := s.requests.set r
      { request with pending := request.pending.map (fun pending => pending.settle accept) } }

def settle (s : State J) (r : Nat) (accept : Bool) : Option (State J) :=
  match s.requests[r]? with
  | some request =>
      if r ∈ s.handed.map Prod.fst then some (settled s r request accept) else none
  | none => none

def step (py : Python J) (config : HTTPSubscriberConfig) (s : State J) : Event → Option (State J)
  | .post topic headers =>
      some { s with requests := s.requests ++ [⟨topic, headers, none, .reading⟩] }
  | .receiveBody r payload uuid4 =>
      match s.requests[r]? with
      | some request =>
          if request.stage = .reading then some (receiveBody py config s r request payload uuid4)
          else none
      | none => none
  | .drop r =>
      match s.requests[r]? with
      | some request =>
          if request.stage = .reading ∨ request.stage = .waiting then
            some { s with requests := s.requests.set r { request with stage := .dropped } }
          else none
      | none => none
  | .respond r =>
      match s.requests[r]? with
      | some request =>
          match request.stage, request.pending with
          | .waiting, some pending =>
              if pending.result then
                some { s with
                  requests := s.requests.set r { request with stage := .answered }
                  answers := s.answers ++ [(r, pending.response)] }
              else none
          | _, _ => none
      | none => none
  | .subscribe topic => some { s with iterators := s.iterators ++ [⟨topic, .created⟩] }
  | .next i =>
      match s.iterators[i]? with
      | some iterator =>
          if iterator.stage = .created ∨ iterator.stage = .yielded then some (loopTest s i iterator)
          else none
      | none => none
  | .take i =>
      match s.iterators[i]? with
      | some iterator =>
          match iterator.stage, s.queues iterator.topic with
          | .getting, r :: rest =>
              some { s with
                queues := Function.update s.queues iterator.topic rest
                iterators := s.iterators.set i { iterator with stage := .yielded }
                handed := s.handed ++ [(r, i)] }
          | _, _ => none
      | none => none
  | .timeout i =>
      match s.iterators[i]? with
      | some iterator =>
          if iterator.stage = .getting then some (loopTest s i iterator) else none
      | none => none
  | .leave i =>
      match s.iterators[i]? with
      | some iterator =>
          if iterator.stage = .ended then none
          else some { s with iterators := s.iterators.set i { iterator with stage := .ended } }
      | none => none
  | .ack r => settle s r true
  | .nack r => settle s r false
  | .close => some { s with closed := true }

inductive Taken (py : Python J) (config : HTTPSubscriberConfig) (s : State J) :
    Event → State J → Prop where
  | post {topic : Str} {headers : Headers} : Taken py config s (.post topic headers)
      { s with requests := s.requests ++ [⟨topic, headers, none, .reading⟩] }
  | receiveBody {r : Nat} {request : Request J} {payload : Bytes} {uuid4 : BitVec 128}
      (found : s.requests[r]? = some request) (reading : request.stage = .reading) :
      Taken py config s (.receiveBody r payload uuid4)
        (receiveBody py config s r request payload uuid4)
  | drop {r : Nat} {request : Request J} (found : s.requests[r]? = some request)
      (awaits : request.stage = .reading ∨ request.stage = .waiting) :
      Taken py config s (.drop r)
        { s with requests := s.requests.set r { request with stage := .dropped } }
  | respond {r : Nat} {request : Request J} {pending : PendingMessage J}
      (found : s.requests[r]? = some request) (waiting : request.stage = .waiting)
      (has : request.pending = some pending) (set : pending.result = true) :
      Taken py config s (.respond r)
        { s with
          requests := s.requests.set r { request with stage := .answered }
          answers := s.answers ++ [(r, pending.response)] }
  | subscribe {topic : Str} : Taken py config s (.subscribe topic)
      { s with iterators := s.iterators ++ [⟨topic, .created⟩] }
  | next {i : Nat} {iterator : Iterator} (found : s.iterators[i]? = some iterator)
      (resumed : iterator.stage = .created ∨ iterator.stage = .yielded) :
      Taken py config s (.next i) (loopTest s i iterator)
  | take {i r : Nat} {iterator : Iterator} {rest : List Nat}
      (found : s.iterators[i]? = some iterator) (getting : iterator.stage = .getting)
      (queue : s.queues iterator.topic = r :: rest) : Taken py config s (.take i)
        { s with
          queues := Function.update s.queues iterator.topic rest
          iterators := s.iterators.set i { iterator with stage := .yielded }
          handed := s.handed ++ [(r, i)] }
  | timeout {i : Nat} {iterator : Iterator} (found : s.iterators[i]? = some iterator)
      (getting : iterator.stage = .getting) :
      Taken py config s (.timeout i) (loopTest s i iterator)
  | leave {i : Nat} {iterator : Iterator} (found : s.iterators[i]? = some iterator)
      (alive : iterator.stage ≠ .ended) : Taken py config s (.leave i)
        { s with iterators := s.iterators.set i { iterator with stage := .ended } }
  | ack {r : Nat} {request : Request J} (found : s.requests[r]? = some request)
      (handed : r ∈ s.handed.map Prod.fst) : Taken py config s (.ack r) (settled s r request true)
  | nack {r : Nat} {request : Request J} (found : s.requests[r]? = some request)
      (handed : r ∈ s.handed.map Prod.fst) : Taken py config s (.nack r) (settled s r request false)
  | close : Taken py config s .close { s with closed := true }

section Taken

variable {py : Python J} {config : HTTPSubscriberConfig} {s t : State J}

theorem settled_of_settle {r : Nat} {accept : Bool} (taken : settle s r accept = some t) :
    ∃ request, s.requests[r]? = some request ∧ r ∈ s.handed.map Prod.fst ∧
      t = settled s r request accept := by
  rw [settle] at taken
  split at taken
  · rename_i request found
    split at taken
    · rename_i handed
      cases taken
      exact ⟨request, found, handed, rfl⟩
    · cases taken
  · cases taken

theorem taken_of_step {e : Event} (taken : step py config s e = some t) :
    Taken py config s e t := by
  cases e with
  | post topic headers =>
      cases taken
      exact .post
  | receiveBody r payload uuid4 =>
      simp only [step] at taken
      split at taken
      · rename_i request found
        split at taken
        · rename_i reading
          cases taken
          exact .receiveBody found reading
        · cases taken
      · cases taken
  | drop r =>
      simp only [step] at taken
      split at taken
      · rename_i request found
        split at taken
        · rename_i awaits
          cases taken
          exact .drop found awaits
        · cases taken
      · cases taken
  | respond r =>
      simp only [step] at taken
      split at taken
      · rename_i request found
        split at taken
        · rename_i pending waiting has
          split at taken
          · rename_i set
            cases taken
            exact .respond found waiting has set
          · cases taken
        · cases taken
      · cases taken
  | subscribe topic =>
      cases taken
      exact .subscribe
  | next i =>
      simp only [step] at taken
      split at taken
      · rename_i iterator found
        split at taken
        · rename_i resumed
          cases taken
          exact .next found resumed
        · cases taken
      · cases taken
  | take i =>
      simp only [step] at taken
      split at taken
      · rename_i iterator found
        split at taken
        · rename_i r rest getting queue
          cases taken
          exact .take found getting queue
        · cases taken
      · cases taken
  | timeout i =>
      simp only [step] at taken
      split at taken
      · rename_i iterator found
        split at taken
        · rename_i getting
          cases taken
          exact .timeout found getting
        · cases taken
      · cases taken
  | leave i =>
      simp only [step] at taken
      split at taken
      · rename_i iterator found
        split at taken
        · cases taken
        · rename_i alive
          cases taken
          exact .leave found alive
      · cases taken
  | ack r =>
      rcases settled_of_settle taken with ⟨request, found, handed, rfl⟩
      exact .ack found handed
  | nack r =>
      rcases settled_of_settle taken with ⟨request, found, handed, rfl⟩
      exact .nack found handed
  | close =>
      cases taken
      exact .close

end Taken

end Natricine.Http
