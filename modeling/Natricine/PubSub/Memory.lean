import Natricine.Library.Cursor
import Natricine.Library.Transition
import Natricine.Library.Update
import Natricine.PubSub.Message
import Mathlib.Logic.Function.Basic

/-! `memory.py`: the in-memory pub/sub. Every call that may suspend is advanced one await at
a time, in any order. The streams are memory object streams of `anyio`: `send` and `receive` let
other tasks run before they look at the stream, `aclose` never does. -/

namespace Natricine.PubSub.Memory

open Text

inductive Error where
  | runtimeError (text : String)
  | closedResource
  | brokenResource
  deriving DecidableEq, Repr

/-- Where `_subscribe_iter` stands: in its loop, in its loop with a cancellation on its way, or
behind its cleanup. -/
inductive Iteration where
  | iterating
  | cancelled
  | left
  deriving DecidableEq, Repr

/-- One `subscribe` call with the two ends of its stream. The sends that wait for room are in
`senders`; `sent` records the accepted ones by publish call and is read by no code. -/
structure Subscription where
  topic : Str
  buffer : List Message
  senders : List (Nat × Message)
  receiving : Bool
  sendClosed : Bool
  receiveClosed : Bool
  stage : Iteration
  sent : List (Nat × Message)
  deriving DecidableEq, Repr

/-- `running (some r)` is in `send` to subscription `r`: it stands in the senders of the stream, or
is yet to look at it. A call that returned keeps the subscriptions registered at that moment. -/
inductive PublishStatus where
  | running (target : Option Nat)
  | returned (remaining : List Nat)
  | raised (error : Error)
  | cancelled
  deriving DecidableEq, Repr

/-- One `publish` call: `index` is the position of its outer loop and `cursor` that of the
iterator over the live list of subscribers; `present` are those registered when it began. -/
structure Publication where
  topic : Str
  messages : List Message
  present : List Nat
  index : Nat
  cursor : Nat
  status : PublishStatus
  deriving DecidableEq, Repr

/-- `order` holds the keys of `_topics`. The lists of subscribers outlive the clearing of the
dict: calls under way still refer to them. -/
structure State where
  closed : Bool
  order : List Str
  subscribers : Str → List Nat
  subscriptions : List Subscription
  publications : List Publication

def initial : State := ⟨false, [], fun _ => [], [], []⟩

inductive Event where
  | publish (topic : Str) (messages : List Message)
  | advance (publication : Nat)
  | put (publication : Nat)
  | abandon (publication : Nat)
  | subscribe (topic : Str)
  | receive (subscription : Nat)
  | cancel (subscription : Nat)
  | leave (subscription : Nat)
  | close
  deriving DecidableEq, Repr

namespace Subscription

def new (topic : Str) : Subscription := ⟨topic, [], [], false, false, false, .iterating, []⟩

/-- `send_stream.send` behind its checkpoint: the error it raises, or the stream it leaves and
whether the item was taken at once. A waiting receiver is handed the item past the buffer. -/
def send (bufferSize : Nat) (sub : Subscription) (publication : Nat) (item : Message) :
    Except Error (Subscription × Bool) :=
  if sub.sendClosed then .error .closedResource
  else if sub.receiveClosed then .error .brokenResource
  else if sub.receiving then
    .ok ({ sub with receiving := false, sent := sub.sent ++ [(publication, item)] }, true)
  else if sub.buffer.length < bufferSize then
    .ok ({ sub with buffer := sub.buffer ++ [item], sent := sub.sent ++ [(publication, item)] },
      true)
  else .ok ({ sub with senders := sub.senders ++ [(publication, item)] }, false)

/-- `send_stream.aclose()`; a waiting receiver wakes up. -/
def closeSend (sub : Subscription) : Subscription :=
  { sub with sendClosed := true, receiving := false }

def leave (sub : Subscription) : Subscription :=
  { sub.closeSend with receiveClosed := true, senders := [], stage := .left }

def sentBy (sub : Subscription) (publication : Nat) : List Message :=
  (sub.sent.filter (fun entry => entry.1 = publication)).map Prod.snd

end Subscription

/-- `publish` up to its first send. -/
def publish (s : State) (topic : Str) (messages : List Message) : Publication :=
  if s.closed then ⟨topic, messages, [], 0, 0, .raised (.runtimeError "MemoryPubSub is closed")⟩
  else if topic ∈ s.order then ⟨topic, messages, s.subscribers topic, 0, 0, .running none⟩
  else ⟨topic, messages, [], 0, 0, .returned []⟩

def advance (s : State) (p : Nat) (pub : Publication) : State :=
  match pub.messages[pub.index]? with
  | none =>
      { s with
        publications :=
          s.publications.set p { pub with status := .returned (s.subscribers pub.topic) } }
  | some _ =>
      match (s.subscribers pub.topic)[pub.cursor]? with
      | none =>
          { s with
            publications := s.publications.set p { pub with index := pub.index + 1, cursor := 0 } }
      | some r =>
          { s with
            publications := s.publications.set p
              { pub with cursor := pub.cursor + 1, status := .running (some r) } }

/-- The send of a publish call to the subscription `r`, when its task goes on from the checkpoint:
the call does not stand in the senders of the stream yet. -/
def put (bufferSize : Nat) (s : State) (p : Nat) (pub : Publication) (r : Nat) : Option State :=
  match pub.messages[pub.index]?, s.subscriptions[r]? with
  | some message, some sub =>
      if p ∈ sub.senders.map Prod.fst then none
      else
        match sub.send bufferSize p message.copy with
        | .error error =>
            some { s with
              publications := s.publications.set p { pub with status := .raised error } }
        | .ok (served, taken) =>
            some { s with
              subscriptions := s.subscriptions.set r served
              publications := s.publications.set p
                { pub with status := .running (if taken then none else some r) } }
  | _, _ => none

/-- `subscribe`; the body of `_subscribe_iter` starts with the first `receive`. -/
def subscribe (s : State) (topic : Str) : Except Error State :=
  if s.closed then .error (.runtimeError "MemoryPubSub is closed")
  else
    .ok { s with
      order := if topic ∈ s.order then s.order else s.order ++ [topic]
      subscribers := Function.update s.subscribers topic
        (s.subscribers topic ++ [s.subscriptions.length])
      subscriptions := s.subscriptions ++ [Subscription.new topic] }

/-- `receive` of the stream, asked for by the loop of `_subscribe_iter`. The first waiting send
goes through before an item is taken; at the end of the stream the iteration leaves. -/
def receive (s : State) (r : Nat) (sub : Subscription) : Option State :=
  match sub.senders with
  | (p, item) :: senders =>
      match s.publications[p]? with
      | none => none
      | some pub =>
          some { s with
            subscriptions := s.subscriptions.set r
              { sub with
                buffer := (sub.buffer ++ [item]).tail
                senders := senders
                sent := sub.sent ++ [(p, item)] }
            publications := s.publications.set p { pub with status := .running none } }
  | [] =>
      match sub.buffer with
      | _ :: rest =>
          some { s with subscriptions := s.subscriptions.set r { sub with buffer := rest } }
      | [] =>
          if sub.sendClosed then none
          else some { s with subscriptions := s.subscriptions.set r { sub with receiving := true } }

def breakSenders (senders : List (Nat × Message)) (publications : List Publication) :
    List Publication :=
  publications.mapIdx (fun p pub =>
    if p ∈ senders.map Prod.fst then { pub with status := .raised .brokenResource } else pub)

def leave (s : State) (r : Nat) (sub : Subscription) : State :=
  { s with
    subscribers :=
      if sub.topic ∈ s.order then
        Function.update s.subscribers sub.topic ((s.subscribers sub.topic).erase r)
      else s.subscribers
    subscriptions := s.subscriptions.set r sub.leave
    publications := breakSenders sub.senders s.publications }

def closeStreams (listed : List Nat) (subscriptions : List Subscription) : List Subscription :=
  listed.foldl (fun subscriptions r => subscriptions.modify r Subscription.closeSend) subscriptions

/-- `close` of the pub/sub: its loops over the topics and their subscribers do not suspend. -/
def close (s : State) : State :=
  { s with
    closed := true
    order := []
    subscriptions := closeStreams (s.order.flatMap s.subscribers) s.subscriptions }

def step (bufferSize : Nat) (s : State) : Event → Option State
  | .publish topic messages =>
      some { s with publications := s.publications ++ [publish s topic messages] }
  | .advance p =>
      match s.publications[p]? with
      | some pub => if pub.status = .running none then some (advance s p pub) else none
      | none => none
  | .put p =>
      match s.publications[p]? with
      | some pub =>
          match pub.status with
          | .running (some r) => put bufferSize s p pub r
          | _ => none
      | none => none
  | .abandon p =>
      match s.publications[p]? with
      | some pub =>
          match pub.status with
          | .running (some r) =>
              some { s with
                subscriptions := s.subscriptions.modify r (fun sub =>
                  { sub with senders := sub.senders.filter (fun entry => entry.1 ≠ p) })
                publications := s.publications.set p { pub with status := .cancelled } }
          | .running none =>
              some { s with publications := s.publications.set p { pub with status := .cancelled } }
          | _ => none
      | none => none
  | .subscribe topic =>
      match subscribe s topic with
      | .ok next => some next
      | .error _ => some s
  | .receive r =>
      match s.subscriptions[r]? with
      | some sub =>
          if sub.stage = .iterating ∧ sub.receiving = false then receive s r sub else none
      | none => none
  | .cancel r =>
      match s.subscriptions[r]? with
      | some sub =>
          -- A send passes over a receiver that is about to be cancelled.
          if sub.stage = .iterating then
            some { s with
              subscriptions :=
                s.subscriptions.set r { sub with receiving := false, stage := .cancelled } }
          else none
      | none => none
  | .leave r =>
      match s.subscriptions[r]? with
      | some sub => if sub.stage = .left then none else some (leave s r sub)
      | none => none
  | .close => some (close s)

/-- What a step can do. A turn of a publish call ends the call or a round over the subscribers, or
picks the next of them; its send raises or not; a `receive` takes an item or starts to wait. -/
inductive Taken (bufferSize : Nat) (s : State) : Event → State → Prop where
  | publish {topic : Str} {messages : List Message} : Taken bufferSize s (.publish topic messages)
      { s with publications := s.publications ++ [publish s topic messages] }
  | finished {p : Nat} {pub : Publication} (found : s.publications[p]? = some pub)
      (ready : pub.status = .running none) (sent : pub.messages[pub.index]? = none) :
      Taken bufferSize s (.advance p) { s with
        publications :=
          s.publications.set p { pub with status := .returned (s.subscribers pub.topic) } }
  | nextMessage {p : Nat} {pub : Publication} {message : Message}
      (found : s.publications[p]? = some pub) (ready : pub.status = .running none)
      (item : pub.messages[pub.index]? = some message)
      (passed : (s.subscribers pub.topic)[pub.cursor]? = none) :
      Taken bufferSize s (.advance p) { s with
        publications := s.publications.set p { pub with index := pub.index + 1, cursor := 0 } }
  | picked {p r : Nat} {pub : Publication} {message : Message}
      (found : s.publications[p]? = some pub) (ready : pub.status = .running none)
      (item : pub.messages[pub.index]? = some message)
      (next : (s.subscribers pub.topic)[pub.cursor]? = some r) :
      Taken bufferSize s (.advance p) { s with
        publications := s.publications.set p
          { pub with cursor := pub.cursor + 1, status := .running (some r) } }
  | failed {p r : Nat} {pub : Publication} {sub : Subscription} {message : Message} {error : Error}
      (found : s.publications[p]? = some pub) (sending : pub.status = .running (some r))
      (present : s.subscriptions[r]? = some sub) (unqueued : p ∉ sub.senders.map Prod.fst)
      (result : sub.send bufferSize p message.copy = .error error) :
      Taken bufferSize s (.put p) { s with
        publications := s.publications.set p { pub with status := .raised error } }
  | sent {p r : Nat} {pub : Publication} {sub served : Subscription} {message : Message}
      {accepted : Bool} (found : s.publications[p]? = some pub)
      (sending : pub.status = .running (some r))
      (item : pub.messages[pub.index]? = some message)
      (present : s.subscriptions[r]? = some sub) (unqueued : p ∉ sub.senders.map Prod.fst)
      (result : sub.send bufferSize p message.copy = .ok (served, accepted)) :
      Taken bufferSize s (.put p) { s with
        subscriptions := s.subscriptions.set r served
        publications := s.publications.set p
          { pub with status := .running (if accepted then none else some r) } }
  | abandon {p r : Nat} {pub : Publication} (found : s.publications[p]? = some pub)
      (sending : pub.status = .running (some r)) : Taken bufferSize s (.abandon p) { s with
        subscriptions := s.subscriptions.modify r (fun sub =>
          { sub with senders := sub.senders.filter (fun entry => entry.1 ≠ p) })
        publications := s.publications.set p { pub with status := .cancelled } }
  | abandonReady {p : Nat} {pub : Publication} (found : s.publications[p]? = some pub)
      (ready : pub.status = .running none) : Taken bufferSize s (.abandon p) { s with
        publications := s.publications.set p { pub with status := .cancelled } }
  | subscribe {topic : Str} {t : State} (made : subscribe s topic = .ok t) :
      Taken bufferSize s (.subscribe topic) t
  | refused {topic : Str} {error : Error} (refused : subscribe s topic = .error error) :
      Taken bufferSize s (.subscribe topic) s
  | receiveWaiting {p r : Nat} {pub : Publication} {sub : Subscription} {item : Message}
      {senders : List (Nat × Message)} (present : s.subscriptions[r]? = some sub)
      (queue : sub.senders = (p, item) :: senders) (found : s.publications[p]? = some pub)
      (idle : sub.stage = .iterating ∧ sub.receiving = false) :
      Taken bufferSize s (.receive r) { s with
        subscriptions := s.subscriptions.set r
          { sub with
            buffer := (sub.buffer ++ [item]).tail
            senders := senders
            sent := sub.sent ++ [(p, item)] }
        publications := s.publications.set p { pub with status := .running none } }
  | receiveBuffered {r : Nat} {sub : Subscription} {item : Message} {rest : List Message}
      (present : s.subscriptions[r]? = some sub) (queue : sub.senders = [])
      (buffered : sub.buffer = item :: rest)
      (idle : sub.stage = .iterating ∧ sub.receiving = false) :
      Taken bufferSize s (.receive r)
        { s with subscriptions := s.subscriptions.set r { sub with buffer := rest } }
  | receiveNone {r : Nat} {sub : Subscription} (present : s.subscriptions[r]? = some sub)
      (opened : ¬sub.sendClosed = true) (queue : sub.senders = []) (buffered : sub.buffer = [])
      (idle : sub.stage = .iterating ∧ sub.receiving = false) : Taken bufferSize s (.receive r)
        { s with subscriptions := s.subscriptions.set r { sub with receiving := true } }
  | cancel {r : Nat} {sub : Subscription} (present : s.subscriptions[r]? = some sub) :
      Taken bufferSize s (.cancel r) { s with
        subscriptions :=
          s.subscriptions.set r { sub with receiving := false, stage := .cancelled } }
  | leave {r : Nat} {sub : Subscription} (present : s.subscriptions[r]? = some sub) :
      Taken bufferSize s (.leave r) (leave s r sub)
  | close : Taken bufferSize s .close (close s)

section Taken

variable {bufferSize : Nat} {s t : State}

theorem taken_of_advance {p : Nat} {pub : Publication} (found : s.publications[p]? = some pub)
    (ready : pub.status = .running none) : Taken bufferSize s (.advance p) (advance s p pub) := by
  rw [advance]
  split
  · rename_i sent
    exact .finished found ready sent
  · rename_i message item
    split
    · rename_i passed
      exact .nextMessage found ready item passed
    · rename_i r next
      exact .picked found ready item next

theorem taken_of_put {p r : Nat} {pub : Publication} (found : s.publications[p]? = some pub)
    (sending : pub.status = .running (some r)) (moved : put bufferSize s p pub r = some t) :
    Taken bufferSize s (.put p) t := by
  rw [put] at moved
  split at moved
  · rename_i message sub item present
    split at moved
    · cases moved
    · rename_i unqueued
      split at moved
      · rename_i error result
        cases moved
        exact .failed found sending present unqueued result
      · rename_i served accepted result
        cases moved
        exact .sent found sending item present unqueued result
  · cases moved

theorem taken_of_receive {r : Nat} {sub : Subscription} (present : s.subscriptions[r]? = some sub)
    (idle : sub.stage = .iterating ∧ sub.receiving = false)
    (moved : receive s r sub = some t) : Taken bufferSize s (.receive r) t := by
  rw [receive] at moved
  split at moved
  · rename_i p item senders queue
    split at moved
    · cases moved
    · rename_i pub found
      cases moved
      exact .receiveWaiting present queue found idle
  · rename_i queue
    split at moved
    · rename_i item rest buffered
      cases moved
      exact .receiveBuffered present queue buffered idle
    · rename_i buffered
      split at moved
      · cases moved
      · rename_i opened
        cases moved
        exact .receiveNone present opened queue buffered idle

theorem taken_of_step {e : Event} (taken : step bufferSize s e = some t) :
    Taken bufferSize s e t := by
  cases e with
  | publish topic messages =>
      cases taken
      exact .publish
  | advance p =>
      simp only [step] at taken
      split at taken
      · rename_i pub found
        split at taken
        · rename_i ready
          cases taken
          exact taken_of_advance found ready
        · cases taken
      · cases taken
  | put p =>
      simp only [step] at taken
      split at taken
      · rename_i pub found
        split at taken
        · rename_i r sending
          exact taken_of_put found sending taken
        · cases taken
      · cases taken
  | abandon p =>
      simp only [step] at taken
      split at taken
      · rename_i pub found
        split at taken
        · rename_i r sending
          cases taken
          exact .abandon found sending
        · rename_i ready
          cases taken
          exact .abandonReady found ready
        · cases taken
      · cases taken
  | subscribe topic =>
      simp only [step] at taken
      split at taken
      · rename_i next made
        cases taken
        exact .subscribe made
      · rename_i error refused
        cases taken
        exact .refused refused
  | receive r =>
      simp only [step] at taken
      split at taken
      · rename_i sub present
        split at taken
        · rename_i idle
          exact taken_of_receive present idle taken
        · cases taken
      · cases taken
  | cancel r =>
      simp only [step] at taken
      split at taken
      · rename_i sub present
        split at taken
        · cases taken
          exact .cancel present
        · cases taken
      · cases taken
  | leave r =>
      simp only [step] at taken
      split at taken
      · rename_i sub present
        split at taken
        · cases taken
        · cases taken
          exact .leave present
      · cases taken
  | close =>
      cases taken
      exact .close

end Taken

/-- The two streams belong to one topic, the same ends of them are open, and a closed one
does not start to wait. -/
structure SameEnds (served sub : Subscription) : Prop where
  topic : served.topic = sub.topic
  sends : served.sendClosed = sub.sendClosed
  receives : served.receiveClosed = sub.receiveClosed
  listens : sub.sendClosed = true → served.receiving = true → sub.receiving = true

section Send

variable {bufferSize p : Nat} {sub served : Subscription} {item : Message}

theorem send_error {error : Error} (result : sub.send bufferSize p item = .error error) :
    sub.sendClosed = true ∨ sub.receiveClosed = true := by
  rw [Subscription.send] at result
  split at result
  · rename_i closed
    exact Or.inl closed
  · split at result
    · rename_i closed
      exact Or.inr closed
    · split at result
      · cases result
      · split at result
        · cases result
        · cases result

theorem send_ok {taken : Bool} (result : sub.send bufferSize p item = .ok (served, taken)) :
    SameEnds served sub ∧
      ((taken = true ∧ served.senders = sub.senders ∧ served.sent = sub.sent ++ [(p, item)]) ∨
        (taken = false ∧ served.senders = sub.senders ++ [(p, item)] ∧
          served.sent = sub.sent)) := by
  rw [Subscription.send] at result
  split at result
  · cases result
  · split at result
    · cases result
    · split at result
      · cases result
        exact ⟨⟨rfl, rfl, rfl, nofun⟩, Or.inl ⟨rfl, rfl, rfl⟩⟩
      · split at result
        · cases result
          exact ⟨⟨rfl, rfl, rfl, fun _ => id⟩, Or.inl ⟨rfl, rfl, rfl⟩⟩
        · cases result
          exact ⟨⟨rfl, rfl, rfl, fun _ => id⟩, Or.inr ⟨rfl, rfl, rfl⟩⟩

end Send

end Natricine.PubSub.Memory
