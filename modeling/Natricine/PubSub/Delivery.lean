import Natricine.PubSub.FanOut

namespace Natricine.PubSub.Memory

open Text Transition

/-- The call has begun with the subscription, and unless it was abandoned it has sent it all its
messages by the time it returned or the subscriber left. -/
def Arrives (s : State) (p r : Nat) : Prop :=
  ∀ pub, s.publications[p]? = some pub → r ∈ pub.present ∧
    match pub.status with
    | .running _ => r ∈ s.subscribers pub.topic ∨
        sentTo s.subscriptions p r = pub.messages.map Message.copy
    | .returned _ => sentTo s.subscriptions p r = pub.messages.map Message.copy
    | .raised _ => False
    | .cancelled => True

/-- A subscriber that leaves has been sent all messages of the call, if that is under way and has
begun with it. -/
def LeavesServed (p r : Nat) (s : State) (e : Event) : Prop :=
  e = .leave r → ∀ pub waiting, s.publications[p]? = some pub → pub.status = .running waiting →
    r ∈ pub.present → sentTo s.subscriptions p r = pub.messages.map Message.copy

section Step

variable {bufferSize : Nat} {s t : State} {e : Event} {p r : Nat} {pub : Publication}

structure Continues (s : State) (pub next : Publication) : Prop where
  topic : next.topic = pub.topic
  messages : next.messages = pub.messages
  present : next.present = pub.present
  status : next.status = pub.status ∨ (∃ waiting, pub.status = .running waiting) ∧
    ∀ remaining, next.status = .returned remaining → remaining = s.subscribers pub.topic

theorem continues_set {old changed : Publication} {q : Nat} (found : s.publications[p]? = some pub)
    (at_place : s.publications[q]? = some old) (continues : Continues s old changed) :
    ∃ next, (s.publications.set q changed)[p]? = some next ∧ Continues s pub next := by
  by_cases same : p = q
  · subst same
    rw [found] at at_place
    cases at_place
    exact ⟨changed, List.getElem?_set_self (List.getElem?_eq_some_iff.mp found).1, continues⟩
  · refine ⟨pub, ?_, rfl, rfl, rfl, Or.inl rfl⟩
    rw [List.getElem?_set_ne (Ne.symm same)]
    exact found

theorem Delivering.subscribed (inv : Delivering s) {topic : Str}
    (made : Memory.subscribe s topic = .ok t) :
    t = { s with
      order := if topic ∈ s.order then s.order else s.order ++ [topic]
      subscribers := Function.update s.subscribers topic
        (s.subscribers topic ++ [s.subscriptions.length])
      subscriptions := s.subscriptions ++ [Subscription.new topic] } := by
  rw [Memory.subscribe, if_neg (by rw [inv.opened]; exact Bool.false_ne_true)] at made
  exact (Except.ok.inj made).symm

theorem Delivering.waiting (inv : Delivering s) {sub : Subscription}
    (present : s.subscriptions[r]? = some sub) {item : Message} {senders : List (Nat × Message)}
    (queue : sub.senders = (p, item) :: senders) (found : s.publications[p]? = some pub) :
    pub.status = .running (some r) ∧ r ∈ s.subscribers pub.topic := by
  have first : (p, item) ∈ sub.senders := by
    rw [queue]
    exact List.mem_cons_self
  rcases inv.waits r sub present _ first with ⟨same, message, here, status, -, -⟩
  rw [found] at here
  cases here
  have held := inv.progress p pub found
  simp only [Progress, status] at held
  exact ⟨status, (held.1 r rfl).1⟩

theorem publication_step (inv : Delivering s) (unclosed : e ≠ .close)
    (taken : step bufferSize s e = some t) (found : s.publications[p]? = some pub) :
    ∃ next, t.publications[p]? = some next ∧ Continues s pub next := by
  have kept : Continues s pub pub := ⟨rfl, rfl, rfl, Or.inl rfl⟩
  cases taken_of_step taken with
  | publish => exact ⟨pub, Update.getElem?_append_of_some _ found, kept⟩
  | finished at_place ready =>
      apply continues_set found at_place
      refine ⟨rfl, rfl, rfl, Or.inr ⟨⟨_, ready⟩, ?_⟩⟩
      intro remaining same
      cases same
      rfl
  | nextMessage at_place =>
      apply continues_set found at_place
      exact ⟨rfl, rfl, rfl, Or.inl rfl⟩
  | picked at_place running | failed at_place running | sent at_place running
  | abandon at_place running | abandonReady at_place running =>
      apply continues_set found at_place
      exact ⟨rfl, rfl, rfl, Or.inr ⟨⟨_, running⟩, by simp⟩⟩
  | subscribe made =>
      rw [inv.subscribed made]
      exact ⟨pub, found, kept⟩
  | refused => exact ⟨pub, found, kept⟩
  | receiveWaiting present queue at_place =>
      rcases inv.waiting present queue at_place with ⟨status, -⟩
      apply continues_set found at_place
      exact ⟨rfl, rfl, rfl, Or.inr ⟨⟨_, status⟩, by simp⟩⟩
  | receiveBuffered => exact ⟨pub, found, kept⟩
  | receiveNone => exact ⟨pub, found, kept⟩
  | cancel => exact ⟨pub, found, kept⟩
  | @leave x sub present =>
      simp only [leave, breakSenders, List.getElem?_mapIdx, found, Option.map_some]
      refine ⟨_, rfl, ?_⟩
      split
      · rename_i waits
        rcases List.mem_map.mp waits with ⟨waiting, member, rfl⟩
        rcases inv.waits x sub present waiting member with ⟨same, message, here, status, -⟩
        rw [found] at here
        cases here
        exact ⟨rfl, rfl, rfl, Or.inr ⟨⟨_, status⟩, by simp⟩⟩
      · exact kept
  | close => exact absurd rfl unclosed

def MaySend (s : State) (p r : Nat) : Prop :=
  ∃ pub waiting, s.publications[p]? = some pub ∧ pub.status = .running waiting ∧
    r ∈ s.subscribers pub.topic

theorem sentTo_logged {q x : Nat} {sub served : Subscription} {item : Message}
    (present : s.subscriptions[x]? = some sub) (logged : served.sent = sub.sent ++ [(q, item)])
    (sends : MaySend s q x) :
    sentTo (s.subscriptions.set x served) p r = sentTo s.subscriptions p r ∨ MaySend s p r := by
  by_cases here : r = x
  · by_cases same : q = p
    · rw [← same, here]
      exact Or.inr sends
    · left
      apply sentTo_set_of_same present
      rw [sentBy_log logged, if_neg same, List.append_nil]
  · left
    rw [sentTo_set present, if_neg here]

theorem sentTo_kept {x : Nat} {sub served : Subscription}
    (present : s.subscriptions[x]? = some sub) (same : served.sent = sub.sent) :
    sentTo (s.subscriptions.set x served) p r = sentTo s.subscriptions p r := by
  apply sentTo_set_of_same present
  rw [Subscription.sentBy, same]
  rfl

theorem sentTo_step (inv : Delivering s) (unclosed : e ≠ .close)
    (taken : step bufferSize s e = some t) :
    sentTo t.subscriptions p r = sentTo s.subscriptions p r ∨ MaySend s p r := by
  cases taken_of_step taken with
  | publish => exact Or.inl rfl
  | finished => exact Or.inl rfl
  | nextMessage => exact Or.inl rfl
  | picked => exact Or.inl rfl
  | failed => exact Or.inl rfl
  | sent at_place sending item present unqueued result =>
      have held := inv.progress _ _ at_place
      simp only [Progress, sending] at held
      rcases send_ok result with ⟨-, ⟨-, -, logged⟩ | ⟨-, -, same⟩⟩
      · exact sentTo_logged present logged ⟨_, _, at_place, sending, (held.1 _ rfl).1⟩
      · exact Or.inl (sentTo_kept present same)
  | abandonReady => exact Or.inl rfl
  | abandon at_place sending =>
      left
      have held := inv.progress _ _ at_place
      simp only [Progress, sending] at held
      rcases inv.registered _ _ (held.1 _ rfl).1 with ⟨sub, present, -⟩
      dsimp only
      rw [Update.modify_eq_set _ present]
      apply sentTo_kept present
      rfl
  | subscribe made =>
      rw [inv.subscribed made]
      exact Or.inl (sentTo_append_new _ p r)
  | refused => exact Or.inl rfl
  | receiveWaiting present queue at_place =>
      rcases inv.waiting present queue at_place with ⟨status, member⟩
      exact sentTo_logged present rfl ⟨_, _, at_place, status, member⟩
  | receiveBuffered present =>
      left
      apply sentTo_kept present
      rfl
  | receiveNone present =>
      left
      apply sentTo_kept present
      rfl
  | cancel present =>
      left
      apply sentTo_kept present
      rfl
  | leave present =>
      left
      apply sentTo_kept present
      rfl
  | close => exact absurd rfl unclosed

theorem subscribers_step (inv : Delivering s) (unclosed : e ≠ .close)
    (taken : step bufferSize s e = some t) {topic : Str} (member : r ∈ s.subscribers topic) :
    r ∈ t.subscribers topic ∨ e = .leave r := by
  cases taken_of_step taken with
  | @subscribe other _ made =>
      left
      rw [inv.subscribed made]
      dsimp only
      by_cases same : topic = other
      · subst same
        rw [Function.update_self]
        exact List.mem_append_left _ member
      · rw [Function.update_of_ne same]
        exact member
  | @leave x sub present =>
      by_cases gone : x = r
      · rw [gone]
        exact Or.inr rfl
      · left
        simp only [leave]
        split
        · by_cases same : topic = sub.topic
          · subst same
            rw [Function.update_self]
            exact (List.mem_erase_of_ne (Ne.symm gone)).mpr member
          · rw [Function.update_of_ne same]
            exact member
        · exact member
  | close => exact absurd rfl unclosed
  | _ => exact Or.inl member

theorem arrives_publish (inv : Delivering s) {topic : Str} (registered : r ∈ s.subscribers topic)
    (messages : List Message) (taken : step bufferSize s (.publish topic messages) = some t) :
    Arrives t s.publications.length r := by
  cases taken
  intro pub found
  rw [List.getElem?_concat_length] at found
  cases found
  have known := inv.keyed topic r registered
  have opened : ¬s.closed = true := by
    rw [inv.opened]
    exact Bool.false_ne_true
  rw [publish, if_neg opened, if_pos known]
  exact ⟨registered, Or.inl registered⟩

theorem running_arrives (inv : Delivering s) (unclosed : e ≠ .close)
    (served : LeavesServed p r s e) (taken : step bufferSize s e = some t) {waiting : Option Nat}
    (found : s.publications[p]? = some pub) (running : pub.status = .running waiting)
    (present : r ∈ pub.present)
    (stands : r ∈ s.subscribers pub.topic ∨
      sentTo s.subscriptions p r = pub.messages.map Message.copy) :
    (r ∈ s.subscribers pub.topic ∧ r ∈ t.subscribers pub.topic) ∨
      sentTo t.subscriptions p r = pub.messages.map Message.copy := by
  by_cases registered : r ∈ s.subscribers pub.topic
  · rcases subscribers_step inv unclosed taken registered with still | rfl
    · exact Or.inl ⟨registered, still⟩
    · right
      cases taken_of_step taken with
      | leave gone =>
          refine (sentTo_kept gone ?_).trans (served rfl pub waiting found running present)
          rfl
  · right
    rcases sentTo_step (p := p) (r := r) inv unclosed taken with same | ⟨other, w, here, -, member⟩
    · rw [same]
      exact stands.resolve_left registered
    · rw [found] at here
      cases here
      exact absurd member registered

theorem arrives_step (inv : Delivering s) (behind : LeaversBehindNone s e) (unclosed : e ≠ .close)
    (served : LeavesServed p r s e) (taken : step bufferSize s e = some t)
    (known : p < s.publications.length) (arrives : Arrives s p r) : Arrives t p r := by
  have next := step_delivering bufferSize s e t inv ⟨behind, unclosed⟩ taken
  intro after at_place
  have found := List.getElem?_eq_getElem known
  generalize s.publications[p] = pub at found
  rcases publication_step inv unclosed taken found with ⟨same, there, goes⟩
  rw [at_place] at there
  cases there
  rcases arrives pub found with ⟨present, stands⟩
  rw [goes.present, goes.topic, goes.messages]
  refine ⟨present, ?_⟩
  have progress := next.progress p after at_place
  simp only [Progress, goes.present, goes.messages, goes.topic] at progress
  rcases goes.status with same | ⟨⟨waiting, running⟩, remains⟩
  · rw [same]
    cases status : pub.status with
    | running waiting =>
        rw [status] at stands
        exact (running_arrives inv unclosed served taken found status present stands).imp_left
          And.right
    | returned remaining =>
        rw [status] at stands
        rcases sentTo_step (p := p) (r := r) inv unclosed taken with
          kept | ⟨other, w, here, runs, -⟩
        · dsimp only
          rw [kept]
          exact stands
        · rw [found] at here
          cases here
          rw [status] at runs
          cases runs
    | raised error =>
        rw [status] at stands
        exact stands
    | cancelled => trivial
  · rw [running] at stands
    have reached := running_arrives inv unclosed served taken found running present stands
    cases status : after.status with
    | running waiting => exact reached.imp_left And.right
    | returned remaining =>
        rw [status] at progress
        rcases reached with ⟨registered, -⟩ | sent
        · exact progress r present (remains remaining status ▸ registered)
        · exact sent
    | raised error =>
        rw [status] at progress
        exact progress
    | cancelled => trivial

end Step

end Natricine.PubSub.Memory
