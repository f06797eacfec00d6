import Natricine.PubSub.Memory

namespace Natricine.PubSub.Memory

open Cursor Text Transition

def Publication.copies (pub : Publication) (count : Nat) : List Message :=
  (pub.messages.take count).map Message.copy

/-- What the publish call `p` has sent to the subscription `r`. -/
def sentTo (subscriptions : List Subscription) (p r : Nat) : List Message :=
  match subscriptions[r]? with
  | some sub => sub.sentBy p
  | none => []

/-- The call has not raised, and if it returned, all its messages were sent, once and in call
order, to every subscription present from its beginning to its end. -/
def Reached (sent : Nat → List Message) (pub : Publication) : Prop :=
  match pub.status with
  | .returned remaining => ∀ r ∈ pub.present, r ∈ remaining → sent r = pub.messages.map Message.copy
  | .raised _ => False
  | .running _ | .cancelled => True

def FannedOut (s : State) : Prop :=
  ∀ (p : Nat) pub, s.publications[p]? = some pub → Reached (sentTo s.subscriptions p) pub

/-- Leaving the list of subscribers is harmless to a call: it is not under way, or it is
neither in its send to the leaver nor past the leaver with others still to visit. -/
def LeavesUndisturbed (subscribers : List Nat) (gone : Nat) (pub : Publication) : Prop :=
  match pub.status with
  | .running target => target ≠ some gone ∧ Undisturbed subscribers pub.cursor gone
  | .returned _ | .raised _ | .cancelled => True

/-- No publish call on the topic is disturbed by the subscriber that leaves. -/
def LeaversBehindNone (s : State) : Event → Prop
  | .leave r => ∀ sub ∈ s.subscriptions[r]?, ∀ pub ∈ s.publications, pub.topic = sub.topic →
      LeavesUndisturbed (s.subscribers sub.topic) r pub
  | _ => True

instance (sent : Nat → List Message) : (pub : Publication) → Decidable (Reached sent pub)
  | ⟨_, _, _, _, _, .returned _⟩ => inferInstanceAs (Decidable (∀ r ∈ _, r ∈ _ → _))
  | ⟨_, _, _, _, _, .raised _⟩ => isFalse id
  | ⟨_, _, _, _, _, .running _⟩ | ⟨_, _, _, _, _, .cancelled⟩ => isTrue trivial

instance (s : State) : Decidable (FannedOut s) :=
  Update.decidableForallIndexed s.publications

instance (subscribers : List Nat) (gone : Nat) :
    (pub : Publication) → Decidable (LeavesUndisturbed subscribers gone pub)
  | ⟨_, _, _, _, _, .running _⟩ => inferInstanceAs (Decidable (_ ≠ _ ∧ _))
  | ⟨_, _, _, _, _, .returned _⟩ | ⟨_, _, _, _, _, .raised _⟩ | ⟨_, _, _, _, _, .cancelled⟩ =>
      isTrue trivial

instance (s : State) : (e : Event) → Decidable (LeaversBehindNone s e)
  | .leave r => inferInstanceAs (Decidable (∀ sub ∈ s.subscriptions[r]?, _))
  | .publish _ _ | .advance _ | .put _ | .abandon _ | .subscribe _ | .receive _ | .cancel _
  | .close => isTrue trivial

def Progress (subscribers : List Nat) (sent : Nat → List Message) (pub : Publication) : Prop :=
  match pub.status with
  | .running waiting =>
      (∀ r, waiting = some r → r ∈ subscribers ∧ r ∉ ahead subscribers pub.cursor) ∧
      ∀ r ∈ pub.present,
        (r ∈ passed subscribers pub.cursor → waiting ≠ some r →
          sent r = pub.copies (pub.index + 1)) ∧
        (r ∈ ahead subscribers pub.cursor ∨ waiting = some r → sent r = pub.copies pub.index)
  | .returned remaining => ∀ r ∈ pub.present, r ∈ remaining → sent r = pub.messages.map Message.copy
  | .raised _ => False
  | .cancelled => True

/-- The entry `waiting` of the senders of `r` is the send that a running call waits in. -/
def Waits (publications : List Publication) (r : Nat) (waiting : Nat × Message) : Prop :=
  ∃ pub message, publications[waiting.1]? = some pub ∧ pub.status = .running (some r) ∧
    pub.messages[pub.index]? = some message ∧ waiting.2 = message.copy

structure Registry (order : List Str) (subscribers : Str → List Nat)
    (subscriptions : List Subscription) : Prop where
  distinct : ∀ topic, (subscribers topic).Nodup
  keyed : ∀ topic, ∀ r ∈ subscribers topic, topic ∈ order
  registered : ∀ topic, ∀ r ∈ subscribers topic, ∃ sub, subscriptions[r]? = some sub ∧
    sub.topic = topic ∧ sub.sendClosed = false ∧ sub.receiveClosed = false

structure Delivering (s : State) : Prop extends
    Registry s.order s.subscribers s.subscriptions where
  opened : s.closed = false
  senders_distinct : ∀ (r : Nat) sub, s.subscriptions[r]? = some sub →
    (sub.senders.map Prod.fst).Nodup
  waits : ∀ (r : Nat) sub, s.subscriptions[r]? = some sub →
    ∀ waiting ∈ sub.senders, Waits s.publications r waiting
  present_known : ∀ (p : Nat) pub, s.publications[p]? = some pub →
    ∀ r ∈ pub.present, r < s.subscriptions.length
  sent_known : ∀ (r : Nat) sub, s.subscriptions[r]? = some sub →
    ∀ entry ∈ sub.sent, entry.1 < s.publications.length
  progress : ∀ (p : Nat) pub, s.publications[p]? = some pub →
    Progress (s.subscribers pub.topic) (sentTo s.subscriptions p) pub

theorem initial_delivering : Delivering initial := by
  refine ⟨⟨?_, ?_, ?_⟩, rfl, ?_, ?_, ?_, ?_, ?_⟩
  · intro topic
    exact List.nodup_nil
  · intro topic r member
    cases member
  · intro topic r member
    cases member
  · intro r sub found
    cases found
  · intro r sub found
    cases found
  · intro p pub found
    cases found
  · intro r sub found
    cases found
  · intro p pub found
    cases found

theorem Publication.copies_succ {pub : Publication} {message : Message}
    (found : pub.messages[pub.index]? = some message) :
    pub.copies (pub.index + 1) = pub.copies pub.index ++ [message.copy] := by
  rcases List.getElem?_eq_some_iff.mp found with ⟨bound, rfl⟩
  rw [copies, copies, List.take_succ_eq_append_getElem bound, List.map_append, List.map_singleton]

theorem Publication.copies_of_end {pub : Publication} {count : Nat}
    (finished : pub.messages[pub.index]? = none) (later : pub.index ≤ count) :
    pub.copies count = pub.messages.map Message.copy := by
  rw [copies, List.take_of_length_le (le_trans (List.getElem?_eq_none_iff.mp finished) later)]

section Progress

variable {subscribers : List Nat} {sent sent' : Nat → List Message} {pub : Publication}

theorem Progress.edit {subscribers' : List Nat} (held : Progress subscribers sent pub)
    (same : ∀ r ∈ pub.present, sent' r = sent r)
    (kept : ∀ r, pub.status = .running (some r) → r ∈ subscribers' ∧
      (r ∈ ahead subscribers' pub.cursor → r ∈ ahead subscribers pub.cursor))
    (sides : ∀ waiting, pub.status = .running waiting → ∀ r ∈ pub.present,
      (r ∈ passed subscribers' pub.cursor → r ∈ passed subscribers pub.cursor) ∧
      (r ∈ ahead subscribers' pub.cursor → r ∈ ahead subscribers pub.cursor)) :
    Progress subscribers' sent' pub := by
  rw [Progress] at held ⊢
  split at held
  · rename_i waiting status
    refine ⟨?_, ?_⟩
    · intro r here
      rcases kept r (here ▸ status) with ⟨member, side⟩
      exact ⟨member, fun later => (held.1 r here).2 (side later)⟩
    · intro r member
      rcases sides waiting status r member with ⟨behind, before⟩
      rw [same r member]
      exact ⟨fun place => (held.2 r member).1 (behind place),
        fun place => (held.2 r member).2 (place.imp_left before)⟩
  · intro r member stays
    rw [same r member]
    exact held r member stays
  · exact held
  · exact trivial

theorem Progress.same_list (held : Progress subscribers sent pub)
    (same : ∀ r ∈ pub.present, sent' r = sent r) : Progress subscribers sent' pub := by
  rw [Progress] at held ⊢
  split at held
  · refine ⟨held.1, ?_⟩
    intro r member
    rw [same r member]
    exact held.2 r member
  · intro r member stays
    rw [same r member]
    exact held r member stays
  · exact held
  · exact trivial

theorem Progress.returned (held : Progress subscribers sent pub)
    (ready : pub.status = .running none) (finished : pub.messages[pub.index]? = none) :
    Progress subscribers sent { pub with status := .returned subscribers } := by
  simp only [Progress, ready] at held
  intro r member stays
  rcases (mem_iff_passed_or_ahead subscribers pub.cursor r).mp stays with behind | before
  · rw [(held.2 r member).1 behind nofun]
    exact Publication.copies_of_end finished (Nat.le_succ _)
  · rw [(held.2 r member).2 (Or.inl before)]
    exact Publication.copies_of_end finished le_rfl

theorem Progress.next_message (held : Progress subscribers sent pub)
    (ready : pub.status = .running none) (finished : subscribers[pub.cursor]? = none) :
    Progress subscribers sent { pub with index := pub.index + 1, cursor := 0 } := by
  simp only [Progress, ready] at held ⊢
  refine ⟨nofun, ?_⟩
  intro r member
  refine ⟨fun behind => absurd behind (not_mem_passed_zero r), ?_⟩
  rintro (before | waiting)
  · have stays : r ∈ subscribers := List.mem_of_mem_drop before
    exact (held.2 r member).1 (mem_passed_of_end finished stays) nofun
  · cases waiting

variable {r : Nat} {message : Message}

theorem Progress.picked (held : Progress subscribers sent pub)
    (ready : pub.status = .running none) (distinct : subscribers.Nodup)
    (next : subscribers[pub.cursor]? = some r) :
    Progress subscribers sent
      { pub with cursor := pub.cursor + 1, status := .running (some r) } := by
  simp only [Progress, ready] at held ⊢
  have before : r ∈ ahead subscribers pub.cursor := by
    rw [ahead_eq_cons next]
    exact List.mem_cons_self
  refine ⟨?_, ?_⟩
  · rintro x same
    cases same
    exact ⟨List.mem_of_getElem? next, next_not_ahead distinct next⟩
  · intro x member
    constructor
    · intro behind other
      rcases (mem_passed_succ next).mp behind with behind | same
      · exact (held.2 x member).1 behind nofun
      · exact absurd (congrArg some same.symm) other
    · rintro (later | same)
      · refine (held.2 x member).2 (Or.inl ?_)
        rw [ahead_eq_cons next]
        exact List.mem_cons_of_mem _ later
      · rw [← Option.some.inj same] at member ⊢
        exact (held.2 r member).2 (Or.inl before)

theorem Progress.woken (held : Progress subscribers sent pub)
    (waiting : pub.status = .running (some r)) (item : pub.messages[pub.index]? = some message)
    (logged : sent' r = sent r ++ [message.copy]) (others : ∀ x, x ≠ r → sent' x = sent x) :
    Progress subscribers sent' { pub with status := .running none } := by
  simp only [Progress, waiting] at held ⊢
  refine ⟨nofun, ?_⟩
  intro x member
  by_cases same : x = r
  · subst same
    refine ⟨fun _ _ => ?_, ?_⟩
    · rw [logged, (held.2 x member).2 (Or.inr rfl)]
      exact (Publication.copies_succ item).symm
    · rintro (later | never)
      · exact absurd later (held.1 x rfl).2
      · cases never
  · rw [others x same]
    refine ⟨fun behind _ => (held.2 x member).1 behind ?_, ?_⟩
    · intro other
      cases other
      exact same rfl
    · rintro (later | never)
      · exact (held.2 x member).2 (Or.inl later)
      · cases never

end Progress

section Step

variable {s : State} {r p : Nat} {sub served : Subscription} {pub pub' : Publication}

theorem sentTo_set (found : s.subscriptions[r]? = some sub) (p x : Nat) :
    sentTo (s.subscriptions.set r served) p x =
      if x = r then served.sentBy p else sentTo s.subscriptions p x := by
  rcases List.getElem?_eq_some_iff.mp found with ⟨bound, -⟩
  by_cases same : x = r
  · subst same
    rw [sentTo, List.getElem?_set_self bound, if_pos rfl]
  · rw [sentTo, List.getElem?_set_ne (Ne.symm same), if_neg same, sentTo]

theorem sentTo_set_of_same (found : s.subscriptions[r]? = some sub)
    (same : served.sentBy p = sub.sentBy p) (x : Nat) :
    sentTo (s.subscriptions.set r served) p x = sentTo s.subscriptions p x := by
  rw [sentTo_set found]
  split
  · rename_i here
    rw [here, sentTo, found, same]
  · rfl

theorem sentBy_log {q : Nat} {item : Message} (logged : served.sent = sub.sent ++ [(q, item)])
    (p : Nat) : served.sentBy p = sub.sentBy p ++ if q = p then [item] else [] := by
  rw [Subscription.sentBy, logged, List.filter_append, List.map_append]
  by_cases same : q = p
  · simp [same, Subscription.sentBy]
  · simp [same, Subscription.sentBy]

theorem Registry.set_subscription {order : List Str} {subscribers : Str → List Nat}
    {subscriptions : List Subscription} (inv : Registry order subscribers subscriptions)
    (found : subscriptions[r]? = some sub) (same : SameEnds served sub) :
    Registry order subscribers (subscriptions.set r served) := by
  refine ⟨inv.distinct, inv.keyed, ?_⟩
  intro topic x member
  rcases inv.registered topic x member with ⟨old, present, named, sends, receives⟩
  by_cases here : x = r
  · subst here
    rcases List.getElem?_eq_some_iff.mp found with ⟨bound, -⟩
    rw [found] at present
    cases present
    exact ⟨served, List.getElem?_set_self bound, same.topic.trans named,
      same.sends.trans sends, same.receives.trans receives⟩
  · exact ⟨old, (List.getElem?_set_ne (Ne.symm here)).trans present, named, sends, receives⟩

theorem Waits.set_other {publications : List Publication} {waiting : Nat × Message}
    (held : Waits publications r waiting) (other : waiting.1 ≠ p) :
    Waits (publications.set p pub') r waiting := by
  rcases held with ⟨old, message, found, status, item, same⟩
  exact ⟨old, message, (List.getElem?_set_ne (Ne.symm other)).trans found, status, item, same⟩

theorem Waits.ne {publications : List Publication} {waiting : Nat × Message}
    (held : Waits publications r waiting) (found : publications[p]? = some pub)
    (elsewhere : pub.status ≠ .running (some r)) : waiting.1 ≠ p := by
  rcases held with ⟨old, message, present, status, item, same⟩
  intro here
  rw [here, found] at present
  cases present
  exact elsewhere status

theorem Delivering.exchange (inv : Delivering s) (found : s.subscriptions[r]? = some sub)
    (same : SameEnds served sub) (foundPub : s.publications[p]? = some pub)
    (at_most_here : ∀ x, pub.status = .running (some x) → x = r)
    (sameTopic : pub'.topic = pub.topic) (samePresent : pub'.present = pub.present)
    (distinct : (served.senders.map Prod.fst).Nodup)
    (waits : ∀ waiting ∈ served.senders, Waits (s.publications.set p pub') r waiting)
    (known : ∀ entry ∈ served.sent, entry ∈ sub.sent ∨ entry.1 = p)
    (sameSent : ∀ q, q ≠ p → served.sentBy q = sub.sentBy q)
    (progress : Progress (s.subscribers pub.topic) (sentTo (s.subscriptions.set r served) p) pub') :
    Delivering { s with
      subscriptions := s.subscriptions.set r served
      publications := s.publications.set p pub' } := by
  have listed : p < s.publications.length := (List.getElem?_eq_some_iff.mp foundPub).1
  refine ⟨inv.toRegistry.set_subscription found same, inv.opened, ?_, ?_, ?_, ?_, ?_⟩
  · intro x other present
    rcases Update.getElem?_set_cases _ present with ⟨rfl, rfl⟩ | ⟨-, present⟩
    · exact distinct
    · exact inv.senders_distinct x other present
  · intro x other present waiting member
    rcases Update.getElem?_set_cases _ present with ⟨rfl, rfl⟩ | ⟨elsewhere, present⟩
    · exact waits waiting member
    · have held := inv.waits x other present waiting member
      exact held.set_other (held.ne foundPub (fun status => elsewhere (at_most_here x status)))
  · intro q other present x member
    rw [List.length_set]
    rcases Update.getElem?_set_cases _ present with ⟨rfl, rfl⟩ | ⟨-, present⟩
    · rw [samePresent] at member
      exact inv.present_known _ pub foundPub x member
    · exact inv.present_known q other present x member
  · intro x other present entry member
    rw [List.length_set]
    rcases Update.getElem?_set_cases _ present with ⟨rfl, rfl⟩ | ⟨-, present⟩
    · rcases known entry member with old | new
      · exact inv.sent_known _ sub found entry old
      · rw [new]
        exact listed
    · exact inv.sent_known x other present entry member
  · intro q other present
    rcases Update.getElem?_set_cases _ present with ⟨rfl, rfl⟩ | ⟨elsewhere, present⟩
    · rw [sameTopic]
      exact progress
    · exact (inv.progress q other present).same_list
        (fun x _ => sentTo_set_of_same found (sameSent q elsewhere) x)

theorem Delivering.set_publication (inv : Delivering s) (foundPub : s.publications[p]? = some pub)
    (ready : pub.status = .running none)
    (sameTopic : pub'.topic = pub.topic) (samePresent : pub'.present = pub.present)
    (progress : Progress (s.subscribers pub.topic) (sentTo s.subscriptions p) pub') :
    Delivering { s with publications := s.publications.set p pub' } := by
  refine ⟨⟨inv.distinct, inv.keyed, inv.registered⟩, inv.opened, inv.senders_distinct, ?_, ?_,
    ?_, ?_⟩
  · intro x other present waiting member
    have held := inv.waits x other present waiting member
    apply held.set_other
    apply held.ne foundPub
    rw [ready]
    nofun
  · intro q other present x member
    rcases Update.getElem?_set_cases _ present with ⟨rfl, rfl⟩ | ⟨-, present⟩
    · rw [samePresent] at member
      exact inv.present_known _ pub foundPub x member
    · exact inv.present_known q other present x member
  · intro x other present entry member
    rw [List.length_set]
    exact inv.sent_known x other present entry member
  · intro q other present
    rcases Update.getElem?_set_cases _ present with ⟨rfl, rfl⟩ | ⟨-, present⟩
    · rw [sameTopic]
      exact progress
    · exact inv.progress q other present

theorem Delivering.set_subscription (inv : Delivering s) (found : s.subscriptions[r]? = some sub)
    {subscribers : Str → List Nat}
    (registry : Registry s.order subscribers (s.subscriptions.set r served))
    (fewer : served.senders.Sublist sub.senders) (sameSent : served.sent = sub.sent)
    (progress : ∀ (p : Nat) pub, s.publications[p]? = some pub →
      Progress (subscribers pub.topic) (sentTo s.subscriptions p) pub) :
    Delivering { s with
      subscribers := subscribers
      subscriptions := s.subscriptions.set r served } := by
  refine ⟨registry, inv.opened, ?_, ?_, ?_, ?_, ?_⟩
  · intro x other present
    rcases Update.getElem?_set_cases _ present with ⟨rfl, rfl⟩ | ⟨-, present⟩
    · exact (inv.senders_distinct _ sub found).sublist (fewer.map Prod.fst)
    · exact inv.senders_distinct x other present
  · intro x other present waiting member
    rcases Update.getElem?_set_cases _ present with ⟨rfl, rfl⟩ | ⟨-, present⟩
    · exact inv.waits _ sub found waiting (fewer.subset member)
    · exact inv.waits x other present waiting member
  · intro q other present x member
    rw [List.length_set]
    exact inv.present_known q other present x member
  · intro x other present entry member
    rcases Update.getElem?_set_cases _ present with ⟨rfl, rfl⟩ | ⟨-, present⟩
    · rw [sameSent] at member
      exact inv.sent_known _ sub found entry member
    · exact inv.sent_known x other present entry member
  · intro q other present
    have unsent : served.sentBy q = sub.sentBy q := by
      rw [Subscription.sentBy, sameSent]
      rfl
    exact (progress q other present).same_list (fun x _ => sentTo_set_of_same found unsent x)

theorem logged_known {item : Message} (logged : served.sent = sub.sent ++ [(p, item)])
    (entry : Nat × Message) (member : entry ∈ served.sent) : entry ∈ sub.sent ∨ entry.1 = p := by
  rw [logged] at member
  rcases List.mem_append.mp member with old | new
  · exact Or.inl old
  · rw [List.mem_singleton.mp new]
    exact Or.inr rfl

theorem logged_elsewhere {item : Message} (logged : served.sent = sub.sent ++ [(p, item)])
    (q : Nat) (other : q ≠ p) : served.sentBy q = sub.sentBy q := by
  rw [sentBy_log logged, if_neg (Ne.symm other), List.append_nil]

theorem logged_here {item : Message} (found : s.subscriptions[r]? = some sub)
    (logged : served.sent = sub.sent ++ [(p, item)]) :
    sentTo (s.subscriptions.set r served) p r = sentTo s.subscriptions p r ++ [item] ∧
      ∀ x, x ≠ r → sentTo (s.subscriptions.set r served) p x = sentTo s.subscriptions p x := by
  constructor
  · rw [sentTo_set found, if_pos rfl, sentBy_log logged, if_pos rfl, sentTo, found]
  · intro x other
    rw [sentTo_set found, if_neg other]

variable {bufferSize : Nat} {t : State}

theorem senders_apart
    (waits : ∀ (r : Nat) sub, s.subscriptions[r]? = some sub →
      ∀ waiting ∈ sub.senders, Waits s.publications r waiting)
    (found : s.publications[p]? = some pub)
    (unqueued : ∀ x sub, pub.status = .running (some x) → s.subscriptions[x]? = some sub →
      p ∉ sub.senders.map Prod.fst)
    (x : Nat) (other : Subscription) (there : s.subscriptions[x]? = some other)
    (waiting : Nat × Message) (member : waiting ∈ other.senders) : waiting.1 ≠ p := by
  rintro rfl
  rcases waits x other there waiting member with ⟨old, message, present, sending, -⟩
  rw [found] at present
  cases present
  exact unqueued x other sending there (List.mem_map_of_mem member)

theorem unqueued_here (sending : pub.status = .running (some r))
    (present : s.subscriptions[r]? = some sub) (unqueued : p ∉ sub.senders.map Prod.fst) (x : Nat)
    (other : Subscription) (status : pub.status = .running (some x))
    (there : s.subscriptions[x]? = some other) : p ∉ other.senders.map Prod.fst := by
  rw [sending] at status
  cases status
  rw [present] at there
  cases there
  exact unqueued

theorem Delivering.accepted (inv : Delivering s) (found : s.publications[p]? = some pub)
    (sending : pub.status = .running (some r)) {message : Message}
    (item : pub.messages[pub.index]? = some message) (present : s.subscriptions[r]? = some sub)
    (same : SameEnds served sub) (logged : served.sent = sub.sent ++ [(p, message.copy)])
    (fewer : served.senders.Sublist sub.senders) (unqueued : p ∉ served.senders.map Prod.fst) :
    Delivering { s with
      subscriptions := s.subscriptions.set r served
      publications := s.publications.set p { pub with status := .running none } } := by
  rcases logged_here present logged with ⟨here, others⟩
  apply inv.exchange present same found
  · intro x status
    rw [sending] at status
    cases status
    rfl
  · rfl
  · rfl
  · exact (inv.senders_distinct r sub present).sublist (fewer.map Prod.fst)
  · intro waiting member
    apply (inv.waits r sub present waiting (fewer.subset member)).set_other
    rintro rfl
    exact unqueued (List.mem_map_of_mem member)
  · exact logged_known logged
  · exact logged_elsewhere logged
  · exact (inv.progress p pub found).woken sending item here others

theorem Delivering.sent (inv : Delivering s) (found : s.publications[p]? = some pub)
    (sending : pub.status = .running (some r)) {message : Message}
    (item : pub.messages[pub.index]? = some message)
    (present : s.subscriptions[r]? = some sub) (unqueued : p ∉ sub.senders.map Prod.fst)
    {taken : Bool} (result : sub.send bufferSize p message.copy = .ok (served, taken)) :
    Delivering { s with
      subscriptions := s.subscriptions.set r served
      publications := s.publications.set p
        { pub with status := .running (if taken then none else some r) } } := by
  have held := inv.progress p pub found
  have apart := senders_apart inv.waits found (unqueued_here sending present unqueued) r sub present
  rcases send_ok result with ⟨same, ⟨rfl, sameSenders, logged⟩ | ⟨rfl, queued, sameSent⟩⟩
  · apply inv.accepted found sending item present same logged
    · rw [sameSenders]
    · rw [sameSenders]
      exact unqueued
  · apply inv.exchange present same found
    · intro x status
      rw [sending] at status
      cases status
      rfl
    · rfl
    · rfl
    · rw [queued, List.map_append, List.nodup_append]
      refine ⟨inv.senders_distinct r sub present, List.pairwise_singleton _ _, ?_⟩
      intro first inside second last
      rcases List.mem_map.mp inside with ⟨waiting, member, rfl⟩
      rw [List.mem_singleton.mp last]
      exact apart waiting member
    · intro waiting member
      rw [queued] at member
      rcases List.mem_append.mp member with old | new
      · exact (inv.waits r sub present waiting old).set_other (apart waiting old)
      · rw [List.mem_singleton.mp new]
        have bound := (List.getElem?_eq_some_iff.mp found).1
        exact ⟨_, message, List.getElem?_set_self bound, rfl, item, rfl⟩
    · intro entry member
      rw [sameSent] at member
      exact Or.inl member
    · intro q other
      rw [Subscription.sentBy, sameSent]
      rfl
    · have unsent : served.sentBy p = sub.sentBy p := by
        rw [Subscription.sentBy, sameSent]
        rfl
      have unchanged : Progress (s.subscribers pub.topic) (sentTo s.subscriptions p)
          { pub with status := .running (some r) } := by
        rw [← sending]
        exact held
      exact unchanged.same_list (fun x _ => sentTo_set_of_same present unsent x)

theorem Delivering.send_ne_error (inv : Delivering s) {topic : Str}
    (member : r ∈ s.subscribers topic) (present : s.subscriptions[r]? = some sub) (item : Message)
    (error : Error) : sub.send bufferSize p item ≠ .error error := by
  intro result
  rcases inv.registered topic r member with ⟨same, here, -, sends, receives⟩
  rw [present] at here
  cases here
  rcases send_error result with closed | closed
  · rw [sends] at closed
    cases closed
  · rw [receives] at closed
    cases closed

theorem Delivering.woken (inv : Delivering s) (present : s.subscriptions[r]? = some sub)
    {item : Message} {senders : List (Nat × Message)} (queue : sub.senders = (p, item) :: senders)
    (found : s.publications[p]? = some pub) :
    Delivering { s with
      subscriptions := s.subscriptions.set r
        { sub with
          buffer := (sub.buffer ++ [item]).tail
          senders := senders
          sent := sub.sent ++ [(p, item)] }
      publications := s.publications.set p { pub with status := .running none } } := by
  have first : (p, item) ∈ sub.senders := by
    rw [queue]
    exact List.mem_cons_self
  rcases inv.waits r sub present _ first with ⟨same, message, here, status, next, rfl⟩
  rw [found] at here
  cases here
  have distinct := inv.senders_distinct r sub present
  rw [queue, List.map_cons, List.nodup_cons] at distinct
  apply inv.accepted found status next present
  · exact ⟨rfl, rfl, rfl, fun _ => id⟩
  · rfl
  · rw [queue]
    exact List.sublist_cons_self _ _
  · exact distinct.1

theorem Delivering.abandon (inv : Delivering s) (found : s.publications[p]? = some pub)
    (waiting : pub.status = .running (some r)) :
    Delivering { s with
      subscriptions := s.subscriptions.modify r (fun sub =>
        { sub with senders := sub.senders.filter (fun entry => entry.1 ≠ p) })
      publications := s.publications.set p { pub with status := .cancelled } } := by
  have held := inv.progress p pub found
  simp only [Progress, waiting] at held
  rcases inv.registered pub.topic r (held.1 r rfl).1 with ⟨sub, present, -⟩
  rw [Update.modify_eq_set _ present]
  refine inv.exchange present ⟨rfl, rfl, rfl, fun _ => id⟩ found ?_ rfl rfl ?_ ?_ ?_ ?_ trivial
  · intro x status
    rw [waiting] at status
    cases status
    rfl
  · exact (inv.senders_distinct r sub present).sublist (List.filter_sublist.map Prod.fst)
  · intro entry member
    rcases List.mem_filter.mp member with ⟨inside, other⟩
    exact (inv.waits r sub present entry inside).set_other (of_decide_eq_true other)
  · intro entry member
    exact Or.inl member
  · intro q other
    rfl

theorem sentTo_append_new (topic : Str) (p x : Nat) :
    sentTo (s.subscriptions ++ [Subscription.new topic]) p x = sentTo s.subscriptions p x := by
  rcases Nat.lt_or_ge x s.subscriptions.length with before | beyond
  · rw [sentTo, List.getElem?_append_left before, sentTo]
  · rw [sentTo, sentTo, List.getElem?_eq_none beyond]
    split
    · rename_i sub present
      rcases Update.getElem?_append_cases _ present with ⟨-, rfl⟩ | present
      · rfl
      · rw [List.getElem?_eq_none beyond] at present
        cases present
    · rfl

theorem Registry.lt_length {order : List Str} {subscribers : Str → List Nat}
    {subscriptions : List Subscription} (inv : Registry order subscribers subscriptions)
    {topic : Str} (member : r ∈ subscribers topic) : r < subscriptions.length := by
  rcases inv.registered topic r member with ⟨sub, present, -⟩
  exact (List.getElem?_eq_some_iff.mp present).1

theorem mem_subscribed {subscribers : Str → List Nat} {topic other : Str} {next x : Nat}
    (member : x ∈ Function.update subscribers topic (subscribers topic ++ [next]) other) :
    x ∈ subscribers other ∨ (x = next ∧ other = topic) := by
  by_cases same : other = topic
  · subst same
    rw [Function.update_self] at member
    exact (List.mem_append.mp member).imp_right (fun last => ⟨List.mem_singleton.mp last, rfl⟩)
  · rw [Function.update_of_ne same] at member
    exact Or.inl member

theorem Registry.subscribe {order : List Str} {subscribers : Str → List Nat}
    {subscriptions : List Subscription} (inv : Registry order subscribers subscriptions)
    (topic : Str) :
    Registry (if topic ∈ order then order else order ++ [topic])
      (Function.update subscribers topic (subscribers topic ++ [subscriptions.length]))
      (subscriptions ++ [Subscription.new topic]) := by
  refine ⟨?_, ?_, ?_⟩
  · intro other
    by_cases same : other = topic
    · subst same
      rw [Function.update_self, List.nodup_append]
      refine ⟨inv.distinct _, List.pairwise_singleton _ _, ?_⟩
      intro x inside y last equal
      rw [List.mem_singleton.mp last] at equal
      exact absurd equal (Nat.ne_of_lt (inv.lt_length inside))
    · rw [Function.update_of_ne same]
      exact inv.distinct other
  · intro other x member
    rcases mem_subscribed member with old | ⟨-, rfl⟩
    · have known := inv.keyed other x old
      split
      · exact known
      · exact List.mem_append_left _ known
    · split
      · rename_i known
        exact known
      · exact List.mem_append_right _ (List.mem_singleton_self _)
  · intro other x member
    rcases mem_subscribed member with old | ⟨rfl, rfl⟩
    · rcases inv.registered other x old with ⟨sub, present, facts⟩
      exact ⟨sub, Update.getElem?_append_of_some _ present, facts⟩
    · exact ⟨Subscription.new other, List.getElem?_concat_length, rfl, rfl, rfl⟩

theorem Progress.subscribed (inv : Delivering s) (topic : Str)
    (found : s.publications[p]? = some pub) :
    Progress
      (Function.update s.subscribers topic (s.subscribers topic ++ [s.subscriptions.length])
        pub.topic)
      (sentTo (s.subscriptions ++ [Subscription.new topic]) p) pub := by
  have held := inv.progress p pub found
  by_cases same : pub.topic = topic
  · rw [← same, Function.update_self]
    refine held.edit (fun x _ => sentTo_append_new _ p x) ?_ ?_
    · intro x status
      simp only [Progress, status] at held
      have inside := (held.1 x rfl).1
      refine ⟨List.mem_append_left _ inside, ?_⟩
      intro later
      exact (mem_ahead_append later).resolve_right (Nat.ne_of_lt (inv.lt_length inside))
    · intro waiting status x member
      have old := Nat.ne_of_lt (inv.present_known p pub found x member)
      exact ⟨fun place => (mem_passed_append place).resolve_right old,
        fun place => (mem_ahead_append place).resolve_right old⟩
  · rw [Function.update_of_ne same]
    exact held.same_list (fun x _ => sentTo_append_new _ p x)

theorem Delivering.subscribe (inv : Delivering s) (topic : Str)
    (taken : subscribe s topic = .ok t) : Delivering t := by
  rw [Memory.subscribe, if_neg (by rw [inv.opened]; exact Bool.false_ne_true)] at taken
  cases taken
  refine ⟨inv.toRegistry.subscribe topic, inv.opened, ?_, ?_, ?_, ?_, ?_⟩
  · intro x other present
    rcases Update.getElem?_append_cases _ present with ⟨-, rfl⟩ | present
    · exact List.nodup_nil
    · exact inv.senders_distinct x other present
  · intro x other present waiting member
    rcases Update.getElem?_append_cases _ present with ⟨-, rfl⟩ | present
    · cases member
    · exact inv.waits x other present waiting member
  · intro q other present x member
    rw [List.length_append]
    exact Nat.lt_add_right _ (inv.present_known q other present x member)
  · intro x other present entry member
    rcases Update.getElem?_append_cases _ present with ⟨-, rfl⟩ | present
    · cases member
    · exact inv.sent_known x other present entry member
  · intro q other present
    exact Progress.subscribed inv topic present

theorem Delivering.sentTo_fresh (inv : Delivering s) (x : Nat) :
    sentTo s.subscriptions s.publications.length x = [] := by
  rw [sentTo]
  split
  · rename_i sub present
    rw [Subscription.sentBy, List.map_eq_nil_iff, List.filter_eq_nil_iff]
    intro entry member same
    have earlier := inv.sent_known x sub present entry member
    rw [of_decide_eq_true same] at earlier
    exact Nat.lt_irrefl _ earlier
  · rfl

theorem Delivering.publish (inv : Delivering s) (topic : Str) (messages : List Message) :
    Delivering { s with publications := s.publications ++ [publish s topic messages] } := by
  rw [Memory.publish, if_neg (by rw [inv.opened]; exact Bool.false_ne_true)]
  have known : ∀ pub, pub = (if topic ∈ s.order then
      ⟨topic, messages, s.subscribers topic, 0, 0, .running none⟩
      else ⟨topic, messages, [], 0, 0, .returned []⟩ : Publication) →
      (∀ r ∈ pub.present, r < s.subscriptions.length) ∧
      Progress (s.subscribers pub.topic) (sentTo s.subscriptions s.publications.length) pub := by
    intro pub made
    split at made
    · subst made
      refine ⟨fun r member => inv.lt_length member, nofun, ?_⟩
      intro r member
      refine ⟨fun behind => absurd behind (not_mem_passed_zero r), ?_⟩
      intro _
      exact inv.sentTo_fresh r
    · subst made
      exact ⟨fun r member => absurd member List.not_mem_nil,
        fun r member => absurd member List.not_mem_nil⟩
  refine ⟨⟨inv.distinct, inv.keyed, inv.registered⟩, inv.opened, inv.senders_distinct, ?_, ?_,
    ?_, ?_⟩
  · intro x sub present waiting member
    rcases inv.waits x sub present waiting member with ⟨pub, message, found, facts⟩
    exact ⟨pub, message, Update.getElem?_append_of_some _ found, facts⟩
  · intro q other present
    rcases Update.getElem?_append_cases _ present with ⟨-, made⟩ | present
    · exact (known other made).1
    · exact inv.present_known q other present
  · intro x sub present entry member
    rw [List.length_append]
    exact Nat.lt_add_right _ (inv.sent_known x sub present entry member)
  · intro q other present
    rcases Update.getElem?_append_cases _ present with ⟨rfl, made⟩ | present
    · exact (known other made).2
    · exact inv.progress q other present

theorem Registry.set_absent {order : List Str} {subscribers : Str → List Nat}
    {subscriptions : List Subscription} (inv : Registry order subscribers subscriptions)
    (absent : ∀ topic, r ∉ subscribers topic) (served : Subscription) :
    Registry order subscribers (subscriptions.set r served) := by
  refine ⟨inv.distinct, inv.keyed, ?_⟩
  intro topic x member
  rcases inv.registered topic x member with ⟨old, present, facts⟩
  have other : r ≠ x := by
    intro same
    exact absent topic (same ▸ member)
  exact ⟨old, (List.getElem?_set_ne other).trans present, facts⟩

theorem Registry.erase {order : List Str} {subscribers : Str → List Nat}
    {subscriptions : List Subscription} (inv : Registry order subscribers subscriptions)
    (r : Nat) : Registry order (fun topic => (subscribers topic).erase r) subscriptions := by
  refine ⟨?_, ?_, ?_⟩
  · intro topic
    exact (inv.distinct topic).erase r
  · intro topic x member
    exact inv.keyed topic x (List.mem_of_mem_erase member)
  · intro topic x member
    exact inv.registered topic x (List.mem_of_mem_erase member)

theorem leave_subscribers (inv : Registry s.order s.subscribers s.subscriptions)
    (present : s.subscriptions[r]? = some sub) :
    (leave s r sub).subscribers = fun topic => (s.subscribers topic).erase r := by
  have elsewhere : ∀ topic, r ∈ s.subscribers topic → topic = sub.topic := by
    intro topic member
    rcases inv.registered topic r member with ⟨same, here, named, -⟩
    rw [present] at here
    cases here
    exact named.symm
  funext topic
  simp only [leave]
  by_cases known : sub.topic ∈ s.order
  · rw [if_pos known]
    by_cases same : topic = sub.topic
    · rw [same, Function.update_self]
    · rw [Function.update_of_ne same, List.erase_of_not_mem]
      exact fun member => same (elsewhere topic member)
  · rw [if_neg known, List.erase_of_not_mem]
    intro member
    exact known (elsewhere topic member ▸ inv.keyed topic r member)

theorem Progress.left (inv : Delivering s) (present : s.subscriptions[r]? = some sub)
    (guarded : ∀ pub ∈ s.publications, pub.topic = sub.topic →
      LeavesUndisturbed (s.subscribers sub.topic) r pub)
    (found : s.publications[p]? = some pub) :
    Progress ((s.subscribers pub.topic).erase r) (sentTo s.subscriptions p) pub := by
  have held := inv.progress p pub found
  by_cases member : r ∈ s.subscribers pub.topic
  · rcases inv.registered pub.topic r member with ⟨same, here, named, -⟩
    rw [present] at here
    cases here
    have harmless := guarded pub (List.mem_of_getElem? found) named.symm
    rw [named] at harmless
    refine held.edit (fun _ _ => rfl) ?_ ?_
    · intro x status
      simp only [Progress, status] at held
      simp only [LeavesUndisturbed, status] at harmless
      have other : x ≠ r := fun same => harmless.1 (congrArg some same)
      exact ⟨(List.mem_erase_of_ne other).mpr (held.1 x rfl).1, mem_ahead_erase harmless.2⟩
    · intro waiting status x _
      simp only [LeavesUndisturbed, status] at harmless
      exact ⟨mem_passed_erase harmless.2, mem_ahead_erase harmless.2⟩
  · rw [List.erase_of_not_mem member]
    exact held

theorem breakSenders_cases {senders : List (Nat × Message)} {publications : List Publication}
    (found : (breakSenders senders publications)[p]? = some pub) :
    ∃ old, publications[p]? = some old ∧
      ((p ∈ senders.map Prod.fst ∧ pub = { old with status := .raised .brokenResource }) ∨
        (p ∉ senders.map Prod.fst ∧ pub = old)) := by
  rw [breakSenders, List.getElem?_mapIdx] at found
  rcases Option.map_eq_some_iff.mp found with ⟨old, there, changed⟩
  refine ⟨old, there, ?_⟩
  split at changed
  · rename_i waits
    exact Or.inl ⟨waits, changed.symm⟩
  · rename_i apart
    exact Or.inr ⟨apart, changed.symm⟩

theorem getElem?_breakSenders (senders : List (Nat × Message)) {publications : List Publication}
    (found : publications[p]? = some pub) :
    ∃ next, (breakSenders senders publications)[p]? = some next ∧ next.topic = pub.topic ∧
      (p ∉ senders.map Prod.fst → next = pub) := by
  simp only [breakSenders, List.getElem?_mapIdx, found, Option.map_some]
  refine ⟨_, rfl, ?_, ?_⟩
  · split <;> rfl
  · intro apart
    rw [if_neg apart]

theorem breakSenders_nil (publications : List Publication) :
    breakSenders [] publications = publications := by
  rw [breakSenders]
  apply List.ext_getElem?
  intro p
  rw [List.getElem?_mapIdx]
  cases publications[p]? with
  | none => rfl
  | some pub => rfl

theorem Delivering.senders_eq_nil (inv : Delivering s) (present : s.subscriptions[r]? = some sub)
    (guarded : ∀ pub ∈ s.publications, pub.topic = sub.topic →
      LeavesUndisturbed (s.subscribers sub.topic) r pub) : sub.senders = [] := by
  apply List.eq_nil_iff_forall_not_mem.mpr
  intro waiting member
  rcases inv.waits r sub present waiting member with ⟨pub, message, found, sending, -⟩
  have held := inv.progress _ pub found
  simp only [Progress, sending] at held
  rcases inv.registered pub.topic r (held.1 r rfl).1 with ⟨same, here, named, -⟩
  rw [present] at here
  cases here
  have harmless := guarded pub (List.mem_of_getElem? found) named.symm
  simp only [LeavesUndisturbed, sending] at harmless
  exact harmless.1 rfl

theorem Delivering.leave (inv : Delivering s) (present : s.subscriptions[r]? = some sub)
    (guarded : ∀ pub ∈ s.publications, pub.topic = sub.topic →
      LeavesUndisturbed (s.subscribers sub.topic) r pub) :
    Delivering (leave s r sub) := by
  have lists := leave_subscribers inv.toRegistry present
  simp only [Memory.leave] at lists ⊢
  rw [lists, inv.senders_eq_nil present guarded, breakSenders_nil]
  refine inv.set_subscription present ?_ (List.nil_sublist _) rfl ?_
  · apply (inv.toRegistry.erase r).set_absent
    intro topic member
    exact (inv.distinct topic).not_mem_erase member
  · intro q other found
    exact Progress.left inv present guarded found

end Step

theorem step_delivering (bufferSize : Nat) (s : State) (e : Event) (t : State)
    (inv : Delivering s) (guarded : LeaversBehindNone s e ∧ e ≠ .close)
    (taken : step bufferSize s e = some t) : Delivering t := by
  cases taken_of_step taken with
  | publish => exact inv.publish _ _
  | finished found ready sent =>
      exact inv.set_publication found ready rfl rfl ((inv.progress _ _ found).returned ready sent)
  | nextMessage found ready item passed =>
      have held := inv.progress _ _ found
      exact inv.set_publication found ready rfl rfl (held.next_message ready passed)
  | picked found ready item next =>
      have held := inv.progress _ _ found
      exact inv.set_publication found ready rfl rfl (held.picked ready (inv.distinct _) next)
  | failed found sending present unqueued result =>
      have held := inv.progress _ _ found
      simp only [Progress, sending] at held
      exact absurd result (inv.send_ne_error (held.1 _ rfl).1 present _ _)
  | sent found sending item present unqueued result =>
      exact inv.sent found sending item present unqueued result
  | abandon found sending => exact inv.abandon found sending
  | abandonReady found ready => exact inv.set_publication found ready rfl rfl trivial
  | subscribe made => exact inv.subscribe _ made
  | refused => exact inv
  | receiveWaiting present queue found => exact inv.woken present queue found
  | receiveBuffered present =>
      refine inv.set_subscription present ?_ (List.Sublist.refl _) rfl inv.progress
      exact inv.toRegistry.set_subscription present ⟨rfl, rfl, rfl, fun _ => id⟩
  | receiveNone present opened =>
      refine inv.set_subscription present ?_ (List.Sublist.refl _) rfl inv.progress
      exact inv.toRegistry.set_subscription present
        ⟨rfl, rfl, rfl, fun closed => absurd closed opened⟩
  | cancel present =>
      refine inv.set_subscription present ?_ (List.Sublist.refl _) rfl inv.progress
      exact inv.toRegistry.set_subscription present ⟨rfl, rfl, rfl, nofun⟩
  | leave present => exact inv.leave present (guarded.1 _ present)
  | close => exact absurd rfl guarded.2

theorem Delivering.fannedOut {s : State} (inv : Delivering s) : FannedOut s := by
  intro p pub found
  have held := inv.progress p pub found
  rw [Progress] at held
  rw [Reached]
  cases status : pub.status with
  | running waiting => trivial
  | returned remaining =>
      rw [status] at held
      exact held
  | raised error =>
      rw [status] at held
      exact held
  | cancelled => trivial

/-- In every run without a close in which no leaving subscriber disturbs a publish call, each
call reaches all the subscriptions that outlast it, and none raises. -/
theorem undisturbed_run_fans_out (bufferSize : Nat) (events : List Event)
    (unclosed : ∀ e ∈ events, e ≠ .close)
    (guarded : Along (step bufferSize) LeaversBehindNone initial events) :
    Throughout (step bufferSize) FannedOut initial events := by
  intro s visited
  have both := along_and guarded (along_of_forall (fun e member _ => unclosed e member) initial)
  exact (visits_invariant (step_delivering bufferSize) initial_delivering both visited).fannedOut

/-- The first of three subscribers leaves while the publisher waits for the second, and the
third is skipped. -/
theorem leaver_hides_a_subscriber :
    ¬ Throughout (step 1) FannedOut initial
      [.subscribe [], .subscribe [], .subscribe [],
        .publish [] [⟨[], [], 0, AckState.fresh⟩, ⟨[], [], 1, AckState.fresh⟩],
        .advance 0, .put 0, .advance 0, .put 0, .advance 0, .put 0, .advance 0, .advance 0,
        .receive 0, .put 0, .advance 0, .put 0, .leave 0, .receive 1, .advance 0, .advance 0] := by
  decide

theorem leaver_ahead_fans_out :
    Throughout (step 1) FannedOut initial
      [.subscribe [], .subscribe [], .subscribe [],
        .publish [] [⟨[], [], 0, AckState.fresh⟩, ⟨[], [], 1, AckState.fresh⟩],
        .advance 0, .put 0, .advance 0, .put 0, .advance 0, .put 0, .advance 0, .advance 0,
        .receive 0, .put 0, .advance 0, .put 0, .leave 2, .receive 1, .advance 0, .advance 0] :=
  undisturbed_run_fans_out 1 _ (by decide) (by decide)

end Natricine.PubSub.Memory
