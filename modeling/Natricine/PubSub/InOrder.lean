import Natricine.PubSub.Closing
import Natricine.PubSub.FanOut

namespace Natricine.PubSub.Memory

open Cursor Text Transition

structure Stream (bufferSize : Nat) (sub : Subscription) : Prop where
  last : sub.buffer <:+ sub.sent.map Prod.snd
  bounded : sub.buffer.length ≤ bufferSize
  waiting : sub.receiving = true → sub.buffer = []

/-- How many messages of a call a subscription may have been sent: those before the one that the
call is at, and that one too when the call has passed the subscription and does not wait for it. -/
def Publication.allowance (pub : Publication) (subscribers : List Nat) (r : Nat) : Nat :=
  match pub.status with
  | .running waiting =>
      if r ∈ ahead subscribers pub.cursor ∨ waiting = some r then pub.index else pub.index + 1
  | .returned _ | .raised _ | .cancelled => pub.messages.length

/-- Every send belongs to a call on the topic of its subscription, and no call has sent more than
it may have. -/
structure Orderly (s : State) : Prop where
  distinct : ∀ topic, (s.subscribers topic).Nodup
  registered : ∀ topic, ∀ r ∈ s.subscribers topic,
    ∃ sub, s.subscriptions[r]? = some sub ∧ sub.topic = topic
  filed : ∀ (r : Nat) sub, s.subscriptions[r]? = some sub → ∀ entry ∈ sub.sent ++ sub.senders,
    ∃ pub, s.publications[entry.1]? = some pub ∧ pub.topic = sub.topic
  once : ∀ (r : Nat) sub, s.subscriptions[r]? = some sub → (sub.senders.map Prod.fst).Nodup
  waits : ∀ (r : Nat) sub, s.subscriptions[r]? = some sub →
    ∀ waiting ∈ sub.senders, Waits s.publications r waiting
  awaited : ∀ (p : Nat) pub r, s.publications[p]? = some pub → pub.status = .running (some r) →
    r ∉ ahead (s.subscribers pub.topic) pub.cursor ∧
      ∃ sub, s.subscriptions[r]? = some sub ∧ sub.topic = pub.topic
  allowed : ∀ (p : Nat) pub, s.publications[p]? = some pub → ∀ r,
    (sentTo s.subscriptions p r).Sublist
      (pub.copies (pub.allowance (s.subscribers pub.topic) r))

theorem orderly_initial : Orderly initial where
  distinct := fun _ => List.nodup_nil
  registered := fun _ _ member => absurd member List.not_mem_nil
  filed := fun _ _ found => by cases found
  once := fun _ _ found => by cases found
  waits := fun _ _ found => by cases found
  awaited := fun _ _ _ found => by cases found
  allowed := fun _ _ found => by cases found

section Allowance

variable {pub pub' : Publication} {subscribers : List Nat} {r : Nat}

theorem Publication.copies_sublist (pub : Publication) {few many : Nat}
    (more : few ≤ many ∨ pub.messages.length ≤ many) :
    (pub.copies few).Sublist (pub.copies many) := by
  apply List.Sublist.map
  rcases more with more | all
  · exact (List.take_prefix_take_left more).sublist
  · rw [List.take_of_length_le all]
    exact List.take_sublist few pub.messages

theorem Publication.allowance_awaited (waiting : pub.status = .running (some r)) :
    pub.allowance subscribers r = pub.index := by
  simp [allowance, waiting]

theorem Publication.allowance_ahead {waiting : Option Nat} (runs : pub.status = .running waiting)
    (before : r ∈ ahead subscribers pub.cursor) : pub.allowance subscribers r = pub.index := by
  simp [allowance, runs, before]

theorem Publication.allowance_passed {waiting : Option Nat} (runs : pub.status = .running waiting)
    (behind : r ∉ ahead subscribers pub.cursor) (other : waiting ≠ some r) :
    pub.allowance subscribers r = pub.index + 1 := by
  simp [allowance, runs, behind, other]

theorem Publication.allowance_le {waiting : Option Nat} (runs : pub.status = .running waiting) :
    pub.allowance subscribers r ≤ pub.index + 1 := by
  simp only [allowance, runs]
  split <;> omega

end Allowance

section Step

variable {s : State} {r p : Nat} {sub served : Subscription} {pub pub' : Publication}

theorem filed_append {publications : List Publication} {entry : Nat × Message} {topic : Str}
    (filed : ∃ pub, publications[entry.1]? = some pub ∧ pub.topic = topic) (new : Publication) :
    ∃ pub, (publications ++ [new])[entry.1]? = some pub ∧ pub.topic = topic := by
  rcases filed with ⟨pub, found, same⟩
  exact ⟨pub, Update.getElem?_append_of_some _ found, same⟩

theorem filed_set {publications : List Publication} {entry : Nat × Message} {topic : Str}
    (found : publications[p]? = some pub) (sameTopic : pub'.topic = pub.topic)
    (filed : ∃ pub, publications[entry.1]? = some pub ∧ pub.topic = topic) :
    ∃ pub, (publications.set p pub')[entry.1]? = some pub ∧ pub.topic = topic := by
  rcases filed with ⟨old, present, same⟩
  rcases List.getElem?_eq_some_iff.mp found with ⟨bound, -⟩
  by_cases here : entry.1 = p
  · rw [here, found] at present
    cases present
    exact ⟨pub', by rw [here, List.getElem?_set_self bound], sameTopic.trans same⟩
  · exact ⟨old, (List.getElem?_set_ne (Ne.symm here)).trans present, same⟩

theorem present_set {topic : Str} {x : Nat} (found : s.subscriptions[r]? = some sub)
    (same : served.topic = sub.topic)
    (present : ∃ old, s.subscriptions[x]? = some old ∧ old.topic = topic) :
    ∃ old, (s.subscriptions.set r served)[x]? = some old ∧ old.topic = topic := by
  rcases present with ⟨old, place, named⟩
  rcases List.getElem?_eq_some_iff.mp found with ⟨bound, -⟩
  by_cases here : x = r
  · subst here
    rw [found] at place
    cases place
    exact ⟨served, List.getElem?_set_self bound, same.trans named⟩
  · exact ⟨old, (List.getElem?_set_ne (Ne.symm here)).trans place, named⟩

theorem Orderly.exchange (inv : Orderly s) (present : s.subscriptions[r]? = some sub)
    (found : s.publications[p]? = some pub) (named : sub.topic = pub.topic)
    (here : ∀ x, pub.status = .running (some x) → x = r)
    (sameName : served.topic = sub.topic) (sameTopic : pub'.topic = pub.topic)
    (sameMessages : pub'.messages = pub.messages)
    (filed : ∀ entry ∈ served.sent ++ served.senders,
      entry ∈ sub.sent ++ sub.senders ∨ entry.1 = p)
    (once : (served.senders.map Prod.fst).Nodup)
    (waits : ∀ waiting ∈ served.senders, Waits (s.publications.set p pub') r waiting)
    (awaited : ∀ x, pub'.status = .running (some x) →
      x = r ∧ r ∉ ahead (s.subscribers pub.topic) pub'.cursor)
    (allowed : ∀ x, (sentTo (s.subscriptions.set r served) p x).Sublist
      (pub.copies (pub'.allowance (s.subscribers pub.topic) x)))
    (others : ∀ q, q ≠ p → served.sentBy q = sub.sentBy q) :
    Orderly { s with
      subscriptions := s.subscriptions.set r served
      publications := s.publications.set p pub' } where
  distinct := inv.distinct
  registered := fun topic x member =>
    present_set present sameName (inv.registered topic x member)
  filed := by
    intro x other placed entry member
    rcases Update.getElem?_set_cases _ placed with ⟨rfl, rfl⟩ | ⟨-, placed⟩
    · rcases filed entry member with old | new
      · have known := inv.filed _ sub present entry old
        rw [← sameName] at known
        exact filed_set found sameTopic known
      · rcases List.getElem?_eq_some_iff.mp found with ⟨bound, -⟩
        rw [new]
        exact ⟨pub', List.getElem?_set_self bound,
          sameTopic.trans (named.symm.trans sameName.symm)⟩
    · exact filed_set found sameTopic (inv.filed x other placed entry member)
  once := by
    intro x other placed
    rcases Update.getElem?_set_cases _ placed with ⟨rfl, rfl⟩ | ⟨-, placed⟩
    · exact once
    · exact inv.once x other placed
  waits := by
    intro x other placed waiting member
    rcases Update.getElem?_set_cases _ placed with ⟨rfl, rfl⟩ | ⟨elsewhere, placed⟩
    · exact waits waiting member
    · have held := inv.waits x other placed waiting member
      exact held.set_other (held.ne found (fun status => elsewhere (here x status)))
  awaited := by
    intro q other x placed status
    rcases Update.getElem?_set_cases _ placed with ⟨rfl, rfl⟩ | ⟨-, placed⟩
    · rcases awaited x status with ⟨rfl, behind⟩
      rcases List.getElem?_eq_some_iff.mp present with ⟨bound, -⟩
      rw [sameTopic]
      exact ⟨behind, served, List.getElem?_set_self bound, sameName.trans named⟩
    · rcases inv.awaited q other x placed status with ⟨behind, placed⟩
      exact ⟨behind, present_set present sameName placed⟩
  allowed := by
    intro q other placed x
    rcases Update.getElem?_set_cases _ placed with ⟨rfl, rfl⟩ | ⟨elsewhere, placed⟩
    · have same (count : Nat) : other.copies count = pub.copies count := by
        rw [Publication.copies, Publication.copies, sameMessages]
      rw [sameTopic, same]
      exact allowed x
    · rw [sentTo_set_of_same present (others q elsewhere)]
      exact inv.allowed q other placed x

theorem mem_logged {item : Message} (entry : Nat × Message)
    (member : entry ∈ (sub.sent ++ [(p, item)]) ++ sub.senders) :
    entry ∈ sub.sent ++ sub.senders ∨ entry.1 = p := by
  rcases List.mem_append.mp member with sent | waiting
  · rcases List.mem_append.mp sent with old | new
    · exact Or.inl (List.mem_append_left _ old)
    · rw [List.mem_singleton.mp new]
      exact Or.inr rfl
  · exact Or.inl (List.mem_append_right _ waiting)

theorem Orderly.set_publication (inv : Orderly s) (found : s.publications[p]? = some pub)
    (unqueued : ∀ x sub, pub.status = .running (some x) → s.subscriptions[x]? = some sub →
      p ∉ sub.senders.map Prod.fst)
    (sameTopic : pub'.topic = pub.topic) (sameMessages : pub'.messages = pub.messages)
    (awaited : ∀ x, pub'.status = .running (some x) →
      x ∉ ahead (s.subscribers pub.topic) pub'.cursor ∧
        ∃ sub, s.subscriptions[x]? = some sub ∧ sub.topic = pub.topic)
    (grows : ∀ x, pub.allowance (s.subscribers pub.topic) x ≤
        pub'.allowance (s.subscribers pub.topic) x ∨
      pub.messages.length ≤ pub'.allowance (s.subscribers pub.topic) x) :
    Orderly { s with publications := s.publications.set p pub' } where
  distinct := inv.distinct
  registered := inv.registered
  filed := fun x other placed entry member =>
    filed_set found sameTopic (inv.filed x other placed entry member)
  once := inv.once
  waits := by
    intro x other placed waiting member
    apply (inv.waits x other placed waiting member).set_other
    exact senders_apart inv.waits found unqueued x other placed waiting member
  awaited := by
    intro q other x placed status
    rcases Update.getElem?_set_cases _ placed with ⟨rfl, rfl⟩ | ⟨-, placed⟩
    · rw [sameTopic]
      exact awaited x status
    · exact inv.awaited q other x placed status
  allowed := by
    intro q other placed x
    rcases Update.getElem?_set_cases _ placed with ⟨rfl, rfl⟩ | ⟨-, placed⟩
    · have same (count : Nat) : other.copies count = pub.copies count := by
        rw [Publication.copies, Publication.copies, sameMessages]
      rw [sameTopic, same]
      exact (inv.allowed q pub found x).trans (pub.copies_sublist (grows x))
    · exact inv.allowed q other placed x

theorem Orderly.end_publication (inv : Orderly s) (found : s.publications[p]? = some pub)
    (unqueued : ∀ x sub, pub.status = .running (some x) → s.subscriptions[x]? = some sub →
      p ∉ sub.senders.map Prod.fst) {status : PublishStatus}
    (ended : ∀ target, status ≠ .running target) :
    Orderly { s with publications := s.publications.set p { pub with status := status } } := by
  apply inv.set_publication found unqueued
  · rfl
  · rfl
  · exact fun x same => absurd same (ended _)
  · intro x
    right
    cases status with
    | running target => exact absurd rfl (ended target)
    | _ => exact le_rfl

theorem unqueued_ready (ready : pub.status = .running none) (x : Nat) (other : Subscription)
    (status : pub.status = .running (some x)) (_ : s.subscriptions[x]? = some other) :
    p ∉ other.senders.map Prod.fst := by
  cases ready.symm.trans status

theorem Publication.allowance_mono {subscribers fewer : List Nat} {x : Nat}
    (behind : x ∈ ahead fewer pub.cursor → x ∈ ahead subscribers pub.cursor) :
    pub.allowance subscribers x ≤ pub.allowance fewer x := by
  rw [allowance, allowance]
  split
  · rename_i waiting _
    by_cases before : x ∈ ahead fewer pub.cursor ∨ waiting = some x
    · rw [if_pos before, if_pos (before.imp_left behind)]
    · rw [if_neg before]
      split <;> omega
  all_goals exact le_rfl

theorem Orderly.set_subscription (inv : Orderly s) (present : s.subscriptions[r]? = some sub)
    (sameName : served.topic = sub.topic) (sameSent : served.sent = sub.sent)
    (sameSenders : served.senders = sub.senders) {subscribers : Str → List Nat}
    (fewer : ∀ topic, (subscribers topic).Sublist (s.subscribers topic)) :
    Orderly { s with
      subscribers := subscribers
      subscriptions := s.subscriptions.set r served } where
  distinct := fun topic => (inv.distinct topic).sublist (fewer topic)
  registered := fun topic x member =>
    present_set present sameName (inv.registered topic x ((fewer topic).subset member))
  filed := by
    intro x other placed entry member
    rcases Update.getElem?_set_cases _ placed with ⟨rfl, rfl⟩ | ⟨-, placed⟩
    · rw [sameSent, sameSenders] at member
      rw [sameName]
      exact inv.filed _ sub present entry member
    · exact inv.filed x other placed entry member
  once := by
    intro x other placed
    rcases Update.getElem?_set_cases _ placed with ⟨rfl, rfl⟩ | ⟨-, placed⟩
    · rw [sameSenders]
      exact inv.once _ sub present
    · exact inv.once x other placed
  waits := by
    intro x other placed waiting member
    rcases Update.getElem?_set_cases _ placed with ⟨rfl, rfl⟩ | ⟨-, placed⟩
    · rw [sameSenders] at member
      exact inv.waits _ sub present waiting member
    · exact inv.waits x other placed waiting member
  awaited := by
    intro q other x placed status
    rcases inv.awaited q other x placed status with ⟨passed, named⟩
    exact ⟨fun before => passed (((fewer _).drop _).subset before),
      present_set present sameName named⟩
  allowed := by
    intro q other placed x
    have unsent : served.sentBy q = sub.sentBy q := by
      rw [Subscription.sentBy, sameSent]
      rfl
    rw [sentTo_set_of_same present unsent]
    apply (inv.allowed q other placed x).trans
    apply other.copies_sublist
    left
    exact Publication.allowance_mono fun before => ((fewer _).drop _).subset before

variable {bufferSize : Nat} {t : State}

theorem Orderly.picked (inv : Orderly s) (found : s.publications[p]? = some pub)
    (ready : pub.status = .running none)
    (next : (s.subscribers pub.topic)[pub.cursor]? = some r) :
    Orderly { s with
      publications := s.publications.set p
        { pub with cursor := pub.cursor + 1, status := .running (some r) } } := by
  have before : r ∈ ahead (s.subscribers pub.topic) pub.cursor := by
    rw [ahead_eq_cons next]
    exact List.mem_cons_self
  apply inv.set_publication found (unqueued_ready ready)
  · rfl
  · rfl
  · intro x status
    cases status
    exact ⟨next_not_ahead (inv.distinct _) next, inv.registered _ r (List.mem_of_getElem? next)⟩
  · intro x
    left
    by_cases here : x = r
    · rw [here, Publication.allowance_ahead ready before, Publication.allowance_awaited rfl]
    · have other : some r ≠ some x := fun same => here (Option.some.inj same).symm
      by_cases later : x ∈ ahead (s.subscribers pub.topic) (pub.cursor + 1)
      · have earlier : x ∈ ahead (s.subscribers pub.topic) pub.cursor := by
          rw [ahead_eq_cons next]
          exact List.mem_cons_of_mem _ later
        rw [Publication.allowance_ahead ready earlier, Publication.allowance_ahead rfl later]
      · have behind : Publication.allowance
            { pub with cursor := pub.cursor + 1, status := .running (some r) }
            (s.subscribers pub.topic) x = pub.index + 1 :=
          Publication.allowance_passed rfl later other
        rw [behind]
        exact Publication.allowance_le ready

theorem Orderly.accepted (inv : Orderly s) (found : s.publications[p]? = some pub)
    (sending : pub.status = .running (some r)) {message : Message}
    (item : pub.messages[pub.index]? = some message) (present : s.subscriptions[r]? = some sub)
    (sameName : served.topic = sub.topic)
    (logged : served.sent = sub.sent ++ [(p, message.copy)])
    (fewer : served.senders.Sublist sub.senders) (unqueued : p ∉ served.senders.map Prod.fst) :
    Orderly { s with
      subscriptions := s.subscriptions.set r served
      publications := s.publications.set p { pub with status := .running none } } := by
  rcases inv.awaited p pub r found sending with ⟨behind, ⟨other, placed, named⟩⟩
  rw [present] at placed
  cases placed
  rcases logged_here present logged with ⟨here, others⟩
  have held := inv.allowed p pub found
  apply inv.exchange present found named
  · intro x status
    rw [sending] at status
    cases status
    rfl
  · exact sameName
  · rfl
  · rfl
  · intro entry member
    apply mem_logged entry
    rw [logged] at member
    exact (List.Sublist.append (List.Sublist.refl _) fewer).subset member
  · exact (inv.once r sub present).sublist (fewer.map Prod.fst)
  · intro waiting member
    apply (inv.waits r sub present waiting (fewer.subset member)).set_other
    rintro rfl
    exact unqueued (List.mem_map_of_mem member)
  · intro x status
    cases status
  · intro x
    let ready : Publication := { pub with status := .running none }
    by_cases this : x = r
    · subst this
      have now : ready.allowance (s.subscribers pub.topic) x = pub.index + 1 :=
        Publication.allowance_passed rfl behind (Option.some_ne_none x).symm
      have heldHere := held x
      rw [Publication.allowance_awaited sending] at heldHere
      rw [here, now, Publication.copies_succ item]
      exact heldHere.append (List.Sublist.refl _)
    · rw [others x this]
      apply (held x).trans
      apply pub.copies_sublist
      left
      simp only [Publication.allowance, sending, Option.some.injEq, Ne.symm this, or_false]
      simp
  · exact logged_elsewhere logged

theorem Orderly.sent (inv : Orderly s) (found : s.publications[p]? = some pub)
    (sending : pub.status = .running (some r)) {message : Message}
    (item : pub.messages[pub.index]? = some message)
    (present : s.subscriptions[r]? = some sub) (unqueued : p ∉ sub.senders.map Prod.fst)
    {taken : Bool} (result : sub.send bufferSize p message.copy = .ok (served, taken)) :
    Orderly { s with
      subscriptions := s.subscriptions.set r served
      publications := s.publications.set p
        { pub with status := .running (if taken then none else some r) } } := by
  have apart := senders_apart inv.waits found (unqueued_here sending present unqueued) r sub present
  rcases send_ok result with ⟨same, ⟨rfl, sameSenders, logged⟩ | ⟨rfl, queued, sameSent⟩⟩
  · apply inv.accepted found sending item present same.topic logged
    · rw [sameSenders]
    · rw [sameSenders]
      exact unqueued
  · rcases inv.awaited p pub r found sending with ⟨behind, ⟨other, placed, named⟩⟩
    rw [present] at placed
    cases placed
    have unsent (q : Nat) : served.sentBy q = sub.sentBy q := by
      rw [Subscription.sentBy, sameSent]
      rfl
    apply inv.exchange present found named
    · intro x status
      rw [sending] at status
      cases status
      rfl
    · exact same.topic
    · rfl
    · rfl
    · rw [sameSent, queued]
      intro entry member
      rcases List.mem_append.mp member with old | waiting
      · exact Or.inl (List.mem_append_left _ old)
      · rcases List.mem_append.mp waiting with old | new
        · exact Or.inl (List.mem_append_right _ old)
        · rw [List.mem_singleton.mp new]
          exact Or.inr rfl
    · rw [queued, List.map_append, List.nodup_append]
      refine ⟨inv.once r sub present, List.pairwise_singleton _ _, ?_⟩
      intro first inside second last
      rcases List.mem_map.mp inside with ⟨waiting, member, rfl⟩
      rw [List.mem_singleton.mp last]
      exact apart waiting member
    · intro waiting member
      rw [queued] at member
      rcases List.mem_append.mp member with old | new
      · exact (inv.waits r sub present waiting old).set_other (apart waiting old)
      · rw [List.mem_singleton.mp new]
        have bound := (List.getElem?_eq_some_iff.mp found).1
        exact ⟨_, message, List.getElem?_set_self bound, rfl, item, rfl⟩
    · intro x status
      cases status
      exact ⟨rfl, behind⟩
    · intro x
      rw [sentTo_set_of_same present (unsent p)]
      simp only [Bool.false_eq_true, if_false, ← sending]
      exact inv.allowed p pub found x
    · exact fun q _ => unsent q

theorem Orderly.woken (inv : Orderly s) (present : s.subscriptions[r]? = some sub)
    {item : Message} {senders : List (Nat × Message)} (queue : sub.senders = (p, item) :: senders)
    (found : s.publications[p]? = some pub) :
    Orderly { s with
      subscriptions := s.subscriptions.set r
        { sub with
          buffer := (sub.buffer ++ [item]).tail
          senders := senders
          sent := sub.sent ++ [(p, item)] }
      publications := s.publications.set p { pub with status := .running none } } := by
  have first : (p, item) ∈ sub.senders := by
    rw [queue]
    exact List.mem_cons_self
  rcases inv.waits r sub present _ first with ⟨same, message, place, status, next, rfl⟩
  rw [found] at place
  cases place
  have distinct := inv.once r sub present
  rw [queue, List.map_cons, List.nodup_cons] at distinct
  apply inv.accepted found status next present
  · rfl
  · rfl
  · rw [queue]
    exact List.sublist_cons_self _ _
  · exact distinct.1

theorem Orderly.abandon (inv : Orderly s) (found : s.publications[p]? = some pub)
    (waiting : pub.status = .running (some r)) :
    Orderly { s with
      subscriptions := s.subscriptions.modify r (fun sub =>
        { sub with senders := sub.senders.filter (fun entry => entry.1 ≠ p) })
      publications := s.publications.set p { pub with status := .cancelled } } := by
  rcases inv.awaited p pub r found waiting with ⟨-, ⟨sub, present, named⟩⟩
  rw [Update.modify_eq_set _ present]
  apply inv.exchange present found named
  · intro x status
    rw [waiting] at status
    cases status
    rfl
  · rfl
  · rfl
  · rfl
  · intro entry member
    left
    rcases List.mem_append.mp member with sent | left_over
    · exact List.mem_append_left _ sent
    · exact List.mem_append_right _ (List.mem_of_mem_filter left_over)
  · exact (inv.once r sub present).sublist (List.filter_sublist.map Prod.fst)
  · intro entry member
    rcases List.mem_filter.mp member with ⟨inside, other⟩
    exact (inv.waits r sub present entry inside).set_other (of_decide_eq_true other)
  · intro x status
    cases status
  · intro x
    have unsent : Subscription.sentBy { sub with
        senders := sub.senders.filter (fun entry => entry.1 ≠ p) } p = sub.sentBy p := rfl
    rw [sentTo_set_of_same present unsent]
    exact (inv.allowed p pub found x).trans (pub.copies_sublist (Or.inr le_rfl))
  · exact fun _ _ => rfl

theorem Orderly.break_senders (inv : Orderly s) (present : s.subscriptions[r]? = some sub) :
    Orderly { s with
      subscriptions := s.subscriptions.set r { sub with senders := [] }
      publications := breakSenders sub.senders s.publications } where
  distinct := inv.distinct
  registered := fun topic x member => present_set present rfl (inv.registered topic x member)
  filed := by
    intro x other placed entry member
    have known : ∃ pub, s.publications[entry.1]? = some pub ∧ pub.topic = other.topic := by
      rcases Update.getElem?_set_cases _ placed with ⟨rfl, rfl⟩ | ⟨-, placed⟩
      · rw [List.append_nil] at member
        exact inv.filed _ sub present entry (List.mem_append_left _ member)
      · exact inv.filed x other placed entry member
    rcases known with ⟨pub, found, same⟩
    rcases getElem?_breakSenders sub.senders found with ⟨next, there, named, -⟩
    exact ⟨next, there, named.trans same⟩
  once := by
    intro x other placed
    rcases Update.getElem?_set_cases _ placed with ⟨rfl, rfl⟩ | ⟨-, placed⟩
    · exact List.nodup_nil
    · exact inv.once x other placed
  waits := by
    intro x other placed waiting member
    rcases Update.getElem?_set_cases _ placed with ⟨rfl, rfl⟩ | ⟨elsewhere, placed⟩
    · cases member
    · have held := inv.waits x other placed waiting member
      rcases held with ⟨pub, message, found, status, rest⟩
      have apart : waiting.1 ∉ sub.senders.map Prod.fst := by
        intro queued
        rcases List.mem_map.mp queued with ⟨first, inside, same⟩
        rcases inv.waits r sub present first inside with ⟨old, item, here, sending, -⟩
        rw [same, found] at here
        cases here
        rw [status] at sending
        cases sending
        exact elsewhere rfl
      rcases getElem?_breakSenders sub.senders found with ⟨next, there, -, same⟩
      rw [same apart] at there
      exact ⟨pub, message, there, status, rest⟩
  awaited := by
    intro q other x placed status
    rcases breakSenders_cases placed with ⟨pub, found, ⟨-, rfl⟩ | ⟨-, rfl⟩⟩
    · cases status
    · rcases inv.awaited q _ x found status with ⟨behind, placed⟩
      exact ⟨behind, present_set present rfl placed⟩
  allowed := by
    intro q other placed x
    have unsent : Subscription.sentBy { sub with senders := [] } q = sub.sentBy q := rfl
    rw [sentTo_set_of_same present unsent]
    rcases breakSenders_cases placed with ⟨pub, found, ⟨-, rfl⟩ | ⟨-, rfl⟩⟩
    · apply (inv.allowed q pub found x).trans
      exact Publication.copies_sublist _ (Or.inr le_rfl)
    · exact inv.allowed q _ found x

theorem Orderly.leave (inv : Orderly s) (present : s.subscriptions[r]? = some sub) :
    Orderly (leave s r sub) := by
  let closed : Subscription := { sub.closeSend with receiveClosed := true, stage := .left }
  have unlisted : Orderly { s with
      subscribers := (Memory.leave s r sub).subscribers
      subscriptions := s.subscriptions.set r closed } := by
    apply inv.set_subscription present
    · rfl
    · rfl
    · rfl
    · intro topic
      simp only [Memory.leave]
      split
      · by_cases same : topic = sub.topic
        · rw [same, Function.update_self]
          exact List.erase_sublist
        · rw [Function.update_of_ne same]
      · exact List.Sublist.refl _
  have there : (s.subscriptions.set r closed)[r]? = some closed :=
    List.getElem?_set_self (List.getElem?_eq_some_iff.mp present).1
  have broken := unlisted.break_senders there
  rw [List.set_set] at broken
  exact broken

theorem Orderly.sentTo_fresh (inv : Orderly s) (x : Nat) :
    sentTo s.subscriptions s.publications.length x = [] := by
  rw [sentTo]
  split
  · rename_i sub present
    rw [Subscription.sentBy, List.map_eq_nil_iff, List.filter_eq_nil_iff]
    intro entry member same
    rcases inv.filed x sub present entry (List.mem_append_left _ member) with ⟨pub, found, -⟩
    rw [of_decide_eq_true same, List.getElem?_eq_none le_rfl] at found
    cases found
  · rfl

theorem publish_idle (s : State) (topic : Str) (messages : List Message) (r : Nat) :
    (publish s topic messages).status ≠ .running (some r) := by
  rw [publish]
  split
  · exact PublishStatus.noConfusion
  · split
    · intro same
      cases same
    · exact PublishStatus.noConfusion

theorem Orderly.publish (inv : Orderly s) (topic : Str) (messages : List Message) :
    Orderly { s with publications := s.publications ++ [publish s topic messages] } where
  distinct := inv.distinct
  registered := inv.registered
  filed := fun x other placed entry member =>
    filed_append (inv.filed x other placed entry member) _
  once := inv.once
  waits := by
    intro x other placed waiting member
    rcases inv.waits x other placed waiting member with ⟨pub, message, found, rest⟩
    exact ⟨pub, message, Update.getElem?_append_of_some _ found, rest⟩
  awaited := by
    intro q other x placed status
    rcases Update.getElem?_append_cases _ placed with ⟨-, rfl⟩ | placed
    · exact absurd status (publish_idle s topic messages x)
    · exact inv.awaited q other x placed status
  allowed := by
    intro q other placed x
    rcases Update.getElem?_append_cases _ placed with ⟨rfl, rfl⟩ | placed
    · rw [inv.sentTo_fresh]
      exact List.nil_sublist _
    · exact inv.allowed q other placed x

theorem Orderly.subscribe (inv : Orderly s) {topic : Str} (made : subscribe s topic = .ok t) :
    Orderly t := by
  rw [Memory.subscribe] at made
  split at made
  · cases made
  · cases made
    have known {place : Nat} {name : Str} (member : place ∈ s.subscribers name) :
        place ≠ s.subscriptions.length := by
      rcases inv.registered name place member with ⟨sub, present, -⟩
      exact Nat.ne_of_lt (List.getElem?_eq_some_iff.mp present).1
    have kept {name : Str} {place : Nat}
        (present : ∃ sub, s.subscriptions[place]? = some sub ∧ sub.topic = name) :
        ∃ sub, (s.subscriptions ++ [Subscription.new topic])[place]? = some sub ∧
          sub.topic = name := by
      rcases present with ⟨sub, present, named⟩
      exact ⟨sub, Update.getElem?_append_of_some _ present, named⟩
    have later {name : Str} {cursor place : Nat} (old : place ≠ s.subscriptions.length)
        (before : place ∈ ahead (Function.update s.subscribers topic
          (s.subscribers topic ++ [s.subscriptions.length]) name) cursor) :
        place ∈ ahead (s.subscribers name) cursor := by
      by_cases same : name = topic
      · subst same
        rw [Function.update_self] at before
        exact (mem_ahead_append before).resolve_right old
      · rwa [Function.update_of_ne same] at before
    constructor
    · intro name
      dsimp only
      by_cases same : name = topic
      · subst same
        rw [Function.update_self]
        refine List.nodup_append.mpr ⟨inv.distinct name, List.nodup_singleton _, ?_⟩
        intro place member new last
        rw [List.mem_singleton.mp last]
        exact known member
      · rw [Function.update_of_ne same]
        exact inv.distinct name
    · intro name place member
      rcases mem_subscribed member with old | ⟨rfl, rfl⟩
      · exact kept (inv.registered name place old)
      · exact ⟨Subscription.new name, List.getElem?_concat_length, rfl⟩
    · intro x other placed entry member
      rcases Update.getElem?_append_cases _ placed with ⟨-, rfl⟩ | placed
      · cases member
      · exact inv.filed x other placed entry member
    · intro x other placed
      rcases Update.getElem?_append_cases _ placed with ⟨-, rfl⟩ | placed
      · exact List.nodup_nil
      · exact inv.once x other placed
    · intro x other placed waiting member
      rcases Update.getElem?_append_cases _ placed with ⟨-, rfl⟩ | placed
      · cases member
      · exact inv.waits x other placed waiting member
    · intro q other x placed status
      rcases inv.awaited q other x placed status with ⟨behind, present⟩
      refine ⟨fun before => behind (later ?_ before), kept present⟩
      rcases present with ⟨sub, present, -⟩
      exact Nat.ne_of_lt (List.getElem?_eq_some_iff.mp present).1
    · intro q other placed x
      rw [sentTo_append_new]
      by_cases new : x = s.subscriptions.length
      · rw [sentTo, new, List.getElem?_eq_none le_rfl]
        exact List.nil_sublist _
      · apply (inv.allowed q other placed x).trans
        apply other.copies_sublist
        left
        exact Publication.allowance_mono fun before => later new before

theorem Orderly.close_streams (inv : Orderly s) (listed : List Nat) :
    Orderly { s with subscriptions := closeStreams listed s.subscriptions } := by
  induction listed generalizing s with
  | nil => exact inv
  | cons r listed ih =>
      have first : Orderly { s with
          subscriptions := s.subscriptions.modify r Subscription.closeSend } := by
        cases present : s.subscriptions[r]? with
        | none =>
            rw [List.modify_eq_self (List.getElem?_eq_none_iff.mp present)]
            exact inv
        | some sub =>
            rw [Update.modify_eq_set _ present]
            apply inv.set_subscription present
            · rfl
            · rfl
            · rfl
            · exact fun _ => List.Sublist.refl _
      exact ih first

theorem orderly_step {e : Event} (inv : Orderly s) (taken : step bufferSize s e = some t) :
    Orderly t := by
  cases taken_of_step taken with
  | publish => exact inv.publish _ _
  | finished found ready sent =>
      exact inv.end_publication found (unqueued_ready ready) fun _ => PublishStatus.noConfusion
  | @nextMessage p pub message found ready item passed =>
      apply inv.set_publication found (unqueued_ready ready)
      · rfl
      · rfl
      · intro x same
        cases ready.symm.trans same
      · intro x
        left
        apply (Publication.allowance_le ready).trans
        simp only [Publication.allowance, ready]
        split <;> omega
  | picked found ready item next => exact inv.picked found ready next
  | failed found sending present unqueued result =>
      exact inv.end_publication found (unqueued_here sending present unqueued)
        fun _ => PublishStatus.noConfusion
  | sent found sending item present unqueued result =>
      exact inv.sent found sending item present unqueued result
  | abandon found sending => exact inv.abandon found sending
  | abandonReady found ready =>
      exact inv.end_publication found (unqueued_ready ready) fun _ => PublishStatus.noConfusion
  | subscribe made => exact inv.subscribe made
  | refused refused => exact inv
  | receiveWaiting present queue found idle => exact inv.woken present queue found
  | receiveBuffered present | receiveNone present | cancel present =>
      apply inv.set_subscription present
      · rfl
      · rfl
      · rfl
      · exact fun _ => List.Sublist.refl _
  | leave present => exact inv.leave present
  | close =>
      have closed := inv.close_streams (s.order.flatMap s.subscribers)
      exact ⟨closed.distinct, closed.registered, closed.filed, closed.once, closed.waits,
        closed.awaited, closed.allowed⟩

end Step

section Streams

variable {bufferSize p : Nat} {sub served : Subscription} {item : Message}

theorem stream_new (bufferSize : Nat) (topic : Str) : Stream bufferSize (.new topic) where
  last := List.suffix_rfl
  bounded := Nat.zero_le _
  waiting := fun receiving => by cases receiving

theorem Stream.unread (stream : Stream bufferSize sub) (buffer : served.buffer = sub.buffer)
    (sent : served.sent = sub.sent) (asks : served.receiving = true → sub.receiving = true) :
    Stream bufferSize served where
  last := by
    rw [buffer, sent]
    exact stream.last
  bounded := by
    rw [buffer]
    exact stream.bounded
  waiting := by
    intro receiving
    rw [buffer]
    exact stream.waiting (asks receiving)

theorem Stream.send {taken : Bool} (stream : Stream bufferSize sub)
    (result : sub.send bufferSize p item = .ok (served, taken)) : Stream bufferSize served := by
  rw [Subscription.send] at result
  split at result
  · cases result
  · split at result
    · cases result
    · split at result
      · rename_i receiving
        cases result
        have empty := stream.waiting receiving
        refine ⟨?_, stream.bounded, fun again => by cases again⟩
        rw [empty]
        exact List.nil_suffix
      · rename_i idle
        split at result
        · rename_i room
          cases result
          refine ⟨?_, ?_, fun receiving => absurd receiving idle⟩
          · rw [List.map_append]
            exact List.suffix_append_self_iff.mpr stream.last
          · rw [List.length_append]
            exact room
        · cases result
          exact stream.unread rfl rfl id

theorem Stream.woken {senders : List (Nat × Message)} (stream : Stream bufferSize sub)
    (idle : sub.receiving = false) :
    Stream bufferSize { sub with
      buffer := (sub.buffer ++ [item]).tail
      senders := senders
      sent := sub.sent ++ [(p, item)] } where
  last := by
    have whole : sub.buffer ++ [item] <:+ (sub.sent ++ [(p, item)]).map Prod.snd := by
      rw [List.map_append]
      exact List.suffix_append_self_iff.mpr stream.last
    exact (List.tail_suffix _).trans whole
  bounded := by
    rw [List.length_tail, List.length_append]
    exact stream.bounded
  waiting := by
    intro receiving
    rw [idle] at receiving
    cases receiving

theorem Stream.read {rest : List Message} (stream : Stream bufferSize sub)
    (buffered : sub.buffer = item :: rest) (idle : sub.receiving = false) :
    Stream bufferSize { sub with buffer := rest } where
  last := by
    have left : rest <:+ sub.buffer := by
      rw [buffered]
      exact List.suffix_cons item rest
    exact left.trans stream.last
  bounded := by
    have bounded := stream.bounded
    rw [buffered, List.length_cons] at bounded
    exact Nat.le_of_succ_le bounded
  waiting := by
    intro receiving
    rw [idle] at receiving
    cases receiving

theorem streams_set {subscriptions : List Subscription} {r : Nat}
    (streams : ∀ sub ∈ subscriptions, Stream bufferSize sub) (stream : Stream bufferSize served) :
    ∀ sub ∈ subscriptions.set r served, Stream bufferSize sub := by
  intro other member
  rcases List.mem_or_eq_of_mem_set member with old | rfl
  · exact streams other old
  · exact stream

theorem streams_step {s t : State} {e : Event} (inv : Orderly s)
    (streams : ∀ sub ∈ s.subscriptions, Stream bufferSize sub)
    (taken : step bufferSize s e = some t) : ∀ sub ∈ t.subscriptions, Stream bufferSize sub := by
  cases taken_of_step taken with
  | publish | finished | nextMessage | picked | failed | abandonReady | refused => exact streams
  | sent found sending item present unqueued result =>
      exact streams_set streams ((streams _ (List.mem_of_getElem? present)).send result)
  | abandon found sending =>
      rcases inv.awaited _ _ _ found sending with ⟨-, ⟨sub, present, -⟩⟩
      dsimp only
      rw [Update.modify_eq_set _ present]
      apply streams_set streams
      exact (streams sub (List.mem_of_getElem? present)).unread rfl rfl id
  | subscribe made =>
      rw [subscribe] at made
      split at made
      · cases made
      · cases made
        intro sub member
        rcases List.mem_append.mp member with old | new
        · exact streams sub old
        · rw [List.mem_singleton.mp new]
          exact stream_new bufferSize _
  | receiveWaiting present queue found idle =>
      exact streams_set streams ((streams _ (List.mem_of_getElem? present)).woken idle.2)
  | receiveBuffered present queue buffered idle =>
      exact streams_set streams ((streams _ (List.mem_of_getElem? present)).read buffered idle.2)
  | receiveNone present opened queue buffered idle =>
      have stream := streams _ (List.mem_of_getElem? present)
      exact streams_set streams ⟨stream.last, stream.bounded, fun _ => buffered⟩
  | cancel present | leave present =>
      apply streams_set streams
      exact (streams _ (List.mem_of_getElem? present)).unread rfl rfl fun never => by cases never
  | close =>
      intro sub member
      rcases List.mem_iff_getElem?.mp member with ⟨r, found⟩
      simp only [close, getElem?_closeStreams] at found
      rcases Option.map_eq_some_iff.mp found with ⟨before, there, rfl⟩
      have stream := streams before (List.mem_of_getElem? there)
      split
      · exact stream.unread rfl rfl fun never => by cases never
      · exact stream

end Streams

/-- In every run, whoever leaves, is cancelled or closes: a subscription is sent messages of calls
on its topic only, those of each call once at most and in the order of the call; it reads what it
is sent in that order, and never keeps more than its buffer holds. -/
theorem sent_in_order (bufferSize : Nat) (events : List Event) (s : State)
    (run : exec (step bufferSize) initial events = some s) (r : Nat) (sub : Subscription)
    (present : s.subscriptions[r]? = some sub) :
    (∀ entry ∈ sub.sent,
      ∃ pub, s.publications[entry.1]? = some pub ∧ pub.topic = sub.topic) ∧
    (∀ (p : Nat) pub, s.publications[p]? = some pub →
      (sub.sentBy p).Sublist (pub.messages.map Message.copy)) ∧
    sub.buffer <:+ sub.sent.map Prod.snd ∧ sub.buffer.length ≤ bufferSize := by
  have both : Orderly s ∧ ∀ sub ∈ s.subscriptions, Stream bufferSize sub := by
    apply exec_preserves (I := fun s : State =>
      Orderly s ∧ ∀ sub ∈ s.subscriptions, Stream bufferSize sub) _ _ run
    · exact fun s e t held taken =>
        ⟨orderly_step held.1 taken, streams_step held.1 held.2 taken⟩
    · exact ⟨orderly_initial, fun sub member => absurd member List.not_mem_nil⟩
  rcases both with ⟨orderly, streams⟩
  have stream := streams sub (List.mem_of_getElem? present)
  refine ⟨?_, ?_, stream.last, stream.bounded⟩
  · intro entry member
    exact orderly.filed r sub present entry (List.mem_append_left _ member)
  · intro p pub found
    have allowed := orderly.allowed p pub found r
    rw [sentTo, present] at allowed
    apply allowed.trans
    apply List.Sublist.map
    exact List.take_sublist _ _

def skipped : List Event :=
  [.subscribe [], .subscribe [],
    .publish [] [⟨[1], [], 0, AckState.fresh⟩, ⟨[2], [], 1, AckState.fresh⟩],
    .advance 0, .put 0, .receive 0, .leave 0, .advance 0, .advance 0, .put 0, .receive 1,
    .advance 0, .advance 0, .close]

theorem sent_in_order_but_skipped :
    ∃ s sub, exec (step 0) initial skipped = some s ∧ s.subscriptions[1]? = some sub ∧
      sub.sentBy 0 = [⟨[2], [], 1, AckState.fresh⟩] ∧
      (∀ entry ∈ sub.sent,
        ∃ pub, s.publications[entry.1]? = some pub ∧ pub.topic = sub.topic) ∧
      (∀ (p : Nat) pub, s.publications[p]? = some pub →
        (sub.sentBy p).Sublist (pub.messages.map Message.copy)) ∧
      sub.buffer <:+ sub.sent.map Prod.snd ∧ sub.buffer.length ≤ 0 :=
  ⟨_, _, rfl, rfl, by decide, sent_in_order 0 skipped _ rfl 1 _ rfl⟩

end Natricine.PubSub.Memory
