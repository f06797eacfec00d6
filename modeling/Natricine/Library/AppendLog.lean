import Natricine.Library.Fallible
import Natricine.Library.Transition
import Natricine.Library.Update

/-! Calls that append their items, one after the other, to logs that they share: each item is
encoded when its turn comes, and a call may end at any of its awaits. A client that does not hear of
an append may try again, so that what was appended once can come to be appended again. -/

namespace AppendLog

open Transition

structure Call (τ ι ε : Type) where
  topic : τ
  items : List ι
  sent : Nat
  ending : Option (Except ε Unit)

/-- An entry of the log at `slot`, made of the item at a place of a call, or made elsewhere;
`repeated` is one that was there before. -/
structure Entry (κ ο : Type) where
  source : Option (Nat × Nat)
  slot : κ
  output : ο
  repeated : Bool
  deriving DecidableEq, Repr

/-- All that was ever appended, in its order. -/
structure State (τ ι κ ο ε : Type) where
  calls : List (Call τ ι ε)
  history : List (Entry κ ο)

inductive Answer (ε : Type) where
  | returned
  | raised (error : ε) (reached : Bool)
  deriving DecidableEq, Repr

inductive Event (τ ι κ ο ε : Type) where
  | start (topic : τ) (items : List ι) (refusal : Option ε)
  | send (call : Nat) (slot : κ) (answer : Answer ε)
  | stop (call : Nat) (error : ε)
  | finish (call : Nat)
  | again (place : Nat)
  | foreign (slot : κ) (output : ο)
  deriving DecidableEq, Repr

section Step

variable {τ ι κ ο ε : Type} (encode : ι → Except ε ο) (routes : τ → κ → Bool)

def State.empty : State τ ι κ ο ε := ⟨[], []⟩

def State.setCall (s : State τ ι κ ο ε) (c : Nat) (call : Call τ ι ε) : State τ ι κ ο ε :=
  { s with calls := s.calls.set c call }

def State.append (s : State τ ι κ ο ε) (c : Nat) (call : Call τ ι ε) (slot : κ) (output : ο)
    (ending : Option (Except ε Unit)) : State τ ι κ ο ε where
  calls := s.calls.set c { call with sent := call.sent + 1, ending := ending }
  history := s.history ++ [⟨some (c, call.sent), slot, output, false⟩]

def send (s : State τ ι κ ο ε) (c : Nat) (call : Call τ ι ε) (item : ι) (slot : κ) :
    Answer ε → State τ ι κ ο ε
  | answer =>
      match encode item with
      | .error error => s.setCall c { call with ending := some (.error error) }
      | .ok output =>
          match answer with
          | .returned => s.append c call slot output none
          | .raised error true => s.append c call slot output (some (.error error))
          | .raised error false => s.setCall c { call with ending := some (.error error) }

def step (s : State τ ι κ ο ε) : Event τ ι κ ο ε → Option (State τ ι κ ο ε)
  | .start topic items refusal =>
      some { s with calls := s.calls ++ [⟨topic, items, 0, refusal.map .error⟩] }
  | .send c slot answer =>
      match s.calls[c]? with
      | some call =>
          match call.ending, call.items[call.sent]?, routes call.topic slot with
          | none, some item, true => some (send encode s c call item slot answer)
          | _, _, _ => none
      | none => none
  | .stop c error =>
      match s.calls[c]? with
      | some call =>
          if call.ending.isNone then
            some (s.setCall c { call with ending := some (.error error) })
          else none
      | none => none
  | .finish c =>
      match s.calls[c]? with
      | some call =>
          if call.ending.isNone ∧ call.sent = call.items.length then
            some (s.setCall c { call with ending := some (.ok ()) })
          else none
      | none => none
  | .again place =>
      s.history[place]?.map fun entry =>
        { s with history := s.history ++ [{ entry with repeated := true }] }
  | .foreign slot output =>
      some { s with history := s.history ++ [⟨none, slot, output, false⟩] }

inductive Taken (s : State τ ι κ ο ε) : Event τ ι κ ο ε → State τ ι κ ο ε → Prop where
  | start (topic : τ) (items : List ι) (refusal : Option ε) :
      Taken s (.start topic items refusal)
        { s with calls := s.calls ++ [⟨topic, items, 0, refusal.map .error⟩] }
  | append {c : Nat} {call : Call τ ι ε} {slot : κ} {answer : Answer ε} {item : ι} {output : ο}
      {ending : Option (Except ε Unit)} (found : s.calls[c]? = some call)
      (next : call.items[call.sent]? = some item) (routed : routes call.topic slot = true)
      (encoded : encode item = .ok output) (failed : ending ≠ some (.ok ())) :
      Taken s (.send c slot answer) (s.append c call slot output ending)
  | stop {e : Event τ ι κ ο ε} {c : Nat} {call : Call τ ι ε} {error : ε}
      (found : s.calls[c]? = some call) :
      Taken s e (s.setCall c { call with ending := some (.error error) })
  | finish {c : Nat} {call : Call τ ι ε} (found : s.calls[c]? = some call)
      (whole : call.sent = call.items.length) :
      Taken s (.finish c) (s.setCall c { call with ending := some (.ok ()) })
  | again {place : Nat} {entry : Entry κ ο} (found : s.history[place]? = some entry) :
      Taken s (.again place) { s with history := s.history ++ [{ entry with repeated := true }] }
  | foreign (slot : κ) (output : ο) :
      Taken s (.foreign slot output)
        { s with history := s.history ++ [⟨none, slot, output, false⟩] }

variable {encode routes} {s t : State τ ι κ ο ε}

theorem taken_of_step {e : Event τ ι κ ο ε} (taken : step encode routes s e = some t) :
    Taken encode routes s e t := by
  cases e with
  | start topic items refusal =>
      cases taken
      exact .start topic items refusal
  | send c slot answer =>
      simp only [step] at taken
      split at taken
      · rename_i call found
        split at taken
        · rename_i item ending next routed
          cases taken
          rw [send]
          cases encoded : encode item with
          | error error => exact .stop found
          | ok output =>
              cases answer with
              | returned => exact .append found next routed encoded (by simp)
              | raised error reached =>
                  cases reached with
                  | true => exact .append found next routed encoded (by simp)
                  | false => exact .stop found
        · cases taken
      · cases taken
  | stop c error =>
      simp only [step] at taken
      split at taken
      · rename_i call found
        split at taken
        · cases taken
          exact .stop found
        · cases taken
      · cases taken
  | finish c =>
      simp only [step] at taken
      split at taken
      · rename_i call found
        split at taken
        · rename_i able
          cases taken
          exact .finish found able.2
        · cases taken
      · cases taken
  | again place =>
      rcases Option.map_eq_some_iff.mp taken with ⟨entry, found, rfl⟩
      exact .again found
  | foreign slot output =>
      cases taken
      exact .foreign slot output

def Entry.place (c : Nat) (entry : Entry κ ο) : Option Nat :=
  if entry.repeated then none
  else entry.source.bind fun source => if source.1 = c then some source.2 else none

def places (c : Nat) (history : List (Entry κ ο)) : List Nat := history.filterMap (Entry.place c)

def State.sent (s : State τ ι κ ο ε) (c : Nat) : Nat := (s.calls[c]?.map Call.sent).getD 0

def Repeats (history : List (Entry κ ο)) : Prop :=
  ∀ (place : Nat) entry, history[place]? = some entry → entry.repeated = true →
    ∃ earlier < place, history[earlier]? = some { entry with repeated := false }

/-- The first items of a call have come into the history in their order, and all of them when it has
returned; what is there of a call was made of its item. -/
structure Sound (encode : ι → Except ε ο) (routes : τ → κ → Bool) (s : State τ ι κ ο ε) :
    Prop where
  numbered : ∀ c, places c s.history = List.range (s.sent c)
  returned : ∀ (c : Nat) call, s.calls[c]? = some call → call.ending = some (.ok ()) →
    call.sent = call.items.length
  made : ∀ entry ∈ s.history, ∀ c k, entry.source = some (c, k) → ∃ call item,
    s.calls[c]? = some call ∧ call.items[k]? = some item ∧ encode item = .ok entry.output ∧
      routes call.topic entry.slot = true
  repeats : Repeats s.history

theorem sound_empty : Sound encode routes (State.empty : State τ ι κ ο ε) where
  numbered := fun c => rfl
  returned := fun c call found => by cases found
  made := fun entry member => absurd member List.not_mem_nil
  repeats := fun place entry found => by cases found

theorem Repeats.append {history : List (Entry κ ο)} (repeats : Repeats history)
    {entry : Entry κ ο} (before : entry.repeated = true →
      ∃ earlier < history.length, history[earlier]? = some { entry with repeated := false }) :
    Repeats (history ++ [entry]) := by
  intro place other found repeated
  rcases Update.getElem?_append_cases _ found with ⟨rfl, rfl⟩ | old
  · rcases before repeated with ⟨earlier, less, original⟩
    exact ⟨earlier, less, Update.getElem?_append_of_some _ original⟩
  · rcases repeats place other old repeated with ⟨earlier, less, original⟩
    exact ⟨earlier, less, Update.getElem?_append_of_some _ original⟩

theorem places_append (c : Nat) (front back : List (Entry κ ο)) :
    places c (front ++ back) = places c front ++ places c back :=
  List.filterMap_append

section Calls

variable {c : Nat} {call : Call τ ι ε}

theorem Sound.made_set (sound : Sound encode routes s) (found : s.calls[c]? = some call)
    {other : Call τ ι ε} (topic : other.topic = call.topic) (items : other.items = call.items) :
    ∀ entry ∈ s.history, ∀ d k, entry.source = some (d, k) → ∃ call item,
      (s.calls.set c other)[d]? = some call ∧ call.items[k]? = some item ∧
        encode item = .ok entry.output ∧ routes call.topic entry.slot = true := by
  intro entry member d k source
  rcases sound.made entry member d k source with ⟨known, item, there, placed, encoded, routed⟩
  by_cases same : d = c
  · subst same
    cases found.symm.trans there
    refine ⟨other, item, ?_, items ▸ placed, encoded, topic ▸ routed⟩
    exact List.getElem?_set_self (List.getElem?_eq_some_iff.mp found).1
  · refine ⟨known, item, ?_, placed, encoded, routed⟩
    rw [List.getElem?_set_ne (Ne.symm same)]
    exact there

theorem sent_set {other : Call τ ι ε} (found : s.calls[c]? = some call) (d : Nat) :
    (s.setCall c other).sent d = if d = c then other.sent else s.sent d := by
  rw [State.sent, State.setCall]
  split
  · rename_i same
    subst same
    rw [List.getElem?_set_self (List.getElem?_eq_some_iff.mp found).1]
    rfl
  · rename_i differs
    rw [List.getElem?_set_ne (Ne.symm differs)]
    rfl

theorem sent_of_found (found : s.calls[c]? = some call) : s.sent c = call.sent := by
  rw [State.sent, found]
  rfl

theorem Sound.ends (sound : Sound encode routes s) (found : s.calls[c]? = some call)
    {ending : Except ε Unit} (whole : ending = .ok () → call.sent = call.items.length) :
    Sound encode routes (s.setCall c { call with ending := some ending }) where
  numbered := by
    intro d
    rw [sent_set found]
    split
    · rename_i same
      subst same
      rw [← sent_of_found found]
      exact sound.numbered d
    · exact sound.numbered d
  returned := by
    intro d other there returned
    rcases Update.getElem?_set_cases _ there with ⟨-, rfl⟩ | ⟨-, old⟩
    · exact whole (Option.some.inj returned)
    · exact sound.returned d other old returned
  made := sound.made_set found rfl rfl
  repeats := sound.repeats

theorem Sound.append (sound : Sound encode routes s) (found : s.calls[c]? = some call)
    {item : ι} {slot : κ} {output : ο} {ending : Option (Except ε Unit)}
    (next : call.items[call.sent]? = some item) (routed : routes call.topic slot = true)
    (encoded : encode item = .ok output) (failed : ending ≠ some (.ok ())) :
    Sound encode routes (s.append c call slot output ending) where
  numbered := by
    intro d
    have counted := @sent_set τ ι κ ο ε s c call
      { call with sent := call.sent + 1, ending := ending } found d
    have same : (s.append c call slot output ending).sent d = if d = c then call.sent + 1
      else s.sent d := counted
    rw [same, State.append, places_append, sound.numbered d]
    split
    · rename_i here
      subst here
      rw [sent_of_found found, List.range_succ]
      simp [places, Entry.place]
    · rename_i differs
      simp [places, Entry.place, Ne.symm differs]
  returned := by
    intro d other there returned
    rcases Update.getElem?_set_cases _ there with ⟨-, rfl⟩ | ⟨-, old⟩
    · exact absurd returned failed
    · exact sound.returned d other old returned
  made := by
    let onward : Call τ ι ε := { call with sent := call.sent + 1, ending := ending }
    have topic : onward.topic = call.topic := rfl
    intro entry member d k source
    rcases List.mem_append.mp member with old | new
    · exact sound.made_set found topic rfl entry old d k source
    · rw [List.mem_singleton.mp new] at source ⊢
      cases source
      have here : (s.calls.set c onward)[c]? = some onward :=
        List.getElem?_set_self (List.getElem?_eq_some_iff.mp found).1
      exact ⟨onward, item, here, next, encoded, routed⟩
  repeats := sound.repeats.append (fun repeated => Bool.noConfusion repeated)

end Calls

theorem Sound.start (sound : Sound encode routes s) (topic : τ) (items : List ι)
    (refusal : Option ε) :
    Sound encode routes
      { s with calls := s.calls ++ [⟨topic, items, 0, refusal.map .error⟩] } where
  numbered := by
    intro d
    rw [sound.numbered d, State.sent, State.sent]
    rcases Nat.lt_trichotomy d s.calls.length with before | here | beyond
    · rw [List.getElem?_append_left before]
    · subst here
      rw [List.getElem?_concat_length, List.getElem?_eq_none (Nat.le_refl _)]
      rfl
    · rw [List.getElem?_eq_none (Nat.le_of_lt beyond), List.getElem?_eq_none]
      simp only [List.length_append, List.length_singleton]
      omega
  returned := by
    intro d other there returned
    rcases Update.getElem?_append_cases _ there with ⟨-, rfl⟩ | old
    · cases refusal <;> cases returned
    · exact sound.returned d other old returned
  made := by
    intro entry member d k source
    rcases sound.made entry member d k source with ⟨call, item, there, rest⟩
    exact ⟨call, item, Update.getElem?_append_of_some _ there, rest⟩
  repeats := sound.repeats

theorem Sound.again (sound : Sound encode routes s) {place : Nat} {entry : Entry κ ο}
    (found : s.history[place]? = some entry) :
    Sound encode routes { s with history := s.history ++ [{ entry with repeated := true }] } where
  numbered := by
    intro d
    rw [places_append, sound.numbered d]
    exact List.append_nil _
  returned := sound.returned
  made := by
    intro other member d k source
    rcases List.mem_append.mp member with old | new
    · exact sound.made other old d k source
    · rw [List.mem_singleton.mp new] at source ⊢
      exact sound.made entry (List.mem_of_getElem? found) d k source
  repeats := by
    apply sound.repeats.append
    intro _
    cases first : entry.repeated with
    | false =>
        refine ⟨place, (List.getElem?_eq_some_iff.mp found).1, ?_⟩
        rw [found, ← first]
    | true =>
        rcases sound.repeats place entry found first with ⟨earlier, less, original⟩
        exact ⟨earlier, less.trans (List.getElem?_eq_some_iff.mp found).1, original⟩

theorem Sound.foreign (sound : Sound encode routes s) (slot : κ) (output : ο) :
    Sound encode routes { s with history := s.history ++ [⟨none, slot, output, false⟩] } where
  numbered := by
    intro d
    rw [places_append, sound.numbered d]
    exact List.append_nil _
  returned := sound.returned
  made := by
    intro entry member d k source
    rcases List.mem_append.mp member with old | new
    · exact sound.made entry old d k source
    · rw [List.mem_singleton.mp new] at source
      cases source
  repeats := sound.repeats.append (fun repeated => Bool.noConfusion repeated)

theorem sound_step {e : Event τ ι κ ο ε} (sound : Sound encode routes s)
    (taken : step encode routes s e = some t) : Sound encode routes t := by
  cases taken_of_step taken with
  | append found next routed encoded failed => exact sound.append found next routed encoded failed
  | stop found => exact sound.ends found (fun raised => by cases raised)
  | finish found whole => exact sound.ends found (fun _ => whole)
  | start topic items refusal => exact sound.start topic items refusal
  | again found => exact sound.again found
  | foreign slot output => exact sound.foreign slot output

variable [DecidableEq κ]

def State.log (s : State τ ι κ ο ε) (slot : κ) : List (Entry κ ο) :=
  s.history.filter (fun entry => entry.slot = slot)

theorem Sound.log_ordered (sound : Sound encode routes s) (slot : κ) (c : Nat) :
    (places c (s.log slot)).Sublist (List.range (s.sent c)) := by
  rw [← sound.numbered c]
  exact List.filter_sublist.filterMap _

/-- Of every call the first items are appended in their order, also in each log, and all of them
when it has returned; what is appended beyond that is a repetition. -/
def State.Published (s : State τ ι κ ο ε) : Prop :=
  Repeats s.history ∧ ∀ (c : Nat) call, s.calls[c]? = some call →
    places c s.history = List.range call.sent ∧
      (∀ slot, (places c (s.log slot)).Sublist (List.range call.sent)) ∧
        (call.ending = some (.ok ()) → call.sent = call.items.length)

theorem Sound.published (sound : Sound encode routes s) : s.Published := by
  refine ⟨sound.repeats, ?_⟩
  intro c call found
  rw [← sent_of_found found]
  refine ⟨sound.numbered c, fun slot => sound.log_ordered slot c, ?_⟩
  rw [sent_of_found found]
  exact sound.returned c call found

theorem Sound.stands (sound : Sound encode routes s) {slot : κ} {place : Nat}
    (bound : place < (s.log slot).length) :
    ∃ entry, (s.log slot)[place]? = some entry ∧
      ∀ c k, entry.source = some (c, k) → ∃ call item, s.calls[c]? = some call ∧
        call.items[k]? = some item ∧ encode item = .ok entry.output ∧
          routes call.topic slot = true := by
  refine ⟨_, List.getElem?_eq_getElem bound, ?_⟩
  intro c k source
  rcases List.mem_filter.mp (List.getElem_mem bound) with ⟨member, here⟩
  rw [decide_eq_true_iff] at here
  rcases sound.made _ member c k source with ⟨call, item, found, placed, encoded, routed⟩
  rw [here] at routed
  exact ⟨call, item, found, placed, encoded, routed⟩

theorem log_step {e : Event τ ι κ ο ε} (taken : step encode routes s e = some t) (slot : κ) :
    s.log slot <+: t.log slot := by
  cases taken_of_step taken with
  | start | stop | finish => exact List.prefix_rfl
  | append | again | foreign =>
      simp only [State.log, State.append, List.filter_append]
      exact List.prefix_append _ _

end Step

structure System (τ ι κ ο ε σ : Type) where
  publishers : State τ ι κ ο ε
  reader : σ

inductive Happening (τ ι κ ο ε η : Type) where
  | publish (event : Event τ ι κ ο ε)
  | read (event : η)
  deriving DecidableEq, Repr

section System

variable {τ ι κ ο ε σ η : Type} [DecidableEq κ] (encode : ι → Except ε ο)
  (routes : τ → κ → Bool) (slot : κ) (consume : σ → η → Option σ) (arrive : ο → η)
  (arrival : η → Bool)

def System.step (s : System τ ι κ ο ε σ) : Happening τ ι κ ο ε η → Option (System τ ι κ ο ε σ)
  | .publish e =>
      (AppendLog.step encode routes s.publishers e).bind fun publishers =>
        let appended := (publishers.log slot).drop (s.publishers.log slot).length
        (exec consume s.reader (appended.map fun entry => arrive entry.output)).map
          (⟨publishers, ·⟩)
  | .read e => if arrival e then none else (consume s.reader e).map (⟨s.publishers, ·⟩)

variable {encode routes slot consume arrive arrival} {s t : System τ ι κ ο ε σ}

theorem System.exec_keeps {P : State τ ι κ ο ε → Prop} {R : σ → Prop}
    (publishes : ∀ s e t, P s → AppendLog.step encode routes s e = some t → P t)
    (reads : ∀ s e t, R s → consume s e = some t → R t) {events : List (Happening τ ι κ ο ε η)}
    (first : P s.publishers) (start : R s.reader)
    (run : exec (System.step encode routes slot consume arrive arrival) s events = some t) :
    P t.publishers ∧ R t.reader := by
  apply exec_preserves (I := fun s : System τ ι κ ο ε σ => P s.publishers ∧ R s.reader) _
    ⟨first, start⟩ run
  intro s e t held taken
  cases e with
  | publish e =>
      rcases Option.bind_eq_some_iff.mp taken with ⟨publishers, published, rest⟩
      rcases Option.map_eq_some_iff.mp rest with ⟨reader, arrives, rfl⟩
      exact ⟨publishes _ _ _ held.1 published, exec_preserves reads held.2 arrives⟩
  | read e =>
      simp only [System.step] at taken
      split at taken
      · cases taken
      · rcases Option.map_eq_some_iff.mp taken with ⟨reader, consumed, rfl⟩
        exact ⟨held.1, reads _ _ _ held.2 consumed⟩

theorem System.exec_tells {T : List (Entry κ ο) → σ → Prop}
    (arrives : ∀ log entry s t, T log s → consume s (arrive entry.output) = some t →
      T (log ++ [entry]) t)
    (stays : ∀ log s e t, arrival e = false → T log s → consume s e = some t → T log t)
    {events : List (Happening τ ι κ ο ε η)} (start : T (s.publishers.log slot) s.reader)
    (run : exec (System.step encode routes slot consume arrive arrival) s events = some t) :
    T (t.publishers.log slot) t.reader := by
  have follows (appended log : List (Entry κ ο)) (s t : σ) (told : T log s)
      (run : exec consume s (appended.map fun entry => arrive entry.output) = some t) :
      T (log ++ appended) t := by
    induction appended generalizing log s with
    | nil =>
        cases run
        rw [List.append_nil]
        exact told
    | cons entry appended ih =>
        rcases exec_cons.mp run with ⟨next, first, rest⟩
        rw [List.append_cons]
        exact ih _ next (arrives log entry s next told first) rest
  apply exec_preserves (I := fun s : System τ ι κ ο ε σ => T (s.publishers.log slot) s.reader)
    _ start run
  intro s e t told taken
  cases e with
  | publish e =>
      rcases Option.bind_eq_some_iff.mp taken with ⟨publishers, published, rest⟩
      rcases Option.map_eq_some_iff.mp rest with ⟨reader, arrived, rfl⟩
      have grown := follows _ _ _ _ told arrived
      rw [List.prefix_iff_eq_append.mp (log_step published slot)] at grown
      exact grown
  | read e =>
      simp only [System.step] at taken
      split at taken
      · cases taken
      · rename_i other
        rcases Option.map_eq_some_iff.mp taken with ⟨reader, consumed, rfl⟩
        exact stays _ _ e _ (Bool.eq_false_iff.mpr other) told consumed

end System

end AppendLog
