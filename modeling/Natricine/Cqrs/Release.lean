import Natricine.Cqrs.Subscribers

/-! When the subscribers that the factory created in a run of a bus are closed, once the run has
ended and a `close` that was called in it or after it is over. -/

namespace Natricine.Cqrs

open Text Transition

variable {τ φ : Type}

namespace Closer

def isOver : Option Closer → Bool
  | some (.ended _) => true
  | some .draining | some (.releasing _ _) | none => false

def position? : Closer → Option Nat
  | .releasing _ position => some position
  | .draining | .ended _ => none

end Closer

namespace Pool

/-- An exception reaches a `close` where it waits: it is cancelled, or the `close` of the subscriber
that it waits for raises. -/
def interrupt (s : Pool τ φ) (closer : Nat) : Option (Pool τ φ) :=
  match s.closers[closer]? with
  | some .draining | some (.releasing _ _) =>
      some { s with closers := s.closers.set closer (.ended true) }
  | some (.ended _) | none => none

def CacheReleased (s : Pool τ φ) : Prop := ∀ entry ∈ s.cache.entries, entry.2 ∈ s.released

def AllReleased (s : Pool τ φ) : Prop := ∀ call < s.created.length, call ∈ s.released

def Creates (s : Pool τ φ) (index : Nat) : Prop :=
  ∃ loop ∈ s.loops[index]?, loop.subscriber = none ∧ s.cache.get? loop.handler.name = none

end Pool

/-- A call of `run`: the calls of `close` as it found them, and how many subscribers had been
created when it began and when it ended. -/
structure RunRecord where
  closersBefore : List Closer
  first : Nat
  last : Option Nat

def RunRecord.Closed (run : RunRecord) (closers : List Closer) : Prop :=
  ∃ i : Nat, Closer.isOver closers[i]? = true ∧ Closer.isOver run.closersBefore[i]? = false

structure History (τ φ : Type) where
  pool : Pool τ φ
  runs : List RunRecord

/-- What happens on the bus, with the handlers that it has then. -/
inductive Occasion (τ φ : Type) where
  | bus (handlers : List (Handler τ φ)) (e : Pool.Event)
  | interrupt (closer : Nat)

namespace History

def initial : History τ φ := ⟨Pool.initial, []⟩

def record (s : History τ φ) : Pool.Event → List RunRecord
  | .run =>
      if s.pool.running then s.runs
      else ⟨s.pool.closers, s.pool.created.length, none⟩ :: s.runs
  | .finish =>
      match s.runs with
      | run :: runs => { run with last := some s.pool.created.length } :: runs
      | [] => []
  | .begin _ | .close | .cancel _ | .release _ _ => s.runs

def step (s : History τ φ) : Occasion τ φ → Option (History τ φ)
  | .bus handlers e => (s.pool.step handlers e).map (fun pool => ⟨pool, s.record e⟩)
  | .interrupt closer => (s.pool.interrupt closer).map (fun pool => ⟨pool, s.runs⟩)

/-- Of each run that has ended, with a `close` over since it began, every subscriber that was
created in it has been closed. -/
def Released (s : History τ φ) : Prop :=
  ∀ run ∈ s.runs, ∀ last ∈ run.last, run.Closed s.pool.closers →
    ∀ call < last, run.first ≤ call → call ∈ s.pool.released

/-- `close` finds the bus running, or no subscriber open; no subscriber is created while one
iterates over them, or once one is over in the run; and none is ended by an exception before it has
come to every subscriber. -/
def Timely (s : History τ φ) : Occasion τ φ → Prop
  | .bus _ .close => s.pool.running = true ∨ s.pool.CacheReleased
  | .bus _ (.begin index) =>
      s.pool.Creates index → (∀ closer ∈ s.pool.closers, closer.position? = none) ∧
        ∀ run ∈ s.runs.head?, ¬run.Closed s.pool.closers
  | .bus _ (.release closer true) =>
      ∀ position ∈ s.pool.closers[closer]?.bind Closer.position?,
        ∀ entry ∈ s.pool.cache.entries.eraseIdx position, entry.2 ∈ s.pool.released
  | .interrupt _ => s.pool.CacheReleased
  | .bus _ .run | .bus _ .finish | .bus _ (.cancel _) | .bus _ (.release _ false) => True

end History

instance (run : RunRecord) (closers : List Closer) : Decidable (run.Closed closers) :=
  decidable_of_iff (∃ i ∈ List.range closers.length,
      Closer.isOver closers[i]? = true ∧ Closer.isOver run.closersBefore[i]? = false) (by
    constructor
    · rintro ⟨i, -, closed⟩
      exact ⟨i, closed⟩
    · rintro ⟨i, ended, before⟩
      refine ⟨i, List.mem_range.mpr ?_, ended, before⟩
      by_contra beyond
      rw [List.getElem?_eq_none (Nat.not_lt.mp beyond)] at ended
      cases ended)

instance (s : History τ φ) : (occasion : Occasion τ φ) → Decidable (s.Timely occasion)
  | .bus _ .close => inferInstanceAs (Decidable (_ ∨ ∀ entry ∈ _, _))
  | .bus _ (.begin _) => inferInstanceAs (Decidable ((∃ loop ∈ _, _) → _))
  | .bus _ (.release _ true) => inferInstanceAs (Decidable (∀ position ∈ _, ∀ entry ∈ _, _))
  | .interrupt _ => inferInstanceAs (Decidable (∀ entry ∈ _, _))
  | .bus _ .run | .bus _ .finish | .bus _ (.cancel _) | .bus _ (.release _ false) => isTrue trivial

namespace History

def Iterates (pool : Pool τ φ) : Prop :=
  ∀ (closer : Nat) size position, pool.closers[closer]? = some (.releasing size position) →
    pool.cache.entries = [] ∨ (pool.cache.entries.length = size ∧
      ∀ entry ∈ pool.cache.entries.take position, entry.2 ∈ pool.released)

/-- What is created is closed or cached; and where a `close` is over that was not when the run
began, all that was created by its end is closed. -/
structure Sound (s : History τ φ) : Prop where
  cached : ∀ call < s.pool.created.length,
    call ∈ s.pool.released ∨ ∃ entry ∈ s.pool.cache.entries, entry.2 = call
  iterates : Iterates s.pool
  current : s.pool.running = true → ∀ run ∈ s.runs.head?, run.Closed s.pool.closers →
    s.pool.AllReleased
  bounded : ∀ run ∈ s.runs, ∀ last ∈ run.last, last ≤ s.pool.created.length
  ended : ∀ run ∈ s.runs, ∀ last ∈ run.last, run.Closed s.pool.closers →
    ∀ call < last, call ∈ s.pool.released

theorem sound_initial : Sound (initial : History τ φ) where
  cached := nofun
  iterates := nofun
  current := nofun
  bounded := nofun
  ended := nofun

section Closers

variable {closers others : List Closer} {closer : Nat} {old : Closer} (new : Closer)

theorem closed_congr (same : ∀ i : Nat, Closer.isOver closers[i]? = Closer.isOver others[i]?)
    (run : RunRecord) : run.Closed closers ↔ run.Closed others := by
  simp only [RunRecord.Closed, same]

theorem isOver_append (pending : Closer.isOver (some new) = false) (i : Nat) :
    Closer.isOver (closers ++ [new])[i]? = Closer.isOver closers[i]? := by
  cases found : (closers ++ [new])[i]? with
  | none =>
      have bound := List.getElem?_eq_none_iff.mp found
      rw [List.length_append] at bound
      rw [List.getElem?_eq_none (by omega)]
  | some other =>
      rcases Update.getElem?_append_cases _ found with ⟨rfl, rfl⟩ | before
      · rw [pending, List.getElem?_eq_none (le_refl _)]
        rfl
      · rw [before]

theorem isOver_set (found : closers[closer]? = some old)
    (same : Closer.isOver (some new) = Closer.isOver (some old)) (i : Nat) :
    Closer.isOver (closers.set closer new)[i]? = Closer.isOver closers[i]? := by
  by_cases here : closer = i
  · rw [← here, List.getElem?_set_self (List.getElem?_eq_some_iff.mp found).1, same, found]
  · rw [List.getElem?_set_ne here]

end Closers

section Step

variable {s : History τ φ} {pool : Pool τ φ} {closers : List Closer}

theorem Sound.of_allReleased (all : s.pool.AllReleased) (iterates : Iterates s.pool)
    (bounded : ∀ run ∈ s.runs, ∀ last ∈ run.last, last ≤ s.pool.created.length) : Sound s where
  cached call made := Or.inl (all call made)
  iterates := iterates
  current _ _ _ _ := all
  bounded := bounded
  ended run member last known _ call before :=
    all call (Nat.lt_of_lt_of_le before (bounded run member last known))

theorem Sound.allReleased (sound : Sound s) (closed : s.pool.CacheReleased) :
    s.pool.AllReleased := by
  intro call made
  rcases sound.cached call made with done | ⟨entry, member, rfl⟩
  · exact done
  · exact closed entry member

theorem Iterates.end_close (iterates : Iterates pool) (closer : Nat) (raised : Bool) :
    Iterates { pool with closers := pool.closers.set closer (.ended raised) } := by
  intro other size position found
  rcases Update.getElem?_set_cases _ found with ⟨-, same⟩ | ⟨-, before⟩
  · cases same
  · exact iterates other size position before

theorem Iterates.add (iterates : Iterates pool) (new : Closer) (idle : new.position? = none) :
    Iterates { pool with closers := pool.closers ++ [new] } := by
  intro other size position found
  rcases Update.getElem?_append_cases _ found with ⟨-, same⟩ | before
  · rw [← same] at idle
    cases idle
  · exact iterates other size position before

theorem Sound.end_close (sound : Sound s) (closer : Nat) (raised : Bool)
    (closed : s.pool.CacheReleased) :
    Sound ⟨{ s.pool with closers := s.pool.closers.set closer (.ended raised) }, s.runs⟩ :=
  Sound.of_allReleased (sound.allReleased closed) (sound.iterates.end_close closer raised)
    sound.bounded

theorem Sound.go_on (sound : Sound s)
    (same : ∀ i : Nat, Closer.isOver closers[i]? = Closer.isOver s.pool.closers[i]?)
    (iterates : Iterates { s.pool with closers := closers }) :
    Sound ⟨{ s.pool with closers := closers }, s.runs⟩ where
  cached := sound.cached
  iterates := iterates
  current running run head closed :=
    sound.current running run head ((closed_congr same run).mp closed)
  bounded := sound.bounded
  ended run member last known closed :=
    sound.ended run member last known ((closed_congr same run).mp closed)

theorem Sound.run (sound : Sound s) (loops : List (Loop τ φ)) :
    Sound ⟨{ s.pool with running := true, closing := false, loops := loops },
      ⟨s.pool.closers, s.pool.created.length, none⟩ :: s.runs⟩ where
  cached := sound.cached
  iterates := sound.iterates
  current _ run head closed := by
    cases head
    rcases closed with ⟨i, ended, before⟩
    rw [before] at ended
    cases ended
  bounded run member last known := by
    rcases List.mem_cons.mp member with rfl | earlier
    · cases known
    · exact sound.bounded run earlier last known
  ended run member last known closed := by
    rcases List.mem_cons.mp member with rfl | earlier
    · cases known
    · exact sound.ended run earlier last known closed

theorem Sound.finish (sound : Sound s) (running : s.pool.running = true) :
    Sound ⟨{ s.pool with running := false, closing := false }, s.record .finish⟩ := by
  rw [record]
  cases runs : s.runs with
  | nil => exact ⟨sound.cached, sound.iterates, nofun, nofun, nofun⟩
  | cons latest earlier =>
      have earlier_in : ∀ run ∈ earlier, run ∈ s.runs := by
        rw [runs]
        exact fun run member => List.mem_cons_of_mem latest member
      refine ⟨sound.cached, sound.iterates, nofun, ?_, ?_⟩
      · intro run member last known
        rcases List.mem_cons.mp member with rfl | inside
        · cases known
          exact le_refl _
        · exact sound.bounded run (earlier_in run inside) last known
      · intro run member last known closed
        rcases List.mem_cons.mp member with rfl | inside
        · cases known
          exact sound.current running latest (by rw [runs]; rfl) closed
        · exact sound.ended run (earlier_in run inside) last known closed

theorem Sound.create (sound : Sound s) {name : Str} (fresh : s.pool.cache.get? name = none)
    (loops : List (Loop τ φ)) (idle : ∀ closer ∈ s.pool.closers, closer.position? = none)
    (unclosed : ∀ run ∈ s.runs.head?, ¬run.Closed s.pool.closers) :
    Sound ⟨{ s.pool with
      cache := s.pool.cache.set name s.pool.created.length
      created := s.pool.created ++ [name]
      loops := loops }, s.runs⟩ where
  cached call made := by
    rw [List.length_append, List.length_singleton] at made
    rcases Nat.lt_succ_iff_lt_or_eq.mp made with before | rfl
    · rcases sound.cached call before with done | ⟨entry, member, rfl⟩
      · exact Or.inl done
      · right
        refine ⟨entry, ?_, rfl⟩
        rw [Dict.entries_set_of_fresh (Dict.get?_eq_none_iff.mp fresh)]
        exact List.mem_append_left _ member
    · exact Or.inr ⟨_, Dict.mem_entries_set.mpr (Or.inl rfl), rfl⟩
  iterates closer size position found := by
    have releasing := idle _ (List.mem_of_getElem? found)
    cases releasing
  current _ run head closed := absurd closed (unclosed run head)
  bounded run member last known := by
    rw [List.length_append]
    exact Nat.le_add_right_of_le (sound.bounded run member last known)
  ended := sound.ended

theorem Iterates.pass (iterates : Iterates pool) (closer : Nat) (next : Closer)
    {position call : Nat} {name : Str}
    (found : pool.cache.entries[position]? = some (name, call))
    (passes : ∀ size later, next = .releasing size later →
      pool.cache.entries.length = size ∧ later = position + 1 ∧
        pool.closers[closer]? = some (.releasing size position)) :
    Iterates { pool with
      released := pool.released ++ [call]
      closers := pool.closers.set closer next } := by
  have grown : ∀ {count}, (∀ entry ∈ pool.cache.entries.take count, entry.2 ∈ pool.released) →
      ∀ entry ∈ pool.cache.entries.take count, entry.2 ∈ pool.released ++ [call] :=
    fun passed entry member => List.mem_append_left _ (passed entry member)
  intro other size later at_place
  rcases Update.getElem?_set_cases _ at_place with ⟨rfl, same⟩ | ⟨-, before⟩
  · rcases passes size later same.symm with ⟨length, rfl, releasing⟩
    rcases iterates _ _ _ releasing with empty | ⟨-, passed⟩
    · exact Or.inl empty
    · right
      refine ⟨length, ?_⟩
      intro entry member
      rw [List.take_add_one, found, Option.toList_some] at member
      rcases List.mem_append.mp member with earlier | last
      · exact grown passed entry earlier
      · rw [List.mem_singleton.mp last]
        exact List.mem_append_right _ List.mem_cons_self
  · rcases iterates other size later before with empty | ⟨length, passed⟩
    · exact Or.inl empty
    · exact Or.inr ⟨length, grown passed⟩

theorem Sound.pass (sound : Sound s) {closer size position call : Nat} {name : Str}
    (releasing : s.pool.closers[closer]? = some (.releasing size position))
    (length : s.pool.cache.entries.length = size)
    (found : s.pool.cache.entries[position]? = some (name, call)) :
    Sound ⟨{ s.pool with
      released := s.pool.released ++ [call]
      closers := s.pool.closers.set closer (.releasing size (position + 1)) }, s.runs⟩ := by
  have same := isOver_set (.releasing size (position + 1)) releasing rfl
  have passed := sound.iterates.pass closer (.releasing size (position + 1)) found (by
    intro other later next
    cases next
    exact ⟨length, rfl, releasing⟩)
  refine ⟨?_, passed, ?_, sound.bounded, ?_⟩
  · intro call made
    exact (sound.cached call made).imp_left (List.mem_append_left _)
  · intro running run head closed call made
    have before := (closed_congr same run).mp closed
    exact List.mem_append_left _ (sound.current running run head before call made)
  · intro run member last known closed call made
    have before := (closed_congr same run).mp closed
    exact List.mem_append_left _ (sound.ended run member last known before call made)

theorem Sound.fail (sound : Sound s) {closer position call : Nat} {name : Str}
    (found : s.pool.cache.entries[position]? = some (name, call))
    (others : ∀ entry ∈ s.pool.cache.entries.eraseIdx position, entry.2 ∈ s.pool.released) :
    Sound ⟨{ s.pool with
      released := s.pool.released ++ [call]
      closers := s.pool.closers.set closer (.ended true) }, s.runs⟩ := by
  have passed := sound.iterates.pass closer (.ended true) found nofun
  refine Sound.of_allReleased ?_ passed sound.bounded
  intro other made
  rcases sound.cached other made with done | ⟨entry, member, rfl⟩
  · exact List.mem_append_left _ done
  · rcases List.mem_iff_getElem?.mp member with ⟨place, at_place⟩
    by_cases here : place = position
    · rw [here, found] at at_place
      cases at_place
      exact List.mem_append_right _ List.mem_cons_self
    · have remaining := List.mem_eraseIdx_iff_getElem?.mpr ⟨place, here, at_place⟩
      exact List.mem_append_left _ (others entry remaining)

theorem Iterates.cacheReleased (iterates : Iterates pool) {closer size position : Nat}
    (releasing : pool.closers[closer]? = some (.releasing size position))
    (done : pool.cache.entries.length = size → pool.cache.entries[position]? = none) :
    pool.CacheReleased := by
  intro entry member
  rcases iterates closer size position releasing with empty | ⟨length, passed⟩
  · rw [empty] at member
    cases member
  · apply passed
    rw [List.take_of_length_le (List.getElem?_eq_none_iff.mp (done length))]
    exact member

theorem sound_step {t : History τ φ} {occasion : Occasion τ φ} (sound : Sound s)
    (timely : Timely s occasion) (taken : step s occasion = some t) : Sound t := by
  cases occasion with
  | interrupt closer =>
      rcases Option.map_eq_some_iff.mp taken with ⟨pool, interrupted, rfl⟩
      rw [Pool.interrupt] at interrupted
      split at interrupted
      all_goals cases interrupted
      all_goals exact sound.end_close closer true timely
  | bus handlers e =>
      rcases Option.map_eq_some_iff.mp taken with ⟨pool, stepped, rfl⟩
      cases Pool.taken_of_step stepped with
      | again running =>
          rw [record, if_pos running]
          exact sound
      | run stopped =>
          rw [record, if_neg (by rw [stopped]; exact Bool.false_ne_true)]
          exact sound.run _
      | cached waiting known =>
          exact ⟨sound.cached, sound.iterates, sound.current, sound.bounded, sound.ended⟩
      | created waiting fresh =>
          rcases timely ⟨_, waiting, rfl, fresh⟩ with ⟨idle, unclosed⟩
          exact sound.create fresh _ idle unclosed
      | finish running => exact sound.finish running
      | close running =>
          have going := sound.go_on (isOver_append .draining rfl) (sound.iterates.add .draining rfl)
          exact ⟨going.cached, going.iterates, going.current, going.bounded, going.ended⟩
      | closeStopped stopped =>
          have closed : s.pool.CacheReleased := by
            rcases timely with running | closed
            · rw [stopped] at running
              cases running
            · exact closed
          exact Sound.of_allReleased (sound.allReleased closed)
            (sound.iterates.add (.ended false) rfl) sound.bounded
      | cancel draining =>
          apply sound.go_on (isOver_set (.releasing s.pool.cache.entries.length 0) draining rfl)
          intro other size position found
          rcases Update.getElem?_set_cases _ found with ⟨-, same⟩ | ⟨-, before⟩
          · cases same
            exact Or.inr ⟨rfl, fun entry member => nomatch member⟩
          · exact sound.iterates other size position before
      | resized releasing differs =>
          apply sound.end_close
          exact sound.iterates.cacheReleased releasing (fun same => absurd same differs)
      | @released closer size position call raises name releasing same found =>
          cases raises with
          | false => exact sound.pass releasing same found
          | true => exact sound.fail found (timely position (by rw [releasing]; rfl))
      | emptied releasing done =>
          have closed := sound.iterates.cacheReleased releasing (fun _ => done)
          exact Sound.of_allReleased (sound.allReleased closed) (fun _ _ _ _ => Or.inl rfl)
            sound.bounded

end Step

/-- In every run of a bus and of its calls of `run` and `close`, whatever the ways in which they
end: where each step is timely, the subscribers of every run that has ended and been closed are
closed. -/
theorem timely_subscribers_released (occasions : List (Occasion τ φ))
    (timely : Along step Timely initial occasions) :
    Throughout step Released initial occasions := by
  intro t visited
  have sound : Sound t :=
    visits_invariant (fun _ _ _ => sound_step) sound_initial timely visited
  intro run member last known closed call before _
  exact sound.ended run member last known closed call before

theorem late_failure_released :
    let handlers : List (Handler Unit Nat) :=
      [⟨0, ofString "create", [], .ok Dict.empty⟩, ⟨1, ofString "delete", [], .ok Dict.empty⟩]
    Throughout step Released initial ([.run, .begin 0, .begin 1, .close, .finish, .cancel 0,
      .release 0 false, .release 0 true].map (Occasion.bus handlers)) := by
  intro handlers
  exact timely_subscribers_released _ (by decide)

/-- The last subscription ends, and with it the run: `close` returns at once, and the subscriber is
left open. -/
theorem stopped_bus_keeps_subscribers :
    ¬∀ occasions : List (Occasion Unit Nat), Throughout step Released initial occasions := by
  intro released
  let handler : Handler Unit Nat := ⟨0, ofString "create", [], .ok Dict.empty⟩
  let occasions := [.run, .begin 0, .finish, .close].map (Occasion.bus [handler])
  have visited := released occasions _ ⟨occasions, List.prefix_rfl, rfl⟩
  have closed := visited _ List.mem_cons_self 1 rfl ⟨0, rfl, rfl⟩ 0 Nat.zero_lt_one (le_refl 0)
  cases closed

end History

end Natricine.Cqrs
