import Natricine.Library.Dict
import Mathlib.Logic.Function.Basic

/-! The signal handlers that `graceful_shutdown` installs, and those that it puts back: contexts one
in another and one after another. -/

namespace Natricine.Shutdown

/-- What `signal.signal` and `signal.getsignal` know of a signal: the action of the system, a
function, or a handler that is none of Python's, given as `None`. -/
inductive Disposition where
  | default
  | ignored
  | function (name : Nat)
  | foreign
  deriving DecidableEq, Repr

inductive SignalError where
  | refused
  | typeError
  deriving DecidableEq, Repr

/-- Contexts one after another, each around others. -/
inductive Nest (ς : Type) where
  | done
  | context (signals : List ς) (body after : Nest ς)

variable {ς : Type} [DecidableEq ς]

abbrev Handlers (ς : Type) := ς → Disposition

def Nest.size : Nest ς → Nat
  | .done => 0
  | .context _ body after => body.size + 1 + after.size

/-- `signal.signal`, with the handler that it returns. It refuses a signal that cannot be handled,
and all of them outside the main thread. -/
def signal (settable : ς → Bool) (handlers : Handlers ς) (sig : ς) (handler : Disposition) :
    Except SignalError (Handlers ς × Disposition) :=
  if settable sig then
    if handler = .foreign then .error .typeError
    else .ok (Function.update handlers sig handler, handlers sig)
  else .error .refused

/-- The loop that installs `handle_signal`, with `original_handlers`. -/
def install (settable : ς → Bool) (handleSignal : Disposition) :
    List ς → Handlers ς → Dict ς Disposition → Handlers ς × Dict ς Disposition
  | [], handlers, originals => (handlers, originals)
  | sig :: rest, handlers, originals =>
      match signal settable handlers sig handleSignal with
      | .ok (handlers, original) =>
          install settable handleSignal rest handlers (originals.set sig original)
      | .error _ => install settable handleSignal rest handlers originals

/-- The loop of the `finally`, and whether an exception has ended it. -/
def restore (settable : ς → Bool) : List (ς × Disposition) → Handlers ς → Handlers ς × Bool
  | [], handlers => (handlers, false)
  | (sig, handler) :: rest, handlers =>
      match signal settable handlers sig handler with
      | .ok (handlers, _) => restore settable rest handlers
      | .error .refused => restore settable rest handlers
      | .error .typeError => (handlers, true)

/-- The handlers behind the contexts, and whether an exception of `signal.signal` has left them.
The function of each context is named by the count of those before it. -/
def run (settable : ς → Bool) : Nest ς → Nat → Handlers ς → Handlers ς × Bool
  | .done, _, handlers => (handlers, false)
  | .context signals body after, count, handlers =>
      let (installed, originals) :=
        install settable (.function count) signals handlers Dict.empty
      let (inner, raised) := run settable body (count + 1) installed
      let (left, broken) := restore settable originals.entries inner
      if raised || broken then (left, true)
      else run settable after (count + 1 + body.size) left

/-- Each context leaves the handlers as it has found them. -/
def AllRestored (settable : ς → Bool) : Nest ς → Nat → Handlers ς → Prop
  | .done, _, _ => True
  | .context signals body after, count, handlers =>
      let entered := install settable (.function count) signals handlers Dict.empty
      let inner := (run settable body (count + 1) entered.1).1
      AllRestored settable body (count + 1) entered.1 ∧
        (restore settable entered.2.entries inner).1 = handlers ∧
          AllRestored settable after (count + 1 + body.size) handlers

def covered (settable : ς → Bool) (handler : Disposition) (signals : List ς)
    (handlers : Handlers ς) : Handlers ς :=
  fun sig => if sig ∈ signals.filter settable then handler else handlers sig

/-- Each context names a signal that can be handled once, and Python knows the handler before it. -/
def Clean (settable : ς → Bool) : Nest ς → Nat → Handlers ς → Prop
  | .done, _, _ => True
  | .context signals body after, count, handlers =>
      (signals.filter settable).Nodup ∧
        (∀ sig ∈ signals.filter settable, handlers sig ≠ .foreign) ∧
          Clean settable body (count + 1) (covered settable (.function count) signals handlers) ∧
            Clean settable after (count + 1 + body.size) handlers

section Install

variable {settable : ς → Bool} {own : Disposition} {sig : ς} {handlers : Handlers ς}
  {originals : Dict ς Disposition}

theorem install_cons_settable (known : own ≠ .foreign) (can : settable sig = true)
    (rest : List ς) :
    install settable own (sig :: rest) handlers originals =
      install settable own rest (Function.update handlers sig own)
        (originals.set sig (handlers sig)) := by
  simp [install, signal, can, known]

theorem install_cons_refused (cannot : settable sig = false) (rest : List ς) :
    install settable own (sig :: rest) handlers originals =
      install settable own rest handlers originals := by
  simp [install, signal, cannot]

theorem covered_cons (can : settable sig = true) (rest : List ς) :
    covered settable own rest (Function.update handlers sig own) =
      covered settable own (sig :: rest) handlers := by
  funext other
  rw [covered, covered, List.filter_cons_of_pos can]
  by_cases same : other = sig
  · simp [same]
  · simp [same, Function.update_of_ne]

theorem install_handlers (known : own ≠ .foreign) (signals : List ς) :
    (install settable own signals handlers originals).1 =
      covered settable own signals handlers := by
  induction signals generalizing handlers originals with
  | nil =>
      funext other
      simp [install, covered]
  | cons sig rest ih =>
      cases can : settable sig with
      | true => rw [install_cons_settable known can, ih, covered_cons can]
      | false =>
          have skipped : (sig :: rest).filter settable = rest.filter settable :=
            List.filter_cons_of_neg (by simp [can])
          rw [install_cons_refused can, ih]
          unfold covered
          rw [skipped]

theorem install_again (known : own ≠ .foreign) (signals : List ς) (here : handlers sig = own)
    (listed : sig ∈ signals.filter settable ∨ originals.get? sig = some own) :
    (install settable own signals handlers originals).2.get? sig = some own := by
  induction signals generalizing handlers originals with
  | nil => exact listed.resolve_left List.not_mem_nil
  | cons first rest ih =>
      cases can : settable first with
      | false =>
          rw [install_cons_refused can]
          apply ih here
          rwa [List.filter_cons_of_neg (by simp [can])] at listed
      | true =>
          rw [install_cons_settable known can]
          rw [List.filter_cons_of_pos can, List.mem_cons] at listed
          by_cases same : sig = first
          · subst same
            apply ih (Function.update_self ..)
            exact Or.inr (by rw [Dict.get?_set_self, here])
          · apply ih (by rw [Function.update_of_ne same, here])
            rw [Dict.get?_set_of_ne same]
            exact listed.imp_left fun either => either.resolve_left same

theorem install_twice (known : own ≠ .foreign) (signals : List ς)
    (twice : ¬(signals.filter settable).Nodup) :
    ∃ sig ∈ signals.filter settable,
      (install settable own signals handlers originals).2.get? sig = some own := by
  induction signals generalizing handlers originals with
  | nil => exact absurd List.nodup_nil twice
  | cons first rest ih =>
      cases can : settable first with
      | false =>
          rw [List.filter_cons_of_neg (by simp [can])] at twice ⊢
          rw [install_cons_refused can]
          exact ih twice
      | true =>
          rw [List.filter_cons_of_pos can] at twice ⊢
          rw [install_cons_settable known can]
          by_cases again : first ∈ rest.filter settable
          · refine ⟨first, List.mem_cons_self, ?_⟩
            exact install_again known rest (Function.update_self ..) (Or.inl again)
          · have later : ¬(rest.filter settable).Nodup :=
              fun once => twice (List.nodup_cons.mpr ⟨again, once⟩)
            rcases ih later with ⟨sig, member, kept⟩
            exact ⟨sig, List.mem_cons_of_mem _ member, kept⟩

theorem install_once (known : own ≠ .foreign) (signals : List ς)
    (once : (originals.keys ++ signals.filter settable).Nodup) :
    (install settable own signals handlers originals).2.entries =
      originals.entries ++ (signals.filter settable).map (fun sig => (sig, handlers sig)) := by
  induction signals generalizing handlers originals with
  | nil => simp [install]
  | cons first rest ih =>
      cases can : settable first with
      | false =>
          rw [List.filter_cons_of_neg (by simp [can])] at once ⊢
          rw [install_cons_refused can, ih once]
      | true =>
          rw [List.filter_cons_of_pos can] at once ⊢
          rw [install_cons_settable known can]
          have fresh : first ∉ originals.keys := by
            intro member
            exact (List.nodup_append'.mp once).2.2 member List.mem_cons_self
          have entries : (originals.set first (handlers first)).entries =
              originals.entries ++ [(first, handlers first)] := Dict.entries_set_of_fresh fresh
          have keys : (originals.set first (handlers first)).keys = originals.keys ++ [first] := by
            rw [Dict.keys, entries, List.map_append]
            rfl
          have apart := (List.nodup_cons.mp (List.nodup_append'.mp once).2.1).1
          have unchanged : (rest.filter settable).map
              (fun sig => (sig, Function.update handlers first own sig)) =
                (rest.filter settable).map (fun sig => (sig, handlers sig)) := by
            apply List.map_congr_left
            intro sig member
            have other : sig ≠ first := by
              intro same
              exact apart (same ▸ member)
            rw [Function.update_of_ne other]
          rw [ih (by rw [keys, List.append_assoc]; exact once), entries, unchanged,
            List.append_assoc]
          rfl

end Install

section Restore

variable {settable : ς → Bool} {handlers : Handlers ς}

theorem restore_value (entries : List (ς × Disposition)) (sig : ς) :
    (restore settable entries handlers).1 sig = handlers sig ∨
      ∃ handler, (sig, handler) ∈ entries ∧ handler ≠ .foreign ∧
        (restore settable entries handlers).1 sig = handler := by
  induction entries generalizing handlers with
  | nil => exact Or.inl rfl
  | cons entry rest ih =>
      rcases entry with ⟨first, handler⟩
      have later : ∀ others : Handlers ς,
          (restore settable rest others).1 sig = others sig ∨
            ∃ handler', (sig, handler') ∈ (first, handler) :: rest ∧ handler' ≠ .foreign ∧
              (restore settable rest others).1 sig = handler' := by
        intro others
        rcases @ih others with same | ⟨handler', member, known, value⟩
        · exact Or.inl same
        · exact Or.inr ⟨handler', List.mem_cons_of_mem _ member, known, value⟩
      rw [restore, signal]
      by_cases can : settable first = true
      · by_cases foreign : handler = .foreign
        · simp [can, foreign]
        · simp only [can, foreign, if_true, if_false]
          rcases later (Function.update handlers first handler) with same | given
          · by_cases here : sig = first
            · subst here
              rw [Function.update_self] at same
              exact Or.inr ⟨handler, List.mem_cons_self, foreign, same⟩
            · rw [Function.update_of_ne here] at same
              exact Or.inl same
          · exact Or.inr given
      · simp only [can]
        exact later handlers

theorem restore_known {originals : Handlers ς} (signals : List ς)
    (can : ∀ sig ∈ signals, settable sig = true)
    (known : ∀ sig ∈ signals, originals sig ≠ .foreign) :
    restore settable (signals.map fun sig => (sig, originals sig)) handlers =
      (fun sig => if sig ∈ signals then originals sig else handlers sig, false) := by
  induction signals generalizing handlers with
  | nil => simp [restore]
  | cons first rest ih =>
      have later := @ih (Function.update handlers first (originals first))
        (fun sig member => can sig (List.mem_cons_of_mem _ member))
        (fun sig member => known sig (List.mem_cons_of_mem _ member))
      have put : signal settable handlers first (originals first) =
          .ok (Function.update handlers first (originals first), handlers first) := by
        simp [signal, can first List.mem_cons_self, known first List.mem_cons_self]
      rw [List.map_cons, restore, put]
      dsimp only
      rw [later]
      congr 1
      funext sig
      by_cases same : sig = first
      · subst same
        simp
      · simp [same, Function.update_of_ne]

end Restore

section Context

variable {settable : ς → Bool} {handlers : Handlers ς} {count : Nat}

/-- A context whose body leaves the handlers alone leaves them as it has found them just when each
signal is named once and had a handler that Python knows. -/
theorem context_restored_iff (signals : List ς)
    (new : ∀ sig, handlers sig ≠ .function count) :
    (restore settable
        (install settable (.function count) signals handlers Dict.empty).2.entries
        (covered settable (.function count) signals handlers)).1 = handlers ↔
      (signals.filter settable).Nodup ∧
        ∀ sig ∈ signals.filter settable, handlers sig ≠ .foreign := by
  have known : Disposition.function count ≠ .foreign := Disposition.noConfusion
  let originals := (install settable (.function count) signals handlers Dict.empty).2
  let installed := covered settable (.function count) signals handlers
  have inside (sig : ς) (member : sig ∈ signals.filter settable) :
      installed sig = .function count := if_pos member
  have left (sig : ς) : (restore settable originals.entries installed).1 sig = installed sig ∨
      ∃ handler, (sig, handler) ∈ originals.entries ∧ handler ≠ .foreign ∧
        (restore settable originals.entries installed).1 sig = handler :=
    restore_value originals.entries sig
  constructor
  · intro restored
    have given (sig : ς) (member : sig ∈ signals.filter settable) :
        ∃ handler, (sig, handler) ∈ originals.entries ∧ handler ≠ .foreign ∧
          handlers sig = handler := by
      have either := left sig
      rw [restored] at either
      apply either.resolve_left
      rw [inside sig member]
      exact new sig
    constructor
    · by_contra twice
      rcases install_twice known signals twice with ⟨sig, member, kept⟩
      rcases given sig member with ⟨handler, listed, -, value⟩
      have same : originals.get? sig = some handler := Dict.get?_eq_some_iff.mpr listed
      rw [kept] at same
      exact new sig (value.trans (Option.some.inj same).symm)
    · intro sig member
      rcases given sig member with ⟨handler, -, known, value⟩
      rw [value]
      exact known
  · intro clean
    rcases clean with ⟨once, known_before⟩
    have listed : originals.entries =
        (signals.filter settable).map (fun sig => (sig, handlers sig)) :=
      install_once known signals once
    rw [listed, restore_known _ (fun sig member => (List.mem_filter.mp member).2) known_before]
    funext sig
    by_cases member : sig ∈ signals.filter settable
    · exact if_pos member
    · exact (if_neg member).trans (if_neg member)

/-- The functions that handle the signals are those of the contexts before. -/
def Before (count : Nat) (handlers : Handlers ς) : Prop :=
  ∀ sig name, handlers sig = .function name → name < count

omit [DecidableEq ς] in
theorem Before.ne (before : Before count handlers) (sig : ς) : handlers sig ≠ .function count := by
  intro same
  exact Nat.lt_irrefl count (before sig count same)

theorem Before.covered (before : Before count handlers) (signals : List ς) :
    Before (count + 1) (covered settable (.function count) signals handlers) := by
  intro sig name given
  rw [Shutdown.covered] at given
  split at given
  · cases given
    exact Nat.lt_succ_self count
  · exact Nat.lt_succ_of_lt (before sig name given)

omit [DecidableEq ς] in
theorem Before.later (before : Before count handlers) (more : Nat) :
    Before (count + more) handlers := by
  intro sig name given
  have earlier := before sig name given
  omega

theorem restore_clean (signals : List ς) (once : (signals.filter settable).Nodup)
    (known : ∀ sig ∈ signals.filter settable, handlers sig ≠ .foreign) :
    restore settable
        (install settable (.function count) signals handlers Dict.empty).2.entries
        (covered settable (.function count) signals handlers) = (handlers, false) := by
  have listed : (install settable (.function count) signals handlers Dict.empty).2.entries =
      (signals.filter settable).map (fun sig => (sig, handlers sig)) :=
    install_once Disposition.noConfusion signals once
  rw [listed, restore_known _ (fun sig member => (List.mem_filter.mp member).2) known]
  congr 1
  funext sig
  by_cases member : sig ∈ signals.filter settable
  · exact if_pos member
  · exact (if_neg member).trans (if_neg member)

theorem Clean.run {nest : Nest ς} (clean : Clean settable nest count handlers) :
    run settable nest count handlers = (handlers, false) := by
  induction nest generalizing count handlers with
  | done => rfl
  | context signals body after ihBody ihAfter =>
      rcases clean with ⟨once, known, inner, later⟩
      have installed : (install settable (.function count) signals handlers Dict.empty).1 =
          covered settable (.function count) signals handlers :=
        install_handlers Disposition.noConfusion signals
      simp only [Shutdown.run, installed, ihBody inner, restore_clean signals once known]
      exact ihAfter later

end Context

/-- However contexts are nested and follow each other, each leaves the handlers of all signals as it
has found them if and only if none of them names a signal twice, or one whose handler was not
installed from Python. -/
theorem handlers_restored_iff (settable : ς → Bool) (nest : Nest ς) (count : Nat)
    (handlers : Handlers ς) (before : Before count handlers) :
    AllRestored settable nest count handlers ↔ Clean settable nest count handlers := by
  induction nest generalizing count handlers with
  | done => exact Iff.rfl
  | context signals body after ihBody ihAfter =>
      have installed : (install settable (.function count) signals handlers Dict.empty).1 =
          covered settable (.function count) signals handlers :=
        install_handlers Disposition.noConfusion signals
      have further : Before (count + 1 + body.size) handlers := (before.later 1).later body.size
      rw [AllRestored, Clean, installed, ihBody _ _ (before.covered signals),
        ihAfter _ _ further, ← and_assoc, ← and_assoc, ← and_assoc]
      apply and_congr_left
      intro _
      rw [and_comm (b := Clean settable body _ _)]
      apply and_congr_right
      intro inner
      rw [inner.run]
      exact context_restored_iff signals before.ne

/-- The default signals twice, the inner context with one that cannot be handled, and then one of
them again. -/
def twoDeep : Nest Nat :=
  .context [15, 2] (.context [15, 2, 9] .done .done) (.context [15] .done .done)

theorem handlers_restored_two_deep :
    Before 0 (fun _ : Nat => Disposition.default) ∧
      AllRestored (fun sig : Nat => sig ≠ 9) twoDeep 0 (fun _ => .default) := by
  have before : Before 0 (fun _ : Nat => Disposition.default) := by
    intro sig name given
    cases given
  have clean : Clean (fun sig : Nat => sig ≠ 9) twoDeep 0 (fun _ => .default) := by
    simp [Clean, twoDeep, covered]
  exact ⟨before, (handlers_restored_iff _ twoDeep 0 _ before).mpr clean⟩

example :
    (run (fun _ => true) (.context [15, 2, 15] .done .done) 0 (fun _ : Nat => .default)).1 15 =
      .function 0 := by
  decide

end Natricine.Shutdown
