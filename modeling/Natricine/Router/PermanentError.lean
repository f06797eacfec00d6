import Natricine.Router.FailureQueue

/-! Stacks of middlewares around a handler that raises `PermanentError`: which of the retries
among them call it again. -/

namespace Natricine.Router

open Effect PubSub Service Text

/-- A middleware of the stack with its arguments. -/
inductive Layer (τ : Type) where
  | retry (config : Retry τ)
  | timeout (config : Timeout τ)
  | recoverer (exception : LogRecord → Effect Abort τ Unit)
  | deadLetterQueue (config : DeadLetterQueue τ)
  | poisonQueue (config : PoisonQueue τ)

/-- What the middlewares of a stack have from outside. -/
structure Environment (τ : Type) where
  ambient : Ambient τ
  runtime : Runtime τ

def invocations {τ : Type} (s : Logged Happening τ) : Nat := s.log.countP Happening.isAttempt

def Timeout.unlogged {τ : Type} (config : Timeout τ) : Timeout (Logged Happening τ) where
  seconds := config.seconds
  expired seconds := Effect.unlogged (config.expired seconds)

namespace Layer

variable {τ : Type}

def middleware (env : Environment τ) : Layer τ → Middleware (Logged Happening τ)
  | .retry config => Router.retry env.ambient.unlogged config.unlogged
  | .timeout config => Router.timeout config.unlogged
  | .recoverer exception => Router.recoverer (fun entry => unlogged (exception entry))
  | .deadLetterQueue config => Router.deadLetterQueue env.runtime.unlogged config.logged
  | .poisonQueue config => Router.poisonQueue env.runtime.unlogged config.logged

/-- A retry whose `range(max_retries + 1)` is empty never calls what it wraps. -/
def Calls : Layer τ → Prop
  | .retry config => 0 ≤ config.maxRetries
  | _ => True

def outward (env : Environment τ) (msg : Message) :
    Layer τ → Abort → Effect Abort (Logged Happening τ) (List Message)
  | .retry config => fun
      | .raised failure =>
          if ¬config.shouldRetry failure ∨ config.maxRetries ≤ 0 then
            throw (.raised (Retry.raises env.ambient (some failure.actual)))
          else do
            config.unlogged.backOff env.ambient.unlogged msg 0 failure.actual config.delay
            return []
      | .cancelled => throw .cancelled
  | layer => fun abort => layer.middleware env (fun _ => throw abort) msg

def CallsAgain (env : Environment τ) (msg : Message) :
    Layer τ → Except Abort (List Message) × Logged Happening τ → Prop
  | .retry config, (.error (.raised failure), s) =>
      config.shouldRetry failure = true ∧ 0 < config.maxRetries ∧
        (exec (config.unlogged.backOff env.ambient.unlogged msg 0 failure.actual config.delay) s).1
          = .ok ()
  | _, _ => False

end Layer

def caught {σ : Type} (handle : Abort → Effect Abort σ (List Message)) :
    Except Abort (List Message) × σ → Except Abort (List Message) × σ
  | (.ok outputs, s) => (.ok outputs, s)
  | (.error abort, s) => exec (handle abort) s

section Stack

variable {τ : Type} (env : Environment τ) (msg : Message)

def stack (layers : List (Layer τ)) (func : HandlerFunc τ) : HandlerFunc (Logged Happening τ) :=
  (layers.map (Layer.middleware env)).foldr (fun middleware next => middleware next) (attempt func)

def escape (first : Except Abort (List Message) × Logged Happening τ) :
    List (Layer τ) → Except Abort (List Message) × Logged Happening τ
  | [] => first
  | layer :: inner => caught (layer.outward env msg) (escape first inner)

/-- No layer calls again with what has come out of the layers within. -/
def Unretried (first : Except Abort (List Message) × Logged Happening τ) : List (Layer τ) → Prop
  | [] => True
  | layer :: inner =>
      Unretried first inner ∧ ¬layer.CallsAgain env msg (escape env msg first inner)

end Stack

def NoFewer {τ : Type} (s t : Logged Happening τ) : Prop := invocations s ≤ invocations t

def Uninvoked {τ : Type} (s t : Logged Happening τ) : Prop := invocations s = invocations t

instance {τ : Type} : IsPreorder (Logged Happening τ) NoFewer where
  refl s := Nat.le_refl (invocations s)
  trans _ _ _ first second := Nat.le_trans first second

instance {τ : Type} : IsPreorder (Logged Happening τ) Uninvoked where
  refl _ := rfl
  trans _ _ _ first second := Eq.trans first second

section Keeps

variable {τ : Type} {env : Environment τ} {R : Logged Happening τ → Logged Happening τ → Prop}
  [IsPreorder (Logged Happening τ) R]

theorem layer_keeps (quiet : ∀ {α : Type} (action : Effect Abort τ α), Keeps R (unlogged action))
    (publishes : ∀ (publish : Str → Message → Effect Abort τ Unit) topic copy,
      Keeps R (loggedPublish publish topic copy))
    (layer : Layer τ) : (layer.middleware env).Keeps R := by
  cases layer with
  | retry config =>
      apply retry_keeps
      · exact onRetry_unlogged_keeps quiet
      · exact fun low high => quiet _
      · exact fun delay => quiet _
  | timeout config => exact timeout_keeps (fun seconds => quiet _)
  | recoverer exception => exact recoverer_keeps (fun entry => quiet _)
  | deadLetterQueue config =>
      apply FailureQueue.middleware_keeps
      · exact quiet _
      · exact publishes config.publish
      · intro msg failure
        refine (quiet _).bind fun _ => ?_
        exact (Runtime.traceback_keeps (quiet _) _ _).bind fun _ => keeps_pure _
      · intro callback given msg failure
        rcases Option.map_eq_some_iff.mp given with ⟨original, -, rfl⟩
        exact quiet _
  | poisonQueue config =>
      apply FailureQueue.middleware_keeps
      · exact quiet _
      · exact publishes config.publish
      · intro msg failure
        refine (quiet _).bind fun _ => ?_
        exact (Runtime.traceback_keeps (quiet _) _ _).bind fun _ => keeps_pure _
      · intro callback given msg failure
        rcases Option.map_eq_some_iff.mp given with ⟨original, -, rfl⟩
        exact quiet _

end Keeps

section Invocations

variable {τ : Type} {env : Environment τ} {msg : Message} {func : HandlerFunc τ} {layer : Layer τ}
  {layers : List (Layer τ)}

theorem invocations_publish (publish : Str → Message → Effect Abort τ Unit) (topic : Str)
    (copy : Message) : Keeps Uninvoked (loggedPublish publish topic copy) := by
  intro s
  rw [loggedPublish, exec_logged, Uninvoked, invocations, invocations,
    List.countP_append]
  rfl

theorem invocations_attempt (s : Logged Happening τ) :
    invocations (exec (attempt func msg) s).2 = invocations s + 1 := by
  rw [attempt, exec_logged, invocations, invocations, List.countP_append]
  rfl

theorem layer_uninvoked (layer : Layer τ) : (layer.middleware env).Keeps Uninvoked :=
  layer_keeps (fun _ _ => rfl) invocations_publish layer

theorem unlogged_noFewer {α : Type} (action : Effect Abort τ α) : Keeps NoFewer (unlogged action) :=
  fun s => Nat.le_refl (invocations s)

theorem layer_noFewer (layer : Layer τ) : (layer.middleware env).Keeps NoFewer :=
  layer_keeps unlogged_noFewer
    (fun publish topic copy s => Nat.le_of_eq (invocations_publish publish topic copy s)) layer

theorem exec_retry {σ : Type} (ambient : Ambient σ) (config : Retry σ)
    (calls : 0 ≤ config.maxRetries) (next : HandlerFunc σ) (msg : Message) (s : σ) :
    exec (retry ambient config next msg) s =
      match exec (next msg) s with
      | (.ok outputs, t) => (.ok outputs, t)
      | (.error .cancelled, t) => (.error .cancelled, t)
      | (.error (.raised failure), t) =>
          if ¬config.shouldRetry failure ∨ config.maxRetries ≤ 0 then
            (.error (.raised (Retry.raises ambient (some failure.actual))), t)
          else
            exec (do
              config.backOff ambient msg 0 failure.actual config.delay
              config.attempts ambient next msg config.maxRetries.toNat 1
                (config.delay * config.backoff) (some failure.actual)) t := by
  have first : (config.maxRetries + 1).toNat = config.maxRetries.toNat + 1 := by omega
  rw [retry, first, Retry.attempts, exec_tryCatch]
  rcases exec (next msg) s with ⟨ended, t⟩
  cases ended with
  | ok outputs => rfl
  | error abort =>
      cases abort with
      | cancelled => rfl
      | raised failure =>
          dsimp only
          split
          · rfl
          · rfl

/-- The middleware is one `try` around one call. -/
def Middleware.Tries {σ : Type} (middleware : Middleware σ) : Prop :=
  ∃ handle : Message → Abort → Effect Abort σ (List Message),
    ∀ next msg, middleware next msg = tryCatch (next msg) (handle msg)

theorem exec_of_tries {σ : Type} {middleware : Middleware σ} (tries : middleware.Tries)
    (next : HandlerFunc σ) (msg : Message) (s : σ) :
    exec (middleware next msg) s =
      caught (fun abort => middleware (fun _ => throw abort) msg) (exec (next msg) s) := by
  rcases tries with ⟨handle, each⟩
  rw [each, exec_tryCatch]
  rcases exec (next msg) s with ⟨ended, t⟩
  cases ended with
  | ok outputs => rfl
  | error abort =>
      rw [caught, each, exec_tryCatch, exec_throw]

theorem layer_cases (env : Environment τ) (msg : Message) (layer : Layer τ) :
    (∃ config, layer = .retry config) ∨
      ((layer.middleware env).Tries ∧
        layer.outward env msg = fun abort => layer.middleware env (fun _ => throw abort) msg) := by
  cases layer with
  | retry config => exact Or.inl ⟨config, rfl⟩
  | timeout config => exact Or.inr ⟨⟨_, fun _ _ => rfl⟩, rfl⟩
  | recoverer exception => exact Or.inr ⟨⟨_, fun _ _ => rfl⟩, rfl⟩
  | deadLetterQueue config => exact Or.inr ⟨⟨_, fun _ _ => rfl⟩, rfl⟩
  | poisonQueue config => exact Or.inr ⟨⟨_, fun _ _ => rfl⟩, rfl⟩

theorem exec_layer (next : HandlerFunc (Logged Happening τ)) (calls : layer.Calls)
    (s : Logged Happening τ)
    (once : ¬layer.CallsAgain env msg (exec (next msg) s)) :
    exec (layer.middleware env next msg) s =
      caught (layer.outward env msg) (exec (next msg) s) := by
  rcases layer_cases env msg layer with ⟨config, rfl⟩ | ⟨tries, same⟩
  · rw [Layer.middleware, exec_retry env.ambient.unlogged config.unlogged calls]
    generalize exec (next msg) s = result at once ⊢
    rcases result with ⟨ended, t⟩
    cases ended with
    | ok outputs => rfl
    | error abort =>
        cases abort with
        | cancelled => rfl
        | raised failure =>
            simp only [caught, Layer.outward]
            by_cases done : ¬config.shouldRetry failure ∨ config.maxRetries ≤ 0
            · rw [if_pos done, exec_throw]
              exact if_pos done
            · rw [if_neg done, exec_bind]
              refine (if_neg done).trans ?_
              rw [exec_bind]
              rw [not_or, not_not, Int.not_le] at done
              rw [Layer.CallsAgain] at once
              have failed := fun waited => once ⟨done.1, done.2, waited⟩
              have same : config.unlogged.delay = config.delay := rfl
              rw [same]
              generalize exec (config.unlogged.backOff env.ambient.unlogged msg 0 failure.actual
                config.delay) t = waited at failed ⊢
              rcases waited with ⟨ended, u⟩
              cases ended with
              | ok value => exact absurd rfl failed
              | error abort => rfl
  · rw [same]
    exact exec_of_tries tries next msg s

theorem attempts_of_calls {config : Retry τ} (calls : (Layer.retry config).Calls) :
    (config.unlogged.maxRetries + 1).toNat = config.maxRetries.toNat + 1 := by
  have nonneg : 0 ≤ config.maxRetries := calls
  have same : config.unlogged.maxRetries = config.maxRetries := rfl
  omega

theorem attempts_noFewer {config : Retry τ} {next : HandlerFunc (Logged Happening τ)}
    (keeps : ∀ other, Keeps NoFewer (next other)) (more : Nat) (attempt : Int) (currentDelay : ℚ)
    (last : Option Failure) (s : Logged Happening τ) :
    NoFewer (exec (next msg) s).2
      (exec (config.unlogged.attempts env.ambient.unlogged next msg (more + 1) attempt currentDelay
        last) s).2 := by
  apply attempts_after_first
  · exact onRetry_unlogged_keeps unlogged_noFewer
  · exact fun low high => unlogged_noFewer _
  · exact fun delay => unlogged_noFewer _
  · exact keeps

theorem layer_after_first (calls : layer.Calls) {next : HandlerFunc (Logged Happening τ)}
    (keeps : ∀ other, Keeps NoFewer (next other)) (s : Logged Happening τ) :
    NoFewer (exec (next msg) s).2 (exec (layer.middleware env next msg) s).2 := by
  rcases layer_cases env msg layer with ⟨config, rfl⟩ | ⟨tries, -⟩
  · rw [Layer.middleware, retry, attempts_of_calls calls]
    exact attempts_noFewer keeps _ _ _ _ s
  · rw [exec_of_tries tries]
    rcases exec (next msg) s with ⟨ended, t⟩
    cases ended with
    | ok outputs => exact refl_of NoFewer t
    | error abort => exact layer_noFewer layer _ (fun _ => keeps_throw abort) msg t

theorem layer_calls_again {next : HandlerFunc (Logged Happening τ)}
    (invokes : ∀ s, invocations s + 1 ≤ invocations (exec (next msg) s).2)
    (keeps : ∀ other, Keeps NoFewer (next other)) (s : Logged Happening τ)
    (again : layer.CallsAgain env msg (exec (next msg) s)) :
    invocations (exec (next msg) s).2 + 1 ≤
      invocations (exec (layer.middleware env next msg) s).2 := by
  cases layer with
  | retry config =>
      generalize made : exec (next msg) s = result at again
      rcases result with ⟨ended, t⟩
      cases ended with
      | ok outputs => exact again.elim
      | error abort =>
          cases abort with
          | cancelled => exact again.elim
          | raised failure =>
              rcases again with ⟨retried, positive, waited⟩
              have undone : ¬(¬config.unlogged.shouldRetry failure ∨
                  config.unlogged.maxRetries ≤ 0) := by
                rw [not_or, not_not, Int.not_le]
                exact ⟨retried, positive⟩
              rw [Layer.middleware,
                exec_retry env.ambient.unlogged config.unlogged (Int.le_of_lt positive), made]
              dsimp only
              rw [if_neg undone, exec_bind]
              have kept : NoFewer t (exec (config.unlogged.backOff env.ambient.unlogged msg 0
                  failure.actual config.delay) t).2 := by
                apply backOff_keeps
                · exact onRetry_unlogged_keeps unlogged_noFewer
                · exact fun low high => unlogged_noFewer _
                · exact fun delay => unlogged_noFewer _
              have same : config.unlogged.delay = config.delay := rfl
              rw [same]
              generalize exec (config.unlogged.backOff env.ambient.unlogged msg 0 failure.actual
                config.delay) t = result at waited kept ⊢
              rcases result with ⟨ended, u⟩
              cases waited
              dsimp only
              have more : config.unlogged.maxRetries.toNat = (config.maxRetries.toNat - 1) + 1 := by
                have bound : config.unlogged.maxRetries = config.maxRetries := rfl
                omega
              rw [more]
              calc
                invocations t + 1 ≤ invocations u + 1 := Nat.succ_le_succ kept
                _ ≤ invocations (exec (next msg) u).2 := invokes u
                _ ≤ _ := attempts_noFewer keeps _ _ _ _ u
  | timeout config => exact again.elim
  | recoverer exception => exact again.elim
  | deadLetterQueue config => exact again.elim
  | poisonQueue config => exact again.elim

end Invocations

section Run

variable {τ : Type} {env : Environment τ} {msg : Message} {func : HandlerFunc τ}
  {layers : List (Layer τ)}

theorem stack_noFewer (layers : List (Layer τ)) (msg : Message) :
    Keeps NoFewer (stack env layers func msg) := by
  apply foldr_keeps
  · intro middleware member
    rcases List.mem_map.mp member with ⟨layer, -, rfl⟩
    exact layer_noFewer layer
  · exact fun other s => Nat.le_of_lt (Nat.lt_of_lt_of_eq (Nat.lt_succ_self _)
      (invocations_attempt s).symm)

theorem stack_cons (layer : Layer τ) (inner : List (Layer τ)) :
    stack env (layer :: inner) func = layer.middleware env (stack env inner func) := rfl

theorem stack_invokes (calls : ∀ layer ∈ layers, layer.Calls) (s : Logged Happening τ) :
    invocations s + 1 ≤ invocations (exec (stack env layers func msg) s).2 := by
  induction layers with
  | nil => exact Nat.le_of_eq (invocations_attempt s).symm
  | cons layer inner ih =>
      have called := ih (fun other member => calls other (List.mem_cons_of_mem _ member))
      rw [stack_cons]
      exact Nat.le_trans called
        (layer_after_first (calls layer List.mem_cons_self) (stack_noFewer inner) s)

theorem outward_uninvoked (layer : Layer τ) (abort : Abort) :
    Keeps Uninvoked (layer.outward env msg abort) := by
  rcases layer_cases env msg layer with ⟨config, rfl⟩ | ⟨-, same⟩
  · cases abort with
    | cancelled => exact keeps_throw _
    | raised failure =>
        simp only [Layer.outward]
        split
        · exact keeps_throw _
        · apply Keeps.bind
          · apply backOff_keeps
            · exact onRetry_unlogged_keeps (fun _ _ => rfl)
            · exact fun low high s => rfl
            · exact fun delay s => rfl
          · exact fun _ => keeps_pure _
  · rw [same]
    exact layer_uninvoked layer _ (fun _ => keeps_throw abort) msg

theorem escape_uninvoked (first : Except Abort (List Message) × Logged Happening τ) :
    Uninvoked first.2 (escape env msg first layers).2 := by
  induction layers with
  | nil => exact refl_of Uninvoked first.2
  | cons layer inner ih =>
      rw [escape]
      generalize escape env msg first inner = result at ih ⊢
      rcases result with ⟨ended, t⟩
      cases ended with
      | ok outputs => exact ih
      | error abort => exact trans_of Uninvoked ih (outward_uninvoked layer abort t)

theorem exec_stack (calls : ∀ layer ∈ layers, layer.Calls) (s : Logged Happening τ)
    (unretried : Unretried env msg (exec (attempt func msg) s) layers) :
    exec (stack env layers func msg) s = escape env msg (exec (attempt func msg) s) layers := by
  induction layers with
  | nil => rfl
  | cons layer inner ih =>
      have later : ∀ other ∈ inner, other.Calls :=
        fun other member => calls other (List.mem_cons_of_mem _ member)
      have within := ih later unretried.1
      have once := unretried.2
      rw [← within] at once
      rw [stack_cons, exec_layer _ (calls layer List.mem_cons_self) s once, within, escape]

theorem stack_invokes_again (calls : ∀ layer ∈ layers, layer.Calls) (s : Logged Happening τ)
    (retried : ¬Unretried env msg (exec (attempt func msg) s) layers) :
    invocations s + 2 ≤ invocations (exec (stack env layers func msg) s).2 := by
  induction layers with
  | nil => exact absurd trivial retried
  | cons layer inner ih =>
      have later : ∀ other ∈ inner, other.Calls :=
        fun other member => calls other (List.mem_cons_of_mem _ member)
      rw [stack_cons]
      by_cases within : Unretried env msg (exec (attempt func msg) s) inner
      · have again : layer.CallsAgain env msg (exec (stack env inner func msg) s) := by
          rw [exec_stack later s within]
          by_contra once
          exact retried ⟨within, once⟩
        exact Nat.le_trans (Nat.succ_le_succ (stack_invokes later s))
          (layer_calls_again (stack_invokes later) (stack_noFewer inner) s again)
      · exact Nat.le_trans (ih later within)
          (layer_after_first (calls layer List.mem_cons_self) (stack_noFewer inner) s)

theorem invocations_stack_iff (calls : ∀ layer ∈ layers, layer.Calls) (s : Logged Happening τ) :
    invocations (exec (stack env layers func msg) s).2 ≤ invocations s + 1 ↔
      Unretried env msg (exec (attempt func msg) s) layers := by
  constructor
  · intro few
    by_contra retried
    have twice := stack_invokes_again calls s retried
    omega
  · intro unretried
    rw [exec_stack calls s unretried, ← escape_uninvoked, invocations_attempt]

theorem stack_uninvoked (uncalled : ∃ layer ∈ layers, ¬layer.Calls) (msg : Message) :
    Keeps Uninvoked (stack env layers func msg) := by
  induction layers generalizing msg with
  | nil =>
      rcases uncalled with ⟨layer, member, -⟩
      exact absurd member List.not_mem_nil
  | cons layer inner ih =>
      rw [stack_cons]
      by_cases calls : layer.Calls
      · apply layer_uninvoked layer
        apply ih
        rcases uncalled with ⟨other, member, silent⟩
        rcases List.mem_cons.mp member with same | within
        · exact absurd (same ▸ calls) silent
        · exact ⟨other, within, silent⟩
      · cases layer with
        | retry config =>
            have never : (config.unlogged.maxRetries + 1).toNat = 0 := by
              have negative : ¬0 ≤ config.unlogged.maxRetries := calls
              omega
            rw [Layer.middleware, retry, never]
            exact keeps_throw _
        | timeout config => exact absurd trivial calls
        | recoverer exception => exact absurd trivial calls
        | deadLetterQueue config => exact absurd trivial calls
        | poisonQueue config => exact absurd trivial calls

theorem wrap_stack (router own : List (Layer τ)) :
    wrap (router.map (Layer.middleware env)) (own.map (Layer.middleware env)) (attempt func) =
      stack env (router ++ own) func := by
  rw [wrap, stack, List.map_append, List.foldr_append]

theorem unretried_of_one_retry {outer : List (Layer τ)} (config : Retry τ) (cause : Failure)
    (s : Logged Happening τ) (others : ∀ layer ∈ outer, ∀ config, layer ≠ .retry config) :
    Unretried env msg (.error (.raised (.permanentError cause)), s) (outer ++ [.retry config]) := by
  induction outer with
  | nil => exact ⟨trivial, fun again => absurd again.1 nofun⟩
  | cons layer inner ih =>
      refine ⟨ih (fun other member => others other (List.mem_cons_of_mem _ member)), ?_⟩
      have other := others layer List.mem_cons_self
      cases layer with
      | retry config => exact absurd rfl (other config)
      | timeout config => exact id
      | recoverer exception => exact id
      | deadLetterQueue config => exact id
      | poisonQueue config => exact id

end Run

/-- The handler that has raised `PermanentError` is not invoked again exactly where no retry, as
the exception comes to it from the layers within, calls again. -/
theorem permanent_error_unretried_iff {τ : Type} (env : Environment τ) (router own : List (Layer τ))
    (func : HandlerFunc τ) (msg : Message) (rest after : τ) (cause : Failure)
    (raised : exec (func msg) rest = (.error (.raised (.permanentError cause)), after)) :
    invocations (exec (wrap (router.map (Layer.middleware env)) (own.map (Layer.middleware env))
        (attempt func) msg) ⟨[], rest⟩).2 ≤ 1 ↔
      (∃ layer ∈ router ++ own, ¬layer.Calls) ∨
        Unretried env msg (.error (.raised (.permanentError cause)),
          ⟨[.attempted (.error (.raised (.permanentError cause)))], after⟩) (router ++ own) := by
  have first : exec (attempt func msg) ⟨[], rest⟩ = (.error (.raised (.permanentError cause)),
      ⟨[.attempted (.error (.raised (.permanentError cause)))], after⟩) := by
    rw [attempt, exec_logged, raised]
    rfl
  rw [wrap_stack, ← first]
  by_cases uncalled : ∃ layer ∈ router ++ own, ¬layer.Calls
  · apply iff_of_true
    · rw [← stack_uninvoked uncalled msg ⟨[], rest⟩]
      exact Nat.zero_le 1
    · exact Or.inl uncalled
  · have calls : ∀ layer ∈ router ++ own, layer.Calls := by
      intro layer member
      by_contra silent
      exact uncalled ⟨layer, member, silent⟩
    exact (invocations_stack_iff calls ⟨[], rest⟩).trans (or_iff_right uncalled).symm

def invalidInput : Failure := .permanentError (.other (.valueError "Invalid input"))

def rejecting : HandlerFunc Unit := fun _ => throw (.raised invalidInput)

def defaultRetry : Retry Unit := ⟨3, 1, 2, 0, none, none⟩

def calm : Environment Unit where
  ambient := ⟨fun low _ => pure low, fun _ => pure (), fun _ => true, rfl⟩
  runtime := ⟨fun _ => pure [], fun _ => [], fun _ => pure [], pure 0⟩

def anyMessage : Message := ⟨[], [], 0, AckState.fresh⟩

theorem one_retry_invokes_once :
    invocations (exec (wrap ([.recoverer (fun _ => pure ())].map (Layer.middleware calm))
      ([.retry defaultRetry].map (Layer.middleware calm)) (attempt rejecting) anyMessage)
        ⟨[], ()⟩).2 ≤ 1 := by
  refine (permanent_error_unretried_iff calm [.recoverer (fun _ => pure ())] [.retry defaultRetry]
    rejecting anyMessage () () (.other (.valueError "Invalid input")) rfl).mpr (Or.inr ?_)
  apply unretried_of_one_retry defaultRetry
  intro layer member config same
  rw [List.mem_singleton.mp member] at same
  cases same

/-- The retry of the router sees the cause that the handler's own retry raises again. -/
theorem two_retries_invoke_again :
    exec (rejecting anyMessage) () = (.error (.raised invalidInput), ()) ∧
      invocations (exec (wrap ([.retry defaultRetry].map (Layer.middleware calm))
        ([.retry defaultRetry].map (Layer.middleware calm)) (attempt rejecting) anyMessage)
          ⟨[], ()⟩).2 = 4 := by
  exact ⟨rfl, rfl⟩

end Natricine.Router
