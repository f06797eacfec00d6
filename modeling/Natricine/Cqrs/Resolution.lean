import Natricine.Cqrs.Depends
import Natricine.Library.Acyclic

/-! The declarations that `resolve_dependencies` reads, and how the functions are called by them. -/

namespace Natricine.Cqrs.Depends

open Effect Graph Relation Router Text

/-- A default value, or what `Annotated` holds beside the type. -/
inductive Marker (φ : Type) where
  | depends (dependency : φ)
  | other

def Marker.dependency {φ : Type} : Marker φ → Option φ
  | .depends dependency => some dependency
  | .other => none

inductive Hint (φ : Type) where
  | annotated (metadata : List (Marker φ))
  | other

def getDependsFromAnnotation {φ : Type} : Hint φ → Option φ
  | .annotated metadata => metadata.findSome? Marker.dependency
  | .other => none

structure Annotation (φ : Type) where
  hint : Hint φ
  evaluable : Bool

structure Parameter (φ : Type) where
  name : Str
  default : Option (Marker φ)

/-- What Python keeps of a function's head; `annotations` holds that of the result too. -/
structure Signature (φ : Type) where
  kind : Kind
  parameters : List (Parameter φ)
  annotations : List (Str × Annotation φ)
  distinct : (parameters.map Parameter.name).Nodup

abbrev Program (φ : Type) := φ → Signature φ

namespace Signature

variable {φ : Type} (sig : Signature φ)

def Evaluable : Prop := ∀ entry ∈ sig.annotations, entry.2.evaluable = true

instance : Decidable sig.Evaluable := inferInstanceAs (Decidable (∀ entry ∈ _, _))

/-- `get_type_hints`, which raises where it cannot evaluate an annotation. -/
def getTypeHints : Option (List (Str × Hint φ)) :=
  if sig.Evaluable then some (sig.annotations.map fun entry => (entry.1, entry.2.hint)) else none

/-- The dependency that `resolve_dependencies` finds for a parameter. -/
def depends (param : Parameter φ) : Option φ :=
  let hints := sig.getTypeHints.getD []
  match (hints.lookup param.name).bind getDependsFromAnnotation with
  | some dependency => some dependency
  | none => param.default.bind Marker.dependency

def declares (param : Parameter φ) : Option φ :=
  ((sig.annotations.lookup param.name).bind fun annotation =>
    getDependsFromAnnotation annotation.hint) <|> param.default.bind Marker.dependency

def declaresEvaluably (param : Parameter φ) : Option φ :=
  if sig.Evaluable then sig.declares param else param.default.bind Marker.dependency

end Signature

def Func.object {φ : Type} : Func φ → φ
  | .mk object _ _ => object

abbrev Reading (φ : Type) := Signature φ → Parameter φ → Option φ

section Unfolding

variable {φ : Type} (reads : Reading φ) (program : Program φ)

def Signature.entries (sig : Signature φ) : List (Str × Option φ) :=
  sig.parameters.map fun param => (param.name, reads sig param)

def DependsOn (func dependency : φ) : Prop :=
  ∃ entry ∈ (program func).entries reads, entry.2 = some dependency

instance [DecidableEq φ] (func dependency : φ) :
    Decidable (DependsOn reads program func dependency) :=
  inferInstanceAs (Decidable (∃ entry ∈ _, _))

mutual

def Func.Unfolds : Func φ → φ → Prop
  | .mk object kind params, func =>
      object = func ∧ kind = (program func).kind ∧ params.Unfolds ((program func).entries reads)

def Params.Unfolds : Params φ → List (Str × Option φ) → Prop
  | .nil, entries => entries = []
  | .plain name rest, entries => ∃ later, entries = (name, none) :: later ∧ rest.Unfolds later
  | .depends name dependency rest, entries =>
      ∃ func later, entries = (name, some func) :: later ∧ dependency.Unfolds func ∧
        rest.Unfolds later

end

end Unfolding

mutual

def Func.order {φ : Type} : Func φ → List Str → List φ
  | .mk _ _ params, given => params.order given

def Params.order {φ : Type} : Params φ → List Str → List φ
  | .nil, _ => []
  | .plain _ rest, given => rest.order given
  | .depends name dependency rest, given =>
      if name ∈ given then rest.order given
      else dependency.order [] ++ dependency.object :: rest.order given

end

section Meaning

variable {φ σ ν : Type} (reads : Reading φ) (program : Program φ)
  (does : φ → Args σ ν → Effect Abort σ (Value σ ν))

def answer (func : φ) (args : Args σ ν) : Effect Abort σ ν := do
  match ← does func args with
  | .awaitable work => work
  | .plain value => return value

def missing (given : List Str) (entries : List (Str × Option φ)) : List (Str × φ) :=
  entries.filterMap fun entry =>
    if entry.1 ∈ given then none else entry.2.map fun dependency => (entry.1, dependency)

mutual

inductive Evaluates : φ → Args σ ν → σ → List (φ × Args σ ν) → Except Abort ν → σ → Prop where
  | invoked {func : φ} {provided bound : Args σ ν} {s t : σ} {calls : List (φ × Args σ ν)}
      (binds : Binds (missing (provided.map Prod.fst) ((program func).entries reads)) s calls
        (.ok bound) t) :
      Evaluates func provided s (calls ++ [(func, provided ++ bound)])
        (exec (answer does func (provided ++ bound)) t).1
        (exec (answer does func (provided ++ bound)) t).2
  | stopped {func : φ} {provided : Args σ ν} {s t : σ} {calls : List (φ × Args σ ν)} {e : Abort}
      (binds : Binds (missing (provided.map Prod.fst) ((program func).entries reads)) s calls
        (.error e) t) : Evaluates func provided s calls (.error e) t

inductive Binds :
    List (Str × φ) → σ → List (φ × Args σ ν) → Except Abort (Args σ ν) → σ → Prop where
  | nil {s : σ} : Binds [] s [] (.ok []) s
  | cons {name : Str} {dependency : φ} {rest : List (Str × φ)} {s t u : σ}
      {front back : List (φ × Args σ ν)} {value : ν} {result : Except Abort (Args σ ν)}
      (evaluates : Evaluates dependency [] s front (.ok value) t)
      (binds : Binds rest t back result u) :
      Binds ((name, dependency) :: rest) s (front ++ back)
        (result.map fun bound => (name, .plain value) :: bound) u
  | raised {name : Str} {dependency : φ} {rest : List (Str × φ)} {s t : σ}
      {calls : List (φ × Args σ ν)} {e : Abort}
      (evaluates : Evaluates dependency [] s calls (.error e) t) :
      Binds ((name, dependency) :: rest) s calls (.error e) t

end

def Callable (func : φ) : Prop :=
  (program func).kind ≠ .returnsAwaitable ∧
    ∀ args s value t, exec (does func args) s = (.ok value, t) →
      (value.IsPlain ↔ (program func).kind = .returnsValue)

def AllCallable (func : φ) : Prop :=
  ∀ other, ReflTransGen (DependsOn reads program) func other → Callable program does other

end Meaning

def callsOf {φ σ ν : Type} (log : List (Event φ σ ν)) : List (φ × Args σ ν) :=
  log.filterMap fun
    | .called func args => some (func.object, args)
    | _ => none

theorem callsOf_append {φ σ ν : Type} (front back : List (Event φ σ ν)) :
    callsOf (front ++ back) = callsOf front ++ callsOf back := List.filterMap_append

section Reading

variable {φ : Type} (sig : Signature φ) (param : Parameter φ)

theorem depends_eq_declaresEvaluably : sig.depends param = sig.declaresEvaluably param := by
  by_cases evaluable : sig.Evaluable
  · have found : ((sig.annotations.map fun entry => (entry.1, entry.2.hint)).lookup param.name) =
        (sig.annotations.lookup param.name).map Annotation.hint := by
      induction sig.annotations with
      | nil => rfl
      | cons entry rest ih =>
          rw [List.map_cons, List.lookup_cons, List.lookup_cons]
          cases param.name == entry.1 with
          | true => rfl
          | false => exact ih
    rw [Signature.depends, Signature.getTypeHints, if_pos evaluable, Option.getD_some, found,
      Signature.declaresEvaluably, if_pos evaluable, Signature.declares]
    cases sig.annotations.lookup param.name with
    | none => rfl
    | some annotation =>
        rw [Option.map_some, Option.bind_some, Option.bind_some]
        cases getDependsFromAnnotation annotation.hint with
        | none => rfl
        | some dependency => rfl
  · rw [Signature.depends, Signature.getTypeHints, if_neg evaluable, Signature.declaresEvaluably,
      if_neg evaluable]
    rfl

end Reading

section Tree

variable {φ : Type} {reads : Reading φ} {program : Program φ}

theorem exists_params (entries : List (Str × Option φ))
    (each : ∀ entry ∈ entries, ∀ func, entry.2 = some func →
      ∃ tree : Func φ, tree.Unfolds reads program func) :
    ∃ params : Params φ, params.Unfolds reads program entries := by
  induction entries with
  | nil => exact ⟨.nil, by rw [Params.Unfolds]⟩
  | cons entry rest ih =>
      rcases entry with ⟨name, declared⟩
      rcases ih (fun other member => each other (List.mem_cons_of_mem _ member)) with
        ⟨params, unfolds⟩
      cases declared with
      | none => exact ⟨.plain name params, by rw [Params.Unfolds]; exact ⟨rest, rfl, unfolds⟩⟩
      | some func =>
          rcases each _ List.mem_cons_self func rfl with ⟨tree, here⟩
          refine ⟨.depends name tree params, ?_⟩
          rw [Params.Unfolds]
          exact ⟨func, rest, rfl, here, unfolds⟩

theorem exists_tree {func : φ}
    (founded : Acc (fun dependency func => DependsOn reads program func dependency) func) :
    ∃ tree : Func φ, tree.Unfolds reads program func := by
  induction founded with
  | intro func _ ih =>
      have each : ∀ entry ∈ (program func).entries reads, ∀ dependency, entry.2 = some dependency →
          ∃ tree : Func φ, tree.Unfolds reads program dependency :=
        fun entry member dependency declared => ih dependency ⟨entry, member, declared⟩
      rcases exists_params _ each with ⟨params, unfolds⟩
      refine ⟨.mk func (program func).kind params, ?_⟩
      rw [Func.Unfolds]
      exact ⟨rfl, rfl, unfolds⟩

mutual

theorem Params.unfolds_unique (params : Params φ) {others : Params φ}
    {entries : List (Str × Option φ)} (first : params.Unfolds reads program entries)
    (second : others.Unfolds reads program entries) : params = others := by
  cases params with
  | nil =>
      rw [Params.Unfolds] at first
      rw [first] at second
      cases others <;> rw [Params.Unfolds] at second
      · rcases second with ⟨_, same, -⟩
        cases same
      · rcases second with ⟨_, _, same, -⟩
        cases same
  | plain name rest =>
      rw [Params.Unfolds] at first
      rcases first with ⟨later, rfl, unfolds⟩
      cases others <;> rw [Params.Unfolds] at second
      · cases second
      · rcases second with ⟨_, same, other⟩
        cases same
        rw [rest.unfolds_unique unfolds other]
      · rcases second with ⟨_, _, same, -⟩
        cases same
  | depends name dependency rest =>
      rw [Params.Unfolds] at first
      rcases first with ⟨func, later, rfl, here, unfolds⟩
      cases others <;> rw [Params.Unfolds] at second
      · cases second
      · rcases second with ⟨_, same, -⟩
        cases same
      · rcases second with ⟨_, _, same, there, other⟩
        cases same
        rw [dependency.unfolds_unique here there, rest.unfolds_unique unfolds other]

theorem Func.unfolds_unique (tree : Func φ) {other : Func φ} {func : φ}
    (first : tree.Unfolds reads program func) (second : other.Unfolds reads program func) :
    tree = other := by
  cases tree
  cases other
  rw [Func.Unfolds] at first second
  rcases first with ⟨rfl, rfl, first⟩
  rcases second with ⟨rfl, rfl, second⟩
  rw [Params.unfolds_unique _ first second]

end

theorem Func.Unfolds.object_eq {tree : Func φ} {func : φ}
    (unfolds : tree.Unfolds reads program func) : tree.object = func := by
  cases tree with
  | mk object kind params =>
      rw [Func.Unfolds] at unfolds
      exact unfolds.1

mutual

theorem Params.reached_of_mem_order (params : Params φ) {entries : List (Str × Option φ)}
    (unfolds : params.Unfolds reads program entries) {given : List Str} {other : φ}
    (member : other ∈ params.order given) :
    ∃ entry ∈ entries, ∃ func, entry.2 = some func ∧
      ReflTransGen (DependsOn reads program) func other := by
  cases params with
  | nil =>
      rw [Params.order] at member
      cases member
  | plain name rest =>
      rw [Params.order] at member
      rw [Params.Unfolds] at unfolds
      rcases unfolds with ⟨later, rfl, unfolds⟩
      rcases rest.reached_of_mem_order unfolds member with ⟨entry, inside, reached⟩
      exact ⟨entry, List.mem_cons_of_mem _ inside, reached⟩
  | depends name dependency rest =>
      rw [Params.Unfolds] at unfolds
      rcases unfolds with ⟨func, later, rfl, here, unfolds⟩
      rw [Params.order] at member
      have further : other ∈ rest.order given → ∃ entry ∈ (name, some func) :: later,
          ∃ func, entry.2 = some func ∧ ReflTransGen (DependsOn reads program) func other := by
        intro member
        rcases rest.reached_of_mem_order unfolds member with ⟨entry, inside, reached⟩
        exact ⟨entry, List.mem_cons_of_mem _ inside, reached⟩
      split at member
      · exact further member
      · rcases List.mem_append.mp member with below | others
        · exact ⟨_, List.mem_cons_self, func, rfl,
            (dependency.reached_of_mem_order here below).to_reflTransGen⟩
        · rcases List.mem_cons.mp others with same | others
          · refine ⟨_, List.mem_cons_self, func, rfl, ?_⟩
            rw [same, here.object_eq]
          · exact further others

theorem Func.reached_of_mem_order (tree : Func φ) {func : φ}
    (unfolds : tree.Unfolds reads program func) {given : List Str} {other : φ}
    (member : other ∈ tree.order given) : TransGen (DependsOn reads program) func other := by
  cases tree with
  | mk object kind params =>
      rw [Func.Unfolds] at unfolds
      rw [Func.order] at member
      rcases params.reached_of_mem_order unfolds.2.2 member with
        ⟨entry, inside, dependency, declared, reached⟩
      exact TransGen.head' ⟨entry, inside, declared⟩ reached

end

end Tree

section Order

variable {φ σ ν : Type} {reads : Reading φ} {program : Program φ}
  {does : φ → Args σ ν → Effect Abort σ (Value σ ν)}

/-- All are called, or the first ones up to one that raised. -/
def InOrder {α : Type} (order called : List φ) (result : Except Abort α) : Prop :=
  called = order ∨ called <+: order ∧ ∃ e, result = .error e

theorem InOrder.isPrefix {α : Type} {order called : List φ} {result : Except Abort α}
    (ordered : InOrder order called result) : called <+: order := by
  rcases ordered with same | ⟨first, -⟩
  · rw [same]
  · exact first

theorem InOrder.eq_of_ok {α : Type} {order called : List φ} {value : α}
    (ordered : InOrder order called (.ok value : Except Abort α)) : called = order := by
  rcases ordered with same | ⟨-, e, raised⟩
  · exact same
  · cases raised

theorem InOrder.append {α β : Type} {order called : List φ} {result : Except Abort α}
    (ordered : InOrder order called result) (front : List φ) (change : α → β) :
    InOrder (front ++ order) (front ++ called) (result.map change) := by
  rcases ordered with same | ⟨first, e, raised⟩
  · exact .inl (by rw [same])
  · exact .inr ⟨(List.prefix_append_right_inj front).mpr first, e, by rw [raised]; rfl⟩

theorem missing_cons (given : List Str) (name : Str) (declared : Option φ)
    (later : List (Str × Option φ)) :
    missing given ((name, declared) :: later) =
      match declared with
      | some func => if name ∈ given then missing given later
          else (name, func) :: missing given later
      | none => missing given later := by
  rw [missing, List.filterMap_cons]
  cases declared with
  | none => split <;> simp_all [missing]
  | some func => by_cases member : name ∈ given <;> simp [member, missing]

mutual

theorem Params.binds_inOrder (params : Params φ) {entries : List (Str × Option φ)}
    (unfolds : params.Unfolds reads program entries) {given : List Str} {s t : σ}
    {calls : List (φ × Args σ ν)} {result : Except Abort (Args σ ν)}
    (binds : Binds reads program does (missing given entries) s calls result t) :
    InOrder (params.order given) (calls.map Prod.fst) result := by
  cases params with
  | nil =>
      rw [Params.Unfolds] at unfolds
      rw [unfolds] at binds
      cases binds
      exact .inl (by rw [Params.order]; rfl)
  | plain name rest =>
      rw [Params.Unfolds] at unfolds
      rcases unfolds with ⟨later, rfl, unfolds⟩
      rw [missing_cons] at binds
      rw [Params.order]
      exact rest.binds_inOrder unfolds binds
  | depends name dependency rest =>
      rw [Params.Unfolds] at unfolds
      rcases unfolds with ⟨func, later, rfl, here, unfolds⟩
      rw [missing_cons] at binds
      rw [Params.order]
      by_cases member : name ∈ given
      · rw [if_pos member]
        dsimp only at binds
        rw [if_pos member] at binds
        exact rest.binds_inOrder unfolds binds
      · rw [if_neg member]
        dsimp only at binds
        rw [if_neg member] at binds
        have split : dependency.order [] ++ dependency.object :: rest.order given =
            (dependency.order [] ++ [func]) ++ rest.order given := by
          rw [here.object_eq, List.append_assoc, List.singleton_append]
        rw [split]
        cases binds with
        | raised evaluates =>
            have first := (dependency.evaluates_inOrder here evaluates).isPrefix
            exact .inr ⟨first.trans (List.prefix_append _ _), _, rfl⟩
        | cons evaluates binds =>
            have first := (dependency.evaluates_inOrder here evaluates).eq_of_ok
            have later := rest.binds_inOrder unfolds binds
            rw [List.map_append, first]
            exact later.append _ _

theorem Func.evaluates_inOrder (tree : Func φ) {func : φ}
    (unfolds : tree.Unfolds reads program func) {provided : Args σ ν} {s t : σ}
    {calls : List (φ × Args σ ν)} {result : Except Abort ν}
    (evaluates : Evaluates reads program does func provided s calls result t) :
    InOrder (tree.order (provided.map Prod.fst) ++ [func]) (calls.map Prod.fst) result := by
  cases tree with
  | mk object kind params =>
      rw [Func.Unfolds] at unfolds
      rw [Func.order]
      cases evaluates with
      | invoked binds =>
          have ordered := (params.binds_inOrder unfolds.2.2 binds).eq_of_ok
          exact .inl (by rw [List.map_append, ordered]; rfl)
      | stopped binds =>
          have first := (params.binds_inOrder unfolds.2.2 binds).isPrefix
          exact .inr ⟨first.trans (List.prefix_append _ _), _, rfl⟩

end

end Order

section Run

variable {φ σ ν : Type} {reads : Reading φ} {program : Program φ}
  {does : φ → Args σ ν → Effect Abort σ (Value σ ν)}

theorem exec_invoke (behaviour : Behaviour φ σ ν) (func : Func φ) (args : Args σ ν)
    (log : List (Event φ σ ν)) (s : σ) :
    exec (invoke behaviour func args) ⟨log, s⟩ =
      ((exec (behaviour func args) s).1,
        ⟨log ++ [.called func args, .returned func (exec (behaviour func args) s).1],
          (exec (behaviour func args) s).2⟩) := by
  rw [invoke, exec_bind, exec_note]
  dsimp only
  rw [exec_logged, List.append_assoc]
  rfl

theorem callFunc_answers (tree : Func φ) (kind : tree.kind = (program tree.object).kind)
    (callable : Callable program does tree.object) (args : Args σ ν) (log : List (Event φ σ ν))
    (s : σ) :
    ∃ later, exec (callFunc (fun func => does func.object) tree args) ⟨log, s⟩ =
        ((exec (answer does tree.object args) s).1.map .plain,
          ⟨log ++ later, (exec (answer does tree.object args) s).2⟩) ∧
      callsOf later = [(tree.object, args)] := by
  rcases callable with ⟨recognised, answers⟩
  rw [callFunc, exec_bind, exec_invoke, answer, exec_bind]
  rcases ran : exec (does tree.object args) s with ⟨result, t⟩
  cases result with
  | error e => exact ⟨_, rfl, rfl⟩
  | ok value =>
      have plain := answers args s value t ran
      rw [← kind] at recognised plain
      dsimp only
      cases value with
      | plain value =>
          have returns := plain.mp trivial
          rw [if_neg (by rw [returns]; decide)]
          exact ⟨_, rfl, rfl⟩
      | awaitable work =>
          have coroutine : tree.kind = .coroutineFunction := by
            cases same : tree.kind with
            | coroutineFunction => rfl
            | returnsAwaitable => exact absurd same recognised
            | returnsValue => exact (plain.mpr same).elim
          rw [if_pos coroutine, exec_bind, awaitValue, exec_logged]
          refine ⟨[.called tree args, .returned tree (.ok (.awaitable work)),
            .awaited tree (exec work t).1], ?_, rfl⟩
          dsimp only
          rw [List.append_assoc]
          rcases exec work t with ⟨ended, u⟩
          cases ended with
          | error e => rfl
          | ok value => rfl

theorem AllCallable.step {func dependency : φ} (callable : AllCallable reads program does func)
    (along : DependsOn reads program func dependency) :
    AllCallable reads program does dependency :=
  fun other reached => callable other (.head along reached)

theorem entries_distinct (reads : Reading φ) (sig : Signature φ) :
    ((sig.entries reads).map Prod.fst).Nodup := by
  rw [Signature.entries, List.map_map]
  exact sig.distinct

theorem known_added {resolved : Args σ ν} {given : List Str} {name : Str}
    {others : List (Str × Option φ)}
    (known : ∀ entry ∈ others, entry.1 ∈ resolved.map Prod.fst ↔ entry.1 ∈ given)
    (fresh : name ∉ others.map Prod.fst) (value : Value σ ν) :
    ∀ entry ∈ others, entry.1 ∈ (resolved ++ [(name, value)]).map Prod.fst ↔ entry.1 ∈ given := by
  intro entry member
  rw [List.map_append, List.mem_append, known entry member]
  apply or_iff_left
  intro same
  have here : entry.1 = name := List.mem_singleton.mp same
  rw [← here] at fresh
  exact fresh (List.mem_map_of_mem member)

theorem map_append_cons {ε : Type} (front : Args σ ν) (arg : Str × Value σ ν)
    (result : Except ε (Args σ ν)) :
    (result.map fun args => front ++ [arg] ++ args) =
      (result.map fun args => arg :: args).map fun args => front ++ args := by
  cases result with
  | error e => rfl
  | ok args => exact congrArg Except.ok (List.append_assoc front [arg] args)

mutual

theorem resolveParams_binds (params : Params φ) {entries : List (Str × Option φ)}
    (unfolds : params.Unfolds reads program entries)
    (callable : ∀ entry ∈ entries, ∀ func, entry.2 = some func →
      AllCallable reads program does func)
    (distinct : (entries.map Prod.fst).Nodup) {given : List Str} (resolved : Args σ ν)
    (known : ∀ entry ∈ entries, entry.1 ∈ resolved.map Prod.fst ↔ entry.1 ∈ given)
    (log : List (Event φ σ ν)) (s : σ) :
    ∃ later result t,
      exec (resolveParams (fun func => does func.object) params resolved) ⟨log, s⟩ =
        (result.map fun bound => resolved ++ bound, ⟨log ++ later, t⟩) ∧
      Binds reads program does (missing given entries) s (callsOf later) result t := by
  cases params with
  | nil =>
      rw [Params.Unfolds] at unfolds
      rw [unfolds]
      refine ⟨[], .ok [], s, ?_, .nil⟩
      rw [resolveParams, exec_pure, List.append_nil]
      exact congrArg (fun args => (Except.ok args, _)) (List.append_nil resolved).symm
  | plain name rest =>
      rw [Params.Unfolds] at unfolds
      rcases unfolds with ⟨others, rfl, unfolds⟩
      rw [resolveParams, missing_cons]
      exact resolveParams_binds rest unfolds (List.forall_mem_of_forall_mem_cons callable)
        (List.nodup_cons.mp distinct).2 resolved (List.forall_mem_of_forall_mem_cons known) log s
  | depends name dependency rest =>
      rw [Params.Unfolds] at unfolds
      rcases unfolds with ⟨func, others, rfl, here, unfolds⟩
      rcases List.forall_mem_cons.mp known with ⟨first, known⟩
      rcases List.nodup_cons.mp distinct with ⟨fresh, distinct⟩
      rcases List.forall_mem_cons.mp callable with ⟨dependable, callable⟩
      rw [missing_cons]
      dsimp only
      by_cases provided : name ∈ given
      · rw [if_pos provided, resolveParams, if_pos (first.mpr provided)]
        exact resolveParams_binds rest unfolds callable distinct resolved known log s
      · rw [if_neg provided, resolveParams_missing _ (mt first.mp provided), exec_bind]
        rcases callWithDeps_evaluates dependency here (dependable func rfl) [] log s with
          ⟨front, ended, t, ran, evaluates⟩
        rw [ran]
        cases ended with
        | error e => exact ⟨front, .error e, t, rfl, .raised evaluates⟩
        | ok value =>
            rcases resolveParams_binds rest unfolds callable distinct _
                (known_added known fresh (.plain value)) (log ++ front) t with
              ⟨back, result, u, continued, binds⟩
            rw [map_append_cons, List.append_assoc log] at continued
            refine ⟨front ++ back, _, u, continued, ?_⟩
            rw [callsOf_append]
            exact .cons evaluates binds

theorem callWithDeps_evaluates (tree : Func φ) {func : φ}
    (unfolds : tree.Unfolds reads program func) (callable : AllCallable reads program does func)
    (provided : Args σ ν) (log : List (Event φ σ ν)) (s : σ) :
    ∃ later result t,
      exec (callWithDeps (fun func => does func.object) tree provided) ⟨log, s⟩ =
        (result.map .plain, ⟨log ++ later, t⟩) ∧
      Evaluates reads program does func provided s (callsOf later) result t := by
  cases tree with
  | mk object kind params =>
      rw [Func.Unfolds] at unfolds
      rcases unfolds with ⟨rfl, same, unfolds⟩
      have resolves := resolveParams_binds params unfolds
        (fun entry member func declared => callable.step ⟨entry, member, declared⟩)
        (entries_distinct reads (program object)) provided (fun entry _ => Iff.rfl) log s
      rcases resolves with ⟨front, ended, t, ran, binds⟩
      rw [callWithDeps, exec_bind, resolveDependencies, ran]
      cases ended with
      | error e => exact ⟨front, .error e, t, rfl, .stopped binds⟩
      | ok bound =>
          have answers := callFunc_answers (.mk object kind params) same (callable object .refl)
            (provided ++ bound) (log ++ front) t
          rcases answers with ⟨back, called, calls⟩
          rw [List.append_assoc] at called
          have evaluates : Evaluates reads program does object provided s _ _ _ := .invoked binds
          have calls : callsOf front ++ [(object, provided ++ bound)] =
              callsOf (front ++ back) := by
            rw [callsOf_append, calls]
            rfl
          rw [calls] at evaluates
          exact ⟨front ++ back, _, _, called, evaluates⟩

end

end Run

section Calls

variable {φ σ ν : Type} (reads : Reading φ) (program : Program φ)
  (does : φ → Args σ ν → Effect Abort σ (Value σ ν))

/-- The call of a function does what is declared: it has the value that the declarations mean, and
calls what the tree of the declarations holds, in order, and last the function, which is not in
the tree. -/
def CallsByDeclarations (func : φ) (provided : Args σ ν) (s : σ) : Prop :=
  ∃ seen tree : Func φ, seen.Unfolds Signature.depends program func ∧
    tree.Unfolds reads program func ∧ ∃ log result t,
      exec (callWithDeps (fun func => does func.object) seen provided) ⟨[], s⟩ =
        (result.map .plain, ⟨log, t⟩) ∧
      Evaluates reads program does func provided s (callsOf log) result t ∧
      func ∉ tree.order (provided.map Prod.fst) ∧
      InOrder (tree.order (provided.map Prod.fst) ++ [func]) ((callsOf log).map Prod.fst) result

end Calls

/-- A function is called by the declarations of its parameters, annotations among them where those
of a function can all be evaluated. -/
theorem calls_by_declarations {φ σ ν : Type} {program : Program φ}
    {does : φ → Args σ ν → Effect Abort σ (Value σ ν)} {func : φ}
    (acyclic : Acyclic (DependsOn Signature.declaresEvaluably program) func)
    (callable : AllCallable Signature.declaresEvaluably program does func) (provided : Args σ ν)
    (s : σ) : CallsByDeclarations Signature.declaresEvaluably program does func provided s := by
  have same : (Signature.depends : Reading φ) = Signature.declaresEvaluably :=
    funext fun sig => funext (depends_eq_declaresEvaluably sig)
  rcases exists_tree acyclic.acc with ⟨tree, unfolds⟩
  rcases callWithDeps_evaluates tree unfolds callable provided [] s with
    ⟨log, result, t, ran, evaluates⟩
  refine ⟨tree, tree, ?_, unfolds, log, result, t, ran, evaluates, ?_, ?_⟩
  · rw [same]
    exact unfolds
  · exact fun member => acyclic.irreflexive func .refl (tree.reached_of_mem_order unfolds member)
  · exact tree.evaluates_inOrder unfolds evaluates

def idle {φ σ : Type} (program : Program φ) (func : φ) (_ : Args σ Unit) :
    Effect Abort σ (Value σ Unit) :=
  if (program func).kind = .coroutineFunction then pure (.awaitable (pure ()))
  else pure (.plain ())

theorem idle_callable {φ σ : Type} {program : Program φ} {func : φ}
    (kind : (program func).kind ≠ .returnsAwaitable) :
    Callable program (idle program : φ → Args σ Unit → _) func := by
  refine ⟨kind, ?_⟩
  intro args s value t ran
  rw [idle] at ran
  split at ran
  · next coroutine =>
      cases ran
      rw [coroutine]
      exact iff_of_false id (by decide)
  · next other =>
      cases ran
      refine iff_of_true trivial ?_
      cases same : (program func).kind with
      | coroutineFunction => exact absurd same other
      | returnsAwaitable => exact absurd same kind
      | returnsValue => rfl

def shared : Program (Fin 3)
  | 0 => ⟨.returnsValue, [], [], by decide⟩
  | 1 => ⟨.coroutineFunction, [⟨ofString "base", none⟩],
      [(ofString "base", ⟨.annotated [.depends 0], true⟩)], by decide⟩
  | 2 => ⟨.coroutineFunction, [⟨ofString "command", none⟩, ⟨ofString "value", some (.depends 1)⟩,
        ⟨ofString "base", none⟩],
      [(ofString "base", ⟨.annotated [.other, .depends 0], true⟩)], by decide⟩

theorem shared_called : CallsByDeclarations Signature.declaresEvaluably shared (idle shared) 2
    [(ofString "command", .plain ())] () := by
  apply calls_by_declarations
  · apply acyclic_of_rank Fin.val
    decide
  · have kinds : ∀ other, (shared other).kind ≠ .returnsAwaitable := by decide
    exact fun other _ => idle_callable (kinds other)

/-- A handler that has its tenant by `Annotated`, and a store whose type is known to type checkers
only. -/
def unevaluable : Program Bool
  | false => ⟨.returnsValue, [], [], by decide⟩
  | true => ⟨.coroutineFunction, [⟨ofString "command", none⟩, ⟨ofString "tenant", none⟩,
        ⟨ofString "store", some .other⟩],
      [(ofString "tenant", ⟨.annotated [.depends false], true⟩),
        (ofString "store", ⟨.other, false⟩)], by decide⟩

/-- The handler is called without its tenant. -/
theorem annotated_not_bound :
    Acyclic (DependsOn Signature.declares unevaluable) true ∧
      AllCallable Signature.declares unevaluable (idle (σ := Unit) unevaluable) true ∧
      ¬CallsByDeclarations Signature.declares unevaluable (idle unevaluable) true
        [(ofString "command", .plain ())] () := by
  refine ⟨?_, ?_, ?_⟩
  · apply acyclic_of_rank Bool.toNat
    decide
  · have kinds : ∀ other, (unevaluable other).kind ≠ .returnsAwaitable := by decide
    exact fun other _ => idle_callable (kinds other)
  · rintro ⟨seen, tree, seenUnfolds, unfolds, log, result, t, ran, -, -, ordered⟩
    let called : Func Bool := .mk true .coroutineFunction
      (.plain (ofString "command") (.plain (ofString "tenant") (.plain (ofString "store") .nil)))
    let declared : Func Bool := .mk true .coroutineFunction
      (.plain (ofString "command")
        (.depends (ofString "tenant") (.mk false .returnsValue .nil)
          (.plain (ofString "store") .nil)))
    have first : seen = called :=
      seen.unfolds_unique seenUnfolds ⟨rfl, rfl, _, rfl, _, rfl, _, rfl, rfl⟩
    have second : tree = declared :=
      tree.unfolds_unique unfolds
        ⟨rfl, rfl, _, rfl, _, _, rfl, ⟨rfl, rfl, rfl⟩, _, rfl, rfl⟩
    rw [first] at ran
    rw [second] at ordered
    have logged := congrArg (fun ended => (callsOf ended.2.log).map Prod.fst) ran
    dsimp only at logged
    rw [← logged] at ordered
    -- The handler is called, but its tenant is not.
    have ended := congrArg Prod.fst ran
    cases result with
    | error e => cases ended
    | ok value =>
        have all := ordered.eq_of_ok
        cases all

end Natricine.Cqrs.Depends
