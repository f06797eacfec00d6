import Natricine.Library.Log
import Natricine.Router.Middleware

/-! `depends.py`: how the buses call a handler with its dependencies, and what they await. -/

namespace Natricine.Cqrs.Depends

open Effect Router Text

/-- What `asyncio.iscoroutinefunction` tells of a function, and beside it what its type does: the
others may return an awaitable, or return values only. -/
inductive Kind where
  | coroutineFunction
  | returnsAwaitable
  | returnsValue
  deriving DecidableEq, Repr

mutual

/-- A handler or a dependency. -/
inductive Func (φ : Type) where
  | mk (object : φ) (kind : Kind) (params : Params φ)

/-- The parameters of a signature; `depends` is one whose annotation or else default is a
`Depends`. -/
inductive Params (φ : Type) where
  | nil
  | plain (name : Str) (rest : Params φ)
  | depends (name : Str) (dependency : Func φ) (rest : Params φ)

end

namespace Func

variable {φ : Type}

def kind : Func φ → Kind
  | .mk _ kind _ => kind

def params : Func φ → Params φ
  | .mk _ _ params => params

end Func

/-- What a call returns. An awaitable does its work when it is awaited. -/
inductive Value (σ ν : Type) where
  | plain (value : ν)
  | awaitable (work : Effect Abort σ ν)

def Value.IsPlain {σ ν : Type} : Value σ ν → Prop
  | .plain _ => True
  | .awaitable _ => False

abbrev Args (σ ν : Type) := List (Str × Value σ ν)

abbrev Behaviour (φ σ ν : Type) := Func φ → Args σ ν → Effect Abort σ (Value σ ν)

inductive Event (φ σ ν : Type) where
  | called (func : Func φ) (args : Args σ ν)
  | returned (func : Func φ) (result : Except Abort (Value σ ν))
  | awaited (func : Func φ) (result : Except Abort ν)
  | acked
  | nacked

section Calls

variable {φ σ ν : Type} (behaviour : Behaviour φ σ ν)

def invoke (func : Func φ) (args : Args σ ν) :
    Effect Abort (Logged (Event φ σ ν) σ) (Value σ ν) := do
  note (.called func args)
  logged (.returned func) (behaviour func args)

def awaitValue (func : Func φ) : Value σ ν → Effect Abort (Logged (Event φ σ ν) σ) ν
  | .awaitable work => logged (.awaited func) work
  | .plain _ => throw (.raised (.other (.other "TypeError")))

def callFunc (func : Func φ) (args : Args σ ν) :
    Effect Abort (Logged (Event φ σ ν) σ) (Value σ ν) := do
  let value ← invoke behaviour func args
  if func.kind = .coroutineFunction then return .plain (← awaitValue func value)
  else return value

mutual

def resolveDependencies : Func φ → Args σ ν → Effect Abort (Logged (Event φ σ ν) σ) (Args σ ν)
  | .mk _ _ params, provided => resolveParams params provided

def resolveParams : Params φ → Args σ ν → Effect Abort (Logged (Event φ σ ν) σ) (Args σ ν)
  | .nil, resolved => pure resolved
  | .plain _ rest, resolved => resolveParams rest resolved
  | .depends name dependency rest, resolved =>
      if name ∈ resolved.map Prod.fst then resolveParams rest resolved
      else do
        let nested ← resolveDependencies dependency []
        let result ← callFunc behaviour dependency nested
        resolveParams rest (resolved ++ [(name, result)])

end

def callWithDeps (func : Func φ) (provided : Args σ ν) :
    Effect Abort (Logged (Event φ σ ν) σ) (Value σ ν) := do
  let resolved ← resolveDependencies behaviour func provided
  callFunc behaviour func resolved

theorem resolveParams_missing {name : Str} {resolved : Args σ ν}
    (missing : name ∉ resolved.map Prod.fst) (dependency : Func φ) (rest : Params φ) :
    resolveParams behaviour (.depends name dependency rest) resolved =
      callWithDeps behaviour dependency [] >>= fun result =>
        resolveParams behaviour rest (resolved ++ [(name, result)]) := by
  rw [resolveParams, if_neg missing, callWithDeps, bind_assoc]

end Calls

def Params.firstName {φ : Type} : Params φ → Option Str
  | .nil => none
  | .plain name _ => some name
  | .depends name _ _ => some name

/-- A message in the hands of a bus: the value of its payload and its two methods. -/
structure Delivery (σ ν : Type) where
  unmarshal : Effect Abort σ ν
  ack : Effect Abort σ Unit
  nack : Effect Abort σ Unit

section Process

variable {φ σ ν : Type}

/-- The `try` block of `_process_message`. -/
def handleMessage (behaviour : Behaviour φ σ ν) (handler : Func φ) (delivery : Delivery σ ν) :
    Effect Abort (Logged (Event φ σ ν) σ) Unit := do
  let value ← unlogged delivery.unmarshal
  match handler.params.firstName with
  | none => throw (.raised (.other (.other "StopIteration")))
  | some first =>
      let _ ← callWithDeps behaviour handler [(first, .plain value)]
      note .acked
      unlogged delivery.ack

def processMessage (behaviour : Behaviour φ σ ν) (handler : Func φ) (delivery : Delivery σ ν) :
    Effect Abort (Logged (Event φ σ ν) σ) Unit :=
  tryCatch (handleMessage behaviour handler delivery) fun
    | .raised failure => do
        note .nacked
        unlogged delivery.nack
        throw (.raised failure)
    | .cancelled => throw .cancelled

def eventsOf (behaviour : Behaviour φ σ ν) (handler : Func φ) (delivery : Delivery σ ν) (s : σ) :
    List (Event φ σ ν) :=
  (exec (processMessage behaviour handler delivery) ⟨[], s⟩).2.log

end Process

namespace Params

variable {φ : Type}

def dependencies : Params φ → List Str → List (Str × Func φ)
  | .nil, _ => []
  | .plain _ rest, names => rest.dependencies names
  | .depends name dependency rest, names =>
      if name ∈ names then rest.dependencies names
      else (name, dependency) :: rest.dependencies (names ++ [name])

theorem dependencies_of_given {name : Str} {names : List Str} (given : name ∈ names)
    (dependency : Func φ) (rest : Params φ) :
    (Params.depends name dependency rest).dependencies names = rest.dependencies names := by
  rw [dependencies, if_pos given]

theorem dependencies_of_fresh {name : Str} {names : List Str} (fresh : name ∉ names)
    (dependency : Func φ) (rest : Params φ) :
    (Params.depends name dependency rest).dependencies names =
      (name, dependency) :: rest.dependencies (names ++ [name]) := by
  rw [dependencies, if_neg fresh]

/-- The functions that are called to resolve the parameters, at every depth. -/
inductive Needs : Params φ → List Str → Func φ → Prop where
  | direct {params : Params φ} {names : List Str} {entry : Str × Func φ}
      (member : entry ∈ params.dependencies names) : Needs params names entry.2
  | deeper {params : Params φ} {names : List Str} {entry : Str × Func φ} {func : Func φ}
      (member : entry ∈ params.dependencies names) (needs : Needs entry.2.params [] func) :
      Needs params names func

theorem Needs.mono {params others : Params φ} {names known : List Str} {func : Func φ}
    (needs : Needs params names func)
    (sub : ∀ entry ∈ params.dependencies names, entry ∈ others.dependencies known) :
    Needs others known func := by
  cases needs with
  | direct member => exact .direct (sub _ member)
  | deeper member needs => exact .deeper (sub _ member) needs

theorem Needs.trans {params : Params φ} {names : List Str} {func inner : Func φ}
    (first : Needs params names func) (second : Needs func.params [] inner) :
    Needs params names inner := by
  induction first with
  | direct member => exact .deeper member second
  | deeper member needs ih => exact .deeper member (ih second)

theorem dependency_smaller {params : Params φ} {names : List Str} {entry : Str × Func φ}
    (member : entry ∈ params.dependencies names) : sizeOf entry.2 < sizeOf params := by
  induction params, names using dependencies.induct with
  | case1 names => cases member
  | case2 name rest names ih =>
      have smaller := ih member
      simp only [Params.plain.sizeOf_spec]
      omega
  | case3 name dependency rest names given ih =>
      rw [dependencies, if_pos given] at member
      have smaller := ih member
      simp only [Params.depends.sizeOf_spec]
      omega
  | case4 name dependency rest names fresh ih =>
      rw [dependencies, if_neg fresh] at member
      simp only [Params.depends.sizeOf_spec]
      rcases List.mem_cons.mp member with rfl | later
      · dsimp only
        omega
      · have smaller := ih later
        omega

theorem params_smaller (func : Func φ) : sizeOf func.params < sizeOf func := by
  rcases func with ⟨object, kind, params⟩
  simp only [Func.params, Func.mk.sizeOf_spec]
  omega

theorem Needs.smaller {params : Params φ} {names : List Str} {func : Func φ}
    (needs : Needs params names func) : sizeOf func < sizeOf params := by
  induction needs with
  | direct member => exact dependency_smaller member
  | @deeper params names entry func member needs ih =>
      have first := dependency_smaller member
      have second := params_smaller entry.2
      omega

end Params

end Natricine.Cqrs.Depends
