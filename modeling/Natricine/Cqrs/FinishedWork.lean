import Natricine.Cqrs.Depends

namespace Natricine.Cqrs.Depends

open Effect Router Text

section Law

variable {φ σ ν : Type}

/-- `iscoroutinefunction` does not overlook an awaitable that the function may return. -/
def Recognised (func : Func φ) : Prop := func.kind ≠ .returnsAwaitable

def Declared (behaviour : Behaviour φ σ ν) : Prop :=
  ∀ func args s work t,
    exec (behaviour func args) s = (.ok (.awaitable work), t) → func.kind ≠ .returnsValue

def AcksFinished (func : Func φ) (events : List (Event φ σ ν)) : Prop :=
  ∀ before after, events = before ++ .acked :: after →
    ∀ work, .returned func (.ok (.awaitable work)) ∈ before →
      ∃ value, .awaited func (.ok value) ∈ before

def ReceivesAwaited (func : Func φ) (events : List (Event φ σ ν)) : Prop :=
  ∀ args, .called func args ∈ events → ∀ arg ∈ args, arg.2.IsPlain

end Law

section Recognised

variable {φ σ ν : Type} {behaviour : Behaviour φ σ ν} {looked : Func φ → Prop}

structure Sound (looked : Func φ → Prop) (events : List (Event φ σ ν)) : Prop where
  unacked : .acked ∉ events
  received : ∀ func, looked func → ReceivesAwaited func events

def Done (events : List (Event φ σ ν)) : Prop :=
  ∀ func, Recognised func → ∀ work, .returned func (.ok (.awaitable work)) ∈ events →
    ∃ value, .awaited func (.ok value) ∈ events

theorem Sound.nil : Sound looked ([] : List (Event φ σ ν)) :=
  ⟨List.not_mem_nil, fun _ _ _ none => absurd none List.not_mem_nil⟩

theorem Done.nil : Done ([] : List (Event φ σ ν)) :=
  fun _ _ _ none => absurd none List.not_mem_nil

theorem Sound.append {front back : List (Event φ σ ν)} (first : Sound looked front)
    (second : Sound looked back) : Sound looked (front ++ back) := by
  constructor
  · intro member
    rcases List.mem_append.mp member with before | after
    · exact first.unacked before
    · exact second.unacked after
  · intro func seen args member
    rcases List.mem_append.mp member with before | after
    · exact first.received func seen args before
    · exact second.received func seen args after

theorem Done.append {front back : List (Event φ σ ν)} (first : Done front) (second : Done back) :
    Done (front ++ back) := by
  intro func recognised work member
  rcases List.mem_append.mp member with before | after
  · rcases first func recognised work before with ⟨value, awaited⟩
    exact ⟨value, List.mem_append_left back awaited⟩
  · rcases second func recognised work after with ⟨value, awaited⟩
    exact ⟨value, List.mem_append_right front awaited⟩

/-- The calls of these functions are sound: what they need for their own parameters is
recognised. -/
def Served (looked : Func φ → Prop) (params : Params φ) (names : List Str) : Prop :=
  ∀ func, Params.Needs params names func → looked func →
    ∀ entry ∈ func.params.dependencies [], Recognised entry.2

theorem invoke_adds (declared : Declared behaviour) (func : Func φ) (args : Args σ ν) :
    Adds (fun result later => later = [.called func args, .returned func result] ∧
      ∀ work, result = .ok (.awaitable work) → func.kind ≠ .returnsValue)
      (invoke behaviour func args) := by
  apply adds_note_bind
  apply adds_logged
  intro s
  refine ⟨rfl, ?_⟩
  intro work returned
  exact declared func args s work (exec (behaviour func args) s).2 (Prod.ext returned rfl)

theorem awaitValue_adds (func : Func φ) (value : Value σ ν) :
    Adds (fun result later => (∃ ended, later = [.awaited func ended] ∧ result = ended) ∨
        later = [] ∧ ∃ e, result = .error e)
      (awaitValue func value : Effect Abort (Logged (Event φ σ ν) σ) ν) := by
  cases value with
  | awaitable work => exact adds_logged (fun s => Or.inl ⟨_, rfl, rfl⟩)
  | plain value => exact adds_throw (Or.inr ⟨rfl, _, rfl⟩)

theorem sound_call {func : Func φ} {args : Args σ ν}
    (plain : looked func → ∀ arg ∈ args, arg.2.IsPlain) {rest : List (Event φ σ ν)}
    (unacked : .acked ∉ rest) (uncalled : ∀ other args, .called other args ∉ rest) :
    Sound looked (.called func args :: rest) := by
  constructor
  · intro member
    exact unacked ((List.mem_cons.mp member).resolve_left nofun)
  · intro other seen others member
    rcases List.mem_cons.mp member with same | later
    · cases same
      exact plain seen
    · exact absurd later (uncalled other others)

theorem callFunc_adds (declared : Declared behaviour) (func : Func φ) (args : Args σ ν)
    (plain : looked func → ∀ arg ∈ args, arg.2.IsPlain) :
    Adds (fun result later => Sound looked later ∧
      ∀ value, result = .ok value → Done later ∧ (Recognised func → value.IsPlain))
      (callFunc behaviour func args) := by
  apply (invoke_adds declared func args).bind
  · intro value front holds
    rcases holds with ⟨rfl, answers⟩
    by_cases coroutine : func.kind = .coroutineFunction
    · rw [if_pos coroutine]
      apply (awaitValue_adds func value).bind
      · intro result back holds
        rcases holds with ⟨ended, rfl, rfl⟩ | ⟨-, e, same⟩
        · apply adds_pure
          refine ⟨sound_call plain (by simp) (by simp), ?_⟩
          intro other same
          refine ⟨?_, fun _ => ?_⟩
          · intro other recognised work member
            simp at member
            rw [member.1]
            exact ⟨result, by simp⟩
          · cases same
            exact trivial
        · cases same
      · intro e back holds
        refine ⟨?_, nofun⟩
        rcases holds with ⟨ended, rfl, -⟩ | ⟨rfl, -⟩
        · exact sound_call plain (by simp) (by simp)
        · exact sound_call plain (by simp) (by simp)
    · rw [if_neg coroutine]
      apply adds_pure
      refine ⟨sound_call plain (by simp) (by simp), ?_⟩
      intro other same
      cases same
      -- A function that is recognised and is no coroutine function returns values only.
      have values : Recognised func → value.IsPlain := by
        intro recognised
        cases value with
        | plain value => exact trivial
        | awaitable work =>
            have other := answers work rfl
            cases kind : func.kind with
            | coroutineFunction => exact absurd kind coroutine
            | returnsAwaitable => exact absurd kind recognised
            | returnsValue => exact absurd kind other
      refine ⟨?_, values⟩
      intro other recognised work member
      simp at member
      rcases member with ⟨rfl, rfl⟩
      exact (values recognised).elim
  · intro e front holds
    rw [holds.1]
    exact ⟨sound_call plain (by simp) (by simp), nofun⟩

def Resolves (looked : Func φ → Prop) (params : Params φ) (resolved : Args σ ν)
    (result : Except Abort (Args σ ν)) (later : List (Event φ σ ν)) : Prop :=
  Sound looked later ∧ ∀ args, result = .ok args → Done later ∧
    ((∀ entry ∈ params.dependencies (resolved.map Prod.fst), Recognised entry.2) →
      (∀ arg ∈ resolved, arg.2.IsPlain) → ∀ arg ∈ args, arg.2.IsPlain)

mutual

theorem resolveParams_adds (declared : Declared behaviour) (params : Params φ)
    (resolved : Args σ ν) (served : Served looked params (resolved.map Prod.fst)) :
    Adds (Resolves looked params resolved) (resolveParams behaviour params resolved) := by
  cases params with
  | nil =>
      rw [resolveParams]
      apply adds_pure
      refine ⟨Sound.nil, ?_⟩
      intro args same
      cases same
      exact ⟨Done.nil, fun _ plain => plain⟩
  | plain name rest =>
      rw [resolveParams]
      exact resolveParams_adds declared rest resolved
        (fun func needs => served func (needs.mono (fun entry member => member)))
  | depends name dependency rest =>
      by_cases given : name ∈ resolved.map Prod.fst
      · rw [resolveParams, if_pos given]
        have same := Params.dependencies_of_given given dependency rest
        have adds := resolveParams_adds declared rest resolved
          (fun func needs => served func (needs.mono (fun entry member => same.symm ▸ member)))
        apply adds.mono
        intro result later holds
        rw [Resolves, same]
        exact holds
      · have same := Params.dependencies_of_fresh given dependency rest
        have names : (name, dependency) ∈
            (Params.depends name dependency rest).dependencies (resolved.map Prod.fst) := by
          rw [same]
          exact List.mem_cons_self
        rw [resolveParams_missing behaviour given]
        have called := callWithDeps_adds declared dependency []
          (fun func needs => served func (.deeper names needs))
          (served dependency (.direct names)) nofun
        apply called.bind
        · intro value front holds
          rcases holds with ⟨sound, made⟩
          rcases made value rfl with ⟨done, awaited⟩
          have known : (resolved ++ [(name, value)]).map Prod.fst =
              resolved.map Prod.fst ++ [name] := by
            rw [List.map_append, List.map_cons, List.map_nil]
          have later := resolveParams_adds declared rest (resolved ++ [(name, value)])
            (by
              intro func needs
              apply served func (needs.mono _)
              intro entry member
              rw [known] at member
              rw [same]
              exact List.mem_cons_of_mem _ member)
          apply later.mono
          intro result back holds
          refine ⟨sound.append holds.1, ?_⟩
          intro all ended
          rcases holds.2 all ended with ⟨finished, kept⟩
          refine ⟨done.append finished, ?_⟩
          intro recognised each
          rw [same] at recognised
          rw [known] at kept
          apply kept (fun entry member => recognised entry (List.mem_cons_of_mem _ member))
          intro arg member
          rcases List.mem_append.mp member with before | last
          · exact each arg before
          · rw [List.mem_singleton.mp last]
            exact awaited (recognised (name, dependency) List.mem_cons_self)
        · exact fun e front holds => ⟨holds.1, nofun⟩

theorem callWithDeps_adds (declared : Declared behaviour) (func : Func φ) (provided : Args σ ν)
    (served : Served looked func.params (provided.map Prod.fst))
    (own : looked func →
      ∀ entry ∈ func.params.dependencies (provided.map Prod.fst), Recognised entry.2)
    (plain : ∀ arg ∈ provided, arg.2.IsPlain) :
    Adds (fun result later => Sound looked later ∧
      ∀ value, result = .ok value → Done later ∧ (Recognised func → value.IsPlain))
      (callWithDeps behaviour func provided) := by
  cases func with
  | mk object kind params =>
      rw [callWithDeps, resolveDependencies]
      apply (resolveParams_adds declared params provided served).bind
      · intro args front holds
        rcases holds with ⟨sound, returned⟩
        rcases returned args rfl with ⟨done, kept⟩
        apply (callFunc_adds declared _ args (fun seen => kept (own seen) plain)).mono
        intro result back holds
        refine ⟨sound.append holds.1, ?_⟩
        intro value same
        rcases holds.2 value same with ⟨complete, awaited⟩
        exact ⟨done.append complete, awaited⟩
      · exact fun e front holds => ⟨holds.1, nofun⟩

end

/-- Before the message is acked, if it is, all is sound and done. The handler has a first
parameter then. -/
def Ended (handler : Func φ) (looked : Func φ → Prop) (events : List (Event φ σ ν)) : Prop :=
  Sound looked events ∨ ∃ front back first, events = front ++ .acked :: back ∧
    handler.params.firstName = some first ∧ Sound looked front ∧ Done front ∧ Sound looked back

theorem Ended.finishes {handler : Func φ} {events : List (Event φ σ ν)}
    (ended : Ended handler looked events)
    (recognised : ∀ first ∈ handler.params.firstName, Recognised handler) :
    AcksFinished handler events := by
  intro before after split
  rcases ended with sound | ⟨front, back, first, same, named, sound, done, later⟩
  · rw [split] at sound
    exact absurd (List.mem_append_right before List.mem_cons_self) sound.unacked
  · have whole : front = before := by
      rw [same] at split
      exact ((List.append_cons_inj_of_notMem sound.unacked later.unacked).mp split).1
    rw [← whole]
    exact done handler (recognised first named)

theorem Ended.receives {handler : Func φ} {events : List (Event φ σ ν)}
    (ended : Ended handler looked events) {func : Func φ} (seen : looked func) :
    ReceivesAwaited func events := by
  rcases ended with sound | ⟨front, back, -, rfl, -, first, -, second⟩
  · exact sound.received func seen
  · intro args member
    rcases List.mem_append.mp member with before | rest
    · exact first.received func seen args before
    · exact second.received func seen args ((List.mem_cons.mp rest).resolve_left nofun)

theorem handleMessage_adds (declared : Declared behaviour) {handler : Func φ}
    (needed : ∀ first ∈ handler.params.firstName, Served looked handler.params [first])
    (own : ∀ first ∈ handler.params.firstName, looked handler →
      ∀ entry ∈ handler.params.dependencies [first], Recognised entry.2)
    (delivery : Delivery σ ν) :
    Adds (fun _ later => Ended handler looked later)
      (handleMessage behaviour handler delivery) := by
  have read : Adds (fun _ later => later = [])
      (unlogged delivery.unmarshal : Effect Abort (Logged (Event φ σ ν) σ) ν) :=
    adds_unlogged (fun _ => rfl)
  apply read.bind
  · intro value front empty
    rw [empty]
    cases named : handler.params.firstName with
    | none => exact adds_throw (Or.inl Sound.nil)
    | some first =>
        have called := callWithDeps_adds declared handler [(first, .plain value)]
          (needed first named) (own first named) (by
            intro arg member
            rw [List.mem_singleton.mp member]
            exact trivial)
        apply called.bind
        · intro returned front holds
          apply adds_note_bind
          apply adds_unlogged
          intro result
          exact Or.inr ⟨front, [], first, rfl, named, holds.1, (holds.2 returned rfl).1, Sound.nil⟩
        · intro e front holds
          exact Or.inl holds.1
  · intro e front empty
    rw [empty]
    exact Or.inl Sound.nil

theorem Ended.append {handler : Func φ} {front back : List (Event φ σ ν)}
    (ended : Ended handler looked front) (later : Sound looked back) :
    Ended handler looked (front ++ back) := by
  rcases ended with sound | ⟨early, rest, first, rfl, named, sound, done, after⟩
  · exact Or.inl (sound.append later)
  · refine Or.inr ⟨early, rest ++ back, first, ?_, named, sound, done, after.append later⟩
    rw [List.append_assoc, List.cons_append]

theorem eventsOf_ended (declared : Declared behaviour) {handler : Func φ}
    (needed : ∀ first ∈ handler.params.firstName, Served looked handler.params [first])
    (own : ∀ first ∈ handler.params.firstName, looked handler →
      ∀ entry ∈ handler.params.dependencies [first], Recognised entry.2)
    (delivery : Delivery σ ν) (s : σ) :
    Ended handler looked (eventsOf behaviour handler delivery s) := by
  have adds : Adds (fun _ later => Ended handler looked later)
      (processMessage behaviour handler delivery) := by
    apply (handleMessage_adds declared needed own delivery).tryCatch
    · exact fun _ _ ended => ended
    · intro abort front ended
      have silent : Sound looked ([] : List (Event φ σ ν)) := Sound.nil
      cases abort with
      | cancelled => exact adds_throw (ended.append silent)
      | raised failure =>
          have nacks : Sound looked [(Event.nacked : Event φ σ ν)] :=
            ⟨by simp, fun _ _ _ member => absurd (List.mem_singleton.mp member) nofun⟩
          apply adds_note_bind
          have left : Adds (fun (_ : Except Abort Unit) later => later = [])
              (unlogged delivery.nack : Effect Abort (Logged (Event φ σ ν) σ) Unit) :=
            adds_unlogged (fun _ => rfl)
          apply left.bind
          · intro _ back empty
            rw [empty]
            exact adds_throw (ended.append nacks)
          · intro e back empty
            rw [empty]
            exact ended.append nacks
  rcases adds ⟨[], s⟩ with ⟨later, added, ended⟩
  rw [List.nil_append] at added
  rw [eventsOf, added]
  exact ended

end Recognised

section Eager

variable {φ σ ν : Type} [Inhabited ν]

def eager : Behaviour φ σ ν := fun func _ =>
  pure (if func.kind = .returnsValue then .plain default else .awaitable (pure default))

def eagerResult (func : Func φ) : Value σ ν :=
  if func.kind = .returnsAwaitable then .awaitable (pure default) else .plain default

theorem eager_declared : Declared (eager : Behaviour φ σ ν) := by
  intro func args s work t returned value
  rw [eager, if_pos value] at returned
  cases returned

theorem recognised_of_plain {func : Func φ}
    (plain : (eagerResult func : Value σ ν).IsPlain) : Recognised func := by
  intro overlooked
  rw [eagerResult, if_pos overlooked] at plain
  exact plain

def OnlyCoroutines (events : List (Event φ σ ν)) : Prop :=
  ∀ func result, .awaited func result ∈ events → func.kind = .coroutineFunction

omit [Inhabited ν] in
theorem OnlyCoroutines.append {front back : List (Event φ σ ν)} (first : OnlyCoroutines front)
    (second : OnlyCoroutines back) : OnlyCoroutines (front ++ back) := by
  intro func result member
  rcases List.mem_append.mp member with before | after
  · exact first func result before
  · exact second func result after

def CalledWith (names : List Str) (func : Func φ) (events : List (Event φ σ ν)) : Prop :=
  ∃ args, .called func args ∈ events ∧
    ∀ entry ∈ func.params.dependencies names, (entry.1, eagerResult entry.2) ∈ args

theorem callFunc_eager (func : Func φ) (args : Args σ ν) :
    Adds (fun result later => result = .ok (eagerResult func) ∧ .called func args ∈ later ∧
        OnlyCoroutines later ∧ (func.kind = .returnsAwaitable →
          .returned func (.ok (.awaitable (pure default))) ∈ later))
      (callFunc eager func args) := by
  have invoked : Adds (fun result later => later = [.called func args, .returned func result] ∧
      result = .ok
        (if func.kind = .returnsValue then .plain default else .awaitable (pure default)))
      (invoke eager func args : Effect Abort (Logged (Event φ σ ν) σ) (Value σ ν)) := by
    apply adds_note_bind
    apply adds_logged
    intro s
    exact ⟨rfl, rfl⟩
  apply invoked.bind
  · intro value front holds
    rcases holds with ⟨rfl, same⟩
    cases same
    cases kind : func.kind with
    | coroutineFunction =>
        rw [if_neg nofun, if_pos rfl]
        have awaited : Adds (fun (result : Except Abort ν) later => result = .ok default ∧
            later = [Event.awaited func (.ok default)])
            (awaitValue func (.awaitable (pure default)) :
              Effect Abort (Logged (Event φ σ ν) σ) ν) := adds_logged (fun s => ⟨rfl, rfl⟩)
        apply awaited.bind
        · intro value back holds
          rcases holds with ⟨same, rfl⟩
          cases same
          apply adds_pure
          refine ⟨?_, List.mem_cons_self, ?_, nofun⟩
          · rw [eagerResult, if_neg (by rw [kind]; exact nofun)]
          · intro other result member
            simp at member
            rw [member.1, kind]
        · exact fun e back holds => absurd holds.1 nofun
    | returnsAwaitable =>
        rw [if_neg nofun, if_neg nofun]
        apply adds_pure
        refine ⟨?_, List.mem_cons_self, ?_, fun _ => List.mem_cons_of_mem _ List.mem_cons_self⟩
        · rw [eagerResult, if_pos kind]
        · intro other result member
          simp at member
    | returnsValue =>
        rw [if_pos rfl, if_neg nofun]
        apply adds_pure
        refine ⟨?_, List.mem_cons_self, ?_, nofun⟩
        · rw [eagerResult, if_neg (by rw [kind]; exact nofun)]
        · intro other result member
          simp at member
  · exact fun e front holds => absurd holds.2 nofun

/-- The loop adds what every dependency is good for, and all that are needed have been called with
the same. -/
def Feeds (params : Params φ) (resolved : Args σ ν) (result : Except Abort (Args σ ν))
    (later : List (Event φ σ ν)) : Prop :=
  OnlyCoroutines later ∧
    (∀ func, Params.Needs params (resolved.map Prod.fst) func → CalledWith [] func later) ∧
    ∃ args, result = .ok args ∧ (∀ arg ∈ resolved, arg ∈ args) ∧
      ∀ entry ∈ params.dependencies (resolved.map Prod.fst), (entry.1, eagerResult entry.2) ∈ args

theorem CalledWith.mono {names : List Str} {func : Func φ} {events others : List (Event φ σ ν)}
    (called : CalledWith names func events) (sub : ∀ event ∈ events, event ∈ others) :
    CalledWith names func others := by
  rcases called with ⟨args, member, each⟩
  exact ⟨args, sub _ member, each⟩

mutual

theorem resolveParams_eager (params : Params φ) (resolved : Args σ ν) :
    Adds (Feeds params resolved) (resolveParams eager params resolved) := by
  cases params with
  | nil =>
      rw [resolveParams]
      apply adds_pure
      refine ⟨fun _ _ none => absurd none List.not_mem_nil, ?_, resolved, rfl, fun _ => id, nofun⟩
      intro func needs
      cases needs with
      | direct member => cases member
      | deeper member _ => cases member
  | plain name rest =>
      rw [resolveParams]
      apply (resolveParams_eager rest resolved).mono
      intro result later holds
      refine ⟨holds.1, ?_, holds.2.2⟩
      intro func needs
      exact holds.2.1 func (needs.mono (fun entry member => member))
  | depends name dependency rest =>
      by_cases given : name ∈ resolved.map Prod.fst
      · rw [resolveParams, if_pos given]
        have same := Params.dependencies_of_given given dependency rest
        apply (resolveParams_eager rest resolved).mono
        intro result later holds
        rw [Feeds, same]
        refine ⟨holds.1, ?_, holds.2.2⟩
        intro func needs
        exact holds.2.1 func (needs.mono (fun entry member => same ▸ member))
      · have same := Params.dependencies_of_fresh given dependency rest
        rw [resolveParams_missing eager given]
        apply (callWithDeps_eager dependency []).bind
        · intro value front holds
          rcases holds with ⟨ended, only, called, inner, -⟩
          cases ended
          have known : (resolved ++ [(name, (eagerResult dependency : Value σ ν))]).map Prod.fst =
              resolved.map Prod.fst ++ [name] := by
            rw [List.map_append, List.map_cons, List.map_nil]
          apply (resolveParams_eager rest (resolved ++ [(name, eagerResult dependency)])).mono
          intro result back holds
          rcases holds with ⟨onlyLater, needed, args, ended, kept, others⟩
          rw [known] at needed others
          refine ⟨only.append onlyLater, ?_, args, ended, ?_, ?_⟩
          · intro func needs
            have left : ∀ event ∈ front, event ∈ front ++ back :=
              fun event member => List.mem_append_left _ member
            have right : ∀ event ∈ back, event ∈ front ++ back :=
              fun event member => List.mem_append_right _ member
            cases needs with
            | direct member =>
                rw [same] at member
                rcases List.mem_cons.mp member with rfl | later
                · exact called.mono left
                · exact (needed _ (.direct later)).mono right
            | deeper member needs =>
                rw [same] at member
                rcases List.mem_cons.mp member with rfl | later
                · exact (inner func needs).mono left
                · exact (needed func (.deeper later needs)).mono right
          · exact fun arg member => kept arg (List.mem_append_left _ member)
          · intro entry member
            rw [same] at member
            rcases List.mem_cons.mp member with first | later
            · rw [first]
              exact kept _ (List.mem_append_right _ (List.mem_singleton_self _))
            · exact others entry later
        · exact fun e front holds => absurd holds.1 nofun

theorem callWithDeps_eager (func : Func φ) (provided : Args σ ν) :
    Adds (fun result later => result = .ok (eagerResult func) ∧ OnlyCoroutines later ∧
        CalledWith (provided.map Prod.fst) func later ∧
        (∀ other, Params.Needs func.params (provided.map Prod.fst) other →
          CalledWith [] other later) ∧
        (func.kind = .returnsAwaitable →
          .returned func (.ok (.awaitable (pure default))) ∈ later))
      (callWithDeps eager func provided) := by
  cases func with
  | mk object kind params =>
      rw [callWithDeps, resolveDependencies]
      apply (resolveParams_eager params provided).bind
      · intro args front holds
        rcases holds with ⟨only, needed, all, ended, -, own⟩
        cases ended
        apply (callFunc_eager (.mk object kind params) args).mono
        intro result back holds
        rcases holds with ⟨ended, called, onlyThere, returned⟩
        refine ⟨ended, only.append onlyThere, ⟨args, List.mem_append_right _ called, own⟩, ?_, ?_⟩
        · exact fun other needs =>
            (needed other needs).mono (fun event member => List.mem_append_left _ member)
        · exact fun awaitable => List.mem_append_right _ (returned awaitable)
      · intro e front holds
        rcases holds with ⟨-, -, args, ended, -⟩
        cases ended

end

def smooth : Delivery σ ν := ⟨pure default, pure (), pure ()⟩

/-- Every function of the handler's tree has been called, and nothing but coroutine functions
awaited. -/
structure Fed (handler : Func φ) (first : Str) (events : List (Event φ σ ν)) : Prop where
  only : OnlyCoroutines events
  own : CalledWith [first] handler events
  needed : ∀ func, Params.Needs handler.params [first] func → CalledWith [] func events
  returned : handler.kind = .returnsAwaitable →
    .returned handler (.ok (.awaitable (pure default))) ∈ events

theorem eventsOf_eager {handler : Func φ} {first : Str}
    (named : handler.params.firstName = some first) (s : σ) :
    ∃ front, eventsOf eager handler (smooth : Delivery σ ν) s = front ++ [.acked] ∧
      Fed handler first front := by
  have handles : Adds (fun result later => result = .ok () ∧
      ∃ front, later = front ++ [.acked] ∧ Fed handler first front)
      (handleMessage eager handler (smooth : Delivery σ ν)) := by
    have read : Adds (fun result later => result = .ok default ∧ later = [])
        (unlogged (pure default) : Effect Abort (Logged (Event φ σ ν) σ) ν) :=
      fun s => ⟨[], (List.append_nil s.log).symm, rfl, rfl⟩
    apply read.bind
    · intro value front holds
      rcases holds with ⟨same, rfl⟩
      cases same
      rw [named]
      apply (callWithDeps_eager handler [(first, .plain default)]).bind
      · intro value front holds
        rcases holds with ⟨-, only, own, needed, returned⟩
        apply adds_note_bind
        intro t
        exact ⟨[], (List.append_nil t.log).symm, rfl, front, rfl, only, own, needed, returned⟩
      · exact fun e front holds => absurd holds.1 nofun
    · exact fun e front holds => absurd holds.1 nofun
  have processes : Adds (fun _ later =>
      ∃ front, later = front ++ [.acked] ∧ Fed handler first front)
      (processMessage eager handler (smooth : Delivery σ ν)) := by
    apply handles.tryCatch
    · exact fun _ _ holds => holds.2
    · exact fun e front holds => absurd holds.1 nofun
  rcases processes ⟨[], s⟩ with ⟨later, added, holds⟩
  rw [List.nil_append] at added
  rw [eventsOf, added]
  exact holds

end Eager

section Finished

variable {φ σ ν : Type} {handler : Func φ} {looked : Func φ → Prop}

/-- A bus acks only finished work of the handler, and the functions that are looked at receive
awaited values, whatever all functions do within their types. -/
def FinishedOnly (σ ν : Type) (handler : Func φ) (looked : Func φ → Prop) : Prop :=
  ∀ behaviour : Behaviour φ σ ν, Declared behaviour → ∀ (delivery : Delivery σ ν) (s : σ),
    AcksFinished handler (eventsOf behaviour handler delivery s) ∧
      ∀ func, looked func → ReceivesAwaited func (eventsOf behaviour handler delivery s)

theorem CalledWith.recognised [Inhabited ν] {names : List Str} {func : Func φ}
    {events : List (Event φ σ ν)} (called : CalledWith names func events)
    (received : ReceivesAwaited func events) :
    ∀ entry ∈ func.params.dependencies names, Recognised entry.2 := by
  rcases called with ⟨args, member, each⟩
  intro entry needed
  exact recognised_of_plain (received args member _ (each entry needed))

theorem recognised_of_finished [Inhabited σ] [Inhabited ν]
    (finished : FinishedOnly σ ν handler looked) {first : Str}
    (named : handler.params.firstName = some first) :
    Recognised handler ∧
      (looked handler → ∀ entry ∈ handler.params.dependencies [first], Recognised entry.2) ∧
      Served looked handler.params [first] := by
  have whole := finished (eager : Behaviour φ σ ν) eager_declared smooth (default : σ)
  rcases eventsOf_eager (ν := ν) named (default : σ) with ⟨front, events, fed⟩
  rw [events] at whole
  rcases whole with ⟨acks, receives⟩
  have within : ∀ func, looked func → ReceivesAwaited func front :=
    fun func seen args member => receives func seen args (List.mem_append_left _ member)
  refine ⟨?_, ?_, ?_⟩
  · intro overlooked
    rcases acks front [] rfl _ (fed.returned overlooked) with ⟨value, awaited⟩
    rw [fed.only handler _ awaited] at overlooked
    cases overlooked
  · exact fun seen => fed.own.recognised (within handler seen)
  · exact fun func needs seen => (fed.needed func needs).recognised (within func seen)

theorem finished_of_recognised
    (recognised : ∀ first ∈ handler.params.firstName, Recognised handler ∧
      (looked handler → ∀ entry ∈ handler.params.dependencies [first], Recognised entry.2) ∧
      Served looked handler.params [first]) : FinishedOnly σ ν handler looked := by
  intro behaviour declared delivery s
  have ended : Ended handler looked (eventsOf behaviour handler delivery s) :=
    eventsOf_ended declared (fun first named => (recognised first named).2.2)
      (fun first named => (recognised first named).2.1) delivery s
  exact ⟨ended.finishes (fun first named => (recognised first named).1),
    fun func seen => ended.receives seen⟩

end Finished

theorem served_self {φ : Type} (handler : Func φ) (first : Str) :
    Served (fun func => func = handler) handler.params [first] := by
  intro func needs same
  rw [same] at needs
  exact absurd (Nat.lt_trans needs.smaller (Params.params_smaller handler)) (Nat.lt_irrefl _)

theorem served_all_iff {φ : Type} (params : Params φ) (names : List Str) :
    ((∀ entry ∈ params.dependencies names, Recognised entry.2) ∧
        Served (fun _ => True) params names) ↔
      ∀ func, Params.Needs params names func → Recognised func := by
  constructor
  · intro holds func needs
    rcases holds with ⟨own, served⟩
    induction needs with
    | direct member => exact own _ member
    | @deeper params names entry func member needs ih =>
        apply ih
        · exact served entry.2 (.direct member) trivial
        · exact fun other within => served other (.deeper member within)
  · intro each
    constructor
    · exact fun entry member => each entry.2 (.direct member)
    · exact fun func needs _ entry member => each entry.2 (needs.trans (.direct member))

/-- A bus acks only finished work exactly where `iscoroutinefunction` overlooks none: neither the
handler nor a dependency of its own, and for the whole tree no function in it. -/
theorem acks_finished_iff {φ : Type} (σ ν : Type) [Inhabited σ] [Inhabited ν] (handler : Func φ) :
    (FinishedOnly σ ν handler (fun func => func = handler) ↔
      ∀ first ∈ handler.params.firstName, Recognised handler ∧
        ∀ entry ∈ handler.params.dependencies [first], Recognised entry.2) ∧
    (FinishedOnly σ ν handler (fun _ => True) ↔
      ∀ first ∈ handler.params.firstName, Recognised handler ∧
        ∀ func, Params.Needs handler.params [first] func → Recognised func) := by
  refine ⟨⟨?_, ?_⟩, ⟨?_, ?_⟩⟩
  · intro finished first named
    rcases recognised_of_finished finished named with ⟨self, own, -⟩
    exact ⟨self, own rfl⟩
  · intro recognised
    apply finished_of_recognised
    intro first named
    rcases recognised first named with ⟨self, own⟩
    exact ⟨self, fun _ => own, served_self handler first⟩
  · intro finished first named
    rcases recognised_of_finished finished named with ⟨self, own, served⟩
    exact ⟨self, (served_all_iff _ _).mp ⟨own trivial, served⟩⟩
  · intro recognised
    apply finished_of_recognised
    intro first named
    rcases recognised first named with ⟨self, tree⟩
    rcases (served_all_iff _ _).mpr tree with ⟨own, served⟩
    exact ⟨self, fun _ => own, served⟩

def decorated : Func Unit := .mk () .returnsAwaitable (.plain (ofString "command") .nil)

/-- The coroutine is never awaited, and the message is acked. -/
theorem decorated_acked_unfinished :
    ¬FinishedOnly Unit Unit decorated (fun func => func = decorated) := by
  intro finished
  have acks := (finished eager eager_declared smooth ()).1
  rcases acks [.called decorated [(ofString "command", .plain ())],
    .returned decorated (.ok (.awaitable (pure ())))] [] rfl _
      (List.mem_cons_of_mem _ List.mem_cons_self) with ⟨value, awaited⟩
  simp at awaited

end Natricine.Cqrs.Depends
