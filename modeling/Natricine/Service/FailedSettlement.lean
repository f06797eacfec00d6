import Natricine.Router.OwnSettlement

/-! `Message.ack` and `Message.nack` whose callback raises, and what the `except` branch of the
three processing loops can still do after a failed `ack`. -/

namespace Natricine.Service

open PubSub Router Transition

def settleMessage (settlement : Settlement) (flags : AckState) (callback : Await Unit) :
    AckState × Await Unit :=
  match guardOf settlement flags with
  | .error text => (flags, .raised (.valueError text))
  | .ok next => (next, callback)

/-- If the call raises because its callback did, the flags are as they were before it. -/
def Recoverable (settlement : Settlement) (flags : AckState) (callback : Await Unit) : Prop :=
  ∀ next, guardOf settlement flags = .ok next → callback.Raised →
    (settleMessage settlement flags callback).1 = flags

/-- When the callback of an `ack` raises, the callback of the `nack` in the `except` branch runs
next; and what leaves the processing after a `nack` is the exception that led to it. -/
structure Recovers (setup : Setup) (s : State) (e : Event) : Prop where
  nacks : ∀ t ∈ setup.step s e, ∀ index job outputs exn, e = .resume index (.raised exn) →
    s.jobs[index]? = some job → job.stage = .running (.acking outputs) →
      ∃ next, t.jobs[index]? = some next ∧ next.stage = .running (.nacking exn)
  reraises : ∀ t ∈ setup.step s e, ∀ index job cause value, e = .resume index (.returned value) →
    s.jobs[index]? = some job → job.stage = .running (.nacking cause) →
      ∃ next, t.jobs[index]? = some next ∧ next.stage = .ended (.raised cause)

/-- The step is not the callback of an `ack` that raises. -/
def AckReturns (s : State) (e : Event) : Prop :=
  ∀ index job outputs exn, e = .resume index (.raised exn) → s.jobs[index]? = some job →
    job.stage ≠ .running (.acking outputs)

theorem recoverable_iff (settlement : Settlement) (flags : AckState) (callback : Await Unit) :
    Recoverable settlement flags callback ↔ (flags.Settled ∨ ¬callback.Raised) := by
  by_cases unsettled : flags = AckState.fresh
  · subst unsettled
    constructor
    · intro recoverable
      right
      intro raised
      have kept := recoverable _ (guardOf_fresh settlement) raised
      rw [settleMessage, guardOf_fresh] at kept
      exact flagsOf_ne_fresh settlement kept
    · intro either next passed raised
      rcases either with settled | returns
      · exact absurd settled AckState.not_settled_fresh
      · exact absurd raised returns
  · apply iff_of_true
    · intro next passed
      exact absurd (fresh_of_guardOf passed) unsettled
    · exact Or.inl (AckState.settled_of_ne_fresh unsettled)

section Resume

variable {setup : Setup} {s t : State} {e : Event} {index : Nat} {job : Job} {phase : Phase}
  {outcome : Await (List Message)}

theorem stage_of_resume (taken : setup.step s (.resume index outcome) = some t)
    (found : s.jobs[index]? = some job) (running : job.stage = .running phase) :
    ∃ next, t.jobs[index]? = some next ∧
      next.stage = (resume (setup.handler job.loop) job.flags phase outcome).2.stage := by
  cases taken_of_step taken with
  | resume _ _ other at_phase loop same there present reached =>
      rw [found] at same
      cases same
      rw [running] at there
      cases there
      have bound := (List.getElem?_eq_some_iff.mp found).1
      rcases resumeJob_cases setup s index job phase loop outcome with
        ⟨result, rfl, -, ⟨later, turn, made⟩ | ⟨ending, turn, made⟩⟩
      · refine ⟨job.answered phase outcome _, ?_, rfl⟩
        rw [made]
        exact List.getElem?_set_self bound
      · refine ⟨job.answered phase outcome _, ?_, rfl⟩
        rw [made, conclude_jobs]
        exact List.getElem?_set_self bound

theorem resume_taken (inv : Supervised setup.kind s) (found : s.jobs[index]? = some job)
    (running : job.stage = .running phase) (exn : Exn) :
    ∃ t, setup.step s (.resume index (.raised exn)) = some t := by
  have active : job.isEnded = false := by rw [Job.isEnded, running]
  rcases inv.attached index job found active with ⟨loop, present, -⟩
  refine ⟨resumeJob setup s index job phase loop (.raised exn), ?_⟩
  simp only [Setup.step, found, running, present]
  rw [if_neg (by simp)]

theorem recovers_iff (inv : Supervised setup.kind s) (sound : AllSound setup.kind s) :
    Recovers setup s e ↔ AckReturns s e := by
  constructor
  · rintro ⟨nacks, -⟩ index job outputs exn rfl found acking
    rcases resume_taken inv found acking exn with ⟨t, taken⟩
    rcases nacks t taken index job outputs exn rfl found acking with ⟨next, there, nacking⟩
    rcases stage_of_resume taken found acking with ⟨same, here, stage⟩
    rw [there] at here
    cases here
    -- The flag that `ack` has set before its callback makes `nack` refuse.
    have settled := (sound job (List.mem_of_getElem? found)).staged
    rw [Staged, acking] at settled
    rcases beginNack_cases job.flags exn with ⟨unsettled, -⟩ | ⟨-, other, refused⟩
    · rw [unsettled] at settled
      exact AckState.not_settled_fresh settled
    · rw [nacking, resume, refused] at stage
      cases stage
  · intro returns
    refine ⟨?_, ?_⟩
    · intro t taken index job outputs exn event found acking
      exact absurd acking (returns index job outputs exn event found)
    · rintro t taken index job cause value rfl found nacking
      exact stage_of_resume taken found nacking

end Resume

/-- For every message and callback, and for every run of a router or a bus: a failed settlement is
recoverable exactly where none fails. -/
theorem failed_settlement_recoverable_iff (setup : Setup) (events : List Event) :
    (∀ settlement flags callback,
      Recoverable settlement flags callback ↔ (flags.Settled ∨ ¬callback.Raised)) ∧
    (Along setup.step (Recovers setup) initial events ↔
      Along setup.step AckReturns initial events) := by
  refine ⟨recoverable_iff, ?_⟩
  apply along_iff_of_invariant (I := fun s => Supervised setup.kind s ∧ AllSound setup.kind s)
  · rintro s e t ⟨inv, sound⟩ taken
    exact ⟨step_supervised setup s e t inv taken, step_allSound setup s e t sound taken⟩
  · rintro s e ⟨inv, sound⟩
    exact recovers_iff inv sound
  · exact ⟨initial_supervised setup.kind, fun job none => absurd none List.not_mem_nil⟩

def failedAck : List Event :=
  [.run, .start 0, .receive 0, .resume 0 (.returned []),
    .resume 0 (.raised (.other "ConnectionError"))]

/-- The message stays acked, is not nacked, and a `ValueError` leaves the processing. -/
theorem failed_ack_masked :
    ¬Recoverable .ack AckState.fresh (.raised (.other "ConnectionError")) ∧
      ∃ s ∈ exec (Setup.router [Handler.addNoPublisherHandler]).step initial failedAck,
        s.jobs.map (fun job => (job.flags, job.stage)) =
          [(⟨true, false⟩,
            .ended (.raised (.valueError "Cannot nack a message that has been acked")))] := by
  refine ⟨?_, _, rfl, rfl⟩
  intro recoverable
  exact absurd (recoverable _ rfl trivial) (by decide)

end Natricine.Service
