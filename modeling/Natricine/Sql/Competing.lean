import Natricine.Sql.Subscriber

namespace Natricine.Sql

open PubSub Transition

variable {κ : Type}

/-- No step yields a row that a delivery to another iterator still holds. -/
def YieldsExclusively (s : State κ) : Event κ → Prop
  | .claim worker =>
      ∀ row ∈ (s.batches worker).head?, ∀ d ∈ s.deliveries,
        d.rowId = row.id → d.worker ≠ worker → ¬ Held s d
  | _ => True

def Reclaimed (s : State κ) (index rowId : Nat) : Prop :=
  rowId ∈ (s.deliveries.map Delivery.rowId).drop (index + 1)

/-- A claim finds its row due, as its select did; a nack is for the last claim
of its row. -/
def ClaimsFenced (s : State κ) : Event κ → Prop
  | .claim worker =>
      ∀ row ∈ (s.batches worker).head?, ∃ stored ∈ s.table,
        stored.id = row.id ∧ stored.nextDeliveryAt ≤ s.now
  | .nack index =>
      ∀ d ∈ s.deliveries[index]?, d.ackState = AckState.fresh → ¬ Reclaimed s index d.rowId
  | _ => True

instance (s : State κ) : (e : Event κ) → Decidable (YieldsExclusively s e)
  | .claim worker => inferInstanceAs (Decidable (∀ row ∈ (s.batches worker).head?, _))
  | .tick _ | .insert _ _ | .select _ | .ack _ | .nack _ | .close _ => isTrue trivial

instance (s : State κ) (index rowId : Nat) : Decidable (Reclaimed s index rowId) :=
  inferInstanceAs (Decidable (_ ∈ _))

instance (s : State κ) : (e : Event κ) → Decidable (ClaimsFenced s e)
  | .claim worker => inferInstanceAs (Decidable (∀ row ∈ (s.batches worker).head?, _))
  | .nack index => inferInstanceAs (Decidable (∀ d ∈ s.deliveries[index]?, _))
  | .tick _ | .insert _ _ | .select _ | .ack _ | .close _ => isTrue trivial

/-- While a delivery is held, it is the last claim of its row and the row falls due only
when the delivery runs out. -/
structure HeldFenced (s : State κ) : Prop where
  stored : ∀ row ∈ s.table, row.id < s.nextId
  delivered : ∀ d ∈ s.deliveries, d.rowId < s.nextId
  held : ∀ index d, s.deliveries[index]? = some d → Held s d →
    ¬ Reclaimed s index d.rowId ∧
      ∀ row ∈ s.table, row.id = d.rowId → row.nextDeliveryAt = d.expiry

theorem initial_heldFenced (now : Time) : HeldFenced (initial κ now) := by
  refine ⟨?_, ?_, ?_⟩
  · intro row member
    cases member
  · intro d member
    cases member
  · intro index d found
    cases found

theorem reclaimed_of_lt {s : State κ} {index later : Nat} {d : Delivery}
    (found : s.deliveries[later]? = some d) (less : index < later) :
    Reclaimed s index d.rowId := by
  apply List.mem_iff_getElem?.mpr
  refine ⟨later - (index + 1), ?_⟩
  rw [List.getElem?_drop, List.getElem?_map]
  have place : index + 1 + (later - (index + 1)) = later := by omega
  rw [place, found]
  rfl

theorem reclaimed_append {s t : State κ} {index : Nat} {new : Delivery}
    (added : t.deliveries = s.deliveries ++ [new]) (bound : index < s.deliveries.length)
    (rowId : Nat) : Reclaimed t index rowId ↔ Reclaimed s index rowId ∨ rowId = new.rowId := by
  have place : index + 1 ≤ (s.deliveries.map Delivery.rowId).length := by
    rw [List.length_map]
    exact bound
  rw [Reclaimed, added, List.map_append, List.drop_append_of_le_length place, List.mem_append,
    List.map_singleton, List.mem_singleton, Reclaimed]

theorem not_reclaimed_last {s t : State κ} {new : Delivery}
    (added : t.deliveries = s.deliveries ++ [new]) (rowId : Nat) :
    ¬ Reclaimed t s.deliveries.length rowId := by
  intro again
  rw [Reclaimed, added, List.drop_eq_nil_of_le (by simp)] at again
  cases again

theorem insert_heldFenced {s : State κ} (inv : HeldFenced s) (content : κ) (group : Text.Str) :
    HeldFenced { s with
      table := insertRow s.table s.nextId content group s.now
      nextId := s.nextId + 1 } := by
  refine ⟨?_, ?_, ?_⟩
  · intro row member
    rcases List.mem_append.mp member with member | member
    · exact Nat.lt_succ_of_lt (inv.stored row member)
    · rw [List.mem_singleton.mp member]
      exact Nat.lt_succ_self _
  · intro d member
    exact Nat.lt_succ_of_lt (inv.delivered d member)
  · intro index d found held
    obtain ⟨last, due⟩ := inv.held index d found held
    refine ⟨last, ?_⟩
    intro row member same
    rcases List.mem_append.mp member with member | member
    · exact due row member same
    · have fresh := inv.delivered d (List.mem_of_getElem? found)
      rw [List.mem_singleton.mp member] at same
      simp only at same
      omega

theorem claim_heldFenced {s : State κ} (inv : HeldFenced s) (worker : Nat) (row : Row κ)
    (rest : List (Row κ)) (expiry : Time)
    (due : ∃ stored ∈ s.table, stored.id = row.id ∧ stored.nextDeliveryAt ≤ s.now) :
    HeldFenced { s with
      table := claimMessage s.table row.id s.now expiry
      batches := Function.update s.batches worker rest
      deliveries := s.deliveries ++ [⟨worker, row.id, s.now, expiry, AckState.fresh⟩] } := by
  obtain ⟨stored, present, sameId, ripe⟩ := due
  -- A row that is due is held by nobody, so the new delivery is its only holder.
  have free : ∀ (index : Nat) d, s.deliveries[index]? = some d → Held s d → d.rowId ≠ row.id := by
    intro index d found held same
    have later := (inv.held index d found held).2 stored present (sameId.trans same.symm)
    exact absurd ripe (not_le.mpr (later ▸ held.2))
  refine ⟨?_, ?_, ?_⟩
  · intro updated member
    rcases mem_updateRow_cases member with ⟨old, inside, -, rfl⟩ | ⟨inside, -⟩
    · exact inv.stored old inside
    · exact inv.stored updated inside
  · intro d member
    rcases List.mem_append.mp member with member | member
    · exact inv.delivered d member
    · rw [List.mem_singleton.mp member, ← sameId]
      exact inv.stored stored present
  · intro index d found held
    rcases Update.getElem?_append_cases _ found with ⟨rfl, rfl⟩ | before
    · refine ⟨not_reclaimed_last rfl _, ?_⟩
      intro updated member named
      rcases mem_updateRow_cases member with ⟨old, -, -, rfl⟩ | ⟨-, elsewhere⟩
      · rfl
      · exact absurd named elsewhere
    · have other := free index d before held
      have bound := (List.getElem?_eq_some_iff.mp before).1
      rcases inv.held index d before held with ⟨last, unripe⟩
      constructor
      · rw [reclaimed_append rfl bound]
        exact not_or.mpr ⟨last, other⟩
      · intro updated member named
        rcases mem_updateRow_cases member with ⟨old, -, same, rfl⟩ | ⟨inside, -⟩
        · exact absurd (named.symm.trans same) other
        · exact unripe updated inside named

theorem settle_heldFenced {s : State κ} (inv : HeldFenced s) {index : Nat} {d : Delivery}
    (found : s.deliveries[index]? = some d) {flags : AckState} (settled : flags.Settled)
    (update : Row κ → Row κ) (sameId : ∀ row, (update row).id = row.id)
    (kept : ∀ other e, s.deliveries[other]? = some e → other ≠ index → Held s e →
      e.rowId = d.rowId → ∀ row, (update row).nextDeliveryAt = row.nextDeliveryAt) :
    HeldFenced { s with
      deliveries := s.deliveries.set index { d with ackState := flags }
      table := updateRow s.table d.rowId update } := by
  have rows : (s.deliveries.set index { d with ackState := flags }).map Delivery.rowId =
      s.deliveries.map Delivery.rowId := Update.map_set_eq _ found rfl
  refine ⟨?_, ?_, ?_⟩
  · intro row member
    rcases mem_updateRow_cases member with ⟨old, inside, -, rfl⟩ | ⟨inside, -⟩
    · rw [sameId]
      exact inv.stored old inside
    · exact inv.stored row inside
  · exact (Update.forall_mem_set_iff { d with ackState := flags }
      (P := fun d => d.rowId < s.nextId) found Iff.rfl).mpr inv.delivered
  · intro other e present held
    rcases Update.getElem?_set_cases _ present with ⟨-, rfl⟩ | ⟨differs, before⟩
    · exact absurd settled held.1
    · rcases inv.held other e before held with ⟨last, due⟩
      constructor
      · rw [Reclaimed, rows]
        exact last
      · intro row member named
        rcases mem_updateRow_cases member with ⟨old, inside, here, rfl⟩ | ⟨inside, -⟩
        · rw [sameId] at named
          rw [kept other e before differs held (named.symm.trans here) old]
          exact due old inside named
        · exact due row inside named

theorem step_heldFenced (dialect : Dialect) (config : Nat → SQLConfig) (s : State κ)
    (e : Event κ) (t : State κ) (inv : HeldFenced s) (fenced : ClaimsFenced s e)
    (taken : step dialect config s e = some t) : HeldFenced t := by
  cases e with
  | tick elapsed =>
      cases taken
      refine ⟨inv.stored, inv.delivered, ?_⟩
      intro index d found held
      have earlier : s.now ≤ s.now + elapsed := Int.le_add_of_nonneg_right (Int.natCast_nonneg _)
      exact inv.held index d found ⟨held.1, lt_of_le_of_lt earlier held.2⟩
  | insert content group =>
      cases taken
      exact insert_heldFenced inv content group
  | select worker =>
      simp only [step] at taken
      split at taken
      · cases taken
        exact ⟨inv.stored, inv.delivered, inv.held⟩
      · cases taken
  | claim worker =>
      simp only [step] at taken
      split at taken
      · cases taken
      · rename_i row rest batch
        cases taken
        have due := fenced row (by rw [batch]; rfl)
        exact claim_heldFenced inv worker row rest _ due
  | ack index =>
      obtain ⟨d, found, ⟨text, -, rfl⟩ | ⟨flags, passed, rfl⟩⟩ := settle_cases taken
      · exact inv
      · obtain ⟨-, rfl⟩ := (AckState.ack_ok_iff _ _).mp passed
        exact settle_heldFenced inv found (Or.inl rfl) _ (fun _ => rfl)
          (fun _ _ _ _ _ _ _ => rfl)
  | nack index =>
      obtain ⟨d, found, ⟨text, -, rfl⟩ | ⟨flags, passed, rfl⟩⟩ := settle_cases taken
      · exact inv
      · obtain ⟨unsettled, rfl⟩ := (AckState.nack_ok_iff _ _).mp passed
        refine settle_heldFenced inv found (Or.inr rfl) _ (fun _ => rfl) ?_
        -- The nack is for the last claim of the row, so nobody else holds it.
        intro other e present differs held shared
        have latest := fenced d found unsettled
        rcases Nat.lt_or_gt_of_ne differs with earlier | later
        · exact absurd (shared ▸ reclaimed_of_lt found earlier)
            (inv.held other e present held).1
        · exact absurd (shared ▸ reclaimed_of_lt present later) latest
  | close worker =>
      cases taken
      exact ⟨inv.stored, inv.delivered, inv.held⟩

end Natricine.Sql
