import Natricine.Sql.Settling

namespace Natricine.Sql

open PubSub Transition
open Text (Str)

variable {κ : Type}

def groupRows (table : Table κ) (group : Str) : List (Row κ) :=
  table.filter (fun row => row.consumerGroup = group)

def published (group : Str) : List (Event κ) → List κ
  | [] => []
  | .insert content other :: events =>
      if other = group then content :: published group events else published group events
  | _ :: events => published group events

def yielded (deliveries : List Delivery) (worker : Nat) : List Nat :=
  (deliveries.filter (fun d => d.worker = worker)).map Delivery.rowId

/-- Each message is acked before the iterator is asked for the next. -/
def AcksFirst (worker : Nat) (s : State κ) : Event κ → Prop
  | .select other | .claim other =>
      other = worker → ∀ d ∈ s.deliveries, d.worker = worker → d.ackState.acked = true
  | _ => True

instance (worker : Nat) (s : State κ) : (e : Event κ) → Decidable (AcksFirst worker s e)
  | .select _ | .claim _ => inferInstanceAs (Decidable (_ → ∀ d ∈ s.deliveries, _ → _))
  | .tick _ | .insert _ _ | .ack _ | .nack _ | .close _ => isTrue trivial

section Sorting

variable {α : Type} {r : α → α → Prop} [DecidableRel r] {p : α → Bool} {entries : List α}

theorem filter_insertionSort (sorted : (entries.filter p).Pairwise r) :
    (entries.insertionSort r).filter p = entries.filter p := by
  have kept : (entries.filter p).Sublist ((entries.insertionSort r).filter p) := by
    have whole := (List.sublist_insertionSort sorted List.filter_sublist).filter p
    rw [List.filter_filter] at whole
    simpa using whole
  refine (kept.eq_of_length ?_).symm
  exact ((List.perm_insertionSort r entries).symm.filter p).length_eq

theorem take_insertionSort_prefix (sorted : (entries.filter p).Pairwise r) (n : Nat) :
    ((entries.insertionSort r).take n).filter p <+: entries.filter p := by
  rw [← filter_insertionSort sorted]
  exact (List.take_prefix n _).filter p

end Sorting

def Waits (group : Str) (done : List Nat) (row : Row κ) : Prop :=
  row.consumerGroup = group ∧ row.id ∉ done

instance (group : Str) (done : List Nat) (row : Row κ) : Decidable (Waits group done row) :=
  inferInstanceAs (Decidable (_ ∧ _))

def waiting (table : Table κ) (group : Str) (done : List Nat) : List (Row κ) :=
  table.filter (fun row => Waits group done row)

structure IsNew (now : Time) (row : Row κ) : Prop where
  due : row.nextDeliveryAt ≤ now
  unacked : row.ackedAt = none
  unclaimed : row.claimedAt = none

/-- The rows of a group beside the ids that were yielded and those of the current batch: what waits
comes behind what was yielded, in the order of selection, and what is new in the batch comes
first. -/
structure RowsInOrder (group : Str) (done batch : List Nat) (now : Time) (nextId : Nat)
    (table : Table κ) : Prop where
  ids : table.Pairwise (fun first second => first.id < second.id)
  bound : ∀ row ∈ table, row.id < nextId
  fresh : ∀ row ∈ waiting table group done, IsNew now row
  sorted : (waiting table group done).Pairwise DeliverBefore
  order : done.eraseDups ++ (waiting table group done).map Row.id =
    (groupRows table group).map Row.id
  next : batch.filter (fun id => id ∉ done) <+: (waiting table group done).map Row.id

section Rows

variable {group : Str} {done batch rest : List Nat} {now later : Time} {nextId id : Nat}
  {table : Table κ} {update : Row κ → Row κ}

theorem mem_waiting {row : Row κ} :
    row ∈ waiting table group done ↔ row ∈ table ∧ Waits group done row := by
  rw [waiting, List.mem_filter, decide_eq_true_iff]

theorem RowsInOrder.unique (inv : RowsInOrder group done batch now nextId table)
    {first second : Row κ} (one : first ∈ table) (other : second ∈ table)
    (same : first.id = second.id) : first = second := by
  have distinct : (table.map Row.id).Nodup :=
    (List.pairwise_map.mpr inv.ids).imp (fun less => Nat.ne_of_lt less)
  exact List.inj_on_of_nodup_map distinct one other same

theorem RowsInOrder.stored (inv : RowsInOrder group done batch now nextId table)
    (member : id ∈ done) : ∃ row ∈ table, row.consumerGroup = group ∧ row.id = id := by
  have there : id ∈ (groupRows table group).map Row.id := by
    rw [← inv.order]
    exact List.mem_append_left _ (List.mem_eraseDups.mpr member)
  rcases List.mem_map.mp there with ⟨row, inside, same⟩
  rw [groupRows, List.mem_filter, decide_eq_true_iff] at inside
  exact ⟨row, inside.1, inside.2, same⟩

theorem RowsInOrder.tick (inv : RowsInOrder group done batch now nextId table)
    (passed : now ≤ later) : RowsInOrder group done batch later nextId table := by
  refine ⟨inv.ids, inv.bound, fun row member => ?_, inv.sorted, inv.order, inv.next⟩
  have new := inv.fresh row member
  exact ⟨new.due.trans passed, new.unacked, new.unclaimed⟩

theorem waiting_insertRow (unknown : nextId ∉ done) (content : κ) (other : Str) :
    waiting (insertRow table nextId content other now) group done =
      waiting table group done ++
        if other = group then [⟨nextId, content, other, none, none, 0, now⟩] else [] := by
  rw [waiting, insertRow, List.filter_append, ← waiting]
  congr 1
  by_cases same : other = group
  · rw [if_pos same]
    exact List.filter_eq_self.mpr (by simp [Waits, same, unknown])
  · rw [if_neg same]
    exact List.filter_eq_nil_iff.mpr (by simp [Waits, same])

theorem groupRows_insertRow (content : κ) (other : Str) :
    groupRows (insertRow table nextId content other now) group =
      groupRows table group ++
        if other = group then [⟨nextId, content, other, none, none, 0, now⟩] else [] := by
  rw [groupRows, insertRow, List.filter_append, ← groupRows]
  congr 1
  by_cases same : other = group
  · rw [if_pos same]
    exact List.filter_eq_self.mpr (by simp [same])
  · rw [if_neg same]
    exact List.filter_eq_nil_iff.mpr (by simp [same])

theorem RowsInOrder.insert (inv : RowsInOrder group done batch now nextId table) (content : κ)
    (other : Str) :
    RowsInOrder group done batch now (nextId + 1) (insertRow table nextId content other now) := by
  have unknown : nextId ∉ done := by
    intro member
    rcases inv.stored member with ⟨row, inside, -, same⟩
    exact absurd (inv.bound row inside) (by omega)
  have ids : (insertRow table nextId content other now).Pairwise
      (fun first second => first.id < second.id) := by
    refine List.pairwise_append.mpr ⟨inv.ids, List.pairwise_singleton _ _, ?_⟩
    intro row member new single
    rw [List.mem_singleton.mp single]
    exact inv.bound row member
  have bound : ∀ row ∈ insertRow table nextId content other now, row.id < nextId + 1 := by
    intro row member
    rcases List.mem_append.mp member with old | new
    · exact Nat.lt_succ_of_lt (inv.bound row old)
    · rw [List.mem_singleton.mp new]
      exact Nat.lt_succ_self nextId
  have waits : waiting (insertRow table nextId content other now) group done = _ :=
    waiting_insertRow unknown content other
  by_cases same : other = group
  · rw [if_pos same] at waits
    refine ⟨ids, bound, ?_, ?_, ?_, ?_⟩
    · rw [waits]
      intro row member
      rcases List.mem_append.mp member with old | new
      · exact inv.fresh row old
      · rw [List.mem_singleton.mp new]
        exact ⟨le_refl now, rfl, rfl⟩
    · rw [waits]
      refine List.pairwise_append.mpr ⟨inv.sorted, List.pairwise_singleton _ _, ?_⟩
      intro row member new single
      rw [List.mem_singleton.mp single]
      have before := inv.bound row (mem_waiting.mp member).1
      rcases lt_or_eq_of_le (inv.fresh row member).due with less | equal
      · exact Or.inl less
      · exact Or.inr ⟨equal, before.le⟩
    · calc
        _ = done.eraseDups ++ (waiting table group done).map Row.id ++ [nextId] := by
          rw [waits, List.map_append, List.append_assoc]
          rfl
        _ = (groupRows table group).map Row.id ++ [nextId] := by
          rw [inv.order]
        _ = (groupRows (insertRow table nextId content other now) group).map Row.id := by
          rw [groupRows_insertRow, if_pos same, List.map_append]
          rfl
    · rw [waits, List.map_append]
      exact inv.next.trans (List.prefix_append _ _)
  · rw [if_neg same, List.append_nil] at waits
    refine ⟨ids, bound, waits ▸ inv.fresh, waits ▸ inv.sorted, ?_, waits ▸ inv.next⟩
    rw [waits, groupRows_insertRow, if_neg same, List.append_nil]
    exact inv.order

theorem filter_updateRow {p : Row κ → Bool}
    (out : ∀ row ∈ table, row.id = id → p row = false ∧ p (update row) = false) :
    (updateRow table id update).filter p = table.filter p := by
  induction table with
  | nil => rfl
  | cons row table ih =>
      have rest := ih (fun other member => out other (List.mem_cons_of_mem row member))
      rw [updateRow] at rest ⊢
      rw [List.map_cons]
      by_cases same : row.id = id
      · rw [if_pos same, List.filter_cons_of_neg, List.filter_cons_of_neg, rest]
        · simp [(out row List.mem_cons_self same).1]
        · simp [(out row List.mem_cons_self same).2]
      · rw [if_neg same, List.filter_cons, List.filter_cons, rest]

theorem map_groupRows_updateRow {α : Type} {column : Row κ → α}
    (sameGroup : ∀ row, (update row).consumerGroup = row.consumerGroup)
    (sameColumn : ∀ row, column (update row) = column row) :
    (groupRows (updateRow table id update) group).map column =
      (groupRows table group).map column := by
  induction table with
  | nil => rfl
  | cons row table ih =>
      have kept : ∀ row : Row κ, (if row.id = id then update row else row).consumerGroup =
          row.consumerGroup ∧ column (if row.id = id then update row else row) = column row := by
        intro row
        split
        · exact ⟨sameGroup row, sameColumn row⟩
        · exact ⟨rfl, rfl⟩
      rw [groupRows, groupRows, updateRow] at ih ⊢
      rw [List.map_cons, List.filter_cons, List.filter_cons, (kept row).1]
      split
      · rw [List.map_cons, List.map_cons, (kept row).2, ih]
      · exact ih

theorem RowsInOrder.updated (inv : RowsInOrder group done batch now nextId table)
    (sameId : ∀ row, (update row).id = row.id)
    (sameGroup : ∀ row, (update row).consumerGroup = row.consumerGroup)
    (out : ∀ row ∈ table, row.id = id → ¬Waits group done row) :
    RowsInOrder group done batch now nextId (updateRow table id update) := by
  have waits : waiting (updateRow table id update) group done = waiting table group done := by
    apply filter_updateRow
    intro row member same
    have waitsNot := out row member same
    refine ⟨decide_eq_false waitsNot, decide_eq_false (fun after => waitsNot ?_)⟩
    exact ⟨(sameGroup row).symm.trans after.1, fun inside => after.2 (by rwa [sameId])⟩
  have sameIds : (updateRow table id update).map Row.id = table.map Row.id := by
    rw [updateRow, List.map_map]
    apply List.map_congr_left
    intro row _
    rw [Function.comp_apply]
    split
    · exact sameId row
    · rfl
  refine ⟨?_, ?_, waits ▸ inv.fresh, waits ▸ inv.sorted, ?_, waits ▸ inv.next⟩
  · apply List.pairwise_map.mp
    rw [sameIds]
    exact List.pairwise_map.mpr inv.ids
  · intro row member
    have there := List.mem_map_of_mem (f := Row.id) member
    rw [sameIds] at there
    rcases List.mem_map.mp there with ⟨old, inside, same⟩
    rw [← same]
    exact inv.bound old inside
  · rw [waits, map_groupRows_updateRow sameGroup sameId]
    exact inv.order

theorem eraseDups_concat (done : List Nat) (id : Nat) :
    (done ++ [id]).eraseDups = if id ∈ done then done.eraseDups else done.eraseDups ++ [id] := by
  rw [List.eraseDups_append]
  split
  · rename_i known
    simp [List.removeAll, known]
  · rename_i unknown
    have alone : [id].removeAll done = [id] := by simp [List.removeAll, unknown]
    rw [alone]
    rfl

theorem waiting_concat (table : Table κ) (group : Str) (done : List Nat) (id : Nat) :
    waiting table group (done ++ [id]) =
      (waiting table group done).filter (fun row => row.id ≠ id) := by
  rw [waiting, waiting, List.filter_filter]
  apply List.filter_congr
  intro row _
  rw [← Bool.decide_and, decide_eq_decide]
  simp only [Waits, List.mem_append, List.mem_singleton]
  tauto

theorem RowsInOrder.yield (inv : RowsInOrder group done (id :: rest) now nextId table) :
    RowsInOrder group (done ++ [id]) rest now nextId table := by
  have order : (done ++ [id]).eraseDups ++ (waiting table group (done ++ [id])).map Row.id =
      (groupRows table group).map Row.id := by
    rw [eraseDups_concat, waiting_concat, ← inv.order]
    by_cases known : id ∈ done
    · rw [if_pos known, List.filter_eq_self.mpr]
      intro row member
      exact decide_eq_true (fun same => (mem_waiting.mp member).2.2 (same ▸ known))
    · rw [if_neg known]
      have next := inv.next
      rw [List.filter_cons_of_pos (by simpa using known)] at next
      rcases next with ⟨others, next⟩
      have ids : (waiting table group done).Pairwise (fun first second => first.id < second.id) :=
        inv.ids.filter _
      cases waits : waiting table group done with
      | nil =>
          rw [waits] at next
          cases next
      | cons row behind =>
          rw [waits] at next ids
          have same : id = row.id := (List.cons.inj next).1
          have kept : behind.filter (fun row => row.id ≠ id) = behind := by
            apply List.filter_eq_self.mpr
            intro other member
            have after := (List.pairwise_cons.mp ids).1 other member
            exact decide_eq_true (by omega)
          rw [List.filter_cons_of_neg (by simp [same]), kept, List.append_assoc, same]
          rfl
  refine ⟨inv.ids, inv.bound, ?_, ?_, order, ?_⟩
  · rw [waiting_concat]
    exact fun row member => inv.fresh row (List.mem_of_mem_filter member)
  · rw [waiting_concat]
    exact inv.sorted.filter _
  · have shrunk : rest.filter (fun other => other ∉ done ++ [id]) =
        ((id :: rest).filter (fun other => other ∉ done)).filter (fun other => other ≠ id) := by
      rw [List.filter_filter, List.filter_cons_of_neg (by simp)]
      apply List.filter_congr
      intro other _
      rw [← Bool.decide_and, decide_eq_decide, List.mem_append, List.mem_singleton]
      tauto
    have mapped : ((waiting table group done).filter (fun row => row.id ≠ id)).map Row.id =
        ((waiting table group done).map Row.id).filter (fun other => other ≠ id) := by
      rw [List.filter_map]
      rfl
    rw [shrunk, waiting_concat, mapped]
    exact inv.next.filter _

theorem RowsInOrder.select (inv : RowsInOrder group done batch now nextId table)
    (dialect : Dialect) (batchSize : Nat) :
    RowsInOrder group done ((selectPending dialect table group now batchSize).map Row.id) now
      nextId table := by
  refine ⟨inv.ids, inv.bound, inv.fresh, inv.sorted, inv.order, ?_⟩
  have pending : (table.filter (fun row => decide (Pending dialect group now row))).filter
      (fun row => decide (Waits group done row)) = waiting table group done := by
    rw [List.filter_filter, waiting]
    apply List.filter_congr
    intro row member
    rw [← Bool.decide_and, decide_eq_decide]
    constructor
    · exact fun both => both.1
    · intro waits
      have new := inv.fresh row (mem_waiting.mpr ⟨member, waits⟩)
      exact ⟨waits, waits.1, new.due, new.unacked, fun _ => new.unclaimed⟩
  have first : (selectPending dialect table group now batchSize).filter
      (fun row => decide (Waits group done row)) <+: waiting table group done := by
    rw [← pending]
    apply take_insertionSort_prefix
    rw [pending]
    exact inv.sorted
  have mapped : ((selectPending dialect table group now batchSize).map Row.id).filter
      (fun id => id ∉ done) =
      ((selectPending dialect table group now batchSize).filter
        (fun row => decide (Waits group done row))).map Row.id := by
    rw [List.filter_map]
    congr 1
    apply List.filter_congr
    intro row member
    have selected := (List.mem_insertionSort _).mp (List.mem_of_mem_take member)
    rw [List.mem_filter, decide_eq_true_iff] at selected
    rw [Function.comp_apply, decide_eq_decide]
    exact ⟨fun unknown => ⟨selected.2.1, unknown⟩, fun waits => waits.2⟩
  rw [mapped]
  exact first.map Row.id

end Rows

structure Alone (group : Str) (worker : Nat) (s : State κ) : Prop where
  yielded : ∀ d ∈ s.deliveries, d.worker ≠ worker → ∀ row ∈ s.table, row.id = d.rowId →
    row.consumerGroup ≠ group
  fetched : ∀ other, other ≠ worker → ∀ next ∈ s.batches other, ∀ row ∈ s.table,
    row.id = next.id → row.consumerGroup ≠ group

/-- The state of the only iterator of a group. -/
structure InOrder (group : Str) (worker : Nat) (s : State κ) : Prop where
  rows : RowsInOrder group (yielded s.deliveries worker) ((s.batches worker).map Row.id) s.now
    s.nextId s.table
  alone : Alone group worker s
  acks : AcksRecorded s

section Steps

variable {config : Nat → SQLConfig} {dialect : Dialect} {group : Str} {worker : Nat}
  {s t : State κ}

theorem initial_inOrder (group : Str) (worker : Nat) (now : Time) :
    InOrder group worker (initial κ now) := by
  refine ⟨⟨.nil, nofun, nofun, .nil, rfl, ?_⟩, ⟨nofun, fun _ _ => nofun⟩,
    initial_acksRecorded now⟩
  exact List.prefix_rfl

theorem exists_of_mem_updateRow {table : Table κ} {id : Nat} {update : Row κ → Row κ}
    (sameId : ∀ row, (update row).id = row.id)
    (sameGroup : ∀ row, (update row).consumerGroup = row.consumerGroup) {row : Row κ}
    (member : row ∈ updateRow table id update) :
    ∃ old ∈ table, old.id = row.id ∧ old.consumerGroup = row.consumerGroup := by
  rcases mem_updateRow_cases member with ⟨old, inside, -, rfl⟩ | ⟨inside, -⟩
  · exact ⟨old, inside, (sameId old).symm, (sameGroup old).symm⟩
  · exact ⟨row, inside, rfl, rfl⟩

theorem mem_yielded {deliveries : List Delivery} {id : Nat} :
    id ∈ yielded deliveries worker ↔ ∃ d ∈ deliveries, d.worker = worker ∧ d.rowId = id := by
  simp only [yielded, List.mem_map, List.mem_filter, decide_eq_true_iff, and_assoc]

theorem InOrder.not_waits (inv : InOrder group worker s) {d : Delivery} (member : d ∈ s.deliveries)
    {row : Row κ} (stored : row ∈ s.table) (same : row.id = d.rowId) :
    ¬Waits group (yielded s.deliveries worker) row := by
  intro waits
  by_cases own : d.worker = worker
  · exact waits.2 (mem_yielded.mpr ⟨d, member, own, same.symm⟩)
  · exact inv.alone.yielded d member own row stored same waits.1

theorem yielded_settled {deliveries : List Delivery} {index : Nat} {d : Delivery}
    (found : deliveries[index]? = some d) (flags : AckState) (worker : Nat) :
    yielded (deliveries.set index { d with ackState := flags }) worker =
      yielded deliveries worker := by
  have columns : ∀ deliveries : List Delivery, yielded deliveries worker =
      ((deliveries.map (fun d => (d.worker, d.rowId))).filter (fun pair => pair.1 = worker)).map
        Prod.snd := by
    intro deliveries
    rw [List.filter_map, List.map_map]
    rfl
  have same : (deliveries.set index { d with ackState := flags }).map
      (fun d => (d.worker, d.rowId)) = deliveries.map (fun d => (d.worker, d.rowId)) :=
    Update.map_set_eq _ found rfl
  rw [columns, columns, same]

theorem InOrder.settled (inv : InOrder group worker s) {index : Nat} {d : Delivery}
    (found : s.deliveries[index]? = some d) (flags : AckState) {update : Row κ → Row κ}
    (sameId : ∀ row, (update row).id = row.id)
    (sameGroup : ∀ row, (update row).consumerGroup = row.consumerGroup)
    (acks : AcksRecorded { s with
      deliveries := s.deliveries.set index { d with ackState := flags }
      table := updateRow s.table d.rowId update }) :
    InOrder group worker { s with
      deliveries := s.deliveries.set index { d with ackState := flags }
      table := updateRow s.table d.rowId update } := by
  have member := List.mem_of_getElem? found
  refine ⟨?_, ⟨?_, ?_⟩, acks⟩
  · change RowsInOrder _ (yielded (s.deliveries.set index _) worker) _ _ _ _
    rw [yielded_settled found]
    exact inv.rows.updated sameId sameGroup (fun row stored same =>
      inv.not_waits member stored same)
  · intro other inside differs row stored same
    rcases exists_of_mem_updateRow sameId sameGroup stored with ⟨old, before, id_, group_⟩
    rw [← group_]
    rcases List.mem_or_eq_of_mem_set inside with was | new
    · exact inv.alone.yielded other was differs old before (id_.trans same)
    · rw [new] at same differs
      exact inv.alone.yielded d member differs old before (id_.trans same)
  · intro other differs next inside row stored same
    rcases exists_of_mem_updateRow sameId sameGroup stored with ⟨old, before, id_, group_⟩
    rw [← group_]
    exact inv.alone.fetched other differs next inside old before (id_.trans same)

theorem InOrder.insert (inv : InOrder group worker s) (content : κ) (other : Str) :
    InOrder group worker { s with
      table := insertRow s.table s.nextId content other s.now
      nextId := s.nextId + 1 } := by
  -- a new row has an id that nothing refers to
  have known : ∀ {id : Nat}, Stored s.table id → ∀ row ∈ insertRow s.table s.nextId content other
      s.now, row.id = id → row ∈ s.table := by
    rintro id ⟨old, inside, rfl⟩ row member same
    rcases List.mem_append.mp member with before | new
    · exact before
    · rw [List.mem_singleton.mp new] at same
      have bound := inv.rows.bound old inside
      simp only at same
      omega
  refine ⟨inv.rows.insert content other, ⟨?_, ?_⟩, insert_acksRecorded inv.acks content other⟩
  · intro d member differs row stored same
    have before := known (inv.acks.delivered d member) row stored same
    exact inv.alone.yielded d member differs row before same
  · intro reader differs next member row stored same
    have before := known (inv.acks.fetched reader next member) row stored same
    exact inv.alone.fetched reader differs next member row before same

theorem InOrder.select (inv : InOrder group worker s)
    (single : ∀ other, (config other).consumerGroup = group ↔ other = worker) (reader : Nat) :
    InOrder group worker { s with
      batches := Function.update s.batches reader
        (selectPending dialect s.table (config reader).consumerGroup s.now
          (config reader).batchSize) } := by
  refine ⟨?_, ⟨inv.alone.yielded, ?_⟩, select_acksRecorded inv.acks dialect reader _ _⟩
  · change RowsInOrder _ _ ((Function.update s.batches reader _ worker).map Row.id) _ _ _
    by_cases own : worker = reader
    · rw [← own, Function.update_self, (single worker).mpr rfl]
      exact inv.rows.select dialect _
    · rw [Function.update_of_ne own]
      exact inv.rows
  · intro other differs next member row stored same
    by_cases own : other = reader
    · rw [← own] at member
      simp only [Function.update_self] at member
      have selected := (List.mem_insertionSort _).mp (List.mem_of_mem_take member)
      rw [List.mem_filter, decide_eq_true_iff] at selected
      rw [inv.rows.unique stored selected.1 same, selected.2.1]
      exact fun mine => differs ((single other).mp mine)
    · simp only [Function.update_of_ne own] at member
      exact inv.alone.fetched other differs next member row stored same

theorem yielded_concat (deliveries : List Delivery) (d : Delivery) (worker : Nat) :
    yielded (deliveries ++ [d]) worker =
      yielded deliveries worker ++ if d.worker = worker then [d.rowId] else [] := by
  rw [yielded, List.filter_append, List.map_append]
  congr 1
  by_cases own : d.worker = worker
  · rw [if_pos own, List.filter_cons_of_pos (by simpa using own)]
    rfl
  · rw [if_neg own, List.filter_cons_of_neg (by simpa using own)]
    rfl

theorem InOrder.claim (inv : InOrder group worker s) {reader : Nat} {row : Row κ}
    {rest : List (Row κ)} (batch : s.batches reader = row :: rest) (expiry : Time) :
    InOrder group worker { s with
      table := claimMessage s.table row.id s.now expiry
      batches := Function.update s.batches reader rest
      deliveries := s.deliveries ++ [⟨reader, row.id, s.now, expiry, AckState.fresh⟩] } := by
  have next : row ∈ s.batches reader := by
    rw [batch]
    exact List.mem_cons_self
  have older : ∀ updated ∈ claimMessage s.table row.id s.now expiry, ∃ old ∈ s.table,
      old.id = updated.id ∧ old.consumerGroup = updated.consumerGroup := by
    intro updated member
    refine exists_of_mem_updateRow ?_ ?_ member
    · exact fun _ => rfl
    · exact fun _ => rfl
  refine ⟨?_, ⟨?_, ?_⟩, claim_acksRecorded inv.acks batch expiry⟩
  · change RowsInOrder group (yielded (s.deliveries ++ _) worker)
      ((Function.update s.batches reader rest worker).map Row.id) _ _ (updateRow _ _ _)
    rw [yielded_concat]
    by_cases own : reader = worker
    · have rows := inv.rows
      rw [← own, batch, List.map_cons] at rows
      rw [if_pos own, ← own, Function.update_self]
      refine rows.yield.updated (fun _ => rfl) (fun _ => rfl) (fun old _ same waits => ?_)
      exact waits.2 (List.mem_append_right _ (List.mem_singleton.mpr same))
    · rw [if_neg own, List.append_nil, Function.update_of_ne (Ne.symm own)]
      refine inv.rows.updated (fun _ => rfl) (fun _ => rfl) (fun old stored same waits => ?_)
      exact inv.alone.fetched reader own row next old stored same waits.1
  · intro d member differs updated stored same
    rcases older updated stored with ⟨old, before, id_, group_⟩
    rw [← group_]
    rcases List.mem_append.mp member with was | new
    · exact inv.alone.yielded d was differs old before (id_.trans same)
    · rw [List.mem_singleton.mp new] at same differs
      exact inv.alone.fetched reader differs row next old before (id_.trans same)
  · intro other differs next member updated stored same
    rcases older updated stored with ⟨old, before, id_, group_⟩
    rw [← group_]
    have fetched : next ∈ s.batches other := by
      by_cases own : other = reader
      · rw [own] at member ⊢
        simp only [Function.update_self] at member
        rw [batch]
        exact List.mem_cons_of_mem row member
      · simp only [Function.update_of_ne own] at member
        exact member
    exact inv.alone.fetched other differs next fetched old before (id_.trans same)

theorem step_inOrder (single : ∀ other, (config other).consumerGroup = group ↔ other = worker)
    {e : Event κ} (inv : InOrder group worker s) (taken : step dialect config s e = some t) :
    InOrder group worker t := by
  have acks := step_acksRecorded dialect config s e t inv.acks taken
  cases e with
  | tick elapsed =>
      cases taken
      have passed : s.now ≤ s.now + (elapsed : Int) :=
        Int.le_add_of_nonneg_right (Int.natCast_nonneg elapsed)
      exact ⟨inv.rows.tick passed, ⟨inv.alone.yielded, inv.alone.fetched⟩, acks⟩
  | insert content other =>
      cases taken
      exact inv.insert content other
  | select reader =>
      simp only [step] at taken
      split at taken
      · cases taken
        exact inv.select single reader
      · cases taken
  | claim reader =>
      simp only [step] at taken
      split at taken
      · cases taken
      · rename_i row rest batch
        cases taken
        exact inv.claim batch _
  | ack index =>
      rcases settle_cases taken with ⟨d, found, ⟨text, -, rfl⟩ | ⟨flags, -, rfl⟩⟩
      · exact inv
      · exact inv.settled found flags (fun _ => rfl) (fun _ => rfl) acks
  | nack index =>
      rcases settle_cases taken with ⟨d, found, ⟨text, -, rfl⟩ | ⟨flags, -, rfl⟩⟩
      · exact inv
      · exact inv.settled found flags (fun _ => rfl) (fun _ => rfl) acks
  | close reader =>
      cases taken
      exact ⟨inv.rows, ⟨inv.alone.yielded, inv.alone.fetched⟩, acks⟩

theorem step_published {e : Event κ} (taken : step dialect config s e = some t) :
    (groupRows t.table group).map Row.content =
      (groupRows s.table group).map Row.content ++ published group [e] := by
  have settled : ∀ {index guard} {statement : Table κ → Nat → Time → Table κ},
      (∀ id now, (groupRows (statement s.table id now) group).map Row.content =
        (groupRows s.table group).map Row.content) →
      settle s index guard statement = some t →
      (groupRows t.table group).map Row.content =
        (groupRows s.table group).map Row.content := by
    intro index guard statement kept settled
    rcases settle_cases settled with ⟨d, -, ⟨text, -, rfl⟩ | ⟨flags, -, rfl⟩⟩
    · rfl
    · exact kept d.rowId s.now
  cases e with
  | tick _ | close _ =>
      cases taken
      exact (List.append_nil _).symm
  | insert content other =>
      cases taken
      rw [groupRows_insertRow, List.map_append]
      congr 1
      by_cases same : other = group
      · simp only [published, if_pos same, List.map_cons, List.map_nil]
      · simp only [published, if_neg same, List.map_nil]
  | select _ =>
      simp only [step] at taken
      split at taken
      · cases taken
        exact (List.append_nil _).symm
      · cases taken
  | claim _ =>
      simp only [step] at taken
      split at taken
      · cases taken
      · cases taken
        refine Eq.trans ?_ (List.append_nil _).symm
        exact map_groupRows_updateRow (fun _ => rfl) (fun _ => rfl)
  | ack _ =>
      refine (settled (fun id now => ?_) taken).trans (List.append_nil _).symm
      exact map_groupRows_updateRow (fun _ => rfl) (fun _ => rfl)
  | nack _ =>
      refine (settled (fun id now => ?_) taken).trans (List.append_nil _).symm
      exact map_groupRows_updateRow (fun _ => rfl) (fun _ => rfl)

theorem published_cons (group : Str) (e : Event κ) (events : List (Event κ)) :
    published group (e :: events) = published group [e] ++ published group events := by
  cases e with
  | insert content other =>
      rw [published, published]
      split <;> rfl
  | tick _ | select _ | claim _ | ack _ | nack _ | close _ => rfl

theorem run_published {events : List (Event κ)}
    (ran : exec (step dialect config) s events = some t) :
    (groupRows t.table group).map Row.content =
      (groupRows s.table group).map Row.content ++ published group events := by
  induction events generalizing s with
  | nil =>
      cases ran
      exact (List.append_nil _).symm
  | cons e events ih =>
      rcases exec_cons.mp ran with ⟨middle, first, rest⟩
      rw [ih rest, step_published first, List.append_assoc, published_cons group e events]

def EachOnce (worker : Nat) (s : State κ) : Prop :=
  (yielded s.deliveries worker ++ (s.batches worker).map Row.id).Nodup

theorem select_eachOnce (inv : InOrder group worker s) (once : EachOnce worker s)
    (empty : s.batches worker = [])
    (acked : ∀ d ∈ s.deliveries, d.worker = worker → d.ackState.acked = true) (batchSize : Nat) :
    (yielded s.deliveries worker ++
      (selectPending dialect s.table group s.now batchSize).map Row.id).Nodup := by
  rw [EachOnce, empty, List.map_nil, List.append_nil] at once
  have selected : ∀ row ∈ selectPending dialect s.table group s.now batchSize,
      row ∈ s.table ∧ Pending dialect group s.now row := by
    intro row member
    have sorted := (List.mem_insertionSort _).mp (List.mem_of_mem_take member)
    rw [List.mem_filter, decide_eq_true_iff] at sorted
    exact sorted
  have distinct : ((selectPending dialect s.table group s.now batchSize).map Row.id).Nodup := by
    have ids : (s.table.map Row.id).Nodup :=
      (List.pairwise_map.mpr inv.rows.ids).imp (fun less => Nat.ne_of_lt less)
    have pending := ids.sublist ((List.filter_sublist
      (p := fun row => decide (Pending dialect group s.now row))).map Row.id)
    have sorted := ((List.perm_insertionSort DeliverBefore _).map Row.id).nodup_iff.mpr pending
    exact sorted.sublist ((List.take_sublist _ _).map Row.id)
  refine List.nodup_append'.mpr ⟨once, distinct, ?_⟩
  intro id known member
  rcases mem_yielded.mp known with ⟨d, inside, own, same⟩
  rcases List.mem_map.mp member with ⟨row, batch, rfl⟩
  rcases (inv.acks.recorded row.id).mpr ⟨d, inside, same, acked d inside own⟩ with
    ⟨other, stored, sameId, recorded⟩
  rw [inv.rows.unique stored (selected row batch).1 sameId] at recorded
  exact recorded (selected row batch).2.2.2.1

theorem step_eachOnce (single : ∀ other, (config other).consumerGroup = group ↔ other = worker)
    {e : Event κ} (inv : InOrder group worker s) (once : EachOnce worker s)
    (acks : AcksFirst worker s e) (taken : step dialect config s e = some t) :
    EachOnce worker t := by
  cases e with
  | tick _ | insert _ _ | close _ =>
      cases taken
      exact once
  | select reader =>
      simp only [step] at taken
      split at taken
      · rename_i resumed
        cases taken
        change (_ ++ (Function.update s.batches reader _ worker).map Row.id).Nodup
        by_cases own : worker = reader
        · rw [← own] at resumed acks ⊢
          rw [Function.update_self, (single worker).mpr rfl]
          exact select_eachOnce inv once resumed.1 (acks rfl) _
        · rw [Function.update_of_ne own]
          exact once
      · cases taken
  | claim reader =>
      simp only [step] at taken
      split at taken
      · cases taken
      · rename_i row rest batch
        cases taken
        change (yielded (s.deliveries ++ _) worker ++
          (Function.update s.batches reader rest worker).map Row.id).Nodup
        rw [yielded_concat]
        by_cases own : reader = worker
        · rw [EachOnce, ← own, batch, List.map_cons] at once
          rw [if_pos own, ← own, Function.update_self, List.append_assoc]
          exact once
        · rw [if_neg own, List.append_nil, Function.update_of_ne (Ne.symm own)]
          exact once
  | ack index =>
      rcases settle_cases taken with ⟨d, found, ⟨text, -, rfl⟩ | ⟨flags, -, rfl⟩⟩
      · exact once
      · change (yielded (s.deliveries.set index _) worker ++ _).Nodup
        rw [yielded_settled found]
        exact once
  | nack index =>
      rcases settle_cases taken with ⟨d, found, ⟨text, -, rfl⟩ | ⟨flags, -, rfl⟩⟩
      · exact once
      · change (yielded (s.deliveries.set index _) worker ++ _).Nodup
        rw [yielded_settled found]
        exact once

end Steps

theorem eraseDups_of_nodup {ids : List Nat} (distinct : ids.Nodup) : ids.eraseDups = ids := by
  induction ids with
  | nil => rfl
  | cons id rest ih =>
      rcases List.nodup_cons.mp distinct with ⟨absent, others⟩
      have kept : rest.filter (fun other => !other == id) = rest := by
        apply List.filter_eq_self.mpr
        intro other member
        have differs : other ≠ id := fun same => absent (same ▸ member)
        simpa using differs
      rw [List.eraseDups_cons, kept, ih others]

/-- The only iterator of a group yields the rows of the group for the first time in the order of
their insertion, and skips none; and where each message is acked before the next is asked for, it
yields the first rows, each once. -/
theorem yields_in_order (dialect : Dialect) (config : Nat → SQLConfig) (worker : Nat)
    (single : ∀ other, (config other).consumerGroup = (config worker).consumerGroup →
      other = worker) (now : Time) (events : List (Event κ)) (s : State κ)
    (ran : exec (step dialect config) (initial κ now) events = some s) :
    (groupRows s.table (config worker).consumerGroup).map Row.content =
        published (config worker).consumerGroup events ∧
      (yielded s.deliveries worker).eraseDups <+:
        (groupRows s.table (config worker).consumerGroup).map Row.id ∧
      (Along (step dialect config) (AcksFirst worker) (initial κ now) events →
        yielded s.deliveries worker <+:
            (groupRows s.table (config worker).consumerGroup).map Row.id ∧
          (yielded s.deliveries worker).Nodup) := by
  have only : ∀ other, (config other).consumerGroup = (config worker).consumerGroup ↔
      other = worker := fun other => ⟨single other, fun same => same ▸ rfl⟩
  have inv : InOrder (config worker).consumerGroup worker s :=
    exec_preserves (fun _ _ _ inv taken => step_inOrder only inv taken)
      (initial_inOrder _ worker now) ran
  have order := inv.rows.order
  refine ⟨run_published ran, ⟨_, order⟩, fun acks => ?_⟩
  have once : InOrder (config worker).consumerGroup worker s ∧ EachOnce worker s := by
    refine exec_invariant
      (I := fun s => InOrder (config worker).consumerGroup worker s ∧ EachOnce worker s)
      (fun s e t both acked taken => ?_) ⟨initial_inOrder _ worker now, ?_⟩ acks ran
    · exact ⟨step_inOrder only both.1 taken, step_eachOnce only both.1 both.2 acked taken⟩
    · exact List.nodup_nil
  have distinct := (List.nodup_append'.mp once.2).1
  rw [eraseDups_of_nodup distinct] at order
  exact ⟨⟨_, order⟩, distinct⟩

def orderlyConfig : Nat → SQLConfig
  | 0 => ⟨[], 30, 2⟩
  | _ => ⟨[0], 30, 2⟩

def nackedRun : List (Event Bool) :=
  [.insert true [], .insert false [], .select 0, .claim 0, .tick 1, .nack 0, .claim 0, .select 0,
    .claim 0]

def orderlyRun : List (Event Bool) :=
  [.insert true [], .insert false [], .select 0, .claim 0, .ack 0, .claim 0, .insert true [],
    .ack 1, .select 0, .claim 0]

theorem nackedRun_runs :
    (exec (step .sqlite orderlyConfig) (initial Bool 0) nackedRun).isSome = true := by decide

theorem orderlyRun_runs :
    (exec (step .sqlite orderlyConfig) (initial Bool 0) orderlyRun).isSome = true := by decide

def nackedEnd : State Bool :=
  (exec (step .sqlite orderlyConfig) (initial Bool 0) nackedRun).get nackedRun_runs

def orderlyEnd : State Bool :=
  (exec (step .sqlite orderlyConfig) (initial Bool 0) orderlyRun).get orderlyRun_runs

theorem orderlyRun_yields :
    (groupRows nackedEnd.table []).map Row.content = [true, false] ∧
      (yielded nackedEnd.deliveries 0).eraseDups <+: (groupRows nackedEnd.table []).map Row.id ∧
      yielded orderlyEnd.deliveries 0 <+: (groupRows orderlyEnd.table []).map Row.id ∧
      (yielded orderlyEnd.deliveries 0).Nodup ∧ yielded orderlyEnd.deliveries 0 = [1, 2, 3] := by
  have only : ∀ other, (orderlyConfig other).consumerGroup = (orderlyConfig 0).consumerGroup →
      other = 0 := by
    intro other same
    cases other with
    | zero => rfl
    | succ other => cases same
  have nacked := yields_in_order .sqlite orderlyConfig 0 only 0 nackedRun _
    (Option.some_get nackedRun_runs).symm
  have acked := yields_in_order .sqlite orderlyConfig 0 only 0 orderlyRun _
    (Option.some_get orderlyRun_runs).symm
  have first : Along (step .sqlite orderlyConfig) (AcksFirst 0) (initial Bool 0) orderlyRun := by
    decide
  rcases acked.2.2 first with ⟨inOrder, once⟩
  exact ⟨nacked.1, nacked.2.1, inOrder, once, by decide⟩

end Natricine.Sql
