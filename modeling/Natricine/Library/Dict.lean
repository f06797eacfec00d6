import Mathlib.Data.List.Nodup
import Mathlib.Tactic.Common

/-! Finite maps that keep their keys in the order in which they were first set: the operations on
lists of entries, and the lists whose keys are apart. -/

namespace Entries

variable {κ ν : Type} [DecidableEq κ] {entries new : List (κ × ν)} {key other : κ} {value : ν}

def get? (entries : List (κ × ν)) (key : κ) : Option ν :=
  (entries.find? (fun entry => entry.1 = key)).map Prod.snd

def set (entries : List (κ × ν)) (key : κ) (value : ν) : List (κ × ν) :=
  if key ∈ entries.map Prod.fst then
    entries.map (fun entry => if entry.1 = key then (key, value) else entry)
  else entries ++ [(key, value)]

/-- `{**entries, **new}` -/
def update (entries new : List (κ × ν)) : List (κ × ν) :=
  new.foldl (fun entries entry => set entries entry.1 entry.2) entries

theorem set_of_mem (member : key ∈ entries.map Prod.fst) :
    set entries key value =
      entries.map (fun entry => if entry.1 = key then (key, value) else entry) :=
  if_pos member

theorem set_of_not_mem (fresh : key ∉ entries.map Prod.fst) :
    set entries key value = entries ++ [(key, value)] :=
  if_neg fresh

theorem mem_set_iff {entry : κ × ν} :
    entry ∈ set entries key value ↔ entry = (key, value) ∨ (entry.1 ≠ key ∧ entry ∈ entries) := by
  by_cases member : key ∈ entries.map Prod.fst
  · rw [set_of_mem member, List.mem_map]
    constructor
    · rintro ⟨old, inside, rfl⟩
      split
      · exact Or.inl rfl
      · rename_i differs
        exact Or.inr ⟨differs, inside⟩
    · rintro (rfl | ⟨differs, inside⟩)
      · rcases List.mem_map.mp member with ⟨old, inside, same⟩
        exact ⟨old, inside, if_pos same⟩
      · exact ⟨entry, inside, if_neg differs⟩
  · rw [set_of_not_mem member, List.mem_append, List.mem_singleton]
    constructor
    · rintro (inside | rfl)
      · refine Or.inr ⟨?_, inside⟩
        rintro rfl
        exact member (List.mem_map_of_mem inside)
      · exact Or.inl rfl
    · rintro (rfl | ⟨-, inside⟩)
      · exact Or.inr rfl
      · exact Or.inl inside

theorem nodup_set (distinct : (entries.map Prod.fst).Nodup) :
    ((set entries key value).map Prod.fst).Nodup := by
  by_cases member : key ∈ entries.map Prod.fst
  · have same : (fun entry : κ × ν => (if entry.1 = key then (key, value) else entry).1) =
        Prod.fst := by
      funext entry
      split
      · rename_i here
        exact here.symm
      · rfl
    rw [set_of_mem member, List.map_map, Function.comp_def, same]
    exact distinct
  · rw [set_of_not_mem member, List.map_append]
    apply List.nodup_append'.mpr
    refine ⟨distinct, List.nodup_singleton _, ?_⟩
    exact List.disjoint_singleton.mpr member

theorem get?_set_of_ne (differs : other ≠ key) :
    get? (set entries key value) other = get? entries other := by
  rw [get?, get?]
  by_cases member : key ∈ entries.map Prod.fst
  · have unmoved : (fun old : κ × ν => decide (old.1 = other)) ∘
        (fun old => if old.1 = key then (key, value) else old) =
          fun old => decide (old.1 = other) := by
      funext old
      by_cases same : old.1 = key <;> simp [same]
    rw [set_of_mem member, List.find?_map, unmoved, Option.map_map]
    cases found : entries.find? (fun old => decide (old.1 = other)) with
    | none => rfl
    | some old =>
        have here : old.1 = other := by simpa using List.find?_some found
        simp [here, differs]
  · simp [set_of_not_mem member, List.find?_append, differs.symm]

theorem mem_update {entry : κ × ν} (member : entry ∈ entries)
    (unwritten : entry.1 ∉ new.map Prod.fst) : entry ∈ update entries new := by
  induction new generalizing entries with
  | nil => exact member
  | cons first rest ih =>
      rw [List.map_cons] at unwritten
      apply ih
      · exact mem_set_iff.mpr (Or.inr ⟨List.ne_of_not_mem_cons unwritten, member⟩)
      · exact List.not_mem_of_not_mem_cons unwritten

theorem get?_update_of_not_mem (unwritten : key ∉ new.map Prod.fst) :
    get? (update entries new) key = get? entries key := by
  induction new generalizing entries with
  | nil => rfl
  | cons first rest ih =>
      rw [List.map_cons] at unwritten
      rw [update, List.foldl_cons, ← update, ih (List.not_mem_of_not_mem_cons unwritten),
        get?_set_of_ne (List.ne_of_not_mem_cons unwritten)]

end Entries

structure Dict (κ ν : Type) where
  entries : List (κ × ν)
  distinct : (entries.map Prod.fst).Nodup

namespace Dict

variable {κ ν : Type}

def empty : Dict κ ν := ⟨[], List.nodup_nil⟩

def keys (d : Dict κ ν) : List κ := d.entries.map Prod.fst

def mapValues {μ : Type} (f : ν → μ) (d : Dict κ ν) : Dict κ μ where
  entries := d.entries.map (fun entry => (entry.1, f entry.2))
  distinct := by
    rw [List.map_map]
    exact d.distinct

theorem mapValues_entries {μ : Type} (f : ν → μ) (d : Dict κ ν) :
    (d.mapValues f).entries = d.entries.map (fun entry => (entry.1, f entry.2)) := rfl

theorem eq_of_entries {d other : Dict κ ν} (same : d.entries = other.entries) : d = other := by
  rcases d with ⟨entries, distinct⟩
  cases same
  rfl

theorem keys_filterMap_sublist {μ : Type} (f : κ → ν → Option μ) (entries : List (κ × ν)) :
    List.Sublist ((entries.filterMap (fun entry => (f entry.1 entry.2).map (entry.1, ·))).map
      Prod.fst) (entries.map Prod.fst) := by
  induction entries with
  | nil => exact List.Sublist.refl _
  | cons entry rest ih =>
      cases given : f entry.1 entry.2 with
      | none =>
          rw [List.filterMap_cons_none (by rw [given]; rfl)]
          exact ih.cons _
      | some value =>
          rw [List.filterMap_cons_some (by rw [given]; rfl)]
          exact ih.cons_cons _

variable [DecidableEq κ]

def get? (d : Dict κ ν) (key : κ) : Option ν := Entries.get? d.entries key

def set (d : Dict κ ν) (key : κ) (value : ν) : Dict κ ν :=
  ⟨Entries.set d.entries key value, Entries.nodup_set d.distinct⟩

variable {d : Dict κ ν} {key other : κ} {value : ν}

theorem get?_eq_some_iff : d.get? key = some value ↔ (key, value) ∈ d.entries := by
  constructor
  · intro found
    rcases Option.map_eq_some_iff.mp found with ⟨entry, here, rfl⟩
    have same : entry.1 = key := by simpa using List.find?_some here
    rw [← same]
    exact List.mem_of_find?_eq_some here
  · intro member
    cases found : d.entries.find? (fun entry => entry.1 = key) with
    | none =>
        have absent := List.find?_eq_none.mp found _ member
        simp at absent
    | some entry =>
        have same : entry.1 = key := by simpa using List.find?_some found
        have unique := List.inj_on_of_nodup_map d.distinct (List.mem_of_find?_eq_some found) member
          same
        rw [get?, Entries.get?, found, unique]
        rfl

theorem mem_keys_iff : key ∈ d.keys ↔ ∃ value, d.get? key = some value := by
  simp only [get?_eq_some_iff, keys, List.mem_map, Prod.exists, exists_and_right, exists_eq_right]

theorem get?_eq_none_iff : d.get? key = none ↔ key ∉ d.keys := by
  rw [mem_keys_iff, Option.eq_none_iff_forall_ne_some]
  push Not
  rfl

theorem filter_entries :
    d.entries.filter (fun entry => entry.1 = key) =
      (d.get? key).toList.map (fun value => (key, value)) := by
  cases found : d.get? key with
  | none =>
      apply List.filter_eq_nil_iff.mpr
      intro entry member same
      apply get?_eq_none_iff.mp found
      exact List.mem_map.mpr ⟨entry, member, of_decide_eq_true same⟩
  | some value =>
      apply List.perm_singleton.mp
      apply (List.perm_ext_iff_of_nodup (d.distinct.of_map.filter _) (List.nodup_singleton _)).mpr
      intro entry
      rw [List.mem_filter, decide_eq_true_iff, List.mem_singleton]
      constructor
      · rintro ⟨member, rfl⟩
        rw [get?_eq_some_iff.mpr member] at found
        cases found
        rfl
      · rintro rfl
        exact ⟨get?_eq_some_iff.mp found, rfl⟩

theorem mem_entries_set {entry : κ × ν} :
    entry ∈ (d.set key value).entries ↔
      entry = (key, value) ∨ (entry.1 ≠ key ∧ entry ∈ d.entries) :=
  Entries.mem_set_iff

theorem get?_set_self : (d.set key value).get? key = some value :=
  get?_eq_some_iff.mpr (mem_entries_set.mpr (Or.inl rfl))

theorem get?_set_of_ne (differs : other ≠ key) : (d.set key value).get? other = d.get? other :=
  Entries.get?_set_of_ne differs

theorem get?_set :
    (d.set key value).get? other = if other = key then some value else d.get? other := by
  split
  · rename_i same
    rw [same, get?_set_self]
  · rename_i differs
    rw [get?_set_of_ne differs]

theorem mem_keys_set : other ∈ (d.set key value).keys ↔ other = key ∨ other ∈ d.keys := by
  simp only [mem_keys_iff, get?_set]
  split <;> simp_all

theorem entries_set_of_mem (member : key ∈ d.keys) : (d.set key value).entries =
    d.entries.map (fun entry => if entry.1 = key then (key, value) else entry) :=
  Entries.set_of_mem member

theorem entries_set_of_fresh (fresh : key ∉ d.keys) :
    (d.set key value).entries = d.entries ++ [(key, value)] :=
  Entries.set_of_not_mem fresh

section SetAll

variable {entries : List (κ × ν)}

/-- `for key, value in entries: d[key] = value` -/
def setAll (d : Dict κ ν) (entries : List (κ × ν)) : Dict κ ν :=
  entries.foldl (fun d entry => d.set entry.1 entry.2) d

theorem entries_setAll_of_fresh (fresh : (d.keys ++ entries.map Prod.fst).Nodup) :
    (d.setAll entries).entries = d.entries ++ entries := by
  induction entries generalizing d with
  | nil => exact (List.append_nil _).symm
  | cons entry rest ih =>
      have absent : entry.1 ∉ d.keys := by
        intro member
        exact (List.nodup_append'.mp fresh).2.2 member List.mem_cons_self
      have set : (d.set entry.1 entry.2).entries = d.entries ++ [(entry.1, entry.2)] :=
        entries_set_of_fresh absent
      have later := ih (d := d.set entry.1 entry.2) (by
        rw [keys, set, List.map_append, List.append_assoc]
        exact fresh)
      rw [set, List.append_assoc] at later
      exact later

theorem setAll_entries (d : Dict κ ν) : empty.setAll d.entries = d :=
  eq_of_entries (entries_setAll_of_fresh (d := empty) d.distinct)

theorem get?_setAll (distinct : (entries.map Prod.fst).Nodup) :
    (d.setAll entries).get? key = (Entries.get? entries key).or (d.get? key) := by
  rw [Entries.get?]
  induction entries generalizing d with
  | nil => rfl
  | cons entry rest ih =>
      rcases List.nodup_cons.mp distinct with ⟨absent, others⟩
      have later := ih (d := d.set entry.1 entry.2) others
      rw [setAll] at later ⊢
      rw [List.foldl_cons, later, get?_set]
      by_cases same : key = entry.1
      · have missing : rest.find? (fun other => other.1 = key) = none := by
          apply List.find?_eq_none.mpr
          intro other member found
          apply absent
          rw [← same, ← of_decide_eq_true found]
          exact List.mem_map_of_mem member
        rw [missing, if_pos same, List.find?_cons_of_pos (by simp [same])]
        rfl
      · rw [if_neg same, List.find?_cons_of_neg (by simp [Ne.symm same])]

theorem mapValues_set {μ : Type} (f : ν → μ) :
    (d.set key value).mapValues f = (d.mapValues f).set key (f value) := by
  have keys : (d.mapValues f).keys = d.keys := by
    rw [Dict.keys, Dict.keys, mapValues, List.map_map]
    rfl
  apply eq_of_entries
  by_cases member : key ∈ d.keys
  · rw [mapValues_entries, entries_set_of_mem member, entries_set_of_mem (keys ▸ member)]
    simp only [mapValues, List.map_map]
    apply List.map_congr_left
    intro entry _
    simp only [Function.comp_apply]
    split <;> rfl
  · rw [entries_set_of_fresh (keys ▸ member), mapValues_entries, entries_set_of_fresh member,
      List.map_append]
    rfl

theorem mapValues_setAll {μ : Type} (f : ν → μ) :
    (d.setAll entries).mapValues f =
      (d.mapValues f).setAll (entries.map (fun entry => (entry.1, f entry.2))) := by
  induction entries generalizing d with
  | nil => rfl
  | cons entry rest ih =>
      have later := ih (d := d.set entry.1 entry.2)
      rw [mapValues_set] at later
      exact later

theorem get?_mapValues {μ : Type} (f : ν → μ) (d : Dict κ ν) :
    (d.mapValues f).get? key = (d.get? key).map f := by
  rw [get?, Entries.get?, mapValues_entries, List.find?_map, Option.map_map, get?, Entries.get?,
    Option.map_map]
  rfl

theorem foldl_value (d : Dict κ ν) (key : κ) :
    d.entries.foldl (fun value entry => if entry.1 = key then some entry.2 else value) none =
      d.get? key := by
  have kept : ∀ (entries : List (κ × ν)) (start : Dict κ ν),
      entries.foldl (fun value entry => if entry.1 = key then some entry.2 else value)
        (start.get? key) = (start.setAll entries).get? key := by
    intro entries
    induction entries with
    | nil => exact fun _ => rfl
    | cons entry rest ih =>
        intro start
        have later := ih (start.set entry.1 entry.2)
        rw [get?_set] at later
        rw [List.foldl_cons]
        simp only [eq_comm (a := key)] at later
        exact later
  have whole := kept d.entries empty
  rw [setAll_entries] at whole
  exact whole

def filterMap {μ : Type} (f : κ → ν → Option μ) (d : Dict κ ν) : Dict κ μ :=
  empty.setAll (d.entries.filterMap (fun entry => (f entry.1 entry.2).map (entry.1, ·)))

theorem entries_filterMap {μ : Type} (f : κ → ν → Option μ) (d : Dict κ ν) :
    (d.filterMap f).entries =
      d.entries.filterMap (fun entry => (f entry.1 entry.2).map (entry.1, ·)) :=
  entries_setAll_of_fresh (d := empty) (d.distinct.sublist (keys_filterMap_sublist f d.entries))

theorem get?_filterMap {μ : Type} (f : κ → ν → Option μ) (d : Dict κ ν) :
    (d.filterMap f).get? key = (d.get? key).bind (f key) := by
  apply Option.ext
  intro found
  rw [get?_eq_some_iff, entries_filterMap, List.mem_filterMap, Option.bind_eq_some_iff]
  constructor
  · rintro ⟨entry, member, made⟩
    rcases Option.map_eq_some_iff.mp made with ⟨value, given, same⟩
    cases same
    exact ⟨entry.2, get?_eq_some_iff.mpr member, given⟩
  · rintro ⟨value, here, given⟩
    exact ⟨(key, value), get?_eq_some_iff.mp here, by rw [given]; rfl⟩

end SetAll

end Dict
