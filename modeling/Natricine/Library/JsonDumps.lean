import Natricine.Library.Dict
import Natricine.Library.Json
import Mathlib.Data.List.Chain

/-! Python's `json.dumps` of a dict of strings, and that `loads` undoes it. -/

namespace Json

open Text

def unicodeEscape (unit : Nat) : Str := backslash :: letterU :: Hex.format 4 unit

def escape (c : CodePoint) : Str :=
  match c.val with
  | 34 => [backslash, quote]
  | 92 => [backslash, backslash]
  | 8 => [backslash, 98]
  | 12 => [backslash, 102]
  | 10 => [backslash, 110]
  | 13 => [backslash, 114]
  | 9 => [backslash, 116]
  | n =>
      if 32 ≤ n ∧ n < 127 then [c]
      else if n < 0x10000 then unicodeEscape n
      else unicodeEscape (0xD800 + (n - 0x10000) / 0x400) ++
        unicodeEscape (0xDC00 + (n - 0x10000) % 0x400)

def dumpsStr (text : Str) : Str := quote :: (text.flatMap escape ++ [quote])

def dumpsMember (member : Str × Str) : Str :=
  dumpsStr member.1 ++ colon :: 32 :: dumpsStr member.2

def dumpsMembers : List (Str × Str) → Str
  | [] => []
  | [member] => dumpsMember member
  | member :: rest => dumpsMember member ++ comma :: 32 :: dumpsMembers rest

/-- `json.dumps` of a dict of strings. -/
def dumps (d : Dict Str Str) : Str := openBrace :: (dumpsMembers d.entries ++ [closeBrace])

/-- The dict as `loads` gives it back. -/
def ofStrings (d : Dict Str Str) : Value :=
  .object (d.entries.map (fun entry => (entry.1, .string entry.2)))

def Value.IsDict (value : Value) (d : Dict Str Str) : Prop :=
  ∃ members, value = .object members ∧
    ∀ key, member? members key = (d.get? key).map Value.string

theorem ofStrings_isDict (d : Dict Str Str) : (ofStrings d).IsDict d := by
  refine ⟨(d.mapValues Value.string).entries, ?_, fun key => ?_⟩
  · rw [ofStrings, Dict.mapValues_entries]
  · exact Dict.get?_mapValues Value.string d

/-- No high surrogate stands directly before a low one: in JSON text the two would be one
character. -/
def Unpaired (text : Str) : Prop := text.IsChain (fun c d => ¬(IsHigh c ∧ IsLow d))

instance (text : Str) : Decidable (Unpaired text) :=
  inferInstanceAs (Decidable (List.IsChain _ _))

section Escapes

theorem escape_cases (c : CodePoint) :
    (∃ x, x ≠ letterU ∧ unescape x = some c ∧ escape c = [backslash, x]) ∨
      (c ≠ backslash ∧ c ≠ quote ∧ 32 ≤ c.val ∧ escape c = [c]) ∨
      (c.val < 0x10000 ∧ escape c = unicodeEscape c.val) ∨
      ∃ high low, IsHigh high ∧ IsLow low ∧ joined high low = c ∧
        escape c = unicodeEscape high.val ++ unicodeEscape low.val := by
  rcases c with ⟨n, bound⟩
  by_cases short : n = 34 ∨ n = 92 ∨ n = 8 ∨ n = 12 ∨ n = 10 ∨ n = 13 ∨ n = 9
  · left
    rcases short with rfl | rfl | rfl | rfl | rfl | rfl | rfl
    · exact ⟨quote, by decide, rfl, rfl⟩
    · exact ⟨backslash, by decide, rfl, rfl⟩
    · exact ⟨98, by decide, rfl, rfl⟩
    · exact ⟨102, by decide, rfl, rfl⟩
    · exact ⟨110, by decide, rfl, rfl⟩
    · exact ⟨114, by decide, rfl, rfl⟩
    · exact ⟨116, by decide, rfl, rfl⟩
  · right
    push Not at short
    have long : escape ⟨n, bound⟩ =
        if 32 ≤ n ∧ n < 127 then [⟨n, bound⟩]
        else if n < 0x10000 then unicodeEscape n
        else unicodeEscape (0xD800 + (n - 0x10000) / 0x400) ++
          unicodeEscape (0xDC00 + (n - 0x10000) % 0x400) := by
      rw [escape]
      split
      any_goals
        rename_i same
        change n = _ at same
        omega
      rfl
    rw [long]
    by_cases printable : 32 ≤ n ∧ n < 127
    · left
      refine ⟨?_, ?_, printable.1, if_pos printable⟩
      · exact fun same => short.2.1 (congrArg Fin.val same)
      · exact fun same => short.1 (congrArg Fin.val same)
    · right
      rw [if_neg printable]
      by_cases small : n < 0x10000
      · exact Or.inl ⟨small, if_pos small⟩
      · right
        rw [if_neg small]
        refine ⟨⟨0xD800 + (n - 0x10000) / 0x400, by omega⟩,
          ⟨0xDC00 + (n - 0x10000) % 0x400, by omega⟩, ?_, ?_, ?_, rfl⟩
        · exact ⟨by dsimp only; omega, by dsimp only; omega⟩
        · exact ⟨by dsimp only; omega, by dsimp only; omega⟩
        · apply Fin.ext
          simp only [joined]
          omega

inductive Holds : Reading → Str → Prop where
  | all (text : Str) : Holds ⟨text, .none⟩ text
  | butHigh (text : Str) {high : CodePoint} (surrogate : IsHigh high) :
      Holds ⟨text, .high high⟩ (text ++ [high])

section Reading

/-- A character that `readText` hands on: it does not end the string. -/
def Reading.feed (r : Reading) (c : CodePoint) : Option Reading :=
  if c = quote ∧ r.whole?.isSome then none else r.next c

variable {r : Reading} {text : Str}

theorem Holds.whole (holds : Holds r text) : r.whole? = some text := by
  cases holds <;> rfl

theorem feed_plain (holds : Holds r text) {c : CodePoint} (other : c ≠ backslash)
    (open_ : c ≠ quote) (visible : 32 ≤ c.val) : r.feed c = some ⟨text ++ [c], .none⟩ := by
  have within : ¬c.val < 32 := by omega
  rw [Reading.feed, if_neg (fun ends => open_ ends.1)]
  cases holds with
  | all =>
      simp only [Reading.next, Reading.plain]
      rw [if_neg other, if_neg within]
  | butHigh front surrogate =>
      simp only [Reading.next, Reading.plain]
      rw [if_neg other, if_neg other, if_neg within]

theorem feed_short (holds : Holds r text) {x c : CodePoint} (other : x ≠ letterU)
    (meant : unescape x = some c) :
    [backslash, x].foldlM Reading.feed r = some ⟨text ++ [c], .none⟩ := by
  cases holds with
  | all =>
      have first : Reading.feed ⟨text, .none⟩ backslash = some ⟨text, .backslash⟩ := rfl
      have second : Reading.feed ⟨text, .backslash⟩ x = some ⟨text ++ [c], .none⟩ := by
        rw [Reading.feed, if_neg (fun ends => Bool.false_ne_true ends.2)]
        simp only [Reading.next, Reading.escaped, if_neg other, meant, Option.map_some]
      simp only [List.foldlM_cons, List.foldlM_nil, first, second, Option.bind_eq_bind,
        Option.bind_some, Option.pure_def]
  | @butHigh front high surrogate =>
      have first : Reading.feed ⟨front, .high high⟩ backslash =
          some ⟨front, .highBackslash high⟩ := rfl
      have second : Reading.feed ⟨front, .highBackslash high⟩ x =
          some ⟨front ++ [high] ++ [c], .none⟩ := by
        rw [Reading.feed, if_neg (fun ends => Bool.false_ne_true ends.2)]
        simp only [Reading.next, Reading.escaped, if_neg other, meant, Option.map_some]
      simp only [List.foldlM_cons, List.foldlM_nil, first, second, Option.bind_eq_bind,
        Option.bind_some, Option.pure_def]

theorem feed_digits {state : Nat → Nat → Reading} {whole : CodePoint → Reading} {n : Nat}
    (open_ : ∀ read value, (state read value).whole? = none)
    (reads : ∀ read value c, (state read value).next c = Reading.hex read value c state whole)
    (bound : n < 0x10000) :
    (Hex.format 4 n).foldlM Reading.feed (state 0 0) = some (whole ⟨n, by omega⟩) := by
  have step : ∀ read value (d : Fin 16), (state read value).feed (Hex.digit d) =
      some (if read = 3 then whole (unitOf (value * 16 + d.val))
        else state (read + 1) (value * 16 + d.val)) := by
    intro read value d
    rw [Reading.feed, if_neg, reads, Reading.hex, Hex.value_digit, Option.map_some]
    rw [open_]
    exact fun ends => Bool.false_ne_true ends.2
  have more : ∀ read value (d : Fin 16), read ≠ 3 → (state read value).feed (Hex.digit d) =
      some (state (read + 1) (value * 16 + d.val)) := by
    intro read value d early
    rw [step, if_neg early]
  have last : ∀ value (d : Fin 16), (state 3 value).feed (Hex.digit d) =
      some (whole (unitOf (value * 16 + d.val))) := by
    intro value d
    rw [step, if_pos rfl]
  have value : unitOf ((((0 * 16 + n / 16 / 16 / 16 % 16) * 16 + n / 16 / 16 % 16) * 16 +
      n / 16 % 16) * 16 + n % 16) = ⟨n, by omega⟩ := by
    apply Fin.ext
    simp only [unitOf]
    omega
  simp only [Hex.format, Hex.digits, List.nil_append, List.cons_append, List.map_cons,
    List.map_nil, List.foldlM_cons, List.foldlM_nil, Option.bind_eq_bind, Option.bind_some,
    Option.pure_def, more 0 _ _ (by decide), more 1 _ _ (by decide), more 2 _ _ (by decide), last,
    value]

theorem feed_behindHigh (text : Str) (high : CodePoint) {n : Nat} (bound : n < 0x10000) :
    (unicodeEscape n).foldlM Reading.feed ⟨text, .high high⟩ =
      some (if IsLow ⟨n, by omega⟩ then ⟨text ++ [joined high ⟨n, by omega⟩], .none⟩
        else .unit (text ++ [high]) ⟨n, by omega⟩) := by
  have first : Reading.feed ⟨text, .high high⟩ backslash = some ⟨text, .highBackslash high⟩ := rfl
  have second : Reading.feed ⟨text, .highBackslash high⟩ letterU =
      some ⟨text, .highUnicode high 0 0⟩ := rfl
  simp only [unicodeEscape, List.foldlM_cons, first, second, Option.bind_eq_bind,
    Option.bind_some]
  have next : ∀ read value c, Reading.next ⟨text, .highUnicode high read value⟩ c =
      Reading.hex read value c (fun read value => ⟨text, .highUnicode high read value⟩)
        (fun low => if IsLow low then ⟨text ++ [joined high low], .none⟩
          else .unit (text ++ [high]) low) := fun _ _ _ => rfl
  exact feed_digits (fun _ _ => rfl) next bound

theorem feed_unicodeEscape (holds : Holds r text) {n : Nat} (bound : n < 0x10000)
    (unpaired : ∀ last ∈ text.getLast?, ¬(IsHigh last ∧ IsLow ⟨n, by omega⟩)) :
    (unicodeEscape n).foldlM Reading.feed r = some (.unit text ⟨n, by omega⟩) := by
  cases holds with
  | all =>
      have first : Reading.feed ⟨text, .none⟩ backslash = some ⟨text, .backslash⟩ := rfl
      have second : Reading.feed ⟨text, .backslash⟩ letterU = some ⟨text, .unicode 0 0⟩ := rfl
      simp only [unicodeEscape, List.foldlM_cons, first, second, Option.bind_eq_bind,
        Option.bind_some]
      have next : ∀ read value c, Reading.next ⟨text, .unicode read value⟩ c =
          Reading.hex read value c (fun read value => ⟨text, .unicode read value⟩)
            (.unit text) := fun _ _ _ => rfl
      exact feed_digits (fun _ _ => rfl) next bound
  | @butHigh front high surrogate =>
      have apart : ¬IsLow ⟨n, by omega⟩ := fun low => unpaired high (by simp) ⟨surrogate, low⟩
      rw [feed_behindHigh front high bound, if_neg apart]

theorem holds_unit (text : Str) (c : CodePoint) : Holds (.unit text c) (text ++ [c]) := by
  rw [Reading.unit]
  split
  · rename_i surrogate
    exact .butHigh text surrogate
  · exact .all _

theorem feed_escape (holds : Holds r text) {c : CodePoint}
    (unpaired : ∀ last ∈ text.getLast?, ¬(IsHigh last ∧ IsLow c)) :
    ∃ next, (escape c).foldlM Reading.feed r = some next ∧ Holds next (text ++ [c]) := by
  rcases escape_cases c with ⟨x, other, meant, same⟩ | ⟨other, open_, visible, same⟩ |
    ⟨small, same⟩ | ⟨high, low, isHigh, isLow, rfl, same⟩
  · exact ⟨_, same ▸ feed_short holds other meant, .all _⟩
  · refine ⟨_, ?_, .all _⟩
    rw [same, List.foldlM_cons, feed_plain holds other open_ visible]
    rfl
  · exact ⟨_, same ▸ feed_unicodeEscape holds small unpaired, holds_unit text c⟩
  · have unit : high.val < 0x10000 := by
      unfold IsHigh at isHigh
      omega
    have apart : ¬IsLow high := by
      unfold IsHigh at isHigh
      unfold IsLow
      omega
    have first := feed_unicodeEscape holds unit (fun _ _ both => apart both.2)
    have whole : Reading.unit text high = ⟨text, .high high⟩ := if_pos isHigh
    have second := feed_behindHigh text high (n := low.val) (by
      unfold IsLow at isLow
      omega)
    rw [if_pos isLow] at second
    refine ⟨_, ?_, .all _⟩
    rw [same, List.foldlM_append, first, whole, Option.bind_eq_bind, Option.bind_some, second]

theorem feed_escapes (holds : Holds r text) {rest : Str} (unpaired : Unpaired (text ++ rest)) :
    ∃ next, (rest.flatMap escape).foldlM Reading.feed r = some next ∧
      Holds next (text ++ rest) := by
  induction rest generalizing r text with
  | nil => exact ⟨r, rfl, (List.append_nil text).symm ▸ holds⟩
  | cons c rest ih =>
      have apart : ∀ last ∈ text.getLast?, ¬(IsHigh last ∧ IsLow c) :=
        fun last member => (List.isChain_append.mp unpaired).2.2 last member c rfl
      rcases feed_escape holds apart with ⟨next, fed, held⟩
      rw [List.append_cons] at unpaired
      rcases ih held unpaired with ⟨final, later, whole⟩
      refine ⟨final, ?_, ?_⟩
      · calc
          _ = ((escape c).foldlM Reading.feed r).bind
              (fun s => (rest.flatMap escape).foldlM Reading.feed s) := by
            rw [List.flatMap_cons, List.foldlM_append, Option.bind_eq_bind]
          _ = (rest.flatMap escape).foldlM Reading.feed next := by
            rw [fed, Option.bind_some]
          _ = some final := later
      · rw [List.append_cons]
        exact whole

end Reading

section Runs

variable {limits : Limits}

theorem run_cons {s t : State} {c : CodePoint} (first : step limits s c = .ok t) (rest : Str) :
    run limits s (c :: rest) = run limits t rest := by
  rw [run, List.foldlM_cons, first]
  rfl

theorem run_append {s t : State} {front : Str} (first : run limits s front = .ok t)
    (rest : Str) : run limits s (front ++ rest) = run limits t rest := by
  rw [run] at first
  rw [run, List.foldlM_append, first]
  rfl

theorem run_feed {more : Reading → Mode} {whole : Str → Mode} {stack : List Frame}
    (reads : ∀ r c, step limits ⟨more r, stack⟩ c = readText stack r c more whole)
    {r next : Reading} {text : Str} (fed : text.foldlM Reading.feed r = some next) :
    run limits ⟨more r, stack⟩ text = .ok ⟨more next, stack⟩ := by
  induction text generalizing r with
  | nil =>
      cases fed
      rfl
  | cons c text ih =>
      rw [List.foldlM_cons, Option.bind_eq_bind, Option.bind_eq_some_iff] at fed
      rcases fed with ⟨r', first, later⟩
      have stepped : step limits ⟨more r, stack⟩ c = .ok ⟨more r', stack⟩ := by
        rw [Reading.feed] at first
        split at first
        · cases first
        · rename_i open_
          rw [reads, readText]
          split
          · rename_i ends whole
            exact absurd ⟨of_decide_eq_true ends, by rw [whole]; rfl⟩ open_
          · rw [first]
      rw [run_cons stepped, ih later]

theorem run_string {more : Reading → Mode} {whole : Str → Mode} {stack : List Frame}
    (reads : ∀ r c, step limits ⟨more r, stack⟩ c = readText stack r c more whole)
    {text : Str} (unpaired : Unpaired text) (rest : Str) :
    run limits ⟨more .begun, stack⟩ (text.flatMap escape ++ quote :: rest) =
      run limits ⟨whole text, stack⟩ rest := by
  rcases feed_escapes (r := .begun) (.all []) unpaired with ⟨next, fed, held⟩
  have ended : step limits ⟨more next, stack⟩ quote = .ok ⟨whole text, stack⟩ := by
    rw [reads, readText, held.whole, List.nil_append]
    rfl
  rw [run_append (run_feed reads fed), run_cons ended]

theorem run_member {members : List (Str × Value)} {stack : List Frame} {member : Str × Str}
    (key : Unpaired member.1) (value : Unpaired member.2) (rest : Str) :
    run limits ⟨.key members, stack⟩ (dumpsMember member ++ rest) =
      run limits ⟨.after (.string member.2), .object members member.1 :: stack⟩ rest := by
  have first : step limits ⟨.key members, stack⟩ quote = .ok ⟨.keyText members .begun, stack⟩ :=
    rfl
  have second : step limits ⟨.colon members member.1, stack⟩ colon =
      .ok ⟨.value, .object members member.1 :: stack⟩ := rfl
  have third : step limits ⟨.value, .object members member.1 :: stack⟩ 32 =
      .ok ⟨.value, .object members member.1 :: stack⟩ := rfl
  have fourth : step limits ⟨.value, .object members member.1 :: stack⟩ quote =
      .ok ⟨.text .begun, .object members member.1 :: stack⟩ := rfl
  simp only [dumpsMember, dumpsStr, List.cons_append, List.append_assoc, List.nil_append]
  have keyRead := fun rest =>
    @run_string limits (.keyText members) (.colon members) stack (fun _ _ => rfl) _ key rest
  have valueRead := @run_string limits .text (fun text => .after (.string text))
    (.object members member.1 :: stack) (fun _ _ => rfl) _ value rest
  calc
    _ = run limits ⟨.colon members member.1, stack⟩
        (colon :: 32 :: quote :: (member.2.flatMap escape ++ quote :: rest)) := by
      rw [run_cons first, keyRead]
    _ = run limits ⟨.text .begun, .object members member.1 :: stack⟩
        (member.2.flatMap escape ++ quote :: rest) := by
      rw [run_cons second, run_cons third, run_cons fourth]
    _ = run limits ⟨.after (.string member.2), .object members member.1 :: stack⟩ rest := valueRead

theorem setMember_of_fresh {members : List (Str × Value)} {key : Str}
    (fresh : key ∉ members.map Prod.fst) (value : Value) :
    setMember members key value = members ++ [(key, value)] := if_neg fresh

theorem run_members {entries : List (Str × Str)} {members : List (Str × Value)}
    {stack : List Frame} (some_entry : entries ≠ [])
    (unpaired : ∀ entry ∈ entries, Unpaired entry.1 ∧ Unpaired entry.2)
    (fresh : (members.map Prod.fst ++ entries.map Prod.fst).Nodup) :
    run limits ⟨.key members, stack⟩ (dumpsMembers entries ++ [closeBrace]) =
      .ok ⟨.after (.object (members ++ entries.map (fun entry => (entry.1, .string entry.2)))),
        stack⟩ := by
  induction entries generalizing members with
  | nil => exact absurd rfl some_entry
  | cons entry rest ih =>
      have here := unpaired entry List.mem_cons_self
      have absent : entry.1 ∉ members.map Prod.fst := by
        intro member
        exact (List.nodup_append'.mp fresh).2.2 member List.mem_cons_self
      have set := setMember_of_fresh absent (.string entry.2)
      cases rest with
      | nil =>
          have closed : step limits
              ⟨.after (.string entry.2), .object members entry.1 :: stack⟩ closeBrace =
              .ok ⟨.after (.object (setMember members entry.1 (.string entry.2))), stack⟩ := rfl
          rw [dumpsMembers, run_member here.1 here.2, run_cons closed, set]
          rfl
      | cons second others =>
          have next : step limits
              ⟨.after (.string entry.2), .object members entry.1 :: stack⟩ comma =
              .ok ⟨.key (setMember members entry.1 (.string entry.2)), stack⟩ := rfl
          have spaced : ∀ members : List (Str × Value),
              step limits ⟨.key members, stack⟩ 32 = .ok ⟨.key members, stack⟩ := fun _ => rfl
          have later := @ih (members ++ [(entry.1, .string entry.2)]) (List.cons_ne_nil _ _)
            (fun other member => unpaired other (List.mem_cons_of_mem _ member))
            (by
              rw [List.map_append, List.append_assoc]
              exact fresh)
          have shape : dumpsMembers (entry :: second :: others) ++ [closeBrace] =
              dumpsMember entry ++
                comma :: 32 :: (dumpsMembers (second :: others) ++ [closeBrace]) := by
            simp only [dumpsMembers, List.append_assoc, List.cons_append]
          calc
            _ = run limits ⟨.key (members ++ [(entry.1, .string entry.2)]), stack⟩
                (dumpsMembers (second :: others) ++ [closeBrace]) := by
              rw [shape, run_member here.1 here.2, run_cons next, run_cons (spaced _), set]
            _ = .ok ⟨.after (.object (members ++ [(entry.1, .string entry.2)] ++
                (second :: others).map (fun entry => (entry.1, .string entry.2)))), stack⟩ := later
            _ = .ok ⟨.after (.object (members ++ (entry :: second :: others).map
                (fun entry => (entry.1, .string entry.2)))), stack⟩ := by
              simp only [List.map_cons, List.append_assoc, List.cons_append, List.nil_append]

end Runs

end Escapes

theorem loads_dumps {limits : Limits} (nests : 0 < limits.depth) (d : Dict Str Str)
    (unpaired : ∀ entry ∈ d.entries, Unpaired entry.1 ∧ Unpaired entry.2) :
    loads limits (dumps d) = .ok (ofStrings d) := by
  have opened : step limits ⟨.value, []⟩ openBrace = .ok ⟨.member, []⟩ := by
    have within : ¬limits.depth ≤ 0 := by omega
    exact if_neg within
  rw [loads, dumps, run_cons opened, ofStrings]
  by_cases empty : d.entries = []
  · rw [empty]
    rfl
  · have members := @run_members limits d.entries [] [] empty unpaired d.distinct
    have same : run limits ⟨.member, []⟩ (dumpsMembers d.entries ++ [closeBrace]) =
        run limits ⟨.key [], []⟩ (dumpsMembers d.entries ++ [closeBrace]) := by
      have first : ∃ rest, dumpsMembers d.entries = quote :: rest := by
        match listed : d.entries with
        | [] => exact absurd listed empty
        | [_] | _ :: _ :: _ => exact ⟨_, rfl⟩
      rcases first with ⟨rest, quoted⟩
      rw [quoted]
      rfl
    rw [same, members]
    rfl

end Json
