import Natricine.Library.Hex

/-! Python's `uuid.UUID`: its text, and what its constructor reads, which is all that `int(hex, 16)`
takes once the decoration of a UUID is gone. -/

namespace Uuid

open Text

/-- What the interpreter's Unicode tables say of a character beyond ASCII. -/
structure Unicode where
  isSpace : CodePoint → Bool
  decimal : CodePoint → Option (Fin 10)

def hyphen : CodePoint := 45

def underscore : CodePoint := 95

def hyphenated (hex : Str) : Str :=
  hex.take 8 ++ hyphen :: ((hex.drop 8).take 4 ++ hyphen :: ((hex.drop 12).take 4 ++
    hyphen :: ((hex.drop 16).take 4 ++ hyphen :: hex.drop 20)))

/-- `str(uuid)` -/
def toStr (uuid : BitVec 128) : Str := hyphenated (Hex.format 32 uuid.toNat)

/-- `text.replace(pattern, "")`; so many characters of the match are still to be left out. -/
def remove (pattern : Str) : Nat → Str → Str
  | _, [] => []
  | left + 1, _ :: rest => remove pattern left rest
  | 0, c :: rest =>
      if pattern.isPrefixOf (c :: rest) then remove pattern (pattern.length - 1) rest
      else c :: remove pattern 0 rest

/-- `text.strip(chars)` -/
def strip (chars : Str) (text : Str) : Str :=
  ((text.dropWhile (· ∈ chars)).reverse.dropWhile (· ∈ chars)).reverse

/-- The text that `int` works on; ASCII is left alone. -/
def transform (unicode : Unicode) (text : Str) : Option Str :=
  if ∀ c ∈ text, c.val < 128 then some text
  else text.mapM fun c =>
    if c.val < 127 then some c
    else if unicode.isSpace c then some 32
    else (unicode.decimal c).map fun d => ⟨48 + d.val, by omega⟩

def isSpace (c : CodePoint) : Bool := c.val = 32 || (9 ≤ c.val && c.val ≤ 13)

/-- The hexadecimal number at the start of the text, and what comes behind it; single underscores
may stand between its digits. -/
def readDigits (underscored : Bool) (value : Nat) : Str → Option (Nat × Str)
  | [] => if underscored then none else some (value, [])
  | c :: rest =>
      match Hex.value? c with
      | some d => readDigits false (value * 16 + d.val) rest
      | none =>
          if underscored then none
          else if c = underscore then readDigits true value rest
          else some (value, c :: rest)

/-- Without the prefix `0x`, and the underscore that may follow it. -/
def unprefixed : Str → Str
  | zero :: x :: rest =>
      if zero.val = 48 ∧ (x.val = 120 ∨ x.val = 88) then
        match rest with
        | c :: others => if c = underscore then others else rest
        | [] => []
      else zero :: x :: rest
  | text => text

def readUnsigned (text : Str) : Option Nat := do
  let first ← text.head?
  guard (Hex.value? first).isSome
  let (value, rest) ← readDigits false 0 text
  guard (rest.dropWhile isSpace = [])
  return value

/-- `int(text, 16)` -/
def int16 (unicode : Unicode) (text : Str) : Option Int := do
  match (← transform unicode text).dropWhile isSpace with
  | [] => none
  | sign :: rest =>
      if sign.val = 43 then return (← readUnsigned (unprefixed rest))
      else if sign.val = 45 then return -(← readUnsigned (unprefixed rest))
      else return (← readUnsigned (unprefixed (sign :: rest)))

def urn : Str := [117, 114, 110, 58]

def uuidPrefix : Str := [117, 117, 105, 100, 58]

def braces : Str := [123, 125]

def ofInt? (value : Int) : Option (BitVec 128) :=
  if 0 ≤ value ∧ value < 2 ^ 128 then some (BitVec.ofNat 128 value.toNat) else none

/-- `UUID(hex)`, `none` where it raises `ValueError`. -/
def parse (unicode : Unicode) (hex : Str) : Option (BitVec 128) :=
  let bare := strip braces (remove uuidPrefix 0 (remove urn 0 hex))
  let digits := bare.filter (· ≠ hyphen)
  if digits.length = 32 then (int16 unicode digits).bind ofInt? else none

theorem remove_of_not_mem {first : CodePoint} {pattern text : Str} (absent : first ∉ text) :
    remove (first :: pattern) 0 text = text := by
  induction text with
  | nil => rfl
  | cons c rest ih =>
      have differs : first ≠ c := fun same => absent (same ▸ List.mem_cons_self)
      have later := ih (fun member => absent (List.mem_cons_of_mem c member))
      have apart : (first :: pattern).isPrefixOf (c :: rest) = false := by
        simp [List.isPrefixOf, differs]
      rw [remove, apart, if_neg Bool.false_ne_true, later]

theorem dropWhile_of_none {p : CodePoint → Bool} {text : Str} (none : ∀ c ∈ text, p c = false) :
    text.dropWhile p = text := by
  cases text with
  | nil => rfl
  | cons c rest => rw [List.dropWhile_cons, none c List.mem_cons_self, if_neg Bool.false_ne_true]

theorem strip_of_none {chars text : Str} (none : ∀ c ∈ text, c ∉ chars) :
    strip chars text = text := by
  have front : text.dropWhile (· ∈ chars) = text :=
    dropWhile_of_none (fun c member => decide_eq_false (none c member))
  have back : text.reverse.dropWhile (· ∈ chars) = text.reverse :=
    dropWhile_of_none (fun c member => decide_eq_false (none c (List.mem_reverse.mp member)))
  rw [strip, front, back, List.reverse_reverse]

theorem readDigits_digits (value : Nat) (ds : List (Fin 16)) :
    readDigits false value (ds.map Hex.digit) = some (Hex.ofDigits value ds, []) := by
  induction ds generalizing value with
  | nil => rfl
  | cons d ds ih =>
      rw [List.map_cons, readDigits, Hex.value_digit]
      exact ih (value * 16 + d.val)

theorem digit_lt : ∀ d : Fin 16, (Hex.digit d).val < 127 := by decide

theorem digit_plain : ∀ d : Fin 16, isSpace (Hex.digit d) = false ∧ (Hex.digit d).val ≠ 43 ∧
    (Hex.digit d).val ≠ 45 ∧ (Hex.digit d).val ≠ 120 ∧ (Hex.digit d).val ≠ 88 := by decide

theorem transform_digits (unicode : Unicode) (ds : List (Fin 16)) :
    transform unicode (ds.map Hex.digit) = some (ds.map Hex.digit) := by
  apply if_pos
  intro c member
  rcases List.mem_map.mp member with ⟨d, -, rfl⟩
  exact (digit_lt d).trans (by decide)

theorem unprefixed_digits (ds : List (Fin 16)) :
    unprefixed (ds.map Hex.digit) = ds.map Hex.digit := by
  match ds with
  | [] | [_] => rfl
  | _ :: second :: _ =>
      have plain := digit_plain second
      apply if_neg
      rintro ⟨-, lower | upper⟩
      · exact plain.2.2.2.1 lower
      · exact plain.2.2.2.2 upper

theorem int16_digits (unicode : Unicode) (first : Fin 16) (ds : List (Fin 16)) :
    int16 unicode ((first :: ds).map Hex.digit) =
      some ((Hex.ofDigits 0 (first :: ds) : Nat) : Int) := by
  have plain := digit_plain first
  have read := readDigits_digits 0 (first :: ds)
  have bare := unprefixed_digits (first :: ds)
  rw [List.map_cons] at read bare
  have space : (Hex.digit first :: ds.map Hex.digit).dropWhile isSpace =
      Hex.digit first :: ds.map Hex.digit := by
    rw [List.dropWhile_cons, plain.1, if_neg Bool.false_ne_true]
  rw [int16, transform_digits, List.map_cons]
  simp only [Option.bind_eq_bind, Option.bind_some, space, if_neg plain.2.1, if_neg plain.2.2.1,
    bare, readUnsigned, List.head?_cons, Hex.value_digit, Option.isSome_some, read]
  rfl

theorem filter_hyphenated {hex : Str} (plain : ∀ c ∈ hex, c ≠ hyphen) :
    (hyphenated hex).filter (· ≠ hyphen) = hex := by
  have kept : ∀ part : Str, part ⊆ hex → part.filter (· ≠ hyphen) = part := by
    intro part inside
    exact List.filter_eq_self.mpr (fun c member => decide_eq_true (plain c (inside member)))
  have taken : ∀ from_ count, ((hex.drop from_).take count).filter (· ≠ hyphen) =
      (hex.drop from_).take count := by
    intro from_ count
    exact kept _ (List.Subset.trans (List.take_subset _ _) (List.drop_subset _ _))
  have front := kept _ (List.take_subset 8 hex)
  have back := kept _ (List.drop_subset 20 hex)
  have joined : ∀ from_, (hex.drop from_).take 4 ++ hex.drop (from_ + 4) = hex.drop from_ := by
    intro from_
    rw [← List.drop_drop, List.take_append_drop]
  have hyphens : ∀ rest : Str, (hyphen :: rest).filter (· ≠ hyphen) = rest.filter (· ≠ hyphen) :=
    fun rest => List.filter_cons_of_neg (by simp)
  rw [hyphenated]
  simp only [List.filter_append, hyphens, front, taken, back]
  rw [joined 16, joined 12, joined 8, List.take_append_drop]

theorem filter_toStr (uuid : BitVec 128) :
    (toStr uuid).filter (· ≠ hyphen) = Hex.format 32 uuid.toNat := by
  apply filter_hyphenated
  intro c member
  rcases List.mem_map.mp member with ⟨d, -, rfl⟩
  exact Hex.digit_ne_of_value (by decide) d

theorem mem_toStr {uuid : BitVec 128} {c : CodePoint} (member : c ∈ toStr uuid) :
    c = hyphen ∨ ∃ d, c = Hex.digit d := by
  by_cases same : c = hyphen
  · exact Or.inl same
  · have inside : c ∈ (toStr uuid).filter (· ≠ hyphen) :=
      List.mem_filter.mpr ⟨member, decide_eq_true same⟩
    rw [filter_toStr] at inside
    rcases List.mem_map.mp inside with ⟨d, -, rfl⟩
    exact Or.inr ⟨d, rfl⟩

theorem toStr_ne_nil (uuid : BitVec 128) : toStr uuid ≠ [] := by
  intro none
  have inside : hyphen ∈ toStr uuid := by simp [toStr, hyphenated]
  rw [none] at inside
  cases inside

theorem encodeUtf8_toStr (uuid : BitVec 128) : ∃ bytes, encodeUtf8 (toStr uuid) = some bytes := by
  apply encodeUtf8_of_valid
  intro c member
  left
  rcases mem_toStr member with rfl | ⟨d, rfl⟩
  · decide
  · exact (digit_lt d).trans (by decide)

theorem int16_format (unicode : Unicode) (uuid : BitVec 128) :
    int16 unicode (Hex.format 32 uuid.toNat) = some (uuid.toNat : Int) := by
  have length := Hex.length_digits 32 uuid.toNat
  have number := Hex.ofDigits_digits 32 uuid.toNat 0
  have below : uuid.toNat < 16 ^ 32 := by
    have bound := uuid.isLt
    omega
  rw [Nat.mod_eq_of_lt below, Nat.zero_mul, Nat.zero_add] at number
  rw [Hex.format]
  cases listed : Hex.digits 32 uuid.toNat with
  | nil =>
      rw [listed] at length
      cases length
  | cons first ds =>
      rw [listed] at number
      rw [int16_digits, number]

theorem ofInt_toNat (uuid : BitVec 128) : ofInt? uuid.toNat = some uuid := by
  have bound : (0 : Int) ≤ uuid.toNat ∧ (uuid.toNat : Int) < 2 ^ 128 := by
    have below := uuid.isLt
    omega
  have same : BitVec.ofNat 128 uuid.toNat = uuid := by
    rw [BitVec.ofNat_toNat, BitVec.setWidth_eq]
  exact (if_pos bound).trans (congrArg some same)

theorem not_mem_toStr {uuid : BitVec 128} {c : CodePoint} (other : c ≠ hyphen)
    (undigit : Hex.value? c = none) : c ∉ toStr uuid := by
  intro member
  rcases mem_toStr member with same | ⟨d, rfl⟩
  · exact other same
  · rw [Hex.value_digit] at undigit
    cases undigit

theorem parse_toStr (unicode : Unicode) (uuid : BitVec 128) :
    parse unicode (toStr uuid) = some uuid := by
  have letter : (117 : CodePoint) ∉ toStr uuid := not_mem_toStr (by decide) (by decide)
  have unbraced : ∀ c ∈ toStr uuid, c ∉ braces := by
    intro c member brace
    rcases List.mem_pair.mp brace with rfl | rfl
    · exact not_mem_toStr (by decide) (by decide) member
    · exact not_mem_toStr (by decide) (by decide) member
  have whole : strip braces (remove uuidPrefix 0 (remove urn 0 (toStr uuid))) = toStr uuid := by
    rw [urn, uuidPrefix, remove_of_not_mem letter, remove_of_not_mem letter,
      strip_of_none unbraced]
  have counted : (Hex.format 32 uuid.toNat).length = 32 := by
    rw [Hex.format, List.length_map, Hex.length_digits]
  calc
    _ = (int16 unicode (Hex.format 32 uuid.toNat)).bind ofInt? := by
      rw [parse, whole, filter_toStr, if_pos counted]
    _ = ofInt? uuid.toNat := by
      rw [int16_format, Option.bind_some]
    _ = some uuid := ofInt_toNat uuid

end Uuid
