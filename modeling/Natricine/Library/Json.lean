import Natricine.Library.Hex

/-! Python's `json.loads` as a machine that reads a character at a time, with a stack of the
arrays and objects that are open. -/

namespace Json

open Text

/-- What `loads` raises: `JSONDecodeError`, or what the interpreter's limits make it raise, the
`RecursionError` of deep nesting and the `ValueError` of a long integer. -/
inductive LoadsError where
  | jsonDecodeError
  | recursionError
  | valueError
  deriving DecidableEq, Repr

/-- The limits of the interpreter on nesting and on the digits of an integer; 0 digits are no
limit. -/
structure Limits where
  depth : Nat
  intDigits : Nat

abbrev Digits := List (Fin 10)

/-- A number as it is written, or one of the names that `loads` takes as well. -/
inductive Number where
  | int (negative : Bool) (digits : Digits)
  | float (negative : Bool) (digits fraction : Digits) (exponent : Int)
  | nan
  | infinity (negative : Bool)
  deriving DecidableEq, Repr

inductive Value where
  | null
  | bool (value : Bool)
  | number (value : Number)
  | string (text : Str)
  | array (elements : List Value)
  | object (members : List (Str × Value))

def Digits.value (digits : Digits) : Nat := digits.foldl (fun value d => value * 10 + d.val) 0

def Number.IsZero : Number → Prop
  | .int _ digits => Digits.value digits = 0
  | .float _ digits fraction exponent =>
      let mantissa := Digits.value (digits ++ fraction)
      let scale := exponent - fraction.length
      mantissa = 0 ∨ (scale < 0 ∧ mantissa * 2 ^ 1075 ≤ 10 ^ (-scale).toNat)
  | .nan | .infinity _ => False

/-- `bool(value)` -/
def Value.IsTrue : Value → Prop
  | .null => False
  | .bool value => value = true
  | .number value => ¬value.IsZero
  | .string text => text ≠ []
  | .array elements => elements ≠ []
  | .object members => members ≠ []

instance : (number : Number) → Decidable number.IsZero
  | .int _ _ => inferInstanceAs (Decidable (_ = _))
  | .float _ _ _ _ => inferInstanceAs (Decidable (_ ∨ (_ ∧ _)))
  | .nan | .infinity _ => inferInstanceAs (Decidable False)

instance : (value : Value) → Decidable value.IsTrue
  | .null => inferInstanceAs (Decidable False)
  | .bool _ => inferInstanceAs (Decidable (_ = _))
  | .number _ => inferInstanceAs (Decidable (¬_))
  | .string _ => inferInstanceAs (Decidable (_ ≠ _))
  | .array [] => isFalse (fun other => other rfl)
  | .array (_ :: _) => isTrue (List.cons_ne_nil _ _)
  | .object [] => isFalse (fun other => other rfl)
  | .object (_ :: _) => isTrue (List.cons_ne_nil _ _)

def Value.IsObject (value : Value) : Prop := ∃ members, value = .object members

def member? (members : List (Str × Value)) (key : Str) : Option Value :=
  (members.find? (fun member => member.1 = key)).map Prod.snd

section Characters

def quote : CodePoint := 34

def backslash : CodePoint := 92

def comma : CodePoint := 44

def colon : CodePoint := 58

def openBracket : CodePoint := 91

def closeBracket : CodePoint := 93

def openBrace : CodePoint := 123

def closeBrace : CodePoint := 125

def plus : CodePoint := 43

def minus : CodePoint := 45

def dot : CodePoint := 46

def letterU : CodePoint := 117

def letterI : CodePoint := 73

def IsSpace (c : CodePoint) : Prop := c.val = 32 ∨ c.val = 9 ∨ c.val = 10 ∨ c.val = 13

def IsExponent (c : CodePoint) : Prop := c.val = 101 ∨ c.val = 69

instance (c : CodePoint) : Decidable (IsSpace c) := inferInstanceAs (Decidable (_ ∨ _ ∨ _ ∨ _))

instance (c : CodePoint) : Decidable (IsExponent c) := inferInstanceAs (Decidable (_ ∨ _))

def digit? (c : CodePoint) : Option (Fin 10) :=
  if h : 48 ≤ c.val ∧ c.val ≤ 57 then some ⟨c.val - 48, by omega⟩ else none

def IsHigh (c : CodePoint) : Prop := 0xD800 ≤ c.val ∧ c.val < 0xDC00

def IsLow (c : CodePoint) : Prop := 0xDC00 ≤ c.val ∧ c.val < 0xE000

instance (c : CodePoint) : Decidable (IsHigh c) := inferInstanceAs (Decidable (_ ∧ _))

instance (c : CodePoint) : Decidable (IsLow c) := inferInstanceAs (Decidable (_ ∧ _))

end Characters

section Strings

/-- Where the reading of a string stands: between characters, in an escape, or behind the escape of
a high surrogate, which the escape of a low one would complete. -/
inductive Escape where
  | none
  | backslash
  | unicode (read : Nat) (value : Nat)
  | high (unit : CodePoint)
  | highBackslash (unit : CodePoint)
  | highUnicode (unit : CodePoint) (read : Nat) (value : Nat)
  deriving DecidableEq, Repr

structure Reading where
  text : Str
  escape : Escape
  deriving DecidableEq, Repr

/-- The character that `\` and this one stand for. -/
def unescape (c : CodePoint) : Option CodePoint :=
  match c.val with
  | 34 => some 34
  | 92 => some 92
  | 47 => some 47
  | 98 => some 8
  | 102 => some 12
  | 110 => some 10
  | 114 => some 13
  | 116 => some 9
  | _ => none

def unitOf (value : Nat) : CodePoint := ⟨value % 0x10000, by omega⟩

def joined (high low : CodePoint) : CodePoint :=
  ⟨0x10000 + (high.val - 0xD800) % 0x400 * 0x400 + (low.val - 0xDC00) % 0x400, by omega⟩

namespace Reading

def begun : Reading := ⟨[], .none⟩

def plain (text : Str) (c : CodePoint) : Option Reading :=
  if c = Json.backslash then some ⟨text, .backslash⟩
  else if c.val < 32 then none
  else some ⟨text ++ [c], .none⟩

def escaped (text : Str) (c : CodePoint) : Option Reading :=
  if c = letterU then some ⟨text, .unicode 0 0⟩
  else (unescape c).map fun meant => ⟨text ++ [meant], .none⟩

def unit (text : Str) (c : CodePoint) : Reading :=
  if IsHigh c then ⟨text, .high c⟩ else ⟨text ++ [c], .none⟩

def hex (read value : Nat) (c : CodePoint) (more : Nat → Nat → Reading)
    (whole : CodePoint → Reading) : Option Reading :=
  (Hex.value? c).map fun d =>
    if read = 3 then whole (unitOf (value * 16 + d.val))
    else more (read + 1) (value * 16 + d.val)

/-- A character that does not end the string; `none` where `loads` raises. -/
def next (r : Reading) (c : CodePoint) : Option Reading :=
  match r.escape with
  | .none => plain r.text c
  | .backslash => escaped r.text c
  | .unicode read value => hex read value c (fun read value => ⟨r.text, .unicode read value⟩)
      (unit r.text)
  | .high high =>
      if c = Json.backslash then some ⟨r.text, .highBackslash high⟩
      else plain (r.text ++ [high]) c
  | .highBackslash high =>
      if c = letterU then some ⟨r.text, .highUnicode high 0 0⟩
      else escaped (r.text ++ [high]) c
  | .highUnicode high read value =>
      hex read value c (fun read value => ⟨r.text, .highUnicode high read value⟩) fun low =>
        if IsLow low then ⟨r.text ++ [joined high low], .none⟩
        else unit (r.text ++ [high]) low

def whole? (r : Reading) : Option Str :=
  match r.escape with
  | .none => some r.text
  | .high high => some (r.text ++ [high])
  | _ => none

end Reading

end Strings

section Numbers

/-- `int(digits)` -/
def intOf (limits : Limits) (negative : Bool) (digits : Digits) : Except LoadsError Number :=
  if limits.intDigits ≠ 0 ∧ limits.intDigits < digits.length then .error .valueError
  else .ok (.int negative digits)

def takeDigits : Str → Digits × Str
  | [] => ([], [])
  | c :: rest =>
      match digit? c with
      | some d => (d :: (takeDigits rest).1, (takeDigits rest).2)
      | none => ([], c :: rest)

/-- `0|[1-9]\d*` -/
def takeInteger (text : Str) : Digits × Str :=
  match takeDigits text with
  | (0 :: _, _) => ([0], text.tail)
  | taken => taken

/-- `(\.\d+)?` -/
def takeFraction (text : Str) : Digits × Str :=
  match text with
  | c :: rest => if c = dot ∧ (takeDigits rest).1 ≠ [] then takeDigits rest else ([], text)
  | [] => ([], [])

/-- `[-+]?` -/
def takeSign (text : Str) : Bool × Str :=
  match text with
  | c :: rest =>
      if c = minus then (true, rest) else if c = plus then (false, rest) else (false, text)
  | [] => (false, [])

/-- `([eE][-+]?\d+)?` -/
def takeExponent (text : Str) : Option Int × Str :=
  match text with
  | c :: rest =>
      let (below, unsigned) := takeSign rest
      let (digits, others) := takeDigits unsigned
      if IsExponent c ∧ digits ≠ [] then
        (some (if below then -(Digits.value digits : Int) else Digits.value digits), others)
      else (none, text)
  | [] => (none, [])

/-- What a run of the characters of numbers stands for: a number at its start is converted, and it
is refused if there is more. -/
def numberOf (limits : Limits) (literal : Str) : Except LoadsError Number := do
  let (negative, unsigned) := takeSign literal
  let (digits, rest) := takeInteger unsigned
  if digits = [] then throw .jsonDecodeError
  let (fraction, rest) := takeFraction rest
  let (exponent, rest) := takeExponent rest
  let number ← if fraction = [] ∧ exponent = none then intOf limits negative digits
    else .ok (.float negative digits fraction (exponent.getD 0))
  if rest = [] then return number else throw .jsonDecodeError

def InNumber (c : CodePoint) : Prop :=
  (digit? c).isSome ∨ c = plus ∨ c = minus ∨ c = dot ∨ IsExponent c

instance (c : CodePoint) : Decidable (InNumber c) :=
  inferInstanceAs (Decidable (_ ∨ _ ∨ _ ∨ _ ∨ _))

end Numbers

section Machine

/-- An array or an object that is open, with what it holds so far; of an object, a value is read for
the key. -/
inductive Frame where
  | array (elements : List Value)
  | object (members : List (Str × Value)) (key : Str)

inductive Mode where
  | value
  | element
  | member
  | key (members : List (Str × Value))
  | colon (members : List (Str × Value)) (key : Str)
  | keyText (members : List (Str × Value)) (reading : Reading)
  | text (reading : Reading)
  | name (left : Str) (value : Value)
  | number (literal : Str)
  | after (value : Value)

structure State where
  mode : Mode
  stack : List Frame

abbrev Step := Except LoadsError State

def refused : Step := .error .jsonDecodeError

def setMember (members : List (Str × Value)) (key : Str) (value : Value) :
    List (Str × Value) :=
  if key ∈ members.map Prod.fst then
    members.map (fun member => if member.1 = key then (key, value) else member)
  else members ++ [(key, value)]

def names : List (Str × Value) :=
  [(ofString "null", .null), (ofString "true", .bool true), (ofString "false", .bool false),
    (ofString "NaN", .number .nan), (ofString "Infinity", .number (.infinity false))]

def opens (limits : Limits) (mode : Mode) (stack : List Frame) : Step :=
  if limits.depth ≤ stack.length then .error .recursionError else .ok ⟨mode, stack⟩

def beginValue (limits : Limits) (stack : List Frame) (c : CodePoint) : Step :=
  if IsSpace c then .ok ⟨.value, stack⟩
  else if c = quote then .ok ⟨.text .begun, stack⟩
  else if c = openBrace then opens limits .member stack
  else if c = openBracket then opens limits .element stack
  else if c = minus ∨ (digit? c).isSome then .ok ⟨.number [c], stack⟩
  else
    match names.find? (fun name => name.1.head? = some c) with
    | some name => .ok ⟨.name name.1.tail name.2, stack⟩
    | none => refused

def behind (stack : List Frame) (value : Value) (c : CodePoint) : Step :=
  if IsSpace c then .ok ⟨.after value, stack⟩
  else
    match stack with
    | .array elements :: outer =>
        if c = comma then .ok ⟨.value, .array (elements ++ [value]) :: outer⟩
        else if c = closeBracket then .ok ⟨.after (.array (elements ++ [value])), outer⟩
        else refused
    | .object members key :: outer =>
        if c = comma then .ok ⟨.key (setMember members key value), outer⟩
        else if c = closeBrace then .ok ⟨.after (.object (setMember members key value)), outer⟩
        else refused
    | [] => refused

def readText (stack : List Frame) (reading : Reading) (c : CodePoint) (more : Reading → Mode)
    (whole : Str → Mode) : Step :=
  match decide (c = quote), reading.whole? with
  | true, some text => .ok ⟨whole text, stack⟩
  | _, _ =>
      match reading.next c with
      | some reading => .ok ⟨more reading, stack⟩
      | none => refused

def step (limits : Limits) (s : State) (c : CodePoint) : Step :=
  match s.mode with
  | .value => beginValue limits s.stack c
  | .element =>
      if IsSpace c then .ok s
      else if c = closeBracket then .ok ⟨.after (.array []), s.stack⟩
      else beginValue limits (.array [] :: s.stack) c
  | .member =>
      if IsSpace c then .ok s
      else if c = quote then .ok ⟨.keyText [] .begun, s.stack⟩
      else if c = closeBrace then .ok ⟨.after (.object []), s.stack⟩
      else refused
  | .key members =>
      if IsSpace c then .ok s
      else if c = quote then .ok ⟨.keyText members .begun, s.stack⟩
      else refused
  | .colon members key =>
      if IsSpace c then .ok s
      else if c = colon then .ok ⟨.value, .object members key :: s.stack⟩
      else refused
  | .keyText members reading => readText s.stack reading c (.keyText members) (.colon members)
  | .text reading => readText s.stack reading c .text (fun text => .after (.string text))
  | .name left value =>
      if left.head? = some c then
        .ok ⟨if left.tail = [] then .after value else .name left.tail value, s.stack⟩
      else refused
  | .number literal =>
      if InNumber c then .ok ⟨.number (literal ++ [c]), s.stack⟩
      else if literal = [minus] ∧ c = letterI then
        .ok ⟨.name (ofString "nfinity") (.number (.infinity true)), s.stack⟩
      else do behind s.stack (.number (← numberOf limits literal)) c
  | .after value => behind s.stack value c

def finish (limits : Limits) (s : State) : Except LoadsError Value :=
  match s.mode, s.stack with
  | .after value, [] => .ok value
  | .number literal, stack => do
      let number ← numberOf limits literal
      if stack.isEmpty then return .number number else throw .jsonDecodeError
  | _, _ => throw .jsonDecodeError

def run (limits : Limits) (s : State) (text : Str) : Step := text.foldlM (step limits) s

/-- `json.loads(text)` -/
def loads (limits : Limits) (text : Str) : Except LoadsError Value := do
  finish limits (← run limits ⟨.value, []⟩ text)

end Machine

end Json
