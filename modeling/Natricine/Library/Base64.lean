import Natricine.Library.Text

/-! Base64 with the standard alphabet: the encoder on groups of three bytes and the
decoder as the four-phase machine that reads one character at a time. -/

namespace Base64

open Text (Bytes Ascii)

def pad : UInt8 := 61

def digit (value : Nat) : UInt8 :=
  if value < 26 then UInt8.ofNat (value + 65)
  else if value < 52 then UInt8.ofNat (value + 71)
  else if value < 62 then UInt8.ofNat (value - 4)
  else if value = 62 then 43 else 47

def value? (char : UInt8) : Option Nat :=
  let n := char.toNat
  if 65 ≤ n ∧ n ≤ 90 then some (n - 65)
  else if 97 ≤ n ∧ n ≤ 122 then some (n - 71)
  else if 48 ≤ n ∧ n ≤ 57 then some (n + 4)
  else if n = 43 then some 62
  else if n = 47 then some 63
  else none

def encode : Bytes → Bytes
  | [] => []
  | [a] => [digit (a.toNat / 4), digit (a.toNat % 4 * 16), pad, pad]
  | [a, b] =>
      [digit (a.toNat / 4), digit (a.toNat % 4 * 16 + b.toNat / 16),
        digit (b.toNat % 16 * 4), pad]
  | a :: b :: c :: rest =>
      digit (a.toNat / 4) :: digit (a.toNat % 4 * 16 + b.toNat / 16) ::
        digit (b.toNat % 16 * 4 + c.toNat / 64) :: digit (c.toNat % 64) :: encode rest

inductive Malformed where
  | leadingPadding
  | outsideAlphabet
  | discontinuousPadding
  | excessAfterPadding
  | incorrectPadding
  deriving DecidableEq, Repr

/-- Where the decoder stands: the position in the group of four characters, the bits
left over from the last one, the pads seen in a row and whether any pad was seen. -/
structure Cursor where
  quad : Nat
  left : Nat
  pads : Nat
  padded : Bool

def Cursor.push (cursor : Cursor) (value : Nat) : List UInt8 × Cursor :=
  match cursor.quad with
  | 0 => ([], { cursor with quad := 1, left := value, pads := 0 })
  | 1 => ([UInt8.ofNat (cursor.left * 4 + value / 16)],
      { cursor with quad := 2, left := value % 16, pads := 0 })
  | 2 => ([UInt8.ofNat (cursor.left * 16 + value / 4)],
      { cursor with quad := 3, left := value % 4, pads := 0 })
  | _ => ([UInt8.ofNat (cursor.left * 64 + value)],
      { cursor with quad := 0, left := 0, pads := 0 })

/-- `strict` refuses characters outside the alphabet and data after the padding;
otherwise both are skipped. -/
def scan (strict : Bool) (cursor : Cursor) : Bytes → Except Malformed Bytes
  | [] => if cursor.quad = 0 then .ok [] else .error .incorrectPadding
  | char :: rest =>
      if char = pad then
        if 2 ≤ cursor.quad ∧ 4 ≤ cursor.quad + (cursor.pads + 1) then
          if strict ∧ rest ≠ [] then .error .excessAfterPadding else .ok []
        else if 2 ≤ cursor.quad then
          scan strict { cursor with pads := cursor.pads + 1, padded := true } rest
        else scan strict { cursor with padded := true } rest
      else
        match value? char with
        | none => if strict then .error .outsideAlphabet else scan strict cursor rest
        | some value =>
            if strict ∧ cursor.padded then .error .discontinuousPadding
            else
              let (bytes, next) := cursor.push value
              (scan strict next rest).map (bytes ++ ·)

def start : Cursor := ⟨0, 0, 0, false⟩

def decode (strict : Bool) (text : Bytes) : Except Malformed Bytes :=
  if strict ∧ text.head? = some pad then .error .leadingPadding
  else scan strict start text

theorem digit_spec : ∀ value < 64,
    value? (digit value) = some value ∧ digit value ≠ pad ∧ (digit value).toNat < 128 := by
  decide

theorem encode_ascii (bytes : Bytes) : Ascii (encode bytes) := by
  have pads : pad.toNat < 128 := by decide
  have digits (value : Nat) (bound : value < 64) : (digit value).toNat < 128 :=
    (digit_spec value bound).2.2
  induction bytes using encode.induct with
  | case1 => intro char member; cases member
  | case2 a =>
      have ha := a.toNat_lt
      intro char member
      simp only [encode, List.mem_cons, List.not_mem_nil, or_false] at member
      rcases member with rfl | rfl | rfl | rfl
      · exact digits _ (by omega)
      · exact digits _ (by omega)
      · exact pads
      · exact pads
  | case3 a b =>
      have ha := a.toNat_lt
      have hb := b.toNat_lt
      intro char member
      simp only [encode, List.mem_cons, List.not_mem_nil, or_false] at member
      rcases member with rfl | rfl | rfl | rfl
      · exact digits _ (by omega)
      · exact digits _ (by omega)
      · exact digits _ (by omega)
      · exact pads
  | case4 a b c rest ih =>
      have ha := a.toNat_lt
      have hb := b.toNat_lt
      have hc := c.toNat_lt
      intro char member
      simp only [encode, List.mem_cons] at member
      rcases member with rfl | rfl | rfl | rfl | member
      · exact digits _ (by omega)
      · exact digits _ (by omega)
      · exact digits _ (by omega)
      · exact digits _ (by omega)
      · exact ih char member

theorem encode_length (bytes : Bytes) : (encode bytes).length = (bytes.length + 2) / 3 * 4 := by
  induction bytes using encode.induct with
  | case1 => rfl
  | case2 a => simp [encode]
  | case3 a b => simp [encode]
  | case4 a b c rest ih =>
      simp only [encode, List.length_cons, ih]
      omega

theorem length_lt_encode (bytes : Bytes) (nonempty : bytes ≠ []) :
    bytes.length < (encode bytes).length := by
  have positive := List.length_pos_iff.mpr nonempty
  rw [encode_length]
  omega

private theorem scan_digit (strict : Bool) (cursor : Cursor) (value : Nat) (rest : Bytes)
    (bound : value < 64) (fresh : cursor.padded = false) :
    scan strict cursor (digit value :: rest) =
      (scan strict (cursor.push value).2 rest).map ((cursor.push value).1 ++ ·) := by
  obtain ⟨known, notPad, -⟩ := digit_spec value bound
  rw [scan, if_neg notPad]
  simp only [known, fresh, Bool.false_eq_true, and_false, if_false]

private theorem byte_eq (byte : UInt8) (value : Nat) (same : value = byte.toNat) :
    UInt8.ofNat value = byte := by
  rw [same, UInt8.ofNat_toNat]

private theorem scan_encode (strict : Bool) (bytes : Bytes) :
    scan strict start (encode bytes) = .ok bytes := by
  induction bytes using encode.induct with
  | case1 => rfl
  | case2 a =>
      have ha := a.toNat_lt
      have first : UInt8.ofNat (a.toNat / 4 * 4 + a.toNat % 4 * 16 / 16) = a :=
        byte_eq a _ (by omega)
      rw [encode, scan_digit _ _ _ _ (by omega) rfl, start, Cursor.push,
        scan_digit _ _ _ _ (by omega) rfl, Cursor.push]
      simp only [first]
      simp [scan, pad, Except.map]
  | case3 a b =>
      have ha := a.toNat_lt
      have hb := b.toNat_lt
      have first : UInt8.ofNat (a.toNat / 4 * 4 + (a.toNat % 4 * 16 + b.toNat / 16) / 16) = a :=
        byte_eq a _ (by omega)
      have second : UInt8.ofNat ((a.toNat % 4 * 16 + b.toNat / 16) % 16 * 16 +
          b.toNat % 16 * 4 / 4) = b :=
        byte_eq b _ (by omega)
      rw [encode, scan_digit _ _ _ _ (by omega) rfl, start, Cursor.push,
        scan_digit _ _ _ _ (by omega) rfl, Cursor.push,
        scan_digit _ _ _ _ (by omega) rfl, Cursor.push]
      simp only [first, second]
      simp [scan, pad, Except.map]
  | case4 a b c rest ih =>
      have ha := a.toNat_lt
      have hb := b.toNat_lt
      have hc := c.toNat_lt
      have first : UInt8.ofNat (a.toNat / 4 * 4 + (a.toNat % 4 * 16 + b.toNat / 16) / 16) = a :=
        byte_eq a _ (by omega)
      have second : UInt8.ofNat ((a.toNat % 4 * 16 + b.toNat / 16) % 16 * 16 +
          (b.toNat % 16 * 4 + c.toNat / 64) / 4) = b :=
        byte_eq b _ (by omega)
      have third : UInt8.ofNat ((b.toNat % 16 * 4 + c.toNat / 64) % 4 * 64 + c.toNat % 64) = c :=
        byte_eq c _ (by omega)
      rw [encode, scan_digit _ _ _ _ (by omega) rfl, start, Cursor.push,
        scan_digit _ _ _ _ (by omega) rfl, Cursor.push,
        scan_digit _ _ _ _ (by omega) rfl, Cursor.push,
        scan_digit _ _ _ _ (by omega) rfl, Cursor.push]
      simp only [first, second, third]
      change Except.map _ (Except.map _ (Except.map _ (Except.map _
        (scan strict start (encode rest))))) = _
      rw [ih]
      rfl

theorem decode_encode (strict : Bool) (bytes : Bytes) :
    decode strict (encode bytes) = .ok bytes := by
  have unpadded : (encode bytes).head? ≠ some pad := by
    have first (a : UInt8) : digit (a.toNat / 4) ≠ pad := by
      have ha := a.toNat_lt
      exact (digit_spec (a.toNat / 4) (by omega)).2.1
    cases bytes using encode.induct with
    | case1 => simp [encode]
    | case2 a => simpa [encode] using first a
    | case3 a b => simpa [encode] using first a
    | case4 a b c rest _ => simpa [encode] using first a
  rw [decode, if_neg (fun leading => unpadded leading.2)]
  exact scan_encode strict bytes

end Base64
