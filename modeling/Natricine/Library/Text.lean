import Mathlib.Algebra.GroupWithZero.Nat
import Mathlib.Data.List.Basic
import Mathlib.Tactic.Common

/-! Text as a sequence of code points, surrogates included, and its strict UTF-8
and ASCII codecs. A lone surrogate is a legal code point with no UTF-8 form. -/

namespace Text

abbrev Bytes := List UInt8

abbrev CodePoint := Fin 0x110000

abbrev Str := List CodePoint

instance codePoint_neZero : NeZero 0x110000 := ⟨by decide⟩

instance str_lawfulBEq : LawfulBEq Str := inferInstance

def ofChar (c : Char) : CodePoint :=
  ⟨c.toNat, by
    have valid := c.valid
    simp only [Char.toNat, UInt32.isValidChar, Nat.isValidChar] at *
    omega⟩

def ofString (text : String) : Str := text.toList.map ofChar

def toChar? (point : CodePoint) : Option Char :=
  if valid : point.val.isValidChar then some (Char.ofNatAux point.val valid) else none

theorem toChar_ofChar (c : Char) : toChar? (ofChar c) = some c := by
  have valid : (ofChar c).val.isValidChar := c.valid
  rw [toChar?, dif_pos valid]
  congr 1

def decodeUtf8 (bytes : Bytes) : Option Str :=
  bytes.toByteArray.utf8Decode?.map (fun chars => chars.toList.map ofChar)

def encodeUtf8 (text : Str) : Option Bytes :=
  (text.mapM toChar?).map (fun chars => chars.flatMap String.utf8EncodeChar)

theorem mapM_toChar_ofChar (chars : List Char) :
    (chars.map ofChar).mapM toChar? = some chars := by
  induction chars with
  | nil => rfl
  | cons c chars ih => simp [toChar_ofChar, ih]

theorem encodeUtf8_ofChars (chars : List Char) :
    encodeUtf8 (chars.map ofChar) = some (chars.flatMap String.utf8EncodeChar) := by
  rw [encodeUtf8, mapM_toChar_ofChar]
  rfl

theorem decodeUtf8_ofChars (chars : List Char) :
    decodeUtf8 (chars.flatMap String.utf8EncodeChar) = some (chars.map ofChar) := by
  have decoded := List.utf8Decode?_utf8Encode (l := chars)
  rw [List.utf8Encode] at decoded
  simp [decodeUtf8, decoded]

theorem encodeUtf8_of_decodeUtf8 (bytes : Bytes) (text : Str)
    (decoded : decodeUtf8 bytes = some text) : encodeUtf8 text = some bytes := by
  obtain ⟨chars, found, rfl⟩ := Option.map_eq_some_iff.mp decoded
  have valid : bytes.toByteArray.utf8Decode?.isSome := by rw [found]; rfl
  obtain ⟨original, same⟩ := ByteArray.isSome_utf8Decode?_iff.mp valid
  rw [List.utf8Encode] at same
  have recovered : bytes = original.flatMap String.utf8EncodeChar := by
    have data := congrArg (fun array => array.data.toList) same
    simpa using data
  rw [recovered, decodeUtf8_ofChars] at decoded
  rw [recovered, ← encodeUtf8_ofChars]
  congr 1
  exact (Option.some.inj decoded).symm

theorem toChar_eq_some_iff {point : CodePoint} {c : Char} :
    toChar? point = some c ↔ ofChar c = point := by
  constructor
  · intro found
    by_cases valid : point.val.isValidChar
    · rw [toChar?, dif_pos valid] at found
      cases found
      rfl
    · rw [toChar?, dif_neg valid] at found
      cases found
  · rintro rfl
    exact toChar_ofChar c

theorem mapM_toChar_eq_some_iff {text : Str} {chars : List Char} :
    text.mapM toChar? = some chars ↔ chars.map ofChar = text := by
  constructor
  · intro found
    induction text generalizing chars with
    | nil =>
        cases found
        rfl
    | cons point text ih =>
        simp only [List.mapM_cons, Option.bind_eq_bind, Option.bind_eq_some_iff, Option.pure_def,
          Option.some.injEq] at found
        rcases found with ⟨c, head, rest, tail, rfl⟩
        rw [List.map_cons, toChar_eq_some_iff.mp head, ih tail]
  · rintro rfl
    exact mapM_toChar_ofChar chars

theorem decodeUtf8_of_encodeUtf8 {text : Str} {bytes : Bytes}
    (encoded : encodeUtf8 text = some bytes) : decodeUtf8 bytes = some text := by
  obtain ⟨chars, found, rfl⟩ := Option.map_eq_some_iff.mp encoded
  rw [decodeUtf8_ofChars, mapM_toChar_eq_some_iff.mp found]

theorem encodeUtf8_of_valid {text : Str} (valid : ∀ point ∈ text, point.val.isValidChar) :
    ∃ bytes, encodeUtf8 text = some bytes := by
  have chars : ∃ chars : List Char, chars.map ofChar = text := by
    induction text with
    | nil => exact ⟨[], rfl⟩
    | cons point text ih =>
        rcases ih (fun other member => valid other (List.mem_cons_of_mem _ member)) with
          ⟨chars, rfl⟩
        have head :
            toChar? point = some (Char.ofNatAux point.val (valid point List.mem_cons_self)) :=
          dif_pos _
        exact ⟨_ :: chars, by rw [List.map_cons, toChar_eq_some_iff.mp head]⟩
  rcases chars with ⟨chars, rfl⟩
  exact ⟨_, encodeUtf8_ofChars chars⟩

def Ascii (bytes : Bytes) : Prop := ∀ byte ∈ bytes, byte.toNat < 128

def ofAscii (bytes : Bytes) : Str :=
  bytes.map (fun byte => ⟨byte.toNat, by have bound := byte.toNat_lt; omega⟩)

def encodeAscii (text : Str) : Option Bytes :=
  text.mapM (fun point => if point.val < 128 then some (UInt8.ofNat point.val) else none)

theorem encodeAscii_ofAscii (bytes : Bytes) (ascii : Ascii bytes) :
    encodeAscii (ofAscii bytes) = some bytes := by
  induction bytes with
  | nil => rfl
  | cons byte bytes ih =>
      have head : byte.toNat < 128 := ascii byte List.mem_cons_self
      have tail := ih (fun next member => ascii next (List.mem_cons_of_mem _ member))
      simp only [encodeAscii, ofAscii] at tail ⊢
      simp [head, tail]

private theorem ascii_char (byte : UInt8) (bound : byte.toNat < 128) :
    ofChar (Char.ofNat byte.toNat) = ⟨byte.toNat, by omega⟩ ∧
      String.utf8EncodeChar (Char.ofNat byte.toNat) = [byte] := by
  have valid : byte.toNat.isValidChar := by left; omega
  have value : (Char.ofNat byte.toNat).toNat = byte.toNat := by
    rw [Char.ofNat]
    rw [dif_pos valid]
    rfl
  constructor
  · exact Fin.ext value
  · have small : (Char.ofNat byte.toNat).val.toNat ≤ 127 := by
      change (Char.ofNat byte.toNat).toNat ≤ 127
      omega
    rw [String.utf8EncodeChar]
    simp only [small, ↓reduceIte]
    change [UInt8.ofNat (Char.ofNat byte.toNat).toNat] = [byte]
    rw [value, UInt8.ofNat_toNat]

private theorem ascii_chars (bytes : Bytes) (ascii : Ascii bytes) :
    ∃ chars : List Char, chars.map ofChar = ofAscii bytes ∧
      chars.flatMap String.utf8EncodeChar = bytes := by
  induction bytes with
  | nil => exact ⟨[], rfl, rfl⟩
  | cons byte bytes ih =>
      obtain ⟨chars, points, encoded⟩ :=
        ih (fun next member => ascii next (List.mem_cons_of_mem _ member))
      obtain ⟨point, single⟩ := ascii_char byte (ascii byte List.mem_cons_self)
      refine ⟨Char.ofNat byte.toNat :: chars, ?_, ?_⟩
      · rw [List.map_cons, point, points]
        rfl
      · rw [List.flatMap_cons, single, encoded]
        rfl

theorem decodeUtf8_ascii (bytes : Bytes) (ascii : Ascii bytes) :
    decodeUtf8 bytes = some (ofAscii bytes) := by
  obtain ⟨chars, points, encoded⟩ := ascii_chars bytes ascii
  rw [← points, ← decodeUtf8_ofChars chars, encoded]

end Text
