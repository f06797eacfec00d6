import Natricine.Library.Base64
import Natricine.Library.Fallible

/-! The SQS and SNS body codec of `marshaling.py`. -/

namespace Natricine.Aws

open Text

inductive CodecError where
  | binasciiError (cause : Base64.Malformed)
  | nonAsciiString
  | unicodeEncodeError
  deriving DecidableEq, Repr

/-- `base64.b64decode` on text, which must be ASCII. -/
def b64decode (body : Str) (validate : Bool) : Except CodecError Bytes :=
  match encodeAscii body with
  | none => .error .nonAsciiString
  | some bytes => (Base64.decode validate bytes).mapError .binasciiError

/-- `base64.b64encode(payload).decode("ascii")` -/
def b64encode (payload : Bytes) : Str := ofAscii (Base64.encode payload)

def encodeMessageBody (payload : Bytes) : Str :=
  match decodeUtf8 payload with
  | some text => text
  | none => b64encode payload

def encodeText (body : Str) : Except CodecError Bytes :=
  Fallible.orRaise .unicodeEncodeError (encodeUtf8 body)

def decodeMessageBody (body : Str) (isBase64 : Bool) : Except CodecError Bytes :=
  if isBase64 then b64decode body false
  else
    match b64decode body true with
    | .ok decoded => if b64encode decoded = body then .ok decoded else encodeText body
    | .error _ => encodeText body

theorem b64decode_b64encode (payload : Bytes) (validate : Bool) :
    b64decode (b64encode payload) validate = .ok payload := by
  have ascii := encodeAscii_ofAscii _ (Base64.encode_ascii payload)
  rw [b64decode, b64encode, ascii]
  simp only [Base64.decode_encode]
  rfl

theorem decode_encoded (payload : Bytes) :
    decodeMessageBody (b64encode payload) false = .ok payload := by
  rw [decodeMessageBody, if_neg Bool.false_ne_true, b64decode_b64encode]
  simp only [if_true]

theorem decode_plain (body : Str) (plain : ∀ payload, b64encode payload ≠ body) :
    decodeMessageBody body false = encodeText body := by
  rw [decodeMessageBody, if_neg Bool.false_ne_true]
  cases b64decode body true with
  | error cause => rfl
  | ok decoded => simp only [plain decoded, if_false]

theorem encodeText_of_decodeUtf8 (payload : Bytes) (text : Str)
    (decoded : decodeUtf8 payload = some text) : encodeText text = .ok payload := by
  rw [encodeText, encodeUtf8_of_decodeUtf8 payload text decoded]
  rfl

theorem text_encoded_iff (payload data : Bytes) (text : Str)
    (decoded : decodeUtf8 payload = some text) :
    b64encode data = text ↔ Base64.encode data = payload := by
  have ascii := decodeUtf8_ascii _ (Base64.encode_ascii data)
  constructor
  · intro same
    have bytes := encodeUtf8_of_decodeUtf8 _ _ ascii
    rw [← b64encode, same, encodeUtf8_of_decodeUtf8 payload text decoded] at bytes
    exact (Option.some.inj bytes).symm
  · intro same
    rw [same, decoded] at ascii
    rw [b64encode, same]
    exact (Option.some.inj ascii).symm

/-- The codec returns a payload unchanged unless the payload is itself the encoding
of nonempty data: the decoder then mistakes the text for data it must decode. -/
theorem decode_encode_message_body_iff (payload : Bytes) :
    decodeMessageBody (encodeMessageBody payload) false = .ok payload ↔
      payload = [] ∨ ∀ data, Base64.encode data ≠ payload := by
  cases decoded : decodeUtf8 payload with
  | none =>
      have encoded : encodeMessageBody payload = b64encode payload := by
        rw [encodeMessageBody, decoded]
      rw [encoded, decode_encoded]
      refine iff_of_true rfl (Or.inr ?_)
      intro data same
      rw [← same, decodeUtf8_ascii _ (Base64.encode_ascii data)] at decoded
      cases decoded
  | some text =>
      have encoded : encodeMessageBody payload = text := by
        rw [encodeMessageBody, decoded]
      rw [encoded]
      by_cases guessed : ∃ data, b64encode data = text
      · obtain ⟨data, same⟩ := guessed
        have bytes := (text_encoded_iff payload data text decoded).mp same
        rw [← same, decode_encoded, Except.ok.injEq]
        constructor
        · intro fixed
          left
          by_contra nonempty
          have longer := Base64.length_lt_encode data (by rw [fixed]; exact nonempty)
          rw [bytes, fixed] at longer
          exact Nat.lt_irrefl _ longer
        · rintro (empty | never)
          · by_contra differs
            have nonempty : data ≠ [] := fun nil => differs (nil.trans empty.symm)
            have longer := Base64.length_lt_encode data nonempty
            rw [bytes, empty] at longer
            exact Nat.not_lt_zero _ longer
          · exact absurd bytes (never data)
      · have plain : ∀ data, b64encode data ≠ text := fun data same => guessed ⟨data, same⟩
        rw [decode_plain text plain, encodeText_of_decodeUtf8 payload text decoded]
        refine iff_of_true rfl (Or.inr ?_)
        intro data same
        exact plain data ((text_encoded_iff payload data text decoded).mpr same)

/-- The payload `test` is valid text, and comes back as three other bytes. -/
theorem text_payload_not_preserved :
    decodeMessageBody (encodeMessageBody [116, 101, 115, 116]) false ≠
      .ok [116, 101, 115, 116] := by
  have text : decodeUtf8 [116, 101, 115, 116] = some (b64encode [181, 235, 45]) :=
    decodeUtf8_ascii (Base64.encode [181, 235, 45]) (Base64.encode_ascii _)
  have encoded : encodeMessageBody [116, 101, 115, 116] = b64encode [181, 235, 45] := by
    rw [encodeMessageBody, text]
  rw [encoded, decode_encoded]
  decide

end Natricine.Aws
