import Natricine.Http.Subscriber
import Natricine.Library.JsonDumps
import Natricine.Library.Uuid

namespace Natricine.Http

open PubSub Text
open Json (Value Limits)

def python (lower : Str → Str) (limits : Limits) (unicode : Uuid.Unicode) : Python Value where
  lower := lower
  loads value := (Json.loads limits value).mapError fun
    | .jsonDecodeError => .jsonDecodeError
    | .recursionError | .valueError => .other
  emptyObject := .object []
  uuid := Uuid.parse unicode

def metadataToHeader (metadata : Dict Str Str) : Str :=
  if metadata.entries = [] then [Json.openBrace, Json.closeBrace] else Json.dumps metadata

/-- A dictionary of strings. -/
def IsStrings : Value → Prop
  | .object members => ∀ member ∈ members, ∃ text, member.2 = .string text
  | _ => False

/-- The value that a header is to be read as: the dictionary of strings in it, or else an empty
one. -/
inductive ReadAs (py : Python Value) (headers : Headers) (metadataHeader : Str) : Value → Prop where
  | strings (text : Str) (value : Value) (given : headerValue py headers metadataHeader = some text)
      (parsed : py.loads text = .ok value) (strings : IsStrings value) :
      ReadAs py headers metadataHeader value
  | empty (none : ∀ text, headerValue py headers metadataHeader = some text →
      ∀ value, py.loads text = .ok value → ¬IsStrings value) :
      ReadAs py headers metadataHeader (.object [])

def Carries (py : Python Value) (headers : Headers) (name value : Str) : Prop :=
  (∃ key, (key, value) ∈ headers ∧ py.lower key = py.lower name) ∧
    ∀ header ∈ headers, py.lower header.1 = py.lower name → header.2 = value

/-- Whatever the metadata, they are read from headers that carry them. -/
def RoundTrips (py : Python Value) (metadataHeader : Str) : Prop :=
  ∀ (metadata : Dict Str Str) (headers : Headers),
    py.loads (Json.dumps metadata) = .ok (Json.ofStrings metadata) →
    Carries py headers metadataHeader (metadataToHeader metadata) →
    extractMetadata py headers metadataHeader = some (Json.ofStrings metadata)

/-- The text of the header is no JSON, or a dictionary of strings. -/
def Wellformed (py : Python Value) (text : Str) : Prop :=
  py.loads text = .error .jsonDecodeError ∨ ∃ value, py.loads text = .ok value ∧ IsStrings value

theorem isStrings_empty : IsStrings (.object []) :=
  fun _ member => absurd member List.not_mem_nil

theorem metadataToHeader_eq (metadata : Dict Str Str) :
    metadataToHeader metadata = Json.dumps metadata := by
  rw [metadataToHeader]
  split
  · rename_i empty
    rw [Json.dumps, empty]
    rfl
  · rfl

theorem headerValue_carried {py : Python Value} {headers : Headers} {name value : Str}
    (carries : Carries py headers name value) : headerValue py headers name = some value := by
  rcases carries with ⟨⟨key, member, same⟩, only⟩
  cases found : headers.find? (fun entry => py.lower entry.1 = py.lower name) with
  | none =>
      have absent := List.find?_eq_none.mp found (key, value) member
      exact absurd (decide_eq_true same) absent
  | some header =>
      have here : py.lower header.1 = py.lower name := by simpa using List.find?_some found
      rw [headerValue, found, ← only header (List.mem_of_find?_eq_some found) here]
      rfl

theorem roundTrips (py : Python Value) (metadataHeader : Str) : RoundTrips py metadataHeader := by
  intro metadata headers undone carries
  rw [extractMetadata, headerValue_carried carries, metadataToHeader_eq]
  simp only [undone]

section Extracted

variable {lower : Str → Str} {limits : Limits} {unicode : Uuid.Unicode} {headers : Headers}
  {metadataHeader text : Str} {value : Value}

theorem extract_absent
    (absent : headerValue (python lower limits unicode) headers metadataHeader = none) :
    extractMetadata (python lower limits unicode) headers metadataHeader = some (.object []) := by
  rw [extractMetadata, absent]
  rfl

theorem extract_refused
    (given : headerValue (python lower limits unicode) headers metadataHeader = some text)
    (refused : (python lower limits unicode).loads text = .error .jsonDecodeError) :
    extractMetadata (python lower limits unicode) headers metadataHeader = some (.object []) := by
  rw [extractMetadata, given]
  simp only [refused]
  rfl

theorem extract_parsed
    (given : headerValue (python lower limits unicode) headers metadataHeader = some text)
    (parsed : (python lower limits unicode).loads text = .ok value) :
    extractMetadata (python lower limits unicode) headers metadataHeader = some value := by
  rw [extractMetadata, given]
  simp only [parsed]

theorem extract_raises
    (given : headerValue (python lower limits unicode) headers metadataHeader = some text)
    (raised : (python lower limits unicode).loads text = .error .other) :
    extractMetadata (python lower limits unicode) headers metadataHeader = none := by
  rw [extractMetadata, given]
  simp only [raised]

theorem readAs_isStrings
    (read : ReadAs (python lower limits unicode) headers metadataHeader value) :
    IsStrings value := by
  cases read with
  | strings _ _ _ _ strings => exact strings
  | empty _ => exact isStrings_empty

theorem extracted_iff :
    (∃ value, extractMetadata (python lower limits unicode) headers metadataHeader = some value ∧
        ReadAs (python lower limits unicode) headers metadataHeader value) ↔
      ∀ text, headerValue (python lower limits unicode) headers metadataHeader = some text →
        Wellformed (python lower limits unicode) text := by
  cases given : headerValue (python lower limits unicode) headers metadataHeader with
  | none =>
      refine iff_of_true ⟨.object [], extract_absent given, .empty fun text here => ?_⟩ nofun
      rw [given] at here
      cases here
  | some text =>
      constructor
      · rintro ⟨value, extracted, read⟩ _ same
        cases same
        cases parsed : (python lower limits unicode).loads text with
        | error cause =>
            cases cause with
            | jsonDecodeError => exact Or.inl parsed
            | other =>
                rw [extract_raises given parsed] at extracted
                cases extracted
        | ok found =>
            rw [extract_parsed given parsed] at extracted
            cases extracted
            exact Or.inr ⟨_, parsed, readAs_isStrings read⟩
      · intro wellformed
        rcases wellformed text rfl with refused | ⟨value, parsed, strings⟩
        · refine ⟨_, extract_refused given refused, .empty fun other here value parsed => ?_⟩
          rw [given] at here
          cases here
          rw [refused] at parsed
          cases parsed
        · exact ⟨value, extract_parsed given parsed, .strings text value given parsed strings⟩

end Extracted

/-- The metadata of a header come out as a dictionary of strings, and as those that were put in,
just when the header is absent, no JSON at all, or such a dictionary: other JSON is returned as it
is. -/
theorem metadata_extracted_iff (lower : Str → Str) (limits : Limits) (unicode : Uuid.Unicode)
    (headers : Headers) (metadataHeader : Str) :
    ((∃ value,
        extractMetadata (python lower limits unicode) headers metadataHeader = some value ∧
        ReadAs (python lower limits unicode) headers metadataHeader value ∧ IsStrings value) ∧
      RoundTrips (python lower limits unicode) metadataHeader) ↔
      ∀ text, headerValue (python lower limits unicode) headers metadataHeader = some text →
        Wellformed (python lower limits unicode) text := by
  rw [← extracted_iff]
  constructor
  · rintro ⟨⟨value, extracted, read, -⟩, -⟩
    exact ⟨value, extracted, read⟩
  · rintro ⟨value, extracted, read⟩
    exact ⟨⟨value, extracted, read, readAs_isStrings read⟩, roundTrips _ metadataHeader⟩

/-- The metadata of a header that holds a list are the list. -/
theorem list_not_extracted :
    ¬∃ value,
      extractMetadata (python id ⟨1000, 4300⟩ ⟨fun _ => false, fun _ => none⟩)
          [(ofString "message-metadata", ofString "[]")] (ofString "message-metadata") =
        some value ∧
      ReadAs (python id ⟨1000, 4300⟩ ⟨fun _ => false, fun _ => none⟩)
        [(ofString "message-metadata", ofString "[]")] (ofString "message-metadata") value ∧
      IsStrings value := by
  rintro ⟨value, extracted, -, strings⟩
  have parsed : (python id ⟨1000, 4300⟩ ⟨fun _ => false, fun _ => none⟩).loads (ofString "[]") =
      .ok (.array []) := rfl
  rw [extract_parsed rfl parsed] at extracted
  cases extracted
  exact strings

end Natricine.Http
