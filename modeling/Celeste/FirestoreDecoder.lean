import Celeste.Firestore
import Celeste.Library.Fallible

/-!
# Keyed decoding of document fields

The calls a synthesised `init(from:)` makes on `_FirebaseKeyedDecodingContainer`: unboxing of one
`Any` value, decoding of a required and of an optional key, and the error each failure throws.
-/

namespace Celeste

open Fallible

/-! ## Errors -/

/-- `DecodingError.Context`. -/
structure DecodingContext where
  codingPath : List String
  debugDescription : String
  deriving DecidableEq

/-- Swift's `DecodingError`; a type is known by its name. -/
inductive DecodingError
  | typeMismatch (expectation : String) (context : DecodingContext)
  | valueNotFound (expectation : String) (context : DecodingContext)
  | keyNotFound (key : String) (context : DecodingContext)
  | dataCorrupted (context : DecodingContext)
  deriving DecidableEq

namespace DecodingError

/-- `_typeDescription(of:)`. -/
def typeDescription : FirestoreValue → String
  | .null => "a null value"
  | .boolean _ | .integer _ | .double _ => "a number"
  | .string _ => "a string/data"
  | .array _ => "an array"
  | .map _ => "a dictionary"
  | .object className => className

/-- `_typeMismatch(at:expectation:reality:)`. -/
def mismatch (codingPath : List String) (expectation : String) (reality : FirestoreValue) :
    DecodingError :=
  .typeMismatch expectation
    { codingPath
      debugDescription :=
        "Expected to decode " ++ expectation ++ " but found " ++ typeDescription reality ++
          " instead." }

/-- The error for an absent key, thrown before the key is pushed on the coding path. -/
def absentKey (key : String) : DecodingError :=
  .keyNotFound key
    { codingPath := []
      debugDescription :=
        "No value associated with key CodingKeys(stringValue: \"" ++ key ++
          "\", intValue: nil) (\"" ++ key ++ "\")." }

/-- The field an error complains about. -/
def field : DecodingError → Option String
  | .keyNotFound key _ => some key
  | .typeMismatch _ context | .valueNotFound _ context | .dataCorrupted context =>
      context.codingPath.getLast?

end DecodingError

/-! ## Unboxing one value -/

/-- A decoder of one boxed value at a coding path; `none` stands for a null. -/
abbrev Unbox (α : Type) := List String → FirestoreValue → Except DecodingError (Option α)

/-- `unbox(_:as: String.self)`. -/
def unboxString : Unbox String
  | _, .null => .ok none
  | _, .string value => .ok (some value)
  | codingPath, value => .error (.mismatch codingPath "String" value)

/-- `unbox(_:as: Bool.self)`, which takes the two boolean objects and no other number. -/
def unboxBool : Unbox Bool
  | _, .null => .ok none
  | _, .boolean value => .ok (some value)
  | codingPath, value => .error (.mismatch codingPath "Bool" value)

/-- `singleValueContainer().decode(String.self)`, which refuses a null first. -/
def decodeSingleString : List String → FirestoreValue → Except DecodingError String
  | codingPath, .null =>
      .error (.valueNotFound "String"
        { codingPath, debugDescription := "Expected String but found null value instead." })
  | _, .string value => .ok value
  | codingPath, value => .error (.mismatch codingPath "String" value)

/-- `unbox(_:as:)` at an enumeration with string raw values. -/
def unboxRawValue {α : Type} (typeName : String) (ofRawValue : String → Option α) : Unbox α :=
  fun codingPath value => do
    let decoded ← decodeSingleString codingPath value
    match ofRawValue decoded with
    | some result => .ok (some result)
    | none =>
        .error (.dataCorrupted
          { codingPath
            debugDescription :=
              "Cannot initialize " ++ typeName ++ " from invalid String value " ++ decoded })

/-! ## Keyed containers -/

/-- `decode(_:forKey:)` of a required key. -/
def decodeKey {α : Type} (typeName : String) (unbox : Unbox α) (container : Fields)
    (key : String) : Except DecodingError α :=
  match container.lookup key with
  | none => .error (.absentKey key)
  | some entry => do
      match ← unbox [key] entry with
      | some value => .ok value
      | none =>
          .error (.valueNotFound typeName
            { codingPath := [key]
              debugDescription :=
                "Expected " ++ typeName ++ " value but found null instead." })

/-- `decodeIfPresent(_:forKey:)`: an absent key and a null both give `nil`. -/
def decodeKeyIfPresent {α : Type} (typeName : String) (unbox : Unbox α) (container : Fields)
    (key : String) : Except DecodingError (Option α) :=
  match container.lookup key with
  | none | some .null => .ok none
  | some _ => do
      let value ← decodeKey typeName unbox container key
      .ok (some value)

theorem unboxString_eq_ok_iff {codingPath : List String} {entry : FirestoreValue}
    {value : String} : unboxString codingPath entry = .ok (some value) ↔ entry = .string value := by
  cases entry <;> simp [unboxString]

theorem unboxBool_eq_ok_iff {codingPath : List String} {entry : FirestoreValue} {value : Bool} :
    unboxBool codingPath entry = .ok (some value) ↔ entry = .boolean value := by
  cases entry <;> simp [unboxBool]

theorem decodeSingleString_eq_ok_iff {codingPath : List String} {entry : FirestoreValue}
    {value : String} : decodeSingleString codingPath entry = .ok value ↔ entry = .string value := by
  cases entry <;> simp [decodeSingleString]

theorem unboxRawValue_eq_ok_iff {α : Type} {typeName : String} {ofRawValue : String → Option α}
    {codingPath : List String} {entry : FirestoreValue} {value : α} :
    unboxRawValue typeName ofRawValue codingPath entry = .ok (some value) ↔
      ∃ raw, entry = .string raw ∧ ofRawValue raw = some value := by
  simp only [unboxRawValue, bind_eq_ok_iff, decodeSingleString_eq_ok_iff]
  refine exists_congr fun raw => and_congr_right fun _ => ?_
  cases ofRawValue raw <;> simp

/-- A required key decodes exactly when it is present and unboxes to a value. -/
theorem decodeKey_eq_ok_iff {α : Type} {typeName : String} {unbox : Unbox α}
    {container : Fields} {key : String} {value : α} :
    decodeKey typeName unbox container key = .ok value ↔
      ∃ entry, container.lookup key = some entry ∧ unbox [key] entry = .ok (some value) := by
  simp only [decodeKey]
  cases container.lookup key with
  | none => simp
  | some entry =>
      simp only [bind_eq_ok_iff, Option.some.injEq, exists_eq_left']
      constructor
      · rintro ⟨decoded, unboxed, found⟩
        cases decoded <;> simp_all
      · intro unboxed
        exact ⟨some value, unboxed, rfl⟩

/-- An optional key decodes to a value exactly when it is present, not null and unboxes to it. -/
theorem decodeKeyIfPresent_eq_some_iff {α : Type} {typeName : String} {unbox : Unbox α}
    {container : Fields} {key : String} {value : α} :
    decodeKeyIfPresent typeName unbox container key = .ok (some value) ↔
      ∃ entry, container.lookup key = some entry ∧ entry ≠ .null ∧
        unbox [key] entry = .ok (some value) := by
  rw [decodeKeyIfPresent]
  split
  · next absent => simp [absent]
  · next null => simp [null]
  · next entry _ present =>
      have entry_ne : entry ≠ .null := by
        rintro rfl
        simp_all
      simp [bind_eq_ok_iff, decodeKey_eq_ok_iff, present, entry_ne]

theorem decodeKeyIfPresent_eq_none_iff {α : Type} {typeName : String} {unbox : Unbox α}
    {container : Fields} {key : String} :
    decodeKeyIfPresent typeName unbox container key = .ok none ↔
      container.lookup key = none ∨ container.lookup key = some .null := by
  rw [decodeKeyIfPresent]
  split
  · next absent => simp [absent]
  · next null => simp [null]
  · next entry _ present => simp_all [bind_eq_ok_iff]

/-! ## What the errors name -/

/-- Every error of an unboxing step sits at the coding path it was given. -/
def Unbox.NamesPath {α : Type} (unbox : Unbox α) : Prop :=
  ∀ {key value error}, unbox [key] value = .error error → error.field = some key

theorem unboxString_namesPath : unboxString.NamesPath := by
  intro key value error failed
  cases value <;> simp [unboxString] at failed <;> subst error <;> rfl

theorem unboxBool_namesPath : unboxBool.NamesPath := by
  intro key value error failed
  cases value <;> simp [unboxBool] at failed <;> subst error <;> rfl

theorem unboxRawValue_namesPath {α : Type} {typeName : String} {ofRawValue : String → Option α} :
    (unboxRawValue typeName ofRawValue).NamesPath := by
  intro key value error failed
  rw [unboxRawValue, bind_eq_error_iff] at failed
  rcases failed with failed | ⟨raw, _, failed⟩
  · cases value <;> simp [decodeSingleString] at failed <;> subst error <;> rfl
  · cases found : ofRawValue raw <;> simp [found] at failed
    subst error
    rfl

theorem decodeKey_error_field {α : Type} {typeName : String} {unbox : Unbox α}
    (names : unbox.NamesPath) {container : Fields} {key : String} {error : DecodingError}
    (failed : decodeKey typeName unbox container key = .error error) :
    error.field = some key := by
  rw [decodeKey] at failed
  split at failed
  · cases failed
    rfl
  · rw [bind_eq_error_iff] at failed
    rcases failed with failed | ⟨decoded, _, failed⟩
    · exact names failed
    · cases decoded <;> cases failed
      rfl

theorem decodeKeyIfPresent_error_field {α : Type} {typeName : String} {unbox : Unbox α}
    (names : unbox.NamesPath) {container : Fields} {key : String} {error : DecodingError}
    (failed : decodeKeyIfPresent typeName unbox container key = .error error) :
    error.field = some key := by
  rw [decodeKeyIfPresent] at failed
  split at failed
  · cases failed
  · cases failed
  · rw [bind_eq_error_iff] at failed
    rcases failed with failed | ⟨value, _, failed⟩
    · exact decodeKey_error_field names failed
    · cases failed

end Celeste
