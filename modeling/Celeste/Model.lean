import Celeste.FirestoreDecoder

/-!
# Users, calendar events and coupons

The record types of the application with the two directions of their stored form: the field
dictionaries that `postCalendarEvents` and `giftCoupon` write, and the synthesised decoders.  The
dictionaries that decode are characterised field by field.
-/

namespace Celeste

open Fallible

/-- The two users. -/
inductive Who
  | lauren
  | antonio
  deriving DecidableEq

/-- The raw value that names a user's coupon document. -/
def Who.rawValue : Who → String
  | .lauren => "Lauren"
  | .antonio => "Antonio"

theorem Who.rawValue_injective : Function.Injective Who.rawValue := by
  intro left right same
  cases left <;> cases right <;> simp_all [Who.rawValue]

/-- The kinds of calendar event. -/
inductive EventType
  | food
  | altered
  | date
  | specialDay
  | random
  deriving DecidableEq

namespace EventType

/-- The stored spelling of an event type. -/
def rawValue : EventType → String
  | .food => "Food"
  | .altered => "Altered Carbon"
  | .date => "Date"
  | .specialDay => "Special Occasion"
  | .random => "Random"

/-- `EventType.allCases`. -/
def allCases : List EventType :=
  [.food, .altered, .date, .specialDay, .random]

/-- `EventType(rawValue:)`. -/
def ofRawValue (raw : String) : Option EventType :=
  allCases.find? fun eventType => eventType.rawValue = raw

theorem ofRawValue_eq_some_iff {raw : String} {eventType : EventType} :
    ofRawValue raw = some eventType ↔ raw = eventType.rawValue := by
  constructor
  · intro found
    have matched := List.find?_some (show allCases.find? _ = some eventType from found)
    exact (of_decide_eq_true matched).symm
  · intro spelled
    subst spelled
    cases eventType <;> decide

end EventType

/-- A calendar event. -/
structure CalendarEvent where
  id : String
  /-- In YYYY/MM/dd format. -/
  date : String
  eventType : EventType
  eventLocation : Option String
  eventDescription : Option String
  eventTitle : String
  deriving DecidableEq

/-- A coupon; the redeemed field may be missing. -/
structure Coupon where
  id : String
  title : String
  description : String
  redeemed : Option Bool
  deriving DecidableEq

/-! ## Field dictionaries -/

namespace Fields

/-- A dictionary literal. -/
def literal (entries : List (String × FirestoreValue)) : Fields :=
  entries.foldr (fun entry fields => fields.insert entry.1 entry.2) ∅

@[simp]
theorem lookup_literal_nil (key : String) : (literal []).lookup key = none := rfl

@[simp]
theorem lookup_literal_cons (name key : String) (value : FirestoreValue)
    (entries : List (String × FirestoreValue)) :
    (literal ((name, value) :: entries)).lookup key =
      if key = name then some value else (literal entries).lookup key := by
  split
  · next same =>
      subst same
      exact AList.lookup_insert _
  · next differ => exact AList.lookup_insert_ne differ

/-- The field holds a string. -/
def HoldsString (fields : Fields) (key value : String) : Prop :=
  fields.lookup key = some (.string value)

/-- The field is optional: absent or null for `none`, and otherwise a value of its type. -/
def HoldsOptional {α : Type} (box : α → FirestoreValue) (fields : Fields) (key : String) :
    Option α → Prop
  | none => fields.lookup key = none ∨ fields.lookup key = some .null
  | some value => fields.lookup key = some (box value)

end Fields

/-- Decode a required string field. -/
def decodeString (fields : Fields) (key : String) : Except DecodingError String :=
  decodeKey "String" unboxString fields key

/-- Decode an optional string field. -/
def decodeStringIfPresent (fields : Fields) (key : String) :
    Except DecodingError (Option String) :=
  decodeKeyIfPresent "String" unboxString fields key

/-- Decode an optional boolean field. -/
def decodeBoolIfPresent (fields : Fields) (key : String) : Except DecodingError (Option Bool) :=
  decodeKeyIfPresent "Bool" unboxBool fields key

/-- Decode a required event type. -/
def decodeEventType (fields : Fields) (key : String) : Except DecodingError EventType :=
  decodeKey "EventType" (unboxRawValue "EventType" EventType.ofRawValue) fields key

theorem decodeString_eq_ok_iff {fields : Fields} {key value : String} :
    decodeString fields key = .ok value ↔ fields.HoldsString key value := by
  simp [decodeString, decodeKey_eq_ok_iff, unboxString_eq_ok_iff, Fields.HoldsString]

theorem decodeEventType_eq_ok_iff {fields : Fields} {key : String} {eventType : EventType} :
    decodeEventType fields key = .ok eventType ↔ fields.HoldsString key eventType.rawValue := by
  simp only [decodeEventType, decodeKey_eq_ok_iff, unboxRawValue_eq_ok_iff,
    EventType.ofRawValue_eq_some_iff, Fields.HoldsString]
  constructor
  · rintro ⟨_, present, _, rfl, rfl⟩
    exact present
  · intro present
    exact ⟨_, present, _, rfl, rfl⟩

theorem decodeStringIfPresent_eq_ok_iff {fields : Fields} {key : String}
    {value : Option String} :
    decodeStringIfPresent fields key = .ok value ↔
      fields.HoldsOptional .string key value := by
  cases value with
  | none => exact decodeKeyIfPresent_eq_none_iff
  | some value =>
      simp only [decodeStringIfPresent, decodeKeyIfPresent_eq_some_iff, unboxString_eq_ok_iff,
        Fields.HoldsOptional]
      constructor
      · rintro ⟨_, present, _, rfl⟩
        exact present
      · intro present
        exact ⟨_, present, by simp, rfl⟩

theorem decodeBoolIfPresent_eq_ok_iff {fields : Fields} {key : String} {value : Option Bool} :
    decodeBoolIfPresent fields key = .ok value ↔ fields.HoldsOptional .boolean key value := by
  cases value with
  | none => exact decodeKeyIfPresent_eq_none_iff
  | some value =>
      simp only [decodeBoolIfPresent, decodeKeyIfPresent_eq_some_iff, unboxBool_eq_ok_iff,
        Fields.HoldsOptional]
      constructor
      · rintro ⟨_, present, _, rfl⟩
        exact present
      · intro present
        exact ⟨_, present, by simp, rfl⟩

/-! ## Calendar events -/

namespace CalendarEvent

/-- The synthesised `CalendarEvent.init(from:)`. -/
def decode (fields : Fields) : Except DecodingError CalendarEvent := do
  let id ← decodeString fields "id"
  let date ← decodeString fields "date"
  let eventType ← decodeEventType fields "eventType"
  let eventLocation ← decodeStringIfPresent fields "eventLocation"
  let eventDescription ← decodeStringIfPresent fields "eventDescription"
  let eventTitle ← decodeString fields "eventTitle"
  .ok { id, date, eventType, eventLocation, eventDescription, eventTitle }

/-- The dictionary `postCalendarEvents` writes, with `nil` texts made empty. -/
def encode (event : CalendarEvent) : Fields :=
  .literal
    [("date", .string event.date),
      ("eventDescription", .string (event.eventDescription.getD "")),
      ("eventLocation", .string (event.eventLocation.getD "")),
      ("eventTitle", .string event.eventTitle),
      ("eventType", .string event.eventType.rawValue),
      ("id", .string event.id)]

/-- The event as it comes back from the store. -/
def stored (event : CalendarEvent) : CalendarEvent :=
  { event with
    eventLocation := some (event.eventLocation.getD "")
    eventDescription := some (event.eventDescription.getD "") }

@[simp]
theorem stored_id (event : CalendarEvent) : event.stored.id = event.id := rfl

/-- The field dictionaries that are calendar events. -/
structure IsDocument (fields : Fields) : Prop where
  id : ∃ value, fields.HoldsString "id" value
  date : ∃ value, fields.HoldsString "date" value
  eventType : ∃ eventType : EventType, fields.HoldsString "eventType" eventType.rawValue
  eventLocation : ∃ value, fields.HoldsOptional .string "eventLocation" value
  eventDescription : ∃ value, fields.HoldsOptional .string "eventDescription" value
  eventTitle : ∃ value, fields.HoldsString "eventTitle" value

theorem decode_eq_ok_iff {fields : Fields} {event : CalendarEvent} :
    decode fields = .ok event ↔
      fields.HoldsString "id" event.id ∧ fields.HoldsString "date" event.date ∧
        fields.HoldsString "eventType" event.eventType.rawValue ∧
        fields.HoldsOptional .string "eventLocation" event.eventLocation ∧
        fields.HoldsOptional .string "eventDescription" event.eventDescription ∧
        fields.HoldsString "eventTitle" event.eventTitle := by
  obtain ⟨id, date, eventType, eventLocation, eventDescription, eventTitle⟩ := event
  simp only [decode, bind_eq_ok_iff, decodeString_eq_ok_iff, decodeEventType_eq_ok_iff,
    decodeStringIfPresent_eq_ok_iff, Except.ok.injEq, CalendarEvent.mk.injEq]
  constructor
  · rintro ⟨_, id, _, date, _, eventType, _, location, _, description, _, title,
      rfl, rfl, rfl, rfl, rfl, rfl⟩
    exact ⟨id, date, eventType, location, description, title⟩
  · rintro ⟨id, date, eventType, location, description, title⟩
    exact ⟨_, id, _, date, _, eventType, _, location, _, description, _, title, by simp⟩

/-- A dictionary decodes exactly when it is a calendar event. -/
theorem decode_succeeds_iff {fields : Fields} :
    (∃ event, decode fields = .ok event) ↔ IsDocument fields := by
  simp only [decode_eq_ok_iff]
  constructor
  · rintro ⟨event, id, date, eventType, location, description, title⟩
    exact ⟨⟨_, id⟩, ⟨_, date⟩, ⟨_, eventType⟩, ⟨_, location⟩, ⟨_, description⟩, ⟨_, title⟩⟩
  · rintro ⟨⟨id, hasId⟩, ⟨date, hasDate⟩, ⟨eventType, hasType⟩, ⟨location, hasLocation⟩,
      ⟨description, hasDescription⟩, ⟨title, hasTitle⟩⟩
    exact ⟨⟨id, date, eventType, location, description, title⟩,
      hasId, hasDate, hasType, hasLocation, hasDescription, hasTitle⟩

/-- Every posted event decodes, with `nil` texts come back empty. -/
@[simp]
theorem decode_encode (event : CalendarEvent) : decode event.encode = .ok event.stored := by
  rw [decode_eq_ok_iff]
  simp [encode, stored, Fields.HoldsString, Fields.HoldsOptional]

theorem encode_id (event : CalendarEvent) : event.encode.HoldsString "id" event.id := by
  simp [encode, Fields.HoldsString]

/-- A decoding error names one of the event's fields. -/
theorem decode_error_field {fields : Fields} {error : DecodingError}
    (failed : decode fields = .error error) :
    ∃ key ∈ ["id", "date", "eventType", "eventLocation", "eventDescription", "eventTitle"],
      error.field = some key := by
  simp only [decode, bind_eq_error_iff] at failed
  rcases failed with failed | ⟨_, _, failed | ⟨_, _, failed | ⟨_, _, failed | ⟨_, _, failed |
    ⟨_, _, failed | ⟨_, _, failed⟩⟩⟩⟩⟩⟩
  · exact ⟨"id", by simp, decodeKey_error_field unboxString_namesPath failed⟩
  · exact ⟨"date", by simp, decodeKey_error_field unboxString_namesPath failed⟩
  · exact ⟨"eventType", by simp, decodeKey_error_field unboxRawValue_namesPath failed⟩
  · exact ⟨"eventLocation", by simp, decodeKeyIfPresent_error_field unboxString_namesPath failed⟩
  · exact ⟨"eventDescription", by simp,
      decodeKeyIfPresent_error_field unboxString_namesPath failed⟩
  · exact ⟨"eventTitle", by simp, decodeKey_error_field unboxString_namesPath failed⟩
  · cases failed

end CalendarEvent

/-! ## Coupons -/

namespace Coupon

/-- The synthesised `Coupon.init(from:)`. -/
def decode (fields : Fields) : Except DecodingError Coupon := do
  let id ← decodeString fields "id"
  let title ← decodeString fields "title"
  let description ← decodeString fields "description"
  let redeemed ← decodeBoolIfPresent fields "redeemed"
  .ok { id, title, description, redeemed }

/-- The dictionary `giftCoupon` writes, always unredeemed. -/
def encode (coupon : Coupon) : Fields :=
  .literal
    [("id", .string coupon.id),
      ("title", .string coupon.title),
      ("description", .string coupon.description),
      ("redeemed", .boolean false)]

/-- The field dictionaries that are coupons. -/
structure IsDocument (fields : Fields) : Prop where
  id : ∃ value, fields.HoldsString "id" value
  title : ∃ value, fields.HoldsString "title" value
  description : ∃ value, fields.HoldsString "description" value
  redeemed : ∃ value, fields.HoldsOptional .boolean "redeemed" value

theorem decode_eq_ok_iff {fields : Fields} {coupon : Coupon} :
    decode fields = .ok coupon ↔
      fields.HoldsString "id" coupon.id ∧ fields.HoldsString "title" coupon.title ∧
        fields.HoldsString "description" coupon.description ∧
        fields.HoldsOptional .boolean "redeemed" coupon.redeemed := by
  obtain ⟨id, title, description, redeemed⟩ := coupon
  simp only [decode, bind_eq_ok_iff, decodeString_eq_ok_iff, decodeBoolIfPresent_eq_ok_iff,
    Except.ok.injEq, Coupon.mk.injEq]
  constructor
  · rintro ⟨_, id, _, title, _, description, _, redeemed, rfl, rfl, rfl, rfl⟩
    exact ⟨id, title, description, redeemed⟩
  · rintro ⟨id, title, description, redeemed⟩
    exact ⟨_, id, _, title, _, description, _, redeemed, by simp⟩

/-- A dictionary decodes exactly when it is a coupon. -/
theorem decode_succeeds_iff {fields : Fields} :
    (∃ coupon, decode fields = .ok coupon) ↔ IsDocument fields := by
  simp only [decode_eq_ok_iff]
  constructor
  · rintro ⟨coupon, id, title, description, redeemed⟩
    exact ⟨⟨_, id⟩, ⟨_, title⟩, ⟨_, description⟩, ⟨_, redeemed⟩⟩
  · rintro ⟨⟨id, hasId⟩, ⟨title, hasTitle⟩, ⟨description, hasDescription⟩,
      ⟨redeemed, hasRedeemed⟩⟩
    exact ⟨⟨id, title, description, redeemed⟩, hasId, hasTitle, hasDescription, hasRedeemed⟩

/-- Every gifted coupon decodes, unredeemed. -/
@[simp]
theorem decode_encode (coupon : Coupon) :
    decode coupon.encode = .ok { coupon with redeemed := some false } := by
  rw [decode_eq_ok_iff]
  simp [encode, Fields.HoldsString, Fields.HoldsOptional]

/-- Setting the redeemed field of a coupon changes nothing else that is decoded. -/
theorem decode_insert_redeemed {fields : Fields} {coupon : Coupon}
    (decoded : decode fields = .ok coupon) :
    decode (fields.insert "redeemed" (.boolean true)) =
      .ok { coupon with redeemed := some true } := by
  rw [decode_eq_ok_iff] at decoded ⊢
  obtain ⟨id, title, description, _⟩ := decoded
  simp_all [Fields.HoldsString, Fields.HoldsOptional, AList.lookup_insert_ne]

/-- A decoding error names one of the coupon's fields. -/
theorem decode_error_field {fields : Fields} {error : DecodingError}
    (failed : decode fields = .error error) :
    ∃ key ∈ ["id", "title", "description", "redeemed"], error.field = some key := by
  simp only [decode, bind_eq_error_iff] at failed
  rcases failed with failed | ⟨_, _, failed | ⟨_, _, failed | ⟨_, _, failed | ⟨_, _, failed⟩⟩⟩⟩
  · exact ⟨"id", by simp, decodeKey_error_field unboxString_namesPath failed⟩
  · exact ⟨"title", by simp, decodeKey_error_field unboxString_namesPath failed⟩
  · exact ⟨"description", by simp, decodeKey_error_field unboxString_namesPath failed⟩
  · exact ⟨"redeemed", by simp, decodeKeyIfPresent_error_field unboxBool_namesPath failed⟩
  · cases failed

end Coupon

end Celeste
