import Celeste.OurCalendar
import Celeste.Library.Numerals

/-!
# The date key of an event

An event is filed under the string the calendar screen's `dateFormatter` makes of a selected day,
and found again under the string another phone makes of it.  Only the format of the formatter is
set, so the fields are those of the device's own calendar, in its own digits.
-/

namespace Celeste

open Numerals

/-! ## Civil days -/

/-- The fields a date format asks for. -/
inductive DateField
  | year
  | month
  | day
  deriving DecidableEq

/-- The fields of a day in some calendar. -/
structure DateFields where
  year : Nat
  month : Nat
  day : Nat
  deriving DecidableEq

/-- The value of a field. -/
def DateFields.value (fields : DateFields) : DateField → Nat
  | .year => fields.year
  | .month => fields.month
  | .day => fields.day

/-- The leap years of the Gregorian calendar. -/
def isLeapYear (year : Nat) : Bool :=
  year % 4 = 0 ∧ (year % 100 ≠ 0 ∨ year % 400 = 0)

/-- The days of a Gregorian month. -/
def daysInMonth (year month : Nat) : Nat :=
  if month = 2 then
    if isLeapYear year then 29 else 28
  else if month ∈ [4, 6, 9, 11] then
    30
  else
    31

/-- A day FSCalendar shows, 1970-01-01 to 2099-12-31, by its Gregorian fields. -/
@[ext]
structure CivilDay where
  gregorian : DateFields
  year_range : 1970 ≤ gregorian.year ∧ gregorian.year ≤ 2099
  month_range : 1 ≤ gregorian.month ∧ gregorian.month ≤ 12
  day_range : 1 ≤ gregorian.day ∧ gregorian.day ≤ daysInMonth gregorian.year gregorian.month
  deriving DecidableEq

/-! ## Devices -/

/-- The Latin digits. -/
def latin (value : Fin 10) : Char :=
  Char.ofNat ('0'.toNat + value)

/-- The digits of a locale: the Latin ones, or ten others. -/
structure NumberingSystem where
  digit : Fin 10 → Char
  injective : Function.Injective digit
  latin_or_other : digit = latin ∨ ∀ value other, digit value ≠ latin other
  not_slash : ∀ value, digit value ≠ '/'

/-- The settings of a phone that a date formatter reads. -/
structure Device where
  /-- The fields of a day in the user's calendar. -/
  calendar : CivilDay → DateFields
  numberingSystem : NumberingSystem

/-- `formatter.dateFormat = "yyyy/MM/dd"`. -/
def dateFormat : List (Piece DateField Char) :=
  [.numeral .year 4, .literal '/', .numeral .month 2, .literal '/', .numeral .day 2]

namespace Device

/-- `dateFormatter.string(from:)` of the calendar screen: all but the format is the device's. -/
def dateFormatter (device : Device) (date : CivilDay) : String :=
  String.ofList (render device.numberingSystem.digit (device.calendar date).value dateFormat)

/-- The device's formatter writes Gregorian fields in Latin digits. -/
structure IsGregorian (device : Device) : Prop where
  calendar : ∀ date, device.calendar date = date.gregorian
  digit : device.numberingSystem.digit = latin

end Device

/-- A day in the form `CalendarEvent.date` documents: Gregorian, YYYY/MM/dd. -/
def documentedDate (date : CivilDay) : String :=
  String.ofList (render latin date.gregorian.value dateFormat)

/-! ## What the keys are for -/

/-- An event the form of a device made for a day selected there. -/
inductive AddedFor (device : Device) (event : CalendarEvent) (date : CivilDay) : Prop
  | submitted {screen : OurCalendarViewController CivilDay}
      {selectedDates uuidStrings : List String} {form : AddCalendarEventViewController.Form}
      {calendarEvents : List CalendarEvent} {index : Nat}
      (opened :
        (OurCalendarViewController.addButtonTapped device.dateFormatter screen).presentations =
          screen.presentations ++ [.addCalendarEvent selectedDates])
      (drawn : uuidStrings.length = selectedDates.length)
      (submitted : AddCalendarEventViewController.submitTapped selectedDates uuidStrings form =
        .postCalendarEvents calendarEvents)
      (selected : screen.selectedDates[index]? = some date)
      (posted : calendarEvents[index]? = some event)

/-- Two devices agree on the key of every day, it is the documented one, and what one adds for a
day the other shows for that day alone. -/
structure SharesKeys (writer reader : Device) : Prop where
  same : ∀ date, writer.dateFormatter date = reader.dateFormatter date
  documented : ∀ date, writer.dateFormatter date = documentedDate date
  tabled : ∀ (screen : OurCalendarViewController CivilDay) event date,
    AddedFor writer event date → event ∈ screen.calendarData →
      (event ∈ (OurCalendarViewController.updateCalendarTableEventsData reader.dateFormatter
          screen).calendarEventsTableData ↔
        date ∈ screen.selectedDates)
  counted : ∀ (screen : OurCalendarViewController CivilDay) (dayOf : CalendarEvent → CivilDay),
    (∀ event ∈ screen.calendarData, AddedFor writer event (dayOf event)) → ∀ date,
      (OurCalendarViewController.numberOfEventsFor reader.dateFormatter screen date = 1 ↔
        ∃ event ∈ screen.calendarData, dayOf event = date)

theorem AddedFor.date_eq {device : Device} {event : CalendarEvent} {date : CivilDay}
    (added : AddedFor device event date) : event.date = device.dateFormatter date := by
  cases added with
  | @submitted screen selectedDates uuidStrings form calendarEvents index opened drawn submitted
      selected posted =>
      have dates := (AddCalendarEventViewController.submitTapped_batch drawn submitted).1
      have handed : selectedDates = screen.selectedDates.map device.dateFormatter := by
        unfold OurCalendarViewController.addButtonTapped at opened
        split at opened
        · simp [OurCalendarViewController.present] at opened
        · simpa [OurCalendarViewController.present, eq_comm] using opened
      have at_index : (calendarEvents.map CalendarEvent.date)[index]? =
          some (device.dateFormatter date) := by
        rw [dates, handed, List.getElem?_map, selected, Option.map_some]
      rw [List.getElem?_map, posted, Option.map_some, Option.some.injEq] at at_index
      exact at_index

/-! ## When the keys are shared -/

theorem head_dateFormat (digit : Fin 10 → Char) (fields : DateFields) :
    ∃ place, (render digit fields.value dateFormat).head? = some (digit place) :=
  head_render digit fields.value .year (by omega) _

/-- A slash is no digit, so the format separates its fields in every numbering system. -/
theorem separated_dateFormat (system : NumberingSystem) : Separated system.digit dateFormat :=
  ⟨system.not_slash, system.not_slash, True.intro⟩

theorem DateFields.eq_of_value_eq {left right : DateFields}
    (same : ∀ field, left.value field = right.value field) : left = right := by
  obtain ⟨year, month, day⟩ := left
  have year_eq : year = right.year := same .year
  have month_eq : month = right.month := same .month
  have day_eq : day = right.day := same .day
  rw [year_eq, month_eq, day_eq]

/-- In the digits of one system the format tells dates apart. -/
theorem dateFields_eq_of_render_eq {system : NumberingSystem} {left right : DateFields}
    (same : render system.digit left.value dateFormat =
      render system.digit right.value dateFormat) : left = right := by
  apply DateFields.eq_of_value_eq
  intro field
  have asked : ∃ width, .numeral field width ∈ dateFormat := by
    cases field with
    | year => exact ⟨4, by simp [dateFormat]⟩
    | month => exact ⟨2, by simp [dateFormat]⟩
    | day => exact ⟨2, by simp [dateFormat]⟩
  obtain ⟨width, member⟩ := asked
  exact eq_of_render_eq (by omega) system.injective (separated_dateFormat system) same member

/-- A device whose calendar tells days apart finds its own events under their own days. -/
theorem Device.dateFormatter_injective {device : Device}
    (calendar : Function.Injective device.calendar) : Function.Injective device.dateFormatter := by
  intro left right same
  have fields : device.calendar left = device.calendar right :=
    dateFields_eq_of_render_eq (String.ofList_injective same)
  exact calendar fields

/-- A day's key is the documented one exactly where the device's fields for it are Gregorian and
its digits Latin: others would show, and the digits give the fields away. -/
theorem Device.dateFormatter_eq_documented_iff {device : Device} {date : CivilDay} :
    device.dateFormatter date = documentedDate date ↔
      device.calendar date = date.gregorian ∧ device.numberingSystem.digit = latin := by
  constructor
  · intro same
    have text : render device.numberingSystem.digit (device.calendar date).value dateFormat =
        render latin date.gregorian.value dateFormat := String.ofList_injective same
    have digit : device.numberingSystem.digit = latin := by
      refine device.numberingSystem.latin_or_other.resolve_right ?_
      intro other
      obtain ⟨place, head⟩ := head_dateFormat device.numberingSystem.digit (device.calendar date)
      obtain ⟨place', head'⟩ := head_dateFormat latin date.gregorian
      rw [text, head'] at head
      exact other place place' (Option.some.inj head).symm
    rw [← digit] at text
    exact ⟨dateFields_eq_of_render_eq text, digit⟩
  · intro gregorian
    rw [Device.dateFormatter, gregorian.1, gregorian.2]
    rfl

/-- 1970-01-01, the first day FSCalendar shows. -/
def epoch : CivilDay where
  gregorian :=
    { year := 1970
      month := 1
      day := 1 }
  year_range := by decide
  month_range := by decide
  day_range := by decide

theorem Device.isGregorian_of_documented {device : Device}
    (documented : ∀ date, device.dateFormatter date = documentedDate date) :
    device.IsGregorian where
  calendar date := (Device.dateFormatter_eq_documented_iff.mp (documented date)).1
  digit := (Device.dateFormatter_eq_documented_iff.mp (documented epoch)).2

namespace Device.IsGregorian

variable {device : Device} (gregorian : device.IsGregorian)

include gregorian

theorem dateFormatter_eq (date : CivilDay) : device.dateFormatter date = documentedDate date :=
  Device.dateFormatter_eq_documented_iff.mpr ⟨gregorian.calendar date, gregorian.digit⟩

theorem dateFormatter_injective : Function.Injective device.dateFormatter := by
  apply Device.dateFormatter_injective
  intro left right same
  rw [gregorian.calendar, gregorian.calendar] at same
  exact CivilDay.ext same

end Device.IsGregorian

/-- What is added for a day on one Gregorian device is shown for that day alone on another. -/
theorem sharesKeys_of_isGregorian {writer reader : Device} (writes : writer.IsGregorian)
    (reads : reader.IsGregorian) : SharesKeys writer reader where
  same date := by rw [writes.dateFormatter_eq, reads.dateFormatter_eq]
  documented := writes.dateFormatter_eq
  tabled := by
    intro screen event date added member
    have key : event.date = reader.dateFormatter date := by
      rw [added.date_eq, writes.dateFormatter_eq, reads.dateFormatter_eq]
    simp only [OurCalendarViewController.updateCalendarTableEventsData, List.mem_filter, member,
      true_and, List.any_eq_true, decide_eq_true_eq, key]
    constructor
    · intro found
      obtain ⟨selected, selected_member, same⟩ := found
      exact reads.dateFormatter_injective same ▸ selected_member
    · intro selected
      exact ⟨date, selected, rfl⟩
  counted := by
    intro screen dayOf added date
    have key : ∀ event ∈ screen.calendarData, event.date = reader.dateFormatter (dayOf event) := by
      intro event member
      rw [(added event member).date_eq, writes.dateFormatter_eq, reads.dateFormatter_eq]
    have filed : OurCalendarViewController.numberOfEventsFor reader.dateFormatter screen date = 1 ↔
        ∃ event ∈ screen.calendarData, event.date = reader.dateFormatter date := by
      simp [OurCalendarViewController.numberOfEventsFor]
    rw [filed]
    constructor
    · intro found
      obtain ⟨event, member, same⟩ := found
      rw [key event member] at same
      exact ⟨event, member, reads.dateFormatter_injective same⟩
    · intro found
      obtain ⟨event, member, same⟩ := found
      exact ⟨event, member, same ▸ key event member⟩

/-- Two devices share the keys of their events exactly when each of them writes Gregorian fields in
Latin digits on every day of the range. -/
theorem sharesKeys_iff (writer reader : Device) :
    SharesKeys writer reader ↔ writer.IsGregorian ∧ reader.IsGregorian := by
  constructor
  · intro shares
    constructor
    · exact Device.isGregorian_of_documented shares.documented
    · apply Device.isGregorian_of_documented
      intro date
      rw [← shares.same, shares.documented]
  · intro gregorian
    exact sharesKeys_of_isGregorian gregorian.1 gregorian.2

/-! ## Devices with other settings -/

/-- The numbering system of Latin digits. -/
def NumberingSystem.latn : NumberingSystem where
  digit := latin
  injective := by
    unfold Function.Injective
    decide
  latin_or_other := .inl rfl
  not_slash := by decide

/-- The numbering system of Arabic-Indic digits. -/
def NumberingSystem.arab : NumberingSystem where
  digit value := Char.ofNat (0x660 + value)
  injective := by
    unfold Function.Injective
    decide
  latin_or_other := .inr (by decide)
  not_slash := by decide

/-- A phone with the Gregorian calendar and Latin digits. -/
def gregorianDevice : Device where
  calendar := CivilDay.gregorian
  numberingSystem := .latn

/-- A phone with the Buddhist calendar, as set for the region Thailand. -/
def buddhistDevice : Device where
  calendar date := { date.gregorian with year := date.gregorian.year + 543 }
  numberingSystem := .latn

/-- A phone with the Gregorian calendar in Arabic. -/
def arabicDevice : Device where
  calendar := CivilDay.gregorian
  numberingSystem := .arab

/-- The keys of one day on three phones. -/
theorem epoch_keys_differ :
    gregorianDevice.dateFormatter epoch = "1970/01/01" ∧
      buddhistDevice.dateFormatter epoch = "2513/01/01" ∧
      arabicDevice.dateFormatter epoch = "١٩٧٠/٠١/٠١" ∧
      ¬ SharesKeys buddhistDevice gregorianDevice ∧ ¬ SharesKeys arabicDevice gregorianDevice := by
  have gregorian : gregorianDevice.dateFormatter epoch = "1970/01/01" := by decide
  have buddhist : buddhistDevice.dateFormatter epoch = "2513/01/01" := by decide
  have arabic : arabicDevice.dateFormatter epoch = "١٩٧٠/٠١/٠١" := by decide
  refine ⟨gregorian, buddhist, arabic, ?_, ?_⟩
  · intro shares
    have same := shares.same epoch
    rw [gregorian, buddhist] at same
    exact absurd same (by decide)
  · intro shares
    have same := shares.same epoch
    rw [gregorian, arabic] at same
    exact absurd same (by decide)

end Celeste
