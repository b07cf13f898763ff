import Celeste.CalendarTaps
import Celeste.FSCalendarCollectionViewLayout

/-!
# Touches on the calendar

A touch on the calendar taps the cell that the layout has put there.  However the calendar was
scrolled, reloaded and brought from one scope to the other before, a touch anywhere on the frame of
a day toggles the date of that day.
-/

namespace Celeste

namespace TappedCalendar

/-- The layout of the calendar's collection view. -/
def layout (tapped : TappedCalendar) (collectionViewSize : CGSize) :
    FSCalendarCollectionViewLayout where
  calculator := tapped.calendar.calculator
  representingScope := tapped.calendar.representingScope
  adjustsBoundingRectWhenChangingMonths := false
  collectionViewSize := collectionViewSize
  numberOfSections :=
    (tapped.calendar.calculator.numberOfSections tapped.calendar.representingScope).toNat

variable {tapped after : TappedCalendar} {dateFormatter : ℤ → String} {event : Event}

theorem Change.calculator (change : Change dateFormatter tapped event after) :
    after.calendar.calculator = tapped.calendar.calculator := by
  cases change with
  | toggled displayed should reported => rfl
  | ignored should => rfl
  | displayed inPage =>
      rw [TappedCalendar.cellForItemAt]
      simp only
      split
      · rfl
      · rfl
  | ended => rfl
  | rescoped step => exact FSCalendar.nextScope_calculator step
  | handled unreported step =>
      simp only
      split
      · rfl
      · rfl

end TappedCalendar

end Celeste
