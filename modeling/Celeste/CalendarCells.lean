import Celeste.Geometry
import Celeste.Library.TimeZones

/-!
# The cells of the calendar

`configure` decides what a cell shows of its day: the circle of today, and the shape of the
selection layer, from the selected dates around it.  It leaves the type and the path where they do
not show, and `layoutSubviews` renews the path of some types only.  A reused cell still shows what a
new one would.
-/

namespace Celeste

/-! ## Cells -/

/-- `SelectionType`. -/
inductive SelectionType
  | none
  | single
  | leftBorder
  | middle
  | rightBorder
  deriving DecidableEq

/-- `FSCalendarMonthPosition`. -/
inductive FSCalendarMonthPosition
  | previous
  | current
  | next
  | notFound
  deriving DecidableEq

/-- `UIRectCorner`. -/
inductive UIRectCorner
  | topLeft
  | topRight
  | bottomLeft
  | bottomRight
  deriving DecidableEq

/-- `UIBezierPath`. -/
inductive UIBezierPath
  | rect (rect : CGRect)
  | roundedRect (rect : CGRect) (corners : List UIRectCorner) (cornerRadii : CGSize)
  | oval (rect : CGRect)
  deriving DecidableEq

/-- A calendar cell; its content view has its bounds. -/
structure OurCalendarCell where
  bounds : CGSize
  needsLayout : Bool
  circleImageViewHidden : Bool
  selectionLayerHidden : Bool
  selectionLayerFrame : CGRect
  selectionLayerPath : Option UIBezierPath
  selectionType : SelectionType
  deriving DecidableEq

namespace OurCalendarCell

/-- `OurCalendarCell(frame:)`. -/
def fresh (bounds : CGSize) : OurCalendarCell where
  bounds := bounds
  needsLayout := true
  circleImageViewHidden := false
  selectionLayerHidden := false
  selectionLayerFrame := ⟨0, 0, 0, 0⟩
  selectionLayerPath := none
  selectionType := .none

/-- Setting `selectionType`, which asks for layout. -/
def setSelectionType (cell : OurCalendarCell) (selectionType : SelectionType) : OurCalendarCell :=
  { cell with
    selectionType
    needsLayout := true }

/-- Setting the bounds; a new size asks for layout. -/
def setBounds (cell : OurCalendarCell) (bounds : CGSize) : OurCalendarCell :=
  { cell with
    bounds
    needsLayout := cell.needsLayout || decide (bounds ≠ cell.bounds) }

/-- `contentView.bounds`. -/
def contentBounds (cell : OurCalendarCell) : CGRect where
  x := 0
  y := 0
  width := cell.bounds.width
  height := cell.bounds.height

/-- `layoutSubviews`. -/
def layoutSubviews (cell : OurCalendarCell) : OurCalendarCell :=
  let frame := cell.contentBounds
  let laidOut :=
    { cell with
      needsLayout := false
      selectionLayerFrame := frame }
  if cell.selectionType = .middle then
    { laidOut with selectionLayerPath := some (.rect frame) }
  else if cell.selectionType = .leftBorder then
    { laidOut with
      selectionLayerPath :=
        some (.roundedRect frame [.topLeft, .bottomLeft] ⟨frame.width / 2, frame.width / 2⟩) }
  else if cell.selectionType = .rightBorder then
    { laidOut with
      selectionLayerPath :=
        some (.roundedRect frame [.topRight, .bottomRight] ⟨frame.width / 2, frame.width / 2⟩) }
  else if cell.selectionType = .single then
    let diameter := min frame.height frame.width
    { laidOut with
      selectionLayerPath :=
        some (.oval ⟨frame.width / 2 - diameter / 2, frame.height / 2 - diameter / 2, diameter,
          diameter⟩) }
  else laidOut

/-- A layout pass. -/
def layoutIfNeeded (cell : OurCalendarCell) : OurCalendarCell :=
  if cell.needsLayout then cell.layoutSubviews else cell

end OurCalendarCell

/-! ## Configuring a cell -/

/-- What a call of `configure(cell:for:at:)` is about: the date and its position, the selected dates
and the civil day that is today. -/
structure CellContent where
  date : ℤ
  position : FSCalendarMonthPosition
  selectedDates : List ℤ
  today : ℤ

namespace CellContent

variable (zone : TimeZone) (content : CellContent)

/-- The type of a selected or unselected date at the current position. -/
def selectionType : SelectionType :=
  if content.date ∈ content.selectedDates then
    let previousDate := zone.addDays (-1) content.date
    let nextDate := zone.addDays 1 content.date
    if content.date ∈ content.selectedDates then
      if previousDate ∈ content.selectedDates ∧ nextDate ∈ content.selectedDates then .middle
      else if previousDate ∈ content.selectedDates ∧ content.date ∈ content.selectedDates then
        .rightBorder
      else if nextDate ∈ content.selectedDates then .leftBorder
      else .single
    else .none
  else .none

/-- `configure(cell:for:at:)`. -/
def configure (cell : OurCalendarCell) : OurCalendarCell :=
  let diyCell :=
    { cell with circleImageViewHidden := !decide (zone.day content.date = content.today) }
  if content.position = .current then
    let selectionType := content.selectionType zone
    if selectionType = .none then { diyCell with selectionLayerHidden := true }
    else { diyCell with selectionLayerHidden := false }.setSelectionType selectionType
  else
    { diyCell with
      circleImageViewHidden := true
      selectionLayerHidden := true }

/-- The type that shows: none away from the current month. -/
def shownType : SelectionType :=
  if content.position = .current then content.selectionType zone else .none

/-- The circle does not show. -/
def circleHidden : Bool :=
  if content.position = .current then !decide (zone.day content.date = content.today) else true

/-- `configure` hides the layer and leaves the type where no type shows. -/
theorem configure_eq (cell : OurCalendarCell) :
    content.configure zone cell =
      { cell with
        circleImageViewHidden := content.circleHidden zone
        selectionLayerHidden := decide (content.shownType zone = .none)
        selectionType :=
          if content.shownType zone = .none then cell.selectionType else content.shownType zone
        needsLayout := cell.needsLayout || decide (content.shownType zone ≠ .none) } := by
  unfold configure shownType circleHidden
  by_cases current : content.position = .current
  · by_cases unselected : content.selectionType zone = .none
    · simp [current, unselected]
    · simp [current, unselected, OurCalendarCell.setSelectionType]
  · simp [current]

end CellContent

/-- The path of a type in a cell of some size. -/
def SelectionType.path (bounds : CGSize) : SelectionType → Option UIBezierPath
  | .none => Option.none
  | .single =>
      let diameter := min bounds.height bounds.width
      some (.oval ⟨bounds.width / 2 - diameter / 2, bounds.height / 2 - diameter / 2, diameter,
        diameter⟩)
  | .leftBorder =>
      some (.roundedRect ⟨0, 0, bounds.width, bounds.height⟩ [.topLeft, .bottomLeft]
        ⟨bounds.width / 2, bounds.width / 2⟩)
  | .middle => some (.rect ⟨0, 0, bounds.width, bounds.height⟩)
  | .rightBorder =>
      some (.roundedRect ⟨0, 0, bounds.width, bounds.height⟩ [.topRight, .bottomRight]
        ⟨bounds.width / 2, bounds.width / 2⟩)

namespace OurCalendarCell

theorem layoutSubviews_eq (cell : OurCalendarCell) :
    cell.layoutSubviews =
      { cell with
        needsLayout := false
        selectionLayerFrame := cell.contentBounds
        selectionLayerPath :=
          (cell.selectionType.path cell.bounds).or cell.selectionLayerPath } := by
  unfold layoutSubviews
  cases type : cell.selectionType with
  | none => rfl
  | single => rfl
  | leftBorder => rfl
  | middle => rfl
  | rightBorder => rfl

/-- What a cell shows: the circle, the layer, and the layer's path. -/
structure Visible where
  circleHidden : Bool
  layerHidden : Bool
  path : Option UIBezierPath
  deriving DecidableEq

/-- What can be seen of a cell. -/
def visible (cell : OurCalendarCell) : Visible where
  circleHidden := cell.circleImageViewHidden
  layerHidden := cell.selectionLayerHidden
  path := if cell.selectionLayerHidden then none else cell.selectionLayerPath

/-! ## Reuse -/

/-- What happens to a cell. -/
inductive Event
  | configure (content : CellContent)
  | layoutIfNeeded
  | setBounds (bounds : CGSize)

variable (zone : TimeZone)

/-- One event. -/
def handle (cell : OurCalendarCell) : Event → OurCalendarCell
  | .configure content => content.configure zone cell
  | .layoutIfNeeded => cell.layoutIfNeeded
  | .setBounds bounds => cell.setBounds bounds

/-- The content of the last `configure` among some events. -/
def lastContent : List Event → Option CellContent
  | [] => none
  | .configure content :: events => (lastContent events).or (some content)
  | _ :: events => lastContent events

/-- A layout pass is due unless the path is that of the type. -/
def Settled (cell : OurCalendarCell) : Prop :=
  cell.needsLayout = false → ∀ path, cell.selectionType.path cell.bounds = some path →
    cell.selectionLayerPath = some path

/-- The cell has been configured for its content. -/
structure Configured (content : CellContent) (cell : OurCalendarCell) : Prop where
  circle : cell.circleImageViewHidden = content.circleHidden zone
  layer : cell.selectionLayerHidden = decide (content.shownType zone = .none)
  selectionType : content.shownType zone ≠ .none → cell.selectionType = content.shownType zone

/-- A laid out cell shows its type at its size. -/
def shown (content : CellContent) (bounds : CGSize) : Visible where
  circleHidden := content.circleHidden zone
  layerHidden := decide (content.shownType zone = .none)
  path := (content.shownType zone).path bounds

variable {zone} {content : CellContent} {cell : OurCalendarCell}

@[simp]
theorem layoutIfNeeded_bounds (cell : OurCalendarCell) :
    cell.layoutIfNeeded.bounds = cell.bounds := by
  rw [layoutIfNeeded, layoutSubviews_eq]
  split <;> rfl

@[simp]
theorem layoutIfNeeded_needsLayout (cell : OurCalendarCell) :
    cell.layoutIfNeeded.needsLayout = false := by
  rw [layoutIfNeeded, layoutSubviews_eq]
  split
  · rfl
  · next laid_out => exact Bool.eq_false_iff.mpr laid_out

theorem Settled.layoutIfNeeded (settled : Settled cell) : Settled cell.layoutIfNeeded := by
  rw [OurCalendarCell.layoutIfNeeded, layoutSubviews_eq]
  split
  · intro _ path shape
    simp only at shape ⊢
    rw [shape, Option.some_or]
  · exact settled

theorem Settled.handle (settled : Settled cell) (event : Event) :
    Settled (cell.handle zone event) := by
  cases event with
  | configure content =>
      rw [OurCalendarCell.handle, CellContent.configure_eq]
      intro laid_out path shape
      simp only [Bool.or_eq_false_iff, decide_eq_false_iff_not, not_not] at laid_out
      simp only [laid_out.2, if_true] at shape
      exact settled laid_out.1 path shape
  | layoutIfNeeded => exact settled.layoutIfNeeded
  | setBounds bounds =>
      intro laid_out path shape
      simp only [OurCalendarCell.handle, setBounds, Bool.or_eq_false_iff, decide_eq_false_iff_not,
        not_not] at laid_out shape
      rw [laid_out.2] at shape
      exact settled laid_out.1 path shape

theorem Settled.fresh (bounds : CGSize) : Settled (fresh bounds) := by
  intro laid_out
  cases laid_out

theorem configured_configure (cell : OurCalendarCell) :
    Configured zone content (content.configure zone cell) := by
  rw [CellContent.configure_eq]
  refine ⟨rfl, rfl, ?_⟩
  intro type_shown
  exact if_neg type_shown

theorem Configured.layoutIfNeeded (configured : Configured zone content cell) :
    Configured zone content cell.layoutIfNeeded := by
  rw [OurCalendarCell.layoutIfNeeded, layoutSubviews_eq]
  split
  · exact ⟨configured.circle, configured.layer, configured.selectionType⟩
  · exact configured

theorem Configured.setBounds (configured : Configured zone content cell) (bounds : CGSize) :
    Configured zone content (cell.setBounds bounds) :=
  ⟨configured.circle, configured.layer, configured.selectionType⟩

theorem configured_foldl (events : List Event) (cell : OurCalendarCell) (content : CellContent) :
    (lastContent events = some content →
      Configured zone content (events.foldl (handle zone) cell)) ∧
    (lastContent events = none → Configured zone content cell →
      Configured zone content (events.foldl (handle zone) cell)) := by
  induction events generalizing cell with
  | nil =>
      constructor
      · intro last
        cases last
      · intro _ configured
        exact configured
  | cons event events ih =>
      cases event with
      | configure new =>
          have configured : Configured zone new (new.configure zone cell) :=
            configured_configure cell
          constructor
          · intro last
            cases later : lastContent events with
            | none =>
                have same : new = content := by simpa [lastContent, later] using last
                exact (ih (new.configure zone cell)).2 later (same ▸ configured)
            | some other =>
                have same : other = content := by simpa [lastContent, later] using last
                exact (ih (new.configure zone cell)).1 (same ▸ later)
          · intro last
            cases later : lastContent events with
            | none => simp [lastContent, later] at last
            | some other => simp [lastContent, later] at last
      | layoutIfNeeded =>
          constructor
          · intro last
            exact (ih cell.layoutIfNeeded).1 last
          · intro last configured
            exact (ih cell.layoutIfNeeded).2 last configured.layoutIfNeeded
      | setBounds bounds =>
          constructor
          · intro last
            exact (ih (cell.setBounds bounds)).1 last
          · intro last configured
            exact (ih (cell.setBounds bounds)).2 last (configured.setBounds bounds)

theorem Settled.foldl (settled : Settled cell) (events : List Event) :
    Settled (events.foldl (OurCalendarCell.handle zone) cell) := by
  induction events generalizing cell with
  | nil => exact settled
  | cons event events ih => exact ih (settled.handle event)

theorem Configured.visible_layoutIfNeeded (configured : Configured zone content cell)
    (settled : Settled cell) : cell.layoutIfNeeded.visible = shown zone content cell.bounds := by
  have laid_out := configured.layoutIfNeeded
  have path := settled.layoutIfNeeded cell.layoutIfNeeded_needsLayout
  rw [visible, shown, laid_out.circle, laid_out.layer]
  congr 1
  cases type : content.shownType zone with
  | none => rfl
  | single | leftBorder | middle | rightBorder =>
      rw [laid_out.selectionType (by simp [type]), type, layoutIfNeeded_bounds] at path
      simpa [SelectionType.path] using path

/-- Once a reused cell is laid out, it shows what a new cell of its size would if configured once,
for the last content; where its selection layer is visible, the path is the shape of the type
computed last. -/
theorem reused_visible {events : List Event} {content : CellContent} {bounds : CGSize}
    {reused : OurCalendarCell} (last : lastContent events = some content)
    (history : (events ++ [Event.layoutIfNeeded]).foldl (handle zone) (fresh bounds) = reused) :
    reused.visible = (content.configure zone (fresh reused.bounds)).layoutIfNeeded.visible ∧
      (reused.selectionLayerHidden = false →
        reused.selectionLayerPath = (content.shownType zone).path reused.bounds) := by
  obtain ⟨used, used_eq⟩ : ∃ used, events.foldl (handle zone) (fresh bounds) = used := ⟨_, rfl⟩
  have configured : Configured zone content used :=
    used_eq ▸ (configured_foldl events (fresh bounds) content).1 last
  have settled : Settled used := used_eq ▸ (Settled.fresh bounds).foldl events
  have new_configured : Configured zone content (content.configure zone (fresh used.bounds)) :=
    configured_configure _
  have new_settled : Settled (content.configure zone (fresh used.bounds)) :=
    (Settled.fresh used.bounds).handle (.configure content)
  have new_bounds : (content.configure zone (fresh used.bounds)).bounds = used.bounds := by
    rw [CellContent.configure_eq]
    rfl
  have used_shown := configured.visible_layoutIfNeeded settled
  have new_shown := new_configured.visible_layoutIfNeeded new_settled
  rw [new_bounds] at new_shown
  rw [List.foldl_append, used_eq] at history
  subst history
  constructor
  · rw [List.foldl_cons, List.foldl_nil, handle, layoutIfNeeded_bounds, used_shown, new_shown]
  · intro layer_visible
    rw [List.foldl_cons, List.foldl_nil, handle] at layer_visible ⊢
    have path := congrArg Visible.path used_shown
    rw [visible, layer_visible] at path
    rw [layoutIfNeeded_bounds]
    exact path

/-- A cell that showed the left border of a selection, was resized, and then shows a single day. -/
def reusedEvents : List Event :=
  [.configure ⟨0, .current, [0, 86400], 0⟩, .layoutIfNeeded, .setBounds ⟨50, 40⟩,
    .configure ⟨0, .current, [0], 0⟩]

theorem reusedEvents_visible :
    ∃ reused : OurCalendarCell,
      (reusedEvents ++ [Event.layoutIfNeeded]).foldl (handle (.fixed 0)) (fresh ⟨40, 40⟩) =
        reused ∧
      reused.visible =
        (CellContent.configure (.fixed 0) ⟨0, .current, [0], 0⟩
          (fresh reused.bounds)).layoutIfNeeded.visible ∧
      (reused.selectionLayerHidden = false → reused.selectionLayerPath =
        (CellContent.shownType (.fixed 0) ⟨0, .current, [0], 0⟩).path reused.bounds) := by
  have last : lastContent reusedEvents = some ⟨0, .current, [0], 0⟩ := rfl
  obtain ⟨reused, history⟩ : ∃ reused, (reusedEvents ++ [Event.layoutIfNeeded]).foldl
      (handle (.fixed 0)) (fresh ⟨40, 40⟩) = reused := ⟨_, rfl⟩
  exact ⟨reused, history, reused_visible last history⟩

end OurCalendarCell

end Celeste
