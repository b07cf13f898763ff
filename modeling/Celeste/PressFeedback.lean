import Celeste.Geometry
import Celeste.Library.Machine
import Celeste.Library.Requests

/-!
# Press feedback

A pressed view shows a highlight over itself and shrinks.  The highlight is looked up among the
subviews at every call, and made where there is none; releasing removes it at once, and once more
when the release's animation completes.  Completions may come late: they hold on to the highlight
they were made for, which is never shown again.
-/

namespace Celeste

/-! ## Configuration -/

/-- `HighlightMargin`. -/
inductive HighlightMargin
  | eight
  | none
  deriving DecidableEq

/-- The raw value of a margin. -/
def HighlightMargin.rawValue : HighlightMargin → ℚ
  | .eight => 8
  | .none => 0

/-- `PressScale`. -/
inductive PressScale
  | large
  | medium
  | small
  deriving DecidableEq

/-- The raw value of a scale. -/
def PressScale.rawValue : PressScale → ℚ
  | .large => 95 / 100
  | .medium => 965 / 1000
  | .small => 98 / 100

/-- `PressableConfiguration`. -/
structure PressableConfiguration where
  pressScale : PressScale
  highlightMargin : HighlightMargin

/-- `Constants.highlightAlpha`. -/
def highlightAlpha : ℚ := 1 / 10

/-! ## Views -/

/-- A highlight view, by what a call sets. -/
structure HighlightView where
  alpha : ℚ
  frame : CGRect
  cornerRadius : ℚ
  deriving DecidableEq

/-- `HighlightView(frame: .zero)`. -/
def HighlightView.zero : HighlightView where
  alpha := 0
  frame := ⟨0, 0, 0, 0⟩
  cornerRadius := 0

/-- A subview: a highlight, by its number, or some other view. -/
inductive Subview
  | highlight (number : Nat)
  | other (view : Nat)
  deriving DecidableEq

/-- The number of a highlight. -/
def Subview.highlightNumber : Subview → Option Nat
  | .highlight number => some number
  | .other _ => none

/-- What the completion of an animated call captured. -/
structure HighlightCompletion where
  highlightView : Nat
  isHighlighted : Bool

/-- A pressable view, all highlight views made for it, and the completions pending. -/
structure PressableView where
  configuration : PressableConfiguration
  bounds : CGRect
  cornerRadius : ℚ
  transform : CGAffineTransform
  subviews : List Subview
  highlights : List HighlightView
  completions : Requests HighlightCompletion

namespace PressableView

/-- The highlight views among the subviews. -/
def highlightSubviews (view : PressableView) : List Nat :=
  view.subviews.filterMap Subview.highlightNumber

/-- A new highlight view among the subviews. -/
def addHighlight (view : PressableView) : PressableView :=
  { view with
    subviews := view.subviews ++ [.highlight view.highlights.length]
    highlights := view.highlights ++ [.zero] }

/-- `currentHighlightView`: the first among the subviews, or a new one. -/
def currentHighlightView (view : PressableView) : PressableView × Nat :=
  match view.highlightSubviews with
  | number :: _ => (view, number)
  | [] => (view.addHighlight, view.highlights.length)

/-- `removeFromSuperview()` on a highlight view. -/
def removeHighlight (view : PressableView) (number : Nat) : PressableView :=
  { view with subviews := view.subviews.filter (· ≠ .highlight number) }

/-- Change a highlight view. -/
def modifyHighlight (view : PressableView) (number : Nat)
    (change : HighlightView → HighlightView) : PressableView :=
  { view with highlights := view.highlights.modify number change }

/-- The `completion` block of `set(isHighlighted:margin:isAnimated:)`. -/
def complete (view : PressableView) (completion : HighlightCompletion) (didFinish : Bool) :
    PressableView :=
  if completion.isHighlighted = false ∧ didFinish = true then
    view.removeHighlight completion.highlightView
  else view

/-- The part of `set(isHighlighted:margin:isAnimated:)` before its actions. -/
def place (view : PressableView) (number : Nat) (isHighlighted : Bool) (margin : ℚ) :
    PressableView :=
  if isHighlighted then
    view.modifyHighlight number fun highlight =>
      { highlight with
        frame := view.bounds.insetBy (-margin) (-margin)
        cornerRadius := view.cornerRadius }
  else view.removeHighlight number

/-- The `actions` block, after the part before it; an animation sets the alpha at once. -/
def acted (view : PressableView) (number : Nat) (isHighlighted : Bool) (margin : ℚ) :
    PressableView :=
  let alpha := if isHighlighted then highlightAlpha else 0
  (view.place number isHighlighted margin).modifyHighlight number fun highlight =>
    { highlight with alpha }

/-- `set(isHighlighted:margin:isAnimated:)`. -/
def setHighlighted (view : PressableView) (isHighlighted : Bool) (margin : HighlightMargin)
    (isAnimated : Bool) : PressableView :=
  let (view, number) := view.currentHighlightView
  let acted := view.acted number isHighlighted margin.rawValue
  let completion : HighlightCompletion := ⟨number, isHighlighted⟩
  if isAnimated then { acted with completions := acted.completions.issue completion }
  else acted.complete completion true

/-- `set(isScaled:scale:isAnimated:)`; animated or not, the transform is set at once. -/
def setScaled (view : PressableView) (isScaled : Bool) (scale : PressScale) : PressableView :=
  { view with
    transform :=
      if isScaled then .scale scale.rawValue scale.rawValue else .identity }

/-- `set(isPressed:animated:)`. -/
def setPressed (view : PressableView) (isPressed animated : Bool) : PressableView :=
  (view.setHighlighted isPressed view.configuration.highlightMargin animated).setScaled isPressed
    view.configuration.pressScale

/-- A call, a completion, or a change of the view by others. -/
inductive Event
  | setPressed (isPressed animated : Bool)
  | completed (number : Nat) (didFinish : Bool)
  | setBounds (bounds : CGRect)
  | setCornerRadius (cornerRadius : ℚ)
  | insertSubview (view index : Nat)
  | removeSubview (view : Nat)

/-- The transitions of a view; each completion comes once, after its call. -/
def machine : Machine PressableView Event where
  next view
    | .setPressed isPressed animated => some (view.setPressed isPressed animated)
    | .completed number didFinish =>
        if number ∈ view.completions.unanswered then
          view.completions.calls[number]?.map fun completion =>
            { view with completions := view.completions.answer number }.complete completion
              didFinish
        else none
    | .setBounds bounds => some { view with bounds }
    | .setCornerRadius cornerRadius => some { view with cornerRadius }
    | .insertSubview other index =>
        some { view with subviews := view.subviews.insertIdx index (.other other) }
    | .removeSubview other =>
        some { view with subviews := view.subviews.filter (· ≠ .other other) }

/-- A view with subviews of its own, never pressed. -/
def plain (configuration : PressableConfiguration) (bounds : CGRect) (cornerRadius : ℚ)
    (transform : CGAffineTransform) (others : List Nat) : PressableView where
  configuration := configuration
  bounds := bounds
  cornerRadius := cornerRadius
  transform := transform
  subviews := others.map .other
  highlights := []
  completions := .empty

/-- The event calls `set(isPressed:animated:)`. -/
def Event.isCall : Event → Bool
  | .setPressed _ _ => true
  | _ => false

/-- The view shows the press or the release of a call made with some bounds and corner radius. -/
structure ShowsCall (isPressed : Bool) (bounds : CGRect) (cornerRadius : ℚ) (view : PressableView) :
    Prop where
  count : view.highlightSubviews.length = if isPressed then 1 else 0
  highlight : ∀ number ∈ view.highlightSubviews,
    view.highlights[number]? = some
      { alpha := highlightAlpha
        frame := bounds.insetBy (-view.configuration.highlightMargin.rawValue)
          (-view.configuration.highlightMargin.rawValue)
        cornerRadius }
  transform : view.transform =
    if isPressed then
      .scale view.configuration.pressScale.rawValue view.configuration.pressScale.rawValue
    else .identity

/-- At most one highlight is a subview, and none that a release captured; all are known. -/
structure Consistent (view : PressableView) : Prop where
  one : view.highlightSubviews.length ≤ 1
  made : ∀ number ∈ view.highlightSubviews, number < view.highlights.length
  captured : ∀ completion ∈ view.completions.calls,
    completion.highlightView < view.highlights.length
  released : ∀ completion ∈ view.completions.calls, completion.isHighlighted = false →
    completion.highlightView ∉ view.highlightSubviews

variable {view before after : PressableView} {event : Event}

/-! ## Highlights among the subviews -/

theorem mem_highlightSubviews {number : Nat} :
    number ∈ view.highlightSubviews ↔ .highlight number ∈ view.subviews := by
  rw [highlightSubviews, List.mem_filterMap]
  constructor
  · intro found
    obtain ⟨subview, member, same⟩ := found
    cases subview with
    | highlight other =>
        cases same
        exact member
    | other other => cases same
  · intro member
    exact ⟨.highlight number, member, rfl⟩

theorem highlightSubviews_removeHighlight (view : PressableView) (number : Nat) :
    (view.removeHighlight number).highlightSubviews =
      view.highlightSubviews.filter (· ≠ number) := by
  rw [highlightSubviews, removeHighlight, highlightSubviews, List.filterMap_filter,
    List.filter_filterMap]
  congr 1
  funext subview
  cases subview with
  | highlight other =>
      by_cases same : other = number
      · simp [same, Subview.highlightNumber, Option.filter]
      · simp [same, Subview.highlightNumber, Option.filter]
  | other other => simp [Subview.highlightNumber]

theorem removeHighlight_of_not_mem {number : Nat} (absent : number ∉ view.highlightSubviews) :
    view.removeHighlight number = view := by
  have same : view.subviews.filter (· ≠ .highlight number) = view.subviews := by
    rw [List.filter_eq_self]
    intro subview member
    rw [decide_eq_true_iff]
    intro subview_eq
    exact absent (mem_highlightSubviews.mpr (subview_eq ▸ member))
  rw [removeHighlight, same]

theorem highlightSubviews_addHighlight (view : PressableView) :
    view.addHighlight.highlightSubviews = view.highlightSubviews ++ [view.highlights.length] := by
  simp [highlightSubviews, addHighlight, Subview.highlightNumber]

theorem filterMap_insertIdx_other (subviews : List Subview) (index other : Nat) :
    (subviews.insertIdx index (.other other)).filterMap Subview.highlightNumber =
      subviews.filterMap Subview.highlightNumber := by
  induction subviews generalizing index with
  | nil =>
      cases index with
      | zero => rfl
      | succ index => rfl
  | cons subview subviews ih =>
      cases index with
      | zero => rfl
      | succ index =>
          rw [List.insertIdx_succ_cons, List.filterMap_cons, List.filterMap_cons, ih]

theorem filterMap_filter_other (subviews : List Subview) (other : Nat) :
    (subviews.filter (· ≠ .other other)).filterMap Subview.highlightNumber =
      subviews.filterMap Subview.highlightNumber := by
  rw [List.filterMap_filter]
  congr 1
  funext subview
  cases subview with
  | highlight number => simp
  | other view => simp [Subview.highlightNumber]

/-! ## One call -/

theorem Consistent.plain (configuration : PressableConfiguration) (bounds : CGRect)
    (cornerRadius : ℚ) (transform : CGAffineTransform) (others : List Nat) :
    Consistent (plain configuration bounds cornerRadius transform others) := by
  have no_highlight : (PressableView.plain configuration bounds cornerRadius transform
      others).highlightSubviews = [] := by
    simp [highlightSubviews, PressableView.plain, Subview.highlightNumber]
  constructor
  · rw [no_highlight]
    exact Nat.zero_le 1
  · rw [no_highlight]
    exact fun _ member => absurd member List.not_mem_nil
  · exact fun _ member => absurd member List.not_mem_nil
  · exact fun _ member => absurd member List.not_mem_nil

/-- The current highlight is the only one, and the rest of the view is as it was. -/
structure Current (view : PressableView) (found : PressableView) (number : Nat) : Prop where
  consistent : Consistent found
  only : found.highlightSubviews = [number]
  known : number < found.highlights.length
  configuration : found.configuration = view.configuration
  bounds : found.bounds = view.bounds
  cornerRadius : found.cornerRadius = view.cornerRadius

theorem Consistent.currentHighlightView (consistent : Consistent view) :
    Current view view.currentHighlightView.1 view.currentHighlightView.2 := by
  rw [PressableView.currentHighlightView]
  cases highlights : view.highlightSubviews with
  | cons number numbers =>
      have one := consistent.one
      rw [highlights, List.length_cons] at one
      have none_left : numbers = [] := List.length_eq_zero_iff.mp (by omega)
      have member : number ∈ view.highlightSubviews := by
        rw [highlights]
        exact List.mem_cons_self
      exact ⟨consistent, none_left ▸ highlights, consistent.made number member, rfl, rfl, rfl⟩
  | nil =>
      change Current view view.addHighlight view.highlights.length
      have only : view.addHighlight.highlightSubviews = [view.highlights.length] := by
        rw [highlightSubviews_addHighlight, highlights, List.nil_append]
      have longer : view.addHighlight.highlights.length = view.highlights.length + 1 := by
        simp [addHighlight]
      refine ⟨⟨?_, ?_, ?_, ?_⟩, only, by omega, rfl, rfl, rfl⟩
      · rw [only]
        exact le_rfl
      · intro number member
        rw [only, List.mem_singleton] at member
        omega
      · intro completion member
        have bound := consistent.captured completion member
        omega
      · intro completion member _ attached
        have bound := consistent.captured completion member
        rw [only, List.mem_singleton] at attached
        omega

theorem complete_eq {completion : HighlightCompletion} (didFinish : Bool)
    (released : completion.isHighlighted = false →
      completion.highlightView ∉ view.highlightSubviews) :
    view.complete completion didFinish = view := by
  rw [complete]
  split
  · next removes => exact removeHighlight_of_not_mem (released removes.1)
  · rfl

/-- A highlight is placed, or removed; other views stay. -/
theorem highlightSubviews_place {number : Nat} (only : view.highlightSubviews = [number])
    (isHighlighted : Bool) (margin : ℚ) :
    (view.place number isHighlighted margin).highlightSubviews =
      if isHighlighted then [number] else [] := by
  cases isHighlighted with
  | true => exact only
  | false =>
      have removed := highlightSubviews_removeHighlight view number
      rw [only] at removed
      simpa [place] using removed

theorem length_highlights_place (view : PressableView) (number : Nat) (isHighlighted : Bool)
    (margin : ℚ) :
    (view.place number isHighlighted margin).highlights.length = view.highlights.length := by
  cases isHighlighted with
  | true => exact List.length_modify _ _ _
  | false => rfl

theorem highlightSubviews_acted {number : Nat} (only : view.highlightSubviews = [number])
    (isHighlighted : Bool) (margin : ℚ) :
    (view.acted number isHighlighted margin).highlightSubviews =
      if isHighlighted then [number] else [] :=
  highlightSubviews_place only isHighlighted margin

theorem Consistent.acted (consistent : Consistent view) {number : Nat}
    (only : view.highlightSubviews = [number]) (isHighlighted : Bool) (margin : ℚ) :
    Consistent (view.acted number isHighlighted margin) := by
  have subviews := highlightSubviews_acted only isHighlighted margin
  have length : (view.acted number isHighlighted margin).highlights.length =
      view.highlights.length := by
    rw [PressableView.acted, modifyHighlight, List.length_modify, length_highlights_place]
  have completions : (view.acted number isHighlighted margin).completions = view.completions := by
    cases isHighlighted <;> rfl
  have kept : ∀ other ∈ (view.acted number isHighlighted margin).highlightSubviews,
      other ∈ view.highlightSubviews := by
    intro other member
    rw [subviews] at member
    cases isHighlighted with
    | true => exact only ▸ member
    | false => exact absurd member List.not_mem_nil
  constructor
  · rw [subviews]
    cases isHighlighted with
    | true => exact le_rfl
    | false => exact Nat.zero_le 1
  · intro other member
    rw [length]
    exact consistent.made other (kept other member)
  · rw [completions, length]
    exact consistent.captured
  · rw [completions]
    intro completion member released attached
    exact consistent.released completion member released (kept _ attached)

/-- A highlighted view shows the placed highlight with the highlight alpha. -/
theorem highlights_acted {number : Nat} (known : number < view.highlights.length) (margin : ℚ) :
    (view.acted number true margin).highlights[number]? = some
      { alpha := highlightAlpha
        frame := view.bounds.insetBy (-margin) (-margin)
        cornerRadius := view.cornerRadius } := by
  simp [PressableView.acted, place, modifyHighlight, known]

@[simp]
theorem acted_configuration (view : PressableView) (number : Nat) (isHighlighted : Bool)
    (margin : ℚ) : (view.acted number isHighlighted margin).configuration = view.configuration := by
  cases isHighlighted with
  | true => rfl
  | false => rfl

theorem not_mem_highlightSubviews_acted {number : Nat} (only : view.highlightSubviews = [number])
    {isHighlighted : Bool} (released : isHighlighted = false) (margin : ℚ) :
    number ∉ (view.acted number isHighlighted margin).highlightSubviews := by
  rw [highlightSubviews_acted only, released]
  exact List.not_mem_nil

/-- A completion may wait that captured a known highlight, and no subview where it would remove
one. -/
theorem Consistent.issue (consistent : Consistent view) {completion : HighlightCompletion}
    (known : completion.highlightView < view.highlights.length)
    (released : completion.isHighlighted = false →
      completion.highlightView ∉ view.highlightSubviews) :
    Consistent { view with completions := view.completions.issue completion } where
  one := consistent.one
  made := consistent.made
  captured := by
    intro other member
    rcases List.mem_append.mp member with old | new
    · exact consistent.captured other old
    · rw [List.mem_singleton.mp new]
      exact known
  released := by
    intro other member
    rcases List.mem_append.mp member with old | new
    · exact consistent.released other old
    · rw [List.mem_singleton.mp new]
      exact released

/-- `set(isHighlighted:margin:isAnimated:)` acts on the current highlight, and lets a completion
wait where it is animated; where it is not, the completion changes nothing. -/
theorem setHighlighted_eq {found : PressableView} {number : Nat}
    (current_eq : view.currentHighlightView = (found, number))
    (only : found.highlightSubviews = [number]) (isHighlighted : Bool) (margin : HighlightMargin)
    (isAnimated : Bool) :
    view.setHighlighted isHighlighted margin isAnimated =
      if isAnimated then
        { found.acted number isHighlighted margin.rawValue with
          completions := (found.acted number isHighlighted margin.rawValue).completions.issue
            ⟨number, isHighlighted⟩ }
      else found.acted number isHighlighted margin.rawValue := by
  rw [setHighlighted, current_eq]
  cases isAnimated with
  | true => rfl
  | false =>
      exact complete_eq true fun released =>
        not_mem_highlightSubviews_acted only released margin.rawValue

/-- `set(isHighlighted:margin:isAnimated:)` keeps the view consistent, and shows what its actions
make of the current highlight. -/
theorem Consistent.setHighlighted (consistent : Consistent view) (isHighlighted : Bool)
    (margin : HighlightMargin) (isAnimated : Bool) :
    Consistent (view.setHighlighted isHighlighted margin isAnimated) ∧
      ∃ found number, Current view found number ∧
        (view.setHighlighted isHighlighted margin isAnimated).subviews =
          (found.acted number isHighlighted margin.rawValue).subviews ∧
        (view.setHighlighted isHighlighted margin isAnimated).highlights =
          (found.acted number isHighlighted margin.rawValue).highlights ∧
        (view.setHighlighted isHighlighted margin isAnimated).configuration =
          view.configuration := by
  obtain ⟨⟨found, number⟩, current_eq⟩ :
      ∃ pair, view.currentHighlightView = pair := ⟨_, rfl⟩
  have current : Current view found number := by
    have either := consistent.currentHighlightView
    rwa [current_eq] at either
  have acted := current.consistent.acted current.only isHighlighted margin.rawValue
  have configuration :
      (found.acted number isHighlighted margin.rawValue).configuration = view.configuration := by
    rw [acted_configuration, current.configuration]
  rw [setHighlighted_eq current_eq current.only]
  cases isAnimated with
  | false => exact ⟨acted, found, number, current, rfl, rfl, configuration⟩
  | true =>
      have known : number <
          (found.acted number isHighlighted margin.rawValue).highlights.length := by
        rw [PressableView.acted, modifyHighlight, List.length_modify, length_highlights_place]
        exact current.known
      have issued := @Consistent.issue _ acted ⟨number, isHighlighted⟩ known fun released =>
        not_mem_highlightSubviews_acted current.only released margin.rawValue
      exact ⟨issued, found, number, current, rfl, rfl, configuration⟩

/-! ## Runs -/

theorem Consistent.setPressed (consistent : Consistent view) (isPressed animated : Bool) :
    Consistent (view.setPressed isPressed animated) ∧
      ShowsCall isPressed view.bounds view.cornerRadius (view.setPressed isPressed animated) := by
  obtain ⟨kept, found, number, current, subviews, highlights, configuration⟩ :=
    consistent.setHighlighted isPressed view.configuration.highlightMargin animated
  have shown : (view.setPressed isPressed animated).highlightSubviews =
      if isPressed then [number] else [] := by
    rw [← highlightSubviews_acted current.only isPressed
      view.configuration.highlightMargin.rawValue]
    exact congrArg (List.filterMap Subview.highlightNumber) subviews
  have same_configuration : (view.setPressed isPressed animated).configuration =
      view.configuration := configuration
  refine ⟨⟨kept.one, kept.made, kept.captured, kept.released⟩, ?_, ?_, ?_⟩
  · rw [shown]
    cases isPressed <;> rfl
  · intro other member
    rw [shown] at member
    cases isPressed with
    | false => exact absurd member List.not_mem_nil
    | true =>
        rw [if_pos rfl, List.mem_singleton] at member
        have highlight := highlights_acted current.known view.configuration.highlightMargin.rawValue
        rw [← highlights, current.bounds, current.cornerRadius] at highlight
        rw [member, same_configuration]
        exact highlight
  · rw [same_configuration]
    rfl

theorem Consistent.completed (consistent : Consistent view) {number : Nat} {didFinish : Bool}
    (step : machine.next view (.completed number didFinish) = some after) :
    after = { view with completions := view.completions.answer number } := by
  obtain ⟨-, completion⟩ := Option.ite_none_right_eq_some.mp step
  obtain ⟨captured, found, rfl⟩ := Option.map_eq_some_iff.mp completion
  exact complete_eq didFinish
    (consistent.released captured (List.mem_of_getElem? found))

/-- An event that is no call keeps the highlights and what they show. -/
structure Unchanged (before after : PressableView) : Prop where
  highlightSubviews : after.highlightSubviews = before.highlightSubviews
  highlights : after.highlights = before.highlights
  configuration : after.configuration = before.configuration
  transform : after.transform = before.transform
  calls : after.completions.calls = before.completions.calls

theorem Consistent.unchanged (consistent : Consistent before) (other : event.isCall = false)
    (step : machine.next before event = some after) : Unchanged before after := by
  cases event with
  | setPressed isPressed animated => cases other
  | completed number didFinish =>
      rw [consistent.completed step]
      exact ⟨rfl, rfl, rfl, rfl, rfl⟩
  | setBounds bounds =>
      cases step
      exact ⟨rfl, rfl, rfl, rfl, rfl⟩
  | setCornerRadius cornerRadius =>
      cases step
      exact ⟨rfl, rfl, rfl, rfl, rfl⟩
  | insertSubview view index =>
      cases step
      exact ⟨filterMap_insertIdx_other before.subviews index view, rfl, rfl, rfl, rfl⟩
  | removeSubview view =>
      cases step
      exact ⟨filterMap_filter_other before.subviews view, rfl, rfl, rfl, rfl⟩

theorem Consistent.of_unchanged (consistent : Consistent before)
    (unchanged : Unchanged before after) : Consistent after where
  one := by
    rw [unchanged.highlightSubviews]
    exact consistent.one
  made := by
    rw [unchanged.highlightSubviews, unchanged.highlights]
    exact consistent.made
  captured := by
    rw [unchanged.calls, unchanged.highlights]
    exact consistent.captured
  released := by
    rw [unchanged.calls, unchanged.highlightSubviews]
    exact consistent.released

theorem ShowsCall.of_unchanged {isPressed : Bool} {bounds : CGRect} {cornerRadius : ℚ}
    (shows : ShowsCall isPressed bounds cornerRadius before)
    (unchanged : Unchanged before after) : ShowsCall isPressed bounds cornerRadius after where
  count := by
    rw [unchanged.highlightSubviews]
    exact shows.count
  highlight := by
    rw [unchanged.highlightSubviews, unchanged.highlights, unchanged.configuration]
    exact shows.highlight
  transform := by
    rw [unchanged.transform, unchanged.configuration]
    exact shows.transform

theorem Consistent.next (consistent : Consistent before)
    (step : machine.next before event = some after) : Consistent after := by
  cases call : event.isCall with
  | false => exact consistent.of_unchanged (consistent.unchanged call step)
  | true =>
      cases event with
      | setPressed isPressed animated =>
          cases step
          exact (consistent.setPressed isPressed animated).1
      | completed | setBounds | setCornerRadius | insertSubview | removeSubview => cases call

theorem run_showsCall {isPressed : Bool} {bounds : CGRect} {cornerRadius : ℚ}
    {events : List Event} (consistent : Consistent before)
    (shows : ShowsCall isPressed bounds cornerRadius before)
    (others : ∀ event ∈ events, event.isCall = false)
    (execution : machine.run events before = some after) :
    ShowsCall isPressed bounds cornerRadius after := by
  have kept := Machine.run_guarded
    (fun view => Consistent view ∧ ShowsCall isPressed bounds cornerRadius view)
    (fun {middle event next} holds other step =>
      ⟨holds.1.next step, holds.2.of_unchanged (holds.1.unchanged other step)⟩)
    ⟨consistent, shows⟩ (.of_forall others before) execution
  exact kept.2

/-- At every moment of every run at most one highlight is a subview and completions leave the
subviews as they are; and from each call on, until the next one, the view shows that call as it was
made. -/
theorem run_pressFeedback {configuration : PressableConfiguration} {bounds : CGRect}
    {cornerRadius : ℚ} {transform : CGAffineTransform} {others : List Nat}
    {earlier later : List Event} {isPressed animated : Bool}
    (execution : machine.run earlier
      (plain configuration bounds cornerRadius transform others) = some before)
    (called : machine.run (.setPressed isPressed animated :: later) before = some after)
    (last : ∀ event ∈ later, event.isCall = false) :
    before.highlightSubviews.length ≤ 1 ∧
      (∀ number didFinish next,
        machine.next before (.completed number didFinish) = some next →
          next.subviews = before.subviews) ∧
      after.ShowsCall isPressed before.bounds before.cornerRadius := by
  have consistent := Machine.run_invariant Consistent Consistent.next
    (.plain configuration bounds cornerRadius transform others) execution
  obtain ⟨middle, step, rest⟩ := (Machine.run_cons_eq_some _).mp called
  cases step
  have pressed := consistent.setPressed isPressed animated
  refine ⟨consistent.one, ?_, run_showsCall pressed.1 pressed.2 last rest⟩
  intro number didFinish next step
  rw [consistent.completed step]

/-- A large button of forty points. -/
def largeButton : PressableView :=
  plain ⟨.large, .none⟩ ⟨0, 0, 100, 40⟩ 20 .identity [0]

/-- Pressed and released with animations. -/
def tapEvents : List Event :=
  [.setPressed true true, .setPressed false true]

/-- Pressed again, before the animations of the tap complete. -/
def pressedAgainEvents : List Event :=
  [.setPressed true true, .completed 1 true, .completed 0 false]

theorem pressedAgain_pressFeedback :
    ∃ before after, machine.run tapEvents largeButton = some before ∧
      machine.run pressedAgainEvents before = some after ∧
      before.highlightSubviews.length ≤ 1 ∧
      (∀ number didFinish next,
        machine.next before (.completed number didFinish) = some next →
          next.subviews = before.subviews) ∧
      after.ShowsCall true before.bounds before.cornerRadius := by
  have runs : ∃ before after, machine.run tapEvents largeButton = some before ∧
      machine.run pressedAgainEvents before = some after := ⟨_, _, rfl, rfl⟩
  obtain ⟨before, after, execution, called⟩ := runs
  exact ⟨before, after, execution, called, run_pressFeedback execution called (by decide)⟩

end PressableView

end Celeste
