import Celeste.Geometry

/-!
# The button

A button is styled again and again.  Each style sets some properties of the button and leaves others
to the style before: a primary button keeps the title colour, and only a minimal one sets the tint
of the image.
-/

namespace Celeste

/-- `ButtonComponent.Style`. -/
inductive ButtonStyle (Color : Type)
  | primary
  | secondary
  | minimal (color : Color)

/-- The corner styles a button uses. -/
inductive CornerStyle
  | circular
  | tiny
  deriving DecidableEq

/-- `BorderWidth`. -/
inductive BorderWidth
  | normal
  | thin
  | none
  deriving DecidableEq

/-- The raw value of a border width. -/
def BorderWidth.rawValue : BorderWidth → ℚ
  | .normal => 1
  | .thin => 1 / 2
  | .none => 0

/-- The colours a button uses, and those a new `UIButton` has. -/
structure ButtonPalette (Color : Type) where
  black : Color
  clear : Color
  /-- `UIColor.AppColors.white`. -/
  white : Color
  /-- The title colour of a new button. -/
  title : Color
  /-- The tint of a new button's image view. -/
  tint : Color

/-- `ButtonComponent.ViewModel`. -/
structure ButtonViewModel (Color Image : Type) where
  style : ButtonStyle Color
  text : Option String
  icon : Option Image
  color : Option Color

/-- `ButtonComponent`, by what `apply(viewModel:)` sets. -/
structure ButtonComponent (Color Image : Type) where
  style : ButtonStyle Color
  image : Option Image
  title : Option String
  backgroundColor : Option Color
  /-- `titleLabel?.textColor`, which the button sets again from its title colour. -/
  titleLabelTextColor : Color
  /-- `titleColor(for: .normal)`. -/
  titleColor : Color
  imageTintColor : Color
  borderWidth : ℚ
  borderColor : Option Color
  titleEdgeInsets : UIEdgeInsets
  contentEdgeInsets : UIEdgeInsets

namespace ButtonStyle

variable {Color : Type}

/-- `verticalPadding`. -/
def verticalPadding : ButtonStyle Color → ℚ
  | .primary => 25 / 2
  | .secondary => 13 / 2
  | .minimal _ => 11 / 2

/-- `horizontalPadding`. -/
def horizontalPadding : ButtonStyle Color → ℚ
  | .primary => 32
  | .secondary => 16
  | .minimal _ => 8

/-- The insets that the style gives the content. -/
def insets (style : ButtonStyle Color) : UIEdgeInsets where
  top := style.verticalPadding
  left := style.horizontalPadding
  bottom := style.verticalPadding
  right := style.horizontalPadding

/-- The corner style that `layoutSubviews` applies. -/
def cornerStyle : ButtonStyle Color → CornerStyle
  | .primary => .circular
  | .secondary => .circular
  | .minimal _ => .tiny

end ButtonStyle

namespace ButtonComponent

variable {Color Image : Type} (palette : ButtonPalette Color)

/-- `Constants.iconPadding`. -/
def iconPadding : ℚ := 8

/-- `ButtonComponent()`. -/
def fresh : ButtonComponent Color Image where
  style := .primary
  image := none
  title := none
  backgroundColor := none
  titleLabelTextColor := palette.title
  titleColor := palette.title
  imageTintColor := palette.tint
  borderWidth := 0
  borderColor := some palette.black
  titleEdgeInsets := ⟨0, 0, 0, 0⟩
  contentEdgeInsets := ⟨0, 0, 0, 0⟩

/-- `UIView.apply(borderWidth:)`. -/
def applyBorderWidth (button : ButtonComponent Color Image) (borderWidth : BorderWidth) :
    ButtonComponent Color Image :=
  { button with borderWidth := borderWidth.rawValue }

/-- `setContentInsets(hasTitle:hasImage:insets:)`. -/
def setContentInsets (button : ButtonComponent Color Image) (hasTitle hasImage : Bool)
    (insets : UIEdgeInsets) : ButtonComponent Color Image :=
  let modifiedInsets :=
    match hasTitle, hasImage with
    | true, true => { insets with right := insets.right + iconPadding }
    | _, _ => insets
  { button with contentEdgeInsets := modifiedInsets }

/-- `applyPrimary(hasTitle:hasImage:color:)`. -/
def applyPrimary (button : ButtonComponent Color Image) (hasTitle hasImage : Bool)
    (color : Option Color) : ButtonComponent Color Image :=
  ({ button with
      backgroundColor := color
      titleLabelTextColor := palette.white }.applyBorderWidth .none).setContentInsets hasTitle
    hasImage (ButtonStyle.insets (.primary : ButtonStyle Color))

/-- `applySecondary(hasTitle:hasImage:)`. -/
def applySecondary (button : ButtonComponent Color Image) (hasTitle hasImage : Bool) :
    ButtonComponent Color Image :=
  { { button with backgroundColor := some palette.clear }.applyBorderWidth .normal with
      borderColor := some palette.black
      titleColor := palette.black }.setContentInsets hasTitle hasImage
    (ButtonStyle.insets (.secondary : ButtonStyle Color))

/-- `applyMinimal(color:hasTitle:hasImage:)`. -/
def applyMinimal (button : ButtonComponent Color Image) (color : Color)
    (hasTitle hasImage : Bool) : ButtonComponent Color Image :=
  { { button with backgroundColor := some palette.clear }.applyBorderWidth .none with
      borderColor := none
      titleColor := color
      imageTintColor := color }.setContentInsets hasTitle hasImage button.style.insets

/-- `apply(viewModel:)`. -/
def apply (button : ButtonComponent Color Image) (viewModel : ButtonViewModel Color Image) :
    ButtonComponent Color Image :=
  let titlePadding := if viewModel.icon.isNone then 0 else iconPadding
  let button :=
    { button with
      image := viewModel.icon
      title := viewModel.text
      titleEdgeInsets := ⟨0, titlePadding, 0, -titlePadding⟩
      style := viewModel.style }
  match viewModel.style with
  | .primary =>
      button.applyPrimary palette viewModel.text.isSome viewModel.icon.isSome viewModel.color
  | .secondary => button.applySecondary palette viewModel.text.isSome viewModel.icon.isSome
  | .minimal color =>
      button.applyMinimal palette color viewModel.text.isSome viewModel.icon.isSome

/-! ## What shows -/

/-- The configuration of a button that shows; a border has a colour only where it has a width. -/
structure Visible (Color Image : Type) where
  title : Option String
  image : Option Image
  backgroundColor : Option Color
  titleColor : Color
  imageTintColor : Color
  borderWidth : ℚ
  borderColor : Option (Option Color)
  contentEdgeInsets : UIEdgeInsets
  titleEdgeInsets : UIEdgeInsets
  cornerStyle : CornerStyle

/-- What shows of a button once it is laid out. -/
def visible (button : ButtonComponent Color Image) : Visible Color Image where
  title := button.title
  image := button.image
  backgroundColor := button.backgroundColor
  titleColor := button.titleColor
  imageTintColor := button.imageTintColor
  borderWidth := button.borderWidth
  borderColor := if button.borderWidth = 0 then none else some button.borderColor
  contentEdgeInsets := button.contentEdgeInsets
  titleEdgeInsets := button.titleEdgeInsets
  cornerStyle := button.style.cornerStyle

/-- The title colour a style sets, if any. -/
def styleTitleColor : ButtonStyle Color → Option Color
  | .primary => none
  | .secondary => some palette.black
  | .minimal color => some color

/-- The image tint a style sets, if any. -/
def styleTintColor : ButtonStyle Color → Option Color
  | .primary => none
  | .secondary => none
  | .minimal color => some color

/-- The last colour that some view models set, or the one a new button has. -/
def lastColor (sets : ButtonStyle Color → Option Color) (initial : Color)
    (viewModels : List (ButtonViewModel Color Image)) : Color :=
  (viewModels.filterMap fun viewModel => sets viewModel.style).getLast?.getD initial

/-- What the last view model leaves alone has, from the view models before, the colour of a new
button. -/
structure Restored (earlier : List (ButtonViewModel Color Image))
    (last : ButtonViewModel Color Image) : Prop where
  title : styleTitleColor palette last.style = none →
    lastColor (styleTitleColor palette) palette.title earlier = palette.title
  tint : styleTintColor last.style = none →
    lastColor styleTintColor palette.tint earlier = palette.tint

variable {palette}

/-! ## One view model -/

theorem titleColor_apply (button : ButtonComponent Color Image)
    (viewModel : ButtonViewModel Color Image) :
    (button.apply palette viewModel).titleColor =
      (styleTitleColor palette viewModel.style).getD button.titleColor := by
  cases style : viewModel.style with
  | primary =>
      simp [apply, style, applyPrimary, setContentInsets, applyBorderWidth, styleTitleColor]
  | secondary =>
      simp [apply, style, applySecondary, setContentInsets, styleTitleColor]
  | minimal color =>
      simp [apply, style, applyMinimal, setContentInsets, styleTitleColor]

theorem imageTintColor_apply (button : ButtonComponent Color Image)
    (viewModel : ButtonViewModel Color Image) :
    (button.apply palette viewModel).imageTintColor =
      (styleTintColor viewModel.style).getD button.imageTintColor := by
  cases style : viewModel.style with
  | primary =>
      simp [apply, style, applyPrimary, setContentInsets, applyBorderWidth, styleTintColor]
  | secondary =>
      simp [apply, style, applySecondary, setContentInsets, applyBorderWidth, styleTintColor]
  | minimal color =>
      simp [apply, style, applyMinimal, setContentInsets, styleTintColor]

/-- Two buttons differ after a view model at most in what its style leaves alone. -/
theorem visible_apply (button other : ButtonComponent Color Image)
    (viewModel : ButtonViewModel Color Image) :
    (button.apply palette viewModel).visible =
      { (other.apply palette viewModel).visible with
        titleColor := (button.apply palette viewModel).titleColor
        imageTintColor := (button.apply palette viewModel).imageTintColor } := by
  cases style : viewModel.style with
  | primary =>
      simp [apply, style, applyPrimary, setContentInsets, applyBorderWidth, visible,
        BorderWidth.rawValue]
  | secondary =>
      simp [apply, style, applySecondary, setContentInsets, applyBorderWidth, visible]
  | minimal color =>
      simp [apply, style, applyMinimal, setContentInsets, applyBorderWidth, visible]

theorem visible_apply_eq_iff (button other : ButtonComponent Color Image)
    (viewModel : ButtonViewModel Color Image) :
    (button.apply palette viewModel).visible = (other.apply palette viewModel).visible ↔
      (button.apply palette viewModel).titleColor = (other.apply palette viewModel).titleColor ∧
        (button.apply palette viewModel).imageTintColor =
          (other.apply palette viewModel).imageTintColor := by
  constructor
  · intro same
    exact ⟨congrArg Visible.titleColor same, congrArg Visible.imageTintColor same⟩
  · intro same
    rw [visible_apply button other, same.1, same.2]
    rfl

/-! ## Histories -/

theorem lastColor_cons (sets : ButtonStyle Color → Option Color) (initial : Color)
    (viewModel : ButtonViewModel Color Image) (viewModels : List (ButtonViewModel Color Image)) :
    lastColor sets initial (viewModel :: viewModels) =
      lastColor sets ((sets viewModel.style).getD initial) viewModels := by
  cases set : sets viewModel.style with
  | none => simp [lastColor, set]
  | some color => simp [lastColor, set, List.getLast?_cons]

theorem titleColor_foldl (viewModels : List (ButtonViewModel Color Image))
    (button : ButtonComponent Color Image) :
    (viewModels.foldl (apply palette) button).titleColor =
      lastColor (styleTitleColor palette) button.titleColor viewModels := by
  induction viewModels generalizing button with
  | nil => rfl
  | cons viewModel viewModels ih =>
      rw [List.foldl_cons, ih, titleColor_apply, lastColor_cons]

theorem imageTintColor_foldl (viewModels : List (ButtonViewModel Color Image))
    (button : ButtonComponent Color Image) :
    (viewModels.foldl (apply palette) button).imageTintColor =
      lastColor styleTintColor button.imageTintColor viewModels := by
  induction viewModels generalizing button with
  | nil => rfl
  | cons viewModel viewModels ih =>
      rw [List.foldl_cons, ih, imageTintColor_apply, lastColor_cons]

theorem getD_eq_getD_iff (set : Option Color) (left right : Color) :
    set.getD left = set.getD right ↔ (set = none → left = right) := by
  cases set with
  | none => simp
  | some color => simp

/-- A button shows of its last view model what a new button would exactly if the view models before
left the colours that the last one does not set as they are in a new button. -/
theorem visible_foldl_eq_iff (earlier : List (ButtonViewModel Color Image))
    (last : ButtonViewModel Color Image) :
    ((earlier ++ [last]).foldl (apply palette) (fresh palette)).visible =
        ((fresh palette).apply palette last).visible ↔
      Restored palette earlier last := by
  rw [List.foldl_append, List.foldl_cons, List.foldl_nil, visible_apply_eq_iff, titleColor_apply,
    titleColor_apply, imageTintColor_apply, imageTintColor_apply, getD_eq_getD_iff,
    getD_eq_getD_iff, titleColor_foldl, imageTintColor_foldl]
  exact ⟨fun both => ⟨both.1, both.2⟩, fun restored => ⟨restored.title, restored.tint⟩⟩

/-- Colours by name; new titles are white. -/
def namedColors : ButtonPalette String where
  black := "black"
  clear := "clear"
  white := "white"
  title := "white"
  tint := "blue"

/-- A button to try again. -/
def tryAgain : ButtonViewModel String Unit where
  style := .secondary
  text := some "Again"
  icon := none
  color := some "black"

/-- The submit button. -/
def submit : ButtonViewModel String Unit where
  style := .primary
  text := some "Submit"
  icon := none
  color := some "black"

/-- A secondary button made primary keeps its black title. -/
theorem secondary_then_primary_black :
    (([tryAgain] ++ [submit]).foldl (apply namedColors) (fresh namedColors)).titleColor =
        "black" ∧
      ((fresh namedColors).apply namedColors submit).titleColor = "white" ∧
      (([tryAgain] ++ [submit]).foldl (apply namedColors) (fresh namedColors)).visible ≠
        ((fresh namedColors).apply namedColors submit).visible := by
  refine ⟨rfl, rfl, ?_⟩
  intro same
  have titles := congrArg Visible.titleColor same
  exact absurd titles (by decide)

end ButtonComponent

end Celeste
