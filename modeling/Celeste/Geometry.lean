import Mathlib.Algebra.Order.Ring.Rat
import Mathlib.Data.Rat.Floor

/-!
# Geometry of views

Sizes, rectangles, insets and transforms, with exact coordinates.
-/

namespace Celeste

/-- `Int` of a `Float`, and `NSInteger` of a `CGFloat`. -/
def truncate (value : ℚ) : ℤ :=
  if value < 0 then ⌈value⌉ else ⌊value⌋

theorem truncate_of_nonneg {value : ℚ} (nonneg : 0 ≤ value) : truncate value = ⌊value⌋ :=
  if_neg (not_lt.mpr nonneg)

/-- `CGSize`. -/
structure CGSize where
  width : ℚ
  height : ℚ
  deriving DecidableEq

/-- `CGRect`. -/
structure CGRect where
  x : ℚ
  y : ℚ
  width : ℚ
  height : ℚ
  deriving DecidableEq

/-- `CGRect.insetBy(dx:dy:)`, which enlarges by negative insets. -/
def CGRect.insetBy (rect : CGRect) (dx dy : ℚ) : CGRect where
  x := rect.x + dx
  y := rect.y + dy
  width := rect.width - 2 * dx
  height := rect.height - 2 * dy

/-- `CGRectIntersection`, if it is not `CGRectNull`, of rectangles of no negative size. -/
def CGRect.intersection (left right : CGRect) : Option CGRect :=
  let minX := max left.x right.x
  let minY := max left.y right.y
  let maxX := min (left.x + left.width) (right.x + right.width)
  let maxY := min (left.y + left.height) (right.y + right.height)
  if maxX < minX ∨ maxY < minY then none
  else some { x := minX, y := minY, width := maxX - minX, height := maxY - minY }

/-- `CGRectIsEmpty`. -/
def CGRect.isEmpty (rect : CGRect) : Bool :=
  rect.width = 0 || rect.height = 0

/-- `CGRectContainsPoint`. -/
def CGRect.Contains (rect : CGRect) (x y : ℚ) : Prop :=
  (rect.x ≤ x ∧ x < rect.x + rect.width) ∧ rect.y ≤ y ∧ y < rect.y + rect.height

/-- `UIEdgeInsets`. -/
structure UIEdgeInsets where
  top : ℚ
  left : ℚ
  bottom : ℚ
  right : ℚ
  deriving DecidableEq

/-- `CGAffineTransform`. -/
structure CGAffineTransform where
  a : ℚ
  b : ℚ
  c : ℚ
  d : ℚ
  tx : ℚ
  ty : ℚ
  deriving DecidableEq

/-- `CGAffineTransform.identity`. -/
def CGAffineTransform.identity : CGAffineTransform where
  a := 1
  b := 0
  c := 0
  d := 1
  tx := 0
  ty := 0

/-- `CGAffineTransform(scaleX:y:)`. -/
def CGAffineTransform.scale (x y : ℚ) : CGAffineTransform where
  a := x
  b := 0
  c := 0
  d := y
  tx := 0
  ty := 0

end Celeste
