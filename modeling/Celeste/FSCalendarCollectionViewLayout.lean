import Celeste.FSCalendarCalculator
import Celeste.Geometry
import Celeste.Library.FloatingPoint
import Celeste.Library.Slices
import Mathlib.Algebra.Group.Subgroup.ZPowers.Basic
import Mathlib.Data.Int.ConditionallyCompleteOrder
import Mathlib.Data.List.Nodup
import Mathlib.Data.Nat.SuccPred
import Mathlib.Order.SuccPred.IntervalSucc
import Mathlib.Tactic.IntervalCases
import Mathlib.Tactic.NormNum

/-!
# Where FSCalendar's cells are

The layout of FSCalendar's collection view cuts a page into seven columns and six rows, to the half
point, and spreads the rows of a month that has fewer.  It is asked for the cells in a rectangle.
No two cells share a point, and the rows that a month has are on its page.  The functions it rounds
with are those of 32 bits, which take an edge shortly before the end of a late page for the end; of
a rectangle with no such edge the layout lists every cell that shows in it but for a sliver.
-/

namespace Celeste

/-! ## Half points -/

/-- A `CGFloat` as it is passed to a function of 32-bit numbers. -/
def toFloat (value : ℚ) : ℚ :=
  FloatFormat.binary32.round value

/-- The nearest whole number, away from zero between two. -/
def roundAway (value : ℚ) : ℤ :=
  if value < 0 then ⌈value - 1 / 2⌉ else ⌊value + 1 / 2⌋

/-- `FSCalendarRound`, which is `roundf`. -/
def FSCalendarRound (value : ℚ) : ℤ :=
  roundAway (toFloat value)

/-- `FSCalendarFloor`, which is `floorf`. -/
def FSCalendarFloor (value : ℚ) : ℤ :=
  ⌊toFloat value⌋

/-- `FSCalendarCeil`, which is `ceilf`. -/
def FSCalendarCeil (value : ℚ) : ℤ :=
  ⌈toFloat value⌉

/-- `FSCalendarMod`, which is `fmodf`. -/
def FSCalendarMod (value modulus : ℚ) : ℚ :=
  toFloat value - truncate (toFloat value / toFloat modulus) * toFloat modulus

/-- `FSCalendarSliceCake`: the pieces that remain of what is left of the cake. -/
def FSCalendarSliceCake (total : ℚ) : Nat → List ℚ
  | 0 => []
  | remains + 1 =>
      let piece : ℚ := FSCalendarRound (total / (remains + 1 : Nat) * 2) * (1 / 2)
      piece :: FSCalendarSliceCake (total - piece) remains

theorem roundAway_intCast (number : ℤ) : roundAway number = number := by
  rw [roundAway]
  split
  · rw [Int.ceil_eq_iff]
    constructor <;> linarith
  · rw [Int.floor_eq_iff]
    constructor <;> linarith

theorem roundAway_monotone : Monotone roundAway := by
  intro left right le
  simp only [roundAway]
  split <;> split
  case isTrue.isTrue => exact Int.ceil_le_ceil (by linarith)
  case isTrue.isFalse negative nonneg =>
    have upper : ⌈left - 1 / 2⌉ ≤ 0 := Int.ceil_le.mpr (by push_cast; linarith)
    exact upper.trans (Int.floor_nonneg.mpr (by linarith))
  case isFalse.isTrue nonneg negative => exact absurd (le.trans_lt negative) nonneg
  case isFalse.isFalse => exact Int.floor_le_floor (by linarith)

theorem abs_roundAway_sub_le (value : ℚ) : |(roundAway value : ℚ) - value| ≤ 1 / 2 := by
  rw [roundAway, abs_le]
  split
  · have lower := Int.le_ceil (value - 1 / 2)
    have upper := Int.ceil_lt_add_one (value - 1 / 2)
    constructor <;> linarith
  · have lower := Int.floor_le (value + 1 / 2)
    have upper := Int.lt_floor_add_one (value + 1 / 2)
    constructor <;> linarith

/-- The rounding to half points. -/
def halfPoints : GridRounding ℚ where
  round amount := roundAway (amount * 2) * (1 / 2)
  grid := AddSubgroup.zmultiples (1 / 2)
  error := 1 / 4
  round_mem amount := by
    refine AddSubgroup.mem_zmultiples_iff.mpr ⟨roundAway (amount * 2), ?_⟩
    rw [zsmul_eq_mul]
  round_of_mem := by
    intro amount inGrid
    obtain ⟨number, rfl⟩ := AddSubgroup.mem_zmultiples_iff.mp inGrid
    have doubled : number • (1 / 2 : ℚ) * 2 = number := by
      rw [zsmul_eq_mul]
      ring
    rw [doubled, roundAway_intCast, zsmul_eq_mul]
  round_monotone := by
    intro left right le
    have rounded : roundAway (left * 2) ≤ roundAway (right * 2) :=
      roundAway_monotone (by linarith)
    exact mul_le_mul_of_nonneg_right (Int.cast_le.mpr rounded) (by norm_num)
  abs_round_sub_le amount := by
    have rounded := abs_roundAway_sub_le (amount * 2)
    rw [abs_le] at rounded ⊢
    constructor <;> linarith

theorem intCast_mem_halfPoints (number : ℤ) : (number : ℚ) ∈ halfPoints.grid := by
  refine AddSubgroup.mem_zmultiples_iff.mpr ⟨number * 2, ?_⟩
  rw [zsmul_eq_mul]
  push_cast
  ring

theorem toFloat_monotone : Monotone toFloat :=
  FloatFormat.round_monotone

/-- A number of few bits is passed as it is. -/
theorem toFloat_div {number : ℤ} {bits : Nat} (small : |number| ≤ 2 ^ 24) (few : bits ≤ 149) :
    toFloat (number / 2 ^ bits) = number / 2 ^ bits := by
  have least : FloatFormat.binary32.leastExponent ≤ -bits := by
    simp only [FloatFormat.binary32]
    omega
  exact (FloatFormat.represents_div small least).round

theorem toFloat_natCast {number : Nat} (small : number ≤ 2 ^ 24) : toFloat number = number :=
  (FloatFormat.represents_natCast small (by decide)).round

theorem toFloat_of_mem {value : ℚ} (mem : value ∈ halfPoints.grid) (nonneg : 0 ≤ value)
    (le : value ≤ 2 ^ 20) : toFloat value = value := by
  obtain ⟨number, rfl⟩ := AddSubgroup.mem_zmultiples_iff.mp mem
  rw [zsmul_eq_mul] at nonneg le ⊢
  have small : |number| ≤ 2 ^ 24 := by
    have upper : (number : ℚ) ≤ (2 ^ 21 : ℤ) := by
      push_cast
      linarith
    have lower : (0 : ℚ) ≤ (number : ℤ) := by linarith
    have upper' : number ≤ 2 ^ 21 := by exact_mod_cast upper
    have lower' : 0 ≤ number := by exact_mod_cast lower
    rw [abs_of_nonneg lower']
    omega
  have same := @toFloat_div number 1 small (by decide)
  rw [pow_one] at same
  rw [mul_one_div, same]

/-- Twice the difference of a share from the middle above its nearest whole number is a whole number
of shares of one. -/
theorem nearest_share {number nearest : ℤ} {count : Nat} (le : number ≤ 2 ^ 21)
    (some_part : 2 < count) (few : count ≤ 7) (below : (number : ℚ) < (nearest + 1 / 2) * count)
    (above : ((nearest : ℚ) - 1 / 2) * count ≤ number) :
    2 * number + 1 ≤ (2 * nearest + 1) * count ∧ nearest ≤ 2 ^ 20 - 1 := by
  have below' : ((2 * number : ℤ) : ℚ) < ((2 * nearest + 1) * count : ℤ) := by
    push_cast
    linarith
  have above' : (((2 * nearest - 1) * count : ℤ) : ℚ) ≤ (2 * number : ℤ) := by
    push_cast
    linarith
  have doubled : 2 * number < (2 * nearest + 1) * count := by exact_mod_cast below'
  have doubled_above : (2 * nearest - 1) * count ≤ 2 * number := by exact_mod_cast above'
  refine ⟨by omega, ?_⟩
  interval_cases count <;> omega

/-- A share of half points is never so near to the middle of two whole numbers that passing it moves
it there. -/
theorem FSCalendarRound_div {number : ℤ} {count : Nat} (nonneg : 0 ≤ number)
    (le : number ≤ 2 ^ 21) (positive : 0 < count) (few : count ≤ 7) :
    FSCalendarRound (number / count) = roundAway (number / count) := by
  have small : |number| ≤ 2 ^ 24 := by
    rw [abs_of_nonneg nonneg]
    omega
  have counted : (0 : ℚ) < count := by exact_mod_cast positive
  have some_left : (0 : ℚ) ≤ number := by exact_mod_cast nonneg
  by_cases halves : count ≤ 2
  · have passed : toFloat (number / count) = number / count := by
      rcases (show count = 1 ∨ count = 2 by omega) with rfl | rfl
      · simpa using @toFloat_div number 0 small (by decide)
      · simpa using @toFloat_div number 1 small (by decide)
    rw [FSCalendarRound, passed]
  · have share : 0 ≤ (number : ℚ) / count := div_nonneg some_left counted.le
    have passed : 0 ≤ toFloat (number / count) := FloatFormat.round_nonneg share
    rw [FSCalendarRound, roundAway, roundAway, if_neg (not_lt.mpr share),
      if_neg (not_lt.mpr passed)]
    have begins := Int.floor_le ((number : ℚ) / count + 1 / 2)
    have ends := Int.lt_floor_add_one ((number : ℚ) / count + 1 / 2)
    have least : 0 ≤ ⌊(number : ℚ) / count + 1 / 2⌋ := Int.floor_nonneg.mpr (by linarith)
    generalize ⌊(number : ℚ) / count + 1 / 2⌋ = nearest at begins ends least
    have below : (number : ℚ) / count < nearest + 1 / 2 := by linarith
    have above : (nearest : ℚ) - 1 / 2 ≤ number / count := by linarith
    rw [div_lt_iff₀ counted] at below
    rw [le_div_iff₀ counted] at above
    obtain ⟨apart, bounded⟩ := nearest_share le (not_le.mp halves) few below above
    rw [Int.floor_eq_iff]
    constructor
    · have half := @toFloat_div (2 * nearest - 1) 1 (by rw [abs_le]; omega) (by decide)
      have order : ((2 * nearest - 1 : ℤ) : ℚ) / 2 ^ 1 ≤ number / count := by
        rw [le_div_iff₀ counted]
        push_cast
        linarith
      have passed_order := toFloat_monotone order
      rw [half] at passed_order
      push_cast at passed_order
      linarith
    · have sixteenth := @toFloat_div (16 * nearest + 7) 4 (by rw [abs_le]; omega) (by decide)
      have order : (number : ℚ) / count ≤ ((16 * nearest + 7 : ℤ) : ℚ) / 2 ^ 4 := by
        rw [div_le_iff₀ counted]
        have apart' : ((2 * number + 1 : ℤ) : ℚ) ≤ ((2 * nearest + 1) * count : ℤ) := by
          exact_mod_cast apart
        have few' : (count : ℚ) ≤ 7 := by exact_mod_cast few
        push_cast at apart' ⊢
        linarith
      have passed_order := toFloat_monotone order
      rw [sixteenth] at passed_order
      push_cast at passed_order
      linarith

theorem FSCalendarSliceCake_eq {total : ℚ} {count : Nat} (mem : total ∈ halfPoints.grid)
    (nonneg : 0 ≤ total) (le : total ≤ 2 ^ 20) (few : count ≤ 7) :
    FSCalendarSliceCake total count = halfPoints.slices total count := by
  induction count generalizing total with
  | zero => rfl
  | succ remains ih =>
      have rounded : FSCalendarRound (total / (remains + 1 : Nat) * 2) =
          roundAway (total / (remains + 1 : Nat) * 2) := by
        obtain ⟨number, rfl⟩ := AddSubgroup.mem_zmultiples_iff.mp mem
        rw [zsmul_eq_mul] at nonneg le ⊢
        have doubled : (number : ℚ) * (1 / 2) / (remains + 1 : Nat) * 2 =
            number / (remains + 1 : Nat) := by ring
        have lower : (0 : ℚ) ≤ number := by linarith
        have upper : (number : ℚ) ≤ (2 ^ 21 : ℤ) := by
          push_cast
          linarith
        rw [doubled, FSCalendarRound_div (by exact_mod_cast lower) (by exact_mod_cast upper)
          (Nat.succ_pos remains) few]
      have share : total / (remains + 1 : Nat) ≤ total :=
        div_le_self nonneg (by exact_mod_cast Nat.succ_pos remains)
      have piece_le : halfPoints.round (total / (remains + 1 : Nat)) ≤ total :=
        (halfPoints.round_monotone share).trans_eq (halfPoints.round_of_mem mem)
      have piece_nonneg : 0 ≤ halfPoints.round (total / (remains + 1 : Nat)) :=
        GridRounding.round_nonneg (div_nonneg nonneg (Nat.cast_nonneg _))
      rw [FSCalendarSliceCake, GridRounding.slices, rounded]
      change _ :: FSCalendarSliceCake (total - halfPoints.round _) remains = _
      rw [ih (halfPoints.grid.sub_mem mem (halfPoints.round_mem _)) (by linarith) (by linarith)
        (Nat.le_of_succ_le few)]
      rfl

/-! ## The layout -/

/-- `FLT_EPSILON`. -/
def FLT_EPSILON : ℚ := 1 / 2 ^ 23

/-- `FLT_MIN`. -/
def FLT_MIN : ℚ := 1 / 2 ^ 126

/-- What `FSCalendarCollectionViewLayout` reads of the calendar and its collection view, which
scrolls horizontally. -/
structure FSCalendarCollectionViewLayout where
  calculator : FSCalendarCalculator
  representingScope : FSCalendarScope
  adjustsBoundingRectWhenChangingMonths : Bool
  collectionViewSize : CGSize
  numberOfSections : Nat

namespace FSCalendarCollectionViewLayout

def sectionInsets : UIEdgeInsets where
  top := 5
  left := 0
  bottom := 5
  right := 0

variable (layout : FSCalendarCollectionViewLayout)

def contentWidth : ℚ :=
  layout.collectionViewSize.width - sectionInsets.left - sectionInsets.right

def contentHeight : ℚ :=
  layout.collectionViewSize.height - sectionInsets.top - sectionInsets.bottom

def estimatedItemSize : CGSize where
  width := layout.contentWidth / 7
  height :=
    match layout.representingScope with
    | .month => layout.contentHeight / 6
    | .week => layout.contentHeight

def rowCount : Nat :=
  if layout.representingScope = .week then 1 else 6

def widths : List ℚ :=
  FSCalendarSliceCake layout.contentWidth 7

def lefts : List ℚ :=
  Slots.starts sectionInsets.left layout.widths

def heights : List ℚ :=
  FSCalendarSliceCake layout.contentHeight layout.rowCount

def tops : List ℚ :=
  Slots.starts sectionInsets.top layout.heights

def contentSize : CGSize where
  width := layout.collectionViewSize.width * layout.numberOfSections
  height := layout.collectionViewSize.height

/-- `calculateRowOffset:totalRows:`, of a row there is a height for. -/
def calculateRowOffset (row : Nat) (totalRows : ℤ) : Option ℚ :=
  if layout.adjustsBoundingRectWhenChangingMonths then
    layout.tops[row]?
  else do
    let height ← layout.heights[row]?
    if totalRows = 4 ∨ totalRows = 5 then
      let rowSpan := layout.contentHeight / totalRows
      some ((row + 1 / 2) * rowSpan - height * (1 / 2) + sectionInsets.top)
    else
      layout.tops[row]?

/-- The frame of `layoutAttributesForItemAtIndexPath:`, where no array is read beyond its end. -/
def layoutAttributesForItem (indexPath : IndexPath) : Option CGRect :=
  let coordinate := FSCalendarCalculator.coordinateForIndexPath indexPath
  let numberOfRows := layout.calculator.numberOfRowsInSection layout.representingScope
    indexPath.inSection
  do
    let width ← layout.widths[coordinate.2]?
    let height ← layout.heights[coordinate.1]?
    let left ← layout.lefts[coordinate.2]?
    let y ← layout.calculateRowOffset coordinate.1 numberOfRows
    some {
      x := left + indexPath.inSection * layout.collectionViewSize.width
      y := y
      width := width
      height := height }

/-- The first column in a rectangle, counted through all sections. -/
def startColumn (rect : CGRect) : ℤ :=
  let startSection := truncate (rect.x / layout.collectionViewSize.width)
  let widthDelta := FSCalendarMod rect.x layout.collectionViewSize.width - sectionInsets.left
  let widthDelta :=
    min (max 0 widthDelta) (layout.collectionViewSize.width - sectionInsets.left)
  let countDelta := FSCalendarFloor (widthDelta / layout.estimatedItemSize.width)
  startSection * 7 + countDelta

/-- The last column. -/
def endColumn (rect : CGRect) : ℤ :=
  let maxX := rect.x + rect.width
  let section' := maxX / layout.collectionViewSize.width
  let remainder := FSCalendarMod section' 1
  if remainder ≤ max (100 * FLT_EPSILON * |remainder|) FLT_MIN then
    FSCalendarFloor section' * 7 - 1
  else
    let widthDelta := FSCalendarMod maxX layout.collectionViewSize.width - sectionInsets.left
    let widthDelta :=
      min (max 0 widthDelta) (layout.collectionViewSize.width - sectionInsets.left)
    let countDelta := FSCalendarCeil (widthDelta / layout.estimatedItemSize.width)
    FSCalendarFloor section' * 7 + countDelta - 1

def numberOfRows : Nat :=
  if layout.representingScope = .month then 6 else 1

/-- The index paths of a column, counted through all sections. -/
def columnPaths (column : Nat) : List IndexPath :=
  (List.range layout.numberOfRows).map fun row =>
    { item := column % 7 + row * 7
      inSection := column / 7 }

/-- The index paths of the loop over the columns of a rectangle. -/
def indexPathsInRect (rect : CGRect) : List IndexPath :=
  let startColumn := layout.startColumn rect
  (List.range' startColumn.toNat (layout.endColumn rect + 1 - startColumn).toNat).flatMap
    layout.columnPaths

/-- The part of a rectangle that is in the content, if it is not empty. -/
def clipped (rect : CGRect) : Option CGRect :=
  let content : CGRect :=
    { x := 0
      y := 0
      width := layout.contentSize.width
      height := layout.contentSize.height }
  (rect.intersection content).filter fun rect => !rect.isEmpty

/-- `layoutAttributesForElementsInRect:`, with the index path of each frame. -/
def layoutAttributesForElementsInRect (rect : CGRect) : Option (List (IndexPath × CGRect)) :=
  match layout.clipped rect with
  | none => some []
  | some rect => (layout.indexPathsInRect rect).mapM fun indexPath =>
      (layout.layoutAttributesForItem indexPath).map (indexPath, ·)

/-! ## Columns and rows -/

/-- The height from which on no row of a page is too low. -/
def leastHeight : FSCalendarScope → ℚ
  | .month => 55
  | .week => 11

/-- The collection view is as large as the half points have it, and neither tiny nor huge. -/
structure Fits (layout : FSCalendarCollectionViewLayout) : Prop where
  width_mem : layout.collectionViewSize.width ∈ halfPoints.grid
  height_mem : layout.collectionViewSize.height ∈ halfPoints.grid
  width_ge : 20 ≤ layout.collectionViewSize.width
  width_le : layout.collectionViewSize.width ≤ 2 ^ 20
  height_ge : leastHeight layout.representingScope ≤ layout.collectionViewSize.height
  height_le : layout.collectionViewSize.height ≤ 2 ^ 20

/-- The month pages of the calendar with the default bounding dates, on a collection view of
375 × 262 points. -/
def monthPages : FSCalendarCollectionViewLayout where
  calculator := .unchanged
  representingScope := .month
  adjustsBoundingRectWhenChangingMonths := false
  collectionViewSize :=
    { width := 375
      height := 262 }
  numberOfSections := 1560

theorem monthPages_fits : monthPages.Fits where
  width_mem := intCast_mem_halfPoints 375
  height_mem := intCast_mem_halfPoints 262
  width_ge := by norm_num [monthPages]
  width_le := by norm_num [monthPages]
  height_ge := by norm_num [monthPages, leastHeight]
  height_le := by norm_num [monthPages]

/-- Where a column begins on its page. -/
def columnStart (column : Nat) : ℚ :=
  (layout.widths.take column).sum

/-- Where a row begins below the upper inset, were it not for months with fewer rows. -/
def rowStart (row : Nat) : ℚ :=
  (layout.heights.take row).sum

variable {layout}

theorem contentWidth_eq : layout.contentWidth = layout.collectionViewSize.width := by
  simp [contentWidth, sectionInsets]

theorem length_FSCalendarSliceCake (total : ℚ) (count : Nat) :
    (FSCalendarSliceCake total count).length = count := by
  induction count generalizing total with
  | zero => rfl
  | succ remains ih => exact congrArg Nat.succ (ih _)

@[simp]
theorem length_widths : layout.widths.length = 7 :=
  length_FSCalendarSliceCake _ 7

@[simp]
theorem length_heights : layout.heights.length = layout.rowCount :=
  length_FSCalendarSliceCake _ _

theorem rowCount_pos : 0 < layout.rowCount := by
  rw [rowCount]
  split <;> decide

theorem Fits.contentHeight_mem (fits : layout.Fits) : layout.contentHeight ∈ halfPoints.grid := by
  have insets := intCast_mem_halfPoints 5
  rw [contentHeight]
  exact halfPoints.grid.sub_mem (halfPoints.grid.sub_mem fits.height_mem insets) insets

theorem Fits.contentHeight_pos (fits : layout.Fits) : 0 < layout.contentHeight := by
  have height := fits.height_ge
  simp only [contentHeight, sectionInsets]
  cases scope : layout.representingScope with
  | month =>
      rw [scope, leastHeight] at height
      linarith
  | week =>
      rw [scope, leastHeight] at height
      linarith

theorem Fits.contentHeight_ge (fits : layout.Fits) (month : layout.representingScope = .month) :
    45 ≤ layout.contentHeight := by
  have height := fits.height_ge
  rw [month, leastHeight] at height
  simp only [contentHeight, sectionInsets]
  linarith

theorem Fits.contentHeight_le (fits : layout.Fits) : layout.contentHeight ≤ 2 ^ 20 := by
  have height := fits.height_le
  simp only [contentHeight, sectionInsets]
  linarith

theorem Fits.widths_eq (fits : layout.Fits) :
    layout.widths = halfPoints.slices layout.collectionViewSize.width 7 := by
  have width := fits.width_ge
  rw [widths, contentWidth_eq]
  exact FSCalendarSliceCake_eq fits.width_mem (by linarith) fits.width_le le_rfl

theorem Fits.heights_eq (fits : layout.Fits) :
    layout.heights = halfPoints.slices layout.contentHeight layout.rowCount := by
  have few : layout.rowCount ≤ 7 := by
    rw [rowCount]
    split <;> decide
  exact FSCalendarSliceCake_eq fits.contentHeight_mem fits.contentHeight_pos.le
    fits.contentHeight_le few

/-- The columns fill the page. -/
theorem Fits.sum_widths (fits : layout.Fits) :
    layout.widths.sum = layout.collectionViewSize.width := by
  rw [fits.widths_eq, GridRounding.sum_slices fits.width_mem (by decide)]

theorem Fits.widths_nonneg (fits : layout.Fits) : ∀ width ∈ layout.widths, 0 ≤ width := by
  have width := fits.width_ge
  rw [fits.widths_eq]
  exact GridRounding.slices_nonneg fits.width_mem (by linarith)

/-- The rows fill the height between the insets. -/
theorem Fits.sum_heights (fits : layout.Fits) : layout.heights.sum = layout.contentHeight := by
  rw [fits.heights_eq, GridRounding.sum_slices fits.contentHeight_mem rowCount_pos]

theorem Fits.heights_nonneg (fits : layout.Fits) : ∀ height ∈ layout.heights, 0 ≤ height := by
  rw [fits.heights_eq]
  exact GridRounding.slices_nonneg fits.contentHeight_mem fits.contentHeight_pos.le

@[simp]
theorem columnStart_zero : layout.columnStart 0 = 0 := rfl

@[simp]
theorem rowStart_zero : layout.rowStart 0 = 0 := rfl

theorem Fits.columnStart_seven (fits : layout.Fits) :
    layout.columnStart 7 = layout.collectionViewSize.width := by
  rw [columnStart, List.take_of_length_le length_widths.le, fits.sum_widths]

theorem Fits.rowStart_rowCount (fits : layout.Fits) :
    layout.rowStart layout.rowCount = layout.contentHeight := by
  rw [rowStart, List.take_of_length_le length_heights.le, fits.sum_heights]

theorem Fits.columnStart_monotone (fits : layout.Fits) : Monotone layout.columnStart :=
  fun _ _ le => Slots.sum_take_le fits.widths_nonneg le

theorem Fits.rowStart_monotone (fits : layout.Fits) : Monotone layout.rowStart :=
  fun _ _ le => Slots.sum_take_le fits.heights_nonneg le

/-- No column begins three quarters of a point away from its seventh of the page. -/
theorem Fits.abs_columnStart_sub_le (fits : layout.Fits) {column : Nat} (bound : column ≤ 7) :
    |layout.columnStart column - column * (layout.collectionViewSize.width / 7)| ≤ 29 / 40 := by
  rcases bound.lt_or_eq with before | rfl
  · have near := @GridRounding.abs_sum_take_slices_le _ _ _ _ halfPoints
      layout.collectionViewSize.width _ _ before
    rw [← fits.widths_eq, Nat.cast_ofNat] at near
    have drifts : GridRounding.drift ℚ 7 column ≤ 29 / 10 := by
      interval_cases column <;> norm_num [GridRounding.drift]
    rw [columnStart]
    refine near.trans ?_
    change GridRounding.drift ℚ 7 column * (1 / 4) ≤ 29 / 40
    linarith
  · have whole : layout.collectionViewSize.width -
        (7 : Nat) * (layout.collectionViewSize.width / 7) = 0 := by
      push_cast
      ring
    rw [fits.columnStart_seven, whole, abs_zero]
    norm_num

theorem Fits.abs_rowStart_sub_le (fits : layout.Fits) (month : layout.representingScope = .month)
    {row : Nat} (bound : row ≤ 6) :
    |layout.rowStart row - row * (layout.contentHeight / 6)| ≤ 3 / 4 := by
  have six : layout.rowCount = 6 := by rw [rowCount, month]; rfl
  rcases bound.lt_or_eq with before | rfl
  · have near := @GridRounding.abs_sum_take_slices_le _ _ _ _ halfPoints layout.contentHeight _ _
      before
    rw [← six, ← fits.heights_eq, six, Nat.cast_ofNat] at near
    have drifts : GridRounding.drift ℚ 6 row ≤ 3 := by
      interval_cases row <;> norm_num [GridRounding.drift]
    rw [rowStart]
    refine near.trans ?_
    change GridRounding.drift ℚ 6 row * (1 / 4) ≤ 3 / 4
    linarith
  · have whole : layout.contentHeight - (6 : Nat) * (layout.contentHeight / 6) = 0 := by
      push_cast
      ring
    have all := fits.rowStart_rowCount
    rw [six] at all
    rw [all, whole, abs_zero]
    norm_num

/-- How high a row is. -/
def rowHeight (layout : FSCalendarCollectionViewLayout) (row : Nat) : ℚ :=
  layout.rowStart (row + 1) - layout.rowStart row

theorem Fits.rowHeight_le (fits : layout.Fits) (month : layout.representingScope = .month)
    {row : Nat} (bound : row < 6) : layout.rowHeight row ≤ layout.contentHeight / 5 := by
  have height := fits.contentHeight_ge month
  have begins := abs_le.mp (fits.abs_rowStart_sub_le month bound.le)
  have ends := abs_le.mp (fits.abs_rowStart_sub_le month (Nat.succ_le_of_lt bound))
  rw [rowHeight]
  push_cast at ends
  linarith [begins.1, ends.2]

/-- The months whose rows are spread over the page. -/
def Spread (layout : FSCalendarCollectionViewLayout) (totalRows : ℤ) : Prop :=
  layout.adjustsBoundingRectWhenChangingMonths = false ∧ (totalRows = 4 ∨ totalRows = 5)

instance (totalRows : ℤ) : Decidable (layout.Spread totalRows) :=
  inferInstanceAs (Decidable (_ ∧ _))

/-- Where `calculateRowOffset:totalRows:` puts a row. -/
def rowOffset (layout : FSCalendarCollectionViewLayout) (row : Nat) (totalRows : ℤ) : ℚ :=
  if layout.Spread totalRows then
    (row + 1 / 2) * (layout.contentHeight / totalRows) - layout.rowHeight row * (1 / 2) +
      sectionInsets.top
  else
    sectionInsets.top + layout.rowStart row

theorem calculateRowOffset_eq {row : Nat} (bound : row < layout.rowCount) (totalRows : ℤ) :
    layout.calculateRowOffset row totalRows = some (layout.rowOffset row totalRows) := by
  have listed : row < layout.heights.length := bound.trans_eq length_heights.symm
  have top : layout.tops[row]? = some (sectionInsets.top + layout.rowStart row) :=
    Slots.getElem?_starts listed
  have height : layout.heights[row]? = some (layout.rowHeight row) :=
    Slots.getElem?_eq_sub listed
  rw [calculateRowOffset, rowOffset, top, height]
  cases adjusts : layout.adjustsBoundingRectWhenChangingMonths with
  | true => simp [Spread, adjusts]
  | false =>
      by_cases few : totalRows = 4 ∨ totalRows = 5
      · simp [Spread, adjusts, few]
      · simp [Spread, adjusts, few]

/-- The edge of a column, counted through all sections. -/
def columnEdge (layout : FSCalendarCollectionViewLayout) (column : Nat) : ℚ :=
  (column / 7 : Nat) * layout.collectionViewSize.width + layout.columnStart (column % 7)

/-- The column of a cell, counted through all sections. -/
def columnOf (indexPath : IndexPath) : Nat :=
  indexPath.inSection * 7 + indexPath.item % 7

theorem Fits.columnEdge_succ (fits : layout.Fits) (number : Nat) {column : Nat}
    (bound : column < 7) :
    layout.columnEdge (number * 7 + column + 1) =
      number * layout.collectionViewSize.width + layout.columnStart (column + 1) := by
  by_cases last : column + 1 = 7
  · have next : number * 7 + column + 1 = (number + 1) * 7 := by omega
    rw [columnEdge, next, Nat.mul_div_cancel _ (by decide), Nat.mul_mod_left, last,
      columnStart_zero, fits.columnStart_seven]
    push_cast
    ring
  · have same : (number * 7 + column + 1) / 7 = number := by omega
    have rest : (number * 7 + column + 1) % 7 = column + 1 := by omega
    rw [columnEdge, same, rest]

/-- The frame of a cell. -/
def frameOf (layout : FSCalendarCollectionViewLayout) (indexPath : IndexPath) : CGRect where
  x := layout.columnEdge (columnOf indexPath)
  y := layout.rowOffset (indexPath.item / 7)
    (layout.calculator.numberOfRowsInSection layout.representingScope indexPath.inSection)
  width := layout.columnEdge (columnOf indexPath + 1) - layout.columnEdge (columnOf indexPath)
  height := layout.rowHeight (indexPath.item / 7)

theorem item_lt_iff {indexPath : IndexPath} :
    indexPath.item < FSCalendarCalculator.numberOfItems layout.representingScope ↔
      indexPath.item / 7 < layout.rowCount := by
  rw [rowCount]
  cases scope : layout.representingScope with
  | month =>
      simp only [FSCalendarCalculator.numberOfItems, reduceCtorEq, if_false]
      omega
  | week =>
      simp only [FSCalendarCalculator.numberOfItems, if_true]
      omega

theorem numberOfRows_eq : layout.numberOfRows = layout.rowCount := by
  rw [numberOfRows, rowCount]
  cases layout.representingScope <;> rfl

theorem Fits.layoutAttributesForItem_eq (fits : layout.Fits) {indexPath : IndexPath}
    (inPage : indexPath.item < FSCalendarCalculator.numberOfItems layout.representingScope) :
    layout.layoutAttributesForItem indexPath = some (layout.frameOf indexPath) := by
  have row := item_lt_iff.mp inPage
  have column : indexPath.item % 7 < 7 := Nat.mod_lt _ (by decide)
  have width : layout.widths[indexPath.item % 7]? =
      some (layout.columnStart (indexPath.item % 7 + 1) -
        layout.columnStart (indexPath.item % 7)) :=
    Slots.getElem?_eq_sub (column.trans_eq length_widths.symm)
  have left : layout.lefts[indexPath.item % 7]? =
      some (sectionInsets.left + layout.columnStart (indexPath.item % 7)) :=
    Slots.getElem?_starts (column.trans_eq length_widths.symm)
  have height : layout.heights[indexPath.item / 7]? =
      some (layout.rowHeight (indexPath.item / 7)) :=
    Slots.getElem?_eq_sub (row.trans_eq length_heights.symm)
  have begins : layout.columnEdge (columnOf indexPath) =
      indexPath.inSection * layout.collectionViewSize.width +
        layout.columnStart (indexPath.item % 7) := by
    have same : columnOf indexPath / 7 = indexPath.inSection := by
      simp only [columnOf]
      omega
    have rest : columnOf indexPath % 7 = indexPath.item % 7 := by
      simp only [columnOf]
      omega
    rw [columnEdge, same, rest]
  have ends := fits.columnEdge_succ indexPath.inSection column
  rw [layoutAttributesForItem, FSCalendarCalculator.coordinateForIndexPath]
  simp only [width, left, height, calculateRowOffset_eq row, Option.bind_eq_bind, Option.bind_some]
  refine congrArg some ?_
  rw [frameOf, begins]
  simp only [columnOf, ends, sectionInsets]
  congr 1
  · ring
  · ring

/-! ## Cells do not overlap -/

theorem Fits.columnEdge_monotone (fits : layout.Fits) : Monotone layout.columnEdge := by
  refine monotone_nat_of_le_succ fun column => ?_
  have bound : column % 7 < 7 := Nat.mod_lt _ (by decide)
  have next := fits.columnEdge_succ (column / 7) bound
  rw [Nat.div_add_mod'] at next
  rw [next, columnEdge]
  have wider := fits.columnStart_monotone (Nat.le_succ (column % 7))
  linarith

theorem Fits.rowOffset_add_le (fits : layout.Fits) {row other : Nat} (lt : row < other)
    (bound : other < layout.rowCount) (totalRows : ℤ) :
    layout.rowOffset row totalRows + layout.rowHeight row ≤ layout.rowOffset other totalRows := by
  have month : layout.representingScope = .month := by
    cases scope : layout.representingScope with
    | month => rfl
    | week =>
        rw [rowCount, scope] at bound
        simp only [if_true] at bound
        omega
  have six : layout.rowCount = 6 := by rw [rowCount, month]; rfl
  rw [rowOffset, rowOffset]
  split
  case isTrue spread =>
    have height := fits.rowHeight_le month (lt.trans (six ▸ bound))
    have next := fits.rowHeight_le month (six ▸ bound)
    have content := fits.contentHeight_ge month
    have apart : (row : ℚ) + 1 ≤ other := by exact_mod_cast lt
    have span : layout.contentHeight / 5 ≤ layout.contentHeight / totalRows := by
      rcases spread.2 with rfl | rfl
      · push_cast
        linarith
      · push_cast
        exact le_rfl
    have nonneg : 0 ≤ layout.contentHeight / totalRows := le_trans (by linarith) span
    have between := mul_le_mul_of_nonneg_right apart nonneg
    linarith
  case isFalse =>
    have ordered := fits.rowStart_monotone (Nat.succ_le_of_lt lt)
    rw [rowHeight]
    linarith

/-- A cell of the collection view. -/
def IsCell (layout : FSCalendarCollectionViewLayout) (indexPath : IndexPath) : Prop :=
  indexPath.inSection < layout.numberOfSections ∧
    indexPath.item < FSCalendarCalculator.numberOfItems layout.representingScope

/-- A touch at a point reaches a cell. -/
def Touches (layout : FSCalendarCollectionViewLayout) (indexPath : IndexPath) (x y : ℚ) : Prop :=
  layout.IsCell indexPath ∧
    ∃ frame, layout.layoutAttributesForItem indexPath = some frame ∧ frame.Contains x y

theorem Fits.touches_iff (fits : layout.Fits) {indexPath : IndexPath} {x y : ℚ} :
    layout.Touches indexPath x y ↔
      layout.IsCell indexPath ∧ (layout.frameOf indexPath).Contains x y := by
  constructor
  · rintro ⟨isCell, frame, found, contains⟩
    rw [fits.layoutAttributesForItem_eq isCell.2] at found
    cases found
    exact ⟨isCell, contains⟩
  · rintro ⟨isCell, contains⟩
    exact ⟨isCell, _, fits.layoutAttributesForItem_eq isCell.2, contains⟩

theorem contains_frameOf_iff {indexPath : IndexPath} {x y : ℚ} :
    (layout.frameOf indexPath).Contains x y ↔
      (layout.columnEdge (columnOf indexPath) ≤ x ∧
        x < layout.columnEdge (columnOf indexPath + 1)) ∧
      (layout.frameOf indexPath).y ≤ y ∧
        y < (layout.frameOf indexPath).y + layout.rowHeight (indexPath.item / 7) := by
  rw [CGRect.Contains]
  simp only [frameOf, add_sub_cancel]

/-- No two cells share a point. -/
theorem Fits.touches_inj (fits : layout.Fits) {left right : IndexPath} {x y : ℚ}
    (touchesLeft : layout.Touches left x y) (touchesRight : layout.Touches right x y) :
    left = right := by
  obtain ⟨⟨-, leftInPage⟩, leftContains⟩ := fits.touches_iff.mp touchesLeft
  obtain ⟨⟨-, rightInPage⟩, rightContains⟩ := fits.touches_iff.mp touchesRight
  obtain ⟨leftX, leftY⟩ := contains_frameOf_iff.mp leftContains
  obtain ⟨rightX, rightY⟩ := contains_frameOf_iff.mp rightContains
  have column : columnOf left = columnOf right := by
    by_contra apart
    have disjoint : Disjoint
        (Set.Ico (layout.columnEdge (columnOf left)) (layout.columnEdge (columnOf left + 1)))
        (Set.Ico (layout.columnEdge (columnOf right)) (layout.columnEdge (columnOf right + 1))) :=
      fits.columnEdge_monotone.pairwise_disjoint_on_Ico_succ apart
    exact Set.disjoint_left.mp disjoint leftX rightX
  have page : left.inSection = right.inSection := by
    simp only [columnOf] at column
    omega
  have row : left.item / 7 = right.item / 7 := by
    simp only [frameOf, page] at leftY rightY
    rcases lt_trichotomy (left.item / 7) (right.item / 7) with lt | same | gt
    · have between := fits.rowOffset_add_le lt (item_lt_iff.mp rightInPage)
        (layout.calculator.numberOfRowsInSection layout.representingScope right.inSection)
      exact absurd (leftY.2.trans_le (between.trans rightY.1)) (lt_irrefl y)
    · exact same
    · have between := fits.rowOffset_add_le gt (item_lt_iff.mp leftInPage)
        (layout.calculator.numberOfRowsInSection layout.representingScope right.inSection)
      exact absurd (rightY.2.trans_le (between.trans leftY.1)) (lt_irrefl y)
  cases left
  cases right
  simp only [columnOf, IndexPath.mk.injEq] at column page row ⊢
  omega

/-- A point of the content, on a page whose rows are not spread, is in a cell. -/
theorem Fits.exists_touches (fits : layout.Fits) {x y : ℚ} (left : 0 ≤ x)
    (right : x < layout.contentSize.width) (upper : sectionInsets.top ≤ y)
    (lower : y < sectionInsets.top + layout.contentHeight)
    (notSpread : ∀ number : Nat, ¬ layout.Spread
      (layout.calculator.numberOfRowsInSection layout.representingScope number)) :
    ∃ indexPath, layout.Touches indexPath x y := by
  have width := fits.width_ge
  have positive : 0 < layout.collectionViewSize.width := by linarith
  obtain ⟨number, number_eq⟩ := Int.eq_ofNat_of_zero_le
    (Int.floor_nonneg.mpr (div_nonneg left positive.le) :
      0 ≤ ⌊x / layout.collectionViewSize.width⌋)
  have begins : (number : ℚ) * layout.collectionViewSize.width ≤ x := by
    rw [← le_div_iff₀ positive]
    exact_mod_cast Int.le_floor.mp number_eq.ge
  have ends : x < (number : ℚ) * layout.collectionViewSize.width +
      layout.collectionViewSize.width := by
    have next := Int.lt_floor_add_one (x / layout.collectionViewSize.width)
    rw [number_eq, div_lt_iff₀ positive] at next
    push_cast at next
    linarith
  have inSections : number < layout.numberOfSections := by
    by_contra beyond
    have many : (layout.numberOfSections : ℚ) ≤ number := by exact_mod_cast not_lt.mp beyond
    have all := mul_le_mul_of_nonneg_right many positive.le
    simp only [contentSize] at right
    linarith
  obtain ⟨column, columnBound, columnBegins, columnEnds⟩ := Slots.exists_inSlot begins
    (ends.trans_eq (congrArg _ fits.sum_widths.symm))
  obtain ⟨row, rowBound, rowBegins, rowEnds⟩ := Slots.exists_inSlot upper
    (lower.trans_eq (congrArg _ fits.sum_heights.symm))
  rw [length_widths] at columnBound
  rw [length_heights] at rowBound
  have item_row : (column + row * 7) / 7 = row := by omega
  have item_column : (column + row * 7) % 7 = column := by omega
  have edge : layout.columnEdge (columnOf ⟨column + row * 7, number⟩) =
      number * layout.collectionViewSize.width + layout.columnStart column := by
    have page : (number * 7 + column) / 7 = number := by omega
    have rest : (number * 7 + column) % 7 = column := by omega
    simp only [columnOf, item_column]
    rw [columnEdge, page, rest]
  refine ⟨⟨column + row * 7, number⟩, fits.touches_iff.mpr ⟨⟨inSections, ?_⟩, ?_⟩⟩
  · rw [item_lt_iff, item_row]
    exact rowBound
  · rw [contains_frameOf_iff, edge]
    simp only [columnOf, item_column, fits.columnEdge_succ number columnBound, frameOf, item_row,
      rowOffset, if_neg (notSpread number)]
    refine ⟨⟨columnBegins, columnEnds⟩, rowBegins, ?_⟩
    have same : sectionInsets.top + layout.rowStart row + layout.rowHeight row =
        sectionInsets.top + layout.rowStart (row + 1) := by
      rw [rowHeight]
      ring
    rw [same]
    exact rowEnds

/-! ## Rows on their page -/

theorem Fits.span_pos (fits : layout.Fits) {totalRows : ℤ} (spread : layout.Spread totalRows) :
    0 < (totalRows : ℚ) ∧ layout.contentHeight / 5 ≤ layout.contentHeight / totalRows ∧
      totalRows * (layout.contentHeight / totalRows) = layout.contentHeight := by
  have content := fits.contentHeight_pos
  rcases spread.2 with rfl | rfl
  · push_cast
    refine ⟨by norm_num, by linarith, by ring⟩
  · push_cast
    refine ⟨by norm_num, le_rfl, by ring⟩

theorem Fits.rowOffset_within (fits : layout.Fits) (month : layout.representingScope = .month)
    {row : Nat} (bound : row < 6) {totalRows : ℤ} (counted : row < totalRows) :
    sectionInsets.top ≤ layout.rowOffset row totalRows ∧
      layout.rowOffset row totalRows + layout.rowHeight row ≤
        sectionInsets.top + layout.contentHeight := by
  have six : layout.rowCount = 6 := by rw [rowCount, month]; rfl
  rw [rowOffset]
  split
  case isTrue spread =>
    obtain ⟨-, span, whole⟩ := fits.span_pos spread
    have height := fits.rowHeight_le month bound
    have content := fits.contentHeight_pos
    have nonneg : 0 ≤ layout.contentHeight / totalRows := le_trans (by linarith) span
    have first : 0 ≤ (row : ℚ) * (layout.contentHeight / totalRows) :=
      mul_nonneg (Nat.cast_nonneg row) nonneg
    have counted' : (row : ℚ) + 1 ≤ totalRows := by exact_mod_cast counted
    have last := mul_le_mul_of_nonneg_right counted' nonneg
    constructor
    · linarith
    · linarith
  case isFalse =>
    have first := fits.rowStart_monotone (Nat.zero_le row)
    have last := fits.rowStart_monotone (Nat.succ_le_of_lt bound)
    have all := fits.rowStart_rowCount
    rw [six] at all
    rw [rowStart_zero] at first
    rw [rowHeight]
    constructor
    · linarith
    · linarith

theorem Fits.rowOffset_beyond (fits : layout.Fits) (month : layout.representingScope = .month)
    {row : Nat} (bound : row < 6) {totalRows : ℤ} (spread : layout.Spread totalRows)
    (lacking : totalRows ≤ row) :
    sectionInsets.top + layout.contentHeight ≤ layout.rowOffset row totalRows := by
  obtain ⟨-, span, whole⟩ := fits.span_pos spread
  have height := fits.rowHeight_le month bound
  have content := fits.contentHeight_pos
  have nonneg : 0 ≤ layout.contentHeight / totalRows := le_trans (by linarith) span
  have lacking' : (totalRows : ℚ) ≤ row := by exact_mod_cast lacking
  have beyond := mul_le_mul_of_nonneg_right lacking' nonneg
  rw [rowOffset, if_pos spread]
  linarith

/-- At every point of the content there is at most one cell, on a page in one of its rows, and where
the rows are not spread there is one. -/
theorem touched (fits : layout.Fits) {x y : ℚ}
    (onPage : y < sectionInsets.top + layout.contentHeight) :
    (∀ left right, layout.Touches left x y → layout.Touches right x y → left = right) ∧
    (∀ indexPath, layout.Touches indexPath x y →
      layout.Spread (layout.calculator.numberOfRowsInSection layout.representingScope
        indexPath.inSection) →
      ((indexPath.item / 7 : Nat) : ℤ) <
        layout.calculator.numberOfRowsInSection layout.representingScope indexPath.inSection) ∧
    (0 ≤ x → x < layout.contentSize.width → sectionInsets.top ≤ y →
      (∀ number : Nat, ¬ layout.Spread
        (layout.calculator.numberOfRowsInSection layout.representingScope number)) →
      ∃ indexPath, layout.Touches indexPath x y) := by
  refine ⟨fun left right => fits.touches_inj, ?_, ?_⟩
  · intro indexPath touches spread
    by_contra lacking
    obtain ⟨⟨-, inPage⟩, contains⟩ := fits.touches_iff.mp touches
    have below := (contains_frameOf_iff.mp contains).2.1
    cases scope : layout.representingScope with
    | month =>
        have row := item_lt_iff.mp inPage
        have six : layout.rowCount = 6 := by rw [rowCount, scope]; rfl
        have beyond := fits.rowOffset_beyond scope (six ▸ row) spread (not_lt.mp lacking)
        exact absurd (onPage.trans_le (beyond.trans below)) (lt_irrefl y)
    | week =>
        rw [scope] at spread
        rcases spread.2 with four | five
        · cases four
        · cases five
  · exact fun left right upper notSpread => fits.exists_touches left right upper onPage notSpread

theorem monthPages_touched :
    (∀ left right, monthPages.Touches left 10 40 → monthPages.Touches right 10 40 → left = right) ∧
    ∀ indexPath, monthPages.Touches indexPath 10 40 →
      monthPages.Spread (FSCalendarCalculator.unchanged.numberOfRowsInSection .month
        indexPath.inSection) →
      ((indexPath.item / 7 : Nat) : ℤ) <
        FSCalendarCalculator.unchanged.numberOfRowsInSection .month indexPath.inSection := by
  have onPage : (40 : ℚ) < sectionInsets.top + monthPages.contentHeight := by
    norm_num [contentHeight, sectionInsets, monthPages]
  obtain ⟨unique, counted, -⟩ := touched (x := 10) monthPages_fits onPage
  exact ⟨unique, counted⟩

theorem Fits.columnEdge_add_lt (fits : layout.Fits) (column : Nat) :
    layout.columnEdge column + 7 / 8 < layout.columnEdge (column + 1) := by
  have width := fits.width_ge
  have bound : column % 7 < 7 := Nat.mod_lt _ (by decide)
  have next := fits.columnEdge_succ (column / 7) bound
  have begins := abs_le.mp (fits.abs_columnStart_sub_le bound.le)
  have ends := abs_le.mp (fits.abs_columnStart_sub_le (Nat.succ_le_of_lt bound))
  rw [Nat.div_add_mod'] at next
  rw [next, columnEdge]
  push_cast at ends
  linarith [begins.2, ends.1]

theorem Fits.rowHeight_pos (fits : layout.Fits) (month : layout.representingScope = .month)
    {row : Nat} (bound : row < 6) : 0 < layout.rowHeight row := by
  have content := fits.contentHeight_ge month
  have begins := abs_le.mp (fits.abs_rowStart_sub_le month bound.le)
  have ends := abs_le.mp (fits.abs_rowStart_sub_le month (Nat.succ_le_of_lt bound))
  rw [rowHeight]
  push_cast at ends
  linarith [begins.2, ends.1]

/-- The frame is on the page of a section. -/
structure OnPage (layout : FSCalendarCollectionViewLayout) (number : Nat) (frame : CGRect) :
    Prop where
  width_pos : 0 < frame.width
  height_pos : 0 < frame.height
  left : number * layout.collectionViewSize.width ≤ frame.x
  right : frame.x + frame.width ≤ (number + 1) * layout.collectionViewSize.width
  upper : sectionInsets.top ≤ frame.y
  lower : frame.y + frame.height ≤ layout.collectionViewSize.height - sectionInsets.bottom

theorem Fits.rowOffset_onPage (fits : layout.Fits) {row number : Nat}
    (bound : row < layout.rowCount)
    (counted : (row : ℤ) <
      layout.calculator.numberOfRowsInSection layout.representingScope number) :
    0 < layout.rowHeight row ∧
      sectionInsets.top ≤ layout.rowOffset row
        (layout.calculator.numberOfRowsInSection layout.representingScope number) ∧
      layout.rowOffset row
          (layout.calculator.numberOfRowsInSection layout.representingScope number) +
        layout.rowHeight row ≤ sectionInsets.top + layout.contentHeight := by
  cases scope : layout.representingScope with
  | month =>
      have six : layout.rowCount = 6 := by rw [rowCount, scope]; rfl
      rw [six] at bound
      rw [scope] at counted
      exact ⟨fits.rowHeight_pos scope bound, fits.rowOffset_within scope bound counted⟩
  | week =>
      have content := fits.contentHeight_pos
      have all := fits.rowStart_rowCount
      have one : layout.rowCount = 1 := by rw [rowCount, scope]; rfl
      rw [one] at bound all
      obtain rfl : row = 0 := by omega
      have height : layout.rowHeight 0 = layout.contentHeight := by
        rw [rowHeight, zero_add, all, rowStart_zero, sub_zero]
      have offset : layout.rowOffset 0
          (layout.calculator.numberOfRowsInSection .week number) = sectionInsets.top := by
        rw [rowOffset, if_neg, rowStart_zero, add_zero]
        rintro ⟨-, four | five⟩
        · cases four
        · cases five
      rw [offset, height]
      exact ⟨content, le_rfl, le_rfl⟩

theorem Fits.frameOf_onPage (fits : layout.Fits) {indexPath : IndexPath}
    (row : indexPath.item / 7 < layout.rowCount)
    (counted : ((indexPath.item / 7 : Nat) : ℤ) <
      layout.calculator.numberOfRowsInSection layout.representingScope indexPath.inSection) :
    layout.OnPage indexPath.inSection (layout.frameOf indexPath) := by
  obtain ⟨height, upper, lower⟩ := fits.rowOffset_onPage row counted
  have bound : indexPath.item % 7 < 7 := Nat.mod_lt _ (by decide)
  have page : columnOf indexPath / 7 = indexPath.inSection := by
    simp only [columnOf]
    omega
  have rest : columnOf indexPath % 7 = indexPath.item % 7 := by
    simp only [columnOf]
    omega
  have first := fits.columnStart_monotone (Nat.zero_le (indexPath.item % 7))
  have last := fits.columnStart_monotone (Nat.succ_le_of_lt bound)
  rw [columnStart_zero] at first
  rw [Nat.succ_eq_add_one, fits.columnStart_seven] at last
  constructor
  case width_pos =>
    have wide := fits.columnEdge_add_lt (columnOf indexPath)
    simp only [frameOf]
    linarith
  case height_pos => exact height
  case left =>
    simp only [frameOf, columnEdge, page, rest]
    linarith
  case right =>
    have ends := fits.columnEdge_succ indexPath.inSection bound
    simp only [frameOf, add_sub_cancel]
    simp only [columnOf, ends]
    linarith
  case upper => exact upper
  case lower =>
    simp only [contentHeight] at lower
    simp only [frameOf]
    linarith

/-- The cell of a row that its page has is wholly on that page; a touch on it reaches no other
cell. -/
theorem Fits.exists_frame (fits : layout.Fits) {indexPath : IndexPath}
    (isCell : layout.IsCell indexPath)
    (counted : ((indexPath.item / 7 : Nat) : ℤ) <
      layout.calculator.numberOfRowsInSection layout.representingScope indexPath.inSection) :
    ∃ frame, layout.layoutAttributesForItem indexPath = some frame ∧
      layout.OnPage indexPath.inSection frame ∧
      ∀ x y, frame.Contains x y → layout.Touches indexPath x y ∧
        ∀ other, layout.Touches other x y → other = indexPath := by
  have found := fits.layoutAttributesForItem_eq isCell.2
  refine ⟨_, found, fits.frameOf_onPage (item_lt_iff.mp isCell.2) counted, ?_⟩
  intro x y contains
  have touches : layout.Touches indexPath x y :=
    ⟨isCell, layout.frameOf indexPath, found, contains⟩
  exact ⟨touches, fun other touchesOther => fits.touches_inj touchesOther touches⟩

/-- Each day of the calendar has its cell of a month page, wholly on that page; a touch on it
reaches no other cell. -/
theorem exists_touched_day (fits : layout.Fits) (month : layout.representingScope = .month)
    (regular : layout.calculator.Regular) (monthsBegun : layout.calculator.MonthsBegun)
    (sections : (layout.numberOfSections : ℤ) = layout.calculator.numberOfSections .month)
    {day : ℤ}
    (reached : layout.calculator.gregorian.month layout.calculator.minimumDate ≤
      layout.calculator.gregorian.months.month day)
    (within : layout.calculator.gregorian.months.month day ≤
      layout.calculator.gregorian.month layout.calculator.maximumDate) :
    ∃ indexPath frame,
      layout.calculator.monthPositionForIndexPath .month indexPath = .current ∧
      layout.calculator.gregorian.timeZone.day
        (layout.calculator.dateForIndexPath .month indexPath) = day ∧
      layout.layoutAttributesForItem indexPath = some frame ∧
      layout.OnPage indexPath.inSection frame ∧
      ∀ x y, frame.Contains x y → layout.Touches indexPath x y ∧
        ∀ other, layout.Touches other x y → other = indexPath := by
  obtain ⟨indexPath, inSections, inPage, current, same_day⟩ :=
    regular.exists_currentCell monthsBegun reached within
  have row : indexPath.item / 7 < 6 := by
    simp only [FSCalendarCalculator.numberOfItems] at inPage
    omega
  have counted : ((indexPath.item / 7 : Nat) : ℤ) <
      layout.calculator.numberOfRowsInSection layout.representingScope indexPath.inSection := by
    rw [month]
    by_cases filled : layout.calculator.placeholderType = .fillSixRows
    · rw [FSCalendarCalculator.numberOfRowsInSection, FSCalendarCalculator.numberOfRowsInMonth,
        if_pos filled]
      exact_mod_cast row
    · exact regular.row_lt_of_current filled current
  rw [← month] at inPage
  obtain ⟨frame, placed⟩ := fits.exists_frame ⟨by omega, inPage⟩ counted
  exact ⟨indexPath, frame, current, same_day, placed⟩

/-- The cell of July 19th, 2020. -/
theorem monthPages_exists_touched_day :
    ∃ indexPath frame,
      monthPages.calculator.monthPositionForIndexPath .month indexPath = .current ∧
      monthPages.calculator.gregorian.timeZone.day
        (monthPages.calculator.dateForIndexPath .month indexPath) = 18462 ∧
      monthPages.layoutAttributesForItem indexPath = some frame ∧
      monthPages.OnPage indexPath.inSection frame ∧
      ∀ x y, frame.Contains x y → monthPages.Touches indexPath x y ∧
        ∀ other, monthPages.Touches other x y → other = indexPath :=
  exists_touched_day monthPages_fits rfl FSCalendarCalculator.unchanged_regular
    (FSCalendarCalculator.unchanged_regular.monthsBegun (TimeZone.fixed_unrepeated 0)) (by decide)
    (by decide) (by decide)

/-! ## The cells in a rectangle -/

/-- No column begins three quarters of a point away from where it would without the half points. -/
theorem Fits.abs_columnEdge_sub_le (fits : layout.Fits) (column : Nat) :
    |layout.columnEdge column - column * layout.estimatedItemSize.width| ≤ 29 / 40 := by
  have bound : column % 7 < 7 := Nat.mod_lt _ (by decide)
  have near := fits.abs_columnStart_sub_le bound.le
  have counted : (column : ℚ) = (column / 7 : Nat) * 7 + (column % 7 : Nat) := by
    exact_mod_cast (Nat.div_add_mod' column 7).symm
  have shifted : layout.columnEdge column - column * layout.estimatedItemSize.width =
      layout.columnStart (column % 7) -
        (column % 7 : Nat) * (layout.collectionViewSize.width / 7) := by
    rw [columnEdge, estimatedItemSize, contentWidth_eq, counted]
    ring
  rw [shifted]
  exact near

theorem Fits.estimated_pos (fits : layout.Fits) :
    0 < layout.collectionViewSize.width ∧ 0 < layout.estimatedItemSize.width ∧
      layout.collectionViewSize.width = 7 * layout.estimatedItemSize.width := by
  have width := fits.width_ge
  rw [estimatedItemSize, contentWidth_eq]
  exact ⟨by linarith, by linarith, by ring⟩

/-- Passing a position to a 32-bit function moves it by less than a fifteenth of a point. -/
theorem abs_toFloat_sub_le {position : ℚ} (nonneg : 0 ≤ position) (le : position ≤ 2 ^ 20) :
    |toFloat position - position| ≤ 1 / 15 := by
  have moved : |toFloat position - position| ≤ position / 2 ^ 24 + 2 ^ (-149 : ℤ) / 2 :=
    FloatFormat.abs_round_sub_le nonneg
  have relative : position / 2 ^ 24 ≤ 1 / 16 := by
    rw [div_le_iff₀ (by norm_num)]
    linarith
  have least : (2 : ℚ) ^ (-149 : ℤ) / 2 ≤ 1 / 15 - 1 / 16 := by norm_num
  linarith

theorem abs_toFloat_div_mul_sub_le {position length : ℚ} (nonneg : 0 ≤ position)
    (le : position ≤ 2 ^ 20) (positive : 0 < length) (length_le : length ≤ 2 ^ 20) :
    |toFloat (position / length) * length - position| ≤ 1 / 15 := by
  have moved : |toFloat (position / length) - position / length| ≤
      position / length / 2 ^ 24 + 2 ^ (-149 : ℤ) / 2 :=
    FloatFormat.abs_round_sub_le (div_nonneg nonneg positive.le)
  have scaled : |toFloat (position / length) * length - position| =
      |toFloat (position / length) - position / length| * length := by
    rw [← abs_of_pos positive, ← abs_mul, abs_of_pos positive, sub_mul,
      div_mul_cancel₀ _ positive.ne']
  have whole : position / length / 2 ^ 24 * length = position / 2 ^ 24 := by
    field_simp
  have relative : position / 2 ^ 24 ≤ 1 / 16 := by
    rw [div_le_iff₀ (by norm_num)]
    linarith
  have least : (2 : ℚ) ^ (-149 : ℤ) / 2 * length ≤ 1 / 15 - 1 / 16 := by
    have huge := mul_le_mul_of_nonneg_left length_le
      (show (0 : ℚ) ≤ 2 ^ (-149 : ℤ) / 2 by positivity)
    refine huge.trans ?_
    norm_num
  have product := mul_le_mul_of_nonneg_right moved positive.le
  rw [scaled]
  linarith

/-- The edge is not so shortly before the end of a page that it can be taken for the end. -/
def Clear (layout : FSCalendarCollectionViewLayout) (edge : ℚ) : Prop :=
  ∀ number : Nat, edge < number * layout.collectionViewSize.width →
    edge + 1 / 10 ≤ number * layout.collectionViewSize.width

/-- A place in the content, with its page and what is passed of it. -/
structure Passed (layout : FSCalendarCollectionViewLayout) (position : ℚ) (number : Nat) :
    Prop where
  floor_eq : ⌊position / layout.collectionViewSize.width⌋ = number
  passed_floor_eq : ⌊toFloat position / layout.collectionViewSize.width⌋ = number
  near : |toFloat position - position| ≤ 1 / 15
  width_eq : toFloat layout.collectionViewSize.width = layout.collectionViewSize.width

/-- What is passed of a clear position is on the position's page. -/
theorem Fits.exists_passed (fits : layout.Fits) (narrow : layout.contentSize.width ≤ 2 ^ 20)
    {position : ℚ} (nonneg : 0 ≤ position) (within : position ≤ layout.contentSize.width)
    (clear : layout.Clear position) : ∃ number, layout.Passed position number := by
  obtain ⟨width, -, -⟩ := fits.estimated_pos
  have near := abs_toFloat_sub_le nonneg (within.trans narrow)
  obtain ⟨number, number_eq⟩ := Int.eq_ofNat_of_zero_le
    (Int.floor_nonneg.mpr (div_nonneg nonneg width.le) :
      0 ≤ ⌊position / layout.collectionViewSize.width⌋)
  have begins : (number : ℚ) * layout.collectionViewSize.width ≤ position := by
    rw [← le_div_iff₀ width]
    exact_mod_cast Int.le_floor.mp number_eq.ge
  have ends : position < (number + 1 : Nat) * layout.collectionViewSize.width := by
    have next := Int.lt_floor_add_one (position / layout.collectionViewSize.width)
    rw [number_eq, div_lt_iff₀ width] at next
    exact_mod_cast next
  refine ⟨number, number_eq, ?_, near, toFloat_of_mem fits.width_mem width.le fits.width_le⟩
  have page_mem : (number : ℚ) * layout.collectionViewSize.width ∈ halfPoints.grid := by
    rw [← nsmul_eq_mul]
    exact halfPoints.grid.nsmul_mem fits.width_mem number
  have page := toFloat_of_mem page_mem (by positivity) (begins.trans (within.trans narrow))
  have lower := toFloat_monotone begins
  have upper := clear (number + 1) ends
  rw [page] at lower
  rw [abs_le] at near
  push_cast at upper
  rw [Int.floor_eq_iff, le_div_iff₀ width, div_lt_iff₀ width]
  push_cast
  exact ⟨lower, by linarith⟩

/-- What `FSCalendarMod` leaves of a clear position is the place of what is passed on the page,
which the clamp keeps. -/
theorem Passed.clamped_eq {position : ℚ} {number : Nat} (passed : layout.Passed position number)
    (width : 0 < layout.collectionViewSize.width) :
    min (max 0 (FSCalendarMod position layout.collectionViewSize.width - sectionInsets.left))
        (layout.collectionViewSize.width - sectionInsets.left) =
      toFloat position - number * layout.collectionViewSize.width ∧
    0 ≤ toFloat position - number * layout.collectionViewSize.width ∧
    toFloat position - number * layout.collectionViewSize.width <
      layout.collectionViewSize.width := by
  have floor := passed.passed_floor_eq
  rw [Int.floor_eq_iff, le_div_iff₀ width, div_lt_iff₀ width] at floor
  push_cast at floor
  obtain ⟨begins, ends⟩ := floor
  have ratio : 0 ≤ toFloat position / layout.collectionViewSize.width :=
    div_nonneg ((mul_nonneg (Nat.cast_nonneg number) width.le).trans begins) width.le
  have none_left : sectionInsets.left = 0 := rfl
  refine ⟨?_, by linarith, by linarith⟩
  rw [FSCalendarMod, passed.width_eq, truncate_of_nonneg ratio, passed.passed_floor_eq, none_left,
    sub_zero, sub_zero, Int.cast_natCast, max_eq_right (by linarith), min_eq_left (by linarith)]

theorem Fits.passed_columns (fits : layout.Fits) {place : ℚ} (nonneg : 0 ≤ place)
    (within : place < layout.collectionViewSize.width) :
    0 ≤ toFloat (place / layout.estimatedItemSize.width) ∧
      toFloat (place / layout.estimatedItemSize.width) ≤ 7 ∧
      |toFloat (place / layout.estimatedItemSize.width) * layout.estimatedItemSize.width - place| ≤
        1 / 15 := by
  obtain ⟨width, estimated, seven⟩ := fits.estimated_pos
  have width_le := fits.width_le
  refine ⟨FloatFormat.round_nonneg (div_nonneg nonneg estimated.le), ?_,
    abs_toFloat_div_mul_sub_le nonneg (by linarith) estimated (by linarith)⟩
  have ratio : place / layout.estimatedItemSize.width ≤ (7 : Nat) := by
    rw [div_le_iff₀ estimated]
    push_cast
    linarith
  have passed := toFloat_monotone ratio
  rwa [toFloat_natCast (by norm_num), Nat.cast_ofNat] at passed

/-- The first column is the one the rectangle begins in, but for the half points and for what is
passed. -/
theorem Fits.startColumn_spec (fits : layout.Fits) (narrow : layout.contentSize.width ≤ 2 ^ 20)
    {rect : CGRect} (nonneg : 0 ≤ rect.x) (within : rect.x ≤ layout.contentSize.width)
    (clear : layout.Clear rect.x) :
    layout.startColumn rect * layout.estimatedItemSize.width ≤ rect.x + 2 / 15 ∧
      rect.x < (layout.startColumn rect + 1) * layout.estimatedItemSize.width + 2 / 15 ∧
      0 ≤ layout.startColumn rect := by
  obtain ⟨width, estimated, seven⟩ := fits.estimated_pos
  obtain ⟨number, passed⟩ := fits.exists_passed narrow nonneg within clear
  obtain ⟨clamped, place_nonneg, place_lt⟩ := passed.clamped_eq width
  have near := abs_le.mp passed.near
  obtain ⟨columns_nonneg, -, columns⟩ := fits.passed_columns place_nonneg place_lt
  rw [abs_le] at columns
  rw [startColumn, truncate_of_nonneg (div_nonneg nonneg width.le), passed.floor_eq, clamped,
    FSCalendarFloor]
  generalize toFloat ((toFloat rect.x - number * layout.collectionViewSize.width) /
    layout.estimatedItemSize.width) = ratio at columns columns_nonneg
  have lower := mul_le_mul_of_nonneg_right (Int.floor_le ratio) estimated.le
  have upper := mul_lt_mul_of_pos_right (Int.lt_floor_add_one ratio) estimated
  have whole : 0 ≤ ⌊ratio⌋ := Int.floor_nonneg.mpr columns_nonneg
  rw [seven] at columns
  push_cast
  exact ⟨by linarith, by linarith, by omega⟩

theorem Fits.toFloat_sections (fits : layout.Fits) (narrow : layout.contentSize.width ≤ 2 ^ 20)
    {number : Nat} (le : number ≤ layout.numberOfSections + 1) : toFloat number = number := by
  have width := fits.width_ge
  have product : (layout.numberOfSections : ℚ) * 20 ≤ 2 ^ 20 := by
    have wider := mul_le_mul_of_nonneg_right width (Nat.cast_nonneg layout.numberOfSections)
    simp only [contentSize] at narrow
    linarith
  have product' : layout.numberOfSections * 20 ≤ 2 ^ 20 := by exact_mod_cast product
  exact toFloat_natCast (by omega)

theorem Fits.passed_pages (fits : layout.Fits) (narrow : layout.contentSize.width ≤ 2 ^ 20)
    {position : ℚ} {number : Nat} (nonneg : 0 ≤ position)
    (within : position ≤ layout.contentSize.width) (passed : layout.Passed position number) :
    (number : ℚ) ≤ toFloat (position / layout.collectionViewSize.width) ∧
      toFloat (position / layout.collectionViewSize.width) ≤ number + 1 ∧
      toFloat (position / layout.collectionViewSize.width) ≤ layout.numberOfSections ∧
      number ≤ layout.numberOfSections ∧
      (number = layout.numberOfSections →
        toFloat (position / layout.collectionViewSize.width) = number) ∧
      |toFloat (position / layout.collectionViewSize.width) * layout.collectionViewSize.width -
        position| ≤ 1 / 15 := by
  obtain ⟨width, -, -⟩ := fits.estimated_pos
  have floor := passed.floor_eq
  rw [Int.floor_eq_iff] at floor
  push_cast at floor
  have pages : position / layout.collectionViewSize.width ≤ layout.numberOfSections := by
    rw [div_le_iff₀ width]
    exact within.trans_eq (mul_comm _ _)
  have number_le : number ≤ layout.numberOfSections := by exact_mod_cast floor.1.trans pages
  have first := toFloat_monotone floor.1
  have last := toFloat_monotone pages
  have next : toFloat (position / layout.collectionViewSize.width) ≤
      toFloat (number + 1 : Nat) := by
    apply toFloat_monotone
    push_cast
    exact floor.2.le
  rw [fits.toFloat_sections narrow (by omega)] at first last next
  push_cast at next
  refine ⟨first, next, last, number_le, ?_,
    abs_toFloat_div_mul_sub_le nonneg (within.trans narrow) width fits.width_le⟩
  rintro rfl
  exact le_antisymm last first

theorem FSCalendarMod_one {value : ℚ} (nonneg : 0 ≤ toFloat value) :
    FSCalendarMod value 1 = toFloat value - ⌊toFloat value⌋ := by
  have one : toFloat 1 = 1 := by exact_mod_cast toFloat_natCast (show 1 ≤ 2 ^ 24 by norm_num)
  rw [FSCalendarMod, one, div_one, mul_one, truncate_of_nonneg nonneg]

/-- A remainder counts as none only if it is next to nothing: a hundred epsilons of it are less than
it. -/
theorem le_FLT_MIN_of_le_max {remainder : ℚ} (nonneg : 0 ≤ remainder)
    (none_left : remainder ≤ max (100 * FLT_EPSILON * |remainder|) FLT_MIN) :
    remainder ≤ FLT_MIN := by
  rcases le_max_iff.mp none_left with part | little
  · rw [abs_of_nonneg nonneg] at part
    have epsilon : 100 * FLT_EPSILON * remainder ≤ 1 / 2 * remainder :=
      mul_le_mul_of_nonneg_right (by norm_num [FLT_EPSILON]) nonneg
    have positive : 0 ≤ FLT_MIN := by norm_num [FLT_MIN]
    linarith
  · exact little

theorem Fits.FLT_MIN_mul_le (fits : layout.Fits) :
    FLT_MIN * layout.collectionViewSize.width ≤ 1 / 15 := by
  have huge := mul_le_mul_of_nonneg_left fits.width_le
    (show 0 ≤ FLT_MIN by norm_num [FLT_MIN])
  refine huge.trans ?_
  norm_num [FLT_MIN]

/-- The last column is the one the rectangle ends in, but for the half points and for what is passed
and a remainder that counts as none. -/
theorem Fits.endColumn_spec (fits : layout.Fits) (narrow : layout.contentSize.width ≤ 2 ^ 20)
    {rect : CGRect} (nonneg : 0 ≤ rect.x + rect.width)
    (within : rect.x + rect.width ≤ layout.contentSize.width)
    (clear : layout.Clear (rect.x + rect.width)) :
    layout.endColumn rect * layout.estimatedItemSize.width < rect.x + rect.width + 2 / 15 ∧
      rect.x + rect.width ≤ (layout.endColumn rect + 1) * layout.estimatedItemSize.width +
        2 / 15 ∧
      layout.endColumn rect + 1 ≤ layout.numberOfSections * 7 := by
  obtain ⟨width, estimated, seven⟩ := fits.estimated_pos
  obtain ⟨number, passed⟩ := fits.exists_passed narrow nonneg within clear
  obtain ⟨clamped, place_nonneg, place_lt⟩ := passed.clamped_eq width
  obtain ⟨first, next, last, number_le, all, pages⟩ :=
    fits.passed_pages narrow nonneg within passed
  have near := abs_le.mp passed.near
  simp only [endColumn, clamped]
  generalize rect.x + rect.width = maxX at *
  rw [FSCalendarMod_one ((Nat.cast_nonneg number).trans first), FSCalendarFloor]
  generalize toFloat (maxX / layout.collectionViewSize.width) = ratio at *
  have begins := Int.floor_le ratio
  rw [abs_le] at pages
  have flt_min := fits.FLT_MIN_mul_le
  split
  case isTrue none_left =>
    have little := le_FLT_MIN_of_le_max (sub_nonneg.mpr begins) none_left
    have counted : ⌊ratio⌋ ≤ layout.numberOfSections := by exact_mod_cast begins.trans last
    have below := mul_le_mul_of_nonneg_right begins width.le
    have sliver := mul_le_mul_of_nonneg_right little width.le
    generalize ⌊ratio⌋ = whole at counted below sliver
    rw [seven] at below sliver flt_min pages
    push_cast
    exact ⟨by linarith, by linarith, by omega⟩
  case isFalse some_left =>
    have positive : 0 < ratio - ⌊ratio⌋ := by
      by_contra none_left
      exact some_left ((not_lt.mp none_left).trans
        (le_max_of_le_right (by norm_num [FLT_MIN])))
    have same : ⌊ratio⌋ = number := by
      rcases next.lt_or_eq with within_page | page
      · rw [Int.floor_eq_iff, Int.cast_natCast]
        exact ⟨first, within_page⟩
      · rw [page, Int.floor_add_one, Int.floor_natCast] at positive
        push_cast at positive
        linarith
    have inSections : number < layout.numberOfSections := by
      refine number_le.lt_of_ne ?_
      intro whole
      rw [same, all whole] at positive
      push_cast at positive
      linarith
    obtain ⟨-, columns_le, columns⟩ := fits.passed_columns place_nonneg place_lt
    rw [abs_le] at columns
    rw [same, FSCalendarCeil]
    generalize toFloat ((toFloat maxX - number * layout.collectionViewSize.width) /
      layout.estimatedItemSize.width) = columnRatio at columns columns_le
    have lower := mul_le_mul_of_nonneg_right (Int.le_ceil columnRatio) estimated.le
    have upper := mul_lt_mul_of_pos_right (Int.ceil_lt_add_one columnRatio) estimated
    have atMost : ⌈columnRatio⌉ ≤ 7 := Int.ceil_le.mpr (by exact_mod_cast columns_le)
    generalize ⌈columnRatio⌉ = countDelta at lower upper atMost
    rw [seven] at columns
    push_cast
    exact ⟨by linarith, by linarith, by omega⟩

theorem mem_columns_iff {startColumn endColumn : ℤ} (nonneg : 0 ≤ startColumn) {column : Nat} :
    column ∈ List.range' startColumn.toNat (endColumn + 1 - startColumn).toNat ↔
      startColumn ≤ column ∧ column ≤ endColumn := by
  rw [List.mem_range'_1]
  omega

theorem mem_columnPaths_iff {indexPath : IndexPath} {column : Nat} :
    indexPath ∈ layout.columnPaths column ↔
      columnOf indexPath = column ∧ indexPath.item / 7 < layout.numberOfRows := by
  rw [columnPaths, List.mem_map]
  constructor
  · rintro ⟨row, counted, rfl⟩
    rw [List.mem_range] at counted
    simp only [columnOf]
    omega
  · rintro ⟨rfl, row⟩
    refine ⟨indexPath.item / 7, List.mem_range.mpr row, ?_⟩
    cases indexPath
    simp only [columnOf, IndexPath.mk.injEq]
    omega

theorem nodup_indexPathsInRect (rect : CGRect) : (layout.indexPathsInRect rect).Nodup := by
  rw [indexPathsInRect, List.nodup_flatMap]
  constructor
  · intro column _
    refine List.nodup_range.map fun row other same => ?_
    simp only [IndexPath.mk.injEq] at same
    omega
  · refine List.Pairwise.imp (fun differs => ?_) List.nodup_range'
    intro indexPath first second
    have same := (mem_columnPaths_iff.mp first).1.symm.trans (mem_columnPaths_iff.mp second).1
    exact differs same

theorem mem_indexPathsInRect_iff {rect : CGRect} (nonneg : 0 ≤ layout.startColumn rect)
    {indexPath : IndexPath} :
    indexPath ∈ layout.indexPathsInRect rect ↔
      layout.startColumn rect ≤ columnOf indexPath ∧ columnOf indexPath ≤ layout.endColumn rect ∧
        indexPath.item / 7 < layout.numberOfRows := by
  rw [indexPathsInRect, List.mem_flatMap]
  constructor
  · rintro ⟨column, between, listed⟩
    obtain ⟨rfl, row⟩ := mem_columnPaths_iff.mp listed
    obtain ⟨first, last⟩ := (mem_columns_iff nonneg).mp between
    exact ⟨first, last, row⟩
  · rintro ⟨first, last, row⟩
    exact ⟨_, (mem_columns_iff nonneg).mpr ⟨first, last⟩, mem_columnPaths_iff.mpr ⟨rfl, row⟩⟩

theorem mapM_eq_some_map {Element Value : Type} {list : List Element}
    {read : Element → Option Value} {value : Element → Value}
    (found : ∀ element ∈ list, read element = some (value element)) :
    list.mapM read = some (list.map value) := by
  induction list with
  | nil => rfl
  | cons element list ih =>
      obtain ⟨first, rest⟩ := List.forall_mem_cons.mp found
      rw [List.mapM_cons, first, ih rest]
      rfl

theorem Fits.listed_iff (fits : layout.Fits) (narrow : layout.contentSize.width ≤ 2 ^ 20)
    {rect : CGRect} (nonneg : 0 ≤ rect.x) (width : 0 ≤ rect.width)
    (within : rect.x + rect.width ≤ layout.contentSize.width) (clear : layout.Clear rect.x)
    (clear_end : layout.Clear (rect.x + rect.width))
    {indexPath : IndexPath} :
    (indexPath ∈ layout.indexPathsInRect rect → layout.IsCell indexPath ∧
      (layout.frameOf indexPath).x < rect.x + rect.width + 7 / 8 ∧
      rect.x < (layout.frameOf indexPath).x + (layout.frameOf indexPath).width + 7 / 8) ∧
    (layout.IsCell indexPath → (layout.frameOf indexPath).x + 7 / 8 < rect.x + rect.width →
      rect.x + 7 / 8 < (layout.frameOf indexPath).x + (layout.frameOf indexPath).width →
        indexPath ∈ layout.indexPathsInRect rect) := by
  obtain ⟨-, estimated, -⟩ := fits.estimated_pos
  obtain ⟨first, next, started⟩ := fits.startColumn_spec narrow nonneg (by linarith) clear
  obtain ⟨last, ended, counted⟩ :=
    fits.endColumn_spec narrow (add_nonneg nonneg width) within clear_end
  have begins := abs_le.mp (fits.abs_columnEdge_sub_le (columnOf indexPath))
  have ends := abs_le.mp (fits.abs_columnEdge_sub_le (columnOf indexPath + 1))
  push_cast at ends
  rw [mem_indexPathsInRect_iff started, IsCell, item_lt_iff, numberOfRows_eq]
  simp only [frameOf, add_sub_cancel]
  constructor
  · rintro ⟨from_start, to_end, row⟩
    have lower : (layout.startColumn rect : ℚ) ≤ columnOf indexPath := by exact_mod_cast from_start
    have upper : (columnOf indexPath : ℚ) ≤ layout.endColumn rect := by exact_mod_cast to_end
    have lower' := mul_le_mul_of_nonneg_right lower estimated.le
    have upper' := mul_le_mul_of_nonneg_right upper estimated.le
    have inSections : indexPath.inSection < layout.numberOfSections := by
      simp only [columnOf] at to_end
      omega
    exact ⟨⟨inSections, row⟩, by linarith, by linarith⟩
  · rintro ⟨inSections, row⟩ meetsEnd meetsStart
    refine ⟨?_, ?_, row⟩
    · have before : (layout.startColumn rect : ℚ) * layout.estimatedItemSize.width <
          (columnOf indexPath + 1) * layout.estimatedItemSize.width := by linarith
      have lt : (layout.startColumn rect : ℚ) < columnOf indexPath + 1 :=
        lt_of_mul_lt_mul_right before estimated.le
      have lt : layout.startColumn rect < columnOf indexPath + 1 := by exact_mod_cast lt
      omega
    · have after : (columnOf indexPath : ℚ) * layout.estimatedItemSize.width <
          (layout.endColumn rect + 1) * layout.estimatedItemSize.width := by linarith
      have lt : (columnOf indexPath : ℚ) < layout.endColumn rect + 1 :=
        lt_of_mul_lt_mul_right after estimated.le
      have lt : (columnOf indexPath : ℤ) < layout.endColumn rect + 1 := by exact_mod_cast lt
      omega

theorem Fits.frameOf_inContent (fits : layout.Fits) {indexPath : IndexPath}
    (isCell : layout.IsCell indexPath) :
    0 ≤ (layout.frameOf indexPath).x ∧ 7 / 8 < (layout.frameOf indexPath).width ∧
      (layout.frameOf indexPath).x + (layout.frameOf indexPath).width ≤
        layout.contentSize.width := by
  have wide := fits.columnEdge_add_lt (columnOf indexPath)
  have first := fits.columnEdge_monotone (Nat.zero_le (columnOf indexPath))
  have counted : columnOf indexPath + 1 ≤ layout.numberOfSections * 7 := by
    have inSections := isCell.1
    simp only [columnOf]
    omega
  have last := fits.columnEdge_monotone counted
  have zero : layout.columnEdge 0 = 0 := by simp [columnEdge]
  have all : layout.columnEdge (layout.numberOfSections * 7) = layout.contentSize.width := by
    rw [columnEdge, Nat.mul_div_cancel _ (by decide), Nat.mul_mod_left, columnStart_zero, add_zero,
      mul_comm, contentSize]
  rw [zero] at first
  rw [all] at last
  simp only [frameOf, add_sub_cancel]
  exact ⟨first, by linarith, last⟩

/-- What is left of a rectangle is in the content and begins and ends with one of them. -/
theorem clipped_eq_some {rect part : CGRect} (found : layout.clipped rect = some part) :
    part.x = max rect.x 0 ∧ 0 ≤ part.width ∧
      part.x + part.width = min (rect.x + rect.width) layout.contentSize.width := by
  obtain ⟨met, -⟩ := Option.filter_eq_some_iff.mp found
  simp only [CGRect.intersection, zero_add] at met
  split at met
  case isTrue => cases met
  case isFalse some_left =>
    cases met
    rw [not_or, not_lt, not_lt] at some_left
    exact ⟨rfl, sub_nonneg.mpr some_left.1, add_sub_cancel _ _⟩

theorem clipped_eq_none {rect : CGRect} (apart : layout.clipped rect = none) :
    min (rect.x + rect.width) layout.contentSize.width ≤ max rect.x 0 ∨
      min (rect.y + rect.height) layout.contentSize.height ≤ max rect.y 0 := by
  by_contra meets
  rw [not_or, not_le, not_le] at meets
  have wide := (sub_pos.mpr meets.1).ne'
  have high := (sub_pos.mpr meets.2).ne'
  simp only [clipped, CGRect.intersection, zero_add] at apart
  rw [if_neg (not_or.mpr ⟨meets.1.le.not_gt, meets.2.le.not_gt⟩), Option.filter_some,
    if_pos (by simp [CGRect.isEmpty, wide, high])] at apart
  cases apart

theorem Fits.exists_clipped (fits : layout.Fits) {rect : CGRect} (width : 0 < rect.width)
    (height : 0 < rect.height) {indexPath : IndexPath} (isCell : layout.IsCell indexPath)
    (meetsEnd : (layout.frameOf indexPath).x + 7 / 8 < rect.x + rect.width)
    (meetsStart : rect.x + 7 / 8 <
      (layout.frameOf indexPath).x + (layout.frameOf indexPath).width)
    (lower : 0 < rect.y + rect.height) (upper : rect.y < layout.contentSize.height) :
    ∃ part, layout.clipped rect = some part := by
  have high : 0 < layout.contentSize.height := by
    have content := fits.contentHeight_pos
    simp only [contentHeight, sectionInsets] at content
    rw [contentSize]
    linarith
  obtain ⟨first, wide, last⟩ := fits.frameOf_inContent isCell
  refine Option.ne_none_iff_exists'.mp fun apart => ?_
  rcases clipped_eq_none apart with beside | above
  · rw [min_le_iff, le_max_iff, le_max_iff] at beside
    rcases beside with (end_start | end_zero) | (all_start | all_zero)
    all_goals linarith
  · rw [min_le_iff, le_max_iff, le_max_iff] at above
    rcases above with (end_start | end_zero) | (all_start | all_zero)
    all_goals linarith

theorem Fits.clear_of_clipped (fits : layout.Fits) {rect part : CGRect}
    (found : layout.clipped rect = some part) (clear : layout.Clear rect.x)
    (clear_end : layout.Clear (rect.x + rect.width)) :
    layout.Clear part.x ∧ layout.Clear (part.x + part.width) := by
  have width := fits.width_ge
  obtain ⟨begins, -, ends⟩ := clipped_eq_some found
  -- the content begins with a page and ends with one
  have pages : ∀ page : Nat, layout.Clear (page * layout.collectionViewSize.width) := by
    intro page number later
    have lt : (page : ℚ) < number := lt_of_mul_lt_mul_right later (by linarith)
    have next : (page : ℚ) + 1 ≤ number := by
      exact_mod_cast Nat.succ_le_of_lt (by exact_mod_cast lt)
    have apart := mul_le_mul_of_nonneg_right next (show 0 ≤ layout.collectionViewSize.width by
      linarith)
    linarith
  rw [ends, begins]
  constructor
  · rcases max_cases rect.x 0 with ⟨same, -⟩ | ⟨same, -⟩
    · rwa [same]
    · simpa [same] using pages 0
  · rcases min_cases (rect.x + rect.width) layout.contentSize.width with ⟨same, -⟩ | ⟨same, -⟩
    · rwa [same]
    · rw [same, contentSize, mul_comm]
      exact pages layout.numberOfSections

theorem Fits.listed_iff_of_clipped (fits : layout.Fits)
    (narrow : layout.contentSize.width ≤ 2 ^ 20) {rect part : CGRect}
    (found : layout.clipped rect = some part) (clear : layout.Clear rect.x)
    (clear_end : layout.Clear (rect.x + rect.width)) {indexPath : IndexPath} :
    (indexPath ∈ layout.indexPathsInRect part → layout.IsCell indexPath ∧
      (layout.frameOf indexPath).x < rect.x + rect.width + 7 / 8 ∧
      rect.x < (layout.frameOf indexPath).x + (layout.frameOf indexPath).width + 7 / 8) ∧
    (layout.IsCell indexPath → (layout.frameOf indexPath).x + 7 / 8 < rect.x + rect.width →
      rect.x + 7 / 8 < (layout.frameOf indexPath).x + (layout.frameOf indexPath).width →
        indexPath ∈ layout.indexPathsInRect part) := by
  obtain ⟨begins, width, ends⟩ := clipped_eq_some found
  have nonneg : 0 ≤ part.x := begins ▸ le_max_right _ _
  have within : part.x + part.width ≤ layout.contentSize.width := ends ▸ min_le_right _ _
  have later : rect.x ≤ part.x := begins ▸ le_max_left _ _
  have sooner : part.x + part.width ≤ rect.x + rect.width := ends ▸ min_le_left _ _
  obtain ⟨clear_part, clear_part_end⟩ := fits.clear_of_clipped found clear clear_end
  obtain ⟨sound, complete⟩ := @Fits.listed_iff layout fits narrow part nonneg width within
    clear_part clear_part_end indexPath
  constructor
  · intro listed
    obtain ⟨isCell, meetsEnd, meetsStart⟩ := sound listed
    exact ⟨isCell, by linarith, by linarith⟩
  · intro isCell meetsEnd meetsStart
    obtain ⟨first, wide, last⟩ := fits.frameOf_inContent isCell
    refine complete isCell ?_ ?_
    · rw [ends]
      exact lt_min meetsEnd (by linarith)
    · rw [begins, ← max_add_add_right]
      exact max_lt meetsStart (by linarith)

/-- The layout reads no array beyond its end. -/
theorem Fits.layoutAttributesForElementsInRect_eq (fits : layout.Fits)
    (narrow : layout.contentSize.width ≤ 2 ^ 20) {rect : CGRect} (clear : layout.Clear rect.x)
    (clear_end : layout.Clear (rect.x + rect.width)) :
    layout.layoutAttributesForElementsInRect rect =
      some (((layout.clipped rect).elim [] layout.indexPathsInRect).map fun indexPath =>
        (indexPath, layout.frameOf indexPath)) := by
  unfold layoutAttributesForElementsInRect
  cases found : layout.clipped rect with
  | none => rfl
  | some part =>
      refine mapM_eq_some_map fun indexPath listed => ?_
      have isCell := ((fits.listed_iff_of_clipped narrow found clear clear_end).1 listed).1
      rw [fits.layoutAttributesForItem_eq isCell.2, Option.map_some]

/-- Whatever rectangle the layout is asked for that has clear edges, it lists cells that there are,
each once and none seven eighths of a point away; of those it leaves out only what shows by no more
than that. -/
theorem layoutAttributesForElementsInRect_lists (fits : layout.Fits)
    (narrow : layout.contentSize.width ≤ 2 ^ 20) {rect : CGRect} (width : 0 < rect.width)
    (height : 0 < rect.height) (clear : layout.Clear rect.x)
    (clear_end : layout.Clear (rect.x + rect.width)) :
    ∃ listed, layout.layoutAttributesForElementsInRect rect = some listed ∧
      (listed.map Prod.fst).Nodup ∧
      (∀ indexPath frame, (indexPath, frame) ∈ listed → layout.IsCell indexPath ∧
        layout.layoutAttributesForItem indexPath = some frame ∧
        frame.x < rect.x + rect.width + 7 / 8 ∧ rect.x < frame.x + frame.width + 7 / 8) ∧
      ∀ indexPath frame, layout.IsCell indexPath →
        layout.layoutAttributesForItem indexPath = some frame →
        frame.x + 7 / 8 < rect.x + rect.width → rect.x + 7 / 8 < frame.x + frame.width →
        0 < rect.y + rect.height → rect.y < layout.contentSize.height →
        (indexPath, frame) ∈ listed := by
  refine ⟨_, fits.layoutAttributesForElementsInRect_eq narrow clear clear_end, ?_, ?_, ?_⟩
  · rw [List.map_map]
    cases layout.clipped rect with
    | none => exact List.nodup_nil
    | some part => exact (List.map_id _).symm ▸ nodup_indexPathsInRect part
  · intro indexPath frame member
    obtain ⟨listed, found, same⟩ := List.mem_map.mp member
    cases same
    cases clipped : layout.clipped rect with
    | none =>
        rw [clipped] at found
        cases found
    | some part =>
        rw [clipped] at found
        obtain ⟨isCell, near⟩ :=
          (fits.listed_iff_of_clipped narrow clipped clear clear_end).1 found
        exact ⟨isCell, fits.layoutAttributesForItem_eq isCell.2, near⟩
  · intro indexPath frame isCell found meetsEnd meetsStart lower upper
    rw [fits.layoutAttributesForItem_eq isCell.2] at found
    cases found
    obtain ⟨part, clipped⟩ :=
      fits.exists_clipped width height isCell meetsEnd meetsStart lower upper
    refine List.mem_map.mpr ⟨indexPath, ?_, rfl⟩
    rw [clipped]
    exact (fits.listed_iff_of_clipped narrow clipped clear clear_end).2 isCell meetsEnd meetsStart

theorem monthPages_clear {page : Nat} : monthPages.Clear (page * 375) := by
  intro number later
  have width : monthPages.collectionViewSize.width = 375 := rfl
  rw [width] at later ⊢
  have lt : (page : ℚ) < number := lt_of_mul_lt_mul_right later (by norm_num)
  have next : (page : ℚ) + 1 ≤ number := by exact_mod_cast Nat.succ_le_of_lt (by exact_mod_cast lt)
  linarith

/-- The page of January 2095. -/
theorem monthPages_layoutAttributesForElementsInRect_lists :
    ∃ listed, monthPages.layoutAttributesForElementsInRect ⟨562500, 0, 375, 262⟩ = some listed ∧
      (listed.map Prod.fst).Nodup ∧
      (∀ indexPath frame, (indexPath, frame) ∈ listed → monthPages.IsCell indexPath ∧
        monthPages.layoutAttributesForItem indexPath = some frame ∧
        frame.x < 562500 + 375 + 7 / 8 ∧ 562500 < frame.x + frame.width + 7 / 8) ∧
      ∀ indexPath frame, monthPages.IsCell indexPath →
        monthPages.layoutAttributesForItem indexPath = some frame →
        frame.x + 7 / 8 < 562500 + 375 → 562500 + 7 / 8 < frame.x + frame.width →
        (0 : ℚ) < 0 + 262 → (0 : ℚ) < 262 →
        (indexPath, frame) ∈ listed := by
  have width : (0 : ℚ) < 375 := by norm_num
  have height : (0 : ℚ) < 262 := by norm_num
  have narrow : monthPages.contentSize.width ≤ 2 ^ 20 := by norm_num [contentSize, monthPages]
  have clear : monthPages.Clear 562500 := by
    have page := @monthPages_clear 1500
    norm_num at page
    exact page
  have clear_end : monthPages.Clear (562500 + 375) := by
    have page := @monthPages_clear 1501
    norm_num at page ⊢
    exact page
  exact layoutAttributesForElementsInRect_lists monthPages_fits narrow width height clear clear_end

-- A thirty-second of a point before the end of that page no edge is clear: no cell is listed.
example :
    monthPages.layoutAttributesForElementsInRect ⟨562500, 0, 375 - 1 / 32, 262⟩ = some [] := by
  decide +kernel

end FSCalendarCollectionViewLayout

end Celeste
