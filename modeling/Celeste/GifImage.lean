import Celeste.Geometry
import Celeste.Library.Fallible
import Celeste.Library.FloatingPoint
import Celeste.Library.Schedules
import Mathlib.Data.List.Pairwise

/-!
# The plan of a GIF

`UIImage` reads the delays of a GIF's frames and chooses at how many refreshes of the display one
image is shown, and which frame at each image.  It takes the slowest rate of a table that loses few
enough frames, and at that rate shows each frame from the image at which the one before it ends.
-/

namespace Celeste

open FloatFormat (binary32)

/-! ## Delay times -/

/-- What is thrown for a GIF without what the frames need. -/
inductive GifParseError
  | noImages
  | noProperties
  | noGifDictionary
  | noTimingInfo
  deriving DecidableEq

/-- The delays in a frame's dictionary of a GIF, in seconds. -/
structure GifDictionary where
  unclampedDelayTime : Option binary32.Number
  delayTime : Option binary32.Number

/-- The properties of a frame, if it has any, and their dictionary of a GIF, if there is one. -/
abbrev FrameProperties := Option (Option GifDictionary)

namespace UIImage

/-- The constant of `delayTimes`. -/
def EPS : ℚ := binary32.round (1 / 1000000)

/-- The delay of one frame. -/
def frameDelay (dictionary : GifDictionary) : Except GifParseError binary32.Number :=
  match dictionary.unclampedDelayTime.filter (fun value => EPS ≤ value.1) with
  | some value => .ok value
  | none =>
      match dictionary.delayTime with
      | some value => .ok value
      | none => .error .noTimingInfo

/-- `delayTimes`: all frames are asked for their properties, then all for their dictionary, then all
for their delay. -/
def delayTimes (frames : List FrameProperties) : Except GifParseError (List binary32.Number) :=
  if frames.length = 0 then
    .error .noImages
  else do
    let imageProperties ← Fallible.collect
      (fun properties : FrameProperties => properties.elim (.error .noProperties) .ok) [] frames
    let frameProperties ← Fallible.collect
      (fun dictionary : Option GifDictionary => dictionary.elim (.error .noGifDictionary) .ok) []
      imageProperties
    Fallible.collect frameDelay [] frameProperties

/-! ## Rates -/

def displayRefreshFactors : List Nat := [60, 30, 20, 15, 12, 10, 6, 5, 4, 3, 2, 1]

def maxFramePerSecond : Nat := 60

/-- How long one image is shown. -/
def displayRefreshDelayTime (factor : Nat) : ℚ :=
  binary32.div 1 (maxFramePerSecond / factor : Nat)

/-- When each frame ends: the delays are added up from the second on. -/
def frameEnds : List ℚ → List ℚ
  | [] => []
  | delay :: delays => delay :: rest delay delays
where
  /-- The ends of the frames after one that ends at `previous`. -/
  rest (previous : ℚ) : List ℚ → List ℚ
    | [] => []
    | delay :: delays => binary32.add delay previous :: rest (binary32.add delay previous) delays

/-- At which image each frame ends. -/
def displayPosition (delays : List ℚ) (factor : Nat) : List ℤ :=
  (frameEnds delays).map fun frameEnd =>
    truncate (binary32.div frameEnd (displayRefreshDelayTime factor))

/-- The frames that end where the one before them does, counted in a `Float`. -/
def countRepeats (frameLoseCount : ℚ) (previous : ℤ) : List ℤ → ℚ
  | [] => frameLoseCount
  | position :: positions =>
      countRepeats (if position = previous then binary32.add frameLoseCount 1 else frameLoseCount)
        position positions

/-- The frames that are lost at a rate. -/
def frameLoseCount : List ℤ → ℚ
  | [] => 0
  | position :: positions =>
      if position = 0 then binary32.add (countRepeats 0 position positions) 1
      else countRepeats 0 position positions

/-- How many frames may be lost. -/
def allowedLoss (count : Nat) (levelOfIntegrity : ℚ) : ℚ :=
  binary32.mul (binary32.round count) (binary32.sub 1 levelOfIntegrity)

/-- The loop that fills the order: images from `newIndex` on, frames from `oldIndex` on. -/
def fillDisplayOrder (displayPosition : List ℤ) (imageCount : ℤ) (oldIndex : Nat) (newIndex : ℤ)
    (displayOrder : List Nat) : List Nat :=
  match _placed : displayPosition[oldIndex]? with
  | none => displayOrder
  | some position =>
      if newIndex ≤ imageCount then
        if newIndex ≤ position then
          fillDisplayOrder displayPosition imageCount oldIndex (newIndex + 1)
            (displayOrder ++ [oldIndex])
        else
          fillDisplayOrder displayPosition imageCount (oldIndex + 1) newIndex displayOrder
      else
        displayOrder
termination_by (imageCount + 1 - newIndex).toNat + (displayPosition.length - oldIndex)
decreasing_by
  · omega
  · have bound := (List.getElem?_eq_some_iff.mp _placed).1
    omega

/-- What a `UIImage` keeps of a GIF's timing. -/
structure GifPlan where
  imageCount : Option ℤ
  displayRefreshFactor : Nat
  displayOrder : List Nat

/-- The plan at a rate. -/
def planAt (delays : List ℚ) (factor : Nat) : GifPlan where
  imageCount := (displayPosition delays factor).getLast?
  displayRefreshFactor := factor
  displayOrder := fillDisplayOrder (displayPosition delays factor)
    ((displayPosition delays factor).getLast?.getD 0) 0 1 []

/-- The loop over the rates: the last one is taken in any case. -/
def chooseFactor (delays : List ℚ) (levelOfIntegrity : ℚ) : List Nat → Option Nat
  | [] => none
  | factor :: factors =>
      if frameLoseCount (displayPosition delays factor) ≤
            allowedLoss (displayPosition delays factor).length levelOfIntegrity ∨ factors = [] then
        some factor
      else
        chooseFactor delays levelOfIntegrity factors

/-- `calculateFrameDelay`. -/
def calculateFrameDelay (delaysArray : List binary32.Number) (levelOfIntegrity : ℚ) :
    Option GifPlan :=
  let delays := delaysArray.map Subtype.val
  (chooseFactor delays (max 0 (min 1 levelOfIntegrity)) displayRefreshFactors).map (planAt delays)

/-- `setGifFromData`, of a source that could be created. -/
def setGifFromData (frames : List FrameProperties) (levelOfIntegrity : ℚ) :
    Except GifParseError (Option GifPlan) := do
  let delays ← delayTimes frames
  .ok (calculateFrameDelay delays levelOfIntegrity)

/-! ## Frames and delays -/

theorem eq_map_some {Value : Type} {error : GifParseError} {options : List (Option Value)}
    {values : List Value}
    (ok : Fallible.collect (fun option : Option Value => option.elim (.error error) .ok) []
      options = .ok values) :
    options = values.map some := by
  rw [Fallible.collect_nil_eq_ok_iff] at ok
  induction options generalizing values with
  | nil => rw [List.map_eq_nil_iff.mp ok.symm, List.map_nil]
  | cons option options ih =>
      obtain ⟨value, rest, rfl, head, tail⟩ := List.map_eq_cons_iff.mp ok.symm
      cases option with
      | none => cases head
      | some found =>
          cases head
          rw [List.map_cons, ih tail.symm]

theorem delayTimes_ok {frames : List FrameProperties} {delays : List binary32.Number}
    (ok : delayTimes frames = .ok delays) :
    delays ≠ [] ∧ delays.length = frames.length ∧
      ∀ delay ∈ delays, ∃ dictionary : GifDictionary, some (some dictionary) ∈ frames ∧
        (dictionary.unclampedDelayTime = some delay ∨ dictionary.delayTime = some delay) := by
  rw [delayTimes] at ok
  split at ok
  case isTrue => cases ok
  case isFalse some_frame =>
    obtain ⟨properties, first, ok⟩ := Fallible.bind_eq_ok_iff.mp ok
    obtain ⟨dictionaries, second, third⟩ := Fallible.bind_eq_ok_iff.mp ok
    have frames_eq := eq_map_some first
    have properties_eq := eq_map_some second
    rw [Fallible.collect_nil_eq_ok_iff] at third
    have length : dictionaries.length = delays.length := by
      have lengths := congrArg List.length third
      rwa [List.length_map, List.length_map] at lengths
    subst frames_eq properties_eq
    simp only [List.length_map] at some_frame ⊢
    refine ⟨?_, length.symm, ?_⟩
    · rintro rfl
      exact some_frame length
    · intro delay member
      have mapped : Except.ok delay ∈ dictionaries.map frameDelay :=
        third ▸ List.mem_map_of_mem member
      obtain ⟨dictionary, found, read⟩ := List.mem_map.mp mapped
      refine ⟨dictionary, List.mem_map_of_mem (List.mem_map_of_mem found), ?_⟩
      simp only [frameDelay] at read
      split at read
      case h_1 value filtered =>
        cases read
        exact .inl (Option.filter_eq_some_iff.mp filtered).1
      case h_2 =>
        split at read
        case h_1 value clamped =>
          cases read
          exact .inr clamped
        case h_2 => cases read

/-! ## Where the frames end -/

theorem frameEnds_rest_isChain {previous : ℚ} {delays : List ℚ}
    (represents : binary32.Represents previous) (nonneg : ∀ delay ∈ delays, 0 ≤ delay) :
    (previous :: frameEnds.rest previous delays).IsChain (· ≤ ·) := by
  induction delays generalizing previous with
  | nil => exact List.IsChain.singleton previous
  | cons delay delays ih =>
      obtain ⟨head, tail⟩ := List.forall_mem_cons.mp nonneg
      refine List.isChain_cons_cons.mpr ⟨?_, ih (FloatFormat.represents_round _) tail⟩
      calc previous = binary32.round previous := represents.round.symm
        _ ≤ binary32.add delay previous := FloatFormat.round_monotone (by linarith)

theorem truncate_monotone : Monotone truncate := by
  intro left right le
  simp only [truncate]
  split <;> split
  case isTrue.isTrue => exact Int.ceil_le_ceil le
  case isTrue.isFalse negative nonneg =>
    have upper : ⌈left⌉ ≤ 0 := Int.ceil_le.mpr (by exact_mod_cast negative.le)
    exact upper.trans (Int.floor_nonneg.mpr (not_lt.mp nonneg))
  case isFalse.isTrue nonneg negative => exact absurd (le.trans_lt negative) nonneg
  case isFalse.isFalse => exact Int.floor_le_floor le

theorem displayRefreshDelayTime_nonneg (factor : Nat) : 0 ≤ displayRefreshDelayTime factor :=
  FloatFormat.round_nonneg (div_nonneg zero_le_one (Nat.cast_nonneg _))

theorem displayPosition_sorted {delays : List ℚ}
    (represents : ∀ delay ∈ delays, binary32.Represents delay)
    (nonneg : ∀ delay ∈ delays, 0 ≤ delay) (factor : Nat) :
    (0 :: displayPosition delays factor).Pairwise (· ≤ ·) := by
  have ends : (0 :: frameEnds delays).Pairwise (· ≤ ·) := by
    rw [← List.isChain_iff_pairwise]
    cases delays with
    | nil => exact List.IsChain.singleton 0
    | cons delay delays =>
        obtain ⟨head, tail⟩ := List.forall_mem_cons.mp nonneg
        exact List.isChain_cons_cons.mpr
          ⟨head, frameEnds_rest_isChain (represents delay List.mem_cons_self) tail⟩
  have monotone : Monotone fun frameEnd : ℚ =>
      truncate (binary32.div frameEnd (displayRefreshDelayTime factor)) := by
    intro left right le
    refine truncate_monotone (FloatFormat.round_monotone ?_)
    exact div_le_div_of_nonneg_right le (displayRefreshDelayTime_nonneg factor)
  have zero : truncate (binary32.div 0 (displayRefreshDelayTime factor)) = 0 := by
    rw [FloatFormat.div, zero_div, FloatFormat.round_zero, truncate, if_neg (lt_irrefl 0),
      Int.floor_zero]
  have mapped := List.pairwise_map.mpr (ends.imp fun le => monotone le)
  simp only [List.map_cons, zero] at mapped
  exact mapped

/-! ## The order of the frames -/

/-- The loop gives, for each image from `moment` on, the first frame that ends after it. -/
theorem fillDisplayOrder_eq {positions : List ℤ} {imageCount newIndex : ℤ} {oldIndex : Nat}
    {displayOrder : List Nat} {count moment : Nat} (imageCount_eq : imageCount = count)
    (newIndex_eq : newIndex = moment + 1)
    (displayOrder_eq : displayOrder = Schedule.order positions moment) (within : moment ≤ count)
    (reached : ∃ position ∈ positions, count ≤ position)
    (before : ∀ (frame : Nat) (position : ℤ), frame < oldIndex → positions[frame]? = some position →
      position ≤ moment) :
    fillDisplayOrder positions imageCount oldIndex newIndex displayOrder =
      Schedule.order positions count := by
  fun_induction fillDisplayOrder positions imageCount oldIndex newIndex displayOrder
    generalizing moment with
  | case1 oldIndex newIndex displayOrder placed =>
      obtain ⟨position, member, le⟩ := reached
      obtain ⟨frame, bound, rfl⟩ := List.getElem_of_mem member
      have ended := before frame _ (bound.trans_le (List.getElem?_eq_none_iff.mp placed))
        (List.getElem?_eq_getElem bound)
      have same : moment = count := by omega
      rw [displayOrder_eq, same]
  | case2 oldIndex newIndex displayOrder position placed inCount beyond ih =>
      refine @ih (moment + 1) ?_ ?_ (by omega) ?_
      · push_cast
        omega
      · rw [Schedule.order_succ, displayOrder_eq, Schedule.itemAt_eq placed (by omega) before]
      · intro frame position lt placed
        have le := before frame position lt placed
        omega
  | case3 oldIndex newIndex displayOrder position placed inCount beyond ih =>
      refine ih newIndex_eq displayOrder_eq within ?_
      intro frame other lt placed'
      rcases Nat.lt_succ_iff_lt_or_eq.mp lt with earlier | rfl
      · exact before frame other earlier placed'
      · cases placed.symm.trans placed'
        omega
  | case4 oldIndex newIndex displayOrder position placed beyond =>
      have same : moment = count := by omega
      rw [displayOrder_eq, same]

/-! ## Lost frames -/

/-- Counting in a `Float` is exact up to all bits of its significand. -/
theorem add_one {count : Nat} (small : count + 1 ≤ 2 ^ 24) :
    binary32.add count 1 = (count + 1 : Nat) := by
  have represents : binary32.Represents (count + 1 : Nat) :=
    FloatFormat.represents_natCast small (by decide)
  rw [FloatFormat.add, ← Nat.cast_succ]
  exact represents.round

theorem countRepeats_eq {count : Nat} {previous : ℤ} {positions : List ℤ}
    (small : count + positions.length ≤ 2 ^ 24) :
    countRepeats count previous positions =
      (count + Schedule.emptyCount previous positions : Nat) := by
  induction positions generalizing count previous with
  | nil => rfl
  | cons position positions ih =>
      rw [List.length_cons] at small
      simp only [countRepeats, Schedule.emptyCount]
      split
      case isTrue same =>
        rw [add_one (by omega), ih (by omega), Nat.add_assoc]
      case isFalse differs =>
        rw [ih (by omega), Nat.zero_add]

theorem frameLoseCount_eq {positions : List ℤ} (small : positions.length ≤ 2 ^ 24) :
    frameLoseCount positions = Schedule.emptyCount 0 positions := by
  cases positions with
  | nil => rfl
  | cons position positions =>
      rw [List.length_cons] at small
      have counted : countRepeats (0 : Nat) position positions =
          (0 + Schedule.emptyCount position positions : Nat) := countRepeats_eq (by omega)
      rw [Nat.cast_zero, Nat.zero_add] at counted
      have few := Schedule.emptyCount_le_length position positions
      simp only [frameLoseCount, Schedule.emptyCount, counted]
      split
      case isTrue => rw [add_one (by omega), Nat.add_comm]
      case isFalse => rw [Nat.zero_add]

/-! ## The choice of a rate -/

theorem chooseFactor_slowest {delays : List ℚ} {levelOfIntegrity : ℚ} {factors : List Nat}
    {factor : Nat} (sorted : factors.Pairwise (· > ·))
    (chosen : chooseFactor delays levelOfIntegrity factors = some factor) :
    ∀ slower ∈ factors, factor < slower →
      allowedLoss (displayPosition delays slower).length levelOfIntegrity <
        frameLoseCount (displayPosition delays slower) := by
  induction factors with
  | nil => cases chosen
  | cons first factors ih =>
      obtain ⟨faster, rest⟩ := List.pairwise_cons.mp sorted
      simp only [chooseFactor] at chosen
      split at chosen
      case isTrue accepted =>
        cases chosen
        intro slower member lt
        rcases List.mem_cons.mp member with rfl | later
        · exact absurd lt (lt_irrefl _)
        · exact absurd (lt.trans (faster slower later)) (lt_irrefl _)
      case isFalse refused =>
        intro slower member lt
        rcases List.mem_cons.mp member with rfl | later
        · exact not_le.mp fun le => refused (.inl le)
        · exact ih rest chosen slower later lt

theorem chooseFactor_accepted {delays : List ℚ} {levelOfIntegrity : ℚ} {factors : List Nat}
    {factor : Nat} (chosen : chooseFactor delays levelOfIntegrity factors = some factor) :
    factor ∈ factors ∧
      (frameLoseCount (displayPosition delays factor) ≤
          allowedLoss (displayPosition delays factor).length levelOfIntegrity ∨
        factors.getLast? = some factor) := by
  induction factors with
  | nil => cases chosen
  | cons first factors ih =>
      simp only [chooseFactor] at chosen
      split at chosen
      case isTrue accepted =>
        cases chosen
        refine ⟨List.mem_cons_self, accepted.imp_right ?_⟩
        rintro rfl
        rfl
      case isFalse refused =>
        have more : factors ≠ [] := fun none_left => refused (.inr none_left)
        obtain ⟨member, lost⟩ := ih chosen
        rw [List.getLast?_cons_of_ne_nil more]
        exact ⟨List.mem_cons_of_mem _ member, lost⟩

theorem exists_chooseFactor (delays : List ℚ) (levelOfIntegrity : ℚ) {factors : List Nat}
    (some_left : factors ≠ []) :
    ∃ factor, chooseFactor delays levelOfIntegrity factors = some factor := by
  induction factors with
  | nil => exact absurd rfl some_left
  | cons first factors ih =>
      simp only [chooseFactor]
      split
      case isTrue => exact ⟨first, rfl⟩
      case isFalse refused => exact ih fun none_left => refused (.inr none_left)

/-! ## The plan -/

/-- How many of the frames an order leaves out. -/
def lostFrames (count : Nat) (displayOrder : List Nat) : Nat :=
  (List.range count).countP fun frame => frame ∉ displayOrder

/-- A frame is the one of an image: it begins, where the one before it ends, at it or before, and
ends after it. -/
def IsFrameOf (delays : List ℚ) (factor image frame : Nat) : Prop :=
  ∃ position, (displayPosition delays factor)[frame]? = some position ∧
    Schedule.start 0 (displayPosition delays factor) frame ≤ image ∧ image < position

/-- The plan of a GIF with frames of given delays at a rate. -/
structure Plans (delays : List ℚ) (plan : GifPlan) : Prop where
  imageCount : plan.imageCount = some (plan.displayOrder.length : ℤ)
  sorted : plan.displayOrder.Pairwise (· ≤ ·)
  shows : ∀ image frame : Nat, plan.displayOrder[image]? = some frame ↔
    IsFrameOf delays plan.displayRefreshFactor image frame
  lost : (lostFrames delays.length plan.displayOrder : ℚ) =
    frameLoseCount (displayPosition delays plan.displayRefreshFactor)

/-- The plan is the slowest that loses few enough frames, or the fastest there is. -/
structure Chosen (delays : List ℚ) (levelOfIntegrity : ℚ) (plan : GifPlan) : Prop where
  plans : Plans delays plan
  rate : plan.displayRefreshFactor ∈ displayRefreshFactors
  fewLost : (lostFrames delays.length plan.displayOrder : ℚ) ≤
      allowedLoss delays.length levelOfIntegrity ∨ plan.displayRefreshFactor = 1
  slowest : ∀ slower ∈ displayRefreshFactors, plan.displayRefreshFactor < slower →
    allowedLoss delays.length levelOfIntegrity <
      lostFrames delays.length (planAt delays slower).displayOrder

theorem Chosen.displayRefreshFactor_pos {delays : List ℚ} {levelOfIntegrity : ℚ} {plan : GifPlan}
    (chosen : Chosen delays levelOfIntegrity plan) : 0 < plan.displayRefreshFactor := by
  have positive : ∀ factor ∈ displayRefreshFactors, 0 < factor := by decide
  exact positive _ chosen.rate

theorem length_displayPosition (delays : List ℚ) (factor : Nat) :
    (displayPosition delays factor).length = delays.length := by
  have rest : ∀ (previous : ℚ) (delays : List ℚ),
      (frameEnds.rest previous delays).length = delays.length := by
    intro previous delays
    induction delays generalizing previous with
    | nil => rfl
    | cons delay delays ih => exact congrArg Nat.succ (ih _)
  rw [displayPosition, List.length_map]
  cases delays with
  | nil => rfl
  | cons delay delays => exact congrArg Nat.succ (rest delay delays)

theorem planAt_plans {delays : List ℚ} (represents : ∀ delay ∈ delays, binary32.Represents delay)
    (nonneg : ∀ delay ∈ delays, 0 ≤ delay) (nonempty : delays ≠ [])
    (small : delays.length ≤ 2 ^ 24) (factor : Nat) : Plans delays (planAt delays factor) := by
  have sorted := displayPosition_sorted represents nonneg factor
  have length := length_displayPosition delays factor
  have some_position : displayPosition delays factor ≠ [] := by
    intro none_left
    rw [none_left] at length
    exact nonempty (List.length_eq_zero_iff.mp length.symm)
  obtain ⟨above, rest⟩ := List.pairwise_cons.mp sorted
  have last := List.getLast?_eq_some_getLast some_position
  have member := List.getLast_mem some_position
  obtain ⟨count, count_eq⟩ := Int.eq_ofNat_of_zero_le (above _ member)
  have within : ∀ position ∈ displayPosition delays factor, position ≤ count := by
    intro position listed
    exact (rest.rel_getLast listed).trans_eq count_eq
  have reached : ∃ position ∈ displayPosition delays factor, (count : ℤ) ≤ position :=
    ⟨_, member, count_eq.ge⟩
  have order : (planAt delays factor).displayOrder =
      Schedule.order (displayPosition delays factor) count := by
    refine fillDisplayOrder_eq ?_ (zero_add 1).symm rfl (Nat.zero_le count) reached ?_
    · rw [last, Option.getD_some, count_eq]
    · intro frame position lt
      exact absurd lt (Nat.not_lt_zero frame)
  constructor
  case imageCount =>
    rw [order, Schedule.length_order, ← count_eq]
    exact last
  case sorted => exact order ▸ Schedule.order_sorted _ _
  case shows =>
    intro image frame
    rw [order]
    exact Schedule.getElem?_order_eq_some_iff sorted within reached
  case lost =>
    rw [lostFrames, order, ← length, Schedule.countP_not_mem_order sorted within]
    exact (frameLoseCount_eq (length ▸ small)).symm

/-- Whatever the delays of a GIF's frames, its plan shows the frames in their order, each from the
image at which the one before it ends, at the slowest rate that loses few enough of them. -/
theorem setGifFromData_chosen {frames : List FrameProperties} {delays : List binary32.Number}
    (levelOfIntegrity : ℚ)
    (nonneg : ∀ dictionary : GifDictionary, some (some dictionary) ∈ frames → ∀ delay,
      dictionary.unclampedDelayTime = some delay ∨ dictionary.delayTime = some delay → 0 ≤ delay.1)
    (small : frames.length ≤ 2 ^ 24) (ok : delayTimes frames = .ok delays) :
    ∃ plan, setGifFromData frames levelOfIntegrity = .ok (some plan) ∧
      Chosen (delays.map Subtype.val) (max 0 (min 1 levelOfIntegrity)) plan := by
  obtain ⟨nonempty, length, read⟩ := delayTimes_ok ok
  generalize level_eq : max 0 (min 1 levelOfIntegrity) = level
  generalize values_eq : delays.map Subtype.val = values
  have plans : ∀ factor, Plans values (planAt values factor) := by
    subst values_eq
    refine planAt_plans ?_ ?_ ?_ ?_
    · intro value member
      obtain ⟨delay, -, rfl⟩ := List.mem_map.mp member
      exact delay.2
    · intro value member
      obtain ⟨delay, listed, rfl⟩ := List.mem_map.mp member
      obtain ⟨dictionary, found, either⟩ := read delay listed
      exact nonneg dictionary found delay either
    · exact fun none_left => nonempty (List.map_eq_nil_iff.mp none_left)
    · rw [List.length_map, length]
      exact small
  obtain ⟨factor, chosen⟩ := exists_chooseFactor values level
    (show displayRefreshFactors ≠ [] by decide)
  have taken : setGifFromData frames levelOfIntegrity = .ok (some (planAt values factor)) := by
    rw [setGifFromData, ok]
    refine congrArg Except.ok ?_
    rw [calculateFrameDelay, level_eq, values_eq, chosen, Option.map_some]
  have slower := chooseFactor_slowest (show displayRefreshFactors.Pairwise (· > ·) by decide) chosen
  obtain ⟨member, lost⟩ := chooseFactor_accepted chosen
  refine ⟨_, taken, plans factor, member, ?_, ?_⟩
  · rw [(plans factor).lost]
    rw [length_displayPosition] at lost
    refine lost.imp_right fun last => ?_
    exact (Option.some.inj last).symm
  · intro other listed lt
    rw [(plans other).lost]
    have more := slower other listed lt
    rwa [length_displayPosition] at more

/-- Three frames, one second apart. -/
def secondsApart : List FrameProperties :=
  List.replicate 3 (some (some {
    unclampedDelayTime := none
    delayTime := some ⟨(1 : Nat), FloatFormat.represents_natCast (by decide) (by decide)⟩ }))

/-- Each of them is one image of sixty refreshes. -/
def secondsPlan : GifPlan where
  imageCount := some 3
  displayRefreshFactor := 60
  displayOrder := [0, 1, 2]

theorem round_natCast {number : Nat} (small : number ≤ 2 ^ 24) : binary32.round number = number :=
  (FloatFormat.represents_natCast small (by decide)).round

theorem displayPosition_secondsApart :
    displayPosition [(1 : Nat), (1 : Nat), (1 : Nat)] 60 = [1, 2, 3] := by
  have one : binary32.round 1 = 1 := by exact_mod_cast @round_natCast 1 (by decide)
  have two : binary32.round 2 = 2 := by exact_mod_cast @round_natCast 2 (by decide)
  have three : binary32.round 3 = 3 := by exact_mod_cast @round_natCast 3 (by decide)
  have delayTime : displayRefreshDelayTime 60 = 1 := by
    simp [displayRefreshDelayTime, maxFramePerSecond, FloatFormat.div, one]
  have second : binary32.add 1 1 = 2 := by rw [FloatFormat.add, one_add_one_eq_two, two]
  have third : binary32.add 1 2 = 3 := by
    rw [FloatFormat.add, show (1 : ℚ) + 2 = 3 by norm_num, three]
  simp [displayPosition, frameEnds, frameEnds.rest, second, third, delayTime, FloatFormat.div, one,
    two, three, truncate]

theorem setGifFromData_secondsApart :
    setGifFromData secondsApart (4 / 5) = .ok (some secondsPlan) := by
  have level : (0 : ℚ) ≤ 1 - max 0 (min 1 (4 / 5)) := by norm_num
  have accepted : frameLoseCount [1, 2, 3] ≤
      allowedLoss [(1 : ℤ), 2, 3].length (max 0 (min 1 (4 / 5))) := by
    have none_lost : frameLoseCount [1, 2, 3] = 0 := by simp [frameLoseCount, countRepeats]
    rw [none_lost]
    exact FloatFormat.round_nonneg
      (mul_nonneg (FloatFormat.round_nonneg (Nat.cast_nonneg _)) (FloatFormat.round_nonneg level))
  have chosen : chooseFactor [(1 : Nat), (1 : Nat), (1 : Nat)] (max 0 (min 1 (4 / 5)))
      displayRefreshFactors = some 60 := by
    rw [displayRefreshFactors, chooseFactor, displayPosition_secondsApart, if_pos (.inl accepted)]
  have order : fillDisplayOrder [1, 2, 3] 3 0 1 [] = [0, 1, 2] :=
    @fillDisplayOrder_eq [1, 2, 3] 3 1 0 [] 3 0 rfl rfl rfl (by decide) ⟨3, by simp, le_rfl⟩
      fun frame position lt => absurd lt (Nat.not_lt_zero frame)
  have plan : planAt [(1 : Nat), (1 : Nat), (1 : Nat)] 60 = secondsPlan := by
    rw [planAt, displayPosition_secondsApart]
    simp only [List.getLast?_cons_cons, List.getLast?_singleton, Option.getD_some, order,
      secondsPlan]
  have planned : (chooseFactor [(1 : Nat), (1 : Nat), (1 : Nat)] (max 0 (min 1 (4 / 5)))
      displayRefreshFactors).map (planAt [(1 : Nat), (1 : Nat), (1 : Nat)]) = some secondsPlan := by
    rw [chosen, Option.map_some, plan]
  exact congrArg Except.ok planned

theorem secondsApart_chosen :
    ∃ delays, Chosen delays (max 0 (min 1 (4 / 5))) secondsPlan := by
  have nonneg : ∀ dictionary : GifDictionary, some (some dictionary) ∈ secondsApart → ∀ delay,
      dictionary.unclampedDelayTime = some delay ∨ dictionary.delayTime = some delay →
        0 ≤ delay.1 := by
    intro dictionary member delay either
    cases Option.some.inj (Option.some.inj (List.eq_of_mem_replicate member))
    rcases either with absent | same
    · cases absent
    · cases same
      exact Nat.cast_nonneg 1
  obtain ⟨plan, read, chosen⟩ := setGifFromData_chosen (4 / 5) nonneg (by decide) rfl
  rw [setGifFromData_secondsApart] at read
  cases read
  exact ⟨_, chosen⟩

end UIImage

end Celeste
