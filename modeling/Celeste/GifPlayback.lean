import Celeste.GifImage
import Celeste.Library.Machine
import Celeste.Library.Memo

/-!
# Playing a GIF

The image views of a `SwiftyGifManager`, which its timer updates one by one at each refresh of the
display.  In every run of updates, of views that come and go on the screen, and of caches that are
filled and lost, a view shows the images of its GIF one after the other, and its delegate hears of
each loop and of the end once.
-/

namespace Celeste

/-! ## Views -/

/-- A GIF that was read: its frames as the source can create them, its plan and its size. -/
structure GifImage (Picture : Type) where
  imageSource : Nat → Option Picture
  plan : UIImage.GifPlan
  imageSize : Option ℤ

/-- An image of a view: an empty one, that of the whole data, or a frame. -/
inductive ViewImage (Picture : Type)
  | blank
  | whole
  | picture (picture : Picture)

/-- A call of `SwiftyGifDelegate`. -/
inductive DelegateCall
  | gifDidStart
  | gifDidLoop
  | gifDidStop
  deriving DecidableEq

/-- What an image view keeps for its GIF, with the calls of its delegate. -/
structure GifImageView (Picture : Type) where
  gifImage : Option (GifImage Picture)
  currentImage : Option (ViewImage Picture)
  image : Option (ViewImage Picture)
  displayOrderIndex : Nat
  syncFactor : Nat
  loopCount : ℤ
  haveCache : Bool
  cache : MemoTable Nat (ViewImage Picture)
  displaying : Bool
  isPlaying : Bool
  /-- The view has an `animationManager`. -/
  isManaged : Bool
  isDisplayedInScreen : Bool
  isDiscarded : Bool
  delegateCalls : List DelegateCall

namespace GifImage

variable {Picture : Type}

/-- `frameAtIndex`, of a view with the GIF. -/
def frameAtIndex (gif : GifImage Picture) (index : Nat) : ViewImage Picture :=
  match gif.plan.displayOrder[index]?.bind gif.imageSource with
  | some picture => .picture picture
  | none => .blank

/-- The entries of `prepareCache`. -/
def cached (gif : GifImage Picture) : MemoTable Nat (ViewImage Picture) :=
  gif.plan.displayOrder.zipIdx.foldl (fun cache (order, index) =>
    match gif.imageSource order with
    | some picture => cache.store index (.picture picture)
    | none => cache) .empty

end GifImage

namespace GifImageView

variable {Picture : Type}

/-- A view that no GIF was set to. -/
def fresh : GifImageView Picture where
  gifImage := none
  currentImage := none
  image := none
  displayOrderIndex := 0
  syncFactor := 0
  loopCount := 0
  haveCache := false
  cache := .empty
  displaying := false
  isPlaying := false
  isManaged := false
  isDisplayedInScreen := false
  isDiscarded := true
  delegateCalls := []

variable (view : GifImageView Picture)

def call (delegateCall : DelegateCall) : GifImageView Picture :=
  { view with delegateCalls := view.delegateCalls ++ [delegateCall] }

def frameAtIndex (index : Nat) : ViewImage Picture :=
  match view.gifImage with
  | some gif => gif.frameAtIndex index
  | none => .blank

/-- `hasCache` of a manager that has caches or not. -/
def hasCache (managerHasCache : Bool) : Bool :=
  if view.displaying && (view.loopCount == -1 || view.loopCount ≥ 5) then managerHasCache else false

def updateCache (managerHasCache : Bool) : GifImageView Picture :=
  if view.isManaged then
    if view.hasCache managerHasCache && !view.haveCache then
      { view with
        cache := view.gifImage.elim .empty GifImage.cached
        haveCache := true }
    else if !view.hasCache managerHasCache && view.haveCache then
      { view with
        cache := .empty
        haveCache := false }
    else
      view
  else
    view

def setDisplaying (displaying : Bool) : GifImageView Picture :=
  { view with displaying := displaying }

/-- What `setGifImage` sets before it reads the first frame. -/
def hold (gif : GifImage Picture) (loopCount : ℤ) : GifImageView Picture :=
  { view with
    loopCount := loopCount
    gifImage := some gif
    isManaged := true
    syncFactor := 0
    displayOrderIndex := 0
    cache := .empty
    haveCache := false }

def startDisplay (managerHasCache : Bool) : GifImageView Picture :=
  (view.setDisplaying true).updateCache managerHasCache

def stopDisplay (managerHasCache : Bool) : GifImageView Picture :=
  (view.setDisplaying false).updateCache managerHasCache

def startAnimatingGif : GifImageView Picture :=
  call { view with isPlaying := true } .gifDidStart

def stopAnimatingGif : GifImageView Picture :=
  call { view with isPlaying := false } .gifDidStop

def setCurrentImage (image : ViewImage Picture) : GifImageView Picture :=
  { view with currentImage := some image }

def updateFrame : GifImageView Picture :=
  view.setCurrentImage <|
    if view.haveCache then
      (view.cache.find? view.displayOrderIndex).getD (view.frameAtIndex view.displayOrderIndex)
    else
      view.frameAtIndex view.displayOrderIndex

/-- The end of a loop. -/
def endLoop : GifImageView Picture :=
  if view.loopCount = -1 then
    view.call .gifDidLoop
  else if 1 < view.loopCount then
    call { view with loopCount := view.loopCount - 1 } .gifDidLoop
  else
    call { view with loopCount := view.loopCount - 1 } .gifDidStop

def updateIndex : GifImageView Picture :=
  match view.gifImage with
  | none => view
  | some gif =>
      if 0 < gif.plan.displayRefreshFactor then
        let syncFactor := (view.syncFactor + 1) % gif.plan.displayRefreshFactor
        let imageCount := gif.plan.imageCount.getD 0
        if syncFactor = 0 ∧ 0 < imageCount then
          let displayOrderIndex := (view.displayOrderIndex + 1) % imageCount.toNat
          if displayOrderIndex = 0 then
            endLoop { view with
              syncFactor := syncFactor
              displayOrderIndex := displayOrderIndex }
          else
            { view with
              syncFactor := syncFactor
              displayOrderIndex := displayOrderIndex }
        else
          { view with syncFactor := syncFactor }
      else
        view

/-- `updateCurrentImage`, up to the deletion of a view that was discarded. -/
def updateCurrentImage (managerHasCache : Bool) : GifImageView Picture :=
  if view.displaying then
    let updated := view.updateFrame.updateIndex
    if updated.loopCount = 0 ∨ ¬ updated.isDisplayedInScreen ∨ ¬ updated.isPlaying then
      updated.stopDisplay managerHasCache
    else
      updated
  else if view.isDisplayedInScreen ∧ view.loopCount ≠ 0 ∧ view.isPlaying then
    view.startDisplay managerHasCache
  else
    view

def showCurrentImage : GifImageView Picture :=
  { view with image := view.currentImage }

/-- What the timer does for a view: it shows the current image and updates it while it plays. -/
def refresh (managerHasCache : Bool) : GifImageView Picture :=
  if view.isPlaying then view.showCurrentImage.updateCurrentImage managerHasCache
  else view.showCurrentImage

/-! ## Caches -/

/-- A view differs from another at most in its cache, which has the GIF's frames if the other's
has. -/
structure CacheOnly (before after : GifImageView Picture) : Prop where
  same : after = { before with
    cache := after.cache
    haveCache := after.haveCache }
  agrees : ∀ gif, before.gifImage = some gif → before.cache.Agrees gif.frameAtIndex →
    after.cache.Agrees gif.frameAtIndex

theorem CacheOnly.refl (view : GifImageView Picture) : CacheOnly view view :=
  ⟨rfl, fun _ _ agrees => agrees⟩

theorem CacheOnly.gifImage {before after : GifImageView Picture} (only : CacheOnly before after) :
    after.gifImage = before.gifImage := by
  rw [only.same]

theorem CacheOnly.delegateCalls {before after : GifImageView Picture}
    (only : CacheOnly before after) : after.delegateCalls = before.delegateCalls := by
  rw [only.same]

theorem CacheOnly.trans {first second third : GifImageView Picture} (left : CacheOnly first second)
    (right : CacheOnly second third) : CacheOnly first third := by
  refine ⟨?_, ?_⟩
  · rw [right.same, left.same]
  · intro gif found agrees
    exact right.agrees gif (left.gifImage.trans found) (left.agrees gif found agrees)

theorem cached_agrees (gif : GifImage Picture) : gif.cached.Agrees gif.frameAtIndex := by
  have entries : ∀ entry ∈ gif.plan.displayOrder.zipIdx,
      gif.plan.displayOrder[entry.2]? = some entry.1 := by
    intro entry member
    exact List.mem_zipIdx_iff_getElem?.mp member
  rw [GifImage.cached]
  generalize gif.plan.displayOrder.zipIdx = list at entries
  generalize start : (MemoTable.empty : MemoTable Nat (ViewImage Picture)) = cache
  have agrees : cache.Agrees gif.frameAtIndex := start ▸ .empty
  clear start
  induction list generalizing cache with
  | nil => exact agrees
  | cons entry list ih =>
      obtain ⟨head, tail⟩ := List.forall_mem_cons.mp entries
      obtain ⟨order, index⟩ := entry
      rw [List.foldl_cons]
      refine ih tail _ ?_
      cases created : gif.imageSource order with
      | none =>
          simp only [created]
          exact agrees
      | some picture =>
          have frame : gif.frameAtIndex index = .picture picture := by
            rw [GifImage.frameAtIndex, head, Option.bind_some, created]
          simp only [created]
          exact frame ▸ agrees.store index

theorem cacheOnly_updateCache (view : GifImageView Picture) (managerHasCache : Bool) :
    CacheOnly view (view.updateCache managerHasCache) := by
  rw [updateCache]
  split
  case isTrue =>
    split
    case isTrue =>
      refine ⟨rfl, ?_⟩
      intro gif found _
      simp only [found, Option.elim_some]
      exact cached_agrees gif
    case isFalse =>
      split
      case isTrue => exact ⟨rfl, fun _ _ _ => .empty⟩
      case isFalse => exact .refl view
  case isFalse => exact .refl view

theorem updateFrame_eq {view : GifImageView Picture} {gif : GifImage Picture}
    (found : view.gifImage = some gif) (agrees : view.cache.Agrees gif.frameAtIndex) :
    view.updateFrame = view.setCurrentImage (gif.frameAtIndex view.displayOrderIndex) := by
  have plain : view.frameAtIndex view.displayOrderIndex =
      gif.frameAtIndex view.displayOrderIndex := by
    rw [frameAtIndex, found]
  rw [updateFrame, plain]
  split
  case isTrue =>
    cases remembered : view.cache.find? view.displayOrderIndex with
    | none => rw [Option.getD_none]
    | some image => rw [Option.getD_some, agrees _ _ remembered]
  case isFalse => rfl

end GifImageView

/-! ## One view -/

namespace GifImage

variable {Picture : Type}

def imageCount (gif : GifImage Picture) : Nat :=
  (gif.plan.imageCount.getD 0).toNat

/-- The GIF has images, and each stays for some refreshes. -/
structure IsPlayable (gif : GifImage Picture) : Prop where
  imageCount : 0 < gif.imageCount
  displayRefreshFactor : 0 < gif.plan.displayRefreshFactor

/-- The image a view is at after some updates, counted on through all loops. -/
def imagesShown (gif : GifImage Picture) (updates : Nat) : Nat :=
  updates / gif.plan.displayRefreshFactor

/-- The image of its order that a view shows after some updates. -/
def imageAt (gif : GifImage Picture) (updates : Nat) : Nat :=
  gif.imagesShown (updates - 1) % gif.imageCount

/-- The loops that are over after some updates. -/
def loopsOver (gif : GifImage Picture) (updates : Nat) : Nat :=
  gif.imagesShown updates / gif.imageCount

/-- The updates of all loops. -/
def length (gif : GifImage Picture) (loops : Nat) : Nat :=
  loops * (gif.plan.displayRefreshFactor * gif.imageCount)

variable {gif : GifImage Picture} {updates loops : Nat}

theorem loopsOver_lt (lt : updates < gif.length loops) : gif.loopsOver updates < loops := by
  rw [loopsOver, imagesShown, Nat.div_div_eq_div_mul]
  exact Nat.div_lt_of_lt_mul (Nat.mul_comm _ _ ▸ lt)

theorem loopsOver_length (playable : gif.IsPlayable) (loops : Nat) :
    gif.loopsOver (gif.length loops) = loops := by
  rw [loopsOver, imagesShown, Nat.div_div_eq_div_mul, length]
  exact Nat.mul_div_cancel _ (Nat.mul_pos playable.displayRefreshFactor playable.imageCount)

/-- The last loop is over after all updates, and not before. -/
theorem IsPlayable.loopsOver_sub (playable : gif.IsPlayable) (some_loop : 0 < loops)
    (within : updates ≤ gif.length loops) :
    gif.loopsOver updates - (loops - 1) = if updates = gif.length loops then 1 else 0 := by
  split
  case isTrue all =>
    rw [all, loopsOver_length playable]
    omega
  case isFalse differs =>
    have beyond := loopsOver_lt (within.lt_of_ne differs)
    omega

theorem imagesShown_succ (gif : GifImage Picture) (updates : Nat) :
    gif.imagesShown (updates + 1) = gif.imagesShown updates +
      if (updates + 1) % gif.plan.displayRefreshFactor = 0 then 1 else 0 := by
  simp only [imagesShown, Nat.succ_div, Nat.dvd_iff_mod_eq_zero]

/-- A loop begins with an update that ends an image, after a multiple of `imageCount` of them. -/
theorem loopsOver_succ (gif : GifImage Picture) (updates : Nat) :
    gif.loopsOver (updates + 1) = gif.loopsOver updates +
      if (updates + 1) % gif.plan.displayRefreshFactor = 0 ∧
        gif.imagesShown (updates + 1) % gif.imageCount = 0 then 1 else 0 := by
  have images := gif.imagesShown_succ updates
  rw [loopsOver, loopsOver]
  split at images
  case isTrue next =>
    simp only [images, next, Nat.succ_div, Nat.dvd_iff_mod_eq_zero, true_and]
  case isFalse same =>
    simp only [images, same, false_and, if_false, Nat.add_zero]

end GifImage

namespace GifImageView

variable {Picture : Type} {gif : GifImage Picture} {loops updates stops : Nat}
  {earlier : List DelegateCall} {view : GifImageView Picture}

/-- Where a view is in its GIF after some updates, and what its delegate has heard since `earlier`,
`stops` times that it was stopped. -/
structure Position (gif : GifImage Picture) (loops : Nat) (earlier : List DelegateCall)
    (updates stops : Nat) (view : GifImageView Picture) : Prop where
  gifImage : view.gifImage = some gif
  agrees : view.cache.Agrees gif.frameAtIndex
  within : updates ≤ gif.length loops
  syncFactor : view.syncFactor = updates % gif.plan.displayRefreshFactor
  displayOrderIndex : view.displayOrderIndex = gif.imagesShown updates % gif.imageCount
  loopCount : view.loopCount = loops - gif.loopsOver updates
  gifDidLoop : view.delegateCalls.count .gifDidLoop =
    earlier.count .gifDidLoop + min (gif.loopsOver updates) (loops - 1)
  gifDidStop : view.delegateCalls.count .gifDidStop =
    earlier.count .gifDidStop + stops + (gif.loopsOver updates - (loops - 1))

/-- A view shows the image of its last update, and after the last loop is no longer displayed. -/
structure Played (gif : GifImage Picture) (loops : Nat) (earlier : List DelegateCall)
    (updates stops : Nat) (view : GifImageView Picture) : Prop extends
    Position gif loops earlier updates stops view where
  currentImage : 0 < updates →
    view.currentImage = some (gif.frameAtIndex (gif.imageAt updates))
  finished : view.loopCount = 0 → view.displaying = false

theorem Position.loopCount_pos (position : Position gif loops earlier updates stops view)
    (lt : updates < gif.length loops) : 0 < view.loopCount := by
  have beyond := GifImage.loopsOver_lt lt
  rw [position.loopCount]
  omega

theorem Position.loopCount_eq_zero_iff (playable : gif.IsPlayable)
    (position : Position gif loops earlier updates stops view) :
    view.loopCount = 0 ↔ updates = gif.length loops := by
  constructor
  · intro beyond
    by_contra differs
    exact (position.loopCount_pos (position.within.lt_of_ne differs)).ne' beyond
  · rintro rfl
    rw [position.loopCount, GifImage.loopsOver_length playable, Int.sub_self]

theorem updateIndex_eq (playable : gif.IsPlayable) (found : view.gifImage = some gif) :
    view.updateIndex =
      if (view.syncFactor + 1) % gif.plan.displayRefreshFactor = 0 then
        if (view.displayOrderIndex + 1) % gif.imageCount = 0 then
          endLoop { view with
            syncFactor := 0
            displayOrderIndex := 0 }
        else
          { view with
            syncFactor := 0
            displayOrderIndex := (view.displayOrderIndex + 1) % gif.imageCount }
      else
        { view with
          syncFactor := (view.syncFactor + 1) % gif.plan.displayRefreshFactor } := by
  have counted : 0 < gif.plan.imageCount.getD 0 := Int.pos_iff_toNat_pos.mpr playable.imageCount
  simp only [GifImageView.updateIndex, found, playable.displayRefreshFactor, if_true, counted,
    and_true, GifImage.imageCount]
  split
  case isTrue next =>
    rw [next]
    split
    case isTrue last => rw [last]
    case isFalse => rfl
  case isFalse => rfl

theorem endLoop_eq (view : GifImageView Picture) (some_left : 0 < view.loopCount) :
    view.endLoop = call { view with loopCount := view.loopCount - 1 }
      (if 1 < view.loopCount then .gifDidLoop else .gifDidStop) := by
  rw [endLoop, if_neg (by omega)]
  split <;> rfl

theorem Position.updateIndex (playable : gif.IsPlayable)
    (position : Position gif loops earlier updates stops view) (lt : updates < gif.length loops) :
    Position gif loops earlier (updates + 1) stops view.updateIndex := by
  have images := gif.imagesShown_succ updates
  have beyond := gif.loopsOver_succ updates
  have some_left := position.loopCount_pos lt
  have loopCount := position.loopCount
  have sync : (view.syncFactor + 1) % gif.plan.displayRefreshFactor =
      (updates + 1) % gif.plan.displayRefreshFactor := by
    rw [position.syncFactor, Nat.mod_add_mod]
  have index : (view.displayOrderIndex + 1) % gif.imageCount =
      (gif.imagesShown updates + 1) % gif.imageCount := by
    rw [position.displayOrderIndex, Nat.mod_add_mod]
  rw [updateIndex_eq playable position.gifImage, sync, index]
  split
  case isTrue next =>
    rw [if_pos next] at images
    rw [images] at beyond
    split
    case isTrue last =>
      rw [if_pos ⟨next, last⟩] at beyond
      have ended := endLoop_eq { view with
        syncFactor := 0
        displayOrderIndex := 0 } some_left
      rw [ended]
      have calls := position.gifDidLoop
      have stopCalls := position.gifDidStop
      constructor
      case gifImage => exact position.gifImage
      case agrees => exact position.agrees
      case within => exact lt
      case syncFactor => exact next.symm
      case displayOrderIndex => exact (images ▸ last).symm
      case loopCount =>
        simp only [call, beyond]
        omega
      case gifDidLoop =>
        simp only [call, List.count_append, List.count_singleton, beyond]
        split <;> simp <;> omega
      case gifDidStop =>
        simp only [call, List.count_append, List.count_singleton, beyond]
        split <;> simp <;> omega
    case isFalse notLast =>
      rw [if_neg fun both => notLast both.2, Nat.add_zero] at beyond
      constructor
      case gifImage => exact position.gifImage
      case agrees => exact position.agrees
      case within => exact lt
      case syncFactor => exact next.symm
      case displayOrderIndex => rw [images]
      case loopCount => exact beyond ▸ position.loopCount
      case gifDidLoop => exact beyond ▸ position.gifDidLoop
      case gifDidStop => exact beyond ▸ position.gifDidStop
  case isFalse stays =>
    rw [if_neg stays, Nat.add_zero] at images
    rw [if_neg fun both => stays both.1, Nat.add_zero] at beyond
    constructor
    case gifImage => exact position.gifImage
    case agrees => exact position.agrees
    case within => exact lt
    case syncFactor => rfl
    case displayOrderIndex => exact images ▸ position.displayOrderIndex
    case loopCount => exact beyond ▸ position.loopCount
    case gifDidLoop => exact beyond ▸ position.gifDidLoop
    case gifDidStop => exact beyond ▸ position.gifDidStop

theorem Position.cacheOnly {after : GifImageView Picture}
    (position : Position gif loops earlier updates stops view) (only : CacheOnly view after) :
    Position gif loops earlier updates stops after := by
  have agrees := only.agrees gif position.gifImage position.agrees
  rw [only.same]
  constructor
  case agrees => exact agrees
  all_goals first
    | exact position.gifImage | exact position.within | exact position.syncFactor
    | exact position.displayOrderIndex | exact position.loopCount | exact position.gifDidLoop
    | exact position.gifDidStop

theorem Played.cacheOnly {after : GifImageView Picture}
    (played : Played gif loops earlier updates stops view) (only : CacheOnly view after) :
    Played gif loops earlier updates stops after := by
  have position := played.toPosition.cacheOnly only
  rw [only.same] at position ⊢
  exact ⟨position, played.currentImage, played.finished⟩

theorem updateIndex_status (view : GifImageView Picture) :
    view.updateIndex.displaying = view.displaying ∧ view.updateIndex.isPlaying = view.isPlaying ∧
      view.updateIndex.isDisplayedInScreen = view.isDisplayedInScreen ∧
      view.updateIndex.isDiscarded = view.isDiscarded ∧
      view.updateIndex.currentImage = view.currentImage := by
  simp only [updateIndex]
  split
  case h_1 => exact ⟨rfl, rfl, rfl, rfl, rfl⟩
  case h_2 =>
    split
    case isTrue =>
      split
      case isTrue =>
        split
        case isTrue =>
          simp only [endLoop]
          split
          case isTrue => exact ⟨rfl, rfl, rfl, rfl, rfl⟩
          case isFalse => split <;> exact ⟨rfl, rfl, rfl, rfl, rfl⟩
        case isFalse => exact ⟨rfl, rfl, rfl, rfl, rfl⟩
      case isFalse => exact ⟨rfl, rfl, rfl, rfl, rfl⟩
    case isFalse => exact ⟨rfl, rfl, rfl, rfl, rfl⟩

/-- What a refresh does to a view: it is shown and stays, it is updated, or its display is taken
up. -/
inductive Refreshed (before : GifImageView Picture) : GifImageView Picture → Prop
  | shown {after : GifImageView Picture} (still : before.isPlaying = false)
      (only : CacheOnly before.showCurrentImage after) : Refreshed before after
  | updated {updated after : GifImageView Picture} (playing : before.isPlaying = true)
      (displaying : before.displaying = true)
      (same : updated = before.showCurrentImage.updateFrame.updateIndex)
      (only : CacheOnly
        (updated.setDisplaying (decide (updated.loopCount ≠ 0 ∧ before.isDisplayedInScreen)))
        after) :
      Refreshed before after
  | taken {after : GifImageView Picture} (playing : before.isPlaying = true)
      (hidden : before.displaying = false)
      (only : CacheOnly (before.showCurrentImage.setDisplaying
        (decide (before.loopCount ≠ 0 ∧ before.isDisplayedInScreen))) after) :
      Refreshed before after

/-- An update moves a view that is displayed, and takes down one that is not to be. -/
theorem updateCurrentImage_updated {updated : GifImageView Picture}
    (playing : view.isPlaying = true) (displaying : view.displaying = true)
    (same : updated = view.updateFrame.updateIndex) (managerHasCache : Bool) :
    CacheOnly
      (updated.setDisplaying (decide (updated.loopCount ≠ 0 ∧ view.isDisplayedInScreen)))
      (view.updateCurrentImage managerHasCache) := by
  obtain ⟨shown, plays, onScreen, -⟩ := updateIndex_status view.updateFrame
  rw [← same] at shown plays onScreen
  rw [updateCurrentImage, if_pos displaying, ← same]
  have plays : updated.isPlaying = true := plays.trans playing
  have shown : updated.displaying = true := shown.trans displaying
  have onScreen : updated.isDisplayedInScreen = view.isDisplayedInScreen := onScreen
  simp only [plays, onScreen, not_true_eq_false, or_false]
  split
  case isTrue ends =>
    have hidden : decide (updated.loopCount ≠ 0 ∧ view.isDisplayedInScreen) = false :=
      decide_eq_false fun both => ends.elim both.1 fun off => off both.2
    rw [hidden]
    exact cacheOnly_updateCache _ _
  case isFalse goes_on =>
    rw [not_or, not_not] at goes_on
    rw [decide_eq_true goes_on, ← shown]
    exact .refl updated

/-- An update takes up the display of a view that is to be shown. -/
theorem updateCurrentImage_taken (playing : view.isPlaying = true)
    (hidden : view.displaying = false) (managerHasCache : Bool) :
    CacheOnly (view.setDisplaying (decide (view.loopCount ≠ 0 ∧ view.isDisplayedInScreen)))
      (view.updateCurrentImage managerHasCache) := by
  rw [updateCurrentImage, if_neg (by rw [hidden]; exact Bool.false_ne_true)]
  split
  case isTrue all =>
    rw [decide_eq_true ⟨all.2.1, all.1⟩]
    exact cacheOnly_updateCache _ _
  case isFalse some_not =>
    have off : decide (view.loopCount ≠ 0 ∧ view.isDisplayedInScreen) = false :=
      decide_eq_false fun both => some_not ⟨both.2, both.1, playing⟩
    rw [off, ← hidden]
    exact .refl view

theorem refreshed_refresh (view : GifImageView Picture) (managerHasCache : Bool) :
    Refreshed view (view.refresh managerHasCache) := by
  rw [refresh]
  split
  case isTrue playing =>
    cases displaying : view.displaying with
    | false =>
        exact .taken playing displaying
          (@updateCurrentImage_taken _ view.showCurrentImage playing displaying _)
    | true =>
        exact .updated playing displaying rfl
          (@updateCurrentImage_updated _ view.showCurrentImage _ playing displaying rfl _)
  case isFalse still => exact .shown (Bool.eq_false_iff.mpr still) (.refl _)

theorem Position.showCurrentImage (position : Position gif loops earlier updates stops view) :
    Position gif loops earlier updates stops view.showCurrentImage :=
  { position with }

theorem Position.setDisplaying (position : Position gif loops earlier updates stops view)
    (displaying : Bool) :
    Position gif loops earlier updates stops (view.setDisplaying displaying) :=
  { position with }

theorem Position.setCurrentImage (position : Position gif loops earlier updates stops view)
    (image : ViewImage Picture) :
    Position gif loops earlier updates stops (view.setCurrentImage image) :=
  { position with }

theorem position_hold (gif : GifImage Picture) (loops : Nat) (view : GifImageView Picture) :
    Position gif loops view.delegateCalls 0 0 (view.hold gif loops) := by
  have images : gif.imagesShown 0 = 0 := Nat.zero_div _
  have beyond : gif.loopsOver 0 = 0 := by rw [GifImage.loopsOver, images, Nat.zero_div]
  constructor
  case gifImage => rfl
  case agrees => exact .empty
  case within => exact Nat.zero_le _
  case syncFactor => exact (Nat.zero_mod _).symm
  case displayOrderIndex => rw [images, Nat.zero_mod]; rfl
  case loopCount => rw [beyond]; exact (Int.sub_zero _).symm
  case gifDidLoop => rw [beyond, Nat.zero_min]; rfl
  case gifDidStop => rw [beyond, Nat.zero_sub]; rfl

theorem Position.startAnimatingGif (position : Position gif loops earlier updates stops view) :
    Position gif loops earlier updates stops view.startAnimatingGif := by
  have loop := position.gifDidLoop
  have stop := position.gifDidStop
  refine { position with gifDidLoop := ?_, gifDidStop := ?_ }
  · simpa [GifImageView.startAnimatingGif, call] using loop
  · simpa [GifImageView.startAnimatingGif, call] using stop

theorem Position.stopAnimatingGif (position : Position gif loops earlier updates stops view) :
    Position gif loops earlier updates (stops + 1) view.stopAnimatingGif := by
  have loop := position.gifDidLoop
  have stop := position.gifDidStop
  refine { position with gifDidLoop := ?_, gifDidStop := ?_ }
  · simpa [GifImageView.stopAnimatingGif, call] using loop
  · simp [GifImageView.stopAnimatingGif, call, stop]
    omega

theorem Played.startAnimatingGif (played : Played gif loops earlier updates stops view) :
    Played gif loops earlier updates stops view.startAnimatingGif :=
  ⟨played.toPosition.startAnimatingGif, played.currentImage, played.finished⟩

theorem Played.stopAnimatingGif (played : Played gif loops earlier updates stops view) :
    Played gif loops earlier updates (stops + 1) view.stopAnimatingGif :=
  ⟨played.toPosition.stopAnimatingGif, played.currentImage, played.finished⟩

theorem Played.moved (played : Played gif loops earlier updates stops view)
    (isDisplayedInScreen isDiscarded : Bool) :
    Played gif loops earlier updates stops { view with
      isDisplayedInScreen := isDisplayedInScreen
      isDiscarded := isDiscarded } :=
  { played with }

theorem Played.evicted (played : Played gif loops earlier updates stops view)
    (kept : Nat → Bool) :
    Played gif loops earlier updates stops { view with cache := view.cache.keep kept } :=
  { played with agrees := played.agrees.keep kept }

/-- A refresh moves a view on by one update exactly if it plays and is displayed. -/
theorem Played.refreshed {after : GifImageView Picture} (playable : gif.IsPlayable)
    (played : Played gif loops earlier updates stops view) (refreshed : Refreshed view after) :
    Played gif loops earlier
      (updates + if view.isPlaying && view.displaying then 1 else 0) stops after := by
  have position := played.toPosition.showCurrentImage
  cases refreshed with
  | shown still only =>
      rw [still, Bool.false_and, if_neg Bool.false_ne_true, Nat.add_zero]
      exact Played.cacheOnly ⟨position, played.currentImage, played.finished⟩ only
  | taken playing hidden only =>
      rw [hidden, Bool.and_false, if_neg Bool.false_ne_true, Nat.add_zero]
      refine Played.cacheOnly ⟨position.setDisplaying _, played.currentImage, ?_⟩ only
      intro beyond
      exact decide_eq_false fun both => both.1 beyond
  | updated playing displaying same only =>
      rw [playing, displaying, Bool.and_true, if_pos rfl]
      have some_left : view.loopCount ≠ 0 := by
        intro beyond
        rw [played.finished beyond] at displaying
        cases displaying
      have lt : updates < gif.length loops := by
        refine played.within.lt_of_ne fun all => some_left ?_
        exact (played.loopCount_eq_zero_iff playable).mpr all
      have framed := updateFrame_eq position.gifImage position.agrees
      have index : view.showCurrentImage.displayOrderIndex = _ := position.displayOrderIndex
      rw [framed, index] at same
      obtain ⟨-, -, -, -, current⟩ := updateIndex_status
        (view.showCurrentImage.setCurrentImage
          (gif.frameAtIndex (gif.imagesShown updates % gif.imageCount)))
      subst same
      refine Played.cacheOnly
        ⟨((position.setCurrentImage _).updateIndex playable lt).setDisplaying _, ?_, ?_⟩ only
      · exact fun _ => current
      · intro beyond
        exact decide_eq_false fun both => both.1 beyond

theorem Refreshed.cacheOnly {before middle after : GifImageView Picture}
    (refreshed : Refreshed before middle) (only : CacheOnly middle after) :
    Refreshed before after := by
  cases refreshed with
  | shown still first => exact .shown still (first.trans only)
  | updated playing displaying same first =>
      exact .updated playing displaying same (first.trans only)
  | taken playing hidden first => exact .taken playing hidden (first.trans only)

/-- A refresh keeps whether a view plays and where it is, and displays what plays. -/
theorem Refreshed.status {before after : GifImageView Picture}
    (refreshed : Refreshed before after) :
    after.isPlaying = before.isPlaying ∧
      after.isDisplayedInScreen = before.isDisplayedInScreen ∧
      after.isDiscarded = before.isDiscarded ∧
      (before.isPlaying = true →
        after.displaying = decide (after.loopCount ≠ 0 ∧ before.isDisplayedInScreen)) := by
  cases refreshed with
  | shown still only =>
      rw [only.same]
      refine ⟨rfl, rfl, rfl, ?_⟩
      intro playing
      exact absurd playing (Bool.eq_false_iff.mp still)
  | updated playing displaying same only =>
      obtain ⟨-, plays, onScreen, discarded, -⟩ :=
        updateIndex_status before.showCurrentImage.updateFrame
      rw [← same] at plays onScreen discarded
      rw [only.same]
      exact ⟨plays, onScreen, discarded, fun _ => rfl⟩
  | taken playing hidden only =>
      rw [only.same]
      exact ⟨rfl, rfl, rfl, fun _ => rfl⟩

theorem prefix_updateIndex (view : GifImageView Picture) :
    view.delegateCalls <+: view.updateIndex.delegateCalls := by
  simp only [updateIndex]
  split
  case h_1 => exact List.prefix_rfl
  case h_2 =>
    split
    case isTrue =>
      split
      case isTrue =>
        split
        case isTrue =>
          simp only [endLoop]
          split
          case isTrue => exact List.prefix_append _ _
          case isFalse => split <;> exact List.prefix_append _ _
        case isFalse => exact List.prefix_rfl
      case isFalse => exact List.prefix_rfl
    case isFalse => exact List.prefix_rfl

theorem Refreshed.prefix_delegateCalls {before after : GifImageView Picture}
    (refreshed : Refreshed before after) : before.delegateCalls <+: after.delegateCalls := by
  cases refreshed with
  | shown still only => exact only.delegateCalls ▸ List.prefix_rfl
  | updated playing displaying same only =>
      rw [only.same, same]
      exact prefix_updateIndex before.showCurrentImage.updateFrame
  | taken playing hidden only => exact only.delegateCalls ▸ List.prefix_rfl

end GifImageView

/-! ## The manager -/

/-- A manager, and the image views there are. -/
structure SwiftyGifManager (View Picture : Type) where
  memoryLimit : ℤ
  totalGifSize : ℤ
  haveCache : Bool
  /-- The timer is set. -/
  timer : Bool
  displayViews : List View
  views : View → GifImageView Picture

namespace SwiftyGifManager

variable {View Picture : Type} [DecidableEq View]

/-- An event of the views: a GIF is set, the timer fires, a view starts or stops playing, comes and
goes on the screen and in the hierarchy, or loses entries of its cache. -/
inductive Event (View Picture : Type)
  | setGifImage (view : View) (gif : GifImage Picture) (loopCount : ℤ)
  | updateImageView
  | startAnimatingGif (view : View)
  | stopAnimatingGif (view : View)
  | moved (view : View) (isDisplayedInScreen isDiscarded : Bool)
  | evicted (view : View) (kept : Nat → Bool)

/-- `init(memoryLimit:)`, with views that have no GIF. -/
def initial (memoryLimit : ℤ) : SwiftyGifManager View Picture where
  memoryLimit := memoryLimit
  totalGifSize := 0
  haveCache := true
  timer := false
  displayViews := []
  views _ := .fresh

variable (manager : SwiftyGifManager View Picture) (view : View)

/-- One view changes. -/
def setView (changed : GifImageView Picture) : SwiftyGifManager View Picture :=
  { manager with views := fun other => if other = view then changed else manager.views other }

def updateCacheSize (add : Bool) : SwiftyGifManager View Picture :=
  let imageSize := ((manager.views view).gifImage.bind GifImage.imageSize).getD 0
  let totalGifSize := manager.totalGifSize + (if add then 1 else -1) * imageSize
  let haveCache := decide (totalGifSize ≤ manager.memoryLimit)
  { manager with
    totalGifSize := totalGifSize
    haveCache := haveCache
    views := fun other =>
      if other ∈ manager.displayViews then (manager.views other).updateCache haveCache
      else manager.views other }

/-- `addImageView` of a view that is not there yet. -/
def addImageView : SwiftyGifManager View Picture :=
  { manager.updateCacheSize view true with
    displayViews := manager.displayViews ++ [view]
    timer := true }

def deleteImageView : SwiftyGifManager View Picture :=
  if view ∈ manager.displayViews then
    updateCacheSize { manager with displayViews := manager.displayViews.erase view } view false
  else
    manager

def setGifImage (gif : GifImage Picture) (loopCount : ℤ) : SwiftyGifManager View Picture :=
  if gif.plan.imageCount.getD 0 < 1 then
    manager.setView view { manager.views view with image := some .whole }
  else
    let held := (manager.views view).hold gif loopCount
    match gif.imageSource 0 with
    | none => manager.setView view held
    | some picture =>
        let holding := manager.setView view (held.setCurrentImage (.picture picture))
        if view ∈ manager.displayViews then
          { holding with timer := true }
        else
          let added := holding.addImageView view
          added.setView view ((added.views view).startDisplay added.haveCache).startAnimatingGif

/-- What the timer does for one view. -/
def refresh (view : View) : SwiftyGifManager View Picture :=
  let found := manager.views view
  let refreshed := manager.setView view (found.refresh manager.haveCache)
  if found.isPlaying ∧ ¬ found.displaying ∧ found.isDiscarded then
    refreshed.deleteImageView view
  else
    refreshed

/-- The timer goes through the views as they are when it fires. -/
def updateImageView : SwiftyGifManager View Picture :=
  if manager.displayViews = [] then
    { manager with timer := false }
  else
    manager.displayViews.foldl refresh manager

/-- The transitions of the views: the timer fires while it is set. -/
def machine : Machine (SwiftyGifManager View Picture) (Event View Picture) where
  next manager
    | .setGifImage view gif loopCount => some (manager.setGifImage view gif loopCount)
    | .updateImageView => if manager.timer then some manager.updateImageView else none
    | .startAnimatingGif view =>
        some (manager.setView view (manager.views view).startAnimatingGif)
    | .stopAnimatingGif view => some (manager.setView view (manager.views view).stopAnimatingGif)
    | .moved view isDisplayedInScreen isDiscarded =>
        some (manager.setView view { manager.views view with
          isDisplayedInScreen := isDisplayedInScreen
          isDiscarded := isDiscarded })
    | .evicted view kept =>
        some (manager.setView view { manager.views view with
          cache := (manager.views view).cache.keep kept })

/-! ## What a refresh does to the views -/

section Refresh

variable {manager : SwiftyGifManager View Picture} {view other : View}

open GifImageView (CacheOnly Refreshed)

@[simp]
theorem setView_self (manager : SwiftyGifManager View Picture) (view : View)
    (changed : GifImageView Picture) : (manager.setView view changed).views view = changed :=
  if_pos rfl

theorem setView_of_ne (differs : other ≠ view) (changed : GifImageView Picture) :
    (manager.setView view changed).views other = manager.views other :=
  if_neg differs

theorem cacheOnly_updateCacheSize (manager : SwiftyGifManager View Picture) (view : View)
    (add : Bool) (other : View) :
    CacheOnly (manager.views other) ((manager.updateCacheSize view add).views other) := by
  simp only [updateCacheSize]
  split
  case isTrue => exact GifImageView.cacheOnly_updateCache _ _
  case isFalse => exact .refl _

theorem cacheOnly_deleteImageView (manager : SwiftyGifManager View Picture) (view other : View) :
    CacheOnly (manager.views other) ((manager.deleteImageView view).views other) := by
  rw [deleteImageView]
  split
  case isTrue =>
    exact cacheOnly_updateCacheSize
      { manager with displayViews := manager.displayViews.erase view } view false other
  case isFalse => exact .refl _

theorem refreshed_refresh_self (manager : SwiftyGifManager View Picture) (view : View) :
    Refreshed (manager.views view) ((manager.refresh view).views view) := by
  have refreshed := (manager.views view).refreshed_refresh manager.haveCache
  rw [refresh]
  split
  case isTrue =>
    have only := cacheOnly_deleteImageView
      (manager.setView view ((manager.views view).refresh manager.haveCache)) view view
    rw [setView_self] at only
    exact refreshed.cacheOnly only
  case isFalse =>
    rw [setView_self]
    exact refreshed

/-- Refreshing one view leaves the others alone but for their caches. -/
theorem cacheOnly_refresh (manager : SwiftyGifManager View Picture) (differs : other ≠ view) :
    CacheOnly (manager.views other) ((manager.refresh view).views other) := by
  rw [refresh]
  split
  case isTrue =>
    have only := cacheOnly_deleteImageView
      (manager.setView view ((manager.views view).refresh manager.haveCache)) view other
    rw [setView_of_ne differs] at only
    exact only
  case isFalse =>
    rw [setView_of_ne differs]
    exact .refl _

theorem cacheOnly_foldl {views : List View} (absent : view ∉ views) :
    CacheOnly (manager.views view) ((views.foldl refresh manager).views view) := by
  induction views generalizing manager with
  | nil => exact .refl _
  | cons first views ih =>
      have differs := List.ne_of_not_mem_cons absent
      have later := List.not_mem_of_not_mem_cons absent
      exact (cacheOnly_refresh manager differs).trans (ih later)

theorem refreshed_foldl (manager : SwiftyGifManager View Picture) {views : List View}
    (distinct : views.Nodup) (member : view ∈ views) :
    ∃ middle, CacheOnly (manager.views view) middle ∧
      Refreshed middle ((views.foldl refresh manager).views view) := by
  induction views generalizing manager with
  | nil => cases member
  | cons first views ih =>
      obtain ⟨absent, rest⟩ := List.nodup_cons.mp distinct
      by_cases same : view = first
      · subst same
        exact ⟨_, .refl _, (refreshed_refresh_self manager view).cacheOnly (cacheOnly_foldl absent)⟩
      · have later := (List.mem_cons.mp member).resolve_left same
        obtain ⟨middle, only, refreshed⟩ := ih (manager.refresh first) rest later
        exact ⟨middle, (cacheOnly_refresh manager same).trans only, refreshed⟩

theorem displayViews_refresh (manager : SwiftyGifManager View Picture) (view : View) :
    (manager.refresh view).timer = manager.timer ∧
      ((manager.refresh view).displayViews = manager.displayViews ∨
        (manager.views view).isDiscarded = true ∧
          (manager.refresh view).displayViews = manager.displayViews.erase view) := by
  rw [refresh]
  split
  case isTrue deleted =>
    rw [deleteImageView]
    split
    case isTrue => exact ⟨rfl, .inr ⟨deleted.2.2, rfl⟩⟩
    case isFalse => exact ⟨rfl, .inl rfl⟩
  case isFalse => exact ⟨rfl, .inl rfl⟩

theorem foldl_refresh (manager : SwiftyGifManager View Picture) (views : List View) :
    (views.foldl refresh manager).timer = manager.timer ∧
      (views.foldl refresh manager).displayViews.Sublist manager.displayViews := by
  induction views generalizing manager with
  | nil => exact ⟨rfl, .refl _⟩
  | cons first views ih =>
      obtain ⟨timer, displayed⟩ := displayViews_refresh manager first
      obtain ⟨timers, fewer⟩ := ih (manager.refresh first)
      refine ⟨timers.trans timer, fewer.trans ?_⟩
      rcases displayed with same | ⟨-, erased⟩
      · exact same ▸ .refl _
      · exact erased ▸ List.erase_sublist

theorem mem_foldl_refresh {views : List View} (listed : view ∈ manager.displayViews)
    (attached : (manager.views view).isDiscarded = false) :
    view ∈ (views.foldl refresh manager).displayViews := by
  induction views generalizing manager with
  | nil => exact listed
  | cons first views ih =>
      by_cases same : view = first
      · subst same
        have status := (refreshed_refresh_self manager view).status
        refine ih ?_ (status.2.2.1.trans attached)
        rcases (displayViews_refresh manager view).2 with kept | ⟨discarded, -⟩
        · exact kept ▸ listed
        · exact absurd (discarded.symm.trans attached) Bool.false_ne_true.symm
      · have only := cacheOnly_refresh manager same
        refine ih ?_ ?_
        · rcases (displayViews_refresh manager first).2 with kept | ⟨-, erased⟩
          · exact kept ▸ listed
          · exact erased ▸ (List.mem_erase_of_ne same).mpr listed
        · rw [only.same]
          exact attached

end Refresh

/-! ## Runs -/

/-- The views of a manager are different ones, and its timer is set while it has any. -/
structure Timed (manager : SwiftyGifManager View Picture) : Prop where
  distinct : manager.displayViews.Nodup
  timer : manager.displayViews ≠ [] → manager.timer = true

omit [DecidableEq View] in
theorem Timed.initial (memoryLimit : ℤ) :
    (initial memoryLimit : SwiftyGifManager View Picture).Timed :=
  ⟨List.nodup_nil, fun some_view => absurd rfl some_view⟩

variable {manager after : SwiftyGifManager View Picture} {view : View}
  {event : Event View Picture}

theorem Timed.setGifImage (timed : manager.Timed) (view : View) (gif : GifImage Picture)
    (loopCount : ℤ) : (manager.setGifImage view gif loopCount).Timed := by
  rw [SwiftyGifManager.setGifImage]
  split
  case isTrue => exact ⟨timed.distinct, timed.timer⟩
  case isFalse =>
    split
    case h_1 => exact ⟨timed.distinct, timed.timer⟩
    case h_2 =>
      split
      case isTrue => exact ⟨timed.distinct, fun _ => rfl⟩
      case isFalse absent =>
        refine ⟨?_, fun _ => rfl⟩
        exact List.nodup_append.mpr ⟨timed.distinct, List.pairwise_singleton _ view,
          fun other listed => List.forall_mem_singleton.mpr fun same => absent (same ▸ listed)⟩

theorem Timed.next (timed : manager.Timed) (step : machine.next manager event = some after) :
    after.Timed := by
  cases event with
  | setGifImage view gif loopCount =>
      cases step
      exact timed.setGifImage view gif loopCount
  | updateImageView =>
      obtain ⟨-, same⟩ := Option.ite_none_right_eq_some.mp step
      cases same
      rw [updateImageView]
      split
      case isTrue none_left => exact ⟨timed.distinct, fun some_view => absurd none_left some_view⟩
      case isFalse some_view =>
        obtain ⟨timer, fewer⟩ := foldl_refresh manager manager.displayViews
        exact ⟨fewer.nodup timed.distinct, fun _ => timer.trans (timed.timer some_view)⟩
  | startAnimatingGif view =>
      cases step
      exact ⟨timed.distinct, timed.timer⟩
  | stopAnimatingGif view =>
      cases step
      exact ⟨timed.distinct, timed.timer⟩
  | moved view isDisplayedInScreen isDiscarded =>
      cases step
      exact ⟨timed.distinct, timed.timer⟩
  | evicted view kept =>
      cases step
      exact ⟨timed.distinct, timed.timer⟩

theorem run_timed {events : List (Event View Picture)} (timed : manager.Timed)
    (execution : machine.run events manager = some after) : after.Timed :=
  Machine.run_invariant Timed Timed.next timed execution

/-- The timer has the delegates of the views called, and takes no call back. -/
theorem Timed.prefix_updateImageView (timed : manager.Timed) (view : View) :
    (manager.views view).delegateCalls <+: (manager.updateImageView.views view).delegateCalls := by
  rw [updateImageView]
  split
  case isTrue => exact List.prefix_rfl
  case isFalse =>
    by_cases member : view ∈ manager.displayViews
    · obtain ⟨middle, only, refreshed⟩ := refreshed_foldl manager timed.distinct member
      exact only.delegateCalls ▸ refreshed.prefix_delegateCalls
    · exact (cacheOnly_foldl member).delegateCalls ▸ List.prefix_rfl

/-- The event updates a view: the timer fires while the view plays and is displayed. -/
def Event.updates (manager : SwiftyGifManager View Picture) (view : View) :
    Event View Picture → Bool
  | .updateImageView => decide (view ∈ manager.displayViews) &&
      ((manager.views view).isPlaying && (manager.views view).displaying)
  | _ => false

/-- The event stops a view. -/
def Event.stops (view : View) : Event View Picture → Bool
  | .stopAnimatingGif other => decide (other = view)
  | _ => false

/-- The event sets a GIF to a view. -/
def Event.Sets (view : View) : Event View Picture → Prop
  | .setGifImage other _ _ => other = view
  | _ => False

/-- How often a run updates a view. -/
def updatesOf (view : View) : List (Event View Picture) → SwiftyGifManager View Picture → Nat
  | [], _ => 0
  | event :: events, manager =>
      (if event.updates manager view then 1 else 0) +
        (machine.next manager event).elim 0 (updatesOf view events)

open GifImageView (CacheOnly Played Position Refreshed)

variable {gif : GifImage Picture} {loops updates stops : Nat} {earlier : List DelegateCall}

/-- A GIF that is set is at its beginning. -/
theorem played_setGifImage (playable : gif.IsPlayable) (some_loop : 0 < loops)
    (manager : SwiftyGifManager View Picture) (view : View) :
    Played gif loops (manager.views view).delegateCalls 0 0
      ((manager.setGifImage view gif loops).views view) := by
  have position := GifImageView.position_hold gif loops (manager.views view)
  have begun : ∀ {begun : GifImageView Picture},
      Position gif loops (manager.views view).delegateCalls 0 0 begun →
        Played gif loops (manager.views view).delegateCalls 0 0 begun := by
    intro begun position
    refine ⟨position, fun updated => absurd updated (lt_irrefl 0), fun beyond => ?_⟩
    have loopCount := position.loopCount
    rw [beyond, GifImage.loopsOver, GifImage.imagesShown, Nat.zero_div, Nat.zero_div] at loopCount
    omega
  have counted : ¬ gif.plan.imageCount.getD 0 < 1 := by
    have positive := Int.pos_iff_toNat_pos.mpr playable.imageCount
    omega
  rw [setGifImage, if_neg counted]
  cases created : gif.imageSource 0 with
  | none =>
      simp only [setView_self]
      exact begun position
  | some picture =>
      simp only
      split
      case isTrue =>
        have set := position.setCurrentImage (.picture picture)
        rw [← setView_self manager view
          (((manager.views view).hold gif loops).setCurrentImage (.picture picture))] at set
        exact begun set
      case isFalse =>
        rw [setView_self]
        generalize holding_eq : manager.setView view
          (((manager.views view).hold gif loops).setCurrentImage (.picture picture)) = holding
        have shown : holding.views view = _ := holding_eq ▸ setView_self manager view _
        have only := cacheOnly_updateCacheSize holding view true view
        rw [shown] at only
        have added := (position.setCurrentImage (.picture picture)).cacheOnly only
        have displayed := (added.setDisplaying true).cacheOnly
          (GifImageView.cacheOnly_updateCache _ (holding.addImageView view).haveCache)
        exact begun displayed.startAnimatingGif

theorem cacheOnly_setGifImage {other : View} (differs : view ≠ other) (gif : GifImage Picture)
    (loopCount : ℤ) (manager : SwiftyGifManager View Picture) :
    CacheOnly (manager.views view) ((manager.setGifImage other gif loopCount).views view) := by
  have untouched : ∀ changed, CacheOnly (manager.views view)
      ((manager.setView other changed).views view) := by
    intro changed
    rw [setView_of_ne differs]
    exact .refl _
  rw [setGifImage]
  split
  case isTrue => exact untouched _
  case isFalse =>
    split
    case h_1 => exact untouched _
    case h_2 picture created =>
      simp only
      split
      case isTrue => exact untouched _
      case isFalse =>
        rw [setView_of_ne differs]
        exact (untouched _).trans (cacheOnly_updateCacheSize _ other true view)

theorem played_setView {changed : GifImageView Picture} {view other : View} {stops' : Nat}
    (played : Played gif loops earlier updates stops (manager.views view))
    (self : other = view → Played gif loops earlier updates stops' changed)
    (same : other ≠ view → stops' = stops) :
    Played gif loops earlier updates stops' ((manager.setView other changed).views view) := by
  by_cases equal : other = view
  · subst equal
    rw [setView_self]
    exact self rfl
  · rw [setView_of_ne (Ne.symm equal), same equal]
    exact played

/-- Every event of a view's run moves it on by the updates and stops that the event is. -/
theorem played_next (playable : gif.IsPlayable) (timed : manager.Timed)
    (played : Played gif loops earlier updates stops (manager.views view))
    (other_set : ¬ event.Sets view) (step : machine.next manager event = some after) :
    Played gif loops earlier (updates + if event.updates manager view then 1 else 0)
      (stops + if event.stops view then 1 else 0) (after.views view) := by
  cases event with
  | setGifImage other gif' loopCount =>
      cases step
      exact played.cacheOnly (cacheOnly_setGifImage (Ne.symm other_set) gif' loopCount manager)
  | updateImageView =>
      obtain ⟨-, same⟩ := Option.ite_none_right_eq_some.mp step
      cases same
      simp only [Event.updates, Event.stops, Bool.false_eq_true, if_false, Nat.add_zero]
      by_cases member : view ∈ manager.displayViews
      · obtain ⟨middle, only, refreshed⟩ := refreshed_foldl manager timed.distinct member
        have status : (middle.isPlaying && middle.displaying) =
            ((manager.views view).isPlaying && (manager.views view).displaying) := by
          rw [only.same]
        have some_view : manager.displayViews ≠ [] := List.ne_nil_of_mem member
        simp only [updateImageView, if_neg some_view, member, decide_true, Bool.true_and, ← status]
        exact (played.cacheOnly only).refreshed playable refreshed
      · simp only [member, decide_false, Bool.false_and, Bool.false_eq_true, if_false, Nat.add_zero,
          updateImageView]
        split
        case isTrue => exact played
        case isFalse => exact played.cacheOnly (cacheOnly_foldl member)
  | startAnimatingGif other =>
      cases step
      exact played_setView played (fun same => same ▸ played.startAnimatingGif) fun _ => rfl
  | stopAnimatingGif other =>
      cases step
      simp only [Event.stops]
      refine played_setView played ?_ ?_
      · rintro rfl
        simp only [decide_true, if_true]
        exact played.stopAnimatingGif
      · intro differs
        simp only [differs, decide_false, Bool.false_eq_true, if_false, Nat.add_zero]
  | moved other isDisplayedInScreen isDiscarded =>
      cases step
      exact played_setView played (fun same => same ▸ played.moved isDisplayedInScreen isDiscarded)
        fun _ => rfl
  | evicted other kept =>
      cases step
      exact played_setView played (fun same => same ▸ played.evicted kept) fun _ => rfl

theorem played_run {events : List (Event View Picture)} (playable : gif.IsPlayable)
    (timed : manager.Timed)
    (played : Played gif loops earlier updates stops (manager.views view))
    (others_set : ∀ event ∈ events, ¬ event.Sets view)
    (execution : machine.run events manager = some after) :
    Played gif loops earlier (updates + updatesOf view events manager)
      (stops + events.countP (Event.stops view)) (after.views view) := by
  induction events generalizing manager updates stops with
  | nil =>
      cases execution
      exact played
  | cons event events ih =>
      obtain ⟨middle, step, rest⟩ := Machine.run_cons_eq_some _ |>.mp execution
      obtain ⟨other_set, later⟩ := List.forall_mem_cons.mp others_set
      have updated := played_next playable timed played other_set step
      have moved := ih (timed.next step) updated later rest
      rw [updatesOf, step, Option.elim_some, ← Nat.add_assoc, List.countP_cons,
        Nat.add_comm (events.countP _), ← Nat.add_assoc]
      exact moved

/-- In every run after a GIF with images was set to a view, of updates, other views, starts and
stops, ways on and off the screen and lost caches: what the view shows and what its delegate has
heard of loops and of the end is determined by how often the timer has updated it, at most as often
as the loops have updates, and by how often it was stopped. -/
theorem run_played {memoryLimit : ℤ} {past events : List (Event View Picture)}
    (started : machine.run past (initial memoryLimit) = some manager)
    (playable : gif.IsPlayable) (some_loop : 0 < loops)
    (others_set : ∀ event ∈ events, ¬ event.Sets view)
    (execution : machine.run (.setGifImage view gif loops :: events) manager = some after) :
    Played gif loops (manager.views view).delegateCalls
      (updatesOf view events (manager.setGifImage view gif loops))
      (events.countP (Event.stops view)) (after.views view) := by
  obtain ⟨middle, step, rest⟩ := Machine.run_cons_eq_some _ |>.mp execution
  cases step
  have timed := (run_timed (.initial memoryLimit) started).setGifImage view gif loops
  have begun := played_setGifImage playable some_loop manager view
  have played := played_run playable timed begun others_set rest
  rwa [Nat.zero_add, Nat.zero_add] at played

/-- Three frames of a second each, as the plan of `UIImage.secondsApart` has them. -/
def threeSeconds : GifImage Nat where
  imageSource frame := some frame
  plan := UIImage.secondsPlan
  imageSize := some 1

/-- The view comes onto the screen, is updated, and updated again. -/
def updatedTwice : List (Event Unit Nat) :=
  [.moved () true false, .updateImageView, .updateImageView]

theorem threeSeconds_playable : threeSeconds.IsPlayable :=
  ⟨by decide, by decide⟩

theorem updatedTwice_played :
    ∃ after,
      machine.run (.setGifImage () threeSeconds 1 :: updatedTwice) (initial 50) = some after ∧
      Played threeSeconds 1 [] 2 0 (after.views ()) := by
  have runs : ∃ after, machine.run (.setGifImage () threeSeconds 1 :: updatedTwice) (initial 50) =
      some after := ⟨_, rfl⟩
  obtain ⟨after, execution⟩ := runs
  have others_set : ∀ event ∈ updatedTwice, ¬ event.Sets () := by
    simp [updatedTwice, Event.Sets]
  exact ⟨after, execution, @run_played _ _ _ _ _ _ _ 1 50 [] updatedTwice rfl threeSeconds_playable
    (by decide) others_set execution⟩

/-- After every update a view shows a frame of its GIF: the one that the plan shows at the image
that the updates so far have come to, counted on from the end to the beginning. -/
theorem run_showsFrame {memoryLimit : ℤ} {past events : List (Event View Picture)}
    {delays : List ℚ} {levelOfIntegrity : ℚ}
    (started : machine.run past (initial memoryLimit) = some manager)
    (chosen : UIImage.Chosen delays levelOfIntegrity gif.plan)
    (some_image : gif.plan.displayOrder ≠ [])
    (created : ∀ frame < delays.length, (gif.imageSource frame).isSome) (some_loop : 0 < loops)
    (others_set : ∀ event ∈ events, ¬ event.Sets view)
    (execution : machine.run (.setGifImage view gif loops :: events) manager = some after)
    (updated : 0 < updatesOf view events (manager.setGifImage view gif loops)) :
    ∃ frame picture,
      (after.views view).currentImage = some (.picture picture) ∧
      gif.imageSource frame = some picture ∧
      UIImage.IsFrameOf delays gif.plan.displayRefreshFactor
        (gif.imageAt (updatesOf view events (manager.setGifImage view gif loops))) frame := by
  have count : gif.imageCount = gif.plan.displayOrder.length := by
    rw [GifImage.imageCount, chosen.plans.imageCount]
    rfl
  have positive : 0 < gif.plan.displayOrder.length := List.length_pos_iff.mpr some_image
  have playable : gif.IsPlayable := ⟨count ▸ positive, chosen.displayRefreshFactor_pos⟩
  have shown := (run_played started playable some_loop others_set execution).currentImage updated
  generalize updatesOf view events (manager.setGifImage view gif loops) = updates at shown
  have bound : gif.imageAt updates < gif.plan.displayOrder.length :=
    count ▸ Nat.mod_lt _ playable.imageCount
  have ordered := List.getElem?_eq_getElem bound
  have isFrame := (chosen.plans.shows _ _).mp ordered
  have ⟨position, placed, _⟩ := isFrame
  have listed := (List.getElem?_eq_some_iff.mp placed).1
  rw [UIImage.length_displayPosition] at listed
  obtain ⟨picture, found⟩ := Option.isSome_iff_exists.mp (created _ listed)
  refine ⟨_, picture, ?_, found, isFrame⟩
  rw [shown, GifImage.frameAtIndex, ordered, Option.bind_some, found]

theorem updatedTwice_showsFrame :
    ∃ after delays frame picture,
      machine.run (.setGifImage () threeSeconds 1 :: updatedTwice) (initial 50) = some after ∧
      (after.views ()).currentImage = some (.picture picture) ∧
      threeSeconds.imageSource frame = some picture ∧
      UIImage.IsFrameOf delays 60 (threeSeconds.imageAt 2) frame := by
  have runs : ∃ after, machine.run (.setGifImage () threeSeconds 1 :: updatedTwice) (initial 50) =
      some after := ⟨_, rfl⟩
  obtain ⟨after, execution⟩ := runs
  obtain ⟨delays, chosen⟩ := UIImage.secondsApart_chosen
  have others_set : ∀ event ∈ updatedTwice, ¬ event.Sets () := by
    simp [updatedTwice, Event.Sets]
  obtain ⟨frame, picture, shown, found, isFrame⟩ := @run_showsFrame _ _ _ _ _ _ _ 1 50 []
    updatedTwice delays _ rfl chosen (by decide) (fun _ _ => rfl) (by decide) others_set execution
    (by decide)
  exact ⟨after, delays, frame, picture, execution, shown, found, isFrame⟩

/-! ## The end -/

/-- A view that plays on the screen of its manager. -/
structure Plays (manager : SwiftyGifManager View Picture) (view : View) : Prop where
  listed : view ∈ manager.displayViews
  isPlaying : (manager.views view).isPlaying = true
  isDisplayedInScreen : (manager.views view).isDisplayedInScreen = true
  isDiscarded : (manager.views view).isDiscarded = false

theorem Plays.next (plays : manager.Plays view) (timed : manager.Timed) :
    ∃ after, machine.next manager .updateImageView = some after ∧ after.Plays view ∧
      (after.views view).displaying = decide ((after.views view).loopCount ≠ 0) := by
  have some_view : manager.displayViews ≠ [] := List.ne_nil_of_mem plays.listed
  obtain ⟨middle, only, refreshed⟩ := refreshed_foldl manager timed.distinct plays.listed
  have status := refreshed.status
  rw [only.same] at status
  obtain ⟨playing, onScreen, discarded, displayed⟩ := status
  refine ⟨manager.displayViews.foldl refresh manager, ?_, ?_, ?_⟩
  · simp only [machine, timed.timer some_view, if_true, updateImageView, if_neg some_view]
  · exact ⟨mem_foldl_refresh plays.listed plays.isDiscarded, playing.trans plays.isPlaying,
      onScreen.trans plays.isDisplayedInScreen, discarded.trans plays.isDiscarded⟩
  · have displayed := displayed plays.isPlaying
    simpa only [plays.isDisplayedInScreen, and_true] using displayed

/-- A view that plays on the screen comes to the end, at the latest one refresh after as many as it
has updates to go. -/
theorem Plays.run_finished (playable : gif.IsPlayable) (plays : manager.Plays view)
    (timed : manager.Timed)
    (played : Played gif loops earlier updates stops (manager.views view)) {refreshes : Nat}
    (enough : gif.length loops ≤ updates + refreshes)
    (taken : updates < gif.length loops → (manager.views view).displaying = false →
      gif.length loops < updates + refreshes) :
    ∃ after, machine.run (List.replicate refreshes .updateImageView) manager = some after ∧
      Played gif loops earlier (gif.length loops) stops (after.views view) := by
  induction refreshes generalizing manager updates with
  | zero =>
      have same : updates = gif.length loops := le_antisymm played.within enough
      exact ⟨manager, rfl, same ▸ played⟩
  | succ refreshes ih =>
      obtain ⟨after, step, stays, displayed⟩ := plays.next timed
      have moved := played_next playable timed played id step
      simp only [Event.updates, Event.stops, plays.listed, plays.isPlaying, decide_true,
        Bool.true_and, Bool.false_eq_true, if_false, Nat.add_zero] at moved
      have enough' : gif.length loops ≤
          updates + (if (manager.views view).displaying = true then 1 else 0) + refreshes := by
        rcases played.within.lt_or_eq with lt | all
        · cases displaying : (manager.views view).displaying with
          | true =>
              simp only [if_true]
              omega
          | false =>
              have later := taken lt displaying
              simp only [Bool.false_eq_true, if_false]
              omega
        · omega
      obtain ⟨final, rest, finished⟩ := ih stays (timed.next step) moved enough' (by
        intro lt hidden
        have some_left := moved.loopCount_pos lt
        rw [displayed, decide_eq_true some_left.ne'] at hidden
        cases hidden)
      exact ⟨final, (Machine.run_cons_eq_some _).mpr ⟨after, step, rest⟩, finished⟩

/-- Wherever a run has taken a view that plays on the screen: as many refreshes as it has updates to
go, and one, bring it to the end of its last loop, of which its delegate hears exactly once, and not
before. -/
theorem run_exists_end {memoryLimit : ℤ} {past events : List (Event View Picture)}
    (started : machine.run past (initial memoryLimit) = some manager)
    (playable : gif.IsPlayable) (some_loop : 0 < loops)
    (others_set : ∀ event ∈ events, ¬ event.Sets view)
    (execution : machine.run (.setGifImage view gif loops :: events) manager = some after)
    (plays : after.Plays view) :
    ∃ refreshes final, machine.run (List.replicate refreshes .updateImageView) after = some final ∧
      refreshes + updatesOf view events (manager.setGifImage view gif loops) =
        gif.length loops + 1 ∧
      (after.views view).delegateCalls.count .gifDidStop =
        (manager.views view).delegateCalls.count .gifDidStop + events.countP (Event.stops view) +
          (if updatesOf view events (manager.setGifImage view gif loops) = gif.length loops then 1
            else 0) ∧
      (final.views view).delegateCalls.count .gifDidStop =
        (manager.views view).delegateCalls.count .gifDidStop + events.countP (Event.stops view) +
          1 := by
  have played := run_played started playable some_loop others_set execution
  have timed := run_timed (run_timed (.initial memoryLimit) started) execution
  generalize counted : updatesOf view events (manager.setGifImage view gif loops) = updates
    at played
  obtain ⟨final, rest, finished⟩ := @Plays.run_finished _ _ _ after view gif loops updates
    (events.countP (Event.stops view)) (manager.views view).delegateCalls playable plays timed
    played (gif.length loops - updates + 1) (by omega) (by omega)
  have within := played.within
  refine ⟨_, final, rest, by omega, ?_, ?_⟩
  · rw [played.gifDidStop, playable.loopsOver_sub some_loop within]
  · rw [finished.gifDidStop, playable.loopsOver_sub some_loop le_rfl, if_pos rfl]

theorem updatedTwice_exists_end :
    ∃ after refreshes final,
      machine.run (.setGifImage () threeSeconds 1 :: updatedTwice) (initial 50) = some after ∧
      machine.run (List.replicate refreshes .updateImageView) after = some final ∧
      refreshes = 179 ∧ (final.views ()).delegateCalls.count .gifDidStop = 1 := by
  have runs : ∃ after, machine.run (.setGifImage () threeSeconds 1 :: updatedTwice) (initial 50) =
      some after ∧ after.Plays () := ⟨_, rfl, by decide, rfl, rfl, rfl⟩
  obtain ⟨after, execution, plays⟩ := runs
  have others_set : ∀ event ∈ updatedTwice, ¬ event.Sets () := by
    simp [updatedTwice, Event.Sets]
  obtain ⟨refreshes, final, rest, count, -, stopped⟩ := @run_exists_end _ _ _ _ _ _ _ 1 50 []
    updatedTwice rfl threeSeconds_playable (by decide) others_set execution plays
  exact ⟨after, refreshes, final, execution, rest, by
    change refreshes + 2 = 181 at count
    omega, stopped⟩

end SwiftyGifManager

end Celeste
