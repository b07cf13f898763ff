import Mathlib.Data.List.Basic

/-!
# Screens presented over each other

Screens are up in a row, the root first, each presented by the one before it.  A screen that
presents another one takes up no further call to present, and a screen that is dismissed takes down
what it presents or, with nothing over it, itself.
-/

/-- A screen that is up, and how many of its calls to present were taken up. -/
structure Presented (Screen : Type*) where
  screen : Screen
  shown : Nat

/-- The screens that are up, the root first. -/
abbrev Presentation (Screen : Type*) := List (Presented Screen)

namespace Presentation

variable {Screen : Type*}

/-- The root alone. -/
def launched (root : Screen) : Presentation Screen :=
  [{ screen := root, shown := 0 }]

/-- The screen at a place. -/
def screen? (up : Presentation Screen) (index : Nat) : Option Screen :=
  up[index]?.map Presented.screen

/-- A screen changes. -/
def move (up : Presentation Screen) (index : Nat) (screen : Screen) : Presentation Screen :=
  up.modify index fun presented => { presented with screen }

/-- A screen calls to present another one. -/
def present (up : Presentation Screen) (index : Nat) (screen : Screen) : Presentation Screen :=
  if index + 1 = up.length then
    up.modify index (fun presented => { presented with shown := presented.shown + 1 }) ++
      [{ screen, shown := 0 }]
  else
    up

/-- A screen is dismissed; the root stays. -/
def dismiss (up : Presentation Screen) (index : Nat) : Presentation Screen :=
  if index + 1 < up.length then
    up.take (index + 1)
  else if index = 0 then
    up
  else
    up.take index

variable {up : Presentation Screen} {index other : Nat} {screen : Screen}

@[simp]
theorem length_move (up : Presentation Screen) (index : Nat) (screen : Screen) :
    (up.move index screen).length = up.length :=
  List.length_modify _ _ _

theorem screen?_move_self (bound : index < up.length) :
    (up.move index screen).screen? index = some screen := by
  rw [screen?, move, List.getElem?_modify_eq, List.getElem?_eq_getElem bound]
  rfl

theorem screen?_move_of_ne (differs : other ≠ index) :
    (up.move index screen).screen? other = up.screen? other := by
  rw [screen?, move, List.getElem?_modify_ne _ _ differs.symm]
  rfl

theorem lt_length_of_screen? (found : up.screen? index = some screen) : index < up.length := by
  obtain ⟨presented, found, -⟩ := Option.map_eq_some_iff.mp found
  exact (List.getElem?_eq_some_iff.mp found).1

theorem exists_screen? (bound : index < up.length) : ∃ screen, up.screen? index = some screen :=
  ⟨up[index].screen, by rw [screen?, List.getElem?_eq_getElem bound]; rfl⟩

/-- A call to present from below the top changes nothing. -/
theorem present_of_covered (covered : index + 1 ≠ up.length) : up.present index screen = up :=
  if_neg covered

section Top

variable (top : index + 1 = up.length)

include top

theorem length_present : (up.present index screen).length = up.length + 1 := by
  rw [present, if_pos top, List.length_append, List.length_modify, List.length_singleton]

theorem screen?_present_last : (up.present index screen).screen? up.length = some screen := by
  rw [screen?, present, if_pos top, List.getElem?_append_right (by simp),
    List.length_modify, Nat.sub_self]
  rfl

theorem screen?_present_of_lt (bound : other < up.length) :
    (up.present index screen).screen? other = up.screen? other := by
  rw [screen?, present, if_pos top, List.getElem?_append_left (by rwa [List.length_modify]),
    List.getElem?_modify, screen?]
  cases up[other]? with
  | none => rfl
  | some presented =>
      by_cases same : index = other
      · simp [same]
      · simp [same]

end Top

theorem exists_dismiss_eq (up : Presentation Screen) (index : Nat) :
    ∃ count, 0 < count ∧ up.dismiss index = up.take count := by
  unfold dismiss
  split
  · exact ⟨index + 1, Nat.succ_pos _, rfl⟩
  · split
    · exact ⟨up.length + 1, Nat.succ_pos _, (List.take_of_length_le (Nat.le_succ _)).symm⟩
    · exact ⟨index, Nat.pos_of_ne_zero ‹_›, rfl⟩

theorem screen?_take {count : Nat} (found : screen? (up.take count) index = some screen) :
    index < count ∧ up.screen? index = some screen := by
  rw [screen?, List.getElem?_take] at found
  split at found
  · exact ⟨‹_›, found⟩
  · cases found

theorem dismiss_top (top : index + 1 = up.length) (above : 0 < index) :
    up.dismiss index = up.take index := by
  rw [dismiss, if_neg (by omega), if_neg (by omega)]

/-! ## What holds of all screens that are up -/

/-- The root, every screen, and every screen with the one it presents meet a condition. -/
structure WellFormed (Root Good : Screen → Prop) (Presents : Screen → Screen → Prop)
    (up : Presentation Screen) : Prop where
  root : ∃ root, up.screen? 0 = some root ∧ Root root
  good : ∀ {index screen}, up.screen? index = some screen → Good screen
  presents : ∀ {index below above}, up.screen? index = some below →
    up.screen? (index + 1) = some above → Presents below above

variable {Root Good : Screen → Prop} {Presents : Screen → Screen → Prop}

theorem WellFormed.launched {root : Screen} (isRoot : Root root) (good : Good root) :
    WellFormed Root Good Presents (launched root) where
  root := ⟨root, rfl, isRoot⟩
  good := by
    intro index screen found
    cases index with
    | zero =>
        cases found
        exact good
    | succ index => cases found
  presents := by
    intro index below above _ found
    cases found

/-- A screen may change to one that meets the same conditions with its neighbours. -/
theorem WellFormed.move (wellFormed : WellFormed Root Good Presents up) {before : Screen}
    (found : up.screen? index = some before) (root : Root before → Root screen)
    (good : Good screen) (below : ∀ other, Presents other before → Presents other screen)
    (above : ∀ other, Presents before other → Presents screen other) :
    WellFormed Root Good Presents (up.move index screen) where
  root := by
    by_cases first : 0 = index
    · subst first
      obtain ⟨old, found', isRoot⟩ := wellFormed.root
      cases found.symm.trans found'
      exact ⟨screen, screen?_move_self (lt_length_of_screen? found), root isRoot⟩
    · rw [screen?_move_of_ne first]
      exact wellFormed.root
  good := by
    intro other shown found'
    by_cases same : other = index
    · subst same
      rw [screen?_move_self (lt_length_of_screen? found)] at found'
      cases found'
      exact good
    · rw [screen?_move_of_ne same] at found'
      exact wellFormed.good found'
  presents := by
    intro other lower upper lowerFound upperFound
    by_cases same : other = index
    · subst same
      rw [screen?_move_self (lt_length_of_screen? found)] at lowerFound
      rw [screen?_move_of_ne (Nat.succ_ne_self other)] at upperFound
      cases lowerFound
      exact above upper (wellFormed.presents found upperFound)
    · rw [screen?_move_of_ne same] at lowerFound
      by_cases next : other + 1 = index
      · subst next
        rw [screen?_move_self (lt_length_of_screen? found)] at upperFound
        cases upperFound
        exact below lower (wellFormed.presents lowerFound found)
      · rw [screen?_move_of_ne next] at upperFound
        exact wellFormed.presents lowerFound upperFound

theorem WellFormed.present (wellFormed : WellFormed Root Good Presents up) {presenter : Screen}
    (found : up.screen? index = some presenter) (good : Good screen)
    (presents : Presents presenter screen) :
    WellFormed Root Good Presents (up.present index screen) := by
  by_cases top : index + 1 = up.length
  · have earlier : ∀ {place shown}, (up.present index screen).screen? place = some shown →
        place < up.length ∧ up.screen? place = some shown ∨
          place = up.length ∧ shown = screen := by
      intro place shown placed
      have bound := lt_length_of_screen? placed
      rw [length_present top] at bound
      by_cases last : place = up.length
      · subst last
        rw [screen?_present_last top] at placed
        exact .inr ⟨rfl, (Option.some.inj placed).symm⟩
      · rw [screen?_present_of_lt top (by omega)] at placed
        exact .inl ⟨by omega, placed⟩
    constructor
    · obtain ⟨root, first, isRoot⟩ := wellFormed.root
      exact ⟨root, by rwa [screen?_present_of_lt top (by omega)], isRoot⟩
    · intro place shown placed
      rcases earlier placed with ⟨-, old⟩ | ⟨-, rfl⟩
      · exact wellFormed.good old
      · exact good
    · intro place below above lower upper
      rcases earlier upper with ⟨bound, old⟩ | ⟨last, rfl⟩
      · rw [screen?_present_of_lt top (by omega)] at lower
        exact wellFormed.presents lower old
      · have same : place = index := by omega
        subst same
        rw [screen?_present_of_lt top (by omega)] at lower
        cases found.symm.trans lower
        exact presents
  · rw [present_of_covered top]
    exact wellFormed

theorem WellFormed.take (wellFormed : WellFormed Root Good Presents up) {count : Nat}
    (positive : 0 < count) : WellFormed Root Good Presents (up.take count) where
  root := by
    obtain ⟨root, first, isRoot⟩ := wellFormed.root
    refine ⟨root, ?_, isRoot⟩
    rw [screen?, List.getElem?_take, if_pos positive]
    exact first
  good found := wellFormed.good (screen?_take found).2
  presents lower upper := wellFormed.presents (screen?_take lower).2 (screen?_take upper).2

theorem WellFormed.dismiss (wellFormed : WellFormed Root Good Presents up) (index : Nat) :
    WellFormed Root Good Presents (up.dismiss index) := by
  obtain ⟨count, positive, same⟩ := up.exists_dismiss_eq index
  rw [same]
  exact wellFormed.take positive

end Presentation
