import Mathlib.Order.Bounds.Basic

/-!
# Civil days in a time zone

A time zone reads a clock at every instant, both in seconds.  The clock may be put forward, so that
readings are skipped, and back, so that they repeat; a day may start late, or be skipped whole.
Moving by days keeps the time of day.  Of the instants at which a repeated time is shown it takes
the one at the offset the clock has as many times 24 hours away, so that it can miss the first.
-/

/-- A clock that comes to every reading.  Some time of day is skipped on no day that occurs. -/
structure TimeZone where
  localTime : ℤ → ℤ
  /-- The first instant at which the clock has come to a reading. -/
  firstInstant : ℤ → ℤ
  least : ∀ reading, IsLeast {instant | reading ≤ localTime instant} (firstInstant reading)
  /-- The last instant of a reading that is shown. -/
  lastInstant : ℤ → ℤ
  latest : ∀ {reading instant : ℤ}, localTime instant = reading →
    localTime (lastInstant reading) = reading ∧ instant ≤ lastInstant reading
  steadyTime : ℤ
  steadyTime_range : 0 ≤ steadyTime ∧ steadyTime < 86400
  steady : ∀ instant,
    localTime (firstInstant (localTime instant / 86400 * 86400 + steadyTime)) =
      localTime instant / 86400 * 86400 + steadyTime

namespace TimeZone

variable (zone : TimeZone)

/-- The civil day of an instant. -/
def day (instant : ℤ) : ℤ :=
  zone.localTime instant / 86400

/-- The first instant of a day, or of the next one that occurs. -/
def startOfDay (day : ℤ) : ℤ :=
  zone.firstInstant (day * 86400)

/-- The day is not skipped. -/
def Occurs (day : ℤ) : Prop :=
  zone.day (zone.startOfDay day) = day

instance (day : ℤ) : Decidable (zone.Occurs day) :=
  inferInstanceAs (Decidable (_ = _))

/-- The time of day at which a day starts. -/
def startTime (day : ℤ) : ℤ :=
  zone.localTime (zone.startOfDay day) - day * 86400

/-- The instant of a reading given by its components: the last one of a reading that repeats, and
the next that is shown for one that is skipped. -/
def instantOf (reading : ℤ) : ℤ :=
  if zone.localTime (zone.lastInstant reading) = reading then zone.lastInstant reading
  else zone.firstInstant reading

/-- The instant, days away from another, of the same time of day at the offset the clock has as many
times 24 hours away. -/
def keptInstant (count instant : ℤ) : ℤ :=
  let kept := instant + count * 86400
  kept + (zone.localTime instant + count * 86400 - zone.localTime kept)

/-- Move an instant by days at the same time of day: to that instant, if it shows the time.  A time
that is skipped becomes the next one that is not. -/
def addDays (count instant : ℤ) : ℤ :=
  let reading := zone.localTime instant + count * 86400
  if zone.localTime (zone.keptInstant count instant) = reading then zone.keptInstant count instant
  else zone.firstInstant reading

/-- Moving an instant by days leads to a repetition of the time of day, not to its first instant. -/
def LeadsToRepetition (count instant : ℤ) : Prop :=
  zone.localTime (zone.keptInstant count instant) = zone.localTime instant + count * 86400 ∧
    zone.keptInstant count instant ≠ zone.firstInstant (zone.localTime instant + count * 86400)

instance (count instant : ℤ) : Decidable (zone.LeadsToRepetition count instant) :=
  inferInstanceAs (Decidable (_ ∧ _))

/-- An instant for a reading: one that shows it, or the first at which the clock has come to it. -/
def Meets (reading instant : ℤ) : Prop :=
  zone.localTime instant = reading ∨ instant = zone.firstInstant reading

variable {zone}

theorem le_localTime_firstInstant (reading : ℤ) :
    reading ≤ zone.localTime (zone.firstInstant reading) :=
  (zone.least reading).1

theorem firstInstant_le {reading instant : ℤ} (reached : reading ≤ zone.localTime instant) :
    zone.firstInstant reading ≤ instant :=
  (zone.least reading).2 reached

theorem firstInstant_mono {early late : ℤ} (order : early ≤ late) :
    zone.firstInstant early ≤ zone.firstInstant late :=
  firstInstant_le (order.trans (le_localTime_firstInstant late))

theorem localTime_lt {reading instant : ℤ} (early : instant < zone.firstInstant reading) :
    zone.localTime instant < reading := by
  by_contra reached
  exact absurd (firstInstant_le (not_lt.mp reached)) (not_le.mpr early)

theorem le_day_iff {day instant : ℤ} :
    day ≤ zone.day instant ↔ day * 86400 ≤ zone.localTime instant := by
  rw [TimeZone.day]
  omega

theorem day_eq_of_range {day instant : ℤ} (reached : day * 86400 ≤ zone.localTime instant)
    (within : zone.localTime instant < day * 86400 + 86400) : zone.day instant = day := by
  rw [TimeZone.day]
  omega

theorem le_day_startOfDay (day : ℤ) : day ≤ zone.day (zone.startOfDay day) :=
  le_day_iff.mpr (le_localTime_firstInstant (day * 86400))

theorem startOfDay_le {day instant : ℤ} (reached : day ≤ zone.day instant) :
    zone.startOfDay day ≤ instant :=
  firstInstant_le (le_day_iff.mp reached)

theorem startOfDay_mono {early late : ℤ} (order : early ≤ late) :
    zone.startOfDay early ≤ zone.startOfDay late :=
  firstInstant_mono (by omega)

theorem localTime_steady (instant : ℤ) :
    zone.localTime (zone.firstInstant (zone.day instant * 86400 + zone.steadyTime)) =
      zone.day instant * 86400 + zone.steadyTime :=
  zone.steady instant

/-- Up to the first instant of a day's steady time the clock shows no later time. -/
theorem localTime_le_steady {instant before : ℤ}
    (early : before ≤ zone.firstInstant (zone.day instant * 86400 + zone.steadyTime)) :
    zone.localTime before ≤ zone.day instant * 86400 + zone.steadyTime := by
  rcases eq_or_lt_of_le early with same | earlier
  · rw [same, localTime_steady]
  · exact (localTime_lt earlier).le

theorem occurs_day (instant : ℤ) : zone.Occurs (zone.day instant) := by
  have range := zone.steadyTime_range
  have early : zone.startOfDay (zone.day instant) ≤
      zone.firstInstant (zone.day instant * 86400 + zone.steadyTime) :=
    firstInstant_mono (by omega)
  have bound := localTime_le_steady early
  exact day_eq_of_range (le_localTime_firstInstant _) (by omega)

theorem localTime_startOfDay (day : ℤ) :
    zone.localTime (zone.startOfDay day) = day * 86400 + zone.startTime day := by
  rw [startTime]
  omega

theorem startTime_nonneg (day : ℤ) : 0 ≤ zone.startTime day := by
  have reached : day * 86400 ≤ zone.localTime (zone.startOfDay day) :=
    le_localTime_firstInstant (day * 86400)
  rw [startTime]
  omega

theorem startTime_le {day : ℤ} (occurs : zone.Occurs day) :
    zone.startTime day ≤ zone.steadyTime := by
  have range := zone.steadyTime_range
  have early : zone.startOfDay day ≤
      zone.firstInstant (zone.day (zone.startOfDay day) * 86400 + zone.steadyTime) := by
    rw [occurs]
    exact firstInstant_mono (by omega)
  have bound := localTime_le_steady early
  rw [occurs] at bound
  rw [startTime]
  omega

theorem meets_firstInstant (reading : ℤ) : zone.Meets reading (zone.firstInstant reading) :=
  .inr rfl

theorem meets_instantOf (reading : ℤ) : zone.Meets reading (zone.instantOf reading) := by
  rw [instantOf]
  split
  case isTrue shown => exact .inl shown
  case isFalse => exact .inr rfl

theorem meets_addDays (count instant : ℤ) :
    zone.Meets (zone.localTime instant + count * 86400) (zone.addDays count instant) := by
  simp only [addDays]
  split
  case isTrue shown => exact .inl shown
  case isFalse => exact .inr rfl

theorem Meets.le_localTime {reading instant : ℤ} (meets : zone.Meets reading instant) :
    reading ≤ zone.localTime instant := by
  rcases meets with shown | first
  · exact shown.ge
  · exact first ▸ le_localTime_firstInstant reading

theorem Meets.firstInstant_le {reading instant : ℤ} (meets : zone.Meets reading instant) :
    zone.firstInstant reading ≤ instant :=
  TimeZone.firstInstant_le meets.le_localTime

@[simp]
theorem addDays_zero (instant : ℤ) : zone.addDays 0 instant = instant := by
  have kept : zone.keptInstant 0 instant = instant := by
    simp only [keptInstant, Int.zero_mul, Int.add_zero]
    omega
  simp [addDays, kept]

/-- Unless it leads to a repetition, moving by days takes the first instant of the time. -/
theorem addDays_of_not_leadsToRepetition {count instant : ℤ}
    (first : ¬ zone.LeadsToRepetition count instant) :
    zone.addDays count instant = zone.firstInstant (zone.localTime instant + count * 86400) := by
  simp only [addDays]
  split
  case isTrue shown => exact not_not.mp fun different => first ⟨shown, different⟩
  case isFalse => rfl

theorem addDays_of_leadsToRepetition {count instant : ℤ}
    (repeated : zone.LeadsToRepetition count instant) :
    zone.addDays count instant = zone.keptInstant count instant := by
  simp only [addDays]
  exact if_pos repeated.1

theorem localTime_startOfDay_add (count day : ℤ) :
    zone.localTime (zone.startOfDay day) + count * 86400 =
      (day + count) * 86400 + zone.startTime day := by
  rw [localTime_startOfDay]
  omega

/-- Moving the start of a day by days leads to the start of the other day exactly if that day does
not start at an earlier time and the time is not met at a repetition. -/
theorem addDays_eq_startOfDay_iff {count day : ℤ} :
    zone.addDays count (zone.startOfDay day) = zone.startOfDay (day + count) ↔
      zone.startTime day ≤ zone.startTime (day + count) ∧
        ¬ zone.LeadsToRepetition count (zone.startOfDay day) := by
  have late_start : 0 ≤ zone.startTime day := startTime_nonneg day
  have other_start := zone.localTime_startOfDay (day + count)
  have reached : (day + count) * 86400 + zone.startTime day ≤
      zone.localTime (zone.addDays count (zone.startOfDay day)) := by
    rw [← localTime_startOfDay_add]
    exact (meets_addDays count _).le_localTime
  constructor
  · intro same
    rw [same, other_start] at reached
    refine ⟨by omega, ?_⟩
    intro repeated
    -- the start of a day is the first instant of what it shows
    have kept := addDays_of_leadsToRepetition repeated
    apply repeated.2
    rw [← repeated.1, ← kept, same, startOfDay]
    exact le_antisymm (firstInstant_mono (le_localTime_firstInstant _))
      (TimeZone.firstInstant_le le_rfl)
  · rintro ⟨order, first⟩
    rw [addDays_of_not_leadsToRepetition first, localTime_startOfDay_add]
    apply le_antisymm
    · apply firstInstant_le
      rw [localTime_startOfDay]
      omega
    · exact firstInstant_mono (by omega)

theorem startTime_of_skipped {day : ℤ} (skipped : ¬ zone.Occurs day) :
    86400 ≤ zone.startTime day := by
  have entered : day ≤ zone.day (zone.startOfDay day) := le_day_startOfDay day
  have later : day + 1 ≤ zone.day (zone.startOfDay day) := by
    have different : zone.day (zone.startOfDay day) ≠ day := skipped
    omega
  have reading := le_day_iff.mp later
  rw [startTime]
  omega

theorem addDays_of_skipped {count day : ℤ} (occurs : zone.Occurs day)
    (skipped : ¬ zone.Occurs (day + count)) :
    zone.addDays count (zone.startOfDay day) = zone.startOfDay (day + count) := by
  have range := zone.steadyTime_range
  have early_start := startTime_le occurs
  have start := zone.startTime_nonneg day
  have late_start := startTime_of_skipped skipped
  refine addDays_eq_startOfDay_iff.mpr ⟨by omega, ?_⟩
  intro repeated
  have reading := repeated.1
  rw [localTime_startOfDay_add] at reading
  have same := @day_eq_of_range zone (day + count) _ (by rw [reading]; omega)
    (by rw [reading]; omega)
  exact skipped (same ▸ occurs_day (zone.keptInstant count (zone.startOfDay day)))

/-- A skipped day and all days up to the next that occurs have one start. -/
theorem startOfDay_day_startOfDay (day : ℤ) :
    zone.startOfDay (zone.day (zone.startOfDay day)) = zone.startOfDay day := by
  apply le_antisymm
  · exact startOfDay_le le_rfl
  · exact startOfDay_mono (le_day_startOfDay day)

theorem not_occurs_of_lt {day between : ℤ} (order : day ≤ between)
    (earlier : between < zone.day (zone.startOfDay day)) : ¬ zone.Occurs between := by
  intro occurs
  have same : zone.startOfDay between = zone.startOfDay day := by
    apply le_antisymm
    · exact startOfDay_le earlier.le
    · exact startOfDay_mono order
  rw [Occurs, same] at occurs
  omega

/-! ## Times of day -/

variable (zone) in
/-- The time of day at an instant. -/
def timeOfDay (instant : ℤ) : ℤ :=
  zone.localTime instant % 86400

variable (zone) in
/-- An instant that shows no later time than is read on every day. -/
def Early (instant : ℤ) : Prop :=
  zone.timeOfDay instant ≤ zone.steadyTime

instance (instant : ℤ) : Decidable (zone.Early instant) :=
  inferInstanceAs (Decidable (_ ≤ _))

variable (zone) in
theorem localTime_eq (instant : ℤ) :
    zone.localTime instant = zone.day instant * 86400 + zone.timeOfDay instant := by
  rw [TimeZone.day, timeOfDay]
  omega

variable (zone) in
theorem timeOfDay_range (instant : ℤ) :
    0 ≤ zone.timeOfDay instant ∧ zone.timeOfDay instant < 86400 := by
  rw [timeOfDay]
  omega

/-- A reading of a day up to the steady time is come to on that day, at an early instant. -/
theorem localTime_firstInstant_le {day time : ℤ} (occurs : zone.Occurs day)
    (early : time ≤ zone.steadyTime) :
    zone.localTime (zone.firstInstant (day * 86400 + time)) ≤ day * 86400 + zone.steadyTime := by
  have order : zone.firstInstant (day * 86400 + time) ≤
      zone.firstInstant (zone.day (zone.startOfDay day) * 86400 + zone.steadyTime) := by
    rw [occurs]
    exact firstInstant_mono (by omega)
  have bound := localTime_le_steady order
  rwa [occurs] at bound

theorem Meets.day_early {day time instant : ℤ}
    (meets : zone.Meets (day * 86400 + time) instant) (occurs : zone.Occurs day)
    (start : 0 ≤ time) (early : time ≤ zone.steadyTime) :
    zone.day instant = day ∧ zone.Early instant := by
  have range := zone.steadyTime_range
  have reached := meets.le_localTime
  have bound : zone.localTime instant ≤ day * 86400 + zone.steadyTime := by
    rcases meets with shown | first
    · omega
    · exact first ▸ localTime_firstInstant_le occurs early
  have same : zone.day instant = day := day_eq_of_range (by omega) (by omega)
  have reading := zone.localTime_eq instant
  refine ⟨same, ?_⟩
  rw [Early]
  rw [same] at reading
  omega

theorem early_startOfDay {day : ℤ} (occurs : zone.Occurs day) :
    zone.Early (zone.startOfDay day) := by
  have meets := zone.meets_firstInstant (day * 86400 + 0)
  have early := (meets.day_early occurs le_rfl zone.steadyTime_range.1).2
  rwa [Int.add_zero] at early

theorem localTime_add (count instant : ℤ) :
    zone.localTime instant + count * 86400 =
      (zone.day instant + count) * 86400 + zone.timeOfDay instant := by
  rw [localTime_eq]
  omega

theorem meets_addDays_of_early {count instant : ℤ} (early : zone.Early instant)
    (occurs : zone.Occurs (zone.day instant + count)) :
    zone.day (zone.addDays count instant) = zone.day instant + count ∧
      zone.Early (zone.addDays count instant) := by
  have meets := zone.meets_addDays count instant
  rw [localTime_add] at meets
  exact meets.day_early occurs (zone.timeOfDay_range instant).1 early

theorem day_addDays_of_early {count instant : ℤ} (early : zone.Early instant)
    (occurs : zone.Occurs (zone.day instant + count)) :
    zone.day (zone.addDays count instant) = zone.day instant + count :=
  (meets_addDays_of_early early occurs).1

theorem early_addDays {count instant : ℤ} (early : zone.Early instant)
    (occurs : zone.Occurs (zone.day instant + count)) :
    zone.Early (zone.addDays count instant) :=
  (meets_addDays_of_early early occurs).2

theorem day_addDays {count day : ℤ} (occurs : zone.Occurs day)
    (other_occurs : zone.Occurs (day + count)) :
    zone.day (zone.addDays count (zone.startOfDay day)) = day + count := by
  have same : zone.day (zone.startOfDay day) = day := occurs
  have moved := @day_addDays_of_early zone count _ (early_startOfDay occurs)
    (by rwa [same])
  rwa [same] at moved

theorem day_le_of_le_startOfDay {day instant : ℤ} (occurs : zone.Occurs day)
    (order : instant ≤ zone.startOfDay day) : zone.day instant ≤ day := by
  rcases eq_or_lt_of_le order with same | earlier
  · exact le_of_eq (same ▸ occurs)
  · have before := localTime_lt earlier
    rw [TimeZone.day]
    omega

/-! ## Clocks that repeat no early time -/

variable (zone) in
/-- The clock is not put back to a time by which a day may start. -/
def Unrepeated : Prop :=
  ∀ instant, zone.Early instant → zone.firstInstant (zone.localTime instant) = instant

theorem Unrepeated.eq_firstInstant (unrepeated : zone.Unrepeated) {reading instant : ℤ}
    (meets : zone.Meets reading instant) (early : zone.Early instant) :
    instant = zone.firstInstant reading := by
  rcases meets with shown | first
  · rw [← shown, unrepeated instant early]
  · exact first

theorem Unrepeated.addDays_eq (unrepeated : zone.Unrepeated) {count instant : ℤ}
    (early : zone.Early instant) (occurs : zone.Occurs (zone.day instant + count)) :
    zone.addDays count instant =
      zone.firstInstant ((zone.day instant + count) * 86400 + zone.timeOfDay instant) := by
  rw [← localTime_add]
  exact unrepeated.eq_firstInstant (zone.meets_addDays count instant) (early_addDays early occurs)

theorem Unrepeated.instantOf_eq (unrepeated : zone.Unrepeated) {day time : ℤ}
    (occurs : zone.Occurs day) (start : 0 ≤ time) (early : time ≤ zone.steadyTime) :
    zone.instantOf (day * 86400 + time) = zone.firstInstant (day * 86400 + time) := by
  have meets := zone.meets_instantOf (day * 86400 + time)
  exact unrepeated.eq_firstInstant meets (meets.day_early occurs start early).2

theorem firstInstant_le_firstInstant_iff {early late : ℤ} :
    zone.firstInstant early ≤ zone.firstInstant late ↔
      early ≤ zone.localTime (zone.firstInstant late) := by
  constructor
  · intro order
    rcases eq_or_lt_of_le order with same | earlier
    · exact same ▸ le_localTime_firstInstant early
    · have before := localTime_lt earlier
      have reached : early ≤ zone.localTime (zone.firstInstant early) :=
        le_localTime_firstInstant early
      have later : late ≤ zone.localTime (zone.firstInstant late) :=
        le_localTime_firstInstant late
      omega
  · exact firstInstant_le

/-- An early instant is moved before the start of a day exactly if the day starts no earlier. -/
theorem Unrepeated.addDays_le_startOfDay_iff (unrepeated : zone.Unrepeated) {count instant : ℤ}
    (early : zone.Early instant) (occurs : zone.Occurs (zone.day instant + count)) :
    zone.addDays count instant ≤ zone.startOfDay (zone.day instant + count) ↔
      zone.timeOfDay instant ≤ zone.startTime (zone.day instant + count) := by
  rw [unrepeated.addDays_eq early occurs, startOfDay, firstInstant_le_firstInstant_iff,
    ← startOfDay, localTime_startOfDay]
  omega

/-- Moving an early instant on by days does not lead back. -/
theorem Unrepeated.le_addDays (unrepeated : zone.Unrepeated) {count instant : ℤ}
    (forward : 0 ≤ count) (early : zone.Early instant)
    (occurs : zone.Occurs (zone.day instant + count)) : instant ≤ zone.addDays count instant := by
  have moved := unrepeated.addDays_eq early occurs
  rw [moved, ← localTime_add]
  have first := unrepeated instant early
  calc
    instant = zone.firstInstant (zone.localTime instant) := first.symm
    _ ≤ zone.firstInstant (zone.localTime instant + count * 86400) :=
      firstInstant_mono (by omega)

/-! ## Clocks -/

/-- A clock that is never changed. -/
def fixed (offset : ℤ) : TimeZone where
  localTime instant := instant + offset
  firstInstant reading := reading - offset
  least reading := by
    constructor
    · simp only [Set.mem_ofPred_eq]
      omega
    · intro instant reached
      simp only [Set.mem_ofPred_eq] at reached
      omega
  lastInstant reading := reading - offset
  latest shown := by omega
  steadyTime := 0
  steadyTime_range := by omega
  steady instant := by omega

theorem fixed_unrepeated (offset : ℤ) : (fixed offset).Unrepeated := by
  intro instant _
  change instant + offset - offset = instant
  omega

/-- The reading of a clock that is put forward once, from one offset to another. -/
def forwardReading (change early late instant : ℤ) : ℤ :=
  if instant < change then instant + early else instant + late

/-- The first instant at which such a clock has come to a reading. -/
def forwardInstant (change early late reading : ℤ) : ℤ :=
  if reading < change + early then reading - early else max change (reading - late)

theorem isLeast_forwardInstant {change early late : ℤ} (forward : early ≤ late) (reading : ℤ) :
    IsLeast {instant | reading ≤ forwardReading change early late instant}
      (forwardInstant change early late reading) := by
  constructor
  · simp only [forwardReading, forwardInstant, Set.mem_ofPred_eq]
    omega
  · intro instant reached
    simp only [forwardReading, Set.mem_ofPred_eq] at reached
    simp only [forwardInstant]
    omega

/-- A clock that is put forward once repeats no reading. -/
theorem forwardInstant_latest {change early late : ℤ} (forward : early ≤ late)
    {reading instant : ℤ} (shown : forwardReading change early late instant = reading) :
    forwardReading change early late (forwardInstant change early late reading) = reading ∧
      instant ≤ forwardInstant change early late reading := by
  simp only [forwardReading, forwardInstant] at shown ⊢
  omega

end TimeZone
