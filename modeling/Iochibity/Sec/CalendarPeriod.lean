/-
When a request is within the allowed time, `iotvticalendar.c`.
-/
import Iochibity.Lib.GregorianCalendar
import Mathlib.Data.UInt
import Mathlib.Tactic.Ring

namespace Iochibity.Sec.Calendar

open Gregorian (IsLeap)

section

/-! ## Data -/

/-- `struct tm`, as far as it is looked at. -/
structure IotvtICalDateTime where
  tmSec : ℤ
  tmMin : ℤ
  tmHour : ℤ
  tmMday : ℤ
  tmMon : ℤ
  tmYear : ℤ
  tmWday : ℤ
  tmYday : ℤ
  deriving DecidableEq

def IotvtICalDateTime.zero : IotvtICalDateTime := ⟨0, 0, 0, 0, 0, 0, 0, 0⟩

inductive IotvtICalResult
  | success
  | validAccess
  | invalidAccess
  | invalidParameter
  | invalidRrule
  | invalidPeriod
  | error
  deriving DecidableEq

structure IotvtICalPeriod where
  startDateTime : IotvtICalDateTime
  endDateTime : IotvtICalDateTime
  deriving DecidableEq

/-- `IotvtICalRecur_t`; the days of `byDay` are bits, from Sunday. -/
structure IotvtICalRecur where
  freq : ℕ
  untilDate : IotvtICalDateTime
  byDay : ℕ
  deriving DecidableEq

def IotvtICalRecur.zero : IotvtICalRecur := ⟨0, .zero, 0⟩

/-- `dFormat` and `dtFormat`: `YYYYmmdd` and `YYYYmmddTHHMMSS`. -/
inductive DateForm
  | date
  | dateTime
  deriving DecidableEq

abbrev Strptime := DateForm → List UInt8 → IotvtICalDateTime → Option IotvtICalDateTime

def tmYearOffset : ℤ := 1900

/-- A value of an `int`. -/
def FitsInt (x : ℤ) : Prop := -2 ^ 31 ≤ x ∧ x < 2 ^ 31

instance (x : ℤ) : Decidable (FitsInt x) := inferInstanceAs (Decidable (_ ∧ _))

/-- The loop of `DiffDays`. Its body moves `y` to the calendar year, and does not take it back. -/
def leapLoop (y last leapDays : ℤ) : ℤ :=
  if y < last then
    leapLoop (y + tmYearOffset + 1) last
      (if IsLeap (y + tmYearOffset) then leapDays + 1 else leapDays)
  else leapDays
termination_by (last - y).toNat
decreasing_by
  simp only [tmYearOffset]
  omega

/-- `DiffDays`. The loop may only overflow where the sum does. -/
def diffDays (date1 date2 : IotvtICalDateTime) : Option ℤ :=
  let leapDays := if date2.tmYear > date1.tmYear then leapLoop date1.tmYear date2.tmYear 0 else 0
  let days2 := 365 * date2.tmYear + date2.tmYday + leapDays
  let days1 := 365 * date1.tmYear + date1.tmYday
  if FitsInt days2 ∧ FitsInt days1 ∧ FitsInt (days2 - days1) then some (days2 - days1) else none

def secsOf (time : IotvtICalDateTime) : ℤ := 3600 * time.tmHour + 60 * time.tmMin + time.tmSec

def diffSecs (time1 time2 : IotvtICalDateTime) : ℤ := secsOf time2 - secsOf time1

/-! ## Parsing -/

section Parsing

variable (strptime : Strptime)

/-- Whether `ParsePeriod` finds that the start is after the end. The time of day is looked at only
in one of the forms. -/
def startIsAfter (form : DateForm) (period : IotvtICalPeriod) : Bool :=
  let s := period.startDateTime
  let e := period.endDateTime
  let sameDay := s.tmYear = e.tmYear ∧ s.tmMon = e.tmMon ∧ s.tmMday = e.tmMday
  decide (s.tmYear > e.tmYear)
    || decide (s.tmYear = e.tmYear ∧ s.tmMon > e.tmMon)
    || decide (s.tmYear = e.tmYear ∧ s.tmMon = e.tmMon ∧ s.tmMday > e.tmMday)
    || decide (form = .dateTime ∧ sameDay ∧ s.tmHour > e.tmHour)
    || decide (form = .dateTime ∧ sameDay ∧ s.tmHour = e.tmHour ∧ s.tmMin > e.tmMin)
    || decide (form = .dateTime ∧ sameDay ∧ s.tmHour = e.tmHour ∧ s.tmMin = e.tmMin
      ∧ s.tmSec > e.tmSec)

def periodForm (startLen endLen : ℕ) : Option DateForm :=
  if startLen = endLen then
    if startLen = 8 then some .date else if startLen = 15 then some .dateTime else none
  else none

/-- `ParsePeriod`, into a period that is all zero. `none` is `IOTVTICAL_INVALID_PERIOD`. -/
def parsePeriod (periodStr : List UInt8) : Option IotvtICalPeriod := do
  let slash ← periodStr.findIdx? (· == 0x2F)
  let endDT := periodStr.drop (slash + 1)
  let form ← periodForm slash endDT.length
  let startDateTime ← strptime form periodStr .zero
  let endDateTime ← strptime form endDT .zero
  let period : IotvtICalPeriod := ⟨startDateTime, endDateTime⟩
  if startIsAfter form period then none else some period

def parseDate (untilRule : List UInt8) (recur : IotvtICalRecur) : Option IotvtICalRecur := do
  let equals ← untilRule.findIdx? (· == 0x3D)
  let date := untilRule.drop (equals + 1)
  if date.length = 8 then
    let untilDate ← strptime .date date recur.untilDate
    some { recur with untilDate := untilDate }
  else none

def weekdays : List (List UInt8) :=
  [[0x53, 0x55], [0x4D, 0x4F], [0x54, 0x55], [0x57, 0x45], [0x54, 0x48], [0x46, 0x52], [0x53, 0x41]]

def parseByDay (bydayRule : List UInt8) (recur : IotvtICalRecur) : Option IotvtICalRecur :=
  let found := weekdays.zipIdx.foldl
    (fun byDay day => if day.1 <:+: bydayRule then byDay ||| 1 <<< day.2 else byDay) recur.byDay
  if found = 0 then none else some { recur with byDay := found }

/-- `FREQ`, `UNTIL`, `BYDAY` and `DAILY`. -/
def freqText : List UInt8 := [0x46, 0x52, 0x45, 0x51]
def untilText : List UInt8 := [0x55, 0x4E, 0x54, 0x49, 0x4C]
def bydayText : List UInt8 := [0x42, 0x59, 0x44, 0x41, 0x59]
def dailyText : List UInt8 := [0x44, 0x41, 0x49, 0x4C, 0x59]

def freqDaily : ℕ := 1

def parseElement (element : List UInt8) (recur : IotvtICalRecur) (freqFlag : Bool) :
    Option (IotvtICalRecur × Bool) :=
  -- it is copied to a buffer of 50 bytes
  if 50 ≤ element.length then none
  else if freqText <:+: element then
    if dailyText <:+: element then some ({ recur with freq := freqDaily }, true) else none
  else if untilText <:+: element then (parseDate strptime element recur).map (·, freqFlag)
  else if bydayText <:+: element then (parseByDay element recur).map (·, freqFlag)
  else some (recur, freqFlag)

def parseRecur (recurStr : List UInt8) (recur : IotvtICalRecur) : Option IotvtICalRecur := do
  let (recur, freqFlag) ← (recurStr.splitOn 0x3B).foldlM
    (fun parsed element => parseElement strptime element parsed.1 parsed.2) (recur, false)
  if freqFlag then some recur else none

end Parsing

/-! ## Checks -/

def validatePeriod (period : IotvtICalPeriod) (currentTime : IotvtICalDateTime) :
    Option IotvtICalResult := do
  let fromStart ← diffDays period.startDateTime currentTime
  let toEnd ← diffDays currentTime period.endDateTime
  let validStartTime := fromStart = 0 → 0 ≤ diffSecs period.startDateTime currentTime
  let validEndTime := toEnd = 0 → 0 ≤ diffSecs currentTime period.endDateTime
  let validDay := 0 ≤ fromStart ∧ 0 ≤ toEnd
  some (if validDay ∧ validStartTime ∧ validEndTime then .validAccess else .invalidAccess)

/-- A recurrence, in `IsRequestWithinValidTime`. -/
def validateRecur (period : IotvtICalPeriod) (recur : IotvtICalRecur)
    (currentTime : IotvtICalDateTime) : Option IotvtICalResult :=
  if 0 ≤ diffSecs period.startDateTime currentTime
      ∧ 0 ≤ diffSecs currentTime period.endDateTime then do
    let fromStart ← diffDays period.startDateTime currentTime
    if 0 ≤ fromStart then
      let untilOver ← if recur.untilDate = .zero then some false
        else (diffDays currentTime recur.untilDate).map (fun days => decide (days < 0))
      let otherDay := recur.byDay ≠ 0 ∧ recur.byDay &&& 1 <<< currentTime.tmWday.toNat = 0
      some (if untilOver = true ∨ otherDay then .invalidAccess else .validAccess)
    else some .invalidAccess
  else some .invalidAccess

def isRequestWithinValidTime (strptime : Strptime) (currentTime : IotvtICalDateTime)
    (periodStr recurStr : Option (List UInt8)) : Option IotvtICalResult :=
  match periodStr with
  | none => some .invalidParameter
  | some periodStr =>
    match parsePeriod strptime periodStr with
    | none => some .invalidPeriod
    | some period =>
      match recurStr with
      | none => validatePeriod period currentTime
      | some recurStr =>
        match parseRecur strptime recurStr .zero with
        | none => some .invalidRrule
        | some recur => validateRecur period recur currentTime

open Gregorian

structure IsDate (d : IotvtICalDateTime) : Prop where
  year : 0 ≤ d.tmYear
  yday : 0 ≤ d.tmYday ∧ d.tmYday < yearDays (d.tmYear + tmYearOffset)

section

variable (d1 d2 : IotvtICalDateTime)

def DayNotAfter : Prop :=
  d1.tmYear < d2.tmYear ∨ d1.tmYear = d2.tmYear ∧ d1.tmYday ≤ d2.tmYday

instance (d1 d2 : IotvtICalDateTime) : Decidable (DayNotAfter d1 d2) :=
  inferInstanceAs (Decidable (_ ∨ _))

def calendarDays : ℤ :=
  daysBetween (d1.tmYear + tmYearOffset) d1.tmYday (d2.tmYear + tmYearOffset) d2.tmYday

def DaysRight : Prop :=
  if DayNotAfter d1 d2 then diffDays d1 d2 = some (calendarDays d1 d2)
  else ∃ days ∈ diffDays d1 d2, days < 0

/-- **Dates that the difference is right for**: no leap year lies between their years, the later one
is not the first of January behind the last day of a leap year; and no sum overflows. -/
def DaysClean : Prop :=
  if DayNotAfter d1 d2 then
    (∀ year, d1.tmYear + tmYearOffset < year → year < d2.tmYear + tmYearOffset → ¬ IsLeap year)
      ∧ 365 * d2.tmYear + d2.tmYday
        + (if d1.tmYear < d2.tmYear ∧ IsLeap (d1.tmYear + tmYearOffset) then 1 else 0) < 2 ^ 31
  else
    ¬ (d1.tmYear = d2.tmYear + 1 ∧ d1.tmYday = 0 ∧ d2.tmYday = 365)
      ∧ 365 * d1.tmYear + d1.tmYday < 2 ^ 31

end

/-! ## The loop -/

variable {y last : ℤ}

lemma leapLoop_step (h : y < last) (leapDays : ℤ) :
    leapLoop y last leapDays = leapLoop (y + tmYearOffset + 1) last
      (leapDays + if IsLeap (y + tmYearOffset) then 1 else 0) := by
  rw [leapLoop, if_pos h]
  congr 1
  split <;> simp

lemma leapLoop_stop (h : last ≤ y) (leapDays : ℤ) :
    leapLoop y last leapDays = leapDays := by
  rw [leapLoop, if_neg (not_lt.mpr h)]

lemma leapLoop_le (y last leapDays : ℤ) : leapLoop y last leapDays
    ≤ leapDays + (leapYears (y + tmYearOffset) (last + tmYearOffset)).card := by
  -- a round takes the start closer to the end
  obtain ⟨n, hn⟩ : ∃ n : ℕ, (last - y).toNat ≤ n := ⟨_, le_refl _⟩
  induction n generalizing y leapDays with
  | zero =>
    rw [leapLoop_stop (by omega)]
    omega
  | succ n ih =>
    by_cases hlt : y < last
    · have hrest := ih (y + tmYearOffset + 1)
        (leapDays + if IsLeap (y + tmYearOffset) then 1 else 0)
        (by simp only [tmYearOffset]; omega)
      have hsub : leapYears (y + tmYearOffset + 1 + tmYearOffset) (last + tmYearOffset)
          ⊆ leapYears (y + tmYearOffset + 1) (last + tmYearOffset) :=
        leapYears_subset (by simp only [tmYearOffset]; omega)
      have hcard := Finset.card_le_card hsub
      rw [leapLoop_step hlt, card_leapYears_first (by omega)]
      omega
    rw [leapLoop_stop (by omega)]
    omega

lemma leapLoop_lt {leap : ℤ} (hleap : IsLeap leap) (hafter : y + tmYearOffset < leap)
    (hbefore : leap < last + tmYearOffset) :
    leapLoop y last 0 < (leapYears (y + tmYearOffset) (last + tmYearOffset)).card := by
  have hlt : y < last := by omega
  -- the first such year comes before the next round
  obtain ⟨first, hfirst, hfirst', hfirstLeap⟩ := exists_leap (y + tmYearOffset)
  obtain ⟨missed, hmissed, hmissed', hround, hmissedLeap⟩ : ∃ missed, y + tmYearOffset < missed
      ∧ missed < last + tmYearOffset ∧ missed < y + tmYearOffset + 1 + tmYearOffset
      ∧ IsLeap missed := by
    by_cases hnear : leap < y + tmYearOffset + 1 + tmYearOffset
    · exact ⟨leap, hafter, hbefore, hnear, hleap⟩
    refine ⟨first, hfirst, ?_, ?_, hfirstLeap⟩
    · simp only [tmYearOffset] at *
      omega
    · simp only [tmYearOffset] at *
      omega
  have hsub : leapYears (y + tmYearOffset + 1 + tmYearOffset) (last + tmYearOffset)
      ⊂ leapYears (y + tmYearOffset + 1) (last + tmYearOffset) := by
    refine (Finset.ssubset_iff_of_subset ?_).mpr ⟨missed, ?_, ?_⟩
    · exact leapYears_subset (by simp only [tmYearOffset]; omega)
    · exact mem_leapYears.mpr ⟨by omega, hmissedLeap⟩
    · rw [mem_leapYears]
      omega
  have hcard := Finset.card_lt_card hsub
  have hrest := leapLoop_le (y + tmYearOffset + 1) last
    (0 + if IsLeap (y + tmYearOffset) then 1 else 0)
  rw [leapLoop_step hlt, card_leapYears_first (by omega)]
  omega

lemma leapLoop_eq (hlt : y < last)
    (hnone : ∀ year, y + tmYearOffset < year → year < last + tmYearOffset → ¬ IsLeap year) :
    leapLoop y last 0 = (if IsLeap (y + tmYearOffset) then 1 else 0)
      ∧ ((leapYears (y + tmYearOffset) (last + tmYearOffset)).card : ℤ)
        = if IsLeap (y + tmYearOffset) then 1 else 0 := by
  obtain ⟨leap, hafter, hnear, hleap⟩ := exists_leap (y + tmYearOffset)
  have hlast : last + tmYearOffset ≤ leap := by
    by_contra hbefore
    exact hnone leap hafter (by omega) hleap
  constructor
  · rw [leapLoop_step hlt, leapLoop_stop, zero_add]
    simp only [tmYearOffset] at *
    omega
  · have hempty : leapYears (y + tmYearOffset + 1) (last + tmYearOffset) = ∅ := by
      refine Finset.eq_empty_of_forall_notMem (fun year hyear => ?_)
      obtain ⟨hbetween, hyear⟩ := mem_leapYears.mp hyear
      exact hnone year (by omega) (by omega) hyear
    rw [card_leapYears_first (by omega), hempty, Finset.card_empty]
    simp

/-! ## The difference -/

/-- How many leap days `DiffDays` counts. -/
def leapDaysOf (d1 d2 : IotvtICalDateTime) : ℤ :=
  if d2.tmYear > d1.tmYear then leapLoop d1.tmYear d2.tmYear 0 else 0

variable {d1 d2 : IotvtICalDateTime}

lemma diffDays_eq_some {days : ℤ} : diffDays d1 d2 = some days
    ↔ (FitsInt (365 * d2.tmYear + d2.tmYday + leapDaysOf d1 d2)
        ∧ FitsInt (365 * d1.tmYear + d1.tmYday))
      ∧ FitsInt days
      ∧ days = 365 * (d2.tmYear - d1.tmYear) + d2.tmYday - d1.tmYday + leapDaysOf d1 d2 := by
  have hsame : 365 * d2.tmYear + d2.tmYday + leapDaysOf d1 d2 - (365 * d1.tmYear + d1.tmYday)
      = 365 * (d2.tmYear - d1.tmYear) + d2.tmYday - d1.tmYday + leapDaysOf d1 d2 := by
    ring
  have hdef : diffDays d1 d2 = if FitsInt (365 * d2.tmYear + d2.tmYday + leapDaysOf d1 d2)
      ∧ FitsInt (365 * d1.tmYear + d1.tmYday)
      ∧ FitsInt (365 * d2.tmYear + d2.tmYday + leapDaysOf d1 d2 - (365 * d1.tmYear + d1.tmYday))
    then some (365 * d2.tmYear + d2.tmYday + leapDaysOf d1 d2
        - (365 * d1.tmYear + d1.tmYday)) else none := rfl
  rw [hdef, hsame]
  constructor
  · intro h
    split at h
    · next hfits =>
        obtain rfl := Option.some.inj h
        exact ⟨⟨hfits.1, hfits.2.1⟩, hfits.2.2, rfl⟩
    · cases h
  · rintro ⟨⟨h2, h1⟩, hdays, rfl⟩
    exact if_pos ⟨h2, h1, hdays⟩

lemma calendarDays_eq (h : d1.tmYear ≤ d2.tmYear) :
    calendarDays d1 d2 = 365 * (d2.tmYear - d1.tmYear) + d2.tmYday - d1.tmYday
      + (leapYears (d1.tmYear + tmYearOffset) (d2.tmYear + tmYearOffset)).card := by
  unfold calendarDays daysBetween
  rw [sum_yearDays (by omega)]
  ring

lemma diffDays_right_iff (h1 : IsDate d1) (h2 : IsDate d2)
    (horder : DayNotAfter d1 d2) : diffDays d1 d2 = some (calendarDays d1 d2)
      ↔ (∀ year, d1.tmYear + tmYearOffset < year → year < d2.tmYear + tmYearOffset → ¬ IsLeap year)
        ∧ 365 * d2.tmYear + d2.tmYday
          + (if d1.tmYear < d2.tmYear ∧ IsLeap (d1.tmYear + tmYearOffset) then 1 else 0)
            < 2 ^ 31 := by
  obtain ⟨hyear1, hyday1, hyday1'⟩ := h1
  obtain ⟨hyear2, hyday2, hyday2'⟩ := h2
  have hbound1 := (yearDays_bounds (d1.tmYear + tmYearOffset)).2
  have hbound2 := (yearDays_bounds (d2.tmYear + tmYearOffset)).2
  rw [diffDays_eq_some]
  unfold FitsInt leapDaysOf
  by_cases hlt : d1.tmYear < d2.tmYear
  · rw [calendarDays_eq hlt.le, if_pos hlt]
    constructor
    · rintro ⟨⟨⟨_, hfits⟩, _⟩, _, hdays⟩
      have hnone : ∀ year, d1.tmYear + tmYearOffset < year → year < d2.tmYear + tmYearOffset →
          ¬ IsLeap year := by
        intro year hafter hbefore hleap
        have hmissed := leapLoop_lt hleap hafter hbefore
        omega
      refine ⟨hnone, ?_⟩
      rw [(leapLoop_eq hlt hnone).1] at hfits
      simp only [hlt, true_and]
      exact hfits
    · rintro ⟨hnone, hfits⟩
      obtain ⟨hloop, hcard⟩ := leapLoop_eq hlt hnone
      simp only [hlt, true_and] at hfits
      rw [hloop, hcard]
      by_cases hleap : IsLeap (d1.tmYear + tmYearOffset)
      · simp only [hleap, if_true, and_true] at hfits ⊢
        omega
      simp only [hleap, if_false, and_true] at hfits ⊢
      omega
  -- in one year there are no leap days to count
  obtain ⟨heq, hle⟩ : d1.tmYear = d2.tmYear ∧ d1.tmYday ≤ d2.tmYday :=
    horder.resolve_left hlt
  have hempty : leapYears (d1.tmYear + tmYearOffset) (d2.tmYear + tmYearOffset) = ∅ := by
    rw [heq]
    apply leapYears_empty
  have hboth : ¬ (d1.tmYear < d2.tmYear ∧ IsLeap (d1.tmYear + tmYearOffset)) :=
    fun h => hlt h.1
  rw [calendarDays_eq heq.le, hempty, Finset.card_empty, if_neg hlt, if_neg hboth]
  constructor
  · rintro ⟨⟨⟨_, hfits⟩, _⟩, _⟩
    exact ⟨fun year hafter hbefore => by omega, hfits⟩
  · rintro ⟨_, hfits⟩
    omega

lemma diffDays_neg_iff (h1 : IsDate d1) (h2 : IsDate d2)
    (horder : ¬ DayNotAfter d1 d2) : (∃ days ∈ diffDays d1 d2, days < 0)
      ↔ ¬ (d1.tmYear = d2.tmYear + 1 ∧ d1.tmYday = 0 ∧ d2.tmYday = 365)
        ∧ 365 * d1.tmYear + d1.tmYday < 2 ^ 31 := by
  obtain ⟨hyear1, hyday1, hyday1'⟩ := h1
  obtain ⟨hyear2, hyday2, hyday2'⟩ := h2
  have hbound2 := (yearDays_bounds (d2.tmYear + tmYearOffset)).2
  unfold DayNotAfter at horder
  have hleap : leapDaysOf d1 d2 = 0 := if_neg (by omega)
  simp only [Option.mem_def, diffDays_eq_some, hleap, FitsInt]
  constructor
  · rintro ⟨days, ⟨⟨_, _, hfits⟩, _, hdays⟩, hneg⟩
    omega
  · rintro ⟨hslip, hfits⟩
    refine ⟨_, ⟨⟨?_, ?_⟩, ?_, rfl⟩, ?_⟩
    · omega
    · omega
    · omega
    · omega

/-- **When the difference is right**. -/
theorem days_exact (d1 d2 : IotvtICalDateTime) (h1 : IsDate d1) (h2 : IsDate d2) :
    DaysRight d1 d2 ↔ DaysClean d1 d2 := by
  unfold DaysRight DaysClean
  by_cases horder : DayNotAfter d1 d2
  · rw [if_pos horder, if_pos horder]
    exact diffDays_right_iff h1 h2 horder
  rw [if_neg horder, if_neg horder]
  exact diffDays_neg_iff h1 h2 horder

def dayOf (year yday : ℤ) : IotvtICalDateTime :=
  { IotvtICalDateTime.zero with tmYear := year - tmYearOffset, tmYday := yday }

theorem leapDay_missing :
    (IsDate (dayOf 2015 0) ∧ IsDate (dayOf 2017 0) ∧ ¬ DaysRight (dayOf 2015 0) (dayOf 2017 0))
      ∧ (IsDate (dayOf 2017 0) ∧ IsDate (dayOf 2016 365)
        ∧ ¬ DaysRight (dayOf 2017 0) (dayOf 2016 365)) := by
  have h2015 : IsDate (dayOf 2015 0) := ⟨by decide, by decide⟩
  have h2016 : IsDate (dayOf 2016 365) := ⟨by decide, by decide⟩
  have h2017 : IsDate (dayOf 2017 0) := ⟨by decide, by decide⟩
  refine ⟨⟨h2015, h2017, fun hright => ?_⟩, h2017, h2016, fun hright => ?_⟩
  · have horder : DayNotAfter (dayOf 2015 0) (dayOf 2017 0) := by decide
    unfold DaysRight at hright
    rw [if_pos horder, diffDays_right_iff h2015 h2017 horder] at hright
    exact hright.1 2016 (by decide) (by decide) (by decide)
  · have horder : ¬ DayNotAfter (dayOf 2017 0) (dayOf 2016 365) := by decide
    unfold DaysRight at hright
    rw [if_neg horder, diffDays_neg_iff h2017 h2016 horder] at hright
    exact hright.1 (by decide)

theorem leapDay_counted : DaysRight (dayOf 2016 31) (dayOf 2017 31) := by
  have hclean : DaysClean (dayOf 2016 31) (dayOf 2017 31) := by
    have horder : DayNotAfter (dayOf 2016 31) (dayOf 2017 31) := by decide
    unfold DaysClean
    rw [if_pos horder]
    refine ⟨fun year hafter hbefore => ?_, by decide⟩
    simp only [dayOf, tmYearOffset] at hafter hbefore
    omega
  exact (days_exact _ _ ⟨by decide, by decide⟩ ⟨by decide, by decide⟩).mpr hclean

end

open Gregorian

/-! ## Dates and times -/

structure RealDate (d : IotvtICalDateTime) : Prop where
  mon : 0 ≤ d.tmMon ∧ d.tmMon < 12
  mday : 1 ≤ d.tmMday ∧ d.tmMday ≤ daysIn (IsLeap (d.tmYear + tmYearOffset)) d.tmMon.toNat
  yday : d.tmYday = daysBefore (IsLeap (d.tmYear + tmYearOffset)) d.tmMon.toNat + d.tmMday - 1

structure RealTime (d : IotvtICalDateTime) : Prop where
  hour : 0 ≤ d.tmHour ∧ d.tmHour < 24
  min : 0 ≤ d.tmMin ∧ d.tmMin < 60
  sec : 0 ≤ d.tmSec ∧ d.tmSec ≤ 60

def FourDigits (d : IotvtICalDateTime) : Prop :=
  0 ≤ d.tmYear + tmYearOffset ∧ d.tmYear + tmYearOffset ≤ 9999

/-- **What `strptime` does**: it fills the date that was read, and, in the longer form, its time. -/
structure ReadsDates (strptime : Strptime) : Prop where
  date : ∀ text tm d, strptime .date text tm = some d → (RealDate d ∧ FourDigits d)
    ∧ d.tmHour = tm.tmHour ∧ d.tmMin = tm.tmMin ∧ d.tmSec = tm.tmSec
  dateTime : ∀ text tm d, strptime .dateTime text tm = some d → (RealDate d ∧ FourDigits d)
    ∧ RealTime d

section

variable (a b : IotvtICalDateTime)

def DateLt : Prop :=
  a.tmYear < b.tmYear ∨ a.tmYear = b.tmYear
    ∧ (a.tmMon < b.tmMon ∨ a.tmMon = b.tmMon ∧ a.tmMday < b.tmMday)

def SameDate : Prop :=
  a.tmYear = b.tmYear ∧ a.tmMon = b.tmMon ∧ a.tmMday = b.tmMday

def TimeLe : Prop :=
  a.tmHour < b.tmHour ∨ a.tmHour = b.tmHour
    ∧ (a.tmMin < b.tmMin ∨ a.tmMin = b.tmMin ∧ a.tmSec ≤ b.tmSec)

/-- `a` is not after `b`, in calendar order. -/
def NotAfter : Prop := DateLt a b ∨ SameDate a b ∧ TimeLe a b

def isDateOnly (periodStr : List UInt8) : Bool :=
  periodStr.findIdx? (· == 0x2F) == some 8

/-- **Within a period**: not before its start, and not after its end; the last day of a period of
dates is in it. -/
def Within (dateOnly : Bool) (period : IotvtICalPeriod) (now : IotvtICalDateTime) : Prop :=
  NotAfter period.startDateTime now
    ∧ if dateOnly then DateLt now period.endDateTime ∨ SameDate now period.endDateTime
      else NotAfter now period.endDateTime

/-- `a` is the first of January behind `b`, the last day of a leap year. -/
def LeapSlip : Prop :=
  a.tmYear = b.tmYear + 1 ∧ a.tmYday = 0 ∧ b.tmYday = 365

end

structure PeriodClean (dateOnly : Bool) (period : IotvtICalPeriod) (now : IotvtICalDateTime) :
    Prop where
  -- not the last day of a leap year in front of the period, nor the first of January behind it
  before : LeapSlip period.startDateTime now → secsOf now < secsOf period.startDateTime
  behind : LeapSlip now period.endDateTime → secsOf period.endDateTime < secsOf now
  -- not the last day of a period of dates
  lastDay : dateOnly = true → SameDate now period.endDateTime → secsOf now = 0
  -- no leap second that counts as the second behind it
  startSecond : SameDate period.startDateTime now →
    secsOf period.startDateTime = secsOf now → TimeLe period.startDateTime now
  endSecond : SameDate now period.endDateTime → secsOf now = secsOf period.endDateTime →
    TimeLe now period.endDateTime

/-! ## The order of dates -/

section Order

variable {a b : IotvtICalDateTime}

lemma RealDate.yday_bounds (h : RealDate a) :
    0 ≤ a.tmYday ∧ a.tmYday < yearDays (a.tmYear + tmYearOffset) := by
  have hmon := h.mon
  have hindex : a.tmMon.toNat < 12 := by omega
  have hyear := daysBefore_add_le_year (a.tmYear + tmYearOffset) hindex
  have hbefore := daysBefore_nonneg (IsLeap (a.tmYear + tmYearOffset)) a.tmMon.toNat
  have hmday := h.mday
  have hyday := h.yday
  omega

lemma RealDate.yday_lt (ha : RealDate a) (hb : RealDate b) (hyear : a.tmYear = b.tmYear)
    (hlt : a.tmMon < b.tmMon ∨ a.tmMon = b.tmMon ∧ a.tmMday < b.tmMday) :
    a.tmYday < b.tmYday := by
  have hyday := ha.yday
  have hyday' := hb.yday
  have hmday := ha.mday
  have hmday' := hb.mday
  have hmon := ha.mon
  have hmon' := hb.mon
  rw [hyear] at hyday hmday
  obtain hlt | ⟨heq, hlt⟩ := hlt
  · have hindex : a.tmMon.toNat < b.tmMon.toNat ∧ b.tmMon.toNat < 12 := by omega
    have hle := daysBefore_add_le (IsLeap (b.tmYear + tmYearOffset)) hindex.1 hindex.2
    omega
  rw [heq] at hyday
  omega

lemma dateLt_iff (ha : RealDate a) (hb : RealDate b) :
    DateLt a b ↔ a.tmYear < b.tmYear ∨ a.tmYear = b.tmYear ∧ a.tmYday < b.tmYday := by
  unfold DateLt
  constructor
  · rintro (hlt | ⟨heq, hlt⟩)
    · exact .inl hlt
    · exact .inr ⟨heq, ha.yday_lt hb heq hlt⟩
  · rintro (hlt | ⟨heq, hlt⟩)
    · exact .inl hlt
    · refine .inr ⟨heq, ?_⟩
      by_contra hnot
      -- otherwise it is the same day, or a later one
      by_cases hsame : b.tmMon = a.tmMon ∧ b.tmMday = a.tmMday
      · have hyday := ha.yday
        have hyday' := hb.yday
        rw [heq, ← hsame.1, ← hsame.2] at hyday
        omega
      have hback := hb.yday_lt ha heq.symm (by omega)
      omega

lemma sameDate_iff (ha : RealDate a) (hb : RealDate b) :
    SameDate a b ↔ a.tmYear = b.tmYear ∧ a.tmYday = b.tmYday := by
  have hlt := dateLt_iff ha hb
  have hgt := dateLt_iff hb ha
  unfold DateLt SameDate at *
  omega

lemma dateLt_trichotomy (a b : IotvtICalDateTime) : DateLt a b ∨ SameDate a b ∨ DateLt b a := by
  unfold DateLt SameDate
  omega

lemma TimeLe.secs_le (ha : RealTime a) (hb : RealTime b) (h : TimeLe a b) :
    secsOf a ≤ secsOf b := by
  obtain ⟨_, _, _⟩ := ha
  obtain ⟨_, _, _⟩ := hb
  unfold TimeLe at h
  unfold secsOf
  omega

lemma timeLe_of_secs (ha : RealTime a) (hb : RealTime b) (h : secsOf a < secsOf b) :
    TimeLe a b := by
  obtain ⟨_, _, _⟩ := ha
  obtain ⟨_, _, _⟩ := hb
  unfold secsOf at h
  unfold TimeLe
  omega

def Midnight (d : IotvtICalDateTime) : Prop := d.tmHour = 0 ∧ d.tmMin = 0 ∧ d.tmSec = 0

lemma Midnight.realTime (h : Midnight a) : RealTime a := by
  obtain ⟨hhour, hmin, hsec⟩ := h
  exact ⟨by omega, by omega, by omega⟩

lemma Midnight.secs (h : Midnight a) : secsOf a = 0 := by
  obtain ⟨hhour, hmin, hsec⟩ := h
  unfold secsOf
  omega

lemma RealTime.secs_nonneg (h : RealTime a) : 0 ≤ secsOf a := by
  obtain ⟨_, _, _⟩ := h
  unfold secsOf
  omega

lemma Midnight.timeLe (ha : Midnight a) (hb : RealTime b) : TimeLe a b := by
  obtain ⟨_, _, _⟩ := ha
  obtain ⟨_, _, _⟩ := hb
  unfold TimeLe
  omega

/-! ## Differences of real dates -/

lemma leapBit_nonneg (year : ℤ) : (0 : ℤ) ≤ if IsLeap year then 1 else 0 := by
  split
  · exact zero_le_one
  · exact le_refl 0

lemma leapLoop_ge (y last leapDays : ℤ) : leapDays ≤ leapLoop y last leapDays := by
  -- a round takes the start closer to the end
  obtain ⟨n, hn⟩ : ∃ n : ℕ, (last - y).toNat ≤ n := ⟨_, le_refl _⟩
  induction n generalizing y leapDays with
  | zero => rw [leapLoop_stop (by omega)]
  | succ n ih =>
    by_cases hlt : y < last
    · have hrest := ih (y + tmYearOffset + 1)
        (leapDays + if IsLeap (y + tmYearOffset) then 1 else 0)
        (by simp only [tmYearOffset]; omega)
      rw [leapLoop_step hlt]
      omega
    · rw [leapLoop_stop (by omega)]

lemma leapDaysOf_bounds (a b : IotvtICalDateTime) : 0 ≤ leapDaysOf a b
    ∧ (a.tmYear < b.tmYear → (if IsLeap (a.tmYear + tmYearOffset) then 1 else 0) ≤ leapDaysOf a b
      ∧ leapDaysOf a b ≤ b.tmYear - a.tmYear)
    ∧ (b.tmYear ≤ a.tmYear → leapDaysOf a b = 0) := by
  unfold leapDaysOf
  by_cases hlt : a.tmYear < b.tmYear
  · rw [if_pos hlt]
    have hstep := leapLoop_step hlt 0
    have hge := leapLoop_ge (a.tmYear + tmYearOffset + 1) b.tmYear
      (0 + if IsLeap (a.tmYear + tmYearOffset) then 1 else 0)
    have hle := leapLoop_le a.tmYear b.tmYear 0
    have hcard : (leapYears (a.tmYear + tmYearOffset) (b.tmYear + tmYearOffset)).card
        ≤ (b.tmYear - a.tmYear).toNat := by
      have hsub : (leapYears (a.tmYear + tmYearOffset) (b.tmYear + tmYearOffset)).card ≤ _ :=
        Finset.card_filter_le _ _
      rw [card_years] at hsub
      have hsame : b.tmYear + tmYearOffset - (a.tmYear + tmYearOffset)
          = b.tmYear - a.tmYear := by ring
      rw [hsame] at hsub
      exact hsub
    rw [hstep] at hle ⊢
    refine ⟨?_, fun _ => ⟨by omega, by omega⟩, fun hle => absurd hlt (not_lt.mpr hle)⟩
    have hcount := leapBit_nonneg (a.tmYear + tmYearOffset)
    omega
  rw [if_neg hlt]
  exact ⟨le_refl _, fun h => absurd h hlt, fun _ => rfl⟩

lemma diffDays_sign (ha : RealDate a) (hb : RealDate b) {days : ℤ}
    (hdays : diffDays a b = some days) :
    (DateLt a b → 0 < days) ∧ (SameDate a b → days = 0)
      ∧ (DateLt b a → days ≤ 0 ∧ (days = 0 ↔ LeapSlip a b)) := by
  obtain ⟨_, _, hdays⟩ := diffDays_eq_some.mp hdays
  obtain ⟨hleap, hlater, hearlier⟩ := leapDaysOf_bounds a b
  obtain ⟨hyday, hyday'⟩ := ha.yday_bounds
  obtain ⟨hyday₁, hyday₁'⟩ := hb.yday_bounds
  have hbound := (yearDays_bounds (b.tmYear + tmYearOffset)).2
  rw [dateLt_iff ha hb, dateLt_iff hb ha, sameDate_iff ha hb]
  refine ⟨fun hlt => ?_, fun hsame => ?_, fun hgt => ?_⟩
  · obtain hlt | ⟨heq, hlt⟩ := hlt
    · have hcount := (hlater hlt).1
      unfold yearDays at hyday'
      split at hyday'
      · next h =>
          rw [if_pos h] at hcount
          omega
      · omega
    have hnone := hearlier heq.ge
    omega
  · have hnone := hearlier hsame.1.ge
    omega
  have hnone := hearlier (by omega)
  unfold LeapSlip
  constructor
  · omega
  · constructor
    · omega
    · omega

lemma diffDays_defined (ha : RealDate a) (hb : RealDate b)
    (hyear : -2000 ≤ a.tmYear ∧ a.tmYear ≤ 10000) (hyear' : -2000 ≤ b.tmYear ∧ b.tmYear ≤ 10000) :
    ∃ days, diffDays a b = some days := by
  obtain ⟨hleap, hlater, hearlier⟩ := leapDaysOf_bounds a b
  obtain ⟨hyday, hyday'⟩ := ha.yday_bounds
  obtain ⟨hyday₁, hyday₁'⟩ := hb.yday_bounds
  have hbound := (yearDays_bounds (a.tmYear + tmYearOffset)).2
  have hbound' := (yearDays_bounds (b.tmYear + tmYearOffset)).2
  have hle : leapDaysOf a b ≤ 12000 := by
    by_cases hlt : a.tmYear < b.tmYear
    · have hcount := (hlater hlt).2
      omega
    have hnone := hearlier (by omega)
    omega
  refine ⟨_, diffDays_eq_some.mpr ⟨⟨?_, ?_⟩, ?_, rfl⟩⟩
  · unfold FitsInt
    omega
  · unfold FitsInt
    omega
  · unfold FitsInt
    omega

end Order

/-! ## Periods -/

structure Parsed (dateOnly : Bool) (period : IotvtICalPeriod) : Prop where
  startDate : RealDate period.startDateTime
  endDate : RealDate period.endDateTime
  startYear : FourDigits period.startDateTime
  endYear : FourDigits period.endDateTime
  startTime : RealTime period.startDateTime
  endTime : RealTime period.endDateTime
  midnight : dateOnly = true → Midnight period.startDateTime ∧ Midnight period.endDateTime
  order : NotAfter period.startDateTime period.endDateTime

lemma periodForm_eq_some {startLen endLen : ℕ} {form : DateForm}
    (h : periodForm startLen endLen = some form) :
    startLen = 8 ∧ form = .date ∨ startLen = 15 ∧ form = .dateTime := by
  unfold periodForm at h
  split at h
  · split at h
    · next h8 => exact .inl ⟨h8, (Option.some.inj h).symm⟩
    split at h
    · next h15 => exact .inr ⟨h15, (Option.some.inj h).symm⟩
    · cases h
  · cases h

variable {period : IotvtICalPeriod}

lemma notAfter_of_startIsAfter {form : DateForm} (h : startIsAfter form period = false)
    (hmidnight : form = .date → Midnight period.startDateTime ∧ Midnight period.endDateTime) :
    NotAfter period.startDateTime period.endDateTime := by
  unfold startIsAfter at h
  simp only [Bool.or_eq_false_iff, decide_eq_false_iff_not] at h
  obtain ⟨⟨⟨⟨⟨hyear, hmon⟩, hmday⟩, hhour⟩, hmin⟩, hsec⟩ := h
  obtain hlt | hsame | hgt := dateLt_trichotomy period.startDateTime period.endDateTime
  · exact .inl hlt
  · refine .inr ⟨hsame, ?_⟩
    cases form with
    | date =>
      obtain ⟨hstart, hend⟩ := hmidnight rfl
      exact hstart.timeLe hend.realTime
    | dateTime =>
      -- on one day the time decides
      have hhour := not_and.mp (not_and.mp hhour rfl) hsame
      have hmin := not_and.mp (not_and.mp hmin rfl) hsame
      have hsec := not_and.mp (not_and.mp hsec rfl) hsame
      unfold TimeLe
      clear hyear hmon hmday hsame hmidnight
      omega
  · clear hhour hmin hsec hmidnight
    unfold DateLt at hgt
    omega

lemma parsePeriod_parsed {strptime : Strptime} (hreads : ReadsDates strptime)
    {periodStr : List UInt8} (h : parsePeriod strptime periodStr = some period) :
    Parsed (isDateOnly periodStr) period := by
  unfold parsePeriod at h
  simp only [Option.bind_eq_bind, Option.bind_eq_some_iff] at h
  obtain ⟨slash, hslash, form, hform, startDateTime, hstart, endDateTime, hend, hperiod⟩ := h
  split at hperiod
  · cases hperiod
  next hnot =>
    cases hperiod
    have hafter := Bool.eq_false_iff.mpr hnot
    obtain ⟨hlen, rfl⟩ | ⟨hlen, rfl⟩ := periodForm_eq_some hform
    · have hstart := hreads.date _ _ _ hstart
      have hend := hreads.date _ _ _ hend
      have hmidnight : Midnight startDateTime ∧ Midnight endDateTime := ⟨hstart.2, hend.2⟩
      exact ⟨hstart.1.1, hend.1.1, hstart.1.2, hend.1.2, hmidnight.1.realTime,
        hmidnight.2.realTime, fun _ => hmidnight,
        notAfter_of_startIsAfter hafter (fun _ => hmidnight)⟩
    have hstart := hreads.dateTime _ _ _ hstart
    have hend := hreads.dateTime _ _ _ hend
    have hform : isDateOnly periodStr = false := by
      unfold isDateOnly
      rw [hslash, hlen]
      rfl
    rw [hform]
    exact ⟨hstart.1.1, hend.1.1, hstart.1.2, hend.1.2, hstart.2, hend.2,
      fun h => absurd h Bool.false_ne_true,
      notAfter_of_startIsAfter hafter (fun h => DateForm.noConfusion h)⟩

/-! ## The check -/

/-- What the check takes for `a` not after `b`. -/
def CodeLe (a b : IotvtICalDateTime) : Prop :=
  DateLt a b ∨ (SameDate a b ∨ LeapSlip a b) ∧ secsOf a ≤ secsOf b

lemma codeLe_iff {a b : IotvtICalDateTime} (ha : RealDate a) (hb : RealDate b) {days : ℤ}
    (hdays : diffDays a b = some days) :
    0 ≤ days ∧ (days = 0 → 0 ≤ diffSecs a b) ↔ CodeLe a b := by
  obtain ⟨hlt, hsame, hgt⟩ := diffDays_sign ha hb hdays
  unfold CodeLe diffSecs
  have hslip : LeapSlip a b → DateLt b a := by
    rintro ⟨hyear, _⟩
    exact .inl (by omega)
  constructor
  · rintro ⟨hnonneg, hsecs⟩
    obtain h | h | h := dateLt_trichotomy a b
    · exact .inl h
    · have hle := hsecs (hsame h)
      exact .inr ⟨.inl h, by omega⟩
    · have hzero : days = 0 := le_antisymm (hgt h).1 hnonneg
      have hle := hsecs hzero
      exact .inr ⟨.inr ((hgt h).2.mp hzero), by omega⟩
  · rintro (h | ⟨h | h, hle⟩)
    · have hpos := hlt h
      exact ⟨hpos.le, fun hzero => absurd hzero hpos.ne'⟩
    · exact ⟨(hsame h).ge, fun _ => by omega⟩
    · exact ⟨((hgt (hslip h)).2.mpr h).ge, fun _ => by omega⟩

lemma validatePeriod_iff {now : IotvtICalDateTime} (hstart : RealDate period.startDateTime)
    (hend : RealDate period.endDateTime)
    (hnow : RealDate now) : validatePeriod period now = some .validAccess
      ↔ (∃ days, diffDays period.startDateTime now = some days)
        ∧ (∃ days, diffDays now period.endDateTime = some days)
        ∧ CodeLe period.startDateTime now ∧ CodeLe now period.endDateTime := by
  unfold validatePeriod
  cases hfrom : diffDays period.startDateTime now with
  | none => simp
  | some fromStart =>
    cases hto : diffDays now period.endDateTime with
    | none => simp
    | some toEnd =>
      rw [← codeLe_iff hstart hnow hfrom, ← codeLe_iff hnow hend hto]
      simp only [Option.bind_eq_bind, Option.bind_some, Option.some.injEq, exists_eq', true_and]
      constructor
      · intro h
        split at h
        · next hvalid => exact ⟨⟨hvalid.1.1, hvalid.2.1⟩, hvalid.1.2, hvalid.2.2⟩
        · cases h
      · rintro ⟨⟨hday, htime⟩, hday', htime'⟩
        exact if_pos ⟨⟨hday, hday'⟩, htime, htime'⟩

section Exact

variable {dateOnly : Bool} {period : IotvtICalPeriod} {now : IotvtICalDateTime}

lemma Parsed.valid_iff (h : Parsed dateOnly period) (hdate : RealDate now)
    (hfrom : period.startDateTime.tmYear - 1 ≤ now.tmYear)
    (hto : now.tmYear ≤ period.endDateTime.tmYear + 1) :
    validatePeriod period now = some .validAccess
      ↔ CodeLe period.startDateTime now ∧ CodeLe now period.endDateTime := by
  have hstart := h.startYear
  have hend := h.endYear
  unfold FourDigits tmYearOffset at hstart hend
  rw [validatePeriod_iff h.startDate h.endDate hdate]
  have hdefined := diffDays_defined h.startDate hdate (by omega) (by omega)
  have hdefined' := diffDays_defined hdate h.endDate (by omega) (by omega)
  simp [hdefined, hdefined']

variable {a b : IotvtICalDateTime}

lemma DateLt.year_le (h : DateLt a b) : a.tmYear ≤ b.tmYear := by
  unfold DateLt at h
  omega

lemma NotAfter.year_le (h : NotAfter a b) : a.tmYear ≤ b.tmYear :=
  h.elim DateLt.year_le (·.1.1.le)

lemma LeapSlip.dateLt (h : LeapSlip a b) : DateLt b a := by
  obtain ⟨hyear, _⟩ := h
  exact .inl (by omega)

lemma DateLt.of_notAfter {c : IotvtICalDateTime} (h : DateLt a b) (h' : NotAfter b c) :
    DateLt a c := by
  unfold NotAfter SameDate at h'
  unfold DateLt at *
  omega

lemma NotAfter.dateLt {c : IotvtICalDateTime} (h : NotAfter a b) (h' : DateLt b c) :
    DateLt a c := by
  unfold NotAfter SameDate at h
  unfold DateLt at *
  omega

lemma DateLt.asymm (h : DateLt a b) (h' : DateLt b a) : False := by
  unfold DateLt at h h'
  omega

lemma DateLt.not_same (h : DateLt a b) :
    ¬ SameDate a b ∧ ¬ SameDate b a := by
  unfold DateLt at h
  unfold SameDate
  omega

lemma within_of_clean (h : Parsed dateOnly period) (hdate : RealDate now)
    (htime : RealTime now) (hclean : PeriodClean dateOnly period now) :
    validatePeriod period now = some .validAccess ↔ Within dateOnly period now := by
  constructor
  · intro hvalid
    obtain ⟨_, _, hstart, hend⟩ := (validatePeriod_iff h.startDate h.endDate hdate).mp hvalid
    refine ⟨?_, ?_⟩
    · obtain hlt | ⟨hsame | hslip, hle⟩ := hstart
      · exact .inl hlt
      · refine .inr ⟨hsame, ?_⟩
        obtain hlt | heq := hle.lt_or_eq
        · exact timeLe_of_secs h.startTime htime hlt
        · exact hclean.startSecond hsame heq
      · exact absurd (hclean.before hslip) (not_lt.mpr hle)
    · obtain hlt | ⟨hsame | hslip, hle⟩ := hend
      · split
        · exact .inl hlt
        · exact .inl hlt
      · split
        · exact .inr hsame
        refine .inr ⟨hsame, ?_⟩
        obtain hlt | heq := hle.lt_or_eq
        · exact timeLe_of_secs htime h.endTime hlt
        · exact hclean.endSecond hsame heq
      · exact absurd (hclean.behind hslip) (not_lt.mpr hle)
  · rintro ⟨hstart, hend⟩
    have hyear := hstart.year_le
    have hend' : NotAfter now period.endDateTime := by
      cases dateOnly with
      | false => exact hend
      | true =>
        refine hend.imp_right (fun hsame => ⟨hsame, ?_⟩)
        -- it is midnight on that day
        have hzero := hclean.lastDay rfl hsame
        obtain ⟨_, _, _⟩ := htime
        unfold secsOf at hzero
        exact Midnight.timeLe ⟨by omega, by omega, by omega⟩ h.endTime
    have hyear' := hend'.year_le
    refine (h.valid_iff hdate (by omega) (by omega)).mpr ⟨?_, ?_⟩
    · exact hstart.imp_right (fun hsame => ⟨.inl hsame.1, hsame.2.secs_le h.startTime htime⟩)
    · exact hend'.imp_right (fun hsame => ⟨.inl hsame.1, hsame.2.secs_le htime h.endTime⟩)

lemma clean_of_within (h : Parsed dateOnly period) (hdate : RealDate now) (htime : RealTime now)
    (hright : validatePeriod period now = some .validAccess ↔ Within dateOnly period now) :
    PeriodClean dateOnly period now := by
  have hperiod := h.order.year_le
  constructor
  · intro hslip
    by_contra hle
    have hlt := hslip.dateLt
    have hstart : CodeLe period.startDateTime now := .inr ⟨.inr hslip, not_lt.mp hle⟩
    have hend : CodeLe now period.endDateTime := .inl (hlt.of_notAfter h.order)
    have hyear := hslip.1
    obtain ⟨hbad, _⟩ := hright.mp ((h.valid_iff hdate (by omega) (by omega)).mpr ⟨hstart, hend⟩)
    exact hbad.elim hlt.asymm (hlt.not_same.2 ·.1)
  · intro hslip
    by_contra hle
    have hlt := hslip.dateLt
    have hstart : CodeLe period.startDateTime now := .inl (h.order.dateLt hlt)
    have hend : CodeLe now period.endDateTime := .inr ⟨.inr hslip, not_lt.mp hle⟩
    have hyear := hslip.1
    obtain ⟨_, hbad⟩ := hright.mp ((h.valid_iff hdate (by omega) (by omega)).mpr ⟨hstart, hend⟩)
    split at hbad
    · exact hbad.elim hlt.asymm hlt.not_same.2
    · exact hbad.elim hlt.asymm (hlt.not_same.2 ·.1)
  · intro honly hsame
    by_contra hlate
    obtain ⟨hmidnight, hmidnight'⟩ := h.midnight honly
    have hnonneg := htime.secs_nonneg
    -- the start of the period is not after it
    have hstart : NotAfter period.startDateTime now := by
      obtain hlt | ⟨hday, _⟩ := h.order
      · refine .inl ?_
        unfold DateLt SameDate at *
        omega
      refine .inr ⟨?_, hmidnight.timeLe htime⟩
      unfold SameDate at *
      omega
    have hwithin : Within dateOnly period now := ⟨hstart, by rw [if_pos honly]; exact .inr hsame⟩
    obtain ⟨_, _, _, hend⟩ :=
      (validatePeriod_iff h.startDate h.endDate hdate).mp (hright.mpr hwithin)
    obtain hlt | ⟨_, hle⟩ := hend
    · exact hlt.not_same.1 hsame
    rw [hmidnight'.secs] at hle
    omega
  · intro hsame hsecs
    by_contra hbefore
    have hlater : dateOnly = false := by
      by_contra honly
      exact hbefore ((h.midnight (Bool.not_eq_false _ ▸ honly)).1.timeLe htime)
    have hstart : CodeLe period.startDateTime now := .inr ⟨.inl hsame, hsecs.le⟩
    have hend : CodeLe now period.endDateTime := by
      obtain hlt | ⟨hday, hle⟩ := h.order
      · refine .inl ?_
        unfold DateLt SameDate at *
        omega
      refine .inr ⟨.inl ?_, ?_⟩
      · unfold SameDate at *
        omega
      · rw [← hsecs]
        exact hle.secs_le h.startTime h.endTime
    have hyear := hsame.1
    obtain ⟨hbad, _⟩ := hright.mp ((h.valid_iff hdate (by omega) (by omega)).mpr ⟨hstart, hend⟩)
    exact hbad.elim (·.not_same.1 hsame) (hbefore ·.2)
  · intro hsame hsecs
    by_contra hbehind
    have hlater : dateOnly = false := by
      by_contra honly
      have hmidnight := (h.midnight (Bool.not_eq_false _ ▸ honly)).2
      rw [hmidnight.secs] at hsecs
      obtain ⟨_, _, _⟩ := htime
      unfold secsOf at hsecs
      exact hbehind (Midnight.timeLe ⟨by omega, by omega, by omega⟩ h.endTime)
    have hend : CodeLe now period.endDateTime := .inr ⟨.inl hsame, hsecs.le⟩
    have hstart : CodeLe period.startDateTime now := by
      obtain hlt | ⟨hday, hle⟩ := h.order
      · refine .inl ?_
        unfold DateLt SameDate at *
        omega
      refine .inr ⟨.inl ?_, ?_⟩
      · unfold SameDate at *
        omega
      · rw [hsecs]
        exact hle.secs_le h.startTime h.endTime
    have hyear := hsame.1
    obtain ⟨_, hbad⟩ := hright.mp ((h.valid_iff hdate (by omega) (by omega)).mpr ⟨hstart, hend⟩)
    rw [hlater] at hbad
    exact hbad.elim (·.not_same.1 hsame) (hbehind ·.2)

end Exact

/-- **When the check is right**, for a period that was parsed and any time. -/
theorem period_exact (strptime : Strptime) (hreads : ReadsDates strptime)
    (periodStr : List UInt8) (period : IotvtICalPeriod)
    (hparse : parsePeriod strptime periodStr = some period) (now : IotvtICalDateTime)
    (hdate : RealDate now) (htime : RealTime now) :
    (isRequestWithinValidTime strptime now (some periodStr) none = some .validAccess
        ↔ Within (isDateOnly periodStr) period now)
      ↔ PeriodClean (isDateOnly periodStr) period now := by
  have hparsed := parsePeriod_parsed hreads hparse
  have hcheck : isRequestWithinValidTime strptime now (some periodStr) none
      = validatePeriod period now := by
    unfold isRequestWithinValidTime
    simp [hparse]
  rw [hcheck]
  exact ⟨clean_of_within hparsed hdate htime, within_of_clean hparsed hdate htime⟩

/-! ## Texts with digits -/

instance (d : IotvtICalDateTime) : Decidable (RealDate d) :=
  decidable_of_iff ((0 ≤ d.tmMon ∧ d.tmMon < 12)
      ∧ (1 ≤ d.tmMday ∧ d.tmMday ≤ daysIn (IsLeap (d.tmYear + tmYearOffset)) d.tmMon.toNat)
      ∧ d.tmYday = daysBefore (IsLeap (d.tmYear + tmYearOffset)) d.tmMon.toNat + d.tmMday - 1)
    ⟨fun h => ⟨h.1, h.2.1, h.2.2⟩, fun h => ⟨h.mon, h.mday, h.yday⟩⟩

instance (d : IotvtICalDateTime) : Decidable (RealTime d) :=
  decidable_of_iff ((0 ≤ d.tmHour ∧ d.tmHour < 24) ∧ (0 ≤ d.tmMin ∧ d.tmMin < 60)
      ∧ (0 ≤ d.tmSec ∧ d.tmSec ≤ 60))
    ⟨fun h => ⟨h.1, h.2.1, h.2.2⟩, fun h => ⟨h.hour, h.min, h.sec⟩⟩

instance (d : IotvtICalDateTime) : Decidable (FourDigits d) :=
  inferInstanceAs (Decidable (_ ∧ _))

def numberAt (text : List UInt8) (start len : ℕ) : ℤ :=
  ((text.drop start).take len).foldl (fun n c => 10 * n + (c.toNat - 0x30 : ℤ)) 0

def dateTimeOf (year mon mday hour min sec : ℤ) : IotvtICalDateTime :=
  ⟨sec, min, hour, mday, mon - 1, year - tmYearOffset, 0,
    daysBefore (IsLeap year) (mon - 1).toNat + mday - 1⟩

def digitsRead (text : List UInt8) (tm : IotvtICalDateTime) : DateForm → IotvtICalDateTime
  | .date => dateTimeOf (numberAt text 0 4) (numberAt text 4 2) (numberAt text 6 2)
      tm.tmHour tm.tmMin tm.tmSec
  | .dateTime => dateTimeOf (numberAt text 0 4) (numberAt text 4 2) (numberAt text 6 2)
      (numberAt text 9 2) (numberAt text 11 2) (numberAt text 13 2)

def readDigits : Strptime := fun form text tm =>
  let d := digitsRead text tm form
  if (RealDate d ∧ FourDigits d) ∧ (form = .dateTime → RealTime d) then some d else none

lemma readDigits_reads : ReadsDates readDigits := by
  constructor
  · intro text tm d hread
    unfold readDigits at hread
    simp only at hread
    split at hread
    · next hreal =>
        obtain rfl := Option.some.inj hread
        exact ⟨hreal.1, rfl, rfl, rfl⟩
    · cases hread
  · intro text tm d hread
    unfold readDigits at hread
    simp only at hread
    split at hread
    · next hreal =>
        obtain rfl := Option.some.inj hread
        exact ⟨hreal.1, hreal.2 trivial⟩
    · cases hread

def twoDays : List UInt8 :=
  [0x32, 0x30, 0x31, 0x35, 0x30, 0x36, 0x32, 0x39, 0x2F,
    0x32, 0x30, 0x31, 0x35, 0x30, 0x36, 0x33, 0x30]

def newYearsDay : List UInt8 :=
  [0x32, 0x30, 0x32, 0x35, 0x30, 0x31, 0x30, 0x31, 0x54, 0x30, 0x38, 0x30, 0x30, 0x30, 0x30, 0x2F,
    0x32, 0x30, 0x32, 0x35, 0x30, 0x31, 0x30, 0x31, 0x54, 0x31, 0x37, 0x30, 0x30, 0x30, 0x30]

lemma twoDays_parsed : parsePeriod readDigits twoDays
    = some ⟨dateTimeOf 2015 6 29 0 0 0, dateTimeOf 2015 6 30 0 0 0⟩ := by
  decide

lemma newYearsDay_parsed : parsePeriod readDigits newYearsDay
    = some ⟨dateTimeOf 2025 1 1 8 0 0, dateTimeOf 2025 1 1 17 0 0⟩ := by
  decide

theorem lastDay_missing :
    ¬ (isRequestWithinValidTime readDigits (dateTimeOf 2015 6 30 12 0 0) (some twoDays) none
        = some .validAccess
      ↔ Within (isDateOnly twoDays) ⟨dateTimeOf 2015 6 29 0 0 0, dateTimeOf 2015 6 30 0 0 0⟩
        (dateTimeOf 2015 6 30 12 0 0))
      ∧ ¬ (isRequestWithinValidTime readDigits (dateTimeOf 2024 12 31 12 0 0) (some newYearsDay)
          none = some .validAccess
        ↔ Within (isDateOnly newYearsDay) ⟨dateTimeOf 2025 1 1 8 0 0, dateTimeOf 2025 1 1 17 0 0⟩
          (dateTimeOf 2024 12 31 12 0 0)) := by
  constructor
  · intro hright
    have hwithin : Within (isDateOnly twoDays)
        ⟨dateTimeOf 2015 6 29 0 0 0, dateTimeOf 2015 6 30 0 0 0⟩
        (dateTimeOf 2015 6 30 12 0 0) :=
      ⟨.inl (.inr ⟨rfl, .inr ⟨rfl, by decide⟩⟩), .inr ⟨rfl, rfl, rfl⟩⟩
    exact absurd (hright.mpr hwithin) (by decide)
  · intro hright
    have hparsed := parsePeriod_parsed readDigits_reads newYearsDay_parsed
    have hdate : RealDate (dateTimeOf 2024 12 31 12 0 0) := by decide
    have hvalid := (hparsed.valid_iff hdate (by decide) (by decide)).mpr
      ⟨.inr ⟨.inr ⟨rfl, rfl, by decide⟩, by decide⟩, .inl (.inl (by decide))⟩
    have hcheck : isRequestWithinValidTime readDigits (dateTimeOf 2024 12 31 12 0 0)
        (some newYearsDay) none = some .validAccess := by
      unfold isRequestWithinValidTime
      simp only [newYearsDay_parsed]
      exact hvalid
    obtain ⟨hstart, _⟩ := hright.mp hcheck
    exact absurd hstart.year_le (by decide)

theorem firstDay_valid :
    isRequestWithinValidTime readDigits (dateTimeOf 2015 6 29 12 0 0) (some twoDays) none
        = some .validAccess
      ↔ Within (isDateOnly twoDays) ⟨dateTimeOf 2015 6 29 0 0 0, dateTimeOf 2015 6 30 0 0 0⟩
        (dateTimeOf 2015 6 29 12 0 0) := by
  refine (period_exact readDigits readDigits_reads twoDays _ twoDays_parsed
    (dateTimeOf 2015 6 29 12 0 0) (by decide) (by decide)).mpr ⟨?_, ?_, ?_, ?_, ?_⟩
  · exact fun hslip => absurd hslip.1 (by decide)
  · exact fun hslip => absurd hslip.1 (by decide)
  · exact fun _ hsame => absurd hsame.2.2 (by decide)
  · exact fun _ hsecs => absurd hsecs (by decide)
  · exact fun hsame => absurd hsame.2.2 (by decide)

end Iochibity.Sec.Calendar
