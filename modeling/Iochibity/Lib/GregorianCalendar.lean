/-
The Gregorian calendar: leap years, the lengths of months, and how many days lie between two dates.
-/
import Mathlib.Algebra.BigOperators.Group.Finset.Basic
import Mathlib.Algebra.Order.BigOperators.Group.List
import Mathlib.Tactic.Linarith

namespace Gregorian

/-! ## Years -/

variable (year : ℤ)

def IsLeap : Prop := year % 4 = 0 ∧ (year % 100 ≠ 0 ∨ year % 400 = 0)

instance (year : ℤ) : Decidable (IsLeap year) := inferInstanceAs (Decidable (_ ∧ _))

def yearDays : ℤ := if IsLeap year then 366 else 365

lemma yearDays_bounds : 365 ≤ yearDays year ∧ yearDays year ≤ 366 := by
  unfold yearDays
  split <;> omega

def years (first last : ℤ) : Finset ℤ :=
  (Finset.range (last - first).toNat).image (fun n : ℕ => first + n)

lemma mem_years {first last year : ℤ} :
    year ∈ years first last ↔ first ≤ year ∧ year < last := by
  unfold years
  rw [Finset.mem_image]
  constructor
  · rintro ⟨n, hn, rfl⟩
    rw [Finset.mem_range] at hn
    omega
  · intro hbetween
    refine ⟨(year - first).toNat, ?_, by omega⟩
    rw [Finset.mem_range]
    omega

lemma card_years (first last : ℤ) : (years first last).card = (last - first).toNat := by
  unfold years
  rw [Finset.card_image_of_injective, Finset.card_range]
  intro n m heq
  simpa using heq

def leapYears (first last : ℤ) : Finset ℤ := (years first last).filter IsLeap

lemma mem_leapYears {first last year : ℤ} :
    year ∈ leapYears first last ↔ (first ≤ year ∧ year < last) ∧ IsLeap year := by
  unfold leapYears
  rw [Finset.mem_filter, mem_years]

lemma leapYears_empty : leapYears year year = ∅ := by
  apply Finset.eq_empty_of_forall_notMem
  intro y hy
  rw [mem_leapYears] at hy
  omega

lemma card_leapYears_first {first last : ℤ} (h : first < last) :
    ((leapYears first last).card : ℤ)
      = (if IsLeap first then 1 else 0) + (leapYears (first + 1) last).card := by
  have hfirst : first ∉ leapYears (first + 1) last := by
    rw [mem_leapYears]
    omega
  by_cases hleap : IsLeap first
  · have hinsert : leapYears first last = insert first (leapYears (first + 1) last) := by
      ext year
      rw [Finset.mem_insert, mem_leapYears, mem_leapYears]
      constructor
      · rintro ⟨hbetween, hyear⟩
        by_cases heq : year = first
        · exact .inl heq
        · exact .inr ⟨by omega, hyear⟩
      · rintro (rfl | ⟨hbetween, hyear⟩)
        · exact ⟨by omega, hleap⟩
        · exact ⟨by omega, hyear⟩
    rw [if_pos hleap, hinsert, Finset.card_insert_of_notMem hfirst]
    push_cast
    omega
  have hsame : leapYears first last = leapYears (first + 1) last := by
    ext year
    rw [mem_leapYears, mem_leapYears]
    constructor
    · rintro ⟨hbetween, hyear⟩
      have hne : year ≠ first := fun heq => hleap (heq ▸ hyear)
      exact ⟨by omega, hyear⟩
    · rintro ⟨hbetween, hyear⟩
      exact ⟨by omega, hyear⟩
  simp [hleap, hsame]

lemma leapYears_subset {first first' last : ℤ} (h : first ≤ first') :
    leapYears first' last ⊆ leapYears first last := by
  intro year
  rw [mem_leapYears, mem_leapYears]
  rintro ⟨hbetween, hyear⟩
  exact ⟨by omega, hyear⟩

lemma exists_leap : ∃ leap, year < leap ∧ leap ≤ year + 8 ∧ IsLeap leap := by
  -- the next multiple of 4, or, when it is a common year, the one behind it
  by_cases hleap : IsLeap (4 * (year / 4) + 4)
  · exact ⟨_, by omega, by omega, hleap⟩
  refine ⟨4 * (year / 4) + 8, by omega, by omega, ?_⟩
  unfold IsLeap at hleap ⊢
  omega

def daysBetween (year yday year' yday' : ℤ) : ℤ :=
  ∑ y ∈ years year year', yearDays y + yday' - yday

lemma sum_yearDays {first last : ℤ} (h : first ≤ last) :
    ∑ y ∈ years first last, yearDays y = 365 * (last - first) + (leapYears first last).card := by
  have hsplit : ∀ y, yearDays y = 365 + if IsLeap y then 1 else 0 := by
    intro y
    unfold yearDays
    split <;> rfl
  simp only [hsplit]
  rw [Finset.sum_add_distrib, Finset.sum_const, card_years, ← Finset.sum_filter,
    Finset.sum_const, nsmul_eq_mul, nsmul_eq_mul, mul_one, Int.toNat_of_nonneg (by omega)]
  rw [mul_comm]
  rfl

variable (leap : Bool)

def monthDays : List ℤ :=
  [31, if leap then 29 else 28, 31, 30, 31, 30, 31, 31, 30, 31, 30, 31]

def daysBefore (mon : ℕ) : ℤ := ((monthDays leap).take mon).sum

def daysIn (mon : ℕ) : ℤ := (monthDays leap).getD mon 0

lemma daysBefore_nonneg (mon : ℕ) : 0 ≤ daysBefore leap mon := by
  refine List.sum_nonneg (fun days hdays => ?_)
  have hall : ∀ leap : Bool, ∀ days ∈ monthDays leap, 0 ≤ days := by decide
  exact hall leap days (List.mem_of_mem_take hdays)

lemma daysBefore_add_le {mon mon' : ℕ} (hlt : mon < mon') (hmon : mon' < 12) :
    daysBefore leap mon + daysIn leap mon ≤ daysBefore leap mon' := by
  have hall : ∀ leap : Bool, ∀ mon' < 12, ∀ mon < mon',
      daysBefore leap mon + daysIn leap mon ≤ daysBefore leap mon' := by
    decide
  exact hall leap mon' hmon mon hlt

lemma daysBefore_add_le_year {mon : ℕ} (hmon : mon < 12) :
    daysBefore (IsLeap year) mon + daysIn (IsLeap year) mon ≤ yearDays year := by
  have hall : ∀ leap : Bool, ∀ mon < 12,
      daysBefore leap mon + daysIn leap mon ≤ if leap then 366 else 365 := by
    decide
  have hyear := hall (IsLeap year) mon hmon
  unfold yearDays
  simpa only [decide_eq_true_eq] using hyear

end Gregorian
