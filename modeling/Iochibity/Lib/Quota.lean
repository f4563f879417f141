/-
Quotas on a log: among any `n + 1` consecutive entries at least one is of a given kind.
-/
import Mathlib.Data.List.Infix
import Mathlib.Algebra.Order.Ring.Nat

namespace Quota

open List

variable {α : Type*} (P : α → Bool)

def lag (log : List α) : ℕ := (log.reverse.takeWhile (!P ·)).length

/-- Any `n + 1` consecutive entries have one of the kind. -/
def Holds (n : ℕ) (log : List α) : Prop :=
  ∀ window, window <:+: log → n < window.length → ∃ e ∈ window, P e = true

variable {P}

@[simp] lemma lag_nil : lag P [] = 0 := rfl

lemma lag_append_of_pos {e : α} (h : P e = true) (log : List α) :
    lag P (log ++ [e]) = 0 := by
  rw [lag, reverse_append, reverse_singleton, singleton_append,
    takeWhile_cons_of_neg (by simp [h]), length_nil]

lemma lag_append_of_neg {e : α} (h : P e = false) (log : List α) :
    lag P (log ++ [e]) = lag P log + 1 := by
  rw [lag, reverse_append, reverse_singleton, singleton_append,
    takeWhile_cons_of_pos (by simp [h]), length_cons, lag]

lemma lag_append_le (log : List α) (e : α) : lag P (log ++ [e]) ≤ lag P log + 1 := by
  cases h : P e with
  | true => rw [lag_append_of_pos h]; exact Nat.zero_le _
  | false => rw [lag_append_of_neg h]

lemma length_le_lag {log ending : List α} (hsuffix : ending <:+ log)
    (hnone : ∀ e ∈ ending, P e = false) : ending.length ≤ lag P log := by
  obtain ⟨start, rfl⟩ := hsuffix
  have hall : ∀ e ∈ ending.reverse, (!P e) = true := by
    intro e he
    rw [hnone e (mem_reverse.mp he)]
    rfl
  rw [lag, reverse_append, takeWhile_append_of_pos hall, length_append, length_reverse]
  omega

lemma holds_nil (n : ℕ) : Holds P n [] := by
  intro window hinfix hlong
  rw [eq_nil_of_infix_nil hinfix] at hlong
  simp at hlong

lemma holds_append {n : ℕ} {log : List α} {e : α} (hlog : Holds P n log)
    (he : P e = true ∨ lag P log < n) : Holds P n (log ++ [e]) := by
  intro window hinfix hlong
  rcases infix_concat_iff.mp hinfix with hsuffix | hinfix
  · by_contra hnone
    push Not at hnone
    simp only [Bool.not_eq_true] at hnone
    have hlag : window.length ≤ lag P (log ++ [e]) := length_le_lag hsuffix hnone
    -- the window ends with the new entry, which therefore is not of the kind
    have hmem : e ∈ window := by
      rcases suffix_concat_iff.mp hsuffix with rfl | ⟨front, rfl, -⟩
      · simp at hlong
      · simp
    have hneg : P e = false := hnone e hmem
    rw [lag_append_of_neg hneg] at hlag
    rcases he with he | he
    · rw [hneg] at he
      simp at he
    · omega
  · exact hlog window hinfix hlong

end Quota
