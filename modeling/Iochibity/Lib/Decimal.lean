/-
Numbers as decimal digits.
-/
import Mathlib.Data.List.Induction

namespace Decimal

open List

def isDigit (c : UInt8) : Bool := 48 ≤ c && c ≤ 57

def value (digits : List UInt8) : Nat :=
  digits.foldl (fun n c => 10 * n + (c.toNat - 48)) 0

def digit (d : Nat) : UInt8 := UInt8.ofNat (48 + d)

def print (n : Nat) : List UInt8 := (Nat.toDigits 10 n).map (UInt8.ofNat ·.toNat)

lemma print_of_lt {n : Nat} (h : n < 10) : print n = [digit n] := by
  rw [print, Nat.toDigits_of_lt_base h]
  revert n
  decide

lemma print_of_le {n : Nat} (h : 10 ≤ n) : print n = print (n / 10) ++ [digit (n % 10)] := by
  have hlast := print_of_lt (Nat.mod_lt n (by omega : 0 < 10))
  rw [print, Nat.toDigits_of_lt_base (Nat.mod_lt n (by omega))] at hlast
  rw [print, Nat.toDigits_of_base_le (by omega) h, map_append, hlast]
  rfl

lemma isDigit_digit {d : Nat} (h : d < 10) : isDigit (digit d) = true := by
  revert d
  decide

lemma toNat_digit {d : Nat} (h : d < 10) : (digit d).toNat - 48 = d := by
  revert d
  decide

lemma digit_toNat {c : UInt8} (h : isDigit c = true) :
    c.toNat - 48 < 10 ∧ digit (c.toNat - 48) = c := by
  rw [isDigit, Bool.and_eq_true, decide_eq_true_eq, decide_eq_true_eq, UInt8.le_iff_toNat_le,
    UInt8.le_iff_toNat_le] at h
  have hlow : 48 ≤ c.toNat := h.1
  have hhigh : c.toNat ≤ 57 := h.2
  refine ⟨by omega, ?_⟩
  rw [digit, Nat.add_sub_cancel' hlow]
  exact UInt8.ofNat_toNat

lemma value_concat (digits : List UInt8) (c : UInt8) :
    value (digits ++ [c]) = 10 * value digits + (c.toNat - 48) := by
  rw [value, foldl_append]
  rfl

lemma isDigit_print (n : Nat) : ∀ c ∈ print n, isDigit c = true := by
  induction n using Nat.strongRecOn with
  | ind n ih =>
    intro c hc
    by_cases h : n < 10
    · rw [print_of_lt h, mem_singleton] at hc
      rw [hc, isDigit_digit h]
    rw [print_of_le (by omega), mem_append, mem_singleton] at hc
    rcases hc with hc | rfl
    · exact ih (n / 10) (by omega) c hc
    · exact isDigit_digit (Nat.mod_lt n (by omega))

@[simp] lemma value_print (n : Nat) : value (print n) = n := by
  induction n using Nat.strongRecOn with
  | ind n ih =>
    by_cases h : n < 10
    · rw [print_of_lt h, ← nil_append [digit n], value_concat, toNat_digit h]
      exact Nat.zero_add n
    rw [print_of_le (by omega), value_concat, ih (n / 10) (by omega),
      toNat_digit (Nat.mod_lt n (by omega))]
    omega

lemma print_ne_nil (n : Nat) : print n ≠ [] := by
  rw [print, ne_eq, map_eq_nil_iff]
  exact Nat.toDigits_ne_nil

lemma zeros_print {digits : List UInt8} (hdigits : ∀ c ∈ digits, isDigit c = true) :
    (value digits = 0 → digits = List.replicate digits.length 48)
      ∧ (0 < value digits → ∃ k, digits = List.replicate k 48 ++ print (value digits)) := by
  induction digits using List.reverseRecOn with
  | nil => exact ⟨fun _ => rfl, fun h => absurd h (Nat.lt_irrefl 0)⟩
  | append_singleton digits c ih =>
    rw [forall_mem_append, forall_mem_singleton] at hdigits
    obtain ⟨hzero, hpos⟩ := ih hdigits.1
    obtain ⟨hlt, hc⟩ := digit_toNat hdigits.2
    rw [value_concat, length_append, length_singleton, replicate_succ']
    generalize hd : c.toNat - 48 = d at hlt hc
    rw [← hc]
    constructor
    · intro h
      rw [← hzero (by omega), show d = 0 by omega]
      rfl
    intro h
    by_cases hfront : value digits = 0
    · rw [hfront, Nat.mul_zero, Nat.zero_add, print_of_lt hlt]
      exact ⟨digits.length, by rw [← hzero hfront]⟩
    obtain ⟨k, hk⟩ := hpos (by omega)
    refine ⟨k, ?_⟩
    rw [print_of_le (by omega), show (10 * value digits + d) / 10 = value digits by omega,
      show (10 * value digits + d) % 10 = d by omega, ← append_assoc, ← hk]

end Decimal
