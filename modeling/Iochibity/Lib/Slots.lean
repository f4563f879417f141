/-
A fixed number of slots that are written in turn.
-/
import Mathlib.Data.List.Basic
import Mathlib.Data.Nat.ModEq
import Mathlib.Data.Fintype.Basic
import Mathlib.Data.List.Pairwise

namespace RingSlots

variable {σ ι : Type*} {k : ℕ}

structure Ring (σ : Type*) (k : ℕ) where
  next : Fin k
  slots : Vector σ k

def advance (i : Fin k) : Fin k :=
  if h : i.val + 1 < k then ⟨i.val + 1, h⟩ else ⟨0, i.pos⟩

def push (write : σ → ι → σ) (r : Ring σ k) (input : ι) : Ring σ k :=
  ⟨advance r.next, r.slots.set r.next (write r.slots[r.next] input)⟩

def slotAfter (write : σ → ι → σ) (init : σ) (k s : ℕ) : List ι → σ
  | [] => init
  | input :: past =>
    if past.length % k = s then write (slotAfter write init k s past) input
    else slotAfter write init k s past

lemma advance_val (i : Fin k) : (advance i).val = (i.val + 1) % k := by
  unfold advance
  split
  · next h => exact (Nat.mod_eq_of_lt h).symm
  next h =>
    have hlast : i.val + 1 = k := Nat.le_antisymm i.isLt (Nat.not_lt.mp h)
    simp [hlast]

section Runs

variable {write : σ → ι → σ} {init : σ}

structure Holds (write : σ → ι → σ) (init : σ) (r : Ring σ k) (past : List ι) : Prop where
  next : r.next.val = past.length % k
  slots : ∀ s (hs : s < k), r.slots[s] = slotAfter write init k s past

lemma Holds.push {r : Ring σ k} {past : List ι} (h : Holds write init r past) (input : ι) :
    Holds write init (push write r input) (input :: past) where
  next := by
    have hnext : (RingSlots.push write r input).next.val = (r.next.val + 1) % k :=
      advance_val r.next
    rw [hnext, h.next, List.length_cons, Nat.mod_add_mod]
  slots := by
    intro s hs
    have hset : (RingSlots.push write r input).slots[s]
        = if r.next.val = s then write r.slots[r.next] input else r.slots[s] :=
      Vector.getElem_set r.next.isLt hs
    rw [hset, slotAfter, ← h.next]
    by_cases heq : r.next.val = s
    · subst heq
      rw [if_pos rfl, if_pos rfl]
      exact congrArg (write · input) (h.slots r.next.val hs)
    rw [if_neg heq, if_neg heq]
    exact h.slots s hs

lemma slotAfter_fresh {s : ℕ} {past : List ι} (hfresh : past.length ≤ s) (hs : s < k) :
    slotAfter write init k s past = init := by
  induction past with
  | nil => rfl
  | cons input past ih =>
    rw [List.length_cons] at hfresh
    rw [slotAfter, Nat.mod_eq_of_lt (by omega), if_neg (by omega)]
    exact ih (by omega)

lemma slotAfter_drop {past : List ι} {j : ℕ} (hj : j < past.length) (hk : j < k) :
    slotAfter write init k ((past.length - 1 - j) % k) past
      = write (slotAfter write init k ((past.length - 1 - j) % k) (past.drop (j + 1))) past[j] := by
  induction past generalizing j with
  | nil => simp at hj
  | cons input past ih =>
    rw [List.length_cons] at hj ⊢
    cases j with
    | zero =>
      rw [slotAfter, Nat.add_sub_cancel, Nat.sub_zero, if_pos rfl]
      rfl
    | succ j =>
      -- fewer than `k` inputs later another slot is written
      have hother : ¬ past.length % k = (past.length + 1 - 1 - (j + 1)) % k := by
        intro heq
        have hdvd := (Nat.modEq_iff_dvd' (by omega)).mp
          (show (past.length + 1 - 1 - (j + 1)) ≡ past.length [MOD k] from heq.symm)
        have hdiff : past.length - (past.length + 1 - 1 - (j + 1)) = j + 1 := by omega
        rw [hdiff] at hdvd
        exact absurd (Nat.le_of_dvd (Nat.succ_pos j) hdvd) (by omega)
      have hindex : past.length + 1 - 1 - (j + 1) = past.length - 1 - j := by omega
      rw [slotAfter, if_neg hother, hindex]
      exact ih (by omega) (by omega)

lemma exists_slot_iff (past : List ι) (p : σ → Prop) :
    (∃ s, s < k ∧ p (slotAfter write init k s past))
      ↔ (∃ j, ∃ h : j < past.length, j < k ∧
          p (write (slotAfter write init k ((past.length - 1 - j) % k) (past.drop (j + 1)))
            past[j]))
        ∨ (past.length < k ∧ p init) := by
  constructor
  · rintro ⟨s, hs, hp⟩
    by_cases hfresh : past.length ≤ s
    · rw [slotAfter_fresh hfresh hs] at hp
      exact .inr ⟨by omega, hp⟩
    -- the last input that took slot `s`
    obtain ⟨j, hj⟩ : ∃ j, j = (past.length - 1 - s) % k := ⟨_, rfl⟩
    have hjk : j < k := hj ▸ Nat.mod_lt _ (by omega)
    have hjlen : j ≤ past.length - 1 - s := hj ▸ Nat.mod_le _ _
    have hindex : (past.length - 1 - j) % k = s := by
      have hmod : past.length - 1 - j = s + k * ((past.length - 1 - s) / k) := by
        have hdiv := Nat.mod_add_div (past.length - 1 - s) k
        omega
      rw [hmod, Nat.add_mul_mod_self_left, Nat.mod_eq_of_lt hs]
    have hj : j < past.length := by omega
    refine .inl ⟨j, hj, hjk, ?_⟩
    have hdrop : slotAfter write init k ((past.length - 1 - j) % k) past = _ :=
      slotAfter_drop hj hjk
    rw [← hdrop, hindex]
    exact hp
  · rintro (⟨j, hj, hjk, hp⟩ | ⟨hround, hp⟩)
    · refine ⟨(past.length - 1 - j) % k, Nat.mod_lt _ (by omega), ?_⟩
      rw [slotAfter_drop hj hjk]
      exact hp
    · refine ⟨past.length, hround, ?_⟩
      rw [slotAfter_fresh (le_refl _) hround]
      exact hp

end Runs

end RingSlots

namespace TimerSlots

open List
open Option

variable {n : ℕ} {α : Type}

def firstFree (timeouts : Fin n → Option ℤ) : Option (Fin n) :=
  (List.finRange n).find? (fun i => (timeouts i).isNone)

lemma firstFree_some {timeouts : Fin n → Option ℤ} {i : Fin n}
    (h : firstFree timeouts = some i) : timeouts i = none :=
  isNone_iff_eq_none.mp (find?_some (p := fun i => (timeouts i).isNone) h)

lemma firstFree_isSome {timeouts : Fin n → Option ℤ} {i : Fin n} (h : timeouts i = none) :
    ∃ j, firstFree timeouts = some j := by
  have hsome : (firstFree timeouts).isSome = true := by
    rw [firstFree, find?_isSome]
    exact ⟨i, mem_finRange i, by rw [h]; rfl⟩
  exact isSome_iff_exists.mp hsome

/-! ## Owners -/

section Owned

variable (slot : α → Fin n) (time : α → ℤ)

structure Owned (entries : List α) (timeouts : Fin n → Option ℤ) : Prop where
  slots : (entries.map slot).Nodup
  armed : ∀ e ∈ entries, timeouts (slot e) = some (time e)
  owner : ∀ i t, timeouts i = some t → ∃ e ∈ entries, slot e = i

variable {slot time} {entries : List α} {timeouts : Fin n → Option ℤ}

lemma Owned.nil : Owned slot time [] (fun _ => none) where
  slots := nodup_nil
  armed := fun _ he => absurd he not_mem_nil
  owner := fun _ t ht => absurd ht.symm (some_ne_none t)

lemma Owned.eq_of_slot (h : Owned slot time entries timeouts) {e e' : α} (he : e ∈ entries)
    (he' : e' ∈ entries) (heq : slot e = slot e') : e = e' :=
  inj_on_of_nodup_map h.slots he he' heq

lemma Owned.append (h : Owned slot time entries timeouts) {e : α}
    (hfree : timeouts (slot e) = none) :
    Owned slot time (entries ++ [e]) (Function.update timeouts (slot e) (some (time e))) where
  slots := by
    rw [map_append, map_singleton, ← concat_eq_append, nodup_concat]
    refine ⟨fun hmem => ?_, h.slots⟩
    obtain ⟨e', he', hslot⟩ := mem_map.mp hmem
    have harmed := h.armed e' he'
    rw [hslot, hfree] at harmed
    exact some_ne_none _ harmed.symm
  armed := by
    intro e' he'
    obtain he' | he' := mem_append.mp he'
    · have hne : slot e' ≠ slot e := by
        intro heq
        have harmed := h.armed e' he'
        rw [heq, hfree] at harmed
        exact some_ne_none _ harmed.symm
      rw [Function.update_of_ne hne]
      exact h.armed e' he'
    · rw [mem_singleton.mp he', Function.update_self]
  owner := by
    intro i t ht
    by_cases hi : i = slot e
    · exact ⟨e, mem_append_right _ (mem_singleton_self e), hi.symm⟩
    rw [Function.update_of_ne hi] at ht
    obtain ⟨e', he', hslot⟩ := h.owner i t ht
    exact ⟨e', mem_append_left _ he', hslot⟩

lemma Owned.erase [DecidableEq α] (h : Owned slot time entries timeouts) {e : α}
    (he : e ∈ entries) :
    Owned slot time (entries.erase e) (Function.update timeouts (slot e) none) where
  slots := h.slots.sublist (erase_sublist.map slot)
  armed := by
    intro e' he'
    obtain ⟨hne, he'⟩ := (List.Nodup.of_map slot h.slots).mem_erase_iff.mp he'
    rw [Function.update_of_ne (fun heq => hne (h.eq_of_slot he' he heq))]
    exact h.armed e' he'
  owner := by
    intro i t ht
    have hi : i ≠ slot e := by
      rintro rfl
      rw [Function.update_self] at ht
      exact some_ne_none t ht.symm
    rw [Function.update_of_ne hi] at ht
    obtain ⟨e', he', hslot⟩ := h.owner i t ht
    refine ⟨e', (List.Nodup.of_map slot h.slots).mem_erase_iff.mpr ⟨?_, he'⟩, hslot⟩
    rintro rfl
    exact hi hslot.symm

end Owned

end TimerSlots
