/-
Lists in the order of a number, equal numbers in the order they came in.
-/
import Mathlib.Data.List.Basic
import Mathlib.Data.List.Induction
import Mathlib.Data.List.Nodup
import Mathlib.Data.List.TakeWhile

namespace StableOrder

open List

variable {α β : Type*} (key : α → Nat)

def sortBy (l : List α) : List α := l.mergeSort (fun a b => key a ≤ key b)

def insertAfter (a : α) : List α → List α
  | [] => [a]
  | b :: l => if key a < key b then a :: b :: l else b :: insertAfter a l

def level (n : Nat) (l : List α) : List α := l.filter (key · == n)

variable {key}

/-! ## Orders are unique -/

lemma level_cons (n : Nat) (a : α) (l : List α) :
    level key n (a :: l) = if key a = n then a :: level key n l else level key n l := by
  simp [level, filter_cons]

lemma level_append (n : Nat) (l₁ l₂ : List α) :
    level key n (l₁ ++ l₂) = level key n l₁ ++ level key n l₂ := filter_append l₁ l₂

lemma mem_of_mem_level {n : Nat} {a : α} {l : List α} (h : a ∈ level key n l) :
    a ∈ l ∧ key a = n := by
  simpa [level] using h

lemma eq_of_levels {l₁ l₂ : List α} (h₁ : l₁.Pairwise (fun a b => key a ≤ key b))
    (h₂ : l₂.Pairwise (fun a b => key a ≤ key b))
    (h : ∀ n, level key n l₁ = level key n l₂) : l₁ = l₂ := by
  induction l₁ generalizing l₂ with
  | nil =>
    cases l₂ with
    | nil => rfl
    | cons b l₂ =>
      have hb := h (key b)
      rw [level_cons, if_pos rfl] at hb
      exact absurd hb.symm (cons_ne_nil b _)
  | cons a l₁ ih =>
    cases l₂ with
    | nil =>
      have ha := h (key a)
      rw [level_cons, if_pos rfl] at ha
      exact absurd ha (cons_ne_nil a _)
    | cons b l₂ =>
      rw [pairwise_cons] at h₁ h₂
      -- each head occurs in the other list, so neither is smaller
      have hmem : a ∈ b :: l₂ := by
        have ha : a ∈ level key (key a) (b :: l₂) := by
          rw [← h (key a), level_cons, if_pos rfl]
          exact mem_cons_self
        exact (mem_of_mem_level ha).1
      have hmem' : b ∈ a :: l₁ := by
        have hb : b ∈ level key (key b) (a :: l₁) := by
          rw [h (key b), level_cons, if_pos rfl]
          exact mem_cons_self
        exact (mem_of_mem_level hb).1
      have hle : key b ≤ key a := by
        rcases mem_cons.mp hmem with rfl | hmem
        · exact Nat.le_refl _
        · exact h₂.1 a hmem
      have hle' : key a ≤ key b := by
        rcases mem_cons.mp hmem' with rfl | hmem'
        · exact Nat.le_refl _
        · exact h₁.1 b hmem'
      have hkey : key a = key b := Nat.le_antisymm hle' hle
      have hhead := h (key b)
      rw [level_cons, level_cons, if_pos hkey, if_pos rfl, List.cons.injEq] at hhead
      rw [hhead.1]
      congr 1
      apply ih h₁.2 h₂.2
      intro n
      have hn := h n
      rw [level_cons, level_cons, hkey] at hn
      by_cases hb : key b = n
      · rw [if_pos hb, if_pos hb, List.cons.injEq] at hn
        exact hn.2
      · rwa [if_neg hb, if_neg hb] at hn

/-! ## The stable sort -/

lemma sortBy_perm (l : List α) : (sortBy key l).Perm l := mergeSort_perm l _

lemma pairwise_sortBy (l : List α) : (sortBy key l).Pairwise (fun a b => key a ≤ key b) := by
  have h := @pairwise_mergeSort α (fun a b => decide (key a ≤ key b))
    (fun a b c hab hbc => by
      rw [decide_eq_true_eq] at hab hbc ⊢
      exact Nat.le_trans hab hbc)
    (fun a b => by
      rw [Bool.or_eq_true, decide_eq_true_eq, decide_eq_true_eq]
      exact Nat.le_total (key a) (key b)) l
  exact h.imp (fun hab => of_decide_eq_true hab)

lemma level_sortBy (n : Nat) (l : List α) : level key n (sortBy key l) = level key n l := by
  have hsorted : (level key n l).Pairwise (fun a b => decide (key a ≤ key b)) := by
    rw [level, pairwise_filter]
    refine pairwise_of_forall (fun a b ha hb => ?_)
    simp only [beq_iff_eq] at ha hb
    apply decide_eq_true
    omega
  have hsub : (level key n l).Sublist (sortBy key l) :=
    sublist_mergeSort
      (fun a b c hab hbc => by
        rw [decide_eq_true_eq] at hab hbc ⊢
        exact Nat.le_trans hab hbc)
      (fun a b => by
        rw [Bool.or_eq_true, decide_eq_true_eq, decide_eq_true_eq]
        exact Nat.le_total (key a) (key b)) hsorted filter_sublist
  have hfilter : (level key n (level key n l)) = level key n l := by
    rw [level, level, filter_filter]
    congr 1
    funext a
    exact Bool.and_self _
  have hsub' : (level key n l).Sublist (level key n (sortBy key l)) := by
    rw [← hfilter]
    exact hsub.filter _
  have hlen : (level key n (sortBy key l)).length = (level key n l).length :=
    ((sortBy_perm l).filter _).length_eq
  exact (hsub'.eq_of_length hlen.symm).symm

lemma eq_sortBy {l l' : List α} (hsorted : l'.Pairwise (fun a b => key a ≤ key b))
    (h : ∀ n, level key n l' = level key n l) : l' = sortBy key l :=
  eq_of_levels hsorted (pairwise_sortBy l) (fun n => (h n).trans (level_sortBy n l).symm)

lemma filter_sortBy (p : α → Bool) (l : List α) :
    (sortBy key l).filter p = sortBy key (l.filter p) := by
  apply eq_sortBy
  · exact (pairwise_sortBy l).filter p
  · intro n
    have hcomm (l : List α) : level key n (l.filter p) = (level key n l).filter p := by
      rw [level, level, filter_filter, filter_filter]
      congr 1
      funext a
      exact Bool.and_comm _ _
    rw [hcomm, hcomm, level_sortBy]

lemma map_sortBy {key' : β → Nat} (f : α → β) (hkey : ∀ a, key' (f a) = key a) (l : List α) :
    (sortBy key l).map f = sortBy key' (l.map f) := by
  apply map_mergeSort
  intro a _ b _
  rw [hkey, hkey]

/-! ## Insertion -/

lemma mem_insertAfter {a c : α} {l : List α} :
    c ∈ insertAfter key a l ↔ c = a ∨ c ∈ l := by
  induction l with
  | nil => simp [insertAfter]
  | cons b l ih =>
    rw [insertAfter]
    split_ifs
    · exact mem_cons
    · rw [mem_cons, ih, mem_cons]
      tauto

lemma pairwise_insertAfter {a : α} {l : List α} (h : l.Pairwise (fun a b => key a ≤ key b)) :
    (insertAfter key a l).Pairwise (fun a b => key a ≤ key b) := by
  induction l with
  | nil => exact pairwise_singleton _ a
  | cons b l ih =>
    rw [insertAfter]
    have hb := pairwise_cons.mp h
    split_ifs with hlt
    · refine pairwise_cons.mpr ⟨?_, h⟩
      intro c hc
      rcases mem_cons.mp hc with rfl | hc
      · omega
      have := hb.1 c hc
      omega
    · refine pairwise_cons.mpr ⟨?_, ih hb.2⟩
      intro c hc
      rcases mem_insertAfter.mp hc with rfl | hc
      · omega
      · exact hb.1 c hc

lemma level_insertAfter {a : α} {l : List α} (h : l.Pairwise (fun a b => key a ≤ key b))
    (n : Nat) : level key n (insertAfter key a l) = level key n (l ++ [a]) := by
  induction l with
  | nil => rfl
  | cons b l ih =>
    have hb := pairwise_cons.mp h
    rw [insertAfter]
    split_ifs with hlt
    · -- everything from here on is larger than the new element
      rw [level_append, level_cons, level_cons n a []]
      by_cases ha : key a = n
      · have hnone : level key n (b :: l) = [] := by
          rw [level, filter_eq_nil_iff]
          intro c hc
          rw [beq_iff_eq]
          rcases mem_cons.mp hc with rfl | hc
          · omega
          have := hb.1 c hc
          omega
        rw [if_pos ha, if_pos ha, hnone, nil_append]
        rfl
      rw [if_neg ha, if_neg ha]
      exact (append_nil _).symm
    · rw [level_cons, ih hb.2, cons_append, level_cons]

lemma foldl_insertAfter (l : List α) {init : List α}
    (h : init.Pairwise (fun a b => key a ≤ key b)) :
    l.foldl (fun acc a => insertAfter key a acc) init = sortBy key (init ++ l) := by
  induction l generalizing init with
  | nil =>
    rw [foldl_nil, append_nil]
    exact eq_sortBy h (fun n => rfl)
  | cons a l ih =>
    have hlevels (n : Nat) : level key n (insertAfter key a init ++ l)
        = level key n (init ++ a :: l) := by
      rw [level_append, level_insertAfter h, ← level_append, append_assoc, singleton_append]
    rw [foldl_cons, ih (pairwise_insertAfter h)]
    refine eq_sortBy (pairwise_sortBy _) (fun n => ?_)
    rw [level_sortBy, hlevels]

end StableOrder

namespace InsertionOrder

open List

variable {α κ : Type*} [DecidableEq κ] (key : α → κ)

def write (a : α) : List α → List α
  | [] => [a]
  | b :: l => if key b = key a then a :: l else b :: write a l

def lookup (k : κ) (l : List α) : Option α :=
  l.find? (key · = k)

def firstOccurrences (keys : List κ) : List κ :=
  keys.foldl (fun seen k => if k ∈ seen then seen else seen ++ [k]) []

variable {key}

lemma keys_write (a : α) (l : List α) :
    (write key a l).map key = if key a ∈ l.map key then l.map key else l.map key ++ [key a] := by
  induction l with
  | nil => rfl
  | cons b l ih =>
    rw [write]
    by_cases heq : key b = key a
    · simp [heq]
    rw [if_neg heq, map_cons, map_cons, ih]
    have hmem : key a ∈ key b :: l.map key ↔ key a ∈ l.map key :=
      mem_cons.trans (or_iff_right (heq ·.symm))
    simp only [hmem]
    split_ifs
    · rfl
    · simp

lemma nodup_write {l : List α} (h : (l.map key).Nodup) (a : α) :
    ((write key a l).map key).Nodup := by
  rw [keys_write]
  split_ifs with hmem
  · exact h
  · exact List.Nodup.append h (nodup_singleton _)
      (disjoint_singleton.mpr hmem)

lemma lookup_cons_self (a : α) (l : List α) : lookup key (key a) (a :: l) = some a :=
  find?_cons_of_pos (decide_eq_true rfl)

lemma lookup_write_self (a : α) (l : List α) :
    lookup key (key a) (write key a l) = some a := by
  induction l with
  | nil => exact lookup_cons_self a []
  | cons b l ih =>
    rw [write]
    split_ifs with heq
    · exact lookup_cons_self a l
    · rw [lookup, find?_cons_of_neg (by simpa using heq)]
      exact ih

lemma lookup_write_ne {k : κ} {a : α} (h : key a ≠ k) (l : List α) :
    lookup key k (write key a l) = lookup key k l := by
  induction l with
  | nil => exact find?_cons_of_neg (by simpa using h)
  | cons b l ih =>
    rw [write]
    split_ifs with heq
    · rw [lookup, lookup, find?_cons_of_neg (by simpa using h),
        find?_cons_of_neg (by simpa [heq] using h)]
    · by_cases hb : key b = k
      · rw [lookup, lookup, find?_cons_of_pos (by simpa using hb),
          find?_cons_of_pos (by simpa using hb)]
      rw [lookup, find?_cons_of_neg (by simpa using hb), ← lookup, ih, lookup, lookup,
        find?_cons_of_neg (by simpa using hb)]

lemma keys_foldl_write (log : List α) :
    (log.foldl (fun l a => write key a l) []).map key = firstOccurrences (log.map key) := by
  induction log using List.reverseRecOn with
  | nil => rfl
  | append_singleton log a ih =>
    rw [foldl_append, foldl_cons, foldl_nil, keys_write, ih, map_append]
    unfold firstOccurrences
    rw [foldl_append]
    rfl

lemma nodup_foldl_write (log : List α) :
    ((log.foldl (fun l a => write key a l) []).map key).Nodup := by
  induction log using List.reverseRecOn with
  | nil => exact nodup_nil
  | append_singleton log a ih =>
    rw [foldl_append, foldl_cons, foldl_nil]
    exact nodup_write ih a

lemma lookup_foldl_write (k : κ) (log : List α) :
    lookup key k (log.foldl (fun l a => write key a l) []) = lookup key k log.reverse := by
  induction log using List.reverseRecOn with
  | nil => rfl
  | append_singleton log a ih =>
    rw [foldl_append, foldl_cons, foldl_nil, reverse_append, reverse_singleton, singleton_append]
    by_cases ha : key a = k
    · subst ha
      rw [lookup_write_self]
      exact (lookup_cons_self a log.reverse).symm
    · rw [lookup_write_ne ha, ih, lookup, lookup, find?_cons_of_neg (by simpa using ha)]

end InsertionOrder

namespace SortedCut

open List

variable {α : Type*} {old keep : α → Bool}

def Ages (old : α → Bool) (l : List α) : Prop :=
  l.Pairwise (fun a b => old a = true → old b = true)

lemma cut_of_ages {l : List α} (h : Ages old l) :
    l.takeWhile (!old ·) = l.filter (!old ·) ∧ l.dropWhile (!old ·) = l.filter old := by
  induction l with
  | nil => exact ⟨rfl, rfl⟩
  | cons a l ih =>
    obtain ⟨hbehind, hrest⟩ := pairwise_cons.mp h
    obtain ⟨htake, hdrop⟩ := ih hrest
    by_cases ha : old a = true
    · -- All is old from here on.
      have hall : ∀ b ∈ a :: l, old b = true :=
        forall_mem_cons.mpr ⟨ha, fun b hb => hbehind b hb ha⟩
      rw [takeWhile_cons_of_neg (by rw [ha]; exact nofun),
        dropWhile_cons_of_neg (by rw [ha]; exact nofun),
        filter_eq_self.mpr hall, eq_comm, filter_eq_nil_iff]
      exact ⟨fun b hb => by rw [hall b hb]; exact nofun, rfl⟩
    rw [Bool.not_eq_true] at ha
    rw [takeWhile_cons_of_pos (by rw [ha]; rfl), dropWhile_cons_of_pos (by rw [ha]; rfl),
      filter_cons_of_pos (by rw [ha]; rfl),
      filter_cons_of_neg (by rw [ha]; exact nofun), htake, hdrop]
    exact ⟨rfl, rfl⟩

lemma cut_iff {l : List α} (h : Ages old l) (hkeep : ∀ a ∈ l, old a = true → keep a = false) :
    (l.takeWhile keep = l.filter (!old ·) ∧ l.dropWhile keep = l.filter old)
      ↔ ∀ a ∈ l, keep a = false → old a = true := by
  constructor
  · rintro ⟨-, hdrop⟩ a ha hnot
    rw [← takeWhile_append_dropWhile (p := keep) (l := l)] at ha
    rcases mem_append.mp ha with htaken | hdropped
    · exact absurd (mem_takeWhile_imp htaken) (by rw [hnot]; exact nofun)
    rw [hdrop] at hdropped
    exact (mem_filter.mp hdropped).2
  · intro hall
    have hsame : ∀ a ∈ l, keep a = !old a := by
      intro a ha
      cases hold : old a with
      | true => exact hkeep a ha hold
      | false =>
        cases hkept : keep a with
        | true => rfl
        | false => exact nomatch hold.symm.trans (hall a ha hkept)
    have hcut : l.takeWhile keep = l.takeWhile (!old ·)
        ∧ l.dropWhile keep = l.dropWhile (!old ·) := by
      clear h hkeep hall
      induction l with
      | nil => exact ⟨rfl, rfl⟩
      | cons a l ih =>
        obtain ⟨ha, hrest⟩ := forall_mem_cons.mp hsame
        obtain ⟨htake, hdrop⟩ := ih hrest
        rw [takeWhile_cons, takeWhile_cons, dropWhile_cons, dropWhile_cons, ha, htake, hdrop]
        exact ⟨rfl, rfl⟩
    rw [hcut.1, hcut.2]
    exact cut_of_ages h

end SortedCut
