/-
Searching a text for a pattern.
-/
import Mathlib.Data.List.Infix
import Mathlib.Algebra.Order.Ring.Nat
import Mathlib.Data.List.Basic
import Mathlib.Data.List.TakeWhile

namespace TextSearch

open List

variable {α : Type*} {pat text s : List α}

lemma infix_filter {p : α → Bool} (hpat : ∀ a ∈ pat, p a = true) (h : pat <:+: text) :
    pat <:+: text.filter p := by
  rw [← filter_eq_self.mpr hpat]
  exact h.filter p

lemma infix_append_cons {a : α} (ha : a ∉ pat) {x y : List α} (h : pat <:+: x ++ a :: y) :
    pat <:+: x ∨ pat <:+: y := by
  induction x with
  | nil =>
    rcases infix_cons_iff.mp h with hfront | hin
    · cases pat with
      | nil => exact .inl List.nil_infix
      | cons b pat =>
        rw [(cons_prefix_cons.mp hfront).1] at ha
        exact absurd mem_cons_self ha
    · exact .inr hin
  | cons b x ih =>
    rcases infix_cons_iff.mp h with hfront | hin
    · refine .inl (List.IsPrefix.isInfix ?_)
      have hfront : pat <+: (b :: x) ++ a :: y := hfront
      rcases List.prefix_or_prefix_of_prefix hfront (List.prefix_append (b :: x) (a :: y))
        with hin | ⟨rest, rfl⟩
      · exact hin
      cases rest with
      | nil => rw [append_nil]
      | cons c rest =>
        rw [(cons_prefix_cons.mp ((prefix_append_right_inj _).mp hfront)).1] at ha
        exact absurd (mem_append_right _ mem_cons_self) ha
    · exact (ih hin).imp_left infix_cons

lemma splitOnP_filter {sep p : α → Bool} (hkept : ∀ a, sep a = true → p a = true)
    (text : List α) : (text.filter p).splitOnP sep = (text.splitOnP sep).map (List.filter p) := by
  induction text with
  | nil => simp
  | cons a text ih =>
    rw [filter_cons, splitOnP_cons_eq_if_modifyHead]
    by_cases hsep : sep a = true
    · rw [if_pos (hkept a hsep), splitOnP_cons_eq_if_modifyHead, if_pos hsep, if_pos hsep,
        ih, map_cons, filter_nil]
    rw [if_neg hsep]
    obtain ⟨head, rest, hsplit⟩ :=
      exists_cons_of_ne_nil (splitOnP_ne_nil sep text)
    rw [hsplit] at ih ⊢
    by_cases hp : p a = true
    · rw [if_pos hp, splitOnP_cons_eq_if_modifyHead, if_neg hsep, ih]
      simp [hp]
    rw [if_neg hp, ih]
    simp [hp]

/-! ## The first occurrence -/

variable [DecidableEq α]

def strstr (pat : List α) : List α → Option (List α)
  | [] => if pat = [] then some [] else none
  | a :: text => if pat <+: a :: text then some (a :: text) else strstr pat text

lemma strstr_of_front (h : pat <+: text) : strstr pat text = some text := by
  cases text with
  | nil => rw [strstr, if_pos (prefix_nil.mp h)]
  | cons a text => rw [strstr, if_pos h]

lemma strstr_eq_some (h : strstr pat text = some s) : s <:+ text ∧ pat <+: s := by
  induction text with
  | nil =>
    rw [strstr] at h
    split_ifs at h with hpat
    cases h
    exact ⟨suffix_refl _, by rw [hpat]⟩
  | cons a text ih =>
    rw [strstr] at h
    split_ifs at h with hpat
    · cases h
      exact ⟨suffix_refl _, hpat⟩
    · exact ⟨(ih h).1.trans (suffix_cons a text), (ih h).2⟩

lemma strstr_eq_none_iff : strstr pat text = none ↔ ¬ pat <:+: text := by
  induction text with
  | nil =>
    rw [strstr, infix_nil]
    split_ifs with hpat
    · simp [hpat]
    · simp [hpat]
  | cons a text ih =>
    rw [strstr, infix_cons_iff, not_or]
    split_ifs with hpat
    · simp [hpat]
    · rw [ih]
      exact ⟨fun h => ⟨hpat, h⟩, And.right⟩

lemma exists_strstr (h : pat <:+: text) : ∃ s, strstr pat text = some s :=
  Option.ne_none_iff_exists'.mp (strstr_eq_none_iff.mp · h)

lemma suffix_of_strstr (h : strstr pat text = some s) {s' : List α} (hsuffix : s' <:+ text)
    (hfront : pat <+: s') : s' <:+ s := by
  induction text with
  | nil =>
    rw [suffix_nil.mp hsuffix]
    exact nil_suffix
  | cons a text ih =>
    rw [strstr] at h
    split_ifs at h with hpat
    · cases h
      exact hsuffix
    · obtain rfl | hsuffix := suffix_cons_iff.mp hsuffix
      · exact absurd hfront hpat
      · exact ih h hsuffix

lemma strstr_append_iff (hpat : pat ≠ []) (x y : List α) :
    strstr pat (x ++ (pat ++ y)) = some (pat ++ y) ↔ ¬ pat <:+: (x ++ pat).dropLast := by
  have hpos := length_pos_of_ne_nil hpat
  induction x with
  | nil =>
    refine iff_of_true (strstr_of_front (List.prefix_append pat y)) (fun h => ?_)
    have hlength := h.length_le
    rw [nil_append, length_dropLast] at hlength
    omega
  | cons a x ih =>
    have hne : x ++ pat ≠ [] := append_ne_nil_of_right_ne_nil x hpat
    -- a prefix as long as the pattern does not reach what is behind
    have hlocal : pat <+: a :: (x ++ (pat ++ y)) ↔ pat <+: a :: (x ++ pat).dropLast := by
      have hwhole : a :: (x ++ (pat ++ y))
          = a :: (x ++ pat).dropLast ++ ([(x ++ pat).getLast hne] ++ y) := by
        rw [cons_append, ← append_assoc, ← append_assoc, dropLast_append_getLast]
      rw [hwhole]
      constructor
      · intro h
        refine prefix_of_prefix_length_le h (List.prefix_append _ _) ?_
        simp only [length_cons, length_dropLast, length_append]
        omega
      · exact fun h => h.trans (List.prefix_append _ _)
    rw [cons_append, cons_append, strstr, dropLast_cons_of_ne_nil hne,
      infix_cons_iff, not_or, ← hlocal]
    split_ifs with h
    · refine iff_of_false (fun heq => ?_) (·.1 h)
      have hlength := congrArg List.length (Option.some.inj heq)
      simp only [length_cons, length_append] at hlength
      omega
    · exact ⟨fun heq => ⟨h, ih.mp heq⟩, fun hnot => ih.mpr hnot.2⟩

/-- What stands in front of the last `a`, and what behind it. -/
def strrchr (a : α) : List α → Option (List α × List α)
  | [] => none
  | b :: text =>
    match strrchr a text with
    | some (x, y) => some (b :: x, y)
    | none => if b = a then some ([], text) else none

lemma strrchr_eq_none_iff {a : α} : strrchr a text = none ↔ a ∉ text := by
  induction text with
  | nil => simp [strrchr]
  | cons b text ih =>
    rw [strrchr, mem_cons, not_or, ← ih]
    cases strrchr a text with
    | some split => simp
    | none => simp [eq_comm]

lemma strrchr_append {a : α} {y : List α} (h : a ∉ y) (x : List α) :
    strrchr a (x ++ a :: y) = some (x, y) := by
  induction x with
  | nil => simp [strrchr, strrchr_eq_none_iff.mpr h]
  | cons b x ih => rw [cons_append, strrchr, ih]

lemma strrchr_eq_some {a : α} {x y : List α} (h : strrchr a text = some (x, y)) :
    text = x ++ a :: y := by
  induction text generalizing x with
  | nil => cases h
  | cons b text ih =>
    rw [strrchr] at h
    cases hrest : strrchr a text with
    | some split =>
      rw [hrest] at h
      cases h
      rw [ih hrest, cons_append]
    | none =>
      rw [hrest] at h
      dsimp only at h
      split_ifs at h with hhead
      cases h
      rw [hhead, nil_append]

end TextSearch

namespace LikePattern

def fold (c : UInt8) : UInt8 := if 0x41 ≤ c ∧ c ≤ 0x5A then c + 0x20 else c

def afterCharacter (c : UInt8) (text : List UInt8) : List UInt8 :=
  if 0xC0 ≤ c then text.dropWhile (fun d => 0x80 ≤ d ∧ d ≤ 0xBF) else text

def like : List UInt8 → List UInt8 → Bool
  | [], text => text.isEmpty
  | c :: pattern, text =>
    if c = 0x25 then text.tails.any (like pattern)
    else
      match text with
      | [] => false
      | d :: text =>
        if c = 0x5F then like pattern (afterCharacter d text)
        else fold c = fold d && like pattern text

structure Plain (c : UInt8) : Prop where
  any : c ≠ 0x25
  one : c ≠ 0x5F
  upper : ¬ (0x41 ≤ c ∧ c ≤ 0x5A)
  lower : ¬ (0x61 ≤ c ∧ c ≤ 0x7A)

end LikePattern

namespace PrefixCompare

open List

variable {α : Type*}

def Apart (a b : List α) : Prop := a = b ∨ ¬ a <+: b ∧ ¬ b <+: a

lemma Apart.symm {a b : List α} (h : Apart a b) : Apart b a :=
  h.imp Eq.symm And.symm

variable [Ord α]

def prefixCompare (key memory : List α) : Ordering := compare key (memory.take key.length)

lemma prefixCompare_cons_cons (a b : α) (key memory : List α) :
    prefixCompare (a :: key) (b :: memory) = (compare a b).then (prefixCompare key memory) := by
  rw [prefixCompare, length_cons, take_succ_cons, List.compare_cons_cons]
  rfl

variable [Std.LawfulEqOrd α]

lemma prefixCompare_eq_iff {key memory : List α} :
    prefixCompare key memory = .eq ↔ key <+: memory := by
  rw [prefixCompare, Std.LawfulEqOrd.compare_eq_iff_eq, prefix_iff_eq_take]

lemma prefixCompare_append {a b : List α} (h : Apart a b) (behind : List α) :
    prefixCompare a (b ++ behind) = compare a b := by
  obtain rfl | ⟨hab, hba⟩ := h
  · rw [prefixCompare, take_left]
  induction a generalizing b with
  | nil => exact absurd List.nil_prefix hab
  | cons x a ih =>
    cases b with
    | nil => exact absurd List.nil_prefix hba
    | cons y b =>
      rw [cons_append, prefixCompare_cons_cons, List.compare_cons_cons]
      cases hxy : compare x y with
      | lt | gt => rfl
      | eq =>
        obtain rfl := Std.LawfulEqOrd.compare_eq_iff_eq.mp hxy
        rw [cons_prefix_cons] at hab hba
        exact ih (hab ⟨rfl, ·⟩) (hba ⟨rfl, ·⟩)

end PrefixCompare
