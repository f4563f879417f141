/-
Joining segments with separators, and reading them back.
-/
import Mathlib.Data.List.TakeWhile

namespace Segments

open List

variable {β : Type*}

/-- Every segment with `sep` before it. -/
def prefixed (sep : β) (segs : List (List β)) : List β :=
  segs.flatMap (sep :: ·)

/-- What a join followed by something may not start with, to be told from a longer segment: an
element that may stand in a segment. -/
def StopsAt (inner : β → Prop) (rest : List β) : Prop :=
  ∀ b ∈ rest.head?, ¬inner b

lemma prefixed_cons (sep : β) (seg : List β) (segs : List (List β)) :
    prefixed sep (seg :: segs) = sep :: (seg ++ prefixed sep segs) := rfl

variable {inner : β → Prop}

lemma append_stops_inj {p₁ p₂ r₁ r₂ : List β} (hp₁ : ∀ b ∈ p₁, inner b)
    (hp₂ : ∀ b ∈ p₂, inner b) (hr₁ : StopsAt inner r₁) (hr₂ : StopsAt inner r₂)
    (h : p₁ ++ r₁ = p₂ ++ r₂) : p₁ = p₂ ∧ r₁ = r₂ := by
  induction p₁ generalizing p₂ with
  | nil =>
    cases p₂ with
    | nil => exact ⟨rfl, h⟩
    | cons b p₂ =>
      rw [nil_append, cons_append] at h
      exact absurd (hp₂ b mem_cons_self) (hr₁ b (by rw [h]; rfl))
  | cons a p₁ ih =>
    cases p₂ with
    | nil =>
      rw [nil_append, cons_append] at h
      exact absurd (hp₁ a mem_cons_self) (hr₂ a (by rw [← h]; rfl))
    | cons b p₂ =>
      rw [cons_append, cons_append, List.cons.injEq] at h
      obtain ⟨hp, hr⟩ := ih (fun x hx => hp₁ x (mem_cons_of_mem a hx))
        (fun x hx => hp₂ x (mem_cons_of_mem b hx)) h.2
      exact ⟨by rw [h.1, hp], hr⟩

lemma stopsAt_prefixed {sep : β} {segs : List (List β)} {rest : List β} (hsep : ¬inner sep)
    (hrest : StopsAt inner rest) : StopsAt inner (prefixed sep segs ++ rest) := by
  cases segs with
  | nil => exact hrest
  | cons seg segs =>
    intro b hb
    rw [prefixed_cons, cons_append, head?_cons, Option.mem_def, Option.some.injEq] at hb
    rwa [← hb]

lemma prefixed_append_inj {sep : β} {segs₁ segs₂ : List (List β)} {r₁ r₂ : List β}
    (hsep : ¬inner sep) (hsegs₁ : ∀ seg ∈ segs₁, ∀ b ∈ seg, inner b)
    (hsegs₂ : ∀ seg ∈ segs₂, ∀ b ∈ seg, inner b) (hr₁ : StopsAt inner r₁)
    (hr₂ : StopsAt inner r₂) (hne₁ : sep ∉ r₁.head?) (hne₂ : sep ∉ r₂.head?)
    (h : prefixed sep segs₁ ++ r₁ = prefixed sep segs₂ ++ r₂) : segs₁ = segs₂ ∧ r₁ = r₂ := by
  induction segs₁ generalizing segs₂ with
  | nil =>
    cases segs₂ with
    | nil => exact ⟨rfl, h⟩
    | cons seg segs₂ =>
      refine absurd ?_ hne₁
      have h' : r₁ = prefixed sep (seg :: segs₂) ++ r₂ := h
      rw [h', prefixed_cons]
      rfl
  | cons seg₁ segs₁ ih =>
    cases segs₂ with
    | nil =>
      refine absurd ?_ hne₂
      have h' : prefixed sep (seg₁ :: segs₁) ++ r₁ = r₂ := h
      rw [← h', prefixed_cons]
      rfl
    | cons seg₂ segs₂ =>
      rw [prefixed_cons, prefixed_cons, cons_append, cons_append, List.cons.injEq,
        append_assoc, append_assoc] at h
      obtain ⟨hseg, hrest⟩ := append_stops_inj (hsegs₁ seg₁ mem_cons_self)
        (hsegs₂ seg₂ mem_cons_self) (stopsAt_prefixed hsep hr₁)
        (stopsAt_prefixed hsep hr₂) h.2
      obtain ⟨hsegs, hr⟩ := ih (fun s hs => hsegs₁ s (mem_cons_of_mem seg₁ hs))
        (fun s hs => hsegs₂ s (mem_cons_of_mem seg₂ hs)) hrest
      exact ⟨by rw [hseg, hsegs], hr⟩

/-! ## Splitting -/

lemma join_splitOnP (p : β → Bool) (sep : β) (text : List β) :
    ∃ head tail, text.splitOnP p = head :: tail
      ∧ head ++ prefixed sep tail = text.map (fun c => if p c then sep else c) := by
  induction text with
  | nil => exact ⟨[], [], splitOnP_nil, rfl⟩
  | cons c text ih =>
    obtain ⟨head, tail, hsplit, hjoin⟩ := ih
    rw [splitOnP_cons_eq_if_modifyHead, hsplit, map_cons, ← hjoin]
    by_cases hc : p c = true
    · refine ⟨[], head :: tail, by rw [if_pos hc], ?_⟩
      rw [if_pos hc, prefixed_cons, nil_append]
    refine ⟨c :: head, tail, by rw [if_neg hc]; rfl, ?_⟩
    simp [hc]

lemma mem_of_mem_splitOnP {p : β → Bool} {text part : List β} (hpart : part ∈ text.splitOnP p)
    {c : β} (hc : c ∈ part) : c ∈ text := by
  induction text generalizing part with
  | nil =>
    rw [splitOnP_nil, mem_singleton] at hpart
    rwa [hpart] at hc
  | cons d text ih =>
    rw [splitOnP_cons_eq_if_modifyHead] at hpart
    split_ifs at hpart with hd
    · rcases mem_cons.mp hpart with rfl | hpart
      · simp at hc
      · exact mem_cons_of_mem d (ih hpart hc)
    · obtain ⟨head, tail, hsplit, -⟩ := join_splitOnP p d text
      rw [hsplit, modifyHead_cons] at hpart
      rw [hsplit] at ih
      rcases mem_cons.mp hpart with rfl | hpart
      · rcases mem_cons.mp hc with rfl | hc
        · simp
        · exact mem_cons_of_mem d (ih mem_cons_self hc)
      · exact mem_cons_of_mem d (ih (mem_cons_of_mem head hpart) hc)

lemma mem_splitOnP {p : β → Bool} {text : List β} {c : β} (hc : c ∈ text) :
    p c = true ∨ ∃ part ∈ text.splitOnP p, c ∈ part := by
  induction text with
  | nil => simp at hc
  | cons d text ih =>
    obtain ⟨head, tail, hsplit, -⟩ := join_splitOnP p d text
    rw [splitOnP_cons_eq_if_modifyHead]
    split_ifs with hd
    · rcases mem_cons.mp hc with rfl | hc
      · exact Or.inl hd
      exact (ih hc).imp_right (fun ⟨part, hpart, hmem⟩ =>
        ⟨part, mem_cons_of_mem [] hpart, hmem⟩)
    · rw [hsplit] at ih ⊢
      rw [modifyHead_cons]
      rcases mem_cons.mp hc with rfl | hc
      · exact Or.inr ⟨c :: head, mem_cons_self, mem_cons_self⟩
      refine (ih hc).imp_right (fun ⟨part, hpart, hmem⟩ => ?_)
      rcases mem_cons.mp hpart with rfl | hpart
      · exact ⟨d :: part, mem_cons_self, mem_cons_of_mem d hmem⟩
      · exact ⟨part, mem_cons_of_mem _ hpart, hmem⟩

section Coarser

variable {p p' : β → Bool} (hle : ∀ c, p c = true → p' c = true)

include hle

lemma head_splitOnP_eq_nil {text : List β} (h : (text.splitOnP p).head? = some []) :
    (text.splitOnP p').head? = some [] := by
  cases text with
  | nil => simp
  | cons c text =>
    rw [splitOnP_cons_eq_if_modifyHead] at h ⊢
    by_cases hc : p c = true
    · simp [hle, hc]
    obtain ⟨head, tail, hsplit, -⟩ := join_splitOnP p c text
    rw [if_neg hc, hsplit, modifyHead_cons, head?_cons, Option.some.injEq] at h
    simp at h

lemma tail_splitOnP_ne_nil {text : List β} (h : ∀ part ∈ (text.splitOnP p').tail, part ≠ []) :
    ∀ part ∈ (text.splitOnP p).tail, part ≠ [] := by
  induction text with
  | nil =>
    intro part hpart
    rw [splitOnP_nil, tail_cons] at hpart
    simp at hpart
  | cons c text ih =>
    have htail (q : β → Bool) (hq : ¬q c = true) :
        ((c :: text).splitOnP q).tail = (text.splitOnP q).tail := by
      obtain ⟨head, tail, hsplit, -⟩ := join_splitOnP q c text
      rw [splitOnP_cons_eq_if_modifyHead, if_neg hq, hsplit]
      rfl
    have hwhole (q : β → Bool) (hq : q c = true) :
        ((c :: text).splitOnP q).tail = text.splitOnP q := by
      rw [splitOnP_cons_eq_if_modifyHead, if_pos hq, tail_cons]
    by_cases hc : p c = true
    · rw [hwhole p' (hle c hc)] at h
      rw [hwhole p hc]
      intro part hpart hnil
      obtain ⟨head, tail, hsplit, -⟩ := join_splitOnP p c text
      rw [hsplit] at hpart
      rcases mem_cons.mp hpart with heq | hpart
      · -- an empty first part would be one for all separators
        have hhead := head_splitOnP_eq_nil hle (by
          rw [hsplit, head?_cons, ← heq, hnil])
        exact h [] (mem_of_mem_head? hhead) rfl
      refine ih (fun part hpart => h part (mem_of_mem_tail hpart)) part ?_ hnil
      rw [hsplit]
      exact hpart
    rw [htail p hc]
    apply ih
    intro part hpart
    by_cases hc' : p' c = true
    · rw [hwhole p' hc'] at h
      exact h part (mem_of_mem_tail hpart)
    rw [htail p' hc'] at h
    exact h part hpart

lemma splitOnP_ne_nil_of_le {text : List β} (h : ∀ part ∈ text.splitOnP p', part ≠ []) :
    ∀ part ∈ text.splitOnP p, part ≠ [] := by
  intro part hpart hnil
  cases hsplit : text.splitOnP p with
  | nil => simp at hsplit
  | cons head tail =>
    rw [hsplit] at hpart
    rcases mem_cons.mp hpart with heq | hpart
    · have hhead := head_splitOnP_eq_nil hle (by
        rw [hsplit, head?_cons, ← heq, hnil])
      exact h [] (mem_of_mem_head? hhead) rfl
    refine tail_splitOnP_ne_nil hle (fun part hpart => h part (mem_of_mem_tail hpart)) part ?_ hnil
    rw [hsplit]
    exact hpart

end Coarser

end Segments
