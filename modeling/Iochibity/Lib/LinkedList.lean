/-
Doubly linked lists as they lie in memory.
-/
import Mathlib.Data.List.Nodup
import Mathlib.Algebra.Order.Ring.Nat

namespace LinkedList

open List

variable {ν : Type*}

/-- The links make up `x` and the nodes behind it. -/
def Linked (next prev : ν → Option ν) : ν → List ν → Prop
  | x, [] => next x = none
  | x, y :: l => next x = some y ∧ prev y = some x ∧ Linked next prev y l

variable {next prev next' prev' : ν → Option ν}

variable {x : ν} {l : List ν}

lemma Linked.congr (h : Linked next prev x l) (hnext : ∀ y ∈ x :: l, next' y = next y)
    (hprev : ∀ y ∈ l, prev' y = prev y) :
    Linked next' prev' x l := by
  induction l generalizing x with
  | nil => exact (hnext x mem_cons_self).trans h
  | cons y l ih =>
    obtain ⟨hxy, hyx, hrest⟩ := h
    refine ⟨(hnext x mem_cons_self).trans hxy, (hprev y mem_cons_self).trans hyx, ?_⟩
    exact ih hrest (fun z hz => hnext z (mem_cons_of_mem x hz))
      (fun z hz => hprev z (mem_cons_of_mem y hz))

lemma Linked.next_eq (h : Linked next prev x l) : next x = l.head? := by
  cases l with
  | nil => exact h
  | cons y l => exact h.1

lemma Linked.prev_mem {y : ν} (h : Linked next prev x l) (hy : y ∈ l) :
    ∃ p ∈ x :: l, prev y = some p ∧ next p = some y := by
  induction l generalizing x with
  | nil => simp at hy
  | cons z l ih =>
    obtain ⟨hxz, hzx, hrest⟩ := h
    obtain rfl | hy := mem_cons.mp hy
    · exact ⟨x, mem_cons_self, hzx, hxz⟩
    obtain ⟨p, hp, hup⟩ := ih hrest hy
    exact ⟨p, mem_cons_of_mem x hp, hup⟩

variable {l₁ l₂ : List ν}

lemma Linked.behind {r : ν} (h : Linked next prev x (l₁ ++ r :: l₂)) :
    Linked next prev r l₂ := by
  induction l₁ generalizing x with
  | nil => exact h.2.2
  | cons y l ih => exact ih h.2.2

lemma Linked.insert {e : ν} (h : Linked next prev x l) (hnodup : (x :: l).Nodup)
    (hnew : e ∉ x :: l) (hx : next' x = some e) (he : next' e = next x) (hex : prev' e = some x)
    (hfirst : ∀ n, next x = some n → prev' n = some e) (hnext : ∀ y ∈ l, next' y = next y)
    (hprev : ∀ y ∈ l, next x ≠ some y → prev' y = prev y) :
    Linked next' prev' x (e :: l) := by
  refine ⟨hx, hex, ?_⟩
  cases l with
  | nil => exact he.trans h
  | cons y l =>
    obtain ⟨hxy, -, hrest⟩ := h
    have hyl : y ∉ l := (nodup_cons.mp (nodup_cons.mp hnodup).2).1
    refine ⟨he.trans hxy, hfirst y hxy, hrest.congr hnext (fun z hz => ?_)⟩
    refine hprev z (mem_cons_of_mem y hz) (fun heq => hyl ?_)
    rw [hxy] at heq
    exact Option.some.inj heq ▸ hz

lemma Linked.remove {r p : ν} (h : Linked next prev x (l₁ ++ r :: l₂))
    (hnodup : (x :: (l₁ ++ r :: l₂)).Nodup) (hp : prev r = some p) (hpnext : next' p = next r)
    (hfirst : ∀ n, next r = some n → prev' n = some p)
    (hnext : ∀ y ∈ x :: (l₁ ++ l₂), y ≠ p → next' y = next y)
    (hprev : ∀ y ∈ l₁ ++ l₂, next r ≠ some y → prev' y = prev y) :
    Linked next' prev' x (l₁ ++ l₂) := by
  induction l₁ generalizing x with
  | nil =>
    obtain ⟨hxr, hrx, hrest⟩ := h
    obtain rfl := Option.some.inj (hrx.symm.trans hp)
    rw [nil_append] at hnodup hnext hprev ⊢
    have hxl : x ∉ l₂ := fun hmem =>
      (nodup_cons.mp hnodup).1 (mem_cons_of_mem r hmem)
    cases l₂ with
    | nil => exact hpnext.trans hrest
    | cons y l =>
      obtain ⟨hry, -, hrest⟩ := hrest
      have hyl : y ∉ l :=
        (nodup_cons.mp (nodup_cons.mp (nodup_cons.mp hnodup).2).2).1
      refine ⟨hpnext.trans hry, hfirst y hry, hrest.congr (fun z hz => ?_) (fun z hz => ?_)⟩
      · exact hnext z (mem_cons_of_mem x hz) (fun heq => hxl (heq ▸ hz))
      · refine hprev z (mem_cons_of_mem y hz) (fun heq => hyl ?_)
        rw [hry] at heq
        exact Option.some.inj heq ▸ hz
  | cons y l ih =>
    obtain ⟨hxy, hyx, hrest⟩ := h
    rw [cons_append, nodup_cons] at hnodup
    obtain ⟨q, hq, hrq, -⟩ := hrest.prev_mem (mem_append_right l mem_cons_self)
    obtain rfl := Option.some.inj (hrq.symm.trans hp)
    have hxq : x ≠ q := fun heq => hnodup.1 (heq ▸ hq)
    have hry : next r ≠ some y := by
      -- the node behind `r` stands behind `y` too
      intro heq
      obtain ⟨hyl, hnodup⟩ := nodup_cons.mp hnodup.2
      have hbehind := hrest.behind.next_eq
      rw [heq] at hbehind
      have hmem : y ∈ l₂ := mem_of_mem_head? hbehind.symm
      exact hyl (mem_append_right l (mem_cons_of_mem r hmem))
    rw [cons_append] at hnext hprev ⊢
    refine ⟨?_, ?_, ?_⟩
    · exact (hnext x mem_cons_self hxq).trans hxy
    · exact (hprev y mem_cons_self hry).trans hyx
    · exact ih hrest hnodup.2 (fun z hz => hnext z (mem_cons_of_mem x hz))
        (fun z hz => hprev z (mem_cons_of_mem y hz))

end LinkedList

namespace SingleLinks

variable {ν : Type*}

/-- The links from `head` on make up the list. -/
def Spine (next : ν → Option ν) : Option ν → List ν → Prop
  | head, [] => head = none
  | head, x :: l => head = some x ∧ Spine next (next x) l

variable {next next' : ν → Option ν}

variable {head : Option ν} {l : List ν}

lemma Spine.congr (h : Spine next head l)
    (hnext : ∀ x ∈ l, next' x = next x) : Spine next' head l := by
  induction l generalizing head with
  | nil => exact h
  | cons x l ih =>
    obtain ⟨hhead, hrest⟩ := h
    refine ⟨hhead, ?_⟩
    rw [hnext x List.mem_cons_self]
    exact ih hrest (fun y hy => hnext y (List.mem_cons_of_mem x hy))

lemma Spine.unique {l' : List ν} (h : Spine next head l) (h' : Spine next head l') : l = l' := by
  induction l generalizing head l' with
  | nil =>
    cases l' with
    | nil => rfl
    | cons y l' => exact absurd (h.symm.trans h'.1) nofun
  | cons x l ih =>
    cases l' with
    | nil => exact absurd (h'.symm.trans h.1) nofun
    | cons y l' =>
      obtain rfl := Option.some.inj (h.1.symm.trans h'.1)
      rw [ih h.2 h'.2]

lemma Spine.next_eq {head' : Option ν} (h : Spine next head l)
    (h' : Spine next' head' l) : ∀ x ∈ l, next x = next' x := by
  induction l generalizing head head' with
  | nil => nofun
  | cons x l ih =>
    intro y hy
    rcases List.mem_cons.mp hy with rfl | hrest
    · cases l with
      | nil => exact h.2.trans h'.2.symm
      | cons z l => exact h.2.1.trans h'.2.1.symm
    · exact ih h.2 h'.2 y hrest

lemma Spine.head_eq (h : Spine next head l) :
    head = l.head? := by
  cases l with
  | nil => exact h
  | cons x l => exact h.1

variable {x : ν}

lemma Spine.behind {l₁ l₂ : List ν}
    (h : Spine next head (l₁ ++ x :: l₂)) : Spine next (next x) l₂ := by
  induction l₁ generalizing head with
  | nil => exact h.2
  | cons y l₁ ih => exact ih h.2

lemma Spine.append {last : ν} (h : Spine next head (l ++ [last])) (hlink : next' last = some x)
    (hend : next' x = none)
    (hnext : ∀ y ∈ l, next' y = next y) : Spine next' head (l ++ [last] ++ [x]) := by
  induction l generalizing head with
  | nil => exact ⟨h.1, hlink, hend⟩
  | cons y l ih =>
    obtain ⟨hhead, hrest⟩ := h
    refine ⟨hhead, ?_⟩
    rw [hnext y List.mem_cons_self]
    exact ih hrest (fun z hz => hnext z (List.mem_cons_of_mem y hz))

lemma Spine.remove {l₁ l₂ : List ν} {p : ν} (h : Spine next head (l₁ ++ p :: x :: l₂))
    (hskip : next' p = next x)
    (hnext : ∀ y ∈ l₁ ++ l₂, next' y = next y) : Spine next' head (l₁ ++ p :: l₂) := by
  induction l₁ generalizing head with
  | nil =>
    obtain ⟨hhead, -, hrest⟩ := h
    refine ⟨hhead, ?_⟩
    rw [hskip]
    exact hrest.congr hnext
  | cons y l₁ ih =>
    obtain ⟨hhead, hrest⟩ := h
    refine ⟨hhead, ?_⟩
    rw [hnext y List.mem_cons_self]
    exact ih hrest (fun z hz => hnext z (List.mem_cons_of_mem y hz))

def walk (next : ν → Option ν) : ℕ → Option ν → List ν
  | 0, _ => []
  | _ + 1, none => []
  | fuel + 1, some x => x :: walk next fuel (next x)

lemma Spine.walk_eq {fuel : ℕ} (h : Spine next head l)
    (hfuel : l.length ≤ fuel) : walk next fuel head = l := by
  induction l generalizing head fuel with
  | nil =>
    rw [show head = none from h]
    cases fuel <;> rfl
  | cons x l ih =>
    cases fuel with
    | zero => simp at hfuel
    | succ fuel =>
      rw [h.1, walk, ih h.2 (Nat.le_of_succ_le_succ hfuel)]

end SingleLinks

namespace Links

open List

variable {α : Type*} [DecidableEq α]

/-- The node after `a`. -/
def next (a : α) : List α → Option α
  | [] => none
  | b :: rest => if b = a then rest.head? else next a rest

/-- The number of nodes from `a` on. -/
def remaining (a : α) : List α → Nat
  | [] => 0
  | b :: rest => if b = a then rest.length + 1 else remaining a rest

lemma remaining_le_length (a : α) (l : List α) : remaining a l ≤ l.length := by
  induction l with
  | nil => exact Nat.le_refl 0
  | cons b rest ih =>
    rw [remaining, length_cons]
    split <;> omega

variable {a : α} {l : List α}

lemma remaining_pos (h : a ∈ l) : 0 < remaining a l := by
  induction l with
  | nil => simp at h
  | cons b rest ih =>
    rw [remaining]
    split
    · omega
    rename_i hne
    exact ih ((mem_cons.mp h).resolve_left (hne ·.symm))

lemma next_eq_none (h : a ∉ l) : next a l = none := by
  induction l with
  | nil => rfl
  | cons b rest ih =>
    rw [mem_cons, not_or] at h
    rw [next, if_neg (h.1 ·.symm)]
    exact ih h.2

lemma next_append {pre post : List α} (h : a ∉ pre) :
    next a (pre ++ a :: post) = post.head? := by
  induction pre with
  | nil => rw [nil_append, next, if_pos rfl]
  | cons b pre ih =>
    rw [mem_cons, not_or] at h
    rw [cons_append, next, if_neg (h.1 ·.symm)]
    exact ih h.2

lemma next_mem {b : α} (h : next a l = some b) : b ∈ l := by
  induction l with
  | nil => exact absurd h (by simp [next])
  | cons c rest ih =>
    rw [next] at h
    split at h
    · exact mem_cons_of_mem _ (mem_of_mem_head? h)
    · exact mem_cons_of_mem _ (ih h)

lemma remaining_next {b : α} (hl : l.Nodup) (h : next a l = some b) :
    remaining b l + 1 = remaining a l := by
  induction l with
  | nil => exact absurd h (by simp [next])
  | cons c rest ih =>
    rw [nodup_cons] at hl
    rw [next] at h
    have hb : b ∈ rest := by
      split at h
      · exact mem_of_mem_head? h
      · exact next_mem h
    have hcb : c ≠ b := fun heq => hl.1 (heq ▸ hb)
    rw [remaining, if_neg hcb, remaining]
    split at h
    · rename_i hca
      rw [if_pos hca]
      cases rest with
      | nil => exact absurd hb not_mem_nil
      | cons d rest =>
        rw [head?_cons, Option.some.injEq] at h
        rw [remaining, if_pos h, length_cons]
    rename_i hca
    rw [if_neg hca]
    exact ih hl.2 h

lemma remaining_sublist {l' : List α} (hsub : l'.Sublist l) (hl : l.Nodup)
    (ha : a ∈ l') : remaining a l' ≤ remaining a l := by
  induction hsub with
  | slnil => exact Nat.le_refl _
  | @cons l' l b hsub ih =>
    rw [nodup_cons] at hl
    have hne : b ≠ a := fun heq => hl.1 (heq ▸ hsub.subset ha)
    rw [remaining, if_neg hne]
    exact ih hl.2 ha
  | @cons_cons l' l b hsub ih =>
    rw [nodup_cons] at hl
    rw [remaining, remaining]
    by_cases hba : b = a
    · rw [if_pos hba, if_pos hba]
      have hlen := hsub.length_le
      omega
    rw [if_neg hba, if_neg hba]
    exact ih hl.2 ((mem_cons.mp ha).resolve_left (hba ·.symm))

end Links
