/-
Fields of characters, `char field[n]`, that are filled from their start.
-/
import Mathlib.Data.List.TakeWhile
import Iochibity.Lib.Buffer

structure CharField (β : Type*) (n : ℕ) where
  cells : List β
  length_eq : cells.length = n
  deriving DecidableEq

namespace CharField

open List

variable {β : Type*} [Zero β] {n : ℕ}

def zero : CharField β n := ⟨Buffer.calloc n, Buffer.length_calloc n⟩

section

variable (field : CharField β n)

def cell (i : ℕ) : β := field.cells.getD i 0

def text [DecidableEq β] (cells : List β) : List β := cells.takeWhile (fun b => !decide (b = 0))

def shown (values : List (List β)) (i : ℕ) : β := values.foldl (fun b v => v.getD i b) 0

/-! ## Copies -/

def write (v : List β) : CharField β n :=
  ⟨Buffer.memcpy field.cells 0 v v.length, by rw [Buffer.length_memcpy, field.length_eq]⟩

def writeAll (values : List (List β)) : CharField β n :=
  values.foldl write field

lemma cell_behind {i : ℕ} (h : n ≤ i) : field.cell i = 0 :=
  getD_eq_default _ _ (by rw [field.length_eq]; exact h)

end

@[simp] lemma cell_zero (i : ℕ) : (zero : CharField β n).cell i = 0 := by
  rcases Nat.lt_or_ge i n with hi | hi
  · exact getD_replicate _ hi
  · exact cell_behind _ hi

variable {v : List β}

lemma cell_write (field : CharField β n) (h : v.length ≤ n) (i : ℕ) :
    (field.write v).cell i = v.getD i (field.cell i) := by
  rcases Nat.lt_or_ge i n with hi | hi
  · have hin : i < field.cells.length := by rw [field.length_eq]; exact hi
    have hcell : field.cells[i]? = some (field.cell i) := by
      rw [cell, getD_eq_getElem _ _ hin, getElem?_eq_getElem hin]
    simp only [cell, write, Buffer.memcpy]
    rw [getD_eq_getElem?_getD, getElem?_mapIdx, hcell]
    rcases Nat.lt_or_ge i v.length with hv | hv
    · rw [Option.map_some, if_pos ⟨Nat.zero_le i, by omega⟩, Nat.sub_zero, Option.getD_some,
        getD_eq_getElem _ _ hv, getD_eq_getElem _ _ hv]
    · rw [Option.map_some, if_neg (by omega), getD_eq_default _ _ hv, Option.getD_some, cell]
  · rw [cell_behind _ hi, cell_behind _ hi, getD_eq_default _ _ (by omega)]

lemma cell_writeAll (field : CharField β n) (values : List (List β))
    (h : ∀ v ∈ values, v.length ≤ n) (i : ℕ) :
    (field.writeAll values).cell i = values.foldl (fun b v => v.getD i b) (field.cell i) := by
  induction values generalizing field with
  | nil => rfl
  | cons v values ih =>
    obtain ⟨hv, hrest⟩ := forall_mem_cons.mp h
    rw [writeAll, foldl_cons, foldl_cons, ← cell_write field hv i]
    exact ih (field.write v) hrest

lemma cell_writeAll_zero (values : List (List β)) (h : ∀ v ∈ values, v.length ≤ n) (i : ℕ) :
    ((zero : CharField β n).writeAll values).cell i = shown values i := by
  rw [cell_writeAll _ _ h, cell_zero, shown]

variable {values : List (List β)}

lemma shown_mem {i : ℕ} (h : shown values i ≠ 0) :
    ∃ v ∈ values, v.getD i 0 = shown values i := by
  have hstart : ∀ b : β, values.foldl (fun b v => v.getD i b) b = b
      ∨ ∃ v ∈ values, v.getD i 0 = values.foldl (fun b v => v.getD i b) b := by
    clear h
    induction values with
    | nil => exact fun b => .inl rfl
    | cons v values ih =>
      intro b
      rw [foldl_cons]
      rcases ih (v.getD i b) with hkept | ⟨w, hw, hshown⟩
      · rw [hkept]
        rcases Nat.lt_or_ge i v.length with hi | hi
        · refine .inr ⟨v, mem_cons_self, ?_⟩
          simp [hi]
        · simp [hi]
      · exact .inr ⟨w, mem_cons_of_mem v hw, hshown⟩
  exact (hstart 0).resolve_left h

/-! ## Strings -/

variable [DecidableEq β]

lemma text_eq_iff {cells s : List β} (hs : ∀ b ∈ s, b ≠ 0) :
    text cells = s ↔ ∀ i ≤ s.length, cells.getD i 0 = s.getD i 0 := by
  induction s generalizing cells with
  | nil =>
    cases cells with
    | nil => exact ⟨fun _ i _ => rfl, fun _ => rfl⟩
    | cons c cells =>
      rw [text, takeWhile_cons]
      constructor
      · intro h i hi
        rw [length_nil, Nat.le_zero] at hi
        subst hi
        by_contra hc
        rw [if_pos (by simpa using hc)] at h
        exact cons_ne_nil _ _ h
      · intro h
        have hc : c = 0 := h 0 (Nat.le_refl 0)
        rw [if_neg (by simp [hc])]
  | cons a s ih =>
    obtain ⟨ha, hrest⟩ := forall_mem_cons.mp hs
    cases cells with
    | nil =>
      constructor
      · intro h
        exact absurd h (cons_ne_nil a s).symm
      · intro h
        exact absurd (h 0 (Nat.zero_le _)).symm ha
    | cons c cells =>
      constructor
      · intro h
        rw [text, takeWhile_cons] at h
        by_cases hc : c = 0
        · rw [if_neg (by simp [hc])] at h
          exact absurd h (cons_ne_nil a s).symm
        rw [if_pos (by simpa using hc)] at h
        injection h with hhead htail
        have hbehind := (ih hrest).mp htail
        intro i hi
        rcases i with _ | i
        · exact hhead
        · exact hbehind i (Nat.le_of_succ_le_succ hi)
      · intro h
        have hhead : c = a := h 0 (Nat.zero_le _)
        have htail : text cells = s :=
          (ih hrest).mpr fun i hi => h (i + 1) (Nat.succ_le_succ hi)
        rw [text, takeWhile_cons, if_pos (by simpa [hhead] using ha), hhead]
        exact congrArg (a :: ·) htail

lemma ne_zero_of_mem_text {cells : List β} : ∀ b ∈ text cells, b ≠ 0 := by
  intro b hb
  have hkept := mem_takeWhile_imp hb
  simpa using hkept

def Shows (values : List (List β)) (s : List β) : Prop :=
  ∀ i ≤ s.length, shown values i = s.getD i 0

lemma text_writeAll_iff (h : ∀ v ∈ values, v.length ≤ n) {s : List β} (hs : ∀ b ∈ s, b ≠ 0) :
    text ((zero : CharField β n).writeAll values).cells = s ↔ Shows values s := by
  rw [text_eq_iff hs]
  refine forall_congr' fun i => ?_
  rw [← cell_writeAll_zero values h i, cell]

/-! ## Copies while the string is empty -/

def blank (v : List β) : Bool := v.headD 0 = 0

def reaching : List (List β) → List (List β)
  | [] => []
  | v :: values => if blank v then v :: reaching values else [v]

def admitted (field : CharField β n) (values : List (List β)) : List (List β) :=
  if field.cell 0 = 0 then reaching values else []

variable {field : CharField β n}

lemma cell_write_zero (h : field.cell 0 = 0)
    (hv : v.length ≤ n) : (field.write v).cell 0 = 0 ↔ blank v = true := by
  rw [cell_write _ hv, h, blank, decide_eq_true_iff, headD_eq_head?_getD,
    getD_eq_getElem?_getD, head?_eq_getElem?]

lemma reaching_subset (values : List (List β)) : reaching values ⊆ values := by
  induction values with
  | nil => exact List.Subset.refl []
  | cons v values ih =>
    rw [reaching]
    split
    · exact cons_subset_cons v ih
    intro w hw
    rw [mem_singleton.mp hw]
    simp

lemma reaching_isEmpty (values : List (List β)) :
    (reaching values).isEmpty = values.isEmpty := by
  cases values with
  | nil => rfl
  | cons v values =>
    rw [reaching]
    split <;> rfl

lemma admitted_cons_of_empty (h : field.cell 0 = 0) (hv : v.length ≤ n) (values : List (List β)) :
    admitted field (v :: values) = v :: admitted (field.write v) values := by
  rw [admitted, if_pos h, reaching, admitted]
  by_cases hb : blank v = true
  · rw [if_pos hb, if_pos ((cell_write_zero h hv).mpr hb)]
  · rw [if_neg hb, if_neg (fun hzero => hb ((cell_write_zero h hv).mp hzero))]

lemma admitted_of_full (h : field.cell 0 ≠ 0)
    (values : List (List β)) : admitted field values = [] := by
  rw [admitted, if_neg h]

lemma admitted_nil (field : CharField β n) : admitted field [] = [] := by
  rw [admitted, reaching, ite_self]

lemma admitted_singleton (h : field.cell 0 = 0) (v : List β) :
    admitted field [v] = [v] := by
  rw [admitted, if_pos h, reaching, reaching, ite_self]

lemma admitted_subset_append (field : CharField β n) (vs ws : List (List β)) :
    admitted field vs ⊆ admitted field (vs ++ ws) := by
  rw [admitted, admitted]
  split
  · induction vs with
    | nil => exact nil_subset _
    | cons v vs ih =>
      rw [cons_append, reaching, reaching]
      split
      · exact cons_subset_cons v ih
      · simp
  · simp

lemma admitted_append (field : CharField β n) (vs ws : List (List β))
    (hshort : ∀ v ∈ admitted field vs, v.length ≤ n) :
    admitted field (vs ++ ws)
      = admitted field vs ++ admitted (field.writeAll (admitted field vs)) ws := by
  induction vs generalizing field with
  | nil =>
    rw [admitted_nil]
    rfl
  | cons v vs ih =>
    by_cases h : field.cell 0 = 0
    · have hv : v.length ≤ n := by
        apply hshort
        rw [admitted, if_pos h, reaching]
        split <;> exact mem_cons_self
      rw [admitted_cons_of_empty h hv] at hshort ⊢
      rw [cons_append, admitted_cons_of_empty h hv,
        ih (field.write v) (forall_mem_cons.mp hshort).2]
      rfl
    rw [admitted_of_full h, admitted_of_full h, nil_append]
    exact (admitted_of_full h ws).symm

lemma admitted_zero (values : List (List β)) :
    admitted (zero : CharField β n) values = reaching values := by
  rw [admitted, if_pos (cell_zero 0)]

lemma writeAll_reaching_empty (h : field.cell 0 = 0)
    (hshort : ∀ v ∈ reaching values, v.length ≤ n) :
    (field.writeAll (reaching values)).cell 0 = 0 ↔ values.all blank = true := by
  induction values generalizing field with
  | nil => exact ⟨fun _ => rfl, fun _ => h⟩
  | cons v values ih =>
    rw [reaching] at hshort ⊢
    rw [all_cons, Bool.and_eq_true]
    by_cases hb : blank v = true
    · rw [if_pos hb] at hshort ⊢
      obtain ⟨hv, hrest⟩ := forall_mem_cons.mp hshort
      have hstep : (field.write v).cell 0 = 0 := (cell_write_zero h hv).mpr hb
      exact (ih hstep hrest).trans ⟨fun hall => ⟨hb, hall⟩, And.right⟩
    rw [if_neg hb] at hshort ⊢
    have hv : v.length ≤ n := hshort v (mem_singleton_self v)
    exact ⟨fun hzero => absurd ((cell_write_zero h hv).mp hzero) hb, fun hall => absurd hall.1 hb⟩

lemma text_reaching_iff (hshort : ∀ w ∈ reaching (v :: values), w.length ≤ n) :
    text ((zero : CharField β n).writeAll (reaching (v :: values))).cells = text v
      ↔ blank v = false ∨ values.all blank = true := by
  by_cases hb : blank v = true
  · have hempty : text v = [] := by
      cases v with
      | nil => rfl
      | cons b v =>
        have hzero : b = 0 := by simpa [blank] using hb
        rw [text, takeWhile_cons, if_neg (by simp [hzero])]
    have hall : (v :: values).all blank = values.all blank := by
      rw [all_cons, hb, Bool.true_and]
    have hfirst := writeAll_reaching_empty (cell_zero 0 : (zero : CharField β n).cell 0 = 0) hshort
    rw [hempty, text_eq_iff (forall_mem_nil _), ← hall, ← hfirst]
    constructor
    · intro h
      exact .inr (h 0 (Nat.le_refl 0))
    · rintro (hno | hzero) i hi
      · exact absurd hb (by rw [hno]; exact Bool.false_ne_true)
      · rw [length_nil, Nat.le_zero] at hi
        rw [hi]
        exact hzero
  rw [Bool.not_eq_true] at hb
  refine ⟨fun _ => .inl hb, fun _ => ?_⟩
  have hone : reaching (v :: values) = [v] := by
    rw [reaching, hb, if_neg Bool.false_ne_true]
  rw [hone] at hshort ⊢
  rw [text_writeAll_iff hshort ne_zero_of_mem_text]
  exact (text_eq_iff ne_zero_of_mem_text).mp rfl

end CharField
