/-
Linear lists searched by key, the way a C array list is: every operation walks from the front and
acts on the **first** element whose key is the one asked for.
-/
import Mathlib.Data.List.Basic
import Mathlib.Data.List.Nodup

namespace FirstMatch

variable {α κ : Type*} [DecidableEq κ] (key : α → κ)

/-- The elements stored under `k`, in list order. -/
def slot (k : κ) (l : List α) : List α :=
  l.filter (key · = k)

/-- The first element stored under `k`. -/
def lookup (k : κ) (l : List α) : Option α :=
  l.find? (key · = k)

/-- Rewrite the first element stored under `k`, if there is one. -/
def modify (k : κ) (f : α → α) : List α → List α
  | [] => []
  | a :: l => if key a = k then f a :: l else a :: modify k f l

/-- Drop the first element stored under `k`, if there is one. -/
def erase (k : κ) (l : List α) : List α :=
  l.eraseP (key · = k)

@[simp] lemma slot_nil (k : κ) : slot key k [] = [] := rfl

lemma slot_cons (k : κ) (a : α) (l : List α) :
    slot key k (a :: l) = if key a = k then a :: slot key k l else slot key k l := by
  simp [slot, List.filter_cons]

@[simp] lemma slot_append (k : κ) (l₁ l₂ : List α) :
    slot key k (l₁ ++ l₂) = slot key k l₁ ++ slot key k l₂ := by
  simp [slot]

lemma slot_singleton_self (a : α) : slot key (key a) [a] = [a] := by
  simp [slot]

variable {k : κ} {a : α}

lemma slot_singleton_ne (h : key a ≠ k) : slot key k [a] = [] := by
  simp [slot, h]

variable {l : List α}

lemma mem_slot :
    a ∈ slot key k l ↔ a ∈ l ∧ key a = k := by
  simp [slot]

lemma lookup_eq_head? (k : κ) (l : List α) : lookup key k l = (slot key k l).head? := by
  rw [lookup, slot, List.head?_filter]

lemma key_of_lookup (h : lookup key k l = some a) :
    key a = k := by
  simpa using List.find?_some h

lemma mem_of_lookup (h : lookup key k l = some a) : a ∈ l :=
  List.mem_of_find?_eq_some h

lemma lookup_eq_none :
    lookup key k l = none ↔ slot key k l = [] := by
  rw [lookup_eq_head?, List.head?_eq_none_iff]

/-! ## Updating and removing act on the head of one slot -/

variable {key}

variable {f : α → α}

lemma slot_modify_self (hf : ∀ a, key a = k → key (f a) = k)
    (l : List α) : slot key k (modify key k f l) = (slot key k l).modifyHead f := by
  induction l with
  | nil => rfl
  | cons a l ih =>
    by_cases ha : key a = k
    · simp [modify, if_pos ha, slot_cons, hf a ha]
    · simp [modify, if_neg ha, slot_cons, ih]

lemma slot_modify_ne {k' : κ} (hf : ∀ a, key a = k → key (f a) = k) (hne : k' ≠ k)
    (l : List α) : slot key k' (modify key k f l) = slot key k' l := by
  induction l with
  | nil => rfl
  | cons a l ih =>
    by_cases ha : key a = k
    · have h1 : key a ≠ k' := fun h => hne (h.symm.trans ha)
      have h2 : key (f a) ≠ k' := fun h => hne (h.symm.trans (hf a ha))
      simp [modify, if_pos ha, slot_cons, if_neg h1, if_neg h2]
    · simp [modify, if_neg ha, slot_cons, ih]

lemma slot_erase_self (k : κ) (l : List α) :
    slot key k (erase key k l) = (slot key k l).tail := by
  induction l with
  | nil => rfl
  | cons a l ih =>
    by_cases ha : key a = k
    · simp [erase, slot_cons, ha]
    simp only [erase] at ih
    simp [erase, slot_cons, ha, ih]

lemma slot_erase_ne {k' : κ} (hne : k' ≠ k) (l : List α) :
    slot key k' (erase key k l) = slot key k' l := by
  induction l with
  | nil => rfl
  | cons a l ih =>
    by_cases ha : key a = k
    · have h1 : key a ≠ k' := fun h => hne (h.symm.trans ha)
      simp only [erase, slot_cons, List.eraseP_cons, ha, decide_true, cond_true]
      rw [ha] at h1
      simp [if_neg h1]
    simp only [erase] at ih
    simp [erase, slot_cons, ha, ih]

lemma modify_of_slot_nil (h : slot key k l = []) :
    modify key k f l = l := by
  induction l with
  | nil => rfl
  | cons a l ih =>
    by_cases ha : key a = k
    · simp only [slot_cons, if_pos ha] at h
      cases h
    simp only [slot_cons, if_neg ha] at h
    simp [modify, if_neg ha, ih h]

lemma mem_modify {b : α} (h : b ∈ modify key k f l) :
    b ∈ l ∨ ∃ a, lookup key k l = some a ∧ b = f a := by
  induction l with
  | nil => cases h
  | cons a l ih =>
    by_cases ha : key a = k
    · rw [modify, if_pos ha] at h
      rcases List.mem_cons.mp h with rfl | hb
      · exact Or.inr ⟨a, by simp [lookup, ha], rfl⟩
      · simp [hb]
    rw [modify, if_neg ha] at h
    rcases List.mem_cons.mp h with rfl | hb
    · simp
    rcases ih hb with hl | ⟨c, hc, rfl⟩
    · simp [hl]
    · exact Or.inr ⟨c, by simpa [lookup, ha] using hc, rfl⟩

section

variable (h : lookup key k l = some a)
include h

lemma modify_congr_of_lookup : modify key k f l = modify key k (fun _ => f a) l := by
  induction l with
  | nil => rfl
  | cons b l ih =>
    by_cases hb : key b = k
    · have hba : b = a := by simpa [lookup, hb] using h
      rw [modify, if_pos hb, modify, if_pos hb, hba]
    have hl : lookup key k l = some a := by simpa [lookup, hb] using h
    rw [modify, if_neg hb, modify, if_neg hb, ih hl]

lemma split_of_lookup :
    ∃ l₁ l₂, l = l₁ ++ a :: l₂ ∧ (∀ b ∈ l₁, key b ≠ k) ∧ erase key k l = l₁ ++ l₂
      ∧ ∀ f, modify key k f l = l₁ ++ f a :: l₂ := by
  induction l with
  | nil => cases h
  | cons b l ih =>
    by_cases hb : key b = k
    · have hba : b = a := by simpa [lookup, hb] using h
      subst hba
      refine ⟨[], l, rfl, fun _ hc => absurd hc List.not_mem_nil, by simp [erase, hb], ?_⟩
      intro f
      rw [modify, if_pos hb, List.nil_append]
    have hl : lookup key k l = some a := by simpa [lookup, hb] using h
    obtain ⟨l₁, l₂, hsplit, hnone, herase, hmodify⟩ := ih hl
    refine ⟨b :: l₁, l₂, by rw [hsplit, List.cons_append], ?_, ?_, fun f => ?_⟩
    · exact List.forall_mem_cons.mpr ⟨hb, hnone⟩
    · rw [erase, List.eraseP_cons_of_neg (by simpa using hb), List.cons_append]
      exact congrArg (b :: ·) herase
    · rw [modify, if_neg hb, hmodify, List.cons_append]

lemma modify_of_lookup (f : α → α) :
    ∃ l₁ l₂, l = l₁ ++ a :: l₂ ∧ modify key k f l = l₁ ++ f a :: l₂ := by
  obtain ⟨l₁, l₂, hsplit, -, -, hmodify⟩ := split_of_lookup h
  exact ⟨l₁, l₂, hsplit, hmodify f⟩

lemma erase_of_lookup : ∃ l₁ l₂, l = l₁ ++ a :: l₂ ∧ erase key k l = l₁ ++ l₂ := by
  obtain ⟨l₁, l₂, hsplit, -, herase, -⟩ := split_of_lookup h
  exact ⟨l₁, l₂, hsplit, herase⟩

end

lemma mem_of_mem_erase {b : α} (h : b ∈ erase key k l) : b ∈ l :=
  List.mem_of_mem_eraseP h

end FirstMatch

namespace UniqueKeys

variable {α κ β : Type*} (key : α → κ)

def Unique (l : List α) : Prop := (l.map key).Nodup

variable {key}

lemma unique_nil : Unique key [] := List.nodup_nil

variable {l : List α}

lemma Unique.sublist {l' : List α} (h : Unique key l) (hsub : l'.Sublist l) :
    Unique key l' :=
  List.Nodup.sublist (hsub.map key) h

variable {a : α} {l₁ l₂ : List α}

lemma unique_middle :
    Unique key (l₁ ++ a :: l₂) ↔ (∀ b ∈ l₁ ++ l₂, key b ≠ key a) ∧ Unique key (l₁ ++ l₂) := by
  unfold Unique
  rw [List.map_append, List.map_cons, List.nodup_middle, List.nodup_cons, ← List.map_append,
    List.mem_map]
  push Not
  rfl

lemma unique_cons :
    Unique key (a :: l) ↔ (∀ b ∈ l, key b ≠ key a) ∧ Unique key l := by
  rw [← List.nil_append (a :: l), unique_middle]
  rfl

lemma unique_rewrite {a' : α} (h : Unique key (l₁ ++ a :: l₂))
    (hkey : key a' = key a) : Unique key (l₁ ++ a' :: l₂) := by
  rw [unique_middle] at h ⊢
  rw [hkey]
  exact h

lemma erase_eq_filter [DecidableEq κ] (h : Unique key l) (k : κ) :
    FirstMatch.erase key k l = l.filter (key · ≠ k) := by
  induction l with
  | nil => rfl
  | cons a l ih =>
    obtain ⟨hnew, hrest⟩ := unique_cons.mp h
    by_cases hk : key a = k
    · subst hk
      have hkeep : l.filter (key · ≠ key a) = l :=
        List.filter_eq_self.mpr (fun b hb => decide_eq_true (hnew b hb))
      rw [FirstMatch.erase, List.eraseP_cons_of_pos (by simp),
        List.filter_cons_of_neg (by simp), hkeep]
    rw [FirstMatch.erase, List.eraseP_cons_of_neg (by simpa using hk),
      List.filter_cons_of_pos (by simpa using hk)]
    exact congrArg (a :: ·) (ih hrest)

lemma lookup_of_mem [DecidableEq κ] (h : Unique key l) (hmem : a ∈ l) :
    FirstMatch.lookup key (key a) l = some a := by
  induction l with
  | nil => simp at hmem
  | cons b l ih =>
    obtain ⟨hnew, hrest⟩ := unique_cons.mp h
    obtain rfl | htail := List.mem_cons.mp hmem
    · simp [FirstMatch.lookup]
    have hne : key b ≠ key a := (hnew a htail).symm
    rw [FirstMatch.lookup, List.find?_cons_of_neg (by simpa using hne)]
    exact ih hrest htail

/-! ## Views -/

variable [DecidableEq κ] (key) (val : α → β)

def view (k : κ) (l : List α) : Option β := (FirstMatch.lookup key k l).map val

@[simp] lemma view_nil (k : κ) : view key val k [] = none := rfl

lemma view_cons (k : κ) (a : α) (l : List α) :
    view key val k (a :: l) = if key a = k then some (val a) else view key val k l := by
  unfold view FirstMatch.lookup
  split_ifs with h <;> simp [h]

variable {key}

lemma view_eq_none {k : κ} :
    view key val k l = none ↔ ∀ a ∈ l, key a ≠ k := by
  simp [view, FirstMatch.lookup]

lemma view_of_mem (h : Unique key l) (hmem : a ∈ l) :
    view key val (key a) l = some (val a) := by
  rw [view, lookup_of_mem h hmem, Option.map_some]

lemma view_middle (h : ∀ b ∈ l₁ ++ l₂, key b ≠ key a) (k : κ) :
    view key val k (l₁ ++ a :: l₂)
      = if key a = k then some (val a) else view key val k (l₁ ++ l₂) := by
  induction l₁ with
  | nil => exact view_cons key val k a l₂
  | cons b l₁ ih =>
    have hb : key b ≠ key a := h b List.mem_cons_self
    have hrest := ih (fun c hc => h c (List.mem_cons_of_mem _ hc))
    rw [List.cons_append, List.cons_append, view_cons, view_cons, hrest]
    by_cases hk : key a = k
    · rw [if_pos hk, if_pos hk, if_neg (fun hbk => hb (hbk.trans hk.symm))]
    · simp [hk]

lemma view_remove (h : Unique key (l₁ ++ a :: l₂)) (k : κ) :
    view key val k (l₁ ++ l₂) = if key a = k then none else view key val k (l₁ ++ a :: l₂) := by
  have hnew := (unique_middle.mp h).1
  rw [view_middle val hnew]
  split_ifs with hk
  · exact (view_eq_none val).mpr (fun b hb => hk ▸ hnew b hb)
  · rfl

lemma view_rewrite {a' : α} (h : Unique key (l₁ ++ a :: l₂)) (hkey : key a' = key a) (k : κ) :
    view key val k (l₁ ++ a' :: l₂)
      = if key a = k then some (val a') else view key val k (l₁ ++ a :: l₂) := by
  have hnew := (unique_middle.mp h).1
  rw [view_middle val (fun b hb => hkey ▸ hnew b hb), view_middle val hnew, hkey]
  split_ifs <;> rfl

lemma view_filter (key : α → κ) (keep : κ → Bool) (k : κ) (l : List α) :
    view key val k (l.filter (fun a => keep (key a)))
      = if keep k = true then view key val k l else none := by
  induction l with
  | nil => simp
  | cons a l ih =>
    rw [List.filter_cons]
    by_cases hk : key a = k
    · subst hk
      by_cases hkeep : keep (key a) = true
      · rw [if_pos hkeep, view_cons, if_pos rfl, if_pos hkeep, view_cons, if_pos rfl]
      · rw [if_neg hkeep, ih, if_neg hkeep, if_neg hkeep]
    by_cases hkeep : keep (key a) = true
    · rw [if_pos hkeep, view_cons, if_neg hk, ih, view_cons, if_neg hk]
    · rw [if_neg hkeep, ih, view_cons, if_neg hk]

end UniqueKeys
