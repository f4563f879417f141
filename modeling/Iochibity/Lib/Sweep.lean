/-
Sweeping an array list in place, the way C code does it:
-/
import Mathlib.Algebra.Order.Ring.Nat
import Mathlib.Data.List.Basic

namespace Sweep

open List

variable {α ε : Type*}

/-- The loop. `body n a` is the `n`-th visit, to `a`: what is left of it (`none` when it is removed)
and the events it raises. -/
def loop (body : Nat → α → Option α × List ε) (n : Nat) (len i : UInt64) (l : List α) :
    List α × List ε :=
  if _h : i < len then
    match hget : l[i.toNat]? with
    | none => loop body n len (i + 1) l
    | some a =>
      match body n a with
      | (some b, log) =>
        let r := loop body (n + 1) len (i + 1) (l.set i.toNat b)
        (r.1, log ++ r.2)
      | (none, log) =>
        -- `len` is read again, `--i` in the body, `i++` in the loop header
        let r := loop body (n + 1) (UInt64.ofNat (l.eraseIdx i.toNat).length) (i - 1 + 1)
          (l.eraseIdx i.toNat)
        (r.1, log ++ r.2)
  else (l, [])
termination_by (l.length, len.toNat - i.toNat)
decreasing_by
  · have hlt := UInt64.lt_iff_toNat_lt.mp _h
    have hlen := len.toNat_lt
    refine Prod.Lex.right _ ?_
    rw [UInt64.toNat_add, UInt64.toNat_one, Nat.mod_eq_of_lt (by omega)]
    omega
  · have hlt := UInt64.lt_iff_toNat_lt.mp _h
    have hlen := len.toNat_lt
    rw [length_set]
    refine Prod.Lex.right _ ?_
    rw [UInt64.toNat_add, UInt64.toNat_one, Nat.mod_eq_of_lt (by omega)]
    omega
  · have hi : i.toNat < l.length := (List.getElem?_eq_some_iff.mp hget).1
    refine Prod.Lex.left _ _ ?_
    rw [length_eraseIdx_of_lt hi]
    omega

def pass (body : Nat → α → Option α × List ε) (n : Nat) : List α → List α × List ε
  | [] => ([], [])
  | a :: l =>
    ((body n a).1.toList ++ (pass body (n + 1) l).1, (body n a).2 ++ (pass body (n + 1) l).2)

variable (body : Nat → α → Option α × List ε)

lemma loop_eq_pass (n : Nat) (done todo : List α) (hlen : (done ++ todo).length < 2 ^ 64) :
    loop body n (UInt64.ofNat (done ++ todo).length) (UInt64.ofNat done.length) (done ++ todo)
      = (done ++ (pass body n todo).1, (pass body n todo).2) := by
  induction todo generalizing n done with
  | nil =>
    rw [loop, dif_neg]
    · rfl
    · rw [append_nil]
      simp
  | cons a todo ih =>
    rw [length_append, length_cons] at hlen
    have hdone : (UInt64.ofNat done.length).toNat = done.length :=
      UInt64.toNat_ofNat_of_lt' (by rw [UInt64.size]; omega)
    have hlt : UInt64.ofNat done.length < UInt64.ofNat (done ++ a :: todo).length := by
      rw [UInt64.lt_iff_toNat_lt, hdone, UInt64.toNat_ofNat_of_lt', length_append, length_cons]
      · omega
      · rw [length_append, length_cons]
        exact hlen
    have hget : (done ++ a :: todo)[done.length]? = some a := by
      rw [getElem?_append_right (Nat.le_refl _), Nat.sub_self]
      rfl
    have hback : UInt64.ofNat done.length - 1 + 1 = UInt64.ofNat done.length :=
      UInt64.sub_add_cancel _ _
    rw [loop, dif_pos hlt, pass]
    split
    · next hnone =>
        rw [hdone, hget] at hnone
        cases hnone
    next a' hsome =>
      rw [hdone, hget] at hsome
      cases hsome
      rw [hdone]
      split
      · next b log hb =>
          -- the element stays: it joins the part behind the index
          have hset : (done ++ a :: todo).set done.length b = (done ++ [b]) ++ todo := by
            simp
          have hlength : (done ++ a :: todo).length = ((done ++ [b]) ++ todo).length := by
            simp
          have hrest := ih (n + 1) (done ++ [b]) (by
            rw [← hlength, length_append, length_cons]
            exact hlen)
          have hindex : UInt64.ofNat (done ++ [b]).length = UInt64.ofNat done.length + 1 := by
            simp
          rw [← hlength, hindex] at hrest
          rw [hset, hrest, hb, append_assoc]
          rfl
      next log hb =>
        -- the element is removed: the next one takes its place under the index
        have herase : (done ++ a :: todo).eraseIdx done.length = done ++ todo := by
          rw [eraseIdx_append_of_length_le (Nat.le_refl _), Nat.sub_self, eraseIdx_cons_zero]
        have hrest := ih (n + 1) done (by
          rw [length_append]
          omega)
        rw [herase, hback, hrest, hb]
        rfl

lemma pass_inv (Inv : List α → List ε → Prop)
    (hbody : ∀ n done a todo log, Inv (done ++ a :: todo) log →
      Inv (done ++ (body n a).1.toList ++ todo) (log ++ (body n a).2))
    {l : List α} {log : List ε} (h : Inv l log) (n : Nat) :
    Inv (pass body n l).1 (log ++ (pass body n l).2) := by
  suffices hgen : ∀ (todo done : List α) (n : Nat) (log : List ε), Inv (done ++ todo) log →
      Inv (done ++ (pass body n todo).1) (log ++ (pass body n todo).2) from hgen l [] n log h
  intro todo
  induction todo with
  | nil =>
    intro done n log h
    rw [append_nil] at h
    rw [pass, append_nil, append_nil]
    exact h
  | cons a todo ih =>
    intro done n log h
    have hvisit := ih _ (n + 1) _ (hbody n done a todo log h)
    rw [pass]
    rw [append_assoc, append_assoc] at hvisit
    exact hvisit

end Sweep

namespace SkippingSweep

open List

variable {α : Type*}

structure Swept (α : Type*) where
  left : List α
  visited : List α
  removed : List α

/-- The loop, with so many indices to go. `body a` is what is left of the element `a`. -/
def loop (body : α → Option α) : ℕ → ℕ → List α → Swept α
  | 0, _, l => ⟨l, [], []⟩
  | n + 1, i, l =>
    match l[i]? with
    | none => loop body n (i + 1) l
    | some a =>
      match body a with
      | some b =>
        let swept := loop body n (i + 1) (l.set i b)
        { swept with visited := a :: swept.visited }
      | none =>
        let swept := loop body n (i + 1) (l.eraseIdx i)
        { swept with visited := a :: swept.visited, removed := a :: swept.removed }

def walk (body : α → Option α) : List α → Swept α
  | [] => ⟨[], [], []⟩
  | a :: l =>
    match body a with
    | some b =>
      let swept := walk body l
      ⟨b :: swept.left, a :: swept.visited, swept.removed⟩
    | none =>
      match l with
      | [] => ⟨[], [a], [a]⟩
      | b :: l =>
        let swept := walk body l
        ⟨b :: swept.left, a :: swept.visited, a :: swept.removed⟩

section Steps

variable {body : α → Option α} {a b : α} {l : List α}

lemma walk_keep (h : body a = some b) :
    walk body (a :: l)
      = ⟨b :: (walk body l).left, a :: (walk body l).visited, (walk body l).removed⟩ := by
  rw [walk.eq_def]
  dsimp only
  rw [h]

lemma walk_last (h : body a = none) : walk body [a] = ⟨[], [a], [a]⟩ := by
  rw [walk.eq_def]
  dsimp only
  rw [h]

lemma walk_skip (h : body a = none) :
    walk body (a :: b :: l)
      = ⟨b :: (walk body l).left, a :: (walk body l).visited, a :: (walk body l).removed⟩ := by
  rw [walk.eq_def]
  dsimp only
  rw [h]

end Steps

variable (body : α → Option α)

lemma loop_end (n : ℕ) (i : ℕ) (l : List α) (hi : l.length ≤ i) :
    loop body n i l = ⟨l, [], []⟩ := by
  induction n generalizing i with
  | zero => rfl
  | succ n ih =>
    rw [loop, getElem?_eq_none hi]
    exact ih (i + 1) (by omega)

lemma loop_eq_walk (n : ℕ) (done todo : List α) (hn : todo.length ≤ n) :
    loop body n done.length (done ++ todo)
      = ⟨done ++ (walk body todo).left, (walk body todo).visited, (walk body todo).removed⟩ := by
  induction todo using walk.induct body generalizing n done with
  | case1 =>
    rw [loop_end body n _ _ (by rw [append_nil])]
    rfl
  | case2 a todo b hbody ih =>
    rw [length_cons] at hn
    obtain ⟨n, rfl⟩ : ∃ m, n = m + 1 := ⟨n - 1, by omega⟩
    have hget : (done ++ a :: todo)[done.length]? = some a := by
      rw [getElem?_append_right (Nat.le_refl _), Nat.sub_self]
      rfl
    have hset : (done ++ a :: todo).set done.length b = (done ++ [b]) ++ todo := by
      rw [set_append_right _ _ (Nat.le_refl _), Nat.sub_self, set_cons_zero,
        append_assoc, singleton_append]
    have hrest := ih n (done ++ [b]) (by omega)
    rw [length_append, length_singleton] at hrest
    rw [loop, hget]
    dsimp only
    rw [hbody, walk_keep hbody]
    dsimp only
    rw [hset, hrest, append_assoc, singleton_append]
  | case3 a hbody =>
    obtain ⟨n, rfl⟩ : ∃ m, n = m + 1 := ⟨n - 1, by rw [length_cons] at hn; omega⟩
    have hget : (done ++ [a])[done.length]? = some a := by
      rw [getElem?_append_right (Nat.le_refl _), Nat.sub_self]
      rfl
    have herase : (done ++ [a]).eraseIdx done.length = done := by
      rw [eraseIdx_append_of_length_le (Nat.le_refl _), Nat.sub_self,
        eraseIdx_cons_zero, append_nil]
    rw [loop, hget]
    dsimp only
    rw [hbody, walk_last hbody]
    dsimp only
    rw [herase, loop_end body n _ _ (by omega), append_nil]
  | case4 a hbody b todo ih =>
    rw [length_cons, length_cons] at hn
    obtain ⟨n, rfl⟩ : ∃ m, n = m + 1 := ⟨n - 1, by omega⟩
    have hget : (done ++ a :: b :: todo)[done.length]? = some a := by
      rw [getElem?_append_right (Nat.le_refl _), Nat.sub_self]
      rfl
    have herase : (done ++ a :: b :: todo).eraseIdx done.length = (done ++ [b]) ++ todo := by
      rw [eraseIdx_append_of_length_le (Nat.le_refl _), Nat.sub_self,
        eraseIdx_cons_zero, append_assoc, singleton_append]
    have hrest := ih n (done ++ [b]) (by omega)
    rw [length_append, length_singleton] at hrest
    rw [loop, hget]
    dsimp only
    rw [hbody, walk_skip hbody]
    dsimp only
    rw [herase, hrest, append_assoc, singleton_append]

lemma walk_removed_eq (l : List α) :
    (walk body l).removed = (walk body l).visited.filter (fun a => (body a).isNone) := by
  induction l using walk.induct body with
  | case1 => rfl
  | case2 a l b hbody ih =>
    rw [walk_keep hbody]
    dsimp only
    rw [filter_cons_of_neg (by rw [hbody]; exact nofun), ih]
  | case3 a hbody =>
    rw [walk_last hbody]
    dsimp only
    rw [filter_cons_of_pos (by rw [hbody]; rfl)]
    rfl
  | case4 a hbody b l ih =>
    rw [walk_skip hbody]
    dsimp only
    rw [filter_cons_of_pos (by rw [hbody]; rfl), ih]

lemma walk_visited_length (l : List α) : (walk body l).visited.length ≤ l.length := by
  induction l using walk.induct body with
  | case1 => exact Nat.le_refl _
  | case2 a l b hbody ih =>
    rw [walk_keep hbody]
    exact Nat.succ_le_succ ih
  | case3 a hbody =>
    rw [walk_last hbody]
  | case4 a hbody b l ih =>
    rw [walk_skip hbody]
    exact Nat.succ_le_succ (Nat.le_succ_of_le ih)

lemma walk_visits_all_iff (l : List α) :
    (walk body l).visited = l ↔ ∀ a ∈ l.dropLast, (body a).isSome = true := by
  induction l using walk.induct body with
  | case1 => exact iff_of_true rfl nofun
  | case2 a l b hbody ih =>
    rw [walk_keep hbody]
    dsimp only
    rw [List.cons.injEq, and_iff_right rfl, ih]
    cases l with
    | nil => simp
    | cons c l =>
      rw [dropLast_cons_cons, forall_mem_cons, hbody]
      exact (and_iff_right rfl).symm
  | case3 a hbody =>
    rw [walk_last hbody]
    simp
  | case4 a hbody b l ih =>
    rw [walk_skip hbody]
    refine iff_of_false ?_ ?_
    · intro heq
      have hlength := walk_visited_length body l
      have hsame := congrArg List.length heq
      rw [length_cons, length_cons, length_cons] at hsame
      omega
    · intro hall
      have hfirst := hall a (by rw [dropLast_cons_cons]; exact mem_cons_self)
      rw [hbody] at hfirst
      simp at hfirst

lemma walk_left_of_visits_all (l : List α) (hall : (walk body l).visited = l) :
    (walk body l).left = l.filterMap body := by
  induction l using walk.induct body with
  | case1 => rfl
  | case2 a l b hbody ih =>
    rw [walk_keep hbody] at hall ⊢
    dsimp only at hall ⊢
    rw [filterMap_cons, hbody, ih (List.cons.inj hall).2]
  | case3 a hbody =>
    rw [walk_last hbody, filterMap_cons, hbody]
    rfl
  | case4 a hbody b l ih =>
    exact absurd hall (by
      rw [walk_visits_all_iff]
      intro h
      have hfirst := h a (by rw [dropLast_cons_cons]; exact mem_cons_self)
      rw [hbody] at hfirst
      exact absurd hfirst nofun)

lemma walk_left_mem (l : List α) {b : α} (hb : b ∈ (walk body l).left) :
    b ∈ l ∨ ∃ a ∈ l, body a = some b := by
  induction l using walk.induct body with
  | case1 => exact .inl hb
  | case2 a l c hbody ih =>
    rw [walk_keep hbody] at hb
    rcases mem_cons.mp hb with rfl | hb
    · exact .inr ⟨a, mem_cons_self, hbody⟩
    rcases ih hb with hold | ⟨d, hd, hleft⟩
    · simp [hold]
    · exact .inr ⟨d, mem_cons_of_mem _ hd, hleft⟩
  | case3 a hbody =>
    rw [walk_last hbody] at hb
    simp at hb
  | case4 a hbody c l ih =>
    rw [walk_skip hbody] at hb
    rcases mem_cons.mp hb with rfl | hb
    · exact .inl (mem_cons_of_mem _ mem_cons_self)
    rcases ih hb with hold | ⟨d, hd, hleft⟩
    · simp [hold]
    · exact .inr ⟨d, mem_cons_of_mem _ (mem_cons_of_mem _ hd), hleft⟩

lemma walk_left_keys {κ : Type*} {key : α → κ}
    (hkey : ∀ a b, body a = some b → key b = key a) (l : List α) :
    ((walk body l).left.map key).Sublist (l.map key) := by
  induction l using walk.induct body with
  | case1 => exact List.Sublist.refl _
  | case2 a l b hbody ih =>
    rw [walk_keep hbody]
    dsimp only
    rw [map_cons, map_cons, hkey a b hbody]
    exact ih.cons_cons _
  | case3 a hbody =>
    rw [walk_last hbody]
    simp
  | case4 a hbody b l ih =>
    rw [walk_skip hbody]
    exact (ih.cons_cons _).cons _

end SkippingSweep
