/-
A linked list searched with a saved pointer, as in
-/
import Mathlib.Data.List.Nodup

namespace Cursor

open List

variable {α κ σ : Type*} [DecidableEq κ] (key : α → κ)

/-- The part of the list after the node with address `a`; `begin` is what the
nodes looked at so far gave. -/
def resumeAt (a : κ) : List α → List α → List α
  | start, [] => start
  | start, n :: rest => resumeAt a (if key n = a then rest else start) rest

/-- The next node that satisfies `p`, after the saved one if there is one. -/
def next (p : α → Bool) (l : List α) (save : Option κ) : Option α :=
  match save with
  | none => l.find? p
  | some a => (resumeAt key a [] l).find? p

/-- The loop; `none` when the fuel runs out. -/
def search (p : α → Bool) (visit : α → σ → σ) (stop : σ → Bool) (l : List α) :
    Nat → Option κ → σ → Option σ
  | 0, _, _ => none
  | fuel + 1, save, s =>
    match next key p l save with
    | none => some s
    | some n =>
      if stop (visit n s) then some (visit n s)
      else search p visit stop l fuel (some (key n)) (visit n s)

def walk (visit : α → σ → σ) (stop : σ → Bool) : List α → σ → σ
  | [], s => s
  | n :: ns, s => if stop (visit n s) then visit n s else walk visit stop ns (visit n s)

variable {key}

lemma resumeAt_of_not_mem {a : κ} {l : List α} (h : a ∉ l.map key) (start : List α) :
    resumeAt key a start l = start := by
  induction l generalizing start with
  | nil => rfl
  | cons n rest ih =>
    rw [map_cons, mem_cons, not_or] at h
    rw [resumeAt, if_neg (h.1 ·.symm)]
    exact ih h.2 start

lemma resumeAt_middle {done todo : List α} {n : α}
    (hnodup : ((done ++ n :: todo).map key).Nodup) (start : List α) :
    resumeAt key (key n) start (done ++ n :: todo) = todo := by
  induction done generalizing start with
  | nil =>
    rw [nil_append, resumeAt, if_pos rfl]
    rw [nil_append, map_cons, nodup_cons] at hnodup
    exact resumeAt_of_not_mem hnodup.1 todo
  | cons m done ih =>
    rw [cons_append, map_cons, nodup_cons] at hnodup
    have hne : key m ≠ key n := by
      intro heq
      apply hnodup.1
      rw [heq]
      simp
    rw [cons_append, resumeAt, if_neg hne]
    exact ih hnodup.2 start

variable (p : α → Bool) (visit : α → σ → σ) (stop : σ → Bool)

lemma search_from (l done todo : List α) (save : Option κ) (hl : l = done ++ todo)
    (hnodup : (l.map key).Nodup) (hnext : next key p l save = todo.find? p)
    (fuel : Nat) (hfuel : (todo.filter p).length < fuel) (s : σ) :
    search key p visit stop l fuel save s = some (walk visit stop (todo.filter p) s) := by
  induction fuel generalizing done todo save s with
  | zero => omega
  | succ fuel ih =>
    rw [search, hnext]
    cases hfind : todo.find? p with
    | none =>
      have hempty : todo.filter p = [] := by
        rw [filter_eq_nil_iff]
        exact find?_eq_none.mp hfind
      rw [hempty]
      rfl
    | some n =>
      obtain ⟨hn, pre, rest, htodo, hpre⟩ := find?_eq_some_iff_append.mp hfind
      -- the nodes passed over do not satisfy `p`
      have hskip : pre.filter p = [] := by
        rw [filter_eq_nil_iff]
        intro m hm
        have hno := hpre m hm
        rw [Bool.not_eq_true'] at hno
        rw [hno]
        exact Bool.false_ne_true
      have hfilter : todo.filter p = n :: rest.filter p := by
        rw [htodo, filter_append, hskip, nil_append, filter_cons_of_pos hn]
      have hl' : l = (done ++ pre) ++ n :: rest := by
        rw [hl, htodo, append_assoc]
      rw [hfilter, walk]
      rw [hfilter, length_cons] at hfuel
      dsimp only
      split
      · rfl
      apply ih (done ++ pre ++ [n]) rest
      · rw [hl', append_assoc (done ++ pre), singleton_append]
      · rw [next, hl', resumeAt_middle (by rw [← hl']; exact hnodup)]
      · omega

lemma search_eq_walk (l : List α) (hnodup : (l.map key).Nodup) (fuel : Nat)
    (hfuel : (l.filter p).length < fuel) (s : σ) :
    search key p visit stop l fuel none s = some (walk visit stop (l.filter p) s) :=
  search_from p visit stop l [] l none rfl hnodup rfl fuel hfuel s

lemma stop_walk (effect : α → σ) (l : List α) (s : σ) (hs : stop s = false) :
    stop (walk (fun n _ => effect n) stop l s) = true ↔ ∃ n ∈ l, stop (effect n) = true := by
  induction l generalizing s with
  | nil =>
    rw [walk, hs]
    simp
  | cons n l ih =>
    rw [walk]
    by_cases hn : stop (effect n) = true
    · rw [if_pos hn]
      exact iff_of_true hn ⟨n, mem_cons_self, hn⟩
    rw [if_neg hn, ih (effect n) (Bool.not_eq_true _ ▸ hn)]
    simp [hn]

end Cursor
