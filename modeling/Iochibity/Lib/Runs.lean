/-
Runs of a deterministic machine that also writes a log.
-/
import Mathlib.Data.List.Basic
import Mathlib.Order.Basic
import Mathlib.Algebra.Order.Ring.Nat
import Mathlib.Logic.Relation

namespace Runs

variable {σ ι ε τ δ : Type*}

def run (step : σ → ι → σ × List ε) (s : σ) : List ι → σ × List ε
  | [] => (s, [])
  | i :: is =>
    let r := step s i
    let q := run step r.1 is
    (q.1, r.2 ++ q.2)

section Basic

variable (step : σ → ι → σ × List ε)

@[simp] lemma run_nil (s : σ) : run step s [] = (s, []) := rfl

lemma run_cons (s : σ) (i : ι) (is : List ι) :
    run step s (i :: is)
      = ((run step (step s i).1 is).1, (step s i).2 ++ (run step (step s i).1 is).2) := rfl

lemma run_append (s : σ) (is js : List ι) :
    run step s (is ++ js)
      = ((run step (run step s is).1 js).1,
          (run step s is).2 ++ (run step (run step s is).1 js).2) := by
  induction is generalizing s with
  | nil => rfl
  | cons i is ih => rw [List.cons_append, run_cons, ih, run_cons, List.append_assoc]

end Basic

section Rules

variable {step : σ → ι → σ × List ε}

variable {s : σ} {is : List ι}

lemma run_inv (Inv : σ → Prop) (Ok : ι → Prop) (hstep : ∀ s i, Ok i → Inv s → Inv (step s i).1)
    (hs : Inv s) (his : ∀ i ∈ is, Ok i) : Inv (run step s is).1 := by
  induction is generalizing s with
  | nil => exact hs
  | cons i is ih =>
    rw [run_cons]
    exact ih (hstep s i (his i List.mem_cons_self) hs)
      (fun j hj => his j (List.mem_cons_of_mem _ hj))

lemma run_hist (Inv : σ → List ε → Prop) (Ok : ι → Prop)
    (hstep : ∀ s i log, Ok i → Inv s log → Inv (step s i).1 (log ++ (step s i).2)) {log : List ε}
    (hs : Inv s log) (his : ∀ i ∈ is, Ok i) :
    Inv (run step s is).1 (log ++ (run step s is).2) := by
  induction is generalizing s log with
  | nil =>
    rw [run_nil, List.append_nil]
    exact hs
  | cons i is ih =>
    have hnext := ih (hstep s i log (his i List.mem_cons_self) hs)
      (fun j hj => his j (List.mem_cons_of_mem _ hj))
    rw [List.append_assoc] at hnext
    rw [run_cons]
    exact hnext

lemma run_log (Inv : σ → Prop) (Ok : ι → Prop) {Q : ε → Prop}
    (hstep : ∀ s i, Ok i → Inv s → Inv (step s i).1 ∧ ∀ e ∈ (step s i).2, Q e) (hs : Inv s)
    (his : ∀ i ∈ is, Ok i) :
    ∀ e ∈ (run step s is).2, Q e := by
  induction is generalizing s with
  | nil => intro e he; cases he
  | cons i is ih =>
    intro e he
    obtain ⟨hinv, hlog⟩ := hstep s i (his i List.mem_cons_self) hs
    rw [run_cons, List.mem_append] at he
    rcases he with he | he
    · exact hlog e he
    · exact ih hinv (fun j hj => his j (List.mem_cons_of_mem _ hj)) e he

/-- **Simulation rule.** When a relation `R` is kept by matching steps, and the observable part of a
concrete step's events is the abstract step's log, the same holds of whole runs. -/
lemma run_sim {astep : τ → ι → τ × List δ} {obs : ε → Option δ} {R : σ → τ → Prop} {Ok : ι → Prop}
    (hstep : ∀ s t i, Ok i → R s t →
      R (step s i).1 (astep t i).1 ∧ (step s i).2.filterMap obs = (astep t i).2) {t : τ}
    (hst : R s t) (his : ∀ i ∈ is, Ok i) :
    R (run step s is).1 (run astep t is).1
      ∧ (run step s is).2.filterMap obs = (run astep t is).2 := by
  induction is generalizing s t with
  | nil => exact ⟨hst, rfl⟩
  | cons i is ih =>
    obtain ⟨hR, hobs⟩ := hstep s t i (his i List.mem_cons_self) hst
    obtain ⟨hR', hobs'⟩ := ih hR (fun j hj => his j (List.mem_cons_of_mem _ hj))
    rw [run_cons, run_cons]
    refine ⟨hR', ?_⟩
    simp [hobs, hobs']

/-- Every step of the run, together with the state it starts from, satisfies
`P`. -/
def Along (step : σ → ι → σ × List ε) (P : σ → ι → Prop) : σ → List ι → Prop
  | _, [] => True
  | s, i :: is => P s i ∧ Along step P (step s i).1 is

instance decidableAlong (step : σ → ι → σ × List ε) (P : σ → ι → Prop)
    [∀ s i, Decidable (P s i)] : ∀ s is, Decidable (Along step P s is)
  | _, [] => isTrue trivial
  | s, i :: is =>
    have := decidableAlong step P (step s i).1 is
    inferInstanceAs (Decidable (P s i ∧ Along step P (step s i).1 is))

lemma along_true (s : σ) (is : List ι) : Along step (fun _ _ => True) s is := by
  induction is generalizing s with
  | nil => exact trivial
  | cons i is ih => exact ⟨trivial, ih _⟩

variable {F P : σ → ι → Prop}

lemma along_iff (Inv : σ → Prop) {Q : σ → ι → Prop}
    (hstep : ∀ s i, Inv s → F s i → (P s i ↔ Q s i) ∧ (Q s i → Inv (step s i).1)) (hs : Inv s)
    (his : Along step F s is) :
    Along step P s is ↔ Along step Q s is := by
  induction is generalizing s with
  | nil => exact Iff.rfl
  | cons i is ih =>
    obtain ⟨hiff, hinv⟩ := hstep s i hs his.1
    unfold Along
    rw [hiff]
    exact and_congr_right (fun hq => ih (hinv hq) his.2)

lemma along_of (Inv : σ → Prop) (hstep : ∀ s i, Inv s → F s i → P s i ∧ Inv (step s i).1)
    (hs : Inv s) (his : Along step F s is) : Along step P s is := by
  induction is generalizing s with
  | nil => exact trivial
  | cons i is ih =>
    obtain ⟨hgood, hinv⟩ := hstep s i hs his.1
    exact ⟨hgood, ih hinv his.2⟩

lemma run_hist_of (Inv : σ → List ε → Prop)
    (hstep : ∀ s i log, Inv s log → F s i → Inv (step s i).1 (log ++ (step s i).2)) {log : List ε}
    (hs : Inv s log) (his : Along step F s is) :
    Inv (run step s is).1 (log ++ (run step s is).2) := by
  induction is generalizing s log with
  | nil =>
    rw [run_nil, List.append_nil]
    exact hs
  | cons i is ih =>
    have hnext := ih (hstep s i log hs his.1) his.2
    rw [List.append_assoc] at hnext
    rw [run_cons]
    exact hnext

/-- **Exact log rule.** If, under the invariant, a step raises only good events exactly when `P`
holds of it, and `P` keeps the invariant, then a run raises only good events exactly when `P` holds
all along it. -/
lemma run_log_iff (Inv : σ → Prop) {Q : ε → Prop} (hstep : ∀ s i, Inv s →
      ((∀ e ∈ (step s i).2, Q e) ↔ P s i) ∧ (P s i → Inv (step s i).1)) (hs : Inv s) (is : List ι) :
    (∀ e ∈ (run step s is).2, Q e) ↔ Along step P s is := by
  induction is generalizing s with
  | nil =>
    refine iff_of_true ?_ trivial
    intro e he
    cases he
  | cons i is ih =>
    obtain ⟨hlog, hinv⟩ := hstep s i hs
    rw [run_cons, Along, ← hlog]
    constructor
    · intro h
      have hfirst : ∀ e ∈ (step s i).2, Q e := fun e he => h e (List.mem_append_left _ he)
      refine ⟨hfirst, (ih (hinv (hlog.mp hfirst))).mp ?_⟩
      exact fun e he => h e (List.mem_append_right _ he)
    · rintro ⟨hfirst, hrest⟩ e he
      rcases List.mem_append.mp he with he | he
      · exact hfirst e he
      · exact (ih (hinv (hlog.mp hfirst))).mpr hrest e he

end Rules

end Runs

namespace Freshness

variable {α ε : Type*} [Preorder α] [DecidableLT α] (key : ε → α)

def letPass (last : α) (item : ε) : α × List ε :=
  if last < key item then (key item, [item]) else (last, [])

variable (last : α) (items : List ε)

lemma admitted_increasing :
    (∀ item ∈ (Runs.run (letPass key) last items).2, last < key item)
      ∧ (Runs.run (letPass key) last items).2.Pairwise (fun a b => key a < key b) := by
  induction items generalizing last with
  | nil => exact ⟨nofun, List.Pairwise.nil⟩
  | cons item items ih =>
    rw [Runs.run_cons, letPass]
    by_cases hnewer : last < key item
    · rw [if_pos hnewer, List.singleton_append]
      obtain ⟨habove, hsorted⟩ := ih (key item)
      refine ⟨?_, List.pairwise_cons.mpr ⟨habove, hsorted⟩⟩
      intro out hout
      rcases List.mem_cons.mp hout with rfl | hrest
      · exact hnewer
      · exact lt_trans hnewer (habove out hrest)
    rw [if_neg hnewer, List.nil_append]
    exact ih last

lemma admitted_length_le : (Runs.run (letPass key) last items).2.length ≤ items.length := by
  induction items generalizing last with
  | nil => exact Nat.le_refl _
  | cons item items ih =>
    rw [Runs.run_cons, letPass, List.length_cons]
    by_cases hnewer : last < key item
    · rw [if_pos hnewer, List.singleton_append, List.length_cons]
      exact Nat.succ_le_succ (ih _)
    rw [if_neg hnewer, List.nil_append]
    exact Nat.le_succ_of_le (ih _)

lemma admitted_all_iff :
    (Runs.run (letPass key) last items).2 = items
      ↔ List.IsChain (· < ·) (last :: items.map key) := by
  induction items generalizing last with
  | nil => simp
  | cons item items ih =>
    rw [Runs.run_cons, letPass, List.map_cons, List.isChain_cons_cons]
    by_cases hnewer : last < key item
    · rw [if_pos hnewer, List.singleton_append, List.cons.injEq]
      rw [and_iff_right rfl, and_iff_right hnewer]
      exact ih (key item)
    rw [if_neg hnewer, List.nil_append]
    refine iff_of_false ?_ (hnewer ·.1)
    intro hall
    have hle := admitted_length_le key last items
    rw [hall, List.length_cons] at hle
    omega

end Freshness

namespace Collector

variable {κ α : Type*}

structure Collection (α : Type*) where
  missing : ℕ
  answers : List α

abbrev Collections (κ α : Type*) := κ → Option (Collection α)

variable [DecidableEq κ]

def openNew (collections : Collections κ α) (key : κ) (missing : ℕ) : Collections κ α :=
  Function.update collections key (some ⟨missing, []⟩)

def collect (collections : Collections κ α) (answer : κ × α) :
    Collections κ α × List (κ × List α) :=
  match collections answer.1 with
  | none => (collections, [])
  | some collection =>
    if collection.missing ≤ 1 then
      (Function.update collections answer.1 none, [(answer.1, collection.answers ++ [answer.2])])
    else
      (Function.update collections answer.1
        (some ⟨collection.missing - 1, collection.answers ++ [answer.2]⟩), [])

lemma run_collect_last {collections : Collections κ α} {key : κ} {before : List α}
    (answers : List α) (last : α) (hopen : collections key = some ⟨answers.length + 1, before⟩) :
    Runs.run collect collections ((answers ++ [last]).map (Prod.mk key))
      = (Function.update collections key none, [(key, before ++ (answers ++ [last]))]) := by
  induction answers generalizing collections before with
  | nil =>
    rw [List.nil_append, List.map_singleton, Runs.run_cons, Runs.run_nil, collect, hopen]
    rfl
  | cons answer answers ih =>
    have hmore : ¬ answers.length + 1 + 1 ≤ 1 := by omega
    have hcollect : collect collections (key, answer)
        = (Function.update collections key
            (some ⟨answers.length + 1, before ++ [answer]⟩), []) := by
      rw [collect, hopen]
      exact if_neg hmore
    rw [List.cons_append, List.map_cons, Runs.run_cons, hcollect, ih (Function.update_self _ _ _),
      Function.update_idem, List.nil_append, List.append_assoc, List.singleton_append]

lemma run_collect_all {collections : Collections κ α} {key : κ} {answers : List α}
    (hsome : answers ≠ []) :
    Runs.run collect (openNew collections key answers.length) (answers.map (Prod.mk key))
      = (Function.update collections key none, [(key, answers)]) := by
  obtain ⟨first, last, rfl⟩ : ∃ first last, answers = first ++ [last] :=
    ⟨_, _, (List.dropLast_append_getLast hsome).symm⟩
  have hopen : openNew collections key (first ++ [last]).length key
      = some ⟨first.length + 1, []⟩ := by
    rw [openNew, Function.update_self, List.length_append, List.length_singleton]
  rw [run_collect_last first last hopen, openNew, Function.update_idem, List.nil_append]

end Collector

namespace Attempts

variable {σ : Type}

def attempt : List (σ → Bool × σ) → σ → Bool × σ
  | [], s => (true, s)
  | step :: rest, s => if (step s).1 then attempt rest (step s).2 else (false, (step s).2)

@[simp] lemma attempt_nil (s : σ) : attempt [] s = (true, s) := rfl

lemma attempt_cons_of_ok {step : σ → Bool × σ} {s s' : σ} (h : step s = (true, s'))
    (rest : List (σ → Bool × σ)) : attempt (step :: rest) s = attempt rest s' := by
  rw [attempt, h, if_pos rfl]

lemma attempt_cons_ok {step : σ → Bool × σ} {rest : List (σ → Bool × σ)} {s t : σ} :
    attempt (step :: rest) s = (true, t)
      ↔ ∃ s', step s = (true, s') ∧ attempt rest s' = (true, t) := by
  rcases hstep : step s with ⟨ok, s'⟩
  rw [attempt, hstep]
  cases ok with
  | false =>
    constructor
    · intro h
      cases h
    · rintro ⟨s'', h, -⟩
      cases h
  | true =>
    constructor
    · intro h
      exact ⟨s', rfl, h⟩
    · rintro ⟨s'', h, hrest⟩
      cases h
      exact hrest

lemma attempt_inv {P : σ → Prop} {steps : List (σ → Bool × σ)}
    (hsteps : ∀ step ∈ steps, ∀ s, P s → P (step s).2) {s : σ} (hs : P s) :
    P (attempt steps s).2 := by
  induction steps generalizing s with
  | nil => exact hs
  | cons step rest ih =>
    have hfirst := hsteps step List.mem_cons_self s hs
    rw [attempt]
    split
    · exact ih (fun step' hmem => hsteps step' (List.mem_cons_of_mem _ hmem)) hfirst
    · exact hfirst

end Attempts

namespace Completion

open Relation

variable {σ : Type*} {R : σ → σ → Prop}

/-- Every run from `s` stays in `Safe`, is finite and ends in `Done`. -/
structure Completes (R : σ → σ → Prop) (Safe Done : σ → Prop) (s : σ) : Prop where
  safe : ∀ s', ReflTransGen R s s' → Safe s'
  finite : Acc (fun a b => R b a) s
  done : ∀ s', ReflTransGen R s s' → (∀ s'', ¬ R s' s'') → Done s'

section Ranked

variable {Inv : Nat → σ → Prop} (hstep : ∀ n s s', Inv n s → R s s' → ∃ m, m < n ∧ Inv m s')
include hstep

lemma reachable_of_ranked {n : Nat} {s s' : σ} (hs : Inv n s) (hreach : ReflTransGen R s s') :
    ∃ m, Inv m s' := by
  induction hreach with
  | refl => exact ⟨n, hs⟩
  | tail _ hR ih =>
    obtain ⟨m, hm⟩ := ih
    obtain ⟨m', -, hm'⟩ := hstep m _ _ hm hR
    exact ⟨m', hm'⟩

lemma acc_of_ranked {n : Nat} {s : σ} (hs : Inv n s) : Acc (fun a b => R b a) s := by
  induction n using Nat.strongRecOn generalizing s with
  | ind n ih =>
    refine Acc.intro s ?_
    intro s' hR
    obtain ⟨m, hmn, hm⟩ := hstep n s s' hs hR
    exact ih m hmn hm

end Ranked

lemma completes_of_ranked (Inv : Nat → σ → Prop)
    (hstep : ∀ n s s', Inv n s → R s s' → ∃ m, m < n ∧ Inv m s') {Safe Done : σ → Prop}
    (hsafe : ∀ n s, Inv n s → Safe s)
    (hdone : ∀ n s, Inv n s → (∀ s', ¬ R s s') → Done s) {n : Nat} {s : σ} (hs : Inv n s) :
    Completes R Safe Done s := by
  refine ⟨?_, acc_of_ranked hstep hs, ?_⟩
  · intro s' hreach
    obtain ⟨m, hm⟩ := reachable_of_ranked hstep hs hreach
    exact hsafe m s' hm
  · intro s' hreach hstuck
    obtain ⟨m, hm⟩ := reachable_of_ranked hstep hs hreach
    exact hdone m s' hm hstuck

end Completion
