/-
Items that come one after the other with the key of their group.
-/
import Mathlib.Data.List.Nodup

/-- Groups `γ` of items `ι` with keys `κ`. A group that an item is added to has its key. -/
structure Regroup (γ κ ι : Type*) where
  key : γ → Option κ
  add : γ → κ → ι → γ
  fresh : γ
  key_add : ∀ g k i, key (add g k i) = some k

namespace Regroup

open List

variable {γ κ ι : Type*} (R : Regroup γ κ ι)

def addAll (g : γ) (k : κ) (items : List ι) : γ := items.foldl (fun g i => R.add g k i) g

variable {g : γ} {k : κ}

lemma key_addAll (h : R.key g = some k) (items : List ι) :
    R.key (R.addAll g k items) = some k := by
  induction items generalizing g with
  | nil => exact h
  | cons i items ih => exact ih (R.key_add g k i)

variable [DecidableEq κ]

def takes (g : γ) (k : κ) : Bool := R.key g = none || R.key g = some k

def insert (groups : List γ) (k : κ) (i : ι) : List γ :=
  match groups with
  | [] => [R.add R.fresh k i]
  | g :: groups => if R.takes g k then R.add g k i :: groups else g :: insert groups k i

def insertAll (groups : List γ) (items : List (κ × ι)) : List γ :=
  items.foldl (fun groups item => R.insert groups item.1 item.2) groups

def label (groups : List (κ × List ι)) : List (κ × ι) :=
  groups.flatMap (fun group => group.2.map (fun i => (group.1, i)))

def Apart (groups : List γ) (k : κ) : Prop := ∀ g ∈ groups, R.takes g k = false

variable {R}

lemma insertAll_append (groups : List γ) (items more : List (κ × ι)) :
    R.insertAll groups (items ++ more) = R.insertAll (R.insertAll groups items) more :=
  foldl_append

variable {k' : κ}

lemma takes_of_key (h : R.key g = some k') :
    R.takes g k = decide (k' = k) := by
  rw [takes, h]
  simp

variable {groups : List γ}

section

variable (h : R.Apart groups k)
include h

lemma insert_at (hg : R.takes g k = true) (rest : List γ) (i : ι) :
    R.insert (groups ++ g :: rest) k i = groups ++ R.add g k i :: rest := by
  induction groups with
  | nil => rw [nil_append, insert, if_pos hg, nil_append]
  | cons g' groups ih =>
    obtain ⟨hfirst, hrest⟩ := forall_mem_cons.mp h
    rw [cons_append, insert, hfirst, if_neg Bool.false_ne_true, ih hrest, cons_append]

lemma insert_new (i : ι) : R.insert groups k i = groups ++ [R.add R.fresh k i] := by
  induction groups with
  | nil => rfl
  | cons g' groups ih =>
    obtain ⟨hfirst, hrest⟩ := forall_mem_cons.mp h
    rw [insert, hfirst, if_neg Bool.false_ne_true, ih hrest, cons_append]

lemma insertAll_same (hg : R.takes g k = true) (items : List ι) :
    R.insertAll (groups ++ [g]) (items.map (fun i => (k, i))) = groups ++ [R.addAll g k items] := by
  induction items generalizing g with
  | nil => rfl
  | cons i items ih =>
    rw [map_cons, insertAll, foldl_cons, insert_at h hg]
    refine ih ?_
    rw [takes_of_key (R.key_add g k i), decide_eq_true_iff]

lemma insertAll_new {items : List ι} (hne : items ≠ []) :
    R.insertAll groups (items.map (fun i => (k, i))) = groups ++ [R.addAll R.fresh k items] := by
  obtain ⟨i, items, rfl⟩ := exists_cons_of_ne_nil hne
  rw [map_cons, insertAll, foldl_cons, insert_new h]
  refine insertAll_same h ?_ items
  rw [takes_of_key (R.key_add R.fresh k i), decide_eq_true_iff]

lemma apart_append (hk : k' ≠ k) (g : γ) {items : List ι} (hne : items ≠ []) :
    R.Apart (groups ++ [R.addAll g k' items]) k := by
  obtain ⟨i, items, rfl⟩ := exists_cons_of_ne_nil hne
  intro g' hg'
  rcases mem_append.mp hg' with hold | hnew
  · exact h g' hold
  have hkey : R.key (R.addAll g k' (i :: items)) = some k' :=
    R.key_addAll (R.key_add g k' i) items
  rw [mem_singleton.mp hnew, takes_of_key hkey, decide_eq_false_iff_not]
  exact hk

end

lemma insertAll_groups {out : List γ} {groups : List (κ × List ι)}
    (hne : ∀ group ∈ groups, group.2 ≠ []) (hkeys : (groups.map Prod.fst).Nodup)
    (hout : ∀ group ∈ groups, R.Apart out group.1) :
    R.insertAll out (label groups)
      = out ++ groups.map (fun group => R.addAll R.fresh group.1 group.2) := by
  induction groups generalizing out with
  | nil => exact (append_nil out).symm
  | cons group groups ih =>
    obtain ⟨hfirst, hrest⟩ := forall_mem_cons.mp hne
    obtain ⟨hapart, hothers⟩ := forall_mem_cons.mp hout
    rw [map_cons, nodup_cons] at hkeys
    have hlabel : label (group :: groups)
        = group.2.map (fun i => (group.1, i)) ++ label groups := flatMap_cons
    rw [hlabel, insertAll_append, insertAll_new hapart hfirst, ih hrest hkeys.2, map_cons,
      append_assoc, singleton_append]
    intro group' hgroup'
    refine apart_append (hothers group' hgroup') ?_ R.fresh hfirst
    intro hsame
    exact hkeys.1 (hsame ▸ mem_map_of_mem hgroup')

lemma insertAll_first {root : γ} (hroot : R.key root = none) {group : κ × List ι}
    {groups : List (κ × List ι)} (hne : ∀ other ∈ group :: groups, other.2 ≠ [])
    (hkeys : ((group :: groups).map Prod.fst).Nodup) :
    R.insertAll [root] (label (group :: groups)) = R.addAll root group.1 group.2
          :: groups.map (fun group => R.addAll R.fresh group.1 group.2) := by
  obtain ⟨hfirst, hrest⟩ := forall_mem_cons.mp hne
  rw [map_cons, nodup_cons] at hkeys
  have hlabel : label (group :: groups)
      = group.2.map (fun i => (group.1, i)) ++ label groups := flatMap_cons
  have htakes : R.takes root group.1 = true := by rw [takes, hroot]; rfl
  have hnone : R.Apart ([] : List γ) group.1 := forall_mem_nil _
  have hstart := insertAll_same hnone htakes group.2
  rw [nil_append, nil_append] at hstart
  rw [hlabel, insertAll_append, hstart, insertAll_groups hrest hkeys.2, singleton_append]
  intro group' hgroup'
  have hother : group.1 ≠ group'.1 := fun hsame => hkeys.1 (hsame ▸ mem_map_of_mem hgroup')
  have hnothing : R.Apart ([] : List γ) group'.1 := forall_mem_nil _
  exact apart_append hnothing hother root hfirst

/-! ## Items in any order -/

def itemsOf (seen : List (κ × ι)) (k : κ) : List ι :=
  (seen.filter (fun item => decide (item.1 = k))).map Prod.snd

lemma itemsOf_append (seen : List (κ × ι)) (k : κ) (item : κ × ι) :
    itemsOf (seen ++ [item]) k = itemsOf seen k ++ (if item.1 = k then [item.2] else []) := by
  by_cases hk : item.1 = k
  · simp [itemsOf, hk]
  · simp [itemsOf, hk]

/-- **Groups that hold what came**: the keys differ, each group has the items of its key, and
each item has a group. A group without a key is the only one, and nothing came yet. -/
structure Exact (R : Regroup γ κ ι) (held : γ → List ι) (groups : List γ)
    (seen : List (κ × ι)) : Prop where
  distinct : (groups.map R.key).Nodup
  keyless : ∀ g ∈ groups, R.key g = none → groups = [g] ∧ held g = [] ∧ seen = []
  held : ∀ g ∈ groups, ∀ k, R.key g = some k → held g = itemsOf seen k
  found : ∀ item ∈ seen, some item.1 ∈ groups.map R.key

variable {held : γ → List ι}

variable {seen : List (κ × ι)}

lemma Exact.itemsOf_nil (h : Exact R held groups seen)
    (hk : some k ∉ groups.map R.key) : itemsOf seen k = [] := by
  rw [itemsOf, map_eq_nil_iff, filter_eq_nil_iff]
  intro item hitem hkey
  rw [decide_eq_true_iff] at hkey
  exact hk (hkey ▸ h.found item hitem)

lemma apart_of_keys (hkeyed : ∀ g ∈ groups, R.key g ≠ none)
    (hk : some k ∉ groups.map R.key) : R.Apart groups k := by
  intro g hg
  rw [takes, Bool.or_eq_false_iff, decide_eq_false_iff_not, decide_eq_false_iff_not]
  exact ⟨hkeyed g hg, fun hkey => hk (hkey ▸ mem_map_of_mem hg)⟩

lemma Exact.held_other (h : Exact R held groups seen) (hg : g ∈ groups) (hkey : R.key g = some k')
    (hne : k ≠ k') (i : ι) :
    held g = itemsOf (seen ++ [(k, i)]) k' := by
  rw [itemsOf_append, if_neg hne, append_nil]
  exact h.held g hg k' hkey

section

variable (h : Exact R held groups seen) (hadd : ∀ g k i, held (R.add g k i) = held g ++ [i])
  (hfresh : held R.fresh = [])
include h hadd hfresh

lemma Exact.insert (k : κ) (i : ι) : Exact R held (R.insert groups k i) (seen ++ [(k, i)]) := by
  by_cases hkeyed : ∀ g ∈ groups, R.key g ≠ none
  · by_cases hk : some k ∈ groups.map R.key
    · -- The key has a group, and those before it are apart.
      obtain ⟨g, hg, hkey⟩ := mem_map.mp hk
      obtain ⟨before, behind, rfl⟩ := append_of_mem hg
      have hdistinct := h.distinct
      rw [map_append, map_cons, hkey, nodup_middle, nodup_cons, mem_append, not_or] at hdistinct
      obtain ⟨⟨hbefore, hbehind⟩, -⟩ := hdistinct
      have hapart : R.Apart before k :=
        apart_of_keys (fun g' hg' => hkeyed g' (mem_append_left _ hg')) hbefore
      have htakes : R.takes g k = true := by
        rw [takes_of_key hkey, decide_eq_true_iff]
      have hkeys : (before ++ R.add g k i :: behind).map R.key
          = (before ++ g :: behind).map R.key := by
        simp [R.key_add, hkey]
      have hothers : ∀ g' ∈ before ++ behind, g' ∈ before ++ g :: behind ∧ R.key g' ≠ some k := by
        intro g' hg'
        rcases mem_append.mp hg' with hg' | hg'
        · exact ⟨mem_append_left _ hg', fun he => hbefore (he ▸ mem_map_of_mem hg')⟩
        exact ⟨mem_append_right _ (mem_cons_of_mem g hg'),
          fun he => hbehind (he ▸ mem_map_of_mem hg')⟩
      have hcases : ∀ g' ∈ before ++ R.add g k i :: behind,
          g' = R.add g k i ∨ g' ∈ before ++ behind := by
        intro g' hg'
        simp only [mem_append, mem_cons] at hg' ⊢
        tauto
      rw [insert_at hapart htakes]
      refine ⟨by rw [hkeys]; exact h.distinct, ?_, ?_, ?_⟩
      · intro g' hg' hnone
        rcases hcases g' hg' with rfl | hg'
        · rw [R.key_add] at hnone
          simp at hnone
        · exact absurd hnone (hkeyed g' (hothers g' hg').1)
      · intro g' hg' k' hkey'
        rcases hcases g' hg' with rfl | hg'
        · rw [R.key_add, Option.some.injEq] at hkey'
          rw [hadd, itemsOf_append, if_pos hkey', h.held g hg k' (hkey.trans (congrArg _ hkey'))]
        obtain ⟨hmem, hother⟩ := hothers g' hg'
        exact h.held_other hmem hkey' (fun he => hother (hkey'.trans (congrArg some he.symm))) i
      · intro item hitem
        rw [hkeys]
        rcases mem_append.mp hitem with hitem | hitem
        · exact h.found item hitem
        rw [mem_singleton.mp hitem]
        exact hk
    · -- The key is new: its group is made at the end.
      rw [insert_new (apart_of_keys hkeyed hk)]
      refine ⟨?_, ?_, ?_, ?_⟩
      · rw [map_append, map_singleton, R.key_add, nodup_append_comm, singleton_append, nodup_cons]
        exact ⟨hk, h.distinct⟩
      · intro g hg hnone
        rcases mem_append.mp hg with hg | hg
        · exact absurd hnone (hkeyed g hg)
        rw [mem_singleton.mp hg, R.key_add] at hnone
        simp at hnone
      · intro g hg k' hkey
        rcases mem_append.mp hg with hg | hg
        · have hold : some k' ∈ groups.map R.key := hkey ▸ mem_map_of_mem hg
          have hother : k ≠ k' := by
            rintro rfl
            exact hk hold
          exact h.held_other hg hkey hother i
        rw [mem_singleton.mp hg, R.key_add, Option.some.injEq] at hkey
        rw [mem_singleton.mp hg, hadd, hfresh, ← hkey, itemsOf_append, if_pos rfl, h.itemsOf_nil hk]
      · intro item hitem
        rw [map_append, map_singleton, R.key_add]
        rcases mem_append.mp hitem with hitem | hitem
        · exact mem_append_left _ (h.found item hitem)
        rw [mem_singleton.mp hitem]
        exact mem_append_right _ (mem_singleton_self _)
  · -- The group without a key is alone and takes the item.
    obtain ⟨g, hg⟩ := not_forall.mp hkeyed
    obtain ⟨hmem, hnone⟩ := Classical.not_imp.mp hg
    rw [not_not] at hnone
    obtain ⟨rfl, hempty, rfl⟩ := h.keyless g hmem hnone
    have htakes : R.takes g k = true := by simp [takes, hnone]
    have hone : R.insert [g] k i = [R.add g k i] := insert_at (forall_mem_nil _) htakes [] i
    rw [hone]
    refine ⟨by simp, ?_, ?_, ?_⟩
    · intro g' hg' hnone'
      rw [mem_singleton.mp hg', R.key_add] at hnone'
      simp at hnone'
    · intro g' hg' k' hkey
      rw [mem_singleton.mp hg', R.key_add, Option.some.injEq] at hkey
      rw [mem_singleton.mp hg', hadd, hempty, ← hkey, itemsOf_append, if_pos rfl]
      rfl
    · intro item hitem
      rw [mem_singleton.mp hitem]
      simp [R.key_add]

lemma Exact.insertAll
    (items : List (κ × ι)) : Exact R held (R.insertAll groups items) (seen ++ items) := by
  induction items generalizing groups seen with
  | nil => rwa [append_nil]
  | cons item items ih =>
    have hnext := ih (h.insert hadd hfresh item.1 item.2)
    rwa [append_assoc, singleton_append] at hnext

end

lemma exact_start (h : groups = [] ∨ ∃ g, groups = [g] ∧ R.key g = none ∧ held g = []) :
    Exact R held groups [] := by
  rcases h with rfl | ⟨g, rfl, hkey, hempty⟩
  · exact ⟨nodup_nil, forall_mem_nil _, forall_mem_nil _, forall_mem_nil _⟩
  refine ⟨nodup_singleton _, ?_, ?_, forall_mem_nil _⟩
  · intro g' hg' _
    rw [mem_singleton.mp hg']
    exact ⟨rfl, hempty, rfl⟩
  · intro g' hg' k hk
    rw [mem_singleton.mp hg', hkey] at hk
    exact absurd hk.symm (Option.some_ne_none k)

section

variable (hadd : ∀ g k i, held (R.add g k i) = held g ++ [i]) (hfresh : held R.fresh = [])
  (groups : List γ)
include hadd hfresh

lemma flatMap_insert (k : κ) (i : ι) :
    ((R.insert groups k i).flatMap held).Perm (groups.flatMap held ++ [i]) := by
  induction groups with
  | nil => simp [Regroup.insert, hadd, hfresh]
  | cons g groups ih =>
    rw [Regroup.insert]
    by_cases htakes : R.takes g k = true
    · rw [if_pos htakes, flatMap_cons, flatMap_cons, hadd, append_assoc, append_assoc]
      exact List.Perm.append_left _ perm_append_comm
    rw [if_neg htakes, flatMap_cons, flatMap_cons, append_assoc]
    exact List.Perm.append_left _ ih

lemma flatMap_insertAll (items : List (κ × ι)) :
    ((R.insertAll groups items).flatMap held).Perm (groups.flatMap held ++ items.map Prod.snd) := by
  induction items generalizing groups with
  | nil => rw [map_nil, append_nil]; exact List.Perm.refl _
  | cons item items ih =>
    refine (ih (R.insert groups item.1 item.2)).trans ?_
    have hone := flatMap_insert hadd hfresh groups item.1 item.2
    rw [map_cons, ← singleton_append, ← append_assoc]
    exact hone.append_right _

end

lemma map_insert {γ' ι' : Type*} {R' : Regroup γ' κ ι'} (f : γ' → γ) (f' : ι' → ι)
    (hkey : ∀ g, R.key (f g) = R'.key g) (hadd : ∀ g k i, f (R'.add g k i) = R.add (f g) k (f' i))
    (hfresh : f R'.fresh = R.fresh) (groups : List γ') (k : κ) (i : ι') :
    (R'.insert groups k i).map f = R.insert (groups.map f) k (f' i) := by
  induction groups with
  | nil => rw [Regroup.insert, map_singleton, hadd, hfresh, map_nil, Regroup.insert]
  | cons g groups ih =>
    have htakes : R.takes (f g) k = R'.takes g k := by rw [takes, takes, hkey]
    rw [Regroup.insert, map_cons, Regroup.insert, htakes]
    by_cases hyes : R'.takes g k = true
    · simp [hyes, hadd]
    · rw [if_neg hyes, if_neg hyes, map_cons, ih]

end Regroup
