/-
Binary trees as they lie in memory: every node has the links to its children and to its parent, and
the tree has a link to its root.
-/
import Mathlib.Data.List.Nodup
import Mathlib.Data.Tree.Basic

namespace LinkedTree

open List
open Option (some.inj)

section

variable {ν κ : Type*}

def nodes : BinaryTree ν → List ν
  | .nil => []
  | .node x l r => nodes l ++ x :: nodes r

def top : BinaryTree ν → Option ν
  | .nil => none
  | .node x _ _ => some x

@[simp] lemma nodes_nil : nodes (.nil : BinaryTree ν) = [] := rfl

variable {x : ν}

lemma mem_nodes_node {y : ν} {l r : BinaryTree ν} :
    y ∈ nodes (.node x l r) ↔ y = x ∨ y ∈ nodes l ∨ y ∈ nodes r := by
  rw [nodes, mem_append, mem_cons]
  constructor
  · rintro (h | h | h)
    · exact .inr (.inl h)
    · exact .inl h
    · exact .inr (.inr h)
  · rintro (h | h | h)
    · exact .inr (.inl h)
    · exact .inl h
    · exact .inr (.inr h)

lemma nodup_node {l r : BinaryTree ν} :
    (nodes (.node x l r)).Nodup ↔ (x ∉ nodes l ∧ x ∉ nodes r) ∧ (nodes l).Nodup ∧ (nodes r).Nodup
        ∧ ∀ y ∈ nodes l, y ∉ nodes r := by
  rw [nodes, nodup_middle, nodup_cons, mem_append, not_or, nodup_append]
  refine and_congr_right (fun _ => and_congr_right (fun _ => and_congr_right (fun _ => ?_)))
  constructor
  · exact fun h y hl hr => h y hl y hr rfl
  · exact fun h y hl z hr heq => h y hl (heq ▸ hr)

lemma nodes_map {f : ν → κ} (t : BinaryTree ν) : nodes (t.map f) = (nodes t).map f := by
  induction t with
  | nil => rfl
  | node x l r ihl ihr =>
    rw [BinaryTree.map, nodes, ihl, ihr, nodes, map_append, map_cons]

variable {t : BinaryTree ν}

lemma map_congr {f g : ν → κ} (h : ∀ x ∈ nodes t, f x = g x) :
    t.map f = t.map g := by
  induction t with
  | nil => rfl
  | node x l r ihl ihr =>
    rw [BinaryTree.map, BinaryTree.map, h x (mem_nodes_node.mpr (.inl rfl)),
      ihl (fun y hy => h y (mem_nodes_node.mpr (.inr (.inl hy)))),
      ihr (fun y hy => h y (mem_nodes_node.mpr (.inr (.inr hy))))]

def Sorted [Ord κ] : BinaryTree κ → Prop
  | .nil => True
  | .node x l r =>
    (∀ y ∈ nodes l, compare y x = .lt) ∧ (∀ y ∈ nodes r, compare y x = .gt) ∧ Sorted l ∧ Sorted r

/-! ## Links -/

structure Entry (ν : Type*) where
  left : Option ν
  right : Option ν
  parent : Option ν
  color : Bool

structure Rooted (ν : Type*) where
  root : Option ν
  entry : ν → Entry ν

def Hangs (entry : ν → Entry ν) : (parent link : Option ν) → BinaryTree ν → Prop
  | _, link, .nil => link = none
  | parent, link, .node x l r =>
    link = some x ∧ (entry x).parent = parent ∧ Hangs entry (some x) (entry x).left l
      ∧ Hangs entry (some x) (entry x).right r

structure IsTree (s : Rooted ν) (t : BinaryTree ν) : Prop where
  hangs : Hangs s.entry none s.root t
  nodup : (nodes t).Nodup

def colors (s : Rooted ν) (t : BinaryTree ν) : BinaryTree Bool := t.map (fun x => (s.entry x).color)

variable {entry : ν → Entry ν} {parent link : Option ν}

lemma Hangs.link_eq (h : Hangs entry parent link t) : link = top t := by
  cases t with
  | nil => exact h
  | node x l r => exact h.1

lemma Hangs.congr {entry' : ν → Entry ν} (h : Hangs entry parent link t)
    (hsame : ∀ x ∈ nodes t, entry' x = entry x) :
    Hangs entry' parent link t := by
  induction t generalizing parent link with
  | nil => exact h
  | node x l r ihl ihr =>
    obtain ⟨hlink, hparent, hl, hr⟩ := h
    have hx := hsame x (mem_nodes_node.mpr (.inl rfl))
    refine ⟨hlink, ?_, ?_, ?_⟩
    · rw [hx]
      exact hparent
    · rw [hx]
      exact ihl hl (fun y hy => hsame y (mem_nodes_node.mpr (.inr (.inl hy))))
    · rw [hx]
      exact ihr hr (fun y hy => hsame y (mem_nodes_node.mpr (.inr (.inr hy))))

lemma Hangs.unique {t' : BinaryTree ν} (h : Hangs entry parent link t)
    (h' : Hangs entry parent link t') : t = t' := by
  induction t generalizing parent link t' with
  | nil =>
    cases t' with
    | nil => rfl
    | node x' l' r' => exact absurd (h.symm.trans h'.1) (Option.some_ne_none x').symm
  | node x l r ihl ihr =>
    cases t' with
    | nil => exact absurd (h'.symm.trans h.1) (Option.some_ne_none x).symm
    | node x' l' r' =>
      obtain rfl := some.inj (h.1.symm.trans h'.1)
      rw [ihl h.2.2.1 h'.2.2.1, ihr h.2.2.2 h'.2.2.2]

lemma Hangs.parent_mem (h : Hangs entry parent link t) (hmem : x ∈ nodes t) :
    link = some x ∧ (entry x).parent = parent ∨ ∃ y ∈ nodes t, (entry x).parent = some y := by
  induction t generalizing parent link with
  | nil => simp at hmem
  | node y l r ihl ihr =>
    obtain ⟨hlink, hparent, hl, hr⟩ := h
    obtain rfl | hmem | hmem := mem_nodes_node.mp hmem
    · exact .inl ⟨hlink, hparent⟩
    · right
      obtain ⟨-, hup⟩ | ⟨z, hz, hup⟩ := ihl hl hmem
      · exact ⟨y, mem_nodes_node.mpr (.inl rfl), hup⟩
      · exact ⟨z, mem_nodes_node.mpr (.inr (.inl hz)), hup⟩
    · right
      obtain ⟨-, hup⟩ | ⟨z, hz, hup⟩ := ihr hr hmem
      · exact ⟨y, mem_nodes_node.mpr (.inl rfl), hup⟩
      · exact ⟨z, mem_nodes_node.mpr (.inr (.inr hz)), hup⟩

lemma top_mem (h : top t = some x) : x ∈ nodes t := by
  cases t with
  | nil => exact absurd h (Option.some_ne_none x).symm
  | node y l r => exact mem_nodes_node.mpr (.inl (some.inj h).symm)

lemma Hangs.eq_leaf (h : Hangs entry parent (some x) t) (hleft : (entry x).left = none)
    (hright : (entry x).right = none) : t = .node x .nil .nil := by
  refine h.unique ⟨rfl, ?_, hleft, hright⟩
  cases t with
  | nil => exact absurd h (Option.some_ne_none x)
  | node y l r =>
    obtain rfl := some.inj h.1
    exact h.2.1

/-! ## Another node in the place of one -/

section Replace

variable [DecidableEq ν]

/-- The tree with `y` in the place of `x`. -/
def rename (x y z : ν) : ν := if z = x then y else z

lemma map_rename_of_notMem {x y : ν} {t : BinaryTree ν} (h : x ∉ nodes t) :
    t.map (rename x y) = t := by
  have hid : t.map (rename x y) = t.map id :=
    map_congr (fun z hz => if_neg (fun heq : z = x => h (heq ▸ hz)))
  rw [hid, BinaryTree.id_map]

/-- The links of `p` when `y` takes the place of its child `x`. -/
def Entry.replaceChild (e : Entry ν) (x y : ν) : Entry ν :=
  if e.left = some x then { e with left := some y }
  else if e.right = some x then { e with right := some y }
  else e

lemma Hangs.replace_leaf {entry entry' : ν → Entry ν} {parent link : Option ν}
    {t : BinaryTree ν} {x y : ν} (h : Hangs entry parent link t) (hnodup : (nodes t).Nodup)
    (hx : x ∈ nodes t) (hleft : (entry x).left = none) (hright : (entry x).right = none)
    (htop : link ≠ some x) (hnew : entry' y = entry x)
    (hparent : ∀ p, (entry x).parent = some p → entry' p = (entry p).replaceChild x y)
    (hother : ∀ z ∈ nodes t, (entry x).parent ≠ some z → entry' z = entry z) :
    Hangs entry' parent link (t.map (rename x y)) := by
  induction t generalizing parent link with
  | nil => simp at hx
  | node z l r ihl ihr =>
    obtain ⟨hlink, hup, hl, hr⟩ := h
    obtain ⟨⟨hzl, hzr⟩, hnl, hnr, hdisjoint⟩ := nodup_node.mp hnodup
    have hzx : z ≠ x := fun heq => htop (heq ▸ hlink)
    have hotherl : ∀ w ∈ nodes l, (entry x).parent ≠ some w → entry' w = entry w :=
      fun w hw => hother w (mem_nodes_node.mpr (.inr (.inl hw)))
    have hotherr : ∀ w ∈ nodes r, (entry x).parent ≠ some w → entry' w = entry w :=
      fun w hw => hother w (mem_nodes_node.mpr (.inr (.inr hw)))
    have hz : rename x y z = z := if_neg hzx
    rw [BinaryTree.map, hz]
    obtain hzx' | hxl | hxr := mem_nodes_node.mp hx
    · exact absurd hzx'.symm hzx
    · -- on the left, and nothing changes on the right
      have hxr : x ∉ nodes r := hdisjoint x hxl
      rw [map_rename_of_notMem hxr]
      by_cases htopl : (entry z).left = some x
      · rw [htopl] at hl
        obtain rfl := hl.eq_leaf hleft hright
        have hxup : (entry x).parent = some z := hl.2.1
        have hentry := hparent z hxup
        rw [Entry.replaceChild, if_pos htopl] at hentry
        refine ⟨hlink, ?_, ?_, ?_⟩
        · rw [hentry]
          exact hup
        · rw [hentry, BinaryTree.map, rename, if_pos rfl]
          exact ⟨rfl, by rw [hnew, hxup], by rw [hnew]; exact hleft, by rw [hnew]; exact hright⟩
        · rw [hentry]
          exact hr.congr (fun w hw => hotherr w hw
            (fun heq => hzr (some.inj (hxup.symm.trans heq) ▸ hw)))
      obtain ⟨hbad, -⟩ | ⟨w, hw, hxup⟩ := hl.parent_mem hxl
      · exact absurd hbad htopl
      have hentry : entry' z = entry z := hother z (mem_nodes_node.mpr (.inl rfl))
        (fun heq => hzl (some.inj (heq.symm.trans hxup) ▸ hw))
      refine ⟨hlink, ?_, ?_, ?_⟩
      · rw [hentry]
        exact hup
      · rw [hentry]
        exact ihl hl hnl hxl htopl hotherl
      · rw [hentry]
        exact hr.congr (fun v hv => hotherr v hv
          (fun heq => hdisjoint w hw (some.inj (heq.symm.trans hxup) ▸ hv)))
    · -- on the right
      have hxl : x ∉ nodes l := fun hxl => hdisjoint x hxl hxr
      have hnotleft : (entry z).left ≠ some x :=
        fun heq => hxl (top_mem (hl.link_eq.symm.trans heq))
      rw [map_rename_of_notMem hxl]
      by_cases htopr : (entry z).right = some x
      · rw [htopr] at hr
        obtain rfl := hr.eq_leaf hleft hright
        have hxup : (entry x).parent = some z := hr.2.1
        have hentry := hparent z hxup
        rw [Entry.replaceChild, if_neg hnotleft, if_pos htopr] at hentry
        refine ⟨hlink, ?_, ?_, ?_⟩
        · rw [hentry]
          exact hup
        · rw [hentry]
          exact hl.congr (fun w hw => hotherl w hw
            (fun heq => hzl (some.inj (hxup.symm.trans heq) ▸ hw)))
        · rw [hentry, BinaryTree.map, rename, if_pos rfl]
          exact ⟨rfl, by rw [hnew, hxup], by rw [hnew]; exact hleft, by rw [hnew]; exact hright⟩
      obtain ⟨hbad, -⟩ | ⟨w, hw, hxup⟩ := hr.parent_mem hxr
      · exact absurd hbad htopr
      have hentry : entry' z = entry z := hother z (mem_nodes_node.mpr (.inl rfl))
        (fun heq => hzr (some.inj (heq.symm.trans hxup) ▸ hw))
      refine ⟨hlink, ?_, ?_, ?_⟩
      · rw [hentry]
        exact hup
      · rw [hentry]
        exact hl.congr (fun v hv => hotherl v hv
          (fun heq => hdisjoint v hv (some.inj (heq.symm.trans hxup) ▸ hw)))
      · rw [hentry]
        exact ihr hr hnr hxr htopr hotherr

end Replace

end

variable {ν κ : Type*}

/-- The operations of a search tree. A node that is inserted or searched for is compared with those
of the tree; an insertion gives a node that is there already. -/
structure SearchTree (ν : Type*) where
  insert : (ν → Ordering) → ν → Rooted ν → Rooted ν × Option ν
  remove : ν → Rooted ν → Rooted ν
  find : (ν → Ordering) → Rooted ν → Option ν

structure IsSearchTree [Ord κ] (Valid : BinaryTree Bool → Prop) (key : ν → κ) (s : Rooted ν)
    (t : BinaryTree ν) : Prop where
  tree : IsTree s t
  valid : Valid (colors s t)
  sorted : Sorted (t.map key)

structure SearchTree.Correct (ops : SearchTree ν) (Valid : BinaryTree Bool → Prop) (κ : Type*)
    [Ord κ] : Prop where
  empty : Valid .nil
  insert_same : ∀ {key : ν → κ} {s : Rooted ν} {t : BinaryTree ν} {cmp : ν → Ordering}
    {x elm : ν}, IsSearchTree Valid key s t → (∀ y ∈ nodes t, cmp y = compare (key elm) (key y)) →
    x ∈ nodes t → key x = key elm → ops.insert cmp elm s = (s, some x)
  insert_new : ∀ {key : ν → κ} {s : Rooted ν} {t : BinaryTree ν} {cmp : ν → Ordering} {elm : ν},
    IsSearchTree Valid key s t → (∀ y ∈ nodes t, cmp y = compare (key elm) (key y)) →
    (∀ y ∈ nodes t, key y ≠ key elm) →
    (ops.insert cmp elm s).2 = none ∧ ∃ t', IsSearchTree Valid key (ops.insert cmp elm s).1 t'
          ∧ (nodes t').Perm (elm :: nodes t)
  remove : ∀ {key : ν → κ} {s : Rooted ν} {t : BinaryTree ν} {x : ν},
    IsSearchTree Valid key s t → x ∈ nodes t →
    ∃ t', IsSearchTree Valid key (ops.remove x s) t' ∧ (x :: nodes t').Perm (nodes t)
  find_some : ∀ {key : ν → κ} {s : Rooted ν} {t : BinaryTree ν} {cmp : ν → Ordering} {k : κ}
    {x : ν}, IsSearchTree Valid key s t → (∀ y ∈ nodes t, cmp y = compare k (key y)) →
    x ∈ nodes t → key x = k → ops.find cmp s = some x

/-! ## Links for a tree -/

section Plant

variable [DecidableEq ν]

def linksOf : (parent : Option ν) → BinaryTree ν → ν → Option (Entry ν)
  | _, .nil, _ => none
  | parent, .node x l r, y =>
    if y = x then some ⟨top l, top r, parent, false⟩
    else (linksOf (some x) l y).or (linksOf (some x) r y)

def plant (t : BinaryTree ν) : Rooted ν :=
  ⟨top t, fun y => (linksOf none t y).getD ⟨none, none, none, false⟩⟩

variable {t : BinaryTree ν}

lemma linksOf_eq_none {parent : Option ν} {y : ν} :
    linksOf parent t y = none ↔ y ∉ nodes t := by
  induction t generalizing parent with
  | nil => exact iff_of_true rfl not_mem_nil
  | node x l r ihl ihr =>
    rw [linksOf, mem_nodes_node]
    by_cases hy : y = x
    · rw [if_pos hy]
      simp [hy]
    rw [if_neg hy, Option.or_eq_none_iff, ihl, ihr]
    simp [hy]

lemma hangs_of_linksOf {entry : ν → Entry ν} {parent : Option ν} (hnodup : (nodes t).Nodup)
    (h : ∀ y ∈ nodes t, linksOf parent t y = some (entry y)) :
    Hangs entry parent (top t) t := by
  induction t generalizing parent with
  | nil => exact rfl
  | node x l r ihl ihr =>
    obtain ⟨⟨hxl, hxr⟩, hnl, hnr, hdisjoint⟩ := nodup_node.mp hnodup
    have hx := h x (mem_nodes_node.mpr (.inl rfl))
    rw [linksOf, if_pos rfl] at hx
    have hentry := Option.some.inj hx
    refine ⟨rfl, by rw [← hentry], ?_, ?_⟩
    · rw [← hentry]
      refine ihl hnl (fun y hy => ?_)
      have hhere := h y (mem_nodes_node.mpr (.inr (.inl hy)))
      rw [linksOf, if_neg (fun heq : y = x => hxl (heq ▸ hy)),
        linksOf_eq_none.mpr (hdisjoint y hy), Option.or_none] at hhere
      exact hhere
    · rw [← hentry]
      refine ihr hnr (fun y hy => ?_)
      have hhere := h y (mem_nodes_node.mpr (.inr (.inr hy)))
      rw [linksOf, if_neg (fun heq : y = x => hxr (heq ▸ hy)),
        linksOf_eq_none.mpr (hdisjoint y · hy), Option.none_or] at hhere
      exact hhere

lemma isTree_plant (hnodup : (nodes t).Nodup) : IsTree (plant t) t := by
  refine ⟨hangs_of_linksOf hnodup (fun y hy => ?_), hnodup⟩
  obtain ⟨e, he⟩ := Option.ne_none_iff_exists'.mp
    (fun hnone : linksOf none t y = none => linksOf_eq_none.mp hnone hy)
  rw [he, plant]
  simp [he]

end Plant

/-! ## Search trees -/

section Sorted

variable [Ord κ] {key : ν → κ}

variable {x : ν}

lemma sorted_map_node {l r : BinaryTree ν} :
    Sorted ((BinaryTree.node x l r).map key) ↔ (∀ y ∈ nodes l, compare (key y) (key x) = .lt)
        ∧ (∀ y ∈ nodes r, compare (key y) (key x) = .gt)
        ∧ Sorted (l.map key) ∧ Sorted (r.map key) := by
  rw [BinaryTree.map, Sorted, nodes_map, nodes_map, forall_mem_map, forall_mem_map]

variable {t : BinaryTree ν}

lemma Sorted.key_injective [Std.ReflOrd κ] [Std.TransOrd κ] (h : Sorted (t.map key)) {y : ν}
    (hx : x ∈ nodes t) (hy : y ∈ nodes t) (heq : key x = key y) : x = y := by
  have hself : ∀ k : κ, compare k k = .eq := fun _ => Std.ReflOrd.compare_self
  induction t with
  | nil => simp at hx
  | node z l r ihl ihr =>
    obtain ⟨hl, hr, hsl, hsr⟩ := sorted_map_node.mp h
    have hne : ∀ u ∈ nodes l, ∀ v ∈ nodes r, key u ≠ key v := by
      intro u hu v hv huv
      have hlt := hl u hu
      rw [huv, hr v hv] at hlt
      cases hlt
    have hnl : ∀ u ∈ nodes l, key u ≠ key z := by
      intro u hu huz
      have hlt := hl u hu
      rw [huz, hself] at hlt
      cases hlt
    have hnr : ∀ u ∈ nodes r, key u ≠ key z := by
      intro u hu huz
      have hgt := hr u hu
      rw [huz, hself] at hgt
      cases hgt
    obtain rfl | hxl | hxr := mem_nodes_node.mp hx
    · obtain hyx | hyl | hyr := mem_nodes_node.mp hy
      · exact hyx.symm
      · exact absurd heq.symm (hnl y hyl)
      · exact absurd heq.symm (hnr y hyr)
    · obtain rfl | hyl | hyr := mem_nodes_node.mp hy
      · exact absurd heq (hnl x hxl)
      · exact ihl hsl hxl hyl
      · exact absurd heq (hne x hxl y hyr)
    obtain rfl | hyl | hyr := mem_nodes_node.mp hy
    · exact absurd heq (hnr x hxr)
    · exact absurd heq.symm (hne y hyl x hxr)
    · exact ihr hsr hxr hyr

def insertLeaf (cmp : ν → Ordering) (elm : ν) : BinaryTree ν → BinaryTree ν
  | .nil => .node elm .nil .nil
  | .node x l r =>
    match cmp x with
    | .lt => .node x (insertLeaf cmp elm l) r
    | _ => .node x l (insertLeaf cmp elm r)

lemma nodes_insertLeaf (cmp : ν → Ordering) (elm : ν) (t : BinaryTree ν) :
    (nodes (insertLeaf cmp elm t)).Perm (elm :: nodes t) := by
  induction t with
  | nil => exact List.Perm.refl _
  | node x l r ihl ihr =>
    have hleft : (nodes (.node x (insertLeaf cmp elm l) r)).Perm (elm :: nodes (.node x l r)) := by
      rw [nodes, nodes]
      exact ihl.append_right _
    have hright : (nodes (.node x l (insertLeaf cmp elm r))).Perm (elm :: nodes (.node x l r)) := by
      rw [nodes, nodes]
      have hstep := ((ihr.cons x).trans (List.Perm.swap elm x (nodes r))).append_left (nodes l)
      exact hstep.trans perm_middle
    rw [insertLeaf]
    cases cmp x with
    | lt => exact hleft
    | eq | gt => exact hright

lemma sorted_insertLeaf {cmp : ν → Ordering} {elm : ν} (h : Sorted (t.map key))
    (hcmp : ∀ y ∈ nodes t, cmp y = compare (key elm) (key y))
    (hnew : ∀ y ∈ nodes t, cmp y ≠ .eq) : Sorted ((insertLeaf cmp elm t).map key) := by
  induction t with
  | nil => exact ⟨fun _ hm => absurd hm not_mem_nil, fun _ hm => absurd hm not_mem_nil,
      trivial, trivial⟩
  | node x l r ihl ihr =>
    obtain ⟨hl, hr, hsl, hsr⟩ := sorted_map_node.mp h
    have hx := hcmp x (mem_nodes_node.mpr (.inl rfl))
    have hne := hnew x (mem_nodes_node.mpr (.inl rfl))
    have hleft := ihl hsl (fun y hy => hcmp y (mem_nodes_node.mpr (.inr (.inl hy))))
      (fun y hy => hnew y (mem_nodes_node.mpr (.inr (.inl hy))))
    have hright := ihr hsr (fun y hy => hcmp y (mem_nodes_node.mpr (.inr (.inr hy))))
      (fun y hy => hnew y (mem_nodes_node.mpr (.inr (.inr hy))))
    rw [insertLeaf]
    cases hcase : cmp x with
    | lt =>
      refine sorted_map_node.mpr ⟨fun y hy => ?_, hr, hleft, hsr⟩
      obtain rfl | hy := mem_cons.mp ((nodes_insertLeaf cmp elm l).mem_iff.mp hy)
      · rw [← hx, hcase]
      · exact hl y hy
    | eq => exact absurd hcase hne
    | gt =>
      refine sorted_map_node.mpr ⟨hl, fun y hy => ?_, hsl, hright⟩
      obtain rfl | hy := mem_cons.mp ((nodes_insertLeaf cmp elm r).mem_iff.mp hy)
      · rw [← hx, hcase]
      · exact hr y hy

def join : BinaryTree ν → BinaryTree ν → BinaryTree ν
  | .nil, r => r
  | .node x l m, r => .node x l (join m r)

lemma nodes_join (l r : BinaryTree ν) : nodes (join l r) = nodes l ++ nodes r := by
  induction l with
  | nil => rfl
  | node x a m _ ih => rw [join, nodes, ih, nodes, append_assoc, cons_append]

lemma sorted_join {l r : BinaryTree ν} (hl : Sorted (l.map key)) (hr : Sorted (r.map key))
    (h : ∀ x ∈ nodes l, ∀ y ∈ nodes r, compare (key y) (key x) = .gt) :
    Sorted ((join l r).map key) := by
  induction l with
  | nil => exact hr
  | node x a m _ ih =>
    obtain ⟨ha, hm, hsa, hsm⟩ := sorted_map_node.mp hl
    refine sorted_map_node.mpr ⟨ha, fun y hy => ?_, hsa, ?_⟩
    · rw [nodes_join, mem_append] at hy
      obtain hy | hy := hy
      · exact hm y hy
      · exact h x (mem_nodes_node.mpr (.inl rfl)) y hy
    · exact ih hsm (fun z hz => h z (mem_nodes_node.mpr (.inr (.inr hz))))

variable [DecidableEq ν]

def removeNode (x : ν) : BinaryTree ν → BinaryTree ν
  | .nil => .nil
  | .node y l r =>
    if y = x then join l r
    else if x ∈ nodes l then .node y (removeNode x l) r
    else .node y l (removeNode x r)

lemma nodes_removeNode (h : x ∈ nodes t) :
    (x :: nodes (removeNode x t)).Perm (nodes t) := by
  induction t with
  | nil => simp at h
  | node y l r ihl ihr =>
    rw [removeNode]
    split_ifs with hyx hl
    · subst hyx
      rw [nodes_join, nodes]
      exact perm_middle.symm
    · rw [nodes, nodes]
      exact (ihl hl).append_right _
    · have hr : x ∈ nodes r := ((mem_nodes_node.mp h).resolve_left (Ne.symm hyx)).resolve_left hl
      rw [nodes, nodes]
      have hstep := ((List.Perm.swap y x _).trans ((ihr hr).cons y)).append_left (nodes l)
      exact perm_middle.symm.trans hstep

lemma removeNode_of_notMem (h : x ∉ nodes t) :
    removeNode x t = t := by
  induction t with
  | nil => rfl
  | node y l r _ ih =>
    rw [mem_nodes_node, not_or, not_or] at h
    rw [removeNode, if_neg (Ne.symm h.1), if_neg h.2.1, ih h.2.2]

lemma sorted_removeNode [Std.TransOrd κ]
    (h : Sorted (t.map key)) : Sorted ((removeNode x t).map key) := by
  induction t with
  | nil => exact h
  | node y l r ihl ihr =>
    obtain ⟨hl, hr, hsl, hsr⟩ := sorted_map_node.mp h
    have hmem : ∀ t : BinaryTree ν, x ∈ nodes t → ∀ z ∈ nodes (removeNode x t), z ∈ nodes t :=
      fun t hx z hz => (nodes_removeNode hx).mem_iff.mp (mem_cons_of_mem x hz)
    rw [removeNode]
    split_ifs with hyx hxl
    · -- what is right of the node comes after what is left of it
      refine sorted_join hsl hsr (fun u hu v hv => ?_)
      exact Std.TransCmp.gt_trans (hr v hv) (Std.OrientedCmp.gt_of_lt (hl u hu))
    · exact sorted_map_node.mpr ⟨fun z hz => hl z (hmem l hxl z hz), hr, ihl hsl, hsr⟩
    · refine sorted_map_node.mpr ⟨hl, fun z hz => ?_, hsl, ihr hsr⟩
      by_cases hxr : x ∈ nodes r
      · exact hr z (hmem r hxr z hz)
      rw [removeNode_of_notMem hxr] at hz
      exact hr z hz

end Sorted

/-! ## An implementation -/

open Classical in
noncomputable def shapeOf (s : Rooted ν) : BinaryTree ν :=
  if h : ∃ t, IsTree s t then h.choose else .nil

lemma shapeOf_eq {s : Rooted ν} {t : BinaryTree ν} (h : IsTree s t) : shapeOf s = t := by
  have hex : ∃ t, IsTree s t := ⟨t, h⟩
  rw [shapeOf, dif_pos hex]
  exact hex.choose_spec.hangs.unique h.hangs

noncomputable def unbalanced [DecidableEq ν] : SearchTree ν where
  insert cmp elm s :=
    match (nodes (shapeOf s)).find? (cmp · = .eq) with
    | some x => (s, some x)
    | none => (plant (insertLeaf cmp elm (shapeOf s)), none)
  remove x s := plant (removeNode x (shapeOf s))
  find cmp s := (nodes (shapeOf s)).find? (cmp · = .eq)

lemma find_of_key [Ord κ] [Std.TransOrd κ] [Std.LawfulEqOrd κ] {key : ν → κ}
    {t : BinaryTree ν} {cmp : ν → Ordering} {k : κ} {x : ν} (h : Sorted (t.map key))
    (hcmp : ∀ y ∈ nodes t, cmp y = compare k (key y)) (hx : x ∈ nodes t) (hk : key x = k) :
    (nodes t).find? (cmp · = .eq) = some x := by
  have hxeq : cmp x = .eq := by
    rw [hcmp x hx, hk]
    exact Std.ReflOrd.compare_self
  cases hfind : (nodes t).find? (cmp · = .eq) with
  | none =>
    have hnone := find?_eq_none.mp hfind x hx
    exact absurd (decide_eq_true hxeq) hnone
  | some y =>
    have hy := mem_of_find?_eq_some hfind
    have hyeq : cmp y = .eq := by simpa using find?_some hfind
    rw [hcmp y hy, Std.LawfulEqOrd.compare_eq_iff_eq] at hyeq
    rw [h.key_injective hy hx (hyeq.symm.trans hk.symm)]

lemma unbalanced_correct [DecidableEq ν] [Ord κ] [Std.TransOrd κ] [Std.LawfulEqOrd κ] :
    (unbalanced (ν := ν)).Correct (fun _ => True) κ where
  empty := trivial
  insert_same := by
    intro key s t cmp x elm h hcmp hx hk
    have hfind := find_of_key h.sorted hcmp hx hk
    simp [unbalanced, shapeOf_eq h.tree, hfind]
  insert_new := by
    intro key s t cmp elm h hcmp hnew
    have hne : ∀ y ∈ nodes t, cmp y ≠ .eq := by
      intro y hy heq
      rw [hcmp y hy, Std.LawfulEqOrd.compare_eq_iff_eq] at heq
      exact hnew y hy heq.symm
    have hfind : (nodes t).find? (cmp · = .eq) = none := by
      rw [find?_eq_none]
      exact fun y hy => by simpa using hne y hy
    have hperm := nodes_insertLeaf cmp elm t
    have hnodup : (nodes (insertLeaf cmp elm t)).Nodup := by
      rw [hperm.nodup_iff, nodup_cons]
      exact ⟨fun hmem => hnew elm hmem rfl, h.tree.nodup⟩
    simp only [unbalanced, shapeOf_eq h.tree, hfind]
    exact ⟨trivial, _, ⟨isTree_plant hnodup, trivial, sorted_insertLeaf h.sorted hcmp hne⟩, hperm⟩
  remove := by
    intro key s t x h hx
    have hperm := nodes_removeNode hx
    have hnodup : (nodes (removeNode x t)).Nodup :=
      (nodup_cons.mp (hperm.nodup_iff.mpr h.tree.nodup)).2
    simp only [unbalanced, shapeOf_eq h.tree]
    exact ⟨_, ⟨isTree_plant hnodup, trivial, sorted_removeNode h.sorted⟩, hperm⟩
  find_some := by
    intro key s t cmp k x h hcmp hx hk
    simp only [unbalanced, shapeOf_eq h.tree]
    exact find_of_key h.sorted hcmp hx hk

end LinkedTree
