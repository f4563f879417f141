/-
The store of server requests, `_tree.h` and `ocserverrequest.c`, link by link.
-/
import Iochibity.Lib.LinkedList
import Iochibity.Lib.TextSearch
import Iochibity.Lib.SearchTree
import Mathlib.Data.List.Pairwise

namespace Iochibity.Ocf

open LinkedTree (Rooted Entry SearchTree nodes)
open Function (update)

section

/-! ## The store -/

/-- `g_serverRequestTree` with the links and the tokens of all requests. -/
structure RequestStore where
  tree : Rooted ℕ
  next : ℕ → Option ℕ
  prev : ℕ → Option ℕ
  requestToken : ℕ → List UInt8

def RequestStore.empty : RequestStore :=
  ⟨⟨none, fun _ => ⟨none, none, none, false⟩⟩, fun _ => none, fun _ => none, fun _ => []⟩

/-- `RBRequestTokenCmp` for a token. -/
def RequestStore.tokenCmp (store : RequestStore) (behind : ℕ → List UInt8)
    (token : List UInt8) (treeNode : ℕ) : Ordering :=
  PrefixCompare.prefixCompare token (store.requestToken treeNode ++ behind treeNode)

def setLink (links : ℕ → Option ℕ) (at? value : Option ℕ) : ℕ → Option ℕ :=
  at?.elim links (update links · value)

variable (rb : SearchTree ℕ)

def rblInsert (cmp : ℕ → Ordering) (elm : ℕ) (store : RequestStore) : RequestStore :=
  let inserted := rb.insert cmp elm store.tree
  match inserted.2 with
  | none => { store with tree := inserted.1 }
  | some head =>
    if head = elm then { store with tree := inserted.1 }
    else
      { store with
        tree := inserted.1
        next :=
          update (update store.next elm (store.next head)) head (some elm)
        prev :=
          update (setLink store.prev (store.next head) (some elm)) elm (some head) }

/-- The head of a list hands its place in the tree to the next request. The root and the links of
children to their parent stay. -/
def handOver (entry : ℕ → Entry ℕ) (elm next : ℕ) : ℕ → Entry ℕ :=
  let entry' := update entry next (entry elm)
  match (entry elm).parent with
  | none => entry'
  | some parent => update entry' parent ((entry' parent).replaceChild elm next)

def rblRemove (elm : ℕ) (store : RequestStore) : RequestStore :=
  match store.prev elm with
  | some prev =>
    { store with
      next := update store.next prev (store.next elm)
      prev := setLink store.prev (store.next elm) (some prev) }
  | none =>
    match store.next elm with
    | some next =>
      { store with
        tree := { store.tree with entry := handOver store.tree.entry elm next }
        prev := update store.prev next none }
    | none => { store with tree := rb.remove elm store.tree }

variable (behind : ℕ → List UInt8)

/-- `AddServerRequest`, for a request at a new address. -/
def addServerRequest (request : ℕ) (token : List UInt8) (store : RequestStore) : RequestStore :=
  let store' : RequestStore :=
    { store with
      next := update store.next request none
      prev := update store.prev request none
      requestToken := update store.requestToken request token }
  rblInsert rb (store'.tokenCmp behind token) request store'

def RequestStore.find (token : List UInt8) (store : RequestStore) : Option ℕ :=
  rb.find (store.tokenCmp behind token) store.tree

def deleteServerRequest (request : ℕ) (store : RequestStore) : RequestStore :=
  match store.find rb behind (store.requestToken request) with
  | none => store
  | some _ => rblRemove rb request store

inductive RequestEvent
  | add (request : ℕ) (token : List UInt8) (behind : ℕ → List UInt8)
  | delete (request : ℕ) (behind : ℕ → List UInt8)

def RequestEvent.apply (store : RequestStore) : RequestEvent → RequestStore
  | add request token behind => addServerRequest rb behind request token store
  | delete request behind => deleteServerRequest rb behind request store

def RequestEvent.live (live : List ℕ) : RequestEvent → List ℕ
  | add request _ _ => request :: live
  | delete request _ => live.erase request

def runRequests (store : RequestStore) (events : List RequestEvent) : RequestStore :=
  events.foldl (RequestEvent.apply rb) store

def liveRequests (events : List RequestEvent) : List ℕ := events.foldl RequestEvent.live []

/-- **The store is exact.** The links make up a tree of lists with these requests, each once, and a
search for the token of one finds one with that token. -/
structure IsExact (store : RequestStore) (live : List ℕ) : Prop where
  links : ∃ (tree : BinaryTree ℕ) (rest : ℕ → List ℕ), LinkedTree.IsTree store.tree tree
      ∧ (∀ head ∈ nodes tree, store.prev head = none
          ∧ LinkedList.Linked store.next store.prev head (rest head))
      ∧ ((nodes tree).flatMap (fun head => head :: rest head)).Perm live
  nodup : live.Nodup
  finds : ∀ behind, ∀ request ∈ live, ∃ found ∈ live,
    store.find rb behind (store.requestToken request) = some found
      ∧ store.requestToken found = store.requestToken request

/-- **A step that keeps it so.** A new request has a token that no other begins with and
that begins with no other, unless they are the same. One that is deleted is no head of a
list of several, or it has a parent and no children in the tree. -/
def RequestEvent.Sound (store : RequestStore) (live : List ℕ) : RequestEvent → Prop
  | add request token _ =>
    request ∉ live ∧ ∀ other ∈ live, PrefixCompare.Apart token (store.requestToken other)
  | delete request _ =>
    request ∈ live
      ∧ (store.prev request ≠ none ∨ store.next request = none
        ∨ (store.tree.entry request).parent ≠ none
          ∧ (store.tree.entry request).left = none ∧ (store.tree.entry request).right = none)

def RunSound (store : RequestStore) (live : List ℕ) : List RequestEvent → Prop
  | [] => True
  | event :: events =>
    event.Sound store live ∧ RunSound (event.apply rb store) (event.live live) events

end

open LinkedTree (Entry IsSearchTree Rooted SearchTree colors isTree_plant nodes nodes_map nodes_nil
  plant rename shapeOf shapeOf_eq top_mem unbalanced)
open LinkedList (Linked)
open PrefixCompare (Apart)
open List
open Function (comp_apply onFun update update_of_ne update_self)
open Option (some.inj)

structure IsStore (Valid : BinaryTree Bool → Prop) (store : RequestStore) (live : List ℕ)
    (tree : BinaryTree ℕ) (rest : ℕ → List ℕ) : Prop where
  search : IsSearchTree Valid store.requestToken store.tree tree
  chains : ∀ head ∈ nodes tree, store.prev head = none
    ∧ Linked store.next store.prev head (rest head)
  contents : ((nodes tree).flatMap (fun head => head :: rest head)).Perm live
  nodup : live.Nodup
  tokens : ∀ head ∈ nodes tree, ∀ other ∈ rest head,
    store.requestToken other = store.requestToken head
  apart : ∀ x ∈ live, ∀ y ∈ live, Apart (store.requestToken x) (store.requestToken y)

section Invariant

variable {Valid : BinaryTree Bool → Prop} {store : RequestStore} {live : List ℕ}
  {tree : BinaryTree ℕ} {rest : ℕ → List ℕ}

variable {x : ℕ}

lemma IsStore.mem_live (h : IsStore Valid store live tree rest) :
    x ∈ live ↔ ∃ head ∈ nodes tree, x ∈ head :: rest head := by
  rw [← h.contents.mem_iff, mem_flatMap]

variable {head : ℕ}

section

variable (h : IsStore Valid store live tree rest)
include h

lemma IsStore.head_mem (hhead : head ∈ nodes tree) : head ∈ live :=
  h.mem_live.mpr ⟨head, hhead, mem_cons_self⟩

lemma IsStore.rest_mem (hhead : head ∈ nodes tree) (hx : x ∈ rest head) : x ∈ live :=
  h.mem_live.mpr ⟨head, hhead, mem_cons_of_mem head hx⟩

lemma IsStore.chain_nodup (hhead : head ∈ nodes tree) : (head :: rest head).Nodup :=
  (nodup_flatMap.mp (h.contents.nodup_iff.mpr h.nodup)).1 head hhead

lemma IsStore.head_unique {a b : ℕ} (ha : a ∈ nodes tree) (hb : b ∈ nodes tree)
    (hxa : x ∈ a :: rest a) (hxb : x ∈ b :: rest b) : a = b := by
  by_contra hne
  have hpairwise := (nodup_flatMap.mp (h.contents.nodup_iff.mpr h.nodup)).2
  have : Std.Symm (onFun List.Disjoint (fun head => head :: rest head)) :=
    ⟨fun _ _ hd _ hx hy => hd hy hx⟩
  exact hpairwise.forall ha hb hne hxa hxb

lemma IsStore.token_eq (hhead : head ∈ nodes tree) (hx : x ∈ head :: rest head) :
    store.requestToken x = store.requestToken head := by
  obtain rfl | hx := mem_cons.mp hx
  · rfl
  · exact h.tokens head hhead x hx

lemma IsStore.tokenCmp_eq (behind : ℕ → List UInt8) (token : List UInt8)
    (hapart : ∀ x ∈ live, Apart token (store.requestToken x)) :
    ∀ y ∈ nodes tree, store.tokenCmp behind token y = compare token (store.requestToken y) :=
  fun y hy => PrefixCompare.prefixCompare_append (hapart y (h.head_mem hy)) (behind y)

end

lemma IsStore.exact {rb : SearchTree ℕ} (hrb : rb.Correct Valid (List UInt8))
    (h : IsStore Valid store live tree rest) : IsExact rb store live := by
  refine ⟨⟨tree, rest, h.search.tree, h.chains, h.contents⟩, h.nodup, ?_⟩
  intro behind request hrequest
  obtain ⟨head, hhead, hmem⟩ := h.mem_live.mp hrequest
  have htoken := h.token_eq hhead hmem
  refine ⟨head, h.head_mem hhead, ?_, htoken.symm⟩
  exact hrb.find_some h.search (h.tokenCmp_eq behind _ (h.apart request hrequest)) hhead htoken.symm

lemma IsStore.clear (h : IsStore Valid store live tree rest) {request : ℕ}
    (hnew : request ∉ live) (token : List UInt8) :
    IsStore Valid
      { store with
        next := update store.next request none
        prev := update store.prev request none
        requestToken := update store.requestToken request token } live tree rest := by
  have hne : ∀ x ∈ live, x ≠ request := fun x hx heq => hnew (heq ▸ hx)
  have htoken : ∀ x ∈ live, update store.requestToken request token x
      = store.requestToken x := fun x hx => update_of_ne (hne x hx) _ _
  refine ⟨⟨h.search.tree, h.search.valid, ?_⟩, fun head hhead => ⟨?_, ?_⟩, h.contents, h.nodup,
    fun head hhead other hother => ?_, fun x hx y hy => ?_⟩
  · rw [LinkedTree.map_congr (fun x hx => htoken x (h.head_mem hx))]
    exact h.search.sorted
  · exact (update_of_ne (hne head (h.head_mem hhead)) _ _).trans (h.chains head hhead).1
  · refine (h.chains head hhead).2.congr (fun y hy => ?_) (fun y hy => ?_)
    · exact update_of_ne (hne y (h.mem_live.mpr ⟨head, hhead, hy⟩)) _ _
    · exact update_of_ne (hne y (h.rest_mem hhead hy)) _ _
  · exact (htoken other (h.rest_mem hhead hother)).trans
      ((h.tokens head hhead other hother).trans (htoken head (h.head_mem hhead)).symm)
  · have hxy := h.apart x hx y hy
    rw [← htoken x hx, ← htoken y hy] at hxy
    exact hxy

lemma flatMap_change {l : List ℕ} (hnodup : l.Nodup) (hhead : head ∈ l) {f g : ℕ → List ℕ}
    (hsame : ∀ x ∈ l, x ≠ head → g x = f x) :
    ∃ before after : List ℕ,
      l.flatMap f = before ++ f head ++ after ∧ l.flatMap g = before ++ g head ++ after := by
  obtain ⟨l₁, l₂, rfl⟩ := append_of_mem hhead
  obtain ⟨hnew, -⟩ := nodup_cons.mp (nodup_middle.mp hnodup)
  rw [mem_append, not_or] at hnew
  have hbefore : l₁.flatMap g = l₁.flatMap f := flatMap_congr (fun x hx =>
    hsame x (mem_append_left _ hx) (fun heq => hnew.1 (heq ▸ hx)))
  have hafter : l₂.flatMap g = l₂.flatMap f := flatMap_congr (fun x hx =>
    hsame x (mem_append_right _ (mem_cons_of_mem head hx)) (fun heq => hnew.2 (heq ▸ hx)))
  refine ⟨l₁.flatMap f, l₂.flatMap f, ?_, ?_⟩
  · simp
  · simp [hbefore, hafter]

end Invariant

/-! ## Adding -/

section Add

variable {Valid : BinaryTree Bool → Prop} {rb : SearchTree ℕ} {store : RequestStore}
  {live : List ℕ} {tree : BinaryTree ℕ} {rest : ℕ → List ℕ} {cmp : ℕ → Ordering} {elm : ℕ}

variable {links : ℕ → Option ℕ} {at? value : Option ℕ}

lemma setLink_of_ne {x : ℕ} (h : at? ≠ some x) : setLink links at? value x = links x := by
  cases at? with
  | none => rfl
  | some node => exact update_of_ne (fun heq : x = node => h (congrArg some heq.symm)) _ _

lemma setLink_self {x : ℕ} (h : at? = some x) : setLink links at? value x = value := by
  subst h
  exact update_self _ _ _

lemma apart_cons {token : ℕ → List UInt8} (hnew : ∀ x ∈ live, Apart (token elm) (token x))
    (hold : ∀ x ∈ live, ∀ y ∈ live, Apart (token x) (token y)) :
    ∀ x ∈ elm :: live, ∀ y ∈ elm :: live, Apart (token x) (token y) := by
  intro x hx y hy
  obtain rfl | hxl := mem_cons.mp hx
  · obtain rfl | hyl := mem_cons.mp hy
    · exact .inl rfl
    · exact hnew y hyl
  obtain rfl | hyl := mem_cons.mp hy
  · exact (hnew x hxl).symm
  · exact hold x hxl y hyl

section

variable (hrb : rb.Correct Valid (List UInt8)) (h : IsStore Valid store live tree rest)
  (hnew : elm ∉ live)
  (hcmp : ∀ y ∈ nodes tree, cmp y = compare (store.requestToken elm) (store.requestToken y))
  (hapart : ∀ x ∈ live, Apart (store.requestToken elm) (store.requestToken x))
include h hapart hcmp hnew hrb

lemma rblInsert_same {head : ℕ} (hhead : head ∈ nodes tree)
    (htoken : store.requestToken head = store.requestToken elm) :
    IsStore Valid (rblInsert rb cmp elm store) (elm :: live) tree
      (update rest head (elm :: rest head)) := by
  have hne : ∀ x ∈ live, x ≠ elm := fun x hx heq => hnew (heq ▸ hx)
  have hheadElm : head ≠ elm := hne head (h.head_mem hhead)
  obtain ⟨hprevHead, hlinked⟩ := h.chains head hhead
  -- the request after the head is one of its list
  have hafter : ∀ n, store.next head = some n → n ∈ rest head := by
    intro n hn
    rw [hlinked.next_eq] at hn
    exact mem_of_mem_head? hn
  unfold rblInsert
  rw [hrb.insert_same h.search hcmp hhead htoken]
  dsimp only
  rw [if_neg hheadElm]
  refine ⟨h.search, fun other hother => ?_, ?_, ?_, fun other hother x hx => ?_, ?_⟩
  · by_cases hsame : other = head
    · subst hsame
      rw [update_self]
      constructor
      · refine (update_of_ne hheadElm _ _).trans ((setLink_of_ne ?_).trans hprevHead)
        exact fun heq => (nodup_cons.mp (h.chain_nodup hhead)).1 (hafter other heq)
      · refine hlinked.insert (h.chain_nodup hhead) ?_ (update_self _ _ _) ?_
          (update_self _ _ _) (fun n hn => ?_) (fun y hy => ?_) (fun y hy hfirst => ?_)
        · exact fun hmem => hnew (h.mem_live.mpr ⟨other, hhead, hmem⟩)
        · exact (update_of_ne hheadElm.symm _ _).trans (update_self _ _ _)
        · exact (update_of_ne (hne n (h.rest_mem hhead (hafter n hn))) _ _).trans
            (setLink_self hn)
        · have hy' : y ≠ other := fun heq =>
            (nodup_cons.mp (h.chain_nodup hhead)).1 (heq ▸ hy)
          exact (update_of_ne hy' _ _).trans (update_of_ne (hne y (h.rest_mem hhead hy)) _ _)
        · exact (update_of_ne (hne y (h.rest_mem hhead hy)) _ _).trans
            (setLink_of_ne hfirst)
    rw [update_of_ne hsame]
    -- nothing in the other lists changes
    have hkeptPrev : ∀ y ∈ other :: rest other,
        update (setLink store.prev (store.next head) (some elm)) elm (some head) y
          = store.prev y := by
      intro y hy
      refine (update_of_ne (hne y (h.mem_live.mpr ⟨other, hother, hy⟩)) _ _).trans
        (setLink_of_ne (fun heq => hsame ?_))
      exact h.head_unique hother hhead hy (mem_cons_of_mem head (hafter y heq))
    refine ⟨(hkeptPrev other mem_cons_self).trans (h.chains other hother).1, ?_⟩
    refine (h.chains other hother).2.congr (fun y hy => ?_)
      (fun y hy => hkeptPrev y (mem_cons_of_mem other hy))
    have hy' : y ≠ head := fun heq =>
      hsame (h.head_unique hother hhead hy (heq ▸ mem_cons_self))
    exact (update_of_ne hy' _ _).trans
      (update_of_ne (hne y (h.mem_live.mpr ⟨other, hother, hy⟩)) _ _)
  · obtain ⟨before, after, hbefore, hchanged⟩ := flatMap_change
      (f := fun head => head :: rest head)
      (g := fun other => other :: update rest head (elm :: rest head) other)
      h.search.tree.nodup hhead (fun x _ hx => by rw [update_of_ne hx])
    have hcontents := h.contents
    rw [hbefore] at hcontents
    rw [hchanged, update_self]
    have hmove : (before ++ (head :: elm :: rest head) ++ after).Perm
        (elm :: (before ++ (head :: rest head) ++ after)) := by
      have hswap : (head :: elm :: rest head).Perm (elm :: head :: rest head) := .swap _ _ _
      refine ((hswap.append_left before).append_right after).trans ?_
      rw [append_assoc, cons_append, append_assoc]
      exact perm_middle
    exact hmove.trans (hcontents.cons elm)
  · exact nodup_cons.mpr ⟨hnew, h.nodup⟩
  · by_cases hsame : other = head
    · subst hsame
      rw [update_self] at hx
      obtain rfl | hx := mem_cons.mp hx
      · exact htoken.symm
      · exact h.tokens other hother x hx
    rw [update_of_ne hsame] at hx
    exact h.tokens other hother x hx
  · exact apart_cons hapart h.apart

lemma rblInsert_new (hnext : store.next elm = none) (hprev : store.prev elm = none)
    (htoken : ∀ y ∈ nodes tree, store.requestToken y ≠ store.requestToken elm) :
    ∃ tree', IsStore Valid (rblInsert rb cmp elm store) (elm :: live) tree'
      (update rest elm []) := by
  obtain ⟨hnone, tree', hsearch, hperm⟩ := hrb.insert_new h.search hcmp htoken
  have helm : elm ∉ nodes tree := fun hmem => htoken elm hmem rfl
  have hrest : ∀ head ∈ nodes tree, update rest elm [] head = rest head :=
    fun head hhead => update_of_ne (fun heq : head = elm => helm (heq ▸ hhead)) _ _
  refine ⟨tree', ?_⟩
  unfold rblInsert
  dsimp only
  rw [hnone]
  refine ⟨hsearch, fun head hhead => ?_, ?_, ?_, fun head hhead x hx => ?_, ?_⟩
  · obtain rfl | hhead := mem_cons.mp (hperm.mem_iff.mp hhead)
    · rw [update_self]
      exact ⟨hprev, hnext⟩
    rw [hrest head hhead]
    exact h.chains head hhead
  · refine (hperm.flatMap_right _).trans ?_
    rw [flatMap_cons, update_self]
    have hsame : (nodes tree).flatMap (fun head => head :: update rest elm [] head)
        = (nodes tree).flatMap (fun head => head :: rest head) :=
      flatMap_congr (fun head hhead => by rw [hrest head hhead])
    rw [hsame]
    exact h.contents.cons elm
  · exact nodup_cons.mpr ⟨hnew, h.nodup⟩
  · obtain rfl | hhead := mem_cons.mp (hperm.mem_iff.mp hhead)
    · rw [update_self] at hx
      simp at hx
    rw [hrest head hhead] at hx
    exact h.tokens head hhead x hx
  · exact apart_cons hapart h.apart

end

lemma addServerRequest_isStore (hrb : rb.Correct Valid (List UInt8))
    (h : IsStore Valid store live tree rest) (behind : ℕ → List UInt8) {request : ℕ}
    (hnew : request ∉ live) {token : List UInt8}
    (hapart : ∀ x ∈ live, Apart token (store.requestToken x)) :
    ∃ tree' rest', IsStore Valid (addServerRequest rb behind request token store)
      (request :: live) tree' rest' := by
  have hclear := h.clear hnew token
  have hself : update store.requestToken request token request = token :=
    update_self _ _ _
  have hothers : ∀ x ∈ live, Apart (update store.requestToken request token request)
      (update store.requestToken request token x) := by
    intro x hx
    rw [hself, update_of_ne (fun heq : x = request => hnew (heq ▸ hx))]
    exact hapart x hx
  have hcmp := hclear.tokenCmp_eq behind token
    (fun x hx => by have hx' := hothers x hx; rw [hself] at hx'; exact hx')
  unfold addServerRequest
  by_cases hthere : ∃ head ∈ nodes tree, update store.requestToken request token head
        = update store.requestToken request token request
  · obtain ⟨head, hhead, htoken⟩ := hthere
    exact ⟨tree, _, rblInsert_same hrb hclear hnew
      (fun y hy => (hcmp y hy).trans (congrArg (compare · _) hself.symm)) hothers hhead htoken⟩
  push Not at hthere
  obtain ⟨tree', hstore⟩ := rblInsert_new hrb hclear hnew
    (fun y hy => (hcmp y hy).trans (congrArg (compare · _) hself.symm)) hothers
    (update_self _ _ _) (update_self _ _ _) hthere
  exact ⟨tree', _, hstore⟩

end Add

/-! ## Deleting -/

section Delete

variable {Valid : BinaryTree Bool → Prop} {rb : SearchTree ℕ} {store : RequestStore}
  {live : List ℕ} {tree : BinaryTree ℕ} {rest : ℕ → List ℕ} {request : ℕ}

lemma perm_erase {contents contents' : List ℕ} (h : contents.Perm live)
    (hmove : (request :: contents').Perm contents) : contents'.Perm (live.erase request) := by
  have herase := (hmove.trans h).erase request
  rw [erase_cons_head] at herase
  exact herase

lemma IsStore.head_of_prev (h : IsStore Valid store live tree rest) (hrequest : request ∈ live)
    (hprev : store.prev request = none) : request ∈ nodes tree := by
  obtain ⟨head, hhead, hmem⟩ := h.mem_live.mp hrequest
  obtain rfl | hmem := mem_cons.mp hmem
  · exact hhead
  obtain ⟨p, -, hup, -⟩ := (h.chains head hhead).2.prev_mem hmem
  exact absurd (hprev.symm.trans hup) (Option.some_ne_none p).symm

lemma rblRemove_inside (rb : SearchTree ℕ) (h : IsStore Valid store live tree rest)
    (hrequest : request ∈ live) {p : ℕ} (hprev : store.prev request = some p) :
    ∃ rest', IsStore Valid (rblRemove rb request store) (live.erase request) tree rest' := by
  obtain ⟨head, hhead, hmem⟩ := h.mem_live.mp hrequest
  obtain ⟨hheadPrev, hlinked⟩ := h.chains head hhead
  have hnodup := h.chain_nodup hhead
  have hmem : request ∈ rest head := by
    obtain rfl | hmem := mem_cons.mp hmem
    · exact absurd (hheadPrev.symm.trans hprev) (Option.some_ne_none p).symm
    · exact hmem
  obtain ⟨p', hp', hup, -⟩ := hlinked.prev_mem hmem
  obtain rfl := some.inj (hup.symm.trans hprev)
  obtain ⟨l₁, l₂, hlist⟩ := append_of_mem hmem
  rw [hlist] at hlinked hnodup
  -- the request after it is further down the list
  have hafter : ∀ n, store.next request = some n → n ∈ l₂ := by
    intro n hn
    rw [hlinked.behind.next_eq] at hn
    exact mem_of_mem_head? hn
  have hafterRest : ∀ n, store.next request = some n → n ∈ rest head := fun n hn =>
    hlist ▸ mem_append_right l₁ (mem_cons_of_mem request (hafter n hn))
  unfold rblRemove
  rw [hprev]
  refine ⟨update rest head (l₁ ++ l₂), h.search, fun other hother => ?_, ?_, ?_,
    fun other hother x hx => ?_, fun x hx y hy => ?_⟩
  · by_cases hsame : other = head
    · subst hsame
      rw [update_self]
      constructor
      · refine (setLink_of_ne (fun heq => ?_)).trans hheadPrev
        exact (nodup_cons.mp (h.chain_nodup hhead)).1 (hafterRest other heq)
      · exact hlinked.remove hnodup hprev (update_self _ _ _)
          (fun n hn => setLink_self hn) (fun y _ hy => update_of_ne hy _ _)
          (fun y _ hy => setLink_of_ne hy)
    rw [update_of_ne hsame]
    have hkept : ∀ y ∈ other :: rest other,
        setLink store.prev (store.next request) (some p') y = store.prev y := by
      intro y hy
      refine setLink_of_ne (fun heq => hsame ?_)
      exact h.head_unique hother hhead hy (mem_cons_of_mem head (hafterRest y heq))
    refine ⟨(hkept other mem_cons_self).trans (h.chains other hother).1, ?_⟩
    refine (h.chains other hother).2.congr (fun y hy => ?_)
      (fun y hy => hkept y (mem_cons_of_mem other hy))
    exact update_of_ne (fun heq : y = p' => hsame (h.head_unique hother hhead hy (heq ▸ hp'))) _ _
  · obtain ⟨before, after, hbefore, hchanged⟩ := flatMap_change
      (f := fun head => head :: rest head)
      (g := fun other => other :: update rest head (l₁ ++ l₂) other)
      h.search.tree.nodup hhead (fun x _ hx => by rw [update_of_ne hx])
    refine perm_erase h.contents ?_
    rw [hbefore, hchanged, update_self, hlist]
    have hinner : (request :: head :: (l₁ ++ l₂)).Perm (head :: (l₁ ++ request :: l₂)) :=
      (List.Perm.swap head request _).trans (perm_middle.symm.cons head)
    have houter : (request :: (before ++ (head :: (l₁ ++ l₂)) ++ after)).Perm
        (before ++ (request :: head :: (l₁ ++ l₂)) ++ after) := by
      rw [append_assoc, append_assoc, cons_append (a := request)]
      exact perm_middle.symm
    exact houter.trans ((hinner.append_left before).append_right after)
  · exact h.nodup.erase request
  · by_cases hsame : other = head
    · subst hsame
      rw [update_self] at hx
      refine h.tokens other hother x ?_
      rw [hlist]
      rcases mem_append.mp hx with hx | hx
      · simp [hx]
      · simp [hx]
    rw [update_of_ne hsame] at hx
    exact h.tokens other hother x hx
  · exact h.apart x (List.mem_of_mem_erase hx) y (List.mem_of_mem_erase hy)

lemma rblRemove_alone (hrb : rb.Correct Valid (List UInt8))
    (h : IsStore Valid store live tree rest) (hrequest : request ∈ live)
    (hprev : store.prev request = none) (hnext : store.next request = none) :
    ∃ tree', IsStore Valid (rblRemove rb request store) (live.erase request) tree' rest := by
  have hhead := h.head_of_prev hrequest hprev
  have hnil : rest request = [] := by
    have hfirst := (h.chains request hhead).2.next_eq
    rw [hnext] at hfirst
    exact head?_eq_none_iff.mp hfirst.symm
  obtain ⟨tree', hsearch, hperm⟩ := hrb.remove h.search hhead
  have hsub : ∀ head ∈ nodes tree', head ∈ nodes tree := fun head hmem =>
    hperm.mem_iff.mp (mem_cons_of_mem request hmem)
  unfold rblRemove
  rw [hprev, hnext]
  refine ⟨tree', hsearch, fun head hmem => h.chains head (hsub head hmem), ?_, ?_,
    fun head hmem => h.tokens head (hsub head hmem), fun x hx y hy => ?_⟩
  · refine perm_erase h.contents ?_
    have hmove := hperm.flatMap_right (fun head => head :: rest head)
    rw [flatMap_cons, hnil] at hmove
    exact hmove
  · exact h.nodup.erase request
  · exact h.apart x (List.mem_of_mem_erase hx) y (List.mem_of_mem_erase hy)

lemma handOver_isSearchTree {key : ℕ → List UInt8} {s : Rooted ℕ}
    (h : IsSearchTree Valid key s tree) {elm next : ℕ} (helm : elm ∈ nodes tree)
    (hout : next ∉ nodes tree) (hkey : key next = key elm)
    (hparent : (s.entry elm).parent ≠ none) (hleft : (s.entry elm).left = none)
    (hright : (s.entry elm).right = none) :
    IsSearchTree Valid key { s with entry := handOver s.entry elm next }
      (tree.map (rename elm next)) := by
  have hhangs := h.tree.hangs
  have hnotNext : ∀ z ∈ nodes tree, z ≠ next := fun z hz heq => hout (heq ▸ hz)
  obtain ⟨p, hp⟩ := Option.ne_none_iff_exists'.mp hparent
  have hpmem : p ∈ nodes tree := by
    obtain ⟨-, hup⟩ | ⟨q, hq, hup⟩ := hhangs.parent_mem helm
    · exact absurd hup hparent
    · exact some.inj (hup.symm.trans hp) ▸ hq
  have hover : handOver s.entry elm next = update (update s.entry next (s.entry elm)) p
          ((s.entry p).replaceChild elm next) := by
    unfold handOver
    rw [hp]
    dsimp only
    rw [update_of_ne (hnotNext p hpmem)]
  have hoverNext : handOver s.entry elm next next = s.entry elm := by
    rw [hover, update_of_ne (hnotNext p hpmem).symm, update_self]
  have hoverParent : handOver s.entry elm next p = (s.entry p).replaceChild elm next := by
    rw [hover, update_self]
  have hoverOther : ∀ z ∈ nodes tree, p ≠ z → handOver s.entry elm next z = s.entry z := by
    intro z hz hpz
    rw [hover, update_of_ne hpz.symm, update_of_ne (hnotNext z hz)]
  have htop : s.root ≠ some elm := by
    intro heq
    cases tree with
    | nil => exact absurd helm not_mem_nil
    | node x l r =>
      obtain rfl := some.inj (hhangs.1.symm.trans heq)
      exact hparent hhangs.2.1
  refine ⟨⟨?_, ?_⟩, ?_, ?_⟩
  · exact hhangs.replace_leaf h.tree.nodup helm hleft hright htop hoverNext
      (fun q hq => some.inj (hp.symm.trans hq) ▸ hoverParent)
      (fun z hz hup => hoverOther z hz (fun heq => hup (heq ▸ hp)))
  · rw [nodes_map]
    refine h.tree.nodup.map_on (fun a ha b hb hab => ?_)
    unfold rename at hab
    split_ifs at hab with har hbr hbr
    · exact har.trans hbr.symm
    · exact absurd hab.symm (hnotNext b hb)
    · exact absurd hab (hnotNext a ha)
    · exact hab
  · -- the colour goes with the place
    have hcolors : colors { s with entry := handOver s.entry elm next }
        (tree.map (rename elm next)) = colors s tree := by
      unfold colors
      rw [← BinaryTree.comp_map]
      refine LinkedTree.map_congr (fun z hz => ?_)
      rw [comp_apply, rename]
      dsimp only
      split_ifs with hzr
      · rw [hoverNext, hzr]
      · by_cases hpz : p = z
        · subst hpz
          rw [hoverParent, Entry.replaceChild]
          split_ifs <;> rfl
        · rw [hoverOther z hz hpz]
    rw [hcolors]
    exact h.valid
  · have hkeys : tree.map (key ∘ rename elm next) = tree.map key := by
      refine LinkedTree.map_congr (fun z _ => ?_)
      rw [comp_apply, rename]
      split_ifs with hzr
      · rw [hzr, hkey]
      · rfl
    rw [← BinaryTree.comp_map, hkeys]
    exact h.sorted

lemma rblRemove_head (h : IsStore Valid store live tree rest) (hrequest : request ∈ live)
    (hprev : store.prev request = none) {next : ℕ} (hnext : store.next request = some next)
    (hparent : (store.tree.entry request).parent ≠ none)
    (hleft : (store.tree.entry request).left = none)
    (hright : (store.tree.entry request).right = none) :
    ∃ tree' rest', IsStore Valid (rblRemove rb request store) (live.erase request) tree' rest' := by
  have hhead := h.head_of_prev hrequest hprev
  obtain ⟨-, hlinked⟩ := h.chains request hhead
  have hnodup := h.chain_nodup hhead
  obtain ⟨l, hlist⟩ : ∃ l, rest request = next :: l := by
    have hfirst := hlinked.next_eq
    rw [hnext] at hfirst
    cases hrest : rest request with
    | nil =>
      rw [hrest] at hfirst
      simp at hfirst
    | cons n l =>
      rw [hrest] at hfirst
      obtain rfl := some.inj hfirst
      exact ⟨l, rfl⟩
  rw [hlist] at hlinked hnodup
  have hnextRest : next ∈ rest request := hlist ▸ mem_cons_self
  have hne : request ≠ next := fun heq =>
    (nodup_cons.mp hnodup).1 (heq ▸ mem_cons_self)
  -- the next request is not in the tree yet
  have hout : next ∉ nodes tree := fun hmem =>
    hne (h.head_unique hhead hmem (mem_cons_of_mem request hnextRest) mem_cons_self)
  have hnotNext : ∀ z ∈ nodes tree, z ≠ next := fun z hz heq => hout (heq ▸ hz)
  have hotherList : ∀ head ∈ nodes tree, head ≠ request → ∀ y ∈ head :: rest head, y ≠ next :=
    fun head hmem hdiff y hy heq => hdiff (h.head_unique hmem hhead hy
      (heq ▸ mem_cons_of_mem request hnextRest))
  have htoken : store.requestToken next = store.requestToken request :=
    h.tokens request hhead next hnextRest
  have hmem : ∀ head ∈ nodes (tree.map (rename request next)),
      head = next ∨ head ∈ nodes tree ∧ head ≠ request := by
    intro head hmem
    rw [nodes_map] at hmem
    obtain ⟨z, hz, rfl⟩ := mem_map.mp hmem
    unfold rename
    split_ifs with hzr
    · exact .inl rfl
    · exact .inr ⟨hz, hzr⟩
  unfold rblRemove
  rw [hprev, hnext]
  refine ⟨tree.map (rename request next), update rest next l,
    handOver_isSearchTree h.search hhead hout htoken hparent hleft hright,
    fun head hhead' => ?_, ?_, ?_, fun head hhead' x hx => ?_, fun x hx y hy => ?_⟩
  · obtain rfl | ⟨hold, hdiff⟩ := hmem head hhead'
    · rw [update_self]
      refine ⟨update_self _ _ _, hlinked.2.2.congr (fun _ _ => rfl) (fun y hy => ?_)⟩
      refine update_of_ne (fun heq : y = head => ?_) _ _
      exact (nodup_cons.mp (nodup_cons.mp hnodup).2).1 (heq ▸ hy)
    have hlist' := hotherList head hold hdiff
    rw [update_of_ne (hnotNext head hold)]
    refine ⟨(update_of_ne (hnotNext head hold) _ _).trans (h.chains head hold).1, ?_⟩
    exact (h.chains head hold).2.congr (fun _ _ => rfl)
      (fun y hy => update_of_ne (hlist' y (mem_cons_of_mem head hy)) _ _)
  · obtain ⟨before, after, hbefore, hchanged⟩ := flatMap_change
      (f := fun head => head :: rest head)
      (g := fun head => rename request next head :: update rest next l (rename request next head))
      h.search.tree.nodup hhead (fun x hx hdiff => by
        rw [rename, if_neg hdiff, update_of_ne (hnotNext x hx)])
    refine perm_erase h.contents ?_
    rw [nodes_map, flatMap_map, hchanged, hbefore, rename, if_pos rfl, update_self, hlist]
    have houter : (request :: (before ++ (next :: l) ++ after)).Perm
        (before ++ (request :: next :: l) ++ after) := by
      rw [append_assoc, append_assoc, cons_append (a := request)]
      exact perm_middle.symm
    exact houter
  · exact h.nodup.erase request
  · obtain rfl | ⟨hold, hdiff⟩ := hmem head hhead'
    · rw [update_self] at hx
      exact (h.tokens request hhead x (hlist ▸ mem_cons_of_mem head hx)).trans htoken.symm
    rw [update_of_ne (hnotNext head hold)] at hx
    exact h.tokens head hold x hx
  · exact h.apart x (List.mem_of_mem_erase hx) y (List.mem_of_mem_erase hy)

lemma deleteServerRequest_isStore (hrb : rb.Correct Valid (List UInt8))
    (h : IsStore Valid store live tree rest) (behind : ℕ → List UInt8) (hrequest : request ∈ live)
    (hplace : store.prev request ≠ none ∨ store.next request = none
      ∨ (store.tree.entry request).parent ≠ none
        ∧ (store.tree.entry request).left = none ∧ (store.tree.entry request).right = none) :
    ∃ tree' rest', IsStore Valid (deleteServerRequest rb behind request store)
      (live.erase request) tree' rest' := by
  obtain ⟨found, -, hfound, -⟩ := (h.exact hrb).finds behind request hrequest
  unfold deleteServerRequest
  rw [hfound]
  cases hprev : store.prev request with
  | some p =>
    obtain ⟨rest', hstore⟩ := rblRemove_inside rb h hrequest hprev
    exact ⟨tree, rest', hstore⟩
  | none =>
    cases hnext : store.next request with
    | none =>
      obtain ⟨tree', hstore⟩ := rblRemove_alone hrb h hrequest hprev hnext
      exact ⟨tree', rest, hstore⟩
    | some next =>
      rw [hprev, hnext] at hplace
      obtain hbad | hbad | ⟨hparent, hleft, hright⟩ := hplace
      · exact absurd rfl hbad
      · simp at hbad
      · exact rblRemove_head h hrequest hprev hnext hparent hleft hright

end Delete

variable {Valid : BinaryTree Bool → Prop} {rb : SearchTree ℕ}

lemma empty_isStore
    (hrb : rb.Correct Valid (List UInt8)) : IsStore Valid .empty [] .nil (fun _ => []) where
  search := ⟨⟨rfl, nodup_nil⟩, hrb.empty, trivial⟩
  chains := fun _ hmem => absurd hmem not_mem_nil
  contents := List.Perm.nil
  nodup := nodup_nil
  tokens := fun _ hmem => absurd hmem not_mem_nil
  apart := fun _ hmem => absurd hmem not_mem_nil

lemma runRequests_isStore (hrb : rb.Correct Valid (List UInt8)) (events : List RequestEvent)
    {store : RequestStore} {live : List ℕ} (h : ∃ tree rest, IsStore Valid store live tree rest)
    (hsound : RunSound rb store live events) :
    ∃ tree rest, IsStore Valid (runRequests rb store events)
      (events.foldl RequestEvent.live live) tree rest := by
  induction events generalizing store live with
  | nil => exact h
  | cons event events ih =>
    obtain ⟨tree, rest, hstore⟩ := h
    refine ih ?_ hsound.2
    cases event with
    | add request token behind =>
      exact addServerRequest_isStore hrb hstore behind hsound.1.1 hsound.1.2
    | delete request behind =>
      exact deleteServerRequest_isStore hrb hstore behind hsound.1.1 hsound.1.2

/-- **The store is exact** after every run of sound steps from the empty store, whatever
correct search tree it is built on. -/
theorem request_store_exact {Valid : BinaryTree Bool → Prop} {rb : SearchTree ℕ}
    (hrb : rb.Correct Valid (List UInt8)) (events : List RequestEvent)
    (hsound : RunSound rb .empty [] events) :
    IsExact rb (runRequests rb .empty events) (liveRequests events) := by
  obtain ⟨tree, rest, hstore⟩ := runRequests_isStore hrb events ⟨_, _, empty_isStore hrb⟩ hsound
  exact hstore.exact hrb

/-! ## Two requests with one token -/

def equalTokens : List RequestEvent := [.add 1 [5] (fun _ => []), .add 2 [5] (fun _ => [])]

def oneRequest : RequestStore :=
  ⟨plant (.node 1 .nil .nil), update (fun _ => none) 1 none,
    update (fun _ => none) 1 none, update (fun _ => []) 1 [5]⟩

def twoRequests : RequestStore :=
  { oneRequest with
    next := update (update
      (update oneRequest.next 2 none) 2 none) 1 (some 2)
    prev := update (update oneRequest.prev 2 none) 2 (some 1)
    requestToken := update oneRequest.requestToken 2 [5] }

lemma addServerRequest_first :
    addServerRequest unbalanced (fun _ => []) 1 [5] .empty = oneRequest := by
  have hshape : shapeOf RequestStore.empty.tree = .nil :=
    shapeOf_eq ⟨rfl, nodup_nil⟩
  simp only [addServerRequest, rblInsert, unbalanced, hshape, nodes_nil, find?_nil]
  rfl

lemma addServerRequest_second :
    addServerRequest unbalanced (fun _ => []) 2 [5] oneRequest = twoRequests := by
  have hshape : shapeOf oneRequest.tree = .node 1 .nil .nil :=
    shapeOf_eq (isTree_plant (by decide))
  have hnodes : nodes (.node 1 .nil .nil) = [1] := rfl
  have hequal : ∀ tree next prev, RequestStore.tokenCmp
      ⟨tree, next, prev, update oneRequest.requestToken 2 [5]⟩ (fun _ => []) [5] 1
        = .eq := fun _ _ _ => rfl
  simp only [addServerRequest, rblInsert, unbalanced, hshape, hnodes, find?_cons,
    hequal, decide_true]
  rfl

lemma runRequests_equalTokens (events : List RequestEvent) :
    runRequests unbalanced .empty (equalTokens ++ events)
      = runRequests unbalanced twoRequests events := by
  unfold runRequests equalTokens
  rw [foldl_append, foldl_cons, foldl_cons, foldl_nil]
  unfold RequestEvent.apply
  dsimp only
  rw [addServerRequest_first, addServerRequest_second]

theorem equalTokens_delete_second :
    IsExact unbalanced
      (runRequests unbalanced .empty (equalTokens ++ [.delete 2 (fun _ => [])])) [1] := by
  have hsound : RunSound unbalanced .empty [] (equalTokens ++ [.delete 2 (fun _ => [])]) := by
    refine ⟨⟨by decide, fun _ hmem => absurd hmem not_mem_nil⟩, ⟨by decide, ?_⟩, ?_, trivial⟩
    · intro other hmem
      obtain rfl := mem_singleton.mp hmem
      unfold RequestEvent.apply
      dsimp only
      rw [addServerRequest_first]
      exact .inl rfl
    · unfold RequestEvent.apply
      dsimp only
      rw [addServerRequest_first, addServerRequest_second]
      exact ⟨by decide, .inl (by decide)⟩
  exact request_store_exact LinkedTree.unbalanced_correct _ hsound

theorem equalTokens_delete_first :
    ¬ IsExact unbalanced (runRequests unbalanced .empty (equalTokens ++ [.delete 1 (fun _ => [])]))
      (liveRequests (equalTokens ++ [.delete 1 (fun _ => [])])) := by
  rintro ⟨⟨tree, rest, htree, -, hcontents⟩, -, -⟩
  have hshape : shapeOf twoRequests.tree = .node 1 .nil .nil :=
    shapeOf_eq (isTree_plant (by decide))
  have hnodes : nodes (.node 1 .nil .nil) = [1] := rfl
  have hequal : twoRequests.tokenCmp (fun _ => []) (twoRequests.requestToken 1) 1 = .eq := by
    decide
  have hfound : twoRequests.find unbalanced (fun _ => []) (twoRequests.requestToken 1)
      = some 1 := by
    simp [RequestStore.find, unbalanced, hshape, hnodes, hequal]
  have hdeleted : deleteServerRequest unbalanced (fun _ => []) 1 twoRequests
      = rblRemove unbalanced 1 twoRequests := by
    unfold deleteServerRequest
    rw [hfound]
  have hroot : (runRequests unbalanced .empty
      (equalTokens ++ [.delete 1 (fun _ => [])])).tree.root = some 1 := by
    rw [runRequests_equalTokens]
    unfold runRequests
    rw [foldl_cons, foldl_nil]
    unfold RequestEvent.apply
    dsimp only
    rw [hdeleted]
    rfl
  have hmem : 1 ∈ nodes tree := by
    have hhangs := htree.hangs
    rw [hroot] at hhangs
    exact top_mem hhangs.link_eq.symm
  have hlive := hcontents.mem_iff.mp (mem_flatMap.mpr ⟨1, hmem, mem_cons_self⟩)
  exact absurd hlive (by decide)

end Iochibity.Ocf
