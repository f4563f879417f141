/-
What holds of the list of resources in every run.
-/
import Iochibity.Lib.Runs
import Iochibity.Ocf.RepPayload
import Iochibity.Ocf.ResourceTree

namespace Iochibity.Ocf.ResourceList

open Coap (CString)
open SingleLinks (Spine)
open List
open Option
open Function (update update_self)

variable {tree : ResourceTree} {list : List ℕ} {resource : ℕ}

/-! ## Calls -/

inductive TreeCall
  | create (memory : CreateMemory) (args : CreateArgs)
  | delete (resource : Option ℕ)
  | bind (memory : Bool) (collectionHandle resourceHandle : Option ℕ)
  | unbind (collectionHandle resourceHandle : Option ℕ)
  | bindType (memory : Bool) (handle : Option ℕ) (name : Option CString)
  | bindInterface (memory memoryDefault : Bool) (handle : Option ℕ) (name : Option CString)

def treeStep (tcpAdapter : Bool) (tree : ResourceTree) (call : TreeCall) :
    ResourceTree × List OCStackResult :=
  let (result, tree) := match call with
    | .create memory args => ocCreateResourceWithEp tcpAdapter memory args tree
    | .delete resource => deleteResource resource tree
    | .bind memory collectionHandle resourceHandle =>
      ocBindResource memory collectionHandle resourceHandle tree
    | .unbind collectionHandle resourceHandle =>
      ocUnBindResource collectionHandle resourceHandle tree
    | .bindType memory handle name => ocBindResourceTypeToResource memory handle name tree
    | .bindInterface memory memoryDefault handle name =>
      ocBindResourceInterfaceToResource memory memoryDefault handle name tree
  (tree, [result])

section

variable (tree : ResourceTree)

def FreshNode : TreeCall → Prop
  | .create memory _ => ∀ pointer ∈ memory.node, tree.heap pointer = none
  | _ => True

structure OCResource.WellFormed (resource : OCResource) : Prop where
  types_ne : resource.rsrcType ≠ []
  types_nodup : resource.rsrcType.Nodup
  interfaces_first : resource.rsrcInterface.head? = some ocRsrvdInterfaceDefault
  interfaces_nodup : resource.rsrcInterface.Nodup

/-- **The list of resources is as it should be**: finite, ending at `tailResource`, with different
URIs, and every resource has good types and interfaces and children that are in the list. -/
def ResourceTree.WellFormed : Prop :=
  ∃ list : List ℕ, Spine tree.next tree.headResource list ∧ tree.tailResource = list.getLast?
    ∧ (list.map (fun pointer => (tree.heap pointer).map OCResource.uri)).Nodup
    ∧ ∀ pointer ∈ list, ∃ resource, tree.heap pointer = some resource ∧ resource.WellFormed
        ∧ ∀ child ∈ resource.rsrcChildResources, child ∈ list

def KeepsTree (tcpAdapter : Bool) (tree : ResourceTree) (call : TreeCall) : Prop :=
  (treeStep tcpAdapter tree call).1.WellFormed
    ∧ ((treeStep tcpAdapter tree call).2 ≠ [.ok] → (treeStep tcpAdapter tree call).1 = tree)

def CreateArgs.Bindable (tcpAdapter : Bool) (memory : CreateMemory) (args : CreateArgs) : Prop :=
  memory.uri = true ∧ memory.type = true ∧ memory.interface = true
    ∧ (∀ name ∈ args.resourceTypeName, validateResourceTypeInterface name = true)
    ∧ validateResourceTypeInterface args.interface = true
    ∧ ocGetSupportedEndpointFlags tcpAdapter args.resourceTpsTypes ≠ 0

/-- A resource is created with the default interface; a child that is bound is in the list; a
resource that is deleted is nobody's child. -/
def MindsChildren (tcpAdapter : Bool) (tree : ResourceTree) : TreeCall → Prop
  | .create memory args =>
    checkCreate tcpAdapter args tree = none → memory.node.isSome → args.Bindable tcpAdapter memory →
        args.interface = ocRsrvdInterfaceDefault ∨ memory.interfaceDefault = true
  | .delete resource =>
    ∀ pointer ∈ resource, pointer ∈ tree.resources → ∀ other ∈ tree.resources, other ≠ pointer →
        ∀ collection ∈ tree.heap other, pointer ∉ collection.rsrcChildResources
  | .bind memory collectionHandle resourceHandle =>
    ∀ collection ∈ collectionHandle, ∀ resource ∈ resourceHandle,
      memory = true → collection ≠ resource → collection ∈ tree.resources →
        resource ∈ tree.resources
  | _ => True

/-! ## What holds anyway -/

def OCResource.contents (resource : OCResource) : OCResource := { resource with next := none }

def ResourceTree.contents (pointer : ℕ) : Option OCResource :=
  (tree.heap pointer).map OCResource.contents

structure Listed (tree : ResourceTree) (list : List ℕ) : Prop where
  linked : Spine tree.next tree.headResource list
  nodup : list.Nodup
  ends : tree.tailResource = list.getLast?
  counted : tree.allocated = list.length
  alive : ∀ pointer, (tree.contents pointer).isSome = true ↔ pointer ∈ list

structure ListInvariant (tree : ResourceTree) (list : List ℕ) : Prop
    extends Listed tree list where
  uris : ∀ pointer pointer' resource resource', tree.contents pointer = some resource →
    tree.contents pointer' = some resource' → resource.uri = resource'.uri → pointer = pointer'
  types : ∀ pointer resource, tree.contents pointer = some resource →
    resource.rsrcType ≠ [] ∧ resource.rsrcType.Nodup

def OCResource.GoodInterfaces (resource : OCResource) : Prop :=
  resource.rsrcInterface.head? = some ocRsrvdInterfaceDefault ∧ resource.rsrcInterface.Nodup

def ChildrenAlive : Prop :=
  ∀ pointer resource, tree.contents pointer = some resource → resource.GoodInterfaces
      ∧ ∀ child ∈ resource.rsrcChildResources, (tree.contents child).isSome = true

lemma contents_isSome (pointer : ℕ) :
    (tree.contents pointer).isSome = (tree.heap pointer).isSome := isSome_map

end

lemma Listed.resources_eq (h : Listed tree list) :
    tree.resources = list :=
  h.linked.walk_eq (Nat.le_of_eq h.counted.symm)

lemma ListInvariant.wellFormed_iff
    (h : ListInvariant tree list) : tree.WellFormed ↔ ChildrenAlive tree := by
  have hheap : ∀ pointer ∈ list, ∃ resource, tree.heap pointer = some resource := by
    intro pointer hpointer
    have halive := (h.alive pointer).mpr hpointer
    rw [contents_isSome] at halive
    exact isSome_iff_exists.mp halive
  constructor
  · rintro ⟨list', hlinked, -, -, hresources⟩ pointer resource hresource
    obtain rfl := h.linked.unique hlinked
    have hpointer := (h.alive pointer).mp (by rw [hresource]; rfl)
    obtain ⟨stored, hstored, hwell, hchildren⟩ := hresources pointer hpointer
    have hcontents : stored.contents = resource := by
      unfold ResourceTree.contents at hresource
      rw [hstored] at hresource
      exact some.inj hresource
    subst hcontents
    exact ⟨⟨hwell.interfaces_first, hwell.interfaces_nodup⟩,
      fun child hchild => (h.alive child).mpr (hchildren child hchild)⟩
  · intro hgood
    refine ⟨list, h.linked, h.ends, ?_, ?_⟩
    · apply h.nodup.map_on
      intro pointer hpointer pointer' hpointer' heq
      obtain ⟨resource, hresource⟩ := hheap pointer hpointer
      obtain ⟨resource', hresource'⟩ := hheap pointer' hpointer'
      rw [hresource, hresource'] at heq
      exact h.uris pointer pointer' resource.contents resource'.contents
        (by rw [ResourceTree.contents, hresource]; rfl)
        (by rw [ResourceTree.contents, hresource']; rfl) (some.inj heq)
    · intro pointer hpointer
      obtain ⟨resource, hresource⟩ := hheap pointer hpointer
      have hcontents : tree.contents pointer = some resource.contents := by
        rw [ResourceTree.contents, hresource]
        rfl
      obtain ⟨hne, hnodup⟩ := h.types pointer _ hcontents
      obtain ⟨⟨hfirst, hinterfaces⟩, hchildren⟩ := hgood pointer _ hcontents
      exact ⟨resource, hresource, ⟨hne, hnodup, hfirst, hinterfaces⟩,
        fun child hchild => (h.alive child).mp (hchildren child hchild)⟩

/-! ## Memory -/

section Memory

variable (tree : ResourceTree) (pointer other : ℕ) (change : OCResource → OCResource)

lemma free_next (hne : other ≠ pointer) : (tree.free pointer).next other = tree.next other := by
  unfold ResourceTree.next ResourceTree.free
  dsimp only
  simp [hne]

lemma free_contents_self : (tree.free pointer).contents pointer = none := by
  unfold ResourceTree.contents ResourceTree.free
  dsimp only
  rw [update_self]
  rfl

lemma free_contents (hne : other ≠ pointer) :
    (tree.free pointer).contents other = tree.contents other := by
  unfold ResourceTree.contents ResourceTree.free
  dsimp only
  simp [hne]

lemma modify_next (hne : other ≠ pointer) :
    (tree.modify pointer change).next other = tree.next other := by
  unfold ResourceTree.next ResourceTree.modify
  dsimp only
  simp [hne]

lemma modify_contents (hne : other ≠ pointer) :
    (tree.modify pointer change).contents other = tree.contents other := by
  unfold ResourceTree.contents ResourceTree.modify
  dsimp only
  simp [hne]

lemma link_contents (link : Option ℕ) :
    (tree.modify pointer ({ · with next := link })).contents other = tree.contents other := by
  by_cases hne : other = pointer
  · subst hne
    unfold ResourceTree.contents ResourceTree.modify
    dsimp only
    rw [update_self, Option.map_map]
    rfl
  · exact modify_contents tree pointer other _ hne

lemma link_next_self (link : Option ℕ) (halive : (tree.contents pointer).isSome = true) :
    (tree.modify pointer ({ · with next := link })).next pointer = link := by
  rw [contents_isSome] at halive
  obtain ⟨resource, hresource⟩ := isSome_iff_exists.mp halive
  unfold ResourceTree.next ResourceTree.modify
  dsimp only
  rw [update_self, hresource]
  rfl

end Memory

lemma Listed.ext {tree' : ResourceTree} (h : Listed tree list) (h' : Listed tree' list)
    (hcontents : ∀ pointer, tree'.contents pointer = tree.contents pointer) :
    tree' = tree := by
  obtain ⟨heap, head, tail, allocated⟩ := tree
  obtain ⟨heap', head', tail', allocated'⟩ := tree'
  have hhead : head' = head := h'.linked.head_eq.trans h.linked.head_eq.symm
  have htail : tail' = tail := h'.ends.trans h.ends.symm
  have hcounted : allocated' = allocated := h'.counted.trans h.counted.symm
  have hheap : heap' = heap := by
    funext pointer
    have hsame : (heap' pointer).map OCResource.contents
        = (heap pointer).map OCResource.contents := hcontents pointer
    have hlinks : pointer ∈ list →
        (heap' pointer).bind OCResource.next = (heap pointer).bind OCResource.next :=
      fun hmem => h'.linked.next_eq h.linked pointer hmem
    have halive := h.alive pointer
    rw [contents_isSome] at halive
    cases hnew : heap' pointer with
    | none =>
      rw [hnew] at hsame
      cases hold : heap pointer with
      | none => rfl
      | some resource =>
        rw [hold] at hsame
        simp at hsame
    | some resource' =>
      rw [hnew] at hsame hlinks
      cases hold : heap pointer with
      | none =>
        rw [hold] at hsame
        simp at hsame
      | some resource =>
        rw [hold] at hsame hlinks
        have hmem := halive.mp (by
          show (heap pointer).isSome = true
          rw [hold]
          rfl)
        have hnext : resource'.next = resource.next := hlinks hmem
        have hrest : resource'.contents = resource.contents := some.inj hsame
        obtain ⟨next, uri, types, interfaces, children, properties, endpoints⟩ := resource
        obtain ⟨next', uri', types', interfaces', children', properties', endpoints'⟩ :=
          resource'
        unfold OCResource.contents at hrest
        injection hrest with _ huri htypes hinterfaces hchildren hproperties hendpoints
        dsimp only at hnext huri htypes hinterfaces hchildren hproperties hendpoints
        rw [hnext, huri, htypes, hinterfaces, hchildren, hproperties, hendpoints]
  rw [hheap, hhead, htail, hcounted]

/-! ## Deleting -/

variable {l₁ l₂ : List ℕ}

lemma deleteResourceLoop_found {prev temp : Option ℕ} {fuel : ℕ}
    (hlinked : Spine tree.next temp (l₁ ++ resource :: l₂)) (hnot : resource ∉ l₁)
    (hfuel : l₁.length < fuel) :
    deleteResourceLoop resource tree fuel prev temp
      = (.ok, (unlinkResource (l₁.getLast?.or prev) resource tree).free resource) := by
  induction l₁ generalizing prev temp fuel with
  | nil =>
    obtain ⟨rfl, -⟩ := hlinked
    cases fuel with
    | zero => omega
    | succ fuel =>
      rw [deleteResourceLoop, if_pos rfl]
      rfl
  | cons first l₁ ih =>
    obtain ⟨rfl, hrest⟩ := hlinked
    rw [mem_cons, not_or] at hnot
    cases fuel with
    | zero => omega
    | succ fuel =>
      rw [length_cons] at hfuel
      rw [deleteResourceLoop, if_neg (hnot.1 ·.symm), ih hrest hnot.2 (by omega), getLast?_cons]
      cases l₁.getLast? <;> rfl

lemma deleteResourceLoop_missing {prev temp : Option ℕ} {fuel : ℕ}
    (hlinked : Spine tree.next temp list) (hnot : resource ∉ list) :
    deleteResourceLoop resource tree fuel prev temp = (.error, tree) := by
  induction list generalizing prev temp fuel with
  | nil =>
    rw [show temp = none from hlinked]
    cases fuel <;> rfl
  | cons first list ih =>
    obtain ⟨rfl, hrest⟩ := hlinked
    rw [mem_cons, not_or] at hnot
    cases fuel with
    | zero => rfl
    | succ fuel =>
      rw [deleteResourceLoop, if_neg (hnot.1 ·.symm), ih hrest hnot.2]

lemma unlinkResource_spec (h : Listed tree (l₁ ++ resource :: l₂)) :
    ∃ unlinked, unlinkResource (l₁.getLast?.or none) resource tree = unlinked
      ∧ Spine unlinked.next unlinked.headResource (l₁ ++ l₂)
      ∧ unlinked.tailResource = (l₁ ++ l₂).getLast?
      ∧ unlinked.allocated = tree.allocated
      ∧ ∀ pointer, unlinked.contents pointer = tree.contents pointer := by
  refine ⟨_, rfl, ?_⟩
  obtain ⟨hlinked, hnodup, hends, -, halive⟩ := h
  have hhead := hlinked.head_eq
  rw [or_none]
  rcases eq_nil_or_concat l₁ with rfl | ⟨l, p, rfl⟩
  · rw [nil_append] at hlinked hends hhead hnodup ⊢
    rw [head?_cons] at hhead
    cases l₂ with
    | nil =>
      unfold unlinkResource
      rw [if_pos ⟨hhead, hends⟩]
      exact ⟨rfl, rfl, rfl, fun _ => rfl⟩
    | cons y l =>
      have hlast : tree.tailResource ≠ some resource := by
        intro heq
        rw [hends, getLast?_cons_cons] at heq
        exact (nodup_cons.mp hnodup).1 (mem_of_getLast? heq)
      unfold unlinkResource
      rw [if_neg (hlast ·.2), if_pos hhead]
      refine ⟨hlinked.2, ?_, rfl, fun _ => rfl⟩
      simp [hends]
  rw [concat_eq_append] at *
  have hsplit : l ++ [p] ++ resource :: l₂ = l ++ p :: resource :: l₂ :=
    append_assoc l [p] (resource :: l₂)
  have hshort : l ++ [p] ++ l₂ = l ++ p :: l₂ := append_assoc l [p] l₂
  rw [hsplit] at hlinked hnodup hends hhead halive
  have hdistinct := nodup_append.mp hnodup
  obtain ⟨hpnot, hrest⟩ := nodup_cons.mp hdistinct.2.1
  have hnothead : tree.headResource ≠ some resource := by
    intro heq
    rw [hhead] at heq
    cases l with
    | nil =>
      obtain rfl := some.inj heq
      exact hpnot mem_cons_self
    | cons x l =>
      obtain rfl := some.inj heq
      exact hdistinct.2.2 x mem_cons_self x (mem_cons_of_mem p mem_cons_self) rfl
  have hpalive : (tree.contents p).isSome = true :=
    (halive p).mpr (mem_append_right l mem_cons_self)
  have hothers : ∀ y ∈ l ++ l₂, y ≠ p := by
    rintro y hy rfl
    rcases mem_append.mp hy with hy | hy
    · exact hdistinct.2.2 y hy y mem_cons_self rfl
    · exact hpnot (mem_cons_of_mem resource hy)
  -- Whatever else is changed, the link of the resource before skips the one that is found.
  have hskipped : ∀ (link : Option ℕ) (tail : Option ℕ), link = tree.next resource →
      Spine (ResourceTree.modify { tree with tailResource := tail } p
        ({ · with next := link })).next tree.headResource
        (l ++ p :: l₂) := by
    intro link tail hlink
    apply hlinked.remove
    · rw [link_next_self { tree with tailResource := tail } p link hpalive, hlink]
    · intro y hy
      exact modify_next { tree with tailResource := tail } p y _ (hothers y hy)
  rw [getLast?_concat, hshort]
  unfold unlinkResource
  rw [if_neg (hnothead ·.1), if_neg hnothead]
  dsimp only
  by_cases htail : tree.tailResource = some resource
  · have hempty : l₂ = [] := by
      rw [hends] at htail
      cases l₂ with
      | nil => rfl
      | cons y l₂ =>
        rw [getLast?_append, getLast?_cons_cons, getLast?_cons_cons] at htail
        rw [or_eq_some_iff] at htail
        rcases htail with hlast | ⟨hnone, -⟩
        · exact absurd (mem_of_getLast? hlast) (nodup_cons.mp hrest).1
        · exact absurd hnone (by rw [getLast?_cons]; exact nofun)
    subst hempty
    rw [if_pos htail]
    have hend : tree.next resource = none := hlinked.behind.2
    refine ⟨hskipped none (some p) hend.symm, ?_, rfl, ?_⟩
    · rw [getLast?_concat]
      rfl
    · intro pointer
      exact link_contents { tree with tailResource := some p } p pointer none
  rw [if_neg htail]
  refine ⟨hskipped (tree.next resource) tree.tailResource rfl, ?_, rfl, ?_⟩
  · show tree.tailResource = _
    cases l₂ with
    | nil =>
      rw [hends, getLast?_append, getLast?_cons_cons] at htail
      exact absurd rfl htail
    | cons y l₂ =>
      simp [hends]
  · intro pointer
    exact link_contents tree p pointer _

lemma deleteResource_spec (h : Listed tree (l₁ ++ resource :: l₂)) :
    ∃ tree', deleteResource (some resource) tree = (.ok, tree')
      ∧ Listed tree' (l₁ ++ l₂) ∧ tree'.contents resource = none
      ∧ ∀ pointer, pointer ≠ resource → tree'.contents pointer = tree.contents pointer := by
  obtain ⟨unlinked, hunlinked, hlinked, hends, hcounted, hcontents⟩ := unlinkResource_spec h
  have hdistinct := nodup_middle.mp h.nodup
  obtain ⟨hnot, hnodup⟩ := nodup_cons.mp hdistinct
  have hfound : deleteResource (some resource) tree = (.ok, unlinked.free resource) := by
    have hlength : l₁.length < tree.allocated := by
      rw [h.counted, length_append, length_cons]
      omega
    show deleteResourceLoop resource tree tree.allocated none tree.headResource = _
    rw [deleteResourceLoop_found h.linked (fun hmem => hnot (mem_append_left l₂ hmem))
      hlength, hunlinked]
  refine ⟨unlinked.free resource, hfound, ⟨?_, hnodup, hends, ?_, ?_⟩, ?_, ?_⟩
  · apply hlinked.congr
    intro pointer hpointer
    exact free_next unlinked resource pointer (fun heq => hnot (heq ▸ hpointer))
  · show unlinked.allocated - 1 = _
    rw [hcounted, h.counted, length_append, length_append, length_cons]
    omega
  · intro pointer
    by_cases heq : pointer = resource
    · subst heq
      rw [free_contents_self]
      simp [hnot]
    rw [free_contents unlinked resource pointer heq, hcontents, h.alive, mem_append,
      mem_cons, mem_append, or_iff_right heq]
  · exact free_contents_self unlinked resource
  · intro pointer hne
    rw [free_contents unlinked resource pointer hne, hcontents]

lemma deleteResource_missing (h : Listed tree list) (resource : ℕ) (hnot : resource ∉ list) :
    deleteResource (some resource) tree = (.error, tree) :=
  deleteResourceLoop_missing h.linked hnot

/-! ## Creating -/

def withResource (pointer : ℕ) (blank resource : OCResource) (tree : ResourceTree) :
    ResourceTree :=
  { insertResource pointer blank tree with
    heap := update (insertResource pointer blank tree).heap pointer (some resource) }

variable {pointer : ℕ}

section

variable (h : Listed tree list) (hfresh : tree.heap pointer = none) (blank resource : OCResource)
  (hnext : resource.next = none)
include h hfresh hnext

lemma withResource_spec :
    Listed (withResource pointer blank resource tree) (list ++ [pointer])
      ∧ (withResource pointer blank resource tree).contents pointer = some resource
      ∧ ∀ other, other ≠ pointer →
          (withResource pointer blank resource tree).contents other = tree.contents other := by
  have hnot : pointer ∉ list := by
    intro hmem
    have halive := (h.alive pointer).mpr hmem
    rw [contents_isSome, hfresh] at halive
    simp at halive
  have hresource : resource.contents = resource := by
    unfold OCResource.contents
    rw [← hnext]
  -- What the three fields and the other resources come to.
  have hparts : Spine (withResource pointer blank resource tree).next
        (withResource pointer blank resource tree).headResource (list ++ [pointer])
      ∧ (withResource pointer blank resource tree).tailResource = some pointer
      ∧ (withResource pointer blank resource tree).allocated = tree.allocated + 1
      ∧ (withResource pointer blank resource tree).heap pointer = some resource
      ∧ ∀ other, other ≠ pointer →
          (withResource pointer blank resource tree).contents other = tree.contents other := by
    have hself : (withResource pointer blank resource tree).heap pointer = some resource :=
      update_self _ _ _
    have hend : (withResource pointer blank resource tree).next pointer = none := by
      unfold ResourceTree.next
      rw [hself]
      exact hnext
    have hhead := h.linked.head_eq
    rcases eq_nil_or_concat list with rfl | ⟨l, last, rfl⟩
    · have hinserted : insertResource pointer blank tree
          = ⟨update tree.heap pointer (some { blank with next := none }), some pointer,
              some pointer, tree.allocated + 1⟩ := by
        unfold insertResource
        rw [hhead]
        rfl
      have hwith : withResource pointer blank resource tree
          = ⟨update (update tree.heap pointer
                (some { blank with next := none })) pointer (some resource), some pointer,
              some pointer, tree.allocated + 1⟩ := by
        unfold withResource
        rw [hinserted]
      rw [hwith] at hself hend ⊢
      refine ⟨⟨rfl, hend⟩, rfl, rfl, hself, ?_⟩
      intro other hne
      unfold ResourceTree.contents
      dsimp only
      simp [hne]
    rw [concat_eq_append] at *
    have hlast : last ≠ pointer := by
      rintro rfl
      exact hnot (mem_append_right l mem_cons_self)
    obtain ⟨head, hsome⟩ : ∃ head, tree.headResource = some head := by
      rw [hhead]
      cases l with
      | nil => exact ⟨last, rfl⟩
      | cons x l => exact ⟨x, rfl⟩
    have htail : tree.tailResource = some last := by rw [h.ends, getLast?_concat]
    have hwith : withResource pointer blank resource tree
        = ⟨update (update (update tree.heap pointer (some { blank with next := none })) last
              ((update tree.heap pointer (some { blank with next := none }) last).map
                ({ · with next := some pointer })))
              pointer (some resource),
            some head, some pointer, tree.allocated + 1⟩ := by
      unfold withResource insertResource
      rw [hsome, htail]
    have hheap : ∀ other, other ≠ pointer → (withResource pointer blank resource tree).heap other
          = (tree.modify last ({ · with next := some pointer })).heap other := by
      intro other hne
      rw [hwith]
      dsimp only [ResourceTree.modify]
      rw [Function.update_of_ne hne]
      by_cases heq : other = last
      · subst heq
        simp [hlast]
      · simp [heq, hne]
    refine ⟨?_, by rw [hwith], by rw [hwith], hself, ?_⟩
    · rw [show (withResource pointer blank resource tree).headResource = tree.headResource by
        rw [hwith, hsome]]
      apply h.linked.append
      · unfold ResourceTree.next
        rw [hheap last hlast]
        exact link_next_self tree last (some pointer)
          ((h.alive last).mpr (mem_append_right l mem_cons_self))
      · exact hend
      · intro y hy
        have hyp : y ≠ pointer := by
          rintro rfl
          exact hnot (mem_append_left _ hy)
        have hyl : y ≠ last := by
          rintro rfl
          exact (nodup_append.mp h.nodup).2.2 y hy y mem_cons_self rfl
        unfold ResourceTree.next
        rw [hheap y hyp]
        exact modify_next tree last y _ hyl
    · intro other hne
      unfold ResourceTree.contents
      rw [hheap other hne]
      exact link_contents tree last other (some pointer)
  obtain ⟨hlinked, hends, hcounted, hself, hothers⟩ := hparts
  have hcontents : (withResource pointer blank resource tree).contents pointer = some resource := by
    rw [ResourceTree.contents, hself, map_some, hresource]
  refine ⟨⟨hlinked, ?_, ?_, ?_, ?_⟩, hcontents, hothers⟩
  · apply nodup_append.mpr
    refine ⟨h.nodup, nodup_singleton _, ?_⟩
    rintro a ha b hb rfl
    rw [mem_singleton.mp hb] at ha
    exact hnot ha
  · simp [hends]
  · rw [hcounted, h.counted, length_append, length_singleton]
  · intro other
    rw [mem_append, mem_singleton]
    by_cases heq : other = pointer
    · rw [heq, hcontents]
      exact iff_of_true rfl (.inr rfl)
    · rw [hothers other heq, h.alive, or_iff_left heq]

lemma deleteResource_withResource :
    (deleteResource (some pointer) (withResource pointer blank resource tree)).2 = tree := by
  obtain ⟨hlisted, -, hothers⟩ := withResource_spec h hfresh blank resource hnext
  obtain ⟨tree', hdelete, hlisted', hgone, hrest⟩ := deleteResource_spec hlisted
  rw [hdelete]
  rw [append_nil] at hlisted'
  apply h.ext hlisted'
  intro other
  by_cases heq : other = pointer
  · rw [heq, hgone, ResourceTree.contents, hfresh]
    rfl
  · rw [hrest other heq, hothers other heq]

end

/-! ## Types and interfaces -/

lemma insertResourceType_ok (rsrcType : List CString) (resourceType : CString)
    (hnodup : rsrcType.Nodup) :
    insertResourceType rsrcType resourceType ≠ []
      ∧ (insertResourceType rsrcType resourceType).Nodup := by
  unfold insertResourceType
  by_cases hmem : resourceType ∈ rsrcType
  · rw [if_pos hmem]
    exact ⟨ne_nil_of_mem hmem, hnodup⟩
  rw [if_neg hmem]
  refine ⟨append_ne_nil_of_right_ne_nil _ (cons_ne_nil _ _), ?_⟩
  apply nodup_append.mpr
  refine ⟨hnodup, nodup_singleton _, ?_⟩
  rintro a ha b hb rfl
  rw [mem_singleton.mp hb] at ha
  exact hmem ha

lemma insertResourceInterface_ok (memoryDefault : Bool) (rsrcInterface : List CString)
    (newInterface : CString) (hfirst : rsrcInterface.head? = some ocRsrvdInterfaceDefault)
    (hnodup : rsrcInterface.Nodup) :
    (insertResourceInterface memoryDefault rsrcInterface newInterface).head?
        = some ocRsrvdInterfaceDefault
      ∧ (insertResourceInterface memoryDefault rsrcInterface newInterface).Nodup := by
  cases rsrcInterface with
  | nil => simp at hfirst
  | cons first rest =>
    obtain rfl : first = ocRsrvdInterfaceDefault := some.inj hfirst
    unfold insertResourceInterface
    dsimp only
    rw [if_pos rfl]
    by_cases hdefault : newInterface = ocRsrvdInterfaceDefault
    · rw [if_pos hdefault]
      exact ⟨rfl, hnodup⟩
    rw [if_neg hdefault]
    by_cases hmem : newInterface ∈ ocRsrvdInterfaceDefault :: rest
    · rw [if_pos hmem]
      exact ⟨rfl, hnodup⟩
    rw [if_neg hmem]
    refine ⟨rfl, ?_⟩
    apply nodup_append.mpr
    refine ⟨hnodup, nodup_singleton _, ?_⟩
    rintro a ha b hb rfl
    rw [mem_singleton.mp hb] at ha
    exact hmem ha

lemma insertResourceInterface_nil (memoryDefault : Bool) (newInterface : CString) :
    ((insertResourceInterface memoryDefault [] newInterface).head? = some ocRsrvdInterfaceDefault
      ∧ (insertResourceInterface memoryDefault [] newInterface).Nodup)
      ↔ newInterface = ocRsrvdInterfaceDefault ∨ memoryDefault = true := by
  unfold insertResourceInterface
  dsimp only
  by_cases hdefault : newInterface = ocRsrvdInterfaceDefault
  · rw [if_pos hdefault, hdefault]
    exact iff_of_true ⟨rfl, nodup_singleton _⟩ (.inl rfl)
  rw [if_neg hdefault, or_iff_right hdefault]
  cases memoryDefault with
  | false => exact iff_of_false (absurd ·.1 nofun) nofun
  | true =>
    refine iff_of_true ⟨rfl, ?_⟩ rfl
    apply nodup_cons.mpr
    refine ⟨?_, nodup_singleton _⟩
    intro hmem
    exact hdefault (mem_singleton.mp hmem).symm

/-! ## What the calls do -/

/-- What a call leaves: a list, and alive children exactly when it minds them; and nothing
has changed when it is refused. -/
def StepSpec (tree : ResourceTree) (minds : Prop) (after : OCStackResult × ResourceTree) : Prop :=
  (∃ list, ListInvariant after.2 list) ∧ (ChildrenAlive after.2 ↔ minds)
    ∧ (after.1 ≠ .ok → after.2 = tree)

variable {tree : ResourceTree} {list : List ℕ}

section

variable (h : ListInvariant tree list) (halive : ChildrenAlive tree)
include h halive

lemma stepSpec_unchanged (result : OCStackResult) {minds : Prop} (hminds : minds) :
    StepSpec tree minds (result, tree) :=
  ⟨⟨list, h⟩, iff_of_true halive hminds, fun _ => rfl⟩

lemma deleteResource_step (tcpAdapter : Bool) (resource : Option ℕ) :
    StepSpec tree (MindsChildren tcpAdapter tree (.delete resource))
      (deleteResource resource tree) := by
  cases resource with
  | none => exact stepSpec_unchanged h halive .invalidParam nofun
  | some resource =>
    unfold MindsChildren
    rw [h.resources_eq]
    by_cases hmem : resource ∈ list
    · obtain ⟨l₁, l₂, rfl⟩ := append_of_mem hmem
      obtain ⟨tree', hdelete, hlisted, hgone, hrest⟩ := deleteResource_spec h.toListed
      rw [hdelete]
      have hcontents : ∀ pointer stored, tree'.contents pointer = some stored →
          pointer ≠ resource ∧ tree.contents pointer = some stored := by
        intro pointer stored hstored
        by_cases heq : pointer = resource
        · rw [heq, hgone] at hstored
          simp at hstored
        · exact ⟨heq, by rw [← hrest pointer heq, hstored]⟩
      refine ⟨⟨l₁ ++ l₂, hlisted, ?_, ?_⟩, ?_, nofun⟩
      · intro pointer pointer' stored stored' hstored hstored' huri
        exact h.uris pointer pointer' stored stored' (hcontents _ _ hstored).2
          (hcontents _ _ hstored').2 huri
      · intro pointer stored hstored
        exact h.types pointer stored (hcontents _ _ hstored).2
      · constructor
        · rintro hgood pointer hpointer - other hother hne collection hcollection hchild
          obtain rfl := some.inj hpointer
          have hstored : tree'.contents other = some collection.contents := by
            rw [hrest other hne, ResourceTree.contents, hcollection]
            rfl
          have hchildAlive := (hgood other _ hstored).2 resource hchild
          rw [hgone] at hchildAlive
          simp at hchildAlive
        · intro hminds pointer stored hstored
          obtain ⟨hne, hold⟩ := hcontents pointer stored hstored
          obtain ⟨hinterfaces, hchildren⟩ := halive pointer stored hold
          refine ⟨hinterfaces, ?_⟩
          intro child hchild
          obtain ⟨collection, hcollection, rfl⟩ := map_eq_some_iff.mp hold
          have hnotchild := hminds resource rfl hmem pointer
            ((h.alive pointer).mp (by rw [hold]; rfl)) hne collection hcollection
          have hchildne : child ≠ resource := by
            rintro rfl
            exact hnotchild hchild
          rw [hrest child hchildne]
          exact hchildren child hchild
    · rw [deleteResource_missing h.toListed resource hmem]
      apply stepSpec_unchanged h halive
      rintro pointer hpointer hin
      obtain rfl := some.inj hpointer
      exact absurd hin hmem

lemma modify_spec {resource : OCResource} (hheap : tree.heap pointer = some resource)
    (change : OCResource → OCResource) (hnext : (change resource).next = resource.next)
    (huri : (change resource).uri = resource.uri)
    (htypes : (change resource).rsrcType ≠ [] ∧ (change resource).rsrcType.Nodup) :
    (∃ list, ListInvariant (tree.modify pointer change) list)
      ∧ (ChildrenAlive (tree.modify pointer change) ↔ (change resource).GoodInterfaces
          ∧ ∀ child ∈ (change resource).rsrcChildResources,
              (tree.contents child).isSome = true) := by
  have hself : (tree.modify pointer change).heap pointer = some (change resource) := by
    show update _ _ _ pointer = _
    rw [update_self, hheap]
    rfl
  have hcontents : (tree.modify pointer change).contents pointer
      = some (change resource).contents := by
    rw [ResourceTree.contents, hself]
    rfl
  have hothers := fun other => modify_contents tree pointer other change
  have hold : tree.contents pointer = some resource.contents := by
    rw [ResourceTree.contents, hheap]
    rfl
  have hsome : ∀ other, ((tree.modify pointer change).contents other).isSome
      = (tree.contents other).isSome := by
    intro other
    by_cases heq : other = pointer
    · rw [heq, hcontents, hold]
      rfl
    · rw [hothers other heq]
  -- A resource is the changed one or one that was there before.
  have hstored : ∀ other stored, (tree.modify pointer change).contents other = some stored →
      ∃ before, tree.contents other = some before ∧ before.uri = stored.uri := by
    intro other stored hother
    by_cases heq : other = pointer
    · subst heq
      rw [hcontents] at hother
      obtain rfl := some.inj hother
      exact ⟨resource.contents, hold, huri.symm⟩
    rw [hothers other heq] at hother
    exact ⟨stored, hother, rfl⟩
  refine ⟨⟨list, ⟨?_, h.nodup, h.ends, h.counted, ?_⟩, ?_, ?_⟩, ?_⟩
  · apply h.linked.congr
    intro other hother
    by_cases heq : other = pointer
    · subst heq
      rw [ResourceTree.next, ResourceTree.next, hself, hheap]
      exact hnext
    · exact modify_next tree pointer other change heq
  · intro other
    rw [hsome, h.alive]
  · intro other other' stored stored' hother hother' heq
    obtain ⟨before, hbefore, hsame⟩ := hstored other stored hother
    obtain ⟨before', hbefore', hsame'⟩ := hstored other' stored' hother'
    exact h.uris other other' before before' hbefore hbefore' (by rw [hsame, hsame', heq])
  · intro other stored hother
    by_cases heq : other = pointer
    · subst heq
      rw [hcontents] at hother
      rw [← some.inj hother]
      exact htypes
    rw [hothers other heq] at hother
    exact h.types other stored hother
  · constructor
    · intro hgood
      obtain ⟨hinterfaces, hchildren⟩ := hgood pointer _ hcontents
      refine ⟨hinterfaces, fun child hchild => ?_⟩
      rw [← hsome]
      exact hchildren child hchild
    · rintro ⟨hinterfaces, hchildren⟩ other stored hother
      by_cases heq : other = pointer
      · subst heq
        rw [hcontents] at hother
        rw [← some.inj hother]
        refine ⟨hinterfaces, fun child hchild => ?_⟩
        rw [hsome]
        exact hchildren child hchild
      rw [hothers other heq] at hother
      obtain ⟨hinterfaces', hchildren'⟩ := halive other stored hother
      refine ⟨hinterfaces', fun child hchild => ?_⟩
      rw [hsome]
      exact hchildren' child hchild

lemma ListInvariant.resource_of_mem (hmem : pointer ∈ list) :
    ∃ resource, tree.heap pointer = some resource ∧ resource.GoodInterfaces
      ∧ (resource.rsrcType ≠ [] ∧ resource.rsrcType.Nodup)
      ∧ ∀ child ∈ resource.rsrcChildResources, (tree.contents child).isSome = true := by
  have hsome := (h.alive pointer).mpr hmem
  rw [contents_isSome] at hsome
  obtain ⟨resource, hresource⟩ := isSome_iff_exists.mp hsome
  have hcontents : tree.contents pointer = some resource.contents := by
    rw [ResourceTree.contents, hresource]
    rfl
  obtain ⟨hinterfaces, hchildren⟩ := halive pointer _ hcontents
  exact ⟨resource, hresource, hinterfaces, h.types pointer resource.contents hcontents, hchildren⟩

lemma ocBindResource_step (tcpAdapter memory : Bool) (collectionHandle resourceHandle : Option ℕ) :
    StepSpec tree (MindsChildren tcpAdapter tree (.bind memory collectionHandle resourceHandle))
      (ocBindResource memory collectionHandle resourceHandle tree) := by
  unfold MindsChildren ocBindResource
  rw [h.resources_eq]
  cases collectionHandle with
  | none => exact stepSpec_unchanged h halive .error nofun
  | some collection =>
    cases resourceHandle with
    | none => exact stepSpec_unchanged h halive .error nofun
    | some child =>
      simp only [mem_some_iff, forall_eq']
      by_cases hself : collection = child
      · rw [if_pos hself]
        exact stepSpec_unchanged h halive .invalidParam (fun _ hne => absurd hself hne)
      rw [if_neg hself]
      by_cases hmem : collection ∈ list
      · rw [if_neg (not_not_intro hmem)]
        cases memory with
        | false => exact stepSpec_unchanged h halive .error nofun
        | true =>
          obtain ⟨resource, hheap, hinterfaces, htypes, hchildren⟩ :=
            h.resource_of_mem halive hmem
          rw [if_neg nofun]
          obtain ⟨hlist, hiff⟩ := modify_spec h halive hheap
            (fun collection => { collection with
              rsrcChildResources := collection.rsrcChildResources ++ [child] })
            rfl rfl htypes
          refine ⟨hlist, ?_, nofun⟩
          rw [hiff]
          constructor
          · rintro ⟨-, hall⟩ - - -
            exact (h.alive child).mp (hall child (mem_append_right _ mem_cons_self))
          · intro hin
            refine ⟨hinterfaces, ?_⟩
            intro other hother
            rcases mem_append.mp hother with hother | hother
            · exact hchildren other hother
            rw [mem_singleton.mp hother]
            exact (h.alive child).mpr (hin rfl hself hmem)
      rw [if_pos hmem]
      exact stepSpec_unchanged h halive .invalidParam (fun _ _ hin => absurd hin hmem)

lemma ocUnBindResource_step (tcpAdapter : Bool) (collectionHandle resourceHandle : Option ℕ) :
    StepSpec tree (MindsChildren tcpAdapter tree (.unbind collectionHandle resourceHandle))
      (ocUnBindResource collectionHandle resourceHandle tree) := by
  unfold MindsChildren ocUnBindResource
  rw [h.resources_eq]
  cases collectionHandle with
  | none => exact stepSpec_unchanged h halive .error trivial
  | some collection =>
    cases resourceHandle with
    | none => exact stepSpec_unchanged h halive .error trivial
    | some child =>
      dsimp only
      by_cases hself : collection = child
      · rw [if_pos hself]
        exact stepSpec_unchanged h halive .invalidParam trivial
      rw [if_neg hself]
      by_cases hmem : collection ∈ list
      · rw [if_neg (not_not_intro hmem)]
        obtain ⟨resource, hheap, hinterfaces, htypes, hchildren⟩ :=
          h.resource_of_mem halive hmem
        split
        · obtain ⟨hlist, hiff⟩ := modify_spec h halive hheap
            (fun collection => { collection with
              rsrcChildResources := collection.rsrcChildResources.erase child })
            rfl rfl htypes
          refine ⟨hlist, ?_, nofun⟩
          rw [hiff]
          exact iff_of_true ⟨hinterfaces, fun other hother =>
            hchildren other (List.mem_of_mem_erase hother)⟩ trivial
        · exact stepSpec_unchanged h halive .error trivial
      rw [if_pos hmem]
      exact stepSpec_unchanged h halive .invalidParam trivial

end

/-- What a binding makes of a resource: it leaves it as it should be, and changes nothing when it
refuses. -/
structure Bound (resource : OCResource) (result : OCStackResult × OCResource) : Prop where
  kept : result.2.next = resource.next ∧ result.2.uri = resource.uri
    ∧ result.2.rsrcChildResources = resource.rsrcChildResources
  types : resource.rsrcType ≠ [] ∧ resource.rsrcType.Nodup →
    result.2.rsrcType ≠ [] ∧ result.2.rsrcType.Nodup
  interfaces : resource.GoodInterfaces → result.2.GoodInterfaces
  refused : result.1 ≠ .ok → result.2 = resource

lemma Bound.unchanged (resource : OCResource) (result : OCStackResult) :
    Bound resource (result, resource) :=
  ⟨⟨rfl, rfl, rfl⟩, id, id, fun _ => rfl⟩

lemma bindResourceTypeToResource_bound (memory : Bool) (name : Option CString)
    (resource : OCResource) :
    Bound resource (bindResourceTypeToResource memory name resource) := by
  unfold bindResourceTypeToResource
  split
  · exact .unchanged resource _
  split
  · exact .unchanged resource _
  split
  · exact .unchanged resource _
  exact ⟨⟨rfl, rfl, rfl⟩, fun hold => insertResourceType_ok resource.rsrcType _ hold.2, id,
    fun hne => absurd rfl hne⟩

lemma bindResourceInterfaceToResource_bound (memory memoryDefault : Bool)
    (name : Option CString) (resource : OCResource) :
    Bound resource (bindResourceInterfaceToResource memory memoryDefault name resource) := by
  unfold bindResourceInterfaceToResource
  split
  · exact .unchanged resource _
  split
  · exact .unchanged resource _
  split
  · exact .unchanged resource _
  exact ⟨⟨rfl, rfl, rfl⟩, id, fun hold =>
    insertResourceInterface_ok memoryDefault resource.rsrcInterface _ hold.1 hold.2,
    fun hne => absurd rfl hne⟩

lemma bindToResource_step (h : ListInvariant tree list) (halive : ChildrenAlive tree)
    (bind : OCResource → OCStackResult × OCResource) (handle : Option ℕ)
    (hbound : ∀ resource, Bound resource (bind resource)) :
    StepSpec tree True (bindToResource bind handle tree) := by
  unfold bindToResource
  rw [h.resources_eq]
  cases handle with
  | none => exact stepSpec_unchanged h halive .error trivial
  | some handle =>
    dsimp only
    by_cases hmem : handle ∈ list
    · rw [if_neg (not_not_intro hmem)]
      obtain ⟨resource, hheap, hgood, hold, hchildren⟩ := h.resource_of_mem halive hmem
      rw [hheap]
      dsimp only
      have hbound := hbound resource
      obtain ⟨hnext, huri, hsame⟩ := hbound.kept
      obtain ⟨hlist, hiff⟩ := modify_spec h halive hheap (fun _ => (bind resource).2)
        hnext huri (hbound.types hold)
      refine ⟨hlist, ?_, ?_⟩
      · rw [hiff]
        refine iff_of_true ⟨hbound.interfaces hgood, ?_⟩ trivial
        rw [hsame]
        exact hchildren
      · intro hresult
        dsimp only
        rw [hbound.refused hresult]
        unfold ResourceTree.modify
        rw [hheap, map_some, ← hheap, Function.update_eq_self]
    rw [if_pos hmem]
    exact stepSpec_unchanged h halive .error trivial

lemma checkCreate_none {tcpAdapter : Bool} {args : CreateArgs} {uri : CString}
    (huri : args.uri = some uri) (hcheck : checkCreate tcpAdapter args tree = none) :
    (∃ name, args.resourceTypeName = some name)
      ∧ ∀ pointer ∈ tree.resources, ∀ resource ∈ tree.heap pointer, resource.uri ≠ uri := by
  unfold checkCreate at hcheck
  rw [huri] at hcheck
  dsimp only at hcheck
  split at hcheck
  · exact absurd hcheck nofun
  split at hcheck
  · exact absurd hcheck nofun
  rename_i htype
  split at hcheck
  · exact absurd hcheck nofun
  split at hcheck
  · exact absurd hcheck nofun
  split at hcheck
  · exact absurd hcheck nofun
  rename_i hsame
  constructor
  · cases hname : args.resourceTypeName with
    | some name => exact ⟨name, rfl⟩
    | none =>
      rw [hname] at htype
      exact absurd (.inr nofun) htype
  · intro pointer hpointer resource hresource heq
    apply hsame
    apply any_eq_true.mpr
    refine ⟨pointer, hpointer, ?_⟩
    rw [mem_def.mp hresource]
    exact decide_eq_true heq

lemma setUpResource_spec (tcpAdapter : Bool) (memory : CreateMemory) (args : CreateArgs)
    (uri name : CString) (hname : args.resourceTypeName = some name) :
    ∃ result resource, setUpResource tcpAdapter memory args (blankResource uri) = (result, resource)
      ∧ resource.next = none ∧ (result = .ok ↔ args.Bindable tcpAdapter memory)
      ∧ (result = .ok → resource.uri = uri ∧ resource.rsrcType = [name] ∧ resource.rsrcInterface
              = insertResourceInterface memory.interfaceDefault [] args.interface
          ∧ resource.rsrcChildResources = []) := by
  unfold setUpResource bindResourceTypeToResource bindResourceInterfaceToResource
    bindTpsTypeToResource CreateArgs.Bindable
  rw [hname]
  dsimp only
  simp only [mem_some_iff, forall_eq']
  cases memory.uri with
  | false => exact ⟨_, _, rfl, rfl, iff_of_false nofun (absurd ·.1 nofun), nofun⟩
  | true =>
  rw [if_neg nofun]
  cases hvalid : validateResourceTypeInterface name with
  | false =>
    exact ⟨_, _, rfl, rfl, iff_of_false nofun (absurd ·.2.2.2.1 nofun), nofun⟩
  | true =>
  cases memory.type with
  | false => exact ⟨_, _, rfl, rfl, iff_of_false nofun (absurd ·.2.1 nofun), nofun⟩
  | true =>
  rw [if_neg nofun, if_neg nofun]
  dsimp only
  cases hvalidInterface : validateResourceTypeInterface args.interface with
  | false =>
    exact ⟨_, _, rfl, rfl, iff_of_false nofun (absurd ·.2.2.2.2.1 nofun), nofun⟩
  | true =>
  cases memory.interface with
  | false => exact ⟨_, _, rfl, rfl, iff_of_false nofun (absurd ·.2.2.1 nofun), nofun⟩
  | true =>
  rw [if_neg nofun, if_neg nofun]
  dsimp only
  by_cases hflags : ocGetSupportedEndpointFlags tcpAdapter args.resourceTpsTypes = 0
  · rw [if_pos hflags]
    exact ⟨_, _, rfl, rfl, iff_of_false nofun (absurd hflags ·.2.2.2.2.2), nofun⟩
  rw [if_neg hflags]
  exact ⟨_, _, rfl, rfl, iff_of_true rfl ⟨rfl, rfl, rfl, rfl, rfl, hflags⟩,
    fun _ => ⟨rfl, rfl, rfl, rfl⟩⟩

lemma ocCreateResourceWithEp_step (h : ListInvariant tree list) (halive : ChildrenAlive tree)
    (tcpAdapter : Bool) (memory : CreateMemory) (args : CreateArgs)
    (hfresh : FreshNode tree (.create memory args)) :
    StepSpec tree (MindsChildren tcpAdapter tree (.create memory args))
      (ocCreateResourceWithEp tcpAdapter memory args tree) := by
  unfold MindsChildren ocCreateResourceWithEp
  cases hcheck : checkCreate tcpAdapter args tree with
  | some result =>
    exact stepSpec_unchanged h halive result (fun hnone => absurd (hcheck.symm.trans hnone) nofun)
  | none =>
    cases huri : args.uri with
    | none =>
      unfold checkCreate at hcheck
      rw [huri] at hcheck
      simp at hcheck
    | some uri =>
      obtain ⟨⟨name, hname⟩, hdifferent⟩ := checkCreate_none huri hcheck
      rw [h.resources_eq] at hdifferent
      dsimp only
      cases hnode : memory.node with
      | none => exact stepSpec_unchanged h halive .noMemory (fun _ hsome => absurd hsome nofun)
      | some pointer =>
        have hnew : tree.heap pointer = none := hfresh pointer hnode
        obtain ⟨result, resource, hset, hnext, hok, hparts⟩ :=
          setUpResource_spec tcpAdapter memory args uri name hname
        dsimp only
        rw [hset]
        dsimp only
        by_cases hresult : result = .ok
        · rw [if_pos hresult]
          obtain ⟨huri', htypes, hinterfaces, hchildren⟩ := hparts hresult
          obtain ⟨hlisted, hcontents, hothers⟩ := withResource_spec h.toListed hnew
            (blankResource uri) resource hnext
          have hold : ∀ other stored, tree.contents other = some stored → stored.uri ≠ uri := by
            intro other stored hstored
            obtain ⟨before, hbefore, rfl⟩ := map_eq_some_iff.mp hstored
            exact hdifferent other ((h.alive other).mp (by rw [hstored]; rfl)) before hbefore
          refine ⟨⟨list ++ [pointer], hlisted, ?_, ?_⟩, ?_, fun hne => absurd rfl hne⟩
          · intro other other' stored stored' hstored hstored' heq
            by_cases hother : other = pointer
            · by_cases hother' : other' = pointer
              · rw [hother, hother']
              rw [hother] at hstored
              obtain rfl := some.inj (hcontents.symm.trans hstored)
              have hbefore := (hothers other' hother').symm.trans hstored'
              exact absurd (heq.symm.trans huri') (hold other' stored' hbefore)
            have hbefore := (hothers other hother).symm.trans hstored
            by_cases hother' : other' = pointer
            · rw [hother'] at hstored'
              obtain rfl := some.inj (hcontents.symm.trans hstored')
              exact absurd (heq.trans huri') (hold other stored hbefore)
            exact h.uris other other' stored stored' hbefore
              ((hothers other' hother').symm.trans hstored') heq
          · intro other stored hstored
            by_cases hother : other = pointer
            · rw [hother] at hstored
              obtain rfl := some.inj (hcontents.symm.trans hstored)
              rw [htypes]
              exact ⟨cons_ne_nil _ _, nodup_singleton _⟩
            · exact h.types other stored ((hothers other hother).symm.trans hstored)
          · rw [forall_prop_of_true hcheck,
              forall_prop_of_true (show (some pointer).isSome = true from rfl),
              forall_prop_of_true (hok.mp hresult), ← insertResourceInterface_nil, ← hinterfaces]
            constructor
            · intro hgood
              exact (hgood pointer resource hcontents).1
            · intro hgood other stored hstored
              by_cases hother : other = pointer
              · rw [hother] at hstored
                obtain rfl := some.inj (hcontents.symm.trans hstored)
                refine ⟨hgood, ?_⟩
                rw [hchildren]
                exact nofun
              obtain ⟨hinterfaces', hchildren'⟩ :=
                halive other stored ((hothers other hother).symm.trans hstored)
              refine ⟨hinterfaces', ?_⟩
              intro child hchild
              have hchildne : child ≠ pointer := by
                rintro rfl
                have hsome := hchildren' child hchild
                rw [ResourceTree.contents, hnew] at hsome
                simp at hsome
              have hkept := hothers child hchildne
              have hchildAlive := hchildren' child hchild
              rw [← hkept] at hchildAlive
              exact hchildAlive
        · rw [if_neg hresult]
          have hback := deleteResource_withResource h.toListed hnew (blankResource uri)
            resource hnext
          unfold withResource at hback
          rw [hback]
          apply stepSpec_unchanged h halive
          intro _ _ hbindable
          exact absurd (hok.mpr hbindable) hresult

lemma treeStep_spec (h : ListInvariant tree list) (halive : ChildrenAlive tree)
    (tcpAdapter : Bool) (call : TreeCall) (hfresh : FreshNode tree call) :
    ∃ result, StepSpec tree (MindsChildren tcpAdapter tree call)
        (result, (treeStep tcpAdapter tree call).1)
      ∧ (treeStep tcpAdapter tree call).2 = [result] := by
  cases call with
  | create memory args =>
    exact ⟨_, ocCreateResourceWithEp_step h halive tcpAdapter memory args hfresh, rfl⟩
  | delete resource => exact ⟨_, deleteResource_step h halive tcpAdapter resource, rfl⟩
  | bind memory collectionHandle resourceHandle =>
    exact ⟨_, ocBindResource_step h halive tcpAdapter memory collectionHandle resourceHandle, rfl⟩
  | unbind collectionHandle resourceHandle =>
    exact ⟨_, ocUnBindResource_step h halive tcpAdapter collectionHandle resourceHandle, rfl⟩
  | bindType memory handle name =>
    exact ⟨_, bindToResource_step h halive _ handle
      (bindResourceTypeToResource_bound memory name), rfl⟩
  | bindInterface memory memoryDefault handle name =>
    exact ⟨_, bindToResource_step h halive _ handle
      (bindResourceInterfaceToResource_bound memory memoryDefault name), rfl⟩

lemma listInvariant_empty : ListInvariant ResourceTree.empty [] :=
  ⟨⟨rfl, nodup_nil, rfl, rfl, fun _ => iff_of_false nofun not_mem_nil⟩,
    fun _ _ _ _ h => absurd h nofun, fun _ _ h => absurd h nofun⟩

/-- **The list of resources stays as it should be** in every call of a run exactly when every
call minds the children. -/
theorem resourceTree_iff (tcpAdapter : Bool) (calls : List TreeCall)
    (hfresh : Runs.Along (treeStep tcpAdapter) FreshNode ResourceTree.empty calls) :
    Runs.Along (treeStep tcpAdapter) (KeepsTree tcpAdapter) ResourceTree.empty calls
      ↔ Runs.Along (treeStep tcpAdapter) (MindsChildren tcpAdapter) ResourceTree.empty calls := by
  refine Runs.along_iff (fun tree => (∃ list, ListInvariant tree list) ∧ ChildrenAlive tree) ?_
    ⟨⟨[], listInvariant_empty⟩, fun _ _ h => absurd h nofun⟩ hfresh
  rintro tree call ⟨⟨list, h⟩, halive⟩ hnew
  obtain ⟨result, ⟨⟨list', h'⟩, hminds, hrefused⟩, hresult⟩ :=
    treeStep_spec h halive tcpAdapter call hnew
  unfold KeepsTree
  rw [h'.wellFormed_iff, hresult]
  refine ⟨?_, fun hkeeps => ⟨⟨list', h'⟩, hminds.mpr hkeeps⟩⟩
  have hunchanged : [result] ≠ [OCStackResult.ok] → (treeStep tcpAdapter tree call).1 = tree := by
    intro hne
    exact hrefused (fun heq => hne (by rw [show result = .ok from heq]))
  rw [and_iff_left hunchanged]
  exact hminds

/-- `/a` with the type `x`. -/
def createA : TreeCall :=
  .create ⟨some 1, true, true, true, true⟩
    ⟨true, some (.ofBytes [0x78]), none, some (.ofBytes [0x2F, 0x61]), 1, ocAll⟩

/-- `/b` with the type `x`. -/
def createB : TreeCall :=
  .create ⟨some 2, true, true, true, true⟩
    ⟨true, some (.ofBytes [0x78]), none, some (.ofBytes [0x2F, 0x62]), 1, ocAll⟩

/-- `/b` is bound to `/a` and deleted. -/
def orphaned : ResourceTree :=
  (Runs.run (treeStep false) ResourceTree.empty
    [createA, createB, .bind true (some 1) (some 2), .delete (some 2)]).1

theorem deleted_child_stays :
    ¬ Runs.Along (treeStep false) (KeepsTree false) ResourceTree.empty
      [createA, createB, .bind true (some 1) (some 2), .delete (some 2)] := by
  rintro ⟨-, -, -, ⟨hwell, -⟩, -⟩
  obtain ⟨list, hlinked, -, -, hresources⟩ : orphaned.WellFormed := hwell
  have hspine : Spine orphaned.next orphaned.headResource [1] :=
    ⟨by decide, show orphaned.next 1 = none by decide +kernel⟩
  rw [hlinked.unique hspine] at hresources
  obtain ⟨resource, hresource, -, hchildren⟩ := hresources 1 mem_cons_self
  have hchild : (orphaned.heap 1).map OCResource.rsrcChildResources = some [2] := by
    decide
  rw [hresource, map_some, Option.some.injEq] at hchild
  have hin : (2 : ℕ) ∈ [1] := hchildren 2 (by rw [hchild]; exact mem_cons_self)
  simp at hin

theorem living_child_kept :
    Runs.Along (treeStep false) (KeepsTree false) ResourceTree.empty
      [createA, createB, .bind true (some 1) (some 2)] :=
  (resourceTree_iff false _ (by
    refine ⟨?_, ?_, trivial, trivial⟩
    · rintro pointer -
      rfl
    · rintro pointer hpointer
      obtain rfl := some.inj hpointer
      decide)).mpr (by
    refine ⟨fun _ _ _ => .inl rfl, fun _ _ _ => .inl rfl, ?_, trivial⟩
    intro collection hcollection resource hresource _ _ _
    obtain rfl := some.inj hresource
    decide)

end Iochibity.Ocf.ResourceList
