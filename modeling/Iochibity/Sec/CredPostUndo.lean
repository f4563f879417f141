/-
Refused requests to `/cred`.
-/
import Mathlib.Data.List.TakeWhile
import Iochibity.Sec.CredPost

namespace Iochibity.Sec

open List

variable {heap heap' : CredHeap} {doxm : Option OicSecDoxm} {refused head node : CredNode}
  {fuel : Nat} {el : Option Nat} {post : CredPost} {posted : PostedCred} {done : List PostedCred}
  {rest gCred : List CredNode}

/-! ## The nodes there are -/

/-- The nodes of `gCred` and those freed. Every node of the past is one of these. -/
def owned (heap : CredHeap) : List Nat := addrs heap.gCred ++ heap.freed

lemma mem_addrs {nodes : List CredNode} (h : node ∈ nodes) :
    node.addr ∈ addrs nodes :=
  mem_map_of_mem h

lemma addrs_eraseP (p : CredNode → Bool) (gCred : List CredNode) (freed : List Nat) :
    (addrs (gCred.eraseP p) ++ (((gCred.find? p).map CredNode.addr).toList ++ freed)).Perm
      (addrs gCred ++ freed) := by
  induction gCred with
  | nil => exact List.Perm.refl _
  | cons node rest ih =>
    by_cases hp : p node
    · rw [eraseP_cons_of_pos hp, find?_cons_of_pos hp]
      exact perm_middle
    rw [eraseP_cons_of_neg hp, find?_cons_of_neg hp]
    exact ih.cons node.addr

lemma owned_removeFirstId (credId : UInt16) (heap : CredHeap) :
    (owned (removeFirstId credId heap)).Perm (owned heap) :=
  addrs_eraseP _ heap.gCred heap.freed

lemma owned_removeWhere (p : OicSecCred → Bool) (heap : CredHeap) :
    (owned (removeWhere p heap)).Perm (owned heap) := by
  have hsplit : (addrs (heap.gCred.filter (!p ·.cred))
      ++ addrs (heap.gCred.filter (p ·.cred))).Perm (addrs heap.gCred) := by
    rw [addrs, addrs, ← map_append]
    apply List.Perm.map
    have hperm := filter_append_perm (fun node : CredNode => p node.cred) heap.gCred
    exact perm_append_comm.trans hperm
  have hparts := hsplit.append_right heap.freed
  rw [append_assoc] at hparts
  exact hparts

lemma owned_insertCred (node : CredNode) (heap : CredHeap) :
    (owned (insertCred node heap)).Perm (node.addr :: owned heap) := by
  rw [insertCred]
  split
  · have hadd : (owned { removeFirstId node.cred.credId heap with
        gCred := (removeFirstId node.cred.credId heap).gCred ++ [node] }).Perm
        (node.addr :: owned (removeFirstId node.cred.credId heap)) := by
      simp only [owned, addrs, map_append, map_singleton, append_assoc, singleton_append]
      exact perm_middle
    exact hadd.trans ((owned_removeFirstId _ heap).cons _)
  have hsorted : (addrs (sortByCredId heap.gCred)).Perm (addrs heap.gCred) :=
    (mergeSort_perm heap.gCred _).map _
  simp only [owned, addrs, map_append, map_singleton, append_assoc, singleton_append, getCredId]
  exact perm_middle.trans ((hsorted.append_right heap.freed).cons node.addr)

section

variable (doxm : Option OicSecDoxm) (posted : PostedCred)

lemma owned_makeRoom (heap : CredHeap) :
    (owned (makeRoom doxm posted heap)).Perm (owned heap) := by
  rw [makeRoom]
  split
  · exact owned_removeWhere _ heap
  · exact List.Perm.refl _

/-- The node of the request that a credential adds, if `GetDos` goes well. -/
def entering : List Nat :=
  if (addedNode doxm posted).isSome && posted.calls.dos then [posted.node.addr] else []

lemma owned_handleNewCredential (heap : CredHeap) :
    (owned (handleNewCredential doxm posted heap).1).Perm (entering doxm posted ++ owned heap) := by
  rw [handleNewCredential_heap, entering]
  cases hadded : addedNode doxm posted with
  | none => exact List.Perm.refl _
  | some node =>
    simp only [Option.isSome_some, Bool.true_and]
    by_cases hdos : posted.calls.dos = true
    · rw [if_pos hdos, if_pos hdos, ← (addedNode_same hadded).1]
      exact (owned_insertCred node _).trans ((owned_makeRoom doxm posted heap).cons _)
    rw [if_neg hdos, if_neg hdos]
    exact owned_makeRoom doxm posted heap

end

lemma handleNewCredential_accepted (h : accepts doxm posted = true) (heap : CredHeap) :
    (handleNewCredential doxm posted heap).1 = addPosted doxm heap posted := by
  rw [handleNewCredential_heap, addPosted]
  cases hadded : addedNode doxm posted with
  | none => rfl
  | some node =>
    rcases accepts_cases h with ⟨hnone, -⟩ | ⟨-, hdos, -⟩
    · exact absurd hadded (by simp [hnone])
    · exact if_pos hdos

lemma owned_addPosted (h : accepts doxm posted = true) (heap : CredHeap) :
    (owned (addPosted doxm heap posted)).Perm (entering doxm posted ++ owned heap) :=
  handleNewCredential_accepted h heap ▸ owned_handleNewCredential doxm posted heap

lemma postCredLoop_eq (doxm : Option OicSecDoxm) (ret : CredAnswer) (request : List PostedCred)
    (heap : CredHeap) :
    postCredLoop doxm ret request heap = match request.dropWhile (accepts doxm) with
      | [] => (request.foldl (addPosted doxm) heap, if request = [] then ret else .changed, none)
      | refused :: _ =>
        let heap := (request.takeWhile (accepts doxm)).foldl (addPosted doxm) heap
        ((handleNewCredential doxm refused heap).1, (handleNewCredential doxm refused heap).2,
          some refused.node) := by
  induction request generalizing heap ret with
  | nil => rfl
  | cons posted rest ih =>
    have hanswer := handleNewCredential_answer doxm posted heap
    rw [postCredLoop]
    by_cases haccepts : accepts doxm posted = true
    · rw [dropWhile_cons_of_pos haccepts, takeWhile_cons_of_pos haccepts]
      simp only [hanswer.mpr haccepts, ne_eq, not_true_eq_false, if_false, foldl_cons,
        handleNewCredential_accepted haccepts, ih, cons_ne_nil]
      split
      · rw [ite_self]
      · rfl
    rw [dropWhile_cons_of_neg haccepts, takeWhile_cons_of_neg haccepts]
    exact if_pos (fun h => haccepts (hanswer.mp h))

lemma owned_foldl (h : ∀ posted ∈ done, accepts doxm posted = true) (heap : CredHeap) :
    (owned (done.foldl (addPosted doxm) heap)).Perm
      (done.flatMap (entering doxm) ++ owned heap) := by
  induction done generalizing heap with
  | nil => exact List.Perm.refl _
  | cons posted rest ih =>
    rw [forall_mem_cons] at h
    rw [foldl_cons, flatMap_cons]
    apply (ih h.2 _).trans
    apply ((owned_addPosted h.1 heap).append_left _).trans
    rw [← append_assoc]
    exact perm_append_comm.append_right _

/-! ## The undo loop -/

lemma undoLoop_keeps {request : List CredNode}
    (h : undoLoop request head refused fuel el heap = .ok heap') :
    (owned heap').Perm (owned heap) ∧ heap'.gCred.Sublist heap.gCred := by
  induction fuel generalizing el heap with
  | zero =>
    cases el with
    | none =>
      rw [undoLoop, Except.ok.injEq] at h
      rw [h]
      exact ⟨List.Perm.refl _, List.Sublist.refl _⟩
    | some addr => simp [undoLoop] at h
  | succ fuel ih =>
    cases el with
    | none =>
      rw [undoLoop, Except.ok.injEq] at h
      rw [h]
      exact ⟨List.Perm.refl _, List.Sublist.refl _⟩
    | some addr =>
      rw [undoLoop] at h
      split at h
      · cases h
      split at h
      · rw [Except.ok.injEq] at h
        rw [h]
        exact ⟨List.Perm.refl _, List.Sublist.refl _⟩
      split at h
      · cases h
      obtain ⟨hperm, hsub⟩ := ih h
      exact ⟨hperm.trans (owned_removeWhere _ heap), hsub.trans filter_sublist⟩

lemma removeWhere_none {p : OicSecCred → Bool}
    (h : ∀ node ∈ heap.gCred, p node.cred = false) : removeWhere p heap = heap := by
  have hkeep : heap.gCred.filter (!p ·.cred) = heap.gCred :=
    filter_eq_self.mpr (fun node hnode => by rw [h node hnode, Bool.not_false])
  have hdrop : heap.gCred.filter (p ·.cred) = [] :=
    filter_eq_nil_iff.mpr (fun node hnode => by rw [h node hnode]; exact Bool.false_ne_true)
  rw [removeWhere, hkeep, hdrop]
  rfl

lemma nextOf_request {request pre : List CredNode} (hrequest : request = pre ++ node :: rest)
    (hnodup : (addrs request).Nodup) (hfresh : node.addr ∉ addrs heap.gCred) :
    nextOf heap request node.addr = (addrs rest).head? := by
  subst hrequest
  rw [addrs, map_append, map_cons, nodup_append] at hnodup
  rw [nextOf, if_neg hfresh, addrs, map_append, map_cons]
  apply Links.next_append
  exact fun hmem => hnodup.2.2 _ hmem _ mem_cons_self rfl

lemma undoLoop_clean {request mid : List CredNode} (hnodup : (addrs request).Nodup)
    (hfresh : ∀ node ∈ request, node.addr ∉ owned heap) (hhead : head ∈ request)
    (hsubject : mid ≠ [] → ∀ node ∈ heap.gCred, node.cred.subject ≠ head.cred.subject)
    (pre : List CredNode) (hrequest : request = pre ++ (mid ++ refused :: rest))
    (hfuel : mid.length < fuel) :
    undoLoop request head refused fuel (addrs (mid ++ refused :: rest)).head? heap = .ok heap := by
  obtain ⟨fuel, rfl⟩ := Nat.exists_eq_succ_of_ne_zero (Nat.ne_of_gt (Nat.zero_lt_of_lt hfuel))
  have hunowned : ∀ node ∈ request, node.addr ∉ addrs heap.gCred ∧ node.addr ∉ heap.freed := by
    intro node hnode
    have h := hfresh node hnode
    rwa [owned, mem_append, not_or] at h
  induction mid generalizing pre fuel with
  | nil =>
    have hmem : refused ∈ request := by simp [hrequest]
    simp only [nil_append, addrs, map_cons, head?_cons, undoLoop]
    rw [if_neg (hunowned refused hmem).2]
    rfl
  | cons node mid ih =>
    have hmem : node ∈ request := by simp [hrequest]
    have hne : node.addr ≠ refused.addr := by
      rw [hrequest] at hnodup
      simp only [addrs, map_append, map_cons, cons_append, nodup_append, nodup_cons] at hnodup
      intro heq
      apply hnodup.2.1.1
      rw [heq, mem_append]
      simp
    have hhere : addrs (node :: mid ++ refused :: rest)
        = node.addr :: addrs (mid ++ refused :: rest) := rfl
    have hlink : ¬(head.addr ∈ heap.freed
        ∨ (Links.next head.addr (addrs heap.gCred)).isSome = true) := by
      rw [Links.next_eq_none (hunowned head hhead).1, not_or]
      exact ⟨(hunowned head hhead).2, Bool.false_ne_true⟩
    have hkept : removeWhere (·.subject == head.cred.subject) heap = heap := by
      apply removeWhere_none
      intro stored hstored
      exact beq_false_of_ne (hsubject (cons_ne_nil _ _) stored hstored)
    rw [hhere, head?_cons, undoLoop, if_neg (hunowned node hmem).2, if_neg hne,
      if_neg hlink, hkept, nextOf_request hrequest hnodup (hunowned node hmem).1]
    rw [length_cons] at hfuel
    obtain ⟨fuel, rfl⟩ := Nat.exists_eq_succ_of_ne_zero (show fuel ≠ 0 by omega)
    apply ih (fun _ => hsubject (cons_ne_nil _ _)) (pre ++ [node])
    · rw [hrequest, append_assoc]
      rfl
    · omega

/-! ## Deleting the request -/

lemma deleteCredList_keeps {request : List CredNode}
    (h : deleteCredList request fuel el heap = .ok heap') :
    heap'.gCred = heap.gCred ∧ heap.freed ⊆ heap'.freed := by
  induction fuel generalizing el heap with
  | zero =>
    cases el with
    | none =>
      rw [deleteCredList, Except.ok.injEq] at h
      rw [h]
      exact ⟨rfl, List.Subset.refl _⟩
    | some addr => simp [deleteCredList] at h
  | succ fuel ih =>
    cases el with
    | none =>
      rw [deleteCredList, Except.ok.injEq] at h
      rw [h]
      exact ⟨rfl, List.Subset.refl _⟩
    | some addr =>
      rw [deleteCredList] at h
      split at h
      · cases h
      obtain ⟨hgCred, hfreed⟩ := ih h
      exact ⟨hgCred, fun a ha => hfreed (mem_cons_of_mem _ ha)⟩

lemma deleteCredList_clean {request post : List CredNode} (hnodup : (addrs request).Nodup)
    (hfresh : ∀ node ∈ post, node.addr ∉ owned heap) (pre : List CredNode)
    (hrequest : request = pre ++ post) (hfuel : post.length ≤ fuel) :
    ∃ heap', deleteCredList request fuel (addrs post).head? heap = .ok heap'
      ∧ heap'.gCred = heap.gCred ∧ ∀ a ∈ heap'.freed, a ∈ addrs post ∨ a ∈ heap.freed := by
  induction post generalizing pre fuel heap with
  | nil =>
    refine ⟨heap, ?_, rfl, fun a ha => .inr ha⟩
    cases fuel <;> rfl
  | cons node post ih =>
    rw [length_cons] at hfuel
    obtain ⟨fuel, rfl⟩ := Nat.exists_eq_succ_of_ne_zero (show fuel ≠ 0 by omega)
    have hnode := hfresh node mem_cons_self
    rw [owned, mem_append, not_or] at hnode
    have hdistinct := hnodup
    rw [hrequest, addrs, map_append, map_cons, nodup_append, nodup_cons] at hdistinct
    have hrest : ∀ node' ∈ post,
        node'.addr ∉ owned { heap with freed := node.addr :: heap.freed } := by
      intro node' hnode' hmem
      rw [owned, mem_append, mem_cons] at hmem
      have hold := hfresh node' (mem_cons_of_mem _ hnode')
      rw [owned, mem_append, not_or] at hold
      rcases hmem with hmem | heq | hmem
      · exact hold.1 hmem
      · exact hdistinct.2.1.1 (heq ▸ mem_map_of_mem hnode')
      · exact hold.2 hmem
    have hnext : request = (pre ++ [node]) ++ post := by
      rw [hrequest, append_assoc]
      rfl
    obtain ⟨heap', hdelete, hgCred, hfreed⟩ := ih hrest (pre ++ [node]) hnext
      (Nat.le_of_succ_le_succ hfuel)
    have hhere : addrs (node :: post) = node.addr :: addrs post := rfl
    refine ⟨heap', ?_, hgCred, ?_⟩
    · rw [hhere, head?_cons, deleteCredList, if_neg hnode.2, nextOf_request hrequest hnodup hnode.1]
      exact hdelete
    · intro a ha
      rw [hhere, mem_cons]
      rcases hfreed a ha with ha | ha
      · simp [ha]
      rcases mem_cons.mp ha with rfl | ha
      · omega
      · exact .inr ha

lemma deleteCredList_meets {request post : List CredNode} (hnodup : (addrs request).Nodup)
    (hnode : node ∈ post) (howned : node.addr ∈ owned heap) (pre : List CredNode)
    (hrequest : request = pre ++ post)
    (h : deleteCredList request fuel (addrs post).head? heap = .ok heap') :
    ∃ a ∈ addrs heap'.gCred, a ∈ heap'.freed := by
  induction post generalizing pre fuel heap with
  | nil => simp at hnode
  | cons first post ih =>
    have hhere : addrs (first :: post) = first.addr :: addrs post := rfl
    rw [hhere, head?_cons] at h
    cases fuel with
    | zero => simp [deleteCredList] at h
    | succ fuel =>
      rw [deleteCredList] at h
      split at h
      · cases h
      rename_i hfreed
      obtain ⟨hgCred, hkeeps⟩ := deleteCredList_keeps h
      by_cases hstored : first.addr ∈ addrs heap.gCred
      · refine ⟨first.addr, hgCred ▸ hstored, hkeeps mem_cons_self⟩
      rw [nextOf_request hrequest hnodup hstored] at h
      have hne : node ≠ first := by
        rintro rfl
        rw [owned, mem_append] at howned
        exact howned.elim hstored hfreed
      have hmem := (mem_cons.mp hnode).resolve_left hne
      have hnext : request = (pre ++ [first]) ++ post := by
        rw [hrequest, append_assoc]
        rfl
      have howned' : node.addr ∈ owned { heap with freed := first.addr :: heap.freed } := by
        rw [owned, mem_append] at howned ⊢
        exact howned.imp_right (mem_cons_of_mem _ ·)
      exact ih hmem howned' (pre ++ [first]) hnext h

/-! ## Undoing a request -/

lemma undoPost_clean {request mid : List CredNode} (hrequest : request = mid ++ refused :: rest)
    (hnodup : (addrs request).Nodup) (hfresh : ∀ node ∈ request, node.addr ∉ owned heap)
    (hsubject : ∀ head ∈ mid.head?, ∀ node ∈ heap.gCred, node.cred.subject ≠ head.cred.subject) :
    ∃ heap', undoPost request refused heap = .ok heap' ∧ heap'.gCred = heap.gCred
      ∧ ∀ a ∈ heap'.freed, a ∈ addrs request ∨ a ∈ heap.freed := by
  cases request with
  | nil => exact absurd hrequest.symm (append_ne_nil_of_right_ne_nil _ (cons_ne_nil _ _))
  | cons head tail =>
    have hlength := congrArg List.length hrequest
    rw [length_append, length_cons (a := refused)] at hlength
    have hundo : undoLoop (head :: tail) head refused ((head :: tail).length + heap.gCred.length)
        (some head.addr) heap = .ok heap := by
      have hclean := undoLoop_clean hnodup hfresh mem_cons_self
        (fun hmid => hsubject head (by
          cases mid with
          | nil => exact absurd rfl hmid
          | cons first mid =>
            rw [cons_append, List.cons.injEq] at hrequest
            rw [hrequest.1]
            rfl)) [] hrequest
        (show mid.length < (head :: tail).length + heap.gCred.length by omega)
      rwa [← hrequest] at hclean
    obtain ⟨heap', hdelete, hgCred, hfreed⟩ := deleteCredList_clean hnodup hfresh [] rfl
      (show (head :: tail).length ≤ (head :: tail).length + heap.gCred.length by omega)
    refine ⟨heap', ?_, hgCred, hfreed⟩
    simp only [undoPost, hundo]
    exact hdelete

lemma undoPost_ok {tail : List CredNode} (h : undoPost (head :: tail) refused heap = .ok heap') :
    ∃ undone, undoLoop (head :: tail) head refused ((head :: tail).length + heap.gCred.length)
        (some head.addr) heap = .ok undone
      ∧ deleteCredList (head :: tail) ((head :: tail).length + undone.gCred.length)
        (some head.addr) undone = .ok heap' := by
  rw [undoPost] at h
  cases hundo : undoLoop (head :: tail) head refused
      ((head :: tail).length + heap.gCred.length) (some head.addr) heap with
  | error stop =>
    rw [hundo] at h
    cases h
  | ok undone =>
    rw [hundo] at h
    exact ⟨undone, rfl, h⟩

lemma undoPost_length {request : List CredNode} (h : undoPost request refused heap = .ok heap') :
    heap'.gCred.length ≤ heap.gCred.length := by
  cases request with
  | nil =>
    rw [undoPost, Except.ok.injEq] at h
    rw [h]
  | cons head tail =>
    obtain ⟨undone, hundo, hdelete⟩ := undoPost_ok h
    rw [(deleteCredList_keeps hdelete).1]
    exact (undoLoop_keeps hundo).2.length_le

lemma undoPost_shrinks {tail : List CredNode} (hne : head.addr ≠ refused.addr) {stored : CredNode}
    (hstored : stored ∈ heap.gCred) (hsubject : stored.cred.subject = head.cred.subject)
    (h : undoPost (head :: tail) refused heap = .ok heap') :
    heap'.gCred.length < heap.gCred.length := by
  obtain ⟨undone, hundo, hdelete⟩ := undoPost_ok h
  rw [(deleteCredList_keeps hdelete).1]
  rw [length_cons, Nat.add_right_comm, undoLoop, if_neg hne] at hundo
  split at hundo
  · cases hundo
  split at hundo
  · cases hundo
  have hle := (undoLoop_keeps hundo).2.length_le
  apply Nat.lt_of_le_of_lt hle
  apply length_filter_lt_length_iff_exists.mpr
  refine ⟨stored, hstored, ?_⟩
  simp [hsubject]

lemma undoPost_meets {request : List CredNode} (hnodup : (addrs request).Nodup)
    (hnode : node ∈ request) (howned : node.addr ∈ owned heap)
    (h : undoPost request refused heap = .ok heap') :
    ∃ a ∈ addrs heap'.gCred, a ∈ heap'.freed := by
  cases request with
  | nil => simp at hnode
  | cons head tail =>
    obtain ⟨undone, hundo, hdelete⟩ := undoPost_ok h
    have howned' : node.addr ∈ owned undone := (undoLoop_keeps hundo).1.mem_iff.mpr howned
    exact deleteCredList_meets hnodup hnode howned' [] rfl hdelete

/-! ## The loops end -/

def pending (request : List CredNode) (heap : CredHeap) (addr : Nat) : Nat :=
  if addr ∈ addrs heap.gCred then Links.remaining addr (addrs heap.gCred)
  else heap.gCred.length + Links.remaining addr (addrs request)

lemma pending_le (request : List CredNode) (heap : CredHeap) (addr : Nat) :
    pending request heap addr ≤ request.length + heap.gCred.length := by
  have hgCred := Links.remaining_le_length addr (addrs heap.gCred)
  have hrequest := Links.remaining_le_length addr (addrs request)
  rw [addrs, length_map] at hgCred hrequest
  rw [pending]
  split
  · exact Nat.le_trans hgCred (Nat.le_add_left _ _)
  rw [Nat.add_comm]
  exact Nat.add_le_add_right hrequest _

lemma pending_nextOf {request : List CredNode} (hrequest : (addrs request).Nodup)
    (hgCred : (addrs heap.gCred).Nodup) (hsub : heap'.gCred.Sublist heap.gCred)
    (hfreed : ∀ a ∈ addrs heap.gCred, a ∈ addrs heap'.gCred ∨ a ∈ heap'.freed) {addr addr' : Nat}
    (hnext : nextOf heap request addr = some addr') (hlive : addr' ∉ heap'.freed) :
    pending request heap' addr' + 1 ≤ pending request heap addr := by
  have hsub' : (addrs heap'.gCred).Sublist (addrs heap.gCred) := hsub.map _
  have hlen := hsub.length_le
  rw [nextOf] at hnext
  rw [pending, pending]
  split at hnext
  · rename_i hmem
    have hmem' := (hfreed addr' (Links.next_mem hnext)).resolve_right hlive
    rw [if_pos hmem, if_pos hmem', ← Links.remaining_next hgCred hnext]
    exact Nat.add_le_add_right (Links.remaining_sublist hsub' hgCred hmem') 1
  rename_i hmem
  have hstep := Links.remaining_next hrequest hnext
  have hle := Links.remaining_le_length addr' (addrs heap'.gCred)
  rw [addrs, length_map] at hle
  rw [if_neg hmem]
  split
  · rw [← addrs] at hle
    omega
  · omega

lemma owned_nodup_gCred (h : (owned heap).Nodup) :
    (addrs heap.gCred).Nodup :=
  (nodup_append.mp h).1

lemma pending_of_next {request : List CredNode} {addr addr' : Nat}
    (hrequest : (addrs request).Nodup) (hgCred : (addrs heap.gCred).Nodup)
    (hnext : nextOf heap request addr = some addr') : 2 ≤ pending request heap addr := by
  rw [nextOf] at hnext
  rw [pending]
  split at hnext
  · rename_i hmem
    have hpos := Links.remaining_pos (Links.next_mem hnext)
    have hstep := Links.remaining_next hgCred hnext
    rw [if_pos hmem]
    omega
  rename_i hmem
  have hpos := Links.remaining_pos (Links.next_mem hnext)
  have hstep := Links.remaining_next hrequest hnext
  rw [if_neg hmem]
  omega

section

variable {request : List CredNode} (hrequest : (addrs request).Nodup)
include hrequest

lemma undoLoop_ends (hheap : (owned heap).Nodup)
    (hfuel : ∀ addr ∈ el, 0 < fuel ∧ (addr ∉ heap.freed → pending request heap addr ≤ fuel)) :
    undoLoop request head refused fuel el heap ≠ .error .spins := by
  induction fuel generalizing el heap with
  | zero =>
    cases el with
    | none => simp [undoLoop]
    | some addr => exact absurd (hfuel addr rfl).1 (Nat.lt_irrefl 0)
  | succ fuel ih =>
    cases el with
    | none => simp [undoLoop]
    | some addr =>
      rw [undoLoop]
      split
      · simp
      rename_i hlive
      split
      · simp
      split
      · simp
      have hgCred := owned_nodup_gCred hheap
      have hbound := (hfuel addr rfl).2 hlive
      have hperm := owned_removeWhere (·.subject == head.cred.subject) heap
      apply ih (hperm.nodup_iff.mpr hheap)
      intro addr' hnext
      have htwo := pending_of_next hrequest hgCred hnext
      refine ⟨by omega, fun hlive' => ?_⟩
      have hstep := pending_nextOf hrequest hgCred filter_sublist
        (fun a ha => mem_append.mp (hperm.mem_iff.mpr (mem_append_left _ ha))) hnext hlive'
      omega

lemma deleteCredList_ends (hgCred : (addrs heap.gCred).Nodup)
    (hfuel : ∀ addr ∈ el, 0 < fuel ∧ (addr ∉ heap.freed → pending request heap addr ≤ fuel)) :
    deleteCredList request fuel el heap ≠ .error .spins := by
  induction fuel generalizing el heap with
  | zero =>
    cases el with
    | none => simp [deleteCredList]
    | some addr => exact absurd (hfuel addr rfl).1 (Nat.lt_irrefl 0)
  | succ fuel ih =>
    cases el with
    | none => simp [deleteCredList]
    | some addr =>
      rw [deleteCredList]
      split
      · simp
      rename_i hlive
      have hbound := (hfuel addr rfl).2 hlive
      refine @ih { heap with freed := addr :: heap.freed } (nextOf heap request addr) hgCred ?_
      intro addr' hnext
      have htwo := pending_of_next hrequest hgCred hnext
      refine ⟨by omega, fun hlive' => ?_⟩
      have hstep := @pending_nextOf heap { heap with freed := addr :: heap.freed } request
        hrequest hgCred (List.Sublist.refl _) (fun a ha => .inl ha) addr addr' hnext hlive'
      omega

lemma undoPost_ends (hheap : (owned heap).Nodup) :
    undoPost request refused heap ≠ .error .spins := by
  cases request with
  | nil => simp [undoPost]
  | cons head tail =>
    have hundo := @undoLoop_ends heap refused head
      ((head :: tail).length + heap.gCred.length) (some head.addr) (head :: tail) hrequest hheap
      (fun addr _ => ⟨by rw [length_cons]; omega, fun _ => pending_le _ _ _⟩)
    intro h
    rw [undoPost] at h
    cases hrun : undoLoop (head :: tail) head refused
        ((head :: tail).length + heap.gCred.length) (some head.addr) heap with
    | error stop =>
      rw [hrun] at h hundo
      exact hundo h
    | ok undone =>
      have hundone := (undoLoop_keeps hrun).1.nodup_iff.mpr hheap
      rw [hrun] at h
      exact deleteCredList_ends hrequest (owned_nodup_gCred hundone)
        (fun addr _ => ⟨by rw [length_cons]; omega, fun _ => pending_le _ _ _⟩) h

end

/-! ## The request as a whole -/

def CredPost.request (post : CredPost) : List CredNode := post.nodes.map PostedCred.node

def CredPost.IsRead (post : CredPost) : Prop :=
  ∃ dos, post.dos = some dos ∧ dos.state ≠ .reset ∧ dos.state ≠ .rfnop

structure PostFaithful (doxm : Option OicSecDoxm) (post : CredPost) (gCred : List CredNode)
    (result : PostEnd) : Prop where
  unchanged : result.answer ≠ .changed →
    (result.heap.gCred.map CredNode.cred).Perm (gCred.map CredNode.cred)
  added : result.answer = .changed →
    result.heap.gCred = (post.nodes.foldl (addPosted doxm) ⟨gCred, []⟩).gCred
  notFreed : ∀ node ∈ result.heap.gCred, node.addr ∉ result.heap.freed

/-- Nothing has happened to `gCred` when a credential is refused: those before it were empty, it was
refused before it was added and, as the owner's, it has replaced nothing. The undo loop then removes
nothing, unless an empty credential comes first and there is one with the nil subject. -/
structure RefusedCleanly (doxm : Option OicSecDoxm) (gCred : List CredNode)
    (done : List PostedCred) (refused : PostedCred) : Prop where
  onlyEmpty : ∀ posted ∈ done, isEmptyCred posted.node.cred = true
  noNilSubject : done ≠ [] → ∀ stored ∈ gCred, stored.cred.subject ≠ OicUuid.nil
  notAdded : addedNode doxm refused ≠ none → refused.calls.dos = false
  nothingReplaced : addedNode doxm refused ≠ none → isOwnerPost doxm refused = true →
    ∀ stored ∈ gCred, stored.cred.subject ≠ refused.node.cred.subject

def CredPost.RefusedCleanly (doxm : Option OicSecDoxm) (gCred : List CredNode)
    (post : CredPost) : Prop :=
  ∀ refused rest, post.nodes.dropWhile (accepts doxm) = refused :: rest →
    Sec.RefusedCleanly doxm gCred (post.nodes.takeWhile (accepts doxm)) refused

lemma handleCredPost_unread (h : ¬post.IsRead ∨ post.decoded = none) (gRownerId : OicUuid)
    (heap : CredHeap) :
    ∃ answer, answer ≠ .changed
      ∧ handleCredPost doxm post gRownerId heap = .ok ⟨answer, heap, gRownerId⟩ := by
  obtain ⟨dos, decoded⟩ := post
  cases dos with
  | none => exact ⟨.internalServerError, by simp, rfl⟩
  | some dos =>
    by_cases hstate : dos.state = .reset ∨ dos.state = .rfnop
    · refine ⟨.notAcceptable, by simp, ?_⟩
      simp only [handleCredPost, if_pos hstate]
      rfl
    rw [not_or] at hstate
    rcases h with hunread | hnone
    · exact absurd ⟨dos, rfl, hstate.1, hstate.2⟩ hunread
    subst hnone
    refine ⟨.internalServerError, by simp, ?_⟩
    simp [handleCredPost, hstate]
    rfl

lemma handleCredPost_read (h : post.IsRead) {posted : List PostedCred} {rownerId : Option OicUuid}
    (hdecoded : post.decoded = some (posted, rownerId)) (gRownerId : OicUuid) (heap : CredHeap) :
    handleCredPost doxm post gRownerId heap
      = match posted.dropWhile (accepts doxm) with
        | [] =>
          let heap := posted.foldl (addPosted doxm) heap
          if posted = [] then .ok ⟨.internalServerError, heap, gRownerId⟩
          else .ok ⟨.changed, heap, rownerId.getD gRownerId⟩
        | refused :: _ =>
          let heap := (posted.takeWhile (accepts doxm)).foldl (addPosted doxm) heap
          (undoPost post.request refused.node (handleNewCredential doxm refused heap).1).map
            (fun undone => ⟨(handleNewCredential doxm refused heap).2, undone, gRownerId⟩) := by
  obtain ⟨dos, hdos, hreset, hrfnop⟩ := h
  have hstate : ¬(dos.state = .reset ∨ dos.state = .rfnop) := not_or.mpr ⟨hreset, hrfnop⟩
  have hrequest : post.request = posted.map PostedCred.node := by
    rw [CredPost.request, CredPost.nodes, hdecoded]
  simp only [handleCredPost, hdos, if_neg hstate, hdecoded, postCredLoop_eq, hrequest]
  cases hdrop : posted.dropWhile (accepts doxm) with
  | nil =>
    by_cases hnil : posted = []
    · simp [hnil]
      rfl
    simp [hnil]
    rfl
  | cons refused rest =>
    simp only []
    cases undoPost (posted.map PostedCred.node) refused.node
      (handleNewCredential doxm refused
        ((posted.takeWhile (accepts doxm)).foldl (addPosted doxm) heap)).1 with
    | error stop => rfl
    | ok undone => rfl

lemma foldl_empty (haccepts : ∀ posted ∈ done, accepts doxm posted = true)
    (hempty : ∀ posted ∈ done, isEmptyCred posted.node.cred = true) (heap : CredHeap) :
    done.foldl (addPosted doxm) heap = heap := by
  induction done with
  | nil => rfl
  | cons posted rest ih =>
    rw [forall_mem_cons] at haccepts hempty
    have hnone : addedNode doxm posted = none := by
      rcases accepts_cases haccepts.1 with ⟨hnone, -⟩ | ⟨-, -, hfull⟩
      · exact hnone
      · exact absurd (hempty.1.symm.trans hfull) Bool.noConfusion
    have hstep : addPosted doxm heap posted = heap := by rw [addPosted, hnone]
    rw [foldl_cons, hstep]
    exact ih haccepts.2 hempty.2

lemma handleNewCredential_untouched {doxm : Option OicSecDoxm} {refused : PostedCred}
    {heap : CredHeap} (hnotAdded : addedNode doxm refused ≠ none → refused.calls.dos = false)
    (hreplaced : addedNode doxm refused ≠ none → isOwnerPost doxm refused = true →
      ∀ stored ∈ heap.gCred, stored.cred.subject ≠ refused.node.cred.subject) :
    (handleNewCredential doxm refused heap).1 = heap := by
  rw [handleNewCredential_heap]
  cases hadded : addedNode doxm refused with
  | none => rfl
  | some node =>
    have hsome : addedNode doxm refused ≠ none := by simp [hadded]
    have hroom : makeRoom doxm refused heap = heap := by
      rw [makeRoom]
      split
      · rename_i howner
        apply removeWhere_none
        intro stored hstored
        exact beq_false_of_ne (hreplaced hsome howner stored hstored)
      · rfl
    simp [hnotAdded hsome, hroom]

/-! ## When a POST is faithful -/

lemma entering_sublist (request : List PostedCred) :
    (request.flatMap (entering doxm)).Sublist (addrs (request.map PostedCred.node)) := by
  induction request with
  | nil => simp
  | cons posted rest ih =>
    have hhere : addrs ((posted :: rest).map PostedCred.node)
        = [posted.node.addr] ++ addrs (rest.map PostedCred.node) := rfl
    rw [flatMap_cons, hhere]
    apply List.Sublist.append _ ih
    rw [entering]
    split
    · simp
    · simp

lemma mem_entering (hadded : addedNode doxm posted ≠ none) (hdos : posted.calls.dos = true) :
    posted.node.addr ∈ entering doxm posted := by
  rw [entering, if_pos]
  · simp
  · rw [hdos, Bool.and_true, Option.isSome_iff_ne_none]
    exact hadded

lemma faithful_of_accepted (hnodup : (addrs post.request ++ addrs gCred).Nodup)
    (haccepts : ∀ posted ∈ post.nodes, accepts doxm posted = true) (answer : CredAnswer)
    (hnil : answer ≠ .changed → post.nodes = []) (gRownerId : OicUuid) :
    PostFaithful doxm post gCred
      ⟨answer, post.nodes.foldl (addPosted doxm) ⟨gCred, []⟩, gRownerId⟩ := by
  refine ⟨?_, fun _ => rfl, ?_⟩
  · intro hne
    simp only [hnil hne, foldl_nil]
    exact List.Perm.refl _
  · intro node hnode hfreed
    have hperm := owned_foldl haccepts ⟨gCred, []⟩
    have hsub : (post.nodes.flatMap (entering doxm) ++ owned ⟨gCred, []⟩).Nodup := by
      rw [owned, append_nil]
      exact hnodup.sublist ((entering_sublist post.nodes).append_right _)
    have hdistinct := nodup_append.mp (hperm.nodup_iff.mpr hsub)
    exact hdistinct.2.2 _ (mem_addrs hnode) _ hfreed rfl

lemma untouched_of_notOwned {doxm : Option OicSecDoxm} {done : List PostedCred}
    {refused : PostedCred} {heap : CredHeap}
    (haccepts : ∀ posted ∈ done, accepts doxm posted = true)
    (hnone : ∀ posted, posted ∈ done ∨ posted = refused → posted.node.addr ∉
      owned (handleNewCredential doxm refused (done.foldl (addPosted doxm) heap)).1) :
    (∀ posted ∈ done, isEmptyCred posted.node.cred = true)
      ∧ (addedNode doxm refused ≠ none → refused.calls.dos = false) := by
  have howned : ∀ a, a ∈ entering doxm refused ++ (done.flatMap (entering doxm) ++ owned heap) →
      a ∈ owned (handleNewCredential doxm refused (done.foldl (addPosted doxm) heap)).1 := by
    intro a ha
    apply (owned_handleNewCredential doxm refused _).mem_iff.mpr
    rw [mem_append] at ha ⊢
    exact ha.imp_right ((owned_foldl haccepts _).mem_iff.mpr ·)
  constructor
  · intro posted hposted
    rcases accepts_cases (haccepts posted hposted) with ⟨-, hempty⟩ | ⟨⟨node, hadded⟩, hdos, -⟩
    · exact hempty
    exfalso
    apply hnone posted (.inl hposted)
    apply howned
    rw [mem_append, mem_append, mem_flatMap]
    exact .inr (.inl ⟨posted, hposted, mem_entering (by simp [hadded]) hdos⟩)
  · intro hadded
    rw [← Bool.not_eq_true]
    intro hdos
    apply hnone refused (.inr rfl)
    exact howned _ (mem_append_left _ (mem_entering hadded hdos))

lemma nothingReplaced_of_length {refused : PostedCred} (hadded : addedNode doxm refused ≠ none)
    (hdos : refused.calls.dos = false) (howner : isOwnerPost doxm refused = true)
    (hlength : gCred.length ≤ (handleNewCredential doxm refused ⟨gCred, []⟩).1.gCred.length) :
    ∀ stored ∈ gCred, stored.cred.subject ≠ refused.node.cred.subject := by
  intro stored hstored hsubject
  obtain ⟨node, hsome⟩ := Option.ne_none_iff_exists'.mp hadded
  rw [handleNewCredential_heap, hsome] at hlength
  simp only [hdos, Bool.false_eq_true, if_false, makeRoom, howner, if_true, removeWhere] at hlength
  have hlt : (gCred.filter (fun stored =>
      !(stored.cred.subject == refused.node.cred.subject))).length < gCred.length := by
    apply length_filter_lt_length_iff_exists.mpr
    exact ⟨stored, hstored, by simp [hsubject]⟩
  omega

lemma isEmptyCred_subject {cred : OicSecCred} (h : isEmptyCred cred = true) :
    cred.subject = OicUuid.nil := by
  simp only [isEmptyCred, Bool.and_eq_true, beq_iff_eq] at h
  exact h.1.1.1.1.1.1.1

lemma faithful_refused_iff (hnodup : (addrs post.request ++ addrs gCred).Nodup)
    {refused : PostedCred} {rest : List PostedCred}
    (hdrop : post.nodes.dropWhile (accepts doxm) = refused :: rest) (answer : CredAnswer)
    (hanswer : answer ≠ .changed) (gRownerId : OicUuid) :
    (∃ undone, undoPost post.request refused.node (handleNewCredential doxm refused
          ((post.nodes.takeWhile (accepts doxm)).foldl (addPosted doxm) ⟨gCred, []⟩)).1 = .ok undone
        ∧ PostFaithful doxm post gCred ⟨answer, undone, gRownerId⟩)
      ↔ RefusedCleanly doxm gCred (post.nodes.takeWhile (accepts doxm)) refused := by
  have haccepts : ∀ posted ∈ post.nodes.takeWhile (accepts doxm), accepts doxm posted = true :=
    fun posted hposted => mem_takeWhile_imp hposted
  have hnodes : post.nodes = post.nodes.takeWhile (accepts doxm) ++ refused :: rest := by
    rw [← hdrop, takeWhile_append_dropWhile]
  have hrequest : post.request = (post.nodes.takeWhile (accepts doxm)).map PostedCred.node
        ++ refused.node :: rest.map PostedCred.node := by
    rw [CredPost.request, ← map_cons, ← map_append, ← hnodes]
  obtain ⟨hdistinct, hgCred, hapart⟩ := nodup_append.mp hnodup
  generalize post.nodes.takeWhile (accepts doxm) = done at *
  constructor
  · rintro ⟨undone, hundo, hfaithful⟩
    -- no node of the request has been added, since it would have been freed in `gCred`
    have hnone : ∀ posted, posted ∈ done ∨ posted = refused → posted.node.addr ∉
        owned (handleNewCredential doxm refused (done.foldl (addPosted doxm) ⟨gCred, []⟩)).1 := by
      intro posted hposted howned
      have hnode : posted.node ∈ post.request := by
        rw [hrequest, mem_append, mem_cons]
        rcases hposted with hposted | rfl
        · exact .inl (mem_map_of_mem hposted)
        · simp
      obtain ⟨a, hgone, hfreed⟩ := undoPost_meets hdistinct hnode howned hundo
      obtain ⟨stored, hstored, rfl⟩ := mem_map.mp hgone
      exact hfaithful.notFreed stored hstored hfreed
    obtain ⟨hempty, hnotAdded⟩ := untouched_of_notOwned haccepts hnone
    have hlength := (hfaithful.unchanged hanswer).length_eq
    rw [length_map, length_map] at hlength
    rw [foldl_empty haccepts hempty] at hundo
    have hreplaced : addedNode doxm refused ≠ none → isOwnerPost doxm refused = true →
        ∀ stored ∈ gCred, stored.cred.subject ≠ refused.node.cred.subject := by
      intro hadded howner
      apply nothingReplaced_of_length hadded (hnotAdded hadded) howner
      exact hlength ▸ undoPost_length hundo
    rw [handleNewCredential_untouched hnotAdded hreplaced] at hundo
    refine ⟨hempty, ?_, hnotAdded, hreplaced⟩
    intro hne stored hstored hnil
    obtain ⟨first, done, rfl⟩ := exists_cons_of_ne_nil hne
    rw [hrequest, map_cons, cons_append] at hundo hdistinct
    have hfirst : first.node.addr ≠ refused.node.addr := by
      rw [addrs, map_cons, nodup_cons] at hdistinct
      intro heq
      apply hdistinct.1
      rw [heq]
      apply mem_map_of_mem
      simp
    have hsubject := isEmptyCred_subject (hempty first mem_cons_self)
    have hlt := undoPost_shrinks hfirst hstored (hnil.trans hsubject.symm) hundo
    exact absurd hlength (Nat.ne_of_lt hlt)
  · rintro ⟨hempty, hnil, hnotAdded, hreplaced⟩
    rw [foldl_empty haccepts hempty, handleNewCredential_untouched hnotAdded hreplaced]
    have hfresh : ∀ node ∈ post.request, node.addr ∉ owned ⟨gCred, []⟩ := by
      intro node hnode hmem
      rw [owned, append_nil] at hmem
      exact hapart _ (mem_addrs hnode) _ hmem rfl
    have hsubject : ∀ head ∈ (done.map PostedCred.node).head?, ∀ stored ∈ gCred,
        stored.cred.subject ≠ head.cred.subject := by
      intro head hhead stored hstored
      rw [head?_map, Option.mem_def, Option.map_eq_some_iff] at hhead
      obtain ⟨first, hfirst, rfl⟩ := hhead
      have hmem := mem_of_mem_head? hfirst
      rw [isEmptyCred_subject (hempty first hmem)]
      exact hnil (ne_nil_of_mem hmem) stored hstored
    obtain ⟨undone, hundo, hkept, hfreed⟩ := undoPost_clean hrequest hdistinct hfresh hsubject
    refine ⟨undone, hundo, ?_, fun h => absurd h hanswer, ?_⟩
    · intro _
      simp only [hkept]
      exact List.Perm.refl _
    · intro node hnode hmem
      simp only [hkept] at hnode
      rcases hfreed _ hmem with hmem | hmem
      · exact hapart _ hmem _ (mem_addrs hnode) rfl
      · exact absurd hmem not_mem_nil

/-- **POST to `/cred`.** For any credentials, any request and any results of the
calls, what the handler leaves behind is right exactly when a request that is refused
is refused cleanly. -/
theorem credPost_faithful_iff (doxm : Option OicSecDoxm) (post : CredPost) (gRownerId : OicUuid)
    (gCred : List CredNode) (hnodup : (addrs post.request ++ addrs gCred).Nodup) :
    (∃ result, handleCredPost doxm post gRownerId ⟨gCred, []⟩ = .ok result
        ∧ PostFaithful doxm post gCred result)
      ↔ (post.IsRead → post.RefusedCleanly doxm gCred) := by
  by_cases hunread : ¬post.IsRead ∨ post.decoded = none
  · obtain ⟨answer, hne, hhandle⟩ := handleCredPost_unread hunread gRownerId ⟨gCred, []⟩
    refine iff_of_true ⟨_, hhandle, ?_⟩ ?_
    · refine ⟨fun _ => List.Perm.refl _, fun h => absurd h hne, ?_⟩
      exact fun _ _ hfreed => absurd hfreed not_mem_nil
    · intro hread
      rw [CredPost.RefusedCleanly, CredPost.nodes, hunread.resolve_left (fun hnot => hnot hread)]
      intro refused rest hdrop
      cases hdrop
  rw [not_or, not_not] at hunread
  obtain ⟨hread, hdecoded⟩ := hunread
  obtain ⟨⟨posted, rownerId⟩, hdecoded⟩ := Option.ne_none_iff_exists'.mp hdecoded
  have hnodes : post.nodes = posted := by rw [CredPost.nodes, hdecoded]
  rw [handleCredPost_read hread hdecoded gRownerId, CredPost.RefusedCleanly]
  rw [← hnodes]
  cases hdrop : post.nodes.dropWhile (accepts doxm) with
  | nil =>
    have haccepts := dropWhile_eq_nil_iff.mp hdrop
    refine iff_of_true ?_ (fun _ refused rest h => by cases h)
    simp only
    split
    · rename_i hnil
      exact ⟨_, rfl, faithful_of_accepted hnodup haccepts _ (fun _ => hnil) _⟩
    · exact ⟨_, rfl, faithful_of_accepted hnodup haccepts _ (fun h => absurd rfl h) _⟩
  | cons refused rest =>
    have hrefused : accepts doxm refused = false := by
      have h := head?_dropWhile_not (accepts doxm) post.nodes
      rw [hdrop] at h
      simpa using h
    have hanswer : (handleNewCredential doxm refused
        ((post.nodes.takeWhile (accepts doxm)).foldl (addPosted doxm) ⟨gCred, []⟩)).2
          ≠ .changed := by
      rw [ne_eq, handleNewCredential_answer, hrefused]
      simp
    have hiff := faithful_refused_iff hnodup hdrop _ hanswer gRownerId
    constructor
    · rintro ⟨result, hhandle, hfaithful⟩ - refused' rest' heq
      rw [List.cons.injEq] at heq
      rw [← heq.1]
      apply hiff.mp
      cases hundo : undoPost post.request refused.node (handleNewCredential doxm refused
          ((post.nodes.takeWhile (accepts doxm)).foldl (addPosted doxm) ⟨gCred, []⟩)).1 with
      | error stop =>
        simp only [hundo, Except.map] at hhandle
        cases hhandle
      | ok undone =>
        simp only [hundo, Except.map, Except.ok.injEq] at hhandle
        exact ⟨undone, rfl, hhandle ▸ hfaithful⟩
    · intro hclean
      obtain ⟨undone, hundo, hfaithful⟩ := hiff.mpr (hclean hread refused rest rfl)
      exact ⟨_, congrArg (Except.map _) hundo, hfaithful⟩

def failedWrite : CredPost where
  dos := some ⟨.rfotm, false⟩
  decoded := some ([⟨⟨0, { plainCred with credId := 1 }⟩,
    ⟨none, none, true, true, false, true, true, true, true, true, true⟩⟩], none)

theorem credPost_faithful_iff_failedWrite :
    (∃ result, handleCredPost none failedWrite OicUuid.nil ⟨[], []⟩ = .ok result
        ∧ PostFaithful none failedWrite [] result)
      ↔ (failedWrite.IsRead → failedWrite.RefusedCleanly none []) :=
  credPost_faithful_iff none failedWrite OicUuid.nil [] (by decide)

theorem failedWrite_dangling :
    ¬∃ result, handleCredPost none failedWrite OicUuid.nil ⟨[], []⟩ = .ok result
      ∧ PostFaithful none failedWrite [] result := by
  rintro ⟨result, hhandle, hfaithful⟩
  have hend : (handleCredPost none failedWrite OicUuid.nil ⟨[], []⟩).map
      (fun result => (addrs result.heap.gCred, result.heap.freed)) = .ok ([0], [0]) := rfl
  rw [hhandle, Except.map, Except.ok.injEq, Prod.mk.injEq] at hend
  have hmem : 0 ∈ addrs result.heap.gCred := hend.1 ▸ mem_singleton.mpr rfl
  obtain ⟨node, hnode, hzero⟩ := mem_map.mp hmem
  apply hfaithful.notFreed node hnode
  rw [hend.2, hzero]
  simp

/-- **A POST to `/cred` always ends**: the loops that take back a refused request go at most once
over its nodes and those of `gCred`. -/
theorem handleCredPost_ends (doxm : Option OicSecDoxm) {post : CredPost} (gRownerId : OicUuid)
    {heap : CredHeap} (hnodup : (addrs post.request ++ owned heap).Nodup) :
    handleCredPost doxm post gRownerId heap ≠ .error .spins := by
  by_cases hunread : ¬post.IsRead ∨ post.decoded = none
  · obtain ⟨_, -, hhandle⟩ := @handleCredPost_unread doxm post hunread gRownerId heap
    simp [hhandle]
  obtain ⟨hread, hdecoded⟩ := not_or.mp hunread
  obtain ⟨⟨posted, rownerId⟩, hdecoded⟩ := Option.ne_none_iff_exists'.mp hdecoded
  have hentering := @entering_sublist doxm posted
  have hnodes : post.request = posted.map PostedCred.node := by
    rw [CredPost.request, CredPost.nodes, hdecoded]
  rw [handleCredPost_read (not_not.mp hread) hdecoded gRownerId, hnodes]
  rw [hnodes] at hnodup
  have haccepts := fun p => @mem_takeWhile_imp _ (accepts doxm) posted p
  have hsplit := takeWhile_append_dropWhile (p := accepts doxm) (l := posted)
  generalize posted.takeWhile (accepts doxm) = done at *
  cases hdrop : posted.dropWhile (accepts doxm) with
  | nil =>
    dsimp only
    split
    · simp
    · simp
  | cons refused rest =>
    dsimp only
    rw [hdrop] at hsplit
    have hheap : (owned (handleNewCredential doxm refused
        (done.foldl (addPosted doxm) heap)).1).Nodup := by
      have hperm := owned_handleNewCredential doxm refused (done.foldl (addPosted doxm) heap)
      rw [hperm.nodup_iff, ((owned_foldl haccepts heap).append_left _).nodup_iff, ← append_assoc]
      rw [← hsplit, flatMap_append, flatMap_cons, ← append_assoc, hsplit] at hentering
      have hsub := (sublist_append_left _ _).trans hentering
      exact (perm_append_comm.append_right _).nodup (hnodup.sublist (hsub.append_right _))
    have hends := @undoPost_ends _ refused.node _ hnodup.of_append_left hheap
    cases hundo : undoPost (posted.map PostedCred.node) refused.node
        (handleNewCredential doxm refused (done.foldl (addPosted doxm) heap)).1 with
    | error stop =>
      rw [hundo] at hends
      simpa [Except.map] using hends
    | ok undone => simp [Except.map]

theorem failedWrite_ends :
    handleCredPost none failedWrite OicUuid.nil ⟨[], []⟩ ≠ .error .spins :=
  handleCredPost_ends none OicUuid.nil (by decide)

end Iochibity.Sec
