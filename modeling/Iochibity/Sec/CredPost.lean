/-
A POST to `/cred`.
-/
import Iochibity.Lib.LinkedList
import Iochibity.Sec.DoxmResource
import Iochibity.Lib.Runs

namespace Iochibity.Sec

open Option
open UInt16 (le_iff_toNat_le lt_iff_toNat_lt reduceToNat)

section

/-! ## One credential -/

/-- `OCEntityHandlerResult`, the codes of the POST handler. -/
inductive CredAnswer
  | changed
  | error
  | notAcceptable
  | internalServerError
  deriving DecidableEq

/-- How the calls for one credential of the request go. `dos` is `GetDos` in `AddCredential`,
`write` the last `UpdatePersistentStorage`, `removeWrite` that of the `RemoveCredential` before it.
The owner's key or its text is missing when a call or an allocation for it fails. -/
structure PostCalls where
  ownerPSK : Option (List UInt8)
  base64PSK : Option (List UInt8)
  removeWrite : Bool
  dos : Bool
  write : Bool
  registerPskCredentialsHandler : Bool
  registerPkixInfoHandler : Bool
  registerIdentityHandler : Bool
  registerGetCredentialTypesHandler : Bool
  enableAnonECDHCipherSuite : Bool
  selectCipherSuite : Bool

structure PostedCred where
  node : CredNode
  calls : PostCalls

/-- The private data that `FillPrivateDataOfOwnerPSK` makes of the key. -/
def ownerPrivateData (calls : PostCalls) : OicEncodingType → Option (List UInt8)
  | .raw => calls.ownerPSK
  | .base64 => calls.ownerPSK.bind (fun _ => calls.base64PSK)
  | _ => none

def fillPrivateDataOfOwnerPSK (calls : PostCalls) (doxm : OicSecDoxm) (cred : OicSecCred) :
    Option OicSecCred :=
  match ownerPrivateData calls cred.privateData.encoding with
  | some data =>
    if cred.subject = doxm.owner ∧ cred.credType = symmetricPairWiseKey then
      some { cred with privateData := { cred.privateData with data := some data } }
    else none
  | none => none

/-- The condition of the branch for the owner's credential, with the `/doxm` it is
about. -/
def ownerDoxm (doxm : Option OicSecDoxm) (cred : OicSecCred) : Option OicSecDoxm :=
  doxm.filter (fun doxm => cred.credType != noSecurityMode && !doxm.owned
    && doxm.owner != OicUuid.nil && doxm.owner == cred.subject)

/-- What `HandleNewCredential` does after the owner's key has been added. -/
def revertHandlers (calls : PostCalls) (doxm : OicSecDoxm) : CredAnswer :=
  if doxm.oxmSel = oicRandomDevicePin ∧ calls.registerPskCredentialsHandler = false then .error
  else if doxm.oxmSel = oicManufacturerCertificate
      ∧ (calls.registerPkixInfoHandler && calls.registerIdentityHandler
        && calls.registerGetCredentialTypesHandler) = false then .error
  else if calls.enableAnonECDHCipherSuite && calls.selectCipherSuite then .changed
  else .error

def handleOwnerCred (doxm : OicSecDoxm) (posted : PostedCred) (heap : CredHeap) :
    CredHeap × CredAnswer :=
  let { node, calls } := posted
  if node.cred.credType = symmetricPairWiseKey then
    match fillPrivateDataOfOwnerPSK calls doxm node.cred with
    | some cred =>
      let (heap, _) := removeCredential calls.removeWrite cred.subject heap
      let (heap, result) := addCredential calls.dos calls.write { node with cred := cred } heap
      (heap, if result = .ok then revertHandlers calls doxm else .error)
    | none => (heap, .error)
  else (heap, .error)

variable (doxm : Option OicSecDoxm) (posted : PostedCred)

variable (heap : CredHeap)

def handleNewCredential : CredHeap × CredAnswer :=
  let { node, calls } := posted
  match ownerDoxm doxm node.cred with
  | some doxm => handleOwnerCred doxm posted heap
  | none =>
    if isEmptyCred node.cred then (heap, if calls.write then .changed else .error)
    else
      let (heap, result) := addCredential calls.dos calls.write node heap
      (heap, if result = .ok then .changed else .error)

/-! ## The request -/

/-- Why the handler does not answer: it reads or frees a node that is freed already; or, in the
model, a loop does not end. -/
inductive CredStop
  | freedMemory
  | spins
  deriving DecidableEq

def addrs (nodes : List CredNode) : List Nat := nodes.map CredNode.addr

/-- The link of a node. That of a node in `gCred` was set when it was added; that of another one is
still the one of the request. -/
def nextOf (request : List CredNode) (addr : Nat) : Option Nat :=
  if addr ∈ addrs heap.gCred then Links.next addr (addrs heap.gCred)
  else Links.next addr (addrs request)

/-- The loop over the request, with the last answer and the credential that was refused. The link of
a node is read before the node is handled, so it is the one of the request. -/
def postCredLoop (doxm : Option OicSecDoxm) (ret : CredAnswer) :
    List PostedCred → CredHeap → CredHeap × CredAnswer × Option CredNode
  | [], heap => (heap, ret, none)
  | posted :: rest, heap =>
    let (heap, ret) := handleNewCredential doxm posted heap
    if ret ≠ .changed then (heap, ret, some posted.node) else postCredLoop doxm ret rest heap

/-- The loop that removes the credentials added so far: at each node up to the refused one it calls
`RemoveCredential(&cred->subject)`, with `cred` always the first node of the request. -/
def undoLoop (request : List CredNode) (head refused : CredNode) :
    Nat → Option Nat → CredHeap → Except CredStop CredHeap
  | _, none, heap => .ok heap
  | 0, some _, _ => .error .spins
  | fuel + 1, some addr, heap =>
    if addr ∈ heap.freed then .error .freedMemory
    else if addr = refused.addr then .ok heap
    -- the subject is read from the first node at each node of `gCred`, so also after
    -- the first node has itself been removed
    else if head.addr ∈ heap.freed ∨ (Links.next head.addr (addrs heap.gCred)).isSome then
      .error .freedMemory
    else
      undoLoop request head refused fuel (nextOf heap request addr)
        (removeWhere (·.subject == head.cred.subject) heap)

def deleteCredList (request : List CredNode) :
    Nat → Option Nat → CredHeap → Except CredStop CredHeap
  | _, none, heap => .ok heap
  | 0, some _, _ => .error .spins
  | fuel + 1, some addr, heap =>
    if addr ∈ heap.freed then .error .freedMemory
    else
      deleteCredList request fuel (nextOf heap request addr)
        { heap with freed := addr :: heap.freed }

def undoPost (request : List CredNode) (refused : CredNode) (heap : CredHeap) :
    Except CredStop CredHeap :=
  match request with
  | [] => .ok heap
  | head :: _ => do
      let heap ← undoLoop request head refused (request.length + heap.gCred.length)
        (some head.addr) heap
      deleteCredList request (request.length + heap.gCred.length) (some head.addr) heap

structure PostEnd where
  answer : CredAnswer
  heap : CredHeap
  gRownerId : OicUuid

/-- What the handler is given: the result of `GetDos`, and what `CBORPayloadToCred`
makes of the payload. -/
structure CredPost where
  dos : Option OicSecDostype
  decoded : Option (List PostedCred × Option OicUuid)

def CredPost.nodes (post : CredPost) : List PostedCred :=
  match post.decoded with
  | some (posted, _) => posted
  | none => []

def handleCredPost (doxm : Option OicSecDoxm) (post : CredPost) (gRownerId : OicUuid)
    (heap : CredHeap) : Except CredStop PostEnd := do
  match post.dos with
  | none => return ⟨.internalServerError, heap, gRownerId⟩
  | some dos =>
    if dos.state = .reset ∨ dos.state = .rfnop then
      return ⟨.notAcceptable, heap, gRownerId⟩
    match post.decoded with
    | none => return ⟨.internalServerError, heap, gRownerId⟩
    | some (posted, rownerId) =>
      match postCredLoop doxm .internalServerError posted heap with
      | (heap, ret, none) =>
        return ⟨ret, heap, if ret = .changed then rownerId.getD gRownerId else gRownerId⟩
      | (heap, ret, some refused) =>
        let heap ← undoPost (posted.map PostedCred.node) refused heap
        return ⟨ret, heap, gRownerId⟩

/-! ## What one credential does -/

def addedNode : Option CredNode :=
  let { node, calls } := posted
  match ownerDoxm doxm node.cred with
  | some doxm =>
    if node.cred.credType = symmetricPairWiseKey then
      (fillPrivateDataOfOwnerPSK calls doxm node.cred).map (fun cred => { node with cred := cred })
    else none
  | none => if isEmptyCred node.cred then none else some node

def isOwnerPost : Bool :=
  (ownerDoxm doxm posted.node.cred).isSome

def makeRoom : CredHeap :=
  if isOwnerPost doxm posted then
    removeWhere (·.subject == posted.node.cred.subject) heap
  else heap

def addPosted (doxm : Option OicSecDoxm) (heap : CredHeap) (posted : PostedCred) : CredHeap :=
  match addedNode doxm posted with
  | some node => insertCred node (makeRoom doxm posted heap)
  | none => heap

def accepts : Bool :=
  let { node, calls } := posted
  match ownerDoxm doxm node.cred with
  | some doxm =>
    node.cred.credType == symmetricPairWiseKey
      && (fillPrivateDataOfOwnerPSK calls doxm node.cred).isSome
      && calls.dos && calls.write && revertHandlers calls doxm == .changed
  | none => if isEmptyCred node.cred then calls.write else calls.dos && calls.write

lemma fillPrivateDataOfOwnerPSK_subject {calls : PostCalls} {doxm : OicSecDoxm}
    {cred cred' : OicSecCred} (h : fillPrivateDataOfOwnerPSK calls doxm cred = some cred') :
    cred'.subject = cred.subject := by
  rw [fillPrivateDataOfOwnerPSK] at h
  split at h
  · split at h
    · rw [← some.inj h]
    · cases h
  · cases h

lemma addedNode_same {doxm : Option OicSecDoxm} {posted : PostedCred} {node : CredNode}
    (h : addedNode doxm posted = some node) :
    node.addr = posted.node.addr ∧ node.cred.subject = posted.node.cred.subject := by
  simp only [addedNode] at h
  split at h
  · split at h
    · obtain ⟨cred, hfill, rfl⟩ := map_eq_some_iff.mp h
      exact ⟨rfl, fillPrivateDataOfOwnerPSK_subject hfill⟩
    · cases h
  split at h
  · cases h
  rw [← some.inj h]
  exact ⟨rfl, rfl⟩

lemma addCredential_heap (dos write : Bool) (newCred : CredNode) (heap : CredHeap) :
    (addCredential dos write newCred heap).1 = if dos then insertCred newCred heap else heap := by
  cases dos <;> rfl

lemma addCredential_ok (dos write : Bool) (newCred : CredNode) (heap : CredHeap) :
    (addCredential dos write newCred heap).2 = .ok ↔ (dos && write) = true := by
  cases dos <;> cases write <;> simp [addCredential]

lemma handleNewCredential_heap :
    (handleNewCredential doxm posted heap).1 = match addedNode doxm posted with
      | some node =>
        if posted.calls.dos then insertCred node (makeRoom doxm posted heap)
        else makeRoom doxm posted heap
      | none => heap := by
  obtain ⟨node, calls⟩ := posted
  rcases eq_none_or_eq_some (ownerDoxm doxm node.cred) with howner | ⟨owner, howner⟩
  · simp only [handleNewCredential, addedNode, makeRoom, isOwnerPost, howner,
      isSome_none, Bool.false_eq_true, if_false]
    by_cases hempty : isEmptyCred node.cred
    · simp [hempty]
    rw [if_neg hempty, if_neg hempty]
    exact addCredential_heap calls.dos calls.write node heap
  simp only [handleNewCredential, handleOwnerCred, addedNode, makeRoom, isOwnerPost, howner,
    isSome_some, if_true]
  by_cases htype : node.cred.credType = symmetricPairWiseKey
  · rw [if_pos htype, if_pos htype]
    cases hfill : fillPrivateDataOfOwnerPSK calls owner node.cred with
    | none => rfl
    | some cred =>
      simp [removeCredential, removed, addCredential_heap, fillPrivateDataOfOwnerPSK_subject hfill]
  · simp [htype]

lemma handleNewCredential_answer :
    (handleNewCredential doxm posted heap).2 = .changed ↔ accepts doxm posted = true := by
  obtain ⟨node, calls⟩ := posted
  have hok := addCredential_ok calls.dos calls.write
  rcases eq_none_or_eq_some (ownerDoxm doxm node.cred) with howner | ⟨owner, howner⟩
  · simp only [handleNewCredential, accepts, howner]
    by_cases hempty : isEmptyCred node.cred
    · simp [hempty]
    simp only [hempty, hok, Bool.false_eq_true, if_false]
    by_cases hboth : (calls.dos && calls.write) = true
    · simp [hboth]
    · simp [hboth]
  simp only [handleNewCredential, handleOwnerCred, accepts, howner]
  by_cases htype : node.cred.credType = symmetricPairWiseKey
  · rw [if_pos htype]
    cases hfill : fillPrivateDataOfOwnerPSK calls owner node.cred with
    | none => simp
    | some cred =>
      simp only [hok, htype, beq_self_eq_true, isSome_some, Bool.true_and]
      by_cases hboth : (calls.dos && calls.write) = true
      · simp [hboth]
      · simp [hboth]
  · simp [htype]

lemma accepts_cases {doxm : Option OicSecDoxm} {posted : PostedCred}
    (h : accepts doxm posted = true) :
    (addedNode doxm posted = none ∧ isEmptyCred posted.node.cred = true)
      ∨ ((∃ node, addedNode doxm posted = some node) ∧ posted.calls.dos = true
        ∧ isEmptyCred posted.node.cred = false) := by
  obtain ⟨node, calls⟩ := posted
  rcases eq_none_or_eq_some (ownerDoxm doxm node.cred) with howner | ⟨owner, howner⟩
  · simp only [accepts, addedNode, howner] at h ⊢
    by_cases hempty : isEmptyCred node.cred
    · left
      exact ⟨if_pos hempty, hempty⟩
    right
    rw [if_neg hempty, Bool.and_eq_true] at h
    exact ⟨⟨node, if_neg hempty⟩, h.1, Bool.eq_false_iff.mpr hempty⟩
  simp only [accepts, addedNode, howner, Bool.and_eq_true, beq_iff_eq] at h ⊢
  obtain ⟨⟨⟨⟨htype, hfill⟩, hdos⟩, -⟩, -⟩ := h
  right
  obtain ⟨cred, hfill⟩ := isSome_iff_exists.mp hfill
  refine ⟨⟨{ node with cred := cred }, ?_⟩, hdos, ?_⟩
  · rw [if_pos htype, hfill]
    rfl
  · -- an empty credential has no type
    simp [isEmptyCred, htype, symmetricPairWiseKey]

end

open List

def credIds (gCred : List CredNode) : List UInt16 := gCred.map (·.cred.credId)

def WellNumbered (ids : List UInt16) : Prop := ids.Nodup ∧ 0 ∉ ids

def FreeCredId (ids : List UInt16) (id : UInt16) : Prop := 0 < id ∧ id < uint16Max ∧ id ∉ ids

def SmallestFree (ids : List UInt16) (id : UInt16) : Prop :=
  FreeCredId ids id ∧ ∀ id', FreeCredId ids id' → id ≤ id'

variable {ids : List UInt16}

lemma wellNumbered_perm {ids' : List UInt16} (h : ids.Perm ids') :
    WellNumbered ids ↔ WellNumbered ids' := by
  rw [WellNumbered, WellNumbered, h.nodup_iff, h.mem_iff]

lemma wellNumbered_sublist {ids' : List UInt16} (h : ids.Sublist ids')
    (hids : WellNumbered ids') : WellNumbered ids :=
  ⟨hids.1.sublist h, fun hzero => hids.2 (h.subset hzero)⟩

lemma wellNumbered_append {id : UInt16} (hids : WellNumbered ids) (hzero : id ≠ 0)
    (hfresh : id ∉ ids) : WellNumbered (ids ++ [id]) := by
  constructor
  · rw [nodup_append]
    refine ⟨hids.1, nodup_singleton id, ?_⟩
    rintro a ha b hb rfl
    exact hfresh (mem_singleton.mp hb ▸ ha)
  · rw [mem_append, mem_singleton, not_or]
    exact ⟨hids.2, hzero.symm⟩

/-! ## `GetCredId` -/

variable {gCred : List CredNode}

lemma nextCredId_spec {next : UInt16} (hsorted : (credIds gCred).Pairwise (· < ·))
    (hge : ∀ id ∈ credIds gCred, next ≤ id) :
    (nextCredId gCred next = 0 ∧ ∀ id, next ≤ id → id ∈ credIds gCred)
    ∨ (next ≤ nextCredId gCred next ∧ nextCredId gCred next ∉ credIds gCred
      ∧ ∀ id, next ≤ id → id < nextCredId gCred next → id ∈ credIds gCred) := by
  induction gCred generalizing next with
  | nil =>
    right
    refine ⟨UInt16.le_refl _, not_mem_nil, ?_⟩
    intro id hle hlt
    exact absurd hlt (UInt16.not_lt.mpr hle)
  | cons node rest ih =>
    simp only [credIds, map_cons, pairwise_cons, forall_mem_cons] at hsorted hge
    rw [nextCredId]
    by_cases hnext : node.cred.credId = next
    · rw [if_pos hnext]
      rw [hnext] at hsorted
      by_cases hlast : next = uint16Max
      · -- nothing comes after 65535
        left
        have hnil : rest = [] := by
          cases rest with
          | nil => rfl
          | cons node' rest =>
            have hgt := hsorted.1 _ mem_cons_self
            rw [hlast, lt_iff_toNat_lt] at hgt
            have hbound := node'.cred.credId.toNat_lt
            simp only [uint16Max, reduceToNat] at hgt
            omega
        rw [hnil, hlast]
        refine ⟨rfl, ?_⟩
        intro id hle
        have heq : id = uint16Max := by
          rw [le_iff_toNat_le] at hle
          have hbound := id.toNat_lt
          simp only [uint16Max, reduceToNat] at hle
          apply UInt16.toNat_inj.mp
          simp only [uint16Max, reduceToNat]
          omega
        rw [credIds, map_cons, hnext, hlast, heq]
        simp
      have hsucc : (next + 1).toNat = next.toNat + 1 := by
        have hbound := next.toNat_lt
        have hne : next.toNat ≠ 65535 := fun h => hlast (UInt16.toNat_inj.mp h)
        rw [UInt16.toNat_add]
        simp only [reduceToNat]
        omega
      have hstep : ∀ id : UInt16, next ≤ id ↔ id = next ∨ next + 1 ≤ id := by
        intro id
        rw [le_iff_toNat_le, le_iff_toNat_le, hsucc, ← UInt16.toNat_inj]
        omega
      have hge' : ∀ id ∈ credIds rest, next + 1 ≤ id := by
        intro id hid
        have hlt := hsorted.1 id hid
        rw [lt_iff_toNat_lt] at hlt
        rw [le_iff_toNat_le, hsucc]
        omega
      have hmem : ∀ id, id ∈ credIds (node :: rest) ↔ id = next ∨ id ∈ credIds rest := by
        intro id
        rw [credIds, map_cons, mem_cons, hnext, credIds]
      rcases ih hsorted.2 hge' with ⟨hzero, hall⟩ | ⟨hle, hnot, hbelow⟩
      · left
        refine ⟨hzero, fun id hid => (hmem id).mpr ?_⟩
        rcases (hstep id).mp hid with rfl | hid
        · exact .inl rfl
        · simp [hall, hid]
      right
      refine ⟨(hstep _).mpr (.inr hle), ?_, ?_⟩
      · rw [hmem, not_or]
        refine ⟨?_, hnot⟩
        intro heq
        rw [heq, le_iff_toNat_le, hsucc] at hle
        omega
      · intro id hid hlt
        rw [hmem]
        rcases (hstep id).mp hid with rfl | hid
        · exact .inl rfl
        · exact .inr (hbelow id hid hlt)
    · rw [if_neg hnext]
      right
      have hlt : next < node.cred.credId := UInt16.lt_of_le_of_ne hge.1 (hnext ·.symm)
      refine ⟨UInt16.le_refl _, ?_, fun id hle hlt => absurd hlt (UInt16.not_lt.mpr hle)⟩
      rw [credIds, map_cons, mem_cons, not_or]
      exact ⟨fun h => hnext h.symm,
        fun h => absurd (hsorted.1 _ h) (UInt16.not_lt.mpr (UInt16.le_of_lt hlt))⟩

lemma sortByCredId_spec (h : (credIds gCred).Nodup) :
    (sortByCredId gCred).Perm gCred ∧ (credIds (sortByCredId gCred)).Pairwise (· < ·) := by
  have hperm : (sortByCredId gCred).Perm gCred := mergeSort_perm gCred _
  have hsorted : (sortByCredId gCred).Pairwise (fun a b => a.cred.credId ≤ b.cred.credId) := by
    have hs := @pairwise_mergeSort CredNode (fun a b => decide (a.cred.credId ≤ b.cred.credId))
      (fun a b c hab hbc => by
        rw [decide_eq_true_eq] at hab hbc ⊢
        exact UInt16.le_trans hab hbc)
      (fun a b => by
        rw [Bool.or_eq_true, decide_eq_true_eq, decide_eq_true_eq]
        exact UInt16.le_total _ _) gCred
    exact hs.imp (fun hab => of_decide_eq_true hab)
  refine ⟨hperm, ?_⟩
  have hnodup : (credIds (sortByCredId gCred)).Nodup := (hperm.map _).nodup_iff.mpr h
  have hle : (credIds (sortByCredId gCred)).Pairwise (· ≤ ·) := pairwise_map.mpr hsorted
  exact (hle.and hnodup).imp (fun hab => UInt16.lt_of_le_of_ne hab.1 hab.2)

lemma getCredId_spec (h : WellNumbered (credIds gCred)) :
    SmallestFree (credIds gCred) (getCredId gCred).1
    ∨ ((getCredId gCred).1 = 0 ∧ ∀ id, ¬FreeCredId (credIds gCred) id) := by
  obtain ⟨hperm, hsorted⟩ := sortByCredId_spec h.1
  have hmem : ∀ id, id ∈ credIds (sortByCredId gCred) ↔ id ∈ credIds gCred :=
    fun id => (hperm.map _).mem_iff
  have hpos : ∀ id : UInt16, 1 ≤ id ↔ 0 < id := by
    intro id
    rw [le_iff_toNat_le, lt_iff_toNat_lt]
    rfl
  have hge : ∀ id ∈ credIds (sortByCredId gCred), 1 ≤ id := by
    intro id hid
    rw [hpos, UInt16.pos_iff_ne_zero]
    rintro rfl
    exact h.2 ((hmem 0).mp hid)
  have hspec := nextCredId_spec hsorted hge
  simp only [hmem, hpos] at hspec
  have hresult : (getCredId gCred).1
      = if nextCredId (sortByCredId gCred) 1 < uint16Max then nextCredId (sortByCredId gCred) 1
        else 0 := rfl
  rw [hresult]
  rcases hspec with ⟨hzero, hall⟩ | ⟨hstart, hnot, hbelow⟩
  · -- the counter has wrapped
    right
    rw [hzero]
    refine ⟨rfl, ?_⟩
    rintro id ⟨hid, -, hfree⟩
    exact hfree (hall id hid)
  by_cases hlt : nextCredId (sortByCredId gCred) 1 < uint16Max
  · left
    rw [if_pos hlt]
    refine ⟨⟨hstart, hlt, hnot⟩, ?_⟩
    rintro id ⟨hid, -, hfree⟩
    exact UInt16.not_lt.mp (fun hsmall => hfree (hbelow id hid hsmall))
  right
  rw [if_neg hlt]
  refine ⟨rfl, ?_⟩
  rintro id ⟨hid, hmax, hfree⟩
  exact hfree (hbelow id hid (UInt16.lt_of_lt_of_le hmax (UInt16.not_lt.mp hlt)))

/-! ## The operations -/

lemma credIds_removeWhere (p : OicSecCred → Bool) (heap : CredHeap) :
    (credIds (removeWhere p heap).gCred).Sublist (credIds heap.gCred) :=
  filter_sublist.map _

lemma credIds_removeWheres (credIdList : List UInt16) (heap : CredHeap) :
    (credIds (credIdList.foldl
      (fun h credId => removeWhere (·.credId == credId) h) heap).gCred).Sublist
      (credIds heap.gCred) := by
  induction credIdList generalizing heap with
  | nil => simp
  | cons credId credIdList ih =>
    rw [foldl_cons]
    exact (ih _).trans (credIds_removeWhere _ heap)

variable {newCred : CredNode}

lemma insertCred_given (heap : CredHeap) (hid : newCred.cred.credId ≠ 0) :
    (insertCred newCred heap).gCred
      = heap.gCred.eraseP (·.cred.credId == newCred.cred.credId) ++ [newCred] := by
  rw [insertCred, if_pos hid]
  rfl

lemma insertCred_assigned (heap : CredHeap) (hid : newCred.cred.credId = 0) :
    (insertCred newCred heap).gCred = sortByCredId heap.gCred
        ++ [{ newCred with cred := { newCred.cred with credId := (getCredId heap.gCred).1 } }] := by
  rw [insertCred, if_neg (not_not.mpr hid)]
  rfl

lemma credIds_append (gCred : List CredNode) (node : CredNode) :
    credIds (gCred ++ [node]) = credIds gCred ++ [node.cred.credId] := by
  rw [credIds, map_append, map_singleton, credIds]

variable {heap : CredHeap}

lemma wellNumbered_given (h : WellNumbered (credIds heap.gCred)) (hid : newCred.cred.credId ≠ 0) :
    WellNumbered (credIds (insertCred newCred heap).gCred) := by
  have herase : credIds (heap.gCred.eraseP (·.cred.credId == newCred.cred.credId))
      = (credIds heap.gCred).erase newCred.cred.credId := by
    rw [erase_eq_eraseP, credIds, credIds, eraseP_map]
    congr 2
    funext node
    exact Bool.beq_comm
  rw [insertCred_given heap hid, credIds_append, herase]
  apply wellNumbered_append (wellNumbered_sublist erase_sublist h) hid
  exact fun hmem => absurd rfl (h.1.mem_erase_iff.mp hmem).1

lemma insertCred_cases (h : WellNumbered (credIds heap.gCred)) (hid : newCred.cred.credId = 0) :
    (∃ id, SmallestFree (credIds heap.gCred) id
      ∧ WellNumbered (credIds (insertCred newCred heap).gCred)
      ∧ (insertCred newCred heap).gCred.Perm
        ({ newCred with cred := { newCred.cred with credId := id } } :: heap.gCred))
    ∨ ((∀ id, ¬FreeCredId (credIds heap.gCred) id)
      ∧ 0 ∈ credIds (insertCred newCred heap).gCred) := by
  obtain ⟨hperm, -⟩ := sortByCredId_spec h.1
  have hids := hperm.map (·.cred.credId)
  rw [insertCred_assigned heap hid, credIds_append]
  rcases getCredId_spec h with hfree | ⟨hzero, hnone⟩
  · left
    refine ⟨(getCredId heap.gCred).1, hfree, ?_, ?_⟩
    · apply wellNumbered_append ((wellNumbered_perm hids).mpr h)
      · exact UInt16.pos_iff_ne_zero.mp hfree.1.1
      · exact fun hmem => hfree.1.2.2 (hids.mem_iff.mp hmem)
    · exact (perm_append_singleton _ _).trans (hperm.cons _)
  right
  refine ⟨hnone, ?_⟩
  rw [mem_append, hzero]
  simp

/-! ## Runs -/

inductive CredOp
  | add (dos write : Bool) (newCred : CredNode)
  | remove (write : Bool) (subject : OicUuid)
  | removeById (write : Bool) (credId : UInt16)
  | removeByIds (write : Bool) (credIdList : List UInt16)

def CredOp.call (op : CredOp) (heap : CredHeap) : CredHeap × CredResult :=
  match op with
  | .add dos write newCred => addCredential dos write newCred heap
  | .remove write subject => removeCredential write subject heap
  | .removeById write credId => removeCredentialByCredId write credId heap
  | .removeByIds write credIdList => removeCredentialByCredIds write credIdList heap

structure CredPoint where
  op : CredOp
  before : List CredNode
  after : List CredNode
  result : CredResult

def CredHeap.step (heap : CredHeap) (op : CredOp) : CredHeap × List CredPoint :=
  ((op.call heap).1, [⟨op, heap.gCred, (op.call heap).1.gCred, (op.call heap).2⟩])

def CredPoint.AssignsSmallest (point : CredPoint) (newCred : CredNode) : Prop :=
  (point.result ≠ .ok ∧ point.after = point.before)
  ∨ ∃ id, SmallestFree (credIds point.before) id ∧ point.after.Perm
      ({ newCred with cred := { newCred.cred with credId := id } } :: point.before)

def CredPoint.Good (point : CredPoint) : Prop :=
  WellNumbered (credIds point.after)
    ∧ ∀ dos write newCred, point.op = .add dos write newCred → newCred.cred.credId = 0 →
      point.AssignsSmallest newCred

/-- A credential that asks for an id, and gets past `GetDos`, meets a free number. -/
def CredOp.MeetsFreeId (heap : CredHeap) : CredOp → Prop
  | .add dos _ newCred => dos = true → newCred.cred.credId = 0 →
      ∃ id, FreeCredId (credIds heap.gCred) id
  | _ => True

lemma removing_good (h : WellNumbered (credIds heap.gCred)) {op : CredOp}
    (hop : ∀ dos write newCred, op ≠ .add dos write newCred) :
    WellNumbered (credIds (op.call heap).1.gCred) := by
  cases op with
  | add dos write newCred => exact absurd rfl (hop dos write newCred)
  | remove write subject => exact wellNumbered_sublist (credIds_removeWhere _ heap) h
  | removeById write credId =>
    simp only [CredOp.call, removeCredentialByCredId]
    split
    · exact h
    · exact wellNumbered_sublist (credIds_removeWhere _ heap) h
  | removeByIds write credIdList => exact wellNumbered_sublist (credIds_removeWheres _ heap) h

lemma assigning_good (h : WellNumbered (credIds heap.gCred)) (write : Bool)
    (hid : newCred.cred.credId = 0) :
    (CredPoint.Good ⟨.add true write newCred, heap.gCred, (insertCred newCred heap).gCred,
        if write then .ok else .error⟩
      ↔ ∃ id, FreeCredId (credIds heap.gCred) id)
    ∧ ((∃ id, FreeCredId (credIds heap.gCred) id) →
      WellNumbered (credIds (insertCred newCred heap).gCred)) := by
  rcases insertCred_cases h hid with ⟨id, hfree, hwell, hperm⟩ | ⟨hnone, hzero⟩
  · refine ⟨iff_of_true ⟨hwell, ?_⟩ ⟨id, hfree.1⟩, fun _ => hwell⟩
    intro dos write' newCred' hop _
    simp only [CredOp.add.injEq] at hop
    obtain ⟨-, -, rfl⟩ := hop
    exact .inr ⟨id, hfree, hperm⟩
  refine ⟨iff_of_false (·.1.2 hzero) ?_, ?_⟩
  · rintro ⟨id, hid⟩
    exact hnone id hid
  · rintro ⟨id, hid⟩
    exact absurd hid (hnone id)

lemma other_good {op : CredOp} (hwell : WellNumbered (credIds (op.call heap).1.gCred))
    (hop : ∀ write newCred, op = .add true write newCred → newCred.cred.credId ≠ 0) :
    ((∀ point ∈ (heap.step op).2, point.Good) ↔ op.MeetsFreeId heap)
      ∧ (op.MeetsFreeId heap → WellNumbered (credIds (heap.step op).1.gCred)) := by
  refine ⟨iff_of_true ?_ ?_, fun _ => hwell⟩
  · rintro point hpoint
    rw [CredHeap.step, mem_singleton] at hpoint
    subst hpoint
    refine ⟨hwell, ?_⟩
    rintro dos write newCred rfl hid
    cases dos with
    | false => exact .inl ⟨by simp [CredOp.call, addCredential], rfl⟩
    | true => exact absurd hid (hop write newCred rfl)
  · cases op with
    | add dos write newCred =>
      rintro rfl hid
      exact absurd hid (hop write newCred rfl)
    | remove write subject => trivial
    | removeById write credId => trivial
    | removeByIds write credIdList => trivial

lemma credStep_good (h : WellNumbered (credIds heap.gCred)) (op : CredOp) :
    ((∀ point ∈ (heap.step op).2, point.Good) ↔ op.MeetsFreeId heap)
      ∧ (op.MeetsFreeId heap → WellNumbered (credIds (heap.step op).1.gCred)) := by
  by_cases hadd : ∃ write newCred, op = .add true write newCred
  · obtain ⟨write, newCred, rfl⟩ := hadd
    by_cases hid : newCred.cred.credId = 0
    · obtain ⟨hgood, hkeeps⟩ := assigning_good h write hid
      have hcall : (CredOp.add true write newCred).call heap
          = (insertCred newCred heap, if write then .ok else .error) := rfl
      simp only [CredHeap.step, hcall, mem_singleton, forall_eq, CredOp.MeetsFreeId, hid,
        true_implies]
      exact ⟨hgood, hkeeps⟩
    have hwell : WellNumbered (credIds ((CredOp.add true write newCred).call heap).1.gCred) :=
      wellNumbered_given h hid
    apply other_good hwell
    rintro write' newCred' heq
    simp only [CredOp.add.injEq, true_and] at heq
    rw [← heq.2]
    exact hid
  apply other_good
  · cases op with
    | add dos write newCred =>
      cases dos with
      | false => exact h
      | true => exact absurd ⟨write, newCred, rfl⟩ hadd
    | remove write subject => exact removing_good h (by simp)
    | removeById write credId => exact removing_good h (by simp)
    | removeByIds write credIdList => exact removing_good h (by simp)
  · rintro write newCred rfl
    exact absurd ⟨write, newCred, rfl⟩ hadd

lemma credRun_good_iff (h : WellNumbered (credIds heap.gCred)) (ops : List CredOp) :
    (∀ point ∈ (Runs.run CredHeap.step heap ops).2, point.Good)
      ↔ Runs.Along CredHeap.step (fun heap op => op.MeetsFreeId heap) heap ops := by
  apply Runs.run_log_iff (fun heap : CredHeap => WellNumbered (credIds heap.gCred))
  · intro heap op hheap
    exact credStep_good hheap op
  · exact h

lemma wellNumbered_nil : WellNumbered (credIds []) := ⟨nodup_nil, not_mem_nil⟩

/-- **Ids over whole runs.** Starting without credentials, the ids are pairwise
different and not 0 at every point of a run, and every call for an id assigns the
smallest free number or fails without adding anything, exactly when every
credential that asks for an id meets one that is free. -/
theorem cred_ids_unique_iff (ops : List CredOp) :
    (∀ point ∈ (Runs.run CredHeap.step ⟨[], []⟩ ops).2, point.Good)
      ↔ Runs.Along CredHeap.step (fun heap op => op.MeetsFreeId heap) ⟨[], []⟩ ops :=
  credRun_good_iff wellNumbered_nil ops

/-! ## The numbers run out -/

def plainCred : OicSecCred where
  credId := 0
  subject := OicUuid.nil
  roleId := ⟨"", ""⟩
  credType := symmetricPairWiseKey
  publicData := OicSecKey.zero
  credUsage := none
  optionalData := OicSecOpt.zero
  privateData := OicSecKey.zero
  period := none
  eownerID := none

def plainAdd : CredOp := .add true true ⟨0, plainCred⟩

lemma length_le_of_assigned (h : WellNumbered ids)
    (hmax : ∀ id ∈ ids, id < uint16Max) : ids.length ≤ 65534 := by
  have hsubset : ids.map UInt16.toNat ⊆ List.range' 1 65534 := by
    intro n hn
    obtain ⟨id, hid, rfl⟩ := mem_map.mp hn
    have hlt := hmax id hid
    have hpos : 0 < id := UInt16.pos_iff_ne_zero.mpr (fun hzero => h.2 (hzero ▸ hid))
    rw [lt_iff_toNat_lt] at hlt hpos
    simp only [uint16Max, reduceToNat] at hlt hpos
    rw [mem_range'_1]
    omega
  have hnodup : (ids.map UInt16.toNat).Nodup :=
    h.1.map (fun a b hab => UInt16.toNat_inj.mp hab)
  have hle := (hnodup.subperm hsubset).length_le
  rwa [length_map, length_range'] at hle

lemma calls_le_of_along {n : Nat} (h : WellNumbered (credIds heap.gCred))
    (hmax : ∀ id ∈ credIds heap.gCred, id < uint16Max)
    (halong : Runs.Along CredHeap.step (fun heap op => op.MeetsFreeId heap) heap
      (List.replicate n plainAdd)) :
    heap.gCred.length + n ≤ 65534 := by
  induction n generalizing heap with
  | zero =>
    have hle := length_le_of_assigned h hmax
    rwa [credIds, length_map] at hle
  | succ n ih =>
    rw [replicate_succ, Runs.Along] at halong
    obtain ⟨hmeets, hrest⟩ := halong
    obtain ⟨id, hid⟩ := hmeets rfl rfl
    have hcall : (heap.step plainAdd).1 = insertCred ⟨0, plainCred⟩ heap := rfl
    rw [hcall] at hrest
    rcases @insertCred_cases ⟨0, plainCred⟩ heap h rfl with
      ⟨id', hfree, hwell, hperm⟩ | ⟨hnone, -⟩
    · have hlen := hperm.length_eq
      rw [length_cons] at hlen
      have hmax' : ∀ i ∈ credIds (insertCred ⟨0, plainCred⟩ heap).gCred, i < uint16Max := by
        intro i hi
        rw [credIds, (hperm.map _).mem_iff, map_cons, mem_cons] at hi
        rcases hi with rfl | hi
        · exact hfree.1.2.1
        · exact hmax i hi
      have hle := ih hwell hmax' hrest
      omega
    · exact absurd hid (hnone id)

theorem credIds_run_out :
    ¬∀ point ∈ (Runs.run CredHeap.step ⟨[], []⟩ (List.replicate 65535 plainAdd)).2, point.Good := by
  rw [credRun_good_iff wellNumbered_nil]
  intro halong
  have hle := calls_le_of_along wellNumbered_nil (fun id hid => absurd hid not_mem_nil) halong
  simp only [length_nil] at hle
  omega

end Iochibity.Sec
