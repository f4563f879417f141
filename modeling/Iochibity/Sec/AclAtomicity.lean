/-
Are the operations on the access control list atomic when the storage fails?
-/
import Iochibity.Sec.AclStore
import Mathlib.Data.List.Count

namespace Iochibity.Sec

open CborItem (Item flatten)
open List
open Option (some.inj)

section

/-! ## Writing a list -/

def AclContents.Writable (acl : AclContents) : Prop := ∀ ace ∈ acl.aces, ace.Encodable

/-- The encoder does not end: the first entry that it cannot write has a
validity. -/
def AclContents.Hangs (acl : AclContents) : Prop :=
  ∃ ace, firstUnwritable acl.aces = some ace ∧ ace.validities ≠ []

def AclContents.payload (acl : AclContents) : Item := .map (flatten (aclEntries acl))

variable {acl : AclContents}

lemma firstUnwritable_isSome (h : ¬ acl.Writable) :
    ∃ ace, firstUnwritable acl.aces = some ace := by
  rcases hfirst : firstUnwritable acl.aces with _ | ace
  · rw [firstUnwritable, find?_eq_none] at hfirst
    refine absurd (fun ace hace => ?_) h
    have hnot := hfirst ace hace
    simpa using hnot
  · exact ⟨ace, rfl⟩

lemma encode_writable (h : acl.Writable) :
    aclToCBORPayload .v2 acl = .ok acl.payload := by
  rw [aclToCBORPayload_v2, firstUnwritable_eq_none h]
  rfl

lemma encode_hangs (h : acl.Hangs) :
    aclToCBORPayload .v2 acl = .error .hangs := by
  obtain ⟨ace, hfirst, hval⟩ := h
  rw [aclToCBORPayload_v2, hfirst]
  simp [OicSecAce.encodeEnd, if_pos hval]

lemma encode_refused (hw : ¬ acl.Writable) (hh : ¬ acl.Hangs) :
    aclToCBORPayload .v2 acl = .error .error := by
  obtain ⟨ace, hfirst⟩ := firstUnwritable_isSome hw
  have hval : ¬ ace.validities ≠ [] := fun h => hh ⟨ace, hfirst, h⟩
  rw [aclToCBORPayload_v2, hfirst]
  simp [OicSecAce.encodeEnd, if_neg hval]

lemma not_hangs (h : acl.Writable) : ¬ acl.Hangs := by
  rintro ⟨ace, hfirst, -⟩
  rw [firstUnwritable_eq_none h] at hfirst
  cases hfirst

section Save

variable {store : AclStore} {acl : AclContents}

section

variable (h : store.gAcl = some acl)
include h

lemma saveAcl_ok (hw : acl.Writable) :
    saveAcl .ok store = ⟨some .ok, { store with stored := some acl.payload }⟩ := by
  simp [saveAcl, h, encode_writable hw, updateAclInPS]

lemma saveAcl_failed (hw : acl.Writable) (left : Option Item) :
    saveAcl (.failed left) store = ⟨some .error, { store with stored := left }⟩ := by
  simp [saveAcl, h, encode_writable hw, updateAclInPS]

lemma saveAcl_hangs (hh : acl.Hangs) (write : PsWrite) : saveAcl write store = ⟨none, store⟩ := by
  simp [saveAcl, h, encode_hangs hh]

lemma saveAcl_refused (hw : ¬ acl.Writable) (hh : ¬ acl.Hangs)
    (write : PsWrite) : saveAcl write store = ⟨some .error, store⟩ := by
  simp [saveAcl, h, encode_refused hw hh]

lemma saveAcl_cases (write : PsWrite) :
    (acl.Writable ∧ write = .ok
        ∧ saveAcl write store = ⟨some .ok, { store with stored := some acl.payload }⟩)
      ∨ (acl.Hangs ∧ saveAcl write store = ⟨none, store⟩)
      ∨ (¬ acl.Hangs ∧ ¬ (acl.Writable ∧ write = .ok)
        ∧ ∃ left, saveAcl write store = ⟨some .error, { store with stored := left }⟩) := by
  by_cases hh : acl.Hangs
  · exact .inr (.inl ⟨hh, saveAcl_hangs h hh write⟩)
  by_cases hw : acl.Writable
  · cases write with
    | ok => exact .inl ⟨hw, rfl, saveAcl_ok h hw⟩
    | failed left =>
      refine .inr (.inr ⟨hh, fun h => ?_, left, saveAcl_failed h hw left⟩)
      cases h.2
  refine .inr (.inr ⟨hh, fun h => hw h.1, store.stored, ?_⟩)
  exact saveAcl_refused h hw hh write

end

end Save

inductive AclEdit
  | removeAce (subject : OicUuid) (resource : Option String)
  | removeAceByAceIds (ids : List UInt16)
  | removeAllAce (resource : Option String)
  | appendACLObject (acl : Option AclContents)
  | installACL (acl : Option AclContents)
  | setAclRownerId (newROwner : Option OicUuid)

def AclEdit.run (edit : AclEdit) (first second : PsWrite) (store : AclStore) :
    AclCall AclResult :=
  match edit with
  | .removeAce subject resource => Sec.removeAce first subject resource store
  | .removeAceByAceIds ids => Sec.removeAceByAceIds first ids store
  | .removeAllAce resource => Sec.removeAllAce first second resource store
  | .appendACLObject acl => Sec.appendACLObject first acl store
  | .installACL acl => Sec.installACL first acl store
  | .setAclRownerId newROwner => Sec.setAclRownerId first newROwner store

def AclEdit.success : AclEdit → AclResult
  | .removeAce _ _ => .resourceDeleted
  | .removeAceByAceIds _ => .resourceDeleted
  | .removeAllAce _ => .resourceDeleted
  | .appendACLObject _ => .ok
  | .installACL _ => .ok
  | .setAclRownerId _ => .ok

def AclEdit.intended (edit : AclEdit) (acl : AclContents) : AclContents :=
  match edit with
  | .removeAce subject resource =>
    { acl with aces := (removeAceEdit subject resource acl.aces).1 }
  | .removeAceByAceIds ids => { acl with aces := (removeIdsEdit ids acl.aces).1 }
  | .removeAllAce resource => { acl with aces := keptAces resource acl.aces }
  | .appendACLObject new => { acl with aces := acl.aces ++ (new.map AclContents.aces).getD [] }
  | .installACL new =>
    let posted := (new.map AclContents.aces).getD []
    { acl with aces := acl.aces ++ (newEntriesOf acl.aces posted).reverse }
  | .setAclRownerId newROwner => { acl with rownerID := newROwner.getD acl.rownerID }

def Stored (acl : AclContents) (store : AclStore) : Prop :=
  ∃ payload, aclToCBORPayload .v2 acl = .ok payload ∧ store.stored = some payload

/-- A report, and what it must go along with: success with the intended list in
memory and in the storage, failure with the old list in memory. -/
def Atomic (edit : AclEdit) (before : AclStore) (call : AclCall AclResult) : Prop :=
  ∃ code, call.result = some code
    ∧ (code = edit.success → ∃ acl, before.gAcl = some acl
        ∧ call.store.gAcl = some (edit.intended acl) ∧ Stored (edit.intended acl) call.store)
    ∧ (code ≠ edit.success → call.store.gAcl = before.gAcl)

/-! ## What an edit takes away -/

/-- `RemoveACE` finds something to take away. -/
def removesSomething (subject : OicUuid) (resource : Option String) (aces : List OicSecAce) :
    Prop :=
  ∃ ace ∈ aces, ace.subject.uuidBytes = subject
    ∧ (resource.getD "" = "" ∨ ∃ rsrc ∈ ace.resources, rsrc.href = resource)

lemma removeRsrc_flag (subject : OicUuid) (resource : String) (flag : Bool)
    (aces : List OicSecAce) :
    (removeRsrc subject resource flag aces).2 = true ↔ flag = true
      ∨ ∃ ace ∈ aces, ace.subject.uuidBytes = subject
        ∧ ∃ rsrc ∈ ace.resources, rsrc.href = some resource := by
  induction aces generalizing flag with
  | nil => simp [removeRsrc]
  | cons ace rest ih =>
    have hexists : (∃ a ∈ ace :: rest, a.subject.uuidBytes = subject
          ∧ ∃ rsrc ∈ a.resources, rsrc.href = some resource)
        ↔ (ace.subject.uuidBytes = subject ∧ ∃ rsrc ∈ ace.resources, rsrc.href = some resource)
          ∨ ∃ a ∈ rest, a.subject.uuidBytes = subject
            ∧ ∃ rsrc ∈ a.resources, rsrc.href = some resource := by
      simp [or_and_right, exists_or]
    rw [hexists, removeRsrc]
    by_cases hsubject : ace.subject.uuidBytes = subject
    · have hany : (ace.resources.any fun rsrc => rsrc.href = some resource) = true
          ↔ ∃ rsrc ∈ ace.resources, rsrc.href = some resource := by
        simp
      simp only [hsubject, if_true, true_and]
      have hih := ih (flag || ace.resources.any fun rsrc => rsrc.href = some resource)
      rw [Bool.or_eq_true, hany, or_assoc] at hih
      split
      · exact hih
      · exact hih
    simp only [hsubject, if_false, false_and, false_or]
    exact ih flag

variable {resource : Option String}

lemma removeAceEdit_all (subject : OicUuid) (h : resource.getD "" = "") (aces : List OicSecAce) :
    removeAceEdit subject resource aces
      = (aces.filter (·.subject.uuidBytes ≠ subject),
          aces.any (·.subject.uuidBytes = subject)) := by
  rcases resource with _ | s
  · rfl
  rw [Option.getD_some] at h
  rw [h]
  rfl

lemma removeAceEdit_one (subject : OicUuid) (h : resource.getD "" ≠ "") (aces : List OicSecAce) :
    ∃ s, resource = some s
      ∧ removeAceEdit subject resource aces = removeRsrc subject s false aces := by
  rcases resource with _ | s
  · exact absurd rfl h
  refine ⟨s, rfl, ?_⟩
  rw [removeAceEdit]
  exact h

lemma removeAceEdit_flag (subject : OicUuid) (resource : Option String) (aces : List OicSecAce) :
    (removeAceEdit subject resource aces).2 = true ↔ removesSomething subject resource aces := by
  rw [removesSomething]
  by_cases hempty : resource.getD "" = ""
  · rw [removeAceEdit_all subject hempty, any_eq_true]
    simp [hempty]
  obtain ⟨s, rfl, hedit⟩ := removeAceEdit_one subject hempty aces
  rw [hedit, removeRsrc_flag]
  simp only [Bool.false_eq_true, false_or, hempty]

lemma length_removeRsrc (subject : OicUuid) (resource : String) (flag : Bool)
    (aces : List OicSecAce) : (removeRsrc subject resource flag aces).1.length ≤ aces.length := by
  induction aces generalizing flag with
  | nil => exact Nat.le_refl 0
  | cons ace rest ih =>
    rw [removeRsrc]
    split
    · simp only
      split
      · exact Nat.le_succ_of_le (ih _)
      · exact Nat.succ_le_succ (ih _)
    · exact Nat.succ_le_succ (ih _)

variable {aces : List OicSecAce}

lemma removeRsrc_changes (subject : OicUuid) (resource : String) (flag : Bool)
    (h : (removeRsrc subject resource flag aces).1 = aces) :
    ¬ ∃ ace ∈ aces, ace.subject.uuidBytes = subject
      ∧ ∃ rsrc ∈ ace.resources, rsrc.href = some resource := by
  induction aces generalizing flag with
  | nil => rintro ⟨ace, hace, -⟩; exact absurd hace not_mem_nil
  | cons ace rest ih =>
    rw [removeRsrc] at h
    rintro ⟨a, ha, hsubject, rsrc, hrsrc, hhref⟩
    by_cases hhead : ace.subject.uuidBytes = subject
    · simp only [hhead, if_true] at h
      split at h
      · -- a whole entry less
        have hlen := length_removeRsrc subject resource
          (flag || ace.resources.any fun rsrc => rsrc.href = some resource) rest
        rw [h, length_cons] at hlen
        omega
      rw [List.cons.injEq] at h
      obtain ⟨hace, htail⟩ := h
      rcases mem_cons.mp ha with rfl | ha
      · have hfilter : a.resources.filter (·.href ≠ some resource)
            = a.resources := congrArg OicSecAce.resources hace
        rw [filter_eq_self] at hfilter
        have hne := hfilter rsrc hrsrc
        simp [hhref] at hne
      · exact ih _ htail ⟨a, ha, hsubject, rsrc, hrsrc, hhref⟩
    simp only [hhead, if_false, List.cons.injEq, true_and] at h
    rcases mem_cons.mp ha with rfl | ha
    · exact hhead hsubject
    · exact ih _ h ⟨a, ha, hsubject, rsrc, hrsrc, hhref⟩

variable {subject : OicUuid}

lemma removeAceEdit_changes (h : removesSomething subject resource aces) :
    (removeAceEdit subject resource aces).1 ≠ aces := by
  intro heq
  obtain ⟨ace, hace, hsubject, hor⟩ := h
  by_cases hempty : resource.getD "" = ""
  · rw [removeAceEdit_all subject hempty, filter_eq_self] at heq
    have hne := heq ace hace
    simp [hsubject] at hne
  obtain ⟨s, rfl, hedit⟩ := removeAceEdit_one subject hempty aces
  rw [hedit] at heq
  exact removeRsrc_changes subject s false heq ⟨ace, hace, hsubject, hor.resolve_left hempty⟩

lemma removeRsrc_unchanged {resource : String}
    (h : ¬ ∃ ace ∈ aces, ace.subject.uuidBytes = subject
      ∧ ∃ rsrc ∈ ace.resources, rsrc.href = some resource) :
    (removeRsrc subject resource false aces).1 = aces := by
  induction aces with
  | nil => rfl
  | cons ace rest ih =>
    have htail := ih (fun ⟨a, ha, hrest⟩ => h ⟨a, mem_cons_of_mem ace ha, hrest⟩)
    rw [removeRsrc]
    by_cases hhead : ace.subject.uuidBytes = subject
    · have hnone : ∀ rsrc ∈ ace.resources, rsrc.href ≠ some resource := fun rsrc hrsrc hhref =>
        h ⟨ace, mem_cons_self, hhead, rsrc, hrsrc, hhref⟩
      have hany : (ace.resources.any fun rsrc => rsrc.href = some resource) = false := by
        rw [any_eq_false]
        intro rsrc hrsrc
        simp [hnone rsrc hrsrc]
      have hfilter : ace.resources.filter (·.href ≠ some resource) = ace.resources := by
        rw [filter_eq_self]
        intro rsrc hrsrc
        simp [hnone rsrc hrsrc]
      simp only [hhead, if_true, hany, Bool.or_self, Bool.false_eq_true, and_false, if_false,
        hfilter, htail]
    · simp [hhead, htail]

lemma removeAceEdit_unchanged (h : ¬ removesSomething subject resource aces) :
    (removeAceEdit subject resource aces).1 = aces := by
  by_cases hempty : resource.getD "" = ""
  · rw [removeAceEdit_all subject hempty, filter_eq_self]
    intro ace hace
    have hne : ace.subject.uuidBytes ≠ subject := fun heq =>
      h ⟨ace, hace, heq, .inl hempty⟩
    simp [hne]
  obtain ⟨s, rfl, hedit⟩ := removeAceEdit_one subject hempty aces
  rw [hedit]
  apply removeRsrc_unchanged
  rintro ⟨ace, hace, hsubject, hrsrc⟩
  exact h ⟨ace, hace, hsubject, .inr hrsrc⟩

lemma removeIdsEdit_flag (ids : List UInt16) (aces : List OicSecAce) :
    (removeIdsEdit ids aces).2 = true ↔ ∃ ace ∈ aces, ace.aceid ∈ ids := by
  have hgen : ∀ (ids : List UInt16) (edit : List OicSecAce × Bool),
      (ids.foldl (fun edit id => (edit.1.eraseP (·.aceid = id),
          edit.2 || edit.1.any (·.aceid = id))) edit).2 = true
        ↔ edit.2 = true ∨ ∃ ace ∈ edit.1, ace.aceid ∈ ids := by
    intro ids
    induction ids with
    | nil => intro edit; simp
    | cons id ids ih =>
      intro edit
      rw [foldl_cons, ih]
      by_cases hany : ∃ ace ∈ edit.1, ace.aceid = id
      · have hany' : edit.1.any (·.aceid = id) = true := by
          simpa using hany
        obtain ⟨ace, hace, hid⟩ := hany
        refine iff_of_true (.inl ?_) (.inr ⟨ace, hace, ?_⟩)
        · simp [hany']
        · rw [hid]
          simp
      have hany' : edit.1.any (·.aceid = id) = false := by
        simpa using hany
      have herase : edit.1.eraseP (·.aceid = id) = edit.1 := by
        apply eraseP_of_forall_not
        intro ace hace
        simp only [decide_eq_true_eq]
        exact fun hid => hany ⟨ace, hace, hid⟩
      simp only [hany', Bool.or_false, herase, mem_cons]
      constructor
      · rintro (hflag | ⟨ace, hace, hid⟩)
        · exact .inl hflag
        · exact .inr ⟨ace, hace, .inr hid⟩
      · rintro (hflag | ⟨ace, hace, hid | hid⟩)
        · exact .inl hflag
        · exact absurd ⟨ace, hace, hid⟩ hany
        · exact .inr ⟨ace, hace, hid⟩
  rw [removeIdsEdit, hgen]
  simp

variable {ids : List UInt16}

lemma removeIdsEdit_changes
    (h : ∃ ace ∈ aces, ace.aceid ∈ ids) : (removeIdsEdit ids aces).1 ≠ aces := by
  intro heq
  obtain ⟨ace, hace, hid⟩ := h
  have hids := ids_removeIdsEdit ids aces
  have hcount := count_diff ace.aceid (aces.map OicSecAce.aceid) ids
  rw [heq] at hids
  rw [← hids] at hcount
  have hhere : 0 < (aces.map OicSecAce.aceid).count ace.aceid :=
    count_pos_iff.mpr (mem_map_of_mem hace)
  have hlisted : 0 < ids.count ace.aceid := count_pos_iff.mpr hid
  omega

lemma removeIdsEdit_unchanged
    (h : ¬ ∃ ace ∈ aces, ace.aceid ∈ ids) : (removeIdsEdit ids aces).1 = aces := by
  have hgen : ∀ (ids : List UInt16) (flag : Bool), (¬ ∃ ace ∈ aces, ace.aceid ∈ ids) →
      (ids.foldl (fun edit id => (edit.1.eraseP (·.aceid = id),
          edit.2 || edit.1.any (·.aceid = id))) (aces, flag)).1 = aces := by
    intro ids
    induction ids with
    | nil => intro flag _; rfl
    | cons id ids ih =>
      intro flag hnone
      have herase : aces.eraseP (·.aceid = id) = aces := by
        apply eraseP_of_forall_not
        intro ace hace
        simp only [decide_eq_true_eq]
        exact fun hid => hnone ⟨ace, hace, hid ▸ mem_cons_self⟩
      rw [foldl_cons]
      simp only [herase]
      exact ih _ (fun ⟨ace, hace, hid⟩ => hnone ⟨ace, hace, mem_cons_of_mem id hid⟩)
  exact hgen ids false h

/-! ## One operation after the other -/

variable {before : AclStore}

variable {edited : AclStore}

lemma reportSave_atomic (edit : AclEdit) (failure : AclResult) (hfailure : failure ≠ edit.success)
    (write : PsWrite) (hbefore : before.gAcl = some acl)
    (hedited : edited.gAcl = some (edit.intended acl)) :
    Atomic edit before (reportSave edit.success failure (saveAcl write edited))
      ↔ ¬ (edit.intended acl).Hangs
        ∧ (edit.intended acl = acl ∨ ((edit.intended acl).Writable ∧ write = .ok)) := by
  rcases saveAcl_cases hedited write with ⟨hw, hok, hsave⟩ | ⟨hh, hsave⟩ | ⟨hh, hnot, left, hsave⟩
  · rw [hsave]
    refine iff_of_true ?_ ⟨not_hangs hw, .inr ⟨hw, hok⟩⟩
    refine ⟨edit.success, rfl, fun _ => ⟨acl, hbefore, hedited, ?_⟩, fun h => absurd rfl h⟩
    exact ⟨_, encode_writable hw, rfl⟩
  · rw [hsave]
    refine iff_of_false ?_ (·.1 hh)
    rintro ⟨code, hcode, -⟩
    cases hcode
  · rw [hsave]
    have hgAcl : (reportSave edit.success failure
        ⟨some .error, { edited with stored := left }⟩).store.gAcl = some (edit.intended acl) :=
      hedited
    constructor
    · rintro ⟨code, hcode, -, hfailed⟩
      have hcode' : failure = code := some.inj hcode
      have hsame := hfailed (hcode' ▸ hfailure)
      rw [hgAcl, hbefore, Option.some.injEq] at hsame
      exact ⟨hh, .inl hsame⟩
    · rintro ⟨-, hsame | hwritten⟩
      · refine ⟨failure, rfl, fun h => absurd h hfailure, fun _ => ?_⟩
        rw [hgAcl, hbefore, hsame]
      · exact absurd hwritten hnot

variable {store : AclStore}

variable {edit : AclEdit} {code : AclResult}

lemma atomic_of_refused (h : code ≠ edit.success) : Atomic edit store ⟨some code, store⟩ :=
  ⟨code, rfl, fun heq => absurd heq h, fun _ => rfl⟩

variable {after : AclStore}

lemma not_atomic_of_none :
    ¬ Atomic edit before ⟨none, after⟩ := by
  rintro ⟨code, hcode, -⟩
  cases hcode

def RemoveAceAtomic (first : PsWrite) (subject : OicUuid) (resource : Option String)
    (store : AclStore) (acl : AclContents) : Prop :=
  let intended := (AclEdit.removeAce subject resource).intended acl
  subject = wildcardSubjectId
    ∨ (¬ (resource.getD "" ≠ "" ∧ comparesNullHref subject acl.aces = true)
      ∧ (¬ removesSomething subject resource acl.aces
        ∨ (subject ≠ wildcardSubjectB64Id ∧ intended.Writable ∧ first = .ok)
        ∨ (subject = wildcardSubjectB64Id ∧ Stored intended store)))

section

variable (hg : store.gAcl = some acl) (first : PsWrite)
include hg

lemma removeAce_atomic (subject : OicUuid) (resource : Option String) :
    Atomic (.removeAce subject resource) store (removeAce first subject resource store)
      ↔ RemoveAceAtomic first subject resource store acl := by
  have hedited := withAces_gAcl hg (removeAceEdit subject resource acl.aces).1
  rw [RemoveAceAtomic]
  simp only [removeAce, hg]
  by_cases hwild : subject = wildcardSubjectId
  · rw [if_pos hwild]
    exact iff_of_true (atomic_of_refused (fun h => AclResult.noConfusion h)) (.inl hwild)
  rw [if_neg hwild]
  simp only [hwild, false_or]
  by_cases hnull : resource.getD "" ≠ "" ∧ comparesNullHref subject acl.aces = true
  · rw [if_pos hnull]
    exact iff_of_false not_atomic_of_none (·.1 hnull)
  rw [if_neg hnull]
  simp only [hnull, not_false_eq_true, true_and]
  by_cases hsome : removesSomething subject resource acl.aces
  · have hchanges := removeAceEdit_changes hsome
    have hne : (AclEdit.removeAce subject resource).intended acl ≠ acl := fun h =>
      hchanges (congrArg AclContents.aces h)
    rw [if_pos ((removeAceEdit_flag subject resource acl.aces).mpr hsome)]
    simp only [hsome, not_true_eq_false, false_or]
    by_cases htest : subject = wildcardSubjectB64Id
    · -- the subject of the unit tests is not written
      rw [if_pos htest]
      simp only [htest, ne_eq, not_true_eq_false, false_and, true_and, false_or]
      rw [htest] at hedited
      constructor
      · rintro ⟨code, hcode, hsuccess, -⟩
        obtain ⟨acl', hacl', -, hstored⟩ := hsuccess (some.inj hcode).symm
        rw [hg, Option.some.injEq] at hacl'
        rw [← hacl'] at hstored
        exact hstored
      · intro hstored
        exact ⟨_, rfl, fun _ => ⟨acl, hg, hedited, hstored⟩, fun h => absurd rfl h⟩
    rw [if_neg htest]
    have hsaved := reportSave_atomic (.removeAce subject resource) .noResource
      (fun h => AclResult.noConfusion h) first hg hedited
    simp only [htest, not_false_eq_true, true_and, ne_eq, false_and, or_false]
    rw [AclEdit.success] at hsaved
    rw [hsaved]
    simp only [hne, false_or]
    exact ⟨fun h => h.2, fun h => ⟨not_hangs h.1, h⟩⟩
  have hflag : ¬ (removeAceEdit subject resource acl.aces).2 = true := fun h =>
    hsome ((removeAceEdit_flag subject resource acl.aces).mp h)
  rw [if_neg hflag]
  refine iff_of_true ?_ (.inl hsome)
  refine ⟨.noResource, rfl, fun h => AclResult.noConfusion h, fun _ => ?_⟩
  rw [hedited, hg, removeAceEdit_unchanged hsome]

lemma removeAceByAceIds_atomic (ids : List UInt16) :
    Atomic (.removeAceByAceIds ids) store (removeAceByAceIds first ids store)
      ↔ (∀ ace ∈ acl.aces, ace.aceid ∉ ids)
        ∨ (((AclEdit.removeAceByAceIds ids).intended acl).Writable ∧ first = .ok) := by
  have hedited := withAces_gAcl hg (removeIdsEdit ids acl.aces).1
  simp only [removeAceByAceIds, hg]
  by_cases hsome : ∃ ace ∈ acl.aces, ace.aceid ∈ ids
  · have hne : (AclEdit.removeAceByAceIds ids).intended acl ≠ acl := fun h =>
      removeIdsEdit_changes hsome (congrArg AclContents.aces h)
    have hnot : ¬ ∀ ace ∈ acl.aces, ace.aceid ∉ ids := fun h => by
      obtain ⟨ace, hace, hid⟩ := hsome
      exact h ace hace hid
    have hsaved := reportSave_atomic (.removeAceByAceIds ids) .noResource
      (fun h => AclResult.noConfusion h) first hg hedited
    rw [if_pos ((removeIdsEdit_flag ids acl.aces).mpr hsome)]
    rw [AclEdit.success] at hsaved
    rw [hsaved]
    simp only [hne, hnot, false_or]
    exact ⟨fun h => h.2, fun h => ⟨not_hangs h.1, h⟩⟩
  have hflag : ¬ (removeIdsEdit ids acl.aces).2 = true := fun h =>
    hsome ((removeIdsEdit_flag ids acl.aces).mp h)
  rw [if_neg hflag]
  refine iff_of_true ?_ (.inl (fun ace hace hid => hsome ⟨ace, hace, hid⟩))
  refine ⟨.noResource, rfl, fun h => AclResult.noConfusion h, fun _ => ?_⟩
  rw [hedited, hg, removeIdsEdit_unchanged hsome]

lemma appendACLObject_atomic (new : AclContents) (edit : AclEdit)
    (hedit : edit.intended acl = { acl with aces := acl.aces ++ new.aces })
    (hsuccess : edit.success = .ok) :
    Atomic edit store (appendACLObject first (some new) store) ↔ ¬ (edit.intended acl).Hangs
        ∧ (new.aces = [] ∨ ((edit.intended acl).Writable ∧ first = .ok)) := by
  have hedited := withAces_gAcl hg (acl.aces ++ new.aces)
  rw [← hedit] at hedited
  have hfailure : AclResult.error ≠ edit.success := by
    rw [hsuccess]
    exact fun h => AclResult.noConfusion h
  have hsaved := reportSave_atomic edit .error hfailure first hg hedited
  -- `AppendACLObject` hands on the code of the save as it is
  have hcall : appendACLObject first (some new) store
      = reportSave edit.success .error (saveAcl first (store.withAces (acl.aces ++ new.aces))) := by
    simp only [appendACLObject, hg]
    rw [hsuccess]
    rcases saveAcl_cases hedited first with ⟨-, -, hsave⟩ | ⟨-, hsave⟩ | ⟨-, -, left, hsave⟩
    all_goals rw [hsave]; rfl
  have hsame : edit.intended acl = acl ↔ new.aces = [] := by
    rw [hedit, AclContents.ext_iff]
    simp
  rw [hcall, hsaved, hsame]

lemma installACL_atomic (new : AclContents) :
    Atomic (.installACL (some new)) store (installACL first (some new) store)
      ↔ ¬ installStops acl.aces new.aces
        ∧ (newEntriesOf acl.aces new.aces = []
          ∨ (((AclEdit.installACL (some new)).intended acl).Writable ∧ first = .ok)) := by
  by_cases hstops : installStops acl.aces new.aces
  · rw [installACL_stops first hg hstops]
    exact iff_of_false not_atomic_of_none (·.1 hstops)
  obtain ⟨d, hloop⟩ := installLoop_eq acl.aces new.aces [] false hstops
  rw [append_nil] at hloop
  simp only [installACL, hg, hloop, hstops, not_false_eq_true, true_and]
  rcases hnew : (newEntriesOf acl.aces new.aces).reverse with _ | ⟨ace, rest⟩
  · refine iff_of_true ?_ (.inl (reverse_eq_nil_iff.mp hnew))
    apply atomic_of_refused
    cases d
    · exact fun h => AclResult.noConfusion h
    · exact fun h => AclResult.noConfusion h
  have hne : newEntriesOf acl.aces new.aces ≠ [] := fun h => by
    rw [h] at hnew
    cases hnew
  have happend := appendACLObject_atomic hg first ⟨OicUuid.nil, ace :: rest⟩
    (.installACL (some new)) (by rw [← hnew]; rfl) rfl
  simp only [hne, false_or]
  rw [happend]
  simp only [cons_ne_nil, false_or]
  exact ⟨fun h => h.2, fun h => ⟨not_hangs h.1, h⟩⟩

lemma setAclRownerId_atomic (uuid : OicUuid) :
    Atomic (.setAclRownerId (some uuid)) store (setAclRownerId first (some uuid) store)
      ↔ ¬ acl.Hangs := by
  simp only [setAclRownerId, hg]
  have hedited : ({ store with gAcl := some { acl with rownerID := uuid } } : AclStore).gAcl
      = some { acl with rownerID := uuid } := rfl
  rcases saveAcl_cases hedited first with ⟨hw, -, hsave⟩ | ⟨hh, hsave⟩ | ⟨hh, -, left, hsave⟩
  · rw [hsave]
    refine iff_of_true ?_ (not_hangs hw)
    exact ⟨.ok, rfl, fun _ => ⟨acl, hg, rfl, _, encode_writable hw, rfl⟩, fun h => absurd rfl h⟩
  · rw [hsave]
    exact iff_of_false not_atomic_of_none (· hh)
  · rw [hsave]
    refine iff_of_true ?_ hh
    exact ⟨.error, rfl, fun h => AclResult.noConfusion h, fun _ => hg.symm⟩

end

/-! ## Removing all entries -/

lemma OicSecRsrc.asRead_eq_iff {rsrc : OicSecRsrc} :
    rsrc.asRead = rsrc ↔ rsrc.href ≠ some "*" := by
  refine ⟨fun h hstar => ?_, OicSecRsrc.asRead_eq⟩
  have hhref := congrArg OicSecRsrc.href h
  simp [OicSecRsrc.asRead, hstar] at hhref

lemma AclContents.asRead_eq_iff :
    acl.asRead = acl ↔ ∀ ace ∈ acl.aces, ∀ rsrc ∈ ace.resources, rsrc.href ≠ some "*" := by
  refine ⟨fun h ace hace rsrc hrsrc => ?_, AclContents.asRead_eq⟩
  have haces : acl.aces.map OicSecAce.asRead = acl.aces.map id := by
    rw [map_id]
    exact congrArg AclContents.aces h
  have hrsrcs := congrArg OicSecAce.resources (map_inj_left.mp haces ace hace)
  have hmap : ace.resources.map OicSecRsrc.asRead = ace.resources.map id := by
    rw [map_id]
    exact hrsrcs
  exact OicSecRsrc.asRead_eq_iff.mp (map_inj_left.mp hmap rsrc hrsrc)

/-- Every entry names the resource that `RemoveAllAce` spares. -/
def KeepsAll (resource : Option String) (aces : List OicSecAce) : Prop :=
  ∀ ace ∈ aces, resource ≠ none ∧ ∃ rsrc ∈ ace.resources, rsrc.href = resource

lemma keptAces_eq_iff :
    keptAces resource aces = aces ↔ KeepsAll resource aces := by
  rw [keptAces, filter_eq_self, KeepsAll]
  simp [Option.isSome_iff_ne_none]

lemma keptAces_writable (h : acl.Writable) (resource : Option String) :
    ((AclEdit.removeAllAce resource).intended acl).Writable := by
  intro ace hace
  exact h ace (mem_of_mem_filter hace)

/-- When `RemoveAllAce` is atomic. After a failed first write there was nothing to remove, and a
backup that is written must come back as it was. -/
def RemoveAllAceAtomic (first second : PsWrite) (resource : Option String)
    (acl : AclContents) : Prop :=
  ¬ acl.Hangs
    ∧ (¬ acl.Writable ∨ first = .ok
      ∨ (KeepsAll resource acl.aces
        ∧ (second = .ok → (∀ ace ∈ acl.aces, ace.subject.Readable) →
          ∀ ace ∈ acl.aces, ∀ rsrc ∈ ace.resources, rsrc.href ≠ some "*")))

lemma ownerAsRead_self (acl : AclContents) (aces : List OicSecAce) :
    ownerAsRead (some { acl with aces := aces }) acl.rownerID = acl.rownerID := by
  rw [ownerAsRead, ite_self]

lemma kept_failure_atomic (hcode : code ≠ .resourceDeleted) (hg : before.gAcl = some acl)
    (hafter : after.gAcl = some { acl with aces := keptAces resource acl.aces }) :
    Atomic (.removeAllAce resource) before ⟨some code, after⟩ ↔ KeepsAll resource acl.aces := by
  rw [← keptAces_eq_iff]
  constructor
  · rintro ⟨code', hcode', -, hfailed⟩
    have heq : code = code' := some.inj hcode'
    have hsame := hfailed (heq ▸ hcode)
    rw [hafter, hg, Option.some.injEq] at hsame
    exact congrArg AclContents.aces hsame
  · intro hkept
    refine ⟨code, rfl, fun h => absurd h hcode, fun _ => ?_⟩
    rw [hafter, hg, hkept]

lemma revertAcl_atomic (second : PsWrite) (hw : acl.Writable) (hg : before.gAcl = some acl)
    (hedited : edited.gAcl = some { acl with aces := keptAces resource acl.aces }) :
    Atomic (.removeAllAce resource) before (revertAcl second acl.payload edited)
      ↔ KeepsAll resource acl.aces
        ∧ (second = .ok → (∀ ace ∈ acl.aces, ace.subject.Readable) →
          ∀ ace ∈ acl.aces, ∀ rsrc ∈ ace.resources, rsrc.href ≠ some "*") := by
  have hval : ∀ ace ∈ acl.aces, ace.validities = [] := fun ace hace => (hw ace hace).1
  by_cases hread : ∀ ace ∈ acl.aces, ace.subject.Readable
  · have hdecoded : cborPayloadToAcl edited.gAcl acl.payload = .ok acl.asRead := by
      rw [hedited, AclContents.payload, cborPayloadToAcl_encoded _ hval hread, ownerAsRead_self]
      rfl
    cases second with
    | failed left =>
      have hcall : revertAcl (.failed left) acl.payload edited
          = ⟨some .error, { edited with stored := left }⟩ := by
        simp [revertAcl, hdecoded, updateAclInPS]
      have hfailure : Atomic (.removeAllAce resource) before
          ⟨some .error, { edited with stored := left }⟩ ↔ KeepsAll resource acl.aces :=
        kept_failure_atomic (fun h => AclResult.noConfusion h) hg hedited
      rw [hcall, hfailure]
      simp
    | ok =>
      -- success is reported, with the old list in memory and in the storage
      have hcall : revertAcl .ok acl.payload edited = ⟨some .resourceDeleted,
          { edited with gAcl := some acl.asRead, stored := some acl.payload }⟩ := by
        simp [revertAcl, hdecoded, updateAclInPS]
      rw [hcall, ← AclContents.asRead_eq_iff, ← keptAces_eq_iff]
      simp only [true_implies]
      constructor
      · rintro ⟨code, hcode, hsuccess, -⟩
        obtain ⟨acl', hacl', hafter, -⟩ := hsuccess (some.inj hcode).symm
        rw [hg, Option.some.injEq] at hacl'
        rw [← hacl', Option.some.injEq] at hafter
        have hlen : (keptAces resource acl.aces).length = acl.aces.length := by
          have hmap := congrArg (·.aces.length) hafter
          simpa only [AclContents.asRead, length_map, AclEdit.intended] using hmap.symm
        have hkept : keptAces resource acl.aces = acl.aces :=
          List.Sublist.eq_of_length filter_sublist hlen
        refine ⟨hkept, fun _ => ?_⟩
        rw [hafter, AclEdit.intended, hkept]
      · rintro ⟨hkept, hasRead⟩
        have hintended : (AclEdit.removeAllAce resource).intended acl = acl := by
          rw [AclEdit.intended, hkept]
        refine ⟨_, rfl, fun _ => ⟨acl, hg, ?_, ?_⟩, fun h => absurd rfl h⟩
        · rw [hintended, hasRead hread]
        · rw [hintended]
          exact ⟨_, encode_writable hw, rfl⟩
  · have hbad : ∃ ace ∈ acl.aces, ¬ ace.subject.Readable := by
      push Not at hread
      exact hread
    have hcall : revertAcl second acl.payload edited = ⟨some .error, edited⟩ := by
      have hdecoded := cborPayloadToAcl_unreadable edited.gAcl hval hbad
      rw [← AclContents.payload] at hdecoded
      simp [revertAcl, hdecoded]
    have hfailure : Atomic (.removeAllAce resource) before ⟨some .error, edited⟩
        ↔ KeepsAll resource acl.aces :=
      kept_failure_atomic (fun h => AclResult.noConfusion h) hg hedited
    rw [hcall, hfailure]
    simp [hread]

lemma removeAllAce_atomic (hg : store.gAcl = some acl) (first second : PsWrite)
    (resource : Option String) :
    Atomic (.removeAllAce resource) store (removeAllAce first second resource store)
      ↔ RemoveAllAceAtomic first second resource acl := by
  rw [RemoveAllAceAtomic]
  simp only [removeAllAce, hg]
  by_cases hh : acl.Hangs
  · rw [encode_hangs hh]
    exact iff_of_false not_atomic_of_none (·.1 hh)
  by_cases hw : acl.Writable
  swap
  · rw [encode_refused hw hh]
    exact iff_of_true (atomic_of_refused (fun h => AclResult.noConfusion h)) ⟨hh, .inl hw⟩
  have hedited := withAces_gAcl hg (keptAces resource acl.aces)
  have hkept := keptAces_writable hw resource
  simp only [encode_writable hw, hh, hw, not_false_eq_true, not_true_eq_false, true_and, false_or]
  rcases first with _ | left
  · rw [saveAcl_ok hedited hkept]
    refine iff_of_true ?_ (.inl rfl)
    exact ⟨.resourceDeleted, rfl, fun _ => ⟨acl, hg, hedited, _, encode_writable hkept, rfl⟩,
      fun h => absurd rfl h⟩
  rw [saveAcl_failed hedited hkept]
  simp only [reduceCtorEq, false_or]
  exact revertAcl_atomic second hw hg hedited

/-! ## All operations -/

def AclEdit.AtomicWhen (edit : AclEdit) (first second : PsWrite) (store : AclStore)
    (acl : AclContents) : Prop :=
  match edit with
  | .removeAce subject resource => RemoveAceAtomic first subject resource store acl
  | .removeAceByAceIds ids =>
    (∀ ace ∈ acl.aces, ace.aceid ∉ ids) ∨ ((edit.intended acl).Writable ∧ first = .ok)
  | .removeAllAce resource => RemoveAllAceAtomic first second resource acl
  | .appendACLObject new => ∀ n, new = some n →
      ¬ (edit.intended acl).Hangs ∧ (n.aces = [] ∨ ((edit.intended acl).Writable ∧ first = .ok))
  | .installACL new => ∀ n, new = some n →
      ¬ installStops acl.aces n.aces
        ∧ (newEntriesOf acl.aces n.aces = [] ∨ ((edit.intended acl).Writable ∧ first = .ok))
  | .setAclRownerId newROwner => newROwner ≠ none → ¬ acl.Hangs

lemma atomic_without_list (edit : AclEdit) (first second : PsWrite)
    (h : store.gAcl = none) : Atomic edit store (edit.run first second store) := by
  cases edit with
  | removeAce subject resource =>
    simp only [AclEdit.run, removeAce, h]
    exact atomic_of_refused (fun h => AclResult.noConfusion h)
  | removeAceByAceIds ids =>
    simp only [AclEdit.run, removeAceByAceIds, h]
    exact atomic_of_refused (fun h => AclResult.noConfusion h)
  | removeAllAce resource =>
    simp only [AclEdit.run, removeAllAce, h]
    exact atomic_of_refused (fun h => AclResult.noConfusion h)
  | appendACLObject acl =>
    simp only [AclEdit.run, appendACLObject, h]
    exact atomic_of_refused (fun h => AclResult.noConfusion h)
  | installACL acl =>
    simp only [AclEdit.run, installACL, h]
    exact atomic_of_refused (fun h => AclResult.noConfusion h)
  | setAclRownerId newROwner =>
    simp only [AclEdit.run, setAclRownerId, h]
    exact atomic_of_refused (fun h => AclResult.noConfusion h)

/-- **Atomicity of the store, exactly.** For every list, every operation and all
outcomes of its writes. -/
theorem acl_edit_atomic_iff (edit : AclEdit) (first second : PsWrite) (store : AclStore) :
    Atomic edit store (edit.run first second store)
      ↔ ∀ acl, store.gAcl = some acl → edit.AtomicWhen first second store acl := by
  rcases hg : store.gAcl with _ | acl
  · refine iff_of_true (atomic_without_list edit first second hg) ?_
    intro acl hacl
    cases hacl
  have hforall : (∀ a, some acl = some a → edit.AtomicWhen first second store a)
      ↔ edit.AtomicWhen first second store acl :=
    ⟨fun h => h acl rfl, fun h a ha => some.inj ha ▸ h⟩
  rw [hforall]
  cases edit with
  | removeAce subject resource => exact removeAce_atomic hg first subject resource
  | removeAceByAceIds ids => exact removeAceByAceIds_atomic hg first ids
  | removeAllAce resource => exact removeAllAce_atomic hg first second resource
  | appendACLObject new =>
    rcases new with _ | new
    · simp only [AclEdit.run, appendACLObject, hg]
      refine iff_of_true (atomic_of_refused (fun h => AclResult.noConfusion h)) ?_
      intro n hn
      cases hn
    have happend := appendACLObject_atomic hg first new (.appendACLObject (some new)) rfl rfl
    rw [AclEdit.run, happend]
    exact ⟨fun h n hn => some.inj hn ▸ h, fun h => h new rfl⟩
  | installACL new =>
    rcases new with _ | new
    · simp only [AclEdit.run, installACL, hg]
      refine iff_of_true (atomic_of_refused (fun h => AclResult.noConfusion h)) ?_
      intro n hn
      cases hn
    have hinstall := installACL_atomic hg first new
    rw [AclEdit.run, hinstall]
    exact ⟨fun h n hn => some.inj hn ▸ h, fun h => h new rfl⟩
  | setAclRownerId newROwner =>
    rcases newROwner with _ | uuid
    · simp only [AclEdit.run, setAclRownerId, hg]
      refine iff_of_true (atomic_of_refused (fun h => AclResult.noConfusion h)) ?_
      exact fun h => absurd rfl h
    rw [AclEdit.run, setAclRownerId_atomic hg first uuid]
    exact ⟨fun h _ => h, fun h => h (Option.some_ne_none uuid)⟩

def fanStore : AclStore :=
  { gAcl := some
      { rownerID := OicUuid.nil
        aces :=
          [ { subject := .conntype .authCrypt
              resources := [⟨some "/a/fan", none, [], [], .noWildcard⟩]
              permission := 2
              validities := []
              aceid := 6 } ] }
    gAceFreeId := 7
    stored := none }

theorem removeAceByAceIds_not_atomic :
    ¬ Atomic (.removeAceByAceIds [6]) fanStore
      ((AclEdit.removeAceByAceIds [6]).run (.failed none) .ok fanStore) := by
  rintro ⟨code, hcode, hsuccess, hfailed⟩
  have hcode' : AclResult.noResource = code := some.inj hcode
  have hsame := hfailed (hcode' ▸ fun h => AclResult.noConfusion h)
  exact absurd (congrArg (fun g : Option AclContents => g.map (fun acl => acl.aces.length)) hsame)
    (by decide)

end

def OicSecAce.names (ace : OicSecAce) (resource : String) : Bool :=
  ace.resources.any (·.href = some resource)

def OicSecAce.without (ace : OicSecAce) (resource : String) : OicSecAce :=
  { ace with resources := ace.resources.filter (·.href ≠ some resource) }

def OicSecAce.remainder (subject : OicUuid) (resource : String) (ace : OicSecAce) :
    Option OicSecAce :=
  if ace.subject = .uuid subject then
    if (ace.without resource).resources = [] ∧ ace.names resource then none
    else some (ace.without resource)
  else some ace

def remainingAces (subject : OicUuid) (resource : Option String) (aces : List OicSecAce) :
    List OicSecAce :=
  match resource with
  | none | some "" => aces.filter (·.subject ≠ .uuid subject)
  | some resource => aces.filterMap (OicSecAce.remainder subject resource)

def RemovesExactly (subject : OicUuid) (resource : Option String) (acl : AclContents)
    (call : AclCall AclResult) : Prop :=
  call.result ≠ none
    ∧ call.store.gAcl = some { acl with aces := remainingAces subject resource acl.aces }

section Entry

variable {subject : OicUuid} {resource : String} {ace : OicSecAce}

lemma OicSecAce.without_eq (h : ace.names resource = false) : ace.without resource = ace := by
  have hfilter : ace.resources.filter (·.href ≠ some resource) = ace.resources := by
    rw [filter_eq_self]
    intro rsrc hrsrc
    have hne := any_eq_false.mp h rsrc hrsrc
    simpa using hne
  rw [OicSecAce.without, hfilter]

lemma OicSecAce.without_ne (h : ace.names resource = true) : ace.without resource ≠ ace := by
  intro heq
  obtain ⟨rsrc, hrsrc, hhref⟩ := any_eq_true.mp h
  have hfilter : ace.resources.filter (·.href ≠ some resource)
      = ace.resources := congrArg OicSecAce.resources heq
  have hne := filter_eq_self.mp hfilter rsrc hrsrc
  simp only [decide_eq_true_eq] at hhref hne
  exact hne hhref

lemma OicSecAce.resources_ne_nil (h : ace.names resource = true) : ace.resources ≠ [] := by
  intro hnil
  simp [OicSecAce.names, hnil] at h

lemma removeRsrc_cons (h : ace.subject.uuidBytes = subject) (flag : Bool) (rest : List OicSecAce) :
    (removeRsrc subject resource flag (ace :: rest)).1
      = if (ace.without resource).resources = [] ∧ (flag || ace.names resource) = true then
          (removeRsrc subject resource (flag || ace.names resource) rest).1
        else
          ace.without resource
            :: (removeRsrc subject resource (flag || ace.names resource) rest).1 := by
  rw [removeRsrc, if_pos h]
  exact apply_ite Prod.fst _ _ _

lemma removeRsrc_cons_other (h : ace.subject.uuidBytes ≠ subject) (flag : Bool)
    (rest : List OicSecAce) :
    (removeRsrc subject resource flag (ace :: rest)).1
      = ace :: (removeRsrc subject resource flag rest).1 := by
  rw [removeRsrc, if_neg h]

lemma remainder_other (h : ace.subject.uuidBytes ≠ subject) :
    ace.remainder subject resource = some ace := by
  have hsubject : ace.subject ≠ .uuid subject := fun heq => h (congrArg AceSubject.uuidBytes heq)
  rw [OicSecAce.remainder, if_neg hsubject]

lemma remainder_unnamed (h : ace.names resource = false) :
    ace.remainder subject resource = some ace := by
  rw [OicSecAce.remainder, OicSecAce.without_eq h, h]
  simp

end Entry

/-! ## The loop -/

/-- Among the entries that `RemoveACE` takes for the subject's: what names the resource is for a
device, and none without resources stands behind it. -/
structure LoopFits (subject : OicUuid) (resource : String) (aces : List OicSecAce) : Prop where
  kinds : ∀ ace ∈ aces, ace.subject.uuidBytes = subject → ace.names resource = true →
    ace.subject = .uuid subject
  order : aces.Pairwise (fun earlier ace => earlier.subject.uuidBytes = subject →
    earlier.names resource = true → ace.subject.uuidBytes = subject → ace.resources ≠ [])

/-- No entry that `RemoveACE` takes for one of the subject is without resources. -/
def NoneEmpty (subject : OicUuid) (aces : List OicSecAce) : Prop :=
  ∀ ace ∈ aces, ace.subject.uuidBytes = subject → ace.resources ≠ []

section Loop

variable {subject : OicUuid} {resource : String}

lemma loopFits_cons {ace : OicSecAce} {rest : List OicSecAce} :
    LoopFits subject resource (ace :: rest)
      ↔ (ace.subject.uuidBytes = subject → ace.names resource = true →
          ace.subject = .uuid subject ∧ NoneEmpty subject rest)
        ∧ LoopFits subject resource rest := by
  constructor
  · rintro ⟨hkinds, horder⟩
    rw [pairwise_cons] at horder
    refine ⟨fun hsubject hnames => ⟨?_, ?_⟩, fun a ha => ?_, horder.2⟩
    · exact hkinds ace mem_cons_self hsubject hnames
    · exact fun a ha => horder.1 a ha hsubject hnames
    · exact hkinds a (mem_cons_of_mem ace ha)
  · rintro ⟨hhead, hkinds, horder⟩
    refine ⟨fun a ha hsubject hnames => ?_, ?_⟩
    · rcases mem_cons.mp ha with rfl | ha
      · exact (hhead hsubject hnames).1
      · exact hkinds a ha hsubject hnames
    · rw [pairwise_cons]
      exact ⟨fun a ha hsubject hnames => (hhead hsubject hnames).2 a ha, horder⟩

lemma noneEmpty_cons {ace : OicSecAce} {rest : List OicSecAce} :
    NoneEmpty subject (ace :: rest)
      ↔ (ace.subject.uuidBytes = subject → ace.resources ≠ []) ∧ NoneEmpty subject rest := by
  rw [NoneEmpty, forall_mem_cons]
  rfl

lemma length_removeRsrc_le (flag : Bool) (aces : List OicSecAce) :
    (removeRsrc subject resource flag aces).1.length
      ≤ (aces.filterMap (OicSecAce.remainder subject resource)).length := by
  induction aces generalizing flag with
  | nil => apply Nat.le_refl
  | cons ace rest ih =>
    by_cases hsubject : ace.subject.uuidBytes = subject
    · have hrest := ih (flag || ace.names resource)
      rw [removeRsrc_cons hsubject, filterMap_cons]
      by_cases hgone : (ace.without resource).resources = [] ∧ ace.names resource = true
      · -- what is to go goes, whatever the flag was
        have hflag : (flag || ace.names resource) = true := by simp [hgone.2]
        rw [if_pos ⟨hgone.1, hflag⟩]
        split
        · exact hrest
        · exact Nat.le_succ_of_le hrest
      have hstays : ∃ left, ace.remainder subject resource = some left := by
        rw [OicSecAce.remainder, if_neg hgone]
        split
        · exact ⟨_, rfl⟩
        · exact ⟨_, rfl⟩
      obtain ⟨left, hleft⟩ := hstays
      rw [hleft]
      split
      · exact Nat.le_succ_of_le hrest
      · simp [hrest]
    rw [removeRsrc_cons_other hsubject, filterMap_cons, remainder_other hsubject]
    exact Nat.succ_le_succ (ih flag)

lemma removeRsrc_ne_cons {flag : Bool} {rest : List OicSecAce} (left : OicSecAce) :
    (removeRsrc subject resource flag rest).1
      ≠ left :: rest.filterMap (OicSecAce.remainder subject resource) := by
  intro heq
  have hle : (removeRsrc subject resource flag rest).1.length
      ≤ (rest.filterMap (OicSecAce.remainder subject resource)).length :=
    length_removeRsrc_le flag rest
  rw [heq, length_cons] at hle
  omega

lemma removeRsrc_eq_iff (flag : Bool) (aces : List OicSecAce) :
    (removeRsrc subject resource flag aces).1
        = aces.filterMap (OicSecAce.remainder subject resource)
      ↔ LoopFits subject resource aces ∧ (flag = true → NoneEmpty subject aces) := by
  -- on the list; the flag that is carried on is the one the tail is about
  induction aces generalizing flag with
  | nil =>
    refine iff_of_true rfl ⟨⟨?_, List.Pairwise.nil⟩, ?_⟩
    · intro ace hace
      simp at hace
    · intro _ ace hace
      simp at hace
  | cons ace rest ih =>
    rw [loopFits_cons, noneEmpty_cons, filterMap_cons]
    by_cases hsubject : ace.subject.uuidBytes = subject
    swap
    · rw [removeRsrc_cons_other hsubject, remainder_other hsubject]
      simp only [List.cons.injEq, true_and, hsubject, false_implies]
      exact ih flag
    rw [removeRsrc_cons hsubject]
    rcases hnames : ace.names resource with _ | _
    · -- nothing to take from the entry, it is to stay
      rw [remainder_unnamed hnames, OicSecAce.without_eq hnames, Bool.or_false]
      simp only [hsubject, Bool.false_eq_true, true_implies, false_implies, true_and]
      by_cases hlost : ace.resources = [] ∧ flag = true
      · rw [if_pos hlost]
        apply iff_of_false (removeRsrc_ne_cons ace)
        exact fun h => (h.2 hlost.2).1 hlost.1
      rw [if_neg hlost]
      simp only [List.cons.injEq, true_and]
      rw [ih flag]
      apply and_congr_right
      intro _
      apply imp_congr_right
      intro hflag
      have hnonempty : ace.resources ≠ [] := fun hnil => hlost ⟨hnil, hflag⟩
      simp [hnonempty]
    simp only [hsubject, Bool.or_true, true_implies, ne_eq,
      OicSecAce.resources_ne_nil hnames, not_false_eq_true, true_and, and_true]
    by_cases hkind : ace.subject = .uuid subject
    · -- the entry is one of the subject, and the flag is set from here on
      have htail : (removeRsrc subject resource true rest).1
            = rest.filterMap (OicSecAce.remainder subject resource)
          ↔ ((ace.subject = .uuid subject ∧ NoneEmpty subject rest)
              ∧ LoopFits subject resource rest)
            ∧ (flag = true → NoneEmpty subject rest) := by
        rw [ih true]
        simp only [hkind, true_and, true_implies]
        exact ⟨fun h => ⟨⟨h.2, h.1⟩, fun _ => h.2⟩, fun h => ⟨h.1.2, h.1.1⟩⟩
      rw [← htail, OicSecAce.remainder, if_pos hkind]
      simp only [hnames, and_true]
      split
      · exact Iff.rfl
      · simp
    -- an entry of another kind loses its resource
    have hremainder : ace.remainder subject resource = some ace := by
      rw [OicSecAce.remainder, if_neg hkind]
    rw [hremainder]
    apply iff_of_false
    · split
      · exact removeRsrc_ne_cons ace
      intro heq
      exact OicSecAce.without_ne hnames (List.cons.inj heq).1
    · exact fun h => hkind h.1.1.1

lemma filter_bytes_eq_iff (aces : List OicSecAce) :
    aces.filter (·.subject.uuidBytes ≠ subject) = aces.filter (·.subject ≠ .uuid subject)
      ↔ ∀ ace ∈ aces, ace.subject.uuidBytes = subject → ace.subject = .uuid subject := by
  constructor
  · intro heq ace hace hbytes
    by_contra hkind
    have hkept : ace ∈ aces.filter (·.subject ≠ .uuid subject) := by
      simp [hace, hkind]
    rw [← heq, mem_filter, decide_eq_true_eq] at hkept
    exact hkept.2 hbytes
  · intro h
    apply filter_congr
    intro ace hace
    have hiff : ace.subject.uuidBytes = subject ↔ ace.subject = .uuid subject :=
      ⟨h ace hace, fun heq => congrArg AceSubject.uuidBytes heq⟩
    simp [hiff]

end Loop

/-! ## The call -/

section

variable (subject : OicUuid) (resource : Option String) (aces : List OicSecAce)

def EditFits : Prop :=
  match resource with
  | none | some "" =>
    ∀ ace ∈ aces, ace.subject.uuidBytes = subject → ace.subject = .uuid subject
  | some resource => LoopFits subject resource aces

lemma removeAceEdit_eq_iff :
    (removeAceEdit subject resource aces).1 = remainingAces subject resource aces
      ↔ EditFits subject resource aces := by
  rcases resource with _ | resource
  · exact filter_bytes_eq_iff aces
  by_cases hempty : resource = ""
  · subst hempty
    exact filter_bytes_eq_iff aces
  rw [removeAceEdit, remainingAces, EditFits, removeRsrc_eq_iff]
  · simp
  all_goals exact hempty

end

/-- The condition on the call: no resource without an href is compared, the edit fits, and the
encoder, should it run, comes to an end. -/
structure CallFits (subject : OicUuid) (resource : Option String) (acl : AclContents) :
    Prop where
  hrefs : resource.getD "" ≠ "" → ∀ ace ∈ acl.aces, ace.subject.uuidBytes = subject →
    ∀ rsrc ∈ ace.resources, rsrc.href ≠ none
  edit : EditFits subject resource acl.aces
  saved : removesSomething subject resource acl.aces → subject ≠ wildcardSubjectB64Id →
    ¬ ({ acl with aces := remainingAces subject resource acl.aces } : AclContents).Hangs

lemma comparesNullHref_eq_false {subject : OicUuid} {aces : List OicSecAce} :
    comparesNullHref subject aces = false ↔ ∀ ace ∈ aces, ace.subject.uuidBytes = subject →
        ∀ rsrc ∈ ace.resources, rsrc.href ≠ none := by
  simp [comparesNullHref]

lemma reportSave_saveAcl {store : AclStore} {acl : AclContents} (h : store.gAcl = some acl)
    (success failure : AclResult) (write : PsWrite) :
    (reportSave success failure (saveAcl write store)).store.gAcl = some acl
      ∧ ((reportSave success failure (saveAcl write store)).result ≠ none ↔ ¬ acl.Hangs) := by
  rcases saveAcl_cases h write with ⟨hw, -, hsave⟩ | ⟨hh, hsave⟩ | ⟨hh, -, left, hsave⟩
  · rw [hsave]
    exact ⟨h, iff_of_true (Option.some_ne_none _) (not_hangs hw)⟩
  · rw [hsave]
    exact ⟨h, iff_of_false (· rfl) (· hh)⟩
  · rw [hsave]
    exact ⟨h, iff_of_true (Option.some_ne_none _) hh⟩

/-- **`RemoveACE`, exactly.** For every list, every subject but the wildcard,
every resource and every outcome of the write. -/
theorem removeAce_exact (write : PsWrite) (subject : OicUuid) (resource : Option String)
    {store : AclStore} {acl : AclContents} (hg : store.gAcl = some acl)
    (hsubject : subject ≠ wildcardSubjectId) :
    RemovesExactly subject resource acl (removeAce write subject resource store)
      ↔ CallFits subject resource acl := by
  have hedit := removeAceEdit_eq_iff subject resource acl.aces
  have hflag := removeAceEdit_flag subject resource acl.aces
  rw [RemovesExactly]
  simp only [removeAce, hg, hsubject, if_false]
  by_cases hnull : resource.getD "" ≠ "" ∧ comparesNullHref subject acl.aces = true
  · rw [if_pos hnull]
    apply iff_of_false (fun h => h.1 rfl)
    intro hfits
    have hfalse := comparesNullHref_eq_false.mpr (hfits.hrefs hnull.1)
    rw [hfalse] at hnull
    exact Bool.false_ne_true hnull.2
  rw [if_neg hnull]
  have hhrefs : resource.getD "" ≠ "" → ∀ ace ∈ acl.aces, ace.subject.uuidBytes = subject →
      ∀ rsrc ∈ ace.resources, rsrc.href ≠ none := by
    intro hresource
    rw [← comparesNullHref_eq_false, ← Bool.not_eq_true]
    exact fun hcompares => hnull ⟨hresource, hcompares⟩
  have hedited := withAces_gAcl hg (removeAceEdit subject resource acl.aces).1
  -- in memory there is the edited list, however the call ends
  have hmemory : some ({ acl with aces := (removeAceEdit subject resource acl.aces).1 } :
        AclContents) = some { acl with aces := remainingAces subject resource acl.aces }
      ↔ EditFits subject resource acl.aces := by
    rw [← hedit, Option.some.injEq, AclContents.mk.injEq]
    simp
  have hfits (hend : Prop) (h : EditFits subject resource acl.aces → (hend
        ↔ (removesSomething subject resource acl.aces → subject ≠ wildcardSubjectB64Id →
          ¬ ({ acl with aces := remainingAces subject resource acl.aces } : AclContents).Hangs))) :
      hend ∧ EditFits subject resource acl.aces ↔ CallFits subject resource acl :=
    ⟨fun hboth => ⟨hhrefs, hboth.2, (h hboth.2).mp hboth.1⟩,
      fun hcall => ⟨(h hcall.edit).mpr hcall.saved, hcall.edit⟩⟩
  split
  · rename_i hremoves
    split
    · rename_i hunit
      rw [hedited, hmemory]
      apply hfits
      intro _
      exact iff_of_true (Option.some_ne_none _) (fun _ hne => absurd hunit hne)
    rename_i hunit
    obtain ⟨hleft, hresult⟩ :=
      reportSave_saveAcl hedited .resourceDeleted .noResource write
    rw [hleft, hmemory, hresult]
    apply hfits
    intro heq
    rw [← hedit] at heq
    rw [heq]
    exact ⟨fun h _ _ => h, fun h => h (hflag.mp hremoves) hunit⟩
  rename_i hremoves
  rw [hedited, hmemory]
  apply hfits
  intro _
  exact iff_of_true (Option.some_ne_none _) (fun h => absurd (hflag.mpr h) hremoves)

/-- A device. Its bytes are those of the role `"llllllllllllllll"`. -/
def lampUuid : OicUuid := ⟨Vector.replicate 16 108⟩

def aceOf (subject : AceSubject) (hrefs : List (Option String)) (aceid : UInt16) : OicSecAce :=
  { subject := subject
    resources := hrefs.map (⟨·, none, [], [], .noWildcard⟩)
    permission := 2
    validities := []
    aceid := aceid }

def acesOf (aces : List OicSecAce) : AclContents := { rownerID := OicUuid.nil, aces := aces }

def unsavedStore (acl : AclContents) : AclStore :=
  { gAcl := some acl, gAceFreeId := 3, stored := none }

theorem lightRemoved_exact :
    RemovesExactly lampUuid (some "/a/light")
      (acesOf [aceOf (.uuid lampUuid) [some "/a/light", some "/a/fan"] 1])
      (removeAce .ok lampUuid (some "/a/light")
        (unsavedStore (acesOf [aceOf (.uuid lampUuid) [some "/a/light", some "/a/fan"] 1]))) := by
  refine (removeAce_exact .ok lampUuid (some "/a/light") rfl (by decide)).mpr ⟨?_, ?_, ?_⟩
  · decide
  · exact ⟨by decide, by decide⟩
  · intro _ _
    apply not_hangs
    intro ace hace
    exact ⟨by revert ace; decide, by revert ace; decide⟩

theorem lightRemoved_inexact :
    ¬ RemovesExactly lampUuid (some "/a/light")
        (acesOf [aceOf (.uuid lampUuid) [some "/a/light"] 1, aceOf (.uuid lampUuid) [] 2])
        (removeAce .ok lampUuid (some "/a/light") (unsavedStore
          (acesOf [aceOf (.uuid lampUuid) [some "/a/light"] 1, aceOf (.uuid lampUuid) [] 2])))
      ∧ ¬ RemovesExactly lampUuid (some "/a/light")
        (acesOf [aceOf (.role ⟨"llllllllllllllll", ""⟩) [some "/a/light", some "/a/fan"] 1])
        (removeAce .ok lampUuid (some "/a/light") (unsavedStore
          (acesOf [aceOf (.role ⟨"llllllllllllllll", ""⟩) [some "/a/light", some "/a/fan"] 1])))
      ∧ ¬ RemovesExactly lampUuid (some "/a/light") (acesOf [aceOf (.uuid lampUuid) [none] 1])
        (removeAce .ok lampUuid (some "/a/light")
          (unsavedStore (acesOf [aceOf (.uuid lampUuid) [none] 1]))) := by
  refine ⟨fun h => ?_, fun h => ?_, fun h => h.1 rfl⟩
  · exact absurd h.2 (by decide)
  · exact absurd h.2 (by decide)

/-! ## Taking away -/

/-- What takes entries or resources of entries away. -/
inductive AclRemoval
  | removeAce (subject : OicUuid) (resource : Option String)
  | removeAceByAceIds (ids : List UInt16)

def AclRemoval.call (write : PsWrite) (store : AclStore) : AclRemoval → AclCall AclResult
  | .removeAce subject resource => Sec.removeAce write subject resource store
  | .removeAceByAceIds ids => Sec.removeAceByAceIds write ids store

def AclStore.aces (store : AclStore) : List OicSecAce := (store.gAcl.map AclContents.aces).getD []

section Removal

variable {aces aces' : List OicSecAce}

lemma keepsGrants_trans {aces'' : List OicSecAce} (h : KeepsGrants aces'' aces')
    (h' : KeepsGrants aces' aces) : KeepsGrants aces'' aces :=
  fun surroundings context hgrants => h' surroundings context (h surroundings context hgrants)

lemma keepsGrants_subset (h : aces' ⊆ aces) : KeepsGrants aces' aces := by
  rintro surroundings context ⟨ace, hace, hgrants⟩
  exact ⟨ace, h hace, hgrants⟩

lemma keepsGrants_cons {ace ace' : OicSecAce} (hace : KeepsGrants [ace'] [ace])
    (h : KeepsGrants aces' aces) : KeepsGrants (ace' :: aces') (ace :: aces) := by
  simp only [KeepsGrants, exists_mem_cons_iff, not_mem_nil, false_and, exists_false, or_false]
    at hace h ⊢
  exact fun surroundings context => Or.imp (hace surroundings context) (h surroundings context)

lemma keepsGrants_without (ace : OicSecAce) (resource : String) :
    KeepsGrants [ace.without resource] [ace] := by
  rintro surroundings context ⟨_, hmem, hfor, hin, hrest⟩
  obtain rfl := mem_singleton.mp hmem
  obtain ⟨rsrc, hrsrc, hmatch⟩ := any_eq_true.mp hin
  exact ⟨ace, mem_singleton_self _, hfor,
    any_eq_true.mpr ⟨rsrc, mem_of_mem_filter hrsrc, hmatch⟩, hrest⟩

lemma removeRsrc_keepsGrants (subject : OicUuid) (resource : String) (flag : Bool)
    (aces : List OicSecAce) : KeepsGrants (removeRsrc subject resource flag aces).1 aces := by
  induction aces generalizing flag with
  | nil => exact keepsGrants_subset (Subset.refl _)
  | cons ace rest ih =>
    by_cases h : ace.subject.uuidBytes = subject
    · rw [removeRsrc_cons h]
      split
      · exact keepsGrants_trans (ih _) (keepsGrants_subset (subset_cons_self _ _))
      · exact keepsGrants_cons (keepsGrants_without _ _) (ih _)
    rw [removeRsrc_cons_other h]
    exact keepsGrants_cons (keepsGrants_subset (Subset.refl _)) (ih _)

lemma removeAceEdit_keepsGrants (subject : OicUuid) (resource : Option String)
    (aces : List OicSecAce) : KeepsGrants (removeAceEdit subject resource aces).1 aces := by
  unfold removeAceEdit
  split
  · exact keepsGrants_subset filter_sublist.subset
  · exact keepsGrants_subset filter_sublist.subset
  · exact removeRsrc_keepsGrants _ _ _ _

lemma removeIdsEdit_keepsGrants (ids : List UInt16) (aces : List OicSecAce) :
    KeepsGrants (removeIdsEdit ids aces).1 aces := by
  apply keepsGrants_subset
  exact foldlRecOn (motive := fun edit : List OicSecAce × Bool => edit.1 ⊆ aces) ids _
    (Subset.refl aces) (fun edit hedit id _ => Subset.trans eraseP_subset hedit)

lemma call_keepsGrants (removal : AclRemoval) (write : PsWrite) (store : AclStore) :
    KeepsGrants (removal.call write store).store.aces store.aces := by
  have hrefl : KeepsGrants store.aces store.aces := keepsGrants_subset (Subset.refl _)
  rcases hg : store.gAcl with _ | acl
  · cases removal <;> simpa only [AclRemoval.call, removeAce, removeAceByAceIds, hg] using hrefl
  have hstore : store.aces = acl.aces := by rw [AclStore.aces, hg]; rfl
  cases removal with
  | removeAceByAceIds ids =>
    rw [AclRemoval.call, AclStore.aces, removeAceByAceIds_gAcl write ids hg, hstore]
    exact removeIdsEdit_keepsGrants ids acl.aces
  | removeAce subject resource =>
    have hedited := withAces_gAcl hg (removeAceEdit subject resource acl.aces).1
    have hkept := removeAceEdit_keepsGrants subject resource acl.aces
    simp only [AclRemoval.call, removeAce, hg]
    split_ifs
    · exact hrefl
    · exact hrefl
    · rwa [AclStore.aces, hedited, hstore]
    · rwa [AclStore.aces, (reportSave_saveAcl hedited _ _ write).1, hstore]
    · rwa [AclStore.aces, hedited, hstore]

end Removal

/-- **Taking away never grants.** After any calls of `RemoveACE` and `RemoveAceByAceIds`, however
their writes go, a request is granted by the list only if it was granted before. -/
theorem removals_keepGrants (calls : List (AclRemoval × PsWrite)) (store : AclStore) :
    KeepsGrants (calls.foldl (fun s call => (call.1.call call.2 s).store) store).aces
      store.aces := by
  induction calls generalizing store with
  | nil => exact keepsGrants_subset (Subset.refl _)
  | cons call calls ih =>
    exact keepsGrants_trans (ih _) (call_keepsGrants call.1 call.2 store)

end Iochibity.Sec
