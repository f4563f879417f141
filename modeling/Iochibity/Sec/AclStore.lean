/-
`aclresource.c`, the operations on the global access control list `gAcl`.
-/
import Iochibity.Sec.AclCodec
import Iochibity.Lib.Runs
import Iochibity.Sec.RequestManager

namespace Iochibity.Sec

open CborItem (Item)
open List

section

/-! ## Memory and storage -/

/-- `OCStackResult`, the values that these functions return. -/
inductive AclResult
  | ok
  | resourceDeleted
  | duplicateRequest
  | noResource
  | invalidParam
  | error
  deriving DecidableEq

structure AclStore where
  gAcl : Option AclContents
  gAceFreeId : UInt16
  stored : Option Item

structure AclCall (ρ : Type) where
  result : Option ρ
  store : AclStore

inductive PsWrite
  | ok
  | failed (left : Option Item)

variable (write : PsWrite)

/-- `UpdateSecureResourceInPS` for the access control list. -/
def updateAclInPS (payload : Item) (store : AclStore) : AclResult × AclStore :=
  match write with
  | .ok => (.ok, { store with stored := some payload })
  | .failed left => (.error, { store with stored := left })

def saveAcl (store : AclStore) : AclCall AclResult :=
  match store.gAcl with
  | none => ⟨some .invalidParam, store⟩
  | some acl =>
    match aclToCBORPayload .v2 acl with
    | .ok payload =>
      let updated := updateAclInPS write payload store
      ⟨some updated.1, updated.2⟩
    | .error .error => ⟨some .error, store⟩
    | .error .invalidParam => ⟨some .invalidParam, store⟩
    | .error .aborts => ⟨none, store⟩
    | .error .hangs => ⟨none, store⟩

/-- What the functions that take entries away make of a save: one code when it
went well, another one when it did not. -/
def reportSave (success failure : AclResult) (call : AclCall AclResult) : AclCall AclResult :=
  match call with
  | ⟨some .ok, saved⟩ => ⟨some success, saved⟩
  | ⟨some _, saved⟩ => ⟨some failure, saved⟩
  | ⟨none, saved⟩ => ⟨none, saved⟩

def AclStore.withAces (store : AclStore) (aces : List OicSecAce) : AclStore :=
  { store with gAcl := store.gAcl.map ({ · with aces := aces }) }

/-! ## Sameness -/

/-- `IsSameStringArray`: the equal pairs are counted. An empty array is the null
pointer. -/
def isSameStringArray (strArr1 strArr2 : List String) : Bool :=
  if strArr1 = [] ∧ strArr2 = [] then true
  else if strArr1 ≠ [] ∧ strArr2 ≠ [] then
    if strArr1.length = strArr2.length then
      (strArr1.map (fun s => strArr2.countP (s = ·))).sum = strArr1.length
    else false
  else false

/-- The test of `IsSameResources` for a pair; a resource without an href is the
same as none. -/
def isSameRsrc (rsrc1 rsrc2 : OicSecRsrc) : Bool :=
  match rsrc1.href, rsrc2.href with
  | some href1, some href2 =>
    href1 = href2 && isSameStringArray rsrc1.interfaces rsrc2.interfaces
      && isSameStringArray rsrc1.types rsrc2.types
  | _, _ => false

/-- `IsSameResources`: the pairs that are the same are counted and compared with
the length of the first list. -/
def isSameResources (resources1 resources2 : List OicSecRsrc) : Bool :=
  if resources1 = [] ∧ resources2 = [] then true
  else if resources1 ≠ [] ∧ resources2 ≠ [] then
    (resources1.map (fun rsrc1 => resources2.countP (isSameRsrc rsrc1))).sum = resources1.length
  else false

/-- `IsSameValidities`. It compares periods with `strcmp` and does not come back
from a null pointer. -/
def isSameValidities (validities1 validities2 : List OicSecValidity) : Option Bool :=
  if validities1 = [] ∧ validities2 = [] then some true
  else if validities1 ≠ [] ∧ validities2 ≠ [] then
    if validities1.length = validities2.length then
      if (validities1 ++ validities2).any (·.period.isNone) then none
      else
        some ((validities1.map (fun v1 => validities2.countP (fun v2 =>
          v1.period = v2.period && isSameStringArray v1.recurrences v2.recurrences))).sum
            = validities1.length)
    else some false
  else some false

/-- The part of `IsSameACE` about the subjects. The strings of a role are compared with `&&` between
the differences, connection types not at all. -/
def isSameSubject (subject1 subject2 : AceSubject) : Bool :=
  match subject1, subject2 with
  | .uuid uuid1, .uuid uuid2 => uuid1 = uuid2
  | .role role1, .role role2 => !(role1.id ≠ role2.id && role1.authority ≠ role2.authority)
  | .conntype _, .conntype _ => true
  | _, _ => false

def isSameACE (ace1 ace2 : OicSecAce) : Option Bool :=
  if ¬ isSameSubject ace1.subject ace2.subject then some false
  else if ¬ isSameResources ace1.resources ace2.resources then some false
  else if ace1.permission ≠ ace2.permission then some false
  else isSameValidities ace1.validities ace2.validities

/-- The loop over `gAcl->aces`: is one of them the same? It goes on after a hit,
so a null pointer behind it is met too. -/
def hasSameACE (newAce : OicSecAce) : List OicSecAce → Option Bool
  | [] => some false
  | existAce :: rest => do
      let same ← isSameACE newAce existAce
      let later ← hasSameACE newAce rest
      return same || later

/-! ## Taking entries away -/

def wildcardSubjectB64Id : OicUuid := ⟨Vector.replicate 16 50⟩

/-- The first sixteen bytes of the union of subjects: `subjectuuid` whatever the kind. The memory
comes from `OICCalloc`; `AUTH_CRYPT` is 0 and `ANON_CLEAR` 1. -/
def AceSubject.uuidBytes : AceSubject → OicUuid
  | .uuid u => u
  | .role r => ⟨Vector.ofFn ((cString r.id).getD · 0)⟩
  | .conntype .authCrypt => OicUuid.nil
  | .conntype .anonClear => ⟨(Vector.replicate 16 0).set 0 1 uuidLength_pos⟩

/-- The loop of `RemoveACE` over the entries, for one resource: the list that is
left and `deleteFlag`, which stays set for the entries behind. -/
def removeRsrc (subject : OicUuid) (resource : String) :
    Bool → List OicSecAce → List OicSecAce × Bool
  | deleteFlag, [] => ([], deleteFlag)
  | deleteFlag, ace :: rest =>
    if ace.subject.uuidBytes = subject then
      let resources := ace.resources.filter (·.href ≠ some resource)
      let flag := deleteFlag || ace.resources.any (·.href = some resource)
      let later := removeRsrc subject resource flag rest
      if resources = [] ∧ flag then later
      else ({ ace with resources := resources } :: later.1, later.2)
    else
      let later := removeRsrc subject resource deleteFlag rest
      (ace :: later.1, later.2)

def comparesNullHref (subject : OicUuid) (aces : List OicSecAce) : Bool :=
  aces.any (fun ace => ace.subject.uuidBytes = subject && ace.resources.any (·.href.isNone))

/-- The edit of `RemoveACE`: the entries that are left, and whether something
was taken away. -/
def removeAceEdit (subject : OicUuid) (resource : Option String) (aces : List OicSecAce) :
    List OicSecAce × Bool :=
  match resource with
  | none | some "" =>
    (aces.filter (·.subject.uuidBytes ≠ subject), aces.any (·.subject.uuidBytes = subject))
  | some resource => removeRsrc subject resource false aces

def removeAce (subject : OicUuid) (resource : Option String)
    (store : AclStore) : AclCall AclResult :=
  match store.gAcl with
  | none => ⟨some .invalidParam, store⟩
  | some acl =>
    if subject = wildcardSubjectId then ⟨some .invalidParam, store⟩
    -- `strcmp` on the href of a resource that has none
    else if resource.getD "" ≠ "" ∧ comparesNullHref subject acl.aces then ⟨none, store⟩
    else
      let edit := removeAceEdit subject resource acl.aces
      let edited := store.withAces edit.1
      if edit.2 then
        if subject = wildcardSubjectB64Id then ⟨some .resourceDeleted, edited⟩
        else reportSave .resourceDeleted .noResource (saveAcl write edited)
      else ⟨some .noResource, edited⟩

def removeIdsEdit (ids : List UInt16) (aces : List OicSecAce) : List OicSecAce × Bool :=
  ids.foldl (fun edit id =>
    (edit.1.eraseP (·.aceid = id), edit.2 || edit.1.any (·.aceid = id)))
    (aces, false)

def removeAceByAceIds (ids : List UInt16) (store : AclStore) : AclCall AclResult :=
  match store.gAcl with
  | none => ⟨some .invalidParam, store⟩
  | some acl =>
    let edit := removeIdsEdit ids acl.aces
    let edited := store.withAces edit.1
    if edit.2 then reportSave .resourceDeleted .noResource (saveAcl write edited)
    else ⟨some .noResource, edited⟩

/-- The entries that `RemoveAllAce` leaves: those that name the resource. -/
def keptAces (resource : Option String) (aces : List OicSecAce) : List OicSecAce :=
  aces.filter (fun ace => resource.isSome && ace.resources.any (·.href = resource))

/-- The end of `RemoveAllAce` after a failed write: the backup is decoded and
written, and its write decides about the code. -/
def revertAcl (aclBackup : Item) (store : AclStore) : AclCall AclResult :=
  match cborPayloadToAcl store.gAcl aclBackup with
  | .ok originAcl =>
    match updateAclInPS write aclBackup store with
    | (.ok, written) => ⟨some .resourceDeleted, { written with gAcl := some originAcl }⟩
    | (code, written) => ⟨some code, written⟩
  | .error .aborts => ⟨none, store⟩
  | .error .hangs => ⟨none, store⟩
  | .error _ => ⟨some .error, store⟩

/-- `RemoveAllAce`, with the outcomes of its two writes. -/
def removeAllAce (write revertWrite : PsWrite) (resource : Option String) (store : AclStore) :
    AclCall AclResult :=
  match store.gAcl with
  | none => ⟨some .invalidParam, store⟩
  | some acl =>
    match aclToCBORPayload .v2 acl with
    | .error .error => ⟨some .error, store⟩
    | .error .invalidParam => ⟨some .invalidParam, store⟩
    | .error _ => ⟨none, store⟩
    | .ok aclBackup =>
      let edited := store.withAces (keptAces resource acl.aces)
      match saveAcl write edited with
      | ⟨some .ok, saved⟩ => ⟨some .resourceDeleted, saved⟩
      -- the only edit that is undone when it cannot be written
      | ⟨some _, saved⟩ => revertAcl revertWrite aclBackup saved
      | ⟨none, saved⟩ => ⟨none, saved⟩

def appendACLObject (acl : Option AclContents) (store : AclStore) : AclCall AclResult :=
  match store.gAcl, acl with
  | some g, some acl => saveAcl write (store.withAces (g.aces ++ acl.aces))
  | _, _ => ⟨some .invalidParam, store⟩

/-- The loop of `InstallACL`: the new entries, the last one first, and whether
one was left out. -/
def installLoop (aces : List OicSecAce) :
    List OicSecAce → List OicSecAce → Bool → Option (List OicSecAce × Bool)
  | [], newInstall, duplicated => some (newInstall, duplicated)
  | newAce :: rest, newInstall, duplicated => do
      let same ← hasSameACE newAce aces
      if same then installLoop aces rest newInstall true
      else installLoop aces rest (newAce :: newInstall) duplicated

def installACL (acl : Option AclContents) (store : AclStore) : AclCall AclResult :=
  match store.gAcl, acl with
  | some g, some acl =>
    match installLoop g.aces acl.aces [] false with
    | none => ⟨none, store⟩
    | some ([], duplicated) => ⟨some (if duplicated then .duplicateRequest else .error), store⟩
    | some (newInstall, _) =>
      appendACLObject write (some { rownerID := OicUuid.nil, aces := newInstall }) store
  | _, _ => ⟨some .invalidParam, store⟩

/-- `SetAclRownerId`. A failed write puts the old owner back. -/
def setAclRownerId (newROwner : Option OicUuid) (store : AclStore) : AclCall AclResult :=
  match store.gAcl, newROwner with
  | none, _ => ⟨some .noResource, store⟩
  | some _, none => ⟨some .invalidParam, store⟩
  | some acl, some uuid =>
    match saveAcl write { store with gAcl := some { acl with rownerID := uuid } } with
    | ⟨some .ok, saved⟩ => ⟨some .ok, saved⟩
    | ⟨some code, saved⟩ => ⟨some code, { saved with gAcl := some acl }⟩
    | ⟨none, saved⟩ => ⟨none, saved⟩

/-! ## Requests -/

/-- `OCEntityHandlerResult`, the codes of these handlers. -/
inductive AclResponse
  | ok
  | resourceDeleted
  | notAcceptable
  | internalServerError
  | error
  deriving DecidableEq

variable (dos : Option OicSecDostype) (payload : Option Item)

/-- The first part of both POST handlers: the onboarding state, the version and the decoder. It
gives the posted list or the answer, which is missing when the decoder does not come back. -/
def readPost (gAcl : Option AclContents) : Except (Option AclResponse) AclContents :=
  match dos with
  | none => .error (some .internalServerError)
  | some dos =>
    if dos.state = .reset ∨ dos.state = .rfnop then .error (some .notAcceptable)
    else
      match payload with
      | none => .error (some .error)
      | some payload =>
        match payloadVersion payload with
        | none => .error none
        | some .v1 => .error (some .notAcceptable)
        | some _ =>
          match cborPayloadToAcl gAcl payload with
          | .ok newAcl => .ok newAcl
          | .error .aborts => .error none
          | .error .hangs => .error none
          -- a payload that cannot be decoded is answered with `OC_EH_OK`
          | .error _ => .error (some .ok)

/-- Both POST handlers: `edit` gives the new entries and the new counter for the posted list (or
does not come back); at the end the owner is set, which also writes the list. -/
def handlePost
    (edit : AclStore → List OicSecAce → List OicSecAce → Option (List OicSecAce × UInt16))
    (write : PsWrite) (dos : Option OicSecDostype) (payload : Option Item) (store : AclStore) :
    AclCall AclResponse :=
  match readPost dos payload store.gAcl, store.gAcl with
  | .error response, _ => ⟨response, store⟩
  | .ok _, none => ⟨some .ok, store⟩
  | .ok newAcl, some acl =>
    match edit store acl.aces newAcl.aces with
    | none => ⟨none, store⟩
    | some (aces, gAceFreeId) =>
      let edited := { store.withAces aces with gAceFreeId := gAceFreeId }
      match setAclRownerId write (some newAcl.rownerID) edited with
      | ⟨none, saved⟩ => ⟨none, saved⟩
      | ⟨some .ok, saved⟩ => ⟨some .ok, saved⟩
      | ⟨some .noResource, saved⟩ => ⟨some .ok, saved⟩
      | ⟨some _, saved⟩ => ⟨some .error, saved⟩

/-- The loop of `HandleACLPostRequest`: what is not there yet is prepended. -/
def postLoop : List OicSecAce → List OicSecAce → Option (List OicSecAce)
  | aces, [] => some aces
  | aces, newAce :: rest => do
      let same ← hasSameACE newAce aces
      postLoop (if same then aces else newAce :: aces) rest

def handleACLPostRequest (store : AclStore) : AclCall AclResponse :=
  handlePost
    (fun store aces newAces => (postLoop aces newAces).map (fun aces => (aces, store.gAceFreeId)))
    write dos payload store

/-- The loop of `HandleACL2PostRequest`: an entry with an id takes the place of
the first one with that id; an entry without one gets the next number. -/
def post2Loop : UInt16 → List OicSecAce → List OicSecAce → List OicSecAce × UInt16
  | gAceFreeId, aces, [] => (aces, gAceFreeId)
  | gAceFreeId, aces, newAce :: rest =>
    if newAce.aceid ≠ 0 then
      post2Loop gAceFreeId (newAce :: aces.eraseP (newAce.aceid = ·.aceid)) rest
    else
      post2Loop (gAceFreeId + 1) ({ newAce with aceid := gAceFreeId } :: aces) rest

def handleACL2PostRequest (store : AclStore) : AclCall AclResponse :=
  handlePost (fun store aces newAces => some (post2Loop store.gAceFreeId aces newAces))
    write dos payload store

def handleAceIdsDelete (dos : Option OicSecDostype) (ids : List UInt16)
    (store : AclStore) : AclCall AclResponse :=
  match dos with
  | none => ⟨some .error, store⟩
  | some dos =>
    if dos.state = .reset ∨ dos.state = .rfnop then ⟨some .notAcceptable, store⟩
    else
      match removeAceByAceIds write ids store with
      | ⟨none, saved⟩ => ⟨none, saved⟩
      | ⟨some .resourceDeleted, saved⟩ => ⟨some .resourceDeleted, saved⟩
      | ⟨some _, saved⟩ => ⟨some .ok, saved⟩

/-! ## What the operations leave in memory -/

lemma saveAcl_gAcl (store : AclStore) : (saveAcl write store).store.gAcl = store.gAcl := by
  rw [saveAcl]
  split
  · rfl
  split
  · cases write <;> rfl
  all_goals rfl

variable {store : AclStore} {acl : AclContents}

lemma withAces_gAcl (h : store.gAcl = some acl) (aces : List OicSecAce) :
    (store.withAces aces).gAcl = some { acl with aces := aces } := by
  rw [AclStore.withAces, h]
  rfl

lemma map_eraseP_aceid (id : UInt16) (aces : List OicSecAce) :
    (aces.eraseP (id = ·.aceid)).map OicSecAce.aceid = (aces.map OicSecAce.aceid).erase id := by
  induction aces with
  | nil => rfl
  | cons ace rest ih =>
    rw [map_cons, eraseP_cons, erase_cons]
    by_cases h : id = ace.aceid
    · simp [h]
    have h' : ¬ ace.aceid = id := fun heq => h heq.symm
    simp [h, h', ih]

lemma ids_removeIdsEdit (ids : List UInt16) (aces : List OicSecAce) :
    (removeIdsEdit ids aces).1.map OicSecAce.aceid = (aces.map OicSecAce.aceid).diff ids := by
  have hgen : ∀ (ids : List UInt16) (edit : List OicSecAce × Bool),
      (ids.foldl (fun edit id => (edit.1.eraseP (·.aceid = id),
          edit.2 || edit.1.any (·.aceid = id))) edit).1.map OicSecAce.aceid
        = (edit.1.map OicSecAce.aceid).diff ids := by
    intro ids
    induction ids with
    | nil => intro edit; simp
    | cons id ids ih =>
      intro edit
      have hflip : (fun ace : OicSecAce => decide (ace.aceid = id))
          = fun ace => decide (id = ace.aceid) := by
        funext ace
        simp [eq_comm]
      rw [foldl_cons, ih, diff_cons]
      simp [hflip, map_eraseP_aceid]
  exact hgen ids (aces, false)

lemma reportSave_store (success failure : AclResult) (call : AclCall AclResult) :
    (reportSave success failure call).store = call.store := by
  rcases call with ⟨_ | code, saved⟩
  · rfl
  · cases code <;> rfl

section

variable (write : PsWrite)

lemma removeAceByAceIds_gAcl (ids : List UInt16) (h : store.gAcl = some acl) :
    (removeAceByAceIds write ids store).store.gAcl
      = some { acl with aces := (removeIdsEdit ids acl.aces).1 } := by
  have hedited := withAces_gAcl h (removeIdsEdit ids acl.aces).1
  simp only [removeAceByAceIds, h]
  split
  · rw [reportSave_store, saveAcl_gAcl, hedited]
  · exact hedited

lemma handleAceIdsDelete_store {dos : OicSecDostype}
    (h : ¬ (dos.state = .reset ∨ dos.state = .rfnop)) (ids : List UInt16) (store : AclStore) :
    (handleAceIdsDelete write (some dos) ids store).store
      = (removeAceByAceIds write ids store).store := by
  simp only [handleAceIdsDelete, if_neg h]
  rcases removeAceByAceIds write ids store with ⟨_ | code, saved⟩
  · rfl
  · cases code <;> rfl

/-- The entries of a list that `InstallACL` does not take for duplicates. -/
def newEntriesOf (aces posted : List OicSecAce) : List OicSecAce :=
  posted.filter (hasSameACE · aces = some false)

/-- A comparison with a null pointer stops `InstallACL`. -/
def installStops (aces posted : List OicSecAce) : Prop :=
  ∃ newAce ∈ posted, hasSameACE newAce aces = none

lemma installLoop_eq (aces posted newInstall : List OicSecAce) (duplicated : Bool)
    (h : ¬ installStops aces posted) :
    ∃ d, installLoop aces posted newInstall duplicated
      = some ((newEntriesOf aces posted).reverse ++ newInstall, d) := by
  induction posted generalizing newInstall duplicated with
  | nil => exact ⟨duplicated, rfl⟩
  | cons newAce rest ih =>
    have hrest : ¬ installStops aces rest :=
      fun ⟨a, ha, hnone⟩ => h ⟨a, mem_cons_of_mem newAce ha, hnone⟩
    rcases hsame : hasSameACE newAce aces with _ | _ | _
    · exact absurd ⟨newAce, mem_cons_self, hsame⟩ h
    · obtain ⟨d, hd⟩ := ih (newAce :: newInstall) duplicated hrest
      refine ⟨d, ?_⟩
      simp only [installLoop, hsame, bind, Option.bind, Bool.false_eq_true, if_false]
      rw [hd]
      simp [newEntriesOf, hsame]
    · obtain ⟨d, hd⟩ := ih newInstall true hrest
      refine ⟨d, ?_⟩
      simp only [installLoop, hsame, bind, Option.bind, if_true]
      rw [hd]
      simp [newEntriesOf, hsame]

lemma installLoop_stops {aces posted : List OicSecAce} (h : installStops aces posted)
    (newInstall : List OicSecAce) (duplicated : Bool) :
    installLoop aces posted newInstall duplicated = none := by
  induction posted generalizing newInstall duplicated with
  | nil =>
    obtain ⟨a, ha, -⟩ := h
    simp at ha
  | cons newAce rest ih =>
    rcases hsame : hasSameACE newAce aces with _ | same
    · simp [installLoop, hsame, Option.bind]
    have hrest : installStops aces rest := by
      obtain ⟨a, ha, hnone⟩ := h
      rcases mem_cons.mp ha with rfl | ha
      · rw [hsame] at hnone
        cases hnone
      · exact ⟨a, ha, hnone⟩
    simp only [installLoop, hsame, bind, Option.bind]
    split
    · exact ih hrest _ _
    · exact ih hrest _ _

lemma installACL_gAcl {g : AclContents} (hg : store.gAcl = some g)
    (hstops : ¬ installStops g.aces acl.aces) :
    (installACL write (some acl) store).store.gAcl
      = some { g with aces := g.aces ++ (newEntriesOf g.aces acl.aces).reverse } := by
  obtain ⟨d, hloop⟩ := installLoop_eq g.aces acl.aces [] false hstops
  rw [append_nil] at hloop
  simp only [installACL, hg, hloop]
  rcases hnew : (newEntriesOf g.aces acl.aces).reverse with _ | ⟨ace, rest⟩
  · simp [hg]
  simp only [appendACLObject, hg]
  rw [saveAcl_gAcl, withAces_gAcl hg]

lemma installACL_stops {g : AclContents} (hg : store.gAcl = some g)
    (hstops : installStops g.aces acl.aces) :
    installACL write (some acl) store = ⟨none, store⟩ := by
  simp [installACL, hg, installLoop_stops hstops]

lemma setAclRownerId_aces (uuid : OicUuid) (h : store.gAcl = some acl) :
    ∃ rownerID, (setAclRownerId write (some uuid) store).store.gAcl
      = some { acl with rownerID := rownerID } := by
  have hsaved := saveAcl_gAcl write { store with gAcl := some { acl with rownerID := uuid } }
  simp only [setAclRownerId, h]
  rcases hcall : saveAcl write { store with gAcl := some { acl with rownerID := uuid } }
    with ⟨_ | code, saved⟩
  · rw [hcall] at hsaved
    exact ⟨uuid, hsaved⟩
  rw [hcall] at hsaved
  cases code
  · exact ⟨uuid, hsaved⟩
  all_goals exact ⟨acl.rownerID, rfl⟩

end

lemma handlePost_refused
    {edit : AclStore → List OicSecAce → List OicSecAce → Option (List OicSecAce × UInt16)}
    {write : PsWrite} {dos : Option OicSecDostype} {payload : Option Item}
    (h : ∀ newAcl acl, readPost dos payload store.gAcl = .ok newAcl → store.gAcl = some acl →
      edit store acl.aces newAcl.aces = none) :
    (handlePost edit write dos payload store).store = store := by
  rcases hread : readPost dos payload store.gAcl with response | newAcl
  · simp [handlePost, hread]
  rcases hg : store.gAcl with _ | acl
  · rw [hg] at hread
    simp [handlePost, hg, hread]
  have hedit := h newAcl acl hread hg
  rw [hg] at hread
  simp [handlePost, hg, hread, hedit]

lemma handlePost_aces
    (edit : AclStore → List OicSecAce → List OicSecAce → Option (List OicSecAce × UInt16))
    (write : PsWrite) {dos : Option OicSecDostype} {payload : Option Item} {newAcl : AclContents}
    {edited : List OicSecAce × UInt16} (hread : readPost dos payload store.gAcl = .ok newAcl)
    (hg : store.gAcl = some acl) (hedit : edit store acl.aces newAcl.aces = some edited) :
    ∃ rownerID, (handlePost edit write dos payload store).store.gAcl
      = some { rownerID := rownerID, aces := edited.1 } := by
  have hedited : ({ store.withAces edited.1 with gAceFreeId := edited.2 } : AclStore).gAcl
      = some { acl with aces := edited.1 } := withAces_gAcl hg edited.1
  obtain ⟨rownerID, hset⟩ := setAclRownerId_aces write newAcl.rownerID hedited
  refine ⟨rownerID, ?_⟩
  rw [hg] at hread
  simp only [handlePost, hg, hread, hedit]
  rcases hcall : setAclRownerId write (some newAcl.rownerID)
    { store.withAces edited.1 with gAceFreeId := edited.2 } with ⟨_ | code, saved⟩
  · rw [hcall] at hset
    exact hset
  rw [hcall] at hset
  cases code <;> exact hset

end

/-! ## Ids -/

def AclStore.ids (store : AclStore) : List UInt16 :=
  match store.gAcl with
  | none => []
  | some acl => acl.aces.map OicSecAce.aceid

def UniqueIds (ids : List UInt16) : Prop := ids.Nodup ∧ 0 ∉ ids

/-- The entries without an id meet good numbers: at the turn of one the counter is not 0 and no
entry has its value. -/
def FreshIds : UInt16 → List UInt16 → List UInt16 → Prop
  | _, _, [] => True
  | gAceFreeId, used, id :: rest =>
    if id ≠ 0 then FreshIds gAceFreeId (id :: used) rest
    else gAceFreeId ≠ 0 ∧ gAceFreeId ∉ used ∧ FreshIds (gAceFreeId + 1) (gAceFreeId :: used) rest

lemma freshIds_congr {gAceFreeId : UInt16} {used used' posted : List UInt16}
    (h : ∀ id, id ∈ used ↔ id ∈ used') :
    FreshIds gAceFreeId used posted ↔ FreshIds gAceFreeId used' posted := by
  induction posted generalizing gAceFreeId used used' with
  | nil => rfl
  | cons id rest ih =>
    have hcons : ∀ a b, b ∈ a :: used ↔ b ∈ a :: used' := by
      intro a b
      simp [h]
    rw [FreshIds, FreshIds, ih (hcons id), ih (hcons gAceFreeId), h]

lemma uniqueIds_replace {id : UInt16} (hid : id ≠ 0) (ids : List UInt16) :
    UniqueIds (id :: ids.erase id) ↔ UniqueIds ids := by
  by_cases hmem : id ∈ ids
  · have hperm := perm_cons_erase hmem
    rw [UniqueIds, UniqueIds, hperm.nodup_iff, hperm.mem_iff]
  have hzero : (0 : UInt16) ≠ id := hid.symm
  rw [erase_of_not_mem hmem, UniqueIds, UniqueIds, nodup_cons, mem_cons]
  simp [hmem, hzero]

lemma mem_replace {id : UInt16} (ids : List UInt16) (a : UInt16) :
    a ∈ id :: ids.erase id ↔ a ∈ id :: ids := by
  rw [mem_cons, mem_cons]
  by_cases ha : a = id
  · simp [ha]
  · simp [ha]

lemma uniqueIds_post2Loop (gAceFreeId : UInt16) (aces newAces : List OicSecAce) :
    UniqueIds ((post2Loop gAceFreeId aces newAces).1.map OicSecAce.aceid)
      ↔ UniqueIds (aces.map OicSecAce.aceid)
        ∧ FreshIds gAceFreeId (aces.map OicSecAce.aceid) (newAces.map OicSecAce.aceid) := by
  induction newAces generalizing gAceFreeId aces with
  | nil => simp [post2Loop, FreshIds]
  | cons newAce rest ih =>
    rw [map_cons, FreshIds, post2Loop]
    by_cases hid : newAce.aceid ≠ 0
    · rw [if_pos hid, if_pos hid, ih, map_cons, map_eraseP_aceid, uniqueIds_replace hid,
        freshIds_congr (mem_replace _)]
    rw [if_neg hid, if_neg hid, ih, map_cons]
    simp only [UniqueIds, nodup_cons, mem_cons, not_or]
    have hzero : (0 : UInt16) = gAceFreeId ↔ gAceFreeId = 0 := eq_comm
    rw [hzero]
    constructor
    · rintro ⟨⟨⟨hnot, hnodup⟩, hne, hmem⟩, hrest⟩
      exact ⟨⟨hnodup, hmem⟩, hne, hnot, hrest⟩
    · rintro ⟨⟨hnodup, hmem⟩, hne, hnot, hrest⟩
      exact ⟨⟨⟨hnot, hnodup⟩, hne, hmem⟩, hrest⟩

lemma uniqueIds_diff {ids : List UInt16} (h : UniqueIds ids) (deleted : List UInt16) :
    UniqueIds (ids.diff deleted) ∧ ∀ id ∈ deleted, id ∉ ids.diff deleted := by
  refine ⟨⟨h.1.diff, fun hzero => h.2 (diff_subset _ _ hzero)⟩, ?_⟩
  intro id hid hmem
  exact (h.1.mem_sdiff_iff.mp hmem).2 hid

/-! ## Runs -/

inductive AclOp
  | post2 (write : PsWrite) (dos : Option OicSecDostype) (payload : Option Item)
  | deleteIds (write : PsWrite) (dos : Option OicSecDostype) (ids : List UInt16)
  | install (write : PsWrite) (acl : Option AclContents)

def AclOp.call (op : AclOp) (store : AclStore) : AclStore × Bool :=
  match op with
  | .post2 write dos payload =>
    let call := handleACL2PostRequest write dos payload store
    (call.store, call.result.isSome)
  | .deleteIds write dos ids =>
    let call := handleAceIdsDelete write dos ids store
    (call.store, call.result.isSome)
  | .install write acl =>
    let call := installACL write acl store
    (call.store, call.result.isSome)

/-- The ids that an operation is to delete. A DELETE is refused in `RESET` and
`RFNOP`. -/
def AclOp.deletes : AclOp → List UInt16
  | .deleteIds _ (some dos) ids => if dos.state = .reset ∨ dos.state = .rfnop then [] else ids
  | _ => []

structure AclDevice where
  store : AclStore
  running : Bool

structure AclPoint where
  deleted : List UInt16
  ids : List UInt16

def AclDevice.step (device : AclDevice) (op : AclOp) : AclDevice × List AclPoint :=
  if device.running then
    let after := op.call device.store
    (⟨after.1, after.2⟩, [⟨op.deletes, after.1.ids⟩])
  else (device, [])

def AclPoint.Good (point : AclPoint) : Prop :=
  UniqueIds point.ids ∧ ∀ id ∈ point.deleted, id ∉ point.ids

/-- What an operation must bring along: numbers still free for the posted entries without an id, and
new ids of its own for the entries to install. -/
def AclOp.BringsFreshIds (store : AclStore) : AclOp → Prop
  | .post2 _ dos payload => ∀ newAcl acl, readPost dos payload store.gAcl = .ok newAcl →
      store.gAcl = some acl →
      FreshIds store.gAceFreeId store.ids (newAcl.aces.map OicSecAce.aceid)
  | .deleteIds _ _ _ => True
  | .install _ acl => ∀ g a, store.gAcl = some g → acl = some a → ¬ installStops g.aces a.aces →
      UniqueIds ((newEntriesOf g.aces a.aces).map OicSecAce.aceid)
        ∧ ∀ id ∈ (newEntriesOf g.aces a.aces).map OicSecAce.aceid, id ∉ store.ids

lemma ids_of_gAcl {store : AclStore} {acl : AclContents} (h : store.gAcl = some acl) :
    store.ids = acl.aces.map OicSecAce.aceid := by
  rw [AclStore.ids, h]

lemma post2_good {store : AclStore} (hunique : UniqueIds store.ids) (write : PsWrite)
    (dos : Option OicSecDostype) (payload : Option Item) :
    UniqueIds ((AclOp.post2 write dos payload).call store).1.ids
      ↔ (AclOp.post2 write dos payload).BringsFreshIds store := by
  simp only [AclOp.call, AclOp.BringsFreshIds, handleACL2PostRequest]
  by_cases hreach : ∃ newAcl acl,
      readPost dos payload store.gAcl = .ok newAcl ∧ store.gAcl = some acl
  · obtain ⟨newAcl, acl, hread, hg⟩ := hreach
    obtain ⟨rownerID, hafter⟩ := handlePost_aces
      (fun store aces newAces => some (post2Loop store.gAceFreeId aces newAces)) write hread hg rfl
    rw [ids_of_gAcl hafter, uniqueIds_post2Loop, ← ids_of_gAcl hg]
    constructor
    · rintro ⟨-, hfresh⟩ newAcl' acl' hread' -
      rw [hread, Except.ok.injEq] at hread'
      rw [← hread']
      exact hfresh
    · intro hfresh
      exact ⟨hunique, hfresh newAcl acl hread hg⟩
  rw [handlePost_refused (fun newAcl acl hread hg => absurd ⟨newAcl, acl, hread, hg⟩ hreach)]
  refine iff_of_true hunique ?_
  intro newAcl acl hread hg
  exact absurd ⟨newAcl, acl, hread, hg⟩ hreach

lemma install_good {store : AclStore} (hunique : UniqueIds store.ids) (write : PsWrite)
    (acl : Option AclContents) :
    UniqueIds ((AclOp.install write acl).call store).1.ids
      ↔ (AclOp.install write acl).BringsFreshIds store := by
  simp only [AclOp.call, AclOp.BringsFreshIds]
  rcases hg : store.gAcl with _ | g
  · refine iff_of_true ?_ (fun g a h => by cases h)
    simpa only [installACL, hg] using hunique
  rcases acl with _ | a
  · refine iff_of_true ?_ (fun g a _ h => by cases h)
    simpa only [installACL, hg] using hunique
  by_cases hstops : installStops g.aces a.aces
  · rw [installACL_stops write hg hstops]
    refine iff_of_true hunique ?_
    rintro g' a' hg' ha' hnot
    rw [Option.some.injEq] at hg' ha'
    subst hg' ha'
    exact absurd hstops hnot
  rw [ids_of_gAcl (installACL_gAcl write hg hstops), map_append, map_reverse, ← ids_of_gAcl hg]
  constructor
  · rintro ⟨hnodup, hzero⟩ g' a' hg' ha' -
    rw [Option.some.injEq] at hg' ha'
    subst hg' ha'
    rw [nodup_append] at hnodup
    obtain ⟨-, hnew, hdisjoint⟩ := hnodup
    refine ⟨⟨nodup_reverse.mp hnew, fun h => hzero ?_⟩, fun id hid hmem => ?_⟩
    · simp [h]
    · exact hdisjoint id hmem id (mem_reverse.mpr hid) rfl
  · intro h
    obtain ⟨⟨hnodup, hzero⟩, hdisjoint⟩ := h g a rfl rfl hstops
    refine ⟨nodup_append.mpr ⟨hunique.1, nodup_reverse.mpr hnodup, ?_⟩, ?_⟩
    · rintro id hid id' hid' rfl
      exact hdisjoint id (mem_reverse.mp hid') hid
    · rw [mem_append, mem_reverse]
      exact not_or.mpr ⟨hunique.2, hzero⟩

lemma deleteIds_ids (write : PsWrite) (dos : Option OicSecDostype) (ids : List UInt16)
    (store : AclStore) :
    ((AclOp.deleteIds write dos ids).call store).1.ids
      = store.ids.diff (AclOp.deleteIds write dos ids).deletes := by
  rcases dos with _ | dos
  · rfl
  by_cases hdos : dos.state = .reset ∨ dos.state = .rfnop
  · simp only [AclOp.call, handleAceIdsDelete, AclOp.deletes, if_pos hdos]
    rfl
  simp only [AclOp.call, AclOp.deletes, if_neg hdos, handleAceIdsDelete_store write hdos]
  rcases hg : store.gAcl with _ | acl
  · have hnil : store.ids = [] := by rw [AclStore.ids, hg]
    simp [removeAceByAceIds, hg, hnil]
  · rw [ids_of_gAcl (removeAceByAceIds_gAcl write ids hg), ids_of_gAcl hg, ids_removeIdsEdit]

lemma step_good {device : AclDevice} (hunique : UniqueIds device.store.ids) (op : AclOp) :
    ((∀ point ∈ (device.step op).2, point.Good)
        ↔ (device.running = true → op.BringsFreshIds device.store))
      ∧ ((device.running = true → op.BringsFreshIds device.store) →
        UniqueIds (device.step op).1.store.ids) := by
  by_cases hrun : device.running = true
  · have hgood : (∀ point ∈ (device.step op).2, point.Good)
        ↔ UniqueIds (op.call device.store).1.ids
          ∧ ∀ id ∈ op.deletes, id ∉ (op.call device.store).1.ids := by
      simp [AclDevice.step, hrun, AclPoint.Good]
    have hstate : (device.step op).1.store = (op.call device.store).1 := by
      simp [AclDevice.step, hrun]
    rw [hgood, hstate]
    simp only [hrun, true_implies]
    -- only a DELETE has ids to delete
    cases op with
    | post2 write dos payload =>
      have hiff := post2_good hunique write dos payload
      refine ⟨⟨fun h => hiff.mp h.1, fun h => ⟨hiff.mpr h, fun id hid => ?_⟩⟩, hiff.mpr⟩
      cases hid
    | deleteIds write dos ids =>
      have hdiff := uniqueIds_diff hunique (AclOp.deleteIds write dos ids).deletes
      rw [← deleteIds_ids write dos ids device.store] at hdiff
      exact ⟨iff_of_true hdiff trivial, fun _ => hdiff.1⟩
    | install write acl =>
      have hiff := install_good hunique write acl
      refine ⟨⟨fun h => hiff.mp h.1, fun h => ⟨hiff.mpr h, fun id hid => ?_⟩⟩, hiff.mpr⟩
      cases hid
  simp only [AclDevice.step, hrun, if_false, Bool.false_eq_true, not_mem_nil,
    false_implies, implies_true, true_and]
  exact fun _ => hunique

/-- **Ids over whole runs.** From unique ids, they stay unique and every DELETE
takes away every entry with one of its ids, at every point of a run, exactly
when all operations of the run bring fresh ids. -/
theorem ace_ids_unique_iff (store : AclStore) (hunique : UniqueIds store.ids) (ops : List AclOp) :
    (∀ point ∈ (Runs.run AclDevice.step ⟨store, true⟩ ops).2, point.Good)
      ↔ Runs.Along AclDevice.step
          (fun device op => device.running = true → op.BringsFreshIds device.store)
          ⟨store, true⟩ ops := by
  apply Runs.run_log_iff (fun device : AclDevice => UniqueIds device.store.ids)
  · intro device op hdevice
    exact step_good hdevice op
  · exact hunique

/-- A list with one entry, which an earlier session gave the number 6. The
counter starts at `ACE_ID_FIRST_FREE` again. -/
def restartedStore : AclStore :=
  { gAcl := some
      { rownerID := OicUuid.nil
        aces :=
          [ { subject := .conntype .authCrypt
              resources := [⟨some "/a/fan", none, [], [], .noWildcard⟩]
              permission := 2
              validities := []
              aceid := 6 } ] }
    gAceFreeId := 6
    stored := none }

def lightPayload : Item :=
  .map (CborItem.flatten
    [ ("aclist2", .array
        [ .map (CborItem.flatten
            [ ("subject", .map (CborItem.flatten [("conntype", .text "auth-crypt")])),
              ("resources", .array [.map (CborItem.flatten [("href", .text "/a/light")])]),
              ("permission", .uint 2) ]) ]) ])

theorem ace_ids_unique_iff_fresh :
    UniqueIds restartedStore.ids
      ∧ ∀ point ∈ (Runs.run AclDevice.step ⟨{ restartedStore with gAceFreeId := 7 }, true⟩
          [ .post2 .ok (some ⟨.rfpro, false⟩) (some lightPayload),
            .deleteIds .ok (some ⟨.rfpro, false⟩) [6] ]).2, point.Good := by
  have hunique : UniqueIds restartedStore.ids := ⟨by decide, by decide⟩
  refine ⟨hunique, ?_⟩
  apply (ace_ids_unique_iff { restartedStore with gAceFreeId := 7 } hunique _).mpr
  refine ⟨fun _ => ?_, fun _ => trivial, trivial⟩
  intro newAcl acl hread _
  have hposted : readPost (some ⟨.rfpro, false⟩) (some lightPayload) restartedStore.gAcl
      = .ok ⟨OicUuid.nil, [⟨.conntype .authCrypt,
          [⟨some "/a/light", none, [], [], .noWildcard⟩], 2, [], 0⟩]⟩ := rfl
  have heq := hposted.symm.trans hread
  rw [Except.ok.injEq] at heq
  rw [← heq]
  exact ⟨by decide, by decide, trivial⟩

theorem restartedStore_doubles :
    UniqueIds restartedStore.ids
      ∧ ¬ ∀ point ∈ (Runs.run AclDevice.step ⟨restartedStore, true⟩
          [ .post2 .ok (some ⟨.rfpro, false⟩) (some lightPayload),
            .deleteIds .ok (some ⟨.rfpro, false⟩) [6] ]).2, point.Good := by
  have hids : (Runs.run AclDevice.step ⟨restartedStore, true⟩
      [ .post2 .ok (some ⟨.rfpro, false⟩) (some lightPayload),
        .deleteIds .ok (some ⟨.rfpro, false⟩) [6] ]).2 = [⟨[], [6, 6]⟩, ⟨[6], [6]⟩] := by
    rfl
  refine ⟨⟨by decide, by decide⟩, ?_⟩
  rw [hids]
  intro h
  have hgood := (h ⟨[], [6, 6]⟩ mem_cons_self).1.1
  simp at hgood

variable (ace : OicSecAce)

def OicSecAce.Names (href : String) : Prop :=
  ∃ rsrc ∈ ace.resources, rsrc.href = some href

def OicSecAce.HasWildcard (wildcard : OicSecAceResourceWildcard) : Prop :=
  ∃ rsrc ∈ ace.resources, rsrc.href = none ∧ rsrc.wildcard = wildcard

lemma isResourceInAce_iff (context : SRMRequestContext) (ace : OicSecAce) :
    isResourceInAce context ace = true ↔ ace.Names "*" ∨ ace.Names context.resourceUri
      ∨ (isNonConfigurationResourceUri context.resourceUri = true
        ∧ (ace.HasWildcard .allNcrs
          ∨ (ace.HasWildcard .allDiscoverableNcrsWithOcSecure
            ∧ context.discoverable = .yes ∧ context.resourceIsOcSecure = true)
          ∨ (ace.HasWildcard .allDiscoverableNcrsWithOcNonsecure
            ∧ context.discoverable = .yes ∧ context.resourceIsOcNonsecure = true))) := by
  rw [isResourceInAce, any_eq_true]
  constructor
  · rintro ⟨rsrc, hrsrc, hmatch⟩
    rw [isResourceMatching] at hmatch
    rcases hhref : rsrc.href with _ | href
    · simp only [hhref, Bool.and_eq_true, Bool.or_eq_true, beq_iff_eq] at hmatch
      obtain ⟨⟨-, hncr⟩, (hall | ⟨⟨hsec, hdisc⟩, hoc⟩) | ⟨⟨hnon, hdisc⟩, hoc⟩⟩ := hmatch
      · exact .inr (.inr ⟨hncr, .inl ⟨rsrc, hrsrc, hhref, hall⟩⟩)
      · exact .inr (.inr ⟨hncr, .inr (.inl ⟨⟨rsrc, hrsrc, hhref, hsec⟩, hdisc, hoc⟩)⟩)
      · exact .inr (.inr ⟨hncr, .inr (.inr ⟨⟨rsrc, hrsrc, hhref, hnon⟩, hdisc, hoc⟩)⟩)
    simp only [hhref, Bool.or_eq_true, beq_iff_eq] at hmatch
    rcases hmatch with huri | hstar
    · exact .inr (.inl ⟨rsrc, hrsrc, by rw [hhref, huri]⟩)
    · exact .inl ⟨rsrc, hrsrc, by rw [hhref, hstar]⟩
  · rintro (⟨rsrc, hrsrc, hhref⟩ | ⟨rsrc, hrsrc, hhref⟩ | ⟨hncr, hwild⟩)
    · exact ⟨rsrc, hrsrc, by simp [isResourceMatching, hhref]⟩
    · exact ⟨rsrc, hrsrc, by simp [isResourceMatching, hhref]⟩
    · rcases hwild with ⟨rsrc, hrsrc, hhref, hw⟩ | ⟨⟨rsrc, hrsrc, hhref, hw⟩, hdisc, hoc⟩
        | ⟨⟨rsrc, hrsrc, hhref, hw⟩, hdisc, hoc⟩
      · exact ⟨rsrc, hrsrc, by simp [isResourceMatching, hhref, hw, hncr]⟩
      · exact ⟨rsrc, hrsrc, by simp [isResourceMatching, hhref, hw, hncr, hdisc, hoc]⟩
      · exact ⟨rsrc, hrsrc, by simp [isResourceMatching, hhref, hw, hncr, hdisc, hoc]⟩

/-- The same resources, as far as it matters: the href `"*"` covers everything; the widest wildcard
makes the others and its resources' names idle. -/
def SameResources (a b : OicSecAce) : Prop :=
  (a.Names "*" ↔ b.Names "*")
    ∧ (a.Names "*"
      ∨ ((a.HasWildcard .allNcrs ↔ b.HasWildcard .allNcrs)
        ∧ (a.HasWildcard .allNcrs
          ∨ ((a.HasWildcard .allDiscoverableNcrsWithOcSecure
                ↔ b.HasWildcard .allDiscoverableNcrsWithOcSecure)
              ∧ (a.HasWildcard .allDiscoverableNcrsWithOcNonsecure
                ↔ b.HasWildcard .allDiscoverableNcrsWithOcNonsecure)))
        ∧ ∀ href, (a.HasWildcard .allNcrs ∧ isNonConfigurationResourceUri href = true)
            ∨ (a.Names href ↔ b.Names href)))

lemma length_le_sum {s : String} {used : List String} (h : s ∈ used) :
    s.length ≤ (used.map String.length).sum := by
  induction used with
  | nil => simp at h
  | cons t rest ih =>
    rw [map_cons, sum_cons]
    rcases mem_cons.mp h with rfl | hrest
    · omega
    · exact Nat.le_trans (ih hrest) (Nat.le_add_left _ _)

lemma exists_fresh (start : List Char) (used : List String) :
    ∃ n, 0 < n ∧ String.ofList (start ++ List.replicate n 'a') ∉ used := by
  -- longer than all of them together
  refine ⟨(used.map String.length).sum + 1, Nat.succ_pos _, fun hmem => ?_⟩
  have hle := length_le_sum hmem
  rw [String.length_ofList, length_append, length_replicate] at hle
  omega

lemma exists_fresh_ncr (used : List String) :
    ∃ uri, isNonConfigurationResourceUri uri = true ∧ uri ∉ used := by
  obtain ⟨n, hn, hfresh⟩ := exists_fresh [] used
  refine ⟨_, ?_, hfresh⟩
  rw [nil_append]
  obtain ⟨m, rfl⟩ : ∃ m, n = m + 1 := ⟨n - 1, by omega⟩
  have hquery : withoutQuery (String.ofList (List.replicate (m + 1) 'a'))
      = String.ofList (List.replicate (m + 1) 'a') := by
    rw [withoutQuery, String.toList_ofList, takeWhile_replicate]
    rfl
  have hslash : ∀ names : List String, (∀ s ∈ names, s.toList.head? = some '/') →
      names.contains (String.ofList (List.replicate (m + 1) 'a')) = false := by
    intro names hnames
    rw [← Bool.not_eq_true, contains_iff_mem]
    intro hmem
    have hhead := hnames _ hmem
    rw [String.toList_ofList, replicate_succ, head?_cons, Option.some.injEq] at hhead
    simp at hhead
  rw [isNonConfigurationResourceUri, isDeviceConfigurationResourceUri, srmIsSecurityResourceURI,
    hquery, hslash _ (by decide), hslash _ (by decide)]
  rfl

lemma exists_fresh_configuration (used : List String) :
    ∃ uri, isNonConfigurationResourceUri uri = false ∧ uri ∉ used := by
  obtain ⟨n, -, hfresh⟩ := exists_fresh "/oic/res?".toList used
  refine ⟨_, ?_, hfresh⟩
  have hquery : withoutQuery (String.ofList ("/oic/res?".toList ++ List.replicate n 'a'))
      = "/oic/res" := by
    rw [withoutQuery, String.toList_ofList]
    rfl
  rw [isNonConfigurationResourceUri, isDeviceConfigurationResourceUri, hquery]
  simp

/-! ## Entries that cover the same -/

def probe (uri : String) (discoverable secure nonsecure : Bool) : SRMRequestContext where
  endPoint := none
  resourceType := .notASvrResource
  resourceUri := uri
  requestedPermission := 0
  responseVal := .deniedSubjectNotFound
  resourceIsOcSecure := secure
  resourceIsOcNonsecure := nonsecure
  secureChannel := false
  discoverable := if discoverable then .yes else .no
  subjectIdType := .error
  subjectUuid := OicUuid.nil

def OicSecAce.hrefs : List String := ace.resources.filterMap (·.href)

lemma names_iff_mem_hrefs (href : String) : ace.Names href ↔ href ∈ ace.hrefs := by
  rw [OicSecAce.Names, OicSecAce.hrefs, mem_filterMap]

variable {a b : OicSecAce}

lemma sameResources_of_probes
    (h : ∀ context, isResourceInAce context a = isResourceInAce context b) :
    SameResources a b := by
  have hprobe : ∀ uri d s n, isResourceInAce (probe uri d s n) a = true
      ↔ isResourceInAce (probe uri d s n) b = true := by
    intro uri d s n
    rw [h]
  simp only [isResourceInAce_iff, names_iff_mem_hrefs] at hprobe
  have hdisc : ∀ d : Bool, (if d then OicSecDiscoverable.yes else .no) = .yes ↔ d = true := by
    decide
  simp only [probe, hdisc] at hprobe
  obtain ⟨config, hconfig, hunused⟩ := exists_fresh_configuration (a.hrefs ++ b.hrefs)
  obtain ⟨ncr, hncr, hunused'⟩ := exists_fresh_ncr (a.hrefs ++ b.hrefs)
  rw [mem_append, not_or] at hunused hunused'
  simp only [SameResources, names_iff_mem_hrefs]
  -- a configuration resource that neither names
  have hstar := hprobe config false false false
  simp only [hunused.1, hunused.2, hconfig, Bool.false_eq_true, false_and, or_false] at hstar
  refine ⟨hstar, ?_⟩
  by_cases hs : "*" ∈ a.hrefs
  · exact .inl hs
  have hs' : "*" ∉ b.hrefs := fun hb => hs (hstar.mpr hb)
  -- another resource that neither names
  have hall := hprobe ncr false false false
  have hsec := hprobe ncr true true false
  have hnon := hprobe ncr true false true
  simp only [hs, hs', hunused'.1, hunused'.2, hncr, Bool.false_eq_true, and_false, and_true,
    true_and, false_or, or_false] at hall hsec hnon
  refine .inr ⟨hall, ?_, ?_⟩
  · by_cases ha : a.HasWildcard .allNcrs
    · exact .inl ha
    have hb : ¬ b.HasWildcard .allNcrs := fun hb => ha (hall.mpr hb)
    simp only [ha, hb, false_or] at hsec hnon
    exact .inr ⟨hsec, hnon⟩
  · intro href
    by_cases hcov : a.HasWildcard .allNcrs ∧ isNonConfigurationResourceUri href = true
    · exact .inl hcov
    have hcov' : ¬ (b.HasWildcard .allNcrs ∧ isNonConfigurationResourceUri href = true) := by
      rwa [← hall]
    have hname := hprobe href false false false
    rw [and_comm] at hcov hcov'
    simp only [hs, hs', Bool.false_eq_true, and_false, false_or, or_false, hcov, hcov']
      at hname
    exact .inr hname

lemma isResourceInAce_congr (h : SameResources a b)
    (context : SRMRequestContext) : isResourceInAce context a = isResourceInAce context b := by
  rw [Bool.eq_iff_iff, isResourceInAce_iff, isResourceInAce_iff]
  obtain ⟨hstar, hs | ⟨hall, hdisc, hnames⟩⟩ := h
  · simp [hs, hstar.mp hs]
  rw [hstar, hall]
  have hname := hnames context.resourceUri
  rw [hall] at hdisc hname
  by_cases hb : b.HasWildcard .allNcrs
  · by_cases hncr : isNonConfigurationResourceUri context.resourceUri = true
    · simp [hb, hncr]
    simp only [hncr, false_and, and_false, Bool.false_eq_true, or_false, false_or] at hname ⊢
    rw [hname]
  simp only [hb, false_or, false_and] at hdisc hname ⊢
  rw [hname, hdisc.1, hdisc.2]

lemma same_coverage_iff (a b : OicSecAce) :
    (∀ context, isResourceInAce context a = isResourceInAce context b) ↔ SameResources a b :=
  ⟨sameResources_of_probes, fun h context => isResourceInAce_congr h context⟩

/-- The periods with their recurrences that `IsAccessWithinValidTime` tries:
none when the first validity has no recurrences. -/
def OicSecAce.times (ace : OicSecAce) : List (Option String × String) :=
  match ace.validities with
  | [] => []
  | first :: rest =>
    if first.recurrences = [] then []
    else
      (first :: rest).flatMap (fun validity => validity.recurrences.map (validity.period, ·))

def SameTimes (a b : OicSecAce) : Prop :=
  (a.validities = [] ↔ b.validities = []) ∧ ∀ time, time ∈ a.times ↔ time ∈ b.times

lemma isAccessWithinValidTime_iff (surroundings : Surroundings) (ace : OicSecAce) :
    isAccessWithinValidTime surroundings ace = true ↔ ace.validities = []
      ∨ ∃ time ∈ ace.times, surroundings.isRequestWithinValidTime time.1 time.2 = true := by
  unfold isAccessWithinValidTime OicSecAce.times
  rcases ace.validities with _ | ⟨first, rest⟩
  · simp
  by_cases hfirst : first.recurrences = []
  · simp [if_pos hfirst]
  simp only [if_neg hfirst, any_eq_true, mem_flatMap, mem_map, reduceCtorEq, false_or]
  constructor
  · rintro ⟨validity, hvalidity, recurrence, hrec, hopen⟩
    exact ⟨_, ⟨validity, hvalidity, recurrence, hrec, rfl⟩, hopen⟩
  · rintro ⟨_, ⟨validity, hvalidity, recurrence, hrec, rfl⟩, hopen⟩
    exact ⟨validity, hvalidity, recurrence, hrec, hopen⟩

lemma isAccessWithinValidTime_congr (h : SameTimes a b) (surroundings : Surroundings) :
    isAccessWithinValidTime surroundings a = isAccessWithinValidTime surroundings b := by
  rw [Bool.eq_iff_iff, isAccessWithinValidTime_iff, isAccessWithinValidTime_iff, h.1]
  simp [h.2]

/-- Some test of `IsSameACE` tells the entries apart: the subjects, the number
of pairs of equal resources, the permissions or the validities. -/
def ToldApart (a b : OicSecAce) : Prop :=
  isSameSubject a.subject b.subject = false ∨ isSameResources a.resources b.resources = false
    ∨ a.permission ≠ b.permission
    ∨ isSameValidities a.validities b.validities ≠ some true

lemma isSameACE_iff (a b : OicSecAce) : isSameACE a b = some true ↔ ¬ ToldApart a b := by
  rw [isSameACE, ToldApart]
  by_cases hsubject : isSameSubject a.subject b.subject = true
  · by_cases hresources : isSameResources a.resources b.resources = true
    · by_cases hpermission : a.permission = b.permission
      · simp [hsubject, hresources, hpermission]
      · simp [hsubject, hresources, hpermission]
    · simp [hsubject, hresources]
  · simp [hsubject]

/-- The two entries match the same requests: same subject, and every request
gets the same answers about resource and permission. -/
def MatchSameRequests (a b : OicSecAce) : Prop :=
  a.subject = b.subject ∧ ∀ context, isResourceInAce context a = isResourceInAce context b
      ∧ isPermissionAllowingRequest a.permission context.requestedPermission
        = isPermissionAllowingRequest b.permission context.requestedPermission

lemma same_matches_iff (a b : OicSecAce) :
    (isSameACE a b = some true → MatchSameRequests a b)
      ↔ ToldApart a b ∨ (a.subject = b.subject ∧ SameResources a b) := by
  rw [isSameACE_iff]
  by_cases happart : ToldApart a b
  · simp [happart]
  have hpermission : a.permission = b.permission := by
    by_contra hne
    exact happart (.inr (.inr (.inl hne)))
  simp [happart, MatchSameRequests, hpermission, same_coverage_iff]

/-! ## What a list grants -/

/-- The comparison of a new entry with one that is there is right: told apart,
or the same subject, resources and times. -/
def JudgedRightly (newAce existAce : OicSecAce) : Prop :=
  ToldApart newAce existAce
    ∨ (newAce.subject = existAce.subject ∧ SameResources newAce existAce
      ∧ SameTimes newAce existAce)

def KeepsGrants (posted resulting : List OicSecAce) : Prop :=
  ∀ surroundings context, (∃ ace ∈ posted, Grants surroundings context ace) →
    ∃ ace ∈ resulting, Grants surroundings context ace

variable {newAce : OicSecAce}

variable {surroundings : Surroundings} {context : SRMRequestContext}

lemma grants_of_same {existAce : OicSecAce} (hsame : isSameACE newAce existAce = some true)
    (hright : JudgedRightly newAce existAce) (hgrants : Grants surroundings context newAce) :
    Grants surroundings context existAce := by
  rw [isSameACE_iff] at hsame
  obtain happart | ⟨hsubject, hresources, htimes⟩ := hright
  · exact absurd happart hsame
  have hpermission : newAce.permission = existAce.permission := by
    by_contra hne
    exact hsame (.inr (.inr (.inl hne)))
  obtain ⟨hfor, hin, htime, hallow⟩ := hgrants
  rw [IsForRequester, hsubject] at hfor
  rw [isResourceInAce_congr hresources] at hin
  rw [isAccessWithinValidTime_congr htimes] at htime
  rw [hpermission] at hallow
  exact ⟨hfor, hin, htime, hallow⟩

variable {aces : List OicSecAce}

lemma exists_same
    (h : hasSameACE newAce aces = some true) : ∃ ace ∈ aces, isSameACE newAce ace = some true := by
  induction aces with
  | nil => simp [hasSameACE] at h
  | cons existAce rest ih =>
    simp only [hasSameACE, bind, Option.bind_eq_some_iff, pure, Option.some.injEq] at h
    obtain ⟨same, hsame, later, hlater, hor⟩ := h
    rcases same with _ | _
    · rw [Bool.false_or] at hor
      rw [hor] at hlater
      obtain ⟨ace, hace, hfound⟩ := ih hlater
      exact ⟨ace, mem_cons_of_mem _ hace, hfound⟩
    · exact ⟨existAce, mem_cons_self, hsame⟩

lemma grants_of_hasSameACE (hsame : hasSameACE newAce aces = some true)
    (hright : ∀ existAce ∈ aces, JudgedRightly newAce existAce)
    (hgrants : Grants surroundings context newAce) :
    ∃ ace ∈ aces, Grants surroundings context ace := by
  obtain ⟨ace, hace, hfound⟩ := exists_same hsame
  exact ⟨ace, hace, grants_of_same hfound (hright ace hace) hgrants⟩

variable {store : AclStore} {g : AclContents}

lemma installACL_keeps_grants (write : PsWrite) {acl : AclContents} (hg : store.gAcl = some g)
    (hright : ∀ newAce ∈ acl.aces, ∀ existAce ∈ g.aces, JudgedRightly newAce existAce)
    (hback : (installACL write (some acl) store).result ≠ none) :
    ∃ g', (installACL write (some acl) store).store.gAcl = some g'
      ∧ KeepsGrants acl.aces g'.aces := by
  have hstops : ¬ installStops g.aces acl.aces := by
    intro hstops
    rw [installACL_stops write hg hstops] at hback
    exact hback rfl
  refine ⟨_, installACL_gAcl write hg hstops, ?_⟩
  rintro surroundings context ⟨newAce, hnew, hgrants⟩
  rcases hsame : hasSameACE newAce g.aces with _ | _ | _
  · exact absurd ⟨newAce, hnew, hsame⟩ hstops
  · -- not there yet: it is among the entries that are added
    refine ⟨newAce, mem_append_right _ (mem_reverse.mpr ?_), hgrants⟩
    rw [newEntriesOf, mem_filter]
    exact ⟨hnew, decide_eq_true hsame⟩
  · obtain ⟨ace, hace, hgrants⟩ := grants_of_hasSameACE hsame (hright newAce hnew) hgrants
    exact ⟨ace, mem_append_left _ hace, hgrants⟩

/-! ## The POST -/

/-- Every comparison of the loop of `HandleACLPostRequest` is right. -/
def AllJudgedRightly : List OicSecAce → List OicSecAce → Prop
  | _, [] => True
  | aces, newAce :: rest =>
    (∀ existAce ∈ aces, JudgedRightly newAce existAce)
      ∧ AllJudgedRightly (if hasSameACE newAce aces = some true then aces else newAce :: aces) rest

variable {posted resulting : List OicSecAce}

lemma subset_postLoop (h : postLoop aces posted = some resulting) : aces ⊆ resulting := by
  induction posted generalizing aces with
  | nil =>
    rw [postLoop, Option.some.injEq] at h
    rw [h]
    simp
  | cons newAce rest ih =>
    simp only [postLoop, bind, Option.bind_eq_some_iff] at h
    obtain ⟨same, -, hrest⟩ := h
    intro ace hace
    apply ih hrest
    split
    · exact hace
    · simp [hace]

lemma postLoop_keeps_grants (hloop : postLoop aces posted = some resulting)
    (hright : AllJudgedRightly aces posted) :
    KeepsGrants posted resulting := by
  -- induction on the posted entries; the list that is there grows
  induction posted generalizing aces with
  | nil =>
    rintro surroundings context ⟨ace, hace, -⟩
    simp at hace
  | cons newAce rest ih =>
    simp only [postLoop, bind, Option.bind_eq_some_iff] at hloop
    obtain ⟨same, hsame, hrest⟩ := hloop
    simp only [AllJudgedRightly, hsame, Option.some.injEq] at hright
    obtain ⟨hhead, htail⟩ := hright
    have hkeeps := ih hrest htail
    rintro surroundings context ⟨ace, hace, hgrants⟩
    rcases mem_cons.mp hace with rfl | hace
    · rcases same with _ | _
      · exact ⟨ace, subset_postLoop hrest mem_cons_self, hgrants⟩
      obtain ⟨old, hold, hgrants⟩ := grants_of_hasSameACE hsame hhead hgrants
      exact ⟨old, subset_postLoop hrest hold, hgrants⟩
    · exact hkeeps surroundings context ⟨ace, hace, hgrants⟩

lemma handleACLPost_keeps_grants (write : PsWrite) {dos : Option OicSecDostype}
    {payload : Option Item} {posted : AclContents} (hg : store.gAcl = some g)
    (hread : readPost dos payload store.gAcl = .ok posted)
    (hright : AllJudgedRightly g.aces posted.aces)
    (hback : (handleACLPostRequest write dos payload store).result ≠ none) :
    ∃ g', (handleACLPostRequest write dos payload store).store.gAcl = some g'
      ∧ KeepsGrants posted.aces g'.aces := by
  rcases hloop : postLoop g.aces posted.aces with _ | resulting
  · refine absurd ?_ hback
    rw [hg] at hread
    simp [handleACLPostRequest, handlePost, hg, hread, hloop]
  have hedit : (postLoop g.aces posted.aces).map (fun aces => (aces, store.gAceFreeId))
      = some (resulting, store.gAceFreeId) := by
    simp [hloop]
  obtain ⟨rownerID, hafter⟩ := handlePost_aces
    (fun store aces newAces => (postLoop aces newAces).map
      (fun aces => (aces, store.gAceFreeId))) write hread hg hedit
  exact ⟨_, hafter, postLoop_keeps_grants hloop hright⟩

def lampFor (conn : OicSecConntype) (href : String) : OicSecAce where
  subject := .conntype conn
  resources := [⟨some href, none, [], [], .noWildcard⟩]
  permission := 2
  validities := []
  aceid := 1

def lampStore : AclStore where
  gAcl := some { rownerID := OicUuid.nil, aces := [lampFor .authCrypt "/lamp"] }
  gAceFreeId := 6
  stored := none

def openRead : SRMRequestContext :=
  { probe "/lamp" false false false with requestedPermission := 2 }

def plainSurroundings : Surroundings where
  endpointRoles := fun _ => none
  isAdministratorSession := fun _ => false
  isRequestWithinValidTime := fun _ _ => false

end Iochibity.Sec
