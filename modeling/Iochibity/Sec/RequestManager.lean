/-
`policyengine.c`: is a request allowed?
-/
import Iochibity.Coap.Message
import Iochibity.Lib.Cursor
import Iochibity.Sec.UuidText
import Iochibity.Sec.CalendarPeriod

namespace Iochibity.Sec

open Iochibity.Coap

section

open Option

variable (uri : String)

def withoutQuery : String :=
  String.ofList (uri.toList.takeWhile (· ≠ '?'))

def srmIsSecurityResourceURI : Bool :=
  [ "/oic/sec/amacl", "/oic/sec/crl", "/oic/sec/cred", "/oic/sec/sp", "/oic/sec/csr",
    "/oic/sec/acl", "/oic/sec/acl2", "/oic/sec/doxm", "/oic/sec/pstat", "/oic/sec/ver",
    "/oic/sec/roles", "/oic/credprov/crl" ].contains (withoutQuery uri)

def isDeviceConfigurationResourceUri : Bool :=
  srmIsSecurityResourceURI uri
    || [ "/oic/d", "/oic/p", "/oic/res", "/CoapCloudConfResURI" ].contains (withoutQuery uri)

def isNonConfigurationResourceUri : Bool :=
  !isDeviceConfigurationResourceUri uri

def getSvrTypeFromUri : OicSecSvrType :=
  let path := withoutQuery uri
  if path = "/oic/sec/acl" then .acl
  else if path = "/oic/sec/acl2" then .acl2
  else if path = "/oic/sec/amacl" then .amacl
  else if path = "/oic/sec/cred" then .cred
  else if path = "/oic/sec/crl" then .crl
  else if path = "/oic/sec/csr" then .csr
  else if path = "/oic/sec/sp" then .sp
  else if path = "/oic/sec/doxm" then .doxm
  else if path = "/oic/sec/pstat" then .pstat
  else if path = "/oic/sec/roles" then .roles
  else if path = "/oic/sec/sacl" then .sacl
  else .notASvrResource

inductive OicSecDiscoverable
  | notKnown
  | yes
  | no
  deriving DecidableEq

inductive SubjectIdentityType
  | error
  | uuid
  | role
  deriving DecidableEq

structure RequestEndpoint extends CAEndpoint where
  flags : UInt32
  deriving DecidableEq

/-- `SRMRequestContext_t`, the fields that a decision reads or writes. -/
structure SRMRequestContext where
  endPoint : Option RequestEndpoint
  resourceType : OicSecSvrType
  resourceUri : String
  requestedPermission : UInt16
  responseVal : SRMAccessResponse
  resourceIsOcSecure : Bool
  resourceIsOcNonsecure : Bool
  secureChannel : Bool
  discoverable : OicSecDiscoverable
  subjectIdType : SubjectIdentityType
  subjectUuid : OicUuid
  deriving DecidableEq

/-- The parts of `gDoxm` that decide about owners. -/
structure DoxmOwners where
  owner : OicUuid
  rownerID : OicUuid
  deriving DecidableEq

/-- The secure virtual resources, as far as a decision reads them. The owner of the credentials is a
variable of its own and always there. -/
structure Svrs where
  dos : Option OicSecDostype
  doxm : Option DoxmOwners
  acl : Option OicSecAcl
  credRownerID : OicUuid
  pstatRownerID : Option OicUuid

/-- What a decision asks of sessions and clock: the roles asserted on a session (`GetEndpointRoles`,
`none` on an error), whether it carries `CA_SECURE_ENDPOINT_ATTRIBUTE_ADMINISTRATOR`, and
`IsRequestWithinValidTime`. -/
structure Surroundings where
  endpointRoles : RequestEndpoint → Option (List OicSecRole)
  isAdministratorSession : RequestEndpoint → Bool
  isRequestWithinValidTime : Option String → String → Bool

def isPermissionAllowingRequest (permission request : UInt16) : Bool :=
  request == request &&& permission

/-- `IsAccessWithinValidTime`. Only the first validity's recurrences are
checked for being there. -/
def isAccessWithinValidTime (surroundings : Surroundings) (ace : OicSecAce) : Bool :=
  match ace.validities with
  | [] => true
  | first :: rest =>
    if first.recurrences = [] then false
    else
      (first :: rest).any (fun validity =>
        validity.recurrences.any (surroundings.isRequestWithinValidTime validity.period))

/-- The test of `IsResourceInAce` for one resource of the entry. -/
def isResourceMatching (context : SRMRequestContext) (rsrc : OicSecRsrc) : Bool :=
  match rsrc.href with
  | none =>
    rsrc.wildcard != .noWildcard && isNonConfigurationResourceUri context.resourceUri
      && (rsrc.wildcard == .allNcrs
        || (rsrc.wildcard == .allDiscoverableNcrsWithOcSecure
          && context.discoverable == .yes && context.resourceIsOcSecure)
        || (rsrc.wildcard == .allDiscoverableNcrsWithOcNonsecure
          && context.discoverable == .yes && context.resourceIsOcNonsecure))
  | some href => context.resourceUri == href || "*" == href

def isResourceInAce (context : SRMRequestContext) (ace : OicSecAce) : Bool :=
  ace.resources.any (isResourceMatching context)

section

variable (surroundings : Surroundings) (context : SRMRequestContext)

def processMatchingACE (ace : OicSecAce) : SRMAccessResponse :=
  if isResourceInAce context ace then
    if isAccessWithinValidTime surroundings ace then
      if isPermissionAllowingRequest ace.permission context.requestedPermission then .granted
      else .deniedInsufficientPermission
    else .deniedInvalidPeriod
  else .deniedResourceNotFound

/-- The subject test of `GetACLResourceDataByConntype`. -/
def hasConntype (conntype : OicSecConntype) (node : AceNode) : Bool :=
  match node.ace.subject with
  | .conntype subjectConn => conntype == subjectConn
  | _ => false

/-- The subject test of `GetACLResourceData`. -/
def hasUuid (subjectId : OicUuid) (node : AceNode) : Bool :=
  match node.ace.subject with
  | .uuid subjectuuid => subjectuuid == subjectId
  | _ => false

/-- The subject test of `GetACLResourceDataByRoles`. -/
def hasRole (roles : List OicSecRole) (node : AceNode) : Bool :=
  match node.ace.subject with
  | .role subjectRole =>
    roles.any (fun role =>
      subjectRole.id == role.id && subjectRole.authority == role.authority)
  | _ => false

/-- A `do … while` loop of `ProcessAccessRequest`: get the next entry with this kind of subject,
process it, go on until none is left or one grants. With `gAcl == NULL` there is none. -/
def searchLoop (gAcl : Option OicSecAcl) (isMatch : AceNode → Bool) (fuel : Nat)
    (responseVal : SRMAccessResponse) : Option SRMAccessResponse :=
  match gAcl with
  | none => some responseVal
  | some acl =>
    Cursor.search AceNode.address isMatch
      (fun node _ => processMatchingACE surroundings context node.ace) isAccessGranted
      acl.aces fuel none responseVal

/-- `ProcessAccessRequest`: the final `context->responseVal`. Every loop gets
`fuel` rounds; `none` when they do not suffice. -/
def processAccessRequest (surroundings : Surroundings) (gAcl : Option OicSecAcl) (fuel : Nat)
    (context : SRMRequestContext) : Option SRMAccessResponse := do
  let conntype := if context.secureChannel then OicSecConntype.authCrypt else .anonClear
  let byConntype ← searchLoop surroundings context gAcl (hasConntype conntype) fuel
    .deniedSubjectNotFound
  if isAccessGranted byConntype then return byConntype
  let byUuid ← searchLoop surroundings context gAcl (hasUuid context.subjectUuid) fuel byConntype
  if isAccessGranted byUuid then return byUuid
  match context.endPoint.bind surroundings.endpointRoles with
  | none => return byUuid
  | some [] => return byUuid
  | some roles => searchLoop surroundings context gAcl (hasRole roles) fuel byUuid

/-! ## The decision -/

def assertedRoles : List OicSecRole :=
  (context.endPoint.bind surroundings.endpointRoles).getD []

/-- The entry is for this requester: its subject is the connection type of the
channel, the requester's UUID, or one of the roles it asserted. -/
def IsForRequester (ace : OicSecAce) : Prop :=
  match ace.subject with
  | .conntype conn => conn = if context.secureChannel then .authCrypt else .anonClear
  | .uuid uuid => uuid = context.subjectUuid
  | .role role => ∃ asserted ∈ assertedRoles surroundings context,
      role.id = asserted.id ∧ role.authority = asserted.authority

def Grants (ace : OicSecAce) : Prop :=
  IsForRequester surroundings context ace ∧ isResourceInAce context ace = true
    ∧ isAccessWithinValidTime surroundings ace = true
    ∧ isPermissionAllowingRequest ace.permission context.requestedPermission = true

end

def entries (gAcl : Option OicSecAcl) : List OicSecAce :=
  match gAcl with
  | none => []
  | some acl => acl.aces.map AceNode.ace

variable {surroundings : Surroundings} {context : SRMRequestContext}

lemma processMatchingACE_granted {ace : OicSecAce} :
    processMatchingACE surroundings context ace = .granted ↔
      isResourceInAce context ace = true ∧ isAccessWithinValidTime surroundings ace = true
        ∧ isPermissionAllowingRequest ace.permission context.requestedPermission = true := by
  unfold processMatchingACE
  split_ifs <;> simp [*]

lemma searchLoop_spec (surroundings : Surroundings) (context : SRMRequestContext)
    (gAcl : Option OicSecAcl) (isMatch : AceNode → Bool)
    (responseVal : SRMAccessResponse) (hval : isAccessGranted responseVal = false) :
    ∃ r, (∀ fuel, (entries gAcl).length < fuel →
          searchLoop surroundings context gAcl isMatch fuel responseVal = some r)
      ∧ (isAccessGranted r = true ↔ ∃ acl, gAcl = some acl ∧ ∃ node ∈ acl.aces, isMatch node = true
            ∧ processMatchingACE surroundings context node.ace = .granted) := by
  cases gAcl with
  | none =>
    refine ⟨responseVal, fun _ _ => rfl, ?_⟩
    rw [hval]
    simp
  | some acl =>
    have hsearch : ∀ fuel, (entries (some acl)).length < fuel →
        searchLoop surroundings context (some acl) isMatch fuel responseVal
          = some (Cursor.walk (fun node _ => processMatchingACE surroundings context node.ace)
              isAccessGranted (acl.aces.filter isMatch) responseVal) := by
      intro fuel hfuel
      apply Cursor.search_eq_walk _ _ _ acl.aces acl.distinct
      rw [entries, List.length_map] at hfuel
      exact Nat.lt_of_le_of_lt (List.length_filter_le _ _) hfuel
    refine ⟨_, hsearch, ?_⟩
    rw [Cursor.stop_walk isAccessGranted
      (fun node : AceNode => processMatchingACE surroundings context node.ace) _ _ hval]
    simp [and_assoc]

lemma isForRequester_iff (node : AceNode) :
    IsForRequester surroundings context node.ace ↔
      hasConntype (if context.secureChannel then .authCrypt else .anonClear) node = true
        ∨ hasUuid context.subjectUuid node = true
        ∨ hasRole (assertedRoles surroundings context) node = true := by
  unfold IsForRequester hasConntype hasUuid hasRole
  cases node.ace.subject with
  | uuid | role => simp
  | conntype conn =>
    simp only [beq_iff_eq, Bool.false_eq_true, or_false]
    exact eq_comm

/-- Some entry of the list passes the three tests and satisfies `isMatch`. -/
def Finds (surroundings : Surroundings) (context : SRMRequestContext) (gAcl : Option OicSecAcl)
    (isMatch : AceNode → Bool) : Prop :=
  ∃ acl, gAcl = some acl ∧ ∃ node ∈ acl.aces, isMatch node = true
    ∧ processMatchingACE surroundings context node.ace = .granted

lemma exists_grants_iff (gAcl : Option OicSecAcl) :
    (∃ ace ∈ entries gAcl, Grants surroundings context ace) ↔ Finds surroundings context gAcl
          (hasConntype (if context.secureChannel then .authCrypt else .anonClear))
        ∨ Finds surroundings context gAcl (hasUuid context.subjectUuid)
        ∨ Finds surroundings context gAcl (hasRole (assertedRoles surroundings context)) := by
  cases gAcl with
  | none => simp [entries, Finds]
  | some acl =>
    simp only [Finds, Option.some.injEq, exists_eq_left', processMatchingACE_granted]
    constructor
    · rintro ⟨ace, hace, hfor, hpasses⟩
      obtain ⟨node, hnode, rfl⟩ := List.mem_map.mp hace
      rcases isForRequester_iff node |>.mp hfor with h | h | h
      · exact .inl ⟨node, hnode, h, hpasses⟩
      · exact .inr (.inl ⟨node, hnode, h, hpasses⟩)
      · exact .inr (.inr ⟨node, hnode, h, hpasses⟩)
    · have hback : ∀ node ∈ acl.aces, IsForRequester surroundings context node.ace → _ →
          ∃ ace ∈ entries (some acl), Grants surroundings context ace :=
        fun node hnode hfor hpasses => ⟨node.ace, List.mem_map_of_mem hnode, hfor, hpasses⟩
      rintro (⟨node, hnode, h, hpasses⟩ | ⟨node, hnode, h, hpasses⟩ | ⟨node, hnode, h, hpasses⟩)
      · exact hback node hnode ((isForRequester_iff node).mpr (.inl h)) hpasses
      · exact hback node hnode ((isForRequester_iff node).mpr (.inr (.inl h))) hpasses
      · exact hback node hnode ((isForRequester_iff node).mpr (.inr (.inr h))) hpasses

lemma roleSearch_spec (surroundings : Surroundings) (context : SRMRequestContext)
    (gAcl : Option OicSecAcl) (responseVal : SRMAccessResponse)
    (hval : isAccessGranted responseVal = false) :
    ∃ r, (∀ fuel, (entries gAcl).length < fuel →
          (match context.endPoint.bind surroundings.endpointRoles with
          | none => some responseVal
          | some [] => some responseVal
          | some roles =>
            searchLoop surroundings context gAcl (hasRole roles) fuel responseVal) = some r)
      ∧ (isAccessGranted r = true ↔
          Finds surroundings context gAcl (hasRole (assertedRoles surroundings context))) := by
  have hnone : ¬ Finds surroundings context gAcl (hasRole []) := by
    rintro ⟨acl, -, node, -, hrole, -⟩
    revert hrole
    unfold hasRole
    cases node.ace.subject <;> simp
  unfold assertedRoles
  cases hroles : context.endPoint.bind surroundings.endpointRoles with
  | none =>
    refine ⟨responseVal, fun _ _ => rfl, iff_of_false ?_ hnone⟩
    rw [hval]
    simp
  | some roles =>
    cases roles with
    | nil =>
      refine ⟨responseVal, fun _ _ => rfl, iff_of_false ?_ hnone⟩
      rw [hval]
      simp
    | cons role roles =>
      exact searchLoop_spec surroundings context gAcl (hasRole (role :: roles)) responseVal hval

lemma processAccessRequest_spec (surroundings : Surroundings) (gAcl : Option OicSecAcl)
    (context : SRMRequestContext) :
    ∃ r, (∀ fuel, (entries gAcl).length < fuel →
          processAccessRequest surroundings gAcl fuel context = some r)
      ∧ (r = .granted ↔ ∃ ace ∈ entries gAcl, Grants surroundings context ace) := by
  obtain ⟨byConntype, hconnLoop, hconn⟩ := searchLoop_spec surroundings context gAcl
    (hasConntype (if context.secureChannel then .authCrypt else .anonClear))
    .deniedSubjectNotFound rfl
  rw [exists_grants_iff]
  by_cases hgrant : isAccessGranted byConntype = true
  · refine ⟨byConntype, ?_, iff_of_true ((isAccessGranted_iff _).mp hgrant) ?_⟩
    · intro fuel hfuel
      simp only [processAccessRequest, hconnLoop fuel hfuel, bind_eq_bind,
        bind_some, hgrant, if_true, pure_def]
    · exact .inl (hconn.mp hgrant)
  have hconnNot := mt hconn.mpr hgrant
  rw [Bool.not_eq_true] at hgrant
  obtain ⟨byUuid, huuidLoop, huuid⟩ := searchLoop_spec surroundings context gAcl
    (hasUuid context.subjectUuid) byConntype hgrant
  by_cases hgrant' : isAccessGranted byUuid = true
  · refine ⟨byUuid, ?_, iff_of_true ((isAccessGranted_iff _).mp hgrant') ?_⟩
    · intro fuel hfuel
      simp only [processAccessRequest, hconnLoop fuel hfuel, huuidLoop fuel hfuel, bind_eq_bind,
        bind_some, hgrant, hgrant', Bool.false_eq_true, if_true, if_false, pure_def]
    · exact .inr (.inl (huuid.mp hgrant'))
  have huuidNot := mt huuid.mpr hgrant'
  rw [Bool.not_eq_true] at hgrant'
  obtain ⟨byRole, hroleLoop, hrole⟩ := roleSearch_spec surroundings context gAcl byUuid hgrant'
  refine ⟨byRole, ?_, ?_⟩
  · intro fuel hfuel
    simp only [processAccessRequest, hconnLoop fuel hfuel, huuidLoop fuel hfuel, bind_eq_bind,
      bind_some, hgrant, hgrant', Bool.false_eq_true, if_false, pure_def]
    exact hroleLoop fuel hfuel
  · rw [← isAccessGranted_iff, hrole]
    constructor
    · exact fun h => .inr (.inr h)
    · rintro (h | h | h)
      · exact absurd h hconnNot
      · exact absurd h huuidNot
      · exact h

/-- **The decision is exact and does not depend on the order.** For every list,
request and asserted roles the searches end, with a grant exactly when some
entry of the list is for this requester and passes the resource, time and
permission tests; so two lists with the same entries in another order decide
alike. -/
theorem acl_decision_exact (surroundings : Surroundings) (gAcl : Option OicSecAcl)
    (context : SRMRequestContext) :
    (∃ r, (∀ fuel, (entries gAcl).length < fuel →
          processAccessRequest surroundings gAcl fuel context = some r)
      ∧ (r = .granted ↔ ∃ ace ∈ entries gAcl, Grants surroundings context ace))
    ∧ ∀ gAcl', (entries gAcl').Perm (entries gAcl) → ∀ fuel, (entries gAcl).length < fuel →
        (processAccessRequest surroundings gAcl' fuel context = some .granted ↔
          processAccessRequest surroundings gAcl fuel context = some .granted) := by
  refine ⟨processAccessRequest_spec surroundings gAcl context, ?_⟩
  intro gAcl' hperm fuel hfuel
  obtain ⟨r, hr, hgranted⟩ := processAccessRequest_spec surroundings gAcl context
  obtain ⟨r', hr', hgranted'⟩ := processAccessRequest_spec surroundings gAcl' context
  rw [hr fuel hfuel, hr' fuel (by rw [hperm.length_eq]; exact hfuel), Option.some.injEq,
    Option.some.injEq, hgranted, hgranted']
  constructor
  · rintro ⟨ace, hace, h⟩
    exact ⟨ace, hperm.mem_iff.mp hace, h⟩
  · rintro ⟨ace, hace, h⟩
    exact ⟨ace, hperm.mem_iff.mpr hace, h⟩

def sampleAcl : OicSecAcl :=
  { rownerID := OicUuid.nil
    aces :=
      [ ⟨10, ⟨.conntype .authCrypt, [⟨some "/a/light", none, [], [], .noWildcard⟩], 31, [], 1⟩⟩,
        ⟨11, ⟨.conntype .anonClear, [⟨some "/a/fan", none, [], [], .noWildcard⟩], 31, [], 2⟩⟩,
        ⟨12, ⟨.uuid OicUuid.nil, [⟨none, none, [], [], .allNcrs⟩], 2, [], 3⟩⟩ ]
    distinct := by decide }

def sampleRequest : SRMRequestContext :=
  { endPoint := none, resourceType := .notASvrResource, resourceUri := "/a/light"
    requestedPermission := permissionRead, responseVal := .deniedPolicyEngineError
    resourceIsOcSecure := false, resourceIsOcNonsecure := false, secureChannel := false
    discoverable := .notKnown, subjectIdType := .uuid, subjectUuid := OicUuid.nil }

def sampleSurroundings : Surroundings :=
  { endpointRoles := fun _ => none
    isAdministratorSession := fun _ => false
    isRequestWithinValidTime := fun _ _ => true }

theorem acl_decision_exact_sample :
    ∃ r, processAccessRequest sampleSurroundings (some sampleAcl) 4 sampleRequest = some r
      ∧ r = .granted := by
  obtain ⟨⟨r, hr, -⟩, -⟩ := acl_decision_exact sampleSurroundings (some sampleAcl) sampleRequest
  have hrun := hr 4 (by decide)
  have heval : processAccessRequest sampleSurroundings (some sampleAcl) 4 sampleRequest
      = some .granted := by decide
  rw [heval] at hrun
  exact ⟨r, by rw [heval, hrun], (some.inj hrun).symm⟩

/-! ## Implicit access -/

section

variable (svrs : Svrs) (context : SRMRequestContext)

def isRequestFromDevOwner : Bool :=
  if isNilUuid context.subjectUuid then false
  else
    match svrs.doxm with
    | none => false
    | some doxm => doxm.owner == context.subjectUuid

def isRequestFromOwnershipTransferSession (surroundings : Surroundings)
    (context : SRMRequestContext) : Bool :=
  match context.endPoint with
  | none => false
  | some endPoint => surroundings.isAdministratorSession endPoint

/-- The common part of the four owner tests: the subject is a UUID, not nil,
and the one that was read. -/
def isRequestFrom (owner : Option OicUuid) (context : SRMRequestContext) : Bool :=
  if context.subjectIdType ≠ .uuid then false
  else if isNilUuid context.subjectUuid then false
  else
    match owner with
    | none => false
    | some uuid => context.subjectUuid == uuid

/-- The table `GetSvrRownerId`. -/
def getSvrRownerId (svrs : Svrs) : OicSecSvrType → Option OicUuid
  | .acl => svrs.acl.map OicSecAcl.rownerID
  | .cred => some svrs.credRownerID
  | .doxm => svrs.doxm.map DoxmOwners.rownerID
  | .pstat => svrs.pstatRownerID
  | .acl2 => svrs.acl.map OicSecAcl.rownerID
  | _ => none

def isRequestFromResourceOwner : Bool :=
  isRequestFrom (getSvrRownerId svrs context.resourceType) context

def isRequestFromDoxs : Bool :=
  isRequestFrom (svrs.doxm.map DoxmOwners.rownerID) context

def isRequestFromAms : Bool :=
  isRequestFrom (svrs.acl.map OicSecAcl.rownerID) context

def isRequestFromCms : Bool :=
  isRequestFrom (some svrs.credRownerID) context

end

def checkPermission (surroundings : Surroundings) (svrs : Svrs) (fuel : Nat)
    (context : SRMRequestContext) : Option SRMAccessResponse :=
  match svrs.dos with
  | none => some .deniedPolicyEngineError
  | some dos =>
    -- outside RFNOP only device configuration resources can be reached
    if dos.state ≠ .rfnop ∧ ¬ isDeviceConfigurationResourceUri context.resourceUri then
      some .denied
    else if isRequestFromDevOwner svrs context ∧ (dos.state = .rfotm ∨ dos.state = .sreset)
        ∧ context.resourceType ≠ .notASvrResource then
      some .granted
    else if isRequestFromResourceOwner svrs context then some .granted
    else if dos.state ≠ .rfnop ∧ context.resourceType ≠ .notASvrResource
        ∧ isRequestFromOwnershipTransferSession surroundings context then
      some .granted
    else if (context.resourceType = .doxm ∨ context.resourceType = .pstat
          ∨ context.resourceType = .cred ∨ context.resourceType = .acl)
        ∧ isRequestFromDoxs svrs context then
      some .granted
    else if context.resourceType = .pstat ∧ isRequestFromAms svrs context then some .granted
    else if context.resourceType = .pstat ∧ isRequestFromCms svrs context then some .granted
    -- nobody special: the access control list decides
    else processAccessRequest surroundings svrs.acl fuel context

lemma isRequestFrom_iff {owner : Option OicUuid} :
    isRequestFrom owner context = true ↔
      context.subjectIdType = .uuid ∧ context.subjectUuid ≠ OicUuid.nil
        ∧ owner = some context.subjectUuid := by
  unfold isRequestFrom isNilUuid
  cases owner with
  | none => simp
  | some uuid =>
    by_cases htype : context.subjectIdType = .uuid
    · by_cases hnil : context.subjectUuid = OicUuid.nil
      · simp [htype, hnil]
      simp only [htype, ne_eq, not_true, if_false, beq_iff_eq, hnil, not_false_eq_true,
        true_and, Option.some.injEq]
      exact eq_comm
    · simp [htype]

lemma isRequestFromDevOwner_iff {svrs : Svrs} :
    isRequestFromDevOwner svrs context = true ↔ context.subjectUuid ≠ OicUuid.nil
        ∧ svrs.doxm.map DoxmOwners.owner = some context.subjectUuid := by
  unfold isRequestFromDevOwner isNilUuid
  cases svrs.doxm with
  | none => simp
  | some doxm =>
    by_cases hnil : context.subjectUuid = OicUuid.nil
    · simp [hnil]
    · simp [hnil]

def OicSecSvrType.IsSvr (type : OicSecSvrType) : Prop :=
  type ≠ .error ∧ type ≠ .notASvrResource

/-- The requester, not nil, has a right of its own to the target: it owns the
device, the target, or a service whose right extends to the target. -/
def HasOwnRight (svrs : Svrs) (dos : OicSecDostype) (context : SRMRequestContext) : Prop :=
  context.subjectUuid ≠ OicUuid.nil ∧
    ((svrs.doxm.map DoxmOwners.owner = some context.subjectUuid
        ∧ (dos.state = .rfotm ∨ dos.state = .sreset)
        ∧ context.resourceType.IsSvr)
      ∨ getSvrRownerId svrs context.resourceType = some context.subjectUuid
      ∨ (svrs.doxm.map DoxmOwners.rownerID = some context.subjectUuid
        ∧ (context.resourceType = .doxm ∨ context.resourceType = .pstat
            ∨ context.resourceType = .cred ∨ context.resourceType = .acl))
      ∨ (context.resourceType = .pstat
        ∧ (svrs.acl.map OicSecAcl.rownerID = some context.subjectUuid
            ∨ svrs.credRownerID = context.subjectUuid)))

lemma checkPermission_granted {svrs : Svrs} {fuel : Nat} (htype : context.resourceType = .error →
      isDeviceConfigurationResourceUri context.resourceUri = false)
    (h : checkPermission surroundings svrs fuel context = some .granted) :
    ∃ dos, svrs.dos = some dos
      ∧ (dos.state = .rfnop ∨ isDeviceConfigurationResourceUri context.resourceUri = true)
      ∧ (processAccessRequest surroundings svrs.acl fuel context = some .granted
        ∨ (dos.state ≠ .rfnop ∧ context.resourceType.IsSvr
            ∧ isRequestFromOwnershipTransferSession surroundings context = true)
        ∨ HasOwnRight svrs dos context) := by
  unfold checkPermission at h
  cases hdos : svrs.dos with
  | none =>
    rw [hdos] at h
    cases h
  | some dos =>
    rw [hdos] at h
    dsimp only at h
    by_cases hguard : dos.state ≠ .rfnop ∧ ¬ isDeviceConfigurationResourceUri context.resourceUri
    · rw [if_pos hguard] at h
      cases h
    rw [if_neg hguard] at h
    have hallowed : dos.state = .rfnop
        ∨ isDeviceConfigurationResourceUri context.resourceUri = true := by
      by_cases hnop : dos.state = .rfnop
      · exact .inl hnop
      · exact .inr (by_contra fun hno => hguard ⟨hnop, hno⟩)
    have hsvr : dos.state ≠ .rfnop → context.resourceType ≠ .notASvrResource →
        context.resourceType.IsSvr := by
      intro hnop hnot
      refine ⟨fun herror => ?_, hnot⟩
      have hdcr := hallowed.resolve_left hnop
      rw [htype herror] at hdcr
      exact Bool.false_ne_true hdcr
    refine ⟨dos, rfl, hallowed, ?_⟩
    -- the branches in the order of the source
    by_cases howner : isRequestFromDevOwner svrs context
        ∧ (dos.state = .rfotm ∨ dos.state = .sreset) ∧ context.resourceType ≠ .notASvrResource
    · have hwho := isRequestFromDevOwner_iff.mp howner.1
      have hnop : dos.state ≠ .rfnop := by
        rcases howner.2.1 with hstate | hstate
        · rw [hstate]
          decide
        rw [hstate]
        decide
      exact .inr (.inr ⟨hwho.1, .inl ⟨hwho.2, howner.2.1, hsvr hnop howner.2.2⟩⟩)
    rw [if_neg howner] at h
    by_cases hrowner : isRequestFromResourceOwner svrs context = true
    · have hwho := isRequestFrom_iff.mp hrowner
      exact .inr (.inr ⟨hwho.2.1, .inr (.inl hwho.2.2)⟩)
    rw [if_neg hrowner] at h
    by_cases hsession : dos.state ≠ .rfnop ∧ context.resourceType ≠ .notASvrResource
        ∧ isRequestFromOwnershipTransferSession surroundings context
    · exact .inr (.inl ⟨hsession.1, hsvr hsession.1 hsession.2.1, hsession.2.2⟩)
    rw [if_neg hsession] at h
    by_cases hdoxs : (context.resourceType = .doxm ∨ context.resourceType = .pstat
          ∨ context.resourceType = .cred ∨ context.resourceType = .acl)
        ∧ isRequestFromDoxs svrs context
    · have hwho := isRequestFrom_iff.mp hdoxs.2
      exact .inr (.inr ⟨hwho.2.1, .inr (.inr (.inl ⟨hwho.2.2, hdoxs.1⟩))⟩)
    rw [if_neg hdoxs] at h
    by_cases hams : context.resourceType = .pstat ∧ isRequestFromAms svrs context
    · have hwho := isRequestFrom_iff.mp hams.2
      exact .inr (.inr ⟨hwho.2.1, .inr (.inr (.inr ⟨hams.1, .inl hwho.2.2⟩))⟩)
    rw [if_neg hams] at h
    by_cases hcms : context.resourceType = .pstat ∧ isRequestFromCms svrs context
    · have hwho := isRequestFrom_iff.mp hcms.2
      exact .inr (.inr ⟨hwho.2.1, .inr (.inr (.inr ⟨hcms.1, .inr (some.inj hwho.2.2)⟩))⟩)
    rw [if_neg hcms] at h
    exact .inl h

end

open Calendar
open List

def stringBytes (s : String) : List UInt8 := s.toUTF8.data.toList

/-- What `IsRequestWithinValidTime` answers at a time; the answer after an
overflow is whatever it is. -/
def answerAt (strptime : Strptime) (currentTime : IotvtICalDateTime)
    (overflowed : Option String → Option String → IotvtICalResult)
    (period recur : Option String) : IotvtICalResult :=
  (Calendar.isRequestWithinValidTime strptime currentTime (period.map stringBytes)
    (recur.map stringBytes)).getD (overflowed period recur)

def Surroundings.atTime (surroundings : Surroundings)
    (answer : Option String → Option String → IotvtICalResult) : Surroundings :=
  { surroundings with
    isRequestWithinValidTime := fun period recurrence =>
      answer period (some recurrence) = .validAccess }

section Validities

variable (answer : Option String → Option String → IotvtICalResult)

def OicSecValidity.Admits (validity : OicSecValidity) : Prop :=
  if validity.recurrences = [] then answer validity.period none = .validAccess
  else ∃ recurrence ∈ validity.recurrences, answer validity.period (some recurrence) = .validAccess

def AllowedByValidities (ace : OicSecAce) : Prop :=
  ace.validities = [] ∨ ∃ validity ∈ ace.validities, validity.Admits answer

/-- A validity that the loops of `IsAccessWithinValidTime` stop at. -/
def OicSecValidity.IsTried (validity : OicSecValidity) : Prop :=
  validity.recurrences ≠ [] ∧ validity.Admits answer

variable {answer} {surroundings : Surroundings} {ace : OicSecAce}

lemma any_recurrence_iff (validity : OicSecValidity) :
    validity.recurrences.any
        ((surroundings.atTime answer).isRequestWithinValidTime validity.period) = true
      ↔ validity.IsTried answer := by
  simp only [any_eq_true, Surroundings.atTime, decide_eq_true_eq]
  constructor
  · rintro ⟨recurrence, hmem, hvalid⟩
    have hsome : validity.recurrences ≠ [] := ne_nil_of_mem hmem
    refine ⟨hsome, ?_⟩
    rw [OicSecValidity.Admits, if_neg hsome]
    exact ⟨recurrence, hmem, hvalid⟩
  · rintro ⟨hsome, hadmits⟩
    rw [OicSecValidity.Admits, if_neg hsome] at hadmits
    exact hadmits

lemma allowed_iff_tried :
    isAccessWithinValidTime (surroundings.atTime answer) ace = true ↔ ace.validities = []
        ∨ (∀ first ∈ ace.validities.head?, first.recurrences ≠ [])
          ∧ ∃ validity ∈ ace.validities, validity.IsTried answer := by
  rw [isAccessWithinValidTime]
  cases hval : ace.validities with
  | nil => simp
  | cons first rest =>
    simp only [reduceCtorEq, false_or, head?_cons, Option.mem_def, Option.some.injEq, forall_eq']
    by_cases hfirst : first.recurrences = []
    · simp [hfirst]
    rw [if_neg hfirst, any_eq_true]
    simp only [any_recurrence_iff, hfirst, not_false_eq_true, true_and, ne_eq]

/-! ## The disjunction -/

lemma allowed_iff_cond :
    (isAccessWithinValidTime (surroundings.atTime answer) ace = true
        ↔ AllowedByValidities answer ace)
      ↔ ace.validities = [] ∨ (∀ validity ∈ ace.validities, ¬ validity.Admits answer)
        ∨ ((∀ first ∈ ace.validities.head?, first.recurrences ≠ [])
          ∧ ∃ validity ∈ ace.validities, validity.IsTried answer) := by
  rw [allowed_iff_tried, AllowedByValidities]
  constructor
  · intro h
    by_cases hadmits : ∃ validity ∈ ace.validities, validity.Admits answer
    · rcases h.mpr (.inr hadmits) with hnil | htried
      · exact .inl hnil
      · exact .inr (.inr htried)
    · refine .inr (.inl (fun validity hmem hval => hadmits ⟨validity, hmem, hval⟩))
  · rintro (hnil | hnone | ⟨hfirst, validity, hmem, htried⟩)
    · simp [hnil]
    · constructor
      · rintro (hnil | ⟨_, validity, hmem, htried⟩)
        · exact .inl hnil
        · exact absurd htried.2 (hnone validity hmem)
      · rintro (hnil | ⟨validity, hmem, hval⟩)
        · exact .inl hnil
        · exact absurd hval (hnone validity hmem)
    · constructor
      · intro _
        exact .inr ⟨validity, hmem, htried.2⟩
      · intro _
        exact .inr ⟨hfirst, validity, hmem, htried⟩

lemma order_irrelevant_iff :
    (∀ validities, validities.Perm ace.validities →
        isAccessWithinValidTime (surroundings.atTime answer) { ace with validities := validities }
          = isAccessWithinValidTime (surroundings.atTime answer) ace)
      ↔ (∀ validity ∈ ace.validities, ¬ validity.IsTried answer)
        ∨ ∀ validity ∈ ace.validities, validity.recurrences ≠ [] := by
  constructor
  · intro horder
    by_contra hboth
    push Not at hboth
    obtain ⟨⟨tried, htried, hstop⟩, plain, hplain, hnone⟩ := hboth
    have hyes := horder _ (perm_cons_erase htried).symm
    have hno := horder _ (perm_cons_erase hplain).symm
    have htrue : isAccessWithinValidTime (surroundings.atTime answer)
        { ace with validities := tried :: ace.validities.erase tried } = true := by
      refine allowed_iff_tried.mpr (.inr ⟨?_, tried, mem_cons_self, hstop⟩)
      intro first hfirst
      obtain rfl : tried = first := by simpa using hfirst
      exact hstop.1
    have hfalse : isAccessWithinValidTime (surroundings.atTime answer)
        { ace with validities := plain :: ace.validities.erase plain } = false := by
      simp [isAccessWithinValidTime, hnone]
    rw [htrue] at hyes
    rw [hfalse, ← hyes] at hno
    simp at hno
  · intro hcond validities hperm
    rw [Bool.eq_iff_iff, allowed_iff_tried, allowed_iff_tried]
    simp only [hperm.mem_iff]
    have hnil : validities = [] ↔ ace.validities = [] := by
      constructor
      · rintro rfl
        exact hperm.nil_eq.symm
      · intro hnil
        exact (hnil ▸ hperm).eq_nil
    rw [hnil]
    rcases hcond with hnone | hall
    · have hfree : ¬ ∃ validity ∈ ace.validities, validity.IsTried answer := by
        rintro ⟨validity, hmem, htried⟩
        exact hnone validity hmem htried
      simp [hfree]
    have hfirst : ∀ first ∈ ace.validities.head?, first.recurrences ≠ [] :=
      fun first h => hall first (mem_of_mem_head? h)
    have hfirst' : ∀ first ∈ validities.head?, first.recurrences ≠ [] :=
      fun first h => hall first (hperm.mem_iff.mp (mem_of_mem_head? h))
    constructor
    · exact fun h => h.imp_right (⟨hfirst, ·.2⟩)
    · exact fun h => h.imp_right (⟨hfirst', ·.2⟩)

end Validities

/-- **When the validities are a disjunction**, and when their order does not
matter: for every clock, calendar and entry. -/
theorem validity_disjunction_iff (strptime : Strptime) (currentTime : IotvtICalDateTime)
    (overflowed : Option String → Option String → IotvtICalResult) (surroundings : Surroundings)
    (ace : OicSecAce) :
    let answer := answerAt strptime currentTime overflowed
    let allowed := isAccessWithinValidTime (surroundings.atTime answer)
    ((allowed ace = true ↔ AllowedByValidities answer ace)
        ↔ ace.validities = [] ∨ (∀ validity ∈ ace.validities, ¬ validity.Admits answer)
          ∨ ((∀ first ∈ ace.validities.head?, first.recurrences ≠ [])
            ∧ ∃ validity ∈ ace.validities, validity.IsTried answer))
      ∧ ((∀ validities, validities.Perm ace.validities →
            allowed { ace with validities := validities } = allowed ace)
        ↔ (∀ validity ∈ ace.validities, ¬ validity.IsTried answer)
          ∨ ∀ validity ∈ ace.validities, validity.recurrences ≠ []) :=
  ⟨allowed_iff_cond, order_irrelevant_iff⟩

def twoDaysAce : OicSecAce :=
  { subject := .uuid OicUuid.nil
    resources := []
    permission := 31
    validities := [⟨some "20150629/20150630", []⟩]
    aceid := 1 }

def firstNoon : Option String → Option String → IotvtICalResult :=
  answerAt readDigits (dateTimeOf 2015 6 29 12 0 0) (fun _ _ => .error)

def noSessions : Surroundings :=
  { endpointRoles := fun _ => none
    isAdministratorSession := fun _ => false
    isRequestWithinValidTime := fun _ _ => false }

theorem twoDaysAce_not_allowed :
    ¬ (isAccessWithinValidTime (noSessions.atTime firstNoon) twoDaysAce = true
      ↔ AllowedByValidities firstNoon twoDaysAce) := by
  intro h
  have hallowed : AllowedByValidities firstNoon twoDaysAce := by
    refine .inr ⟨_, mem_singleton.mpr rfl, ?_⟩
    rw [OicSecValidity.Admits, if_pos rfl]
    have hperiod : stringBytes "20150629/20150630" = twoDays := by rfl
    have hnow : RealDate (dateTimeOf 2015 6 29 12 0 0) := by decide
    have hvalid := ((parsePeriod_parsed readDigits_reads twoDays_parsed).valid_iff hnow
      (by decide) (by decide)).mpr
      ⟨.inr ⟨.inl ⟨rfl, rfl, rfl⟩, by decide⟩, .inl (.inr ⟨rfl, .inr ⟨rfl, by decide⟩⟩)⟩
    have hcheck : Calendar.isRequestWithinValidTime readDigits (dateTimeOf 2015 6 29 12 0 0)
        (some twoDays) none = some .validAccess := by
      unfold Calendar.isRequestWithinValidTime
      simp only [twoDays_parsed]
      exact hvalid
    rw [firstNoon, answerAt, Option.map_some, hperiod, Option.map_none, hcheck]
    rfl
  exact absurd (h.mpr hallowed) (by decide)

/-! ## The handler -/

def maxUriLength : Nat := 256

/-- `CARequestInfo_t`: the method, the URI (which may be `NULL`), and the first
sixteen bytes of the identity. -/
structure RequestInfo where
  method : Nat
  resourceUri : Option String
  identity : OicUuid
  deriving DecidableEq

/-- `OCResource`: what the lookup compares, and `resourceProperties`. -/
structure OCResource where
  uri : String
  resourceProperties : UInt32
  deriving DecidableEq

variable (resources : List OCResource)

def findResourceByUri (uri : String) : Option OCResource :=
  resources.find? (uri == ·.uri)

def getPermissionFromCAMethod (method : Nat) : UInt16 :=
  if method = Coap.caGet then permissionRead
  else if method = Coap.caPost then permissionWrite
  else if method = Coap.caPut then permissionCreate
  else if method = Coap.caDelete then permissionDelete
  else permissionFullControl

def clearRequestContext (context : SRMRequestContext) : SRMRequestContext :=
  { context with
    endPoint := none
    resourceType := .error
    resourceUri := ""
    requestedPermission := 0
    responseVal := .deniedPolicyEngineError
    secureChannel := false
    discoverable := .notKnown
    subjectIdType := .error
    subjectUuid := OicUuid.nil }

def isRequestOverSecureChannel (endPoint : RequestEndpoint) (context : SRMRequestContext) : Bool :=
  if endPoint.flags &&& 16 ≠ 0 then true
  else if context.subjectIdType = .uuid ∧ context.subjectUuid ≠ OicUuid.nil then true
  else false

def setResourceUriAndType (requestInfo : RequestInfo) (context : SRMRequestContext) :
    SRMRequestContext :=
  match requestInfo.resourceUri with
  | none => context
  | some uri =>
    if maxUriLength < (withoutQuery uri).utf8ByteSize then context
    else
      -- `OICStrcpyPartial` leaves the buffer alone when there is nothing to copy
      let resourceUri := if withoutQuery uri = "" then context.resourceUri else withoutQuery uri
      { context with
        resourceUri := resourceUri
        resourceType := getSvrTypeFromUri resourceUri }

def setDiscoverableAndOcSecureFlags (context : SRMRequestContext) : SRMRequestContext :=
  if context.resourceUri = "" then { context with discoverable := .notKnown }
  else
    match findResourceByUri resources context.resourceUri with
    | none => { context with discoverable := .notKnown }
    | some resource =>
      { context with
        discoverable := if resource.resourceProperties &&& 1 = 1 then .yes else .no
        resourceIsOcSecure := decide (resource.resourceProperties &&& 16 = 16)
        resourceIsOcNonsecure := decide (resource.resourceProperties &&& 64 = 64) }

variable (context : SRMRequestContext) (endPoint : RequestEndpoint) (requestInfo : RequestInfo)

/-- The context that `SRMRequestHandler` gives to `CheckPermission`. -/
def prepareRequest : SRMRequestContext :=
  let cleared := clearRequestContext context
  let addressed :=
    { cleared with
      endPoint := some endPoint
      requestedPermission := getPermissionFromCAMethod requestInfo.method
      subjectIdType := .uuid
      subjectUuid := requestInfo.identity }
  let channelled :=
    { addressed with secureChannel := isRequestOverSecureChannel endPoint addressed }
  setDiscoverableAndOcSecureFlags resources (setResourceUriAndType requestInfo channelled)

structure World where
  surroundings : Surroundings
  svrs : Svrs
  resources : List OCResource

/-- `SRMRequestHandler` on the global context; endpoint and request may be `NULL`. The searches get
one round more than there are entries, which suffices (`processAccessRequest_spec`). -/
def srmRequestHandler (world : World) (context : SRMRequestContext)
    (endPoint : Option RequestEndpoint) (requestInfo : Option RequestInfo) : SRMRequestContext :=
  match endPoint, requestInfo with
  | some endPoint, some requestInfo =>
    let prepared := prepareRequest world.resources context endPoint requestInfo
    match checkPermission world.surroundings world.svrs ((entries world.svrs.acl).length + 1)
        prepared with
    | some responseVal => { prepared with responseVal := responseVal }
    | none => prepared
  | _, _ => clearRequestContext context

/-! ## Stale flags -/

def SRMRequestContext.withFlags (context : SRMRequestContext) (secure nonsecure : Bool) :
    SRMRequestContext :=
  { context with resourceIsOcSecure := secure, resourceIsOcNonsecure := nonsecure }

/-- Two contexts that differ at most in the two flags, and not even there when
the resource is discoverable. -/
def Alike (c c' : SRMRequestContext) : Prop :=
  ∃ secure nonsecure, c' = c.withFlags secure nonsecure
    ∧ (c.discoverable = .yes → secure = c.resourceIsOcSecure ∧ nonsecure = c.resourceIsOcNonsecure)

lemma clearRequestContext_withFlags (c c' : SRMRequestContext) :
    clearRequestContext c'
      = (clearRequestContext c).withFlags c'.resourceIsOcSecure c'.resourceIsOcNonsecure := rfl

lemma setResourceUriAndType_withFlags (requestInfo : RequestInfo) (c : SRMRequestContext)
    (secure nonsecure : Bool) :
    setResourceUriAndType requestInfo (c.withFlags secure nonsecure)
      = (setResourceUriAndType requestInfo c).withFlags secure nonsecure := by
  unfold setResourceUriAndType
  cases requestInfo.resourceUri with
  | none => rfl
  | some uri =>
    dsimp only
    generalize withoutQuery uri = path
    by_cases hlong : maxUriLength < path.utf8ByteSize
    · simp [if_pos hlong]
    simp only [if_neg hlong]
    rfl

/-- The context before `SetResourceUriAndType`. -/
def channelled : SRMRequestContext :=
  let addressed :=
    { clearRequestContext context with
      endPoint := some endPoint
      requestedPermission := getPermissionFromCAMethod requestInfo.method
      subjectIdType := .uuid
      subjectUuid := requestInfo.identity }
  { addressed with secureChannel := isRequestOverSecureChannel endPoint addressed }

lemma prepareRequest_eq :
    prepareRequest resources context endPoint requestInfo
      = setDiscoverableAndOcSecureFlags resources
          (setResourceUriAndType requestInfo (channelled context endPoint requestInfo)) := rfl

section

variable (c c' : SRMRequestContext) (endPoint : RequestEndpoint) (requestInfo : RequestInfo)

lemma channelled_withFlags :
    channelled c' endPoint requestInfo
      = (channelled c endPoint requestInfo).withFlags c'.resourceIsOcSecure
          c'.resourceIsOcNonsecure := by
  unfold channelled
  rw [clearRequestContext_withFlags c c']
  rfl

lemma setDiscoverableAndOcSecureFlags_alike (c : SRMRequestContext) (secure nonsecure : Bool) :
    Alike (setDiscoverableAndOcSecureFlags resources c)
      (setDiscoverableAndOcSecureFlags resources (c.withFlags secure nonsecure)) := by
  have hstale : ∀ c' : SRMRequestContext, Alike { c' with discoverable := .notKnown }
        { c'.withFlags secure nonsecure with discoverable := .notKnown } := by
    intro c'
    refine ⟨secure, nonsecure, rfl, ?_⟩
    intro hyes
    cases hyes
  unfold setDiscoverableAndOcSecureFlags
  have huri : (c.withFlags secure nonsecure).resourceUri = c.resourceUri := rfl
  rw [huri]
  by_cases hempty : c.resourceUri = ""
  · simp only [if_pos hempty]
    exact hstale c
  simp only [if_neg hempty]
  cases findResourceByUri resources c.resourceUri with
  | none => exact hstale c
  | some resource => exact ⟨_, _, rfl, fun _ => ⟨rfl, rfl⟩⟩

lemma prepareRequest_alike :
    Alike (prepareRequest resources c endPoint requestInfo)
      (prepareRequest resources c' endPoint requestInfo) := by
  have hset := setResourceUriAndType_withFlags requestInfo (channelled c endPoint requestInfo)
    c'.resourceIsOcSecure c'.resourceIsOcNonsecure
  have halike := setDiscoverableAndOcSecureFlags_alike resources
    (setResourceUriAndType requestInfo (channelled c endPoint requestInfo))
    c'.resourceIsOcSecure c'.resourceIsOcNonsecure
  rw [← hset, ← channelled_withFlags] at halike
  exact halike

end

variable {c c' : SRMRequestContext}

lemma isResourceMatching_alike (h : Alike c c') (rsrc : OicSecRsrc) :
    isResourceMatching c' rsrc = isResourceMatching c rsrc := by
  obtain ⟨secure, nonsecure, rfl, hflags⟩ := h
  unfold isResourceMatching
  cases rsrc.href with
  | some href => rfl
  | none =>
    by_cases hyes : c.discoverable = .yes
    · obtain ⟨rfl, rfl⟩ := hflags hyes
      rfl
    -- the flags are only read together with `discoverable`
    have hno : (c.discoverable == OicSecDiscoverable.yes) = false :=
      beq_eq_false_iff_ne.mpr hyes
    have hno' : ((c.withFlags secure nonsecure).discoverable == OicSecDiscoverable.yes) = false :=
      hno
    have huri : (c.withFlags secure nonsecure).resourceUri = c.resourceUri := rfl
    simp [hno, hno', huri]

variable (surroundings : Surroundings)

lemma processMatchingACE_alike (h : Alike c c') :
    processMatchingACE surroundings c' = processMatchingACE surroundings c := by
  funext ace
  have hresources : isResourceInAce c' ace = isResourceInAce c ace := by
    unfold isResourceInAce
    congr 1
    funext rsrc
    exact isResourceMatching_alike h rsrc
  obtain ⟨secure, nonsecure, rfl, -⟩ := h
  unfold processMatchingACE
  rw [hresources]
  rfl

lemma processAccessRequest_alike (gAcl : Option OicSecAcl) (fuel : Nat) (h : Alike c c') :
    processAccessRequest surroundings gAcl fuel c'
      = processAccessRequest surroundings gAcl fuel c := by
  have hloop : ∀ isMatch responseVal, searchLoop surroundings c' gAcl isMatch fuel responseVal
      = searchLoop surroundings c gAcl isMatch fuel responseVal := by
    intro isMatch responseVal
    unfold searchLoop
    rw [processMatchingACE_alike surroundings h]
  obtain ⟨secure, nonsecure, rfl, -⟩ := h
  unfold processAccessRequest
  simp only [hloop]
  rfl

lemma checkPermission_alike (svrs : Svrs) (fuel : Nat) (h : Alike c c') :
    checkPermission surroundings svrs fuel c' = checkPermission surroundings svrs fuel c := by
  unfold checkPermission
  rw [processAccessRequest_alike surroundings svrs.acl fuel h]
  obtain ⟨secure, nonsecure, rfl, -⟩ := h
  rfl

structure PastRequest where
  world : World
  endPoint : Option RequestEndpoint
  requestInfo : Option RequestInfo

def serve (context : SRMRequestContext) (past : List PastRequest) : SRMRequestContext :=
  past.foldl (fun c request => srmRequestHandler request.world c request.endPoint
    request.requestInfo) context

lemma srmRequestHandler_responseVal (world : World) (c c' : SRMRequestContext)
    (endPoint : Option RequestEndpoint) (requestInfo : Option RequestInfo) :
    (srmRequestHandler world c' endPoint requestInfo).responseVal
      = (srmRequestHandler world c endPoint requestInfo).responseVal := by
  unfold srmRequestHandler
  cases endPoint with
  | none => rfl
  | some endPoint =>
    cases requestInfo with
    | none => rfl
    | some requestInfo =>
      dsimp only
      have halike := prepareRequest_alike world.resources c c' endPoint requestInfo
      rw [checkPermission_alike world.surroundings world.svrs _ halike]
      cases checkPermission world.surroundings world.svrs
          ((entries world.svrs.acl).length + 1)
          (prepareRequest world.resources c endPoint requestInfo) with
      | some responseVal => rfl
      | none =>
        obtain ⟨secure, nonsecure, hsame, -⟩ := halike
        dsimp only
        rw [hsame]
        rfl

/-- **Decisions do not leak.** After any two histories of requests, in any
worlds, the next request gets the same answer, if it meets the same secure
virtual resources, sessions and resource list. -/
theorem decision_history_free (start : SRMRequestContext) (past past' : List PastRequest)
    (world : World) (endPoint : Option RequestEndpoint) (requestInfo : Option RequestInfo) :
    (srmRequestHandler world (serve start past) endPoint requestInfo).responseVal
      = (srmRequestHandler world (serve start past') endPoint requestInfo).responseVal :=
  srmRequestHandler_responseVal world (serve start past') (serve start past) endPoint requestInfo

/-! ## Grants -/

lemma ite_ne_error {p : Prop} [Decidable p] {a b : OicSecSvrType} (ha : a ≠ .error)
    (hb : b ≠ .error) : (if p then a else b) ≠ .error := by
  by_cases hp : p
  · rw [if_pos hp]
    exact ha
  rw [if_neg hp]
  exact hb

lemma getSvrTypeFromUri_ne_error (uri : String) : getSvrTypeFromUri uri ≠ .error := by
  unfold getSvrTypeFromUri
  dsimp only
  -- no answer of the chain of comparisons is the error type
  repeat' apply ite_ne_error
  all_goals exact fun h => OicSecSvrType.noConfusion h

lemma setDiscoverableAndOcSecureFlags_frame (resources : List OCResource) (c : SRMRequestContext) :
    ∃ discoverable secure nonsecure, setDiscoverableAndOcSecureFlags resources c
      = { c with discoverable := discoverable, resourceIsOcSecure := secure,
                 resourceIsOcNonsecure := nonsecure } := by
  unfold setDiscoverableAndOcSecureFlags
  split_ifs
  · exact ⟨_, _, _, rfl⟩
  · cases findResourceByUri resources c.resourceUri <;> exact ⟨_, _, _, rfl⟩

lemma setResourceUriAndType_frame (requestInfo : RequestInfo) (c : SRMRequestContext) :
    ∃ type uri, setResourceUriAndType requestInfo c
      = { c with resourceType := type, resourceUri := uri } := by
  unfold setResourceUriAndType
  cases requestInfo.resourceUri with
  | none => exact ⟨_, _, rfl⟩
  | some uri =>
    dsimp only
    split_ifs <;> exact ⟨_, _, rfl⟩

lemma prepareRequest_frame (resources : List OCResource) (c : SRMRequestContext)
    (endPoint : RequestEndpoint) (requestInfo : RequestInfo) :
    (prepareRequest resources c endPoint requestInfo).endPoint = some endPoint
      ∧ (prepareRequest resources c endPoint requestInfo).subjectUuid = requestInfo.identity
      ∧ (prepareRequest resources c endPoint requestInfo).responseVal
          = .deniedPolicyEngineError := by
  obtain ⟨type, uri, hset⟩ := setResourceUriAndType_frame requestInfo
    (channelled c endPoint requestInfo)
  obtain ⟨discoverable, isSecure, isNonsecure, hflags⟩ :=
    setDiscoverableAndOcSecureFlags_frame resources
      (setResourceUriAndType requestInfo (channelled c endPoint requestInfo))
  rw [prepareRequest_eq, hflags, hset]
  exact ⟨rfl, rfl, rfl⟩

lemma prepareRequest_error {resources : List OCResource} {c : SRMRequestContext}
    {endPoint : RequestEndpoint} {requestInfo : RequestInfo}
    (h : (prepareRequest resources c endPoint requestInfo).resourceType = .error) :
    (prepareRequest resources c endPoint requestInfo).resourceUri = "" := by
  have hflags : ∀ c' : SRMRequestContext,
      (setDiscoverableAndOcSecureFlags resources c').resourceType = c'.resourceType
        ∧ (setDiscoverableAndOcSecureFlags resources c').resourceUri = c'.resourceUri := by
    intro c'
    obtain ⟨discoverable, secure, nonsecure, hframe⟩ :=
      setDiscoverableAndOcSecureFlags_frame resources c'
    rw [hframe]
    exact ⟨rfl, rfl⟩
  rw [prepareRequest_eq, (hflags _).1] at h
  rw [prepareRequest_eq, (hflags _).2]
  unfold setResourceUriAndType at h ⊢
  cases huri : requestInfo.resourceUri with
  | none => rfl
  | some uri =>
    rw [huri] at h
    dsimp only at h ⊢
    by_cases hlong : maxUriLength < (withoutQuery uri).utf8ByteSize
    · simp only [if_pos hlong]
      rfl
    simp only [if_neg hlong] at h
    exact absurd h (getSvrTypeFromUri_ne_error _)

/-- **Who is granted access.** A request that is granted meets a device in
RFNOP or asks for a device configuration resource, and either an entry of the
list grants it, or it comes over an ownership-transfer session to a secure
virtual resource outside RFNOP, or its UUID, not nil, is an owner's. So a
requester with the nil UUID that is not on such a session is granted only
through the list. -/
theorem granted_only_if (world : World) (context : SRMRequestContext)
    (endPoint : Option RequestEndpoint) (requestInfo : Option RequestInfo)
    (h : (srmRequestHandler world context endPoint requestInfo).responseVal = .granted) :
    ∃ ep info, endPoint = some ep ∧ requestInfo = some info ∧ ∃ dos, world.svrs.dos = some dos
        ∧ (dos.state = .rfnop ∨ isDeviceConfigurationResourceUri
            (prepareRequest world.resources context ep info).resourceUri = true)
        ∧ ((∃ ace ∈ entries world.svrs.acl, Grants world.surroundings
              (prepareRequest world.resources context ep info) ace)
          ∨ (dos.state ≠ .rfnop
            ∧ (prepareRequest world.resources context ep info).resourceType.IsSvr
            ∧ world.surroundings.isAdministratorSession ep = true)
          ∨ HasOwnRight world.svrs dos (prepareRequest world.resources context ep info))
        ∧ (info.identity = OicUuid.nil → world.surroundings.isAdministratorSession ep = false →
            ∃ ace ∈ entries world.svrs.acl, Grants world.surroundings
              (prepareRequest world.resources context ep info) ace) := by
  unfold srmRequestHandler at h
  cases endPoint with
  | none => cases h
  | some ep =>
    cases requestInfo with
    | none => cases h
    | some info =>
      dsimp only at h
      obtain ⟨hendPoint, hsubject, hinitial⟩ :=
        prepareRequest_frame world.resources context ep info
      have herror : (prepareRequest world.resources context ep info).resourceType = .error →
          isDeviceConfigurationResourceUri
            (prepareRequest world.resources context ep info).resourceUri = false := by
        intro htype
        rw [prepareRequest_error htype]
        decide
      generalize hprepared : prepareRequest world.resources context ep info = prepared at *
      -- the answer is `CheckPermission`'s
      have hcheck : checkPermission world.surroundings world.svrs
          ((entries world.svrs.acl).length + 1) prepared = some .granted := by
        cases hresult : checkPermission world.surroundings world.svrs
            ((entries world.svrs.acl).length + 1) prepared with
        | some responseVal =>
          rw [hresult] at h
          exact congrArg some h
        | none =>
          rw [hresult] at h
          dsimp only at h
          rw [hinitial] at h
          cases h
      obtain ⟨dos, hdos, hallowed, hways⟩ := checkPermission_granted herror hcheck
      have hacl : processAccessRequest world.surroundings world.svrs.acl
          ((entries world.svrs.acl).length + 1) prepared = some .granted →
          ∃ ace ∈ entries world.svrs.acl, Grants world.surroundings prepared ace := by
        intro hgranted
        obtain ⟨r, hr, hexact⟩ :=
          processAccessRequest_spec world.surroundings world.svrs.acl prepared
        rw [hr _ (Nat.lt_succ_self _), Option.some.injEq] at hgranted
        exact hexact.mp hgranted
      have hsession : isRequestFromOwnershipTransferSession world.surroundings prepared
          = world.surroundings.isAdministratorSession ep := by
        rw [isRequestFromOwnershipTransferSession, hendPoint]
      rw [hsession] at hways
      refine ⟨ep, info, rfl, rfl, dos, hdos, ?_, ?_, ?_⟩
      · rw [hprepared]
        exact hallowed
      · rw [hprepared]
        exact hways.imp hacl id
      · rw [hprepared]
        intro hnil hno
        rcases hways with hgranted | hot | hown
        · exact hacl hgranted
        · rw [hno] at hot
          exact absurd hot.2.2 Bool.false_ne_true
        · exact absurd (hsubject.trans hnil) hown.1

def sampleWorld : World :=
  { surroundings := sampleSurroundings
    svrs :=
      { dos := some ⟨.rfnop, false⟩, doxm := some ⟨OicUuid.nil, OicUuid.nil⟩, acl := some sampleAcl
        credRownerID := OicUuid.nil, pstatRownerID := some OicUuid.nil }
    resources := [⟨"/a/light", 1⟩] }

theorem granted_only_if_sample :
    (srmRequestHandler sampleWorld sampleRequest (some ⟨⟨1, ⟨[49], by decide⟩, 5683⟩, 0⟩)
        (some ⟨1, some "/a/light?x=y", OicUuid.nil⟩)).responseVal = .granted
      ∧ ∃ ace ∈ entries sampleWorld.svrs.acl, Grants sampleWorld.surroundings
          (prepareRequest sampleWorld.resources sampleRequest ⟨⟨1, ⟨[49], by decide⟩, 5683⟩, 0⟩
            ⟨1, some "/a/light?x=y", OicUuid.nil⟩) ace := by
  have hgranted : (srmRequestHandler sampleWorld sampleRequest
      (some ⟨⟨1, ⟨[49], by decide⟩, 5683⟩, 0⟩)
      (some ⟨1, some "/a/light?x=y", OicUuid.nil⟩)).responseVal = .granted := by decide
  obtain ⟨ep, info, hep, hinfo, dos, -, -, -, hlist⟩ := granted_only_if sampleWorld sampleRequest
    (some ⟨⟨1, ⟨[49], by decide⟩, 5683⟩, 0⟩) (some ⟨1, some "/a/light?x=y", OicUuid.nil⟩) hgranted
  cases hep
  cases hinfo
  exact ⟨hgranted, hlist rfl rfl⟩

end Iochibity.Sec
