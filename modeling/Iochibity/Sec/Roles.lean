/-
The roles resource, `rolesresource.c`.
-/
import Iochibity.Lib.FirstMatch
import Iochibity.Sec.RestQuery
import Iochibity.Lib.CharField
import Iochibity.Ocf.StackResult
import Mathlib.Data.Prod.Lex
import Mathlib.Algebra.Order.Ring.Int

namespace Iochibity.Sec

/-- `struct tm`, as far as it is read here. The year counts from 1900. -/
structure Tm where
  tmYear : Int
  tmMon : Int
  tmMday : Int
  tmHour : Int
  tmMin : Int
  tmSec : Int
  deriving DecidableEq

def Tm.zero : Tm := ⟨0, 0, 0, 0, 0, 0⟩

/-- One level of `IsBefore`: a field, and what is left to compare when it is equal. -/
def fieldBefore (before after : Int) (rest : Bool) : Bool :=
  if before > after then false
  else if before = after then rest
  else true

def isBefore (before after : Tm) : Bool :=
  fieldBefore before.tmYear after.tmYear <| fieldBefore before.tmMon after.tmMon <|
      fieldBefore before.tmMday after.tmMday <| fieldBefore before.tmHour after.tmHour <|
          fieldBefore before.tmMin after.tmMin <| before.tmSec < after.tmSec

structure RoleCertChain where
  credId : UInt32
  certificate : OicSecKey
  deriving DecidableEq

structure RolesEntry where
  publicKey : List UInt8
  chains : List RoleCertChain
  cacheValidUntil : Tm
  cachedRoles : List OicSecRole
  deriving DecidableEq

structure SymmetricRoleEntry where
  subject : OicUuid
  role : OicSecRole

structure RolesState where
  gRoles : List RolesEntry
  gSymmetricRoles : List SymmetricRoleEntry
  gIdCounter : UInt32

def RolesState.init : RolesState := ⟨[], [], 1⟩

def invalidateRoleCache (entry : RolesEntry) : RolesEntry :=
  { entry with cacheValidUntil := Tm.zero, cachedRoles := [] }

/-- What `GetCASecureEndpointData` says about an endpoint. -/
structure CASecureEndpoint where
  publicKey : List UInt8
  identity : Option OicUuid

/-- The results of `GetPeerPublicKeyFromEndpoint` and `GetPeerPublicKey`. -/
inductive PeerPublicKey
  | ok (publicKey : List UInt8)
  | invalidParam
  | noResource
  | noMemory

/-- `GetPeerPublicKeyFromEndpoint`; `calloc` is whether the copy can be allocated. -/
def getPeerPublicKey (endpoint : Option CASecureEndpoint) (calloc : Bool) : PeerPublicKey :=
  match endpoint with
  | none => .invalidParam
  | some endpoint =>
    if endpoint.publicKey = [] then .noResource
    else if calloc then .ok endpoint.publicKey
    else .noMemory

/-! ## POST -/

def isSameSecKey (sk1 sk2 : OicSecKey) : Bool :=
  (sk1.data.getD []).length == (sk2.data.getD []).length && sk1.encoding == sk2.encoding
    && sk1.data.getD [] == sk2.data.getD []

def roleCertChainContains (chains : List RoleCertChain) (roleCert : RoleCertChain) : Bool :=
  chains.any (fun chain => isSameSecKey chain.certificate roleCert.certificate)

/-- A chain of a request, as `CBORPayloadToRoles` gives it, with what happens to it: `malloc` is
whether the copy with a terminating zero, if needed, can be allocated, `validKey` the public key
when `OCInternalIsValidRoleCertificate` accepts it, and the others are the allocations of
`AddRoleCertificate`. -/
structure PostedChain where
  chain : RoleCertChain
  malloc : Bool
  validKey : Option (List UInt8)
  callocEntry : Bool
  callocCopy : Bool

/-- `DuplicateRoleCertChain`. An empty certificate is not copied, since `OICCalloc`
gives no memory of size 0. -/
def duplicateRoleCertChain (posted : PostedChain) : Option RoleCertChain :=
  if posted.callocCopy ∧ posted.chain.certificate.data.getD [] ≠ [] then some posted.chain
  else none

/-- What `AddRoleCertificate` does to an entry: the entry, the counter, and whether it
succeeded. -/
def addToEntry (posted : PostedChain) (entry : RolesEntry) (gIdCounter : UInt32) :
    RolesEntry × UInt32 × Bool :=
  if roleCertChainContains entry.chains posted.chain then (entry, gIdCounter, true)
  else
    match duplicateRoleCertChain posted with
    | none => (entry, gIdCounter, false)
    | some copy =>
      ({ entry with chains := entry.chains ++ [{ copy with credId := gIdCounter }] },
        gIdCounter + 1, true)

def addRoleCertificate (posted : PostedChain) (pubKey : List UInt8) (state : RolesState) :
    RolesState × Bool :=
  if pubKey = [] then (state, false)
  else
    match FirstMatch.lookup RolesEntry.publicKey pubKey state.gRoles with
    | some targetEntry =>
      let (entry, gIdCounter, success) :=
        addToEntry posted (invalidateRoleCache targetEntry) state.gIdCounter
      ({ state with
          gRoles := FirstMatch.modify RolesEntry.publicKey pubKey (fun _ => entry) state.gRoles
          gIdCounter := gIdCounter }, success)
    | none =>
      if posted.callocEntry then
        let (entry, gIdCounter, success) :=
          addToEntry posted ⟨pubKey, [], Tm.zero, []⟩ state.gIdCounter
        ({ state with gRoles := entry :: state.gRoles, gIdCounter := gIdCounter }, success)
      else (state, false)

/-- Whether `mbedtls_x509_crt_parse` needs a zero after the certificate. -/
def needsTerminator (certificate : OicSecKey) : Bool :=
  match (certificate.data.getD []).getLast? with
  | some last => last != 0
  | none => false

/-- The first loop of `HandlePostRequest`: it goes through when every chain is valid for the peer's
key, and leaves the key of the last one. -/
def validateRoles (peerPubKey : List UInt8) : List PostedChain → List UInt8 →
    Option (List UInt8)
  | [], pubKey => some pubKey
  | posted :: rest, _ =>
    if needsTerminator posted.chain.certificate ∧ posted.malloc = false then none
    else
      match posted.validKey with
      | none => none
      | some pubKey => if pubKey ≠ peerPubKey then none else validateRoles peerPubKey rest pubKey

def storeRoles (pubKey : List UInt8) : List PostedChain → RolesState → RolesState
  | [], state => state
  | posted :: rest, state =>
    match addRoleCertificate posted pubKey state with
    | (state, true) => storeRoles pubKey rest state
    | (state, false) => state

inductive RolesAnswer
  | ok
  | error
  | resourceDeleted
  deriving DecidableEq

/-- `HandlePostRequest`. The second loop has no say in the answer. -/
def handleRolesPost (peer : PeerPublicKey) (chains : Option (List PostedChain))
    (state : RolesState) : RolesState × RolesAnswer :=
  match peer, chains with
  | .ok peerPubKey, some chains =>
    match validateRoles peerPubKey chains [] with
    | some pubKey => (storeRoles pubKey chains state, .ok)
    | none => (state, .error)
  | _, _ => (state, .error)

/-- The query of a DELETE: the last `credid`, 0 if there is none, and `none` if one of
them is no number. -/
def credIdOfQuery (segments : List QuerySegment) : Option UInt32 :=
  (queryPairs segments).foldlM (fun credId pair =>
    if strncasecmpZero pair.attrPos (cString "credid") pair.attrLen then
      sscanfUnsigned pair.valPos
    else some credId) 0

def deleteChains (credId : UInt32) (chains : List RoleCertChain) : List RoleCertChain :=
  if credId = 0 then [] else chains.eraseP (·.credId == credId)

def deleteFromEntry (credId : UInt32) (entry : RolesEntry) : RolesEntry :=
  { invalidateRoleCache entry with chains := deleteChains credId entry.chains }

def handleRolesDelete (query : Option (List QuerySegment)) (peer : PeerPublicKey)
    (state : RolesState) : RolesState × RolesAnswer :=
  match query.bind credIdOfQuery with
  | none => (state, .error)
  | some credId =>
    match peer with
    | .ok peerPubKey =>
      match FirstMatch.lookup RolesEntry.publicKey peerPubKey state.gRoles with
      | none => (state, .resourceDeleted)
      | some entry =>
        ({ state with
            gRoles := FirstMatch.modify RolesEntry.publicKey peerPubKey
              (deleteFromEntry credId) state.gRoles },
          if credId = 0 ∨ entry.chains = [] ∨ entry.chains.any (·.credId == credId) then
            .resourceDeleted
          else .error)
    | _ => (state, .resourceDeleted)

/-! ## Roles of an endpoint -/

/-- The result of `OCInternalVerifyRoleCertificate` for a chain: its roles and last date, with
whether the list of roles can be enlarged. An invalid chain leaves the date all zeros. -/
inductive ChainResult
  | invalid
  | valid (roles : List OicSecRole) (notValidAfter : Tm) (realloc : Bool)

def ChainResult.notValidAfter : ChainResult → Tm
  | .invalid => Tm.zero
  | .valid _ notValidAfter _ => notValidAfter

def ChainResult.roles : ChainResult → List OicSecRole
  | .invalid => []
  | .valid roles _ _ => roles

/-- The update of `cacheValidUntil` after a chain. -/
def earlierDate (cacheValidUntil notValidAfter : Tm) : Tm :=
  if cacheValidUntil.tmYear = 0 ∨ isBefore notValidAfter cacheValidUntil then notValidAfter
  else cacheValidUntil

/-- The loop of `GetEndpointRoles` over the chains: the chains that are kept, the date
and the roles, if there was memory for them. -/
def verifyChains (verify : RoleCertChain → ChainResult) (cacheValidUntil : Tm)
    (rolesToReturn : List OicSecRole) :
    List RoleCertChain → List RoleCertChain × Option (Tm × List OicSecRole)
  | [] => ([], some (cacheValidUntil, rolesToReturn))
  | chain :: rest =>
    match verify chain with
    | .invalid =>
      verifyChains verify (earlierDate cacheValidUntil Tm.zero) rolesToReturn rest
    | .valid roles notValidAfter true =>
      let (kept, cache) :=
        verifyChains verify (earlierDate cacheValidUntil notValidAfter)
          (rolesToReturn ++ roles) rest
      (chain :: kept, cache)
    | .valid _ _ false => (chain :: rest, none)

/-- What a call of `GetEndpointRoles` meets: the time, if it can be read, whether there are trusted
certificates, the verifications, and whether the answer can be allocated. -/
structure RolesCall where
  now : Option Tm
  hasTrustedCa : Bool
  verify : RoleCertChain → ChainResult
  calloc : Bool

inductive RolesResult
  | cached (roles : List OicSecRole)
  | verified (roles : List OicSecRole)
  | symmetric (roles : List OicSecRole)
  | noTrustedCa
  | noMemory

/-- The copy of the cache for the caller. `OICCalloc` gives no memory for no roles. -/
def copyRoles (calloc : Bool) (answer : List OicSecRole → RolesResult)
    (cachedRoles : List OicSecRole) : RolesResult :=
  if calloc ∧ cachedRoles ≠ [] then answer cachedRoles else .noMemory

/-- `GetEndpointRoles` from the point where the entry of the peer is found. -/
def entryRoles (call : RolesCall) (entry : RolesEntry) : RolesEntry × RolesResult :=
  if isBefore (call.now.getD Tm.zero) entry.cacheValidUntil then
    (entry, copyRoles call.calloc .cached entry.cachedRoles)
  else if call.hasTrustedCa = false then (invalidateRoleCache entry, .noTrustedCa)
  else
    match verifyChains call.verify Tm.zero [] entry.chains with
    | (kept, some (cacheValidUntil, roles)) =>
      ({ entry with chains := kept, cacheValidUntil := cacheValidUntil, cachedRoles := roles },
        copyRoles call.calloc .verified roles)
    | (kept, none) => ({ invalidateRoleCache entry with chains := kept }, .noMemory)

def symmetricRoles (identity : Option OicUuid) (calloc : Bool)
    (gSymmetricRoles : List SymmetricRoleEntry) : RolesResult :=
  match identity.bind (fun id => gSymmetricRoles.find? (·.subject == id)) with
  | some entry => if calloc then .symmetric [entry.role] else .noMemory
  | none => .symmetric []

def getEndpointRoles (endpoint : Option CASecureEndpoint) (callocKey : Bool) (call : RolesCall)
    (state : RolesState) : RolesState × RolesResult :=
  match getPeerPublicKey endpoint callocKey with
  | .ok publicKey =>
    match FirstMatch.lookup RolesEntry.publicKey publicKey state.gRoles with
    | none => (state, .verified [])
    | some entry =>
      ({ state with
          gRoles := FirstMatch.modify RolesEntry.publicKey publicKey
            (fun _ => (entryRoles call entry).1) state.gRoles },
        (entryRoles call entry).2)
  | .noMemory => (state, .noMemory)
  | _ => (state, symmetricRoles (endpoint.bind CASecureEndpoint.identity) call.calloc
      state.gSymmetricRoles)

end Iochibity.Sec

namespace Iochibity.Sec.RoleCert

/-! ## Certificates -/

def maxRolesPerCert : ℕ := 10

def roleIdLength : ℕ := 64

def roleAuthorityLength : ℕ := 64

def mbedtlsOidAtCn : List UInt8 := [0x55, 0x04, 0x03]

def mbedtlsOidAtOrgUnit : List UInt8 := [0x55, 0x04, 0x0B]

/-- `mbedtls_x509_name`: an attribute of a name. -/
structure X509Name where
  oid : List UInt8
  val : List UInt8
  deriving DecidableEq

/-- `mbedtls_x509_general_name`. The type zero is that of an unset struct. -/
inductive GeneralName
  | unset
  | dnsName (dnsName : List UInt8)
  | directoryName (directoryName : List X509Name)
  deriving DecidableEq

/-- `mbedtls_x509_time`. -/
structure X509Time where
  year : Int
  mon : Int
  day : Int
  hour : Int
  min : Int
  sec : Int
  deriving DecidableEq

/-- `mbedtls_x509_crt`: whether `ext_types` has an extended key usage and an alternative name,
whether the key usage has `s_ekuRoleOid`, and the fields that are read. -/
structure X509Crt where
  extendedKeyUsage : Bool
  subjectAltName : Bool
  roleEku : Bool
  subjectAltNames : List GeneralName
  issuer : List X509Name
  validTo : X509Time
  deriving DecidableEq

/-- mbedTLS: the leaf of a chain that is parsed without an error, the count and the errors of
`ParseChain` over the trusted certificates, and the verification. -/
structure Mbedtls where
  crtParse : List UInt8 → Option X509Crt
  parseChain : List (List UInt8) → Int × Int
  crtVerify : X509Crt → List (List UInt8) → Bool

def valuesOf (oid : List UInt8) (names : List X509Name) : List (List UInt8) :=
  (names.filter (·.oid = oid)).map X509Name.val

def cns (names : List X509Name) : List (List UInt8) := valuesOf mbedtlsOidAtCn names

def ous (names : List X509Name) : List (List UInt8) := valuesOf mbedtlsOidAtOrgUnit names

/-- The loop of `OCInternalIsValidRoleCertificate` over a directory name. There is no result
when a value is too long. -/
def checkDirectoryName : Bool → List X509Name → Option Bool
  | valid, [] => some valid
  | valid, dirName :: rest =>
    if dirName.oid = mbedtlsOidAtCn then
      if roleIdLength ≤ dirName.val.length then none else checkDirectoryName true rest
    else if dirName.oid = mbedtlsOidAtOrgUnit then
      if roleAuthorityLength ≤ dirName.val.length then none else checkDirectoryName valid rest
    else checkDirectoryName valid rest

def checkName (valid : Bool) : GeneralName → Option Bool
  | .directoryName directoryName => checkDirectoryName valid directoryName
  | _ => some valid

def checkNames : Bool → List GeneralName → Option Bool
  | valid, [] => some valid
  | valid, nameCur :: names =>
    (checkName valid nameCur).bind fun valid =>
      if valid then some valid else checkNames valid names

def isValidRoleCertificate (tls : Mbedtls) (buf : List UInt8) : Ocf.OCStackResult :=
  match tls.crtParse buf with
  | none => .error
  | some parsedCert =>
    if parsedCert.extendedKeyUsage = false then .invalidParam
    else if parsedCert.subjectAltName = false then .invalidParam
    else if parsedCert.roleEku = false then .invalidParam
    else
      match checkNames false parsedCert.subjectAltNames with
      | some true => .ok
      | _ => .invalidParam

/-! ## The roles -/

/-- `OicSecRole_t`, as it is filled. -/
structure RoleSlot where
  id : CharField UInt8 roleIdLength
  authority : CharField UInt8 roleAuthorityLength
  deriving DecidableEq

def RoleSlot.zero : RoleSlot := ⟨.zero, .zero⟩

def fits (val : List UInt8) : Bool := val.length < roleIdLength

def assertedCopy {n : ℕ} (field : CharField UInt8 n) (val : List UInt8) :
    Option (CharField UInt8 n) :=
  if fits val then some (field.write val) else none

structure NameWalk where
  slot : RoleSlot
  advanceCount : Bool
  addAuthority : Bool

def nameStep (walk : NameWalk) (dirName : X509Name) : Option NameWalk :=
  if dirName.oid = mbedtlsOidAtCn ∧ walk.slot.id.cell 0 = 0 then
    (assertedCopy walk.slot.id dirName.val).map fun id =>
      { walk with slot := { walk.slot with id := id }, advanceCount := true }
  else if dirName.oid = mbedtlsOidAtOrgUnit ∧ walk.slot.authority.cell 0 = 0 then
    (assertedCopy walk.slot.authority dirName.val).map fun authority =>
      { walk with slot := { walk.slot with authority := authority }, addAuthority := false }
  else some walk

def addIssuer (issuer : List X509Name) (authority : CharField UInt8 roleAuthorityLength) :
    Option (CharField UInt8 roleAuthorityLength) :=
  issuer.foldlM
    (fun authority issuerName =>
      if issuerName.oid = mbedtlsOidAtCn then assertedCopy authority issuerName.val
      else some authority)
    authority

/-- `rolesTmp` up to `rolesTmpCount`, and the slot at `rolesTmpCount`. Those behind it have not
been touched. -/
structure RolesTmp where
  filled : List RoleSlot
  slot : RoleSlot

def RolesTmp.count (rolesTmp : RolesTmp) : ℕ := rolesTmp.filled.length

def extractName (issuer : List X509Name) (rolesTmp : RolesTmp) : GeneralName → Option RolesTmp
  | .directoryName directoryName =>
    (directoryName.foldlM nameStep ⟨rolesTmp.slot, false, true⟩).bind fun walk =>
      if walk.advanceCount then
        (if walk.addAuthority then addIssuer issuer walk.slot.authority
          else some walk.slot.authority).map fun authority =>
            ⟨rolesTmp.filled ++ [{ walk.slot with authority := authority }], RoleSlot.zero⟩
      else some { rolesTmp with slot := walk.slot }
  | _ => some rolesTmp

def extractRoles (issuer : List X509Name) : List GeneralName → RolesTmp → Option RolesTmp
  | [], rolesTmp => some rolesTmp
  | nameCur :: names, rolesTmp =>
    if rolesTmp.count < maxRolesPerCert then
      (extractName issuer rolesTmp nameCur).bind (extractRoles issuer names)
    else some rolesTmp

/-- Which allocations of `OCInternalVerifyRoleCertificate` succeed: the copy with a zero at the
end, and the array of roles. -/
structure VerifyMemory where
  data : Bool
  roles : Bool

structure Verdict where
  result : Ocf.OCStackResult
  roles : Option (List RoleSlot)
  notValidAfter : Option Tm
  deriving DecidableEq

def Verdict.refused (result : Ocf.OCStackResult) : Verdict := ⟨result, none, none⟩

def terminated (memory : VerifyMemory) (data : List UInt8) : Option (List UInt8) :=
  if ∃ last ∈ data.getLast?, last ≠ 0 then
    if memory.data then some (data ++ [0]) else none
  else some data

def notValidAfter (validTo : X509Time) : Tm :=
  ⟨validTo.year - 1900, validTo.mon - 1, validTo.day, validTo.hour, validTo.min, validTo.sec⟩

def handOut (memory : VerifyMemory) (certChain : X509Crt) (roles : List RoleSlot) : Verdict :=
  if maxRolesPerCert ≤ roles.length then .refused .error
  else if roles.length = 0 then .refused .error
  else if memory.roles then ⟨.ok, some roles, some (notValidAfter certChain.validTo)⟩
  else .refused .noMemory

/-- `OCInternalVerifyRoleCertificate`. There is no result when an assertion fails. -/
def verifyRoleCertificate (tls : Mbedtls) (memory : VerifyMemory)
    (certificateChain : List UInt8) (trustedCaCerts : List (List UInt8)) : Option Verdict :=
  match terminated memory certificateChain with
  | none => some (.refused .noMemory)
  | some data =>
    let res := isValidRoleCertificate tls data
    if res ≠ .ok then some (.refused res)
    else
      match tls.crtParse data with
      | none => some (.refused .error)
      | some certChain =>
        let (count, errNum) := tls.parseChain trustedCaCerts
        if count ≤ 0 then some (.refused .error)
        else if errNum ≠ 0 then some (.refused .error)
        else if tls.crtVerify certChain trustedCaCerts = false then
          some (.refused .invalidParam)
        else
          (extractRoles certChain.issuer certChain.subjectAltNames
            ⟨[], RoleSlot.zero⟩).map fun rolesTmp =>
              handOut memory certChain rolesTmp.filled

end Iochibity.Sec.RoleCert
