/-
The data of the security layer: UUIDs, roles, access control entries, device
onboarding states, the types of secure virtual resources and the answers of
the policy engine.
-/
import Mathlib.Algebra.Order.Ring.Nat
import Mathlib.Data.List.Nodup
import Mathlib.Data.UInt

namespace Iochibity.Sec

structure OicUuid where
  id : Vector UInt8 16
  deriving DecidableEq

lemma uuidLength_pos : 0 < 16 := by decide

def OicUuid.nil : OicUuid := ⟨Vector.replicate 16 0⟩

def isNilUuid (uuid : OicUuid) : Bool := uuid == OicUuid.nil

structure OicSecRole where
  id : String
  authority : String
  deriving DecidableEq

inductive OicSecConntype
  | authCrypt
  | anonClear
  deriving DecidableEq

/-- `OicSecAceSubjectType` with the member of the union it selects. -/
inductive AceSubject
  | uuid (subjectuuid : OicUuid)
  | role (subjectRole : OicSecRole)
  | conntype (subjectConn : OicSecConntype)
  deriving DecidableEq

/-! ## Access control entries -/

inductive OicSecAceResourceWildcard
  | noWildcard
  | allDiscoverableNcrsWithOcSecure
  | allDiscoverableNcrsWithOcNonsecure
  | allNcrs
  deriving DecidableEq

structure OicSecRsrc where
  href : Option String
  rel : Option String
  types : List String
  interfaces : List String
  wildcard : OicSecAceResourceWildcard
  deriving DecidableEq

structure OicSecValidity where
  period : Option String
  recurrences : List String
  deriving DecidableEq

/-- `OicSecAce_t`, without the link to the next one. -/
structure OicSecAce where
  subject : AceSubject
  resources : List OicSecRsrc
  permission : UInt16
  validities : List OicSecValidity
  aceid : UInt16
  deriving DecidableEq

/-- A node of the linked list `gAcl->aces`: an entry and its address. -/
structure AceNode where
  address : Nat
  ace : OicSecAce
  deriving DecidableEq

/-- `OicSecAcl_t`. The nodes of a linked list are different objects. -/
structure OicSecAcl where
  rownerID : OicUuid
  aces : List AceNode
  distinct : (aces.map AceNode.address).Nodup

inductive OicSecDeviceOnboardingState
  | reset
  | rfotm
  | rfpro
  | rfnop
  | sreset
  deriving DecidableEq

structure OicSecDostype where
  state : OicSecDeviceOnboardingState
  pending : Bool
  deriving DecidableEq

inductive OicSecSvrType
  | error
  | acl
  | amacl
  | cred
  | crl
  | doxm
  | dpairing
  | pconf
  | pstat
  | sacl
  | svc
  | csr
  | acl2
  | roles
  | sp
  | notASvrResource
  deriving DecidableEq

def permissionCreate : UInt16 := 1
def permissionRead : UInt16 := 2
def permissionWrite : UInt16 := 4
def permissionDelete : UInt16 := 8
def permissionNotify : UInt16 := 16

def permissionFullControl : UInt16 :=
  permissionCreate ||| permissionRead ||| permissionWrite ||| permissionDelete ||| permissionNotify

inductive SRMAccessResponse
  | granted
  | denied
  | deniedInvalidPeriod
  | deniedInsufficientPermission
  | deniedSubjectNotFound
  | deniedResourceNotFound
  | deniedPolicyEngineError
  | deniedSecResourceOverUnsecureChannel
  deriving DecidableEq

def SRMAccessResponse.bits : SRMAccessResponse → Nat
  | .granted => 1
  | .denied => 2
  | .deniedInsufficientPermission => 2 ||| 4
  | .deniedSubjectNotFound => 2 ||| 8
  | .deniedResourceNotFound => 2 ||| 16
  | .deniedPolicyEngineError => 2 ||| 32
  | .deniedInvalidPeriod => 2 ||| 64
  | .deniedSecResourceOverUnsecureChannel => 2 ||| 128

def isAccessGranted (response : SRMAccessResponse) : Bool :=
  SRMAccessResponse.granted.bits == response.bits &&& SRMAccessResponse.granted.bits

@[simp] lemma isAccessGranted_iff (response : SRMAccessResponse) :
    isAccessGranted response = true ↔ response = .granted := by
  cases response <;> decide

inductive OicEncodingType
  | unknown
  | raw
  | base64
  | pem
  | der
  deriving DecidableEq

/-- `OicSecKey_t`; the length is that of `data`, and `none` is the null pointer. -/
structure OicSecKey where
  data : Option (List UInt8)
  encoding : OicEncodingType
  deriving DecidableEq

def OicSecKey.zero : OicSecKey := ⟨none, .unknown⟩

structure OicSecOpt where
  data : Option (List UInt8)
  encoding : OicEncodingType
  revstat : Bool
  deriving DecidableEq

def OicSecOpt.zero : OicSecOpt := ⟨none, .unknown, false⟩

/-- The values of `OicSecCredType_t`. -/
def noSecurityMode : UInt32 := 0
def symmetricPairWiseKey : UInt32 := 1
def symmetricGroupKey : UInt32 := 2
def asymmetricKey : UInt32 := 4
def signedAsymmetricKey : UInt32 := 8
def pinPassword : UInt32 := 16
def asymmetricEncryptionKey : UInt32 := 32

/-- `OicSecCred_t`, without `rownerID`, which nothing here reads. -/
structure OicSecCred where
  credId : UInt16
  subject : OicUuid
  roleId : OicSecRole
  credType : UInt32
  publicData : OicSecKey
  credUsage : Option String
  optionalData : OicSecOpt
  privateData : OicSecKey
  period : Option String
  eownerID : Option OicUuid
  deriving DecidableEq

def isNonEmptyRole (role : OicSecRole) : Bool := role.id != ""

def isEmptyCred (cred : OicSecCred) : Bool :=
  cred.subject == OicUuid.nil && !isNonEmptyRole cred.roleId && cred.credId == 0
    && cred.credType == 0 && cred.privateData.data.isNone && cred.publicData.data.isNone
    && cred.optionalData.data.isNone && cred.credUsage.isNone

/-! ## The list -/

structure CredNode where
  addr : Nat
  cred : OicSecCred

structure CredHeap where
  gCred : List CredNode
  freed : List Nat

/-- The values of `OCStackResult` that the functions on `gCred` return. -/
inductive CredResult
  | ok
  | resourceDeleted
  | invalidParam
  | error
  deriving DecidableEq

def uint16Max : UInt16 := 65535

/-- The walk of `GetCredId`, which stops at the first entry that does not have the
next number. -/
def nextCredId : List CredNode → UInt16 → UInt16
  | [], next => next
  | node :: rest, next => if node.cred.credId = next then nextCredId rest (next + 1) else next

/-- `LL_SORT(gCred, CmpCredId)`, a stable merge sort. -/
def sortByCredId (gCred : List CredNode) : List CredNode :=
  gCred.mergeSort (fun a b => a.cred.credId ≤ b.cred.credId)

def getCredId (gCred : List CredNode) : UInt16 × List CredNode :=
  let sorted := sortByCredId gCred
  let next := nextCredId sorted 1
  (if next < uint16Max then next else 0, sorted)

def removeFirstId (credId : UInt16) (heap : CredHeap) : CredHeap :=
  { gCred := heap.gCred.eraseP (·.cred.credId == credId)
    freed := ((heap.gCred.find? (·.cred.credId == credId)).map
      CredNode.addr).toList ++ heap.freed }

def removeWhere (p : OicSecCred → Bool) (heap : CredHeap) : CredHeap :=
  { gCred := heap.gCred.filter (!p ·.cred)
    freed := (heap.gCred.filter (p ·.cred)).map CredNode.addr ++ heap.freed }

/-- What `AddCredential` does to the list once `GetDos` has succeeded. -/
def insertCred (newCred : CredNode) (heap : CredHeap) : CredHeap :=
  if newCred.cred.credId ≠ 0 then
    let heap := removeFirstId newCred.cred.credId heap
    { heap with gCred := heap.gCred ++ [newCred] }
  else
    let (credId, sorted) := getCredId heap.gCred
    { heap with
      gCred := sorted ++ [{ newCred with cred := { newCred.cred with credId := credId } }] }

/-- `AddCredential`; `dos` is whether `GetDos` succeeds and `write` the result of
`UpdatePersistentStorage`. -/
def addCredential (dos write : Bool) (newCred : CredNode) (heap : CredHeap) :
    CredHeap × CredResult :=
  if !dos then (heap, .error)
  else (insertCred newCred heap, if write then .ok else .error)

def removed (write : Bool) (p : OicSecCred → Bool) (heap : CredHeap) : CredHeap × CredResult :=
  (removeWhere p heap, if heap.gCred.any (p ·.cred) && write then .resourceDeleted else .error)

def removeCredential (write : Bool) (subject : OicUuid) (heap : CredHeap) :
    CredHeap × CredResult :=
  removed write (·.subject == subject) heap

def removeCredentialByCredId (write : Bool) (credId : UInt16) (heap : CredHeap) :
    CredHeap × CredResult :=
  if credId = 0 then (heap, .invalidParam)
  else removed write (·.credId == credId) heap

/-- `RemoveCredentialByCredIds`: the loop over the ids runs over `gCred` for each. -/
def removeCredentialByCredIds (write : Bool) (credIdList : List UInt16) (heap : CredHeap) :
    CredHeap × CredResult :=
  let after := credIdList.foldl (fun h credId => removeWhere (·.credId == credId) h) heap
  (after, if after.gCred.length ≠ heap.gCred.length && write then .resourceDeleted else .error)

open List

/-! ## The two functions -/

def cString (s : String) : List UInt8 :=
  s.toList.flatMap String.utf8EncodeChar

def strlen (s : String) : Nat := (cString s).length

/-- The string with the given bytes. Bytes that are not UTF-8 are those of no string
here, and one character stands for them. -/
def stringOfBytes (s : List UInt8) : String :=
  (String.fromUTF8? ⟨s.toArray⟩).getD "\uFFFD"

lemma toByteArray_cString (s : String) :
    (⟨(cString s).toArray⟩ : ByteArray) = s.toByteArray := by
  rw [← String.utf8Encode_toList, List.utf8Encode, cString]
  ext1
  simp

@[simp] lemma stringOfBytes_cString (s : String) : stringOfBytes (cString s) = s := by
  rw [stringOfBytes, toByteArray_cString, String.fromUTF8?, dif_pos, Option.getD_some,
    String.fromUTF8]

lemma cString_inj {s t : String} : cString s = cString t ↔ s = t := by
  refine ⟨fun h => ?_, congrArg cString⟩
  have hstr := congrArg stringOfBytes h
  rwa [stringOfBytes_cString, stringOfBytes_cString] at hstr

/-- `%02x` for half a byte. -/
def hexDigit (n : UInt8) : Char :=
  if n < 10 then Char.ofNat (48 + n.toNat) else Char.ofNat (87 + n.toNat)

variable (b : UInt8)

def hexByte : List Char :=
  [hexDigit (b / 16), hexDigit (b % 16)]

/-- The hyphens in the format of `OCConvertUuidToString`. -/
def hyphenBefore (i : Nat) : List Char :=
  if i = 4 ∨ i = 6 ∨ i = 8 ∨ i = 10 then ['-'] else []

/-- The format of `OCConvertUuidToString`, from byte `i` on. -/
def uuidChars : Nat → List UInt8 → List Char
  | _, [] => []
  | i, b :: rest => hyphenBefore i ++ hexByte b ++ uuidChars (i + 1) rest

variable (uuid : OicUuid)

def convertUuidToStr : String :=
  String.ofList (uuidChars 0 uuid.id.toList)

def hexValue (c : UInt8) : Option UInt8 :=
  if 48 ≤ c ∧ c ≤ 57 then some (c - 48)
  else if 65 ≤ c ∧ c ≤ 70 then some (c - 55)
  else if 97 ≤ c ∧ c ≤ 102 then some (c - 87)
  else none

def isSpace (c : UInt8) : Bool := c == 32 || (9 ≤ c && c ≤ 13)

/-- `sscanf` with `%2hhx` into a byte that holds 0: white space is skipped, a
sign counts as one of the two characters. -/
def scanHexByte (s : List UInt8) : UInt8 :=
  match s.dropWhile isSpace with
  | [] => 0
  | [c] => (hexValue c).getD 0
  | c :: d :: _ =>
    if c = 43 then (hexValue d).getD 0
    else if c = 45 then 0 - (hexValue d).getD 0
    else
      match hexValue c, hexValue d with
      | none, _ => 0
      | some high, none => high
      | some high, some low => 16 * high + low

/-- The loop of `OCConvertStringToUuid`: a hyphen before a byte is passed over. -/
def scanUuid : Nat → List UInt8 → List UInt8
  | 0, _ => []
  | n + 1, s =>
    let s := if s.head? = some 45 then s.tail else s
    scanHexByte s :: scanUuid n (s.drop 2)

@[simp] lemma length_scanUuid (n : Nat) (s : List UInt8) : (scanUuid n s).length = n := by
  induction n generalizing s with
  | zero => rfl
  | succ n ih => simp [scanUuid, ih]

/-- `OCConvertStringToUuid`, for a string of the right length. -/
def convertStringToUuid (s : List UInt8) : OicUuid :=
  ⟨⟨(scanUuid 16 s).toArray, by simp⟩⟩

def convertStrToUuid (s : String) : Option OicUuid :=
  if strlen s = 0 then some OicUuid.nil
  else if strlen s = 36 then some (convertStringToUuid (cString s))
  else none

def convertBytesToUuid (s : List UInt8) : Option OicUuid :=
  if s.length = 0 then some OicUuid.nil
  else if s.length = 36 then some (convertStringToUuid s)
  else none

def wildcardSubjectId : OicUuid := ⟨(Vector.replicate 16 0).set 0 42 uuidLength_pos⟩

/-! ## The round trip -/

def hexAscii (n : UInt8) : UInt8 := if n < 10 then 48 + n else 87 + n

lemma hexDigit_spec {n : UInt8} (h : n < 16) :
    String.utf8EncodeChar (hexDigit n) = [hexAscii n] ∧ hexValue (hexAscii n) = some n
      ∧ isSpace (hexAscii n) = false ∧ hexAscii n ≠ 43 ∧ hexAscii n ≠ 45 := by
  have hall : ∀ k : Fin 16,
      String.utf8EncodeChar (hexDigit (UInt8.ofNat k)) = [hexAscii (UInt8.ofNat k)]
      ∧ hexValue (hexAscii (UInt8.ofNat k)) = some (UInt8.ofNat k)
      ∧ isSpace (hexAscii (UInt8.ofNat k)) = false ∧ hexAscii (UInt8.ofNat k) ≠ 43
      ∧ hexAscii (UInt8.ofNat k) ≠ 45 := by decide
  have hn := hall ⟨n.toNat, h⟩
  rwa [UInt8.ofNat_toNat] at hn

lemma div16_lt : b / 16 < 16 := by
  have hb := b.toNat_lt
  rw [UInt8.lt_iff_toNat_lt, UInt8.toNat_div]
  simp only [UInt8.toNat_ofNat, Nat.reducePow, Nat.reduceMod] at hb ⊢
  omega

lemma mod16_lt : b % 16 < 16 := by
  rw [UInt8.lt_iff_toNat_lt, UInt8.toNat_mod]
  simp only [UInt8.toNat_ofNat, Nat.reducePow, Nat.reduceMod]
  omega

lemma halves_add : 16 * (b / 16) + b % 16 = b := by
  have hb := b.toNat_lt
  apply UInt8.toNat_inj.mp
  simp only [UInt8.toNat_add, UInt8.toNat_mul, UInt8.toNat_div, UInt8.toNat_mod, UInt8.toNat_ofNat,
    Nat.reducePow, Nat.reduceMod] at hb ⊢
  omega

def hexBytes : List UInt8 := [hexAscii (b / 16), hexAscii (b % 16)]

lemma encode_hexByte : (hexByte b).flatMap String.utf8EncodeChar = hexBytes b := by
  have hhigh := (hexDigit_spec (div16_lt b)).1
  have hlow := (hexDigit_spec (mod16_lt b)).1
  rw [hexByte, flatMap_cons, flatMap_cons, flatMap_nil, hhigh, hlow]
  rfl

lemma scanHexByte_hexBytes (rest : List UInt8) : scanHexByte (hexBytes b ++ rest) = b := by
  obtain ⟨-, hhigh, hspace, hplus, hminus⟩ := hexDigit_spec (div16_lt b)
  obtain ⟨-, hlow, -⟩ := hexDigit_spec (mod16_lt b)
  have hdrop : (hexBytes b ++ rest).dropWhile isSpace = hexBytes b ++ rest := by
    simp [hexBytes, hspace]
  rw [scanHexByte, hdrop]
  simp only [hexBytes, cons_append, nil_append, if_neg hplus, if_neg hminus, hhigh, hlow]
  exact halves_add b

lemma scanUuid_uuidChars (i : Nat) (bytes : List UInt8) :
    scanUuid bytes.length ((uuidChars i bytes).flatMap String.utf8EncodeChar) = bytes := by
  induction bytes generalizing i with
  | nil => rfl
  | cons b rest ih =>
    -- after the hyphen, if there is one, the digits of the byte come
    have hfront : ∀ s : List UInt8, scanUuid (rest.length + 1) (hexBytes b ++ s)
        = b :: scanUuid rest.length s := by
      intro s
      have hminus := (hexDigit_spec (div16_lt b)).2.2.2.2
      have hhead : (hexBytes b ++ s).head? ≠ some 45 := by
        simp [hexBytes, hminus]
      rw [scanUuid]
      simp only [if_neg hhead, scanHexByte_hexBytes]
      rfl
    have hhyphen : ∀ s : List UInt8, scanUuid (rest.length + 1) (45 :: (hexBytes b ++ s))
        = b :: scanUuid rest.length s := by
      intro s
      rw [scanUuid]
      simp only [head?_cons, if_true, tail_cons, scanHexByte_hexBytes]
      rfl
    rw [length_cons, uuidChars, hyphenBefore]
    split_ifs
    · have hdash : String.utf8EncodeChar '-' = [45] := by decide
      simp only [flatMap_append, encode_hexByte, flatMap_cons, hdash, cons_append, nil_append]
      rw [hhyphen, ih]
    · simp only [flatMap_append, encode_hexByte, nil_append]
      rw [hfront, ih]

lemma length_uuidChars (i : Nat) (bytes : List UInt8) :
    ((uuidChars i bytes).flatMap String.utf8EncodeChar).length = 2 * bytes.length
        + ((List.range' i bytes.length).map (fun j => (hyphenBefore j).length)).sum := by
  induction bytes generalizing i with
  | nil => rfl
  | cons b rest ih =>
    have hhyphen : ((hyphenBefore i).flatMap String.utf8EncodeChar).length
        = (hyphenBefore i).length := by
      rw [hyphenBefore]
      split_ifs <;> decide
    have hbyte : (hexBytes b).length = 2 := rfl
    rw [uuidChars, flatMap_append, flatMap_append, length_append, length_append, ih, encode_hexByte,
      length_cons, range'_succ, map_cons, sum_cons, hhyphen]
    omega

lemma cString_convertUuidToStr :
    cString (convertUuidToStr uuid)
      = (uuidChars 0 uuid.id.toList).flatMap String.utf8EncodeChar := by
  rw [cString, convertUuidToStr, String.toList_ofList]

lemma strlen_convertUuidToStr : strlen (convertUuidToStr uuid) = 36 := by
  have hbytes : uuid.id.toList.length = 16 := by simp
  rw [strlen, cString_convertUuidToStr, length_uuidChars, hbytes]
  decide

lemma convertStrToUuid_convertUuidToStr :
    convertStrToUuid (convertUuidToStr uuid) = some uuid := by
  have hstring := cString_convertUuidToStr uuid
  have hbytes : uuid.id.toList.length = 16 := by simp
  have hlen := strlen_convertUuidToStr uuid
  have hscan : scanUuid 16 (cString (convertUuidToStr uuid)) = uuid.id.toList := by
    have hall := scanUuid_uuidChars 0 uuid.id.toList
    rwa [hbytes, ← hstring] at hall
  rw [convertStrToUuid, hlen, if_neg (by decide), if_pos rfl, convertStringToUuid]
  obtain ⟨id⟩ := uuid
  congr 2
  apply Vector.toList_inj.mp
  rw [Vector.toList_mk]
  exact hscan

end Iochibity.Sec
