/-
`credresource.c`, the encoder and the decoder of lists of credentials.
-/
import Iochibity.Lib.CborTree
import Iochibity.Sec.UuidText

namespace Iochibity.Sec

open CborTree

section

section

/-! ## The encoder -/

abbrev CredItem := Item (List UInt8)

abbrev CredEntry := List UInt8 × CredItem

def textItem (s : String) : CredItem := .text (cString s)

def encodingValueToString : OicEncodingType → Option String
  | .raw => some "oic.sec.encoding.raw"
  | .base64 => some "oic.sec.encoding.base64"
  | .der => some "oic.sec.encoding.der"
  | .pem => some "oic.sec.encoding.pem"
  | .unknown => none

def serializeEncodingToCborInternal (data : List UInt8) (encoding : OicEncodingType) :
    Option (List CredEntry) :=
  (encodingValueToString encoding).map (fun name =>
    [(cString "encoding", textItem name),
      (cString "data", if encoding = .der ∨ encoding = .raw then .bytes data else .text data)])

def serializeEncodingToCbor (tag : String) (value : OicSecKey) : Option (List CredEntry) := do
  let entries ← serializeEncodingToCborInternal (value.data.getD []) value.encoding
  let map ← closeMap 2 entries
  return [(cString tag, map)]

def serializeSecOptToCbor (tag : String) (value : OicSecOpt) : Option (List CredEntry) := do
  let entries ← serializeEncodingToCborInternal (value.data.getD []) value.encoding
  let map ← closeMap 3 (entries ++ [(cString "revstat", .bool value.revstat)])
  return [(cString tag, map)]

def hasPublicData (cred : OicSecCred) : Bool :=
  (cred.credType = signedAsymmetricKey || cred.credType = asymmetricKey)
    && cred.publicData.data.isSome

def hasOptionalData (cred : OicSecCred) : Bool :=
  cred.credType = signedAsymmetricKey && cred.optionalData.data.isSome

variable (secureFlag : Bool) (cred : OicSecCred)

def hasPrivateData : Bool :=
  !secureFlag && cred.privateData.data.isSome

def credMapSize : Nat :=
  3 + (if cred.period.isSome then 1 else 0) + (if cred.eownerID.isSome then 1 else 0)
    + (if hasPublicData cred then 1 else 0) + (if hasOptionalData cred then 1 else 0)
    + (if cred.credUsage.isSome then 1 else 0) + (if isNonEmptyRole cred.roleId then 1 else 0)
    + (if hasPrivateData secureFlag cred then 1 else 0)

def roleIdEntry (role : OicSecRole) : Option (List CredEntry) :=
  if isNonEmptyRole role then do
    let authority := if role.authority ≠ "" then
      [(cString "authority", textItem role.authority)] else []
    let map ← closeMap (1 + if role.authority ≠ "" then 1 else 0)
      ((cString "role", textItem role.id) :: authority)
    return [(cString "roleid", map)]
  else some []

def stringEntry (name : String) (s : Option String) : List CredEntry :=
  (s.map (fun s => (cString name, textItem s))).toList

def subjectText (subject : OicUuid) : String :=
  if subject = wildcardSubjectId then "*" else convertUuidToStr subject

def publicDataEntry (cred : OicSecCred) : Option (List CredEntry) :=
  if hasPublicData cred then serializeEncodingToCbor "publicdata" cred.publicData else some []

def optionalDataEntry (cred : OicSecCred) : Option (List CredEntry) :=
  if hasOptionalData cred then serializeSecOptToCbor "optionaldata" cred.optionalData
  else some []

def privateDataEntry : Option (List CredEntry) :=
  if hasPrivateData secureFlag cred then
    serializeEncodingToCbor "privatedata" cred.privateData
  else some []

def encodeCred : Option CredItem := do
  let roleId ← roleIdEntry cred.roleId
  let publicData ← publicDataEntry cred
  let optionalData ← optionalDataEntry cred
  let privateData ← privateDataEntry secureFlag cred
  closeMap (credMapSize secureFlag cred)
    ([(cString "credid", .int cred.credId.toNat),
      (cString "subjectuuid", textItem (subjectText cred.subject))] ++ roleId
    ++ [(cString "credtype", .int cred.credType.toNat)] ++ publicData ++ optionalData
    ++ stringEntry "credusage" cred.credUsage ++ privateData
    ++ stringEntry "period" cred.period
    ++ stringEntry "x.org.iotivity.eowneruuid" (cred.eownerID.map convertUuidToStr))

/-- The owner, if it is to be included. `ConvertUuidToStr` fails for a null pointer. -/
def rownerEntry (rownerId : Option OicUuid) (includeRowner : Bool) : Option (List CredEntry) :=
  if includeRowner then
    rownerId.map (fun uuid => [(cString "rowneruuid", textItem (convertUuidToStr uuid))])
  else some []

variable (creds : List OicSecCred) (rownerId : Option OicUuid)

def credPayload (secureFlag : Bool) (includeRowner : Bool) : Option CredItem := do
  let items ← creds.mapM (encodeCred secureFlag)
  let array ← closeArray creds.length items
  let rowner ← rownerEntry rownerId includeRowner
  let rt ← closeArray 1 [textItem "oic.r.cred"]
  let interface ← closeArray 1 [textItem "oic.if.baseline"]
  closeMap (3 + if includeRowner then 1 else 0)
    ([(cString "creds", array)] ++ rowner ++ [(cString "rt", rt), (cString "if", interface)])

def cborSizeDefault : Nat := 2048

def credToCBORPayloadPartial (cborSize : Nat) (secureFlag : Bool)
    (includeRowner : Bool) : Option CredItem := do
  let cborLen := if cborSize = 0 then cborSizeDefault else cborSize
  let payload ← credPayload creds rownerId secureFlag includeRowner
  if payload.size List.length ≤ cborLen then some payload
  -- the buffer of the second call is larger by what is missing, and its owner is NULL
  else credPayload creds none secureFlag includeRowner

/-! ## The decoder -/

/-- The ways out of the decoder: an error of tinycbor, for which the list is thrown away, a UUID
that cannot be read, with no list either, and a failed assertion of tinycbor about a type. -/
inductive CredDecodeEnd
  | failed
  | stopped
  | aborts
  deriving DecidableEq

def encodingOfName (name : List UInt8) : OicEncodingType :=
  if name = cString "oic.sec.encoding.raw" then .raw
  else if name = cString "oic.sec.encoding.base64" then .base64
  else if name = cString "oic.sec.encoding.der" then .der
  else if name = cString "oic.sec.encoding.pem" then .pem
  else .raw

def deserializeEncodingFromCborInternal (key : OicSecKey) (name : List UInt8)
    (value : Option CredItem) : OicSecKey × Option CredDecodeEnd :=
  if name = cString "data" then
    match value with
    | some (.bytes data) => ({ key with data := some data }, none)
    | some (.text data) => ({ key with data := some data }, none)
    | _ => (key, some .failed)
  else if name = cString "encoding" then
    match value with
    | some (.text encoding) => ({ key with encoding := encodingOfName encoding }, none)
    | _ => (key, some .aborts)
  else (key, none)

def deserializeEncodingFromCbor (key : OicSecKey) (item : Option CredItem) :
    OicSecKey × Option CredDecodeEnd :=
  match item.bind Item.content with
  | none => (key, some .aborts)
  | some items => walk (fun _ => .skip) deserializeEncodingFromCborInternal key items

/-- One entry of the map of optional data, the one with number `opt.2`. The variable
`out` of the entry holds what `outs` says. -/
def deserializeSecOptEntry (outs : Nat → OicSecKey) (opt : OicSecOpt × Nat) (name : List UInt8)
    (value : Option CredItem) : (OicSecOpt × Nat) × Option CredDecodeEnd :=
  let (revstat, ending) : Bool × Option CredDecodeEnd :=
    if name = cString "revstat" then
      match value with
      | some (.bool revstat) => (revstat, none)
      | _ => (opt.1.revstat, some .aborts)
    else (opt.1.revstat, none)
  match ending with
  | some e => (opt, some e)
  | none =>
    match deserializeEncodingFromCborInternal (outs opt.2) name value with
    | (_, some e) => (opt, some e)
    | (out, none) => ((⟨out.data, out.encoding, revstat⟩, opt.2 + 1), none)

def deserializeSecOptFromCbor (outs : Nat → OicSecKey) (opt : OicSecOpt)
    (item : Option CredItem) : OicSecOpt × Option CredDecodeEnd :=
  match item.bind Item.content with
  | none => (opt, some .aborts)
  | some items =>
    let (read, ending) :=
      walk (fun _ => .skip) (deserializeSecOptEntry outs) ({ opt with revstat := false }, 0) items
    (read.1, ending)

def roleIdSize : Nat := 64

def decodeRoleKey (role : OicSecRole) (name : List UInt8) (value : Option CredItem) :
    OicSecRole × Option CredDecodeEnd :=
  if name = cString "role" then
    match value with
    | some (.text s) =>
      if s.length ≥ roleIdSize then (role, some .failed)
      else ({ role with id := stringOfBytes s }, none)
    | _ => (role, some .aborts)
  else if name = cString "authority" then
    match value with
    | some (.text s) =>
      if s.length ≥ roleIdSize then (role, some .failed)
      else ({ role with authority := stringOfBytes s }, none)
    | _ => (role, some .aborts)
  else (role, none)

def decodeRole (role : OicSecRole) (item : Option CredItem) : OicSecRole × Option CredDecodeEnd :=
  match item.bind Item.content with
  | none => (role, some .aborts)
  | some items =>
    match walk (fun _ => .leave) decodeRoleKey role items with
    | (role, some e) => (role, some e)
    | (role, none) => (role, if role.id = "" then some .failed else none)

def decodeCredKey (outs : Nat → OicSecKey) (cred : OicSecCred) (name : List UInt8)
    (value : Option CredItem) : OicSecCred × Option CredDecodeEnd :=
  if name = cString "credid" then
    match value with
    | some (.int n) =>
      -- cut down to 16 bits
      if 0 ≤ n then ({ cred with credId := UInt16.ofInt n }, none) else (cred, some .aborts)
    | _ => (cred, some .aborts)
  else if name = cString "subjectuuid" then
    match value with
    | some (.text s) =>
      if s = cString "*" then
        ({ cred with subject := ⟨cred.subject.id.set 0 42 uuidLength_pos⟩ }, none)
      else
        match convertBytesToUuid s with
        | some uuid => ({ cred with subject := uuid }, none)
        | none => (cred, some .stopped)
    | _ => (cred, some .aborts)
  else if name = cString "roleid" then
    let (role, ending) := decodeRole cred.roleId value
    ({ cred with roleId := role }, ending)
  else if name = cString "credtype" then
    match value with
    | some (.int n) =>
      if 0 ≤ n then ({ cred with credType := UInt32.ofInt n }, none) else (cred, some .aborts)
    | _ => (cred, some .aborts)
  else if name = cString "privatedata" then
    let (key, ending) := deserializeEncodingFromCbor cred.privateData value
    ({ cred with privateData := key }, ending)
  else if name = cString "publicdata" then
    let (key, ending) := deserializeEncodingFromCbor cred.publicData value
    ({ cred with publicData := key }, ending)
  else if name = cString "optionaldata" then
    let (opt, ending) := deserializeSecOptFromCbor outs cred.optionalData value
    ({ cred with optionalData := opt }, ending)
  else if name = cString "credusage" then
    match value with
    | some (.text s) => ({ cred with credUsage := some (stringOfBytes s) }, none)
    | _ => (cred, some .aborts)
  else if name = cString "period" then
    match value with
    | some (.text s) => ({ cred with period := some (stringOfBytes s) }, none)
    | _ => (cred, some .aborts)
  else if name = cString "x.org.iotivity.eowneruuid" then
    match value with
    | some (.text s) =>
      match convertBytesToUuid s with
      | some uuid => ({ cred with eownerID := some uuid }, none)
      | none => (cred, some .stopped)
    -- the one key here whose value may have another type
    | _ => (cred, none)
  else (cred, none)

/-- A credential as `OICCalloc` gives it. -/
def emptyCred : OicSecCred :=
  ⟨0, OicUuid.nil, ⟨"", ""⟩, 0, OicSecKey.zero, none, OicSecOpt.zero, OicSecKey.zero, none, none⟩

variable (outs : Nat → Nat → OicSecKey)

/-- One item of the array of credentials. The first one is read into `headCred`. -/
def decodeCred (headCred : OicSecCred) (creds : List OicSecCred)
    (item : CredItem) : List OicSecCred × Option CredDecodeEnd :=
  match item.content with
  | none => (creds, some .aborts)
  | some items =>
    let (cred, ending) := walk (fun _ => .leave) (decodeCredKey (outs creds.length))
      (if creds = [] then headCred else emptyCred) items
    (creds ++ [cred], ending)

structure CredDecode where
  headCred : OicSecCred
  rest : List OicSecCred
  rownerid : Option OicUuid

def decodeCredRootKey (list : CredDecode) (tagName : List UInt8)
    (value : Option CredItem) : CredDecode × Option CredDecodeEnd :=
  if tagName = cString "creds" then
    match value.bind Item.content with
    | none => (list, some .aborts)
    | some items =>
      match each (decodeCred outs list.headCred) [] items with
      | (headCred :: rest, ending) => (⟨headCred, rest, list.rownerid⟩, ending)
      | ([], ending) => (list, ending)
  else if tagName = cString "rowneruuid" then
    match value with
    | some (.text s) =>
      match convertBytesToUuid s with
      | some uuid => ({ list with rownerid := some uuid }, none)
      | none => (list, some .stopped)
    | _ => (list, none)
  else (list, none)

def cborPayloadToCred (payload : CredItem) :
    Except CredDecodeEnd (List OicSecCred × Option OicUuid) :=
  match payload.content with
  | none => .error .failed
  | some items =>
    match walk (fun _ => .skip) (decodeCredRootKey outs) ⟨emptyCred, [], none⟩ items with
    | (list, none) => .ok (list.headCred :: list.rest, list.rownerid)
    | (_, some e) => .error e

end

open Option

attribute [local simp] cString_inj

/-! ## Keys -/

def encodingName (encoding : OicEncodingType) : String :=
  (encodingValueToString encoding).getD ""

def keyEntries (data : List UInt8) (encoding : OicEncodingType) : List CredEntry :=
  [(cString "encoding", textItem (encodingName encoding)),
    (cString "data", if encoding = .der ∨ encoding = .raw then .bytes data else .text data)]

variable {encoding : OicEncodingType}

lemma serializeInternal_eq (data : List UInt8) (h : encoding ≠ .unknown) :
    serializeEncodingToCborInternal data encoding = some (keyEntries data encoding) := by
  cases encoding with
  | unknown => exact absurd rfl h
  | raw | base64 | pem | der => rfl

lemma serializeEncodingToCbor_eq (tag : String) {value : OicSecKey}
    (h : value.encoding ≠ .unknown) :
    serializeEncodingToCbor tag value
      = some [(cString tag, .map (flatten (keyEntries (value.data.getD []) value.encoding)))] := by
  rw [serializeEncodingToCbor, serializeInternal_eq _ h]
  rfl

lemma serializeSecOptToCbor_eq (tag : String) {value : OicSecOpt}
    (h : value.encoding ≠ .unknown) :
    serializeSecOptToCbor tag value
      = some [(cString tag, .map (flatten (keyEntries (value.data.getD []) value.encoding
          ++ [(cString "revstat", .bool value.revstat)])))] := by
  rw [serializeSecOptToCbor, serializeInternal_eq _ h]
  rfl

lemma encodingOfName_name (h : encoding ≠ .unknown) :
    encodingOfName (cString (encodingName encoding)) = encoding := by
  cases encoding with
  | unknown => exact absurd rfl h
  | _ => simp [encodingOfName, encodingName, encodingValueToString]

lemma eachEntry_keyEntries (key : OicSecKey) (data : List UInt8) (h : encoding ≠ .unknown) :
    eachEntry deserializeEncodingFromCborInternal key (keyEntries data encoding)
      = (⟨some data, encoding⟩, none) := by
  have hname := encodingOfName_name h
  by_cases hbytes : encoding = .der ∨ encoding = .raw
  · simp [keyEntries, eachEntry, deserializeEncodingFromCborInternal, textItem, hname, hbytes]
  · simp [keyEntries, eachEntry, deserializeEncodingFromCborInternal, textItem, hname, hbytes]

lemma deserializeEncoding_encoded (key : OicSecKey) {value : OicSecKey}
    (h : value.encoding ≠ .unknown) :
    deserializeEncodingFromCbor key
        (some (.map (flatten (keyEntries (value.data.getD []) value.encoding))))
      = (⟨some (value.data.getD []), value.encoding⟩, none) := by
  rw [deserializeEncodingFromCbor]
  simp [Item.content, walk_flatten, eachEntry_keyEntries key _ h]

lemma deserializeSecOpt_encoded (outs : Nat → OicSecKey) (opt : OicSecOpt) {value : OicSecOpt}
    (h : value.encoding ≠ .unknown) :
    deserializeSecOptFromCbor outs opt
        (some (.map (flatten (keyEntries (value.data.getD []) value.encoding
          ++ [(cString "revstat", .bool value.revstat)]))))
      = (⟨(outs 2).data, (outs 2).encoding, value.revstat⟩, none) := by
  have hname := encodingOfName_name h
  rw [deserializeSecOptFromCbor]
  simp only [bind_some, Item.content, walk_flatten]
  by_cases hbytes : value.encoding = .der ∨ value.encoding = .raw
  · simp [keyEntries, eachEntry, deserializeSecOptEntry, deserializeEncodingFromCborInternal,
      textItem, hname, hbytes]
  simp [keyEntries, eachEntry, deserializeSecOptEntry, deserializeEncodingFromCborInternal,
    textItem, hname, hbytes]

def roleEntries (role : OicSecRole) : List CredEntry :=
  (cString "role", textItem role.id)
    :: if role.authority ≠ "" then [(cString "authority", textItem role.authority)] else []

lemma roleIdEntry_eq {role : OicSecRole} (h : role.id ≠ "") :
    roleIdEntry role = some [(cString "roleid", .map (flatten (roleEntries role)))] := by
  have hrole : isNonEmptyRole role = true := by simp [isNonEmptyRole, h]
  rw [roleIdEntry, if_pos hrole, roleEntries]
  split
  · rfl
  · rfl

lemma decodeRole_encoded {role : OicSecRole} (hid : role.id ≠ "")
    (hlen : strlen role.id < roleIdSize) (hauthority : strlen role.authority < roleIdSize) :
    decodeRole ⟨"", ""⟩ (some (.map (flatten (roleEntries role)))) = (role, none) := by
  obtain ⟨id, authority⟩ := role
  have hlen' : ¬ (cString id).length ≥ roleIdSize := Nat.not_le.mpr hlen
  have hauthority' : ¬ (cString authority).length ≥ roleIdSize := Nat.not_le.mpr hauthority
  rw [decodeRole]
  simp only [bind_some, Item.content, walk_flatten]
  by_cases hempty : authority = ""
  · simp [roleEntries, eachEntry, decodeRoleKey, textItem, hlen', hempty, hid]
  · simp [roleEntries, eachEntry, decodeRoleKey, textItem, hlen', hauthority', hempty, hid]

/-! ## Credentials -/

/-- The keys of a credential have a known encoding and are where its type has them, and
the strings of its role fit their fields. -/
structure OicSecCred.Regular (cred : OicSecCred) : Prop where
  publicData : cred.publicData.data.isSome = true →
    (cred.credType = signedAsymmetricKey ∨ cred.credType = asymmetricKey)
      ∧ cred.publicData.encoding ≠ .unknown
  optionalData : cred.optionalData.data.isSome = true →
    cred.credType = signedAsymmetricKey ∧ cred.optionalData.encoding ≠ .unknown
  privateData : cred.privateData.data.isSome = true → cred.privateData.encoding ≠ .unknown
  roleId : strlen cred.roleId.id < roleIdSize
  authority : strlen cred.roleId.authority < roleIdSize

def OicSecKey.kept (key : OicSecKey) : OicSecKey := if key.data.isSome then key else .zero

def OicSecOpt.kept (opt : OicSecOpt) : OicSecOpt := if opt.data.isSome then opt else .zero

def OicSecCred.shown (secureFlag : Bool) (cred : OicSecCred) : OicSecCred :=
  { cred with
    publicData := cred.publicData.kept
    optionalData := cred.optionalData.kept
    privateData := if secureFlag then .zero else cred.privateData.kept }

def OicSecCred.readBack (outs : Nat → OicSecKey) (secureFlag : Bool) (cred : OicSecCred) :
    OicSecCred :=
  { cred.shown secureFlag with
    roleId := if isNonEmptyRole cred.roleId then cred.roleId else ⟨"", ""⟩
    optionalData := if cred.optionalData.data.isSome then
      ⟨(outs 2).data, (outs 2).encoding, cred.optionalData.revstat⟩ else .zero }

def keyEntry (name : String) (key : OicSecKey) : List CredEntry :=
  if key.data.isSome then
    [(cString name, .map (flatten (keyEntries (key.data.getD []) key.encoding)))]
  else []

def optEntry (opt : OicSecOpt) : List CredEntry :=
  if opt.data.isSome then
    [(cString "optionaldata", .map (flatten (keyEntries (opt.data.getD []) opt.encoding
      ++ [(cString "revstat", .bool opt.revstat)])))]
  else []

def roleEntry (role : OicSecRole) : List CredEntry :=
  if isNonEmptyRole role then [(cString "roleid", .map (flatten (roleEntries role)))] else []

def credEntries (secureFlag : Bool) (cred : OicSecCred) : List CredEntry :=
  [(cString "credid", .int cred.credId.toNat)]
    ++ ([(cString "subjectuuid", textItem (subjectText cred.subject))]
    ++ (roleEntry cred.roleId
    ++ ([(cString "credtype", .int cred.credType.toNat)]
    ++ (keyEntry "publicdata" cred.publicData
    ++ (optEntry cred.optionalData
    ++ (stringEntry "credusage" cred.credUsage
    ++ (keyEntry "privatedata" (if secureFlag then .zero else cred.privateData)
    ++ (stringEntry "period" cred.period
    ++ stringEntry "x.org.iotivity.eowneruuid" (cred.eownerID.map convertUuidToStr)))))))))

section Encoded

variable {cred : OicSecCred}

lemma hasPublicData_eq (h : cred.Regular) :
    hasPublicData cred = cred.publicData.data.isSome := by
  rw [hasPublicData]
  rcases hdata : cred.publicData.data.isSome
  · rw [Bool.and_false]
  have htype := (h.publicData hdata).1
  simp [htype]

lemma hasOptionalData_eq (h : cred.Regular) :
    hasOptionalData cred = cred.optionalData.data.isSome := by
  rw [hasOptionalData]
  rcases hdata : cred.optionalData.data.isSome
  · rw [Bool.and_false]
  · simp [(h.optionalData hdata).1]

lemma publicDataEntry_eq (h : cred.Regular) :
    publicDataEntry cred = some (keyEntry "publicdata" cred.publicData) := by
  rw [publicDataEntry, hasPublicData_eq h, keyEntry]
  split
  · rename_i hdata
    exact serializeEncodingToCbor_eq _ (h.publicData hdata).2
  · rfl

lemma optionalDataEntry_eq (h : cred.Regular) :
    optionalDataEntry cred = some (optEntry cred.optionalData) := by
  rw [optionalDataEntry, hasOptionalData_eq h, optEntry]
  split
  · rename_i hdata
    exact serializeSecOptToCbor_eq _ (h.optionalData hdata).2
  · rfl

lemma privateDataEntry_eq (secureFlag : Bool) (h : cred.Regular) :
    privateDataEntry secureFlag cred
      = some (keyEntry "privatedata" (if secureFlag then .zero else cred.privateData)) := by
  cases secureFlag with
  | true => rfl
  | false =>
    rw [privateDataEntry, hasPrivateData, Bool.not_false, Bool.true_and,
        if_neg Bool.false_ne_true, keyEntry]
    split
    · rename_i hdata
      exact serializeEncodingToCbor_eq _ (h.privateData hdata)
    · rfl

lemma roleIdEntry_roleEntry (role : OicSecRole) : roleIdEntry role = some (roleEntry role) := by
  by_cases hid : role.id = ""
  · have hrole : ¬ isNonEmptyRole role = true := by simp [isNonEmptyRole, hid]
    rw [roleIdEntry, if_neg hrole, roleEntry, if_neg hrole]
  have hrole : isNonEmptyRole role = true := by simp [isNonEmptyRole, hid]
  rw [roleIdEntry_eq hid, roleEntry, if_pos hrole]

lemma length_credEntries (secureFlag : Bool) (h : cred.Regular) :
    (credEntries secureFlag cred).length = credMapSize secureFlag cred := by
  have hstring : ∀ name (s : Option String),
      (stringEntry name s).length = if s.isSome then 1 else 0 := by
    intro name s
    cases s <;> rfl
  have hkey : ∀ name (key : OicSecKey),
      (keyEntry name key).length = if key.data.isSome then 1 else 0 := by
    intro name key
    rw [keyEntry]
    split <;> rfl
  have hopt : (optEntry cred.optionalData).length
      = if cred.optionalData.data.isSome then 1 else 0 := by
    rw [optEntry]
    split <;> rfl
  have hrole : (roleEntry cred.roleId).length = if isNonEmptyRole cred.roleId then 1 else 0 := by
    rw [roleEntry]
    split <;> rfl
  have hprivate : (if secureFlag then OicSecKey.zero else cred.privateData).data.isSome
      = hasPrivateData secureFlag cred := by
    cases secureFlag <;> rfl
  simp only [credEntries, List.length_append, hstring, hkey, hopt, hrole, hprivate,
    List.length_cons, List.length_nil, credMapSize, hasPublicData_eq h, hasOptionalData_eq h,
    isSome_map]
  omega

lemma encodeCred_eq (secureFlag : Bool) (h : cred.Regular) :
    encodeCred secureFlag cred = some (.map (flatten (credEntries secureFlag cred))) := by
  have hclosed := closeMap_eq (length_credEntries secureFlag h)
  rw [encodeCred, roleIdEntry_roleEntry, publicDataEntry_eq h, optionalDataEntry_eq h,
    privateDataEntry_eq secureFlag h, ← hclosed]
  simp [credEntries]

end Encoded

section Decoded

variable (outs : Nat → OicSecKey) (c : OicSecCred)

lemma eachEntry_credid (credId : UInt16) :
    eachEntry (decodeCredKey outs) c [(cString "credid", .int credId.toNat)]
      = ({ c with credId := credId }, none) := by
  have hid : UInt16.ofInt (credId.toNat : Int) = credId := by
    have hlt := credId.toNat_lt
    have hmod : ((credId.toNat : Int) % 2 ^ 16).toNat = credId.toNat := by omega
    rw [UInt16.ofInt, hmod, UInt16.ofNat_toNat]
  have hpos : (0 : Int) ≤ credId.toNat := Int.natCast_nonneg _
  simp [eachEntry, decodeCredKey, hid, hpos]

lemma eachEntry_credtype (credType : UInt32) :
    eachEntry (decodeCredKey outs) c [(cString "credtype", .int credType.toNat)]
      = ({ c with credType := credType }, none) := by
  have htype : UInt32.ofInt (credType.toNat : Int) = credType := by
    have hlt := credType.toNat_lt
    have hmod : ((credType.toNat : Int) % 2 ^ 32).toNat = credType.toNat := by omega
    rw [UInt32.ofInt, hmod, UInt32.ofNat_toNat]
  have hpos : (0 : Int) ≤ credType.toNat := Int.natCast_nonneg _
  simp [eachEntry, decodeCredKey, htype, hpos]

lemma convertBytesToUuid_text (uuid : OicUuid) :
    convertBytesToUuid (cString (convertUuidToStr uuid)) = some uuid :=
  convertStrToUuid_convertUuidToStr uuid

lemma convertUuidToStr_ne_star (uuid : OicUuid) : convertUuidToStr uuid ≠ "*" := by
  intro h
  have huuid := convertBytesToUuid_text uuid
  rw [h] at huuid
  have hnone : convertBytesToUuid (cString "*") = none := by decide
  rw [hnone] at huuid
  cases huuid

lemma eachEntry_subject (subject : OicUuid) (hc : c.subject = OicUuid.nil) :
    eachEntry (decodeCredKey outs) c [(cString "subjectuuid", textItem (subjectText subject))]
      = ({ c with subject := subject }, none) := by
  by_cases hwild : subject = wildcardSubjectId
  · have hset : (⟨c.subject.id.set 0 42 uuidLength_pos⟩ : OicUuid) = subject := by
      rw [hwild, hc]
      rfl
    simp [eachEntry, decodeCredKey, textItem, subjectText, hwild]
    rw [← hwild]
    exact hset
  simp [eachEntry, decodeCredKey, textItem, subjectText, hwild, convertUuidToStr_ne_star,
    convertBytesToUuid_text]

lemma eachEntry_role (role : OicSecRole) (hc : c.roleId = ⟨"", ""⟩)
    (hid : strlen role.id < roleIdSize) (hauthority : strlen role.authority < roleIdSize) :
    eachEntry (decodeCredKey outs) c (roleEntry role)
      = ({ c with roleId := if isNonEmptyRole role then role else ⟨"", ""⟩ }, none) := by
  rw [roleEntry]
  split
  · rename_i hrole
    have hne : role.id ≠ "" := by simpa [isNonEmptyRole] using hrole
    simp [eachEntry, decodeCredKey, hc, decodeRole_encoded hne hid hauthority]
  · rw [eachEntry, ← hc]

lemma eachEntry_publicdata (key : OicSecKey) (hc : c.publicData = .zero)
    (h : key.data.isSome = true → key.encoding ≠ .unknown) :
    eachEntry (decodeCredKey outs) c (keyEntry "publicdata" key)
      = ({ c with publicData := key.kept }, none) := by
  rw [keyEntry, OicSecKey.kept]
  split
  · rename_i hdata
    obtain ⟨data, hsome⟩ := isSome_iff_exists.mp hdata
    simp [eachEntry, decodeCredKey, deserializeEncoding_encoded _ (h hdata)]
    rw [hsome, getD_some, ← hsome]
  · rw [eachEntry, ← hc]

lemma eachEntry_privatedata (key : OicSecKey) (hc : c.privateData = .zero)
    (h : key.data.isSome = true → key.encoding ≠ .unknown) :
    eachEntry (decodeCredKey outs) c (keyEntry "privatedata" key)
      = ({ c with privateData := key.kept }, none) := by
  rw [keyEntry, OicSecKey.kept]
  split
  · rename_i hdata
    obtain ⟨data, hsome⟩ := isSome_iff_exists.mp hdata
    simp [eachEntry, decodeCredKey, deserializeEncoding_encoded _ (h hdata)]
    rw [hsome, getD_some, ← hsome]
  · rw [eachEntry, ← hc]

lemma eachEntry_shownPrivatedata (secureFlag : Bool) (key : OicSecKey)
    (hc : c.privateData = .zero) (h : key.data.isSome = true → key.encoding ≠ .unknown) :
    eachEntry (decodeCredKey outs) c (keyEntry "privatedata" (if secureFlag then .zero else key))
      = ({ c with privateData := if secureFlag then .zero else key.kept }, none) := by
  cases secureFlag with
  | true => exact eachEntry_privatedata outs c .zero hc (absurd · Bool.false_ne_true)
  | false => exact eachEntry_privatedata outs c key hc h

lemma eachEntry_optionaldata (opt : OicSecOpt) (hc : c.optionalData = .zero)
    (h : opt.data.isSome = true → opt.encoding ≠ .unknown) :
    eachEntry (decodeCredKey outs) c (optEntry opt)
      = ({ c with optionalData := if opt.data.isSome then
          ⟨(outs 2).data, (outs 2).encoding, opt.revstat⟩ else .zero }, none) := by
  rw [optEntry]
  split
  · rename_i hdata
    simp [eachEntry, decodeCredKey, deserializeSecOpt_encoded outs _ (h hdata)]
  · rw [eachEntry, ← hc]

lemma eachEntry_credusage (credUsage : Option String) (hc : c.credUsage = none) :
    eachEntry (decodeCredKey outs) c (stringEntry "credusage" credUsage)
      = ({ c with credUsage := credUsage }, none) := by
  cases credUsage with
  | none => rw [stringEntry, map_none, toList_none, eachEntry, ← hc]
  | some s => simp [stringEntry, eachEntry, decodeCredKey, textItem]

lemma eachEntry_period (period : Option String) (hc : c.period = none) :
    eachEntry (decodeCredKey outs) c (stringEntry "period" period)
      = ({ c with period := period }, none) := by
  cases period with
  | none => rw [stringEntry, map_none, toList_none, eachEntry, ← hc]
  | some s => simp [stringEntry, eachEntry, decodeCredKey, textItem]

lemma eachEntry_eowner (eownerID : Option OicUuid) (hc : c.eownerID = none) :
    eachEntry (decodeCredKey outs) c
        (stringEntry "x.org.iotivity.eowneruuid" (eownerID.map convertUuidToStr))
      = ({ c with eownerID := eownerID }, none) := by
  cases eownerID with
  | none => rw [stringEntry, map_none, map_none, toList_none, eachEntry, ← hc]
  | some uuid => simp [stringEntry, eachEntry, decodeCredKey, textItem, convertBytesToUuid_text]

end Decoded

variable {cred : OicSecCred}

lemma eachEntry_credEntries (outs : Nat → OicSecKey) (secureFlag : Bool) (h : cred.Regular) :
    eachEntry (decodeCredKey outs) emptyCred (credEntries secureFlag cred)
      = (cred.readBack outs secureFlag, none) := by
  rw [credEntries, eachEntry_append (eachEntry_credid _ _ _),
    eachEntry_append (eachEntry_subject _ _ _ rfl),
    eachEntry_append (eachEntry_role _ _ _ rfl h.roleId h.authority),
    eachEntry_append (eachEntry_credtype _ _ _),
    eachEntry_append (eachEntry_publicdata _ _ _ rfl (fun hdata => (h.publicData hdata).2)),
    eachEntry_append (eachEntry_optionaldata _ _ _ rfl (fun hdata => (h.optionalData hdata).2)),
    eachEntry_append (eachEntry_credusage _ _ _ rfl),
    eachEntry_append (eachEntry_shownPrivatedata _ _ secureFlag _ rfl h.privateData),
    eachEntry_append (eachEntry_period _ _ _ rfl), eachEntry_eowner _ _ _ rfl]
  rfl

/-! ## Lists -/

def credArray (secureFlag : Bool) (creds : List OicSecCred) : CredItem :=
  .array (creds.map (fun cred => .map (flatten (credEntries secureFlag cred))))

def credListItem (secureFlag : Bool) (rownerId : OicUuid) (creds : List OicSecCred) : CredItem :=
  .map (flatten [(cString "creds", credArray secureFlag creds),
    (cString "rowneruuid", textItem (convertUuidToStr rownerId)),
    (cString "rt", .array [textItem "oic.r.cred"]),
    (cString "if", .array [textItem "oic.if.baseline"])])

section Lists

variable {creds : List OicSecCred} (hreg : ∀ cred ∈ creds, cred.Regular)

include hreg

lemma credPayload_eq (secureFlag : Bool) (rownerId : OicUuid) :
    credPayload creds (some rownerId) secureFlag true
      = some (credListItem secureFlag rownerId creds) := by
  have hitems := mapM_some (fun cred hcred => encodeCred_eq secureFlag (hreg cred hcred))
  have harray := closeArray_length
    (creds.map (fun cred => Item.map (flatten (credEntries secureFlag cred))))
  rw [List.length_map] at harray
  rw [credPayload, hitems]
  simp only [bind, bind_some, harray]
  rfl

lemma each_decodeCred (outs : Nat → Nat → OicSecKey) (secureFlag : Bool) :
    each (decodeCred outs emptyCred) []
        (creds.map (fun cred => Item.map (flatten (credEntries secureFlag cred))))
      = (creds.mapIdx (fun i cred => cred.readBack (outs i) secureFlag), none) := by
  have hread : ∀ read, ∀ cred ∈ creds,
      decodeCred outs emptyCred read (.map (flatten (credEntries secureFlag cred)))
        = (read ++ [cred.readBack (outs read.length) secureFlag], none) := by
    intro read cred hcred
    rw [decodeCred, ite_self]
    simp [Item.content, walk_flatten, eachEntry_credEntries _ _ (hreg cred hcred)]
  rw [each_map [] hread, Prod.mk.injEq]
  refine ⟨?_, rfl⟩
  -- the number of credentials read so far is the index of the next one
  induction creds using List.reverseRecOn with
  | nil => rfl
  | append_singleton creds cred ih =>
    have ih := ih (fun c hc => hreg c (List.mem_append_left _ hc))
      (fun read c hc => hread read c (List.mem_append_left _ hc))
    rw [List.foldl_append, ih, List.foldl_cons, List.foldl_nil, List.length_mapIdx,
      List.mapIdx_concat]

lemma decode_encoded (hne : creds ≠ []) (outs : Nat → Nat → OicSecKey) (secureFlag : Bool)
    (rownerId : OicUuid) :
    cborPayloadToCred outs (credListItem secureFlag rownerId creds)
      = .ok (creds.mapIdx (fun i cred => cred.readBack (outs i) secureFlag), some rownerId) := by
  have heach := each_decodeCred hreg outs secureFlag
  have hread : creds.mapIdx (fun i cred => cred.readBack (outs i) secureFlag) ≠ [] := by
    rwa [Ne, List.mapIdx_eq_nil_iff]
  obtain ⟨headCred, rest, hcons⟩ := List.exists_cons_of_ne_nil hread
  rw [hcons] at heach ⊢
  rw [credListItem, cborPayloadToCred]
  simp only [Item.content, walk_flatten]
  simp [eachEntry, decodeCredRootKey, credArray, Item.content, heach, textItem,
    convertBytesToUuid_text]

end Lists

/-! ## The round trip -/

def OicSecCred.withoutPrivateData (cred : OicSecCred) : OicSecCred :=
  { cred with privateData := .zero }

lemma credPayload_secure (creds : List OicSecCred) (rownerId : Option OicUuid)
    (includeRowner : Bool) :
    credPayload creds rownerId true includeRowner
      = credPayload (creds.map OicSecCred.withoutPrivateData) rownerId true includeRowner := by
  have hitems : creds.mapM (encodeCred true)
      = (creds.map OicSecCred.withoutPrivateData).mapM (encodeCred true) := by
    induction creds with
    | nil => rfl
    | cons cred creds ih =>
      have hcred : encodeCred true cred.withoutPrivateData = encodeCred true cred := rfl
      rw [List.map_cons, List.mapM_cons, List.mapM_cons, ih, hcred]
  rw [credPayload, credPayload, hitems, List.length_map]

/-- Encoding and decoding gives the list and its owner; with the secure flag without private data,
of which nothing is in the payload. -/
def CredRoundTrips (outs : Nat → Nat → OicSecKey) (secureFlag : Bool) (cborSize : Nat)
    (rownerId : OicUuid) (creds : List OicSecCred) : Prop :=
  (∃ payload, credToCBORPayloadPartial creds (some rownerId) cborSize secureFlag true = some payload
    ∧ cborPayloadToCred outs payload = .ok (creds.map (OicSecCred.shown secureFlag), some rownerId))
  ∧ (secureFlag = true → credToCBORPayloadPartial creds (some rownerId) cborSize true true
      = credToCBORPayloadPartial (creds.map OicSecCred.withoutPrivateData) (some rownerId)
          cborSize true true)

def bufferSize (cborSize : Nat) : Nat := if cborSize = 0 then cborSizeDefault else cborSize

/-- When a list comes back: it fits the buffer, no role has an authority only, and where there are
optional data the variable `out` of the last entry holds them. -/
structure ComesBack (outs : Nat → Nat → OicSecKey) (secureFlag : Bool) (cborSize : Nat)
    (rownerId : OicUuid) (creds : List OicSecCred) : Prop where
  fits : (credListItem secureFlag rownerId creds).size List.length ≤ bufferSize cborSize
  roles : ∀ cred ∈ creds, cred.roleId.id = "" → cred.roleId.authority = ""
  optionalData : ∀ i (hi : i < creds.length), creds[i].optionalData.data.isSome = true →
    outs i 2 = ⟨creds[i].optionalData.data, creds[i].optionalData.encoding⟩

lemma encode_owned {creds : List OicSecCred} (hreg : ∀ cred ∈ creds, cred.Regular)
    (cborSize : Nat) (secureFlag : Bool) (rownerId : OicUuid) :
    credToCBORPayloadPartial creds (some rownerId) cborSize secureFlag true
      = if (credListItem secureFlag rownerId creds).size List.length ≤ bufferSize cborSize then
          some (credListItem secureFlag rownerId creds) else none := by
  have hretry : credPayload creds none secureFlag true = none := by
    rcases hitems : creds.mapM (encodeCred secureFlag) with _ | items
    · rw [credPayload, hitems]
      rfl
    rcases harray : closeArray creds.length items with _ | array
    · simp [credPayload, hitems, harray]
    · simp [credPayload, hitems, rownerEntry]
  rw [credToCBORPayloadPartial, credPayload_eq hreg, hretry]
  rfl

lemma readBack_eq_iff {outs : Nat → OicSecKey} {secureFlag : Bool} :
    cred.readBack outs secureFlag = cred.shown secureFlag
      ↔ (cred.roleId.id = "" → cred.roleId.authority = "")
        ∧ (cred.optionalData.data.isSome = true →
          outs 2 = ⟨cred.optionalData.data, cred.optionalData.encoding⟩) := by
  obtain ⟨credId, subject, ⟨id, authority⟩, credType, publicData, credUsage,
    ⟨data, encoding, revstat⟩, privateData, period, eownerID⟩ := cred
  simp only [OicSecCred.readBack, OicSecCred.shown, OicSecOpt.kept, OicSecCred.mk.injEq, true_and,
    and_true, isNonEmptyRole]
  refine and_congr ?_ ?_
  · by_cases hid : id = ""
    · simp [hid, eq_comm]
    · simp [hid]
  · rcases hout : outs 2 with ⟨data', encoding'⟩
    by_cases hdata : data.isSome = true
    · simp [hdata]
    · simp [hdata]

/-- **When a list of credentials comes back.** -/
theorem cred_round_trip_iff {creds : List OicSecCred} (hne : creds ≠ [])
    (hreg : ∀ cred ∈ creds, cred.Regular) (outs : Nat → Nat → OicSecKey) (secureFlag : Bool)
    (cborSize : Nat) (rownerId : OicUuid) :
    CredRoundTrips outs secureFlag cborSize rownerId creds
      ↔ ComesBack outs secureFlag cborSize rownerId creds := by
  have hsecure : credToCBORPayloadPartial creds (some rownerId) cborSize true true
      = credToCBORPayloadPartial (creds.map OicSecCred.withoutPrivateData) (some rownerId)
          cborSize true true := by
    rw [credToCBORPayloadPartial, credToCBORPayloadPartial, credPayload_secure,
      credPayload_secure creds none]
  have hdecoded := decode_encoded hreg hne outs secureFlag rownerId
  have hlists : creds.mapIdx (fun i cred => cred.readBack (outs i) secureFlag)
        = creds.map (OicSecCred.shown secureFlag)
      ↔ ∀ i (hi : i < creds.length),
          creds[i].readBack (outs i) secureFlag = creds[i].shown secureFlag := by
    rw [List.ext_getElem_iff]
    simp only [List.length_mapIdx, List.length_map, List.getElem_mapIdx, List.getElem_map, true_and]
    exact ⟨fun h i hi => h i hi hi, fun h i hi _ => h i hi⟩
  rw [CredRoundTrips, encode_owned hreg, and_iff_left (fun _ => hsecure)]
  constructor
  · rintro ⟨payload, hpayload, hdecode⟩
    by_cases hfits : (credListItem secureFlag rownerId creds).size List.length ≤ bufferSize cborSize
    · rw [if_pos hfits, Option.some.injEq] at hpayload
      rw [← hpayload, hdecoded, Except.ok.injEq, Prod.mk.injEq, hlists] at hdecode
      have hback := fun i hi => readBack_eq_iff.mp (hdecode.1 i hi)
      refine ⟨hfits, ?_, fun i hi => (hback i hi).2⟩
      intro cred hcred
      obtain ⟨i, hi, rfl⟩ := List.getElem_of_mem hcred
      exact (hback i hi).1
    rw [if_neg hfits] at hpayload
    cases hpayload
  · rintro ⟨hfits, hroles, hopt⟩
    refine ⟨_, if_pos hfits, ?_⟩
    rw [hdecoded, Except.ok.injEq, Prod.mk.injEq, hlists]
    refine ⟨fun i hi => readBack_eq_iff.mpr ⟨?_, hopt i hi⟩, rfl⟩
    exact hroles _ (List.getElem_mem hi)

def pairwiseCred : OicSecCred :=
  { emptyCred with
    credId := 1
    credType := symmetricPairWiseKey
    privateData := ⟨some [170, 187], .raw⟩ }

lemma pairwiseCred_regular : pairwiseCred.Regular where
  publicData := fun h => absurd h Bool.false_ne_true
  optionalData := fun h => absurd h Bool.false_ne_true
  privateData := fun _ h => OicEncodingType.noConfusion h
  roleId := by decide
  authority := by decide

theorem cred_round_trip_pairwise :
    CredRoundTrips (fun _ _ => .zero) false 0 OicUuid.nil [pairwiseCred] := by
  refine (cred_round_trip_iff (List.cons_ne_nil _ _) ?_ _ false 0 OicUuid.nil).mpr ⟨?_, ?_, ?_⟩
  · intro cred hcred
    rw [List.mem_singleton.mp hcred]
    exact pairwiseCred_regular
  · decide
  · intro cred hcred _
    rw [List.mem_singleton.mp hcred]
    rfl
  · intro i hi hdata
    have hzero : i = 0 := Nat.lt_one_iff.mp hi
    subst hzero
    exact absurd hdata Bool.false_ne_true

def certificateCred : OicSecCred :=
  { emptyCred with
    credId := 1
    credType := signedAsymmetricKey
    publicData := ⟨some (List.replicate 2048 48), .der⟩ }

lemma certificateCred_regular : certificateCred.Regular where
  publicData := fun _ => ⟨Or.inl rfl, fun h => OicEncodingType.noConfusion h⟩
  optionalData := fun h => absurd h Bool.false_ne_true
  privateData := fun h => absurd h Bool.false_ne_true
  roleId := by decide
  authority := by decide

lemma publicdata_mem (secureFlag : Bool) (h : cred.publicData.data.isSome = true) :
    (cString "publicdata", .map (flatten (keyEntries (cred.publicData.data.getD [])
      cred.publicData.encoding))) ∈ credEntries secureFlag cred := by
  have hentry : keyEntry "publicdata" cred.publicData = [_] := if_pos h
  rw [credEntries, hentry]
  simp

lemma certificate_lt_size {secureFlag : Bool} {creds : List OicSecCred} {data : List UInt8}
    (rownerId : OicUuid) (hcred : cred ∈ creds) (hdata : cred.publicData.data = some data)
    (hder : cred.publicData.encoding = .der) :
    data.length < (credListItem secureFlag rownerId creds).size List.length := by
  have hbytes : data.length ≤ (Item.bytes (τ := List UInt8) data).size List.length :=
    Nat.le_add_left _ _
  have hkey : (Item.bytes data).size List.length
      < (Item.map (flatten (keyEntries data .der))).size List.length :=
    size_lt_of_mem_content _ rfl (mem_flatten (List.mem_cons_of_mem _ List.mem_cons_self))
  have hmem := publicdata_mem secureFlag (show cred.publicData.data.isSome = true from hdata ▸ rfl)
  rw [hdata, hder, getD_some] at hmem
  have hentries : (Item.map (flatten (keyEntries data .der))).size List.length
      < (Item.map (flatten (credEntries secureFlag cred))).size List.length :=
    size_lt_of_mem_content _ rfl (mem_flatten hmem)
  have harray : (Item.map (flatten (credEntries secureFlag cred))).size List.length
      < (credArray secureFlag creds).size List.length :=
    size_lt_of_mem_content _ rfl (List.mem_map_of_mem hcred)
  have hlist : (credArray secureFlag creds).size List.length
      < (credListItem secureFlag rownerId creds).size List.length :=
    size_lt_of_mem_content _ rfl (mem_flatten List.mem_cons_self)
  omega

lemma certificate_only : ∀ cred ∈ [certificateCred], cred.Regular := by
  intro cred hcred
  rw [List.mem_singleton.mp hcred]
  exact certificateCred_regular

lemma certificate_outgrows :
    ¬ (credListItem false OicUuid.nil [certificateCred]).size List.length ≤ bufferSize 0 := by
  have hsize : (List.replicate 2048 (48 : UInt8)).length
      < (credListItem false OicUuid.nil [certificateCred]).size List.length :=
    certificate_lt_size OicUuid.nil (List.mem_singleton_self certificateCred) rfl rfl
  have hbuffer : bufferSize 0 = 2048 := rfl
  rw [List.length_replicate] at hsize
  rw [hbuffer]
  exact Nat.not_le.mpr hsize

theorem certificateCred_lost :
    ¬ ∃ outs, CredRoundTrips outs false 0 OicUuid.nil [certificateCred] := by
  rintro ⟨outs, ⟨payload, hpayload, -⟩, -⟩
  rw [encode_owned certificate_only, if_neg certificate_outgrows] at hpayload
  cases hpayload

end

open Option

variable {cborSize calls : Nat} {payload : CredItem} {uuid : OicUuid}

/-! ## The calls -/

/-- How one call ends: with a payload, with an error, or by another call with a buffer
of so many bytes. -/
inductive CredAttempt
  | written (payload : CredItem)
  | failed
  | outOfMemory (cborLen : Nat)

def sizeBeforeRowner (creds : List OicSecCred) (secureFlag : Bool) : Option Nat := do
  let items ← creds.mapM (encodeCred secureFlag)
  let array ← closeArray creds.length items
  return headSize 4 + sizes List.length
    (flatten [(cString "creds", array)] ++ [textItem "rowneruuid"])

/-- One call of `CredToCBORPayloadPartial`, up to the next. -/
def credAttempt (creds : List OicSecCred) (rownerId : Option OicUuid) (cborSize : Nat)
    (secureFlag : Bool) (includeRowner : Bool) : CredAttempt :=
  let cborLen := bufferSize cborSize
  match credPayload creds rownerId secureFlag includeRowner with
  | some payload =>
    if payload.size List.length ≤ cborLen then .written payload
    -- `cbor_encoder_get_buffer_size` from a null pointer gives what is missing
    else .outOfMemory (cborLen + (payload.size List.length - cborLen))
  | none =>
    if rownerId = none ∧ includeRowner = true then
      match sizeBeforeRowner creds secureFlag with
      | none => .failed
      | some size =>
        if size ≤ cborLen then .failed
        -- the root map is still open, its encoder has counted nothing, and its end
        -- is `cborLen` bytes behind its start
        else .outOfMemory 0
    else .failed

/-- `CredToCBORPayloadPartial` with its calls of itself, at most so many. `none` is for
more of them, and then comes the result. -/
def credCalls : Nat → List OicSecCred → Option OicUuid → Nat → Bool → Bool →
    Option (Option CredItem)
  | 0, _, _, _, _, _ => none
  | calls + 1, creds, rownerId, cborSize, secureFlag, includeRowner =>
    match credAttempt creds rownerId cborSize secureFlag includeRowner with
    | .written payload => some (some payload)
    | .failed => some none
    -- the owner is not handed on
    | .outOfMemory cborLen => credCalls calls creds none cborLen secureFlag includeRowner

section Calls

variable {creds : List OicSecCred} {rownerId : Option OicUuid} {secureFlag includeRowner : Bool}

lemma eq_of_closeMap {declared : Nat} {entries : List CredEntry} {item : CredItem}
    (h : closeMap declared entries = some item) : item = .map (flatten entries) := by
  rw [closeMap] at h
  split at h
  · exact (some.inj h).symm
  · cases h

lemma credPayload_some (h : credPayload creds rownerId secureFlag includeRowner = some payload) :
    ∃ items array rowner, creds.mapM (encodeCred secureFlag) = some items
      ∧ closeArray creds.length items = some array
      ∧ rownerEntry rownerId includeRowner = some rowner
      ∧ payload = .map (flatten ([(cString "creds", array)] ++ rowner
        ++ [(cString "rt", .array [textItem "oic.r.cred"]),
          (cString "if", .array [textItem "oic.if.baseline"])])) := by
  simp only [credPayload, bind, bind_eq_some_iff] at h
  obtain ⟨items, hitems, array, harray, rowner, hrowner, rt, hrt, interface, hinterface, hmap⟩ := h
  refine ⟨items, array, rowner, hitems, harray, hrowner, ?_⟩
  obtain rfl := some.inj hrt
  obtain rfl := some.inj hinterface
  exact eq_of_closeMap hmap

lemma credPayload_null : credPayload creds none secureFlag true = none := by
  rcases hpayload : credPayload creds none secureFlag true with _ | payload
  · rfl
  obtain ⟨_, _, _, _, _, hrowner, _⟩ := credPayload_some hpayload
  cases hrowner

lemma sizeBeforeRowner_le (h : credPayload creds (some uuid) secureFlag true = some payload) :
    ∃ size, sizeBeforeRowner creds secureFlag = some size ∧ size ≤ payload.size List.length := by
  obtain ⟨items, array, rowner, hitems, harray, hrowner, rfl⟩ := credPayload_some h
  refine ⟨_, by simp only [sizeBeforeRowner, hitems, bind, bind_some, harray]; rfl, ?_⟩
  obtain rfl := some.inj hrowner
  have hhead : headSize ((0 + 1 + 1 + 1 + 1 + 1 + 1 + 1 + 1) / 2) = headSize 4 := rfl
  simp only [Item.size, flatten, List.flatMap_cons, List.flatMap_nil, List.append_nil,
    List.cons_append, List.nil_append, List.length_cons, List.length_nil, sizes, textItem, hhead]
  omega

lemma size_pos (item : CredItem) : 0 < item.size List.length := by
  have hhead : ∀ n, 0 < headSize n := by
    intro n
    unfold headSize
    split_ifs <;> omega
  cases item with
  | int n => exact hhead _
  | bytes | text | array | map => exact Nat.add_pos_left (hhead _) _
  | double _ => exact Nat.succ_pos _
  | bool _ => exact Nat.one_pos
  | null => exact Nat.one_pos
  | other => exact Nat.one_pos

lemma bufferSize_pos (h : 0 < cborSize) : bufferSize cborSize = cborSize :=
  if_neg (Nat.pos_iff_ne_zero.mp h)

lemma credAttempt_some (h : credPayload creds rownerId secureFlag includeRowner = some payload) :
    credAttempt creds rownerId cborSize secureFlag includeRowner
      = if payload.size List.length ≤ bufferSize cborSize then .written payload
        else .outOfMemory (payload.size List.length) := by
  rw [credAttempt, h]
  simp only
  split_ifs with hfits
  · rfl
  · rw [Nat.add_sub_cancel' (Nat.le_of_not_le hfits)]

lemma credAttempt_none (h : credPayload creds (some uuid) secureFlag includeRowner = none) :
    credAttempt creds (some uuid) cborSize secureFlag includeRowner = .failed := by
  rw [credAttempt, h]
  simp

lemma credAttempt_null
    (h : ∀ size, sizeBeforeRowner creds secureFlag = some size → size ≤ bufferSize cborSize) :
    credAttempt creds none cborSize secureFlag true = .failed := by
  rw [credAttempt, credPayload_null]
  simp only [true_and, if_true]
  rcases hsize : sizeBeforeRowner creds secureFlag with _ | size
  · rfl
  · simp [h, hsize]

lemma calls_failed (h : credPayload creds (some uuid) secureFlag includeRowner = none) :
    credCalls (calls + 1) creds (some uuid) cborSize secureFlag includeRowner = some none := by
  rw [credCalls, credAttempt_none h]

lemma calls_fits (h : credPayload creds rownerId secureFlag includeRowner = some payload)
    (hfits : payload.size List.length ≤ bufferSize cborSize) :
    credCalls (calls + 1) creds rownerId cborSize secureFlag includeRowner
      = some (some payload) := by
  rw [credCalls, credAttempt_some h, if_pos hfits]

lemma calls_retry (h : credPayload creds (some uuid) secureFlag includeRowner = some payload)
    (hlarge : ¬ payload.size List.length ≤ bufferSize cborSize) :
    credCalls (calls + 2) creds (some uuid) cborSize secureFlag includeRowner
      = some (if includeRowner then none else some payload) := by
  have hbuffer := bufferSize_pos (size_pos payload)
  rw [credCalls, credAttempt_some h, if_neg hlarge]
  simp only
  cases includeRowner with
  | false =>
    have hnull : credPayload creds none secureFlag false = some payload := h
    rw [calls_fits hnull hbuffer.ge]
    rfl
  | true =>
    obtain ⟨size, hsize, hle⟩ := sizeBeforeRowner_le h
    rw [credCalls, credAttempt_null]
    · rfl
    · intro size' hsize'
      rw [hsize] at hsize'
      obtain rfl := some.inj hsize'
      rwa [hbuffer]

/-- **At most two calls**, with the result of `credToCBORPayloadPartial`. -/
theorem calls_eq (uuid : OicUuid) (cborSize calls : Nat) :
    credCalls (calls + 2) creds (some uuid) cborSize secureFlag includeRowner
      = some (credToCBORPayloadPartial creds (some uuid) cborSize secureFlag includeRowner) := by
  rcases hpayload : credPayload creds (some uuid) secureFlag includeRowner with _ | payload
  · rw [calls_failed hpayload, credToCBORPayloadPartial, hpayload]
    rfl
  by_cases hfits : payload.size List.length ≤ bufferSize cborSize
  · rw [calls_fits hpayload hfits, credToCBORPayloadPartial, hpayload]
    exact congrArg some (if_pos hfits).symm
  rw [calls_retry hpayload hfits, credToCBORPayloadPartial, hpayload]
  have hnull : credPayload creds none secureFlag includeRowner
      = if includeRowner then none else some payload := by
    cases includeRowner with
    | false => exact hpayload
    | true => exact credPayload_null
  rw [← hnull]
  exact congrArg some (if_neg hfits).symm

end Calls

/-! ## Lists that can be encoded -/

structure OicSecCred.Encodable (secureFlag : Bool) (cred : OicSecCred) : Prop where
  publicData : hasPublicData cred = true → cred.publicData.encoding ≠ .unknown
  optionalData : hasOptionalData cred = true → cred.optionalData.encoding ≠ .unknown
  privateData : hasPrivateData secureFlag cred = true → cred.privateData.encoding ≠ .unknown

section Encodable

variable {secureFlag : Bool} {cred : OicSecCred}

lemma member_cases {written : Bool} {encoding : OicEncodingType}
    {entry : Option (List CredEntry)} (hunknown : encoding = .unknown → entry = none)
    (hknown : encoding ≠ .unknown → ∃ e, entry = some [e]) :
    (written = true ∧ encoding = .unknown ∧ (if written then entry else some []) = none)
      ∨ (written = true → encoding ≠ .unknown)
        ∧ ∃ entries, (if written then entry else some []) = some entries
          ∧ entries.length = if written then 1 else 0 := by
  cases written with
  | false => exact .inr ⟨fun h => absurd h Bool.false_ne_true, [], rfl, rfl⟩
  | true =>
    by_cases h : encoding = .unknown
    · exact .inl ⟨rfl, h, hunknown h⟩
    obtain ⟨e, he⟩ := hknown h
    exact .inr ⟨fun _ => h, [e], he, rfl⟩

lemma serializeInternal_unknown (data : List UInt8) :
    serializeEncodingToCborInternal data .unknown = none := rfl

lemma keyMember_cases (written : Bool) (tag : String) (key : OicSecKey) :
    (written = true ∧ key.encoding = .unknown
        ∧ (if written then serializeEncodingToCbor tag key else some []) = none)
      ∨ (written = true → key.encoding ≠ .unknown)
        ∧ ∃ entries, (if written then serializeEncodingToCbor tag key else some []) = some entries
          ∧ entries.length = if written then 1 else 0 := by
  apply member_cases
  · intro h
    rw [serializeEncodingToCbor, h, serializeInternal_unknown]
    rfl
  · exact fun h => ⟨_, serializeEncodingToCbor_eq tag h⟩

lemma optMember_cases (written : Bool) (tag : String) (opt : OicSecOpt) :
    (written = true ∧ opt.encoding = .unknown
        ∧ (if written then serializeSecOptToCbor tag opt else some []) = none)
      ∨ (written = true → opt.encoding ≠ .unknown)
        ∧ ∃ entries, (if written then serializeSecOptToCbor tag opt else some []) = some entries
          ∧ entries.length = if written then 1 else 0 := by
  apply member_cases
  · intro h
    rw [serializeSecOptToCbor, h, serializeInternal_unknown]
    rfl
  · exact fun h => ⟨_, serializeSecOptToCbor_eq tag h⟩

lemma length_stringEntry (name : String) (s : Option String) :
    (stringEntry name s).length = if s.isSome then 1 else 0 := by
  cases s <;> rfl

lemma length_roleEntry (role : OicSecRole) :
    (roleEntry role).length = if isNonEmptyRole role then 1 else 0 := by
  rw [roleEntry]
  split <;> rfl

lemma encodeCred_isSome_iff :
    (encodeCred secureFlag cred).isSome = true ↔ cred.Encodable secureFlag := by
  have hpublic := keyMember_cases (hasPublicData cred) "publicdata" cred.publicData
  have hoptional := optMember_cases (hasOptionalData cred) "optionaldata" cred.optionalData
  have hprivate := keyMember_cases (hasPrivateData secureFlag cred) "privatedata" cred.privateData
  rw [← publicDataEntry] at hpublic
  rw [← optionalDataEntry] at hoptional
  rw [← privateDataEntry] at hprivate
  rw [encodeCred, roleIdEntry_roleEntry]
  rcases hpublic with ⟨hw, hunknown, hnone⟩ | ⟨hknown, publicData, hpublic, hlen⟩
  · simp only [hnone, bind, bind_some, bind_none, isSome_none, Bool.false_eq_true, false_iff]
    exact fun h => h.publicData hw hunknown
  rcases hoptional with ⟨hw, hunknown, hnone⟩ | ⟨hknown', optionalData, hoptional, hlen'⟩
  · simp only [hpublic, hnone, bind, bind_some, bind_none, isSome_none,
      Bool.false_eq_true, false_iff]
    exact fun h => h.optionalData hw hunknown
  rcases hprivate with ⟨hw, hunknown, hnone⟩ | ⟨hknown'', privateData, hprivate, hlen''⟩
  · simp only [hpublic, hoptional, hnone, bind, bind_some, bind_none,
      isSome_none, Bool.false_eq_true, false_iff]
    exact fun h => h.privateData hw hunknown
  simp only [hpublic, hoptional, hprivate, bind, bind_some]
  rw [closeMap_eq]
  · simp only [isSome_some, true_iff]
    exact ⟨hknown, hknown', hknown''⟩
  · simp only [List.length_append, List.length_cons, List.length_nil, length_roleEntry,
      length_stringEntry, hlen, hlen', hlen'', credMapSize, isSome_map]
    omega

end Encodable

variable {α β : Type} {f : α → Option β} {l : List α}

lemma mapM_isSome_iff : (l.mapM f).isSome = true ↔ ∀ a ∈ l, (f a).isSome = true := by
  induction l with
  | nil => simp
  | cons a l ih =>
    rw [List.mapM_cons, List.forall_mem_cons, ← ih]
    cases f a with
    | none => simp
    | some b => cases l.mapM f <;> simp

lemma mapM_length {l' : List β} (h : l.mapM f = some l') : l'.length = l.length := by
  induction l generalizing l' with
  | nil =>
    obtain rfl := some.inj h
    rfl
  | cons a l ih =>
    rw [List.mapM_cons] at h
    simp only [bind, bind_eq_some_iff] at h
    obtain ⟨b, _, rest, hrest, heq⟩ := h
    obtain rfl := some.inj heq
    rw [List.length_cons, List.length_cons, ih hrest]

lemma credPayload_isSome_iff {creds : List OicSecCred} {secureFlag includeRowner : Bool} :
    (credPayload creds (some uuid) secureFlag includeRowner).isSome = true
      ↔ ∀ cred ∈ creds, cred.Encodable secureFlag := by
  have hitems : (creds.mapM (encodeCred secureFlag)).isSome = true
      ↔ ∀ cred ∈ creds, cred.Encodable secureFlag := by
    rw [mapM_isSome_iff]
    simp [encodeCred_isSome_iff]
  rw [← hitems, credPayload]
  rcases hm : creds.mapM (encodeCred secureFlag) with _ | items
  · simp
  have hlen := mapM_length hm
  cases includeRowner <;> simp [closeArray, hlen, rownerEntry, closeMap]

/-! ## The first buffer -/

/-- Whatever the first buffer, the calls end with the payload that they end with in any
buffer that is large enough. -/
def EncodedAlike (creds : List OicSecCred) (rownerId : Option OicUuid) (secureFlag : Bool)
    (includeRowner : Bool) (cborSize : Nat) : Prop :=
  ∃ payload, (∃ calls, credCalls calls creds rownerId cborSize secureFlag includeRowner
      = some (some payload))
    ∧ ∃ enough, ∀ large, enough ≤ large →
      ∃ calls, credCalls calls creds rownerId large secureFlag includeRowner = some (some payload)

lemma credCalls_mono {more : Nat} {creds : List OicSecCred} {rownerId : Option OicUuid}
    {secureFlag includeRowner : Bool} {result : Option CredItem}
    (h : credCalls calls creds rownerId cborSize secureFlag includeRowner = some result)
    (hle : calls ≤ more) :
    credCalls more creds rownerId cborSize secureFlag includeRowner = some result := by
  induction calls generalizing more rownerId cborSize with
  | zero => cases h
  | succ calls ih =>
    obtain ⟨more, rfl⟩ : ∃ n, more = n + 1 := ⟨more - 1, by omega⟩
    rw [credCalls] at h ⊢
    split at h
    · exact h
    · exact h
    · exact ih h (by omega)

/-- **Which lists are encoded alike in every buffer.** -/
theorem any_buffer_iff (creds : List OicSecCred) (rownerId : OicUuid) (secureFlag : Bool)
    (includeRowner : Bool) (cborSize : Nat) :
    EncodedAlike creds (some rownerId) secureFlag includeRowner cborSize
      ↔ (∀ cred ∈ creds, cred.Encodable secureFlag)
        ∧ (includeRowner = true →
          ∀ payload, credPayload creds (some rownerId) secureFlag true = some payload →
            payload.size List.length ≤ bufferSize cborSize) := by
  rw [← @credPayload_isSome_iff rownerId creds secureFlag includeRowner]
  rcases hpayload : credPayload creds (some rownerId) secureFlag includeRowner with _ | payload
  · -- an error in every buffer
    simp only [isSome_none, Bool.false_eq_true, false_and, iff_false]
    rintro ⟨payload, ⟨calls, hcalls⟩, _⟩
    have hmore := credCalls_mono hcalls (Nat.le_succ calls)
    rw [calls_failed hpayload] at hmore
    cases hmore
  simp only [isSome_some, true_and]
  have hlarge : ∀ large, payload.size List.length ≤ large →
      credCalls 1 creds (some rownerId) large secureFlag includeRowner = some (some payload) := by
    intro large hle
    have hpos := (size_pos payload).trans_le hle
    exact calls_fits hpayload (by rwa [bufferSize_pos hpos])
  constructor
  · rintro ⟨payload', ⟨calls, hcalls⟩, _⟩ rfl payload'' hpayload''
    rw [hpayload] at hpayload''
    obtain rfl := some.inj hpayload''
    by_contra hnot
    have hmore := credCalls_mono hcalls (Nat.le_add_right calls 2)
    rw [calls_retry hpayload hnot] at hmore
    cases hmore
  · intro hfits
    refine ⟨payload, ?_, payload.size List.length, fun large hle => ⟨1, hlarge large hle⟩⟩
    by_cases hsize : payload.size List.length ≤ bufferSize cborSize
    · exact ⟨1, calls_fits hpayload hsize⟩
    refine ⟨2, ?_⟩
    have hretry := @calls_retry cborSize 0 _ _ _ _ _ hpayload hsize
    rw [hretry]
    cases includeRowner with
    | false => rfl
    | true => exact absurd (hfits rfl payload hpayload) hsize

theorem certificateCred_buffer :
    ¬ EncodedAlike [certificateCred] (some OicUuid.nil) false true 0 := by
  rw [EncodedAlike]
  rintro ⟨payload, ⟨calls, hcalls⟩, _⟩
  have hmore := credCalls_mono hcalls (Nat.le_add_right calls 2)
  rw [calls_retry (credPayload_eq certificate_only false OicUuid.nil) certificate_outgrows] at hmore
  cases hmore

end Iochibity.Sec
