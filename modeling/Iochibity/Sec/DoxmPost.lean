/-
`HandleDoxmPostRequest` of `doxmresource.c` with all that it writes: `gDoxm`, in either build, and
the storage.
-/
import Iochibity.Sec.AssertedStates

namespace Iochibity.Sec

open CborLookup

section

structure Build where
  multipleOwner : Bool
  oicMultipleOwnerDisable : UInt32
  oicPreconfigPin : UInt32
  motStatusDone : UInt32

structure OicSecSubOwner where
  uuid : OicUuid
  status : UInt32
  deriving DecidableEq

/-- `OicSecDoxm_t` with the fields of `MULTIPLE_OWNER`, which stay `NULL` without it. -/
structure FullDoxm where
  base : OicSecDoxm
  mom : Option UInt32
  subOwners : List OicSecSubOwner
  deriving DecidableEq

variable (build : Build)

def doxmAccessModes (p : DoxmProperty) : AccessRow :=
  if build.multipleOwner ∧ p = .oxmsel then ⟨accessR, accessRW, accessRW, accessR, accessR⟩
  else gDoxmPropertyAccessModes p

/-- The rows for `mom` and for the sub-owners. -/
def momAccessModes : AccessRow := ⟨accessRW, accessRW, accessRW, accessRW, accessRW⟩

/-! ## Reading an update -/

/-- The part of `CBORPayloadToDoxmBin` that both builds have. An error of the
parser counts only when it meets the last key. -/
def readDoxm (readOnly : DoxmProperty → Bool) (find : String → Found) (gDoxm : OicSecDoxm) :
    Except ReadEnd (OicSecDoxm × Bool × Bool) := do
  let uuid key := (find key).text?.map readUuid
  let oxm ← readOxms (find "oxms") gDoxm (readOnly .oxms)
  let oxmSel ← readProperty ((find "oxmsel").integer?.map .ok) gDoxm.oxmSel (readOnly .oxmsel)
  let sct ← readProperty ((find "sct").integer?.map .ok) gDoxm.sct (readOnly .sct)
  let owned ← readProperty ((find "owned").boolean?.map .ok) gDoxm.owned (readOnly .owned)
  let deviceID ← readProperty (uuid "deviceuuid") gDoxm.deviceID (readOnly .deviceuuid)
  let owner ← readProperty (uuid "devowneruuid") gDoxm.owner (readOnly .devowneruuid)
  let rownerID ← readProperty (uuid "rowneruuid") gDoxm.rownerID (readOnly .rowneruuid)
  if find "rowneruuid" = .error then .error .failed
  else
    return (⟨oxm.1, oxmSel.1, sct.1, owned.1, deviceID.1, owner.1, rownerID.1⟩,
      oxm.2 || oxmSel.2 || sct.2 || owned.2 || deviceID.2 || owner.2 || rownerID.2,
      (find "oxmsel").integer?.isSome)

/-- The property `mom`. -/
def readMom (found : Found) (mom : Option UInt32) (readOnly : Bool) : Option UInt32 × Bool :=
  match found.integer? with
  | some mode => (some mode, readOnly)
  | none => (mom, false)

def subOwnerLoop : List Scalar → Except ReadEnd (List OicUuid)
  | .text s :: rest =>
    match readUuid s with
    | .error e => .error e
    | .ok uuid =>
      if rest.head? = some .malformed then .error .failed
      else (subOwnerLoop rest).map (uuid :: ·)
  | _ => .ok []

def readSubOwners (found : Found) (subOwners : List OicSecSubOwner)
    (readOnly : Bool) : Except ReadEnd (List OicSecSubOwner × Bool) :=
  match found.array? with
  | none => .ok (subOwners.map (⟨·.uuid, build.motStatusDone⟩), false)
  | some (none, _) => .error .failed
  | some (some subOwnerLen, items) =>
    if subOwnerLen = 0 ∨ items.head? = some .malformed then .error .failed
    else (subOwnerLoop items).map (fun uuids =>
      (uuids.map (⟨·, build.motStatusDone⟩), readOnly))

/-- `CBORPayloadToDoxmBin` of a build: the update, `roParsed` and `oxmselParsed`. `MULTIPLE_OWNER`
is read before `rowneruuid`, and every error is the same. -/
def readFullDoxm (payload : Payload) (gDoxm : FullDoxm)
    (stateForReadOnlyCheck : OicSecDeviceOnboardingState) :
    Except ReadEnd (FullDoxm × Bool × Bool) :=
  match payload with
  | .notMap => .error .aborts
  | .map _ find => do
      let readOnly p := permissionRead == (doxmAccessModes build p).mode stateForReadOnlyCheck
      let readOnlyMom := permissionRead == momAccessModes.mode stateForReadOnlyCheck
      let (base, mark, oxmselParsed) ← readDoxm readOnly find gDoxm.base
      if build.multipleOwner then
        let mom := readMom (find "x.org.iotivity.mom") gDoxm.mom readOnlyMom
        let subOwners ← readSubOwners build (find "x.org.iotivity.subowneruuid") gDoxm.subOwners
          readOnlyMom
        return (⟨base, mom.1, subOwners.1⟩, mark || mom.2 || subOwners.2, oxmselParsed)
      else return (⟨base, none, []⟩, mark, oxmselParsed)

lemma cborPayloadToDoxmBin_eq (enters : Bool) (find : String → Found) (gDoxm : OicSecDoxm)
    (s : OicSecDeviceOnboardingState) :
    cborPayloadToDoxmBin (.map enters find) gDoxm s
      = readDoxm (isDoxmPropertyReadOnly · s) find gDoxm :=
  rfl

/-- What `DoxmToCBORPayload` writes. The method is left out when none is supported. -/
structure StoredDoxm where
  oxm : List UInt32
  oxmSel : Option UInt32
  sct : UInt32
  owned : Bool
  deviceID : OicUuid
  owner : OicUuid
  rownerID : OicUuid
  mom : Option UInt32
  subOwners : List OicUuid
  deriving DecidableEq

def doxmToCBORPayload (doxm : FullDoxm) : StoredDoxm where
  oxm := doxm.base.oxm
  oxmSel := if doxm.base.oxm = [] then none else some doxm.base.oxmSel
  sct := doxm.base.sct
  owned := doxm.base.owned
  deviceID := doxm.base.deviceID
  owner := doxm.base.owner
  rownerID := doxm.base.rownerID
  mom := doxm.mom
  subOwners := doxm.subOwners.map (·.uuid)

inductive DoxmWrite
  | ok
  | failed (left : Option StoredDoxm)

structure DoxmStore where
  gDoxm : Option FullDoxm
  stored : Option StoredDoxm

/-- `HandleDoxmPostRequestUpdatePS`; its argument is always false here. -/
def handleDoxmPostRequestUpdatePS (write : DoxmWrite) (gDoxm : FullDoxm) :
    OCEntityHandlerResult × DoxmStore :=
  match write with
  | .ok => (.ok, ⟨some gDoxm, some (doxmToCBORPayload gDoxm)⟩)
  | .failed left => (.error, ⟨some gDoxm, left⟩)

/-! ## The handler -/

/-- How the calls of one request go: those of the transfer, the two of `HandleDoxmPostRequestMom`
for cipher suites, and the write. -/
structure DoxmWorld where
  transfer : TransferWorld
  momEnableAnonECDHCipherSuite : Bool
  momSelectCipherSuite : Bool
  write : DoxmWrite

def updateWriteableProperty (src dst : FullDoxm) : FullDoxm :=
  { dst with
    base := doxmUpdateWriteableProperty src.base dst.base
    mom := if build.multipleOwner ∧ src.mom.isSome then src.mom else dst.mom }

variable (world : DoxmWorld)

/-- `HandleDoxmPostRequestMom` leaves early: a cipher suite cannot be set up. -/
def momLeaves (gDoxm : FullDoxm) : Bool :=
  match gDoxm.mom with
  | none => false
  | some mode =>
    mode != build.oicMultipleOwnerDisable
      && (gDoxm.base.oxmSel == build.oicPreconfigPin || gDoxm.base.oxmSel == oicRandomDevicePin)
      && !(world.momEnableAnonECDHCipherSuite && world.momSelectCipherSuite)

def handleDoxmPostRequestMom (newDoxm gDoxm : FullDoxm) : FullDoxm :=
  if momLeaves build world gDoxm then gDoxm
  else if newDoxm.subOwners = [] then gDoxm
  else { gDoxm with subOwners := newDoxm.subOwners }

/-- The end of `HandleDoxmPostRequest`, for an update that is accepted. -/
def applyDoxm (dosState : OicSecDeviceOnboardingState) (newDoxm : FullDoxm) (oxmselParsed : Bool)
    (gDoxm : FullDoxm) (stored : Option StoredDoxm) : OCEntityHandlerResult × DoxmStore :=
  let updated := updateWriteableProperty build newDoxm gDoxm
  let start :=
    if oxmselParsed ∧ dosState = .rfotm then
      startOwnershipTransfer world.transfer newDoxm.base updated.base
    else (.ok, updated.base)
  let started := { updated with base := start.2 }
  -- what has been updated stays when the transfer is refused
  if start.1 ≠ .ok then (start.1, ⟨some started, stored⟩)
  else
    let final :=
      if build.multipleOwner then handleDoxmPostRequestMom build world newDoxm started else started
    handleDoxmPostRequestUpdatePS world.write final

/-- `HandleDoxmPostRequest`: the code it answers with. -/
def handleFullDoxmPost (payload : Option Payload) (dosState : Option OicSecDeviceOnboardingState)
    (store : DoxmStore) : Option (OCEntityHandlerResult × DoxmStore) :=
  match payload, store.gDoxm, dosState with
  | some payload, some gDoxm, some dosState =>
    if dosState = .reset ∨ dosState = .rfnop then some (.notAcceptable, store)
    else
      match readFullDoxm build payload gDoxm dosState with
      | .error .aborts => none
      | .error .failed => some (.internalServerError, store)
      | .ok (_, true, _) => some (.notAcceptable, store)
      | .ok (newDoxm, false, oxmselParsed) =>
        if ¬ validateOxmsel gDoxm.base.oxm newDoxm.base.oxmSel then
          some (.notAcceptable, store)
        else
          some (applyDoxm build world dosState newDoxm oxmselParsed gDoxm store.stored)
  | _, _, _ => some (.internalServerError, store)

end

def textUuids : List SentItem → Option (List OicUuid)
  | [] => some []
  | .text s :: rest => do
      let uuid ← s.bind convertStrToUuid
      let uuids ← textUuids rest
      return uuid :: uuids
  | _ => none

def sentSubOwners : Sent → Option (List OicUuid)
  | .array _ items => textUuids items
  | _ => none

def MomRight (sent : Sent) (current value : Option UInt32) : Prop :=
  match sent with
  | .integer n => ∃ mode, value = some mode ∧ Stands mode n
  | _ => value = current

def FullDoxm.subOwnerUuids (doxm : FullDoxm) : List OicUuid := doxm.subOwners.map (·.uuid)

structure Overridden (build : Build) (find : String → Sent) (old new : FullDoxm) : Prop where
  oxms : new.base.oxm = old.base.oxm
  oxmsel : IntRight (find "oxmsel") old.base.oxmSel new.base.oxmSel
  sct : new.base.sct = old.base.sct
  owned : BoolRight (find "owned") old.base.owned new.base.owned
  deviceuuid : UuidRight (find "deviceuuid") old.base.deviceID new.base.deviceID
  devowneruuid : UuidRight (find "devowneruuid") old.base.owner new.base.owner
  rowneruuid : UuidRight (find "rowneruuid") old.base.rownerID new.base.rownerID
  mom : if build.multipleOwner then MomRight (find "x.org.iotivity.mom") old.mom new.mom
    else new.mom = old.mom
  subOwners : if build.multipleOwner then
      new.subOwnerUuids
        = (sentSubOwners (find "x.org.iotivity.subowneruuid")).getD old.subOwnerUuids
    else new.subOwners = old.subOwners

/-- A request that is answered leaves `gDoxm` alone, or it does what it says, in
memory and in the storage. -/
def AllOrNothing (build : Build) (payload : SentPayload) (store : DoxmStore)
    (call : Option (OCEntityHandlerResult × DoxmStore)) : Prop :=
  ∀ code after, call = some (code, after) → (code ≠ .ok → after.gDoxm = store.gDoxm)
      ∧ (code = .ok → ∃ enters find old new, payload = .map enters find
        ∧ store.gDoxm = some old ∧ Overridden build find old new
        ∧ after.gDoxm = some new ∧ after.stored = some (doxmToCBORPayload new))

/-! ## When it happens -/

def TransferFails (world : TransferWorld) (doxm : OicSecDoxm) : Prop :=
  -- the anonymous cipher suite for an unowned device
  (doxm.oxmSel = oicJustWorks ∧ isNilUuid doxm.owner = true ∧ doxm.owned = false
      ∧ world.enableAnonECDHCipherSuite = false)
    -- the owner's key, or the user's answer to the number
    ∨ (doxm.oxmSel = oicMvJustWorks ∧ isNilUuid doxm.owner = false ∧ doxm.owned = false
      ∧ (world.generateOwnerPSK = false ∨ world.verifyOwnershipTransfer = false))
    -- the PIN
    ∨ (doxm.oxmSel = oicRandomDevicePin ∧ isNilUuid doxm.owner = true
      ∧ world.enableAnonECDHCipherSuite = true ∧ world.selectCipherSuite = true
      ∧ world.generatePin = false)
    -- the user's answer to a certificate
    ∨ (doxm.oxmSel = oicConMfgCert ∧ isNilUuid doxm.owner = false ∧ doxm.owned = false
      ∧ world.verifyOwnershipTransfer = false)

instance (world : TransferWorld) (doxm : OicSecDoxm) : Decidable (TransferFails world doxm) :=
  inferInstanceAs (Decidable (_ ∨ _ ∨ _ ∨ _))

def NothingNew (build : Build) (new old : FullDoxm) : Prop :=
  new.base.oxmSel = old.base.oxmSel ∧ new.base.owned = old.base.owned
    ∧ new.base.deviceID = old.base.deviceID ∧ new.base.owner = old.base.owner
    ∧ new.base.rownerID = old.base.rownerID
    ∧ (build.multipleOwner = true → new.mom = old.mom)

section

variable (build : Build) (world : DoxmWorld)

def TakesSubOwners (new old : FullDoxm) : Prop :=
  build.multipleOwner = true
    ∧ momLeaves build world (updateWriteableProperty build new old) = false ∧ new.subOwners ≠ []

instance (build : Build) (world : DoxmWorld) (new old : FullDoxm) :
    Decidable (TakesSubOwners build world new old) :=
  inferInstanceAs (Decidable (_ ∧ _ ∧ _))

def frontUuids : List SentItem → List OicUuid
  | .text s :: rest =>
    match s.bind convertStrToUuid with
    | some uuid => uuid :: frontUuids rest
    | none => []
  | _ => []

def readUuids (sent : Sent) (current : List OicUuid) : List OicUuid :=
  match sent with
  | .array _ items => frontUuids items
  | _ => current

def SubOwnersFit (sent : Sent) (new old : FullDoxm) : Prop :=
  match sent with
  | .array _ items =>
    match textUuids items with
    | some uuids => TakesSubOwners build world new old ∨ uuids = old.subOwnerUuids
    | none => ¬ TakesSubOwners build world new old ∨ frontUuids items = old.subOwnerUuids
  | _ => True

/-- The request gets as far as `DoxmUpdateWriteableProperty`. -/
structure DoxmAccepted (build : Build) (payload : SentPayload)
    (dosState : Option OicSecDeviceOnboardingState) (store : DoxmStore) (enters : Bool)
    (find : String → Sent) (state : OicSecDeviceOnboardingState) (old new : FullDoxm)
    (oxmselParsed : Bool) : Prop where
  payload : payload = .map enters find
  gDoxm : store.gDoxm = some old
  dosState : dosState = some state
  writable : state ≠ .reset ∧ state ≠ .rfnop
  read : readFullDoxm build (.map enters (fun key => (find key).read)) old state
    = .ok (new, false, oxmselParsed)
  oxmsel : validateOxmsel old.base.oxm new.base.oxmSel = true

/-- An accepted update does no harm: it brings nothing new when the transfer is refused or the write
fails; else its integers fit, and the sub-owners are those sent. -/
def UpdateFits (find : String → Sent) (state : OicSecDeviceOnboardingState) (old new : FullDoxm)
    (oxmselParsed : Bool) : Prop :=
  if oxmselParsed = true ∧ state = .rfotm ∧ TransferFails world.transfer new.base then
    NothingNew build new old
  else
    match world.write with
    | .failed _ => NothingNew build new old
      ∧ (TakesSubOwners build world new old → new.subOwners = old.subOwners)
    | .ok => (∀ n, find "oxmsel" = .integer n → FitsBits n)
      ∧ (build.multipleOwner = true → (∀ n, find "x.org.iotivity.mom" = .integer n → FitsBits n)
          ∧ SubOwnersFit build world (find "x.org.iotivity.subowneruuid") new old)

def DoxmFits (payload : SentPayload) (dosState : Option OicSecDeviceOnboardingState)
    (store : DoxmStore) : Prop :=
  ∀ enters find state old new oxmselParsed,
    DoxmAccepted build payload dosState store enters find state old new oxmselParsed →
      UpdateFits build world find state old new oxmselParsed

end

/-! ## What is read -/

section Read

variable {find : String → Sent}

variable {mark : Bool}

variable {oxmselParsed : Bool}

lemma readDoxm_right {readOnly : DoxmProperty → Bool} {old new : OicSecDoxm}
    (h : readDoxm readOnly (fun key => (find key).read) old = .ok (new, mark, oxmselParsed)) :
    (IntRight (find "oxmsel") old.oxmSel new.oxmSel ↔ ∀ n, find "oxmsel" = .integer n → FitsBits n)
      ∧ BoolRight (find "owned") old.owned new.owned
      ∧ UuidRight (find "deviceuuid") old.deviceID new.deviceID
      ∧ UuidRight (find "devowneruuid") old.owner new.owner
      ∧ UuidRight (find "rowneruuid") old.rownerID new.rownerID := by
  simp only [readDoxm, bind_ok_iff] at h
  obtain ⟨⟨oxm, oxmMark⟩, -, ⟨oxmSel, selMark⟩, hsel, ⟨sct, sctMark⟩, -,
    ⟨owned, ownedMark⟩, howned, ⟨deviceID, deviceMark⟩, hdevice, ⟨owner, ownerMark⟩, howner,
    ⟨rownerID, rownerMark⟩, hrowner, hreturn⟩ := h
  split at hreturn
  · cases hreturn
  simp only [pure, Except.pure, Except.ok.injEq, Prod.mk.injEq] at hreturn
  rw [← hreturn.1]
  exact ⟨intRight_iff hsel, boolRight howned, uuidRight hdevice, uuidRight howner,
    uuidRight hrowner⟩

lemma readMom_right (sent : Sent) (old : Option UInt32) (readOnly : Bool) :
    (MomRight sent old (readMom sent.read old readOnly).1 ↔ ∀ n, sent = .integer n → FitsBits n)
      ∧ ((readMom sent.read old readOnly).1 = none → old = none) := by
  rcases sent with _ | _ | b | n | s | ⟨length, items⟩ | items | _
  case integer =>
    refine ⟨?_, fun hnone => absurd hnone (Option.some_ne_none _)⟩
    rw [MomRight, Sent.read, readMom]
    simp [Found.integer?, stands_lowBits]
  all_goals
    refine ⟨iff_of_true rfl ?_, id⟩
    intro n hn
    cases hn

variable {items : List SentItem} {uuids : List OicUuid}

lemma subOwnerLoop_front
    (h : subOwnerLoop (items.map SentItem.read) = .ok uuids) : uuids = frontUuids items := by
  induction items generalizing uuids with
  | nil =>
    cases h
    rfl
  | cons item rest ih =>
    rcases item with _ | _ | s | _ | _
    case text =>
      change subOwnerLoop (.text s :: rest.map SentItem.read) = _ at h
      rw [subOwnerLoop, readUuid] at h
      rw [frontUuids]
      rcases hs : s.bind convertStrToUuid with _ | uuid
      · rw [hs] at h
        cases h
      simp only [hs] at h
      split at h
      · cases h
      rcases hrest : subOwnerLoop (rest.map SentItem.read) with e | later
      · rw [hrest] at h
        cases h
      rw [hrest] at h
      cases h
      rw [ih hrest]
    all_goals
      cases h
      rfl

lemma textUuids_front (h : textUuids items = some uuids) : frontUuids items = uuids := by
  induction items generalizing uuids with
  | nil =>
    cases h
    rfl
  | cons item rest ih =>
    rcases item with _ | _ | s | _ | _
    case text =>
      rw [textUuids] at h
      rw [frontUuids]
      rcases hs : s.bind convertStrToUuid with _ | uuid
      · rw [hs] at h
        cases h
      rcases hrest : textUuids rest with _ | later
      · rw [hs, hrest] at h
        cases h
      rw [hs, hrest] at h
      cases h
      simp [ih hrest]
    all_goals cases h

variable {build : Build}

lemma readSubOwners_front {sent : Sent} {old new : List OicSecSubOwner} {readOnly : Bool}
    (h : readSubOwners build sent.read old readOnly = .ok (new, mark)) :
    new.map (·.uuid) = readUuids sent (old.map (·.uuid)) := by
  have hsame (uuids : List OicUuid) :
      (uuids.map (fun uuid => (⟨uuid, build.motStatusDone⟩ : OicSecSubOwner))).map (·.uuid)
        = uuids := by
    rw [List.map_map]
    exact List.map_id _
  rcases sent with _ | _ | b | n | s | ⟨length, items⟩ | items | _
  case array =>
    rcases length with _ | length
    · cases h
    simp only [readSubOwners, Sent.read, Found.array?] at h
    split at h
    · cases h
    rcases hloop : subOwnerLoop (items.map SentItem.read) with e | uuids
    · rw [hloop] at h
      cases h
    rw [hloop] at h
    cases h
    rw [hsame, subOwnerLoop_front hloop, readUuids]
  all_goals
    simp only [readSubOwners, Sent.read, Found.array?, Except.ok.injEq, Prod.mk.injEq] at h
    rw [← h.1, List.map_map]
    rfl

lemma readFullDoxm_ok {enters : Bool} {old new : FullDoxm} {state : OicSecDeviceOnboardingState}
    (h : readFullDoxm build (.map enters (fun key => (find key).read)) old state
      = .ok (new, mark, oxmselParsed)) :
    (∃ readOnly baseMark, readDoxm readOnly (fun key => (find key).read) old.base
        = .ok (new.base, baseMark, oxmselParsed))
      ∧ (build.multipleOwner = true → ∃ readOnly readOnly' subMark,
        new.mom = (readMom (find "x.org.iotivity.mom").read old.mom readOnly).1
          ∧ readSubOwners build (find "x.org.iotivity.subowneruuid").read old.subOwners readOnly'
            = .ok (new.subOwners, subMark)) := by
  simp only [readFullDoxm, bind_ok_iff] at h
  obtain ⟨⟨base, baseMark, sel⟩, hbase, h⟩ := h
  simp only at h
  split at h
  · obtain ⟨⟨subOwners, subMark⟩, hsub, hreturn⟩ := bind_ok_iff.mp h
    simp only [pure, Except.pure, Except.ok.injEq, Prod.mk.injEq] at hreturn
    obtain ⟨rfl, -, rfl⟩ := hreturn
    exact ⟨⟨_, _, hbase⟩, fun _ => ⟨_, _, _, rfl, hsub⟩⟩
  rename_i hnot
  simp only [pure, Except.pure, Except.ok.injEq, Prod.mk.injEq] at h
  obtain ⟨rfl, -, rfl⟩ := h
  exact ⟨⟨_, _, hbase⟩, fun hyes => absurd hyes hnot⟩

end Read

/-! ## What is written -/

variable {world : TransferWorld}

lemma startOTMJustWorks_ne_ok {doxm : OicSecDoxm}
    (h : doxm.oxmSel = oicJustWorks ∨ doxm.oxmSel = oicMvJustWorks) :
    startOTMJustWorks world doxm ≠ .ok ↔ TransferFails world doxm := by
  unfold startOTMJustWorks enableAnonCipherSuiteIfUnOwnedAndJustWorksSelected TransferFails
  -- one case for each owner, flag and method; the calls decide
  rcases hnil : isNilUuid doxm.owner with _ | _ <;> rcases howned : doxm.owned with _ | _ <;>
    rcases h with h | h <;>
    rcases world.enableAnonECDHCipherSuite with _ | _ <;>
    rcases world.generateOwnerPSK with _ | _ <;>
    rcases world.verifyOwnershipTransfer with _ | _ <;>
    simp [h, howned, oicJustWorks, oicMvJustWorks, oicRandomDevicePin, oicConMfgCert]

variable {new old : OicSecDoxm}

lemma randomPin_ne_ok (h : new.oxmSel = oicRandomDevicePin) :
    (handleDoxmPostRequestRandomPin world new old).1 ≠ .ok ↔ TransferFails world new := by
  unfold handleDoxmPostRequestRandomPin TransferFails
  rw [h]
  rcases hnil : isNilUuid new.owner with _ | _ <;>
    rcases world.enableAnonECDHCipherSuite with _ | _ <;>
    rcases world.selectCipherSuite with _ | _ <;> rcases world.generatePin with _ | _ <;>
    simp [oicJustWorks, oicMvJustWorks, oicRandomDevicePin, oicConMfgCert]

lemma mfg_ne_ok (h : new.oxmSel = oicManufacturerCertificate ∨ new.oxmSel = oicConMfgCert) :
    (handleDoxmPostRequestMfg world new old).1 ≠ .ok ↔ TransferFails world new := by
  unfold handleDoxmPostRequestMfg TransferFails
  rcases hnil : isNilUuid new.owner with _ | _ <;> rcases howned : new.owned with _ | _ <;>
    rcases h with h | h <;>
    rcases world.verifyOwnershipTransfer with _ | _ <;>
    simp [h, oicJustWorks, oicMvJustWorks, oicRandomDevicePin, oicConMfgCert,
      oicManufacturerCertificate]

lemma startOwnershipTransfer_ne_ok :
    (startOwnershipTransfer world new (doxmUpdateWriteableProperty new old)).1 ≠ .ok
      ↔ TransferFails world new := by
  unfold startOwnershipTransfer
  split
  · rename_i hjust
    -- what the transfer looks at has just been copied
    have hsame : TransferFails world (doxmUpdateWriteableProperty new old)
        ↔ TransferFails world new := Iff.rfl
    rw [← hsame]
    exact startOTMJustWorks_ne_ok hjust
  split
  · rename_i hpin
    exact randomPin_ne_ok hpin
  split
  · rename_i hcert
    exact mfg_ne_ok hcert
  rename_i hjust hpin hcert
  rw [not_or] at hjust hcert
  simp [TransferFails, hjust, hpin, hcert]

section Update

variable {build : Build} {world : DoxmWorld} {old new : FullDoxm}

lemma updated_eq_iff (hmom : build.multipleOwner = true → new.mom = none → old.mom = none) :
    updateWriteableProperty build new old = old ↔ NothingNew build new old := by
  have hmode : (if build.multipleOwner = true ∧ new.mom.isSome = true then new.mom else old.mom)
        = old.mom ↔ (build.multipleOwner = true → new.mom = old.mom) := by
    by_cases hbuild : build.multipleOwner = true
    · simp only [hbuild, true_and, true_implies]
      rcases hnew : new.mom with _ | mode
      · exact iff_of_true rfl (hmom hbuild hnew).symm
      · exact Iff.rfl
    · simp [hbuild]
  have hsplit : updateWriteableProperty build new old = old
      ↔ doxmUpdateWriteableProperty new.base old.base = old.base
        ∧ (if build.multipleOwner = true ∧ new.mom.isSome = true then new.mom else old.mom)
          = old.mom := by
    constructor
    · intro h
      exact ⟨congrArg FullDoxm.base h, congrArg FullDoxm.mom h⟩
    · rintro ⟨hbase, hmom'⟩
      simp [updateWriteableProperty, hbase, hmom']
  have hbase : doxmUpdateWriteableProperty new.base old.base = old.base
      ↔ new.base.oxmSel = old.base.oxmSel ∧ new.base.owned = old.base.owned
        ∧ new.base.deviceID = old.base.deviceID ∧ new.base.owner = old.base.owner
        ∧ new.base.rownerID = old.base.rownerID := by
    constructor
    · intro h
      exact ⟨(congrArg OicSecDoxm.oxmSel h :), (congrArg OicSecDoxm.owned h :),
        (congrArg OicSecDoxm.deviceID h :), (congrArg OicSecDoxm.owner h :),
        (congrArg OicSecDoxm.rownerID h :)⟩
    · rintro ⟨hsel, howned, hdevice, howner, hrowner⟩
      simp [doxmUpdateWriteableProperty, hsel, howned, hdevice, howner, hrowner]
  rw [hsplit, hbase, hmode, NothingNew]
  simp [and_assoc]

/-- What `HandleDoxmPostRequestMom` makes of the update. -/
def withSubOwners (build : Build) (world : DoxmWorld) (new old : FullDoxm) : FullDoxm :=
  if TakesSubOwners build world new old then
    { updateWriteableProperty build new old with subOwners := new.subOwners }
  else updateWriteableProperty build new old

lemma applyDoxm_eq (state : OicSecDeviceOnboardingState) (oxmselParsed : Bool)
    (stored : Option StoredDoxm) :
    applyDoxm build world state new oxmselParsed old stored
      = if oxmselParsed = true ∧ state = .rfotm ∧ TransferFails world.transfer new.base then
          ((startOwnershipTransfer world.transfer new.base
              (doxmUpdateWriteableProperty new.base old.base)).1,
            ⟨some (updateWriteableProperty build new old), stored⟩)
        else handleDoxmPostRequestUpdatePS world.write (withSubOwners build world new old) := by
  have hmom : (if build.multipleOwner = true then
        handleDoxmPostRequestMom build world new (updateWriteableProperty build new old)
      else updateWriteableProperty build new old) = withSubOwners build world new old := by
    unfold withSubOwners TakesSubOwners handleDoxmPostRequestMom
    by_cases hbuild : build.multipleOwner = true
    · simp only [hbuild, if_true, true_and]
      rcases momLeaves build world (updateWriteableProperty build new old) with _ | _
      · by_cases hnone : new.subOwners = []
        · simp [hnone]
        · simp [hnone]
      · simp
    · simp [hbuild]
  have hcopied := startOwnershipTransfer_doxm world.transfer new.base old.base
  have hcode : (startOwnershipTransfer world.transfer new.base
      (doxmUpdateWriteableProperty new.base old.base)).1 ≠ .ok
        ↔ TransferFails world.transfer new.base := startOwnershipTransfer_ne_ok
  have hbase : (updateWriteableProperty build new old).base
      = doxmUpdateWriteableProperty new.base old.base := rfl
  have hstarted : (⟨doxmUpdateWriteableProperty new.base old.base,
      (updateWriteableProperty build new old).mom,
      (updateWriteableProperty build new old).subOwners⟩ : FullDoxm)
        = updateWriteableProperty build new old := rfl
  by_cases hstart : oxmselParsed = true ∧ state = .rfotm
  · simp only [applyDoxm, if_pos hstart, hbase, hcopied, hstarted, hmom]
    by_cases hrefused : TransferFails world.transfer new.base
    · rw [if_pos (hcode.mpr hrefused), if_pos ⟨hstart.1, hstart.2, hrefused⟩]
    · rw [if_neg (fun h => hrefused (hcode.mp h)), if_neg (hrefused ·.2.2)]
  simp only [applyDoxm, if_neg hstart, hbase, hstarted, hmom]
  rw [if_neg (· rfl), if_neg (fun h => hstart ⟨h.1, h.2.1⟩)]

lemma withSubOwners_eq_iff (hmom : build.multipleOwner = true → new.mom = none → old.mom = none) :
    withSubOwners build world new old = old ↔ NothingNew build new old
        ∧ (TakesSubOwners build world new old → new.subOwners = old.subOwners) := by
  rw [← updated_eq_iff hmom, withSubOwners]
  by_cases htakes : TakesSubOwners build world new old
  · simp only [htakes, if_true, true_implies]
    constructor
    · intro h
      have hsub : new.subOwners = old.subOwners := (congrArg FullDoxm.subOwners h :)
      rw [hsub] at h
      exact ⟨h, hsub⟩
    · rintro ⟨hsame, hsub⟩
      rw [hsame, hsub]
  · simp [htakes]

end Update

/-! ## One accepted update -/

section Update

variable {build : Build} {world : DoxmWorld} {find : String → Sent} {old new : FullDoxm}

lemma subOwnersRight_iff (hread : new.subOwnerUuids
      = readUuids (find "x.org.iotivity.subowneruuid") old.subOwnerUuids) :
    (withSubOwners build world new old).subOwnerUuids
        = (sentSubOwners (find "x.org.iotivity.subowneruuid")).getD old.subOwnerUuids
      ↔ SubOwnersFit build world (find "x.org.iotivity.subowneruuid") new old := by
  have hafter : (withSubOwners build world new old).subOwnerUuids
      = if TakesSubOwners build world new old then new.subOwnerUuids else old.subOwnerUuids := by
    unfold withSubOwners
    split
    · rfl
    · rfl
  rw [hafter, hread]
  rcases find "x.org.iotivity.subowneruuid" with _ | _ | b | n | s | ⟨length, items⟩ | items | _
  case array =>
    rw [sentSubOwners, SubOwnersFit, readUuids]
    rcases htexts : textUuids items with _ | uuids
    · rw [Option.getD_none]
      by_cases htakes : TakesSubOwners build world new old
      · simp [htakes]
      · simp [htakes]
    rw [Option.getD_some, textUuids_front htexts]
    by_cases htakes : TakesSubOwners build world new old
    · simp [htakes]
    · simp [htakes, eq_comm]
  all_goals
    change (if _ then old.subOwnerUuids else old.subOwnerUuids) = old.subOwnerUuids ↔ True
    rw [ite_self]
    simp

variable {enters oxmselParsed : Bool} {state : OicSecDeviceOnboardingState}

variable {mark : Bool}

section

variable
  (h : readFullDoxm build (.map enters (fun key => (find key).read)) old state =
    .ok (new, mark, oxmselParsed))
include h

lemma overridden_iff :
    Overridden build find old (withSubOwners build world new old)
      ↔ (∀ n, find "oxmsel" = .integer n → FitsBits n)
        ∧ (build.multipleOwner = true → (∀ n, find "x.org.iotivity.mom" = .integer n → FitsBits n)
            ∧ SubOwnersFit build world (find "x.org.iotivity.subowneruuid") new old) := by
  obtain ⟨⟨readOnly, baseMark, hbase⟩, hmult⟩ := readFullDoxm_ok h
  obtain ⟨hsel, howned, hdevice, howner, hrowner⟩ := readDoxm_right hbase
  have hafter : (withSubOwners build world new old).base
      = doxmUpdateWriteableProperty new.base old.base := by
    unfold withSubOwners
    split
    · rfl
    · rfl
  have hmode : (withSubOwners build world new old).mom
      = if build.multipleOwner = true ∧ new.mom.isSome = true then new.mom else old.mom := by
    unfold withSubOwners
    split
    · rfl
    · rfl
  have hmult' : build.multipleOwner = true →
      (MomRight (find "x.org.iotivity.mom") old.mom (withSubOwners build world new old).mom
          ↔ ∀ n, find "x.org.iotivity.mom" = .integer n → FitsBits n)
        ∧ ((withSubOwners build world new old).subOwnerUuids
            = (sentSubOwners (find "x.org.iotivity.subowneruuid")).getD old.subOwnerUuids
          ↔ SubOwnersFit build world (find "x.org.iotivity.subowneruuid") new old) := by
    intro hbuild
    obtain ⟨readOnly', readOnlySub, subMark, hmom, hsub⟩ := hmult hbuild
    have hread : new.subOwnerUuids
        = readUuids (find "x.org.iotivity.subowneruuid") old.subOwnerUuids :=
      readSubOwners_front hsub
    refine ⟨?_, subOwnersRight_iff hread⟩
    obtain ⟨hright, hnone⟩ := readMom_right (find "x.org.iotivity.mom") old.mom readOnly'
    rw [← hmom] at hright hnone
    have hkept : (withSubOwners build world new old).mom = new.mom := by
      rw [hmode]
      rcases hnew : new.mom with _ | mode
      · simp [hnone hnew]
      · simp [hbuild]
    rw [hkept]
    exact hright
  have hsubOwners : ¬ build.multipleOwner = true →
      (withSubOwners build world new old).subOwners = old.subOwners := by
    intro hbuild
    rw [withSubOwners, if_neg (hbuild ·.1)]
    rfl
  constructor
  · intro hright
    refine ⟨hsel.mp ?_, fun hbuild => ⟨?_, ?_⟩⟩
    · have hoxmsel := hright.oxmsel
      rw [hafter] at hoxmsel
      exact hoxmsel
    · have hmom := hright.mom
      rw [if_pos hbuild] at hmom
      exact (hmult' hbuild).1.mp hmom
    · have hsub := hright.subOwners
      rw [if_pos hbuild] at hsub
      exact (hmult' hbuild).2.mp hsub
  · rintro ⟨hoxmsel, hmultiple⟩
    refine
      { oxms := ?_, oxmsel := ?_, sct := ?_, owned := ?_, deviceuuid := ?_, devowneruuid := ?_,
        rowneruuid := ?_, mom := ?_, subOwners := ?_ }
    all_goals try rw [hafter]
    · rfl
    · exact hsel.mpr hoxmsel
    · rfl
    · exact howned
    · exact hdevice
    · exact howner
    · exact hrowner
    · by_cases hbuild : build.multipleOwner = true
      · rw [if_pos hbuild]
        exact (hmult' hbuild).1.mpr (hmultiple hbuild).1
      · rw [if_neg hbuild, hmode, if_neg (hbuild ·.1)]
    · by_cases hbuild : build.multipleOwner = true
      · rw [if_pos hbuild]
        exact (hmult' hbuild).2.mpr (hmultiple hbuild).2
      rw [if_neg hbuild]
      exact hsubOwners hbuild

lemma mom_of_read : build.multipleOwner = true → new.mom = none → old.mom = none := by
  intro hbuild
  obtain ⟨readOnly, readOnlySub, subMark, hmom, -⟩ := (readFullDoxm_ok h).2 hbuild
  rw [hmom]
  exact (readMom_right (find "x.org.iotivity.mom") old.mom readOnly).2

end

lemma applied_iff {payload : SentPayload} {dosState : Option OicSecDeviceOnboardingState}
    {store : DoxmStore}
    (h : DoxmAccepted build payload dosState store enters find state old new oxmselParsed) :
    AllOrNothing build payload store
        (some (applyDoxm build world state new oxmselParsed old store.stored))
      ↔ UpdateFits build world find state old new oxmselParsed := by
  have hmom := mom_of_read h.read
  have hcall (code : OCEntityHandlerResult) (after : DoxmStore) :
      AllOrNothing build payload store (some (code, after))
        ↔ (code ≠ .ok → after.gDoxm = store.gDoxm)
          ∧ (code = .ok → ∃ enters find old new, payload = .map enters find
            ∧ store.gDoxm = some old ∧ Overridden build find old new
            ∧ after.gDoxm = some new ∧ after.stored = some (doxmToCBORPayload new)) := by
    constructor
    · exact fun hall => hall code after rfl
    · intro hall code' after' hsame
      rw [Option.some.injEq, Prod.mk.injEq] at hsame
      rw [← hsame.1, ← hsame.2]
      exact hall
  rw [applyDoxm_eq, UpdateFits]
  split
  · -- the transfer is refused: `gDoxm` is the updated one
    rename_i hrefused
    have hcode : (startOwnershipTransfer world.transfer new.base
        (doxmUpdateWriteableProperty new.base old.base)).1 ≠ .ok :=
      startOwnershipTransfer_ne_ok.mpr hrefused.2.2
    rw [hcall, ← updated_eq_iff hmom, h.gDoxm, Option.some.injEq]
    constructor
    · exact fun hall => hall.1 hcode
    · exact fun hsame => ⟨fun _ => hsame, fun hok => absurd hok hcode⟩
  rcases world.write with _ | left
  · -- success: in memory and in the storage there is the same
    rw [handleDoxmPostRequestUpdatePS, hcall, ← overridden_iff h.read]
    constructor
    · rintro ⟨-, hdone⟩
      obtain ⟨enters', find', old', new', hpayload, hold, hright, hnew, -⟩ := hdone rfl
      rw [h.payload, SentPayload.map.injEq] at hpayload
      rw [h.gDoxm, Option.some.injEq] at hold
      have hsame : withSubOwners build world new old = new' := Option.some.inj hnew
      rw [← hpayload.2, ← hold, ← hsame] at hright
      exact hright
    · intro hright
      refine ⟨fun hne => absurd rfl hne, fun _ => ?_⟩
      exact ⟨enters, find, old, _, h.payload, h.gDoxm, hright, rfl, rfl⟩
  rw [handleDoxmPostRequestUpdatePS, hcall, ← withSubOwners_eq_iff hmom, h.gDoxm, Option.some.injEq]
  constructor
  · exact fun hall => hall.1 (by decide)
  · exact fun hsame => ⟨fun _ => hsame, fun hok => absurd hok (by decide)⟩

end Update

/-! ## The request -/

section Request

variable {build : Build} {world : DoxmWorld} {payload : SentPayload}
  {dosState : Option OicSecDeviceOnboardingState} {store : DoxmStore}

lemma handle_of_accepted {enters : Bool} {find : String → Sent}
    {state : OicSecDeviceOnboardingState} {old new : FullDoxm} {oxmselParsed : Bool}
    (h : DoxmAccepted build payload dosState store enters find state old new oxmselParsed) :
    handleFullDoxmPost build world payload.read dosState store
      = some (applyDoxm build world state new oxmselParsed old store.stored) := by
  have hstate : ¬ (state = .reset ∨ state = .rfnop) := by
    rw [not_or]
    exact h.writable
  rw [h.payload, h.dosState, SentPayload.read]
  simp [handleFullDoxmPost, h.gDoxm, if_neg hstate, h.read, h.oxmsel]

lemma handle_of_not_accepted (h : ∀ enters find state old new oxmselParsed,
      ¬ DoxmAccepted build payload dosState store enters find state old new oxmselParsed)
    {code : OCEntityHandlerResult} {after : DoxmStore}
    (hcall : handleFullDoxmPost build world payload.read dosState store = some (code, after)) :
    code ≠ .ok ∧ after = store := by
  unfold handleFullDoxmPost at hcall
  split at hcall
  · rename_i read old state hpayload hgDoxm
    split at hcall
    · cases hcall
      exact ⟨by decide, rfl⟩
    rename_i hstate
    split at hcall
    · cases hcall
    · cases hcall
      exact ⟨by decide, rfl⟩
    · cases hcall
      exact ⟨by decide, rfl⟩
    rename_i new oxmselParsed hread
    split at hcall
    · cases hcall
      exact ⟨by decide, rfl⟩
    rename_i hoxmsel
    exfalso
    rcases payload with _ | _ | ⟨enters, find⟩
    · cases hpayload
    · cases hpayload
      cases hread
    cases hpayload
    refine h enters find state old new oxmselParsed ⟨rfl, hgDoxm, rfl, not_or.mp hstate, hread, ?_⟩
    exact not_not.mp hoxmsel
  cases hcall
  exact ⟨by decide, rfl⟩

end Request

/-- **A POST to `doxm`, exactly.** For either build, every state and payload, and
however the calls of the transfer, the user's answers and the write go. -/
theorem doxmPost_exact (build : Build) (world : DoxmWorld) (payload : SentPayload)
    (dosState : Option OicSecDeviceOnboardingState) (store : DoxmStore) :
    AllOrNothing build payload store (handleFullDoxmPost build world payload.read dosState store)
      ↔ DoxmFits build world payload dosState store := by
  constructor
  · intro hall enters find state old new oxmselParsed haccepted
    rw [handle_of_accepted haccepted] at hall
    exact (applied_iff haccepted).mp hall
  · intro hfits
    by_cases haccepted : ∃ enters find state old new oxmselParsed,
        DoxmAccepted build payload dosState store enters find state old new oxmselParsed
    · obtain ⟨enters, find, state, old, new, oxmselParsed, haccepted⟩ := haccepted
      rw [handle_of_accepted haccepted]
      exact (applied_iff haccepted).mpr (hfits _ _ _ _ _ _ haccepted)
    intro code after hcall
    have hnot : ∀ enters find state old new oxmselParsed,
        ¬ DoxmAccepted build payload dosState store enters find state old new oxmselParsed :=
      fun enters find state old new oxmselParsed h =>
        haccepted ⟨enters, find, state, old, new, oxmselParsed, h⟩
    obtain ⟨hcode, hsame⟩ := handle_of_not_accepted hnot hcall
    exact ⟨fun _ => congrArg DoxmStore.gDoxm hsame, fun hok => absurd hok hcode⟩

/-- A build without `MULTIPLE_OWNER`. -/
def plainBuild : Build := ⟨false, 0, 0, 0⟩

def userRefuses : DoxmWorld where
  transfer := { smoothTransfer with verifyOwnershipTransfer := false }
  momEnableAnonECDHCipherSuite := true
  momSelectCipherSuite := true
  write := .ok

def confirmingDoxm : FullDoxm where
  base := { gDefaultDoxm someUuid with oxm := [oicMvJustWorks], oxmSel := oicMvJustWorks }
  mom := none
  subOwners := []

def claimOwnership : SentPayload :=
  .map true (fun key =>
    if key = "oxmsel" then .integer 0xFF01
    else if key = "devowneruuid" then .text (some "11111111-1111-1111-1111-111111111111")
    else .absent)

theorem refused_owner_stays :
    ¬ AllOrNothing plainBuild claimOwnership ⟨some confirmingDoxm, none⟩
      (handleFullDoxmPost plainBuild userRefuses claimOwnership.read (some .rfotm)
        ⟨some confirmingDoxm, none⟩) := by
  intro h
  have hkept := (h .notAcceptable ⟨some { confirmingDoxm with
    base := { confirmingDoxm.base with owner := someUuid } }, none⟩ rfl).1 (by decide)
  exact absurd hkept (by decide)

end Iochibity.Sec
