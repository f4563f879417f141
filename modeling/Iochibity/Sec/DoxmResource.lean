/-
`pstatresource.c`: the provisioning status resource and the decoder of its updates.
-/
import Iochibity.Lib.CborTree
import Iochibity.Sec.UuidText

namespace Iochibity.Sec

open CborLookup

section

/-- The number of a state. `DOS_STATE_COUNT` is 5. -/
def OicSecDeviceOnboardingState.code : OicSecDeviceOnboardingState → UInt32
  | .reset => 0
  | .rfotm => 1
  | .rfpro => 2
  | .rfnop => 3
  | .sreset => 4

def stateOfCode (code : UInt32) : Option OicSecDeviceOnboardingState :=
  if code = 0 then some .reset
  else if code = 1 then some .rfotm
  else if code = 2 then some .rfpro
  else if code = 3 then some .rfnop
  else if code = 4 then some .sreset
  else none

@[simp] lemma stateOfCode_code (s : OicSecDeviceOnboardingState) :
    stateOfCode s.code = some s := by
  cases s <;> rfl

lemma code_of_stateOfCode {code : UInt32} {s : OicSecDeviceOnboardingState}
    (h : stateOfCode code = some s) : code = s.code := by
  unfold stateOfCode at h
  split_ifs at h with h0 h1 h2 h3 h4
  all_goals
    cases h
    assumption

/-- `RESET`, a bit of `OicSecDpm_t`. -/
def dpmReset : UInt32 := 1

/-- `TAKE_OWNER`, a bit of `OicSecDpm_t`. -/
def dpmTakeOwner : UInt32 := 2

def singleServiceClientDriven : UInt32 := 4

/-- `OicSecPstat_t`. The supported modes are the array `sm` of length `smLen`. -/
structure OicSecPstat where
  dos : OicSecDostype
  isOp : Bool
  cm : UInt32
  tm : UInt32
  om : UInt32
  sm : List UInt32
  rownerID : OicUuid
  deriving DecidableEq

/-- `gDefaultPstat`, as the program starts with it. -/
def gDefaultPstat : OicSecPstat where
  dos := ⟨.rfotm, false⟩
  isOp := false
  cm := dpmTakeOwner
  tm := 0
  om := singleServiceClientDriven
  sm := [singleServiceClientDriven]
  rownerID := OicUuid.nil

structure AccessRow where
  reset : UInt16
  rfotm : UInt16
  rfpro : UInt16
  rfnop : UInt16
  sreset : UInt16

def AccessRow.mode (row : AccessRow) : OicSecDeviceOnboardingState → UInt16
  | .reset => row.reset
  | .rfotm => row.rfotm
  | .rfpro => row.rfpro
  | .rfnop => row.rfnop
  | .sreset => row.sreset

/-- `R` and `RW` of the tables. -/
def accessR : UInt16 := permissionRead
def accessRW : UInt16 := permissionRead ||| permissionWrite

inductive PstatProperty
  | dos
  | isop
  | cm
  | tm
  | om
  | sm
  | rowneruuid
  deriving DecidableEq

def gPstatPropertyAccessModes : PstatProperty → AccessRow
  -- RESET, RFOTM, RFPRO, RFNOP, SRESET
  | .dos => ⟨accessR, accessRW, accessRW, accessRW, accessRW⟩
  | .isop => ⟨accessR, accessR, accessR, accessR, accessR⟩
  | .cm => ⟨accessR, accessR, accessR, accessR, accessR⟩
  | .tm => ⟨accessR, accessRW, accessRW, accessRW, accessRW⟩
  | .om => ⟨accessR, accessRW, accessRW, accessRW, accessRW⟩
  | .sm => ⟨accessR, accessR, accessR, accessR, accessR⟩
  | .rowneruuid => ⟨accessR, accessRW, accessR, accessR, accessRW⟩

/-- `IsPropertyReadOnly` of `pstatresource.c`. -/
def isPstatPropertyReadOnly (p : PstatProperty) (s : OicSecDeviceOnboardingState) : Bool :=
  permissionRead == (gPstatPropertyAccessModes p).mode s

/-! ## Reading an update -/

/-- What an update asks for: `OicSecPstat_t` as the decoder fills it in. The
state is whatever number was sent. -/
structure PstatUpdate where
  dosState : UInt32
  dosPending : Bool
  isOp : Bool
  cm : UInt32
  tm : UInt32
  om : UInt32
  sm : List UInt32
  rownerID : OicUuid
  deriving DecidableEq

/-- `pstat->dos` while its map is read, and whether `p` was in it. -/
structure DosRead where
  state : UInt32
  pending : Bool
  marked : Bool
  deriving DecidableEq

/-- One entry of the map: the value of `s` must be an integer, that of `p` a
boolean, or an assertion fails. -/
def dosEntry (read : DosRead) (tag : String) (value : Scalar) : Except ReadEnd DosRead :=
  if value = .malformed then .error .failed
  else if tag = "s" then
    match value with
    | .integer bits => .ok { read with state := bits }
    | _ => .error .aborts
  else if tag = "p" then
    match value with
    | .boolean b => .ok { read with pending := b, marked := true }
    | _ => .error .aborts
  else .ok read

/-- The loop over the map `dos`. It ends at the first key that is no text. -/
def dosLoop : DosRead → List Scalar → Except ReadEnd DosRead
  | read, [] => .ok read
  | _, .text none :: _ => .error .failed
  | read, [.text (some tag)] => if tag = "s" ∨ tag = "p" then .error .aborts else .ok read
  | read, .text (some tag) :: value :: rest =>
    match dosEntry read tag value with
    | .error e => .error e
    | .ok read =>
      if rest.head? = some .malformed then .error .failed else dosLoop read rest
  | read, _ :: _ => .ok read

/-- The property `dos`. With a value that is no container, and with a map
without `s`, the state stays what `OICCalloc` made it: 0. -/
def readDos (found : Found) (gPstat : OicSecPstat) (readOnly : Bool) : Except ReadEnd DosRead :=
  match found with
  | .error => .error .failed
  | .absent => .ok ⟨gPstat.dos.state.code, gPstat.dos.pending, false⟩
  | found =>
    match found.items? with
    | none => .ok ⟨0, false, false⟩
    | some items =>
      if items.head? = some .malformed then .error .failed
      else dosLoop ⟨0, false, readOnly⟩ items

def readUuid (s : Option String) : Except ReadEnd OicUuid :=
  match s.bind convertStrToUuid with
  | none => .error .failed
  | some uuid => .ok uuid

/-- The property `sm`. A mode that is sent makes an array of one; otherwise an array of the old
length is made, with its first element. -/
def readSm (found : Found) (gPstat : OicSecPstat) (readOnly : Bool) :
    Except ReadEnd (List UInt32 × Bool) :=
  match found.integer?, gPstat.sm with
  | some bits, _ => .ok ([bits], readOnly)
  | none, [] => .error .failed
  | none, first :: rest => .ok (first :: List.replicate rest.length 0, false)

def cborPayloadToPstatBin (payload : Payload) (gPstat : OicSecPstat)
    (stateForReadOnlyCheck : OicSecDeviceOnboardingState) : Except ReadEnd (PstatUpdate × Bool) :=
  match payload with
  | .notMap => .error .aborts
  | .map false _ => .error .failed
  | .map true find => do
      let readOnly p := isPstatPropertyReadOnly p stateForReadOnlyCheck
      let dos ← readDos (find "dos") gPstat (readOnly .dos)
      let isOp ← readProperty ((find "isop").boolean?.map .ok) gPstat.isOp (readOnly .isop)
      let cm ← readProperty ((find "cm").integer?.map .ok) gPstat.cm (readOnly .cm)
      let tm ← readProperty ((find "tm").integer?.map .ok) gPstat.tm (readOnly .tm)
      let om ← readProperty ((find "om").integer?.map .ok) gPstat.om (readOnly .om)
      let sm ← readSm (find "sm") gPstat (readOnly .sm)
      let rownerID ← readProperty ((find "rowneruuid").text?.map readUuid) gPstat.rownerID
        (readOnly .rowneruuid)
      return (⟨dos.state, dos.pending, isOp.1, cm.1, tm.1, om.1, sm.1, rownerID.1⟩,
        dos.marked || isOp.2 || cm.2 || tm.2 || om.2 || sm.2 || rownerID.2)

/-! ## What an update without the mark is -/

def carriesPstat (find : String → Found) : PstatProperty → Bool
  | .dos => (find "dos").items?.isSome
  | .isop => (find "isop").boolean?.isSome
  | .cm => (find "cm").integer?.isSome
  | .tm => (find "tm").integer?.isSome
  | .om => (find "om").integer?.isSome
  | .sm => (find "sm").integer?.isSome
  | .rowneruuid => (find "rowneruuid").text?.isSome

def OicSecPstat.Agrees (a b : OicSecPstat) : PstatProperty → Prop
  | .dos => a.dos = b.dos
  | .isop => a.isOp = b.isOp
  | .cm => a.cm = b.cm
  | .tm => a.tm = b.tm
  | .om => a.om = b.om
  | .sm => a.sm = b.sm
  | .rowneruuid => a.rownerID = b.rownerID

variable {read : DosRead}

lemma dosEntry_marked {read' : DosRead} {tag : String} {value : Scalar}
    (h : dosEntry read tag value = .ok read') (hmarked : read.marked = true) :
    read'.marked = true := by
  unfold dosEntry at h
  split_ifs at h
  · rcases value with _ | bits | _ | _ | _
    case integer =>
      cases h
      exact hmarked
    all_goals cases h
  · rcases value with b | _ | _ | _ | _
    case boolean =>
      cases h
      rfl
    all_goals cases h
  cases h
  exact hmarked

lemma dosLoop_marked {read' : DosRead} {items : List Scalar} (h : dosLoop read items = .ok read')
    (hmarked : read.marked = true) :
    read'.marked = true := by
  fun_induction dosLoop read items with
  | case1 read =>
    cases h
    exact hmarked
  | case2 => cases h
  | case3 => cases h
  | case4 =>
    cases h
    exact hmarked
  | case5 => cases h
  | case6 => cases h
  | case7 read tag value rest read₁ hentry _ ih => exact ih h (dosEntry_marked hentry hmarked)
  | case8 =>
    cases h
    exact hmarked

variable {found : Found}

lemma readDos_container {items : List Scalar} (h : found.items? = some items)
    (gPstat : OicSecPstat) (readOnly : Bool) :
    readDos found gPstat readOnly = if items.head? = some .malformed then .error .failed
        else dosLoop ⟨0, false, readOnly⟩ items := by
  rcases found with _ | _ | _ | _ | _ | ⟨length, items'⟩ | items' | _
  case array | map =>
    rw [Found.items?, Option.some.injEq] at h
    rw [h]
    rfl
  all_goals cases h

variable {gPstat : OicSecPstat} {readOnly : Bool}

lemma readDos_plain (h : found.items? = none) (hread : readDos found gPstat readOnly = .ok read) :
    read.state = gPstat.dos.state.code ∨ read.state = 0 := by
  rcases found with _ | _ | _ | _ | _ | ⟨length, items'⟩ | items' | _
  case error => cases hread
  case absent =>
    cases hread
    exact Or.inl rfl
  case array | map => cases h
  all_goals
    cases hread
    exact Or.inr rfl

lemma readDos_unmarked (hro : readOnly = true) (h : readDos found gPstat readOnly = .ok read)
    (hmarked : read.marked = false) : found.items? = none := by
  rw [hro] at h
  rcases hitems : found.items? with _ | items
  · rfl
  rw [readDos_container hitems] at h
  split at h
  · cases h
  rw [dosLoop_marked h rfl] at hmarked
  cases hmarked

lemma readSm_absent {sm : List UInt32} (hro : readOnly = true)
    (h : readSm found gPstat readOnly = .ok (sm, false)) :
    found.integer?.isSome = false := by
  rw [hro] at h
  rcases hfound : found.integer? with _ | bits
  · rfl
  simp only [readSm, hfound] at h
  cases h

lemma cborPayloadToPstatBin_unmarked {payload : Payload} {update : PstatUpdate}
    (h : cborPayloadToPstatBin payload gPstat gPstat.dos.state = .ok (update, false)) :
    (∃ find, payload = .map true find
        ∧ ∀ p, isPstatPropertyReadOnly p gPstat.dos.state = true → carriesPstat find p = false)
      ∧ (isPstatPropertyReadOnly .dos gPstat.dos.state = true →
        update.dosState = gPstat.dos.state.code)
      ∧ (isPstatPropertyReadOnly .tm gPstat.dos.state = true → update.tm = gPstat.tm)
      ∧ (isPstatPropertyReadOnly .om gPstat.dos.state = true → update.om = gPstat.om)
      ∧ (isPstatPropertyReadOnly .rowneruuid gPstat.dos.state = true →
        update.rownerID = gPstat.rownerID) := by
  rcases payload with _ | ⟨_ | _, find⟩
  · cases h
  · cases h
  simp only [cborPayloadToPstatBin, bind_ok_iff] at h
  obtain ⟨dos, hdos, ⟨isOp, isOpMark⟩, hisop, ⟨cm, cmMark⟩, hcm, ⟨tm, tmMark⟩, htm,
    ⟨om, omMark⟩, hom, ⟨sm, smMark⟩, hsm, ⟨rownerID, rownerMark⟩, hrowner, hreturn⟩ := h
  simp only [pure, Except.pure, Except.ok.injEq, Prod.mk.injEq, Bool.or_eq_false_iff] at hreturn
  obtain ⟨rfl, ⟨⟨⟨⟨⟨hd, rfl⟩, rfl⟩, rfl⟩, rfl⟩, rfl⟩, rfl⟩ := hreturn
  refine ⟨⟨find, rfl, ?_⟩, ?_, ?_, ?_, ?_⟩
  · intro p hro
    cases p with
    | dos => rw [carriesPstat, readDos_unmarked hro hdos hd, Option.isSome_none]
    | isop => exact readProperty_absent hro hisop
    | cm => exact readProperty_absent hro hcm
    | tm => exact readProperty_absent hro htm
    | om => exact readProperty_absent hro hom
    | sm => exact readSm_absent hro hsm
    | rowneruuid => exact readProperty_absent hro hrowner
  · intro hro
    -- only in RESET, whose number is 0
    have hreset : gPstat.dos.state = .reset := by
      revert hro
      cases gPstat.dos.state <;> decide
    rcases readDos_plain (readDos_unmarked hro hdos hd) hdos with hstate | hstate
    · exact hstate
    rw [hstate, hreset]
    rfl
  · intro hro
    exact readProperty_kept hro htm
  · intro hro
    exact readProperty_kept hro hom
  · intro hro
    exact readProperty_kept hro hrowner

end

/-- The transfer methods of `OicSecOxm_t` that the handlers know. -/
def oicJustWorks : UInt32 := 0
def oicRandomDevicePin : UInt32 := 1
def oicManufacturerCertificate : UInt32 := 2
def oicMvJustWorks : UInt32 := 0xFF01
def oicConMfgCert : UInt32 := 0xFF02

/-- `OicSecDoxm_t`, without `dpc`, which nothing here reads. The methods are the
array `oxm` of length `oxmLen`. -/
structure OicSecDoxm where
  oxm : List UInt32
  oxmSel : UInt32
  sct : UInt32
  owned : Bool
  deviceID : OicUuid
  owner : OicUuid
  rownerID : OicUuid
  deriving DecidableEq

/-- `gDefaultDoxm`: symmetric pair-wise keys (1) and certificates (8) are supported.
`InitDoxmResource` fills in the device id. -/
def gDefaultDoxm (deviceID : OicUuid) : OicSecDoxm where
  oxm := [oicRandomDevicePin]
  oxmSel := oicRandomDevicePin
  sct := 1 ||| 8
  owned := false
  deviceID := deviceID
  owner := OicUuid.nil
  rownerID := OicUuid.nil

inductive DoxmProperty
  | oxms
  | oxmsel
  | sct
  | owned
  | deviceuuid
  | devowneruuid
  | rowneruuid
  deriving DecidableEq

/-- `gDoxmPropertyAccessModes`, without multiple owners. -/
def gDoxmPropertyAccessModes : DoxmProperty → AccessRow
  -- RESET, RFOTM, RFPRO, RFNOP, SRESET
  | .oxms => ⟨accessR, accessR, accessR, accessR, accessR⟩
  | .oxmsel => ⟨accessR, accessRW, accessR, accessR, accessR⟩
  | .sct => ⟨accessR, accessR, accessR, accessR, accessR⟩
  | .owned => ⟨accessR, accessRW, accessR, accessR, accessR⟩
  | .deviceuuid => ⟨accessR, accessRW, accessR, accessR, accessR⟩
  | .devowneruuid => ⟨accessR, accessRW, accessR, accessR, accessR⟩
  | .rowneruuid => ⟨accessR, accessRW, accessR, accessR, accessRW⟩

/-- `IsPropertyReadOnly` of `doxmresource.c`. -/
def isDoxmPropertyReadOnly (p : DoxmProperty) (s : OicSecDeviceOnboardingState) : Bool :=
  permissionRead == (gDoxmPropertyAccessModes p).mode s

/-- The loop over the array `oxms`. It ends at the first item that is no integer. -/
def oxmLoop : List Scalar → Except ReadEnd (List UInt32)
  | .integer bits :: rest =>
    if rest.head? = some .malformed then .error .failed
    else (oxmLoop rest).map (bits :: ·)
  | _ => .ok []

/-- The property `oxms`. An empty array and one without a length are errors, and
so is a copy of an empty array. -/
def readOxms (found : Found) (gDoxm : OicSecDoxm) (readOnly : Bool) :
    Except ReadEnd (List UInt32 × Bool) :=
  match found.array? with
  | none => if gDoxm.oxm = [] then .error .failed else .ok (gDoxm.oxm, false)
  | some (none, _) => .error .failed
  | some (some oxmLen, items) =>
    if oxmLen = 0 ∨ items.head? = some .malformed then .error .failed
    else
      (oxmLoop items).map (fun oxm => (oxm ++ List.replicate (oxmLen - oxm.length) 0, readOnly))

/-- `CBORPayloadToDoxmBin`: the update, `roParsed` and `oxmselParsed`. An error
of the parser counts only when it meets the last key. -/
def cborPayloadToDoxmBin (payload : Payload) (gDoxm : OicSecDoxm)
    (stateForReadOnlyCheck : OicSecDeviceOnboardingState) :
    Except ReadEnd (OicSecDoxm × Bool × Bool) :=
  match payload with
  | .notMap => .error .aborts
  | .map _ find => do
      let readOnly p := isDoxmPropertyReadOnly p stateForReadOnlyCheck
      let uuid key := (find key).text?.map readUuid
      let oxm ← readOxms (find "oxms") gDoxm (readOnly .oxms)
      let oxmSel ← readProperty ((find "oxmsel").integer?.map .ok) gDoxm.oxmSel (readOnly .oxmsel)
      let sct ← readProperty ((find "sct").integer?.map .ok) gDoxm.sct (readOnly .sct)
      let owned ← readProperty ((find "owned").boolean?.map .ok) gDoxm.owned (readOnly .owned)
      let deviceID ← readProperty (uuid "deviceuuid") gDoxm.deviceID (readOnly .deviceuuid)
      let owner ← readProperty (uuid "devowneruuid") gDoxm.owner (readOnly .devowneruuid)
      let rownerID ← readProperty (uuid "rowneruuid") gDoxm.rownerID (readOnly .rowneruuid)
      if find "rowneruuid" = .error then .error .failed
      else
        return (⟨oxm.1, oxmSel.1, sct.1, owned.1, deviceID.1, owner.1, rownerID.1⟩,
          oxm.2 || oxmSel.2 || sct.2 || owned.2 || deviceID.2 || owner.2 || rownerID.2,
          (find "oxmsel").integer?.isSome)

/-! ## Applying an update -/

/-- `OCEntityHandlerResult`, the codes of the two handlers. -/
inductive OCEntityHandlerResult
  | ok
  | error
  | badReq
  | notAcceptable
  | internalServerError
  deriving DecidableEq

def validateOxmsel (supportedMethods : List UInt32) (selectedMethod : UInt32) : Bool :=
  supportedMethods.contains selectedMethod

def doxmUpdateWriteableProperty (src dst : OicSecDoxm) : OicSecDoxm :=
  { dst with
    oxmSel := src.oxmSel
    owned := src.owned
    deviceID := src.deviceID
    rownerID := src.rownerID
    owner := src.owner }

structure TransferWorld where
  enableAnonECDHCipherSuite : Bool
  selectCipherSuite : Bool
  generatePin : Bool
  generateOwnerPSK : Bool
  verifyOwnershipTransfer : Bool

def enableAnonCipherSuiteIfUnOwnedAndJustWorksSelected (enableAnonECDHCipherSuite : Bool)
    (gDoxm : Option OicSecDoxm) : Bool :=
  match gDoxm with
  | none => true
  | some doxm =>
    if doxm.owned = false ∧ doxm.oxmSel = oicJustWorks then enableAnonECDHCipherSuite else true

def startOTMJustWorks (world : TransferWorld) (gDoxm : OicSecDoxm) : OCEntityHandlerResult :=
  if isNilUuid gDoxm.owner then
    if enableAnonCipherSuiteIfUnOwnedAndJustWorksSelected world.enableAnonECDHCipherSuite
      (some gDoxm) then .ok else .error
  else if gDoxm.oxmSel = oicMvJustWorks ∧ gDoxm.owned = false then
    if ¬ world.generateOwnerPSK then .error
    else if world.verifyOwnershipTransfer then .ok else .notAcceptable
  else .ok

variable (world : TransferWorld) (newDoxm gDoxm : OicSecDoxm)

/-- `HandleDoxmPostRequestRandomPin`. A call that fails on the way to the PIN
leaves `ehRet` as it was: `OC_EH_OK`. -/
def handleDoxmPostRequestRandomPin : OCEntityHandlerResult × OicSecDoxm :=
  if isNilUuid newDoxm.owner then
    let gDoxm := { gDoxm with oxmSel := newDoxm.oxmSel }
    if ¬ world.enableAnonECDHCipherSuite ∨ ¬ world.selectCipherSuite then (.ok, gDoxm)
    else if ¬ world.generatePin then (.error, gDoxm)
    else (.ok, gDoxm)
  else (.ok, { gDoxm with owner := newDoxm.owner })

def handleDoxmPostRequestMfg : OCEntityHandlerResult × OicSecDoxm :=
  if newDoxm.oxmSel = oicConMfgCert ∧ newDoxm.owned = false ∧ ¬ isNilUuid newDoxm.owner
      ∧ ¬ world.verifyOwnershipTransfer then
    (.notAcceptable, gDoxm)
  else (.ok, { gDoxm with owner := newDoxm.owner, oxmSel := newDoxm.oxmSel })

def startOwnershipTransfer : OCEntityHandlerResult × OicSecDoxm :=
  if newDoxm.oxmSel = oicJustWorks ∨ newDoxm.oxmSel = oicMvJustWorks then
    (startOTMJustWorks world gDoxm, gDoxm)
  else if newDoxm.oxmSel = oicRandomDevicePin then
    handleDoxmPostRequestRandomPin world newDoxm gDoxm
  else if newDoxm.oxmSel = oicManufacturerCertificate ∨ newDoxm.oxmSel = oicConMfgCert then
    handleDoxmPostRequestMfg world newDoxm gDoxm
  else (.ok, gDoxm)

lemma startOwnershipTransfer_doxm :
    (startOwnershipTransfer world newDoxm (doxmUpdateWriteableProperty newDoxm gDoxm)).2
      = doxmUpdateWriteableProperty newDoxm gDoxm := by
  unfold startOwnershipTransfer handleDoxmPostRequestRandomPin handleDoxmPostRequestMfg
  split_ifs <;> rfl

/-! ## What an update without the mark is -/

def carriesDoxm (find : String → Found) : DoxmProperty → Bool
  | .oxms => (find "oxms").array?.isSome
  | .oxmsel => (find "oxmsel").integer?.isSome
  | .sct => (find "sct").integer?.isSome
  | .owned => (find "owned").boolean?.isSome
  | .deviceuuid => (find "deviceuuid").text?.isSome
  | .devowneruuid => (find "devowneruuid").text?.isSome
  | .rowneruuid => (find "rowneruuid").text?.isSome

lemma readOxms_absent {found : Found} {gDoxm : OicSecDoxm} {readOnly : Bool}
    {oxm : List UInt32} (hro : readOnly = true)
    (h : readOxms found gDoxm readOnly = .ok (oxm, false)) : found.array?.isSome = false := by
  rw [hro] at h
  rcases hfound : found.array? with _ | ⟨_ | oxmLen, items⟩
  · rfl
  · simp only [readOxms, hfound] at h
    cases h
  · simp only [readOxms, hfound] at h
    split_ifs at h
    rcases hloop : oxmLoop items with e | oxm'
    · rw [hloop] at h
      cases h
    rw [hloop] at h
    cases h

def OicSecDoxm.Agrees (a b : OicSecDoxm) : DoxmProperty → Prop
  | .oxms => a.oxm = b.oxm
  | .oxmsel => a.oxmSel = b.oxmSel
  | .sct => a.sct = b.sct
  | .owned => a.owned = b.owned
  | .deviceuuid => a.deviceID = b.deviceID
  | .devowneruuid => a.owner = b.owner
  | .rowneruuid => a.rownerID = b.rownerID

lemma cborPayloadToDoxmBin_unmarked {payload : Payload} {gDoxm newDoxm : OicSecDoxm}
    {s : OicSecDeviceOnboardingState} {oxmselParsed : Bool}
    (h : cborPayloadToDoxmBin payload gDoxm s = .ok (newDoxm, false, oxmselParsed)) :
    (∃ enters find, payload = .map enters find
        ∧ ∀ p, isDoxmPropertyReadOnly p s = true → carriesDoxm find p = false)
      ∧ ∀ p, isDoxmPropertyReadOnly p s = true →
        (doxmUpdateWriteableProperty newDoxm gDoxm).Agrees gDoxm p := by
  rcases payload with _ | ⟨enters, find⟩
  · cases h
  simp only [cborPayloadToDoxmBin, bind_ok_iff] at h
  obtain ⟨⟨oxm, oxmMark⟩, hoxm, ⟨oxmSel, selMark⟩, hsel, ⟨sct, sctMark⟩, hsct,
    ⟨owned, ownedMark⟩, howned, ⟨deviceID, deviceMark⟩, hdevice, ⟨owner, ownerMark⟩, howner,
    ⟨rownerID, rownerMark⟩, hrowner, hreturn⟩ := h
  split_ifs at hreturn with herror
  simp only [pure, Except.pure, Except.ok.injEq, Prod.mk.injEq, Bool.or_eq_false_iff] at hreturn
  obtain ⟨rfl, ⟨⟨⟨⟨⟨⟨rfl, rfl⟩, rfl⟩, rfl⟩, rfl⟩, rfl⟩, rfl⟩, -⟩ := hreturn
  refine ⟨⟨enters, find, rfl, ?_⟩, ?_⟩
  · intro p hro
    cases p with
    | oxms => exact readOxms_absent hro hoxm
    | oxmsel => exact readProperty_absent hro hsel
    | sct => exact readProperty_absent hro hsct
    | owned => exact readProperty_absent hro howned
    | deviceuuid => exact readProperty_absent hro hdevice
    | devowneruuid => exact readProperty_absent hro howner
    | rowneruuid => exact readProperty_absent hro hrowner
  · intro p hro
    -- `oxms` and `sct` are never applied, whether they are read-only or not
    cases p with
    | oxms | sct => rfl
    | oxmsel => exact readProperty_kept hro hsel
    | owned => exact readProperty_kept hro howned
    | deviceuuid => exact readProperty_kept hro hdevice
    | devowneruuid => exact readProperty_kept hro howner
    | rowneruuid => exact readProperty_kept hro hrowner

end Iochibity.Sec
