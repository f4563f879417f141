/-
Ownership transfer of a list of devices (`ownershiptransfermanager.c`), with the list of contexts in
which the handshake callback looks its own up (`otmcontextlist.c`).
-/
import Iochibity.Sec.DoxmResource

namespace Iochibity.Prov.OwnershipTransfer

open Sec

inductive OCStackResult
  | ok | resourceCreated | resourceDeleted | continueLater | resourceChanged
  | invalidUri | invalidQuery | invalidIp | invalidPort | invalidCallback | invalidMethod
  | invalidParam | invalidObserveParam | noMemory | commError | caServerStartedAlready
  | caServerNotStarted | timeout | adapterNotEnabled | notImpl | noResource | resourceError
  | slowResource | duplicateRequest | noObservers | observerNotFound | virtualDoNotHandle
  | invalidOption | malformedResponse | persistentBufferRequired | invalidRequestHandle
  | invalidDeviceInfo | invalidJson | unauthorizedReq | tooLargeReq | pdmIsNotInitialized
  | duplicateUuid | inconsistentDb | authenticationFailure | notAllowedOxm
  | continueOperation | badEndpoint | presenceStopped | presenceTimeout
  | presenceDoNotHandle | userDeniedReq | notAcceptable | forbiddenReq | internalServerError
  | gatewayTimeout | serviceUnavailable | error
  deriving DecidableEq

def OCStackResult.code (res : OCStackResult) : Nat :=
  if res = .error then 255
  else if res.ctorIdx < 5 then res.ctorIdx
  else if res.ctorIdx < 42 then res.ctorIdx + 15
  else res.ctorIdx + 86

example : OCStackResult.duplicateRequest.code = 38 ∧ OCStackResult.badEndpoint.code = 56
    ∧ OCStackResult.userDeniedReq.code = 131 := by decide

inductive CAResult
  | statusOk
  | dtlsAuthenticationFailure
  | handleErrorOtherModule
  | continueOperation
  | other
  deriving DecidableEq

inductive OCTransportAdapter
  | ip
  | tcp
  | other
  deriving DecidableEq

/-- The part of `OCProvisionDev_t` that the transfer reads. -/
structure OCProvisionDev where
  addr : List UInt8
  adapter : OCTransportAdapter
  securePort : UInt16
  tcpSecurePort : UInt16
  doxm : OicSecDoxm
  specVer : List UInt8

def getSecurePort (device : OCProvisionDev) : UInt16 :=
  match device.adapter with
  | .ip => device.securePort
  | .tcp => device.tcpSecurePort
  | .other => 0

def OCProvisionDev.key (device : OCProvisionDev) : List UInt8 × UInt16 :=
  (device.addr, getSecurePort device)

inductive OicSecAclVersion
  | v1
  | v2
  deriving DecidableEq

def ocfPrefix : List UInt8 := [0x6F, 0x63, 0x66]

def getAclVer (specVer : List UInt8) : OicSecAclVersion :=
  if specVer.take 3 = ocfPrefix then .v2 else .v1

def setAclVer2 (specVer : List UInt8) : List UInt8 := ocfPrefix ++ specVer.drop 3

def oicDecentralizedPublicKey : UInt32 := 3

inductive OxmAllowTableIdx
  | justWorks
  | mvJustWorks
  | randomDevicePin
  | manufacturerCertificate
  | conMfgCert
  | decentralizedPublicKey
  deriving DecidableEq

/-- `GetOxmAllowTableIdx`; `none` is the unknown index. -/
def getOxmAllowTableIdx (oxm : UInt32) : Option OxmAllowTableIdx :=
  if oxm = oicJustWorks then some .justWorks
  else if oxm = oicRandomDevicePin then some .randomDevicePin
  else if oxm = oicManufacturerCertificate then some .manufacturerCertificate
  else if oxm = oicDecentralizedPublicKey then some .decentralizedPublicKey
  else if oxm = oicMvJustWorks then some .mvJustWorks
  else if oxm = oicConMfgCert then some .conMfgCert
  else none

/-- `OTMSelectOwnershipTransferMethod` for a super owner: the last method of the device that
the table allows. -/
def otmSelectOwnershipTransferMethod (gOxmAllowStatus : OxmAllowTableIdx → Bool)
    (supportedMethods : List UInt32) : Except OCStackResult UInt32 :=
  if supportedMethods = [] then .error .error
  else
    match supportedMethods.reverse.find? (fun oxm =>
        (getOxmAllowTableIdx oxm).any gOxmAllowStatus) with
    | some oxm => .ok oxm
    | none => .error .notAllowedOxm

def otmSetOTCallback (oxm : UInt32) : OCStackResult :=
  if oxm = oicJustWorks ∨ oxm = oicRandomDevicePin ∨ oxm = oicManufacturerCertificate
    ∨ oxm = oicMvJustWorks ∨ oxm = oicConMfgCert then .ok
  else if oxm = oicDecentralizedPublicKey then .invalidMethod
  else .invalidParam

/-! ## Requests -/

inductive Handler
  | ownerTransferMode
  | getAndVerifyDoxm
  | listMethods
  | operationModeUpdate
  | ownerUuidUpdate
  | deviceUuidUpdate
  | ownerCredential
  | ownerAcl
  | ownershipInformation
  | rownerUuid
  | provisioningStatus
  | readyForNormalStatus
  deriving DecidableEq

/-- A client callback that the stack holds for a request. `answered`: a response has come and the
callback was kept. `device` notes for which device it was made. -/
structure ClientCB where
  handle : Nat
  handler : Handler
  device : Nat
  answered : Bool
  deriving DecidableEq

abbrev Failure := { res : OCStackResult // res ≠ .ok }

/-- How the sending of a request ends: it is sent, something goes wrong before, or `OCDoResource`
fails and clears the handle. -/
inductive Send
  | sent
  | refused (res : Failure)
  | failed (res : Failure)

structure Local where
  /-- `PostOwnerTransferModeToResource`, by the position of the device -/
  start : Nat → Send
  /-- the request that a handler makes -/
  send : Send
  /-- is there memory for an item of the list of contexts -/
  addsItem : Bool
  loadSecret : OCStackResult
  createSecureSession : OCStackResult
  /-- `VerifyOwnershipTransfer`, when it shows a number or asks the user -/
  verifyOwnershipTransfer : OCStackResult
  setupPDM : OCStackResult
  saveOwnerPSK : OCStackResult
  /-- `CASelectCipherSuite`, as a code of the stack -/
  selectCipherSuite : OCStackResult
  registersPskHandler : Bool
  pdmSetDeviceState : OCStackResult
  pdmDeletesDevice : Bool

structure OCSecurityPayload where
  isSecurity : Bool
  securityData : List UInt8

structure OCClientResponse where
  result : OCStackResult
  payload : Option OCSecurityPayload

structure Tool where
  gOxmAllowStatus : OxmAllowTableIdx → Bool
  deviceID : OicUuid
  cborPayloadToDoxm : List UInt8 → Option OicSecDoxm
  cborPayloadToPstat : List UInt8 → Option OicSecPstat

/-! ## The context -/

structure OCProvisionResult where
  deviceId : OicUuid
  res : OCStackResult
  deriving DecidableEq

/-- A call of `SetResult`: for which device, which entries it wrote, and the result. -/
structure Final where
  device : Nat
  entries : List Nat
  res : OCStackResult
  deriving DecidableEq

/-- `OTMContext_t`, with its callbacks and its items in the list of contexts. The devices are
`before`, `device` (`selectedDeviceInfo`) and `next`. -/
structure OTMContext where
  before : List OCProvisionDev
  device : OCProvisionDev
  next : List OCProvisionDev
  ctxResultArray : List OCProvisionResult
  ctxHasError : Bool
  ocDoHandle : Option Nat
  attemptCnt : Nat
  clientCBs : List ClientCB
  /-- the number of handles given out -/
  handles : Nat
  gOtmCtxList : List (List UInt8 × UInt16)
  /-- the context has been freed -/
  released : Bool
  /-- a handler has used it after that -/
  touched : Bool
  /-- the calls of the user's callback -/
  reports : List (List OCProvisionResult × Bool)
  finals : List Final
  /-- the devices that were started again for a wrong PIN -/
  restarts : List Nat

namespace OTMContext

def position (s : OTMContext) : Nat := s.before.length

def select (before : List OCProvisionDev) (device : OCProvisionDev) (next : List OCProvisionDev)
    (s : OTMContext) : OTMContext :=
  { s with before := before, device := device, next := next }

def withDevice (device : OCProvisionDev) (s : OTMContext) : OTMContext :=
  { s with device := device }

/-- The `doxm` in the record of the selected device is changed. -/
def withDoxm (doxm : OicSecDoxm) (s : OTMContext) : OTMContext :=
  s.withDevice { s.device with doxm := doxm }

def withHandle (handle : Option Nat) (s : OTMContext) : OTMContext :=
  { s with ocDoHandle := handle }

end OTMContext

def addOTMContext (loc : Local) (s : OTMContext) : OCStackResult × OTMContext :=
  if s.device.addr = [] ∨ getSecurePort s.device = 0 then (.invalidParam, s)
  else if s.device.key ∈ s.gOtmCtxList then (.ok, s)
  else if loc.addsItem then (.ok, { s with gOtmCtxList := s.gOtmCtxList ++ [s.device.key] })
  else (.noMemory, s)

section

variable (s : OTMContext)

def removeOTMContext : OTMContext :=
  if getSecurePort s.device = 0 then s
  else { s with gOtmCtxList := s.gOtmCtxList.erase s.device.key }

def cancelRequest : OTMContext :=
  match s.ocDoHandle with
  | none => s
  | some handle =>
    if s.clientCBs.any (·.handle == handle) then
      { s with
        clientCBs := s.clientCBs.filter (·.handle != handle), ocDoHandle := none }
    else s

def post (send : Send) (handler : Handler) (s : OTMContext) : OCStackResult × OTMContext :=
  match send with
  | .sent =>
    (.ok, { s with
      ocDoHandle := some s.handles
      handles := s.handles + 1
      clientCBs := s.clientCBs ++ [⟨s.handles, handler, s.position, false⟩] })
  | .refused res => (res, s)
  | .failed res => (res, s.withHandle none)

/-! ## Results -/

def isComplete : Bool :=
  s.ctxResultArray.all (·.res != .continueLater)

def isEntryOf (entry : OCProvisionResult) : Bool :=
  entry.deviceId == s.device.doxm.deviceID

def entriesOf : List Nat :=
  (List.range s.ctxResultArray.length).filter (s.ctxResultArray[·]?.any (isEntryOf s))

def writeResult (res : OCStackResult) (s : OTMContext) : OTMContext :=
  let isError := res ≠ .ok ∧ res ≠ .continueLater ∧ res ≠ .duplicateRequest
  { s with
    ctxResultArray := s.ctxResultArray.map (fun entry =>
      if isEntryOf s entry then { entry with res := res } else entry)
    ctxHasError := s.ctxHasError || (s.ctxResultArray.any (isEntryOf s) && decide isError)
    finals := s.finals ++ [⟨s.position, entriesOf s, res⟩] }

/-- The first half of `SetResult`: the result, the list of contexts and the open request. -/
def recordResult (res : OCStackResult) (s : OTMContext) : OTMContext :=
  if res = .duplicateRequest then writeResult res s
  else cancelRequest (removeOTMContext (writeResult res s))

def report : OTMContext :=
  { s with reports := s.reports ++ [(s.ctxResultArray, s.ctxHasError)], released := true }

end

/-- `SetResult`, given how the next device is started. -/
def setResultWith (startNext : OTMContext → OTMContext) (res : OCStackResult)
    (s : OTMContext) : OTMContext :=
  if isComplete (recordResult res s) then report (recordResult res s)
  else startNext (recordResult res s)

/-- A request with `SetResult` for the case that it cannot be sent. -/
def postOrRecord (startNext : OTMContext → OTMContext) (send : Send) (handler : Handler)
    (s : OTMContext) : OCStackResult × OTMContext :=
  let (res, s) := post send handler s
  if res ≠ .ok then (res, setResultWith startNext res s) else (.ok, s)

/-- `StartOwnershipTransfer` of the first of `devices`, which come after `before`. -/
def startOwnershipTransfer (tool : Tool) (loc : Local) :
    List OCProvisionDev → List OCProvisionDev → OTMContext → OCStackResult × OTMContext
  | _, [], s => (.invalidParam, s)
  | before, device :: next, s =>
    let startNext := fun s : OTMContext =>
      (startOwnershipTransfer tool loc (before ++ [s.device]) next s).2
    let s := s.select before device next
    match otmSelectOwnershipTransferMethod tool.gOxmAllowStatus device.doxm.oxm with
    | .error res => (res, setResultWith startNext res s)
    | .ok oxmSel =>
      let s := s.withDoxm { device.doxm with oxmSel := oxmSel }
      if otmSetOTCallback oxmSel ≠ .ok then (otmSetOTCallback oxmSel, s)
      else postOrRecord startNext (loc.start s.position) .ownerTransferMode s

def setResult (tool : Tool) (loc : Local) (res : OCStackResult) (s : OTMContext) : OTMContext :=
  setResultWith
    (fun s => (startOwnershipTransfer tool loc (s.before ++ [s.device]) s.next s).2) res s

def otmDoOwnershipTransfer (tool : Tool) (loc : Local) :
    List OCProvisionDev → OCStackResult × Option OTMContext
  | [] => (.invalidParam, none)
  | device :: next =>
    let started := startOwnershipTransfer tool loc [] (device :: next)
      { before := []
        device := device
        next := next
        ctxResultArray :=
          (device :: next).map (⟨·.doxm.deviceID, .continueLater⟩)
        ctxHasError := false
        ocDoHandle := none
        attemptCnt := 0
        clientCBs := []
        handles := 0
        gOtmCtxList := []
        released := false
        touched := false
        reports := []
        finals := []
        restarts := [] }
    (started.1, some started.2)

/-! ## Responses -/

inductive Exit
  /-- `SetResult` with the code -/
  | setResult (res : OCStackResult)
  /-- the same, and the code is what the handler returns to the stack -/
  | setResultAndReturn (res : OCStackResult)
  /-- the next request; its error goes to `SetResult` -/
  | post (handler : Handler)
  /-- the next request; `OC_STACK_ERROR` goes to `SetResult` when there is an error -/
  | postOrError (handler : Handler)
  /-- the next request, without a look at what comes of it -/
  | postUnchecked (handler : Handler)
  /-- nothing else is done -/
  | leave

def updateDeviceId (deviceID : OicUuid) (s : OTMContext) : OTMContext :=
  { s.withDoxm { s.device.doxm with deviceID := deviceID } with
    ctxResultArray := s.ctxResultArray.map (fun entry =>
      if isEntryOf s entry then { entry with deviceId := deviceID } else entry) }

section Handlers

variable (tool : Tool) (loc : Local) (resp : OCClientResponse) (s : OTMContext)

def ownerTransferModeHandler : OTMContext × Exit :=
  if resp.result = .resourceChanged then
    let (added, s) := addOTMContext loc s
    if added ≠ .ok then (s, .setResult .error)
    else if loc.loadSecret ≠ .ok then (s, .setResult loc.loadSecret)
    else if loc.createSecureSession ≠ .ok then (s, .setResult loc.createSecureSession)
    else (s, .post .getAndVerifyDoxm)
  else (s, .setResult resp.result)

def getAndVerifyDoxmHandler : OTMContext × Exit :=
  if resp.result = .continueOperation then (s, .leave)
  else if resp.result ≠ .ok then (s, .setResult resp.result)
  else
    match resp.payload with
    | none => (s, .setResult .error)
    | some payload =>
      if payload.isSecurity = false then (s, .setResult .error)
      else
        match tool.cborPayloadToDoxm payload.securityData with
        | none => (s, .setResult .error)
        | some doxm =>
          if doxm ≠ s.device.doxm then (s, .setResult .error) else (s, .post .listMethods)

def listMethodsHandler : OTMContext × Exit :=
  if resp.result = .ok then
    match resp.payload with
    | none => (s, .setResult .error)
    | some payload =>
      if payload.isSecurity = false then (s, .setResult .error)
      else
        match tool.cborPayloadToPstat payload.securityData with
        | none => (s, .setResult .error)
        | some pstat =>
          if dpmTakeOwner &&& pstat.cm = 0 then (s, .setResult .error)
          else (s, .post .operationModeUpdate)
  else (s, .setResult resp.result)

/-- `OperationModeUpdateHandler`. The request sets the owner in the record of the device. -/
def operationModeUpdateHandler : OTMContext × Exit :=
  if resp.result = .resourceChanged then
    (s.withDoxm { s.device.doxm with owner := tool.deviceID }, .post .ownerUuidUpdate)
  else (s, .setResult resp.result)

def ownerUuidUpdateHandler : OTMContext × Exit :=
  if resp.result = .resourceChanged then
    if s.device.doxm.oxmSel = oicMvJustWorks ∧ loc.verifyOwnershipTransfer ≠ .ok then
      (s, .setResult loc.verifyOwnershipTransfer)
    else (s, .post .deviceUuidUpdate)
  else if s.device.doxm.oxmSel = oicConMfgCert ∧ resp.result = .notAcceptable then
    (s, .setResult .userDeniedReq)
  else (s, .setResult resp.result)

def deviceUuidUpdateHandler : OTMContext × Exit :=
  if resp.result ≠ .ok then (s, .leave)
  else
    match resp.payload with
    | none => (s, .setResult .error)
    | some payload =>
      match tool.cborPayloadToDoxm payload.securityData with
      | none => (s, .setResult .error)
      | some doxm =>
        let s := updateDeviceId doxm.deviceID s
        if loc.setupPDM ≠ .ok then (s, .setResultAndReturn loc.setupPDM)
        else if loc.saveOwnerPSK ≠ .ok then (s, .setResult loc.saveOwnerPSK)
        else (s, .post .ownerCredential)

def ownerCredentialHandler : OTMContext × Exit :=
  if resp.result = .resourceChanged then
    if loc.selectCipherSuite ≠ .ok then (s, .setResult loc.selectCipherSuite)
    else if s.device.doxm.oxmSel = oicRandomDevicePin ∧ loc.registersPskHandler = false then
      (s, .setResult .invalidCallback)
    else (s, .post .ownerAcl)
  else (s, .setResult resp.result)

def ownerAclHandler : OTMContext × Exit :=
  if resp.result = .resourceChanged then
    (s.withDoxm { s.device.doxm with owned := true, rownerID := tool.deviceID },
      .post .ownershipInformation)
  else if resp.result = .noResource then
    if getAclVer s.device.specVer = .v1 then
      (s.withDevice { s.device with specVer := setAclVer2 s.device.specVer },
        .postUnchecked .ownerAcl)
    else (s, .leave)
  else (s, .setResult resp.result)

def changedHandler (handler : Handler) : OTMContext × Exit :=
  if resp.result = .resourceChanged then (s, .post handler) else (s, .setResult resp.result)

def ownershipInformationHandler : OTMContext × Exit := changedHandler resp s .rownerUuid

/-- `RownerUuidHandler`. It is the only one that does not clear the handle first. -/
def rownerUuidHandler : OTMContext × Exit :=
  if OCStackResult.resourceChanged.code < resp.result.code then
    (cancelRequest (removeOTMContext s), .leave)
  else (s, .postOrError .provisioningStatus)

def provisioningStatusHandler : OTMContext × Exit := changedHandler resp s .readyForNormalStatus

def readyForNormalStatusHandler : OTMContext × Exit :=
  if resp.result = .resourceChanged then
    if loc.pdmSetDeviceState = .ok then (s, .setResult .ok) else (s, .leave)
  else (s, .setResult resp.result)

/-- The handler of a request, up to its exit. All but one begin with
`otmCtx->ocDoHandle = NULL`. -/
def runHandler (handler : Handler) : OTMContext × Exit :=
  let cleared := s.withHandle none
  match handler with
  | .ownerTransferMode => ownerTransferModeHandler loc resp cleared
  | .getAndVerifyDoxm => getAndVerifyDoxmHandler tool resp cleared
  | .listMethods => listMethodsHandler tool resp cleared
  | .operationModeUpdate => operationModeUpdateHandler tool resp cleared
  | .ownerUuidUpdate => ownerUuidUpdateHandler loc resp cleared
  | .deviceUuidUpdate => deviceUuidUpdateHandler tool loc resp cleared
  | .ownerCredential => ownerCredentialHandler loc resp cleared
  | .ownerAcl => ownerAclHandler tool resp cleared
  | .ownershipInformation => ownershipInformationHandler resp cleared
  | .rownerUuid => rownerUuidHandler resp s
  | .provisioningStatus => provisioningStatusHandler resp cleared
  | .readyForNormalStatus => readyForNormalStatusHandler loc resp cleared

end Handlers

section

variable (tool : Tool)

def postOr (loc : Local) (handler : Handler) (onError : OCStackResult → OCStackResult)
    (s : OTMContext) : OTMContext :=
  let (res, s) := post loc.send handler s
  if res = .ok then s else setResult tool loc (onError res) s

def leaveBy (loc : Local) (s : OTMContext) : Exit → OTMContext
  | .setResult res | .setResultAndReturn res => setResult tool loc res s
  | .post handler => postOr tool loc handler id s
  | .postOrError handler => postOr tool loc handler (fun _ => .error) s
  | .postUnchecked handler => (post loc.send handler s).2
  | .leave => s

/-- Has the handler the callback kept? `DeviceUuidUpdateHandler` does once it has sent the next
request, and an odd error code that it returns counts as a wish to keep it. -/
def keepsTransaction (loc : Local) (handler : Handler) : Exit → Bool
  | .setResultAndReturn res => res.code % 2 = 1
  | .post _ =>
    match handler, loc.send with
    | .deviceUuidUpdate, .sent => true
    | _, _ => false
  | _ => false

def closeTransaction (cb : ClientCB) (keep : Bool) (s : OTMContext) : OTMContext :=
  { s with clientCBs :=
      if keep then
        s.clientCBs.map (fun c => if c.handle = cb.handle then { c with answered := true } else c)
      else s.clientCBs.filter (·.handle != cb.handle) }

/-- `OCHandleResponse` of a response to the request with this handle. -/
def respond (handle : Nat) (resp : OCClientResponse) (loc : Local) (s : OTMContext) : OTMContext :=
  match s.clientCBs.find? (·.handle == handle) with
  | none => s
  | some cb =>
    if s.released then { s with touched := true }
    else
      let (s, exit) := runHandler tool loc resp s cb.handler
      closeTransaction cb (keepsTransaction loc cb.handler exit) (leaveBy tool loc s exit)

def wrongPinMaxAttemp : Nat := 5

def ownershipTransferSessionEstablished (loc : Local) (s : OTMContext) : CAResult :=
  if (s.device.doxm.oxmSel = oicMvJustWorks ∨ s.device.doxm.oxmSel = oicConMfgCert)
    ∧ loc.verifyOwnershipTransfer ≠ .ok then .handleErrorOtherModule
  else .statusOk

def forgetOwner (s : OTMContext) : OTMContext :=
  { s.withDoxm { s.device.doxm with owner := OicUuid.nil, owned := false } with
    attemptCnt := s.attemptCnt + 1 }

def ownershipTransferSessionFailed (loc : Local) (result : CAResult)
    (s : OTMContext) : CAResult × OTMContext :=
  if result ≠ .dtlsAuthenticationFailure then (.statusOk, s)
  else if ¬ isNilUuid s.device.doxm.owner ∧ s.device.doxm.owned then
    (.handleErrorOtherModule, s)
  else if s.device.doxm.oxmSel = oicRandomDevicePin then
    let s := forgetOwner s
    if loc.pdmDeletesDevice = false then (.handleErrorOtherModule, s)
    else if s.attemptCnt < wrongPinMaxAttemp then
      let (res, s) := startOwnershipTransfer tool loc s.before (s.device :: s.next)
        { s with restarts := s.restarts ++ [s.position] }
      (if res ≠ .ok then .handleErrorOtherModule else .continueOperation, s)
    else (.handleErrorOtherModule, s)
  else (.statusOk, s)

def dtlsHandshakeCB (endpoint : List UInt8 × UInt16) (result : CAResult) (loc : Local)
    (s : OTMContext) : CAResult × OTMContext :=
  if endpoint ∉ s.gOtmCtxList then (.statusOk, s)
  else if s.released then (.statusOk, { s with touched := true })
  else if s.device.key ≠ endpoint then (.statusOk, s)
  else if result = .statusOk ∧ s.device.doxm.owned = false ∧ isNilUuid s.device.doxm.owner then
    (ownershipTransferSessionEstablished loc s, s)
  else ownershipTransferSessionFailed tool loc result s

inductive Event
  /-- a response to a request, or its timeout -/
  | response (handle : Nat) (resp : OCClientResponse) (loc : Local)
  /-- the end of a handshake with an endpoint -/
  | handshake (endpoint : List UInt8 × UInt16) (result : CAResult) (loc : Local)

def step (s : OTMContext) : Event → OTMContext
  | .response handle resp loc => respond tool handle resp loc s
  | .handshake endpoint result loc => (dtlsHandshakeCB tool endpoint result loc s).2

def run (s : OTMContext) (events : List Event) : OTMContext :=
  events.foldl (step tool) s

end

open List

/-! ## 1. The invariant -/

def OTMContext.devices (s : OTMContext) : List OCProvisionDev := s.before ++ s.device :: s.next

/-- What holds when `n` devices have their result. -/
structure Core (keys : List (List UInt8 × UInt16)) (n : Nat) (s : OTMContext) : Prop where
  keys : s.devices.map OCProvisionDev.key = keys
  ids : s.ctxResultArray.map (·.deviceId) = s.devices.map (·.doxm.deviceID)
  distinct : (s.ctxResultArray.map (·.deviceId)).Nodup
  open_iff : ∀ j entry, s.ctxResultArray[j]? = some entry →
    (entry.res = .continueLater ↔ n ≤ j)
  order : s.finals.map (·.device) = List.range n
  own : ∀ f ∈ s.finals, f.entries = [f.device]
  recorded : ∀ f ∈ s.finals, s.ctxResultArray[f.device]?.map (·.res) = some f.res
  untouched : s.touched = false
  attempts : s.restarts.length ≤ s.attemptCnt
  restarts : s.restarts.length < wrongPinMaxAttemp

/-- A request that waits for its answer. `busy` is the one whose handler is running. -/
def Waits (busy : Option Nat) (cb : ClientCB) : Prop :=
  cb.answered = false ∧ busy ≠ some cb.handle

structure HandlesBelow (busy : Option Nat) (s : OTMContext) : Prop where
  fresh : ∀ cb ∈ s.clientCBs, cb.handle < s.handles
  busy_lt : ∀ handle, busy = some handle → handle < s.handles

structure Running (keys : List (List UInt8 × UInt16)) (busy : Option Nat) (s : OTMContext) : Prop
    extends Core keys s.position s, HandlesBelow busy s where
  alive : s.released = false
  silent : s.reports = []
  listed : s.gOtmCtxList = [] ∨ s.gOtmCtxList = [s.device.key] ∧ getSecurePort s.device ≠ 0
  current : ∀ cb ∈ s.clientCBs, Waits busy cb → cb.device = s.position

structure Between (keys : List (List UInt8 × UInt16)) (busy : Option Nat) (s : OTMContext) : Prop
    extends Core keys (s.position + 1) s, HandlesBelow busy s where
  alive : s.released = false
  silent : s.reports = []
  unlisted : s.gOtmCtxList = []
  quiet : ∀ cb ∈ s.clientCBs, ¬ Waits busy cb

structure Done (keys : List (List UInt8 × UInt16)) (busy : Option Nat) (s : OTMContext) : Prop
    extends Core keys s.ctxResultArray.length s where
  released : s.released = true
  reported : s.reports = [(s.ctxResultArray, s.ctxHasError)]
  unlisted : s.gOtmCtxList = []
  quiet : ∀ cb ∈ s.clientCBs, ¬ Waits busy cb

def Pending (busy : Option Nat) (s : OTMContext) : Prop := ∃ cb ∈ s.clientCBs, Waits busy cb

def Good (keys : List (List UInt8 × UInt16)) (busy : Option Nat) (s : OTMContext) : Prop :=
  (Running keys busy s ∧ Pending busy s) ∨ Done keys busy s

section Core

variable {keys : List (List UInt8 × UInt16)} {busy : Option Nat} {n : Nat} {s : OTMContext}

lemma length_devices : s.devices.length = s.position + 1 + s.next.length := by
  rw [OTMContext.devices, length_append, length_cons, OTMContext.position]
  omega

section

variable (h : Core keys n s)
include h

lemma Core.length : s.ctxResultArray.length = s.devices.length := by
  have hlen := congrArg List.length h.ids
  rwa [length_map, length_map] at hlen

lemma Core.position_lt : s.position < s.ctxResultArray.length := by
  have hlen := h.length
  have hdev := length_devices (s := s)
  omega

lemma Core.isEntryOf_iff {j : Nat} {entry : OCProvisionResult}
    (hj : s.ctxResultArray[j]? = some entry) : isEntryOf s entry = true ↔ j = s.position := by
  have hat : (s.ctxResultArray.map (·.deviceId))[s.position]? = some s.device.doxm.deviceID := by
    rw [h.ids, getElem?_map, OTMContext.devices, OTMContext.position,
      getElem?_append_right (Nat.le_refl _), Nat.sub_self]
    rfl
  have hentry : (s.ctxResultArray.map (·.deviceId))[j]? = some entry.deviceId := by
    rw [getElem?_map, hj]
    rfl
  have hlt : j < (s.ctxResultArray.map (·.deviceId)).length := by
    rw [length_map]
    exact (List.getElem?_eq_some_iff.mp hj).1
  rw [isEntryOf, beq_iff_eq, ← getElem?_inj hlt h.distinct, hat, hentry, Option.some.injEq]

lemma Core.entriesOf_eq : entriesOf s = [s.position] := by
  have hsame : ∀ j ∈ List.range s.ctxResultArray.length,
      s.ctxResultArray[j]?.any (isEntryOf s) = (j == s.position) := by
    intro j hj
    have hlt := mem_range.mp hj
    rw [getElem?_eq_getElem hlt, Option.any_some, Bool.eq_iff_iff, beq_iff_eq]
    exact h.isEntryOf_iff (getElem?_eq_getElem hlt)
  rw [entriesOf, filter_congr hsame, filter_beq,
    count_eq_one_of_mem nodup_range (mem_range.mpr h.position_lt)]
  rfl

lemma Core.stack (cbs : List ClientCB) (handle : Option Nat) (handles : Nat)
    (list : List (List UInt8 × UInt16)) :
    Core keys n { s with
      clientCBs := cbs, ocDoHandle := handle, handles := handles, gOtmCtxList := list } :=
  ⟨h.keys, h.ids, h.distinct, h.open_iff, h.order, h.own, h.recorded, h.untouched, h.attempts,
    h.restarts⟩

end

variable {device : OCProvisionDev}

lemma Core.withDevice (h : Core keys n s) (hkey : device.key = s.device.key)
    (hid : device.doxm.deviceID = s.device.doxm.deviceID) :
    Core keys n (s.withDevice device) := by
  have hkeys : (s.before ++ device :: s.next).map OCProvisionDev.key
      = s.devices.map OCProvisionDev.key := by
    rw [OTMContext.devices, map_append, map_append, map_cons, map_cons, hkey]
  have hids : (s.before ++ device :: s.next).map (·.doxm.deviceID)
      = s.devices.map (·.doxm.deviceID) := by
    rw [OTMContext.devices, map_append, map_append, map_cons, map_cons, hid]
  exact ⟨hkeys.trans h.keys, h.ids.trans hids.symm, h.distinct, h.open_iff, h.order, h.own,
    h.recorded, h.untouched, h.attempts, h.restarts⟩

lemma Running.withDevice (h : Running keys busy s) (hkey : device.key = s.device.key)
    (hport : getSecurePort device = getSecurePort s.device)
    (hid : device.doxm.deviceID = s.device.doxm.deviceID) :
    Running keys busy (s.withDevice device) := by
  refine ⟨h.toCore.withDevice hkey hid, ⟨h.fresh, h.busy_lt⟩, h.alive, h.silent, ?_, h.current⟩
  rw [OTMContext.withDevice, hkey, hport]
  exact h.listed

end Core

/-! ## 2. Recording a result -/

section Record

variable {keys : List (List UInt8 × UInt16)} {busy : Option Nat} {s : OTMContext}
  {res : OCStackResult}

lemma getElem?_writeResult (res : OCStackResult) (s : OTMContext) (j : Nat) :
    (writeResult res s).ctxResultArray[j]? = s.ctxResultArray[j]?.map (fun entry =>
      if isEntryOf s entry then { entry with res := res } else entry) := by
  rw [writeResult, getElem?_map]

lemma writeResult_ids (res : OCStackResult) (s : OTMContext) :
    (writeResult res s).ctxResultArray.map (·.deviceId) = s.ctxResultArray.map (·.deviceId) := by
  rw [writeResult, map_map]
  apply map_congr_left
  intro entry _
  rw [Function.comp_apply]
  split_ifs <;> rfl

lemma Core.writeResult (h : Core keys s.position s) (hres : res ≠ .continueLater) :
    Core keys (s.position + 1) (writeResult res s) where
  keys := h.keys
  ids := (writeResult_ids res s).trans h.ids
  distinct := by
    rw [writeResult_ids]
    exact h.distinct
  open_iff := by
    intro j entry hj
    rw [getElem?_writeResult, Option.map_eq_some_iff] at hj
    obtain ⟨old, hold, rfl⟩ := hj
    by_cases hpos : j = s.position
    · rw [if_pos ((h.isEntryOf_iff hold).mpr hpos)]
      refine iff_of_false hres ?_
      omega
    rw [if_neg (fun hentry => hpos ((h.isEntryOf_iff hold).mp hentry)), h.open_iff j old hold]
    omega
  order := by
    rw [OwnershipTransfer.writeResult, map_append, h.order, range_succ]
    rfl
  own := by
    intro f hf
    rcases mem_append.mp hf with hf | hf
    · exact h.own f hf
    rw [mem_singleton.mp hf]
    exact h.entriesOf_eq
  recorded := by
    intro f hf
    rw [getElem?_writeResult]
    rcases mem_append.mp hf with hf | hf
    · -- an earlier result: its entry is not the one written
      have hdev : f.device ∈ List.range s.position := by
        rw [← h.order]
        exact mem_map_of_mem hf
      have hlt := mem_range.mp hdev
      have hlen := h.position_lt
      have hold := getElem?_eq_getElem (l := s.ctxResultArray) (i := f.device) (by omega)
      have hrec := h.recorded f hf
      rw [hold] at hrec ⊢
      rw [Option.map_some, if_neg (fun hentry => by
        have hpos := (h.isEntryOf_iff hold).mp hentry
        omega)]
      exact hrec
    rw [mem_singleton.mp hf]
    have hold := getElem?_eq_getElem h.position_lt
    dsimp only
    rw [hold, Option.map_some, if_pos ((h.isEntryOf_iff hold).mpr rfl)]
    rfl
  untouched := h.untouched
  attempts := h.attempts
  restarts := h.restarts

lemma cancelRequest_eq (s : OTMContext) : ∃ handle, cancelRequest s = { s with
    clientCBs := s.clientCBs.filter (fun cb => decide (s.ocDoHandle ≠ some cb.handle))
    ocDoHandle := handle } := by
  have hkeep (hall : ∀ cb ∈ s.clientCBs, s.ocDoHandle ≠ some cb.handle) :
      s = { s with
        clientCBs := s.clientCBs.filter (fun cb => decide (s.ocDoHandle ≠ some cb.handle))
        ocDoHandle := s.ocDoHandle } := by
    rw [filter_eq_self.mpr (fun cb hcb => decide_eq_true (hall cb hcb))]
  unfold cancelRequest
  split
  · next hnone =>
      exact ⟨s.ocDoHandle, hkeep (fun cb _ => by simp [hnone])⟩
  next handle hsome =>
    by_cases hany : s.clientCBs.any (·.handle == handle) = true
    · refine ⟨none, ?_⟩
      have hfilter : s.clientCBs.filter (·.handle != handle)
          = s.clientCBs.filter (fun cb => decide (s.ocDoHandle ≠ some cb.handle)) := by
        apply filter_congr
        intro cb _
        rw [hsome, Bool.eq_iff_iff, decide_eq_true_iff, bne_iff_ne, Ne, Ne, Option.some.injEq]
        exact not_congr eq_comm
      rw [if_pos hany, hfilter]
    rw [if_neg hany]
    refine ⟨s.ocDoHandle, hkeep ?_⟩
    intro cb hcb heq
    apply hany
    rw [any_eq_true]
    rw [hsome] at heq
    exact ⟨cb, hcb, beq_iff_eq.mpr (Option.some.inj heq).symm⟩

lemma removeOTMContext_eq
    (hlisted : s.gOtmCtxList = [] ∨ s.gOtmCtxList = [s.device.key] ∧ getSecurePort s.device ≠ 0) :
    removeOTMContext s = { s with gOtmCtxList := [] } := by
  unfold removeOTMContext
  rcases hlisted with hnil | ⟨hone, hport⟩
  · split
    · rw [← hnil]
    rw [hnil]
    rfl
  · simp [hport, hone]

/-- The codes with which a device can be left, given the requests that wait: a final one, and either
it is no duplicate's and every request is cancelled, or there is nothing to clean up. -/
structure Recordable (busy : Option Nat) (s : OTMContext) (res : OCStackResult) : Prop where
  final : res ≠ .continueLater
  cancelled : ∀ cb ∈ s.clientCBs, Waits busy cb →
    res ≠ .duplicateRequest ∧ s.ocDoHandle = some cb.handle
  unlisted : res = .duplicateRequest → s.gOtmCtxList = []

lemma Running.recordResult (h : Running keys busy s) (hres : Recordable busy s res) :
    Between keys busy (recordResult res s) ∧ (recordResult res s).before = s.before
      ∧ (recordResult res s).device = s.device ∧ (recordResult res s).next = s.next := by
  have hcore := h.toCore.writeResult hres.final
  unfold OwnershipTransfer.recordResult
  by_cases hdup : res = .duplicateRequest
  · rw [if_pos hdup]
    refine ⟨⟨hcore, ⟨h.fresh, h.busy_lt⟩, h.alive, h.silent, hres.unlisted hdup, ?_⟩, rfl, rfl, rfl⟩
    intro cb hcb hwaits
    exact (hres.cancelled cb hcb hwaits).1 hdup
  have hremove : removeOTMContext (writeResult res s)
      = { writeResult res s with gOtmCtxList := [] } := removeOTMContext_eq h.listed
  obtain ⟨handle, hcancel⟩ := cancelRequest_eq { writeResult res s with gOtmCtxList := [] }
  rw [if_neg hdup, hremove, hcancel]
  refine ⟨⟨hcore.stack _ _ _ _, ⟨?_, h.busy_lt⟩, h.alive, h.silent, rfl, ?_⟩, rfl, rfl, rfl⟩
  · intro cb hcb
    exact h.fresh cb (mem_of_mem_filter hcb)
  · intro cb hcb hwaits
    have hmem := mem_filter.mp hcb
    exact of_decide_eq_true hmem.2 (hres.cancelled cb hmem.1 hwaits).2

lemma isComplete_iff (s : OTMContext) :
    isComplete s = true ↔ ∀ entry ∈ s.ctxResultArray, entry.res ≠ .continueLater := by
  simp [isComplete]

lemma Between.report (h : Between keys busy s) (hcomplete : isComplete s = true) :
    Done keys busy (report s) := by
  have hall := (isComplete_iff s).mp hcomplete
  have hlen : s.position + 1 = s.ctxResultArray.length := by
    have hlt := h.position_lt
    by_contra hne
    have hnext : s.position + 1 < s.ctxResultArray.length := by omega
    have hget := getElem?_eq_getElem hnext
    exact hall _ (getElem_mem hnext) ((h.open_iff _ _ hget).mpr (Nat.le_refl _))
  have hcore : Core keys s.ctxResultArray.length s := hlen ▸ h.toCore
  exact ⟨⟨hcore.keys, hcore.ids, hcore.distinct, hcore.open_iff, hcore.order, hcore.own,
    hcore.recorded, hcore.untouched, hcore.attempts, hcore.restarts⟩, rfl,
    congrArg (· ++ [(s.ctxResultArray, s.ctxHasError)]) h.silent, h.unlisted, h.quiet⟩

lemma Between.next_ne_nil (h : Between keys busy s) (hcomplete : isComplete s ≠ true) :
    s.next ≠ [] := by
  intro hnil
  apply hcomplete
  rw [isComplete_iff]
  intro entry hentry
  obtain ⟨j, hj, rfl⟩ := getElem_of_mem hentry
  have hlen := h.length
  rw [length_devices, hnil, length_nil] at hlen
  have hopen := h.open_iff j _ (getElem?_eq_getElem hj)
  rw [Ne, hopen]
  omega

lemma Between.select (h : Between keys busy s) {device : OCProvisionDev}
    {next : List OCProvisionDev} (hnext : s.next = device :: next) :
    Running keys busy (s.select (s.before ++ [s.device]) device next) := by
  have hdevices : (s.before ++ [s.device]) ++ device :: next = s.devices := by
    rw [OTMContext.devices, hnext, append_assoc, singleton_append]
  have hposition : (s.select (s.before ++ [s.device]) device next).position = s.position + 1 := by
    rw [OTMContext.position, OTMContext.select, length_append, length_singleton,
      OTMContext.position]
  refine ⟨⟨?_, ?_, h.distinct, ?_, ?_, h.own, h.recorded, h.untouched, h.attempts, h.restarts⟩,
    ⟨h.fresh, h.busy_lt⟩, h.alive, h.silent, Or.inl h.unlisted, ?_⟩
  · exact (congrArg (List.map OCProvisionDev.key) hdevices).trans h.keys
  · exact h.ids.trans (congrArg (List.map (·.doxm.deviceID)) hdevices).symm
  · intro j entry hj
    rw [hposition]
    exact h.open_iff j entry hj
  · exact h.order.trans (congrArg List.range hposition.symm)
  · intro cb hcb hwaits
    exact absurd hwaits (h.quiet cb hcb)

end Record

/-! ## 3. Starting a device -/

def sendError : Send → Option OCStackResult
  | .sent => none
  | .refused res | .failed res => some res

/-- The code that `StartOwnershipTransfer` records at once. -/
def startError (tool : Tool) (loc : Local) (position : Nat) (device : OCProvisionDev) :
    Option OCStackResult :=
  match otmSelectOwnershipTransferMethod tool.gOxmAllowStatus device.doxm.oxm with
  | .error res => some res
  | .ok _ => sendError (loc.start position)

def HasCallbacks (tool : Tool) (device : OCProvisionDev) : Prop :=
  ∀ oxmSel, otmSelectOwnershipTransferMethod tool.gOxmAllowStatus device.doxm.oxm = .ok oxmSel →
    otmSetOTCallback oxmSel = .ok

/-- The devices can be started one after the other, as far as that is tried: each has a method with
callbacks, and a failure has a final code. -/
def StartsOk (tool : Tool) (loc : Local) : Nat → List OCProvisionDev → Prop
  | _, [] => True
  | position, device :: next =>
    HasCallbacks tool device ∧ ∀ res, startError tool loc position device = some res →
          res ≠ .continueLater ∧ StartsOk tool loc (position + 1) next

section Start

variable {keys : List (List UInt8 × UInt16)} {busy : Option Nat} {s : OTMContext}
  {tool : Tool} {loc : Local}

lemma Running.post_sent (h : Running keys busy s) (handler : Handler) :
    Good keys busy (post .sent handler s).2 := by
  left
  refine ⟨⟨h.toCore.stack _ _ _ _, ⟨?_, ?_⟩, h.alive, h.silent, h.listed, ?_⟩, ?_⟩
  · intro cb hcb
    rcases mem_append.mp hcb with hold | hnew
    · exact Nat.lt_succ_of_lt (h.fresh cb hold)
    rw [mem_singleton.mp hnew]
    exact Nat.lt_succ_self _
  · intro handle hbusy
    exact Nat.lt_succ_of_lt (h.busy_lt handle hbusy)
  · intro cb hcb hwaits
    rcases mem_append.mp hcb with hold | hnew
    · exact h.current cb hold hwaits
    rw [mem_singleton.mp hnew]
    rfl
  · refine ⟨_, mem_append_right _ (mem_singleton_self _), rfl, ?_⟩
    intro hbusy
    exact Nat.lt_irrefl _ (h.busy_lt _ hbusy)

lemma Running.withHandle (h : Running keys busy s) (handle : Option Nat) :
    Running keys busy (s.withHandle handle) :=
  ⟨h.toCore.stack _ _ _ _, ⟨h.fresh, h.busy_lt⟩, h.alive, h.silent, h.listed, h.current⟩

variable {res : OCStackResult}

lemma Running.setResultWith (h : Running keys busy s) (hres : Recordable busy s res)
    {startNext : OTMContext → OTMContext}
    (hnext : ∀ t device next, Between keys busy t → t.before = s.before → t.next = s.next →
      s.next = device :: next → Good keys busy (startNext t)) :
    Good keys busy (setResultWith startNext res s) := by
  obtain ⟨hbetween, hbefore, -, hsame⟩ := h.recordResult hres
  unfold OwnershipTransfer.setResultWith
  by_cases hcomplete : isComplete (OwnershipTransfer.recordResult res s) = true
  · rw [if_pos hcomplete]
    exact Or.inr (hbetween.report hcomplete)
  rw [if_neg hcomplete]
  have hne := hbetween.next_ne_nil hcomplete
  rw [hsame] at hne
  obtain ⟨device, next, hcons⟩ := exists_cons_of_ne_nil hne
  exact hnext _ device next hbetween hbefore hsame hcons

section

variable (startNext : OTMContext → OTMContext) (handler : Handler) (res : Failure) (s : OTMContext)

@[simp] lemma postOrRecord_refused :
    (postOrRecord startNext (.refused res) handler s).2 = setResultWith startNext res s := by
  rw [postOrRecord, post]
  exact congrArg Prod.snd (if_pos res.2)

@[simp] lemma postOrRecord_failed :
    (postOrRecord startNext (.failed res) handler s).2
      = setResultWith startNext res (s.withHandle none) := by
  rw [postOrRecord, post]
  exact congrArg Prod.snd (if_pos res.2)

end

/-- What is asked of a device that is started while requests wait: its failure has no duplicate's
code, and `SetResult` finds their handle. -/
def CanFail (loc : Local) (busy : Option Nat) (position : Nat) (s : OTMContext)
    (res : OCStackResult) : Prop :=
  (∀ cb ∈ s.clientCBs, Waits busy cb → res ≠ .duplicateRequest
    ∧ (∀ code, loc.start position ≠ .failed code) ∧ s.ocDoHandle = some cb.handle)
  ∧ (res = .duplicateRequest → s.gOtmCtxList = [])

variable {device : OCProvisionDev}

lemma startOwnershipTransfer_ok (tool : Tool) (loc : Local) (before next : List OCProvisionDev)
    (s : OTMContext) {oxmSel : UInt32}
    (hselect : otmSelectOwnershipTransferMethod tool.gOxmAllowStatus device.doxm.oxm = .ok oxmSel)
    (hcallbacks : otmSetOTCallback oxmSel = .ok) :
    startOwnershipTransfer tool loc before (device :: next) s
      = postOrRecord (fun s => (startOwnershipTransfer tool loc (before ++ [s.device]) next s).2)
          (loc.start before.length) .ownerTransferMode
          ((s.select before device next).withDoxm { device.doxm with oxmSel := oxmSel }) := by
  rw [startOwnershipTransfer, hselect]
  exact if_neg (not_not.mpr hcallbacks)

variable {before : List OCProvisionDev}

lemma start_step {next : List OCProvisionDev}
    (h : Running keys busy (s.select before device next))
    (hstarts : StartsOk tool loc before.length (device :: next))
    (hfail : ∀ res, startError tool loc before.length device = some res →
      CanFail loc busy before.length s res)
    (hnext : ∀ t device' next', Between keys busy t → t.before = before → t.next = next →
      next = device' :: next' → StartsOk tool loc (before.length + 1) next →
      Good keys busy (startOwnershipTransfer tool loc (before ++ [t.device]) next t).2) :
    Good keys busy (startOwnershipTransfer tool loc before (device :: next) s).2 := by
  obtain ⟨hcallbacks, herror⟩ := hstarts
  have hclose (res : OCStackResult) (hres : startError tool loc before.length device = some res)
      {t : OTMContext} (ht : Running keys busy t) (hrec : Recordable busy t res)
      (hbefore : t.before = before) (hsame : t.next = next) :
      Good keys busy (setResultWith
        (fun s => (startOwnershipTransfer tool loc (before ++ [s.device]) next s).2) res t) := by
    apply ht.setResultWith hrec
    intro t' device' next' hbetween hbefore' hsame' hcons
    exact hnext t' device' next' hbetween (hbefore'.trans hbefore) (hsame'.trans hsame)
      (hsame.symm.trans hcons) (herror res hres).2
  cases hselect : otmSelectOwnershipTransferMethod tool.gOxmAllowStatus device.doxm.oxm with
  | error res =>
    have hres : startError tool loc before.length device = some res := by
      rw [startError, hselect]
    have hcan := hfail res hres
    rw [startOwnershipTransfer, hselect]
    apply hclose res hres h _ rfl rfl
    exact ⟨(herror res hres).1, fun cb hcb hwaits =>
      ⟨(hcan.1 cb hcb hwaits).1, (hcan.1 cb hcb hwaits).2.2⟩, hcan.2⟩
  | ok oxmSel =>
    have hcode (res : OCStackResult) (hsend : sendError (loc.start before.length) = some res) :
        startError tool loc before.length device = some res := by
      rw [startError, hselect]
      exact hsend
    have hrun : Running keys busy
        ((s.select before device next).withDoxm { device.doxm with oxmSel := oxmSel }) :=
      h.withDevice rfl rfl rfl
    rw [startOwnershipTransfer_ok tool loc before next s hselect (hcallbacks oxmSel hselect)]
    cases hsend : loc.start before.length with
    | sent => exact hrun.post_sent _
    | refused res =>
      have hres := hcode res (by rw [hsend, sendError])
      have hcan := hfail res hres
      rw [postOrRecord_refused]
      apply hclose res hres hrun _ rfl rfl
      exact ⟨(herror res hres).1, fun cb hcb hwaits =>
        ⟨(hcan.1 cb hcb hwaits).1, (hcan.1 cb hcb hwaits).2.2⟩, hcan.2⟩
    | failed res =>
      have hres := hcode res (by rw [hsend, sendError])
      have hcan := hfail res hres
      rw [postOrRecord_failed]
      apply hclose res hres (hrun.withHandle none) _ rfl rfl
      exact ⟨(herror res hres).1, fun cb hcb hwaits =>
        absurd hsend ((hcan.1 cb hcb hwaits).2.1 res), hcan.2⟩

lemma start_good (next : List OCProvisionDev) {s : OTMContext}
    (h : Running keys busy (s.select before device next))
    (hstarts : StartsOk tool loc before.length (device :: next))
    (hfail : ∀ res, startError tool loc before.length device = some res →
      CanFail loc busy before.length s res) :
    Good keys busy (startOwnershipTransfer tool loc before (device :: next) s).2 := by
  induction next generalizing before device s with
  | nil =>
    apply start_step h hstarts hfail
    intro t device' next' _ _ _ hcons
    exact absurd hcons.symm (cons_ne_nil _ _)
  | cons second rest ih =>
    apply start_step h hstarts hfail
    intro t device' next' hbetween hbefore hsame _ hrest
    have hselect := hbetween.select hsame
    rw [hbefore] at hselect
    apply ih hselect
    · rw [length_append, length_singleton]
      exact hrest
    · -- nothing waits any more between two devices
      intro res _
      exact ⟨fun cb hcb hwaits => absurd hwaits (hbetween.quiet cb hcb), fun _ => hbetween.unlisted⟩

lemma Running.setResult (h : Running keys busy s) (hres : Recordable busy s res)
    (hstarts : StartsOk tool loc (s.position + 1) s.next) :
    Good keys busy (setResult tool loc res s) := by
  apply h.setResultWith hres
  intro t device next hbetween hbefore hsame hcons
  have hselect := hbetween.select (hsame.trans hcons)
  rw [hsame, hcons]
  apply start_good next hselect
  · rw [length_append, length_singleton, hbefore, ← hcons]
    exact hstarts
  · intro res' _
    exact ⟨fun cb hcb hwaits => absurd hwaits (hbetween.quiet cb hcb), fun _ => hbetween.unlisted⟩

end Start

end Iochibity.Prov.OwnershipTransfer
