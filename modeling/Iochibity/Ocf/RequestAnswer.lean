/-
Batch requests to collections, `occollection.c` and `ocserverrequest.c`.

Allocations and sending succeed.
-/
import Iochibity.Ocf.RepPayload
import Iochibity.Ocf.ServerRequest
import Iochibity.Ocf.StackResult

namespace Iochibity.Ocf

open Coap (CString)
open Function (update)

inductive OCPayloadFormat
  | cbor | vndOcfCbor | json | undefined | unsupported
  deriving DecidableEq

/-- The formats for which `HandleSingleResponse` converts a payload. -/
def OCPayloadFormat.isAccepted : OCPayloadFormat → Bool
  | .undefined | .cbor | .vndOcfCbor => true
  | _ => false

def ocRsrvdRepresentation : CString := .const "rep"

def repPayloadBatchClone (uninit : ℕ → Option CString) : HeapPayload → HeapPayload
  | .mk uri types interfaces values =>
    .mk uri [] []
      [.mk ocRsrvdRepresentation
        (.object (.payload (.mk none types interfaces (repPayloadValueClone uninit values))))]

structure AggregatedRequest extends OCServerRequest where
  acceptFormat : OCPayloadFormat

/-- `OCServerResponse`, at its address and without its payload. -/
structure OCServerResponse where
  address : ℕ
  requestHandle : ℕ
  deriving DecidableEq

/-- `RB_INSERT` and `RB_REMOVE` of `g_serverResponseTree`. No answer of a comparison leaves
an insertion undefined. -/
structure ResponseTree where
  insert : (OCServerResponse → Option Ordering) → OCServerResponse →
    BinaryTree OCServerResponse → Option (BinaryTree OCServerResponse)
  remove : OCServerResponse → BinaryTree OCServerResponse → BinaryTree OCServerResponse

structure ResponseTree.Correct (rb : ResponseTree) : Prop where
  insert_nil : ∀ cmp response, rb.insert cmp response .nil = some (.node response .nil .nil)
  remove_only : ∀ response, rb.remove response (.node response .nil .nil) = .nil

/-- What is sent to clients: a response of `HandleSingleResponse`, without a payload when the client
does not accept CBOR, or a direct response of `OCHandleRequests`. -/
inductive SentResponse
  | aggregated (requestHandle : ℕ) (payload : List HeapPayload)
  | notAcceptable (requestHandle : ℕ)
  | direct (requestHandle : ℕ) (result : OCStackResult)

structure BatchServer where
  requests : ℕ → Option AggregatedRequest
  responses : BinaryTree OCServerResponse
  payload : ℕ → List HeapPayload
  freshAddress : ℕ
  sent : List SentResponse

def BatchServer.send (server : BatchServer) (response : SentResponse) : BatchServer :=
  { server with sent := server.sent ++ [response] }

def BatchServer.initial : BatchServer := ⟨fun _ => none, .nil, fun _ => [], 0, []⟩

/-- What else is in memory: the bytes behind stored tokens, the token that a freed request seems to
have, and the unanswered requests. -/
structure MemoryView where
  behind : OCServerRequest → List UInt8
  stale : List UInt8
  others : ServerRequestTree

/-! ## Responses -/

section Responses

variable (rb : ResponseTree) (uninit : ℕ → Option CString)
  (converts : OCPayloadFormat → List HeapPayload → Bool) (view : MemoryView)

variable (server : BatchServer) (requestHandle : ℕ)

def BatchServer.rbResponseTokenCmp (treeNode : OCServerResponse) : Option Ordering := do
  let target ← server.requests requestHandle
  let stored ← server.requests treeNode.requestHandle
  rbRequestTokenCmp view.behind target.requestToken stored.toOCServerRequest

def rbFindResponse (cmp : OCServerResponse → Option Ordering) :
    BinaryTree OCServerResponse → Option (Option OCServerResponse)
  | .nil => some none
  | .node response left right =>
    match cmp response with
    | none => none
    | some .lt => rbFindResponse cmp left
    | some .gt => rbFindResponse cmp right
    | some .eq => some (some response)

/-- `DeleteServerRequest`. The search for a freed request goes by what seems to be its token; if it
finds one, that memory is freed again. -/
def BatchServer.deleteServerRequest : Option BatchServer :=
  match server.requests requestHandle with
  | some _ => some { server with requests := update server.requests requestHandle none }
  | none =>
    match rbFind view.behind view.stale view.others with
    | .notFound => some server
    | _ => none

/-- `HandleSingleResponse`, for a payload. When it is not converted nothing is sent or
deleted. -/
def BatchServer.handleSingleResponse (payload : List HeapPayload) : Option BatchServer := do
  let serverRequest ← server.requests requestHandle
  if serverRequest.acceptFormat.isAccepted then
    if converts serverRequest.acceptFormat payload then
      (server.send (.aggregated requestHandle payload)).deleteServerRequest view requestHandle
    else some server
  else (server.send (.notAcceptable requestHandle)).deleteServerRequest view requestHandle

def BatchServer.getOrAddServerResponse :
    Option (OCServerResponse × BatchServer) := do
  let cmp := server.rbResponseTokenCmp view requestHandle
  match ← rbFindResponse cmp server.responses with
  | some response => some (response, server)
  | none =>
    let response : OCServerResponse := ⟨server.freshAddress, requestHandle⟩
    let responses ← rb.insert cmp response server.responses
    some (response,
      { server with
        responses := responses
        payload := update server.payload response.address []
        freshAddress := server.freshAddress + 1 })

/-- `HandleAggregateResponse`, for a representation. -/
def BatchServer.handleAggregateResponse (fragment : HeapPayload) : Option BatchServer := do
  let (response, server) ← server.getOrAddServerResponse rb view requestHandle
  let payload := server.payload response.address ++ [repPayloadBatchClone uninit fragment]
  let serverRequest ← server.requests requestHandle
  let numResponses := serverRequest.numResponses - 1
  let server : BatchServer :=
    { server with
      requests := update server.requests requestHandle
        (some { serverRequest with numResponses := numResponses })
      payload := update server.payload response.address payload }
  if numResponses = 0 then
    let server ← server.handleSingleResponse converts view requestHandle payload
    let server ← server.deleteServerRequest view requestHandle
    some { server with responses := rb.remove response server.responses }
  else some server

/-! ## The collection -/

structure ChildTurn where
  response : Option HeapPayload
  ehResult : OCEntityHandlerResult

def getNumOfResourcesInCollection (children : List ChildTurn) : UInt8 :=
  children.foldl (fun size _ => size + 1) 0

def batchTurn (requestHandle : ℕ) (state : OCStackResult × BatchServer) (child : ChildTurn) :
    Option (OCStackResult × BatchServer) := do
  let server ← child.response.elim (some state.2)
    (state.2.handleAggregateResponse rb uninit converts view requestHandle)
  if child.ehResult = .slow then
    let serverRequest ← server.requests requestHandle
    some (entityHandlerCodeToOCStackCode .slow,
      { server with
        requests := update server.requests requestHandle
          (some { serverRequest with slowFlag := true }) })
  else
    some (if state.1 = .slowResource then .slowResource else .ok, server)

def handleBatchInterface (requestHandle : ℕ) (children : List ChildTurn) (server : BatchServer) :
    Option (OCStackResult × BatchServer) :=
  children.foldlM (batchTurn rb uninit converts view requestHandle) (.ok, server)

/-- `DefaultCollectionEntityHandler` for the batch interface, and what `OCHandleRequests` makes of
its result. `SendResponse` without a payload is refused by `HandleAggregateResponse`. -/
def BatchServer.defaultCollectionEntityHandler (serverRequest : AggregatedRequest)
    (children : List ChildTurn) : Option BatchServer := do
  let serverRequest :=
    { serverRequest with numResponses := getNumOfResourcesInCollection children }
  let (result, server) ← handleBatchInterface rb uninit converts view requestHandle children
    { server with
      requests := update server.requests requestHandle (some serverRequest) }
  if result = .ok then some server
  else
    let _ ← server.requests requestHandle
    some (server.send (.direct requestHandle .invalidParam))

end Responses

structure BatchRequest where
  handle : ℕ
  received : OCServerProtocolRequest
  acceptFormat : OCPayloadFormat
  children : List ChildTurn

def BatchRequest.fragments (request : BatchRequest) : List HeapPayload :=
  request.children.filterMap ChildTurn.response

inductive BatchEvent
  | batch (request : BatchRequest) (view : MemoryView)
  | late (requestHandle : ℕ) (fragment : HeapPayload) (view : MemoryView)

section Runs

variable (rb : ResponseTree) (uninit : ℕ → Option CString)
  (converts : OCPayloadFormat → List HeapPayload → Bool)

def BatchEvent.apply (server : BatchServer) : BatchEvent → Option BatchServer
  | .batch request view =>
    server.defaultCollectionEntityHandler rb uninit converts view request.handle
      ⟨.ofReceived request.received, request.acceptFormat⟩ request.children
  | .late requestHandle fragment view =>
    server.handleAggregateResponse rb uninit converts view requestHandle fragment

def runBatches (server : BatchServer) (events : List BatchEvent) : Option BatchServer :=
  events.foldlM (BatchEvent.apply rb uninit converts) server

end Runs

/-- A payload, as far as it matters for sending it: whether it is a representation, and for
which formats `OCConvertPayload` takes it. -/
structure ResponsePayload where
  isRepresentation : Bool
  converts : OCPayloadFormat → Bool

/-- `OCEntityHandlerResponse`. A uri in it is never too long for an option. -/
structure OCEntityHandlerResponse where
  ehResult : OCEntityHandlerResult
  payload : Option ResponsePayload

/-- What an entity handler does: it returns, having responded or not, or it returns `OC_EH_SLOW`,
and responds later or never. -/
inductive HandlerTurn
  | returns (response : Option OCEntityHandlerResponse) (ehResult : OCEntityHandlerResult)
  | slow (late : Option OCEntityHandlerResponse)

def HandlerTurn.response : HandlerTurn → Option OCEntityHandlerResponse
  | returns response _ => response
  | slow _ => none

def HandlerTurn.late : HandlerTurn → Option OCEntityHandlerResponse
  | returns _ _ => none
  | slow late => late

def HandlerTurn.ehResult : HandlerTurn → OCEntityHandlerResult
  | returns _ ehResult => ehResult
  | slow _ => .slow

/-! ## The world -/

inductive OCVirtualResources
  | unknownUri
  | wellKnownUri
  | deviceUri
  | platformUri
  | resourceTypesUri
  | introspectionUri
  | introspectionPayloadUri
  | keepAliveResourceUri
  deriving DecidableEq

inductive ResourceHandling
  | virtual
  | defaultDeviceEntityHandler (defaultDeviceHandler : HandlerTurn)
  | notCollectionDefaultEntityHandler
  | notCollectionWithEntityHandler (entityHandler : HandlerTurn)
  | collectionDefaultEntityHandler
  | collectionWithEntityHandler (entityHandler : HandlerTurn)

/-- What `CheckRequestsEndpoint` says. -/
inductive EndpointCheck
  | registered
  | unregistered
  | noFlags

structure RequestedResource where
  endpoint : EndpointCheck
  hasChildren : Bool
  entityHandler : Option HandlerTurn

/-- What `AddObserver` comes to. -/
inductive ObserverAddition
  | added
  | resourceError
  | failed

inductive CollectionInterface
  | linkedList
  | batch
  | group
  | other

/-- `BuildCollectionGroupActionCBORResponse`: it may have the responses aggregated and set
their number, it may respond, and it returns. -/
structure GroupTurn where
  numResponses : Option UInt8
  response : Option OCEntityHandlerResponse
  result : OCStackResult

structure RequestWorld where
  view : MemoryView
  acceptFormat : OCPayloadFormat
  -- a request that was there already may have its responses aggregated
  aggregates : Bool
  sends : Bool
  virtualUri : OCVirtualResources
  headResource : Bool
  resource : Option RequestedResource
  defaultDeviceHandler : Option HandlerTurn
  parses : Bool
  observerPresent : Bool
  addObserver : ObserverAddition
  deleteObserver : Bool
  unicast : Bool
  multicastServerStopped : Bool
  networkInformation : Bool
  virtualResource : Bool
  filters : Bool
  discoveryResult : OCStackResult
  discoveryPayload : Option ResponsePayload
  keepAliveResponse : OCEntityHandlerResponse
  interface : CollectionInterface
  links : OCEntityHandlerResponse
  children : List HandlerTurn
  aggregateConverts : OCPayloadFormat → Bool
  group : GroupTurn

/-! ## A request -/

/-- A final response: from a response handler, or directly from `OCHandleRequests`. -/
inductive FinalResponse
  | response (ehResult : OCEntityHandlerResult)
  | direct (result : OCStackResult)

/-- A request while it is handled: itself while it is in `g_serverRequestTree`, whether its handler
is `HandleAggregateResponse`, the response still to come, and what was sent for it. -/
structure Answering where
  request : Option AggregatedRequest
  aggregates : Bool
  late : Option OCEntityHandlerResponse
  sent : List FinalResponse

section Handling

variable (world : RequestWorld)

def Answering.deleteServerRequest (answering : Answering) : Option Answering :=
  match answering.request with
  | some _ => some { answering with request := none }
  | none =>
    match rbFind world.view.behind world.view.stale world.view.others with
    | .notFound => some answering
    | _ => none

def failsToConvert (acceptFormat : OCPayloadFormat) (payload : Option ResponsePayload) : Bool :=
  payload.any (fun payload => acceptFormat.isAccepted && !payload.converts acceptFormat)

section

variable (response : OCEntityHandlerResponse) (answering : Answering)

/-- `HandleSingleResponse`. Which error a failure gives makes no difference. -/
def handleSingleResponse :
    Option (OCStackResult × Answering) := do
  let serverRequest ← answering.request
  if failsToConvert serverRequest.acceptFormat response.payload then
    some (.error, answering)
  else
    let sent := if world.sends then [FinalResponse.response response.ehResult] else []
    let answering ← Answering.deleteServerRequest world
      { answering with sent := answering.sent ++ sent }
    some (if world.sends then .ok else .error, answering)

def handleAggregateResponse : Option (OCStackResult × Answering) :=
  match response.payload with
  | none => some (.invalidParam, answering)
  | some payload => do
      let serverRequest ← answering.request
      if payload.isRepresentation then
        let numResponses := serverRequest.numResponses - 1
        let answering : Answering :=
          { answering with request := some { serverRequest with numResponses := numResponses } }
        if numResponses = 0 then
          let (result, answering) ← handleSingleResponse world
            ⟨.ok, some ⟨true, world.aggregateConverts⟩⟩ answering
          let answering ← answering.deleteServerRequest world
          some (result, answering)
        else some (.ok, answering)
      else some (.error, answering)

def ocDoResponse :
    Option (OCStackResult × Answering) := do
  let _ ← answering.request
  if answering.aggregates then handleAggregateResponse world response answering
  else handleSingleResponse world response answering

end

variable (serverRequest : AggregatedRequest)

def formOCEntityHandlerRequest : OCStackResult :=
  if serverRequest.received.payload ≠ [] ∧ world.parses = false then .error else .ok

/-- The turn of an entity handler and what follows in `HandleDefaultDeviceEntityHandler` and
`HandleResourceWithEntityHandler`. -/
def entityHandlerTurn (turn : HandlerTurn) (answering : Answering) :
    Option (OCStackResult × Answering) := do
  let answering ← turn.response.elim (some answering)
    (fun response => (ocDoResponse world response answering).map Prod.snd)
  let answering ←
    match turn.ehResult with
    | .slow => do
        let serverRequest ← answering.request
        some { answering with
          request := some { serverRequest with slowFlag := true }
          late := turn.late }
    | .error => answering.deleteServerRequest world
    | _ => some answering
  some (entityHandlerCodeToOCStackCode turn.ehResult, answering)

def handleDefaultDeviceEntityHandler (defaultDeviceHandler : HandlerTurn) (answering : Answering) :
    Option (OCStackResult × Answering) :=
  let result := formOCEntityHandlerRequest world serverRequest
  if result ≠ .ok then some (result, answering)
  else entityHandlerTurn world defaultDeviceHandler answering

def ocObserveRegister : UInt32 := 0

def ocObserveDeregister : UInt32 := 1

def ocObserveNoOption : UInt32 := 2

/-- The action that `EHRequest` gives a handler. -/
def observeAction : UInt32 :=
  if serverRequest.notificationFlag then ocObserveNoOption
  else serverRequest.received.observationOption

def handleResourceWithEntityHandler (entityHandler : HandlerTurn)
    (answering : Answering) : Option (OCStackResult × Answering) :=
  let result := formOCEntityHandlerRequest world serverRequest
  if result ≠ .ok then some (result, answering)
  else if observeAction serverRequest = ocObserveNoOption then
    entityHandlerTurn world entityHandler answering
  else if observeAction serverRequest = ocObserveRegister then
    if world.observerPresent then
      (answering.deleteServerRequest world).map (OCStackResult.ok, ·)
    else
      match world.addObserver with
      | .failed => (answering.deleteServerRequest world).map (OCStackResult.noMemory, ·)
      | _ => entityHandlerTurn world entityHandler answering
  else if observeAction serverRequest = ocObserveDeregister then
    if world.observerPresent then
      if world.deleteObserver then entityHandlerTurn world entityHandler answering
      else (answering.deleteServerRequest world).map (OCStackResult.error, ·)
    else some (.error, answering)
  else some (.error, answering)

/-! ## Virtual resources -/

def handleVirtualObserveRequest : OCStackResult :=
  if serverRequest.notificationFlag = true ∨ world.virtualUri ≠ .wellKnownUri then .ok
  else if world.virtualResource then
    if serverRequest.received.observationOption = ocObserveRegister
        ∧ world.observerPresent = true then .duplicateRequest
    else .ok
  else .error

/-- Step 1 of `HandleVirtualResource`: it ends with a result, or goes on to step 2. -/
def discover : Except OCStackResult OCStackResult :=
  match world.virtualUri with
  | .wellKnownUri =>
    if world.networkInformation then
      if world.filters then .ok world.discoveryResult else .error .invalidQuery
    else .error .error
  | .deviceUri | .platformUri | .introspectionPayloadUri =>
    if world.virtualResource then .ok world.discoveryResult else .error .ok
  | .introspectionUri =>
    if world.filters then
      if world.virtualResource then .ok world.discoveryResult else .error .ok
    else .error .invalidQuery
  | _ => .ok .ok

def RequestWorld.discoveryAnswer : Option ResponsePayload :=
  if world.virtualUri = .resourceTypesUri then none else world.discoveryPayload

/-- Step 2 of `HandleVirtualResource`. What `SendNonPersistantDiscoveryResponse` returns is
not looked at. -/
def answerDiscovery (discoveryResult : OCStackResult) (answering : Answering) :
    Option (OCStackResult × Answering) :=
  if discoveryResult = .ok then
    (ocDoResponse world ⟨.ok, world.discoveryAnswer⟩ answering).map
      (fun answered => (.ok, answered.2))
  else if world.unicast then
    (ocDoResponse world
      ⟨if discoveryResult = .noResource then .resourceNotFound else .error, none⟩ answering).map
        (fun answered => (.continueLater, answered.2))
  else (answering.deleteServerRequest world).map (OCStackResult.continueLater, ·)

variable (answering : Answering)

def handleVirtualResource : Option (OCStackResult × Answering) :=
  if world.headResource = false then some (.invalidParam, answering)
  else if world.virtualUri = .keepAliveResourceUri then
    ocDoResponse world world.keepAliveResponse answering
  else if serverRequest.received.method ≠ .get then
    (answering.deleteServerRequest world).map (OCStackResult.unauthorizedReq, ·)
  else
    match handleVirtualObserveRequest world serverRequest with
    | .duplicateRequest => (answering.deleteServerRequest world).map (OCStackResult.ok, ·)
    | .ok =>
      if world.virtualUri = .wellKnownUri ∧ world.multicastServerStopped = true
          ∧ world.unicast = false then
        (answering.deleteServerRequest world).map (OCStackResult.continueLater, ·)
      else
        match discover world with
        | .error result => some (result, answering)
        | .ok discoveryResult => answerDiscovery world discoveryResult answering
    | result => some (result, answering)

/-- `SendResponse(NULL, ehRequest, OC_EH_BAD_REQ)`, after any result but `OC_STACK_OK`. -/
def badRequestUnlessOk (handled : OCStackResult × Answering) :
    Option (OCStackResult × Answering) :=
  if handled.1 = .ok then some handled else ocDoResponse world ⟨.badReq, none⟩ handled.2

def childTurn (handled : OCStackResult × Answering) (child : HandlerTurn) :
    Option (OCStackResult × Answering) := do
  let answering ← child.response.elim (some handled.2)
    (fun response => (ocDoResponse world response handled.2).map Prod.snd)
  if child.ehResult = .slow then
    let serverRequest ← answering.request
    some (.slowResource, { answering with request := some { serverRequest with slowFlag := true } })
  else some (if handled.1 = .slowResource then .slowResource else .ok, answering)

/-- The batch interface: `HandleBatchInterface` after the number of responses is set. -/
def handleBatch : Option (OCStackResult × Answering) :=
  world.children.foldlM (childTurn world)
    (.ok,
      { answering with
        request :=
          some { serverRequest with numResponses := UInt8.ofNat world.children.length }
        aggregates := true })

def startGroup : Answering :=
  match world.group.numResponses with
  | none => answering
  | some numResponses =>
    { answering with
      request := some { serverRequest with numResponses := numResponses }
      aggregates := true }

def handleGroup : Option (OCStackResult × Answering) :=
  match world.group.response with
  | none => some (world.group.result, startGroup world serverRequest answering)
  | some response =>
    (ocDoResponse world response (startGroup world serverRequest answering)).map
      (fun answered =>
        (if answered.1 = .ok then world.group.result else .error, answered.2))

def defaultCollectionEntityHandler : Option (OCStackResult × Answering) :=
  if serverRequest.received.method = .delete then some (.error, answering)
  else if world.filters = false then badRequestUnlessOk world (.noResource, answering)
  else
    match world.interface with
    | .linkedList =>
      if serverRequest.received.method = .get then
        (ocDoResponse world world.links answering).bind (badRequestUnlessOk world)
      else badRequestUnlessOk world (.error, answering)
    | .batch => (handleBatch world serverRequest answering).bind (badRequestUnlessOk world)
    | .group => (handleGroup world serverRequest answering).bind (badRequestUnlessOk world)
    | .other => some (.ok, answering)

def handleCollectionResourceDefaultEntityHandler : Option (OCStackResult × Answering) :=
  let result := formOCEntityHandlerRequest world serverRequest
  if result ≠ .ok then some (result, answering)
  else defaultCollectionEntityHandler world serverRequest answering

/-! ## Requests -/

def determineResourceHandling : Except OCStackResult ResourceHandling :=
  if world.virtualUri ≠ .unknownUri then .ok .virtual
  else if serverRequest.received.resourceUrl.bytes = [] then .error .noResource
  else
    match world.resource with
    | some resource =>
      match resource.endpoint with
      | .unregistered => .error .badEndpoint
      | .noFlags => .error .error
      | .registered =>
        match resource.hasChildren, resource.entityHandler with
        | true, some entityHandler => .ok (.collectionWithEntityHandler entityHandler)
        | true, none => .ok .collectionDefaultEntityHandler
        | false, some entityHandler => .ok (.notCollectionWithEntityHandler entityHandler)
        | false, none => .ok .notCollectionDefaultEntityHandler
    | none =>
      match world.defaultDeviceHandler with
      | some defaultDeviceHandler => .ok (.defaultDeviceEntityHandler defaultDeviceHandler)
      | none => .error .noResource

def processRequest (handling : ResourceHandling)
    (answering : Answering) : Option (OCStackResult × Answering) :=
  match handling with
  | .virtual => handleVirtualResource world serverRequest answering
  | .defaultDeviceEntityHandler defaultDeviceHandler =>
    handleDefaultDeviceEntityHandler world serverRequest defaultDeviceHandler answering
  | .notCollectionDefaultEntityHandler => some (.error, answering)
  | .notCollectionWithEntityHandler entityHandler
  | .collectionWithEntityHandler entityHandler =>
    handleResourceWithEntityHandler world serverRequest entityHandler answering
  | .collectionDefaultEntityHandler =>
    handleCollectionResourceDefaultEntityHandler world serverRequest answering

def handleCompleteRequest : Option (OCStackResult × Answering) :=
  match determineResourceHandling world serverRequest with
  | .error result => some (result, answering)
  | .ok handling => processRequest world serverRequest handling answering

/-- What `OCHandleRequests` does with the result of `HandleStackRequests`. -/
def finishRequest (observationOption : UInt32) (result : OCStackResult)
    (answering : Answering) : Answering :=
  if result = .resourceError ∧ observationOption = ocObserveRegister then answering
  else if ocResultToSuccess result then answering
  else { answering with sent := answering.sent ++ [.direct result] }

def Answering.start (aggregates : Bool) : Answering :=
  ⟨some serverRequest, aggregates, none, []⟩

def ocHandleRequests (tree : ServerRequestTree) (received : OCServerProtocolRequest) :
    Option Answering :=
  let handle (request : OCServerRequest) (aggregates : Bool) : Option Answering :=
    (handleCompleteRequest world ⟨request, world.acceptFormat⟩
      (.start ⟨request, world.acceptFormat⟩ aggregates)).map
        (fun handled => finishRequest received.observationOption handled.1 handled.2)
  match getServerRequestUsingToken world.view.behind received.requestToken tree with
  | .nullPointer => none
  | .notFound => handle (.ofReceived received) false
  | .found request =>
    if request.requestComplete then handle request world.aggregates
    -- it is to be continued, and nothing is sent
    else some (.start ⟨request, world.acceptFormat⟩ world.aggregates)

def respondLate : Option Answering :=
  match answering.late with
  | none => some answering
  | some response => (ocDoResponse world response answering).map Prod.snd

end Handling

open Option

def Answering.Once (answering : Answering) : Prop :=
  answering.sent.length ≤ 1 ∧ (answering.sent ≠ [] → answering.request = none)

/-- **A request is answered once.** Neither `OCHandleRequests` nor the handler that responds later
does anything undefined; after both the request was answered at most once, and is forgotten if it
was. -/
def AnsweredOnce (world : RequestWorld) (tree : ServerRequestTree)
    (received : OCServerProtocolRequest) : Prop :=
  ∃ answering, ocHandleRequests world tree received = some answering ∧ answering.Once
    ∧ ∃ later, respondLate world answering = some later ∧ later.Once

/-- A response leaves the request where it is, with a result; or the request is gone, with the
response sent or not; or a freed request is freed again. -/
inductive ResponseFate
  | kept (result : OCStackResult)
  | ended (sent : Bool)
  | undefined
  deriving DecidableEq

section Fate

variable (world : RequestWorld)

def RequestWorld.freesAgain : Bool :=
  rbFind world.view.behind world.view.stale world.view.others ≠ .notFound

def responseFate (aggregates : Bool) (serverRequest : AggregatedRequest)
    (response : OCEntityHandlerResponse) : ResponseFate :=
  if aggregates then
    match response.payload with
    | none => .kept .invalidParam
    | some payload =>
      if payload.isRepresentation = false then .kept .error
      else if serverRequest.numResponses - 1 ≠ 0 then .kept .ok
      else if failsToConvert serverRequest.acceptFormat (some ⟨true, world.aggregateConverts⟩)
        then .ended false
      else if world.freesAgain then .undefined else .ended world.sends
  else if failsToConvert serverRequest.acceptFormat response.payload then .kept .error
  else .ended world.sends

def ResponseFate.MayBeHandedOn : ResponseFate → Prop
  | kept result => ocResultToSuccess result = true
  | ended _ => True
  | undefined => False

end Fate

/-! ## Responses -/

section Responses

variable {world : RequestWorld} {answering : Answering} {serverRequest : AggregatedRequest}

lemma deleteServerRequest_there (h : answering.request = some serverRequest) :
    answering.deleteServerRequest world = some { answering with request := none } := by
  unfold Answering.deleteServerRequest
  rw [h]

lemma deleteServerRequest_gone (h : answering.request = none) :
    answering.deleteServerRequest world = if world.freesAgain then none else some answering := by
  unfold Answering.deleteServerRequest RequestWorld.freesAgain
  rw [h]
  cases rbFind world.view.behind world.view.stale world.view.others <;> rfl

/-- A request that is there takes a response as its fate says. One that is kept as a fragment
is counted. -/
def TakesResponse (world : RequestWorld) (serverRequest : AggregatedRequest)
    (response : OCEntityHandlerResponse) (answering : Answering) : ResponseFate → Prop
  | .kept result =>
    ocDoResponse world response answering
      = some (result,
          { answering with
            request := some
              { serverRequest with
                numResponses := if result = .ok then serverRequest.numResponses - 1
                  else serverRequest.numResponses } })
  | .ended sent =>
    ∃ ehResult, ocDoResponse world response answering
      = some (if sent then .ok else .error,
          { answering with
            request := none
            sent := answering.sent
              ++ if sent then [FinalResponse.response ehResult] else [] })
  | .undefined => ocDoResponse world response answering = none

lemma takesResponse_refused (h : answering.request = some serverRequest)
    {response : OCEntityHandlerResponse} {result : OCStackResult} (hresult : result ≠ .ok)
    (hrefused : ocDoResponse world response answering = some (result, answering)) :
    TakesResponse world serverRequest response answering (.kept result) := by
  unfold TakesResponse
  dsimp only
  rw [hrefused, if_neg hresult, ← h]

lemma handleSingleResponse_there (h : answering.request = some serverRequest)
    (response : OCEntityHandlerResponse) :
    handleSingleResponse world response answering
      = if failsToConvert serverRequest.acceptFormat response.payload then
          some (.error, answering)
        else
          some (if world.sends then .ok else .error,
            { answering with
              request := none
              sent := answering.sent
                ++ if world.sends then [FinalResponse.response response.ehResult] else [] }) := by
  unfold handleSingleResponse
  simp only [h, bind_eq_bind, bind_some]
  split_ifs
  · rfl
  · rw [deleteServerRequest_there rfl]
    rfl
  · rw [deleteServerRequest_there rfl]
    rfl

variable (world) in
lemma ocDoResponse_fate (h : answering.request = some serverRequest)
    (response : OCEntityHandlerResponse) :
    TakesResponse world serverRequest response answering
      (responseFate world answering.aggregates serverRequest response) := by
  have hsingle : answering.aggregates = false →
      ocDoResponse world response answering = handleSingleResponse world response answering := by
    intro haggregates
    unfold ocDoResponse
    simp [h, haggregates]
  have haggregate : answering.aggregates = true → ocDoResponse world response answering
        = handleAggregateResponse world response answering := by
    intro haggregates
    unfold ocDoResponse
    simp [h, haggregates]
  unfold responseFate
  by_cases haggregates : answering.aggregates = true
  · rw [if_pos haggregates]
    cases hpayload : response.payload with
    | none =>
      refine takesResponse_refused h (by decide) ?_
      rw [haggregate haggregates, handleAggregateResponse, hpayload]
    | some payload =>
      have hhandle : ocDoResponse world response answering
          = handleAggregateResponse world response answering := haggregate haggregates
      unfold handleAggregateResponse at hhandle
      simp only [hpayload, h, bind_eq_bind, bind_some] at hhandle
      dsimp only
      by_cases hrepresentation : payload.isRepresentation = true
      · rw [if_pos hrepresentation] at hhandle
        rw [if_neg (by rw [hrepresentation]; decide)]
        by_cases hlast : serverRequest.numResponses - 1 = 0
        · -- the last fragment: the response is sent, and the request deleted once more
          rw [if_pos hlast, handleSingleResponse_there rfl] at hhandle
          rw [if_neg (not_not.mpr hlast)]
          dsimp only at hhandle
          by_cases hfails : failsToConvert serverRequest.acceptFormat
              (some ⟨true, world.aggregateConverts⟩) = true
          · rw [if_pos hfails, bind_some, deleteServerRequest_there rfl] at hhandle
            rw [if_pos hfails]
            refine ⟨.ok, hhandle.trans ?_⟩
            simp
          rw [if_neg hfails, bind_some, deleteServerRequest_gone rfl] at hhandle
          rw [if_neg hfails]
          by_cases hagain : world.freesAgain = true
          · rw [if_pos hagain] at hhandle ⊢
            exact hhandle
          rw [if_neg hagain] at hhandle ⊢
          exact ⟨.ok, hhandle⟩
        rw [if_neg hlast] at hhandle
        rw [if_pos hlast]
        exact hhandle
      rw [if_neg hrepresentation] at hhandle
      rw [if_pos (Bool.eq_false_iff.mpr hrepresentation)]
      exact takesResponse_refused h (by decide) hhandle
  · rw [if_neg haggregates]
    have hhandle := hsingle (Bool.eq_false_iff.mpr haggregates)
    rw [handleSingleResponse_there h] at hhandle
    by_cases hfails : failsToConvert serverRequest.acceptFormat response.payload = true
    · rw [if_pos hfails] at hhandle ⊢
      exact takesResponse_refused h (by decide) hhandle
    rw [if_neg hfails] at hhandle ⊢
    exact ⟨_, hhandle⟩

lemma result_of_kept {aggregates : Bool} {response : OCEntityHandlerResponse}
    {result : OCStackResult}
    (h : responseFate world aggregates serverRequest response = .kept result) :
    result ≠ .resourceError := by
  unfold responseFate at h
  split at h
  · split at h
    · cases h
      decide
    · split_ifs at h <;> cases h <;> decide
  split_ifs at h
  cases h
  decide

end Responses

/-! ## The end of a request -/

def Settled (world : RequestWorld) (observationOption : UInt32)
    (handled : Option (OCStackResult × Answering)) : Prop :=
  ∃ answering, handled.map (fun handled => finishRequest observationOption handled.1 handled.2)
      = some answering
    ∧ answering.Once ∧ ∃ later, respondLate world answering = some later ∧ later.Once

structure Answering.Fresh (answering : Answering) (serverRequest : AggregatedRequest) : Prop where
  request : answering.request = some serverRequest
  late : answering.late = none
  sent : answering.sent = []

lemma Answering.Fresh.kept {answering : Answering} {serverRequest : AggregatedRequest}
    (h : answering.Fresh serverRequest) (kept : AggregatedRequest) :
    Answering.Fresh { answering with request := some kept } kept :=
  ⟨rfl, h.late, h.sent⟩

section Settled

variable {world : RequestWorld} {observationOption : UInt32} {answering : Answering}
  {serverRequest : AggregatedRequest} {result : OCStackResult}

lemma not_settled_none : ¬ Settled world observationOption none := by
  rintro ⟨answering, h, -⟩
  cases h

lemma finishRequest_eq (h : result ≠ .resourceError) :
    finishRequest observationOption result answering = if ocResultToSuccess result then answering
        else { answering with sent := answering.sent ++ [.direct result] } := by
  unfold finishRequest
  rw [if_neg (h ·.1)]

lemma settled_some (hlate : answering.late = none) (hresult : result ≠ .resourceError) :
    Settled world observationOption (some (result, answering))
      ↔ (finishRequest observationOption result answering).Once := by
  have hkeeps : (finishRequest observationOption result answering).late = none := by
    rw [finishRequest_eq hresult]
    split_ifs
    · exact hlate
    · exact hlate
  have hnothing : respondLate world (finishRequest observationOption result answering)
      = some (finishRequest observationOption result answering) := by
    unfold respondLate
    rw [hkeeps]
  constructor
  · rintro ⟨finished, h, honce, -⟩
    cases h
    exact honce
  · intro honce
    exact ⟨_, rfl, honce, _, hnothing, honce⟩

lemma settled_there (h : answering.Fresh serverRequest) (hresult : result ≠ .resourceError) :
    Settled world observationOption (some (result, answering))
      ↔ ocResultToSuccess result = true := by
  rw [settled_some h.late hresult, finishRequest_eq hresult]
  unfold Answering.Once
  split_ifs with hsuccess
  · rw [h.sent]
    simp [hsuccess]
  · simp [h.sent, h.request, hsuccess]

lemma settled_gone (hrequest : answering.request = none) (hlate : answering.late = none)
    (hsent : answering.sent = []) (hresult : result ≠ .resourceError) :
    Settled world observationOption (some (result, answering)) := by
  rw [settled_some hlate hresult, finishRequest_eq hresult]
  unfold Answering.Once
  split_ifs
  · simp [hsent]
  · simp [hsent, hrequest]

lemma settled_sent (response : FinalResponse) (hrequest : answering.request = none)
    (hlate : answering.late = none) (hsent : answering.sent = [response])
    (hresult : result ≠ .resourceError) :
    Settled world observationOption (some (result, answering))
      ↔ ocResultToSuccess result = true := by
  rw [settled_some hlate hresult, finishRequest_eq hresult]
  unfold Answering.Once
  split_ifs with hsuccess
  · simp [hsent, hrequest, hsuccess]
  · simp [hsent, hsuccess]

section

variable (h : answering.Fresh serverRequest)
include h

lemma settled_ended (sent : Bool) (ehResult : OCEntityHandlerResult)
    (hresult : result ≠ .resourceError) :
    Settled world observationOption (some (result,
        { answering with
          request := none
          sent := answering.sent
            ++ if sent then [FinalResponse.response ehResult] else [] }))
      ↔ sent = false ∨ ocResultToSuccess result = true := by
  rw [h.sent, List.nil_append]
  cases sent with
  | true =>
    have hanswered : Settled world observationOption (some (result,
        { answering with request := none, sent := [FinalResponse.response ehResult] }))
          ↔ ocResultToSuccess result = true :=
      settled_sent (.response ehResult) rfl h.late rfl hresult
    rw [if_pos rfl, hanswered]
    simp
  | false => exact iff_of_true (settled_gone rfl h.late rfl hresult) (.inl rfl)

lemma settled_deleted (hresult : result ≠ .resourceError) :
    Settled world observationOption ((answering.deleteServerRequest world).map (result, ·)) := by
  rw [deleteServerRequest_there h.request, map_some]
  exact settled_gone rfl h.late h.sent hresult

lemma settled_handedOn (response : OCEntityHandlerResponse) :
    Settled world observationOption (ocDoResponse world response answering)
      ↔ (responseFate world answering.aggregates serverRequest response).MayBeHandedOn := by
  have htakes := ocDoResponse_fate world h.request response
  cases hfate : responseFate world answering.aggregates serverRequest response with
  | kept result =>
    rw [hfate] at htakes
    rw [show ocDoResponse world response answering = _ from htakes]
    exact settled_there ⟨rfl, h.late, h.sent⟩ (result_of_kept hfate)
  | ended sent =>
    rw [hfate] at htakes
    obtain ⟨ehResult, htakes⟩ := htakes
    rw [htakes, ResponseFate.MayBeHandedOn, iff_true]
    refine (settled_ended h sent ehResult ?_).mpr ?_
    · cases sent <;> decide
    · cases sent
      · exact .inl rfl
      · exact .inr rfl
  | undefined =>
    rw [hfate] at htakes
    rw [show ocDoResponse world response answering = none from htakes]
    exact iff_of_false not_settled_none id

lemma settled_ignored (response : OCEntityHandlerResponse) (hresult : result ≠ .resourceError)
    (hsuccess : ocResultToSuccess result = true) :
    Settled world observationOption
        ((ocDoResponse world response answering).map (fun answered => (result, answered.2)))
      ↔ responseFate world answering.aggregates serverRequest response ≠ .undefined := by
  have htakes := ocDoResponse_fate world h.request response
  cases hfate : responseFate world answering.aggregates serverRequest response with
  | kept kept =>
    rw [hfate] at htakes
    rw [show ocDoResponse world response answering = _ from htakes, map_some]
    refine iff_of_true ?_ ResponseFate.noConfusion
    exact (settled_there (h.kept _) hresult).mpr hsuccess
  | ended sent =>
    rw [hfate] at htakes
    obtain ⟨ehResult, htakes⟩ := htakes
    rw [htakes, map_some]
    exact iff_of_true ((settled_ended h sent ehResult hresult).mpr (.inr hsuccess))
      ResponseFate.noConfusion
  | undefined =>
    rw [hfate] at htakes
    rw [show ocDoResponse world response answering = none from htakes]
    exact iff_of_false not_settled_none (· rfl)

end

lemma fate_without_payload (aggregates : Bool) (ehResult : OCEntityHandlerResult) :
    responseFate world aggregates serverRequest ⟨ehResult, none⟩
      = if aggregates then .kept .invalidParam else .ended world.sends := by
  cases aggregates <;> rfl

lemma ocDoResponse_gone (h : answering.request = none) (response : OCEntityHandlerResponse) :
    ocDoResponse world response answering = none := by
  unfold ocDoResponse
  rw [h]
  rfl

lemma badRequestUnlessOk_ok (answering : Answering) :
    badRequestUnlessOk world (.ok, answering) = some (.ok, answering) := rfl

lemma settled_badRequest (h : answering.Fresh serverRequest) {result : OCStackResult}
    (hresult : result ≠ .ok) :
    Settled world observationOption (badRequestUnlessOk world (result, answering))
      ↔ answering.aggregates = false := by
  unfold badRequestUnlessOk
  rw [if_neg hresult, settled_handedOn h, fate_without_payload]
  cases answering.aggregates with
  | true =>
    have herror : ¬ ocResultToSuccess .invalidParam = true := by decide
    exact iff_of_false herror (by decide)
  | false => exact iff_of_true trivial rfl

end Settled

end Iochibity.Ocf
