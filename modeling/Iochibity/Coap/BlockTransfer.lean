/-
Block-wise transfer (`src/coap/cablockwisetransfer.c`): the list of running transfers, the
reassembly of received blocks and the choice of the next message.
-/
import Iochibity.Lib.Buffer
import Iochibity.Lib.FirstMatch
import Iochibity.Coap.Message

namespace Iochibity.Coap

open Buffer

section

/-! ## The transfer list -/

/-- `COAP_OPTION_BLOCK1` and `COAP_OPTION_BLOCK2`. -/
inductive BlockType
  | block1
  | block2
  deriving DecidableEq

inductive CABlockState
  | unknown
  | option1Response
  | option1RequestLastBlock
  | option1RequestBlock
  | option2FirstBlock
  | option2LastBlock
  | option2Response
  | option2Request
  | incomplete
  | tooLarge
  | receivedAlready
  deriving DecidableEq

abbrev CABlockDataID := List UInt8

/-- `CABlockData_t`. `payload` is the allocated buffer, its length the capacity and `none` the null
pointer; `type` is `none` until the first block option is seen or sent. -/
structure CABlockData where
  block1 : CoapBlock
  block2 : CoapBlock
  type : Option BlockType
  blockDataId : CABlockDataID
  sentData : CAData
  payload : Option (List UInt8)
  payloadLength : Nat
  receivedPayloadLen : Nat
  deriving DecidableEq

def CABlockData.capacity (data : CABlockData) : Nat :=
  (data.payload.getD []).length

structure CABlockMulticastData where
  token : List UInt8
  resourceUri : Option String
  deriving DecidableEq

/-- `CABlockWiseContext_t`: the two array lists. -/
structure CABlockWiseContext where
  dataList : List CABlockData
  multicastDataList : List CABlockMulticastData
  deriving DecidableEq

inductive Event
  /-- `g_context.sendThreadFunc(data)` -/
  | send (data : CAData)
  /-- `g_context.receivedThreadFunc(data)` -/
  | receive (data : CAData)
  /-- a `memcpy` of `CAUpdatePayloadData` -/
  | copy (c : MemCopy)
  deriving DecidableEq

structure Outcome where
  res : CAResult
  ctx : CABlockWiseContext
  log : List Event
  deriving DecidableEq

def blockSize (szx : Nat) : Nat := 1 <<< (szx + 4)

def caDefaultBlockSize : Nat := 6

def caBlockSize1024Byte : Nat := 6

def coapMaxPduSize : Nat := 1400

lemma blockSize_eq (szx : Nat) : blockSize szx = 2 ^ (szx + 4) := by
  rw [blockSize, Nat.one_shiftLeft]

def portBytes (portNumber : UInt16) : List UInt8 :=
  [(portNumber >>> 8).toUInt8, portNumber.toUInt8]

def caCreateBlockDatablockId (token : CAToken) (addr : CString) (portNumber : UInt16) :
    CABlockDataID :=
  token.bytes ++ portBytes portNumber ++ addr.bytes

/-- `CABlockidMatches`: equal lengths and equal bytes. -/
def caBlockidMatches (currData : CABlockData) (blockID : CABlockDataID) : Bool :=
  decide (currData.blockDataId = blockID)

/-! ## List operations

All of them act on the first entry that matches the id. -/

variable (ctx : CABlockWiseContext)

variable (blockID : CABlockDataID)

def caGetBlockDataFromBlockDataList : Option CABlockData :=
  FirstMatch.lookup CABlockData.blockDataId blockID ctx.dataList

/-- Write through the pointer that `caGetBlockDataFromBlockDataList` returned. -/
def modifyBlockData (f : CABlockData → CABlockData) : CABlockWiseContext :=
  { ctx with dataList := FirstMatch.modify CABlockData.blockDataId blockID f ctx.dataList }

/-- `CARemoveBlockDataFromList`; it reports success also when there is nothing
to remove. -/
def caRemoveBlockDataFromList : CABlockWiseContext :=
  { ctx with dataList := FirstMatch.erase CABlockData.blockDataId blockID ctx.dataList }

def caUpdateBlockOptionType (blockType : BlockType) : CABlockWiseContext :=
  modifyBlockData ctx blockID ({ · with type := some blockType })

def caGetBlockOption (blockType : BlockType) : Option CoapBlock :=
  (caGetBlockDataFromBlockDataList ctx blockID).map fun data =>
    match blockType with
    | .block1 => data.block1
    | .block2 => data.block2

/-- `CAGetBlockMulticastDataFromListWithSeed`: the first multicast request whose
token is a prefix of the bytes given. -/
def caGetBlockMulticastDataFromListWithSeed (seed : List UInt8) : Option CABlockMulticastData :=
  if seed = [] then none
  else ctx.multicastDataList.find? fun currData =>
    currData.token.length ≤ seed.length && seed.take currData.token.length == currData.token

/-- The entry that `CACreateNewBlockData` appends: default block sizes, everything else zero, under
the token of the request, else of the response. -/
def newBlockData (sendData : CAData) : CABlockData :=
  let token :=
    match sendData.requestInfo with
    | some req => req.info.token
    | none =>
      match sendData.responseInfo with
      | some res => res.info.token
      | none => CAToken.null
  { block1 := ⟨0, false, caDefaultBlockSize⟩
    block2 := ⟨0, false, caDefaultBlockSize⟩
    type := none
    blockDataId := caCreateBlockDatablockId token sendData.remoteEndpoint.addr
      sendData.remoteEndpoint.port
    sentData := sendData
    payload := none
    payloadLength := 0
    receivedPayloadLen := 0 }

def caCreateNewBlockData (sendData : CAData) : CABlockWiseContext :=
  { ctx with dataList := ctx.dataList ++ [newBlockData sendData] }

/-- `CACreateNewDataSet`: the data set that will carry the answer to the first PDU of a transfer.
`OICMalloc(0)` fails, so a PDU without a token gets none. -/
def caCreateNewDataSet (pdu : CoapPdu) (endpoint : CAEndpoint) : Option CAData :=
  if pdu.token.bytes = [] then none
  else if isRequestCode pdu.code then
    some { remoteEndpoint := endpoint
           requestInfo := none
           responseInfo := some ⟨0, { CAInfo.zero with token := pdu.token }, false⟩
           dataType := none }
  else
    some { remoteEndpoint := endpoint
           requestInfo := some ⟨caGet, { CAInfo.zero with
             token := pdu.token, messageId := pdu.id, resourceUri := pdu.uri }, false⟩
           responseInfo := none
           dataType := none }

/-- The URI of a new request data set that came without one: that of the multicast request whose
token starts the id. If that is missing too, the copy fails, and the data set with it. -/
def fillResourceUri (blockDataID : CABlockDataID) (cadata : CAData) : Option CAData :=
  match cadata.requestInfo with
  | none => some cadata
  | some req =>
    if req.info.resourceUri ≠ none then some cadata
    else
      match caGetBlockMulticastDataFromListWithSeed ctx blockDataID with
      | none => some cadata
      | some currData =>
        match currData.resourceUri with
        | none => none
        | some uri =>
          let info := { req.info with resourceUri := some uri }
          some { cadata with requestInfo := some { req with info := info } }

/-- `CACheckTheExistOfBlockData`: find the entry of this id or append a new one,
then note the option type on it. -/
def caCheckTheExistOfBlockData (blockDataID : CABlockDataID) (pdu : CoapPdu) (endpoint : CAEndpoint)
    (blockType : BlockType) : Option CABlockWiseContext :=
  match caGetBlockDataFromBlockDataList ctx blockDataID with
  | some _ => some (caUpdateBlockOptionType ctx blockDataID blockType)
  | none =>
    match (caCreateNewDataSet pdu endpoint).bind (fillResourceUri ctx blockDataID) with
    | none => none
    | some cadata =>
      some (caUpdateBlockOptionType (caCreateNewBlockData ctx cadata) blockDataID blockType)

/-! ## Checking and storing one block -/

/-- A difference of two `size_t`. -/
def sizeSub (a b : Nat) : Nat := (a + 2 ^ 64 - b) % 2 ^ 64

/-- A sum of two `size_t`. -/
def sizeAdd (a b : Nat) : Nat := (a + b) % 2 ^ 64

/-- The loop of `CACheckBlockErrorType` for the largest block size with which a PDU of this option
length fits, from the default size down to 0. -/
def replaceSzx (optionLen : Nat) : Nat → Option Nat
  | 0 => if sizeAdd (blockSize 0) optionLen ≤ coapMaxPduSize then some 0 else none
  | size + 1 =>
    if sizeAdd (blockSize (size + 1)) optionLen ≤ coapMaxPduSize then some (size + 1)
    else replaceSzx optionLen size

def CABlockData.withSzx (data : CABlockData) : Option Nat → CABlockData
  | some size =>
    { data with
      block1 := { data.block1 with szx := size }
      block2 := { data.block2 with szx := size } }
  | none => data

variable (currData : CABlockData)

/-- `CACheckBlockErrorType`: is this the next block, and does its length fit? The too-large case
lowers the block sizes of the entry. -/
def caCheckBlockErrorType (receivedBlock : CoapBlock) (receivedData : CAData)
    (blockType : BlockType) (dataLen : Nat) : CABlockState × CABlockData :=
  let blockPayloadLen := (caGetPayloadInfo receivedData).length
  -- #2. check if the block sequence is right
  let outOfOrder : Option CABlockState :=
    match blockType with
    | .block1 =>
      if currData.receivedPayloadLen ≠ blockSize receivedBlock.szx * receivedBlock.num then
        if receivedBlock.num > currData.block1.num + 1 then some .incomplete
        else some .receivedAlready
      else none
    | .block2 =>
      if receivedBlock.num ≠ currData.block2.num then
        if receivedBlock.num > currData.block2.num then some .incomplete
        else some .receivedAlready
      else none
  match outOfOrder with
  | some status => (status, currData)
  | none =>
    -- #3. check if error check logic is required
    let optionLen := sizeSub dataLen blockPayloadLen
    if receivedBlock.m && blockPayloadLen != blockSize receivedBlock.szx then
      if coapMaxPduSize < sizeAdd (blockSize receivedBlock.szx) optionLen then
        (.tooLarge, currData.withSzx (replaceSzx optionLen caDefaultBlockSize))
      else (.incomplete, currData)
    else if !receivedBlock.m && currData.payloadLength != 0
        && currData.receivedPayloadLen + blockPayloadLen != currData.payloadLength then
      (.incomplete, currData)
    else (.unknown, currData)

/-- The length that `CAUpdatePayloadData` copies: that of the payload, or the
replaced block size after a too-large block. -/
def storedPayloadLen (receivedData : CAData) (status : CABlockState)
    (blockType : BlockType) : Nat :=
  if status = .tooLarge then
    match blockType with
    | .block1 => blockSize currData.block1.szx
    | .block2 => blockSize currData.block2.szx
  else (caGetPayloadInfo receivedData).length

/-- `CAUpdatePayloadData`: append the block at `receivedPayloadLen`. With an announced total the
buffer is allocated once, by the message with the size option; otherwise it grows with every
block. -/
def caUpdatePayloadData (receivedData : CAData) (status : CABlockState) (isSizeOption : Bool)
    (blockType : BlockType) : CABlockData × List MemCopy :=
  let blockPayload := caGetPayloadInfo receivedData
  let blockPayloadLen := storedPayloadLen currData receivedData status blockType
  let prePayloadLen := currData.receivedPayloadLen
  if status = .incomplete ∨ blockPayload = [] then (currData, [])
  else if currData.payloadLength ≠ 0 then
    -- nothing compares the announced length with what is copied
    let prePayload := currData.payload.getD []
    let alloc : Option (List UInt8) × List MemCopy :=
      if isSizeOption then
        (some (memcpy (calloc currData.payloadLength) 0 prePayload prePayloadLen),
          [⟨currData.payloadLength, 0, prePayload.length, prePayloadLen⟩])
      else (currData.payload, [])
    ({ currData with
        payload := alloc.1.map (memcpy · prePayloadLen blockPayload blockPayloadLen)
        receivedPayloadLen := prePayloadLen + blockPayloadLen },
      alloc.2 ++ [⟨(alloc.1.getD []).length, prePayloadLen, blockPayload.length, blockPayloadLen⟩])
  else
    let totalPayloadLen := prePayloadLen + blockPayloadLen
    let newPayload := realloc (currData.payload.getD []) totalPayloadLen
    ({ currData with
        payload := some (memcpy newPayload prePayloadLen blockPayload blockPayloadLen)
        receivedPayloadLen := totalPayloadLen },
      [⟨totalPayloadLen, prePayloadLen, blockPayload.length, blockPayloadLen⟩])

/-! ## The next block option -/

def caNegotiateBlockSize (block : CoapBlock) (pdu : CoapPdu) (blockType : BlockType) : CoapBlock :=
  match blockType with
  | .block2 =>
    if block.szx > currData.block2.szx then
      if isRequestCode pdu.code then { block with szx := currData.block2.szx }
      else
        -- from here on it counts in the smaller blocks
        { block with
          num := block.num + (blockSize block.szx / blockSize currData.block2.szx - 1)
          szx := currData.block2.szx }
    else block
  | .block1 =>
    if isRequestCode pdu.code then
      if block.szx > currData.block1.szx then { block with szx := currData.block1.szx }
      else block
    else if block.szx < currData.block1.szx then
      { block with
        num := block.num + (blockSize currData.block1.szx / blockSize block.szx - 1) }
    else block

def caHandleBlockErrorResponse (block : CoapBlock) (blockType : BlockType)
    (responseResult : Nat) : Option CoapBlock :=
  if responseResult = caRequestEntityIncomplete then some { block with num := 0 }
  else if responseResult = caRequestEntityTooLarge then
    match blockType with
    | .block1 => some { block with num := block.num + 1, m := false }
    | .block2 => some { block with m := false }
  else none

def caUpdateBlockOptionItems (pdu : CoapPdu) (block : CoapBlock) (blockType : BlockType)
    (status : CABlockState) : Option CoapBlock :=
  if isBlockErrorCode pdu.code then
    caHandleBlockErrorResponse block blockType (caResponseCode pdu.code)
  else
    match status with
    | .option1Response =>
      -- the acknowledged block was passed before
      if currData.block1.num > block.num then none
      else some (caNegotiateBlockSize currData { block with num := block.num + 1 } pdu blockType)
    | .option2Request =>
      some (caNegotiateBlockSize currData { block with m := false } pdu blockType)
    | .option2Response =>
      if currData.block2.num > block.num then none
      else some (caNegotiateBlockSize currData
        { block with num := block.num + 1, m := false } pdu blockType)
    | .tooLarge =>
      match blockType with
      | .block2 => some { num := block.num + 1, m := false, szx := currData.block2.szx }
      | .block1 => some { block with szx := currData.block1.szx }
    | .incomplete => some block
    | _ => some (caNegotiateBlockSize currData block pdu blockType)

def caUpdateBlockData (block : CoapBlock) (blockType : BlockType) : Option CABlockData :=
  if block.szx > caBlockSize1024Byte then none
  else
    match blockType with
    | .block2 => some { currData with block2 := block }
    | .block1 => some { currData with block1 := block }

/-! ## Sending -/

variable (sendData : CAData)

def caCheckPayloadLength : Bool :=
  decide ((caGetPayloadInfo sendData).length > blockSize caDefaultBlockSize)

/-- `CACheckBlockDataValidation`: a response to a transfer that is still in the
list replaces the data set stored there. -/
def caCheckBlockDataValidation : Option (CABlockDataID × CABlockWiseContext) :=
  match sendData.responseInfo with
  | none => none
  | some res =>
    let blockDataID := caCreateBlockDatablockId res.info.token sendData.remoteEndpoint.addr
      sendData.remoteEndpoint.port
    match caGetBlockDataFromBlockDataList ctx blockDataID with
    | none => none
    | some _ =>
      some (blockDataID, modifyBlockData ctx blockDataID ({ · with sentData := sendData }))

/-- `CACheckBlockOptionType`: the option a large message goes out with. -/
def caCheckBlockOptionType : Option BlockType :=
  if caCheckPayloadLength sendData then
    some (if sendData.requestInfo.isSome then .block1 else .block2)
  else none

def caCreateNewBlockMulticastData (req : CARequestInfo) : Option CABlockWiseContext :=
  if req.info.token.bytes = [] then none
  else some { ctx with multicastDataList :=
    ctx.multicastDataList ++ [⟨req.info.token.bytes, req.info.resourceUri⟩] }

/-- `CASendBlockWiseData` after the tests for reset and multicast messages. -/
def caSendUnicastBlockWiseData : Outcome :=
  match caCheckBlockDataValidation ctx sendData with
  | some (blockDataID, ctx) =>
    match caCheckBlockOptionType sendData with
    | none => ⟨.notSupported, ctx, []⟩
    | some blockType =>
      ⟨.ok, caUpdateBlockOptionType ctx blockDataID blockType, [.send sendData]⟩
  | none =>
    match caCheckBlockOptionType sendData with
    | none =>
      if sendData.requestInfo.isSome then
        ⟨.notSupported, caCreateNewBlockData ctx sendData, []⟩
      else ⟨.notSupported, ctx, []⟩
    | some blockType =>
      -- the type goes to the entry just appended, not to the first of its id
      ⟨.ok, { ctx with dataList := ctx.dataList
          ++ [{ newBlockData sendData with type := some blockType }] },
        [.send sendData]⟩

def caSendBlockWiseData : Outcome :=
  match sendData.requestInfo, sendData.responseInfo with
  | some req, _ =>
    if req.info.type = .reset then ⟨.notSupported, ctx, []⟩
    else if req.isMulticast then
      match caGetBlockMulticastDataFromListWithSeed ctx req.info.token.bytes with
      | some _ => ⟨.notSupported, ctx, []⟩
      | none =>
        match caCreateNewBlockMulticastData ctx req with
        | some ctx => ⟨.notSupported, ctx, []⟩
        | none => ⟨.memoryAllocFailed, ctx, []⟩
    else caSendUnicastBlockWiseData ctx sendData
  | none, some res =>
    if res.info.type = .reset ∨ res.isMulticast then ⟨.notSupported, ctx, []⟩
    else caSendUnicastBlockWiseData ctx sendData
  | none, none => caSendUnicastBlockWiseData ctx sendData

/-- `CASendResponse` through `CADetachSendMessage`: block-wise if the payload
is large, else straight to the send thread. -/
def caSendResponse (endpoint : CAEndpoint) (resp : CAResponseInfo) : Outcome :=
  let data : CAData :=
    { remoteEndpoint := endpoint, requestInfo := none, responseInfo := some resp
      dataType := some .responseData }
  let out := caSendBlockWiseData ctx data
  if out.res = .notSupported then ⟨.ok, out.ctx, out.log ++ [.send data]⟩ else out

def caSendDirectEmptyResponse (endpoint : CAEndpoint) (messageId : Nat) : Outcome :=
  caSendResponse ctx endpoint
    ⟨caEmpty, { CAInfo.zero with type := .acknowledge, messageId := messageId }, false⟩

def sentMsgType : CAMessageType → CAMessageType
  | .confirm => .acknowledge
  | .acknowledge => .confirm
  | _ => .nonconfirm

def CAInfo.stamp (info : CAInfo) (messageId : Nat) (type : CAMessageType) : CAInfo :=
  { info with messageId := messageId, type := type }

/-- `CASendBlockMessage`: stamp the stored data set as an answer to this PDU and queue it. A
confirmable response is acknowledged first, with an empty message that has a send path of its
own. -/
def caSendBlockMessage (pdu : CoapPdu) (blockID : CABlockDataID) : Outcome :=
  match caGetBlockDataFromBlockDataList ctx blockID with
  | none => ⟨.failed, ctx, []⟩
  | some currData =>
    let data := currData.sentData
    let sentType := sentMsgType pdu.type
    let store (ctx : CABlockWiseContext) (data : CAData) :=
      modifyBlockData ctx blockID ({ · with sentData := data })
    if isRequestCode pdu.code then
      let data := { data with responseInfo := data.responseInfo.map fun res =>
        { res with result := caContinue, info := res.info.stamp pdu.id sentType } }
      ⟨.ok, store ctx data, [.send data]⟩
    else
      match data.requestInfo with
      | some req =>
        -- the ACK carries the message id of the stored request, not of the PDU
        let ack : Outcome :=
          if pdu.type = .confirm then
            caSendDirectEmptyResponse ctx data.remoteEndpoint req.info.messageId
          else ⟨.ok, ctx, []⟩
        let sentType := if pdu.type = .confirm then .confirm else sentType
        let req := { req with info := req.info.stamp 0 sentType }
        let data := { data with requestInfo := some req }
        ⟨.ok, store ack.ctx data, ack.log ++ [.send data]⟩
      | none =>
        let data := { data with responseInfo := data.responseInfo.map fun res =>
          { res with info := res.info.stamp pdu.id sentType } }
        ⟨.ok, store ctx data, [.send data]⟩

/-- What `CASendErrorMessage` does to an entry after a 4.08: the stored payload
goes and both block numbers start over. -/
def CABlockData.restart (data : CABlockData) : CABlockData :=
  { data with
    payload := none
    payloadLength := 0
    receivedPayloadLen := 0
    block1 := { data.block1 with num := 0 }
    block2 := { data.block2 with num := 0 } }

/-- The error response of `CASendErrorMessage`: the stored response with the new result, or a fresh
one, which needs a token to be allocated. -/
def errorResponse (sentData : CAData) (pdu : CoapPdu) (responseResult : Nat) :
    Option CAResponseInfo :=
  match sentData.responseInfo with
  | some res =>
    some { res with result := responseResult,
                    info := res.info.stamp pdu.id (sentMsgType pdu.type) }
  | none =>
    if pdu.token.bytes = [] then none
    else some ⟨responseResult,
      { CAInfo.zero with token := pdu.token, type := sentMsgType pdu.type }, false⟩

def caSendErrorMessage (pdu : CoapPdu) (status : CABlockState) (responseResult : Nat)
    (blockID : CABlockDataID) : Outcome :=
  match caGetBlockDataFromBlockDataList ctx blockID with
  | none => ⟨.failed, ctx, []⟩
  | some data =>
    match errorResponse data.sentData pdu responseResult with
    | none => ⟨.memoryAllocFailed, ctx, []⟩
    | some res =>
      let cloneData := { data.sentData with requestInfo := none, responseInfo := some res }
      let ctx :=
        if status = .incomplete then modifyBlockData ctx blockID CABlockData.restart else ctx
      ⟨.ok, ctx, [.send cloneData]⟩

/-! ## Handing the assembled message up -/

/-- `CAUpdatePayloadToCAData`: replace the payload by the first `payloadLen`
bytes of the buffer. Reallocating to size 0 fails. -/
def caUpdatePayloadToCAData (data : CAData) (payload : List UInt8) (payloadLen : Nat) :
    Except CAResult CAData :=
  match data.dataType with
  | some .requestData =>
    match data.requestInfo with
    | none => .error .failed
    | some req =>
      if payloadLen = 0 then .error .failed
      else
        let info := { req.info with payload := payload.take payloadLen }
        .ok { data with requestInfo := some { req with info := info } }
  | some .responseData =>
    match data.responseInfo with
    | none => .error .failed
    | some res =>
      if payloadLen = 0 then .error .failed
      else
        let info := { res.info with payload := payload.take payloadLen }
        .ok { data with responseInfo := some { res with info := info } }
  | _ => .error .notSupported

/-- `CAGetPayloadFromBlockDataList`: the buffer and how much of it is filled. -/
def caGetPayloadFromBlockDataList : Option (List UInt8 × Nat) :=
  match caGetBlockDataFromBlockDataList ctx blockID with
  | none => none
  | some currData => currData.payload.map (·, currData.receivedPayloadLen)

/-- `CAReceiveLastBlock`: the received message, with the assembled payload if
there is a buffer, goes to the upper layer. -/
def caReceiveLastBlock (receivedData : CAData) : CAResult × List Event :=
  match caGetPayloadFromBlockDataList ctx blockID with
  | none => (.ok, [.receive receivedData])
  | some (fullPayload, fullPayloadLen) =>
    match caUpdatePayloadToCAData receivedData fullPayload fullPayloadLen with
    | .error res => (res, [])
    | .ok cloneData => (.ok, [.receive cloneData])

def caProcessNextStep (pdu : CoapPdu) (receivedData : CAData) (blockWiseStatus : CABlockState)
    (blockID : CABlockDataID) : Outcome :=
  match blockWiseStatus with
  | .option2FirstBlock => ⟨.ok, ctx, [.send receivedData]⟩
  | .option2Request =>
    match caGetBlockDataFromBlockDataList ctx blockID with
    | none => ⟨.failed, ctx, []⟩
    | some currData =>
      match currData.sentData.responseInfo with
      | none => ⟨.ok, ctx, []⟩
      | some res =>
        let type := if pdu.type = .confirm then .acknowledge else .nonconfirm
        let res := { res with info := res.info.stamp pdu.id type }
        let data := { currData.sentData with responseInfo := some res }
        ⟨.ok, modifyBlockData ctx blockID ({ · with sentData := data }), [.send data]⟩
  | .option1Response | .option2Response | .option1RequestBlock =>
    caSendBlockMessage ctx pdu blockID
  | .option2LastBlock =>
    match caReceiveLastBlock ctx blockID receivedData with
    | (.ok, log) => ⟨.ok, caRemoveBlockDataFromList ctx blockID, log⟩
    | (res, log) => ⟨res, ctx, log⟩
  | .option1RequestLastBlock =>
    -- the entry stays: the response goes out under it
    let r := caReceiveLastBlock ctx blockID receivedData
    ⟨r.1, ctx, r.2⟩
  | .incomplete => caSendErrorMessage ctx pdu .incomplete caRequestEntityIncomplete blockID
  | .tooLarge =>
    if receivedData.requestInfo.isSome then
      caSendErrorMessage ctx pdu .tooLarge caRequestEntityTooLarge blockID
    else if receivedData.responseInfo.isSome then caSendBlockMessage ctx pdu blockID
    else ⟨.ok, ctx, []⟩
  | .unknown | .receivedAlready => ⟨.ok, ctx, []⟩

/-! ## `CASetNextBlockOption1` -/

/-- `CAIsPayloadLengthInPduWithBlockSizeOption`: a size option overwrites the
total length of the entry, whatever becomes of the block itself. -/
def caIsPayloadLengthInPduWithBlockSizeOption (size : Option Nat) : Bool × CABlockData :=
  match size with
  | some totalPayloadLen => (true, { currData with payloadLength := totalPayloadLen })
  | none => (false, currData)

/-- What the work on the entry leaves: the entry, the status (`none` for `goto exit` with
`CA_STATUS_FAILED`), and the copies made. -/
abbrev Update := Option (CABlockData × CABlockState) × List Event

section

variable (data : CABlockData) (pdu : CoapPdu) (receivedData : CAData) (block : CoapBlock)

/-- The request branch of `CASetNextBlockOption1`, up to the next step. -/
def updateFromRequest1 (dataLen : Nat) : Update :=
  let (isSizeOption, data) := caIsPayloadLengthInPduWithBlockSizeOption data pdu.size1
  let (status, data) := caCheckBlockErrorType data block receivedData .block1 dataLen
  let nextStatus (block : CoapBlock) : CABlockState :=
    if status = .unknown ∨ status = .receivedAlready then
      if block.m then .option1RequestBlock else .option1RequestLastBlock
    else status
  if status = .receivedAlready then (some (data, nextStatus block), [])
  else
    let (data, copies) := caUpdatePayloadData data receivedData status isSizeOption .block1
    let upd := (caUpdateBlockOptionItems data pdu block .block1 status).bind fun block =>
      (caUpdateBlockData data block .block1).map fun data => (data, nextStatus block)
    (upd, copies.map Event.copy)

def finishNextStep (pdu : CoapPdu) (receivedData : CAData) (blockDataID : CABlockDataID)
    (upd : Update) : Outcome :=
  match upd with
  | (none, log) => ⟨.failed, caRemoveBlockDataFromList ctx blockDataID, log⟩
  | (some (data, status), log) =>
    let out := caProcessNextStep (modifyBlockData ctx blockDataID (fun _ => data)) pdu
      receivedData status blockDataID
    if out.res = .ok then ⟨.ok, out.ctx, log ++ out.log⟩
    else ⟨out.res, caRemoveBlockDataFromList out.ctx blockDataID, log ++ out.log⟩

/-- The response branch of `CASetNextBlockOption1`. A block number that was
passed before is refused without touching the entry. -/
def setNextFromResponse1 (blockDataID : CABlockDataID) : Outcome :=
  if !block.m && !isBlockErrorCode pdu.code then
    -- the upload is over; with a Block2 option the entry serves the download
    if pdu.block2.isSome then
      ⟨.ok, modifyBlockData ctx blockDataID
        (fun _ => { data with block1 := { data.block1 with num := 0 } }), []⟩
    else
      ⟨.ok, caRemoveBlockDataFromList ctx blockDataID,
        (caReceiveLastBlock ctx blockDataID receivedData).2⟩
  else
    match caUpdateBlockOptionItems data pdu block .block1 .option1Response with
    | none => ⟨.failed, ctx, []⟩
    | some block =>
      finishNextStep ctx pdu receivedData blockDataID
        ((caUpdateBlockData data block .block1).map (·, .option1Response), [])

end

def pduBlockId (pdu : CoapPdu) (endpoint : CAEndpoint) : CABlockDataID :=
  caCreateBlockDatablockId pdu.token endpoint.addr endpoint.port

variable (pdu : CoapPdu) (endpoint : CAEndpoint) (receivedData : CAData)

def caSetNextBlockOption1 (block : CoapBlock) (dataLen : Nat) : Outcome :=
  let blockDataID := pduBlockId pdu endpoint
  if blockDataID.length < 1 ∨ 255 < blockDataID.length then ⟨.failed, ctx, []⟩
  else
    match caCheckTheExistOfBlockData ctx blockDataID pdu endpoint .block1 with
    | none => ⟨.failed, caRemoveBlockDataFromList ctx blockDataID, []⟩
    | some ctx =>
      match caGetBlockDataFromBlockDataList ctx blockDataID with
      | none => ⟨.failed, caRemoveBlockDataFromList ctx blockDataID, []⟩
      | some data =>
        if isRequestCode pdu.code then
          finishNextStep ctx pdu receivedData blockDataID
            (updateFromRequest1 data pdu receivedData block dataLen)
        else setNextFromResponse1 ctx data pdu receivedData block blockDataID

section

variable (data : CABlockData) (pdu : CoapPdu)

def updateFromFirstGet (block : CoapBlock) : Update :=
  let upd := (caUpdateBlockOptionItems data pdu block .block2 .unknown).bind fun block =>
    (caUpdateBlockData data block .block2).map (·, .option2FirstBlock)
  (upd, [])

def updateFromRequest2 (block : CoapBlock) : Update :=
  let upd := (caUpdateBlockOptionItems data pdu block .block2 .option2Request).bind fun block =>
    (caUpdateBlockData data block .block2).map (·, .option2Request)
  (upd, [])

/-- The response branch of `CASetNextBlockOption2`, up to the next step. -/
def updateFromResponse2 (receivedData : CAData) (block : CoapBlock) (dataLen : Nat) : Update :=
  let (isSizeOption, data) := caIsPayloadLengthInPduWithBlockSizeOption data pdu.size2
  let (status, data) :=
    if isBlockErrorCode pdu.code then (.unknown, data)
    else caCheckBlockErrorType data block receivedData .block2 dataLen
  let (data, copies) :=
    if status = .receivedAlready then (data, [])
    else caUpdatePayloadData data receivedData status isSizeOption .block2
  let upd : Option (CABlockData × CABlockState) :=
    -- the last block leaves the stored option as it is
    if !block.m && status = .unknown then some (data, .option2LastBlock)
    else
      let status :=
        if status = .unknown ∨ status = .receivedAlready then .option2Response else status
      (caUpdateBlockOptionItems data pdu block .block2 status).bind fun block =>
        (caUpdateBlockData data block .block2).map (·, status)
  (upd, copies.map Event.copy)

end

def caSetNextBlockOption2 (block : CoapBlock) (dataLen : Nat) : Outcome :=
  let blockDataID := pduBlockId pdu endpoint
  if blockDataID.length < 1 ∨ 255 < blockDataID.length then ⟨.failed, ctx, []⟩
  else
    match caCheckTheExistOfBlockData ctx blockDataID pdu endpoint .block2 with
    | none => ⟨.failed, caRemoveBlockDataFromList ctx blockDataID, []⟩
    | some ctx =>
      match caGetBlockDataFromBlockDataList ctx blockDataID with
      | none => ⟨.failed, caRemoveBlockDataFromList ctx blockDataID, []⟩
      | some data =>
        finishNextStep ctx pdu receivedData blockDataID
          (if block.num = 0 ∧ pdu.code = caGet ∧ block.m = false then
            updateFromFirstGet data pdu block
          else if isRequestCode pdu.code then updateFromRequest2 data pdu block
          else updateFromResponse2 data pdu receivedData block dataLen)

/-! ## `CAReceiveBlockWiseData` -/

/-- `CAGetTokenFromBlockDataList`: the token of the first stored request with
this message id and adapter. -/
def caGetTokenFromBlockDataList (pdu : CoapPdu) (endpoint : CAEndpoint) : Option CAToken :=
  ctx.dataList.findSome? fun currData =>
    match currData.sentData.requestInfo with
    | none => none
    | some req =>
      if pdu.id = req.info.messageId ∧ endpoint.adapter = currData.sentData.remoteEndpoint.adapter
          ∧ req.info.token.bytes ≠ [] then some req.info.token
      else none

def emptyMessageToken : Option CAToken :=
  match receivedData.responseInfo with
  | none => none
  | some res =>
    if res.info.token.bytes = [] then caGetTokenFromBlockDataList ctx pdu endpoint
    else some res.info.token

/-- The `CA_EMPTY` branch of `CAReceiveBlockWiseData`: an ACK in the middle of
a transfer keeps the entry, any other empty message ends it. -/
def receiveEmpty (endpoint : CAEndpoint) (token : CAToken) : Outcome :=
  let blockDataID := caCreateBlockDatablockId token endpoint.addr endpoint.port
  match caGetBlockDataFromBlockDataList ctx blockDataID with
  | some data =>
    if data.block1.m || data.block2.m then ⟨.ok, ctx, []⟩
    else ⟨.notSupported, caRemoveBlockDataFromList ctx blockDataID, []⟩
  | none => ⟨.notSupported, caRemoveBlockDataFromList ctx blockDataID, []⟩

variable (dataLen : Nat)

/-- A PDU without block options: a 4.08 restarts the transfer from the option
stored in the entry, any other response ends it. -/
def receiveWithoutBlock : Outcome :=
  let blockDataID := pduBlockId pdu endpoint
  if caResponseCode pdu.code = caRequestEntityIncomplete then
    match caGetBlockDataFromBlockDataList ctx blockDataID with
    | none => ⟨.failed, ctx, []⟩
    | some data =>
      match data.type with
      | none => ⟨.failed, ctx, []⟩
      | some .block2 =>
        let out := caSetNextBlockOption2 ctx pdu endpoint receivedData data.block2 dataLen
        if out.res = .ok then out else { out with res := .failed }
      | some .block1 =>
        caSetNextBlockOption1 ctx pdu endpoint receivedData data.block1 dataLen
  else if receivedData.responseInfo.isSome then
    ⟨.notSupported, caRemoveBlockDataFromList ctx blockDataID, []⟩
  else ⟨.notSupported, ctx, []⟩

def receiveBlock1 : Outcome :=
  match pdu.block1 with
  | none => ⟨.ok, ctx, []⟩
  | some block => caSetNextBlockOption1 ctx pdu endpoint receivedData block dataLen

def receiveBlock2 : Outcome :=
  match pdu.block2 with
  | none => ⟨.ok, ctx, []⟩
  | some block => caSetNextBlockOption2 ctx pdu endpoint receivedData block dataLen

def receiveBlocks : Outcome :=
  let out1 := receiveBlock1 ctx pdu endpoint receivedData dataLen
  if out1.res ≠ .ok then out1
  else
    let out2 := receiveBlock2 out1.ctx pdu endpoint receivedData dataLen
    { out2 with log := out1.log ++ out2.log }

def caReceiveBlockWiseData : Outcome :=
  if pdu.code = caEmpty then
    match emptyMessageToken ctx pdu endpoint receivedData with
    | none => ⟨.failed, ctx, []⟩
    | some token => receiveEmpty ctx endpoint token
  else if pdu.block1.isNone && pdu.block2.isNone then
    receiveWithoutBlock ctx pdu endpoint receivedData dataLen
  else receiveBlocks ctx pdu endpoint receivedData dataLen

end

lemma blockSize_div {s s' : ℕ} (h : s' ≤ s) : blockSize s / blockSize s' = 2 ^ (s - s') := by
  rw [blockSize_eq, blockSize_eq, Nat.pow_div (Nat.add_le_add_right h 4) Nat.two_pos,
    Nat.add_sub_add_right]

lemma rescale_iff {n s s' : ℕ} (h : s' ≤ s) :
    (n + 1 + (blockSize s / blockSize s' - 1)) * 2 ^ (s' + 4) = (n + 1) * 2 ^ (s + 4)
      ↔ n = 0 ∨ s' = s := by
  rw [blockSize_div h]
  have hratio : 0 < 2 ^ (s - s') := Nat.two_pow_pos _
  have hsum : n + 1 + (2 ^ (s - s') - 1) = n + 2 ^ (s - s') := by omega
  have hscaled : (n + 1) * 2 ^ (s + 4) = (n + 1) * 2 ^ (s - s') * 2 ^ (s' + 4) := by
    have hexp : s + 4 = s - s' + (s' + 4) := by omega
    rw [hexp, Nat.pow_add, Nat.mul_assoc]
  rw [hsum, hscaled, Nat.mul_left_inj (Nat.two_pow_pos _).ne', Nat.add_mul, Nat.one_mul,
    Nat.add_left_inj]
  constructor
  · intro heq
    by_cases hn : n = 0
    · exact .inl hn
    -- the ratio is 1
    have hone : 2 ^ (s - s') = 1 := by
      refine Nat.eq_of_mul_eq_mul_left (Nat.pos_of_ne_zero hn) ?_
      rw [Nat.mul_one]
      exact heq.symm
    have hexp : s - s' = 0 := by
      by_contra hne
      exact absurd hone (Nat.one_lt_two_pow hne).ne'
    exact .inr (by omega)
  · rintro (rfl | rfl)
    · rw [Nat.zero_mul]
    · simp

/-! ## Negotiation -/

/-- Behind block `n` of size `s`, the next block of size `s'` starts where that block ends. -/
def KeepsPosition (n s s' : ℕ) (next : Option CoapBlock) : Prop :=
  ∃ block ∈ next, block.szx = s' ∧ block.num * 2 ^ (s' + 4) = (n + 1) * 2 ^ (s + 4)

section Negotiation

variable {currData : CABlockData} {pdu : CoapPdu} {block : CoapBlock}

lemma option1Response_keeps_iff (hcode : pdu.code / 32 = 2)
    (hnum : currData.block1.num ≤ block.num) (hszx : block.szx ≤ currData.block1.szx) :
    KeepsPosition block.num currData.block1.szx block.szx
        (caUpdateBlockOptionItems currData pdu block .block1 .option1Response)
      ↔ block.num = 0 ∨ block.szx = currData.block1.szx := by
  obtain ⟨hrequest, herror⟩ := code_of_success hcode
  have hitems : caUpdateBlockOptionItems currData pdu block .block1 .option1Response
      = some { block with
          num := block.num + 1 + (blockSize currData.block1.szx / blockSize block.szx - 1) } := by
    unfold caUpdateBlockOptionItems caNegotiateBlockSize
    simp only [herror, hrequest, Bool.false_eq_true, if_false, if_neg (Nat.not_lt.mpr hnum)]
    by_cases hsmall : block.szx < currData.block1.szx
    · rw [if_pos hsmall]
    -- the size stays, and no blocks are added
    have hsame : block.szx = currData.block1.szx := by omega
    rw [if_neg hsmall, hsame, blockSize_div (le_refl _), Nat.sub_self, Nat.pow_zero]
  rw [hitems]
  unfold KeepsPosition
  rw [← rescale_iff hszx]
  constructor
  · rintro ⟨_, ⟨⟩, _, hposition⟩
    exact hposition
  · exact fun hposition => ⟨_, rfl, rfl, hposition⟩

lemma option2Response_keeps_iff (hcode : pdu.code / 32 = 2)
    (hnum : currData.block2.num ≤ block.num) (hszx : currData.block2.szx < block.szx) :
    KeepsPosition block.num block.szx currData.block2.szx
        (caUpdateBlockOptionItems currData pdu block .block2 .option2Response)
      ↔ block.num = 0 := by
  obtain ⟨hrequest, herror⟩ := code_of_success hcode
  have hitems : caUpdateBlockOptionItems currData pdu block .block2 .option2Response
      = some ⟨block.num + 1 + (blockSize block.szx / blockSize currData.block2.szx - 1), false,
          currData.block2.szx⟩ := by
    unfold caUpdateBlockOptionItems caNegotiateBlockSize
    simp only [herror, hrequest, Bool.false_eq_true, if_false, if_neg (Nat.not_lt.mpr hnum)]
    rw [if_pos hszx]
  rw [hitems]
  have hscaled := rescale_iff (n := block.num) hszx.le
  rw [or_iff_left hszx.ne] at hscaled
  unfold KeepsPosition
  rw [← hscaled]
  constructor
  · rintro ⟨_, ⟨⟩, _, hposition⟩
    exact hposition
  · exact fun hposition => ⟨_, rfl, rfl, hposition⟩

end Negotiation

/-- **When the position is kept**: the echoed number of a block that was sent and the number of a
block that was received are taken over to a smaller size. -/
theorem negotiation_exact (currData : CABlockData) (pdu : CoapPdu) (block : CoapBlock)
    (hcode : pdu.code / 32 = 2) :
    (currData.block1.szx ≤ 6 → block.szx ≤ currData.block1.szx → currData.block1.num ≤ block.num →
        (KeepsPosition block.num currData.block1.szx block.szx
            (caUpdateBlockOptionItems currData pdu block .block1 .option1Response)
          ↔ block.num = 0 ∨ block.szx = currData.block1.szx))
      ∧ (block.szx ≤ 6 → currData.block2.szx < block.szx → currData.block2.num ≤ block.num →
        (KeepsPosition block.num block.szx currData.block2.szx
            (caUpdateBlockOptionItems currData pdu block .block2 .option2Response)
          ↔ block.num = 0)) :=
  ⟨fun _ hszx hnum => option1Response_keeps_iff hcode hnum hszx,
    fun _ hszx hnum => option2Response_keeps_iff hcode hnum hszx⟩

def transferOf (szx : ℕ) : CABlockData :=
  { newBlockData ⟨⟨1, addrOne, 5683⟩, none, none, none⟩ with
    block1 := ⟨0, true, szx⟩
    block2 := ⟨0, false, szx⟩ }

/-- A success response, `2.05`. -/
def contentPdu : CoapPdu :=
  ⟨.acknowledge, 69, 1, CAToken.null, none, none, none, none, none, []⟩

theorem secondBlock_slips :
    ¬ KeepsPosition 1 6 5 (caUpdateBlockOptionItems (transferOf 6) contentPdu ⟨1, true, 5⟩ .block1
        .option1Response)
      ∧ ¬ KeepsPosition 1 6 5 (caUpdateBlockOptionItems (transferOf 5) contentPdu ⟨1, true, 6⟩
        .block2 .option2Response) := by
  constructor
  · rintro ⟨_, ⟨⟩, _, hposition⟩
    exact absurd hposition (by decide)
  · rintro ⟨_, ⟨⟩, _, hposition⟩
    exact absurd hposition (by decide)

theorem firstBlock_keeps :
    KeepsPosition 0 6 5 (caUpdateBlockOptionItems (transferOf 6) contentPdu ⟨0, true, 5⟩ .block1
        .option1Response)
      ∧ KeepsPosition 0 6 5 (caUpdateBlockOptionItems (transferOf 5) contentPdu ⟨0, true, 6⟩
        .block2 .option2Response) := by
  constructor
  · have hkeeps := (negotiation_exact (transferOf 6) contentPdu ⟨0, true, 5⟩ rfl).1
    exact (hkeeps (by decide) (by decide) (by decide)).mpr (.inl rfl)
  · have hkeeps := (negotiation_exact (transferOf 5) contentPdu ⟨0, true, 6⟩ rfl).2
    exact (hkeeps (by decide) (by decide) (by decide)).mpr rfl

def slotOf (ctx : CABlockWiseContext) (id : CABlockDataID) : List CABlockData :=
  FirstMatch.slot CABlockData.blockDataId id ctx.dataList

lemma caGetBlockData_eq_head? (ctx : CABlockWiseContext) (id : CABlockDataID) :
    caGetBlockDataFromBlockDataList ctx id = (slotOf ctx id).head? :=
  FirstMatch.lookup_eq_head? _ _ _

variable {ctx : CABlockWiseContext} {id : CABlockDataID} {f : CABlockData → CABlockData}

lemma slotOf_modify_self (hf : ∀ e, e.blockDataId = id → (f e).blockDataId = id) :
    slotOf (modifyBlockData ctx id f) id = (slotOf ctx id).modifyHead f :=
  FirstMatch.slot_modify_self hf _

lemma slotOf_modify {e : CABlockData} {rest : List CABlockData}
    (hf : ∀ e, e.blockDataId = id → (f e).blockDataId = id) (hslot : slotOf ctx id = e :: rest) :
    slotOf (modifyBlockData ctx id f) id = f e :: rest := by
  rw [slotOf_modify_self hf, hslot]
  rfl

lemma slotOf_modify_ne {id' : CABlockDataID}
    (hf : ∀ e, e.blockDataId = id → (f e).blockDataId = id)
    (hne : id' ≠ id) : slotOf (modifyBlockData ctx id f) id' = slotOf ctx id' :=
  FirstMatch.slot_modify_ne hf hne _

lemma slotOf_remove_self (ctx : CABlockWiseContext) (id : CABlockDataID) :
    slotOf (caRemoveBlockDataFromList ctx id) id = (slotOf ctx id).tail :=
  FirstMatch.slot_erase_self _ _

lemma slotOf_remove_ne {id' : CABlockDataID} (hne : id' ≠ id) :
    slotOf (caRemoveBlockDataFromList ctx id) id' = slotOf ctx id' :=
  FirstMatch.slot_erase_ne hne _

lemma slotOf_append_self (e : CABlockData) :
    slotOf { ctx with dataList := ctx.dataList ++ [e] } e.blockDataId
      = slotOf ctx e.blockDataId ++ [e] := by
  simp [slotOf, FirstMatch.slot_singleton_self]

lemma slotOf_append_ne {e : CABlockData} (hne : e.blockDataId ≠ id) :
    slotOf { ctx with dataList := ctx.dataList ++ [e] } id = slotOf ctx id := by
  simp [slotOf, FirstMatch.slot_singleton_ne _ hne]

lemma caGetBlockData_modify (hf : ∀ e, e.blockDataId = id → (f e).blockDataId = id) :
    caGetBlockDataFromBlockDataList (modifyBlockData ctx id f) id
      = (caGetBlockDataFromBlockDataList ctx id).map f := by
  rw [caGetBlockData_eq_head?, caGetBlockData_eq_head?, slotOf_modify_self hf]
  cases slotOf ctx id <;> rfl

lemma blockDataId_of_get {e : CABlockData}
    (h : caGetBlockDataFromBlockDataList ctx id = some e) : e.blockDataId = id :=
  FirstMatch.key_of_lookup _ h

/-- `ctx'` comes from `ctx` by rewriting, dropping and appending entries whose
ids satisfy `own`. -/
inductive Edits (own : CABlockDataID → Prop) (ctx : CABlockWiseContext) :
    CABlockWiseContext → Prop
  | refl : Edits own ctx ctx
  | modify {ctx' : CABlockWiseContext} {id : CABlockDataID} {f : CABlockData → CABlockData}
      (h : Edits own ctx ctx') (hid : own id)
      (hf : ∀ e, e.blockDataId = id → (f e).blockDataId = id) :
      Edits own ctx (modifyBlockData ctx' id f)
  | remove {ctx' : CABlockWiseContext} {id : CABlockDataID}
      (h : Edits own ctx ctx') (hid : own id) :
      Edits own ctx (caRemoveBlockDataFromList ctx' id)
  | append {ctx' : CABlockWiseContext} {e : CABlockData}
      (h : Edits own ctx ctx') (hid : own e.blockDataId) :
      Edits own ctx { ctx' with dataList := ctx'.dataList ++ [e] }

namespace Edits

variable {own : CABlockDataID → Prop} {ctx ctx' ctx'' : CABlockWiseContext}

lemma trans (h : Edits own ctx ctx') (h' : Edits own ctx' ctx'') : Edits own ctx ctx'' := by
  induction h' with
  | refl => exact h
  | modify _ hid hf ih => exact ih.modify hid hf
  | remove _ hid ih => exact ih.remove hid
  | append _ hid ih => exact ih.append hid

lemma mono {own' : CABlockDataID → Prop} (hown : ∀ id, own id → own' id)
    (h : Edits own ctx ctx') : Edits own' ctx ctx' := by
  induction h with
  | refl => exact .refl
  | modify _ hid hf ih => exact ih.modify (hown _ hid) hf
  | remove _ hid ih => exact ih.remove (hown _ hid)
  | append _ hid ih => exact ih.append (hown _ hid)

lemma slotOf_eq (h : Edits own ctx ctx') {id : CABlockDataID} (hid : ¬ own id) :
    slotOf ctx' id = slotOf ctx id := by
  have hne : ∀ id', own id' → id ≠ id' := by
    rintro id' hid' rfl
    exact hid hid'
  induction h with
  | refl => rfl
  | modify _ hown hf ih => rw [slotOf_modify_ne hf (hne _ hown), ih]
  | remove _ hown ih => rw [slotOf_remove_ne (hne _ hown), ih]
  | append _ hown ih => rw [slotOf_append_ne (hne _ hown).symm, ih]

end Edits

lemma caUpdateBlockOptionType_edits (ctx : CABlockWiseContext) (id : CABlockDataID)
    (blockType : BlockType) : Edits (· = id) ctx (caUpdateBlockOptionType ctx id blockType) :=
  Edits.refl.modify rfl (fun _ he => he)

lemma newBlockData_blockDataId {pdu : CoapPdu} {endpoint : CAEndpoint} {cadata : CAData}
    (h : (caCreateNewDataSet pdu endpoint).bind (fillResourceUri ctx id) = some cadata) :
    (newBlockData cadata).blockDataId = pduBlockId pdu endpoint := by
  obtain ⟨data, hdata, hfill⟩ := Option.bind_eq_some_iff.mp h
  unfold caCreateNewDataSet at hdata
  split at hdata
  · cases hdata
  split at hdata
  · cases hdata
    cases hfill
    rfl
  cases hdata
  simp only [fillResourceUri] at hfill
  split at hfill
  · cases hfill
    rfl
  split at hfill
  · cases hfill
    rfl
  split at hfill
  · cases hfill
  cases hfill
  rfl

lemma caCheckTheExist_edits {ctx' : CABlockWiseContext} {pdu : CoapPdu} {endpoint : CAEndpoint}
    {blockType : BlockType}
    (h : caCheckTheExistOfBlockData ctx (pduBlockId pdu endpoint) pdu endpoint blockType
      = some ctx') : Edits (· = pduBlockId pdu endpoint) ctx ctx' := by
  unfold caCheckTheExistOfBlockData at h
  split at h
  · cases h
    exact caUpdateBlockOptionType_edits _ _ _
  split at h
  · cases h
  rename_i cadata hcadata
  cases h
  exact (Edits.refl.append (newBlockData_blockDataId hcadata)).trans
    (caUpdateBlockOptionType_edits _ _ _)

/-! ## The empty ACK -/

def emptyAckData (endpoint : CAEndpoint) (messageId : Nat) : CAData :=
  { remoteEndpoint := endpoint
    requestInfo := none
    responseInfo := some
      ⟨caEmpty, { CAInfo.zero with type := .acknowledge, messageId := messageId }, false⟩
    dataType := some .responseData }

def emptyAckId (endpoint : CAEndpoint) : CABlockDataID :=
  caCreateBlockDatablockId CAToken.null endpoint.addr endpoint.port

lemma caSendDirectEmptyResponse_eq (ctx : CABlockWiseContext) (endpoint : CAEndpoint)
    (messageId : Nat) :
    caSendDirectEmptyResponse ctx endpoint messageId
      = ⟨.ok, modifyBlockData ctx (emptyAckId endpoint)
          (fun e => { e with sentData := emptyAckData endpoint messageId }),
        [.send (emptyAckData endpoint messageId)]⟩ := by
  have htype : caCheckBlockOptionType (emptyAckData endpoint messageId) = none := rfl
  have hunicast : caSendBlockWiseData ctx (emptyAckData endpoint messageId)
      = caSendUnicastBlockWiseData ctx (emptyAckData endpoint messageId) := rfl
  have hid : caCreateBlockDatablockId
      { CAInfo.zero with type := .acknowledge, messageId := messageId }.token
      endpoint.addr endpoint.port = emptyAckId endpoint := rfl
  have hsend : caSendUnicastBlockWiseData ctx (emptyAckData endpoint messageId)
      = ⟨.notSupported, modifyBlockData ctx (emptyAckId endpoint)
          (fun e => { e with sentData := emptyAckData endpoint messageId }), []⟩ := by
    unfold caSendUnicastBlockWiseData
    simp only [htype]
    cases hget : caGetBlockDataFromBlockDataList ctx (emptyAckId endpoint) with
    | none =>
      have hval : caCheckBlockDataValidation ctx (emptyAckData endpoint messageId) = none := by
        simp only [caCheckBlockDataValidation, emptyAckData]
        rw [hid, hget]
      have hslot : FirstMatch.slot CABlockData.blockDataId (emptyAckId endpoint) ctx.dataList
          = [] := (FirstMatch.lookup_eq_none _).mp hget
      rw [hval]
      simp only [modifyBlockData, FirstMatch.modify_of_slot_nil hslot]
      rfl
    | some e =>
      have hval : caCheckBlockDataValidation ctx (emptyAckData endpoint messageId)
          = some (emptyAckId endpoint, modifyBlockData ctx (emptyAckId endpoint)
              (fun e => { e with sentData := emptyAckData endpoint messageId })) := by
        simp only [caCheckBlockDataValidation, emptyAckData]
        rw [hid, hget]
      rw [hval]
  have hresp : caSendDirectEmptyResponse ctx endpoint messageId
      = (let out := caSendBlockWiseData ctx (emptyAckData endpoint messageId)
         if out.res = .notSupported then
           ⟨.ok, out.ctx, out.log ++ [.send (emptyAckData endpoint messageId)]⟩
         else out) := rfl
  rw [hresp, hunicast, hsend]
  rfl

/-- A response that the peer wants acknowledged: the one kind of PDU that makes
the receive path send through another id. -/
def wantsEmptyAck (pdu : CoapPdu) : Prop :=
  pdu.type = .confirm ∧ isRequestCode pdu.code = false

instance (pdu : CoapPdu) : Decidable (wantsEmptyAck pdu) :=
  inferInstanceAs (Decidable (_ ∧ _))

section Receive

variable {pdu : CoapPdu} {endpoint : CAEndpoint} {receivedData : CAData}

lemma caSendBlockMessage_edits (hack : ¬ wantsEmptyAck pdu) (ctx : CABlockWiseContext)
    (id : CABlockDataID) : Edits (· = id) ctx (caSendBlockMessage ctx pdu id).ctx := by
  unfold caSendBlockMessage
  split
  · exact .refl
  dsimp only
  split
  · exact Edits.refl.modify rfl (fun _ he => he)
  rename_i hcode
  split
  · rename_i req hreq
    have hcon : pdu.type ≠ .confirm := by
      intro hcon
      exact hack ⟨hcon, by simpa using hcode⟩
    simp only [if_neg hcon]
    exact Edits.refl.modify rfl (fun _ he => he)
  · exact Edits.refl.modify rfl (fun _ he => he)

lemma caSendErrorMessage_edits (ctx : CABlockWiseContext) (status : CABlockState)
    (responseResult : Nat) (id : CABlockDataID) :
    Edits (· = id) ctx (caSendErrorMessage ctx pdu status responseResult id).ctx := by
  unfold caSendErrorMessage
  split
  · exact .refl
  split
  · exact .refl
  dsimp only
  split
  · exact Edits.refl.modify rfl (fun _ he => he)
  · exact .refl

lemma caProcessNextStep_edits (hack : ¬ wantsEmptyAck pdu) (ctx : CABlockWiseContext)
    (status : CABlockState) (id : CABlockDataID) :
    Edits (· = id) ctx (caProcessNextStep ctx pdu receivedData status id).ctx := by
  unfold caProcessNextStep
  cases status with
  | option2Request =>
    dsimp only
    split
    · exact .refl
    split
    · exact .refl
    · exact Edits.refl.modify rfl (fun _ he => he)
  | option1Response => exact caSendBlockMessage_edits hack ctx id
  | option2Response => exact caSendBlockMessage_edits hack ctx id
  | option1RequestBlock => exact caSendBlockMessage_edits hack ctx id
  | option2LastBlock =>
    dsimp only
    split
    · exact Edits.refl.remove rfl
    · exact .refl
  | incomplete => exact caSendErrorMessage_edits ctx _ _ id
  | tooLarge =>
    dsimp only
    split
    · exact caSendErrorMessage_edits ctx _ _ id
    split
    · exact caSendBlockMessage_edits hack ctx id
    · exact .refl
  | option2FirstBlock => exact .refl
  | option1RequestLastBlock => exact .refl
  | unknown => exact .refl
  | receivedAlready => exact .refl

lemma finishNextStep_edits (hack : ¬ wantsEmptyAck pdu) (ctx : CABlockWiseContext)
    (id : CABlockDataID) (upd : Update)
    (hupd : ∀ data status, upd.1 = some (data, status) → data.blockDataId = id) :
    Edits (· = id) ctx (finishNextStep ctx pdu receivedData id upd).ctx := by
  unfold finishNextStep
  split
  · exact Edits.refl.remove rfl
  rename_i data status log
  have hstore : Edits (· = id) ctx (modifyBlockData ctx id (fun _ => data)) :=
    Edits.refl.modify rfl (fun _ _ => hupd data status rfl)
  have hnext : Edits (· = id) ctx (caProcessNextStep (modifyBlockData ctx id (fun _ => data))
      pdu receivedData status id).ctx :=
    hstore.trans (caProcessNextStep_edits hack _ status id)
  dsimp only
  split
  · exact hnext
  · exact hnext.remove rfl

end Receive

/-! ## Work on an entry keeps its id -/

section Entry

variable {data data' : CABlockData} {pdu : CoapPdu} {receivedData : CAData} {block : CoapBlock}
  {blockType : BlockType} {status : CABlockState} {dataLen : Nat}

@[simp] lemma caIsPayloadLength_blockDataId (data : CABlockData) (size : Option Nat) :
    (caIsPayloadLengthInPduWithBlockSizeOption data size).2.blockDataId = data.blockDataId := by
  cases size <;> rfl

@[simp] lemma withSzx_blockDataId (data : CABlockData) (size : Option Nat) :
    (data.withSzx size).blockDataId = data.blockDataId := by
  cases size <;> rfl

@[simp] lemma caCheckBlockErrorType_blockDataId :
    (caCheckBlockErrorType data block receivedData blockType dataLen).2.blockDataId
      = data.blockDataId := by
  unfold caCheckBlockErrorType
  dsimp only
  split
  · rfl
  split
  · split
    · exact withSzx_blockDataId _ _
    · rfl
  · split <;> rfl

@[simp] lemma caUpdatePayloadData_blockDataId (isSizeOption : Bool) :
    (caUpdatePayloadData data receivedData status isSizeOption blockType).1.blockDataId
      = data.blockDataId := by
  unfold caUpdatePayloadData
  dsimp only
  split
  · rfl
  · split <;> rfl

lemma caUpdateBlockData_blockDataId (h : caUpdateBlockData data block blockType = some data') :
    data'.blockDataId = data.blockDataId := by
  unfold caUpdateBlockData at h
  split at h
  · cases h
  · cases blockType <;> cases h <;> rfl

lemma storeOption_blockDataId {block? : Option CoapBlock} (next : CoapBlock → CABlockState)
    (h : (block?.bind fun block => (caUpdateBlockData data block blockType).map
      fun data => (data, next block)) = some (data', status)) :
    data'.blockDataId = data.blockDataId := by
  obtain ⟨block, -, hblock⟩ := Option.bind_eq_some_iff.mp h
  obtain ⟨d, hd, heq⟩ := Option.map_eq_some_iff.mp hblock
  cases heq
  exact caUpdateBlockData_blockDataId hd

lemma updateFromRequest1_blockDataId
    (h : (updateFromRequest1 data pdu receivedData block dataLen).1 = some (data', status)) :
    data'.blockDataId = data.blockDataId := by
  simp only [updateFromRequest1] at h
  split at h
  · cases h
    simp
  rw [storeOption_blockDataId _ h]
  simp

lemma updateFromFirstGet_blockDataId
    (h : (updateFromFirstGet data pdu block).1 = some (data', status)) :
    data'.blockDataId = data.blockDataId :=
  storeOption_blockDataId (fun _ => .option2FirstBlock) h

lemma updateFromRequest2_blockDataId
    (h : (updateFromRequest2 data pdu block).1 = some (data', status)) :
    data'.blockDataId = data.blockDataId :=
  storeOption_blockDataId (fun _ => .option2Request) h

lemma updateFromResponse2_blockDataId
    (h : (updateFromResponse2 data pdu receivedData block dataLen).1 = some (data', status)) :
    data'.blockDataId = data.blockDataId := by
  simp only [updateFromResponse2] at h
  -- the entry that the payload was stored in still carries the old id
  generalize hchk : (if isBlockErrorCode pdu.code then
      (CABlockState.unknown, (caIsPayloadLengthInPduWithBlockSizeOption data pdu.size2).2)
    else caCheckBlockErrorType (caIsPayloadLengthInPduWithBlockSizeOption data pdu.size2).2 block
      receivedData .block2 dataLen) = chk at h
  have hid : chk.2.blockDataId = data.blockDataId := by
    rw [← hchk]
    split <;> simp
  split at h
  · cases h
    split <;> simp [hid]
  rw [storeOption_blockDataId (fun _ => _) h]
  split <;> simp [hid]

end Entry

/-! ## The receive path -/

section Receive

variable {pdu : CoapPdu} {endpoint : CAEndpoint} {receivedData : CAData}

section

variable (hack : ¬ wantsEmptyAck pdu) (ctx : CABlockWiseContext)
include hack

lemma setNextFromResponse1_edits {data : CABlockData} (block : CoapBlock) :
    Edits (· = data.blockDataId) ctx
      (setNextFromResponse1 ctx data pdu receivedData block data.blockDataId).ctx := by
  unfold setNextFromResponse1
  split
  · split
    · exact Edits.refl.modify rfl (fun _ _ => rfl)
    · exact Edits.refl.remove rfl
  split
  · exact .refl
  rename_i block' _
  refine finishNextStep_edits hack ctx _ _ ?_
  intro data' status h
  obtain ⟨d, hd, heq⟩ := Option.map_eq_some_iff.mp h
  cases heq
  exact caUpdateBlockData_blockDataId hd

lemma caSetNextBlockOption1_edits (block : CoapBlock) (dataLen : Nat) :
    Edits (· = pduBlockId pdu endpoint) ctx
      (caSetNextBlockOption1 ctx pdu endpoint receivedData block dataLen).ctx := by
  unfold caSetNextBlockOption1
  dsimp only
  split
  · exact .refl
  split
  · exact Edits.refl.remove rfl
  rename_i ctx' hexist
  have hctx : Edits (· = pduBlockId pdu endpoint) ctx ctx' := caCheckTheExist_edits hexist
  split
  · exact hctx.remove rfl
  rename_i data hdata
  have hid : data.blockDataId = pduBlockId pdu endpoint := blockDataId_of_get hdata
  split
  · refine hctx.trans (finishNextStep_edits hack ctx' _ _ ?_)
    intro data' status h
    rw [updateFromRequest1_blockDataId h, hid]
  rw [← hid] at hctx ⊢
  exact hctx.trans (setNextFromResponse1_edits hack ctx' block)

lemma caSetNextBlockOption2_edits (block : CoapBlock) (dataLen : Nat) :
    Edits (· = pduBlockId pdu endpoint) ctx
      (caSetNextBlockOption2 ctx pdu endpoint receivedData block dataLen).ctx := by
  unfold caSetNextBlockOption2
  dsimp only
  split
  · exact .refl
  split
  · exact Edits.refl.remove rfl
  rename_i ctx' hexist
  have hctx : Edits (· = pduBlockId pdu endpoint) ctx ctx' := caCheckTheExist_edits hexist
  split
  · exact hctx.remove rfl
  rename_i data hdata
  have hid : data.blockDataId = pduBlockId pdu endpoint := blockDataId_of_get hdata
  refine hctx.trans (finishNextStep_edits hack ctx' _ _ ?_)
  intro data' status h
  rw [← hid]
  split at h
  · exact updateFromFirstGet_blockDataId h
  split at h
  · exact updateFromRequest2_blockDataId h
  · exact updateFromResponse2_blockDataId h

end

lemma receiveEmpty_edits (ctx : CABlockWiseContext) (token : CAToken) :
    Edits (· = caCreateBlockDatablockId token endpoint.addr endpoint.port) ctx
      (receiveEmpty ctx endpoint token).ctx := by
  unfold receiveEmpty
  dsimp only
  split
  · split
    · exact .refl
    · exact Edits.refl.remove rfl
  · exact Edits.refl.remove rfl

section

variable (hack : ¬ wantsEmptyAck pdu) (ctx : CABlockWiseContext) (dataLen : Nat)
include hack

lemma receiveWithoutBlock_edits :
    Edits (· = pduBlockId pdu endpoint) ctx
      (receiveWithoutBlock ctx pdu endpoint receivedData dataLen).ctx := by
  unfold receiveWithoutBlock
  dsimp only
  split
  · split
    · exact .refl
    split
    · exact .refl
    · split <;> exact caSetNextBlockOption2_edits hack ctx _ dataLen
    · exact caSetNextBlockOption1_edits hack ctx _ dataLen
  split
  · exact Edits.refl.remove rfl
  · exact .refl

lemma receiveBlock1_edits :
    Edits (· = pduBlockId pdu endpoint) ctx
      (receiveBlock1 ctx pdu endpoint receivedData dataLen).ctx := by
  unfold receiveBlock1
  split
  · exact .refl
  · exact caSetNextBlockOption1_edits hack ctx _ dataLen

lemma receiveBlock2_edits :
    Edits (· = pduBlockId pdu endpoint) ctx
      (receiveBlock2 ctx pdu endpoint receivedData dataLen).ctx := by
  unfold receiveBlock2
  split
  · exact .refl
  · exact caSetNextBlockOption2_edits hack ctx _ dataLen

lemma receiveBlocks_edits :
    Edits (· = pduBlockId pdu endpoint) ctx
      (receiveBlocks ctx pdu endpoint receivedData dataLen).ctx := by
  have h1 : Edits (· = pduBlockId pdu endpoint) ctx
      (receiveBlock1 ctx pdu endpoint receivedData dataLen).ctx :=
    receiveBlock1_edits hack ctx dataLen
  unfold receiveBlocks
  dsimp only
  split
  · exact h1
  · exact h1.trans (receiveBlock2_edits hack _ dataLen)

end

/-- The token of the transfer a PDU belongs to: its own, or for an empty
message without one the token of the request it answers. -/
def transferToken (ctx : CABlockWiseContext) (pdu : CoapPdu) (endpoint : CAEndpoint)
    (receivedData : CAData) : Option CAToken :=
  if pdu.code = caEmpty then emptyMessageToken ctx pdu endpoint receivedData
  else some pdu.token

lemma caReceiveBlockWiseData_edits (ctx : CABlockWiseContext) (dataLen : Nat)
    (hack : pdu.code ≠ caEmpty → ¬ wantsEmptyAck pdu) :
    Edits (fun id => ∃ token, transferToken ctx pdu endpoint receivedData = some token ∧
        id = caCreateBlockDatablockId token endpoint.addr endpoint.port) ctx
      (caReceiveBlockWiseData ctx pdu endpoint receivedData dataLen).ctx := by
  unfold caReceiveBlockWiseData transferToken
  split
  · rename_i hempty
    split
    · exact .refl
    rename_i token htoken
    exact (receiveEmpty_edits ctx token).mono (fun id hid => ⟨token, htoken, hid⟩)
  rename_i hempty
  have hown : ∀ id, id = pduBlockId pdu endpoint → ∃ token, some pdu.token = some token ∧
      id = caCreateBlockDatablockId token endpoint.addr endpoint.port :=
    fun id hid => ⟨pdu.token, rfl, hid⟩
  split
  · exact (receiveWithoutBlock_edits (hack hempty) ctx dataLen).mono hown
  · exact (receiveBlocks_edits (hack hempty) ctx dataLen).mono hown

end Receive

end Iochibity.Coap
