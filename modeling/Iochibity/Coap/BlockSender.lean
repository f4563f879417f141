/-
From a data set to a PDU (`src/coap/coap_codec.c`, `src/comm/camessagehandler.c`) and back: the part
of the send thread that writes the block options.
-/
import Iochibity.Coap.Block2Reassembly

namespace Iochibity.Coap

/-- The functions of `libcoap` that write and read options and payloads. -/
structure LibCoap where
  encodeVarBytes : Nat → List UInt8
  decodeVarBytes : List UInt8 → Nat
  getBlock : List UInt8 → CoapBlock
  addBlock : List UInt8 → Nat → Nat → Option (List UInt8)
  addData : List UInt8 → Option (List UInt8)

/-- What `CAAddBlockOptionImpl` encodes: number, M bit and size exponent. -/
def blockOptionValue (block : CoapBlock) : Nat :=
  block.num <<< 4 ||| block.m.toNat <<< 3 ||| block.szx

/-- The documented behaviour: an `unsigned int` and a block option of three bytes are read back as
written, `coap_add_block` appends the bytes of one block if it starts inside the data, and no data
can be added. -/
structure LibCoap.Lawful (lib : LibCoap) : Prop where
  decode_encode : ∀ n, n < 2 ^ 32 → lib.decodeVarBytes (lib.encodeVarBytes n) = n
  getBlock_encode : ∀ block : CoapBlock, block.num < 2 ^ 20 → block.szx ≤ 7 →
    lib.getBlock (lib.encodeVarBytes (blockOptionValue block)) = block
  addBlock_eq : ∀ data num szx, blockSize szx * num < data.length →
    lib.addBlock data num szx = some ((data.drop (blockSize szx * num)).take (blockSize szx))
  addData_nil : lib.addData [] = some []

structure WirePdu where
  type : CAMessageType
  code : Nat
  id : Nat
  token : CAToken
  block1 : Option (List UInt8)
  block2 : Option (List UInt8)
  size1 : Option (List UInt8)
  size2 : Option (List UInt8)
  uri : Option String
  payload : List UInt8
  deriving DecidableEq

/-- `CAParsePDU`, with the options read by `coap_get_block` and
`coap_decode_var_bytes`. -/
def caParsePDU (lib : LibCoap) (wire : WirePdu) : CoapPdu :=
  { type := wire.type
    code := wire.code
    id := wire.id
    token := wire.token
    block1 := wire.block1.map lib.getBlock
    block2 := wire.block2.map lib.getBlock
    size1 := wire.size1.map lib.decodeVarBytes
    size2 := wire.size2.map lib.decodeVarBytes
    uri := wire.uri
    payload := wire.payload }

def caMaxUriLength : Nat := 512

/-- `CAGeneratePDU`: the header, and the URI of a message that is not empty. A
message id of 0 asks for a new one, `freshId`. -/
def caGeneratePDU (code : Nat) (info : CAInfo) (freshId : Nat) : Option WirePdu :=
  let messageId := if info.messageId = 0 then freshId else info.messageId
  if info.type = .reset ∨ (code = caEmpty ∧ info.type = .acknowledge) then
    if code ≠ caEmpty then none
    else if info.payload ≠ [] ∨ info.token.bytes ≠ [] then none
    else some ⟨info.type, coapResponseCode code, messageId, CAToken.null, none, none, none, none,
      none, []⟩
  else if (info.resourceUri.getD "").utf8ByteSize > caMaxUriLength then none
  else
    -- an empty message carries no token
    let token := if code = caEmpty then CAToken.null else info.token
    some ⟨info.type, coapResponseCode code, messageId, token, none, none, none, none,
      info.resourceUri, []⟩

/-! ## Block options -/

/-- `CASetMoreBitFromBlock`; the shift is one of `unsigned int`. -/
def caSetMoreBitFromBlock (payloadLen : Nat) (block : CoapBlock) : CoapBlock :=
  { block with m := decide ((block.num + 1) <<< (block.szx + 4) % 2 ^ 32 < payloadLen) }

def caAddBlockSizeOption (lib : LibCoap) (dataLength : Nat) : List UInt8 :=
  lib.encodeVarBytes dataLength

def caAddBlockOptionImpl (lib : LibCoap) (block : CoapBlock) : List UInt8 :=
  lib.encodeVarBytes (blockOptionValue block)

section

variable (lib : LibCoap) (ctx : CABlockWiseContext)

section

variable (wire : WirePdu) (payload : List UInt8) (blockID : CABlockDataID)

def caAddBlockOption1 : Option WirePdu × CABlockWiseContext :=
  match caGetBlockOption ctx blockID .block1 with
  | none => (none, ctx)
  | some block =>
    if isRequestCode wire.code then
      let block := caSetMoreBitFromBlock payload.length block
      let ctx := modifyBlockData ctx blockID ({ · with block1 := block })
      let wire := { wire with
        size1 := if block.num = 0 then some (caAddBlockSizeOption lib payload.length) else none
        block1 := some (caAddBlockOptionImpl lib block) }
      ((lib.addBlock payload block.num block.szx).map ({ wire with payload := · }), ctx)
    else
      let wire := { wire with block1 := some (caAddBlockOptionImpl lib block) }
      match lib.addData payload with
      | none => (none, ctx)
      | some bytes =>
        (some { wire with payload := bytes },
          if block.m then ctx else caRemoveBlockDataFromList ctx blockID)

def caAddBlockOption2 : Option WirePdu × CABlockWiseContext :=
  match caGetBlockDataFromBlockDataList ctx blockID with
  | none => (none, ctx)
  | some data =>
    if isRequestCode wire.code then
      (some { wire with block2 := some (caAddBlockOptionImpl lib data.block2) }, ctx)
    else
      let block := caSetMoreBitFromBlock payload.length data.block2
      -- a Block1 number still in the entry goes out with the response, once
      let ctx := modifyBlockData ctx blockID (fun data =>
        { data with block2 := block, block1 := { data.block1 with num := 0 } })
      let wire := { wire with
        size2 := if block.num = 0 then some (caAddBlockSizeOption lib payload.length) else none
        block2 := some (caAddBlockOptionImpl lib block)
        block1 := if data.block1.num ≠ 0 then some (caAddBlockOptionImpl lib data.block1)
          else none }
      match lib.addBlock payload block.num block.szx with
      | none => (none, ctx)
      | some bytes =>
        (some { wire with payload := bytes },
          if block.m then ctx else caRemoveBlockDataFromList ctx blockID)

end

def caUpdateMessageId (ctx : CABlockWiseContext) (blockID : CABlockDataID) (id : Nat) :
    CABlockWiseContext :=
  modifyBlockData ctx blockID (fun data =>
    { data with sentData := { data.sentData with
        requestInfo := data.sentData.requestInfo.map fun req =>
          { req with info := { req.info with messageId := id } } } })

/-- The last lines of `CAAddBlockOption`: the id of a request that got its
options goes into the entry. -/
def noteMessageId (blockID : CABlockDataID) :
    Option WirePdu × CABlockWiseContext → Option WirePdu × CABlockWiseContext
  | (none, ctx) => (none, ctx)
  | (some wire, ctx) =>
    (some wire, if isRequestCode wire.code then caUpdateMessageId ctx blockID wire.id else ctx)

def uintMax : Nat := 2 ^ 32 - 1

/-- `CAAddBlockOption`: the options by the type noted in the entry, then the
message id of a request into the entry. -/
def caAddBlockOption (wire : WirePdu) (info : CAInfo)
    (endpoint : CAEndpoint) : Option WirePdu × CABlockWiseContext :=
  let blockDataID := caCreateBlockDatablockId wire.token endpoint.addr endpoint.port
  if info.payload.length > uintMax then (none, ctx)
  else if blockDataID.length < 1 then (none, ctx)
  else if caResponseCode wire.code = caRequestEntityIncomplete then (some wire, ctx)
  else
    noteMessageId blockDataID
      (match (caGetBlockDataFromBlockDataList ctx blockDataID).bind CABlockData.type with
      | some .block2 => caAddBlockOption2 lib ctx wire info.payload blockDataID
      | some .block1 => caAddBlockOption1 lib ctx wire info.payload blockDataID
      | none => ((lib.addData info.payload).map ({ wire with payload := · }), ctx))

/-- `CAProcessSendData` for a unicast message. -/
def caProcessSendData (data : CAData) (freshId : Nat) : Option WirePdu × CABlockWiseContext :=
  match data.requestInfo, data.responseInfo with
  | some req, _ =>
    match caGeneratePDU req.method req.info freshId with
    | none => (none, ctx)
    | some wire => caAddBlockOption lib ctx wire req.info data.remoteEndpoint
  | none, some res =>
    match caGeneratePDU res.result res.info freshId with
    | none => (none, ctx)
    | some wire => caAddBlockOption lib ctx wire res.info data.remoteEndpoint
  | none, none => (none, ctx)

end

/-- One side. `sendErrors` counts the messages that the send thread could not
turn into a PDU. -/
structure Node where
  ctx : CABlockWiseContext
  queue : List CAData
  up : List CAData
  sendErrors : Nat

def Event.sent : Event → Option CAData
  | .send data => some data
  | _ => none

def Event.handed : Event → Option CAData
  | .receive data => some data
  | _ => none

lemma sent_copies (copies : List Buffer.MemCopy) :
    (copies.map Event.copy).filterMap Event.sent = [] := by
  rw [List.filterMap_eq_nil_iff]
  intro ev hev
  obtain ⟨c, -, rfl⟩ := List.mem_map.mp hev
  rfl

lemma handed_copies (copies : List Buffer.MemCopy) :
    (copies.map Event.copy).filterMap Event.handed = [] := by
  rw [List.filterMap_eq_nil_iff]
  intro ev hev
  obtain ⟨c, -, rfl⟩ := List.mem_map.mp hev
  rfl

def Node.sendNext (lib : LibCoap) (node : Node) (data : CAData) (queue : List CAData)
    (freshId : Nat) : Node × List WirePdu :=
  match caProcessSendData lib node.ctx data freshId with
  | (some wire, ctx) => ({ node with ctx := ctx, queue := queue }, [wire])
  | (none, ctx) =>
    ({ node with ctx := ctx, queue := queue, sendErrors := node.sendErrors + 1 }, [])

/-- The data set of a received PDU; an empty message gets the token that the
retransmission list has for it. -/
def receivedData (endpoint : CAEndpoint) (pdu : CoapPdu) (token : CAToken) : CAData :=
  let data := caGenerateHandlerData endpoint pdu
  if pdu.code = caEmpty then
    { data with responseInfo := data.responseInfo.map fun res =>
        { res with info := { res.info with token := token } } }
  else data

/-- `mh_CAReceivedPacketCallback`: the block-wise code first, and what it does
not support goes straight to the upper layer. -/
def Node.receive (lib : LibCoap) (node : Node) (endpoint : CAEndpoint) (wire : WirePdu)
    (token : CAToken) (dataLen : Nat) : Node :=
  let pdu := caParsePDU lib wire
  let data := receivedData endpoint pdu token
  let out := caReceiveBlockWiseData node.ctx pdu endpoint data dataLen
  { node with
    ctx := out.ctx
    queue := node.queue ++ out.log.filterMap Event.sent
    up := node.up ++ out.log.filterMap Event.handed
      ++ (if out.res = .notSupported ∨ out.res = .requestTimeout then [data] else []) }

structure Net where
  client : Node
  server : Node
  toServer : List WirePdu
  toClient : List WirePdu

structure Peers where
  client : CAEndpoint
  server : CAEndpoint
  client_lt : client.addr.bytes.length < 66
  server_lt : server.addr.bytes.length < 66

inductive Step (lib : LibCoap) (peers : Peers) : Net → Net → Prop
  | clientSends {net : Net} {data : CAData} {queue : List CAData} (freshId : Nat)
      (h : net.client.queue = data :: queue) :
      Step lib peers net { net with
        client := (net.client.sendNext lib data queue freshId).1
        toServer := net.toServer ++ (net.client.sendNext lib data queue freshId).2 }
  | serverSends {net : Net} {data : CAData} {queue : List CAData} (freshId : Nat)
      (h : net.server.queue = data :: queue) :
      Step lib peers net { net with
        server := (net.server.sendNext lib data queue freshId).1
        toClient := net.toClient ++ (net.server.sendNext lib data queue freshId).2 }
  | serverReceives {net : Net} {wire : WirePdu} {rest : List WirePdu} (token : CAToken)
      (dataLen : Nat) (h : net.toServer = wire :: rest) :
      Step lib peers net { net with
        server := net.server.receive lib peers.client wire token dataLen
        toServer := rest }
  | clientReceives {net : Net} {wire : WirePdu} {rest : List WirePdu} (token : CAToken)
      (dataLen : Nat) (h : net.toClient = wire :: rest) :
      Step lib peers net { net with
        client := net.client.receive lib peers.server wire token dataLen
        toClient := rest }

def Net.NoErrors (net : Net) : Prop :=
  (∀ wire ∈ net.toServer ++ net.toClient, isBlockErrorCode wire.code = false)
    ∧ net.client.sendErrors = 0 ∧ net.server.sendErrors = 0

def Node.idle (ctx : CABlockWiseContext) : Node := ⟨ctx, [], [], 0⟩

/-- `CASendBlockWiseData` on a node, called by `CADetachSendMessage`: what it
does not support goes to the send thread as it is. -/
def Node.sendData (node : Node) (data : CAData) : Node :=
  let out := caSendBlockWiseData node.ctx data
  { node with
    ctx := out.ctx
    queue := node.queue ++ out.log.filterMap Event.sent
      ++ (if out.res = .notSupported then [data] else []) }

/-! ## Where the messages are -/

structure Traffic (net : Net) (clientQueue serverQueue : List CAData)
    (toServer toClient : List WirePdu) : Prop where
  clientQueue : net.client.queue = clientQueue
  serverQueue : net.server.queue = serverQueue
  toServer : net.toServer = toServer
  toClient : net.toClient = toClient
  clientErrors : net.client.sendErrors = 0
  serverErrors : net.server.sendErrors = 0

namespace Traffic

variable {lib : LibCoap} {peers : Peers} {net net' : Net} {data : CAData} {wire : WirePdu}

lemma noErrors {cq sq : List CAData} {ts tc : List WirePdu} (h : Traffic net cq sq ts tc)
    (hcodes : ∀ wire ∈ ts ++ tc, isBlockErrorCode wire.code = false) : net.NoErrors := by
  refine ⟨?_, h.clientErrors, h.serverErrors⟩
  rw [h.toServer, h.toClient]
  exact hcodes

lemma stuck (h : Traffic net [] [] [] []) : ¬ Step lib peers net net' := by
  intro hstep
  cases hstep with
  | clientSends _ hq => rw [h.clientQueue] at hq; cases hq
  | serverSends _ hq => rw [h.serverQueue] at hq; cases hq
  | serverReceives _ _ hc => rw [h.toServer] at hc; cases hc
  | clientReceives _ _ hc => rw [h.toClient] at hc; cases hc

lemma clientSends (h : Traffic net [data] [] [] []) (hstep : Step lib peers net net') :
    ∃ freshId, net' = { net with
      client := (net.client.sendNext lib data [] freshId).1
      toServer := (net.client.sendNext lib data [] freshId).2 } := by
  cases hstep with
  | clientSends freshId hq =>
    rw [h.clientQueue] at hq
    cases hq
    rw [h.toServer, List.nil_append]
    exact ⟨freshId, rfl⟩
  | serverSends _ hq => rw [h.serverQueue] at hq; cases hq
  | serverReceives _ _ hc => rw [h.toServer] at hc; cases hc
  | clientReceives _ _ hc => rw [h.toClient] at hc; cases hc

lemma serverSends (h : Traffic net [] [data] [] []) (hstep : Step lib peers net net') :
    ∃ freshId, net' = { net with
      server := (net.server.sendNext lib data [] freshId).1
      toClient := (net.server.sendNext lib data [] freshId).2 } := by
  cases hstep with
  | serverSends freshId hq =>
    rw [h.serverQueue] at hq
    cases hq
    rw [h.toClient, List.nil_append]
    exact ⟨freshId, rfl⟩
  | clientSends _ hq => rw [h.clientQueue] at hq; cases hq
  | serverReceives _ _ hc => rw [h.toServer] at hc; cases hc
  | clientReceives _ _ hc => rw [h.toClient] at hc; cases hc

lemma serverReceives (h : Traffic net [] [] [wire] []) (hstep : Step lib peers net net') :
    ∃ token dataLen, net' = { net with
      server := net.server.receive lib peers.client wire token dataLen
      toServer := [] } := by
  cases hstep with
  | serverReceives token dataLen hc =>
    rw [h.toServer] at hc
    cases hc
    exact ⟨token, dataLen, rfl⟩
  | clientSends _ hq => rw [h.clientQueue] at hq; cases hq
  | serverSends _ hq => rw [h.serverQueue] at hq; cases hq
  | clientReceives _ _ hc => rw [h.toClient] at hc; cases hc

lemma clientReceives (h : Traffic net [] [] [] [wire]) (hstep : Step lib peers net net') :
    ∃ token dataLen, net' = { net with
      client := net.client.receive lib peers.server wire token dataLen
      toClient := [] } := by
  cases hstep with
  | clientReceives token dataLen hc =>
    rw [h.toClient] at hc
    cases hc
    exact ⟨token, dataLen, rfl⟩
  | clientSends _ hq => rw [h.clientQueue] at hq; cases hq
  | serverSends _ hq => rw [h.serverQueue] at hq; cases hq
  | serverReceives _ _ hc => rw [h.toServer] at hc; cases hc

end Traffic

open Blocks

/-! ## The options of block `k` -/

def maxBodyLen : Nat := 2 ^ 20 * 1024

section Options

variable {t : BodyTransfer} {k : Nat} (hpos : 0 < t.payload.length)
  (hsize : t.payload.length ≤ maxBodyLen) (hk : k ≤ t.last)
include hpos hsize hk

lemma num_lt : k < 2 ^ 20 := by
  have hlt := t.prefix_le hpos hk
  rw [maxBodyLen] at hsize
  omega

lemma caSetMoreBit_option {b : CoapBlock} (hnum : b.num = k) (hszx : b.szx = 6) :
    caSetMoreBitFromBlock t.payload.length b = t.option k := by
  have hlt := num_lt hpos hsize hk
  have hshift : (b.num + 1) <<< (b.szx + 4) % 2 ^ 32 = (k + 1) * 1024 := by
    rw [hnum, hszx, Nat.shiftLeft_eq, Nat.mod_eq_of_lt]
    omega
  rw [caSetMoreBitFromBlock, hshift, BodyTransfer.option]
  obtain ⟨num, m, szx⟩ := b
  dsimp only at hnum hszx
  rw [hnum, hszx]

lemma getBlock_option {lib : LibCoap} (hlib : lib.Lawful) :
    lib.getBlock (caAddBlockOptionImpl lib (t.option k)) = t.option k := by
  have hszx : (t.option k).szx ≤ 7 := Nat.le_succ 6
  exact hlib.getBlock_encode (t.option k) (num_lt hpos hsize hk) hszx

omit hsize in
lemma addBlock_block {lib : LibCoap} (hlib : lib.Lawful) :
    lib.addBlock t.payload k 6 = some (block 1024 t.payload k) := by
  have hlt : blockSize 6 * k < t.payload.length := t.prefix_le hpos hk
  exact hlib.addBlock_eq t.payload k 6 hlt

end Options

lemma decode_size {lib : LibCoap} (hlib : lib.Lawful) {t : BodyTransfer}
    (hsize : t.payload.length ≤ maxBodyLen) (k : Nat) :
    (if k = 0 then some (caAddBlockSizeOption lib t.payload.length) else none).map
      lib.decodeVarBytes = t.size k := by
  have hlt : t.payload.length < 2 ^ 32 := by
    rw [maxBodyLen] at hsize
    omega
  rw [BodyTransfer.size]
  by_cases h0 : k = 0
  · rw [if_pos h0, if_pos h0, Option.map_some, caAddBlockSizeOption, hlib.decode_encode _ hlt]
  · simp [h0]

variable {code : Nat}

lemma coapResponseCode_request (h : isRequestCode code = true) :
    coapResponseCode code = code := by
  rw [isRequestCode_iff] at h
  rw [coapResponseCode]
  omega

lemma caResponseCode_request (h : isRequestCode code = true) :
    caResponseCode code ≠ caRequestEntityIncomplete := by
  rw [isRequestCode_iff] at h
  rw [caResponseCode, caRequestEntityIncomplete]
  omega

lemma caGeneratePDU_eq (info : CAInfo) (freshId : Nat) (hcode : code ≠ caEmpty)
    (htype : info.type ≠ .reset) (huri : (info.resourceUri.getD "").utf8ByteSize ≤ caMaxUriLength) :
    caGeneratePDU code info freshId
      = some ⟨info.type, coapResponseCode code,
          if info.messageId = 0 then freshId else info.messageId, info.token,
          none, none, none, none, info.resourceUri, []⟩ := by
  have hempty : ¬ (info.type = .reset ∨ (code = caEmpty ∧ info.type = .acknowledge)) := by
    rintro (h | ⟨h, -⟩)
    · exact htype h
    · exact hcode h
  have hlen : ¬ (info.resourceUri.getD "").utf8ByteSize > caMaxUriLength := Nat.not_lt.mpr huri
  rw [caGeneratePDU, if_neg hempty, if_neg hlen, if_neg hcode]

/-! ## The options, by the entry -/

section Entry

variable {lib : LibCoap} {ctx : CABlockWiseContext} {endpoint : CAEndpoint} {e : CABlockData}
  {rest : List CABlockData}

lemma blockDatablockId_length (token : CAToken) (addr : CString) (port : UInt16) :
    ¬ (caCreateBlockDatablockId token addr port).length < 1 := by
  simp only [caCreateBlockDatablockId, portBytes, List.length_append, List.length_cons,
    List.length_nil]
  omega

variable {blockID : CABlockDataID}

lemma caAddBlockOption_eq (wire : WirePdu) (info : CAInfo)
    (hid : caCreateBlockDatablockId wire.token endpoint.addr endpoint.port = blockID)
    (hslot : slotOf ctx blockID = e :: rest) (hlen : info.payload.length ≤ uintMax)
    (hcode : caResponseCode wire.code ≠ caRequestEntityIncomplete) {blockType : BlockType}
    (htype : e.type = some blockType) :
    caAddBlockOption lib ctx wire info endpoint
      = noteMessageId blockID (match blockType with
        | .block1 => caAddBlockOption1 lib ctx wire info.payload blockID
        | .block2 => caAddBlockOption2 lib ctx wire info.payload blockID) := by
  have hne : ¬ blockID.length < 1 := by
    rw [← hid]
    exact blockDatablockId_length _ _ _
  have hle : ¬ info.payload.length > uintMax := Nat.not_lt.mpr hlen
  rw [caAddBlockOption]
  simp only [hid, if_neg hle, if_neg hne, if_neg hcode, get_of_slotOf hslot, Option.bind_some,
    htype]
  cases blockType with
  | block1 | block2 => rfl

lemma caAddBlockOption_whole (lib : LibCoap) (wire : WirePdu) (info : CAInfo)
    (hid : caCreateBlockDatablockId wire.token endpoint.addr endpoint.port = blockID)
    (hnone : (caGetBlockDataFromBlockDataList ctx blockID).bind CABlockData.type = none)
    (hlen : info.payload.length ≤ uintMax)
    (hcode : caResponseCode wire.code ≠ caRequestEntityIncomplete) :
    caAddBlockOption lib ctx wire info endpoint = noteMessageId blockID
          ((lib.addData info.payload).map ({ wire with payload := · }), ctx) := by
  have hne : ¬ blockID.length < 1 := by
    rw [← hid]
    exact blockDatablockId_length _ _ _
  have hle : ¬ info.payload.length > uintMax := Nat.not_lt.mpr hlen
  rw [caAddBlockOption]
  simp only [hid, if_neg hle, if_neg hne, if_neg hcode, hnone]

variable {payload bytes : List UInt8}

lemma caAddBlockOption1_request (wire : WirePdu) {b : CoapBlock}
    (hslot : slotOf ctx blockID = e :: rest) (hreq : isRequestCode wire.code = true)
    (hmore : caSetMoreBitFromBlock payload.length e.block1 = b)
    (hadd : lib.addBlock payload b.num b.szx = some bytes) :
    caAddBlockOption1 lib ctx wire payload blockID
      = (some { wire with
          size1 := if b.num = 0 then some (caAddBlockSizeOption lib payload.length) else none
          block1 := some (caAddBlockOptionImpl lib b)
          payload := bytes },
        modifyBlockData ctx blockID ({ · with block1 := b })) := by
  simp [caAddBlockOption1, caGetBlockOption, get_of_slotOf hslot, hreq, hmore, hadd]

lemma caAddBlockOption1_response (wire : WirePdu) (hslot : slotOf ctx blockID = e :: rest)
    (hreq : isRequestCode wire.code = false) (hm : e.block1.m = true)
    (hadd : lib.addData payload = some bytes) :
    caAddBlockOption1 lib ctx wire payload blockID
      = (some { wire with block1 := some (caAddBlockOptionImpl lib e.block1), payload := bytes },
        ctx) := by
  simp [caAddBlockOption1, caGetBlockOption, get_of_slotOf hslot, hreq, hadd, hm]

lemma caAddBlockOption2_response (wire : WirePdu) {b : CoapBlock}
    (hslot : slotOf ctx blockID = e :: rest) (hreq : isRequestCode wire.code = false)
    (hmore : caSetMoreBitFromBlock payload.length e.block2 = b)
    (hadd : lib.addBlock payload b.num b.szx = some bytes) :
    caAddBlockOption2 lib ctx wire payload blockID
      = (some { wire with
          size2 := if b.num = 0 then some (caAddBlockSizeOption lib payload.length) else none
          block2 := some (caAddBlockOptionImpl lib b)
          block1 := if e.block1.num ≠ 0 then some (caAddBlockOptionImpl lib e.block1) else none
          payload := bytes },
        if b.m then modifyBlockData ctx blockID (fun data =>
            { data with block2 := b, block1 := { data.block1 with num := 0 } })
        else caRemoveBlockDataFromList (modifyBlockData ctx blockID (fun data =>
            { data with block2 := b, block1 := { data.block1 with num := 0 } })) blockID) := by
  simp [caAddBlockOption2, get_of_slotOf hslot, hreq, hmore, hadd]

lemma caAddBlockOption2_request (lib : LibCoap) (wire : WirePdu) (payload : List UInt8)
    (hslot : slotOf ctx blockID = e :: rest) (hreq : isRequestCode wire.code = true) :
    caAddBlockOption2 lib ctx wire payload blockID
      = (some { wire with block2 := some (caAddBlockOptionImpl lib e.block2) }, ctx) := by
  simp [caAddBlockOption2, get_of_slotOf hslot, hreq]

lemma slotOf_caUpdateMessageId (hslot : slotOf ctx blockID = e :: rest) (id : Nat) :
    slotOf (caUpdateMessageId ctx blockID id) blockID
      = { e with sentData := { e.sentData with
          requestInfo := e.sentData.requestInfo.map fun req =>
            { req with info := { req.info with messageId := id } } } } :: rest :=
  slotOf_modify (fun _ he => he) hslot

end Entry

end Iochibity.Coap
