/-
A response body on its way from the server to the client, message by message.
-/
import Iochibity.Coap.BlockSender

namespace Iochibity.Coap

open Blocks
open List

/-! ## The session -/

/-- A response body and the request it answers. The request has a token, is confirmable or not and
fits one message; the response is no reset; the URIs fit. `client` is as the server sees it. -/
structure DownloadSession extends DownloadTransfer where
  client : CAEndpoint
  method : Nat
  requestType : CAMessageType
  requestId : Nat
  requestPayload : List UInt8
  requestUri : Option String
  result : Nat
  responseType : CAMessageType
  responseId : Nat
  client_lt : client.addr.bytes.length < 66
  token_ne : token.bytes ≠ []
  isRequest : isRequestCode method = true
  requestType_eq : requestType = .confirm ∨ requestType = .nonconfirm
  small : requestPayload.length ≤ 1024
  requestUri_le : (requestUri.getD "").utf8ByteSize ≤ caMaxUriLength
  code_eq : code = coapResponseCode result
  result_ne : result ≠ caEmpty
  responseType_ne : responseType ≠ .reset
  uri_le : (uri.getD "").utf8ByteSize ≤ caMaxUriLength
  large : 1024 < payload.length
  size_le : payload.length ≤ maxBodyLen

namespace DownloadSession

variable (s : DownloadSession)

def peers : Peers := ⟨s.client, s.endpoint, s.client_lt, s.addr_lt⟩

def serverId : CABlockDataID :=
  caCreateBlockDatablockId s.token s.client.addr s.client.port

def request : CAData :=
  { remoteEndpoint := s.endpoint
    requestInfo := some ⟨s.method,
      ⟨s.requestType, s.requestId, s.token, s.requestPayload, s.requestUri⟩, false⟩
    responseInfo := none
    dataType := some .requestData }

def response : CAData :=
  { remoteEndpoint := s.client
    requestInfo := none
    responseInfo := some ⟨s.result,
      ⟨s.responseType, s.responseId, s.token, s.payload, s.uri⟩, false⟩
    dataType := some .responseData }

lemma payload_pos : 0 < s.payload.length := by
  have h := s.large
  omega

lemma code_ne (a : Arrival) : (s.pdu a).code ≠ caEmpty := by
  have h := s.result_ne
  rw [DownloadTransfer.pdu, s.code_eq, coapResponseCode]
  rw [caEmpty] at h ⊢
  dsimp only
  omega

end DownloadSession

def nextPdu (s : DownloadSession) (k : Nat) (type : CAMessageType) (id : Nat) : CoapPdu :=
  { type := type, code := s.method, id := id, token := s.token
    block1 := none, block2 := some ⟨k, false, 6⟩, size1 := none, size2 := none
    uri := s.requestUri, payload := [] }

/-! ## The server -/

def Responds (s : DownloadSession) (data : CAData) : Prop :=
  data.remoteEndpoint = s.client ∧ data.requestInfo = none ∧ ∃ type id, type ≠ .reset
      ∧ data.responseInfo = some ⟨s.result, ⟨type, id, s.token, s.payload, s.uri⟩, false⟩

def Serves (s : DownloadSession) (ctx : CABlockWiseContext) (k : Nat) (m : Bool) : Prop :=
  ∃ e, slotOf ctx s.serverId = [e] ∧ e.type = some .block2 ∧ e.block2 = ⟨k, m, 6⟩
    ∧ e.block1.num = 0 ∧ Responds s e.sentData

section Server

variable {s : DownloadSession} {k : Nat} {ctx : CABlockWiseContext} {lib : LibCoap}

lemma serve_sends (hlib : lib.Lawful) (hk : k ≤ s.last) {m : Bool} (hctx : Serves s ctx k m)
    {data : CAData} (hdata : Responds s data) (freshId : Nat) :
    ∃ wire ctx' a, caProcessSendData lib ctx data freshId = (some wire, ctx')
      ∧ caParsePDU lib wire = s.pdu a ∧ a.num = k ∧ a.type ≠ .reset
      ∧ (k < s.last → Serves s ctx' k true) := by
  obtain ⟨e, hslot, htype', hblock2, hblock1, hresp⟩ := hctx
  obtain ⟨hep, hnone, type, id, htype, hres⟩ := hdata
  have hlen : s.payload.length ≤ uintMax := by
    have h := s.size_le
    rw [maxBodyLen] at h
    rw [uintMax]
    omega
  -- the header
  have hpdu := caGeneratePDU_eq ⟨type, id, s.token, s.payload, s.uri⟩ freshId s.result_ne htype
    s.uri_le
  rw [← s.code_eq] at hpdu
  generalize hmid : (if id = 0 then freshId else id) = mid at hpdu
  have hcode : caResponseCode s.code ≠ caRequestEntityIncomplete := by
    intro h
    have herr := s.noError
    rw [isBlockErrorCode, h] at herr
    cases herr
  -- the options
  have hmore := caSetMoreBit_option s.payload_pos s.size_le hk (b := e.block2)
    (by rw [hblock2]) (by rw [hblock2])
  have hadd := addBlock_block s.payload_pos hk hlib
  have hopt := caAddBlockOption2_response
    ⟨type, s.code, mid, s.token, none, none, none, none, s.uri, []⟩ hslot s.isResponse hmore hadd
  have hsend : caProcessSendData lib ctx data freshId
      = noteMessageId s.serverId (caAddBlockOption2 lib ctx
          ⟨type, s.code, mid, s.token, none, none, none, none, s.uri, []⟩ s.payload
          s.serverId) := by
    rw [caProcessSendData, hnone, hres]
    simp only [hpdu, hep]
    exact caAddBlockOption_eq ⟨type, s.code, mid, s.token, none, none, none, none, s.uri, []⟩
      ⟨type, id, s.token, s.payload, s.uri⟩ rfl hslot hlen hcode htype'
  rw [hopt] at hsend
  have hnote : ¬ isRequestCode s.code = true := by
    rw [s.isResponse]
    exact Bool.noConfusion
  simp only [noteMessageId, if_neg hnote] at hsend
  refine ⟨_, _, ⟨k, type, mid, 0⟩, hsend, ?_, rfl, htype, ?_⟩
  · have hsize := decode_size hlib s.size_le k
    have hblock := getBlock_option s.payload_pos s.size_le hk hlib
    have hnum : (s.option k).num = k := rfl
    simp [caParsePDU, DownloadTransfer.pdu, hnum, hsize, hblock, hblock1]
  · intro hlt
    have hm : (s.option k).m = true := by
      rw [s.option_m]
      simp [hlt]
    rw [if_pos hm]
    refine ⟨{ e with block2 := s.option k, block1 := { e.block1 with num := 0 } }, ?_, htype', ?_,
      rfl, hresp⟩
    · exact slotOf_modify (fun _ he => he) hslot
    · show s.option k = ⟨k, true, 6⟩
      rw [← hm]
      rfl

lemma serve_receives (hctx : Serves s ctx k true) (type : CAMessageType) (id : Nat)
    (token : CAToken) (dataLen : Nat) :
    ∃ ctx' data, caReceiveBlockWiseData ctx (nextPdu s (k + 1) type id) s.client
        (receivedData s.client (nextPdu s (k + 1) type id) token) dataLen
        = ⟨.ok, ctx', [.send data]⟩
      ∧ Serves s ctx' (k + 1) false ∧ Responds s data := by
  obtain ⟨e, hslot, htype', hblock2, hblock1, hep, hnone, rtype, rid, hrtype, hres⟩ := hctx
  have hreq : isRequestCode (nextPdu s (k + 1) type id).code = true := s.isRequest
  have hcode : (nextPdu s (k + 1) type id).code ≠ caEmpty := by
    intro h
    rw [h] at hreq
    cases hreq
  have herr : isBlockErrorCode (nextPdu s (k + 1) type id).code = false :=
    isBlockErrorCode_of_request s.isRequest
  have hid : ¬ (s.serverId.length < 1 ∨ 255 < s.serverId.length) := by
    have htok : s.token.bytes.length ≤ 8 := s.token.length_le
    have haddr := s.client_lt
    simp only [DownloadSession.serverId, caCreateBlockDatablockId, portBytes, length_append,
      length_cons, length_nil]
    omega
  obtain ⟨ctx₁, hexist, hslot₁, -⟩ :=
    caCheckTheExist_found (nextPdu s (k + 1) type id) hslot s.client .block2
  -- the entry takes the number over
  have hszx : ¬ 6 > e.block2.szx := by
    rw [hblock2]
    exact Nat.lt_irrefl 6
  have hupd : updateFromRequest2 { e with type := some .block2 } (nextPdu s (k + 1) type id)
      ⟨k + 1, false, 6⟩
      = (some ({ e with type := some .block2, block2 := ⟨k + 1, false, 6⟩ }, .option2Request),
          []) := by
    have hdata : caUpdateBlockData { e with type := some .block2 } ⟨k + 1, false, 6⟩ .block2
        = some { e with type := some .block2, block2 := ⟨k + 1, false, 6⟩ } :=
      caUpdateBlockData_block2 _ (Nat.le_refl 6)
    simp [updateFromRequest2, caUpdateBlockOptionItems, herr, caNegotiateBlockSize, if_neg hszx,
      hdata]
  have heid : e.blockDataId = s.serverId := blockDataId_of_get (get_of_slotOf hslot)
  have hstore : slotOf (modifyBlockData ctx₁ s.serverId (fun _ =>
      { e with type := some .block2, block2 := ⟨k + 1, false, 6⟩ })) s.serverId
      = [{ e with type := some .block2, block2 := ⟨k + 1, false, 6⟩ }] :=
    slotOf_store hslot₁ heid
  have hreceive : caReceiveBlockWiseData ctx (nextPdu s (k + 1) type id) s.client
      (receivedData s.client (nextPdu s (k + 1) type id) token) dataLen
      = caSetNextBlockOption2 ctx (nextPdu s (k + 1) type id) s.client
        (receivedData s.client (nextPdu s (k + 1) type id) token) ⟨k + 1, false, 6⟩ dataLen :=
    caReceiveBlockWiseData_block2 hcode rfl rfl
  have hset : caSetNextBlockOption2 ctx (nextPdu s (k + 1) type id) s.client
      (receivedData s.client (nextPdu s (k + 1) type id) token) ⟨k + 1, false, 6⟩ dataLen
      = finishNextStep ctx₁ (nextPdu s (k + 1) type id)
          (receivedData s.client (nextPdu s (k + 1) type id) token) s.serverId
          (updateFromRequest2 { e with type := some .block2 } (nextPdu s (k + 1) type id)
            ⟨k + 1, false, 6⟩) := by
    rw [caSetNextBlockOption2]
    dsimp only
    rw [show pduBlockId (nextPdu s (k + 1) type id) s.client = s.serverId from rfl, if_neg hid,
      hexist]
    dsimp only
    rw [get_of_slotOf hslot₁]
    dsimp only
    simp [hreq]
  rw [hreceive, hset, hupd]
  simp only [finishNextStep, caProcessNextStep, get_of_slotOf hstore, hres, if_true, nil_append]
  have hresp : ∀ type', type' ≠ CAMessageType.reset → Responds s { e.sentData with
      responseInfo := some ⟨s.result,
        (⟨rtype, rid, s.token, s.payload, s.uri⟩ : CAInfo).stamp id type', false⟩ } := by
    intro type' htype'
    exact ⟨hep, hnone, type', id, htype', rfl⟩
  have hanswer : (if (nextPdu s (k + 1) type id).type = .confirm then .acknowledge
      else CAMessageType.nonconfirm) ≠ .reset := by
    split
    · exact CAMessageType.noConfusion
    · exact CAMessageType.noConfusion
  exact ⟨_, _, rfl, ⟨_, slotOf_setSentData hstore _, rfl, rfl, hblock1, hresp _ hanswer⟩,
    hresp _ hanswer⟩

lemma serve_receives_empty (hctx : Serves s ctx k true) {pdu : CoapPdu}
    (hcode : pdu.code = caEmpty) (token : CAToken) (dataLen : Nat) :
    Serves s (caReceiveBlockWiseData ctx pdu s.client (receivedData s.client pdu token) dataLen).ctx
        k true
      ∧ (caReceiveBlockWiseData ctx pdu s.client (receivedData s.client pdu token) dataLen).log
        = [] := by
  have hempty : ∀ tok, Serves s (receiveEmpty ctx s.client tok).ctx k true
      ∧ (receiveEmpty ctx s.client tok).log = [] := by
    intro tok
    obtain ⟨e, hslot, htype, hblock2, hrest⟩ := hctx
    by_cases hid : caCreateBlockDatablockId tok s.client.addr s.client.port = s.serverId
    · have hm : (e.block1.m || e.block2.m) = true := by
        simp [hblock2]
      simp only [receiveEmpty, hid, get_of_slotOf hslot, hm, if_true]
      exact ⟨⟨e, hslot, htype, hblock2, hrest⟩, trivial⟩
    have hother : Serves s (caRemoveBlockDataFromList ctx
        (caCreateBlockDatablockId tok s.client.addr s.client.port)) k true := by
      refine ⟨e, ?_, htype, hblock2, hrest⟩
      rw [slotOf_remove_ne (Ne.symm hid), hslot]
    unfold receiveEmpty
    dsimp only
    split
    · split
      · exact ⟨⟨e, hslot, htype, hblock2, hrest⟩, rfl⟩
      · exact ⟨hother, rfl⟩
    · exact ⟨hother, rfl⟩
  rw [caReceiveBlockWiseData, if_pos hcode]
  split
  · exact ⟨hctx, rfl⟩
  · exact hempty _

end Server

/-! ## The client -/

def Asks (s : DownloadSession) (data : CAData) : Prop :=
  data.remoteEndpoint = s.endpoint ∧ ∃ type id, type ≠ .reset ∧ data.requestInfo
      = some ⟨s.method, ⟨type, id, s.token, s.requestPayload, s.requestUri⟩, false⟩

/-- The client waits for block `k`. Nothing is filed under the id by which an
empty ACK is looked up. -/
def Awaits (s : DownloadSession) (ctx : CABlockWiseContext) (k : Nat) : Prop :=
  ∃ e, slotOf ctx s.id = [e] ∧ AwaitsBlock s.toDownloadTransfer k e ∧ Asks s e.sentData
    ∧ slotOf ctx (emptyAckId s.endpoint) = []

def Asking (s : DownloadSession) (ctx : CABlockWiseContext) (k : Nat) : Prop :=
  ∃ e, slotOf ctx s.id = [e] ∧ AwaitsBlock s.toDownloadTransfer k e ∧ Asks s e.sentData
    ∧ slotOf ctx (emptyAckId s.endpoint) = [] ∧ e.type = some .block2 ∧ e.block2 = ⟨k, false, 6⟩

section Client

variable {s : DownloadSession} {k : Nat} {ctx : CABlockWiseContext} {lib : LibCoap}

lemma Asking.noAck (h : Asking s ctx k) : slotOf ctx (emptyAckId s.endpoint) = [] := by
  obtain ⟨e, -, -, -, hack, -⟩ := h
  exact hack

lemma emptyAckId_ne (s : DownloadSession) : emptyAckId s.endpoint ≠ s.id := by
  intro h
  have hlen := congrArg List.length h
  have hpos : 0 < s.token.bytes.length := length_pos_iff.mpr s.token_ne
  simp only [emptyAckId, BodyTransfer.id, caCreateBlockDatablockId, CAToken.null,
    length_append, length_nil] at hlen
  omega

lemma emptyAck_modify {f : CABlockData → CABlockData}
    (hf : ∀ e, e.blockDataId = s.id → (f e).blockDataId = s.id)
    (h : slotOf ctx (emptyAckId s.endpoint) = []) :
    slotOf (modifyBlockData ctx s.id f) (emptyAckId s.endpoint) = [] := by
  rw [slotOf_modify_ne hf (emptyAckId_ne s), h]

lemma ask_answers {pdu : CoapPdu} (hreq : isRequestCode pdu.code = false) (hctx : Asking s ctx k) :
    ∃ ctx' acks data, caSendBlockMessage ctx pdu s.id
        = ⟨.ok, ctx', List.map Event.send acks ++ [.send data]⟩
      ∧ acks.length ≤ 1 ∧ (∀ ack ∈ acks, ∃ id, ack = emptyAckData s.endpoint id)
      ∧ Asking s ctx' k ∧ Asks s data := by
  obtain ⟨e, hslot, he, ⟨hep, type, id, htype, hinfo⟩, hack, htype', hblock2⟩ := hctx
  have hnext : ∀ type', type' ≠ CAMessageType.reset → Asks s { e.sentData with
      requestInfo := some ⟨s.method,
        (⟨type, id, s.token, s.requestPayload, s.requestUri⟩ : CAInfo).stamp 0 type', false⟩ } := by
    intro type' htype'
    exact ⟨hep, type', 0, htype', rfl⟩
  have hkeep : ∀ {ctx₁ : CABlockWiseContext} {e₁ : CABlockData} (sentData : CAData),
      slotOf ctx₁ s.id = [e₁] → (∃ d, e₁ = { e with sentData := d }) → Asks s sentData →
      slotOf ctx₁ (emptyAckId s.endpoint) = [] →
      Asking s (modifyBlockData ctx₁ s.id ({ · with sentData := sentData })) k := by
    rintro ctx₁ e₁ sentData hslot₁ ⟨d, rfl⟩ hasks hack₁
    exact ⟨_, slotOf_setSentData hslot₁ sentData, he.sentData _ _, hasks,
      emptyAck_modify (fun _ h => h) hack₁, htype', hblock2⟩
  by_cases hcon : pdu.type = .confirm
  · -- the empty ACK finds no entry of its own
    have hack' : slotOf (caSendDirectEmptyResponse ctx s.endpoint id).ctx (emptyAckId s.endpoint)
        = [] := by
      rw [caSendDirectEmptyResponse_eq, slotOf_modify_self, hack]
      · rfl
      · exact fun _ h => h
    obtain ⟨d, hslot'⟩ := slotOf_emptyAck hslot s.endpoint id
    have hasks := hnext .confirm CAMessageType.noConfusion
    refine ⟨_, [emptyAckData s.endpoint id], _, ?_, Nat.le_refl 1, ?_,
      hkeep _ hslot' ⟨d, rfl⟩ hasks hack', hasks⟩
    · simp [caSendBlockMessage, get_of_slotOf hslot, hreq, hinfo, if_pos hcon, hep,
        caSendDirectEmptyResponse_eq]
    · intro ack hmem
      exact ⟨id, mem_singleton.mp hmem⟩
  have hne : sentMsgType pdu.type ≠ .reset := by
    cases pdu.type with
    | confirm | nonconfirm | acknowledge | reset => exact CAMessageType.noConfusion
  have hasks := hnext _ hne
  refine ⟨_, [], _, caSendBlockMessage_response pdu hslot hreq hcon hinfo, Nat.zero_le 1, ?_,
    hkeep _ hslot ⟨e.sentData, rfl⟩ hasks hack, hasks⟩
  intro ack hmem
  cases hmem

variable {a : Arrival}

lemma ask_stores (hctx : Awaits s ctx k) (ha : a.num = k) (token : CAToken) (dataLen : Nat) :
    ∃ ctx' e status copies, caReceiveBlockWiseData ctx (s.pdu a) s.endpoint
          (receivedData s.endpoint (s.pdu a) token) dataLen
        = finishNextStep ctx' (s.pdu a) (caGenerateHandlerData s.endpoint (s.pdu a)) s.id
            (some (e, status), List.map Event.copy copies)
      ∧ (∃ e₀, slotOf ctx' s.id = [e₀]) ∧ e.blockDataId = s.id ∧ e.type = some .block2
      ∧ Asks s e.sentData ∧ slotOf ctx' (emptyAckId s.endpoint) = []
      ∧ ((k < s.last ∧ status = .option2Response ∧ AwaitsBlock s.toDownloadTransfer (k + 1) e
          ∧ e.block2 = ⟨k + 1, false, 6⟩)
        ∨ (k = s.last ∧ status = .option2LastBlock
          ∧ HoldsPrefix s.payload s.payload.length e)) := by
  obtain ⟨e, hslot, he, hasks, hack⟩ := hctx
  obtain ⟨ctx', hexist, hslot', hframe⟩ :=
    caCheckTheExist_found (s.pdu a) hslot s.endpoint .block2
  obtain ⟨e', status, copies, hupd, hid', htype', hsent', hnext⟩ :=
    update2_next (a := { a with dataLen := dataLen }) s.payload_pos
      (he.sentData (some .block2) e.sentData) ha
  have heid : e.blockDataId = s.id := blockDataId_of_get (get_of_slotOf hslot)
  have hnotGet : ¬ ((s.option a.num).num = 0 ∧ (s.pdu a).code = caGet
      ∧ (s.option a.num).m = false) := by
    rintro ⟨-, hget, -⟩
    have hreq := s.not_request a
    rw [hget] at hreq
    cases hreq
  have hdata : receivedData s.endpoint (s.pdu a) token
      = caGenerateHandlerData s.endpoint (s.pdu a) := by
    rw [receivedData, if_neg (s.code_ne a)]
  have hreceive : caReceiveBlockWiseData ctx (s.pdu a) s.endpoint
      (receivedData s.endpoint (s.pdu a) token) dataLen
      = caSetNextBlockOption2 ctx (s.pdu a) s.endpoint
        (receivedData s.endpoint (s.pdu a) token) (s.option a.num) dataLen :=
    caReceiveBlockWiseData_block2 (s.code_ne a) rfl rfl
  refine ⟨ctx', e', status, copies, ?_, ⟨_, hslot'⟩, hid'.trans heid, htype', hsent' ▸ hasks, ?_,
    hnext⟩
  · rw [hreceive, hdata, caSetNextBlockOption2]
    rw [show pduBlockId (s.pdu a) s.endpoint = s.id from rfl, if_neg s.id_length, hexist]
    dsimp only
    rw [get_of_slotOf hslot']
    dsimp only
    rw [if_neg hnotGet, s.not_request a, if_neg Bool.false_ne_true]
    exact congrArg _ hupd
  · rw [hframe _ (emptyAckId_ne s), hack]

lemma ask_receives (hctx : Awaits s ctx k) (hk : k < s.last) (ha : a.num = k) (token : CAToken)
    (dataLen : Nat) :
    ∃ ctx' copies acks data, caReceiveBlockWiseData ctx (s.pdu a) s.endpoint
        (receivedData s.endpoint (s.pdu a) token) dataLen
        = ⟨.ok, ctx', List.map Event.copy copies ++ (List.map Event.send acks ++ [.send data])⟩
      ∧ acks.length ≤ 1 ∧ (∀ ack ∈ acks, ∃ id, ack = emptyAckData s.endpoint id)
      ∧ Asking s ctx' (k + 1) ∧ Asks s data := by
  obtain ⟨ctx₁, e, status, copies, hreceive, ⟨e₀, hslot⟩, heid, htype, hasks, hack, hnext⟩ :=
    ask_stores hctx ha token dataLen
  rcases hnext with ⟨-, rfl, he, hblock2⟩ | ⟨hlast, -⟩
  · have hstored : Asking s (modifyBlockData ctx₁ s.id (fun _ => e)) (k + 1) :=
      ⟨e, slotOf_store hslot heid, he, hasks, emptyAck_modify (fun _ _ => heid) hack, htype,
        hblock2⟩
    obtain ⟨ctx', acks, data, hsend, hlen, hacks, hasking, hdata⟩ :=
      ask_answers (s.not_request a) hstored
    refine ⟨ctx', copies, acks, data, ?_, hlen, hacks, hasking, hdata⟩
    rw [hreceive]
    simp [finishNextStep, caProcessNextStep, hsend]
  · omega

lemma ask_receives_last (hctx : Awaits s ctx s.last) (ha : a.num = s.last) (token : CAToken)
    (dataLen : Nat) :
    ∃ ctx' copies data, caReceiveBlockWiseData ctx (s.pdu a) s.endpoint
        (receivedData s.endpoint (s.pdu a) token) dataLen
        = ⟨.ok, ctx', List.map Event.copy copies ++ [.receive data]⟩
      ∧ caGetPayloadInfo data = s.payload := by
  obtain ⟨ctx₁, e, status, copies, hreceive, ⟨e₀, hslot⟩, heid, -, -, -, hnext⟩ :=
    ask_stores hctx ha token dataLen
  rcases hnext with ⟨hlt, -⟩ | ⟨-, rfl, hholds⟩
  · omega
  have hget := get_of_slotOf (slotOf_store hslot heid)
  obtain ⟨data, hlast, hpay⟩ :=
    receiveLast_data (s.pdu a) s.endpoint s.payload_pos hget hholds
  simp only [finishNextStep, caProcessNextStep, hlast, if_true] at hreceive
  exact ⟨_, copies, data, hreceive, hpay⟩

lemma ask_sends (hlib : lib.Lawful) (hk : k ≤ s.last) (hctx : Asking s ctx k) {data : CAData}
    (hdata : Asks s data) (freshId : Nat) :
    ∃ wire ctx' type id, caProcessSendData lib ctx data freshId = (some wire, ctx')
      ∧ caParsePDU lib wire = nextPdu s k type id ∧ Awaits s ctx' k := by
  obtain ⟨e, hslot, he, ⟨hep', type', id', htype', hinfo'⟩, hack, hetype, hblock2⟩ := hctx
  obtain ⟨hep, type, id, htype, hinfo⟩ := hdata
  have hcode : s.method ≠ caEmpty := by
    have h := isRequestCode_iff.mp s.isRequest
    rw [caEmpty]
    omega
  have hlen : s.requestPayload.length ≤ uintMax := by
    have h := s.small
    rw [uintMax]
    omega
  have hpdu := caGeneratePDU_eq ⟨type, id, s.token, s.requestPayload, s.requestUri⟩ freshId hcode
    htype s.requestUri_le
  rw [coapResponseCode_request s.isRequest] at hpdu
  generalize hmid : (if id = 0 then freshId else id) = mid at hpdu
  have hopt := caAddBlockOption2_request lib
    ⟨type, s.method, mid, s.token, none, none, none, none, s.requestUri, []⟩ s.requestPayload
    hslot s.isRequest
  have hsend : caProcessSendData lib ctx data freshId
      = noteMessageId s.id (caAddBlockOption2 lib ctx
          ⟨type, s.method, mid, s.token, none, none, none, none, s.requestUri, []⟩
          s.requestPayload s.id) := by
    rw [caProcessSendData, hinfo]
    simp only [hpdu, hep]
    exact caAddBlockOption_eq ⟨type, s.method, mid, s.token, none, none, none, none, s.requestUri,
      []⟩ ⟨type, id, s.token, s.requestPayload, s.requestUri⟩ rfl hslot hlen
      (caResponseCode_request s.isRequest) hetype
  rw [hopt] at hsend
  simp only [noteMessageId, s.isRequest, if_true] at hsend
  have hblock : lib.getBlock (caAddBlockOptionImpl lib e.block2) = ⟨k, false, 6⟩ := by
    rw [hblock2]
    exact hlib.getBlock_encode ⟨k, false, 6⟩ (num_lt s.payload_pos s.size_le hk) (Nat.le_succ 6)
  refine ⟨_, _, type, mid, hsend, ?_, _, slotOf_caUpdateMessageId hslot mid, he.sentData _ _,
    ?_, ?_⟩
  · simp [caParsePDU, nextPdu, hblock]
  · refine ⟨hep', type', mid, htype', ?_⟩
    show e.sentData.requestInfo.map _ = _
    rw [hinfo']
    rfl
  · exact emptyAck_modify (fun _ h => h) hack

lemma ack_sends (hlib : lib.Lawful) (hack : slotOf ctx (emptyAckId s.endpoint) = []) (id : Nat)
    (freshId : Nat) :
    ∃ wire, caProcessSendData lib ctx (emptyAckData s.endpoint id) freshId = (some wire, ctx)
      ∧ wire.code = caEmpty := by
  have hpdu : caGeneratePDU caEmpty
      { CAInfo.zero with type := .acknowledge, messageId := id } freshId
      = some ⟨.acknowledge, 0, if id = 0 then freshId else id, CAToken.null, none, none, none, none,
          none, []⟩ := rfl
  generalize (if id = 0 then freshId else id) = mid at hpdu
  refine ⟨⟨.acknowledge, 0, mid, CAToken.null, none, none, none, none, none, []⟩, ?_, rfl⟩
  have hcode : caResponseCode 0 ≠ caRequestEntityIncomplete := by decide
  have hnone : (caGetBlockDataFromBlockDataList ctx (emptyAckId s.endpoint)).bind
      CABlockData.type = none := by
    rw [caGetBlockData_eq_head?, hack]
    rfl
  have hopt := caAddBlockOption_whole lib
    ⟨.acknowledge, 0, mid, CAToken.null, none, none, none, none, none, []⟩
    { CAInfo.zero with type := .acknowledge, messageId := id } rfl hnone (Nat.zero_le _) hcode
  rw [show ({ CAInfo.zero with type := .acknowledge, messageId := id } : CAInfo).payload = []
    from rfl, hlib.addData_nil] at hopt
  rw [caProcessSendData]
  simp only [emptyAckData, hpdu]
  exact hopt

end Client

/-! ## The run -/

inductive DownloadPhase (lib : LibCoap) (s : DownloadSession) : Nat → Net → Prop
  /-- block `k` is in the server's queue -/
  | serving {net : Net} {k : Nat} {m : Bool} {data : CAData} (hk : k ≤ s.last)
      (htraffic : Traffic net [] [data] [] []) (hup : net.client.up = [])
      (hclient : Awaits s net.client.ctx k) (hserver : Serves s net.server.ctx k m)
      (hdata : Responds s data) : DownloadPhase lib s (8 * (s.last - k) + 2) net
  /-- block `k` is under way -/
  | arriving {net : Net} {k : Nat} {wire : WirePdu} {a : Arrival} (hk : k ≤ s.last)
      (htraffic : Traffic net [] [] [] [wire]) (hup : net.client.up = [])
      (hclient : Awaits s net.client.ctx k)
      (hserver : k < s.last → Serves s net.server.ctx k true)
      (hwire : caParsePDU lib wire = s.pdu a) (ha : a.num = k) :
      DownloadPhase lib s (8 * (s.last - k) + 1) net
  /-- the request for block `k + 1` is in the client's queue, behind empty ACKs;
  others of them are under way -/
  | asking {net : Net} {k : Nat} {acks : List CAData} {data : CAData} {empties : List WirePdu}
      (hk : k < s.last) (htraffic : Traffic net (acks ++ [data]) [] empties [])
      (hup : net.client.up = []) (hclient : Asking s net.client.ctx (k + 1))
      (hserver : Serves s net.server.ctx k true)
      (hacks : ∀ ack ∈ acks, ∃ id, ack = emptyAckData s.endpoint id)
      (hempties : ∀ wire ∈ empties, wire.code = caEmpty) (hdata : Asks s data) :
      DownloadPhase lib s (8 * (s.last - k) - 4 + 2 * acks.length + empties.length) net
  /-- the request is under way, behind empty ACKs -/
  | requesting {net : Net} {k : Nat} {empties : List WirePdu} {wire : WirePdu}
      {type : CAMessageType} {id : Nat} (hk : k < s.last)
      (htraffic : Traffic net [] [] (empties ++ [wire]) []) (hup : net.client.up = [])
      (hclient : Awaits s net.client.ctx (k + 1)) (hserver : Serves s net.server.ctx k true)
      (hempties : ∀ wire ∈ empties, wire.code = caEmpty)
      (hwire : caParsePDU lib wire = nextPdu s (k + 1) type id) :
      DownloadPhase lib s (8 * (s.last - k) - 5 + empties.length) net
  /-- the body was handed up -/
  | done {net : Net} (htraffic : Traffic net [] [] [] [])
      (hup : net.client.up.map caGetPayloadInfo = [s.payload]) : DownloadPhase lib s 0 net

section Run

variable {lib : LibCoap} {s : DownloadSession} {net net' : Net} {n : Nat}

lemma sent_sends (acks : List CAData) : (acks.map Event.send).filterMap Event.sent = acks := by
  rw [filterMap_map]
  exact filterMap_some

lemma handed_sends (acks : List CAData) : (acks.map Event.send).filterMap Event.handed = [] := by
  rw [filterMap_eq_nil_iff]
  intro ev hev
  obtain ⟨ack, -, rfl⟩ := mem_map.mp hev
  rfl

variable {k : Nat} {wire : WirePdu}

lemma empty_step (lib : LibCoap) {node : Node} (hnode : Serves s node.ctx k true)
    (hcode : wire.code = caEmpty) (token : CAToken) (dataLen : Nat) :
    Serves s (node.receive lib s.client wire token dataLen).ctx k true
      ∧ (node.receive lib s.client wire token dataLen).queue = node.queue
      ∧ (node.receive lib s.client wire token dataLen).sendErrors = node.sendErrors := by
  have hpdu : (caParsePDU lib wire).code = caEmpty := hcode
  obtain ⟨hctx, hlog⟩ := serve_receives_empty hnode hpdu token dataLen
  refine ⟨hctx, ?_, rfl⟩
  simp [Node.receive, hlog]

variable {data : CAData}

lemma serving_step (hlib : lib.Lawful) {m : Bool} (hk : k ≤ s.last)
    (htraffic : Traffic net [] [data] [] []) (hup : net.client.up = [])
    (hclient : Awaits s net.client.ctx k) (hserver : Serves s net.server.ctx k m)
    (hdata : Responds s data) (hstep : Step lib s.peers net net') :
    ∃ m, m < 8 * (s.last - k) + 2 ∧ DownloadPhase lib s m net' := by
  obtain ⟨freshId, rfl⟩ := htraffic.serverSends hstep
  obtain ⟨wire, ctx', a, hsend, hwire, ha, -, hserver'⟩ :=
    serve_sends hlib hk hserver hdata freshId
  refine ⟨8 * (s.last - k) + 1, by omega, .arriving hk ?_ hup hclient ?_ hwire ha⟩
  · simp only [Node.sendNext, hsend]
    exact ⟨htraffic.clientQueue, rfl, htraffic.toServer, rfl, htraffic.clientErrors,
      htraffic.serverErrors⟩
  · simp only [Node.sendNext, hsend]
    exact hserver'

lemma arriving_step {a : Arrival} (hk : k ≤ s.last) (htraffic : Traffic net [] [] [] [wire])
    (hup : net.client.up = []) (hclient : Awaits s net.client.ctx k)
    (hserver : k < s.last → Serves s net.server.ctx k true) (hwire : caParsePDU lib wire = s.pdu a)
    (ha : a.num = k) (hstep : Step lib s.peers net net') :
    ∃ m, m < 8 * (s.last - k) + 1 ∧ DownloadPhase lib s m net' := by
  obtain ⟨token, dataLen, rfl⟩ := htraffic.clientReceives hstep
  by_cases hlt : k < s.last
  · obtain ⟨ctx', copies, acks, data, hreceive, hlen, hacks, hasking, hdata⟩ :=
      ask_receives hclient hlt ha token dataLen
    refine ⟨8 * (s.last - k) - 4 + 2 * acks.length + ([] : List WirePdu).length, ?_,
      .asking hlt ?_ ?_ ?_ (hserver hlt) hacks (by simp) hdata⟩
    · rw [length_nil]
      omega
    · simp only [Node.receive, hwire, DownloadSession.peers, hreceive, filterMap_append,
        sent_copies, sent_sends, nil_append]
      refine ⟨?_, htraffic.serverQueue, htraffic.toServer, rfl, htraffic.clientErrors,
        htraffic.serverErrors⟩
      show net.client.queue ++ (acks ++ [data]) = acks ++ [data]
      rw [htraffic.clientQueue, nil_append]
    · simp only [Node.receive, hwire, DownloadSession.peers, hreceive, filterMap_append,
        handed_copies, handed_sends, hup]
      rfl
    · simp only [Node.receive, hwire, DownloadSession.peers, hreceive]
      exact hasking
  have hlast : k = s.last := by omega
  subst hlast
  obtain ⟨ctx', copies, data, hreceive, hpay⟩ := ask_receives_last hclient ha token dataLen
  refine ⟨0, by omega, .done ?_ ?_⟩
  · simp only [Node.receive, hwire, DownloadSession.peers, hreceive, filterMap_append,
      sent_copies, nil_append]
    refine ⟨?_, htraffic.serverQueue, htraffic.toServer, rfl, htraffic.clientErrors,
      htraffic.serverErrors⟩
    show net.client.queue ++ [] = []
    rw [htraffic.clientQueue, nil_append]
  · simp only [Node.receive, hwire, DownloadSession.peers, hreceive, filterMap_append,
      handed_copies, hup]
    show [caGetPayloadInfo data] = [s.payload]
    rw [hpay]

variable {empties : List WirePdu}

lemma asking_step (hlib : lib.Lawful) {acks : List CAData} (hk : k < s.last)
    (htraffic : Traffic net (acks ++ [data]) [] empties []) (hup : net.client.up = [])
    (hclient : Asking s net.client.ctx (k + 1)) (hserver : Serves s net.server.ctx k true)
    (hacks : ∀ ack ∈ acks, ∃ id, ack = emptyAckData s.endpoint id)
    (hempties : ∀ wire ∈ empties, wire.code = caEmpty) (hdata : Asks s data)
    (hstep : Step lib s.peers net net') :
    ∃ m, m < 8 * (s.last - k) - 4 + 2 * acks.length + empties.length
      ∧ DownloadPhase lib s m net' := by
  cases hstep with
  | clientReceives _ _ hc => rw [htraffic.toClient] at hc; cases hc
  | serverSends _ hq => rw [htraffic.serverQueue] at hq; cases hq
  | @serverReceives wire rest token dataLen hc =>
    -- an empty ACK arrives
    rw [htraffic.toServer] at hc
    subst hc
    obtain ⟨hserver', hqueue, herrors⟩ := empty_step lib hserver
      (hempties wire mem_cons_self) token dataLen
    refine ⟨8 * (s.last - k) - 4 + 2 * acks.length + rest.length, ?_, .asking hk ?_ hup
      hclient hserver' hacks (fun w hw => hempties w (mem_cons_of_mem _ hw)) hdata⟩
    · rw [length_cons]
      omega
    · exact ⟨htraffic.clientQueue, hqueue.trans htraffic.serverQueue, rfl,
        htraffic.toClient, htraffic.clientErrors, herrors.trans htraffic.serverErrors⟩
  | @clientSends next queue freshId hq =>
    rw [htraffic.clientQueue] at hq
    cases acks with
    | nil =>
      -- the request goes out
      cases hq
      obtain ⟨wire, ctx', type, id, hsend, hwire, hclient'⟩ :=
        ask_sends hlib hk hclient hdata freshId
      refine ⟨8 * (s.last - k) - 5 + empties.length, ?_,
        @DownloadPhase.requesting lib s _ k empties wire type id hk ?_ ?_ ?_ hserver hempties hwire⟩
      · rw [length_nil]
        omega
      · simp only [Node.sendNext, hsend, htraffic.toServer]
        exact ⟨rfl, htraffic.serverQueue, rfl, htraffic.toClient, htraffic.clientErrors,
          htraffic.serverErrors⟩
      · simp only [Node.sendNext, hsend]
        exact hup
      · simp only [Node.sendNext, hsend]
        exact hclient'
    | cons ack acks =>
      -- an empty ACK goes out
      cases hq
      obtain ⟨id, rfl⟩ := hacks next mem_cons_self
      obtain ⟨wire, hsend, hcode⟩ := ack_sends hlib hclient.noAck id freshId
      refine ⟨8 * (s.last - k) - 4 + 2 * acks.length + (empties ++ [wire]).length, ?_,
        @DownloadPhase.asking lib s _ k acks data (empties ++ [wire]) hk ?_ ?_ ?_ hserver
          (fun a ha => hacks a (mem_cons_of_mem _ ha)) ?_ hdata⟩
      · rw [length_append, length_cons, length_cons, length_nil]
        omega
      · simp only [Node.sendNext, hsend, htraffic.toServer]
        exact ⟨rfl, htraffic.serverQueue, rfl, htraffic.toClient, htraffic.clientErrors,
          htraffic.serverErrors⟩
      · simp only [Node.sendNext, hsend]
        exact hup
      · simp only [Node.sendNext, hsend]
        exact hclient
      · intro w hw
        rcases mem_append.mp hw with hw | hw
        · exact hempties w hw
        rw [mem_singleton.mp hw]
        exact hcode

lemma requesting_step {type : CAMessageType} {id : Nat} (hk : k < s.last)
    (htraffic : Traffic net [] [] (empties ++ [wire]) []) (hup : net.client.up = [])
    (hclient : Awaits s net.client.ctx (k + 1)) (hserver : Serves s net.server.ctx k true)
    (hempties : ∀ wire ∈ empties, wire.code = caEmpty)
    (hwire : caParsePDU lib wire = nextPdu s (k + 1) type id) (hstep : Step lib s.peers net net') :
    ∃ m, m < 8 * (s.last - k) - 5 + empties.length ∧ DownloadPhase lib s m net' := by
  cases hstep with
  | clientReceives _ _ hc => rw [htraffic.toClient] at hc; cases hc
  | serverSends _ hq => rw [htraffic.serverQueue] at hq; cases hq
  | clientSends _ hq => rw [htraffic.clientQueue] at hq; cases hq
  | @serverReceives first rest token dataLen hc =>
    rw [htraffic.toServer] at hc
    cases empties with
    | nil =>
      -- the request arrives
      cases hc
      obtain ⟨ctx', data, hreceive, hserver', hdata⟩ :=
        serve_receives hserver type id token dataLen
      refine ⟨8 * (s.last - (k + 1)) + 2, ?_, @DownloadPhase.serving lib s _ (k + 1) false data
        hk ?_ hup hclient ?_ hdata⟩
      · rw [length_nil]
        omega
      · simp only [Node.receive, hwire, DownloadSession.peers, hreceive]
        refine ⟨htraffic.clientQueue, ?_, rfl, htraffic.toClient, htraffic.clientErrors,
          htraffic.serverErrors⟩
        show net.server.queue ++ [data] = [data]
        rw [htraffic.serverQueue, nil_append]
      · simp only [Node.receive, hwire, DownloadSession.peers, hreceive]
        exact hserver'
    | cons e empties =>
      cases hc
      obtain ⟨hserver', hqueue, herrors⟩ := empty_step lib hserver
        (hempties first mem_cons_self) token dataLen
      refine ⟨8 * (s.last - k) - 5 + empties.length, ?_, .requesting hk ?_ hup hclient
        hserver' (fun w hw => hempties w (mem_cons_of_mem _ hw)) hwire⟩
      · rw [length_cons]
        omega
      · exact ⟨htraffic.clientQueue, hqueue.trans htraffic.serverQueue, rfl,
          htraffic.toClient, htraffic.clientErrors, herrors.trans htraffic.serverErrors⟩

lemma download_step (hlib : lib.Lawful) (hphase : DownloadPhase lib s n net)
    (hstep : Step lib s.peers net net') : ∃ m, m < n ∧ DownloadPhase lib s m net' := by
  cases hphase with
  | serving hk htraffic hup hclient hserver hdata =>
    exact serving_step hlib hk htraffic hup hclient hserver hdata hstep
  | arriving hk htraffic hup hclient hserver hwire ha =>
    exact arriving_step hk htraffic hup hclient hserver hwire ha hstep
  | asking hk htraffic hup hclient hserver hacks hempties hdata =>
    exact asking_step hlib hk htraffic hup hclient hserver hacks hempties hdata hstep
  | requesting hk htraffic hup hclient hserver hempties hwire =>
    exact requesting_step hk htraffic hup hclient hserver hempties hwire hstep
  | done htraffic hup => exact absurd hstep htraffic.stuck

lemma isBlockErrorCode_empty {code : Nat} (h : code = caEmpty) :
    isBlockErrorCode code = false := by
  rw [h]
  decide

lemma download_noErrors (hphase : DownloadPhase lib s n net) : net.NoErrors := by
  cases hphase with
  | serving _ htraffic => exact htraffic.noErrors (by simp)
  | @arriving _ k wire a _ htraffic _ _ _ hwire =>
    refine htraffic.noErrors ?_
    intro w hw
    rw [nil_append, mem_singleton] at hw
    subst hw
    have hcode : w.code = s.code := congrArg CoapPdu.code hwire
    rw [hcode]
    exact s.noError
  | asking _ htraffic _ _ _ _ hempties =>
    refine htraffic.noErrors ?_
    intro w hw
    rw [append_nil] at hw
    exact isBlockErrorCode_empty (hempties w hw)
  | @requesting _ k empties wire type id _ htraffic _ _ _ hempties hwire =>
    refine htraffic.noErrors ?_
    intro w hw
    rw [append_nil] at hw
    rcases mem_append.mp hw with hw | hw
    · exact isBlockErrorCode_empty (hempties w hw)
    rw [mem_singleton] at hw
    subst hw
    have hcode : w.code = s.method := congrArg CoapPdu.code hwire
    rw [hcode]
    exact isBlockErrorCode_of_request s.isRequest
  | done htraffic => exact htraffic.noErrors (by simp)

lemma download_up (hphase : DownloadPhase lib s n net) :
    net.client.up.map caGetPayloadInfo = [] ∨ net.client.up.map caGetPayloadInfo = [s.payload] := by
  cases hphase with
  | serving _ _ hup => exact .inl (by rw [hup]; rfl)
  | arriving _ _ hup => exact .inl (by rw [hup]; rfl)
  | asking _ _ hup => exact .inl (by rw [hup]; rfl)
  | requesting _ _ hup => exact .inl (by rw [hup]; rfl)
  | done _ hup => exact .inr hup

lemma download_done (hphase : DownloadPhase lib s n net)
    (hstuck : ∀ net', ¬ Step lib s.peers net net') :
    net.client.up.map caGetPayloadInfo = [s.payload] := by
  cases hphase with
  | serving _ htraffic => exact absurd (.serverSends 0 htraffic.serverQueue) (hstuck _)
  | arriving _ htraffic =>
    exact absurd (.clientReceives CAToken.null 0 htraffic.toClient) (hstuck _)
  | @asking _ k acks data empties _ htraffic =>
    have hqueue := htraffic.clientQueue
    cases acks with
    | nil | cons => exact absurd (.clientSends 0 hqueue) (hstuck _)
  | @requesting _ k empties wire type id _ htraffic =>
    have hchannel := htraffic.toServer
    cases empties with
    | nil | cons => exact absurd (.serverReceives CAToken.null 0 hchannel) (hstuck _)
  | done _ hup => exact hup

variable {clientCtx : CABlockWiseContext} {bytes : List UInt8}

lemma request_filed (hclient : slotOf clientCtx s.id = [])
    (hack : slotOf clientCtx (emptyAckId s.endpoint) = [])
    (hadd : lib.addData s.requestPayload = some bytes) (freshId : Nat) :
    ∃ ctx, (((Node.idle clientCtx).sendData s.request).sendNext lib s.request [] freshId).1
        = Node.idle ctx ∧ Awaits s ctx 0 := by
  have hsmall : caCheckPayloadLength s.request = false :=
    decide_eq_false (Nat.not_lt.mpr s.small)
  have hreset : s.requestType ≠ .reset := by
    rcases s.requestType_eq with h | h
    · rw [h]
      simp
    rw [h]
    simp
  have hsend : caSendBlockWiseData clientCtx s.request
      = ⟨.notSupported, caCreateNewBlockData clientCtx s.request, []⟩ := by
    have hunicast : caSendBlockWiseData clientCtx s.request
        = caSendUnicastBlockWiseData clientCtx s.request := by
      simp [caSendBlockWiseData, DownloadSession.request, if_neg hreset]
    have htype : caCheckBlockOptionType s.request = none := by
      rw [caCheckBlockOptionType, if_neg (by rw [hsmall]; exact Bool.noConfusion)]
    have hval : caCheckBlockDataValidation clientCtx s.request = none := rfl
    rw [hunicast]
    simp only [caSendUnicastBlockWiseData, hval, htype]
    rfl
  have hslot : slotOf (caCreateNewBlockData clientCtx s.request) s.id
      = [newBlockData s.request] := by
    refine (slotOf_append_self (newBlockData s.request)).trans ?_
    rw [show (newBlockData s.request).blockDataId = s.id from rfl, hclient]
    rfl
  have hack' : slotOf (caCreateNewBlockData clientCtx s.request) (emptyAckId s.endpoint) = [] := by
    refine (slotOf_append_ne ?_).trans hack
    exact (emptyAckId_ne s).symm
  -- the send thread
  have hcode : s.method ≠ caEmpty := by
    have h := isRequestCode_iff.mp s.isRequest
    rw [caEmpty]
    omega
  have hlen : s.requestPayload.length ≤ uintMax := by
    have h := s.small
    rw [uintMax]
    omega
  have hpdu := caGeneratePDU_eq
    ⟨s.requestType, s.requestId, s.token, s.requestPayload, s.requestUri⟩ freshId hcode hreset
    s.requestUri_le
  rw [coapResponseCode_request s.isRequest] at hpdu
  generalize (if s.requestId = 0 then freshId else s.requestId) = mid at hpdu
  have hnone : (caGetBlockDataFromBlockDataList (caCreateNewBlockData clientCtx s.request)
      s.id).bind CABlockData.type = none := by
    rw [get_of_slotOf hslot]
    rfl
  have hopt := caAddBlockOption_whole lib
    ⟨s.requestType, s.method, mid, s.token, none, none, none, none, s.requestUri, []⟩
    ⟨s.requestType, s.requestId, s.token, s.requestPayload, s.requestUri⟩ rfl hnone hlen
    (caResponseCode_request s.isRequest)
  rw [hadd, Option.map_some] at hopt
  simp only [noteMessageId, s.isRequest, if_true] at hopt
  have hthread : caProcessSendData lib (caCreateNewBlockData clientCtx s.request) s.request freshId
      = (some ⟨s.requestType, s.method, mid, s.token, none, none, none, none, s.requestUri, bytes⟩,
          caUpdateMessageId (caCreateNewBlockData clientCtx s.request) s.id mid) := by
    rw [caProcessSendData]
    simp only [DownloadSession.request, hpdu]
    exact hopt
  refine ⟨caUpdateMessageId (caCreateNewBlockData clientCtx s.request) s.id mid, ?_, ?_⟩
  · simp [Node.sendData, Node.idle, hsend, Node.sendNext, hthread]
  · refine ⟨_, slotOf_caUpdateMessageId hslot mid, awaitsBlock_zero rfl rfl rfl ⟨rfl, rfl⟩, ?_,
      emptyAck_modify (fun _ h => h) hack'⟩
    exact ⟨rfl, s.requestType, mid, hreset, rfl⟩

variable {serverCtx : CABlockWiseContext}

lemma response_filed (hserver : slotOf serverCtx s.serverId = []) :
    ∃ ctx, (Node.idle serverCtx).sendData s.response = ⟨ctx, [s.response], [], 0⟩
      ∧ Serves s ctx 0 false := by
  have hlarge : caCheckPayloadLength s.response = true := decide_eq_true s.large
  have hget : caGetBlockDataFromBlockDataList serverCtx s.serverId = none := by
    rw [caGetBlockData_eq_head?, hserver]
    rfl
  have hsend : caSendBlockWiseData serverCtx s.response
      = ⟨.ok, { serverCtx with dataList := serverCtx.dataList
          ++ [{ newBlockData s.response with type := some .block2 }] }, [.send s.response]⟩ := by
    have hunicast : caSendBlockWiseData serverCtx s.response
        = caSendUnicastBlockWiseData serverCtx s.response := by
      simp [caSendBlockWiseData, DownloadSession.response, s.responseType_ne]
    have htype : caCheckBlockOptionType s.response = some .block2 := by
      rw [caCheckBlockOptionType, if_pos hlarge]
      rfl
    have hval : caCheckBlockDataValidation serverCtx s.response = none := by
      simp only [caCheckBlockDataValidation, DownloadSession.response]
      rw [show caCreateBlockDatablockId s.token s.client.addr s.client.port = s.serverId from rfl,
        hget]
    rw [hunicast]
    simp [caSendUnicastBlockWiseData, hval, htype]
  have hslot : slotOf { serverCtx with dataList := serverCtx.dataList
      ++ [{ newBlockData s.response with type := some .block2 }] } s.serverId
      = [{ newBlockData s.response with type := some .block2 }] := by
    refine (slotOf_append_self { newBlockData s.response with type := some .block2 }).trans ?_
    rw [show ({ newBlockData s.response with type := some .block2 } : CABlockData).blockDataId
      = s.serverId from rfl, hserver]
    rfl
  refine ⟨{ serverCtx with dataList := serverCtx.dataList
      ++ [{ newBlockData s.response with type := some .block2 }] }, ?_, _, hslot, rfl, rfl, rfl,
    rfl, rfl, s.responseType, s.responseId, s.responseType_ne, rfl⟩
  simp only [Node.sendData, Node.idle, hsend]
  rfl

/-- **A response body arrives.** From the server's call of `CASendBlockWiseData` on, with every PDU
delivered once and in order, no 4.08 or 4.13 is ever produced, and every run ends, with the body
handed up exactly once. -/
lemma download_completes (hlib : lib.Lawful) (hclient : slotOf clientCtx s.id = [])
    (hack : slotOf clientCtx (emptyAckId s.endpoint) = [])
    (hserver : slotOf serverCtx s.serverId = []) (hadd : lib.addData s.requestPayload = some bytes)
    (freshId : Nat) :
    Completion.Completes (Step lib s.peers)
      (fun net => net.NoErrors ∧ (net.client.up.map caGetPayloadInfo = []
        ∨ net.client.up.map caGetPayloadInfo = [s.payload]))
      (fun net => net.client.up.map caGetPayloadInfo = [s.payload])
      ⟨(((Node.idle clientCtx).sendData s.request).sendNext lib s.request [] freshId).1,
        (Node.idle serverCtx).sendData s.response, [], []⟩ := by
  obtain ⟨cctx, hc, hawaits⟩ := request_filed hclient hack hadd freshId
  obtain ⟨sctx, hs, hserves⟩ := response_filed hserver
  have hresponds : Responds s s.response :=
    ⟨rfl, rfl, s.responseType, s.responseId, s.responseType_ne, rfl⟩
  rw [hc, hs]
  have hstart : DownloadPhase lib s (8 * (s.last - 0) + 2)
      ⟨Node.idle cctx, ⟨sctx, [s.response], [], 0⟩, [], []⟩ :=
    .serving (Nat.zero_le _) ⟨rfl, rfl, rfl, rfl, rfl, rfl⟩ rfl hawaits hserves hresponds
  refine Completion.completes_of_ranked (DownloadPhase lib s) ?_ ?_ ?_ hstart
  · intro n net net' hphase hstep
    exact download_step hlib hphase hstep
  · intro n net hphase
    exact ⟨download_noErrors hphase, download_up hphase⟩
  · intro n net hphase hstuck
    exact download_done hphase hstuck

end Run

end Iochibity.Coap
