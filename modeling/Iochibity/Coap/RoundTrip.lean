/-
A request body on its way from the client to the server, message by message.
-/
import Iochibity.Coap.Block1Reassembly
import Iochibity.Coap.DownloadRun
import Mathlib.Data.Nat.Digits.Lemmas

namespace Iochibity.Coap

open Blocks
open List

/-- A request body that the client sends to `server`: a request has a token, is
confirmable or not, and its URI fits. -/
structure UploadSession extends UploadTransfer where
  server : CAEndpoint
  type : CAMessageType
  messageId : Nat
  server_lt : server.addr.bytes.length < 66
  token_ne : token.bytes ≠ []
  type_eq : type = .confirm ∨ type = .nonconfirm
  uri_le : (uri.getD "").utf8ByteSize ≤ caMaxUriLength
  size_le : payload.length ≤ maxBodyLen

namespace UploadSession

variable (s : UploadSession)

def peers : Peers := ⟨s.endpoint, s.server, s.addr_lt, s.server_lt⟩

def clientId : CABlockDataID :=
  caCreateBlockDatablockId s.token s.server.addr s.server.port

def request : CAData :=
  { remoteEndpoint := s.server
    requestInfo := some ⟨s.code, ⟨s.type, s.messageId, s.token, s.payload, s.uri⟩, false⟩
    responseInfo := none
    dataType := some .requestData }

end UploadSession

/-! ## The client -/

def Carries (s : UploadSession) (data : CAData) : Prop :=
  data.remoteEndpoint = s.server ∧ data.responseInfo = none
    ∧ ∃ type id, (type = .confirm ∨ type = .nonconfirm)
      ∧ data.requestInfo = some ⟨s.code, ⟨type, id, s.token, s.payload, s.uri⟩, false⟩

structure ClientEntry (s : UploadSession) (k : Nat) (e : CABlockData) : Prop where
  type : e.type = some .block1
  num : e.block1.num = k
  szx : e.block1.szx = 6
  carries : Carries s e.sentData

def ClientAt (s : UploadSession) (k : Nat) (ctx : CABlockWiseContext) : Prop :=
  ∃ e, slotOf ctx s.clientId = [e] ∧ ClientEntry s k e

def continuePdu (s : UploadSession) (k : Nat) (type : CAMessageType) (id : Nat) : CoapPdu :=
  { type := type, code := coapResponseCode caContinue, id := id, token := s.token
    block1 := some (s.option k), block2 := none, size1 := none, size2 := none
    uri := none, payload := [] }

section Client

variable {s : UploadSession} {k : Nat} {ctx : CABlockWiseContext} {lib : LibCoap}

lemma client_sends (hlib : lib.Lawful) (hk : k ≤ s.last) (hctx : ClientAt s k ctx)
    {data : CAData} (hdata : Carries s data) (freshId : Nat) :
    ∃ wire ctx' a, caProcessSendData lib ctx data freshId = (some wire, ctx')
      ∧ caParsePDU lib wire = s.pdu a ∧ a.num = k ∧ (a.type = .confirm ∨ a.type = .nonconfirm)
      ∧ ClientAt s k ctx' := by
  obtain ⟨e, hslot, he⟩ := hctx
  obtain ⟨hep, -, type, id, htype, hreq⟩ := hdata
  have hcode : s.code ≠ caEmpty := by
    have h := isRequestCode_iff.mp s.isRequest
    rw [caEmpty]
    omega
  have hreset : type ≠ .reset := by
    rcases htype with rfl | rfl
    · simp
    · simp
  have hlen : s.payload.length ≤ uintMax := by
    have h := s.size_le
    rw [maxBodyLen] at h
    rw [uintMax]
    omega
  -- the header
  have hpdu := caGeneratePDU_eq ⟨type, id, s.token, s.payload, s.uri⟩ freshId hcode hreset s.uri_le
  rw [coapResponseCode_request s.isRequest] at hpdu
  generalize hmid : (if id = 0 then freshId else id) = mid at hpdu
  -- the options
  have hmore := caSetMoreBit_option s.payload_pos s.size_le hk he.num he.szx
  have hadd := addBlock_block s.payload_pos hk hlib
  have hopt := caAddBlockOption1_request
    ⟨type, s.code, mid, s.token, none, none, none, none, s.uri, []⟩
    hslot s.isRequest hmore hadd
  have hstore : slotOf (modifyBlockData ctx s.clientId ({ · with block1 := s.option k })) s.clientId
      = [{ e with block1 := s.option k }] := slotOf_modify (fun _ he => he) hslot
  have hsend : caProcessSendData lib ctx data freshId
      = noteMessageId s.clientId (caAddBlockOption1 lib ctx
          ⟨type, s.code, mid, s.token, none, none, none, none, s.uri, []⟩ s.payload
          s.clientId) := by
    rw [caProcessSendData, hreq]
    simp only [hpdu, hep]
    exact caAddBlockOption_eq _ _ rfl hslot hlen (caResponseCode_request s.isRequest) he.type
  rw [hopt] at hsend
  simp only [noteMessageId, s.isRequest, if_true] at hsend
  refine ⟨_, _, ⟨k, type, mid, 0⟩, hsend, ?_, rfl, htype, ?_⟩
  · have hsize := decode_size hlib s.size_le k
    have hblock := getBlock_option s.payload_pos s.size_le hk hlib
    have hnum : (s.option k).num = k := rfl
    simp [caParsePDU, UploadTransfer.pdu, hnum, hsize, hblock]
  · refine ⟨_, slotOf_caUpdateMessageId hstore mid, ⟨he.type, rfl, rfl, ?_⟩⟩
    obtain ⟨hep', hres', type', id', htype', hreq'⟩ := he.carries
    refine ⟨hep', hres', type', mid, htype', ?_⟩
    show e.sentData.requestInfo.map _ = _
    rw [hreq']
    rfl

lemma client_receives (hk : k < s.last) (hctx : ClientAt s k ctx) {type : CAMessageType}
    (htype : type = .acknowledge ∨ type = .nonconfirm) (id : Nat) (token : CAToken)
    (dataLen : Nat) :
    ∃ ctx' data, caReceiveBlockWiseData ctx (continuePdu s k type id) s.server
        (receivedData s.server (continuePdu s k type id) token) dataLen
        = ⟨.ok, ctx', [.send data]⟩
      ∧ ClientAt s (k + 1) ctx' ∧ Carries s data := by
  obtain ⟨e, hslot, he⟩ := hctx
  have hcode : (continuePdu s k type id).code = 95 := rfl
  have hreq : isRequestCode (continuePdu s k type id).code = false := rfl
  have herr : isBlockErrorCode (continuePdu s k type id).code = false := by
    rw [hcode]
    decide
  have hcon : (continuePdu s k type id).type ≠ .confirm := by
    rcases htype with rfl | rfl
    · exact CAMessageType.noConfusion
    · exact CAMessageType.noConfusion
  have hm : (s.option k).m = true := by
    rw [s.option_m]
    exact decide_eq_true hk
  have hid : ¬ (s.clientId.length < 1 ∨ 255 < s.clientId.length) := by
    have htok : s.token.bytes.length ≤ 8 := s.token.length_le
    have haddr := s.server_lt
    simp only [UploadSession.clientId, caCreateBlockDatablockId, portBytes, length_append,
      length_cons, length_nil]
    omega
  -- the entry is found, and its number moves on
  obtain ⟨ctx₁, hexist, hslot₁, -⟩ :=
    caCheckTheExist_found (continuePdu s k type id) hslot s.server .block1
  have hnum : ¬ e.block1.num > (s.option k).num := by
    rw [he.num]
    exact Nat.lt_irrefl k
  have hszx : ¬ (s.option k).szx < e.block1.szx := by
    rw [he.szx]
    exact Nat.lt_irrefl 6
  have hitems : caUpdateBlockOptionItems { e with type := some .block1 } (continuePdu s k type id)
      (s.option k) .block1 .option1Response = some ⟨k + 1, true, 6⟩ := by
    simp only [caUpdateBlockOptionItems, herr, Bool.false_eq_true, if_false, if_neg hnum,
      caNegotiateBlockSize, hreq, if_neg hszx]
    rw [hm]
    rfl
  have hupd : caUpdateBlockData { e with type := some .block1 } ⟨k + 1, true, 6⟩ .block1
      = some { e with type := some .block1, block1 := ⟨k + 1, true, 6⟩ } :=
    caUpdateBlockData_block1 _ (Nat.le_refl 6)
  -- the request goes out again, with a new message id
  have heid : e.blockDataId = s.clientId := blockDataId_of_get (get_of_slotOf hslot)
  have hstore : slotOf (modifyBlockData ctx₁ s.clientId (fun _ =>
      { e with type := some .block1, block1 := ⟨k + 1, true, 6⟩ })) s.clientId
      = [{ e with type := some .block1, block1 := ⟨k + 1, true, 6⟩ }] :=
    slotOf_store hslot₁ heid
  obtain ⟨hep, hres, rtype, rid, -, hinfo⟩ := he.carries
  have hsend := caSendBlockMessage_response (continuePdu s k type id) hstore hreq hcon hinfo
  have hset : caSetNextBlockOption1 ctx (continuePdu s k type id) s.server
      (receivedData s.server (continuePdu s k type id) token) (s.option k) dataLen
      = caSendBlockMessage (modifyBlockData ctx₁ s.clientId (fun _ =>
          { e with type := some .block1, block1 := ⟨k + 1, true, 6⟩ })) (continuePdu s k type id)
          s.clientId := by
    simp only [caSetNextBlockOption1]
    rw [show pduBlockId (continuePdu s k type id) s.server = s.clientId from rfl, if_neg hid,
      hexist]
    simp [get_of_slotOf hslot₁, hreq, setNextFromResponse1, hm, hitems, hupd, finishNextStep,
      caProcessNextStep, hsend]
  have hok : (caSetNextBlockOption1 ctx (continuePdu s k type id) s.server
      (receivedData s.server (continuePdu s k type id) token) (s.option k) dataLen).res = .ok := by
    rw [hset, hsend]
  have hreceive := caReceiveBlockWiseData_block1 (by rw [hcode]; decide) rfl rfl hok
  rw [hset, hsend] at hreceive
  have hnext : Carries s { e.sentData with requestInfo := some ⟨s.code,
      (⟨rtype, rid, s.token, s.payload, s.uri⟩ : CAInfo).stamp 0 (sentMsgType type), false⟩ } := by
    refine ⟨hep, hres, sentMsgType type, 0, ?_, rfl⟩
    rcases htype with rfl | rfl
    · exact .inl rfl
    · exact .inr rfl
  exact ⟨_, _, hreceive, ⟨_, slotOf_setSentData hstore _, ⟨rfl, rfl, rfl, hnext⟩⟩, hnext⟩

end Client

/-! ## The server -/

def Answers (s : UploadSession) (data : CAData) : Prop :=
  data.remoteEndpoint = s.endpoint ∧ data.requestInfo = none ∧ ∃ result type id, data.responseInfo
      = some ⟨result, ⟨type, id, s.token, [], none⟩, false⟩

def Continues (s : UploadSession) (data : CAData) : Prop :=
  data.remoteEndpoint = s.endpoint ∧ data.requestInfo = none
    ∧ ∃ type id, (type = .acknowledge ∨ type = .nonconfirm)
      ∧ data.responseInfo = some ⟨caContinue, ⟨type, id, s.token, [], none⟩, false⟩

def ServerAt (s : UploadSession) (ctx : CABlockWiseContext) : Nat → Prop
  | 0 => slotOf ctx s.id = []
  | k + 1 => ∃ e, slotOf ctx s.id = [e] ∧ AtCount s.toUploadTransfer (k + 1) e
      ∧ e.block1 = s.option k ∧ e.type = some .block1 ∧ Answers s e.sentData

section Server

variable {s : UploadSession} {k : Nat} {ctx : CABlockWiseContext} {lib : LibCoap} {a : Arrival}

lemma server_entry (hctx : ServerAt s ctx k) :
    ∃ ctx' e, caCheckTheExistOfBlockData ctx s.id (s.pdu a) s.endpoint .block1 = some ctx'
      ∧ slotOf ctx' s.id = [e] ∧ AtCount s.toUploadTransfer k e ∧ e.type = some .block1
      ∧ Answers s e.sentData := by
  cases k with
  | zero =>
    have hslot : slotOf ctx (pduBlockId (s.pdu a) s.endpoint) = [] := hctx
    have htoken : (s.pdu a).token.bytes ≠ [] := s.token_ne
    have hreq : isRequestCode (s.pdu a).code = true := s.isRequest
    have hnew : (caCreateNewDataSet (s.pdu a) s.endpoint).bind
        (fillResourceUri ctx (pduBlockId (s.pdu a) s.endpoint))
        = some ⟨s.endpoint, none, some ⟨0, { CAInfo.zero with token := s.token }, false⟩,
            none⟩ := by
      rw [caCreateNewDataSet, if_neg htoken, if_pos hreq]
      rfl
    obtain ⟨ctx', hctx', hslot'⟩ := caCheckTheExist_made hslot hnew .block1
    refine ⟨ctx', _, hctx', hslot', ?_, rfl, rfl, rfl, 0, .confirm, 0, rfl⟩
    exact ⟨Nat.zero_le _, rfl, rfl, by simp [newBlockData], fun _ => ⟨rfl, rfl⟩, by simp⟩
  | succ k =>
    obtain ⟨e, hslot, he, -, -, hans⟩ := hctx
    obtain ⟨ctx', hctx', hslot', -⟩ := caCheckTheExist_found (s.pdu a) hslot s.endpoint .block1
    exact ⟨ctx', _, hctx', hslot', he.sentData _ _, rfl, hans⟩

lemma server_stores (hctx : ServerAt s ctx k) (hk : k ≤ s.last) (ha : a.num = k) (dataLen : Nat) :
    ∃ ctx' e copies, caSetNextBlockOption1 ctx (s.pdu a) s.endpoint
          (caGenerateHandlerData s.endpoint (s.pdu a)) (s.option k) dataLen
        = finishNextStep ctx' (s.pdu a) (caGenerateHandlerData s.endpoint (s.pdu a)) s.id
            (some (e, nextStatus s.toUploadTransfer a), List.map Event.copy copies)
      ∧ (∃ e₀, slotOf ctx' s.id = [e₀]) ∧ e.blockDataId = s.id
      ∧ AtCount s.toUploadTransfer (k + 1) e ∧ e.block1 = s.option k ∧ e.type = some .block1
      ∧ Answers s e.sentData := by
  obtain ⟨ctx', e, hexist, hslot, he, htype, hans⟩ := server_entry (a := a) hctx
  obtain ⟨e', copies, hupd, he', hid', hblock1, htype', hsent⟩ :=
    update_next (a := { a with dataLen := dataLen }) he hk ha
  have heid : e.blockDataId = s.id := blockDataId_of_get (get_of_slotOf hslot)
  have hreq : isRequestCode (s.pdu a).code = true := s.isRequest
  refine ⟨ctx', e', copies, ?_, ⟨e, hslot⟩, hid'.trans heid, he', ?_, htype'.trans htype,
    hsent ▸ hans⟩
  · subst ha
    simp only [caSetNextBlockOption1]
    rw [show pduBlockId (s.pdu a) s.endpoint = s.id from rfl, if_neg s.id_length, hexist]
    simp only [get_of_slotOf hslot, hreq, if_true]
    exact congrArg _ hupd
  · rw [hblock1]
    simp [ha]

lemma server_hears (ha : a.num = k) (token : CAToken) {dataLen : Nat} {out : Outcome}
    (hset : caSetNextBlockOption1 ctx (s.pdu a) s.endpoint
      (caGenerateHandlerData s.endpoint (s.pdu a)) (s.option k) dataLen = out)
    (hok : out.res = .ok) :
    caReceiveBlockWiseData ctx (s.pdu a) s.endpoint (receivedData s.endpoint (s.pdu a) token)
      dataLen = out := by
  have hcode : (s.pdu a).code ≠ caEmpty := by
    intro h
    have hreq : isRequestCode (s.pdu a).code = true := s.isRequest
    rw [h] at hreq
    cases hreq
  have hblock : (s.pdu a).block1 = some (s.option k) := by
    rw [UploadTransfer.pdu, ha]
  rw [receivedData, if_neg hcode]
  rw [← hset] at hok ⊢
  exact caReceiveBlockWiseData_block1 hcode hblock rfl hok

lemma server_receives (hctx : ServerAt s ctx k) (hk : k < s.last) (ha : a.num = k)
    (htype : a.type = .confirm ∨ a.type = .nonconfirm) (token : CAToken) (dataLen : Nat) :
    ∃ ctx' copies data, caReceiveBlockWiseData ctx (s.pdu a) s.endpoint
        (receivedData s.endpoint (s.pdu a) token) dataLen
        = ⟨.ok, ctx', List.map Event.copy copies ++ [.send data]⟩
      ∧ ServerAt s ctx' (k + 1) ∧ Continues s data := by
  obtain ⟨ctx', e, copies, hset, ⟨e₀, hslot⟩, heid, he, hblock1, htype', hep, hnone, result, rtype,
    rid, hres⟩ := server_stores (a := a) hctx (Nat.le_of_lt hk) ha dataLen
  have hreq : isRequestCode (s.pdu a).code = true := s.isRequest
  have hstore := slotOf_store hslot heid
  have hsend := caSendBlockMessage_request (s.pdu a) hstore hreq hres
  have hlt : a.num < s.last := by omega
  rw [nextStatus, if_pos hlt] at hset
  simp only [finishNextStep, caProcessNextStep, hsend, if_true] at hset
  have hreceive := server_hears ha token hset rfl
  refine ⟨_, copies, _, hreceive, ⟨_, slotOf_setSentData hstore _, he.sentData _ _, hblock1, htype',
    ?_⟩, ?_⟩
  · exact ⟨hep, hnone, caContinue, _, _, rfl⟩
  · refine ⟨hep, hnone, sentMsgType a.type, a.id, ?_, rfl⟩
    rcases htype with h | h
    · rw [h]
      exact .inl rfl
    rw [h]
    exact .inr rfl

lemma server_receives_last (hctx : ServerAt s ctx s.last) (ha : a.num = s.last) (token : CAToken)
    (dataLen : Nat) :
    ∃ ctx' data copies, caReceiveBlockWiseData ctx (s.pdu a) s.endpoint
        (receivedData s.endpoint (s.pdu a) token) dataLen
        = ⟨.ok, ctx', List.map Event.copy copies ++ [.receive data]⟩
      ∧ caGetPayloadInfo data = s.payload := by
  obtain ⟨ctx', e, copies, hset, ⟨e₀, hslot⟩, heid, he, -⟩ :=
    server_stores (a := a) hctx (Nat.le_refl _) ha dataLen
  have hget := get_of_slotOf (slotOf_store hslot heid)
  have hholds : HoldsPrefix s.payload s.payload.length e := by
    have h := he.holds (Nat.succ_pos _)
    obtain ⟨-, hhi⟩ := lastBlock_bounds (b := 1024) (by omega) s.payload_pos
    have hmin : min (1024 * (s.last + 1)) s.payload.length = s.payload.length :=
      Nat.min_eq_right hhi
    rw [hmin] at h
    exact h
  obtain ⟨data, hlast, hpay⟩ :=
    receiveLast_data (s.pdu a) s.endpoint s.payload_pos hget hholds
  have hge : ¬ a.num < s.last := by omega
  rw [nextStatus, if_neg hge] at hset
  simp only [finishNextStep, caProcessNextStep, hlast, if_true] at hset
  have hreceive := server_hears ha token hset rfl
  exact ⟨_, data, copies, hreceive, hpay⟩

lemma server_sends (hlib : lib.Lawful) (hk : k < s.last) (hctx : ServerAt s ctx (k + 1))
    {data : CAData} (hdata : Continues s data) (freshId : Nat) :
    ∃ wire type id, caProcessSendData lib ctx data freshId = (some wire, ctx)
      ∧ caParsePDU lib wire = continuePdu s k type id
      ∧ (type = .acknowledge ∨ type = .nonconfirm) := by
  obtain ⟨e, hslot, -, hblock1, htype', -⟩ := hctx
  obtain ⟨hep, hnone, type, id, htype, hres⟩ := hdata
  have hreset : type ≠ .reset := by
    rcases htype with rfl | rfl
    · simp
    · simp
  have hcode : caContinue ≠ caEmpty := by decide
  have hcode' : caResponseCode (coapResponseCode caContinue) ≠ caRequestEntityIncomplete := by
    decide
  have hpdu := caGeneratePDU_eq ⟨type, id, s.token, [], none⟩ freshId hcode hreset
    (Nat.zero_le caMaxUriLength)
  generalize hmid : (if id = 0 then freshId else id) = mid at hpdu
  have hm : e.block1.m = true := by
    rw [hblock1, s.option_m]
    exact decide_eq_true hk
  have hopt := caAddBlockOption1_response
    ⟨type, coapResponseCode caContinue, mid, s.token, none, none, none, none, none, []⟩ hslot rfl hm
    hlib.addData_nil
  have hsend : caProcessSendData lib ctx data freshId
      = noteMessageId s.id (caAddBlockOption1 lib ctx
          ⟨type, coapResponseCode caContinue, mid, s.token, none, none, none, none, none, []⟩ []
          s.id) := by
    rw [caProcessSendData, hnone, hres]
    simp only [hpdu, hep]
    exact caAddBlockOption_eq _ _ rfl hslot (Nat.zero_le _) hcode' htype'
  rw [hopt] at hsend
  have hblock := getBlock_option s.payload_pos s.size_le (Nat.le_of_lt hk) hlib
  refine ⟨_, type, mid, hsend, ?_, htype⟩
  simp [caParsePDU, continuePdu, hblock1, hblock]

end Server

/-! ## The run -/

inductive UploadPhase (lib : LibCoap) (s : UploadSession) : Nat → Net → Prop
  /-- block `k` is in the client's queue -/
  | sending {net : Net} {k : Nat} {data : CAData} (hk : k ≤ s.last)
      (htraffic : Traffic net [data] [] [] []) (hup : net.server.up = [])
      (hclient : ClientAt s k net.client.ctx) (hserver : ServerAt s net.server.ctx k)
      (hdata : Carries s data) : UploadPhase lib s (4 * (s.last - k) + 2) net
  /-- block `k` is under way -/
  | arriving {net : Net} {k : Nat} {wire : WirePdu} {a : Arrival} (hk : k ≤ s.last)
      (htraffic : Traffic net [] [] [wire] []) (hup : net.server.up = [])
      (hclient : ClientAt s k net.client.ctx) (hserver : ServerAt s net.server.ctx k)
      (hwire : caParsePDU lib wire = s.pdu a) (ha : a.num = k)
      (htype : a.type = .confirm ∨ a.type = .nonconfirm) :
      UploadPhase lib s (4 * (s.last - k) + 1) net
  /-- the answer to block `k` is in the server's queue -/
  | answering {net : Net} {k : Nat} {data : CAData} (hk : k < s.last)
      (htraffic : Traffic net [] [data] [] []) (hup : net.server.up = [])
      (hclient : ClientAt s k net.client.ctx) (hserver : ServerAt s net.server.ctx (k + 1))
      (hdata : Continues s data) : UploadPhase lib s (4 * (s.last - k)) net
  /-- the answer is under way -/
  | returning {net : Net} {k : Nat} {wire : WirePdu} {type : CAMessageType} {id : Nat}
      (hk : k < s.last) (htraffic : Traffic net [] [] [] [wire]) (hup : net.server.up = [])
      (hclient : ClientAt s k net.client.ctx) (hserver : ServerAt s net.server.ctx (k + 1))
      (hwire : caParsePDU lib wire = continuePdu s k type id)
      (htype : type = .acknowledge ∨ type = .nonconfirm) :
      UploadPhase lib s (4 * (s.last - k) - 1) net
  /-- the body was handed up -/
  | done {net : Net} (htraffic : Traffic net [] [] [] [])
      (hup : net.server.up.map caGetPayloadInfo = [s.payload]) : UploadPhase lib s 0 net

section Run

variable {lib : LibCoap} {s : UploadSession} {net net' : Net} {n : Nat}

lemma upload_step (hlib : lib.Lawful) (hphase : UploadPhase lib s n net)
    (hstep : Step lib s.peers net net') : ∃ m, m < n ∧ UploadPhase lib s m net' := by
  cases hphase with
  | @sending _ k data hk htraffic hup hclient hserver hdata =>
    obtain ⟨freshId, rfl⟩ := htraffic.clientSends hstep
    obtain ⟨wire, ctx', a, hsend, hwire, ha, htype, hclient'⟩ :=
      client_sends hlib hk hclient hdata freshId
    refine ⟨4 * (s.last - k) + 1, by omega, .arriving hk ?_ hup ?_ hserver hwire ha htype⟩
    · simp only [Node.sendNext, hsend]
      exact ⟨rfl, htraffic.serverQueue, rfl, htraffic.toClient, htraffic.clientErrors,
        htraffic.serverErrors⟩
    · simp only [Node.sendNext, hsend]
      exact hclient'
  | @arriving _ k wire a hk htraffic hup hclient hserver hwire ha htype =>
    obtain ⟨token, dataLen, rfl⟩ := htraffic.serverReceives hstep
    by_cases hlt : k < s.last
    · obtain ⟨ctx', copies, data, hreceive, hserver', hdata⟩ :=
        server_receives hserver hlt ha htype token dataLen
      refine ⟨4 * (s.last - k), by omega, .answering hlt ?_ ?_ hclient ?_ hdata⟩
      · simp only [Node.receive, hwire, UploadSession.peers, hreceive, filterMap_append,
          sent_copies, nil_append]
        refine ⟨htraffic.clientQueue, ?_, rfl, htraffic.toClient, htraffic.clientErrors,
          htraffic.serverErrors⟩
        show net.server.queue ++ [data] = [data]
        rw [htraffic.serverQueue, nil_append]
      · simp only [Node.receive, hwire, UploadSession.peers, hreceive, filterMap_append,
          handed_copies, hup]
        rfl
      · simp only [Node.receive, hwire, UploadSession.peers, hreceive]
        exact hserver'
    have hlast : k = s.last := by omega
    subst hlast
    obtain ⟨ctx', data, copies, hreceive, hpay⟩ :=
      server_receives_last hserver ha token dataLen
    refine ⟨0, by omega, .done ?_ ?_⟩
    · simp only [Node.receive, hwire, UploadSession.peers, hreceive, filterMap_append,
        sent_copies, nil_append]
      refine ⟨htraffic.clientQueue, ?_, rfl, htraffic.toClient, htraffic.clientErrors,
        htraffic.serverErrors⟩
      show net.server.queue ++ [] = []
      rw [htraffic.serverQueue, nil_append]
    · simp only [Node.receive, hwire, UploadSession.peers, hreceive, filterMap_append,
        handed_copies, hup]
      show [caGetPayloadInfo data] = [s.payload]
      rw [hpay]
  | @answering _ k data hk htraffic hup hclient hserver hdata =>
    obtain ⟨freshId, rfl⟩ := htraffic.serverSends hstep
    obtain ⟨wire, type, id, hsend, hwire, htype⟩ := server_sends hlib hk hserver hdata freshId
    refine ⟨4 * (s.last - k) - 1, by omega, .returning hk ?_ ?_ hclient ?_ hwire htype⟩
    · simp only [Node.sendNext, hsend]
      exact ⟨htraffic.clientQueue, rfl, htraffic.toServer, rfl, htraffic.clientErrors,
        htraffic.serverErrors⟩
    · simp only [Node.sendNext, hsend]
      exact hup
    · simp only [Node.sendNext, hsend]
      exact hserver
  | @returning _ k wire type id hk htraffic hup hclient hserver hwire htype =>
    obtain ⟨token, dataLen, rfl⟩ := htraffic.clientReceives hstep
    obtain ⟨ctx', data, hreceive, hclient', hdata⟩ :=
      client_receives hk hclient htype id token dataLen
    refine ⟨4 * (s.last - (k + 1)) + 2, by omega, .sending hk ?_ hup ?_ hserver hdata⟩
    · simp only [Node.receive, hwire, UploadSession.peers, hreceive]
      refine ⟨?_, htraffic.serverQueue, htraffic.toServer, rfl, htraffic.clientErrors,
        htraffic.serverErrors⟩
      show net.client.queue ++ [data] = [data]
      rw [htraffic.clientQueue, nil_append]
    · simp only [Node.receive, hwire, UploadSession.peers, hreceive]
      exact hclient'
  | done htraffic hup => exact absurd hstep htraffic.stuck

lemma upload_noErrors (hphase : UploadPhase lib s n net) : net.NoErrors := by
  cases hphase with
  | sending hk htraffic => exact htraffic.noErrors (by simp)
  | @arriving _ k wire a hk htraffic hup hclient hserver hwire =>
    refine htraffic.noErrors ?_
    intro w hw
    rw [append_nil, mem_singleton] at hw
    subst hw
    have hcode : w.code = s.code := congrArg CoapPdu.code hwire
    rw [hcode]
    exact isBlockErrorCode_of_request s.isRequest
  | answering hk htraffic => exact htraffic.noErrors (by simp)
  | @returning _ k wire type id hk htraffic hup hclient hserver hwire =>
    refine htraffic.noErrors ?_
    intro w hw
    rw [nil_append, mem_singleton] at hw
    subst hw
    have hcode : w.code = 95 := congrArg CoapPdu.code hwire
    rw [hcode]
    decide
  | done htraffic => exact htraffic.noErrors (by simp)

lemma upload_up (hphase : UploadPhase lib s n net) :
    net.server.up.map caGetPayloadInfo = [] ∨ net.server.up.map caGetPayloadInfo = [s.payload] := by
  cases hphase with
  | sending _ _ hup => exact .inl (by rw [hup]; rfl)
  | arriving _ _ hup => exact .inl (by rw [hup]; rfl)
  | answering _ _ hup => exact .inl (by rw [hup]; rfl)
  | returning _ _ hup => exact .inl (by rw [hup]; rfl)
  | done _ hup => exact .inr hup

lemma upload_done (hphase : UploadPhase lib s n net)
    (hstuck : ∀ net', ¬ Step lib s.peers net net') :
    net.server.up.map caGetPayloadInfo = [s.payload] := by
  cases hphase with
  | sending _ htraffic => exact absurd (.clientSends 0 htraffic.clientQueue) (hstuck _)
  | arriving _ htraffic =>
    exact absurd (.serverReceives CAToken.null 0 htraffic.toServer) (hstuck _)
  | answering _ htraffic => exact absurd (.serverSends 0 htraffic.serverQueue) (hstuck _)
  | returning _ htraffic =>
    exact absurd (.clientReceives CAToken.null 0 htraffic.toClient) (hstuck _)
  | done _ hup => exact hup

lemma upload_start {clientCtx serverCtx : CABlockWiseContext}
    (hclient : slotOf clientCtx s.clientId = []) (hserver : slotOf serverCtx s.id = []) :
    UploadPhase lib s (4 * s.last + 2)
      ⟨(Node.idle clientCtx).sendData s.request, Node.idle serverCtx, [], []⟩ := by
  have hlarge : caCheckPayloadLength s.request = true := decide_eq_true s.large
  have hreset : s.type ≠ .reset := by
    rcases s.type_eq with h | h
    · rw [h]
      simp
    rw [h]
    simp
  have hsend : caSendBlockWiseData clientCtx s.request
      = ⟨.ok, { clientCtx with dataList := clientCtx.dataList
          ++ [{ newBlockData s.request with type := some .block1 }] }, [.send s.request]⟩ := by
    have hunicast : caSendBlockWiseData clientCtx s.request
        = caSendUnicastBlockWiseData clientCtx s.request := by
      simp [caSendBlockWiseData, UploadSession.request, if_neg hreset]
    have htype : caCheckBlockOptionType s.request = some .block1 := by
      rw [caCheckBlockOptionType, if_pos hlarge]
      rfl
    have hval : caCheckBlockDataValidation clientCtx s.request = none := rfl
    rw [hunicast]
    simp [caSendUnicastBlockWiseData, hval, htype]
  have hslot : slotOf { clientCtx with dataList := clientCtx.dataList
      ++ [{ newBlockData s.request with type := some .block1 }] } s.clientId
      = [{ newBlockData s.request with type := some .block1 }] := by
    refine (slotOf_append_self { newBlockData s.request with type := some .block1 }).trans ?_
    rw [show ({ newBlockData s.request with type := some .block1 } : CABlockData).blockDataId
      = s.clientId from rfl, hclient]
    rfl
  have hcarries : Carries s s.request := ⟨rfl, rfl, s.type, s.messageId, s.type_eq, rfl⟩
  refine UploadPhase.sending (k := 0) (Nat.zero_le _) ?_ rfl ?_ hserver hcarries
  · simp only [Node.sendData, Node.idle, hsend]
    exact ⟨rfl, rfl, rfl, rfl, rfl, rfl⟩
  · simp only [Node.sendData, Node.idle, hsend]
    exact ⟨_, hslot, rfl, rfl, rfl, hcarries⟩

/-- **A request body arrives.** From the call of `CASendBlockWiseData` on, with every PDU delivered
once and in order, no 4.08 or 4.13 is ever produced, and every run ends, with the body handed up
exactly once. -/
lemma upload_completes (hlib : lib.Lawful) {clientCtx serverCtx : CABlockWiseContext}
    (hclient : slotOf clientCtx s.clientId = []) (hserver : slotOf serverCtx s.id = []) :
    Completion.Completes (Step lib s.peers)
      (fun net => net.NoErrors ∧ (net.server.up.map caGetPayloadInfo = []
        ∨ net.server.up.map caGetPayloadInfo = [s.payload]))
      (fun net => net.server.up.map caGetPayloadInfo = [s.payload])
      ⟨(Node.idle clientCtx).sendData s.request, Node.idle serverCtx, [], []⟩ := by
  refine Completion.completes_of_ranked (UploadPhase lib s) ?_ ?_ ?_ (upload_start hclient hserver)
  · intro n net net' hphase hstep
    exact upload_step hlib hphase hstep
  · intro n net hphase
    exact ⟨upload_noErrors hphase, upload_up hphase⟩
  · intro n net hphase hstuck
    exact upload_done hphase hstuck

end Run

open Completion

/-! ## `libcoap`, as far as it is used -/

/-- `coap_encode_var_bytes`: the bytes of a number, high byte first, without
leading zeros. -/
def encodeVarBytes (n : Nat) : List UInt8 :=
  ((Nat.digits 256 n).map UInt8.ofNat).reverse

def decodeVarBytes (bytes : List UInt8) : Nat :=
  Nat.ofDigits 256 (bytes.reverse.map UInt8.toNat)

lemma decodeVarBytes_encodeVarBytes (n : Nat) : decodeVarBytes (encodeVarBytes n) = n := by
  have hdigits : ((Nat.digits 256 n).map UInt8.ofNat).map UInt8.toNat = Nat.digits 256 n := by
    rw [map_map]
    refine map_congr_left (g := id) ?_ |>.trans (map_id _)
    intro d hd
    have hlt : d < 256 := Nat.digits_lt_base (by omega) hd
    simp [hlt]
  rw [decodeVarBytes, encodeVarBytes, reverse_reverse, hdigits, Nat.ofDigits_digits]

lemma blockOptionValue_eq (block : CoapBlock) (hszx : block.szx ≤ 7) :
    blockOptionValue block = block.num * 16 + block.m.toNat * 8 + block.szx := by
  have hm : block.m.toNat <<< 3 ||| block.szx = block.m.toNat * 8 + block.szx := by
    rw [← Nat.shiftLeft_add_eq_or_of_lt (by omega), Nat.shiftLeft_eq]
  have hlt : block.m.toNat * 8 + block.szx < 2 ^ 4 := by
    have hle : block.m.toNat ≤ 1 := Bool.toNat_le block.m
    omega
  rw [blockOptionValue, Nat.or_assoc, hm, ← Nat.shiftLeft_add_eq_or_of_lt hlt, Nat.shiftLeft_eq,
    Nat.add_assoc]

/-- libcoap: options are variable-length numbers, `coap_get_block` takes one apart, `coap_add_block`
refuses a block that starts behind the data, and the data of a small message fits. -/
def libcoap : LibCoap where
  encodeVarBytes := encodeVarBytes
  decodeVarBytes := decodeVarBytes
  getBlock bytes :=
    let value := decodeVarBytes bytes
    ⟨value / 16, decide (value / 8 % 2 = 1), value % 8⟩
  addBlock data num szx :=
    if blockSize szx * num < data.length then
      some ((data.drop (blockSize szx * num)).take (blockSize szx))
    else none
  addData data := some data

lemma libcoap_lawful : libcoap.Lawful where
  decode_encode n _ := decodeVarBytes_encodeVarBytes n
  getBlock_encode := by
    rintro ⟨num, m, szx⟩ hnum hszx
    have hvalue := blockOptionValue_eq ⟨num, m, szx⟩ hszx
    simp only [libcoap, decodeVarBytes_encodeVarBytes, hvalue]
    dsimp only at hszx
    have h1 : (num * 16 + m.toNat * 8 + szx) / 16 = num := by
      have hle : m.toNat ≤ 1 := Bool.toNat_le m
      omega
    have h2 : decide ((num * 16 + m.toNat * 8 + szx) / 8 % 2 = 1) = m := by
      cases m with
      | false =>
        apply decide_eq_false
        rw [Bool.toNat_false]
        omega
      | true =>
        apply decide_eq_true
        rw [Bool.toNat_true]
        omega
    have h3 : (num * 16 + m.toNat * 8 + szx) % 8 = szx := by omega
    rw [h1, h2, h3]
  addBlock_eq data num szx h := by
    simp [libcoap, if_pos h]
  addData_nil := rfl

/-! ## The round trip -/

/-- **Loss-free round trip.** In both directions, and for every body of more
than 1024 bytes and at most `2 ^ 20` blocks: if every PDU that one side produces
is delivered once and in order, then, however the two sides take turns, no 4.08
or 4.13 is ever produced, the run ends, and the receiver's upper layer has been
handed the body exactly once. -/
theorem roundTrip_completes (lib : LibCoap) (hlib : lib.Lawful) :
    (∀ (s : UploadSession) (clientCtx serverCtx : CABlockWiseContext),
      slotOf clientCtx s.clientId = [] → slotOf serverCtx s.id = [] →
      Completes (Step lib s.peers)
        (fun net => net.NoErrors ∧ (net.server.up.map caGetPayloadInfo = []
          ∨ net.server.up.map caGetPayloadInfo = [s.payload]))
        (fun net => net.server.up.map caGetPayloadInfo = [s.payload])
        ⟨(Node.idle clientCtx).sendData s.request, Node.idle serverCtx, [], []⟩)
    ∧ (∀ (s : DownloadSession) (clientCtx serverCtx : CABlockWiseContext) (freshId : Nat),
      slotOf clientCtx s.id = [] → slotOf clientCtx (emptyAckId s.endpoint) = [] →
      slotOf serverCtx s.serverId = [] → (lib.addData s.requestPayload).isSome →
      Completes (Step lib s.peers)
        (fun net => net.NoErrors ∧ (net.client.up.map caGetPayloadInfo = []
          ∨ net.client.up.map caGetPayloadInfo = [s.payload]))
        (fun net => net.client.up.map caGetPayloadInfo = [s.payload])
        ⟨(((Node.idle clientCtx).sendData s.request).sendNext lib s.request [] freshId).1,
          (Node.idle serverCtx).sendData s.response, [], []⟩) := by
  refine ⟨?_, ?_⟩
  · intro s clientCtx serverCtx hclient hserver
    exact upload_completes hlib hclient hserver
  · intro s clientCtx serverCtx freshId hclient hack hserver hadd
    obtain ⟨bytes, hbytes⟩ := Option.isSome_iff_exists.mp hadd
    exact download_completes hlib hclient hack hserver hbytes freshId

def sampleUploadSession : UploadSession :=
  { token := tokenOne
    endpoint := ⟨1, addrOne, 5683⟩
    code := caPost
    uri := some "/light"
    payload := List.replicate 2049 7
    addr_lt := addrOne_lt
    isRequest := isRequestCode_caPost
    large := by rw [length_replicate]; decide
    server := ⟨1, addrTwo, 5684⟩
    type := .confirm
    messageId := 0
    server_lt := addrTwo_lt
    token_ne := by decide
    type_eq := Or.inl rfl
    uri_le := by decide
    size_le := by rw [length_replicate]; decide }

def sampleDownloadSession : DownloadSession :=
  { token := tokenOne
    endpoint := ⟨1, addrTwo, 5684⟩
    code := 69
    uri := none
    payload := List.replicate 2048 7
    addr_lt := addrTwo_lt
    isResponse := isRequestCode_content
    noError := isBlockErrorCode_content
    client := ⟨1, addrOne, 5683⟩
    method := caGet
    requestType := .confirm
    requestId := 0
    requestPayload := []
    requestUri := some "/light"
    result := 205
    responseType := .confirm
    responseId := 17
    client_lt := addrOne_lt
    token_ne := by decide
    isRequest := rfl
    requestType_eq := Or.inl rfl
    small := by decide
    requestUri_le := by decide
    code_eq := rfl
    result_ne := by decide
    responseType_ne := by decide
    uri_le := by decide
    large := by rw [length_replicate]; decide
    size_le := by rw [length_replicate]; decide }

theorem roundTrip_completes_sample :
    Completes (Step libcoap sampleUploadSession.peers)
        (fun net => net.NoErrors ∧ (net.server.up.map caGetPayloadInfo = []
          ∨ net.server.up.map caGetPayloadInfo = [sampleUploadSession.payload]))
        (fun net => net.server.up.map caGetPayloadInfo = [sampleUploadSession.payload])
        ⟨(Node.idle ⟨[], []⟩).sendData sampleUploadSession.request, Node.idle ⟨[], []⟩, [], []⟩
    ∧ Completes (Step libcoap sampleDownloadSession.peers)
        (fun net => net.NoErrors ∧ (net.client.up.map caGetPayloadInfo = []
          ∨ net.client.up.map caGetPayloadInfo = [sampleDownloadSession.payload]))
        (fun net => net.client.up.map caGetPayloadInfo = [sampleDownloadSession.payload])
        ⟨(((Node.idle ⟨[], []⟩).sendData sampleDownloadSession.request).sendNext libcoap
            sampleDownloadSession.request [] 99).1,
          (Node.idle ⟨[], []⟩).sendData sampleDownloadSession.response, [], []⟩ :=
  ⟨(roundTrip_completes libcoap libcoap_lawful).1 sampleUploadSession ⟨[], []⟩ ⟨[], []⟩ rfl rfl,
    (roundTrip_completes libcoap libcoap_lawful).2 sampleDownloadSession ⟨[], []⟩ ⟨[], []⟩ 99 rfl
      rfl rfl rfl⟩

end Iochibity.Coap
