/-
One block arrives: what the checks say about it and what storing it does.
-/
import Iochibity.Coap.BlockTransfer
import Iochibity.Lib.Framing
import Iochibity.Lib.Runs

namespace Iochibity.Coap

open Buffer Blocks
open List

section Check

variable {e : CABlockData} {block : CoapBlock} {receivedData : CAData} {dataLen : Nat}

lemma caCheckBlockErrorType_block1_ne
    (hne : e.receivedPayloadLen ≠ blockSize block.szx * block.num) :
    caCheckBlockErrorType e block receivedData .block1 dataLen
      = (if block.num > e.block1.num + 1 then .incomplete else .receivedAlready, e) := by
  simp only [caCheckBlockErrorType, if_pos hne]
  by_cases hgap : block.num > e.block1.num + 1
  · simp [if_pos hgap]
  · simp [if_neg hgap]

lemma caCheckBlockErrorType_block2_ne (hne : block.num ≠ e.block2.num) :
    caCheckBlockErrorType e block receivedData .block2 dataLen
      = (if block.num > e.block2.num then .incomplete else .receivedAlready, e) := by
  simp only [caCheckBlockErrorType, if_pos hne]
  by_cases hgap : block.num > e.block2.num
  · simp [if_pos hgap]
  · simp [if_neg hgap]

lemma caCheckBlockErrorType_next {blockType : BlockType} (hnext : match blockType with
      | .block1 => e.receivedPayloadLen = blockSize block.szx * block.num
      | .block2 => block.num = e.block2.num)
    (hfull : block.m = true → (caGetPayloadInfo receivedData).length = blockSize block.szx)
    (hlast : block.m = false → e.payloadLength ≠ 0 →
      e.receivedPayloadLen + (caGetPayloadInfo receivedData).length = e.payloadLength) :
    caCheckBlockErrorType e block receivedData blockType dataLen = (.unknown, e) := by
  have hm : (block.m && (caGetPayloadInfo receivedData).length != blockSize block.szx) = false := by
    cases hbm : block.m with
    | false => rfl
    | true => simp [hfull hbm]
  have htotal : (!block.m && e.payloadLength != 0
      && e.receivedPayloadLen + (caGetPayloadInfo receivedData).length != e.payloadLength)
      = false := by
    cases hbm : block.m with
    | true => rfl
    | false =>
      by_cases hzero : e.payloadLength = 0
      · simp [hzero]
      · simp [hlast hbm hzero]
  cases blockType with
  | block1 =>
    simp only [caCheckBlockErrorType, hnext, ne_eq, not_true_eq_false, if_false, hm,
      Bool.false_eq_true]
    dsimp only at hnext
    rw [hnext] at htotal
    simp [htotal]
  | block2 =>
    simp [caCheckBlockErrorType, hnext, hm, htotal]

end Check

/-! ## `CAUpdatePayloadData` -/

/-- The buffer of `e` is allocated for all of `P` and holds its first `r` bytes. -/
structure HoldsPrefix (P : List UInt8) (r : Nat) (e : CABlockData) : Prop where
  received : e.receivedPayloadLen = r
  le_length : r ≤ P.length
  total : e.payloadLength = P.length
  buffer : ∃ buf, e.payload = some buf ∧ buf.length = P.length ∧ buf.take r = P.take r

section Store

variable {P : List UInt8} {r : Nat} (e : CABlockData) (receivedData : CAData)
  (blockType : BlockType)

lemma caUpdatePayloadData_keeps (status : CABlockState) (isSizeOption : Bool) :
    let e' := (caUpdatePayloadData e receivedData status isSizeOption blockType).1
    e'.block1 = e.block1 ∧ e'.block2 = e.block2 ∧ e'.type = e.type
      ∧ e'.sentData = e.sentData ∧ e'.payloadLength = e.payloadLength := by
  unfold caUpdatePayloadData
  dsimp only
  split
  · exact ⟨rfl, rfl, rfl, rfl, rfl⟩
  · split <;> exact ⟨rfl, rfl, rfl, rfl, rfl⟩

lemma caUpdatePayloadData_first
    (hreceived : e.receivedPayloadLen = 0) (htotal : e.payloadLength = P.length)
    (hblock : caGetPayloadInfo receivedData ≠ [])
    (hpre : caGetPayloadInfo receivedData = P.take (caGetPayloadInfo receivedData).length) :
    HoldsPrefix P (caGetPayloadInfo receivedData).length
      (caUpdatePayloadData e receivedData .unknown true blockType).1 := by
  have hle : (caGetPayloadInfo receivedData).length ≤ P.length := by
    have hlen := congrArg List.length hpre
    rw [length_take] at hlen
    omega
  have hpos : 0 < (caGetPayloadInfo receivedData).length := length_pos_iff.mpr hblock
  have hne : e.payloadLength ≠ 0 := by omega
  simp only [caUpdatePayloadData, storedPayloadLen, hblock, or_false, reduceCtorEq, if_false,
    hne, ne_eq, not_false_eq_true, if_true, hreceived, Nat.zero_add, Option.map_some]
  refine ⟨rfl, hle, htotal, _, rfl, ?_, ?_⟩
  · simp [htotal]
  · rw [take_memcpy_zero, take_length]
    · exact hpre
    · simp only [length_memcpy, length_calloc, htotal]
      exact hle
    · exact Nat.le_refl _

lemma caUpdatePayloadData_next (hpre : HoldsPrefix P r e) (hPpos : 0 < P.length)
    (hblock : caGetPayloadInfo receivedData ≠ []) (hrun : P.take r ++ caGetPayloadInfo receivedData
      = P.take (r + (caGetPayloadInfo receivedData).length)) :
    HoldsPrefix P (r + (caGetPayloadInfo receivedData).length)
      (caUpdatePayloadData e receivedData .unknown false blockType).1 := by
  obtain ⟨hreceived, hler, htotal, buf, hbuf, hbuflen, hbufpre⟩ := hpre
  have hle : r + (caGetPayloadInfo receivedData).length ≤ P.length := by
    have hlen := congrArg List.length hrun
    rw [length_append, length_take, length_take] at hlen
    omega
  have hne : e.payloadLength ≠ 0 := by omega
  simp only [caUpdatePayloadData, storedPayloadLen, hblock, or_false, reduceCtorEq, if_false,
    hne, ne_eq, not_false_eq_true, if_true, Bool.false_eq_true, hbuf, Option.map_some, hreceived]
  refine ⟨rfl, hle, htotal, _, rfl, ?_, ?_⟩
  · rw [length_memcpy, hbuflen]
  · rw [take_memcpy (by omega) (Nat.le_refl _), hbufpre, take_length, hrun]

end Store

lemma caUpdateBlockData_block1 (d : CABlockData) {block : CoapBlock} (hszx : block.szx ≤ 6) :
    caUpdateBlockData d block .block1 = some { d with block1 := block } := by
  have hle : ¬ block.szx > caBlockSize1024Byte := Nat.not_lt.mpr hszx
  rw [caUpdateBlockData, if_neg hle]

lemma caUpdateBlockData_block2 (d : CABlockData) {block : CoapBlock} (hszx : block.szx ≤ 6) :
    caUpdateBlockData d block .block2 = some { d with block2 := block } := by
  have hle : ¬ block.szx > caBlockSize1024Byte := Nat.not_lt.mpr hszx
  rw [caUpdateBlockData, if_neg hle]

/-! ## `CAReceiveLastBlock` -/

def Event.delivered : Event → Option (List UInt8)
  | .receive data => some (caGetPayloadInfo data)
  | _ => none

lemma caReceiveLastBlock_buffered {ctx : CABlockWiseContext} {id : CABlockDataID}
    {e : CABlockData} {buf : List UInt8} (pdu : CoapPdu) (endpoint : CAEndpoint)
    (hget : caGetBlockDataFromBlockDataList ctx id = some e)
    (hbuf : e.payload = some buf) (hpos : e.receivedPayloadLen ≠ 0) :
    ∃ data, caReceiveLastBlock ctx id (caGenerateHandlerData endpoint pdu) = (.ok, [.receive data])
      ∧ caGetPayloadInfo data = buf.take e.receivedPayloadLen := by
  simp only [caReceiveLastBlock, caGetPayloadFromBlockDataList, hget, hbuf, Option.map_some,
    caGenerateHandlerData]
  by_cases hreq : isRequestCode pdu.code = true
  · simp only [if_pos hreq, caUpdatePayloadToCAData, if_neg hpos]
    exact ⟨_, rfl, rfl⟩
  simp only [if_neg hreq, caUpdatePayloadToCAData, if_neg hpos]
  exact ⟨_, rfl, rfl⟩

section Complete

variable {ctx : CABlockWiseContext} {e : CABlockData} (pdu : CoapPdu) (endpoint : CAEndpoint)
  {id : CABlockDataID} {P : List UInt8} (hP : 0 < P.length)
  (hget : caGetBlockDataFromBlockDataList ctx id = some e) (he : HoldsPrefix P P.length e)
include hP hget he

lemma receiveLast_data :
    ∃ data, caReceiveLastBlock ctx id (caGenerateHandlerData endpoint pdu) = (.ok, [.receive data])
      ∧ caGetPayloadInfo data = P := by
  obtain ⟨hreceived, -, -, buf, hbuf, -, hpre⟩ := he
  have hne : e.receivedPayloadLen ≠ 0 := by omega
  obtain ⟨data, hlast, hpay⟩ := caReceiveLastBlock_buffered pdu endpoint hget hbuf hne
  rw [hreceived, hpre, take_length] at hpay
  exact ⟨data, hlast, hpay⟩

lemma receiveLast_of_complete :
    (caReceiveLastBlock ctx id (caGenerateHandlerData endpoint pdu)).1 = .ok
      ∧ (caReceiveLastBlock ctx id (caGenerateHandlerData endpoint pdu)).2.filterMap
          Event.delivered = [P] := by
  obtain ⟨data, hlast, hpay⟩ := receiveLast_data pdu endpoint hP hget he
  rw [hlast]
  refine ⟨rfl, ?_⟩
  rw [← hpay]
  rfl

end Complete

lemma caReceiveLastBlock_unbuffered {ctx : CABlockWiseContext} {id : CABlockDataID}
    {e : CABlockData} (receivedData : CAData)
    (hget : caGetBlockDataFromBlockDataList ctx id = some e) (hbuf : e.payload = none) :
    caReceiveLastBlock ctx id receivedData = (.ok, [.receive receivedData]) := by
  simp [caReceiveLastBlock, caGetPayloadFromBlockDataList, hget, hbuf]

lemma delivered_copies (copies : List MemCopy) :
    (copies.map Event.copy).filterMap Event.delivered = [] := by
  rw [filterMap_eq_nil_iff]
  intro ev hev
  obtain ⟨c, -, rfl⟩ := mem_map.mp hev
  rfl

/-! ## A body under way -/

structure Arrival where
  num : Nat
  type : CAMessageType
  id : Nat
  dataLen : Nat
  deriving DecidableEq

/-- A body that is sent in blocks of 1024 bytes, with the token of its request, the peer, and the
code and URI of the messages. An address is a string in a buffer of 66 bytes. -/
structure BodyTransfer where
  token : CAToken
  endpoint : CAEndpoint
  code : Nat
  uri : Option String
  payload : List UInt8
  addr_lt : endpoint.addr.bytes.length < 66

namespace BodyTransfer

variable (t : BodyTransfer)

def id : CABlockDataID :=
  caCreateBlockDatablockId t.token t.endpoint.addr t.endpoint.port

def last : Nat := lastBlock 1024 t.payload

def option (i : Nat) : CoapBlock :=
  ⟨i, decide ((i + 1) * 1024 < t.payload.length), 6⟩

/-- The size option of block `i`: only block 0 announces the total. -/
def size (i : Nat) : Option Nat :=
  if i = 0 then some t.payload.length else none

lemma id_length : ¬ (t.id.length < 1 ∨ 255 < t.id.length) := by
  have htok : t.token.bytes.length ≤ 8 := t.token.length_le
  have haddr := t.addr_lt
  simp only [id, caCreateBlockDatablockId, portBytes, length_append, length_cons, length_nil]
  omega

lemma option_m {i : Nat} : (t.option i).m = decide (i < t.last) := by
  apply decide_eq_decide.mpr
  by_cases hpos : 0 < t.payload.length
  · exact more_iff_lt_lastBlock (by omega) hpos
  rw [last, lastBlock]
  omega

lemma prefix_le (hpos : 0 < t.payload.length) {k : Nat} (hk : k ≤ t.last) :
    1024 * k < t.payload.length := by
  obtain ⟨hlo, -⟩ := lastBlock_bounds (b := 1024) (by omega) hpos
  have hmul : 1024 * k ≤ 1024 * t.last := Nat.mul_le_mul_left _ hk
  rw [last] at hmul
  omega

lemma prefix_append {k : Nat} :
    t.payload.take (1024 * k) ++ block 1024 t.payload k = t.payload.take (1024 * (k + 1)) :=
  take_append_block 1024 t.payload k

lemma block_ne_nil (hpos : 0 < t.payload.length) {k : Nat} (hk : k ≤ t.last) :
    block 1024 t.payload k ≠ [] :=
  Blocks.block_ne_nil (by omega) hpos hk

lemma prefix_length (hpos : 0 < t.payload.length) {k : Nat} (hk : k ≤ t.last) :
    1024 * k + (block 1024 t.payload k).length = min (1024 * (k + 1)) t.payload.length := by
  have hlt := t.prefix_le hpos hk
  rw [length_block]
  omega

/-! ### Storing the next block of a body -/

section

variable (i : Nat) (e : CABlockData)

lemma sizeOption_eq :
    caIsPayloadLengthInPduWithBlockSizeOption e (t.size i)
      = if i = 0 then (true, { e with payloadLength := t.payload.length }) else (false, e) := by
  rw [size]
  by_cases h0 : i = 0
  · simp [if_pos h0, caIsPayloadLengthInPduWithBlockSizeOption]
  · simp [if_neg h0, caIsPayloadLengthInPduWithBlockSizeOption]

lemma sizeOption_received :
    (caIsPayloadLengthInPduWithBlockSizeOption e (t.size i)).2.receivedPayloadLen
      = e.receivedPayloadLen := by
  cases t.size i <;> rfl

lemma sizeOption_block1 :
    (caIsPayloadLengthInPduWithBlockSizeOption e (t.size i)).2.block1 = e.block1 := by
  cases t.size i <;> rfl

lemma sizeOption_block2 :
    (caIsPayloadLengthInPduWithBlockSizeOption e (t.size i)).2.block2 = e.block2 := by
  cases t.size i <;> rfl

lemma sizeOption_type :
    (caIsPayloadLengthInPduWithBlockSizeOption e (t.size i)).2.type = e.type := by
  cases t.size i <;> rfl

lemma sizeOption_sentData :
    (caIsPayloadLengthInPduWithBlockSizeOption e (t.size i)).2.sentData = e.sentData := by
  cases t.size i <;> rfl

end

section Next

variable {t} (hpos : 0 < t.payload.length) {k : Nat} (hk : k ≤ t.last) {e : CABlockData}
  {receivedData : CAData}
  (hpay : caGetPayloadInfo receivedData = block 1024 t.payload k)
  (hreceived : e.receivedPayloadLen = 1024 * k)
  (hholds : 0 < k → HoldsPrefix t.payload (1024 * k) e)
include hpos hk hpay hreceived hholds

lemma check_next (blockType : BlockType) (dataLen : Nat) (hnext : match blockType with
      | .block1 => (caIsPayloadLengthInPduWithBlockSizeOption e (t.size k)).2.receivedPayloadLen
          = blockSize (t.option k).szx * (t.option k).num
      | .block2 => (t.option k).num
          = (caIsPayloadLengthInPduWithBlockSizeOption e (t.size k)).2.block2.num) :
    caCheckBlockErrorType (caIsPayloadLengthInPduWithBlockSizeOption e (t.size k)).2 (t.option k)
        receivedData blockType dataLen
      = (.unknown, (caIsPayloadLengthInPduWithBlockSizeOption e (t.size k)).2) := by
  have htotal : (caIsPayloadLengthInPduWithBlockSizeOption e (t.size k)).2.payloadLength
      = t.payload.length := by
    rw [t.sizeOption_eq]
    by_cases h0 : k = 0
    · rw [if_pos h0]
    rw [if_neg h0]
    exact (hholds (by omega)).total
  apply caCheckBlockErrorType_next hnext
  · intro hm
    rw [t.option_m, decide_eq_true_eq] at hm
    rw [hpay]
    exact length_block_of_lt (by omega) hpos hm
  · intro hm _
    rw [t.option_m, decide_eq_false_iff_not] at hm
    have hkl : k = t.last := by omega
    rw [hpay, t.sizeOption_received, hreceived, htotal, hkl]
    exact length_block_last (by omega) hpos

lemma store_next (blockType : BlockType) :
    HoldsPrefix t.payload (min (1024 * (k + 1)) t.payload.length)
      (caUpdatePayloadData (caIsPayloadLengthInPduWithBlockSizeOption e (t.size k)).2 receivedData
        .unknown (caIsPayloadLengthInPduWithBlockSizeOption e (t.size k)).1 blockType).1 := by
  have hlen := t.prefix_length hpos hk
  have hblock : caGetPayloadInfo receivedData ≠ [] := by
    rw [hpay]
    exact t.block_ne_nil hpos hk
  rw [t.sizeOption_eq, ← hlen, ← hpay]
  by_cases h0 : k = 0
  · -- block 0 announces the length, and the buffer is allocated here
    have hpre : caGetPayloadInfo receivedData
        = t.payload.take (caGetPayloadInfo receivedData).length := by
      rw [hpay, h0, block_zero, length_take, take_eq_take_iff]
      omega
    rw [if_pos h0, h0, Nat.mul_zero, Nat.zero_add]
    exact caUpdatePayloadData_first { e with payloadLength := t.payload.length } receivedData
      blockType (by rw [hreceived, h0]) rfl hblock hpre
  have hrun : t.payload.take (1024 * k) ++ caGetPayloadInfo receivedData
      = t.payload.take (1024 * k + (caGetPayloadInfo receivedData).length) := by
    rw [hpay, t.prefix_append, hlen, take_eq_take_iff]
    omega
  rw [if_neg h0]
  exact caUpdatePayloadData_next e receivedData blockType (hholds (by omega)) hpos hblock hrun

end Next

end BodyTransfer

/-! ## The next step, seen from the entry -/

section Finish

variable {ctx : CABlockWiseContext} (pdu : CoapPdu) (receivedData : CAData) {id : CABlockDataID}
  {e data : CABlockData} {rest : List CABlockData}

section

variable (hslot : slotOf ctx id = e :: rest)
include hslot

lemma slotOf_store (hid : data.blockDataId = id) :
    slotOf (modifyBlockData ctx id (fun _ => data)) id = data :: rest :=
  slotOf_modify (fun _ _ => hid) hslot

lemma slotOf_setSentData (sentData : CAData) :
    slotOf (modifyBlockData ctx id ({ · with sentData := sentData })) id
      = { e with sentData := sentData } :: rest :=
  slotOf_modify (fun _ he => he) hslot

lemma get_of_slotOf : caGetBlockDataFromBlockDataList ctx id = some e := by
  rw [caGetBlockData_eq_head?, hslot]
  rfl

lemma caCheckTheExist_found (endpoint : CAEndpoint) (blockType : BlockType) :
    ∃ ctx', caCheckTheExistOfBlockData ctx id pdu endpoint blockType = some ctx'
      ∧ slotOf ctx' id = { e with type := some blockType } :: rest
      ∧ ∀ id', id' ≠ id → slotOf ctx' id' = slotOf ctx id' := by
  refine ⟨caUpdateBlockOptionType ctx id blockType, ?_, ?_, ?_⟩
  · rw [caCheckTheExistOfBlockData, get_of_slotOf hslot]
  · exact slotOf_modify (fun _ he => he) hslot
  · intro id' hne
    apply slotOf_modify_ne _ hne
    exact fun _ he => he

end

lemma caCheckTheExist_made {pdu : CoapPdu} {endpoint : CAEndpoint} {cadata : CAData}
    (hslot : slotOf ctx (pduBlockId pdu endpoint) = [])
    (hnew : (caCreateNewDataSet pdu endpoint).bind
      (fillResourceUri ctx (pduBlockId pdu endpoint)) = some cadata) (blockType : BlockType) :
    ∃ ctx', caCheckTheExistOfBlockData ctx (pduBlockId pdu endpoint) pdu endpoint blockType
        = some ctx'
      ∧ slotOf ctx' (pduBlockId pdu endpoint)
        = [{ newBlockData cadata with type := some blockType }] := by
  have hget : caGetBlockDataFromBlockDataList ctx (pduBlockId pdu endpoint) = none := by
    rw [caGetBlockData_eq_head?, hslot]
    rfl
  have hid : (newBlockData cadata).blockDataId = pduBlockId pdu endpoint :=
    newBlockData_blockDataId hnew
  refine ⟨caUpdateBlockOptionType (caCreateNewBlockData ctx cadata) (pduBlockId pdu endpoint)
    blockType, ?_, ?_⟩
  · rw [caCheckTheExistOfBlockData, hget, hnew]
  · rw [caUpdateBlockOptionType, slotOf_modify_self, caCreateNewBlockData, ← hid,
      slotOf_append_self, hid, hslot]
    · rfl
    · exact fun _ he => he

section

variable (hslot : slotOf ctx id = e :: rest)
include hslot

lemma slotOf_emptyAck (endpoint : CAEndpoint) (messageId : Nat) :
    ∃ sentData, slotOf (caSendDirectEmptyResponse ctx endpoint messageId).ctx id
      = { e with sentData := sentData } :: rest := by
  rw [caSendDirectEmptyResponse_eq]
  by_cases hid : id = emptyAckId endpoint
  · subst hid
    exact ⟨_, slotOf_setSentData hslot _⟩
  refine ⟨e.sentData, Eq.trans ?_ hslot⟩
  apply slotOf_modify_ne _ hid
  exact fun _ he => he

lemma caSendBlockMessage_slot :
    (caSendBlockMessage ctx pdu id).res = .ok
      ∧ (∃ sentData, slotOf (caSendBlockMessage ctx pdu id).ctx id
          = { e with sentData := sentData } :: rest)
      ∧ (caSendBlockMessage ctx pdu id).log.filterMap Event.delivered = [] := by
  simp only [caSendBlockMessage, get_of_slotOf hslot]
  by_cases hreq : isRequestCode pdu.code = true
  · simp only [if_pos hreq]
    exact ⟨trivial, ⟨_, slotOf_setSentData hslot _⟩, rfl⟩
  simp only [if_neg hreq]
  cases e.sentData.requestInfo with
  | none => exact ⟨rfl, ⟨_, slotOf_setSentData hslot _⟩, rfl⟩
  | some req =>
    by_cases hcon : pdu.type = .confirm
    · obtain ⟨sentData, hack⟩ :=
        slotOf_emptyAck hslot e.sentData.remoteEndpoint req.info.messageId
      simp only [if_pos hcon]
      refine ⟨trivial, ⟨_, slotOf_setSentData hack _⟩, ?_⟩
      rw [caSendDirectEmptyResponse_eq]
      rfl
    simp only [if_neg hcon]
    exact ⟨trivial, ⟨_, slotOf_setSentData hslot _⟩, rfl⟩

lemma caSendBlockMessage_request (hreq : isRequestCode pdu.code = true) {res : CAResponseInfo}
    (hres : e.sentData.responseInfo = some res) :
    let data := { e.sentData with responseInfo := some { res with
      result := caContinue, info := res.info.stamp pdu.id (sentMsgType pdu.type) } }
    caSendBlockMessage ctx pdu id
      = ⟨.ok, modifyBlockData ctx id ({ · with sentData := data }), [.send data]⟩ := by
  simp [caSendBlockMessage, get_of_slotOf hslot, hreq, hres]

lemma caSendBlockMessage_response (hreq : isRequestCode pdu.code = false)
    (hcon : pdu.type ≠ .confirm) {req : CARequestInfo} (hinfo : e.sentData.requestInfo = some req) :
    let data := { e.sentData with requestInfo := some { req with
      info := req.info.stamp 0 (sentMsgType pdu.type) } }
    caSendBlockMessage ctx pdu id
      = ⟨.ok, modifyBlockData ctx id ({ · with sentData := data }), [.send data]⟩ := by
  simp [caSendBlockMessage, get_of_slotOf hslot, hreq, hinfo, if_neg hcon]

lemma finishNextStep_answered (hid : data.blockDataId = id) {status : CABlockState}
    (hstatus : status = .option1RequestBlock ∨ status = .option2Response) (log : List Event) :
    ∃ sentData, slotOf (finishNextStep ctx pdu receivedData id (some (data, status), log)).ctx id
        = { data with sentData := sentData } :: rest
      ∧ (finishNextStep ctx pdu receivedData id (some (data, status), log)).log.filterMap
          Event.delivered = log.filterMap Event.delivered := by
  obtain ⟨hok, ⟨sentData, hsend⟩, hdel⟩ :=
    caSendBlockMessage_slot pdu (slotOf_store hslot hid)
  have hstep : caProcessNextStep (modifyBlockData ctx id (fun _ => data)) pdu receivedData status id
      = caSendBlockMessage (modifyBlockData ctx id (fun _ => data)) pdu id := by
    rcases hstatus with rfl | rfl
    · rfl
    · rfl
  simp only [finishNextStep, hstep, hok, if_true]
  refine ⟨sentData, hsend, ?_⟩
  simp [hdel]

lemma finishNextStep_failed (log : List Event) :
    slotOf (finishNextStep ctx pdu receivedData id (none, log)).ctx id = rest := by
  simp [finishNextStep, slotOf_remove_self, hslot]

section

variable (hid : data.blockDataId = id) (log : List Event) {P : List UInt8}
  (hlast : (caReceiveLastBlock (modifyBlockData ctx id (fun _ => data)) id receivedData).1 = .ok ∧
    (caReceiveLastBlock (modifyBlockData ctx id (fun _ => data)) id receivedData).2.filterMap
      Event.delivered = [P])
include hid hlast

lemma finishNextStep_responseLast :
    slotOf (finishNextStep ctx pdu receivedData id
        (some (data, .option2LastBlock), log)).ctx id = rest
      ∧ (finishNextStep ctx pdu receivedData id
        (some (data, .option2LastBlock), log)).log.filterMap Event.delivered
        = log.filterMap Event.delivered ++ [P] := by
  generalize hcall : caReceiveLastBlock (modifyBlockData ctx id (fun _ => data)) id receivedData
    = call at hlast
  obtain ⟨res, up⟩ := call
  obtain ⟨rfl, hdel⟩ := hlast
  simp only [finishNextStep, caProcessNextStep, hcall, if_true]
  refine ⟨?_, ?_⟩
  · rw [slotOf_remove_self, slotOf_store hslot hid, tail_cons]
  · simp [hdel]

lemma finishNextStep_requestLast :
    slotOf (finishNextStep ctx pdu receivedData id
        (some (data, .option1RequestLastBlock), log)).ctx id = data :: rest
      ∧ (finishNextStep ctx pdu receivedData id
        (some (data, .option1RequestLastBlock), log)).log.filterMap Event.delivered
        = log.filterMap Event.delivered ++ [P] := by
  obtain ⟨hok, hdel⟩ := hlast
  simp only [finishNextStep, caProcessNextStep, hok, if_true]
  refine ⟨slotOf_store hslot hid, ?_⟩
  simp [hdel]

end

lemma finishNextStep_incomplete (hid : data.blockDataId = id)
    (hres : ∃ res, errorResponse data.sentData pdu caRequestEntityIncomplete = some res)
    (log : List Event) :
    slotOf (finishNextStep ctx pdu receivedData id
        (some (data, .incomplete), log)).ctx id = data.restart :: rest
      ∧ (finishNextStep ctx pdu receivedData id
        (some (data, .incomplete), log)).log.filterMap Event.delivered
        = log.filterMap Event.delivered := by
  obtain ⟨res, hres⟩ := hres
  have hstore := slotOf_store hslot hid
  simp only [finishNextStep, caProcessNextStep, caSendErrorMessage, get_of_slotOf hstore, hres,
    if_true]
  refine ⟨?_, ?_⟩
  · exact slotOf_modify (fun _ he => he) hstore
  · rw [filterMap_append]
    exact append_nil _

lemma finishNextStep_unanswered (hid : data.blockDataId = id)
    (hres : errorResponse data.sentData pdu caRequestEntityIncomplete = none) (log : List Event) :
    slotOf (finishNextStep ctx pdu receivedData id (some (data, .incomplete), log)).ctx id = rest
      ∧ (finishNextStep ctx pdu receivedData id
        (some (data, .incomplete), log)).log.filterMap Event.delivered
        = log.filterMap Event.delivered := by
  have hstore := slotOf_store hslot hid
  simp only [finishNextStep, caProcessNextStep, caSendErrorMessage, get_of_slotOf hstore, hres,
    reduceCtorEq, if_false]
  refine ⟨?_, ?_⟩
  · rw [slotOf_remove_self, hstore, tail_cons]
  · rw [append_nil]

end

end Finish

section Receive

variable {ctx : CABlockWiseContext} {pdu : CoapPdu} {endpoint : CAEndpoint} {data : CAData}
  {b : CoapBlock} {dataLen : Nat}

lemma caReceiveBlockWiseData_block1 (hcode : pdu.code ≠ caEmpty) (h1 : pdu.block1 = some b)
    (h2 : pdu.block2 = none)
    (hok : (caSetNextBlockOption1 ctx pdu endpoint data b dataLen).res = .ok) :
    caReceiveBlockWiseData ctx pdu endpoint data dataLen
      = caSetNextBlockOption1 ctx pdu endpoint data b dataLen := by
  simp only [caReceiveBlockWiseData, if_neg hcode, h1, Option.isNone_some, Bool.false_and,
    Bool.false_eq_true, if_false, receiveBlocks, receiveBlock1, receiveBlock2, h2, hok, ne_eq,
    not_true_eq_false, append_nil]
  generalize caSetNextBlockOption1 ctx pdu endpoint data b dataLen = out at hok ⊢
  rw [← hok]

lemma caReceiveBlockWiseData_block2 (hcode : pdu.code ≠ caEmpty) (h1 : pdu.block1 = none)
    (h2 : pdu.block2 = some b) :
    caReceiveBlockWiseData ctx pdu endpoint data dataLen
      = caSetNextBlockOption2 ctx pdu endpoint data b dataLen := by
  simp [caReceiveBlockWiseData, if_neg hcode, h1, h2, receiveBlocks, receiveBlock1, receiveBlock2]

end Receive

open Blocks

/-- A response body; its messages carry the code of a response, a success code
or any other but 4.08 and 4.13. -/
structure DownloadTransfer extends BodyTransfer where
  isResponse : isRequestCode code = false
  noError : isBlockErrorCode code = false

namespace DownloadTransfer

variable (t : DownloadTransfer)

def pdu (a : Arrival) : CoapPdu :=
  { type := a.type
    code := t.code
    id := a.id
    token := t.token
    block1 := none
    block2 := some (t.option a.num)
    size1 := none
    size2 := t.size a.num
    uri := t.uri
    payload := block 1024 t.payload a.num }

def receive (ctx : CABlockWiseContext) (a : Arrival) : CABlockWiseContext × List Event :=
  let out := caSetNextBlockOption2 ctx (t.pdu a) t.endpoint
    (caGenerateHandlerData t.endpoint (t.pdu a)) (t.option a.num) a.dataLen
  (out.ctx, out.log)

def deliveries (ctx : CABlockWiseContext) (as : List Arrival) : List (List UInt8) :=
  (Runs.run t.receive ctx as).2.filterMap Event.delivered

lemma payload_pdu (a : Arrival) :
    caGetPayloadInfo (caGenerateHandlerData t.endpoint (t.pdu a)) = block 1024 t.payload a.num :=
  caGetPayloadInfo_caGenerateHandlerData _ _

lemma not_request (a : Arrival) : isRequestCode (t.pdu a).code = false :=
  t.isResponse

lemma not_error (a : Arrival) : isBlockErrorCode (t.pdu a).code = false :=
  t.noError

end DownloadTransfer

/-! ## The entry -/

/-- The entry of a client that waits for block `k`. -/
structure AwaitsBlock (t : DownloadTransfer) (k : Nat) (e : CABlockData) : Prop where
  le_last : k ≤ t.last
  num : e.block2.num = k
  szx : e.block2.szx = 6
  received : e.receivedPayloadLen = 1024 * k
  empty : k = 0 → e.payload = none ∧ e.payloadLength = 0
  holds : 0 < k → HoldsPrefix t.payload (1024 * k) e

section Entry

variable {t : DownloadTransfer} {k : Nat} {e : CABlockData} {a : Arrival}

lemma AwaitsBlock.sentData (he : AwaitsBlock t k e) (type : Option BlockType)
    (sentData : CAData) : AwaitsBlock t k { e with type := type, sentData := sentData } := by
  refine ⟨he.le_last, he.num, he.szx, he.received, he.empty, ?_⟩
  intro hk
  obtain ⟨h1, h2, h3, h4⟩ := he.holds hk
  exact ⟨h1, h2, h3, h4⟩

lemma optionItems_response (t : DownloadTransfer) (a : Arrival) {d : CABlockData}
    (hszx : d.block2.szx = 6) (hnum : d.block2.num ≤ a.num) :
    caUpdateBlockOptionItems d (t.pdu a) (t.option a.num) .block2 .option2Response
      = some ⟨a.num + 1, false, 6⟩ := by
  have hle : ¬ d.block2.num > (t.option a.num).num := Nat.not_lt.mpr hnum
  have hneg : ¬ (t.option a.num).szx > d.block2.szx := by
    rw [hszx]
    exact Nat.lt_irrefl 6
  simp only [caUpdateBlockOptionItems, t.not_error, Bool.false_eq_true, if_false, if_neg hle,
    caNegotiateBlockSize, if_neg hneg]
  rfl

lemma update2_gap (he : AwaitsBlock t k e) (hgap : k < a.num) :
    updateFromResponse2 e (t.pdu a) (caGenerateHandlerData t.endpoint (t.pdu a)) (t.option a.num)
        a.dataLen = (some ({ e with block2 := t.option a.num }, .incomplete), []) := by
  have h0 : a.num ≠ 0 := by omega
  have hsize : caIsPayloadLengthInPduWithBlockSizeOption e (t.pdu a).size2 = (false, e) := by
    rw [DownloadTransfer.pdu, t.sizeOption_eq, if_neg h0]
  have hne : (t.option a.num).num ≠ e.block2.num := by
    rw [he.num]
    exact Nat.ne_of_gt hgap
  have hgt : (t.option a.num).num > e.block2.num := by
    rw [he.num]
    exact hgap
  have hstore : ∀ isSize, caUpdatePayloadData e (caGenerateHandlerData t.endpoint (t.pdu a))
      .incomplete isSize .block2 = (e, []) := by
    intro isSize
    simp [caUpdatePayloadData]
  have hitems : caUpdateBlockOptionItems e (t.pdu a) (t.option a.num) .block2 .incomplete
      = some (t.option a.num) := by
    simp [caUpdateBlockOptionItems, t.not_error]
  have hdata : caUpdateBlockData e (t.option a.num) .block2
      = some { e with block2 := t.option a.num } :=
    caUpdateBlockData_block2 e (Nat.le_refl 6)
  simp [updateFromResponse2, hsize, t.not_error, caCheckBlockErrorType_block2_ne hne, if_pos hgt,
    hstore, hitems, hdata]

lemma update2_repeat (he : AwaitsBlock t k e) (hlt : a.num < k) :
    updateFromResponse2 e (t.pdu a) (caGenerateHandlerData t.endpoint (t.pdu a)) (t.option a.num)
        a.dataLen = (none, []) := by
  generalize hdef : caIsPayloadLengthInPduWithBlockSizeOption e (t.pdu a).size2 = opt
  have hnum : opt.2.block2.num = k := by
    rw [← hdef, DownloadTransfer.pdu, t.sizeOption_block2, he.num]
  have hne : (t.option a.num).num ≠ opt.2.block2.num := by
    rw [hnum]
    exact Nat.ne_of_lt hlt
  have hnotgap : ¬ (t.option a.num).num > opt.2.block2.num := by
    rw [hnum]
    exact Nat.not_lt.mpr (Nat.le_of_lt hlt)
  have hitems : caUpdateBlockOptionItems opt.2 (t.pdu a) (t.option a.num) .block2 .option2Response
      = none := by
    have hgt : opt.2.block2.num > (t.option a.num).num := by
      rw [hnum]
      exact hlt
    simp [caUpdateBlockOptionItems, t.not_error, if_pos hgt]
  simp [updateFromResponse2, hdef, t.not_error, caCheckBlockErrorType_block2_ne hne, if_neg hnotgap,
    hitems]

lemma update2_next (hpos : 0 < t.payload.length) (he : AwaitsBlock t k e) (ha : a.num = k) :
    ∃ e' status copies, updateFromResponse2 e (t.pdu a)
        (caGenerateHandlerData t.endpoint (t.pdu a)) (t.option a.num) a.dataLen
        = (some (e', status), List.map Event.copy copies)
      ∧ e'.blockDataId = e.blockDataId ∧ e'.type = e.type ∧ e'.sentData = e.sentData
      ∧ ((k < t.last ∧ status = .option2Response ∧ AwaitsBlock t (k + 1) e'
          ∧ e'.block2 = ⟨k + 1, false, 6⟩)
        ∨ (k = t.last ∧ status = .option2LastBlock
          ∧ HoldsPrefix t.payload t.payload.length e')) := by
  subst ha
  have hk := he.le_last
  generalize hdef : caIsPayloadLengthInPduWithBlockSizeOption e (t.pdu a).size2 = opt
  have hopt : opt = caIsPayloadLengthInPduWithBlockSizeOption e (t.size a.num) := hdef.symm
  have hcheck : caCheckBlockErrorType opt.2 (t.option a.num)
      (caGenerateHandlerData t.endpoint (t.pdu a)) .block2 a.dataLen = (.unknown, opt.2) := by
    rw [hopt]
    refine t.check_next hpos hk (t.payload_pdu a) he.received he.holds .block2 a.dataLen ?_
    show a.num = _
    rw [t.sizeOption_block2, he.num]
  have hstore : HoldsPrefix t.payload (min (1024 * (a.num + 1)) t.payload.length)
      (caUpdatePayloadData opt.2 (caGenerateHandlerData t.endpoint (t.pdu a)) .unknown opt.1
        .block2).1 := by
    rw [hopt]
    exact t.store_next hpos hk (t.payload_pdu a) he.received he.holds .block2
  have hblock2 : (caUpdatePayloadData opt.2 (caGenerateHandlerData t.endpoint (t.pdu a)) .unknown
      opt.1 .block2).1.block2 = e.block2 := by
    rw [(caUpdatePayloadData_keeps opt.2 _ _ .unknown opt.1).2.1, hopt, t.sizeOption_block2]
  have hid : (caUpdatePayloadData opt.2 (caGenerateHandlerData t.endpoint (t.pdu a)) .unknown opt.1
      .block2).1.blockDataId = e.blockDataId := by
    rw [caUpdatePayloadData_blockDataId, ← hdef, caIsPayloadLength_blockDataId]
  have htype : (caUpdatePayloadData opt.2 (caGenerateHandlerData t.endpoint (t.pdu a)) .unknown
      opt.1 .block2).1.type = e.type := by
    rw [(caUpdatePayloadData_keeps opt.2 _ _ .unknown opt.1).2.2.1, hopt, t.sizeOption_type]
  have hsent : (caUpdatePayloadData opt.2 (caGenerateHandlerData t.endpoint (t.pdu a)) .unknown
      opt.1 .block2).1.sentData = e.sentData := by
    rw [(caUpdatePayloadData_keeps opt.2 _ _ .unknown opt.1).2.2.2.1, hopt, t.sizeOption_sentData]
  generalize hres : caUpdatePayloadData opt.2 (caGenerateHandlerData t.endpoint (t.pdu a)) .unknown
    opt.1 .block2 = stored at hstore hblock2 hid htype hsent
  by_cases hlast : a.num < t.last
  · have hnum : stored.1.block2.num ≤ a.num := Nat.le_of_eq (by rw [hblock2, he.num])
    have hitems := optionItems_response t a (by rw [hblock2, he.szx]) hnum
    have hdata : caUpdateBlockData stored.1 ⟨a.num + 1, false, 6⟩ .block2
        = some { stored.1 with block2 := ⟨a.num + 1, false, 6⟩ } :=
      caUpdateBlockData_block2 stored.1 (Nat.le_refl 6)
    have hm : (t.option a.num).m = true := by
      rw [t.option_m]
      simp [hlast]
    refine ⟨{ stored.1 with block2 := ⟨a.num + 1, false, 6⟩ }, .option2Response, stored.2, ?_, hid,
      htype, hsent, .inl ⟨hlast, rfl, ?_, rfl⟩⟩
    · simp [updateFromResponse2, hdef, t.not_error, hcheck, hres, hm, hitems, hdata]
    · have hmin : min (1024 * (a.num + 1)) t.payload.length = 1024 * (a.num + 1) :=
        Nat.min_eq_left (Nat.le_of_lt (t.prefix_le hpos hlast))
      rw [hmin] at hstore
      refine ⟨hlast, rfl, rfl, hstore.received, by omega, fun _ => ?_⟩
      obtain ⟨h1, h2, h3, h4⟩ := hstore
      exact ⟨h1, h2, h3, h4⟩
  have hm : (t.option a.num).m = false := by
    rw [t.option_m]
    simp [hlast]
  have hfull : min (1024 * (a.num + 1)) t.payload.length = t.payload.length := by
    obtain ⟨-, hhi⟩ := lastBlock_bounds (b := 1024) (by omega) hpos
    have heq : a.num = lastBlock 1024 t.payload := Nat.le_antisymm hk (Nat.not_lt.mp hlast)
    rw [heq]
    omega
  rw [hfull] at hstore
  refine ⟨stored.1, .option2LastBlock, stored.2, ?_, hid, htype, hsent,
    .inr ⟨Nat.le_antisymm hk (Nat.not_lt.mp hlast), rfl, hstore⟩⟩
  simp [updateFromResponse2, hdef, t.not_error, hcheck, hres, hm]

lemma update2_empty (hnil : t.payload = []) (he : AwaitsBlock t k e) (ha : a.num ≤ t.last) :
    updateFromResponse2 e (t.pdu a) (caGenerateHandlerData t.endpoint (t.pdu a)) (t.option a.num)
        a.dataLen = (some ({ e with payloadLength := 0 }, .option2LastBlock), []) := by
  have hlast : t.last = 0 := by
    rw [BodyTransfer.last, lastBlock, hnil]
    rfl
  have ha0 : a.num = 0 := by omega
  have hk0 : k = 0 := by
    have hle := he.le_last
    omega
  have hsize : caIsPayloadLengthInPduWithBlockSizeOption e (t.pdu a).size2
      = (true, { e with payloadLength := 0 }) := by
    rw [DownloadTransfer.pdu, t.sizeOption_eq, if_pos ha0, hnil]
    rfl
  have hpay : caGetPayloadInfo (caGenerateHandlerData t.endpoint (t.pdu a)) = [] := by
    rw [t.payload_pdu, hnil, block, drop_nil, take_nil]
  have hm : (t.option a.num).m = false := by
    rw [t.option_m, hlast]
    exact decide_eq_false (Nat.not_lt_zero _)
  have hcheck : caCheckBlockErrorType { e with payloadLength := 0 } (t.option a.num)
      (caGenerateHandlerData t.endpoint (t.pdu a)) .block2 a.dataLen
      = (.unknown, { e with payloadLength := 0 }) := by
    apply caCheckBlockErrorType_next
    · show a.num = e.block2.num
      rw [ha0, he.num, hk0]
    · intro h
      rw [hm] at h
      cases h
    · intro _ h
      exact absurd rfl h
  have hstore : caUpdatePayloadData { e with payloadLength := 0 }
      (caGenerateHandlerData t.endpoint (t.pdu a)) .unknown true .block2
      = ({ e with payloadLength := 0 }, []) := by
    simp [caUpdatePayloadData, hpay]
  simp [updateFromResponse2, hsize, t.not_error, hcheck, hstore, hm]

end Entry

/-! ## One block -/

def Tracks (t : DownloadTransfer) (ctx : CABlockWiseContext) : Prop :=
  ∀ e ∈ slotOf ctx t.id, ∃ k, AwaitsBlock t k e

section Step

variable {t : DownloadTransfer} {ctx : CABlockWiseContext} {a : Arrival}

lemma awaitsBlock_zero {t : DownloadTransfer} {e : CABlockData} (hnum : e.block2.num = 0)
    (hszx : e.block2.szx = 6) (hreceived : e.receivedPayloadLen = 0)
    (hempty : e.payload = none ∧ e.payloadLength = 0) : AwaitsBlock t 0 e :=
  ⟨Nat.zero_le _, hnum, hszx, hreceived, fun _ => hempty, fun h => absurd h (Nat.lt_irrefl 0)⟩

lemma receive2_entry (hc : Tracks t ctx) :
    (slotOf (t.receive ctx a).1 t.id = [] ∧ (t.receive ctx a).2 = [])
      ∨ ∃ ctx' k e rest, caSetNextBlockOption2 ctx (t.pdu a) t.endpoint
            (caGenerateHandlerData t.endpoint (t.pdu a)) (t.option a.num) a.dataLen
          = finishNextStep ctx' (t.pdu a) (caGenerateHandlerData t.endpoint (t.pdu a)) t.id
              (updateFromResponse2 e (t.pdu a) (caGenerateHandlerData t.endpoint (t.pdu a))
                (t.option a.num) a.dataLen)
        ∧ slotOf ctx' t.id = e :: rest ∧ AwaitsBlock t k e ∧ e.blockDataId = t.id
        ∧ ∀ e' ∈ rest, ∃ k, AwaitsBlock t k e' := by
  have hid : pduBlockId (t.pdu a) t.endpoint = t.id := rfl
  have hnotGet : ¬ ((t.option a.num).num = 0 ∧ (t.pdu a).code = caGet ∧ (t.option a.num).m = false)
      := by
    rintro ⟨-, hget, -⟩
    have hreq := t.not_request a
    rw [hget] at hreq
    cases hreq
  have hset : ∀ ctx' e rest, caCheckTheExistOfBlockData ctx t.id (t.pdu a) t.endpoint .block2
      = some ctx' → slotOf ctx' t.id = e :: rest →
      caSetNextBlockOption2 ctx (t.pdu a) t.endpoint
            (caGenerateHandlerData t.endpoint (t.pdu a)) (t.option a.num) a.dataLen
          = finishNextStep ctx' (t.pdu a) (caGenerateHandlerData t.endpoint (t.pdu a)) t.id
              (updateFromResponse2 e (t.pdu a) (caGenerateHandlerData t.endpoint (t.pdu a))
                (t.option a.num) a.dataLen) := by
    intro ctx' e rest hctx' hslot
    simp only [caSetNextBlockOption2, hid, if_neg t.id_length, hctx', get_of_slotOf hslot,
      if_neg hnotGet, t.not_request, Bool.false_eq_true, if_false]
  cases hslot : slotOf ctx t.id with
  | cons e rest =>
    obtain ⟨ctx', hctx', hslot', -⟩ := caCheckTheExist_found (t.pdu a) hslot t.endpoint .block2
    obtain ⟨k, he⟩ := hc e (by rw [hslot]; exact mem_cons_self)
    refine .inr ⟨ctx', k, _, rest, hset ctx' _ rest hctx' hslot', hslot', he.sentData _ _,
      blockDataId_of_get (get_of_slotOf hslot'), ?_⟩
    intro e' he'
    exact hc e' (by rw [hslot]; exact mem_cons_of_mem _ he')
  | nil =>
    cases hnew : (caCreateNewDataSet (t.pdu a) t.endpoint).bind
        (fillResourceUri ctx (pduBlockId (t.pdu a) t.endpoint)) with
    | some cadata =>
      have hslot0 : slotOf ctx (pduBlockId (t.pdu a) t.endpoint) = [] := hslot
      obtain ⟨ctx', hctx', hslot'⟩ := caCheckTheExist_made hslot0 hnew .block2
      refine .inr ⟨ctx', 0, _, [], hset ctx' _ [] hctx' hslot', hslot',
        awaitsBlock_zero rfl rfl rfl ⟨rfl, rfl⟩, blockDataId_of_get (get_of_slotOf hslot'), ?_⟩
      intro e' he'
      cases he'
    | none =>
      -- no token, or a multicast request without a URI: nothing to file the block under
      have hget : caGetBlockDataFromBlockDataList ctx t.id = none := by
        rw [caGetBlockData_eq_head?, hslot]
        rfl
      have hnone : caCheckTheExistOfBlockData ctx t.id (t.pdu a) t.endpoint .block2 = none := by
        rw [hid] at hnew
        rw [caCheckTheExistOfBlockData, hget, hnew]
      refine .inl ?_
      simp only [DownloadTransfer.receive, caSetNextBlockOption2, hid, if_neg t.id_length, hnone]
      refine ⟨?_, trivial⟩
      rw [slotOf_remove_self, hslot]
      rfl

lemma tracks_of_slot {ctx' : CABlockWiseContext} {slot : List CABlockData}
    (hslot : slotOf ctx' t.id = slot) (hall : ∀ e ∈ slot, ∃ k, AwaitsBlock t k e) :
    Tracks t ctx' := by
  rw [Tracks, hslot]
  exact hall

lemma tracks_cons {e : CABlockData} {rest : List CABlockData} {k : Nat}
    (he : AwaitsBlock t k e) (hrest : ∀ e' ∈ rest, ∃ k, AwaitsBlock t k e') :
    ∀ e' ∈ e :: rest, ∃ k, AwaitsBlock t k e' := by
  intro e' he'
  rcases mem_cons.mp he' with rfl | he'
  · exact ⟨k, he⟩
  · exact hrest e' he'

lemma receive2_step (ha : a.num ≤ t.last) (hc : Tracks t ctx) :
    Tracks t (t.receive ctx a).1
      ∧ ∀ p ∈ (t.receive ctx a).2.filterMap Event.delivered, p = t.payload := by
  rcases receive2_entry (a := a) hc with
    ⟨hslot, hlog⟩ | ⟨ctx', k, e, rest, hset, hslot, he, hid, hrest⟩
  · refine ⟨tracks_of_slot hslot (by simp), ?_⟩
    rw [hlog]
    simp
  have hreceive : t.receive ctx a
      = ((finishNextStep ctx' (t.pdu a) (caGenerateHandlerData t.endpoint (t.pdu a)) t.id
            (updateFromResponse2 e (t.pdu a) (caGenerateHandlerData t.endpoint (t.pdu a))
              (t.option a.num) a.dataLen)).ctx,
          (finishNextStep ctx' (t.pdu a) (caGenerateHandlerData t.endpoint (t.pdu a)) t.id
            (updateFromResponse2 e (t.pdu a) (caGenerateHandlerData t.endpoint (t.pdu a))
              (t.option a.num) a.dataLen)).log) := by
    rw [DownloadTransfer.receive, hset]
  rw [hreceive]
  have hstored {data : CABlockData} (hdata : data.blockDataId = t.id) :
      caGetBlockDataFromBlockDataList (modifyBlockData ctx' t.id (fun _ => data)) t.id
        = some data := get_of_slotOf (slotOf_store hslot hdata)
  by_cases hpos : 0 < t.payload.length
  · rcases Nat.lt_trichotomy a.num k with hlt | heq | hgt
    · -- a repetition drops the entry
      rw [update2_repeat he hlt]
      have hslot' := finishNextStep_failed (t.pdu a)
        (caGenerateHandlerData t.endpoint (t.pdu a)) hslot []
      refine ⟨tracks_of_slot hslot' hrest, ?_⟩
      simp [finishNextStep]
    · obtain ⟨e', status, copies, hupd, hid', -, -, hnext⟩ := update2_next hpos he heq
      have hid'' : e'.blockDataId = t.id := hid'.trans hid
      rw [hupd]
      rcases hnext with ⟨-, rfl, he', -⟩ | ⟨-, rfl, hfull⟩
      · -- stored: the next one is asked for
        obtain ⟨sentData, hslot', hdel⟩ := finishNextStep_answered (t.pdu a)
          (caGenerateHandlerData t.endpoint (t.pdu a)) hslot hid'' (.inr rfl)
          (copies.map Event.copy)
        refine ⟨tracks_of_slot hslot' (tracks_cons (he'.sentData _ _) hrest), ?_⟩
        rw [hdel, delivered_copies]
        simp
      -- stored, and the body is complete
      obtain ⟨hslot', hdel⟩ := finishNextStep_responseLast (t.pdu a)
        (caGenerateHandlerData t.endpoint (t.pdu a)) hslot hid'' (copies.map Event.copy)
        (receiveLast_of_complete (t.pdu a) t.endpoint hpos (hstored hid'') hfull)
      refine ⟨tracks_of_slot hslot' hrest, ?_⟩
      rw [hdel, delivered_copies]
      simp
    · -- too far ahead: answered 4.08, and the entry starts over
      have hid' : ({ e with block2 := t.option a.num } : CABlockData).blockDataId = t.id := hid
      rw [update2_gap he hgt]
      cases hres : errorResponse ({ e with block2 := t.option a.num } : CABlockData).sentData
          (t.pdu a) caRequestEntityIncomplete with
      | none =>
        obtain ⟨hslot', hdel⟩ := finishNextStep_unanswered (t.pdu a)
          (caGenerateHandlerData t.endpoint (t.pdu a)) hslot hid' hres []
        refine ⟨tracks_of_slot hslot' hrest, ?_⟩
        rw [hdel]
        simp
      | some res =>
        obtain ⟨hslot', hdel⟩ := finishNextStep_incomplete (t.pdu a)
          (caGenerateHandlerData t.endpoint (t.pdu a)) hslot hid' ⟨res, hres⟩ []
        refine ⟨tracks_of_slot hslot'
          (tracks_cons (awaitsBlock_zero rfl rfl rfl ⟨rfl, rfl⟩) hrest), ?_⟩
        rw [hdel]
        simp
  · -- an empty body has one block, and the message goes up as it came
    have hnil : t.payload = [] := length_eq_zero_iff.mp (by omega)
    have hid' : ({ e with payloadLength := 0 } : CABlockData).blockDataId = t.id := hid
    have hk0 : k = 0 := by
      have hle := he.le_last
      rw [BodyTransfer.last, lastBlock, hnil] at hle
      exact Nat.le_zero.mp hle
    have hlast := caReceiveLastBlock_unbuffered (caGenerateHandlerData t.endpoint (t.pdu a))
      (hstored hid') (he.empty hk0).1
    rw [update2_empty hnil he ha]
    obtain ⟨hslot', hdel⟩ := finishNextStep_responseLast (P := t.payload) (t.pdu a)
      (caGenerateHandlerData t.endpoint (t.pdu a)) hslot hid' [] (by
        rw [hlast]
        refine ⟨rfl, ?_⟩
        simp [Event.delivered, t.payload_pdu, hnil, block])
    refine ⟨tracks_of_slot hslot' hrest, ?_⟩
    rw [hdel]
    simp

end Step

/-- **Block2 integrity.** A client whose entries for the transfer, if it has
any, are fresh is fed any sequence of blocks of the body: every payload it hands
up is the body. -/
theorem block2_integrity (t : DownloadTransfer) (ctx : CABlockWiseContext)
    (hfresh : ∀ e ∈ slotOf ctx t.id, AwaitsBlock t 0 e) (as : List Arrival)
    (has : ∀ a ∈ as, a.num ≤ t.last) :
    ∀ p ∈ t.deliveries ctx as, p = t.payload := by
  have hstart : Tracks t ctx := fun e he => ⟨0, hfresh e he⟩
  have hlog : ∀ ev ∈ (Runs.run t.receive ctx as).2, ∀ p, Event.delivered ev = some p →
      p = t.payload := by
    refine Runs.run_log (Tracks t) (fun a => a.num ≤ t.last) ?_ hstart has
    intro ctx a ha hc
    obtain ⟨hc', hdel⟩ := receive2_step ha hc
    refine ⟨hc', ?_⟩
    intro ev hev p hp
    exact hdel p (mem_filterMap.mpr ⟨ev, hev, hp⟩)
  intro p hp
  obtain ⟨ev, hev, hev'⟩ := mem_filterMap.mp hp
  exact hlog ev hev p hev'

def sampleDownload : DownloadTransfer :=
  { token := tokenOne
    endpoint := ⟨1, addrOne, 5683⟩
    code := 69
    uri := none
    payload := [1, 2, 3]
    addr_lt := addrOne_lt
    isResponse := isRequestCode_content
    noError := isBlockErrorCode_content }

theorem block2_integrity_sample :
    sampleDownload.deliveries ⟨[], []⟩ [⟨0, .acknowledge, 1, 20⟩, ⟨0, .confirm, 2, 20⟩]
        = [[1, 2, 3], [1, 2, 3]]
      ∧ ∀ p ∈ sampleDownload.deliveries ⟨[], []⟩ [⟨0, .acknowledge, 1, 20⟩, ⟨0, .confirm, 2, 20⟩],
        p = sampleDownload.payload := by
  refine ⟨by decide, block2_integrity sampleDownload ⟨[], []⟩ ?_ _ ?_⟩
  · intro e he
    cases he
  · intro a ha
    simp only [mem_cons, not_mem_nil, or_false] at ha
    rcases ha with rfl | rfl
    · exact Nat.zero_le _
    · exact Nat.zero_le _

end Iochibity.Coap
