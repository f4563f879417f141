/-
Isolation of transfers.
-/
import Iochibity.Coap.BlockTransfer

namespace Iochibity.Coap

open List

lemma portBytes_injective {p q : UInt16} (h : portBytes p = portBytes q) : p = q := by
  simp only [portBytes, List.cons.injEq, and_true] at h
  obtain ⟨hhi, hlo⟩ := h
  have hhi' := congrArg UInt8.toNat hhi
  have hlo' := congrArg UInt8.toNat hlo
  simp only [UInt16.toNat_toUInt8, UInt16.toNat_shiftRight] at hhi' hlo'
  have hshift : ∀ r : UInt16, r.toNat >>> ((8 : UInt16).toNat % 16) = r.toNat / 256 := by
    intro r
    rw [show (8 : UInt16).toNat % 16 = 8 from rfl, Nat.shiftRight_eq_div_pow]
  rw [hshift, hshift] at hhi'
  have hp : p.toNat < 65536 := p.toNat_lt
  have hq : q.toNat < 65536 := q.toNat_lt
  apply UInt16.toNat_inj.mp
  omega

lemma caCreateBlockDatablockId_injective {tok₁ tok₂ : CAToken} {addr₁ addr₂ : CString}
    {port₁ port₂ : UInt16} (hlen : tok₁.bytes.length = tok₂.bytes.length)
    (h : caCreateBlockDatablockId tok₁ addr₁ port₁ = caCreateBlockDatablockId tok₂ addr₂ port₂) :
    (tok₁, addr₁, port₁) = (tok₂, addr₂, port₂) := by
  simp only [caCreateBlockDatablockId, append_assoc] at h
  obtain ⟨htok, hrest⟩ := append_inj h hlen
  obtain ⟨hport, haddr⟩ := append_inj hrest rfl
  have htok' : tok₁ = tok₂ := by
    cases tok₁
    cases tok₂
    cases htok
    rfl
  have haddr' : addr₁ = addr₂ := by
    cases addr₁
    cases addr₂
    cases haddr
    rfl
  rw [htok', haddr', portBytes_injective hport]

/-- A token of `k` bytes `0x31`, the digit `1`. -/
def onesToken (k : Nat) (hk : k ≤ caMaxTokenLen) : CAToken :=
  ⟨List.replicate k 0x31, by rw [length_replicate]; exact hk⟩

def onesAddr (k : Nat) : CString :=
  ⟨List.replicate k 0x31, fun h => absurd (eq_of_mem_replicate h) (by decide)⟩

lemma caCreateBlockDatablockId_ones (k a : Nat) (hk : k ≤ caMaxTokenLen) :
    caCreateBlockDatablockId (onesToken k hk) (onesAddr a) 0x3131
      = List.replicate (k + 2 + a) 0x31 := by
  have hport : portBytes 0x3131 = List.replicate 2 0x31 := by decide
  simp only [caCreateBlockDatablockId, onesToken, onesAddr, hport, replicate_append_replicate]

/-! ## Two lists that agree on one transfer -/

/-- The two lists have the same entries under `id`. -/
def Agree (id : CABlockDataID) (ctx₁ ctx₂ : CABlockWiseContext) : Prop :=
  slotOf ctx₁ id = slotOf ctx₂ id ∧ ctx₁.multicastDataList = ctx₂.multicastDataList

/-- Two calls returned the same result, raised the same events and left lists
that agree on `id`. -/
def AgreeOut (id : CABlockDataID) (o₁ o₂ : Outcome) : Prop :=
  o₁.res = o₂.res ∧ o₁.log = o₂.log ∧ Agree id o₁.ctx o₂.ctx

section Agree

variable {id : CABlockDataID} {ctx₁ ctx₂ : CABlockWiseContext} {pdu : CoapPdu}
  {endpoint : CAEndpoint} {receivedData : CAData}

section

variable (h : Agree id ctx₁ ctx₂)
include h

lemma Agree.get :
    caGetBlockDataFromBlockDataList ctx₁ id = caGetBlockDataFromBlockDataList ctx₂ id := by
  rw [caGetBlockData_eq_head?, caGetBlockData_eq_head?, h.1]

lemma Agree.modify {f : CABlockData → CABlockData}
    (hf : ∀ e, e.blockDataId = id → (f e).blockDataId = id) :
    Agree id (modifyBlockData ctx₁ id f) (modifyBlockData ctx₂ id f) := by
  refine ⟨?_, h.2⟩
  rw [slotOf_modify_self hf, slotOf_modify_self hf, h.1]

lemma Agree.remove :
    Agree id (caRemoveBlockDataFromList ctx₁ id) (caRemoveBlockDataFromList ctx₂ id) := by
  refine ⟨?_, h.2⟩
  rw [slotOf_remove_self, slotOf_remove_self, h.1]

lemma Agree.append (e : CABlockData) :
    Agree id { ctx₁ with dataList := ctx₁.dataList ++ [e] }
      { ctx₂ with dataList := ctx₂.dataList ++ [e] } := by
  refine ⟨?_, h.2⟩
  have hslot : slotOf ctx₁ id = slotOf ctx₂ id := h.1
  simp only [slotOf, FirstMatch.slot_append] at hslot ⊢
  rw [hslot]

lemma caCheckTheExist_agree (blockType : BlockType) :
    (caCheckTheExistOfBlockData ctx₁ id pdu endpoint blockType = none
      ∧ caCheckTheExistOfBlockData ctx₂ id pdu endpoint blockType = none)
    ∨ ∃ ctx₁' ctx₂', caCheckTheExistOfBlockData ctx₁ id pdu endpoint blockType = some ctx₁'
      ∧ caCheckTheExistOfBlockData ctx₂ id pdu endpoint blockType = some ctx₂'
      ∧ Agree id ctx₁' ctx₂' := by
  have hfill : fillResourceUri ctx₁ id = fillResourceUri ctx₂ id := by
    funext cadata
    simp [fillResourceUri, caGetBlockMulticastDataFromListWithSeed, h.2]
  unfold caCheckTheExistOfBlockData
  rw [h.get, hfill]
  cases caGetBlockDataFromBlockDataList ctx₂ id with
  | some e => exact .inr ⟨_, _, rfl, rfl, h.modify (fun _ he => he)⟩
  | none =>
    cases (caCreateNewDataSet pdu endpoint).bind (fillResourceUri ctx₂ id) with
    | none => exact .inl ⟨rfl, rfl⟩
    | some cadata =>
      exact .inr ⟨_, _, rfl, rfl, (h.append (newBlockData cadata)).modify (fun _ he => he)⟩

end

lemma caSendBlockMessage_agree (hack : ¬ wantsEmptyAck pdu) (h : Agree id ctx₁ ctx₂) :
    AgreeOut id (caSendBlockMessage ctx₁ pdu id) (caSendBlockMessage ctx₂ pdu id) := by
  unfold caSendBlockMessage
  rw [h.get]
  cases caGetBlockDataFromBlockDataList ctx₂ id with
  | none => exact ⟨rfl, rfl, h⟩
  | some e =>
    dsimp only
    by_cases hcode : isRequestCode pdu.code = true
    · rw [if_pos hcode, if_pos hcode]
      exact ⟨rfl, rfl, h.modify (fun _ he => he)⟩
    rw [if_neg hcode, if_neg hcode]
    have hcon : pdu.type ≠ .confirm := by
      intro hcon
      exact hack ⟨hcon, by simpa using hcode⟩
    cases e.sentData.requestInfo with
    | none => exact ⟨rfl, rfl, h.modify (fun _ he => he)⟩
    | some req =>
      simp only [if_neg hcon]
      exact ⟨rfl, rfl, h.modify (fun _ he => he)⟩

lemma caSendErrorMessage_agree (h : Agree id ctx₁ ctx₂) (status : CABlockState)
    (responseResult : Nat) :
    AgreeOut id (caSendErrorMessage ctx₁ pdu status responseResult id)
      (caSendErrorMessage ctx₂ pdu status responseResult id) := by
  unfold caSendErrorMessage
  rw [h.get]
  cases caGetBlockDataFromBlockDataList ctx₂ id with
  | none => exact ⟨rfl, rfl, h⟩
  | some e =>
    dsimp only
    cases errorResponse e.sentData pdu responseResult with
    | none => exact ⟨rfl, rfl, h⟩
    | some res =>
      dsimp only
      by_cases hstatus : status = .incomplete
      · rw [if_pos hstatus, if_pos hstatus]
        exact ⟨rfl, rfl, h.modify (fun _ he => he)⟩
      rw [if_neg hstatus, if_neg hstatus]
      exact ⟨rfl, rfl, h⟩

lemma caReceiveLastBlock_agree (h : Agree id ctx₁ ctx₂) :
    caReceiveLastBlock ctx₁ id receivedData = caReceiveLastBlock ctx₂ id receivedData := by
  unfold caReceiveLastBlock caGetPayloadFromBlockDataList
  rw [h.get]

lemma caProcessNextStep_agree (hack : ¬ wantsEmptyAck pdu) (h : Agree id ctx₁ ctx₂)
    (status : CABlockState) :
    AgreeOut id (caProcessNextStep ctx₁ pdu receivedData status id)
      (caProcessNextStep ctx₂ pdu receivedData status id) := by
  unfold caProcessNextStep
  cases status with
  | option2Request =>
    dsimp only
    rw [h.get]
    cases caGetBlockDataFromBlockDataList ctx₂ id with
    | none => exact ⟨rfl, rfl, h⟩
    | some e =>
      dsimp only
      cases e.sentData.responseInfo with
      | none => exact ⟨rfl, rfl, h⟩
      | some res => exact ⟨rfl, rfl, h.modify (fun _ he => he)⟩
  | option1Response => exact caSendBlockMessage_agree hack h
  | option2Response => exact caSendBlockMessage_agree hack h
  | option1RequestBlock => exact caSendBlockMessage_agree hack h
  | option2LastBlock =>
    dsimp only
    rw [caReceiveLastBlock_agree h]
    rcases caReceiveLastBlock ctx₂ id receivedData with ⟨res, log⟩
    cases res with
    | ok => exact ⟨rfl, rfl, h.remove⟩
    | failed | memoryAllocFailed | requestTimeout | notSupported => exact ⟨rfl, rfl, h⟩
  | option1RequestLastBlock =>
    dsimp only
    rw [caReceiveLastBlock_agree h]
    exact ⟨rfl, rfl, h⟩
  | incomplete => exact caSendErrorMessage_agree h _ _
  | tooLarge =>
    dsimp only
    by_cases hreq : receivedData.requestInfo.isSome = true
    · rw [if_pos hreq, if_pos hreq]
      exact caSendErrorMessage_agree h _ _
    rw [if_neg hreq, if_neg hreq]
    by_cases hres : receivedData.responseInfo.isSome = true
    · rw [if_pos hres, if_pos hres]
      exact caSendBlockMessage_agree hack h
    rw [if_neg hres, if_neg hres]
    exact ⟨rfl, rfl, h⟩
  | option2FirstBlock => exact ⟨rfl, rfl, h⟩
  | unknown => exact ⟨rfl, rfl, h⟩
  | receivedAlready => exact ⟨rfl, rfl, h⟩

lemma finishNextStep_agree (hack : ¬ wantsEmptyAck pdu) (h : Agree id ctx₁ ctx₂) (upd : Update)
    (hupd : ∀ data status, upd.1 = some (data, status) → data.blockDataId = id) :
    AgreeOut id (finishNextStep ctx₁ pdu receivedData id upd)
      (finishNextStep ctx₂ pdu receivedData id upd) := by
  obtain ⟨upd, log⟩ := upd
  cases upd with
  | none => exact ⟨rfl, rfl, h.remove⟩
  | some r =>
    obtain ⟨data, status⟩ := r
    have hdata : data.blockDataId = id := hupd data status rfl
    have hmod : Agree id (modifyBlockData ctx₁ id (fun _ => data))
        (modifyBlockData ctx₂ id (fun _ => data)) := h.modify (fun _ _ => hdata)
    have hnext : AgreeOut id
        (caProcessNextStep (modifyBlockData ctx₁ id (fun _ => data)) pdu receivedData status id)
        (caProcessNextStep (modifyBlockData ctx₂ id (fun _ => data)) pdu receivedData status id) :=
      caProcessNextStep_agree hack hmod status
    obtain ⟨hres, hlog, hctx⟩ := hnext
    simp only [finishNextStep, hres, hlog]
    split
    · exact ⟨rfl, rfl, hctx⟩
    · exact ⟨rfl, rfl, hctx.remove⟩

lemma setNextFromResponse1_agree (hack : ¬ wantsEmptyAck pdu) {data : CABlockData}
    (h : Agree data.blockDataId ctx₁ ctx₂) (block : CoapBlock) :
    AgreeOut data.blockDataId
      (setNextFromResponse1 ctx₁ data pdu receivedData block data.blockDataId)
      (setNextFromResponse1 ctx₂ data pdu receivedData block data.blockDataId) := by
  unfold setNextFromResponse1
  rw [caReceiveLastBlock_agree h]
  split
  · split
    · exact ⟨rfl, rfl, h.modify (fun _ _ => rfl)⟩
    · exact ⟨rfl, rfl, h.remove⟩
  cases caUpdateBlockOptionItems data pdu block .block1 .option1Response with
  | none => exact ⟨rfl, rfl, h⟩
  | some block' =>
    refine finishNextStep_agree hack h _ ?_
    intro data' status hupd
    obtain ⟨d, hd, heq⟩ := Option.map_eq_some_iff.mp hupd
    cases heq
    exact caUpdateBlockData_blockDataId hd

section

variable (hack : ¬ wantsEmptyAck pdu) (h : Agree (pduBlockId pdu endpoint) ctx₁ ctx₂)
include h hack

lemma caSetNextBlockOption1_agree (block : CoapBlock) (dataLen : Nat) :
    AgreeOut (pduBlockId pdu endpoint)
      (caSetNextBlockOption1 ctx₁ pdu endpoint receivedData block dataLen)
      (caSetNextBlockOption1 ctx₂ pdu endpoint receivedData block dataLen) := by
  unfold caSetNextBlockOption1
  dsimp only
  split
  · exact ⟨rfl, rfl, h⟩
  rcases caCheckTheExist_agree h .block1 with ⟨h₁, h₂⟩ | ⟨ctx₁', ctx₂', h₁, h₂, h'⟩
  · rw [h₁, h₂]
    exact ⟨rfl, rfl, h.remove⟩
  rw [h₁, h₂]
  dsimp only
  rw [h'.get]
  cases hdata : caGetBlockDataFromBlockDataList ctx₂' (pduBlockId pdu endpoint) with
  | none => exact ⟨rfl, rfl, h'.remove⟩
  | some data =>
    have hid : data.blockDataId = pduBlockId pdu endpoint := blockDataId_of_get hdata
    dsimp only
    split
    · refine finishNextStep_agree hack h' _ ?_
      intro data' status hupd
      rw [updateFromRequest1_blockDataId hupd, hid]
    rw [← hid] at h' ⊢
    exact setNextFromResponse1_agree hack h' block

lemma caSetNextBlockOption2_agree (block : CoapBlock) (dataLen : Nat) :
    AgreeOut (pduBlockId pdu endpoint)
      (caSetNextBlockOption2 ctx₁ pdu endpoint receivedData block dataLen)
      (caSetNextBlockOption2 ctx₂ pdu endpoint receivedData block dataLen) := by
  unfold caSetNextBlockOption2
  dsimp only
  split
  · exact ⟨rfl, rfl, h⟩
  rcases caCheckTheExist_agree h .block2 with ⟨h₁, h₂⟩ | ⟨ctx₁', ctx₂', h₁, h₂, h'⟩
  · rw [h₁, h₂]
    exact ⟨rfl, rfl, h.remove⟩
  rw [h₁, h₂]
  dsimp only
  rw [h'.get]
  cases hdata : caGetBlockDataFromBlockDataList ctx₂' (pduBlockId pdu endpoint) with
  | none => exact ⟨rfl, rfl, h'.remove⟩
  | some data =>
    refine finishNextStep_agree hack h' _ ?_
    intro data' status hupd
    rw [← blockDataId_of_get hdata]
    split at hupd
    · exact updateFromFirstGet_blockDataId hupd
    split at hupd
    · exact updateFromRequest2_blockDataId hupd
    · exact updateFromResponse2_blockDataId hupd

lemma receiveWithoutBlock_agree (dataLen : Nat) :
    AgreeOut (pduBlockId pdu endpoint) (receiveWithoutBlock ctx₁ pdu endpoint receivedData dataLen)
      (receiveWithoutBlock ctx₂ pdu endpoint receivedData dataLen) := by
  unfold receiveWithoutBlock
  dsimp only
  rw [h.get]
  split
  · cases caGetBlockDataFromBlockDataList ctx₂ (pduBlockId pdu endpoint) with
    | none => exact ⟨rfl, rfl, h⟩
    | some data =>
      dsimp only
      cases data.type with
      | none => exact ⟨rfl, rfl, h⟩
      | some blockType =>
        cases blockType with
        | block1 => exact caSetNextBlockOption1_agree hack h _ dataLen
        | block2 =>
          have hset : AgreeOut (pduBlockId pdu endpoint)
              (caSetNextBlockOption2 ctx₁ pdu endpoint receivedData data.block2 dataLen)
              (caSetNextBlockOption2 ctx₂ pdu endpoint receivedData data.block2 dataLen) :=
            caSetNextBlockOption2_agree hack h data.block2 dataLen
          obtain ⟨hres, hlog, hctx⟩ := hset
          dsimp only
          rw [hres]
          split
          · exact ⟨hres, hlog, hctx⟩
          · exact ⟨rfl, hlog, hctx⟩
  split
  · exact ⟨rfl, rfl, h.remove⟩
  · exact ⟨rfl, rfl, h⟩

lemma receiveBlocks_agree (dataLen : Nat) :
    AgreeOut (pduBlockId pdu endpoint) (receiveBlocks ctx₁ pdu endpoint receivedData dataLen)
      (receiveBlocks ctx₂ pdu endpoint receivedData dataLen) := by
  have h1 : AgreeOut (pduBlockId pdu endpoint)
      (receiveBlock1 ctx₁ pdu endpoint receivedData dataLen)
      (receiveBlock1 ctx₂ pdu endpoint receivedData dataLen) := by
    unfold receiveBlock1
    split
    · exact ⟨rfl, rfl, h⟩
    · exact caSetNextBlockOption1_agree hack h _ dataLen
  obtain ⟨hres1, hlog1, hctx1⟩ := h1
  have h2 : AgreeOut (pduBlockId pdu endpoint)
      (receiveBlock2 (receiveBlock1 ctx₁ pdu endpoint receivedData dataLen).ctx pdu endpoint
        receivedData dataLen)
      (receiveBlock2 (receiveBlock1 ctx₂ pdu endpoint receivedData dataLen).ctx pdu endpoint
        receivedData dataLen) := by
    unfold receiveBlock2
    split
    · exact ⟨rfl, rfl, hctx1⟩
    · exact caSetNextBlockOption2_agree hack hctx1 _ dataLen
  obtain ⟨hres2, hlog2, hctx2⟩ := h2
  unfold receiveBlocks
  dsimp only
  rw [hres1]
  split
  · exact ⟨hres1, hlog1, hctx1⟩
  · exact ⟨hres2, by rw [hlog1, hlog2], hctx2⟩

end

lemma receive_empty_log (hcode : pdu.code = caEmpty) (ctx : CABlockWiseContext) (dataLen : Nat) :
    (caReceiveBlockWiseData ctx pdu endpoint receivedData dataLen).log = [] := by
  unfold caReceiveBlockWiseData
  rw [if_pos hcode]
  split
  · rfl
  unfold receiveEmpty
  dsimp only
  split
  · split <;> rfl
  · rfl

lemma caReceiveBlockWiseData_log_agree (hack : pdu.code ≠ caEmpty → ¬ wantsEmptyAck pdu)
    (h : Agree (pduBlockId pdu endpoint) ctx₁ ctx₂) (dataLen : Nat) :
    (caReceiveBlockWiseData ctx₁ pdu endpoint receivedData dataLen).log
      = (caReceiveBlockWiseData ctx₂ pdu endpoint receivedData dataLen).log := by
  by_cases hcode : pdu.code = caEmpty
  · rw [receive_empty_log hcode, receive_empty_log hcode]
  unfold caReceiveBlockWiseData
  rw [if_neg hcode, if_neg hcode]
  split
  · exact (receiveWithoutBlock_agree (hack hcode) h dataLen).2.1
  · exact (receiveBlocks_agree (hack hcode) h dataLen).2.1

end Agree

/-! ## When transfers keep apart -/

def CABlockWiseContext.without (ctx : CABlockWiseContext) (id : CABlockDataID) :
    CABlockWiseContext :=
  { ctx with dataList := ctx.dataList.filter (·.blockDataId ≠ id) }

lemma agree_without {id id' : CABlockDataID} (hne : id ≠ id') (ctx : CABlockWiseContext) :
    Agree id ctx (ctx.without id') := by
  refine ⟨?_, rfl⟩
  simp only [slotOf, FirstMatch.slot, CABlockWiseContext.without, filter_filter]
  apply filter_congr
  intro e _
  by_cases he : e.blockDataId = id
  · simp [he, hne]
  · simp [he]

/-- PDUs of type `type` and code `code` of the first transfer keep away from the second: the ids
differ, matching does not confuse them, and whatever the list holds, such a PDU leaves the second
transfer's entries alone and makes nothing of them. -/
structure KeepsApart (tok₁ : CAToken) (ep₁ : CAEndpoint) (tok₂ : CAToken) (ep₂ : CAEndpoint)
    (type : CAMessageType) (code : Nat) : Prop where
  ids_ne : caCreateBlockDatablockId tok₁ ep₁.addr ep₁.port
    ≠ caCreateBlockDatablockId tok₂ ep₂.addr ep₂.port
  no_match : ∀ e : CABlockData, e.blockDataId = caCreateBlockDatablockId tok₂ ep₂.addr ep₂.port →
    caBlockidMatches e (caCreateBlockDatablockId tok₁ ep₁.addr ep₁.port) = false
  entries_kept : ∀ ctx pdu receivedData dataLen, pdu.type = type → pdu.code = code →
    transferToken ctx pdu ep₁ receivedData = some tok₁ →
    slotOf (caReceiveBlockWiseData ctx pdu ep₁ receivedData dataLen).ctx
        (caCreateBlockDatablockId tok₂ ep₂.addr ep₂.port)
      = slotOf ctx (caCreateBlockDatablockId tok₂ ep₂.addr ep₂.port)
  not_completed : ∀ ctx pdu receivedData dataLen, pdu.type = type → pdu.code = code →
    transferToken ctx pdu ep₁ receivedData = some tok₁ →
    (caReceiveBlockWiseData ctx pdu ep₁ receivedData dataLen).log
      = (caReceiveBlockWiseData (ctx.without (caCreateBlockDatablockId tok₂ ep₂.addr ep₂.port))
          pdu ep₁ receivedData dataLen).log

lemma keepsApart_of_ids_ne {tok₁ tok₂ : CAToken} {ep₁ ep₂ : CAEndpoint} {type : CAMessageType}
    {code : Nat} (hack : ¬ (type = .confirm ∧ isRequestCode code = false ∧ code ≠ caEmpty))
    (hne : caCreateBlockDatablockId tok₁ ep₁.addr ep₁.port
      ≠ caCreateBlockDatablockId tok₂ ep₂.addr ep₂.port) :
    KeepsApart tok₁ ep₁ tok₂ ep₂ type code := by
  have hpdu : ∀ pdu : CoapPdu, pdu.type = type → pdu.code = code → pdu.code ≠ caEmpty →
      ¬ wantsEmptyAck pdu := by
    rintro pdu rfl rfl hempty ⟨hcon, hreq⟩
    exact hack ⟨hcon, hreq, hempty⟩
  refine ⟨hne, ?_, ?_, ?_⟩
  · intro e he
    simp only [caBlockidMatches, he, decide_eq_false_iff_not]
    exact fun h => hne h.symm
  · intro ctx pdu receivedData dataLen htype hcode htoken
    refine (caReceiveBlockWiseData_edits ctx dataLen (hpdu pdu htype hcode)).slotOf_eq ?_
    rintro ⟨token, htoken', hid⟩
    rw [htoken] at htoken'
    cases htoken'
    exact hne hid.symm
  · intro ctx pdu receivedData dataLen htype hcode htoken
    by_cases hempty : pdu.code = caEmpty
    · rw [receive_empty_log hempty, receive_empty_log hempty]
    have hown : pduBlockId pdu ep₁ = caCreateBlockDatablockId tok₁ ep₁.addr ep₁.port := by
      rw [transferToken, if_neg hempty] at htoken
      cases htoken
      rfl
    refine caReceiveBlockWiseData_log_agree (hpdu pdu htype hcode) ?_ dataLen
    rw [hown]
    exact agree_without hne ctx

/-! ## The confirmable response -/

lemma caUpdateBlockOptionItems_first (data : CABlockData) (hdata : data.block1 = ⟨0, false, 6⟩)
    (pdu : CoapPdu) :
    ∃ block, caUpdateBlockOptionItems data pdu ⟨0, true, 6⟩ .block1 .option1Response = some block
      ∧ block.szx = 6 := by
  unfold caUpdateBlockOptionItems
  by_cases herr : isBlockErrorCode pdu.code = true
  · rw [if_pos herr]
    simp only [isBlockErrorCode, Bool.or_eq_true, beq_iff_eq] at herr
    unfold caHandleBlockErrorResponse
    by_cases h408 : caResponseCode pdu.code = caRequestEntityIncomplete
    · rw [if_pos h408]
      exact ⟨_, rfl, rfl⟩
    rw [if_neg h408, if_pos (herr.resolve_left h408)]
    exact ⟨_, rfl, rfl⟩
  rw [if_neg herr]
  dsimp only
  rw [if_neg (by rw [hdata]; exact Nat.lt_irrefl 0)]
  refine ⟨_, rfl, ?_⟩
  simp only [caNegotiateBlockSize, hdata]
  split
  · simp
  · simp

/-- **The stray ACK.** A confirmable response that continues a transfer has the data set overwritten
of the first entry under the port and address of the stored request's peer, whoever that entry
belongs to. -/
lemma slotOf_confirmable_response {ctx : CABlockWiseContext} {pdu : CoapPdu}
    {endpoint : CAEndpoint} {e : CABlockData} {req : CARequestInfo} {id' : CABlockDataID}
    (receivedData : CAData) (dataLen : Nat) (hlen : (pduBlockId pdu endpoint).length ≤ 255)
    (hack : wantsEmptyAck pdu)
    (hget : caGetBlockDataFromBlockDataList ctx (pduBlockId pdu endpoint) = some e)
    (hblock : e.block1 = ⟨0, false, 6⟩) (hreq : e.sentData.requestInfo = some req)
    (hid' : id' = emptyAckId e.sentData.remoteEndpoint) (hne : id' ≠ pduBlockId pdu endpoint) :
    slotOf (caSetNextBlockOption1 ctx pdu endpoint receivedData ⟨0, true, 6⟩ dataLen).ctx id'
      = (slotOf ctx id').modifyHead (fun e' => { e' with
          sentData := emptyAckData e.sentData.remoteEndpoint req.info.messageId }) := by
  obtain ⟨hcon, hcode⟩ := hack
  have hpos :
      ¬ ((pduBlockId pdu endpoint).length < 1 ∨ 255 < (pduBlockId pdu endpoint).length) := by
    have htwo : 2 ≤ (pduBlockId pdu endpoint).length := by
      simp only [pduBlockId, caCreateBlockDatablockId, portBytes, length_append,
        length_cons, length_nil]
      omega
    omega
  have hexist : caCheckTheExistOfBlockData ctx (pduBlockId pdu endpoint) pdu endpoint .block1
      = some (caUpdateBlockOptionType ctx (pduBlockId pdu endpoint) .block1) := by
    rw [caCheckTheExistOfBlockData, hget]
  have hget' : caGetBlockDataFromBlockDataList
      (caUpdateBlockOptionType ctx (pduBlockId pdu endpoint) .block1) (pduBlockId pdu endpoint)
      = some { e with type := some .block1 } := by
    rw [caUpdateBlockOptionType, caGetBlockData_modify, hget]
    · rfl
    · exact fun _ he => he
  have hdataId : e.blockDataId = pduBlockId pdu endpoint := blockDataId_of_get hget
  obtain ⟨block, hitems, hszx⟩ :=
    caUpdateBlockOptionItems_first { e with type := some .block1 } hblock pdu
  have hupd : caUpdateBlockData { e with type := some .block1 } block .block1
      = some { e with type := some .block1, block1 := block } := by
    rw [caUpdateBlockData, if_neg (by rw [hszx]; exact Nat.lt_irrefl 6)]
  -- the entry as it is when the answer is sent
  have hget'' : caGetBlockDataFromBlockDataList
      (modifyBlockData (caUpdateBlockOptionType ctx (pduBlockId pdu endpoint) .block1)
        (pduBlockId pdu endpoint) (fun _ => { e with type := some .block1, block1 := block }))
      (pduBlockId pdu endpoint) = some { e with type := some .block1, block1 := block } := by
    rw [caGetBlockData_modify, hget']
    · rfl
    · exact fun _ _ => hdataId
  simp only [caSetNextBlockOption1, if_neg hpos, hexist, hget', hcode, Bool.false_eq_true,
    if_false, setNextFromResponse1, Bool.not_true, Bool.false_and, hitems, finishNextStep, hupd,
    Option.map_some, caProcessNextStep, caSendBlockMessage, hget'', hreq, if_pos hcon,
    caSendDirectEmptyResponse_eq, if_true]
  rw [slotOf_modify_ne _ hne, hid', slotOf_modify_self, ← hid', slotOf_modify_ne _ hne,
    caUpdateBlockOptionType, slotOf_modify_ne _ hne]
  · exact fun _ he => he
  · exact fun _ _ => hdataId
  · exact fun _ he => he
  · exact fun _ he => he

/-! ## Which kinds of transfers keep apart -/

/-- The peer with address `11…1` of `k` digits at port 12593. -/
def onesEndpoint (k : Nat) : CAEndpoint := ⟨1, onesAddr k, 0x3131⟩

def getRequest (token : CAToken) (endpoint : CAEndpoint) : CAData :=
  { remoteEndpoint := endpoint
    requestInfo := some ⟨caGet, { CAInfo.zero with token := token }, false⟩
    responseInfo := none
    dataType := some .requestData }

def twoRequests (k : Nat) (hk : k ≤ caMaxTokenLen) : CABlockWiseContext :=
  { dataList :=
      [newBlockData (getRequest (onesToken 1 (by decide)) (onesEndpoint (k + 1))),
        newBlockData (getRequest (onesToken k hk) (onesEndpoint 1))]
    multicastDataList := [] }

def confirmableResponse (code : Nat) (token : CAToken) : CoapPdu :=
  { type := .confirm, code := code, id := 0, token := token, block1 := some ⟨0, true, 6⟩
    block2 := none, size1 := none, size2 := none, uri := none, payload := [] }

lemma confirmableResponse_breaks {k : Nat} (hk : k ≤ caMaxTokenLen) {code : Nat}
    (hcode : isRequestCode code = false) (hempty : code ≠ caEmpty) (receivedData : CAData) :
    slotOf (caReceiveBlockWiseData (twoRequests k hk) (confirmableResponse code (onesToken k hk))
        (onesEndpoint 2) receivedData 0).ctx
        (caCreateBlockDatablockId (onesToken k hk) (onesEndpoint 1).addr (onesEndpoint 1).port)
      ≠ slotOf (twoRequests k hk)
        (caCreateBlockDatablockId (onesToken k hk) (onesEndpoint 1).addr
          (onesEndpoint 1).port) := by
  have hkeight : k ≤ 8 := hk
  have hid1 :
      (newBlockData (getRequest (onesToken 1 (by decide)) (onesEndpoint (k + 1)))).blockDataId
      = List.replicate (1 + 2 + (k + 1)) 0x31 := caCreateBlockDatablockId_ones 1 (k + 1) (by decide)
  have hid2 : (newBlockData (getRequest (onesToken k hk) (onesEndpoint 1))).blockDataId
      = List.replicate (k + 2 + 1) 0x31 := caCreateBlockDatablockId_ones k 1 hk
  have hpdu : pduBlockId (confirmableResponse code (onesToken k hk)) (onesEndpoint 2)
      = List.replicate (k + 2 + 2) 0x31 := caCreateBlockDatablockId_ones k 2 hk
  have hother : caCreateBlockDatablockId (onesToken k hk) (onesEndpoint 1).addr
      (onesEndpoint 1).port = List.replicate (k + 2 + 1) 0x31 :=
    caCreateBlockDatablockId_ones k 1 hk
  have hackId : emptyAckId (onesEndpoint (k + 1)) = List.replicate (0 + 2 + (k + 1)) 0x31 :=
    caCreateBlockDatablockId_ones 0 (k + 1) (by decide)
  have hlenne : ∀ a b : Nat, a ≠ b → List.replicate a (0x31 : UInt8) ≠ List.replicate b 0x31 := by
    intro a b hab h
    apply hab
    have hlen := congrArg List.length h
    simpa only [length_replicate] using hlen
  -- the first request is the entry the PDU continues, the second one the bystander
  have hslot : slotOf (twoRequests k hk) (List.replicate (k + 2 + 1) 0x31)
      = [newBlockData (getRequest (onesToken k hk) (onesEndpoint 1))] := by
    simp only [slotOf, twoRequests, FirstMatch.slot_cons, FirstMatch.slot_nil, hid1, hid2,
      if_true, if_neg (hlenne (1 + 2 + (k + 1)) (k + 2 + 1) (by omega))]
  have hget : caGetBlockDataFromBlockDataList (twoRequests k hk)
      (pduBlockId (confirmableResponse code (onesToken k hk)) (onesEndpoint 2))
      = some (newBlockData (getRequest (onesToken 1 (by decide)) (onesEndpoint (k + 1)))) := by
    rw [caGetBlockData_eq_head?, hpdu, slotOf, twoRequests, FirstMatch.slot_cons, hid1,
      if_pos (by congr 1; omega)]
    rfl
  have hreceive : caReceiveBlockWiseData (twoRequests k hk)
      (confirmableResponse code (onesToken k hk)) (onesEndpoint 2) receivedData 0
      = caSetNextBlockOption1 (twoRequests k hk) (confirmableResponse code (onesToken k hk))
          (onesEndpoint 2) receivedData ⟨0, true, 6⟩ 0 := by
    have hempty' : (confirmableResponse code (onesToken k hk)).code ≠ caEmpty := hempty
    rw [caReceiveBlockWiseData, if_neg hempty']
    simp only [confirmableResponse, Option.isNone_some, Bool.false_and, Bool.false_eq_true,
      if_false, receiveBlocks, receiveBlock1, receiveBlock2, append_nil]
    split
    · rfl
    rename_i hok
    rw [ne_eq, not_not] at hok
    rw [← hok]
  rw [hreceive, hother, slotOf_confirmable_response receivedData 0 _ ⟨rfl, hcode⟩ hget rfl rfl,
    hslot]
  · intro h
    have hdata := congrArg (fun l => l.map (·.sentData.requestInfo)) h
    cases hdata
  · rw [show (newBlockData (getRequest (onesToken 1 (by decide))
      (onesEndpoint (k + 1)))).sentData.remoteEndpoint = onesEndpoint (k + 1) from rfl, hackId]
    congr 1
    omega
  · rw [hpdu]
    exact hlenne _ _ (by omega)
  · rw [hpdu, length_replicate]
    omega

variable {m n : Nat} (hm : m ≤ caMaxTokenLen) (hn : n ≤ caMaxTokenLen)

lemma ids_collide :
    caCreateBlockDatablockId (onesToken m hm) (onesEndpoint (n + 1)).addr
        (onesEndpoint (n + 1)).port
      = caCreateBlockDatablockId (onesToken n hn) (onesEndpoint (m + 1)).addr
          (onesEndpoint (m + 1)).port := by
  rw [onesEndpoint, onesEndpoint, caCreateBlockDatablockId_ones, caCreateBlockDatablockId_ones]
  congr 1
  omega

lemma onesToken_ne (hne : m ≠ n) : onesToken m hm ≠ onesToken n hn := by
  intro h
  have hlen : (onesToken m hm).bytes.length = (onesToken n hn).bytes.length := by rw [h]
  simp only [onesToken, length_replicate] at hlen
  exact hne hlen

/-- A response `2.05` without block options. -/
def plainResponse (token : CAToken) : CoapPdu :=
  { type := .nonconfirm, code := 69, id := 7, token := token, block1 := none, block2 := none
    size1 := none, size2 := none, uri := none, payload := [] }

end Iochibity.Coap
