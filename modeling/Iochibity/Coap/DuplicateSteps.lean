/-
A rule for what all entries of the transfer list have in common.
-/
import Iochibity.Coap.PayloadBounds
import Iochibity.Coap.Block2Reassembly

namespace Iochibity.Coap

def EveryEntry (P : CABlockData → Prop) (ctx : CABlockWiseContext) : Prop :=
  ∀ e ∈ ctx.dataList, P e

/-- `P` is kept by all that is done to an entry. -/
structure EntryRule (P : CABlockData → Prop) : Prop where
  made : ∀ sendData, P (newBlockData sendData)
  typed : ∀ {e} type, P e → P { e with type := type }
  sent : ∀ {e} sentData, P e → P { e with sentData := sentData }
  restarted : ∀ {e}, P e → P e.restart
  /-- the end of an upload whose answer is a download -/
  combined : ∀ {e}, P e → P { e with block1 := { e.block1 with num := 0 } }
  announced : ∀ {e} total, P e → P { e with payloadLength := total }
  lowered : ∀ {e} optionLen, P e → P (e.withSzx (replaceSzx optionLen caDefaultBlockSize))
  stored : ∀ {e} receivedData status isSizeOption blockType, P e →
    P (caUpdatePayloadData e receivedData status isSizeOption blockType).1
  option : ∀ {e e' block blockType}, P e → caUpdateBlockData e block blockType = some e' → P e'

namespace EveryEntry

variable {P : CABlockData → Prop} {ctx : CABlockWiseContext} {id : CABlockDataID}

lemma get (h : EveryEntry P ctx) {e : CABlockData}
    (hget : caGetBlockDataFromBlockDataList ctx id = some e) : P e :=
  h e (FirstMatch.mem_of_lookup _ hget)

lemma modify (h : EveryEntry P ctx) {f : CABlockData → CABlockData}
    (hf : ∀ e, P e → P (f e)) : EveryEntry P (modifyBlockData ctx id f) := by
  intro e he
  rcases FirstMatch.mem_modify he with he | ⟨a, ha, rfl⟩
  · exact h e he
  · exact hf a (h a (FirstMatch.mem_of_lookup _ ha))

lemma remove (h : EveryEntry P ctx) : EveryEntry P (caRemoveBlockDataFromList ctx id) := by
  intro e he
  exact h e (FirstMatch.mem_of_mem_erase he)

lemma append (h : EveryEntry P ctx) {e : CABlockData} (he : P e) :
    EveryEntry P { ctx with dataList := ctx.dataList ++ [e] } := by
  intro e' he'
  rcases List.mem_append.mp he' with hold | hnew
  · exact h e' hold
  rw [List.mem_singleton.mp hnew]
  exact he

end EveryEntry

/-! ## What is received -/

namespace EntryRule

variable {P : CABlockData → Prop} (rule : EntryRule P) {ctx : CABlockWiseContext}

section Receive

variable (pdu : CoapPdu) (endpoint : CAEndpoint) (receivedData : CAData) (block : CoapBlock)
  (dataLen : Nat)

include rule

section

variable (h : EveryEntry P ctx)
include h

lemma setSentData {id : CABlockDataID} (sentData : CAData) :
    EveryEntry P (modifyBlockData ctx id ({ · with sentData := sentData })) :=
  h.modify (fun _ he => rule.sent sentData he)

lemma sendBlockMessage (id : CABlockDataID) :
    EveryEntry P (caSendBlockMessage ctx pdu id).ctx := by
  unfold caSendBlockMessage
  split
  · exact h
  dsimp only
  split
  · exact rule.setSentData h _
  split
  · rw [caSendDirectEmptyResponse_eq]
    split
    · exact rule.setSentData (rule.setSentData h _) _
    · exact rule.setSentData h _
  · exact rule.setSentData h _

lemma sendErrorMessage (status : CABlockState) (responseResult : Nat) (id : CABlockDataID) :
    EveryEntry P (caSendErrorMessage ctx pdu status responseResult id).ctx := by
  unfold caSendErrorMessage
  split
  · exact h
  split
  · exact h
  dsimp only
  split
  · exact h.modify (fun _ he => rule.restarted he)
  · exact h

lemma processNextStep (status : CABlockState) (id : CABlockDataID) :
    EveryEntry P (caProcessNextStep ctx pdu receivedData status id).ctx := by
  unfold caProcessNextStep
  cases status with
  | option2Request =>
    dsimp only
    split
    · exact h
    split
    · exact h
    · exact rule.setSentData h _
  | option1Response => exact rule.sendBlockMessage pdu h id
  | option2Response => exact rule.sendBlockMessage pdu h id
  | option1RequestBlock => exact rule.sendBlockMessage pdu h id
  | option2LastBlock =>
    dsimp only
    split
    · exact h.remove
    · exact h
  | option1RequestLastBlock => exact h
  | incomplete => exact rule.sendErrorMessage pdu h _ _ id
  | tooLarge =>
    dsimp only
    split
    · exact rule.sendErrorMessage pdu h _ _ id
    split
    · exact rule.sendBlockMessage pdu h id
    · exact h
  | option2FirstBlock => exact h
  | unknown => exact h
  | receivedAlready => exact h

lemma nextStep (id : CABlockDataID) {upd : Update}
    (hupd : ∀ d status, upd.1 = some (d, status) → P d) :
    EveryEntry P (finishNextStep ctx pdu receivedData id upd).ctx := by
  unfold finishNextStep
  split
  · exact h.remove
  rename_i d status log
  have hstore : EveryEntry P (modifyBlockData ctx id (fun _ => d)) :=
    h.modify (fun _ _ => hupd d status rfl)
  have hnext := rule.processNextStep pdu receivedData hstore status id
  dsimp only
  split
  · exact hnext
  · exact hnext.remove

lemma checkTheExist {ctx' : CABlockWiseContext} {id : CABlockDataID} {blockType : BlockType}
    (hexist : caCheckTheExistOfBlockData ctx id pdu endpoint blockType = some ctx') :
    EveryEntry P ctx' := by
  have htyped (e : CABlockData) (he : P e) : P { e with type := some blockType } :=
    rule.typed _ he
  unfold caCheckTheExistOfBlockData at hexist
  split at hexist
  · cases hexist
    exact h.modify htyped
  split at hexist
  · cases hexist
  rename_i cadata hnew
  cases hexist
  exact (h.append (rule.made cadata)).modify htyped

end

/-! ### One block -/

variable {e : CABlockData}

lemma sizeOption (he : P e) (size : Option Nat) :
    P (caIsPayloadLengthInPduWithBlockSizeOption e size).2 := by
  rcases size with _ | total
  · exact he
  · exact rule.announced total he

lemma check (he : P e) (blockType : BlockType) :
    P (caCheckBlockErrorType e block receivedData blockType dataLen).2 := by
  unfold caCheckBlockErrorType
  dsimp only
  split
  · exact he
  split
  · split
    · exact rule.lowered _ he
    · exact he
  split
  · exact he
  · exact he

variable {e' : CABlockData} {status : CABlockState}

lemma storeOption {block? : Option CoapBlock} {blockType : BlockType}
    (next : CoapBlock → CABlockState) (he : P e)
    (h : (block?.bind fun b => (caUpdateBlockData e b blockType).map fun d => (d, next b))
      = some (e', status)) : P e' := by
  obtain ⟨b, -, h⟩ := Option.bind_eq_some_iff.mp h
  obtain ⟨d, hupd, heq⟩ := Option.map_eq_some_iff.mp h
  cases heq
  exact rule.option he hupd

lemma request1 (he : P e)
    (h : (updateFromRequest1 e pdu receivedData block dataLen).1 = some (e', status)) : P e' := by
  have hchecked := rule.check receivedData block dataLen (rule.sizeOption he pdu.size1) .block1
  simp only [updateFromRequest1] at h
  split at h
  · cases h
    exact hchecked
  · exact rule.storeOption _ (rule.stored receivedData _ _ _ hchecked) h

lemma response2 (he : P e)
    (h : (updateFromResponse2 e pdu receivedData block dataLen).1 = some (e', status)) : P e' := by
  have hsize := rule.sizeOption he pdu.size2
  simp only [updateFromResponse2] at h
  -- an error response is stored without a check
  generalize hchk : (if isBlockErrorCode pdu.code then
      (CABlockState.unknown, (caIsPayloadLengthInPduWithBlockSizeOption e pdu.size2).2)
    else caCheckBlockErrorType (caIsPayloadLengthInPduWithBlockSizeOption e pdu.size2).2 block
      receivedData .block2 dataLen) = chk at h
  have hchecked : P chk.2 := by
    rw [← hchk]
    split
    · exact hsize
    · exact rule.check receivedData block dataLen hsize .block2
  generalize hsto : (if chk.1 = .receivedAlready then (chk.2, [])
    else caUpdatePayloadData chk.2 receivedData chk.1
      (caIsPayloadLengthInPduWithBlockSizeOption e pdu.size2).1 .block2) = sto at h
  have hstored : P sto.1 := by
    rw [← hsto]
    split
    · exact hchecked
    · exact rule.stored receivedData _ _ _ hchecked
  split at h
  · cases h
    exact hstored
  · exact rule.storeOption (fun _ => _) hstored h

/-! ### One PDU -/

section

variable (h : EveryEntry P ctx)
include h

lemma setNextFromResponse1 {data : CABlockData} (hdata : P data) (id : CABlockDataID) :
    EveryEntry P (Coap.setNextFromResponse1 ctx data pdu receivedData block id).ctx := by
  unfold Coap.setNextFromResponse1
  split
  · split
    · exact h.modify (fun _ _ => rule.combined hdata)
    · exact h.remove
  split
  · exact h
  apply rule.nextStep pdu receivedData h id
  intro d status hupd
  obtain ⟨d', hupd', heq⟩ := Option.map_eq_some_iff.mp hupd
  cases heq
  exact rule.option hdata hupd'

lemma setNextBlockOption1 :
    EveryEntry P (caSetNextBlockOption1 ctx pdu endpoint receivedData block dataLen).ctx := by
  unfold caSetNextBlockOption1
  dsimp only
  split
  · exact h
  split
  · exact h.remove
  rename_i ctx' hexist
  have h' := rule.checkTheExist pdu endpoint h hexist
  split
  · exact h'.remove
  rename_i data hget
  have hdata := h'.get hget
  split
  · apply rule.nextStep pdu receivedData h'
    intro d status hupd
    exact rule.request1 pdu receivedData block dataLen hdata hupd
  · exact rule.setNextFromResponse1 pdu receivedData block h' hdata _

lemma setNextBlockOption2 :
    EveryEntry P (caSetNextBlockOption2 ctx pdu endpoint receivedData block dataLen).ctx := by
  unfold caSetNextBlockOption2
  dsimp only
  split
  · exact h
  split
  · exact h.remove
  rename_i ctx' hexist
  have h' := rule.checkTheExist pdu endpoint h hexist
  split
  · exact h'.remove
  rename_i data hget
  have hdata := h'.get hget
  apply rule.nextStep pdu receivedData h'
  intro d status hupd
  split at hupd
  · exact rule.storeOption (fun _ => .option2FirstBlock) hdata hupd
  split at hupd
  · exact rule.storeOption (fun _ => .option2Request) hdata hupd
  · exact rule.response2 pdu receivedData block dataLen hdata hupd

lemma receiveBlock1 :
    EveryEntry P (Coap.receiveBlock1 ctx pdu endpoint receivedData dataLen).ctx := by
  unfold Coap.receiveBlock1
  split
  · exact h
  · exact rule.setNextBlockOption1 pdu endpoint receivedData _ dataLen h

lemma receiveBlock2 :
    EveryEntry P (Coap.receiveBlock2 ctx pdu endpoint receivedData dataLen).ctx := by
  unfold Coap.receiveBlock2
  split
  · exact h
  · exact rule.setNextBlockOption2 pdu endpoint receivedData _ dataLen h

lemma receiveWithoutBlock :
    EveryEntry P (Coap.receiveWithoutBlock ctx pdu endpoint receivedData dataLen).ctx := by
  unfold Coap.receiveWithoutBlock
  dsimp only
  split
  · split
    · exact h
    split
    · exact h
    · split
      · exact rule.setNextBlockOption2 pdu endpoint receivedData _ dataLen h
      · exact rule.setNextBlockOption2 pdu endpoint receivedData _ dataLen h
    · exact rule.setNextBlockOption1 pdu endpoint receivedData _ dataLen h
  split
  · exact h.remove
  · exact h

lemma receiveBlockWiseData :
    EveryEntry P (caReceiveBlockWiseData ctx pdu endpoint receivedData dataLen).ctx := by
  unfold caReceiveBlockWiseData
  split
  · split
    · exact h
    -- an empty message keeps the entry or ends it
    unfold receiveEmpty
    dsimp only
    split
    · split
      · exact h
      · exact h.remove
    · exact h.remove
  split
  · exact rule.receiveWithoutBlock pdu endpoint receivedData dataLen h
  unfold receiveBlocks
  have h1 := rule.receiveBlock1 pdu endpoint receivedData dataLen h
  dsimp only
  split
  · exact h1
  · exact rule.receiveBlock2 pdu endpoint receivedData dataLen h1

end

end Receive

/-! ## What is sent -/

include rule

lemma sendUnicast (h : EveryEntry P ctx) (sendData : CAData) :
    EveryEntry P (caSendUnicastBlockWiseData ctx sendData).ctx := by
  unfold caSendUnicastBlockWiseData
  split
  · rename_i blockDataID ctx' hvalid
    have h' : EveryEntry P ctx' := by
      unfold caCheckBlockDataValidation at hvalid
      split at hvalid
      · cases hvalid
      dsimp only at hvalid
      split at hvalid
      · cases hvalid
      cases hvalid
      exact rule.setSentData h _
    split
    · exact h'
    · exact h'.modify (fun _ he => rule.typed _ he)
  split
  · split
    · exact h.append (rule.made sendData)
    · exact h
  · exact h.append (rule.typed _ (rule.made sendData))

lemma sendBlockWiseData (h : EveryEntry P ctx) (sendData : CAData) :
    EveryEntry P (caSendBlockWiseData ctx sendData).ctx := by
  unfold caSendBlockWiseData
  split
  · split
    · exact h
    split
    · split
      · exact h
      split
      · -- a multicast request goes to the other list
        rename_i ctx' hnew
        unfold caCreateNewBlockMulticastData at hnew
        split at hnew
        · cases hnew
        cases hnew
        exact h
      · exact h
    · exact rule.sendUnicast h sendData
  · split
    · exact h
    · exact rule.sendUnicast h sendData
  · exact rule.sendUnicast h sendData

end EntryRule

inductive ListInput
  | receive (r : Received)
  | send (data : CAData)
  | remove (id : CABlockDataID)

def listStep (ctx : CABlockWiseContext) : ListInput → CABlockWiseContext
  | .receive r => (receivePdu ctx r).1
  | .send data => (caSendBlockWiseData ctx data).ctx
  | .remove id => caRemoveBlockDataFromList ctx id

inductive Reached : CABlockWiseContext → Prop
  | start : Reached ⟨[], []⟩
  | step {ctx : CABlockWiseContext} (h : Reached ctx) (input : ListInput) :
      Reached (listStep ctx input)

lemma EntryRule.reached {P : CABlockData → Prop} (rule : EntryRule P) {ctx : CABlockWiseContext}
    (h : Reached ctx) : EveryEntry P ctx := by
  induction h with
  | start =>
    intro e he
    cases he
  | step _ input ih =>
    cases input with
    | receive r => exact rule.receiveBlockWiseData r.pdu r.endpoint r.data r.dataLen ih
    | send data => exact rule.sendBlockWiseData ih data
    | remove id => exact ih.remove

/-! ## Sizes and buffers -/

structure SoundEntry (e : CABlockData) : Prop where
  szx1 : e.block1.szx ≤ 6
  szx2 : e.block2.szx ≤ 6
  buffer : e.receivedPayloadLen = 0 → e.payload = none

lemma replaceSzx_le {optionLen size szx : Nat} (h : replaceSzx optionLen size = some szx) :
    szx ≤ size := by
  induction size with
  | zero =>
    rw [replaceSzx] at h
    split at h
    · cases h
      exact Nat.le_refl 0
    · cases h
  | succ size ih =>
    rw [replaceSzx] at h
    split at h
    · cases h
      exact Nat.le_refl _
    · exact Nat.le_succ_of_le (ih h)

lemma storedPayloadLen_pos {e : CABlockData} {receivedData : CAData} (status : CABlockState)
    (blockType : BlockType) (h : caGetPayloadInfo receivedData ≠ []) :
    0 < storedPayloadLen e receivedData status blockType := by
  have hsize (szx : Nat) : 0 < blockSize szx := by
    rw [blockSize_eq]
    simp
  unfold storedPayloadLen
  split
  · cases blockType with
    | block1 | block2 => exact hsize _
  · exact List.length_pos_iff.mpr h

lemma soundEntry_rule : EntryRule SoundEntry where
  made _ := ⟨Nat.le_refl 6, Nat.le_refl 6, fun _ => rfl⟩
  typed _ h := ⟨h.szx1, h.szx2, h.buffer⟩
  sent _ h := ⟨h.szx1, h.szx2, h.buffer⟩
  restarted h := ⟨h.szx1, h.szx2, fun _ => rfl⟩
  combined h := ⟨h.szx1, h.szx2, h.buffer⟩
  announced _ h := ⟨h.szx1, h.szx2, h.buffer⟩
  lowered {e} optionLen h := by
    generalize hfound : replaceSzx optionLen caDefaultBlockSize = found
    rcases found with _ | szx
    · exact h
    have hle : szx ≤ 6 := replaceSzx_le hfound
    exact ⟨hle, hle, h.buffer⟩
  stored {e} receivedData status isSizeOption blockType h := by
    obtain ⟨h1, h2, -⟩ := caUpdatePayloadData_keeps e receivedData blockType status isSizeOption
    refine ⟨h1 ▸ h.szx1, h2 ▸ h.szx2, ?_⟩
    unfold caUpdatePayloadData
    dsimp only
    split
    · exact h.buffer
    rename_i hbytes
    have hpos := storedPayloadLen_pos (e := e) status blockType (not_or.mp hbytes).2
    split
    · intro hzero
      dsimp only at hzero
      omega
    intro hzero
    dsimp only at hzero
    omega
  option {e e' block blockType} h hupd := by
    unfold caUpdateBlockData at hupd
    split at hupd
    · cases hupd
    rename_i hszx
    have hle : block.szx ≤ 6 := Nat.not_lt.mp hszx
    cases blockType with
    | block1 =>
      cases hupd
      exact ⟨hle, h.szx2, h.buffer⟩
    | block2 =>
      cases hupd
      exact ⟨h.szx1, hle, h.buffer⟩

open Option (bind_some map_none map_some)

def Received.id (r : Received) : CABlockDataID := pduBlockId r.pdu r.endpoint

def Block1Passed (r : Received) (e : CABlockData) : Prop :=
  ∃ block1, r.pdu.block1 = some block1 ∧ block1.m = true ∧ block1.num < e.block1.num

/-! ## The entry that is worked on -/

section Filed

variable {ctx : CABlockWiseContext} {pdu : CoapPdu} {endpoint : CAEndpoint} {blockType : BlockType}
  {e : CABlockData} {rest : List CABlockData}

lemma filedUnder_some (h : filedUnder ctx pdu endpoint blockType = some e) :
    ¬ ((pduBlockId pdu endpoint).length < 1 ∨ 255 < (pduBlockId pdu endpoint).length)
      ∧ ∃ ctx', caCheckTheExistOfBlockData ctx (pduBlockId pdu endpoint) pdu endpoint blockType
          = some ctx'
        ∧ slotOf ctx' (pduBlockId pdu endpoint) = e :: (slotOf ctx (pduBlockId pdu endpoint)).tail
        ∧ caGetBlockDataFromBlockDataList ctx' (pduBlockId pdu endpoint) = some e := by
  unfold filedUnder at h
  dsimp only at h
  split at h
  · cases h
  rename_i hid
  obtain ⟨ctx', hexist, hget⟩ := Option.bind_eq_some_iff.mp h
  refine ⟨hid, ctx', hexist, ?_, hget⟩
  have hhead := hget
  rw [caGetBlockData_eq_head?] at hhead
  rcases hslot : slotOf ctx (pduBlockId pdu endpoint) with _ | ⟨e₀, rest⟩
  · have hnone : caGetBlockDataFromBlockDataList ctx (pduBlockId pdu endpoint) = none := by
      rw [caGetBlockData_eq_head?, hslot]
      rfl
    have hmade := hexist
    rw [caCheckTheExistOfBlockData, hnone] at hmade
    rcases hnew : (caCreateNewDataSet pdu endpoint).bind
        (fillResourceUri ctx (pduBlockId pdu endpoint)) with _ | cadata
    · simp [hnew] at hmade
    obtain ⟨ctx'', hexist', hslot'⟩ := caCheckTheExist_made hslot hnew blockType
    rw [hexist, Option.some.injEq] at hexist'
    subst hexist'
    rw [hslot', List.head?_cons, Option.some.injEq] at hhead
    simp [hslot', hhead]
  obtain ⟨ctx'', hexist', hslot', -⟩ := caCheckTheExist_found pdu hslot endpoint blockType
  rw [hexist, Option.some.injEq] at hexist'
  subst hexist'
  rw [hslot', List.head?_cons, Option.some.injEq] at hhead
  simp [hslot', hhead]

lemma filedUnder_of_slot
    (hid : ¬ ((pduBlockId pdu endpoint).length < 1 ∨ 255 < (pduBlockId pdu endpoint).length))
    (hslot : slotOf ctx (pduBlockId pdu endpoint) = e :: rest) (blockType : BlockType) :
    filedUnder ctx pdu endpoint blockType = some { e with type := some blockType } := by
  obtain ⟨ctx', hexist, hslot', -⟩ := caCheckTheExist_found pdu hslot endpoint blockType
  rw [filedUnder, if_neg hid, hexist, bind_some, get_of_slotOf hslot']

lemma caSetNextBlockOption1_request (hreq : isRequestCode pdu.code = true)
    (h : filedUnder ctx pdu endpoint .block1 = some e) (data : CAData) (block : CoapBlock)
    (dataLen : Nat) :
    ∃ ctx', slotOf ctx' (pduBlockId pdu endpoint) = e :: (slotOf ctx (pduBlockId pdu endpoint)).tail
      ∧ caSetNextBlockOption1 ctx pdu endpoint data block dataLen
        = finishNextStep ctx' pdu data (pduBlockId pdu endpoint)
            (updateFromRequest1 e pdu data block dataLen) := by
  obtain ⟨hid, ctx', hexist, hslot, hget⟩ := filedUnder_some h
  refine ⟨ctx', hslot, ?_⟩
  simp only [caSetNextBlockOption1, if_neg hid, hexist, hget, hreq, if_true]

lemma caSetNextBlockOption1_response (hreq : isRequestCode pdu.code = false)
    (h : filedUnder ctx pdu endpoint .block1 = some e) (data : CAData) (block : CoapBlock)
    (dataLen : Nat) :
    ∃ ctx', slotOf ctx' (pduBlockId pdu endpoint) = e :: (slotOf ctx (pduBlockId pdu endpoint)).tail
      ∧ caSetNextBlockOption1 ctx pdu endpoint data block dataLen
        = setNextFromResponse1 ctx' e pdu data block (pduBlockId pdu endpoint) := by
  obtain ⟨hid, ctx', hexist, hslot, hget⟩ := filedUnder_some h
  refine ⟨ctx', hslot, ?_⟩
  simp only [caSetNextBlockOption1, if_neg hid, hexist, hget, hreq, Bool.false_eq_true, if_false]

lemma caSetNextBlockOption2_request (hreq : isRequestCode pdu.code = true)
    (h : filedUnder ctx pdu endpoint .block2 = some e) (data : CAData) (block : CoapBlock)
    (dataLen : Nat) :
    ∃ ctx', slotOf ctx' (pduBlockId pdu endpoint) = e :: (slotOf ctx (pduBlockId pdu endpoint)).tail
      ∧ caSetNextBlockOption2 ctx pdu endpoint data block dataLen
        = finishNextStep ctx' pdu data (pduBlockId pdu endpoint)
            (if block.num = 0 ∧ pdu.code = caGet ∧ block.m = false then
              updateFromFirstGet e pdu block
            else updateFromRequest2 e pdu block) := by
  obtain ⟨hid, ctx', hexist, hslot, hget⟩ := filedUnder_some h
  refine ⟨ctx', hslot, ?_⟩
  simp only [caSetNextBlockOption2, if_neg hid, hexist, hget, hreq, if_true]

lemma caSetNextBlockOption2_response (hreq : isRequestCode pdu.code = false)
    (h : filedUnder ctx pdu endpoint .block2 = some e) (data : CAData) (block : CoapBlock)
    (dataLen : Nat) :
    ∃ ctx', slotOf ctx' (pduBlockId pdu endpoint) = e :: (slotOf ctx (pduBlockId pdu endpoint)).tail
      ∧ caSetNextBlockOption2 ctx pdu endpoint data block dataLen
        = finishNextStep ctx' pdu data (pduBlockId pdu endpoint)
            (updateFromResponse2 e pdu data block dataLen) := by
  obtain ⟨hid, ctx', hexist, hslot, hget⟩ := filedUnder_some h
  have hnotGet : ¬ (block.num = 0 ∧ pdu.code = caGet ∧ block.m = false) := by
    rintro ⟨-, hcode, -⟩
    rw [hcode] at hreq
    cases hreq
  refine ⟨ctx', hslot, ?_⟩
  simp only [caSetNextBlockOption2, if_neg hid, hexist, hget, if_neg hnotGet, hreq,
    Bool.false_eq_true, if_false]

end Filed

/-! ## How a PDU ends -/

section Finish

variable {ctx : CABlockWiseContext} (pdu : CoapPdu) (receivedData : CAData) {id : CABlockDataID}
  {e : CABlockData} (data : CABlockData) {rest : List CABlockData} (log : List Event)

variable {status : CABlockState}

section

variable (hslot : slotOf ctx id = e :: rest) (hid : data.blockDataId = id)
include hid hslot

lemma finish_answered (hstatus : status = .option1RequestBlock ∨ status = .option2Response
      ∨ status = .option1Response) :
    let out := finishNextStep ctx pdu receivedData id (some (data, status), log)
    out.res = .ok ∧ ∃ sentData, slotOf out.ctx id = { data with sentData := sentData } :: rest := by
  obtain ⟨hok, ⟨sentData, hsend⟩, -⟩ := caSendBlockMessage_slot pdu (slotOf_store hslot hid)
  have hstep : caProcessNextStep (modifyBlockData ctx id (fun _ => data)) pdu receivedData status id
      = caSendBlockMessage (modifyBlockData ctx id (fun _ => data)) pdu id := by
    rcases hstatus with rfl | rfl | rfl
    · rfl
    · rfl
    · rfl
  simp only [finishNextStep, hstep, hok, if_true]
  exact ⟨trivial, sentData, hsend⟩

lemma finish_requestLast (hsound : SoundEntry data) (endpoint : CAEndpoint) :
    let out := finishNextStep ctx pdu (caGenerateHandlerData endpoint pdu) id
      (some (data, .option1RequestLastBlock), log)
    out.res = .ok ∧ slotOf out.ctx id = data :: rest := by
  have hstore := slotOf_store hslot hid
  have hget := get_of_slotOf hstore
  have hlast : (caReceiveLastBlock (modifyBlockData ctx id (fun _ => data)) id
      (caGenerateHandlerData endpoint pdu)).1 = .ok := by
    rcases hbuf : data.payload with _ | buf
    · rw [caReceiveLastBlock_unbuffered _ hget hbuf]
    have hne : data.receivedPayloadLen ≠ 0 := by
      intro hzero
      rw [hsound.buffer hzero] at hbuf
      cases hbuf
    obtain ⟨up, hup, -⟩ := caReceiveLastBlock_buffered pdu endpoint hget hbuf hne
    rw [hup]
  simp only [finishNextStep, caProcessNextStep, hlast, if_true]
  exact ⟨trivial, hstore⟩

lemma finish_restarted
    (hres : (errorResponse data.sentData pdu caRequestEntityIncomplete).isSome = true) :
    let out := finishNextStep ctx pdu receivedData id (some (data, .incomplete), log)
    out.res = .ok ∧ slotOf out.ctx id = data.restart :: rest := by
  obtain ⟨res, hres⟩ := Option.isSome_iff_exists.mp hres
  obtain ⟨hslot', -⟩ := finishNextStep_incomplete pdu receivedData hslot hid ⟨res, hres⟩ log
  refine ⟨?_, hslot'⟩
  simp [finishNextStep, caProcessNextStep, caSendErrorMessage,
    get_of_slotOf (slotOf_store hslot hid), hres]

lemma finish_unanswered
    (hres : ¬ (errorResponse data.sentData pdu caRequestEntityIncomplete).isSome = true) :
    let out := finishNextStep ctx pdu receivedData id (some (data, .incomplete), log)
    out.res ≠ .ok ∧ slotOf out.ctx id = rest := by
  have hnone : errorResponse data.sentData pdu caRequestEntityIncomplete = none := by
    rw [← Option.not_isSome_iff_eq_none]
    exact hres
  obtain ⟨hslot', -⟩ := finishNextStep_unanswered pdu receivedData hslot hid hnone log
  refine ⟨?_, hslot'⟩
  simp [finishNextStep, caProcessNextStep, caSendErrorMessage,
    get_of_slotOf (slotOf_store hslot hid), hnone]

end

lemma finish_failed (hslot : slotOf ctx id = e :: rest) :
    let out := finishNextStep ctx pdu receivedData id (none, log)
    out.res ≠ .ok ∧ slotOf out.ctx id = rest :=
  ⟨by simp only [finishNextStep, ne_eq, reduceCtorEq, not_false_eq_true],
    finishNextStep_failed pdu receivedData hslot log⟩

lemma finish_request2 (hslot : slotOf ctx id = e :: rest) (hid : data.blockDataId = id)
    (hstatus : status = .option2FirstBlock ∨ status = .option2Request) :
    ∃ sentData, slotOf (finishNextStep ctx pdu receivedData id (some (data, status), log)).ctx id
      = { data with sentData := sentData } :: rest := by
  have hstore := slotOf_store hslot hid
  rcases hstatus with rfl | rfl
  · exact ⟨data.sentData, by simpa only [finishNextStep, caProcessNextStep, if_true] using hstore⟩
  simp only [finishNextStep, caProcessNextStep, get_of_slotOf hstore]
  rcases data.sentData.responseInfo with _ | res
  · exact ⟨data.sentData, by simpa only [if_true] using hstore⟩
  simp only [if_true]
  exact ⟨_, slotOf_setSentData hstore _⟩

end Finish

/-! ## A request with a Block1 option -/

lemma sizeOption_snd (e : CABlockData) (size : Option Nat) :
    (caIsPayloadLengthInPduWithBlockSizeOption e size).2
      = { e with payloadLength := size.getD e.payloadLength } := by
  rcases size with _ | total
  · rfl
  · rfl

def Follows (e : CABlockData) (block : CoapBlock) : BlockType → Prop
  | .block1 => e.receivedPayloadLen = blockSize block.szx * block.num
  | .block2 => block.num = e.block2.num

variable {e : CABlockData} {block : CoapBlock} {data : CAData} {blockType : BlockType}
  {dataLen : Nat}

lemma full_of_unknown (h : (caCheckBlockErrorType e block data blockType dataLen).1 = .unknown) :
    Follows e block blockType
      ∧ (block.m = true → (caGetPayloadInfo data).length = blockSize block.szx) := by
  have hnext : Follows e block blockType := by
    cases blockType with
    | block1 =>
      by_contra hne
      rw [caCheckBlockErrorType_block1_ne hne] at h
      split at h
      · cases h
      · cases h
    | block2 =>
      by_contra hne
      rw [caCheckBlockErrorType_block2_ne hne] at h
      split at h
      · cases h
      · cases h
  refine ⟨hnext, fun hm => ?_⟩
  by_contra hlen
  have hshort : (block.m && (caGetPayloadInfo data).length != blockSize block.szx) = true := by
    rw [hm, Bool.true_and, bne_iff_ne]
    exact hlen
  unfold caCheckBlockErrorType at h
  cases blockType with
  | block1 | block2 =>
    rw [Follows] at hnext
    simp only [hnext, ne_eq, not_true_eq_false, if_false, hshort, if_true] at h
    split at h
    · cases h
    · cases h

lemma eq_of_unknown (h : (caCheckBlockErrorType e block data blockType dataLen).1 = .unknown) :
    caCheckBlockErrorType e block data blockType dataLen = (.unknown, e) := by
  have hsnd : (caCheckBlockErrorType e block data blockType dataLen).2 = e := by
    unfold caCheckBlockErrorType at h ⊢
    dsimp only at h ⊢
    split
    · rfl
    rename_i hnone
    rw [hnone] at h
    split
    · split
      · -- a block that is too large has another verdict
        rename_i hshort hlarge
        simp [hshort, hlarge] at h
      · rfl
    split
    · rfl
    · rfl
  exact Prod.ext h hsnd

lemma caUpdateBlockData_large (d : CABlockData) {block : CoapBlock} (hszx : ¬ block.szx ≤ 6)
    (blockType : BlockType) : caUpdateBlockData d block blockType = none := by
  have hlarge : block.szx > caBlockSize1024Byte := Nat.lt_of_not_le hszx
  simp [caUpdateBlockData, hlarge]

lemma caUpdatePayloadData_unknown (d : CABlockData) (r : Received) (isSizeOption : Bool)
    (blockType : BlockType) :
    let stored := (caUpdatePayloadData d r.data .unknown isSizeOption blockType).1
    stored.block1 = d.block1 ∧ stored.block2 = d.block2 ∧ stored.blockDataId = d.blockDataId
      ∧ stored.receivedPayloadLen = d.receivedPayloadLen + r.pdu.payload.length
      ∧ (r.pdu.payload = [] → stored.payload = d.payload) := by
  obtain ⟨h1, h2, -⟩ := caUpdatePayloadData_keeps d r.data blockType .unknown isSizeOption
  refine ⟨h1, h2, caUpdatePayloadData_blockDataId _, ?_⟩
  have hpay : caGetPayloadInfo r.data = r.pdu.payload :=
    caGetPayloadInfo_caGenerateHandlerData _ _
  simp only [caUpdatePayloadData, storedPayloadLen, hpay]
  by_cases hnil : r.pdu.payload = []
  · simp [hnil]
  simp only [hnil, reduceCtorEq, or_self, if_false, false_implies, and_true]
  split
  · rfl
  · rfl

section Request

variable {r : Received} {block : CoapBlock} {e : CABlockData}

def requestStatus (block : CoapBlock) : CABlockState :=
  if block.m then .option1RequestBlock else .option1RequestLastBlock

lemma request1_repeat (h : (check1 e r.pdu r.data block r.dataLen)
      = (.receivedAlready, { e with payloadLength := r.pdu.size1.getD e.payloadLength })) :
    updateFromRequest1 e r.pdu r.data block r.dataLen
      = (some ({ e with payloadLength := r.pdu.size1.getD e.payloadLength },
          requestStatus block), []) := by
  rw [check1] at h
  simp [updateFromRequest1, h, requestStatus]

lemma request1_incomplete (hreq : isRequestCode r.pdu.code = true)
    (h : (check1 e r.pdu r.data block r.dataLen)
      = (.incomplete, { e with payloadLength := r.pdu.size1.getD e.payloadLength })) :
    updateFromRequest1 e r.pdu r.data block r.dataLen
      = ((caUpdateBlockData { e with payloadLength := r.pdu.size1.getD e.payloadLength } block
          .block1).map (·, .incomplete), []) := by
  rw [check1] at h
  have hcode := isBlockErrorCode_of_request hreq
  simp [updateFromRequest1, h, caUpdatePayloadData, caUpdateBlockOptionItems, hcode]

lemma request1_next (hreq : isRequestCode r.pdu.code = true) (hsound : SoundEntry e)
    (h : (check1 e r.pdu r.data block r.dataLen)
      = (.unknown, { e with payloadLength := r.pdu.size1.getD e.payloadLength })) :
    ∃ e' log, updateFromRequest1 e r.pdu r.data block r.dataLen
        = (some (e', requestStatus block), log)
      ∧ e'.receivedPayloadLen = e.receivedPayloadLen + r.pdu.payload.length
      ∧ (r.pdu.payload = [] → e'.payload = e.payload) ∧ e'.block1.num = block.num
      ∧ e'.blockDataId = e.blockDataId := by
  have hcode := isBlockErrorCode_of_request hreq
  rw [check1] at h
  obtain ⟨hkeeps, -, hid, hlen, hsame⟩ := caUpdatePayloadData_unknown
    { e with payloadLength := r.pdu.size1.getD e.payloadLength } r
    (caIsPayloadLengthInPduWithBlockSizeOption e r.pdu.size1).1 .block1
  generalize hsto : caUpdatePayloadData { e with payloadLength := r.pdu.size1.getD e.payloadLength }
    r.data .unknown (caIsPayloadLengthInPduWithBlockSizeOption e r.pdu.size1).1 .block1 = sto
    at hkeeps hid hlen hsame
  -- the number stays, and the size is one of the protocol
  have hitems : ∃ b, caUpdateBlockOptionItems sto.1 r.pdu block .block1 .unknown = some b
      ∧ b.num = block.num ∧ b.m = block.m ∧ b.szx ≤ 6 := by
    simp only [caUpdateBlockOptionItems, hcode, Bool.false_eq_true, if_false,
      caNegotiateBlockSize, hreq, if_true, hkeeps]
    split
    · exact ⟨_, rfl, rfl, rfl, hsound.szx1⟩
    rename_i hszx
    exact ⟨_, rfl, rfl, rfl, le_trans (not_lt.mp hszx) hsound.szx1⟩
  obtain ⟨b, hitems, hnum, hm, hszx⟩ := hitems
  have hdata := caUpdateBlockData_block1 sto.1 hszx
  refine ⟨{ sto.1 with block1 := b }, sto.2.map Event.copy, ?_, hlen, hsame, hnum, hid⟩
  simp [updateFromRequest1, h, hsto, hitems, hdata, requestStatus, hm]

variable {ctx : CABlockWiseContext} {rest : List CABlockData}

variable {id : CABlockDataID} {e₀ : CABlockData}

lemma request_stays (r : Received) (block : CoapBlock) {e' : CABlockData} (log : List Event)
    (hslot : slotOf ctx id = e₀ :: rest) (hid : e'.blockDataId = id) (hsound : SoundEntry e') :
    let out := finishNextStep ctx r.pdu r.data id (some (e', requestStatus block), log)
    out.res = .ok ∧ ∃ sentData, slotOf out.ctx id = { e' with sentData := sentData } :: rest := by
  rw [requestStatus]
  rcases block.m with _ | _
  · obtain ⟨hok, hslot'⟩ := finish_requestLast r.pdu e' log hslot hid hsound r.endpoint
    exact ⟨hok, e'.sentData, hslot'⟩
  · exact finish_answered r.pdu r.data e' log hslot hid (.inl rfl)

lemma request_refused (r : Received) (block : CoapBlock) (e : CABlockData)
    (hslot : slotOf ctx id = e₀ :: rest) (hid : e.blockDataId = id) :
    let out := finishNextStep ctx r.pdu r.data id
      ((caUpdateBlockData e block .block1).map (·, .incomplete), [])
    if block.szx ≤ 6 ∧ (errorResponse e.sentData r.pdu caRequestEntityIncomplete).isSome = true then
      out.res = .ok ∧ slotOf out.ctx id = ({ e with block1 := block } : CABlockData).restart :: rest
    else out.res ≠ .ok ∧ slotOf out.ctx id = rest := by
  by_cases hszx : block.szx ≤ 6
  · have hdata := caUpdateBlockData_block1 e hszx
    rw [hdata, map_some]
    by_cases hres : (errorResponse e.sentData r.pdu caRequestEntityIncomplete).isSome = true
    · rw [if_pos ⟨hszx, hres⟩]
      exact finish_restarted r.pdu r.data { e with block1 := block } [] hslot hid hres
    rw [if_neg (hres ·.2)]
    exact finish_unanswered r.pdu r.data { e with block1 := block } [] hslot hid hres
  rw [caUpdateBlockData_large e hszx, map_none, if_neg (hszx ·.1)]
  exact finish_failed r.pdu r.data [] hslot

lemma request_block2 (hreq : isRequestCode r.pdu.code = true)
    (hslot : slotOf ctx r.id = e :: rest) (hid : ¬ (r.id.length < 1 ∨ 255 < r.id.length))
    (hsound : SoundEntry e) :
    ∃ e', slotOf (receiveBlock2 ctx r.pdu r.endpoint r.data r.dataLen).ctx r.id = e' :: rest
      ∧ e'.payload = e.payload ∧ e'.receivedPayloadLen = e.receivedPayloadLen
      ∧ e'.block1 = e.block1 := by
  unfold receiveBlock2
  split
  · exact ⟨e, hslot, rfl, rfl, rfl⟩
  rename_i block2 _
  have hfiled := filedUnder_of_slot hid hslot .block2
  obtain ⟨ctx', hslot', hset⟩ := caSetNextBlockOption2_request hreq hfiled r.data block2 r.dataLen
  rw [hset]
  change slotOf ctx' r.id = _ :: (slotOf ctx r.id).tail at hslot'
  rw [hslot, List.tail_cons] at hslot'
  have hcode := isBlockErrorCode_of_request hreq
  -- the size that is noted is not larger than the one before
  have hstored (b : CoapBlock) (hb : b.szx ≤ 6) (status : CABlockState)
      (hstatus : status = .option2FirstBlock ∨ status = .option2Request) :
      ∃ e', slotOf (finishNextStep ctx' r.pdu r.data r.id
          ((caUpdateBlockData { e with type := some .block2 } b .block2).map (·, status), [])).ctx
            r.id = e' :: rest
        ∧ e'.payload = e.payload ∧ e'.receivedPayloadLen = e.receivedPayloadLen
        ∧ e'.block1 = e.block1 := by
    rw [caUpdateBlockData_block2 _ hb, map_some]
    have hfile : e.blockDataId = r.id := blockDataId_of_get (get_of_slotOf hslot)
    obtain ⟨sentData, hfinal⟩ := finish_request2 r.pdu r.data
      { e with type := some .block2, block2 := b } [] hslot' hfile hstatus
    exact ⟨_, hfinal, rfl, rfl, rfl⟩
  have hneg (b : CoapBlock) :
      (caNegotiateBlockSize { e with type := some .block2 } b r.pdu .block2).szx ≤ 6 := by
    simp only [caNegotiateBlockSize, hreq, if_true]
    split
    · exact hsound.szx2
    rename_i hszx
    exact le_trans (not_lt.mp hszx) hsound.szx2
  change ∃ e', slotOf (finishNextStep ctx' r.pdu r.data r.id _).ctx r.id = e' :: rest ∧ _
  split
  · simp only [updateFromFirstGet, caUpdateBlockOptionItems, hcode, Bool.false_eq_true, if_false,
      bind_some]
    simp [hstored, hneg]
  simp only [updateFromRequest2, caUpdateBlockOptionItems, hcode, Bool.false_eq_true, if_false,
    bind_some]
  simp [hstored, hneg]

lemma receive_request (hctx : EveryEntry SoundEntry ctx) (hreq : isRequestCode r.pdu.code = true)
    (hblock : r.pdu.block1 = some block) (hid : ¬ (r.id.length < 1 ∨ 255 < r.id.length)) :
    let out1 := caSetNextBlockOption1 ctx r.pdu r.endpoint r.data block r.dataLen
    (out1.res ≠ .ok → (receivePdu ctx r).1 = out1.ctx)
      ∧ (out1.res = .ok → ∀ e rest, slotOf out1.ctx r.id = e :: rest →
        ∃ e', slotOf (receivePdu ctx r).1 r.id = e' :: rest
          ∧ e'.payload = e.payload ∧ e'.receivedPayloadLen = e.receivedPayloadLen
          ∧ e'.block1 = e.block1) := by
  have hcode : r.pdu.code ≠ caEmpty := by
    intro hempty
    rw [hempty] at hreq
    cases hreq
  have hout : receiveBlock1 ctx r.pdu r.endpoint r.data r.dataLen
      = caSetNextBlockOption1 ctx r.pdu r.endpoint r.data block r.dataLen := by
    rw [receiveBlock1, hblock]
  have hall : (receivePdu ctx r).1 = (receiveBlocks ctx r.pdu r.endpoint r.data r.dataLen).ctx := by
    simp [receivePdu, caReceiveBlockWiseData, if_neg hcode, hblock]
  rw [hall]
  unfold receiveBlocks
  rw [hout]
  constructor
  · intro hfailed
    simp [hfailed]
  · intro hok e rest hslot
    simp only [hok, ne_eq, not_true_eq_false, if_false]
    have hsound := soundEntry_rule.setNextBlockOption1 r.pdu r.endpoint r.data block r.dataLen hctx
    exact request_block2 hreq hslot hid (hsound.get (get_of_slotOf hslot))

end Request

/-! ## A response with a Block2 option -/

section Response

variable {r : Received} {block : CoapBlock} {e : CABlockData}

lemma check2_eq (e : CABlockData) (block : CoapBlock) (herr : isBlockErrorCode r.pdu.code = false) :
    check2 e r.pdu r.data block r.dataLen
      = caCheckBlockErrorType { e with payloadLength := r.pdu.size2.getD e.payloadLength } block
          r.data .block2 r.dataLen := by
  simp [check2, sizeOption_snd, herr]

lemma response2_next (hreq : isRequestCode r.pdu.code = false)
    (herr : isBlockErrorCode r.pdu.code = false) (hsound : SoundEntry e) (hm : block.m = true)
    (hnum : block.num = e.block2.num) (h : check2 e r.pdu r.data block r.dataLen
      = (.unknown, { e with payloadLength := r.pdu.size2.getD e.payloadLength })) :
    ∃ e' log, updateFromResponse2 e r.pdu r.data block r.dataLen
        = (some (e', .option2Response), log)
      ∧ e'.receivedPayloadLen = e.receivedPayloadLen + r.pdu.payload.length
      ∧ e'.blockDataId = e.blockDataId := by
  simp only [check2, herr, Bool.false_eq_true, if_false] at h
  obtain ⟨-, hkeeps, hid, hlen, -⟩ := caUpdatePayloadData_unknown
    { e with payloadLength := r.pdu.size2.getD e.payloadLength } r
    (caIsPayloadLengthInPduWithBlockSizeOption e r.pdu.size2).1 .block2
  generalize hsto : caUpdatePayloadData { e with payloadLength := r.pdu.size2.getD e.payloadLength }
    r.data .unknown (caIsPayloadLengthInPduWithBlockSizeOption e r.pdu.size2).1 .block2 = sto
    at hkeeps hid hlen
  have hitems : ∃ b, caUpdateBlockOptionItems sto.1 r.pdu block .block2 .option2Response = some b
      ∧ b.szx ≤ 6 := by
    have hle : ¬ e.block2.num > block.num := Nat.not_lt.mpr (Nat.le_of_eq hnum.symm)
    simp only [caUpdateBlockOptionItems, herr, Bool.false_eq_true, if_false, hkeeps, if_neg hle,
      caNegotiateBlockSize, hreq]
    split
    · exact ⟨_, rfl, hsound.szx2⟩
    rename_i hszx
    exact ⟨_, rfl, le_trans (not_lt.mp hszx) hsound.szx2⟩
  obtain ⟨b, hitems, hszx⟩ := hitems
  have hdata := caUpdateBlockData_block2 sto.1 hszx
  refine ⟨{ sto.1 with block2 := b }, sto.2.map Event.copy, ?_, hlen, hid⟩
  simp [updateFromResponse2, herr, h, hsto, hm, hitems, hdata]

variable {ctx : CABlockWiseContext} {rest : List CABlockData}

lemma response2_falls (hctx : EveryEntry SoundEntry ctx) (hreq : isRequestCode r.pdu.code = false)
    (herr : isBlockErrorCode r.pdu.code = false) (hm : block.m = true)
    (hid : ¬ (r.id.length < 1 ∨ 255 < r.id.length)) (hslot : slotOf ctx r.id = e :: rest)
    (hstored : 0 < e.receivedPayloadLen) (hfull : r.pdu.payload.length = blockSize block.szx) :
    let out := caSetNextBlockOption2 ctx r.pdu r.endpoint r.data block r.dataLen
    slotOf out.ctx r.id = rest
      ∨ ∃ e', slotOf out.ctx r.id = e' :: rest ∧ e'.receivedPayloadLen ≠ e.receivedPayloadLen := by
  obtain ⟨ctx', hslot', hset⟩ := caSetNextBlockOption2_response hreq
    (filedUnder_of_slot hid hslot .block2) r.data block r.dataLen
  change slotOf ctx' r.id = _ :: (slotOf ctx r.id).tail at hslot'
  rw [hslot, List.tail_cons] at hslot'
  change caSetNextBlockOption2 ctx r.pdu r.endpoint r.data block r.dataLen
    = finishNextStep ctx' r.pdu r.data r.id _ at hset
  have hsound : SoundEntry e := hctx.get (get_of_slotOf hslot)
  have hfile : e.blockDataId = r.id := blockDataId_of_get (get_of_slotOf hslot)
  have hpay : caGetPayloadInfo r.data = r.pdu.payload :=
    caGetPayloadInfo_caGenerateHandlerData _ _
  have hpos : 0 < r.pdu.payload.length := by
    rw [hfull, blockSize_eq]
    simp
  generalize hd : ({ e with type := some .block2 } : CABlockData) = d at hslot' hset
  have hdsound : SoundEntry d := by
    rw [← hd]
    exact soundEntry_rule.typed _ hsound
  have hdr : d.receivedPayloadLen = e.receivedPayloadLen := by rw [← hd]
  have hdid : d.blockDataId = r.id := by
    rw [← hd]
    exact hfile
  intro out
  change slotOf (caSetNextBlockOption2 ctx r.pdu r.endpoint r.data block r.dataLen).ctx r.id = _
    ∨ ∃ e', slotOf (caSetNextBlockOption2 ctx r.pdu r.endpoint r.data block r.dataLen).ctx r.id = _
      ∧ _
  rw [hset]
  have hcheck := check2_eq d block herr
  by_cases hnum : block.num = d.block2.num
  · -- the numbers agree: it is stored once more
    have hunknown : check2 d r.pdu r.data block r.dataLen
        = (.unknown, { d with payloadLength := r.pdu.size2.getD d.payloadLength }) := by
      rw [hcheck]
      apply caCheckBlockErrorType_next
      · exact hnum
      · rw [hpay]
        exact fun _ => hfull
      · intro hlast
        rw [hm] at hlast
        cases hlast
    obtain ⟨e', log, hupd, hlen, hfile'⟩ := response2_next hreq herr hdsound hm hnum hunknown
    obtain ⟨-, sentData, hkept⟩ := finish_answered r.pdu r.data e' log hslot'
      (hfile'.trans hdid) (.inr (.inl rfl))
    rw [hupd]
    refine .inr ⟨_, hkept, ?_⟩
    change e'.receivedPayloadLen ≠ _
    omega
  have hout : caCheckBlockErrorType
      { d with payloadLength := r.pdu.size2.getD d.payloadLength } block r.data .block2 r.dataLen
      = (if block.num > d.block2.num then .incomplete else .receivedAlready,
        { d with payloadLength := r.pdu.size2.getD d.payloadLength }) :=
    caCheckBlockErrorType_block2_ne hnum
  rw [← hcheck] at hout
  simp only [check2, herr, Bool.false_eq_true, if_false] at hout
  by_cases hgap : block.num > d.block2.num
  · -- too far ahead: a 4.08
    rw [if_pos hgap] at hout
    have hupd : updateFromResponse2 d r.pdu r.data block r.dataLen
        = ((caUpdateBlockData { d with payloadLength := r.pdu.size2.getD d.payloadLength } block
            .block2).map (·, .incomplete), []) := by
      simp [updateFromResponse2, herr, hout, caUpdatePayloadData, caUpdateBlockOptionItems]
    rw [hupd]
    by_cases hszx : block.szx ≤ 6
    · rw [caUpdateBlockData_block2 _ hszx, map_some]
      by_cases hres : (errorResponse d.sentData r.pdu caRequestEntityIncomplete).isSome = true
      · obtain ⟨-, hback⟩ := finish_restarted r.pdu r.data { d with
          payloadLength := r.pdu.size2.getD d.payloadLength, block2 := block } [] hslot' hdid hres
        refine .inr ⟨_, hback, ?_⟩
        change 0 ≠ _
        omega
      refine .inl (finish_unanswered r.pdu r.data { d with
        payloadLength := r.pdu.size2.getD d.payloadLength, block2 := block } [] hslot' hdid hres).2
    rw [caUpdateBlockData_large _ hszx, map_none]
    exact .inl (finish_failed r.pdu r.data [] hslot').2
  -- taken for a repetition, and then refused
  rw [if_neg hgap] at hout
  have hlt : d.block2.num > block.num := by omega
  have hupd : updateFromResponse2 d r.pdu r.data block r.dataLen = (none, []) := by
    simp [updateFromResponse2, herr, hout, caUpdateBlockOptionItems, if_pos hlt]
  rw [hupd]
  exact .inl (finish_failed r.pdu r.data [] hslot').2

lemma response_block1 (hreq : isRequestCode r.pdu.code = false)
    (herr : isBlockErrorCode r.pdu.code = false) (hblock : r.pdu.block2 = some block)
    (hid : ¬ (r.id.length < 1 ∨ 255 < r.id.length)) (hslot : slotOf ctx r.id = e :: rest) :
    let out1 := receiveBlock1 ctx r.pdu r.endpoint r.data r.dataLen
    (Block1Passed r e → out1.res ≠ .ok
        ∧ slotOf out1.ctx r.id = { e with type := some .block1 } :: rest)
      ∧ (¬ Block1Passed r e → (out1.res ≠ .ok ∧ slotOf out1.ctx r.id = rest)
        ∨ (out1.res = .ok ∧ ∃ e₁, slotOf out1.ctx r.id = e₁ :: rest
          ∧ e₁.receivedPayloadLen = e.receivedPayloadLen)) := by
  unfold receiveBlock1 Block1Passed
  rcases hblock1 : r.pdu.block1 with _ | block1
  · refine ⟨?_, fun _ => .inr ⟨rfl, e, hslot, rfl⟩⟩
    rintro ⟨_, hsome, -⟩
    cases hsome
  obtain ⟨ctx', hslot', hset⟩ := caSetNextBlockOption1_response hreq
    (filedUnder_of_slot hid hslot .block1) r.data block1 r.dataLen
  change slotOf ctx' r.id = _ :: (slotOf ctx r.id).tail at hslot'
  rw [hslot, List.tail_cons] at hslot'
  change caSetNextBlockOption1 ctx r.pdu r.endpoint r.data block1 r.dataLen
    = setNextFromResponse1 ctx' _ r.pdu r.data block1 r.id at hset
  have hfile : e.blockDataId = r.id := blockDataId_of_get (get_of_slotOf hslot)
  have hpassed : (∃ b, some block1 = some b ∧ b.m = true ∧ b.num < e.block1.num)
      ↔ block1.m = true ∧ block1.num < e.block1.num := by
    simp
  rw [hpassed]
  simp only [hset]
  unfold setNextFromResponse1
  by_cases hm : block1.m = true
  · simp only [hm, Bool.not_true, Bool.false_and, Bool.false_eq_true, if_false,
      caUpdateBlockOptionItems, herr, true_and]
    by_cases hlt : block1.num < e.block1.num
    · have hgt : e.block1.num > block1.num := hlt
      simp only [hgt, if_true, not_true_eq_false, false_implies, and_true, true_implies]
      exact ⟨CAResult.noConfusion, hslot'⟩
    have hgt : ¬ e.block1.num > block1.num := hlt
    simp only [hgt, if_false, false_implies, true_and, not_false_eq_true, true_implies]
    generalize caNegotiateBlockSize _ _ r.pdu .block1 = b
    by_cases hszx : b.szx ≤ 6
    · rw [caUpdateBlockData_block1 _ hszx, map_some]
      obtain ⟨hok, sentData, hkept⟩ := finish_answered r.pdu r.data
        { e with type := some .block1, block1 := b } [] hslot' hfile (.inr (.inr rfl))
      exact .inr ⟨hok, _, hkept, rfl⟩
    rw [caUpdateBlockData_large _ hszx, map_none]
    exact .inl (finish_failed r.pdu r.data [] hslot')
  -- the upload is over, and the answer begins
  simp only [hm, Bool.not_false, herr, Bool.and_self, if_true, hblock, Option.isSome_some,
    false_and, false_implies, true_and, not_false_eq_true, true_implies, Bool.false_eq_true]
  exact .inr ⟨_, slotOf_store hslot' hfile, rfl⟩

end Response

end Iochibity.Coap
