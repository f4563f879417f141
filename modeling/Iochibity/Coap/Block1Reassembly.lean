/-
Reassembly of a request body (Block1).
-/
import Iochibity.Coap.DuplicateSteps

namespace Iochibity.Coap

open Blocks
open List
open Runs (run run_cons run_log)

section

structure UploadTransfer extends BodyTransfer where
  isRequest : isRequestCode code = true
  large : 1024 < payload.length

namespace UploadTransfer

variable (t : UploadTransfer)

lemma payload_pos : 0 < t.payload.length := by
  have h := t.large
  omega

lemma last_pos : 0 < t.last := by
  have hlarge := t.large
  rw [BodyTransfer.last, lastBlock]
  apply Nat.div_pos
  · omega
  · omega

lemma last_eq_one_iff : t.last = 1 ↔ t.payload.length ≤ 2048 := by
  have hlarge := t.large
  rw [BodyTransfer.last, lastBlock]
  omega

def pdu (a : Arrival) : CoapPdu :=
  { type := a.type
    code := t.code
    id := a.id
    token := t.token
    block1 := some (t.option a.num)
    block2 := none
    size1 := t.size a.num
    size2 := none
    uri := t.uri
    payload := block 1024 t.payload a.num }

def receive (ctx : CABlockWiseContext) (a : Arrival) : CABlockWiseContext × List Event :=
  let out := caSetNextBlockOption1 ctx (t.pdu a) t.endpoint
    (caGenerateHandlerData t.endpoint (t.pdu a)) (t.option a.num) a.dataLen
  (out.ctx, out.log)

def deliveries (ctx : CABlockWiseContext) (as : List Arrival) : List (List UInt8) :=
  (run t.receive ctx as).2.filterMap Event.delivered

end UploadTransfer

/-- The receiver as a counter of blocks stored in a row; `none` before the
first message, which counts from zero. -/
def uploadStep (t : UploadTransfer) (s : Option Nat) (a : Arrival) :
    Option Nat × List (List UInt8) :=
  let k := s.getD 0
  if a.num = k then (some (k + 1), if a.num = t.last then [t.payload] else [])
  else if a.num > (k - 1) + 1 then (some 0, [])
  else (some k, if a.num = t.last then [if k = 0 then block 1024 t.payload a.num else t.payload]
    else [])

/-! ## The entry behind the counter -/

/-- The entry of a transfer that has stored `k` blocks in a row. -/
structure AtCount (t : UploadTransfer) (k : Nat) (e : CABlockData) : Prop where
  le_last : k ≤ t.last + 1
  num : e.block1.num = k - 1
  szx : e.block1.szx = 6
  received : e.receivedPayloadLen = min (1024 * k) t.payload.length
  empty : k = 0 → e.payload = none ∧ e.payloadLength = 0
  holds : 0 < k → HoldsPrefix t.payload (min (1024 * k) t.payload.length) e

section Entry

variable {t : UploadTransfer} {k : Nat} {e : CABlockData} {a : Arrival}

lemma AtCount.sentData (he : AtCount t k e) (type : Option BlockType) (sentData : CAData) :
    AtCount t k { e with type := type, sentData := sentData } := by
  refine ⟨he.le_last, he.num, he.szx, he.received, he.empty, ?_⟩
  intro hk
  obtain ⟨h1, h2, h3, h4⟩ := he.holds hk
  exact ⟨h1, h2, h3, h4⟩

lemma AtCount.offset_iff (he : AtCount t k e) (ha : a.num ≤ t.last) :
    e.receivedPayloadLen = blockSize (t.option a.num).szx * (t.option a.num).num ↔ a.num = k := by
  have hlt : 1024 * a.num < t.payload.length := t.prefix_le t.payload_pos ha
  rw [he.received, show blockSize (t.option a.num).szx = 1024 from rfl,
    show (t.option a.num).num = a.num from rfl]
  omega

section

variable (t : UploadTransfer) (a : Arrival)

lemma payload_pdu :
    caGetPayloadInfo (caGenerateHandlerData t.endpoint (t.pdu a)) = block 1024 t.payload a.num :=
  caGetPayloadInfo_caGenerateHandlerData _ _

lemma optionItems_eq {d : CABlockData} (hszx : d.block1.szx = 6) {status : CABlockState}
    (hstatus : status = .unknown ∨ status = .incomplete) :
    caUpdateBlockOptionItems d (t.pdu a) (t.option a.num) .block1 status
      = some (t.option a.num) := by
  have hcode : isBlockErrorCode (t.pdu a).code = false := isBlockErrorCode_of_request t.isRequest
  have hreq : isRequestCode (t.pdu a).code = true := t.isRequest
  have hneg : caNegotiateBlockSize d (t.option a.num) (t.pdu a) .block1 = t.option a.num := by
    have hle : ¬ (t.option a.num).szx > d.block1.szx := by rw [hszx]; exact Nat.lt_irrefl 6
    simp [caNegotiateBlockSize, hreq, if_neg hle]
  rcases hstatus with rfl | rfl
  · simp [caUpdateBlockOptionItems, hcode, hneg]
  · simp [caUpdateBlockOptionItems, hcode]

lemma blockData_eq (d : CABlockData) :
    caUpdateBlockData d (t.option a.num) .block1 = some { d with block1 := t.option a.num } :=
  caUpdateBlockData_block1 d (Nat.le_refl 6)

def nextStatus : CABlockState :=
  if a.num < t.last then .option1RequestBlock else .option1RequestLastBlock

lemma nextStatus_eq :
    (if (t.option a.num).m then CABlockState.option1RequestBlock else .option1RequestLastBlock)
      = nextStatus t a := by
  rw [t.option_m, nextStatus]
  by_cases h : a.num < t.last
  · simp [h]
  · simp [h]

end

lemma update_gap (he : AtCount t k e) (ha : a.num ≤ t.last) (hne : a.num ≠ k)
    (hgap : a.num > (k - 1) + 1) :
    updateFromRequest1 e (t.pdu a) (caGenerateHandlerData t.endpoint (t.pdu a)) (t.option a.num)
        a.dataLen = (some ({ e with block1 := t.option a.num }, .incomplete), []) := by
  have h0 : a.num ≠ 0 := by omega
  have hsize : caIsPayloadLengthInPduWithBlockSizeOption e (t.pdu a).size1 = (false, e) := by
    rw [UploadTransfer.pdu, t.sizeOption_eq, if_neg h0]
  have hoff : e.receivedPayloadLen ≠ blockSize (t.option a.num).szx * (t.option a.num).num :=
    fun h => hne ((he.offset_iff ha).mp h)
  have hgap' : (t.option a.num).num > e.block1.num + 1 := by
    rw [he.num]
    exact hgap
  have hstore : ∀ isSize, caUpdatePayloadData e (caGenerateHandlerData t.endpoint (t.pdu a))
      .incomplete isSize .block1 = (e, []) := by
    intro isSize
    simp [caUpdatePayloadData]
  simp [updateFromRequest1, hsize, caCheckBlockErrorType_block1_ne hoff, if_pos hgap', hstore,
    optionItems_eq t a he.szx (.inr rfl), blockData_eq]

lemma update_repeat (he : AtCount t k e) (ha : a.num ≤ t.last) (hne : a.num ≠ k)
    (hgap : ¬ a.num > (k - 1) + 1) :
    ∃ e', updateFromRequest1 e (t.pdu a) (caGenerateHandlerData t.endpoint (t.pdu a))
        (t.option a.num) a.dataLen = (some (e', nextStatus t a), [])
      ∧ AtCount t k e' ∧ e'.blockDataId = e.blockDataId := by
  -- with the size option of block 0 the entry is as before: it had that length
  have hsize : ∀ d, d = (caIsPayloadLengthInPduWithBlockSizeOption e (t.pdu a).size1).2 →
      AtCount t k d ∧ d.block1.num = e.block1.num ∧ d.blockDataId = e.blockDataId := by
    rintro d rfl
    rw [UploadTransfer.pdu, t.sizeOption_eq]
    by_cases h0 : a.num = 0
    · rw [if_pos h0]
      have hk : 0 < k := by omega
      obtain ⟨h1, h2, h3, h4⟩ := he.holds hk
      refine ⟨⟨he.le_last, he.num, he.szx, he.received, ?_, fun _ => ⟨h1, h2, rfl, h4⟩⟩, rfl, rfl⟩
      intro hk0
      omega
    rw [if_neg h0]
    exact ⟨he, rfl, rfl⟩
  obtain ⟨hd, hnum, hid⟩ := hsize _ rfl
  generalize hdef : caIsPayloadLengthInPduWithBlockSizeOption e (t.pdu a).size1 = opt at hd hnum hid
  have hoff : opt.2.receivedPayloadLen ≠ blockSize (t.option a.num).szx * (t.option a.num).num :=
    fun h => hne ((hd.offset_iff ha).mp h)
  have hgap' : ¬ (t.option a.num).num > opt.2.block1.num + 1 := by
    rw [hd.num]
    exact hgap
  refine ⟨opt.2, ?_, hd, hid⟩
  simp [updateFromRequest1, hdef, caCheckBlockErrorType_block1_ne hoff, if_neg hgap', nextStatus_eq]

lemma update_next (he : AtCount t k e) (hk : k ≤ t.last) (ha : a.num = k) :
    ∃ e' copies, updateFromRequest1 e (t.pdu a) (caGenerateHandlerData t.endpoint (t.pdu a))
        (t.option a.num) a.dataLen = (some (e', nextStatus t a), List.map Event.copy copies)
      ∧ AtCount t (k + 1) e' ∧ e'.blockDataId = e.blockDataId
      ∧ e'.block1 = t.option a.num ∧ e'.type = e.type ∧ e'.sentData = e.sentData := by
  subst ha
  have hlt : 1024 * a.num < t.payload.length := t.prefix_le t.payload_pos hk
  have hreceived : e.receivedPayloadLen = 1024 * a.num := by rw [he.received]; omega
  have hholds : 0 < a.num → HoldsPrefix t.payload (1024 * a.num) e := by
    intro hpos
    have h := he.holds hpos
    rwa [Nat.min_eq_left (Nat.le_of_lt hlt)] at h
  generalize hdef : caIsPayloadLengthInPduWithBlockSizeOption e (t.pdu a).size1 = opt
  have hopt : opt = caIsPayloadLengthInPduWithBlockSizeOption e (t.size a.num) := hdef.symm
  have hcheck : caCheckBlockErrorType opt.2 (t.option a.num)
      (caGenerateHandlerData t.endpoint (t.pdu a)) .block1 a.dataLen = (.unknown, opt.2) := by
    rw [hopt]
    exact t.check_next t.payload_pos hk (payload_pdu t a) hreceived hholds .block1 a.dataLen
      (t.sizeOption_received a.num e ▸ hreceived)
  have hstore : HoldsPrefix t.payload (min (1024 * (a.num + 1)) t.payload.length)
      (caUpdatePayloadData opt.2 (caGenerateHandlerData t.endpoint (t.pdu a)) .unknown opt.1
        .block1).1 := by
    rw [hopt]
    exact t.store_next t.payload_pos hk (payload_pdu t a) hreceived hholds .block1
  have hblock1 : (caUpdatePayloadData opt.2 (caGenerateHandlerData t.endpoint (t.pdu a)) .unknown
      opt.1 .block1).1.block1 = e.block1 := by
    rw [(caUpdatePayloadData_keeps opt.2 _ _ .unknown opt.1).1, hopt, t.sizeOption_block1]
  have hszx : (caUpdatePayloadData opt.2 (caGenerateHandlerData t.endpoint (t.pdu a)) .unknown
      opt.1 .block1).1.block1.szx = 6 := by rw [hblock1, he.szx]
  refine ⟨{ (caUpdatePayloadData opt.2 (caGenerateHandlerData t.endpoint (t.pdu a)) .unknown
      opt.1 .block1).1 with block1 := t.option a.num },
    (caUpdatePayloadData opt.2 (caGenerateHandlerData t.endpoint (t.pdu a)) .unknown opt.1
      .block1).2, ?_, ?_, ?_, rfl, ?_, ?_⟩
  · simp [updateFromRequest1, hdef, hcheck, optionItems_eq t a hszx (.inl rfl), blockData_eq,
      nextStatus_eq]
  · refine ⟨by omega, by rfl, rfl, hstore.received, by omega, ?_⟩
    intro _
    obtain ⟨h1, h2, h3, h4⟩ := hstore
    exact ⟨h1, h2, h3, h4⟩
  · show (caUpdatePayloadData opt.2 (caGenerateHandlerData t.endpoint (t.pdu a)) .unknown opt.1
      .block1).1.blockDataId = e.blockDataId
    rw [caUpdatePayloadData_blockDataId, ← hdef, caIsPayloadLength_blockDataId]
  · rw [(caUpdatePayloadData_keeps opt.2 _ _ .unknown opt.1).2.2.1, hopt, t.sizeOption_type]
  · rw [(caUpdatePayloadData_keeps opt.2 _ _ .unknown opt.1).2.2.2.1, hopt, t.sizeOption_sentData]

end Entry

/-! ## The simulation -/

/-- The list and the counter describe the same receiver: no entry, or exactly
one, which has stored that many blocks. -/
def Counts (t : UploadTransfer) (ctx : CABlockWiseContext) : Option Nat → Prop
  | none => slotOf ctx t.id = []
  | some k => ∃ e, slotOf ctx t.id = [e] ∧ AtCount t k e

section Simulation

variable {t : UploadTransfer} {ctx : CABlockWiseContext} {s : Option Nat} {a : Arrival}

lemma receive_entry (htoken : t.token.bytes ≠ []) (hc : Counts t ctx s) :
    ∃ ctx' e, caSetNextBlockOption1 ctx (t.pdu a) t.endpoint
        (caGenerateHandlerData t.endpoint (t.pdu a)) (t.option a.num) a.dataLen
        = finishNextStep ctx' (t.pdu a) (caGenerateHandlerData t.endpoint (t.pdu a)) t.id
            (updateFromRequest1 e (t.pdu a) (caGenerateHandlerData t.endpoint (t.pdu a))
              (t.option a.num) a.dataLen)
      ∧ slotOf ctx' t.id = [e] ∧ AtCount t (s.getD 0) e ∧ e.blockDataId = t.id := by
  have hreq : isRequestCode (t.pdu a).code = true := t.isRequest
  have hid : pduBlockId (t.pdu a) t.endpoint = t.id := rfl
  have hexist : ∃ ctx' e, caCheckTheExistOfBlockData ctx t.id (t.pdu a) t.endpoint .block1
      = some ctx' ∧ slotOf ctx' t.id = [e] ∧ AtCount t (s.getD 0) e := by
    cases s with
    | none =>
      have hslot0 : slotOf ctx (pduBlockId (t.pdu a) t.endpoint) = [] := hc
      obtain ⟨cadata, hnew⟩ : ∃ cadata, (caCreateNewDataSet (t.pdu a) t.endpoint).bind
          (fillResourceUri ctx (pduBlockId (t.pdu a) t.endpoint)) = some cadata := by
        have htoken' : (t.pdu a).token.bytes ≠ [] := htoken
        rw [caCreateNewDataSet, if_neg htoken', if_pos hreq]
        exact ⟨_, rfl⟩
      obtain ⟨ctx', hctx', hslot⟩ := caCheckTheExist_made hslot0 hnew .block1
      refine ⟨ctx', _, hctx', hslot, ?_⟩
      exact ⟨Nat.zero_le _, rfl, rfl, by simp [newBlockData], fun _ => ⟨rfl, rfl⟩, by simp⟩
    | some k =>
      obtain ⟨e, hslot, he⟩ := hc
      obtain ⟨ctx', hctx', hslot', -⟩ :=
        caCheckTheExist_found (t.pdu a) hslot t.endpoint .block1
      exact ⟨ctx', _, hctx', hslot', he.sentData _ _⟩
  obtain ⟨ctx', e, hctx', hslot, he⟩ := hexist
  refine ⟨ctx', e, ?_, hslot, he, blockDataId_of_get (get_of_slotOf hslot)⟩
  simp only [caSetNextBlockOption1, hid, if_neg t.id_length, hctx', get_of_slotOf hslot, hreq,
    if_true]

lemma finish_nextStatus {ctx' : CABlockWiseContext} {e data : CABlockData} {k : Nat}
    (hslot : slotOf ctx' t.id = [e]) (hid : data.blockDataId = t.id) (hdata : AtCount t k data)
    (ha : a.num ≤ t.last) (log : List Event) (hlog : log.filterMap Event.delivered = [])
    (hk : k = 0 ∨ a.num < t.last ∨ k = t.last + 1) :
    Counts t (finishNextStep ctx' (t.pdu a) (caGenerateHandlerData t.endpoint (t.pdu a)) t.id
        (some (data, nextStatus t a), log)).ctx (some k)
      ∧ (finishNextStep ctx' (t.pdu a) (caGenerateHandlerData t.endpoint (t.pdu a)) t.id
          (some (data, nextStatus t a), log)).log.filterMap Event.delivered
        = if a.num = t.last then [if k = 0 then block 1024 t.payload a.num else t.payload]
          else [] := by
  by_cases hlt : a.num < t.last
  · obtain ⟨sentData, hslot', hdel⟩ := finishNextStep_answered (t.pdu a)
      (caGenerateHandlerData t.endpoint (t.pdu a)) hslot hid (.inl rfl) log
    rw [nextStatus, if_pos hlt, if_neg (Nat.ne_of_lt hlt)]
    exact ⟨⟨_, hslot', hdata.sentData _ _⟩, hdel.trans hlog⟩
  have heq : a.num = t.last := by omega
  have hget := get_of_slotOf (slotOf_store hslot hid)
  have hlast : (caReceiveLastBlock (modifyBlockData ctx' t.id (fun _ => data)) t.id
        (caGenerateHandlerData t.endpoint (t.pdu a))).1 = .ok
      ∧ (caReceiveLastBlock (modifyBlockData ctx' t.id (fun _ => data)) t.id
        (caGenerateHandlerData t.endpoint (t.pdu a))).2.filterMap Event.delivered
        = [if k = 0 then block 1024 t.payload a.num else t.payload] := by
    by_cases hk0 : k = 0
    · rw [if_pos hk0, caReceiveLastBlock_unbuffered _ hget (hdata.empty hk0).1]
      refine ⟨rfl, ?_⟩
      simp only [filterMap_cons, filterMap_nil, Event.delivered, payload_pdu]
    have hall : k = t.last + 1 := by omega
    have hfull : min (1024 * k) t.payload.length = t.payload.length := by
      obtain ⟨-, hhi⟩ := lastBlock_bounds (b := 1024) (by omega) t.payload_pos
      rw [hall, BodyTransfer.last]
      omega
    have hholds := hdata.holds (by omega)
    rw [hfull] at hholds
    rw [if_neg hk0]
    exact receiveLast_of_complete (t.pdu a) t.endpoint t.payload_pos hget hholds
  rw [nextStatus, if_neg hlt, if_pos heq]
  obtain ⟨hslot', hdel⟩ := finishNextStep_requestLast (t.pdu a) _ hslot hid log hlast
  exact ⟨⟨data, hslot', hdata⟩, by rw [hdel, hlog]; rfl⟩

lemma receive_step (htoken : t.token.bytes ≠ []) (ha : a.num ≤ t.last) (hc : Counts t ctx s) :
    Counts t (t.receive ctx a).1 (uploadStep t s a).1
      ∧ (t.receive ctx a).2.filterMap Event.delivered = (uploadStep t s a).2 := by
  obtain ⟨ctx', e, hset, hslot, he, hid⟩ := receive_entry (a := a) htoken hc
  have hreceive : t.receive ctx a
      = ((finishNextStep ctx' (t.pdu a) (caGenerateHandlerData t.endpoint (t.pdu a)) t.id
            (updateFromRequest1 e (t.pdu a) (caGenerateHandlerData t.endpoint (t.pdu a))
              (t.option a.num) a.dataLen)).ctx,
          (finishNextStep ctx' (t.pdu a) (caGenerateHandlerData t.endpoint (t.pdu a)) t.id
            (updateFromRequest1 e (t.pdu a) (caGenerateHandlerData t.endpoint (t.pdu a))
              (t.option a.num) a.dataLen)).log) := by
    rw [UploadTransfer.receive, hset]
  rw [hreceive, uploadStep]
  dsimp only
  generalize s.getD 0 = k at he ⊢
  have hle := he.le_last
  by_cases heq : a.num = k
  · -- the next block
    obtain ⟨e', copies, hupd, he', hid', -⟩ := update_next he (by omega) heq
    rw [if_pos heq, hupd]
    obtain ⟨hcount, hdel⟩ := finish_nextStatus (a := a) hslot (hid'.trans hid) he' ha _
      (delivered_copies copies) (by omega)
    refine ⟨hcount, ?_⟩
    simp [hdel]
  rw [if_neg heq]
  by_cases hgap : a.num > (k - 1) + 1
  · -- too far ahead: answered 4.08, and the entry starts over
    rw [if_pos hgap, update_gap he ha heq hgap]
    have hres : ∃ res, errorResponse { e with block1 := t.option a.num }.sentData (t.pdu a)
        caRequestEntityIncomplete = some res := by
      rw [errorResponse]
      cases e.sentData.responseInfo with
      | some res => exact ⟨_, rfl⟩
      | none =>
        have htoken' : (t.pdu a).token.bytes ≠ [] := htoken
        dsimp only
        rw [if_neg htoken']
        exact ⟨_, rfl⟩
    have hid' : ({ e with block1 := t.option a.num } : CABlockData).blockDataId = t.id := hid
    obtain ⟨hslot', hdel⟩ := finishNextStep_incomplete (t.pdu a)
      (caGenerateHandlerData t.endpoint (t.pdu a)) hslot hid' hres []
    refine ⟨⟨_, hslot', ?_⟩, hdel⟩
    exact ⟨Nat.zero_le _, rfl, rfl, by simp [CABlockData.restart], fun _ => ⟨rfl, rfl⟩, by simp⟩
  -- a repetition, or block 1 on an empty entry
  obtain ⟨e', hupd, he', hid'⟩ := update_repeat he ha heq hgap
  rw [if_neg hgap, hupd]
  exact finish_nextStatus (a := a) hslot (hid'.trans hid) he' ha [] rfl (by omega)

lemma receive_without_token (htoken : t.token.bytes = []) (hslot : slotOf ctx t.id = []) :
    slotOf (t.receive ctx a).1 t.id = [] ∧ (t.receive ctx a).2 = [] := by
  have hid : pduBlockId (t.pdu a) t.endpoint = t.id := rfl
  have htoken' : (t.pdu a).token.bytes = [] := htoken
  have hget : caGetBlockDataFromBlockDataList ctx t.id = none := by
    rw [caGetBlockData_eq_head?, hslot]
    rfl
  have hexist : caCheckTheExistOfBlockData ctx t.id (t.pdu a) t.endpoint .block1 = none := by
    rw [caCheckTheExistOfBlockData, hget, caCreateNewDataSet, if_pos htoken']
    rfl
  simp only [UploadTransfer.receive, caSetNextBlockOption1, hid, if_neg t.id_length, hexist]
  refine ⟨?_, trivial⟩
  rw [slotOf_remove_self, hslot]
  rfl

end Simulation

variable {t : UploadTransfer} {ctx : CABlockWiseContext} {as : List Arrival}

lemma deliveries_eq (htoken : t.token.bytes ≠ []) (hctx : slotOf ctx t.id = [])
    (has : ∀ a ∈ as, a.num ≤ t.last) :
    t.deliveries ctx as = (run (uploadStep t) none as).2 := by
  have hstep : ∀ (ctx : CABlockWiseContext) (s : Option Nat) (a : Arrival), a.num ≤ t.last →
      Counts t ctx s →
      Counts t (t.receive ctx a).1 (uploadStep t s a).1
        ∧ (t.receive ctx a).2.filterMap Event.delivered = (uploadStep t s a).2 :=
    fun ctx s a ha hc => receive_step htoken ha hc
  have hstart : Counts t ctx none := hctx
  exact (Runs.run_sim hstep hstart has).2

lemma deliveries_without_token (as : List Arrival) (htoken : t.token.bytes = [])
    (hctx : slotOf ctx t.id = []) :
    t.deliveries ctx as = [] := by
  have hlog : ∀ ev ∈ (run t.receive ctx as).2, Event.delivered ev = none := by
    refine run_log (slotOf · t.id = []) (fun _ => True) ?_ hctx (fun _ _ => trivial)
    intro ctx a _ hslot
    obtain ⟨hslot', hnil⟩ := receive_without_token (a := a) htoken hslot
    refine ⟨hslot', ?_⟩
    intro ev hev
    rw [hnil] at hev
    cases hev
  rw [UploadTransfer.deliveries, filterMap_eq_nil_iff]
  exact hlog

/-! ## Integrity -/

section Integrity

variable {t : UploadTransfer}

lemma uploadStep_second {a : Arrival} (hlast : t.last = 1) (hone : a.num = 1) :
    (uploadStep t none a).2 = [block 1024 t.payload a.num] := by
  simp only [uploadStep, Option.getD_none, hone, hlast]
  rfl

lemma uploadRun_all {s : Option Nat} (hs : (∃ k, s = some k ∧ 1 ≤ k) ∨ 2 ≤ t.last)
    {as : List Arrival} (has : ∀ a ∈ as, a.num ≤ t.last) :
    ∀ p ∈ (run (uploadStep t) s as).2, p = t.payload := by
  refine run_log (fun s => (∃ k, s = some k ∧ 1 ≤ k) ∨ 2 ≤ t.last) (·.num ≤ t.last) ?_ hs has
  intro s a ha hs
  rw [uploadStep]
  have hk : 1 ≤ s.getD 0 ∨ 2 ≤ t.last := by
    rcases hs with ⟨k, rfl, hk⟩ | hlast
    · exact .inl hk
    · exact .inr hlast
  generalize s.getD 0 = k at hk ⊢
  by_cases heq : a.num = k
  · rw [if_pos heq]
    refine ⟨.inl ⟨k + 1, rfl, by omega⟩, ?_⟩
    intro p hp
    dsimp only at hp
    split at hp
    · exact mem_singleton.mp hp
    · cases hp
  rw [if_neg heq]
  by_cases hgap : a.num > (k - 1) + 1
  · rw [if_pos hgap]
    refine ⟨.inr (by omega), ?_⟩
    intro p hp
    cases hp
  rw [if_neg hgap]
  refine ⟨?_, ?_⟩
  · rcases hk with hk | hlast
    · exact .inl ⟨k, rfl, hk⟩
    · exact .inr hlast
  · intro p hp
    dsimp only at hp
    split at hp
    · rename_i hlast
      rw [if_neg (by omega)] at hp
      exact mem_singleton.mp hp
    · cases hp

end Integrity

/-- **Block1 integrity, exactly.** Feed the receiver, which has no entry for the
transfer, any sequence of its blocks. Everything it hands up is the body unless
the body has only two blocks and the sequence starts with the second. (A request
without a token is never taken at all.) -/
theorem block1_integrity_iff (t : UploadTransfer) (ctx : CABlockWiseContext)
    (hctx : slotOf ctx t.id = []) (as : List Arrival) (has : ∀ a ∈ as, a.num ≤ t.last) :
    (∀ p ∈ t.deliveries ctx as, p = t.payload)
      ↔ ¬ (t.token.bytes ≠ [] ∧ t.payload.length ≤ 2048 ∧ ∃ a, as.head? = some a ∧ a.num = 1) := by
  have hpos := t.last_pos
  by_cases htoken : t.token.bytes = []
  · rw [deliveries_without_token as htoken hctx]
    refine ⟨fun _ h => h.1 htoken, fun _ p hp => ?_⟩
    cases hp
  rw [deliveries_eq htoken hctx has, ← t.last_eq_one_iff]
  cases as with
  | nil =>
    refine ⟨?_, fun _ p hp => ?_⟩
    · rintro - ⟨-, -, a, ha, -⟩
      cases ha
    · cases hp
  | cons a as =>
    have ha : a.num ≤ t.last := has a mem_cons_self
    have has' : ∀ b ∈ as, b.num ≤ t.last := fun b hb => has b (mem_cons_of_mem _ hb)
    rw [run_cons]
    constructor
    · rintro hall ⟨-, hlast, b, hb, hone⟩
      cases hb
      have hmem : block 1024 t.payload a.num ∈ (uploadStep t none a).2
            ++ (run (uploadStep t) (uploadStep t none a).1 as).2 := by
        rw [uploadStep_second hlast hone]
        simp
      have hlen := congrArg List.length (hall _ hmem)
      rw [length_block] at hlen
      have hlarge := t.large
      omega
    · intro hbad p hp
      rw [mem_append] at hp
      by_cases htwo : 2 ≤ t.last
      · have hrun := uploadRun_all (s := none) (.inr htwo) has p
        rw [run_cons, mem_append] at hrun
        exact hrun hp
      have hone : t.last = 1 := by omega
      have hzero : a.num = 0 := by
        by_contra hne
        exact hbad ⟨htoken, hone, a, rfl, by omega⟩
      have hstep : uploadStep t none a = (some 1, []) := by
        simp only [uploadStep, Option.getD_none, hzero, hone]
        rfl
      rw [hstep] at hp
      rcases hp with hp | hp
      · cases hp
      · exact uploadRun_all (.inl ⟨1, rfl, Nat.le_refl 1⟩) has' p hp

def sampleUpload : UploadTransfer :=
  { token := tokenOne
    endpoint := ⟨1, addrOne, 5683⟩
    code := caPost
    uri := none
    payload := List.replicate 1025 7
    addr_lt := addrOne_lt
    large := by rw [length_replicate]; decide
    isRequest := isRequestCode_caPost }

def sampleArrival (num : Nat) : Arrival := ⟨num, .confirm, 1, 1100⟩

lemma sampleUpload_last : sampleUpload.last = 1 := by
  rw [sampleUpload.last_eq_one_iff, sampleUpload]
  simp only [length_replicate]
  omega

lemma sampleArrival_le {num : Nat} (h : num ≤ 1) :
    (sampleArrival num).num ≤ sampleUpload.last := by
  rw [sampleUpload_last]
  exact h

theorem block1_integrity_sample :
    (∀ a ∈ [sampleArrival 0, sampleArrival 1, sampleArrival 1], a.num ≤ sampleUpload.last)
      ∧ ∀ p ∈ sampleUpload.deliveries ⟨[], []⟩ [sampleArrival 0, sampleArrival 1, sampleArrival 1],
        p = sampleUpload.payload := by
  have hnums : ∀ a ∈ [sampleArrival 0, sampleArrival 1, sampleArrival 1],
      a.num ≤ sampleUpload.last := by
    intro a ha
    simp only [mem_cons, not_mem_nil, or_false] at ha
    rcases ha with rfl | rfl | rfl
    · exact sampleArrival_le (Nat.zero_le 1)
    · exact sampleArrival_le (Nat.le_refl 1)
    · exact sampleArrival_le (Nat.le_refl 1)
  refine ⟨hnums, (block1_integrity_iff sampleUpload ⟨[], []⟩ rfl _ hnums).mpr ?_⟩
  -- the first block comes first, so the bad case does not apply
  rintro ⟨-, -, a, ha, hone⟩
  cases ha
  cases hone

theorem block1_integrity_fails :
    sampleUpload.deliveries ⟨[], []⟩ [sampleArrival 1] = [[7]] ∧ [7] ≠ sampleUpload.payload := by
  have has : ∀ a ∈ [sampleArrival 1], a.num ≤ sampleUpload.last := by
    intro a ha
    rw [mem_singleton.mp ha]
    exact sampleArrival_le (Nat.le_refl 1)
  have htoken : sampleUpload.token.bytes ≠ [] := by decide
  refine ⟨?_, ?_⟩
  · have hblock : block 1024 sampleUpload.payload (sampleArrival 1).num = [7] := by
      simp only [block, sampleArrival, sampleUpload, drop_replicate, take_replicate]
      rfl
    have hone : (sampleArrival 1).num = 1 := rfl
    rw [deliveries_eq htoken rfl has, run_cons, Runs.run_nil, append_nil,
      uploadStep_second sampleUpload_last hone, hblock]
  · intro h
    have hlen := congrArg List.length h
    simp only [sampleUpload, length_replicate, length_cons, length_nil] at hlen
    omega

/-! ## Repetitions -/

/-- `l` comes from `base` by repeating elements at later points. -/
inductive Repeats {α : Type} (base : List α) : List α → Prop
  | base : Repeats base base
  | again (l₁ l₂ l₃ : List α) (a : α) (h : Repeats base (l₁ ++ a :: l₂ ++ l₃)) :
      Repeats base (l₁ ++ a :: l₂ ++ a :: l₃)

def advance (k : Nat) (as : List Arrival) : Nat :=
  as.foldl (fun k a => if a.num = k then k + 1 else k) k

def InOrder : Nat → List Arrival → Prop
  | _, [] => True
  | k, a :: as => a.num ≤ k ∧ InOrder (if a.num = k then k + 1 else k) as

section Repeats

lemma le_advance (k : Nat) (as : List Arrival) : k ≤ advance k as := by
  induction as generalizing k with
  | nil => exact Nat.le_refl k
  | cons a as ih =>
    refine Nat.le_trans ?_ (ih _)
    dsimp only
    split <;> omega

lemma inOrder_append (k : Nat) (as bs : List Arrival) :
    InOrder k (as ++ bs) ↔ InOrder k as ∧ InOrder (advance k as) bs := by
  induction as generalizing k with
  | nil => exact (true_and _).symm.to_iff
  | cons a as ih =>
    rw [cons_append, InOrder, InOrder, ih, and_assoc]
    rfl

variable {as : List Arrival}

lemma num_lt_advance {k : Nat} {a : Arrival} (h : InOrder k as)
    (ha : a ∈ as) : a.num < advance k as := by
  induction as generalizing k with
  | nil => cases ha
  | cons b as ih =>
    obtain ⟨hb, has⟩ := h
    rcases mem_cons.mp ha with rfl | ha
    · have hle := le_advance (if a.num = k then k + 1 else k) as
      show a.num < advance (if a.num = k then k + 1 else k) as
      split at hle
      · rename_i heq
        rw [if_pos heq]
        omega
      rename_i hne
      rw [if_neg hne]
      omega
    · exact ih has ha

lemma inOrder_of_repeats {base : List Arrival} (h : Repeats base as) (hbase : InOrder 0 base) :
    InOrder 0 as := by
  induction h with
  | base => exact hbase
  | again l₁ l₂ l₃ a _ ih =>
    rw [inOrder_append] at ih ⊢
    obtain ⟨hpre, hpost⟩ := ih
    have hlt : a.num < advance 0 (l₁ ++ a :: l₂) :=
      num_lt_advance hpre (mem_append_right _ mem_cons_self)
    refine ⟨hpre, Nat.le_of_lt hlt, ?_⟩
    rw [if_neg (Nat.ne_of_lt hlt)]
    exact hpost

lemma inOrder_range {k n : Nat} (h : as.map Arrival.num = List.range' k n) : InOrder k as := by
  induction as generalizing k n with
  | nil => trivial
  | cons a as ih =>
    cases n with
    | zero => cases h
    | succ n =>
      rw [map_cons, range'_succ, List.cons.injEq] at h
      obtain ⟨ha, has⟩ := h
      refine ⟨Nat.le_of_eq ha, ?_⟩
      rw [if_pos ha]
      exact ih has

lemma mem_of_repeats {α : Type} {base l : List α} (h : Repeats base l) {a : α} (ha : a ∈ l) :
    a ∈ base := by
  induction h with
  | base => exact ha
  | again l₁ l₂ l₃ b _ ih =>
    apply ih
    simp only [mem_append, mem_cons] at ha ⊢
    tauto

lemma mem_repeats {α : Type} {base l : List α} (h : Repeats base l) {a : α} (ha : a ∈ base) :
    a ∈ l := by
  induction h with
  | base => exact ha
  | again l₁ l₂ l₃ b _ ih =>
    simp only [mem_append, mem_cons] at ih ⊢
    tauto

end Repeats

/-! ## How often the body goes up -/

lemma uploadRun_inOrder {s : Option Nat} (has : InOrder (s.getD 0) as) :
    (run (uploadStep t) s as).2.length = as.countP (·.num = t.last) := by
  induction as generalizing s with
  | nil => rfl
  | cons a as ih =>
    obtain ⟨ha, has'⟩ := has
    rw [run_cons, length_append, countP_cons]
    have hstep : (uploadStep t s a).2.length = (if a.num = t.last then 1 else 0)
        ∧ (uploadStep t s a).1.getD 0 = if a.num = s.getD 0 then s.getD 0 + 1 else s.getD 0 := by
      rw [uploadStep]
      generalize s.getD 0 = k at ha ⊢
      by_cases heq : a.num = k
      · rw [if_pos heq, if_pos heq]
        refine ⟨?_, rfl⟩
        split <;> rfl
      rw [if_neg heq, if_neg heq, if_neg (by omega)]
      refine ⟨?_, rfl⟩
      split <;> rfl
    obtain ⟨hlen, hnext⟩ := hstep
    rw [ih (by rw [hnext]; exact has'), hlen]
    simp only [decide_eq_true_eq]
    omega

/-- **At-most-once delivery, exactly.** Take the blocks of a body in order and
repeat any of them at later points. The body goes up at most once exactly if
the last block is not repeated. (A request without a token never goes up.) -/
theorem block1_at_most_once_iff (t : UploadTransfer) (ctx : CABlockWiseContext)
    (hctx : slotOf ctx t.id = []) (base as : List Arrival)
    (hbase : base.map Arrival.num = List.range (t.last + 1)) (has : Repeats base as) :
    (t.deliveries ctx as).length ≤ 1
      ↔ t.token.bytes = [] ∨ as.countP (fun a => a.num = t.last) = 1 := by
  by_cases htoken : t.token.bytes = []
  · rw [deliveries_without_token as htoken hctx]
    exact ⟨fun _ => .inl htoken, fun _ => Nat.zero_le 1⟩
  have hle : ∀ a ∈ as, a.num ≤ t.last := by
    intro a ha
    have hmem : a.num ∈ base.map Arrival.num := mem_map_of_mem (mem_of_repeats has ha)
    rw [hbase, mem_range] at hmem
    omega
  have horder : InOrder ((none : Option Nat).getD 0) as :=
    inOrder_of_repeats has (inOrder_range (by rw [hbase, range_eq_range']))
  have hone : 1 ≤ as.countP (fun a => a.num = t.last) := by
    have hmem : t.last ∈ base.map Arrival.num := by
      rw [hbase, mem_range]
      omega
    obtain ⟨a, ha, hnum⟩ := mem_map.mp hmem
    exact countP_pos_iff.mpr ⟨a, mem_repeats has ha, decide_eq_true hnum⟩
  rw [deliveries_eq htoken hctx hle, uploadRun_inOrder horder]
  constructor
  · intro h
    exact .inr (by omega)
  · rintro (h | h)
    · exact absurd h htoken
    · omega

theorem block1_at_most_once_sample :
    (sampleUpload.deliveries ⟨[], []⟩
      [sampleArrival 0, sampleArrival 0, sampleArrival 1]).length ≤ 1 := by
  refine (block1_at_most_once_iff sampleUpload ⟨[], []⟩ rfl [sampleArrival 0, sampleArrival 1] _
    ?_ ?_).mpr ?_
  · rw [sampleUpload_last]
    rfl
  · exact Repeats.again [] [] [sampleArrival 1] _ Repeats.base
  · rw [sampleUpload_last]
    exact .inr rfl

theorem block1_at_most_once_fails :
    Repeats [sampleArrival 0, sampleArrival 1] [sampleArrival 0, sampleArrival 1, sampleArrival 1]
      ∧ (sampleUpload.deliveries ⟨[], []⟩
          [sampleArrival 0, sampleArrival 1, sampleArrival 1]).length = 2 := by
  refine ⟨Repeats.again [sampleArrival 0] [] [] _ Repeats.base, ?_⟩
  have has : ∀ a ∈ [sampleArrival 0, sampleArrival 1, sampleArrival 1],
      a.num ≤ sampleUpload.last := by
    rw [sampleUpload_last]
    decide
  have horder : InOrder ((none : Option Nat).getD 0)
      [sampleArrival 0, sampleArrival 1, sampleArrival 1] := by
    simp [InOrder, sampleArrival]
  rw [deliveries_eq (by decide) rfl has, uploadRun_inOrder horder, sampleUpload_last]
  rfl

end

/-! ## The transfer of a block -/

/-- The block is accepted: the next one, and complete. A response block is checked after the Block1
option of its PDU; the last one ends the transfer. -/
def Accepts (ctx : CABlockWiseContext) (r : Received) (block : CoapBlock) : BlockType → Prop
  | .block1 =>
    isRequestCode r.pdu.code = true ∧ r.pdu.block1 = some block
      ∧ ∃ e, filedUnder ctx r.pdu r.endpoint .block1 = some e
        ∧ (check1 e r.pdu r.data block r.dataLen).1 = .unknown
  | .block2 =>
    let out1 := receiveBlock1 ctx r.pdu r.endpoint r.data r.dataLen
    (isRequestCode r.pdu.code = false ∧ r.pdu.code ≠ caEmpty ∧ isBlockErrorCode r.pdu.code = false)
      ∧ r.pdu.block2 = some block ∧ block.m = true
      ∧ out1.res = .ok ∧ ∃ e, filedUnder out1.ctx r.pdu r.endpoint .block2 = some e
        ∧ (check2 e r.pdu r.data block r.dataLen).1 = .unknown

/-- The block was accepted, and its transfer has gone on since: the entry is there and has lost no
bytes. -/
inductive UnderWay (r : Received) (block : CoapBlock) (blockType : BlockType) :
    CABlockWiseContext → Prop
  | accepted {ctx : CABlockWiseContext} (hctx : Reached ctx) (h : Accepts ctx r block blockType) :
      UnderWay r block blockType (receivePdu ctx r).1
  | more {ctx : CABlockWiseContext} {input : ListInput} {e e' : CABlockData}
      (h : UnderWay r block blockType ctx)
      (hget : caGetBlockDataFromBlockDataList ctx r.id = some e)
      (hget' : caGetBlockDataFromBlockDataList (listStep ctx input) r.id = some e')
      (hle : e.receivedPayloadLen ≤ e'.receivedPayloadLen) :
      UnderWay r block blockType (listStep ctx input)

def CABlockData.blockNum (e : CABlockData) : BlockType → Nat
  | .block1 => e.block1.num
  | .block2 => e.block2.num

/-- Once more the same PDU: the entry stays in its place, with the same bytes and
the same block number. -/
def Harmless (ctx : CABlockWiseContext) (r : Received) (blockType : BlockType) : Prop :=
  ∃ e e' rest, slotOf ctx r.id = e :: rest ∧ slotOf (receivePdu ctx r).1 r.id = e' :: rest
    ∧ e'.payload = e.payload ∧ e'.receivedPayloadLen = e.receivedPayloadLen
    ∧ e'.blockNum blockType = e.blockNum blockType

section

variable (r : Received) (block : CoapBlock) (e : CABlockData)

def NothingToLose : Prop :=
  e.receivedPayloadLen = 0 ∧ block.szx ≤ 6
    ∧ (errorResponse e.sentData r.pdu caRequestEntityIncomplete).isSome = true

instance (r : Received) (block : CoapBlock) (e : CABlockData) :
    Decidable (NothingToLose r block e) :=
  inferInstanceAs (Decidable (_ ∧ _ ∧ _))

/-- A request block that is taken for a repetition: it does not stand where the
bytes end, and its number is not too far ahead. -/
def TakenForRepetition (block : CoapBlock) (e : CABlockData) : Prop :=
  e.receivedPayloadLen ≠ blockSize block.szx * block.num ∧ block.num ≤ e.block1.num + 1

/-- A request block that does stand there is an empty last one. It is accepted again if the
announced length is still right. -/
def AcceptedAgain : Prop :=
  e.receivedPayloadLen = blockSize block.szx * block.num ∧ block.num = e.block1.num
    ∧ (r.pdu.size1.getD e.payloadLength = 0
      ∨ r.pdu.size1.getD e.payloadLength = e.receivedPayloadLen ∨ NothingToLose r block e)

instance (block : CoapBlock) (e : CABlockData) : Decidable (TakenForRepetition block e) :=
  inferInstanceAs (Decidable (_ ∧ _))

instance (r : Received) (block : CoapBlock) (e : CABlockData) :
    Decidable (AcceptedAgain r block e) :=
  inferInstanceAs (Decidable (_ ∧ _ ∧ (_ ∨ _ ∨ _)))

/-- **The condition**, on the entry before. A response block is safe only when the
Block1 option of its PDU is refused. -/
def DuplicateFits : BlockType → Prop
  | .block1 => TakenForRepetition block e ∨ AcceptedAgain r block e
  | .block2 => Block1Passed r e

end

/-! ## Once more the same PDU -/

section Duplicate

variable {ctx : CABlockWiseContext} {r : Received} {block : CoapBlock} {blockType : BlockType}
  {e : CABlockData} {rest : List CABlockData}

lemma harmless_iff (hslot : slotOf ctx r.id = e :: rest) :
    Harmless ctx r blockType
      ↔ ∃ e', slotOf (receivePdu ctx r).1 r.id = e' :: rest ∧ e'.payload = e.payload
        ∧ e'.receivedPayloadLen = e.receivedPayloadLen
        ∧ e'.blockNum blockType = e.blockNum blockType := by
  constructor
  · rintro ⟨e₀, e', rest₀, hslot₀, hafter⟩
    rw [hslot, List.cons.injEq] at hslot₀
    rw [← hslot₀.1, ← hslot₀.2] at hafter
    exact ⟨e', hafter⟩
  · rintro ⟨e', hafter⟩
    exact ⟨e, e', rest, hslot, hafter⟩

lemma not_harmless_of_gone (hslot : slotOf ctx r.id = e :: rest)
    (hafter : slotOf (receivePdu ctx r).1 r.id = rest) : ¬ Harmless ctx r blockType := by
  rw [harmless_iff hslot]
  rintro ⟨e', hstays, -⟩
  rw [hafter] at hstays
  have hlength := congrArg List.length hstays
  rw [List.length_cons] at hlength
  omega

lemma harmless_iff_of_stays {e' : CABlockData} (hslot : slotOf ctx r.id = e :: rest)
    (hafter : slotOf (receivePdu ctx r).1 r.id = e' :: rest) :
    Harmless ctx r blockType ↔ e'.payload = e.payload ∧ e'.receivedPayloadLen = e.receivedPayloadLen
      ∧ e'.blockNum blockType = e.blockNum blockType := by
  rw [harmless_iff hslot, hafter]
  constructor
  · rintro ⟨e'', hsame, h⟩
    rw [List.cons.injEq] at hsame
    rw [hsame.1]
    exact h
  · exact fun h => ⟨e', rfl, h⟩

section Request

def announced (r : Received) (e : CABlockData) : CABlockData :=
  { e with type := some .block1, payloadLength := r.pdu.size1.getD e.payloadLength }

lemma check1_announced :
    check1 { e with type := some .block1 } r.pdu r.data block r.dataLen
      = caCheckBlockErrorType (announced r e) block r.data .block1 r.dataLen := by
  rw [check1, sizeOption_snd]
  rfl

variable (hctx : EveryEntry SoundEntry ctx) (hreq : isRequestCode r.pdu.code = true)
  (hblock : r.pdu.block1 = some block) (hid : ¬ (r.id.length < 1 ∨ 255 < r.id.length))
  (hslot : slotOf ctx r.id = e :: rest)
include hctx hreq hblock hid hslot

lemma request_work :
    ∃ ctx', slotOf ctx' r.id = { e with type := some .block1 } :: rest
      ∧ ∀ out, out = finishNextStep ctx' r.pdu r.data r.id
          (updateFromRequest1 { e with type := some .block1 } r.pdu r.data block r.dataLen) →
        (out.res ≠ .ok → (receivePdu ctx r).1 = out.ctx)
          ∧ (out.res = .ok → ∀ e₁ rest₁, slotOf out.ctx r.id = e₁ :: rest₁ →
            ∃ e', slotOf (receivePdu ctx r).1 r.id = e' :: rest₁
              ∧ e'.payload = e₁.payload ∧ e'.receivedPayloadLen = e₁.receivedPayloadLen
              ∧ e'.block1 = e₁.block1) := by
  have hdone := receive_request hctx hreq hblock hid
  obtain ⟨ctx', hslot', hset⟩ := caSetNextBlockOption1_request hreq
    (filedUnder_of_slot hid hslot .block1) r.data block r.dataLen
  change slotOf ctx' r.id = _ :: (slotOf ctx r.id).tail at hslot'
  rw [hslot, List.tail_cons] at hslot'
  refine ⟨ctx', hslot', ?_⟩
  rintro out rfl
  rw [hset] at hdone
  exact hdone

lemma harmless_of_repeat
    (hcheck : check1 { e with type := some .block1 } r.pdu r.data block r.dataLen
      = (.receivedAlready, announced r e)) : Harmless ctx r .block1 := by
  obtain ⟨ctx', hslot', hwork⟩ := request_work hctx hreq hblock hid hslot
  have hsound : SoundEntry e := hctx.get (get_of_slotOf hslot)
  have hold : e.blockDataId = r.id := blockDataId_of_get (get_of_slotOf hslot)
  have hfile : (announced r e).blockDataId = r.id := hold
  have hstill : SoundEntry (announced r e) := ⟨hsound.szx1, hsound.szx2, hsound.buffer⟩
  obtain ⟨hok, sentData, hkept⟩ := request_stays r block [] hslot' hfile hstill
  obtain ⟨-, hdone⟩ := hwork _ (by rw [request1_repeat hcheck])
  obtain ⟨e', hafter, hbytes, hlen, hoption⟩ := hdone hok _ _ hkept
  rw [harmless_iff_of_stays hslot hafter, hbytes, hlen]
  exact ⟨rfl, rfl, congrArg CoapBlock.num hoption⟩

lemma harmless_iff_refused (hfirst : e.receivedPayloadLen = 0 → block.num = 0)
    (hcheck : check1 { e with type := some .block1 } r.pdu r.data block r.dataLen
      = (.incomplete, announced r e)) :
    Harmless ctx r .block1 ↔ NothingToLose r block e ∧ block.num = e.block1.num := by
  obtain ⟨ctx', hslot', hwork⟩ := request_work hctx hreq hblock hid hslot
  have hsound : SoundEntry e := hctx.get (get_of_slotOf hslot)
  have hold : e.blockDataId = r.id := blockDataId_of_get (get_of_slotOf hslot)
  have hfile : (announced r e).blockDataId = r.id := hold
  obtain ⟨hfailed, hdone⟩ := hwork _ (by rw [request1_incomplete hreq hcheck])
  have hend := request_refused r block (announced r e) hslot' hfile
  by_cases hcan : block.szx ≤ 6
      ∧ (errorResponse (announced r e).sentData r.pdu caRequestEntityIncomplete).isSome = true
  · rw [if_pos hcan] at hend
    obtain ⟨e', hafter, hbytes, hlen, hoption⟩ := hdone hend.1 _ _ hend.2
    have hnum : e'.block1.num = 0 := by
      rw [hoption]
      rfl
    rw [harmless_iff_of_stays hslot hafter, hbytes, hlen]
    change none = e.payload ∧ 0 = e.receivedPayloadLen ∧ e'.block1.num = e.block1.num ↔ _
    rw [hnum]
    constructor
    · rintro ⟨-, hzero, hcount⟩
      exact ⟨⟨hzero.symm, hcan⟩, (hfirst hzero.symm).trans hcount⟩
    · rintro ⟨⟨hzero, -⟩, hcount⟩
      exact ⟨(hsound.buffer hzero).symm, hzero.symm, (hfirst hzero).symm.trans hcount⟩
  rw [if_neg hcan] at hend
  have hgone : slotOf (receivePdu ctx r).1 r.id = rest := by
    rw [hfailed hend.1]
    exact hend.2
  exact iff_of_false (not_harmless_of_gone hslot hgone) (hcan ·.1.2)

lemma harmless_iff_again (hnil : r.pdu.payload = [])
    (hcheck : check1 { e with type := some .block1 } r.pdu r.data block r.dataLen
      = (.unknown, announced r e)) :
    Harmless ctx r .block1 ↔ block.num = e.block1.num := by
  obtain ⟨ctx', hslot', hwork⟩ := request_work hctx hreq hblock hid hslot
  have hsound : SoundEntry { e with type := some .block1 } :=
    soundEntry_rule.typed _ (hctx.get (get_of_slotOf hslot))
  have hfile : e.blockDataId = r.id := blockDataId_of_get (get_of_slotOf hslot)
  obtain ⟨e', log, hupd, hlen, hbytes, hnum, hfile'⟩ := request1_next hreq hsound hcheck
  have hfirst : (updateFromRequest1 { e with type := some .block1 } r.pdu r.data block
      r.dataLen).1 = some (e', requestStatus block) := by rw [hupd]
  have hsound' : SoundEntry e' :=
    soundEntry_rule.request1 r.pdu r.data block r.dataLen hsound hfirst
  obtain ⟨hok, sentData, hkept⟩ := request_stays r block log hslot' (hfile'.trans hfile) hsound'
  obtain ⟨-, hdone⟩ := hwork _ (by rw [hupd])
  obtain ⟨e'', hafter, hbytes', hlen', hoption⟩ := hdone hok _ _ hkept
  have hcount : e''.block1.num = block.num := by
    rw [hoption]
    exact hnum
  have hsame : e'.receivedPayloadLen = e.receivedPayloadLen := by
    rw [hlen, hnil]
    rfl
  rw [harmless_iff_of_stays hslot hafter, hbytes', hlen']
  change e'.payload = e.payload ∧ e'.receivedPayloadLen = e.receivedPayloadLen
    ∧ e''.block1.num = e.block1.num ↔ _
  rw [hcount]
  exact ⟨fun h => h.2.2, fun h => ⟨hbytes hnil, hsame, h⟩⟩

lemma duplicate1_iff
    (hstored : blockSize block.szx * block.num + r.pdu.payload.length ≤ e.receivedPayloadLen)
    (hfull : block.m = true → r.pdu.payload.length = blockSize block.szx) :
    Harmless ctx r .block1 ↔ DuplicateFits r block e .block1 := by
  have hpos : 0 < blockSize block.szx := by
    rw [blockSize_eq]
    simp
  have hfirst : e.receivedPayloadLen = 0 → block.num = 0 := by
    intro hzero
    have hoffset : blockSize block.szx * block.num = 0 := by omega
    exact (Nat.mul_eq_zero.mp hoffset).resolve_left hpos.ne'
  rw [DuplicateFits, TakenForRepetition, AcceptedAgain]
  by_cases hoff : e.receivedPayloadLen ≠ blockSize block.szx * block.num
  · simp only [hoff, ne_eq, not_false_eq_true, true_and, false_and, or_false]
    have hcheck : caCheckBlockErrorType (announced r e) block r.data .block1 r.dataLen
        = (if block.num > e.block1.num + 1 then .incomplete else .receivedAlready,
          announced r e) := caCheckBlockErrorType_block1_ne hoff
    rw [← check1_announced] at hcheck
    by_cases hgap : block.num > e.block1.num + 1
    · -- too far ahead: there is something to lose
      rw [if_pos hgap] at hcheck
      rw [harmless_iff_refused hctx hreq hblock hid hslot hfirst hcheck]
      refine iff_of_false ?_ (Nat.not_le.mpr hgap)
      rintro ⟨hnothing, -⟩
      rw [hfirst hnothing.1, Nat.mul_zero] at hoff
      exact hoff hnothing.1
    rw [if_neg hgap] at hcheck
    exact iff_of_true (harmless_of_repeat hctx hreq hblock hid hslot hcheck) (not_lt.mp hgap)
  -- the block stands where the bytes end, so it is an empty last one
  have hoffset : e.receivedPayloadLen = blockSize block.szx * block.num := not_not.mp hoff
  rw [or_iff_right (hoff ·.1), and_iff_right hoffset]
  have hnil : r.pdu.payload = [] := by
    apply List.length_eq_zero_iff.mp
    omega
  have hpay : caGetPayloadInfo r.data = [] :=
    (caGetPayloadInfo_caGenerateHandlerData _ _).trans hnil
  have hlast : block.m = false := by
    rw [← Bool.not_eq_true]
    intro hm
    have hlength := hfull hm
    rw [hnil, List.length_nil] at hlength
    omega
  by_cases hright : (announced r e).payloadLength = 0
      ∨ (announced r e).payloadLength = e.receivedPayloadLen
  · have hcheck : caCheckBlockErrorType (announced r e) block r.data .block1 r.dataLen
        = (.unknown, announced r e) := by
      apply caCheckBlockErrorType_next
      · exact hoffset
      · intro hm
        rw [hlast] at hm
        cases hm
      · intro _ htotal
        rw [hpay]
        exact (hright.resolve_left htotal).symm
    rw [← check1_announced] at hcheck
    rw [harmless_iff_again hctx hreq hblock hid hslot hnil hcheck]
    constructor
    · exact fun hcount => ⟨hcount, hright.imp_right .inl⟩
    · exact fun h => h.1
  -- the announced length has changed
  have hne : (announced r e).payloadLength ≠ 0
      ∧ e.receivedPayloadLen ≠ (announced r e).payloadLength :=
    ⟨fun h => hright (.inl h), fun h => hright (.inr h.symm)⟩
  have hcheck : caCheckBlockErrorType (announced r e) block r.data .block1 r.dataLen
      = (.incomplete, announced r e) := by
    have hsame : (announced r e).receivedPayloadLen = e.receivedPayloadLen := rfl
    simp [caCheckBlockErrorType, hsame, hoff, hpay, hlast, bne_iff_ne.mpr hne.1,
      bne_iff_ne.mpr hne.2]
  rw [← check1_announced] at hcheck
  rw [harmless_iff_refused hctx hreq hblock hid hslot hfirst hcheck]
  constructor
  · rintro ⟨hnothing, hcount⟩
    exact ⟨hcount, .inr (.inr hnothing)⟩
  · rintro ⟨hcount, hzero | hsame | hnothing⟩
    · exact absurd (.inl hzero) hright
    · exact absurd (.inr hsame) hright
    · exact ⟨hnothing, hcount⟩

end Request

lemma accepted1 (hctx : EveryEntry SoundEntry ctx) (h : Accepts ctx r block .block1) :
    ¬ (r.id.length < 1 ∨ 255 < r.id.length)
      ∧ (block.m = true → r.pdu.payload.length = blockSize block.szx)
      ∧ ∃ e', caGetBlockDataFromBlockDataList (receivePdu ctx r).1 r.id = some e'
        ∧ e'.receivedPayloadLen = blockSize block.szx * block.num + r.pdu.payload.length := by
  obtain ⟨hreq, hblock, e, hfiled, hcheck⟩ := h
  obtain ⟨hid, ctx₁, hexist, -, hget⟩ := filedUnder_some hfiled
  have hsound : SoundEntry e :=
    (soundEntry_rule.checkTheExist r.pdu r.endpoint hctx hexist).get hget
  obtain ⟨ctx', hslot, hset⟩ :=
    caSetNextBlockOption1_request hreq hfiled r.data block r.dataLen
  obtain ⟨-, hdone⟩ := receive_request hctx hreq hblock hid
  rw [check1, sizeOption_snd] at hcheck
  obtain ⟨hoffset, hfull⟩ := full_of_unknown hcheck
  have hchecked : check1 e r.pdu r.data block r.dataLen
      = (.unknown, { e with payloadLength := r.pdu.size1.getD e.payloadLength }) := by
    rw [check1, sizeOption_snd]
    exact eq_of_unknown hcheck
  obtain ⟨e', log, hupd, hlen, -, -, hfile⟩ := request1_next hreq hsound hchecked
  have hsound' : SoundEntry e' := by
    have hfirst : (updateFromRequest1 e r.pdu r.data block r.dataLen).1
        = some (e', requestStatus block) := by rw [hupd]
    exact soundEntry_rule.request1 r.pdu r.data block r.dataLen hsound hfirst
  have hfile' : e'.blockDataId = r.id := hfile.trans (blockDataId_of_get hget)
  obtain ⟨hok, sentData, hkept⟩ := request_stays r block log hslot hfile' hsound'
  rw [hset, hupd] at hdone
  obtain ⟨e'', hafter, -, hlen', -⟩ := hdone hok _ _ hkept
  have hpay : caGetPayloadInfo r.data = r.pdu.payload :=
    caGetPayloadInfo_caGenerateHandlerData _ _
  refine ⟨hid, ?_, e'', get_of_slotOf hafter, ?_⟩
  · rw [← hpay]
    exact hfull
  · have hbefore : e.receivedPayloadLen = blockSize block.szx * block.num := hoffset
    rw [hlen', ← hbefore]
    exact hlen

lemma receive_response (ctx : CABlockWiseContext) (hcode : r.pdu.code ≠ caEmpty)
    (hblock : r.pdu.block2 = some block) :
    let out1 := receiveBlock1 ctx r.pdu r.endpoint r.data r.dataLen
    (receivePdu ctx r).1 = if out1.res ≠ .ok then out1.ctx
      else (caSetNextBlockOption2 out1.ctx r.pdu r.endpoint r.data block r.dataLen).ctx := by
  intro out1
  simp only [receivePdu, caReceiveBlockWiseData, if_neg hcode, hblock, Option.isNone_some,
    Bool.and_false, Bool.false_eq_true, if_false, receiveBlocks, receiveBlock2]
  split
  · rfl
  · rfl

lemma duplicate2_iff (hctx : EveryEntry SoundEntry ctx)
    (hreq : isRequestCode r.pdu.code = false) (hcode : r.pdu.code ≠ caEmpty)
    (herr : isBlockErrorCode r.pdu.code = false) (hblock : r.pdu.block2 = some block)
    (hm : block.m = true) (hid : ¬ (r.id.length < 1 ∨ 255 < r.id.length))
    (hslot : slotOf ctx r.id = e :: rest) (hstored : 0 < e.receivedPayloadLen)
    (hfull : r.pdu.payload.length = blockSize block.szx) :
    Harmless ctx r .block2 ↔ DuplicateFits r block e .block2 := by
  have hall := receive_response ctx hcode hblock
  dsimp only at hall
  obtain ⟨hpassed, hgoes⟩ := response_block1 hreq herr hblock hid hslot
  rw [DuplicateFits]
  by_cases hold : Block1Passed r e
  · obtain ⟨hfailed, hkept⟩ := hpassed hold
    rw [if_pos hfailed] at hall
    rw [← hall] at hkept
    rw [harmless_iff_of_stays hslot hkept]
    exact iff_of_true ⟨rfl, rfl, rfl⟩ hold
  refine iff_of_false ?_ hold
  rcases hgoes hold with ⟨hfailed, hgone⟩ | ⟨hok, e₁, hslot₁, hbytes⟩
  · rw [if_pos hfailed] at hall
    rw [← hall] at hgone
    exact not_harmless_of_gone hslot hgone
  rw [if_neg (not_not.mpr hok)] at hall
  have hctx₁ := soundEntry_rule.receiveBlock1 r.pdu r.endpoint r.data r.dataLen hctx
  rw [← hbytes] at hstored
  rcases response2_falls hctx₁ hreq herr hm hid hslot₁ hstored hfull with
    hgone | ⟨e', hstays, hne⟩
  · rw [← hall] at hgone
    exact not_harmless_of_gone hslot hgone
  rw [← hall] at hstays
  rw [harmless_iff_of_stays hslot hstays]
  rintro ⟨-, hsame, -⟩
  exact hne (hsame.trans hbytes.symm)

lemma accepted2 (hctx : EveryEntry SoundEntry ctx) (h : Accepts ctx r block .block2) :
    ¬ (r.id.length < 1 ∨ 255 < r.id.length) ∧ r.pdu.payload.length = blockSize block.szx
      ∧ ∃ e', caGetBlockDataFromBlockDataList (receivePdu ctx r).1 r.id = some e'
        ∧ 0 < e'.receivedPayloadLen := by
  obtain ⟨⟨hreq, hcode, herr⟩, hblock, hm, hok, e, hfiled, hcheck⟩ := h
  have hall := receive_response ctx hcode hblock
  dsimp only at hall
  rw [if_neg (not_not.mpr hok)] at hall
  have hctx₁ := soundEntry_rule.receiveBlock1 r.pdu r.endpoint r.data r.dataLen hctx
  obtain ⟨hid, ctx₂, hexist, -, hget⟩ := filedUnder_some hfiled
  have hsound : SoundEntry e :=
    (soundEntry_rule.checkTheExist r.pdu r.endpoint hctx₁ hexist).get hget
  obtain ⟨ctx', hslot, hset⟩ :=
    caSetNextBlockOption2_response hreq hfiled r.data block r.dataLen
  have hpay : caGetPayloadInfo r.data = r.pdu.payload :=
    caGetPayloadInfo_caGenerateHandlerData _ _
  rw [check2_eq e block herr] at hcheck
  obtain ⟨hnum, hfull⟩ := full_of_unknown hcheck
  have hchecked := (check2_eq e block herr).trans (eq_of_unknown hcheck)
  obtain ⟨e', log, hupd, hlen, hfile⟩ := response2_next hreq herr hsound hm hnum hchecked
  obtain ⟨-, sentData, hkept⟩ := finish_answered r.pdu r.data e' log hslot
    (hfile.trans (blockDataId_of_get hget)) (.inr (.inl rfl))
  rw [hset, hupd] at hall
  rw [hpay] at hfull
  rw [← hall] at hkept
  refine ⟨hid, hfull hm, _, get_of_slotOf hkept, ?_⟩
  have hpos : 0 < blockSize block.szx := by
    rw [blockSize_eq]
    simp
  change 0 < e'.receivedPayloadLen
  rw [hlen, hfull hm]
  omega

end Duplicate

/-! ## Every list -/

def Received.Carries (r : Received) (block : CoapBlock) : BlockType → Prop
  | .block1 => isRequestCode r.pdu.code = true ∧ r.pdu.block1 = some block
  | .block2 =>
    (isRequestCode r.pdu.code = false ∧ r.pdu.code ≠ caEmpty ∧ isBlockErrorCode r.pdu.code = false)
      ∧ r.pdu.block2 = some block ∧ block.m = true

def HasStored (r : Received) (block : CoapBlock) (e : CABlockData) : BlockType → Prop
  | .block1 => blockSize block.szx * block.num + r.pdu.payload.length ≤ e.receivedPayloadLen
  | .block2 => 0 < e.receivedPayloadLen

structure HoldsBlock (r : Received) (block : CoapBlock) (blockType : BlockType)
    (e : CABlockData) : Prop where
  idLength : ¬ (r.id.length < 1 ∨ 255 < r.id.length)
  carries : r.Carries block blockType
  full : block.m = true → r.pdu.payload.length = blockSize block.szx
  stored : HasStored r block e blockType

section Reached

variable {r : Received} {block : CoapBlock} {blockType : BlockType} {ctx : CABlockWiseContext}

lemma UnderWay.reached (h : UnderWay r block blockType ctx) : Reached ctx := by
  induction h with
  | accepted hctx _ => exact hctx.step (.receive r)
  | more _ _ _ _ ih => exact ih.step _

lemma UnderWay.holds (h : UnderWay r block blockType ctx) :
    ∃ e, caGetBlockDataFromBlockDataList ctx r.id = some e ∧ HoldsBlock r block blockType e := by
  induction h with
  | accepted hctx h =>
    have hsound := soundEntry_rule.reached hctx
    cases blockType with
    | block1 =>
      obtain ⟨hid, hfull, e, hget, hstored⟩ := accepted1 hsound h
      exact ⟨e, hget, hid, ⟨h.1, h.2.1⟩, hfull, Nat.le_of_eq hstored.symm⟩
    | block2 =>
      obtain ⟨hid, hfull, e, hget, hstored⟩ := accepted2 hsound h
      exact ⟨e, hget, hid, ⟨h.1, h.2.1, h.2.2.1⟩, fun _ => hfull, hstored⟩
  | more _ hget hget' hle ih =>
    obtain ⟨e, hget₀, hholds⟩ := ih
    rw [hget, Option.some.injEq] at hget₀
    subst hget₀
    refine ⟨_, hget', hholds.idLength, hholds.carries, hholds.full, ?_⟩
    have hstored := hholds.stored
    cases blockType with
    | block1 => exact le_trans hstored hle
    | block2 => exact lt_of_lt_of_le hstored hle

/-- **A duplicate block, exactly.** In every list in which the transfer of an
accepted block is still under way. -/
theorem duplicate_exact (h : UnderWay r block blockType ctx) :
    Harmless ctx r blockType ↔ ∀ e, caGetBlockDataFromBlockDataList ctx r.id = some e →
        DuplicateFits r block e blockType := by
  obtain ⟨e, hget, hholds⟩ := h.holds
  have hsound := soundEntry_rule.reached h.reached
  have hhead := hget
  rw [caGetBlockData_eq_head?] at hhead
  obtain ⟨rest, hslot⟩ : ∃ rest, slotOf ctx r.id = e :: rest := by
    obtain ⟨rest, hrest⟩ := List.head?_eq_some_iff.mp hhead
    exact ⟨rest, hrest⟩
  have hexact : Harmless ctx r blockType ↔ DuplicateFits r block e blockType := by
    cases blockType with
    | block1 =>
      obtain ⟨hreq, hblock⟩ := hholds.carries
      exact duplicate1_iff hsound hreq hblock hholds.idLength hslot hholds.stored hholds.full
    | block2 =>
      obtain ⟨⟨hreq, hcode, herr⟩, hblock, hm⟩ := hholds.carries
      exact duplicate2_iff hsound hreq hcode herr hblock hm hholds.idLength hslot hholds.stored
        (hholds.full hm)
  rw [hexact]
  constructor
  · intro hfits e' hget'
    rw [hget, Option.some.injEq] at hget'
    rw [← hget']
    exact hfits
  · exact fun hall => hall e hget

end Reached

def firstBlock (code : Nat) (blockType : BlockType) : Received where
  pdu :=
    { type := .confirm, code := code, id := 1, token := tokenOne
      block1 := if blockType = .block1 then some ⟨0, true, 0⟩ else none
      block2 := if blockType = .block2 then some ⟨0, true, 0⟩ else none
      size1 := none, size2 := none, uri := none, payload := List.replicate 16 7 }
  endpoint := ⟨1, addrOne, 5683⟩
  dataLen := 40

theorem upload_duplicate :
    Harmless (receivePdu ⟨[], []⟩ (firstBlock caPost .block1)).1 (firstBlock caPost .block1)
      .block1 := by
  have haccepted : UnderWay (firstBlock caPost .block1) ⟨0, true, 0⟩ .block1
      (receivePdu ⟨[], []⟩ (firstBlock caPost .block1)).1 :=
    .accepted .start ⟨by decide, rfl, _, rfl, by decide⟩
  refine (duplicate_exact haccepted).mpr ?_
  intro e hget
  cases hget
  exact .inl (by decide)

theorem download_duplicate :
    UnderWay (firstBlock 69 .block2) ⟨0, true, 0⟩ .block2
        (receivePdu ⟨[], []⟩ (firstBlock 69 .block2)).1
      ∧ ¬ Harmless (receivePdu ⟨[], []⟩ (firstBlock 69 .block2)).1 (firstBlock 69 .block2)
        .block2 := by
  refine ⟨.accepted .start ⟨by decide, rfl, rfl, rfl, _, rfl, by decide⟩, ?_⟩
  have hslot : slotOf (receivePdu ⟨[], []⟩ (firstBlock 69 .block2)).1 (firstBlock 69 .block2).id
      = _ :: [] := rfl
  apply not_harmless_of_gone hslot
  decide

end Iochibity.Coap
