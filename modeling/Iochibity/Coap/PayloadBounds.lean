/-
The bounds of the copies that `CAUpdatePayloadData` makes.
-/
import Iochibity.Coap.BlockTransfer
import Iochibity.Lib.Runs

namespace Iochibity.Coap

open Buffer
open List

variable {e d : CABlockData} {log : List Event} {blockType : BlockType}

/-! ## Room in the buffers -/

def CABlockData.Room (e : CABlockData) : Prop :=
  e.receivedPayloadLen ≤ e.capacity

instance (e : CABlockData) : Decidable e.Room :=
  inferInstanceAs (Decidable (_ ≤ _))

def Bounded (ctx : CABlockWiseContext) : Prop :=
  ∀ e ∈ ctx.dataList, e.Room

namespace Bounded

variable {ctx : CABlockWiseContext} {id : CABlockDataID}

lemma get (hb : Bounded ctx) (h : caGetBlockDataFromBlockDataList ctx id = some e) : e.Room :=
  hb e (FirstMatch.mem_of_lookup _ h)

lemma modify (hb : Bounded ctx) {f : CABlockData → CABlockData}
    (hf : ∀ e, e.Room → (f e).Room) : Bounded (modifyBlockData ctx id f) := by
  intro e he
  rcases FirstMatch.mem_modify he with he | ⟨a, ha, rfl⟩
  · exact hb e he
  · exact hf a (hb a (FirstMatch.mem_of_lookup _ ha))

lemma setSentData (hb : Bounded ctx) (sentData : CAData) :
    Bounded (modifyBlockData ctx id ({ · with sentData := sentData })) :=
  hb.modify (fun _ h => h)

lemma remove (hb : Bounded ctx) : Bounded (caRemoveBlockDataFromList ctx id) := by
  intro e he
  exact hb e (FirstMatch.mem_of_mem_erase he)

lemma append (hb : Bounded ctx) (he : e.Room) :
    Bounded { ctx with dataList := ctx.dataList ++ [e] } := by
  intro e' he'
  rcases mem_append.mp he' with h | h
  · exact hb e' h
  rw [mem_singleton.mp h]
  exact he

end Bounded

def CopiesInside (log : List Event) : Prop :=
  ∀ c, Event.copy c ∈ log → c.InBounds

lemma copiesInside_iff :
    CopiesInside log ↔ ∀ ev ∈ log, ∀ c, ev = .copy c → c.InBounds := by
  constructor
  · rintro h ev hev c rfl
    exact h c hev
  · intro h c hc
    exact h (.copy c) hc c rfl

lemma copiesInside_append {log' : List Event} :
    CopiesInside (log ++ log') ↔ CopiesInside log ∧ CopiesInside log' := by
  constructor
  · intro h
    exact ⟨fun c hc => h c (mem_append_left _ hc), fun c hc => h c (mem_append_right _ hc)⟩
  · rintro ⟨h, h'⟩ c hc
    rcases mem_append.mp hc with hc | hc
    · exact h c hc
    · exact h' c hc

lemma copiesInside_map {copies : List MemCopy} :
    CopiesInside (copies.map Event.copy) ↔ ∀ c ∈ copies, c.InBounds := by
  constructor
  · intro h c hc
    exact h c (mem_map_of_mem hc)
  · intro h c hc
    obtain ⟨c', hc', heq⟩ := mem_map.mp hc
    cases heq
    exact h c hc'

lemma copiesInside_nil : CopiesInside [] := by
  intro c hc
  cases hc

/-! ## One copy -/

/-- The block fits: `len` of the `blockLen` received bytes, behind those that are there, in the
buffer that the total length calls for. -/
def CopyFits (e : CABlockData) (size : Option Nat) (blockLen len : Nat) : Prop :=
  len ≤ blockLen
    ∧ (size.getD e.payloadLength ≠ 0 → e.receivedPayloadLen + len ≤ size.getD e.capacity)

instance (e : CABlockData) (size : Option Nat) (blockLen len : Nat) :
    Decidable (CopyFits e size blockLen len) :=
  inferInstanceAs (Decidable (_ ∧ _))

section Store

variable {e d : CABlockData} (receivedData : CAData) (status : CABlockState) (blockType : BlockType)
  {size : Option Nat}

/-- The entry as `CAUpdatePayloadData` finds it: the size option has set the
total length, and the buffer is the old one. -/
structure Sized (e : CABlockData) (size : Option Nat) (d : CABlockData) : Prop where
  payload : d.payload = e.payload
  received : d.receivedPayloadLen = e.receivedPayloadLen
  total : d.payloadLength = size.getD e.payloadLength

lemma sized_sizeOption (e : CABlockData) (size : Option Nat) :
    Sized e size (caIsPayloadLengthInPduWithBlockSizeOption e size).2 := by
  cases size with
  | none | some => exact ⟨rfl, rfl, rfl⟩

lemma Sized.room (hd : Sized e size d) (he : e.Room) : d.Room := by
  rw [CABlockData.Room, CABlockData.capacity, hd.payload, hd.received]
  exact he

lemma caUpdatePayloadData_inside_iff (hd : Sized e size d) (he : e.Room)
    (hstatus : status ≠ .incomplete) (hblock : caGetPayloadInfo receivedData ≠ []) :
    (∀ c ∈ (caUpdatePayloadData d receivedData status size.isSome blockType).2, c.InBounds)
      ↔ CopyFits e size (caGetPayloadInfo receivedData).length
          (storedPayloadLen d receivedData status blockType) := by
  have hcap : (d.payload.getD []).length = e.capacity := by
    rw [hd.payload, CABlockData.capacity]
  have hroom : e.receivedPayloadLen ≤ e.capacity := he
  generalize hlen : storedPayloadLen d receivedData status blockType = len
  simp only [caUpdatePayloadData, hstatus, hblock, or_self, if_false, hlen, hd.received, hd.total,
    CopyFits]
  by_cases htotal : size.getD e.payloadLength = 0
  · simp [htotal, MemCopy.InBounds]
  simp only [htotal, ne_eq, not_false_eq_true, if_true]
  cases size with
  | none =>
    simp only [Option.isSome_none, Bool.false_eq_true, if_false, nil_append,
      mem_singleton, forall_eq, MemCopy.InBounds, hcap, Option.getD_none, true_implies]
    exact and_comm
  | some total =>
    simp only [Option.isSome_some, if_true, cons_append, nil_append, mem_cons,
      not_mem_nil, or_false, forall_eq_or_imp, forall_eq, MemCopy.InBounds, hcap,
      Option.getD_some, length_memcpy, length_calloc, true_implies]
    omega

lemma caUpdatePayloadData_room (hd : Sized e size d) (he : e.Room)
    (hfits : status ≠ .incomplete → caGetPayloadInfo receivedData ≠ [] →
      CopyFits e size (caGetPayloadInfo receivedData).length
        (storedPayloadLen d receivedData status blockType)) :
    (caUpdatePayloadData d receivedData status size.isSome blockType).1.Room := by
  by_cases hskip : status = .incomplete ∨ caGetPayloadInfo receivedData = []
  · simp only [caUpdatePayloadData, if_pos hskip]
    exact hd.room he
  obtain ⟨hstatus, hblock⟩ := not_or.mp hskip
  obtain ⟨-, hfit⟩ := hfits hstatus hblock
  have hcap : (d.payload.getD []).length = e.capacity := by
    rw [hd.payload, CABlockData.capacity]
  generalize hlen : storedPayloadLen d receivedData status blockType = len at hfit
  simp only [caUpdatePayloadData, if_neg hskip, hlen, hd.received, hd.total, CABlockData.Room,
    CABlockData.capacity]
  by_cases htotal : size.getD e.payloadLength = 0
  · simp [htotal]
  have hle := hfit htotal
  simp only [htotal, ne_eq, not_false_eq_true, if_true]
  cases size with
  | none =>
    simp only [Option.isSome_none, Bool.false_eq_true, if_false]
    have hmap : ((d.payload.map fun x => memcpy x e.receivedPayloadLen
        (caGetPayloadInfo receivedData) len).getD []).length = e.capacity := by
      rw [← hcap]
      cases d.payload with
      | none => rfl
      | some buf => simp
    rw [hmap]
    exact hle
  | some total =>
    simp only [Option.isSome_some, if_true, Option.map_some, Option.getD_some, length_memcpy,
      length_calloc]
    exact hle

end Store

/-! ## One block -/

/-- A block fits the entry it is filed under: one that is neither refused nor a repetition and
brings any bytes is copied, so those have to fit. -/
def BlockFits (e : CABlockData) (size : Option Nat) (receivedData : CAData)
    (check : CABlockState × CABlockData) (blockType : BlockType) : Prop :=
  check.1 ≠ .receivedAlready → check.1 ≠ .incomplete → caGetPayloadInfo receivedData ≠ [] →
    CopyFits e size (caGetPayloadInfo receivedData).length
      (storedPayloadLen check.2 receivedData check.1 blockType)

section

variable (e : CABlockData) (pdu : CoapPdu) (receivedData : CAData) (block : CoapBlock)
  (dataLen : Nat)

def check1 : CABlockState × CABlockData :=
  caCheckBlockErrorType (caIsPayloadLengthInPduWithBlockSizeOption e pdu.size1).2 block
    receivedData .block1 dataLen

def check2 : CABlockState × CABlockData :=
  let data := (caIsPayloadLengthInPduWithBlockSizeOption e pdu.size2).2
  if isBlockErrorCode pdu.code then (.unknown, data)
  else caCheckBlockErrorType data block receivedData .block2 dataLen

end

section Block

variable {e : CABlockData} (pdu : CoapPdu) (receivedData : CAData) (block : CoapBlock)
  (dataLen : Nat)

lemma sizeOption_fst (e : CABlockData) (size : Option Nat) :
    (caIsPayloadLengthInPduWithBlockSizeOption e size).1 = size.isSome := by
  cases size with
  | none | some => rfl

lemma Sized.check {size : Option Nat} (hd : Sized e size d) (blockType : BlockType) :
    Sized e size (caCheckBlockErrorType d block receivedData blockType dataLen).2 := by
  have hszx : ∀ s, Sized e size (d.withSzx s) := by
    intro s
    cases s with
    | none => exact hd
    | some szx => exact ⟨hd.payload, hd.received, hd.total⟩
  unfold caCheckBlockErrorType
  dsimp only
  split
  · exact hd
  split
  · split
    · exact hszx _
    · exact hd
  split
  · exact hd
  · exact hd

lemma sized_check1 (e : CABlockData) :
    Sized e pdu.size1 (check1 e pdu receivedData block dataLen).2 :=
  (sized_sizeOption e pdu.size1).check receivedData block dataLen .block1

lemma sized_check2 (e : CABlockData) :
    Sized e pdu.size2 (check2 e pdu receivedData block dataLen).2 := by
  rw [check2]
  split
  · exact sized_sizeOption e pdu.size2
  · exact (sized_sizeOption e pdu.size2).check receivedData block dataLen .block2

lemma room_of_caUpdateBlockData {d' : CABlockData} {b : CoapBlock} (hd : d.Room)
    (h : caUpdateBlockData d b blockType = some d') : d'.Room := by
  unfold caUpdateBlockData at h
  split at h
  · cases h
  cases blockType with
  | block1 | block2 =>
    cases h
    exact hd

lemma room_of_storeOption {d d' : CABlockData} {b? : Option CoapBlock} {blockType : BlockType}
    {status : CABlockState} (next : CoapBlock → CABlockState) (hd : d.Room)
    (h : (b?.bind fun b => (caUpdateBlockData d b blockType).map fun d => (d, next b))
      = some (d', status)) : d'.Room := by
  obtain ⟨b, -, h⟩ := Option.bind_eq_some_iff.mp h
  obtain ⟨d'', hupd, heq⟩ := Option.map_eq_some_iff.mp h
  cases heq
  exact room_of_caUpdateBlockData hd hupd

def storeChecked (size : Option Nat) (receivedData : CAData) (check : CABlockState × CABlockData)
    (blockType : BlockType) : CABlockData × List MemCopy :=
  if check.1 = .receivedAlready then (check.2, [])
  else caUpdatePayloadData check.2 receivedData check.1 size.isSome blockType

section Checked

variable {size : Option Nat} {check : CABlockState × CABlockData} (blockType : BlockType)

lemma storeChecked_inside_iff (hsized : Sized e size check.2) (he : e.Room) :
    (∀ c ∈ (storeChecked size receivedData check blockType).2, c.InBounds)
      ↔ BlockFits e size receivedData check blockType := by
  rw [storeChecked, BlockFits]
  by_cases hrep : check.1 = .receivedAlready
  · simp [hrep]
  rw [if_neg hrep]
  by_cases hskip : check.1 = .incomplete ∨ caGetPayloadInfo receivedData = []
  · simp only [caUpdatePayloadData, if_pos hskip, not_mem_nil, false_implies, implies_true,
      true_iff]
    intro _ h1 h2
    exact absurd hskip (not_or.mpr ⟨h1, h2⟩)
  obtain ⟨h1, h2⟩ := not_or.mp hskip
  rw [caUpdatePayloadData_inside_iff receivedData check.1 blockType hsized he h1 h2]
  exact ⟨fun h _ _ _ => h, fun h => h hrep h1 h2⟩

lemma storeChecked_room (hsized : Sized e size check.2) (he : e.Room)
    (hfits : BlockFits e size receivedData check blockType) :
    (storeChecked size receivedData check blockType).1.Room := by
  rw [storeChecked]
  by_cases hrep : check.1 = .receivedAlready
  · rw [if_pos hrep]
    exact hsized.room he
  rw [if_neg hrep]
  exact caUpdatePayloadData_room receivedData check.1 blockType hsized he (hfits hrep)

end Checked

lemma updateFromRequest1_parts (e : CABlockData) :
    let stored := storeChecked pdu.size1 receivedData (check1 e pdu receivedData block dataLen)
      .block1
    (updateFromRequest1 e pdu receivedData block dataLen).2 = stored.2.map Event.copy
      ∧ ∀ d status, (updateFromRequest1 e pdu receivedData block dataLen).1 = some (d, status) →
        stored.1.Room → d.Room := by
  simp only [updateFromRequest1, sizeOption_fst, storeChecked]
  by_cases hrep : (check1 e pdu receivedData block dataLen).1 = .receivedAlready
  · have hrep' := hrep
    rw [check1] at hrep'
    simp only [hrep, hrep', if_true]
    refine ⟨rfl, ?_⟩
    intro d status h hroom
    cases h
    exact hroom
  have hrep' := hrep
  rw [check1] at hrep'
  simp only [if_neg hrep, if_neg hrep']
  refine ⟨rfl, ?_⟩
  intro d status h hroom
  exact room_of_storeOption _ hroom h

lemma updateFromResponse2_parts (e : CABlockData) :
    let stored := storeChecked pdu.size2 receivedData (check2 e pdu receivedData block dataLen)
      .block2
    (updateFromResponse2 e pdu receivedData block dataLen).2 = stored.2.map Event.copy
      ∧ ∀ d status, (updateFromResponse2 e pdu receivedData block dataLen).1 = some (d, status) →
        stored.1.Room → d.Room := by
  intro stored
  have hupd : updateFromResponse2 e pdu receivedData block dataLen
      = (let status := (check2 e pdu receivedData block dataLen).1
         if !block.m && status = .unknown then some (stored.1, .option2LastBlock)
         else
           let status :=
             if status = .unknown ∨ status = .receivedAlready then .option2Response else status
           (caUpdateBlockOptionItems stored.1 pdu block .block2 status).bind fun block =>
             (caUpdateBlockData stored.1 block .block2).map (·, status),
        stored.2.map Event.copy) := by
    simp only [updateFromResponse2, sizeOption_fst]
    rfl
  rw [hupd]
  refine ⟨rfl, ?_⟩
  intro d status h hroom
  dsimp only at h
  generalize (check2 e pdu receivedData block dataLen).1 = verdict at h
  by_cases hlast : (!block.m && decide (verdict = .unknown)) = true
  · rw [if_pos hlast] at h
    cases h
    exact hroom
  rw [if_neg hlast] at h
  exact room_of_storeOption (fun _ => _) hroom h

end Block

/-! ## The setters -/

section

variable (ctx : CABlockWiseContext) (pdu : CoapPdu) (endpoint : CAEndpoint)

def filedUnder (blockType : BlockType) : Option CABlockData :=
  let blockDataID := pduBlockId pdu endpoint
  if blockDataID.length < 1 ∨ 255 < blockDataID.length then none
  else (caCheckTheExistOfBlockData ctx blockDataID pdu endpoint blockType).bind
    (caGetBlockDataFromBlockDataList · blockDataID)

def Fits1 (receivedData : CAData) (block : CoapBlock) (dataLen : Nat) : Prop :=
  isRequestCode pdu.code = true → ∀ e, filedUnder ctx pdu endpoint .block1 = some e →
    BlockFits e pdu.size1 receivedData (check1 e pdu receivedData block dataLen) .block1

def Fits2 (receivedData : CAData) (block : CoapBlock) (dataLen : Nat) : Prop :=
  isRequestCode pdu.code = false → ∀ e, filedUnder ctx pdu endpoint .block2 = some e →
    BlockFits e pdu.size2 receivedData (check2 e pdu receivedData block dataLen) .block2

end

section Setters

variable {ctx : CABlockWiseContext} (pdu : CoapPdu) (endpoint : CAEndpoint)
  (receivedData : CAData) (block : CoapBlock) (dataLen : Nat)

def NoCopies (log : List Event) : Prop :=
  ∀ c, Event.copy c ∉ log

lemma NoCopies.inside (h : NoCopies log) : CopiesInside log :=
  fun c hc => absurd hc (h c)

lemma noCopies_nil : NoCopies [] := by
  intro c hc
  cases hc

lemma noCopies_send (data : CAData) : NoCopies [.send data] := by
  intro c hc
  cases mem_singleton.mp hc

section

variable (ctx : CABlockWiseContext)

lemma caSendBlockMessage_bounded (id : CABlockDataID) :
    (Bounded ctx → Bounded (caSendBlockMessage ctx pdu id).ctx)
      ∧ NoCopies (caSendBlockMessage ctx pdu id).log := by
  unfold caSendBlockMessage
  split
  · exact ⟨fun hb => hb, noCopies_nil⟩
  dsimp only
  split
  · exact ⟨fun hb => hb.setSentData _, noCopies_send _⟩
  split
  · rw [caSendDirectEmptyResponse_eq]
    split
    · refine ⟨fun hb => (hb.setSentData _).setSentData _, ?_⟩
      intro c hc
      rcases mem_append.mp hc with h | h
      · cases mem_singleton.mp h
      · cases mem_singleton.mp h
    · exact ⟨fun hb => hb.setSentData _, noCopies_send _⟩
  · exact ⟨fun hb => hb.setSentData _, noCopies_send _⟩

lemma caSendErrorMessage_bounded (status : CABlockState) (responseResult : Nat)
    (id : CABlockDataID) :
    (Bounded ctx → Bounded (caSendErrorMessage ctx pdu status responseResult id).ctx)
      ∧ NoCopies (caSendErrorMessage ctx pdu status responseResult id).log := by
  have hrestart : ∀ e : CABlockData, e.Room → e.restart.Room := fun e _ => Nat.zero_le _
  unfold caSendErrorMessage
  split
  · exact ⟨fun hb => hb, noCopies_nil⟩
  split
  · exact ⟨fun hb => hb, noCopies_nil⟩
  dsimp only
  split
  · exact ⟨fun hb => hb.modify hrestart, noCopies_send _⟩
  · exact ⟨fun hb => hb, noCopies_send _⟩

lemma caReceiveLastBlock_noCopies (id : CABlockDataID) :
    NoCopies (caReceiveLastBlock ctx id receivedData).2 := by
  unfold caReceiveLastBlock
  split
  · intro c hc
    cases mem_singleton.mp hc
  split
  · exact noCopies_nil
  intro c hc
  cases mem_singleton.mp hc

lemma caProcessNextStep_bounded (status : CABlockState) (id : CABlockDataID) :
    (Bounded ctx → Bounded (caProcessNextStep ctx pdu receivedData status id).ctx)
      ∧ NoCopies (caProcessNextStep ctx pdu receivedData status id).log := by
  have hlast := caReceiveLastBlock_noCopies receivedData ctx id
  unfold caProcessNextStep
  cases status with
  | option2Request =>
    dsimp only
    split
    · exact ⟨fun hb => hb, noCopies_nil⟩
    split
    · exact ⟨fun hb => hb, noCopies_nil⟩
    · exact ⟨fun hb => hb.setSentData _, noCopies_send _⟩
  | option1Response => exact caSendBlockMessage_bounded pdu ctx id
  | option2Response => exact caSendBlockMessage_bounded pdu ctx id
  | option1RequestBlock => exact caSendBlockMessage_bounded pdu ctx id
  | option2LastBlock =>
    generalize caReceiveLastBlock ctx id receivedData = r at hlast
    obtain ⟨res, log⟩ := r
    dsimp only
    split
    · rename_i heq
      cases heq
      exact ⟨fun hb => hb.remove, hlast⟩
    rename_i heq
    cases heq
    exact ⟨fun hb => hb, hlast⟩
  | option1RequestLastBlock => exact ⟨fun hb => hb, hlast⟩
  | incomplete => exact caSendErrorMessage_bounded pdu ctx _ _ id
  | tooLarge =>
    dsimp only
    split
    · exact caSendErrorMessage_bounded pdu ctx _ _ id
    split
    · exact caSendBlockMessage_bounded pdu ctx id
    · exact ⟨fun hb => hb, noCopies_nil⟩
  | option2FirstBlock => exact ⟨fun hb => hb, noCopies_send _⟩
  | unknown => exact ⟨fun hb => hb, noCopies_nil⟩
  | receivedAlready => exact ⟨fun hb => hb, noCopies_nil⟩

lemma finishNextStep_bounded (id : CABlockDataID) (upd : Update) :
    (CopiesInside (finishNextStep ctx pdu receivedData id upd).log ↔ CopiesInside upd.2)
      ∧ (Bounded ctx → (∀ d status, upd.1 = some (d, status) → d.Room) →
        Bounded (finishNextStep ctx pdu receivedData id upd).ctx) := by
  obtain ⟨_ | ⟨d, status⟩, log⟩ := upd
  · exact ⟨Iff.rfl, fun hb _ => hb.remove⟩
  obtain ⟨hnext, hnone⟩ := caProcessNextStep_bounded pdu receivedData
    (modifyBlockData ctx id (fun _ => d)) status id
  have hlog : CopiesInside (log ++ (caProcessNextStep (modifyBlockData ctx id (fun _ => d)) pdu
      receivedData status id).log) ↔ CopiesInside log :=
    copiesInside_append.trans (and_iff_left hnone.inside)
  have hctx : Bounded ctx → (∀ d' status', some (d, status) = some (d', status') → d'.Room) →
      Bounded (caProcessNextStep (modifyBlockData ctx id (fun _ => d)) pdu receivedData status
        id).ctx :=
    fun hb hroom => hnext (hb.modify (fun _ _ => hroom d status rfl))
  simp only [finishNextStep]
  split
  · exact ⟨hlog, hctx⟩
  · exact ⟨hlog, fun hb hroom => (hctx hb hroom).remove⟩

end

lemma caCheckTheExist_bounded (hb : Bounded ctx) {ctx' : CABlockWiseContext} {id : CABlockDataID}
    (h : caCheckTheExistOfBlockData ctx id pdu endpoint blockType = some ctx') :
    Bounded ctx' := by
  unfold caCheckTheExistOfBlockData at h
  split at h
  · cases h
    exact hb.modify (fun _ h => h)
  split at h
  · cases h
  rename_i cadata hnew
  cases h
  have hroom : (newBlockData cadata).Room := Nat.zero_le _
  exact (hb.append hroom).modify (fun _ h => h)

/-- What a setter keeps: its copies stay inside exactly when the block fits, and
then the invariant stays. -/
def Inside (out : Outcome) (fits : Prop) : Prop :=
  (CopiesInside out.log ↔ fits) ∧ (fits → Bounded out.ctx)

lemma inside_of_noCopies {out : Outcome} {fits : Prop} (hlog : NoCopies out.log) (hfits : fits)
    (hctx : Bounded out.ctx) : Inside out fits :=
  ⟨iff_of_true hlog.inside hfits, fun _ => hctx⟩

lemma setNextFromResponse1_bounded (hb : Bounded ctx) {data : CABlockData} (hdata : data.Room)
    (id : CABlockDataID) :
    Bounded (setNextFromResponse1 ctx data pdu receivedData block id).ctx
      ∧ CopiesInside (setNextFromResponse1 ctx data pdu receivedData block id).log := by
  unfold setNextFromResponse1
  split
  · split
    · exact ⟨hb.modify (fun _ _ => hdata), copiesInside_nil⟩
    · exact ⟨hb.remove, (caReceiveLastBlock_noCopies receivedData ctx id).inside⟩
  split
  · exact ⟨hb, copiesInside_nil⟩
  rename_i block' hitems
  obtain ⟨hlog, hctx⟩ := finishNextStep_bounded pdu receivedData ctx id
    ((caUpdateBlockData data block' .block1).map (·, .option1Response), [])
  refine ⟨hctx hb ?_, hlog.mpr copiesInside_nil⟩
  intro d status h
  obtain ⟨d', hupd, heq⟩ := Option.map_eq_some_iff.mp h
  cases heq
  exact room_of_caUpdateBlockData hdata hupd

lemma caSetNextBlockOption1_inside (hb : Bounded ctx) :
    Inside (caSetNextBlockOption1 ctx pdu endpoint receivedData block dataLen)
      (Fits1 ctx pdu endpoint receivedData block dataLen) := by
  rw [Fits1]
  simp only [filedUnder, caSetNextBlockOption1]
  split
  · exact inside_of_noCopies noCopies_nil (fun _ e he => by cases he) hb
  cases hexist :
      caCheckTheExistOfBlockData ctx (pduBlockId pdu endpoint) pdu endpoint .block1 with
  | none => exact inside_of_noCopies noCopies_nil (fun _ e he => by cases he) hb.remove
  | some ctx' =>
    have hb' := caCheckTheExist_bounded pdu endpoint hb hexist
    simp only [Option.bind_some]
    cases hget : caGetBlockDataFromBlockDataList ctx' (pduBlockId pdu endpoint) with
    | none => exact inside_of_noCopies noCopies_nil (fun _ e he => by cases he) hb'.remove
    | some e =>
      have he := hb'.get hget
      dsimp only
      by_cases hreq : isRequestCode pdu.code = true
      · obtain ⟨hcopies, hentry⟩ :=
          updateFromRequest1_parts pdu receivedData block dataLen e
        obtain ⟨hlog, hctx⟩ := finishNextStep_bounded pdu receivedData ctx'
          (pduBlockId pdu endpoint) (updateFromRequest1 e pdu receivedData block dataLen)
        have hsized := sized_check1 pdu receivedData block dataLen e
        rw [hcopies, copiesInside_map,
          storeChecked_inside_iff receivedData .block1 hsized he] at hlog
        simp only [hreq, if_true, true_implies, Option.some.injEq, forall_eq']
        refine ⟨hlog, fun hfits => hctx hb' ?_⟩
        intro d status hd
        exact hentry d status hd (storeChecked_room receivedData .block1 hsized he hfits)
      obtain ⟨hctx, hlog⟩ := setNextFromResponse1_bounded pdu receivedData block hb' he
        (pduBlockId pdu endpoint)
      simp only [if_neg hreq]
      exact ⟨iff_of_true hlog (absurd · hreq), fun _ => hctx⟩

lemma updateFromRequest2_room (he : e.Room) {upd : Update}
    (hupd : upd = updateFromFirstGet e pdu block ∨ upd = updateFromRequest2 e pdu block) :
    upd.2 = [] ∧ ∀ d status, upd.1 = some (d, status) → d.Room := by
  rcases hupd with rfl | rfl
  · exact ⟨rfl, fun d status h => room_of_storeOption (fun _ => _) he h⟩
  · exact ⟨rfl, fun d status h => room_of_storeOption (fun _ => _) he h⟩

lemma caSetNextBlockOption2_inside (hb : Bounded ctx) :
    Inside (caSetNextBlockOption2 ctx pdu endpoint receivedData block dataLen)
      (Fits2 ctx pdu endpoint receivedData block dataLen) := by
  rw [Fits2]
  simp only [filedUnder, caSetNextBlockOption2]
  split
  · exact inside_of_noCopies noCopies_nil (fun _ e he => by cases he) hb
  cases hexist :
      caCheckTheExistOfBlockData ctx (pduBlockId pdu endpoint) pdu endpoint .block2 with
  | none => exact inside_of_noCopies noCopies_nil (fun _ e he => by cases he) hb.remove
  | some ctx' =>
    have hb' := caCheckTheExist_bounded pdu endpoint hb hexist
    simp only [Option.bind_some]
    cases hget : caGetBlockDataFromBlockDataList ctx' (pduBlockId pdu endpoint) with
    | none => exact inside_of_noCopies noCopies_nil (fun _ e he => by cases he) hb'.remove
    | some e =>
      have he := hb'.get hget
      dsimp only
      by_cases hreq : isRequestCode pdu.code = true
      · generalize hdef : (if block.num = 0 ∧ pdu.code = caGet ∧ block.m = false then
            updateFromFirstGet e pdu block
          else if isRequestCode pdu.code = true then updateFromRequest2 e pdu block
          else updateFromResponse2 e pdu receivedData block dataLen) = upd
        have hupd : upd = updateFromFirstGet e pdu block
            ∨ upd = updateFromRequest2 e pdu block := by
          rw [← hdef, if_pos hreq]
          split
          · exact Or.inl rfl
          · exact Or.inr rfl
        obtain ⟨hnil, hroom⟩ := updateFromRequest2_room pdu block he hupd
        obtain ⟨hlog, hctx⟩ := finishNextStep_bounded pdu receivedData ctx'
          (pduBlockId pdu endpoint) upd
        rw [hnil] at hlog
        refine ⟨iff_of_true (hlog.mpr copiesInside_nil) ?_, fun _ => hctx hb' hroom⟩
        intro h
        rw [hreq] at h
        cases h
      have hnotGet : ¬ (block.num = 0 ∧ pdu.code = caGet ∧ block.m = false) := by
        rintro ⟨-, hget', -⟩
        exact hreq (by rw [hget']; rfl)
      have hreq' : isRequestCode pdu.code = false := Bool.not_eq_true _ ▸ hreq
      obtain ⟨hcopies, hentry⟩ :=
        updateFromResponse2_parts pdu receivedData block dataLen e
      obtain ⟨hlog, hctx⟩ := finishNextStep_bounded pdu receivedData ctx'
        (pduBlockId pdu endpoint) (updateFromResponse2 e pdu receivedData block dataLen)
      have hsized := sized_check2 pdu receivedData block dataLen e
      rw [hcopies, copiesInside_map, storeChecked_inside_iff receivedData .block2 hsized he] at hlog
      simp only [if_neg hnotGet, hreq', Bool.false_eq_true, if_false, true_implies,
        Option.some.injEq, forall_eq']
      refine ⟨hlog, fun hfits => hctx hb' ?_⟩
      intro d status hd
      exact hentry d status hd (storeChecked_room receivedData .block2 hsized he hfits)

end Setters

/-! ## One PDU, and runs -/

structure Received where
  pdu : CoapPdu
  endpoint : CAEndpoint
  dataLen : Nat
  deriving DecidableEq

def Received.data (r : Received) : CAData :=
  caGenerateHandlerData r.endpoint r.pdu

def receivePdu (ctx : CABlockWiseContext) (r : Received) : CABlockWiseContext × List Event :=
  let out := caReceiveBlockWiseData ctx r.pdu r.endpoint r.data r.dataLen
  (out.ctx, out.log)

/-- The PDU fits the state it meets. Block1 comes first and may end the work; a 4.08 without block
options goes by the option stored in the entry. -/
def PduFits (ctx : CABlockWiseContext) (r : Received) : Prop :=
  if r.pdu.code = caEmpty then True
  else if r.pdu.block1.isNone && r.pdu.block2.isNone then
    caResponseCode r.pdu.code = caRequestEntityIncomplete →
      ∀ e, caGetBlockDataFromBlockDataList ctx (pduBlockId r.pdu r.endpoint) = some e →
        e.type = some .block2 → Fits2 ctx r.pdu r.endpoint r.data e.block2 r.dataLen
  else
    (∀ block ∈ r.pdu.block1, Fits1 ctx r.pdu r.endpoint r.data block r.dataLen)
      ∧ ((receiveBlock1 ctx r.pdu r.endpoint r.data r.dataLen).res = .ok →
        ∀ block ∈ r.pdu.block2, Fits2 (receiveBlock1 ctx r.pdu r.endpoint r.data r.dataLen).ctx
          r.pdu r.endpoint r.data block r.dataLen)

section Pdu

variable {ctx : CABlockWiseContext} (r : Received)

section

variable (hb : Bounded ctx)
include hb

lemma receiveEmpty_inside (token : CAToken) :
    Inside (receiveEmpty ctx r.endpoint token) True := by
  unfold receiveEmpty
  dsimp only
  split
  · split
    · exact inside_of_noCopies noCopies_nil trivial hb
    · exact inside_of_noCopies noCopies_nil trivial hb.remove
  · exact inside_of_noCopies noCopies_nil trivial hb.remove

lemma receiveWithoutBlock_inside :
    Inside (receiveWithoutBlock ctx r.pdu r.endpoint r.data r.dataLen)
      (caResponseCode r.pdu.code = caRequestEntityIncomplete →
        ∀ e, caGetBlockDataFromBlockDataList ctx (pduBlockId r.pdu r.endpoint) = some e →
          e.type = some .block2 → Fits2 ctx r.pdu r.endpoint r.data e.block2 r.dataLen) := by
  unfold receiveWithoutBlock
  dsimp only
  by_cases hcode : caResponseCode r.pdu.code = caRequestEntityIncomplete
  · simp only [hcode, if_true, true_implies]
    cases hget : caGetBlockDataFromBlockDataList ctx (pduBlockId r.pdu r.endpoint) with
    | none => exact inside_of_noCopies noCopies_nil (fun e he => by cases he) hb
    | some e =>
      simp only [Option.some.injEq, forall_eq']
      cases htype : e.type with
      | none => exact inside_of_noCopies noCopies_nil (fun h => by cases h) hb
      | some blockType =>
        cases blockType with
        | block1 =>
          -- a 4.08 is no request, so its Block1 side copies nothing
          have hreq : isRequestCode r.pdu.code ≠ true := by
            intro hreq
            have herr := isBlockErrorCode_of_request hreq
            rw [isBlockErrorCode, hcode] at herr
            cases herr
          obtain ⟨hlog, hctx⟩ := caSetNextBlockOption1_inside r.pdu r.endpoint r.data
            e.block1 r.dataLen hb
          have hfits : Fits1 ctx r.pdu r.endpoint r.data e.block1 r.dataLen :=
            fun h => absurd h hreq
          exact ⟨iff_of_true (hlog.mpr hfits) (fun h => by cases h), fun _ => hctx hfits⟩
        | block2 =>
          have hset := caSetNextBlockOption2_inside r.pdu r.endpoint r.data e.block2 r.dataLen hb
          simp only [true_implies]
          split
          · exact hset
          · exact hset
  simp only [if_neg hcode]
  split
  · exact inside_of_noCopies noCopies_nil (absurd · hcode) hb.remove
  · exact inside_of_noCopies noCopies_nil (absurd · hcode) hb

lemma receiveBlock1_inside :
    Inside (receiveBlock1 ctx r.pdu r.endpoint r.data r.dataLen)
      (∀ block ∈ r.pdu.block1, Fits1 ctx r.pdu r.endpoint r.data block r.dataLen) := by
  unfold receiveBlock1
  cases r.pdu.block1 with
  | none => exact inside_of_noCopies noCopies_nil (fun b hb => by cases hb) hb
  | some block =>
    simp only [Option.mem_def, Option.some.injEq, forall_eq']
    exact caSetNextBlockOption1_inside r.pdu r.endpoint r.data block r.dataLen hb

lemma receiveBlock2_inside :
    Inside (receiveBlock2 ctx r.pdu r.endpoint r.data r.dataLen)
      (∀ block ∈ r.pdu.block2, Fits2 ctx r.pdu r.endpoint r.data block r.dataLen) := by
  unfold receiveBlock2
  cases r.pdu.block2 with
  | none => exact inside_of_noCopies noCopies_nil (fun b hb => by cases hb) hb
  | some block =>
    simp only [Option.mem_def, Option.some.injEq, forall_eq']
    exact caSetNextBlockOption2_inside r.pdu r.endpoint r.data block r.dataLen hb

lemma receiveBlocks_inside :
    Inside (receiveBlocks ctx r.pdu r.endpoint r.data r.dataLen)
      ((∀ block ∈ r.pdu.block1, Fits1 ctx r.pdu r.endpoint r.data block r.dataLen)
        ∧ ((receiveBlock1 ctx r.pdu r.endpoint r.data r.dataLen).res = .ok →
          ∀ block ∈ r.pdu.block2, Fits2 (receiveBlock1 ctx r.pdu r.endpoint r.data r.dataLen).ctx
            r.pdu r.endpoint r.data block r.dataLen)) := by
  obtain ⟨hlog1, hctx1⟩ := receiveBlock1_inside r hb
  unfold receiveBlocks
  dsimp only
  by_cases hok : (receiveBlock1 ctx r.pdu r.endpoint r.data r.dataLen).res = .ok
  · simp only [hok, ne_eq, not_true_eq_false, if_false, true_implies]
    constructor
    · rw [copiesInside_append, hlog1]
      apply and_congr_right
      intro hfits
      exact (receiveBlock2_inside r (hctx1 hfits)).1
    · rintro ⟨hfits1, hfits2⟩
      exact (receiveBlock2_inside r (hctx1 hfits1)).2 hfits2
  simp only [hok, ne_eq, not_false_eq_true, if_true, false_implies, and_true]
  exact ⟨hlog1, hctx1⟩

lemma receivePdu_inside :
    (CopiesInside (receivePdu ctx r).2 ↔ PduFits ctx r)
      ∧ (PduFits ctx r → Bounded (receivePdu ctx r).1) := by
  simp only [receivePdu, PduFits]
  unfold caReceiveBlockWiseData
  by_cases hempty : r.pdu.code = caEmpty
  · simp only [hempty, if_true]
    split
    · exact inside_of_noCopies noCopies_nil trivial hb
    · exact receiveEmpty_inside r hb _
  simp only [if_neg hempty]
  by_cases hnone : (r.pdu.block1.isNone && r.pdu.block2.isNone) = true
  · simp only [if_pos hnone]
    exact receiveWithoutBlock_inside r hb
  simp only [if_neg hnone]
  exact receiveBlocks_inside r hb

end

end Pdu

/-- A request block of 16 bytes with more to come, whose Size1 option says
`size`. -/
def sizedBlock (size : Nat) : Received :=
  { pdu :=
      { type := .confirm, code := caPost, id := 1, token := tokenOne
        block1 := some ⟨0, true, 0⟩, block2 := none, size1 := some size, size2 := none
        uri := none, payload := List.replicate 16 7 }
    endpoint := ⟨1, addrOne, 5683⟩
    dataLen := 40 }

end Iochibity.Coap
