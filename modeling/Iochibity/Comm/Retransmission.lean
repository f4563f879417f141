/-
`caretransmission.c`: the list of confirmable messages that wait for an acknowledgement.
-/
import Iochibity.Coap.Message
import Iochibity.Lib.FirstMatch
import Iochibity.Lib.Runs
import Iochibity.Lib.Sweep
import Iochibity.Lib.Buffer
import Iochibity.Lib.Slots

namespace Iochibity.Comm

open Iochibity.Coap
open List
open FirstMatch (erase lookup mem_slot)

section

/-! ## The header of a PDU in its wire form

Each reader first checks the size against `CA_PDU_MIN_SIZE`, four bytes. -/

def caNotFound : Nat := 404

/-- The type field of `coap_hdr_t`: two bits. -/
def caMessageTypeOfBits (n : Nat) : CAMessageType :=
  match n % 4 with
  | 0 => .confirm
  | 1 => .nonconfirm
  | 2 => .acknowledge
  | _ => .reset

/-- `CAGetMessageTypeFromPduBinaryData`: the first byte holds, from the low
bits up, token length (4), type (2) and version (2). -/
def caGetMessageTypeFromPduBinaryData : List UInt8 → CAMessageType
  | b0 :: _ :: _ :: _ :: _ => caMessageTypeOfBits (b0.toNat / 16)
  | _ => .nonconfirm

/-- `CAGetMessageIdFromPduBinaryData`: the two bytes of `hdr->id`, which the
code does not bring into host order. -/
def caGetMessageIdFromPduBinaryData : List UInt8 → UInt16
  | _ :: _ :: b2 :: b3 :: _ => UInt16.ofNat (b2.toNat + 256 * b3.toNat)
  | _ => 0

def caGetCodeFromPduBinaryData : List UInt8 → Nat
  | _ :: b1 :: _ :: _ :: _ => caResponseCode b1.toNat
  | _ => caNotFound

structure CARetransmissionConfig where
  supportType : UInt32
  tryingCount : UInt8
  deriving DecidableEq

/-- `DEFAULT_RETRANSMISSION_TYPE` (IP, EDR, LE) and `DEFAULT_RETRANSMISSION_COUNT`. -/
def CARetransmissionConfig.default : CARetransmissionConfig :=
  { supportType := 1 ||| 4 ||| 2, tryingCount := 4 }

/-- `CARetransmissionData_t`; `size` is the length of `pdu`. -/
structure CARetransmissionData where
  timeStamp : UInt64
  timeout : UInt64
  triedCount : UInt8
  messageId : UInt16
  dataType : CADataType
  endpoint : CAEndpoint
  pdu : List UInt8
  /-- The heap object this entry is. -/
  allocation : Nat
  deriving DecidableEq

/-- `CARetransmission_t`, the part the three operations work on, with the
number of objects that were entered so far. -/
structure CARetransmission where
  config : CARetransmissionConfig
  dataList : List CARetransmissionData
  allocations : Nat
  deriving DecidableEq

/-- What the search loops compare: `messageId` and `endpoint->adapter`. -/
def CARetransmissionData.key (retData : CARetransmissionData) : UInt16 × UInt32 :=
  (retData.messageId, retData.endpoint.adapter)

section

variable (context : CARetransmission)

def CARetransmission.supports (endpoint : CAEndpoint) : Bool :=
  context.config.supportType &&& endpoint.adapter != 0

/-- The context that `CARetransmissionInitialize` sets up. -/
def caRetransmissionInitialize (config : CARetransmissionConfig) : CARetransmission :=
  { config := config, dataList := [], allocations := 0 }

/-- What happens to an entry: it is entered, its PDU is handed to `dataSendMethod` again or copied
out to the receiver of an answer, it is taken out by the answer, or handed to `timeoutCallback`. -/
inductive Event
  | accepted (retData : CARetransmissionData)
  | resent (retData : CARetransmissionData)
  | copiedOut (retData : CARetransmissionData)
  | answered (retData : CARetransmissionData) (endpoint : CAEndpoint) (pdu : List UInt8)
  | timedOut (retData : CARetransmissionData)
  deriving DecidableEq

/-! ## The operations -/

/-- `CAGetTimeoutValue`: between 2 and 3 seconds, in microseconds. When
`OCGetRandomBytes` fails the random byte is 0. -/
def caGetTimeoutValue (randomValue : UInt8) : UInt64 :=
  ((2 * 1000 : UInt64) + ((1000 * randomValue.toUInt64) >>> (8 : UInt64))) * 1000

/-- `CACheckTimeout`, in 64-bit arithmetic; a shift by 64 or more is undefined in C and taken modulo
64 here, as usual targets do. -/
def caCheckTimeout (currentTime : UInt64) (retData : CARetransmissionData) : Bool :=
  let milliTimeoutValue := retData.timeout / 1000
  let timeout := (milliTimeoutValue <<< retData.triedCount.toUInt64) * 1000
  retData.timeStamp + timeout ≤ currentTime

/-- The loop body of `CACheckRetransmissionList`, for one entry at the time it reads: what is left
of it, and what was raised. -/
def checkEntry (tryingCount : UInt8) (currentTime : UInt64) (retData : CARetransmissionData) :
    Option CARetransmissionData × List Event :=
  -- `triedCount` is a `uint8_t`
  let retData' :=
    if caCheckTimeout currentTime retData then
      { retData with timeStamp := currentTime, triedCount := retData.triedCount + 1 }
    else retData
  let sent := if caCheckTimeout currentTime retData then [Event.resent retData] else []
  if tryingCount ≤ retData'.triedCount then (none, sent ++ [Event.timedOut retData'])
  else (some retData', sent)

/-- `CACheckRetransmissionList`; `clock n` is what the `n`-th call of
`OICGetCurrentTime` in this pass returns. -/
def caCheckRetransmissionList (clock : Nat → UInt64) : CARetransmission × List Event :=
  let r := Sweep.loop (fun n => checkEntry context.config.tryingCount (clock n)) 0
    (UInt64.ofNat context.dataList.length) 0 context.dataList
  ({ context with dataList := r.1 }, r.2)

def caRetransmissionSentData (endpoint : CAEndpoint) (dataType : CADataType) (pdu : List UInt8)
    (currentTime : UInt64) (randomValue : UInt8) : CAResult × CARetransmission × List Event :=
  if ¬ context.supports endpoint then (.notSupported, context, [])
  else if caGetMessageTypeFromPduBinaryData pdu ≠ .confirm then (.notSupported, context, [])
  else
    let messageId := caGetMessageIdFromPduBinaryData pdu
    let retData : CARetransmissionData :=
      { timeStamp := currentTime
        timeout := caGetTimeoutValue randomValue
        triedCount := 0
        messageId := messageId
        dataType := dataType
        endpoint := endpoint
        pdu := pdu
        allocation := context.allocations }
    match lookup CARetransmissionData.key (messageId, endpoint.adapter)
        context.dataList with
    -- "Duplicate message ID"
    | some _ => (.failed, context, [])
    | none =>
      (.ok,
        { context with
          dataList := context.dataList ++ [retData]
          allocations := context.allocations + 1 },
        [Event.accepted retData])

def isAnswer (pdu : List UInt8) : Bool :=
  caGetMessageTypeFromPduBinaryData pdu == .acknowledge
    || caGetMessageTypeFromPduBinaryData pdu == .reset && caGetCodeFromPduBinaryData pdu == caEmpty

/-- What `CARetransmissionReceivedData` returns, the PDU it stores in `*retransmissionPdu`, the new
context, and what was raised. -/
structure ReceivedOutcome where
  result : CAResult
  retransmissionPdu : Option (List UInt8)
  context : CARetransmission
  events : List Event
  deriving DecidableEq

/-- `CARetransmissionReceivedData`: the loop stops at the first entry with the
message id and adapter of the answer. -/
def caRetransmissionReceivedData (endpoint : CAEndpoint) (pdu : List UInt8) : ReceivedOutcome :=
  if ¬ context.supports endpoint then ⟨.ok, none, context, []⟩
  else if ¬ isAnswer pdu then ⟨.ok, none, context, []⟩
  else
    let key := (caGetMessageIdFromPduBinaryData pdu, endpoint.adapter)
    match lookup CARetransmissionData.key key context.dataList with
    | none => ⟨.ok, none, context, []⟩
    | some retData =>
      -- the PDU is copied so that the caller can get the token from it
      let empty := caGetCodeFromPduBinaryData pdu == caEmpty
      { result := .ok
        retransmissionPdu := if empty then some retData.pdu else none
        context :=
          { context with
            dataList := erase CARetransmissionData.key key context.dataList }
        events :=
          (if empty then [Event.copiedOut retData] else [])
            ++ [Event.answered retData endpoint pdu] }

inductive Call
  | sentData (endpoint : CAEndpoint) (dataType : CADataType) (pdu : List UInt8)
      (currentTime : UInt64) (randomValue : UInt8)
  | receivedData (endpoint : CAEndpoint) (pdu : List UInt8)
  | checkList (clock : Nat → UInt64)

def step : Call → CARetransmission × List Event
  | .sentData endpoint dataType pdu currentTime randomValue =>
    (caRetransmissionSentData context endpoint dataType pdu currentTime randomValue).2
  | .receivedData endpoint pdu =>
    let outcome := caRetransmissionReceivedData context endpoint pdu
    (outcome.context, outcome.events)
  | .checkList clock => caCheckRetransmissionList context clock

end

/-! ## The life of a message -/

inductive Happening
  | accepted
  | resent
  | answered
  | timedOut
  deriving DecidableEq

def Event.data : Event → CARetransmissionData
  | .accepted retData => retData
  | .resent retData => retData
  | .copiedOut retData => retData
  | .answered retData _ _ => retData
  | .timedOut retData => retData

def Event.happening : Event → Option Happening
  | .accepted _ => some .accepted
  | .resent _ => some .resent
  | .copiedOut _ => none
  | .answered _ _ _ => some .answered
  | .timedOut _ => some .timedOut

def history (n : Nat) (log : List Event) : List Happening :=
  log.filterMap (fun event => if event.data.allocation = n then event.happening else none)

/-- What the history of an accepted message can be: it is in the list and was resent as often as its
entry counts, or it has left, by an answer, with fewer than `tryingCount` resends and no timeout, or
right after its `tryingCount`-th resend with one timeout. -/
inductive Life (context : CARetransmission) (n : Nat) : List Happening → Prop
  | waiting (retData : CARetransmissionData) (listed : retData ∈ context.dataList)
      (allocation : retData.allocation = n) :
      Life context n (.accepted :: List.replicate retData.triedCount.toNat .resent)
  | answered (gone : ∀ retData ∈ context.dataList, retData.allocation ≠ n) (resends : Nat)
      (resends_lt : resends < context.config.tryingCount.toNat) :
      Life context n (.accepted :: (List.replicate resends .resent ++ [.answered]))
  | timedOut (gone : ∀ retData ∈ context.dataList, retData.allocation ≠ n) :
      Life context n
        (.accepted :: (List.replicate context.config.tryingCount.toNat .resent ++ [.timedOut]))

structure Bookkeeping (context : CARetransmission) (log : List Event) : Prop where
  keys_nodup : (context.dataList.map CARetransmissionData.key).Nodup
  tried_lt : ∀ retData ∈ context.dataList,
    retData.triedCount.toNat < context.config.tryingCount.toNat
  life : ∀ n < context.allocations, Life context n (history n log)
  /-- Nothing has happened to objects that do not exist yet. -/
  future : ∀ n, context.allocations ≤ n → history n log = []
  allocations_nodup : (context.dataList.map CARetransmissionData.allocation).Nodup
  allocation_lt : ∀ retData ∈ context.dataList, retData.allocation < context.allocations
  /-- An entry is only taken out by an ACK or empty RST with its own message id
  and adapter. -/
  matching : ∀ retData endpoint pdu, Event.answered retData endpoint pdu ∈ log → isAnswer pdu = true
      ∧ retData.key = (caGetMessageIdFromPduBinaryData pdu, endpoint.adapter)

@[simp] lemma history_append (n : Nat) (log log' : List Event) :
    history n (log ++ log') = history n log ++ history n log' :=
  filterMap_append

lemma Life.other {context context' : CARetransmission} {n : Nat} {past : List Happening}
    (h : Life context n past) (hconfig : context'.config = context.config)
    (hsame : ∀ e, e.allocation = n → (e ∈ context'.dataList ↔ e ∈ context.dataList)) :
    Life context' n past := by
  have hgone : (∀ e ∈ context.dataList, e.allocation ≠ n) →
      ∀ e ∈ context'.dataList, e.allocation ≠ n := by
    intro hall e he hn
    exact hall e ((hsame e hn).mp he) hn
  cases h with
  | waiting e he hn => exact Life.waiting e ((hsame e hn).mpr he) hn
  | answered hall resends hlt =>
    rw [← hconfig] at hlt
    exact Life.answered (hgone hall) resends hlt
  | timedOut hall =>
    rw [← hconfig]
    exact Life.timedOut (hgone hall)

lemma history_eq_nil {n : Nat} {log : List Event}
    (h : ∀ event ∈ log, event.data.allocation ≠ n) : history n log = [] := by
  rw [history, filterMap_eq_nil_iff]
  intro event hevent
  rw [if_neg (h event hevent)]

namespace Bookkeeping

variable {context : CARetransmission} {log : List Event}

variable {e : CARetransmissionData}

section

variable (h : Bookkeeping context log)
include h

lemma history_of_mem (he : e ∈ context.dataList) :
    history e.allocation log = .accepted :: List.replicate e.triedCount.toNat .resent := by
  have hlife := h.life e.allocation (h.allocation_lt e he)
  generalize hh : history e.allocation log = past at hlife
  cases hlife with
  | waiting e' he' hsame =>
    have heq : e' = e := inj_on_of_nodup_map h.allocations_nodup he' he hsame
    rw [heq]
  | answered hgone => exact absurd rfl (hgone e he)
  | timedOut hgone => exact absurd rfl (hgone e he)

lemma length_lt : context.dataList.length < 2 ^ 64 := by
  let code : CARetransmissionData → Fin (2 ^ 48) := fun e =>
    ⟨e.messageId.toNat + 2 ^ 16 * e.endpoint.adapter.toNat, by
      have hid := e.messageId.toNat_lt
      have hadapter := e.endpoint.adapter.toNat_lt
      omega⟩
  have hnodup : (context.dataList.map code).Nodup := by
    refine List.Nodup.map_on ?_ (List.Nodup.of_map _ h.keys_nodup)
    intro e he e' he' hcode
    have hcode' := congrArg Fin.val hcode
    have hid := e.messageId.toNat_lt
    have hid' := e'.messageId.toNat_lt
    simp only [code] at hcode'
    have hids : e.messageId = e'.messageId := UInt16.toNat_inj.mp (by omega)
    have hadapters : e.endpoint.adapter = e'.endpoint.adapter := UInt32.toNat_inj.mp (by omega)
    exact inj_on_of_nodup_map h.keys_nodup he he' (Prod.ext hids hadapters)
  have hcard := hnodup.length_le_card
  rw [length_map, Fintype.card_fin] at hcard
  omega

section

variable {done todo : List CARetransmissionData} (hlist : context.dataList = done ++ e :: todo)
include hlist

lemma allocation_ne : ∀ e' ∈ done ++ todo, e'.allocation ≠ e.allocation := by
  have hnodup := h.allocations_nodup
  rw [hlist, map_append, map_cons, nodup_middle, ← map_append] at hnodup
  intro e' he' heq
  refine (nodup_cons.mp hnodup).1 ?_
  rw [← heq]
  exact mem_map_of_mem he'

lemma replace {left : Option CARetransmissionData} {raised : List Event}
    (hkey : ∀ e' ∈ left, e'.key = e.key) (hallocation : ∀ e' ∈ left, e'.allocation = e.allocation)
    (htried : ∀ e' ∈ left, e'.triedCount.toNat < context.config.tryingCount.toNat)
    (hraised : ∀ event ∈ raised, event.data.allocation = e.allocation)
    (hmatching : ∀ retData endpoint pdu, Event.answered retData endpoint pdu ∈ raised →
      isAnswer pdu = true ∧ retData.key = (caGetMessageIdFromPduBinaryData pdu, endpoint.adapter))
    (hlife : Life { context with dataList := done ++ left.toList ++ todo } e.allocation
      (history e.allocation log ++ history e.allocation raised)) :
    Bookkeeping { context with dataList := done ++ left.toList ++ todo } (log ++ raised) := by
  have hmem : ∀ e' ∈ done ++ left.toList ++ todo, e' ∈ context.dataList ∨ e' ∈ left := by
    intro e' he'
    rw [hlist]
    simp only [mem_append, mem_cons, Option.mem_toList] at he' ⊢
    tauto
  have hkept : ∀ e' ∈ context.dataList, e'.allocation ≠ e.allocation →
      e' ∈ done ++ left.toList ++ todo := by
    intro e' he' hne
    have hne' : e' ≠ e := fun heq => hne (congrArg _ heq)
    rw [hlist] at he'
    simp only [mem_append, mem_cons, hne', false_or] at he' ⊢
    tauto
  -- rewriting an element to one with the same image, or dropping it, keeps images distinct
  have hsub : ∀ {β : Type} (f : CARetransmissionData → β), (∀ e' ∈ left, f e' = f e) →
      ((done ++ left.toList ++ todo).map f).Sublist (context.dataList.map f) := by
    intro β f hf
    rw [hlist, append_assoc, map_append, map_append, map_append]
    refine List.Sublist.append_left ?_ _
    cases left with
    | none => simp
    | some e' =>
      rw [Option.toList_some, map_cons, map_cons, hf e' rfl]
      simp
  constructor
  · exact (hsub _ hkey).nodup h.keys_nodup
  · intro e' he'
    rcases hmem e' he' with hold | hnew
    · exact h.tried_lt e' hold
    · exact htried e' hnew
  · intro n hn
    rw [history_append]
    by_cases hne : e.allocation = n
    · rw [← hne]
      exact hlife
    -- another object: its history and its place in the list are as before
    have hquiet : history n raised = [] :=
      history_eq_nil (fun event hevent => by rw [hraised event hevent]; exact hne)
    rw [hquiet, append_nil]
    refine (h.life n hn).other rfl ?_
    intro e' hn'
    constructor
    · intro he'
      rcases hmem e' he' with hold | hnew
      · exact hold
      · exact absurd ((hallocation e' hnew).symm.trans hn') hne
    · intro he'
      refine hkept e' he' ?_
      rw [hn']
      exact fun heq => hne heq.symm
  · intro n hn
    have he : e.allocation < context.allocations :=
      h.allocation_lt e (by rw [hlist]; exact mem_append_right _ mem_cons_self)
    have hn' : context.allocations ≤ n := hn
    rw [history_append, h.future n hn', nil_append]
    refine history_eq_nil (fun event hevent => ?_)
    rw [hraised event hevent]
    omega
  · exact (hsub _ hallocation).nodup h.allocations_nodup
  · intro e' he'
    rcases hmem e' he' with hold | hnew
    · exact h.allocation_lt e' hold
    rw [hallocation e' hnew]
    exact h.allocation_lt e (by rw [hlist]; exact mem_append_right _ mem_cons_self)
  · intro retData endpoint pdu hin
    rcases mem_append.mp hin with hold | hnew
    · exact h.matching retData endpoint pdu hold
    · exact hmatching retData endpoint pdu hnew

end

lemma enter (hfree : lookup CARetransmissionData.key e.key context.dataList = none)
    (hnew : e.allocation = context.allocations) (hzero : e.triedCount = 0)
    (htrying : 0 < context.config.tryingCount.toNat) :
    Bookkeeping
      { context with
        dataList := context.dataList ++ [e]
        allocations := context.allocations + 1 }
      (log ++ [Event.accepted e]) := by
  have hkey : e.key ∉ context.dataList.map CARetransmissionData.key := by
    intro hin
    obtain ⟨e', he', hsame⟩ := mem_map.mp hin
    rw [FirstMatch.lookup_eq_none] at hfree
    have hslot := (mem_slot CARetransmissionData.key).mpr ⟨he', hsame⟩
    rw [hfree] at hslot
    cases hslot
  have hobject : e.allocation ∉ context.dataList.map CARetransmissionData.allocation := by
    intro hin
    obtain ⟨e', he', hsame⟩ := mem_map.mp hin
    have hlt := h.allocation_lt e' he'
    omega
  have hnow : ∀ n, n ≠ e.allocation → history n [Event.accepted e] = [] := by
    intro n hne
    refine history_eq_nil (fun event hevent => ?_)
    rw [mem_singleton.mp hevent]
    exact fun heq => hne heq.symm
  constructor
  · rw [map_append, map_singleton, ← concat_eq_append, nodup_concat]
    exact ⟨hkey, h.keys_nodup⟩
  · intro e' he'
    rcases mem_append.mp he' with hold | hlast
    · exact h.tried_lt e' hold
    rw [mem_singleton.mp hlast, hzero]
    exact htrying
  · intro n hn
    have hn' : n < context.allocations + 1 := hn
    rw [history_append]
    by_cases heq : n = e.allocation
    · -- the new object
      have hpast : history n log = [] := h.future n (by omega)
      have hfirst : history n [Event.accepted e] = [.accepted] := by
        simp [history, Event.data, Event.happening, heq]
      have hlife : Life { context with
          dataList := context.dataList ++ [e]
          allocations := context.allocations + 1 } n
          (.accepted :: List.replicate e.triedCount.toNat .resent) :=
        Life.waiting e (mem_append_right _ (mem_singleton_self e)) heq.symm
      rw [hzero] at hlife
      rw [hpast, hfirst]
      exact hlife
    rw [hnow n heq, append_nil]
    refine (h.life n (by omega)).other rfl ?_
    intro e' hn'
    have hne : e' ≠ e := by
      rintro rfl
      exact heq hn'.symm
    simp [hne]
  · intro n hn
    have hn' : context.allocations + 1 ≤ n := hn
    rw [history_append, h.future n (by omega), hnow n (by omega)]
    rfl
  · rw [map_append, map_singleton, ← concat_eq_append, nodup_concat]
    exact ⟨hobject, h.allocations_nodup⟩
  · intro e' he'
    rcases mem_append.mp he' with hold | hlast
    · exact Nat.lt_succ_of_lt (h.allocation_lt e' hold)
    rw [mem_singleton.mp hlast, hnew]
    simp
  · intro retData endpoint pdu hin
    rcases mem_append.mp hin with hold | hlast
    · exact h.matching retData endpoint pdu hold
    · simp at hlast

end

end Bookkeeping

/-! ## One step -/

lemma checkEntry_cases (tryingCount : UInt8) (now : UInt64) (e : CARetransmissionData)
    (he : e.triedCount.toNat < tryingCount.toNat) :
    checkEntry tryingCount now e = (some e, [])
      ∨ (∃ e', e'.key = e.key ∧ e'.allocation = e.allocation
          ∧ e'.triedCount.toNat = e.triedCount.toNat + 1
          ∧ e'.triedCount.toNat < tryingCount.toNat
          ∧ checkEntry tryingCount now e = (some e', [Event.resent e]))
      ∨ (∃ e', e'.allocation = e.allocation ∧ e.triedCount.toNat + 1 = tryingCount.toNat
          ∧ checkEntry tryingCount now e = (none, [Event.resent e, Event.timedOut e'])) := by
  have hmax := tryingCount.toNat_lt
  have hnext : (e.triedCount + 1).toNat = e.triedCount.toNat + 1 := by
    rw [UInt8.toNat_add, UInt8.toNat_one, Nat.mod_eq_of_lt (by omega)]
  by_cases hexpired : caCheckTimeout now e = true
  · by_cases hlast : tryingCount ≤ e.triedCount + 1
    · right; right
      refine ⟨{ e with timeStamp := now, triedCount := e.triedCount + 1 }, rfl, ?_, ?_⟩
      · rw [UInt8.le_iff_toNat_le, hnext] at hlast
        omega
      · simp [checkEntry, hexpired, if_pos hlast]
    right; left
    refine ⟨{ e with timeStamp := now, triedCount := e.triedCount + 1 }, rfl, rfl, hnext, ?_, ?_⟩
    · rw [UInt8.le_iff_toNat_le] at hlast
      exact Nat.lt_of_not_le hlast
    · simp [checkEntry, hexpired, if_neg hlast]
  left
  have htries : ¬ tryingCount ≤ e.triedCount := by
    rw [UInt8.le_iff_toNat_le]
    omega
  simp [checkEntry, hexpired, if_neg htries]

variable {context : CARetransmission} {log : List Event}

section

variable (h : Bookkeeping context log)
include h

lemma Bookkeeping.checkEntry (now : UInt64) {done todo : List CARetransmissionData}
    {e : CARetransmissionData} (hlist : context.dataList = done ++ e :: todo) :
    Bookkeeping
      { context with
        dataList := done ++ (checkEntry context.config.tryingCount now e).1.toList ++ todo }
      (log ++ (checkEntry context.config.tryingCount now e).2) := by
  have hin : e ∈ context.dataList := by
    rw [hlist]
    exact mem_append_right _ mem_cons_self
  have htried := h.tried_lt e hin
  have hpast := h.history_of_mem hin
  obtain hidle | ⟨e', hkey, hallocation, hcount, hleft, hresent⟩
      | ⟨e', hallocation, hlast, hgone⟩ :=
    checkEntry_cases context.config.tryingCount now e htried
  · have hsame : done ++ (some e).toList ++ todo = context.dataList := by
      simp [hlist]
    rw [hidle, append_nil, hsame]
    exact h
  · rw [hresent]
    refine h.replace hlist ?_ ?_ ?_ ?_ ?_ ?_
    · rintro _ ⟨⟩
      exact hkey
    · rintro _ ⟨⟩
      exact hallocation
    · rintro _ ⟨⟩
      exact hleft
    · intro event hevent
      rw [mem_singleton.mp hevent]
      rfl
    · intro retData endpoint pdu hanswered
      simp at hanswered
    · have hnow : history e.allocation [Event.resent e] = [.resent] := by
        simp [history, Event.data, Event.happening]
      have hlife : Life { context with dataList := done ++ (some e').toList ++ todo }
          e.allocation (.accepted :: List.replicate e'.triedCount.toNat .resent) :=
        Life.waiting e' (by simp) hallocation
      rw [hcount, replicate_succ'] at hlife
      rw [hpast, hnow]
      exact hlife
  · rw [hgone]
    refine h.replace hlist ?_ ?_ ?_ ?_ ?_ ?_
    · rintro _ ⟨⟩
    · rintro _ ⟨⟩
    · rintro _ ⟨⟩
    · intro event hevent
      simp only [mem_cons, not_mem_nil, or_false] at hevent
      rcases hevent with rfl | rfl
      · rfl
      · exact hallocation
    · intro retData endpoint pdu hanswered
      simp at hanswered
    · have hnow : history e.allocation [Event.resent e, Event.timedOut e']
          = [.resent, .timedOut] := by
        simp [history, Event.data, Event.happening, hallocation]
      have hlife : Life { context with dataList := done ++ ([] : List _) ++ todo } e.allocation
          (.accepted :: (List.replicate context.config.tryingCount.toNat .resent ++ [.timedOut])) :=
        Life.timedOut (by rw [append_nil]; exact h.allocation_ne hlist)
      rw [← hlast, replicate_succ', append_assoc (List.replicate _ _)] at hlife
      rw [hpast, hnow]
      exact hlife

lemma Bookkeeping.checkList (clock : Nat → UInt64) :
    Bookkeeping (caCheckRetransmissionList context clock).1
      (log ++ (caCheckRetransmissionList context clock).2) := by
  let visit := fun n => Comm.checkEntry context.config.tryingCount (clock n)
  have hloop : Sweep.loop visit 0 (UInt64.ofNat context.dataList.length) 0 context.dataList
      = Sweep.pass visit 0 context.dataList :=
    Sweep.loop_eq_pass visit 0 [] context.dataList h.length_lt
  have hpass : Bookkeeping { context with dataList := (Sweep.pass visit 0 context.dataList).1 }
      (log ++ (Sweep.pass visit 0 context.dataList).2) := by
    refine Sweep.pass_inv visit (fun l log => Bookkeeping { context with dataList := l } log) ?_ h 0
    intro n done e todo log' hbooks
    exact hbooks.checkEntry (clock n) rfl
  rw [← hloop] at hpass
  exact hpass

lemma Bookkeeping.sentData (htrying : 0 < context.config.tryingCount.toNat)
    (endpoint : CAEndpoint) (dataType : CADataType) (pdu : List UInt8) (now : UInt64)
    (randomValue : UInt8) :
    Bookkeeping (caRetransmissionSentData context endpoint dataType pdu now randomValue).2.1
      (log ++ (caRetransmissionSentData context endpoint dataType pdu now randomValue).2.2) := by
  have hsame : Bookkeeping context (log ++ []) := by
    rw [append_nil]
    exact h
  unfold caRetransmissionSentData
  split
  · exact hsame
  split
  · exact hsame
  dsimp only
  split
  · exact hsame
  · next hfree => exact h.enter hfree rfl rfl htrying

lemma Bookkeeping.receivedData (endpoint : CAEndpoint) (pdu : List UInt8) :
    Bookkeeping (caRetransmissionReceivedData context endpoint pdu).context
      (log ++ (caRetransmissionReceivedData context endpoint pdu).events) := by
  have hsame : Bookkeeping context (log ++ []) := by
    rw [append_nil]
    exact h
  unfold caRetransmissionReceivedData
  split
  · exact hsame
  split
  · exact hsame
  next hanswer =>
    dsimp only
    split
    · exact hsame
    next e hfound =>
      obtain ⟨done, todo, hlist, herase⟩ := FirstMatch.erase_of_lookup hfound
      have hin := FirstMatch.mem_of_lookup _ hfound
      have hkey := FirstMatch.key_of_lookup _ hfound
      have hleft : erase CARetransmissionData.key
          (caGetMessageIdFromPduBinaryData pdu, endpoint.adapter) context.dataList
          = done ++ (none : Option CARetransmissionData).toList ++ todo := by
        simp [herase]
      rw [hleft]
      refine h.replace hlist ?_ ?_ ?_ ?_ ?_ ?_
      · rintro _ ⟨⟩
      · rintro _ ⟨⟩
      · rintro _ ⟨⟩
      · intro event hevent
        rw [mem_append, mem_singleton] at hevent
        rcases hevent with hcopied | rfl
        · split at hcopied
          · rw [mem_singleton.mp hcopied]
            rfl
          · cases hcopied
        · rfl
      · intro retData endpoint' pdu' hraised
        rw [mem_append, mem_singleton] at hraised
        rcases hraised with hcopied | hthis
        · split at hcopied <;> simp at hcopied
        cases hthis
        exact ⟨by simpa using hanswer, hkey⟩
      · have hnow : ∀ copied : Bool, history e.allocation
            ((if copied then [Event.copiedOut e] else []) ++ [Event.answered e endpoint pdu])
            = [.answered] := by
          intro copied
          cases copied <;> simp [history, Event.data, Event.happening]
        rw [h.history_of_mem hin, hnow]
        refine Life.answered ?_ e.triedCount.toNat (h.tried_lt e hin)
        rw [Option.toList_none, append_nil]
        exact h.allocation_ne hlist

/-! ## Whole runs -/

lemma Bookkeeping.step (htrying : 0 < context.config.tryingCount.toNat) (call : Call) :
    Bookkeeping (step context call).1 (log ++ (step context call).2)
      ∧ (Comm.step context call).1.config = context.config := by
  cases call with
  | sentData endpoint dataType pdu now randomValue =>
    refine ⟨h.sentData htrying endpoint dataType pdu now randomValue, ?_⟩
    simp only [Comm.step, caRetransmissionSentData]
    split_ifs <;> try rfl
    split <;> rfl
  | receivedData endpoint pdu =>
    refine ⟨h.receivedData endpoint pdu, ?_⟩
    simp only [Comm.step, caRetransmissionReceivedData]
    split_ifs <;> try rfl
    all_goals split <;> rfl
  | checkList clock => exact ⟨h.checkList clock, rfl⟩

end

def sampleCalls : List Call :=
  [ .sentData ⟨1, addrOne, 5683⟩ .requestData [0x40, 1, 7, 0] 0 0,
    .sentData ⟨1, addrTwo, 5683⟩ .requestData [0x40, 1, 8, 0] 4000000 255,
    .checkList (fun n => UInt64.ofNat (5000000 + n)),
    .receivedData ⟨1, addrOne, 5683⟩ [0x60, 0, 7, 0] ]

end

def isForeign (endpoint : CAEndpoint) (retData : CARetransmissionData) : Bool :=
  retData.endpoint.addr != endpoint.addr || retData.endpoint.port != endpoint.port

variable (context : CARetransmission) (endpoint : CAEndpoint)

def ReceivedIsolated (pdu : List UInt8) : Prop :=
  (caRetransmissionReceivedData context endpoint pdu).context.dataList.filter (isForeign endpoint)
      = context.dataList.filter (isForeign endpoint)
    ∧ ∀ e ∈ context.dataList,
        Event.copiedOut e ∈ (caRetransmissionReceivedData context endpoint pdu).events →
        isForeign endpoint e = false

instance (context : CARetransmission) (endpoint : CAEndpoint) (pdu : List UInt8) :
    Decidable (ReceivedIsolated context endpoint pdu) :=
  inferInstanceAs (Decidable (_ ∧ _))

def ownPart : CARetransmission :=
  { context with dataList := context.dataList.filter (!isForeign endpoint ·) }

variable (dataType : CADataType) (pdu : List UInt8) (now : UInt64) (randomValue : UInt8)

def SentIsolated : Prop :=
  (caRetransmissionSentData context endpoint dataType pdu now randomValue).1 = .failed →
    (caRetransmissionSentData (ownPart context endpoint) endpoint dataType pdu now
      randomValue).1 = .failed

instance (context : CARetransmission) (endpoint : CAEndpoint) (dataType : CADataType)
    (pdu : List UInt8) (now : UInt64) (randomValue : UInt8) :
    Decidable (SentIsolated context endpoint dataType pdu now randomValue) :=
  inferInstanceAs (Decidable (_ → _))

/-! ## Received answers -/

lemma receivedData_eq (pdu : List UInt8) :
    caRetransmissionReceivedData context endpoint pdu
      = if context.supports endpoint = true ∧ isAnswer pdu = true then
          match lookup CARetransmissionData.key
              (caGetMessageIdFromPduBinaryData pdu, endpoint.adapter) context.dataList with
          | none => ⟨.ok, none, context, []⟩
          | some e =>
            { result := .ok
              retransmissionPdu :=
                if caGetCodeFromPduBinaryData pdu == caEmpty then some e.pdu else none
              context :=
                { context with
                  dataList := erase CARetransmissionData.key
                    (caGetMessageIdFromPduBinaryData pdu, endpoint.adapter) context.dataList }
              events :=
                (if caGetCodeFromPduBinaryData pdu == caEmpty then [Event.copiedOut e] else [])
                  ++ [Event.answered e endpoint pdu] }
        else ⟨.ok, none, context, []⟩ := by
  unfold caRetransmissionReceivedData
  by_cases hsupports : context.supports endpoint = true
  · by_cases hanswer : isAnswer pdu = true
    · have hboth : context.supports endpoint = true ∧ isAnswer pdu = true :=
        ⟨hsupports, hanswer⟩
      rw [if_pos hboth]
      exact (if_neg (not_not.mpr hsupports)).trans (if_neg (not_not.mpr hanswer))
    · rw [if_neg (not_not.mpr hsupports), if_pos hanswer, if_neg (hanswer ·.2)]
  · rw [if_pos hsupports, if_neg (hsupports ·.1)]

lemma receivedIsolated_iff (pdu : List UInt8) :
    ReceivedIsolated context endpoint pdu ↔
      (context.supports endpoint = true → isAnswer pdu = true → ∀ e, lookup CARetransmissionData.key
            (caGetMessageIdFromPduBinaryData pdu, endpoint.adapter) context.dataList = some e →
          isForeign endpoint e = false) := by
  rw [ReceivedIsolated, receivedData_eq]
  by_cases hguard : context.supports endpoint = true ∧ isAnswer pdu = true
  · rw [if_pos hguard]
    cases hfound : lookup CARetransmissionData.key
        (caGetMessageIdFromPduBinaryData pdu, endpoint.adapter) context.dataList with
    | none =>
      refine iff_of_true ⟨rfl, ?_⟩ ?_
      · intro e _ hcopied
        cases hcopied
      · intro _ _ e he
        cases he
    | some e =>
      obtain ⟨done, todo, hlist, herase⟩ := FirstMatch.erase_of_lookup hfound
      dsimp only
      rw [herase]
      constructor
      · rintro ⟨hkept, -⟩ - - e' ⟨⟩
        -- a foreign entry that was taken out is missing from the foreign part
        by_contra hforeign
        rw [Bool.not_eq_false] at hforeign
        have hlength := congrArg List.length hkept
        rw [hlist, filter_append, filter_append, filter_cons_of_pos hforeign,
          length_append, length_append, length_cons] at hlength
        omega
      · intro hown
        have he := hown hguard.1 hguard.2 e rfl
        constructor
        · rw [hlist, filter_append, filter_append,
            filter_cons_of_neg (by rw [he]; exact Bool.false_ne_true)]
        · intro e' _ hcopied
          rw [mem_append] at hcopied
          rcases hcopied with hcopied | hcopied
          · split at hcopied
            · rw [mem_singleton] at hcopied
              cases hcopied
              exact he
            · cases hcopied
          rw [mem_singleton] at hcopied
          cases hcopied
  · rw [if_neg hguard]
    refine iff_of_true ⟨rfl, ?_⟩ ?_
    · intro e _ hcopied
      cases hcopied
    · intro hsupports hanswer
      exact absurd ⟨hsupports, hanswer⟩ hguard

/-! ## Sent messages -/

lemma sentData_failed_iff :
    (caRetransmissionSentData context endpoint dataType pdu now randomValue).1 = .failed ↔
      context.supports endpoint = true ∧ caGetMessageTypeFromPduBinaryData pdu = .confirm
        ∧ ∃ e ∈ context.dataList,
            e.key = (caGetMessageIdFromPduBinaryData pdu, endpoint.adapter) := by
  unfold caRetransmissionSentData
  by_cases hsupports : context.supports endpoint = true
  · by_cases hconfirm : caGetMessageTypeFromPduBinaryData pdu = .confirm
    · rw [if_neg (not_not.mpr hsupports), if_neg (not_not.mpr hconfirm)]
      dsimp only
      cases hfound : lookup CARetransmissionData.key
          (caGetMessageIdFromPduBinaryData pdu, endpoint.adapter) context.dataList with
      | none =>
        refine iff_of_false (fun h => CAResult.noConfusion h) ?_
        rintro ⟨-, -, e, he, hkey⟩
        rw [FirstMatch.lookup_eq_none] at hfound
        have hslot := (mem_slot CARetransmissionData.key).mpr ⟨he, hkey⟩
        rw [hfound] at hslot
        cases hslot
      | some e =>
        refine iff_of_true rfl ⟨hsupports, hconfirm, e, ?_, ?_⟩
        · exact FirstMatch.mem_of_lookup _ hfound
        · exact FirstMatch.key_of_lookup _ hfound
    rw [if_neg (not_not.mpr hsupports), if_pos hconfirm]
    refine iff_of_false (fun h => CAResult.noConfusion h) ?_
    rintro ⟨-, h, -⟩
    exact hconfirm h
  rw [if_pos hsupports]
  refine iff_of_false (fun h => CAResult.noConfusion h) ?_
  rintro ⟨h, -⟩
  exact hsupports h

lemma sentIsolated_iff :
    SentIsolated context endpoint dataType pdu now randomValue ↔
      (context.supports endpoint = true → caGetMessageTypeFromPduBinaryData pdu = .confirm →
        (∃ e ∈ context.dataList, e.key = (caGetMessageIdFromPduBinaryData pdu, endpoint.adapter)) →
        ∃ e ∈ context.dataList, e.key = (caGetMessageIdFromPduBinaryData pdu, endpoint.adapter)
            ∧ isForeign endpoint e = false) := by
  rw [SentIsolated, sentData_failed_iff, sentData_failed_iff]
  have hown : (∃ e ∈ (ownPart context endpoint).dataList,
        e.key = (caGetMessageIdFromPduBinaryData pdu, endpoint.adapter))
      ↔ ∃ e ∈ context.dataList, e.key = (caGetMessageIdFromPduBinaryData pdu, endpoint.adapter)
            ∧ isForeign endpoint e = false := by
    simp only [ownPart, mem_filter, Bool.not_eq_true', and_assoc]
    constructor
    · rintro ⟨e, he, hforeign, hkey⟩
      exact ⟨e, he, hkey, hforeign⟩
    · rintro ⟨e, he, hkey, hforeign⟩
      exact ⟨e, he, hforeign, hkey⟩
  rw [hown]
  constructor
  · intro h hsupports hconfirm hblocked
    exact (h ⟨hsupports, hconfirm, hblocked⟩).2.2
  · rintro h ⟨hsupports, hconfirm, hblocked⟩
    exact ⟨hsupports, hconfirm, h hsupports hconfirm hblocked⟩

/-- **When peers stay apart.** An answer from `endpoint` leaves the entries and
PDUs of other peers alone exactly when the first entry with its message id and
adapter is for `endpoint`'s own address and port, and a confirmable message to
`endpoint` is not refused because of another peer exactly when an entry with
its message id and adapter comes with one for `endpoint`'s own address and
port. -/
theorem peerIsolation_iff (context : CARetransmission) (endpoint : CAEndpoint) :
    (∀ pdu, ReceivedIsolated context endpoint pdu ↔
      (context.supports endpoint = true → isAnswer pdu = true → ∀ e, lookup CARetransmissionData.key
            (caGetMessageIdFromPduBinaryData pdu, endpoint.adapter) context.dataList = some e →
          isForeign endpoint e = false))
    ∧ ∀ dataType pdu now randomValue, SentIsolated context endpoint dataType pdu now randomValue ↔
        (context.supports endpoint = true → caGetMessageTypeFromPduBinaryData pdu = .confirm →
          (∃ e ∈ context.dataList,
            e.key = (caGetMessageIdFromPduBinaryData pdu, endpoint.adapter)) →
          ∃ e ∈ context.dataList, e.key = (caGetMessageIdFromPduBinaryData pdu, endpoint.adapter)
              ∧ isForeign endpoint e = false) := by
  constructor
  · intro pdu
    exact receivedIsolated_iff context endpoint pdu
  · intro dataType pdu now randomValue
    exact sentIsolated_iff context endpoint dataType pdu now randomValue

/-- A confirmable GET with message id 7 to the peer `"2"`. -/
def meetingList : CARetransmission :=
  (caRetransmissionSentData (caRetransmissionInitialize CARetransmissionConfig.default)
    ⟨1, addrTwo, 5683⟩ .requestData [0x40, 1, 7, 0] 0 0).2.1

theorem peers_meet :
    isAnswer [0x60, 0, 7, 0] = true
      ∧ ¬ ReceivedIsolated meetingList ⟨1, addrOne, 5683⟩ [0x60, 0, 7, 0]
      ∧ ¬ SentIsolated meetingList ⟨1, addrOne, 5683⟩ .requestData [0x40, 1, 7, 0] 1 0 := by
  decide

end Iochibity.Comm

namespace Iochibity.Comm.History

open Buffer (calloc memcpy)
open Coap (CAToken caMaxTokenLen tokenOne)
open RingSlots (Ring slotAfter)
open List

/-! ## The filter -/

def historySize : ℕ := 4

def caAdapterIp : UInt32 := 1

def caIpFamilyMask : UInt32 := 0x60

/-- `CAEndpoint_t`, as far as the filter looks at it. -/
structure CAEndpoint where
  adapter : UInt32
  flags : UInt32
  ifindex : UInt32
  deriving DecidableEq

structure CAHistoryItem where
  flags : UInt32
  messageId : UInt16
  token : List UInt8
  tokenLength : ℕ
  ifindex : UInt32
  deriving DecidableEq

def CAHistoryItem.zero : CAHistoryItem := ⟨0, 0, calloc caMaxTokenLen, 0, 0⟩

abbrev CAHistory := Ring CAHistoryItem historySize

def CAHistory.zero : CAHistory := ⟨⟨0, by decide⟩, Vector.replicate historySize .zero⟩

/-- A message over `CA_ADAPTER_IP`. -/
structure Received where
  flags : UInt32
  ifindex : UInt32
  id : UInt16
  token : CAToken
  deriving DecidableEq

def isSecond (call : Received) (item : CAHistoryItem) : Bool :=
  call.id == item.messageId && call.token.bytes.length == item.tokenLength
    && call.ifindex == item.ifindex
    && item.token.take call.token.bytes.length == call.token.bytes

def overwrite (item : CAHistoryItem) (call : Received) : CAHistoryItem :=
  let item := { item with
    flags := call.flags &&& caIpFamilyMask
    messageId := call.id
    ifindex := call.ifindex }
  if call.token.bytes = [] then item
  else { item with
    token := memcpy item.token 0 call.token.bytes call.token.bytes.length
    tokenLength := call.token.bytes.length }

/-- `CADropSecondMessage`: whether the message is dropped, and the history behind it. -/
def caDropSecondMessage (history : CAHistory) (ep : Option CAEndpoint) (id : UInt16)
    (token : CAToken) : Bool × CAHistory :=
  match ep with
  | none => (true, history)
  | some ep =>
    if ep.adapter ≠ caAdapterIp then (false, history)
    else
      let call : Received := ⟨ep.flags, ep.ifindex, id, token⟩
      (history.slots.toList.any (isSecond call), RingSlots.push overwrite history call)

def Received.endpoint (call : Received) : CAEndpoint := ⟨caAdapterIp, call.flags, call.ifindex⟩

section

variable (calls : List Received)

def historyAfter : CAHistory :=
  calls.foldl (fun history call =>
    (caDropSecondMessage history (some call.endpoint) call.id call.token).2) .zero

def Same (earlier call : Received) : Prop :=
  earlier.id = call.id ∧ earlier.ifindex = call.ifindex ∧ earlier.token = call.token

instance (earlier call : Received) : Decidable (Same earlier call) :=
  inferInstanceAs (Decidable (_ ∧ _ ∧ _))

/-- **The filter is exact** behind some messages: one is dropped if one of the last four is the
same. -/
def DropRight (call : Received) : Prop :=
  (caDropSecondMessage (historyAfter calls) (some call.endpoint) call.id call.token).1 = true
    ↔ ∃ earlier ∈ calls.reverse.take historySize, Same earlier call

def tokenIn (s : ℕ) : List Received → List UInt8
  | [] => []
  | call :: past =>
    if past.length % historySize = s ∧ call.token.bytes ≠ [] then call.token.bytes
    else tokenIn s past

def recent : List (Received × List UInt8) :=
  let past := calls.reverse
  (List.range historySize).filterMap fun j =>
    past[j]?.map fun call => (call, tokenIn ((past.length - 1 - j) % historySize) (past.drop j))

/-- **No mistake is made**: one of the last four messages is the same, with its token in its slot;
or the message is none that looks like an empty slot, while there is one, and where the slot of a
message without a token still has an older token, none with either of them. -/
def Unmistaken (call : Received) : Prop :=
  (∃ r ∈ recent calls, r.2 = r.1.token.bytes ∧ Same r.1 call)
    ∨ (¬ (calls.length < historySize ∧ call.id = 0 ∧ call.ifindex = 0 ∧ call.token.bytes = [])
      ∧ ∀ r ∈ recent calls, r.2 ≠ r.1.token.bytes → r.1.id = call.id →
        r.1.ifindex = call.ifindex → call.token.bytes ≠ [] ∧ call.token.bytes ≠ r.2)

end

structure Shows (item : CAHistoryItem) (id : UInt16) (ifindex : UInt32) (token : List UInt8) :
    Prop where
  messageId : item.messageId = id
  ifindex : item.ifindex = ifindex
  size : item.token.length = caMaxTokenLen
  tokenLength : item.tokenLength = token.length
  token : item.token.take token.length = token

lemma zero_shows : Shows .zero 0 0 [] := ⟨rfl, rfl, rfl, rfl, rfl⟩

variable {item : CAHistoryItem} {id : UInt16} {ifindex : UInt32} {token : List UInt8}

lemma Shows.overwrite (h : Shows item id ifindex token) (call : Received) :
    Shows (overwrite item call) call.id call.ifindex
      (if call.token.bytes = [] then token else call.token.bytes) := by
  unfold History.overwrite
  by_cases hempty : call.token.bytes = []
  · rw [if_pos hempty, if_pos hempty]
    exact ⟨rfl, rfl, h.size, h.tokenLength, h.token⟩
  rw [if_neg hempty, if_neg hempty]
  have hle : call.token.bytes.length ≤ item.token.length := by
    rw [h.size]
    exact call.token.length_le
  refine ⟨rfl, rfl, ?_, rfl, ?_⟩
  · exact (Buffer.length_memcpy _ _ _ _).trans h.size
  · have hcopied := Buffer.take_memcpy_zero hle (le_refl call.token.bytes.length)
    rw [take_length] at hcopied
    exact hcopied

lemma Shows.isSecond_iff (h : Shows item id ifindex token) (call : Received) :
    isSecond call item = true ↔ id = call.id ∧ ifindex = call.ifindex
      ∧ token = call.token.bytes := by
  unfold isSecond
  simp only [Bool.and_eq_true, beq_iff_eq, h.messageId, h.tokenLength, h.ifindex]
  constructor
  · rintro ⟨⟨⟨hid, hlength⟩, hifindex⟩, htoken⟩
    refine ⟨hid.symm, hifindex.symm, ?_⟩
    rw [hlength, h.token] at htoken
    exact htoken
  · rintro ⟨rfl, rfl, htoken⟩
    rw [← htoken]
    exact ⟨⟨⟨rfl, rfl⟩, rfl⟩, h.token⟩

/-! ## The history after some messages -/

variable {past : List Received}

lemma tokenIn_nil_of_fresh {s : ℕ} (hfresh : past.length ≤ s)
    (hs : s < historySize) : tokenIn s past = [] := by
  induction past with
  | nil => rfl
  | cons call past ih =>
    simp only [length_cons] at hfresh
    have hother : ¬ past.length % historySize = s := by
      rw [Nat.mod_eq_of_lt (by omega)]
      omega
    rw [tokenIn, if_neg (hother ·.1)]
    exact ih (by omega)

lemma slotAfter_size (s : ℕ) (past : List Received) :
    (slotAfter overwrite .zero historySize s past).token.length = caMaxTokenLen
      ∧ (slotAfter overwrite .zero historySize s past).tokenLength = (tokenIn s past).length
      ∧ (slotAfter overwrite .zero historySize s past).token.take (tokenIn s past).length
        = tokenIn s past := by
  induction past with
  | nil => exact ⟨rfl, rfl, rfl⟩
  | cons call past ih =>
    have hshows : Shows (slotAfter overwrite .zero historySize s past) _ _ (tokenIn s past) :=
      ⟨rfl, rfl, ih.1, ih.2.1, ih.2.2⟩
    have hnext := hshows.overwrite call
    rw [slotAfter, tokenIn]
    by_cases htakes : past.length % historySize = s
    · rw [if_pos htakes]
      by_cases hempty : call.token.bytes = []
      · -- the token in the slot is kept
        rw [if_neg (·.2 hempty)]
        rw [if_pos hempty] at hnext
        exact ⟨hnext.size, hnext.tokenLength, hnext.token⟩
      rw [if_pos ⟨htakes, hempty⟩]
      rw [if_neg hempty] at hnext
      exact ⟨hnext.size, hnext.tokenLength, hnext.token⟩
    rw [if_neg htakes, if_neg (htakes ·.1)]
    exact ih

lemma historyAfter_holds (calls : List Received) :
    RingSlots.Holds overwrite .zero (historyAfter calls) calls.reverse := by
  induction calls using List.reverseRecOn with
  | nil =>
    refine ⟨rfl, fun s hs => ?_⟩
    exact Vector.getElem_replicate hs
  | append_singleton calls call ih =>
    have hstep : historyAfter (calls ++ [call])
        = RingSlots.push overwrite (historyAfter calls) call := by
      unfold historyAfter
      rw [foldl_append]
      rfl
    rw [hstep, reverse_append]
    exact ih.push call

variable {calls : List Received}

variable {r : Received × List UInt8}

lemma mem_recent :
    r ∈ recent calls ↔ ∃ j, ∃ h : j < calls.reverse.length, j < historySize
      ∧ r = (calls.reverse[j],
        tokenIn ((calls.reverse.length - 1 - j) % historySize) (calls.reverse.drop j)) := by
  unfold recent
  simp only [mem_filterMap, mem_range, Option.map_eq_some_iff, List.getElem?_eq_some_iff]
  constructor
  · rintro ⟨j, hj, _, ⟨h, rfl⟩, rfl⟩
    exact ⟨j, h, hj, rfl⟩
  · rintro ⟨j, h, hj, rfl⟩
    exact ⟨j, hj, _, ⟨h, rfl⟩, rfl⟩

lemma mem_take_iff {earlier : Received} :
    earlier ∈ calls.reverse.take historySize ↔ ∃ token, (earlier, token) ∈ recent calls := by
  rw [mem_take_iff_getElem]
  constructor
  · rintro ⟨j, hj, rfl⟩
    have hlt : j < calls.reverse.length ∧ j < historySize := by omega
    exact ⟨_, mem_recent.mpr ⟨j, hlt.1, hlt.2, rfl⟩⟩
  · rintro ⟨token, hmem⟩
    obtain ⟨j, h, hj, heq⟩ := mem_recent.mp hmem
    exact ⟨j, by omega, (congrArg Prod.fst heq).symm⟩

lemma recent_token (hr : r ∈ recent calls) (hown : r.2 ≠ r.1.token.bytes) :
    r.1.token.bytes = [] ∧ r.2 ≠ [] ∧ ¬ calls.length < historySize := by
  obtain ⟨j, h, hj, rfl⟩ := mem_recent.mp hr
  have hdrop : calls.reverse.drop j = calls.reverse[j] :: calls.reverse.drop (j + 1) :=
    drop_eq_getElem_cons h
  have hlength : (calls.reverse.drop (j + 1)).length = calls.reverse.length - 1 - j := by
    rw [length_drop]
    omega
  have hempty : calls.reverse[j].token.bytes = [] := by
    by_contra hne
    apply hown
    simp only [hdrop]
    rw [tokenIn, hlength, if_pos ⟨rfl, hne⟩]
  refine ⟨hempty, fun hnil => hown (hnil.trans hempty.symm), fun hround => hown ?_⟩
  -- in the first round nothing was in the slot
  simp only [hdrop]
  rw [tokenIn, if_neg (·.2 hempty), hempty]
  rw [length_reverse] at hlength ⊢
  have hmod : (calls.length - 1 - j) % historySize = calls.length - 1 - j :=
    Nat.mod_eq_of_lt (by omega)
  exact tokenIn_nil_of_fresh (by omega) (Nat.mod_lt _ (by decide))

lemma written_shows {j : ℕ} (h : j < past.length) :
    Shows (overwrite (slotAfter overwrite .zero historySize ((past.length - 1 - j) % historySize)
        (past.drop (j + 1))) past[j]) past[j].id past[j].ifindex
      (tokenIn ((past.length - 1 - j) % historySize) (past.drop j)) := by
  have hdrop : past.drop j = past[j] :: past.drop (j + 1) := drop_eq_getElem_cons h
  have hlength : (past.drop (j + 1)).length = past.length - 1 - j := by
    rw [length_drop]
    omega
  obtain ⟨hsize, htokenLength, htoken⟩ :=
    slotAfter_size ((past.length - 1 - j) % historySize) (past.drop (j + 1))
  have hshows : Shows _ _ _ _ := ⟨rfl, rfl, hsize, htokenLength, htoken⟩
  have hnext := hshows.overwrite past[j]
  rw [hdrop, tokenIn, hlength]
  by_cases hempty : past[j].token.bytes = []
  · rw [if_neg (·.2 hempty)]
    rw [if_pos hempty] at hnext
    exact hnext
  rw [if_pos ⟨rfl, hempty⟩]
  rw [if_neg hempty] at hnext
  exact hnext

lemma token_ext {token token' : CAToken} (h : token.bytes = token'.bytes) : token = token' := by
  cases token
  cases token'
  cases h
  rfl

lemma caDropSecondMessage_iff (calls : List Received) (call : Received) :
    (caDropSecondMessage (historyAfter calls) (some call.endpoint) call.id call.token).1 = true
      ↔ (∃ r ∈ recent calls, r.1.id = call.id ∧ r.1.ifindex = call.ifindex ∧ r.2 = call.token.bytes)
        ∨ (calls.length < historySize ∧ call.id = 0 ∧ call.ifindex = 0
          ∧ call.token.bytes = []) := by
  have hholds := historyAfter_holds calls
  have hslots : (caDropSecondMessage (historyAfter calls) (some call.endpoint) call.id
      call.token).1 = true ↔ ∃ s, s < historySize
          ∧ isSecond call (slotAfter overwrite .zero historySize s calls.reverse) = true := by
    have hanswer : (caDropSecondMessage (historyAfter calls) (some call.endpoint) call.id
        call.token).1 = (historyAfter calls).slots.toList.any (isSecond call) := rfl
    rw [hanswer, any_eq_true]
    simp only [Vector.mem_toList_iff, Vector.mem_iff_getElem]
    constructor
    · rintro ⟨_, ⟨s, hs, rfl⟩, hsecond⟩
      refine ⟨s, hs, ?_⟩
      rw [← hholds.slots s hs]
      exact hsecond
    · rintro ⟨s, hs, hsecond⟩
      rw [← hholds.slots s hs] at hsecond
      exact ⟨_, ⟨s, hs, rfl⟩, hsecond⟩
  have hzero : isSecond call .zero = true
      ↔ call.id = 0 ∧ call.ifindex = 0 ∧ call.token.bytes = [] := by
    rw [zero_shows.isSecond_iff]
    simp [eq_comm]
  have hround : (∃ s, s < historySize
      ∧ isSecond call (slotAfter overwrite .zero historySize s calls.reverse) = true) ↔ _ :=
    RingSlots.exists_slot_iff calls.reverse (isSecond call · = true)
  have hlength : calls.length = calls.reverse.length := length_reverse.symm
  rw [hslots, hround, hzero, hlength]
  apply or_congr_left
  constructor
  · rintro ⟨j, h, hj, hsecond⟩
    refine ⟨_, mem_recent.mpr ⟨j, h, hj, rfl⟩, ?_⟩
    exact ((written_shows h).isSecond_iff call).mp hsecond
  · rintro ⟨r, hr, hsame⟩
    obtain ⟨j, h, hj, rfl⟩ := mem_recent.mp hr
    exact ⟨j, h, hj, ((written_shows h).isSecond_iff call).mpr hsame⟩

variable {call : Received}

lemma dropRight_of_unmistaken (h : Unmistaken calls call) : DropRight calls call := by
  unfold DropRight
  rw [caDropSecondMessage_iff]
  obtain ⟨r, hr, hown, hsame⟩ | ⟨hempty, hstale⟩ := h
  · -- one of the last messages is the same, and is found
    refine iff_of_true (.inl ⟨r, hr, hsame.1, hsame.2.1, ?_⟩) ⟨r.1, ?_, hsame⟩
    · rw [hown, hsame.2.2]
    · exact mem_take_iff.mpr ⟨r.2, hr⟩
  constructor
  · rintro (⟨r, hr, hid, hifindex, htoken⟩ | hlooks)
    · by_cases hown : r.2 = r.1.token.bytes
      · refine ⟨r.1, mem_take_iff.mpr ⟨r.2, hr⟩, hid, hifindex, token_ext ?_⟩
        rw [← hown, htoken]
      · exact absurd htoken.symm (hstale r hr hown hid hifindex).2
    · exact absurd hlooks hempty
  · rintro ⟨earlier, hearlier, hid, hifindex, htoken⟩
    obtain ⟨token, hr⟩ := mem_take_iff.mp hearlier
    by_cases hown : token = earlier.token.bytes
    · exact .inl ⟨_, hr, hid, hifindex, hown.trans (congrArg CAToken.bytes htoken)⟩
    have hnone := (recent_token hr hown).1
    exact absurd (htoken ▸ hnone) (hstale _ hr hown hid hifindex).1

lemma unmistaken_of_dropRight (h : DropRight calls call) : Unmistaken calls call := by
  unfold DropRight at h
  rw [caDropSecondMessage_iff] at h
  by_cases hfound : ∃ r ∈ recent calls, r.2 = r.1.token.bytes ∧ Same r.1 call
  · exact .inl hfound
  -- so a message that is the same has another token in its slot
  have hother : ∀ earlier, (∃ token, (earlier, token) ∈ recent calls) → Same earlier call →
      ∃ token, (earlier, token) ∈ recent calls ∧ token ≠ earlier.token.bytes := by
    rintro earlier ⟨token, hr⟩ hsame
    exact ⟨token, hr, fun hown => hfound ⟨_, hr, hown, hsame⟩⟩
  refine .inr ⟨fun hlooks => ?_, fun r hr hown hid hifindex => ⟨fun hnone => ?_, fun heq => ?_⟩⟩
  · obtain ⟨earlier, hearlier, hsame⟩ := h.mp (.inr hlooks)
    obtain ⟨token, hr, hown⟩ := hother earlier (mem_take_iff.mp hearlier) hsame
    exact (recent_token hr hown).2.2 hlooks.1
  · -- the message of the slot is the same, but the slot has a token
    have hempty := (recent_token hr hown).1
    have hsame : Same r.1 call := ⟨hid, hifindex, token_ext (hempty.trans hnone.symm)⟩
    obtain ⟨r', hr', hid', hifindex', htoken'⟩ | hlooks :=
      h.mpr ⟨r.1, mem_take_iff.mpr ⟨r.2, hr⟩, hsame⟩
    · have hown' : r'.2 = r'.1.token.bytes := by
        by_contra hne
        exact (recent_token hr' hne).2.1 (htoken'.trans hnone)
      exact hfound ⟨r', hr', hown', hid', hifindex', token_ext (hown'.symm.trans htoken')⟩
    · exact (recent_token hr hown).2.2 hlooks.1
  -- the slot shows a message that there was not
  obtain ⟨earlier, hearlier, hsame⟩ := h.mp (.inl ⟨r, hr, hid, hifindex, heq.symm⟩)
  obtain ⟨token, hr', hown'⟩ := hother earlier (mem_take_iff.mp hearlier) hsame
  have hnone := (recent_token hr' hown').1
  refine (recent_token hr hown).2.1 ?_
  rw [← heq, ← hsame.2.2]
  exact hnone

/-- **When the filter is exact**, behind any messages. -/
theorem drop_exact (calls : List Received) (call : Received) :
    DropRight calls call ↔ Unmistaken calls call :=
  ⟨unmistaken_of_dropRight, dropRight_of_unmistaken⟩

def messageOf (id : UInt16) (token : CAToken) : Received := ⟨caIpFamilyMask, 1, id, token⟩

theorem emptyToken_mistaken :
    ¬ DropRight [] ⟨caIpFamilyMask, 0, 0, .null⟩
      ∧ ¬ DropRight [messageOf 1 tokenOne, messageOf 2 tokenOne, messageOf 3 tokenOne,
        messageOf 4 tokenOne, messageOf 5 .null] (messageOf 5 tokenOne)
      ∧ ¬ DropRight [messageOf 1 tokenOne, messageOf 2 tokenOne, messageOf 3 tokenOne,
        messageOf 4 tokenOne, messageOf 5 .null] (messageOf 5 .null) := by
  unfold DropRight
  refine ⟨?_, ?_, ?_⟩
  · decide
  · decide
  · decide

end Iochibity.Comm.History
