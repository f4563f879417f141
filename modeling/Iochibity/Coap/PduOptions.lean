/-
What `CAGetInfoFromPDU` makes of the options of a received PDU.
-/
import Mathlib.Data.List.TakeWhile
import Iochibity.Coap.Message
import Iochibity.Lib.Buffer

namespace Iochibity.Coap.PduOptions

open List

variable {text : List UInt8} {opts : List CoapOption} {st : FillState} {lib : LibCoap} {pdu : Pdu}

def optUriHost : Nat := 3
def optEtag : Nat := 4
def optUriPort : Nat := 7
def optUriPath : Nat := 11
def optContentFormat : Nat := 12
def optMaxage : Nat := 14
def optUriQuery : Nat := 15
def optAccept : Nat := 17
def optBlock2 : Nat := 23
def optBlock1 : Nat := 27
def optSize2 : Nat := 28
def optProxyUri : Nat := 35
def optProxyScheme : Nat := 39
def optSize1 : Nat := 60
def ocfAcceptContentFormatVersion : Nat := 2049
def ocfContentFormatVersion : Nat := 2053

def caMaxUriLength : Nat := 512
def caMaxHeaderOptionDataLength : Nat := 1024
def coapMaxPduSize : Nat := 1400
def uint8Max : Nat := 255
def caCoapId : Nat := 2
def defaultVersionValue : Nat := 2048

inductive CAPayloadFormat
  | undefined
  | textPlain
  | applicationLinkFormat
  | applicationXml
  | applicationOctetStream
  | applicationRdfXml
  | applicationExi
  | applicationJson
  | applicationCbor
  | applicationVndOcfCbor
  | unsupported
  deriving DecidableEq

/-- `CAConvertFormat`, with the media types of the CoAP registry. -/
def caConvertFormat (format : Nat) : CAPayloadFormat :=
  if format = 0 then .textPlain
  else if format = 40 then .applicationLinkFormat
  else if format = 41 then .applicationXml
  else if format = 42 then .applicationOctetStream
  else if format = 43 then .applicationRdfXml
  else if format = 47 then .applicationExi
  else if format = 50 then .applicationJson
  else if format = 60 then .applicationCbor
  else if format = 10000 then .applicationVndOcfCbor
  else .unsupported

structure LibCoap where
  /-- `coap_opt_def(key)` is there and `coap_is_var_bytes` holds of it. -/
  isVarBytes : Nat → Bool
  /-- `coap_decode_var_bytes`. -/
  decodeVarBytes : List UInt8 → Nat

structure CoapOption where
  type : Nat
  value : List UInt8
  deriving DecidableEq

/-- A received PDU. Options are encoded by the difference to the one before, so
their numbers never go down. -/
structure Pdu where
  type : CAMessageType
  id : Nat
  code : Nat
  options : List CoapOption
  ordered : options.Pairwise (fun a b => a.type ≤ b.type)
  token : List UInt8
  data : Option (List UInt8)

structure CAHeaderOption where
  protocolID : Nat
  optionID : Nat
  optionLength : Nat
  optionData : List UInt8
  deriving DecidableEq

/-- An entry of the array as `OICCalloc` leaves it. -/
def CAHeaderOption.zero : CAHeaderOption :=
  { protocolID := 0, optionID := 0, optionLength := 0
    optionData := List.replicate caMaxHeaderOptionDataLength 0 }

/-- The fields of `CAInfo_t` that `CAGetInfoFromPDU` fills. -/
structure PduInfo where
  type : CAMessageType
  messageId : Nat
  token : List UInt8
  tokenLength : Nat
  options : List CAHeaderOption
  numOptions : Nat
  payload : Option (List UInt8)
  payloadSize : Nat
  payloadFormat : CAPayloadFormat
  acceptFormat : CAPayloadFormat
  payloadVersion : Nat
  acceptVersion : Nat
  resourceUri : Option (List UInt8)

/-- `memset(outInfo, 0, sizeof(*outInfo))`. -/
def PduInfo.zero : PduInfo :=
  { type := .confirm, messageId := 0, token := [], tokenLength := 0, options := []
    numOptions := 0, payload := none, payloadSize := 0, payloadFormat := .undefined
    acceptFormat := .undefined, payloadVersion := 0, acceptVersion := 0, resourceUri := none }

inductive Stop
  | outOfBounds
  | exit
  deriving DecidableEq

def write (buf : List UInt8) (i : Nat) (bytes : List UInt8) : Except Stop (List UInt8) :=
  match Buffer.storeAll buf i bytes with
  | some buf' => .ok buf'
  | none => .error .outOfBounds

def isFilteredOption (type : Nat) : Bool :=
  type == optUriPath || type == optUriQuery || type == optBlock1 || type == optBlock2
    || type == optSize1 || type == optSize2 || type == optUriHost || type == optUriPort
    || type == optEtag || type == optMaxage || type == optProxyScheme

def caGetOptionCount : List CoapOption → Nat → Option Nat
  | [], optionCount => some optionCount
  | opt :: opts, optionCount =>
    if !isFilteredOption opt.type then
      if optionCount < uint8Max then caGetOptionCount opts (optionCount + 1) else none
    else caGetOptionCount opts optionCount

section

variable (lib : LibCoap)

/-- `CAGetOptionData`: the bytes in `option`, as many as the function returns. -/
def caGetOptionData (key : Nat) (data : List UInt8) (buflen : Nat) : List UInt8 :=
  if buflen = 0 then []
  else if buflen ≤ data.length then []
  else if lib.isVarBytes key && data.length == 0 then [0]
  else data

/-! ## The loop -/

/-- The local variables of `CAGetInfoFromPDU` that its loop changes. -/
structure FillState where
  info : PduInfo
  optionResult : List UInt8
  idx : Nat
  optionLength : Nat
  isfirstsetflag : Bool
  isQueryBeingProcessed : Bool
  isProxyRequest : Bool

def appendChar (c : Char) (st : FillState) : Except Stop FillState := do
  let optionResult ← write st.optionResult st.optionLength [UInt8.ofNat c.toNat]
  .ok { st with optionResult := optionResult, optionLength := st.optionLength + 1 }

def appendBytes (buf : List UInt8) (st : FillState) : Except Stop FillState :=
  if st.optionLength + buf.length < caMaxUriLength then do
    let optionResult ← write st.optionResult st.optionLength buf
    .ok { st with optionResult := optionResult, optionLength := st.optionLength + buf.length }
  else .error .exit

def appendUri (type : Nat) (buf : List UInt8) (st : FillState) : Except Stop FillState :=
  if st.isfirstsetflag = false then do
    -- the first element gets a slash, whichever of the two options it is
    let st ← appendChar '/' { st with isfirstsetflag := true }
    appendBytes buf st
  else if type = optUriPath then
    if st.optionLength < caMaxUriLength then do
      let st ← appendChar '/' st
      appendBytes buf st
    else .error .exit
  else if st.isQueryBeingProcessed = false then
    if st.optionLength < caMaxUriLength then do
      let st ← appendChar '?' st
      appendBytes buf { st with isQueryBeingProcessed := true }
    else .error .exit
  else if st.optionLength < caMaxUriLength then do
    let st ← appendChar ';' st
    appendBytes buf st
  else .error .exit

variable (opt : CoapOption)

def versionOf : Nat :=
  if opt.value.length = 2 then lib.decodeVarBytes opt.value % 65536 else defaultVersionValue

variable (buf : List UInt8)

def formatOf : CAPayloadFormat :=
  if opt.value.length = 1 then caConvertFormat (buf.getD 0 0).toNat
  else if opt.value.length = 2 then caConvertFormat (lib.decodeVarBytes opt.value % 65536)
  else .unsupported

def noteOption (st : FillState) : FillState :=
  if opt.type = optProxyUri then { st with isProxyRequest := true }
  else if opt.type = ocfAcceptContentFormatVersion then
    { st with info := { st.info with acceptVersion := versionOf lib opt } }
  else if opt.type = optAccept then
    { st with info := { st.info with acceptFormat := formatOf lib opt buf } }
  else if opt.type = ocfContentFormatVersion then
    { st with info := { st.info with payloadVersion := versionOf lib opt } }
  else if opt.type = optContentFormat then
    { st with info := { st.info with payloadFormat := formatOf lib opt buf } }
  else st

/-- The entry the loop writes for an option: `memcpy` into the zeroed data. -/
def headerEntry (type : Nat) (buf : List UInt8) : CAHeaderOption :=
  { protocolID := caCoapId, optionID := type, optionLength := buf.length
    optionData := Buffer.splice CAHeaderOption.zero.optionData 0 buf }

section

variable (count : Nat)

/-- The copy into `outInfo->options[idx]`. -/
def storeOption (type : Nat) (buf : List UInt8) (st : FillState) : FillState :=
  if st.idx < count ∧ buf.length ≤ caMaxHeaderOptionDataLength then
    { st with
      info := { st.info with options := st.info.options.set st.idx (headerEntry type buf) }
      idx := st.idx + 1 }
  else st

def fillStep (opt : CoapOption) (st : FillState) : Except Stop FillState :=
  let buf := caGetOptionData lib opt.type opt.value coapMaxPduSize
  if buf.length ≠ 0 then
    if opt.type = optUriPath ∨ opt.type = optUriQuery then appendUri opt.type buf st
    else if isFilteredOption opt.type then .ok st
    else .ok (storeOption count opt.type buf (noteOption lib opt buf st))
  else .ok st

def fillLoop (lib : LibCoap) (count : Nat) : List CoapOption → FillState → Except Stop FillState
  | [], st => .ok st
  | opt :: opts, st => do
      let st ← fillStep lib count opt st
      fillLoop lib count opts st

def cstr : List UInt8 := buf.takeWhile (· ≠ 0)

/-- `outInfo` before the loop. Over TCP there is neither a type nor a message id. -/
def initialInfo (tcp : Bool) (count : Nat) (pdu : Pdu) : PduInfo :=
  let info := { PduInfo.zero with
    numOptions := count
    options := List.replicate count CAHeaderOption.zero }
  if tcp then { info with type := .nonconfirm }
  else { info with type := pdu.type, messageId := pdu.id }

def initialFill (tcp : Bool) (count : Nat) (pdu : Pdu) : FillState :=
  { info := initialInfo tcp count pdu, optionResult := List.replicate caMaxUriLength 0
    idx := 0, optionLength := 0, isfirstsetflag := false, isQueryBeingProcessed := false
    isProxyRequest := false }

def copyTokenAndData (pdu : Pdu) (info : PduInfo) : PduInfo :=
  { info with
    token := pdu.token
    tokenLength := pdu.token.length
    payload := pdu.data
    payloadSize := (pdu.data.getD []).length }

/-- The last part: the URI is a copy of `optionResult`, or of the preset URI for
a proxy request without one. -/
def setUri (gChproxyUri : List UInt8) (st : FillState) (info : PduInfo) : Except Stop PduInfo :=
  if st.optionResult.head? ≠ some 0 then do
    let optionResult ← write st.optionResult st.optionLength [0]
    .ok { info with resourceUri := some (cstr optionResult) }
  else if st.isProxyRequest && !(cstr gChproxyUri).isEmpty then
    .ok { info with resourceUri := some (cstr gChproxyUri) }
  else .ok info

/-- How `CAGetInfoFromPDU` ends. -/
inductive PduResult
  | outOfBounds
  | failed
  | ok (code : Nat) (info : PduInfo)

def caGetInfoFromPDU (gChproxyUri : List UInt8) (tcp : Bool) (pdu : Pdu) : PduResult :=
  match caGetOptionCount pdu.options 0 with
  | none => .failed
  | some count =>
    let run := do
      let st ← fillLoop lib count pdu.options (initialFill tcp count pdu)
      setUri gChproxyUri st (copyTokenAndData pdu st.info)
    match run with
    | .ok info => .ok (caResponseCode pdu.code) info
    | .error .exit => .failed
    | .error .outOfBounds => .outOfBounds

def optionBytes : List UInt8 :=
  caGetOptionData lib opt.type opt.value coapMaxPduSize

def userOptions (opts : List CoapOption) : List CoapOption :=
  opts.filter (!isFilteredOption ·.type)

def isStorable : Bool :=
  !(optionBytes lib opt).isEmpty
    && decide ((optionBytes lib opt).length ≤ caMaxHeaderOptionDataLength)

def acceptedOptions (opts : List CoapOption) : List CoapOption :=
  (userOptions opts).filter (isStorable lib)

def entryOf : CAHeaderOption :=
  headerEntry opt.type (optionBytes lib opt)

def isUriOption (type : Nat) : Bool := type == optUriPath || type == optUriQuery

def uriSegments (opts : List CoapOption) : List CoapOption :=
  (opts.filter (fun opt => isUriOption opt.type && !(optionBytes lib opt).isEmpty)).map
    (fun opt => ⟨opt.type, optionBytes lib opt⟩)

def uriLength (segs : List CoapOption) : Nat :=
  (segs.map (·.value.length + 1)).sum

lemma isFilteredOption_of_uri {type : Nat} (h : isUriOption type = true) :
    isFilteredOption type = true := by
  simp only [isUriOption, Bool.or_eq_true, beq_iff_eq] at h
  rcases h with rfl | rfl <;> rfl

lemma caGetOptionCount_eq {n : Nat} (hn : n ≤ uint8Max) :
    caGetOptionCount opts n
      = if n + (userOptions opts).length ≤ uint8Max then some (n + (userOptions opts).length)
        else none := by
  induction opts generalizing n with
  | nil => rw [caGetOptionCount, userOptions, filter_nil, length_nil, Nat.add_zero, if_pos hn]
  | cons opt opts ih =>
    rw [caGetOptionCount]
    by_cases hopt : isFilteredOption opt.type = true
    · have huser : userOptions (opt :: opts) = userOptions opts := by
        simp [userOptions, hopt]
      rw [huser, ← ih hn]
      simp [hopt]
    have huser : (userOptions (opt :: opts)).length = (userOptions opts).length + 1 := by
      simp [userOptions, hopt]
    simp only [hopt, Bool.not_false, if_true, huser]
    by_cases hlt : n < uint8Max
    · rw [if_pos hlt, ih hlt, Nat.succ_add, Nat.add_succ]
    · rw [if_neg hlt, if_neg (by omega)]

/-! ## The URI part of the loop -/

def separator (first query : Bool) (type : Nat) : UInt8 :=
  if first = false then 47 else if type = optUriPath then 47 else if query = false then 63 else 59

/-- `isQueryBeingProcessed` after a segment. -/
def queryAfter (first query : Bool) (type : Nat) : Bool :=
  if first = false then query else if type = optUriPath then query else true

def uriText : Bool → Bool → List CoapOption → List UInt8
  | _, _, [] => []
  | first, query, seg :: segs =>
    separator first query seg.type
      :: (seg.value ++ uriText true (queryAfter first query seg.type) segs)

lemma length_uriText (first query : Bool) (segs : List CoapOption) :
    (uriText first query segs).length = uriLength segs := by
  induction segs generalizing first query with
  | nil => rfl
  | cons seg segs ih =>
    simp only [uriText, length_cons, length_append, ih, uriLength, map_cons, sum_cons]
    omega

section

variable (st : FillState)

def FillState.withText (text : List UInt8) (first query : Bool) : FillState :=
  { st with
    optionResult := text ++ List.replicate (caMaxUriLength - text.length) 0
    optionLength := text.length
    isfirstsetflag := first
    isQueryBeingProcessed := query }

lemma write_text {bytes : List UInt8} (h : text.length + bytes.length ≤ caMaxUriLength) :
    write (text ++ List.replicate (caMaxUriLength - text.length) 0) text.length bytes
      = .ok (text ++ bytes ++ List.replicate (caMaxUriLength - (text ++ bytes).length) 0) := by
  have hfit : text.length + bytes.length
      ≤ (text ++ List.replicate (caMaxUriLength - text.length) (0 : UInt8)).length := by
    rw [length_append, length_replicate]
    omega
  have hrest : (text ++ List.replicate (caMaxUriLength - text.length) (0 : UInt8)).drop
      (text.length + bytes.length)
      = List.replicate (caMaxUriLength - (text ++ bytes).length) 0 := by
    rw [← drop_drop, drop_left, drop_replicate, length_append, Nat.sub_sub]
  rw [write, Buffer.storeAll_eq_splice hfit]
  simp [Buffer.splice, hrest]

lemma appendChar_withText (c : Char) (st : FillState) (first query : Bool)
    (htext : text.length < caMaxUriLength) :
    appendChar c (st.withText text first query)
      = .ok (st.withText (text ++ [UInt8.ofNat c.toNat]) first query) := by
  have hw := @write_text text [UInt8.ofNat c.toNat] htext
  simp only [appendChar, FillState.withText]
  rw [hw]
  simp only [length_append, length_singleton, bind, Except.bind]

lemma appendBytes_withText (text : List UInt8) (c : UInt8) (query : Bool) :
    appendBytes buf (st.withText (text ++ [c]) true query)
      = if text.length + (buf.length + 1) < caMaxUriLength then
          .ok (st.withText (text ++ c :: buf) true query)
        else .error .exit := by
  have hlen : (text ++ [c]).length + buf.length = text.length + (buf.length + 1) := by
    rw [length_append, length_singleton]
    omega
  have happ : text ++ [c] ++ buf = text ++ c :: buf := by
    simp
  have hlen' : (text ++ c :: buf).length = text.length + (buf.length + 1) := by
    simp
  simp only [appendBytes, FillState.withText, hlen]
  by_cases hroom : text.length + (buf.length + 1) < caMaxUriLength
  · rw [if_pos hroom, if_pos hroom, write_text (by omega), happ]
    simp only [bind, Except.bind, hlen']
  · simp [hroom]

lemma appendUri_spec (first query : Bool) (type : Nat) (buf : List UInt8)
    (htext : text.length < caMaxUriLength) :
    appendUri type buf (st.withText text first query)
      = if text.length + (buf.length + 1) < caMaxUriLength then
          .ok (st.withText (text ++ separator first query type :: buf) true
            (queryAfter first query type))
        else .error .exit := by
  have hroom : (st.withText text first query).optionLength < caMaxUriLength := htext
  cases hfirst : first with
  | false =>
    -- the flag is set before the slash is written
    have hset : { st.withText text false query with isfirstsetflag := true }
        = st.withText text true query := rfl
    have hflag : (st.withText text false query).isfirstsetflag = false := rfl
    rw [appendUri, if_pos hflag, hset, appendChar_withText '/' st true query htext]
    exact appendBytes_withText buf st text _ query
  | true =>
    subst hfirst
    have hflag : (st.withText text true query).isfirstsetflag ≠ false := by
      simp [FillState.withText]
    rw [appendUri, if_neg hflag]
    by_cases htype : type = optUriPath
    · rw [if_pos htype, if_pos hroom, appendChar_withText '/' st true query htext]
      simp only [separator, queryAfter, if_pos htype]
      exact appendBytes_withText buf st text _ query
    rw [if_neg htype]
    simp only [separator, queryAfter, if_neg htype]
    cases hquery : query with
    | false =>
      subst hquery
      have hqflag : (st.withText text true false).isQueryBeingProcessed = false := rfl
      rw [if_pos hqflag, if_pos hroom, appendChar_withText '?' st true false htext]
      exact appendBytes_withText buf st text _ true
    | true =>
      subst hquery
      have hqflag : (st.withText text true true).isQueryBeingProcessed ≠ false := by
        simp [FillState.withText]
      rw [if_neg hqflag, if_pos hroom, appendChar_withText ';' st true true htext]
      exact appendBytes_withText buf st text _ true

/-! ## The header options' part of the loop -/

def collectStep (opt : CoapOption) : FillState :=
  if (optionBytes lib opt).isEmpty || isFilteredOption opt.type then st
  else
    storeOption count opt.type (optionBytes lib opt) (noteOption lib opt (optionBytes lib opt) st)

lemma noteOption_withText (text : List UInt8) (first query : Bool) :
    noteOption lib opt buf (st.withText text first query)
      = (noteOption lib opt buf st).withText text first query := by
  simp only [noteOption]
  repeat' split
  all_goals rfl

lemma storeOption_withText (count type : Nat) (buf : List UInt8) (st : FillState)
    (text : List UInt8) (first query : Bool) :
    storeOption count type buf (st.withText text first query)
      = (storeOption count type buf st).withText text first query := by
  by_cases h : st.idx < count ∧ buf.length ≤ caMaxHeaderOptionDataLength
  · have h' : (st.withText text first query).idx < count
        ∧ buf.length ≤ caMaxHeaderOptionDataLength := h
    rw [storeOption, if_pos h', storeOption, if_pos h]
    rfl
  have h' : ¬((st.withText text first query).idx < count
      ∧ buf.length ≤ caMaxHeaderOptionDataLength) := h
  rw [storeOption, if_neg h', storeOption, if_neg h]

lemma collectStep_withText (opt : CoapOption) (text : List UInt8) (first query : Bool) :
    collectStep lib count (st.withText text first query) opt
      = (collectStep lib count st opt).withText text first query := by
  unfold collectStep
  split
  · rfl
  · rw [noteOption_withText, storeOption_withText]

lemma fillStep_eq (opt : CoapOption) (st : FillState) :
    fillStep lib count opt st = if isUriOption opt.type && !(optionBytes lib opt).isEmpty then
          appendUri opt.type (optionBytes lib opt) st
        else .ok (collectStep lib count st opt) := by
  have hiff : (opt.type = optUriPath ∨ opt.type = optUriQuery) ↔ isUriOption opt.type = true := by
    simp [isUriOption]
  have hbuf : caGetOptionData lib opt.type opt.value coapMaxPduSize = optionBytes lib opt := rfl
  have hempty : (optionBytes lib opt).length ≠ 0 ↔ (optionBytes lib opt).isEmpty = false := by
    cases optionBytes lib opt <;> simp
  simp only [fillStep, collectStep, hbuf, hempty, hiff]
  cases he : (optionBytes lib opt).isEmpty with
  | true => simp
  | false =>
    by_cases huri : isUriOption opt.type = true
    · simp [huri]
    simp only [huri, if_true, Bool.not_false, Bool.and_true, Bool.false_eq_true, if_false,
      Bool.false_or]
    split <;> rfl

lemma uriSegments_cons (opts : List CoapOption) :
    uriSegments lib (opt :: opts) = if isUriOption opt.type && !(optionBytes lib opt).isEmpty then
          ⟨opt.type, optionBytes lib opt⟩ :: uriSegments lib opts
        else uriSegments lib opts := by
  simp only [uriSegments, filter_cons]
  split <;> rfl

lemma uriLength_cons (type : Nat) (bytes : List UInt8) (segs : List CoapOption) :
    uriLength (⟨type, bytes⟩ :: segs) = bytes.length + 1 + uriLength segs := by
  simp [uriLength]

lemma collectStep_of_uri {opt : CoapOption}
    (h : isUriOption opt.type = true) : collectStep lib count st opt = st := by
  rw [collectStep, isFilteredOption_of_uri h, Bool.or_true, if_pos rfl]

end

lemma fillLoop_spec {first query : Bool} (htext : text.length < caMaxUriLength) :
    (text.length + uriLength (uriSegments lib opts) < caMaxUriLength →
      ∃ first' query', fillLoop lib count opts (st.withText text first query)
        = .ok ((opts.foldl (collectStep lib count) st).withText
            (text ++ uriText first query (uriSegments lib opts)) first' query'))
    ∧ (caMaxUriLength ≤ text.length + uriLength (uriSegments lib opts) →
      fillLoop lib count opts (st.withText text first query) = .error .exit) := by
  induction opts generalizing st text first query with
  | nil =>
    constructor
    · intro _
      refine ⟨first, query, ?_⟩
      simp [fillLoop, uriSegments, uriText]
    · intro h
      have hzero : uriLength (uriSegments lib []) = 0 := rfl
      omega
  | cons opt opts ih =>
    rw [fillLoop, fillStep_eq, uriSegments_cons, foldl_cons]
    by_cases hseg : (isUriOption opt.type && !(optionBytes lib opt).isEmpty) = true
    · have huri : isUriOption opt.type = true := (Bool.and_eq_true_iff.mp hseg).1
      rw [if_pos hseg, if_pos hseg, appendUri_spec st first query _ _ htext, uriLength_cons,
        collectStep_of_uri lib count st huri]
      by_cases hroom : text.length + ((optionBytes lib opt).length + 1) < caMaxUriLength
      · -- the segment fits: go on with the longer text
        have hlen : (text ++ separator first query opt.type :: optionBytes lib opt).length
            = text.length + ((optionBytes lib opt).length + 1) := by
          rw [length_append, length_cons]
        obtain ⟨hfits, hfull⟩ := @ih _ st true (queryAfter first query opt.type) (hlen ▸ hroom)
        rw [hlen] at hfits hfull
        have happ : text ++ separator first query opt.type :: optionBytes lib opt
            ++ uriText true (queryAfter first query opt.type) (uriSegments lib opts)
            = text ++ uriText first query
              (⟨opt.type, optionBytes lib opt⟩ :: uriSegments lib opts) := by
          rw [uriText, append_assoc, cons_append]
        rw [happ] at hfits
        rw [if_pos hroom]
        exact ⟨fun h => hfits (by omega), fun h => hfull (by omega)⟩
      rw [if_neg hroom]
      constructor
      · intro h
        omega
      · intro _
        rfl
    rw [if_neg hseg, if_neg hseg, collectStep_withText]
    exact ih htext

end

end

/-! ## What is collected -/

section Collect

variable (lib : LibCoap) (count : Nat)

/-- The fields of `outInfo` that the loop leaves alone. -/
def PduInfo.kept (info : PduInfo) : CAMessageType × Nat × Nat × Option (List UInt8) :=
  (info.type, info.messageId, info.numOptions, info.resourceUri)

lemma noteOption_frame (opt : CoapOption) (buf : List UInt8) (st : FillState) :
    (noteOption lib opt buf st).info.options = st.info.options
      ∧ (noteOption lib opt buf st).idx = st.idx
      ∧ (noteOption lib opt buf st).info.kept = st.info.kept
      ∧ (noteOption lib opt buf st).isProxyRequest
        = (st.isProxyRequest || opt.type == optProxyUri) := by
  unfold noteOption
  repeat' split
  all_goals simp_all [PduInfo.kept]

/-- The header options that were copied so far, in an array of `count` entries. -/
structure Collected (st : FillState) (entries : List CAHeaderOption) : Prop where
  options : st.info.options = entries ++ List.replicate (count - entries.length) CAHeaderOption.zero
  idx : st.idx = entries.length

variable {lib count}

lemma set_next (entries : List CAHeaderOption) {count : Nat} (entry : CAHeaderOption)
    (h : entries.length < count) :
    (entries ++ List.replicate (count - entries.length) CAHeaderOption.zero).set entries.length
        entry
      = entries ++ [entry]
          ++ List.replicate (count - (entries.length + 1)) CAHeaderOption.zero := by
  obtain ⟨n, hn⟩ : ∃ n, count - entries.length = n + 1 := ⟨count - entries.length - 1, by omega⟩
  have hrest : count - (entries.length + 1) = n := by omega
  rw [hn, hrest, set_append_right _ _ (Nat.le_refl _), Nat.sub_self, replicate_succ,
    set_cons_zero, append_assoc, singleton_append]

lemma collectStep_collected {entries : List CAHeaderOption} {opt : CoapOption}
    (h : Collected count st entries)
    (hroom : entries.length + (acceptedOptions lib [opt]).length ≤ count) :
    Collected count (collectStep lib count st opt)
      (entries ++ (acceptedOptions lib [opt]).map (entryOf lib)) := by
  obtain ⟨hoptions, hidx, -⟩ := noteOption_frame lib opt (optionBytes lib opt) st
  by_cases hskip : ((optionBytes lib opt).isEmpty || isFilteredOption opt.type) = true
  · have hnone : acceptedOptions lib [opt] = [] := by
      rw [Bool.or_eq_true] at hskip
      rcases hskip with hempty | hfilter
      · simp [acceptedOptions, userOptions, isStorable, hempty]
      · simp [acceptedOptions, userOptions, hfilter]
    rw [collectStep, if_pos hskip, hnone, map_nil, append_nil]
    exact h
  rw [collectStep, if_neg hskip]
  simp only [Bool.or_eq_true, not_or, Bool.not_eq_true] at hskip
  by_cases hlen : (optionBytes lib opt).length ≤ caMaxHeaderOptionDataLength
  · have hone : acceptedOptions lib [opt] = [opt] := by
      simp [acceptedOptions, userOptions, isStorable, hskip, hlen]
    rw [hone] at hroom ⊢
    simp only [length_singleton] at hroom
    have hstore : (noteOption lib opt (optionBytes lib opt) st).idx < count
        ∧ (optionBytes lib opt).length ≤ caMaxHeaderOptionDataLength := by
      rw [hidx, h.idx]
      exact ⟨by omega, hlen⟩
    rw [storeOption, if_pos hstore]
    constructor
    · simp only [hoptions, hidx, h.options, h.idx, map_cons, map_nil,
        length_append, length_singleton]
      exact set_next entries _ (by omega)
    · simp [hidx, h.idx]
  have hnone : acceptedOptions lib [opt] = [] := by
    simp [acceptedOptions, userOptions, isStorable, hskip, hlen]
  have hstore : ¬((noteOption lib opt (optionBytes lib opt) st).idx < count
      ∧ (optionBytes lib opt).length ≤ caMaxHeaderOptionDataLength) := fun hs => hlen hs.2
  rw [storeOption, if_neg hstore, hnone, map_nil, append_nil]
  exact ⟨hoptions.trans h.options, hidx.trans h.idx⟩

lemma acceptedOptions_cons (opt : CoapOption) (opts : List CoapOption) :
    acceptedOptions lib (opt :: opts) = acceptedOptions lib [opt] ++ acceptedOptions lib opts := by
  rw [acceptedOptions, acceptedOptions, acceptedOptions, userOptions, userOptions, userOptions,
    ← filter_append, ← filter_append, singleton_append]

lemma collect_collected {entries : List CAHeaderOption} (h : Collected count st entries)
    (hroom : entries.length + (acceptedOptions lib opts).length ≤ count) :
    Collected count (opts.foldl (collectStep lib count) st)
      (entries ++ (acceptedOptions lib opts).map (entryOf lib)) := by
  induction opts generalizing st entries with
  | nil => simpa [acceptedOptions, userOptions] using h
  | cons opt opts ih =>
    rw [acceptedOptions_cons] at hroom ⊢
    rw [length_append] at hroom
    rw [foldl_cons, map_append, ← append_assoc]
    apply ih (collectStep_collected h (by omega))
    rw [length_append, length_map]
    omega

lemma collectStep_frame (st : FillState) (opt : CoapOption) :
    (collectStep lib count st opt).info.kept = st.info.kept
      ∧ (collectStep lib count st opt).isProxyRequest
        = (st.isProxyRequest || (opt.type == optProxyUri && !(optionBytes lib opt).isEmpty)) := by
  obtain ⟨-, -, hkept, hproxy⟩ := noteOption_frame lib opt (optionBytes lib opt) st
  unfold collectStep
  split
  · rename_i hskip
    refine ⟨rfl, ?_⟩
    rw [Bool.or_eq_true] at hskip
    rcases hskip with hempty | hfilter
    · simp [hempty]
    have hne : (opt.type == optProxyUri) = false := by
      rw [beq_eq_false_iff_ne]
      intro heq
      rw [heq] at hfilter
      exact absurd hfilter (by decide)
    simp [hne]
  rename_i hskip
  simp only [Bool.or_eq_true, not_or, Bool.not_eq_true] at hskip
  unfold storeOption
  split
  · exact ⟨hkept, by rw [hproxy, hskip.1, Bool.not_false, Bool.and_true]⟩
  · exact ⟨hkept, by rw [hproxy, hskip.1, Bool.not_false, Bool.and_true]⟩

def hasProxyUri (lib : LibCoap) (opts : List CoapOption) : Bool :=
  opts.any (fun opt => opt.type == optProxyUri && !(optionBytes lib opt).isEmpty)

lemma collect_frame (opts : List CoapOption) (st : FillState) :
    (opts.foldl (collectStep lib count) st).info.kept = st.info.kept
      ∧ (opts.foldl (collectStep lib count) st).isProxyRequest
        = (st.isProxyRequest || hasProxyUri lib opts) := by
  induction opts generalizing st with
  | nil => simp [hasProxyUri]
  | cons opt opts ih =>
    obtain ⟨hkept, hproxy⟩ := ih (collectStep lib count st opt)
    obtain ⟨hkept', hproxy'⟩ := @collectStep_frame lib count st opt
    rw [foldl_cons]
    refine ⟨hkept.trans hkept', ?_⟩
    rw [hproxy, hproxy', hasProxyUri, hasProxyUri, any_cons, Bool.or_assoc]

end Collect

/-! ## The whole function -/

def uriOf (lib : LibCoap) (gChproxyUri : List UInt8) (opts : List CoapOption) :
    Option (List UInt8) :=
  if uriSegments lib opts ≠ [] then some (cstr (uriText false false (uriSegments lib opts)))
  else if hasProxyUri lib opts && !(cstr gChproxyUri).isEmpty then some (cstr gChproxyUri)
  else none

lemma cstr_append_nul (text rest : List UInt8) : cstr (text ++ 0 :: rest) = cstr text := by
  induction text with
  | nil => simp [cstr]
  | cons c text ih =>
    rw [cstr, cstr, cons_append, takeWhile_cons, takeWhile_cons]
    split
    · exact congrArg (List.cons c) ih
    · rfl

lemma setUri_withText (gChproxyUri : List UInt8) (st : FillState) (info : PduInfo)
    (segs : List CoapOption) (first query : Bool) (hfits : uriLength segs < caMaxUriLength) :
    setUri gChproxyUri (st.withText (uriText false false segs) first query) info
      = .ok { info with
          resourceUri :=
            if segs ≠ [] then some (cstr (uriText false false segs))
            else if st.isProxyRequest && !(cstr gChproxyUri).isEmpty then some (cstr gChproxyUri)
            else info.resourceUri } := by
  have hlen := length_uriText false false segs
  cases segs with
  | nil =>
    have hzero : (st.withText (uriText false false []) first query).optionResult.head?
        = some 0 := rfl
    have hflag : (st.withText (uriText false false []) first query).isProxyRequest
        = st.isProxyRequest := rfl
    rw [setUri, if_neg (not_not.mpr hzero), if_neg (not_not.mpr rfl), hflag]
    split <;> rfl
  | cons seg segs =>
    have hhead : (st.withText (uriText false false (seg :: segs)) first query).optionResult.head?
        ≠ some 0 := by
      simp [FillState.withText, uriText, separator]
    have hwrite := @write_text (uriText false false (seg :: segs)) [0]
      (by rw [hlen, length_singleton]; omega)
    rw [setUri, if_pos hhead, if_pos (cons_ne_nil seg segs)]
    simp only [FillState.withText]
    rw [hwrite]
    simp only [bind, Except.bind, append_assoc, singleton_append, cstr_append_nul]

lemma initialFill_eq (tcp : Bool) (count : Nat) (pdu : Pdu) :
    initialFill tcp count pdu = (initialFill tcp count pdu).withText [] false false := rfl

lemma collected_initial (tcp : Bool) (count : Nat) (pdu : Pdu) :
    Collected count (initialFill tcp count pdu) [] := by
  constructor
  · cases tcp <;> rfl
  · rfl

lemma length_acceptedOptions_le (lib : LibCoap) (opts : List CoapOption) :
    (acceptedOptions lib opts).length ≤ (userOptions opts).length :=
  length_filter_le _ _

lemma caGetInfoFromPDU_failed {lib : LibCoap} {gChproxyUri : List UInt8} {tcp : Bool} {pdu : Pdu}
    (h : uint8Max < (userOptions pdu.options).length
      ∨ caMaxUriLength ≤ uriLength (uriSegments lib pdu.options)) :
    caGetInfoFromPDU lib gChproxyUri tcp pdu = .failed := by
  rw [caGetInfoFromPDU, caGetOptionCount_eq (Nat.zero_le _), Nat.zero_add]
  by_cases hcount : (userOptions pdu.options).length ≤ uint8Max
  · have hfull := (@fillLoop_spec [] pdu.options
      (initialFill tcp (userOptions pdu.options).length pdu) lib
      (userOptions pdu.options).length false false (by decide)).2
    rw [← initialFill_eq] at hfull
    have huri : caMaxUriLength ≤ uriLength (uriSegments lib pdu.options) := by
      rcases h with h | h
      · omega
      · exact h
    rw [if_pos hcount]
    simp only [hfull (by rw [length_nil, Nat.zero_add]; exact huri), bind, Except.bind]
  · rw [if_neg hcount]

def collected (lib : LibCoap) (tcp : Bool) (pdu : Pdu) : FillState :=
  pdu.options.foldl (collectStep lib (userOptions pdu.options).length)
    (initialFill tcp (userOptions pdu.options).length pdu)

lemma collected_frame (lib : LibCoap) (tcp : Bool) (pdu : Pdu) :
    (collected lib tcp pdu).info.kept
      = (if tcp then .nonconfirm else pdu.type, if tcp then 0 else pdu.id,
        (userOptions pdu.options).length, none)
    ∧ (collected lib tcp pdu).isProxyRequest = hasProxyUri lib pdu.options := by
  obtain ⟨hkept, hproxy⟩ := @collect_frame lib (userOptions pdu.options).length pdu.options
    (initialFill tcp (userOptions pdu.options).length pdu)
  refine ⟨hkept.trans ?_, ?_⟩
  · cases tcp <;> rfl
  · rw [collected, hproxy]
    rfl

section

variable (gChproxyUri : List UInt8) (tcp : Bool)
  (hcount : (userOptions pdu.options).length ≤ uint8Max)
  (huri : uriLength (uriSegments lib pdu.options) < caMaxUriLength)
include hcount huri

lemma caGetInfoFromPDU_eq :
    caGetInfoFromPDU lib gChproxyUri tcp pdu = .ok (caResponseCode pdu.code)
      { copyTokenAndData pdu (collected lib tcp pdu).info with
        resourceUri := uriOf lib gChproxyUri pdu.options } := by
  obtain ⟨first, query, hloop⟩ := (@fillLoop_spec [] pdu.options
    (initialFill tcp (userOptions pdu.options).length pdu) lib
    (userOptions pdu.options).length false false (by decide)).1
    (by rw [length_nil, Nat.zero_add]; exact huri)
  rw [← initialFill_eq, ← collected, nil_append] at hloop
  obtain ⟨hkept, hproxy⟩ := collected_frame lib tcp pdu
  simp only [PduInfo.kept, Prod.mk.injEq] at hkept
  obtain ⟨-, -, -, hnone⟩ := hkept
  have hinfo : ((collected lib tcp pdu).withText (uriText false false (uriSegments lib pdu.options))
      first query).info = (collected lib tcp pdu).info := rfl
  have hset := setUri_withText gChproxyUri (collected lib tcp pdu)
    (copyTokenAndData pdu (collected lib tcp pdu).info) (uriSegments lib pdu.options) first query
    huri
  have hno : (copyTokenAndData pdu (collected lib tcp pdu).info).resourceUri = none := hnone
  rw [caGetInfoFromPDU, caGetOptionCount_eq (Nat.zero_le _), Nat.zero_add, if_pos hcount]
  simp only [hloop, bind, Except.bind, hinfo, hset, hproxy, hno]
  rfl

lemma caGetInfoFromPDU_ok :
    ∃ info, caGetInfoFromPDU lib gChproxyUri tcp pdu = .ok (caResponseCode pdu.code) info
      ∧ info.numOptions = (userOptions pdu.options).length
      ∧ info.options = (acceptedOptions lib pdu.options).map (entryOf lib) ++ List.replicate
          ((userOptions pdu.options).length - (acceptedOptions lib pdu.options).length)
          CAHeaderOption.zero
      ∧ info.resourceUri = uriOf lib gChproxyUri pdu.options
      ∧ info.type = (if tcp then .nonconfirm else pdu.type)
      ∧ info.messageId = (if tcp then 0 else pdu.id)
      ∧ info.token = pdu.token ∧ info.payload = pdu.data := by
  have hle := length_acceptedOptions_le lib pdu.options
  have hcollected : Collected (userOptions pdu.options).length (collected lib tcp pdu)
      ((acceptedOptions lib pdu.options).map (entryOf lib)) := by
    have h := @collect_collected pdu.options _ lib (userOptions pdu.options).length _
      (collected_initial tcp (userOptions pdu.options).length pdu)
      (by rw [length_nil, Nat.zero_add]; omega)
    rwa [← collected, nil_append] at h
  obtain ⟨hkept, -⟩ := collected_frame lib tcp pdu
  simp only [PduInfo.kept, Prod.mk.injEq] at hkept
  obtain ⟨htype, hid, hnum, -⟩ := hkept
  have hoptions := hcollected.options
  rw [length_map] at hoptions
  exact ⟨_, caGetInfoFromPDU_eq gChproxyUri tcp hcount huri, hnum, hoptions, rfl, htype, hid, rfl,
    rfl⟩

end

end Iochibity.Coap.PduOptions
