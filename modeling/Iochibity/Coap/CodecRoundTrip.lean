/-
What is handed over of a message that was sent.
-/
import Iochibity.Coap.DecodedOptions
import Mathlib.Data.List.DropRight

namespace Iochibity.Coap.PduCodec

open PduOptions
open List
open StableOrder (filter_sortBy level level_cons map_sortBy sortBy sortBy_perm)

section

variable {version : UInt16} {formatOption versionOption key n : Nat} {opt : CoapOption}

def SameBytes (lib : Libcoap) (key : Nat) (given got : List UInt8) : Prop :=
  if lib.base.isVarBytes key then got.dropWhile (· == 0) = given.dropWhile (· == 0)
  else got = given

def Delivers (lib : Libcoap) (value : CoapOption → List UInt8) (opt : CoapOption)
    (entry : CAHeaderOption) : Prop :=
  entry.optionID = opt.type
    ∧ SameBytes lib opt.type (value opt) (entry.optionData.take entry.optionLength)

/-- What the decoder hands over is the message, with this URI and these option values, compared in
the order of the option numbers. -/
structure HandedOver (lib : Libcoap) (uri : Option (List UInt8))
    (value : CoapOption → List UInt8) (m : OutgoingMessage) (code : Nat) (info : PduInfo) :
    Prop where
  code : code = m.code
  token : info.token = m.token ∧ info.tokenLength = m.token.length
  resourceUri : info.resourceUri = uri
  payload : info.payload.getD [] = m.payload ∧ info.payloadSize = m.payload.length
  payloadFormat : info.payloadFormat = m.payloadFormat
  acceptFormat : info.acceptFormat = m.acceptFormat
  payloadVersion : m.payloadFormat = .applicationVndOcfCbor →
    info.payloadVersion = m.payloadVersion.toNat
  acceptVersion : m.acceptFormat = .applicationVndOcfCbor →
    info.acceptVersion = m.acceptVersion.toNat
  options : List.Forall₂ (Delivers lib value) (sortBy CoapOption.type m.options)
    (info.options.filter (!isFormatOption ·.optionID))

def ComesBack (lib : Libcoap) (gChproxyUri : List UInt8) (uri : Option (List UInt8))
    (value : CoapOption → List UInt8) (m : OutgoingMessage) : Prop :=
  ∃ buf pdu code info, caGeneratePDU lib m.code m.info = some buf
    ∧ caParsePDU lib (lib.bytes buf) = some pdu
    ∧ PduOptions.caGetInfoFromPDU lib.base gChproxyUri true pdu = .ok code info
    ∧ HandedOver lib uri value m code info

def RoundTrip (lib : Libcoap) (gChproxyUri : List UInt8) (m : OutgoingMessage) : Prop :=
  ComesBack lib gChproxyUri (m.uri.map ResourceUri.text) CoapOption.value m

def keptValue (lib : Libcoap) (opt : CoapOption) : List UInt8 :=
  if lib.base.isVarBytes opt.type then shrink lib opt.type opt.value else opt.value

def TwoByteVersion (format : CAPayloadFormat) (version : UInt16) : Prop :=
  format = .applicationVndOcfCbor → 256 ≤ version.toNat

section Decode

variable {lib : Libcoap} {Holds : lib.Buf → PduParts → Prop} (hlib : lib.FollowsRfc Holds)
  {isSep : UInt8 → Bool} (m : OutgoingMessage)

/-! ## 2. Values -/

omit hlib in
lemma optionBytes_eq (h : opt.value.length < PduOptions.coapMaxPduSize) :
    optionBytes lib.base opt
      = if lib.base.isVarBytes opt.type && opt.value.length == 0 then [0] else opt.value := by
  rw [optionBytes, caGetOptionData, if_neg (by decide), if_neg (Nat.not_le.mpr h)]

omit hlib in
lemma optionBytes_of_ne (h : opt.value.length < PduOptions.coapMaxPduSize)
    (hne : opt.value ≠ []) : optionBytes lib.base opt = opt.value := by
  have hlen : (opt.value.length == 0) = false := by
    rw [beq_eq_false_iff_ne]
    exact fun hzero => hne (length_eq_zero_iff.mp hzero)
  rw [optionBytes_eq h, hlen, Bool.and_false, if_neg Bool.false_ne_true]

include hlib

lemma headNode_stored (h : IsHeaderOption opt) :
    isStorable lib.base (caCreateNewOptionNode lib opt.type opt.value) = true
      ∧ SameBytes lib opt.type (keptValue lib opt)
        (optionBytes lib.base (caCreateNewOptionNode lib opt.type opt.value)) := by
  obtain ⟨-, -, hpos, hmax⟩ := h
  have hle := length_node_le hlib opt.type opt.value
  have hsize : caMaxHeaderOptionDataLength < PduOptions.coapMaxPduSize := by decide
  have hbytes := @optionBytes_eq (caCreateNewOptionNode lib opt.type opt.value) lib (by omega)
  rw [type_node] at hbytes
  by_cases hvar : lib.base.isVarBytes opt.type = true
  · have hvalue := node_value hlib opt.type opt.value
    rw [if_pos hvar] at hvalue
    rw [SameBytes, keptValue, if_pos hvar, if_pos hvar, isStorable, hbytes, hvar, Bool.true_and,
      hvalue]
    rw [hvalue] at hle
    dsimp only at hle ⊢
    cases hrest : (shrink lib opt.type opt.value).dropWhile (· == 0) with
    | nil => exact ⟨rfl, rfl⟩
    | cons b bytes =>
      rw [hrest] at hle
      refine ⟨?_, ?_⟩
      · simp only [length_cons, Nat.add_one_ne_zero, beq_iff_eq, if_false,
          isEmpty_cons, Bool.not_false, Bool.true_and, decide_eq_true_eq]
        exact hle.trans hmax
      · simp only [length_cons, Nat.add_one_ne_zero, beq_iff_eq, if_false]
        rw [← hrest]
        exact dropWhile_idempotent _ _
  have hvalue := node_value hlib opt.type opt.value
  rw [if_neg hvar] at hvalue
  have hne : opt.value ≠ [] := length_pos_iff.mp hpos
  rw [SameBytes, keptValue, if_neg hvar, if_neg hvar, isStorable, hbytes, hvalue]
  simp [hvar, hne, hmax]

omit hlib in
lemma minimalBytes_version (h : 256 ≤ version.toNat) :
    ∃ b b', CoapWire.minimalBytes version.toNat = [b, b'] ∧ b ≠ 0
      ∧ CoapWire.bigEndian [b, b'] = version.toNat := by
  have hlt : version.toNat < 65536 := version.toNat_lt
  obtain ⟨hbytes, hback⟩ := CoapWire.minimalBytes_two h hlt
  rw [hbytes] at hback
  refine ⟨_, _, hbytes, ?_, hback⟩
  intro hzero
  have hnat := congrArg UInt8.toNat hzero
  rw [CoapWire.toNat_ofNat_byte (by omega)] at hnat
  have : (UInt8.toNat 0) = 0 := rfl
  omega

lemma versionNode (hkey : isFormatOption key = true) (h : 256 ≤ version.toNat) :
    ∃ bytes, caCreateNewOptionNode lib key (lib.encodeVarBytes version.toNat) = ⟨key, bytes⟩
      ∧ bytes.length = 2 ∧ versionOf lib.base ⟨key, bytes⟩ = version.toNat := by
  have hlt : version.toNat < 65536 := version.toNat_lt
  obtain ⟨b, b', hbytes, hb, hback⟩ := minimalBytes_version h
  refine ⟨[b, b'], ?_, rfl, ?_⟩
  · rw [hlib.encodeVarBytes _ (by unfold uintMax; omega), hbytes]
    exact node_of_format hlib hkey hb (Nat.le_refl 2)
  · have hlen : ([b, b'] : List UInt8).length ≤ 4 := by simp
    rw [versionOf, if_pos (by rfl), hlib.decodeVarBytes _ hlen, hback]
    omega

/-! ## 3. The header options -/

omit hlib in
lemma userOptions_optlist :
    userOptions (m.optlist lib isSep)
      = sortBy CoapOption.type (headNodes lib m.options
        ++ (formatNodes lib optContentFormat m.payloadFormat ocfContentFormatVersion
            m.payloadVersion
          ++ formatNodes lib optAccept m.acceptFormat ocfAcceptContentFormatVersion
            m.acceptVersion)) := by
  have huri : (uriNodes isSep m.uri).filter (!isFilteredOption ·.type) = [] := by
    rw [filter_eq_nil_iff]
    intro node hnode
    rw [isFilteredOption_of_uri (type_of_mem_uriNodes hnode)]
    simp
  have hhead : (headNodes lib m.options).filter (!isFilteredOption ·.type)
      = headNodes lib m.options := by
    rw [filter_eq_self]
    intro node hnode
    rw [headNodes, mem_map] at hnode
    obtain ⟨opt, hopt, rfl⟩ := hnode
    have hfree := (m.isHeader opt hopt).2.1
    simp only [isReservedOption, Bool.or_eq_false_iff] at hfree
    rw [type_node, hfree.1.1, Bool.not_false]
  have hformat (formatOption versionOption : Nat) (format : CAPayloadFormat) (version : UInt16)
      (hfree : isFilteredOption formatOption = false)
      (hfree' : isFilteredOption versionOption = false) :
      (formatNodes lib formatOption format versionOption version).filter (!isFilteredOption ·.type)
        = formatNodes lib formatOption format versionOption version := by
    rw [filter_eq_self]
    intro node hnode
    rcases type_of_mem_formatNodes hnode with htype | htype
    · simp [htype, hfree]
    · simp [htype, hfree']
  rw [userOptions, OutgoingMessage.optlist, filter_sortBy, OutgoingMessage.nodes,
    filter_append, filter_append, filter_append, huri, hhead,
    hformat _ _ _ _ (by rfl) (by rfl), hformat _ _ _ _ (by rfl) (by rfl), nil_append,
    append_assoc]

omit hlib in
lemma length_formatNodes_le (formatOption versionOption : Nat) (format : CAPayloadFormat)
    (version : UInt16) :
    (formatNodes lib formatOption format versionOption version).length ≤ 2 := by
  cases format <;> simp [formatNodes]

omit hlib in
lemma length_userOptions_le :
    (userOptions (m.optlist lib isSep)).length ≤ uint8Max := by
  have hhead : (headNodes lib m.options).length = m.options.length := length_map _
  have hmax := m.options_length
  have hpayload := @length_formatNodes_le lib optContentFormat ocfContentFormatVersion
    m.payloadFormat m.payloadVersion
  have haccept := @length_formatNodes_le lib optAccept ocfAcceptContentFormatVersion
    m.acceptFormat m.acceptVersion
  rw [userOptions_optlist, (sortBy_perm _).length_eq, length_append, length_append, hhead]
  unfold uint8Max
  omega

lemma formatNodes_stored (hversion : isFormatOption versionOption = true)
    {format : CAPayloadFormat} (htwo : TwoByteVersion format version) :
    ∀ node ∈ formatNodes lib formatOption format versionOption version,
      isStorable lib.base node = true := by
  have hstored (key : Nat) (bytes : List UInt8) (hne : bytes ≠ []) (hlen : bytes.length ≤ 2) :
      isStorable lib.base ⟨key, bytes⟩ = true := by
    have hsize : (2 : Nat) < PduOptions.coapMaxPduSize := by decide
    have hmax : (2 : Nat) ≤ caMaxHeaderOptionDataLength := by decide
    have hbytes := @optionBytes_of_ne ⟨key, bytes⟩ lib (Nat.lt_of_le_of_lt hlen hsize) hne
    rw [isStorable, hbytes]
    simp [hne, hlen.trans hmax]
  intro node hnode
  cases format with
  | applicationCbor =>
    rw [formatNodes, mem_singleton] at hnode
    rw [hnode]
    exact hstored _ _ (by decide) (by decide)
  | applicationVndOcfCbor =>
    obtain ⟨bytes, hbytes, hlen, -⟩ := versionNode hlib hversion (htwo rfl)
    rw [formatNodes, mem_cons, mem_singleton, hbytes] at hnode
    rcases hnode with rfl | rfl
    · exact hstored _ _ (by decide) (by decide)
    refine hstored _ _ ?_ (Nat.le_of_eq hlen)
    intro hnil
    rw [hnil] at hlen
    simp at hlen
  | _ => exact absurd hnode not_mem_nil

lemma acceptedOptions_optlist (hpayload : TwoByteVersion m.payloadFormat m.payloadVersion)
    (haccept : TwoByteVersion m.acceptFormat m.acceptVersion) :
    acceptedOptions lib.base (m.optlist lib isSep) = userOptions (m.optlist lib isSep) := by
  rw [acceptedOptions, filter_eq_self]
  intro node hnode
  rw [userOptions_optlist, (sortBy_perm _).mem_iff, mem_append, mem_append] at hnode
  rcases hnode with hhead | hformat | hformat
  · rw [headNodes, mem_map] at hhead
    obtain ⟨opt, hopt, rfl⟩ := hhead
    exact (headNode_stored hlib (m.isHeader opt hopt)).1
  · exact formatNodes_stored hlib (by rfl) hpayload node hformat
  · exact formatNodes_stored hlib (by rfl) haccept node hformat

omit hlib in
lemma filter_userOptions :
    (userOptions (m.optlist lib isSep)).filter (!isFormatOption ·.type)
      = (sortBy CoapOption.type m.options).map
        (fun opt => caCreateNewOptionNode lib opt.type opt.value) := by
  have hhead : (headNodes lib m.options).filter (!isFormatOption ·.type)
      = headNodes lib m.options := by
    rw [filter_eq_self]
    intro node hnode
    rw [headNodes, mem_map] at hnode
    obtain ⟨opt, hopt, rfl⟩ := hnode
    have hfree := (m.isHeader opt hopt).2.1
    simp only [isReservedOption, Bool.or_eq_false_iff] at hfree
    rw [type_node, hfree.1.2, Bool.not_false]
  have hformat (formatOption versionOption : Nat) (format : CAPayloadFormat) (version : UInt16)
      (hkey : isFormatOption formatOption = true) (hkey' : isFormatOption versionOption = true) :
      (formatNodes lib formatOption format versionOption version).filter
        (!isFormatOption ·.type) = [] := by
    rw [filter_eq_nil_iff]
    intro node hnode
    rcases type_of_mem_formatNodes hnode with htype | htype
    · rw [htype, hkey]
      simp
    rw [htype, hkey']
    simp
  rw [userOptions_optlist, filter_sortBy, filter_append, filter_append,
    hhead, hformat _ _ _ _ (by rfl) (by rfl), hformat _ _ _ _ (by rfl) (by rfl), append_nil,
    append_nil, headNodes]
  exact (map_sortBy _ (fun opt => type_node _ _) _).symm

lemma options_delivered :
    List.Forall₂ (Delivers lib (keptValue lib)) (sortBy CoapOption.type m.options)
      (((userOptions (m.optlist lib isSep)).map (entryOf lib.base)).filter
        (!isFormatOption ·.optionID)) := by
  have hfilter : ((userOptions (m.optlist lib isSep)).map (entryOf lib.base)).filter
      (!isFormatOption ·.optionID)
      = ((userOptions (m.optlist lib isSep)).filter
        (!isFormatOption ·.type)).map (entryOf lib.base) := by
    rw [filter_map]
    rfl
  rw [hfilter, filter_userOptions, map_map, forall₂_map_right_iff, forall₂_same]
  intro opt hopt
  have hmem : opt ∈ m.options := (sortBy_perm _).mem_iff.mp hopt
  refine ⟨type_node _ _, ?_⟩
  have htake := take_headerEntry opt.type
    (optionBytes lib.base (caCreateNewOptionNode lib opt.type opt.value))
  rw [Function.comp_apply, entryOf, type_node, htake]
  exact (headNode_stored hlib (m.isHeader opt hmem)).2

/-! ## 4. The formats -/

omit hlib in
lemma level_formatNodes_other (hformat : formatOption ≠ n) (hversion : versionOption ≠ n)
    (format : CAPayloadFormat) (version : UInt16) :
    level CoapOption.type n (formatNodes lib formatOption format versionOption version) = [] := by
  apply level_eq_nil
  intro node hnode hn
  rcases type_of_mem_formatNodes hnode with htype | htype
  · exact hformat (htype.symm.trans hn)
  · exact hversion (htype.symm.trans hn)

omit hlib in
lemma level_uriNodes_other (h : isUriOption n = false) :
    level CoapOption.type n (uriNodes isSep m.uri) = [] := by
  apply level_eq_nil
  intro node hnode hn
  have huri := type_of_mem_uriNodes hnode
  rw [hn, h] at huri
  exact Bool.noConfusion huri

omit hlib in
lemma level_format (h : isFormatOption n = true) :
    level CoapOption.type n (m.optlist lib isSep)
      = level CoapOption.type n (formatNodes lib optContentFormat m.payloadFormat
          ocfContentFormatVersion m.payloadVersion)
        ++ level CoapOption.type n (formatNodes lib optAccept m.acceptFormat
          ocfAcceptContentFormatVersion m.acceptVersion) := by
  have huri : isUriOption n = false := by
    simp only [isFormatOption, Bool.or_eq_true, beq_iff_eq] at h
    rcases h with ((rfl | rfl) | rfl) | rfl <;> rfl
  have hreserved : isReservedOption n = true := by
    rw [isReservedOption, h, Bool.or_true, Bool.true_or]
  rw [level_optlist, level_headNodes m hreserved, level_uriNodes_other m huri, append_nil,
    nil_append]

def formatBytes : CAPayloadFormat → Option (List UInt8)
  | .applicationCbor => some [60]
  | .applicationVndOcfCbor => some [39, 16]
  | _ => none

omit hlib in
lemma level_formatNodes_format (hne : versionOption ≠ formatOption) (format : CAPayloadFormat)
    (version : UInt16) :
    level CoapOption.type formatOption (formatNodes lib formatOption format versionOption version)
      = (formatBytes format).toList.map (⟨formatOption, ·⟩) := by
  have hversion : ¬(caCreateNewOptionNode lib versionOption
      (lib.encodeVarBytes version.toNat)).type = formatOption := by
    rw [type_node]
    exact hne
  cases format with
  | applicationCbor =>
    rw [formatNodes, level_cons, if_pos rfl]
    rfl
  | applicationVndOcfCbor =>
    rw [formatNodes, level_cons, if_pos rfl, level_cons, if_neg hversion]
    rfl
  | _ => rfl

omit hlib in
lemma level_formatNodes_version (hne : formatOption ≠ versionOption) (version : UInt16) :
    level CoapOption.type versionOption
      (formatNodes lib formatOption .applicationVndOcfCbor versionOption version)
      = [caCreateNewOptionNode lib versionOption (lib.encodeVarBytes version.toNat)] := by
  rw [formatNodes, level_cons, if_neg hne, level_cons, if_pos (type_node _ _)]
  rfl

lemma noted_format {count : Nat} {proj : FillState → CAPayloadFormat}
    (h : NotedBy lib.base count key proj
      (fun opt => formatOf lib.base opt (optionBytes lib.base opt)))
    {opts : List CoapOption} {format : CAPayloadFormat} (hsendable : IsSendable format)
    (hlevel : level CoapOption.type key opts = (formatBytes format).toList.map (⟨key, ·⟩))
    {st : FillState} (hst : proj st = .undefined) :
    proj (opts.foldl (collectStep lib.base count) st) = format := by
  have hsize : (2 : Nat) < PduOptions.coapMaxPduSize := by decide
  rcases hsendable with rfl | rfl | rfl
  · rw [h.absent st hlevel, hst]
  · have hbytes := @optionBytes_of_ne ⟨key, [60]⟩ lib (Nat.lt_of_le_of_lt (by simp) hsize)
      (cons_ne_nil _ _)
    rw [h.single st hlevel (by rw [hbytes]; exact cons_ne_nil _ _), hbytes]
    rfl
  · have hbytes := @optionBytes_of_ne ⟨key, [39, 16]⟩ lib (Nat.lt_of_le_of_lt (by simp) hsize)
      (cons_ne_nil _ _)
    have hlen : ([39, 16] : List UInt8).length ≤ 4 := by decide
    rw [h.single st hlevel (by rw [hbytes]; exact cons_ne_nil _ _), hbytes, formatOf,
      if_neg (by simp), if_pos (by rfl), hlib.decodeVarBytes _ hlen]
    decide

lemma noted_version {count : Nat} (hkey : isFormatOption key = true) {proj : FillState → Nat}
    (h : NotedBy lib.base count key proj (versionOf lib.base)) {opts : List CoapOption}
    (htwo : 256 ≤ version.toNat)
    (hlevel : level CoapOption.type key opts
      = [caCreateNewOptionNode lib key (lib.encodeVarBytes version.toNat)])
    (st : FillState) :
    proj (opts.foldl (collectStep lib.base count) st) = version.toNat := by
  obtain ⟨bytes, hnode, hlen, hvalue⟩ := versionNode hlib hkey htwo
  have hsize : (2 : Nat) < PduOptions.coapMaxPduSize := by decide
  have hne : bytes ≠ [] := by
    intro hnil
    rw [hnil] at hlen
    simp at hlen
  have hbytes := @optionBytes_of_ne ⟨key, bytes⟩ lib (Nat.lt_of_le_of_lt (Nat.le_of_eq hlen) hsize)
    hne
  rw [hnode] at hlevel
  rw [h.single st hlevel (by rw [hbytes]; exact hne), hvalue]

end Decode

end

open StableOrder (level sortBy sortBy_perm)
open CoapWire (decode encode optionSize)
open Option (some.inj)

section Decode

variable {lib : Libcoap} {Holds : lib.Buf → PduParts → Prop} (hlib : lib.FollowsRfc Holds)
  {isSep : UInt8 → Bool} (m : OutgoingMessage)

include hlib

/-! ## 1. The whole way -/

omit hlib in
lemma caGeneratePDU_refused (h : m.type = .reset ∨ uintMax < m.payload.length) :
    caGeneratePDU lib m.code m.info = none := by
  have hcode := m.isCode.1
  by_cases hreset : m.info.type = .reset
  · rw [caGeneratePDU, if_pos (Or.inl hreset), if_pos hcode]
  have hlong : m.info.payload.length > uintMax := h.resolve_left hreset
  rw [caGeneratePDU, if_neg (by rintro (h | h); exacts [hreset h, hcode h.1])]
  split
  · rfl
  · rw [caGeneratePDUImpl, if_pos hlong]

lemma caGeneratePDU_ok (hreset : m.type ≠ .reset)
    (hsplit : ∀ u, m.uri = some u → SplitsUri lib isSep u)
    (hfits : ∀ u, m.uri = some u → FitsUriBuffer isSep u)
    (htotal : (encode (m.wire lib isSep)).length ≤ uintMax) :
    ∃ buf, caGeneratePDU lib m.code m.info = some buf
      ∧ lib.bytes buf = encode (m.wire lib isSep) := by
  have hcode := m.isCode.1
  rw [caGeneratePDU, if_neg (by rintro (h | h); exacts [hreset h, hcode h.1]),
    optlist_eq hlib m hsplit hfits]
  exact caGeneratePDUImpl_ok hlib m hfits htotal

section

variable (hfits : ∀ u, m.uri = some u → FitsUriBuffer isSep u)
  (htotal : (encode (m.wire lib isSep)).length ≤ uintMax)
include hfits htotal

lemma wire_wellFormed : (m.wire lib isSep).WellFormed := by
  have hnode := isNode_of_mem hlib m hfits
  have hmax : caMaxHeaderOptionDataLength ≤ CoapWire.maxExtended := by decide
  constructor
  · have hcode := m.isCode.2
    change coapResponseCode m.code < 256
    unfold coapResponseCode
    omega
  · exact m.token_length.2
  · constructor
    · rw [OutgoingMessage.wire, pairwise_map]
      exact pairwise_optlist m
    · exact fun _ _ => Nat.zero_le _
    · rw [OutgoingMessage.wire, forall_mem_map]
      exact fun opt hopt => ((hnode opt hopt).1).trans (by decide)
    · rw [OutgoingMessage.wire, forall_mem_map]
      exact fun opt hopt => ((hnode opt hopt).2).trans hmax
  · rw [CoapWire.length_encode] at htotal
    unfold uintMax at htotal
    omega

lemma caParsePDU_ok :
    ∃ pdu, caParsePDU lib (encode (m.wire lib isSep)) = some pdu
      ∧ Libcoap.IsPduOf pdu (m.wire lib isSep) := by
  have hwell := wire_wellFormed hlib m hfits htotal
  have hnode := isNode_of_mem hlib m hfits
  obtain ⟨buf, hinit, -⟩ := hlib.pduInit (encode (m.wire lib isSep)).length
    (lib.headerTypeFromInitbyte (((encode (m.wire lib isSep)).headD 0).toNat / 16))
  obtain ⟨pdu, hparse, hpdu⟩ := hlib.parse _ (m.wire lib isSep) _ _ buf
    (CoapWire.decode_encode hwell) hwell
    (by
      rw [OutgoingMessage.wire, forall_mem_map]
      exact fun opt hopt => (hnode opt hopt).1)
    rfl (Nat.le_refl _) hinit
  refine ⟨pdu, ?_, hpdu⟩
  rw [caParsePDU, hinit]
  exact hparse

end

omit hlib in
lemma caResponseCode_code : caResponseCode (coapResponseCode m.code) = m.code := by
  have hcode := m.isCode.2
  unfold caResponseCode coapResponseCode
  omega

omit hlib in
lemma options_of_isPduOf {pdu : Pdu} (h : Libcoap.IsPduOf pdu (m.wire lib isSep)) :
    pdu.options = m.optlist lib isSep := by
  rw [h.2.2.1, OutgoingMessage.wire, map_map]
  exact map_id _

lemma handedOver (hsep : ∀ u, m.uri = some u → ∀ c, isSep c = true → isQuerySeparator c = true)
    (hpath : ∀ u, m.uri = some u → u.path ≠ [])
    (hpayload : TwoByteVersion m.payloadFormat m.payloadVersion)
    (haccept : TwoByteVersion m.acceptFormat m.acceptVersion) (gChproxyUri : List UInt8)
    {pdu : Pdu} (hpdu : Libcoap.IsPduOf pdu (m.wire lib isSep)) :
    ∃ code info, PduOptions.caGetInfoFromPDU lib.base gChproxyUri true pdu = .ok code info
      ∧ HandedOver lib (m.uri.map (ResourceUri.rejoined isSep)) (keptValue lib) m code info := by
  have hoptions := options_of_isPduOf m hpdu
  have hcount := @length_userOptions_le lib isSep m
  have hfit := @length_wantedUri_lt lib isSep m
  have huri := (uriLength_uriSegments hlib.uriStrings (pairwise_optlist m) hfit).1
  rw [← hoptions] at hcount huri hfit
  have hrun := caGetInfoFromPDU_eq gChproxyUri true hcount (Nat.lt_of_le_of_lt huri hfit)
  obtain ⟨info, hok, -, hentries, hresource, -⟩ := caGetInfoFromPDU_ok gChproxyUri true hcount
    (Nat.lt_of_le_of_lt huri hfit)
  have hinfo := (PduResult.ok.inj (hok.symm.trans hrun)).2
  have hcode : caResponseCode pdu.code = m.code := by
    rw [hpdu.1]
    exact caResponseCode_code m
  have htoken : pdu.token = m.token := hpdu.2.1
  have hdata : pdu.data.getD [] = m.payload := by
    rw [hpdu.2.2.2]
    split_ifs with hnil
    · exact hnil.symm
    · rfl
  rw [hoptions, acceptedOptions_optlist hlib m hpayload haccept, Nat.sub_self,
    replicate_zero, append_nil] at hentries
  have hnotAccept (n : Nat) (hformat : optAccept ≠ n)
      (hversion : ocfAcceptContentFormatVersion ≠ n) :
      level CoapOption.type n (formatNodes lib optAccept m.acceptFormat
        ocfAcceptContentFormatVersion m.acceptVersion) = [] :=
    level_formatNodes_other hformat hversion _ _
  have hcollected : collected lib.base true pdu = (m.optlist lib isSep).foldl
      (collectStep lib.base (userOptions pdu.options).length)
      (initialFill true (userOptions pdu.options).length pdu) := by
    rw [collected, hoptions]
  refine ⟨_, info, hok, ?_⟩
  constructor
  · exact hcode
  · rw [hinfo]
    exact ⟨htoken, congrArg List.length htoken⟩
  · rw [hresource, hoptions, uriOf_optlist m hlib.uriStrings hsep gChproxyUri hpath]
  · rw [hinfo]
    exact ⟨hdata, congrArg List.length hdata⟩
  · rw [hinfo]
    change (notes (collected lib.base true pdu)).1.1 = _
    rw [hcollected]
    apply noted_format hlib notedBy_payloadFormat m.isPayloadFormat _ (by rfl)
    rw [level_format m (by rfl), hnotAccept _ (by decide) (by decide), append_nil,
      level_formatNodes_format (by decide)]
  · rw [hinfo]
    change (notes (collected lib.base true pdu)).2.1 = _
    rw [hcollected]
    apply noted_format hlib notedBy_acceptFormat m.isAcceptFormat _ (by rfl)
    rw [level_format m (by rfl), level_formatNodes_other (by decide) (by decide), nil_append,
      level_formatNodes_format (by decide)]
  · intro hvnd
    rw [hinfo]
    change (notes (collected lib.base true pdu)).1.2 = _
    rw [hcollected]
    apply noted_version hlib (by rfl) notedBy_payloadVersion (hpayload hvnd)
    rw [level_format m (by rfl), hnotAccept _ (by decide) (by decide), append_nil, hvnd,
      level_formatNodes_version (by decide)]
  · intro hvnd
    rw [hinfo]
    change (notes (collected lib.base true pdu)).2.2 = _
    rw [hcollected]
    apply noted_version hlib (by rfl) notedBy_acceptVersion (haccept hvnd)
    rw [level_format m (by rfl), level_formatNodes_other (by decide) (by decide), nil_append,
      hvnd, level_formatNodes_version (by decide)]
  · rw [hentries]
    exact options_delivered hlib m

end Decode

/-! ## 2. The results -/

section Results

variable {lib : Libcoap} {gChproxyUri : List UInt8} {m : OutgoingMessage}

lemma ComesBack.agree {uri uri' : Option (List UInt8)} {value value' : CoapOption → List UInt8}
    (h : ComesBack lib gChproxyUri uri value m) (h' : ComesBack lib gChproxyUri uri' value' m) :
    uri' = uri ∧ ∀ opt ∈ m.options, SameBytes lib opt.type (value opt) (value' opt) := by
  obtain ⟨buf, pdu, code, info, hbuf, hpdu, hrun, hgiven⟩ := h
  obtain ⟨buf', pdu', code', info', hbuf', hpdu', hrun', hgiven'⟩ := h'
  obtain rfl : buf = buf' := some.inj (hbuf.symm.trans hbuf')
  obtain rfl : pdu = pdu' := some.inj (hpdu.symm.trans hpdu')
  obtain ⟨rfl, rfl⟩ := PduResult.ok.inj (hrun.symm.trans hrun')
  refine ⟨hgiven'.resourceUri.symm.trans hgiven.resourceUri, ?_⟩
  have hboth : ∀ opt ∈ sortBy CoapOption.type m.options,
      SameBytes lib opt.type (value opt) (value' opt) := by
    have hopts := hgiven.options
    have hopts' := hgiven'.options
    generalize sortBy CoapOption.type m.options = opts at hopts hopts' ⊢
    generalize info.options.filter (!isFormatOption ·.optionID) = entries
      at hopts hopts'
    induction hopts with
    | nil => exact fun opt hopt => absurd hopt not_mem_nil
    | cons hhead _ ih =>
      rw [forall₂_cons] at hopts'
      rw [forall_mem_cons]
      refine ⟨?_, ih hopts'.2⟩
      have hfirst := hhead.2
      have hsecond := hopts'.1.2
      unfold SameBytes at hfirst hsecond ⊢
      split_ifs at hfirst hsecond ⊢
      · exact hsecond.symm.trans hfirst
      · exact hsecond.symm.trans hfirst
  intro opt hopt
  exact hboth opt ((sortBy_perm _).mem_iff.mpr hopt)

lemma ComesBack.of_same {uri : Option (List UInt8)} {value value' : CoapOption → List UInt8}
    (h : ComesBack lib gChproxyUri uri value m)
    (hsame : ∀ opt ∈ m.options, SameBytes lib opt.type (value' opt) (value opt)) :
    ComesBack lib gChproxyUri uri value' m := by
  obtain ⟨buf, pdu, code, info, hbuf, hpdu, hrun, hgiven⟩ := h
  refine ⟨buf, pdu, code, info, hbuf, hpdu, hrun, { hgiven with options := ?_ }⟩
  have hmem : ∀ opt ∈ sortBy CoapOption.type m.options, opt ∈ m.options :=
    fun opt hopt => (sortBy_perm _).mem_iff.mp hopt
  have hopts := hgiven.options
  generalize sortBy CoapOption.type m.options = opts at hopts hmem ⊢
  generalize info.options.filter (!isFormatOption ·.optionID) = entries
    at hopts ⊢
  induction hopts with
  | nil => exact List.Forall₂.nil
  | cons hhead _ ih =>
    rw [forall_mem_cons] at hmem
    refine List.Forall₂.cons ⟨hhead.1, ?_⟩ (ih hmem.2)
    have hfirst := hhead.2
    have hsecond := hsame _ hmem.1
    unfold SameBytes at hfirst hsecond ⊢
    split_ifs at hfirst hsecond ⊢
    · exact hfirst.trans hsecond
    · exact hfirst.trans hsecond

lemma comesBack_rejoined {Holds : lib.Buf → PduParts → Prop} (hlib : lib.FollowsRfc Holds)
    {isSep : UInt8 → Bool} (hsplit : ∀ u, m.uri = some u → SplitsUri lib isSep u)
    (hreset : m.type ≠ .reset) (htotal : (encode (m.wire lib isSep)).length ≤ uintMax)
    (hfits : ∀ u, m.uri = some u → FitsUriBuffer isSep u)
    (hpayload : TwoByteVersion m.payloadFormat m.payloadVersion)
    (haccept : TwoByteVersion m.acceptFormat m.acceptVersion) :
    ComesBack lib gChproxyUri (m.uri.map (ResourceUri.rejoined isSep)) (keptValue lib) m := by
  have hsep : ∀ u, m.uri = some u → ∀ c, isSep c = true → isQuerySeparator c = true :=
    fun u huri => (hsplit u huri).separator
  have hpath : ∀ u, m.uri = some u → u.path ≠ [] := fun u huri => (hfits u huri).path_ne
  obtain ⟨buf, hgenerate, hbytes⟩ := caGeneratePDU_ok hlib m hreset hsplit hfits htotal
  obtain ⟨pdu, hparse, hpdu⟩ := caParsePDU_ok hlib m hfits htotal
  obtain ⟨code, info, hrun, hgiven⟩ :=
    handedOver hlib m hsep hpath hpayload haccept gChproxyUri hpdu
  exact ⟨buf, pdu, code, info, hgenerate, hbytes ▸ hparse, hrun, hgiven⟩

/-- **The codec over TCP.** A message of type RESET with a code, or one with a payload
of more than `UINT_MAX` bytes, is refused. Any other comes back, with a semicolon for
every byte at which libcoap splits the query, and with what the encoder keeps of an
integer option; and it comes back as it was sent if and only if that changes nothing. -/
theorem codec_over_tcp {Holds : lib.Buf → PduParts → Prop} (hlib : lib.FollowsRfc Holds)
    {isSep : UInt8 → Bool} (gChproxyUri : List UInt8) (m : OutgoingMessage)
    (hsplit : ∀ u, m.uri = some u → SplitsUri lib isSep u) :
    (m.type = .reset ∨ uintMax < m.payload.length → caGeneratePDU lib m.code m.info = none)
    ∧ (m.type ≠ .reset → (encode (m.wire lib isSep)).length ≤ uintMax →
      (∀ u, m.uri = some u → FitsUriBuffer isSep u) →
      TwoByteVersion m.payloadFormat m.payloadVersion →
      TwoByteVersion m.acceptFormat m.acceptVersion →
      ComesBack lib gChproxyUri (m.uri.map (ResourceUri.rejoined isSep)) (keptValue lib) m
      ∧ (RoundTrip lib gChproxyUri m ↔ (∀ u, m.uri = some u → u.rejoined isSep = u.text)
        ∧ ∀ opt ∈ m.options, SameBytes lib opt.type opt.value (keptValue lib opt))) := by
  refine ⟨caGeneratePDU_refused m, fun hreset htotal hfits hpayload haccept => ?_⟩
  have hback : ComesBack lib gChproxyUri (m.uri.map (ResourceUri.rejoined isSep))
      (keptValue lib) m :=
    comesBack_rejoined hlib hsplit hreset htotal hfits hpayload haccept
  refine ⟨hback, ?_⟩
  constructor
  · intro h
    obtain ⟨huri, hvalues⟩ := ComesBack.agree h hback
    refine ⟨fun u hu => ?_, hvalues⟩
    rw [hu, Option.map_some, Option.map_some] at huri
    exact some.inj huri
  · rintro ⟨huri, hvalues⟩
    have hsame : m.uri.map (ResourceUri.rejoined isSep) = m.uri.map ResourceUri.text :=
      Option.map_congr (fun u hu => huri u hu)
    rw [hsame] at hback
    exact hback.of_same hvalues

end Results

/-! ## 3. A libcoap -/

def fittingParts : Nat → List (List UInt8) → List (List UInt8)
  | _, [] => []
  | room, part :: parts =>
    if optionSize 0 part.length ≤ room then
      part :: fittingParts (room - optionSize 0 part.length) parts
    else fittingParts room parts

def writeParts (size : Nat) (parts : List (List UInt8)) : SplitParts :=
  ⟨fittingParts size parts, size - partsSize (fittingParts size parts)⟩

def parsedPdu (m : CoapWire.Message) : Option Pdu :=
  if h : (m.options.map (fun opt => (⟨opt.1, opt.2⟩ : CoapOption))).Pairwise
      (fun a b => a.type ≤ b.type) then
    some { type := .confirm, id := 0, code := m.code
           options := m.options.map (fun opt => ⟨opt.1, opt.2⟩), ordered := h
           token := m.token, data := if m.payload = [] then none else some m.payload }
  else none

/-- libcoap by the two RFCs: up to three bytes for Observe and the block options, four for Max-Age
and the sizes, two for the other integer options. -/
def rfcLibcoap : Libcoap where
  base :=
    { isVarBytes := fun key => [6, 7, 12, 14, 17, 23, 27, 28, 60].contains key
      decodeVarBytes := CoapWire.bigEndian }
  optMax key := if [6, 23, 27].contains key then 3 else if [14, 28, 60].contains key then 4 else 2
  encodeVarBytes := CoapWire.minimalBytes
  insert order optlist node := some (optlist.takeWhile (fun q => decide (0 ≤ order node q))
    ++ node :: optlist.dropWhile (fun q => decide (0 ≤ order node q)))
  splitUri uri :=
    let text := uri.drop coapUriHeader.length
    ⟨coapDefaultPort, text.takeWhile (· != questionMark), (text.dropWhile (· != questionMark)).tail⟩
  splitPath path size := writeParts size (path.tail.splitOnP (· == slash))
  splitQuery query size := writeParts size (query.splitOnP isQuerySeparator)
  optHeaderLength := optionSize
  headerTypeFromSize n :=
    if n < 13 then .tcp else if n < 269 then .tcp8Bit else if n < 65805 then .tcp16Bit
    else .tcp32Bit
  headerTypeFromInitbyte n :=
    if n < 13 then .tcp else if n = 13 then .tcp8Bit else if n = 14 then .tcp16Bit
    else .tcp32Bit
  headerLength
    | .udp => 4
    | .tcp => 2
    | .tcp8Bit => 3
    | .tcp16Bit => 4
    | .tcp32Bit => 6
  Buf := PduParts
  pduInit size transport := some ⟨size, transport, 0, ⟨0, [], [], []⟩⟩
  addLength p _ n := { p with length := n }
  addCode p _ code := { p with message := { p.message with code := coapResponseCode code } }
  addToken p token _ := { p with message := { p.message with token := token } }
  addOption p key value _ := some (p.addOptions [(key, value)])
  addData p data := { p with message := { p.message with payload := data } }
  bytes p := encode p.message
  parse _ data _ := (decode data).bind parsedPdu

lemma rfcLibcoap_followsRfc : rfcLibcoap.FollowsRfc Eq where
  encodeVarBytes _ _ := rfl
  decodeVarBytes _ _ := rfl
  optMax_le key _ := by
    change (if _ then 3 else if _ then 4 else 2) ≤ 4
    split_ifs <;> decide
  two_le_optMax key _ _ := by
    change 2 ≤ (if _ then 3 else if _ then 4 else 2)
    split_ifs <;> decide
  uriStrings := ⟨rfl, rfl⟩
  insert _ _ _ := rfl
  optHeaderLength _ _ _ _ := rfl
  headerLength n _ := by
    simp only [rfcLibcoap, CoapWire.headerSize, CoapWire.lengthExtension]
    split_ifs <;> rfl
  pduInit _ _ := ⟨_, rfl, rfl⟩
  addLength _ _ _ h := h ▸ rfl
  addCode _ _ _ h := h ▸ rfl
  addToken _ _ _ h _ _ _ _ _ := h ▸ rfl
  addOption _ _ _ _ h _ _ _ _ _ := h ▸ ⟨_, rfl, rfl⟩
  addData _ _ _ h _ _ _ := h ▸ rfl
  bytes _ _ h _ _ _ := h ▸ rfl
  parse data m _ _ _ hdecode hwell _ _ _ _ := by
    have hordered : (m.options.map (fun opt => (⟨opt.1, opt.2⟩ : CoapOption))).Pairwise
        (fun a b => a.type ≤ b.type) := by
      rw [pairwise_map]
      exact hwell.writable.ordered
    have hparsed : (decode data).bind parsedPdu = parsedPdu m := by
      simp [hdecode]
    rw [parsedPdu, dif_pos hordered] at hparsed
    exact ⟨_, hparsed, rfl, rfl, rfl, rfl⟩

lemma sampleUri_path : ∀ seg ∈ ([[97], [98]] : List (List UInt8)), IsPart seg := by
  simp [IsPart, slash, questionMark, semicolon, ampersand, percent]

lemma sampleUri_query : ([99, 38, 100] : List UInt8) ≠ [] →
    ∀ part ∈ ([99, 38, 100] : List UInt8).splitOnP isQuerySeparator, IsPart part := by
  have hsplit : ([99, 38, 100] : List UInt8).splitOnP isQuerySeparator = [[99], [100]] := by
    decide
  rw [hsplit]
  simp [IsPart, slash, questionMark, semicolon, ampersand, percent]

def sampleUri : ResourceUri := ⟨[[97], [98]], [99, 38, 100], sampleUri_path, sampleUri_query⟩

lemma sampleUri_length :
    ∀ u, some sampleUri = some u → u.text.length < PduOptions.caMaxUriLength := by
  intro u hu
  rw [← some.inj hu]
  decide

def sampleOptions : List CoapOption := [⟨20, [120]⟩, ⟨6, [1, 0, 0, 5]⟩]

lemma isHeader_sampleOptions : ∀ opt ∈ sampleOptions, IsHeaderOption opt := by decide

lemma isMessageCode_get : IsMessageCode caGet := by decide

lemma length_sampleToken : 1 ≤ ([1] : List UInt8).length
    ∧ ([1] : List UInt8).length ≤ caMaxTokenLength := by decide

lemma length_sampleOptions : sampleOptions.length ≤ 200 := by decide

/-- `GET /a/b?c&d` with the two options, a payload and both formats. -/
def sampleMessage : OutgoingMessage :=
  ⟨.confirm, caGet, [1], some sampleUri, sampleOptions, [1, 2, 3], .applicationVndOcfCbor,
    .applicationCbor, 2048, 0, isMessageCode_get, length_sampleToken, sampleUri_length,
    length_sampleOptions, isHeader_sampleOptions, Or.inr (Or.inr rfl), Or.inr (Or.inl rfl)⟩

lemma sampleMessage_splits :
    ∀ u, sampleMessage.uri = some u → SplitsUri rfcLibcoap isQuerySeparator u := by
  intro u hu
  rw [← some.inj hu]
  exact ⟨fun _ h => h, by decide, fun _ => by decide, fun _ => by decide⟩

lemma sampleMessage_fits :
    ∀ u, sampleMessage.uri = some u → FitsUriBuffer isQuerySeparator u := by
  intro u hu
  rw [← some.inj hu]
  exact ⟨by decide, by decide, by decide⟩

lemma length_sampleMessage :
    (encode (sampleMessage.wire rfcLibcoap isQuerySeparator)).length ≤ uintMax := by
  rw [OutgoingMessage.wire, OutgoingMessage.optlist, ← insertAll_eq_sortBy]
  decide

theorem sampleMessage_comesBack :
    ComesBack rfcLibcoap [] (some [47, 97, 47, 98, 63, 99, 59, 100]) (keptValue rfcLibcoap)
      sampleMessage :=
  ((codec_over_tcp rfcLibcoap_followsRfc [] sampleMessage sampleMessage_splits).2 (by decide)
    length_sampleMessage sampleMessage_fits (fun _ => by decide) (fun h => by cases h)).1

theorem sampleMessage_shrunk : ¬RoundTrip rfcLibcoap [] sampleMessage := by
  intro h
  have hback : ComesBack rfcLibcoap []
      (sampleMessage.uri.map (ResourceUri.rejoined isQuerySeparator)) (keptValue rfcLibcoap)
      sampleMessage :=
    comesBack_rejoined rfcLibcoap_followsRfc sampleMessage_splits (by decide)
      length_sampleMessage sampleMessage_fits (fun _ => by decide) (fun h => by cases h)
  have hvalues := (ComesBack.agree h hback).2 ⟨6, [1, 0, 0, 5]⟩ (by decide)
  rw [SameBytes, if_pos (by decide)] at hvalues
  exact absurd hvalues (by decide)

end Iochibity.Coap.PduCodec
