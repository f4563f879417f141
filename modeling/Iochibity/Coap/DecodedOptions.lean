/-
The bytes of an outgoing message.
-/
import Iochibity.Coap.PduEncoder

namespace Iochibity.Coap.PduCodec

open PduOptions
open List
open CoapWire (encode encodeOptions encodePayload lastNumber maxExtended minimalBytes optionSize)

/-! ## 1. Outgoing messages -/

def ampersand : UInt8 := 38
def percent : UInt8 := 37

def isQuerySeparator (c : UInt8) : Bool := c == semicolon || c == ampersand

def IsPart (part : List UInt8) : Prop :=
  part ≠ [] ∧ ∀ c ∈ part, c ≠ 0 ∧ c ≠ slash ∧ c ≠ questionMark ∧ c ≠ semicolon
    ∧ c ≠ ampersand ∧ c ≠ percent

instance (part : List UInt8) : Decidable (IsPart part) :=
  inferInstanceAs (Decidable (_ ∧ _))

structure ResourceUri where
  path : List (List UInt8)
  query : List UInt8
  path_parts : ∀ seg ∈ path, IsPart seg
  query_parts : query ≠ [] → ∀ part ∈ query.splitOnP isQuerySeparator, IsPart part

def ResourceUri.text (u : ResourceUri) : List UInt8 :=
  Segments.prefixed slash u.path ++ if u.query = [] then [] else questionMark :: u.query

/-- A request or response code `cdd`: the class is at most 5 and the detail at most 31. -/
def IsMessageCode (code : Nat) : Prop := code ≠ caEmpty ∧ code / 100 ≤ 5 ∧ code % 100 ≤ 31

instance (code : Nat) : Decidable (IsMessageCode code) :=
  inferInstanceAs (Decidable (_ ∧ _))

def isReservedOption (id : Nat) : Bool :=
  isFilteredOption id || isFormatOption id || id == optProxyUri

def IsHeaderOption (opt : CoapOption) : Prop :=
  opt.type ≤ 65535 ∧ isReservedOption opt.type = false
    ∧ 1 ≤ opt.value.length ∧ opt.value.length ≤ caMaxHeaderOptionDataLength

instance (opt : CoapOption) : Decidable (IsHeaderOption opt) :=
  inferInstanceAs (Decidable (_ ∧ _))

def IsSendable (format : CAPayloadFormat) : Prop :=
  format = .undefined ∨ format = .applicationCbor ∨ format = .applicationVndOcfCbor

instance (format : CAPayloadFormat) : Decidable (IsSendable format) :=
  inferInstanceAs (Decidable (_ ∨ _))

structure OutgoingMessage where
  type : CAMessageType
  code : Nat
  token : List UInt8
  uri : Option ResourceUri
  options : List CoapOption
  payload : List UInt8
  payloadFormat : CAPayloadFormat
  acceptFormat : CAPayloadFormat
  payloadVersion : UInt16
  acceptVersion : UInt16
  isCode : IsMessageCode code
  token_length : 1 ≤ token.length ∧ token.length ≤ caMaxTokenLength
  uri_length : ∀ u, uri = some u → u.text.length < PduOptions.caMaxUriLength
  options_length : options.length ≤ 200
  isHeader : ∀ opt ∈ options, IsHeaderOption opt
  isPayloadFormat : IsSendable payloadFormat
  isAcceptFormat : IsSendable acceptFormat

def OutgoingMessage.info (m : OutgoingMessage) : SendInfo :=
  { type := m.type, token := m.token, options := m.options, payload := m.payload
    payloadFormat := m.payloadFormat, acceptFormat := m.acceptFormat
    payloadVersion := m.payloadVersion, acceptVersion := m.acceptVersion
    resourceUri := m.uri.map ResourceUri.text }

/-! ## 2. Its nodes -/

section Wire

variable (lib : Libcoap) (isSep : UInt8 → Bool)

def ResourceUri.queryParts (u : ResourceUri) : List (List UInt8) :=
  if u.query = [] then [] else u.query.splitOnP isSep

/-- What is taken for granted of libcoap: a URI is split into its parts, the path at slashes and the
query at `isSep`, as far as there is room. -/
structure SplitsUri (u : ResourceUri) : Prop where
  separator : ∀ c, isSep c = true → isQuerySeparator c = true
  uri : lib.splitUri (coapUriHeader ++ u.text)
    = ⟨coapDefaultPort, Segments.prefixed slash u.path, u.query⟩
  path : partsSize u.path ≤ PduOptions.caMaxUriLength →
    lib.splitPath (Segments.prefixed slash u.path) PduOptions.caMaxUriLength
      = ⟨u.path, PduOptions.caMaxUriLength - partsSize u.path⟩
  query : partsSize (u.queryParts isSep) ≤ PduOptions.caMaxUriLength →
    lib.splitQuery u.query PduOptions.caMaxUriLength
      = ⟨u.queryParts isSep, PduOptions.caMaxUriLength - partsSize (u.queryParts isSep)⟩

structure FitsUriBuffer (u : ResourceUri) : Prop where
  path_ne : u.path ≠ []
  path : partsSize u.path ≤ PduOptions.caMaxUriLength
  query : partsSize (u.queryParts isSep) ≤ PduOptions.caMaxUriLength

def uriNodes (uri : Option ResourceUri) : List CoapOption :=
  match uri with
  | none => []
  | some u => u.path.map (⟨optUriPath, ·⟩)
      ++ (u.queryParts isSep).map (⟨optUriQuery, ·⟩)

def headNodes (opts : List CoapOption) : List CoapOption :=
  opts.map (fun opt => caCreateNewOptionNode lib opt.type opt.value)

def OutgoingMessage.nodes (m : OutgoingMessage) : List CoapOption :=
  uriNodes isSep m.uri ++ headNodes lib m.options
    ++ formatNodes lib optContentFormat m.payloadFormat ocfContentFormatVersion m.payloadVersion
    ++ formatNodes lib optAccept m.acceptFormat ocfAcceptContentFormatVersion m.acceptVersion

def OutgoingMessage.optlist (m : OutgoingMessage) : List CoapOption :=
  StableOrder.sortBy CoapOption.type (m.nodes lib isSep)

def OutgoingMessage.wire (m : OutgoingMessage) : CoapWire.Message :=
  { code := coapResponseCode m.code, token := m.token
    options := (m.optlist lib isSep).map (fun opt => (opt.type, opt.value))
    payload := m.payload }

end Wire

section Encode

variable {lib : Libcoap} {Holds : lib.Buf → PduParts → Prop} (hlib : lib.FollowsRfc Holds)
  {isSep : UInt8 → Bool}

lemma queryParts_ne {u : ResourceUri} (h : u.query ≠ []) : u.queryParts isSep ≠ [] := by
  rw [ResourceUri.queryParts, if_neg h]
  simp

include hlib

section

variable (m : OutgoingMessage) (hsplit : ∀ u, m.uri = some u → SplitsUri lib isSep u)
  (hfits : ∀ u, m.uri = some u → FitsUriBuffer isSep u)
include hfits hsplit

lemma uriOptlist_eq : uriOptlist lib m.info = .ok (insertAll [] (uriNodes isSep m.uri)) := by
  cases huri : m.uri with
  | none =>
    simp only [uriOptlist, OutgoingMessage.info, huri, Option.map_none]
    rfl
  | some u =>
    have hs := hsplit u huri
    have hf := hfits u huri
    have hlen : ¬PduOptions.caMaxUriLength < u.text.length := by
      have := m.uri_length u huri
      omega
    have hpath : Segments.prefixed slash u.path ≠ [] := by
      obtain ⟨seg, rest, hcons⟩ := exists_cons_of_ne_nil hf.path_ne
      rw [hcons, Segments.prefixed_cons]
      simp
    have hpathParts := caParseUriPartial_ok hlib (.inl rfl) hpath hf.path_ne hf.path
      (by rw [if_pos rfl]; exact hs.path hf.path) []
    simp only [uriOptlist, OutgoingMessage.info, huri, Option.map_some]
    rw [if_neg hlen, caParseURI, hs.uri]
    simp only [ne_eq, not_true_eq_false, if_false, bind, Except.bind, hpath, not_false_eq_true,
      if_true, hpathParts]
    rw [uriNodes]
    by_cases hquery : u.query = []
    · simp [hquery, ResourceUri.queryParts]
    rw [if_pos hquery, insertAll_append]
    exact caParseUriPartial_ok hlib (.inr rfl) hquery (queryParts_ne hquery) hf.query
      (by rw [if_neg (by decide)]; exact hs.query hf.query) _

lemma optlist_eq :
    (do
      let optlist ← uriOptlist lib m.info
      caParseHeadOption lib m.info optlist : Except Refusal (List CoapOption))
      = .ok (m.optlist lib isSep) := by
  have hhead : ∀ opt ∈ m.info.options, isHandledElsewhere opt.type = false := by
    intro opt hopt
    have hreserved := (m.isHeader opt hopt).2.1
    simp only [isReservedOption, isFilteredOption, isFormatOption, Bool.or_eq_false_iff]
      at hreserved
    simp only [isHandledElsewhere, Bool.or_eq_false_iff]
    tauto
  rw [uriOptlist_eq hlib m hsplit hfits]
  simp only [bind, Except.bind, caParseHeadOption]
  rw [headOptionLoop_ok hlib hhead]
  simp only
  rw [formatHeadOption_eq hlib (by rfl) (.inr rfl), formatHeadOption_eq hlib (by rfl) (.inl rfl),
    ← insertAll_append, ← insertAll_append, ← insertAll_append, insertAll_eq_sortBy,
    ← append_assoc, ← append_assoc]
  rfl

end

/-! ## 3. Sizes -/

omit hlib in
lemma length_le_of_mem_parts {parts : List (List UInt8)} {part : List UInt8}
    (hpart : part ∈ parts) : part.length ≤ partsSize parts := by
  induction parts with
  | nil => simp at hpart
  | cons part' parts ih =>
    rw [partsSize, map_cons, sum_cons, ← partsSize, optionSize]
    rcases mem_cons.mp hpart with rfl | hpart
    · omega
    have := ih hpart
    omega

def IsNode (node : CoapOption) : Prop :=
  node.type ≤ 65535 ∧ node.value.length ≤ caMaxHeaderOptionDataLength

lemma isNode_format {formatOption versionOption : Nat} (hformat : formatOption ≤ 65535)
    (hversion : versionOption ≤ 65535) (format : CAPayloadFormat) (version : UInt16) :
    ∀ node ∈ formatNodes lib formatOption format versionOption version, IsNode node := by
  have hnumber : IsNode (caCreateNewOptionNode lib versionOption
      (lib.encodeVarBytes version.toNat)) := by
    refine ⟨by rw [type_node]; exact hversion, ?_⟩
    have hle := length_node_le hlib versionOption (lib.encodeVarBytes version.toNat)
    have hlt := version.toNat_lt
    have hmin : (minimalBytes version.toNat).length ≤ 2 := by
      rw [minimalBytes, length_map, length_reverse]
      exact (Nat.digits_length_le_iff (by decide) _).mpr hlt
    rw [hlib.encodeVarBytes _ (by unfold uintMax; omega)] at hle
    unfold caMaxHeaderOptionDataLength
    rw [hlib.encodeVarBytes _ (by unfold uintMax; omega)]
    omega
  intro node hnode
  cases format with
  | applicationCbor =>
    rw [formatNodes, mem_singleton] at hnode
    rw [hnode]
    exact ⟨hformat, by simp [caMaxHeaderOptionDataLength]⟩
  | applicationVndOcfCbor =>
    rw [formatNodes, mem_cons, mem_singleton] at hnode
    rcases hnode with rfl | rfl
    · exact ⟨hformat, by simp [caMaxHeaderOptionDataLength]⟩
    · exact hnumber
  | _ => exact absurd hnode not_mem_nil

lemma isNode_of_mem (m : OutgoingMessage) (hfits : ∀ u, m.uri = some u → FitsUriBuffer isSep u) :
    ∀ node ∈ m.optlist lib isSep, IsNode node := by
  intro node hnode
  have hmem : node ∈ m.nodes lib isSep := (StableOrder.sortBy_perm _).mem_iff.mp hnode
  simp only [OutgoingMessage.nodes, mem_append] at hmem
  rcases hmem with ((huri | hhead) | hpayload) | haccept
  · cases hu : m.uri with
    | none =>
      rw [hu] at huri
      exact absurd huri not_mem_nil
    | some u =>
      have hf := hfits u hu
      rw [hu, uriNodes, mem_append, mem_map, mem_map] at huri
      have hmax : PduOptions.caMaxUriLength ≤ caMaxHeaderOptionDataLength := by decide
      have hpathNumber : optUriPath ≤ 65535 := by decide
      have hqueryNumber : optUriQuery ≤ 65535 := by decide
      rcases huri with ⟨part, hpart, rfl⟩ | ⟨part, hpart, rfl⟩
      · exact ⟨hpathNumber, ((length_le_of_mem_parts hpart).trans hf.path).trans hmax⟩
      · exact ⟨hqueryNumber, ((length_le_of_mem_parts hpart).trans hf.query).trans hmax⟩
  · rw [headNodes, mem_map] at hhead
    obtain ⟨opt, hopt, rfl⟩ := hhead
    have hheader := m.isHeader opt hopt
    refine ⟨by rw [type_node]; exact hheader.1, ?_⟩
    exact (length_node_le hlib opt.type opt.value).trans hheader.2.2.2
  · exact isNode_format hlib (by decide) (by decide) _ _ node hpayload
  · exact isNode_format hlib (by decide) (by decide) _ _ node haccept

omit hlib in
lemma pairwise_optlist (m : OutgoingMessage) :
    (m.optlist lib isSep).Pairwise (fun a b => a.type ≤ b.type) :=
  StableOrder.pairwise_sortBy _

def pairs (opts : List CoapOption) : List (Nat × List UInt8) :=
  opts.map (fun opt => (opt.type, opt.value))

lemma optionsLength_eq {opts : List CoapOption} {prev : Nat} (msgLength : Nat)
    (hordered : opts.Pairwise (fun a b => a.type ≤ b.type)) (hafter : ∀ opt ∈ opts, prev ≤ opt.type)
    (hnode : ∀ opt ∈ opts, IsNode opt) :
    optionsLength lib prev msgLength opts
      = some (msgLength + (encodeOptions prev (pairs opts)).length) := by
  induction opts generalizing prev msgLength with
  | nil => rfl
  | cons opt opts ih =>
    rw [pairwise_cons] at hordered
    rw [forall_mem_cons] at hnode hafter
    have hmax : opt.value.length ≤ maxExtended :=
      hnode.1.2.trans (by decide)
    have hnumber := hnode.1.1
    have hsize := hlib.optHeaderLength (opt.type - prev) opt.value.length (by omega) hmax
    have hpos : optionSize (opt.type - prev) opt.value.length ≠ 0 := by
      unfold optionSize
      omega
    rw [optionsLength, if_neg (Nat.not_lt.mpr hafter.1)]
    simp only [hsize, if_neg hpos]
    rw [ih _ hordered.2 hordered.1 hnode.2]
    simp [pairs, encodeOptions, CoapWire.length_encodeOption, Nat.add_assoc]

/-! ## 4. Building the PDU -/

omit hlib in
lemma used_of_payload_nil {p : PduParts} (h : p.message.payload = []) :
    lib.used p = lib.headerLength p.transport + p.message.token.length
      + (encodeOptions 0 p.message.options).length := by
  rw [Libcoap.used, CoapWire.Message.body, h, encodePayload, if_pos rfl, append_nil]

omit hlib in
lemma used_addOptions {p : PduParts} (opts : List (Nat × List UInt8)) (h : p.message.payload = []) :
    lib.used (p.addOptions opts) = lib.used p
        + (encodeOptions (lastNumber 0 p.message.options) opts).length := by
  have h' : (p.addOptions opts).message.payload = [] := h
  rw [used_of_payload_nil h', used_of_payload_nil h]
  simp only [PduParts.addOptions, CoapWire.encodeOptions_append, length_append]
  omega

omit hlib in
lemma addOptions_addOptions (p : PduParts) (opts opts' : List (Nat × List UInt8)) :
    (p.addOptions opts).addOptions opts' = p.addOptions (opts ++ opts') := by
  simp [PduParts.addOptions]

lemma addOptionsLoop_ok {opts : List CoapOption} {buf : lib.Buf} {p : PduParts}
    (hbuf : Holds buf p) (hpayload : p.message.payload = [])
    (hordered : opts.Pairwise (fun a b => a.type ≤ b.type))
    (hafter : ∀ opt ∈ opts, lastNumber 0 p.message.options ≤ opt.type)
    (hnode : ∀ opt ∈ opts, IsNode opt) (hroom : lib.used (p.addOptions (pairs opts)) ≤ p.size) :
    ∃ buf', addOptionsLoop lib p.transport opts buf = some buf'
      ∧ Holds buf' (p.addOptions (pairs opts)) := by
  induction opts generalizing buf p with
  | nil =>
    refine ⟨buf, rfl, ?_⟩
    rw [pairs, map_nil, PduParts.addOptions, append_nil]
    exact hbuf
  | cons opt opts ih =>
    rw [pairwise_cons] at hordered
    rw [forall_mem_cons] at hnode hafter
    have hmax : opt.value.length ≤ maxExtended := hnode.1.2.trans (by decide)
    have hcons : p.addOptions (pairs (opt :: opts))
        = (p.addOptions [(opt.type, opt.value)]).addOptions (pairs opts) := by
      rw [addOptions_addOptions]
      rfl
    have hone := @used_addOptions lib p [(opt.type, opt.value)] hpayload
    have hpayload' : (p.addOptions [(opt.type, opt.value)]).message.payload = [] := hpayload
    have hmore := @used_addOptions lib (p.addOptions [(opt.type, opt.value)]) (pairs opts) hpayload'
    rw [encodeOptions, encodeOptions, append_nil, CoapWire.length_encodeOption] at hone
    dsimp only at hone
    have hlast : lastNumber 0
        (p.addOptions [(opt.type, opt.value)]).message.options = opt.type := by
      rw [PduParts.addOptions, CoapWire.lastNumber_append]
      rfl
    rw [hcons] at hroom ⊢
    obtain ⟨buf', hadd, hbuf'⟩ := hlib.addOption buf p opt.type opt.value hbuf hpayload hafter.1
      hnode.1.1 hmax (by omega)
    obtain ⟨buf'', hloop, hbuf''⟩ := ih hbuf' hpayload' hordered.2
      (by rw [hlast]; exact hordered.1) hnode.2 hroom
    refine ⟨buf'', ?_, hbuf''⟩
    rw [addOptionsLoop, hadd]
    exact hloop

omit hlib in
lemma msgLength_eq (opts : List (Nat × List UInt8)) (payload : List UInt8) :
    (if payload.length > 0 then
        (encodeOptions 0 opts).length + payload.length + payloadMarker
      else (encodeOptions 0 opts).length)
      = (encodeOptions 0 opts ++ encodePayload payload).length := by
  rw [length_append, encodePayload]
  by_cases hpayload : payload = []
  · simp [hpayload]
  have hpos : payload.length > 0 := length_pos_iff.mpr hpayload
  rw [if_neg hpayload, if_pos hpos, length_cons, payloadMarker]
  omega

lemma bytes_of_parts {buf : lib.Buf} {p : PduParts} {message : CoapWire.Message}
    (hbuf : Holds buf p) (hmessage : p.message = message)
    (htransport : p.transport = lib.headerTypeFromSize message.body.length)
    (hlength : p.length = message.body.length)
    (hused : lib.headerLength (lib.headerTypeFromSize message.body.length) + message.token.length
      + message.body.length ≤ uintMax) :
    lib.bytes buf = encode message := by
  rw [← hmessage] at htransport hlength hused ⊢
  apply hlib.bytes buf p hbuf htransport hlength
  rw [Libcoap.used, htransport]
  exact hused

lemma caGeneratePDUImpl_ok (m : OutgoingMessage)
    (hfits : ∀ u, m.uri = some u → FitsUriBuffer isSep u)
    (htotal : (encode (m.wire lib isSep)).length ≤ uintMax) :
    ∃ buf, caGeneratePDUImpl lib m.code m.info (m.optlist lib isSep) = some buf
      ∧ lib.bytes buf = encode (m.wire lib isSep) := by
  obtain ⟨body, hbody⟩ : ∃ n, n = (m.wire lib isSep).body.length := ⟨_, rfl⟩
  have hwire : (m.wire lib isSep).body = encodeOptions 0 (pairs (m.optlist lib isSep))
        ++ encodePayload m.payload := rfl
  have hmsg := msgLength_eq (pairs (m.optlist lib isSep)) m.payload
  rw [← hwire, ← hbody] at hmsg
  rw [CoapWire.length_encode, ← hbody] at htotal
  have htoken : (m.wire lib isSep).token = m.token := rfl
  rw [htoken] at htotal
  have hsmall : body ≤ uintMax := by omega
  have hheader := hlib.headerLength body hsmall
  have hunsigned : toUnsigned body = body := by
    unfold toUnsigned
    unfold uintMax at hsmall
    omega
  have hpayload : ¬m.payload.length > uintMax := by
    have hle : m.payload.length ≤ body := by
      rw [hbody, hwire, length_append, encodePayload]
      split_ifs with hnil
      · rw [hnil, length_nil]
        omega
      · rw [length_cons]
        omega
    omega
  have hcount := optionsLength_eq hlib 0 (pairwise_optlist m) (fun _ _ => Nat.zero_le _)
    (isNode_of_mem hlib m hfits)
  rw [Nat.zero_add] at hcount
  -- the PDU after each of the steps before the options
  obtain ⟨buf₀, hinit, h₀⟩ := hlib.pduInit
    (body + lib.headerLength (lib.headerTypeFromSize body) + m.token.length)
    (lib.headerTypeFromSize body)
  have h₁ := hlib.addLength _ _ body h₀
  have h₂ := hlib.addCode _ _ m.code h₁
  have h₃ := hlib.addToken _ _ m.token h₂ rfl rfl rfl m.token_length.2 (by
    simp only [Libcoap.used, CoapWire.Message.body, encodeOptions,
      encodePayload, if_true, append_nil, length_nil]
    omega)
  obtain ⟨buf₄, hloop, h₄⟩ := addOptionsLoop_ok hlib h₃ rfl (pairwise_optlist m)
    (fun _ _ => Nat.zero_le _) (isNode_of_mem hlib m hfits) (by
      rw [used_addOptions _ rfl]
      simp only [Libcoap.used, CoapWire.Message.body, encodeOptions,
        encodePayload, if_true, append_nil, length_nil, lastNumber]
      rw [hbody, hwire, length_append]
      omega)
  have htokenne : m.token ≠ [] ∧ m.code ≠ caEmpty := by
    refine ⟨fun h => ?_, m.isCode.1⟩
    have hlen := m.token_length.1
    rw [h] at hlen
    simp at hlen
  have hinfo : m.info.payload = m.payload ∧ m.info.token = m.token := ⟨rfl, rfl⟩
  refine ⟨if m.payload.length > 0 then lib.addData buf₄ m.payload else buf₄, ?_, ?_⟩
  · rw [caGeneratePDUImpl, hinfo.1, hinfo.2, if_neg hpayload, hcount]
    simp only [Option.bind_eq_bind, Option.bind_some, hmsg, hunsigned, hinit, if_pos htokenne]
    dsimp only at hloop
    rw [hloop]
    rfl
  · have hused : lib.headerLength (lib.headerTypeFromSize (m.wire lib isSep).body.length)
        + (m.wire lib isSep).token.length + (m.wire lib isSep).body.length ≤ uintMax := by
      rw [← hbody, htoken]
      omega
    split_ifs with hpos
    · have hne : m.payload ≠ [] := length_pos_iff.mp hpos
      have hlen : (encodePayload m.payload).length = m.payload.length + 1 := by
        rw [encodePayload, if_neg hne, length_cons]
      have h₅ := hlib.addData _ _ m.payload h₄ rfl hne (by
        rw [used_addOptions _ rfl]
        simp only [Libcoap.used, CoapWire.Message.body, encodeOptions, PduParts.addOptions,
          encodePayload, if_true, append_nil, length_nil, lastNumber]
        rw [hbody, hwire, length_append, hlen]
        omega)
      exact bytes_of_parts hlib h₅ rfl (congrArg lib.headerTypeFromSize hbody) hbody hused
    · have hnil : m.payload = [] := length_eq_zero_iff.mp (by omega)
      apply bytes_of_parts hlib h₄ _ (congrArg lib.headerTypeFromSize hbody) hbody hused
      rw [OutgoingMessage.wire, hnil]
      rfl

end Encode

end Iochibity.Coap.PduCodec

namespace Iochibity.Coap.PduOptions

variable {lib : LibCoap} {opt : CoapOption}

def Carries (lib : LibCoap) (opt : CoapOption) (entry : CAHeaderOption) : Prop :=
  entry.protocolID = caCoapId ∧ entry.optionID = opt.type
    ∧ (entry.optionData.take entry.optionLength = opt.value
      ∨ (opt.value = [] ∧ lib.isVarBytes opt.type = true
        ∧ entry.optionData.take entry.optionLength = [0]))

/-- The list is what the PDU carries: `numOptions` entries, each for an accepted
option, in the order of the PDU. -/
structure ListIntact (lib : LibCoap) (pdu : Pdu) (info : PduInfo) : Prop where
  numOptions : info.numOptions = (acceptedOptions lib pdu.options).length
  entries : List.Forall₂ (Carries lib) (acceptedOptions lib pdu.options) info.options

def OptionsFaithful (lib : LibCoap) (gChproxyUri : List UInt8) (tcp : Bool) (pdu : Pdu) : Prop :=
  ∀ code info, caGetInfoFromPDU lib gChproxyUri tcp pdu = .ok code info → ListIntact lib pdu info

lemma optionBytes_cases (h : optionBytes lib opt ≠ []) :
    optionBytes lib opt = opt.value
      ∨ (opt.value = [] ∧ lib.isVarBytes opt.type = true ∧ optionBytes lib opt = [0]) := by
  unfold optionBytes caGetOptionData at h ⊢
  split at h
  · exact absurd rfl h
  split at h
  · exact absurd rfl h
  rename_i h0 hlen
  rw [if_neg h0, if_neg hlen]
  split
  · rename_i hempty
    simp only [Bool.and_eq_true, beq_iff_eq, List.length_eq_zero_iff] at hempty
    exact .inr ⟨hempty.2, hempty.1, rfl⟩
  · exact .inl rfl

lemma take_headerEntry (type : Nat) (buf : List UInt8) :
    (headerEntry type buf).optionData.take (headerEntry type buf).optionLength = buf := by
  have htake := @Buffer.take_splice _ CAHeaderOption.zero.optionData buf 0 (Nat.zero_le _)
  rw [Nat.zero_add, List.take_zero, List.nil_append] at htake
  exact htake

lemma carries_entryOf (h : isStorable lib opt = true) :
    Carries lib opt (entryOf lib opt) := by
  simp only [isStorable, Bool.and_eq_true, Bool.not_eq_true', decide_eq_true_eq,
    List.isEmpty_eq_false_iff] at h
  refine ⟨rfl, rfl, ?_⟩
  rw [entryOf, take_headerEntry]
  exact optionBytes_cases h.1

lemma acceptedOptions_eq_iff (lib : LibCoap) (opts : List CoapOption) :
    (acceptedOptions lib opts).length = (userOptions opts).length
      ↔ ∀ opt ∈ userOptions opts, isStorable lib opt = true := by
  rw [acceptedOptions, List.length_filter_eq_length_iff]

lemma forall_carries (lib : LibCoap) (opts : List CoapOption) :
    List.Forall₂ (Carries lib) (acceptedOptions lib opts)
      ((acceptedOptions lib opts).map (entryOf lib)) := by
  rw [List.forall₂_map_right_iff, List.forall₂_same]
  intro opt hopt
  exact carries_entryOf (List.mem_filter.mp hopt).2

lemma optionsFaithful_of_ok {gChproxyUri : List UInt8} {tcp : Bool} {pdu : Pdu}
    (hcount : (userOptions pdu.options).length ≤ uint8Max)
    (huri : uriLength (uriSegments lib pdu.options) < caMaxUriLength) :
    OptionsFaithful lib gChproxyUri tcp pdu
      ↔ ∀ opt ∈ userOptions pdu.options, isStorable lib opt = true := by
  obtain ⟨info, hok, hnum, hoptions, -⟩ := caGetInfoFromPDU_ok gChproxyUri tcp hcount huri
  rw [← acceptedOptions_eq_iff]
  constructor
  · intro h
    rw [← (h _ info hok).numOptions, hnum]
  · intro hall code info' hok'
    rw [hok, PduResult.ok.injEq] at hok'
    obtain ⟨-, rfl⟩ := hok'
    constructor
    · rw [hnum, hall]
    · rw [hoptions, hall, Nat.sub_self, List.replicate_zero, List.append_nil]
      exact forall_carries lib pdu.options

/-- The table of libcoap as far as the examples go: Uri-Port, Content-Format,
Max-Age and Accept hold unsigned integers. -/
def libExample : LibCoap where
  isVarBytes key := key == optUriPort || key == optContentFormat || key == optMaxage
    || key == optAccept
  decodeVarBytes bytes := bytes.foldl (fun n b => 256 * n + b.toNat) 0

def ifNoneMatchPdu : Pdu where
  type := .confirm
  id := 1
  code := caPost
  options := [⟨5, []⟩]
  ordered := List.pairwise_singleton _ _
  token := []
  data := none

end Iochibity.Coap.PduOptions

namespace Iochibity.Coap.PduCodec

open PduOptions
open Option (getD_some map_some)

/-! ## 1. Notes -/

section Notes

variable {lib : PduOptions.LibCoap} {count : Nat}

structure NotedBy {γ : Type} (lib : PduOptions.LibCoap) (count key : Nat) (proj : FillState → γ)
    (val : CoapOption → γ) : Prop where
  other : ∀ st opt, opt.type ≠ key → proj (collectStep lib count st opt) = proj st
  taken : ∀ st opt, opt.type = key → optionBytes lib opt ≠ [] →
    proj (collectStep lib count st opt) = val opt

variable {γ : Type} {key : Nat} {val : CoapOption → γ} {opts : List CoapOption}

lemma NotedBy.absent {proj : FillState → γ} (h : NotedBy lib count key proj val) (st : FillState)
    (hnone : StableOrder.level CoapOption.type key opts = []) :
    proj (opts.foldl (collectStep lib count) st) = proj st := by
  induction opts generalizing st with
  | nil => rfl
  | cons opt opts ih =>
    rw [StableOrder.level_cons] at hnone
    split_ifs at hnone with hkey
    rw [List.foldl_cons, ih _ hnone, h.other st opt hkey]

lemma NotedBy.single {proj : FillState → γ} (h : NotedBy lib count key proj val) (st : FillState)
    (hone : StableOrder.level CoapOption.type key opts = [opt])
    (hbytes : optionBytes lib opt ≠ []) :
    proj (opts.foldl (collectStep lib count) st) = val opt := by
  induction opts generalizing st with
  | nil => exact absurd hone (by simp [StableOrder.level])
  | cons opt' opts ih =>
    rw [StableOrder.level_cons] at hone
    rw [List.foldl_cons]
    split_ifs at hone with hkey
    · rw [List.cons.injEq] at hone
      obtain ⟨rfl, hrest⟩ := hone
      rw [h.absent _ hrest, h.taken st opt' hkey hbytes]
    · exact ih _ hone

/-- What the four options leave in `outInfo`. -/
def notes (st : FillState) : (CAPayloadFormat × Nat) × CAPayloadFormat × Nat :=
  ((st.info.payloadFormat, st.info.payloadVersion), st.info.acceptFormat, st.info.acceptVersion)

lemma notes_storeOption (type : Nat) (buf : List UInt8) (st : FillState) :
    notes (storeOption count type buf st) = notes st := by
  unfold storeOption
  split_ifs <;> rfl

lemma notes_collectStep (st : FillState) (opt : CoapOption) :
    notes (collectStep lib count st opt)
      = if (optionBytes lib opt).isEmpty || isFilteredOption opt.type then notes st
        else notes (noteOption lib opt (optionBytes lib opt) st) := by
  unfold collectStep
  split_ifs
  · rfl
  · exact notes_storeOption _ _ _

lemma notes_noteOption (opt : CoapOption) (buf : List UInt8) (st : FillState) :
    notes (noteOption lib opt buf st)
      = ((if opt.type = optContentFormat then formatOf lib opt buf else st.info.payloadFormat,
          if opt.type = ocfContentFormatVersion then versionOf lib opt
          else st.info.payloadVersion),
        if opt.type = optAccept then formatOf lib opt buf else st.info.acceptFormat,
        if opt.type = ocfAcceptContentFormatVersion then versionOf lib opt
        else st.info.acceptVersion) := by
  unfold noteOption
  split_ifs <;> simp_all [notes, optContentFormat, optAccept, optProxyUri,
    ocfContentFormatVersion, ocfAcceptContentFormatVersion]

lemma notedBy_of_note {proj : (CAPayloadFormat × Nat) × CAPayloadFormat × Nat → γ}
    {read : CoapOption → List UInt8 → γ} (hkey : isFilteredOption key = false)
    (hnote : ∀ opt buf st, proj (notes (noteOption lib opt buf st))
      = if opt.type = key then read opt buf else proj (notes st)) :
    NotedBy lib count key (fun st => proj (notes st))
      (fun opt => read opt (optionBytes lib opt)) where
  other st opt h := by
    rw [notes_collectStep]
    split_ifs
    · rfl
    · rw [hnote, if_neg h]
  taken st opt h hbytes := by
    rw [notes_collectStep, h, hkey, Bool.or_false, if_neg (by simpa using hbytes), hnote, if_pos h]

lemma notedBy_payloadFormat :
    NotedBy lib count optContentFormat (fun st => (notes st).1.1)
      (fun opt => formatOf lib opt (optionBytes lib opt)) := by
  apply @notedBy_of_note lib count _ _ (·.1.1) (formatOf lib) rfl
  intro opt buf st
  rw [notes_noteOption]
  rfl

lemma notedBy_payloadVersion :
    NotedBy lib count ocfContentFormatVersion (fun st => (notes st).1.2) (versionOf lib) := by
  apply @notedBy_of_note lib count _ _ (·.1.2) (fun opt _ => versionOf lib opt) rfl
  intro opt buf st
  rw [notes_noteOption]
  rfl

lemma notedBy_acceptFormat :
    NotedBy lib count optAccept (fun st => (notes st).2.1)
      (fun opt => formatOf lib opt (optionBytes lib opt)) := by
  apply @notedBy_of_note lib count _ _ (·.2.1) (formatOf lib) rfl
  intro opt buf st
  rw [notes_noteOption]
  rfl

lemma notedBy_acceptVersion :
    NotedBy lib count ocfAcceptContentFormatVersion (fun st => (notes st).2.2) (versionOf lib) := by
  apply @notedBy_of_note lib count _ _ (·.2.2) (fun opt _ => versionOf lib opt) rfl
  intro opt buf st
  rw [notes_noteOption]
  rfl

end Notes

/-! ## 2. The nodes of each number -/

section Levels

variable {lib : Libcoap} {isSep : UInt8 → Bool} (m : OutgoingMessage)

lemma level_map_same (key : Nat) (parts : List (List UInt8)) :
    StableOrder.level CoapOption.type key (parts.map (fun part => (⟨key, part⟩ : CoapOption)))
      = parts.map (⟨key, ·⟩) := by
  rw [StableOrder.level, List.filter_eq_self, List.forall_mem_map]
  intro part _
  exact beq_self_eq_true key

variable {n : Nat}

lemma level_eq_nil {opts : List CoapOption} (h : ∀ opt ∈ opts, opt.type ≠ n) :
    StableOrder.level CoapOption.type n opts = [] := by
  rw [StableOrder.level, List.filter_eq_nil_iff]
  intro opt hopt
  rw [beq_iff_eq]
  exact h opt hopt

lemma level_headNodes (h : isReservedOption n = true) :
    StableOrder.level CoapOption.type n (headNodes lib m.options) = [] := by
  apply level_eq_nil
  intro node hnode hn
  rw [headNodes, List.mem_map] at hnode
  obtain ⟨opt, hopt, rfl⟩ := hnode
  rw [type_node] at hn
  have hfree := (m.isHeader opt hopt).2.1
  rw [hn, h] at hfree
  exact Bool.noConfusion hfree

variable {node : CoapOption}

lemma type_of_mem_uriNodes {uri : Option ResourceUri}
    (h : node ∈ uriNodes isSep uri) : isUriOption node.type = true := by
  cases uri with
  | none => exact absurd h List.not_mem_nil
  | some u =>
    rw [uriNodes, List.mem_append, List.mem_map, List.mem_map] at h
    rcases h with ⟨part, -, rfl⟩ | ⟨part, -, rfl⟩
    · rfl
    · rfl

lemma type_of_mem_formatNodes {formatOption versionOption : Nat} {format : CAPayloadFormat}
    {version : UInt16} (h : node ∈ formatNodes lib formatOption format versionOption version) :
    node.type = formatOption ∨ node.type = versionOption := by
  cases format with
  | applicationCbor =>
    rw [formatNodes, List.mem_singleton] at h
    exact .inl (by rw [h])
  | applicationVndOcfCbor =>
    rw [formatNodes, List.mem_cons, List.mem_singleton] at h
    rcases h with rfl | rfl
    · exact .inl rfl
    · exact .inr (type_node _ _)
  | _ => exact absurd h List.not_mem_nil

lemma level_optlist (n : Nat) :
    StableOrder.level CoapOption.type n (m.optlist lib isSep)
      = StableOrder.level CoapOption.type n (uriNodes isSep m.uri)
        ++ StableOrder.level CoapOption.type n (headNodes lib m.options)
        ++ StableOrder.level CoapOption.type n (formatNodes lib optContentFormat m.payloadFormat
          ocfContentFormatVersion m.payloadVersion)
        ++ StableOrder.level CoapOption.type n (formatNodes lib optAccept m.acceptFormat
          ocfAcceptContentFormatVersion m.acceptVersion) := by
  rw [OutgoingMessage.optlist, StableOrder.level_sortBy, OutgoingMessage.nodes,
    StableOrder.level_append, StableOrder.level_append, StableOrder.level_append]

lemma level_uri (h : isUriOption n = true) :
    StableOrder.level CoapOption.type n (m.optlist lib isSep)
      = StableOrder.level CoapOption.type n (uriNodes isSep m.uri) := by
  have hreserved : isReservedOption n = true := by
    rw [isReservedOption, isFilteredOption_of_uri h, Bool.true_or, Bool.true_or]
  have hformat (formatOption versionOption : Nat) (format : CAPayloadFormat) (version : UInt16)
      (hne : formatOption ≠ n) (hne' : versionOption ≠ n) :
      StableOrder.level CoapOption.type n
        (formatNodes lib formatOption format versionOption version) = [] := by
    apply level_eq_nil
    intro node hnode hn
    rcases type_of_mem_formatNodes hnode with htype | htype
    · exact hne (htype.symm.trans hn)
    · exact hne' (htype.symm.trans hn)
  simp only [isUriOption, Bool.or_eq_true, beq_iff_eq] at h
  rw [level_optlist, level_headNodes m hreserved, List.append_nil]
  rcases h with rfl | rfl
  · rw [hformat _ _ _ _ (by decide) (by decide), hformat _ _ _ _ (by decide) (by decide),
      List.append_nil, List.append_nil]
  rw [hformat _ _ _ _ (by decide) (by decide), hformat _ _ _ _ (by decide) (by decide),
    List.append_nil, List.append_nil]

lemma pathSegments_optlist :
    pathSegments (m.optlist lib isSep) = (m.uri.map ResourceUri.path).getD [] := by
  have h := @level_uri lib isSep m optUriPath rfl
  rw [pathSegments]
  rw [StableOrder.level] at h
  rw [h]
  cases m.uri with
  | none => rfl
  | some u =>
    have hquery : StableOrder.level CoapOption.type optUriPath
        ((u.queryParts isSep).map (fun part => (⟨optUriQuery, part⟩ : CoapOption))) = [] := by
      apply level_eq_nil
      intro node hnode
      rw [List.mem_map] at hnode
      obtain ⟨part, -, rfl⟩ := hnode
      exact (by decide : optUriQuery ≠ optUriPath)
    rw [uriNodes, StableOrder.level_append, level_map_same, hquery, List.append_nil,
      List.map_map, map_some, getD_some]
    exact List.map_id _

lemma querySegments_optlist :
    querySegments (m.optlist lib isSep) = (m.uri.map (·.queryParts isSep)).getD [] := by
  have h := @level_uri lib isSep m optUriQuery rfl
  rw [querySegments]
  rw [StableOrder.level] at h
  rw [h]
  cases m.uri with
  | none => rfl
  | some u =>
    have hpath : StableOrder.level CoapOption.type optUriQuery
        (u.path.map (fun part => (⟨optUriPath, part⟩ : CoapOption))) = [] := by
      apply level_eq_nil
      intro node hnode
      rw [List.mem_map] at hnode
      obtain ⟨part, -, rfl⟩ := hnode
      exact (by decide : optUriPath ≠ optUriQuery)
    rw [uriNodes, StableOrder.level_append, level_map_same, hpath, List.nil_append,
      List.map_map, map_some, getD_some]
    exact List.map_id _

/-! ## 3. The URI -/

def ResourceUri.rejoined (isSep : UInt8 → Bool) (u : ResourceUri) : List UInt8 :=
  Segments.prefixed slash u.path ++ if u.query = [] then []
      else questionMark :: u.query.map (fun c => if isSep c then semicolon else c)

lemma queryText_queryParts (u : ResourceUri) :
    queryText (u.queryParts isSep) = if u.query = [] then []
        else questionMark :: u.query.map (fun c => if isSep c then semicolon else c) := by
  rw [ResourceUri.queryParts]
  split_ifs
  · rfl
  · obtain ⟨head, tail, hsplit, hjoin⟩ := Segments.join_splitOnP isSep semicolon u.query
    rw [hsplit, queryText, hjoin]

lemma wantedUri_optlist :
    wantedUri (m.optlist lib isSep) = (m.uri.map (ResourceUri.rejoined isSep)).getD [] := by
  rw [wantedUri, pathSegments_optlist, querySegments_optlist]
  cases m.uri with
  | none => rfl
  | some u =>
    simp only [map_some, getD_some]
    rw [queryText_queryParts]
    rfl

lemma length_rejoined (u : ResourceUri) : (u.rejoined isSep).length = u.text.length := by
  rw [ResourceUri.rejoined, ResourceUri.text]
  split_ifs
  · rfl
  · simp

lemma length_wantedUri_lt :
    (wantedUri (m.optlist lib isSep)).length < PduOptions.caMaxUriLength := by
  rw [wantedUri_optlist]
  cases huri : m.uri with
  | none => exact (by decide : ([] : List UInt8).length < PduOptions.caMaxUriLength)
  | some u =>
    rw [map_some, getD_some, length_rejoined]
    exact m.uri_length u huri

lemma queryParts_good (hsep : ∀ c, isSep c = true → isQuerySeparator c = true)
    (u : ResourceUri) : ∀ part ∈ u.queryParts isSep, part ≠ [] ∧ 0 ∉ part := by
  intro part hpart
  rw [ResourceUri.queryParts] at hpart
  split_ifs at hpart with hquery
  · simp at hpart
  · have hparts := u.query_parts hquery
    refine ⟨Segments.splitOnP_ne_nil_of_le hsep (fun p hp => (hparts p hp).1) part hpart, ?_⟩
    intro hnul
    have hmem := Segments.mem_of_mem_splitOnP hpart hnul
    rcases Segments.mem_splitOnP (p := isQuerySeparator) hmem with hzero | ⟨p, hp, hc⟩
    · exact absurd hzero (by decide)
    · exact ((hparts p hp).2 0 hc).1 rfl

lemma segments_good
    (hsep : ∀ u, m.uri = some u → ∀ c, isSep c = true → isQuerySeparator c = true) :
    ∀ seg ∈ pathSegments (m.optlist lib isSep) ++ querySegments (m.optlist lib isSep),
      seg ≠ [] ∧ 0 ∉ seg := by
  intro seg hseg
  rw [pathSegments_optlist, querySegments_optlist] at hseg
  cases huri : m.uri with
  | none =>
    rw [huri] at hseg
    simp at hseg
  | some u =>
    rw [huri, map_some, map_some, getD_some, getD_some, List.mem_append] at hseg
    rcases hseg with hseg | hseg
    · exact ⟨(u.path_parts seg hseg).1, fun hnul => ((u.path_parts seg hseg).2 0 hnul).1 rfl⟩
    · exact queryParts_good (hsep u huri) u seg hseg

lemma hasProxyUri_optlist : hasProxyUri lib.base (m.optlist lib isSep) = false := by
  rw [hasProxyUri, List.any_eq_false]
  intro node hnode hproxy
  rw [Bool.and_eq_true, beq_iff_eq] at hproxy
  have hlevel : node ∈ StableOrder.level CoapOption.type optProxyUri (m.optlist lib isSep) := by
    rw [StableOrder.level, List.mem_filter]
    exact ⟨hnode, by rw [hproxy.1]; exact beq_self_eq_true optProxyUri⟩
  rw [level_optlist, level_headNodes m (by rfl)] at hlevel
  simp only [List.mem_append, List.not_mem_nil, or_false] at hlevel
  rcases hlevel with (hmem | hmem) | hmem
  · have := type_of_mem_uriNodes (StableOrder.mem_of_mem_level hmem).1
    rw [hproxy.1] at this
    exact absurd this (by decide)
  · rcases type_of_mem_formatNodes (StableOrder.mem_of_mem_level hmem).1 with h | h
    · exact absurd (hproxy.1.symm.trans h) (by decide)
    · exact absurd (hproxy.1.symm.trans h) (by decide)
  · rcases type_of_mem_formatNodes (StableOrder.mem_of_mem_level hmem).1 with h | h
    · exact absurd (hproxy.1.symm.trans h) (by decide)
    · exact absurd (hproxy.1.symm.trans h) (by decide)

lemma uriOf_optlist (hstrings : lib.base.UriOptionsAreStrings)
    (hsep : ∀ u, m.uri = some u → ∀ c, isSep c = true → isQuerySeparator c = true)
    (gChproxyUri : List UInt8) (hpath : ∀ u, m.uri = some u → u.path ≠ []) :
    uriOf lib.base gChproxyUri (m.optlist lib isSep) = m.uri.map (ResourceUri.rejoined isSep) := by
  have hordered : (m.optlist lib isSep).Pairwise (fun a b => a.type ≤ b.type) :=
    pairwise_optlist m
  have hfit := @length_wantedUri_lt lib isSep m
  have hgood := @segments_good lib isSep m hsep
  have hsegs := uriSegments_of_nonempty hstrings hordered hfit (fun seg hseg => (hgood seg hseg).1)
  cases huri : m.uri with
  | none =>
    have hnil : uriSegments lib.base (m.optlist lib isSep) = [] := by
      rw [uriSegments_eq_nil_iff hstrings hordered hfit, pathSegments_optlist,
        querySegments_optlist, huri]
      simp
    rw [uriOf, if_neg (not_not.mpr hnil), hasProxyUri_optlist, Bool.false_and,
      if_neg Bool.false_ne_true]
    rfl
  | some u =>
    have hsegments : pathSegments (m.optlist lib isSep) ≠ [] := by
      rw [pathSegments_optlist, huri]
      exact hpath u huri
    have htext := uriText_eq_wantedUri hordered hsegments
    have hne : uriSegments lib.base (m.optlist lib isSep) ≠ [] := by
      intro hnil
      rw [uriSegments_eq_nil_iff hstrings hordered hfit] at hnil
      obtain ⟨seg, hseg⟩ := List.exists_mem_of_ne_nil _ hsegments
      have hmem := List.mem_append_left (querySegments (m.optlist lib isSep)) hseg
      exact (hgood seg hmem).1 (hnil seg hmem)
    have hnul : 0 ∉ wantedUri (m.optlist lib isSep) := by
      rw [nul_mem_wantedUri]
      rintro ⟨seg, hseg, hmem⟩
      exact (hgood seg hseg).2 hmem
    rw [uriOf, if_pos hne, hsegs, htext, (cstr_eq_self_iff _).mpr hnul, wantedUri_optlist, huri]
    rfl

end Levels

end Iochibity.Coap.PduCodec
