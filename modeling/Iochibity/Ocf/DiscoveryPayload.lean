/-
Discovery payloads as `application/vnd.ocf+cbor`, `ocpayloadconvert.c` and `ocpayloadparse.c`.

Allocations succeed.
-/
import Iochibity.Ocf.RepParse
import Iochibity.Lib.Decimal
import Iochibity.Lib.TextSearch

namespace Iochibity.Ocf.Links

open CborTree
open Coap (CString)
open Decimal (digit isDigit isDigit_print print)

section

/-- What `OCParseEndpointString` sets of an endpoint. -/
structure EndpointAddress where
  tps : CString
  addr : CString
  family : UInt32
  port : UInt16
  deriving DecidableEq

structure OCEndpointPayload where
  address : EndpointAddress
  pri : UInt16
  deriving DecidableEq

structure OCResourcePayload where
  uri : Option CString
  rel : Option CString
  anchor : Option CString
  types : List CString
  interfaces : List CString
  bitmap : UInt8
  eps : List OCEndpointPayload
  deriving DecidableEq

structure OCDiscoveryPayload where
  sid : Option CString
  name : Option CString
  type : List CString
  iface : List CString
  resources : List OCResourcePayload
  deriving DecidableEq

def discoveryPayloadCreate : OCDiscoveryPayload := ⟨none, none, [], [], []⟩

/-- `OCCreateEndpointString`, and `OCParseEndpointString` where it is `OC_STACK_OK`. -/
structure EndpointStrings where
  createEndpointString : OCEndpointPayload → Option CString
  parseEndpointString : CString → Option EndpointAddress

def ocRsrvdRel : CString := .const "rel"
def ocRsrvdUri : CString := .const "anchor"
def ocRsrvdPolicy : CString := .const "p"
def ocRsrvdBitmap : CString := .const "bm"
def ocRsrvdEndpoints : CString := .const "eps"
def ocRsrvdEndpoint : CString := .const "ep"
def ocRsrvdPriority : CString := .const "pri"
def ocRsrvdLinks : CString := .const "links"
def ocRsrvdDeviceName : CString := .const "n"

def maxUriLength : ℕ := 256

def anchorPrefix : CString := .const "ocf://"

/-! ## The encoder -/

def conditionalAddTextStringToMap (key : CString) (value : Option CString) : List RepEntry :=
  match value with
  | some value => [(key.bytes, textItem value)]
  | none => []

/-- The text of `snprintf(anchor, MAX_URI_LENGTH, "ocf://%s", sid)`. -/
def anchorText (sid : CString) : CString where
  bytes := anchorPrefix.bytes ++ sid.bytes
  noNul := fun h => (List.mem_append.mp h).elim anchorPrefix.noNul sid.noNul

/-- The anchor, if `snprintf` has room for all of it. -/
def anchorOf (sid : Option CString) : Option CString :=
  sid.bind fun sid =>
    if (anchorText sid).bytes.length < maxUriLength then some (anchorText sid) else none

variable (strings : EndpointStrings)

def convertEndpoint (endpoint : OCEndpointPayload) : Option RepItem :=
  (strings.createEndpointString endpoint).bind fun endpointStr =>
    closeMap 2 [(ocRsrvdEndpoint.bytes, textItem endpointStr),
      (ocRsrvdPriority.bytes, .int endpoint.pri.toNat)]

def convertEndpoints (eps : List OCEndpointPayload) : Option (List RepEntry) :=
  if 0 < eps.length then
    (eps.mapM (convertEndpoint strings)).bind fun items =>
      (closeArray eps.length items).map fun epsArray => [(ocRsrvdEndpoints.bytes, epsArray)]
  else some []

def policyMap (bitmap : UInt8) : RepItem :=
  .map (flatten [(ocRsrvdBitmap.bytes, .int bitmap.toNat)])

def convertLink (sid : Option CString) (resource : OCResourcePayload) : Option RepItem := do
  let uri ← resource.uri
  let anchor ← anchorOf sid
  let types ← stringLLJoin ocRsrvdResourceType resource.types
  let interfaces ← stringLLJoin ocRsrvdInterface resource.interfaces
  let eps ← convertEndpoints strings resource.eps
  return .map (flatten ([(ocRsrvdHref.bytes, textItem uri)]
    ++ conditionalAddTextStringToMap ocRsrvdRel resource.rel
    ++ [(ocRsrvdUri.bytes, textItem anchor)] ++ types ++ interfaces
    ++ [(ocRsrvdPolicy.bytes, policyMap resource.bitmap)] ++ eps))

def convertLinks (strings : EndpointStrings) : List OCDiscoveryPayload → Option (List RepItem)
  | [] => some []
  | payload :: rest =>
    if payload.resources = [] then some []
    else do
      let links ← payload.resources.mapM (convertLink strings payload.sid)
      let more ← convertLinks strings rest
      return links ++ more

variable (payload : OCDiscoveryPayload)

def isBaseline : Bool :=
  payload.name.isSome || !payload.type.isEmpty || !payload.iface.isEmpty

def convertDiscoveryPayloadVndOcfCbor (next : List OCDiscoveryPayload) : Option RepItem :=
  if isBaseline payload then do
    let types ← stringLLJoin ocRsrvdResourceType payload.type
    let interfaces ← stringLLJoin ocRsrvdInterface payload.iface
    let links ← convertLinks strings (payload :: next)
    return .array [.map (flatten (conditionalAddTextStringToMap ocRsrvdDeviceName payload.name
      ++ types ++ interfaces ++ [(ocRsrvdLinks.bytes, .array links)]))]
  else (convertLinks strings (payload :: next)).map .array

/-! ## The decoder -/

/-- `cbor_value_dup_text_string` of a value that must be a text. -/
def dupText : RepItem → Option CString
  | .text text => some (.ofBytes text)
  | _ => none

/-- `cbor_value_get_int` of a value that must be a number. -/
def getInt : RepItem → Option Int
  | .int n => some n
  | _ => none

def parsePriority (epMap : List RepItem) : Option UInt16 :=
  match mapFindValue ocRsrvdPriority.bytes epMap with
  | some value => (getInt value).map UInt16.ofInt
  | none => some 1

def parseEndpoint (epMap : List RepItem) :
    Option (List OCEndpointPayload) := do
  let value ← mapFindValue ocRsrvdEndpoint.bytes epMap
  let endpointStr ← dupText value
  match strings.parseEndpointString endpointStr with
  | some address => (parsePriority epMap).map fun pri => [⟨address, pri⟩]
  | none => some []

def parseEndpoints (strings : EndpointStrings) : List RepItem → Option (List OCEndpointPayload)
  | .map epMap :: rest => do
      let endpoint ← parseEndpoint strings epMap
      let more ← parseEndpoints strings rest
      return endpoint ++ more
  | _ => some []

variable (resourceMap : List RepItem)

def parseBitmap : Option UInt8 :=
  match mapFindValue ocRsrvdPolicy.bytes resourceMap with
  | some (.map policyMap) =>
    ((mapFindValue ocRsrvdBitmap.bytes policyMap).bind getInt).map UInt8.ofInt
  | _ => none

def parseRel : Option (Option CString) :=
  match mapFindValue ocRsrvdRel.bytes resourceMap with
  | some value => (dupText value).map some
  | none => some none

def parseEps : Option (List OCEndpointPayload) :=
  match mapFindValue ocRsrvdEndpoints.bytes resourceMap with
  | some (.array items) => parseEndpoints strings items
  | _ => some []

def parseResource :
    Option OCResourcePayload := do
  let uri ← (mapFindValue ocRsrvdHref.bytes resourceMap).bind dupText
  let rel ← parseRel resourceMap
  let bitmap ← parseBitmap resourceMap
  let eps ← parseEps strings resourceMap
  return {
    uri := some uri
    rel := rel
    anchor := (mapFindValue ocRsrvdUri.bytes resourceMap).bind dupText
    types := parseStringLL ocRsrvdResourceType resourceMap
    interfaces := parseStringLL ocRsrvdInterface resourceMap
    bitmap := bitmap
    eps := eps }

/-- The device id in an anchor: what is behind `ocf://`, up to a slash. -/
def anchorDevice (anchor : Option CString) : Option CString :=
  anchor.bind fun anchor =>
    if anchorPrefix.bytes <+: anchor.bytes then
      some {
        bytes := (anchor.bytes.drop anchorPrefix.bytes.length).takeWhile (· ≠ 0x2F)
        noNul := fun h => anchor.noNul
          (List.mem_of_mem_drop ((List.takeWhile_prefix _).subset h)) }
    else none

def addNewResource (di : CString) (resource : OCResourcePayload) : OCDiscoveryPayload :=
  { payload with sid := some di, resources := payload.resources ++ [resource] }

/-- The search for the device, `while (*temp)`: a payload without an id is taken. -/
def addToDevice (di : CString) (resource : OCResourcePayload) :
    List OCDiscoveryPayload → List OCDiscoveryPayload
  | [] => [addNewResource discoveryPayloadCreate di resource]
  | temp :: rest =>
    if temp.sid = none ∨ temp.sid = some di then addNewResource temp di resource :: rest
    else temp :: addToDevice di resource rest

def parseResources (strings : EndpointStrings) :
    List OCDiscoveryPayload → List RepItem → Option (List OCDiscoveryPayload)
  | outPayload, .map resourceMap :: rest =>
    (parseResource strings resourceMap).bind fun resource =>
      match anchorDevice resource.anchor with
      | some di => parseResources strings (addToDevice di resource outPayload) rest
      | none => parseResources strings outPayload rest
  | outPayload, _ => some outPayload

def parseName (rootMap : List RepItem) : Option CString :=
  (mapFindValue ocRsrvdDeviceName.bytes rootMap).bind dupText

def parseDiscoveryPayloadVndOcfCbor :
    RepItem → Option (List OCDiscoveryPayload)
  | .array (.map rootMap :: rest) =>
    match mapFindValue ocRsrvdLinks.bytes rootMap with
    | some (.array links) =>
      parseResources strings
        [{ discoveryPayloadCreate with
            name := parseName rootMap
            type := parseStringLL ocRsrvdResourceType rootMap
            iface := parseStringLL ocRsrvdInterface rootMap }] links
    | _ => parseResources strings [] (.map rootMap :: rest)
  | _ => none

def roundTrip (next : List OCDiscoveryPayload) : Option (List OCDiscoveryPayload) :=
  (convertDiscoveryPayloadVndOcfCbor strings payload next).bind
    (parseDiscoveryPayloadVndOcfCbor strings)

end

open List
open TextSearch (strstr strrchr strrchr_append strrchr_eq_some)
open Sec (scanInteger)

def securedSchemes : List CString := [.const "coaps", .const "coaps+tcp"]

def schemes (tcpAdapter : Bool) : List CString :=
  [.const "coap", .const "coaps"]
    ++ if tcpAdapter then [.const "coap+tcp", .const "coaps+tcp"] else []

def ocFlagSecure : UInt32 := 0x10
def ocIpUseV6 : UInt32 := 0x20
def ocIpUseV4 : UInt32 := 0x40

/-- `OC_ENDPOINT_TPS_TOKEN` -/
def tpsToken : List UInt8 := [0x3A, 0x2F, 0x2F]

def addrToken : UInt8 := 0x3A
def bracketStart : UInt8 := 0x5B
def bracketEnd : UInt8 := 0x5D

def maxAddrStrSize : ℕ := 66
def ocMaxTpsStrSize : ℕ := 12
def ocMaxAddrStrSize : ℕ := 46

def opening (bracketed : Bool) : List UInt8 := if bracketed then [bracketStart] else []
def closing (bracketed : Bool) : List UInt8 := if bracketed then [bracketEnd] else []

/-- The text in front of the port: only an address without `OC_IP_USE_V4` stands in brackets. -/
def hostText (endpoint : EndpointAddress) : List UInt8 :=
  endpoint.tps.bytes ++ tpsToken ++ opening (endpoint.family &&& ocIpUseV4 = 0)
    ++ endpoint.addr.bytes ++ closing (endpoint.family &&& ocIpUseV4 = 0)

def endpointText (endpoint : EndpointAddress) : List UInt8 :=
  hostText endpoint ++ addrToken :: print endpoint.port.toNat

def ocCreateEndpointString (tcpAdapter : Bool) (endpoint : EndpointAddress) : Option CString :=
  if endpoint.tps ∈ schemes tcpAdapter ∧ (endpointText endpoint).length < maxAddrStrSize then
    some (.ofBytes (endpointText endpoint))
  else none

inductive EndpointError
  | error
  | adapterNotEnabled
  deriving DecidableEq

def familyOf (bracketed : Bool) (tps : CString) : UInt32 :=
  (if bracketed then ocIpUseV6 else ocIpUseV4) ||| if tps ∈ securedSchemes then ocFlagSecure else 0

def ocParseEndpointString (tcpAdapter : Bool) (endpointStr : CString) :
    Except EndpointError EndpointAddress :=
  let origin := endpointStr.bytes
  let bracketed := decide (bracketStart ∈ origin)
  match strstr tpsToken origin with
  | none => .error .error
  | some tokPos =>
    let tpsCharsToWrite := origin.length - tokPos.length
    if tpsCharsToWrite < 1 ∨ ocMaxTpsStrSize ≤ tpsCharsToWrite then .error .error
    else
      let tps := CString.ofBytes (origin.take tpsCharsToWrite)
      if tps ∉ schemes tcpAdapter then .error .adapterNotEnabled
      else
        let start := tpsCharsToWrite + 3 + (opening bracketed).length
        match strrchr (if bracketed then bracketEnd else addrToken) origin,
            strrchr addrToken origin with
        | some (front, _), some (_, portText) =>
          -- a negative difference is more than the address holds
          if front.length ≤ start ∨ start + ocMaxAddrStrSize ≤ front.length then .error .error
          else
            let port := (scanInteger portText).getD 0
            if port < 1 ∨ 65535 < port then .error .error
            else .ok ⟨tps, .ofBytes (front.drop start), familyOf bracketed tps, UInt16.ofInt port⟩
        | _, _ => .error .error

structure Addressable (endpoint : EndpointAddress) : Prop where
  address : endpoint.addr.bytes ≠ [] ∧ endpoint.addr.bytes.length < ocMaxAddrStrSize
  brackets : bracketStart ∉ endpoint.addr.bytes ∧ bracketEnd ∉ endpoint.addr.bytes
  port : 0 < endpoint.port
  family : ∃ bracketed, endpoint.family = familyOf bracketed endpoint.tps

/-! ## What is accepted -/

/-- The offset behind the first `://`. -/
def hostOffset (origin : List UInt8) : ℕ :=
  origin.length - (((strstr tpsToken origin).getD []).drop 3).length

section Exact

variable (isIPv4 isIPv6 : List UInt8 → Prop)

/-- The string is what the endpoint is written as, up to leading zeros of the port, and the address
is one of its family. -/
structure WrittenAs (tcpAdapter : Bool) (origin : List UInt8) (endpoint : EndpointAddress) :
    Prop where
  text : ∃ zeros, origin = hostText endpoint ++ addrToken :: (List.replicate zeros 0x30
    ++ print endpoint.port.toNat)
  created : ocCreateEndpointString tcpAdapter endpoint = some (.ofBytes (endpointText endpoint))
  address : if endpoint.family &&& ocIpUseV4 = 0 then isIPv6 endpoint.addr.bytes
    else isIPv4 endpoint.addr.bytes

/-- What the parser does not look at: the port is digits only, brackets are at the ends of what
stands in front of it, and the rest of that is an address. -/
def Checked (origin : List UInt8) : Prop :=
  ∀ host port, strrchr addrToken origin = some (host, port) → (∀ c ∈ port, isDigit c = true)
      ∧ if bracketStart ∈ origin then
          (host.drop (hostOffset origin)).head? = some bracketStart
            ∧ (host.drop (hostOffset origin)).getLast? = some bracketEnd
            ∧ isIPv6 (host.drop (hostOffset origin)).tail.dropLast
        else isIPv4 (host.drop (hostOffset origin))

end Exact

section Reading

variable {tcpAdapter : Bool} {origin rest front behind host port : List UInt8}
  {endpoint : EndpointAddress}

lemma scheme_plain {tps : CString} (h : tps ∈ schemes tcpAdapter) :
    0 < tps.bytes.length ∧ tps.bytes.length ≤ 9 ∧ bracketStart ∉ tps.bytes
      ∧ ¬ tpsToken <:+: (tps.bytes ++ tpsToken).dropLast := by
  revert tps tcpAdapter
  decide

lemma ofBytes_of_notMem {bytes : List UInt8} (h : 0 ∉ bytes) :
    (CString.ofBytes bytes).bytes = bytes :=
  congrArg CString.bytes (CString.ofBytes_bytes ⟨bytes, h⟩)

lemma familyOf_v4 (bracketed : Bool) (tps : CString) :
    decide (familyOf bracketed tps &&& ocIpUseV4 = 0) = bracketed := by
  rw [familyOf]
  by_cases h : tps ∈ securedSchemes
  · rw [if_pos h]
    revert bracketed
    decide
  · rw [if_neg h]
    revert bracketed
    decide

lemma digit_plain {c : UInt8} (h : isDigit c = true) :
    Sec.isSpace c = false ∧ c ≠ 45 ∧ c ≠ 43 ∧ c ≠ addrToken ∧ c ≠ bracketStart ∧ c ≠ bracketEnd
      ∧ c ≠ 0 := by
  obtain ⟨hlt, hc⟩ := Decimal.digit_toNat h
  have hall : ∀ d < 10, Sec.isSpace (digit d) = false ∧ digit d ≠ 45
      ∧ digit d ≠ 43 ∧ digit d ≠ addrToken ∧ digit d ≠ bracketStart
      ∧ digit d ≠ bracketEnd ∧ digit d ≠ 0 := by decide
  exact hc ▸ hall _ hlt

lemma scanInteger_digits {digits : List UInt8} (hne : digits ≠ [])
    (h : ∀ c ∈ digits, isDigit c = true) :
    scanInteger digits = some (Decimal.value digits : ℤ) := by
  obtain ⟨c, more, rfl⟩ := exists_cons_of_ne_nil hne
  obtain ⟨hspace, hminus, hplus, -⟩ := digit_plain (h c mem_cons_self)
  have hall : (c :: more).takeWhile Sec.isDigit = c :: more := takeWhile_eq_self_iff.mpr h
  rw [scanInteger, dropWhile_cons_of_neg (by rw [hspace]; decide)]
  dsimp only
  split
  · rename_i heq
    exact absurd (List.cons.inj heq).1 hminus
  · rename_i heq
    exact absurd (List.cons.inj heq).1 hplus
  · simp only [hall]
    rfl

lemma toNat_portOf {port : ℤ} (h : 0 ≤ port ∧ port < 65536) :
    ((UInt16.ofInt port).toNat : ℤ) = port := by
  obtain ⟨n, rfl⟩ := Int.eq_ofNat_of_zero_le h.1
  simp [UInt16.ofInt]
  omega

structure Read (tcpAdapter : Bool) (origin : List UInt8) (endpoint : EndpointAddress)
    (rest front behind host port : List UInt8) : Prop where
  scheme : endpoint.tps ∈ schemes tcpAdapter
  text : origin = endpoint.tps.bytes ++ (tpsToken ++ rest)
  token : strstr tpsToken origin = some (tpsToken ++ rest)
  stop : strrchr (if bracketStart ∈ origin then bracketEnd else addrToken) origin
    = some (front, behind)
  last : strrchr addrToken origin = some (host, port)
  room : endpoint.tps.bytes.length + 3 + (opening (bracketStart ∈ origin)).length < front.length
    ∧ front.length < endpoint.tps.bytes.length + 3 + (opening (bracketStart ∈ origin)).length + 46
  address : endpoint.addr.bytes
    = front.drop (endpoint.tps.bytes.length + 3 + (opening (bracketStart ∈ origin)).length)
  family : endpoint.family = familyOf (bracketStart ∈ origin) endpoint.tps
  port : (scanInteger port).getD 0 = endpoint.port.toNat ∧ 0 < endpoint.port.toNat

lemma parse_iff {endpointStr : CString} :
    ocParseEndpointString tcpAdapter endpointStr = .ok endpoint ↔ ∃ rest front behind host port,
      Read tcpAdapter endpointStr.bytes endpoint rest front behind host port := by
  rw [ocParseEndpointString]
  dsimp only
  generalize horigin : endpointStr.bytes = origin
  have hnul : 0 ∉ origin := horigin ▸ endpointStr.noNul
  constructor
  · intro h
    cases htoken : strstr tpsToken origin with
    | none =>
      rw [htoken] at h
      cases h
    | some tokPos =>
      obtain ⟨⟨scheme, htext⟩, rest, rfl⟩ := TextSearch.strstr_eq_some htoken
      rw [htoken] at h
      dsimp only at h
      have hlength : origin.length - (tpsToken ++ rest).length = scheme.length := by
        rw [← htext, length_append]
        omega
      have htake : origin.take scheme.length = scheme := by
        rw [← htext, take_left]
      have htps : (CString.ofBytes scheme).bytes = scheme :=
        ofBytes_of_notMem (fun hin => hnul (htext ▸ mem_append_left _ hin))
      rw [hlength, htake] at h
      simp only [decide_eq_true_eq] at h
      generalize hclosing : (if bracketStart ∈ origin then bracketEnd else addrToken) = close at h
      split at h
      · cases h
      split at h
      · cases h
      rename_i hscheme
      split at h
      swap
      · cases h
      rename_i front behind host port hstop hlast
      split at h
      · cases h
      rename_i hroom
      split at h
      · cases h
      rename_i hport
      cases h
      subst hclosing
      have hfront : 0 ∉ front := fun hin =>
        hnul (strrchr_eq_some hstop ▸ mem_append_left _ hin)
      rw [ocMaxAddrStrSize] at hroom
      refine ⟨rest, front, behind, host, port, not_not.mp hscheme, by rw [htps, htext], htoken,
        hstop, hlast, ?_, ?_, rfl, ?_⟩
      · rw [htps]
        omega
      · rw [htps]
        exact ofBytes_of_notMem (fun hin => hfront (mem_of_mem_drop hin))
      · dsimp only
        generalize (scanInteger port).getD 0 = value at hport ⊢
        have hnat := @toNat_portOf value (by omega)
        omega
  · rintro ⟨rest, front, behind, host, port, hscheme, htext, htoken, hstop, hlast, hroom,
      haddress, hfamily, hport, hpos⟩
    obtain ⟨hlow, hhigh, -, -⟩ := scheme_plain hscheme
    have hlength : origin.length - (tpsToken ++ rest).length = endpoint.tps.bytes.length := by
      rw [htext, length_append]
      omega
    have htake : origin.take endpoint.tps.bytes.length = endpoint.tps.bytes := by
      rw [htext, take_left]
    have hbound := endpoint.port.toNat_lt
    have hvalue : UInt16.ofInt endpoint.port.toNat = endpoint.port := by
      rw [← UInt16.toNat_inj, ← Int.natCast_inj]
      exact toNat_portOf (by omega)
    rw [htoken]
    dsimp only
    rw [hlength, htake, CString.ofBytes_bytes, if_neg (by rw [ocMaxTpsStrSize]; omega),
      if_neg (not_not.mpr hscheme)]
    simp only [decide_eq_true_eq, hstop, hlast]
    rw [if_neg (by rw [ocMaxAddrStrSize]; omega), hport, if_neg (by omega), ← haddress,
      CString.ofBytes_bytes, ← hfamily, hvalue]

lemma length_print_le (port : UInt16) : (print port.toNat).length ≤ 5 := by
  have hbound := port.toNat_lt
  rw [print, length_map, Nat.length_toDigits_le_iff (by omega) (by omega)]
  omega

lemma isDigit_padded {zeros n : ℕ} :
    ∀ c ∈ List.replicate zeros 0x30 ++ print n, isDigit c = true := by
  rw [forall_mem_append]
  exact ⟨fun c hc => by rw [eq_of_mem_replicate hc]; rfl, isDigit_print n⟩

lemma notMem_digits {c : UInt8} (hc : isDigit c = false) {digits : List UInt8}
    (h : ∀ c ∈ digits, isDigit c = true) : c ∉ digits := by
  intro hin
  rw [h c hin] at hc
  cases hc

section Parts

variable (h : Read tcpAdapter origin endpoint rest front behind host port)
include h

lemma Read.created :
    ocCreateEndpointString tcpAdapter endpoint = some (.ofBytes (endpointText endpoint)) := by
  refine if_pos ⟨h.scheme, ?_⟩
  obtain ⟨-, hscheme, -, -⟩ := scheme_plain h.scheme
  have hport := length_print_le endpoint.port
  have haddress : endpoint.addr.bytes.length ≤ 45 := by
    obtain ⟨hlow, hhigh⟩ := h.room
    rw [h.address, length_drop]
    omega
  have hbrackets : ∀ bracketed, (opening bracketed).length ≤ 1
      ∧ (closing bracketed).length ≤ 1 := by
    decide
  have hclose := hbrackets (endpoint.family &&& ocIpUseV4 = 0)
  have htoken : tpsToken.length = 3 := rfl
  simp only [endpointText, hostText, maxAddrStrSize, length_append, length_cons]
  omega

lemma Read.family_eq :
    decide (endpoint.family &&& ocIpUseV4 = 0) = decide (bracketStart ∈ origin) := by
  rw [h.family, familyOf_v4]

lemma Read.text_iff :
    (∃ zeros, origin = hostText endpoint ++ addrToken :: (List.replicate zeros 0x30
        ++ print endpoint.port.toNat))
      ↔ host = hostText endpoint ∧ ∀ c ∈ port, isDigit c = true := by
  constructor
  · rintro ⟨zeros, htext⟩
    have hlast := h.last
    rw [htext, strrchr_append (notMem_digits (by decide) isDigit_padded)] at hlast
    cases hlast
    exact ⟨rfl, isDigit_padded⟩
  · rintro ⟨hhost, hdigits⟩
    obtain ⟨hport, hpos⟩ := h.port
    have hne : port ≠ [] := by
      intro hnil
      rw [hnil] at hport
      simp [scanInteger] at hport
      omega
    rw [scanInteger_digits hne hdigits, Option.getD_some, Int.natCast_inj] at hport
    obtain ⟨zeros, hzeros⟩ := (Decimal.zeros_print hdigits).2 (hport ▸ hpos)
    exact ⟨zeros, by rw [← hhost, ← hport, ← hzeros, strrchr_eq_some h.last]⟩

lemma Read.offset : hostOffset origin = endpoint.tps.bytes.length + 3 := by
  rw [hostOffset, h.token, h.text]
  simp [tpsToken]
  omega

lemma Read.host_eq (hlength : endpoint.tps.bytes.length + 3 ≤ host.length) :
    host = endpoint.tps.bytes ++ tpsToken ++ host.drop (endpoint.tps.bytes.length + 3) := by
  have htext : (endpoint.tps.bytes ++ tpsToken) ++ rest = host ++ addrToken :: port := by
    rw [← strrchr_eq_some h.last, h.text, append_assoc]
  have htake := congrArg (List.take (endpoint.tps.bytes.length + 3)) htext
  rw [take_left' (by simp [tpsToken]), take_append_of_le_length hlength] at htake
  rw [htake, take_append_drop]

lemma Read.plain (hplain : bracketStart ∉ origin) :
    host = hostText endpoint ∧ host.drop (hostOffset origin) = endpoint.addr.bytes := by
  have hstop := h.stop
  have hlow := h.room.1
  have haddress := h.address
  rw [if_neg hplain, h.last] at hstop
  cases hstop
  simp only [hplain, decide_false] at hlow haddress
  have hhost := h.host_eq (by omega)
  rw [h.offset, haddress]
  refine ⟨?_, rfl⟩
  rw [hostText, h.family_eq, decide_eq_false hplain, haddress]
  simpa [opening, closing] using hhost

lemma Read.bracketed (hbracket : bracketStart ∈ origin)
    (hdigits : ∀ c ∈ port, isDigit c = true) :
    (host = hostText endpoint ↔ (host.drop (hostOffset origin)).head? = some bracketStart
          ∧ (host.drop (hostOffset origin)).getLast? = some bracketEnd)
      ∧ (host = hostText endpoint →
        (host.drop (hostOffset origin)).tail.dropLast = endpoint.addr.bytes) := by
  have hoffset : hostOffset origin = (endpoint.tps.bytes ++ tpsToken).length := by
    rw [h.offset, length_append]
    rfl
  have htext : hostText endpoint = endpoint.tps.bytes ++ tpsToken
      ++ (bracketStart :: endpoint.addr.bytes ++ [bracketEnd]) := by
    simp [hostText, h.family_eq, hbracket, opening, closing]
  have hinside : host = hostText endpoint → host.drop (hostOffset origin)
      = bracketStart :: endpoint.addr.bytes ++ [bracketEnd] := by
    intro hhost
    rw [hhost, htext, hoffset, drop_left]
  refine ⟨⟨fun hhost => ?_, fun ⟨hopens, hcloses⟩ => ?_⟩, fun hhost => ?_⟩
  · rw [hinside hhost, List.getLast?_concat]
    exact ⟨rfl, rfl⟩
  · obtain ⟨more, hmore⟩ := List.getLast?_eq_some_iff.mp hcloses
    rw [hmore] at hopens
    cases more with
    | nil => exact absurd (Option.some.inj hopens) (by decide)
    | cons first inner =>
      cases hopens
      have hhost := h.host_eq (Nat.le_of_not_lt (fun hlt => by
        rw [h.offset, drop_eq_nil_of_le (by omega)] at hmore
        cases hmore))
      rw [← h.offset, hmore] at hhost
      have hnone : bracketEnd ∉ addrToken :: port := by
        rw [mem_cons, not_or]
        exact ⟨by decide, notMem_digits (by decide) hdigits⟩
      have horigin : origin = (endpoint.tps.bytes ++ tpsToken ++ bracketStart :: inner)
          ++ bracketEnd :: addrToken :: port := by
        rw [strrchr_eq_some h.last, hhost]
        simp
      have hstop := h.stop
      rw [if_pos hbracket, horigin, strrchr_append hnone] at hstop
      cases hstop
      have haddress := h.address
      rw [decide_eq_true hbracket, ← h.offset, hoffset, drop_append] at haddress
      rw [htext, haddress, hhost]
      simp [opening]
  · rw [hinside hhost]
    simp

end Parts

lemma writtenAs_iff {isIPv4 isIPv6 : List UInt8 → Prop}
    (h : Read tcpAdapter origin endpoint rest front behind host port) :
    WrittenAs isIPv4 isIPv6 tcpAdapter origin endpoint ↔ Checked isIPv4 isIPv6 origin := by
  have hchecked : Checked isIPv4 isIPv6 origin ↔ _ :=
    ⟨fun hall => hall host port h.last, fun hone host' port' hlast' => by
      cases h.last.symm.trans hlast'
      exact hone⟩
  rw [hchecked]
  have hfamily : endpoint.family &&& ocIpUseV4 = 0 ↔ bracketStart ∈ origin :=
    decide_eq_decide.mp h.family_eq
  constructor
  · rintro ⟨htext, -, haddress⟩
    obtain ⟨hsame, hdigits⟩ := h.text_iff.mp htext
    simp only [hfamily] at haddress
    refine ⟨hdigits, ?_⟩
    split
    · rename_i hbracket
      obtain ⟨hends, hinside⟩ := h.bracketed hbracket hdigits
      rw [if_pos hbracket, ← hinside hsame] at haddress
      exact ⟨(hends.mp hsame).1, (hends.mp hsame).2, haddress⟩
    · rename_i hplain
      rwa [if_neg hplain, ← (h.plain hplain).2] at haddress
  · rintro ⟨hdigits, haddress⟩
    by_cases hbracket : bracketStart ∈ origin
    · rw [if_pos hbracket] at haddress
      obtain ⟨hopens, hcloses, haddress⟩ := haddress
      obtain ⟨hends, hinside⟩ := h.bracketed hbracket hdigits
      have hsame := hends.mpr ⟨hopens, hcloses⟩
      refine ⟨h.text_iff.mpr ⟨hsame, hdigits⟩, h.created, ?_⟩
      rwa [if_pos (hfamily.mpr hbracket), ← hinside hsame]
    · rw [if_neg hbracket, (h.plain hbracket).2] at haddress
      refine ⟨h.text_iff.mpr ⟨(h.plain hbracket).1, hdigits⟩, h.created, ?_⟩
      rwa [if_neg (mt hfamily.mp hbracket)]

section Written

variable {bracketed : Bool} (hfamily : endpoint.family = familyOf bracketed endpoint.tps)
include hfamily

lemma hostText_of_family : hostText endpoint = endpoint.tps.bytes ++ tpsToken
    ++ opening bracketed ++ endpoint.addr.bytes ++ closing bracketed := by
  rw [hostText, hfamily, familyOf_v4]

lemma mem_endpointText (hscheme : endpoint.tps ∈ schemes tcpAdapter)
    (haddress : bracketStart ∉ endpoint.addr.bytes) :
    (bracketStart ∈ endpointText endpoint ↔ bracketed = true) ∧ 0 ∉ endpointText endpoint := by
  obtain ⟨-, -, hbare, -⟩ := scheme_plain hscheme
  have hdigits := isDigit_print endpoint.port.toNat
  have hnotMem : bracketStart ∉ tpsToken ∧ bracketStart ≠ addrToken
      ∧ bracketStart ∉ print endpoint.port.toNat ∧ 0 ∉ tpsToken ∧ (0 : UInt8) ≠ addrToken
      ∧ 0 ∉ print endpoint.port.toNat :=
    ⟨by decide, by decide, notMem_digits (by decide) hdigits, by decide, by decide,
      notMem_digits (by decide) hdigits⟩
  rw [endpointText, hostText_of_family hfamily]
  simp only [mem_append, mem_cons, hbare, haddress, hnotMem, endpoint.tps.noNul,
    endpoint.addr.noNul, or_false, false_or]
  clear hfamily
  revert bracketed
  decide

lemma strrchr_endpointText : ∃ behind,
    strrchr (if bracketed = true then bracketEnd else addrToken) (endpointText endpoint)
      = some (endpoint.tps.bytes ++ tpsToken ++ opening bracketed ++ endpoint.addr.bytes,
        behind) := by
  have hdigits := isDigit_print endpoint.port.toNat
  rw [endpointText, hostText_of_family hfamily]
  cases bracketed with
  | false =>
    rw [show closing false = [] from rfl, append_nil]
    exact ⟨_, strrchr_append (notMem_digits (by decide) hdigits) _⟩
  | true =>
    have hend : bracketEnd ∉ addrToken :: print endpoint.port.toNat := by
      rw [mem_cons, not_or]
      exact ⟨by decide, notMem_digits (by decide) hdigits⟩
    rw [show closing true = [bracketEnd] from rfl, append_assoc, singleton_append]
    exact ⟨_, strrchr_append hend _⟩

end Written

lemma parse_create {text : CString} (h : Addressable endpoint)
    (hcreate : ocCreateEndpointString tcpAdapter endpoint = some text) :
    ocParseEndpointString tcpAdapter text = .ok endpoint := by
  rw [ocCreateEndpointString] at hcreate
  split at hcreate
  swap
  · cases hcreate
  rename_i hwritten
  obtain ⟨hscheme, -⟩ := hwritten
  cases hcreate
  obtain ⟨bracketed, hfamily⟩ := h.family
  obtain ⟨hmem, hnul⟩ := mem_endpointText hfamily hscheme h.brackets.1
  obtain ⟨behind, hstop⟩ := strrchr_endpointText hfamily
  rw [← if_congr hmem rfl rfl] at hstop
  have hdigits := isDigit_print endpoint.port.toNat
  have hbracketed : decide (bracketStart ∈ endpointText endpoint) = bracketed := by
    rw [Bool.eq_iff_iff, decide_eq_true_eq, hmem]
  have hstart : endpoint.tps.bytes.length + 3 + (opening bracketed).length
      = (endpoint.tps.bytes ++ tpsToken ++ opening bracketed).length := by
    rw [length_append, length_append]
    rfl
  have htoken : endpointText endpoint = endpoint.tps.bytes ++ (tpsToken ++ (opening bracketed
      ++ endpoint.addr.bytes ++ (closing bracketed ++ addrToken
        :: print endpoint.port.toNat))) := by
    simp only [endpointText, hostText_of_family hfamily, append_assoc]
  have hpos := length_pos_iff.mpr h.address.1
  have hfits := h.address.2
  rw [ocMaxAddrStrSize] at hfits
  rw [parse_iff, ofBytes_of_notMem hnul]
  refine ⟨_, _, behind, _, _, hscheme, htoken, ?_, hstop,
    strrchr_append (notMem_digits (by decide) hdigits) _, ?_, ?_, ?_, ?_⟩
  · rw [htoken]
    exact (TextSearch.strstr_append_iff (by decide) _ _).mpr (scheme_plain hscheme).2.2.2
  · rw [hbracketed, hstart, @List.length_append _ _ endpoint.addr.bytes]
    omega
  · rw [hbracketed, hstart, drop_left]
  · rw [hbracketed, hfamily]
  · rw [scanInteger_digits (Decimal.print_ne_nil _) hdigits, Decimal.value_print]
    exact ⟨rfl, UInt16.lt_iff_toNat_lt.mp h.port⟩

end Reading

/-- Written endpoints are read back, and what is accepted is what its endpoint is written as exactly
where it passes the checks that are not made. -/
theorem endpointString_exact {tcpAdapter : Bool} {endpointStr : CString} {out : EndpointAddress}
    (isIPv4 isIPv6 : List UInt8 → Prop)
    (h : ocParseEndpointString tcpAdapter endpointStr = .ok out) :
    (∀ endpoint text, Addressable endpoint →
          ocCreateEndpointString tcpAdapter endpoint = some text →
          ocParseEndpointString tcpAdapter text = .ok endpoint)
        ∧ WrittenAs isIPv4 isIPv6 tcpAdapter endpointStr.bytes out
      ↔ Checked isIPv4 isIPv6 endpointStr.bytes := by
  obtain ⟨rest, front, behind, host, port, hread⟩ := parse_iff.mp h
  rw [writtenAs_iff hread]
  exact and_iff_right fun endpoint text haddressable hcreate => parse_create haddressable hcreate

/-- `coap://1.2.3.4:080` -/
def paddedString : CString := .const "coap://1.2.3.4:080"

theorem paddedString_written :
    ∃ out, ocParseEndpointString true paddedString = .ok out
      ∧ WrittenAs (fun address => address = (CString.const "1.2.3.4").bytes) (fun _ => False) true
        paddedString.bytes out := by
  have hread : ocParseEndpointString true paddedString
      = .ok ⟨.const "coap", .const "1.2.3.4", ocIpUseV4, 80⟩ := by rfl
  have hsplit : strrchr addrToken paddedString.bytes
      = some ((CString.const "coap://1.2.3.4").bytes, (CString.const "080").bytes) := by rfl
  have hdigits : (CString.const "080").bytes.all isDigit = true := by rfl
  have hplain : bracketStart ∉ paddedString.bytes := by decide
  refine ⟨_, hread, ((endpointString_exact _ _ hread).mpr fun host port hlast => ?_).2⟩
  cases hsplit.symm.trans hlast
  refine ⟨all_eq_true.mp hdigits, ?_⟩
  rw [if_neg hplain]
  rfl

theorem trailingText_accepted :
    ∃ out, ocParseEndpointString true (.const "coap://1.2.3.4:80x") = .ok out
      ∧ ∀ isIPv4 isIPv6, ¬ WrittenAs isIPv4 isIPv6 true (CString.const "coap://1.2.3.4:80x").bytes
        out := by
  have hread : ocParseEndpointString true (.const "coap://1.2.3.4:80x")
      = .ok ⟨.const "coap", .const "1.2.3.4", ocIpUseV4, 80⟩ := by rfl
  refine ⟨_, hread, fun isIPv4 isIPv6 hwritten => ?_⟩
  obtain ⟨rest, front, behind, host, port, h⟩ := parse_iff.mp hread
  exact absurd (((writtenAs_iff h).mp hwritten _ _ rfl).1 0x78) (by decide)

end Iochibity.Ocf.Links
