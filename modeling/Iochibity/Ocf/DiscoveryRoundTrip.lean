/-
Discovery payloads there and back.
-/
import Iochibity.Lib.Regroup
import Iochibity.Ocf.DiscoveryPayload
import Iochibity.Ocf.RepRoundTrip

namespace Iochibity.Ocf.Links

open CborTree OptionalEntries
open Coap (CString)
open List
open Option (bind_some getD_some map_some some_ne_none some.inj)

def hasResources (payload : OCDiscoveryPayload) : Bool := !payload.resources.isEmpty

/-- A resource as it may be sent: it has a URI, types and interfaces, these without blanks, and
endpoints whose text is read back. -/
structure OCResourcePayload.Admissible (strings : EndpointStrings) (resource : OCResourcePayload) :
    Prop where
  uri : resource.uri.isSome
  types_ne : resource.types ≠ []
  interfaces_ne : resource.interfaces ≠ []
  types_blank : ∀ s ∈ resource.types, (32 : UInt8) ∉ s.bytes
  interfaces_blank : ∀ s ∈ resource.interfaces, (32 : UInt8) ∉ s.bytes
  eps : ∀ endpoint ∈ resource.eps, ∃ text, strings.createEndpointString endpoint = some text
    ∧ strings.parseEndpointString text = some endpoint.address

/-- A list of payloads as it may be sent: different ids without a slash, a name and lists on the
first payload only, and resources that may be sent. -/
structure Admissible (strings : EndpointStrings) (payload : OCDiscoveryPayload)
    (next : List OCDiscoveryPayload) : Prop where
  ids : ∀ p ∈ payload :: next, ∃ sid, p.sid = some sid ∧ (0x2F : UInt8) ∉ sid.bytes
  distinct : ((payload :: next).map OCDiscoveryPayload.sid).Nodup
  header : ∀ p ∈ next, p.name = none ∧ p.type = [] ∧ p.iface = []
  resources : ∀ p ∈ payload :: next, ∀ resource ∈ p.resources, resource.Admissible strings

def withoutAnchors (payload : OCDiscoveryPayload) : OCDiscoveryPayload :=
  { payload with
    resources := payload.resources.map ({ · with anchor := none }) }

def ComesBack (strings : EndpointStrings) (payload : OCDiscoveryPayload)
    (next : List OCDiscoveryPayload) : Prop :=
  ∃ out, roundTrip strings payload next = some out
    ∧ out.map withoutAnchors = ((payload :: next).filter hasResources).map withoutAnchors

/-- **A list that survives**: the first payload has resources, and none has behind one without; the
anchors are short enough; and the lists of strings are counted in sixteen bits, without empty
strings and blanks. -/
structure Intact (payload : OCDiscoveryPayload) (next : List OCDiscoveryPayload) : Prop where
  first : hasResources payload = true
  gapless : ∀ p ∈ next.dropWhile hasResources, hasResources p = false
  ids : ∀ p ∈ payload :: next, hasResources p = true →
    ∀ sid ∈ p.sid, (anchorText sid).bytes.length < maxUriLength
  lists : ∀ p ∈ payload :: next, ∀ resource ∈ p.resources,
    StringLLSendable resource.types ∧ StringLLSendable resource.interfaces
  header : StringLLSendable payload.type ∧ StringLLSendable payload.iface

/-! ## Lists of strings -/

variable (val : List CString)

/-- The count of `OCStringLLJoin`. -/
def joinCount : ℕ := (UInt16.ofNat val.length).toNat

def Joinable : Prop := joinCount val = 0 ∨ joinCount val = val.length

instance (val : List CString) : Decidable (Joinable val) :=
  inferInstanceAs (Decidable (_ ∨ _))

def stringLLItem : Option RepItem :=
  if joinCount val = 0 then none else some (.array (val.map textItem))

/-- What `OCParseStringLL` reads of it. -/
def readBack : List CString :=
  if joinCount val = 0 then [] else stringLLTexts (val.map textItem)

lemma stringLLJoin_present (type : CString) (val : List CString) :
    stringLLJoin type val
      = if Joinable val then some (present [(type.bytes, stringLLItem val)]) else none := by
  have hpos : 0 < UInt16.ofNat val.length ↔ joinCount val ≠ 0 := by
    rw [UInt16.lt_iff_toNat_lt, joinCount]
    exact Nat.pos_iff_ne_zero
  rw [stringLLJoin, present_cons, present_nil, append_nil, stringLLItem]
  by_cases hzero : joinCount val = 0
  · have hnot : ¬ 0 < UInt16.ofNat val.length := fun h => hpos.mp h hzero
    have hjoin : Joinable val := .inl hzero
    rw [if_pos hjoin, if_pos hzero, Option.map_none]
    exact if_neg hnot
  rw [if_neg hzero]
  refine (if_pos (hpos.mpr hzero)).trans ?_
  by_cases hcount : joinCount val = val.length
  · have hclose : closeArray (UInt16.ofNat val.length).toNat (val.map textItem)
        = some (.array (val.map textItem)) := by
      refine if_pos ?_
      rw [length_map]
      exact hcount.symm
    have hjoin : Joinable val := .inr hcount
    rw [hclose, if_pos hjoin]
    rfl
  have hclose : closeArray (UInt16.ofNat val.length).toNat (val.map textItem) = none := by
    refine if_neg ?_
    rw [length_map]
    exact fun h => hcount h.symm
  have hjoin : ¬ Joinable val := fun h => h.elim hzero hcount
  rw [hclose, if_neg hjoin]
  rfl

lemma parseStringLL_flatten (type : CString) {fields : List (List UInt8 × Option RepItem)}
    (hkeys : (fields.map Prod.fst).Nodup) (val : List CString)
    (hfield : (type.bytes, stringLLItem val) ∈ fields) :
    parseStringLL type (flatten (present fields)) = readBack val := by
  rw [parseStringLL, mapFindValue_flatten, lookup_present_of_mem hkeys hfield, stringLLItem,
    readBack]
  by_cases hzero : joinCount val = 0
  · simp [hzero]
  · simp [hzero]

lemma stringLLTexts_eq_flatMap : stringLLTexts (val.map textItem) = val.flatMap blankTokens := by
  induction val with
  | nil => rfl
  | cons s val ih =>
    rw [map_cons, textItem, stringLLTexts, CString.ofBytes_bytes, flatMap_cons, ih]

lemma mem_splitOnP {l piece : List UInt8} (h : piece ∈ l.splitOnP (· == 32)) {b : UInt8}
    (hb : b ∈ piece) : b ≠ 32 ∧ b ∈ l := by
  induction l generalizing piece with
  | nil =>
    rw [splitOnP_nil, mem_singleton] at h
    rw [h] at hb
    simp at hb
  | cons c l ih =>
    rw [splitOnP_cons_eq_if_modifyHead] at h
    by_cases hc : (c == 32) = true
    · rw [if_pos hc] at h
      rcases mem_cons.mp h with rfl | hrest
      · simp at hb
      · exact ⟨(ih hrest hb).1, mem_cons_of_mem c (ih hrest hb).2⟩
    rw [if_neg hc] at h
    obtain ⟨first, rest, hsplit⟩ :=
      exists_cons_of_ne_nil (splitOnP_ne_nil (· == 32) l)
    rw [hsplit, modifyHead_cons] at h
    rcases mem_cons.mp h with rfl | hrest
    · rcases mem_cons.mp hb with rfl | hlater
      · exact ⟨fun heq => hc (by rw [heq]; rfl), mem_cons_self⟩
      have hmem : first ∈ l.splitOnP (· == 32) := by rw [hsplit]; exact mem_cons_self
      exact ⟨(ih hmem hlater).1, mem_cons_of_mem c (ih hmem hlater).2⟩
    have hmem : piece ∈ l.splitOnP (· == 32) := by
      rw [hsplit]
      exact mem_cons_of_mem first hrest
    exact ⟨(ih hmem hb).1, mem_cons_of_mem c (ih hmem hb).2⟩

lemma blankTokens_mem {text s : CString} (h : s ∈ blankTokens text) :
    s.bytes ≠ [] ∧ (32 : UInt8) ∉ s.bytes := by
  rw [blankTokens, mem_map] at h
  obtain ⟨token, htoken, rfl⟩ := h
  rw [mem_filter, mem_map, decide_eq_true_iff] at htoken
  obtain ⟨⟨piece, hpiece, rfl⟩, hne⟩ := htoken
  have hsplit := (mem_filter.mp hpiece).1
  have hbytes : ∀ b ∈ inPlaceStringTrim piece, b ≠ 32 ∧ b ∈ text.bytes := fun b hb =>
    mem_splitOnP hsplit ((dropWhile_suffix _).subset hb)
  have hwhole : (CString.ofBytes (inPlaceStringTrim piece)).bytes = inPlaceStringTrim piece := by
    rw [CString.ofBytes, takeWhile_eq_self_iff]
    intro b hb
    rw [decide_eq_true_iff]
    rintro rfl
    exact text.noNul (hbytes 0 hb).2
  rw [hwhole]
  exact ⟨hne, fun hmem => (hbytes 32 hmem).1 rfl⟩

lemma readBack_iff : (Joinable val ∧ readBack val = val) ↔ StringLLSendable val := by
  constructor
  · rintro ⟨hjoin, hread⟩
    by_cases hzero : joinCount val = 0
    · rw [readBack, if_pos hzero] at hread
      rw [← hread]
      exact ⟨by decide, forall_mem_nil _⟩
    have hcount := hjoin.resolve_left hzero
    rw [readBack, if_neg hzero, stringLLTexts_eq_flatMap] at hread
    refine ⟨?_, fun s hs => ?_⟩
    · rw [← hcount, joinCount]
      exact UInt16.toNat_lt _
    · rw [← hread] at hs
      obtain ⟨text, -, htoken⟩ := mem_flatMap.mp hs
      exact blankTokens_mem htoken
  · rintro ⟨hlen, hall⟩
    have hcount : joinCount val = val.length := by
      rw [joinCount, UInt16.toNat_ofNat']
      omega
    refine ⟨.inr hcount, ?_⟩
    rw [readBack, stringLLTexts_map hall]
    by_cases hzero : joinCount val = 0
    · rw [if_pos hzero]
      exact (length_eq_zero_iff.mp (hcount.symm.trans hzero)).symm
    · rw [if_neg hzero]

/-! ## One link -/

def endpointFields (text : CString) (pri : UInt16) : List (List UInt8 × Option RepItem) :=
  [(ocRsrvdEndpoint.bytes, some (textItem text)), (ocRsrvdPriority.bytes, some (.int pri.toNat))]

lemma endpointKeys_nodup : [ocRsrvdEndpoint.bytes, ocRsrvdPriority.bytes].Nodup := by
  decide

lemma ofInt_toNat (pri : UInt16) : UInt16.ofInt pri.toNat = pri := by
  have hlt := pri.toNat_lt
  have hmod : (pri.toNat : Int) % 2 ^ 16 = pri.toNat := by omega
  rw [UInt16.ofInt, hmod, Int.toNat_natCast, UInt16.ofNat_toNat]

variable {strings : EndpointStrings}

lemma endpoint_back {endpoint : OCEndpointPayload}
    (h : ∃ text, strings.createEndpointString endpoint = some text
      ∧ strings.parseEndpointString text = some endpoint.address) :
    ∃ epMap, convertEndpoint strings endpoint = some (.map epMap)
      ∧ parseEndpoint strings epMap = some [endpoint] := by
  obtain ⟨text, hcreate, hparse⟩ := h
  refine ⟨flatten (present (endpointFields text endpoint.pri)), ?_, ?_⟩
  · rw [convertEndpoint, hcreate, bind_some]
    exact closeMap_eq rfl
  · have hkeys : ((endpointFields text endpoint.pri).map Prod.fst).Nodup := endpointKeys_nodup
    have htext := lookup_present_of_mem hkeys mem_cons_self
    have hpri := lookup_present_of_mem hkeys (mem_cons_of_mem _ mem_cons_self)
    rw [parseEndpoint, parsePriority, mapFindValue_flatten, mapFindValue_flatten, htext, hpri]
    simp [textItem, dupText, getInt, hparse, ofInt_toNat]

lemma endpoints_back {eps : List OCEndpointPayload}
    (h : ∀ endpoint ∈ eps, ∃ text, strings.createEndpointString endpoint = some text
      ∧ strings.parseEndpointString text = some endpoint.address) :
    ∃ items, eps.mapM (convertEndpoint strings) = some items ∧ items.length = eps.length
      ∧ parseEndpoints strings items = some eps := by
  induction eps with
  | nil => exact ⟨[], rfl, rfl, rfl⟩
  | cons endpoint eps ih =>
    obtain ⟨hfirst, hrest⟩ := forall_mem_cons.mp h
    obtain ⟨epMap, hconvert, hparse⟩ := endpoint_back hfirst
    obtain ⟨items, hitems, hlen, hread⟩ := ih hrest
    refine ⟨.map epMap :: items, ?_, by rw [length_cons, length_cons, hlen], ?_⟩
    · rw [mapM_cons, hconvert, hitems]
      rfl
    · rw [parseEndpoints, hparse, hread]
      rfl

variable {resource : OCResourcePayload}

lemma convertEndpoints_back (h : resource.Admissible strings) :
    ∃ epsItem, convertEndpoints strings resource.eps
        = some (present [(ocRsrvdEndpoints.bytes, epsItem)])
      ∧ ∀ fields : List (List UInt8 × Option RepItem), (fields.map Prod.fst).Nodup →
        (ocRsrvdEndpoints.bytes, epsItem) ∈ fields →
        parseEps strings (flatten (present fields)) = some resource.eps := by
  obtain ⟨items, hitems, hlen, hread⟩ := endpoints_back h.eps
  by_cases hnil : resource.eps = []
  · refine ⟨none, ?_, fun fields hkeys hmem => ?_⟩
    · rw [hnil]
      rfl
    · rw [parseEps, mapFindValue_flatten, lookup_present_of_mem hkeys hmem, hnil]
  have hpos : 0 < resource.eps.length := length_pos_iff.mpr hnil
  refine ⟨some (.array items), ?_, fun fields hkeys hmem => ?_⟩
  · rw [convertEndpoints, if_pos hpos, hitems, bind_some, ← hlen, closeArray_length]
    rfl
  · rw [parseEps, mapFindValue_flatten, lookup_present_of_mem hkeys hmem]
    exact hread

def linkFields (uri : CString) (anchor : CString) (resource : OCResourcePayload)
    (epsItem : Option RepItem) : List (List UInt8 × Option RepItem) :=
  [(ocRsrvdHref.bytes, some (textItem uri)), (ocRsrvdRel.bytes, resource.rel.map textItem),
    (ocRsrvdUri.bytes, some (textItem anchor)),
    (ocRsrvdResourceType.bytes, stringLLItem resource.types),
    (ocRsrvdInterface.bytes, stringLLItem resource.interfaces),
    (ocRsrvdPolicy.bytes, some (policyMap resource.bitmap)), (ocRsrvdEndpoints.bytes, epsItem)]

def linkKeys : List (List UInt8) :=
  [ocRsrvdHref.bytes, ocRsrvdRel.bytes, ocRsrvdUri.bytes, ocRsrvdResourceType.bytes,
    ocRsrvdInterface.bytes, ocRsrvdPolicy.bytes, ocRsrvdEndpoints.bytes]

lemma linkKeys_nodup : linkKeys.Nodup := by decide

def LinkOk (sid : CString) (resource : OCResourcePayload) : Prop :=
  (anchorText sid).bytes.length < maxUriLength
    ∧ Joinable resource.types ∧ Joinable resource.interfaces

def received (sid : CString) (resource : OCResourcePayload) : OCResourcePayload :=
  { resource with
    anchor := some (anchorText sid)
    types := readBack resource.types
    interfaces := readBack resource.interfaces }

lemma conditionalAdd_present (key : CString) (value : Option CString) :
    conditionalAddTextStringToMap key value = present [(key.bytes, value.map textItem)] := by
  cases value with
  | none | some => rfl

variable {sid : CString}

variable {uri : CString} {epsItem : Option RepItem}

lemma convertLink_eq (huri : resource.uri = some uri)
    (heps : convertEndpoints strings resource.eps
      = some (present [(ocRsrvdEndpoints.bytes, epsItem)])) :
    (LinkOk sid resource → convertLink strings (some sid) resource
        = some (.map (flatten (present (linkFields uri (anchorText sid) resource epsItem)))))
      ∧ (¬ LinkOk sid resource → convertLink strings (some sid) resource = none) := by
  have hentries : present (linkFields uri (anchorText sid) resource epsItem)
      = [(ocRsrvdHref.bytes, textItem uri)]
        ++ present [(ocRsrvdRel.bytes, resource.rel.map textItem)]
        ++ [(ocRsrvdUri.bytes, textItem (anchorText sid))]
        ++ present [(ocRsrvdResourceType.bytes, stringLLItem resource.types)]
        ++ present [(ocRsrvdInterface.bytes, stringLLItem resource.interfaces)]
        ++ [(ocRsrvdPolicy.bytes, policyMap resource.bitmap)]
        ++ present [(ocRsrvdEndpoints.bytes, epsItem)] := by
    simp [linkFields, present_cons, present_nil]
  unfold convertLink anchorOf
  rw [hentries, huri, heps, stringLLJoin_present, stringLLJoin_present, conditionalAdd_present]
  constructor
  · rintro ⟨hanchor, htypes, hinterfaces⟩
    simp only [Option.bind_eq_bind, bind_some, if_pos hanchor, if_pos htypes, if_pos hinterfaces]
    rfl
  · intro hnot
    by_cases hanchor : (anchorText sid).bytes.length < maxUriLength
    · by_cases htypes : Joinable resource.types
      · have hinterfaces : ¬ Joinable resource.interfaces :=
          fun h => hnot ⟨hanchor, htypes, h⟩
        simp [if_pos hanchor, if_pos htypes, if_neg hinterfaces]
      · simp [if_pos hanchor, if_neg htypes]
    · simp [if_neg hanchor]

lemma ofInt_toNat_bitmap (bitmap : UInt8) : UInt8.ofInt bitmap.toNat = bitmap := by
  have hlt := bitmap.toNat_lt
  have hmod : (bitmap.toNat : Int) % 2 ^ 8 = bitmap.toNat := by omega
  rw [UInt8.ofInt, hmod, Int.toNat_natCast, UInt8.ofNat_toNat]

lemma parseResource_back (huri : resource.uri = some uri)
    (heps : parseEps strings (flatten (present
      (linkFields uri (anchorText sid) resource epsItem))) = some resource.eps) :
    parseResource strings (flatten (present (linkFields uri (anchorText sid) resource epsItem)))
      = some (received sid resource) := by
  have hkeys : ((linkFields uri (anchorText sid) resource epsItem).map Prod.fst).Nodup :=
    linkKeys_nodup
  have hhref : mapFindValue ocRsrvdHref.bytes (flatten (present
      (linkFields uri (anchorText sid) resource epsItem))) = some (textItem uri) := by
    rw [mapFindValue_flatten]
    exact lookup_present_of_mem hkeys (by simp [linkFields])
  have hrel : mapFindValue ocRsrvdRel.bytes (flatten (present
      (linkFields uri (anchorText sid) resource epsItem))) = resource.rel.map textItem := by
    rw [mapFindValue_flatten]
    exact lookup_present_of_mem hkeys (by simp [linkFields])
  have hanchor : mapFindValue ocRsrvdUri.bytes (flatten (present
      (linkFields uri (anchorText sid) resource epsItem))) = some (textItem (anchorText sid)) := by
    rw [mapFindValue_flatten]
    exact lookup_present_of_mem hkeys (by simp [linkFields])
  have htypes := parseStringLL_flatten ocRsrvdResourceType hkeys resource.types
    (by simp [linkFields])
  have hinterfaces := parseStringLL_flatten ocRsrvdInterface hkeys resource.interfaces
    (by simp [linkFields])
  have hpolicy : mapFindValue ocRsrvdPolicy.bytes (flatten (present
      (linkFields uri (anchorText sid) resource epsItem))) = some (policyMap resource.bitmap) := by
    rw [mapFindValue_flatten]
    exact lookup_present_of_mem hkeys (by simp [linkFields])
  have hbitmap : mapFindValue ocRsrvdBitmap.bytes
      (flatten [(ocRsrvdBitmap.bytes, .int resource.bitmap.toNat)])
        = some (.int resource.bitmap.toNat) := by
    rw [mapFindValue_flatten, lookup_cons, beq_self_eq_true]
  have hread : parseRel (flatten (present
      (linkFields uri (anchorText sid) resource epsItem))) = some resource.rel := by
    rw [parseRel, hrel]
    cases resource.rel with
    | none => rfl
    | some rel =>
      simp [textItem, dupText]
  rw [parseResource, hhref, hanchor, hread, heps, htypes, hinterfaces, parseBitmap, hpolicy]
  simp [policyMap, hbitmap, textItem, dupText, getInt, ofInt_toNat_bitmap, received, huri]

lemma links_not_key : ocRsrvdLinks.bytes ∉ linkKeys := by decide

lemma link_back (h : resource.Admissible strings) (sid : CString) :
    (¬ LinkOk sid resource → convertLink strings (some sid) resource = none)
      ∧ (LinkOk sid resource → ∃ resourceMap,
        convertLink strings (some sid) resource = some (.map resourceMap)
          ∧ parseResource strings resourceMap = some (received sid resource)
          ∧ mapFindValue ocRsrvdLinks.bytes resourceMap = none) := by
  obtain ⟨uri, huri⟩ := Option.isSome_iff_exists.mp h.uri
  obtain ⟨epsItem, hconvert, hparse⟩ := convertEndpoints_back h
  obtain ⟨hwritten, hnone⟩ := convertLink_eq huri hconvert
  refine ⟨hnone, fun hok => ⟨_, hwritten hok, parseResource_back huri ?_, ?_⟩⟩
  · exact hparse _ linkKeys_nodup (by simp [linkFields])
  · rw [mapFindValue_flatten]
    exact lookup_present_of_not_mem links_not_key

/-! ## All links -/

def devices : Regroup OCDiscoveryPayload CString OCResourcePayload :=
  ⟨OCDiscoveryPayload.sid, addNewResource, discoveryPayloadCreate, fun _ _ _ => rfl⟩

lemma addToDevice_eq (di : CString) (resource : OCResourcePayload) (out : List OCDiscoveryPayload) :
    addToDevice di resource out = devices.insert out di resource := by
  induction out with
  | nil => rfl
  | cons temp out ih =>
    rw [addToDevice, Regroup.insert, ih]
    by_cases htakes : temp.sid = none ∨ temp.sid = some di
    · have hyes : devices.takes temp di = true := by
        rw [Regroup.takes, Bool.or_eq_true, decide_eq_true_iff, decide_eq_true_iff]
        exact htakes
      rw [if_pos htakes, if_pos hyes]
      rfl
    have hno : ¬ devices.takes temp di = true := by
      rw [Regroup.takes, Bool.or_eq_true, decide_eq_true_iff, decide_eq_true_iff]
      exact htakes
    simp [htakes, hno]

variable {resources : List OCResourcePayload}

lemma addAll_eq (payload : OCDiscoveryPayload) (di : CString) (hne : resources ≠ []) :
    devices.addAll payload di resources
      = { payload with sid := some di, resources := payload.resources ++ resources } := by
  obtain ⟨first, rest, rfl⟩ := exists_cons_of_ne_nil hne
  have hgoes : ∀ (more : List OCResourcePayload) (p : OCDiscoveryPayload), p.sid = some di →
      devices.addAll p di more = { p with resources := p.resources ++ more } := by
    intro more
    induction more with
    | nil =>
      intro p _
      rw [append_nil]
      rfl
    | cons resource more ih =>
      intro p hp
      refine (ih (addNewResource p di resource) rfl).trans ?_
      rw [addNewResource, append_assoc, singleton_append, ← hp]
  refine (hgoes rest (addNewResource payload di first) rfl).trans ?_
  rw [addNewResource, append_assoc, singleton_append]

lemma anchorDevice_back (hslash : (0x2F : UInt8) ∉ sid.bytes) :
    anchorDevice (some (anchorText sid)) = some sid := by
  have hprefix : anchorPrefix.bytes <+: (anchorText sid).bytes := List.prefix_append _ _
  have hrest : (anchorText sid).bytes.drop anchorPrefix.bytes.length = sid.bytes :=
    drop_left
  have hkept : sid.bytes.takeWhile (fun b => decide (b ≠ 0x2F)) = sid.bytes := by
    rw [takeWhile_eq_self_iff]
    intro b hb
    rw [decide_eq_true_iff]
    rintro rfl
    exact hslash hb
  obtain ⟨bytes, noNul⟩ := sid
  rw [anchorDevice, bind_some, if_pos hprefix]
  simp only [hrest, hkept]

def StartsWithLink (items : List RepItem) : Prop :=
  ∃ resourceMap rest, items = .map resourceMap :: rest
    ∧ mapFindValue ocRsrvdLinks.bytes resourceMap = none

lemma device_back (hslash : (0x2F : UInt8) ∉ sid.bytes)
    (h : ∀ resource ∈ resources, resource.Admissible strings) :
    ((∃ resource ∈ resources, ¬ LinkOk sid resource) →
        resources.mapM (convertLink strings (some sid)) = none)
      ∧ ((∀ resource ∈ resources, LinkOk sid resource) → ∃ items,
        resources.mapM (convertLink strings (some sid)) = some items
          ∧ (resources ≠ [] → StartsWithLink items)
          ∧ ∀ out rest, parseResources strings out (items ++ rest)
            = parseResources strings (devices.insertAll out
              ((resources.map (received sid)).map (fun resource => (sid, resource)))) rest) := by
  induction resources with
  | nil =>
    refine ⟨?_, fun _ => ⟨[], rfl, fun hne => absurd rfl hne, fun out rest => rfl⟩⟩
    rintro ⟨resource, hmem, -⟩
    simp at hmem
  | cons resource resources ih =>
    obtain ⟨hfirst, hrest⟩ := forall_mem_cons.mp h
    obtain ⟨hfails, hgoes⟩ := ih hrest
    obtain ⟨hnone, hsome⟩ := link_back hfirst sid
    constructor
    · rintro ⟨bad, hbad, hnot⟩
      rw [mapM_cons]
      by_cases hok : LinkOk sid resource
      · obtain ⟨resourceMap, hconvert, -⟩ := hsome hok
        rcases mem_cons.mp hbad with rfl | hlater
        · exact absurd hok hnot
        rw [hconvert, hfails ⟨bad, hlater, hnot⟩]
        rfl
      rw [hnone hok]
      rfl
    · intro hall
      obtain ⟨hok, hoks⟩ := forall_mem_cons.mp hall
      obtain ⟨resourceMap, hconvert, hparse, hlinks⟩ := hsome hok
      obtain ⟨items, hitems, -, hread⟩ := hgoes hoks
      refine ⟨.map resourceMap :: items, ?_, fun _ => ⟨resourceMap, items, rfl, hlinks⟩, ?_⟩
      · rw [mapM_cons, hconvert, hitems]
        rfl
      · intro out rest
        have hdevice : anchorDevice (received sid resource).anchor = some sid :=
          anchorDevice_back hslash
        rw [cons_append, parseResources, hparse, bind_some, hdevice]
        refine (hread _ rest).trans ?_
        rw [addToDevice_eq]
        rfl

def deviceId (payload : OCDiscoveryPayload) : CString := payload.sid.getD anchorPrefix

def groups (payloads : List OCDiscoveryPayload) : List (CString × List OCResourcePayload) :=
  (payloads.takeWhile hasResources).map
    (fun p => (deviceId p, p.resources.map (received (deviceId p))))

def LinksOk (payloads : List OCDiscoveryPayload) : Prop :=
  ∀ p ∈ payloads.takeWhile hasResources, ∀ resource ∈ p.resources, LinkOk (deviceId p) resource

variable {payloads : List OCDiscoveryPayload}

lemma links_back (hids : ∀ p ∈ payloads, ∃ sid, p.sid = some sid ∧ (0x2F : UInt8) ∉ sid.bytes)
    (h : ∀ p ∈ payloads, ∀ resource ∈ p.resources, resource.Admissible strings) :
    (¬ LinksOk payloads → convertLinks strings payloads = none)
      ∧ (LinksOk payloads → ∃ items, convertLinks strings payloads = some items
        ∧ (∀ p ∈ payloads.head?, hasResources p = true → StartsWithLink items)
        ∧ ∀ out, parseResources strings out items
          = some (devices.insertAll out (Regroup.label (groups payloads)))) := by
  induction payloads with
  | nil =>
    refine ⟨fun hnot => absurd (fun p hp => absurd hp not_mem_nil) hnot, fun _ =>
      ⟨[], rfl, ?_, fun out => rfl⟩⟩
    intro p hp
    simp at hp
  | cons payload rest ih =>
    obtain ⟨⟨sid, hsid, hslash⟩, hids'⟩ := forall_mem_cons.mp hids
    obtain ⟨hfirst, hrest⟩ := forall_mem_cons.mp h
    have hid : deviceId payload = sid := by rw [deviceId, hsid, getD_some]
    rw [convertLinks]
    by_cases hnil : payload.resources = []
    · -- The loop ends here.
      have hhas : hasResources payload = false := by rw [hasResources, hnil]; rfl
      have hreach : (payload :: rest).takeWhile hasResources = [] :=
        takeWhile_cons_of_neg (by rw [hhas]; exact Bool.false_ne_true)
      rw [if_pos hnil]
      refine ⟨fun hnot => absurd (fun p hp => ?_) hnot, fun _ => ⟨[], rfl, ?_, fun out => ?_⟩⟩
      · rw [hreach] at hp
        simp at hp
      · intro p hp hyes
        rw [head?_cons, Option.mem_def, Option.some.injEq] at hp
        rw [← hp, hhas] at hyes
        simp at hyes
      · rw [groups, hreach]
        rfl
    have hhas : hasResources payload = true := by
      rw [hasResources, Bool.not_eq_true', isEmpty_eq_false_iff]
      exact hnil
    have hreach : (payload :: rest).takeWhile hasResources
        = payload :: rest.takeWhile hasResources := takeWhile_cons_of_pos hhas
    obtain ⟨hfails, hgoes⟩ := ih hids' hrest
    obtain ⟨hnone, hsome⟩ := device_back hslash hfirst
    rw [if_neg hnil, hsid]
    constructor
    · intro hnot
      by_cases hall : ∀ resource ∈ payload.resources, LinkOk sid resource
      · obtain ⟨items, hitems, -⟩ := hsome hall
        have hlater : ¬ LinksOk rest := by
          intro hok
          apply hnot
          intro p hp
          rw [hreach] at hp
          rcases mem_cons.mp hp with rfl | hp
          · rw [hid]
            exact hall
          · exact hok p hp
        rw [hitems, hfails hlater]
        rfl
      obtain ⟨bad, hbad⟩ := not_forall.mp hall
      obtain ⟨hmem, hlink⟩ := Classical.not_imp.mp hbad
      rw [hnone ⟨bad, hmem, hlink⟩]
      rfl
    · intro hok
      have hall : ∀ resource ∈ payload.resources, LinkOk sid resource := by
        have hhere := hok payload (by rw [hreach]; exact mem_cons_self)
        rwa [hid] at hhere
      have hlater : LinksOk rest := fun p hp =>
        hok p (by rw [hreach]; exact mem_cons_of_mem payload hp)
      obtain ⟨items, hitems, hstarts, hread⟩ := hsome hall
      obtain ⟨more, hmore, -, hreadMore⟩ := hgoes hlater
      refine ⟨items ++ more, by rw [hitems, hmore]; rfl, fun p _ _ => ?_, fun out => ?_⟩
      · obtain ⟨resourceMap, tail, hlist, hlinks⟩ := hstarts hnil
        exact ⟨resourceMap, tail ++ more, by rw [hlist, cons_append], hlinks⟩
      · have hlabel : Regroup.label (groups (payload :: rest))
            = (payload.resources.map (received sid)).map (fun resource => (sid, resource))
              ++ Regroup.label (groups rest) := by
          rw [groups, hreach, map_cons, hid]
          exact flatMap_cons
        rw [hread, hreadMore, hlabel, Regroup.insertAll_append]

/-! ## The whole payload -/

section

variable (payload : OCDiscoveryPayload)

def decoded : OCDiscoveryPayload where
  sid := payload.sid
  name := payload.name
  type := readBack payload.type
  iface := readBack payload.iface
  resources := payload.resources.map (received (deviceId payload))

def HeaderOk : Prop := Joinable payload.type ∧ Joinable payload.iface

def rootFields (links : List RepItem) : List (List UInt8 × Option RepItem) :=
  [(ocRsrvdDeviceName.bytes, payload.name.map textItem),
    (ocRsrvdResourceType.bytes, stringLLItem payload.type),
    (ocRsrvdInterface.bytes, stringLLItem payload.iface),
    (ocRsrvdLinks.bytes, some (.array links))]

lemma rootKeys_nodup :
    [ocRsrvdDeviceName.bytes, ocRsrvdResourceType.bytes, ocRsrvdInterface.bytes,
      ocRsrvdLinks.bytes].Nodup := by decide

def root : OCDiscoveryPayload :=
  { discoveryPayloadCreate with
    name := payload.name
    type := readBack payload.type
    iface := readBack payload.iface }

end

lemma parse_root (strings : EndpointStrings) (payload : OCDiscoveryPayload) (links : List RepItem) :
    parseDiscoveryPayloadVndOcfCbor strings
        (.array [.map (flatten (present (rootFields payload links)))])
      = parseResources strings [root payload] links := by
  have hkeys : ((rootFields payload links).map Prod.fst).Nodup := rootKeys_nodup
  have hlinks : mapFindValue ocRsrvdLinks.bytes (flatten (present (rootFields payload links)))
      = some (.array links) := by
    rw [mapFindValue_flatten]
    exact lookup_present_of_mem hkeys (by simp [rootFields])
  have hname : parseName (flatten (present (rootFields payload links))) = payload.name := by
    have hfound : mapFindValue ocRsrvdDeviceName.bytes
        (flatten (present (rootFields payload links))) = payload.name.map textItem := by
      rw [mapFindValue_flatten]
      exact lookup_present_of_mem hkeys (by simp [rootFields])
    rw [parseName, hfound]
    cases payload.name with
    | none => rfl
    | some name => simp [textItem, dupText]
  have htype := parseStringLL_flatten ocRsrvdResourceType hkeys payload.type (by simp [rootFields])
  have hiface := parseStringLL_flatten ocRsrvdInterface hkeys payload.iface (by simp [rootFields])
  rw [parseDiscoveryPayloadVndOcfCbor, hlinks, hname, htype, hiface]
  rfl

variable {payload : OCDiscoveryPayload}

lemma convert_baseline (strings : EndpointStrings) (next : List OCDiscoveryPayload)
    (hbase : isBaseline payload = true) :
    (¬ HeaderOk payload → convertDiscoveryPayloadVndOcfCbor strings payload next = none)
      ∧ (HeaderOk payload → convertDiscoveryPayloadVndOcfCbor strings payload next
        = (convertLinks strings (payload :: next)).map
          (fun links => .array [.map (flatten (present (rootFields payload links)))])) := by
  have hentries : ∀ links, present (rootFields payload links)
      = present [(ocRsrvdDeviceName.bytes, payload.name.map textItem)]
        ++ present [(ocRsrvdResourceType.bytes, stringLLItem payload.type)]
        ++ present [(ocRsrvdInterface.bytes, stringLLItem payload.iface)]
        ++ [(ocRsrvdLinks.bytes, .array links)] := by
    intro links
    simp [rootFields, present_cons, present_nil]
  rw [convertDiscoveryPayloadVndOcfCbor, if_pos hbase, stringLLJoin_present,
    stringLLJoin_present, conditionalAdd_present]
  constructor
  · intro hnot
    by_cases htype : Joinable payload.type
    · have hiface : ¬ Joinable payload.iface := fun h => hnot ⟨htype, h⟩
      simp [if_pos htype, if_neg hiface]
    · simp [if_neg htype]
  · rintro ⟨htype, hiface⟩
    simp only [if_pos htype, if_pos hiface, Option.bind_eq_bind, bind_some, hentries]
    cases convertLinks strings (payload :: next) with
    | none | some => rfl

lemma not_isBaseline (h : isBaseline payload = false) :
    payload.name = none ∧ payload.type = [] ∧ payload.iface = [] := by
  rw [isBaseline, Bool.or_eq_false_iff, Bool.or_eq_false_iff, Bool.not_eq_false',
    Bool.not_eq_false', List.isEmpty_iff, List.isEmpty_iff, Option.isSome_eq_false_iff,
    Option.isNone_iff_eq_none] at h
  exact ⟨h.1.1, h.1.2, h.2⟩

lemma groups_ne (payloads : List OCDiscoveryPayload) :
    ∀ group ∈ groups payloads, group.2 ≠ [] := by
  intro group hgroup
  obtain ⟨p, hp, rfl⟩ := mem_map.mp hgroup
  have hhas := mem_takeWhile_imp hp
  rw [hasResources, Bool.not_eq_true', isEmpty_eq_false_iff] at hhas
  exact fun hnil => hhas (map_eq_nil_iff.mp hnil)

lemma deviceId_eq (h : ∃ sid, payload.sid = some sid
    ∧ (0x2F : UInt8) ∉ sid.bytes) : payload.sid = some (deviceId payload) := by
  obtain ⟨sid, hsid, -⟩ := h
  rw [deviceId, hsid, getD_some]

lemma groups_distinct
    (hids : ∀ p ∈ payloads, ∃ sid, p.sid = some sid ∧ (0x2F : UInt8) ∉ sid.bytes)
    (hdistinct : (payloads.map OCDiscoveryPayload.sid).Nodup) :
    ((groups payloads).map Prod.fst).Nodup := by
  have hsub : ((payloads.takeWhile hasResources).map OCDiscoveryPayload.sid).Sublist
      (payloads.map OCDiscoveryPayload.sid) := (takeWhile_sublist hasResources).map _
  have hkeys : (payloads.takeWhile hasResources).map OCDiscoveryPayload.sid
      = ((groups payloads).map Prod.fst).map some := by
    rw [groups, map_map, map_map]
    refine map_congr_left fun p hp => ?_
    exact deviceId_eq (hids p ((List.takeWhile_prefix _).subset hp))
  have hnodup := hdistinct.sublist hsub
  rw [hkeys] at hnodup
  exact hnodup.of_map some

lemma addAll_root (hsid : payload.sid = some (deviceId payload))
    (hhas : hasResources payload = true) :
    devices.addAll (root payload) (deviceId payload)
        (payload.resources.map (received (deviceId payload))) = decoded payload := by
  rw [hasResources, Bool.not_eq_true', isEmpty_eq_false_iff] at hhas
  rw [addAll_eq _ _ (fun hnil => hhas (map_eq_nil_iff.mp hnil)), decoded, hsid]
  rfl

lemma root_eq_create (h : payload.name = none ∧ payload.type = [] ∧ payload.iface = []) :
    root payload = discoveryPayloadCreate := by
  obtain ⟨hname, htype, hiface⟩ := h
  rw [root, hname, htype, hiface]
  rfl

lemma made_eq (hids : ∀ p ∈ payloads, ∃ sid, p.sid = some sid ∧ (0x2F : UInt8) ∉ sid.bytes)
    (hheader : ∀ p ∈ payloads, p.name = none ∧ p.type = [] ∧ p.iface = []) :
    (groups payloads).map (fun group => devices.addAll devices.fresh group.1 group.2)
      = (payloads.takeWhile hasResources).map decoded := by
  rw [groups, map_map]
  refine map_congr_left fun p hp => ?_
  have hmem := (List.takeWhile_prefix hasResources).subset hp
  have hmade := addAll_root (deviceId_eq (hids p hmem)) (mem_takeWhile_imp hp)
  rw [root_eq_create (hheader p hmem)] at hmade
  exact hmade

variable {next : List OCDiscoveryPayload}

lemma roundTrip_eq (h : Admissible strings payload next) (hfirst : hasResources payload = true) :
    (¬ (HeaderOk payload ∧ LinksOk (payload :: next)) → roundTrip strings payload next = none)
      ∧ (HeaderOk payload ∧ LinksOk (payload :: next) → roundTrip strings payload next
          = some (((payload :: next).takeWhile hasResources).map decoded)) := by
  obtain ⟨hfails, hgoes⟩ := links_back h.ids h.resources
  obtain ⟨hid, hids⟩ := forall_mem_cons.mp h.ids
  have hreach : (payload :: next).takeWhile hasResources
      = payload :: next.takeWhile hasResources := takeWhile_cons_of_pos hfirst
  have hgroups : groups (payload :: next)
      = (deviceId payload, payload.resources.map (received (deviceId payload))) :: groups next := by
    rw [groups, hreach, map_cons, groups]
  have hne := groups_ne (payload :: next)
  have hdistinct := groups_distinct h.ids h.distinct
  rw [hgroups] at hne hdistinct
  rw [roundTrip]
  cases hbase : isBaseline payload with
  | true =>
    obtain ⟨hbad, hgood⟩ := convert_baseline strings next hbase
    constructor
    · intro hnot
      by_cases hheader : HeaderOk payload
      · rw [hgood hheader, hfails (hnot ⟨hheader, ·⟩)]
        rfl
      rw [hbad hheader]
      rfl
    · rintro ⟨hheader, hlinks⟩
      obtain ⟨items, hitems, -, hread⟩ := hgoes hlinks
      rw [hgood hheader, hitems, map_some, bind_some, parse_root, hread, hgroups,
        Regroup.insertAll_first rfl hne hdistinct, addAll_root (deviceId_eq hid) hfirst,
        made_eq hids h.header, hreach, map_cons]
  | false =>
    obtain ⟨hname, htype, hiface⟩ := not_isBaseline hbase
    have hheader : HeaderOk payload := by
      rw [HeaderOk, htype, hiface]
      exact ⟨.inl rfl, .inl rfl⟩
    rw [convertDiscoveryPayloadVndOcfCbor, hbase, if_neg Bool.false_ne_true]
    constructor
    · intro hnot
      rw [hfails (hnot ⟨hheader, ·⟩)]
      rfl
    · rintro ⟨-, hlinks⟩
      obtain ⟨items, hitems, hstarts, hread⟩ := hgoes hlinks
      obtain ⟨resourceMap, rest, hlist, hnolinks⟩ := hstarts payload rfl hfirst
      have hparse : parseDiscoveryPayloadVndOcfCbor strings (.array items)
          = parseResources strings [] items := by
        rw [hlist, parseDiscoveryPayloadVndOcfCbor, hnolinks]
      have hall : ∀ p ∈ payload :: next, p.name = none ∧ p.type = [] ∧ p.iface = [] :=
        forall_mem_cons.mpr ⟨⟨hname, htype, hiface⟩, h.header⟩
      rw [hitems, map_some, bind_some, hparse, hread,
        Regroup.insertAll_groups (groups_ne _) (groups_distinct h.ids h.distinct)
          (fun _ _ => forall_mem_nil _), nil_append, made_eq h.ids hall]

lemma roundTrip_bare (hfirst : hasResources payload = false) {out : List OCDiscoveryPayload}
    (hout : roundTrip strings payload next = some out) :
    ∃ p ∈ out, p.resources = [] := by
  have hnil : payload.resources = [] := by
    rwa [hasResources, Bool.not_eq_false', List.isEmpty_iff] at hfirst
  have hlinks : convertLinks strings (payload :: next) = some [] := by
    rw [convertLinks, if_pos hnil]
  rw [roundTrip] at hout
  cases hbase : isBaseline payload with
  | true =>
    obtain ⟨hbad, hgood⟩ := convert_baseline strings next hbase
    by_cases hheader : HeaderOk payload
    · rw [hgood hheader, hlinks, map_some, bind_some, parse_root] at hout
      obtain rfl := some.inj hout
      exact ⟨root payload, mem_singleton_self _, rfl⟩
    rw [hbad hheader] at hout
    exact absurd hout.symm (some_ne_none out)
  | false =>
    rw [convertDiscoveryPayloadVndOcfCbor, hbase, if_neg Bool.false_ne_true, hlinks] at hout
    have hnone : none = some out := hout
    exact absurd hnone.symm (some_ne_none out)

/-! ## When a list comes back -/

lemma filter_eq_reached (payloads : List OCDiscoveryPayload) :
    payloads.filter hasResources = payloads.takeWhile hasResources
      ++ (payloads.dropWhile hasResources).filter hasResources := by
  conv_lhs => rw [← takeWhile_append_dropWhile (p := hasResources) (l := payloads)]
  rw [filter_append, filter_eq_self.mpr fun p hp => mem_takeWhile_imp hp]

lemma hasResources_iff :
    hasResources payload = true ↔ payload.resources ≠ [] := by
  simp [hasResources]

lemma withoutAnchors_decoded_iff :
    withoutAnchors (decoded payload) = withoutAnchors payload
      ↔ (readBack payload.type = payload.type ∧ readBack payload.iface = payload.iface)
        ∧ ∀ resource ∈ payload.resources, readBack resource.types = resource.types
          ∧ readBack resource.interfaces = resource.interfaces := by
  rw [withoutAnchors, withoutAnchors, decoded, OCDiscoveryPayload.mk.injEq, map_map, map_inj_left]
  have hresource : ∀ resource : OCResourcePayload,
      ({ received (deviceId payload) resource with anchor := none } : OCResourcePayload)
          = { resource with anchor := none }
        ↔ readBack resource.types = resource.types
          ∧ readBack resource.interfaces = resource.interfaces := by
    intro resource
    rw [OCResourcePayload.mk.injEq]
    exact ⟨fun h => ⟨h.2.2.2.1, h.2.2.2.2.1⟩, fun h => ⟨rfl, rfl, rfl, h.1, h.2, rfl, rfl⟩⟩
  constructor
  · rintro ⟨-, -, htype, hiface, hresources⟩
    exact ⟨⟨htype, hiface⟩, fun resource hmem => (hresource resource).mp (hresources resource hmem)⟩
  · rintro ⟨⟨htype, hiface⟩, hresources⟩
    exact ⟨rfl, rfl, htype, hiface,
      fun resource hmem => (hresource resource).mpr (hresources resource hmem)⟩

/-- **A list of payloads comes back** exactly when it is intact. -/
theorem comesBack_iff {strings : EndpointStrings} {payload : OCDiscoveryPayload}
    {next : List OCDiscoveryPayload} (h : Admissible strings payload next) :
    ComesBack strings payload next ↔ Intact payload next := by
  have hfilter := filter_eq_reached (payload :: next)
  constructor
  · rintro ⟨out, hround, heq⟩
    by_cases hfirst : hasResources payload = true
    · obtain ⟨hnone, hsome⟩ := roundTrip_eq h hfirst
      have hdrop : (payload :: next).dropWhile hasResources = next.dropWhile hasResources :=
        dropWhile_cons_of_pos hfirst
      by_cases hok : HeaderOk payload ∧ LinksOk (payload :: next)
      · rw [hsome hok] at hround
        obtain rfl := some.inj hround
        -- As many come back as have resources, so none of these is missed.
        have hlen := congrArg List.length heq
        rw [length_map, length_map, length_map, hfilter, length_append] at hlen
        have hmissed : ((payload :: next).dropWhile hasResources).filter hasResources = [] :=
          length_eq_zero_iff.mp (by omega)
        rw [hmissed, append_nil] at hfilter
        rw [hfilter, map_map, map_inj_left] at heq
        have hreached : ∀ p ∈ payload :: next, hasResources p = true →
            p ∈ (payload :: next).takeWhile hasResources := by
          intro p hp hhas
          rw [← hfilter]
          exact mem_filter.mpr ⟨hp, hhas⟩
        have hkept : ∀ p ∈ payload :: next, hasResources p = true → _ := fun p hp hhas =>
          withoutAnchors_decoded_iff.mp (heq p (hreached p hp hhas))
        refine ⟨hfirst, ?_, ?_, ?_, ?_⟩
        · intro p hp
          rw [hdrop, filter_eq_nil_iff] at hmissed
          exact Bool.eq_false_iff.mpr (hmissed p hp)
        · intro p hp hhas sid hsid
          obtain ⟨resource, rest, hresources⟩ :=
            exists_cons_of_ne_nil (hasResources_iff.mp hhas)
          have hlink := hok.2 p (hreached p hp hhas) resource
            (by rw [hresources]; exact mem_cons_self)
          have hid : deviceId p = sid := by rw [deviceId, Option.mem_def.mp hsid, getD_some]
          rw [← hid]
          exact hlink.1
        · intro p hp resource hresource
          have hhas : hasResources p = true :=
            hasResources_iff.mpr (ne_nil_of_mem hresource)
          have hlink := hok.2 p (hreached p hp hhas) resource hresource
          have hread := (hkept p hp hhas).2 resource hresource
          exact ⟨(readBack_iff _).mp ⟨hlink.2.1, hread.1⟩, (readBack_iff _).mp ⟨hlink.2.2, hread.2⟩⟩
        · have hread := (hkept payload mem_cons_self hfirst).1
          exact ⟨(readBack_iff _).mp ⟨hok.1.1, hread.1⟩, (readBack_iff _).mp ⟨hok.1.2, hread.2⟩⟩
      · rw [hnone hok] at hround
        exact absurd hround.symm (some_ne_none out)
    · rw [Bool.not_eq_true] at hfirst
      obtain ⟨p, hp, hnil⟩ := roundTrip_bare hfirst hround
      have hmem : withoutAnchors p
          ∈ ((payload :: next).filter hasResources).map withoutAnchors := by
        rw [← heq]
        exact mem_map_of_mem hp
      obtain ⟨q, hq, hsame⟩ := mem_map.mp hmem
      have hresources := congrArg OCDiscoveryPayload.resources hsame
      rw [withoutAnchors, withoutAnchors, hnil, map_nil, map_eq_nil_iff] at hresources
      exact absurd hresources (hasResources_iff.mp (mem_filter.mp hq).2)
  · intro hintact
    obtain ⟨-, hsome⟩ := roundTrip_eq h hintact.first
    have hmissed : ((payload :: next).dropWhile hasResources).filter hasResources = [] := by
      rw [dropWhile_cons_of_pos hintact.first, filter_eq_nil_iff]
      exact fun p hp => Bool.eq_false_iff.mp (hintact.gapless p hp)
    have hmem : ∀ p ∈ (payload :: next).takeWhile hasResources, p ∈ payload :: next :=
      fun p hp => (List.takeWhile_prefix _).subset hp
    have htype := (readBack_iff _).mpr hintact.header.1
    have hiface := (readBack_iff _).mpr hintact.header.2
    have hlinks : LinksOk (payload :: next) := by
      intro p hp resource hresource
      have hhas := mem_takeWhile_imp hp
      obtain ⟨htypes, hinterfaces⟩ := hintact.lists p (hmem p hp) resource hresource
      refine ⟨?_, ((readBack_iff _).mpr htypes).1, ((readBack_iff _).mpr hinterfaces).1⟩
      exact hintact.ids p (hmem p hp) hhas _ (deviceId_eq (h.ids p (hmem p hp)))
    refine ⟨_, hsome ⟨⟨htype.1, hiface.1⟩, hlinks⟩, ?_⟩
    rw [hfilter, hmissed, append_nil, map_map, map_inj_left]
    intro p hp
    refine withoutAnchors_decoded_iff.mpr ⟨?_, fun resource hresource => ?_⟩
    · rcases mem_cons.mp (hmem p hp) with rfl | hlater
      · exact ⟨htype.2, hiface.2⟩
      obtain ⟨-, hnotype, hnoiface⟩ := h.header p hlater
      rw [hnotype, hnoiface]
      exact ⟨rfl, rfl⟩
    · obtain ⟨htypes, hinterfaces⟩ := hintact.lists p (hmem p hp) resource hresource
      exact ⟨((readBack_iff _).mpr htypes).2, ((readBack_iff _).mpr hinterfaces).2⟩

/-! ## Two lists -/

section Example

def lampEndpoint : OCEndpointPayload :=
  ⟨⟨.const "coap", .const "10.0.0.1", 0x40, 5683⟩, 1⟩

def lampEndpointStr : CString := .const "coap://10.0.0.1:5683"

def lampStrings : EndpointStrings where
  createEndpointString endpoint :=
    if endpoint.address = lampEndpoint.address then some lampEndpointStr else none
  parseEndpointString text :=
    if text = lampEndpointStr then some lampEndpoint.address else none

def lamp : OCResourcePayload where
  uri := some (.const "/lamp")
  rel := some (.const "hosts")
  anchor := none
  types := [.const "oic.r.light", .const "oic.r.switch"]
  interfaces := [.const "oic.if.a"]
  bitmap := 3
  eps := [lampEndpoint]

def device (sid : String) (resources : List OCResourcePayload) : OCDiscoveryPayload where
  sid := some (.const sid)
  name := none
  type := []
  iface := []
  resources := resources

lemma lamp_admissible : lamp.Admissible lampStrings where
  uri := rfl
  types_ne := cons_ne_nil _ _
  interfaces_ne := cons_ne_nil _ _
  types_blank := by decide
  interfaces_blank := by decide
  eps := by
    intro endpoint hmem
    rw [mem_singleton.mp hmem]
    exact ⟨lampEndpointStr, by simp [lampStrings], by simp [lampStrings]⟩

lemma devices_admissible {first second third : List OCResourcePayload}
    (h : ∀ resource ∈ first ++ second ++ third, resource = lamp) :
    Admissible lampStrings (device "a" first) [device "b" second, device "c" third] where
  ids := by
    intro p hp
    simp only [mem_cons, not_mem_nil, or_false] at hp
    rcases hp with rfl | rfl | rfl
    · exact ⟨_, rfl, by decide⟩
    · exact ⟨_, rfl, by decide⟩
    · exact ⟨_, rfl, by decide⟩
  distinct := by
    have hids : [some (CString.const "a"), some (.const "b"), some (.const "c")].Nodup := by
      decide
    exact hids
  header := by
    intro p hp
    simp only [mem_cons, not_mem_nil, or_false] at hp
    rcases hp with rfl | rfl
    · exact ⟨rfl, rfl, rfl⟩
    · exact ⟨rfl, rfl, rfl⟩
  resources := by
    intro p hp resource hresource
    have hmem : resource ∈ first ++ second ++ third := by
      simp only [mem_cons, not_mem_nil, or_false] at hp
      rcases hp with rfl | rfl | rfl
      · exact mem_append_left _ (mem_append_left _ hresource)
      · exact mem_append_left _ (mem_append_right _ hresource)
      · exact mem_append_right _ hresource
    rw [h resource hmem]
    exact lamp_admissible

theorem threeDevices_comeBack :
    ComesBack lampStrings (device "a" [lamp]) [device "b" [lamp], device "c" [lamp, lamp]] :=
  (comesBack_iff (devices_admissible (by simp))).mpr
    { first := rfl
      gapless := fun p hp => absurd hp not_mem_nil
      ids := by
        intro p hp _ sid hsid
        simp only [mem_cons, not_mem_nil, or_false] at hp
        rcases hp with rfl | rfl | rfl
        · rw [← some.inj hsid]
          decide
        · rw [← some.inj hsid]
          decide
        · rw [← some.inj hsid]
          decide
      lists := by
        intro p hp resource hresource
        have hlamp : resource = lamp := by
          simp only [mem_cons, not_mem_nil, or_false] at hp
          rcases hp with rfl | rfl | rfl <;> simpa [device] using hresource
        rw [hlamp]
        exact ⟨⟨by decide, by decide⟩, ⟨by decide, by decide +kernel⟩⟩
      header := ⟨⟨by decide, forall_mem_nil _⟩, ⟨by decide, forall_mem_nil _⟩⟩ }

theorem behindGap_lost :
    Admissible lampStrings (device "a" [lamp]) [device "b" [], device "c" [lamp]]
      ∧ ¬ ComesBack lampStrings (device "a" [lamp]) [device "b" [], device "c" [lamp]] := by
  have hadmissible : Admissible lampStrings (device "a" [lamp])
      [device "b" [], device "c" [lamp]] := devices_admissible (by simp)
  refine ⟨hadmissible, ?_⟩
  rintro ⟨out, hround, hout⟩
  obtain ⟨hnone, hsome⟩ := roundTrip_eq hadmissible rfl
  by_cases hok : HeaderOk (device "a" [lamp])
      ∧ LinksOk [device "a" [lamp], device "b" [], device "c" [lamp]]
  · rw [hsome hok] at hround
    have hlen := congrArg List.length hout
    rw [← some.inj hround] at hlen
    -- One device is written, two have resources.
    exact absurd hlen (by decide)
  rw [hnone hok] at hround
  exact absurd hround.symm (some_ne_none out)

end Example

end Iochibity.Ocf.Links
