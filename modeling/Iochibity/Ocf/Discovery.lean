/-
Discovery: a GET of `/oic/res`, `HandleVirtualResource` in `ocresource.c`, and what
`OCHandleRequests` makes of the result.

Allocations succeed.
-/
import Iochibity.Ocf.RepPayload
import Iochibity.Ocf.ResourceTree

namespace Iochibity.Ocf.Discovery

open Coap (CString)
open ResourceList (OCResource ocRsrvdInterfaceDefault)
open List

section

def isQuerySeparator (byte : UInt8) : Bool := byte = 0x26 ∨ byte = 0x3B

def isKeyValueDelimiter (byte : UInt8) : Bool := byte = 0x3D

def maxQueryLength : ℕ := 256

/-- `OC_RSRVD_INTERFACE`, `OC_RSRVD_RESOURCE_TYPE`, in lower case. -/
def ocRsrvdInterface : List UInt8 := [0x69, 0x66]

def ocRsrvdResourceType : List UInt8 := [0x72, 0x74]

/-- `strtok_r`: the next token and what is left. -/
def strtokR (delimiter : UInt8 → Bool) (rest : List UInt8) :
    Option (List UInt8 × List UInt8) :=
  match rest.dropWhile delimiter with
  | [] => none
  | byte :: rest =>
    some ((byte :: rest).takeWhile (!delimiter ·), ((byte :: rest).dropWhile (!delimiter ·)).drop 1)

def toLower (byte : UInt8) : UInt8 :=
  if 0x41 ≤ byte ∧ byte ≤ 0x5A then byte + 0x20 else byte

structure Filters where
  interfaceQuery : Option (List UInt8)
  resourceTypeQuery : Option (List UInt8)
  deriving DecidableEq

/-- The loop of `ExtractFiltersFromQuery`; `left` is the number of pairs that may still
come. -/
def extractPairs : ℕ → List UInt8 → Filters → Option Filters
  | left, restOfQuery, filters =>
    match strtokR isQuerySeparator restOfQuery, left with
    | none, _ => some filters
    | some _, 0 => none
    | some (keyValuePair, restOfQuery), left + 1 =>
      match strtokR isKeyValueDelimiter keyValuePair with
      | none => none
      | some (key, value) =>
        if ocRsrvdInterface.isPrefixOf (key.map toLower) then
          extractPairs left restOfQuery { filters with interfaceQuery := some value }
        else if ocRsrvdResourceType.isPrefixOf (key.map toLower) then
          extractPairs left restOfQuery { filters with resourceTypeQuery := some value }
        else none

def extractFiltersFromQuery (query : CString) : Option Filters :=
  if maxQueryLength ≤ query.bytes.length then none
  else extractPairs 2 query.bytes ⟨none, none⟩

def getQueryParamsForFiltering (query : Option CString) : Option Filters :=
  match query with
  | none => some ⟨none, none⟩
  | some query =>
    if query.bytes = [] then some ⟨none, none⟩ else extractFiltersFromQuery query

def ocRsrvdInterfaceLL : List UInt8 := [0x6F, 0x69, 0x63, 0x2E, 0x69, 0x66, 0x2E, 0x6C, 0x6C]

def ocRsrvdWellKnownUri : List UInt8 := [0x2F, 0x6F, 0x69, 0x63, 0x2F, 0x72, 0x65, 0x73]

variable (resource : OCResource)

def discoverable : Bool := resource.resourceProperties &&& 0x01 ≠ 0

def active : Bool := resource.resourceProperties &&& 0x04 ≠ 0

def explicitDiscoverable : Bool :=
  resource.resourceProperties &&& 0x20 ≠ 0

def resourceMatchesRTFilter (resourceTypeFilter : Option (List UInt8)) : Bool :=
  match resourceTypeFilter with
  | none => true
  | some [] => false
  | some filter => resource.rsrcType.any (·.bytes = filter)

def resourceMatchesIFFilter (interfaceFilter : Option (List UInt8)) : Bool :=
  match interfaceFilter with
  | none => true
  | some [] => false
  | some filter => resource.rsrcInterface.any (fun name =>
    name.bytes = filter ∨ filter = ocRsrvdInterfaceLL ∨ filter = ocRsrvdInterfaceDefault.bytes)

variable (filters : Filters)

def includeThisResourceInResponse (resource : OCResource) : Bool :=
  if explicitDiscoverable resource = true ∧ (filters.resourceTypeQuery.getD [] = []) then false
  else if explicitDiscoverable resource = false
      ∧ (active resource = false ∨ discoverable resource = false) then false
  else resourceMatchesIFFilter resource filters.interfaceQuery
    && resourceMatchesRTFilter resource filters.resourceTypeQuery

def Filters.orDefault : Filters :=
  if filters.interfaceQuery = none ∧ filters.resourceTypeQuery = none then
    ⟨some ocRsrvdInterfaceLL, none⟩
  else filters

def Filters.LinkList : Prop :=
  filters.resourceTypeQuery = none ∧ filters.interfaceQuery = some ocRsrvdInterfaceLL

instance (filters : Filters) : Decidable filters.LinkList :=
  inferInstanceAs (Decidable (_ ∧ _))

/-- The resource is listed, by the loop of `HandleVirtualResource`. -/
def lists (resource : OCResource) : Bool :=
  if filters.LinkList then discoverable resource
  else includeThisResourceInResponse filters resource

/-- A GET of `/oic/res`. -/
structure DiscoveryRequest where
  query : Option CString
  unicast : Bool

/-- What is found out elsewhere: `CAGetNetworkInformation` succeeds, and multicast is not to be
answered. -/
structure DiscoveryWorld where
  networkInfo : Bool
  multicastServerStopped : Bool

inductive DiscoveryResponse
  | listed (resources : List OCResource)
  | error (ehResult : OCEntityHandlerResult)
  | direct (result : OCStackResult)

section

variable (world : DiscoveryWorld) (request : DiscoveryRequest) (resources : List OCResource)

def handleVirtualResource : OCStackResult × List DiscoveryResponse :=
  if resources = [] then (.invalidParam, [])
  else if resources.all (·.uri.bytes ≠ ocRsrvdWellKnownUri) then
    (.error, [])
  else if world.multicastServerStopped = true ∧ request.unicast = false then
    (.continueLater, [])
  else if world.networkInfo = false then (.error, [])
  else
    match getQueryParamsForFiltering request.query with
    | none => (.invalidQuery, [])
    | some filters =>
      match resources.filter (lists filters.orDefault) with
      | [] =>
        if request.unicast then (.continueLater, [.error .resourceNotFound])
        else (.continueLater, [])
      | resource :: rest => (.ok, [.listed (resource :: rest)])

def ocHandleRequests : List DiscoveryResponse :=
  let (requestResult, responses) := handleVirtualResource world request resources
  if ocResultToSuccess requestResult then responses
  else responses ++ [.direct requestResult]

def matching (filters : Filters) (resources : List OCResource) : List OCResource :=
  resources.filter (includeThisResourceInResponse filters.orDefault)

def NothingToList (request : DiscoveryRequest) (resources : List OCResource) : Prop :=
  ∀ filters ∈ getQueryParamsForFiltering request.query, matching filters resources = []

def DiscoveryResponse.IsError : DiscoveryResponse → Prop
  | .listed _ => False
  | _ => True

/-- **Discovery is exact and multicast stays silent.** When there is something to be listed there is
one response with all of it. Otherwise a multicast request gets no response and another one gets one
error. -/
structure DiscoveryExact (world : DiscoveryWorld) (request : DiscoveryRequest)
    (resources : List OCResource) : Prop where
  exact : ∀ filters ∈ getQueryParamsForFiltering request.query, matching filters resources ≠ [] →
      ocHandleRequests world request resources = [.listed (matching filters resources)]
  silent : NothingToList request resources → request.unicast = false →
    ocHandleRequests world request resources = []
  single : NothingToList request resources → request.unicast = true →
    ∃ response, ocHandleRequests world request resources = [response] ∧ response.IsError

/-- The query is reached: there is `/oic/res`, multicast is answered and there is network
information. -/
def QueryReached : Prop :=
  (∃ resource ∈ resources, resource.uri.bytes = ocRsrvdWellKnownUri)
    ∧ (world.multicastServerStopped = true → request.unicast = true)
    ∧ world.networkInfo = true

def ShortWaySound (filters : Filters) (resources : List OCResource) : Prop :=
  filters.orDefault.LinkList → ∀ resource ∈ resources, discoverable resource = true →
      active resource = true ∧ explicitDiscoverable resource = false ∧ resource.rsrcInterface ≠ []

/-- When the query is reached it is well-formed or the request is unicast, and the short way takes
the same. Otherwise there is nothing to be listed, and a multicast request is not answered because
of `multicastServerStopped`. -/
def DiscoverySound : Prop :=
  (QueryReached world request resources →
      (getQueryParamsForFiltering request.query = none → request.unicast = true)
      ∧ ∀ filters ∈ getQueryParamsForFiltering request.query, ShortWaySound filters resources)
    ∧ (¬ QueryReached world request resources → NothingToList request resources
      ∧ (request.unicast = false → world.multicastServerStopped = true
          ∧ ∃ resource ∈ resources, resource.uri.bytes = ocRsrvdWellKnownUri))

end

/-! ## The two ways -/

lemma include_linkList (filters : Filters) (hlink : filters.LinkList) (resource : OCResource) :
    includeThisResourceInResponse filters resource = true
      ↔ discoverable resource = true ∧ active resource = true
        ∧ explicitDiscoverable resource = false ∧ resource.rsrcInterface ≠ [] := by
  obtain ⟨hrt, hif⟩ := hlink
  unfold includeThisResourceInResponse resourceMatchesIFFilter resourceMatchesRTFilter
  rw [hrt, hif]
  have hany : (resource.rsrcInterface.any (fun name => decide (name.bytes = ocRsrvdInterfaceLL
      ∨ ocRsrvdInterfaceLL = ocRsrvdInterfaceLL
      ∨ ocRsrvdInterfaceLL = ocRsrvdInterfaceDefault.bytes))) = true
        ↔ resource.rsrcInterface ≠ [] := by
    rw [any_eq_true]
    constructor
    · rintro ⟨name, hname, -⟩
      exact ne_nil_of_mem hname
    · intro hne
      obtain ⟨name, hname⟩ := exists_mem_of_ne_nil _ hne
      exact ⟨name, hname, decide_eq_true (.inr (.inl rfl))⟩
  cases hexplicit : explicitDiscoverable resource with
  | true =>
    rw [if_pos ⟨rfl, rfl⟩]
    exact iff_of_false nofun (absurd ·.2.2.1 nofun)
  | false =>
    rw [if_neg (absurd ·.1 nofun)]
    cases hactive : active resource with
    | false =>
      rw [if_pos ⟨rfl, .inl rfl⟩]
      exact iff_of_false nofun (absurd ·.2.1 nofun)
    | true =>
      cases hdiscoverable : discoverable resource with
      | false =>
        rw [if_pos ⟨rfl, .inr rfl⟩]
        exact iff_of_false nofun (absurd ·.1 nofun)
      | true =>
        rw [if_neg (by rintro ⟨-, h | h⟩ <;> exact absurd h nofun), Bool.and_true]
        rw [and_iff_right rfl, and_iff_right rfl, and_iff_right rfl]
        exact hany

lemma listed_eq_matching_iff (filters : Filters) (resources : List OCResource) :
    resources.filter (lists filters.orDefault) = matching filters resources
      ↔ ShortWaySound filters resources := by
  unfold ShortWaySound matching
  have hfilter : resources.filter (lists filters.orDefault)
        = resources.filter (includeThisResourceInResponse filters.orDefault)
      ↔ ∀ resource ∈ resources, lists filters.orDefault resource
          = includeThisResourceInResponse filters.orDefault resource := by
    constructor
    · intro heq resource hresource
      have hmem := congrArg (resource ∈ ·) heq
      simp only [mem_filter, hresource, true_and] at hmem
      exact Bool.eq_iff_iff.mpr (Iff.of_eq hmem)
    · exact fun h => filter_congr h
  rw [hfilter]
  by_cases hlink : filters.orDefault.LinkList
  · rw [forall_prop_of_true hlink]
    refine forall₂_congr (fun resource _ => ?_)
    rw [lists, if_pos hlink, Bool.eq_iff_iff, include_linkList _ hlink resource]
    exact ⟨fun h hdiscoverable => (h.mp hdiscoverable).2,
      fun h => ⟨fun hdiscoverable => ⟨hdiscoverable, h hdiscoverable⟩, fun h => h.1⟩⟩
  refine iff_of_true ?_ (absurd · hlink)
  intro resource _
  rw [lists, if_neg hlink]

/-! ## The responses -/

variable {world : DiscoveryWorld} {request : DiscoveryRequest} {resources : List OCResource}

lemma wellKnown_iff :
    (∃ resource ∈ resources, resource.uri.bytes = ocRsrvdWellKnownUri) ↔ resources ≠ []
        ∧ ¬ resources.all (·.uri.bytes ≠ ocRsrvdWellKnownUri) = true := by
  rw [all_eq_true]
  constructor
  · rintro ⟨resource, hresource, huri⟩
    refine ⟨ne_nil_of_mem hresource, fun hall => ?_⟩
    exact absurd huri (of_decide_eq_true (hall resource hresource))
  · rintro ⟨-, hnot⟩
    by_contra hnone
    apply hnot
    intro resource hresource
    exact decide_eq_true (hnone ⟨resource, hresource, ·⟩)

lemma ocHandleRequests_reached (hreached : QueryReached world request resources) :
    ocHandleRequests world request resources
      = match getQueryParamsForFiltering request.query with
        | none => [.direct .invalidQuery]
        | some filters =>
          match resources.filter (lists filters.orDefault) with
          | [] => if request.unicast then [.error .resourceNotFound] else []
          | resource :: rest => [.listed (resource :: rest)] := by
  obtain ⟨hknown, hstopped, hnetwork⟩ := hreached
  obtain ⟨hne, hall⟩ := wellKnown_iff.mp hknown
  have hnotstopped : ¬ (world.multicastServerStopped = true ∧ request.unicast = false) := by
    rintro ⟨hstop, hmulticast⟩
    rw [hstopped hstop] at hmulticast
    simp at hmulticast
  unfold ocHandleRequests handleVirtualResource
  rw [if_neg hne, if_neg hall, if_neg hnotstopped, if_neg (by rw [hnetwork]; nofun)]
  cases getQueryParamsForFiltering request.query with
  | none => rfl
  | some filters =>
    dsimp only
    cases resources.filter (lists filters.orDefault) with
    | nil =>
      dsimp only
      cases request.unicast <;> rfl
    | cons resource rest => rfl

lemma ocHandleRequests_unreached (hreached : ¬ QueryReached world request resources) :
    (request.unicast = false ∧ world.multicastServerStopped = true
        ∧ (∃ resource ∈ resources, resource.uri.bytes = ocRsrvdWellKnownUri)
        ∧ ocHandleRequests world request resources = [])
      ∨ (¬ (request.unicast = false ∧ world.multicastServerStopped = true
          ∧ ∃ resource ∈ resources, resource.uri.bytes = ocRsrvdWellKnownUri)
        ∧ ∃ result, ocHandleRequests world request resources = [.direct result]) := by
  unfold QueryReached at hreached
  rw [wellKnown_iff] at hreached ⊢
  unfold ocHandleRequests handleVirtualResource
  by_cases hempty : resources = []
  · rw [if_pos hempty]
    exact .inr ⟨fun h => h.2.2.1 hempty, .invalidParam, rfl⟩
  rw [if_neg hempty]
  by_cases hall : resources.all (·.uri.bytes ≠ ocRsrvdWellKnownUri) = true
  · rw [if_pos hall]
    exact .inr ⟨fun h => h.2.2.2 hall, .error, rfl⟩
  rw [if_neg hall]
  by_cases hstopped : world.multicastServerStopped = true ∧ request.unicast = false
  · rw [if_pos hstopped]
    exact .inl ⟨hstopped.2, hstopped.1, ⟨hempty, hall⟩, rfl⟩
  rw [if_neg hstopped]
  have hnetwork : world.networkInfo = false := by
    rw [← Bool.not_eq_true]
    intro hnetwork
    refine hreached ⟨⟨hempty, hall⟩, fun hstop => ?_, hnetwork⟩
    rw [← Bool.not_eq_false]
    exact fun hmulticast => hstopped ⟨hstop, hmulticast⟩
  rw [if_pos hnetwork]
  exact .inr ⟨fun h => hstopped ⟨h.2.1, h.1⟩, .error, rfl⟩

def explicitResource : List OCResource :=
  [⟨none, .ofBytes ocRsrvdWellKnownUri, [.ofBytes [0x72]], [ocRsrvdInterfaceDefault], [], 0x04, 0⟩,
    ⟨none, .ofBytes [0x2F, 0x61], [.ofBytes [0x78]], [ocRsrvdInterfaceDefault], [], 0x25, 0⟩]

end

def queryParts (query : List UInt8) : List (List UInt8) :=
  (query.splitOnP isQuerySeparator).filter (· ≠ [])

/-- What is in front of the first `=`. -/
def partKey (part : List UInt8) : List UInt8 :=
  part.takeWhile (!isKeyValueDelimiter ·)

/-- What is behind the first `=`. -/
def partValue (part : List UInt8) : List UInt8 :=
  (part.dropWhile (!isKeyValueDelimiter ·)).drop 1

/-- A part `key=value` with this key, ignoring case. -/
def HasKey (key part : List UInt8) : Prop :=
  part.any isKeyValueDelimiter = true ∧ (partKey part).map toLower = key

instance (key part : List UInt8) : Decidable (HasKey key part) :=
  inferInstanceAs (Decidable (_ ∧ _))

def FilterPart (part : List UInt8) : Prop :=
  HasKey ocRsrvdInterface part ∨ HasKey ocRsrvdResourceType part

instance (part : List UInt8) : Decidable (FilterPart part) :=
  inferInstanceAs (Decidable (_ ∨ _))

def lastValue (key : List UInt8) (parts : List (List UInt8)) : Option (List UInt8) :=
  (parts.filter (HasKey key ·)).getLast?.map partValue

def promisedFilters (query : List UInt8) : Option Filters :=
  if (queryParts query).length ≤ 2 ∧ ∀ part ∈ queryParts query, FilterPart part then
    some ⟨lastValue ocRsrvdInterface (queryParts query),
      lastValue ocRsrvdResourceType (queryParts query)⟩
  else none

section Tokens

variable {rest : List UInt8}

lemma queryParts_dropWhile (rest : List UInt8) :
    queryParts (rest.dropWhile isQuerySeparator) = queryParts rest := by
  induction rest with
  | nil => rfl
  | cons byte rest ih =>
    by_cases hbyte : isQuerySeparator byte = true
    · rw [dropWhile_cons_of_pos hbyte, ih, queryParts, queryParts,
        splitOnP_cons_eq_if_modifyHead, if_pos hbyte]
      rfl
    · rw [dropWhile_cons_of_neg hbyte]

lemma queryParts_eq (rest : List UInt8) :
    queryParts rest = match strtokR isQuerySeparator rest with
      | none => []
      | some (part, rest) => part :: queryParts rest := by
  rw [← queryParts_dropWhile, strtokR]
  cases hdrop : rest.dropWhile isQuerySeparator with
  | nil => rfl
  | cons byte text =>
    have hbyte : isQuerySeparator byte = false := by
      have := head?_dropWhile_not isQuerySeparator rest
      rw [hdrop] at this
      simpa using this
    have htoken : ∀ other ∈ (byte :: text).takeWhile (!isQuerySeparator ·),
        isQuerySeparator other = false := by
      intro other hother
      simpa using mem_takeWhile_imp hother
    have hne : (byte :: text).takeWhile (!isQuerySeparator ·) ≠ [] := by
      rw [takeWhile_cons_of_pos (by simpa using hbyte)]
      exact cons_ne_nil _ _
    obtain ⟨token, behind, htext, hnone⟩ : ∃ token behind, byte :: text = token ++ behind
        ∧ (byte :: text).takeWhile (!isQuerySeparator ·) = token
        ∧ (byte :: text).dropWhile (!isQuerySeparator ·) = behind :=
      ⟨_, _, (takeWhile_append_dropWhile ..).symm, rfl, rfl⟩
    simp only [hnone.1, hnone.2] at htoken hne ⊢
    rw [htext, queryParts]
    cases behind with
    | nil =>
      rw [append_nil, splitOnP_eq_singleton htoken]
      simp [hne, queryParts]
    | cons separator behind =>
      have hseparator : isQuerySeparator separator = true := by
        have := head?_dropWhile_not (!isQuerySeparator ·) (byte :: text)
        rw [hnone.2] at this
        simpa using this
      rw [splitOnP_append_cons_of_forall_mem htoken separator hseparator,
        filter_cons_of_pos (by simpa using hne)]
      rfl

end Tokens

/-! ## The loop over the parts -/

/-- The key as `strtok_r` finds it, behind the `=` that a part may start with. -/
def foundKey (part : List UInt8) : List UInt8 :=
  partKey (part.dropWhile isKeyValueDelimiter)

def UnsupportedKey (part : List UInt8) : Prop :=
  ocRsrvdInterface.isPrefixOf ((foundKey part).map toLower) = false
    ∧ ocRsrvdResourceType.isPrefixOf ((foundKey part).map toLower) = false

instance (part : List UInt8) : Decidable (UnsupportedKey part) :=
  inferInstanceAs (Decidable (_ ∧ _))

def noteFilter (filters : Filters) (part : List UInt8) : Filters :=
  if ocRsrvdInterface.isPrefixOf ((foundKey part).map toLower) then
    { filters with interfaceQuery := some (partValue (part.dropWhile isKeyValueDelimiter)) }
  else { filters with
    resourceTypeQuery := some (partValue (part.dropWhile isKeyValueDelimiter)) }

section Pairs

variable {part : List UInt8}

/-- A part of nothing but `=` has no token, and no key to support. -/
lemma strtokR_part (part : List UInt8) :
    strtokR isKeyValueDelimiter part = none ∧ UnsupportedKey part ∨ strtokR isKeyValueDelimiter part
          = some (foundKey part, partValue (part.dropWhile isKeyValueDelimiter)) := by
  rw [strtokR, UnsupportedKey, foundKey, partValue]
  cases part.dropWhile isKeyValueDelimiter with
  | nil => exact .inl ⟨rfl, by decide⟩
  | cons byte text => exact .inr rfl

lemma extractPairs_eq (left : ℕ) (restOfQuery : List UInt8) (filters : Filters) :
    extractPairs left restOfQuery filters = if (queryParts restOfQuery).length ≤ left
          ∧ ∀ part ∈ queryParts restOfQuery, ¬ UnsupportedKey part then
          some ((queryParts restOfQuery).foldl noteFilter filters)
        else none := by
  induction left generalizing restOfQuery filters with
  | zero =>
    have hparts := queryParts_eq restOfQuery
    rw [extractPairs.eq_def]
    cases htoken : strtokR isQuerySeparator restOfQuery with
    | none =>
      simp only [htoken] at hparts ⊢
      simp [hparts]
    | some token =>
      simp only [htoken] at hparts ⊢
      simp [hparts]
  | succ left ih =>
    have hparts := queryParts_eq restOfQuery
    rw [extractPairs.eq_def]
    cases htoken : strtokR isQuerySeparator restOfQuery with
    | none =>
      simp only [htoken] at hparts ⊢
      simp [hparts]
    | some token =>
      obtain ⟨part, rest⟩ := token
      simp only [htoken] at hparts ⊢
      rw [hparts]
      simp only [length_cons, Nat.add_le_add_iff_right, forall_mem_cons, foldl_cons]
      obtain ⟨hnone, hkey⟩ | hsome := strtokR_part part
      · simp [hnone, hkey]
      simp only [hsome, ih, noteFilter]
      by_cases hif : ocRsrvdInterface.isPrefixOf ((foundKey part).map toLower) = true
      · simp [hif, UnsupportedKey]
      by_cases hrt : ocRsrvdResourceType.isPrefixOf ((foundKey part).map toLower) = true
      · simp [hif, hrt, UnsupportedKey]
      · simp [hif, hrt, UnsupportedKey]

/-! ## What a part of the language is read as -/

lemma hasKey_cases {key : List UInt8} (hlength : key ≠ []) (h : HasKey key part) :
    part.dropWhile isKeyValueDelimiter = part ∧ (foundKey part).map toLower = key := by
  have hdrop : part.dropWhile isKeyValueDelimiter = part := by
    cases part with
    | nil => rfl
    | cons byte text =>
      by_cases hbyte : isKeyValueDelimiter byte = true
      · have hkey := h.2
        rw [partKey, takeWhile_cons_of_neg (by simpa using hbyte)] at hkey
        exact absurd hkey.symm hlength
      · exact dropWhile_cons_of_neg hbyte
  rw [foundKey, hdrop]
  exact ⟨rfl, h.2⟩

lemma not_unsupported_of_filterPart (h : FilterPart part) : ¬ UnsupportedKey part := by
  intro hkey
  obtain h | h := h
  · have := hkey.1
    rw [(hasKey_cases (by decide) h).2] at this
    exact absurd this (by decide)
  have := hkey.2
  rw [(hasKey_cases (by decide) h).2] at this
  exact absurd this (by decide)

lemma noteFilter_of_filterPart (filters : Filters) (h : FilterPart part) :
    noteFilter filters part
      = ⟨if HasKey ocRsrvdInterface part then some (partValue part) else filters.interfaceQuery,
        if HasKey ocRsrvdResourceType part then some (partValue part)
        else filters.resourceTypeQuery⟩ := by
  obtain h | h := h
  · obtain ⟨hdrop, hkey⟩ := hasKey_cases (by decide) h
    have hrt : ¬ HasKey ocRsrvdResourceType part :=
      fun hrt => absurd (h.2.symm.trans hrt.2) (by decide)
    rw [noteFilter, hkey, hdrop, if_pos h, if_neg hrt]
    rfl
  obtain ⟨hdrop, hkey⟩ := hasKey_cases (by decide) h
  have hif : ¬ HasKey ocRsrvdInterface part :=
    fun hif => absurd (h.2.symm.trans hif.2) (by decide)
  rw [noteFilter, hkey, hdrop, if_pos h, if_neg hif]
  rfl

lemma lastValue_append (key : List UInt8) (parts : List (List UInt8)) (part : List UInt8) :
    lastValue key (parts ++ [part])
      = if HasKey key part then some (partValue part) else lastValue key parts := by
  rw [lastValue, filter_append]
  by_cases h : HasKey key part
  · rw [if_pos h, filter_cons_of_pos (by simpa using h), filter_nil, getLast?_concat]
    rfl
  rw [if_neg h, filter_cons_of_neg (by simpa using h), filter_nil, append_nil, lastValue]

lemma foldl_noteFilter {parts : List (List UInt8)} (h : ∀ part ∈ parts, FilterPart part) :
    parts.foldl noteFilter ⟨none, none⟩
      = ⟨lastValue ocRsrvdInterface parts, lastValue ocRsrvdResourceType parts⟩ := by
  induction parts using List.reverseRecOn with
  | nil => rfl
  | append_singleton parts part ih =>
    obtain ⟨hparts, hpart⟩ := forall_mem_append.mp h
    rw [foldl_append, ih hparts, foldl_cons, foldl_nil,
      noteFilter_of_filterPart _ (hpart part (mem_singleton_self part)), lastValue_append,
      lastValue_append]

/-- A query is answered as promised exactly where it has more than two parts, or a part whose key
starts like neither `if` nor `rt`, or no part but of the form `if=..` and `rt=..`. -/
theorem extractFiltersFromQuery_iff {query : CString}
    (hlength : query.bytes.length < maxQueryLength) :
    extractFiltersFromQuery query = promisedFilters query.bytes
      ↔ 2 < (queryParts query.bytes).length ∨ (∃ part ∈ queryParts query.bytes, UnsupportedKey part)
        ∨ ∀ part ∈ queryParts query.bytes, FilterPart part := by
  rw [extractFiltersFromQuery, if_neg (by omega), extractPairs_eq, promisedFilters]
  by_cases hmany : 2 < (queryParts query.bytes).length
  · simp [Nat.not_le.mpr hmany, hmany]
  by_cases hkey : ∃ part ∈ queryParts query.bytes, UnsupportedKey part
  · obtain ⟨part, hpart, hkey⟩ := hkey
    rw [if_neg fun h => h.2 part hpart hkey,
      if_neg fun h => not_unsupported_of_filterPart (h.2 part hpart) hkey]
    exact iff_of_true rfl (.inr (.inl ⟨part, hpart, hkey⟩))
  rw [if_pos ⟨by omega, fun part hpart hunsupported => hkey ⟨part, hpart, hunsupported⟩⟩]
  by_cases hall : ∀ part ∈ queryParts query.bytes, FilterPart part
  · rw [if_pos ⟨by omega, hall⟩, foldl_noteFilter hall]
    exact iff_of_true rfl (.inr (.inr hall))
  rw [if_neg fun h => hall h.2]
  simp [hmany, hkey, hall]

/-- `if=oic.if.ll` -/
def linkListQuery : CString :=
  ⟨[0x69, 0x66, 0x3D, 0x6F, 0x69, 0x63, 0x2E, 0x69, 0x66, 0x2E, 0x6C, 0x6C], by decide⟩

theorem extractFiltersFromQuery_link_list :
    linkListQuery.bytes.length < maxQueryLength
      ∧ extractFiltersFromQuery linkListQuery = promisedFilters linkListQuery.bytes := by
  refine ⟨by decide, (extractFiltersFromQuery_iff (by decide)).mpr (.inr (.inr ?_))⟩
  decide

theorem extractFiltersFromQuery_longer_key :
    ¬ extractFiltersFromQuery ⟨[0x69, 0x66, 0x78, 0x3D, 0x61], by decide⟩
      = promisedFilters [0x69, 0x66, 0x78, 0x3D, 0x61] := by
  decide

end Pairs

end Iochibity.Ocf.Discovery
