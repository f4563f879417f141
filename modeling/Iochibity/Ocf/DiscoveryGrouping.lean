/-
What `ParseResources` makes of any array of links, and what its error path destroys.
-/
import Iochibity.Ocf.DiscoveryRoundTrip

namespace Iochibity.Ocf.Links

open CborTree
open Coap (CString)
open List

/-! ## The variables of `ParseResources` -/

structure OwnedResource where
  addr : ℕ
  value : OCResourcePayload
  eps : List ℕ

def OwnedResource.addresses (resource : OwnedResource) : List ℕ :=
  resource.addr :: resource.eps

structure ParseState where
  next : ℕ
  resource : Option OwnedResource
  endpoint : Option ℕ
  out : List (OCDiscoveryPayload × List OwnedResource)
  destroyed : List ℕ

namespace ParseState

section

variable (s : ParseState)

def callocResource : ParseState :=
  { s with
    next := s.next + 1
    resource := some ⟨s.next, ⟨none, none, none, [], [], 0, []⟩, []⟩ }

def callocEndpoint : ParseState :=
  { s with next := s.next + 1, endpoint := some s.next }

def setFields (value : OCResourcePayload) : ParseState :=
  { s with resource := s.resource.map fun resource => { resource with value := value } }

/-- `OCResourcePayloadAddNewEndpoint`, and `endpoint = NULL`. -/
def addNewEndpoint (read : List OCEndpointPayload) : ParseState :=
  { s with
    endpoint := none
    resource := s.resource.map fun resource =>
      { resource with
        value := { resource.value with eps := resource.value.eps ++ read }
        eps := resource.eps ++ s.endpoint.toList } }

/-- `OCDiscoveryEndpointDestroy`, and `endpoint = NULL`. -/
def destroyEndpoint : ParseState :=
  { s with endpoint := none, destroyed := s.destroyed ++ s.endpoint.toList }

/-- `OCDiscoveryResourceDestroy`. The variable is not cleared. -/
def destroyResource : ParseState :=
  { s with destroyed := s.destroyed ++ s.resource.toList.flatMap OwnedResource.addresses }

end

end ParseState

def ownedDevices :
    Regroup (OCDiscoveryPayload × List OwnedResource) CString OwnedResource where
  key device := device.1.sid
  add device di resource :=
    (addNewResource device.1 di resource.value, device.2 ++ [resource])
  fresh := (discoveryPayloadCreate, [])
  key_add _ _ _ := rfl

/-- The search for the device, and `OCDiscoveryPayloadAddNewResource`. -/
def ParseState.addToDevice (s : ParseState) (di : CString) : ParseState :=
  match s.resource with
  | some resource => { s with out := ownedDevices.insert s.out di resource }
  | none => s

section

variable (strings : EndpointStrings)

/-- One endpoint: one that cannot be read leaves through the exit, one of an unknown kind is
destroyed. -/
def endpointStep (epMap : List RepItem) (s : ParseState) : Except ParseState ParseState :=
  match parseEndpoint strings epMap with
  | none => .error s.callocEndpoint
  | some [] => .ok s.callocEndpoint.destroyEndpoint
  | some read => .ok (s.callocEndpoint.addNewEndpoint read)

def endpointsLoop (strings : EndpointStrings) : List RepItem → ParseState →
    Except ParseState ParseState
  | .map epMap :: rest, s => (endpointStep strings epMap s).bind (endpointsLoop strings rest)
  | _, s => .ok s

variable (resourceMap : List RepItem)

def readFields : Option OCResourcePayload := do
  let uri ← (mapFindValue ocRsrvdHref.bytes resourceMap).bind dupText
  let rel ← parseRel resourceMap
  let bitmap ← parseBitmap resourceMap
  return {
    uri := some uri
    rel := rel
    anchor := (mapFindValue ocRsrvdUri.bytes resourceMap).bind dupText
    types := parseStringLL ocRsrvdResourceType resourceMap
    interfaces := parseStringLL ocRsrvdInterface resourceMap
    bitmap := bitmap
    eps := [] }

def endpointItems : List RepItem :=
  match mapFindValue ocRsrvdEndpoints.bytes resourceMap with
  | some (.array items) => items
  | _ => []

def resourceStep (s : ParseState) : Except ParseState ParseState :=
  match readFields resourceMap with
  | none => .error s.callocResource
  | some fields =>
    endpointsLoop strings (endpointItems resourceMap) (s.callocResource.setFields fields)

def deviceStep (s : ParseState) : ParseState :=
  match s.resource.bind fun resource => anchorDevice resource.value.anchor with
  | some di => s.addToDevice di
  | none => s.destroyResource

def parseLoop (strings : EndpointStrings) : List RepItem → ParseState →
    Except ParseState ParseState
  | .map resourceMap :: rest, s =>
    (resourceStep strings resourceMap s).bind fun s => parseLoop strings rest (deviceStep s)
  | _, s => .ok s

def started (start : List OCDiscoveryPayload) : ParseState :=
  ⟨0, none, none, start.map fun payload => (payload, []), []⟩

/-- `ParseResources`: the exit destroys what the variables hold if there was an error. -/
def parseRun (start : List OCDiscoveryPayload)
    (items : List RepItem) : Except ParseState ParseState :=
  match parseLoop strings items (started start) with
  | .ok s => .ok s
  | .error s => .error s.destroyResource.destroyEndpoint

def ParseState.reachable (s : ParseState) : List ℕ :=
  (s.out.flatMap Prod.snd).flatMap OwnedResource.addresses

/-- **The links of some resources are grouped**: different ids, under each the links of its
device in their order, all links with a device once and no other. -/
structure Grouped (resources : List OCResourcePayload) (out : List OCDiscoveryPayload) :
    Prop where
  distinct : (out.map OCDiscoveryPayload.sid).Nodup
  each : ∀ payload ∈ out, payload.resources = resources.filter fun resource =>
    (anchorDevice resource.anchor).isSome && anchorDevice resource.anchor = payload.sid
  once : (out.flatMap OCDiscoveryPayload.resources).Perm
    (resources.filter fun resource => (anchorDevice resource.anchor).isSome)
  found : ∀ resource ∈ resources, ∀ di, anchorDevice resource.anchor = some di →
    ∃ payload ∈ out, payload.sid = some di

/-! ## The links by their devices -/

variable (resources : List OCResourcePayload)

def anchored : List (CString × OCResourcePayload) :=
  resources.filterMap fun resource =>
    (anchorDevice resource.anchor).map fun di => (di, resource)

lemma parseResources_eq (out : List OCDiscoveryPayload) (links : List (List RepItem)) :
    parseResources strings out (links.map .map)
      = (links.mapM (parseResource strings)).map fun resources =>
          devices.insertAll out (anchored resources) := by
  induction links generalizing out with
  | nil => rfl
  | cons link links ih =>
    rw [map_cons, parseResources, mapM_cons]
    cases hread : parseResource strings link with
    | none => rfl
    | some resource =>
      -- The rest is read with or without the new link in the output.
      have hrest : ∀ out', parseResources strings out' (links.map .map)
          = (links.mapM (parseResource strings)).map fun resources =>
              devices.insertAll out' (anchored resources) := fun out' => ih out'
      simp only [Option.bind_some, Option.bind_eq_bind, Option.pure_def, hrest]
      cases links.mapM (parseResource strings) with
      | none => cases anchorDevice resource.anchor <;> rfl
      | some resources =>
        cases hdevice : anchorDevice resource.anchor with
        | none =>
          simp [anchored, hdevice]
        | some di =>
          simp only [Option.map_some, Option.bind_some, anchored, filterMap_cons, hdevice,
            addToDevice_eq]
          rfl

lemma itemsOf_anchored (di : CString) :
    Regroup.itemsOf (anchored resources) di = resources.filter fun resource =>
      (anchorDevice resource.anchor).isSome && anchorDevice resource.anchor = some di := by
  induction resources with
  | nil => rfl
  | cons resource resources ih =>
    rw [Regroup.itemsOf, anchored] at ih ⊢
    cases hdevice : anchorDevice resource.anchor with
    | none => simp [hdevice, ih]
    | some di' =>
      by_cases hsame : di' = di
      · simp [hdevice, hsame, ih]
      · simp [hdevice, hsame, ih]

lemma anchored_snd :
    (anchored resources).map Prod.snd
      = resources.filter fun resource => (anchorDevice resource.anchor).isSome := by
  induction resources with
  | nil => rfl
  | cons resource resources ih =>
    rw [anchored] at ih ⊢
    cases hdevice : anchorDevice resource.anchor with
    | none | some => simp [hdevice, ih]

/-- The output of `ParseResources` at its call: nothing, or a payload without an id. -/
def IsStart (start : List OCDiscoveryPayload) : Prop :=
  start = [] ∨ ∃ root, start = [root] ∧ root.sid = none ∧ root.resources = []

lemma grouped_insertAll {start : List OCDiscoveryPayload} (hstart : IsStart start)
    (resources : List OCResourcePayload) :
    Grouped resources (devices.insertAll start (anchored resources)) := by
  have hadd : ∀ payload di (resource : OCResourcePayload),
      (devices.add payload di resource).resources = payload.resources ++ [resource] :=
    fun _ _ _ => rfl
  have hempty : Regroup.Exact devices OCDiscoveryPayload.resources start [] :=
    Regroup.exact_start hstart
  have hexact := hempty.insertAll hadd rfl (anchored resources)
  rw [nil_append] at hexact
  refine ⟨hexact.distinct, ?_, ?_, ?_⟩
  · intro payload hpayload
    cases hsid : payload.sid with
    | none =>
      -- A payload without an id is the one of the start, and no link had a device.
      obtain ⟨-, hempty, hnone⟩ := hexact.keyless payload hpayload hsid
      rw [hempty, eq_comm, filter_eq_nil_iff]
      intro resource _ hboth
      rw [Bool.and_eq_true, decide_eq_true_iff] at hboth
      rw [hboth.2] at hboth
      exact Bool.false_ne_true hboth.1
    | some di => rw [hexact.held payload hpayload di hsid, itemsOf_anchored]
  · have honce := Regroup.flatMap_insertAll hadd rfl start (anchored resources)
    have hnothing : start.flatMap OCDiscoveryPayload.resources = [] := by
      rcases hstart with rfl | ⟨root, rfl, -, hroot⟩
      · rfl
      · simp [hroot]
    rwa [hnothing, nil_append, anchored_snd] at honce
  · intro resource hresource di hdevice
    have hmem : (di, resource) ∈ anchored resources :=
      mem_filterMap.mpr ⟨resource, hresource, by rw [hdevice, Option.map_some]⟩
    obtain ⟨payload, hpayload, hsid⟩ := mem_map.mp (hexact.found _ hmem)
    exact ⟨payload, hpayload, hsid⟩

/-! ## The variables hold what is read -/

lemma parseResource_eq :
    parseResource strings resourceMap = (readFields resourceMap).bind fun fields =>
      (parseEndpoints strings (endpointItems resourceMap)).map fun eps =>
        { fields with eps := eps } := by
  have heps : parseEps strings resourceMap
      = parseEndpoints strings (endpointItems resourceMap) := by
    rw [parseEps, endpointItems]
    cases mapFindValue ocRsrvdEndpoints.bytes resourceMap with
    | none => rfl
    | some item => cases item <;> rfl
  rw [parseResource, readFields, heps]
  simp only [Option.bind_eq_bind, Option.pure_def, Option.bind_assoc, Option.bind_some,
    Option.map_eq_bind]
  rfl

end

def Holds (value : Option OCResourcePayload) (s : ParseState)
    (run : Except ParseState ParseState) : Prop :=
  match run with
  | .ok s' => s'.out = s.out ∧ ∃ resource, s'.resource = some resource
      ∧ value = some resource.value
  | .error s' => s'.out = s.out ∧ value = none

variable {s : ParseState} {resource : OwnedResource}

variable (strings : EndpointStrings)

variable (items : List RepItem)

lemma endpointsLoop_holds (hresource : s.resource = some resource) :
    Holds ((parseEndpoints strings items).map fun eps =>
        { resource.value with eps := resource.value.eps ++ eps }) s
      (endpointsLoop strings items s) := by
  induction items generalizing s resource with
  | nil => exact ⟨rfl, resource, hresource, by simp [parseEndpoints]⟩
  | cons item items ih =>
    cases item with
    | map epMap =>
      rw [parseEndpoints, endpointsLoop, endpointStep]
      cases hread : parseEndpoint strings epMap with
      | none => exact ⟨rfl, rfl⟩
      | some read =>
        cases read with
        | nil =>
          have hread : ((do
              let endpoint ← some []
              let more ← parseEndpoints strings items
              return endpoint ++ more) : Option (List OCEndpointPayload))
              = parseEndpoints strings items := by
            cases parseEndpoints strings items <;> rfl
          rw [hread]
          exact ih (s := s.callocEndpoint.destroyEndpoint) hresource
        | cons endpoint more =>
          have hnext := ih (s := s.callocEndpoint.addNewEndpoint (endpoint :: more))
            (congrArg (Option.map _) hresource)
          simp only [append_assoc] at hnext
          have hsame : ((do
              let endpoint ← some (endpoint :: more)
              let more ← parseEndpoints strings items
              return endpoint ++ more) : Option (List OCEndpointPayload)).map
                (fun eps => { resource.value with eps := resource.value.eps ++ eps })
              = (parseEndpoints strings items).map fun eps =>
                { resource.value with
                  eps := resource.value.eps ++ (endpoint :: more ++ eps) } := by
            cases parseEndpoints strings items <;> rfl
          rw [hsame]
          exact hnext
    | _ => exact ⟨rfl, resource, hresource, by simp [parseEndpoints]⟩

lemma resourceStep_holds (resourceMap : List RepItem) (s : ParseState) :
    Holds (parseResource strings resourceMap) s (resourceStep strings resourceMap s) := by
  rw [parseResource_eq, resourceStep]
  cases hfields : readFields resourceMap with
  | none => exact ⟨rfl, rfl⟩
  | some fields =>
    have heps : fields.eps = [] := by
      rw [readFields] at hfields
      simp only [Option.bind_eq_bind, Option.pure_def, Option.bind_eq_some_iff,
        Option.some.injEq] at hfields
      obtain ⟨uri, -, rel, -, bitmap, -, rfl⟩ := hfields
      rfl
    have hloop := endpointsLoop_holds strings (endpointItems resourceMap)
      (s := s.callocResource.setFields fields) rfl
    simp only [heps, nil_append] at hloop
    exact hloop

def ParseState.values (s : ParseState) : List OCDiscoveryPayload := s.out.map Prod.fst

lemma deviceStep_values (h : s.resource = some resource) :
    (deviceStep s).values = match anchorDevice resource.value.anchor with
      | some di => addToDevice di resource.value s.values
      | none => s.values := by
  rw [deviceStep, h, Option.bind_some]
  cases anchorDevice resource.value.anchor with
  | none => rfl
  | some di =>
    have hadded : s.addToDevice di = { s with out := ownedDevices.insert s.out di resource } := by
      rw [ParseState.addToDevice, h]
    refine (congrArg ParseState.values hadded).trans ?_
    refine Eq.trans ?_ (addToDevice_eq di resource.value s.values).symm
    have hmap : (ownedDevices.insert s.out di resource).map Prod.fst
        = devices.insert (s.out.map Prod.fst) di resource.value :=
      Regroup.map_insert Prod.fst OwnedResource.value (fun _ => rfl) (fun _ _ _ => rfl) rfl s.out
        di resource
    exact hmap

lemma parseLoop_values (s : ParseState) :
    (∀ out, parseResources strings s.values items = some out →
        ∃ s', parseLoop strings items s = .ok s' ∧ s'.values = out)
      ∧ (parseResources strings s.values items = none →
        ∃ s', parseLoop strings items s = .error s') := by
  -- Where the loop ends, the output is what it is.
  have hdone : ∀ {s : ParseState},
      (∀ out, some s.values = some out →
          ∃ s', (Except.ok s : Except ParseState ParseState) = .ok s' ∧ s'.values = out)
        ∧ (some s.values = none → ∃ s' : ParseState, Except.ok s = Except.error s') :=
    ⟨fun out h => ⟨_, rfl, Option.some.inj h⟩, fun h => absurd h (Option.some_ne_none _)⟩
  induction items generalizing s with
  | nil => exact hdone
  | cons item items ih =>
    cases item with
    | map resourceMap =>
      have hstep := resourceStep_holds strings resourceMap s
      rw [parseResources, parseLoop]
      cases hrun : resourceStep strings resourceMap s with
      | error s' =>
        rw [hrun] at hstep
        obtain ⟨-, hnone⟩ := hstep
        rw [hnone]
        exact ⟨fun out h => absurd h.symm (Option.some_ne_none out), fun _ => ⟨s', rfl⟩⟩
      | ok s' =>
        rw [hrun] at hstep
        obtain ⟨hout, resource, hresource, hvalue⟩ := hstep
        have hvalues : s'.values = s.values := congrArg (List.map Prod.fst) hout
        have hdevice := deviceStep_values hresource
        have hnext := ih (deviceStep s')
        rw [hvalues] at hdevice
        rw [hvalue, Option.bind_some]
        cases hanchor : anchorDevice resource.value.anchor with
        | none =>
          rw [hanchor] at hdevice
          rw [hdevice] at hnext
          exact hnext
        | some di =>
          rw [hanchor] at hdevice
          rw [hdevice] at hnext
          exact hnext
    | _ => exact hdone

/-! ## What is destroyed -/

def InUse (next : ℕ) (addresses : List ℕ) : Prop :=
  addresses.Nodup ∧ ∀ addr ∈ addresses, addr < next

lemma InUse.perm {next : ℕ} {addresses addresses' : List ℕ} (h : InUse next addresses)
    (hperm : addresses.Perm addresses') : InUse next addresses' :=
  ⟨hperm.nodup_iff.mp h.1, fun addr hmem => h.2 addr (hperm.mem_iff.mpr hmem)⟩

lemma InUse.fresh {next : ℕ} {addresses : List ℕ} (h : InUse next addresses) :
    InUse (next + 1) (addresses ++ [next]) := by
  refine ⟨?_, ?_⟩
  · rw [nodup_append_comm, singleton_append, nodup_cons]
    exact ⟨fun hmem => lt_irrefl next (h.2 next hmem), h.1⟩
  · intro addr hmem
    rcases mem_append.mp hmem with hold | hnew
    · exact Nat.lt_succ_of_lt (h.2 addr hold)
    rw [mem_singleton.mp hnew]
    omega

/-- **At the start of a turn**: the endpoint is cleared, and what is reached and what is
destroyed are apart. -/
def Settled (s : ParseState) : Prop :=
  s.endpoint = none ∧ InUse s.next (s.reachable ++ s.destroyed)

def Building (s : ParseState) : Prop :=
  InUse s.next ((s.reachable ++ s.destroyed)
    ++ s.resource.toList.flatMap OwnedResource.addresses ++ s.endpoint.toList)

lemma Settled.callocResource (h : Settled s) :
    Building s.callocResource ∧ s.callocResource.endpoint = none := by
  obtain ⟨hnone, huse⟩ := h
  refine ⟨?_, hnone⟩
  have hfresh := huse.fresh
  simpa [Building, ParseState.callocResource, ParseState.reachable, OwnedResource.addresses,
    hnone] using hfresh

lemma Building.callocEndpoint (h : Building s) (hnone : s.endpoint = none) :
    Building s.callocEndpoint := by
  rw [Building, hnone, Option.toList_none, append_nil] at h
  exact h.fresh

lemma Building.addNewEndpoint (h : Building s) (hsome : s.resource.isSome)
    (read : List OCEndpointPayload) : Building (s.addNewEndpoint read) := by
  obtain ⟨resource, hresource⟩ := Option.isSome_iff_exists.mp hsome
  rw [Building, hresource] at h
  simpa [Building, ParseState.addNewEndpoint, ParseState.reachable, OwnedResource.addresses,
    hresource] using h

lemma Building.destroyEndpoint (h : Building s) :
    Building s.destroyEndpoint := by
  refine h.perm ?_
  simp only [ParseState.destroyEndpoint, ParseState.reachable, Option.toList_none,
    append_nil, append_assoc]
  exact List.Perm.append_left _ (List.Perm.append_left _ perm_append_comm)

lemma Building.destroyResource (h : Building s) :
    InUse s.next (s.reachable ++ s.destroyResource.destroyEndpoint.destroyed) := by
  rw [Building] at h
  simpa [ParseState.destroyResource, ParseState.destroyEndpoint] using h

lemma reachable_addToDevice (h : s.resource = some resource) (di : CString) :
    (s.addToDevice di).reachable.Perm (s.reachable ++ resource.addresses) := by
  have hone : ((ownedDevices.insert s.out di resource).flatMap Prod.snd).Perm
      (s.out.flatMap Prod.snd ++ [resource]) :=
    Regroup.flatMap_insert (fun _ _ _ => rfl) rfl s.out di resource
  have hall := hone.flatMap_right OwnedResource.addresses
  rw [flatMap_append, flatMap_singleton] at hall
  rw [ParseState.addToDevice, h]
  exact hall

lemma Building.deviceStep (h : Building s) (hsome : s.resource.isSome)
    (hnone : s.endpoint = none) : Settled (deviceStep s) := by
  obtain ⟨resource, hresource⟩ := Option.isSome_iff_exists.mp hsome
  rw [Building, hnone, hresource] at h
  rw [Links.deviceStep, hresource, Option.bind_some]
  cases anchorDevice resource.value.anchor with
  | none =>
    refine ⟨hnone, ?_⟩
    simpa [ParseState.destroyResource, ParseState.reachable, hresource] using h
  | some di =>
    have hperm := (reachable_addToDevice hresource di).symm.append_right s.destroyed
    have hfields : (s.addToDevice di).endpoint = none ∧ (s.addToDevice di).next = s.next
        ∧ (s.addToDevice di).destroyed = s.destroyed := by
      rw [ParseState.addToDevice, hresource]
      exact ⟨hnone, rfl, rfl⟩
    refine ⟨hfields.1, ?_⟩
    rw [hfields.2.1, hfields.2.2]
    refine h.perm (List.Perm.trans ?_ hperm)
    simp only [Option.toList_some, Option.toList_none, flatMap_singleton, append_nil, append_assoc]
    exact List.Perm.append_left _ perm_append_comm

def Safe (run : Except ParseState ParseState) : Prop :=
  match run with
  | .ok s => Building s ∧ s.resource.isSome ∧ s.endpoint = none
  | .error s => Building s

lemma endpointsLoop_safe (h : Building s) (hsome : s.resource.isSome)
    (hnone : s.endpoint = none) : Safe (endpointsLoop strings items s) := by
  induction items generalizing s with
  | nil => exact ⟨h, hsome, hnone⟩
  | cons item items ih =>
    cases item with
    | map epMap =>
      have hcalloc := h.callocEndpoint hnone
      rw [endpointsLoop, endpointStep]
      cases parseEndpoint strings epMap with
      | none => exact hcalloc
      | some read =>
        cases read with
        | nil => exact ih hcalloc.destroyEndpoint hsome rfl
        | cons endpoint more =>
          refine ih (hcalloc.addNewEndpoint hsome (endpoint :: more)) ?_ rfl
          rw [ParseState.addNewEndpoint, Option.isSome_map]
          exact hsome
    | _ => exact ⟨h, hsome, hnone⟩

lemma resourceStep_safe (resourceMap : List RepItem)
    (h : Settled s) : Safe (resourceStep strings resourceMap s) := by
  obtain ⟨hbuilding, hnone⟩ := h.callocResource
  rw [resourceStep]
  cases readFields resourceMap with
  | none => exact hbuilding
  | some fields => exact endpointsLoop_safe strings _ hbuilding rfl hnone

lemma parseLoop_safe (h : Settled s) :
    (∀ s', parseLoop strings items s = .ok s' → Settled s')
      ∧ ∀ s', parseLoop strings items s = .error s' → Building s' := by
  have hdone : ∀ {s : ParseState}, Settled s →
      (∀ s', (Except.ok s : Except ParseState ParseState) = .ok s' → Settled s')
        ∧ ∀ s', Except.ok s = Except.error s' → Building s' := by
    intro s h
    refine ⟨fun s' hrun => Except.ok.inj hrun ▸ h, fun s' hrun => ?_⟩
    cases hrun
  induction items generalizing s with
  | nil => exact hdone h
  | cons item items ih =>
    cases item with
    | map resourceMap =>
      have hstep := resourceStep_safe strings resourceMap h
      rw [parseLoop]
      cases hrun : resourceStep strings resourceMap s with
      | error s' =>
        rw [hrun] at hstep
        refine ⟨fun s'' heq => ?_, fun s'' heq => Except.error.inj heq ▸ hstep⟩
        cases heq
      | ok s' =>
        rw [hrun] at hstep
        obtain ⟨hbuilding, hsome, hnone⟩ := hstep
        exact ih (hbuilding.deviceStep hsome hnone)
    | _ => exact hdone h

lemma started_settled (start : List OCDiscoveryPayload) : Settled (started start) := by
  refine ⟨rfl, ?_⟩
  have hnothing : (started start).reachable ++ (started start).destroyed = [] := by
    simp [started, ParseState.reachable]
  rw [hnothing]
  exact ⟨nodup_nil, forall_mem_nil _⟩

lemma parseRun_apart (start : List OCDiscoveryPayload) (items : List RepItem)
    (h : parseRun strings start items = .ok s ∨ parseRun strings start items = .error s) :
    (s.reachable ++ s.destroyed).Nodup := by
  obtain ⟨hok, herror⟩ := parseLoop_safe strings items (started_settled start)
  rw [parseRun] at h
  cases hrun : parseLoop strings items (started start) with
  | ok s' =>
    rw [hrun] at h
    obtain rfl : s' = s := by simpa using h
    exact (hok s' hrun).2.1
  | error s' =>
    rw [hrun] at h
    obtain rfl : s'.destroyResource.destroyEndpoint = s := by simpa using h
    exact (herror s' hrun).destroyResource.1

/-- **Discovery groups any array of links** by their devices, and its error path destroys
nothing that the output has. -/
theorem parseResources_grouping (strings : EndpointStrings) {start : List OCDiscoveryPayload}
    (hstart : IsStart start) (links : List (List RepItem)) :
    (∀ out, parseResources strings start (links.map .map) = some out →
        (∃ resources, links.mapM (parseResource strings) = some resources ∧ Grouped resources out)
        ∧ ∃ s, parseRun strings start (links.map .map) = .ok s ∧ s.values = out)
      ∧ (parseResources strings start (links.map .map) = none →
        ∃ s, parseRun strings start (links.map .map) = .error s
          ∧ s.destroyed.Nodup ∧ ∀ addr ∈ s.reachable, addr ∉ s.destroyed) := by
  have hstarted : (started start).values = start := by
    simp [started, ParseState.values, Function.comp_def]
  obtain ⟨hok, herror⟩ := parseLoop_values strings (links.map .map) (started start)
  rw [hstarted] at hok herror
  constructor
  · intro out hout
    obtain ⟨s, hrun, hvalues⟩ := hok out hout
    refine ⟨?_, s, by rw [parseRun, hrun], hvalues⟩
    rw [parseResources_eq, Option.map_eq_some_iff] at hout
    obtain ⟨resources, hresources, rfl⟩ := hout
    exact ⟨resources, hresources, grouped_insertAll hstart resources⟩
  · intro hnone
    obtain ⟨s, hrun⟩ := herror hnone
    have hfails : parseRun strings start (links.map .map)
        = .error s.destroyResource.destroyEndpoint := by rw [parseRun, hrun]
    have happart := parseRun_apart strings start _ (Or.inr hfails)
    rw [nodup_append] at happart
    obtain ⟨-, hdestroyed, hdisjoint⟩ := happart
    exact ⟨_, hfails, hdestroyed, fun addr hreach hgone => hdisjoint addr hreach addr hgone rfl⟩

def linkTo (anchor : String) : List RepItem :=
  flatten [(ocRsrvdHref.bytes, textItem (.const "/lamp")),
    (ocRsrvdUri.bytes, textItem (.const anchor)), (ocRsrvdPolicy.bytes, policyMap 3)]

theorem mixedLinks_grouped :
    let links := [linkTo "ocf://a/x", linkTo "ocf://b", linkTo "http://a", linkTo "ocf://a"]
    (∃ out, parseResources lampStrings [discoveryPayloadCreate] (links.map .map) = some out
      ∧ out.map (fun payload => (payload.sid, payload.resources.length))
        = [(some (.const "a"), 2), (some (.const "b"), 1)]
      ∧ ∃ resources, links.mapM (parseResource lampStrings) = some resources
        ∧ Grouped resources out)
    ∧ ∃ s, parseRun lampStrings [discoveryPayloadCreate] ((links ++ [[]]).map .map) = .error s
      ∧ s.destroyed.Nodup ∧ ∀ addr ∈ s.reachable, addr ∉ s.destroyed := by
  have hstart : IsStart [discoveryPayloadCreate] := Or.inr ⟨_, rfl, rfl, rfl⟩
  intro links
  refine ⟨?_, (parseResources_grouping lampStrings hstart (links ++ [[]])).2 (by decide)⟩
  have hshape : (parseResources lampStrings [discoveryPayloadCreate] (links.map .map)).map
      (List.map fun payload => (payload.sid, payload.resources.length))
      = some [(some (.const "a"), 2), (some (.const "b"), 1)] := by decide
  obtain ⟨out, hout, hlengths⟩ := Option.map_eq_some_iff.mp hshape
  exact ⟨out, hout, hlengths, ((parseResources_grouping lampStrings hstart links).1 out hout).1⟩

end Iochibity.Ocf.Links
