/-
The observers of all resources, `ocobserve.c`, `ocresource.c` and `ocstack.c`.
-/
import Iochibity.Ocf.ServerRequest
import Iochibity.Ocf.StackResult

namespace Iochibity.Ocf

open Coap (CAToken)

section

/-- `OCResource`, as far as observers go. `handle` is its address and `observable` the
property `OC_OBSERVABLE`. -/
structure ObservedResource where
  handle : ℕ
  observable : Bool
  observersHead : List ResourceObserver

def ObservedResource.update (change : List ResourceObserver → List ResourceObserver)
    (resource : ObservedResource) : ObservedResource :=
  { resource with observersHead := change resource.observersHead }

abbrev ObserveToken := { token : CAToken // token.bytes ≠ [] }

variable (behind : ResourceObserver → List UInt8)

def matchesToken (token : List UInt8) (out : ResourceObserver) : Bool :=
  token.isPrefixOf (out.token ++ behind out)

def getObserverUsingToken (observers : List ResourceObserver)
    (token : List UInt8) : Option ResourceObserver :=
  FirstMatch.lookup (matchesToken behind token) true observers

def deleteObserverUsingToken (token : List UInt8)
    (observers : List ResourceObserver) : List ResourceObserver :=
  FirstMatch.erase (matchesToken behind token) true observers

/-- The observer that `GetObserverUsingToken` finds changes in its place. -/
def modifyObserverUsingToken (token : List UInt8) (f : ResourceObserver → ResourceObserver)
    (observers : List ResourceObserver) : List ResourceObserver :=
  FirstMatch.modify (matchesToken behind token) true f observers

def getObserverFromResourceList (behind : ResourceObserver → List UInt8) (token : List UInt8) :
    List ObservedResource → Option (ObservedResource × ResourceObserver)
  | [] => none
  | resPtr :: rest =>
    match getObserverUsingToken behind resPtr.observersHead token with
    | some obsPtr => some (resPtr, obsPtr)
    | none => getObserverFromResourceList behind token rest

def updateResource (handle : ℕ) (change : List ResourceObserver → List ResourceObserver)
    (resources : List ObservedResource) : List ObservedResource :=
  FirstMatch.modify ObservedResource.handle handle (ObservedResource.update change) resources

section

variable (resources : List ObservedResource)

def isObservationIdExisting (observationId : UInt8) : Bool :=
  resources.any (fun resource =>
    (getObserverUsingId resource.observersHead observationId).isSome)

def generateObserverId (draws : List UInt8) : Option UInt8 :=
  draws.find? (fun observationId => !isObservationIdExisting resources observationId)

/-! ## Events -/

/-- `OC_OBSERVE_REGISTER` in `HandleResourceWithEntityHandler` and
`HandleVirtualObserveRequest`. -/
def registerObserver (handle : ℕ) (devAddr : OCDevAddr) (token : List UInt8)
    (qos : OCQualityOfService) (draws : List UInt8)
    (resources : List ObservedResource) : List ObservedResource :=
  match FirstMatch.lookup ObservedResource.handle handle resources with
  | none => resources
  | some resource =>
    match getObserverUsingToken behind resource.observersHead token with
    -- "Possibly re-transmitted CON OBS request", whoever sent it
    | some _ => resources
    | none =>
      match generateObserverId resources draws with
      | none => resources
      | some obsId =>
        if resource.observable = true then
          updateResource handle (addObserver · obsId token devAddr qos) resources
        else resources

def deregisterObserver (handle : ℕ) (token : List UInt8)
    (resources : List ObservedResource) : List ObservedResource :=
  updateResource handle (deleteObserverUsingToken behind token) resources

/-- The status of `OCStackFeedBack`. -/
inductive OCObserverStatus
  | notInterested | stillInterested | failedComm
  deriving DecidableEq

def stackFeedBack (token : List UInt8) (status : OCObserverStatus)
    (resources : List ObservedResource) : List ObservedResource :=
  match getObserverFromResourceList behind token resources with
  | none => resources
  | some (resource, observer) =>
    match status with
    | .notInterested =>
      updateResource resource.handle (deleteObserverUsingToken behind token) resources
    | .stillInterested =>
      updateResource resource.handle
        (modifyObserverUsingToken behind token stillInterested) resources
    | .failedComm =>
      if maxObserverFailedComm ≤ observer.failedCommCount then
        updateResource resource.handle (deleteObserverUsingToken behind token) resources
      else
        updateResource resource.handle (modifyObserverUsingToken behind token failedComm) resources

def observations : List (ℕ × ResourceObserver) :=
  resources.flatMap (fun resource => resource.observersHead.map (resource.handle, ·))

def OCDevAddr.sameAddress (devAddr devAddr' : OCDevAddr) : Bool :=
  devAddr.addr = devAddr'.addr && devAddr.port = devAddr'.port

section

variable (behind : ResourceObserver → ResourceObserver → List UInt8) (devAddr : OCDevAddr)
  (resources : List ObservedResource)

/-- One turn of the loops of `GiveStackFeedBackObserverNotInterested`. -/
def notInterestedTurn (entry : ℕ × ResourceObserver) : List ObservedResource :=
  if OCDevAddr.sameAddress entry.2.devAddr devAddr = true then
    stackFeedBack (behind entry.2) entry.2.token .notInterested resources
  else resources

/-- `GiveStackFeedBackObserverNotInterested`. A turn takes out no observer behind its own, which its
token finds, so the loops go through all there were. -/
def giveStackFeedBackObserverNotInterested : List ObservedResource :=
  (observations resources).foldl (notInterestedTurn behind devAddr) resources

end

/-- `DeleteObserverList`: each turn finds the observer it deletes at the head, and the
resource is deleted with the list. -/
def deleteResource (handle : ℕ) (resources : List ObservedResource) : List ObservedResource :=
  FirstMatch.erase ObservedResource.handle handle resources

/-- What happens to the observers. Registrations, deregistrations and feedback are about one
resource, one endpoint and one token. -/
inductive ObserveEvent
  | register (handle : ℕ) (devAddr : OCDevAddr) (token : ObserveToken)
      (qos : OCQualityOfService) (draws : List UInt8) (behind : ResourceObserver → List UInt8)
  | deregister (handle : ℕ) (devAddr : OCDevAddr) (token : ObserveToken)
      (behind : ResourceObserver → List UInt8)
  | resourceDeleted (handle : ℕ)
  | feedBack (handle : ℕ) (devAddr : OCDevAddr) (token : ObserveToken)
      (status : OCObserverStatus) (behind : ResourceObserver → List UInt8)
  | disconnect (devAddr : OCDevAddr)
      (behind : ResourceObserver → ResourceObserver → List UInt8)

def ObserveEvent.apply :
    ObserveEvent → List ObservedResource
  | register handle devAddr token qos draws behind =>
    registerObserver behind handle devAddr token.1.bytes qos draws resources
  | deregister handle _ token behind =>
    deregisterObserver behind handle token.1.bytes resources
  | resourceDeleted handle => deleteResource handle resources
  | feedBack _ _ token status behind => stackFeedBack behind token.1.bytes status resources
  | disconnect devAddr behind =>
    giveStackFeedBackObserverNotInterested behind devAddr resources

def runEvents (events : List ObserveEvent) : List ObservedResource :=
  events.foldl ObserveEvent.apply resources

/-! ## Drawing an observer id -/

/-- `GenerateObserverId` from its call number `calls` of `OCGetRandomBytes` on, which gives
`random`, or nothing where it fails. No result where it still draws after `fuel` rounds. -/
def observerIdLoop (resources : List ObservedResource) (random : ℕ → Option UInt8) :
    ℕ → ℕ → Option (Except OCStackResult UInt8)
  | 0, _ => none
  | fuel + 1, calls =>
    match random calls with
    | none => some (.error .error)
    | some observationId =>
      if isObservationIdExisting resources observationId then
        observerIdLoop resources random fuel (calls + 1)
      else some (.ok observationId)

def IdInUse (observationId : UInt8) : Prop :=
  ∃ resource ∈ resources, ∃ observer ∈ resource.observersHead, observer.observeId = observationId

end

/-- Some draws end the loop, the id it ends with is fresh, and without a free id it ends with an
error. -/
structure FreshIds (resources : List ObservedResource) : Prop where
  ends : ∃ random fuel result, (∀ calls, random calls ≠ none)
    ∧ observerIdLoop resources random fuel 0 = some result
  fresh : ∀ random fuel observationId,
    observerIdLoop resources random fuel 0 = some (.ok observationId) →
    ¬ IdInUse resources observationId
  refuses : (∀ observationId, IdInUse resources observationId) →
    ∀ random, ∃ fuel result, observerIdLoop resources random fuel 0 = some (.error result)

section Drawing

variable {resources : List ObservedResource} {random : ℕ → Option UInt8}

lemma isObservationIdExisting_iff (observationId : UInt8) :
    isObservationIdExisting resources observationId = true ↔ IdInUse resources observationId := by
  simp only [isObservationIdExisting, getObserverUsingId, List.any_eq_true, IdInUse]
  refine exists_congr fun resource => and_congr_right fun _ => ?_
  rw [FirstMatch.lookup, List.find?_isSome]
  simp

def EndsRight (resources : List ObservedResource) (random : ℕ → Option UInt8) :
    Except OCStackResult UInt8 → Prop
  | .ok observationId => ¬ IdInUse resources observationId
  | .error _ => ∃ call, random call = none

lemma endsRight_of_loop {result : Except OCStackResult UInt8} (fuel calls : ℕ)
    (h : observerIdLoop resources random fuel calls = some result) :
    EndsRight resources random result := by
  induction fuel generalizing calls with
  | zero => cases h
  | succ fuel ih =>
    rw [observerIdLoop] at h
    cases hdraw : random calls with
    | none =>
      simp only [hdraw, Option.some.injEq] at h
      subst h
      exact ⟨calls, hdraw⟩
    | some drawn =>
      simp only [hdraw] at h
      by_cases hused : isObservationIdExisting resources drawn
      · rw [if_pos hused] at h
        exact ih (calls + 1) h
      rw [if_neg hused, Option.some.injEq] at h
      subst h
      exact mt (isObservationIdExisting_iff drawn).mpr hused

lemma FreshIds.exists_free (h : FreshIds resources) :
    ∃ observationId, ¬ IdInUse resources observationId := by
  obtain ⟨random, fuel, result, hrandom, hloop⟩ := h.ends
  cases result with
  | ok observationId => exact ⟨observationId, h.fresh random fuel observationId hloop⟩
  | error result =>
    obtain ⟨call, hcall⟩ := endsRight_of_loop fuel 0 hloop
    exact absurd hcall (hrandom call)

/-- Observer ids are fresh, and drawing one cannot hang, exactly as long as some id is free. -/
theorem freshIds_iff (resources : List ObservedResource) :
    FreshIds resources ↔ ∃ observationId, ¬ IdInUse resources observationId := by
  refine ⟨FreshIds.exists_free, fun ⟨observationId, hfree⟩ => ⟨?_, ?_, ?_⟩⟩
  · refine ⟨fun _ => some observationId, 1, .ok observationId, fun _ => Option.some_ne_none _, ?_⟩
    simp only [observerIdLoop]
    rw [if_neg (mt (isObservationIdExisting_iff observationId).mp hfree)]
  · exact fun _ fuel _ h => endsRight_of_loop fuel 0 h
  · exact fun hall => absurd (hall observationId) hfree

def fullResource : ObservedResource :=
  ⟨0, true, (List.range 256).map fun id =>
    ⟨UInt8.ofNat id, [], ⟨0, ⟨[], Coap.CString.noNul_nil⟩, 0⟩, .low, 0, 0, false, []⟩⟩

theorem not_freshIds_full : ¬ FreshIds [fullResource] := by
  intro h
  obtain ⟨observationId, hfree⟩ := h.exists_free
  refine hfree ⟨fullResource, List.mem_singleton_self _, _,
    List.mem_map_of_mem (List.mem_range.mpr observationId.toNat_lt), ?_⟩
  exact UInt8.ofNat_toNat

end Drawing

end

open List
open FirstMatch (erase key_of_lookup lookup_eq_none mem_of_lookup slot)
open UniqueKeys (erase_eq_filter lookup_of_mem unique_cons unique_middle view view_eq_none
  view_filter)

/-! ## What an observation is -/

structure Observation where
  handle : ℕ
  devAddr : OCDevAddr
  token : List UInt8
  deriving DecidableEq

def observationOf (entry : ℕ × ResourceObserver) : Observation :=
  ⟨entry.1, entry.2.devAddr, entry.2.token⟩

/-- Whether there is an observation. It is `gone` when its resource is, or is not
observable; `failures` are those in a row. -/
inductive ObservationStatus
  | gone
  | absent
  | present (failures : ℕ)
  deriving DecidableEq

def ObservationStatus.ended : ObservationStatus → ObservationStatus
  | gone => gone
  | _ => absent

def ObservationStatus.registered : ObservationStatus → ObservationStatus
  | absent => present 0
  | status => status

def ObservationStatus.heard : OCObserverStatus → ObservationStatus → ObservationStatus
  | .notInterested, status => status.ended
  | .stillInterested, present _ => present 0
  | .failedComm, present failures =>
    if maxObserverFailedComm.toNat ≤ failures then absent else present (failures + 1)
  | _, status => status

def ObservationStatus.next (key : Observation) (status : ObservationStatus) :
    ObserveEvent → ObservationStatus
  | .register handle devAddr token _ _ _ =>
    if ⟨handle, devAddr, token.1.bytes⟩ = key then status.registered else status
  | .deregister handle devAddr token _ =>
    if ⟨handle, devAddr, token.1.bytes⟩ = key then status.ended else status
  | .resourceDeleted handle => if handle = key.handle then gone else status
  | .feedBack handle devAddr token heard _ =>
    if ⟨handle, devAddr, token.1.bytes⟩ = key then status.heard heard else status
  | .disconnect devAddr _ => if devAddr = key.devAddr then status.ended else status

section

variable (resources : List ObservedResource)

def isObservable (handle : ℕ) : Bool :=
  resources.any (fun resource => resource.handle = handle && resource.observable)

def failuresOf (key : Observation) (resources : List ObservedResource) : Option ℕ :=
  view observationOf (·.2.failedCommCount.toNat) key (observations resources)

def statusOf (key : Observation) : ObservationStatus :=
  if isObservable resources key.handle = true then
    (failuresOf key resources).elim .absent .present
  else .gone

structure IsRegistry (resources : List ObservedResource) : Prop where
  handles : UniqueKeys.Unique ObservedResource.handle resources
  unique : UniqueKeys.Unique observationOf (observations resources)

def ObserveEvent.HitsOwn : ObserveEvent → Prop
  -- nobody's observer is taken for the new one, unless that is there too, and an id is free
  | register handle devAddr token _ draws behind =>
    ∀ resource ∈ FirstMatch.lookup ObservedResource.handle handle resources,
      failuresOf ⟨handle, devAddr, token.1.bytes⟩ resources ≠ none
        ∨ getObserverUsingToken behind resource.observersHead token.1.bytes = none
          ∧ generateObserverId resources draws ≠ none
  | deregister handle devAddr token behind =>
    ∀ resource ∈ FirstMatch.lookup ObservedResource.handle handle resources,
      ∀ observer ∈ getObserverUsingToken behind resource.observersHead token.1.bytes,
        observationOf (handle, observer) = ⟨handle, devAddr, token.1.bytes⟩
  | resourceDeleted _ => True
  -- an observer that has not failed may be taken for one that has not
  | feedBack handle devAddr token status behind =>
    ∀ found ∈ getObserverFromResourceList behind token.1.bytes resources,
      observationOf (found.1.handle, found.2) = ⟨handle, devAddr, token.1.bytes⟩
        ∨ status = .stillInterested ∧ found.2.failedCommCount = 0
          ∧ (failuresOf ⟨handle, devAddr, token.1.bytes⟩ resources).getD 0 = 0
  -- nobody else has the address and port, or an earlier observer that is taken for one
  -- of this endpoint
  | disconnect devAddr behind =>
    (∀ entry ∈ observations resources,
      OCDevAddr.sameAddress entry.2.devAddr devAddr = true → entry.2.devAddr = devAddr)
    ∧ (observations resources).Pairwise (fun earlier later =>
        later.2.devAddr = devAddr →
        matchesToken (behind later.2) later.2.token earlier.2 = true →
        earlier.2.devAddr = devAddr)

end

def RunHitsOwn (resources : List ObservedResource) : List ObserveEvent → Prop
  | [] => True
  | event :: events => event.HitsOwn resources ∧ RunHitsOwn (event.apply resources) events

/-! ## The table of all observers -/

@[simp] lemma observations_nil : observations [] = [] := rfl

lemma observations_cons (resource : ObservedResource) (rest : List ObservedResource) :
    observations (resource :: rest)
      = resource.observersHead.map (resource.handle, ·) ++ observations rest := rfl

variable {resources : List ObservedResource}

variable {entry : ℕ × ResourceObserver}

lemma mem_observations :
    entry ∈ observations resources
      ↔ ∃ resource ∈ resources, resource.handle = entry.1 ∧ entry.2 ∈ resource.observersHead := by
  obtain ⟨handle, observer⟩ := entry
  unfold observations
  simp only [mem_flatMap, mem_map, Prod.mk.injEq]
  constructor
  · rintro ⟨resource, hmem, observer, hobs, rfl, rfl⟩
    exact ⟨resource, hmem, rfl, hobs⟩
  · rintro ⟨resource, hmem, rfl, hobs⟩
    exact ⟨resource, hmem, observer, hobs, rfl, rfl⟩

variable {handle : ℕ} {resource : ObservedResource}

lemma observations_split
    (h : FirstMatch.lookup ObservedResource.handle handle resources = some resource) :
    ∃ before after, observations resources
        = before ++ resource.observersHead.map (handle, ·) ++ after
      ∧ ∀ change, observations (updateResource handle change resources)
        = before ++ (change resource.observersHead).map (handle, ·) ++ after := by
  induction resources with
  | nil => exact absurd h (Option.some_ne_none _).symm
  | cons first rest ih =>
    by_cases hfirst : first.handle = handle
    · have heq : first = resource := by
        simpa [FirstMatch.lookup, hfirst] using h
      subst heq
      subst hfirst
      refine ⟨[], observations rest, observations_cons _ _, fun change => ?_⟩
      rw [updateResource, FirstMatch.modify, if_pos rfl, observations_cons]
      rfl
    have hrest : FirstMatch.lookup ObservedResource.handle handle rest = some resource := by
      simpa [FirstMatch.lookup, hfirst] using h
    obtain ⟨before, after, hsplit, hchange⟩ := ih hrest
    refine ⟨first.observersHead.map (first.handle, ·) ++ before, after, ?_, fun change => ?_⟩
    · rw [observations_cons, hsplit, append_assoc, append_assoc, append_assoc]
    · have hchanged := hchange change
      rw [updateResource] at hchanged ⊢
      rw [FirstMatch.modify, if_neg hfirst, observations_cons, hchanged, append_assoc,
        append_assoc, append_assoc]

variable {behind : ResourceObserver → List UInt8} {token : List UInt8}

variable {observer : ResourceObserver}

lemma observations_hit
    (h : FirstMatch.lookup ObservedResource.handle handle resources = some resource)
    (hhit : getObserverUsingToken behind resource.observersHead token = some observer) :
    ∃ before after, observations resources = before ++ (handle, observer) :: after
      ∧ observations (updateResource handle (deleteObserverUsingToken behind token) resources)
        = before ++ after
      ∧ ∀ f, observations (updateResource handle (modifyObserverUsingToken behind token f)
          resources) = before ++ (handle, f observer) :: after := by
  obtain ⟨before, after, hsplit, hchange⟩ := observations_split h
  obtain ⟨l₁, l₂, hlist, -, herase, hmodify⟩ := FirstMatch.split_of_lookup hhit
  refine ⟨before ++ l₁.map (handle, ·), l₂.map (handle, ·) ++ after, ?_, ?_, fun f => ?_⟩
  · rw [hsplit, hlist]
    simp
  · rw [hchange, deleteObserverUsingToken, herase]
    simp
  · rw [hchange, modifyObserverUsingToken, hmodify]
    simp

variable {found : ObservedResource × ResourceObserver}

lemma found_lookup (hnodup : UniqueKeys.Unique ObservedResource.handle resources)
    (h : getObserverFromResourceList behind token resources = some found) :
    FirstMatch.lookup ObservedResource.handle found.1.handle resources = some found.1
      ∧ getObserverUsingToken behind found.1.observersHead token = some found.2 := by
  induction resources with
  | nil => exact absurd h (Option.some_ne_none _).symm
  | cons first rest ih =>
    obtain ⟨hnew, hrest⟩ := unique_cons.mp hnodup
    rw [getObserverFromResourceList] at h
    cases hhit : getObserverUsingToken behind first.observersHead token with
    | some observer =>
      rw [hhit] at h
      obtain rfl := Option.some.inj h
      exact ⟨by simp [FirstMatch.lookup], hhit⟩
    | none =>
      rw [hhit] at h
      obtain ⟨hlookup, hfound⟩ := ih hrest h
      have hne := (hnew _ (mem_of_lookup _ hlookup)).symm
      refine ⟨?_, hfound⟩
      rw [FirstMatch.lookup, find?_cons_of_neg (by simpa using hne)]
      exact hlookup

lemma notFound_iff :
    getObserverFromResourceList behind token resources = none
      ↔ ∀ entry ∈ observations resources, matchesToken behind token entry.2 = false := by
  induction resources with
  | nil => simp [getObserverFromResourceList]
  | cons first rest ih =>
    rw [getObserverFromResourceList, observations_cons, forall_mem_append, ← ih]
    cases hhit : getObserverUsingToken behind first.observersHead token with
    | some observer =>
      have hmem := mem_of_lookup _ hhit
      have hmatch := key_of_lookup _ hhit
      simp only [reduceCtorEq, false_iff, not_and]
      intro hnone
      have hfalse := hnone (first.handle, observer) (mem_map_of_mem hmem)
      rw [hmatch] at hfalse
      simp at hfalse
    | none =>
      have hnone : ∀ observer ∈ first.observersHead,
          matchesToken behind token observer = false := by
        simpa [getObserverUsingToken, FirstMatch.lookup] using hhit
      refine (and_iff_right ?_).symm
      simpa using hnone

lemma observations_delete_found (hnodup : UniqueKeys.Unique ObservedResource.handle resources)
    (h : getObserverFromResourceList behind token resources = some found) :
    observations (updateResource found.1.handle (deleteObserverUsingToken behind token) resources)
      = (observations resources).eraseP (matchesToken behind token ·.2) := by
  induction resources with
  | nil => exact absurd h (Option.some_ne_none _).symm
  | cons first rest ih =>
    obtain ⟨hnew, hrest⟩ := unique_cons.mp hnodup
    rw [getObserverFromResourceList] at h
    cases hhit : getObserverUsingToken behind first.observersHead token with
    | some observer =>
      rw [hhit] at h
      obtain rfl := Option.some.inj h
      have hmem := mem_of_lookup _ hhit
      have hmatch := key_of_lookup _ hhit
      have herase := eraseP_append_left
        (p := fun entry : ℕ × ResourceObserver => matchesToken behind token entry.2)
        (a := (first.handle, observer)) hmatch (observations rest)
        (mem_map_of_mem (f := fun observer => (first.handle, observer)) hmem)
      rw [updateResource, FirstMatch.modify, if_pos rfl, observations_cons, observations_cons,
        herase, eraseP_map]
      simp [ObservedResource.update, deleteObserverUsingToken, erase, Function.comp_def]
    | none =>
      rw [hhit] at h
      have hne := (hnew _ (mem_of_lookup _ (found_lookup hrest h).1)).symm
      have hnone : ∀ observer ∈ first.observersHead,
          matchesToken behind token observer = false := by
        simpa [getObserverUsingToken, FirstMatch.lookup] using hhit
      rw [updateResource, FirstMatch.modify, if_neg hne, observations_cons, observations_cons,
        eraseP_append_right _ (by simpa using hnone)]
      exact congrArg _ (ih hrest h)

/-! ## Changing one resource -/

section

variable (handle : ℕ) (change : List ResourceObserver → List ResourceObserver)
  (resources : List ObservedResource)

lemma map_handle_updateResource :
    (updateResource handle change resources).map ObservedResource.handle
      = resources.map ObservedResource.handle := by
  unfold updateResource
  induction resources with
  | nil => rfl
  | cons first rest ih =>
    rw [FirstMatch.modify]
    split_ifs
    · rfl
    · rw [map_cons, ih, map_cons]

@[simp] lemma isObservable_updateResource (handle' : ℕ) :
    isObservable (updateResource handle change resources) handle'
      = isObservable resources handle' := by
  unfold updateResource isObservable
  induction resources with
  | nil => rfl
  | cons first rest ih =>
    rw [FirstMatch.modify]
    split_ifs
    · rfl
    · rw [any_cons, ih, any_cons]

end

lemma matchesToken_self (behind : ResourceObserver → List UInt8) (observer : ResourceObserver) :
    matchesToken behind observer.token observer = true := by
  unfold matchesToken
  rw [List.isPrefixOf_iff_prefix]
  simp

section Change

variable {behind : ResourceObserver → List UInt8} {token : List UInt8} {handle : ℕ}
  {resource : ObservedResource} {resources : List ObservedResource} {observer : ResourceObserver}

section

variable (hreg : IsRegistry resources)
  (h : FirstMatch.lookup ObservedResource.handle handle resources = some resource)
  (hhit : getObserverUsingToken behind resource.observersHead token = some observer)
include h hhit hreg

lemma failuresOf_hit :
    failuresOf (observationOf (handle, observer)) resources
      = some observer.failedCommCount.toNat := by
  obtain ⟨before, after, hsplit, -, -⟩ := observations_hit h hhit
  have hunique := hreg.unique
  unfold failuresOf
  rw [hsplit] at hunique ⊢
  have hview := UniqueKeys.view_of_mem
    (fun entry : ℕ × ResourceObserver => entry.2.failedCommCount.toNat) hunique
    (mem_append_right before mem_cons_self)
  exact hview

lemma delete_hit :
    IsRegistry (updateResource handle (deleteObserverUsingToken behind token) resources)
      ∧ ∀ key, failuresOf key
          (updateResource handle (deleteObserverUsingToken behind token) resources)
        = if observationOf (handle, observer) = key then none else failuresOf key resources := by
  obtain ⟨before, after, hsplit, hdelete, -⟩ := observations_hit h hhit
  have hunique := hreg.unique
  rw [hsplit] at hunique
  refine ⟨⟨?_, ?_⟩, fun key => ?_⟩
  · unfold UniqueKeys.Unique
    rw [map_handle_updateResource]
    exact hreg.handles
  · rw [hdelete]
    exact (unique_middle.mp hunique).2
  · unfold failuresOf
    rw [hdelete, hsplit]
    exact UniqueKeys.view_remove _ hunique key

lemma modify_hit {f : ResourceObserver → ResourceObserver}
    (hown : observationOf (handle, f observer) = observationOf (handle, observer)) :
    IsRegistry (updateResource handle (modifyObserverUsingToken behind token f) resources)
      ∧ ∀ key, failuresOf key
          (updateResource handle (modifyObserverUsingToken behind token f) resources)
        = if observationOf (handle, observer) = key then some (f observer).failedCommCount.toNat
          else failuresOf key resources := by
  obtain ⟨before, after, hsplit, -, hmodify⟩ := observations_hit h hhit
  have hunique := hreg.unique
  rw [hsplit] at hunique
  refine ⟨⟨?_, ?_⟩, fun key => ?_⟩
  · unfold UniqueKeys.Unique
    rw [map_handle_updateResource]
    exact hreg.handles
  · rw [hmodify]
    exact UniqueKeys.unique_rewrite hunique hown
  · unfold failuresOf
    rw [hmodify, hsplit]
    exact UniqueKeys.view_rewrite _ hunique hown key

end

lemma add_observer (observer : ResourceObserver) (hreg : IsRegistry resources)
    (h : FirstMatch.lookup ObservedResource.handle handle resources = some resource)
    (hnew : failuresOf (observationOf (handle, observer)) resources = none) :
    IsRegistry (updateResource handle (· ++ [observer]) resources)
      ∧ ∀ key, failuresOf key (updateResource handle (· ++ [observer]) resources)
        = if observationOf (handle, observer) = key then some observer.failedCommCount.toNat
          else failuresOf key resources := by
  obtain ⟨before, after, hsplit, hchange⟩ := observations_split h
  have hadd : observations (updateResource handle (· ++ [observer]) resources)
      = (before ++ resource.observersHead.map (handle, ·)) ++ (handle, observer) :: after := by
    rw [hchange]
    simp
  have hunique := hreg.unique
  unfold failuresOf at hnew
  rw [view_eq_none] at hnew
  rw [hsplit] at hunique hnew
  refine ⟨⟨?_, ?_⟩, fun key => ?_⟩
  · unfold UniqueKeys.Unique
    rw [map_handle_updateResource]
    exact hreg.handles
  · rw [hadd]
    exact unique_middle.mpr ⟨hnew, hunique⟩
  · unfold failuresOf
    rw [hadd, hsplit]
    exact UniqueKeys.view_middle _ hnew key

end Change

/-! ## What one event does -/

def KeepsApart (resources resources' : List ObservedResource)
    (own : Observation) (change : ObservationStatus → ObservationStatus) : Prop :=
  IsRegistry resources' ∧ ∀ key, statusOf resources' key
        = if own = key then change (statusOf resources key) else statusOf resources key

variable {own : Observation}

variable {change : ObservationStatus → ObservationStatus}

lemma keepsApart_of_failures {resources' : List ObservedResource} (hreg : IsRegistry resources')
    (hobs : ∀ handle, isObservable resources' handle = isObservable resources handle)
    (hgone : change .gone = .gone) (hown : (failuresOf own resources').elim .absent .present
      = change ((failuresOf own resources).elim .absent .present))
    (hother : ∀ key, own ≠ key → failuresOf key resources' = failuresOf key resources) :
    KeepsApart resources resources' own change := by
  refine ⟨hreg, fun key => ?_⟩
  unfold statusOf
  rw [hobs]
  by_cases hkey : own = key
  · subst hkey
    rw [if_pos rfl, hown]
    split_ifs
    · rfl
    · exact hgone.symm
  · simp [hkey, hother]

lemma keepsApart_refl (hreg : IsRegistry resources)
    (h : change (statusOf resources own) = statusOf resources own) :
    KeepsApart resources resources own change := by
  refine ⟨hreg, fun key => ?_⟩
  split_ifs with hkey
  · rw [← hkey, h]
  · rfl

lemma isObservable_eq_false
    (h : FirstMatch.lookup ObservedResource.handle handle resources = none) :
    isObservable resources handle = false := by
  unfold isObservable
  rw [any_eq_false]
  intro resource hmem
  have hne := (lookup_eq_none _).mp h
  simp only [slot, filter_eq_nil_iff, decide_eq_true_eq] at hne
  simp [hne resource hmem]

lemma statusOf_gone
    (h : isObservable resources own.handle = false) : statusOf resources own = .gone := by
  rw [statusOf, h, if_neg Bool.false_ne_true]

lemma isObservable_of_lookup (hreg : IsRegistry resources)
    (h : FirstMatch.lookup ObservedResource.handle handle resources = some resource) :
    isObservable resources handle = resource.observable := by
  have hhandle := key_of_lookup _ h
  have hmem := mem_of_lookup _ h
  unfold isObservable
  rw [Bool.eq_iff_iff, any_eq_true]
  constructor
  · rintro ⟨other, hother, hand⟩
    simp only [Bool.and_eq_true, decide_eq_true_eq] at hand
    have hsame := lookup_of_mem hreg.handles hother
    rw [hand.1, h] at hsame
    rw [Option.some.inj hsame]
    exact hand.2
  · exact fun hobs => ⟨resource, hmem, by simp [hhandle, hobs]⟩

lemma failuresOf_no_hit (devAddr : OCDevAddr) (hreg : IsRegistry resources)
    (h : FirstMatch.lookup ObservedResource.handle handle resources = some resource)
    (hnone : getObserverUsingToken behind resource.observersHead token = none) :
    failuresOf ⟨handle, devAddr, token⟩ resources = none := by
  unfold failuresOf
  rw [view_eq_none]
  rintro ⟨handle', observer⟩ hmem hown
  rw [mem_observations] at hmem
  obtain ⟨resource', hmem', hhandle', hobserver⟩ := hmem
  obtain ⟨rfl, -, rfl⟩ := Observation.mk.inj hown
  have hsame := lookup_of_mem hreg.handles hmem'
  rw [hhandle', h] at hsame
  obtain rfl := Option.some.inj hsame
  have hfalse := (lookup_eq_none _).mp hnone
  simp only [slot, filter_eq_nil_iff, decide_eq_true_eq] at hfalse
  exact hfalse observer hobserver (matchesToken_self behind observer)

variable {devAddr : OCDevAddr}

lemma registerObserver_keepsApart {token : ObserveToken} {qos : OCQualityOfService}
    {draws : List UInt8} (hreg : IsRegistry resources)
    (hown : ObserveEvent.HitsOwn resources (.register handle devAddr token qos draws behind)) :
    KeepsApart resources (registerObserver behind handle devAddr token.1.bytes qos draws resources)
      ⟨handle, devAddr, token.1.bytes⟩ ObservationStatus.registered := by
  unfold registerObserver
  cases hlookup : FirstMatch.lookup ObservedResource.handle handle resources with
  | none =>
    refine keepsApart_refl hreg ?_
    rw [statusOf_gone (isObservable_eq_false hlookup)]
    rfl
  | some resource =>
    -- an observation that is there is not registered again
    have hthere : failuresOf ⟨handle, devAddr, token.1.bytes⟩ resources ≠ none →
        (statusOf resources ⟨handle, devAddr, token.1.bytes⟩).registered
          = statusOf resources ⟨handle, devAddr, token.1.bytes⟩ := by
      intro hsome
      obtain ⟨failures, hfailures⟩ := Option.ne_none_iff_exists'.mp hsome
      rw [statusOf, hfailures]
      split_ifs <;> rfl
    have hown := hown resource hlookup
    dsimp only
    cases hhit : getObserverUsingToken behind resource.observersHead token.1.bytes with
    | some observer =>
      refine keepsApart_refl hreg (hthere ?_)
      exact hown.resolve_right (fun hno => by rw [hhit] at hno; exact absurd hno.1 (by simp))
    | none =>
      have hnew := failuresOf_no_hit devAddr hreg hlookup hhit
      obtain ⟨obsId, hid⟩ := Option.ne_none_iff_exists'.mp (hown.resolve_left (· hnew)).2
      dsimp only
      rw [hid]
      dsimp only
      split_ifs with hobservable
      · obtain ⟨hreg', hfailures⟩ := add_observer
          ⟨obsId, token.1.bytes, devAddr, qos, 0, 0, false, []⟩ hreg hlookup hnew
        refine keepsApart_of_failures hreg' (isObservable_updateResource _ _ _) rfl ?_ ?_
        · have hmine := (hfailures ⟨handle, devAddr, token.1.bytes⟩).trans (if_pos rfl)
          unfold addObserver
          rw [hmine, hnew]
          rfl
        · exact fun key hkey => (hfailures key).trans (if_neg hkey)
      · refine keepsApart_refl hreg ?_
        have hgone := (isObservable_of_lookup hreg hlookup).trans
          (Bool.eq_false_of_not_eq_true hobservable)
        rw [statusOf_gone hgone]
        rfl

lemma delete_keepsApart (hreg : IsRegistry resources)
    (h : FirstMatch.lookup ObservedResource.handle handle resources = some resource)
    (hhit : getObserverUsingToken behind resource.observersHead token = some observer) :
    KeepsApart resources (updateResource handle (deleteObserverUsingToken behind token) resources)
      (observationOf (handle, observer)) ObservationStatus.ended := by
  obtain ⟨hreg', hfailures⟩ := delete_hit hreg h hhit
  refine keepsApart_of_failures hreg' (isObservable_updateResource _ _ _) rfl ?_ ?_
  · rw [(hfailures _).trans (if_pos rfl)]
    cases failuresOf (observationOf (handle, observer)) resources <;> rfl
  · exact fun key hkey => (hfailures key).trans (if_neg hkey)

lemma deregisterObserver_keepsApart {token : ObserveToken} (hreg : IsRegistry resources)
    (hown : ObserveEvent.HitsOwn resources (.deregister handle devAddr token behind)) :
    KeepsApart resources (deregisterObserver behind handle token.1.bytes resources)
      ⟨handle, devAddr, token.1.bytes⟩ ObservationStatus.ended := by
  unfold deregisterObserver
  cases hlookup : FirstMatch.lookup ObservedResource.handle handle resources with
  | none =>
    have hsame : updateResource handle (deleteObserverUsingToken behind token.1.bytes) resources
        = resources :=
      FirstMatch.modify_of_slot_nil ((lookup_eq_none _).mp hlookup)
    rw [hsame]
    refine keepsApart_refl hreg ?_
    rw [statusOf_gone (isObservable_eq_false hlookup)]
    rfl
  | some resource =>
    cases hhit : getObserverUsingToken behind resource.observersHead token.1.bytes with
    | some observer =>
      have hkeeps := delete_keepsApart hreg hlookup hhit
      rw [hown resource hlookup observer hhit] at hkeeps
      exact hkeeps
    | none =>
      -- nothing is deleted, and there was nothing to delete
      obtain ⟨before, after, hsplit, hchange⟩ := observations_split hlookup
      have hsame : observations
          (updateResource handle (deleteObserverUsingToken behind token.1.bytes) resources)
            = observations resources := by
        have hkept : deleteObserverUsingToken behind token.1.bytes resource.observersHead
            = resource.observersHead := by
          have hall := (lookup_eq_none _).mp hhit
          simp only [slot, filter_eq_nil_iff] at hall
          exact eraseP_of_forall_not hall
        rw [hchange, hkept, hsplit]
      have hfailures : ∀ key, failuresOf key
          (updateResource handle (deleteObserverUsingToken behind token.1.bytes) resources)
            = failuresOf key resources := by
        intro key
        unfold failuresOf
        rw [hsame]
      have hnew := failuresOf_no_hit devAddr hreg hlookup hhit
      refine keepsApart_of_failures ⟨?_, ?_⟩ (isObservable_updateResource _ _ _) rfl ?_ ?_
      · unfold UniqueKeys.Unique
        rw [map_handle_updateResource]
        exact hreg.handles
      · rw [hsame]
        exact hreg.unique
      · rw [hfailures, hnew]
        rfl
      · exact fun key _ => hfailures key

lemma stackFeedBack_keepsApart {token : ObserveToken} {status : OCObserverStatus}
    (hreg : IsRegistry resources)
    (hown : ObserveEvent.HitsOwn resources (.feedBack handle devAddr token status behind)) :
    KeepsApart resources (stackFeedBack behind token.1.bytes status resources)
      ⟨handle, devAddr, token.1.bytes⟩ (ObservationStatus.heard status) := by
  unfold stackFeedBack
  cases hfound : getObserverFromResourceList behind token.1.bytes resources with
  | none =>
    -- no token in the whole registry is hit, so the observation's own is not there
    have hnone : failuresOf ⟨handle, devAddr, token.1.bytes⟩ resources = none := by
      unfold failuresOf
      rw [view_eq_none]
      rintro ⟨handle', observer⟩ hmem heq
      obtain ⟨-, -, htoken⟩ := Observation.mk.inj heq
      have hfalse := notFound_iff.mp hfound _ hmem
      rw [← htoken, matchesToken_self] at hfalse
      simp at hfalse
    refine keepsApart_refl hreg ?_
    rw [statusOf, hnone]
    split_ifs <;> cases status <;> rfl
  | some found =>
    obtain ⟨resource, observer⟩ := found
    obtain ⟨hlookup, hhit⟩ := found_lookup hreg.handles hfound
    have hcount := failuresOf_hit hreg hlookup hhit
    obtain hmine | ⟨rfl, hzero, hnone⟩ := hown (resource, observer) hfound
    · rw [← hmine]
      cases status with
      | notInterested => exact delete_keepsApart hreg hlookup hhit
      | stillInterested =>
        obtain ⟨hreg', hfailures⟩ := modify_hit (f := stillInterested) hreg hlookup hhit rfl
        refine keepsApart_of_failures hreg' (isObservable_updateResource _ _ _) rfl ?_ ?_
        · rw [(hfailures _).trans (if_pos rfl), hcount]
          rfl
        · exact fun key hkey => (hfailures key).trans (if_neg hkey)
      | failedComm =>
        dsimp only
        split_ifs with hmax
        · obtain ⟨hreg', hfailures⟩ := delete_hit hreg hlookup hhit
          refine keepsApart_of_failures hreg' (isObservable_updateResource _ _ _) rfl ?_ ?_
          · rw [(hfailures _).trans (if_pos rfl), hcount]
            exact (if_pos (UInt8.le_iff_toNat_le.mp hmax)).symm
          · exact fun key hkey => (hfailures key).trans (if_neg hkey)
        · obtain ⟨hreg', hfailures⟩ := modify_hit (f := failedComm) hreg hlookup hhit rfl
          refine keepsApart_of_failures hreg' (isObservable_updateResource _ _ _) rfl ?_ ?_
          · have hfew : observer.failedCommCount.toNat < 2 := by
              rw [UInt8.not_le, UInt8.lt_iff_toNat_lt] at hmax
              exact hmax
            have hcounted : (failedComm observer).failedCommCount.toNat
                = observer.failedCommCount.toNat + 1 := by
              unfold failedComm
              rw [UInt8.toNat_add]
              exact Nat.mod_eq_of_lt (by simp; omega)
            rw [(hfailures _).trans (if_pos rfl), hcount, hcounted]
            exact (if_neg (Nat.not_le.mpr hfew)).symm
          · exact fun key hkey => (hfailures key).trans (if_neg hkey)
    -- somebody else's failures are reset, and there were none
    obtain ⟨hreg', hfailures⟩ := modify_hit (f := stillInterested) hreg hlookup hhit rfl
    have hsame : ∀ key, failuresOf key
        (updateResource resource.handle
          (modifyObserverUsingToken behind token.1.bytes stillInterested) resources)
          = failuresOf key resources := by
      intro key
      rw [hfailures key]
      split_ifs with hkey
      · rw [← hkey, hcount]
        exact congrArg (fun count : UInt8 => some count.toNat) hzero.symm
      · rfl
    refine keepsApart_of_failures hreg' (isObservable_updateResource _ _ _) rfl ?_ ?_
    · rw [hsame]
      cases hmine : failuresOf ⟨handle, devAddr, token.1.bytes⟩ resources with
      | none => rfl
      | some failures =>
        rw [hmine] at hnone
        obtain rfl : failures = 0 := hnone
        rfl
    · exact fun key _ => hsame key

lemma deleteResource_status (hreg : IsRegistry resources) :
    IsRegistry (deleteResource handle resources)
      ∧ ∀ key, statusOf (deleteResource handle resources) key
          = if handle = key.handle then .gone else statusOf resources key := by
  have hobservations : ∀ resources : List ObservedResource,
      observations (resources.filter (·.handle ≠ handle))
        = (observations resources).filter (fun entry => (observationOf entry).handle ≠ handle) := by
    intro resources
    induction resources with
    | nil => rfl
    | cons first rest ih =>
      rw [observations_cons, filter_append, ← ih]
      by_cases hfirst : first.handle = handle
      · simp [hfirst, observationOf, filter_map, Function.comp_def]
      · simp [hfirst, observationOf, filter_map, Function.comp_def, observations_cons]
  have hobservable : ∀ key, isObservable (deleteResource handle resources) key
      = (isObservable resources key && decide (handle ≠ key)) := by
    intro key
    unfold deleteResource isObservable
    rw [erase_eq_filter hreg.handles, Bool.eq_iff_iff]
    simp only [any_eq_true, mem_filter, Bool.and_eq_true, decide_eq_true_eq]
    constructor
    · rintro ⟨resource, ⟨hmem, hne⟩, rfl, hobs⟩
      exact ⟨⟨resource, hmem, rfl, hobs⟩, Ne.symm hne⟩
    · rintro ⟨⟨resource, hmem, rfl, hobs⟩, hne⟩
      exact ⟨resource, ⟨hmem, Ne.symm hne⟩, rfl, hobs⟩
  refine ⟨⟨?_, ?_⟩, fun key => ?_⟩
  · exact hreg.handles.sublist eraseP_sublist
  · rw [deleteResource, erase_eq_filter hreg.handles, hobservations]
    exact hreg.unique.sublist filter_sublist
  · unfold statusOf
    rw [hobservable]
    by_cases hhandle : handle = key.handle
    · rw [if_pos hhandle, hhandle]
      simp
    have hview :=
        view_filter (·.2.failedCommCount.toNat) observationOf
      (fun key : Observation => decide (key.handle ≠ handle)) key (observations resources)
    rw [if_pos (by simpa using Ne.symm hhandle)] at hview
    rw [if_neg hhandle]
    unfold failuresOf
    rw [deleteResource, erase_eq_filter hreg.handles, hobservations, hview]
    simp [hhandle]

lemma sameAddress_self (devAddr : OCDevAddr) : OCDevAddr.sameAddress devAddr devAddr = true := by
  simp [OCDevAddr.sameAddress]

lemma stackFeedBack_resources (behind : ResourceObserver → List UInt8) (token : List UInt8)
    (status : OCObserverStatus) (resources : List ObservedResource) :
    (stackFeedBack behind token status resources).map ObservedResource.handle
        = resources.map ObservedResource.handle
      ∧ ∀ handle, isObservable (stackFeedBack behind token status resources) handle
        = isObservable resources handle := by
  unfold stackFeedBack
  cases getObserverFromResourceList behind token resources with
  | none => exact ⟨rfl, fun _ => rfl⟩
  | some found =>
    have hupdate : ∀ change,
        (updateResource found.1.handle change resources).map ObservedResource.handle
            = resources.map ObservedResource.handle
          ∧ ∀ handle, isObservable (updateResource found.1.handle change resources) handle
            = isObservable resources handle :=
      fun change => ⟨map_handle_updateResource _ _ _, isObservable_updateResource _ _ _⟩
    cases status with
    | notInterested | stillInterested => exact hupdate _
    | failedComm =>
      dsimp only
      split_ifs
      · exact hupdate _
      · exact hupdate _

lemma observations_turn (hhandles : UniqueKeys.Unique ObservedResource.handle resources)
    {kept todo : List (ℕ × ResourceObserver)}
    (hsplit : observations resources = kept ++ entry :: todo)
    (hkept : ∀ earlier ∈ kept, matchesToken behind entry.2.token earlier.2 = false) :
    observations (stackFeedBack behind entry.2.token .notInterested resources) = kept ++ todo := by
  have hself := matchesToken_self behind entry.2
  unfold stackFeedBack
  cases hfound : getObserverFromResourceList behind entry.2.token resources with
  | none =>
    have hmem : entry ∈ observations resources :=
      hsplit ▸ mem_append_right kept mem_cons_self
    have hfalse := notFound_iff.mp hfound entry hmem
    rw [hself] at hfalse
    simp at hfalse
  | some found =>
    have hdelete := observations_delete_found hhandles hfound
    rw [hsplit, eraseP_append_right _ (by simpa using hkept),
      eraseP_cons_of_pos (by exact hself)] at hdelete
    exact hdelete

lemma disconnect_loop {behind : ResourceObserver → ResourceObserver → List UInt8}
    (todo kept : List (ℕ × ResourceObserver)) (resources : List ObservedResource)
    (hhandles : UniqueKeys.Unique ObservedResource.handle resources)
    (hsplit : observations resources = kept ++ todo) (haddress : ∀ entry ∈ todo,
      OCDevAddr.sameAddress entry.2.devAddr devAddr = true → entry.2.devAddr = devAddr)
    (hkept : ∀ earlier ∈ kept, ∀ later ∈ todo, later.2.devAddr = devAddr →
      matchesToken (behind later.2) later.2.token earlier.2 = false)
    (htodo : todo.Pairwise (fun earlier later => later.2.devAddr = devAddr →
      matchesToken (behind later.2) later.2.token earlier.2 = true →
      earlier.2.devAddr = devAddr)) :
    observations (todo.foldl (notInterestedTurn behind devAddr) resources)
        = kept ++ todo.filter (·.2.devAddr ≠ devAddr)
      ∧ (todo.foldl (notInterestedTurn behind devAddr) resources).map ObservedResource.handle
        = resources.map ObservedResource.handle
      ∧ ∀ handle, isObservable (todo.foldl (notInterestedTurn behind devAddr) resources) handle
        = isObservable resources handle := by
  induction todo generalizing kept resources with
  | nil =>
    rw [foldl_nil, filter_nil]
    exact ⟨hsplit, rfl, fun _ => rfl⟩
  | cons entry todo ih =>
    rw [forall_mem_cons] at haddress
    rw [pairwise_cons] at htodo
    rw [foldl_cons]
    by_cases hdev : entry.2.devAddr = devAddr
    · -- one of the endpoint's own, which is deleted
      have hturn : notInterestedTurn behind devAddr resources entry
          = stackFeedBack (behind entry.2) entry.2.token .notInterested resources := by
        rw [notInterestedTurn, hdev, if_pos (sameAddress_self devAddr)]
      obtain ⟨hmap, hobs⟩ := stackFeedBack_resources (behind entry.2) entry.2.token
        .notInterested resources
      have hdeleted := observations_turn hhandles hsplit
        (fun earlier hmem => hkept earlier hmem entry mem_cons_self hdev)
      have hhandles' : UniqueKeys.Unique ObservedResource.handle
          (stackFeedBack (behind entry.2) entry.2.token .notInterested resources) := by
        unfold UniqueKeys.Unique
        rw [hmap]
        exact hhandles
      obtain ⟨hrest, hrestMap, hrestObs⟩ := ih kept _ hhandles' hdeleted haddress.2
        (fun earlier hearlier later hlater =>
          hkept earlier hearlier later (mem_cons_of_mem _ hlater)) htodo.2
      rw [hturn, filter_cons_of_neg (by simpa using hdev)]
      exact ⟨hrest, hrestMap.trans hmap, fun handle => (hrestObs handle).trans (hobs handle)⟩
    -- one of another endpoint, which stays
    have hturn : notInterestedTurn behind devAddr resources entry = resources := by
      rw [notInterestedTurn, if_neg (fun hsame => hdev (haddress.1 hsame))]
    have hkept' : ∀ earlier ∈ kept ++ [entry], ∀ later ∈ todo, later.2.devAddr = devAddr →
        matchesToken (behind later.2) later.2.token earlier.2 = false := by
      intro earlier hearlier later hlater hlaterDev
      rcases mem_append.mp hearlier with hold | hnew
      · exact hkept earlier hold later (mem_cons_of_mem _ hlater) hlaterDev
      obtain rfl := mem_singleton.mp hnew
      exact Bool.eq_false_of_not_eq_true
        (fun hmatch => hdev (htodo.1 later hlater hlaterDev hmatch))
    have hrest := ih (kept ++ [entry]) resources hhandles (by simpa using hsplit) haddress.2
      hkept' htodo.2
    rw [hturn, filter_cons_of_pos (by simpa using hdev)]
    rw [append_assoc] at hrest
    exact hrest

lemma disconnect_status {behind : ResourceObserver → ResourceObserver → List UInt8}
    (hreg : IsRegistry resources)
    (hown : ObserveEvent.HitsOwn resources (.disconnect devAddr behind)) :
    IsRegistry (giveStackFeedBackObserverNotInterested behind devAddr resources)
      ∧ ∀ key, statusOf (giveStackFeedBackObserverNotInterested behind devAddr resources) key
          = if devAddr = key.devAddr then (statusOf resources key).ended
            else statusOf resources key := by
  obtain ⟨hobservations, hmap, hobs⟩ := disconnect_loop (observations resources) [] resources
    hreg.handles rfl hown.1 (fun _ h => absurd h not_mem_nil) hown.2
  rw [nil_append] at hobservations
  unfold giveStackFeedBackObserverNotInterested
  refine ⟨⟨?_, ?_⟩, fun key => ?_⟩
  · unfold UniqueKeys.Unique
    rw [hmap]
    exact hreg.handles
  · rw [hobservations]
    exact hreg.unique.sublist filter_sublist
  · have hview := view_filter (·.2.failedCommCount.toNat) observationOf
      (fun key : Observation => decide (key.devAddr ≠ devAddr)) key (observations resources)
    unfold statusOf failuresOf
    rw [hobs, hobservations]
    by_cases hdev : devAddr = key.devAddr
    · rw [if_neg (by simpa using hdev.symm)] at hview
      rw [if_pos hdev]
      split_ifs
      · refine (congrArg
          (fun failures : Option ℕ => failures.elim ObservationStatus.absent .present)
          hview).trans ?_
        cases view observationOf _ key (observations resources) <;> rfl
      · rfl
    rw [if_pos (by simpa using Ne.symm hdev)] at hview
    rw [if_neg hdev]
    split_ifs
    · exact congrArg (fun failures : Option ℕ => failures.elim ObservationStatus.absent .present)
        hview
    · rfl

/-! ## Runs -/

lemma apply_status {event : ObserveEvent} (hreg : IsRegistry resources)
    (hown : event.HitsOwn resources) :
    IsRegistry (event.apply resources)
      ∧ ∀ key, statusOf (event.apply resources) key = (statusOf resources key).next key event := by
  cases event with
  | register handle devAddr token qos draws behind => exact registerObserver_keepsApart hreg hown
  | deregister handle devAddr token behind => exact deregisterObserver_keepsApart hreg hown
  | resourceDeleted handle => exact deleteResource_status hreg
  | feedBack handle devAddr token status behind => exact stackFeedBack_keepsApart hreg hown
  | disconnect devAddr behind => exact disconnect_status hreg hown

lemma runEvents_status (events : List ObserveEvent) (hreg : IsRegistry resources)
    (hown : RunHitsOwn resources events) :
    IsRegistry (runEvents resources events) ∧ ∀ key, statusOf (runEvents resources events) key
          = events.foldl (ObservationStatus.next key) (statusOf resources key) := by
  induction events generalizing resources with
  | nil => exact ⟨hreg, fun _ => rfl⟩
  | cons event events ih =>
    obtain ⟨hreg', hstatus⟩ := apply_status hreg hown.1
    obtain ⟨hreg'', hrest⟩ := ih hreg' hown.2
    refine ⟨hreg'', fun key => ?_⟩
    rw [foldl_cons, ← hstatus]
    exact hrest key

/-- **Observations do not interfere.** From resources without observers on, in every run of
events whose searches hit nothing but what they are about, an observation is in the
registry, once and with its failures, exactly when its own events say so. -/
theorem observations_isolated {resources : List ObservedResource}
    (hhandles : UniqueKeys.Unique ObservedResource.handle resources)
    (hempty : ∀ resource ∈ resources, resource.observersHead = [])
    (events : List ObserveEvent) (hown : RunHitsOwn resources events) :
    UniqueKeys.Unique observationOf (observations (runEvents resources events))
      ∧ ∀ key, statusOf (runEvents resources events) key = events.foldl (ObservationStatus.next key)
              (if isObservable resources key.handle = true then .absent else .gone) := by
  have hnone : observations resources = [] := by
    unfold observations
    rw [flatMap_eq_nil_iff]
    intro resource hmem
    simp [hempty, hmem]
  have hreg : IsRegistry resources := ⟨hhandles, hnone ▸ UniqueKeys.unique_nil⟩
  obtain ⟨hreg', hstatus⟩ := runEvents_status events hreg hown
  refine ⟨hreg'.unique, fun key => ?_⟩
  have hstart : statusOf resources key
      = if isObservable resources key.handle = true then .absent else .gone := by
    unfold statusOf failuresOf
    rw [hnone]
    rfl
  rw [hstatus, hstart]

def lampAndDoor : List ObservedResource := [⟨1, true, []⟩, ⟨2, true, []⟩]

def tokenOne : ObserveToken := ⟨Coap.tokenOne, cons_ne_nil _ _⟩

def tokenTwo : ObserveToken := ⟨⟨[2], by decide⟩, by decide⟩

def endpointOne : OCDevAddr := ⟨1, Coap.addrOne, 1⟩

def endpointTwo : OCDevAddr := ⟨1, Coap.addrTwo, 1⟩

def calmRun : List ObserveEvent :=
  [.register 1 endpointOne tokenOne .low [7] (fun _ => []),
    .register 1 endpointTwo tokenTwo .low [7, 8] (fun _ => []),
    .feedBack 1 endpointOne tokenOne .failedComm (fun _ => []),
    .disconnect endpointTwo (fun _ _ => [])]

theorem calmRun_isolated :
    statusOf (runEvents lampAndDoor calmRun) ⟨1, endpointOne, [1]⟩ = .present 1
      ∧ statusOf (runEvents lampAndDoor calmRun) ⟨1, endpointTwo, [2]⟩ = .absent := by
  have hhits : RunHitsOwn lampAndDoor calmRun := by
    refine ⟨?_, ?_, ?_, ?_, trivial⟩
    · rintro resource ⟨⟩
      exact .inr (by decide)
    · rintro resource ⟨⟩
      exact .inr (by decide)
    · rintro found ⟨⟩
      exact .inl rfl
    · exact ⟨by decide, by decide⟩
  have hisolated := observations_isolated (by unfold UniqueKeys.Unique; decide) (by decide)
    calmRun hhits
  exact ⟨(hisolated.2 _).trans (by decide), (hisolated.2 _).trans (by decide)⟩

theorem equal_tokens_interfere :
    statusOf (runEvents lampAndDoor
        [.register 1 endpointOne tokenOne .low [7] (fun _ => []),
          .register 1 endpointTwo tokenOne .low [8] (fun _ => [])]) ⟨1, endpointTwo, [1]⟩
        = .absent
      ∧ [ObserveEvent.register 1 endpointOne tokenOne .low [7] (fun _ => []),
          .register 1 endpointTwo tokenOne .low [8] (fun _ => [])].foldl
            (ObservationStatus.next ⟨1, endpointTwo, [1]⟩) .absent = .present 0
      ∧ statusOf (runEvents lampAndDoor
        [.register 1 endpointOne ⟨⟨[1, 5], by decide⟩, by decide⟩ .low [7] (fun _ => []),
          .deregister 1 endpointTwo tokenOne (fun _ => [])]) ⟨1, endpointOne, [1, 5]⟩
        = .absent := by
  decide

end Iochibity.Ocf
