/-
`deviceonboardingstate.c`: the states of onboarding, and the POST handlers of `/oic/sec/pstat` and
`/oic/sec/doxm` that drive them.
-/
import Iochibity.Lib.Runs
import Iochibity.Sec.DoxmResource

namespace Iochibity.Sec

open CborLookup Attempts

/-- The secure virtual resources as far as onboarding reads and writes them. The last field lists
what reading `pstat` from the storage may give: what was there at the start, with the reset profile,
or was written since. -/
structure SecureResources where
  gDoxm : Option OicSecDoxm
  gPstat : Option OicSecPstat
  aclRownerID : Option OicUuid
  credRownerID : OicUuid
  storedPstats : List OicSecPstat

/-- Where `InitPstatResource` gets `gPstat` from. -/
inductive PstatSource
  | nowhere
  | kept
  | stored (i : Nat)
  deriving DecidableEq

/-- How a reset goes: the result of `ResetSecureResources` with what it leaves, the writes of `acl`,
`cred` and `pstat`, and the cipher suite. -/
structure ResetWorld where
  resetSecureResources : Bool
  gDoxm : Option OicSecDoxm
  pstatSource : PstatSource
  aclRownerID : Option OicUuid
  credRownerID : OicUuid
  aclWrite : Bool
  credWrite : Bool
  pstatWrite : Bool
  enableAnonECDHCipherSuite : Bool

/-! ## Setters -/

/-- The setters of `pstatresource.c` without a write: an error without `gPstat`. -/
def updatePstat (f : OicSecPstat → OicSecPstat) (svrs : SecureResources) : Bool × SecureResources :=
  match svrs.gPstat with
  | none => (false, svrs)
  | some pstat => (true, { svrs with gPstat := some (f pstat) })

def setPstatDosS (s : OicSecDeviceOnboardingState) : SecureResources → Bool × SecureResources :=
  updatePstat (fun pstat => { pstat with dos := { pstat.dos with state := s } })

def setPstatDosP (p : Bool) : SecureResources → Bool × SecureResources :=
  updatePstat (fun pstat => { pstat with dos := { pstat.dos with pending := p } })

def setPstatIsop (isop : Bool) : SecureResources → Bool × SecureResources :=
  updatePstat ({ · with isOp := isop })

def setPstatCm (cm : UInt32) : SecureResources → Bool × SecureResources :=
  updatePstat ({ · with cm := cm })

def setPstatTm (tm : UInt32) : SecureResources → Bool × SecureResources :=
  updatePstat ({ · with tm := tm })

/-- The setters of `doxmresource.c` without a write. -/
def updateDoxm (f : OicSecDoxm → OicSecDoxm) (svrs : SecureResources) : Bool × SecureResources :=
  match svrs.gDoxm with
  | none => (false, svrs)
  | some doxm => (true, { svrs with gDoxm := some (f doxm) })

def setDoxmIsOwned (isowned : Bool) : SecureResources → Bool × SecureResources :=
  updateDoxm ({ · with owned := isowned })

def setDoxmDevOwnerId (uuid : OicUuid) : SecureResources → Bool × SecureResources :=
  updateDoxm ({ · with owner := uuid })

def setDoxmRownerId (uuid : OicUuid) : SecureResources → Bool × SecureResources :=
  updateDoxm ({ · with rownerID := uuid })

section

variable (svrs : SecureResources)

/-- `UpdatePersistentStorage` of `pstatresource.c`: what was handed over may be read back later,
whatever is reported. -/
def storePstat : SecureResources :=
  match svrs.gPstat with
  | none => svrs
  | some pstat => { svrs with storedPstats := pstat :: svrs.storedPstats }

section

variable (write : Bool) (uuid : OicUuid) (svrs : SecureResources)

/-- `SetAclRownerId`. A failed write puts the old owner back. -/
def setAclRowner : Bool × SecureResources :=
  match svrs.aclRownerID, write with
  | none, _ => (false, svrs)
  | some _, true => (true, { svrs with aclRownerID := some uuid })
  | some _, false => (false, svrs)

/-- `SetCredRownerId`. Nothing is written when the owner is the same, and nothing
is put back when the write fails. -/
def setCredRownerId : Bool × SecureResources :=
  if svrs.credRownerID = uuid then (true, svrs) else (write, { svrs with credRownerID := uuid })

/-- `SetPstatRownerId`. A failed write puts the old owner back. -/
def setPstatRownerId : Bool × SecureResources :=
  match svrs.gPstat with
  | none => (false, svrs)
  | some pstat =>
    let written := storePstat { svrs with gPstat := some { pstat with rownerID := uuid } }
    if write then (true, written) else (false, { written with gPstat := some pstat })

end

/-- `ResetSecureResources`: what the resources are when they have been read back. -/
def resetSecureResources (world : ResetWorld) (svrs : SecureResources) : Bool × SecureResources :=
  (world.resetSecureResources,
    { svrs with
      gDoxm := world.gDoxm
      gPstat :=
        match world.pstatSource with
        | .nowhere => none
        | .kept => svrs.gPstat
        | .stored i => svrs.storedPstats[i]?
      aclRownerID := world.aclRownerID
      credRownerID := world.credRownerID })

/-! ## Transitions -/

/-- `IsValidStateTransition`. `DOS_STATE_COUNT` fails an assertion, any other
number that is no state gets no answer but `false`. -/
def isValidStateTransition (oldState : OicSecDeviceOnboardingState) (newState : UInt32) :
    Option Bool :=
  if newState = 5 then none
  else
    match stateOfCode newState with
    | some .reset => some true
    | some .rfnop => some (oldState == .rfpro)
    | some .rfotm => some (oldState == .reset)
    | some .rfpro => some (oldState == .rfnop || oldState == .rfotm || oldState == .sreset)
    | some .sreset => some (oldState == .rfnop || oldState == .rfpro)
    | none => some false

def isDoxmOwned : Bool := (svrs.gDoxm.map (·.owned)).getD false

def isDoxmDevowneruuidTheNilUuid : Bool :=
  (svrs.gDoxm.map (isNilUuid ·.owner)).getD true

def isDoxmDeviceuuidTheNilUuid : Bool :=
  (svrs.gDoxm.map (isNilUuid ·.deviceID)).getD true

def isDoxmRowneruuidTheNilUuid : Bool :=
  (svrs.gDoxm.map (isNilUuid ·.rownerID)).getD false

def isPstatRowneruuidTheNilUuid : Bool :=
  (svrs.gPstat.map (isNilUuid ·.rownerID)).getD true

def isAclRowneruuidTheNilUuid : Bool :=
  (svrs.aclRownerID.map isNilUuid).getD true

/-- The last four checks of `IsReadyToEnterRFNOP` and `IsReadyToEnterRFPRO`. -/
def hasResourceOwners : Bool :=
  !isAclRowneruuidTheNilUuid svrs && !isNilUuid svrs.credRownerID
    && !isDoxmRowneruuidTheNilUuid svrs && !isPstatRowneruuidTheNilUuid svrs

/-- `IsReadyToEnterSRESET`, whose checks the next two begin with. -/
def isReadyToEnterSRESET : Bool :=
  isDoxmOwned svrs && !isDoxmDevowneruuidTheNilUuid svrs && !isDoxmDeviceuuidTheNilUuid svrs

def isReadyToEnterRFPRO : Bool :=
  isReadyToEnterSRESET svrs && hasResourceOwners svrs

def isReadyToEnterRFNOP : Bool :=
  isReadyToEnterSRESET svrs && (svrs.gPstat.map (!·.isOp)).getD false && hasResourceOwners svrs

def isReadyToEnterRFOTM : Bool :=
  !isDoxmOwned svrs && isDoxmDevowneruuidTheNilUuid svrs

end

/-- Set or clear a bit of `cm` or `tm`. -/
def withBit (bit : UInt32) (on : Bool) (m : UInt32) : UInt32 :=
  if on then m ||| bit else m &&& ~~~bit

def enterStateGeneric (isop cmReset cmTakeOwner tmReset tmTakeOwner : Bool)
    (state : OicSecDeviceOnboardingState) (svrs : SecureResources) : Bool × SecureResources :=
  match svrs.gPstat with
  | none => (false, svrs)
  | some pstat =>
    attempt
      [ setPstatIsop isop,
        setPstatCm (withBit dpmTakeOwner cmTakeOwner (withBit dpmReset cmReset pstat.cm)),
        setPstatTm (withBit dpmTakeOwner tmTakeOwner (withBit dpmReset tmReset pstat.tm)),
        setPstatDosS state ] svrs

def enterRFNOP : SecureResources → Bool × SecureResources :=
  enterStateGeneric true false false false false .rfnop

def enterRFOTM : SecureResources → Bool × SecureResources :=
  enterStateGeneric false false true false false .rfotm

def enterRFPRO : SecureResources → Bool × SecureResources :=
  enterStateGeneric false false false false false .rfpro

def enterSRESET : SecureResources → Bool × SecureResources :=
  enterStateGeneric false true false false false .sreset

section

variable (world : ResetWorld)

/-- The calls of `EnterRESET`. -/
def resetSteps : List (SecureResources → Bool × SecureResources) :=
  [ resetSecureResources world,
    -- a failure from here on leaves a device that is not owned in its old state
    setDoxmIsOwned false,
    setDoxmDevOwnerId OicUuid.nil,
    setAclRowner world.aclWrite OicUuid.nil,
    setCredRownerId world.credWrite OicUuid.nil,
    setDoxmRownerId OicUuid.nil,
    setPstatRownerId world.pstatWrite OicUuid.nil,
    setPstatCm 0,
    setPstatTm 0,
    enterStateGeneric false true false false true .reset,
    fun svrs =>
      (enableAnonCipherSuiteIfUnOwnedAndJustWorksSelected world.enableAnonECDHCipherSuite
        svrs.gDoxm, svrs) ]

def enterRESET : SecureResources → Bool × SecureResources :=
  attempt (resetSteps world)

/-- `OCStackResult`, the codes of `SetDosState`. -/
inductive DosResult
  | ok
  | forbiddenReq
  | internalServerError
  deriving DecidableEq

/-- The cases of `DoStateChange`: check, then enter. -/
def enterWhenReady (isReady : SecureResources → Bool)
    (enter : SecureResources → Bool × SecureResources) (svrs : SecureResources) :
    DosResult × SecureResources :=
  if isReady svrs then
    (if (enter svrs).1 then .ok else .internalServerError, (enter svrs).2)
  else (.forbiddenReq, svrs)

def doStateChange (newState : UInt32) (svrs : SecureResources) : DosResult × SecureResources :=
  match stateOfCode newState with
  | some .reset =>
    -- the device does not stay in RESET: it goes on to RFOTM at once
    if (enterRESET world svrs).1 then
      enterWhenReady isReadyToEnterRFOTM enterRFOTM (enterRESET world svrs).2
    else (.internalServerError, (enterRESET world svrs).2)
  | some .rfnop => enterWhenReady isReadyToEnterRFNOP enterRFNOP svrs
  | some .rfotm => enterWhenReady isReadyToEnterRFOTM enterRFOTM svrs
  | some .rfpro => enterWhenReady isReadyToEnterRFPRO enterRFPRO svrs
  | some .sreset => enterWhenReady isReadyToEnterSRESET enterSRESET svrs
  | none => (.internalServerError, svrs)

/-- The end of `SetDosState`: `dos.p` is cleared, if there still is a `pstat`. -/
def endStateChange (change : DosResult × SecureResources) : DosResult × SecureResources :=
  if (setPstatDosP false change.2).1 then (change.1, (setPstatDosP false change.2).2)
  else (.internalServerError, change.2)

/-- `SetDosState`. There is no result when an assertion fails. -/
def setDosState (desiredState : UInt32) (svrs : SecureResources) :
    Option (DosResult × SecureResources) :=
  match svrs.gPstat with
  | none => some (.internalServerError, svrs)
  | some pstat =>
    if pstat.dos.pending then some (.forbiddenReq, svrs)
    else
      -- `dos.p` is set before the transition is looked at and cleared in every case
      let pending := (setPstatDosP true svrs).2
      match isValidStateTransition pstat.dos.state desiredState with
      | none => none
      | some true => some (endStateChange (doStateChange world desiredState pending))
      | some false => some (endStateChange (.forbiddenReq, pending))

/-! ## Requests -/

/-- What the handler writes before it gets to the state: `om`, `tm` and the owner. The bits of `cm`
that it clears are the update's, which is thrown away. -/
def OicSecPstat.written (pstat : OicSecPstat) (update : PstatUpdate) : OicSecPstat :=
  { pstat with om := update.om, tm := update.tm, rownerID := update.rownerID }

/-- The end of `HandlePstatPostRequest`: the state is changed if another one is asked for, and
`pstat` is stored unless that failed. A failed write is reported only without a change of state. -/
def finishPstatPost (write : Bool) (update : PstatUpdate) (pstat : OicSecPstat)
    (svrs : SecureResources) : Option (OCEntityHandlerResult × SecureResources) :=
  if update.dosState = pstat.dos.state.code then
    some (if write then .ok else .error, storePstat svrs)
  else
    match setDosState world update.dosState svrs with
    | none => none
    | some (.ok, svrs) => some (.ok, storePstat svrs)
    | some (.forbiddenReq, svrs) => some (.notAcceptable, svrs)
    | some (.internalServerError, svrs) => some (.internalServerError, svrs)

/-- `HandlePstatPostRequest`: the code it answers with. -/
def handlePstatPostRequest (write : Bool) (payload : Option Payload)
    (svrs : SecureResources) : Option (OCEntityHandlerResult × SecureResources) :=
  match payload, svrs.gPstat with
  | some payload, some pstat =>
    match cborPayloadToPstatBin payload pstat pstat.dos.state with
    | .error .aborts => none
    | .error .failed => some (.error, svrs)
    | .ok (_, true) => some (.notAcceptable, svrs)
    | .ok (update, false) =>
      if ¬ pstat.sm.contains update.om then some (.badReq, svrs)
      else
        -- the properties are written before the state is changed
        finishPstatPost world write update pstat { svrs with gPstat := some (pstat.written update) }
  | _, _ => some (.error, svrs)

end

/-- `HandleDoxmPostRequest`: the code it answers with. -/
def handleDoxmPostRequest (world : TransferWorld) (write : Bool) (payload : Option Payload)
    (svrs : SecureResources) : Option (OCEntityHandlerResult × SecureResources) :=
  match payload, svrs.gDoxm, svrs.gPstat with
  | some payload, some doxm, some pstat =>
    -- whatever the payload is
    if pstat.dos.state = .reset ∨ pstat.dos.state = .rfnop then some (.notAcceptable, svrs)
    else
      match cborPayloadToDoxmBin payload doxm pstat.dos.state with
      | .error .aborts => none
      | .error .failed => some (.internalServerError, svrs)
      | .ok (_, true, _) => some (.notAcceptable, svrs)
      | .ok (newDoxm, false, oxmselParsed) =>
        if ¬ validateOxmsel doxm.oxm newDoxm.oxmSel then some (.notAcceptable, svrs)
        else
          let updated := doxmUpdateWriteableProperty newDoxm doxm
          -- a transfer starts only when the payload itself has `oxmsel`
          let start :=
            if oxmselParsed ∧ pstat.dos.state = .rfotm then
              startOwnershipTransfer world newDoxm updated
            else (.ok, updated)
          let code := if start.1 = .ok then (if write then .ok else .error) else start.1
          some (code, { svrs with gDoxm := some start.2 })
  | _, _, _ => some (.internalServerError, svrs)

/-- `gPstat` after `EnterStateGeneric`. -/
def OicSecPstat.entered (pstat : OicSecPstat) (isop cmReset cmTakeOwner tmReset tmTakeOwner : Bool)
    (state : OicSecDeviceOnboardingState) : OicSecPstat :=
  { pstat with
    isOp := isop
    cm := withBit dpmTakeOwner cmTakeOwner (withBit dpmReset cmReset pstat.cm)
    tm := withBit dpmTakeOwner tmTakeOwner (withBit dpmReset tmReset pstat.tm)
    dos := { pstat.dos with state := state } }

variable {svrs : SecureResources} {pstat : OicSecPstat}

lemma updatePstat_of_some (h : svrs.gPstat = some pstat) (f : OicSecPstat → OicSecPstat) :
    updatePstat f svrs = (true, { svrs with gPstat := some (f pstat) }) := by
  rw [updatePstat, h]

lemma enterStateGeneric_of_some (h : svrs.gPstat = some pstat)
    (isop cmReset cmTakeOwner tmReset tmTakeOwner : Bool) (state : OicSecDeviceOnboardingState) :
    enterStateGeneric isop cmReset cmTakeOwner tmReset tmTakeOwner state svrs
      = (true, { svrs with
          gPstat := some (pstat.entered isop cmReset cmTakeOwner tmReset tmTakeOwner state) }) := by
  simp only [enterStateGeneric, h, setPstatIsop, setPstatCm, setPstatTm, setPstatDosS]
  rw [attempt_cons_of_ok (updatePstat_of_some h _), attempt_cons_of_ok (updatePstat_of_some rfl _),
    attempt_cons_of_ok (updatePstat_of_some rfl _), attempt_cons_of_ok (updatePstat_of_some rfl _)]
  rfl

def OicSecPstat.enter (pstat : OicSecPstat) : OicSecDeviceOnboardingState → OicSecPstat
  | .reset => pstat.entered false true false false true .reset
  | .rfotm => pstat.entered false false true false false .rfotm
  | .rfpro => pstat.entered false false false false false .rfpro
  | .rfnop => pstat.entered true false false false false .rfnop
  | .sreset => pstat.entered false true false false false .sreset

@[simp] lemma enter_state (pstat : OicSecPstat) (state : OicSecDeviceOnboardingState) :
    (pstat.enter state).dos = ⟨state, pstat.dos.pending⟩ := by
  cases state <;> rfl

def isReadyToEnter : OicSecDeviceOnboardingState → SecureResources → Bool
  | .reset => fun _ => true
  | .rfotm => isReadyToEnterRFOTM
  | .rfpro => isReadyToEnterRFPRO
  | .rfnop => isReadyToEnterRFNOP
  | .sreset => isReadyToEnterSRESET

/-! ## RESET -/

def Unowned (svrs : SecureResources) : Prop :=
  ∃ doxm, svrs.gDoxm = some doxm ∧ doxm.owned = false ∧ doxm.owner = OicUuid.nil

variable {svrs' : SecureResources}

lemma updateDoxm_ok {f : OicSecDoxm → OicSecDoxm} (h : updateDoxm f svrs = (true, svrs')) :
    ∃ doxm, svrs.gDoxm = some doxm ∧ svrs' = { svrs with gDoxm := some (f doxm) } := by
  unfold updateDoxm at h
  rcases hdoxm : svrs.gDoxm with _ | doxm
  · simp only [hdoxm] at h
    cases h
  simp only [hdoxm] at h
  cases h
  exact ⟨doxm, rfl, rfl⟩

lemma updatePstat_ok {f : OicSecPstat → OicSecPstat} (h : updatePstat f svrs = (true, svrs')) :
    ∃ pstat, svrs.gPstat = some pstat ∧ svrs' = { svrs with gPstat := some (f pstat) } := by
  rcases hpstat : svrs.gPstat with _ | pstat
  · rw [updatePstat, hpstat] at h
    cases h
  rw [updatePstat_of_some hpstat] at h
  cases h
  exact ⟨pstat, rfl, rfl⟩

variable {write ok : Bool} {uuid : OicUuid}

lemma setAclRowner_frame (h : setAclRowner write uuid svrs = (ok, svrs')) :
    svrs'.gDoxm = svrs.gDoxm ∧ svrs'.gPstat = svrs.gPstat
      ∧ svrs'.storedPstats = svrs.storedPstats := by
  unfold setAclRowner at h
  split at h <;> cases h <;> exact ⟨rfl, rfl, rfl⟩

lemma setCredRownerId_frame (h : setCredRownerId write uuid svrs = (ok, svrs')) :
    svrs'.gDoxm = svrs.gDoxm ∧ svrs'.gPstat = svrs.gPstat
      ∧ svrs'.storedPstats = svrs.storedPstats := by
  unfold setCredRownerId at h
  split at h <;> cases h <;> exact ⟨rfl, rfl, rfl⟩

lemma setPstatRownerId_doxm
    (h : setPstatRownerId write uuid svrs = (ok, svrs')) : svrs'.gDoxm = svrs.gDoxm := by
  unfold setPstatRownerId at h
  split at h
  · cases h
    rfl
  · cases write <;> cases h <;> rfl

variable {world : ResetWorld}

lemma enterRESET_ok (h : enterRESET world svrs = (true, svrs')) :
    Unowned svrs' ∧ ∃ pstat : OicSecPstat, svrs'.gPstat = some (pstat.enter .reset) := by
  simp only [enterRESET, resetSteps, attempt_cons_ok] at h
  obtain ⟨s₁, -, s₂, howned, s₃, howner, s₄, hacl, s₅, hcred, s₆, hrowner, s₇, hpstat, s₈, hcm,
    s₉, htm, s₁₀, henter, s₁₁, hanon, hend⟩ := h
  -- `doxm`: not owned, no owner, and then only its own resource owner changes
  have hd₆ : Unowned s₆ := by
    obtain ⟨d₁, -, hs₂⟩ := updateDoxm_ok howned
    obtain ⟨d₂, hd₂, hs₃⟩ := updateDoxm_ok howner
    obtain ⟨d₅, hd₅, hs₆⟩ := updateDoxm_ok hrowner
    rw [(setCredRownerId_frame hcred).1, (setAclRowner_frame hacl).1, hs₃, Option.some.injEq] at hd₅
    rw [hs₂, Option.some.injEq] at hd₂
    refine ⟨_, by rw [hs₆], ?_, ?_⟩
    · rw [← hd₅, ← hd₂]
    · rw [← hd₅]
  have hd₇ : Unowned s₇ := by
    rw [Unowned, setPstatRownerId_doxm hpstat]
    exact hd₆
  -- `pstat`: the last call is the one that enters the state
  obtain ⟨p₇, -, hs₈⟩ := updatePstat_ok hcm
  obtain ⟨p₈, -, hs₉⟩ := updatePstat_ok htm
  have hp₉ : s₉.gPstat = some { p₈ with tm := 0 } := by rw [hs₉]
  rw [enterStateGeneric_of_some hp₉, Prod.mk.injEq] at henter
  have hs : s₁₀ = svrs' := by
    rw [attempt_nil, Prod.mk.injEq] at hend
    rw [← hend.2]
    exact (Prod.mk.inj hanon).2
  rw [← hs, ← henter.2]
  refine ⟨?_, _, rfl⟩
  rw [Unowned, hs₉, hs₈]
  exact hd₇

/-! ## One change of state -/

/-- `SetDosState` refuses: a change is pending, there is no such transition, or
the device is not ready. -/
def RefusesChange (desiredState : UInt32) (pstat : OicSecPstat) (svrs : SecureResources) : Prop :=
  pstat.dos.pending = true ∨ isValidStateTransition pstat.dos.state desiredState = some false
    ∨ ∃ state, desiredState = state.code
      ∧ isValidStateTransition pstat.dos.state desiredState = some true
      ∧ isReadyToEnter state svrs = false

lemma isReadyToEnter_congr (h : svrs.gPstat = some pstat) (dos : OicSecDostype)
    (state : OicSecDeviceOnboardingState) :
    isReadyToEnter state { svrs with gPstat := some { pstat with dos := dos } }
      = isReadyToEnter state svrs := by
  cases state <;>
    simp only [isReadyToEnter, isReadyToEnterRFOTM, isReadyToEnterRFPRO, isReadyToEnterRFNOP,
      isReadyToEnterSRESET, hasResourceOwners, isPstatRowneruuidTheNilUuid, h, Option.map_some] <;>
    rfl

variable {state : OicSecDeviceOnboardingState}

lemma doStateChange_other (world : ResetWorld) (hstate : state ≠ .reset)
    (h : svrs.gPstat = some pstat) :
    doStateChange world state.code svrs = if isReadyToEnter state svrs then
          (.ok, { svrs with gPstat := some (pstat.enter state) })
        else (.forbiddenReq, svrs) := by
  rw [doStateChange, stateOfCode_code]
  cases state with
  | reset => exact absurd rfl hstate
  | rfotm =>
    simp only [enterWhenReady, enterRFOTM, enterStateGeneric_of_some h, if_true]
    rfl
  | rfpro =>
    simp only [enterWhenReady, enterRFPRO, enterStateGeneric_of_some h, if_true]
    rfl
  | rfnop =>
    simp only [enterWhenReady, enterRFNOP, enterStateGeneric_of_some h, if_true]
    rfl
  | sreset =>
    simp only [enterWhenReady, enterSRESET, enterStateGeneric_of_some h, if_true]
    rfl

variable {change : DosResult × SecureResources}

lemma endStateChange_of_some (h : change.2.gPstat = some pstat) :
    endStateChange change = (change.1, { change.2 with
      gPstat := some { pstat with dos := { pstat.dos with pending := false } } }) := by
  rw [endStateChange, setPstatDosP, updatePstat_of_some h, if_pos rfl]

lemma endStateChange_of_none
    (h : change.2.gPstat = none) : endStateChange change = (.internalServerError, change.2) := by
  have hset : setPstatDosP false change.2 = (false, change.2) := by
    rw [setPstatDosP, updatePstat, h]
  rw [endStateChange, hset, if_neg Bool.false_ne_true]

lemma isNilUuid_nil : isNilUuid OicUuid.nil = true := by decide

lemma isReadyToEnterRFOTM_of_unowned (h : Unowned svrs) :
    isReadyToEnterRFOTM svrs = true := by
  obtain ⟨doxm, hdoxm, howned, howner⟩ := h
  simp [isReadyToEnterRFOTM, isDoxmOwned, isDoxmDevowneruuidTheNilUuid, hdoxm, howned, howner,
    isNilUuid_nil]

lemma reset_cases (world : ResetWorld) (svrs : SecureResources) :
    (∃ svrs' pstat, enterRESET world svrs = (true, svrs') ∧ Unowned svrs'
        ∧ svrs'.gPstat = some (OicSecPstat.enter pstat .reset)
        ∧ doStateChange world 0 svrs
          = (.ok, { svrs' with gPstat := some ((pstat.enter .reset).enter .rfotm) }))
      ∨ ((enterRESET world svrs).1 = false
        ∧ doStateChange world 0 svrs = (.internalServerError, (enterRESET world svrs).2)) := by
  rcases hreset : enterRESET world svrs with ⟨ok, svrs'⟩
  have hdo : doStateChange world 0 svrs
      = if ok then enterWhenReady isReadyToEnterRFOTM enterRFOTM svrs'
        else (.internalServerError, svrs') := by
    rw [doStateChange, show stateOfCode 0 = some .reset from rfl]
    simp [hreset]
  cases ok with
  | false => exact .inr ⟨rfl, hdo⟩
  | true =>
    obtain ⟨hunowned, pstat, hpstat⟩ := enterRESET_ok hreset
    refine .inl ⟨svrs', pstat, rfl, hunowned, hpstat, ?_⟩
    rw [hdo, if_pos rfl, enterWhenReady, if_pos (isReadyToEnterRFOTM_of_unowned hunowned),
      enterRFOTM, enterStateGeneric_of_some hpstat]
    rfl

variable {desiredState : UInt32}

lemma exists_state_of_valid {old : OicSecDeviceOnboardingState}
    (h : isValidStateTransition old desiredState = some true) :
    ∃ state : OicSecDeviceOnboardingState, desiredState = state.code := by
  unfold isValidStateTransition at h
  split_ifs at h
  rcases hstate : stateOfCode desiredState with _ | state
  · simp only [hstate] at h
    cases h
  · exact ⟨state, code_of_stateOfCode hstate⟩

lemma endStateChange_refused (h : svrs.gPstat = some pstat) (hpending : pstat.dos.pending = false) :
    endStateChange (.forbiddenReq, (setPstatDosP true svrs).2) = (.forbiddenReq, svrs) := by
  rw [setPstatDosP, updatePstat_of_some h, endStateChange_of_some rfl]
  have hdos : { pstat.dos with pending := false } = pstat.dos := by rw [← hpending]
  simp only [hdos]
  rw [← h]

lemma setDosState_of_valid (world : ResetWorld) (hpstat : svrs.gPstat = some pstat)
    (hpending : pstat.dos.pending = false)
    (hvalid : isValidStateTransition pstat.dos.state desiredState = some true) :
    setDosState world desiredState svrs
      = some (endStateChange (doStateChange world desiredState (setPstatDosP true svrs).2)) := by
  simp [setDosState, hpstat, hpending, hvalid]

lemma setDosState_refused (world : ResetWorld) (hpstat : svrs.gPstat = some pstat)
    (h : RefusesChange desiredState pstat svrs) :
    setDosState world desiredState svrs = some (.forbiddenReq, svrs) := by
  by_cases hpending : pstat.dos.pending = true
  · simp [setDosState, hpstat, hpending]
  rw [Bool.not_eq_true] at hpending
  obtain h | hinvalid | ⟨state, rfl, hvalid, hready⟩ := h
  · rw [hpending] at h
    cases h
  · simp only [setDosState, hpstat, hpending, hinvalid, Bool.false_eq_true, if_false]
    rw [endStateChange_refused hpstat hpending]
  · have hstate : state ≠ .reset := by
      rintro rfl
      cases hready
    have hready' := isReadyToEnter_congr hpstat { pstat.dos with pending := true } state
    rw [hready] at hready'
    rw [setDosState_of_valid world hpstat hpending hvalid, setPstatDosP,
      updatePstat_of_some hpstat, doStateChange_other world hstate rfl, hready', if_neg (by decide)]
    have hend := endStateChange_refused hpstat hpending
    rw [setPstatDosP, updatePstat_of_some hpstat] at hend
    rw [hend]

lemma setDosState_enters (world : ResetWorld) (hstate : state ≠ .reset)
    (hpstat : svrs.gPstat = some pstat) (hpending : pstat.dos.pending = false)
    (hvalid : isValidStateTransition pstat.dos.state state.code = some true)
    (hready : isReadyToEnter state svrs = true) :
    setDosState world state.code svrs
      = some (.ok, { svrs with gPstat := some (pstat.enter state) }) := by
  have hready' := isReadyToEnter_congr hpstat { pstat.dos with pending := true } state
  rw [hready] at hready'
  rw [setDosState_of_valid world hpstat hpending hvalid, setPstatDosP, updatePstat_of_some hpstat,
    doStateChange_other world hstate rfl, hready', if_pos rfl, endStateChange_of_some rfl]
  have henter : ({ ({ pstat with dos := { pstat.dos with pending := true } } : OicSecPstat).enter
      state with dos := { (({ pstat with dos := { pstat.dos with pending := true } } :
        OicSecPstat).enter state).dos with pending := false } } : OicSecPstat)
      = pstat.enter state := by
    obtain ⟨⟨old, pending⟩, isOp, cm, tm, om, sm, rownerID⟩ := pstat
    cases hpending
    cases state <;> rfl
  simp only [henter]

variable {result : DosResult}

lemma setDosState_resets (hpstat : svrs.gPstat = some pstat)
    (hpending : pstat.dos.pending = false) (h : setDosState world 0 svrs = some (result, svrs')) :
    (result = .ok ∧ Unowned svrs' ∧ ∃ pstat', svrs'.gPstat = some pstat'
        ∧ pstat'.dos = ⟨.rfotm, false⟩ ∧ pstat'.isOp = false)
      ∨ (result = .internalServerError
        ∧ ∀ pstat', svrs'.gPstat = some pstat' → pstat'.dos.pending = false) := by
  rw [setDosState_of_valid world hpstat hpending rfl, Option.some.injEq] at h
  rcases reset_cases world (setPstatDosP true svrs).2 with
    ⟨s₁, p₁, -, hunowned, -, hdo⟩ | ⟨-, hdo⟩
  · rw [hdo, endStateChange_of_some rfl, Prod.mk.injEq] at h
    rw [← h.1, ← h.2]
    exact .inl ⟨rfl, hunowned, _, rfl, rfl, rfl⟩
  right
  rw [hdo] at h
  rcases hp : (enterRESET world (setPstatDosP true svrs).2).2.gPstat with _ | p₁
  · rw [endStateChange_of_none hp, Prod.mk.injEq] at h
    refine ⟨h.1.symm, ?_⟩
    intro pstat' hpstat'
    rw [← h.2, hp] at hpstat'
    cases hpstat'
  rw [endStateChange_of_some hp, Prod.mk.injEq] at h
  refine ⟨h.1.symm, ?_⟩
  intro pstat' hpstat'
  rw [← h.2, Option.some.injEq] at hpstat'
  rw [← hpstat']

lemma setDosState_cases (hpstat : svrs.gPstat = some pstat)
    (h : setDosState world desiredState svrs = some (result, svrs')) :
    (RefusesChange desiredState pstat svrs ∧ result = .forbiddenReq ∧ svrs' = svrs)
      ∨ (∃ state, state ≠ .reset ∧ desiredState = state.code ∧ pstat.dos.pending = false
        ∧ isValidStateTransition pstat.dos.state state.code = some true
        ∧ isReadyToEnter state svrs = true
        ∧ result = .ok ∧ svrs' = { svrs with gPstat := some (pstat.enter state) })
      ∨ (desiredState = 0 ∧ pstat.dos.pending = false
        ∧ ((result = .ok ∧ Unowned svrs' ∧ ∃ pstat', svrs'.gPstat = some pstat'
            ∧ pstat'.dos = ⟨.rfotm, false⟩ ∧ pstat'.isOp = false)
          ∨ (result = .internalServerError
            ∧ ∀ pstat', svrs'.gPstat = some pstat' → pstat'.dos.pending = false))) := by
  by_cases hrefuses : RefusesChange desiredState pstat svrs
  · rw [setDosState_refused world hpstat hrefuses, Option.some.injEq, Prod.mk.injEq] at h
    exact .inl ⟨hrefuses, h.1.symm, h.2.symm⟩
  rw [RefusesChange, not_or, not_or, Bool.not_eq_true] at hrefuses
  obtain ⟨hpending, hnot, hready⟩ := hrefuses
  rcases hvalid : isValidStateTransition pstat.dos.state desiredState with _ | _ | _
  · simp only [setDosState, hpstat, hpending, hvalid, Bool.false_eq_true, if_false] at h
    cases h
  · exact absurd hvalid hnot
  · obtain ⟨state, rfl⟩ := exists_state_of_valid hvalid
    have hready : isReadyToEnter state svrs = true := by
      by_contra hno
      exact hready ⟨state, rfl, hvalid, by rwa [Bool.not_eq_true] at hno⟩
    by_cases hstate : state = .reset
    · rw [hstate] at h ⊢
      exact .inr (.inr ⟨rfl, hpending, setDosState_resets hpstat hpending h⟩)
    rw [setDosState_enters world hstate hpstat hpending hvalid hready, Option.some.injEq,
      Prod.mk.injEq] at h
    exact .inr (.inl ⟨state, hstate, rfl, hpending, hvalid, hready, h.1.symm, h.2.symm⟩)

end Iochibity.Sec
