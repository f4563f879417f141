/-
Runs of an ownership transfer.
-/
import Iochibity.Prov.OwnershipTransfer

namespace Iochibity.Prov.OwnershipTransfer

open Sec
open List
open Option (some.inj)

/-! ## 1. What is asked for -/

structure WellFormedCall (devices : List OCProvisionDev) : Prop where
  nonempty : devices ≠ []
  uuids : (devices.map (·.doxm.deviceID)).Nodup
  endpoints : (devices.map OCProvisionDev.key).Nodup

/-- The selected device is the first without a result and has a request that waits, or all have
their result and the user was called back once. The results come in order, one for each device and
in its own entry, restarts stay below the limit, and the released context is not used. -/
structure Sound (devices : List OCProvisionDev) (s : OTMContext) : Prop where
  list : s.devices.map OCProvisionDev.key = devices.map OCProvisionDev.key
  entries : s.ctxResultArray.map (·.deviceId) = s.devices.map (·.doxm.deviceID)
  progress :
    (s.reports = [] ∧ (∃ cb ∈ s.clientCBs, cb.answered = false ∧ cb.device = s.position)
      ∧ ∀ j entry, s.ctxResultArray[j]? = some entry →
          (entry.res = .continueLater ↔ s.position ≤ j))
    ∨ (s.reports = [(s.ctxResultArray, s.ctxHasError)]
      ∧ ∀ entry ∈ s.ctxResultArray, entry.res ≠ .continueLater)
  order : s.finals.map (·.device) = List.range s.finals.length
  own : ∀ f ∈ s.finals, f.entries = [f.device]
  recorded : ∀ f ∈ s.finals, s.ctxResultArray[f.device]?.map (·.res) = some f.res
  restarts : ∀ i, s.restarts.count i < wrongPinMaxAttemp
  untouched : s.touched = false

def EndsSilently (loc : Local) (resp : OCClientResponse) (device : OCProvisionDev) :
    Handler → Prop
  | .getAndVerifyDoxm => resp.result = .continueOperation
  | .deviceUuidUpdate => resp.result ≠ .ok
  | .ownerAcl => resp.result = .noResource ∧ (getAclVer device.specVer = .v1 → loc.send ≠ .sent)
  | .rownerUuid => OCStackResult.resourceChanged.code < resp.result.code
  | .readyForNormalStatus => resp.result = .resourceChanged ∧ loc.pdmSetDeviceState ≠ .ok
  | _ => False

/-- The code that goes to `SetResult`. -/
def handedOver (loc : Local) : Exit → Option OCStackResult
  | .setResult res | .setResultAndReturn res => some res
  | .post _ => sendError loc.send
  | .postOrError _ => (sendError loc.send).map (fun _ => .error)
  | .postUnchecked _ | .leave => none

def OtherWaits (s : OTMContext) (cb other : ClientCB) : Prop :=
  other ∈ s.clientCBs ∧ other.answered = false ∧ other.handle ≠ cb.handle

def NewId (tool : Tool) (resp : OCClientResponse) (s : OTMContext) (handler : Handler) : Prop :=
  handler = .deviceUuidUpdate → resp.result = .ok → ∀ payload doxm, resp.payload = some payload →
      tool.cborPayloadToDoxm payload.securityData = some doxm →
      ∀ dev ∈ s.before ++ s.next, dev.doxm.deviceID ≠ doxm.deviceID

structure ResponseOk (tool : Tool) (loc : Local) (resp : OCClientResponse) (s : OTMContext)
    (cb : ClientCB) : Prop where
  /-- the context has not been freed: after that only kept callbacks are left -/
  alive : s.released = false
  /-- an exit without a result is only taken when another request stays open -/
  silent : EndsSilently loc resp s.device cb.handler → ∃ other, OtherWaits s cb other
    ∧ (cb.handler = .rownerUuid → s.ocDoHandle ≠ some other.handle)
  /-- a result is a final code, and no other request stays open behind it: it is the one that
  `SetResult` cancels, which it can only after `RownerUuidHandler` -/
  result : ∀ res, handedOver loc (runHandler tool loc resp s cb.handler).2 = some res →
    res ≠ .continueLater
    ∧ (∀ other, OtherWaits s cb other → res ≠ .duplicateRequest ∧ cb.handler = .rownerUuid
        ∧ (∀ code, loc.send ≠ .failed code) ∧ s.ocDoHandle = some other.handle)
    ∧ (res = .duplicateRequest → s.gOtmCtxList = []
        ∧ (cb.handler = .ownerTransferMode → resp.result ≠ .resourceChanged))
    ∧ StartsOk tool loc (s.position + 1) s.next
  /-- a device id that is reported is not that of another device -/
  newId : NewId tool resp s cb.handler

def IsRestart (endpoint : List UInt8 × UInt16) (result : CAResult) (loc : Local)
    (s : OTMContext) : Prop :=
  endpoint ∈ s.gOtmCtxList ∧ s.device.key = endpoint ∧ result = .dtlsAuthenticationFailure
  ∧ ¬ (¬ isNilUuid s.device.doxm.owner ∧ s.device.doxm.owned)
  ∧ s.device.doxm.oxmSel = oicRandomDevicePin ∧ loc.pdmDeletesDevice = true
  ∧ s.attemptCnt + 1 < wrongPinMaxAttemp

/-- The condition on a restart: when it fails, the stack has not yet forgotten the handle, which is
that of the request that waits. -/
structure RestartOk (tool : Tool) (loc : Local) (s : OTMContext) : Prop where
  callbacks : HasCallbacks tool s.device
  result : ∀ res, startError tool loc s.position s.device = some res →
    res ≠ .continueLater ∧ res ≠ .duplicateRequest
    ∧ (∀ code, loc.start s.position ≠ .failed code)
    ∧ (∀ cb ∈ s.clientCBs, cb.answered = false → s.ocDoHandle = some cb.handle)
    ∧ StartsOk tool loc (s.position + 1) s.next

def StepOk (tool : Tool) (s : OTMContext) : Event → Prop
  | .response handle resp loc =>
    ∀ cb, s.clientCBs.find? (·.handle == handle) = some cb → ResponseOk tool loc resp s cb
  | .handshake endpoint result loc => IsRestart endpoint result loc s → RestartOk tool loc s

def RunOk (tool : Tool) : OTMContext → List Event → Prop
  | _, [] => True
  | s, event :: events => StepOk tool s event ∧ RunOk tool (step tool s event) events

/-! ## 2. The handlers -/

section Handlers

variable {keys : List (List UInt8 × UInt16)} {busy : Option Nat} {s : OTMContext}
  {tool : Tool} {loc : Local} {resp : OCClientResponse}

structure Frame (s t : OTMContext) : Prop where
  before : t.before = s.before
  next : t.next = s.next
  clientCBs : t.clientCBs = s.clientCBs

lemma Frame.refl (s : OTMContext) : Frame s s := ⟨rfl, rfl, rfl⟩

lemma addOTMContext_eq (loc : Local) (s : OTMContext) :
    ∃ list, (addOTMContext loc s).2 = { s with gOtmCtxList := list } := by
  unfold addOTMContext
  split_ifs
  · exact ⟨s.gOtmCtxList, rfl⟩
  · exact ⟨s.gOtmCtxList, rfl⟩
  · exact ⟨_, rfl⟩
  · exact ⟨s.gOtmCtxList, rfl⟩

lemma Running.addOTMContext (h : Running keys busy s) :
    Running keys busy (addOTMContext loc s).2 := by
  unfold OwnershipTransfer.addOTMContext
  split_ifs with hbad hmem
  · exact h
  · exact h
  · have hport : getSecurePort s.device ≠ 0 := fun hzero => hbad (.inr hzero)
    have hnil : s.gOtmCtxList = [] := by
      rcases h.listed with hnil | hone
      · exact hnil
      rw [hone.1] at hmem
      exact absurd (mem_singleton_self _) hmem
    refine ⟨h.toCore.stack _ _ _ _, ⟨h.fresh, h.busy_lt⟩, h.alive, h.silent, .inr ⟨?_, hport⟩,
      h.current⟩
    simp [hnil]
  · exact h

lemma Running.updateDeviceId (h : Running keys busy s) {deviceID : OicUuid}
    (hnew : ∀ dev ∈ s.before ++ s.next, dev.doxm.deviceID ≠ deviceID) :
    Running keys busy (OwnershipTransfer.updateDeviceId deviceID s) := by
  have hget (j : Nat) : (OwnershipTransfer.updateDeviceId deviceID s).ctxResultArray[j]?
      = s.ctxResultArray[j]?.map (fun entry =>
          if isEntryOf s entry then { entry with deviceId := deviceID } else entry) := by
    rw [OwnershipTransfer.updateDeviceId, getElem?_map]
  have hres (entry : OCProvisionResult) :
      (if isEntryOf s entry then { entry with deviceId := deviceID } else entry).res
        = entry.res := by
    split_ifs <;> rfl
  have hold : s.ctxResultArray.map (·.deviceId)
      = s.before.map (·.doxm.deviceID) ++ s.device.doxm.deviceID
          :: s.next.map (·.doxm.deviceID) := by
    rw [h.ids, OTMContext.devices, map_append, map_cons]
  have hdistinct := h.distinct
  rw [hold, nodup_middle, nodup_cons] at hdistinct
  have hother : ∀ ids : List OicUuid, s.device.doxm.deviceID ∉ ids →
      ids.map (fun id => if id = s.device.doxm.deviceID then deviceID else id) = ids := by
    intro ids hnot
    rw [map_congr_left (g := id), map_id]
    intro x hx
    have hne : x ≠ s.device.doxm.deviceID := fun heq => hnot (heq ▸ hx)
    exact if_neg hne
  have hids : (OwnershipTransfer.updateDeviceId deviceID s).ctxResultArray.map (·.deviceId)
      = s.before.map (·.doxm.deviceID) ++ deviceID :: s.next.map (·.doxm.deviceID) := by
    have hmap : (OwnershipTransfer.updateDeviceId deviceID s).ctxResultArray.map (·.deviceId)
        = (s.ctxResultArray.map (·.deviceId)).map
            (fun id => if id = s.device.doxm.deviceID then deviceID else id) := by
      rw [OwnershipTransfer.updateDeviceId, map_map, map_map]
      apply map_congr_left
      intro entry _
      simp only [Function.comp_apply, isEntryOf, beq_iff_eq]
      split_ifs <;> rfl
    rw [hmap, hold, map_append, map_cons, if_pos rfl,
      hother _ (fun hmem => hdistinct.1 (mem_append_left _ hmem)),
      hother _ (fun hmem => hdistinct.1 (mem_append_right _ hmem))]
  refine ⟨⟨?_, ?_, ?_, ?_, h.order, h.own, ?_, h.untouched, h.attempts, h.restarts⟩,
    ⟨h.fresh, h.busy_lt⟩, h.alive, h.silent, h.listed, h.current⟩
  · refine Eq.trans ?_ h.keys
    rw [OTMContext.devices, OTMContext.devices, map_append, map_append, map_cons, map_cons]
    rfl
  · rw [hids, OTMContext.devices, map_append, map_cons]
    rfl
  · rw [hids, nodup_middle, nodup_cons]
    refine ⟨?_, hdistinct.2⟩
    rw [← map_append]
    intro hmem
    obtain ⟨dev, hdev, heq⟩ := mem_map.mp hmem
    exact hnew dev hdev heq
  · intro j entry hj
    rw [hget, Option.map_eq_some_iff] at hj
    obtain ⟨old, hj, rfl⟩ := hj
    rw [hres]
    exact h.open_iff j old hj
  · intro f hf
    rw [hget, Option.map_map]
    have hrec := h.recorded f hf
    rw [← hrec]
    congr 1
    funext entry
    exact hres entry

lemma Running.dropContext (h : Running keys busy s) :
    Running keys busy (cancelRequest (removeOTMContext s)) := by
  obtain ⟨handle, hcancel⟩ := cancelRequest_eq { s with gOtmCtxList := [] }
  rw [removeOTMContext_eq h.listed, hcancel]
  refine ⟨h.toCore.stack _ _ _ _, ⟨?_, h.busy_lt⟩, h.alive, h.silent, .inl rfl, ?_⟩
  · intro cb hcb
    exact h.fresh cb (mem_of_mem_filter hcb)
  · intro cb hcb
    exact h.current cb (mem_of_mem_filter hcb)

end Handlers

section States

variable (tool : Tool) (loc : Local) (resp : OCClientResponse) (s : OTMContext)

inductive Prepares : Handler → OTMContext → Prop
  /-- it only decides how to go on -/
  | decides (handler : Handler) (hne : handler ≠ .rownerUuid) :
      Prepares handler (s.withHandle none)
  | lists (hchanged : resp.result = .resourceChanged) :
      Prepares .ownerTransferMode (addOTMContext loc (s.withHandle none)).2
  /-- it changes a part of the device's record that does not identify it -/
  | edits (handler : Handler) (hne : handler ≠ .rownerUuid) (device : OCProvisionDev)
      (hkey : device.key = s.device.key) (hport : getSecurePort device = getSecurePort s.device)
      (hid : device.doxm.deviceID = s.device.doxm.deviceID) :
      Prepares handler ((s.withHandle none).withDevice device)
  | renames (payload : OCSecurityPayload) (doxm : OicSecDoxm) (hok : resp.result = .ok)
      (hpayload : resp.payload = some payload)
      (hdoxm : tool.cborPayloadToDoxm payload.securityData = some doxm) :
      Prepares .deviceUuidUpdate (updateDeviceId doxm.deviceID (s.withHandle none))
  | drops (herror : OCStackResult.resourceChanged.code < resp.result.code) :
      Prepares .rownerUuid (cancelRequest (removeOTMContext s))
  | keeps (hfine : ¬ OCStackResult.resourceChanged.code < resp.result.code) :
      Prepares .rownerUuid s

lemma runHandler_prepares (handler : Handler) :
    Prepares tool loc resp s handler (runHandler tool loc resp s handler).1 := by
  have hdecides {handler : Handler} (hne : handler ≠ .rownerUuid) {t : OTMContext}
      (ht : t = s.withHandle none) : Prepares tool loc resp s handler t :=
    ht ▸ .decides handler hne
  cases handler <;> unfold runHandler <;> dsimp only
  case ownerTransferMode =>
    unfold ownerTransferModeHandler
    split
    · next hchanged =>
        dsimp only
        repeat' split
        all_goals exact .lists hchanged
    · exact hdecides (by decide) rfl
  case getAndVerifyDoxm =>
    unfold getAndVerifyDoxmHandler
    repeat' split
    all_goals exact hdecides (by decide) rfl
  case listMethods =>
    unfold listMethodsHandler
    repeat' split
    all_goals exact hdecides (by decide) rfl
  case operationModeUpdate =>
    unfold operationModeUpdateHandler
    split
    · exact .edits _ (by decide) _ rfl rfl rfl
    · exact hdecides (by decide) rfl
  case ownerUuidUpdate =>
    unfold ownerUuidUpdateHandler
    repeat' split
    all_goals exact hdecides (by decide) rfl
  case deviceUuidUpdate =>
    unfold deviceUuidUpdateHandler
    split
    · exact hdecides (by decide) rfl
    next hok =>
      split
      · exact hdecides (by decide) rfl
      next payload hpayload =>
        split
        · exact hdecides (by decide) rfl
        next doxm hdoxm =>
          dsimp only
          repeat' split
          all_goals exact .renames payload doxm (not_not.mp hok) hpayload hdoxm
  case ownerCredential =>
    unfold ownerCredentialHandler
    repeat' split
    all_goals exact hdecides (by decide) rfl
  case ownerAcl =>
    unfold ownerAclHandler
    repeat' split
    · exact .edits _ (by decide) _ rfl rfl rfl
    · exact .edits _ (by decide) _ rfl rfl rfl
    · exact hdecides (by decide) rfl
    · exact hdecides (by decide) rfl
  case rownerUuid =>
    unfold rownerUuidHandler
    split
    · next herror => exact .drops herror
    · next hfine => exact .keeps hfine
  case readyForNormalStatus =>
    unfold readyForNormalStatusHandler
    repeat' split
    all_goals exact hdecides (by decide) rfl
  case ownershipInformation =>
    unfold ownershipInformationHandler changedHandler
    split <;> exact hdecides (by decide) rfl
  case provisioningStatus =>
    unfold provisioningStatusHandler changedHandler
    split <;> exact hdecides (by decide) rfl

end States

section Steps

variable {keys : List (List UInt8 × UInt16)} {busy : Option Nat} {s t : OTMContext}
  {tool : Tool} {loc : Local} {resp : OCClientResponse} {handler : Handler}

lemma Running.prepared (h : Running keys busy s) (ht : Prepares tool loc resp s handler t)
    (hnew : NewId tool resp s handler) : Running keys busy t := by
  have hclear := h.withHandle none
  cases ht with
  | decides => exact hclear
  | lists => exact hclear.addOTMContext
  | edits _ _ device hkey hport hid => exact hclear.withDevice hkey hport hid
  | renames payload doxm hok hpayload hdoxm =>
    exact hclear.updateDeviceId (hnew rfl hok payload doxm hpayload hdoxm)
  | drops => exact h.dropContext
  | keeps => exact h

lemma Prepares.frame (ht : Prepares tool loc resp s handler t)
    (hexit : handler = .rownerUuid → ¬ OCStackResult.resourceChanged.code < resp.result.code) :
    Frame s t ∧ (handler = .rownerUuid → t = s)
      ∧ ((handler = .ownerTransferMode → resp.result ≠ .resourceChanged) →
          t.gOtmCtxList = s.gOtmCtxList) := by
  cases ht with
  | decides _ hne => exact ⟨⟨rfl, rfl, rfl⟩, fun heq => absurd heq hne, fun _ => rfl⟩
  | lists hchanged =>
    obtain ⟨list, hlist⟩ := addOTMContext_eq loc (s.withHandle none)
    rw [hlist]
    exact ⟨⟨rfl, rfl, rfl⟩, nofun, fun hnot => absurd hchanged (hnot rfl)⟩
  | edits _ hne => exact ⟨⟨rfl, rfl, rfl⟩, fun heq => absurd heq hne, fun _ => rfl⟩
  | renames => exact ⟨⟨rfl, rfl, rfl⟩, nofun, fun _ => rfl⟩
  | drops herror => exact absurd herror (hexit rfl)
  | keeps => exact ⟨⟨rfl, rfl, rfl⟩, fun _ => rfl, fun _ => rfl⟩

def IsSilent (loc : Local) : Exit → Prop
  | .leave => True
  | .postUnchecked _ => loc.send ≠ .sent
  | _ => False

lemma endsSilently_of_exit (h : IsSilent loc (runHandler tool loc resp s handler).2) :
    EndsSilently loc resp s.device handler := by
  cases handler <;> unfold runHandler at h <;> dsimp only at h
  case ownerTransferMode =>
    unfold ownerTransferModeHandler at h
    dsimp only at h
    repeat' split at h
    all_goals exact False.elim h
  case getAndVerifyDoxm =>
    unfold getAndVerifyDoxmHandler at h
    split at h
    · assumption
    repeat' split at h
    all_goals exact False.elim h
  case listMethods =>
    unfold listMethodsHandler at h
    repeat' split at h
    all_goals exact False.elim h
  case operationModeUpdate =>
    unfold operationModeUpdateHandler at h
    split at h <;> exact False.elim h
  case ownerUuidUpdate =>
    unfold ownerUuidUpdateHandler at h
    repeat' split at h
    all_goals exact False.elim h
  case deviceUuidUpdate =>
    unfold deviceUuidUpdateHandler at h
    split at h
    · assumption
    repeat' split at h
    all_goals exact False.elim h
  case ownerCredential =>
    unfold ownerCredentialHandler at h
    repeat' split at h
    all_goals exact False.elim h
  case ownerAcl =>
    unfold ownerAclHandler at h
    split at h
    · exact False.elim h
    split at h
    · next hres =>
        refine ⟨hres, fun hv1 => ?_⟩
        have hv1' : getAclVer (s.withHandle none).device.specVer = .v1 := hv1
        rw [if_pos hv1'] at h
        exact h
    · exact False.elim h
  case rownerUuid =>
    unfold rownerUuidHandler at h
    split at h
    · assumption
    · exact False.elim h
  case readyForNormalStatus =>
    unfold readyForNormalStatusHandler at h
    split at h
    · next hres =>
        split at h
        · exact False.elim h
        · next hpdm => exact ⟨hres, hpdm⟩
    · exact False.elim h
  case ownershipInformation =>
    unfold ownershipInformationHandler changedHandler at h
    split at h <;> exact False.elim h
  case provisioningStatus =>
    unfold provisioningStatusHandler changedHandler at h
    split at h <;> exact False.elim h

/-! ## 3. One event -/

variable {cb : ClientCB}

lemma waits_iff {other : ClientCB} :
    other ∈ s.clientCBs ∧ Waits (some cb.handle) other ↔ OtherWaits s cb other := by
  constructor
  · rintro ⟨hmem, hans, hne⟩
    exact ⟨hmem, hans, fun heq => hne (congrArg some heq.symm)⟩
  · rintro ⟨hmem, hans, hne⟩
    exact ⟨hmem, hans, fun heq => hne (some.inj heq).symm⟩

lemma Running.answering (h : Running keys none s) (hcb : cb ∈ s.clientCBs) :
    Running keys (some cb.handle) s := by
  refine ⟨h.toCore, ⟨h.fresh, ?_⟩, h.alive, h.silent, h.listed, ?_⟩
  · intro handle heq
    rw [← some.inj heq]
    exact h.fresh cb hcb
  · intro other hother hwaits
    exact h.current other hother ⟨hwaits.1, nofun⟩

lemma closeTransaction_eq (cb : ClientCB) (keep : Bool) (t : OTMContext) :
    ∃ cbs, closeTransaction cb keep t = { t with clientCBs := cbs }
      ∧ (∀ other ∈ cbs, ∃ old ∈ t.clientCBs, old.handle = other.handle)
      ∧ ∀ other, (other ∈ cbs ∧ Waits none other)
          ↔ other ∈ t.clientCBs ∧ Waits (some cb.handle) other := by
  refine ⟨_, rfl, ?_, ?_⟩
  · intro other hother
    cases keep with
    | true =>
      obtain ⟨old, hold, rfl⟩ := mem_map.mp hother
      refine ⟨old, hold, ?_⟩
      split_ifs <;> rfl
    | false => exact ⟨other, mem_of_mem_filter hother, rfl⟩
  · intro other
    cases keep with
    | true =>
      constructor
      · rintro ⟨hother, hans, -⟩
        obtain ⟨old, hold, rfl⟩ := mem_map.mp hother
        by_cases heq : old.handle = cb.handle
        · rw [if_pos heq] at hans
          exact Bool.noConfusion hans
        rw [if_neg heq] at hans ⊢
        exact ⟨hold, hans, fun hsome => heq (some.inj hsome).symm⟩
      · rintro ⟨hother, hans, hne⟩
        refine ⟨mem_map.mpr ⟨other, hother, if_neg ?_⟩, hans, nofun⟩
        exact fun heq => hne (congrArg some heq.symm)
    | false =>
      rw [if_neg Bool.false_ne_true, mem_filter, bne_iff_ne]
      constructor
      · rintro ⟨⟨hother, hne⟩, hans, -⟩
        exact ⟨hother, hans, fun hsome => hne (some.inj hsome).symm⟩
      · rintro ⟨hother, hans, hne⟩
        exact ⟨⟨hother, fun heq => hne (congrArg some heq.symm)⟩, hans, nofun⟩

lemma Good.closeTransaction (h : Good keys (some cb.handle) t) (keep : Bool) :
    Good keys none (closeTransaction cb keep t) := by
  obtain ⟨cbs, heq, hold, hwaits⟩ := closeTransaction_eq cb keep t
  rw [heq]
  rcases h with ⟨hrun, other, hother, hw⟩ | hdone
  · refine .inl ⟨⟨hrun.toCore.stack _ _ _ _, ⟨?_, nofun⟩, hrun.alive, hrun.silent, hrun.listed,
      ?_⟩, ?_⟩
    · intro c hc
      obtain ⟨old, hmem, hsame⟩ := hold c hc
      exact hsame ▸ hrun.fresh old hmem
    · intro c hc hwait
      have hpair := (hwaits c).mp ⟨hc, hwait⟩
      exact hrun.current c hpair.1 hpair.2
    · have hpair := (hwaits other).mpr ⟨hother, hw⟩
      exact ⟨other, hpair.1, hpair.2⟩
  refine .inr ⟨hdone.toCore.stack _ _ _ _, hdone.released, hdone.reported, hdone.unlisted, ?_⟩
  intro c hc hwait
  have hpair := (hwaits c).mp ⟨hc, hwait⟩
  exact hdone.quiet c hpair.1 hpair.2

lemma ResponseOk.recordable (hok : ResponseOk tool loc resp s cb) {res : OCStackResult}
    (hres : handedOver loc (runHandler tool loc resp s cb.handler).2 = some res)
    (hexit : cb.handler = .rownerUuid → ¬ OCStackResult.resourceChanged.code < resp.result.code) :
    Recordable (some cb.handle) (runHandler tool loc resp s cb.handler).1 res
      ∧ StartsOk tool loc ((runHandler tool loc resp s cb.handler).1.position + 1)
          (runHandler tool loc resp s cb.handler).1.next
      ∧ ∀ code, loc.send = .failed code →
          ∀ other ∈ (runHandler tool loc resp s cb.handler).1.clientCBs,
            ¬ Waits (some cb.handle) other := by
  obtain ⟨hfinal, hothers, hdup, hstarts⟩ := hok.result res hres
  obtain ⟨hframe, hsame, hlist⟩ := (runHandler_prepares tool loc resp s cb.handler).frame hexit
  refine ⟨⟨hfinal, ?_, ?_⟩, ?_, ?_⟩
  · intro other hother hwaits
    rw [hframe.clientCBs] at hother
    obtain ⟨hne, hrowner, -, hhandle⟩ := hothers other (waits_iff.mp ⟨hother, hwaits⟩)
    rw [hsame hrowner]
    exact ⟨hne, hhandle⟩
  · intro hdupl
    obtain ⟨hnil, hfirst⟩ := hdup hdupl
    rw [hlist hfirst, hnil]
  · rw [OTMContext.position, hframe.before, hframe.next]
    exact hstarts
  · intro code hsend other hother hwaits
    rw [hframe.clientCBs] at hother
    exact (hothers other (waits_iff.mp ⟨hother, hwaits⟩)).2.2.1 code hsend

lemma ResponseOk.pending (hok : ResponseOk tool loc resp s cb) (h : Running keys (some cb.handle) s)
    (hsilent : IsSilent loc (runHandler tool loc resp s cb.handler).2) :
    Pending (some cb.handle) (runHandler tool loc resp s cb.handler).1 := by
  obtain ⟨other, hother, hhandle⟩ := hok.silent (endsSilently_of_exit hsilent)
  have hwaits := waits_iff.mpr hother
  by_cases hexit : cb.handler = .rownerUuid →
      ¬ OCStackResult.resourceChanged.code < resp.result.code
  · have hframe := ((runHandler_prepares tool loc resp s cb.handler).frame hexit).1
    refine ⟨other, ?_, hwaits.2⟩
    rw [hframe.clientCBs]
    exact hwaits.1
  obtain ⟨hrowner, herror⟩ := Classical.not_imp.mp hexit
  obtain ⟨list, hcancel⟩ := cancelRequest_eq { s with gOtmCtxList := [] }
  rw [hrowner, runHandler, rownerUuidHandler, if_pos (not_not.mp herror),
    removeOTMContext_eq h.listed, hcancel]
  exact ⟨other, mem_filter.mpr ⟨hwaits.1, decide_eq_true (hhandle hrowner)⟩, hwaits.2⟩

section

variable (handler : Handler) (onError : OCStackResult → OCStackResult)

@[simp] lemma postOr_sent (hsend : loc.send = .sent) :
    postOr tool loc handler onError t = (post .sent handler t).2 := by
  rw [postOr, hsend]
  rfl

@[simp] lemma postOr_refused {res : Failure} (hsend : loc.send = .refused res) :
    postOr tool loc handler onError t = setResult tool loc (onError res) t := by
  rw [postOr, hsend]
  exact if_neg res.2

@[simp] lemma postOr_failed {res : Failure} (hsend : loc.send = .failed res) :
    postOr tool loc handler onError t = setResult tool loc (onError res) (t.withHandle none) := by
  rw [postOr, hsend]
  exact if_neg res.2

end

variable {handle : Nat}

lemma Running.postOr (h : Running keys (some handle) t) (handler : Handler)
    (onError : OCStackResult → OCStackResult) (hrec : ∀ res, sendError loc.send = some res →
      Recordable (some handle) t (onError res) ∧ StartsOk tool loc (t.position + 1) t.next
        ∧ ∀ code, loc.send = .failed code → ∀ other ∈ t.clientCBs, ¬ Waits (some handle) other) :
    Good keys (some handle) (postOr tool loc handler onError t) := by
  cases hsend : loc.send with
  | sent =>
    rw [postOr_sent handler onError hsend]
    exact h.post_sent handler
  | refused res =>
    obtain ⟨hrecord, hstarts, -⟩ := hrec res (by rw [hsend, sendError])
    rw [postOr_refused handler onError hsend]
    exact h.setResult hrecord hstarts
  | failed res =>
    obtain ⟨hrecord, hstarts, hquiet⟩ := hrec res (by rw [hsend, sendError])
    rw [postOr_failed handler onError hsend]
    apply (h.withHandle none).setResult _ hstarts
    exact ⟨hrecord.final, fun other hother hwaits =>
      absurd hwaits (hquiet res hsend other hother), hrecord.unlisted⟩

lemma Running.leaveBy (h : Running keys (some handle) t) (exit : Exit)
    (hsilent : IsSilent loc exit → Pending (some handle) t)
    (hrec : ∀ res, handedOver loc exit = some res →
      Recordable (some handle) t res ∧ StartsOk tool loc (t.position + 1) t.next
        ∧ ∀ code, loc.send = .failed code → ∀ other ∈ t.clientCBs, ¬ Waits (some handle) other) :
    Good keys (some handle) (leaveBy tool loc t exit) := by
  cases exit with
  | setResult res =>
    obtain ⟨hrecord, hstarts, -⟩ := hrec res rfl
    exact h.setResult hrecord hstarts
  | setResultAndReturn res =>
    obtain ⟨hrecord, hstarts, -⟩ := hrec res rfl
    exact h.setResult hrecord hstarts
  | post handler => exact h.postOr handler id hrec
  | postOrError handler =>
    apply h.postOr handler (fun _ => .error)
    intro res hsend
    exact hrec .error (by rw [handedOver, hsend]; rfl)
  | postUnchecked handler =>
    rw [OwnershipTransfer.leaveBy]
    cases hsend : loc.send with
    | sent => exact h.post_sent handler
    | refused res => exact .inl ⟨h, hsilent (by simp [IsSilent, hsend])⟩
    | failed res =>
      exact .inl ⟨h.withHandle none, hsilent (by simp [IsSilent, hsend])⟩
  | leave => exact .inl ⟨h, hsilent trivial⟩

lemma Good.respond (h : Good keys none s) (hok : StepOk tool s (.response handle resp loc)) :
    Good keys none (respond tool handle resp loc s) := by
  unfold OwnershipTransfer.respond
  split
  · exact h
  next cb hfind =>
    have hcb := mem_of_find?_eq_some hfind
    have hresp := hok cb hfind
    rcases h with ⟨hrun, -⟩ | hdone
    · have hbusy := hrun.answering hcb
      have hprepared := hbusy.prepared (runHandler_prepares tool loc resp s cb.handler) hresp.newId
      rw [if_neg (by rw [hrun.alive]; exact Bool.false_ne_true)]
      apply Good.closeTransaction
      apply hprepared.leaveBy _ (hresp.pending hbusy)
      intro res hres
      apply hresp.recordable hres
      -- the error exit of that handler hands nothing over
      intro hrowner herror
      rw [hrowner, runHandler, rownerUuidHandler, if_pos herror] at hres
      have hnone : (none : Option OCStackResult) = some res := hres
      cases hnone
    have halive := hresp.alive
    rw [hdone.released] at halive
    exact Bool.noConfusion halive

lemma Running.forgotten (h : Running keys busy s) : Running keys busy (forgetOwner s) := by
  have hdevice : Running keys busy
      (s.withDoxm { s.device.doxm with owner := OicUuid.nil, owned := false }) :=
    h.withDevice rfl rfl rfl
  exact ⟨⟨hdevice.keys, hdevice.ids, h.distinct, h.open_iff, h.order, h.own, h.recorded,
    h.untouched, Nat.le_succ_of_le h.attempts, h.restarts⟩, ⟨h.fresh, h.busy_lt⟩, h.alive,
    h.silent, h.listed, h.current⟩

lemma Running.restarted (h : Running keys busy s)
    (hattempt : s.attemptCnt + 1 < wrongPinMaxAttemp) :
    Running keys busy { forgetOwner s with
      restarts := (forgetOwner s).restarts ++ [(forgetOwner s).position] } := by
  have hforget := h.forgotten
  have hlen : (s.restarts ++ [s.position]).length = s.restarts.length + 1 := by
    simp
  have hattempts := h.attempts
  refine ⟨⟨hforget.keys, hforget.ids, h.distinct, h.open_iff, h.order, h.own, h.recorded,
    h.untouched, ?_, ?_⟩, ⟨h.fresh, h.busy_lt⟩, h.alive, h.silent, h.listed, h.current⟩
  · exact hlen ▸ Nat.succ_le_succ hattempts
  · have hlt : s.restarts.length + 1 < wrongPinMaxAttemp := by omega
    exact hlen ▸ hlt

lemma Good.sessionFailed (h : Good keys none s) (hrun : Running keys none s) {result : CAResult}
    (hok : result = .dtlsAuthenticationFailure
      ∧ ¬ (¬ isNilUuid s.device.doxm.owner ∧ s.device.doxm.owned)
      ∧ s.device.doxm.oxmSel = oicRandomDevicePin ∧ loc.pdmDeletesDevice = true
      ∧ s.attemptCnt + 1 < wrongPinMaxAttemp → RestartOk tool loc s) :
    Good keys none (ownershipTransferSessionFailed tool loc result s).2 := by
  have hpending : Pending none s := by
    rcases h with ⟨-, hpending⟩ | hdone
    · exact hpending
    have := hdone.reported
    rw [hrun.silent] at this
    cases this
  unfold ownershipTransferSessionFailed
  by_cases hres : result ≠ .dtlsAuthenticationFailure
  · rw [if_pos hres]
    exact h
  rw [if_neg hres]
  by_cases howned : ¬ isNilUuid s.device.doxm.owner ∧ s.device.doxm.owned
  · rw [if_pos howned]
    exact h
  rw [if_neg howned]
  by_cases hpin : s.device.doxm.oxmSel = oicRandomDevicePin
  · rw [if_pos hpin]
    dsimp only
    by_cases hdel : loc.pdmDeletesDevice = false
    · rw [if_pos hdel]
      exact .inl ⟨hrun.forgotten, hpending⟩
    rw [if_neg hdel]
    by_cases hattempt : (forgetOwner s).attemptCnt < wrongPinMaxAttemp
    · rw [if_pos hattempt]
      have hrestart := hok ⟨not_not.mp hres, howned, hpin, Bool.eq_true_of_not_eq_false hdel,
        hattempt⟩
      apply start_good _ (hrun.restarted hattempt)
      · refine ⟨hrestart.callbacks, fun res hcode => ?_⟩
        have hcond := hrestart.result res hcode
        exact ⟨hcond.1, hcond.2.2.2.2⟩
      · intro res hcode
        obtain ⟨-, hdup, hsend, hhandle, -⟩ := hrestart.result res hcode
        refine ⟨fun cb hcb hwaits => ⟨hdup, hsend, hhandle cb hcb hwaits.1⟩, fun heq => ?_⟩
        exact absurd heq hdup
    rw [if_neg hattempt]
    exact .inl ⟨hrun.forgotten, hpending⟩
  rw [if_neg hpin]
  exact h

lemma Good.dtlsHandshakeCB (h : Good keys none s) {endpoint : List UInt8 × UInt16}
    {result : CAResult} (hok : StepOk tool s (.handshake endpoint result loc)) :
    Good keys none (dtlsHandshakeCB tool endpoint result loc s).2 := by
  rcases h with ⟨hrun, hpending⟩ | hdone
  · have hgood : Good keys none s := .inl ⟨hrun, hpending⟩
    unfold OwnershipTransfer.dtlsHandshakeCB
    by_cases hmem : endpoint ∉ s.gOtmCtxList
    · rw [if_pos hmem]
      exact hgood
    rw [if_neg hmem, if_neg (by rw [hrun.alive]; exact Bool.false_ne_true)]
    by_cases hkey : s.device.key ≠ endpoint
    · rw [if_pos hkey]
      exact hgood
    rw [if_neg hkey]
    split
    · exact hgood
    apply hgood.sessionFailed hrun
    rintro ⟨hres, howned, hpin, hdeletes, hattempt⟩
    exact hok ⟨not_not.mp hmem, not_not.mp hkey, hres, howned, hpin, hdeletes, hattempt⟩
  unfold OwnershipTransfer.dtlsHandshakeCB
  rw [hdone.unlisted, if_pos not_mem_nil]
  exact .inr hdone

end Steps

/-! ## 4. Runs -/

section Runs

variable {keys : List (List UInt8 × UInt16)} {s : OTMContext} {tool : Tool} {loc : Local}
  {devices : List OCProvisionDev}

lemma good_of_call (hcall : WellFormedCall devices) (hstart : StartsOk tool loc 0 devices)
    {res : OCStackResult} (hdo : otmDoOwnershipTransfer tool loc devices = (res, some s)) :
    Good (devices.map OCProvisionDev.key) none s := by
  cases devices with
  | nil => exact absurd rfl hcall.nonempty
  | cons device next =>
    rw [otmDoOwnershipTransfer] at hdo
    rw [← some.inj (congrArg Prod.snd hdo)]
    apply start_good next _ hstart
    · intro res' _
      exact ⟨fun cb hcb _ => absurd hcb not_mem_nil, fun _ => rfl⟩
    · refine ⟨⟨rfl, ?_, ?_, ?_, rfl, nofun, nofun, rfl, Nat.le_refl _, ?_⟩,
        ⟨nofun, nofun⟩, rfl, rfl, .inl rfl, nofun⟩
      · exact map_map
      · exact (congrArg List.Nodup map_map).mpr hcall.uuids
      · intro j entry hj
        have hmem := mem_of_getElem? hj
        obtain ⟨dev, -, rfl⟩ := mem_map.mp hmem
        exact iff_of_true rfl (Nat.zero_le j)
      · exact Nat.succ_pos _

lemma Good.step (h : Good keys none s) {event : Event} (hok : StepOk tool s event) :
    Good keys none (step tool s event) := by
  cases event with
  | response handle resp loc => exact h.respond hok
  | handshake endpoint result loc => exact h.dtlsHandshakeCB hok

lemma Good.run (h : Good keys none s) (events : List Event) (hok : RunOk tool s events) :
    Good keys none (run tool s events) := by
  induction events generalizing s with
  | nil => exact h
  | cons event events ih => exact ih (h.step hok.1) hok.2

lemma Core.sound {n : Nat} (h : Core (devices.map OCProvisionDev.key) n s)
    (hprogress : (s.reports = []
        ∧ (∃ cb ∈ s.clientCBs, cb.answered = false ∧ cb.device = s.position)
        ∧ ∀ j entry, s.ctxResultArray[j]? = some entry →
            (entry.res = .continueLater ↔ s.position ≤ j))
      ∨ (s.reports = [(s.ctxResultArray, s.ctxHasError)]
        ∧ ∀ entry ∈ s.ctxResultArray, entry.res ≠ .continueLater)) :
    Sound devices s := by
  have hlen := congrArg List.length h.order
  rw [length_map, length_range] at hlen
  refine ⟨h.keys, h.ids, hprogress, hlen ▸ h.order, h.own, h.recorded, ?_, h.untouched⟩
  intro i
  have hcount := count_le_length (a := i) (l := s.restarts)
  have hlt := h.restarts
  omega

lemma Good.sound (h : Good (devices.map OCProvisionDev.key) none s) : Sound devices s := by
  rcases h with ⟨hrun, cb, hcb, hwaits⟩ | hdone
  · apply hrun.toCore.sound
    exact .inl ⟨hrun.silent, ⟨cb, hcb, hwaits.1, hrun.current cb hcb hwaits⟩, hrun.open_iff⟩
  apply hdone.toCore.sound
  refine .inr ⟨hdone.reported, ?_⟩
  intro entry hentry hopen
  obtain ⟨j, hj, rfl⟩ := getElem_of_mem hentry
  have hle := (hdone.open_iff j _ (getElem?_eq_getElem hj)).mp hopen
  omega

/-- **A transfer that takes none of the ways above keeps to what is asked for.** -/
theorem ownershipTransfer_sound (hcall : WellFormedCall devices)
    (hstart : StartsOk tool loc 0 devices) {res : OCStackResult}
    (hdo : otmDoOwnershipTransfer tool loc devices = (res, some s)) (events : List Event)
    (hok : RunOk tool s events) : Sound devices (run tool s events) :=
  ((good_of_call hcall hstart hdo).run events hok).sound

end Runs

/-! ## 5. Two transfers -/

def sampleDoxm (c : UInt8) : OicSecDoxm :=
  ⟨[oicJustWorks], oicJustWorks, 1, false, ⟨Vector.replicate 16 c⟩, OicUuid.nil, OicUuid.nil⟩

def sampleDevice (c : UInt8) : OCProvisionDev :=
  ⟨[c], .ip, 5684, 0, sampleDoxm c, ocfPrefix⟩

def sampleTool : Tool where
  gOxmAllowStatus idx := decide (idx ≠ .decentralizedPublicKey)
  deviceID := ⟨Vector.replicate 16 9⟩
  cborPayloadToDoxm _ := some (sampleDoxm 1)
  cborPayloadToPstat _ := some gDefaultPstat

variable (refused : Nat → Bool)

/-- Everything works locally, but the requests of `refused` are not sent. -/
def sampleLocal : Local :=
  ⟨fun i => if refused i then .refused ⟨.commError, by decide⟩ else .sent, .sent, true, .ok, .ok,
    .ok, .ok, .ok, .ok, true, .ok, true⟩

def sampleReply (result : OCStackResult) : OCClientResponse := ⟨result, some ⟨true, []⟩⟩

lemma sampleCall : WellFormedCall [sampleDevice 1, sampleDevice 2] :=
  ⟨by decide, by decide, by decide⟩

lemma sample_hasCallbacks (c : UInt8) : HasCallbacks sampleTool (sampleDevice c) := by
  intro oxmSel hselect
  have hjust : (.ok oicJustWorks : Except OCStackResult UInt32) = .ok oxmSel := hselect
  rw [← Except.ok.inj hjust]
  rfl

lemma sample_startError (position : Nat) (c : UInt8) :
    startError sampleTool (sampleLocal refused) position (sampleDevice c)
      = if refused position then some .commError else none := by
  have hselect : otmSelectOwnershipTransferMethod sampleTool.gOxmAllowStatus
      (sampleDevice c).doxm.oxm = .ok oicJustWorks := rfl
  rw [startError, hselect]
  unfold sampleLocal
  dsimp only
  split_ifs <;> rfl

lemma sample_startsOk (position : Nat) (devices : List UInt8) :
    StartsOk sampleTool (sampleLocal refused) position (devices.map sampleDevice) := by
  induction devices generalizing position with
  | nil => trivial
  | cons c devices ih =>
    refine ⟨sample_hasCallbacks c, fun res hres => ⟨?_, ih _⟩⟩
    rw [sample_startError] at hres
    split_ifs at hres
    rw [← some.inj hres]
    decide

theorem ownershipTransfer_sound_sample : ∃ s,
    otmDoOwnershipTransfer sampleTool (sampleLocal fun _ => false)
        [sampleDevice 1, sampleDevice 2] = (.ok, some s)
      ∧ Sound [sampleDevice 1, sampleDevice 2] (run sampleTool s
          [.response 0 (sampleReply .timeout) (sampleLocal fun i => i == 1)])
      ∧ (run sampleTool s
          [.response 0 (sampleReply .timeout) (sampleLocal fun i => i == 1)]).reports.length
        = 1 := by
  refine ⟨_, rfl, ownershipTransfer_sound sampleCall (sample_startsOk _ 0 [1, 2]) rfl _
    ⟨?_, trivial⟩, rfl⟩
  intro cb hfind
  rw [← some.inj hfind]
  refine ⟨rfl, False.elim, ?_, nofun⟩
  intro res hres
  rw [← some.inj hres]
  refine ⟨by decide, ?_, nofun, sample_startsOk _ 1 [2]⟩
  rintro other ⟨hother, -, hne⟩
  exact absurd (congrArg ClientCB.handle (mem_singleton.mp hother)) hne

theorem ownershipTransfer_stalls : ∃ s,
    WellFormedCall [sampleDevice 1]
      ∧ otmDoOwnershipTransfer sampleTool (sampleLocal fun _ => false) [sampleDevice 1]
          = (.ok, some s)
      ∧ ¬ Sound [sampleDevice 1] (run sampleTool s
          [.response 0 (sampleReply .resourceChanged) (sampleLocal fun _ => false),
           .response 1 (sampleReply .ok) (sampleLocal fun _ => false),
           .response 2 (sampleReply .ok) (sampleLocal fun _ => false),
           .response 3 (sampleReply .resourceChanged) (sampleLocal fun _ => false),
           .response 4 (sampleReply .resourceChanged) (sampleLocal fun _ => false),
           .response 5 (sampleReply .timeout) (sampleLocal fun _ => false)]) := by
  refine ⟨_, ⟨by decide, by decide, by decide⟩, rfl, fun h => ?_⟩
  rcases h.progress with ⟨-, ⟨cb, hcb, -⟩, -⟩ | ⟨hreports, -⟩
  · have hnone : cb ∈ ([] : List ClientCB) := hcb
    simp at hnone
  have hnone : ([] : List (List OCProvisionResult × Bool)) = [_] := hreports
  cases hnone

end Iochibity.Prov.OwnershipTransfer
