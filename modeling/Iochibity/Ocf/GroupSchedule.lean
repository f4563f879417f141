/-
Scheduled group actions, `oicgroup.c` with the timers of `octimer.c`.
-/
import Iochibity.Coap.Message
import Iochibity.Lib.Slots
import Iochibity.Lib.Runs

namespace Iochibity.Ocf.Group

open Coap (CString)
open TimerSlots (firstFree)

section

abbrev timeoutsCount : ℕ := 10

/-- `timeout_list`: the times of the slots that are used. -/
abbrev Timeouts := Fin timeoutsCount → Option ℤ

/-- A `time_t` has 64 bits. -/
def timeT (seconds : ℤ) : ℤ := Int.bmod seconds (2 ^ 64)

def registerTimer (now seconds : ℤ) (timeouts : Timeouts) : ℤ × Fin timeoutsCount × Timeouts :=
  if seconds ≤ 0 then (-1, 0, timeouts)
  else
    match firstFree timeouts with
    | none => (-1, 0, timeouts)
    | some idx => (timeT (now + seconds), idx,
        Function.update timeouts idx (some (timeT (now + seconds))))

def unregisterTimer (idx : Fin timeoutsCount) (timeouts : Timeouts) : Timeouts :=
  Function.update timeouts idx none

/-- `ACTION_TYPE`; another number is none of these. -/
def typeNone : UInt32 := 0
def typeRecursive : UInt32 := 2

variable {α : Type}

structure OCActionSet (α : Type) where
  address : ℕ
  actionsetName : CString
  timesteps : ℤ
  type : UInt32
  actions : List α

structure ScheduledResourceInfo where
  resource : ℕ
  actionset : ℕ
  timerId : Fin timeoutsCount
  ehRequest : ℕ
  time : ℤ
  deriving DecidableEq

/-- The collections with their action sets, `g_scheduleResourceList`, the timers, and the next
address. -/
structure GroupState (α : Type) where
  actionsets : ℕ → List (OCActionSet α)
  schedule : List ScheduledResourceInfo
  timeouts : Timeouts
  next : ℕ

def GroupState.empty : GroupState α := ⟨fun _ => [], [], fun _ => none, 0⟩

inductive GroupEvent (α : Type)
  | ran (timer : Option (Fin timeoutsCount)) (resource : ℕ) (actionset : OCActionSet α)
      (ehRequest : ℕ)
  | answered (ok : Bool)

variable (s : GroupState α)

def actionsetAt (info : ScheduledResourceInfo) : Option (OCActionSet α) :=
  (s.actionsets info.resource).find? (·.address = info.actionset)

/-! ## The list of entries -/

/-- `GetScheduledResource`: the first entry whose time has come. -/
def getScheduledResource (now : ℤ) (schedule : List ScheduledResourceInfo) :
    Option ScheduledResourceInfo :=
  schedule.find? (·.time - now ≤ 0)

/-- `GetScheduledResourceByActionSetName`, over the entries that are left. -/
def getScheduledResourceByActionSetName (s : GroupState α) (setName : CString) :
    List ScheduledResourceInfo → Option (Option ScheduledResourceInfo)
  | [] => some none
  | info :: rest =>
    match actionsetAt s info with
    | none => none
    | some set =>
      if set.actionsetName = setName then some (some info)
      else getScheduledResourceByActionSetName s setName rest

def getActionSet (actionName : CString) (head : List (OCActionSet α)) : Option (OCActionSet α) :=
  head.find? (·.actionsetName = actionName)

def GroupState.setActionsets (resource : ℕ) (sets : List (OCActionSet α)) : GroupState α :=
  { s with actionsets := Function.update s.actionsets resource sets }

def addActionSet (resource : ℕ) (actionsetName : CString) (timesteps : ℤ) (type : UInt32)
    (actions : List α) : GroupState α × Bool :=
  if ∃ set ∈ s.actionsets resource, set.actionsetName = actionsetName then (s, false)
  else
    ({ s.setActionsets resource
        (s.actionsets resource ++ [⟨s.next, actionsetName, timesteps, type, actions⟩]) with
      next := s.next + 1 }, true)

/-- The loop of `FindAndDeleteActionSet`: it goes on behind what it deletes. -/
def deleteNext (actionsetName : CString) : List (OCActionSet α) → List (OCActionSet α)
  | [] => []
  | [last] => [last]
  | pointer :: second :: rest =>
    if second.actionsetName = actionsetName then pointer :: deleteNext actionsetName rest
    else pointer :: deleteNext actionsetName (second :: rest)

def findAndDeleteActionSet (resource : ℕ) (actionsetName : CString) : GroupState α × Bool :=
  match s.actionsets resource with
  | [] => (s, false)
  | first :: rest =>
    if first.actionsetName = actionsetName then (s.setActionsets resource rest, true)
    else (s.setActionsets resource (deleteNext actionsetName (first :: rest)), true)

def doScheduledGroupAction (now : ℤ) (timer : Fin timeoutsCount) (s : GroupState α) :
    Option (GroupState α × List (GroupEvent α)) :=
  match getScheduledResource now s.schedule with
  | none => some (s, [])
  | some info =>
    match actionsetAt s info with
    | none => none
    | some set =>
      let s' : GroupState α :=
        if set.type = typeRecursive ∧ set.timesteps > 0 then
          let (time, timerId, timeouts) := registerTimer now set.timesteps s.timeouts
          { s with
            timeouts := timeouts
            schedule :=
              s.schedule ++ [⟨info.resource, info.actionset, timerId, info.ehRequest, time⟩] }
        else s
      some ({ s' with schedule := s'.schedule.erase info },
        [.ran (some timer) info.resource set info.ehRequest])

/-- The loop of `checkTimeout` over the slots that are left. -/
def checkTimeoutFrom (now : ℤ) :
    List (Fin timeoutsCount) → GroupState α → Option (GroupState α × List (GroupEvent α))
  | [], s => some (s, [])
  | i :: rest, s =>
    match s.timeouts i with
    | none => checkTimeoutFrom now rest s
    | some time =>
      if time - now ≤ 0 then
        (doScheduledGroupAction now i { s with timeouts := unregisterTimer i s.timeouts }).bind
          fun fired => (checkTimeoutFrom now rest fired.1).map fun after =>
            (after.1, fired.2 ++ after.2)
      else checkTimeoutFrom now rest s

def checkTimeout (now : ℤ) (s : GroupState α) : Option (GroupState α × List (GroupEvent α)) :=
  checkTimeoutFrom now (List.finRange timeoutsCount) s

/-! ## Requests -/

/-- A request in which `ExtractKeyValueFromRequest` finds a key, or none, with what
`BuildActionSetFromString` makes of an action set. -/
inductive GroupRequest (α : Type)
  | actionSet (desc : Option (CString × ℤ × UInt32 × List α))
  | deleteActionSet (name : CString)
  | doAction (name : CString)
  | doScheduledAction (name : CString) (delay : ℤ)
  | cancelAction (name : CString)
  | getActionSet (name : CString)

variable (now : ℤ) (resource ehRequest : ℕ)

/-- What `DoAction` does with a set that has a type: a timer for it. -/
def scheduleActionSet (set : OCActionSet α) (delay : ℤ) (s : GroupState α) : GroupState α × Bool :=
  let delay := if delay = -1 then set.timesteps else delay
  if delay > 0 then
    let (time, timerId, timeouts) := registerTimer now delay s.timeouts
    ({ s with
      timeouts := timeouts
      schedule := s.schedule ++ [⟨resource, set.address, timerId, ehRequest, time⟩] }, true)
  else (s, false)

/-- The part of `BuildCollectionGroupActionCBORResponse` for `DO_ACTION`. `GetNumOfTargetResource`
asserts that the actions can be counted in a byte. -/
def doActionRequest (name : CString) (s : GroupState α) :
    Option (GroupState α × List (GroupEvent α)) :=
  match getActionSet name (s.actionsets resource) with
  | none => some (s, [.answered false])
  | some set =>
    if set.type = typeNone then
      if set.actions.length < 255 then
        some (s, [.ran none resource set ehRequest, .answered true])
      else none
    else
      let scheduled := scheduleActionSet now resource ehRequest set (-1) s
      some (scheduled.1, [.answered scheduled.2])

def cancelActionRequest (name : CString) (s : GroupState α) :
    Option (GroupState α × List (GroupEvent α)) :=
  (getScheduledResourceByActionSetName s name s.schedule).map fun found =>
    match found with
    | none => (s, [.answered false])
    | some info =>
      ({ s with
        timeouts := unregisterTimer info.timerId s.timeouts
        schedule := s.schedule.erase info }, [.answered true])

/-- `BuildCollectionGroupActionCBORResponse`, with the method that the key is for.
`DoScheduledAction` is asked for, but no key that is extracted. -/
def groupRequest (s : GroupState α) :
    GroupRequest α → Option (GroupState α × List (GroupEvent α))
  | .actionSet none => some (s, [.answered false])
  | .actionSet (some (name, timesteps, type, actions)) =>
    let added := addActionSet s resource name timesteps type actions
    some (added.1, [.answered added.2])
  | .deleteActionSet name =>
    let deleted := findAndDeleteActionSet s resource name
    some (deleted.1, [.answered deleted.2])
  | .doAction name => doActionRequest now resource ehRequest name s
  | .doScheduledAction _ _ => some (s, [.answered false])
  | .cancelAction name => cancelActionRequest name s
  | .getActionSet name =>
    some (s, [.answered (getActionSet name (s.actionsets resource)).isSome])

inductive GroupInput (α : Type)
  | request (now : ℤ) (resource ehRequest : ℕ) (request : GroupRequest α)
  | pass (now : ℤ)

def groupHandle :
    GroupInput α → Option (GroupState α × List (GroupEvent α))
  | .request now resource ehRequest request => groupRequest now resource ehRequest s request
  | .pass now => checkTimeout now s

def groupStep (input : GroupInput α) : GroupState α × List (GroupEvent α) :=
  (groupHandle s input).getD (s, [])

end

open TimerSlots (Owned)
open List (append_nil filter_append find?_some mem_append mem_cons mem_cons_of_mem mem_cons_self
  mem_filter mem_singleton not_mem_nil)
open Option
open Function (forall_update_iff update)

variable {α : Type}

/-! ## What is promised -/

def ScheduledResourceInfo.due (now : ℤ) (info : ScheduledResourceInfo) : Bool :=
  info.time - now ≤ 0

section

variable (s : GroupState α)

def named (name : CString) (info : ScheduledResourceInfo) : Bool :=
  (actionsetAt s info).any (·.actionsetName = name)

structure Consistent (s : GroupState α) : Prop where
  stored : ∀ info ∈ s.schedule, ∃ set ∈ s.actionsets info.resource, set.address = info.actionset
  owned : Owned ScheduledResourceInfo.timerId ScheduledResourceInfo.time s.schedule s.timeouts

structure SchedulesKept (s s' : GroupState α) : Prop where
  schedule : s'.schedule = s.schedule
  timeouts : s'.timeouts = s.timeouts

def runOf (info : ScheduledResourceInfo) : Option (GroupEvent α) :=
  (actionsetAt s info).map fun set =>
    .ran (some info.timerId) info.resource set info.ehRequest

def recurs (info : ScheduledResourceInfo) : Bool :=
  (actionsetAt s info).any (fun set => set.type = typeRecursive ∧ set.timesteps > 0)

structure Renews (now : ℤ) (s : GroupState α) (info again : ScheduledResourceInfo) : Prop where
  resource : again.resource = info.resource
  actionset : again.actionset = info.actionset
  ehRequest : again.ehRequest = info.ehRequest
  time : ∃ set, actionsetAt s info = some set ∧ again.time = now + set.timesteps

/-- **Timers that fire**: each runs what its own entry is for, once, and those that recur are
scheduled again. -/
structure Fires (now : ℤ) (s s' : GroupState α) (events : List (GroupEvent α)) : Prop where
  sets : s'.actionsets = s.actionsets
  events : events.Perm ((s.schedule.filter (·.due now)).filterMap (runOf s))
  schedule : ∃ renewed, s'.schedule.Perm (s.schedule.filter (¬ ·.due now = true) ++ renewed)
      ∧ List.Forall₂ (Renews now s) ((s.schedule.filter (·.due now)).filter (recurs s ·)) renewed

def Schedules (now : ℤ) (resource ehRequest : ℕ) (name : CString) (s s' : GroupState α)
    (events : List (GroupEvent α)) : Prop :=
  match getActionSet name (s.actionsets resource) with
  | none => s' = s ∧ events = [.answered false]
  | some set =>
    if set.type = typeNone then
      s' = s ∧ events = [.ran none resource set ehRequest, .answered true]
    else if set.timesteps ≤ 0 ∨ ∀ i, s.timeouts i ≠ none then
      s' = s ∧ events = [.answered false]
    else
      events = [.answered true] ∧ s'.actionsets = s.actionsets ∧ ∃ i, s.timeouts i = none
          ∧ s'.schedule = s.schedule ++ [⟨resource, set.address, i, ehRequest, now + set.timesteps⟩]
          ∧ s'.timeouts = update s.timeouts i (some (now + set.timesteps))

/-- **A schedule that is cancelled**: the entries of this collection for this name go, with their
timers, and no others. -/
structure Cancels (resource : ℕ) (name : CString) (s s' : GroupState α)
    (events : List (GroupEvent α)) : Prop where
  sets : s'.actionsets = s.actionsets
  schedule : ∀ info, info ∈ s'.schedule
    ↔ info ∈ s.schedule ∧ ¬ (info.resource = resource ∧ named s name info = true)
  timeouts : ∀ i, s'.timeouts i
    = if ∃ info ∈ s.schedule, info.timerId = i ∧ info.resource = resource
        ∧ named s name info = true then none else s.timeouts i
  events : events = [.answered (decide (∃ info ∈ s.schedule,
    info.resource = resource ∧ named s name info = true))]

def Answers (now : ℤ) (resource ehRequest : ℕ) (s s' : GroupState α)
    (events : List (GroupEvent α)) : GroupRequest α → Prop
  | .actionSet _ => SchedulesKept s s'
  | .deleteActionSet _ => SchedulesKept s s'
  | .doAction name => Schedules now resource ehRequest name s s' events
  | .doScheduledAction _ _ => s' = s ∧ events = [.answered false]
  | .cancelAction name => Cancels resource name s s' events
  | .getActionSet _ => s' = s

def Does (s s' : GroupState α) (events : List (GroupEvent α)) : GroupInput α → Prop
  | .request now resource ehRequest request => Answers now resource ehRequest s s' events request
  | .pass now => Fires now s s' events

def StepExact (input : GroupInput α) : Prop :=
  ∃ s' events, groupHandle s input = some (s', events) ∧ Consistent s' ∧ Does s s' events input

def Fits (seconds : ℤ) : Prop := timeT seconds = seconds

def DoActionClean (now : ℤ) (resource : ℕ) (name : CString) (s : GroupState α) : Prop :=
  ∀ set ∈ s.actionsets resource, set.actionsetName = name →
    if set.type = typeNone then set.actions.length < 255
    else 0 < set.timesteps → (∃ i, s.timeouts i = none) ∧ Fits (now + set.timesteps)

def RequestClean (now : ℤ) (resource : ℕ) (s : GroupState α) : GroupRequest α → Prop
  | .deleteActionSet name => ∀ info ∈ s.schedule, ¬ (info.resource = resource ∧ named s name info)
  | .doAction name => DoActionClean now resource name s
  -- the first entry for this name is the only one of the collection
  | .cancelAction name => ∀ info, s.schedule.find? (named s name) = some info →
      info.resource = resource
        ∧ ∀ other ∈ s.schedule, other.resource = resource → named s name other = true → other = info
  | _ => True

structure PassClean (now : ℤ) (s : GroupState α) : Prop where
  inOrder : ((s.schedule.filter (·.due now)).map ScheduledResourceInfo.timerId).Pairwise (· < ·)
  times : ∀ info ∈ s.schedule, info.due now = true → ∀ set, actionsetAt s info = some set →
    Fits (now + set.timesteps)

def StepClean : GroupInput α → Prop
  | .request now resource _ request => RequestClean now resource s request
  | .pass now => PassClean now s

end

/-! ## The state -/

structure Sound (s : GroupState α) : Prop where
  names : ∀ r, ((s.actionsets r).map OCActionSet.actionsetName).Nodup
  addresses : ∀ r, ((s.actionsets r).map OCActionSet.address).Nodup
  fresh : ∀ r, ∀ set ∈ s.actionsets r, set.address < s.next
  consistent : Consistent s

lemma sound_empty : Sound (GroupState.empty : GroupState α) where
  names := fun _ => List.nodup_nil
  addresses := fun _ => List.nodup_nil
  fresh := fun _ _ hset => absurd hset not_mem_nil
  consistent := ⟨fun _ hinfo => absurd hinfo not_mem_nil, Owned.nil⟩

variable {s : GroupState α}

variable {info : ScheduledResourceInfo}

lemma Sound.actionsetAt (h : Sound s) (hinfo : info ∈ s.schedule) :
    ∃ set ∈ s.actionsets info.resource, set.address = info.actionset
      ∧ Group.actionsetAt s info = some set := by
  obtain ⟨set, hset, haddress⟩ := h.consistent.stored info hinfo
  refine ⟨set, hset, haddress, ?_⟩
  cases hfind : Group.actionsetAt s info with
  | none => exact absurd (decide_eq_true haddress) (List.find?_eq_none.mp hfind set hset)
  | some found =>
    have haddress' : found.address = info.actionset := of_decide_eq_true
      (find?_some (p := fun set : OCActionSet α => decide (set.address = info.actionset)) hfind)
    rw [List.inj_on_of_nodup_map (h.addresses info.resource) (List.mem_of_find?_eq_some hfind)
      hset (haddress'.trans haddress.symm)]

lemma Sound.nodup (h : Sound s) : s.schedule.Nodup :=
  List.Nodup.of_map _ h.consistent.owned.slots

variable {s' : GroupState α}

lemma Sound.reschedule (h : Sound s) (hsets : s'.actionsets = s.actionsets)
    (hnext : s'.next = s.next) (hconsistent : Consistent s') : Sound s' where
  names := by rw [hsets]; exact h.names
  addresses := by rw [hsets]; exact h.addresses
  fresh := by rw [hsets, hnext]; exact h.fresh
  consistent := hconsistent

lemma actionsetAt_congr (hsets : s'.actionsets = s.actionsets)
    (info : ScheduledResourceInfo) : actionsetAt s' info = actionsetAt s info := by
  unfold actionsetAt
  rw [hsets]

lemma runOf_congr (hsets : s'.actionsets = s.actionsets) :
    runOf s' = runOf s := by
  funext info
  unfold runOf
  rw [actionsetAt_congr hsets]

lemma recurs_congr (hsets : s'.actionsets = s.actionsets) :
    recurs s' = recurs s := by
  funext info
  unfold recurs
  rw [actionsetAt_congr hsets]

variable {now : ℤ}

lemma Renews.congr {again : ScheduledResourceInfo} (hsets : s'.actionsets = s.actionsets)
    (h : Renews now s' info again) :
    Renews now s info again := by
  obtain ⟨set, hat, htime⟩ := h.time
  rw [actionsetAt_congr hsets] at hat
  exact ⟨h.resource, h.actionset, h.ehRequest, set, hat, htime⟩

/-! ## Timers that fire -/

lemma registerTimer_free {seconds : ℤ} {timeouts : Timeouts} (hpos : 0 < seconds)
    (hfree : ∃ i, timeouts i = none) (hfits : Fits (now + seconds)) :
    ∃ i, timeouts i = none ∧ registerTimer now seconds timeouts
      = (now + seconds, i, update timeouts i (some (now + seconds))) := by
  obtain ⟨i, hi⟩ := hfree
  obtain ⟨j, hj⟩ := TimerSlots.firstFree_isSome hi
  refine ⟨j, TimerSlots.firstFree_some hj, ?_⟩
  unfold registerTimer
  rw [if_neg (by omega), hj]
  simp only
  rw [hfits]

lemma doScheduledGroupAction_due (h : Sound s)
    (hfirst : getScheduledResource now s.schedule = some info)
    (hfits : ∀ set, actionsetAt s info = some set → Fits (now + set.timesteps)) :
    ∃ set again s', actionsetAt s info = some set ∧ doScheduledGroupAction now info.timerId
          { s with timeouts := unregisterTimer info.timerId s.timeouts }
        = some (s', [.ran (some info.timerId) info.resource set info.ehRequest])
      ∧ Sound s' ∧ s'.actionsets = s.actionsets
      ∧ s'.schedule = s.schedule.erase info ++ again
      ∧ List.Forall₂ (Renews now s) ([info].filter (recurs s ·)) again
      ∧ ∀ next ∈ again, next.due now = false := by
  have hinfo : info ∈ s.schedule := List.mem_of_find?_eq_some hfirst
  obtain ⟨set, hset, haddress, hat⟩ := h.actionsetAt hinfo
  have howned : Owned ScheduledResourceInfo.timerId ScheduledResourceInfo.time
      (s.schedule.erase info) (unregisterTimer info.timerId s.timeouts) :=
    h.consistent.owned.erase hinfo
  have hstored : ∀ other ∈ s.schedule.erase info,
      ∃ set ∈ s.actionsets other.resource, set.address = other.actionset :=
    fun other hother => h.consistent.stored other (List.mem_of_mem_erase hother)
  have hat' : actionsetAt { s with timeouts := unregisterTimer info.timerId s.timeouts } info
      = some set := hat
  have hrecurs : recurs s info = decide (set.type = typeRecursive ∧ set.timesteps > 0) := by
    rw [recurs, hat, any_some]
  unfold doScheduledGroupAction
  simp only [hfirst, hat']
  by_cases hagain : set.type = typeRecursive ∧ set.timesteps > 0
  · -- its own slot has just become free
    have hfree : ∃ j, unregisterTimer info.timerId s.timeouts j = none :=
      ⟨info.timerId, Function.update_self ..⟩
    obtain ⟨i, hi, hreg⟩ := registerTimer_free hagain.2 hfree (hfits set hat)
    have hsound : Sound { s with
        schedule := s.schedule.erase info
          ++ [⟨info.resource, info.actionset, i, info.ehRequest, now + set.timesteps⟩]
        timeouts := update (unregisterTimer info.timerId s.timeouts) i
          (some (now + set.timesteps)) } := by
      refine h.reschedule rfl rfl ⟨fun other hother => ?_, howned.append hi⟩
      obtain hother | hother := mem_append.mp hother
      · exact hstored other hother
      rw [mem_singleton.mp hother]
      exact ⟨set, hset, haddress⟩
    rw [if_pos hagain, hreg]
    simp only
    rw [List.erase_append_left _ hinfo]
    refine ⟨set, _, _, hat, rfl, hsound, rfl, rfl, ?_, ?_⟩
    · rw [List.filter_cons_of_pos (by rw [hrecurs]; exact decide_eq_true hagain), List.filter_nil]
      exact .cons ⟨rfl, rfl, rfl, set, hat, rfl⟩ .nil
    · intro next hnext
      rw [mem_singleton.mp hnext]
      refine decide_eq_false ?_
      simp only
      omega
  rw [if_neg hagain]
  refine ⟨set, [], _, hat, rfl, h.reschedule rfl rfl ⟨hstored, howned⟩, rfl,
    (append_nil _).symm, ?_, fun next hnext => absurd hnext not_mem_nil⟩
  have hstops : ¬ recurs s info = true := by
    rw [hrecurs]
    exact fun hc => hagain (of_decide_eq_true hc)
  rw [List.filter_cons_of_neg hstops, List.filter_nil]
  exact .nil

variable {i : Fin timeoutsCount} {rest : List (Fin timeoutsCount)}

lemma first_due (h : Sound s) (hclean : PassClean now s) (hsorted : (i :: rest).Pairwise (· < ·))
    (hslots : ∀ info ∈ s.schedule, info.due now = true → info.timerId ∈ i :: rest) {time : ℤ}
    (htime : s.timeouts i = some time) (hdue : time - now ≤ 0) :
    ∃ info later, info.timerId = i ∧ getScheduledResource now s.schedule = some info
      ∧ s.schedule.filter (·.due now) = info :: later := by
  obtain ⟨owner, howner, hslot⟩ := h.consistent.owned.owner i time htime
  have harmed := h.consistent.owned.armed owner howner
  rw [hslot, htime] at harmed
  have hownerdue : owner.due now = true := by
    refine decide_eq_true ?_
    rw [← some.inj harmed]
    exact hdue
  have hmem : owner ∈ s.schedule.filter (·.due now) := mem_filter.mpr ⟨howner, hownerdue⟩
  have horder := hclean.inOrder
  obtain ⟨info, later, hfilter⟩ := List.exists_cons_of_ne_nil (List.ne_nil_of_mem hmem)
  have hinfo : info ∈ s.schedule ∧ info.due now = true :=
    mem_filter.mp (by rw [hfilter]; exact mem_cons_self)
  rw [hfilter, List.map_cons] at horder
  rw [hfilter] at hmem
  refine ⟨info, later, ?_, ?_, hfilter⟩
  · -- no slot before `i` is left, and none of the entries is in front of the first
    obtain rfl | hlater := mem_cons.mp hmem
    · exact hslot
    have hlt : info.timerId < i := by
      rw [← hslot]
      exact List.rel_of_pairwise_cons horder (List.mem_map_of_mem hlater)
    obtain heq | hrest := mem_cons.mp (hslots info hinfo.1 hinfo.2)
    · exact heq
    · exact absurd (List.rel_of_pairwise_cons hsorted hrest) (by omega)
  · have hhead : (s.schedule.filter (·.due now)).head? = s.schedule.find? (·.due now) :=
      List.head?_filter ..
    rw [hfilter] at hhead
    exact hhead.symm

lemma slots_skip (h : Sound s)
    (hslots : ∀ info ∈ s.schedule, info.due now = true → info.timerId ∈ i :: rest)
    (hidle : ∀ time, s.timeouts i = some time → ¬ time - now ≤ 0) :
    ∀ info ∈ s.schedule, info.due now = true → info.timerId ∈ rest := by
  intro info hinfo hdue
  obtain heq | hrest := mem_cons.mp (hslots info hinfo hdue)
  · have harmed := h.consistent.owned.armed info hinfo
    rw [heq] at harmed
    exact absurd (of_decide_eq_true hdue) (hidle _ harmed)
  · exact hrest

variable {schedule : List ScheduledResourceInfo}

lemma schedule_fired {later again schedule' : List ScheduledResourceInfo}
    (hfilter : schedule.filter (·.due now) = info :: later)
    (hlate : ∀ next ∈ again, next.due now = false)
    (hsched : schedule' = schedule.erase info ++ again) :
    schedule'.filter (·.due now) = later ∧ schedule'.filter (¬ ·.due now = true)
        = schedule.filter (¬ ·.due now = true) ++ again := by
  have hdue : info.due now = true :=
    (mem_filter.mp (by rw [hfilter]; exact mem_cons_self)).2
  rw [hsched, filter_append, filter_append]
  constructor
  · rw [← List.erase_filter, hfilter, List.erase_cons_head]
    rw [List.filter_eq_nil_iff.mpr (fun next hnext => by rw [hlate next hnext]; exact
      Bool.false_ne_true), append_nil]
  · have hkept : again.filter (¬ ·.due now = true) = again := by
      refine List.filter_eq_self.mpr (fun next hnext => decide_eq_true ?_)
      rw [hlate next hnext]
      exact Bool.false_ne_true
    have hgone : info ∉ schedule.filter (¬ ·.due now = true) :=
      fun hin => absurd hdue (of_decide_eq_true (mem_filter.mp hin).2)
    rw [hkept, ← List.erase_filter, List.erase_of_not_mem hgone]

lemma checkTimeoutFrom_fires (slots : List (Fin timeoutsCount)) (hsorted : slots.Pairwise (· < ·))
    {s : GroupState α} (h : Sound s) (hclean : PassClean now s)
    (hslots : ∀ info ∈ s.schedule, info.due now = true → info.timerId ∈ slots) :
    ∃ s' renewed, checkTimeoutFrom now slots s
        = some (s', (s.schedule.filter (·.due now)).filterMap (runOf s))
      ∧ Sound s' ∧ s'.actionsets = s.actionsets
      ∧ s'.schedule = s.schedule.filter (¬ ·.due now = true) ++ renewed
      ∧ List.Forall₂ (Renews now s)
        ((s.schedule.filter (·.due now)).filter (recurs s ·)) renewed := by
  induction slots generalizing s with
  | nil =>
    have hnone : s.schedule.filter (·.due now) = [] := by
      refine List.filter_eq_nil_iff.mpr (fun info hinfo hdue => ?_)
      exact absurd (hslots info hinfo hdue) not_mem_nil
    have hall : s.schedule.filter (¬ ·.due now = true) = s.schedule := by
      refine List.filter_eq_self.mpr (fun info hinfo => decide_eq_true (fun hdue => ?_))
      exact absurd (hslots info hinfo hdue) not_mem_nil
    rw [hnone, hall]
    exact ⟨s, [], rfl, h, rfl, (append_nil _).symm, .nil⟩
  | cons i rest ih =>
    have hrest : rest.Pairwise (· < ·) := (List.pairwise_cons.mp hsorted).2
    unfold checkTimeoutFrom
    cases htime : s.timeouts i with
    | none =>
      simp only
      refine ih hrest h hclean (slots_skip h hslots (fun time hsome => ?_))
      rw [htime] at hsome
      exact absurd hsome.symm (some_ne_none time)
    | some time =>
      simp only
      by_cases hdue : time - now ≤ 0
      · rw [if_pos hdue]
        obtain ⟨info, later, rfl, hfirst, hfilter⟩ :=
          first_due h hclean hsorted hslots htime hdue
        have hmem : info ∈ s.schedule ∧ info.due now = true :=
          mem_filter.mp (by rw [hfilter]; exact mem_cons_self)
        obtain ⟨set, again, s₁, hat, hdo, hsound, hsets, hsched, hagain, hlate⟩ :=
          doScheduledGroupAction_due h hfirst (hclean.times info hmem.1 hmem.2)
        obtain ⟨hleft, hothers⟩ := schedule_fired hfilter hlate hsched
        have horder := hclean.inOrder
        rw [hfilter, List.map_cons] at horder
        have hback : ∀ other ∈ s₁.schedule, other.due now = true → other ∈ later := by
          intro other hother hdue
          rw [← hleft]
          exact mem_filter.mpr ⟨hother, hdue⟩
        have hlater : ∀ other ∈ later, other ∈ s.schedule ∧ other.due now = true :=
          fun other hother => mem_filter.mp (by
            rw [hfilter]; exact mem_cons_of_mem _ hother)
        have hclean₁ : PassClean now s₁ := by
          refine ⟨by rw [hleft]; exact (List.pairwise_cons.mp horder).2, ?_⟩
          intro other hother hdue set hset
          obtain ⟨hold, _⟩ := hlater other (hback other hother hdue)
          rw [actionsetAt_congr hsets] at hset
          exact hclean.times other hold hdue set hset
        have hslots₁ : ∀ other ∈ s₁.schedule, other.due now = true → other.timerId ∈ rest := by
          intro other hother hdue
          have hin := hback other hother hdue
          have hlt : info.timerId < other.timerId :=
            List.rel_of_pairwise_cons horder (List.mem_map_of_mem hin)
          obtain ⟨hold, _⟩ := hlater other hin
          exact (mem_cons.mp (hslots other hold hdue)).resolve_left (ne_of_gt hlt)
        obtain ⟨s', renewed, hloop, hsound', hsets', hsched', hrenewed⟩ :=
          ih hrest hsound hclean₁ hslots₁
        refine ⟨s', again ++ renewed, ?_, hsound', hsets'.trans hsets, ?_, ?_⟩
        · rw [hdo, bind_some]
          simp only
          rw [hloop, map_some, hleft, hfilter, List.filterMap_cons, runOf_congr hsets]
          simp [runOf, hat]
        · rw [hsched', hothers, List.append_assoc]
        · rw [hleft, recurs_congr hsets] at hrenewed
          rw [hfilter, ← List.singleton_append, filter_append]
          exact List.rel_append hagain (hrenewed.imp (fun _ _ => Renews.congr hsets))
      · rw [if_neg hdue]
        refine ih hrest h hclean (slots_skip h hslots (fun time' hsome => ?_))
        rw [htime] at hsome
        rw [← some.inj hsome]
        exact hdue

/-! ## Action sets -/

lemma addActionSet_sound (h : Sound s) (resource : ℕ) (name : CString) (timesteps : ℤ)
    (type : UInt32) (actions : List α) :
    Sound (addActionSet s resource name timesteps type actions).1
      ∧ SchedulesKept s (addActionSet s resource name timesteps type actions).1 := by
  unfold addActionSet
  by_cases hname : ∃ set ∈ s.actionsets resource, set.actionsetName = name
  · rw [if_pos hname]
    exact ⟨h, rfl, rfl⟩
  rw [if_neg hname]
  refine ⟨⟨?_, ?_, ?_, ⟨fun info hinfo => ?_, h.consistent.owned⟩⟩, rfl, rfl⟩
  · refine (forall_update_iff s.actionsets
      (fun _ sets => (sets.map OCActionSet.actionsetName).Nodup)).mpr ⟨?_, fun r _ => h.names r⟩
    rw [List.map_append, List.map_singleton, ← List.concat_eq_append, List.nodup_concat]
    exact ⟨fun hmem => hname (List.mem_map.mp hmem), h.names resource⟩
  · refine (forall_update_iff s.actionsets
      (fun _ sets => (sets.map OCActionSet.address).Nodup)).mpr ⟨?_, fun r _ => h.addresses r⟩
    rw [List.map_append, List.map_singleton, ← List.concat_eq_append, List.nodup_concat]
    refine ⟨fun hmem => ?_, h.addresses resource⟩
    obtain ⟨set, hset, haddress⟩ := List.mem_map.mp hmem
    exact absurd haddress (ne_of_lt (h.fresh resource set hset))
  · refine (forall_update_iff s.actionsets
      (fun _ sets => ∀ set ∈ sets, set.address < s.next + 1)).mpr
      ⟨fun set hset => ?_, fun r _ set hset => Nat.lt_succ_of_lt (h.fresh r set hset)⟩
    obtain hset | hset := mem_append.mp hset
    · exact Nat.lt_succ_of_lt (h.fresh resource set hset)
    rw [mem_singleton.mp hset]
    simp
  · obtain ⟨set, hset, haddress⟩ := h.consistent.stored info hinfo
    refine ⟨set, ?_, haddress⟩
    -- what was stored is still there
    have hstored := (forall_update_iff (a := resource) s.actionsets
      (fun r sets => s.actionsets r ⊆ sets)).mpr
      ⟨List.subset_append_left _ [⟨s.next, name, timesteps, type, actions⟩],
        fun r _ => List.Subset.refl _⟩
    exact hstored info.resource hset

lemma deleteNext_sublist (name : CString) (sets : List (OCActionSet α)) :
    (deleteNext name sets).Sublist sets := by
  fun_induction deleteNext name sets with
  | case1 => simp
  | case2 => simp
  | case3 pointer second rest hname ih => exact (ih.cons second).cons_cons pointer
  | case4 pointer second rest hname ih => exact ih.cons_cons pointer

variable {name : CString}

lemma mem_deleteNext {set : OCActionSet α} {sets : List (OCActionSet α)} (hset : set ∈ sets)
    (hname : set.actionsetName ≠ name) : set ∈ deleteNext name sets := by
  fun_induction deleteNext name sets with
  | case1 => exact hset
  | case2 => exact hset
  | case3 pointer second rest hsecond ih =>
    obtain rfl | hset := mem_cons.mp hset
    · simp
    obtain rfl | hset := mem_cons.mp hset
    · exact absurd hsecond hname
    · exact mem_cons_of_mem _ (ih hset)
  | case4 pointer second rest hsecond ih =>
    obtain rfl | hset := mem_cons.mp hset
    · simp
    · exact mem_cons_of_mem _ (ih hset)

lemma findAndDeleteActionSet_sets (s : GroupState α) (resource : ℕ) (name : CString) :
    ∃ sets, (findAndDeleteActionSet s resource name).1 = s.setActionsets resource sets
      ∧ sets.Sublist (s.actionsets resource)
      ∧ ∀ set ∈ s.actionsets resource, set.actionsetName ≠ name → set ∈ sets := by
  unfold findAndDeleteActionSet
  cases hsets : s.actionsets resource with
  | nil =>
    have hsame : s.setActionsets resource [] = s := by
      rw [GroupState.setActionsets, ← hsets, Function.update_eq_self]
    exact ⟨[], hsame.symm, List.Sublist.refl _, fun set hset => absurd hset not_mem_nil⟩
  | cons first rest =>
    simp only
    by_cases hfirst : first.actionsetName = name
    · rw [if_pos hfirst]
      refine ⟨rest, rfl, List.sublist_cons_self first rest, fun set hset hname => ?_⟩
      obtain rfl | hset := mem_cons.mp hset
      · exact absurd hfirst hname
      · exact hset
    rw [if_neg hfirst]
    exact ⟨_, rfl, deleteNext_sublist name _, fun set hset hname => mem_deleteNext hset hname⟩

variable {resource : ℕ}

lemma findAndDeleteActionSet_sound (h : Sound s)
    (hclean : ∀ info ∈ s.schedule, ¬ (info.resource = resource ∧ named s name info)) :
    Sound (findAndDeleteActionSet s resource name).1
      ∧ SchedulesKept s (findAndDeleteActionSet s resource name).1 := by
  obtain ⟨sets, hdelete, hsub, hkept⟩ := findAndDeleteActionSet_sets s resource name
  rw [hdelete]
  have hsub' : ∀ r, ((s.setActionsets resource sets).actionsets r).Sublist (s.actionsets r) :=
    (forall_update_iff s.actionsets (fun r left => left.Sublist (s.actionsets r))).mpr
      ⟨hsub, fun r _ => List.Sublist.refl _⟩
  refine ⟨⟨fun r => (h.names r).sublist ((hsub' r).map _),
    fun r => (h.addresses r).sublist ((hsub' r).map _),
    fun r set hset => h.fresh r set ((hsub' r).subset hset),
    ⟨fun info hinfo => ?_, h.consistent.owned⟩⟩, rfl, rfl⟩
  obtain ⟨set, hset, haddress, hat⟩ := h.actionsetAt hinfo
  refine ⟨set, ?_, haddress⟩
  have hstored := (forall_update_iff (a := resource) s.actionsets
    (fun r left => ∀ set ∈ s.actionsets r, (r = resource → set.actionsetName ≠ name) →
      set ∈ left)).mpr
    ⟨fun set hset hname => hkept set hset (hname rfl), fun r _ set hset _ => hset⟩
  refine hstored info.resource set hset (fun hr hname => hclean info hinfo ⟨hr, ?_⟩)
  rw [named, hat, any_some]
  simp [hname]

/-! ## Schedules -/

lemma doActionRequest_schedules (h : Sound s) (ehRequest : ℕ)
    (hclean : DoActionClean now resource name s) :
    ∃ s' events, doActionRequest now resource ehRequest name s = some (s', events)
      ∧ Schedules now resource ehRequest name s s' events ∧ Sound s' := by
  unfold doActionRequest Schedules
  cases hfind : getActionSet name (s.actionsets resource) with
  | none => exact ⟨s, _, rfl, ⟨rfl, rfl⟩, h⟩
  | some set =>
    have hset : set ∈ s.actionsets resource := List.mem_of_find?_eq_some hfind
    have hname : set.actionsetName = name := of_decide_eq_true
      (find?_some (p := fun set : OCActionSet α => decide (set.actionsetName = name)) hfind)
    have hclean := hclean set hset hname
    simp only
    by_cases htype : set.type = typeNone
    · rw [if_pos htype] at hclean
      simp only [if_pos htype, if_pos hclean]
      exact ⟨s, _, rfl, ⟨rfl, rfl⟩, h⟩
    rw [if_neg htype] at hclean
    simp only [if_neg htype, scheduleActionSet, if_true]
    by_cases hpos : set.timesteps > 0
    · obtain ⟨⟨free, hfree⟩, hfits⟩ := hclean hpos
      obtain ⟨i, hi, hreg⟩ := registerTimer_free hpos ⟨free, hfree⟩ hfits
      have hbusy : ¬ (set.timesteps ≤ 0 ∨ ∀ i, s.timeouts i ≠ none) := by
        rintro (hle | hbusy)
        · omega
        · exact hbusy free hfree
      simp only [if_pos hpos, if_neg hbusy, hreg]
      refine ⟨_, _, rfl, ⟨rfl, rfl, i, hi, rfl, rfl⟩, h.reschedule rfl rfl
        ⟨fun info hinfo => ?_, h.consistent.owned.append hi⟩⟩
      obtain hinfo | hinfo := mem_append.mp hinfo
      · exact h.consistent.stored info hinfo
      rw [mem_singleton.mp hinfo]
      exact ⟨set, hset, rfl⟩
    simp only [if_neg hpos, if_pos (Or.inl (not_lt.mp hpos))]
    exact ⟨s, _, rfl, ⟨rfl, rfl⟩, h⟩

lemma getScheduledResourceByActionSetName_eq (h : Sound s) (name : CString)
    (hsub : schedule ⊆ s.schedule) :
    getScheduledResourceByActionSetName s name schedule = some (schedule.find? (named s name)) := by
  induction schedule with
  | nil => rfl
  | cons info rest ih =>
    obtain ⟨set, _, _, hat⟩ := h.actionsetAt (hsub mem_cons_self)
    have hnamed : named s name info = decide (set.actionsetName = name) := by
      rw [named, hat, any_some]
    unfold getScheduledResourceByActionSetName
    rw [hat, List.find?_cons, hnamed]
    by_cases hname : set.actionsetName = name
    · simp [if_pos hname, decide_eq_true hname]
    simp only [if_neg hname, decide_eq_false hname]
    exact ih (fun other hother => hsub (mem_cons_of_mem _ hother))

lemma cancelActionRequest_cancels (h : Sound s)
    (hclean : ∀ info, s.schedule.find? (named s name) = some info → info.resource = resource
        ∧ ∀ other ∈ s.schedule, other.resource = resource → named s name other = true →
          other = info) :
    ∃ s' events, cancelActionRequest name s = some (s', events)
      ∧ Cancels resource name s s' events ∧ Sound s' := by
  unfold cancelActionRequest
  rw [getScheduledResourceByActionSetName_eq h name (List.Subset.refl _), map_some]
  cases hfind : s.schedule.find? (named s name) with
  | none =>
    have hnone : ∀ info ∈ s.schedule, ¬ (info.resource = resource ∧ named s name info = true) :=
      fun info hinfo hboth => List.find?_eq_none.mp hfind info hinfo hboth.2
    refine ⟨s, _, rfl, ⟨rfl, fun info => ?_, fun i => ?_, ?_⟩, h⟩
    · exact ⟨fun hinfo => ⟨hinfo, hnone info hinfo⟩, And.left⟩
    · rw [if_neg]
      rintro ⟨info, hinfo, _, hboth⟩
      exact hnone info hinfo hboth
    · rw [decide_eq_false]
      rintro ⟨info, hinfo, hboth⟩
      exact hnone info hinfo hboth
  | some info =>
    obtain ⟨hresource, honly⟩ := hclean info hfind
    have hinfo : info ∈ s.schedule := List.mem_of_find?_eq_some hfind
    have hnamed : named s name info = true := find?_some hfind
    have hsound : Sound { s with
        timeouts := unregisterTimer info.timerId s.timeouts
        schedule := s.schedule.erase info } :=
      h.reschedule rfl rfl ⟨fun other hother => h.consistent.stored other
        (List.mem_of_mem_erase hother), h.consistent.owned.erase hinfo⟩
    refine ⟨_, _, rfl, ⟨rfl, fun other => ?_, fun i => ?_, ?_⟩, hsound⟩
    · rw [h.nodup.mem_erase_iff, and_comm]
      refine and_congr_right (fun hother => not_congr ⟨?_, ?_⟩)
      · rintro rfl
        exact ⟨hresource, hnamed⟩
      · exact fun hboth => honly other hother hboth.1 hboth.2
    · simp only [unregisterTimer, Function.update_apply]
      refine if_congr ⟨?_, ?_⟩ rfl rfl
      · rintro rfl
        exact ⟨info, hinfo, rfl, hresource, hnamed⟩
      · rintro ⟨other, hother, rfl, hboth⟩
        rw [honly other hother hboth.1 hboth.2]
    · rw [decide_eq_true ⟨info, hinfo, hresource, hnamed⟩]

variable {input : GroupInput α}

lemma groupStep_exact (h : Sound s) (hclean : StepClean s input) :
    StepExact s input ∧ Sound (groupStep s input).1 := by
  suffices hstep : ∃ s' events, groupHandle s input = some (s', events) ∧ Sound s'
      ∧ Does s s' events input by
    obtain ⟨s', events, hhandle, hsound, hdone⟩ := hstep
    refine ⟨⟨s', events, hhandle, hsound.consistent, hdone⟩, ?_⟩
    rw [groupStep, hhandle]
    exact hsound
  cases input with
  | request now resource ehRequest request =>
    cases request with
    | actionSet desc =>
      cases desc with
      | none => exact ⟨s, _, rfl, h, rfl, rfl⟩
      | some desc =>
        obtain ⟨name, timesteps, type, actions⟩ := desc
        obtain ⟨hsound, hkept⟩ := addActionSet_sound h resource name timesteps type actions
        exact ⟨_, _, rfl, hsound, hkept⟩
    | deleteActionSet name =>
      obtain ⟨hsound, hkept⟩ := findAndDeleteActionSet_sound h hclean
      exact ⟨_, _, rfl, hsound, hkept⟩
    | doAction name =>
      obtain ⟨s', events, hdo, hschedules, hsound⟩ :=
        doActionRequest_schedules h ehRequest hclean
      exact ⟨s', events, hdo, hsound, hschedules⟩
    | doScheduledAction name delay => exact ⟨s, _, rfl, h, rfl, rfl⟩
    | cancelAction name =>
      obtain ⟨s', events, hdo, hcancels, hsound⟩ := cancelActionRequest_cancels h hclean
      exact ⟨s', events, hdo, hsound, hcancels⟩
    | getActionSet name => exact ⟨s, _, rfl, h, rfl⟩
  | pass now =>
    obtain ⟨s', renewed, hpass, hsound, hsets, hsched, hrenewed⟩ :=
      checkTimeoutFrom_fires (List.finRange timeoutsCount) (List.pairwise_lt_finRange _) h hclean
        (fun info _ _ => List.mem_finRange info.timerId)
    exact ⟨s', _, hpass, hsound, hsets, List.Perm.refl _, renewed, by rw [hsched], hrenewed⟩

/-- **Scheduled group actions**: over steps that do no harm, every step is right. -/
theorem schedule_exact (inputs : List (GroupInput α))
    (hclean : Runs.Along groupStep StepClean GroupState.empty inputs) :
    Runs.Along groupStep StepExact GroupState.empty inputs :=
  Runs.along_of Sound (fun _ _ hsound hstep => groupStep_exact hsound hstep) sound_empty hclean

/-! ## One collection, and two -/

def nameG : CString := ⟨[0x67], by decide⟩

def addInput (resource : ℕ) : GroupInput Unit :=
  .request 0 resource 0 (.actionSet (some (nameG, 5, 1, [])))

def doInput (now : ℤ) (resource : ℕ) : GroupInput Unit :=
  .request now resource 0 (.doAction nameG)

def onceRuns : List (GroupInput Unit) := [addInput 0, doInput 0 0, .pass 1, .pass 6]

def deletedRuns : List (GroupInput Unit) :=
  [addInput 0, doInput 0 0, .request 1 0 0 (.deleteActionSet nameG)]

def cancelledRuns : List (GroupInput Unit) :=
  [addInput 0, addInput 1, doInput 0 0, .request 1 1 0 (.cancelAction nameG)]

def crowdedRuns : List (GroupInput Unit) := addInput 0 :: List.replicate 11 (doInput 0 0)

lemma StepExact.step (h : StepExact s input) :
    Consistent (groupStep s input).1
      ∧ Does s (groupStep s input).1 (groupStep s input).2 input := by
  obtain ⟨s', events, hdo, hconsistent, hdoes⟩ := h
  rw [groupStep, hdo]
  exact ⟨hconsistent, hdoes⟩

lemma StepExact.refused {ehRequest : ℕ}
    (h : StepExact s (.request now resource ehRequest (.doAction name))) (set : OCActionSet α)
    (hset : getActionSet name (s.actionsets resource) = some set) (htype : set.type ≠ typeNone)
    (hbusy : ∀ i, s.timeouts i ≠ none) :
    (groupStep s (.request now resource ehRequest (.doAction name))).1 = s := by
  have hdoes : Schedules now resource ehRequest name s _ _ := h.step.2
  unfold Schedules at hdoes
  rw [hset] at hdoes
  simp only [if_neg htype, if_pos (Or.inr hbusy : set.timesteps ≤ 0 ∨ _)] at hdoes
  exact hdoes.1

theorem deletedSet_dangles :
    ¬ Runs.Along groupStep StepExact GroupState.empty deletedRuns
      ∧ ¬ Runs.Along groupStep StepExact GroupState.empty cancelledRuns
      ∧ ¬ Runs.Along groupStep StepExact GroupState.empty crowdedRuns := by
  refine ⟨?_, ?_, ?_⟩
  · rintro ⟨_, _, hdelete, _⟩
    obtain ⟨set, hset, _⟩ := hdelete.step.1.stored ⟨0, 0, 0, 0, 5⟩ (by decide)
    exact absurd hset not_mem_nil
  · rintro ⟨_, _, _, hcancel, _⟩
    have hkept := (hcancel.step.2.schedule ⟨0, 0, 0, 0, 5⟩).mpr (by decide)
    exact absurd hkept not_mem_nil
  · rintro ⟨_, _, _, _, _, _, _, _, _, _, _, hlast, _⟩
    have hsame := hlast.refused ⟨0, nameG, 5, 1, []⟩ rfl (by decide) (by decide)
    exact absurd (congrArg (fun s => s.schedule.length) hsame) (by decide)

theorem onceRuns_exact : Runs.Along groupStep StepExact GroupState.empty onceRuns := by
  refine schedule_exact onceRuns ⟨trivial, ?_, ⟨by decide, ?_⟩, ⟨by decide, ?_⟩, trivial⟩
  · intro set hset _
    rw [mem_singleton.mp hset, if_neg (by decide)]
    exact fun _ => ⟨⟨0, rfl⟩, rfl⟩
  · intro info hinfo hdue
    rw [mem_singleton.mp hinfo] at hdue
    exact absurd hdue (by decide)
  · intro info hinfo _ set hset
    rw [mem_singleton.mp hinfo] at hset
    rw [← some.inj hset]
    exact rfl

end Iochibity.Ocf.Group
