/-
The observers of a resource, `ocobserve.c`.
-/
import Iochibity.Coap.Message
import Iochibity.Lib.FirstMatch
import Iochibity.Lib.Quota
import Iochibity.Lib.TextSearch
import Iochibity.Lib.Runs
import Mathlib.Data.Tree.Basic

namespace Iochibity.Ocf

open Coap (CAMessageType)

section

section

inductive OCQualityOfService
  | low | medium | high | na
  deriving DecidableEq

def maxObserverFailedComm : UInt8 := 2

def maxObserverNonCount : UInt8 := 3

/-- `OCDevAddr`, as far as endpoints are told apart: the transport, the address and the
port. -/
abbrev OCDevAddr := Coap.CAEndpoint

structure ResourceObserver where
  observeId : UInt8
  token : List UInt8
  devAddr : OCDevAddr
  qos : OCQualityOfService
  failedCommCount : UInt8
  lowQosCount : UInt8
  forceHighQos : Bool
  sent : List CAMessageType
  deriving DecidableEq

def addObserver (observers : List ResourceObserver) (observeId : UInt8) (token : List UInt8)
    (devAddr : OCDevAddr) (qos : OCQualityOfService) : List ResourceObserver :=
  observers ++ [⟨observeId, token, devAddr, qos, 0, 0, false, []⟩]

variable (observer : ResourceObserver)

def stillInterested : ResourceObserver :=
  { observer with forceHighQos := false, failedCommCount := 0 }

/-- `OC_OBSERVER_FAILED_COMM`, while the observer stays. -/
def failedComm : ResourceObserver :=
  { observer with failedCommCount := observer.failedCommCount + 1, forceHighQos := true }

/-! ## Notifications -/

variable (qos : OCQualityOfService)

/-- The type `HandleSingleResponse` gives to a notification. -/
def notificationType : CAMessageType :=
  if qos = .high then .confirm else .nonconfirm

def ResourceObserver.due : Bool :=
  observer.forceHighQos || decide (maxObserverNonCount ≤ observer.lowQosCount)

def determineObserverQoS (appQoS : OCQualityOfService) : OCQualityOfService × ResourceObserver :=
  let decidedQoS := if appQoS = .na then observer.qos else appQoS
  if appQoS ≠ .high then
    if observer.due then (.high, { observer with lowQosCount := 0 })
    else (decidedQoS, { observer with lowQosCount := observer.lowQosCount + 1 })
  else (decidedQoS, observer)

/-- A notification: the observer before it, the qos asked for and the one decided on, and whether it
was sent because of the TTL. -/
structure Notification where
  observer : ResourceObserver
  requested : OCQualityOfService
  decided : OCQualityOfService
  timedOut : Bool
  deriving DecidableEq

def ResourceObserver.notify : ResourceObserver :=
  { observer with sent := observer.sent ++ [notificationType qos] }

def ResourceObserver.afterTurn : ResourceObserver :=
  (determineObserverQoS observer qos).2.notify (determineObserverQoS observer qos).1

/-- The loop of `SendAllObserverNotification`. `qos` is the parameter as the loop has
overwritten it, `requested` what the caller passed. -/
def sendAllLoop (requested : OCQualityOfService) : List ResourceObserver →
    (qos : OCQualityOfService) → List ResourceObserver × List Notification
  | [], _ => ([], [])
  | observer :: rest, qos =>
    let decided := (determineObserverQoS observer qos).1
    let sent := sendAllLoop requested rest decided
    (observer.afterTurn qos :: sent.1, ⟨observer, requested, decided, false⟩ :: sent.2)

variable (observers : List ResourceObserver)

def sendAllObserverNotification (qos : OCQualityOfService) :
    List ResourceObserver × List Notification :=
  sendAllLoop qos observers qos

/-- `CheckTimedOutObserver` for the observers that `GetObserverUsingId` passes. -/
def checkTimedOutObservers (timedOut : ResourceObserver → Bool) (observeId : UInt8) :
    List ResourceObserver → List ResourceObserver × List Notification
  | [] => ([], [])
  | out :: rest =>
    if out.observeId = observeId then (out :: rest, [])
    else
      let checked := checkTimedOutObservers timedOut observeId rest
      if timedOut out then
        (out.notify .high :: checked.1, ⟨out, .high, .high, true⟩ :: checked.2)
      else (out :: checked.1, checked.2)

def getObserverUsingId (observeId : UInt8) : Option ResourceObserver :=
  FirstMatch.lookup ResourceObserver.observeId observeId observers

def sendListLoop (requested : OCQualityOfService) (timedOut : ℕ → ResourceObserver → Bool) :
    List UInt8 → List ResourceObserver → (qos : OCQualityOfService) →
    List ResourceObserver × List Notification
  | [], observers, _ => (observers, [])
  | observeId :: obsIdList, observers, qos =>
    let checked := checkTimedOutObservers (timedOut obsIdList.length) observeId observers
    match getObserverUsingId checked.1 observeId with
    | none =>
      let sent := sendListLoop requested timedOut obsIdList checked.1 qos
      (sent.1, checked.2 ++ sent.2)
    | some observer =>
      let decided := (determineObserverQoS observer qos).1
      let sent := sendListLoop requested timedOut obsIdList
        (FirstMatch.modify ResourceObserver.observeId observeId (·.afterTurn qos) checked.1)
        decided
      (sent.1, checked.2 ++ ⟨observer, requested, decided, false⟩ :: sent.2)

def sendListObserverNotification (obsIdList : List UInt8) (timedOut : ℕ → ResourceObserver → Bool)
    (qos : OCQualityOfService) : List ResourceObserver × List Notification :=
  sendListLoop qos timedOut obsIdList observers qos

@[simp] lemma determineObserverQoS_high :
    determineObserverQoS observer .high = (.high, observer) := rfl

section

variable {observer : ResourceObserver} {appQoS : OCQualityOfService} (hqos : appQoS ≠ .high)
include hqos

lemma determineObserverQoS_of_due (hdue : observer.due = true) :
    determineObserverQoS observer appQoS = (.high, { observer with lowQosCount := 0 }) := by
  rw [determineObserverQoS]
  simp [hqos, hdue]

lemma determineObserverQoS_of_not_due (hdue : observer.due = false) :
    determineObserverQoS observer appQoS
      = (if appQoS = .na then observer.qos else appQoS,
          { observer with lowQosCount := observer.lowQosCount + 1 }) := by
  rw [determineObserverQoS]
  simp [hqos, hdue]

end

end

open Coap (CString)
open PrefixCompare (prefixCompare)

inductive OCMethod
  | get | put | post | delete
  deriving DecidableEq

structure OCHeaderOption where
  protocolID : ℕ
  optionID : UInt16
  optionData : List UInt8
  deriving DecidableEq

structure OCServerProtocolRequest where
  method : OCMethod
  resourceUrl : CString
  query : CString
  payload : List UInt8
  qos : OCQualityOfService
  observationOption : UInt32
  rcvdVendorSpecificHeaderOptions : List OCHeaderOption
  devAddr : OCDevAddr
  requestToken : List UInt8
  coapID : UInt16
  deriving DecidableEq

/-- `OCServerRequest`, a request as the stack keeps it. -/
structure OCServerRequest where
  received : OCServerProtocolRequest
  notificationFlag : Bool
  requestComplete : Bool
  slowFlag : Bool
  numResponses : UInt8
  deriving DecidableEq

def OCServerRequest.requestToken (request : OCServerRequest) : List UInt8 :=
  request.received.requestToken

def OCServerRequest.devAddr (request : OCServerRequest) : OCDevAddr :=
  request.received.devAddr

/-- What `HandleStackRequests` makes of a new request: `AddServerRequest`, and then it is
complete. -/
def OCServerRequest.ofReceived (received : OCServerProtocolRequest) : OCServerRequest :=
  ⟨received, false, true, false, 1⟩

/-! ## The tree -/

abbrev ServerRequestTree := BinaryTree (OCServerRequest × List OCServerRequest)

def ServerRequestTree.outstanding : ServerRequestTree → List OCServerRequest
  | .nil => []
  | .node value left right =>
    outstanding left ++ value.1 :: value.2 ++ outstanding right

variable (behind : OCServerRequest → List UInt8)

/-- `RBRequestTokenCmp` with a request that is searched for. There is no answer when a
null pointer is read. -/
def rbRequestTokenCmp (requestToken : List UInt8) (treeNode : OCServerRequest) : Option Ordering :=
  if treeNode.requestToken = [] ∧ requestToken ≠ [] then none
  else some (prefixCompare requestToken (treeNode.requestToken ++ behind treeNode))

inductive FoundRequest
  | nullPointer
  | notFound
  | found (request : OCServerRequest)
  deriving DecidableEq

def rbFind (behind : OCServerRequest → List UInt8) (requestToken : List UInt8) :
    ServerRequestTree → FoundRequest
  | .nil => .notFound
  | .node value left right =>
    match rbRequestTokenCmp behind requestToken value.1 with
    | none => .nullPointer
    | some .lt => rbFind behind requestToken left
    | some .gt => rbFind behind requestToken right
    | some .eq => .found value.1

/-- `GetServerRequestUsingToken`, for which a token without bytes is a null pointer. -/
def getServerRequestUsingToken (requestToken : List UInt8)
    (tree : ServerRequestTree) : FoundRequest :=
  if requestToken = [] then .notFound else rbFind behind requestToken tree

/-- What `HandleStackRequests` does: it never returns, it says that it goes on later, or it
has the request processed. -/
inductive StackHandling
  | crashed
  | incomplete
  | processed (request : OCServerRequest)
  deriving DecidableEq

/-- `HandleStackRequests`, up to `DetermineResourceHandling` and `ProcessRequest`. -/
def handleStackRequests (tree : ServerRequestTree)
    (protocolRequest : OCServerProtocolRequest) : StackHandling :=
  match getServerRequestUsingToken behind protocolRequest.requestToken tree with
  | .nullPointer => .crashed
  | .notFound => .processed (.ofReceived protocolRequest)
  -- "either a repeated or blocked Server Request"
  | .found request => if request.requestComplete then .processed request else .incomplete

/-- What a resource handler is given of a request, through `EHRequest`. -/
structure HandedRequest where
  resourceUrl : CString
  method : OCMethod
  query : CString
  payload : List UInt8
  options : List OCHeaderOption
  devAddr : OCDevAddr
  deriving DecidableEq

def OCServerProtocolRequest.handed (received : OCServerProtocolRequest) : HandedRequest :=
  ⟨received.resourceUrl, received.method, received.query, received.payload,
    received.rcvdVendorSpecificHeaderOptions, received.devAddr⟩

def ehRequest (request : OCServerRequest) : HandedRequest := request.received.handed

end

open List

/-! ## Runs -/

/-- What can happen to the observers of a resource. `passedTimedOut` is a
lookup that passes an observer whose TTL has run out. -/
inductive ObserverEvent
  | notifyAll (qos : OCQualityOfService)
  | notifyList (obsIdList : List UInt8) (timedOut : ℕ → ResourceObserver → Bool)
      (qos : OCQualityOfService)
  | passedTimedOut (position : ℕ)
  | stillInterested (position : ℕ)
  | failedComm (position : ℕ)
  | deleted (position : ℕ)
  | registered (observeId : UInt8) (token : List UInt8) (devAddr : OCDevAddr)
      (qos : OCQualityOfService)

section

variable (observers : List ResourceObserver)

def observerStep :
    ObserverEvent → List ResourceObserver × List Notification
  | .notifyAll qos => sendAllObserverNotification observers qos
  | .notifyList obsIdList timedOut qos =>
    sendListObserverNotification observers obsIdList timedOut qos
  | .passedTimedOut position =>
    (observers.modify position (·.notify .high),
      observers[position]?.toList.map (⟨·, .high, .high, true⟩))
  | .stillInterested position => (observers.modify position stillInterested, [])
  | .failedComm position => (observers.modify position failedComm, [])
  | .deleted position => (observers.eraseIdx position, [])
  | .registered observeId token devAddr qos =>
    (addObserver observers observeId token devAddr qos, [])

def startObservers : List ResourceObserver :=
  observers.map ({ · with sent := [] })

def Notification.Own (notification : Notification) : Prop :=
  notificationType notification.decided
    = notificationType (determineObserverQoS notification.observer notification.requested).1

def ResourceObserver.confirms (qos : OCQualityOfService) (observer : ResourceObserver) : Bool :=
  notificationType (determineObserverQoS observer qos).1 = .confirm

/-- The observers in the order of their turns, each as it is at its turn: no later turn
changes anything once one was confirmable. -/
def listTurns (timedOut : ℕ → ResourceObserver → Bool) :
    List UInt8 → List ResourceObserver → OCQualityOfService → List ResourceObserver
  | [], _, _ => []
  | observeId :: obsIdList, observers, qos =>
    let checked := (checkTimedOutObservers (timedOut obsIdList.length) observeId observers).1
    match getObserverUsingId checked observeId with
    | none => listTurns timedOut obsIdList checked qos
    | some observer =>
      observer :: listTurns timedOut obsIdList
        (FirstMatch.modify ResourceObserver.observeId observeId (·.afterTurn qos) checked)
        (if observer.confirms qos then .high else qos)

def ObserverEvent.turns :
    ObserverEvent → OCQualityOfService × List ResourceObserver
  | .notifyAll qos => (qos, observers)
  | .notifyList obsIdList timedOut qos => (qos, listTurns timedOut obsIdList observers qos)
  | _ => (.high, [])

end

/-- **When overwriting the qos does no harm.** HIGH was asked for; or the observers with confirmable
notifications are all behind the others, and if no qos was asked for and one of those has a qos, the
first of them is due. -/
def Aligned (qos : OCQualityOfService) (turns : List ResourceObserver) : Prop :=
  qos = .high ∨ ∃ before after, turns = before ++ after ∧
    (∀ observer ∈ before, observer.confirms qos = false) ∧
    (∀ observer ∈ after, observer.confirms qos = true) ∧
    (qos = .na → (∃ observer ∈ before, observer.qos ≠ .na) →
      ∀ observer ∈ after.head?, observer.due = true)

/-! ## One turn -/

variable {qos : OCQualityOfService}

lemma notificationType_eq_confirm :
    notificationType qos = .confirm ↔ qos = .high := by
  unfold notificationType
  split_ifs with h
  · exact iff_of_true rfl h
  · simp [h]

variable {observer : ResourceObserver}

lemma confirms_iff :
    observer.confirms qos = true ↔ (determineObserverQoS observer qos).1 = .high := by
  rw [ResourceObserver.confirms, decide_eq_true_eq, notificationType_eq_confirm]

lemma own_iff {notification : Notification} :
    notification.Own ↔ (notification.decided = .high ↔
      notification.observer.confirms notification.requested = true) := by
  rw [confirms_iff, Notification.Own]
  unfold notificationType
  split_ifs with hdecided hown hown
  · simp [hdecided, hown]
  · exact iff_of_false (by decide) (fun h => hown (h.mp hdecided))
  · exact iff_of_false (by decide) (fun h => hdecided (h.mpr hown))
  · simp [hdecided, hown]

lemma own_of_high (observer : ResourceObserver) (timedOut : Bool) :
    Notification.Own ⟨observer, .high, .high, timedOut⟩ := rfl

/-- The qos that the loop can have come to before a confirmable turn: the one asked for, or an
observer's where none was. -/
def Unspoilt (requested qos : OCQualityOfService) : Prop :=
  qos = requested ∨ requested = .na ∧ (qos = .low ∨ qos = .medium)

variable {requested : OCQualityOfService}

lemma Unspoilt.ne_high (h : Unspoilt requested qos)
    (hrequested : requested ≠ .high) : qos ≠ .high := by
  rcases h with rfl | ⟨-, rfl | rfl⟩
  · exact hrequested
  · simp
  · simp

lemma turn_of_not_confirms (hrequested : requested ≠ .high) (hqos : Unspoilt requested qos)
    (hown : observer.confirms requested = false) :
    (determineObserverQoS observer qos).1 = (if qos = .na then observer.qos else qos) ∧
      Unspoilt requested (determineObserverQoS observer qos).1 ∧
      observer.afterTurn qos = observer.afterTurn requested := by
  have hnot : (determineObserverQoS observer requested).1 ≠ .high :=
    fun h => by rw [confirms_iff.mpr h] at hown; exact Bool.false_ne_true hown.symm
  have hdue : observer.due = false := by
    refine Bool.eq_false_iff.mpr (fun hdue => hnot ?_)
    rw [determineObserverQoS_of_due hrequested hdue]
  rw [determineObserverQoS_of_not_due hrequested hdue] at hnot
  dsimp only at hnot
  have hturn := determineObserverQoS_of_not_due (hqos.ne_high hrequested) hdue
  have hunspoilt : Unspoilt requested (if qos = .na then observer.qos else qos) := by
    rcases hqos with rfl | ⟨rfl, rfl | rfl⟩
    · split_ifs at hnot ⊢ with hna
      · subst hna
        -- the observer's own qos takes the place of none
        cases hobserver : observer.qos with
        | low => exact .inr ⟨rfl, .inl rfl⟩
        | medium => exact .inr ⟨rfl, .inr rfl⟩
        | high => exact absurd hobserver hnot
        | na => exact .inl rfl
      · exact .inl rfl
    · exact .inr ⟨rfl, .inl rfl⟩
    · exact .inr ⟨rfl, .inr rfl⟩
  refine ⟨by rw [hturn], by rw [hturn]; exact hunspoilt, ?_⟩
  unfold ResourceObserver.afterTurn ResourceObserver.notify
  rw [hturn, determineObserverQoS_of_not_due hrequested hdue]
  dsimp only
  rw [notificationType, if_neg (hunspoilt.ne_high hrequested), notificationType, if_neg hnot]

lemma turn_of_confirms (hrequested : requested ≠ .high) (hqos : Unspoilt requested qos)
    (hown : observer.confirms requested = true) :
    ((determineObserverQoS observer qos).1 = .high ↔ qos = requested ∨ observer.due = true) ∧
      ((determineObserverQoS observer qos).1 = .high →
        observer.afterTurn qos = observer.afterTurn requested) := by
  rw [confirms_iff] at hown
  have hne : qos ≠ .high := hqos.ne_high hrequested
  cases hdue : observer.due with
  | true =>
    rw [determineObserverQoS_of_due hne hdue]
    refine ⟨iff_of_true rfl (.inr rfl), fun _ => ?_⟩
    unfold ResourceObserver.afterTurn
    rw [determineObserverQoS_of_due hne hdue, determineObserverQoS_of_due hrequested hdue]
  | false =>
    rcases hqos with rfl | ⟨rfl, hqos⟩
    · exact ⟨iff_of_true hown (.inl rfl), fun _ => rfl⟩
    -- the qos of an earlier observer is used, and that is not HIGH
    have hna : qos ≠ .na := by
      rcases hqos with rfl | rfl
      · simp
      · simp
    rw [determineObserverQoS_of_not_due hne hdue, if_neg hna]
    refine ⟨iff_of_false hne ?_, fun h => absurd h hne⟩
    rintro (h | h)
    · exact hna h
    · exact Bool.false_ne_true h

/-! ## The turns of one call -/

/-- `Aligned` for a loop that has come to `qos`. -/
def AlignedSplit (requested qos : OCQualityOfService) (turns : List ResourceObserver) : Prop :=
  ∃ before after, turns = before ++ after ∧
    (∀ observer ∈ before, observer.confirms requested = false) ∧
    (∀ observer ∈ after, observer.confirms requested = true) ∧
    (qos ≠ requested ∨ requested = .na ∧ (∃ observer ∈ before, observer.qos ≠ .na) →
      ∀ observer ∈ after.head?, observer.due = true)

lemma alignedSplit_nil (requested qos : OCQualityOfService) : AlignedSplit requested qos [] :=
  ⟨[], [], rfl, fun _ h => absurd h not_mem_nil, fun _ h => absurd h not_mem_nil,
    fun _ _ h => absurd h (Option.not_mem_none _)⟩

lemma alignedSplit_cons_of_confirms {rest : List ResourceObserver}
    (hown : observer.confirms requested = true) :
    AlignedSplit requested qos (observer :: rest) ↔ (qos = requested ∨ observer.due = true) ∧
        ∀ observer ∈ rest, observer.confirms requested = true := by
  constructor
  · rintro ⟨before, after, hsplit, hbefore, hafter, hhead⟩
    cases before with
    | nil =>
      rw [nil_append] at hsplit
      subst hsplit
      refine ⟨?_, fun o ho => hafter o (mem_cons_of_mem _ ho)⟩
      by_cases hqos : qos = requested
      · exact .inl hqos
      · exact .inr (hhead (.inl hqos) observer rfl)
    | cons first before =>
      obtain ⟨rfl, -⟩ := List.cons.inj hsplit
      have hnot := hbefore observer mem_cons_self
      rw [hown] at hnot
      exact absurd hnot.symm Bool.false_ne_true
  · rintro ⟨hfirst, hrest⟩
    refine ⟨[], observer :: rest, rfl, fun _ h => absurd h not_mem_nil, ?_, ?_⟩
    · intro o ho
      rcases mem_cons.mp ho with rfl | ho
      · exact hown
      · exact hrest o ho
    · rintro hspoilt o ho
      obtain rfl : observer = o := Option.mem_some_iff.mp ho
      rcases hspoilt with hne | ⟨-, o, hmem, -⟩
      · exact hfirst.resolve_left hne
      · exact absurd hmem not_mem_nil

lemma alignedSplit_cons_of_not_confirms {next : OCQualityOfService} {rest : List ResourceObserver}
    (hown : observer.confirms requested = false)
    (hnext : next ≠ requested ↔ qos ≠ requested ∨ requested = .na ∧ observer.qos ≠ .na) :
    AlignedSplit requested qos (observer :: rest) ↔ AlignedSplit requested next rest := by
  constructor
  · rintro ⟨before, after, hsplit, hbefore, hafter, hhead⟩
    cases before with
    | nil =>
      rw [nil_append] at hsplit
      subst hsplit
      have hpos := hafter observer mem_cons_self
      rw [hown] at hpos
      simp at hpos
    | cons first before =>
      obtain ⟨rfl, rfl⟩ := List.cons.inj hsplit
      refine ⟨before, after, rfl, fun o ho => hbefore o (mem_cons_of_mem _ ho), hafter, ?_⟩
      intro hspoilt
      refine hhead ?_
      rcases hspoilt with hne | ⟨hna, o, hmem, ho⟩
      · rcases hnext.mp hne with hne | ⟨hna, ho⟩
        · exact .inl hne
        · exact .inr ⟨hna, observer, mem_cons_self, ho⟩
      · exact .inr ⟨hna, o, mem_cons_of_mem _ hmem, ho⟩
  · rintro ⟨before, after, rfl, hbefore, hafter, hhead⟩
    refine ⟨observer :: before, after, rfl, ?_, hafter, ?_⟩
    · intro o ho
      rcases mem_cons.mp ho with rfl | ho
      · exact hown
      · exact hbefore o ho
    · intro hspoilt
      refine hhead ?_
      rcases hspoilt with hne | ⟨hna, o, hmem, ho⟩
      · simp [hnext, hne]
      rcases mem_cons.mp hmem with rfl | hmem
      · exact .inl (hnext.mpr (.inr ⟨hna, ho⟩))
      · exact .inr ⟨hna, o, hmem, ho⟩

lemma aligned_iff (hqos : qos ≠ .high)
    (turns : List ResourceObserver) : Aligned qos turns ↔ AlignedSplit qos qos turns := by
  unfold Aligned AlignedSplit
  simp [hqos]

lemma next_ne_requested (observer : ResourceObserver) (hqos : Unspoilt requested qos) :
    (if qos = .na then observer.qos else qos) ≠ requested
      ↔ qos ≠ requested ∨ requested = .na ∧ observer.qos ≠ .na := by
  rcases hqos with rfl | ⟨rfl, rfl | rfl⟩
  · by_cases hna : qos = .na
    · simp [hna]
    · simp [hna]
  · simp
  · simp

/-- What `Aligned` is after the observers that are confirmable have begun. -/
def ConfirmsAll (requested : OCQualityOfService) (turns : List ResourceObserver) : Prop :=
  ∀ observer ∈ turns, observer.confirms requested = true

lemma sendAllLoop_high (requested : OCQualityOfService) (observers : List ResourceObserver) :
    (∀ notification ∈ (sendAllLoop requested observers .high).2, notification.Own) ↔
      ConfirmsAll requested observers := by
  induction observers with
  | nil =>
    exact iff_of_true (fun _ h => absurd h not_mem_nil) (fun _ h => absurd h not_mem_nil)
  | cons observer rest ih =>
    rw [sendAllLoop, ConfirmsAll, forall_mem_cons, forall_mem_cons, own_iff]
    exact and_congr (by simp) ih

lemma sendAllLoop_own (hrequested : requested ≠ .high) (observers : List ResourceObserver)
    (hqos : Unspoilt requested qos) :
    (∀ notification ∈ (sendAllLoop requested observers qos).2, notification.Own) ↔
      AlignedSplit requested qos observers := by
  induction observers generalizing qos with
  | nil =>
    exact iff_of_true (fun _ h => absurd h not_mem_nil) (alignedSplit_nil requested qos)
  | cons observer rest ih =>
    rw [sendAllLoop, forall_mem_cons, own_iff]
    dsimp only
    cases hown : observer.confirms requested with
    | true =>
      obtain ⟨hhigh, -⟩ := turn_of_confirms hrequested hqos hown
      rw [alignedSplit_cons_of_confirms hown, ← hhigh]
      constructor
      · rintro ⟨hfirst, hrest⟩
        rw [hfirst.mpr rfl] at hrest ⊢
        exact ⟨rfl, (sendAllLoop_high requested rest).mp hrest⟩
      · rintro ⟨hfirst, hrest⟩
        rw [hfirst]
        exact ⟨iff_of_true rfl rfl, (sendAllLoop_high requested rest).mpr hrest⟩
    | false =>
      obtain ⟨hnext, hunspoilt, -⟩ := turn_of_not_confirms hrequested hqos hown
      have hne := next_ne_requested observer hqos
      rw [← hnext] at hne
      rw [alignedSplit_cons_of_not_confirms hown hne, ← ih hunspoilt]
      refine and_iff_right (iff_of_false (hunspoilt.ne_high hrequested) Bool.false_ne_true)

/-! ## The loop over a list of ids -/

lemma checkTimedOutObservers_own (timedOut : ResourceObserver → Bool) (observeId : UInt8)
    (observers : List ResourceObserver) :
    ∀ notification ∈ (checkTimedOutObservers timedOut observeId observers).2, notification.Own := by
  induction observers with
  | nil => exact fun _ h => absurd h not_mem_nil
  | cons out rest ih =>
    rw [checkTimedOutObservers]
    dsimp only
    split_ifs with hid hout
    · exact fun _ h => absurd h not_mem_nil
    · exact forall_mem_cons.mpr ⟨own_of_high out true, ih⟩
    · exact ih

variable {observers : List ResourceObserver}

lemma modify_afterTurn {observeId : UInt8}
    (hfound : getObserverUsingId observers observeId = some observer)
    (h : observer.afterTurn qos = observer.afterTurn requested) :
    FirstMatch.modify ResourceObserver.observeId observeId (·.afterTurn qos) observers
      = FirstMatch.modify ResourceObserver.observeId observeId (·.afterTurn requested)
          observers := by
  rw [FirstMatch.modify_congr_of_lookup hfound, h]
  exact (FirstMatch.modify_congr_of_lookup (f := (·.afterTurn requested)) hfound).symm

lemma sendListLoop_high (requested : OCQualityOfService)
    (timedOut : ℕ → ResourceObserver → Bool) (obsIdList : List UInt8)
    (observers : List ResourceObserver) :
    (∀ notification ∈ (sendListLoop requested timedOut obsIdList observers .high).2,
      notification.Own) ↔
      ConfirmsAll requested (listTurns timedOut obsIdList observers .high) := by
  induction obsIdList generalizing observers with
  | nil =>
    exact iff_of_true (fun _ h => absurd h not_mem_nil) (fun _ h => absurd h not_mem_nil)
  | cons observeId obsIdList ih =>
    have hchecked := checkTimedOutObservers_own (timedOut obsIdList.length) observeId observers
    rw [sendListLoop, listTurns]
    dsimp only
    cases getObserverUsingId
        (checkTimedOutObservers (timedOut obsIdList.length) observeId observers).1 observeId with
    | none =>
      dsimp only
      rw [forall_mem_append, ih]
      exact and_iff_right hchecked
    | some observer =>
      dsimp only
      rw [forall_mem_append, forall_mem_cons, ConfirmsAll, forall_mem_cons,
        own_iff, determineObserverQoS_high, ih, ite_self]
      rw [and_iff_right hchecked]
      exact and_congr (by simp) Iff.rfl

lemma sendListLoop_own (hrequested : requested ≠ .high) (timedOut : ℕ → ResourceObserver → Bool)
    (obsIdList : List UInt8) (observers : List ResourceObserver) (hqos : Unspoilt requested qos) :
    (∀ notification ∈ (sendListLoop requested timedOut obsIdList observers qos).2,
      notification.Own) ↔
      AlignedSplit requested qos (listTurns timedOut obsIdList observers requested) := by
  induction obsIdList generalizing observers qos with
  | nil =>
    exact iff_of_true (fun _ h => absurd h not_mem_nil) (alignedSplit_nil requested qos)
  | cons observeId obsIdList ih =>
    have hchecked := checkTimedOutObservers_own (timedOut obsIdList.length) observeId observers
    rw [sendListLoop, listTurns]
    dsimp only
    cases hfound : getObserverUsingId
        (checkTimedOutObservers (timedOut obsIdList.length) observeId observers).1 observeId with
    | none =>
      dsimp only
      rw [forall_mem_append, ih _ hqos]
      exact and_iff_right hchecked
    | some observer =>
      dsimp only
      rw [forall_mem_append, forall_mem_cons, own_iff, and_iff_right hchecked]
      dsimp only
      cases hown : observer.confirms requested with
      | true =>
        obtain ⟨hhigh, hleft⟩ := turn_of_confirms hrequested hqos hown
        rw [alignedSplit_cons_of_confirms hown, ← hhigh, if_pos rfl]
        constructor
        · rintro ⟨hfirst, hrest⟩
          have hdecided := hfirst.mpr rfl
          rw [hdecided, modify_afterTurn hfound (hleft hdecided)] at hrest
          exact ⟨hdecided, (sendListLoop_high _ _ _ _).mp hrest⟩
        · rintro ⟨hdecided, hrest⟩
          rw [hdecided, modify_afterTurn hfound (hleft hdecided)]
          exact ⟨iff_of_true rfl rfl, (sendListLoop_high _ _ _ _).mpr hrest⟩
      | false =>
        obtain ⟨hnext, hunspoilt, hleft⟩ := turn_of_not_confirms hrequested hqos hown
        have hne := next_ne_requested observer hqos
        rw [← hnext] at hne
        rw [alignedSplit_cons_of_not_confirms hown hne, if_neg Bool.false_ne_true,
          modify_afterTurn hfound hleft, ih _ hunspoilt]
        exact and_iff_right (iff_of_false (hunspoilt.ne_high hrequested) Bool.false_ne_true)

lemma observerStep_own (observers : List ResourceObserver) (event : ObserverEvent) :
    (∀ notification ∈ (observerStep observers event).2, notification.Own) ↔
      Aligned (event.turns observers).1 (event.turns observers).2 := by
  have hquiet : Aligned .high [] := .inl rfl
  cases event with
  | notifyAll qos =>
    by_cases hqos : qos = .high
    · subst hqos
      refine iff_of_true ((sendAllLoop_high .high observers).mpr ?_) (.inl rfl)
      exact fun observer _ => confirms_iff.mpr rfl
    rw [ObserverEvent.turns, aligned_iff hqos]
    exact sendAllLoop_own hqos observers (.inl rfl)
  | notifyList obsIdList timedOut qos =>
    by_cases hqos : qos = .high
    · subst hqos
      refine iff_of_true ((sendListLoop_high .high timedOut obsIdList observers).mpr ?_) (.inl rfl)
      exact fun observer _ => confirms_iff.mpr rfl
    rw [ObserverEvent.turns, aligned_iff hqos]
    exact sendListLoop_own hqos timedOut obsIdList observers (.inl rfl)
  | passedTimedOut position =>
    refine iff_of_true ?_ hquiet
    intro notification hmem
    obtain ⟨observer, -, rfl⟩ := mem_map.mp hmem
    exact own_of_high observer true
  | _ => exact iff_of_true (fun _ h => absurd h not_mem_nil) hquiet

def isConfirm (type : CAMessageType) : Bool := type = .confirm

/-- **The invariant of an observer**: its quota was kept, and the counter is not behind the number
of its last notifications that were not confirmable. -/
structure WithinQuota (observer : ResourceObserver) : Prop where
  holds : Quota.Holds isConfirm maxObserverNonCount.toNat observer.sent
  lag_le : Quota.lag isConfirm observer.sent ≤ observer.lowQosCount.toNat
  lag_le_max : Quota.lag isConfirm observer.sent ≤ maxObserverNonCount.toNat

lemma WithinQuota.notify_high (h : WithinQuota observer) (lowQosCount : UInt8) :
    WithinQuota (ResourceObserver.notify { observer with lowQosCount := lowQosCount } .high) where
  holds := Quota.holds_append h.holds (.inl rfl)
  lag_le := by
    rw [ResourceObserver.notify, Quota.lag_append_of_pos rfl]
    exact Nat.zero_le _
  lag_le_max := by
    rw [ResourceObserver.notify, Quota.lag_append_of_pos rfl]
    exact Nat.zero_le _

lemma WithinQuota.notify_counted (h : WithinQuota observer) (hdue : observer.due = false)
    (qos : OCQualityOfService) :
    WithinQuota (ResourceObserver.notify
      { observer with lowQosCount := observer.lowQosCount + 1 } qos) := by
  rw [ResourceObserver.due, Bool.or_eq_false_iff, decide_eq_false_iff_not, UInt8.not_le] at hdue
  have hlt : observer.lowQosCount.toNat < 3 := hdue.2
  have hadd : (observer.lowQosCount + 1).toNat = observer.lowQosCount.toNat + 1 := by
    rw [UInt8.toNat_add, UInt8.toNat_one]
    omega
  have hlag : Quota.lag isConfirm observer.sent < 3 := h.lag_le.trans_lt hlt
  have happend := Quota.lag_append_le (P := isConfirm) observer.sent (notificationType qos)
  exact ⟨Quota.holds_append h.holds (.inr hlag),
    (happend.trans (Nat.succ_le_succ h.lag_le)).trans_eq hadd.symm,
    happend.trans (Nat.succ_le_of_lt hlag)⟩

lemma WithinQuota.afterTurn (h : WithinQuota observer)
    (qos : OCQualityOfService) : WithinQuota (observer.afterTurn qos) := by
  unfold ResourceObserver.afterTurn
  by_cases hqos : qos = .high
  · subst hqos
    exact h.notify_high observer.lowQosCount
  cases hdue : observer.due with
  | true =>
    rw [determineObserverQoS_of_due hqos hdue]
    exact h.notify_high 0
  | false =>
    rw [determineObserverQoS_of_not_due hqos hdue]
    exact h.notify_counted hdue _

/-! ## Runs keep the quota -/

lemma sendAllLoop_quota (requested : OCQualityOfService)
    (h : ∀ observer ∈ observers, WithinQuota observer) (qos : OCQualityOfService) :
    ∀ observer ∈ (sendAllLoop requested observers qos).1, WithinQuota observer := by
  induction observers generalizing qos with
  | nil => exact h
  | cons observer rest ih =>
    rw [forall_mem_cons] at h
    exact forall_mem_cons.mpr ⟨h.1.afterTurn qos, ih h.2 _⟩

lemma checkTimedOutObservers_quota (timedOut : ResourceObserver → Bool) (observeId : UInt8)
    (h : ∀ observer ∈ observers, WithinQuota observer) :
    ∀ observer ∈ (checkTimedOutObservers timedOut observeId observers).1, WithinQuota observer := by
  induction observers with
  | nil => exact h
  | cons out rest ih =>
    obtain ⟨hout, hrest⟩ := forall_mem_cons.mp h
    rw [checkTimedOutObservers]
    dsimp only
    split_ifs
    · exact h
    · exact forall_mem_cons.mpr ⟨hout.notify_high out.lowQosCount, ih hrest⟩
    · exact forall_mem_cons.mpr ⟨hout, ih hrest⟩

lemma sendListLoop_quota (requested : OCQualityOfService) (timedOut : ℕ → ResourceObserver → Bool)
    (obsIdList : List UInt8) (h : ∀ observer ∈ observers, WithinQuota observer)
    (qos : OCQualityOfService) :
    ∀ observer ∈ (sendListLoop requested timedOut obsIdList observers qos).1,
      WithinQuota observer := by
  induction obsIdList generalizing observers qos with
  | nil => exact h
  | cons observeId obsIdList ih =>
    have hchecked := checkTimedOutObservers_quota (timedOut obsIdList.length) observeId h
    rw [sendListLoop]
    dsimp only
    cases getObserverUsingId
        (checkTimedOutObservers (timedOut obsIdList.length) observeId observers).1 observeId with
    | none => exact ih hchecked qos
    | some observer =>
      refine ih (fun o ho => ?_) _
      rcases FirstMatch.mem_modify ho with hmem | ⟨found, hfound, rfl⟩
      · exact hchecked o hmem
      · exact (hchecked found (FirstMatch.mem_of_lookup _ hfound)).afterTurn qos

lemma modify_quota (h : ∀ observer ∈ observers, WithinQuota observer) (position : ℕ)
    {change : ResourceObserver → ResourceObserver}
    (hchange : ∀ observer, WithinQuota observer → WithinQuota (change observer)) :
    ∀ observer ∈ observers.modify position change, WithinQuota observer := by
  intro o ho
  obtain ⟨i, hi⟩ := mem_iff_getElem?.mp ho
  rw [getElem?_modify] at hi
  obtain ⟨observer, hobserver, rfl⟩ := Option.map_eq_some_iff.mp hi
  have hold := h observer (mem_of_getElem? hobserver)
  split_ifs
  · exact hchange observer hold
  · exact hold

lemma observerStep_quota (observers : List ResourceObserver) (event : ObserverEvent)
    (h : ∀ observer ∈ observers, WithinQuota observer) :
    ∀ observer ∈ (observerStep observers event).1, WithinQuota observer := by
  cases event with
  | notifyAll qos => exact sendAllLoop_quota qos h qos
  | notifyList obsIdList timedOut qos => exact sendListLoop_quota qos timedOut obsIdList h qos
  | passedTimedOut position =>
    exact modify_quota h position (fun o ho => ho.notify_high o.lowQosCount)
  | stillInterested position =>
    exact modify_quota h position (fun o ho => ⟨ho.holds, ho.lag_le, ho.lag_le_max⟩)
  | failedComm position =>
    exact modify_quota h position (fun o ho => ⟨ho.holds, ho.lag_le, ho.lag_le_max⟩)
  | deleted position => exact fun o ho => h o (mem_of_mem_eraseIdx ho)
  | registered observeId token devAddr qos =>
    intro o ho
    rcases mem_append.mp ho with ho | ho
    · exact h o ho
    rw [mem_singleton.mp ho]
    exact ⟨Quota.holds_nil _, Nat.zero_le _, Nat.zero_le _⟩

/-- **Notification types, over every history.** They are the observers' own, and one in
four of each observer is confirmable, exactly when all notifications are aligned. -/
theorem notifications_own_iff (observers : List ResourceObserver) (events : List ObserverEvent) :
    ((∀ notification ∈ (Runs.run observerStep (startObservers observers) events).2,
        notification.Own) ∧
      ∀ observer ∈ (Runs.run observerStep (startObservers observers) events).1,
        Quota.Holds isConfirm maxObserverNonCount.toNat observer.sent)
      ↔ Runs.Along observerStep
          (fun observers event => Aligned (event.turns observers).1 (event.turns observers).2)
          (startObservers observers) events := by
  have hstart : ∀ observer ∈ startObservers observers, WithinQuota observer := by
    intro o ho
    obtain ⟨observer, -, rfl⟩ := mem_map.mp ho
    exact ⟨Quota.holds_nil _, Nat.zero_le _, Nat.zero_le _⟩
  have hquota := Runs.run_inv
    (fun observers : List ResourceObserver => ∀ observer ∈ observers, WithinQuota observer)
    (fun _ => True) (fun observers event _ => observerStep_quota observers event) hstart
    (fun event (_ : event ∈ events) => trivial)
  rw [and_iff_left (fun observer hmem => (hquota observer hmem).holds)]
  exact Runs.run_log_iff (fun _ => True)
    (fun observers event _ => ⟨observerStep_own observers event, fun _ => trivial⟩) trivial events

theorem notification_type_depends_on_others :
    ¬ ∃ type : OCQualityOfService → OCQualityOfService → UInt8 → Bool → CAMessageType,
      ∀ (observers : List ResourceObserver) (qos : OCQualityOfService),
        ∀ notification ∈ (sendAllObserverNotification observers qos).2,
          notificationType notification.decided
            = type qos notification.observer.qos notification.observer.lowQosCount
                notification.observer.forceHighQos := by
  rintro ⟨type, htype⟩
  have halone := htype [⟨2, [2], ⟨1, Coap.addrTwo, 2⟩, .low, 0, 0, false, []⟩] .na _ mem_cons_self
  have hafter := htype [⟨1, [1], ⟨1, Coap.addrOne, 1⟩, .high, 0, 0, false, []⟩,
    ⟨2, [2], ⟨1, Coap.addrTwo, 2⟩, .low, 0, 0, false, []⟩] .na _
    (mem_cons_of_mem _ mem_cons_self)
  exact absurd (halone.trans hafter.symm) (by decide)

end Iochibity.Ocf
