/-
The callbacks of a client, `occlientcb.c`, and what a response does to them, `OCHandleResponse` in
`oocf_client.c`.

Allocations succeed.
-/
import Iochibity.Coap.Message
import Iochibity.Lib.Runs
import Mathlib.Data.List.TakeWhile

namespace Iochibity.Ocf

open Coap (caMaxTokenLen)
open List

section

/-- `OCMethod` of a request of a client. -/
inductive ClientMethod
  | noMethod
  | get
  | put
  | post
  | delete
  | observe
  | observeAll
  | discover
  deriving DecidableEq

structure ClientCB where
  token : List UInt8
  handle : ℕ
  method : ClientMethod
  sequenceNumber : UInt32
  ttl : UInt32
  deriving DecidableEq

def maxSequenceNumber : UInt32 := 0xFFFFFF

def ocOffsetSequenceNumber : UInt32 := 0

def millisecondsPerSecond : UInt32 := 1000

def maxCbTimeoutSeconds : UInt32 := 2 * 60 * 60

/-- `GetTicks`. All of it is done in 32 bits but the addition. -/
def getTicks (ticksPerSecond : UInt32) (now : UInt64) (milliSeconds : UInt32) : UInt32 :=
  if milliSeconds ≤ (0xFFFFFFFF - now.toUInt32) * millisecondsPerSecond / ticksPerSecond then
    (now + (milliSeconds * ticksPerSecond / millisecondsPerSecond).toUInt64).toUInt32
  else 0xFFFFFFFF

/-! ## Deadlines -/

/-- The guard decides as over the natural numbers: its product does not wrap, or the duration passes
what is left of the clock anyway. -/
def GuardExact (ticksPerSecond : UInt32) (now : ℕ) (milliSeconds : UInt32) : Prop :=
  milliSeconds.toNat * ticksPerSecond.toNat ≤ (2 ^ 32 - 1 - now) * 1000 % 2 ^ 32
    ∨ (2 ^ 32 - 1 - now) * 1000 ≤ milliSeconds.toNat * ticksPerSecond.toNat

def deadline (ticksPerSecond : UInt32) (now : ℕ) (milliSeconds : UInt32) : ℕ :=
  min (now + milliSeconds.toNat * ticksPerSecond.toNat / 1000) (2 ^ 32 - 1)

section Ticks

variable {ticksPerSecond : UInt32} {now : UInt64}

section

variable (hticks : 0 < ticksPerSecond) (hnow : now.toNat < 2 ^ 32)
include hnow hticks

lemma guard_iff (milliSeconds : UInt32) :
    milliSeconds ≤ (0xFFFFFFFF - now.toUInt32) * millisecondsPerSecond / ticksPerSecond
      ↔ milliSeconds.toNat * ticksPerSecond.toNat ≤ (2 ^ 32 - 1 - now.toNat) * 1000 % 2 ^ 32 := by
  have hpos : 0 < ticksPerSecond.toNat := UInt32.lt_iff_toNat_lt.mp hticks
  have hleft : (0xFFFFFFFF - now.toUInt32 : UInt32).toNat = 2 ^ 32 - 1 - now.toNat := by
    rw [UInt32.toNat_sub_of_le _ _ (UInt32.le_iff_toNat_le.mpr _)]
    all_goals
      simp only [UInt64.toNat_toUInt32, Nat.mod_eq_of_lt hnow, UInt32.reduceToNat]
      omega
  rw [UInt32.le_iff_toNat_le, UInt32.toNat_div, UInt32.toNat_mul, hleft, Nat.le_div_iff_mul_le hpos]
  rfl

lemma getTicks_of_guard {milliSeconds : UInt32}
    (hguard : milliSeconds.toNat * ticksPerSecond.toNat
      ≤ (2 ^ 32 - 1 - now.toNat) * 1000 % 2 ^ 32) :
    (getTicks ticksPerSecond now milliSeconds).toNat
      = deadline ticksPerSecond now.toNat milliSeconds := by
  have hproduct := Nat.mod_lt ((2 ^ 32 - 1 - now.toNat) * 1000) (Nat.two_pow_pos 32)
  rw [getTicks, if_pos ((guard_iff hticks hnow milliSeconds).mpr hguard), deadline]
  simp only [UInt64.toNat_toUInt32, UInt64.toNat_add, UInt32.toNat_toUInt64, UInt32.toNat_div,
    UInt32.toNat_mul]
  rw [Nat.mod_eq_of_lt (hguard.trans_lt hproduct), show millisecondsPerSecond.toNat = 1000 from rfl]
  omega

lemma getTicks_of_not_guard {milliSeconds : UInt32}
    (hguard : ¬ milliSeconds.toNat * ticksPerSecond.toNat
      ≤ (2 ^ 32 - 1 - now.toNat) * 1000 % 2 ^ 32) :
    (getTicks ticksPerSecond now milliSeconds).toNat = 2 ^ 32 - 1 := by
  rw [getTicks, if_neg (mt (guard_iff hticks hnow milliSeconds).mp hguard)]
  rfl

lemma getTicks_eq_iff (milliSeconds : UInt32) :
    (getTicks ticksPerSecond now milliSeconds).toNat
        = deadline ticksPerSecond now.toNat milliSeconds
      ↔ GuardExact ticksPerSecond now.toNat milliSeconds := by
  rw [GuardExact]
  by_cases hguard : milliSeconds.toNat * ticksPerSecond.toNat
      ≤ (2 ^ 32 - 1 - now.toNat) * 1000 % 2 ^ 32
  · exact iff_of_true (getTicks_of_guard hticks hnow hguard) (Or.inl hguard)
  rw [getTicks_of_not_guard hticks hnow hguard, deadline]
  omega

end

lemma deadline_mono {milliSeconds longer : UInt32} (h : milliSeconds ≤ longer) (now : ℕ) :
    deadline ticksPerSecond now milliSeconds ≤ deadline ticksPerSecond now longer := by
  have hproduct := Nat.mul_le_mul_right ticksPerSecond.toNat (UInt32.le_iff_toNat_le.mp h)
  rw [deadline, deadline]
  omega

lemma le_getTicks (hticks : 0 < ticksPerSecond) (hnow : now.toNat < 2 ^ 32)
    (milliSeconds : UInt32) : now.toNat ≤ (getTicks ticksPerSecond now milliSeconds).toNat := by
  by_cases hguard : milliSeconds.toNat * ticksPerSecond.toNat
      ≤ (2 ^ 32 - 1 - now.toNat) * 1000 % 2 ^ 32
  · rw [getTicks_of_guard hticks hnow hguard, deadline]
    omega
  rw [getTicks_of_not_guard hticks hnow hguard]
  omega

lemma getTicks_mono (hticks : 0 < ticksPerSecond) (hnow : now.toNat < 2 ^ 32)
    {milliSeconds longer : UInt32} (h : milliSeconds ≤ longer) :
    getTicks ticksPerSecond now milliSeconds ≤ getTicks ticksPerSecond now longer := by
  rw [UInt32.le_iff_toNat_le]
  by_cases hguard : longer.toNat * ticksPerSecond.toNat ≤ (2 ^ 32 - 1 - now.toNat) * 1000 % 2 ^ 32
  · have hproduct := Nat.mul_le_mul_right ticksPerSecond.toNat (UInt32.le_iff_toNat_le.mp h)
    rw [getTicks_of_guard hticks hnow hguard, getTicks_of_guard hticks hnow (hproduct.trans hguard)]
    exact deadline_mono h now.toNat
  rw [getTicks_of_not_guard hticks hnow hguard]
  have := (getTicks ticksPerSecond now milliSeconds).toNat_lt
  omega

/-- `GetTicks` gives the deadline, not in the past and not before that of a shorter time, exactly
where its guard is exact. -/
theorem getTicks_exact_iff (hticks : 0 < ticksPerSecond) (hnow : now.toNat < 2 ^ 32)
    (milliSeconds : UInt32) :
    ((getTicks ticksPerSecond now milliSeconds).toNat
          = min (now.toNat + milliSeconds.toNat * ticksPerSecond.toNat / 1000) (2 ^ 32 - 1)
        ∧ now.toNat ≤ (getTicks ticksPerSecond now milliSeconds).toNat
        ∧ ∀ longer, milliSeconds ≤ longer →
            getTicks ticksPerSecond now milliSeconds ≤ getTicks ticksPerSecond now longer)
      ↔ GuardExact ticksPerSecond now.toNat milliSeconds := by
  have hexact := getTicks_eq_iff hticks hnow milliSeconds
  rw [deadline] at hexact
  rw [hexact]
  exact ⟨And.left, fun h => ⟨h, le_getTicks hticks hnow milliSeconds, fun _ hlonger =>
    getTicks_mono hticks hnow hlonger⟩⟩

theorem getTicks_exact_one_second :
    0 < (1000 : UInt32) ∧ (getTicks 1000 0 1000).toNat = 1000 := by
  have hexact := (@getTicks_exact_iff 1000 0 (by decide) (by decide) 1000).mpr (Or.inl (by decide))
  exact ⟨by decide, hexact.1.trans (by decide)⟩

theorem getTicks_two_hours :
    ¬ (getTicks 1000 0 (maxCbTimeoutSeconds * millisecondsPerSecond)).toNat
      = min (0 + (maxCbTimeoutSeconds * millisecondsPerSecond).toNat * 1000 / 1000)
          (2 ^ 32 - 1) := by
  decide

end Ticks

/-- `OC_REST_OBSERVE` or `OC_REST_OBSERVE_ALL`. -/
def ClientMethod.observes : ClientMethod → Bool
  | .observe | .observeAll => true
  | _ => false

def addClientCB (token : List UInt8) (handle : ℕ) (method : ClientMethod) (ttl : UInt32)
    (cbList : List ClientCB) : List ClientCB :=
  cbList ++ [⟨token, handle, method, 0, if method.observes then 0 else ttl⟩]

/-! ## Searching -/

/-- `CheckAndDeleteTimedOutCB` deletes it. -/
def ClientCB.timedOut (now : UInt64) (cb : ClientCB) : Bool :=
  cb.ttl ≠ 0 ∧ cb.ttl.toUInt64 < now

/-- What a search leaves of the list up to the callback it finds, and that one with the rest
of the list. -/
structure CallbackSearch where
  before : List ClientCB
  hit : Option (ClientCB × List ClientCB)

variable (search : CallbackSearch)

def CallbackSearch.cbList : List ClientCB :=
  match search.hit with
  | none => search.before
  | some (cb, after) => search.before ++ cb :: after

def CallbackSearch.deleted : List ClientCB :=
  match search.hit with
  | none => search.before
  | some (_, after) => search.before ++ after

def CallbackSearch.changed (change : ClientCB → ClientCB) : List ClientCB :=
  match search.hit with
  | none => search.before
  | some (cb, after) => search.before ++ change cb :: after

def searchCallbacks (now : UInt64) (found : ClientCB → Bool) : List ClientCB → CallbackSearch
  | [] => ⟨[], none⟩
  | out :: rest =>
    if found out then ⟨[], some (out, rest)⟩
    else
      let search := searchCallbacks now found rest
      { search with before := if out.timedOut now then search.before else out :: search.before }

/-- What `memcmp` says of a stored token; `behind` is the memory behind it. -/
def ClientCB.hasToken (behind : ClientCB → List UInt8) (token : List UInt8) (cb : ClientCB) :
    Bool :=
  token.isPrefixOf (cb.token ++ behind cb)

def getClientCBUsingToken (behind : ClientCB → List UInt8) (now : UInt64) (token : List UInt8)
    (cbList : List ClientCB) : CallbackSearch :=
  if caMaxTokenLen < token.length ∨ token = [] then ⟨cbList, none⟩
  else searchCallbacks now (ClientCB.hasToken behind token) cbList

def getClientCBUsingHandle (now : UInt64) (handle : ℕ) (cbList : List ClientCB) :
    CallbackSearch :=
  searchCallbacks now (·.handle = handle) cbList

section Search

variable {now : UInt64} {found : ClientCB → Bool}

variable (now found) in
lemma searchCallbacks_hit (cbList : List ClientCB) :
    (searchCallbacks now found cbList).hit.map Prod.fst = cbList.find? found := by
  induction cbList with
  | nil => rfl
  | cons out rest ih =>
    rw [searchCallbacks]
    by_cases hout : found out = true
    · rw [if_pos hout, find?_cons_of_pos hout]
      rfl
    rw [if_neg hout, find?_cons_of_neg hout]
    exact ih

lemma filter_sublist_search (cbList : List ClientCB) :
    (cbList.filter (!·.timedOut now)).Sublist (searchCallbacks now found cbList).cbList
      ∧ (searchCallbacks now found cbList).cbList.Sublist cbList := by
  induction cbList with
  | nil => exact ⟨List.Sublist.refl _, List.Sublist.refl _⟩
  | cons out rest ih =>
    rw [searchCallbacks]
    by_cases hout : found out = true
    · rw [if_pos hout]
      exact ⟨filter_sublist, List.Sublist.refl _⟩
    rw [if_neg hout]
    have hcons : ∀ before : List ClientCB,
        (CallbackSearch.mk (out :: before) (searchCallbacks now found rest).hit).cbList
          = out :: (CallbackSearch.mk before (searchCallbacks now found rest).hit).cbList := by
      intro before
      unfold CallbackSearch.cbList
      cases (searchCallbacks now found rest).hit <;> rfl
    by_cases hold : out.timedOut now = true
    · rw [filter_cons_of_neg (by rw [hold]; decide)]
      dsimp only
      rw [if_pos hold]
      exact ⟨ih.1, ih.2.cons out⟩
    rw [filter_cons_of_pos (by rw [Bool.eq_false_iff.mpr hold]; rfl)]
    dsimp only
    rw [if_neg hold, hcons]
    exact ⟨ih.1.cons_cons out, ih.2.cons_cons out⟩

end Search

/-! ## Responses reach their own callback -/

/-- **Only the own callback is found.** A callback that is found has the received token and is not
too old; if there is such a one, one is found; and none that is not too old is deleted. -/
def ReachesOwn (behind : ClientCB → List UInt8) (now : UInt64) (token : List UInt8)
    (cbList : List ClientCB) : Prop :=
  (∀ hit ∈ (getClientCBUsingToken behind now token cbList).hit,
      hit.1 ∈ cbList ∧ hit.1.token = token ∧ hit.1.timedOut now = false)
    ∧ ((∃ cb ∈ cbList, cb.token = token ∧ cb.timedOut now = false) →
        ∃ hit, (getClientCBUsingToken behind now token cbList).hit = some hit)
    ∧ (cbList.filter (!·.timedOut now)).Sublist
        (getClientCBUsingToken behind now token cbList).cbList

def TokensOfRequests (cbList : List ClientCB) : Prop :=
  ∀ cb ∈ cbList, cb.token ≠ [] ∧ cb.token.length ≤ caMaxTokenLen

lemma hasToken_self (behind : ClientCB → List UInt8) (cb : ClientCB) :
    cb.hasToken behind cb.token = true :=
  List.isPrefixOf_iff_prefix.mpr (List.prefix_append _ _)

/-- **Responses reach only their own callback** exactly when the first callback whose token,
with the memory behind it, begins with the received one has just that token and is not too
old. -/
theorem reachesOwn_iff (behind : ClientCB → List UInt8) (now : UInt64) (token : List UInt8)
    (cbList : List ClientCB) (htokens : TokensOfRequests cbList) :
    ReachesOwn behind now token cbList
      ↔ (token ≠ [] ∧ token.length ≤ caMaxTokenLen →
          ∀ cb ∈ cbList.find? (ClientCB.hasToken behind token),
            cb.token = token ∧ cb.timedOut now = false) := by
  unfold ReachesOwn getClientCBUsingToken
  by_cases hlength : caMaxTokenLen < token.length ∨ token = []
  · rw [if_pos hlength]
    have hnot : ¬ (token ≠ [] ∧ token.length ≤ caMaxTokenLen) := by
      rintro ⟨hne, hle⟩
      rcases hlength with hlt | hnil
      · omega
      · exact hne hnil
    refine iff_of_true ⟨nofun, ?_, filter_sublist⟩ (fun h => absurd h hnot)
    rintro ⟨cb, hcb, rfl, -⟩
    exact absurd (htokens cb hcb) hnot
  rw [if_neg hlength]
  rw [not_or, not_lt] at hlength
  rw [forall_prop_of_true (show token ≠ [] ∧ token.length ≤ caMaxTokenLen
    from ⟨hlength.2, hlength.1⟩)]
  have hhit := searchCallbacks_hit now (ClientCB.hasToken behind token) cbList
  constructor
  · rintro ⟨hown, -, -⟩ cb hcb
    rw [← hhit] at hcb
    obtain ⟨hit, hsome, rfl⟩ := Option.mem_map.mp hcb
    exact (hown hit hsome).2
  · intro hfirst
    refine ⟨?_, ?_, (filter_sublist_search cbList).1⟩
    · intro hit hsome
      have hfind : hit.1 ∈ cbList.find? (ClientCB.hasToken behind token) := by
        rw [← hhit]
        exact Option.mem_map_of_mem _ hsome
      exact ⟨mem_of_find?_eq_some hfind, hfirst hit.1 hfind⟩
    · rintro ⟨cb, hcb, rfl, -⟩
      cases hsearch : (searchCallbacks now (ClientCB.hasToken behind cb.token) cbList).hit with
      | some hit => exact ⟨hit, rfl⟩
      | none =>
        rw [hsearch] at hhit
        have hnone := find?_eq_none.mp hhit.symm cb hcb
        exact absurd (hasToken_self behind cb) hnone

theorem shortToken_reaches_other :
    ¬ ReachesOwn (fun _ => []) 0 [1] [⟨[1, 2], 7, .get, 0, 100⟩] := by
  rintro ⟨hown, -, -⟩
  have htoken := (hown (⟨[1, 2], 7, .get, 0, 100⟩, []) rfl).2.1
  simp at htoken

theorem ownToken_reachesOwn :
    ReachesOwn (fun _ => []) 0 [1, 2] [⟨[1, 2], 7, .get, 0, 100⟩] :=
  (reachesOwn_iff (fun _ => []) 0 [1, 2] [⟨[1, 2], 7, .get, 0, 100⟩]
      (fun cb hcb => by rw [mem_singleton.mp hcb]; decide)).mpr
    (fun _ cb hcb => by cases hcb; decide)

/-! ## Responses -/

inductive ResponseResult
  | empty
  | requestEntityIncomplete
  | retransmitTimeout
  | notAcceptable
  | content
  | other
  deriving DecidableEq

/-- `CAResponseInfo_t`. An option is its id and its data. -/
structure ClientResponse where
  token : List UInt8
  result : ResponseResult
  options : List (UInt16 × List UInt8)
  formatUndefined : Bool

/-- What is found out elsewhere: the memory behind the tokens, the time, whether a request can be
sent again and the payload be read, and whether the application keeps the transaction. -/
structure ResponseWorld where
  behind : ClientCB → List UInt8
  now : UInt64
  ticksPerSecond : UInt32
  resends : Bool
  readable : Bool
  keeps : Bool

def coapOptionObserve : UInt16 := 6

def maxHeaderOptions : ℕ := 50

def noObserveOption : UInt32 := maxSequenceNumber + 1

variable (response : ClientResponse)

def ClientResponse.firstObserve : Option (List UInt8) :=
  match response.options with
  | [] => none
  | (optionID, optionData) :: _ =>
    if optionID = coapOptionObserve then some optionData else none

def ClientResponse.obsHeaderOpt : Bool :=
  response.options.any (·.1 = coapOptionObserve)

def readObservationOption (optionData : List UInt8) : UInt32 :=
  (optionData.take 4).foldl (fun observationOption byte =>
    (observationOption <<< 8) ||| byte.toUInt32) 0

def ClientResponse.sequenceNumber : UInt32 :=
  match response.firstObserve with
  | some optionData => readObservationOption optionData
  | none => noObserveOption

def ClientResponse.numRcvdVendorSpecificHeaderOptions : ℕ :=
  if response.firstObserve.isSome then response.options.length - 1 else response.options.length

def ClientCB.stale (sequenceNumber : UInt32) (cb : ClientCB) : Bool :=
  cb.method = .observe ∧ sequenceNumber > ocOffsetSequenceNumber
    ∧ cb.sequenceNumber ≤ maxSequenceNumber ∧ sequenceNumber ≤ cb.sequenceNumber

inductive CallbackFate
  | stays
  | changes (sequenceNumber ttl : UInt32)
  | ends

/-- What a response does to its callback, and the number that the application gets with it,
if it gets one. -/
def respondTo (world : ResponseWorld) (response : ClientResponse) (cb : ClientCB) :
    CallbackFate × Option UInt32 :=
  match response.result with
  | .empty => (.stays, none)
  | .requestEntityIncomplete => (.stays, none)
  | .retransmitTimeout => (.ends, some 0)
  | .notAcceptable =>
    if response.formatUndefined ∧ cb.method ≠ .noMethod ∧ world.resends then (.stays, none)
    else (.ends, some 0)
  | result =>
    if cb.method.observes ∧ result = .content ∧ response.obsHeaderOpt = false then
      (.ends, some noObserveOption)
    else if cb.method = .noMethod ∨ world.readable = false
        ∨ maxHeaderOptions < response.numRcvdVendorSpecificHeaderOptions then (.stays, none)
    else if cb.stale response.sequenceNumber then (.stays, none)
    else if world.keeps then
      (.changes response.sequenceNumber (getTicks world.ticksPerSecond world.now
        (maxCbTimeoutSeconds * millisecondsPerSecond)), some response.sequenceNumber)
    else (.ends, some response.sequenceNumber)

def CallbackSearch.after (search : CallbackSearch) (fate : CallbackFate) : List ClientCB :=
  match fate with
  | .stays => search.cbList
  | .changes sequenceNumber ttl =>
    search.changed (fun cb => { cb with sequenceNumber := sequenceNumber, ttl := ttl })
  | .ends => search.deleted

/-- `OCHandleResponse`: the callbacks after it, and the number that the application gets. -/
def ocHandleResponse (world : ResponseWorld) (response : ClientResponse)
    (cbList : List ClientCB) : List ClientCB × Option UInt32 :=
  let search := getClientCBUsingToken world.behind world.now response.token cbList
  match search.hit with
  | none => (search.cbList, none)
  | some (cb, _) =>
    let (fate, passed) := respondTo world response cb
    (search.after fate, passed)

/-- `OC_HIGH_QOS` is asked for, or the adapter is not IP: the observation is cancelled with a
request. -/
structure CancelWorld where
  now : UInt64
  confirmable : Bool

/-- `OCCancel`. An observation that is cancelled with a request stays until the response. -/
def ocCancel (world : CancelWorld) (handle : ℕ) (cbList : List ClientCB) : List ClientCB :=
  let search := getClientCBUsingHandle world.now handle cbList
  match search.hit with
  | none => search.cbList
  | some (cb, _) =>
    if cb.method = .noMethod then search.cbList
    else if cb.method.observes ∧ world.confirmable then search.cbList
    else search.deleted

end

open Option (some.inj)

/-- What `HandleCAErrorResponse` finds out elsewhere: the memory behind the tokens, the time,
and whether the application ends the transaction. -/
structure ErrorWorld where
  behind : ClientCB → List UInt8
  now : UInt64
  deletes : Bool

def handleCAErrorResponse (world : ErrorWorld) (token : List UInt8) (cbList : List ClientCB) :
    List ClientCB :=
  let search := getClientCBUsingToken world.behind world.now token cbList
  if world.deletes then search.deleted else search.cbList

/-! ## Events -/

inductive ClientEvent
  | request (token : List UInt8) (handle : ℕ) (method : ClientMethod) (ttl : UInt32)
  | response (world : ResponseWorld) (received : ClientResponse)
  | error (world : ErrorWorld) (token : List UInt8)
  | cancel (world : CancelWorld) (handle : ℕ)

def clientStep (cbList : List ClientCB) : ClientEvent → List ClientCB × List UInt32
  | .request token handle method ttl => (addClientCB token handle method ttl cbList, [])
  | .response world received =>
    ((ocHandleResponse world received cbList).1, (ocHandleResponse world received cbList).2.toList)
  | .error world token => (handleCAErrorResponse world token cbList, [])
  | .cancel world handle => (ocCancel world handle cbList, [])

def FreshHandle (cbList : List ClientCB) : ClientEvent → Prop
  | .request _ handle _ _ => handle ∉ cbList.map ClientCB.handle
  | _ => True

def ClientEvent.looksFor : ClientEvent → Option (UInt64 × (ClientCB → Bool))
  | .request _ _ _ _ => none
  | .response world received =>
    if caMaxTokenLen < received.token.length ∨ received.token = [] then none
    else some (world.now, ClientCB.hasToken world.behind received.token)
  | .error world token =>
    if caMaxTokenLen < token.length ∨ token = [] then none
    else some (world.now, ClientCB.hasToken world.behind token)
  | .cancel world handle => some (world.now, fun cb => cb.handle = handle)

def ClientEvent.fate (cb : ClientCB) : ClientEvent → CallbackFate
  | .request _ _ _ _ => .stays
  | .response world received => (respondTo world received cb).1
  | .error world _ => if world.deletes then .ends else .stays
  | .cancel world _ =>
    if cb.method = .noMethod then .stays
    else if cb.method.observes ∧ world.confirmable then .stays
    else .ends

def ClientEvent.IsFor (cb : ClientCB) : ClientEvent → Prop
  | .request _ _ _ _ => False
  | .response _ received => received.token = cb.token
  | .error _ token => token = cb.token
  | .cancel _ handle => handle = cb.handle

def ClientEvent.Ends (cb : ClientCB) (event : ClientEvent) : Prop :=
  event.IsFor cb ∧ event.fate cb = .ends

def ClientCB.SameAs (cb cb' : ClientCB) : Prop :=
  cb'.handle = cb.handle ∧ cb'.token = cb.token ∧ cb'.method = cb.method

variable (handle : ℕ) (cbList : List ClientCB) (event : ClientEvent)

/-- **An observation stays** among the callbacks, unless the event ends it. -/
def StaysUnlessEnded : Prop :=
  ∀ cb ∈ cbList, cb.handle = handle → cb.method.observes = true → ¬ event.Ends cb →
    ∃ cb' ∈ (clientStep cbList event).1, cb.SameAs cb'

/-- The event leaves the observation alone: when it looks for a callback it does not pass it
when it is too old, and when it finds it only to end it, it is for it. -/
def Spares : Prop :=
  ∀ cb ∈ cbList, cb.handle = handle → cb.method.observes = true → ∀ search ∈ event.looksFor,
      (cb.timedOut search.1 = true → cb ∉ cbList.takeWhile (!search.2 ·))
        ∧ (cbList.find? search.2 = some cb → event.fate cb = .ends → event.IsFor cb)

/-! ## Searches -/

lemma searchCallbacks_eq (now : UInt64) (found : ClientCB → Bool) (cbList : List ClientCB) :
    (searchCallbacks now found cbList).before
        = (cbList.takeWhile (!found ·)).filter (!·.timedOut now)
      ∧ (searchCallbacks now found cbList).hit
        = match cbList.dropWhile (!found ·) with
          | [] => none
          | cb :: after => some (cb, after) := by
  induction cbList with
  | nil => exact ⟨rfl, rfl⟩
  | cons out rest ih =>
    obtain ⟨hbefore, hhit⟩ := ih
    rw [searchCallbacks]
    by_cases hout : found out = true
    · rw [if_pos hout, takeWhile_cons_of_neg (by rw [hout]; decide),
        dropWhile_cons_of_neg (by rw [hout]; decide)]
      exact ⟨rfl, rfl⟩
    rw [Bool.not_eq_true] at hout
    rw [if_neg (by rw [hout]; decide), takeWhile_cons_of_pos (by rw [hout]; rfl),
      dropWhile_cons_of_pos (by rw [hout]; rfl)]
    refine ⟨?_, hhit⟩
    dsimp only
    by_cases hold : out.timedOut now = true
    · rw [if_pos hold, filter_cons_of_neg (by rw [hold]; decide), hbefore]
    rw [Bool.not_eq_true] at hold
    rw [if_neg (by rw [hold]; decide), filter_cons_of_pos (by rw [hold]; rfl), hbefore]

def CallbackSearch.settled (fate : ClientCB → CallbackFate) (search : CallbackSearch) :
    List ClientCB :=
  match search.hit with
  | none => search.before
  | some (cb, _) => search.after (fate cb)

lemma clientStep_eq (cbList : List ClientCB) (event : ClientEvent) :
    (clientStep cbList event).1
      = match event with
        | .request token handle method ttl => addClientCB token handle method ttl cbList
        | event =>
          match event.looksFor with
          | none => cbList
          | some (now, found) =>
            (searchCallbacks now found cbList).settled (fun cb => event.fate cb) := by
  cases event with
  | request token handle method ttl => rfl
  | response world received =>
    unfold clientStep ocHandleResponse getClientCBUsingToken ClientEvent.looksFor
    dsimp only
    by_cases hlength : caMaxTokenLen < received.token.length ∨ received.token = []
    · rw [if_pos hlength, if_pos hlength]
      rfl
    rw [if_neg hlength, if_neg hlength]
    unfold CallbackSearch.settled
    dsimp only
    cases hhit : (searchCallbacks world.now
        (ClientCB.hasToken world.behind received.token) cbList).hit with
    | none =>
      dsimp only
      rw [CallbackSearch.cbList, hhit]
    | some hit => rfl
  | error world token =>
    unfold clientStep handleCAErrorResponse getClientCBUsingToken ClientEvent.looksFor
    dsimp only
    by_cases hlength : caMaxTokenLen < token.length ∨ token = []
    · rw [if_pos hlength, if_pos hlength]
      dsimp only
      split <;> rfl
    rw [if_neg hlength, if_neg hlength]
    unfold CallbackSearch.settled
    dsimp only
    cases hhit : (searchCallbacks world.now
        (ClientCB.hasToken world.behind token) cbList).hit with
    | none =>
      dsimp only
      rw [CallbackSearch.cbList, CallbackSearch.deleted, hhit]
      split <;> rfl
    | some hit =>
      dsimp only [ClientEvent.fate]
      by_cases hdeletes : world.deletes = true
      · rw [if_pos hdeletes, if_pos hdeletes]
        rfl
      rw [if_neg hdeletes, if_neg hdeletes]
      rfl
  | cancel world handle =>
    unfold clientStep ocCancel getClientCBUsingHandle ClientEvent.looksFor
    unfold CallbackSearch.settled
    dsimp only
    cases hhit : (searchCallbacks world.now (fun cb => decide (cb.handle = handle))
        cbList).hit with
    | none =>
      dsimp only
      rw [CallbackSearch.cbList, hhit]
    | some hit =>
      dsimp only [ClientEvent.fate]
      by_cases hmethod : hit.1.method = .noMethod
      · rw [if_pos hmethod, if_pos hmethod]
        rfl
      rw [if_neg hmethod, if_neg hmethod]
      by_cases hrequest : hit.1.method.observes = true ∧ world.confirmable = true
      · rw [if_pos hrequest, if_pos hrequest]
        rfl
      rw [if_neg hrequest, if_neg hrequest]
      rfl

/-! ## What a search does to one callback -/

lemma sameAs_refl (cb : ClientCB) : cb.SameAs cb := ⟨rfl, rfl, rfl⟩

lemma after_of_hit (fate : CallbackFate) (search : CallbackSearch) (cb : ClientCB)
    (after : List ClientCB) (hhit : search.hit = some (cb, after)) :
    (fate = .ends ∧ search.after fate = search.before ++ after)
      ∨ (fate ≠ .ends ∧ ∃ cb' : ClientCB, cb.SameAs cb'
          ∧ search.after fate = search.before ++ cb' :: after) := by
  cases fate with
  | stays =>
    refine .inr ⟨nofun, cb, sameAs_refl cb, ?_⟩
    show search.cbList = _
    rw [CallbackSearch.cbList, hhit]
  | changes sequenceNumber ttl =>
    refine .inr ⟨nofun, { cb with sequenceNumber := sequenceNumber, ttl := ttl },
      ⟨rfl, rfl, rfl⟩, ?_⟩
    show search.changed _ = _
    rw [CallbackSearch.changed, hhit]
  | ends =>
    refine .inl ⟨rfl, ?_⟩
    show search.deleted = _
    rw [CallbackSearch.deleted, hhit]

lemma exists_append_sameAs (cb : ClientCB) (xs ys : List ClientCB) :
    (∃ cb' ∈ xs ++ ys, cb.SameAs cb')
      ↔ (∃ cb' ∈ xs, cb.SameAs cb') ∨ ∃ cb' ∈ ys, cb.SameAs cb' := by
  rw [← exists_or]
  exact exists_congr (fun cb' => by rw [mem_append, or_and_right])

def DistinctHandles (cbList : List ClientCB) : Prop :=
  (cbList.map ClientCB.handle).Nodup

section

variable (now : UInt64) (found : ClientCB → Bool) (fate : ClientCB → CallbackFate)
  (cbList : List ClientCB)

lemma settled_iff (hdistinct : DistinctHandles cbList) (cb : ClientCB) (hcb : cb ∈ cbList) :
    (∃ cb' ∈ (searchCallbacks now found cbList).settled fate, cb.SameAs cb')
      ↔ (cb.timedOut now = true → cb ∉ cbList.takeWhile (!found ·))
        ∧ (cbList.find? found = some cb → fate cb ≠ .ends) := by
  obtain ⟨hbefore, hhit⟩ := searchCallbacks_eq now found cbList
  have hfind : cbList.find? found = (cbList.dropWhile (!found ·)).head? := by
    rw [← searchCallbacks_hit now found cbList, hhit]
    cases cbList.dropWhile (!found ·) with
    | nil | cons => rfl
  have happend := takeWhile_append_dropWhile (p := fun out => !found out) (l := cbList)
  rw [hfind]
  unfold CallbackSearch.settled
  have hsame : ∀ cb' ∈ cbList, cb.SameAs cb' → cb' = cb := by
    rintro cb' hcb' ⟨hhandle, -, -⟩
    exact inj_on_of_nodup_map hdistinct hcb' hcb hhandle
  have hnodup : cbList.Nodup := List.Nodup.of_map _ hdistinct
  generalize htake : cbList.takeWhile (!found ·) = passed at *
  have hpassed : (∃ cb' ∈ passed.filter (!·.timedOut now), cb.SameAs cb')
      ↔ cb ∈ passed ∧ cb.timedOut now = false := by
    constructor
    · rintro ⟨cb', hcb', hkey⟩
      obtain ⟨hmem, hyoung⟩ := mem_filter.mp hcb'
      rw [Bool.not_eq_true'] at hyoung
      have hself := hsame cb' (by rw [← happend]; exact mem_append_left _ hmem) hkey
      rw [hself] at hmem hyoung
      exact ⟨hmem, hyoung⟩
    · rintro ⟨hmem, hyoung⟩
      exact ⟨cb, mem_filter.mpr ⟨hmem, by rw [hyoung]; rfl⟩, sameAs_refl cb⟩
  cases hdrop : cbList.dropWhile (!found ·) with
  | nil =>
    rw [hdrop, append_nil] at happend
    rw [hdrop] at hhit
    rw [hhit]
    dsimp only
    rw [hbefore, hpassed, happend, and_iff_right hcb, head?_nil]
    rw [and_iff_left (nofun : none = some cb → fate cb ≠ .ends), imp_not_comm,
      forall_prop_of_true hcb, Bool.not_eq_true]
  | cons out after =>
    rw [hdrop] at happend
    rw [← happend] at hnodup hcb hsame
    obtain ⟨hnotin, -⟩ := nodup_cons.mp (nodup_append.mp hnodup).2.1
    have hdisjoint := disjoint_of_nodup_append hnodup
    have hafter : (∃ cb' ∈ after, cb.SameAs cb') ↔ cb ∈ after := by
      constructor
      · rintro ⟨cb', hcb', hkey⟩
        rwa [← hsame cb' (mem_append_right _ (mem_cons_of_mem _ hcb')) hkey]
      · intro hmem
        exact ⟨cb, hmem, sameAs_refl cb⟩
    have hout : ∀ out' : ClientCB, out.SameAs out' → (cb.SameAs out' ↔ cb = out) := by
      rintro out' ⟨hhandle, htoken, hmethod⟩
      constructor
      · rintro ⟨hhandle', htoken', hmethod'⟩
        exact (hsame out (mem_append_right _ mem_cons_self)
          ⟨by rw [← hhandle, hhandle'], by rw [← htoken, htoken'],
            by rw [← hmethod, hmethod']⟩).symm
      · rintro rfl
        exact ⟨hhandle, htoken, hmethod⟩
    rw [hdrop] at hhit
    have hoverall : (∃ cb' ∈ (searchCallbacks now found cbList).after (fate out), cb.SameAs cb')
        ↔ (cb ∈ passed ∧ cb.timedOut now = false) ∨ (cb = out ∧ fate out ≠ .ends) ∨ cb ∈ after := by
      obtain ⟨hends, hlist⟩ | ⟨hkeeps, out', hkey, hlist⟩ :=
        after_of_hit (fate out) _ out after hhit
      · rw [hlist, hbefore, exists_append_sameAs, hpassed, hafter, hends]
        simp
      rw [hlist, hbefore, exists_append_sameAs, hpassed, exists_mem_cons_iff, hafter,
        hout out' hkey, and_iff_left hkeeps]
    rw [hhit, head?_cons, Option.some.injEq]
    dsimp only
    rw [hoverall]
    grind

lemma settled_handles :
    (((searchCallbacks now found cbList).settled fate).map ClientCB.handle).Sublist
      (cbList.map ClientCB.handle) := by
  obtain ⟨hbefore, hhit⟩ := searchCallbacks_eq now found cbList
  have happend := takeWhile_append_dropWhile (p := fun out => !found out) (l := cbList)
  have hfiltered : (((searchCallbacks now found cbList).before).map ClientCB.handle).Sublist
      ((cbList.takeWhile (!found ·)).map ClientCB.handle) := by
    rw [hbefore]
    exact filter_sublist.map _
  unfold CallbackSearch.settled
  cases hdrop : cbList.dropWhile (!found ·) with
  | nil =>
    rw [hdrop] at hhit
    rw [hdrop, append_nil] at happend
    rw [hhit]
    rw [happend] at hfiltered
    exact hfiltered
  | cons out after =>
    rw [hdrop] at hhit happend
    rw [hhit]
    dsimp only
    have htarget : cbList.map ClientCB.handle = (cbList.takeWhile (!found ·)).map ClientCB.handle
          ++ (out.handle :: after.map ClientCB.handle) := by
      rw [← map_cons, ← map_append, happend]
    rw [htarget]
    obtain ⟨-, hlist⟩ | ⟨-, out', ⟨hhandle, -, -⟩, hlist⟩ :=
      after_of_hit (fate out) _ out after hhit
    · rw [hlist, map_append]
      exact hfiltered.append (sublist_cons_self _ _)
    rw [hlist, map_append, map_cons, hhandle]
    simp [hfiltered]

end

/-! ## Steps -/

lemma ClientEvent.found_of_isFor {event : ClientEvent} {cb : ClientCB}
    {search : UInt64 × (ClientCB → Bool)} (hsearch : search ∈ event.looksFor)
    (hfor : event.IsFor cb) : search.2 cb = true := by
  cases event with
  | request token handle method ttl => exact False.elim hfor
  | response world received =>
    obtain ⟨-, hsome⟩ := Option.ite_none_left_eq_some.mp hsearch
    rw [← some.inj hsome]
    show cb.hasToken world.behind received.token = true
    rw [show received.token = cb.token from hfor]
    exact hasToken_self world.behind cb
  | error world token =>
    obtain ⟨-, hsome⟩ := Option.ite_none_left_eq_some.mp hsearch
    rw [← some.inj hsome]
    show cb.hasToken world.behind token = true
    rw [show token = cb.token from hfor]
    exact hasToken_self world.behind cb
  | cancel world handle =>
    rw [← some.inj hsearch]
    exact decide_eq_true (show handle = cb.handle from hfor).symm

lemma clientStep_distinct (cbList : List ClientCB) (event : ClientEvent)
    (hdistinct : DistinctHandles cbList) (hfresh : FreshHandle cbList event) :
    DistinctHandles (clientStep cbList event).1 := by
  have hsettled : ∀ event : ClientEvent, DistinctHandles (match event.looksFor with
      | none => cbList
      | some (now, found) =>
        (searchCallbacks now found cbList).settled (fun cb => event.fate cb)) := by
    intro event
    cases event.looksFor with
    | none => exact hdistinct
    | some search => exact List.Sublist.nodup (settled_handles _ _ _ _) hdistinct
  rw [clientStep_eq]
  cases event with
  | request token handle method ttl =>
    unfold DistinctHandles addClientCB
    rw [map_append, map_singleton]
    apply nodup_append.mpr
    refine ⟨hdistinct, nodup_singleton _, ?_⟩
    rintro a ha b hb rfl
    rw [mem_singleton.mp hb] at ha
    exact hfresh ha
  | response world received => exact hsettled (.response world received)
  | error world token => exact hsettled (.error world token)
  | cancel world handle => exact hsettled (.cancel world handle)

lemma staysUnlessEnded_iff (hdistinct : DistinctHandles cbList) :
    StaysUnlessEnded handle cbList event ↔ Spares handle cbList event := by
  have hsearched : (∀ now found, event.looksFor = some (now, found) → (clientStep cbList event).1
          = (searchCallbacks now found cbList).settled (fun cb => event.fate cb))
      ∧ (event.looksFor = none → ∀ cb ∈ cbList, cb ∈ (clientStep cbList event).1) := by
    rw [clientStep_eq]
    cases event with
    | request token handle method ttl =>
      exact ⟨nofun, fun _ cb hcb => mem_append_left _ hcb⟩
    | response | error | cancel =>
      dsimp only
      exact ⟨fun now found h => by rw [h], fun h cb hcb => by rwa [h]⟩
  unfold StaysUnlessEnded Spares
  refine forall₄_congr (fun cb hcb _ _ => ?_)
  cases hlooks : event.looksFor with
  | none =>
    refine iff_of_true ?_ nofun
    intro _
    exact ⟨cb, hsearched.2 hlooks cb hcb, sameAs_refl cb⟩
  | some search =>
    obtain ⟨now, found⟩ := search
    rw [hsearched.1 now found hlooks, settled_iff now found _ cbList hdistinct cb hcb]
    have hown : event.IsFor cb → cb ∉ cbList.takeWhile (!found ·) := by
      intro hfor hmem
      have hnot := mem_takeWhile_imp hmem
      have hfound : found cb = true := ClientEvent.found_of_isFor hlooks hfor
      rw [hfound] at hnot
      simp at hnot
    unfold ClientEvent.Ends
    constructor
    · intro hstays search hsearch
      obtain rfl := some.inj hsearch
      by_cases hends : event.IsFor cb ∧ event.fate cb = .ends
      · exact ⟨fun _ => hown hends.1, fun _ _ => hends.1⟩
      obtain ⟨hpassed, hfound⟩ := hstays hends
      exact ⟨hpassed, fun hfind hfate => absurd hfate (hfound hfind)⟩
    · intro hspares hends
      obtain ⟨hpassed, hfound⟩ := hspares (now, found) rfl
      exact ⟨hpassed, fun hfind hfate => hends ⟨hfound hfind hfate, hfate⟩⟩

/-- **An observation stays until it is ended**, in every step of a run, exactly when every
event spares it. -/
theorem observation_stays_iff (handle : ℕ) (events : List ClientEvent)
    (hfresh : Runs.Along clientStep FreshHandle [] events) :
    Runs.Along clientStep (StaysUnlessEnded handle) [] events
      ↔ Runs.Along clientStep (Spares handle) [] events := by
  refine Runs.along_iff DistinctHandles ?_ (show DistinctHandles [] from nodup_nil) hfresh
  intro cbList event hdistinct hnew
  exact ⟨staysUnlessEnded_iff handle cbList event hdistinct,
    fun _ => clientStep_distinct cbList event hdistinct hnew⟩

def worldAt (now : UInt64) : ResponseWorld := ⟨fun _ => [], now, 1000, false, true, true⟩

/-- An observation is kept when the clock has passed 32 bits, and then a response with a token
that nobody has comes in. -/
def keptAndPassed : List ClientEvent :=
  [.request [1] 7 .observe 0,
    .response (worldAt 0x100000000) ⟨[1], .content, [(coapOptionObserve, [0, 0, 0, 1])], false⟩,
    .response (worldAt 0x100000001) ⟨[2], .content, [], false⟩]

theorem keptAndPassed_drops : ¬ Runs.Along clientStep (StaysUnlessEnded 7) [] keptAndPassed := by
  rintro ⟨-, -, hstays, -⟩
  have hkept : (clientStep (clientStep [] (.request [1] 7 .observe 0)).1
      (.response (worldAt 0x100000000)
        ⟨[1], .content, [(coapOptionObserve, [0, 0, 0, 1])], false⟩)).1
      = [⟨[1], 7, .observe, 1, 0xFFFFFFFF⟩] := by decide
  rw [hkept] at hstays
  obtain ⟨cb', hcb', -⟩ := hstays ⟨[1], 7, .observe, 1, 0xFFFFFFFF⟩ mem_cons_self rfl rfl
    (fun h => absurd (show ([2] : List UInt8) = [1] from h.1) (by decide))
  have hgone : (clientStep [⟨[1], 7, .observe, 1, 0xFFFFFFFF⟩]
      (.response (worldAt 0x100000001) ⟨[2], .content, [], false⟩)).1 = [] := by decide
  rw [hgone] at hcb'
  cases hcb'

theorem notification_stays :
    Runs.Along clientStep (StaysUnlessEnded 7) []
      [.request [1] 7 .observe 0,
        .response (worldAt 5) ⟨[1], .content, [(coapOptionObserve, [0, 0, 0, 1])], false⟩] :=
  (observation_stays_iff 7 _ (by exact ⟨not_mem_nil, trivial, trivial⟩)).mpr (by
    refine ⟨nofun, ?_, trivial⟩
    rintro cb hcb - - search hsearch
    obtain rfl := mem_singleton.mp hcb
    obtain rfl := some.inj hsearch
    exact ⟨fun h => absurd h (by decide), fun _ _ => rfl⟩)

/-! ## Requests that are sent again -/

structure Reception where
  world : ResponseWorld
  response : ClientResponse

def Reception.waits (r : Reception) : Bool :=
  r.response.result = .empty ∨ r.response.result = .requestEntityIncomplete

def Reception.reissues (method : ClientMethod) (r : Reception) : Bool :=
  r.response.result = .notAcceptable ∧ r.response.formatUndefined ∧ method ≠ .noMethod
    ∧ r.world.resends

def Reception.isRead (method : ClientMethod) (r : Reception) : Bool :=
  r.response.result = .retransmitTimeout ∨ r.response.result = .notAcceptable
    ∨ method ≠ .noMethod ∧ r.world.readable
      ∧ r.response.numRcvdVendorSpecificHeaderOptions ≤ maxHeaderOptions

def Reception.ends (method : ClientMethod) (r : Reception) : Bool :=
  !r.waits && !r.reissues method && r.isRead method
    && (r.response.result = .retransmitTimeout ∨ r.response.result = .notAcceptable
      ∨ r.world.keeps = false)

def receive (cbList : List ClientCB) (r : Reception) : List ClientCB × Option UInt32 :=
  ocHandleResponse r.world r.response cbList

def reissued (cbList : List ClientCB) (r : Reception) : Bool :=
  (getClientCBUsingToken r.world.behind r.world.now r.response.token cbList).hit.any
    fun hit => r.reissues hit.1.method

def reissueCount : List ClientCB → List Reception → ℕ
  | _, [] => 0
  | cbList, r :: rest => (reissued cbList r).toNat + reissueCount (receive cbList r).1 rest

/-- The first response that is not passed over calls the application, which alone can keep the
callback. -/
def FirstAnswered : List ClientCB → List Reception → Prop
  | _, [] => True
  | cbList, r :: rest =>
    if r.waits ∨ reissued cbList r then FirstAnswered (receive cbList r).1 rest
    else (receive cbList r).2.isSome = true ∧ ((receive cbList r).1 ≠ [] → r.world.keeps = true)

section Retry

variable {cb : ClientCB} {r : Reception} (htoken : cb.token ≠ [] ∧ cb.token.length ≤ caMaxTokenLen)
  (hmethod : cb.method.observes = false)
include htoken

lemma getClientCB_single (behind : ClientCB → List UInt8) (now : UInt64) :
    getClientCBUsingToken behind now cb.token [cb] = ⟨[], some (cb, [])⟩ := by
  have hfound : cb.hasToken behind cb.token = true :=
    List.isPrefixOf_iff_prefix.2 (List.prefix_append _ _)
  rw [getClientCBUsingToken, if_neg (by simp [htoken]), searchCallbacks, if_pos hfound]

lemma reissued_single (hr : r.response.token = cb.token) :
    reissued [cb] r = r.reissues cb.method := by
  rw [reissued, hr, getClientCB_single htoken]
  rfl

lemma receive_single (hr : r.response.token = cb.token) :
    receive [cb] r = (CallbackSearch.after ⟨[], some (cb, [])⟩ (respondTo r.world r.response cb).1,
      (respondTo r.world r.response cb).2) := by
  rw [receive, ocHandleResponse, hr, getClientCB_single htoken]

omit htoken in
include hmethod in
lemma respondTo_regular (r : Reception)
    (h : r.response.result = .content ∨ r.response.result = .other) :
    respondTo r.world r.response cb = if cb.method = .noMethod ∨ r.world.readable = false
          ∨ maxHeaderOptions < r.response.numRcvdVendorSpecificHeaderOptions then (.stays, none)
      else if r.world.keeps then
        (.changes r.response.sequenceNumber (getTicks r.world.ticksPerSecond r.world.now
          (maxCbTimeoutSeconds * millisecondsPerSecond)), some r.response.sequenceNumber)
      else (.ends, some r.response.sequenceNumber) := by
  have hstale (n : UInt32) : cb.stale n = false := by
    rw [ClientCB.stale, decide_eq_false_iff_not]
    rintro ⟨hobserve, -⟩
    rw [hobserve] at hmethod
    exact Bool.noConfusion hmethod
  rcases h with h | h <;> simp [respondTo, h, hmethod, hstale]

omit htoken in
lemma reissueCount_nil (rs : List Reception) : reissueCount [] rs = 0 := by
  have hnone (behind : ClientCB → List UInt8) (now : UInt64) (token : List UInt8) :
      getClientCBUsingToken behind now token [] = ⟨[], none⟩ := by
    rw [getClientCBUsingToken]
    split <;> rfl
  induction rs with
  | nil => rfl
  | cons r rest ih =>
    rw [reissueCount, reissued, receive, ocHandleResponse, hnone]
    exact (Nat.zero_add _).trans ih

include hmethod

/-- What a response comes to: it is passed over, it is lost, it ends the request, or the application
keeps the callback. -/
lemma receive_cases (hr : r.response.token = cb.token) :
    (r.waits = true ∨ r.reissues cb.method = true) ∧ r.ends cb.method = false ∧
      receive [cb] r = ([cb], none) ∨
    (r.waits = false ∧ r.reissues cb.method = false) ∧
      (r.isRead cb.method = false ∧ r.ends cb.method = false ∧ receive [cb] r = ([cb], none) ∨
        r.isRead cb.method = true ∧ (receive [cb] r).2.isSome = true ∧
          (r.ends cb.method = true ∧ (receive [cb] r).1 = [] ∨
            r.ends cb.method = false ∧ r.world.keeps = true ∧ ∃ cb',
              (receive [cb] r).1 = [cb'] ∧ cb'.token = cb.token ∧ cb'.method = cb.method)) := by
  rw [receive_single htoken hr]
  cases hresult : r.response.result with
  | empty | requestEntityIncomplete =>
    simp [Reception.waits, Reception.ends, respondTo, hresult, CallbackSearch.after,
      CallbackSearch.cbList]
  | retransmitTimeout =>
    simp [Reception.waits, Reception.ends, Reception.reissues, Reception.isRead, respondTo, hresult,
      CallbackSearch.after, CallbackSearch.deleted]
  | notAcceptable =>
    by_cases h : r.response.formatUndefined = true ∧ cb.method ≠ .noMethod ∧ r.world.resends = true
    · simp [Reception.waits, Reception.ends, Reception.reissues, Reception.isRead, respondTo,
        hresult, h, CallbackSearch.after, CallbackSearch.cbList]
    · simp [Reception.waits, Reception.ends, Reception.reissues, Reception.isRead, respondTo,
        hresult, h, CallbackSearch.after, CallbackSearch.deleted]
  | content | other =>
    have hread := respondTo_regular hmethod r (by simp [hresult])
    rw [hread]
    have hisRead : r.isRead cb.method = decide ¬ (cb.method = .noMethod ∨ r.world.readable = false ∨
        maxHeaderOptions < r.response.numRcvdVendorSpecificHeaderOptions) := by
      simp [Reception.isRead, hresult, not_or]
    split_ifs with hlost hkeeps
    · simp [Reception.waits, Reception.ends, Reception.reissues, hresult, hisRead, hlost,
        CallbackSearch.after, CallbackSearch.cbList]
    · simp [Reception.waits, Reception.ends, Reception.reissues, hresult, hisRead, hlost, hkeeps,
        CallbackSearch.after, CallbackSearch.changed]
    · simp [Reception.waits, Reception.ends, Reception.reissues, hresult, hisRead, hlost, hkeeps,
        CallbackSearch.after, CallbackSearch.deleted]

lemma receive_registered (hr : r.response.token = cb.token) :
    (r.ends cb.method = false ∧ ∃ cb', (receive [cb] r).1 = [cb'] ∧ cb'.token = cb.token ∧
      cb'.method = cb.method) ∨
    r.ends cb.method = true ∧ r.reissues cb.method = false ∧ (receive [cb] r).1 = [] := by
  rcases receive_cases htoken hmethod hr with
    ⟨-, hends, heq⟩ | ⟨⟨-, hno⟩, ⟨-, hends, heq⟩ | ⟨-, -, ⟨hends, heq⟩ | ⟨hends, -, hkept⟩⟩⟩
  · exact .inl ⟨hends, cb, by rw [heq], rfl, rfl⟩
  · exact .inl ⟨hends, cb, by rw [heq], rfl, rfl⟩
  · exact .inr ⟨hends, hno, heq⟩
  · exact .inl ⟨hends, hkept⟩

lemma reissueCount_eq {rs : List Reception} (hrs : ∀ r ∈ rs, r.response.token = cb.token) :
    reissueCount [cb] rs = (rs.takeWhile (!·.ends cb.method)).countP (·.reissues cb.method) := by
  induction rs generalizing cb with
  | nil => rfl
  | cons r rest ih =>
    obtain ⟨hr, hrest⟩ := forall_mem_cons.1 hrs
    rw [reissueCount, reissued_single htoken hr]
    rcases receive_registered htoken hmethod hr with
      ⟨hends, cb', heq, htoken', hmethod'⟩ | ⟨hends, hno, heq⟩
    · rw [heq, ih (by rwa [htoken']) (by rwa [hmethod']) (by rwa [htoken']), hmethod',
        takeWhile_cons_of_pos (by simp [hends]), countP_cons, Nat.add_comm]
      cases r.reissues cb.method <;> rfl
    · rw [heq, hno, reissueCount_nil, takeWhile_cons_of_neg (by simp [hends])]
      rfl

lemma firstAnswered_iff {rs : List Reception} (hrs : ∀ r ∈ rs, r.response.token = cb.token) :
    FirstAnswered [cb] rs ↔ ∀ r, rs.find? (fun r => !r.waits && !r.reissues cb.method) = some r →
      r.isRead cb.method = true := by
  induction rs with
  | nil => exact iff_of_true trivial nofun
  | cons r rest ih =>
    obtain ⟨hr, hrest⟩ := forall_mem_cons.1 hrs
    rw [FirstAnswered, reissued_single htoken hr]
    rcases receive_cases htoken hmethod hr with
      ⟨hover, -, heq⟩ | ⟨⟨hwaits, hno⟩, ⟨hlost, -, heq⟩ | ⟨hread, hcalled, hkept⟩⟩
    · rw [if_pos hover, heq, ih hrest, find?_cons_of_neg (by rcases hover with h | h <;> simp [h])]
    · rw [if_neg (by simp [hwaits, hno]), find?_cons_of_pos (by simp [hwaits, hno]), heq]
      simp [hlost]
    · rw [if_neg (by simp [hwaits, hno]), find?_cons_of_pos (by simp [hwaits, hno])]
      refine iff_of_true ⟨hcalled, fun hne => ?_⟩ fun r' h' => some.inj h' ▸ hread
      rcases hkept with ⟨-, hnil⟩ | ⟨-, hkeeps, -⟩
      · exact absurd hnil hne
      · exact hkeeps

end Retry

/-- A request is sent again at most once, and its first answer is handed on, if one response asks
for that while the callback is registered and the first answer can be read, and only then. -/
theorem request_ends_iff {cb : ClientCB} {rs : List Reception}
    (htoken : cb.token ≠ [] ∧ cb.token.length ≤ caMaxTokenLen)
    (hmethod : cb.method.observes = false) (hrs : ∀ r ∈ rs, r.response.token = cb.token) :
    reissueCount [cb] rs ≤ 1 ∧ FirstAnswered [cb] rs ↔
      (rs.takeWhile (!·.ends cb.method)).countP (·.reissues cb.method) ≤ 1 ∧
        ∀ r, rs.find? (fun r => !r.waits && !r.reissues cb.method) = some r →
          r.isRead cb.method = true := by
  rw [reissueCount_eq htoken hmethod hrs, firstAnswered_iff htoken hmethod hrs]

def getCB : ClientCB := ⟨[1], 7, .get, 0, 0⟩

def refused : Reception :=
  ⟨⟨fun _ => [], 0, 1000, true, true, false⟩, ⟨[1], .notAcceptable, [], true⟩⟩

theorem request_resent_twice :
    ¬ ∀ (cb : ClientCB) (rs : List Reception), cb.method.observes = false →
      (∀ r ∈ rs, r.response.token = cb.token) →
        reissueCount [cb] rs ≤ 1 ∧ FirstAnswered [cb] rs := by
  intro h
  have hcount := (h getCB [refused, refused] rfl (by simp [refused, getCB])).1
  exact absurd hcount (by decide)

theorem request_resent_once :
    reissueCount [getCB] [refused] ≤ 1 ∧ FirstAnswered [getCB] [refused] :=
  (request_ends_iff (by decide) rfl (by simp [refused, getCB])).2 ⟨by decide, nofun⟩

end Iochibity.Ocf
