/-
Pings over TCP, `caping.c`: the list of those that wait for a pong, and its lock.

Callbacks of pings are left out, but for what `cb` gets. Allocations succeed.
-/
import Iochibity.Coap.Message
import Iochibity.Lib.Runs
import Iochibity.Lib.StableOrder
import Iochibity.Lib.FirstMatch

namespace Iochibity.Coap.Ping

open UniqueKeys (Unique)
open List

/-- A token of `CAGenerateSignalingMessage`. -/
structure SignalingToken where
  bytes : List UInt8
  length_eq : bytes.length = caMaxTokenLen
  deriving DecidableEq

structure PingInfo where
  endpoint : CAEndpoint
  withCustody : Bool
  token : SignalingToken
  timeStamp : UInt64
  deriving DecidableEq

def PingInfo.addr (ping : PingInfo) : CString := ping.endpoint.addr

/-- `strncmp` finds no difference in so many bytes. -/
def strncmpEqual : ℕ → List UInt8 → List UInt8 → Bool
  | 0, _, _ => true
  | n + 1, a :: as, b :: bs => a = b && (a = 0 || strncmpEqual n as bs)
  | _ + 1, _, _ => false

/-- The ping that a pong is for: the same address, and a token that is the same string as far as
that of the pong goes. -/
def PingInfo.isAnsweredBy (endpoint : CAEndpoint) (token : CAToken) (ping : PingInfo) : Bool :=
  ping.addr = endpoint.addr ∧ strncmpEqual token.bytes.length ping.token.bytes token.bytes = true

/-! ## Calls -/

/-- How the search of `CASendPingMessage` ends, if it does. -/
inductive DuplicateSearch
  | found
  | ended
  | goesOn
  deriving DecidableEq

/-- The loop of `CASendPingMessage`: `cur` stays where it is. -/
def duplicateSearch (addr : CString) : ℕ → List PingInfo → DuplicateSearch
  | 0, _ => .goesOn
  | _ + 1, [] => .ended
  | turns + 1, ping :: pings =>
    if ping.addr = addr then .found else duplicateSearch addr turns (ping :: pings)

/-- The lock of the list: free, held by a call that has returned, or waited for or held by a
call that does not end. -/
inductive ListLock
  | free
  | held
  | never
  deriving DecidableEq

structure PingState where
  pings : List PingInfo
  lock : ListLock

inductive PingCall
  | send (now : UInt64) (endpoint : CAEndpoint) (withCustody : Bool)
      (generated : Option SignalingToken)
  | pong (endpoint : CAEndpoint) (token : CAToken)
  | process (now : UInt64)

inductive PingEvent
  | reported (ping : PingInfo)
  | disconnected (endpoint : CAEndpoint)
  deriving DecidableEq

section

variable (now : UInt64) (endpoint : CAEndpoint) (withCustody : Bool)
  (generated : Option SignalingToken) (pings : List PingInfo)

/-- `CASendPingMessage`, behind its search. -/
def addPing : List PingInfo :=
  match generated with
  | none => pings
  | some token => ⟨endpoint, withCustody, token, now⟩ :: pings

/-- `CASendPingMessage`: as many turns of its search as there are pings and one more. -/
def caSendPingMessage : PingState :=
  match duplicateSearch endpoint.addr (pings.length + 1) pings with
  | .found => ⟨pings, .held⟩
  | .goesOn => ⟨pings, .never⟩
  | .ended => ⟨addPing now endpoint withCustody generated pings, .free⟩

end

def caPongReceivedCallback (endpoint : CAEndpoint) (token : CAToken) :
    List PingInfo → List PingInfo × Option PingInfo
  | [] => ([], none)
  | ping :: pings =>
    if ping.isAnsweredBy endpoint token then (pings, some ping)
    else
      let rest := caPongReceivedCallback endpoint token pings
      (ping :: rest.1, rest.2)

section

variable (timeout now : UInt64)

/-- `CAProcessPing` keeps the ping. -/
def PingInfo.isKept (ping : PingInfo) : Bool :=
  now < ping.timeStamp + timeout

def caProcessPing (pings : List PingInfo) : List PingInfo × List PingEvent :=
  (pings.takeWhile (PingInfo.isKept timeout now),
    (pings.dropWhile (PingInfo.isKept timeout now)).map (.disconnected ·.endpoint))

def pingStep (timeout : UInt64) (state : PingState) (call : PingCall) :
    PingState × List PingEvent :=
  if state.lock ≠ .free then ({ state with lock := .never }, [])
  else
    match call with
    | .send now endpoint withCustody generated =>
      (caSendPingMessage now endpoint withCustody generated state.pings, [])
    | .pong endpoint token =>
      let received := caPongReceivedCallback endpoint token state.pings
      ({ state with pings := received.1 }, received.2.toList.map .reported)
    | .process now =>
      let processed := caProcessPing timeout now state.pings
      ({ state with pings := processed.1 }, processed.2)

/-! ## What calls are for -/

def PingInfo.isExpired (ping : PingInfo) : Bool :=
  ping.timeStamp.toNat + timeout.toNat ≤ now.toNat

def PongExact (pings : List PingInfo) (endpoint : CAEndpoint) (token : CAToken)
    (pings' : List PingInfo) (events : List PingEvent) : Prop :=
  (pings' = pings ∧ events = [])
    ∨ ∃ before ping behind, pings = before ++ ping :: behind ∧ pings' = before ++ behind
      ∧ events = [.reported ping]
      ∧ ping.addr = endpoint.addr ∧ ping.token.bytes = token.bytes

def ProcessExact (pings pings' : List PingInfo) (events : List PingEvent) : Prop :=
  pings' = pings.filter (!·.isExpired timeout now)
    ∧ events = (pings.filter (PingInfo.isExpired timeout now)).map (.disconnected ·.endpoint)

end

def NewestFirst (pings : List PingInfo) : Prop :=
  pings.Pairwise (fun newer older => older.timeStamp ≤ newer.timeStamp)

/-- **A call is right**: it ends and gives the lock back, the list is sorted with one ping per
address, and a pong and a pass do exactly what they are for. -/
structure CallExact (timeout : UInt64) (state : PingState) (call : PingCall) : Prop where
  released : (pingStep timeout state call).1.lock = .free
  unique : Unique PingInfo.addr (pingStep timeout state call).1.pings
  sorted : NewestFirst (pingStep timeout state call).1.pings
  pong : ∀ endpoint token, call = .pong endpoint token →
    PongExact state.pings endpoint token (pingStep timeout state call).1.pings
      (pingStep timeout state call).2
  process : ∀ now, call = .process now →
    ProcessExact timeout now state.pings (pingStep timeout state call).1.pings
      (pingStep timeout state call).2

/-- A ping is sent only when none waits for its pong; a pong from the address of a ping, taken for
its pong, has its token; and the end of the timeout of a ping that is cut off has not wrapped
around. -/
def CallClean (timeout : UInt64) (state : PingState) : PingCall → Prop
  | .send _ _ _ _ => state.pings = []
  | .pong endpoint token => ∀ ping ∈ state.pings, ping.isAnsweredBy endpoint token = true →
      ping.token.bytes = token.bytes
  | .process now => ∀ ping ∈ state.pings, ping.timeStamp + timeout ≤ now →
      ping.timeStamp.toNat + timeout.toNat < 2 ^ 64

variable {ping : PingInfo}

lemma duplicateSearch_goesOn {addr : CString} (h : ping.addr ≠ addr) (pings : List PingInfo)
    (turns : ℕ) :
    duplicateSearch addr turns (ping :: pings) = .goesOn := by
  induction turns with
  | zero => rfl
  | succ turns ih => rw [duplicateSearch, if_neg h, ih]

section

variable (now : UInt64) (endpoint : CAEndpoint) (withCustody : Bool)
  (generated : Option SignalingToken)

lemma caSendPingMessage_lock_iff (pings : List PingInfo) :
    (caSendPingMessage now endpoint withCustody generated pings).lock = .free ↔ pings = [] := by
  unfold caSendPingMessage
  cases pings with
  | nil => exact iff_of_true rfl rfl
  | cons ping pings =>
    refine iff_of_false ?_ (cons_ne_nil _ _)
    by_cases hsame : ping.addr = endpoint.addr
    · rw [length_cons, duplicateSearch, if_pos hsame]
      exact nofun
    rw [duplicateSearch_goesOn hsame]
    exact nofun

lemma addPing_nil_length : (addPing now endpoint withCustody generated []).length ≤ 1 := by
  cases generated with
  | none => exact Nat.zero_le 1
  | some token => exact Nat.le_refl 1

end

/-! ## Pongs -/

lemma caPongReceivedCallback_spec (endpoint : CAEndpoint) (token : CAToken)
    (pings : List PingInfo) :
    (caPongReceivedCallback endpoint token pings = (pings, none)
        ∧ ∀ ping ∈ pings, ping.isAnsweredBy endpoint token = false)
      ∨ ∃ before ping behind, pings = before ++ ping :: behind
        ∧ caPongReceivedCallback endpoint token pings = (before ++ behind, some ping)
        ∧ ping.isAnsweredBy endpoint token = true := by
  induction pings with
  | nil => exact .inl ⟨rfl, fun _ hmem => nomatch hmem⟩
  | cons ping pings ih =>
    rw [caPongReceivedCallback]
    by_cases hanswered : ping.isAnsweredBy endpoint token = true
    · rw [if_pos hanswered]
      exact .inr ⟨[], ping, pings, rfl, rfl, hanswered⟩
    rw [if_neg hanswered]
    obtain ⟨hsame, hnone⟩ | ⟨before, other, behind, hsplit, htaken, hother⟩ := ih
    · rw [hsame]
      exact .inl ⟨rfl, forall_mem_cons.mpr ⟨Bool.eq_false_of_not_eq_true hanswered, hnone⟩⟩
    rw [htaken]
    exact .inr ⟨ping :: before, other, behind, by rw [hsplit]; rfl, rfl, hother⟩

variable {pings : List PingInfo}

lemma ping_eq_of_addr (hunique : Unique PingInfo.addr pings) {ping' : PingInfo} (h : ping ∈ pings)
    (h' : ping' ∈ pings) (haddr : ping.addr = ping'.addr) : ping = ping' :=
  inj_on_of_nodup_map hunique h h' haddr

lemma isAnsweredBy_addr {endpoint : CAEndpoint} {token : CAToken}
    (h : ping.isAnsweredBy endpoint token = true) : ping.addr = endpoint.addr :=
  (of_decide_eq_true h).1

lemma pongExact_iff (hunique : Unique PingInfo.addr pings) (endpoint : CAEndpoint)
    (token : CAToken) :
    PongExact pings endpoint token (caPongReceivedCallback endpoint token pings).1
        ((caPongReceivedCallback endpoint token pings).2.toList.map .reported)
      ↔ ∀ ping ∈ pings, ping.isAnsweredBy endpoint token = true →
        ping.token.bytes = token.bytes := by
  obtain ⟨hsame, hnone⟩ | ⟨before, ping, behind, hsplit, htaken, hanswered⟩ :=
    caPongReceivedCallback_spec endpoint token pings
  · rw [hsame]
    refine iff_of_true (.inl ⟨rfl, rfl⟩) ?_
    intro ping hmem hanswered
    rw [hnone ping hmem] at hanswered
    exact nomatch hanswered
  have hmem : ping ∈ pings := by
    rw [hsplit]
    simp
  rw [htaken]
  constructor
  · rintro (⟨-, hevents⟩ | ⟨-, other, -, -, -, hevents, -, htoken⟩)
    · exact nomatch hevents
    · have hother : ping = other := PingEvent.reported.inj (List.cons.inj hevents).1
      intro ping' hmem' hanswered'
      have hself := ping_eq_of_addr hunique hmem' hmem
        ((isAnsweredBy_addr hanswered').trans (isAnsweredBy_addr hanswered).symm)
      rw [hself, hother]
      exact htoken
  · intro hall
    exact .inr ⟨before, ping, behind, hsplit, rfl, rfl, isAnsweredBy_addr hanswered,
      hall ping hmem hanswered⟩

/-! ## Passes -/

lemma ages_isExpired (hsorted : NewestFirst pings)
    (timeout now : UInt64) : SortedCut.Ages (PingInfo.isExpired timeout now) pings := by
  refine List.Pairwise.imp ?_ hsorted
  intro newer older hle hexpired
  have hstamp := UInt64.le_iff_toNat_le.mp hle
  have hold := of_decide_eq_true hexpired
  refine decide_eq_true ?_
  omega

lemma isKept_eq_false_iff (timeout now : UInt64) (ping : PingInfo) :
    ping.isKept timeout now = false ↔ ping.timeStamp + timeout ≤ now := by
  unfold PingInfo.isKept
  simp

lemma isExpired_iff (timeout now : UInt64) (ping : PingInfo) :
    ping.isExpired timeout now = true ↔ ping.timeStamp + timeout ≤ now
        ∧ ping.timeStamp.toNat + timeout.toNat < 2 ^ 64 := by
  unfold PingInfo.isExpired
  have hnow := now.toNat_lt
  rw [decide_eq_true_iff, UInt64.le_iff_toNat_le, UInt64.toNat_add]
  constructor
  · intro h
    have hlt : ping.timeStamp.toNat + timeout.toNat < 2 ^ 64 := by omega
    rw [Nat.mod_eq_of_lt hlt]
    exact ⟨h, hlt⟩
  · rintro ⟨h, hlt⟩
    rwa [Nat.mod_eq_of_lt hlt] at h

lemma processExact_iff (hsorted : NewestFirst pings) (timeout now : UInt64) :
    ProcessExact timeout now pings (caProcessPing timeout now pings).1
        (caProcessPing timeout now pings).2
      ↔ ∀ ping ∈ pings, ping.timeStamp + timeout ≤ now →
        ping.timeStamp.toNat + timeout.toNat < 2 ^ 64 := by
  have hkept : ∀ ping ∈ pings, ping.isExpired timeout now = true →
      ping.isKept timeout now = false := by
    intro ping _ hexpired
    exact (isKept_eq_false_iff timeout now ping).mpr
      ((isExpired_iff timeout now ping).mp hexpired).1
  have hcut := SortedCut.cut_iff (ages_isExpired hsorted timeout now) hkept
  have hall : (∀ ping ∈ pings, ping.isKept timeout now = false → ping.isExpired timeout now = true)
      ↔ ∀ ping ∈ pings, ping.timeStamp + timeout ≤ now →
        ping.timeStamp.toNat + timeout.toNat < 2 ^ 64 := by
    refine forall₂_congr (fun ping _ => ?_)
    rw [isKept_eq_false_iff, isExpired_iff]
    exact ⟨fun h hle => (h hle).2, fun h hle => ⟨hle, h hle⟩⟩
  rw [← hall, ← hcut]
  unfold ProcessExact caProcessPing
  dsimp only
  constructor
  · rintro ⟨hkept, -⟩
    -- What is cut off is what is not kept.
    refine ⟨hkept, ?_⟩
    have hboth := SortedCut.cut_of_ages (ages_isExpired hsorted timeout now)
    have hsame : pings.takeWhile (PingInfo.isKept timeout now)
        ++ pings.dropWhile (PingInfo.isKept timeout now)
        = pings.takeWhile (!·.isExpired timeout now)
          ++ pings.dropWhile (!·.isExpired timeout now) := by
      simp
    rw [hkept, ← hboth.1] at hsame
    rw [append_cancel_left hsame, hboth.2]
  · rintro ⟨hkept, hdropped⟩
    exact ⟨hkept, by rw [hdropped]⟩

/-! ## Calls -/

structure PingOk (state : PingState) : Prop where
  free : state.lock = .free
  unique : Unique PingInfo.addr state.pings
  sorted : NewestFirst state.pings

variable {state : PingState}

lemma pingStep_free (h : state.lock = .free) (timeout : UInt64) (call : PingCall) :
    pingStep timeout state call
      = match call with
        | .send now endpoint withCustody generated =>
          (caSendPingMessage now endpoint withCustody generated state.pings, [])
        | .pong endpoint token =>
          ({ state with pings := (caPongReceivedCallback endpoint token state.pings).1 },
            (caPongReceivedCallback endpoint token state.pings).2.toList.map .reported)
        | .process now =>
          ({ state with pings := (caProcessPing timeout now state.pings).1 },
            (caProcessPing timeout now state.pings).2) := by
  unfold pingStep
  rw [if_neg (· h)]

lemma PingOk.sublist (h : PingOk state)
    (hsub : pings.Sublist state.pings) : PingOk { state with pings := pings } :=
  ⟨h.free, h.unique.sublist hsub, List.Pairwise.sublist hsub h.sorted⟩

lemma pingOk_of_length (h : pings.length ≤ 1) :
    PingOk ⟨pings, .free⟩ := by
  cases pings with
  | nil => exact ⟨rfl, UniqueKeys.unique_nil, List.Pairwise.nil⟩
  | cons ping pings =>
    have hnil : pings = [] := by
      rw [length_cons] at h
      exact length_eq_zero_iff.mp (by omega)
    rw [hnil]
    exact ⟨rfl, nodup_singleton _, pairwise_singleton _ _⟩

lemma pingStep_ok {timeout : UInt64} {call : PingCall} (h : PingOk state)
    (hclean : CallClean timeout state call) : PingOk (pingStep timeout state call).1 := by
  rw [pingStep_free h.free]
  cases call with
  | send now endpoint withCustody generated =>
    rw [show state.pings = [] from hclean]
    exact pingOk_of_length (addPing_nil_length now endpoint withCustody generated)
  | pong endpoint token =>
    refine h.sublist ?_
    obtain ⟨hsame, -⟩ | ⟨before, ping, behind, hsplit, htaken, -⟩ :=
      caPongReceivedCallback_spec endpoint token state.pings
    · rw [hsame]
    rw [htaken, hsplit]
    exact (List.Sublist.refl before).append (sublist_cons_self ping behind)
  | process now => exact h.sublist (takeWhile_sublist _)

lemma callExact_iff {timeout : UInt64} {call : PingCall}
    (h : PingOk state) : CallExact timeout state call ↔ CallClean timeout state call := by
  constructor
  · intro hexact
    cases call with
    | send now endpoint withCustody generated =>
      have hreleased := hexact.released
      rw [pingStep_free h.free] at hreleased
      exact (caSendPingMessage_lock_iff now endpoint withCustody generated state.pings).mp hreleased
    | pong endpoint token =>
      have hpong := hexact.pong endpoint token rfl
      rw [pingStep_free h.free] at hpong
      exact (pongExact_iff h.unique endpoint token).mp hpong
    | process now =>
      have hprocess := hexact.process now rfl
      rw [pingStep_free h.free] at hprocess
      exact (processExact_iff h.sorted timeout now).mp hprocess
  · intro hclean
    have hok := pingStep_ok h hclean
    refine ⟨hok.free, hok.unique, hok.sorted, ?_, ?_⟩
    · rintro endpoint token rfl
      rw [pingStep_free h.free]
      exact (pongExact_iff h.unique endpoint token).mpr hclean
    · rintro now rfl
      rw [pingStep_free h.free]
      exact (processExact_iff h.sorted timeout now).mpr hclean

/-- **The calls of a run are right** exactly when they are clean, for any timeout. -/
theorem pings_exact_iff (timeout : UInt64) (calls : List PingCall) :
    Runs.Along (pingStep timeout) (CallExact timeout) ⟨[], .free⟩ calls
      ↔ Runs.Along (pingStep timeout) (CallClean timeout) ⟨[], .free⟩ calls := by
  have hstart : PingOk ⟨[], .free⟩ := pingOk_of_length (Nat.zero_le 1)
  exact Runs.along_iff PingOk
    (fun state call hok _ => ⟨callExact_iff hok, fun hclean => pingStep_ok hok hclean⟩)
    hstart (Runs.along_true _ calls)

def countingToken : SignalingToken := ⟨[1, 2, 3, 4, 5, 6, 7, 8], rfl⟩

theorem secondPeer_never_ends :
    ¬ Runs.Along (pingStep 10000) (CallExact 10000) ⟨[], .free⟩
      [.send 0 ⟨0, addrOne, 1⟩ false (some countingToken),
        .send 1 ⟨0, addrTwo, 1⟩ false (some countingToken)] := by
  rintro ⟨-, hexact, -⟩
  exact absurd hexact.released (by decide)

end Iochibity.Coap.Ping
