/-
The numbers of notifications, from `incrementSequenceNumber` in `ocstack.c` through the observe
option of `HandleSingleResponse` to the staleness test of `OCHandleResponse`.
-/
import Iochibity.Ocf.ClientCallback

namespace Iochibity.Ocf

open Coap (caMaxTokenLen)
open List
open Runs (run run_cons)

def incrementSequenceNumber (sequenceNum : UInt32) : UInt32 :=
  if sequenceNum + 1 = maxSequenceNumber then ocOffsetSequenceNumber + 1 else sequenceNum + 1

abbrev HeaderOptions :=
  { options : List (UInt16 × List UInt8) // options.length ≤ maxHeaderOptions }

/-- A notification as it is given to `HandleSingleResponse`. -/
structure SentNotification where
  observationOption : UInt32
  options : HeaderOptions
  deriving DecidableEq

/-- What happens to the resource: a notification goes to the observer, or only to others, or the
observer has timed out. -/
inductive NotifyEvent
  | notify (options : HeaderOptions)
  | notifyOthers
  | timedOut (options : HeaderOptions)

/-- `OCNotifyAllObservers`, `OCNotifyListOfObservers` and `CheckTimedOutObserver`. -/
def notifyStep (sequenceNum : UInt32) : NotifyEvent → UInt32 × List SentNotification
  | .notify options =>
    (incrementSequenceNumber sequenceNum, [⟨incrementSequenceNumber sequenceNum, options⟩])
  | .notifyOthers => (incrementSequenceNumber sequenceNum, [])
  | .timedOut options => (sequenceNum, [⟨sequenceNum, options⟩])

def NotifyEvent.increments : NotifyEvent → Bool
  | .notify _ | .notifyOthers => true
  | .timedOut _ => false

def writeObservationOption : ℕ → UInt32 → List UInt8
  | 0, _ => []
  | i + 1, observationOption =>
    writeObservationOption i (observationOption >>> 8) ++ [observationOption.toUInt8]

def SentNotification.headerOptions (sent : SentNotification) : List (UInt16 × List UInt8) :=
  if sent.observationOption ≠ noObserveOption then
    (coapOptionObserve, writeObservationOption 4 sent.observationOption) :: sent.options.val
  else sent.options.val

def SentNotification.response (token : List UInt8) (sent : SentNotification) : ClientResponse :=
  ⟨token, .content, sent.headerOptions, false⟩

/-! ## The number comes through -/

lemma toNat_shiftLeft_or (high : UInt32) (byte : UInt8) (hhigh : high.toNat < 2 ^ 24) :
    ((high <<< 8) ||| byte.toUInt32).toNat = high.toNat * 256 + byte.toNat := by
  have hbyte : byte.toNat < 2 ^ 8 := byte.toNat_lt
  have hshift : (high <<< 8).toNat = high.toNat <<< 8 := by
    rw [UInt32.toNat_shiftLeft]
    apply Nat.mod_eq_of_lt
    rw [show (8 : UInt32).toNat % 32 = 8 from rfl, Nat.shiftLeft_eq]
    omega
  rw [UInt32.toNat_or, UInt8.toNat_toUInt32, hshift, ← Nat.shiftLeft_add_eq_or_of_lt hbyte,
    Nat.shiftLeft_eq]

lemma toNat_shiftRight_eight (n : UInt32) : (n >>> 8).toNat = n.toNat / 256 := by
  rw [UInt32.toNat_shiftRight, show (8 : UInt32).toNat % 32 = 8 from rfl, Nat.shiftRight_eq_div_pow]

lemma read_writeObservationOption (n : UInt32) (i : ℕ) (hi : i ≤ 4) (hn : n.toNat < 256 ^ i) :
    (writeObservationOption i n).foldl (fun (observationOption : UInt32) (byte : UInt8) =>
      (observationOption <<< 8) ||| byte.toUInt32) 0 = n
      ∧ (writeObservationOption i n).length = i := by
  induction i generalizing n with
  | zero =>
    refine ⟨UInt32.toNat_inj.mp ?_, rfl⟩
    rw [pow_zero] at hn
    exact (Nat.lt_one_iff.mp hn).symm
  | succ i ih =>
    have hhigh : (n >>> 8).toNat < 256 ^ i := by
      rw [toNat_shiftRight_eight]
      rw [pow_succ] at hn
      exact Nat.div_lt_of_lt_mul (by rwa [Nat.mul_comm] at hn)
    obtain ⟨hread, hlength⟩ := ih (n >>> 8) (by omega) hhigh
    rw [writeObservationOption, foldl_concat, length_append, hread, hlength]
    refine ⟨UInt32.toNat_inj.mp ?_, rfl⟩
    have hlt := n.toNat_lt
    rw [toNat_shiftLeft_or _ _ (by rw [toNat_shiftRight_eight]; omega), toNat_shiftRight_eight,
      UInt32.toNat_toUInt8]
    omega

lemma response_sequenceNumber (token : List UInt8) (sent : SentNotification)
    (hobserve : sent.observationOption ≠ noObserveOption) :
    (sent.response token).sequenceNumber = sent.observationOption := by
  obtain ⟨hread, hlength⟩ := read_writeObservationOption sent.observationOption 4
    (Nat.le_refl 4) sent.observationOption.toNat_lt
  unfold ClientResponse.sequenceNumber ClientResponse.firstObserve SentNotification.response
    SentNotification.headerOptions
  rw [if_pos hobserve]
  show readObservationOption (writeObservationOption 4 sent.observationOption)
    = sent.observationOption
  rw [readObservationOption, take_of_length_le (by omega), hread]

structure ClientObservation where
  token : List UInt8
  handle : ℕ
  token_ne : token ≠ []
  token_le : token.length ≤ caMaxTokenLen

variable (observation : ClientObservation) (sequenceNumber ttl : UInt32)

/-- The callbacks with this one, once it has passed on `sequenceNumber`. -/
def ClientObservation.cbList : List ClientCB :=
  [⟨observation.token, observation.handle, .observe, sequenceNumber, ttl⟩]

structure Delivery where
  sent : SentNotification
  behind : ClientCB → List UInt8
  now : UInt64
  ticksPerSecond : UInt32
  resends : Bool

def Delivery.world (delivery : Delivery) : ResponseWorld :=
  ⟨delivery.behind, delivery.now, delivery.ticksPerSecond, delivery.resends, true, true⟩

def deliverStep (token : List UInt8) (cbList : List ClientCB) (delivery : Delivery) :
    List ClientCB × List UInt32 :=
  let (cbList, passed) := ocHandleResponse delivery.world (delivery.sent.response token) cbList
  (cbList, passed.toList)

def RolloverFree (sequenceNum : UInt32) : List NotifyEvent → Prop
  | [] => True
  | event :: events =>
    (event.increments = true → sequenceNum + 1 ≠ maxSequenceNumber)
      ∧ RolloverFree (notifyStep sequenceNum event).1 events

def sentBy (sequenceNum : UInt32) (events : List NotifyEvent) : List SentNotification :=
  (run notifyStep sequenceNum events).2

def passedOn (token : List UInt8) (cbList : List ClientCB) (deliveries : List Delivery) :
    List UInt32 :=
  (run (deliverStep token) cbList deliveries).2

/-- **Notifications survive rollover.** Delivered in order, all are passed on. Of those sent between
two rollovers, whatever arrives in whatever order, what is passed on is strictly increasing. No
number stands for no observe option. -/
structure SurvivesRollover (observation : ClientObservation) (ttl : UInt32)
    (events : List NotifyEvent) : Prop where
  in_order : ∀ deliveries : List Delivery,
    deliveries.map Delivery.sent = sentBy ocOffsetSequenceNumber events →
      passedOn observation.token (observation.cbList 0 ttl) deliveries
        = deliveries.map (·.sent.observationOption)
  reordered : ∀ earlier between later : List NotifyEvent, events = earlier ++ between ++ later →
    RolloverFree (run notifyStep ocOffsetSequenceNumber earlier).1 between →
    ∀ (sequenceNumber ttl : UInt32) (deliveries : List Delivery),
      (∀ delivery ∈ deliveries, delivery.sent
        ∈ sentBy (run notifyStep ocOffsetSequenceNumber earlier).1 between) →
      (passedOn observation.token (observation.cbList sequenceNumber ttl) deliveries).Pairwise
        (· < ·)
  marked : ∀ sent ∈ sentBy ocOffsetSequenceNumber events,
    sent.observationOption ≠ maxSequenceNumber + 1

/-! ## The number after so many increments -/

def numbersInUse : ℕ := maxSequenceNumber.toNat - 1

def incrementsBefore (increments : ℕ) : List NotifyEvent → List ℕ
  | [] => []
  | .notify _ :: events => (increments + 1) :: incrementsBefore (increments + 1) events
  | .notifyOthers :: events => incrementsBefore (increments + 1) events
  | .timedOut _ :: events => increments :: incrementsBefore increments events

variable (events : List NotifyEvent)

/-- The resource has been notified before the first notification, and from one to the next
the place among the numbers in use goes up. -/
def Climbs : Prop :=
  (∀ increments ∈ incrementsBefore 0 events, 0 < increments)
    ∧ (incrementsBefore 0 events).Pairwise (fun a b =>
        (a - 1) % numbersInUse < (b - 1) % numbersInUse)

def numberAfter (increments : ℕ) : ℕ :=
  if increments = 0 then 0 else (increments - 1) % numbersInUse + 1

lemma numberAfter_lt (increments : ℕ) : numberAfter increments < maxSequenceNumber.toNat := by
  unfold numberAfter
  have hmod := Nat.mod_lt (increments - 1) (show 0 < numbersInUse by decide)
  have hmax : numbersInUse + 1 = maxSequenceNumber.toNat := rfl
  split <;> omega

variable (sequenceNum : UInt32) (increments : ℕ)

lemma toNat_incrementSequenceNumber (hnum : sequenceNum.toNat = numberAfter increments) :
    (incrementSequenceNumber sequenceNum).toNat = numberAfter (increments + 1) := by
  have hlt := numberAfter_lt increments
  have hmax : maxSequenceNumber.toNat = 0xFFFFFF := rfl
  have hsucc : (sequenceNum + 1).toNat = numberAfter increments + 1 := by
    rw [UInt32.toNat_add, hnum]
    apply Nat.mod_eq_of_lt
    rw [show (1 : UInt32).toNat = 1 from rfl]
    omega
  have hafter : numberAfter (increments + 1) = increments % 0xFFFFFE + 1 := rfl
  have hbefore : numberAfter increments
      = if increments = 0 then 0 else (increments - 1) % 0xFFFFFE + 1 := rfl
  unfold incrementSequenceNumber
  by_cases hroll : sequenceNum + 1 = maxSequenceNumber
  · rw [if_pos hroll]
    rw [hroll, hmax] at hsucc
    rw [hafter, show (ocOffsetSequenceNumber + 1).toNat = 1 from rfl]
    split at hbefore <;> omega
  rw [if_neg hroll, hsucc, hafter]
  have hne : numberAfter increments + 1 ≠ 0xFFFFFF := by
    intro heq
    apply hroll
    apply UInt32.toNat_inj.mp
    rw [hsucc, heq, hmax]
  split at hbefore <;> omega

lemma sentBy_numbers (events : List NotifyEvent)
    (hnum : sequenceNum.toNat = numberAfter increments) :
    (sentBy sequenceNum events).map (·.observationOption.toNat)
      = (incrementsBefore increments events).map numberAfter := by
  induction events generalizing sequenceNum increments with
  | nil => rfl
  | cons event events ih =>
    unfold sentBy at ih ⊢
    rw [run_cons, map_append]
    have hincr := toNat_incrementSequenceNumber sequenceNum increments hnum
    cases event with
    | notify options =>
      rw [incrementsBefore, map_cons, ← hincr, ← ih _ _ hincr]
      rfl
    | notifyOthers =>
      rw [incrementsBefore, ← ih _ _ hincr]
      rfl
    | timedOut options =>
      rw [incrementsBefore, map_cons, ← hnum, ← ih _ _ hnum]
      rfl

/-! ## What is passed on -/

lemma getClientCBUsingToken_own (behind : ClientCB → List UInt8) (now : UInt64) :
    getClientCBUsingToken behind now observation.token (observation.cbList sequenceNumber ttl)
      = ⟨[], some
          (⟨observation.token, observation.handle, .observe, sequenceNumber, ttl⟩, [])⟩ := by
  have hlength : ¬ (caMaxTokenLen < observation.token.length ∨ observation.token = []) := by
    rintro (hlong | hempty)
    · exact absurd observation.token_le (by omega)
    · exact observation.token_ne hempty
  rw [getClientCBUsingToken, if_neg hlength, ClientObservation.cbList, searchCallbacks]
  exact if_pos (hasToken_self behind ⟨observation.token, _, _, _, _⟩)

lemma deliverStep_eq (delivery : Delivery)
    (hobserve : delivery.sent.observationOption ≠ noObserveOption) :
    ∃ ttl' : UInt32, deliverStep observation.token (observation.cbList sequenceNumber ttl) delivery
        = if delivery.sent.observationOption > ocOffsetSequenceNumber
              ∧ sequenceNumber ≤ maxSequenceNumber
              ∧ delivery.sent.observationOption ≤ sequenceNumber then
            (observation.cbList sequenceNumber ttl, [])
          else
            (observation.cbList delivery.sent.observationOption ttl',
              [delivery.sent.observationOption]) := by
  refine ⟨getTicks delivery.ticksPerSecond delivery.now
    (maxCbTimeoutSeconds * millisecondsPerSecond), ?_⟩
  have hnumber := response_sequenceNumber observation.token delivery.sent hobserve
  have hoptions : (delivery.sent.response observation.token).options
      = (coapOptionObserve, writeObservationOption 4 delivery.sent.observationOption)
          :: delivery.sent.options.val := if_pos hobserve
  have hheader : (delivery.sent.response observation.token).obsHeaderOpt = true := by
    rw [ClientResponse.obsHeaderOpt, hoptions, any_cons]
    rfl
  have hcount : (delivery.sent.response observation.token).numRcvdVendorSpecificHeaderOptions
      ≤ maxHeaderOptions := by
    rw [ClientResponse.numRcvdVendorSpecificHeaderOptions, ClientResponse.firstObserve, hoptions]
    exact delivery.sent.options.property
  have hsearch := getClientCBUsingToken_own observation sequenceNumber ttl delivery.behind
    delivery.now
  have hfate : respondTo delivery.world (delivery.sent.response observation.token)
      ⟨observation.token, observation.handle, .observe, sequenceNumber, ttl⟩
      = if delivery.sent.observationOption > ocOffsetSequenceNumber
            ∧ sequenceNumber ≤ maxSequenceNumber
            ∧ delivery.sent.observationOption ≤ sequenceNumber then (.stays, none)
        else
          (.changes delivery.sent.observationOption (getTicks delivery.ticksPerSecond
            delivery.now (maxCbTimeoutSeconds * millisecondsPerSecond)),
            some delivery.sent.observationOption) := by
    unfold respondTo
    rw [show (delivery.sent.response observation.token).result = .content from rfl]
    dsimp only
    rw [if_neg (by rw [hheader]; rintro ⟨-, -, h⟩; exact absurd h (by decide)), if_neg (by
      rintro (h | h | h)
      · exact absurd h (by decide)
      · exact Bool.noConfusion (show true = false from h)
      · omega), hnumber]
    simp [ClientCB.stale, Delivery.world]
  unfold deliverStep ocHandleResponse
  rw [show (delivery.sent.response observation.token).token = observation.token from rfl,
    show delivery.world.behind = delivery.behind from rfl,
    show delivery.world.now = delivery.now from rfl, hsearch]
  dsimp only
  rw [hfate]
  split <;> rfl

def lastNumber (sequenceNumber : UInt32) : ℕ :=
  if sequenceNumber ≤ maxSequenceNumber then sequenceNumber.toNat else 0

lemma passedOn_eq (deliveries : List Delivery)
    (hnumbers : ∀ delivery ∈ deliveries, 0 < delivery.sent.observationOption.toNat
      ∧ delivery.sent.observationOption.toNat < maxSequenceNumber.toNat) :
    passedOn observation.token (observation.cbList sequenceNumber ttl) deliveries
      = (run (Freshness.letPass UInt32.toNat) (lastNumber sequenceNumber)
          (deliveries.map (·.sent.observationOption))).2 := by
  induction deliveries generalizing sequenceNumber ttl with
  | nil => rfl
  | cons delivery deliveries ih =>
    obtain ⟨hpos, hlt⟩ := hnumbers delivery mem_cons_self
    have hrest := fun d hd => hnumbers d (mem_cons_of_mem _ hd)
    have hmax : maxSequenceNumber.toNat = 0xFFFFFF := rfl
    have hobserve : delivery.sent.observationOption ≠ noObserveOption := by
      intro heq
      have hvalue : noObserveOption.toNat = 0x1000000 := rfl
      rw [heq, hvalue] at hlt
      omega
    obtain ⟨ttl', hstep⟩ := deliverStep_eq observation sequenceNumber ttl delivery hobserve
    have hcompare : (delivery.sent.observationOption > ocOffsetSequenceNumber
          ∧ sequenceNumber ≤ maxSequenceNumber
          ∧ delivery.sent.observationOption ≤ sequenceNumber)
        ↔ ¬ lastNumber sequenceNumber < delivery.sent.observationOption.toNat := by
      unfold lastNumber
      rw [gt_iff_lt, UInt32.lt_iff_toNat_lt, UInt32.le_iff_toNat_le (b := sequenceNumber)]
      rw [show ocOffsetSequenceNumber.toNat = 0 from rfl]
      split <;> grind
    unfold passedOn at ih ⊢
    rw [run_cons, map_cons, run_cons, hstep, Freshness.letPass]
    by_cases hfresh : lastNumber sequenceNumber < delivery.sent.observationOption.toNat
    · rw [if_neg (by rw [hcompare]; exact not_not_intro hfresh), if_pos hfresh]
      dsimp only
      rw [ih _ _ hrest, lastNumber, if_pos (UInt32.le_iff_toNat_le.mpr (Nat.le_of_lt hlt))]
    rw [if_pos (hcompare.mpr hfresh), if_neg hfresh]
    dsimp only
    rw [ih _ _ hrest]

lemma passedOn_zero_twice (delivery : Delivery) (hzero : delivery.sent.observationOption = 0) :
    passedOn observation.token (observation.cbList sequenceNumber ttl) [delivery, delivery]
      = [0, 0] := by
  have hobserve : delivery.sent.observationOption ≠ noObserveOption := by
    rw [hzero]
    decide
  have hstep : ∀ sequenceNumber ttl : UInt32, ∃ ttl' : UInt32,
      deliverStep observation.token (observation.cbList sequenceNumber ttl) delivery
        = (observation.cbList 0 ttl', [0]) := by
    intro sequenceNumber ttl
    obtain ⟨ttl', hdeliver⟩ := deliverStep_eq observation sequenceNumber ttl delivery hobserve
    rw [hzero, if_neg (by rintro ⟨h, -⟩; exact absurd h (by decide))] at hdeliver
    exact ⟨ttl', hdeliver⟩
  obtain ⟨ttl₁, hfirst⟩ := hstep sequenceNumber ttl
  obtain ⟨ttl₂, hsecond⟩ := hstep 0 ttl₁
  unfold passedOn
  rw [run_cons, run_cons, hfirst]
  dsimp only
  rw [hsecond]
  rfl

/-! ## Exactly when they survive -/

lemma zero_sent (events : List NotifyEvent) (hnum : sequenceNum.toNat = numberAfter increments)
    (hzero : 0 ∈ incrementsBefore increments events) :
    ∃ (earlier later : List NotifyEvent) (options : HeaderOptions),
      events = earlier ++ [.timedOut options] ++ later
        ∧ (run notifyStep sequenceNum earlier).1 = 0 := by
  induction events generalizing sequenceNum increments with
  | nil => cases hzero
  | cons event events ih =>
    have hlater : ∀ increments', (notifyStep sequenceNum event).1.toNat
          = numberAfter increments' → 0 ∈ incrementsBefore increments' events →
        ∃ (earlier later : List NotifyEvent) (options : HeaderOptions),
          event :: events = earlier ++ [.timedOut options] ++ later
            ∧ (run notifyStep sequenceNum earlier).1 = 0 := by
      intro increments' hnum' hzero'
      obtain ⟨earlier, later, options, rfl, hrun⟩ := ih _ _ hnum' hzero'
      exact ⟨event :: earlier, later, options, rfl, hrun⟩
    have hincr := toNat_incrementSequenceNumber sequenceNum increments hnum
    cases event with
    | notify options =>
      rcases mem_cons.mp hzero with hnow | hthen
      · omega
      · exact hlater _ hincr hthen
    | notifyOthers => exact hlater _ hincr hzero
    | timedOut options =>
      rcases mem_cons.mp hzero with hnow | hthen
      · subst hnow
        exact ⟨[], events, options, rfl, UInt32.toNat_inj.mp hnum⟩
      · exact hlater _ hnum hthen

lemma sentBy_lt :
    ∀ sent ∈ sentBy ocOffsetSequenceNumber events, ∃ increments ∈ incrementsBefore 0 events,
        sent.observationOption.toNat = numberAfter increments := by
  intro sent hsent
  have hmem := mem_map_of_mem (f := fun sent => sent.observationOption.toNat) hsent
  rw [sentBy_numbers ocOffsetSequenceNumber 0 events rfl] at hmem
  obtain ⟨increments, hincr, heq⟩ := mem_map.mp hmem
  exact ⟨increments, hincr, heq.symm⟩

lemma numberAfter_pos {increments : ℕ} (hpos : 0 < increments) :
    numberAfter increments = (increments - 1) % numbersInUse + 1 :=
  if_neg (by omega)

lemma numbers_bounded (hpos : ∀ increments ∈ incrementsBefore 0 events, 0 < increments) :
    ∀ sent ∈ sentBy ocOffsetSequenceNumber events, 0 < sent.observationOption.toNat
      ∧ sent.observationOption.toNat < maxSequenceNumber.toNat := by
  intro sent hsent
  obtain ⟨increments, hincr, heq⟩ := sentBy_lt events sent hsent
  rw [heq]
  exact ⟨by rw [numberAfter_pos (hpos increments hincr)]; omega, numberAfter_lt increments⟩

lemma numbers_increasing_iff (hpos : ∀ increments ∈ incrementsBefore 0 events, 0 < increments) :
    List.IsChain (· < ·)
        (0 :: (sentBy ocOffsetSequenceNumber events).map (·.observationOption.toNat))
      ↔ (incrementsBefore 0 events).Pairwise (fun a b =>
          (a - 1) % numbersInUse < (b - 1) % numbersInUse) := by
  rw [sentBy_numbers ocOffsetSequenceNumber 0 events rfl, isChain_iff_pairwise,
    pairwise_cons, pairwise_map]
  have habove : ∀ number ∈ (incrementsBefore 0 events).map numberAfter, 0 < number := by
    intro number hnumber
    obtain ⟨increments, hincr, rfl⟩ := mem_map.mp hnumber
    rw [numberAfter_pos (hpos increments hincr)]
    omega
  rw [and_iff_right habove]
  apply List.Pairwise.iff_of_mem
  intro a b ha hb
  rw [numberAfter_pos (hpos a ha), numberAfter_pos (hpos b hb)]
  omega

def inOrder (sent : List SentNotification) : List Delivery :=
  sent.map (fun sent => ⟨sent, fun _ => [], 0, 0, false⟩)

lemma inOrder_sent (sent : List SentNotification) :
    (inOrder sent).map Delivery.sent = sent := by
  rw [inOrder, map_map]
  exact map_id _

lemma passedOn_all_iff (observation : ClientObservation) (ttl : UInt32)
    (events : List NotifyEvent) (hpos : ∀ increments ∈ incrementsBefore 0 events, 0 < increments)
    (deliveries : List Delivery)
    (hdeliveries : deliveries.map Delivery.sent = sentBy ocOffsetSequenceNumber events) :
    passedOn observation.token (observation.cbList 0 ttl) deliveries
        = deliveries.map (·.sent.observationOption)
      ↔ (incrementsBefore 0 events).Pairwise (fun a b =>
          (a - 1) % numbersInUse < (b - 1) % numbersInUse) := by
  have hnumbers : ∀ delivery ∈ deliveries, 0 < delivery.sent.observationOption.toNat
      ∧ delivery.sent.observationOption.toNat < maxSequenceNumber.toNat := by
    intro delivery hdelivery
    apply numbers_bounded events hpos
    rw [← hdeliveries]
    exact mem_map_of_mem hdelivery
  rw [passedOn_eq observation 0 ttl deliveries hnumbers, Freshness.admitted_all_iff,
    ← numbers_increasing_iff events hpos, ← hdeliveries, map_map, map_map]
  rfl

/-- **Notifications survive** exactly when the resource was notified before and the places
of those that go to the observer go up. -/
theorem survivesRollover_iff (observation : ClientObservation) (ttl : UInt32)
    (events : List NotifyEvent) :
    SurvivesRollover observation ttl events ↔ Climbs events := by
  constructor
  · intro hsurvives
    have hpos : ∀ increments ∈ incrementsBefore 0 events, 0 < increments := by
      intro increments hincr
      apply Nat.pos_of_ne_zero
      rintro rfl
      -- A notification with number 0 that arrives twice is passed on twice.
      obtain ⟨earlier, later, options, rfl, hrun⟩ :=
        zero_sent ocOffsetSequenceNumber 0 events rfl hincr
      have hpassed := hsurvives.reordered earlier [.timedOut options] later rfl
        ⟨nofun, trivial⟩ 0 0 [⟨⟨0, options⟩, fun _ => [], 0, 0, false⟩,
          ⟨⟨0, options⟩, fun _ => [], 0, 0, false⟩] (by
            intro delivery hdelivery
            rw [hrun]
            apply mem_singleton.mpr
            rcases mem_cons.mp hdelivery with rfl | hdelivery
            · rfl
            · rw [mem_singleton.mp hdelivery])
      rw [passedOn_zero_twice observation 0 0 _ rfl] at hpassed
      exact absurd hpassed (by decide)
    refine ⟨hpos, ?_⟩
    have hsent := inOrder_sent (sentBy ocOffsetSequenceNumber events)
    exact (passedOn_all_iff observation ttl events hpos _ hsent).mp (hsurvives.in_order _ hsent)
  · rintro ⟨hpos, hclimbs⟩
    refine ⟨?_, ?_, ?_⟩
    · intro deliveries hdeliveries
      exact (passedOn_all_iff observation ttl events hpos deliveries hdeliveries).mpr hclimbs
    · rintro earlier between later rfl - sequenceNumber ttl deliveries hdeliveries
      have hnumbers : ∀ delivery ∈ deliveries, 0 < delivery.sent.observationOption.toNat
          ∧ delivery.sent.observationOption.toNat < maxSequenceNumber.toNat := by
        intro delivery hdelivery
        apply numbers_bounded _ hpos
        have hsent := hdeliveries delivery hdelivery
        unfold sentBy at hsent ⊢
        rw [Runs.run_append, Runs.run_append]
        exact mem_append_left _ (mem_append_right _ hsent)
      rw [passedOn_eq observation sequenceNumber ttl deliveries hnumbers]
      apply (Freshness.admitted_increasing UInt32.toNat _ _).2.imp
      intro a b hlt
      exact UInt32.lt_iff_toNat_lt.mpr hlt
    · intro sent hsent heq
      obtain ⟨increments, -, hnumber⟩ := sentBy_lt events sent hsent
      have hlt := numberAfter_lt increments
      rw [← hnumber, heq] at hlt
      exact absurd hlt (by decide)

lemma incrementsBefore_notify (increments count : ℕ) (options : HeaderOptions) :
    incrementsBefore increments (List.replicate count (.notify options))
      = List.range' (increments + 1) count := by
  induction count generalizing increments with
  | zero => rfl
  | succ count ih => rw [replicate_succ, incrementsBefore, ih, range'_succ]

lemma oneByte_ne_nil : ([1] : List UInt8) ≠ [] := cons_ne_nil _ _

lemma oneByte_le : ([1] : List UInt8).length ≤ caMaxTokenLen := by decide

def anObservation : ClientObservation := ⟨[1], 7, oneByte_ne_nil, oneByte_le⟩

theorem rollover_silences :
    ¬ SurvivesRollover anObservation 0 (List.replicate 0xFFFFFF (.notify ⟨[], Nat.zero_le _⟩)) := by
  intro hsurvives
  have hincr := incrementsBefore_notify 0 0xFFFFFF ⟨[], Nat.zero_le _⟩
  have hsent := inOrder_sent (sentBy ocOffsetSequenceNumber
    (List.replicate 0xFFFFFF (.notify ⟨[], Nat.zero_le _⟩)))
  have hclimbs := (passedOn_all_iff anObservation 0 _ (by
    intro increments hmem
    rw [hincr, mem_range'_1] at hmem
    omega) _ hsent).mp (hsurvives.in_order _ hsent)
  rw [hincr, pairwise_iff_getElem] at hclimbs
  have hlast := hclimbs 0 0xFFFFFE (by rw [length_range']; omega)
    (by rw [length_range']; omega) (by omega)
  rw [getElem_range', getElem_range', show numbersInUse = 0xFFFFFE from rfl] at hlast
  omega

end Iochibity.Ocf
