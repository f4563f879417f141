/-
PINs for the ownership transfer, `oxmpincommon.c`.

Allocations succeed.
-/
import Iochibity.Lib.Buffer
import Iochibity.Ocf.RepPayload
import Iochibity.Ocf.StackResult
import Iochibity.Lib.Runs

namespace Iochibity.Sec.Pin

open Coap (CString)
open List

def oxmRandomPinMinSize : ℕ := 4

def oxmRandomPinMaxSize : ℕ := 32

/-- The bits of `OicSecPinType_t`. -/
def numPin : UInt32 := 1
def uppercaseCharPin : UInt32 := 2
def lowercaseCharPin : UInt32 := 4

structure PinOxmData where
  pinData : List UInt8
  pinSize : ℕ
  pinType : UInt32
  newDevice : OicUuid

/-- `g_PinOxmData` at the start. -/
def gPinOxmData : PinOxmData where
  pinData := Buffer.calloc (oxmRandomPinMaxSize + 1)
  pinSize := 8
  pinType := numPin ||| lowercaseCharPin ||| uppercaseCharPin
  newDevice := .nil

/-- What a call gives: its result, the PIN written into the buffer of the caller, and the
password and salt of a derivation. -/
structure Outcome where
  result : Ocf.OCStackResult
  generated : Option (List UInt8)
  derived : Option (List UInt8 × OicUuid)

def Outcome.only (result : Ocf.OCStackResult) : Outcome := ⟨result, none, none⟩

def isValidPinType (pinType : UInt32) : Bool :=
  numPin &&& pinType != 0 || lowercaseCharPin &&& pinType != 0
    || uppercaseCharPin &&& pinType != 0

/-- Whether `SetRandomPinPolicy` takes the policy. -/
def policyAccepted (pinSize : ℕ) (pinType : UInt32) : Bool :=
  decide (oxmRandomPinMinSize ≤ pinSize) && decide (pinSize ≤ oxmRandomPinMaxSize)
    && isValidPinType pinType

variable (s : PinOxmData)

def setRandomPinPolicy (pinSize : ℕ) (pinType : UInt32) : PinOxmData × Outcome :=
  if policyAccepted pinSize pinType then
    ({ s with pinSize := pinSize, pinType := pinType }, .only .ok)
  else (s, .only .invalidParam)

/-! ## Random PINs -/

def charactersFrom (first : UInt8) (n : ℕ) : List UInt8 :=
  (List.range n).map (first + UInt8.ofNat ·)

def allowedCharacters (pinType : UInt32) : List UInt8 :=
  (if numPin &&& pinType != 0 then charactersFrom 0x30 10 else [])
    ++ (if uppercaseCharPin &&& pinType != 0 then charactersFrom 0x41 26 else [])
    ++ (if lowercaseCharPin &&& pinType != 0 then charactersFrom 0x61 26 else [])

/-- What the loop of `OCGetRandomRange` ends with, for the `i`-th call: an offset that is not
above the width. -/
structure RandomOffsets where
  offset : ℕ → ℕ → ℕ
  offset_le : ∀ i rangeWidth, offset i rangeWidth ≤ rangeWidth

section

variable (random : RandomOffsets)

def ocGetRandomRange (i : ℕ) (firstBound secondBound : ℕ) : ℕ :=
  if firstBound = secondBound then secondBound
  else min firstBound secondBound
    + random.offset i (max firstBound secondBound - min firstBound secondBound)

def generateRandomPinElement (i : ℕ) (pinType : UInt32) : UInt8 :=
  if (allowedCharacters pinType).length = 0 then 0x30
  else (allowedCharacters pinType).getD
    (ocGetRandomRange random i 0 ((allowedCharacters pinType).length - 1)) 0

/-- The PIN that the loop of `GeneratePin` writes. -/
def randomPin (pinSize : ℕ) (pinType : UInt32) : List UInt8 :=
  (List.range pinSize).map (generateRandomPinElement random · pinType)

def putPin (pinData pin : List UInt8) : List UInt8 :=
  Buffer.memcpy pinData 0 (pin ++ [0]) (pin.length + 1)

/-- `GeneratePin`; `display` is whether a callback shows the PIN, `deviceId` what
`GetDoxmDeviceID` gives. -/
def generatePin (bufferSize : ℕ) (display : Bool)
    (deviceId : Option OicUuid) : PinOxmData × Outcome :=
  if s.pinSize + 1 > bufferSize then (s, .only .invalidParam)
  else if isValidPinType s.pinType = false then (s, .only .error)
  else
    let pin := randomPin random s.pinSize s.pinType
    let written := { s with pinData := putPin s.pinData pin }
    if display = false then (written, ⟨.error, some pin, none⟩)
    else
      match deviceId with
      | some deviceId => ({ written with newDevice := deviceId }, ⟨.ok, some pin, none⟩)
      | none => (written, ⟨.error, some pin, none⟩)

end

/-- `InputPin`; `pin` is the text that the callback puts into the buffer, if there is one. -/
def inputPin (bufferSize : ℕ) (pin : Option CString) : PinOxmData × Outcome :=
  if s.pinSize + 1 > bufferSize then (s, .only .invalidParam)
  else
    match pin with
    | some pin =>
      ({ s with
          pinData := putPin s.pinData (pin.bytes.take oxmRandomPinMaxSize)
          pinSize := (pin.bytes.take oxmRandomPinMaxSize).length }, .only .ok)
    | none => (s, .only .error)

def setPreconfigPin (pin : Option (List UInt8)) : PinOxmData × Outcome :=
  match pin with
  | some pin =>
    if pin.length > oxmRandomPinMaxSize then (s, .only .invalidParam)
    else ({ s with pinData := putPin s.pinData pin }, .only .ok)
  | none => (s, .only .invalidParam)

/-! ## Derivations -/

/-- `DerivePSKUsingPIN`: the password and the salt. -/
def derivePSKUsingPIN : List UInt8 × OicUuid :=
  (s.pinData.take s.pinSize, s.newDevice)

inductive CADtlsPskCredType
  | hint
  | identity
  | key
  deriving DecidableEq

section

variable (mbedtlsBase64Decode : List UInt8 → Option (List UInt8))

/-- The bytes of a PIN credential; `mbedtls_base64_decode` gives those of an encoded one, and no
bytes are taken for a failure. -/
def credentialPin (cred : OicSecKey) : Option (List UInt8) :=
  match cred.encoding with
  | .raw => some (cred.data.getD [])
  | .base64 => (mbedtlsBase64Decode (cred.data.getD [])).filter (!·.isEmpty)
  | _ => none

inductive Loaded
  | nothing
  | failed
  | pin (bytes : List UInt8)

/-- `GetDtlsPskForPreconfPinOxm` up to the copy. -/
def loadPreconfiguredPin (pinSize : ℕ) :
    Option OicSecKey → Loaded
  | none => .nothing
  | some cred =>
    match credentialPin mbedtlsBase64Decode cred with
    | none => .failed
    | some bytes => if pinSize < bytes.length then .failed else .pin bytes

/-- `GetDtlsPskForPreconfPinOxm`; `ready` is whether there is room for the result and a doxm
resource; `error` is its -1. -/
def getDtlsPskForPreconfPinOxm (s : PinOxmData) (type : CADtlsPskCredType) (ready : Bool)
    (cred : Option OicSecKey) : PinOxmData × Outcome :=
  if ready = false then (s, .only .error)
  else
    match type with
    | .hint | .identity => (s, .only .ok)
    | .key =>
      match loadPreconfiguredPin mbedtlsBase64Decode s.pinSize cred with
      | .nothing => (s, ⟨.ok, none, some (derivePSKUsingPIN s)⟩)
      | .failed => (s, .only .error)
      | .pin bytes =>
        let loaded :=
          { s with pinData := Buffer.memcpy s.pinData 0 bytes bytes.length }
        (loaded, ⟨.ok, none, some (derivePSKUsingPIN loaded)⟩)

inductive Call
  | setRandomPinPolicy (pinSize : ℕ) (pinType : UInt32)
  | generatePin (random : RandomOffsets) (bufferSize : ℕ) (display : Bool)
      (deviceId : Option OicUuid)
  | inputPin (bufferSize : ℕ) (pin : Option CString)
  | setPreconfigPin (pin : Option (List UInt8))
  | getDtlsPskForPreconfPinOxm (type : CADtlsPskCredType) (ready : Bool) (cred : Option OicSecKey)
  | derive

def step (s : PinOxmData) :
    Call → PinOxmData × Outcome
  | .setRandomPinPolicy pinSize pinType => setRandomPinPolicy s pinSize pinType
  | .generatePin random bufferSize display deviceId =>
    generatePin s random bufferSize display deviceId
  | .inputPin bufferSize pin => inputPin s bufferSize pin
  | .setPreconfigPin pin => setPreconfigPin s pin
  | .getDtlsPskForPreconfPinOxm type ready cred =>
    getDtlsPskForPreconfPinOxm mbedtlsBase64Decode s type ready cred
  | .derive => (s, ⟨.ok, none, some (derivePSKUsingPIN s)⟩)

end

open Option

/-! ## What is promised -/

structure History where
  policySize : ℕ
  policyType : UInt32
  entered : Option ℕ
  pin : Option (List UInt8)

def History.start : History := ⟨8, numPin ||| lowercaseCharPin ||| uppercaseCharPin, none, none⟩

def History.size (h : History) : ℕ := h.entered.getD h.policySize

section

variable (mbedtlsBase64Decode : List UInt8 → Option (List UInt8))

def broughtPin (call : Call) (outcome : Outcome) : Option (List UInt8) :=
  match call with
  | .generatePin .. => outcome.generated
  | .inputPin _ pin => if outcome.result = .ok then pin.map CString.bytes else none
  | .setPreconfigPin pin => if outcome.result = .ok then pin else none
  | .getDtlsPskForPreconfPinOxm _ _ cred =>
    if outcome.derived.isSome then cred.bind (credentialPin mbedtlsBase64Decode) else none
  | _ => none

def History.note (h : History) (call : Call) (outcome : Outcome) : History :=
  let h := { h with pin := (broughtPin mbedtlsBase64Decode call outcome).or h.pin }
  match call with
  | .setRandomPinPolicy pinSize pinType =>
    if outcome.result = .ok then
      { h with policySize := pinSize, policyType := pinType, entered := none }
    else h
  | .inputPin _ (some pin) =>
    if outcome.result = .ok then
      { h with entered := some (min pin.bytes.length oxmRandomPinMaxSize) }
    else h
  | _ => h

def InClasses (pinType : UInt32) (c : UInt8) : Prop :=
  (numPin &&& pinType ≠ 0 ∧ 0x30 ≤ c ∧ c ≤ 0x39)
    ∨ (uppercaseCharPin &&& pinType ≠ 0 ∧ 0x41 ≤ c ∧ c ≤ 0x5A)
    ∨ (lowercaseCharPin &&& pinType ≠ 0 ∧ 0x61 ≤ c ∧ c ≤ 0x7A)

structure World where
  data : PinOxmData
  history : History

def World.start : World := ⟨gPinOxmData, .start⟩

def worldStep (w : World) (call : Call) : World × List Outcome :=
  let r := step mbedtlsBase64Decode w.data call
  (⟨r.1, w.history.note mbedtlsBase64Decode call r.2⟩, [r.2])

structure ExactCall (mbedtlsBase64Decode : List UInt8 → Option (List UInt8)) (w : World)
    (call : Call) : Prop where
  generated : ∀ pin ∈ (step mbedtlsBase64Decode w.data call).2.generated,
    pin.length = w.history.policySize ∧ ∀ c ∈ pin, InClasses w.history.policyType c
  derived : ∀ psk ∈ (step mbedtlsBase64Decode w.data call).2.derived,
    (worldStep mbedtlsBase64Decode w call).1.history.pin = some psk.1

def PinFits (h : History) : Prop := ∃ pin, h.pin = some pin ∧ pin.length = h.size

/-- **A call that does what it should**: a PIN is generated when the size is that of the policy;
one is used when it has that size. -/
def SizeFits (w : World) : Call → Prop
  | .generatePin _ bufferSize _ _ =>
    w.history.size + 1 ≤ bufferSize → w.history.size = w.history.policySize
  | .getDtlsPskForPreconfPinOxm .key true cred =>
    match loadPreconfiguredPin mbedtlsBase64Decode w.history.size cred with
    | .nothing => PinFits w.history
    | .failed => True
    | .pin bytes => bytes.length = w.history.size
  | .derive => PinFits w.history
  | _ => True

end

structure Agrees (w : World) : Prop where
  room : w.data.pinData.length = oxmRandomPinMaxSize + 1
  size : w.data.pinSize = w.history.size
  size_le : w.data.pinSize ≤ oxmRandomPinMaxSize
  type : w.data.pinType = w.history.policyType
  valid : isValidPinType w.data.pinType = true
  pin : ∀ pin, w.history.pin = some pin → pin.length ≤ oxmRandomPinMaxSize →
    w.data.pinData.take pin.length = pin

lemma agrees_start : Agrees World.start where
  room := rfl
  size := rfl
  size_le := by decide
  type := rfl
  valid := by decide
  pin := fun pin h => absurd h.symm (some_ne_none pin)

@[simp] lemma length_putPin (pinData pin : List UInt8) :
    (putPin pinData pin).length = pinData.length := by
  rw [putPin, Buffer.length_memcpy]

variable {pin : List UInt8}

lemma take_putPin {pinData : List UInt8} (h : pin.length < pinData.length) :
    (putPin pinData pin).take pin.length = pin := by
  have hlen : pin.length + 1 ≤ (pin ++ [0]).length := by
    simp
  have hput : (putPin pinData pin).take (pin.length + 1) = (pin ++ [0]).take (pin.length + 1) :=
    Buffer.take_memcpy_zero h hlen
  have htake := congrArg (List.take pin.length) hput
  rw [take_take, take_take, Nat.min_eq_left (Nat.le_succ _)] at htake
  rw [htake, take_left']
  rfl

lemma password_iff {w : World} (h : Agrees w) (hpin : w.history.pin = some pin) :
    (derivePSKUsingPIN w.data).1 = pin ↔ pin.length = w.history.size := by
  have hlen : (derivePSKUsingPIN w.data).1.length = w.history.size := by
    have hroom := h.room
    have hle := h.size_le
    rw [derivePSKUsingPIN, length_take, ← h.size]
    omega
  constructor
  · intro heq
    rw [← hlen, heq]
  · intro hsize
    have hle : pin.length ≤ oxmRandomPinMaxSize := by
      rw [hsize, ← h.size]
      exact h.size_le
    have htake := h.pin pin hpin hle
    rw [derivePSKUsingPIN, h.size, ← hsize]
    exact htake

/-! ## The characters -/

lemma mem_charactersFrom {first last c : UInt8} {n : ℕ} (hc : c ∈ charactersFrom first n)
    (hlast : last.toNat = first.toNat + (n - 1)) : first ≤ c ∧ c ≤ last := by
  obtain ⟨i, hi, rfl⟩ := mem_map.mp hc
  rw [mem_range] at hi
  have hlt := last.toNat_lt
  have hi256 : i < 256 := by omega
  have hval : (first + UInt8.ofNat i).toNat = first.toNat + i := by
    rw [UInt8.toNat_add, UInt8.toNat_ofNat', Nat.mod_eq_of_lt hi256]
    omega
  rw [UInt8.le_iff_toNat_le, UInt8.le_iff_toNat_le, hval]
  omega

variable {pinType : UInt32}

lemma mem_allowedCharacters {c : UInt8}
    (hc : c ∈ allowedCharacters pinType) : InClasses pinType c := by
  rw [allowedCharacters, mem_append, mem_append] at hc
  rcases hc with (hc | hc) | hc
  · by_cases hbit : (numPin &&& pinType != 0) = true
    · rw [if_pos hbit] at hc
      exact .inl ⟨bne_iff_ne.mp hbit, mem_charactersFrom hc (by decide)⟩
    rw [if_neg hbit] at hc
    simp at hc
  · by_cases hbit : (uppercaseCharPin &&& pinType != 0) = true
    · rw [if_pos hbit] at hc
      exact .inr (.inl ⟨bne_iff_ne.mp hbit, mem_charactersFrom hc (by decide)⟩)
    rw [if_neg hbit] at hc
    simp at hc
  by_cases hbit : (lowercaseCharPin &&& pinType != 0) = true
  · rw [if_pos hbit] at hc
    exact .inr (.inr ⟨bne_iff_ne.mp hbit, mem_charactersFrom hc (by decide)⟩)
  rw [if_neg hbit] at hc
  simp at hc

lemma allowedCharacters_ne (h : isValidPinType pinType = true) :
    (allowedCharacters pinType).length ≠ 0 := by
  have hfrom : ∀ (first : UInt8) (n : ℕ), (charactersFrom first n).length = n := by
    intro first n
    rw [charactersFrom, length_map, length_range]
  rw [isValidPinType, Bool.or_eq_true, Bool.or_eq_true] at h
  rw [allowedCharacters, length_append, length_append]
  rcases h with (h | h) | h
  · rw [if_pos h, hfrom]
    omega
  · rw [if_pos h, hfrom]
    omega
  · rw [if_pos h, hfrom]
    omega

lemma ocGetRandomRange_le (random : RandomOffsets) (i n : ℕ) :
    ocGetRandomRange random i 0 n ≤ n := by
  have hle := random.offset_le i n
  rw [ocGetRandomRange]
  by_cases hn : 0 = n
  · rw [if_pos hn]
  rw [if_neg hn, Nat.min_eq_left (Nat.zero_le n), Nat.max_eq_right (Nat.zero_le n),
    Nat.zero_add, Nat.sub_zero]
  exact hle

lemma generateRandomPinElement_inClasses (h : isValidPinType pinType = true)
    (random : RandomOffsets) (i : ℕ) :
    InClasses pinType (generateRandomPinElement random i pinType) := by
  have hne := allowedCharacters_ne h
  have hle := ocGetRandomRange_le random i ((allowedCharacters pinType).length - 1)
  have hlt : ocGetRandomRange random i 0 ((allowedCharacters pinType).length - 1)
      < (allowedCharacters pinType).length := by omega
  rw [generateRandomPinElement, if_neg hne, getD_eq_getElem _ _ hlt]
  exact mem_allowedCharacters (getElem_mem hlt)

lemma length_randomPin (random : RandomOffsets) (pinSize : ℕ) (pinType : UInt32) :
    (randomPin random pinSize pinType).length = pinSize := by
  rw [randomPin, length_map, length_range]

/-! ## One call -/

section Calls

variable {mbedtlsBase64Decode : List UInt8 → Option (List UInt8)} {w : World}

variable {call : Call}

lemma exactCall_of_quiet {outcome : Outcome}
    (hout : (step mbedtlsBase64Decode w.data call).2 = outcome)
    (hgenerated : outcome.generated = none) (hderived : outcome.derived = none) :
    ExactCall mbedtlsBase64Decode w call where
  generated := by
    intro pin hpin
    rw [hout, hgenerated] at hpin
    simp at hpin
  derived := by
    intro psk hpsk
    rw [hout, hderived] at hpsk
    simp at hpsk

lemma refused_spec (h : Agrees w) {result : Ocf.OCStackResult} (hresult : result ≠ .ok)
    (hstep : step mbedtlsBase64Decode w.data call = (w.data, .only result)) :
    ExactCall mbedtlsBase64Decode w call ∧ Agrees (worldStep mbedtlsBase64Decode w call).1 := by
  refine ⟨exactCall_of_quiet (congrArg Prod.snd hstep) rfl rfl, ?_⟩
  have hpin : broughtPin mbedtlsBase64Decode call (.only result) = none := by
    cases call <;> simp [broughtPin, Outcome.only, hresult]
  have hnote : w.history.note mbedtlsBase64Decode call (.only result) = w.history := by
    simp only [History.note, hpin, none_or]
    split <;> simp [Outcome.only, hresult]
  simp only [worldStep, hstep, hnote]
  exact h

lemma policy_spec (h : Agrees w) (pinSize : ℕ) (pinType : UInt32) :
    ExactCall mbedtlsBase64Decode w (.setRandomPinPolicy pinSize pinType)
      ∧ Agrees (worldStep mbedtlsBase64Decode w (.setRandomPinPolicy pinSize pinType)).1 := by
  by_cases haccepted : policyAccepted pinSize pinType = true
  · have hstep : setRandomPinPolicy w.data pinSize pinType
        = ({ w.data with pinSize := pinSize, pinType := pinType }, .only .ok) := if_pos haccepted
    refine ⟨exactCall_of_quiet (congrArg Prod.snd hstep) rfl rfl, ?_⟩
    rw [policyAccepted, Bool.and_eq_true, Bool.and_eq_true, decide_eq_true_iff,
      decide_eq_true_iff] at haccepted
    simp only [worldStep, step, hstep, History.note, broughtPin, Outcome.only, if_true, none_or]
    exact ⟨h.room, rfl, haccepted.1.2, rfl, haccepted.2, h.pin⟩
  exact refused_spec h Ocf.OCStackResult.noConfusion (if_neg haccepted)

lemma agrees_putPin (h : Agrees w) {pin : List UInt8} (hlen : pin.length ≤ oxmRandomPinMaxSize)
    (newDevice : OicUuid) :
    Agrees ⟨{ w.data with pinData := putPin w.data.pinData pin, newDevice := newDevice },
      { w.history with pin := some pin }⟩ where
  room := by rw [length_putPin, h.room]
  size := h.size
  size_le := h.size_le
  type := h.type
  valid := h.valid
  pin := by
    intro last hlast _
    rw [← some.inj hlast]
    refine take_putPin ?_
    rw [h.room]
    omega

section

variable (h : Agrees w) (random : RandomOffsets) (bufferSize : ℕ) (display : Bool)
  (deviceId : Option OicUuid)
include h

lemma generatePin_eq :
    (bufferSize < w.history.size + 1 ∧
        generatePin w.data random bufferSize display deviceId = (w.data, .only .invalidParam))
      ∨ (w.history.size + 1 ≤ bufferSize ∧ ∃ newDevice result,
        generatePin w.data random bufferSize display deviceId
          = ({ w.data with
                pinData := putPin w.data.pinData
                  (randomPin random w.history.size w.history.policyType)
                newDevice := newDevice },
              ⟨result, some (randomPin random w.history.size w.history.policyType), none⟩)) := by
  have hvalid : ¬ isValidPinType w.data.pinType = false := by
    rw [h.valid]
    exact Bool.noConfusion
  rw [generatePin, if_neg hvalid, ← h.size, ← h.type]
  by_cases hsmall : w.data.pinSize + 1 > bufferSize
  · exact .inl ⟨hsmall, if_pos hsmall⟩
  refine .inr ⟨Nat.le_of_not_lt hsmall, ?_⟩
  rw [if_neg hsmall]
  cases display with
  | false => exact ⟨w.data.newDevice, .error, rfl⟩
  | true =>
    cases deviceId with
    | none => exact ⟨w.data.newDevice, .error, rfl⟩
    | some deviceId => exact ⟨deviceId, .ok, rfl⟩

lemma generate_spec :
    (ExactCall mbedtlsBase64Decode w (.generatePin random bufferSize display deviceId)
        ↔ SizeFits mbedtlsBase64Decode w (.generatePin random bufferSize display deviceId))
      ∧ Agrees (worldStep mbedtlsBase64Decode w
        (.generatePin random bufferSize display deviceId)).1 := by
  rcases generatePin_eq h random bufferSize display deviceId with
    ⟨hsmall, hstep⟩ | ⟨hroom, newDevice, result, hstep⟩
  · constructor
    · refine iff_of_true (exactCall_of_quiet (congrArg Prod.snd hstep) rfl rfl) (fun hroom => ?_)
      omega
    · simp only [worldStep, step, hstep, History.note, broughtPin, Outcome.only, none_or]
      exact h
  have hsize : w.history.size ≤ oxmRandomPinMaxSize := by
    rw [← h.size]
    exact h.size_le
  have hlen := length_randomPin random w.history.size w.history.policyType
  constructor
  · constructor
    · intro hexact _
      have hpin := (hexact.generated (randomPin random w.history.size w.history.policyType)
        (by rw [step, hstep]; rfl)).1
      rwa [hlen] at hpin
    · intro hfits
      refine ⟨fun pin hpin => ?_, fun psk hpsk => ?_⟩
      · rw [step, hstep] at hpin
        rw [← some.inj hpin]
        refine ⟨hlen.trans (hfits hroom), fun c hc => ?_⟩
        obtain ⟨i, -, rfl⟩ := mem_map.mp hc
        have hvalid := h.valid
        rw [h.type] at hvalid
        exact generateRandomPinElement_inClasses hvalid random i
      · rw [step, hstep] at hpsk
        simp at hpsk
  · simp only [worldStep, step, hstep, History.note, broughtPin, some_or]
    exact agrees_putPin h (by rw [hlen]; exact hsize) newDevice

end

lemma input_spec (h : Agrees w) (bufferSize : ℕ) (pin : Option CString) :
    ExactCall mbedtlsBase64Decode w (.inputPin bufferSize pin)
      ∧ Agrees (worldStep mbedtlsBase64Decode w (.inputPin bufferSize pin)).1 := by
  by_cases hsmall : w.data.pinSize + 1 > bufferSize
  · exact refused_spec h Ocf.OCStackResult.noConfusion (if_pos hsmall)
  cases pin with
  | none => exact refused_spec h Ocf.OCStackResult.noConfusion (if_neg hsmall)
  | some pin =>
    have hstep : inputPin w.data bufferSize (some pin)
        = ({ w.data with
              pinData := putPin w.data.pinData (pin.bytes.take oxmRandomPinMaxSize)
              pinSize := (pin.bytes.take oxmRandomPinMaxSize).length }, .only .ok) :=
      if_neg hsmall
    refine ⟨exactCall_of_quiet (congrArg Prod.snd hstep) rfl rfl, ?_⟩
    simp only [worldStep, step, hstep, History.note, broughtPin, Outcome.only, if_true,
      map_some, some_or]
    have hlen : (pin.bytes.take oxmRandomPinMaxSize).length
        = min pin.bytes.length oxmRandomPinMaxSize := by
      rw [length_take, Nat.min_comm]
    have hle : (pin.bytes.take oxmRandomPinMaxSize).length ≤ oxmRandomPinMaxSize := by
      rw [hlen]
      omega
    have hput := agrees_putPin h hle w.data.newDevice
    refine ⟨hput.room, hlen, hle, h.type, h.valid, fun last hlast hshort => ?_⟩
    rw [← some.inj hlast] at hshort ⊢
    have htake := take_of_length_le hshort
    have hwhole := hput.pin (pin.bytes.take oxmRandomPinMaxSize) rfl hle
    simp only [htake] at hwhole ⊢
    exact hwhole

lemma preconfig_spec (h : Agrees w) (pin : Option (List UInt8)) :
    ExactCall mbedtlsBase64Decode w (.setPreconfigPin pin)
      ∧ Agrees (worldStep mbedtlsBase64Decode w (.setPreconfigPin pin)).1 := by
  cases pin with
  | none => exact refused_spec h Ocf.OCStackResult.noConfusion rfl
  | some pin =>
    by_cases hlong : pin.length > oxmRandomPinMaxSize
    · exact refused_spec h Ocf.OCStackResult.noConfusion (if_pos hlong)
    have hstep : setPreconfigPin w.data (some pin)
        = ({ w.data with pinData := putPin w.data.pinData pin }, .only .ok) := if_neg hlong
    refine ⟨exactCall_of_quiet (congrArg Prod.snd hstep) rfl rfl, ?_⟩
    simp only [worldStep, step, hstep, History.note, broughtPin, Outcome.only, if_true, some_or]
    exact agrees_putPin h (Nat.le_of_not_lt hlong) w.data.newDevice

lemma exactCall_of_derived {data : PinOxmData} (hstep : step mbedtlsBase64Decode w.data call
      = (data, ⟨.ok, none, some (derivePSKUsingPIN data)⟩)) :
    ExactCall mbedtlsBase64Decode w call ↔ (worldStep mbedtlsBase64Decode w call).1.history.pin
        = some (derivePSKUsingPIN data).1 := by
  constructor
  · intro hexact
    exact hexact.derived (derivePSKUsingPIN data) (by rw [hstep]; rfl)
  · intro hpin
    refine ⟨fun pin hmem => ?_, fun psk hpsk => ?_⟩
    · rw [hstep] at hmem
      simp at hmem
    · rw [hstep] at hpsk
      rw [← some.inj hpsk]
      exact hpin

lemma pinFits_iff (h : Agrees w) :
    w.history.pin = some (derivePSKUsingPIN w.data).1 ↔ PinFits w.history := by
  constructor
  · intro hpin
    exact ⟨_, hpin, (password_iff h hpin).mp rfl⟩
  · rintro ⟨pin, hpin, hsize⟩
    rw [hpin, (password_iff h hpin).mpr hsize]

lemma derive_spec (h : Agrees w) :
    (ExactCall mbedtlsBase64Decode w .derive ↔ SizeFits mbedtlsBase64Decode w .derive)
      ∧ Agrees (worldStep mbedtlsBase64Decode w .derive).1 := by
  refine ⟨(exactCall_of_derived rfl).trans (pinFits_iff h), ?_⟩
  simp only [worldStep, step, History.note, broughtPin, none_or]
  exact h

lemma loaded_cases (pinSize : ℕ) (cred : Option OicSecKey) :
    (cred = none ∧ loadPreconfiguredPin mbedtlsBase64Decode pinSize cred = .nothing)
      ∨ loadPreconfiguredPin mbedtlsBase64Decode pinSize cred = .failed
      ∨ ∃ bytes, cred.bind (credentialPin mbedtlsBase64Decode) = some bytes
        ∧ loadPreconfiguredPin mbedtlsBase64Decode pinSize cred = .pin bytes := by
  cases cred with
  | none => exact .inl ⟨rfl, rfl⟩
  | some cred =>
    rw [loadPreconfiguredPin, bind_some]
    cases credentialPin mbedtlsBase64Decode cred with
    | none => exact .inr (.inl rfl)
    | some bytes =>
      by_cases hlong : pinSize < bytes.length
      · simp [hlong]
      · exact .inr (.inr ⟨bytes, rfl, if_neg hlong⟩)

variable {pinSize : ℕ} {cred : Option OicSecKey}

lemma loaded_bytes {bytes : List UInt8}
    (hload : loadPreconfiguredPin mbedtlsBase64Decode pinSize cred = .pin bytes) :
    cred.bind (credentialPin mbedtlsBase64Decode) = some bytes := by
  obtain ⟨-, hnothing⟩ | hfailed | ⟨bytes', hcred, hpin⟩ := loaded_cases pinSize cred
  · exact Loaded.noConfusion (hnothing.symm.trans hload)
  · exact Loaded.noConfusion (hfailed.symm.trans hload)
  · rw [hcred, Loaded.pin.inj (hpin.symm.trans hload)]

lemma loaded_nothing (hload : loadPreconfiguredPin mbedtlsBase64Decode pinSize cred = .nothing) :
    cred = none := by
  obtain ⟨hnone, -⟩ | hfailed | ⟨bytes, -, hpin⟩ := loaded_cases pinSize cred
  · exact hnone
  · exact Loaded.noConfusion (hfailed.symm.trans hload)
  · exact Loaded.noConfusion (hpin.symm.trans hload)

lemma agrees_loaded (h : Agrees w) (bytes : List UInt8) :
    Agrees ⟨{ w.data with pinData := Buffer.memcpy w.data.pinData 0 bytes bytes.length },
      { w.history with pin := some bytes }⟩ where
  room := by rw [Buffer.length_memcpy, h.room]
  size := h.size
  size_le := h.size_le
  type := h.type
  valid := h.valid
  pin := by
    intro last hlast hshort
    rw [← some.inj hlast] at hshort ⊢
    have hroom : bytes.length ≤ w.data.pinData.length := by
      rw [h.room]
      omega
    rw [Buffer.take_memcpy_zero hroom (Nat.le_refl _), take_length]

lemma preconf_spec (h : Agrees w) (type : CADtlsPskCredType) (ready : Bool)
    (cred : Option OicSecKey) :
    (ExactCall mbedtlsBase64Decode w (.getDtlsPskForPreconfPinOxm type ready cred)
        ↔ SizeFits mbedtlsBase64Decode w (.getDtlsPskForPreconfPinOxm type ready cred))
      ∧ Agrees (worldStep mbedtlsBase64Decode w
        (.getDtlsPskForPreconfPinOxm type ready cred)).1 := by
  cases ready with
  | false =>
    refine ⟨iff_of_true (exactCall_of_quiet rfl rfl rfl) ?_, h⟩
    cases type <;> exact trivial
  | true =>
    cases type with
    | hint | identity => exact ⟨iff_of_true (exactCall_of_quiet rfl rfl rfl) trivial, h⟩
    | key =>
      have hstep : step mbedtlsBase64Decode w.data (.getDtlsPskForPreconfPinOxm .key true cred)
          = match loadPreconfiguredPin mbedtlsBase64Decode w.history.size cred with
            | .nothing => (w.data, ⟨.ok, none, some (derivePSKUsingPIN w.data)⟩)
            | .failed => (w.data, .only .error)
            | .pin bytes =>
              let loaded :=
                { w.data with pinData := Buffer.memcpy w.data.pinData 0 bytes bytes.length }
              (loaded, ⟨.ok, none, some (derivePSKUsingPIN loaded)⟩) := by
        rw [← h.size]
        rfl
      rw [SizeFits]
      cases hload : loadPreconfiguredPin mbedtlsBase64Decode w.history.size cred with
      | nothing =>
        rw [hload] at hstep
        have hcred := loaded_nothing hload
        have hpin : (worldStep mbedtlsBase64Decode w
            (.getDtlsPskForPreconfPinOxm .key true cred)).1 = w := by
          rw [worldStep, hstep, hcred]
          rfl
        refine ⟨?_, by rw [hpin]; exact h⟩
        rw [exactCall_of_derived hstep, hpin]
        exact pinFits_iff h
      | failed =>
        rw [hload] at hstep
        obtain ⟨hexact, hagrees⟩ := refused_spec h Ocf.OCStackResult.noConfusion hstep
        exact ⟨iff_of_true hexact trivial, hagrees⟩
      | pin bytes =>
        rw [hload] at hstep
        have hcred := loaded_bytes hload
        have hpin : (worldStep mbedtlsBase64Decode w (.getDtlsPskForPreconfPinOxm .key true cred)).1
            = ⟨{ w.data with
                  pinData := Buffer.memcpy w.data.pinData 0 bytes bytes.length },
                { w.history with pin := some bytes }⟩ := by
          rw [worldStep, hstep]
          simp [History.note, broughtPin, hcred]
        have hagrees := agrees_loaded h bytes
        refine ⟨?_, by rw [hpin]; exact hagrees⟩
        rw [exactCall_of_derived hstep, hpin, pinFits_iff hagrees]
        constructor
        · rintro ⟨last, hlast, hsize⟩
          rw [← some.inj hlast] at hsize
          exact hsize
        · exact fun hsize => ⟨bytes, rfl, hsize⟩

lemma call_spec (h : Agrees w) (call : Call) :
    (ExactCall mbedtlsBase64Decode w call ↔ SizeFits mbedtlsBase64Decode w call)
      ∧ Agrees (worldStep mbedtlsBase64Decode w call).1 := by
  cases call with
  | setRandomPinPolicy pinSize pinType =>
    obtain ⟨hexact, hagrees⟩ := policy_spec h pinSize pinType
    exact ⟨iff_of_true hexact trivial, hagrees⟩
  | generatePin random bufferSize display deviceId =>
    exact generate_spec h random bufferSize display deviceId
  | inputPin bufferSize pin =>
    obtain ⟨hexact, hagrees⟩ := input_spec h bufferSize pin
    exact ⟨iff_of_true hexact trivial, hagrees⟩
  | setPreconfigPin pin =>
    obtain ⟨hexact, hagrees⟩ := preconfig_spec h pin
    exact ⟨iff_of_true hexact trivial, hagrees⟩
  | getDtlsPskForPreconfPinOxm type ready cred => exact preconf_spec h type ready cred
  | derive => exact derive_spec h

end Calls

/-- **All PINs are right** in a run exactly when the size fits in each of its calls. -/
theorem pins_exact_iff (mbedtlsBase64Decode : List UInt8 → Option (List UInt8))
    (calls : List Call) :
    Runs.Along (worldStep mbedtlsBase64Decode) (ExactCall mbedtlsBase64Decode) .start calls
      ↔ Runs.Along (worldStep mbedtlsBase64Decode) (SizeFits mbedtlsBase64Decode) .start calls := by
  refine Runs.along_iff Agrees (F := fun _ _ => True) ?_ agrees_start (Runs.along_true _ _)
  intro w call h _
  obtain ⟨hiff, hagrees⟩ := call_spec h call
  exact ⟨hiff, fun _ => hagrees⟩

def leastOffsets : RandomOffsets := ⟨fun _ _ => 0, fun _ rangeWidth => Nat.zero_le rangeWidth⟩

theorem shortText_weakens :
    ¬ Runs.Along (worldStep fun _ => none) (ExactCall fun _ => none) .start
      [.inputPin 33 (some ⟨[0x31], by decide⟩), .generatePin leastOffsets 33 true none] := by
  rintro ⟨-, hexact, -⟩
  have hpin := (hexact.generated [0x30] (by decide)).1
  exact absurd hpin (by decide)

end Iochibity.Sec.Pin
