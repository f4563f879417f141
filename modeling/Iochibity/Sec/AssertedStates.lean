/-
Is an update of `pstat` that carries only some of the properties read right?
-/
import Iochibity.Sec.OnboardingRun

namespace Iochibity.Sec

open CborLookup
open Option (getD_some map_none map_some)
open List

section

/-! ## What is to be read -/

/-- The number stands for the integer, as an `int` or without a sign. -/
def Stands (bits : UInt32) (n : ℤ) : Prop := (bits.toNat : ℤ) = n ∨ bits.toBitVec.toInt = n

instance (bits : UInt32) (n : ℤ) : Decidable (Stands bits n) :=
  inferInstanceAs (Decidable (_ ∨ _))

def sentStates : Sent → List ℤ
  | .map items => valuesUnder SentItem.integer? "s" (keyedItems items)
  | _ => []

def sentPendings : Sent → List Bool
  | .map items => valuesUnder SentItem.boolean? "p" (keyedItems items)
  | _ => []

/-- `dos` is right: each member on its own. -/
structure DosRight (sent : Sent) (dos : OicSecDostype) (state : UInt32) (pending : Bool) :
    Prop where
  carriedState : sentStates sent ≠ [] → ∃ n ∈ sentStates sent, Stands state n
  currentState : sentStates sent = [] → state = dos.state.code
  carriedPending : sentPendings sent ≠ [] → pending ∈ sentPendings sent
  currentPending : sentPendings sent = [] → pending = dos.pending

def IntRight (sent : Sent) (current value : UInt32) : Prop :=
  match sent with
  | .integer n => Stands value n
  | _ => value = current

def BoolRight (sent : Sent) (current value : Bool) : Prop :=
  match sent with
  | .boolean b => value = b
  | _ => value = current

def ModesRight (sent : Sent) (current value : List UInt32) : Prop :=
  match sent with
  | .integer n => ∃ mode, value = [mode] ∧ Stands mode n
  | _ => value = current

def UuidRight (sent : Sent) (current value : OicUuid) : Prop :=
  match sent with
  | .text s => s.bind convertStrToUuid = some value
  | _ => value = current

structure UpdateRight (find : String → Sent) (pstat : OicSecPstat) (update : PstatUpdate) :
    Prop where
  dos : DosRight (find "dos") pstat.dos update.dosState update.dosPending
  isop : BoolRight (find "isop") pstat.isOp update.isOp
  cm : IntRight (find "cm") pstat.cm update.cm
  tm : IntRight (find "tm") pstat.tm update.tm
  om : IntRight (find "om") pstat.om update.om
  sm : ModesRight (find "sm") pstat.sm update.sm
  rowneruuid : UuidRight (find "rowneruuid") pstat.rownerID update.rownerID

/-- The integers under `s` that the loop gets to see. -/
def seenStates (items : List SentItem) : List ℤ :=
  valuesUnder SentItem.integer? "s" (textFront (keyedItems items))

/-- The booleans under `p` that the loop gets to see. -/
def seenPendings (items : List SentItem) : List Bool :=
  valuesUnder SentItem.boolean? "p" (textFront (keyedItems items))

/-- The conditions on `dos`. A map with two entries for one member is read right when the last is,
or another says the same. -/
def DosFits (sent : Sent) (dos : OicSecDostype) : Prop :=
  match sent with
  | .error | .absent => True
  | .map items =>
    (match (seenStates items).getLast? with
      | some n => ∃ m ∈ sentStates sent, FitsBits m ∧ lowBits m = lowBits n
      | none => 0 ∈ sentStates sent ∨ sentStates sent = [] ∧ dos.state = .reset)
    ∧ ((seenPendings items).getLast? = none →
      false ∈ sentPendings sent ∨ sentPendings sent = [] ∧ dos.pending = false)
  | .array _ items =>
    -- an array is read as if it were a map
    (match (seenStates items).getLast? with
      | some n => lowBits n = dos.state.code
      | none => dos.state = .reset)
    ∧ (match (seenPendings items).getLast? with
      | some b => b = dos.pending
      | none => dos.pending = false)
  | _ => dos.state = .reset ∧ dos.pending = false

structure PartialFits (find : String → Sent) (pstat : OicSecPstat) : Prop where
  dos : DosFits (find "dos") pstat.dos
  ints : ∀ key ∈ ["cm", "tm", "om", "sm"], ∀ n, find key = .integer n → FitsBits n
  sm : (∀ n, find "sm" ≠ .integer n) → ∀ mode ∈ pstat.sm.tail, mode = 0

variable {n : ℤ}

lemma stands_lowBits : Stands (lowBits n) n ↔ FitsBits n := by
  have hlow := lowBits_toNat n
  have hint : (lowBits n).toBitVec.toInt
      = if 2 * (lowBits n).toNat < 2 ^ 32 then ((lowBits n).toNat : ℤ)
        else ((lowBits n).toNat : ℤ) - 2 ^ 32 := by
    rw [BitVec.toInt_eq_toNat_cond]
    rfl
  rw [Stands, hint, FitsBits]
  split <;> omega

lemma stands_iff {bits : UInt32} : Stands bits n ↔ FitsBits n ∧ lowBits n = bits := by
  constructor
  · intro h
    have hbits : lowBits n = bits := by
      have hint : bits.toBitVec.toInt
          = if 2 * bits.toNat < 2 ^ 32 then (bits.toNat : ℤ) else (bits.toNat : ℤ) - 2 ^ 32 := by
        rw [BitVec.toInt_eq_toNat_cond]
        rfl
      apply UInt32.toNat_inj.mp
      have hlow := lowBits_toNat n
      have hlt := bits.toNat_lt
      rw [Stands, hint] at h
      split at h <;> omega
    rw [← hbits, stands_lowBits] at h
    exact ⟨h, hbits⟩
  · rintro ⟨hfits, rfl⟩
    exact stands_lowBits.mpr hfits

lemma stands_zero : Stands 0 n ↔ n = 0 := by
  have hnat : ((0 : UInt32).toNat : ℤ) = 0 := rfl
  have hint : (0 : UInt32).toBitVec.toInt = 0 := rfl
  rw [Stands, hnat, hint, or_self, eq_comm]

/-! ## One property -/

section Property

variable {readOnly mark : Bool}

lemma readProperty_ok {α : Type} {carried : Option α} {current value : α}
    (h : readProperty (carried.map (Except.ok : α → Except ReadEnd α)) current readOnly
      = .ok (value, mark)) : value = carried.getD current := by
  rcases carried with _ | x
  · rw [map_none, readProperty, Except.ok.injEq, Prod.mk.injEq] at h
    exact h.1.symm
  rw [map_some, readProperty, Except.ok.injEq, Prod.mk.injEq] at h
  exact h.1.symm

variable {sent : Sent}

lemma intRight_iff {current value : UInt32}
    (h : readProperty (sent.read.integer?.map (Except.ok : UInt32 → Except ReadEnd UInt32))
      current readOnly = .ok (value, mark)) :
    IntRight sent current value ↔ ∀ n, sent = .integer n → FitsBits n := by
  have hvalue := readProperty_ok h
  rcases sent with _ | _ | b | n | s | ⟨length, items⟩ | items | _
  case integer =>
    rw [Sent.read, Found.integer?, getD_some] at hvalue
    rw [IntRight, hvalue, stands_lowBits]
    simp
  all_goals
    refine iff_of_true hvalue ?_
    intro n hn
    cases hn

lemma boolRight {current value : Bool}
    (h : readProperty (sent.read.boolean?.map (Except.ok : Bool → Except ReadEnd Bool))
      current readOnly = .ok (value, mark)) : BoolRight sent current value := by
  have hvalue := readProperty_ok h
  rcases sent with _ | _ | b | n | s | ⟨length, items⟩ | items | _
  all_goals exact hvalue

lemma uuidRight {current value : OicUuid}
    (h : readProperty (sent.read.text?.map readUuid) current readOnly = .ok (value, mark)) :
    UuidRight sent current value := by
  rcases htext : sent.read.text? with _ | s
  · rw [htext, map_none, readProperty, Except.ok.injEq, Prod.mk.injEq] at h
    rcases sent with _ | _ | b | n | s | ⟨length, items⟩ | items | _
    case text => cases htext
    all_goals exact h.1.symm
  have hsent : sent = .text s := by
    rcases sent with _ | _ | b | n | s' | ⟨length, items⟩ | items | _
    case text => rw [← Option.some.inj htext]
    all_goals cases htext
  rw [htext, map_some, readUuid] at h
  rw [hsent, UuidRight]
  rcases huuid : s.bind convertStrToUuid with _ | uuid
  · rw [huuid] at h
    cases h
  rw [huuid, readProperty, Except.ok.injEq, Prod.mk.injEq] at h
  rw [h.1]

lemma modesRight_iff {pstat : OicSecPstat} {sm : List UInt32}
    (h : readSm sent.read pstat readOnly = .ok (sm, mark)) :
    ModesRight sent pstat.sm sm ↔ (∀ n, sent = .integer n → FitsBits n)
        ∧ ((∀ n, sent ≠ .integer n) → ∀ mode ∈ pstat.sm.tail, mode = 0) := by
  have hcopied (hnot : sent.read.integer? = none) :
      sm = pstat.sm ↔ ∀ mode ∈ pstat.sm.tail, mode = 0 := by
    unfold readSm at h
    rw [hnot] at h
    rcases hmodes : pstat.sm with _ | ⟨first, rest⟩
    · simp only [hmodes] at h
      cases h
    simp only [hmodes, Except.ok.injEq, Prod.mk.injEq] at h
    rw [← h.1, tail_cons, List.cons.injEq, eq_comm (b := rest), eq_replicate_iff]
    simp
  rcases sent with _ | _ | b | n | s | ⟨length, items⟩ | items | _
  case integer =>
    simp only [readSm, Sent.read, Found.integer?, Except.ok.injEq, Prod.mk.injEq] at h
    rw [ModesRight, ← h.1]
    simp [stands_lowBits]
  all_goals
    rw [ModesRight, hcopied rfl]
    · simp
    · intro n hn
      cases hn

end Property

/-! ## The state and the mark in `dos` -/

lemma getLast_cons_getD {α β : Type} (f : α → β) (x : α) (xs : List α) (default : β) :
    ((x :: xs).getLast?.map f).getD default = (xs.getLast?.map f).getD (f x) := by
  rw [getLast?_cons]
  rcases xs.getLast? with _ | y
  · rfl
  · rfl

variable {read : DosRead}

variable {read' : DosRead}

lemma dosEntry_sent {tag : String} {value : SentItem}
    (h : dosEntry read tag value.read = .ok read') (es : List (SentItem × SentItem)) :
    ((valuesUnder SentItem.integer? "s" ((.text (some tag), value) :: es)).getLast?.map
        lowBits).getD read.state
      = ((valuesUnder SentItem.integer? "s" es).getLast?.map lowBits).getD read'.state
    ∧ ((valuesUnder SentItem.boolean? "p" ((.text (some tag), value) :: es)).getLast?.map
        id).getD read.pending
      = ((valuesUnder SentItem.boolean? "p" es).getLast?.map id).getD read'.pending := by
  have hother {key : String} (hkey : tag ≠ key) : SentItem.text (some tag) ≠ .text (some key) := by
    simp [hkey]
  unfold dosEntry at h
  split at h
  · cases h
  split at h
  · rename_i hs
    subst hs
    rcases value with _ | n | _ | _ | _
    case integer =>
      cases h
      have hread : SentItem.integer? (.integer n) = some n := rfl
      refine ⟨?_, ?_⟩
      · rw [valuesUnder_hit hread, getLast_cons_getD]
      · rw [valuesUnder_miss (hother (by decide))]
    all_goals cases h
  rename_i hs
  split at h
  · rename_i hp
    subst hp
    rcases value with b | _ | _ | _ | _
    case boolean =>
      cases h
      have hread : SentItem.boolean? (.boolean b) = some b := rfl
      refine ⟨?_, ?_⟩
      · rw [valuesUnder_miss (hother (by decide))]
      · rw [valuesUnder_hit hread, getLast_cons_getD]
        rfl
    all_goals cases h
  rename_i hp
  cases h
  rw [valuesUnder_miss (hother hs), valuesUnder_miss (hother hp)]
  exact ⟨rfl, rfl⟩

variable {items : List SentItem}

lemma dosLoop_sent (h : dosLoop read (items.map SentItem.read) = .ok read') :
    read'.state = ((seenStates items).getLast?.map lowBits).getD read.state
      ∧ read'.pending = ((seenPendings items).getLast?.map id).getD read.pending := by
  unfold seenStates seenPendings
  induction items using keyedItems.induct generalizing read with
  | case1 key value rest ih =>
    rw [map_cons, map_cons] at h
    rw [keyedItems]
    by_cases htext : ∃ tag, key = .text (some tag)
    · obtain ⟨tag, rfl⟩ := htext
      change dosLoop read (.text (some tag) :: value.read :: rest.map SentItem.read) = _ at h
      rw [dosLoop] at h
      rcases hentry : dosEntry read tag value.read with e | next
      · rw [hentry] at h
        cases h
      simp only [hentry] at h
      split at h
      · cases h
      obtain ⟨hstate, hpending⟩ := ih h
      obtain ⟨hstate', hpending'⟩ := dosEntry_sent hentry (textFront (keyedItems rest))
      rw [textFront_text, hstate', hpending']
      exact ⟨hstate, hpending⟩
    -- the loop ends here, and so does the front
    rcases key with _ | _ | s | _ | _
    case text =>
      rcases s with _ | tag
      · cases h
      · exact absurd ⟨tag, rfl⟩ htext
    all_goals
      rw [textFront_other rfl]
      cases h
      exact ⟨rfl, rfl⟩
  | case2 items hshort =>
    rcases items with _ | ⟨key, _ | ⟨value, rest⟩⟩
    · cases h
      exact ⟨rfl, rfl⟩
    · -- a key without a value
      rcases key with _ | _ | _ | _ | _
      case text s =>
        rcases s with _ | tag
        · cases h
        change dosLoop read [.text (some tag)] = _ at h
        rw [dosLoop] at h
        split at h
        · cases h
        cases h
        exact ⟨rfl, rfl⟩
      all_goals
        cases h
        exact ⟨rfl, rfl⟩
    · exact absurd rfl (hshort key value rest)

variable {state : OicSecDeviceOnboardingState}

lemma code_eq_zero : 0 = state.code ↔ state = .reset := by
  cases state <;> decide

variable {dos : OicSecDostype}

variable {sent : Sent} {pending : Bool}

lemma dosRight_current {state : UInt32} (hstates : sentStates sent = [])
    (hpendings : sentPendings sent = []) :
    DosRight sent dos state pending ↔ state = dos.state.code ∧ pending = dos.pending := by
  constructor
  · intro h
    exact ⟨h.currentState hstates, h.currentPending hpendings⟩
  · rintro ⟨hstate, hpending⟩
    refine ⟨fun hne => absurd hstates hne, fun _ => hstate, ?_, fun _ => hpending⟩
    exact fun hne => absurd hpendings hne

lemma mapState_iff {state : UInt32}
    (h : state = ((seenStates items).getLast?.map lowBits).getD 0) :
    ((sentStates (.map items) ≠ [] → ∃ n ∈ sentStates (.map items), Stands state n)
        ∧ (sentStates (.map items) = [] → state = dos.state.code))
      ↔ match (seenStates items).getLast? with
        | some n => ∃ m ∈ sentStates (.map items), FitsBits m ∧ lowBits m = lowBits n
        | none => 0 ∈ sentStates (.map items)
          ∨ sentStates (.map items) = [] ∧ dos.state = .reset := by
  rcases hlast : (seenStates items).getLast? with _ | n
  · rw [hlast, map_none, Option.getD_none] at h
    rw [h, code_eq_zero]
    simp only [stands_zero, exists_eq_right]
    by_cases hnone : sentStates (.map items) = []
    · simp [hnone]
    · simp [hnone]
  have hmem : n ∈ sentStates (.map items) := mem_of_mem_front (mem_of_getLast? hlast)
  have hsome : sentStates (.map items) ≠ [] := ne_nil_of_mem hmem
  rw [hlast, map_some, getD_some] at h
  rw [h]
  simp [hsome, stands_iff]

lemma mapPending_iff (h : pending = ((seenPendings items).getLast?.map id).getD false) :
    ((sentPendings (.map items) ≠ [] → pending ∈ sentPendings (.map items))
        ∧ (sentPendings (.map items) = [] → pending = dos.pending))
      ↔ ((seenPendings items).getLast? = none → false ∈ sentPendings (.map items)
        ∨ sentPendings (.map items) = [] ∧ dos.pending = false) := by
  rcases hlast : (seenPendings items).getLast? with _ | b
  · rw [hlast, map_none, Option.getD_none] at h
    rw [h, eq_comm (a := false)]
    by_cases hnone : sentPendings (.map items) = []
    · simp [hnone]
    · simp [hnone]
  have hmem : b ∈ sentPendings (.map items) := mem_of_mem_front (mem_of_getLast? hlast)
  have hsome : sentPendings (.map items) ≠ [] := ne_nil_of_mem hmem
  rw [hlast, map_some, getD_some, id] at h
  rw [h]
  simp [hsome, hmem]

variable {pstat : OicSecPstat}

lemma dosRight_iff {readOnly : Bool} (h : readDos sent.read pstat readOnly = .ok read) :
    DosRight sent pstat.dos read.state read.pending ↔ DosFits sent pstat.dos := by
  rcases sent with _ | _ | b | n | s | ⟨length, items⟩ | items | _
  case error => cases h
  case absent =>
    cases h
    rw [dosRight_current rfl rfl]
    exact iff_of_true ⟨rfl, rfl⟩ trivial
  case array =>
    simp only [readDos, Sent.read, Found.items?] at h
    split at h
    · cases h
    obtain ⟨hstate, hpending⟩ := dosLoop_sent h
    rw [dosRight_current rfl rfl, hstate, hpending, DosFits]
    apply and_congr
    · rcases (seenStates items).getLast? with _ | n
      · exact code_eq_zero
      · exact Iff.rfl
    · rcases (seenPendings items).getLast? with _ | b
      · exact eq_comm
      · exact Iff.rfl
  case map =>
    simp only [readDos, Sent.read, Found.items?] at h
    split at h
    · cases h
    obtain ⟨hstate, hpending⟩ := dosLoop_sent h
    rw [DosFits, ← mapState_iff hstate, ← mapPending_iff hpending]
    constructor
    · intro hright
      exact ⟨⟨hright.carriedState, hright.currentState⟩, hright.carriedPending,
        hright.currentPending⟩
    · rintro ⟨⟨hcarried, hcurrent⟩, hcarried', hcurrent'⟩
      exact ⟨hcarried, hcurrent, hcarried', hcurrent'⟩
  all_goals
    cases h
    rw [dosRight_current rfl rfl, code_eq_zero, eq_comm (a := false)]
    exact Iff.rfl

/-! ## The update -/

variable {find : String → Sent}

lemma updateRight_iff {enters : Bool} {update : PstatUpdate} {mark : Bool}
    (h : cborPayloadToPstatBin (.map enters (fun key => (find key).read)) pstat state
      = .ok (update, mark)) :
    UpdateRight find pstat update ↔ PartialFits find pstat := by
  rcases enters with _ | _
  · cases h
  simp only [cborPayloadToPstatBin, bind_ok_iff] at h
  obtain ⟨dos, hdos, ⟨isOp, isOpMark⟩, hisop, ⟨cm, cmMark⟩, hcm, ⟨tm, tmMark⟩, htm,
    ⟨om, omMark⟩, hom, ⟨sm, smMark⟩, hsm, ⟨rownerID, rownerMark⟩, hrowner, hreturn⟩ := h
  simp only [pure, Except.pure, Except.ok.injEq, Prod.mk.injEq] at hreturn
  obtain ⟨rfl, -⟩ := hreturn
  have hints : (∀ key ∈ ["cm", "tm", "om", "sm"], ∀ n, find key = .integer n → FitsBits n)
      ↔ (∀ n, find "cm" = .integer n → FitsBits n) ∧ (∀ n, find "tm" = .integer n → FitsBits n)
        ∧ (∀ n, find "om" = .integer n → FitsBits n)
        ∧ (∀ n, find "sm" = .integer n → FitsBits n) := by
    simp
  constructor
  · rintro ⟨hdos', -, hcm', htm', hom', hsm', -⟩
    obtain ⟨hsm', hmodes⟩ := (modesRight_iff hsm).mp hsm'
    refine ⟨(dosRight_iff hdos).mp hdos', hints.mpr ⟨?_, ?_, ?_, hsm'⟩, hmodes⟩
    · exact (intRight_iff hcm).mp hcm'
    · exact (intRight_iff htm).mp htm'
    · exact (intRight_iff hom).mp hom'
  · rintro ⟨hdos', hints', hmodes⟩
    obtain ⟨hcm', htm', hom', hsm'⟩ := hints.mp hints'
    exact
      { dos := (dosRight_iff hdos).mpr hdos'
        isop := boolRight hisop
        cm := (intRight_iff hcm).mpr hcm'
        tm := (intRight_iff htm).mpr htm'
        om := (intRight_iff hom).mpr hom'
        sm := (modesRight_iff hsm).mpr ⟨hsm', hmodes⟩
        rowneruuid := uuidRight hrowner }

lemma calledState_of_fits {svrs : SecureResources} (hpstat : svrs.gPstat = some pstat)
    (hnone : sentStates (find "dos") = []) (hfits : PartialFits find pstat) (enters : Bool) :
    calledState (SentPayload.map enters find).read svrs = none := by
  rcases hcalled : calledState (SentPayload.map enters find).read svrs with _ | state
  · rfl
  obtain ⟨update, hpasses, rfl, hchange⟩ := passes_of_calledState hpstat hcalled
  have hright := (updateRight_iff (passes_iff.mp hpasses).1).mpr hfits
  exact absurd (hright.dos.currentState hnone) hchange

/-- **A partial update, exactly.** For every `pstat` and every map that the
decoder accepts: every property is what was sent or the current one, and no
change of state is asked for unless one was sent. -/
theorem partialUpdate_exact {enters : Bool} {find : String → Sent} {svrs : SecureResources}
    {pstat : OicSecPstat} (hpstat : svrs.gPstat = some pstat)
    {state : OicSecDeviceOnboardingState} {update : PstatUpdate} {mark : Bool}
    (h : cborPayloadToPstatBin (.map enters (fun key => (find key).read)) pstat state
      = .ok (update, mark)) :
    (UpdateRight find pstat update
        ∧ (sentStates (find "dos") = [] →
          calledState (SentPayload.map enters find).read svrs = none))
      ↔ PartialFits find pstat := by
  rw [updateRight_iff h]
  constructor
  · exact fun hboth => hboth.1
  · intro hfits
    exact ⟨hfits, fun hnone => calledState_of_fits hpstat hnone hfits enters⟩

def sendTm (key : String) : Sent := if key = "tm" then .integer 8 else .absent

def tmUpdate : PstatUpdate where
  dosState := 1
  dosPending := false
  isOp := false
  cm := dpmTakeOwner
  tm := 8
  om := singleServiceClientDriven
  sm := [singleServiceClientDriven]
  rownerID := OicUuid.nil

theorem sendTm_read :
    UpdateRight sendTm gDefaultPstat tmUpdate
      ∧ (sentStates (sendTm "dos") = [] → calledState (SentPayload.map true sendTm).read
        (defaultResources someUuid) = none) := by
  have hread : cborPayloadToPstatBin (.map true (fun key => (sendTm key).read)) gDefaultPstat
      .rfotm = .ok (tmUpdate, false) := rfl
  have hpstat : (defaultResources someUuid).gPstat = some gDefaultPstat := rfl
  refine (partialUpdate_exact hpstat hread).mpr ⟨trivial, ?_, ?_⟩
  · intro key _ n hn
    unfold sendTm at hn
    split at hn
    · rw [← Sent.integer.inj hn]
      decide
    · cases hn
  · intro _ mode hmode
    exact absurd hmode not_mem_nil

/-- A `dos` without members. -/
def sendEmptyDos (key : String) : Sent := if key = "dos" then .map [] else .absent

theorem emptyDos_resets :
    ¬ ∀ update mark,
      cborPayloadToPstatBin (.map true (fun key => (sendEmptyDos key).read)) gDefaultPstat .rfotm
        = .ok (update, mark) →
      UpdateRight sendEmptyDos gDefaultPstat update
        ∧ (sentStates (sendEmptyDos "dos") = [] → calledState
          (SentPayload.map true sendEmptyDos).read (defaultResources someUuid) = none) := by
  intro h
  have hread : cborPayloadToPstatBin (.map true (fun key => (sendEmptyDos key).read)) gDefaultPstat
      .rfotm = .ok ({ tmUpdate with dosState := 0, tm := 0 }, false) := rfl
  have hcalled : calledState (SentPayload.map true sendEmptyDos).read
      (defaultResources someUuid) = some 0 := rfl
  have hnone := (h _ _ hread).2 rfl
  rw [hcalled] at hnone
  cases hnone

end

/-- `SetDosState` gets to an assertion: in `IsValidStateTransition`, or, when
that allows the transition, in `DoStateChange`. -/
def AssertionFails (payload : Option Payload) (svrs : SecureResources) : Prop :=
  ∃ pstat state, svrs.gPstat = some pstat ∧ calledState payload svrs = some state
    ∧ pstat.dos.pending = false
    ∧ (isValidStateTransition pstat.dos.state state = none
      ∨ isValidStateTransition pstat.dos.state state = some true ∧ state = 5)

/-- The integer that is read as `dos.s`, as it was sent. -/
def sentDosS : SentPayload → Option ℤ
  | .map _ find =>
    match find "dos" with
    | .array _ items => (seenStates items).getLast?
    | .map items => (seenStates items).getLast?
    | _ => none
  | _ => none

def IsDosState (n : ℤ) : Prop := 0 ≤ n ∧ n < 5

instance (n : ℤ) : Decidable (IsDosState n) := inferInstanceAs (Decidable (_ ∧ _))

def Refused (svrs : SecureResources) (code : OCEntityHandlerResult) (svrs' : SecureResources) :
    Prop :=
  code = .notAcceptable ∨ code = .badReq ∨ (code = .error ∧ svrs' = svrs)

structure PostSafe (world : ResetWorld) (write : Bool) (payload : SentPayload)
    (svrs : SecureResources) : Prop where
  noAssertion : ¬ AssertionFails payload.read svrs
  refused : ∀ n, sentDosS payload = some n → ¬ IsDosState n → ∀ code svrs',
    handlePstatPostRequest world write payload.read svrs = some (code, svrs') →
      Refused svrs code svrs' ∧ svrs'.dosState = svrs.dosState

/-- The condition: an integer that is no state does not pass the checks, or its low 32 bits are a
number that `SetDosState` refuses. -/
def StateFits (payload : SentPayload) (svrs : SecureResources) : Prop :=
  ∀ n pstat update, sentDosS payload = some n → ¬ IsDosState n → svrs.gPstat = some pstat →
    Passes payload.read pstat update →
    lowBits n ≠ 5 ∧ lowBits n ≠ pstat.dos.state.code
      ∧ RefusesChange (lowBits n) (pstat.written update)
        { svrs with gPstat := some (pstat.written update) }

/-! ## The state that is asked for -/

lemma code_ne_five (state : OicSecDeviceOnboardingState) : state.code ≠ 5 := by
  cases state <;> decide

variable {state : UInt32}

lemma isValidStateTransition_none {old : OicSecDeviceOnboardingState} :
    isValidStateTransition old state = none ↔ state = 5 := by
  unfold isValidStateTransition
  by_cases hfive : state = 5
  · rw [if_pos hfive]
    simp [hfive]
  rw [if_neg hfive]
  apply iff_of_false _ hfive
  split <;> exact Option.some_ne_none _

lemma setDosState_returns (world : ResetWorld) (h : state ≠ 5) (svrs : SecureResources) :
    ∃ result changed, setDosState world state svrs = some (result, changed) := by
  unfold setDosState
  split
  · exact ⟨_, _, rfl⟩
  split
  · exact ⟨_, _, rfl⟩
  simp only
  split
  · rename_i hnone
    exact absurd (isValidStateTransition_none.mp hnone) h
  · exact ⟨_, _, rfl⟩
  · exact ⟨_, _, rfl⟩

variable {payload : SentPayload} {pstat : OicSecPstat} {update : PstatUpdate}

lemma dosState_of_passes (h : Passes payload.read pstat update) :
    (∃ n, sentDosS payload = some n ∧ update.dosState = lowBits n)
      ∨ (sentDosS payload = none
        ∧ (update.dosState = pstat.dos.state.code ∨ update.dosState = 0)) := by
  obtain ⟨⟨read, hpayload, hread⟩, -⟩ := h
  rcases payload with _ | _ | ⟨enters, find⟩
  · cases hpayload
  · cases hpayload
    cases hread
  cases hpayload
  rcases enters with _ | _
  · cases hread
  simp only [cborPayloadToPstatBin, bind_ok_iff] at hread
  obtain ⟨dos, hdos, _, -, _, -, _, -, _, -, _, -, _, -, hreturn⟩ := hread
  simp only [pure, Except.pure, Except.ok.injEq, Prod.mk.injEq] at hreturn
  have hstate : update.dosState = dos.state := by rw [← hreturn.1]
  rw [hstate, sentDosS]
  rcases hsent : find "dos" with _ | _ | b | n | s | ⟨length, items⟩ | items | _
  case array | map =>
    rw [hsent] at hdos
    simp only [readDos, Sent.read, Found.items?] at hdos
    split at hdos
    · cases hdos
    have hloop := (dosLoop_sent hdos).1
    simp only
    rcases hlast : (seenStates items).getLast? with _ | n
    · rw [hlast] at hloop
      exact .inr ⟨rfl, .inr hloop⟩
    rw [hlast] at hloop
    exact .inl ⟨n, rfl, hloop⟩
  all_goals
    rw [hsent] at hdos
    refine .inr ⟨rfl, readDos_plain ?_ hdos⟩
  all_goals rfl

lemma dosState_of_sent (hpasses : Passes payload.read pstat update) {n : ℤ}
    (hsent : sentDosS payload = some n) :
    update.dosState = lowBits n := by
  rcases dosState_of_passes hpasses with ⟨m, hm, hlow⟩ | ⟨hnone, -⟩
  · rw [hsent, Option.some.injEq] at hm
    rw [hlow, hm]
  rw [hsent] at hnone
  cases hnone

lemma lowBits_ne_five {n : ℤ} (h : IsDosState n) : lowBits n ≠ 5 := by
  intro hfive
  have hlow := lowBits_toNat n
  have hnat : (lowBits n).toNat = 5 := by rw [hfive]; rfl
  rw [IsDosState] at h
  omega

/-! ## Requests -/

section Request

variable {world : ResetWorld} {write : Bool} {payload : SentPayload} {svrs : SecureResources}

lemma noAssertion_of_fits (h : StateFits payload svrs) :
    ¬ AssertionFails payload.read svrs := by
  rintro ⟨pstat, state, hpstat, hcalled, -, hassert⟩
  have hfive : state = 5 := by
    rcases hassert with hnone | ⟨hvalid, hfive⟩
    · exact isValidStateTransition_none.mp hnone
    · exact hfive
  obtain ⟨update, hpasses, hstate, hchange⟩ := passes_of_calledState hpstat hcalled
  rw [hfive] at hstate hchange
  rcases dosState_of_passes hpasses with ⟨n, hsent, hlow⟩ | ⟨-, hcurrent | hreset⟩
  · -- what was sent is 5 in its low bits, so it is no state
    rw [hlow] at hstate
    have hno : ¬ IsDosState n := fun hyes => lowBits_ne_five hyes hstate
    exact (h n pstat update hsent hno hpstat hpasses).1 hstate
  · exact hchange (hstate.symm.trans hcurrent)
  · rw [hstate] at hreset
    simp at hreset

variable {code : OCEntityHandlerResult}

lemma refused_early (hok : code ≠ .ok)
    (hise : code ≠ .internalServerError) : Refused svrs code svrs := by
  cases code with
  | ok => exact absurd rfl hok
  | error => exact .inr (.inr ⟨rfl, rfl⟩)
  | badReq => exact .inr (.inl rfl)
  | notAcceptable => exact .inl rfl
  | internalServerError => exact absurd rfl hise

lemma refused_of_fits (h : StateFits payload svrs) {n : ℤ} (hsent : sentDosS payload = some n)
    (hno : ¬ IsDosState n) {svrs' : SecureResources}
    (hpost : handlePstatPostRequest world write payload.read svrs = some (code, svrs')) :
    Refused svrs code svrs' ∧ svrs'.dosState = svrs.dosState := by
  rcases handlePstatPostRequest_cases hpost with
    ⟨rfl, hok, hise, -⟩ | ⟨pstat, update, hpstat, hpasses, hfinish⟩
  · exact ⟨refused_early hok hise, rfl⟩
  obtain ⟨-, hchange, hrefuses⟩ := h n pstat update hsent hno hpstat hpasses
  have hstate := dosState_of_sent hpasses hsent
  have hset := setDosState_refused world rfl hrefuses
  rw [finishPstatPost, hstate, if_neg hchange, hset] at hfinish
  simp only [Option.some.injEq, Prod.mk.injEq] at hfinish
  rw [← hfinish.1, ← hfinish.2, dosState_of_some hpstat]
  exact ⟨.inl rfl, rfl⟩

lemma fits_of_safe (hpending : ∀ pstat, svrs.gPstat = some pstat → pstat.dos.pending = false)
    (h : PostSafe world write payload svrs) : StateFits payload svrs := by
  intro n pstat update hsent hno hpstat hpasses
  have hstate := dosState_of_sent hpasses hsent
  have hpost := handlePstatPostRequest_of_passes world write hpstat hpasses
  have hfive : lowBits n ≠ 5 := by
    intro hfive
    apply h.noAssertion
    refine ⟨pstat, 5, hpstat, ?_, hpending pstat hpstat, .inl rfl⟩
    rw [calledState_of_passes hpstat hpasses, hstate, hfive]
    exact if_neg (code_ne_five pstat.dos.state ·.symm)
  have hchange : lowBits n ≠ pstat.dos.state.code := by
    intro hsame
    rw [finishPstatPost, hstate, if_pos hsame] at hpost
    obtain ⟨hrefused, -⟩ := h.refused n hsent hno _ _ hpost
    rcases hrefused with hcode | hcode | ⟨-, hstored⟩
    · cases write <;> cases hcode
    · cases write <;> cases hcode
    · -- a write that fails has been tried
      have hlength := congrArg (·.storedPstats.length) hstored
      simp only [storePstat, List.length_cons] at hlength
      omega
  refine ⟨hfive, hchange, ?_⟩
  rw [finishPstatPost, hstate, if_neg hchange] at hpost
  obtain ⟨result, changed, hset⟩ := setDosState_returns world hfive
    { svrs with gPstat := some (pstat.written update) }
  rw [hset] at hpost
  rcases setDosState_cases rfl hset with
    ⟨hrefuses, -, -⟩ | ⟨-, -, -, -, -, -, rfl, -⟩ | ⟨-, -, ⟨rfl, -⟩ | ⟨rfl, -⟩⟩
  · exact hrefuses
  all_goals
    obtain ⟨hrefused, -⟩ := h.refused n hsent hno _ _ hpost
    rcases hrefused with hcode | hcode | ⟨hcode, -⟩ <;> cases hcode

end Request

/-- **The assertions, exactly.** For every reachable state of a device, every
payload of a POST to `pstat`, and however the calls of the handler go. -/
theorem assertion_exact {start : SecureResources} (hstart : StartsWithDefaults start)
    (ops : List OnboardingOp) {svrs : SecureResources}
    (hrun : (Runs.run onboardingStep (some start) ops).1 = some svrs) (world : ResetWorld)
    (write : Bool) (payload : SentPayload) :
    PostSafe world write payload svrs ↔ StateFits payload svrs := by
  -- no change is pending between the requests
  have hinv := runInvariant_of_starts hstart ops
  constructor
  · exact fits_of_safe ((hinv.2 svrs hrun).notPending)
  · intro h
    exact ⟨noAssertion_of_fits h, fun n hsent hno code svrs' => refused_of_fits h hsent hno⟩

def sendDosS (n : ℤ) : SentPayload :=
  .map true (fun key =>
    if key = "dos" then .map [.text (some "s"), .integer n] else .absent)

theorem seven_refused :
    PostSafe smoothWorld true (sendDosS 7) (defaultResources someUuid) := by
  refine (assertion_exact (defaultResources_starts someUuid) [] rfl _ _ _).mpr ?_
  intro n pstat update hsent _ hpstat _
  cases hsent
  cases hpstat
  exact ⟨by decide, by decide, .inr (.inl rfl)⟩

theorem five_asserts :
    AssertionFails (sendDosS 5).read (defaultResources someUuid)
      ∧ ¬ PostSafe smoothWorld true (sendDosS 5) (defaultResources someUuid)
      ∧ ¬ PostSafe smoothWorld true (sendDosS (2 ^ 32)) (defaultResources someUuid) := by
  have hfails : AssertionFails (sendDosS 5).read (defaultResources someUuid) :=
    ⟨gDefaultPstat, 5, rfl, rfl, rfl, .inl rfl⟩
  refine ⟨hfails, fun h => h.noAssertion hfails, fun h => ?_⟩
  obtain ⟨hrefused, -⟩ := h.refused (2 ^ 32) rfl (by decide) _ _ rfl
  rcases hrefused with hcode | hcode | ⟨hcode, -⟩ <;> cases hcode

end Iochibity.Sec
