/-
Which properties of `pstat` and `doxm` a POST can change, and what a refused one leaves behind.
-/
import Iochibity.Sec.OnboardingState

namespace Iochibity.Sec

open CborLookup

section

/-! ## The ways through the handler of `pstat` -/

def Passes (payload : Option Payload) (pstat : OicSecPstat) (update : PstatUpdate) : Prop :=
  (∃ read, payload = some read
      ∧ cborPayloadToPstatBin read pstat pstat.dos.state = .ok (update, false))
    ∧ pstat.sm.contains update.om = true

variable {pstat : OicSecPstat} {update : PstatUpdate}

lemma passes_iff {read : Payload} :
    Passes (some read) pstat update
      ↔ cborPayloadToPstatBin read pstat pstat.dos.state = .ok (update, false)
        ∧ pstat.sm.contains update.om = true := by
  simp [Passes]

variable {world : ResetWorld} {write : Bool} {payload : Option Payload}
  {svrs svrs' : SecureResources} {code : OCEntityHandlerResult}

lemma handlePstatPostRequest_cases
    (h : handlePstatPostRequest world write payload svrs = some (code, svrs')) :
    (svrs' = svrs ∧ code ≠ .ok ∧ code ≠ .internalServerError
        ∧ ∀ pstat update, svrs.gPstat = some pstat → ¬ Passes payload pstat update)
      ∨ ∃ pstat update, svrs.gPstat = some pstat ∧ Passes payload pstat update
        ∧ finishPstatPost world write update pstat
            { svrs with gPstat := some (pstat.written update) } = some (code, svrs') := by
  rcases payload with _ | read
  · cases h
    refine .inl ⟨rfl, by decide, by decide, ?_⟩
    rintro pstat update - ⟨⟨read, hread, -⟩, -⟩
    cases hread
  rcases hpstat : svrs.gPstat with _ | pstat
  · simp only [handlePstatPostRequest, hpstat] at h
    cases h
    refine .inl ⟨rfl, by decide, by decide, ?_⟩
    intro pstat update hnone
    cases hnone
  simp only [handlePstatPostRequest, hpstat] at h
  -- the update that passes is the one that was decoded
  have hpasses : ∀ pstat' update, some pstat = some pstat' → Passes (some read) pstat' update →
      cborPayloadToPstatBin read pstat pstat.dos.state = .ok (update, false)
        ∧ pstat.sm.contains update.om = true := by
    rintro pstat' update hsame hpasses
    cases hsame
    exact passes_iff.mp hpasses
  rcases hread : cborPayloadToPstatBin read pstat pstat.dos.state with (_ | _) | ⟨update, _ | _⟩
  all_goals
    rw [hread] at hpasses
    simp only [hread] at h
  · cases h
    refine .inl ⟨rfl, by decide, by decide, ?_⟩
    intro pstat' update hsame hno
    cases (hpasses pstat' update hsame hno).1
  · cases h
  · by_cases hom : pstat.sm.contains update.om = true
    · rw [if_neg (not_not_intro hom)] at h
      exact .inr ⟨pstat, update, rfl, passes_iff.mpr ⟨hread, hom⟩, h⟩
    rw [if_pos hom] at h
    cases h
    refine .inl ⟨rfl, by decide, by decide, ?_⟩
    intro pstat' update' hsame hno
    obtain ⟨hok, hom'⟩ := hpasses pstat' update' hsame hno
    cases hok
    exact hom hom'
  · cases h
    refine .inl ⟨rfl, by decide, by decide, ?_⟩
    intro pstat' update' hsame hno
    cases (hpasses pstat' update' hsame hno).1

lemma finishPstatPost_cases
    (h : finishPstatPost world write update pstat svrs = some (code, svrs')) :
    (update.dosState = pstat.dos.state.code ∧ svrs' = storePstat svrs
        ∧ (code = .ok ∨ code = .error))
      ∨ (update.dosState ≠ pstat.dos.state.code ∧ ∃ result changed,
        setDosState world update.dosState svrs = some (result, changed)
          ∧ ((result = .ok ∧ code = .ok ∧ svrs' = storePstat changed)
            ∨ (result = .forbiddenReq ∧ code = .notAcceptable ∧ svrs' = changed)
            ∨ (result = .internalServerError ∧ code = .internalServerError
              ∧ svrs' = changed))) := by
  unfold finishPstatPost at h
  split_ifs at h with hsame hwrite
  · cases h
    exact .inl ⟨hsame, rfl, .inl rfl⟩
  · cases h
    exact .inl ⟨hsame, rfl, .inr rfl⟩
  · refine .inr ⟨hsame, ?_⟩
    rcases hset : setDosState world update.dosState svrs with _ | ⟨_ | _ | _, changed⟩
    all_goals
      rw [hset] at h
      cases h
    · exact ⟨_, _, rfl, .inl ⟨rfl, rfl, rfl⟩⟩
    · exact ⟨_, _, rfl, .inr (.inl ⟨rfl, rfl, rfl⟩)⟩
    · exact ⟨_, _, rfl, .inr (.inr ⟨rfl, rfl, rfl⟩)⟩

/-! ## Refused updates of `pstat` -/

/-- The POST is answered with a refusal: a read-only property or a forbidden
change of state, an unsupported mode, or a payload that cannot be read. -/
def UpdateRefused (payload : Option Payload) (svrs : SecureResources)
    (code : OCEntityHandlerResult) : Prop :=
  code = .notAcceptable ∨ code = .badReq
    ∨ (code = .error ∧ ∃ read pstat, payload = some read ∧ svrs.gPstat = some pstat
      ∧ cborPayloadToPstatBin read pstat pstat.dos.state = .error .failed)

/-- The update passes the checks and asks for a change of state that is refused
once the other properties have been written. -/
def RefusedLate (payload : Option Payload) (svrs : SecureResources) (pstat : OicSecPstat)
    (update : PstatUpdate) : Prop :=
  svrs.gPstat = some pstat ∧ Passes payload pstat update ∧ update.dosState ≠ pstat.dos.state.code
    ∧ RefusesChange update.dosState (pstat.written update)
      { svrs with gPstat := some (pstat.written update) }

lemma handlePstatPostRequest_of_passes (world : ResetWorld) (write : Bool)
    (hpstat : svrs.gPstat = some pstat) (hpasses : Passes payload pstat update) :
    handlePstatPostRequest world write payload svrs = finishPstatPost world write update pstat
        { svrs with gPstat := some (pstat.written update) } := by
  obtain ⟨⟨read, rfl, hread⟩, hom⟩ := hpasses
  simp only [handlePstatPostRequest, hpstat, hread]
  rw [if_neg (not_not_intro hom)]

lemma finishPstatPost_refused {pstat' : OicSecPstat} (hpstat : svrs.gPstat = some pstat')
    (h : finishPstatPost world write update pstat svrs = some (code, svrs'))
    (hcode : code = .notAcceptable ∨ code = .badReq) :
    update.dosState ≠ pstat.dos.state.code ∧ RefusesChange update.dosState pstat' svrs
      ∧ svrs' = svrs := by
  rcases finishPstatPost_cases h with ⟨-, -, rfl | rfl⟩ | ⟨hchange, result, changed, hset, hout⟩
  · rcases hcode with hcode | hcode <;> contradiction
  · rcases hcode with hcode | hcode <;> contradiction
  -- of the three answers to a change of state only NOT_ACCEPTABLE is left
  rcases hout with ⟨-, rfl, -⟩ | ⟨hresult, -, rfl⟩ | ⟨-, rfl, -⟩
  · rcases hcode with hcode | hcode <;> contradiction
  · rcases setDosState_cases hpstat hset with
      ⟨hrefuses, -, hsame⟩ | ⟨-, -, -, -, -, -, hok, -⟩ | ⟨-, -, ⟨hok, -⟩ | ⟨hise, -⟩⟩
    · exact ⟨hchange, hrefuses, hsame⟩
    · exact absurd (hresult.symm.trans hok) (by decide)
    · exact absurd (hresult.symm.trans hok) (by decide)
    · exact absurd (hresult.symm.trans hise) (by decide)
  · rcases hcode with hcode | hcode <;> contradiction

lemma UpdateRefused.code_of_passes (h : UpdateRefused payload svrs code)
    (hpstat : svrs.gPstat = some pstat)
    (hpasses : Passes payload pstat update) : code = .notAcceptable ∨ code = .badReq := by
  rcases h with hcode | hcode | ⟨-, read, pstat', hpayload, hpstat', hfailed⟩
  · exact .inl hcode
  · exact .inr hcode
  · rw [hpstat, Option.some.injEq] at hpstat'
    rw [hpayload, passes_iff] at hpasses
    rw [← hpstat', hpasses.1] at hfailed
    cases hfailed

/-- **Atomicity of a POST to `pstat`.** Every refusal leaves `pstat` as it was
exactly when an update that is refused late brings no new `om`, `tm` or owner. -/
theorem pstat_post_atomic_iff (world : ResetWorld) (write : Bool) (payload : Option Payload)
    (svrs : SecureResources) :
    (∀ code svrs', handlePstatPostRequest world write payload svrs = some (code, svrs') →
        UpdateRefused payload svrs code → svrs'.gPstat = svrs.gPstat)
      ↔ ∀ pstat update, RefusedLate payload svrs pstat update →
        update.om = pstat.om ∧ update.tm = pstat.tm ∧ update.rownerID = pstat.rownerID := by
  constructor
  · rintro h pstat update ⟨hpstat, hpasses, hchange, hrefuses⟩
    have hset : setDosState world update.dosState
        { svrs with gPstat := some (pstat.written update) }
        = some (.forbiddenReq, { svrs with gPstat := some (pstat.written update) }) :=
      setDosState_refused world rfl hrefuses
    have hpost : handlePstatPostRequest world write payload svrs
        = some (.notAcceptable, { svrs with gPstat := some (pstat.written update) }) := by
      rw [handlePstatPostRequest_of_passes world write hpstat hpasses, finishPstatPost,
        if_neg hchange, hset]
    have hsame := h _ _ hpost (.inl rfl)
    rw [hpstat, Option.some.injEq] at hsame
    rw [← hsame]
    exact ⟨rfl, rfl, rfl⟩
  · intro h code svrs' hpost hrefused
    rcases handlePstatPostRequest_cases hpost with ⟨rfl, -⟩ | ⟨pstat, update, hpstat, hpasses, hend⟩
    · rfl
    have hcode := hrefused.code_of_passes hpstat hpasses
    obtain ⟨hchange, hrefuses, rfl⟩ := finishPstatPost_refused rfl hend hcode
    obtain ⟨hom, htm, hrowner⟩ := h pstat update ⟨hpstat, hpasses, hchange, hrefuses⟩
    -- what has been written is what was there
    have hwritten : pstat.written update = pstat := by
      rw [OicSecPstat.written, hom, htm, hrowner]
    rw [hwritten, hpstat]

def someUuid : OicUuid := ⟨Vector.replicate 16 17⟩

/-- The resources that a device with a manufacturer's credential starts with: the default `acl` and
its credentials belong to the device. -/
def defaultResources (deviceID : OicUuid) : SecureResources where
  gDoxm := some (gDefaultDoxm deviceID)
  gPstat := some gDefaultPstat
  aclRownerID := some deviceID
  credRownerID := deviceID
  storedPstats := [gDefaultPstat]

def smoothWorld : ResetWorld where
  resetSecureResources := true
  gDoxm := none
  pstatSource := .kept
  aclRownerID := some OicUuid.nil
  credRownerID := OicUuid.nil
  aclWrite := true
  credWrite := true
  pstatWrite := true
  enableAnonECDHCipherSuite := true

/-- `{tm: 8, dos: {s: 2}}`: provisioning for a device that nobody owns. -/
def earlyProvisioning : Payload :=
  .map true (fun key =>
    if key = "tm" then .integer 8
    else if key = "dos" then .map [.text (some "s"), .integer 2]
    else .absent)

theorem tm_written_though_refused :
    ¬ ∀ code svrs', handlePstatPostRequest smoothWorld true (some earlyProvisioning)
          (defaultResources someUuid) = some (code, svrs') →
        UpdateRefused (some earlyProvisioning) (defaultResources someUuid) code →
        svrs'.gPstat = (defaultResources someUuid).gPstat := by
  intro h
  have hsame := h .notAcceptable { defaultResources someUuid with
    gPstat := some { gDefaultPstat with tm := 8 } } rfl (.inl rfl)
  exact absurd hsame (by decide)

/-! ## Protected properties -/

def AsksFor (payload : Option Payload) (pstat : OicSecPstat)
    (state : OicSecDeviceOnboardingState) : Prop :=
  state ≠ pstat.dos.state ∧ ∃ update, Passes payload pstat update ∧ update.dosState = state.code

/-- The properties of `pstat` that the server sets when it enters a state: all of
them with RESET, four with any other. -/
def ServerControlled (state : OicSecDeviceOnboardingState) (p : PstatProperty) : Prop :=
  state = .reset ∨ p = .dos ∨ p = .isop ∨ p = .cm ∨ p = .tm

structure PstatPostProtects (payload : Option Payload) (svrs : SecureResources)
    (pstat : OicSecPstat) (code : OCEntityHandlerResult) (svrs' : SecureResources) : Prop where
  /-- A read-only property stays, unless an accepted change of state sets it or a
  reset fails on the way. -/
  pstat_kept : ∀ p, isPstatPropertyReadOnly p pstat.dos.state = true →
    (∃ pstat', svrs'.gPstat = some pstat' ∧ pstat'.Agrees pstat p)
      ∨ ∃ state, AsksFor payload pstat state
        ∧ ((code = .ok ∧ ServerControlled state p) ∨ (state = .reset ∧ code = .internalServerError))
  /-- `doxm` stays, unless there is a reset. -/
  doxm_kept : svrs'.gDoxm = svrs.gDoxm
    ∨ (AsksFor payload pstat .reset ∧ (code = .ok ∨ code = .internalServerError))
  /-- A payload that can be read is refused when it carries a read-only property. -/
  refused : ∀ enters find p, payload = some (.map enters find) → carriesPstat find p = true →
    isPstatPropertyReadOnly p pstat.dos.state = true →
    (∃ read, cborPayloadToPstatBin (.map enters find) pstat pstat.dos.state = .ok read) →
    code = .notAcceptable ∧ svrs' = svrs
  /-- A payload that cannot be read changes nothing. -/
  unreadable : ∀ read, payload = some read →
    cborPayloadToPstatBin read pstat pstat.dos.state = .error .failed →
    code = .error ∧ svrs' = svrs

variable {p : PstatProperty}

lemma written_agrees (h : Passes payload pstat update)
    (hro : isPstatPropertyReadOnly p pstat.dos.state = true) :
    (pstat.written update).Agrees pstat p := by
  obtain ⟨⟨read, -, hread⟩, -⟩ := h
  obtain ⟨-, -, htm, hom, hrowner⟩ := cborPayloadToPstatBin_unmarked hread
  cases p with
  | tm => exact htm hro
  | om => exact hom hro
  | rowneruuid => exact hrowner hro
  | dos | isop | cm | sm => rfl

lemma storePstat_gPstat (svrs : SecureResources) : (storePstat svrs).gPstat = svrs.gPstat := by
  unfold storePstat
  split <;> rfl

lemma storePstat_gDoxm (svrs : SecureResources) : (storePstat svrs).gDoxm = svrs.gDoxm := by
  unfold storePstat
  split <;> rfl

lemma enter_agrees {state : OicSecDeviceOnboardingState}
    (h : ¬ ServerControlled state p) : (pstat.enter state).Agrees pstat p := by
  rw [ServerControlled, not_or, not_or, not_or, not_or] at h
  obtain ⟨-, hdos, hisop, hcm, htm⟩ := h
  cases p with
  | dos => exact absurd rfl hdos
  | isop => exact absurd rfl hisop
  | cm => exact absurd rfl hcm
  | tm => exact absurd rfl htm
  | om | sm | rowneruuid => cases state <;> rfl

lemma OicSecPstat.Agrees.trans {a b c : OicSecPstat} (hab : a.Agrees b p)
    (hbc : b.Agrees c p) : a.Agrees c p := by
  cases p <;> exact Eq.trans hab hbc

lemma OicSecPstat.Agrees.refl (a : OicSecPstat) (p : PstatProperty) : a.Agrees a p := by
  cases p <;> rfl

lemma pstat_marked_of_carries {enters : Bool} {find : String → Found} {read : PstatUpdate × Bool}
    (hcarries : carriesPstat find p = true) (hro : isPstatPropertyReadOnly p pstat.dos.state = true)
    (hread : cborPayloadToPstatBin (.map enters find) pstat pstat.dos.state = .ok read) :
    read.2 = true := by
  rcases read with ⟨update, _ | _⟩
  · obtain ⟨⟨find', hfind, hnot⟩, -⟩ := cborPayloadToPstatBin_unmarked hread
    cases hfind
    rw [hnot p hro] at hcarries
    cases hcarries
  · rfl

/-- `doxm` and the read-only properties of `pstat` are kept, but for what an
accepted change of state sets; or there was a reset. -/
def KeptOrReset (payload : Option Payload) (svrs : SecureResources) (pstat : OicSecPstat)
    (code : OCEntityHandlerResult) (svrs' : SecureResources) : Prop :=
  (svrs'.gDoxm = svrs.gDoxm ∧ ∀ p, isPstatPropertyReadOnly p pstat.dos.state = true →
        (∃ pstat', svrs'.gPstat = some pstat' ∧ pstat'.Agrees pstat p)
          ∨ ∃ state, AsksFor payload pstat state ∧ code = .ok ∧ ServerControlled state p)
    ∨ (AsksFor payload pstat .reset ∧ (code = .ok ∨ code = .internalServerError))

lemma finishPstatPost_kept (hpasses : Passes payload pstat update)
    (h : finishPstatPost world write update pstat
      { svrs with gPstat := some (pstat.written update) } = some (code, svrs')) :
    KeptOrReset payload svrs pstat code svrs' := by
  rcases finishPstatPost_cases h with ⟨-, rfl, -⟩ | ⟨hchange, result, changed, hset, hout⟩
  · refine .inl ⟨storePstat_gDoxm _, fun p hro => .inl ⟨_, storePstat_gPstat _, ?_⟩⟩
    exact written_agrees hpasses hro
  have hasks : ∀ state : OicSecDeviceOnboardingState, update.dosState = state.code →
      AsksFor payload pstat state := by
    intro state hstate
    refine ⟨?_, update, hpasses, hstate⟩
    rintro rfl
    exact hchange hstate
  rcases setDosState_cases rfl hset with ⟨-, hresult, hsame⟩
    | ⟨state, -, hstate, -, -, -, hresult, hentered⟩ | ⟨hzero, -, hreset⟩
  · -- refused: only what could be written has been
    left
    rcases hout with ⟨hok, -⟩ | ⟨-, -, rfl⟩ | ⟨hise, -⟩
    · rw [hresult] at hok
      cases hok
    · rw [hsame]
      exact ⟨rfl, fun p hro => .inl ⟨_, rfl, written_agrees hpasses hro⟩⟩
    · rw [hresult] at hise
      cases hise
  · left
    rcases hout with ⟨-, hcode, rfl⟩ | ⟨hno, -⟩ | ⟨hno, -⟩
    · rw [storePstat_gDoxm, storePstat_gPstat, hentered]
      refine ⟨rfl, fun p hro => ?_⟩
      by_cases hserver : ServerControlled state p
      · exact .inr ⟨state, hasks state hstate, hcode, hserver⟩
      · exact .inl ⟨_, rfl, (enter_agrees hserver).trans (written_agrees hpasses hro)⟩
    · rw [hresult] at hno
      cases hno
    · rw [hresult] at hno
      cases hno
  · refine .inr ⟨hasks .reset hzero, ?_⟩
    rcases hout with ⟨-, hcode, -⟩ | ⟨hno, -⟩ | ⟨-, hcode, -⟩
    · exact .inl hcode
    · rcases hreset with ⟨hresult, -⟩ | ⟨hresult, -⟩
      all_goals
        rw [hno] at hresult
        cases hresult
    · exact .inr hcode

lemma handlePstatPostRequest_protects (hpstat : svrs.gPstat = some pstat)
    (h : handlePstatPostRequest world write payload svrs = some (code, svrs')) :
    PstatPostProtects payload svrs pstat code svrs' := by
  have hkept : KeptOrReset payload svrs pstat code svrs' := by
    rcases handlePstatPostRequest_cases h with ⟨rfl, -⟩ | ⟨pstat', update, hpstat', hpasses, hend⟩
    · exact .inl ⟨rfl, fun p _ => .inl ⟨pstat, hpstat, OicSecPstat.Agrees.refl pstat p⟩⟩
    rw [hpstat, Option.some.injEq] at hpstat'
    rw [← hpstat'] at hpasses hend
    exact finishPstatPost_kept hpasses hend
  constructor
  case pstat_kept =>
    intro p hro
    rcases hkept with ⟨-, hkept⟩ | ⟨hasks, hok | hise⟩
    · rcases hkept p hro with hsame | ⟨state, hasks, hcode, hserver⟩
      · exact .inl hsame
      · exact .inr ⟨state, hasks, .inl ⟨hcode, hserver⟩⟩
    · exact .inr ⟨.reset, hasks, .inl ⟨hok, .inl rfl⟩⟩
    · exact .inr ⟨.reset, hasks, .inr ⟨rfl, hise⟩⟩
  case doxm_kept =>
    rcases hkept with ⟨hdoxm, -⟩ | hreset
    · exact .inl hdoxm
    · exact .inr hreset
  case refused =>
    rintro enters find p rfl hcarries hro ⟨read, hread⟩
    have hmark := pstat_marked_of_carries hcarries hro hread
    rcases read with ⟨update, mark⟩
    cases hmark
    simp only [handlePstatPostRequest, hpstat, hread] at h
    cases h
    exact ⟨rfl, rfl⟩
  case unreadable =>
    rintro read rfl hfailed
    simp only [handlePstatPostRequest, hpstat, hfailed] at h
    cases h
    exact ⟨rfl, rfl⟩

structure DoxmPostProtects (payload : Option Payload) (svrs : SecureResources)
    (pstat : OicSecPstat) (doxm : OicSecDoxm) (code : OCEntityHandlerResult)
    (svrs' : SecureResources) : Prop where
  /-- `pstat` stays. -/
  pstat_kept : svrs'.gPstat = svrs.gPstat
  /-- A read-only property stays. -/
  doxm_kept : ∀ p, isDoxmPropertyReadOnly p pstat.dos.state = true →
    ∃ doxm', svrs'.gDoxm = some doxm' ∧ doxm'.Agrees doxm p
  /-- A payload that can be read is refused when it carries a read-only property;
  in RESET and RFNOP every payload is. -/
  refused : ∀ enters find p, payload = some (.map enters find) → carriesDoxm find p = true →
    isDoxmPropertyReadOnly p pstat.dos.state = true →
    (pstat.dos.state = .reset ∨ pstat.dos.state = .rfnop
      ∨ ∃ read, cborPayloadToDoxmBin (.map enters find) doxm pstat.dos.state = .ok read) →
    code = .notAcceptable ∧ svrs' = svrs
  /-- A payload that cannot be read changes nothing. -/
  unreadable : ∀ read, payload = some read →
    cborPayloadToDoxmBin read doxm pstat.dos.state = .error .failed →
    code ≠ .ok ∧ svrs' = svrs

lemma OicSecDoxm.Agrees.refl (a : OicSecDoxm) (p : DoxmProperty) : a.Agrees a p := by
  cases p <;> rfl

lemma doxm_marked_of_carries {enters : Bool} {find : String → Found} {doxm : OicSecDoxm}
    {s : OicSecDeviceOnboardingState} {read : OicSecDoxm × Bool × Bool} {p : DoxmProperty}
    (hcarries : carriesDoxm find p = true) (hro : isDoxmPropertyReadOnly p s = true)
    (hread : cborPayloadToDoxmBin (.map enters find) doxm s = .ok read) : read.2.1 = true := by
  rcases read with ⟨update, _ | _, oxmselParsed⟩
  · obtain ⟨⟨enters', find', hfind, hnot⟩, -⟩ := cborPayloadToDoxmBin_unmarked hread
    cases hfind
    rw [hnot p hro] at hcarries
    cases hcarries
  · rfl

lemma handleDoxmPostRequest_cases {world : TransferWorld}
    (h : handleDoxmPostRequest world write payload svrs = some (code, svrs')) :
    svrs' = svrs
      ∨ ∃ read pstat doxm newDoxm oxmselParsed, payload = some read ∧ svrs.gPstat = some pstat
        ∧ svrs.gDoxm = some doxm
        ∧ cborPayloadToDoxmBin read doxm pstat.dos.state = .ok (newDoxm, false, oxmselParsed)
        ∧ svrs' = { svrs with gDoxm := some (doxmUpdateWriteableProperty newDoxm doxm) } := by
  rcases payload with _ | read
  · cases h
    exact .inl rfl
  rcases hdoxm : svrs.gDoxm with _ | doxm
  · simp only [handleDoxmPostRequest, hdoxm] at h
    cases h
    exact .inl rfl
  rcases hpstat : svrs.gPstat with _ | pstat
  · simp only [handleDoxmPostRequest, hdoxm, hpstat] at h
    cases h
    exact .inl rfl
  simp only [handleDoxmPostRequest, hdoxm, hpstat] at h
  by_cases hstate : pstat.dos.state = .reset ∨ pstat.dos.state = .rfnop
  · rw [if_pos hstate] at h
    cases h
    exact .inl rfl
  rw [if_neg hstate] at h
  rcases hread : cborPayloadToDoxmBin read doxm pstat.dos.state
    with (_ | _) | ⟨newDoxm, _ | _, oxmselParsed⟩
  all_goals simp only [hread] at h
  · cases h
    exact .inl rfl
  · cases h
  · by_cases hsel : validateOxmsel doxm.oxm newDoxm.oxmSel = true
    · rw [if_neg (not_not_intro hsel), Option.some.injEq, Prod.mk.injEq] at h
      refine .inr ⟨read, pstat, doxm, newDoxm, oxmselParsed, rfl, rfl, rfl, hread, ?_⟩
      rw [← h.2]
      -- starting the transfer adds nothing
      split
      · rw [startOwnershipTransfer_doxm]
      · rfl
    rw [if_pos hsel] at h
    cases h
    exact .inl rfl
  · cases h
    exact .inl rfl

lemma handleDoxmPostRequest_protects {world : TransferWorld} {doxm : OicSecDoxm}
    (hpstat : svrs.gPstat = some pstat) (hdoxm : svrs.gDoxm = some doxm)
    (h : handleDoxmPostRequest world write payload svrs = some (code, svrs')) :
    DoxmPostProtects payload svrs pstat doxm code svrs' := by
  constructor
  case pstat_kept =>
    rcases handleDoxmPostRequest_cases h with rfl | ⟨_, _, _, _, _, -, -, -, -, rfl⟩
    · rfl
    · rfl
  case doxm_kept =>
    intro p hro
    rcases handleDoxmPostRequest_cases h with
      rfl | ⟨read, pstat', doxm', newDoxm, sel, -, hpstat', hdoxm', hread, rfl⟩
    · exact ⟨doxm, hdoxm, OicSecDoxm.Agrees.refl doxm p⟩
    rw [hpstat, Option.some.injEq] at hpstat'
    rw [hdoxm, Option.some.injEq] at hdoxm'
    rw [← hpstat', ← hdoxm'] at hread
    rw [← hdoxm']
    exact ⟨_, rfl, (cborPayloadToDoxmBin_unmarked hread).2 p hro⟩
  case refused =>
    rintro enters find p rfl hcarries hro hwhen
    simp only [handleDoxmPostRequest, hpstat, hdoxm] at h
    by_cases hstate : pstat.dos.state = .reset ∨ pstat.dos.state = .rfnop
    · rw [if_pos hstate] at h
      cases h
      exact ⟨rfl, rfl⟩
    rw [if_neg hstate] at h
    rcases hwhen with hreset | hrfnop | ⟨⟨newDoxm, mark, sel⟩, hread⟩
    · exact absurd (.inl hreset) hstate
    · exact absurd (.inr hrfnop) hstate
    · cases doxm_marked_of_carries hcarries hro hread
      simp only [hread] at h
      cases h
      exact ⟨rfl, rfl⟩
  case unreadable =>
    rintro read rfl hfailed
    simp only [handleDoxmPostRequest, hpstat, hdoxm, hfailed] at h
    split_ifs at h
    all_goals
      cases h
      exact ⟨by decide, rfl⟩

/-- **Write protection.** For every state of the resources and every payload. -/
theorem post_write_protection :
    (∀ world write payload svrs pstat code svrs', svrs.gPstat = some pstat →
        handlePstatPostRequest world write payload svrs = some (code, svrs') →
        PstatPostProtects payload svrs pstat code svrs')
      ∧ ∀ world write payload svrs pstat doxm code svrs', svrs.gPstat = some pstat →
        svrs.gDoxm = some doxm →
        handleDoxmPostRequest world write payload svrs = some (code, svrs') →
        DoxmPostProtects payload svrs pstat doxm code svrs' := by
  constructor
  · intro world write payload svrs pstat code svrs' hpstat h
    exact handlePstatPostRequest_protects hpstat h
  · intro world write payload svrs pstat doxm code svrs' hpstat hdoxm h
    exact handleDoxmPostRequest_protects hpstat hdoxm h

def sendIsop : Payload := .map true (fun key => if key = "isop" then .boolean true else .absent)

theorem post_write_protection_isop :
    PstatPostProtects (some sendIsop) (defaultResources someUuid) gDefaultPstat .notAcceptable
      (defaultResources someUuid) :=
  post_write_protection.1 smoothWorld true _ _ _ _ _ rfl rfl

def provisionedResources : SecureResources where
  gDoxm :=
    some { gDefaultDoxm someUuid with owned := true, owner := someUuid, rownerID := someUuid }
  gPstat := some { gDefaultPstat with dos := ⟨.rfpro, false⟩, cm := 0, rownerID := someUuid }
  aclRownerID := some someUuid
  credRownerID := someUuid
  storedPstats := [gDefaultPstat]

/-- The resources are read back as they are, then the write of `acl` fails. -/
def aclWriteFails : ResetWorld :=
  { smoothWorld with gDoxm := provisionedResources.gDoxm, aclWrite := false }

def sendReset : Payload :=
  .map true (fun key => if key = "dos" then .map [.text (some "s"), .integer 0] else .absent)

/-- `{sct: 8, rowneruuid: "x"}`: a read-only property, and a text that is no UUID. -/
def sendSct : Payload :=
  .map true (fun key =>
    if key = "sct" then .integer 8 else if key = "rowneruuid" then .text (some "x") else .absent)

def smoothTransfer : TransferWorld := ⟨true, true, true, true, true⟩

theorem protection_exceptions :
    (isDoxmPropertyReadOnly .sct .rfotm = true
        ∧ (handleDoxmPostRequest smoothTransfer true (some sendSct)
          (defaultResources someUuid)).map Prod.fst = some .internalServerError)
      ∧ (isDoxmPropertyReadOnly .owned .rfpro = true
        ∧ (handlePstatPostRequest aclWriteFails true (some sendReset) provisionedResources).map
            (fun r => (r.1, r.2.gDoxm.map (·.owned), r.2.gPstat.map (·.dos.state)))
          = some (.internalServerError, some false, some .rfpro)) := by
  decide

end

open CborLookup Attempts
open List
open Option
open Runs (run)

/-! ## Operations and what they log -/

inductive OnboardingOp
  | pstatPost (world : ResetWorld) (write : Bool) (payload : Option Payload)
  | doxmPost (world : TransferWorld) (write : Bool) (payload : Option Payload)
  | setDosState (world : ResetWorld) (desiredState : UInt32)
  | setAclOwner (uuid : Option OicUuid)
  | setCredOwner (uuid : OicUuid)

def SecureResources.dosState (svrs : SecureResources) : Option OicSecDeviceOnboardingState :=
  svrs.gPstat.map (·.dos.state)

variable {svrs : SecureResources} {pstat : OicSecPstat}

lemma dosState_of_some (h : svrs.gPstat = some pstat) : svrs.dosState = some pstat.dos.state := by
  rw [SecureResources.dosState, h, map_some]

lemma storePstat_dosState (svrs : SecureResources) :
    (storePstat svrs).dosState = svrs.dosState := by
  rw [SecureResources.dosState, storePstat_gPstat, SecureResources.dosState]

/-- An operation in the log: the states before and after it, and the call of
`SetDosState` it made, with the result. -/
structure DosEvent where
  before : Option OicSecDeviceOnboardingState
  call : Option (UInt32 × DosResult)
  after : Option OicSecDeviceOnboardingState

def calledState (payload : Option Payload) (svrs : SecureResources) : Option UInt32 := do
  let read ← payload
  let pstat ← svrs.gPstat
  match cborPayloadToPstatBin read pstat pstat.dos.state with
  | .ok (update, false) =>
    if pstat.sm.contains update.om ∧ update.dosState ≠ pstat.dos.state.code then
      some update.dosState
    else none
  | _ => none

/-- The result of `SetDosState` behind the answer to a POST that called it. -/
def dosResultOf : OCEntityHandlerResult → DosResult
  | .ok => .ok
  | .notAcceptable => .forbiddenReq
  | _ => .internalServerError

/-- One operation. A failed assertion ends the program; nothing happens after. -/
def onboardingStep (device : Option SecureResources) (op : OnboardingOp) :
    Option SecureResources × List DosEvent :=
  match device with
  | none => (none, [])
  | some svrs =>
    match op with
    | .pstatPost world write payload =>
      match handlePstatPostRequest world write payload svrs with
      | none => (none, [])
      | some (code, svrs') =>
        (some svrs', [⟨svrs.dosState,
          (calledState payload svrs).map (fun state => (state, dosResultOf code)),
          svrs'.dosState⟩])
    | .doxmPost world write payload =>
      match handleDoxmPostRequest world write payload svrs with
      | none => (none, [])
      | some (_, svrs') => (some svrs', [⟨svrs.dosState, none, svrs'.dosState⟩])
    | .setDosState world desiredState =>
      match setDosState world desiredState svrs with
      | none => (none, [])
      | some (result, svrs') =>
        (some svrs', [⟨svrs.dosState, some (desiredState, result), svrs'.dosState⟩])
    | .setAclOwner uuid => (some { svrs with aclRownerID := uuid }, [])
    | .setCredOwner uuid => (some { svrs with credRownerID := uuid }, [])

def settledAfter (settled : Bool) (event : DosEvent) : Bool :=
  match event.call with
  | some (_, .internalServerError) => false
  | some (state, .ok) => if state = 0 then true else settled
  | _ => settled

/-- No call of `SetDosState` has failed with INTERNAL_SERVER_ERROR since the last
reset that went through. -/
def Settled (log : List DosEvent) : Bool := log.foldl settledAfter true

/-- The state stays, or an accepted call changes it along an edge that `IsValidStateTransition`
allows, or through RESET to RFOTM. Nothing is said of a call that failed. -/
def DosEvent.AlongEdge (event : DosEvent) : Prop :=
  event.after = event.before ∨ (∃ state, event.call = some (state, .internalServerError))
    ∨ ∃ old new, event.before = some old ∧ event.after = some new
      ∧ (event.call = some (new.code, .ok) ∧ isValidStateTransition old new.code = some true
        ∨ event.call = some (0, .ok) ∧ new = .rfotm)

/-- `isop` is set exactly in RFNOP. -/
def OicSecPstat.Consistent (pstat : OicSecPstat) : Prop :=
  pstat.isOp = true ↔ pstat.dos.state = .rfnop

/-- This holds of `gPstat` and of everything in the storage. -/
def ConsistentPstats (svrs : SecureResources) : Prop :=
  (∀ pstat, svrs.gPstat = some pstat → pstat.Consistent)
    ∧ ∀ pstat ∈ svrs.storedPstats, pstat.Consistent

def OicSecDoxm.IsOwned (doxm : OicSecDoxm) : Prop :=
  doxm.owned = true ∧ doxm.owner ≠ OicUuid.nil ∧ doxm.deviceID ≠ OicUuid.nil

def OwnedOutsideRFOTM (svrs : SecureResources) : Prop :=
  ∃ pstat doxm, svrs.gPstat = some pstat ∧ svrs.gDoxm = some doxm
    ∧ pstat.dos.state ≠ .reset ∧ (pstat.dos.state ≠ .rfotm → doxm.IsOwned)

structure OnboardingInvariant (svrs : SecureResources) (settled : Bool) : Prop where
  notPending : ∀ pstat, svrs.gPstat = some pstat → pstat.dos.pending = false
  consistent : ConsistentPstats svrs
  owned : settled = true → OwnedOutsideRFOTM svrs

/-! ## Consistency of `pstat` -/

lemma ConsistentPstats.updatePstat (h : ConsistentPstats svrs) {f : OicSecPstat → OicSecPstat}
    (hf : ∀ pstat, pstat.Consistent → (f pstat).Consistent) :
    ConsistentPstats (updatePstat f svrs).2 := by
  rcases hpstat : svrs.gPstat with _ | pstat
  · rw [Sec.updatePstat, hpstat]
    exact h
  rw [updatePstat_of_some hpstat]
  refine ⟨?_, h.2⟩
  intro pstat' hpstat'
  cases hpstat'
  exact hf pstat (h.1 pstat hpstat)

variable {state : OicSecDeviceOnboardingState}

lemma ConsistentPstats.enterStateGeneric (h : ConsistentPstats svrs) {isop : Bool}
    (hisop : isop = true ↔ state = .rfnop) (cmReset cmTakeOwner tmReset tmTakeOwner : Bool) :
    ConsistentPstats
      (enterStateGeneric isop cmReset cmTakeOwner tmReset tmTakeOwner state svrs).2 := by
  rcases hpstat : svrs.gPstat with _ | pstat
  · simp only [Sec.enterStateGeneric, hpstat]
    exact h
  rw [enterStateGeneric_of_some hpstat]
  refine ⟨?_, h.2⟩
  intro pstat' hpstat'
  cases hpstat'
  exact hisop

lemma ConsistentPstats.storePstat (h : ConsistentPstats svrs) :
    ConsistentPstats (storePstat svrs) := by
  rcases hpstat : svrs.gPstat with _ | pstat
  · rw [Sec.storePstat, hpstat]
    exact h
  simp only [Sec.storePstat, hpstat]
  refine ⟨?_, ?_⟩
  · intro pstat' hpstat'
    cases hpstat'
    exact h.1 pstat hpstat
  · intro pstat' hmem
    rcases mem_cons.mp hmem with rfl | hmem
    · exact h.1 _ hpstat
    · exact h.2 pstat' hmem

variable {svrs' : SecureResources}

section

variable (h : ConsistentPstats svrs)
include h

lemma ConsistentPstats.congr (hpstat : svrs'.gPstat = svrs.gPstat)
    (hstored : svrs'.storedPstats = svrs.storedPstats) : ConsistentPstats svrs' := by
  rw [ConsistentPstats, hpstat, hstored]
  exact h

lemma ConsistentPstats.updateDoxm
    (f : OicSecDoxm → OicSecDoxm) : ConsistentPstats (updateDoxm f svrs).2 := by
  unfold Sec.updateDoxm
  split
  · exact h
  · exact h.congr rfl rfl

lemma ConsistentPstats.resetSecureResources
    (world : ResetWorld) : ConsistentPstats (resetSecureResources world svrs).2 := by
  refine ⟨?_, h.2⟩
  intro pstat hpstat
  rcases hsource : world.pstatSource with _ | _ | i
  all_goals simp only [Sec.resetSecureResources, hsource] at hpstat
  · cases hpstat
  · exact h.1 pstat hpstat
  · exact h.2 pstat (mem_of_getElem? hpstat)

lemma ConsistentPstats.setPstatRownerId (write : Bool)
    (uuid : OicUuid) : ConsistentPstats (setPstatRownerId write uuid svrs).2 := by
  rcases hpstat : svrs.gPstat with _ | pstat
  · simp only [Sec.setPstatRownerId, hpstat]
    exact h
  have hwritten : ConsistentPstats
      (Sec.storePstat { svrs with gPstat := some { pstat with rownerID := uuid } }) := by
    apply ConsistentPstats.storePstat
    refine ⟨?_, h.2⟩
    intro pstat' hpstat'
    cases hpstat'
    exact h.1 pstat hpstat
  simp only [Sec.setPstatRownerId, hpstat]
  cases write with
  | true => exact hwritten
  | false =>
    refine ⟨?_, hwritten.2⟩
    intro pstat' hpstat'
    cases hpstat'
    exact h.1 pstat hpstat

lemma ConsistentPstats.enterRESET
    (world : ResetWorld) : ConsistentPstats (enterRESET world svrs).2 := by
  refine attempt_inv ?_ h
  intro step hmem s hs
  simp only [resetSteps, mem_cons, not_mem_nil, or_false] at hmem
  rcases hmem with rfl | rfl | rfl | rfl | rfl | rfl | rfl | rfl | rfl | rfl | rfl
  · exact hs.resetSecureResources world
  · exact hs.updateDoxm _
  · exact hs.updateDoxm _
  · rcases hcall : setAclRowner world.aclWrite OicUuid.nil s with ⟨ok, s'⟩
    obtain ⟨-, hpstat, hstored⟩ := setAclRowner_frame hcall
    exact hs.congr hpstat hstored
  · rcases hcall : setCredRownerId world.credWrite OicUuid.nil s with ⟨ok, s'⟩
    obtain ⟨-, hpstat, hstored⟩ := setCredRownerId_frame hcall
    exact hs.congr hpstat hstored
  · exact hs.updateDoxm _
  · exact hs.setPstatRownerId _ _
  · exact hs.updatePstat (fun _ h => h)
  · exact hs.updatePstat (fun _ h => h)
  · exact hs.enterStateGeneric (by decide) _ _ _ _
  · exact hs

lemma ConsistentPstats.enterWhenReady (isReady : SecureResources → Bool)
    {enter : SecureResources → Bool × SecureResources} (henter : ConsistentPstats (enter svrs).2) :
    ConsistentPstats (enterWhenReady isReady enter svrs).2 := by
  unfold Sec.enterWhenReady
  split
  · exact henter
  · exact h

lemma ConsistentPstats.doStateChange (world : ResetWorld) (newState : UInt32) :
    ConsistentPstats (doStateChange world newState svrs).2 := by
  unfold Sec.doStateChange
  split
  · have hreset := h.enterRESET world
    split
    · exact hreset.enterWhenReady _ (hreset.enterStateGeneric (by decide) _ _ _ _)
    · exact hreset
  · exact h.enterWhenReady _ (h.enterStateGeneric (by decide) _ _ _ _)
  · exact h.enterWhenReady _ (h.enterStateGeneric (by decide) _ _ _ _)
  · exact h.enterWhenReady _ (h.enterStateGeneric (by decide) _ _ _ _)
  · exact h.enterWhenReady _ (h.enterStateGeneric (by decide) _ _ _ _)
  · exact h

end

lemma ConsistentPstats.endStateChange {change : DosResult × SecureResources}
    (h : ConsistentPstats change.2) : ConsistentPstats (endStateChange change).2 := by
  unfold Sec.endStateChange
  split
  · exact h.updatePstat (fun _ h => h)
  · exact h

variable {world : ResetWorld}

variable {desiredState : UInt32} {result : DosResult}

lemma ConsistentPstats.setDosState (h : ConsistentPstats svrs)
    (hset : setDosState world desiredState svrs = some (result, svrs')) :
    ConsistentPstats svrs' := by
  have hpending : ConsistentPstats (setPstatDosP true svrs).2 := h.updatePstat (fun _ h => h)
  unfold Sec.setDosState at hset
  split at hset
  · cases hset
    exact h
  split at hset
  · cases hset
    exact h
  simp only at hset
  split at hset
  · cases hset
  · have hend := (hpending.doStateChange world desiredState).endStateChange
    rw [some.inj hset] at hend
    exact hend
  · have hend : ConsistentPstats
        (Sec.endStateChange (.forbiddenReq, (setPstatDosP true svrs).2)).2 :=
      ConsistentPstats.endStateChange hpending
    rw [some.inj hset] at hend
    exact hend

/-! ## One operation -/

lemma ne_nil_of_isNilUuid {uuid : OicUuid} (h : isNilUuid uuid = false) :
    uuid ≠ OicUuid.nil := by
  rintro rfl
  cases h.symm.trans isNilUuid_nil

lemma isOwned_of_ready (hreset : state ≠ .reset) (hrfotm : state ≠ .rfotm) {doxm : OicSecDoxm}
    (hdoxm : svrs.gDoxm = some doxm) (hready : isReadyToEnter state svrs = true) :
    doxm.IsOwned := by
  have hsreset : isReadyToEnterSRESET svrs = true := by
    cases state with
    | reset => exact absurd rfl hreset
    | rfotm => exact absurd rfl hrfotm
    | sreset => exact hready
    | rfpro =>
      simp only [isReadyToEnter, isReadyToEnterRFPRO, Bool.and_eq_true] at hready
      exact hready.1
    | rfnop =>
      simp only [isReadyToEnter, isReadyToEnterRFNOP, Bool.and_eq_true] at hready
      exact hready.1.1
  simp only [isReadyToEnterSRESET, isDoxmOwned, isDoxmDevowneruuidTheNilUuid,
    isDoxmDeviceuuidTheNilUuid, hdoxm, map_some, getD_some, Bool.and_eq_true,
    Bool.not_eq_true'] at hsreset
  exact ⟨hsreset.1.1, ne_nil_of_isNilUuid hsreset.1.2, ne_nil_of_isNilUuid hsreset.2⟩

variable {settled : Bool}

section

variable (h : OnboardingInvariant svrs settled)
include h

lemma OnboardingInvariant.setDosState
    (hset : setDosState world desiredState svrs = some (result, svrs')) :
    OnboardingInvariant svrs'
        (settledAfter settled ⟨svrs.dosState, some (desiredState, result), svrs'.dosState⟩)
      ∧ DosEvent.AlongEdge ⟨svrs.dosState, some (desiredState, result), svrs'.dosState⟩ := by
  have hconsistent := h.consistent.setDosState hset
  rcases hpstat : svrs.gPstat with _ | pstat
  · simp only [Sec.setDosState, hpstat, Option.some.injEq, Prod.mk.injEq] at hset
    obtain ⟨rfl, rfl⟩ := hset
    exact ⟨⟨h.notPending, hconsistent, fun hno => absurd hno Bool.false_ne_true⟩, .inl rfl⟩
  rcases setDosState_cases hpstat hset with ⟨-, rfl, rfl⟩
    | ⟨state, hstate, rfl, hpending, hvalid, hready, rfl, rfl⟩ | ⟨rfl, -, hreset⟩
  · -- refused: nothing has changed
    exact ⟨h, .inl rfl⟩
  · -- another state has been entered
    refine ⟨⟨?_, hconsistent, ?_⟩, .inr (.inr ⟨pstat.dos.state, state, ?_, ?_, ?_⟩)⟩
    · intro pstat' hpstat'
      cases hpstat'
      rw [enter_state]
      exact hpending
    · intro hsettled
      have hcode : state.code ≠ 0 := by
        revert hstate
        cases state <;> decide
      simp only [settledAfter, if_neg hcode] at hsettled
      obtain ⟨-, doxm, -, hdoxm, -, -⟩ := h.owned hsettled
      refine ⟨pstat.enter state, doxm, rfl, hdoxm, ?_, ?_⟩
      · rw [enter_state]
        exact hstate
      · rw [enter_state]
        intro hrfotm
        exact isOwned_of_ready hstate hrfotm hdoxm hready
    · exact dosState_of_some hpstat
    · show some (pstat.enter state).dos.state = some state
      rw [enter_state]
    · exact .inl ⟨rfl, hvalid⟩
  · rcases hreset with ⟨rfl, ⟨doxm, hdoxm, -, -⟩, pstat', hpstat', hdos, -⟩ | ⟨rfl, hpending⟩
    · -- a reset went through to RFOTM
      refine ⟨⟨?_, hconsistent, ?_⟩, .inr (.inr ⟨pstat.dos.state, .rfotm, ?_, ?_, ?_⟩)⟩
      · intro pstat'' hpstat''
        rw [hpstat', Option.some.injEq] at hpstat''
        rw [← hpstat'', hdos]
      · intro _
        refine ⟨pstat', doxm, hpstat', hdoxm, ?_, ?_⟩
        · rw [hdos]
          decide
        · rw [hdos]
          intro hno
          exact absurd rfl hno
      · exact dosState_of_some hpstat
      · refine (dosState_of_some hpstat').trans ?_
        rw [hdos]
      · exact .inr ⟨rfl, rfl⟩
    -- a reset failed on the way
    exact ⟨⟨hpending, hconsistent, fun hno => absurd hno Bool.false_ne_true⟩, .inr (.inl ⟨_, rfl⟩)⟩

lemma OnboardingInvariant.written (hpstat : svrs.gPstat = some pstat) (update : PstatUpdate) :
    OnboardingInvariant { svrs with gPstat := some (pstat.written update) } settled := by
  refine ⟨?_, ⟨?_, h.consistent.2⟩, ?_⟩
  · intro pstat' hpstat'
    cases hpstat'
    exact h.notPending pstat hpstat
  · intro pstat' hpstat'
    cases hpstat'
    exact h.consistent.1 pstat hpstat
  · intro hsettled
    obtain ⟨pstat', doxm, hpstat', hdoxm, hreset, howned⟩ := h.owned hsettled
    rw [hpstat, Option.some.injEq] at hpstat'
    rw [← hpstat'] at hreset howned
    exact ⟨_, doxm, rfl, hdoxm, hreset, howned⟩

lemma OnboardingInvariant.storePstat : OnboardingInvariant (storePstat svrs) settled := by
  refine ⟨?_, h.consistent.storePstat, ?_⟩
  · rw [storePstat_gPstat]
    exact h.notPending
  · rw [OwnedOutsideRFOTM, storePstat_gPstat, storePstat_gDoxm]
    exact h.owned

end

variable {payload : Option Payload}

lemma calledState_of_passes {update : PstatUpdate} (hpstat : svrs.gPstat = some pstat)
    (hpasses : Passes payload pstat update) :
    calledState payload svrs
      = if update.dosState = pstat.dos.state.code then none else some update.dosState := by
  obtain ⟨⟨read, rfl, hread⟩, hom⟩ := hpasses
  simp only [calledState, hpstat, bind, Option.bind, hread, hom, true_and, ne_eq]
  split <;> simp_all

lemma calledState_of_not_passes
    (h : ∀ pstat update, svrs.gPstat = some pstat → ¬ Passes payload pstat update) :
    calledState payload svrs = none := by
  rcases payload with _ | read
  · rfl
  rcases hpstat : svrs.gPstat with _ | pstat
  · simp [calledState, hpstat, Option.bind]
  simp only [calledState, hpstat, bind, Option.bind]
  rcases hread : cborPayloadToPstatBin read pstat pstat.dos.state with _ | ⟨update, _ | _⟩
  · rfl
  · have hom : ¬ (pstat.sm.contains update.om = true) :=
      fun hom => h pstat update hpstat (passes_iff.mpr ⟨hread, hom⟩)
    simp only [hom, Bool.false_eq_true, false_and, if_false]
  · rfl

lemma passes_of_calledState {state : UInt32} (hpstat : svrs.gPstat = some pstat)
    (hcalled : calledState payload svrs = some state) :
    ∃ update, Passes payload pstat update ∧ update.dosState = state
      ∧ state ≠ pstat.dos.state.code := by
  by_cases hpasses : ∃ update, Passes payload pstat update
  · obtain ⟨update, hpasses⟩ := hpasses
    rw [calledState_of_passes hpstat hpasses] at hcalled
    split at hcalled
    · cases hcalled
    rename_i hchange
    rw [Option.some.injEq] at hcalled
    rw [hcalled] at hchange
    exact ⟨update, hpasses, hcalled, hchange⟩
  have hnot : ∀ pstat' update, svrs.gPstat = some pstat' → ¬ Passes payload pstat' update := by
    intro pstat' update hpstat' hpasses'
    rw [hpstat, Option.some.injEq] at hpstat'
    rw [← hpstat'] at hpasses'
    exact hpasses ⟨update, hpasses'⟩
  rw [calledState_of_not_passes hnot] at hcalled
  cases hcalled

def StepGood (svrs' : SecureResources) (settled : Bool) (event : DosEvent) : Prop :=
  OnboardingInvariant svrs' (settledAfter settled event) ∧ event.AlongEdge

variable {write : Bool} {code : OCEntityHandlerResult}

lemma OnboardingInvariant.pstatPost (h : OnboardingInvariant svrs settled)
    (hpost : handlePstatPostRequest world write payload svrs = some (code, svrs')) :
    StepGood svrs' settled ⟨svrs.dosState,
      (calledState payload svrs).map (fun state => (state, dosResultOf code)),
      svrs'.dosState⟩ := by
  rcases handlePstatPostRequest_cases hpost with
    ⟨rfl, -, -, hnot⟩ | ⟨pstat, update, hpstat, hpasses, hend⟩
  · rw [calledState_of_not_passes hnot, map_none]
    exact ⟨h, .inl rfl⟩
  have hwritten := h.written hpstat update
  -- the writes leave the state alone
  have hbefore : svrs.dosState
      = SecureResources.dosState { svrs with gPstat := some (pstat.written update) } := by
    rw [dosState_of_some hpstat]
    rfl
  rw [calledState_of_passes hpstat hpasses, hbefore]
  rcases finishPstatPost_cases hend with ⟨hsame, rfl, -⟩ | ⟨hchange, result, changed, hset, hout⟩
  · rw [if_pos hsame, map_none]
    rw [storePstat_dosState]
    exact ⟨hwritten.storePstat, .inl rfl⟩
  obtain ⟨hinv, hedge⟩ := hwritten.setDosState hset
  rw [if_neg hchange, map_some]
  rcases hout with ⟨rfl, rfl, rfl⟩ | ⟨rfl, rfl, rfl⟩ | ⟨rfl, rfl, rfl⟩
  · rw [StepGood, storePstat_dosState]
    exact ⟨hinv.storePstat, hedge⟩
  · exact ⟨hinv, hedge⟩
  · exact ⟨hinv, hedge⟩

lemma OnboardingInvariant.doxmPost (h : OnboardingInvariant svrs settled) {world : TransferWorld}
    (hpost : handleDoxmPostRequest world write payload svrs = some (code, svrs')) :
    StepGood svrs' settled ⟨svrs.dosState, none, svrs'.dosState⟩ := by
  rcases handleDoxmPostRequest_cases hpost with
    rfl | ⟨read, pstat, doxm, newDoxm, sel, -, hpstat, hdoxm, hread, rfl⟩
  · exact ⟨h, .inl rfl⟩
  refine ⟨⟨h.notPending, h.consistent.congr rfl rfl, ?_⟩, .inl rfl⟩
  intro hsettled
  obtain ⟨pstat', doxm', hpstat', hdoxm', hreset, howned⟩ := h.owned hsettled
  rw [hpstat, Option.some.injEq] at hpstat'
  rw [hdoxm, Option.some.injEq] at hdoxm'
  rw [← hpstat', ← hdoxm'] at howned
  rw [← hpstat'] at hreset
  refine ⟨pstat, _, hpstat, rfl, hreset, ?_⟩
  intro hrfotm
  obtain ⟨hown, howner, hid⟩ := howned hrfotm
  have hkept := (cborPayloadToDoxmBin_unmarked hread).2
  -- the three properties are read-only in every state but RFOTM
  have hro : ∀ p, p = DoxmProperty.owned ∨ p = .devowneruuid ∨ p = .deviceuuid →
      isDoxmPropertyReadOnly p pstat.dos.state = true := by
    revert hrfotm
    rcases pstat.dos.state with _ | _ | _ | _ | _
    all_goals
      intro hrfotm p hp
      rcases hp with rfl | rfl | rfl <;> first | rfl | exact absurd rfl hrfotm
  have hown' := hkept .owned (hro _ (.inl rfl))
  have howner' := hkept .devowneruuid (hro _ (.inr (.inl rfl)))
  have hid' := hkept .deviceuuid (hro _ (.inr (.inr rfl)))
  simp only [OicSecDoxm.Agrees] at hown' howner' hid'
  rw [OicSecDoxm.IsOwned, hown', howner', hid']
  exact ⟨hown, howner, hid⟩

def RunInvariant (device : Option SecureResources) (log : List DosEvent) : Prop :=
  (∀ event ∈ log, event.AlongEdge)
    ∧ ∀ svrs, device = some svrs → OnboardingInvariant svrs (Settled log)

section RunInvariant

variable {device : Option SecureResources} {log : List DosEvent} (h : RunInvariant device log)
include h

lemma RunInvariant.ends : RunInvariant none (log ++ []) := by
  rw [append_nil]
  refine ⟨h.1, ?_⟩
  intro svrs hno
  cases hno

lemma RunInvariant.quiet {svrs' : SecureResources}
    (hkept : OnboardingInvariant svrs' (Settled log)) :
    RunInvariant (some svrs') (log ++ []) := by
  rw [append_nil]
  refine ⟨h.1, ?_⟩
  intro svrs hsame
  cases hsame
  exact hkept

lemma RunInvariant.event {svrs' : SecureResources} {event : DosEvent}
    (hgood : StepGood svrs' (Settled log) event) : RunInvariant (some svrs') (log ++ [event]) := by
  obtain ⟨hkept, hedge⟩ := hgood
  constructor
  · intro e he
    rcases mem_append.mp he with he | he
    · exact h.1 e he
    rw [mem_singleton.mp he]
    exact hedge
  · intro svrs hsame
    cases hsame
    rw [Settled, foldl_append]
    exact hkept

end RunInvariant

lemma onboardingStep_keeps (device : Option SecureResources) (op : OnboardingOp)
    (log : List DosEvent) (h : RunInvariant device log) :
    RunInvariant (onboardingStep device op).1 (log ++ (onboardingStep device op).2) := by
  rcases device with _ | svrs
  · exact h.ends
  have hsvrs := h.2 svrs rfl
  -- one case per operation; a failed assertion ends the program
  cases op with
  | pstatPost world write payload =>
    simp only [onboardingStep]
    rcases hpost : handlePstatPostRequest world write payload svrs with _ | ⟨code, svrs'⟩
    · exact h.ends
    · exact h.event (hsvrs.pstatPost hpost)
  | doxmPost world write payload =>
    simp only [onboardingStep]
    rcases hpost : handleDoxmPostRequest world write payload svrs with _ | ⟨code, svrs'⟩
    · exact h.ends
    · exact h.event (hsvrs.doxmPost hpost)
  | setDosState world desiredState =>
    simp only [onboardingStep]
    rcases hset : Sec.setDosState world desiredState svrs with _ | ⟨result, svrs'⟩
    · exact h.ends
    · exact h.event (hsvrs.setDosState hset)
  | setAclOwner | setCredOwner =>
    exact h.quiet ⟨hsvrs.notPending, hsvrs.consistent.congr rfl rfl, hsvrs.owned⟩

/-! ## Whole runs -/

/-- The default resources: RFOTM, no change pending, no owner; the storage holds no other `pstat`.
Everything else may be anything. -/
structure StartsWithDefaults (svrs : SecureResources) : Prop where
  pstat : svrs.gPstat = some gDefaultPstat
  doxm : ∃ doxm, svrs.gDoxm = some doxm ∧ doxm.owned = false ∧ doxm.owner = OicUuid.nil
  stored : ∀ pstat ∈ svrs.storedPstats, pstat = gDefaultPstat

lemma StartsWithDefaults.invariant (h : StartsWithDefaults svrs) :
    OnboardingInvariant svrs true := by
  obtain ⟨doxm, hdoxm, -, -⟩ := h.doxm
  have hdefault : gDefaultPstat.Consistent := by
    rw [OicSecPstat.Consistent]
    decide
  refine ⟨?_, ⟨?_, ?_⟩, fun _ => ⟨gDefaultPstat, doxm, h.pstat, hdoxm, by decide, ?_⟩⟩
  · intro pstat hpstat
    rw [h.pstat, Option.some.injEq] at hpstat
    rw [← hpstat]
    rfl
  · intro pstat hpstat
    rw [h.pstat, Option.some.injEq] at hpstat
    rw [← hpstat]
    exact hdefault
  · intro pstat hmem
    rw [h.stored pstat hmem]
    exact hdefault
  · intro hrfotm
    exact absurd rfl hrfotm

lemma runInvariant_of_starts (hstart : StartsWithDefaults svrs) (ops : List OnboardingOp) :
    RunInvariant (run onboardingStep (some svrs) ops).1 (run onboardingStep (some svrs) ops).2 := by
  have hbase : RunInvariant (some svrs) [] := by
    refine ⟨fun event hmem => absurd hmem not_mem_nil, ?_⟩
    intro svrs' hsvrs'
    cases hsvrs'
    exact hstart.invariant
  -- induction over the operations
  have hrun : RunInvariant (run onboardingStep (some svrs) ops).1
      ([] ++ (run onboardingStep (some svrs) ops).2) :=
    Runs.run_hist RunInvariant (fun _ => True)
      (fun device op log _ h => onboardingStep_keeps device op log h) hbase (fun _ _ => trivial)
  rw [nil_append] at hrun
  exact hrun

/-- **Onboarding.** After every run from the default resources, in which every
operation came back: no change is pending; `isop` is set exactly in RFNOP; and if
no call has failed since the last reset that went through, the state is not RESET
and a device outside RFOTM is owned. Along the run the state has changed only
along allowed edges, calls that failed apart. -/
theorem onboarding_invariant {svrs : SecureResources} (hstart : StartsWithDefaults svrs)
    (ops : List OnboardingOp) :
    (∀ event ∈ (run onboardingStep (some svrs) ops).2, event.AlongEdge)
      ∧ ∀ svrs', (run onboardingStep (some svrs) ops).1 = some svrs' →
        (∀ pstat, svrs'.gPstat = some pstat →
          pstat.dos.pending = false ∧ (pstat.isOp = true ↔ pstat.dos.state = .rfnop))
        ∧ (Settled (run onboardingStep (some svrs) ops).2 = true →
          ∃ pstat doxm, svrs'.gPstat = some pstat ∧ svrs'.gDoxm = some doxm
            ∧ pstat.dos.state ≠ .reset
            ∧ (pstat.dos.state ≠ .rfotm → doxm.owned = true ∧ doxm.owner ≠ OicUuid.nil
              ∧ doxm.deviceID ≠ OicUuid.nil)) := by
  have hrun := runInvariant_of_starts hstart ops
  refine ⟨hrun.1, fun svrs' hsvrs' => ?_⟩
  have hinv := hrun.2 svrs' hsvrs'
  refine ⟨fun pstat hpstat => ⟨hinv.notPending pstat hpstat, ?_⟩, hinv.owned⟩
  exact hinv.consistent.1 pstat hpstat

lemma defaultResources_starts (deviceID : OicUuid) :
    StartsWithDefaults (defaultResources deviceID) where
  pstat := rfl
  doxm := ⟨gDefaultDoxm deviceID, rfl, rfl, rfl⟩
  stored := fun _ hmem => mem_singleton.mp hmem

def someUuidText : Found := .text (some "11111111-1111-1111-1111-111111111111")

/-- `doxm` gets an owner. -/
def takeOwnership : Payload :=
  .map true (fun key =>
    if key = "owned" then .boolean true
    else if key = "devowneruuid" ∨ key = "rowneruuid" then someUuidText
    else .absent)

/-- `pstat` gets an owner and goes to RFPRO. -/
def startProvisioning : Payload :=
  .map true (fun key =>
    if key = "rowneruuid" then someUuidText
    else if key = "dos" then .map [.text (some "s"), .integer 2]
    else .absent)

def onboard : List OnboardingOp :=
  [ .doxmPost smoothTransfer true (some takeOwnership),
    .pstatPost smoothWorld true (some startProvisioning) ]

theorem onboarding_invariant_onboard :
    Settled (run onboardingStep (some (defaultResources someUuid)) onboard).2 = true
      ∧ ∃ svrs', (run onboardingStep (some (defaultResources someUuid)) onboard).1 = some svrs'
        ∧ ∃ pstat doxm, svrs'.gPstat = some pstat ∧ svrs'.gDoxm = some doxm
          ∧ pstat.dos.state ≠ .reset
          ∧ (pstat.dos.state ≠ .rfotm → doxm.owned = true ∧ doxm.owner ≠ OicUuid.nil
            ∧ doxm.deviceID ≠ OicUuid.nil) := by
  have hsettled : Settled (run onboardingStep (some (defaultResources someUuid)) onboard).2
      = true := by decide
  refine ⟨hsettled, _, rfl, ?_⟩
  exact ((onboarding_invariant (defaultResources_starts someUuid) onboard).2 _ rfl).2 hsettled

def startOperation : Payload :=
  .map true (fun key => if key = "dos" then .map [.text (some "s"), .integer 3] else .absent)

def toSoftReset : List OnboardingOp :=
  onboard ++ [.pstatPost smoothWorld true (some startOperation), .setDosState smoothWorld 4]

def rewriteFails : ResetWorld :=
  { smoothWorld with resetSecureResources := false, pstatSource := .stored 0 }

theorem failed_reset_disowns :
    StartsWithDefaults (defaultResources someUuid)
      ∧ (run onboardingStep (some (defaultResources someUuid))
          (onboard ++ [.setDosState aclWriteFails 0])).1.map
        (fun svrs => (svrs.dosState, svrs.gDoxm.map (·.owned))) = some (some .rfpro, some false)
      ∧ (run onboardingStep (some (defaultResources someUuid)) toSoftReset).1.map
        SecureResources.dosState = some (some .sreset)
      ∧ (run onboardingStep (some (defaultResources someUuid))
          (toSoftReset ++ [.setDosState rewriteFails 0])).1.map
        SecureResources.dosState = some (some .rfnop)
      ∧ isValidStateTransition .sreset OicSecDeviceOnboardingState.rfnop.code = some false :=
  ⟨defaultResources_starts someUuid, by decide, by decide, by decide, by decide⟩

end Iochibity.Sec
