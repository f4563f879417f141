/-
`GetDtlsPskCredentials` of `dtls_creds.c`, and the role that it registers.
-/
import Iochibity.Sec.CredPost
import Iochibity.Sec.RequestManager
import Iochibity.Sec.Roles
import Iochibity.Util.Base64

namespace Iochibity.Sec.Psk

open Buffer Calendar List Util

inductive CADtlsPskCredType
  | hint
  | identity
  | key

def int32Max : Nat := 2 ^ 31 - 1

def valueWithinBounds (value maxValue : Nat) : Bool := value ≤ maxValue

def registerSymmetricCredentialRole (cred : OicSecCred)
    (gSymmetricRoles : List SymmetricRoleEntry) : Ocf.OCStackResult × List SymmetricRoleEntry :=
  if cred.credType ≠ symmetricPairWiseKey then (.invalidParam, gSymmetricRoles)
  else
    match FirstMatch.lookup (·.subject) cred.subject gSymmetricRoles with
    | some _ =>
      if !isNonEmptyRole cred.roleId then
        (.ok, FirstMatch.erase (·.subject) cred.subject gSymmetricRoles)
      else
        (.ok, FirstMatch.modify (·.subject) cred.subject ({ · with role := cred.roleId })
          gSymmetricRoles)
    | none =>
      if isNonEmptyRole cred.roleId then
        (.ok, gSymmetricRoles ++ [⟨cred.subject, cred.roleId⟩])
      else (.ok, gSymmetricRoles)

/-- How the copy of a key ends: with a `return`, or behind it with `ret` set. -/
inductive KeyCopy
  | returned
  | done (ret : Int) (result : List UInt8)

structure PskRun where
  ret : Int
  result : List UInt8
  gSymmetricRoles : List SymmetricRoleEntry

/-- The check of a key's size and its `memcpy` to `result`, a buffer of
`result_length` bytes; a write behind it has no result. -/
def copyKey (result key : List UInt8) : Option KeyCopy :=
  if valueWithinBounds key.length int32Max then
    if result.length < key.length then some .returned
    else (storeAll result 0 key).map (.done key.length)
  else some (.done (-1) result)

def copyPsk (privateData : OicSecKey) (result : List UInt8) : Option KeyCopy :=
  let data := privateData.data.getD []
  match privateData.encoding with
  | .raw => copyKey result data
  | .base64 =>
    let outBufSize := b64DecodeOutSafeSize (data.length + 1)
    -- `OICCalloc` gives a null pointer when it is asked for no bytes
    if outBufSize = 0 then some .returned
    else do
      let run ← b64Decode data (calloc outBufSize)
      if run.result = .ok then
        let outKeySize ← run.outLen
        copyKey result (run.outBuf.take outKeySize)
      else some (.done (-1) result)
  | _ => some (.done (-1) result)

variable (isRequestWithinValidTime : Option String → Option String → IotvtICalResult)

def pskOf (cred : OicSecCred) (result : List UInt8) (gSymmetricRoles : List SymmetricRoleEntry) :
    Option PskRun :=
  if cred.period.isSome ∧ isRequestWithinValidTime cred.period none ≠ .validAccess then
    some ⟨-1, result, gSymmetricRoles⟩
  else do
    match ← copyPsk cred.privateData result with
    | .returned => some ⟨-1, result, gSymmetricRoles⟩
    | .done ret result =>
      some ⟨ret, result, (registerSymmetricCredentialRole cred gSymmetricRoles).2⟩

def pskLoop (desc result : List UInt8) (gSymmetricRoles : List SymmetricRoleEntry) :
    List OicSecCred → Option PskRun
  | [] => some ⟨-1, result, gSymmetricRoles⟩
  | cred :: rest =>
    if cred.credType ≠ symmetricPairWiseKey then pskLoop desc result gSymmetricRoles rest
    else if desc.length = 16 ∧ desc = cred.subject.id.toList then
      pskOf isRequestWithinValidTime cred result gSymmetricRoles
    else pskLoop desc result gSymmetricRoles rest

def getDtlsPskCredentials (doxmDeviceID : Option OicUuid) (gCred : List OicSecCred)
    (gSymmetricRoles : List SymmetricRoleEntry) (type : CADtlsPskCredType)
    (desc result : List UInt8) : Option PskRun :=
  match type with
  | .hint | .identity =>
    match doxmDeviceID with
    | none => some ⟨-1, result, gSymmetricRoles⟩
    | some deviceID =>
      if result.length < 16 then some ⟨-1, result, gSymmetricRoles⟩
      else (storeAll result 0 deviceID.id.toList).map (⟨16, ·, gSymmetricRoles⟩)
  | .key => pskLoop isRequestWithinValidTime desc result gSymmetricRoles gCred

/-! ## What is asked of it -/

variable (valid : Option String → Option String → IotvtICalResult)

def keyOf (privateData : OicSecKey) : Option (List UInt8) :=
  let data := privateData.data.getD []
  match privateData.encoding with
  | .raw => some data
  | .base64 => if isValidB64EncodedString data = .ok then some (decodeText data) else none
  | _ => none

def isFor (peer : OicUuid) (cred : OicSecCred) : Bool :=
  cred.credType = symmetricPairWiseKey ∧ cred.subject = peer

def inPeriod (cred : OicSecCred) : Bool :=
  cred.period.isNone ∨ valid cred.period none = .validAccess

/-- A credential of the peer that gives a key of at most `n` bytes. -/
def isUsable (peer : OicUuid) (n : Nat) (cred : OicSecCred) : Bool :=
  isFor peer cred ∧ inPeriod valid cred
    ∧ (keyOf cred.privateData).any (fun key => key ≠ [] ∧ key.length ≤ n)

/-- The lookup is exact: of all credentials of the peer the first usable one gives
the key, and without one there is neither a key nor a role. -/
structure Exact (creds : List OicSecCred) (roles : List SymmetricRoleEntry)
    (peer : OicUuid) (result : List UInt8) (run : PskRun) : Prop where
  found : 0 < run.ret ↔ ∃ cred ∈ creds, isUsable valid peer result.length cred = true
  first : ∀ cred, creds.find? (isUsable valid peer result.length) = some cred →
    ∃ key, keyOf cred.privateData = some key ∧ run.ret = key.length
      ∧ run.result.take key.length = key
  inside : run.result.length = result.length
  role : ∀ entry ∈ run.gSymmetricRoles, entry ∉ roles → 0 < run.ret
  refused : ¬ 0 < run.ret → run.ret < 0

/-- Refused with nothing registered: at a `return` in the middle, or with no role
that the peer does not have. -/
def LeavesRoles (roles : List SymmetricRoleEntry) (n : Nat) (cred : OicSecCred) : Prop :=
  inPeriod valid cred = false
    ∨ (∃ key, keyOf cred.privateData = some key ∧ n < key.length ∧ key.length ≤ int32Max)
    ∨ (cred.privateData.encoding = .base64 ∧ keyOf cred.privateData = some [])
    ∨ ((∀ key, keyOf cred.privateData = some key → int32Max < key.length)
      ∧ (isNonEmptyRole cred.roleId → ⟨cred.subject, cred.roleId⟩ ∈ roles))

def FirstDecides (creds : List OicSecCred) (roles : List SymmetricRoleEntry)
    (peer : OicUuid) (n : Nat) : Prop :=
  ∀ cred, creds.find? (isFor peer) = some cred → if isUsable valid peer n cred then
      ∀ key, keyOf cred.privateData = some key → key.length ≤ int32Max
    else
      (∀ other ∈ creds, isUsable valid peer n other = false) ∧ LeavesRoles valid roles n cred

/-! ## The copy of a key -/

section

variable {cred : OicSecCred} {roles : List SymmetricRoleEntry} {entry : SymmetricRoleEntry}

lemma copyKey_eq (result key : List UInt8) :
    copyKey result key = some (if int32Max < key.length then .done (-1) result
      else if result.length < key.length then .returned
      else .done key.length (splice result 0 key)) := by
  by_cases hbound : int32Max < key.length
  · simp [copyKey, valueWithinBounds, hbound]
  by_cases hfits : result.length < key.length
  · simp [copyKey, valueWithinBounds, hbound, hfits, Nat.not_lt.mp hbound]
  rw [copyKey, if_pos (by simpa [valueWithinBounds] using hbound), if_neg hfits,
    storeAll_eq_splice (by omega), if_neg hbound, if_neg hfits, Option.map_some]

lemma decodeText_ne_nil {data : List UInt8} (hvalid : isValidB64EncodedString data = .ok)
    (hdata : data ≠ []) : decodeText data ≠ [] := by
  obtain ⟨hmod, hpadded⟩ := (isValidB64EncodedString_iff data).mp hvalid
  have hlen := length_decodeText hmod ((tailValid_iff (by omega)).mpr hpadded)
  have hpos := length_pos_of_ne_nil hdata
  have hpadding : b64Padding data ≤ 2 := by
    unfold b64Padding
    split_ifs <;> omega
  rw [← length_pos_iff]
  omega

lemma copyPsk_eq (privateData : OicSecKey) (result : List UInt8) :
    copyPsk privateData result = match keyOf privateData with
      | none => some (.done (-1) result)
      | some key => if privateData.encoding = .base64 ∧ key = [] then some .returned
        else copyKey result key := by
  obtain ⟨data, encoding⟩ := privateData
  cases encoding
  case base64 =>
    by_cases hvalid : isValidB64EncodedString (data.getD []) = .ok
    · by_cases hdata : data.getD [] = []
      · have hempty : isValidB64EncodedString [] = .ok := rfl
        simp [copyPsk, keyOf, hdata, b64DecodeOutSafeSize, decodeText, hempty]
      have hpos := length_pos_of_ne_nil hdata
      have hsize : b64DecodeOutSafeSize ((data.getD []).length + 1) ≠ 0 := by
        unfold b64DecodeOutSafeSize
        omega
      have hfits : (decodeText (data.getD [])).length
          ≤ (calloc (b64DecodeOutSafeSize ((data.getD []).length + 1)) : List UInt8).length := by
        have hsafe := decodeText_safeSize hvalid
        unfold b64DecodeOutSafeSize at *
        rw [length_calloc]
        omega
      have htake : (splice (calloc (b64DecodeOutSafeSize ((data.getD []).length + 1))) 0
          (decodeText (data.getD []))).take (0 + (decodeText (data.getD [])).length)
            = [] ++ decodeText (data.getD []) := take_splice (Nat.zero_le _)
      rw [Nat.zero_add, nil_append] at htake
      simp [copyPsk, keyOf, hvalid, hsize, b64Decode_spec hvalid hfits, htake,
        decodeText_ne_nil hvalid hdata]
    · have hsize : b64DecodeOutSafeSize ((data.getD []).length + 1) ≠ 0 := by
        have hdata : data.getD [] ≠ [] := by
          intro h
          rw [h] at hvalid
          exact hvalid rfl
        have hpos := length_pos_of_ne_nil hdata
        unfold b64DecodeOutSafeSize
        omega
      simp [copyPsk, keyOf, hvalid, hsize, b64Decode_refused hvalid]
  all_goals rfl

/-! ## The role -/

lemma mem_register (h : entry ∈ (registerSymmetricCredentialRole cred roles).2) :
    entry ∈ roles ∨ isNonEmptyRole cred.roleId = true ∧ entry = ⟨cred.subject, cred.roleId⟩ := by
  by_cases htype : cred.credType = symmetricPairWiseKey
  swap
  · rw [registerSymmetricCredentialRole, if_pos htype] at h
    exact .inl h
  rw [registerSymmetricCredentialRole, if_neg (not_not.mpr htype)] at h
  by_cases hrole : isNonEmptyRole cred.roleId = true
  · simp only [hrole, Bool.not_true, Bool.false_eq_true, if_false, if_true] at h
    split at h
    next _ =>
      rcases FirstMatch.mem_modify h with hold | ⟨old, hlookup, rfl⟩
      · exact .inl hold
      have hsubject := FirstMatch.key_of_lookup _ hlookup
      exact .inr ⟨hrole, by rw [← hsubject]⟩
    next _ =>
      rcases mem_append.mp h with hold | hnew
      · exact .inl hold
      · exact .inr ⟨hrole, mem_singleton.mp hnew⟩
  · simp only [hrole, Bool.not_false, if_true] at h
    split at h
    next _ => exact .inl (FirstMatch.mem_of_mem_erase h)
    next _ => exact .inl h

lemma register_mem (htype : cred.credType = symmetricPairWiseKey)
    (hrole : isNonEmptyRole cred.roleId = true) :
    ⟨cred.subject, cred.roleId⟩ ∈ (registerSymmetricCredentialRole cred roles).2 := by
  unfold registerSymmetricCredentialRole
  rw [if_neg (not_not.mpr htype)]
  split
  next old hlookup =>
    obtain ⟨before, rest, -, hmodify⟩ :=
      FirstMatch.modify_of_lookup hlookup ({ · with role := cred.roleId })
    have hsubject : old.subject = cred.subject := FirstMatch.key_of_lookup _ hlookup
    simp [hrole, hmodify, hsubject]
  next => simp [hrole]

lemma register_adds_iff (htype : cred.credType = symmetricPairWiseKey) :
    (∀ entry ∈ (registerSymmetricCredentialRole cred roles).2, entry ∈ roles)
      ↔ (isNonEmptyRole cred.roleId → ⟨cred.subject, cred.roleId⟩ ∈ roles) := by
  refine ⟨fun h hrole => h _ (register_mem htype hrole), fun h entry hentry => ?_⟩
  rcases mem_register hentry with hold | ⟨hrole, rfl⟩
  · exact hold
  · exact h hrole

end

/-! ## The loop -/

section

variable {creds : List OicSecCred} {roles after : List SymmetricRoleEntry}
  {peer : OicUuid} {result : List UInt8} {cred : OicSecCred}

lemma pskLoop_eq (creds : List OicSecCred) :
    pskLoop valid peer.id.toList result roles creds
      = match creds.find? (isFor peer) with
        | none => some ⟨-1, result, roles⟩
        | some cred => pskOf valid cred result roles := by
  induction creds with
  | nil => rfl
  | cons cred rest ih =>
    by_cases htype : cred.credType = symmetricPairWiseKey
    · have hdesc : peer.id.toList = cred.subject.id.toList ↔ cred.subject = peer := by
        rw [Vector.toList_inj]
        exact ⟨fun h => congrArg OicUuid.mk h.symm, fun h => congrArg OicUuid.id h.symm⟩
      by_cases hsubject : cred.subject = peer
      · simp [pskLoop, isFor, htype, hsubject]
      · simp only [pskLoop, htype, ne_eq, not_true_eq_false, if_false, hdesc, hsubject, and_false,
          ih, find?_cons, isFor, decide_false]
    · simp only [pskLoop, htype, ne_eq, not_false_eq_true, if_true, ih, find?_cons, isFor,
        false_and, decide_false]

variable {valid}

lemma isFor_of_isUsable {n : Nat} (h : isUsable valid peer n cred = true) :
    isFor peer cred = true :=
  (of_decide_eq_true h).1

lemma find?_isUsable {n : Nat} (hfind : creds.find? (isFor peer) = some cred)
    (husable : isUsable valid peer n cred = true) :
    creds.find? (isUsable valid peer n) = some cred := by
  rw [find?_eq_some_iff_append] at hfind ⊢
  obtain ⟨_, before, rest, hsplit, hbefore⟩ := hfind
  refine ⟨husable, before, rest, hsplit, fun other hother => ?_⟩
  have hnot := hbefore other hother
  simp only [Bool.not_eq_eq_eq_not, Bool.not_true, Bool.eq_false_iff] at hnot ⊢
  exact fun h => hnot (isFor_of_isUsable h)

lemma exact_refused_iff :
    Exact valid creds roles peer result ⟨-1, result, after⟩
      ↔ (∀ other ∈ creds, isUsable valid peer result.length other = false)
        ∧ ∀ entry ∈ after, entry ∈ roles := by
  have hneg : ¬ 0 < (-1 : Int) := by decide
  refine ⟨fun h => ⟨fun other hother => ?_, fun entry hentry => ?_⟩, fun ⟨hnone, hroles⟩ => ?_⟩
  · rw [Bool.eq_false_iff]
    exact fun husable => hneg (h.found.mpr ⟨other, hother, husable⟩)
  · by_contra hnew
    exact hneg (h.role entry hentry hnew)
  have hnot : ¬ ∃ other ∈ creds, isUsable valid peer result.length other = true := by
    rintro ⟨other, hother, husable⟩
    exact absurd husable (by simp [hnone other hother])
  constructor
  · exact iff_of_false hneg hnot
  · intro other hfind
    exact absurd ⟨other, mem_of_find?_eq_some hfind, find?_some hfind⟩ hnot
  · rfl
  · exact fun entry hentry hnew => absurd (hroles entry hentry) hnew
  · exact fun _ => show (-1 : Int) < 0 by decide

lemma exact_found (hfind : creds.find? (isFor peer) = some cred) {key : List UInt8}
    (husable : isUsable valid peer result.length cred = true)
    (hkey : keyOf cred.privateData = some key) :
    Exact valid creds roles peer result ⟨key.length, splice result 0 key, after⟩ := by
  obtain ⟨-, -, hfits⟩ := of_decide_eq_true husable
  rw [hkey, Option.any_some, decide_eq_true_iff] at hfits
  have hpos : (0 : Int) < key.length := Int.natCast_pos.mpr (length_pos_of_ne_nil hfits.1)
  constructor
  · exact iff_of_true hpos ⟨cred, mem_of_find?_eq_some hfind, husable⟩
  · intro other hother
    rw [find?_isUsable hfind husable, Option.some.injEq] at hother
    subst hother
    have htake : (splice result 0 key).take (0 + key.length) = [] ++ key :=
      take_splice (Nat.zero_le _)
    rw [Nat.zero_add, nil_append] at htake
    exact ⟨key, hkey, rfl, htake⟩
  · exact length_splice (by omega)
  · exact fun _ _ _ => hpos
  · exact fun h => absurd hpos h

/-! ## Which credential decides -/

lemma pskOf_expired (hperiod : inPeriod valid cred = false) :
    pskOf valid cred result roles = some ⟨-1, result, roles⟩ := by
  have h := of_decide_eq_false hperiod
  rw [not_or, Option.isNone_iff_eq_none, ← ne_eq, ← Option.isSome_iff_ne_none] at h
  rw [pskOf, if_pos h]

lemma pskOf_inPeriod (hperiod : inPeriod valid cred = true) :
    pskOf valid cred result roles = (copyPsk cred.privateData result).map fun
        | .returned => ⟨-1, result, roles⟩
        | .done ret result =>
          ⟨ret, result, (registerSymmetricCredentialRole cred roles).2⟩ := by
  have h : ¬ (cred.period.isSome ∧ valid cred.period none ≠ .validAccess) := by
    rw [inPeriod, decide_eq_true_iff] at hperiod
    rintro ⟨hsome, hnot⟩
    rcases hperiod with hnone | hvalid
    · rw [Option.isNone_iff_eq_none] at hnone
      simp [hnone] at hsome
    · exact hnot hvalid
  rw [pskOf, if_neg h]
  cases copyPsk cred.privateData result with
  | none => rfl
  | some copy => cases copy <;> rfl

lemma pskOf_exact_iff (hfind : creds.find? (isFor peer) = some cred) :
    (∃ run, pskOf valid cred result roles = some run ∧ Exact valid creds roles peer result run)
      ↔ FirstDecides valid creds roles peer result.length := by
  have hfor : isFor peer cred = true := find?_some hfind
  have htype := (of_decide_eq_true hfor).1
  simp only [FirstDecides, hfind, Option.some.injEq, forall_eq']
  cases hperiod : inPeriod valid cred with
  | false =>
    simp [pskOf_expired hperiod, exact_refused_iff, isUsable, LeavesRoles, hperiod]
  | true =>
    rw [pskOf_inPeriod hperiod, copyPsk_eq]
    cases hkey : keyOf cred.privateData with
    | none =>
      simp [exact_refused_iff, register_adds_iff htype, isUsable, LeavesRoles, hperiod, hkey]
    | some key =>
      have husable : isUsable valid peer result.length cred = true
          ↔ key ≠ [] ∧ key.length ≤ result.length := by
        simp [isUsable, hfor, hperiod, hkey]
      by_cases hempty : cred.privateData.encoding = .base64 ∧ key = []
      · simp [exact_refused_iff, husable, LeavesRoles, hkey, hempty]
      dsimp only
      rw [if_neg hempty, copyKey_eq]
      by_cases hbound : int32Max < key.length
      · have hleaves : LeavesRoles valid roles result.length cred
            ↔ (isNonEmptyRole cred.roleId → ⟨cred.subject, cred.roleId⟩ ∈ roles) := by
          have hne : key ≠ [] := by
            rintro rfl
            exact absurd hbound (by decide)
          simp [LeavesRoles, hperiod, hkey, hbound, hne, Nat.not_le.mpr hbound]
        by_cases hfits : key ≠ [] ∧ key.length ≤ result.length
        · have hsome := husable.mpr hfits
          have hfound : ¬ ∀ other ∈ creds, isUsable valid peer result.length other = false := by
            intro hnone
            rw [hnone cred (mem_of_find?_eq_some hfind)] at hsome
            cases hsome
          simp [hbound, exact_refused_iff, hfound, hsome]
        · simp [hbound, exact_refused_iff, register_adds_iff htype, husable, hfits, hleaves]
      by_cases hlong : result.length < key.length
      · have hleaves : LeavesRoles valid roles result.length cred :=
          .inr (.inl ⟨key, hkey, hlong, Nat.not_lt.mp hbound⟩)
        simp [hbound, hlong, exact_refused_iff, husable, Nat.not_le.mpr hlong, hleaves]
      by_cases hnil : key = []
      · -- an empty key is answered with its length, which is no error
        subst hnil
        have hleaves : ¬ LeavesRoles valid roles result.length cred := by
          simp [LeavesRoles, hperiod, hkey] at hempty ⊢
          exact hempty
        refine iff_of_false ?_ (by simp [husable, hleaves])
        rintro ⟨run, hrun, hexact⟩
        simp only [hbound, hlong, if_false, Option.map_some, Option.some.injEq] at hrun
        subst hrun
        exact absurd (hexact.refused (by simp)) (by simp)
      have hsome := husable.mpr ⟨hnil, Nat.not_lt.mp hlong⟩
      refine iff_of_true ⟨_, rfl, ?_⟩ ?_
      · simp only [hbound, hlong, if_false]
        exact exact_found hfind hsome hkey
      · simpa [hsome] using Nat.not_lt.mp hbound

end

theorem psk_exact_iff (strptime : Strptime) (now : IotvtICalDateTime)
    (overflowed : Option String → Option String → IotvtICalResult) (doxmDeviceID : Option OicUuid)
    (gCred : List OicSecCred) (gSymmetricRoles : List SymmetricRoleEntry) (peer : OicUuid)
    (result : List UInt8) :
    let valid := answerAt strptime now overflowed
    (∃ run, getDtlsPskCredentials valid doxmDeviceID gCred gSymmetricRoles .key
          peer.id.toList result = some run
        ∧ Exact valid gCred gSymmetricRoles peer result run)
      ↔ FirstDecides valid gCred gSymmetricRoles peer result.length := by
  intro valid
  rw [getDtlsPskCredentials, pskLoop_eq]
  cases hfind : gCred.find? (isFor peer) with
  | some cred => exact pskOf_exact_iff hfind
  | none =>
    refine iff_of_true ⟨_, rfl, exact_refused_iff.mpr ⟨fun other hother => ?_, fun _ h => h⟩⟩ ?_
    · rw [Bool.eq_false_iff]
      exact fun husable => find?_eq_none.mp hfind other hother (isFor_of_isUsable husable)
    · intro cred hcred
      rw [hfind] at hcred
      cases hcred

def peerCreds : List OicSecCred :=
  [⟨some [ascii 'A'], .base64⟩, ⟨some [1], .raw⟩].map fun privateData =>
    { credId := 1, subject := .nil, roleId := ⟨"admin", ""⟩, credType := symmetricPairWiseKey,
      publicData := .zero, credUsage := none, optionalData := ⟨none, .unknown, false⟩,
      privateData, period := none, eownerID := none }

theorem usable_key_hidden :
    ¬ ∃ run, getDtlsPskCredentials (fun _ _ => .validAccess) none peerCreds [] .key
          OicUuid.nil.id.toList (calloc 16) = some run
        ∧ Exact (fun _ _ => .validAccess) peerCreds [] .nil (calloc 16) run := by
  rintro ⟨run, hrun, hexact⟩
  have hret : run.ret = -1 := by
    have h : some run.ret = some (-1) := (congrArg (·.map PskRun.ret) hrun).symm.trans rfl
    exact Option.some.inj h
  have hfound := hexact.found.mpr ⟨peerCreds[1], by simp [peerCreds], by decide⟩
  rw [hret] at hfound
  exact absurd hfound (by decide)

/-! ## Revocation -/

def IsGone (peer : OicUuid) (heap : CredHeap) : Prop :=
  ∀ node ∈ heap.gCred, node.cred.subject ≠ peer

def AddsNoneFor (peer : OicUuid) : CredOp → Prop
  | .add _ _ newCred => newCred.cred.subject ≠ peer
  | _ => True

section

variable {peer : OicUuid} {heap : CredHeap}

lemma isGone_of_subset {heap' : CredHeap} (h : IsGone peer heap)
    (hsub : heap'.gCred ⊆ heap.gCred) : IsGone peer heap' :=
  fun node hnode => h node (hsub hnode)

lemma isGone_insertCred {newCred : CredNode} (hnew : newCred.cred.subject ≠ peer)
    (h : IsGone peer heap) : IsGone peer (insertCred newCred heap) := by
  intro node hnode
  by_cases hid : newCred.cred.credId = 0
  · rw [insertCred_assigned heap hid, mem_append, sortByCredId, mem_mergeSort] at hnode
    rcases hnode with hold | hadded
    · exact h node hold
    · rwa [mem_singleton.mp hadded]
  · rw [insertCred_given heap hid, mem_append] at hnode
    rcases hnode with hold | hadded
    · exact h node (mem_of_mem_eraseP hold)
    · rwa [mem_singleton.mp hadded]

lemma isGone_step (op : CredOp) (hop : AddsNoneFor peer op) (h : IsGone peer heap) :
    IsGone peer (heap.step op).1 := by
  cases op with
  | add dos write newCred =>
    cases dos with
    | false => exact h
    | true => exact isGone_insertCred hop h
  | remove write subject => exact isGone_of_subset h filter_sublist.subset
  | removeById write credId =>
    simp only [CredHeap.step, CredOp.call, removeCredentialByCredId]
    split
    · exact h
    · exact isGone_of_subset h filter_sublist.subset
  | removeByIds write credIdList =>
    exact foldlRecOn credIdList _ h
      (fun _ hgone _ _ => isGone_of_subset hgone filter_sublist.subset)

end

/-- **A removed peer has no key.** After `RemoveCredential` for a peer, and as long as no
credential for it is added, the lookup gives no key for it and registers no role. -/
theorem removed_peer_no_key (valid : Option String → Option String → IotvtICalResult)
    (doxmDeviceID : Option OicUuid) (heap : CredHeap) (write : Bool) {peer : OicUuid}
    {ops : List CredOp} (hops : ∀ op ∈ ops, AddsNoneFor peer op)
    (gSymmetricRoles : List SymmetricRoleEntry) (result : List UInt8) :
    let left := (Runs.run CredHeap.step (removeCredential write peer heap).1 ops).1
    getDtlsPskCredentials valid doxmDeviceID (left.gCred.map CredNode.cred) gSymmetricRoles .key
      peer.id.toList result = some ⟨-1, result, gSymmetricRoles⟩ := by
  intro left
  have hremoved : IsGone peer (removeCredential write peer heap).1 :=
    fun node hnode => by simpa using (mem_filter.mp hnode).2
  have hgone : IsGone peer left :=
    Runs.run_inv (IsGone peer) (AddsNoneFor peer) (fun _ => isGone_step) hremoved hops
  have hnone : (left.gCred.map CredNode.cred).find? (isFor peer) = none := by
    rw [find?_eq_none, forall_mem_map]
    exact fun node hnode hfor => hgone node hnode (of_decide_eq_true hfor).2
  rw [getDtlsPskCredentials, pskLoop_eq, hnone]

def otherPeer : OicUuid := ⟨Vector.replicate 16 1⟩

theorem removed_nilPeer_no_key :
    let left := (Runs.run CredHeap.step
      (removeCredential true .nil ⟨peerCreds.map (CredNode.mk 0), []⟩).1
      [.add true true ⟨1, { plainCred with subject := otherPeer }⟩]).1
    getDtlsPskCredentials (fun _ _ => .validAccess) none (left.gCred.map CredNode.cred) [] .key
      OicUuid.nil.id.toList (calloc 16) = some ⟨-1, calloc 16, []⟩ :=
  removed_peer_no_key _ none _ true
    (fun _ h => mem_singleton.mp h ▸ show otherPeer ≠ .nil by decide) [] (calloc 16)

end Iochibity.Sec.Psk
