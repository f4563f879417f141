/-
What a certificate is accepted for, and what earlier handshakes have to do with it.
-/
import Iochibity.Sec.SslTable
import Mathlib.Data.List.DropRight

namespace Iochibity.Sec.CertIdentity

open RoleCert (X509Name mbedtlsOidAtCn)
open Option (bind_eq_bind bind_some some_inj some.inj)
open List

def asciiLower (c : UInt8) : UInt8 := if 0x41 ≤ c ∧ c ≤ 0x5A then c + 0x20 else c

def IsUuidText (text : List UInt8) (uuid : OicUuid) : Prop := text.map asciiLower = uuidText uuid

def firstCn (subject : List X509Name) : Option X509Name :=
  subject.find? (·.oid == mbedtlsOidAtCn)

def leafOf (crt : X509Crt) (chain : List X509Crt) : X509Crt := chain.getLastD crt

section Promise

variable (convertPemCertToDer : List UInt8 → Option (List UInt8))

def vouches (crt : X509Crt) (cred : OicSecCred) : Bool :=
  cred.credType == signedAsymmetricKey && cred.credUsage == some trustCa
    && derOf convertPemCertToDer cred == some crt.raw

def vouchers (gCred : List OicSecCred) (crt : X509Crt) : List OicUuid :=
  (gCred.filter (vouches convertPemCertToDer crt)).map OicSecCred.subject

section

variable (gCred : List OicSecCred) (crt : X509Crt) (chain : List X509Crt)

def vouching : List OicUuid :=
  (crt :: chain).flatMap (vouchers convertPemCertToDer gCred)

/-- A CN in which `UUID_PREFIX` and the complete text of this UUID stand. -/
def ClaimsUuid (name : X509Name) (uuid : OicUuid) : Prop :=
  ∃ text, uuidPrefix ++ text <:+: name.val ∧ IsUuidText text uuid

/-- A CN that is vouched for: it has a UUID, and a trust anchor in the chain vouches for it or for
all. -/
def VouchedFor (name : X509Name) : Prop :=
  ∃ uuid, ClaimsUuid name uuid ∧ ∃ subject ∈ vouching convertPemCertToDer gCred crt chain,
      subject = uuid ∨ subject = wildcardSubjectId

def Acceptable : Prop :=
  ∃ name, firstCn (leafOf crt chain).subject = some name
    ∧ VouchedFor convertPemCertToDer gCred crt chain name

end

section

variable (history : List Callback) (gCred : List OicSecCred) (crt : X509Crt) (chain : List X509Crt)

def answer : Option Int :=
  (listAfter convertPemCertToDer history).bind fun list =>
    (verifyChain convertPemCertToDer gCred list crt chain).map Prod.snd

structure Right (history : List Callback) (gCred : List OicSecCred) (crt : X509Crt)
    (chain : List X509Crt) : Prop where
  answered : ∃ ret, answer convertPemCertToDer history gCred crt chain = some ret
  accepted : answer convertPemCertToDer history gCred crt chain = some 0
    ↔ Acceptable convertPemCertToDer gCred crt chain

def empties (callback : Callback) : Bool :=
  decide (callback.depth = 0) && (leafText callback.crt).isSome

def pending (history : List Callback) : List Callback :=
  history.rtakeWhile (!empties ·)

def leftover (history : List Callback) : List OicUuid :=
  (pending history).flatMap
    (fun callback => vouchers convertPemCertToDer callback.gCred callback.crt)

def Usable (gCred : List OicSecCred) : Prop :=
  ∀ cred ∈ gCred, cred.credType = signedAsymmetricKey → cred.credUsage ≠ none

def Passes (name : X509Name) : Prop :=
  ∃ text, claimedText name = some text ∧
    ∃ uuid, (uuid ∈ leftover convertPemCertToDer history
        ∨ uuid ∈ vouching convertPemCertToDer gCred crt chain)
      ∧ (text = uuidText uuid ∨ uuid = wildcardSubjectId)

end

def IsCn (crt : X509Crt) (chain : List X509Crt) (name : X509Name) : Prop :=
  pickedName (leafOf crt chain).subject = some name ∧ firstCn (leafOf crt chain).subject = some name

structure Undisturbed (history : List Callback) (gCred : List OicSecCred) (crt : X509Crt)
    (chain : List X509Crt) : Prop where
  usableBefore : ∀ callback ∈ history, Usable callback.gCred
  usable : Usable gCred
  /-- What else is taken for the CN passes as the CN is vouched for. -/
  name : pickedName (leafOf crt chain).subject ≠ firstCn (leafOf crt chain).subject →
    ((∃ name, pickedName (leafOf crt chain).subject = some name
        ∧ Passes convertPemCertToDer history gCred crt chain name)
      ↔ Acceptable convertPemCertToDer gCred crt chain)
  /-- A CN that claims no UUID meets no wildcard. -/
  noUuid : ∀ name text, IsCn crt chain name →
    claimedText name = some text → (∀ uuid, ¬ ClaimsUuid name uuid) →
    wildcardSubjectId ∉ leftover convertPemCertToDer history
      ∧ wildcardSubjectId ∉ vouching convertPemCertToDer gCred crt chain
  /-- What was left vouches for no CN that the chain does not vouch for. -/
  leftover : ∀ name text claimed, IsCn crt chain name →
    claimedText name = some text → ClaimsUuid name claimed →
    (∃ uuid ∈ leftover convertPemCertToDer history,
      text = uuidText uuid ∨ uuid = wildcardSubjectId) →
    ∃ uuid, ClaimsUuid name uuid
      ∧ (uuid ∈ vouching convertPemCertToDer gCred crt chain
        ∨ wildcardSubjectId ∈ vouching convertPemCertToDer gCred crt chain)
  /-- A UUID that is vouched for stands in lower case behind the first `UUID_PREFIX`, or something
  else lets the CN pass. -/
  lower : ∀ name uuid, IsCn crt chain name → ClaimsUuid name uuid →
    uuid ∈ vouching convertPemCertToDer gCred crt chain →
    claimedText name = some (uuidText uuid)
      ∨ ∃ other, (other ∈ CertIdentity.leftover convertPemCertToDer history
          ∨ other ∈ vouching convertPemCertToDer gCred crt chain)
        ∧ (claimedText name = some (uuidText other) ∨ other = wildcardSubjectId)

end Promise

lemma uuidText_injective : Function.Injective uuidText := by
  intro u v h
  have hstr := congrArg convertStrToUuid (cString_inj.mp h)
  rw [convertStrToUuid_convertUuidToStr, convertStrToUuid_convertUuidToStr] at hstr
  exact some.inj hstr

lemma asciiLower_hexAscii {n : UInt8} (h : n < 16) : asciiLower (hexAscii n) = hexAscii n := by
  have hall : ∀ k : Fin 16,
      asciiLower (hexAscii (UInt8.ofNat k)) = hexAscii (UInt8.ofNat k) := by decide
  have hn := hall ⟨n.toNat, h⟩
  rwa [UInt8.ofNat_toNat] at hn

lemma isUuidText_uuidText (uuid : OicUuid) : IsUuidText (uuidText uuid) uuid := by
  have hall : ∀ (i : ℕ) (bytes : List UInt8),
      ((uuidChars i bytes).flatMap String.utf8EncodeChar).map asciiLower
        = (uuidChars i bytes).flatMap String.utf8EncodeChar := by
    intro i bytes
    induction bytes generalizing i with
    | nil => rfl
    | cons b rest ih =>
      have hbyte : (hexBytes b).map asciiLower = hexBytes b := by
        rw [hexBytes, map_cons, map_cons, map_nil,
          asciiLower_hexAscii (div16_lt b), asciiLower_hexAscii (mod16_lt b)]
      have hhyphen : ((hyphenBefore i).flatMap String.utf8EncodeChar).map asciiLower
          = (hyphenBefore i).flatMap String.utf8EncodeChar := by
        rw [hyphenBefore]
        split_ifs <;> decide
      rw [uuidChars, flatMap_append, flatMap_append, map_append, map_append,
        ih, hhyphen, encode_hexByte, hbyte]
  rw [IsUuidText, uuidText, cString_convertUuidToStr]
  exact hall 0 uuid.id.toList

lemma uuidWildcard_eq : uuidWildcard = uuidText wildcardSubjectId := by decide

lemma isMatched_iff (uuids : List OicUuid) (text : List UInt8) :
    isMatched (uuids.map uuidText) text = true
      ↔ (∃ uuid, text = uuidText uuid ∧ uuid ∈ uuids) ∨ wildcardSubjectId ∈ uuids := by
  rw [isMatched, any_eq_true, uuidWildcard_eq]
  constructor
  · rintro ⟨node, hnode, hmatch⟩
    obtain ⟨uuid, huuid, rfl⟩ := mem_map.mp hnode
    rw [Bool.or_eq_true, beq_iff_eq, beq_iff_eq] at hmatch
    rcases hmatch with htext | hwild
    · exact .inl ⟨uuid, htext.symm, huuid⟩
    rw [← uuidText_injective hwild]
    exact .inr huuid
  · rintro (⟨uuid, rfl, huuid⟩ | hwild)
    · refine ⟨uuidText uuid, mem_map_of_mem huuid, ?_⟩
      simp
    · refine ⟨uuidText wildcardSubjectId, mem_map_of_mem hwild, ?_⟩
      simp

/-! ## The list -/

section List

variable {convertPemCertToDer : List UInt8 → Option (List UInt8)}

variable {gCred : List OicSecCred}

lemma getIdentityHandler_eq (h : Usable gCred) (list : List (List UInt8)) (crt : X509Crt) :
    getIdentityHandler convertPemCertToDer list crt.raw gCred
      = some (list ++ (vouchers convertPemCertToDer gCred crt).map uuidText) := by
  induction gCred generalizing list with
  | nil =>
    rw [getIdentityHandler, vouchers, filter_nil, map_nil, map_nil, append_nil]
  | cons cred rest ih =>
    obtain ⟨hcred, hrest⟩ := forall_mem_cons.mp h
    have hskip : ∀ list', vouches convertPemCertToDer crt cred = false →
        getIdentityHandler convertPemCertToDer list' crt.raw rest
          = some (list' ++ (vouchers convertPemCertToDer (cred :: rest) crt).map uuidText) := by
      intro list' hno
      rw [ih hrest, vouchers, vouchers, filter_cons_of_neg]
      rw [hno]
      exact Bool.false_ne_true
    rw [getIdentityHandler]
    by_cases htype : cred.credType = signedAsymmetricKey
    · rw [if_neg (· htype)]
      cases husage : cred.credUsage with
      | none => exact absurd husage (hcred htype)
      | some usage =>
        dsimp only
        by_cases hca : usage = trustCa
        · by_cases hder : derOf convertPemCertToDer cred = some crt.raw
          · have hyes : vouches convertPemCertToDer crt cred = true := by
              rw [vouches, htype, husage, hca, hder, beq_self_eq_true, beq_self_eq_true,
                beq_self_eq_true]
              rfl
            rw [if_neg (· hca), if_neg (· hder), ih hrest]
            rw [vouchers, vouchers, filter_cons_of_pos hyes, map_cons, map_cons, append_assoc]
            rfl
          rw [if_neg (· hca), if_pos hder]
          refine hskip list ?_
          rw [vouches, Bool.and_eq_false_iff, beq_eq_false_iff_ne]
          exact .inr hder
        rw [if_pos hca]
        refine hskip list ?_
        rw [vouches, Bool.and_eq_false_iff, Bool.and_eq_false_iff, husage]
        refine .inl (.inr ?_)
        rw [beq_eq_false_iff_ne]
        exact fun heq => hca (some.inj heq)
    rw [if_pos htype]
    refine hskip list ?_
    rw [vouches, Bool.and_eq_false_iff, Bool.and_eq_false_iff, beq_eq_false_iff_ne]
    simp [htype]

lemma getIdentityHandler_none (h : ¬ Usable gCred) (list : List (List UInt8)) (crt : List UInt8) :
    getIdentityHandler convertPemCertToDer list crt gCred = none := by
  induction gCred generalizing list with
  | nil => exact absurd (fun cred hcred => absurd hcred not_mem_nil) h
  | cons cred rest ih =>
    rw [getIdentityHandler]
    by_cases htype : cred.credType = signedAsymmetricKey
    · rw [if_neg (· htype)]
      cases husage : cred.credUsage with
      | none => rfl
      | some usage =>
        have hrest : ¬ Usable rest := by
          intro hrest
          refine h (forall_mem_cons.mpr ⟨fun _ hnone => ?_, hrest⟩)
          rw [husage] at hnone
          simp at hnone
        simp [ih hrest]
    rw [if_pos htype]
    refine ih (fun hrest => h (forall_mem_cons.mpr ⟨fun hyes => ?_, hrest⟩)) list
    exact absurd hyes htype

lemma verifyIdentity_eq (h : Usable gCred) (uuids : List OicUuid) (crt : X509Crt) (depth : ℕ) :
    verifyIdentity convertPemCertToDer gCred (uuids.map uuidText) crt depth = if depth = 0 then
          match leafText crt with
          | none => some ((uuids ++ vouchers convertPemCertToDer gCred crt).map uuidText, -1)
          | some uuid =>
            some ([], if isMatched
              ((uuids ++ vouchers convertPemCertToDer gCred crt).map uuidText) uuid then 0
              else -1)
        else some ((uuids ++ vouchers convertPemCertToDer gCred crt).map uuidText, 0) := by
  rw [verifyIdentity, getIdentityHandler_eq h, ← map_append]
  by_cases hdepth : depth = 0
  · rw [if_pos hdepth]
    cases htext : leafText crt with
    | none | some => simp only [bind_eq_bind, bind_some, if_pos hdepth]; rfl
  rw [if_neg hdepth]
  simp only [bind_eq_bind, bind_some, if_neg hdepth]
  rfl

lemma verifyIdentity_none (h : ¬ Usable gCred) (list : List (List UInt8)) (crt : X509Crt)
    (depth : ℕ) :
    verifyIdentity convertPemCertToDer gCred list crt depth = none := by
  rw [verifyIdentity, getIdentityHandler_none h]
  rfl

lemma pending_append (history : List Callback) (callback : Callback) :
    pending (history ++ [callback])
      = if empties callback then [] else pending history ++ [callback] := by
  cases hempties : empties callback with
  | true =>
    rw [if_pos rfl, pending, rtakeWhile_concat_neg]
    rw [hempties]
    simp
  | false =>
    rw [if_neg Bool.false_ne_true, pending, rtakeWhile_concat_pos, pending]
    rw [hempties]
    rfl

lemma leftover_append (history : List Callback) (callback : Callback) :
    leftover convertPemCertToDer (history ++ [callback]) = if empties callback then []
        else leftover convertPemCertToDer history
          ++ vouchers convertPemCertToDer callback.gCred callback.crt := by
  rw [leftover, pending_append]
  cases empties callback with
  | true => rfl
  | false =>
    rw [if_neg Bool.false_ne_true, if_neg Bool.false_ne_true, flatMap_append,
      flatMap_singleton, leftover]

variable {callback : Callback}

lemma verifyIdentity_list (h : Usable callback.gCred) (uuids : List OicUuid) :
    (verifyIdentity convertPemCertToDer callback.gCred (uuids.map uuidText) callback.crt
        callback.depth).map Prod.fst
      = some ((if empties callback then []
          else uuids ++ vouchers convertPemCertToDer callback.gCred callback.crt).map
            uuidText) := by
  rw [verifyIdentity_eq h]
  cases hempties : empties callback with
  | true =>
    rw [empties, Bool.and_eq_true, decide_eq_true_iff, Option.isSome_iff_exists] at hempties
    obtain ⟨hdepth, uuid, htext⟩ := hempties
    rw [if_pos hdepth, htext]
    rfl
  | false =>
    by_cases hdepth : callback.depth = 0
    · rw [empties, decide_eq_true hdepth, Bool.true_and, Option.isSome_eq_false_iff,
        Option.isNone_iff_eq_none] at hempties
      rw [if_pos hdepth, hempties]
      rfl
    rw [if_neg hdepth]
    rfl

lemma listAfter_append (history : List Callback) (callback : Callback) :
    listAfter convertPemCertToDer (history ++ [callback])
      = (listAfter convertPemCertToDer history).bind (fun list =>
        (verifyIdentity convertPemCertToDer callback.gCred list callback.crt
          callback.depth).map Prod.fst) := by
  rw [listAfter, foldlM_append]
  simp only [foldlM_cons, foldlM_nil, bind_pure]
  rfl

variable {history : List Callback}

lemma listAfter_eq (h : ∀ callback ∈ history, Usable callback.gCred) :
    listAfter convertPemCertToDer history
      = some ((leftover convertPemCertToDer history).map uuidText) := by
  induction history using List.reverseRecOn with
  | nil =>
    rw [leftover, pending, rtakeWhile_nil]
    rfl
  | append_singleton history callback ih =>
    have hbefore := ih (fun c hc => h c (mem_append_left _ hc))
    have husable := h callback (mem_append_right _ (mem_singleton_self _))
    rw [listAfter_append, hbefore, bind_some, verifyIdentity_list husable, leftover_append]

lemma listAfter_none (hmem : callback ∈ history) (h : ¬ Usable callback.gCred) :
    listAfter convertPemCertToDer history = none := by
  induction history using List.reverseRecOn with
  | nil => simp at hmem
  | append_singleton history last ih =>
    rw [listAfter_append]
    rcases mem_append.mp hmem with hmem | hmem
    · rw [ih hmem]
      rfl
    rw [← mem_singleton.mp hmem]
    simp [verifyIdentity_none h]

lemma verifyChain_eq (h : Usable gCred) (uuids : List OicUuid) (crt : X509Crt)
    (chain : List X509Crt) :
    (verifyChain convertPemCertToDer gCred (uuids.map uuidText) crt chain).map Prod.snd
      = match leafText (leafOf crt chain) with
        | none => some (-1)
        | some text =>
          some (if isMatched
            ((uuids ++ vouching convertPemCertToDer gCred crt chain).map uuidText) text then 0
            else -1) := by
  induction chain generalizing crt uuids with
  | nil =>
    rw [verifyChain, verifyIdentity_eq h, if_pos rfl, leafOf, getLastD_nil, vouching,
      flatMap_singleton]
    cases leafText crt with
    | none | some => rfl
  | cons next rest ih =>
    have hleaf : leafOf crt (next :: rest) = leafOf next rest := by
      rw [leafOf, leafOf, getLastD_cons]
    have hvouching : vouching convertPemCertToDer gCred crt (next :: rest)
        = vouchers convertPemCertToDer gCred crt
          ++ vouching convertPemCertToDer gCred next rest := flatMap_cons
    rw [verifyChain, verifyIdentity_eq h, if_neg (Nat.succ_ne_zero _), hleaf, hvouching,
      ← append_assoc]
    exact ih (uuids ++ vouchers convertPemCertToDer gCred crt) next

lemma verifyChain_none (h : ¬ Usable gCred) (list : List (List UInt8)) (crt : X509Crt)
    (chain : List X509Crt) :
    verifyChain convertPemCertToDer gCred list crt chain = none := by
  cases chain with
  | nil => rw [verifyChain, verifyIdentity_none h]
  | cons next rest =>
    rw [verifyChain, verifyIdentity_none h]
    rfl

end List

/-! ## The answer -/

variable {needle text val : List UInt8}

lemma behindFirst_isSome (h : needle ++ text <:+: val) :
    ∃ behind, behindFirst needle val = some behind ∧ text.length ≤ behind.length := by
  induction val with
  | nil =>
    obtain ⟨hneedle, htext⟩ := append_eq_nil_iff.mp (infix_nil.mp h)
    refine ⟨[], ?_, ?_⟩
    · rw [behindFirst, if_pos hneedle]
    · rw [htext]
  | cons c rest ih =>
    rw [behindFirst]
    by_cases hhere : needle <+: c :: rest
    · refine ⟨_, if_pos hhere, ?_⟩
      have hlength := h.length_le
      rw [length_append] at hlength
      rw [length_drop]
      omega
    rw [if_neg hhere]
    rcases infix_cons_iff.mp h with hprefix | hinfix
    · exact absurd ((List.prefix_append needle text).trans hprefix) hhere
    · exact ih hinfix

lemma append_behindFirst {behind : List UInt8}
    (h : behindFirst needle val = some behind) : needle ++ behind <:+: val := by
  induction val with
  | nil =>
    rw [behindFirst] at h
    split_ifs at h with hneedle
    rw [hneedle, ← some.inj h]
    exact infix_rfl
  | cons c rest ih =>
    rw [behindFirst] at h
    split_ifs at h with hhere
    · have heq : needle ++ behind = c :: rest := by
        rw [← some.inj h]
        exact prefix_iff_eq_append.mp hhere
      simp [heq]
    · exact (ih h).trans (suffix_cons c rest).isInfix

lemma uuidText_length (uuid : OicUuid) : (uuidText uuid).length = uuidTextLength :=
  strlen_convertUuidToStr uuid

variable {uuid : OicUuid}

lemma IsUuidText.length_eq (h : IsUuidText text uuid) :
    text.length = uuidTextLength := by
  rw [← uuidText_length uuid, ← h, length_map]

variable {name : X509Name}

lemma ClaimsUuid.claimedText_isSome
    (h : ClaimsUuid name uuid) : ∃ text, claimedText name = some text := by
  obtain ⟨text, hinfix, htext⟩ := h
  obtain ⟨behind, hbehind, hlength⟩ := behindFirst_isSome hinfix
  rw [htext.length_eq] at hlength
  refine ⟨behind.take uuidTextLength, ?_⟩
  rw [claimedText, hbehind, bind_some, if_pos hlength]

lemma claimsUuid_of_claimedText
    (h : claimedText name = some (uuidText uuid)) : ClaimsUuid name uuid := by
  rw [claimedText, Option.bind_eq_some_iff] at h
  obtain ⟨behind, hbehind, htake⟩ := h
  split_ifs at htake
  refine ⟨uuidText uuid, ?_, isUuidText_uuidText uuid⟩
  rw [← some.inj htake]
  refine List.IsInfix.trans ?_ (append_behindFirst hbehind)
  exact ((prefix_append_right_inj uuidPrefix).mpr (List.take_prefix uuidTextLength behind)).isInfix

section Answer

variable {convertPemCertToDer : List UInt8 → Option (List UInt8)} {history : List Callback}
  {gCred : List OicSecCred} {crt : X509Crt} {chain : List X509Crt}

lemma answer_eq (convertPemCertToDer : List UInt8 → Option (List UInt8)) (crt : X509Crt)
    (chain : List X509Crt) (hbefore : ∀ callback ∈ history, Usable callback.gCred)
    (h : Usable gCred) :
    ∃ ret, answer convertPemCertToDer history gCred crt chain = some ret ∧ (ret = 0 ∨ ret = -1)
      ∧ (ret = 0 ↔ ∃ name, pickedName (leafOf crt chain).subject = some name
        ∧ Passes convertPemCertToDer history gCred crt chain name) := by
  rw [answer, listAfter_eq hbefore, bind_some, verifyChain_eq h]
  cases htext : leafText (leafOf crt chain) with
  | none =>
    refine ⟨-1, rfl, .inr rfl, fun hzero => absurd hzero (by decide), ?_⟩
    rintro ⟨name, hname, text, hclaimed, -⟩
    rw [leafText, hname, bind_some, hclaimed] at htext
    exact absurd htext (Option.some_ne_none text)
  | some text =>
    obtain ⟨name, hname, hclaimed⟩ := Option.bind_eq_some_iff.mp htext
    have hpasses : isMatched ((leftover convertPemCertToDer history
        ++ vouching convertPemCertToDer gCred crt chain).map uuidText) text = true
        ↔ Passes convertPemCertToDer history gCred crt chain name := by
      rw [isMatched_iff, Passes]
      constructor
      · rintro (⟨uuid, heq, huuid⟩ | hwild)
        · exact ⟨text, hclaimed, uuid, mem_append.mp huuid, .inl heq⟩
        · exact ⟨text, hclaimed, _, mem_append.mp hwild, .inr rfl⟩
      · rintro ⟨other, hother, uuid, huuid, heq | hwild⟩
        · rw [hclaimed] at hother
          rw [some.inj hother]
          exact .inl ⟨uuid, heq, mem_append.mpr huuid⟩
        · rw [← hwild]
          exact .inr (mem_append.mpr huuid)
    refine ⟨_, rfl, ?_, ?_⟩
    · split_ifs
      · exact .inl rfl
      · exact .inr rfl
    · constructor
      · intro hzero
        refine ⟨name, hname, hpasses.mp ?_⟩
        by_contra hno
        rw [if_neg hno] at hzero
        omega
      · rintro ⟨other, hother, hpass⟩
        rw [hname] at hother
        rw [← some.inj hother] at hpass
        rw [if_pos (hpasses.mpr hpass)]

lemma answer_none (h : ¬ ((∀ callback ∈ history, Usable callback.gCred) ∧ Usable gCred)) :
    answer convertPemCertToDer history gCred crt chain = none := by
  by_cases hbefore : ∀ callback ∈ history, Usable callback.gCred
  · have hno : ¬ Usable gCred := fun husable => h ⟨hbefore, husable⟩
    rw [answer, listAfter_eq hbefore, bind_some, verifyChain_none hno]
    rfl
  rw [not_forall] at hbefore
  obtain ⟨callback, hcallback⟩ := hbefore
  obtain ⟨hmem, hno⟩ := Classical.not_imp.mp hcallback
  rw [answer, listAfter_none hmem hno]
  rfl

lemma passes_iff (h : Undisturbed convertPemCertToDer history gCred crt chain)
    {name : X509Name} (hname : IsCn crt chain name) :
    Passes convertPemCertToDer history gCred crt chain name
      ↔ VouchedFor convertPemCertToDer gCred crt chain name := by
  constructor
  · rintro ⟨text, hclaimed, uuid, hmet, hmatch⟩
    by_cases hclaims : ∃ claimed, ClaimsUuid name claimed
    · obtain ⟨claimed, hclaims⟩ := hclaims
      rcases hmet with hleft | hvouching
      · obtain ⟨other, hother, hvouched⟩ :=
          h.leftover name text claimed hname hclaimed hclaims ⟨uuid, hleft, hmatch⟩
        rcases hvouched with hvouched | hwild
        · exact ⟨other, hother, other, hvouched, .inl rfl⟩
        · exact ⟨other, hother, _, hwild, .inr rfl⟩
      rcases hmatch with heq | hwild
      · rw [heq] at hclaimed
        exact ⟨uuid, claimsUuid_of_claimedText hclaimed, uuid, hvouching, .inl rfl⟩
      · exact ⟨claimed, hclaims, uuid, hvouching, .inr hwild⟩
    -- what claims no UUID is that of no subject, so only the wildcard could let it pass
    have hnone : ∀ claimed, ¬ ClaimsUuid name claimed := not_exists.mp hclaims
    obtain ⟨hleft, hvouching⟩ := h.noUuid name text hname hclaimed hnone
    rcases hmatch with heq | hwild
    · rw [heq] at hclaimed
      exact absurd (claimsUuid_of_claimedText hclaimed) (hnone uuid)
    rw [hwild] at hmet
    exact absurd hmet (not_or.mpr ⟨hleft, hvouching⟩)
  · rintro ⟨uuid, hclaims, subject, hvouching, hsubject⟩
    obtain ⟨text, hclaimed⟩ := hclaims.claimedText_isSome
    rcases hsubject with rfl | hwild
    · rcases h.lower name subject hname hclaims hvouching with hlower | ⟨other, hmet, hpass⟩
      · exact ⟨_, hlower, subject, .inr hvouching, .inl rfl⟩
      rcases hpass with hpass | hwild
      · exact ⟨_, hpass, other, hmet, .inl rfl⟩
      · exact ⟨text, hclaimed, other, hmet, .inr hwild⟩
    · exact ⟨text, hclaimed, subject, .inr hvouching, .inr hwild⟩

lemma Undisturbed.right (h : Undisturbed convertPemCertToDer history gCred crt chain) :
    Right convertPemCertToDer history gCred crt chain := by
  obtain ⟨ret, hanswer, -, hzero⟩ :=
    answer_eq convertPemCertToDer crt chain h.usableBefore h.usable
  refine ⟨⟨ret, hanswer⟩, ?_⟩
  rw [hanswer, some_inj, hzero]
  by_cases hsame : pickedName (leafOf crt chain).subject = firstCn (leafOf crt chain).subject
  · rw [Acceptable, hsame]
    constructor
    · rintro ⟨name, hname, hpass⟩
      exact ⟨name, hname, (passes_iff h ⟨hsame.trans hname, hname⟩).mp hpass⟩
    · rintro ⟨name, hname, hvouched⟩
      exact ⟨name, hname, (passes_iff h ⟨hsame.trans hname, hname⟩).mpr hvouched⟩
  · exact h.name hsame

lemma Right.undisturbed (h : Right convertPemCertToDer history gCred crt chain) :
    Undisturbed convertPemCertToDer history gCred crt chain := by
  have husable : (∀ callback ∈ history, Usable callback.gCred) ∧ Usable gCred := by
    by_contra hno
    obtain ⟨ret, hret⟩ := h.answered
    rw [answer_none hno] at hret
    exact absurd hret.symm (Option.some_ne_none ret)
  obtain ⟨ret, hanswer, -, hzero⟩ :=
    answer_eq convertPemCertToDer crt chain husable.1 husable.2
  have hiff := h.accepted
  rw [hanswer, some_inj, hzero] at hiff
  have haccepted : ∀ name, IsCn crt chain name →
      (Passes convertPemCertToDer history gCred crt chain name
        ↔ VouchedFor convertPemCertToDer gCred crt chain name) := by
    rintro name ⟨hpicked, hname⟩
    constructor
    · intro hpass
      obtain ⟨other, hother, hvouched⟩ := hiff.mp ⟨name, hpicked, hpass⟩
      rw [hname] at hother
      rwa [some.inj hother]
    · intro hvouched
      obtain ⟨other, hother, hpass⟩ := hiff.mpr ⟨name, hname, hvouched⟩
      rw [hpicked] at hother
      rwa [some.inj hother]
  refine ⟨husable.1, husable.2, fun _ => hiff, ?_, ?_, ?_⟩
  · intro name text hname hclaimed hnone
    have hno : ¬ Passes convertPemCertToDer history gCred crt chain name := by
      intro hpass
      obtain ⟨uuid, hclaims, -⟩ := (haccepted name hname).mp hpass
      exact hnone uuid hclaims
    constructor
    · exact fun hwild => hno ⟨text, hclaimed, _, .inl hwild, .inr rfl⟩
    · exact fun hwild => hno ⟨text, hclaimed, _, .inr hwild, .inr rfl⟩
  · rintro name text claimed hname hclaimed - ⟨uuid, hleft, hmatch⟩
    obtain ⟨other, hother, subject, hvouching, hsubject⟩ :=
      (haccepted name hname).mp ⟨text, hclaimed, uuid, .inl hleft, hmatch⟩
    refine ⟨other, hother, ?_⟩
    rcases hsubject with rfl | rfl
    · exact .inl hvouching
    · exact .inr hvouching
  · intro name uuid hname hclaims hvouching
    obtain ⟨text, hclaimed, other, hmet, hmatch⟩ :=
      (haccepted name hname).mpr ⟨uuid, hclaims, uuid, hvouching, .inl rfl⟩
    refine .inr ⟨other, hmet, ?_⟩
    rcases hmatch with rfl | hwild
    · exact .inl hclaimed
    · exact .inr hwild

end Answer

/-- **An identity does not depend on the handshakes before** where nothing disturbs, and there
only is the answer right. -/
theorem identity_iff (convertPemCertToDer : List UInt8 → Option (List UInt8))
    (history other : List Callback) (gCred : List OicSecCred) (crt : X509Crt)
    (chain : List X509Crt) :
    (Right convertPemCertToDer history gCred crt chain
        ↔ Undisturbed convertPemCertToDer history gCred crt chain)
      ∧ (Undisturbed convertPemCertToDer history gCred crt chain →
        Undisturbed convertPemCertToDer other gCred crt chain →
        answer convertPemCertToDer history gCred crt chain
          = answer convertPemCertToDer other gCred crt chain) := by
  refine ⟨⟨Right.undisturbed, Undisturbed.right⟩, fun h hother => ?_⟩
  obtain ⟨ret, hanswer, hret, -⟩ :=
    answer_eq convertPemCertToDer crt chain h.usableBefore h.usable
  obtain ⟨ret', hanswer', hret', -⟩ :=
    answer_eq convertPemCertToDer crt chain hother.usableBefore hother.usable
  have hsame : ret = 0 ↔ ret' = 0 := by
    have hright := h.right.accepted
    have hright' := hother.right.accepted
    rw [hanswer, some_inj] at hright
    rw [hanswer', some_inj] at hright'
    exact hright.trans hright'.symm
  have heq : ret = ret' := by omega
  rw [hanswer, hanswer', heq]

def aliceUuid : OicUuid := ⟨Vector.replicate 16 0xA1⟩

def aliceAnchor : OicSecCred :=
  { credId := 1
    subject := aliceUuid
    roleId := ⟨"", ""⟩
    credType := signedAsymmetricKey
    publicData := { data := some [1], encoding := .der }
    credUsage := some trustCa
    optionalData := .zero
    privateData := .zero
    period := none
    eownerID := none }

def aliceRoot : X509Crt := { raw := [1], subject := [] }

def aliceLeaf : X509Crt :=
  { raw := [2], subject := [{ oid := mbedtlsOidAtCn, val := uuidPrefix ++ uuidText aliceUuid }] }

theorem givenUpChain_vouches :
    ¬ Acceptable some [aliceAnchor] aliceLeaf []
      ∧ answer some [] [aliceAnchor] aliceLeaf [] = some (-1)
      ∧ answer some [⟨[aliceAnchor], aliceRoot, 1⟩] [aliceAnchor] aliceLeaf [] = some 0 := by
  have hnone : vouching some [aliceAnchor] aliceLeaf [] = [] := by decide
  refine ⟨?_, by decide, by decide⟩
  rintro ⟨name, -, uuid, -, subject, hsubject, -⟩
  rw [hnone] at hsubject
  simp at hsubject

end Iochibity.Sec.CertIdentity
