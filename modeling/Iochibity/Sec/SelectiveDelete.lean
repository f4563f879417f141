/-
DELETE requests to the `acl2` and `cred` resources.
-/
import Iochibity.Sec.AclStore
import Iochibity.Sec.CredPost
import Iochibity.Sec.RestQuery
import Mathlib.Data.Fintype.BigOperators
import Mathlib.Tactic.NormNum

namespace Iochibity.Sec

/-! ## The parsers -/

/-- `GetAceIdsFromQueryString` and `GetCredIdsFromQueryString`: the ids are prepended. The
allocations succeed, so something was found exactly when there are ids. -/
def getIdsFromQueryString (name : String) : List OicParseQueryIter → List UInt16 → List UInt16
  | [], ids => ids
  | pair :: rest, ids =>
    if strncasecmpZero pair.attrPos (cString name) pair.attrLen then
      -- an empty value ends the search; what was found so far is kept
      if pair.valLen = 0 then ids
      else
        let tokens := commaTokens (pair.valPos.take pair.valLen.toNat)
        getIdsFromQueryString name rest (tokens.foldl (fun ids token => atoi16 token :: ids) ids)
    else getIdsFromQueryString name rest ids

section

variable (query : RestQuery)

def getAceIdsFromQueryString : List UInt16 :=
  getIdsFromQueryString "aceid" (queryPairs query.segments) []

def getCredIdsFromQueryString : List UInt16 :=
  getIdsFromQueryString "credid" (queryPairs query.segments) []

/-- `GetSubjectFromQueryString`. The one of `aclresource.c` copies the value into a
buffer and looks first whether it fits. -/
def subjectFromPairs (strUuidSize : Option Nat) : List OicParseQueryIter → Option OicUuid
  | [] => none
  | pair :: rest =>
    if strncasecmpZero pair.attrPos (cString "subjectuuid") pair.attrLen then
      if pair.valLen = 0 then none
      else if strUuidSize.any (· < pair.valLen.toNat) then none
      else convertBytesToUuid (pair.valPos.take pair.valLen.toNat)
    else subjectFromPairs strUuidSize rest

def stringUuidSize : Nat := 37

def getAceSubjectFromQueryString : Option OicUuid :=
  subjectFromPairs (some stringUuidSize) (queryPairs query.segments)

def getCredSubjectFromQueryString : Option OicUuid :=
  subjectFromPairs none (queryPairs query.segments)

/-- `sizeof(resource)`, which is `MAX_URI_LENGTH`. -/
def resourceSize : Nat := 256

/-- `GetResourceFromQueryString`; the string stays empty when there is no resource.
`OICStrcpy` goes on to the end of the query. -/
def resourceFromPairs : List OicParseQueryIter → String
  | [] => ""
  | pair :: rest =>
    if strncasecmpZero pair.attrPos (cString "resources") pair.attrLen then
      if pair.valLen = 0 then "" else stringOfBytes (pair.valPos.take (resourceSize - 1))
    else resourceFromPairs rest

def getResourceFromQueryString : String :=
  resourceFromPairs (queryPairs query.segments)

/-! ## The handlers -/

inductive Selection
  | ids (ids : List UInt16)
  | subject (subject : OicUuid)
  | all
  deriving DecidableEq

def selection (ids : List UInt16) (subject : Option OicUuid) : Selection :=
  if ids ≠ [] then .ids ids
  else
    match subject with
    | some subject => .subject subject
    | none => .all

def aclSelection : Selection :=
  selection (getAceIdsFromQueryString query) (getAceSubjectFromQueryString query)

def credSelection : Selection :=
  selection (getCredIdsFromQueryString query) (getCredSubjectFromQueryString query)

def oicRsrcTypeSecAce2 : String := "oic.r.ace2"

/-- `HandleACLDeleteRequest`. A call that takes nothing away is answered with
`OC_EH_OK`. -/
def handleACLDeleteRequest (write revertWrite : PsWrite) (dos : Option OicSecDostype)
    (query : Option RestQuery) (store : AclStore) : AclCall AclResponse :=
  match query, dos with
  | none, _ => ⟨some .error, store⟩
  | some _, none => ⟨some .error, store⟩
  | some query, some dos =>
    if dos.state = .reset ∨ dos.state = .rfnop then ⟨some .notAcceptable, store⟩
    else
      let call := match aclSelection query with
        | .ids ids => removeAceByAceIds write ids store
        | .subject subject =>
          removeAce write subject (some (getResourceFromQueryString query)) store
        | .all => removeAllAce write revertWrite (some oicRsrcTypeSecAce2) store
      ⟨call.result.map (fun code => if code = .resourceDeleted then .resourceDeleted else .ok),
        call.store⟩

def removeAllCredentials (write : Bool) (heap : CredHeap) : CredHeap × CredResult :=
  ({ gCred := [], freed := addrs heap.gCred ++ heap.freed }, if write then .ok else .error)

inductive CredDeleteAnswer
  | error
  | notAcceptable
  | resourceDeleted
  deriving DecidableEq

def handleCredDelete (write : Bool) (dos : Option OicSecDostype) (query : Option RestQuery)
    (heap : CredHeap) : CredHeap × CredDeleteAnswer :=
  match query, dos with
  | none, _ => (heap, .error)
  | some _, none => (heap, .error)
  | some query, some dos =>
    if dos.state = .reset ∨ dos.state = .rfnop then (heap, .notAcceptable)
    else
      match credSelection query with
      | .ids ids =>
        let (heap, res) := removeCredentialByCredIds write ids heap
        (heap, if res = .resourceDeleted then .resourceDeleted else .error)
      | .subject subject =>
        let (heap, res) := removeCredential write subject heap
        (heap, if res = .resourceDeleted then .resourceDeleted else .error)
      | .all =>
        let (heap, res) := removeAllCredentials write heap
        (heap, if res = .ok then .resourceDeleted else .error)

def RestQuery.named (name : String) : List QuerySegment :=
  query.segments.filter (fun segment => segment.hasDelimeter && segment.attr = cString name)

def RestQuery.Selective : Prop :=
  query.named "aceid" ++ query.named "credid" ++ query.named "subjectuuid" ≠ []

def RestQuery.listedNumbers : List Nat :=
  (query.named "aceid" ++ query.named "credid").flatMap (fun segment =>
    ((commaTokens segment.value).filter (·.all isDigit)).map digitsValue)

def RestQuery.listed (id : UInt16) : Bool :=
  query.listedNumbers.contains id.toNat

def RestQuery.given (uuid : OicUuid) : Bool :=
  (query.named "subjectuuid").any (fun segment =>
    segment.value.map tolower = cString (convertUuidToStr uuid))

abbrev EntryKey := UInt16 × AceSubject

def RestQuery.allows (key : EntryKey) : Bool :=
  query.listed key.1 || match key.2 with
    | .uuid uuid => query.given uuid
    | _ => false

def aclKeys (store : AclStore) : List EntryKey :=
  ((store.gAcl.map AclContents.aces).getD []).map (fun ace => (ace.aceid, ace.subject))

def credKeys (heap : CredHeap) : List EntryKey :=
  heap.gCred.map (fun node => (node.cred.credId, .uuid node.cred.subject))

def KeepsTheRest (before after : List EntryKey) : Prop :=
  (before.filter (!query.allows ·)).Sublist after

/-- A selective DELETE of access control entries does not widen: it is no DELETE of the whole list,
and whatever list, state and storage, it removes only what the query allows. -/
def AclDeleteNarrow : Prop :=
  query.Selective → aclSelection query ≠ .all
    ∧ ∀ write revertWrite dos store, KeepsTheRest query (aclKeys store)
        (aclKeys (handleACLDeleteRequest write revertWrite dos (some query) store).store)

def CredDeleteNarrow : Prop :=
  query.Selective → credSelection query ≠ .all
    ∧ ∀ write dos heap, KeepsTheRest query (credKeys heap)
        (credKeys (handleCredDelete write dos (some query) heap).1)

/-! ## What the parsers read -/

def RestQuery.taken (name : String) : List QuerySegment :=
  query.segments.filter (·.takenFor (cString name))

def RestQuery.idTokens (name : String) : List (List UInt8) :=
  ((query.taken name).takeWhile (·.value ≠ [])).flatMap (commaTokens ·.value)

def RestQuery.readSubject : Option OicUuid :=
  (query.taken "subjectuuid").head?.bind (fun segment =>
    if segment.value.length = 36 then some (convertStringToUuid segment.value) else none)

lemma isName_aceid : IsName (cString "aceid") := by
  have hbytes : cString "aceid" = [97, 99, 101, 105, 100] := by decide
  rw [hbytes]
  simp [IsName, tolower, restQuerySeparator]

lemma isName_credid : IsName (cString "credid") := by
  have hbytes : cString "credid" = [99, 114, 101, 100, 105, 100] := by decide
  rw [hbytes]
  simp [IsName, tolower, restQuerySeparator]

lemma isName_subjectuuid : IsName (cString "subjectuuid") := by
  have hbytes : cString "subjectuuid" = [115, 117, 98, 106, 101, 99, 116, 117, 117, 105, 100] := by
    decide
  rw [hbytes]
  simp [IsName, tolower, restQuerySeparator]

lemma queryPairs_eq (segments : List QuerySegment)
    (hnested : segments.Pairwise (fun a b => b.text <:+ a.text)) :
    queryPairs segments = segments.filterMap getNextQuery := by
  induction segments with
  | nil => rfl
  | cons segment rest ih =>
    rw [List.pairwise_cons] at hnested
    rcases hnext : getNextQuery segment with _ | pair
    · have hnone : ∀ b ∈ rest, getNextQuery b = none :=
        fun b hb => getNextQuery_suffix hnext (hnested.1 b hb)
      rw [List.filterMap_cons_none hnext, List.filterMap_eq_nil_iff.mpr hnone]
      simp [queryPairs, hnext]
    rw [List.filterMap_cons_some hnext, ← ih hnested.2]
    simp [queryPairs, hnext]

lemma RestQuery.pairs_eq : queryPairs query.segments = query.segments.filterMap getNextQuery :=
  queryPairs_eq _ (query.nested.imp (·.1))

lemma foldl_prepend (tokens : List (List UInt8)) (ids : List UInt16) :
    tokens.foldl (fun ids token => atoi16 token :: ids) ids
      = (tokens.map atoi16).reverse ++ ids := by
  induction tokens generalizing ids with
  | nil => rfl
  | cons token tokens ih =>
    rw [List.foldl_cons, ih, List.map_cons, List.reverse_cons, List.append_assoc]
    rfl

lemma valLen_eq_zero {pair : OicParseQueryIter} {segment : QuerySegment}
    (h : pair.valLen.toNat = segment.value.length) : pair.valLen = 0 ↔ segment.value = [] := by
  rw [← List.length_eq_zero_iff, ← h, ← UInt64.toNat_inj]
  rfl

lemma getIds_eq {name : String} (hname : IsName (cString name)) (segments : List QuerySegment)
    (hsized : ∀ segment ∈ segments, segment.text.length < 2 ^ 64) (ids : List UInt16) :
    getIdsFromQueryString name (segments.filterMap getNextQuery) ids
      = ((((segments.filter (·.takenFor (cString name))).takeWhile (·.value ≠ [])).flatMap
            (commaTokens ·.value)).map atoi16).reverse ++ ids := by
  induction segments generalizing ids with
  | nil => rfl
  | cons segment rest ih =>
    rw [List.forall_mem_cons] at hsized
    rcases hnext : getNextQuery segment with _ | pair
    · rw [List.filterMap_cons_none hnext, List.filter_cons_of_neg
        (by rw [takenFor_of_none hnext]; exact Bool.false_ne_true)]
      exact ih hsized.2 ids
    obtain ⟨hcmp, hvalue⟩ := getNextQuery_some hsized.1 hnext hname
    rw [List.filterMap_cons_some hnext, getIdsFromQueryString, hcmp]
    by_cases htaken : segment.takenFor (cString name) = true
    · obtain ⟨hlen, hval⟩ := hvalue htaken
      rw [if_pos htaken, List.filter_cons_of_pos (by exact htaken)]
      by_cases hempty : segment.value = []
      · rw [if_pos ((valLen_eq_zero hlen).mpr hempty),
          List.takeWhile_cons_of_neg (by simp [hempty])]
        rfl
      rw [if_neg (fun h => hempty ((valLen_eq_zero hlen).mp h)),
        List.takeWhile_cons_of_pos (by simp [hempty]), List.flatMap_cons, List.map_append,
        List.reverse_append, List.append_assoc, hval]
      have hids := ih hsized.2
        ((commaTokens segment.value).foldl (fun ids token => atoi16 token :: ids) ids)
      rw [hids, foldl_prepend]
    rw [if_neg htaken, List.filter_cons_of_neg htaken]
    exact ih hsized.2 ids

lemma getAceIds_eq :
    getAceIdsFromQueryString query = ((query.idTokens "aceid").map atoi16).reverse := by
  rw [getAceIdsFromQueryString, query.pairs_eq, getIds_eq isName_aceid _ query.sized,
    List.append_nil]
  rfl

lemma getCredIds_eq :
    getCredIdsFromQueryString query = ((query.idTokens "credid").map atoi16).reverse := by
  rw [getCredIdsFromQueryString, query.pairs_eq, getIds_eq isName_credid _ query.sized,
    List.append_nil]
  rfl

lemma subjectFromPairs_eq {strUuidSize : Option Nat}
    (hsize : ∀ size ∈ strUuidSize, 36 ≤ size) (segments : List QuerySegment)
    (hsized : ∀ segment ∈ segments, segment.text.length < 2 ^ 64) :
    subjectFromPairs strUuidSize (segments.filterMap getNextQuery)
      = (segments.filter (·.takenFor (cString "subjectuuid"))).head?.bind
          (fun segment => if segment.value.length = 36 then
            some (convertStringToUuid segment.value) else none) := by
  induction segments with
  | nil => rfl
  | cons segment rest ih =>
    rw [List.forall_mem_cons] at hsized
    rcases hnext : getNextQuery segment with _ | pair
    · rw [List.filterMap_cons_none hnext, List.filter_cons_of_neg
        (by rw [takenFor_of_none hnext]; exact Bool.false_ne_true)]
      exact ih hsized.2
    obtain ⟨hcmp, hvalue⟩ := getNextQuery_some hsized.1 hnext isName_subjectuuid
    rw [List.filterMap_cons_some hnext, subjectFromPairs, hcmp]
    by_cases htaken : segment.takenFor (cString "subjectuuid") = true
    · obtain ⟨hlen, hval⟩ := hvalue htaken
      rw [if_pos htaken, List.filter_cons_of_pos (by exact htaken), List.head?_cons,
        Option.bind_some]
      by_cases hempty : segment.value = []
      · rw [if_pos ((valLen_eq_zero hlen).mpr hempty), hempty]
        rfl
      rw [if_neg (fun h => hempty ((valLen_eq_zero hlen).mp h)), hval, hlen,
        convertBytesToUuid, if_neg (fun h => hempty (List.length_eq_zero_iff.mp h))]
      by_cases hlength : segment.value.length = 36
      · have hroom : strUuidSize.any (· < segment.value.length) = false := by
          rcases strUuidSize with _ | size
          · rfl
          have := hsize size rfl
          simp only [Option.any_some, decide_eq_false_iff_not]
          omega
        rw [hroom, if_pos hlength]
        rfl
      · simp [hlength]
    rw [if_neg htaken, List.filter_cons_of_neg htaken]
    exact ih hsized.2

lemma getAceSubject_eq : getAceSubjectFromQueryString query = query.readSubject := by
  rw [getAceSubjectFromQueryString, query.pairs_eq, subjectFromPairs_eq _ _ query.sized]
  · rfl
  · rintro size ⟨⟩
    decide

lemma getCredSubject_eq : getCredSubjectFromQueryString query = query.readSubject := by
  rw [getCredSubjectFromQueryString, query.pairs_eq, subjectFromPairs_eq _ _ query.sized]
  · rfl
  · rintro size ⟨⟩

end

lemma selection_cases (tokens : List (List UInt8)) (subject : Option OicUuid) :
    (tokens ≠ [] ∧ selection (tokens.map atoi16).reverse subject = .ids (tokens.map atoi16).reverse)
    ∨ (tokens = [] ∧ ∃ uuid, subject = some uuid
        ∧ selection (tokens.map atoi16).reverse subject = .subject uuid)
    ∨ (tokens = [] ∧ subject = none ∧ selection (tokens.map atoi16).reverse subject = .all) := by
  by_cases htokens : tokens = []
  · right
    subst htokens
    rcases subject with _ | uuid
    · exact .inr ⟨rfl, rfl, rfl⟩
    · exact .inl ⟨rfl, uuid, rfl, rfl⟩
  left
  refine ⟨htokens, ?_⟩
  unfold selection
  rw [if_pos]
  simpa using htokens

/-- When a handler keeps to the query: it selects nothing, or every id that is read is
listed, or no id is read and the subject that is read is right. -/
def Narrow (name : String) (rightSubject : OicUuid → Prop) (query : RestQuery) : Prop :=
  ¬ query.Selective
  ∨ (query.idTokens name ≠ [] ∧ ∀ token ∈ query.idTokens name, query.listed (atoi16 token) = true)
  ∨ (query.idTokens name = [] ∧ ∃ uuid, query.readSubject = some uuid
    ∧ ((∀ id, query.listed id = true) ∨ rightSubject uuid))

lemma narrow_iff {name : String} {rightSubject : OicUuid → Prop} {query : RestQuery}
    {sel : Selection} {Kept : Prop}
    (hsel : sel = selection ((query.idTokens name).map atoi16).reverse query.readSubject)
    (hids : ∀ ids, sel = .ids ids → (Kept ↔ ∀ id ∈ ids, query.listed id = true))
    (hsubject : ∀ uuid, sel = .subject uuid →
      (Kept ↔ (∀ id, query.listed id = true) ∨ rightSubject uuid)) :
    (query.Selective → sel ≠ .all ∧ Kept) ↔ Narrow name rightSubject query := by
  rw [Narrow]
  by_cases hselective : query.Selective
  · simp only [hselective, forall_true_left, not_true_eq_false, false_or]
    rcases selection_cases (query.idTokens name) query.readSubject with
      ⟨htokens, heq⟩ | ⟨htokens, uuid, hread, heq⟩ | ⟨htokens, hread, heq⟩
    · rw [heq] at hsel
      rw [hids _ hsel, hsel]
      simp [htokens]
    · rw [heq] at hsel
      rw [hsubject _ hsel, hsel]
      simp [htokens, hread]
    · rw [heq] at hsel
      simp [hsel, htokens, hread]
  · simp [hselective]

section Keeping

variable {query : RestQuery}

lemma keepsTheRest_refl (keys : List EntryKey) : KeepsTheRest query keys keys :=
  List.filter_sublist

lemma keepsTheRest_map {α : Type} (key : α → EntryKey) {before after : List α}
    (h : before.filter (fun a => !query.allows (key a))
      = after.filter (fun a => !query.allows (key a))) :
    KeepsTheRest query (before.map key) (after.map key) := by
  rw [KeepsTheRest, List.filter_map]
  have hcomp : ((!query.allows ·) ∘ key) = fun a => !query.allows (key a) := rfl
  rw [hcomp, h]
  exact List.filter_sublist.map key

lemma not_keepsTheRest {key : EntryKey} (h : query.allows key = false) :
    ¬ KeepsTheRest query [key] [] := by
  rw [KeepsTheRest, List.sublist_nil, List.filter_cons_of_pos (by rw [h]; rfl)]
  simp

lemma allows_of_listed {id : UInt16} (h : query.listed id = true) (subject : AceSubject) :
    query.allows (id, subject) = true := by
  rw [RestQuery.allows, h, Bool.true_or]

lemma filter_eraseP {α : Type} {p q : α → Bool} (h : ∀ a, p a = true → q a = false)
    (l : List α) : (l.eraseP p).filter q = l.filter q := by
  induction l with
  | nil => rfl
  | cons a l ih =>
    rw [List.eraseP_cons]
    by_cases hp : p a = true
    · rw [hp, cond_true, List.filter_cons_of_neg (by rw [h a hp]; exact Bool.false_ne_true)]
    rw [Bool.not_eq_true] at hp
    rw [hp, cond_false, List.filter_cons, List.filter_cons, ih]

end Keeping

/-! ## Access control entries -/

section Acl

variable {query : RestQuery}

def aceKey (ace : OicSecAce) : EntryKey := (ace.aceid, ace.subject)

variable {store : AclStore}

lemma aclKeys_eq {acl : AclContents} (h : store.gAcl = some acl) :
    aclKeys store = acl.aces.map aceKey := by
  rw [aclKeys, h]
  rfl

variable {ids : List UInt16}

lemma filter_removeIdsEdit (hids : ∀ id ∈ ids, query.listed id = true) (aces : List OicSecAce) :
    (removeIdsEdit ids aces).1.filter (fun ace => !query.allows (aceKey ace))
      = aces.filter (fun ace => !query.allows (aceKey ace)) := by
  have hgen : ∀ (ids : List UInt16) (edit : List OicSecAce × Bool),
      (∀ id ∈ ids, query.listed id = true) →
      (ids.foldl (fun edit id => (edit.1.eraseP (·.aceid = id),
          edit.2 || edit.1.any (·.aceid = id))) edit).1.filter
            (fun ace => !query.allows (aceKey ace))
        = edit.1.filter (fun ace => !query.allows (aceKey ace)) := by
    intro ids
    induction ids with
    | nil => intro edit _; rfl
    | cons id ids ih =>
      intro edit hids
      rw [List.forall_mem_cons] at hids
      rw [List.foldl_cons, ih _ hids.2]
      apply filter_eraseP
      intro ace hace
      rw [decide_eq_true_eq] at hace
      rw [aceKey, hace, allows_of_listed hids.1]
      rfl
  exact hgen ids (aces, false) hids

lemma removeIdsEdit_singleton {ace : OicSecAce} (h : ace.aceid ∈ ids) :
    (removeIdsEdit ids [ace]).1 = [] := by
  have hids := ids_removeIdsEdit ids [ace]
  have hcount := List.count_diff ace.aceid [ace.aceid] ids
  have hpos := List.count_pos_iff.mpr h
  have hsub : ([ace.aceid].diff ids).Sublist [ace.aceid] := List.diff_sublist _ _
  rw [List.map_singleton] at hids
  rcases List.sublist_singleton.mp hsub with hnil | hone
  · rw [hnil, List.map_eq_nil_iff] at hids
    exact hids
  rw [hone, List.count_singleton_self] at hcount
  omega

lemma filter_removeRsrc {q : OicSecAce → Bool} {subject : OicUuid} (resource : String)
    (hq : ∀ ace, ace.subject.uuidBytes = subject → q ace = false) (flag : Bool)
    (aces : List OicSecAce) :
    (removeRsrc subject resource flag aces).1.filter q = aces.filter q := by
  induction aces generalizing flag with
  | nil => rfl
  | cons ace rest ih =>
    rw [removeRsrc]
    by_cases hsubject : ace.subject.uuidBytes = subject
    · have hskip := List.filter_cons_of_neg (l := rest)
        (by rw [hq ace hsubject]; exact Bool.false_ne_true : ¬ q ace = true)
      simp only [if_pos hsubject]
      split
      · rw [ih, hskip]
      have hskipped : ∀ rsrcs, q { ace with resources := rsrcs } = false :=
        fun rsrcs => hq _ hsubject
      rw [List.filter_cons_of_neg (by rw [hskipped]; exact Bool.false_ne_true), ih, hskip]
    simp only [if_neg hsubject]
    rw [List.filter_cons, List.filter_cons, ih]

lemma filter_removeAceEdit {q : OicSecAce → Bool} {subject : OicUuid}
    (resource : Option String) (hq : ∀ ace, ace.subject.uuidBytes = subject → q ace = false)
    (aces : List OicSecAce) :
    (removeAceEdit subject resource aces).1.filter q = aces.filter q := by
  unfold removeAceEdit
  split
  all_goals first
    | exact filter_removeRsrc _ hq false aces
    | skip
  all_goals
    rw [List.filter_filter]
    apply List.filter_congr
    intro ace _
    by_cases hsubject : ace.subject.uuidBytes = subject
    · simp [hq, hsubject]
    · simp [hsubject]

lemma removeAceEdit_singleton (ace : OicSecAce) {resource : String} {rsrc : OicSecRsrc}
    (hrsrcs : ace.resources = [rsrc]) (hhref : rsrc.href = some resource) :
    (removeAceEdit ace.subject.uuidBytes (some resource) [ace]).1 = [] := by
  unfold removeAceEdit
  split
  · rename_i h
    cases h
  · simp
  · rename_i h
    cases h
    simp [removeRsrc, hrsrcs, hhref]

lemma removeAce_gAcl (write : PsWrite) (subject : OicUuid) (resource : Option String)
    {acl : AclContents} (h : store.gAcl = some acl) :
    (removeAce write subject resource store).store.gAcl = some { acl with aces :=
      if subject = wildcardSubjectId
          ∨ (resource.getD "" ≠ "" ∧ comparesNullHref subject acl.aces = true) then acl.aces
      else (removeAceEdit subject resource acl.aces).1 } := by
  have hedited := withAces_gAcl h (removeAceEdit subject resource acl.aces).1
  simp only [removeAce, h]
  by_cases hwild : subject = wildcardSubjectId
  · rw [if_pos hwild, if_pos (.inl hwild)]
    exact h
  rw [if_neg hwild]
  by_cases hnull : resource.getD "" ≠ "" ∧ comparesNullHref subject acl.aces = true
  · rw [if_pos hnull, if_pos (.inr hnull)]
    exact h
  rw [if_neg hnull, if_neg (not_or.mpr ⟨hwild, hnull⟩)]
  split
  · split
    · exact hedited
    · rw [reportSave_store, saveAcl_gAcl, hedited]
  · exact hedited

lemma handleACLDelete_open (write revertWrite : PsWrite) {dos : OicSecDostype}
    (hdos : ¬ (dos.state = .reset ∨ dos.state = .rfnop)) (query : RestQuery) (store : AclStore) :
    (handleACLDeleteRequest write revertWrite (some dos) (some query) store).store
      = (match aclSelection query with
        | .ids ids => removeAceByAceIds write ids store
        | .subject subject =>
          removeAce write subject (some (getResourceFromQueryString query)) store
        | .all => removeAllAce write revertWrite (some oicRsrcTypeSecAce2) store).store := by
  simp [handleACLDeleteRequest, if_neg hdos]

lemma handleACLDelete_kept {write revertWrite : PsWrite}
    (h : ∀ dos : OicSecDostype, ¬ (dos.state = .reset ∨ dos.state = .rfnop) →
      KeepsTheRest query (aclKeys store) (aclKeys
        (handleACLDeleteRequest write revertWrite (some dos) (some query) store).store))
    (dos : Option OicSecDostype) :
    KeepsTheRest query (aclKeys store)
      (aclKeys (handleACLDeleteRequest write revertWrite dos (some query) store).store) := by
  rcases dos with _ | dos
  · exact keepsTheRest_refl _
  by_cases hdos : dos.state = .reset ∨ dos.state = .rfnop
  · simp only [handleACLDeleteRequest, if_pos hdos]
    exact keepsTheRest_refl _
  · exact h dos hdos

def oneAce (ace : OicSecAce) : AclStore :=
  { gAcl := some { rownerID := OicUuid.nil, aces := [ace] }, gAceFreeId := 1, stored := none }

lemma oneAce_gAcl (ace : OicSecAce) :
    (oneAce ace).gAcl = some { rownerID := OicUuid.nil, aces := [ace] } := rfl

def rfpro : OicSecDostype := ⟨.rfpro, false⟩

lemma aclDelete_ids (hsel : aclSelection query = .ids ids) :
    (∀ write revertWrite dos store, KeepsTheRest query (aclKeys store)
        (aclKeys (handleACLDeleteRequest write revertWrite dos (some query) store).store))
      ↔ ∀ id ∈ ids, query.listed id = true := by
  constructor
  · intro hkept id hid
    by_contra hnot
    let ace : OicSecAce := ⟨.conntype .anonClear, [], 0, [], id⟩
    have h := hkept .ok .ok (some rfpro) (oneAce ace)
    rw [handleACLDelete_open .ok .ok (by decide) query, hsel] at h
    have hafter := removeAceByAceIds_gAcl .ok ids (oneAce_gAcl ace)
    rw [removeIdsEdit_singleton hid] at hafter
    rw [aclKeys_eq hafter] at h
    refine not_keepsTheRest ?_ h
    rw [RestQuery.allows, Bool.or_false]
    exact Bool.not_eq_true _ ▸ hnot
  · intro hlisted write revertWrite dos store
    apply handleACLDelete_kept
    intro dos hdos
    rw [handleACLDelete_open write revertWrite hdos query, hsel]
    rcases hg : store.gAcl with _ | acl
    · simp only [removeAceByAceIds, hg]
      exact keepsTheRest_refl _
    rw [aclKeys_eq hg, aclKeys_eq (removeAceByAceIds_gAcl write ids hg)]
    exact keepsTheRest_map aceKey (filter_removeIdsEdit hlisted acl.aces).symm

/-- The subject that is read is right for `RemoveACE`: it is the wildcard, which is refused, or no
other subject has its sixteen bytes. -/
def RestQuery.AceSubjectRight (query : RestQuery) (uuid : OicUuid) : Prop :=
  uuid = wildcardSubjectId
    ∨ (query.given uuid = true
      ∧ ∀ subject : AceSubject, subject.uuidBytes = uuid → subject = .uuid uuid)

lemma aclDelete_subject {uuid : OicUuid} (hsel : aclSelection query = .subject uuid) :
    (∀ write revertWrite dos store, KeepsTheRest query (aclKeys store)
        (aclKeys (handleACLDeleteRequest write revertWrite dos (some query) store).store))
      ↔ (∀ id, query.listed id = true) ∨ query.AceSubjectRight uuid := by
  constructor
  · intro hkept
    by_contra hnot
    rw [not_or, RestQuery.AceSubjectRight, not_or, not_forall] at hnot
    obtain ⟨⟨id, hid⟩, hwild, hright⟩ := hnot
    -- an entry that `RemoveACE` takes for the subject must be allowed
    have hallowed : ∀ subject : AceSubject, subject.uuidBytes = uuid →
        query.allows (id, subject) = true := by
      intro subject hbytes
      by_contra hnot
      let resource := getResourceFromQueryString query
      let ace : OicSecAce :=
        ⟨subject, [⟨some resource, none, [], [], .noWildcard⟩], 0, [], id⟩
      have h := hkept .ok .ok (some rfpro) (oneAce ace)
      rw [handleACLDelete_open .ok .ok (by decide) query, hsel] at h
      have hafter := removeAce_gAcl .ok uuid (some resource) (oneAce_gAcl ace)
      have hnull : ¬ comparesNullHref uuid [ace] = true := by
        simp [comparesNullHref, ace]
      have hedit : (removeAceEdit uuid (some resource) [ace]).1 = [] := by
        rw [← hbytes]
        exact removeAceEdit_singleton ace rfl rfl
      rw [if_neg (not_or.mpr ⟨hwild, fun hor => hnull hor.2⟩), hedit] at hafter
      rw [aclKeys_eq hafter] at h
      exact not_keepsTheRest (by exact Bool.not_eq_true _ ▸ hnot) h
    apply hright
    have hlisted : query.listed id = false := Bool.not_eq_true _ ▸ hid
    constructor
    · have h := hallowed (.uuid uuid) rfl
      rwa [RestQuery.allows, hlisted, Bool.false_or] at h
    · intro subject hbytes
      have h := hallowed subject hbytes
      rw [RestQuery.allows, hlisted, Bool.false_or] at h
      rcases subject with other | role | conn
      · exact congrArg AceSubject.uuid hbytes
      · simp at h
      · simp at h
  · intro hright write revertWrite dos store
    apply handleACLDelete_kept
    intro dos hdos
    rw [handleACLDelete_open write revertWrite hdos query, hsel]
    rcases hg : store.gAcl with _ | acl
    · simp only [removeAce, hg]
      exact keepsTheRest_refl _
    rw [aclKeys_eq hg, aclKeys_eq (removeAce_gAcl write uuid _ hg)]
    apply keepsTheRest_map aceKey
    split
    · rfl
    rename_i hnot
    refine (filter_removeAceEdit _ ?_ acl.aces).symm
    intro ace hbytes
    rw [Bool.not_eq_false', aceKey]
    rcases hright with hlisted | hwild | ⟨hgiven, hunique⟩
    · exact allows_of_listed (hlisted _) _
    · exact absurd (.inl hwild) hnot
    · rw [hunique _ hbytes, RestQuery.allows, Bool.or_eq_true]
      exact .inr hgiven

end Acl

/-! ## Credentials -/

section Creds

variable {query : RestQuery}

lemma length_segments (segments : List QuerySegment)
    (hnested : segments.Pairwise (fun a b => b.text.length < a.text.length)) {n : Nat}
    (hsized : ∀ segment ∈ segments, segment.text.length < n) : segments.length ≤ n := by
  induction segments generalizing n with
  | nil => exact Nat.zero_le n
  | cons segment rest ih =>
    rw [List.pairwise_cons] at hnested
    have hlt := hsized segment List.mem_cons_self
    have hrest := ih hnested.2 hnested.1
    rw [List.length_cons]
    omega

lemma cString_convertUuidToStr_injective :
    Function.Injective (fun uuid : OicUuid => cString (convertUuidToStr uuid)) := by
  intro a b hab
  have hstr : ∀ uuid : OicUuid, convertBytesToUuid (cString (convertUuidToStr uuid)) = some uuid :=
    convertStrToUuid_convertUuidToStr
  have h : cString (convertUuidToStr a) = cString (convertUuidToStr b) := hab
  have ha := hstr a
  rw [h, hstr b] at ha
  exact (Option.some.inj ha).symm

def uuidOfBytes (bytes : Fin 16 → Fin 256) : OicUuid :=
  ⟨Vector.ofFn (fun i => UInt8.ofFin (bytes i))⟩

lemma uuidText_injective :
    Function.Injective (fun bytes => cString (convertUuidToStr (uuidOfBytes bytes))) := by
  intro f g h
  have hid := congrArg OicUuid.id (cString_convertUuidToStr_injective h)
  funext i
  have hbyte := congrArg (fun v : Vector UInt8 16 => v[i.val]) hid
  simp only [uuidOfBytes, Vector.getElem_ofFn] at hbyte
  exact congrArg UInt8.toFin hbyte

lemma card_le_length {α β : Type} [Fintype α] {f : α → β} (hf : Function.Injective f)
    (l : List β) (hl : ∀ a, f a ∈ l) : Fintype.card α ≤ l.length := by
  classical
  have hcard : (Finset.univ : Finset α).card ≤ l.toFinset.card :=
    Finset.card_le_card_of_injOn f (fun a _ => List.mem_toFinset.mpr (hl a)) hf.injOn
  exact hcard.trans (List.toFinset_card_le l)

lemma uuids_le_length (texts : List (List UInt8))
    (h : ∀ uuid : OicUuid, cString (convertUuidToStr uuid) ∈ texts) :
    256 ^ 16 ≤ texts.length := by
  have hcard := card_le_length uuidText_injective texts (fun bytes => h (uuidOfBytes bytes))
  have hbytes : Fintype.card (Fin 16 → Fin 256) = 256 ^ 16 := by
    simp
  exact hbytes.symm.le.trans hcard

lemma exists_not_given (query : RestQuery) : ∃ uuid, query.given uuid = false := by
  by_contra hall
  simp only [not_exists, Bool.not_eq_false] at hall
  have hmem : ∀ uuid : OicUuid, cString (convertUuidToStr uuid)
      ∈ (query.named "subjectuuid").map (·.value.map tolower) := by
    intro uuid
    obtain ⟨segment, hsegment, heq⟩ := List.any_eq_true.mp (hall uuid)
    rw [decide_eq_true_eq] at heq
    rw [← heq]
    exact List.mem_map_of_mem hsegment
  have huuids := uuids_le_length _ hmem
  have htexts : (query.named "subjectuuid").length ≤ query.segments.length :=
    List.length_filter_le _ _
  have hsegments := length_segments _ (query.nested.imp (·.2)) query.sized
  rw [List.length_map] at huuids
  have hbound := huuids.trans (htexts.trans hsegments)
  norm_num at hbound

lemma gCred_removeWheres (ids : List UInt16) (heap : CredHeap) :
    (ids.foldl (fun h credId => removeWhere (·.credId == credId) h) heap).gCred
      = heap.gCred.filter (!ids.contains ·.cred.credId) := by
  induction ids generalizing heap with
  | nil => simp
  | cons id ids ih =>
    rw [List.foldl_cons, ih, removeWhere, List.filter_filter]
    apply List.filter_congr
    intro node _
    rw [List.contains_cons, Bool.not_or, Bool.and_comm]

def nodeKey (node : CredNode) : EntryKey := (node.cred.credId, .uuid node.cred.subject)

lemma handleCredDelete_open (write : Bool) {dos : OicSecDostype}
    (hdos : ¬ (dos.state = .reset ∨ dos.state = .rfnop)) (query : RestQuery) (heap : CredHeap) :
    (handleCredDelete write (some dos) (some query) heap).1
      = match credSelection query with
        | .ids ids => (removeCredentialByCredIds write ids heap).1
        | .subject subject => (removeCredential write subject heap).1
        | .all => (removeAllCredentials write heap).1 := by
  simp only [handleCredDelete, if_neg hdos]
  rcases credSelection query with ids | subject | _
  · rfl
  · rfl
  · rfl

def oneCred (credId : UInt16) (subject : OicUuid) : CredNode :=
  ⟨0, ⟨credId, subject, ⟨"", ""⟩, symmetricPairWiseKey, OicSecKey.zero, none, OicSecOpt.zero,
    OicSecKey.zero, none, none⟩⟩

lemma credDelete_kind {p : OicSecCred → Bool}
    (hopen : ∀ write heap (dos : OicSecDostype), ¬ (dos.state = .reset ∨ dos.state = .rfnop) →
      (handleCredDelete write (some dos) (some query) heap).1.gCred
        = heap.gCred.filter (!p ·.cred)) :
    (∀ write dos heap, KeepsTheRest query (credKeys heap)
        (credKeys (handleCredDelete write dos (some query) heap).1))
      ↔ ∀ node : CredNode, p node.cred = true → query.allows (nodeKey node) = true := by
  constructor
  · intro hkept node hp
    by_contra hnot
    have h := hkept true (some rfpro) { gCred := [node], freed := [] }
    have hafter := hopen true { gCred := [node], freed := [] } rfpro (by decide)
    have hnil : [node].filter (!p ·.cred) = [] :=
      List.filter_cons_of_neg (by rw [hp]; exact Bool.false_ne_true)
    rw [credKeys, credKeys, hafter, hnil] at h
    exact not_keepsTheRest (Bool.not_eq_true _ ▸ hnot) h
  · intro hallowed write dos heap
    rcases dos with _ | dos
    · exact keepsTheRest_refl _
    by_cases hdos : dos.state = .reset ∨ dos.state = .rfnop
    · simp only [handleCredDelete, if_pos hdos]
      exact keepsTheRest_refl _
    rw [credKeys, credKeys, hopen write heap dos hdos]
    apply keepsTheRest_map nodeKey
    rw [List.filter_filter]
    apply List.filter_congr
    intro node _
    -- what goes is allowed to go
    by_cases hp : p node.cred = true
    · rw [hallowed node hp]
      rfl
    rw [Bool.not_eq_true] at hp
    simp [hp]

lemma credDelete_ids {ids : List UInt16} (hsel : credSelection query = .ids ids) :
    (∀ write dos heap, KeepsTheRest query (credKeys heap)
        (credKeys (handleCredDelete write dos (some query) heap).1))
      ↔ ∀ id ∈ ids, query.listed id = true := by
  have hkind := @credDelete_kind query (ids.contains ·.credId)
    (fun write heap dos hdos => by
      rw [handleCredDelete_open write hdos, hsel]
      exact gCred_removeWheres ids heap)
  rw [hkind]
  constructor
  · intro hallowed id hid
    obtain ⟨subject, hsubject⟩ := exists_not_given query
    have h := hallowed (oneCred id subject) (List.contains_iff_mem.mpr hid)
    rwa [RestQuery.allows, Bool.or_eq_true, or_iff_left] at h
    exact fun hgiven => absurd (hsubject.symm.trans hgiven) Bool.false_ne_true
  · intro hlisted node hnode
    exact allows_of_listed (hlisted _ (List.contains_iff_mem.mp hnode)) _

lemma credDelete_subject {uuid : OicUuid} (hsel : credSelection query = .subject uuid) :
    (∀ write dos heap, KeepsTheRest query (credKeys heap)
        (credKeys (handleCredDelete write dos (some query) heap).1))
      ↔ (∀ id, query.listed id = true) ∨ query.given uuid = true := by
  have hkind := @credDelete_kind query (·.subject == uuid)
    (fun write heap dos hdos => by
      rw [handleCredDelete_open write hdos, hsel]
      rfl)
  rw [hkind]
  constructor
  · intro hallowed
    by_contra hnot
    rw [not_or, not_forall] at hnot
    obtain ⟨⟨id, hid⟩, hgiven⟩ := hnot
    have h := hallowed (oneCred id uuid) (beq_self_eq_true uuid)
    rw [RestQuery.allows, Bool.or_eq_true] at h
    exact h.elim hid hgiven
  · intro hright node hnode
    rw [beq_iff_eq] at hnode
    rcases hright with hlisted | hgiven
    · exact allows_of_listed (hlisted _) _
    rw [nodeKey, hnode, RestQuery.allows, Bool.or_eq_true]
    exact .inr hgiven

end Creds

/-- **When a selective DELETE does not widen.** -/
theorem delete_never_widens_iff (query : RestQuery) :
    (AclDeleteNarrow query ↔ Narrow "aceid" query.AceSubjectRight query)
      ∧ (CredDeleteNarrow query ↔ Narrow "credid" (fun uuid => query.given uuid = true) query) := by
  constructor
  · apply narrow_iff
    · rw [aclSelection, getAceIds_eq, getAceSubject_eq]
    · exact fun ids hsel => aclDelete_ids hsel
    · exact fun uuid hsel => aclDelete_subject hsel
  · apply narrow_iff
    · rw [credSelection, getCredIds_eq, getCredSubject_eq]
    · exact fun ids hsel => credDelete_ids hsel
    · exact fun uuid hsel => credDelete_subject hsel

/-- `aceid=`. -/
def emptyIdQuery : RestQuery :=
  { segments := [⟨[97, 99, 101, 105, 100, 61], 6, .inl rfl⟩]
    nested := List.pairwise_singleton _ _
    sized := by decide }

def authCryptAce : OicSecAce := ⟨.conntype .authCrypt, [], 2, [], 5⟩

theorem emptyIdQuery_widens : ¬ AclDeleteNarrow emptyIdQuery := by
  intro h
  have hselective : emptyIdQuery.Selective := by
    unfold RestQuery.Selective
    decide
  have hkept := (h hselective).2 .ok .ok (some rfpro) (oneAce authCryptAce)
  unfold KeepsTheRest at hkept
  exact absurd hkept (by decide)

end Iochibity.Sec
