/-
`aclresource.c`, the CBOR form of an access control list.
-/
import Iochibity.Lib.CborItem
import Iochibity.Sec.UuidText

namespace Iochibity.Sec

open CborItem

section

section

/-- `OicSecAcl_t` up to the addresses of its nodes. -/
@[ext] structure AclContents where
  rownerID : OicUuid
  aces : List OicSecAce
  deriving DecidableEq

def OicSecAcl.contents (acl : OicSecAcl) : AclContents :=
  { rownerID := acl.rownerID, aces := acl.aces.map AceNode.ace }

inductive OicSecAclVersion
  | unknown
  | v1
  | v2
  deriving DecidableEq

/-! ## The encoder -/

/-- How the encoder ends without a payload: with `OC_STACK_ERROR`, `OC_STACK_INVALID_PARAM`, a
failed assertion, or not at all. -/
inductive EncodeEnd
  | error
  | invalidParam
  | aborts
  | hangs
  deriving DecidableEq

def closedMap (declared : Nat) (entries : List (String × Item)) : Except EncodeEnd Item :=
  match closeMap declared entries with
  | some item => .ok item
  | none => .error .error

def closedArray (declared : Nat) (items : List Item) : Except EncodeEnd Item :=
  match closeArray declared items with
  | some item => .ok item
  | none => .error .error

def textArray (strings : List String) : Except EncodeEnd Item :=
  closedArray strings.length (strings.map Item.text)

/-- The loop that counts the validities of an entry. `validityElts` stays what
it is. -/
def validityLoop : Nat → List OicSecValidity → UInt8 → Option UInt8
  | _, [], aceMapSize => some aceMapSize
  | 0, _ :: _, _ => none
  | fuel + 1, v :: rest, aceMapSize =>
    validityLoop fuel (v :: rest)
      (aceMapSize + (if v.period.isSome then 1 else 0) + (if v.recurrences ≠ [] then 1 else 0))

/-- The loop that counts the validities, as a whole: with one to count it does
not end (`validityLoop_stuck`). -/
def countValidities (validities : List OicSecValidity) (aceMapSize : UInt8) :
    Except EncodeEnd UInt8 :=
  if validities = [] then .ok aceMapSize else .error .hangs

variable (version : OicSecAclVersion)

def encodeSubject (subject : AceSubject) : Except EncodeEnd Item :=
  match subject with
  | .uuid uuid =>
    if uuid = wildcardSubjectId then
      if version = .v1 then .ok (.text "*") else .error .error
    else if version = .v1 then .ok (.text (convertUuidToStr uuid))
    else closedMap 1 [("uuid", .text (convertUuidToStr uuid))]
  | .role role =>
    if version = .v1 then .error .aborts
    else if role.authority ≠ "" then
      closedMap 2 [("role", .text role.id), ("authority", .text role.authority)]
    else closedMap 1 [("role", .text role.id)]
  | .conntype conntype =>
    if version = .v1 then .error .aborts
    else
      match conntype with
      | .authCrypt => closedMap 1 [("conntype", .text "auth-crypt")]
      | .anonClear => closedMap 1 [("conntype", .text "anon-clear")]

def wcString : OicSecAceResourceWildcard → String
  | .allDiscoverableNcrsWithOcSecure => "+"
  | .allDiscoverableNcrsWithOcNonsecure => "-"
  | .allNcrs => "*"
  | .noWildcard => ""

/-- `rsrcMapSize`. The wildcard is counted in both versions. -/
def rsrcMapSize (rsrc : OicSecRsrc) : Nat :=
  (if rsrc.href.isSome then 1 else 0) + (if rsrc.types.length > 0 then 1 else 0)
    + (if rsrc.interfaces.length > 0 then 1 else 0) + (if rsrc.rel.isSome then 1 else 0)
    + (if rsrc.wildcard ≠ .noWildcard then 1 else 0)

def textEntry (name : String) : Option String → List (String × Item)
  | some s => [(name, .text s)]
  | none => []

def textArrayEntry (name : String) (strings : List String) :
    Except EncodeEnd (List (String × Item)) := do
  if strings.length > 0 then
    let array ← textArray strings
    return [(name, array)]
  else
    return []

def encodeRsrc (rsrc : OicSecRsrc) : Except EncodeEnd Item := do
  let rt ← textArrayEntry "rt" rsrc.types
  let interface ← textArrayEntry "if" rsrc.interfaces
  let wc := if version = .v2 ∧ rsrc.wildcard ≠ .noWildcard
    then [("wc", Item.text (wcString rsrc.wildcard))] else []
  closedMap (rsrcMapSize rsrc)
    (textEntry "href" rsrc.href ++ rt ++ interface ++ textEntry "rel" rsrc.rel ++ wc)

def encodeValidity (validity : OicSecValidity) : Except EncodeEnd Item := do
  let period := (textEntry "" validity.period).map Prod.snd
  let recurrences ← textArrayEntry "" validity.recurrences
  let size := (if validity.period.isSome then 1 else 0)
    + (if validity.recurrences ≠ [] then 1 else 0)
  closedArray size (period ++ recurrences.map Prod.snd)

def validityEntry (validities : List OicSecValidity) :
    Except EncodeEnd (List (String × Item)) := do
  if validities ≠ [] then
    let items ← validities.mapM encodeValidity
    let array ← closedArray validities.length items
    return [("validity", array)]
  else
    return []

variable (ace : OicSecAce)

def encodeAce : Except EncodeEnd Item := do
  if version = .v1 ∧ ace.subject matches .role _ then throw .error
  let aceMapSize ← countValidities ace.validities (if version = .v1 then 3 else 4)
  let aceid := if version = .v2 then [("aceid", Item.uint ace.aceid.toUInt64)] else []
  let subject ← encodeSubject version ace.subject
  let items ← ace.resources.mapM (encodeRsrc version)
  let resources ← closedArray ace.resources.length items
  let validity ← validityEntry ace.validities
  closedMap aceMapSize.toNat
    (aceid ++ [(if version = .v1 then "subjectuuid" else "subject", subject),
      ("resources", resources), ("permission", .uint ace.permission.toUInt64)] ++ validity)

/-- `AclToCBORPayload`: all properties, and the map is counted as such. -/
def aclToCBORPayload (acl : AclContents) : Except EncodeEnd Item := do
  if version = .unknown then throw .invalidParam
  let items ← acl.aces.mapM (encodeAce version)
  let aces ← closedArray acl.aces.length items
  let aclist ← if version = .v1 then closedMap 1 [("aces", aces)] else pure aces
  let rt ← textArray [if version = .v1 then "oic.r.acl" else "oic.r.acl2"]
  let interface ← textArray ["oic.if.baseline"]
  closedMap 4
    [(if version = .v1 then "aclist" else "aclist2", aclist),
      ("rowneruuid", .text (convertUuidToStr acl.rownerID)), ("rt", rt), ("if", interface)]

/-! ## The decoder -/

/-- The ways out of the decoder: `failed` throws the list away, `stopped` goes to the exit without a
CBOR error, so that what is there is returned, `aborts` is a failed assertion of tinycbor about a
type, `hangs` a loop that does not move on. -/
inductive DecodeEnd
  | failed
  | stopped
  | aborts
  | hangs
  deriving DecidableEq

def roleLength : Nat := 64

def AceSubject.idString : AceSubject → String
  | .uuid u => String.ofList ((u.id.toList.takeWhile (· ≠ 0)).map (Char.ofNat ·.toNat))
  | .role r => r.id
  | .conntype .authCrypt => ""
  | .conntype .anonClear => String.singleton (Char.ofNat 1)

def AceSubject.authorityString : AceSubject → String
  | .role r => r.authority
  | _ => ""

def decodeSubjectKey (subject : AceSubject) (tag : String) (value : Option Item) :
    AceSubject × Option DecodeEnd :=
  if tag = "uuid" then
    match value with
    | some (.text s) =>
      match convertStrToUuid s with
      | some uuid => (.uuid uuid, none)
      | none => (subject, some .failed)
    -- the one key here whose value may have another type
    | _ => (subject, none)
  else if tag = "role" then
    match value with
    | some (.text s) =>
      if strlen s ≥ roleLength then (subject, some .failed)
      -- the authority stays what the union holds at its place
      else (.role ⟨s, subject.authorityString⟩, none)
    | _ => (subject, some .aborts)
  else if tag = "authority" then
    match value with
    | some (.text s) =>
      if strlen s ≥ roleLength then (subject, some .failed)
      else (.role ⟨subject.idString, s⟩, none)
    | _ => (subject, some .aborts)
  else if tag = "conntype" then
    match value with
    | some (.text s) =>
      if s = "auth-crypt" then (.conntype .authCrypt, none)
      else if s = "anon-clear" then (.conntype .anonClear, none)
      else (subject, some .failed)
    | _ => (subject, some .aborts)
  else (subject, none)

def decodeSubject (subject : AceSubject) (items : List Item) : AceSubject × Option DecodeEnd :=
  match walk (fun _ => .leave) decodeSubjectKey subject items with
  | (subject, some e) => (subject, some e)
  | (.role role, none) =>
    if role.id = "" then (.role role, some .failed) else (.role role, none)
  | (subject, none) => (subject, none)

def textPrefix : List Item → List String
  | .text s :: rest => s :: textPrefix rest
  | _ => []

def wildcardOf (wc : String) : OicSecAceResourceWildcard :=
  if wc = "*" then .allNcrs
  else if wc = "+" then .allDiscoverableNcrsWithOcSecure
  else if wc = "-" then .allDiscoverableNcrsWithOcNonsecure
  else .noWildcard

/-- One key of a resource map. The href `"*"` becomes a wildcard. -/
def decodeRsrcKey (rsrc : OicSecRsrc) (name : String) (value : Option Item) :
    OicSecRsrc × Option DecodeEnd :=
  if name = "href" then
    match value with
    | some (.text s) =>
      if s = "*" then ({ rsrc with href := none, wildcard := .allNcrs }, none)
      else ({ rsrc with href := some s, wildcard := .noWildcard }, none)
    | _ => (rsrc, some .aborts)
  else if name = "rt" then
    match value with
    | some (.array items) =>
      -- an allocation of size 0 counts as failed
      if items.length = 0 then (rsrc, some .stopped)
      else ({ rsrc with types := textPrefix items }, none)
    | _ => (rsrc, none)
  else if name = "if" then
    match value with
    | some (.array items) =>
      if items.length = 0 then (rsrc, some .stopped)
      else ({ rsrc with interfaces := textPrefix items }, none)
    | _ => (rsrc, none)
  else if name = "rel" then
    match value with
    | some (.text s) => ({ rsrc with rel := some s }, none)
    | _ => (rsrc, some .aborts)
  else if name = "wc" then
    match value with
    | some (.text s) => ({ rsrc with wildcard := wildcardOf s }, none)
    | _ => (rsrc, some .aborts)
  else (rsrc, none)

/-- A resource as `OICCalloc` gives it. -/
def emptyRsrc : OicSecRsrc :=
  { href := none, rel := none, types := [], interfaces := [], wildcard := .noWildcard }

def decodeRsrc (item : Item) : OicSecAce × Option DecodeEnd :=
  match item.content with
  | none => (ace, some .aborts)
  | some items =>
    match walk (fun _ => .finish .aborts) decodeRsrcKey emptyRsrc items with
    | (rsrc, ending) => ({ ace with resources := ace.resources ++ [rsrc] }, ending)

/-- One item of the array of validities. The iterator is still on the period when the recurrences
are entered, and a text is no container. -/
def decodeValidity (item : Item) : OicSecAce × Option DecodeEnd :=
  let append (period : Option String) : OicSecAce :=
    { ace with validities := ace.validities ++ [⟨period, []⟩] }
  match item.content with
  | some (.text period :: _) => (append (some period), some .aborts)
  | _ => (append none, some .aborts)

def AceSubject.withWildcard : AceSubject → AceSubject
  | .uuid u => .uuid ⟨u.id.set 0 42 uuidLength_pos⟩
  | _ => .uuid wildcardSubjectId

def decodeAceKey (name : String) (value : Option Item) : OicSecAce × Option DecodeEnd :=
  if name = "aceid" then
    match value with
    -- cut down to 16 bits
    | some (.uint n) => ({ ace with aceid := n.toUInt16 }, none)
    | _ => (ace, some .aborts)
  else if name = "subjectuuid" then
    match value with
    | some (.text s) =>
      -- each version skips the subject of the other
      if version = .v2 then (ace, none)
      else if s = "*" then ({ ace with subject := ace.subject.withWildcard }, none)
      else
        match convertStrToUuid s with
        | some uuid => ({ ace with subject := .uuid uuid }, none)
        | none => (ace, some .failed)
    | _ => (ace, none)
  else if name = "subject" then
    if version = .v1 then (ace, none)
    else
      match value.bind Item.content with
      | some items =>
        match decodeSubject ace.subject items with
        | (subject, ending) => ({ ace with subject := subject }, ending)
      | none => (ace, some .failed)
  else if name = "resources" then
    match value.bind Item.content with
    | some items => each decodeRsrc ace items
    | none => (ace, some .aborts)
  else if name = "permission" then
    match value with
    | some (.uint n) => ({ ace with permission := n.toUInt16 }, none)
    | _ => (ace, some .aborts)
  else if name = "validity" then
    match value with
    | some (.array items) => each decodeValidity ace items
    | _ => (ace, some .aborts)
  else (ace, none)

/-- An entry as `OICCalloc` gives it. -/
def emptyAce : OicSecAce :=
  { subject := .uuid OicUuid.nil, resources := [], permission := 0, validities := [], aceid := 0 }

def aceKeyFate : Item → Fate DecodeEnd
  | .map _ => .finish .hangs
  | _ => .skip

def decodeAce (acl : AclContents) (item : Item) : AclContents × Option DecodeEnd :=
  match item.content with
  | none => (acl, some .aborts)
  | some items =>
    match walk aceKeyFate (decodeAceKey version) emptyAce items with
    | (ace, ending) => ({ acl with aces := acl.aces ++ [ace] }, ending)

def decodeAces (acl : AclContents) (item : Item) : AclContents × Option DecodeEnd :=
  match item.content with
  | none => (acl, some .aborts)
  | some items => each (decodeAce version) acl items

/-- The list under `"aclist2"`, or the map under `"aclist"` with its tag
`"aces"`. -/
def decodeAclist (acl : AclContents) (tag : String) (value : Option Item) :
    AclContents × Option DecodeEnd :=
  if tag = "aclist" then
    match value.bind Item.content with
    | none => (acl, some .aborts)
    | some (.text acName :: rest) =>
      if acName = "aces" then each (decodeAces .v1) acl rest else (acl, none)
    | some _ => (acl, none)
  else if tag = "aclist2" then
    match value with
    | none => (acl, none)
    | some item => decodeAces .v2 acl item
  else (acl, none)

variable (gAcl : Option AclContents) (acl : AclContents) (tag : String) (value : Option Item)

/-- The owner, looked for at every tag while there is none: under its own tag it comes from the
payload, else from `gAcl`. -/
def decodeRowner : AclContents × Option DecodeEnd :=
  if isNilUuid acl.rownerID then
    if tag = "rowneruuid" then
      match value with
      | some (.text s) =>
        match convertStrToUuid s with
        | some uuid => ({ acl with rownerID := uuid }, none)
        | none => (acl, some .stopped)
      | _ => (acl, some .aborts)
    else
      match gAcl with
      | some g => ({ acl with rownerID := g.rownerID }, none)
      | none => (acl, none)
  else (acl, none)

def decodeAclKey : AclContents × Option DecodeEnd :=
  match decodeAclist acl tag value with
  | (acl, some e) => (acl, some e)
  | (acl, none) => decodeRowner gAcl acl tag value

/-- A list as `OICCalloc` gives it. -/
def emptyAcl : AclContents := { rownerID := OicUuid.nil, aces := [] }

/-- `CBORPayloadToAclVersionOpt` without a version check, and so
`CBORPayloadToAcl`; `failed` is the answer `NULL`. -/
def cborPayloadToAcl (gAcl : Option AclContents) (payload : Item) :
    Except DecodeEnd AclContents :=
  match payload.content with
  | none => .error .aborts
  | some items =>
    match walk (fun _ => .skip) (decodeAclKey gAcl) emptyAcl items with
    | (acl, none) => .ok acl
    | (acl, some .stopped) => .ok acl
    | (_, some e) => .error e

def firstTagVersion : List Item → Option OicSecAclVersion
  | .text tag :: _ =>
    some (if tag = "aclist" then .v1 else if tag = "aclist2" then .v2 else .unknown)
  | _ :: rest => firstTagVersion rest
  | [] => none

/-- `CBORPayloadToAclVersionOpt` with a version check that starts at version 1;
`none` for a failed assertion. -/
def payloadVersion (payload : Item) : Option OicSecAclVersion :=
  payload.content.map (fun items => (firstTagVersion items).getD .v1)

lemma validityLoop_stuck {validities : List OicSecValidity} (h : validities ≠ []) (fuel : Nat)
    (aceMapSize : UInt8) : validityLoop fuel validities aceMapSize = none := by
  obtain ⟨v, rest, rfl⟩ := List.exists_cons_of_ne_nil h
  induction fuel generalizing aceMapSize with
  | zero => rfl
  | succ fuel ih => rw [validityLoop, ih]

lemma countValidities_iff {validities : List OicSecValidity} {aceMapSize size : UInt8} :
    countValidities validities aceMapSize = .ok size
      ↔ ∃ fuel, validityLoop fuel validities aceMapSize = some size := by
  by_cases hval : validities = []
  · rw [countValidities, if_pos hval, hval]
    simp [validityLoop]
  rw [countValidities, if_neg hval]
  simp [validityLoop_stuck hval]

end

open List

/-! ## Resources -/

def textsEntry (name : String) (strings : List String) : List (String × Item) :=
  if strings = [] then [] else [(name, .array (strings.map Item.text))]

variable (rsrc : OicSecRsrc)

def rsrcEntries : List (String × Item) :=
  textEntry "href" rsrc.href ++ textsEntry "rt" rsrc.types ++ textsEntry "if" rsrc.interfaces
    ++ textEntry "rel" rsrc.rel
    ++ (if rsrc.wildcard ≠ .noWildcard then [("wc", .text (wcString rsrc.wildcard))] else [])

/-- A resource as the decoder gives it back: the href `"*"` has become a
wildcard, unless there is another. -/
def OicSecRsrc.asRead : OicSecRsrc :=
  { rsrc with
    href := if rsrc.href = some "*" then none else rsrc.href
    wildcard := if rsrc.wildcard ≠ .noWildcard then rsrc.wildcard
      else if rsrc.href = some "*" then .allNcrs else .noWildcard }

lemma closedArray_length (items : List Item) :
    closedArray items.length items = .ok (.array items) := by
  rw [closedArray, closeArray_length]

lemma closedMap_eq {declared : Nat} {entries : List (String × Item)}
    (h : entries.length = declared) :
    closedMap declared entries = .ok (.map (flatten entries)) := by
  rw [closedMap, closeMap_eq h]

lemma textArray_eq (strings : List String) :
    textArray strings = .ok (.array (strings.map Item.text)) := by
  have h := closedArray_length (strings.map Item.text)
  rwa [length_map] at h

lemma textArrayEntry_eq (name : String) (strings : List String) :
    textArrayEntry name strings = .ok (textsEntry name strings) := by
  cases strings with
  | nil => rfl
  | cons s rest =>
    have hpos : (s :: rest).length > 0 := Nat.succ_pos _
    rw [textArrayEntry, if_pos hpos, textArray_eq, textsEntry, if_neg (cons_ne_nil s rest)]
    rfl

lemma length_rsrcEntries : (rsrcEntries rsrc).length = rsrcMapSize rsrc := by
  have htext : ∀ name (s : Option String),
      (textEntry name s).length = if s.isSome then 1 else 0 := by
    intro name s
    cases s <;> rfl
  have htexts : ∀ name (l : List String),
      (textsEntry name l).length = if l.length > 0 then 1 else 0 := by
    intro name l
    cases l <;> rfl
  rw [rsrcEntries, rsrcMapSize]
  simp only [length_append, htext, htexts]
  split_ifs <;> rfl

lemma encodeRsrc_v2 : encodeRsrc .v2 rsrc = .ok (.map (flatten (rsrcEntries rsrc))) := by
  have hclosed := closedMap_eq (length_rsrcEntries rsrc)
  simp only [encodeRsrc, textArrayEntry_eq, bind, Except.bind, true_and]
  exact hclosed

@[simp] lemma textPrefix_map (strings : List String) :
    textPrefix (strings.map Item.text) = strings := by
  induction strings with
  | nil => rfl
  | cons s rest ih => rw [map_cons, textPrefix, ih]

lemma wildcardOf_wcString (wildcard : OicSecAceResourceWildcard) :
    wildcardOf (wcString wildcard) = wildcard := by
  cases wildcard <;> decide

section RsrcFields

variable (href rel : Option String) (types interfaces : List String)
  (wildcard : OicSecAceResourceWildcard)

lemma eachEntry_href :
    eachEntry decodeRsrcKey emptyRsrc (textEntry "href" href)
      = (⟨if href = some "*" then none else href, none, [], [],
          if href = some "*" then .allNcrs else .noWildcard⟩, none) := by
  cases href with
  | none => rfl
  | some s =>
    simp only [textEntry, eachEntry, decodeRsrcKey, if_true, Option.some.injEq]
    split_ifs <;> rfl

lemma eachEntry_rt :
    eachEntry decodeRsrcKey ⟨href, rel, [], interfaces, wildcard⟩ (textsEntry "rt" types)
      = (⟨href, rel, types, interfaces, wildcard⟩, none) := by
  rw [textsEntry]
  split_ifs with hl
  · rw [eachEntry, hl]
  · simp [eachEntry, decodeRsrcKey, hl]

lemma eachEntry_if :
    eachEntry decodeRsrcKey ⟨href, rel, types, [], wildcard⟩ (textsEntry "if" interfaces)
      = (⟨href, rel, types, interfaces, wildcard⟩, none) := by
  rw [textsEntry]
  split_ifs with hl
  · rw [eachEntry, hl]
  · simp [eachEntry, decodeRsrcKey, hl]

lemma eachEntry_rel :
    eachEntry decodeRsrcKey ⟨href, none, types, interfaces, wildcard⟩ (textEntry "rel" rel)
      = (⟨href, rel, types, interfaces, wildcard⟩, none) := by
  cases rel <;> rfl

lemma eachEntry_wc (w : OicSecAceResourceWildcard) :
    eachEntry decodeRsrcKey ⟨href, rel, types, interfaces, w⟩
        (if wildcard ≠ .noWildcard then [("wc", .text (wcString wildcard))] else [])
      = (⟨href, rel, types, interfaces, if wildcard ≠ .noWildcard then wildcard else w⟩, none) := by
  split_ifs with hw
  · simp [eachEntry, decodeRsrcKey, wildcardOf_wcString]
  · rfl

end RsrcFields

lemma eachEntry_rsrcEntries (rsrc : OicSecRsrc) :
    eachEntry decodeRsrcKey emptyRsrc (rsrcEntries rsrc) = (rsrc.asRead, none) := by
  simp only [rsrcEntries, append_assoc]
  rw [eachEntry_append (eachEntry_href _), eachEntry_append (eachEntry_rt _ _ _ _ _),
    eachEntry_append (eachEntry_if _ _ _ _ _), eachEntry_append (eachEntry_rel _ _ _ _ _),
    eachEntry_wc]
  rfl

section

variable (ace : OicSecAce)

lemma decodeRsrc_encoded (rsrc : OicSecRsrc) :
    decodeRsrc ace (.map (flatten (rsrcEntries rsrc)))
      = ({ ace with resources := ace.resources ++ [rsrc.asRead] }, none) := by
  rw [decodeRsrc]
  simp [Item.content, walk_flatten, eachEntry_rsrcEntries]

def AceSubject.Readable : AceSubject → Prop
  | .role r => r.id ≠ "" ∧ strlen r.id < roleLength ∧ strlen r.authority < roleLength
  | _ => True

def subjectEntries : AceSubject → List (String × Item)
  | .uuid uuid => [("uuid", .text (convertUuidToStr uuid))]
  | .role role =>
    ("role", .text role.id)
      :: if role.authority ≠ "" then [("authority", .text role.authority)] else []
  | .conntype .authCrypt => [("conntype", .text "auth-crypt")]
  | .conntype .anonClear => [("conntype", .text "anon-clear")]

lemma encodeSubject_v2 (subject : AceSubject) :
    encodeSubject .v2 subject = if subject = .uuid wildcardSubjectId then .error .error
        else .ok (.map (flatten (subjectEntries subject))) := by
  rcases subject with uuid | role | _ | _
  · simp only [encodeSubject, AceSubject.uuid.injEq, reduceCtorEq, if_false]
    split_ifs <;> rfl
  · simp only [encodeSubject, reduceCtorEq, if_false, subjectEntries]
    split_ifs <;> rfl
  · rfl
  · rfl

lemma decodeSubject_encoded {subject : AceSubject} (h : subject.Readable) :
    decodeSubject (.uuid OicUuid.nil) (flatten (subjectEntries subject)) = (subject, none) := by
  rw [decodeSubject, walk_flatten]
  rcases subject with uuid | role | _ | _
  · simp [subjectEntries, eachEntry, decodeSubjectKey, convertStrToUuid_convertUuidToStr]
  · obtain ⟨id, authority⟩ := role
    obtain ⟨hid, hlen, hauth⟩ := h
    have hid' : ¬ strlen id ≥ roleLength := Nat.not_le.mpr hlen
    have hauth' : ¬ strlen authority ≥ roleLength := Nat.not_le.mpr hauth
    by_cases hempty : authority = ""
    · simp [subjectEntries, eachEntry, decodeSubjectKey, hid', hempty, AceSubject.authorityString,
        hid]
    simp [subjectEntries, eachEntry, decodeSubjectKey, hid', hauth', hempty,
      AceSubject.idString, hid]
  · rfl
  · rfl

/-! ## Entries -/

def OicSecAce.asRead : OicSecAce :=
  { ace with resources := ace.resources.map OicSecRsrc.asRead }

def encodedRsrcs : Item :=
  .array (ace.resources.map (fun rsrc => .map (flatten (rsrcEntries rsrc))))

def aceEntries : List (String × Item) :=
  [("aceid", .uint ace.aceid.toUInt64), ("subject", .map (flatten (subjectEntries ace.subject))),
    ("resources", encodedRsrcs ace), ("permission", .uint ace.permission.toUInt64)]

lemma mapM_ok {α : Type} {f : α → Except EncodeEnd Item} {g : α → Item} {l : List α}
    (h : ∀ a ∈ l, f a = .ok (g a)) : l.mapM f = .ok (l.map g) := by
  induction l with
  | nil => rfl
  | cons a l ih =>
    have htail := ih (fun b hb => h b (mem_cons_of_mem a hb))
    rw [mapM_cons, h a mem_cons_self, htail]
    rfl

lemma encodeRsrcs_v2 :
    (ace.resources.mapM (encodeRsrc .v2) >>= closedArray ace.resources.length)
      = .ok (encodedRsrcs ace) := by
  rw [mapM_ok (fun rsrc _ => encodeRsrc_v2 rsrc)]
  have hclosed := closedArray_length
    (ace.resources.map (fun rsrc => Item.map (flatten (rsrcEntries rsrc))))
  rw [length_map] at hclosed
  exact hclosed

end

variable {ace : OicSecAce}

lemma encodeAce_v2 (h : ace.validities = []) :
    encodeAce .v2 ace = if ace.subject = .uuid wildcardSubjectId then .error .error
        else .ok (.map (flatten (aceEntries ace))) := by
  have hcount : countValidities ace.validities 4 = .ok 4 := by
    rw [countValidities, if_pos h]
  have hvalidity : validityEntry ace.validities = .ok [] := by
    rw [h]
    rfl
  have hrsrcs := encodeRsrcs_v2 ace
  have hclosed := closedMap_eq (show (aceEntries ace).length = (4 : UInt8).toNat from rfl)
  simp only [encodeAce, reduceCtorEq, false_and, if_false, if_true, hcount, encodeSubject_v2,
    hvalidity, bind, Except.bind] at hrsrcs ⊢
  by_cases hwild : ace.subject = .uuid wildcardSubjectId
  · simp [hwild]
  simp only [hwild, if_false]
  rcases hitems : ace.resources.mapM (encodeRsrc .v2) with e | items
  · rw [hitems] at hrsrcs
    cases hrsrcs
  rw [hitems] at hrsrcs
  simp only at hrsrcs ⊢
  rw [hrsrcs]
  exact hclosed

lemma encodeAce_hangs (h : ace.validities ≠ []) :
    encodeAce .v2 ace = .error .hangs := by
  have hcount : countValidities ace.validities 4 = .error .hangs := by
    rw [countValidities, if_neg h]
  simp only [encodeAce, reduceCtorEq, false_and, if_false, hcount, bind, Except.bind]

lemma each_decodeRsrc (ace : OicSecAce) (resources : List OicSecRsrc) :
    each decodeRsrc ace (resources.map (fun rsrc => Item.map (flatten (rsrcEntries rsrc))))
      = ({ ace with resources := ace.resources ++ resources.map OicSecRsrc.asRead }, none) := by
  apply each_append decodeRsrc (fun rsrc => Item.map (flatten (rsrcEntries rsrc)))
    (fun ace l => { ace with resources := ace.resources ++ l.map OicSecRsrc.asRead })
  · intro a
    simp
  · intro a rsrc l
    simp
  · intro a rsrc _
    exact decodeRsrc_encoded a rsrc

section

variable (acl : AclContents)

lemma decodeAce_encoded (hval : ace.validities = []) (h : ace.subject.Readable) :
    decodeAce .v2 acl (.map (flatten (aceEntries ace)))
      = ({ acl with aces := acl.aces ++ [ace.asRead] }, none) := by
  rw [decodeAce]
  simp only [Item.content, walk_flatten, aceEntries, eachEntry, decodeAceKey]
  simp [encodedRsrcs, Item.content, decodeSubject_encoded h, each_decodeRsrc, emptyAce,
    OicSecAce.asRead, hval]

lemma decodeSubject_unreadable {subject : AceSubject} (h : ¬ subject.Readable) :
    (decodeSubject (.uuid OicUuid.nil) (flatten (subjectEntries subject))).2 = some .failed := by
  rw [decodeSubject, walk_flatten]
  rcases subject with uuid | ⟨id, authority⟩ | _ | _
  · exact absurd trivial h
  · by_cases hid : strlen id ≥ roleLength
    · simp [subjectEntries, eachEntry, decodeSubjectKey, hid]
    by_cases hauth : strlen authority ≥ roleLength
    · have hne : authority ≠ "" := by
        rintro rfl
        exact absurd hauth (by decide)
      simp [subjectEntries, eachEntry, decodeSubjectKey, hid, hauth, hne]
    have hempty : id = "" := by
      by_contra hne
      exact h ⟨hne, Nat.not_le.mp hid, Nat.not_le.mp hauth⟩
    have hlen : ¬ strlen "" ≥ roleLength := by decide
    by_cases hne : authority = ""
    · simp [subjectEntries, eachEntry, decodeSubjectKey, hempty, hlen, hne]
    simp [subjectEntries, eachEntry, decodeSubjectKey, hempty, hlen, hne, hauth,
      AceSubject.idString]
  · exact absurd trivial h
  · exact absurd trivial h

lemma decodeAce_unreadable (h : ¬ ace.subject.Readable) :
    (decodeAce .v2 acl (.map (flatten (aceEntries ace)))).2 = some .failed := by
  have hfailed := decodeSubject_unreadable h
  rcases hsubject : decodeSubject (.uuid OicUuid.nil) (flatten (subjectEntries ace.subject))
    with ⟨s, ending⟩
  rw [hsubject] at hfailed
  simp only at hfailed
  rw [decodeAce]
  simp only [Item.content, walk_flatten, aceEntries, eachEntry, decodeAceKey]
  simp [Item.content, hsubject, hfailed, emptyAce]

/-! ## The list -/

def AclContents.asRead : AclContents :=
  { acl with aces := acl.aces.map OicSecAce.asRead }

def aclEntries : List (String × Item) :=
  [("aclist2", .array (acl.aces.map (fun ace => .map (flatten (aceEntries ace))))),
    ("rowneruuid", .text (convertUuidToStr acl.rownerID)), ("rt", .array [.text "oic.r.acl2"]),
    ("if", .array [.text "oic.if.baseline"])]

def OicSecAce.Encodable (ace : OicSecAce) : Prop :=
  ace.validities = [] ∧ ace.subject ≠ .uuid wildcardSubjectId

instance (ace : OicSecAce) : Decidable ace.Encodable :=
  inferInstanceAs (Decidable (_ ∧ _))

def OicSecAce.encodeEnd (ace : OicSecAce) : EncodeEnd :=
  if ace.validities ≠ [] then .hangs else .error

def firstUnwritable (aces : List OicSecAce) : Option OicSecAce :=
  aces.find? (!decide ·.Encodable)

lemma encodeAce_eq (ace : OicSecAce) :
    encodeAce .v2 ace
      = if ace.Encodable then .ok (.map (flatten (aceEntries ace))) else .error ace.encodeEnd := by
  by_cases hval : ace.validities = []
  · rw [encodeAce_v2 hval]
    by_cases hwild : ace.subject = .uuid wildcardSubjectId
    · have hnot : ¬ ace.Encodable := fun h => h.2 hwild
      rw [if_pos hwild, if_neg hnot, OicSecAce.encodeEnd, if_neg (not_not_intro hval)]
    have henc : ace.Encodable := ⟨hval, hwild⟩
    rw [if_neg hwild, if_pos henc]
  have hnot : ¬ ace.Encodable := fun h => hval h.1
  rw [encodeAce_hangs hval, if_neg hnot, OicSecAce.encodeEnd, if_pos hval]

lemma mapM_encodeAce (aces : List OicSecAce) :
    aces.mapM (encodeAce .v2)
      = match firstUnwritable aces with
        | none => .ok (aces.map (fun ace => .map (flatten (aceEntries ace))))
        | some ace => .error ace.encodeEnd := by
  induction aces with
  | nil => rfl
  | cons ace aces ih =>
    rw [mapM_cons, encodeAce_eq, ih]
    by_cases henc : ace.Encodable
    · have hfirst : firstUnwritable (ace :: aces) = firstUnwritable aces :=
        find?_cons_of_neg (by simp [henc])
      rw [hfirst, if_pos henc]
      rcases firstUnwritable aces with _ | bad <;> rfl
    have hfirst : firstUnwritable (ace :: aces) = some ace :=
      find?_cons_of_pos (by simp [henc])
    rw [hfirst, if_neg henc]
    rfl

lemma aclToCBORPayload_v2 :
    aclToCBORPayload .v2 acl
      = match firstUnwritable acl.aces with
        | none => .ok (.map (flatten (aclEntries acl)))
        | some ace => .error ace.encodeEnd := by
  have harray := closedArray_length (acl.aces.map (fun ace => Item.map (flatten (aceEntries ace))))
  rw [length_map] at harray
  simp only [aclToCBORPayload, mapM_encodeAce, reduceCtorEq, if_false, bind, Except.bind]
  rcases firstUnwritable acl.aces with _ | bad
  · simp only [harray, textArray_eq]
    rfl
  · rfl

end

variable {aces : List OicSecAce}

lemma each_decodeAce (acl : AclContents) (hval : ∀ ace ∈ aces, ace.validities = [])
    (h : ∀ ace ∈ aces, ace.subject.Readable) :
    each (decodeAce .v2) acl (aces.map (fun ace => Item.map (flatten (aceEntries ace))))
      = ({ acl with aces := acl.aces ++ aces.map OicSecAce.asRead }, none) := by
  apply each_append (decodeAce .v2) (fun ace => Item.map (flatten (aceEntries ace)))
    (fun acl l => { acl with aces := acl.aces ++ l.map OicSecAce.asRead })
  · intro a
    simp
  · intro a ace l
    simp
  · intro a ace hace
    exact decodeAce_encoded a (hval ace hace) (h ace hace)

lemma each_decodeAce_unreadable (acl : AclContents) (hval : ∀ ace ∈ aces, ace.validities = [])
    (h : ∃ ace ∈ aces, ¬ ace.subject.Readable) :
    (each (decodeAce .v2) acl (aces.map (fun ace => Item.map (flatten (aceEntries ace))))).2
      = some .failed := by
  induction aces generalizing acl with
  | nil =>
    obtain ⟨ace, hace, -⟩ := h
    simp at hace
  | cons ace aces ih =>
    rw [map_cons, each]
    by_cases hread : ace.subject.Readable
    · rw [decodeAce_encoded acl (hval ace mem_cons_self) hread]
      apply ih _ (fun b hb => hval b (mem_cons_of_mem ace hb))
      obtain ⟨b, hb, hbad⟩ := h
      rcases mem_cons.mp hb with rfl | hb
      · exact absurd hread hbad
      · exact ⟨b, hb, hbad⟩
    have hfailed := decodeAce_unreadable acl hread
    rcases hace : decodeAce .v2 acl (Item.map (flatten (aceEntries ace))) with ⟨acl', ending⟩
    rw [hace] at hfailed
    simp only at hfailed
    rw [hfailed]

/-! ## The owner -/

variable (gAcl : Option AclContents)

/-- The owner that the decoder gives: that of `gAcl`, if it has one. -/
def ownerAsRead (rownerID : OicUuid) : OicUuid :=
  match gAcl with
  | none => rownerID
  | some g => if isNilUuid g.rownerID then rownerID else g.rownerID

def fillOwner (rownerID : OicUuid) : OicUuid :=
  match gAcl with
  | none => rownerID
  | some g => if isNilUuid rownerID then g.rownerID else rownerID

lemma decodeAclKey_other (acl : AclContents) {tag : String} (h : tag = "rt" ∨ tag = "if")
    (value : Option Item) :
    decodeAclKey gAcl acl tag value
      = ({ acl with rownerID := fillOwner gAcl acl.rownerID }, none) := by
  have hlist : decodeAclist acl tag value = (acl, none) := by
    rcases h with rfl | rfl <;> rfl
  have htag : tag ≠ "rowneruuid" := by
    rcases h with rfl | rfl <;> decide
  rw [decodeAclKey, hlist]
  simp only [decodeRowner, htag, if_false]
  cases gAcl with
  | none => exact ite_self _
  | some g =>
    simp only [fillOwner]
    split_ifs <;> rfl

lemma decodeAclKey_rowneruuid (acl : AclContents) (uuid : OicUuid) :
    decodeAclKey gAcl acl "rowneruuid" (some (.text (convertUuidToStr uuid)))
      = ({ acl with rownerID := if isNilUuid acl.rownerID then uuid else acl.rownerID }, none) := by
  have hlist : ∀ value, decodeAclist acl "rowneruuid" value = (acl, none) := fun _ => rfl
  rw [decodeAclKey, hlist]
  simp only [decodeRowner, if_true, convertStrToUuid_convertUuidToStr]
  split_ifs <;> rfl

lemma owner_after_tags (uuid : OicUuid) :
    fillOwner gAcl (fillOwner gAcl
        (if isNilUuid (fillOwner gAcl OicUuid.nil) then uuid else fillOwner gAcl OicUuid.nil))
      = ownerAsRead gAcl uuid := by
  have hnil : isNilUuid OicUuid.nil = true := by decide
  cases gAcl with
  | none => simp [fillOwner, ownerAsRead, hnil]
  | some g =>
    by_cases hg : isNilUuid g.rownerID = true
    · have heq : g.rownerID = OicUuid.nil := eq_of_beq hg
      by_cases huuid : isNilUuid uuid = true
      · have heq' : uuid = OicUuid.nil := eq_of_beq huuid
        simp [fillOwner, ownerAsRead, heq, heq', hnil]
      · simp [fillOwner, ownerAsRead, heq, hnil, huuid]
    · simp [fillOwner, ownerAsRead, hg, hnil]

variable {acl : AclContents}

section

variable (gAcl : Option AclContents) (hval : ∀ ace ∈ acl.aces, ace.validities = [])
include hval

lemma cborPayloadToAcl_encoded (hread : ∀ ace ∈ acl.aces, ace.subject.Readable) :
    cborPayloadToAcl gAcl (.map (flatten (aclEntries acl)))
      = .ok { acl.asRead with rownerID := ownerAsRead gAcl acl.rownerID } := by
  have hlist : decodeAclKey gAcl emptyAcl "aclist2"
        (some (.array (acl.aces.map (fun ace => Item.map (flatten (aceEntries ace))))))
      = ({ acl.asRead with rownerID := fillOwner gAcl OicUuid.nil }, none) := by
    have haces := each_decodeAce emptyAcl hval hread
    simp only [decodeAclKey, decodeAclist, decodeAces, Item.content, haces]
    cases gAcl with
    | none | some => rfl
  rw [cborPayloadToAcl]
  simp [Item.content, walk_flatten, aclEntries, eachEntry, hlist, decodeAclKey_rowneruuid,
    decodeAclKey_other, owner_after_tags]

lemma cborPayloadToAcl_unreadable (hbad : ∃ ace ∈ acl.aces, ¬ ace.subject.Readable) :
    cborPayloadToAcl gAcl (.map (flatten (aclEntries acl))) = .error .failed := by
  have hfailed := each_decodeAce_unreadable emptyAcl hval hbad
  rcases haces : each (decodeAce .v2) emptyAcl
      (acl.aces.map (fun ace => Item.map (flatten (aceEntries ace)))) with ⟨acl', ending⟩
  rw [haces] at hfailed
  simp only at hfailed
  rw [cborPayloadToAcl]
  simp only [Item.content, walk_flatten, aclEntries, eachEntry, decodeAclKey, decodeAclist,
    decodeAces]
  simp [haces, hfailed]

end

/-! ## The round trip -/

lemma firstUnwritable_eq_none (h : ∀ ace ∈ aces, ace.Encodable) :
    firstUnwritable aces = none := by
  rw [firstUnwritable, find?_eq_none]
  intro ace hace
  simp [h ace hace]

lemma aclToCBORPayload_error (hval : ∀ ace ∈ acl.aces, ace.validities = [])
    (hwild : ∃ ace ∈ acl.aces, ace.subject = .uuid wildcardSubjectId) :
    aclToCBORPayload .v2 acl = .error .error := by
  obtain ⟨ace, hace, hsubject⟩ := hwild
  have hsome : (firstUnwritable acl.aces).isSome := by
    rw [firstUnwritable, find?_isSome]
    refine ⟨ace, hace, ?_⟩
    have hnot : ¬ ace.Encodable := fun h => h.2 hsubject
    simp [hnot]
  obtain ⟨first, hfirst⟩ := Option.isSome_iff_exists.mp hsome
  have hmem : first ∈ acl.aces := mem_of_find?_eq_some hfirst
  rw [aclToCBORPayload_v2, hfirst]
  simp [OicSecAce.encodeEnd, hval first hmem]

lemma OicSecRsrc.asRead_eq {rsrc : OicSecRsrc} (h : rsrc.href ≠ some "*") :
    rsrc.asRead = rsrc := by
  obtain ⟨href, rel, types, interfaces, wildcard⟩ := rsrc
  simp only at h
  simp only [OicSecRsrc.asRead, h, if_false, OicSecRsrc.mk.injEq, true_and]
  split_ifs with hw
  · rfl
  · exact (not_not.mp hw).symm

lemma AclContents.asRead_eq
    (h : ∀ ace ∈ acl.aces, ∀ rsrc ∈ ace.resources, rsrc.href ≠ some "*") : acl.asRead = acl := by
  have hace : ∀ ace ∈ acl.aces, ace.asRead = id ace := by
    intro ace hmem
    have hrsrc : ace.resources.map OicSecRsrc.asRead = ace.resources.map id :=
      map_congr_left (fun rsrc hr => OicSecRsrc.asRead_eq (h ace hmem rsrc hr))
    rw [OicSecAce.asRead, hrsrc, map_id]
    rfl
  have haces : acl.aces.map OicSecAce.asRead = acl.aces.map id := map_congr_left hace
  rw [AclContents.asRead, haces, map_id]

def RoundTrips (gAcl : Option AclContents) (acl : AclContents) : Prop :=
  ∃ payload, aclToCBORPayload .v2 acl = .ok payload ∧ cborPayloadToAcl gAcl payload = .ok acl

/-- **The round trip of an access control list.** Take a list without
validities, and a `gAcl` that is missing, has no owner or has the same one.
Version 2 refuses to write it exactly when an entry has the wildcard UUID as its
subject. Otherwise it writes it, and the decoder gives it back with every href
`"*"` turned into a wildcard, or `NULL` when a role has no id or does not fit. -/
theorem acl_round_trip (gAcl : Option AclContents) (acl : AclContents)
    (hval : ∀ ace ∈ acl.aces, ace.validities = [])
    (howner : ∀ g, gAcl = some g → g.rownerID = OicUuid.nil ∨ g.rownerID = acl.rownerID) :
    (aclToCBORPayload .v2 acl = .error .error
      ∧ ∃ ace ∈ acl.aces, ace.subject = .uuid wildcardSubjectId)
    ∨ (∃ payload, aclToCBORPayload .v2 acl = .ok payload
      ∧ (∀ ace ∈ acl.aces, ace.subject ≠ .uuid wildcardSubjectId)
      ∧ ((∀ ace ∈ acl.aces, ace.subject.Readable) → cborPayloadToAcl gAcl payload = .ok acl.asRead)
      ∧ ((∃ ace ∈ acl.aces, ¬ ace.subject.Readable) →
          cborPayloadToAcl gAcl payload = .error .failed)
      ∧ ((∀ ace ∈ acl.aces, ∀ rsrc ∈ ace.resources, rsrc.href ≠ some "*") → acl.asRead = acl)) := by
  by_cases hwild : ∃ ace ∈ acl.aces, ace.subject = .uuid wildcardSubjectId
  · exact Or.inl ⟨aclToCBORPayload_error hval hwild, hwild⟩
  have hsubject : ∀ ace ∈ acl.aces, ace.subject ≠ .uuid wildcardSubjectId :=
    fun ace hace heq => hwild ⟨ace, hace, heq⟩
  have hnone := firstUnwritable_eq_none (fun ace hace => ⟨hval ace hace, hsubject ace hace⟩)
  have hencoded := aclToCBORPayload_v2 acl
  rw [hnone] at hencoded
  -- the owner of `gAcl` cannot stand in for another one
  have hread : ownerAsRead gAcl acl.rownerID = acl.rownerID := by
    cases gAcl with
    | none => rfl
    | some g =>
      rcases howner g rfl with hnil | hsame
      · simp [ownerAsRead, isNilUuid, hnil]
      · rw [ownerAsRead, hsame, ite_self]
  refine Or.inr ⟨_, hencoded, hsubject, ?_, ?_, AclContents.asRead_eq⟩
  · intro hreadable
    rw [cborPayloadToAcl_encoded gAcl hval hreadable, hread]
    rfl
  · exact cborPayloadToAcl_unreadable gAcl hval

def plainAcl : AclContents :=
  { rownerID := ⟨Vector.replicate 16 7⟩
    aces :=
      [ { subject := .uuid ⟨Vector.replicate 16 1⟩
          resources := [⟨some "/a/light", none, ["core.light"], ["oic.if.a"], .noWildcard⟩]
          permission := 6
          validities := []
          aceid := 6 },
        { subject := .role ⟨"admin", "ca"⟩
          resources := [⟨none, none, [], [], .allNcrs⟩]
          permission := 31
          validities := []
          aceid := 7 },
        { subject := .conntype .anonClear
          resources := [⟨some "/oic/res", none, [], [], .noWildcard⟩]
          permission := 2
          validities := []
          aceid := 1 } ] }

theorem acl_round_trip_plain : RoundTrips none plainAcl := by
  have hplain := acl_round_trip none plainAcl (by decide) (by simp)
  have hreadable : ∀ ace ∈ plainAcl.aces, ace.subject.Readable := by
    simp [plainAcl, AceSubject.Readable]
    decide
  rcases hplain with ⟨-, hwild⟩ | ⟨payload, hencoded, -, hread, -, hsame⟩
  · exact absurd hwild (by decide)
  refine ⟨payload, hencoded, ?_⟩
  rw [hread hreadable, hsame (by decide)]

/-- A list that names a resource `"*"`. -/
def starAcl : AclContents :=
  { rownerID := ⟨Vector.replicate 16 7⟩
    aces :=
      [ { subject := .uuid ⟨Vector.replicate 16 1⟩
          resources := [⟨some "*", none, [], [], .noWildcard⟩]
          permission := 2
          validities := []
          aceid := 6 } ] }

theorem starAcl_not_roundTrips :
    (∀ ace ∈ starAcl.aces, ace.resources ≠ []) ∧ ¬ RoundTrips none starAcl := by
  refine ⟨by decide, ?_⟩
  rintro ⟨payload, hencoded, hdecoded⟩
  have hwrite := aclToCBORPayload_v2 starAcl
  have hval : ∀ ace ∈ starAcl.aces, ace.validities = [] := by decide
  have hreadable : ∀ ace ∈ starAcl.aces, ace.subject.Readable := by
    simp [starAcl, AceSubject.Readable]
  have hread := cborPayloadToAcl_encoded none hval hreadable
  rw [firstUnwritable_eq_none (by decide), hencoded] at hwrite
  simp only [Except.ok.injEq] at hwrite
  rw [hwrite, hread, Except.ok.injEq] at hdecoded
  exact absurd hdecoded (by decide)

end

open List

/-! ## The tags that are seen -/

def readTags (entries : List (String × Item)) : List (String × Item) :=
  entries.takeWhile (fun e => (decodeAclist emptyAcl e.1 (some e.2)).2.isNone)

def ownerAtTag (gAcl : Option AclContents) (rownerID : OicUuid) (entry : String × Item) :
    OicUuid :=
  if isNilUuid rownerID then
    if entry.1 = "rowneruuid" then
      match entry.2 with
      | .text s => (convertStrToUuid s).getD rownerID
      | _ => rownerID
    else (gAcl.map AclContents.rownerID).getD rownerID
  else rownerID

variable {body : AclContents → Item → AclContents × Option DecodeEnd}

lemma each_rownerID (h : ∀ acl item, (body acl item).1.rownerID = acl.rownerID)
    (acl : AclContents) (items : List Item) : (each body acl items).1.rownerID = acl.rownerID := by
  induction items generalizing acl with
  | nil => rfl
  | cons item rest ih =>
    have hitem := h acl item
    rw [each]
    rcases hbody : body acl item with ⟨acl', _ | e⟩
    · rw [hbody] at hitem
      exact (ih acl').trans hitem
    rw [hbody] at hitem
    exact hitem

lemma each_ending (h : ∀ acl acl' item, (body acl item).2 = (body acl' item).2)
    (acl acl' : AclContents)
    (items : List Item) : (each body acl items).2 = (each body acl' items).2 := by
  induction items generalizing acl acl' with
  | nil => rfl
  | cons item rest ih =>
    have hitem := h acl acl' item
    rw [each, each]
    rcases hbody : body acl item with ⟨t, _ | e⟩
    · rcases hbody' : body acl' item with ⟨t', _ | e'⟩
      · exact ih t t'
      · simp [hbody, hbody'] at hitem
    rcases hbody' : body acl' item with ⟨t', _ | e'⟩
    · simp [hbody, hbody'] at hitem
    · simpa [hbody, hbody'] using hitem

variable (version : OicSecAclVersion)

lemma decodeAce_rownerID (acl : AclContents) (item : Item) :
    (decodeAce version acl item).1.rownerID = acl.rownerID := by
  rw [decodeAce]
  split <;> rfl

lemma decodeAce_ending (acl acl' : AclContents) (item : Item) :
    (decodeAce version acl item).2 = (decodeAce version acl' item).2 := by
  rw [decodeAce, decodeAce]
  split <;> rfl

lemma decodeAces_rownerID (acl : AclContents) (item : Item) :
    (decodeAces version acl item).1.rownerID = acl.rownerID := by
  rw [decodeAces]
  split
  · rfl
  · exact each_rownerID (decodeAce_rownerID version) acl _

lemma decodeAces_ending (acl acl' : AclContents) (item : Item) :
    (decodeAces version acl item).2 = (decodeAces version acl' item).2 := by
  rw [decodeAces, decodeAces]
  split
  · rfl
  · exact each_ending (decodeAce_ending version) acl acl' _

lemma decodeAclist_rownerID (acl : AclContents) (tag : String) (value : Option Item) :
    (decodeAclist acl tag value).1.rownerID = acl.rownerID := by
  rw [decodeAclist.eq_def]
  split_ifs
  · split
    · rfl
    · split_ifs
      · exact each_rownerID (decodeAces_rownerID .v1) acl _
      · rfl
    · rfl
  · split
    · rfl
    · exact decodeAces_rownerID .v2 acl _
  · rfl

lemma decodeAclist_ending (acl acl' : AclContents) (tag : String) (value : Option Item) :
    (decodeAclist acl tag value).2 = (decodeAclist acl' tag value).2 := by
  rw [decodeAclist.eq_def, decodeAclist.eq_def]
  split_ifs
  · split
    · rfl
    · split_ifs
      · exact each_ending (decodeAces_ending .v1) acl acl' _
      · rfl
    · rfl
  · split
    · rfl
    · exact decodeAces_ending .v2 acl acl' _
  · rfl

def ReadableOwner (entry : String × Item) : Prop :=
  entry.1 = "rowneruuid" → ∃ s uuid, entry.2 = .text s ∧ convertStrToUuid s = some uuid

variable {entry : String × Item}

lemma decodeRowner_readable (gAcl : Option AclContents) (acl : AclContents)
    (h : ReadableOwner entry) :
    decodeRowner gAcl acl entry.1 (some entry.2)
      = ({ acl with rownerID := ownerAtTag gAcl acl.rownerID entry }, none) := by
  rw [decodeRowner.eq_def, ownerAtTag]
  split_ifs with hnil htag
  · obtain ⟨s, uuid, hvalue, huuid⟩ := h htag
    simp [hvalue, huuid]
  · cases gAcl <;> rfl
  · rfl

variable {gAcl : Option AclContents} {entries : List (String × Item)}

variable {acl : AclContents}

lemma rownerID_of_eachEntry {acl' : AclContents} {ending : Option DecodeEnd}
    (hread : ∀ entry ∈ entries, ReadableOwner entry)
    (h : eachEntry (decodeAclKey gAcl) acl entries = (acl', ending)) :
    acl'.rownerID = (readTags entries).foldl (ownerAtTag gAcl) acl.rownerID := by
  induction entries generalizing acl with
  | nil =>
    rw [eachEntry, Prod.mk.injEq] at h
    rw [← h.1]
    rfl
  | cons entry rest ih =>
    obtain ⟨tag, value⟩ := entry
    have howner := decodeAclist_rownerID acl tag (some value)
    have hending := decodeAclist_ending acl emptyAcl tag (some value)
    rw [eachEntry, decodeAclKey] at h
    rw [readTags, takeWhile_cons]
    simp only [← hending]
    rcases hlist : decodeAclist acl tag (some value) with ⟨t, _ | e⟩
    · -- the list, if it is one, is read to its end, and the owner is looked for
      have hrowner := decodeRowner_readable gAcl t (hread _ (mem_cons_self))
      rw [hlist] at h howner
      simp only at h hrowner howner
      rw [hrowner] at h
      have htail := ih (fun e he => hread e (mem_cons_of_mem _ he)) h
      simp only [howner] at htail
      simpa [readTags] using htail
    rw [hlist] at h howner
    simp only [Prod.mk.injEq] at h howner
    rw [← h.1, howner]
    rfl

/-! ## The search -/

variable {rownerID : OicUuid}

lemma ownerAtTag_plain (h : entry.1 ≠ "rowneruuid") :
    ownerAtTag gAcl rownerID entry = fillOwner gAcl rownerID := by
  rw [ownerAtTag, if_neg h]
  cases gAcl with
  | none => exact ite_self _
  | some g => rfl

lemma fillOwner_fillOwner (gAcl : Option AclContents) (rownerID : OicUuid) :
    fillOwner gAcl (fillOwner gAcl rownerID) = fillOwner gAcl rownerID := by
  cases gAcl with
  | none => rfl
  | some g =>
    simp only [fillOwner]
    split_ifs <;> rfl

lemma foldl_ownerAtTag (h : ∀ entry ∈ entries, entry.1 ≠ "rowneruuid") :
    entries.foldl (ownerAtTag gAcl) rownerID
      = if entries = [] then rownerID else fillOwner gAcl rownerID := by
  induction entries generalizing rownerID with
  | nil => rfl
  | cons entry rest ih =>
    have hrest : rest.foldl (ownerAtTag gAcl) (fillOwner gAcl rownerID)
        = if rest = [] then fillOwner gAcl rownerID
          else fillOwner gAcl (fillOwner gAcl rownerID) :=
      ih (fun e he => h e (mem_cons_of_mem _ he))
    rw [foldl_cons, ownerAtTag_plain (h entry (mem_cons_self)), hrest,
      if_neg (cons_ne_nil entry rest), fillOwner_fillOwner, ite_self]

variable {before after : List (String × Item)}

lemma ownerFound_at {s : String} {uuid : OicUuid}
    (hbefore : ∀ entry ∈ before, entry.1 ≠ "rowneruuid")
    (hafter : ∀ entry ∈ after, entry.1 ≠ "rowneruuid") (huuid : convertStrToUuid s = some uuid) :
    (before ++ ("rowneruuid", .text s) :: after).foldl (ownerAtTag gAcl) OicUuid.nil = uuid
      ↔ ∀ g, gAcl = some g → g.rownerID = OicUuid.nil ∨ g.rownerID = uuid
          ∨ (before = [] ∧ (uuid ≠ OicUuid.nil ∨ after = [])) := by
  have hnil : ∀ u : OicUuid, isNilUuid u = true ↔ u = OicUuid.nil := fun u => beq_iff_eq
  have hown : ∀ owner, ownerAtTag gAcl owner ("rowneruuid", .text s)
      = if owner = OicUuid.nil then uuid else owner := by
    intro owner
    simp [ownerAtTag, huuid, hnil]
  rw [foldl_append, foldl_ownerAtTag hbefore, foldl_cons, hown, foldl_ownerAtTag hafter]
  cases gAcl with
  | none => simp [fillOwner]
  | some g =>
    simp only [fillOwner, hnil, if_true, Option.some.injEq, forall_eq']
    by_cases hb : before = []
    · -- the carried owner comes first; a nil one is replaced by a tag that follows
      simp only [hb, if_true, true_and]
      by_cases ha : after = []
      · simp [ha]
      by_cases hu : uuid = OicUuid.nil
      · simp [ha, hu]
      · simp [ha, hu]
    -- the owner of `gAcl` has been asked for
    simp only [hb, if_false, false_and, or_false]
    by_cases hg : g.rownerID = OicUuid.nil
    · by_cases ha : after = []
      · simp [ha, hg]
      by_cases hu : uuid = OicUuid.nil
      · simp [ha, hg, hu]
      · simp [ha, hg, hu]
    · simp [hg]

/-! ## The owner and the payload -/

structure OwnerPayload (entries : List (String × Item)) : Prop where
  once : (entries.filter (·.1 = "rowneruuid")).length ≤ 1
  readable : ∀ entry ∈ entries, ReadableOwner entry

/-- The owner of a list read off a payload: the carried one, or that of `gAcl`
where none is carried. -/
def OwnerFromPayload (gAcl : Option AclContents) (entries : List (String × Item))
    (acl : AclContents) : Prop :=
  (∀ s uuid, ("rowneruuid", Item.text s) ∈ entries → convertStrToUuid s = some uuid
      → acl.rownerID = uuid)
    ∧ ((∀ entry ∈ entries, entry.1 ≠ "rowneruuid") → ∀ g, gAcl = some g → acl.rownerID = g.rownerID)

structure OwnerStands (gAcl : Option AclContents) (entries : List (String × Item)) : Prop where
  /-- A carried owner is the first tag, unless `gAcl` has no other to offer; and
  a nil owner that comes first is the last tag as well. -/
  reached : ∀ before s uuid after, readTags entries = before ++ ("rowneruuid", .text s) :: after
    → convertStrToUuid s = some uuid → ∀ g, gAcl = some g → g.rownerID = OicUuid.nil
      ∨ g.rownerID = uuid ∨ (before = [] ∧ (uuid ≠ OicUuid.nil ∨ after = []))
  /-- A carried owner behind the end of the decoder is what is taken without it. -/
  unreached : ∀ s uuid, ("rowneruuid", Item.text s) ∈ entries
    → ("rowneruuid", Item.text s) ∉ readTags entries → convertStrToUuid s = some uuid
      → uuid = if readTags entries = [] then OicUuid.nil
          else (gAcl.map AclContents.rownerID).getD OicUuid.nil
  /-- Without a carried owner there is a tag at which `gAcl` is asked. -/
  absent : (∀ entry ∈ entries, entry.1 ≠ "rowneruuid") → ∀ g, gAcl = some g
    → readTags entries ≠ [] ∨ g.rownerID = OicUuid.nil

variable {value : Item}

lemma OwnerPayload.plain_around (h : ((before ++ ("rowneruuid", value) :: after).filter
      (·.1 = "rowneruuid")).length ≤ 1) :
    (∀ entry ∈ before, entry.1 ≠ "rowneruuid") ∧ ∀ entry ∈ after, entry.1 ≠ "rowneruuid" := by
  simp only [filter_append, filter_cons, decide_true, if_true, length_append, length_cons] at h
  have hbefore : (before.filter (·.1 = "rowneruuid")) = [] :=
    eq_nil_of_length_eq_zero (by omega)
  have hafter : (after.filter (·.1 = "rowneruuid")) = [] :=
    eq_nil_of_length_eq_zero (by omega)
  constructor
  · intro entry hentry
    simpa using filter_eq_nil_iff.mp hbefore entry hentry
  · intro entry hentry
    simpa using filter_eq_nil_iff.mp hafter entry hentry

lemma OwnerPayload.unseen {seen : List (String × Item)} (h : OwnerPayload entries)
    (hsub : seen.Sublist entries) (hmem : ("rowneruuid", value) ∈ entries)
    (hnot : ("rowneruuid", value) ∉ seen) :
    ∀ entry ∈ seen, entry.1 ≠ "rowneruuid" := by
  intro entry hentry htag
  obtain ⟨before, after, hsplit⟩ := append_of_mem hmem
  have honce := h.once
  rw [hsplit] at honce
  obtain ⟨hbefore, hafter⟩ := OwnerPayload.plain_around honce
  have hin := hsub.subset hentry
  rw [hsplit, mem_append, mem_cons] at hin
  rcases hin with hin | hin | hin
  · exact hbefore entry hin htag
  · exact hnot (hin ▸ hentry)
  · exact hafter entry hin htag

lemma fillOwner_nil (gAcl : Option AclContents) :
    fillOwner gAcl OicUuid.nil = (gAcl.map AclContents.rownerID).getD OicUuid.nil := by
  cases gAcl with
  | none | some => rfl

lemma rownerID_of_decoded (hpayload : OwnerPayload entries)
    (h : cborPayloadToAcl gAcl (.map (flatten entries)) = .ok acl) :
    acl.rownerID = (readTags entries).foldl (ownerAtTag gAcl) OicUuid.nil := by
  rw [cborPayloadToAcl] at h
  simp only [Item.content, walk_flatten] at h
  rcases hread : eachEntry (decodeAclKey gAcl) emptyAcl entries with ⟨acl', ending⟩
  have howner := rownerID_of_eachEntry hpayload.readable hread
  rw [hread] at h
  -- the list is returned at the end of the map, and where the decoder is stopped
  split at h
  · rename_i heq
    injection heq with h1 h2
    injection h with h
    rw [← h, ← h1, howner]
    rfl
  · rename_i heq
    injection heq with h1 h2
    injection h with h
    rw [← h, ← h1, howner]
    rfl
  · cases h

/-- **The owner of the payload stands exactly where the search allows it.** -/
theorem owner_from_payload_iff {gAcl : Option AclContents} {entries : List (String × Item)}
    {acl : AclContents} (hpayload : OwnerPayload entries)
    (h : cborPayloadToAcl gAcl (.map (flatten entries)) = .ok acl) :
    OwnerFromPayload gAcl entries acl ↔ OwnerStands gAcl entries := by
  have howner := rownerID_of_decoded hpayload h
  have hsub : (readTags entries).Sublist entries := takeWhile_sublist _
  have honce : ((readTags entries).filter (fun entry => entry.1 = "rowneruuid")).length ≤ 1 :=
    ((hsub.filter _).length_le).trans hpayload.once
  -- without the owner among the tags that are seen, it is that of `gAcl`
  have hplain : (∀ entry ∈ readTags entries, entry.1 ≠ "rowneruuid")
      → acl.rownerID = if readTags entries = [] then OicUuid.nil
          else (gAcl.map AclContents.rownerID).getD OicUuid.nil := by
    intro hkeys
    rw [howner, foldl_ownerAtTag hkeys, fillOwner_nil]
  constructor
  · rintro ⟨hcarried, habsent⟩
    refine ⟨?_, ?_, ?_⟩
    · intro before s uuid after hsplit huuid
      have hmem : ("rowneruuid", Item.text s) ∈ entries :=
        hsub.subset (by rw [hsplit]; simp)
      have hright := hcarried s uuid hmem huuid
      rw [hsplit] at honce
      obtain ⟨hbefore, hafter⟩ := OwnerPayload.plain_around honce
      rw [howner, hsplit] at hright
      exact (ownerFound_at hbefore hafter huuid).mp hright
    · intro s uuid hmem hnot huuid
      have hright := hcarried s uuid hmem huuid
      rw [hplain (hpayload.unseen hsub hmem hnot)] at hright
      exact hright.symm
    · intro hkeys g hg
      have hright := habsent hkeys g hg
      rw [hplain (fun entry hentry => hkeys entry (hsub.subset hentry)), hg] at hright
      by_cases hseen : readTags entries = []
      · rw [if_pos hseen] at hright
        simp [hright]
      · exact Or.inl hseen
  · intro hstands
    refine ⟨?_, ?_⟩
    · intro s uuid hmem huuid
      by_cases hseen : ("rowneruuid", Item.text s) ∈ readTags entries
      · obtain ⟨before, after, hsplit⟩ := append_of_mem hseen
        have hallowed := hstands.reached before s uuid after hsplit huuid
        rw [hsplit] at honce
        obtain ⟨hbefore, hafter⟩ := OwnerPayload.plain_around honce
        rw [howner, hsplit]
        exact (ownerFound_at hbefore hafter huuid).mpr hallowed
      rw [hplain (hpayload.unseen hsub hmem hseen)]
      exact (hstands.unreached s uuid hmem hseen huuid).symm
    · intro hkeys g hg
      rw [hplain (fun entry hentry => hkeys entry (hsub.subset hentry)), hg]
      rcases hstands.absent hkeys g hg with hseen | hnil
      · rw [if_neg hseen]
        rfl
      rw [hnil]
      exact ite_eq_left_iff.mpr (fun _ => hnil)

/-- `{"aclist2": [], "rowneruuid": …}`, with the tags in the order in which the
encoder writes them. -/
def ownerLast : List (String × Item) :=
  [("aclist2", .array []), ("rowneruuid", .text (convertUuidToStr ⟨Vector.replicate 16 7⟩))]

def otherOwnerAcl : AclContents := { rownerID := ⟨Vector.replicate 16 9⟩, aces := [] }

lemma ownerLast_payload : OwnerPayload ownerLast := by
  refine ⟨by simp [ownerLast], ?_⟩
  intro entry hentry
  simp only [ownerLast, mem_cons, not_mem_nil, or_false] at hentry
  rcases hentry with rfl | rfl
  · intro htag
    simp at htag
  · exact fun _ => ⟨_, _, rfl, convertStrToUuid_convertUuidToStr _⟩

lemma ownerLast_decoded :
    cborPayloadToAcl (some otherOwnerAcl) (.map (flatten ownerLast)) = .ok otherOwnerAcl := by
  have hlist : decodeAclKey (some otherOwnerAcl) emptyAcl "aclist2" (some (.array []))
      = (otherOwnerAcl, none) := by
    rfl
  have howner : isNilUuid otherOwnerAcl.rownerID = false := by decide
  rw [cborPayloadToAcl]
  simp [Item.content, walk_flatten, ownerLast, eachEntry, hlist, decodeAclKey_rowneruuid, howner]

theorem ownerLast_not_from_payload :
    OwnerPayload ownerLast
      ∧ cborPayloadToAcl (some otherOwnerAcl) (.map (flatten ownerLast)) = .ok otherOwnerAcl
      ∧ ¬ OwnerFromPayload (some otherOwnerAcl) ownerLast otherOwnerAcl := by
  refine ⟨ownerLast_payload, ownerLast_decoded, ?_⟩
  intro hright
  have hcarried := hright.1 _ ⟨Vector.replicate 16 7⟩ (by simp [ownerLast])
    (convertStrToUuid_convertUuidToStr _)
  revert hcarried
  decide

theorem ownerLast_stands :
    OwnerFromPayload (some otherOwnerAcl) ownerLast otherOwnerAcl
      ↔ OwnerStands (some otherOwnerAcl) ownerLast :=
  owner_from_payload_iff ownerLast_payload ownerLast_decoded

end Iochibity.Sec
