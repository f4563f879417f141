/-
The security profile resource, `spresource.c`.

Allocations succeed, but for those of no bytes and for what `Medium` says of the storage.
-/
import Iochibity.Sec.PersistentStorage
import Iochibity.Sec.UuidText

namespace Iochibity.Sec.Sp

open CborItem (Item walk flatten closeMap)

section

structure OicSecSp where
  supportedProfiles : List String
  currentProfile : Option String
  deriving DecidableEq

def gDefaultSp : OicSecSp := ⟨["1.3.6.1.4.1.51414.0.1.0"], some "1.3.6.1.4.1.51414.0.1.0"⟩

/-- One flag for each `SpProperty_t`. -/
structure SpProps where
  supportedProfiles : Bool
  currentProfile : Bool
  deriving DecidableEq

def gAllProps : SpProps := ⟨true, true⟩

/-- `ProfileIdx`; `none` is -1. -/
def profileIdx (supportedProfiles : List String) (profileName : String) : Option ℕ :=
  supportedProfiles.findIdx? (· = profileName)

def requiredSpPropsPresentAndValid (sp : OicSecSp) (propertiesPresent : SpProps) : Bool :=
  propertiesPresent.supportedProfiles && sp.supportedProfiles ≠ []
    && propertiesPresent.currentProfile
    && match sp.currentProfile with
      | none => false
      | some current => (profileIdx sp.supportedProfiles current).isSome

/-- How decoding ends without a result: with `OC_STACK_ERROR`, in a failed assertion, or not at
all. -/
inductive SpDecodeEnd
  | error
  | aborts
  | hangs
  deriving DecidableEq

def extractProfiles : List Item → List String
  | .text profile :: items => profile :: extractProfiles items
  | _ => []

/-- `SupportedProfilesFromCBOR`. There is no memory for an empty list. -/
def supportedProfilesFromCBOR (items : List Item) : Option (List String) :=
  if items = [] then none
  else if (extractProfiles items).length = items.length then some (extractProfiles items)
  else none

def decodeSpKey (state : OicSecSp × SpProps) (key : String) (value : Option Item) :
    (OicSecSp × SpProps) × Option SpDecodeEnd :=
  if key = "supportedprofiles" then
    match value with
    | some (.array items) =>
      match supportedProfilesFromCBOR items with
      | some profiles =>
        (({ state.1 with supportedProfiles := profiles },
          { state.2 with supportedProfiles := true }), none)
      | none => (state, some .error)
    | _ => (state, some .aborts)
  else if key = "currentprofile" then
    match value with
    | some (.text current) =>
      (({ state.1 with currentProfile := some current },
        { state.2 with currentProfile := true }), none)
    | _ => (state, some .aborts)
  else (state, none)

/-- `CBORPayloadToSp`. A key that is not a text is looked at again and again. -/
def cborPayloadToSp (payload : Item) : Except SpDecodeEnd (OicSecSp × SpProps) :=
  match payload.content with
  | none => .error .aborts
  | some items =>
    match walk (fun _ => .finish .hangs) decodeSpKey (⟨[], none⟩, ⟨false, false⟩) items with
    | (state, none) => .ok state
    | (_, some ending) => .error ending

/-! ## Encoding -/

/-- The entries that `SpToCBORPayload` writes. -/
def spEntries (supportedProfiles : List String) (current : String) : List (String × Item) :=
  [("supportedprofiles", .array (supportedProfiles.map Item.text)),
    ("currentprofile", .text current),
    ("rt", .array [.text "oic.r.sp"]),
    ("if", .array [.text "oic.if.baseline"])]

def spToCBORPayload (sp : OicSecSp) : Option Item :=
  if sp.supportedProfiles = [] then none
  else
    match sp.currentProfile with
    | none => none
    | some current => closeMap 4 (spEntries sp.supportedProfiles current)

structure SpBytes where
  write : Item → List UInt8
  read : List UInt8 → Option Item

/-- What `SpToCBORPayload` has written is read back; everything takes some bytes. -/
structure SpBytes.Lawful (bytes : SpBytes) : Prop where
  read_write : ∀ sp payload, spToCBORPayload sp = some payload →
    bytes.read (bytes.write payload) = some payload
  write_ne_nil : ∀ item, bytes.write item ≠ []

def SpBytes.standard : SpBytes where
  write := CborBytes.write
  read := fun l => (CborBytes.readItem 3 l).map Prod.fst

lemma SpBytes.standard_lawful : SpBytes.standard.Lawful where
  read_write := by
    intro sp payload hpayload
    unfold spToCBORPayload at hpayload
    obtain ⟨-, hpayload⟩ := Option.ite_none_left_eq_some.mp hpayload
    cases hcurrent : sp.currentProfile with
    | none =>
      rw [hcurrent] at hpayload
      exact nomatch hpayload
    | some current =>
      rw [hcurrent] at hpayload
      have hmap : payload = .map (flatten (spEntries sp.supportedProfiles current)) :=
        (Option.some.inj (hpayload.symm.trans (CborItem.closeMap_eq rfl)))
      have htexts : ∀ texts : List String, CborBytes.Reads 2 (.array (texts.map Item.text)) := by
        intro texts
        refine CborBytes.reads_array (fun item hitem => ?_)
        obtain ⟨text, -, rfl⟩ := List.mem_map.mp hitem
        exact CborBytes.reads_text 0 text
      have hreads : CborBytes.Reads 3 payload := by
        rw [hmap]
        refine CborBytes.reads_map (show 2 * (8 / 2) = 8 by decide) ?_
        simp only [flatten, spEntries, List.flatMap_cons, List.flatMap_nil, List.cons_append,
          List.nil_append, List.forall_mem_cons]
        exact ⟨CborBytes.reads_text 1 _, htexts _, CborBytes.reads_text 1 _,
          CborBytes.reads_text 1 _, CborBytes.reads_text 1 _, htexts ["oic.r.sp"],
          CborBytes.reads_text 1 _, htexts ["oic.if.baseline"], List.forall_mem_nil _⟩
      have hread := hreads []
      rw [List.append_nil] at hread
      show (CborBytes.readItem 3 (CborBytes.write payload)).map Prod.fst = some payload
      rw [hread]
      rfl
  write_ne_nil := CborBytes.write_ne_nil

/-! ## POST -/

structure SpStore where
  gSp : OicSecSp
  database : List UInt8

/-- A POST: the onboarding state, if `GetDos` finds it, the payload, if there is one, and how the
storage behaves. -/
structure SpPost where
  dos : Option OicSecDostype
  payload : Option Item
  medium : Medium

/-- The answers that `HandleSpPostRequest` gives. -/
inductive SpAnswer
  | ok
  | notAcceptable
  deriving DecidableEq

/-- The object that a POST makes: each property is that of the POST, if it has it, or else the
current one. -/
def mergedSp (gSp spIncoming : OicSecSp) (decodedProperties : SpProps) : OicSecSp where
  supportedProfiles := if decodedProperties.supportedProfiles then spIncoming.supportedProfiles
    else gSp.supportedProfiles
  currentProfile := if decodedProperties.currentProfile then spIncoming.currentProfile
    else gSp.currentProfile

variable (cbor : TinyCbor) (bytes : SpBytes)

def updatePersistentStorage (medium : Medium) (sp : OicSecSp) (database : List UInt8) :
    Bool × List UInt8 :=
  match spToCBORPayload sp with
  | none => (false, database)
  | some payload =>
    let updated := updateResourceInPS cbor medium database .sp (bytes.write payload)
    (updated.result = .ok, updated.database)

/-- `HandleSpPostRequest`, with the merged object. -/
def applyUpdate (medium : Medium) (spUpdate : OicSecSp) (store : SpStore) :
    SpAnswer × SpStore :=
  match spUpdate.currentProfile with
  | none => (.notAcceptable, store)
  | some current =>
    if (profileIdx spUpdate.supportedProfiles current).isNone then (.notAcceptable, store)
    else if ¬ requiredSpPropsPresentAndValid spUpdate gAllProps then (.notAcceptable, store)
    else
      let updated := updatePersistentStorage cbor bytes medium spUpdate store.database
      if updated.1 then (.ok, ⟨spUpdate, updated.2⟩)
      else (.notAcceptable, { store with database := updated.2 })

def handleSpPostRequest (post : SpPost) (store : SpStore) : Option SpAnswer × SpStore :=
  match post.dos with
  | none => (some .notAcceptable, store)
  | some dos =>
    if dos.state = .reset ∨ dos.state = .rfnop then (some .notAcceptable, store)
    else
      match post.payload with
      | none => (some .notAcceptable, store)
      | some payload =>
        match cborPayloadToSp payload with
        | .error .error => (some .notAcceptable, store)
        | .error _ => (none, store)
        | .ok (spIncoming, decodedProperties) =>
          let applied := applyUpdate cbor bytes post.medium
            (mergedSp store.gSp spIncoming decodedProperties) store
          (some applied.1, applied.2)

/-- The sp that `InitSpResource` finds in the storage. -/
def storedSp (database : List UInt8) : Option (OicSecSp × SpProps) :=
  (readResource cbor database .sp).bind fun data =>
    (bytes.read data).bind fun payload => (cborPayloadToSp payload).toOption

def spStep (store : SpStore) (post : SpPost) : SpStore × List SpAnswer :=
  ((handleSpPostRequest cbor bytes post store).2,
    (handleSpPostRequest cbor bytes post store).1.toList)

end

open CborItem (Item walk eachEntry flatten)
open List
open Option (some.inj)

/-! ## What is kept -/

def SpValid (sp : OicSecSp) : Prop :=
  ∃ current, sp.currentProfile = some current ∧ current ∈ sp.supportedProfiles

def Admits (post : SpPost) (payload : Item) : Prop :=
  (∃ dos, post.dos = some dos ∧ dos.state ≠ .reset ∧ dos.state ≠ .rfnop)
    ∧ post.payload = some payload

def Accepts (gSp : OicSecSp) (post : SpPost) (sp : OicSecSp) : Prop :=
  ∃ payload spIncoming decodedProperties, Admits post payload
    ∧ cborPayloadToSp payload = .ok (spIncoming, decodedProperties)
    ∧ sp = mergedSp gSp spIncoming decodedProperties ∧ SpValid sp

section

variable (cbor : TinyCbor)

/-- **A POST is right**: it is answered; `gSp` is valid after it; with an error nothing has changed,
in `gSp` and in the storage; and when it is accepted, it was to be, and the merged object is in
both. -/
def PostExact (bytes : SpBytes) (store : SpStore) (post : SpPost) : Prop :=
  ∃ answer store', handleSpPostRequest cbor bytes post store = (some answer, store')
    ∧ SpValid store'.gSp
    ∧ (answer = .notAcceptable → store'.gSp = store.gSp
        ∧ storedSp cbor bytes store'.database = storedSp cbor bytes store.database)
    ∧ (answer = .ok → Accepts store.gSp post store'.gSp
        ∧ storedSp cbor bytes store'.database = some (store'.gSp, gAllProps))

def LegibleEntry (key : String) (value : Option Item) : Prop :=
  (key = "supportedprofiles" → ∃ items, value = some (.array items))
    ∧ (key = "currentprofile" → ∃ current, value = some (.text current))

def RefusedEntry (key : String) (value : Option Item) : Prop :=
  key = "supportedprofiles"
    ∧ ∃ items, value = some (.array items) ∧ supportedProfilesFromCBOR items = none

/-- The decoder gets through the items of a map, or to a list that it refuses: keys are texts,
and the two properties have an array and a text. -/
def LegibleItems : List Item → Prop
  | [] => True
  | [.text key] => LegibleEntry key none
  | .text key :: value :: rest =>
    LegibleEntry key (some value) ∧ (¬ RefusedEntry key (some value) → LegibleItems rest)
  | _ :: _ => False

def Legible (payload : Item) : Prop :=
  match payload.content with
  | none => False
  | some items => LegibleItems items

/-- `UpdateResourceInPS` returns `OC_STACK_OK` and has written nothing. -/
def Unwritten (medium : Medium) (database : List UInt8) : Prop :=
  readDatabase medium database ≠ none
    ∧ ((∃ name : SvrName, name ≠ .crl ∧ cbor.find database name.json = .broken)
      ∨ medium.allocOk = false)

def rewritten (medium : Medium) (database data : List UInt8) : List UInt8 :=
  match readDatabase medium database with
  | some dbData => cbor.encodeMap (newEntries cbor medium dbData .sp data)
  | none => cbor.encodeMap [(SvrName.sp.json, data)]

def dataOf (bytes : SpBytes) (sp : OicSecSp) : List UInt8 :=
  ((spToCBORPayload sp).map bytes.write).getD []

/-- The storage behaves for this object: what it says it has written is there, and a file that is
cut off yields the sp of before. -/
def StorageClean (bytes : SpBytes) (medium : Medium) (database : List UInt8)
    (sp : OicSecSp) : Prop :=
  (Unwritten cbor medium database → storedSp cbor bytes database = some (sp, gAllProps))
    ∧ (¬ Unwritten cbor medium database → medium.allocOk = true → ∀ n, medium.write = .short n →
        storedSp cbor bytes ((rewritten cbor medium database (dataOf bytes sp)).take
            (min n ((rewritten cbor medium database (dataOf bytes sp)).length - 1)))
          = storedSp cbor bytes database)

def PostClean (bytes : SpBytes) (store : SpStore) (post : SpPost) : Prop :=
  (∀ payload, Admits post payload → Legible payload) ∧ ∀ sp, Accepts store.gSp post sp →
      StorageClean cbor bytes post.medium store.database sp

end

lemma profileIdx_isSome_iff (profiles : List String) (name : String) :
    (profileIdx profiles name).isSome = true ↔ name ∈ profiles := by
  unfold profileIdx
  rw [findIdx?_isSome, any_eq_true]
  constructor
  · rintro ⟨profile, hmem, hsame⟩
    rwa [← of_decide_eq_true hsame]
  · intro hmem
    exact ⟨name, hmem, decide_eq_true rfl⟩

lemma requiredSpProps_iff (sp : OicSecSp) (props : SpProps) :
    requiredSpPropsPresentAndValid sp props = true ↔ props = gAllProps ∧ SpValid sp := by
  obtain ⟨supported, current⟩ := props
  unfold requiredSpPropsPresentAndValid SpValid gAllProps
  rw [SpProps.mk.injEq, Bool.and_eq_true, Bool.and_eq_true, Bool.and_eq_true, decide_eq_true_iff]
  dsimp only
  cases hcurrent : sp.currentProfile with
  | none =>
    refine iff_of_false (nomatch ·.2) ?_
    rintro ⟨-, name, hname, -⟩
    exact nomatch hname
  | some name =>
    dsimp only
    rw [profileIdx_isSome_iff]
    constructor
    · rintro ⟨⟨⟨hsupported, -⟩, hpresent⟩, hmem⟩
      exact ⟨⟨hsupported, hpresent⟩, name, rfl, hmem⟩
    · rintro ⟨⟨hsupported, hpresent⟩, name', hname, hmem⟩
      rw [← some.inj hname] at hmem
      exact ⟨⟨⟨hsupported, ne_nil_of_mem hmem⟩, hpresent⟩, hmem⟩

lemma gDefaultSp_valid : SpValid gDefaultSp :=
  ⟨_, rfl, mem_cons_self⟩

/-! ## The decoder -/

lemma decodeSpKey_ending (state : OicSecSp × SpProps) (key : String) (value : Option Item) :
    ((decodeSpKey state key value).2 = none ∧ LegibleEntry key value ∧ ¬ RefusedEntry key value)
      ∨ ((decodeSpKey state key value).2 = some .error ∧ LegibleEntry key value
        ∧ RefusedEntry key value)
      ∨ ((decodeSpKey state key value).2 = some .aborts ∧ ¬ LegibleEntry key value) := by
  unfold decodeSpKey
  by_cases hsupported : key = "supportedprofiles"
  · have hcurrent : key ≠ "currentprofile" := by
      rw [hsupported]
      decide
    rw [if_pos hsupported]
    split
    · next items =>
      have hlegible : LegibleEntry key (some (.array items)) :=
        ⟨fun _ => ⟨items, rfl⟩, fun h => absurd h hcurrent⟩
      cases hread : supportedProfilesFromCBOR items with
      | some profiles =>
        refine .inl ⟨rfl, hlegible, ?_⟩
        rintro ⟨-, items', hsame, hnone⟩
        obtain rfl := Item.array.inj (some.inj hsame)
        exact nomatch hread.symm.trans hnone
      | none => exact .inr (.inl ⟨rfl, hlegible, hsupported, items, rfl, hread⟩)
    next hnot =>
    refine .inr (.inr ⟨rfl, fun h => ?_⟩)
    obtain ⟨items, hvalue⟩ := h.1 hsupported
    exact hnot items hvalue
  rw [if_neg hsupported]
  by_cases hcurrent : key = "currentprofile"
  · rw [if_pos hcurrent]
    split
    · next current =>
      exact .inl ⟨rfl, ⟨fun h => absurd h hsupported, fun _ => ⟨current, rfl⟩⟩,
        fun h => hsupported h.1⟩
    next hnot =>
    refine .inr (.inr ⟨rfl, fun h => ?_⟩)
    obtain ⟨current, hvalue⟩ := h.2 hcurrent
    exact hnot current hvalue
  rw [if_neg hcurrent]
  exact .inl ⟨rfl, ⟨fun h => absurd h hsupported, fun h => absurd h hcurrent⟩,
    fun h => hsupported h.1⟩

/-- An ending that `CBORPayloadToSp` comes back from. -/
def Returns (ending : Option SpDecodeEnd) : Prop := ending = none ∨ ending = some .error

lemma not_returns_aborts : ¬ Returns (some .aborts) := fun h => h.elim nofun nofun

lemma not_returns_hangs : ¬ Returns (some .hangs) := fun h => h.elim nofun nofun

lemma walk_returns_iff (items : List Item) (state : OicSecSp × SpProps) :
    Returns (walk (fun _ => .finish .hangs) decodeSpKey state items).2 ↔ LegibleItems items := by
  induction items using LegibleItems.induct generalizing state with
  | case1 => exact iff_of_true (.inl rfl) trivial
  | case2 key =>
    rw [walk, LegibleItems]
    obtain ⟨hend, hlegible, -⟩ | ⟨hend, hlegible, -⟩ | ⟨hend, hnot⟩ :=
      decodeSpKey_ending state key none
    · exact iff_of_true (.inl hend) hlegible
    · exact iff_of_true (.inr hend) hlegible
    · rw [hend]
      exact iff_of_false not_returns_aborts hnot
  | case3 key value rest ih =>
    rw [walk, LegibleItems]
    have hending := decodeSpKey_ending state key (some value)
    generalize decodeSpKey state key (some value) = decoded at hending
    obtain ⟨state', ending⟩ := decoded
    dsimp only at hending
    obtain ⟨rfl, hlegible, hnot⟩ | ⟨rfl, hlegible, hrefused⟩ | ⟨rfl, hnot⟩ := hending
    · dsimp only
      rw [ih state', and_iff_right hlegible]
      exact ⟨fun h _ => h, fun h => h hnot⟩
    · exact iff_of_true (.inr rfl) ⟨hlegible, fun h => absurd hrefused h⟩
    · exact iff_of_false not_returns_aborts (hnot ·.1)
  | case4 item rest hone hmore =>
    rw [LegibleItems]
    · refine iff_of_false ?_ id
      rw [walk]
      · exact not_returns_hangs
      · exact hone
      · exact hmore
    · exact hone
    · exact hmore

lemma cborPayloadToSp_returns_iff (payload : Item) :
    (cborPayloadToSp payload = .error .error ∨ ∃ decoded, cborPayloadToSp payload = .ok decoded)
      ↔ Legible payload := by
  unfold cborPayloadToSp Legible
  cases payload.content with
  | none =>
    refine iff_of_false ?_ id
    rintro (h | ⟨decoded, h⟩)
    · exact nomatch h
    · exact nomatch h
  | some items =>
    dsimp only
    rw [← walk_returns_iff items (⟨[], none⟩, ⟨false, false⟩)]
    generalize walk (fun _ => .finish .hangs) decodeSpKey (⟨[], none⟩, ⟨false, false⟩) items
      = walked
    obtain ⟨state, _ | ending⟩ := walked
    · exact iff_of_true (.inr ⟨state, rfl⟩) (.inl rfl)
    dsimp only [Returns]
    constructor
    · rintro (h | ⟨decoded, h⟩)
      · rw [Except.error.inj h]
        exact .inr rfl
      · exact nomatch h
    · rintro (h | h)
      · exact nomatch h
      · rw [some.inj h]
        exact .inl rfl

lemma extractProfiles_map (profiles : List String) :
    extractProfiles (profiles.map Item.text) = profiles := by
  induction profiles with
  | nil => rfl
  | cons profile profiles ih => rw [map_cons, extractProfiles, ih]

lemma spToCBORPayload_read {sp : OicSecSp} (h : SpValid sp) :
    ∃ payload, spToCBORPayload sp = some payload
      ∧ cborPayloadToSp payload = .ok (sp, gAllProps) := by
  obtain ⟨current, hcurrent, hmem⟩ := h
  have hne := ne_nil_of_mem hmem
  refine ⟨.map (flatten (spEntries sp.supportedProfiles current)), ?_, ?_⟩
  · unfold spToCBORPayload
    rw [if_neg hne, hcurrent]
    exact CborItem.closeMap_eq rfl
  · have hread : supportedProfilesFromCBOR (sp.supportedProfiles.map Item.text)
        = some sp.supportedProfiles := by
      unfold supportedProfilesFromCBOR
      rw [if_neg (fun h => hne (map_eq_nil_iff.mp h)), extractProfiles_map,
        if_pos (length_map _).symm]
    unfold cborPayloadToSp
    dsimp only [Item.content]
    rw [CborItem.walk_flatten, spEntries]
    simp only [eachEntry, decodeSpKey, hread, if_true, reduceIte, String.reduceEq]
    rw [← hcurrent]
    rfl

/-! ## The storage -/

section Storage

variable {cbor : TinyCbor} {bytes : SpBytes}

lemma readResource_rewritten (h : cbor.Lawful) (medium : Medium) (database : List UInt8)
    {data : List UInt8} (hdata : data ≠ []) :
    readResource cbor (rewritten cbor medium database data) .sp = some data :=
  readResource_newFile h medium database .sp hdata

lemma rewritten_ne_nil (h : cbor.Lawful) (medium : Medium) (database data : List UInt8) :
    rewritten cbor medium database data ≠ [] :=
  newFile_ne_nil h medium database .sp data

lemma updateSp_cases (h : cbor.Lawful) (medium : Medium) (database : List UInt8)
    {data : List UInt8} (hdata : data ≠ []) :
    (Unwritten cbor medium database
        ∧ updateResourceInPS cbor medium database .sp data = ⟨.ok, database, false⟩)
      ∨ (¬ Unwritten cbor medium database ∧ medium.allocOk = false
        ∧ updateResourceInPS cbor medium database .sp data = ⟨.error, database, false⟩)
      ∨ (¬ Unwritten cbor medium database ∧ medium.allocOk = true
        ∧ updateResourceInPS cbor medium database .sp data
          = ⟨(writePayloadToPS medium.write database (rewritten cbor medium database data)).1,
            (writePayloadToPS medium.write database (rewritten cbor medium database data)).2.1,
            (writePayloadToPS medium.write database (rewritten cbor medium database data)).2.2⟩) :=
  updateResourceInPS_cases h medium database .sp hdata

lemma storedSp_of_read (hbytes : bytes.Lawful) {database : List UInt8} {sp : OicSecSp}
    (hvalid : SpValid sp) (hread : readResource cbor database .sp = some (dataOf bytes sp)) :
    storedSp cbor bytes database = some (sp, gAllProps) := by
  obtain ⟨payload, hpayload, hdecoded⟩ := spToCBORPayload_read hvalid
  have hdata : dataOf bytes sp = bytes.write payload := by
    unfold dataOf
    rw [hpayload]
    rfl
  unfold storedSp
  rw [hread, hdata, Option.bind_some, hbytes.read_write sp payload hpayload,
    Option.bind_some, hdecoded]
  rfl

lemma updatePersistentStorage_iff (h : cbor.Lawful) (hbytes : bytes.Lawful) (medium : Medium)
    (database : List UInt8) {sp : OicSecSp} (hvalid : SpValid sp) :
    (((updatePersistentStorage cbor bytes medium sp database).1 = true →
        storedSp cbor bytes (updatePersistentStorage cbor bytes medium sp database).2
          = some (sp, gAllProps))
      ∧ ((updatePersistentStorage cbor bytes medium sp database).1 = false →
        storedSp cbor bytes (updatePersistentStorage cbor bytes medium sp database).2
          = storedSp cbor bytes database))
      ↔ StorageClean cbor bytes medium database sp := by
  obtain ⟨payload, hpayload, -⟩ := spToCBORPayload_read hvalid
  have hdata : dataOf bytes sp = bytes.write payload := by
    unfold dataOf
    rw [hpayload]
    rfl
  have hne : dataOf bytes sp ≠ [] := by
    rw [hdata]
    exact hbytes.write_ne_nil payload
  have hupdated : updatePersistentStorage cbor bytes medium sp database
      = (decide ((updateResourceInPS cbor medium database .sp (dataOf bytes sp)).result = .ok),
        (updateResourceInPS cbor medium database .sp (dataOf bytes sp)).database) := by
    unfold updatePersistentStorage
    rw [hpayload, hdata]
  rw [hupdated]
  unfold StorageClean
  obtain ⟨hunwritten, hcall⟩ | ⟨hwritten, halloc, hcall⟩ | ⟨hwritten, halloc, hcall⟩ :=
    updateSp_cases h medium database hne
  · rw [hcall]
    constructor
    · rintro ⟨hok, -⟩
      exact ⟨fun _ => hok rfl, fun hno => absurd hunwritten hno⟩
    · rintro ⟨hthere, -⟩
      exact ⟨fun _ => hthere hunwritten, fun hno => Bool.noConfusion hno⟩
  · rw [hcall]
    refine iff_of_true ⟨fun hyes => Bool.noConfusion hyes, fun _ => rfl⟩
      ⟨fun hyes => absurd hyes hwritten, fun _ hyes => ?_⟩
    exact Bool.noConfusion (halloc.symm.trans hyes)
  · have hout := rewritten_ne_nil h medium database (dataOf bytes sp)
    rw [hcall]
    cases hwrite : medium.write with
    | openFailed =>
      rw [writePayloadToPS, if_neg hout]
      exact iff_of_true ⟨fun hyes => Bool.noConfusion hyes, fun _ => rfl⟩
        ⟨fun hyes => absurd hyes hwritten, fun _ _ _ hcut => WriteOutcome.noConfusion hcut⟩
    | short n =>
      rw [writePayloadToPS, if_neg hout]
      constructor
      · rintro ⟨-, hkept⟩
        refine ⟨fun hyes => absurd hyes hwritten, fun _ _ n' hn' => ?_⟩
        rw [← WriteOutcome.short.inj hn']
        exact hkept rfl
      · rintro ⟨-, hcut⟩
        exact ⟨fun hyes => Bool.noConfusion hyes, fun _ => hcut hwritten halloc n rfl⟩
    | complete =>
      rw [writePayloadToPS, if_neg hout]
      refine iff_of_true ⟨fun _ => ?_, fun hno => Bool.noConfusion hno⟩
        ⟨fun hyes => absurd hyes hwritten, fun _ _ _ hcut => WriteOutcome.noConfusion hcut⟩
      exact storedSp_of_read hbytes hvalid (readResource_rewritten h medium database hne)

end Storage

/-! ## One POST -/

section Steps

variable {cbor : TinyCbor} {bytes : SpBytes}

lemma applyUpdate_eq (cbor : TinyCbor) (bytes : SpBytes) (medium : Medium)
    (spUpdate : OicSecSp) (store : SpStore) :
    (¬ SpValid spUpdate ∧ applyUpdate cbor bytes medium spUpdate store = (.notAcceptable, store))
      ∨ (SpValid spUpdate ∧ applyUpdate cbor bytes medium spUpdate store
          = if (updatePersistentStorage cbor bytes medium spUpdate store.database).1 then
              (.ok, ⟨spUpdate,
                (updatePersistentStorage cbor bytes medium spUpdate store.database).2⟩)
            else (.notAcceptable,
              { store with
                database := (updatePersistentStorage cbor bytes medium spUpdate
                  store.database).2 })) := by
  unfold applyUpdate
  cases hcurrent : spUpdate.currentProfile with
  | none =>
    refine .inl ⟨?_, rfl⟩
    rintro ⟨current, hsome, -⟩
    exact nomatch hcurrent.symm.trans hsome
  | some current =>
    dsimp only
    by_cases hmem : current ∈ spUpdate.supportedProfiles
    · have hvalid : SpValid spUpdate := ⟨current, hcurrent, hmem⟩
      have hsome := (profileIdx_isSome_iff spUpdate.supportedProfiles current).mpr hmem
      have hrequired := (requiredSpProps_iff spUpdate gAllProps).mpr ⟨rfl, hvalid⟩
      have hfound : ¬ (profileIdx spUpdate.supportedProfiles current).isNone = true := by
        rw [Option.isNone_iff_eq_none, ← Option.not_isSome_iff_eq_none, not_not]
        exact hsome
      rw [if_neg hfound, if_neg (not_not.mpr hrequired)]
      exact .inr ⟨hvalid, rfl⟩
    have hnone : (profileIdx spUpdate.supportedProfiles current).isNone = true := by
      rw [Option.isNone_iff_eq_none, ← Option.not_isSome_iff_eq_none, profileIdx_isSome_iff]
      exact hmem
    rw [if_pos hnone]
    refine .inl ⟨?_, rfl⟩
    rintro ⟨current', hsome, hmem'⟩
    rw [← some.inj (hcurrent.symm.trans hsome)] at hmem'
    exact hmem hmem'

variable {post : SpPost}

lemma handleSpPostRequest_not_admitted (store : SpStore) (h : ∀ payload, ¬ Admits post payload) :
    handleSpPostRequest cbor bytes post store = (some .notAcceptable, store) := by
  unfold handleSpPostRequest
  cases hdos : post.dos with
  | none => rfl
  | some dos =>
    dsimp only
    by_cases hstate : dos.state = .reset ∨ dos.state = .rfnop
    · rw [if_pos hstate]
    rw [if_neg hstate]
    cases hpayload : post.payload with
    | none => rfl
    | some payload =>
      exact absurd ⟨⟨dos, hdos, fun h => hstate (.inl h), fun h => hstate (.inr h)⟩,
        hpayload⟩ (h payload)

lemma handleSpPostRequest_admitted (cbor : TinyCbor) (bytes : SpBytes) (store : SpStore)
    {payload : Item} (h : Admits post payload) :
    handleSpPostRequest cbor bytes post store
      = match cborPayloadToSp payload with
        | .error .error => (some .notAcceptable, store)
        | .error _ => (none, store)
        | .ok (spIncoming, decodedProperties) =>
          (some (applyUpdate cbor bytes post.medium
              (mergedSp store.gSp spIncoming decodedProperties) store).1,
            (applyUpdate cbor bytes post.medium
              (mergedSp store.gSp spIncoming decodedProperties) store).2) := by
  obtain ⟨⟨dos, hdos, hreset, hrfnop⟩, hpayload⟩ := h
  unfold handleSpPostRequest
  rw [hdos, hpayload]
  dsimp only
  exact (if_neg (·.elim hreset hrfnop)).trans rfl

lemma Admits.payload_eq {payload payload' : Item} (h : Admits post payload)
    (h' : Admits post payload') : payload' = payload :=
  some.inj (h'.2.symm.trans h.2)

variable {store : SpStore}

lemma postExact_refused (hvalid : SpValid store.gSp)
    (h : handleSpPostRequest cbor bytes post store = (some .notAcceptable, store)) :
    PostExact cbor bytes store post :=
  ⟨_, _, h, hvalid, fun _ => ⟨rfl, rfl⟩, nofun⟩

lemma postExact_iff (hcbor : cbor.Lawful) (hbytes : bytes.Lawful) (hvalid : SpValid store.gSp)
    (post : SpPost) :
    PostExact cbor bytes store post ↔ PostClean cbor bytes store post := by
  by_cases hadmitted : ∃ payload, Admits post payload
  · obtain ⟨payload, hadmits⟩ := hadmitted
    have hhandle := handleSpPostRequest_admitted cbor bytes store hadmits
    have hreturns := cborPayloadToSp_returns_iff payload
    -- The only payload that counts is this one.
    have hlegible : (∀ payload', Admits post payload' → Legible payload') ↔ Legible payload :=
      ⟨fun h => h payload hadmits, fun h payload' h' => by rwa [hadmits.payload_eq h']⟩
    unfold PostClean
    rw [hlegible, ← hreturns]
    cases hdecoded : cborPayloadToSp payload with
    | error ending =>
      rw [hdecoded] at hhandle
      have hnone : ∀ sp, ¬ Accepts store.gSp post sp := by
        rintro sp ⟨payload', spIncoming, props, hadmits', hok, -⟩
        rw [hadmits.payload_eq hadmits', hdecoded] at hok
        exact nomatch hok
      have hvacuous : ∀ sp, Accepts store.gSp post sp →
          StorageClean cbor bytes post.medium store.database sp :=
        fun sp hsp => absurd hsp (hnone sp)
      rw [and_iff_left hvacuous]
      cases ending with
      | error => exact iff_of_true (postExact_refused hvalid hhandle) (.inl rfl)
      | aborts =>
        refine iff_of_false ?_ (fun h => h.elim nofun (fun ⟨_, h⟩ => nomatch h))
        rintro ⟨answer, store', hresult, -⟩
        exact nomatch (Prod.mk.inj (hhandle.symm.trans hresult)).1
      | hangs =>
        refine iff_of_false ?_ (fun h => h.elim nofun (fun ⟨_, h⟩ => nomatch h))
        rintro ⟨answer, store', hresult, -⟩
        exact nomatch (Prod.mk.inj (hhandle.symm.trans hresult)).1
    | ok decoded =>
      obtain ⟨spIncoming, props⟩ := decoded
      rw [hdecoded] at hhandle
      dsimp only at hhandle
      rw [and_iff_right (.inr ⟨_, rfl⟩)]
      obtain ⟨hinvalid, happlied⟩ | ⟨hmerged, happlied⟩ := applyUpdate_eq cbor bytes
        post.medium (mergedSp store.gSp spIncoming props) store
      · rw [happlied] at hhandle
        refine iff_of_true (postExact_refused hvalid hhandle) ?_
        rintro sp ⟨payload', spIncoming', props', hadmits', hok, rfl, hsp⟩
        rw [hadmits.payload_eq hadmits', hdecoded] at hok
        obtain ⟨rfl, rfl⟩ := Prod.mk.inj (Except.ok.inj hok)
        exact absurd hsp hinvalid
      have haccepts : Accepts store.gSp post (mergedSp store.gSp spIncoming props) :=
        ⟨payload, spIncoming, props, hadmits, hdecoded, rfl, hmerged⟩
      have honly : (∀ sp, Accepts store.gSp post sp →
            StorageClean cbor bytes post.medium store.database sp)
          ↔ StorageClean cbor bytes post.medium store.database
            (mergedSp store.gSp spIncoming props) := by
        constructor
        · exact fun h => h _ haccepts
        · rintro h sp ⟨payload', spIncoming', props', hadmits', hok, rfl, -⟩
          rw [hadmits.payload_eq hadmits', hdecoded] at hok
          obtain ⟨rfl, rfl⟩ := Prod.mk.inj (Except.ok.inj hok)
          exact h
      rw [happlied] at hhandle
      rw [honly, ← updatePersistentStorage_iff hcbor hbytes post.medium store.database hmerged]
      generalize updatePersistentStorage cbor bytes post.medium
        (mergedSp store.gSp spIncoming props) store.database = updated at hhandle
      obtain ⟨written, database⟩ := updated
      cases written with
      | true =>
        rw [if_pos rfl] at hhandle
        constructor
        · rintro ⟨answer, store', hresult, -, -, hok⟩
          obtain ⟨hanswer, rfl⟩ := Prod.mk.inj (hhandle.symm.trans hresult)
          exact ⟨fun _ => (hok (some.inj hanswer).symm).2, nofun⟩
        · rintro ⟨hthere, -⟩
          exact ⟨_, _, hhandle, hmerged, nofun, fun _ => ⟨haccepts, hthere rfl⟩⟩
      | false =>
        rw [if_neg nofun] at hhandle
        constructor
        · rintro ⟨answer, store', hresult, -, hkept, -⟩
          obtain ⟨hanswer, rfl⟩ := Prod.mk.inj (hhandle.symm.trans hresult)
          exact ⟨nofun, fun _ => (hkept (some.inj hanswer).symm).2⟩
        · rintro ⟨-, hkept⟩
          exact ⟨_, _, hhandle, hvalid, fun _ => ⟨rfl, hkept rfl⟩, nofun⟩
  · have hno : ∀ payload, ¬ Admits post payload := fun payload h => hadmitted ⟨payload, h⟩
    refine iff_of_true
      (postExact_refused hvalid (handleSpPostRequest_not_admitted store hno)) ⟨?_, ?_⟩
    · exact fun payload h => absurd h (hno payload)
    · rintro sp ⟨payload, -, -, hadmits, -⟩
      exact absurd hadmits (hno payload)

lemma PostExact.valid (h : PostExact cbor bytes store post) :
    SpValid (spStep cbor bytes store post).1.gSp := by
  obtain ⟨answer, store', hresult, hvalid, -⟩ := h
  unfold spStep
  rw [hresult]
  exact hvalid

end Steps

/-! ## Runs -/

/-- What the resource starts with: the default, or what it has found in the storage and
`RequiredSpPropsPresentAndValid` accepts. -/
def StartsWith (cbor : TinyCbor) (bytes : SpBytes) (store : SpStore) : Prop :=
  store.gSp = gDefaultSp ∨ ∃ props, storedSp cbor bytes store.database = some (store.gSp, props)
      ∧ requiredSpPropsPresentAndValid store.gSp props = true

/-- **The POSTs of a run are right** exactly when they are clean. -/
theorem posts_exact_iff {cbor : TinyCbor} {bytes : SpBytes} (hcbor : cbor.Lawful)
    (hbytes : bytes.Lawful) (store : SpStore) (hstart : StartsWith cbor bytes store)
    (posts : List SpPost) :
    Runs.Along (spStep cbor bytes) (PostExact cbor bytes) store posts
      ↔ Runs.Along (spStep cbor bytes) (PostClean cbor bytes) store posts := by
  have hvalid : SpValid store.gSp := by
    rcases hstart with hdefault | ⟨props, -, hrequired⟩
    · rw [hdefault]
      exact gDefaultSp_valid
    · exact ((requiredSpProps_iff store.gSp props).mp hrequired).2
  exact Runs.along_iff (fun store => SpValid store.gSp)
    (fun store post hvalid _ => ⟨postExact_iff hcbor hbytes hvalid post,
      fun hclean => ((postExact_iff hcbor hbytes hvalid post).mpr hclean).valid⟩)
    hvalid (Runs.along_true store posts)

def secondProfilePost (medium : Medium) : SpPost where
  dos := some ⟨.rfpro, false⟩
  payload := some (.map [.text "supportedprofiles",
    .array [.text "1.3.6.1.4.1.51414.0.1.0", .text "1.3.6.1.4.1.51414.0.2.0"]])
  medium := medium

def secondProfileSp : OicSecSp :=
  ⟨["1.3.6.1.4.1.51414.0.1.0", "1.3.6.1.4.1.51414.0.2.0"], some "1.3.6.1.4.1.51414.0.1.0"⟩

lemma secondProfilePost_accepts (medium : Medium) (sp : OicSecSp) :
    Accepts gDefaultSp (secondProfilePost medium) sp ↔ sp = secondProfileSp := by
  have hdecoded : cborPayloadToSp (.map [.text "supportedprofiles",
      .array [.text "1.3.6.1.4.1.51414.0.1.0", .text "1.3.6.1.4.1.51414.0.2.0"]])
      = .ok (⟨["1.3.6.1.4.1.51414.0.1.0", "1.3.6.1.4.1.51414.0.2.0"], none⟩, ⟨true, false⟩) := rfl
  constructor
  · rintro ⟨payload, spIncoming, props, hadmits, hok, rfl, -⟩
    rw [← some.inj hadmits.2, hdecoded] at hok
    obtain ⟨rfl, rfl⟩ := Prod.mk.inj (Except.ok.inj hok)
    rfl
  · rintro rfl
    exact ⟨_, _, _, ⟨⟨_, rfl, nofun, nofun⟩, rfl⟩, hdecoded, rfl, _, rfl, mem_cons_self⟩

def defaultDatabase : List UInt8 :=
  TinyCbor.standard.encodeMap [(SvrName.sp.json, dataOf SpBytes.standard gDefaultSp)]

lemma defaultDatabase_whole (name : SvrName) :
    TinyCbor.standard.find defaultDatabase name.json ≠ .broken := by
  rw [defaultDatabase, TinyCbor.standard_lawful.find_encodeMap]
  split
  · exact nofun
  · exact nofun

lemma defaultDatabase_stored :
    storedSp TinyCbor.standard SpBytes.standard defaultDatabase = some (gDefaultSp, gAllProps) := by
  refine storedSp_of_read SpBytes.standard_lawful gDefaultSp_valid ?_
  have hread := readResource_encodeMap TinyCbor.standard_lawful
    [(SvrName.sp.json, dataOf SpBytes.standard gDefaultSp)] .sp
  rwa [find?_cons, beq_self_eq_true] at hread

theorem failing_storage_diverges :
    StartsWith TinyCbor.standard SpBytes.standard ⟨gDefaultSp, defaultDatabase⟩
      ∧ ¬ Runs.Along (spStep TinyCbor.standard SpBytes.standard)
        (PostExact TinyCbor.standard SpBytes.standard) ⟨gDefaultSp, defaultDatabase⟩
        [secondProfilePost ⟨true, false, [], .complete⟩]
      ∧ ¬ Runs.Along (spStep TinyCbor.standard SpBytes.standard)
        (PostExact TinyCbor.standard SpBytes.standard) ⟨gDefaultSp, defaultDatabase⟩
        [secondProfilePost ⟨true, true, [], .short 0⟩] := by
  have hne : defaultDatabase ≠ [] := TinyCbor.standard_lawful.encodeMap_ne_nil _
  have hthere : ∀ medium : Medium, medium.readOk = true →
      readDatabase medium defaultDatabase = some defaultDatabase :=
    fun medium hread => if_pos ⟨hne, hread⟩
  refine ⟨.inl rfl, ?_, ?_⟩
  · rintro ⟨hexact, -⟩
    rw [postExact_iff TinyCbor.standard_lawful SpBytes.standard_lawful gDefaultSp_valid] at hexact
    have hclean := hexact.2 _ ((secondProfilePost_accepts _ _).mpr rfl)
    have hstored := hclean.1 ⟨by rw [hthere _ rfl]; exact nofun, .inr rfl⟩
    rw [defaultDatabase_stored] at hstored
    exact absurd hstored (by decide)
  · rintro ⟨hexact, -⟩
    rw [postExact_iff TinyCbor.standard_lawful SpBytes.standard_lawful gDefaultSp_valid] at hexact
    have hclean := hexact.2 _ ((secondProfilePost_accepts _ _).mpr rfl)
    have hwritten : ¬ Unwritten TinyCbor.standard ⟨true, true, [], .short 0⟩ defaultDatabase := by
      rintro ⟨-, ⟨name, -, hbroken⟩ | halloc⟩
      · exact defaultDatabase_whole name hbroken
      · exact nomatch halloc
    have hcut := hclean.2 hwritten rfl 0 rfl
    rw [Nat.zero_min, take_zero] at hcut
    rw [show storedSp TinyCbor.standard SpBytes.standard
      (⟨gDefaultSp, defaultDatabase⟩ : SpStore).database = _ from defaultDatabase_stored] at hcut
    exact nomatch hcut

theorem secondProfile_stored :
    Runs.Along (spStep TinyCbor.standard SpBytes.standard)
      (PostExact TinyCbor.standard SpBytes.standard) ⟨gDefaultSp, []⟩
      [secondProfilePost Medium.reliable] :=
  (posts_exact_iff TinyCbor.standard_lawful SpBytes.standard_lawful ⟨gDefaultSp, []⟩ (.inl rfl)
    [secondProfilePost Medium.reliable]).mpr (by
      refine ⟨⟨?_, ?_⟩, trivial⟩
      · rintro payload ⟨-, hpayload⟩
        rw [← some.inj hpayload]
        exact (cborPayloadToSp_returns_iff _).mp (.inr ⟨_, rfl⟩)
      · intro sp hsp
        refine ⟨fun hunwritten => absurd rfl hunwritten.1, fun _ _ n hshort => ?_⟩
        exact nomatch hshort)

end Iochibity.Sec.Sp
