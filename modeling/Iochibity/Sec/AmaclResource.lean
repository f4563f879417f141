/-
The access manager lists, `amaclresource.c`.
-/
import Iochibity.Lib.CborCursor
import Iochibity.Ocf.RepPayload
import Iochibity.Sec.PersistentStorage

namespace Iochibity.Sec.Amacl

open Coap (CString)
open CborCursor (Item Stop dupText andThen enter walk each startsMalformed)

section

section

/-- `OicSecAmacl_t`: the number of resources, and the slots for them that there are. -/
structure OicSecAmacl where
  resourcesLen : ℕ
  resources : List (Option CString)
  deriving DecidableEq

def oicJsonResourcesName : CString := .const "resources"
def oicJsonRlistName : CString := .const "rlist"
def oicJsonHrefName : CString := .const "href"
def oicJsonRtName : CString := .const "rt"
def oicJsonIfName : CString := .const "if"

structure AmaclBytes where
  write : Item → List UInt8
  read : List UInt8 → Item

/-! ## Decoding -/

inductive Exit
  | noMemory
  | overflow
  deriving DecidableEq

/-- An entry of `rMap`. The name goes to the slot with the running number. -/
def rMapEntry : OicSecAmacl × ℕ → List UInt8 → Option Item →
    (OicSecAmacl × ℕ) × Option (Stop Exit)
  | (headAmacl, i), rMapName, value =>
    if CString.ofBytes rMapName = oicJsonHrefName then
      match dupText value with
      | .error stop => ((headAmacl, i), some stop)
      | .ok text =>
        if i < headAmacl.resources.length then
          (({ headAmacl with
              resources := headAmacl.resources.set i (some (CString.ofBytes text)) }, i + 1),
            none)
        else ((headAmacl, i), some (.ending .overflow))
    else if CString.ofBytes rMapName = oicJsonRtName ∨ CString.ofBytes rMapName = oicJsonIfName then
      match dupText value with
      | .error stop => ((headAmacl, i), some stop)
      | .ok _ => ((headAmacl, i), none)
    else ((headAmacl, i), none)

/-- An element of `rsrcArray`. -/
def rsrcArrayItem (s : OicSecAmacl × ℕ) (item : Item) :
    (OicSecAmacl × ℕ) × Option (Stop Exit) :=
  match enter (some item) with
  | .error stop => (s, some stop)
  | .ok rMap => walk rMapEntry s rMap

variable (headAmacl : OicSecAmacl)

/-- What is done with the value of `rlist`. -/
def readRlist : Option Item → OicSecAmacl × Option (Stop Exit)
  | some (.array none _) => (headAmacl, some .error)
  | some (.array (some length) items) =>
    match enter (some (.array (some length) items)) with
    | .error stop => ({ headAmacl with resourcesLen := length }, some stop)
    | .ok rsrcArray =>
      if length = 0 then (⟨0, []⟩, some (.ending .noMemory))
      else
        let read := each rsrcArrayItem (⟨length, List.replicate length none⟩, 0) rsrcArray
        (read.1.1, read.2)
  | _ => (headAmacl, some .assertion)

def rsrcMapEntry (rsrcName : List UInt8) (value : Option Item) : OicSecAmacl × Option (Stop Exit) :=
  if CString.ofBytes rsrcName = oicJsonRlistName then readRlist headAmacl value
  else (headAmacl, none)

def readResources (value : Option Item) : OicSecAmacl × Option (Stop Exit) :=
  match enter value with
  | .error stop => (headAmacl, some stop)
  | .ok rsrcMap => walk rsrcMapEntry headAmacl rsrcMap

/-- The loop over `amaclMap`: behind a name it goes on with the value. -/
def readAmaclMap (headAmacl : OicSecAmacl) : List Item → OicSecAmacl × Option (Stop Exit)
  | .text none :: _ => (headAmacl, some .error)
  | .text (some name) :: rest =>
    if startsMalformed rest then (headAmacl, some .error)
    else
      andThen
        (if CString.ofBytes name = oicJsonResourcesName then
            readResources headAmacl rest.head?
          else (headAmacl, none))
        fun headAmacl => readAmaclMap headAmacl rest
  | _ => (headAmacl, none)

/-- What `CBORPayloadToAmacl` gives: a list, an error, or nothing that C defines. -/
inductive Decoded
  | ok (amacl : OicSecAmacl)
  | error
  | fault
  deriving DecidableEq

/-- The end of `CBORPayloadToAmacl`. After an error `DeleteAmaclList` releases as many resources as
`resourcesLen` says. -/
def finish : OicSecAmacl × Option (Stop Exit) → Decoded
  | (headAmacl, none) => .ok headAmacl
  | (headAmacl, some .error) =>
    if headAmacl.resourcesLen ≤ headAmacl.resources.length then .error else .fault
  | (_, some (.ending .noMemory)) => .error
  | (_, some .assertion) => .fault
  | (_, some (.ending .overflow)) => .fault

/-- The part of `CBORPayloadToAmacl` behind the parser. -/
def readAmacl (amaclCbor : Item) : OicSecAmacl × Option (Stop Exit) :=
  match enter (some amaclCbor) with
  | .error stop => (⟨0, []⟩, some stop)
  | .ok amaclMap => readAmaclMap ⟨0, []⟩ amaclMap

section Codec

variable (bytes : AmaclBytes)

def cborPayloadToAmacl (cborPayload : List UInt8) : Decoded :=
  if cborPayload = [] then .error else finish (readAmacl (bytes.read cborPayload))

def textItem (text : CString) : Item := .text (some text.bytes)

def oicJsonEmptyString : CString := .const ""

def rMapItem (resource : CString) : Item :=
  .map [textItem oicJsonHrefName, textItem resource,
    textItem oicJsonRtName, textItem oicJsonEmptyString,
    textItem oicJsonIfName, textItem oicJsonEmptyString]

def amaclItem (resources : List CString) : Item :=
  .map [textItem oicJsonResourcesName,
    .map [textItem oicJsonRlistName, .array (some resources.length) (resources.map rMapItem)]]

def OicSecAmacl.names (amacl : OicSecAmacl) : Option (List CString) :=
  if amacl.resourcesLen ≤ amacl.resources.length then
    (amacl.resources.take amacl.resourcesLen).mapM id
  else none

/-- `AmaclToCBORPayload` of a list. What does not fit is tried again, in a buffer that it fits. -/
def amaclToCBORPayload (amacl : OicSecAmacl) : Option (List UInt8) :=
  amacl.names.map fun resources => bytes.write (amaclItem resources)

/-- `gAmacl`, as the nodes that are linked, and the security database. -/
structure AmaclStore where
  gAmacl : List OicSecAmacl
  database : List UInt8
  deriving DecidableEq

structure AmaclPost where
  payload : Option (List UInt8)
  medium : Medium

/-- The answers that `HandleAmaclPostRequest` gives. -/
inductive AmaclAnswer
  | created
  | error
  deriving DecidableEq

variable (cbor : TinyCbor)

/-- `HandleAmaclPostRequest` with a new list: the list comes last, the first one is encoded. -/
def appendAmacl (medium : Medium) (store : AmaclStore) (newAmacl : OicSecAmacl) :
    Option (AmaclAnswer × AmaclStore) :=
  let gAmacl := store.gAmacl ++ [newAmacl]
  (amaclToCBORPayload bytes (gAmacl.headD newAmacl)).map fun cborPayload =>
    let updated := updateResourceInPS cbor medium store.database .amacl cborPayload
    (if updated.result = .ok then .created else .error, ⟨gAmacl, updated.database⟩)

def handleAmaclPostRequest (post : AmaclPost) (store : AmaclStore) :
    Option (AmaclAnswer × AmaclStore) :=
  match post.payload with
  | none => some (.error, store)
  | some payload =>
    match cborPayloadToAmacl bytes payload with
    | .fault => none
    | .error => some (.error, store)
    | .ok newAmacl => appendAmacl bytes cbor post.medium store newAmacl

end Codec

end

open CborCursor (Agrees Item Stop andThen dupText each enter maxRecursions startsMalformed walk
  walk_agrees walk_mono walk_nil walk_step walk_stop)
open List

variable {lists : List RList} {list : RList}

/-! ## What a payload says -/

/-- A list that is met in a payload: its length, whether its first element can be moved onto, and
the texts behind `href`. -/
structure RList where
  length : ℕ
  entered : Bool
  names : List CString

def RList.Fits (list : RList) : Prop := list.names.length ≤ list.length

abbrev Reading := List RList × Option (Stop Exit)

def elementEntry (list : RList) (name : List UInt8) (value : Option Item) :
    RList × Option (Stop Exit) :=
  if CString.ofBytes name = oicJsonHrefName then
    match dupText value with
    | .error stop => (list, some stop)
    | .ok text => ({ list with names := list.names ++ [CString.ofBytes text] }, none)
  else if CString.ofBytes name = oicJsonRtName ∨ CString.ofBytes name = oicJsonIfName then
    match dupText value with
    | .error stop => (list, some stop)
    | .ok _ => (list, none)
  else (list, none)

def element (list : RList) (item : Item) : RList × Option (Stop Exit) :=
  match enter (some item) with
  | .error stop => (list, some stop)
  | .ok entries => walk elementEntry list entries

section

variable (lists : List RList)

/-- The value of `rlist`. -/
def rlistReading : Option Item → Reading
  | some (.array none _) => (lists, some .error)
  | some (.array (some length) items) =>
    match enter (some (.array (some length) items)) with
    | .error stop => (⟨length, false, []⟩ :: lists, some stop)
    | .ok elements =>
      if length = 0 then (⟨0, true, []⟩ :: lists, some (.ending .noMemory))
      else
        let read := each element ⟨length, true, []⟩ elements
        (read.1 :: lists, read.2)
  | _ => (lists, some .assertion)

def resourcesEntry (name : List UInt8) (value : Option Item) : Reading :=
  if CString.ofBytes name = oicJsonRlistName then rlistReading lists value else (lists, none)

def resourcesReading (value : Option Item) : Reading :=
  match enter value with
  | .error stop => (lists, some stop)
  | .ok entries => walk resourcesEntry lists entries

/-- The outermost map, as the decoder goes over it: each text at its start may be `resources`. -/
def mapReading (lists : List RList) : List Item → Reading
  | .text none :: _ => (lists, some .error)
  | .text (some name) :: rest =>
    if startsMalformed rest then (lists, some .error)
    else
      andThen
        (if CString.ofBytes name = oicJsonResourcesName then resourcesReading lists rest.head?
          else (lists, none))
        fun lists => mapReading lists rest
  | _ => (lists, none)

def reading (item : Item) : Reading :=
  match enter (some item) with
  | .error stop => ([], some stop)
  | .ok entries => mapReading [] entries

def RList.slots (list : RList) : List (Option CString) :=
  list.names.map some ++ List.replicate (list.length - list.names.length) none

/-- The list that the decoder holds: the length of the last one, and the slots of the last one that
was entered. -/
def amaclOf : OicSecAmacl :=
  ⟨(lists.head?.map RList.length).getD 0, ((lists.find? RList.entered).map RList.slots).getD []⟩

def AllFit : Prop := ∀ list ∈ lists, list.Fits

end

/-! ## The decoder and the reading -/

section Agreement

def InList (s : OicSecAmacl × ℕ) (list : RList) : Prop :=
  list.entered = true ∧ s = (⟨list.length, list.slots⟩, list.names.length)

variable (headAmacl : OicSecAmacl)

def Between (lists : List RList) : Prop := headAmacl = amaclOf lists

lemma RList.length_slots (h : list.Fits) : list.slots.length = list.length := by
  have hle : list.names.length ≤ list.length := h
  rw [slots, length_append, length_map, length_replicate]
  omega

lemma RList.set_slots (h : list.names.length < list.length) (name : CString) :
    list.slots.set list.names.length (some name)
      = RList.slots { list with names := list.names ++ [name] } := by
  have hsucc : list.length - list.names.length
      = (list.length - (list.names.length + 1)) + 1 := by omega
  rw [slots, slots, hsucc, replicate_succ, set_append_right _ _ (by simp),
    length_map, Nat.sub_self, set_cons_zero]
  dsimp only
  rw [map_append, append_assoc, length_append]
  rfl

lemma elementEntry_mono (list : RList) (name : List UInt8) (value : Option Item)
    (h : (elementEntry list name value).1.Fits) : list.Fits := by
  rw [elementEntry] at h
  split_ifs at h with hhref hother
  · split at h
    · exact h
    have hle : (list.names ++ [_]).length ≤ list.length := h
    rw [length_append] at hle
    exact le_trans (Nat.le_add_right _ _) hle
  · split at h
    · exact h
    · exact h
  · exact h

lemma rMapEntry_agrees (s : OicSecAmacl × ℕ) (list : RList) (name : List UInt8)
    (value : Option Item) (hfits : list.Fits) (h : InList s list) :
    Agrees InList RList.Fits .overflow (rMapEntry s name value) (elementEntry list name value) := by
  obtain ⟨hentered, rfl⟩ := h
  rw [rMapEntry, elementEntry]
  by_cases hhref : CString.ofBytes name = oicJsonHrefName
  · rw [if_pos hhref, if_pos hhref]
    cases dupText value with
    | error stop => exact Agrees.same hfits ⟨hentered, rfl⟩ _
    | ok text =>
      dsimp only
      rw [RList.length_slots hfits]
      by_cases hlt : list.names.length < list.length
      · rw [if_pos hlt, RList.set_slots hlt]
        have hfits' : RList.Fits { list with names := list.names ++ [CString.ofBytes text] } := by
          rw [RList.Fits, length_append]
          exact hlt
        refine Agrees.same hfits' ⟨hentered, ?_⟩ _
        rw [length_append]
        rfl
      rw [if_neg hlt]
      refine ⟨fun hno => absurd ?_ hlt, fun _ => rfl⟩
      have hle : (list.names ++ [CString.ofBytes text]).length ≤ list.length := hno
      rw [length_append] at hle
      exact hle
  rw [if_neg hhref, if_neg hhref]
  by_cases hother : CString.ofBytes name = oicJsonRtName ∨ CString.ofBytes name = oicJsonIfName
  · rw [if_pos hother, if_pos hother]
    cases dupText value with
    | error | ok => exact Agrees.same hfits ⟨hentered, rfl⟩ _
  rw [if_neg hother, if_neg hother]
  exact Agrees.same hfits ⟨hentered, rfl⟩ _

lemma element_mono (list : RList) (item : Item) (h : (element list item).1.Fits) :
    list.Fits := by
  rw [element] at h
  split at h
  · exact h
  · exact walk_mono elementEntry_mono _ _ h

lemma rsrcArrayItem_agrees (s : OicSecAmacl × ℕ) (list : RList) (item : Item)
    (hfits : list.Fits) (h : InList s list) :
    Agrees InList RList.Fits .overflow (rsrcArrayItem s item) (element list item) := by
  rw [rsrcArrayItem, element]
  cases enter (some item) with
  | error stop => exact Agrees.same hfits h _
  | ok entries =>
    exact walk_agrees elementEntry_mono rMapEntry_agrees entries s list hfits h

lemma allFit_of_cons (h : AllFit (list :: lists)) :
    AllFit lists := fun l hl => h l (mem_cons_of_mem list hl)

lemma rlistReading_mono (lists : List RList) (value : Option Item)
    (h : AllFit (rlistReading lists value).1) : AllFit lists := by
  unfold rlistReading at h
  split at h
  · exact h
  · split at h
    · exact allFit_of_cons h
    split_ifs at h
    · exact allFit_of_cons h
    · exact allFit_of_cons h
  · exact h

lemma allFit_cons_empty (h : AllFit lists) (length : ℕ) (entered : Bool) :
    AllFit (⟨length, entered, []⟩ :: lists) := by
  intro list hlist
  obtain rfl | hlist := mem_cons.mp hlist
  · exact Nat.zero_le length
  · exact h list hlist

lemma agrees_between {headAmacl : OicSecAmacl} (hfits : AllFit lists)
    (h : headAmacl = amaclOf lists) (stop : Option (Stop Exit)) :
    Agrees Between AllFit .overflow (headAmacl, stop) (lists, stop) :=
  Agrees.same hfits h stop

lemma readRlist_agrees (lists : List RList) (value : Option Item) (hfits : AllFit lists)
    (h : Between headAmacl lists) :
    Agrees Between AllFit .overflow (readRlist headAmacl value) (rlistReading lists value) := by
  subst h
  match value with
  | none => exact agrees_between hfits rfl _
  | some (.text _) => exact agrees_between hfits rfl _
  | some (.map _) => exact agrees_between hfits rfl _
  | some .other => exact agrees_between hfits rfl _
  | some .malformed => exact agrees_between hfits rfl _
  | some (.array none _) => exact agrees_between hfits rfl _
  | some (.array (some length) items) =>
    rw [readRlist, rlistReading]
    generalize enter (some (Item.array (some length) items)) = elements
    cases elements with
    | error stop => exact agrees_between (allFit_cons_empty hfits length false) rfl _
    | ok elements =>
      dsimp only
      split_ifs with hzero
      · exact agrees_between (allFit_cons_empty hfits 0 true) rfl _
      · have hagrees := CborCursor.each_agrees element_mono rsrcArrayItem_agrees elements
          (⟨length, List.replicate length none⟩, 0) ⟨length, true, []⟩ (Nat.zero_le length)
          ⟨rfl, rfl⟩
        generalize each rsrcArrayItem _ elements = limited at hagrees ⊢
        generalize each element _ elements = free at hagrees ⊢
        refine ⟨fun hall => ?_, fun hno => hagrees.unfit (fun hfit => hno ?_)⟩
        · obtain ⟨⟨hentered, hs⟩, hstop⟩ := hagrees.fit (hall free.1 mem_cons_self)
          refine ⟨?_, hstop⟩
          rw [Between, hs, amaclOf, head?_cons, find?_cons_of_pos hentered]
          rfl
        · intro list hlist
          obtain rfl | hlist := mem_cons.mp hlist
          · exact hfit
          · exact hfits list hlist

lemma resourcesEntry_mono (lists : List RList) (name : List UInt8) (value : Option Item)
    (h : AllFit (resourcesEntry lists name value).1) : AllFit lists := by
  rw [resourcesEntry] at h
  split_ifs at h
  · exact rlistReading_mono lists value h
  · exact h

lemma rsrcMapEntry_agrees (lists : List RList) (name : List UInt8) (value : Option Item)
    (hfits : AllFit lists) (h : Between headAmacl lists) :
    Agrees Between AllFit .overflow (rsrcMapEntry headAmacl name value)
      (resourcesEntry lists name value) := by
  rw [rsrcMapEntry, resourcesEntry]
  split_ifs
  · exact readRlist_agrees headAmacl lists value hfits h
  · exact Agrees.same hfits h _

lemma resourcesReading_mono (lists : List RList) (value : Option Item)
    (h : AllFit (resourcesReading lists value).1) : AllFit lists := by
  rw [resourcesReading] at h
  split at h
  · exact h
  · exact walk_mono resourcesEntry_mono _ _ h

lemma readResources_agrees (lists : List RList) (value : Option Item) (hfits : AllFit lists)
    (h : Between headAmacl lists) :
    Agrees Between AllFit .overflow (readResources headAmacl value)
      (resourcesReading lists value) := by
  rw [readResources, resourcesReading]
  cases enter value with
  | error stop => exact Agrees.same hfits h _
  | ok entries =>
    exact walk_agrees resourcesEntry_mono rsrcMapEntry_agrees entries headAmacl lists hfits h

lemma mapReading_mono (items : List Item) (lists : List RList)
    (h : AllFit (mapReading lists items).1) : AllFit lists := by
  fun_induction mapReading lists items with
  | case1 => exact h
  | case2 => exact h
  | case3 lists name rest hmalformed ih =>
    have hfirst : AllFit (if CString.ofBytes name = oicJsonResourcesName then
        resourcesReading lists rest.head? else (lists, none)).1 := by
      rw [andThen] at h
      split at h
      · exact h
      · exact ih _ h
    split_ifs at hfirst
    · exact resourcesReading_mono lists _ hfirst
    · exact hfirst
  | case4 => exact h

lemma readAmaclMap_agrees (items : List Item) (headAmacl : OicSecAmacl) (lists : List RList)
    (hfits : AllFit lists) (h : Between headAmacl lists) :
    Agrees Between AllFit .overflow (readAmaclMap headAmacl items) (mapReading lists items) := by
  induction items generalizing headAmacl lists with
  | nil => exact agrees_between hfits h _
  | cons item rest ih =>
    match item with
    | .array _ _ => exact agrees_between hfits h _
    | .map _ => exact agrees_between hfits h _
    | .other => exact agrees_between hfits h _
    | .malformed => exact agrees_between hfits h _
    | .text none => exact agrees_between hfits h _
    | .text (some name) =>
      rw [readAmaclMap, mapReading]
      split_ifs with hmalformed hresources
      · exact agrees_between hfits h _
      · apply (readResources_agrees headAmacl lists rest.head? hfits h).andThen
        · intro hall
          rw [andThen] at hall
          split at hall
          · exact hall
          · exact mapReading_mono rest _ hall
        · exact ih
      · exact ih headAmacl lists hfits h

lemma readAmacl_agrees (item : Item) :
    Agrees Between AllFit .overflow (readAmacl item) (reading item) := by
  have hnone : AllFit [] := fun list hlist => absurd hlist not_mem_nil
  rw [readAmacl, reading]
  cases enter (some item) with
  | error stop => exact agrees_between hnone rfl _
  | ok entries => exact readAmaclMap_agrees entries ⟨0, []⟩ [] hnone rfl

end Agreement

/-! ## Within the slots -/

/-- The slots that are released after an error are there: the list that could not be entered is no
longer than the one before it. -/
def Released (lists : List RList) : Prop :=
  (lists.head?.map RList.length).getD 0 ≤ ((lists.find? RList.entered).map RList.length).getD 0

/-- **A payload does no harm**: no list has more texts than its length, nothing is of another type
than asked for, and what is released was there. -/
structure Bounded (item : Item) : Prop where
  fits : AllFit (reading item).1
  typed : (reading item).2 = none ∨ (reading item).2 = some .error
    ∨ (reading item).2 = some (.ending .noMemory)
  released : (reading item).2 = some .error → Released (reading item).1

lemma length_resources_amaclOf (h : AllFit lists) :
    (amaclOf lists).resources.length = ((lists.find? RList.entered).map RList.length).getD 0 := by
  rw [amaclOf]
  cases hfind : lists.find? RList.entered with
  | none => rfl
  | some list => exact RList.length_slots (h list (mem_of_find?_eq_some hfind))

lemma readAmacl_of_fits {item : Item} (h : AllFit (reading item).1) :
    readAmacl item = (amaclOf (reading item).1, (reading item).2) := by
  obtain ⟨hbetween, hstop⟩ := (readAmacl_agrees item).fit h
  exact Prod.ext hbetween hstop

lemma finish_readAmacl_iff (item : Item) : finish (readAmacl item) ≠ .fault ↔ Bounded item := by
  by_cases hfits : AllFit (reading item).1
  · rw [readAmacl_of_fits hfits]
    have hreleased : (amaclOf (reading item).1).resourcesLen
          ≤ (amaclOf (reading item).1).resources.length ↔ Released (reading item).1 := by
      rw [length_resources_amaclOf hfits]
      exact Iff.rfl
    constructor
    · intro hfinish
      match hstop : (reading item).2 with
      | none => exact ⟨hfits, by simp [hstop], by simp [hstop]⟩
      | some .error =>
        rw [hstop, finish] at hfinish
        refine ⟨hfits, by simp [hstop], fun _ => hreleased.mp ?_⟩
        by_contra hno
        exact hfinish (if_neg hno)
      | some .assertion =>
        rw [hstop, finish] at hfinish
        exact absurd rfl hfinish
      | some (.ending .noMemory) => exact ⟨hfits, by simp [hstop], by simp [hstop]⟩
      | some (.ending .overflow) =>
        rw [hstop, finish] at hfinish
        exact absurd rfl hfinish
    · rintro ⟨-, hstop | hstop | hstop, hrelease⟩
      · rw [hstop]
        exact fun hno => Decoded.noConfusion hno
      · rw [hstop, finish, if_pos (hreleased.mpr (hrelease hstop))]
        exact fun hno => Decoded.noConfusion hno
      · rw [hstop]
        exact fun hno => Decoded.noConfusion hno
  refine iff_of_false (fun hno => hno ?_) (hfits ·.fits)
  have hstop := (readAmacl_agrees item).unfit hfits
  generalize readAmacl item = result at hstop ⊢
  obtain ⟨headAmacl, stop⟩ := result
  dsimp only at hstop
  rw [hstop]
  rfl

/-! ## What is written and read back -/

variable (resources : List CString)

def listOf : OicSecAmacl := ⟨resources.length, resources.map some⟩

lemma names_listOf : (listOf resources).names = some resources := by
  have hmapM : ∀ l : List CString, (l.map some).mapM id = some l := by
    intro l
    induction l with
    | nil => rfl
    | cons name l ih => simp [ih]
  rw [OicSecAmacl.names, listOf, if_pos (by simp)]
  dsimp only
  rw [take_of_length_le (by simp), hmapM]

lemma passes_rMapItem (resource : CString) :
    (rMapItem resource).passes maxRecursions = true := rfl

lemma elementEntry_href (list : RList) (resource : CString) :
    elementEntry list oicJsonHrefName.bytes (some (textItem resource))
      = ({ list with names := list.names ++ [resource] }, none) := by
  rw [elementEntry, CString.ofBytes_bytes, if_pos rfl, textItem, dupText]
  dsimp only
  rw [CString.ofBytes_bytes]

lemma elementEntry_other (list : RList) {name : CString}
    (h : name = oicJsonRtName ∨ name = oicJsonIfName) (hne : name ≠ oicJsonHrefName)
    (text : CString) :
    elementEntry list name.bytes (some (textItem text)) = (list, none) := by
  rw [elementEntry, CString.ofBytes_bytes, if_neg hne, if_pos h, textItem, dupText]

lemma element_rMapItem (list : RList) (resource : CString) :
    element list (rMapItem resource) = ({ list with names := list.names ++ [resource] }, none) := by
  have henter : enter (ε := Exit) (some (rMapItem resource)) = .ok
      [.text (some oicJsonHrefName.bytes), textItem resource,
        .text (some oicJsonRtName.bytes), textItem oicJsonEmptyString,
        .text (some oicJsonIfName.bytes), textItem oicJsonEmptyString] := rfl
  rw [element, henter]
  dsimp only
  rw [walk_step rfl rfl (elementEntry_href list resource),
    walk_step rfl rfl (elementEntry_other _ (Or.inl rfl) (by decide) _),
    walk_step rfl rfl (elementEntry_other _ (Or.inr rfl) (by decide) _),
    walk_nil]

def rlistItem : Item :=
  .array (some resources.length) (resources.map rMapItem)

lemma passes_rlistItem : (rlistItem resources).passes maxRecursions = true := by
  have hall : (resources.map rMapItem).all (Item.passes 1023) = true := by
    rw [all_map, all_eq_true]
    exact fun resource _ => rfl
  exact hall

lemma rlistReading_rlistItem :
    rlistReading [] (some (rlistItem resources))
      = ([⟨resources.length, true, resources⟩],
        if resources = [] then some (.ending .noMemory) else none) := by
  have helements := CborCursor.each_append element rMapItem
    (fun list names => { list with names := list.names ++ names })
    (fun list => by rw [append_nil]) (fun list name names => by simp) passes_rMapItem
    element_rMapItem
  have henter : enter (ε := Exit) (some (.array (some resources.length) (resources.map rMapItem)))
      = .ok (resources.map rMapItem) := by
    cases resources with
    | nil | cons => rfl
  rw [rlistItem, rlistReading, henter]
  dsimp only
  rw [helements]
  cases resources with
  | nil | cons => rfl

lemma reading_amaclItem :
    reading (amaclItem resources)
      = ([⟨resources.length, true, resources⟩],
        if resources = [] then some (.ending .noMemory) else none) := by
  have hentry : resourcesEntry [] oicJsonRlistName.bytes (some (rlistItem resources))
      = ([⟨resources.length, true, resources⟩],
        if resources = [] then some (.ending .noMemory) else none) := by
    rw [resourcesEntry, CString.ofBytes_bytes, if_pos rfl, rlistReading_rlistItem]
  have hresources : resourcesReading []
      (some (.map [.text (some oicJsonRlistName.bytes), rlistItem resources]))
        = ([⟨resources.length, true, resources⟩],
          if resources = [] then some (.ending .noMemory) else none) := by
    have henter : enter (ε := Exit)
        (some (.map [.text (some oicJsonRlistName.bytes), rlistItem resources]))
          = .ok [.text (some oicJsonRlistName.bytes), rlistItem resources] := rfl
    rw [resourcesReading, henter]
    dsimp only
    split_ifs at hentry ⊢ with hnil
    · exact walk_stop (passes_rlistItem resources) hentry
    · rw [walk_step (passes_rlistItem resources) rfl hentry, walk_nil]
  have henter : enter (ε := Exit) (some (amaclItem resources))
      = .ok [.text (some oicJsonResourcesName.bytes),
          .map [.text (some oicJsonRlistName.bytes), rlistItem resources]] := rfl
  rw [reading, henter]
  dsimp only
  have hwell : startsMalformed
      [.map [.text (some oicJsonRlistName.bytes), rlistItem resources]] = false := rfl
  rw [mapReading, hwell, if_neg Bool.false_ne_true, CString.ofBytes_bytes, if_pos rfl,
    head?_cons, hresources]
  split_ifs with hnil
  · rfl
  · rfl

end

open CborCursor (Item lookup maxRecursions readItem reads_map reads_text)
open Option (map_some some_ne_none some.inj)
open List

section Codec

variable {bytes : AmaclBytes} {cbor : TinyCbor}

structure AmaclBytes.Lawful (bytes : AmaclBytes) : Prop where
  read_write : ∀ resources, bytes.read (bytes.write (amaclItem resources)) = amaclItem resources
  write_ne_nil : ∀ resources, bytes.write (amaclItem resources) ≠ []

lemma amaclOf_single (resources : List CString) :
    amaclOf [⟨resources.length, true, resources⟩] = listOf resources := by
  rw [amaclOf, listOf, find?_cons_of_pos rfl, OicSecAmacl.mk.injEq]
  refine ⟨rfl, ?_⟩
  rw [map_some, Option.getD_some, RList.slots, Nat.sub_self, replicate_zero, append_nil]

lemma decode_encode (hbytes : bytes.Lawful) (resources : List CString) :
    cborPayloadToAmacl bytes (bytes.write (amaclItem resources))
      = if resources = [] then .error else .ok (listOf resources) := by
  have hreading := reading_amaclItem resources
  have hfits : AllFit (reading (amaclItem resources)).1 := by
    rw [hreading]
    intro list hlist
    rw [mem_singleton.mp hlist]
    exact le_refl resources.length
  rw [cborPayloadToAmacl, if_neg (hbytes.write_ne_nil resources), hbytes.read_write,
    readAmacl_of_fits hfits, hreading, amaclOf_single]
  split_ifs with hnil
  · rfl
  · rfl

/-! ## POSTs -/

def itemsUnder (name : CString) (items : List Item) : List Item :=
  ((lookup (CString.ofBytes · = name) items).bind Item.content).getD []

def hrefOf (element : Item) : Option CString :=
  match lookup (CString.ofBytes · = oicJsonHrefName)
      (element.content.getD []) with
  | some (.text (some text)) => some (CString.ofBytes text)
  | _ => none

def postedNames (item : Item) : List CString :=
  (itemsUnder oicJsonRlistName
    (itemsUnder oicJsonResourcesName (item.content.getD []))).filterMap hrefOf

variable (bytes cbor)

def storedNames (database : List UInt8) : Option (List CString) :=
  (readResource cbor database .amacl).bind fun data =>
    match cborPayloadToAmacl bytes data with
    | .ok amacl => amacl.names
    | _ => none

structure History where
  store : AmaclStore
  accepted : List CString

def AmaclPost.names (post : AmaclPost) : List CString :=
  match post.payload with
  | none => []
  | some payload => postedNames (bytes.read payload)

def amaclStep (history : History) (post : AmaclPost) : History × List AmaclAnswer :=
  match handleAmaclPostRequest bytes cbor post history.store with
  | none => (history, [])
  | some (.created, store) => (⟨store, history.accepted ++ post.names bytes⟩, [.created])
  | some (.error, store) => (⟨store, history.accepted⟩, [.error])

/-- **A POST is right**: it is answered; refused, it changes nothing, and accepted, the storage
decodes to the resources of all POSTs that were. -/
structure PostExact (history : History) (post : AmaclPost) : Prop where
  answered : ∃ result, handleAmaclPostRequest bytes cbor post history.store = some result
  refused : ∀ store, handleAmaclPostRequest bytes cbor post history.store = some (.error, store) →
    store = history.store
  accepted : ∀ store,
    handleAmaclPostRequest bytes cbor post history.store = some (.created, store) →
      storedNames bytes cbor store.database = some (history.accepted ++ post.names bytes)

/-- A POST whose payload is decoded may be the first, with resources, where the walk finds all that
the keys hold and the write works; or a later one with no resources and a write that is said to
work. -/
structure Stands (history : History) (medium : Medium) (item : Item) : Prop where
  first : history.store.gAmacl = [] →
    (amaclOf (reading item).1).names = some (postedNames item) ∧ postedNames item ≠ []
      ∧ ¬ Skips cbor medium history.store.database ∧ medium.allocOk = true
      ∧ medium.write = .complete
  later : history.store.gAmacl ≠ [] →
    postedNames item = [] ∧ (Skips cbor medium history.store.database
      ∨ medium.allocOk = true ∧ medium.write = .complete)

def PostClean (history : History) (post : AmaclPost) : Prop :=
  ∀ payload, post.payload = some payload → payload ≠ [] → Bounded (bytes.read payload)
      ∧ ((reading (bytes.read payload)).2 = none →
        Stands cbor history post.medium (bytes.read payload))

structure Kept (history : History) : Prop where
  empty : history.store.gAmacl = [] →
    history.accepted = [] ∧ storedNames bytes cbor history.store.database = none
  full : ∀ first rest, history.store.gAmacl = first :: rest →
    first.names = some history.accepted ∧ history.accepted ≠ []
      ∧ storedNames bytes cbor history.store.database = some history.accepted

variable {bytes cbor}

variable {payload : List UInt8}

lemma decoded_of_bounded (hne : payload ≠ []) (h : Bounded (bytes.read payload)) :
    cborPayloadToAmacl bytes payload = if (reading (bytes.read payload)).2 = none then
          .ok (amaclOf (reading (bytes.read payload)).1) else .error := by
  rw [cborPayloadToAmacl, if_neg hne, readAmacl_of_fits h.fits]
  obtain hstop | hstop | hstop := h.typed
  · rw [hstop, if_pos rfl]
    rfl
  · have hle : (amaclOf (reading (bytes.read payload)).1).resourcesLen
        ≤ (amaclOf (reading (bytes.read payload)).1).resources.length := by
      rw [length_resources_amaclOf h.fits]
      exact h.released hstop
    rw [hstop, finish, if_pos hle, if_neg (some_ne_none _)]
  · rw [hstop, finish, if_neg (some_ne_none _)]

variable {database : List UInt8} {resources : List CString}

lemma storedNames_of_read (hbytes : bytes.Lawful)
    (h : readResource cbor database .amacl = some (bytes.write (amaclItem resources))) :
    storedNames bytes cbor database = if resources = [] then none else some resources := by
  rw [storedNames, h, Option.bind_some, decode_encode hbytes]
  split_ifs with hnil
  · rfl
  · exact names_listOf resources

lemma appendAmacl_cases (hcbor : cbor.Lawful) (hbytes : bytes.Lawful) (medium : Medium)
    (store : AmaclStore) (newAmacl : OicSecAmacl)
    (hnames : ((store.gAmacl ++ [newAmacl]).headD newAmacl).names = some resources) :
    (Skips cbor medium store.database ∧ appendAmacl bytes cbor medium store newAmacl
          = some (.created, ⟨store.gAmacl ++ [newAmacl], store.database⟩))
      ∨ (¬ Skips cbor medium store.database ∧ medium.allocOk = true ∧ medium.write = .complete
        ∧ ∃ database, appendAmacl bytes cbor medium store newAmacl
            = some (.created, ⟨store.gAmacl ++ [newAmacl], database⟩)
          ∧ storedNames bytes cbor database = if resources = [] then none else some resources)
      ∨ (¬ (Skips cbor medium store.database ∨ medium.allocOk = true ∧ medium.write = .complete)
        ∧ ∃ database, appendAmacl bytes cbor medium store newAmacl
            = some (.error, ⟨store.gAmacl ++ [newAmacl], database⟩)) := by
  rw [appendAmacl, amaclToCBORPayload, hnames]
  obtain ⟨hskips, hcall⟩ | ⟨hwritten, halloc, hcomplete, hok, hthere⟩ | ⟨hno, herror⟩ :=
    updateResourceInPS_told hcbor medium store.database .amacl (hbytes.write_ne_nil resources)
  · refine .inl ⟨hskips, ?_⟩
    rw [map_some, map_some, hcall]
    rfl
  · refine .inr (.inl ⟨hwritten, halloc, hcomplete, _, ?_, storedNames_of_read hbytes hthere⟩)
    rw [map_some, map_some]
    dsimp only
    rw [if_pos hok]
  · refine .inr (.inr ⟨hno, (updateResourceInPS cbor medium store.database .amacl
      (bytes.write (amaclItem resources))).database, ?_⟩)
    rw [map_some, map_some]
    dsimp only
    rw [if_neg herror]

variable {history : History} {post : AmaclPost}

lemma not_exact_of_error {newAmacl : OicSecAmacl}
    (h : handleAmaclPostRequest bytes cbor post history.store
      = some (.error, ⟨history.store.gAmacl ++ [newAmacl], database⟩)) :
    ¬ PostExact bytes cbor history post := by
  intro hexact
  have hlength := congrArg (·.gAmacl.length) (hexact.refused _ h)
  dsimp only at hlength
  rw [length_append, length_singleton] at hlength
  omega

variable {store : AmaclStore}

lemma exact_created_iff
    (h : handleAmaclPostRequest bytes cbor post history.store = some (.created, store)) :
    PostExact bytes cbor history post
      ↔ storedNames bytes cbor store.database = some (history.accepted ++ post.names bytes) := by
  constructor
  · exact fun hexact => hexact.accepted store h
  · intro hstored
    refine ⟨⟨_, h⟩, fun store' h' => ?_, fun store' h' => ?_⟩
    · exact AmaclAnswer.noConfusion (Prod.mk.inj (some.inj (h.symm.trans h'))).1
    · rwa [← (Prod.mk.inj (some.inj (h.symm.trans h'))).2]

lemma exact_iff_stands (hcbor : cbor.Lawful) (hbytes : bytes.Lawful)
    (hkept : Kept bytes cbor history) (hpayload : post.payload = some payload)
    (hdecoded : cborPayloadToAmacl bytes payload = .ok (amaclOf (reading (bytes.read payload)).1)) :
    PostExact bytes cbor history post ↔ Stands cbor history post.medium (bytes.read payload) := by
  have hhandle : handleAmaclPostRequest bytes cbor post history.store
      = appendAmacl bytes cbor post.medium history.store
          (amaclOf (reading (bytes.read payload)).1) := by
    rw [handleAmaclPostRequest, hpayload]
    dsimp only
    rw [hdecoded]
  have hposted : post.names bytes = postedNames (bytes.read payload) := by
    rw [AmaclPost.names, hpayload]
  obtain hnil | ⟨first, rest, hcons⟩ : history.store.gAmacl = []
      ∨ ∃ first rest, history.store.gAmacl = first :: rest := by
    cases history.store.gAmacl with
    | nil => exact .inl rfl
    | cons first rest => exact .inr ⟨first, rest, rfl⟩
  · obtain ⟨haccepted, hstored⟩ := hkept.empty hnil
    have hstands : Stands cbor history post.medium (bytes.read payload)
        ↔ (amaclOf (reading (bytes.read payload)).1).names = some (post.names bytes)
          ∧ post.names bytes ≠ [] ∧ ¬ Skips cbor post.medium history.store.database
          ∧ post.medium.allocOk = true ∧ post.medium.write = .complete := by
      rw [hposted]
      exact ⟨fun h => h.first hnil, fun h => ⟨fun _ => h, fun hno => absurd hnil hno⟩⟩
    rw [hstands]
    generalize amaclOf (reading (bytes.read payload)).1 = newAmacl at hhandle ⊢
    cases hnames : newAmacl.names with
    | none =>
      refine iff_of_false (fun hexact => ?_) (some_ne_none _ ·.1.symm)
      obtain ⟨result, hresult⟩ := hexact.answered
      rw [hhandle, appendAmacl, hnil, nil_append, headD_cons, amaclToCBORPayload, hnames] at hresult
      exact some_ne_none _ hresult.symm
    | some resources =>
      have hhead : ((history.store.gAmacl ++ [newAmacl]).headD newAmacl).names
          = some resources := by
        rw [hnil]
        exact hnames
      obtain ⟨hskips, hcall⟩ | ⟨hwritten, halloc, hcomplete, database, hcall, hthere⟩
          | ⟨hno, database, hcall⟩ :=
        appendAmacl_cases hcbor hbytes post.medium history.store newAmacl hhead
      · rw [exact_created_iff (hhandle.trans hcall), hstored]
        exact iff_of_false (some_ne_none _ ·.symm) (·.2.2.1 hskips)
      · rw [exact_created_iff (hhandle.trans hcall), hthere, haccepted, nil_append]
        by_cases hresources : resources = []
        · rw [if_pos hresources]
          refine iff_of_false (some_ne_none _ ·.symm) (fun h => h.2.1 ?_)
          rw [← some.inj h.1, hresources]
        rw [if_neg hresources]
        constructor
        · intro h
          refine ⟨h, fun hno => hresources ?_, hwritten, halloc, hcomplete⟩
          rw [some.inj h, hno]
        · exact fun h => h.1
      · refine iff_of_false (not_exact_of_error (hhandle.trans hcall)) (fun h => ?_)
        exact hno (.inr h.2.2.2)
  · obtain ⟨hnames, hne, hstored⟩ := hkept.full first rest hcons
    have hnotnil : history.store.gAmacl ≠ [] := by
      rw [hcons]
      exact cons_ne_nil first rest
    have hstands : Stands cbor history post.medium (bytes.read payload)
        ↔ post.names bytes = [] ∧ (Skips cbor post.medium history.store.database
          ∨ post.medium.allocOk = true ∧ post.medium.write = .complete) := by
      rw [hposted]
      exact ⟨fun h => h.later hnotnil, fun h => ⟨fun hno => absurd hno hnotnil, fun _ => h⟩⟩
    have hhead : ((history.store.gAmacl ++ [amaclOf (reading (bytes.read payload)).1]).headD
        (amaclOf (reading (bytes.read payload)).1)).names = some history.accepted := by
      rw [hcons]
      exact hnames
    have hsame : (some history.accepted = some (history.accepted ++ post.names bytes))
        ↔ post.names bytes = [] := by
      simp
    rw [hstands]
    obtain ⟨hskips, hcall⟩ | ⟨hwritten, halloc, hcomplete, database, hcall, hthere⟩
        | ⟨hno, database, hcall⟩ :=
      appendAmacl_cases hcbor hbytes post.medium history.store _ hhead
    · rw [exact_created_iff (hhandle.trans hcall), hstored, hsame]
      exact (and_iff_left (.inl hskips)).symm
    · rw [exact_created_iff (hhandle.trans hcall), hthere, if_neg hne, hsame]
      exact (and_iff_left (.inr ⟨halloc, hcomplete⟩)).symm
    · refine iff_of_false (not_exact_of_error (hhandle.trans hcall)) (hno ·.2)

lemma exact_of_refused
    (h : handleAmaclPostRequest bytes cbor post history.store = some (.error, history.store)) :
    PostExact bytes cbor history post := by
  refine ⟨⟨_, h⟩, fun store h' => ?_, fun store h' => ?_⟩
  · exact (Prod.mk.inj (some.inj (h.symm.trans h'))).2.symm
  · exact AmaclAnswer.noConfusion (Prod.mk.inj (some.inj (h.symm.trans h'))).1

lemma postExact_iff_clean (hcbor : cbor.Lawful) (hbytes : bytes.Lawful)
    (hkept : Kept bytes cbor history) (post : AmaclPost) :
    PostExact bytes cbor history post ↔ PostClean bytes cbor history post := by
  cases hpayload : post.payload with
  | none =>
    refine iff_of_true (exact_of_refused ?_) (fun payload h => ?_)
    · rw [handleAmaclPostRequest, hpayload]
    · exact absurd (h.symm.trans hpayload) (some_ne_none payload)
  | some payload =>
    have hclean : PostClean bytes cbor history post
        ↔ (payload ≠ [] → Bounded (bytes.read payload)
          ∧ ((reading (bytes.read payload)).2 = none →
            Stands cbor history post.medium (bytes.read payload))) := by
      refine ⟨fun h => h payload hpayload, fun h payload' hpayload' => ?_⟩
      rw [← some.inj (hpayload.symm.trans hpayload')]
      exact h
    rw [hclean]
    by_cases hnil : payload = []
    · refine iff_of_true (exact_of_refused ?_) (absurd hnil ·)
      rw [handleAmaclPostRequest, hpayload]
      dsimp only
      rw [cborPayloadToAmacl, if_pos hnil]
    by_cases hbounded : Bounded (bytes.read payload)
    · have hdecoded := decoded_of_bounded hnil hbounded
      by_cases hstop : (reading (bytes.read payload)).2 = none
      · rw [if_pos hstop] at hdecoded
        rw [exact_iff_stands hcbor hbytes hkept hpayload hdecoded]
        exact ⟨fun h _ => ⟨hbounded, fun _ => h⟩, fun h => (h hnil).2 hstop⟩
      rw [if_neg hstop] at hdecoded
      refine iff_of_true (exact_of_refused ?_) (fun _ => ⟨hbounded, fun hno => absurd hno hstop⟩)
      rw [handleAmaclPostRequest, hpayload]
      dsimp only
      rw [hdecoded]
    refine iff_of_false (fun hexact => ?_) (fun h => hbounded (h hnil).1)
    obtain ⟨result, hresult⟩ := hexact.answered
    have hfault : cborPayloadToAmacl bytes payload = .fault := by
      rw [cborPayloadToAmacl, if_neg hnil]
      by_contra hno
      exact hbounded ((finish_readAmacl_iff _).mp hno)
    rw [handleAmaclPostRequest, hpayload] at hresult
    dsimp only at hresult
    rw [hfault] at hresult
    exact some_ne_none _ hresult.symm

lemma appended_of_created
    (h : handleAmaclPostRequest bytes cbor post history.store = some (.created, store)) :
    ∃ payload newAmacl, post.payload = some payload ∧ payload ≠ []
      ∧ cborPayloadToAmacl bytes payload = .ok newAmacl
      ∧ store.gAmacl = history.store.gAmacl ++ [newAmacl] := by
  rw [handleAmaclPostRequest] at h
  cases hpayload : post.payload with
  | none =>
    rw [hpayload] at h
    exact AmaclAnswer.noConfusion (Prod.mk.inj (some.inj h)).1
  | some payload =>
    rw [hpayload] at h
    dsimp only at h
    cases hdecoded : cborPayloadToAmacl bytes payload with
    | fault =>
      rw [hdecoded] at h
      exact absurd h.symm (some_ne_none _)
    | error =>
      rw [hdecoded] at h
      exact AmaclAnswer.noConfusion (Prod.mk.inj (some.inj h)).1
    | ok newAmacl =>
      rw [hdecoded] at h
      dsimp only at h
      obtain ⟨cborPayload, -, hresult⟩ := Option.map_eq_some_iff.mp h
      refine ⟨payload, newAmacl, rfl, ?_, hdecoded, ?_⟩
      · rintro rfl
        exact Decoded.noConfusion hdecoded
      · rw [← (Prod.mk.inj hresult).2]

lemma kept_amaclStep (hcbor : cbor.Lawful) (hbytes : bytes.Lawful)
    (hkept : Kept bytes cbor history) (hclean : PostClean bytes cbor history post) :
    Kept bytes cbor (amaclStep bytes cbor history post).1 := by
  have hexact := (postExact_iff_clean hcbor hbytes hkept post).mpr hclean
  rw [amaclStep]
  match hhandle : handleAmaclPostRequest bytes cbor post history.store with
  | none => exact hkept
  | some (.error, store) =>
    obtain rfl := hexact.refused store hhandle
    exact hkept
  | some (.created, store) =>
    have hstored := hexact.accepted store hhandle
    obtain ⟨payload, newAmacl, hpayload, hne, hdecoded, hgAmacl⟩ := appended_of_created hhandle
    obtain ⟨hbounded, hstands⟩ := hclean payload hpayload hne
    rw [decoded_of_bounded hne hbounded] at hdecoded
    split_ifs at hdecoded with hstop
    have hstands := hstands hstop
    rw [Decoded.ok.injEq] at hdecoded
    have hnames : post.names bytes = postedNames (bytes.read payload) := by
      rw [AmaclPost.names, hpayload]
    rw [hnames] at hstored
    dsimp only
    refine ⟨fun hnil => ?_, fun first rest hcons => ?_⟩
    · dsimp only at hnil
      rw [hgAmacl] at hnil
      simp at hnil
    · dsimp only at hcons ⊢
      rw [hnames]
      rw [hgAmacl] at hcons
      cases hold : history.store.gAmacl with
      | nil =>
        obtain ⟨hfirst, hposted, -⟩ := hstands.first hold
        obtain ⟨haccepted, -⟩ := hkept.empty hold
        rw [hold, nil_append, List.cons.injEq] at hcons
        rw [haccepted, nil_append] at hstored ⊢
        refine ⟨?_, hposted, hstored⟩
        rw [← hcons.1, ← hdecoded]
        exact hfirst
      | cons first' rest' =>
        have hnotnil : history.store.gAmacl ≠ [] := by
          rw [hold]
          exact cons_ne_nil first' rest'
        obtain ⟨hposted, -⟩ := hstands.later hnotnil
        obtain ⟨hfirst, haccepted, -⟩ := hkept.full first' rest' hold
        rw [hold, cons_append, List.cons.injEq] at hcons
        rw [hposted, append_nil] at hstored ⊢
        refine ⟨?_, haccepted, hstored⟩
        rw [← hcons.1]
        exact hfirst

/-- **The access manager lists.** The decoder gets back to its caller, and within its slots, exactly
with a payload that does no harm; a list is decoded as it was encoded exactly when it has resources;
and a run of POSTs that starts with nothing stores all that it accepts, and leaves all as it was
when it refuses, exactly as long as no POST does harm. -/
theorem amacl_iff (hcbor : cbor.Lawful) (hbytes : bytes.Lawful) :
    (∀ payload, cborPayloadToAmacl bytes payload ≠ .fault
        ↔ (payload ≠ [] → Bounded (bytes.read payload)))
      ∧ (∀ resources, (∃ payload, amaclToCBORPayload bytes (listOf resources) = some payload
          ∧ cborPayloadToAmacl bytes payload = .ok (listOf resources)) ↔ resources ≠ [])
      ∧ ∀ database, readResource cbor database .amacl = none → ∀ posts,
        (Runs.Along (amaclStep bytes cbor) (PostExact bytes cbor) ⟨⟨[], database⟩, []⟩ posts
          ↔ Runs.Along (amaclStep bytes cbor) (PostClean bytes cbor) ⟨⟨[], database⟩, []⟩
            posts) := by
  refine ⟨fun payload => ?_, fun resources => ?_, fun database hdatabase posts => ?_⟩
  · rw [cborPayloadToAmacl]
    split_ifs with hnil
    · exact iff_of_true (fun h => Decoded.noConfusion h) (fun hne => absurd hnil hne)
    · rw [finish_readAmacl_iff]
      exact ⟨fun h _ => h, fun h => h hnil⟩
  · rw [amaclToCBORPayload, names_listOf, map_some]
    constructor
    · rintro ⟨payload, hpayload, hdecoded⟩ hnil
      rw [← some.inj hpayload, decode_encode hbytes, if_pos hnil] at hdecoded
      exact Decoded.noConfusion hdecoded
    · intro hne
      refine ⟨_, rfl, ?_⟩
      rw [decode_encode hbytes, if_neg hne]
  · apply Runs.along_iff (F := fun _ _ => True) (Kept bytes cbor)
    · exact fun history post hkept _ => ⟨postExact_iff_clean hcbor hbytes hkept post,
        kept_amaclStep hcbor hbytes hkept⟩
    · refine ⟨fun _ => ⟨rfl, ?_⟩, fun first rest h => absurd h.symm (cons_ne_nil first rest)⟩
      rw [storedNames, hdatabase]
      rfl
    · exact Runs.along_true _ posts

end Codec

/-! ## With the bytes of CBOR -/

def AmaclBytes.standard : AmaclBytes where
  write := CborCursor.write
  read := fun l => (readItem 5 l).1

lemma reads_rMapItem (resource : CString) : CborCursor.Reads 2 (rMapItem resource) := by
  refine reads_map (by simp) rfl (fun item hitem => ?_)
  have htext : ∃ text : CString, item = textItem text := by
    simp only [mem_cons, not_mem_nil, or_false] at hitem
    obtain rfl | rfl | rfl | rfl | rfl | rfl := hitem <;> exact ⟨_, rfl⟩
  obtain ⟨text, rfl⟩ := htext
  exact reads_text 0 text.bytes

lemma reads_rlistItem (resources : List CString) :
    CborCursor.Reads 3 (rlistItem resources) := by
  have hpasses := passes_rlistItem resources
  have hlength : resources.length = (resources.map rMapItem).length := by rw [length_map]
  rw [rlistItem, hlength] at hpasses ⊢
  refine CborCursor.reads_array hpasses (fun item hitem => ?_)
  obtain ⟨resource, -, rfl⟩ := mem_map.mp hitem
  exact reads_rMapItem resource

lemma reads_entry {fuel : ℕ} (name : CString) {value : Item}
    (hpasses : (Item.map [textItem name, value]).passes maxRecursions = true)
    (h : CborCursor.Reads (fuel + 1) value) :
    CborCursor.Reads (fuel + 2) (.map [textItem name, value]) := by
  refine reads_map (by simp) hpasses (fun item hitem => ?_)
  obtain rfl | hitem := mem_cons.mp hitem
  · exact reads_text fuel name.bytes
  rw [mem_singleton.mp hitem]
  exact h

lemma passes_resources (resources : List CString) :
    (Item.map [textItem oicJsonRlistName, rlistItem resources]).passes maxRecursions = true
      ∧ (amaclItem resources).passes maxRecursions = true := by
  have hall : ∀ budget, (resources.map rMapItem).all (Item.passes (budget + 1)) = true := by
    intro budget
    rw [all_map, all_eq_true]
    intro resource _
    simp [rMapItem, textItem, Item.passes]
  have hrlist : ∀ budget, (rlistItem resources).passes (budget + 2) = true := by
    intro budget
    rw [rlistItem, Item.passes]
    exact hall budget
  have hmap : ∀ budget,
      (Item.map [textItem oicJsonRlistName, rlistItem resources]).passes (budget + 3) = true := by
    intro budget
    rw [Item.passes, all_cons, all_cons, hrlist]
    simp [textItem, Item.passes]
  refine ⟨hmap 1021, ?_⟩
  have htop : (amaclItem resources).passes 1024
      = [textItem oicJsonResourcesName,
          .map [textItem oicJsonRlistName, rlistItem resources]].all (Item.passes 1023) := rfl
  have hstep := hmap 1020
  rw [maxRecursions, htop, all_cons, all_cons, hstep]
  rfl

lemma AmaclBytes.standard_lawful : AmaclBytes.standard.Lawful where
  read_write := by
    intro resources
    obtain ⟨hinner, houter⟩ := passes_resources resources
    have hreads := reads_entry oicJsonResourcesName houter
      (reads_entry oicJsonRlistName hinner (reads_rlistItem resources))
    have hread := hreads.2 []
    rw [append_nil] at hread
    exact congrArg Prod.fst hread
  write_ne_nil := by
    intro resources
    exact append_ne_nil_of_left_ne_nil (CborMap.encodeHead_ne_nil 5 _) _

def goodMedium : Medium := ⟨true, true, [], .complete⟩

def postOf (name : String) : AmaclPost :=
  ⟨some (AmaclBytes.standard.write (amaclItem [.const name])), goodMedium⟩

def twoHrefs : Item :=
  .map [textItem oicJsonResourcesName,
    .map [textItem oicJsonRlistName,
      .array (some 1) [.map [textItem oicJsonHrefName, textItem (.const "/a"),
        textItem oicJsonHrefName, textItem (.const "/b")]]]]

def noLists : History := ⟨⟨[], []⟩, []⟩

def twoPosts : History × List AmaclAnswer :=
  Runs.run (amaclStep AmaclBytes.standard TinyCbor.standard) noLists [postOf "/a", postOf "/b"]

theorem slots_and_post_lost :
    (readAmacl (AmaclBytes.standard.read (AmaclBytes.standard.write twoHrefs))
          = (⟨1, [some (.const "/a")]⟩, some (.ending .overflow))
        ∧ cborPayloadToAmacl AmaclBytes.standard (AmaclBytes.standard.write twoHrefs) = .fault)
      ∧ twoPosts.2 = [.created, .created]
      ∧ twoPosts.1.accepted = [.const "/a", .const "/b"]
      ∧ storedNames AmaclBytes.standard TinyCbor.standard twoPosts.1.store.database
        = some [.const "/a"] := by
  decide

theorem firstPost_stored :
    Runs.Along (amaclStep AmaclBytes.standard TinyCbor.standard)
      (PostExact AmaclBytes.standard TinyCbor.standard) noLists [postOf "/a"] := by
  apply ((amacl_iff TinyCbor.standard_lawful AmaclBytes.standard_lawful).2.2 [] rfl
    [postOf "/a"]).mpr
  refine ⟨fun payload hpayload _ => ?_, trivial⟩
  rw [← some.inj hpayload, AmaclBytes.standard_lawful.read_write]
  have hreading := reading_amaclItem [.const "/a"]
  rw [if_neg (cons_ne_nil _ _)] at hreading
  have hfits : AllFit (reading (amaclItem [.const "/a"])).1 := by
    rw [hreading]
    intro list hlist
    rw [mem_singleton.mp hlist]
    exact le_refl 1
  have hstop : (reading (amaclItem [.const "/a"])).2 = none := by rw [hreading]
  refine ⟨⟨hfits, .inl hstop, fun hno => ?_⟩, fun _ => ⟨fun _ => ?_, fun hno => absurd rfl hno⟩⟩
  · exact absurd (hno.symm.trans hstop) (some_ne_none _)
  · rw [hreading]
    refine ⟨by decide, by decide, fun hskips => hskips.1 rfl, rfl, rfl⟩

end Iochibity.Sec.Amacl
