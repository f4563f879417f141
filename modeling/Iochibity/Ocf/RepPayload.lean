/-
Representation payloads, `ocpayload.c`.
-/
import Iochibity.Coap.Message
import Iochibity.Lib.StableOrder
import Iochibity.Sec.UuidText

namespace Iochibity.Coap

def CString.ofBytes (bytes : List UInt8) : CString where
  bytes := bytes.takeWhile (· ≠ 0)
  noNul := fun h => by simpa using List.mem_takeWhile_imp h

def CString.const (s : String) : CString := CString.ofBytes (Sec.cString s)

@[simp] lemma CString.ofBytes_bytes (s : CString) : CString.ofBytes s.bytes = s := by
  obtain ⟨bytes, noNul⟩ := s
  rw [CString.ofBytes, CString.mk.injEq, List.takeWhile_eq_self_iff]
  intro c hc
  simp only [ne_eq, decide_eq_true_eq]
  rintro rfl
  exact noNul hc

end Iochibity.Coap

namespace Iochibity.Ocf

open Coap (CString)

/-! ## Payloads -/

inductive OCRepPayloadPropType
  | null | int | double | bool | string | byteString | object | array
  deriving DecidableEq

/-- `dimensions` of an array, `MAX_REP_ARRAY_DEPTH` many. -/
structure RepDimensions where
  d0 : Nat
  d1 : Nat
  d2 : Nat
  deriving DecidableEq

mutual

inductive OCRepPayload
  | mk (uri : Option CString) (types interfaces : List CString)
      (values : List OCRepPayloadValue)

inductive OCRepPayloadValue
  | mk (name : CString) (prop : RepProp)

inductive RepProp
  | null
  | int (i : Int64)
  | double (bits : UInt64)
  | bool (b : Bool)
  | string (s : CString)
  | byteString (b : List UInt8)
  | object (obj : OCRepPayload)
  | array (type : OCRepPayloadPropType) (dimensions : RepDimensions) (cells : List RepCell)

inductive RepCell
  | int (i : Int64)
  | double (bits : UInt64)
  | bool (b : Bool)
  | string (s : CString)
  | byteString (b : List UInt8)
  | object (obj : OCRepPayload)
  | nullPointer

end

namespace OCRepPayload

def uri : OCRepPayload → Option CString
  | mk uri _ _ _ => uri

def types : OCRepPayload → List CString
  | mk _ types _ _ => types

def interfaces : OCRepPayload → List CString
  | mk _ _ interfaces _ => interfaces

def values : OCRepPayload → List OCRepPayloadValue
  | mk _ _ _ values => values

def ofValues (values : List OCRepPayloadValue) : OCRepPayload := mk none [] [] values

end OCRepPayload

def OCRepPayloadValue.name : OCRepPayloadValue → CString
  | mk name _ => name

def calcDimTotal (dimensions : RepDimensions) : Nat :=
  if dimensions.d0 = 0 then 0
  else if dimensions.d1 = 0 then dimensions.d0
  else if dimensions.d2 = 0 then dimensions.d0 * dimensions.d1
  else dimensions.d0 * dimensions.d1 * dimensions.d2

/-- What `OICCalloc` makes of a cell. -/
def zeroCell : OCRepPayloadPropType → RepCell
  | .int => .int 0
  | .double => .double 0
  | .bool => .bool false
  | .byteString => .byteString []
  | _ => .nullPointer

/-- `OCRepPayloadFindAndSetValue` and the assignment after it. -/
def setValue : List OCRepPayloadValue → CString → RepProp → List OCRepPayloadValue
  | [], name, prop => [.mk name prop]
  | value :: rest, name, prop =>
    if value.name = name then .mk name prop :: rest
    else value :: setValue rest name prop

def repPayloadSetProp (values : List OCRepPayloadValue) (name : Option CString)
    (prop : RepProp) : Option (List OCRepPayloadValue) :=
  name.map (setValue values · prop)

def valueNames (values : List OCRepPayloadValue) : List CString :=
  values.map OCRepPayloadValue.name

lemma setValue_of_not_mem {values : List OCRepPayloadValue} {name : CString}
    (h : name ∉ valueNames values) (prop : RepProp) :
    setValue values name prop = values ++ [.mk name prop] := by
  induction values with
  | nil => rfl
  | cons value rest ih =>
    rw [valueNames, List.map_cons, List.mem_cons, not_or] at h
    rw [setValue, if_neg (h.1 ·.symm), ih h.2, List.cons_append]

end Iochibity.Ocf

namespace Iochibity.Ocf

open Coap (CString)

/-! ## Payloads in memory -/

mutual

/-- `OCRepPayload`. -/
inductive HeapPayload
  | mk (uri : Option CString) (types interfaces : List CString) (values : List HeapValue)

/-- `OCRepPayloadValue`. -/
inductive HeapValue
  | mk (name : CString) (contents : HeapContents)

inductive HeapContents
  | null
  | int (i : Int64)
  | double (bits : UInt64)
  | bool (b : Bool)
  | string (str : Option CString)
  | byteString (bytes : List UInt8)
  | object (obj : HeapObject)
  | array (dimensions : RepDimensions) (arr : HeapArray)

inductive HeapObject
  | nullPointer
  | payload (payload : HeapPayload)

inductive HeapArray
  | nullPointer (type : OCRepPayloadPropType)
  | int (cells : List Int64)
  | double (cells : List UInt64)
  | bool (cells : List Bool)
  | string (cells : List (Option CString))
  | byteString (cells : List (List UInt8))
  | object (cells : List HeapObject)

end

namespace HeapPayload

def uri : HeapPayload → Option CString
  | mk uri _ _ _ => uri

def types : HeapPayload → List CString
  | mk _ types _ _ => types

def interfaces : HeapPayload → List CString
  | mk _ _ interfaces _ => interfaces

def values : HeapPayload → List HeapValue
  | mk _ _ _ values => values

end HeapPayload

def HeapValue.name : HeapValue → CString
  | mk name _ => name

def HeapValue.contents : HeapValue → HeapContents
  | mk _ contents => contents

def HeapArray.intCells : HeapArray → Option (List Int64)
  | .int cells => some cells
  | _ => none

def HeapArray.boolCells : HeapArray → Option (List Bool)
  | .bool cells => some cells
  | _ => none

def HeapArray.stringCells : HeapArray → Option (List (Option CString))
  | .string cells => some cells
  | _ => none

def HeapArray.byteStringCells : HeapArray → Option (List (List UInt8))
  | .byteString cells => some cells
  | _ => none

def HeapArray.objectCells : HeapArray → Option (List HeapObject)
  | .object cells => some cells
  | _ => none

def HeapArray.doubleCells (toDouble : Int64 → UInt64) : HeapArray → Option (List UInt64)
  | .double cells => some cells
  | .int cells => some (cells.map toDouble)
  | _ => none

def repPayloadCreate : HeapPayload := .mk none [] [] []

section Clone

variable (uninit : ℕ → Option CString)

def cloneStrings : List (Option CString) → List (Option CString)
  | [] => []
  | some str :: rest => some str :: cloneStrings rest
  | none :: rest => none :: (List.range rest.length).map uninit

def cloneByteStrings : List (List UInt8) → List (List UInt8)
  | [] => []
  | bytes :: rest =>
    bytes :: (if bytes = [] then List.replicate rest.length [] else cloneByteStrings rest)

mutual

def repPayloadClone : HeapPayload → HeapPayload
  | .mk uri types interfaces values => .mk uri types interfaces (repPayloadValueClone values)

def repPayloadValueClone : List HeapValue → List HeapValue
  | [] => []
  | .mk name contents :: rest =>
    .mk name (copyPropertyValue contents) :: repPayloadValueClone rest

def copyPropertyValue : HeapContents → HeapContents
  | .object obj => .object (cloneObject obj)
  | .array dimensions arr =>
    .array dimensions (copyPropertyValueArray (calcDimTotal dimensions) arr)
  | contents => contents

def copyPropertyValueArray (dimTotal : ℕ) : HeapArray → HeapArray
  | .nullPointer type => .nullPointer type
  | .int cells => if dimTotal = 0 then .nullPointer .int else .int cells
  | .double cells => if dimTotal = 0 then .nullPointer .double else .double cells
  | .bool cells => if dimTotal = 0 then .nullPointer .bool else .bool cells
  | .string cells =>
    if dimTotal = 0 then .nullPointer .string else .string (cloneStrings uninit cells)
  | .byteString cells =>
    if dimTotal = 0 then .nullPointer .byteString else .byteString (cloneByteStrings cells)
  | .object cells => if dimTotal = 0 then .nullPointer .object else .object (cloneObjects cells)

def cloneObjects : List HeapObject → List HeapObject
  | [] => []
  | obj :: rest => cloneObject obj :: cloneObjects rest

/-- `OCRepPayloadClone` of a pointer. -/
def cloneObject : HeapObject → HeapObject
  | .nullPointer => .nullPointer
  | .payload payload => .payload (repPayloadClone payload)

end

end Clone

/-! ## What is copied as it is -/

mutual

/-- **A payload that comes out of `OCRepPayloadClone` as it is.** In its arrays, also further down,
no null is followed by another text, and no empty byte string by one that is not. -/
def HeapPayload.IsClonable : HeapPayload → Prop
  | .mk _ _ _ values => ValuesClonable values

def ValuesClonable : List HeapValue → Prop
  | [] => True
  | .mk _ contents :: rest => contents.IsClonable ∧ ValuesClonable rest

def HeapContents.IsClonable : HeapContents → Prop
  | .object obj => obj.IsClonable
  | .array dimensions arr => arr.IsClonable (calcDimTotal dimensions)
  | _ => True

def HeapArray.IsClonable (dimTotal : ℕ) : HeapArray → Prop
  | .nullPointer _ => dimTotal = 0
  | .int _ => dimTotal ≠ 0
  | .double _ => dimTotal ≠ 0
  | .bool _ => dimTotal ≠ 0
  | .string cells => dimTotal ≠ 0 ∧ none ∉ cells.dropLast
  | .byteString cells => dimTotal ≠ 0 ∧ cells.Pairwise (fun b c => b = [] → c = [])
  | .object cells => dimTotal ≠ 0 ∧ ObjectsClonable cells

def ObjectsClonable : List HeapObject → Prop
  | [] => True
  | obj :: rest => obj.IsClonable ∧ ObjectsClonable rest

def HeapObject.IsClonable : HeapObject → Prop
  | .nullPointer => True
  | .payload payload => payload.IsClonable

end

lemma cloneStrings_eq (uninit : ℕ → Option CString) {cells : List (Option CString)}
    (h : none ∉ cells.dropLast) : cloneStrings uninit cells = cells := by
  induction cells with
  | nil => rfl
  | cons cell rest ih =>
    cases rest with
    | nil => cases cell <;> rfl
    | cons next rest =>
      rw [List.dropLast_cons_cons, List.mem_cons, not_or] at h
      cases cell with
      | none => exact absurd rfl h.1
      | some str => rw [cloneStrings, ih h.2]

lemma cloneByteStrings_eq {cells : List (List UInt8)}
    (h : cells.Pairwise (fun b c => b = [] → c = [])) : cloneByteStrings cells = cells := by
  induction cells with
  | nil => rfl
  | cons bytes rest ih =>
    obtain ⟨hbytes, hrest⟩ := List.pairwise_cons.mp h
    rw [cloneByteStrings]
    split_ifs with hempty
    · -- all those behind an empty one are empty
      rw [(List.eq_replicate_of_mem (fun c hc => hbytes c hc hempty)).symm]
    · rw [ih hrest]

mutual

lemma repPayloadClone_eq (uninit : ℕ → Option CString) : (payload : HeapPayload) →
    payload.IsClonable → repPayloadClone uninit payload = payload
  | .mk uri types interfaces values, h => by
      rw [repPayloadClone, repPayloadValueClone_eq uninit values h]

lemma repPayloadValueClone_eq (uninit : ℕ → Option CString) : (values : List HeapValue) →
    ValuesClonable values → repPayloadValueClone uninit values = values
  | [], _ => rfl
  | .mk name contents :: rest, h => by
      rw [repPayloadValueClone, copyPropertyValue_eq uninit contents h.1,
        repPayloadValueClone_eq uninit rest h.2]

lemma copyPropertyValue_eq (uninit : ℕ → Option CString) : (contents : HeapContents) →
    contents.IsClonable → copyPropertyValue uninit contents = contents
  | .object obj, h => by rw [copyPropertyValue, cloneObject_eq uninit obj h]
  | .array dimensions arr, h => by
      rw [copyPropertyValue, copyPropertyValueArray_eq uninit arr h]
  | .null, _ => rfl
  | .int _, _ => rfl
  | .double _, _ => rfl
  | .bool _, _ => rfl
  | .string _, _ => rfl
  | .byteString _, _ => rfl

lemma copyPropertyValueArray_eq (uninit : ℕ → Option CString) {dimTotal : ℕ} :
    (arr : HeapArray) → arr.IsClonable dimTotal →
    copyPropertyValueArray uninit dimTotal arr = arr
  | .nullPointer _, _ => rfl
  | .int _, h => if_neg h
  | .double _, h => if_neg h
  | .bool _, h => if_neg h
  | .string cells, h => by
      rw [copyPropertyValueArray, if_neg h.1, cloneStrings_eq uninit h.2]
  | .byteString cells, h => by
      rw [copyPropertyValueArray, if_neg h.1, cloneByteStrings_eq h.2]
  | .object cells, h => by
      rw [copyPropertyValueArray, if_neg h.1, cloneObjects_eq uninit cells h.2]

lemma cloneObjects_eq (uninit : ℕ → Option CString) : (cells : List HeapObject) →
    ObjectsClonable cells → cloneObjects uninit cells = cells
  | [], _ => rfl
  | obj :: rest, h => by
      rw [cloneObjects, cloneObject_eq uninit obj h.1, cloneObjects_eq uninit rest h.2]

lemma cloneObject_eq (uninit : ℕ → Option CString) : (obj : HeapObject) →
    obj.IsClonable → cloneObject uninit obj = obj
  | .nullPointer, _ => rfl
  | .payload payload, h => by rw [cloneObject, repPayloadClone_eq uninit payload h]

end

end Iochibity.Ocf

namespace Iochibity.Ocf.RepTree

open Coap (CString)
open List

inductive OCPayloadInterfaceType
  | nonBatchInterface | batchInterface
  deriving DecidableEq

mutual

/-- `OCRepPayload`, but for `next`. -/
inductive Payload
  | mk (uri : Option CString) (types interfaces : List CString)
      (ifType : OCPayloadInterfaceType) (values : List Value)

/-- `OCRepPayloadValue`. -/
inductive Value
  | mk (name : CString) (contents : Contents)

inductive Contents
  | null
  | int (i : Int64)
  | double (bits : UInt64)
  | bool (b : Bool)
  | string (str : Option CString)
  | byteString (bytes : List UInt8)
  | object (obj : Object)
  | array (dimensions : RepDimensions) (arr : Array)

inductive Object
  | nullPointer
  | payload (payload : Payload)

inductive Array
  | null
  | int (cells : List Int64)
  | double (cells : List UInt64)
  | bool (cells : List Bool)
  | string (cells : List (Option CString))
  | byteString (cells : List (List UInt8))
  | object (cells : List Object)
  | array (cells : List Object)

end

section Clone

variable (uninit : ℕ → Option CString)

mutual

/-- `OCRepPayloadClone`. The kind is the one of `OCRepPayloadCreate`. -/
def repPayloadClone : Payload → Payload
  | .mk uri types interfaces _ values =>
    .mk uri types interfaces .nonBatchInterface (repPayloadValueClone values)

def repPayloadValueClone : List Value → List Value
  | [] => []
  | .mk name contents :: rest =>
    .mk name (copyPropertyValue contents) :: repPayloadValueClone rest

def copyPropertyValue : Contents → Contents
  | .object obj => .object (cloneObject obj)
  | .array dimensions arr => .array dimensions (copyPropertyValueArray arr)
  | contents => contents

def copyPropertyValueArray : Array → Array
  | .string cells => .string (cloneStrings uninit cells)
  | .byteString cells => .byteString (cloneByteStrings cells)
  | .object cells => .object (cloneObjects cells)
  | .array cells => .array (cloneObjects cells)
  | arr => arr

def cloneObjects : List Object → List Object
  | [] => []
  | obj :: rest => cloneObject obj :: cloneObjects rest

/-- `OCRepPayloadClone` of a pointer. -/
def cloneObject : Object → Object
  | .nullPointer => .nullPointer
  | .payload payload => .payload (repPayloadClone payload)

end

end Clone

def IsCopied (payload : Payload) : Prop := ∀ uninit, repPayloadClone uninit payload = payload

/-! ## What is copied -/

mutual

/-- **No payload of the tree is for a batch interface**, no null stands before the last cell of
an array of texts, and no empty byte string before one that is not empty. -/
def Payload.Copyable : Payload → Prop
  | .mk _ _ _ ifType values => ifType = .nonBatchInterface ∧ ValuesCopyable values

def ValuesCopyable : List Value → Prop
  | [] => True
  | .mk _ contents :: rest => contents.Copyable ∧ ValuesCopyable rest

def Contents.Copyable : Contents → Prop
  | .object obj => obj.Copyable
  | .array _ arr => arr.Copyable
  | _ => True

def Array.Copyable : Array → Prop
  | .string cells => none ∉ cells.dropLast
  | .byteString cells => cells.Pairwise (fun b c => b = [] → c = [])
  | .object cells => ObjectsCopyable cells
  | .array cells => ObjectsCopyable cells
  | _ => True

def ObjectsCopyable : List Object → Prop
  | [] => True
  | obj :: rest => obj.Copyable ∧ ObjectsCopyable rest

def Object.Copyable : Object → Prop
  | .nullPointer => True
  | .payload payload => payload.Copyable

end

lemma cloneStrings_iff (cells : List (Option CString)) :
    (∀ uninit, cloneStrings uninit cells = cells) ↔ none ∉ cells.dropLast := by
  constructor
  · intro h
    induction cells with
    | nil => exact not_mem_nil
    | cons cell rest ih =>
      cases cell with
      | some str =>
        have hrest := ih fun uninit => (List.cons.inj (h uninit)).2
        cases rest with
        | nil => exact not_mem_nil
        | cons next rest =>
          rw [dropLast_cons_cons, mem_cons, not_or]
          exact ⟨(Option.some_ne_none str).symm, hrest⟩
      | none =>
        cases rest with
        | nil => exact not_mem_nil
        | cons next rest =>
          have hbehind : ∀ uninit : ℕ → Option CString, uninit 0 = next := by
            intro uninit
            have htail := (List.cons.inj (h uninit)).2
            rw [length_cons, range_succ_eq_map, map_cons] at htail
            exact (List.cons.inj htail).1
          have htwo := (hbehind fun _ => none).trans (hbehind fun _ => some (.const "a")).symm
          exact absurd htwo.symm (Option.some_ne_none _)
  · intro h uninit
    exact cloneStrings_eq uninit h

lemma cloneByteStrings_iff (cells : List (List UInt8)) :
    cloneByteStrings cells = cells ↔ cells.Pairwise (fun b c => b = [] → c = []) := by
  refine ⟨fun h => ?_, cloneByteStrings_eq⟩
  induction cells with
  | nil => exact List.Pairwise.nil
  | cons bytes rest ih =>
    have htail := (List.cons.inj h).2
    by_cases hempty : bytes = []
    · rw [if_pos hempty] at htail
      have hnothing : ∀ c ∈ rest, c = [] := by
        intro c hc
        rw [← htail] at hc
        exact eq_of_mem_replicate hc
      refine pairwise_cons.mpr ⟨fun c hc _ => hnothing c hc, ?_⟩
      exact pairwise_of_forall_mem_list fun b _ c hc _ => hnothing c hc
    rw [if_neg hempty] at htail
    exact pairwise_cons.mpr ⟨fun c _ h => absurd h hempty, ih htail⟩

mutual

lemma payload_iff : (payload : Payload) →
    ((∀ uninit, repPayloadClone uninit payload = payload) ↔ payload.Copyable)
  | .mk uri types interfaces ifType values => by
    have hkind : (∀ _ : ℕ → Option CString, OCPayloadInterfaceType.nonBatchInterface = ifType)
        ↔ ifType = .nonBatchInterface := forall_const _ |>.trans eq_comm
    simp only [repPayloadClone, Payload.mk.injEq, true_and, forall_and, values_iff values, hkind,
      Payload.Copyable]

lemma values_iff : (values : List Value) →
    ((∀ uninit, repPayloadValueClone uninit values = values) ↔ ValuesCopyable values)
  | [] => by simp [repPayloadValueClone, ValuesCopyable]
  | .mk name contents :: rest => by
    simp [repPayloadValueClone, forall_and, contents_iff contents, values_iff rest, ValuesCopyable]

lemma contents_iff : (contents : Contents) →
    ((∀ uninit, copyPropertyValue uninit contents = contents) ↔ contents.Copyable)
  | .object obj => by
    simp [copyPropertyValue, object_iff obj, Contents.Copyable]
  | .array dimensions arr => by
    simp [copyPropertyValue, array_iff arr, Contents.Copyable]
  | .null | .int _ | .double _ | .bool _ | .string _ | .byteString _ => by
    simp [copyPropertyValue, Contents.Copyable]

lemma array_iff : (arr : Array) →
    ((∀ uninit, copyPropertyValueArray uninit arr = arr) ↔ arr.Copyable)
  | .string cells => by
    simp [copyPropertyValueArray, cloneStrings_iff, Array.Copyable]
  | .byteString cells => by
    simp [copyPropertyValueArray, cloneByteStrings_iff, Array.Copyable]
  | .object cells => by
    simp [copyPropertyValueArray, objects_iff cells, Array.Copyable]
  | .array cells => by
    simp [copyPropertyValueArray, objects_iff cells, Array.Copyable]
  | .null | .int _ | .double _ | .bool _ => by
    simp [copyPropertyValueArray, Array.Copyable]

lemma objects_iff : (cells : List Object) →
    ((∀ uninit, cloneObjects uninit cells = cells) ↔ ObjectsCopyable cells)
  | [] => by simp [cloneObjects, ObjectsCopyable]
  | obj :: rest => by
    simp [cloneObjects, forall_and, object_iff obj, objects_iff rest, ObjectsCopyable]

lemma object_iff : (obj : Object) →
    ((∀ uninit, cloneObject uninit obj = obj) ↔ obj.Copyable)
  | .nullPointer => by simp [cloneObject, Object.Copyable]
  | .payload payload => by
    simp [cloneObject, payload_iff payload, Object.Copyable]

end

/-- **A payload is copied** exactly when it is `Copyable`. -/
theorem repPayloadClone_copied_iff (payload : Payload) : IsCopied payload ↔ payload.Copyable :=
  payload_iff payload

/-- The texts `a`, null and `b`, as they may be received. -/
def holedTexts : Payload :=
  .mk none [] [] .nonBatchInterface
    [.mk (.const "x") (.array ⟨3, 0, 0⟩ (.string [some (.const "a"), none, some (.const "b")]))]

theorem holedTexts_cut : ¬ IsCopied holedTexts := by
  intro h
  have hcopyable := (payload_iff holedTexts).mp h
  simp [holedTexts, Payload.Copyable, ValuesCopyable, Contents.Copyable, Array.Copyable]
    at hcopyable

end Iochibity.Ocf.RepTree
