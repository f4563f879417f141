/-
The setters and getters of representation payloads, `ocpayload.c`.

Allocations succeed.
-/
import Iochibity.Ocf.RepPayload

namespace Iochibity.Ocf.HeapPayload

open Coap (CString)

variable (payload : HeapPayload) (name : Option CString)

/-- `OCRepPayloadFindAndSetValue` with the assignment of the contents. -/
def repPayloadFindAndSetValue (contents : HeapContents) : HeapPayload × Bool :=
  match name with
  | none => (payload, false)
  | some name =>
    (.mk payload.uri payload.types payload.interfaces
      (InsertionOrder.write HeapValue.name (.mk name contents) payload.values), true)

def repPayloadSetProp (contents : HeapContents) : HeapPayload × Bool :=
  let val := payload.repPayloadFindAndSetValue name contents
  match contents with
  -- the null has been assigned when it is seen
  | .string none => (val.1, false)
  | _ => val

def repPayloadSetNull : HeapPayload × Bool :=
  payload.repPayloadSetProp name .null

def repPayloadSetPropInt (value : Int64) : HeapPayload × Bool :=
  payload.repPayloadSetProp name (.int value)

def repPayloadSetPropDouble (value : UInt64) : HeapPayload × Bool :=
  payload.repPayloadSetProp name (.double value)

def repPayloadSetPropBool (value : Bool) : HeapPayload × Bool :=
  payload.repPayloadSetProp name (.bool value)

def repPayloadSetPropStringAsOwner (value : Option CString) : HeapPayload × Bool :=
  payload.repPayloadSetProp name (.string value)

/-- `OCRepPayloadSetPropString`; `OICStrdup` of a null is null. -/
def repPayloadSetPropString (value : Option CString) : HeapPayload × Bool :=
  payload.repPayloadSetPropStringAsOwner name value

def repPayloadSetPropByteStringAsOwner (value : List UInt8) : HeapPayload × Bool :=
  payload.repPayloadSetProp name (.byteString value)

def repPayloadSetPropByteString (value : List UInt8) : HeapPayload × Bool :=
  payload.repPayloadSetPropByteStringAsOwner name value

def repPayloadSetPropObjectAsOwner (value : HeapObject) : HeapPayload × Bool :=
  payload.repPayloadSetProp name (.object value)

section

variable (uninit : ℕ → Option CString) (payload : HeapPayload) (name : Option CString)

def repPayloadSetPropObject (value : HeapObject) : HeapPayload × Bool :=
  payload.repPayloadSetPropObjectAsOwner name (cloneObject uninit value)

/-! ## Setting an array -/

variable {γ : Type} (type : OCRepPayloadPropType) (arr : List γ → HeapArray)

def arrayAt (array : Option (List γ)) (dimensions : RepDimensions) : HeapArray :=
  if calcDimTotal dimensions = 0 then .nullPointer type
  else match array with
    | none => .nullPointer type
    | some cells => arr (cells.take (calcDimTotal dimensions))

def setArrayAsOwner (payload : HeapPayload) (name : Option CString) (array : Option (List γ))
    (dimensions : RepDimensions) : HeapPayload × Bool :=
  payload.repPayloadFindAndSetValue name (.array dimensions (arrayAt type arr array dimensions))

def setArrayCopy (copy : γ → γ) (payload : HeapPayload) (name : Option CString) (array : List γ)
    (dimensions : RepDimensions) : HeapPayload × Bool :=
  if calcDimTotal dimensions = 0 then (payload, false)
  else setArrayAsOwner type arr payload name (some (array.map copy)) dimensions

variable (array : Option (List (List UInt8))) (dimensions : RepDimensions)

def repPayloadSetByteStringArrayAsOwner : HeapPayload × Bool :=
  setArrayAsOwner .byteString .byteString payload name array dimensions

/-- `OCRepPayloadSetByteStringArray`, which looks at the pointer. -/
def repPayloadSetByteStringArray : HeapPayload × Bool :=
  match array with
  | none => (payload, false)
  | some cells => setArrayCopy .byteString .byteString id payload name cells dimensions

def repPayloadSetIntArrayAsOwner (array : Option (List Int64))
    (dimensions : RepDimensions) : HeapPayload × Bool :=
  setArrayAsOwner .int .int payload name array dimensions

/-- `OCRepPayloadSetIntArray`, which takes any dimensions and any pointer. -/
def repPayloadSetIntArray (uninitInts : ℕ → Int64) (payload : HeapPayload)
    (name : Option CString) (array : Option (List Int64)) (dimensions : RepDimensions) :
    HeapPayload × Bool :=
  payload.repPayloadSetIntArrayAsOwner name
    (some (array.getD ((List.range (calcDimTotal dimensions)).map uninitInts))) dimensions

def repPayloadSetDoubleArrayAsOwner (array : Option (List UInt64))
    (dimensions : RepDimensions) : HeapPayload × Bool :=
  setArrayAsOwner .double .double payload name array dimensions

def repPayloadSetDoubleArray (array : List UInt64)
    (dimensions : RepDimensions) : HeapPayload × Bool :=
  setArrayCopy .double .double id payload name array dimensions

def repPayloadSetStringArrayAsOwner (array : Option (List (Option CString)))
    (dimensions : RepDimensions) : HeapPayload × Bool :=
  setArrayAsOwner .string .string payload name array dimensions

def repPayloadSetStringArray (array : List (Option CString))
    (dimensions : RepDimensions) : HeapPayload × Bool :=
  setArrayCopy .string .string id payload name array dimensions

def repPayloadSetBoolArrayAsOwner (array : Option (List Bool))
    (dimensions : RepDimensions) : HeapPayload × Bool :=
  setArrayAsOwner .bool .bool payload name array dimensions

def repPayloadSetBoolArray (array : List Bool) (dimensions : RepDimensions) : HeapPayload × Bool :=
  setArrayCopy .bool .bool id payload name array dimensions

def repPayloadSetPropObjectArrayAsOwner (array : Option (List HeapObject))
    (dimensions : RepDimensions) : HeapPayload × Bool :=
  setArrayAsOwner .object .object payload name array dimensions

def repPayloadSetPropObjectArray (array : List HeapObject) (dimensions : RepDimensions) :
    HeapPayload × Bool :=
  setArrayCopy .object .object (cloneObject uninit) payload name array dimensions

section

variable (payload : HeapPayload)

def repPayloadAddResourceTypeAsOwner (resourceType : Option CString) : HeapPayload × Bool :=
  match resourceType with
  | none => (payload, false)
  | some resourceType =>
    (.mk payload.uri (payload.types ++ [resourceType]) payload.interfaces payload.values, true)

def repPayloadAddResourceType (resourceType : Option CString) : HeapPayload × Bool :=
  payload.repPayloadAddResourceTypeAsOwner resourceType

def repPayloadAddInterfaceAsOwner (iface : Option CString) : HeapPayload × Bool :=
  match iface with
  | none => (payload, false)
  | some iface =>
    (.mk payload.uri payload.types (payload.interfaces ++ [iface]) payload.values, true)

def repPayloadAddInterface (iface : Option CString) : HeapPayload × Bool :=
  payload.repPayloadAddInterfaceAsOwner iface

end

/-! ## Getting a value -/

def repPayloadFindValue : Option HeapContents :=
  name.bind (fun name =>
    (InsertionOrder.lookup HeapValue.name name payload.values).map HeapValue.contents)

def repPayloadIsNull : Bool :=
  match payload.repPayloadFindValue name with
  | none => true
  | some .null => true
  | some _ => false

def repPayloadGetPropInt : Option Int64 :=
  match payload.repPayloadFindValue name with
  | some (.int i) => some i
  | _ => none

section

variable (toDouble : Int64 → UInt64) (payload : HeapPayload) (name : Option CString)

def repPayloadGetPropDouble : Option UInt64 :=
  match payload.repPayloadFindValue name with
  | some (.double bits) => some bits
  | some (.int i) => some (toDouble i)
  | _ => none

def repPayloadGetPropString : Option CString :=
  match payload.repPayloadFindValue name with
  | some (.string str) => str
  | _ => none

def repPayloadGetPropByteString : Option (List UInt8) :=
  match payload.repPayloadFindValue name with
  | some (.byteString bytes) => some bytes
  | _ => none

def repPayloadGetPropBool : Option Bool :=
  match payload.repPayloadFindValue name with
  | some (.bool b) => some b
  | _ => none

def repPayloadGetPropObject : Option HeapPayload :=
  match payload.repPayloadFindValue name with
  | some (.object (.payload obj)) => some (repPayloadClone uninit obj)
  | _ => none

def getArray {γ : Type} (cells : HeapArray → Option (List γ)) (payload : HeapPayload)
    (name : Option CString) : Option (List γ × RepDimensions) :=
  match payload.repPayloadFindValue name with
  | some (.array dimensions arr) =>
    if calcDimTotal dimensions = 0 then none else (cells arr).map (·, dimensions)
  | _ => none

def repPayloadGetIntArray : Option (List Int64 × RepDimensions) :=
  getArray HeapArray.intCells payload name

def repPayloadGetDoubleArray : Option (List UInt64 × RepDimensions) :=
  getArray (HeapArray.doubleCells toDouble) payload name

end

def repPayloadGetBoolArray : Option (List Bool × RepDimensions) :=
  getArray HeapArray.boolCells payload name

def repPayloadGetStringArray : Option (List (Option CString) × RepDimensions) :=
  getArray HeapArray.stringCells payload name

def repPayloadGetByteStringArray : Option (List (List UInt8) × RepDimensions) :=
  getArray HeapArray.byteStringCells payload name

def repPayloadGetPropObjectArray : Option (List HeapObject × RepDimensions) :=
  getArray (fun arr => arr.objectCells.map (List.map (cloneObject uninit))) payload name

end

end Iochibity.Ocf.HeapPayload

namespace Iochibity.Ocf

open Coap (CString)
open List

/-! ## Calls -/

inductive RepCall
  | setNull (name : Option CString)
  | setPropInt (name : Option CString) (value : Int64)
  | setPropDouble (name : Option CString) (value : UInt64)
  | setPropBool (name : Option CString) (value : Bool)
  | setPropString (name value : Option CString)
  | setPropStringAsOwner (name value : Option CString)
  | setPropByteString (name : Option CString) (value : List UInt8)
  | setPropByteStringAsOwner (name : Option CString) (value : List UInt8)
  | setPropObject (name : Option CString) (value : HeapObject)
  | setPropObjectAsOwner (name : Option CString) (value : HeapObject)
  | setIntArray (name : Option CString) (array : Option (List Int64))
      (dimensions : RepDimensions)
  | setIntArrayAsOwner (name : Option CString) (array : Option (List Int64))
      (dimensions : RepDimensions)
  | setDoubleArray (name : Option CString) (array : List UInt64) (dimensions : RepDimensions)
  | setDoubleArrayAsOwner (name : Option CString) (array : Option (List UInt64))
      (dimensions : RepDimensions)
  | setBoolArray (name : Option CString) (array : List Bool) (dimensions : RepDimensions)
  | setBoolArrayAsOwner (name : Option CString) (array : Option (List Bool))
      (dimensions : RepDimensions)
  | setStringArray (name : Option CString) (array : List (Option CString))
      (dimensions : RepDimensions)
  | setStringArrayAsOwner (name : Option CString) (array : Option (List (Option CString)))
      (dimensions : RepDimensions)
  | setByteStringArray (name : Option CString) (array : Option (List (List UInt8)))
      (dimensions : RepDimensions)
  | setByteStringArrayAsOwner (name : Option CString) (array : Option (List (List UInt8)))
      (dimensions : RepDimensions)
  | setPropObjectArray (name : Option CString) (array : List HeapObject)
      (dimensions : RepDimensions)
  | setPropObjectArrayAsOwner (name : Option CString) (array : Option (List HeapObject))
      (dimensions : RepDimensions)
  | addResourceType (resourceType : Option CString)
  | addResourceTypeAsOwner (resourceType : Option CString)
  | addInterface (iface : Option CString)
  | addInterfaceAsOwner (iface : Option CString)

section Run

variable (uninit : ℕ → Option CString) (uninitInts : ℕ → Int64)

open HeapPayload in
def RepCall.run (payload : HeapPayload) : RepCall → HeapPayload × Bool
  | setNull name => payload.repPayloadSetNull name
  | setPropInt name value => payload.repPayloadSetPropInt name value
  | setPropDouble name value => payload.repPayloadSetPropDouble name value
  | setPropBool name value => payload.repPayloadSetPropBool name value
  | setPropString name value => payload.repPayloadSetPropString name value
  | setPropStringAsOwner name value => payload.repPayloadSetPropStringAsOwner name value
  | setPropByteString name value => payload.repPayloadSetPropByteString name value
  | setPropByteStringAsOwner name value => payload.repPayloadSetPropByteStringAsOwner name value
  | setPropObject name value => repPayloadSetPropObject uninit payload name value
  | setPropObjectAsOwner name value => payload.repPayloadSetPropObjectAsOwner name value
  | setIntArray name array dimensions =>
    repPayloadSetIntArray uninitInts payload name array dimensions
  | setIntArrayAsOwner name array dimensions =>
    payload.repPayloadSetIntArrayAsOwner name array dimensions
  | setDoubleArray name array dimensions =>
    payload.repPayloadSetDoubleArray name array dimensions
  | setDoubleArrayAsOwner name array dimensions =>
    payload.repPayloadSetDoubleArrayAsOwner name array dimensions
  | setBoolArray name array dimensions => payload.repPayloadSetBoolArray name array dimensions
  | setBoolArrayAsOwner name array dimensions =>
    payload.repPayloadSetBoolArrayAsOwner name array dimensions
  | setStringArray name array dimensions =>
    payload.repPayloadSetStringArray name array dimensions
  | setStringArrayAsOwner name array dimensions =>
    payload.repPayloadSetStringArrayAsOwner name array dimensions
  | setByteStringArray name array dimensions =>
    payload.repPayloadSetByteStringArray name array dimensions
  | setByteStringArrayAsOwner name array dimensions =>
    payload.repPayloadSetByteStringArrayAsOwner name array dimensions
  | setPropObjectArray name array dimensions =>
    repPayloadSetPropObjectArray uninit payload name array dimensions
  | setPropObjectArrayAsOwner name array dimensions =>
    payload.repPayloadSetPropObjectArrayAsOwner name array dimensions
  | addResourceType resourceType => payload.repPayloadAddResourceType resourceType
  | addResourceTypeAsOwner resourceType => payload.repPayloadAddResourceTypeAsOwner resourceType
  | addInterface iface => payload.repPayloadAddInterface iface
  | addInterfaceAsOwner iface => payload.repPayloadAddInterfaceAsOwner iface

def runCalls (calls : List RepCall) : HeapPayload :=
  calls.foldl (fun payload call => (call.run uninit uninitInts payload).1) repPayloadCreate

end Run

/-! ## What a call means -/

def givenArray {γ : Type} (type : OCRepPayloadPropType) (arr : List γ → HeapArray)
    (array : Option (List γ)) (dimensions : RepDimensions) : HeapContents :=
  .array dimensions (HeapPayload.arrayAt type arr array dimensions)

/-- **The value a call sets**, unless there is no name or it has an array to copy and there
are no cells. -/
def RepCall.meaning : RepCall → Option HeapValue
  | setNull name => name.map (.mk · .null)
  | setPropInt name value => name.map (.mk · (.int value))
  | setPropDouble name value => name.map (.mk · (.double value))
  | setPropBool name value => name.map (.mk · (.bool value))
  | setPropString name value => name.map (.mk · (.string value))
  | setPropStringAsOwner name value => name.map (.mk · (.string value))
  | setPropByteString name value => name.map (.mk · (.byteString value))
  | setPropByteStringAsOwner name value => name.map (.mk · (.byteString value))
  | setPropObject name value => name.map (.mk · (.object value))
  | setPropObjectAsOwner name value => name.map (.mk · (.object value))
  | setIntArray name array dimensions => name.map (.mk · (givenArray .int .int array dimensions))
  | setIntArrayAsOwner name array dimensions =>
    name.map (.mk · (givenArray .int .int array dimensions))
  | setDoubleArray name array dimensions =>
    if calcDimTotal dimensions = 0 then none
    else name.map (.mk · (givenArray .double .double (some array) dimensions))
  | setDoubleArrayAsOwner name array dimensions =>
    name.map (.mk · (givenArray .double .double array dimensions))
  | setBoolArray name array dimensions =>
    if calcDimTotal dimensions = 0 then none
    else name.map (.mk · (givenArray .bool .bool (some array) dimensions))
  | setBoolArrayAsOwner name array dimensions =>
    name.map (.mk · (givenArray .bool .bool array dimensions))
  | setStringArray name array dimensions =>
    if calcDimTotal dimensions = 0 then none
    else name.map (.mk · (givenArray .string .string (some array) dimensions))
  | setStringArrayAsOwner name array dimensions =>
    name.map (.mk · (givenArray .string .string array dimensions))
  | setByteStringArray name array dimensions =>
    if array = none ∨ calcDimTotal dimensions = 0 then none
    else name.map (.mk · (givenArray .byteString .byteString array dimensions))
  | setByteStringArrayAsOwner name array dimensions =>
    name.map (.mk · (givenArray .byteString .byteString array dimensions))
  | setPropObjectArray name array dimensions =>
    if calcDimTotal dimensions = 0 then none
    else name.map (.mk · (givenArray .object .object (some array) dimensions))
  | setPropObjectArrayAsOwner name array dimensions =>
    name.map (.mk · (givenArray .object .object array dimensions))
  | addResourceType _ => none
  | addResourceTypeAsOwner _ => none
  | addInterface _ => none
  | addInterfaceAsOwner _ => none

/-- What a caller keeps to: a text is given, an array to copy has the cells of its
dimensions, and objects can be copied. -/
def RepCall.IsAllowed : RepCall → Prop
  | setPropString _ value => value ≠ none
  | setPropStringAsOwner _ value => value ≠ none
  | setPropObject _ value => value.IsClonable
  | setPropObjectAsOwner _ value => value.IsClonable
  | setIntArray _ array dimensions => calcDimTotal dimensions = 0 ∨ array ≠ none
  | setPropObjectArray _ array _ => ObjectsClonable array
  | setPropObjectArrayAsOwner _ array _ => ObjectsClonable (array.getD [])
  | _ => True

def lastSet (calls : List RepCall) (name : CString) : Option HeapContents :=
  (InsertionOrder.lookup HeapValue.name name (calls.filterMap RepCall.meaning).reverse).map
    HeapValue.contents

/-! ## The values of a type -/

namespace HeapContents

def asInt : HeapContents → Option Int64
  | .int i => some i
  | _ => none

def asDouble (toDouble : Int64 → UInt64) : HeapContents → Option UInt64
  | .double bits => some bits
  | .int i => some (toDouble i)
  | _ => none

def asBool : HeapContents → Option Bool
  | .bool b => some b
  | _ => none

def asString : HeapContents → Option CString
  | .string str => str
  | _ => none

def asByteString : HeapContents → Option (List UInt8)
  | .byteString bytes => some bytes
  | _ => none

def asObject : HeapContents → Option HeapPayload
  | .object (.payload obj) => some obj
  | _ => none

def asArray {γ : Type} (cells : HeapArray → Option (List γ)) :
    HeapContents → Option (List γ × RepDimensions)
  | .array dimensions arr =>
    if calcDimTotal dimensions = 0 then none else (cells arr).map (·, dimensions)
  | _ => none

def isNull : HeapContents → Bool
  | .null => true
  | _ => false

end HeapContents

/-- **The payload is the map that the calls made.** The names are different, in the order of the
first calls for them, and each getter answers what was set last under the name, if it is of its
type. -/
structure IsMapOf (toDouble : Int64 → UInt64) (uninit : ℕ → Option CString)
    (payload : HeapPayload) (calls : List RepCall) : Prop where
  nodup : (payload.values.map HeapValue.name).Nodup
  order : payload.values.map HeapValue.name
    = InsertionOrder.firstOccurrences ((calls.filterMap RepCall.meaning).map HeapValue.name)
  isNull : ∀ name, payload.repPayloadIsNull name
    = ((name.bind (lastSet calls)).map HeapContents.isNull).getD true
  getPropInt : ∀ name, payload.repPayloadGetPropInt name
    = (name.bind (lastSet calls)).bind HeapContents.asInt
  getPropDouble : ∀ name, HeapPayload.repPayloadGetPropDouble toDouble payload name
    = (name.bind (lastSet calls)).bind (HeapContents.asDouble toDouble)
  getPropBool : ∀ name, payload.repPayloadGetPropBool name
    = (name.bind (lastSet calls)).bind HeapContents.asBool
  getPropString : ∀ name, payload.repPayloadGetPropString name
    = (name.bind (lastSet calls)).bind HeapContents.asString
  getPropByteString : ∀ name, payload.repPayloadGetPropByteString name
    = (name.bind (lastSet calls)).bind HeapContents.asByteString
  getPropObject : ∀ name, HeapPayload.repPayloadGetPropObject uninit payload name
    = (name.bind (lastSet calls)).bind HeapContents.asObject
  getIntArray : ∀ name, payload.repPayloadGetIntArray name
    = (name.bind (lastSet calls)).bind (HeapContents.asArray HeapArray.intCells)
  getDoubleArray : ∀ name, HeapPayload.repPayloadGetDoubleArray toDouble payload name
    = (name.bind (lastSet calls)).bind (HeapContents.asArray (HeapArray.doubleCells toDouble))
  getBoolArray : ∀ name, payload.repPayloadGetBoolArray name
    = (name.bind (lastSet calls)).bind (HeapContents.asArray HeapArray.boolCells)
  getStringArray : ∀ name, payload.repPayloadGetStringArray name
    = (name.bind (lastSet calls)).bind (HeapContents.asArray HeapArray.stringCells)
  getByteStringArray : ∀ name, payload.repPayloadGetByteStringArray name
    = (name.bind (lastSet calls)).bind (HeapContents.asArray HeapArray.byteStringCells)
  getPropObjectArray : ∀ name, HeapPayload.repPayloadGetPropObjectArray uninit payload name
    = (name.bind (lastSet calls)).bind (HeapContents.asArray HeapArray.objectCells)

/-! ## One call -/

def writeMeaning (values : List HeapValue) : Option HeapValue → List HeapValue
  | none => values
  | some value => InsertionOrder.write HeapValue.name value values

structure Means (payload : HeapPayload) (outcome : HeapPayload × Bool)
    (meaning : Option HeapValue) : Prop where
  values : outcome.1.values = writeMeaning payload.values meaning
  failed : outcome.2 = false → outcome.1 = payload

variable (payload : HeapPayload) (name : Option CString) (contents : HeapContents)

lemma findAndSetValue_means :
    Means payload (payload.repPayloadFindAndSetValue name contents)
      (name.map (.mk · contents)) := by
  cases name with
  | none => exact ⟨rfl, fun _ => rfl⟩
  | some name => exact ⟨rfl, fun h => absurd h Bool.noConfusion⟩

lemma setProp_means (h : contents ≠ .string none) :
    Means payload (payload.repPayloadSetProp name contents) (name.map (.mk · contents)) := by
  have heq : payload.repPayloadSetProp name contents
      = payload.repPayloadFindAndSetValue name contents := by
    unfold HeapPayload.repPayloadSetProp
    split
    · exact absurd rfl h
    · rfl
  rw [heq]
  exact findAndSetValue_means payload name contents

variable {γ : Type} (type : OCRepPayloadPropType) (arr : List γ → HeapArray)

lemma setArrayAsOwner_means (payload : HeapPayload) (name : Option CString)
    (array : Option (List γ)) (dimensions : RepDimensions) :
    Means payload (HeapPayload.setArrayAsOwner type arr payload name array dimensions)
      (name.map (.mk · (givenArray type arr array dimensions))) :=
  findAndSetValue_means payload name _

lemma setArrayCopy_means {copy : γ → γ} (payload : HeapPayload) (name : Option CString)
    {array : List γ} (dimensions : RepDimensions) (h : array.map copy = array) :
    Means payload (HeapPayload.setArrayCopy type arr copy payload name array dimensions)
      (if calcDimTotal dimensions = 0 then none
        else name.map (.mk · (givenArray type arr (some array) dimensions))) := by
  unfold HeapPayload.setArrayCopy
  rw [h]
  split_ifs
  · exact ⟨rfl, fun _ => rfl⟩
  · exact setArrayAsOwner_means type arr payload name (some array) dimensions

lemma objectsClonable_iff (cells : List HeapObject) :
    ObjectsClonable cells ↔ ∀ obj ∈ cells, obj.IsClonable := by
  induction cells with
  | nil => exact iff_of_true trivial (fun _ h => absurd h not_mem_nil)
  | cons obj rest ih => rw [ObjectsClonable, forall_mem_cons, ih]

lemma map_cloneObject (uninit : ℕ → Option CString) {cells : List HeapObject}
    (h : ObjectsClonable cells) : cells.map (cloneObject uninit) = cells := by
  rw [objectsClonable_iff] at h
  rw [map_congr_left (fun obj hmem => cloneObject_eq uninit obj (h obj hmem))]
  simp

section

variable (uninit : ℕ → Option CString) (uninitInts : ℕ → Int64)

lemma run_means (payload : HeapPayload) (call : RepCall) (h : call.IsAllowed) :
    Means payload (call.run uninit uninitInts payload) call.meaning := by
  have hid : ∀ {γ : Type} (array : List γ), array.map id = array :=
    fun array => map_id array
  cases call with
  | setNull name => exact setProp_means payload name .null (by simp)
  | setPropInt name value => exact setProp_means payload name (.int value) (by simp)
  | setPropDouble name value => exact setProp_means payload name (.double value) (by simp)
  | setPropBool name value => exact setProp_means payload name (.bool value) (by simp)
  | setPropString name value =>
    exact setProp_means payload name (.string value) (fun heq => h (HeapContents.string.inj heq))
  | setPropStringAsOwner name value =>
    exact setProp_means payload name (.string value) (fun heq => h (HeapContents.string.inj heq))
  | setPropByteString name value => exact setProp_means payload name (.byteString value) (by simp)
  | setPropByteStringAsOwner name value =>
    exact setProp_means payload name (.byteString value) (by simp)
  | setPropObject name value =>
    have hclone := cloneObject_eq uninit value h
    rw [RepCall.run, HeapPayload.repPayloadSetPropObject, hclone]
    exact setProp_means payload name (.object value) (by simp)
  | setPropObjectAsOwner name value => exact setProp_means payload name (.object value) (by simp)
  | setIntArray name array dimensions =>
    have hgiven : givenArray .int .int
        (some (array.getD ((List.range (calcDimTotal dimensions)).map uninitInts))) dimensions
          = givenArray .int .int array dimensions := by
      unfold givenArray HeapPayload.arrayAt
      rcases h with hzero | hsome
      · simp [hzero]
      obtain ⟨cells, rfl⟩ := Option.ne_none_iff_exists'.mp hsome
      rfl
    rw [RepCall.meaning, ← hgiven]
    exact setArrayAsOwner_means .int .int payload name _ dimensions
  | setIntArrayAsOwner name array dimensions =>
    exact setArrayAsOwner_means .int .int payload name array dimensions
  | setDoubleArray name array dimensions =>
    exact setArrayCopy_means .double .double payload name dimensions (hid array)
  | setDoubleArrayAsOwner name array dimensions =>
    exact setArrayAsOwner_means .double .double payload name array dimensions
  | setBoolArray name array dimensions =>
    exact setArrayCopy_means .bool .bool payload name dimensions (hid array)
  | setBoolArrayAsOwner name array dimensions =>
    exact setArrayAsOwner_means .bool .bool payload name array dimensions
  | setStringArray name array dimensions =>
    exact setArrayCopy_means .string .string payload name dimensions (hid array)
  | setStringArrayAsOwner name array dimensions =>
    exact setArrayAsOwner_means .string .string payload name array dimensions
  | setByteStringArray name array dimensions =>
    cases array with
    | none => exact ⟨rfl, fun _ => rfl⟩
    | some cells =>
      have hcopy := setArrayCopy_means .byteString .byteString payload name dimensions (hid cells)
      simp only [RepCall.meaning, reduceCtorEq, false_or]
      exact hcopy
  | setByteStringArrayAsOwner name array dimensions =>
    exact setArrayAsOwner_means .byteString .byteString payload name array dimensions
  | setPropObjectArray name array dimensions =>
    exact setArrayCopy_means .object .object payload name dimensions (map_cloneObject uninit h)
  | setPropObjectArrayAsOwner name array dimensions =>
    exact setArrayAsOwner_means .object .object payload name array dimensions
  | addResourceType resourceType =>
    cases resourceType with
    | none => exact ⟨rfl, fun _ => rfl⟩
    | some resourceType => exact ⟨rfl, fun h => absurd h Bool.noConfusion⟩
  | addResourceTypeAsOwner resourceType =>
    cases resourceType with
    | none => exact ⟨rfl, fun _ => rfl⟩
    | some resourceType => exact ⟨rfl, fun h => absurd h Bool.noConfusion⟩
  | addInterface iface =>
    cases iface with
    | none => exact ⟨rfl, fun _ => rfl⟩
    | some iface => exact ⟨rfl, fun h => absurd h Bool.noConfusion⟩
  | addInterfaceAsOwner iface =>
    cases iface with
    | none => exact ⟨rfl, fun _ => rfl⟩
    | some iface => exact ⟨rfl, fun h => absurd h Bool.noConfusion⟩

/-! ## Any number of calls -/

lemma runCalls_values (calls : List RepCall) (h : ∀ call ∈ calls, call.IsAllowed) :
    (runCalls uninit uninitInts calls).values = (calls.filterMap RepCall.meaning).foldl
          (fun values value => InsertionOrder.write HeapValue.name value values) [] := by
  induction calls using List.reverseRecOn with
  | nil => rfl
  | append_singleton calls call ih =>
    rw [forall_mem_append] at h
    have hcall := (run_means uninit uninitInts (runCalls uninit uninitInts calls) call
      (h.2 call (mem_singleton_self call))).values
    rw [runCalls, foldl_append, ← runCalls, foldl_cons, foldl_nil, hcall,
      ih h.1, filterMap_append, foldl_append]
    cases hmeaning : call.meaning with
    | none | some => simp [writeMeaning, hmeaning]

def HeapContents.ObjectsCopied : HeapContents → Prop
  | .object obj => obj.IsClonable
  | .array _ (.object cells) => ObjectsClonable cells
  | _ => True

lemma givenArray_objectsCopied {γ : Type} {type : OCRepPayloadPropType}
    {arr : List γ → HeapArray} {array : Option (List γ)} (dimensions : RepDimensions)
    (h : ∀ n, (HeapContents.array dimensions (arr ((array.getD []).take n))).ObjectsCopied) :
    (givenArray type arr array dimensions).ObjectsCopied := by
  unfold givenArray HeapPayload.arrayAt
  split_ifs
  · trivial
  · cases array with
    | none => trivial
    | some cells => exact h (calcDimTotal dimensions)

lemma meaning_objectsCopied {call : RepCall} (h : call.IsAllowed) {value : HeapValue}
    (hmeaning : call.meaning = some value) : value.contents.ObjectsCopied := by
  have hmap : ∀ {name : Option CString} {contents : HeapContents},
      name.map (HeapValue.mk · contents) = some value → contents.ObjectsCopied →
      value.contents.ObjectsCopied := by
    intro name contents hsome hcontents
    obtain ⟨name, -, rfl⟩ := Option.map_eq_some_iff.mp hsome
    exact hcontents
  have htake : ∀ {cells : List HeapObject}, ObjectsClonable cells → ∀ n,
      ObjectsClonable (cells.take n) := by
    intro cells hcells n
    rw [objectsClonable_iff] at hcells ⊢
    exact fun obj hmem => hcells obj (mem_of_mem_take hmem)
  have hplain : ∀ {γ : Type} {type : OCRepPayloadPropType} {arr : List γ → HeapArray}
      {array : Option (List γ)} {name : Option CString} {dimensions : RepDimensions},
      name.map (HeapValue.mk · (givenArray type arr array dimensions)) = some value →
      (∀ cells, (HeapContents.array dimensions (arr cells)).ObjectsCopied) →
      value.contents.ObjectsCopied :=
    fun hsome hcells => hmap hsome (givenArray_objectsCopied _ (fun _ => hcells _))
  cases call with
  | setNull name => exact hmap hmeaning trivial
  | setPropInt name value => exact hmap hmeaning trivial
  | setPropDouble name value => exact hmap hmeaning trivial
  | setPropBool name value => exact hmap hmeaning trivial
  | setPropString name value => exact hmap hmeaning trivial
  | setPropStringAsOwner name value => exact hmap hmeaning trivial
  | setPropByteString name value => exact hmap hmeaning trivial
  | setPropByteStringAsOwner name value => exact hmap hmeaning trivial
  | setPropObject | setPropObjectAsOwner => exact hmap hmeaning h
  | setIntArray | setIntArrayAsOwner => exact hplain hmeaning (fun _ => trivial)
  | setDoubleArray name array dimensions =>
    rw [RepCall.meaning] at hmeaning
    split_ifs at hmeaning
    exact hplain hmeaning (fun _ => trivial)
  | setDoubleArrayAsOwner name array dimensions => exact hplain hmeaning (fun _ => trivial)
  | setBoolArray name array dimensions =>
    rw [RepCall.meaning] at hmeaning
    split_ifs at hmeaning
    exact hplain hmeaning (fun _ => trivial)
  | setBoolArrayAsOwner name array dimensions => exact hplain hmeaning (fun _ => trivial)
  | setStringArray name array dimensions =>
    rw [RepCall.meaning] at hmeaning
    split_ifs at hmeaning
    exact hplain hmeaning (fun _ => trivial)
  | setStringArrayAsOwner name array dimensions => exact hplain hmeaning (fun _ => trivial)
  | setByteStringArray name array dimensions =>
    rw [RepCall.meaning] at hmeaning
    split_ifs at hmeaning
    exact hplain hmeaning (fun _ => trivial)
  | setByteStringArrayAsOwner name array dimensions => exact hplain hmeaning (fun _ => trivial)
  | setPropObjectArray name array dimensions =>
    rw [RepCall.meaning] at hmeaning
    split_ifs at hmeaning
    exact hmap hmeaning (givenArray_objectsCopied dimensions (htake h))
  | setPropObjectArrayAsOwner name array dimensions =>
    exact hmap hmeaning (givenArray_objectsCopied dimensions (htake h))
  | addResourceType resourceType => cases hmeaning
  | addResourceTypeAsOwner resourceType => cases hmeaning
  | addInterface iface => cases hmeaning
  | addInterfaceAsOwner iface => cases hmeaning

lemma findValue_runCalls (calls : List RepCall) (h : ∀ call ∈ calls, call.IsAllowed)
    (name : Option CString) :
    (runCalls uninit uninitInts calls).repPayloadFindValue name = name.bind (lastSet calls)
      ∧ ∀ contents ∈ name.bind (lastSet calls), contents.ObjectsCopied := by
  constructor
  · unfold HeapPayload.repPayloadFindValue lastSet
    rw [runCalls_values uninit uninitInts calls h]
    simp [InsertionOrder.lookup_foldl_write]
  · intro contents hcontents
    obtain ⟨key, -, hlast⟩ := Option.bind_eq_some_iff.mp hcontents
    obtain ⟨value, hvalue, rfl⟩ := Option.map_eq_some_iff.mp hlast
    have hmem := mem_of_find?_eq_some hvalue
    rw [mem_reverse, mem_filterMap] at hmem
    obtain ⟨call, hcall, hmeaning⟩ := hmem
    exact meaning_objectsCopied (h call hcall) hmeaning

end

lemma getArray_eq {γ : Type} {payload : HeapPayload} {name : Option CString}
    {last : Option HeapContents} (hfind : payload.repPayloadFindValue name = last)
    (cells : HeapArray → Option (List γ)) :
    HeapPayload.getArray cells payload name = last.bind (HeapContents.asArray cells) := by
  rw [HeapPayload.getArray, hfind]
  cases last with
  | none => rfl
  | some contents => cases contents <;> rfl

/-- **Representation payloads are maps.** After any allowed calls the payload is the map
that they made, and a further allowed call that fails leaves it as it is. -/
theorem rep_payload_isMap (toDouble : Int64 → UInt64) (uninit : ℕ → Option CString)
    (uninitInts : ℕ → Int64) (calls : List RepCall) (h : ∀ call ∈ calls, call.IsAllowed) :
    IsMapOf toDouble uninit (runCalls uninit uninitInts calls) calls
      ∧ ∀ call : RepCall, call.IsAllowed →
          (call.run uninit uninitInts (runCalls uninit uninitInts calls)).2 = false →
          (call.run uninit uninitInts (runCalls uninit uninitInts calls)).1
            = runCalls uninit uninitInts calls := by
  refine ⟨?_, fun call hcall => (run_means uninit uninitInts _ call hcall).failed⟩
  have hfind := fun name => (findValue_runCalls uninit uninitInts calls h name).1
  have hcopied := fun name => (findValue_runCalls uninit uninitInts calls h name).2
  constructor
  case nodup =>
    rw [runCalls_values uninit uninitInts calls h]
    exact InsertionOrder.nodup_foldl_write _
  case order =>
    rw [runCalls_values uninit uninitInts calls h]
    exact InsertionOrder.keys_foldl_write _
  case getPropObject =>
    intro name
    rw [HeapPayload.repPayloadGetPropObject, hfind]
    have hlast := hcopied name
    generalize name.bind (lastSet calls) = last at hlast
    cases last with
    | none => rfl
    | some contents =>
      have hobj := hlast contents rfl
      cases contents with
      | object obj =>
        cases obj with
        | nullPointer => rfl
        | payload obj => exact congrArg some (repPayloadClone_eq uninit obj hobj)
      | _ => rfl
  case getPropObjectArray =>
    intro name
    rw [HeapPayload.repPayloadGetPropObjectArray, getArray_eq (hfind name)]
    have hlast := hcopied name
    generalize name.bind (lastSet calls) = last at hlast
    cases last with
    | none => rfl
    | some contents =>
      have hobj := hlast contents rfl
      cases contents with
      | array dimensions arr =>
        cases arr with
        | object cells =>
          rw [Option.bind_some, Option.bind_some, HeapContents.asArray, HeapContents.asArray,
            HeapArray.objectCells, Option.map_some, map_cloneObject uninit hobj]
        | _ => rfl
      | _ => rfl
  case getIntArray => exact fun name => getArray_eq (hfind name) _
  case getDoubleArray => exact fun name => getArray_eq (hfind name) _
  case getBoolArray => exact fun name => getArray_eq (hfind name) _
  case getStringArray => exact fun name => getArray_eq (hfind name) _
  case getByteStringArray => exact fun name => getArray_eq (hfind name) _
  case isNull | getPropInt | getPropDouble | getPropBool | getPropString | getPropByteString =>
    intro name
    simp only [HeapPayload.repPayloadIsNull, HeapPayload.repPayloadGetPropInt,
      HeapPayload.repPayloadGetPropDouble, HeapPayload.repPayloadGetPropBool,
      HeapPayload.repPayloadGetPropString, HeapPayload.repPayloadGetPropByteString, hfind]
    cases name.bind (lastSet calls) with
    | none => rfl
    | some contents => cases contents <;> rfl

/-- An integer under `"a"`, nothing for a null array that is copied, and then a text under
`"a"`. -/
def retypedCalls : List RepCall :=
  [.setPropInt (some ⟨[97], by decide⟩) 1,
    .setByteStringArray (some ⟨[98], by decide⟩) none ⟨1, 0, 0⟩,
    .setPropString (some ⟨[97], by decide⟩) (some ⟨[120], by decide⟩)]

theorem retypedCalls_isMap :
    IsMapOf (fun _ => 0) (fun _ => none) (runCalls (fun _ => none) (fun _ => 0) retypedCalls)
        retypedCalls
      ∧ lastSet retypedCalls ⟨[97], by decide⟩ = some (.string (some ⟨[120], by decide⟩)) := by
  have hallowed : ∀ call ∈ retypedCalls, call.IsAllowed := by
    intro call hmem
    simp only [retypedCalls, mem_cons, not_mem_nil, or_false] at hmem
    obtain rfl | rfl | rfl := hmem
    · trivial
    · trivial
    · exact Option.some_ne_none _
  exact ⟨(rep_payload_isMap (fun _ => 0) (fun _ => none) (fun _ => 0) retypedCalls hallowed).1, rfl⟩

theorem getters_of_other_types :
    HeapPayload.repPayloadGetPropDouble (fun i => i.toUInt64)
        (runCalls (fun _ => none) (fun _ => 0) [.setPropInt (some ⟨[97], by decide⟩) 1])
        (some ⟨[97], by decide⟩) = some 1
      ∧ repPayloadCreate.repPayloadIsNull (some ⟨[97], by decide⟩) = true
      ∧ (repPayloadCreate.repPayloadSetDoubleArrayAsOwner (some ⟨[97], by decide⟩) (some [])
          ⟨0, 0, 0⟩).2 = true
      ∧ HeapPayload.repPayloadGetDoubleArray (fun i => i.toUInt64)
          (runCalls (fun _ => none) (fun _ => 0)
            [.setDoubleArrayAsOwner (some ⟨[97], by decide⟩) (some []) ⟨0, 0, 0⟩])
          (some ⟨[97], by decide⟩) = none :=
  ⟨rfl, rfl, rfl, rfl⟩

end Iochibity.Ocf
