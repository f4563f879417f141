/-
`ocpayloadconvert.c`, the encoder of representation payloads.
-/
import Iochibity.Lib.CborTree
import Iochibity.Ocf.RepPayload
import Iochibity.Sec.RestQuery

namespace Iochibity.Ocf

open CborTree
open Coap (CString)

abbrev RepItem := Item (List UInt8)

abbrev RepEntry := List UInt8 × RepItem

def ocRsrvdHref : CString := .const "href"
def ocRsrvdResourceType : CString := .const "rt"
def ocRsrvdInterface : CString := .const "if"

def textItem (s : CString) : RepItem := .text s.bytes

/-! ## Names that are numbers -/

def digitOf (base : Nat) (c : UInt8) : Option Nat :=
  let n := if 48 ≤ c ∧ c ≤ 57 then c.toNat - 48
    else if 97 ≤ c ∧ c ≤ 102 then c.toNat - 87
    else if 65 ≤ c ∧ c ≤ 70 then c.toNat - 55
    else base
  if n < base then some n else none

def isDigitOf (base : Nat) (c : UInt8) : Bool := (digitOf base c).isSome

def strtolBase : List UInt8 → Nat × List UInt8
  | 48 :: x :: c :: rest =>
    if (x = 120 ∨ x = 88) ∧ isDigitOf 16 c then (16, c :: rest)
    else (8, 48 :: x :: c :: rest)
  | 48 :: rest => (8, 48 :: rest)
  | s => (10, s)

/-- `strtol` with base 0: the number and what is left. Without a digit the number is 0
and everything is left. -/
def strtol (s : List UInt8) : Int × List UInt8 :=
  let t := s.dropWhile Sec.isSpace
  let (negative, t) := match t with
    | 45 :: rest => (true, rest)
    | 43 :: rest => (false, rest)
    | _ => (false, t)
  let (base, t) := strtolBase t
  let digits := t.takeWhile (isDigitOf base)
  let n : Int := digits.foldl (fun n c => base * n + (digitOf base c).getD 0) 0
  if digits = [] then (0, s)
  else (max (-Sec.longMax - 1) (min Sec.longMax (if negative then -n else n)),
    t.dropWhile (isDigitOf base))

/-- The loop over the names in `OCConvertRepMap`: whether it gets to the end. -/
def namedByIndex : Nat → List OCRepPayloadValue → Bool
  | _, [] => true
  | arrayLength, value :: rest =>
    let (i, endp) := strtol value.name.bytes
    if endp ≠ [] ∨ i < 0 ∨ arrayLength ≠ i.toNat then false
    else namedByIndex (arrayLength + 1) rest

/-- The item in a row of `n`, each made from its index. -/
def convertRow (n : Nat) (item : Nat → Option RepItem) : Option RepItem := do
  let items ← (List.range n).mapM item
  closeArray n items

/-- `OCConvertArray`; `item` is `OCConvertArrayItem`. -/
def convertArray (dimensions : RepDimensions) (item : Nat → Option RepItem) : Option RepItem :=
  convertRow dimensions.d0 (fun i =>
    if dimensions.d1 ≠ 0 then
      convertRow dimensions.d1 (fun j =>
        if dimensions.d2 ≠ 0 then
          convertRow dimensions.d2 (fun k =>
            item (j * dimensions.d2 + i * dimensions.d2 * dimensions.d1 + k))
        else item (i * dimensions.d1 + j))
    else item i)

/-- `OCStringLLJoin`. The length is counted in sixteen bits. -/
def stringLLJoin (type : CString) (val : List CString) : Option (List RepEntry) :=
  let count := UInt16.ofNat val.length
  if 0 < count then do
    let array ← closeArray count.toNat (val.map textItem)
    return [(type.bytes, array)]
  else some []

def hrefEntry (uri : Option CString) : List RepEntry :=
  match uri with
  | none => []
  | some uri => if 0 < uri.bytes.length then [(ocRsrvdHref.bytes, textItem uri)] else []

/-! ## Values -/

mutual

/-- `OCConvertRepMap`, with the calls of `OCConvertSingleRepPayload` written out
(`convertRepMap_eq`). -/
def convertRepMap : OCRepPayload → Option RepItem
  | .mk uri types interfaces values => do
      let encoded ← convertValues values
      if namedByIndex 0 values then closeArray values.length (encoded.map Prod.snd)
      else
        let types ← stringLLJoin ocRsrvdResourceType types
        let interfaces ← stringLLJoin ocRsrvdInterface interfaces
        return .map (flatten (hrefEntry uri ++ types ++ interfaces ++ encoded))

def convertValues : List OCRepPayloadValue → Option (List RepEntry)
  | [] => some []
  | .mk name prop :: rest => do
      let item ← convertSingleRepPayloadValue prop
      let entries ← convertValues rest
      return (name.bytes, item) :: entries

def convertSingleRepPayloadValue : RepProp → Option RepItem
  | .null => some .null
  | .int i => some (.int i.toInt)
  | .double bits => some (.double bits)
  | .bool b => some (.bool b)
  | .string s => some (textItem s)
  | .byteString b => some (.bytes b)
  | .object obj => convertRepMap obj
  | .array type dimensions cells =>
    let items := convertArrayItems type cells
    convertArray dimensions (items[·]?.join)

/-- `OCConvertArrayItem` of every cell. -/
def convertArrayItems (type : OCRepPayloadPropType) : List RepCell → List (Option RepItem)
  | [] => []
  | cell :: rest => convertArrayItem type cell :: convertArrayItems type rest

/-- `OCConvertArrayItem`. The cells are those of the member of the union that belongs
to the type; the other types are an error. -/
def convertArrayItem (type : OCRepPayloadPropType) : RepCell → Option RepItem
  | .int i => if type = .int then some (.int i.toInt) else none
  | .double bits => if type = .double then some (.double bits) else none
  | .bool b => if type = .bool then some (.bool b) else none
  | .string s => if type = .string then some (textItem s) else none
  | .byteString b => if type = .byteString then some (.bytes b) else none
  | .object obj => if type = .object then convertRepMap obj else none
  | .nullPointer => if type = .string ∨ type = .object then some .null else none

end

def convertSingleRepPayload (payload : OCRepPayload) : Option (List RepEntry) := do
  let types ← stringLLJoin ocRsrvdResourceType payload.types
  let interfaces ← stringLLJoin ocRsrvdInterface payload.interfaces
  let encoded ← convertValues payload.values
  return hrefEntry payload.uri ++ types ++ interfaces ++ encoded

def convertRootMap (payload : OCRepPayload) : Option RepItem :=
  (convertSingleRepPayload payload).map (fun entries => .map (flatten entries))

/-- `OCConvertRepPayload`. `isBatch` is whether the first payload has the batch
interface. Without a payload nothing is written. -/
def convertRepPayload (isBatch : Bool) (payload : List OCRepPayload) : Option RepItem := do
  let items ← payload.mapM convertRootMap
  if payload.length > 1 ∨ isBatch then closeArray payload.length items
  else items.head?

def mapFindValue (name : List UInt8) : List RepItem → Option RepItem
  | .text key :: value :: rest => if key = name then some value else mapFindValue name rest
  | _ :: _ :: rest => mapFindValue name rest
  | _ => none

/-- `InPlaceStringTrim`. It starts at the end from the NUL, which is no blank, so only
the start is trimmed. -/
def inPlaceStringTrim (str : List UInt8) : List UInt8 := str.dropWhile (· == 32)

def blankTokens (text : CString) : List CString :=
  (((text.bytes.splitOnP (· == 32)).filter (· ≠ [])).map inPlaceStringTrim
    |>.filter (· ≠ [])).map CString.ofBytes

def stringLLTexts : List RepItem → List CString
  | .text text :: rest => blankTokens (.ofBytes text) ++ stringLLTexts rest
  | _ => []

def parseStringLL (type : CString) (map : List RepItem) : List CString :=
  match mapFindValue type.bytes map with
  | some (.array items) => stringLLTexts items
  | _ => []

def parseHref (map : List RepItem) : Option CString :=
  match mapFindValue ocRsrvdHref.bytes map with
  | some (.text uri) => some (.ofBytes uri)
  | _ => none

/-! ## Measuring an array -/

def decodeCborType : RepItem → OCRepPayloadPropType
  | .null => .null
  | .int _ => .int
  | .double _ => .double
  | .bool _ => .bool
  | .text _ => .string
  | .bytes _ => .byteString
  | .map _ => .object
  | .array _ => .array
  | .other => .null

def mergeType (type tempType : OCRepPayloadPropType) : Option OCRepPayloadPropType :=
  if type = .null then some tempType
  else if tempType ≠ .null ∧ type ≠ tempType then none
  else some type

mutual

def itemDimensionsAndType : RepItem → Option (Nat × Nat × OCRepPayloadPropType)
  | .array items =>
    (findDimensionsAndType items ⟨0, 0, 0⟩ .null).map
      (fun found => (found.1.d0, found.1.d1, found.2))
  | item => some (0, 0, decodeCborType item)

/-- The loop of `OCParseArrayFindDimensionsAndType`. -/
def findDimensionsAndType : List RepItem → RepDimensions → OCRepPayloadPropType →
    Option (RepDimensions × OCRepPayloadPropType)
  | [], dimensions, type => some (dimensions, type)
  | item :: rest, dimensions, type => do
      let (subdim0, subdim1, tempType) ← itemDimensionsAndType item
      let type ← mergeType type tempType
      findDimensionsAndType rest
        ⟨dimensions.d0 + 1, max dimensions.d1 subdim0, max dimensions.d2 subdim1⟩ type

end

def parseArrayFindDimensionsAndType (items : List RepItem) :
    Option (RepDimensions × OCRepPayloadPropType) :=
  findDimensionsAndType items ⟨0, 0, 0⟩ .null

/-- `arrayStep` for one item. -/
def arrayStep (dimensions : RepDimensions) : Nat :=
  (if dimensions.d1 = 0 then 1 else dimensions.d1)
    * (if dimensions.d2 = 0 then 1 else dimensions.d2)

def zeroCells (dimensions : RepDimensions) (type : OCRepPayloadPropType) (items : Nat) :
    List RepCell :=
  List.replicate (arrayStep dimensions * items) (zeroCell type)

def scalarCell : OCRepPayloadPropType → RepItem → Option RepCell
  | .int, .int n => some (.int (Int64.ofInt n))
  | .double, .double bits => some (.double bits)
  | .bool, .bool b => some (.bool b)
  | .string, .text s => some (.string (.ofBytes s))
  | .byteString, .bytes b => some (.byteString b)
  | _, _ => none

def objectCell (parsed : Option (List OCRepPayloadValue)) : List RepCell × Bool :=
  match parsed with
  | some values => ([.object (.ofValues values)], true)
  | none => ([.nullPointer], false)

/-! ## Values -/

def indexName (arrayIndex : Nat) : CString := .const (toString arrayIndex)

def isReserved (name : CString) : Bool :=
  name = ocRsrvdHref ∨ name = ocRsrvdResourceType ∨ name = ocRsrvdInterface

def nameItem (isMap : Bool) (name : Option CString) (item : RepItem) : Option CString :=
  match isMap, name, item with
  | true, none, .text key => some (.ofBytes key)
  | _, _, _ => none

mutual

/-- The loop of `OCParseSingleRepPayload`. The item after a reserved key is skipped.
`name` is that of the next value, if the item before was one. -/
def parseValues (isMap isRoot : Bool) : List RepItem → (skip : Bool) →
    (name : Option CString) → (arrayIndex : Nat) → List OCRepPayloadValue →
    Option (List OCRepPayloadValue)
  -- a name without a value has the type of no item
  | [], _, name, _, values => if name.isSome then none else some values
  | item :: rest, skip, name, arrayIndex, values =>
    if skip then parseValues isMap isRoot rest false none arrayIndex values
    else match nameItem isMap name item with
      | some key =>
        if isRoot && isReserved key then
          parseValues isMap isRoot rest true none arrayIndex values
        else parseValues isMap isRoot rest false (some key) arrayIndex values
      | none => do
          let (values, skip) ←
            parseValue item (if isMap then name else some (indexName arrayIndex)) values
          parseValues isMap isRoot rest skip none (arrayIndex + 1) values

def parseValue : RepItem → (name : Option CString) → List OCRepPayloadValue →
    Option (List OCRepPayloadValue × Bool)
  | .null, name, values => (repPayloadSetProp values name .null).map (·, false)
  | .int n, name, values => (repPayloadSetProp values name (.int (.ofInt n))).map (·, false)
  | .double bits, name, values => (repPayloadSetProp values name (.double bits)).map (·, false)
  | .bool b, name, values => (repPayloadSetProp values name (.bool b)).map (·, false)
  | .text s, name, values =>
    (repPayloadSetProp values name (.string (.ofBytes s))).map (·, false)
  | .bytes b, name, values => (repPayloadSetProp values name (.byteString b)).map (·, false)
  | .map items, name, values => do
      let pl ← parseValues true false items false none 0 []
      let values ← repPayloadSetProp values name (.object (.ofValues pl))
      return (values, false)
  | .array items, name, values =>
    -- `OCParseArray`; what `OCParseArrayFillArray` returns is not looked at
    let array := (parseArrayFindDimensionsAndType items).bind fun (dimensions, type) =>
      repPayloadSetProp values name
        (if type = .null then .null
        else .array type dimensions (fillArray dimensions type items dimensions.d0).1)
    match array with
    | some values => some (values, false)
    | none => do
        let pl ← parseValues false false items false none 0 []
        -- nor is what the setter returns, since the item is an array
        return ((repPayloadSetProp values name (.object (.ofValues pl))).getD values, true)
  | .other, _, _ => none

/-- The loop of `OCParseArrayFillArray` over the items that are left, with whether
filling goes on. -/
def fillArray (dimensions : RepDimensions) (type : OCRepPayloadPropType) :
    List RepItem → (items : Nat) → List RepCell × Bool
  | [], left => (zeroCells dimensions type left, true)
  | _ :: _, 0 => ([], true)
  | item :: rest, left + 1 =>
    match fillItem dimensions type item with
    | (cells, false) => (cells ++ zeroCells dimensions type left, false)
    | (cells, true) =>
      let filled := fillArray dimensions type rest left
      (cells ++ filled.1, filled.2)

def fillItem (dimensions : RepDimensions) (type : OCRepPayloadPropType) :
    RepItem → List RepCell × Bool
  | .null => (zeroCells dimensions type 1, true)
  | .array items =>
    if dimensions.d1 ≠ 0 then
      fillArray ⟨dimensions.d1, dimensions.d2, 0⟩ type items dimensions.d1
    else if type = .object then
      objectCell (parseValues false false items false none 0 [])
    else ([zeroCell type], false)
  | .map items =>
    if dimensions.d1 ≠ 0 then (zeroCells dimensions type 1, false)
    else if type = .object then objectCell (parseValues true false items false none 0 [])
    else ([zeroCell type], false)
  | item =>
    if dimensions.d1 ≠ 0 then (zeroCells dimensions type 1, false)
    else match scalarCell type item with
      | some cell => ([cell], true)
      | none => ([zeroCell type], false)

end

def parseRootMap (map : List RepItem) : Option OCRepPayload :=
  (parseValues true true map false none 0 []).map (fun values =>
    .mk (parseHref map) (parseStringLL ocRsrvdResourceType map)
      (parseStringLL ocRsrvdInterface map) values)

/-- The loop of `OCParseRepPayload`. Reading a map moves on to the item after it, and
if that is an array it is skipped as well. -/
def parseRootItems : List RepItem → (afterMap : Bool) → Option (List OCRepPayload)
  | [], _ => some []
  | .array _ :: rest, true => parseRootItems rest false
  | .array _ :: rest, false => do
      let payloads ← parseRootItems rest false
      return .ofValues [] :: payloads
  | .map map :: rest, _ => do
      let payload ← parseRootMap map
      let payloads ← parseRootItems rest true
      return payload :: payloads
  | _ :: _, _ => none

def parseRepPayload (root : RepItem) : Option (List OCRepPayload) :=
  match root with
  | .array items => parseRootItems items false
  | item => parseRootItems [item] false

end Iochibity.Ocf
