/-
What `OCParseArray` makes of any array.
-/
import Iochibity.Ocf.RepNoLoss

namespace Iochibity.Ocf

open CborTree Buffer
open Coap (CString)
open List
open Option (bind_eq_some_iff bind_some some_ne_none some.inj)

section

variable (items : List RepItem)

variable (name : Option CString) (values : List OCRepPayloadValue)

/-- `OCParseArray`: no value for an error, also without a name. -/
def parseArray : Option (List OCRepPayloadValue) :=
  (parseArrayFindDimensionsAndType items).bind fun (dimensions, type) =>
    repPayloadSetProp values name
      (if type = .null then .null
      else .array type dimensions
        (storeLog (List.replicate (calcDimTotal dimensions) (zeroCell type))
          ((storeArray type dimensions [] 0 items 0).1.map CellStore.entry)))

/-! ## What is promised -/

def flatIndex (dimensions : RepDimensions) : List ℕ → Option ℕ
  | [i] => some i
  | [i, j] => some (i * dimensions.d1 + j)
  | [i, j, k] => some ((i * dimensions.d1 + j) * dimensions.d2 + k)
  | _ => none

def Holds : RepCell → RepItem → Prop
  | .int i, .int n => i.toInt = n
  | .double bits, .double bits' => bits = bits'
  | .bool b, .bool b' => b = b'
  | .string s, .text text => s = .ofBytes text
  | .byteString bytes, .bytes bytes' => bytes = bytes'
  | .object obj, .map items => ∃ values, parseValues true false items false none 0 [] = some values
      ∧ obj = .ofValues values
  | _, _ => False

def maxRepArrayDepth : ℕ := 3

def Shallow : Prop :=
  ∀ path row, itemAt (.array items) path = some (.array row) → path.length < maxRepArrayDepth

def Unmixed : Prop :=
  ∀ path row, itemAt (.array items) path = some (.array row) →
    ¬ ((∃ item ∈ row, isLeaf item = true) ∧ ∃ inner, (.array inner : RepItem) ∈ row)

def IsLeafAt (path : List ℕ) (item : RepItem) : Prop :=
  itemAt (.array items) path = some item ∧ isLeaf item = true

structure ArrayStored (items : List RepItem) (type : OCRepPayloadPropType)
    (dimensions : RepDimensions) (stores : List CellStore) : Prop where
  stored : ∀ path item, IsLeafAt items path item → ∃ n cell, flatIndex dimensions path = some n
    ∧ ⟨path, n, cell⟩ ∈ stores ∧ Holds cell item
    ∧ (storeLog (List.replicate (calcDimTotal dimensions) (zeroCell type))
        (stores.map CellStore.entry))[n]? = some cell
  zero : ∀ n cell, (storeLog (List.replicate (calcDimTotal dimensions) (zeroCell type))
      (stores.map CellStore.entry))[n]? = some cell →
    cell = zeroCell type
      ∨ ∃ path item, IsLeafAt items path item ∧ flatIndex dimensions path = some n

def ArrayExact : Prop :=
  (∀ dimensions type, parseArrayFindDimensionsAndType items = some (dimensions, type) →
      ∀ store ∈ (storeArray type dimensions [] 0 items 0).1, store.index < calcDimTotal dimensions)
    ∧ (parseArray items name values = none ∨ Shallow items ∧ Unmixed items
        ∧ ∃ dimensions type, parseArrayFindDimensionsAndType items = some (dimensions, type)
          ∧ if type = .null then ∀ path item, ¬ IsLeafAt items path item
            else ArrayStored items type dimensions (storeArray type dimensions [] 0 items 0).1)

/-- An element that can be read: an integer of 64 bits, a map without an unreadable value; and
no item of an unknown type. -/
def Readable : RepItem → Prop
  | .int n => -2 ^ 63 ≤ n ∧ n < 2 ^ 63
  | .map items => (parseValues true false items false none 0 []).isSome
  | .other => False
  | _ => True

def Told (item : RepItem) (type : OCRepPayloadPropType) : Prop :=
  ∃ path leaf, itemAt item path = some leaf ∧ isLeaf leaf = true ∧ decodeCborType leaf = type
    ∧ type ≠ .null

def Clash : Prop :=
  ∃ a b, Told (.array items) a ∧ Told (.array items) b ∧ a ≠ b

end

/-- **An array that is read as it is**: not too deep, and without elements beside arrays; its
elements are the deepest items and can be read; an array as deep as they are comes behind all of
them, and then they are no maps. -/
structure Regular (items : List RepItem) : Prop where
  shallow : Shallow items
  unmixed : Unmixed items
  deepest : ∀ path leaf, IsLeafAt items path leaf → ∀ path' item,
    itemAt (.array items) path' = some item → path'.length ≤ path.length
  readable : ∀ path leaf, IsLeafAt items path leaf → Readable leaf
  behind : ∀ path leaf, IsLeafAt items path leaf → ∀ path' row,
    itemAt (.array items) path' = some (.array row) → path'.length = path.length →
    path < path' ∧ decodeCborType leaf ≠ .object

/-! ## What is measured -/

variable {items : List RepItem}

lemma told_array {type : OCRepPayloadPropType} :
    Told (.array items) type ↔ ∃ item ∈ items, Told item type := by
  constructor
  · rintro ⟨path, leaf, hleaf, helement, htype⟩
    cases path with
    | nil =>
      rw [← some.inj hleaf] at helement
      exact absurd helement Bool.false_ne_true
    | cons i path =>
      rw [itemAt, bind_eq_some_iff] at hleaf
      obtain ⟨item, hi, hleaf⟩ := hleaf
      exact ⟨item, mem_of_getElem? hi, path, leaf, hleaf, helement, htype⟩
  · rintro ⟨item, hmem, path, leaf, hleaf, helement, htype⟩
    obtain ⟨i, hi⟩ := getElem?_of_mem hmem
    refine ⟨i :: path, leaf, ?_, helement, htype⟩
    rw [itemAt, hi]
    exact hleaf

lemma told_scalar {item : RepItem} (h : decodeCborType item ≠ .array)
    (type : OCRepPayloadPropType) :
    Told item type ↔ type = decodeCborType item ∧ decodeCborType item ≠ .null := by
  constructor
  · rintro ⟨path, leaf, hleaf, -, htype, hnull⟩
    cases path with
    | nil =>
      obtain rfl := some.inj hleaf
      exact ⟨htype.symm, htype ▸ hnull⟩
    | cons i path => cases item <;> simp_all [itemAt, decodeCborType]
  · rintro ⟨rfl, hnull⟩
    refine ⟨[], item, rfl, ?_, rfl, hnull⟩
    cases item <;> simp_all [isLeaf, decodeCborType]

lemma mergeType_spec (type tempType : OCRepPayloadPropType) :
    match mergeType type tempType with
    | some t => ∀ a, (a = type ∧ type ≠ .null ∨ a = tempType ∧ tempType ≠ .null)
        ↔ a = t ∧ t ≠ .null
    | none => type ≠ .null ∧ tempType ≠ .null ∧ type ≠ tempType := by
  unfold mergeType
  by_cases hnull : type = .null
  · simp [hnull]
  by_cases htemp : tempType ≠ .null ∧ type ≠ tempType
  · simp [hnull, htemp]
  rw [if_neg hnull, if_neg htemp]
  intro a
  by_cases htempNull : tempType = .null
  · simp [htempNull]
  have hsame : type = tempType := by
    by_contra hne
    exact htemp ⟨htempNull, hne⟩
  simp [hsame]

mutual

lemma itemDimensionsAndType_spec : (item : RepItem) →
    match itemDimensionsAndType item with
    | some (row, subrow, t) => row = rowLength item ∧ subrow = subrowLength item
        ∧ ∀ a, Told item a ↔ a = t ∧ t ≠ .null
    | none => ∃ a b, Told item a ∧ Told item b ∧ a ≠ b
  | .array items => by
    have hspec := findDimensionsAndType_spec items ⟨0, 0, 0⟩ .null
    rw [itemDimensionsAndType]
    cases hfind : findDimensionsAndType items ⟨0, 0, 0⟩ .null with
    | none =>
      rw [hfind] at hspec
      simpa [told_array] using hspec
    | some found =>
      rw [hfind] at hspec
      obtain ⟨hdimensions, htold⟩ := hspec
      refine ⟨?_, ?_, fun a => ?_⟩
      · rw [hdimensions]
        exact Nat.zero_add _
      · rw [hdimensions]
        exact Nat.zero_max _
      · rw [← htold, told_array]
        simp
  | .null => ⟨rfl, rfl, told_scalar (by decide)⟩
  | .int _ => ⟨rfl, rfl, told_scalar (by simp [decodeCborType])⟩
  | .double _ => ⟨rfl, rfl, told_scalar (by simp [decodeCborType])⟩
  | .bool _ => ⟨rfl, rfl, told_scalar (by simp [decodeCborType])⟩
  | .text _ => ⟨rfl, rfl, told_scalar (by simp [decodeCborType])⟩
  | .bytes _ => ⟨rfl, rfl, told_scalar (by simp [decodeCborType])⟩
  | .map _ => ⟨rfl, rfl, told_scalar (by simp [decodeCborType])⟩
  | .other => ⟨rfl, rfl, told_scalar (by decide)⟩

lemma findDimensionsAndType_spec : (items : List RepItem) → (dimensions : RepDimensions) →
    (type : OCRepPayloadPropType) →
    match findDimensionsAndType items dimensions type with
    | some (dimensions', t) =>
        dimensions' = ⟨dimensions.d0 + items.length, max dimensions.d1 (largest rowLength items),
          max dimensions.d2 (largest subrowLength items)⟩
        ∧ ∀ a, (a = type ∧ type ≠ .null ∨ ∃ item ∈ items, Told item a) ↔ a = t ∧ t ≠ .null
    | none => ∃ a b, (a = type ∧ type ≠ .null ∨ ∃ item ∈ items, Told item a)
        ∧ (b = type ∧ type ≠ .null ∨ ∃ item ∈ items, Told item b) ∧ a ≠ b
  | [], dimensions, type => by
    rw [findDimensionsAndType]
    exact ⟨by simp [largest], fun a => by simp⟩
  | item :: rest, dimensions, type => by
    have hitem := itemDimensionsAndType_spec item
    rw [findDimensionsAndType]
    cases hmeasured : itemDimensionsAndType item with
    | none =>
      rw [hmeasured] at hitem
      obtain ⟨a, b, ha, hb, hne⟩ := hitem
      exact ⟨a, b, .inr ⟨item, mem_cons_self, ha⟩, .inr ⟨item, mem_cons_self, hb⟩, hne⟩
    | some measured =>
      rw [hmeasured] at hitem
      obtain ⟨row, subrow, tempType⟩ := measured
      obtain ⟨hrow, hsubrow, htold⟩ := hitem
      have hmerge := mergeType_spec type tempType
      simp only [Option.bind_eq_bind, bind_some]
      cases hmerged : mergeType type tempType with
      | none =>
        rw [hmerged] at hmerge
        obtain ⟨htype, htemp, hne⟩ := hmerge
        refine ⟨type, tempType, .inl ⟨rfl, htype⟩, .inr ⟨item, mem_cons_self, ?_⟩, hne⟩
        exact (htold tempType).mpr ⟨rfl, htemp⟩
      | some merged =>
        rw [hmerged] at hmerge
        have hrest := findDimensionsAndType_spec rest
          ⟨dimensions.d0 + 1, max dimensions.d1 row, max dimensions.d2 subrow⟩ merged
        -- What was told before the rest is what the merged type says.
        have hbefore : ∀ a, (a = merged ∧ merged ≠ .null ∨ ∃ item ∈ rest, Told item a)
            ↔ (a = type ∧ type ≠ .null ∨ ∃ item' ∈ item :: rest, Told item' a) := by
          intro a
          rw [← hmerge a, exists_mem_cons_iff, htold a, or_assoc]
        simp only [bind_some]
        cases hfound : findDimensionsAndType rest
            ⟨dimensions.d0 + 1, max dimensions.d1 row, max dimensions.d2 subrow⟩ merged with
        | none =>
          rw [hfound] at hrest
          obtain ⟨a, b, ha, hb, hne⟩ := hrest
          exact ⟨a, b, (hbefore a).mp ha, (hbefore b).mp hb, hne⟩
        | some found =>
          rw [hfound] at hrest
          obtain ⟨hdimensions, htoldAll⟩ := hrest
          refine ⟨?_, fun a => by rw [← hbefore a]; exact htoldAll a⟩
          rw [hdimensions, hrow, hsubrow]
          simp [largest, Nat.add_assoc, Nat.add_comm 1]

end

lemma exists_of_largest {f : RepItem → ℕ} (h : largest f items ≠ 0) :
    ∃ item ∈ items, f item ≠ 0 := by
  by_contra hnone
  refine h (largest_eq_zero fun item hmem => ?_)
  by_contra hne
  exact hnone ⟨item, hmem, hne⟩

structure Measured (items : List RepItem) (dimensions : RepDimensions)
    (type : OCRepPayloadPropType) (depth : ℕ) : Prop where
  rows : dimensions = ⟨items.length, largest rowLength items, largest subrowLength items⟩
  told : ∀ a, Told (.array items) a ↔ a = type ∧ type ≠ .null
  fits : FitsDepth depth dimensions
  depth_le : depth ≤ 2

lemma measured_of_find {dimensions : RepDimensions} {type : OCRepPayloadPropType}
    (h : parseArrayFindDimensionsAndType items = some (dimensions, type)) :
    ∃ depth, Measured items dimensions type depth := by
  have hspec := findDimensionsAndType_spec items ⟨0, 0, 0⟩ .null
  rw [parseArrayFindDimensionsAndType] at h
  rw [h] at hspec
  obtain ⟨hdimensions, htold⟩ := hspec
  rw [Nat.zero_add, Nat.zero_max, Nat.zero_max] at hdimensions
  have htype : ∀ a, Told (.array items) a ↔ a = type ∧ type ≠ .null := by
    intro a
    rw [← htold a, told_array]
    simp
  by_cases h1 : dimensions.d1 = 0
  · have h2 : dimensions.d2 = 0 := by
      by_contra hne
      rw [hdimensions] at h1 hne
      obtain ⟨item, hmem, hsubrow⟩ := exists_of_largest hne
      have hrow := le_largest rowLength hmem
      cases item with
      | array row =>
        obtain ⟨inner, hinner, -⟩ := exists_of_largest hsubrow
        have hpos : 0 < row.length := length_pos_of_mem hinner
        rw [rowLength] at hrow
        exact absurd h1 (by simp only; omega)
      | _ => exact hsubrow rfl
    exact ⟨0, hdimensions, htype, ⟨h1, h2⟩, by omega⟩
  by_cases h2 : dimensions.d2 = 0
  · exact ⟨1, hdimensions, htype, ⟨h1, h2⟩, by omega⟩
  · exact ⟨2, hdimensions, htype, ⟨h1, h2⟩, by omega⟩

lemma clash_of_find (h : parseArrayFindDimensionsAndType items = none) : Clash items := by
  have hspec := findDimensionsAndType_spec items ⟨0, 0, 0⟩ .null
  rw [parseArrayFindDimensionsAndType] at h
  rw [h] at hspec
  simpa [Clash, told_array] using hspec

section Measured

variable {items : List RepItem} {dimensions : RepDimensions} {type : OCRepPayloadPropType}
  {depth : ℕ}

variable {item : RepItem}

lemma Measured.rowsFit (h : Measured items dimensions type depth)
    (hmem : item ∈ items) : RowsFit depth dimensions item := by
  have hrow := le_largest rowLength hmem
  have hsubrow := le_largest subrowLength hmem
  rw [h.rows]
  match depth, h.depth_le with
  | 0, _ => trivial
  | depth + 1, hle =>
    cases item with
    | array row =>
      refine ⟨hrow, fun inner hinner => ?_⟩
      match depth, hle with
      | 0, _ => trivial
      | 1, _ =>
        cases inner with
        | array cells => exact ⟨(le_largest rowLength hinner).trans hsubrow, fun _ _ => trivial⟩
        | _ => trivial
    | _ => trivial

variable {path : List ℕ}

lemma Measured.length_le (h : Measured items dimensions type depth) (hshallow : Shallow items)
    (hitem : itemAt (.array items) path = some item) :
    path.length ≤ depth + 1 := by
  have hdepth := h.fits
  obtain _ | ⟨i, _ | ⟨j, path⟩⟩ := path
  · simp
  · simp
  · rw [itemAt, bind_eq_some_iff] at hitem
    obtain ⟨row, hi, hitem⟩ := hitem
    cases row with
    | array row =>
      rw [itemAt, bind_eq_some_iff] at hitem
      obtain ⟨inner, hj, hitem⟩ := hitem
      have hrow := le_largest rowLength (mem_of_getElem? hi)
      have hpos : 0 < row.length := length_pos_of_mem (mem_of_getElem? hj)
      have h1 : dimensions.d1 ≠ 0 := by
        rw [h.rows]
        rw [rowLength] at hrow
        simp only
        omega
      cases path with
      | nil =>
        cases depth with
        | zero => exact absurd hdepth.1 h1
        | succ depth => simp
      | cons k path =>
        cases inner with
        | array inner =>
          rw [itemAt, bind_eq_some_iff] at hitem
          obtain ⟨cell, hk, hitem⟩ := hitem
          have hsubrow := le_largest subrowLength (mem_of_getElem? hi)
          have hinner := le_largest rowLength (mem_of_getElem? hj)
          have hinnerPos : 0 < inner.length := length_pos_of_mem (mem_of_getElem? hk)
          have h2 : dimensions.d2 ≠ 0 := by
            rw [h.rows]
            rw [subrowLength] at hsubrow
            rw [rowLength] at hinner
            simp only
            omega
          have hnil : path = [] := by
            -- Another item below would be in an array that is too deep.
            cases path with
            | nil => rfl
            | cons l path =>
              cases cell with
              | array cell =>
                have hdeep := hshallow [i, j, k] cell (by simp [itemAt, hi, hj, hk])
                exact absurd hdeep (Nat.lt_irrefl 3)
              | _ => exact absurd hitem.symm (some_ne_none _)
          rw [hnil]
          obtain _ | _ | depth := depth
          · exact absurd hdepth.1 h1
          · exact absurd hdepth.2 h2
          · simp
        | _ => exact absurd hitem.symm (some_ne_none _)
    | _ => exact absurd hitem.symm (some_ne_none _)

lemma Measured.exists_length (h : Measured items dimensions type depth) (hne : items ≠ []) :
    ∃ path item, itemAt (.array items) path = some item ∧ path.length = depth + 1 := by
  have hdepth := h.fits
  match depth, hdepth, h.depth_le with
  | 0, _, _ =>
    obtain ⟨item, rest, rfl⟩ := exists_cons_of_ne_nil hne
    exact ⟨[0], item, rfl, rfl⟩
  | 1, hdepth, _ =>
    have h1 := hdepth.1
    rw [h.rows] at h1
    obtain ⟨row, hmem, hrow⟩ := exists_of_largest h1
    obtain ⟨i, hi⟩ := getElem?_of_mem hmem
    cases row with
    | array row =>
      obtain ⟨cell, rest, rfl⟩ := exists_cons_of_ne_nil (length_pos_iff.mp
        (Nat.pos_of_ne_zero hrow))
      exact ⟨[i, 0], cell, by simp [itemAt, hi], rfl⟩
    | _ => exact absurd rfl hrow
  | 2, hdepth, _ =>
    have h2 := hdepth.2
    rw [h.rows] at h2
    obtain ⟨row, hmem, hsubrow⟩ := exists_of_largest h2
    obtain ⟨i, hi⟩ := getElem?_of_mem hmem
    cases row with
    | array row =>
      obtain ⟨inner, hinner, hlength⟩ := exists_of_largest hsubrow
      obtain ⟨j, hj⟩ := getElem?_of_mem hinner
      cases inner with
      | array inner =>
        obtain ⟨cell, rest, rfl⟩ := exists_cons_of_ne_nil (length_pos_iff.mp
          (Nat.pos_of_ne_zero hlength))
        exact ⟨[i, j, 0], cell, by simp [itemAt, hi, hj], rfl⟩
      | _ => exact absurd rfl hlength
    | _ => exact absurd rfl hsubrow

variable {leaf : RepItem}

lemma Measured.leaf_type (h : Measured items dimensions type depth)
    (hleaf : IsLeafAt items path leaf) :
    decodeCborType leaf = .null ∨ decodeCborType leaf = type := by
  by_cases hnull : decodeCborType leaf = .null
  · exact .inl hnull
  · exact .inr ((h.told _).mp ⟨path, leaf, hleaf.1, hleaf.2, rfl, hnull⟩).1

/-! ## The slots of a measured array -/

lemma Measured.calcDimTotal (h : Measured items dimensions type depth) :
    calcDimTotal dimensions = arrayStep dimensions * dimensions.d0 := by
  rw [Ocf.calcDimTotal, arrayStep]
  have hregular := h.fits.regular
  split_ifs <;> grind

variable {slot : Slot}

lemma mem_arraySlots :
    slot ∈ arraySlots depth dimensions [] 0 items 0
      ↔ itemAt (.array items) slot.path = some slot.item
        ∧ (∃ i sub, slot.path = i :: sub
          ∧ slot.index = cellIndex dimensions 0 i + rowOffset dimensions sub)
        ∧ (slot.inPlace = true ∧ slot.path.length = depth + 1
          ∨ slot.inPlace = false ∧ slot.path.length < depth + 1 ∧ isLeaf slot.item = true) := by
  rw [arraySlots, mem_rowsFrom]
  simp only [Nat.zero_add, nil_append, mem_itemSlots]
  constructor
  · rintro ⟨i, item, hi, sub, hitem, hpath, hindex, hplace⟩
    rw [singleton_append] at hpath
    refine ⟨?_, ⟨i, sub, hpath, hindex⟩, ?_⟩
    · rw [hpath, itemAt, hi]
      exact hitem
    · simpa only [hpath, length_cons, Nat.add_right_cancel_iff, Nat.add_lt_add_iff_right]
        using hplace
  · rintro ⟨hitem, ⟨i, sub, hpath, hindex⟩, hplace⟩
    rw [hpath, itemAt, bind_eq_some_iff] at hitem
    obtain ⟨item, hi, hitem⟩ := hitem
    refine ⟨i, item, hi, sub, hitem, by rw [hpath]; rfl, hindex, ?_⟩
    simpa only [hpath, length_cons, Nat.add_right_cancel_iff, Nat.add_lt_add_iff_right] using hplace

section

variable (h : Measured items dimensions type depth)
include h

lemma Measured.flatIndex_eq {i : ℕ} {sub : List ℕ} (hlength : sub.length = depth) :
    flatIndex dimensions (i :: sub)
      = some (cellIndex dimensions 0 i + rowOffset dimensions sub) := by
  have hdepth := h.fits
  have hle := h.depth_le
  subst hlength
  match sub, hdepth, hle with
  | [], hdepth, _ =>
    have h1 : dimensions.d1 = 0 := hdepth.1
    simp [flatIndex, cellIndex, rowOffset, h1]
  | [j], hdepth, _ =>
    obtain ⟨h1, h2⟩ := hdepth
    simp [flatIndex, cellIndex, rowOffset, arrayStep, h1, h2, Nat.mul_comm]
  | [j, k], hdepth, _ =>
    obtain ⟨h1, h2⟩ := hdepth
    simp [flatIndex, cellIndex, rowOffset, arrayStep, h1, h2]
    ring
  | _ :: _ :: _ :: _, _, hle => simp at hle

lemma Measured.stores_eq :
    storeArray type dimensions [] 0 items 0
      = runUntil (storeSlot type) (arraySlots depth dimensions [] 0 items 0) := by
  refine storeArray_of_items (fun path target item hfit => ?_) (fun item => h.rowsFit) [] 0 ?_
  · exact storeItem_eq type h.depth_le h.fits path target item hfit
  · rw [h.rows, Nat.zero_add]

lemma Measured.slots_pairwise : (arraySlots depth dimensions [] 0 items 0).Pairwise Slot.Before :=
  arraySlots_pairwise_of_items h.depth_le h.fits (fun _ => h.rowsFit)
    (fun path target _ hmem => itemSlots_pairwise h.depth_le h.fits path target (h.rowsFit hmem))
    [] 0 0

lemma Measured.slot_lt (hslot : slot ∈ arraySlots depth dimensions [] 0 items 0) :
    slot.index < Ocf.calcDimTotal dimensions := by
  rw [arraySlots, mem_rowsFrom] at hslot
  obtain ⟨i, item, hi, hslot⟩ := hslot
  have hupper := (itemSlots_lt h.depth_le h.fits (h.rowsFit (mem_of_getElem? hi)) hslot).2
  have hlt : i < dimensions.d0 := by
    rw [h.rows]
    exact (List.getElem?_eq_some_iff.mp hi).1
  have hwithin := Nat.mul_le_mul_left (arrayStep dimensions) (Nat.succ_le_of_lt hlt)
  rw [Nat.mul_succ] at hwithin
  rw [Nat.zero_add, cellIndex_eq h.fits.regular] at hupper
  rw [h.calcDimTotal]
  omega

end

variable {store : CellStore}

lemma mem_storeSlot :
    store ∈ (storeSlot type slot).1 ↔ slot.inPlace = true ∧ slot.item ≠ .null
      ∧ store = ⟨slot.path, slot.index, (readCell type slot.item).1⟩ := by
  obtain ⟨path, index, item, inPlace⟩ := slot
  cases inPlace with
  | false => simp [storeSlot]
  | true => cases item <;> simp [storeSlot]

lemma stores_lt (h : Measured items dimensions type depth)
    (hstore : store ∈ (storeArray type dimensions [] 0 items 0).1) :
    store.index < Ocf.calcDimTotal dimensions := by
  rw [h.stores_eq, mem_runUntil] at hstore
  obtain ⟨before, slot, behind, hslots, -, hmem⟩ := hstore
  obtain ⟨-, -, rfl⟩ := mem_storeSlot.mp hmem
  exact h.slot_lt (by rw [hslots]; simp)

lemma Measured.stores_nodup (h : Measured items dimensions type depth) :
    (((storeArray type dimensions [] 0 items 0).1.map CellStore.entry).map Prod.fst).Nodup := by
  have hpairwise : (runUntil (storeSlot type) (arraySlots depth dimensions [] 0 items 0)).1.Pairwise
      (fun u v => u.index < v.index) := by
    refine pairwise_runUntil ?_ ?_ h.slots_pairwise
    · intro slot
      obtain ⟨path, index, item, inPlace⟩ := slot
      cases inPlace with
      | false => exact List.Pairwise.nil
      | true => cases item <;> simp [storeSlot]
    · intro a b hbefore u hu v hv
      obtain ⟨-, -, rfl⟩ := mem_storeSlot.mp hu
      obtain ⟨-, -, rfl⟩ := mem_storeSlot.mp hv
      exact hbefore.2
  rw [← h.stores_eq] at hpairwise
  rw [map_map, nodup_iff_pairwise_ne, pairwise_map]
  exact hpairwise.imp fun hlt => ne_of_lt hlt

/-! ## Which arrays are stored as they are -/

lemma readCell_holds (hleaf : isLeaf leaf = true) (hreadable : Readable leaf)
    (htype : decodeCborType leaf = .null ∨ decodeCborType leaf = type) :
    (readCell type leaf).2 = true ∧ Holds (readCell type leaf).1 leaf := by
  cases leaf with
  | null | array => exact absurd hleaf Bool.false_ne_true
  | other => exact hreadable.elim
  | map items =>
    obtain rfl : OCRepPayloadPropType.object = type := htype.resolve_left (by simp [decodeCborType])
    obtain ⟨values, hvalues⟩ := Option.isSome_iff_exists.mp hreadable
    simp only [readCell, if_pos, hvalues]
    exact ⟨trivial, values, hvalues, rfl⟩
  | int n =>
    obtain rfl : OCRepPayloadPropType.int = type := htype.resolve_left (by simp [decodeCborType])
    exact ⟨rfl, Int64.toInt_ofInt_of_le hreadable.1 hreadable.2⟩
  | _ =>
    obtain rfl := htype.resolve_left (by simp [decodeCborType])
    exact ⟨rfl, rfl⟩

lemma readable_of_holds {cell : RepCell} (h : Holds cell leaf) :
    Readable leaf := by
  cases leaf with
  | int n =>
    cases cell with
    | int i =>
      have hi : i.toInt = n := h
      rw [← hi]
      exact ⟨Int64.le_toInt i, Int64.toInt_lt i⟩
    | _ => exact h.elim
  | map items =>
    cases cell with
    | object obj =>
      obtain ⟨values, hvalues, -⟩ := h
      exact Option.isSome_iff_exists.mpr ⟨values, hvalues⟩
    | _ => exact h.elim
  | other => cases cell <;> exact h
  | _ => trivial

lemma Regular.length_eq (hregular : Regular items) (h : Measured items dimensions type depth)
    (hleaf : IsLeafAt items path leaf) :
    path.length = depth + 1 := by
  have hne : items ≠ [] := by
    rintro rfl
    cases path with
    | nil =>
      have helement := hleaf.2
      rw [← some.inj hleaf.1] at helement
      exact absurd helement Bool.false_ne_true
    | cons i path => exact absurd hleaf.1.symm (some_ne_none _)
  obtain ⟨path', item, hitem, hlength⟩ := h.exists_length hne
  have hdeepest := hregular.deepest path leaf hleaf path' item hitem
  have hwithin := h.length_le hregular.shallow hleaf.1
  omega

lemma path_ne_nil (h : itemAt (.array items) path = some item) (hlength : path.length = depth + 1) :
    ∃ i sub, path = i :: sub ∧ sub.length = depth := by
  cases path with
  | nil => exact absurd hlength (Nat.succ_ne_zero depth).symm
  | cons i sub => exact ⟨i, sub, rfl, Nat.succ.inj hlength⟩

lemma Measured.slot_at (h : Measured items dimensions type depth)
    (hitem : itemAt (.array items) path = some item) (hlength : path.length = depth + 1) :
    ∃ n, flatIndex dimensions path = some n
      ∧ (⟨path, n, item, true⟩ : Slot) ∈ arraySlots depth dimensions [] 0 items 0 := by
  obtain ⟨i, sub, rfl, hsub⟩ := path_ne_nil hitem hlength
  exact ⟨_, h.flatIndex_eq hsub, mem_arraySlots.mpr
    ⟨hitem, ⟨i, sub, rfl, rfl⟩, .inl ⟨rfl, hlength⟩⟩⟩

section

variable (h : Measured items dimensions type depth)
  (hstore : store ∈ (storeArray type dimensions [] 0 items 0).1)
include h hstore

lemma Measured.store_at :
    ∃ item, itemAt (.array items) store.path = some item ∧ store.path.length = depth + 1
      ∧ flatIndex dimensions store.path = some store.index ∧ item ≠ .null
      ∧ store.cell = (readCell type item).1 := by
  rw [h.stores_eq, mem_runUntil] at hstore
  obtain ⟨before, slot, behind, hslots, -, hmem⟩ := hstore
  obtain ⟨hplace, hnull, rfl⟩ := mem_storeSlot.mp hmem
  have hslot : slot ∈ arraySlots depth dimensions [] 0 items 0 := by rw [hslots]; simp
  obtain ⟨hitem, ⟨i, sub, hpath, hindex⟩, ⟨-, hlength⟩ | ⟨hno, -⟩⟩ := mem_arraySlots.mp hslot
  · refine ⟨slot.item, hitem, hlength, ?_, hnull, rfl⟩
    have hsub : sub.length = depth := by
      rw [hpath] at hlength
      exact Nat.succ.inj hlength
    rw [hpath, h.flatIndex_eq hsub, hindex]
  rw [hno] at hplace
  simp at hplace

lemma Measured.stored_cell :
    (storeLog (List.replicate (Ocf.calcDimTotal dimensions) (zeroCell type))
      ((storeArray type dimensions [] 0 items 0).1.map CellStore.entry))[store.index]?
      = some store.cell := by
  refine getElem?_storeLog_of_mem h.stores_nodup (mem_map_of_mem hstore) ?_
  rw [length_replicate]
  exact stores_lt h hstore

end

lemma Regular.stored (hregular : Regular items) (h : Measured items dimensions type depth)
    (htype : type ≠ .null) :
    ArrayStored items type dimensions (storeArray type dimensions [] 0 items 0).1 := by
  -- An array in the place of a cell is not of maps.
  have harray : ∀ path row, itemAt (.array items) path = some (.array row) →
      path.length = depth + 1 → type ≠ .object := by
    rintro path row hrow hlength rfl
    obtain ⟨path', leaf, hleaf, helement, htold, -⟩ := (h.told .object).mpr ⟨rfl, htype⟩
    have hdeep := hregular.length_eq h ⟨hleaf, helement⟩
    exact (hregular.behind path' leaf ⟨hleaf, helement⟩ path row hrow
      (hlength.trans hdeep.symm)).2 htold
  constructor
  · intro path leaf hleaf
    have hlength := hregular.length_eq h hleaf
    obtain ⟨n, hflat, hslot⟩ := h.slot_at hleaf.1 hlength
    obtain ⟨hgoes, hholds⟩ := readCell_holds hleaf.2 (hregular.readable path leaf hleaf)
      (h.leaf_type hleaf)
    have hstore : ⟨path, n, (readCell type leaf).1⟩
        ∈ (storeArray type dimensions [] 0 items 0).1 := by
      obtain ⟨before, behind, hslots⟩ := append_of_mem hslot
      rw [h.stores_eq, mem_runUntil]
      refine ⟨before, _, behind, hslots, fun slot hbefore => ?_, mem_storeSlot.mpr ⟨rfl, ?_, rfl⟩⟩
      · -- Nothing before it ends the filling.
        have hmem : slot ∈ arraySlots depth dimensions [] 0 items 0 := by
          rw [hslots]
          exact mem_append_left _ hbefore
        have hpairwise := h.slots_pairwise
        rw [hslots, pairwise_append] at hpairwise
        have hpath := (hpairwise.2.2 slot hbefore _ mem_cons_self).1
        obtain ⟨hitem, -, ⟨hplace, hdeep⟩ | ⟨-, hshort, helement⟩⟩ := mem_arraySlots.mp hmem
        · obtain ⟨slotPath, index, item, inPlace⟩ := slot
          obtain rfl : inPlace = true := hplace
          by_cases helement : isLeaf item = true
          · have hread := (readCell_holds helement (hregular.readable slotPath item
              ⟨hitem, helement⟩) (h.leaf_type ⟨hitem, helement⟩)).1
            cases item with
            | null => rfl
            | _ => exact hread
          cases item with
          | null => rfl
          | array row =>
            have hafter := (hregular.behind path leaf hleaf slotPath row hitem
              (hdeep.trans hlength.symm)).1
            exact absurd hpath (List.lt_asymm hafter)
          | _ => exact absurd rfl helement
        have hdeep := hregular.length_eq h ⟨hitem, helement⟩
        omega
      · rintro rfl
        exact absurd hleaf.2 Bool.false_ne_true
    exact ⟨n, _, hflat, hstore, hholds, h.stored_cell hstore⟩
  · intro n cell hcell
    by_cases hmem : n ∈ ((storeArray type dimensions [] 0 items 0).1.map CellStore.entry).map
        Prod.fst
    · rw [map_map, mem_map] at hmem
      obtain ⟨store, hstore, rfl⟩ := hmem
      have hsame := hcell.symm.trans (h.stored_cell hstore)
      obtain ⟨item, hitem, hlength, hflat, hnull, hread⟩ := h.store_at hstore
      rw [some.inj hsame, hread]
      cases item with
      | null => exact absurd rfl hnull
      | array row =>
        left
        rw [readCell, if_neg (harray _ row hitem hlength)]
      | _ => exact .inr ⟨store.path, _, ⟨hitem, rfl⟩, hflat⟩
    rw [getElem?_storeLog_of_not_mem hmem, getElem?_replicate] at hcell
    left
    split_ifs at hcell
    exact (some.inj hcell).symm

lemma itemAt_append (item : RepItem) (path path' : List ℕ) :
    itemAt item (path ++ path') = (itemAt item path).bind fun item => itemAt item path' := by
  induction path generalizing item with
  | nil => rfl
  | cons i path ih =>
    cases item with
    | array items =>
      rw [cons_append, itemAt, itemAt]
      cases items[i]? with
      | none => rfl
      | some item => exact ih item
    | _ => rfl

lemma Measured.row_nil (h : Measured items dimensions type depth) (hshallow : Shallow items)
    {row : List RepItem} (hrow : itemAt (.array items) path = some (.array row))
    (hlength : path.length = depth + 1) :
    row = [] := by
  cases row with
  | nil => rfl
  | cons cell row =>
    have hcell : itemAt (.array items) (path ++ [0]) = some cell := by
      rw [itemAt_append, hrow]
      rfl
    have hwithin := h.length_le hshallow hcell
    rw [length_append, length_singleton] at hwithin
    omega

lemma ArrayStored.regular
    (hstored : ArrayStored items type dimensions (storeArray type dimensions [] 0 items 0).1)
    (hshallow : Shallow items) (hunmixed : Unmixed items)
    (h : Measured items dimensions type depth) : Regular items := by
  have hdeep : ∀ path leaf, IsLeafAt items path leaf → path.length = depth + 1 := by
    intro path leaf hleaf
    obtain ⟨n, cell, -, hstore, -⟩ := hstored.stored path leaf hleaf
    obtain ⟨-, -, hlength, -⟩ := h.store_at hstore
    exact hlength
  have hreadable : ∀ path leaf, IsLeafAt items path leaf → Readable leaf := by
    intro path leaf hleaf
    obtain ⟨n, cell, -, -, hholds, -⟩ := hstored.stored path leaf hleaf
    exact readable_of_holds hholds
  refine ⟨hshallow, hunmixed, ?_, hreadable, ?_⟩
  · intro path leaf hleaf path' item hitem
    rw [hdeep path leaf hleaf]
    exact h.length_le hshallow hitem
  · intro path leaf hleaf path' row hrow hlength
    have hlength' : path'.length = depth + 1 := hlength.trans (hdeep path leaf hleaf)
    obtain rfl := h.row_nil hshallow hrow hlength'
    obtain ⟨n, hflat, hslot⟩ := h.slot_at hrow hlength'
    have hobject : type ≠ .object := by
      rintro rfl
      -- Every slot is read, the empty array as an object that is not zero.
      have hgoes : ∀ slot ∈ arraySlots depth dimensions [] 0 items 0,
          (storeSlot .object slot).2 = true := by
        intro slot hmem
        obtain ⟨hitem, -, ⟨hplace, hlong⟩ | ⟨-, hshort, helement⟩⟩ := mem_arraySlots.mp hmem
        · obtain ⟨slotPath, index, item, inPlace⟩ := slot
          obtain rfl : inPlace = true := hplace
          by_cases helement : isLeaf item = true
          · have hread := (readCell_holds helement (hreadable slotPath item
              ⟨hitem, helement⟩) (h.leaf_type ⟨hitem, helement⟩)).1
            cases item with
            | null => rfl
            | _ => exact hread
          cases item with
          | null => rfl
          | array row =>
            obtain rfl := h.row_nil hshallow hitem hlong
            rfl
          | _ => exact absurd rfl helement
        have hlong := hdeep slot.path slot.item ⟨hitem, helement⟩
        omega
      have hstore : ⟨path', n, (readCell .object (.array [])).1⟩
          ∈ (storeArray .object dimensions [] 0 items 0).1 := by
        obtain ⟨before, behind, hslots⟩ := append_of_mem hslot
        rw [h.stores_eq, mem_runUntil]
        refine ⟨before, _, behind, hslots, fun slot hbefore => hgoes slot ?_,
          mem_storeSlot.mpr ⟨rfl, by simp, rfl⟩⟩
        rw [hslots]
        exact mem_append_left _ hbefore
      rcases hstored.zero n _ (h.stored_cell hstore) with hzero | ⟨path'', leaf', hleaf', hflat'⟩
      · exact absurd hzero (by simp [readCell, parseValues, zeroCell])
      obtain ⟨n', cell', hn', hstore', -⟩ := hstored.stored path'' leaf' hleaf'
      obtain rfl := some.inj (hn'.symm.trans hflat')
      have hnodup := h.stores_nodup
      rw [map_map] at hnodup
      have hsame := inj_on_of_nodup_map hnodup hstore' hstore rfl
      have hpath : path'' = path' := congrArg CellStore.path hsame
      obtain ⟨hitem, helement⟩ := hleaf'
      rw [hpath, hrow] at hitem
      rw [← some.inj hitem] at helement
      exact Bool.false_ne_true helement
    refine ⟨?_, fun hmap => hobject ?_⟩
    · obtain ⟨n', cell', -, hstore', -⟩ := hstored.stored path leaf hleaf
      rw [h.stores_eq, mem_runUntil] at hstore'
      obtain ⟨before, slot, behind, hslots, hbefore, hmem⟩ := hstore'
      obtain ⟨-, -, hstore'⟩ := mem_storeSlot.mp hmem
      have hpath : slot.path = path := (congrArg CellStore.path hstore').symm
      have hpairwise := h.slots_pairwise
      rw [hslots] at hslot hpairwise
      rcases mem_append.mp hslot with hearlier | hlater
      · -- The empty array would have ended the filling.
        have hends := hbefore _ hearlier
        simp [storeSlot, readCell, hobject] at hends
      rcases mem_cons.mp hlater with hsame | hbehind
      · have hitem := (mem_arraySlots.mp (by rw [hslots]; simp : slot
          ∈ arraySlots depth dimensions [] 0 items 0)).1
        obtain ⟨hleafItem, helement⟩ := hleaf
        rw [← hpath, hitem, ← hsame] at hleafItem
        rw [← some.inj hleafItem] at helement
        exact absurd helement Bool.false_ne_true
      rw [pairwise_append, pairwise_cons] at hpairwise
      exact hpath ▸ (hpairwise.2.1.1 _ hbehind).1
    · exact ((h.leaf_type hleaf).resolve_left (by rw [hmap]; simp)).symm.trans hmap

end Measured

/-! ## Any array -/

lemma not_clash {found : RepDimensions × OCRepPayloadPropType}
    (h : parseArrayFindDimensionsAndType items = some found) : ¬ Clash items := by
  obtain ⟨depth, hmeasured⟩ := measured_of_find h
  rintro ⟨a, b, ha, hb, hne⟩
  exact hne (((hmeasured.told a).mp ha).1.trans ((hmeasured.told b).mp hb).1.symm)

lemma ArrayExact.cases {name : Option CString} {values : List OCRepPayloadValue}
    (h : ArrayExact items name values) :
    name = none ∨ Clash items ∨ Regular items := by
  rcases h.2 with hnone | ⟨hshallow, hunmixed, dimensions, type, hfind, hkept⟩
  · cases hfind : parseArrayFindDimensionsAndType items with
    | none => exact .inr (.inl (clash_of_find hfind))
    | some found =>
      obtain ⟨dimensions, type⟩ := found
      rw [parseArray, hfind, bind_some] at hnone
      exact .inl (Option.map_eq_none_iff.mp hnone)
  obtain ⟨depth, hmeasured⟩ := measured_of_find hfind
  refine .inr (.inr ?_)
  by_cases htype : type = .null
  · rw [if_pos htype] at hkept
    exact ⟨hshallow, hunmixed, fun path leaf hleaf => absurd hleaf (hkept path leaf),
      fun path leaf hleaf => absurd hleaf (hkept path leaf),
      fun path leaf hleaf => absurd hleaf (hkept path leaf)⟩
  rw [if_neg htype] at hkept
  exact hkept.regular hshallow hunmixed hmeasured

def unevenArray : List RepItem := [.array [.int 1, .int 2], .int 3]

end Iochibity.Ocf
