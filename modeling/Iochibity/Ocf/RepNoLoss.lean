/-
No property is lost, or some are.
-/
import Iochibity.Ocf.RepLoops
import Iochibity.Lib.Buffer

namespace Iochibity.Ocf

open CborTree
open List

section

/-! ## The shape of an array -/

def rowLength : RepItem → Nat
  | .array items => items.length
  | _ => 0

def largest (f : RepItem → Nat) (items : List RepItem) : Nat :=
  (items.map f).foldr max 0

def subrowLength : RepItem → Nat
  | .array items => largest rowLength items
  | _ => 0

def tells : (depth : Nat) → RepItem → Bool
  | 0, item => decodeCborType item ≠ .null
  | depth + 1, .array items => items.any (tells depth)
  | _ + 1, _ => false

variable {items : List RepItem} {item : RepItem}

lemma le_largest (f : RepItem → Nat) (h : item ∈ items) : f item ≤ largest f items := by
  induction items with
  | nil => simp at h
  | cons first rest ih =>
    rw [largest, map_cons, foldr_cons]
    rcases mem_cons.mp h with rfl | h
    · exact le_max_left _ _
    · exact (ih h).trans (le_max_right _ _)

lemma largest_eq_zero {f : RepItem → Nat}
    (h : ∀ item ∈ items, f item = 0) : largest f items = 0 := by
  induction items with
  | nil => rfl
  | cons first rest ih =>
    obtain ⟨hfirst, hrest⟩ := forall_mem_cons.mp h
    have htail := ih hrest
    rw [largest] at htail ⊢
    simp [hfirst, htail]

def typeIf (told : Bool) (type : OCRepPayloadPropType) : OCRepPayloadPropType :=
  if told then type else .null

lemma mergeType_typeIf (type : OCRepPayloadPropType) (before item : Bool) :
    mergeType (typeIf before type) (typeIf item type) = some (typeIf (before || item) type) := by
  unfold mergeType typeIf
  cases before <;> cases item <;> simp [eq_comm]

variable {type : OCRepPayloadPropType} {depth : Nat}

lemma findDimensionsAndType_elements (h : ∀ item ∈ items, itemDimensionsAndType item
      = some (rowLength item, subrowLength item, typeIf (tells depth item) type))
    (dimensions : RepDimensions) (before : Bool) :
    findDimensionsAndType items dimensions (typeIf before type)
      = some (⟨dimensions.d0 + items.length, max dimensions.d1 (largest rowLength items),
            max dimensions.d2 (largest subrowLength items)⟩,
          typeIf (before || items.any (tells depth)) type) := by
  induction items generalizing dimensions before with
  | nil =>
    simp [findDimensionsAndType, largest]
  | cons item rest ih =>
    obtain ⟨hitem, hrest⟩ := forall_mem_cons.mp h
    rw [findDimensionsAndType, hitem]
    simp only [Option.bind_eq_bind, Option.bind_some, mergeType_typeIf]
    rw [ih hrest]
    simp [largest, Bool.or_assoc, Nat.add_assoc, Nat.add_comm 1]

lemma itemDimensionsAndType_scalar (h : decodeCborType item ≠ .array) :
    itemDimensionsAndType item = some (0, 0, decodeCborType item) ∧ rowLength item = 0
      ∧ subrowLength item = 0 := by
  cases item with
  | array items => exact absurd rfl h
  | _ => exact ⟨rfl, rfl, rfl⟩

lemma itemDimensionsAndType_element (htype : type ≠ .array) (depth : Nat) (item : RepItem)
    (h : isElement type depth item = true) :
    itemDimensionsAndType item
      = some (rowLength item, subrowLength item, typeIf (tells depth item) type) := by
  induction depth generalizing item with
  | zero =>
    rw [isElement, decide_eq_true_eq] at h
    have hscalar : decodeCborType item ≠ .array := by
      rcases h with h | h
      · rw [h]; decide
      · rwa [h]
    obtain ⟨hitem, hrow, hsubrow⟩ := itemDimensionsAndType_scalar hscalar
    rw [hitem, hrow, hsubrow, tells, typeIf]
    rcases h with h | h
    · simp [h]
    by_cases hnull : decodeCborType item = .null
    · simp [hnull]
    · simp [h] at hnull ⊢
  | succ depth ih =>
    cases item with
    | array items =>
      rw [isElement, all_eq_true] at h
      have hrows := findDimensionsAndType_elements (fun item hmem => ih item (h item hmem))
        ⟨0, 0, 0⟩ false
      rw [Bool.false_or, Nat.zero_add, Nat.zero_max, Nat.zero_max] at hrows
      rw [itemDimensionsAndType, tells]
      exact congrArg (Option.map _) hrows
    | _ =>
      -- only a null stands for a row
      have hnull := of_decide_eq_true h
      obtain ⟨hitem, hrow, hsubrow⟩ := itemDimensionsAndType_scalar (by rw [hnull]; decide)
      rw [hitem, hrow, hsubrow, hnull]
      rfl

def FitsDepth : (depth : Nat) → RepDimensions → Prop
  | 0, dimensions => dimensions.d1 = 0 ∧ dimensions.d2 = 0
  | 1, dimensions => dimensions.d1 ≠ 0 ∧ dimensions.d2 = 0
  | _ + 2, dimensions => dimensions.d1 ≠ 0 ∧ dimensions.d2 ≠ 0

def FitsRow (type : OCRepPayloadPropType) :
    (depth : Nat) → (dimensions : RepDimensions) → RepItem → Prop
  | depth + 1, dimensions, .array items =>
    items.length ≤ dimensions.d1
      ∧ ∀ item ∈ items, FitsRow type depth ⟨dimensions.d1, dimensions.d2, 0⟩ item
  | depth, _, item => isElement type depth item = true

lemma parseArrayFindDimensionsAndType_elements (htype : type ≠ .array)
    (h : ∀ item ∈ items, isElement type depth item = true) :
    parseArrayFindDimensionsAndType items
      = some (⟨items.length, largest rowLength items, largest subrowLength items⟩,
          typeIf (items.any (tells depth)) type) := by
  have hrows := findDimensionsAndType_elements
    (fun item hmem => itemDimensionsAndType_element htype depth item (h item hmem)) ⟨0, 0, 0⟩ false
  rw [Bool.false_or, Nat.zero_add, Nat.zero_max, Nat.zero_max] at hrows
  exact hrows

lemma rowLength_zero (htype : type ≠ .array)
    (h : isElement type 0 item = true) : rowLength item = 0 ∧ subrowLength item = 0 := by
  rw [isElement, decide_eq_true_eq] at h
  have hscalar : decodeCborType item ≠ .array := by
    rcases h with h | h
    · rw [h]; decide
    · rwa [h]
  exact (itemDimensionsAndType_scalar hscalar).2

lemma subrowLength_one (htype : type ≠ .array)
    (h : isElement type 1 item = true) : subrowLength item = 0 := by
  cases item with
  | array items =>
    rw [isElement, all_eq_true] at h
    exact largest_eq_zero (fun item hmem => (rowLength_zero htype (h item hmem)).1)
  | _ => rfl

lemma rowLength_pos (h : tells (depth + 1) item = true) :
    rowLength item ≠ 0 := by
  cases item with
  | array items =>
    rw [tells, any_eq_true] at h
    obtain ⟨item, hmem, -⟩ := h
    exact (length_pos_of_mem hmem).ne'
  | _ => exact absurd h Bool.false_ne_true

lemma subrowLength_pos (h : tells (depth + 2) item = true) :
    subrowLength item ≠ 0 := by
  cases item with
  | array items =>
    rw [tells, any_eq_true] at h
    obtain ⟨item, hmem, htells⟩ := h
    have hle := le_largest rowLength hmem
    have hpos := rowLength_pos htells
    rw [subrowLength]
    omega
  | _ => exact absurd h Bool.false_ne_true

lemma fitsDepth_elements (htype : type ≠ .array)
    (h : ∀ item ∈ items, isElement type depth item = true) (htells : items.any (tells depth) = true)
    (hdepth : depth ≤ 2) :
    FitsDepth depth ⟨items.length, largest rowLength items, largest subrowLength items⟩ := by
  obtain ⟨item, hmem, htold⟩ := any_eq_true.mp htells
  have hrow := le_largest rowLength hmem
  have hsubrow := le_largest subrowLength hmem
  match depth with
  | 0 =>
    exact ⟨largest_eq_zero (fun item hmem => (rowLength_zero htype (h item hmem)).1),
      largest_eq_zero (fun item hmem => (rowLength_zero htype (h item hmem)).2)⟩
  | 1 =>
    have hpos := rowLength_pos htold
    refine ⟨?_, largest_eq_zero (fun item hmem => subrowLength_one htype (h item hmem))⟩
    dsimp only
    omega
  | 2 =>
    have hpos := rowLength_pos htold
    have hsubpos := subrowLength_pos htold
    constructor <;> dsimp only <;> omega

variable {dimensions : RepDimensions}

lemma fitsRow_one (h : isElement type 1 item = true) (hrow : rowLength item ≤ dimensions.d1) :
    FitsRow type 1 dimensions item := by
  cases item with
  | array items =>
    rw [isElement, all_eq_true] at h
    refine ⟨hrow, fun item hmem => ?_⟩
    rw [FitsRow]
    · exact h item hmem
    · rintro depth items ⟨⟩
  | _ => exact h

lemma fitsRow_elements (h : ∀ item ∈ items, isElement type depth item = true) (hdepth : depth ≤ 2) :
    ∀ item ∈ items, FitsRow type depth
      ⟨items.length, largest rowLength items, largest subrowLength items⟩ item := by
  intro item hmem
  have helement := h item hmem
  have hrow := le_largest rowLength hmem
  have hsubrow := le_largest subrowLength hmem
  match depth with
  | 0 =>
    rw [FitsRow]
    · exact helement
    · rintro depth items ⟨⟩
  | 1 => exact fitsRow_one helement hrow
  | 2 =>
    cases item with
    | array items =>
      rw [isElement, all_eq_true] at helement
      refine ⟨hrow, fun item hmem => fitsRow_one (helement item hmem) ?_⟩
      exact (le_largest rowLength hmem).trans hsubrow
    | _ => exact helement

/-! ## Filling an array -/

lemma arrayStep_row (h : dimensions.d1 ≠ 0) :
    dimensions.d1 * arrayStep ⟨dimensions.d1, dimensions.d2, 0⟩ = arrayStep dimensions := by
  unfold arrayStep
  dsimp only
  simp [h]

lemma length_zeroCells (dimensions : RepDimensions) (type : OCRepPayloadPropType)
    (items : Nat) : (zeroCells dimensions type items).length = items * arrayStep dimensions := by
  rw [zeroCells, length_replicate, Nat.mul_comm]

lemma arrayStep_one (hregular : dimensions.d1 = 0 → dimensions.d2 = 0)
    (h : dimensions.d1 = 0) : arrayStep dimensions = 1 := by
  rw [arrayStep, if_pos h, if_pos (hregular h)]

lemma length_objectCell (parsed : Option (List OCRepPayloadValue)) :
    (objectCell parsed).1.length = 1 := by
  cases parsed <;> rfl

def isScalar : RepItem → Bool
  | .null => false
  | .array _ => false
  | .map _ => false
  | _ => true

section

variable (h : isScalar item = true) (dimensions : RepDimensions) (type : OCRepPayloadPropType)
include h

lemma fillItem_scalar :
    fillItem dimensions type item = if dimensions.d1 ≠ 0 then (zeroCells dimensions type 1, false)
        else match scalarCell type item with
          | some cell => ([cell], true)
          | none => ([zeroCell type], false) := by
  cases item with
  | null | array | map => exact absurd h Bool.false_ne_true
  | _ => rfl

lemma decodeCell_scalar :
    decodeCell dimensions type item = [(scalarCell type item).getD (zeroCell type)] := by
  cases item with
  | null | array | map => exact absurd h Bool.false_ne_true
  | _ => rfl

end

lemma length_fillItem_scalar (h : isScalar item = true)
    (hregular : dimensions.d1 = 0 → dimensions.d2 = 0) (type : OCRepPayloadPropType) :
    (fillItem dimensions type item).1.length = arrayStep dimensions := by
  rw [fillItem_scalar h]
  split_ifs with h1
  · rw [length_zeroCells, Nat.one_mul]
  · rw [arrayStep_one hregular (not_not.mp h1)]
    cases scalarCell type item <;> rfl

mutual

lemma length_fillArray (type : OCRepPayloadPropType) : (items : List RepItem) →
    (dimensions : RepDimensions) → (dimensions.d1 = 0 → dimensions.d2 = 0) → (left : Nat) →
    (fillArray dimensions type items left).1.length = left * arrayStep dimensions
  | [], dimensions, _, left => by
      rw [fillArray, length_zeroCells]
  | _ :: _, dimensions, _, 0 => by
      rw [fillArray, Nat.zero_mul]
      rfl
  | item :: rest, dimensions, hregular, left + 1 => by
      have hitem := length_fillItem type item dimensions hregular
      have hrest := length_fillArray type rest dimensions hregular left
      rw [fillArray]
      split
      · rename_i cells hcells
        rw [hcells] at hitem
        rw [length_append, hitem, length_zeroCells, Nat.succ_mul, Nat.add_comm]
      rename_i cells hcells
      rw [hcells] at hitem
      rw [length_append, hitem, hrest, Nat.succ_mul, Nat.add_comm]

lemma length_fillItem (type : OCRepPayloadPropType) : (item : RepItem) →
    (dimensions : RepDimensions) → (dimensions.d1 = 0 → dimensions.d2 = 0) →
    (fillItem dimensions type item).1.length = arrayStep dimensions
  | .null, dimensions, _ => by
      rw [fillItem, length_zeroCells, Nat.one_mul]
  | .array items, dimensions, hregular => by
      have hrow := length_fillArray type items ⟨dimensions.d1, dimensions.d2, 0⟩ (fun _ => rfl)
        dimensions.d1
      rw [fillItem]
      split_ifs with h1 htype
      · exact hrow.trans (arrayStep_row h1)
      · exact (length_objectCell _).trans (arrayStep_one hregular (not_not.mp h1)).symm
      · exact (arrayStep_one hregular (not_not.mp h1)).symm
  | .map items, dimensions, hregular => by
      rw [fillItem]
      split_ifs with h1 htype
      · rw [length_zeroCells, Nat.one_mul]
      · exact (length_objectCell _).trans (arrayStep_one hregular (not_not.mp h1)).symm
      · exact (arrayStep_one hregular (not_not.mp h1)).symm
  | .int _, _, hregular => length_fillItem_scalar rfl hregular type
  | .double _, _, hregular => length_fillItem_scalar rfl hregular type
  | .bool _, _, hregular => length_fillItem_scalar rfl hregular type
  | .text _, _, hregular => length_fillItem_scalar rfl hregular type
  | .bytes _, _, hregular => length_fillItem_scalar rfl hregular type
  | .other, _, hregular => length_fillItem_scalar rfl hregular type

end

lemma length_decodeCells
    (h : ∀ item ∈ items, (decodeCell dimensions type item).length = arrayStep dimensions)
    (left : Nat) :
    (decodeCells dimensions type items left).length = left * arrayStep dimensions := by
  induction items generalizing left with
  | nil => rw [decodeCells, length_zeroCells]
  | cons item rest ih =>
    obtain ⟨hitem, hrest⟩ := forall_mem_cons.mp h
    cases left with
    | zero =>
      rw [decodeCells, Nat.zero_mul]
      rfl
    | succ left =>
      rw [decodeCells, length_append, hitem, ih hrest, Nat.succ_mul, Nat.add_comm]

lemma FitsDepth.regular
    (h : FitsDepth depth dimensions) : dimensions.d1 = 0 → dimensions.d2 = 0 := by
  match depth, h with
  | 0, h => exact fun _ => h.2
  | 1, h => exact fun h1 => absurd h1 h.1
  | _ + 2, h => exact fun h1 => absurd h1 h.1

lemma FitsDepth.row_pos (h : FitsDepth (depth + 1) dimensions) : dimensions.d1 ≠ 0 := by
  match depth, h with
  | 0, h => exact h.1
  | _ + 1, h => exact h.1

lemma FitsDepth.row (h : FitsDepth (depth + 1) dimensions) (hle : depth + 1 ≤ 2) :
    FitsDepth depth ⟨dimensions.d1, dimensions.d2, 0⟩ := by
  match depth, h with
  | 0, h => exact ⟨h.2, rfl⟩
  | 1, h => exact ⟨h.2, rfl⟩

lemma wellFormedItems_iff (items : List RepItem) :
    WellFormedItems items ↔ ∀ item ∈ items, WellFormed item := by
  induction items with
  | nil => exact iff_of_true trivial (fun _ h => absurd h not_mem_nil)
  | cons item rest ih => rw [WellFormedItems, forall_mem_cons, ih]

lemma not_fitsRow_array (htype : type ≠ .array) :
    ¬ FitsRow type 0 dimensions (.array items) := by
  intro h
  rcases of_decide_eq_true h with h | h
  · exact OCRepPayloadPropType.noConfusion h
  · exact htype h.symm

lemma length_decodeCell (htype : type ≠ .array) (hwf : WellFormed item)
    (hdepth : FitsDepth depth dimensions) (hrow : FitsRow type depth dimensions item)
    (hle : depth ≤ 2) : (decodeCell dimensions type item).length = arrayStep dimensions := by
  have hnull : (decodeCell dimensions type .null).length = arrayStep dimensions := by
    rw [decodeCell, length_zeroCells, Nat.one_mul]
  induction depth generalizing item dimensions with
  | zero =>
    have hone := arrayStep_one hdepth.regular hdepth.1
    cases item with
    | null => exact hnull
    | array items => exact absurd hrow (not_fitsRow_array htype)
    | _ => exact hone.symm
  | succ depth ih =>
    cases item with
    | null => exact hnull
    | array items =>
      rw [decodeCell, ← arrayStep_row hdepth.row_pos]
      refine length_decodeCells (fun item hmem => ?_) dimensions.d1
      refine ih ((wellFormedItems_iff items).mp hwf item hmem) (hdepth.row hle)
        (hrow.2 item hmem) (Nat.le_of_succ_le hle) ?_
      rw [decodeCell, length_zeroCells, Nat.one_mul]
    | other => exact hwf.elim
    | _ => exact absurd hrow Bool.false_ne_true

/-! ## Items -/

lemma noLossCells_iff (items : List RepItem) :
    NoLossCells items ↔ ∀ item ∈ items, NoLossCell item := by
  induction items with
  | nil => exact iff_of_true trivial (fun _ h => absurd h not_mem_nil)
  | cons item rest ih => rw [NoLossCells, forall_mem_cons, ih]

lemma noLossCell_of_untold (h : isElement type depth item = true)
    (huntold : tells depth item = false ∨ type = .null) :
    NoLossCell item := by
  induction depth generalizing item with
  | zero =>
    have hnull : decodeCborType item = .null := by
      rw [isElement, decide_eq_true_eq] at h
      rcases huntold with hfalse | hfalse
      · rwa [tells, decide_eq_false_iff_not, not_not] at hfalse
      rw [hfalse] at h
      exact h.elim id id
    cases item with
    | map | array => exact OCRepPayloadPropType.noConfusion hnull
    | _ => trivial
  | succ depth ih =>
    cases item with
    | array items =>
      rw [isElement, all_eq_true] at h
      rw [NoLossCell, noLossCells_iff]
      refine fun item hmem => ih (h item hmem) ?_
      rcases huntold with hfalse | hfalse
      · rw [tells, any_eq_false] at hfalse
        simp [hfalse, hmem]
      · exact .inr hfalse
    | map items => exact absurd h Bool.false_ne_true
    | _ => trivial

def Reads (item : RepItem) : Prop :=
  (readItem item).map Prod.fst = some (decodeValue item)

lemma isHomogeneous_iff :
    isHomogeneous items = true ↔ ∃ type, type ≠ .array ∧ ∃ depth ≤ 2,
      ∀ item ∈ items, isElement type depth item = true := by
  simp only [isHomogeneous, any_eq_true, all_eq_true]
  constructor
  · rintro ⟨type, htype, depth, hdepth, h⟩
    refine ⟨type, ?_, depth, ?_, h⟩
    · rintro rfl
      exact absurd htype (by decide)
    · have hall : ∀ d ∈ [0, 1, 2], d ≤ 2 := by decide
      exact hall depth hdepth
  · rintro ⟨type, htype, depth, hdepth, h⟩
    refine ⟨type, ?_, depth, ?_, h⟩
    · cases type <;> first | decide | exact absurd rfl htype
    · have hall : ∀ d ≤ 2, d ∈ [0, 1, 2] := by decide
      exact hall depth hdepth

lemma readPairs_cons (key : List UInt8) (value : RepItem) (rest : List RepItem) :
    readPairs (.text key :: value :: rest) = some (decodePairs (.text key :: value :: rest))
      ↔ Reads value ∧ readPairs rest = some (decodePairs rest) := by
  rw [readPairs, decodePairs, Reads]
  cases readItem value with
  | none => simp
  | some found => cases readPairs rest <;> simp

lemma readElements_cons (item : RepItem) (rest : List RepItem) (arrayIndex : Nat) :
    readElements arrayIndex (item :: rest) = some (decodeElements arrayIndex (item :: rest))
      ↔ Reads item ∧ readElements (arrayIndex + 1) rest
          = some (decodeElements (arrayIndex + 1) rest) := by
  rw [readElements, decodeElements, Reads]
  cases readItem item with
  | none => simp
  | some found => cases readElements (arrayIndex + 1) rest <;> simp

lemma parseValues_map_iff (hwf : WellFormedPairs items)
    (hpairs : readPairs items = some (decodePairs items) ↔ NoLossPairs items) :
    parseValues true false items false none 0 [] = some (decodePairs items)
      ↔ NoLossPairs items ∧ MixedLast items ∧ (pairNames items).Nodup := by
  rw [parseValues_eq_decodePairs hwf, hpairs]
  constructor
  · rintro ⟨horderly, hread⟩
    exact ⟨hread, horderly.mixedLast, horderly.nodup⟩
  · rintro ⟨hread, hlast, hnodup⟩
    exact ⟨⟨hlast, fun h => absurd h Bool.false_ne_true, hnodup, fun _ _ => not_mem_nil⟩, hread⟩

lemma objectCell_iff (parsed : Option (List OCRepPayloadValue)) (values : List OCRepPayloadValue) :
    ((objectCell parsed).1 = [.object (.ofValues values)] ↔ parsed = some values)
      ∧ (parsed = some values → (objectCell parsed).2 = true) := by
  cases parsed with
  | none => simp [objectCell]
  | some read => simp [objectCell, OCRepPayload.ofValues]

lemma reads_object_iff {parsed : Option (List OCRepPayloadValue)}
    {values : List OCRepPayloadValue} {skip : Bool} :
    (parsed.map (fun pl => (RepProp.object (.ofValues pl), skip))).map Prod.fst
        = some (.object (.ofValues values)) ↔ parsed = some values := by
  cases parsed with
  | none => simp
  | some read => simp [OCRepPayload.ofValues]

lemma scalarCell_of_element (hscalar : isScalar item = true) (hwf : WellFormed item)
    (h : isElement type 0 item = true) : ∃ cell, scalarCell type item = some cell := by
  have htype := of_decide_eq_true h
  cases item with
  | null | array | map => exact absurd hscalar Bool.false_ne_true
  | other => exact hwf.elim
  | _ =>
    obtain rfl := htype.resolve_left (fun h => OCRepPayloadPropType.noConfusion h)
    exact ⟨_, rfl⟩

lemma fillItem_scalar_eq (hscalar : isScalar item = true) (hwf : WellFormed item)
    (hrow : FitsRow type depth dimensions item) (hdepth : FitsDepth depth dimensions) :
    fillItem dimensions type item = (decodeCell dimensions type item, true) := by
  cases depth with
  | zero =>
    rw [FitsRow] at hrow
    · obtain ⟨cell, hcell⟩ := scalarCell_of_element hscalar hwf hrow
      rw [fillItem_scalar hscalar, decodeCell_scalar hscalar, hcell, if_neg (not_not.mpr hdepth.1)]
      rfl
    · rintro depth items ⟨⟩
  | succ depth =>
    cases item with
    | null | array | map => exact absurd hscalar Bool.false_ne_true
    | other => exact hwf.elim
    | _ => exact absurd hrow Bool.false_ne_true

mutual

lemma reads_iff : (item : RepItem) → WellFormed item → (Reads item ↔ NoLoss item)
  | .null, _ => iff_of_true rfl trivial
  | .int _, _ => iff_of_true rfl trivial
  | .double _, _ => iff_of_true rfl trivial
  | .bool _, _ => iff_of_true rfl trivial
  | .text _, _ => iff_of_true rfl trivial
  | .bytes _, _ => iff_of_true rfl trivial
  | .map items, hwf => by
      rw [Reads, readItem, decodeValue, reads_object_iff, NoLoss]
      exact parseValues_map_iff hwf.1 (readPairs_iff items hwf.1)
  | .array items, hwf => by
      rw [Reads, readItem, decodeValue, NoLoss]
      by_cases hhom : isHomogeneous items = true
      · rw [if_pos hhom, if_pos hhom]
        obtain ⟨type, htype, depth, hle, helement⟩ := isHomogeneous_iff.mp hhom
        have hfound := parseArrayFindDimensionsAndType_elements htype helement
        rw [arrayShape, hfound]
        simp only [Option.getD_some, Option.map_some, Option.some.injEq]
        by_cases htold : items.any (tells depth) = true ∧ type ≠ .null
        · rw [htold.1, typeIf, if_pos rfl, if_neg htold.2, if_neg htold.2]
          simp only [RepProp.array.injEq, true_and]
          exact (fillArray_iff htype items hwf (fitsRow_elements helement hle)
            (fitsDepth_elements htype helement htold.1 hle) hle le_rfl).1
        -- nothing but nulls
        have hnull : typeIf (items.any (tells depth)) type = .null := by
          unfold typeIf
          split_ifs with htells
          · exact not_not.mp (htold ⟨htells, ·⟩)
          · rfl
        rw [hnull, if_pos rfl, if_pos rfl]
        refine iff_of_true rfl ((noLossCells_iff items).mpr (fun item hmem => ?_))
        refine noLossCell_of_untold (helement item hmem) ?_
        by_cases htype' : type = .null
        · exact .inr htype'
        refine .inl (Bool.eq_false_iff.mpr (fun htells => htold ⟨?_, htype'⟩))
        exact any_eq_true.mpr ⟨item, hmem, htells⟩
      rw [if_neg hhom, if_neg hhom]
      cases hfound : parseArrayFindDimensionsAndType items with
      | some found =>
        refine iff_of_false (fun h => ?_) (fun h => absurd h.1 (by simp))
        simp only [Option.map_some, Option.some.injEq] at h
        split_ifs at h
      | none =>
        dsimp only
        rw [reads_object_iff, parseValues_eq_decodeElements, readElements_iff items hwf 0]
        exact ⟨fun h => ⟨rfl, h.2, h.1⟩, fun h => ⟨h.2.2, h.2.1⟩⟩
  | .other, hwf => hwf.elim

lemma readPairs_iff : (items : List RepItem) → WellFormedPairs items →
    (readPairs items = some (decodePairs items) ↔ NoLossPairs items)
  | [], _ => iff_of_true rfl trivial
  | .text key :: value :: rest, hwf => by
      rw [readPairs_cons, NoLossPairs, reads_iff value hwf.1, readPairs_iff rest hwf.2]
  | [.text _], h => h.elim
  | .null :: _, h => h.elim
  | .int _ :: _, h => h.elim
  | .double _ :: _, h => h.elim
  | .bool _ :: _, h => h.elim
  | .bytes _ :: _, h => h.elim
  | .array _ :: _, h => h.elim
  | .map _ :: _, h => h.elim
  | .other :: _, h => h.elim

lemma readElements_iff : (items : List RepItem) → WellFormedItems items →
    ∀ arrayIndex, readElements arrayIndex items = some (decodeElements arrayIndex items)
      ↔ NoLossItems items
  | [], _, _ => iff_of_true rfl trivial
  | item :: rest, hwf, arrayIndex => by
      rw [readElements_cons, NoLossItems, reads_iff item hwf.1,
        readElements_iff rest hwf.2 (arrayIndex + 1)]

lemma fillArray_iff {type : OCRepPayloadPropType} (htype : type ≠ .array) :
    (items : List RepItem) → WellFormedItems items → ∀ {depth : Nat} {dimensions : RepDimensions}
    {left : Nat}, (∀ item ∈ items, FitsRow type depth dimensions item) →
    FitsDepth depth dimensions → depth ≤ 2 → items.length ≤ left →
    ((fillArray dimensions type items left).1 = decodeCells dimensions type items left
        ↔ NoLossCells items)
      ∧ (NoLossCells items → (fillArray dimensions type items left).2 = true)
  | [], _, _, dimensions, left, _, _, _, _ => by
      rw [fillArray, decodeCells]
      exact ⟨iff_of_true rfl trivial, fun _ => rfl⟩
  | item :: rest, hwf, depth, dimensions, left, hrows, hdepth, hle, hleft => by
      obtain ⟨hrow, hrows⟩ := forall_mem_cons.mp hrows
      cases left with
      | zero => exact absurd hleft (by simp)
      | succ left =>
        obtain ⟨hitem, hgoes⟩ := fillItem_iff htype item hwf.1 hrow hdepth hle
        obtain ⟨hrest, hends⟩ := fillArray_iff htype rest hwf.2 hrows hdepth hle
          (Nat.le_of_succ_le_succ hleft)
        have hlength := (length_fillItem type item dimensions hdepth.regular).trans
          (length_decodeCell htype hwf.1 hdepth hrow hle).symm
        rw [fillArray, decodeCells, NoLossCells]
        cases hfill : fillItem dimensions type item with
        | mk cells goes =>
          rw [hfill] at hitem hgoes hlength
          cases goes with
          | false =>
            -- filling ends here, so the item has not been read as what it means
            have hlost : ¬ NoLossCell item := fun h => absurd (hgoes h) Bool.false_ne_true
            refine ⟨iff_of_false (fun h => hlost (hitem.mp ?_)) (hlost ·.1),
              fun h => absurd h.1 hlost⟩
            exact (append_inj h hlength).1
          | true =>
            dsimp only
            rw [← hitem, ← hrest]
            refine ⟨⟨fun h => append_inj h hlength, fun h => ?_⟩, fun h => ?_⟩
            · rw [← h.1, ← h.2]
            · exact hends (hrest.mp h.2)

lemma fillItem_iff {type : OCRepPayloadPropType} (htype : type ≠ .array) :
    (item : RepItem) → WellFormed item → ∀ {depth : Nat} {dimensions : RepDimensions},
    FitsRow type depth dimensions item → FitsDepth depth dimensions → depth ≤ 2 →
    ((fillItem dimensions type item).1 = decodeCell dimensions type item ↔ NoLossCell item)
      ∧ (NoLossCell item → (fillItem dimensions type item).2 = true)
  | .null, _, _, dimensions, _, _, _ => by
      rw [fillItem, decodeCell]
      exact ⟨iff_of_true rfl trivial, fun _ => rfl⟩
  | .map items, hwf, 0, dimensions, hrow, hdepth, _ => by
      obtain rfl : OCRepPayloadPropType.object = type :=
        (of_decide_eq_true hrow).resolve_left (fun h => OCRepPayloadPropType.noConfusion h)
      rw [fillItem, if_neg (not_not.mpr hdepth.1), if_pos rfl, decodeCell, NoLossCell,
        ← parseValues_map_iff hwf.1 (readPairs_iff items hwf.1)]
      exact objectCell_iff _ _
  | .map items, _, depth + 1, dimensions, hrow, _, _ => absurd hrow Bool.false_ne_true
  | .array items, _, 0, dimensions, hrow, _, _ => absurd hrow (not_fitsRow_array htype)
  | .array items, hwf, depth + 1, dimensions, hrow, hdepth, hle => by
      rw [fillItem, if_pos hdepth.row_pos, decodeCell, NoLossCell]
      exact fillArray_iff htype items hwf hrow.2 (hdepth.row hle) (Nat.le_of_succ_le hle) hrow.1
  | .int n, hwf, _, _, hrow, hdepth, _ => by
      rw [fillItem_scalar_eq rfl hwf hrow hdepth]
      exact ⟨iff_of_true rfl trivial, fun _ => rfl⟩
  | .double bits, hwf, _, _, hrow, hdepth, _ => by
      rw [fillItem_scalar_eq rfl hwf hrow hdepth]
      exact ⟨iff_of_true rfl trivial, fun _ => rfl⟩
  | .bool b, hwf, _, _, hrow, hdepth, _ => by
      rw [fillItem_scalar_eq rfl hwf hrow hdepth]
      exact ⟨iff_of_true rfl trivial, fun _ => rfl⟩
  | .text s, hwf, _, _, hrow, hdepth, _ => by
      rw [fillItem_scalar_eq rfl hwf hrow hdepth]
      exact ⟨iff_of_true rfl trivial, fun _ => rfl⟩
  | .bytes b, hwf, _, _, hrow, hdepth, _ => by
      rw [fillItem_scalar_eq rfl hwf hrow hdepth]
      exact ⟨iff_of_true rfl trivial, fun _ => rfl⟩
  | .other, hwf, _, _, _, _, _ => hwf.elim

end

/-- **No property is lost exactly when `NoLoss` holds.** Every well-formed map, at the root
or below, is read as one value for each key, in the order of the map and each of them the
meaning of its item, if and only if nothing is lost in it and, at the root, no key is cut
to a reserved one. -/
theorem parseSingleRepPayload_iff (isRoot : Bool) {items : List RepItem}
    (hwf : WellFormed (.map items)) :
    parseValues true isRoot items false none 0 [] = some (decodePairs items) ↔ NoLoss (.map items)
        ∧ (isRoot = true → ∀ name ∈ pairNames items, isReserved name = false) := by
  rw [parseValues_eq_decodePairs hwf.1, readPairs_iff items hwf.1, NoLoss]
  constructor
  · rintro ⟨horderly, hread⟩
    exact ⟨⟨hread, horderly.mixedLast, horderly.nodup⟩, horderly.unreserved⟩
  · rintro ⟨⟨hread, hlast, hnodup⟩, hunreserved⟩
    exact ⟨⟨hlast, hunreserved, hnodup, fun _ _ => not_mem_nil⟩, hread⟩

def mixedLastMap : List RepItem :=
  [.text [97], .int 7, .text [98], .array [.int 1, .text [120]]]

theorem mixedLastMap_read :
    parseValues true true mixedLastMap false none 0 [] = some (decodePairs mixedLastMap) := by
  have hwf : WellFormed (.map mixedLastMap) :=
    ⟨⟨trivial, ⟨trivial, trivial, trivial⟩, trivial⟩, by decide⟩
  have hmixed : isHomogeneous [.int 1, .text [120]] = false := by decide
  have hfound : parseArrayFindDimensionsAndType [.int 1, .text [120]] = none := rfl
  have harray : NoLoss (.array [.int 1, .text [120]]) := by
    rw [NoLoss, hmixed, if_neg Bool.false_ne_true]
    exact ⟨hfound, ⟨trivial, trivial, trivial⟩,
      ⟨fun h => absurd h Bool.false_ne_true, fun _ => rfl, trivial⟩⟩
  refine (parseSingleRepPayload_iff true hwf).mpr ⟨⟨⟨trivial, harray, trivial⟩, ?_, ?_⟩, ?_⟩
  · exact ⟨fun h => absurd h Bool.false_ne_true, fun _ => rfl, trivial⟩
  · decide
  · decide

theorem mixedFirstMap_lost :
    WellFormed (.map [.text [97], .array [.int 1, .text [120]], .text [98], .int 2])
      ∧ parseValues true true [.text [97], .array [.int 1, .text [120]], .text [98], .int 2]
          false none 0 []
        ≠ some (decodePairs [.text [97], .array [.int 1, .text [120]], .text [98], .int 2]) := by
  refine ⟨⟨⟨⟨trivial, trivial, trivial⟩, trivial, trivial⟩, by decide⟩, ?_⟩
  have hnone : parseValues true true
      [.text [97], .array [.int 1, .text [120]], .text [98], .int 2] false none 0 [] = none := rfl
  rw [hnone]
  exact (Option.some_ne_none _).symm

end

open CborTree Buffer
open Option (some.inj)

/-! ## Filling with a log -/

structure CellStore where
  path : List ℕ
  index : ℕ
  cell : RepCell

def CellStore.entry (store : CellStore) : ℕ × RepCell := (store.index, store.cell)

def readCell (type : OCRepPayloadPropType) : RepItem → RepCell × Bool
  | .array items =>
    if type = .object then
      match parseValues false false items false none 0 [] with
      | some values => (.object (.ofValues values), true)
      | none => (.nullPointer, false)
    else (zeroCell type, false)
  | .map items =>
    if type = .object then
      match parseValues true false items false none 0 [] with
      | some values => (.object (.ofValues values), true)
      | none => (.nullPointer, false)
    else (zeroCell type, false)
  | item =>
    match scalarCell type item with
    | some cell => (cell, true)
    | none => (zeroCell type, false)

def cellIndex (dimensions : RepDimensions) (target i : ℕ) : ℕ :=
  if dimensions.d1 = 0 then target + i else target + arrayStep dimensions * i

mutual

/-- The loop of `OCParseArrayFillArray`, from item `i` on. -/
def storeArray (type : OCRepPayloadPropType) (dimensions : RepDimensions) (path : List ℕ)
    (target : ℕ) : List RepItem → (i : ℕ) → List CellStore × Bool
  | [], _ => ([], true)
  | item :: rest, i =>
    if i < dimensions.d0 then
      match storeItem type dimensions (path ++ [i]) (cellIndex dimensions target i) item with
      | (stores, false) => (stores, false)
      | (stores, true) =>
        let more := storeArray type dimensions path target rest (i + 1)
        (stores ++ more.1, more.2)
    else ([], true)

def storeItem (type : OCRepPayloadPropType) (dimensions : RepDimensions) (path : List ℕ)
    (target : ℕ) : RepItem → List CellStore × Bool
  | .null => ([], true)
  | .array items =>
    if dimensions.d1 ≠ 0 then
      storeArray type ⟨dimensions.d1, dimensions.d2, 0⟩ path target items 0
    else ([⟨path, target, (readCell type (.array items)).1⟩], (readCell type (.array items)).2)
  | item =>
    if dimensions.d1 ≠ 0 then ([], false)
    else ([⟨path, target, (readCell type item).1⟩], (readCell type item).2)

end

def isLeaf : RepItem → Bool
  | .null => false
  | .array _ => false
  | _ => true

variable {type : OCRepPayloadPropType} {dimensions : RepDimensions} {path : List ℕ} {target : ℕ}
  {item : RepItem}

lemma storeArray_cons {i : ℕ} (hi : i < dimensions.d0) (item : RepItem) (rest : List RepItem) :
    storeArray type dimensions path target (item :: rest) i
      = if (storeItem type dimensions (path ++ [i]) (cellIndex dimensions target i) item).2 then
          ((storeItem type dimensions (path ++ [i]) (cellIndex dimensions target i) item).1
            ++ (storeArray type dimensions path target rest (i + 1)).1,
           (storeArray type dimensions path target rest (i + 1)).2)
        else storeItem type dimensions (path ++ [i]) (cellIndex dimensions target i) item := by
  rw [storeArray, if_pos hi]
  rcases storeItem type dimensions (path ++ [i]) (cellIndex dimensions target i) item
    with ⟨stores, _ | _⟩ <;> rfl

/-! ## What filling leaves -/

lemma readCell_scalar (h : isScalar item = true) (type : OCRepPayloadPropType) :
    readCell type item = match scalarCell type item with
      | some cell => (cell, true)
      | none => (zeroCell type, false) := by
  cases item with
  | null | array | map => exact absurd h Bool.false_ne_true
  | _ => rfl

lemma fillItem_cell (h1 : dimensions.d1 = 0) (type : OCRepPayloadPropType) (hnull : item ≠ .null) :
    fillItem dimensions type item = ([(readCell type item).1], (readCell type item).2) := by
  have hno : ¬ dimensions.d1 ≠ 0 := not_not.mpr h1
  cases item with
  | null => exact absurd rfl hnull
  | array items =>
    rw [fillItem, if_neg hno, readCell]
    by_cases htype : type = .object
    · rw [if_pos htype, if_pos htype]
      cases parseValues false false items false none 0 [] <;> rfl
    · simp [htype]
  | map items =>
    rw [fillItem, if_neg hno, readCell]
    by_cases htype : type = .object
    · rw [if_pos htype, if_pos htype]
      cases parseValues true false items false none 0 [] <;> rfl
    · simp [htype]
  | _ =>
    rw [fillItem_scalar rfl, if_neg hno, readCell_scalar rfl]
    split <;> simp

lemma cellIndex_eq (hregular : dimensions.d1 = 0 → dimensions.d2 = 0) (target i : ℕ) :
    cellIndex dimensions target i = target + arrayStep dimensions * i := by
  rw [cellIndex]
  split_ifs with h1
  · rw [arrayStep_one hregular h1, Nat.one_mul]
  · rfl

lemma zeroCells_add (dimensions : RepDimensions) (type : OCRepPayloadPropType) (m n : ℕ) :
    zeroCells dimensions type (m + n)
      = zeroCells dimensions type m ++ zeroCells dimensions type n := by
  rw [zeroCells, Nat.mul_add, replicate_add]
  rfl

lemma zeroCells_row (h : dimensions.d1 ≠ 0) (type : OCRepPayloadPropType) :
    zeroCells ⟨dimensions.d1, dimensions.d2, 0⟩ type dimensions.d1
      = zeroCells dimensions type 1 := by
  rw [zeroCells, zeroCells, Nat.mul_comm, arrayStep_row h, Nat.mul_one]

mutual

lemma storeLog_storeArray_left (type : OCRepPayloadPropType) : (items : List RepItem) →
    (dimensions : RepDimensions) → (dimensions.d1 = 0 → dimensions.d2 = 0) →
    (path : List ℕ) → (target i : ℕ) → (before behind : List RepCell) → (left : ℕ) →
    i + left = dimensions.d0 → before.length = target + arrayStep dimensions * i →
    storeLog (before ++ zeroCells dimensions type left ++ behind)
        ((storeArray type dimensions path target items i).1.map CellStore.entry)
      = before ++ (fillArray dimensions type items left).1 ++ behind
    ∧ (storeArray type dimensions path target items i).2 = (fillArray dimensions type items left).2
  | [], _, _, _, _, _, _, _, _, _, _ => ⟨rfl, rfl⟩
  | item :: rest, dimensions, _, path, target, i, before, behind, 0, hi, _ => by
    rw [storeArray, if_neg (by omega), fillArray]
    exact ⟨by rw [zeroCells, Nat.mul_zero]; rfl, rfl⟩
  | item :: rest, dimensions, hregular, path, target, i, before, behind, left + 1, hi,
      hbefore => by
    have hindex := cellIndex_eq hregular target i
    obtain ⟨hlog, hgoes⟩ := storeLog_storeItem type item dimensions hregular (path ++ [i])
      (cellIndex dimensions target i) before (zeroCells dimensions type left ++ behind)
      (hbefore.trans hindex.symm)
    have hlength := length_fillItem type item dimensions hregular
    have hrest := storeLog_storeArray_left type rest dimensions hregular path target (i + 1)
      (before ++ (fillItem dimensions type item).1) behind left (by omega)
      (by rw [length_append, hlength, hbefore, Nat.mul_succ, Nat.add_assoc])
    have hsplit : zeroCells dimensions type (left + 1)
        = zeroCells dimensions type 1 ++ zeroCells dimensions type left := by
      rw [Nat.add_comm, zeroCells_add]
    rw [storeArray_cons (by omega), fillArray, hsplit]
    simp only [append_assoc] at hlog hrest ⊢
    cases hgo : (fillItem dimensions type item).2 with
    | false =>
      rw [hgo] at hgoes
      rw [if_neg (by rw [hgoes]; exact Bool.false_ne_true), hlog, hgoes]
      have hpair : fillItem dimensions type item = ((fillItem dimensions type item).1, false) :=
        Prod.ext rfl hgo
      rw [hpair]
      exact ⟨by simp only [append_assoc], rfl⟩
    | true =>
      rw [hgo] at hgoes
      have hpair : fillItem dimensions type item = ((fillItem dimensions type item).1, true) :=
        Prod.ext rfl hgo
      rw [if_pos hgoes, map_append, storeLog_append, hlog, hrest.1, hrest.2, hpair]
      exact ⟨by simp only [append_assoc], rfl⟩

lemma storeLog_storeItem (type : OCRepPayloadPropType) : (item : RepItem) →
    (dimensions : RepDimensions) → (dimensions.d1 = 0 → dimensions.d2 = 0) →
    (path : List ℕ) → (target : ℕ) → (before behind : List RepCell) →
    before.length = target →
    storeLog (before ++ zeroCells dimensions type 1 ++ behind)
        ((storeItem type dimensions path target item).1.map CellStore.entry)
      = before ++ (fillItem dimensions type item).1 ++ behind
    ∧ (storeItem type dimensions path target item).2 = (fillItem dimensions type item).2
  | item, dimensions, hregular, path, target, before, behind, hbefore => by
    by_cases h1 : dimensions.d1 = 0
    · by_cases hnull : item = .null
      · rw [hnull, storeItem, fillItem]
        exact ⟨rfl, rfl⟩
      -- One cell is stored.
      have hitem : storeItem type dimensions path target item
          = ([⟨path, target, (readCell type item).1⟩], (readCell type item).2) := by
        cases item with
        | null => exact absurd rfl hnull
        | _ => simp [storeItem, h1]
      have hone : zeroCells dimensions type 1 = [zeroCell type] := by
        rw [zeroCells, arrayStep_one hregular h1]
        rfl
      rw [hitem, fillItem_cell h1 type hnull, hone, append_assoc]
      refine ⟨?_, rfl⟩
      change (before ++ zeroCell type :: behind).set target _ = _
      rw [← hbefore, set_append_right _ _ (le_refl _), Nat.sub_self, append_assoc]
      rfl
    cases item with
    | array items =>
      have hrow := storeLog_storeArray_left type items ⟨dimensions.d1, dimensions.d2, 0⟩
        (fun _ => rfl) path target 0 before behind dimensions.d1 (Nat.zero_add _)
        (by rw [hbefore, Nat.mul_zero, Nat.add_zero])
      rw [zeroCells_row h1] at hrow
      rw [storeItem, fillItem, if_pos h1, if_pos h1]
      exact hrow
    | null =>
      rw [storeItem, fillItem]
      exact ⟨rfl, rfl⟩
    | _ =>
      simp only [storeItem, fillItem, ne_eq, h1, not_false_eq_true, ite_true]
      exact ⟨rfl, trivial⟩

end

lemma storeLog_storeArray (type : OCRepPayloadPropType) (items : List RepItem)
    (hregular : dimensions.d1 = 0 → dimensions.d2 = 0) :
    storeLog (zeroCells dimensions type dimensions.d0)
        ((storeArray type dimensions [] 0 items 0).1.map CellStore.entry)
      = (fillArray dimensions type items dimensions.d0).1 := by
  have hall := (storeLog_storeArray_left type items dimensions hregular [] 0 0 [] []
    dimensions.d0 (Nat.zero_add _) (by rw [Nat.mul_zero]; rfl)).1
  simpa using hall

/-! ## The items that filling goes through -/

def itemAt (item : RepItem) : (path : List ℕ) → Option RepItem
  | [] => some item
  | i :: path =>
    match item with
    | .array items => items[i]?.bind fun item => itemAt item path
    | _ => none

structure Slot where
  path : List ℕ
  index : ℕ
  item : RepItem
  inPlace : Bool

def storeSlot (type : OCRepPayloadPropType) (slot : Slot) : List CellStore × Bool :=
  if slot.inPlace then
    match slot.item with
    | .null => ([], true)
    | item => ([⟨slot.path, slot.index, (readCell type item).1⟩], (readCell type item).2)
  else ([], false)

section Rows

variable {α : Type}

def rowsFrom (row : ℕ → RepItem → List α) : List RepItem → (i : ℕ) → List α
  | [], _ => []
  | item :: rest, i => row i item ++ rowsFrom row rest (i + 1)

variable {row : ℕ → RepItem → List α} {items : List RepItem}

lemma mem_rowsFrom {i : ℕ} {a : α} :
    a ∈ rowsFrom row items i ↔ ∃ k item, items[k]? = some item ∧ a ∈ row (i + k) item := by
  induction items generalizing i with
  | nil => simp [rowsFrom]
  | cons item rest ih =>
    rw [rowsFrom, mem_append, ih]
    constructor
    · rintro (hfirst | ⟨k, item', hk, hmem⟩)
      · exact ⟨0, item, rfl, hfirst⟩
      · exact ⟨k + 1, item', hk, by rwa [Nat.add_assoc, Nat.add_comm 1] at hmem⟩
    · rintro ⟨k, item', hk, hmem⟩
      cases k with
      | zero => exact .inl (some.inj hk ▸ hmem)
      | succ k =>
        exact .inr ⟨k, item', hk, by rwa [Nat.add_assoc, Nat.add_comm 1]⟩

lemma pairwise_rowsFrom {r : α → α → Prop} (hrow : ∀ i, ∀ item ∈ items, (row i item).Pairwise r)
    (hrows : ∀ i j, ∀ item ∈ items, ∀ item' ∈ items, i < j →
      ∀ a ∈ row i item, ∀ b ∈ row j item', r a b) (i : ℕ) :
    (rowsFrom row items i).Pairwise r := by
  induction items generalizing i with
  | nil => exact List.Pairwise.nil
  | cons item rest ih =>
    rw [rowsFrom, pairwise_append]
    refine ⟨hrow i item mem_cons_self, ?_, ?_⟩
    · refine ih (fun i x hx => hrow i x (mem_cons_of_mem _ hx)) ?_ (i + 1)
      exact fun i j x hx y hy => hrows i j x (mem_cons_of_mem _ hx) y (mem_cons_of_mem _ hy)
    · intro a ha b hb
      obtain ⟨k, item', hk, hmem⟩ := mem_rowsFrom.mp hb
      exact hrows i (i + 1 + k) item mem_cons_self item'
        (mem_cons_of_mem _ (mem_of_getElem? hk)) (by omega) a ha b hmem

end Rows

def itemSlots : (depth : ℕ) → RepDimensions → (path : List ℕ) → (target : ℕ) → RepItem →
    List Slot
  | 0, _, path, target, item => [⟨path, target, item, true⟩]
  | depth + 1, dimensions, path, target, .array items =>
    rowsFrom (fun i item => itemSlots depth ⟨dimensions.d1, dimensions.d2, 0⟩ (path ++ [i])
      (cellIndex ⟨dimensions.d1, dimensions.d2, 0⟩ target i) item) items 0
  | _ + 1, _, _, _, .null => []
  | _ + 1, _, path, target, item => [⟨path, target, item, false⟩]

def arraySlots (depth : ℕ) (dimensions : RepDimensions) (path : List ℕ) (target : ℕ)
    (items : List RepItem) (i : ℕ) : List Slot :=
  rowsFrom (fun i item => itemSlots depth dimensions (path ++ [i])
    (cellIndex dimensions target i) item) items i

def RowsFit : (depth : ℕ) → RepDimensions → RepItem → Prop
  | depth + 1, dimensions, .array items =>
    items.length ≤ dimensions.d1
      ∧ ∀ item ∈ items, RowsFit depth ⟨dimensions.d1, dimensions.d2, 0⟩ item
  | _, _, _ => True

variable {depth : ℕ}

variable {items : List RepItem}

lemma storeArray_of_items (hitem : ∀ path target item, RowsFit depth dimensions item →
      storeItem type dimensions path target item
        = runUntil (storeSlot type) (itemSlots depth dimensions path target item))
    (hfit : ∀ item ∈ items, RowsFit depth dimensions item) (path : List ℕ) (target : ℕ) {i : ℕ}
    (hlength : i + items.length ≤ dimensions.d0) :
    storeArray type dimensions path target items i
      = runUntil (storeSlot type) (arraySlots depth dimensions path target items i) := by
  induction items generalizing i with
  | nil => rfl
  | cons item rest ih =>
    obtain ⟨hfirst, hrest⟩ := forall_mem_cons.mp hfit
    rw [length_cons] at hlength
    rw [storeArray_cons (by omega), arraySlots, rowsFrom, runUntil_append, ← hitem _ _ _ hfirst,
      ih hrest (by omega)]
    rfl

lemma storeItem_eq (type : OCRepPayloadPropType) (hle : depth ≤ 2)
    (hdepth : FitsDepth depth dimensions) (path : List ℕ) (target : ℕ) (item : RepItem)
    (hfit : RowsFit depth dimensions item) :
    storeItem type dimensions path target item
      = runUntil (storeSlot type) (itemSlots depth dimensions path target item) := by
  induction depth generalizing dimensions path target item with
  | zero =>
    have h1 : dimensions.d1 = 0 := hdepth.1
    cases item with
    | null => rfl
    | _ =>
      simp only [storeItem, ne_eq, h1, not_true_eq_false, ite_false, itemSlots, runUntil_singleton]
      rfl
  | succ depth ih =>
    have h1 := hdepth.row_pos
    cases item with
    | array items =>
      rw [storeItem, if_pos h1, itemSlots]
      refine storeArray_of_items (fun path target item => ?_) hfit.2 path target
        (by rw [Nat.zero_add]; exact hfit.1)
      exact ih (by omega) (hdepth.row hle) path target item
    | null => rfl
    | _ =>
      simp only [storeItem, ne_eq, h1, not_false_eq_true, ite_true]
      rfl

def rowOffset (dimensions : RepDimensions) : List ℕ → ℕ
  | [] => 0
  | i :: path => cellIndex ⟨dimensions.d1, dimensions.d2, 0⟩ 0 i
      + rowOffset ⟨dimensions.d1, dimensions.d2, 0⟩ path

lemma cellIndex_add (dimensions : RepDimensions) (target i : ℕ) :
    cellIndex dimensions target i = target + cellIndex dimensions 0 i := by
  unfold cellIndex
  split_ifs <;> omega

variable {slot : Slot}

lemma mem_itemSlots :
    slot ∈ itemSlots depth dimensions path target item
      ↔ ∃ sub, itemAt item sub = some slot.item ∧ slot.path = path ++ sub
        ∧ slot.index = target + rowOffset dimensions sub
        ∧ (slot.inPlace = true ∧ sub.length = depth
          ∨ slot.inPlace = false ∧ sub.length < depth ∧ isLeaf slot.item = true) := by
  induction depth generalizing dimensions path target item with
  | zero =>
    rw [itemSlots, mem_singleton]
    constructor
    · rintro rfl
      exact ⟨[], rfl, (append_nil path).symm, rfl, .inl ⟨rfl, rfl⟩⟩
    · rintro ⟨sub, hitem, hpath, hindex, ⟨hplace, hlength⟩ | ⟨-, hlength, -⟩⟩
      · obtain rfl := length_eq_zero_iff.mp hlength
        rw [append_nil] at hpath
        cases slot
        simp only [Slot.mk.injEq]
        exact ⟨hpath, hindex, (some.inj hitem).symm, hplace⟩
      · omega
  | succ depth ih =>
    -- An element here is the only slot, and out of place.
    have hleaf : isLeaf item = true →
        (slot ∈ [(⟨path, target, item, false⟩ : Slot)]
          ↔ ∃ sub, itemAt item sub = some slot.item ∧ slot.path = path ++ sub
            ∧ slot.index = target + rowOffset dimensions sub
            ∧ (slot.inPlace = true ∧ sub.length = depth + 1
              ∨ slot.inPlace = false ∧ sub.length < depth + 1 ∧ isLeaf slot.item = true)) := by
      intro hleaf
      rw [mem_singleton]
      constructor
      · rintro rfl
        exact ⟨[], rfl, (append_nil path).symm, rfl, .inr ⟨rfl, Nat.succ_pos depth, hleaf⟩⟩
      · rintro ⟨sub, hitem, hpath, hindex, hplace⟩
        cases sub with
        | cons i sub => cases item <;> simp_all [itemAt, isLeaf]
        | nil =>
          rw [append_nil] at hpath
          have hno : slot.inPlace = false := by
            rcases hplace with ⟨-, hlength⟩ | ⟨hno, -, -⟩
            · exact absurd hlength (Nat.succ_ne_zero depth).symm
            · exact hno
          cases slot
          simp only [Slot.mk.injEq]
          exact ⟨hpath, hindex, (some.inj hitem).symm, hno⟩
    cases item with
    | array items =>
      rw [itemSlots, mem_rowsFrom]
      simp only [Nat.zero_add, ih]
      constructor
      · rintro ⟨k, item, hk, sub, hitem, hpath, hindex, hplace⟩
        refine ⟨k :: sub, ?_, ?_, ?_, ?_⟩
        · rw [itemAt, hk, Option.bind_some]
          exact hitem
        · simp [hpath]
        · rw [hindex, cellIndex_add, rowOffset, Nat.add_assoc]
        · simpa only [length_cons, Nat.add_right_cancel_iff, Nat.add_lt_add_iff_right]
            using hplace
      · rintro ⟨sub, hitem, hpath, hindex, hplace⟩
        cases sub with
        | nil =>
          rcases hplace with ⟨-, hlength⟩ | ⟨-, -, hleaf⟩
          · exact absurd hlength (Nat.succ_ne_zero depth).symm
          rw [← some.inj hitem] at hleaf
          exact absurd hleaf Bool.false_ne_true
        | cons k sub =>
          rw [itemAt, Option.bind_eq_some_iff] at hitem
          obtain ⟨item, hk, hitem⟩ := hitem
          refine ⟨k, item, hk, sub, hitem, ?_, ?_, ?_⟩
          · simp [hpath]
          · rw [hindex, cellIndex_add, rowOffset, Nat.add_assoc]
          · simpa only [length_cons, Nat.add_right_cancel_iff, Nat.add_lt_add_iff_right]
              using hplace
    | null =>
      rw [itemSlots]
      refine ⟨fun h => absurd h not_mem_nil, ?_⟩
      rintro ⟨sub, hitem, -, -, hplace⟩
      cases sub with
      | cons i sub => exact absurd hitem.symm (Option.some_ne_none _)
      | nil =>
        rcases hplace with ⟨-, hlength⟩ | ⟨-, -, hleaf⟩
        · exact absurd hlength (Nat.succ_ne_zero depth).symm
        rw [← some.inj hitem] at hleaf
        exact absurd hleaf Bool.false_ne_true
    | _ => exact hleaf rfl

lemma arrayStep_pos (dimensions : RepDimensions) : 0 < arrayStep dimensions :=
  Nat.mul_pos (by split_ifs <;> omega) (by split_ifs <;> omega)

lemma itemSlots_lt (hle : depth ≤ 2) (hdepth : FitsDepth depth dimensions)
    (hfit : RowsFit depth dimensions item)
    (h : slot ∈ itemSlots depth dimensions path target item) :
    target ≤ slot.index ∧ slot.index < target + arrayStep dimensions := by
  have hhere : target ≤ target ∧ target < target + arrayStep dimensions :=
    ⟨le_refl _, Nat.lt_add_of_pos_right (arrayStep_pos dimensions)⟩
  induction depth generalizing dimensions path target item with
  | zero =>
    rw [itemSlots, mem_singleton] at h
    rw [h]
    exact hhere
  | succ depth ih =>
    cases item with
    | array items =>
      rw [itemSlots, mem_rowsFrom] at h
      obtain ⟨k, item, hk, hmem⟩ := h
      have hrow := hdepth.row hle
      have hklt : k < dimensions.d1 :=
        lt_of_lt_of_le (List.getElem?_eq_some_iff.mp hk).1 hfit.1
      obtain ⟨hlower, hupper⟩ := ih (by omega) hrow (hfit.2 item (mem_of_getElem? hk)) hmem
        ⟨le_refl _, Nat.lt_add_of_pos_right (arrayStep_pos _)⟩
      rw [Nat.zero_add, cellIndex_eq hrow.regular] at hlower hupper
      rw [← arrayStep_row hdepth.row_pos]
      have hwithin := Nat.mul_le_mul_right (arrayStep ⟨dimensions.d1, dimensions.d2, 0⟩)
        (Nat.succ_le_of_lt hklt)
      rw [Nat.succ_mul, Nat.mul_comm k] at hwithin
      exact ⟨by omega, by omega⟩
    | null => exact absurd h not_mem_nil
    | _ =>
      rw [itemSlots] at h
      · rw [mem_singleton] at h
        rw [h]
        exact hhere
      all_goals simp

def Slot.Before (a b : Slot) : Prop := a.path < b.path ∧ a.index < b.index

lemma arraySlots_pairwise_of_items (hle : depth ≤ 2) (hdepth : FitsDepth depth dimensions)
    (hfit : ∀ item ∈ items, RowsFit depth dimensions item) (hitem : ∀ path target, ∀ item ∈ items,
      (itemSlots depth dimensions path target item).Pairwise Slot.Before) (path : List ℕ)
    (target i : ℕ) :
    (arraySlots depth dimensions path target items i).Pairwise Slot.Before := by
  refine pairwise_rowsFrom (fun i item hmem => hitem _ _ item hmem) ?_ i
  intro i j item hmem item' hmem' hij a ha b hb
  constructor
  · obtain ⟨sub, -, hpath, -⟩ := mem_itemSlots.mp ha
    obtain ⟨sub', -, hpath', -⟩ := mem_itemSlots.mp hb
    rw [hpath, hpath', append_assoc, append_assoc]
    refine append_left_lt ?_
    exact cons_lt_cons_iff.mpr (.inl hij)
  · have hupper := (itemSlots_lt hle hdepth (hfit item hmem) ha).2
    have hlower := (itemSlots_lt hle hdepth (hfit item' hmem') hb).1
    rw [cellIndex_eq hdepth.regular] at hupper hlower
    have hsteps := Nat.mul_le_mul_left (arrayStep dimensions) (Nat.succ_le_of_lt hij)
    rw [Nat.mul_succ] at hsteps
    omega

lemma itemSlots_pairwise (hle : depth ≤ 2) (hdepth : FitsDepth depth dimensions) (path : List ℕ)
    (target : ℕ) (hfit : RowsFit depth dimensions item) :
    (itemSlots depth dimensions path target item).Pairwise Slot.Before := by
  induction depth generalizing dimensions path target item with
  | zero => exact pairwise_singleton _ _
  | succ depth ih =>
    cases item with
    | array items =>
      have hrow := hdepth.row hle
      exact arraySlots_pairwise_of_items (by omega) hrow hfit.2
        (fun path target item hmem => ih (by omega) hrow path target (hfit.2 item hmem))
        path target 0
    | null => exact List.Pairwise.nil
    | _ => exact pairwise_singleton _ _

end Iochibity.Ocf
