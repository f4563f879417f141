/-
Arrays of representation payloads are read back.
-/
import Iochibity.Lib.Framing
import Iochibity.Ocf.RepParse

namespace Iochibity.Ocf

open CborTree

section

open List

def RepCell.isNullPointer : RepCell → Bool
  | .nullPointer => true
  | _ => false

def foundType (type : OCRepPayloadPropType) (cells : List RepCell) : OCRepPayloadPropType :=
  if cells.all RepCell.isNullPointer then .null else type

structure Codes (type : OCRepPayloadPropType) (subdim0 subdim1 : Nat) (item : RepItem)
    (cells : List RepCell) : Prop where
  measured : itemDimensionsAndType item = some (subdim0, subdim1, foundType type cells)
  filled : ∀ d0, fillItem ⟨d0, subdim0, subdim1⟩ type item = (cells, true)

section Rows

variable {type : OCRepPayloadPropType} (htype : type ≠ .null)

include htype in
lemma mergeType_foundType (done cells : List RepCell) :
    mergeType (foundType type done) (foundType type cells)
      = some (foundType type (done ++ cells)) := by
  unfold mergeType foundType
  rw [all_append]
  cases hdone : done.all RepCell.isNullPointer <;>
    cases hcells : cells.all RepCell.isNullPointer <;> simp [htype]

variable {subdim0 subdim1 : Nat} {g : Nat → RepItem} {c : Nat → List RepCell}

include htype in
lemma findDimensionsAndType_rows {indices : List Nat} (hne : indices ≠ [])
    (h : ∀ i ∈ indices, Codes type subdim0 subdim1 (g i) (c i)) (done : List RepCell)
    {d0 d1 d2 : Nat} (h1 : d1 ≤ subdim0) (h2 : d2 ≤ subdim1) :
    findDimensionsAndType (indices.map g) ⟨d0, d1, d2⟩ (foundType type done)
      = some (⟨d0 + indices.length, subdim0, subdim1⟩,
          foundType type (done ++ indices.flatMap c)) := by
  induction indices generalizing done d0 d1 d2 with
  | nil => exact absurd rfl hne
  | cons i rest ih =>
    rw [map_cons, findDimensionsAndType, (h i mem_cons_self).measured]
    simp only [Option.bind_eq_bind, Option.bind_some, mergeType_foundType htype,
      max_eq_right h1, max_eq_right h2]
    rw [flatMap_cons, ← append_assoc, length_cons]
    by_cases hrest : rest = []
    · rw [hrest, map_nil, findDimensionsAndType, flatMap_nil, append_nil]
      rfl
    rw [ih hrest (fun j hj => h j (mem_cons_of_mem i hj)) _ le_rfl le_rfl]
    rw [Nat.add_assoc, Nat.add_comm 1]

lemma fillArray_rows {indices : List Nat}
    (h : ∀ i ∈ indices, Codes type subdim0 subdim1 (g i) (c i)) (d0 : Nat) :
    fillArray ⟨d0, subdim0, subdim1⟩ type (indices.map g) indices.length
      = (indices.flatMap c, true) := by
  induction indices with
  | nil => rw [map_nil, length_nil, fillArray, zeroCells, Nat.mul_zero, replicate_zero, flatMap_nil]
  | cons i rest ih =>
    rw [map_cons, length_cons, fillArray, (h i mem_cons_self).filled, flatMap_cons]
    simp [ih (fun j hj => h j (mem_cons_of_mem i hj))]

include htype in
lemma parseArrayFindDimensionsAndType_rows {n : Nat} (hn : 0 < n)
    (h : ∀ i < n, Codes type subdim0 subdim1 (g i) (c i)) :
    parseArrayFindDimensionsAndType ((List.range n).map g)
      = some (⟨n, subdim0, subdim1⟩, foundType type ((List.range n).flatMap c)) := by
  have hne : List.range n ≠ [] := by
    rw [ne_eq, range_eq_nil]
    omega
  have hrows : findDimensionsAndType ((List.range n).map g) ⟨0, 0, 0⟩ (foundType type [])
      = some (⟨0 + (List.range n).length, subdim0, subdim1⟩,
          foundType type ([] ++ (List.range n).flatMap c)) :=
    findDimensionsAndType_rows htype hne (fun i hi => h i (mem_range.mp hi)) []
      (Nat.zero_le subdim0) (Nat.zero_le subdim1)
  rw [length_range, Nat.zero_add, nil_append] at hrows
  exact hrows

lemma fillArray_range {n : Nat} (h : ∀ i < n, Codes type subdim0 subdim1 (g i) (c i)) (d0 : Nat) :
    fillArray ⟨d0, subdim0, subdim1⟩ type ((List.range n).map g) n
      = ((List.range n).flatMap c, true) := by
  have hrows := fillArray_rows (fun i hi => h i (mem_range.mp hi)) d0
  rwa [length_range] at hrows

include htype in
lemma Codes.row {n : Nat} (hn : 0 < n) (h : ∀ i < n, Codes type subdim0 0 (g i) (c i)) :
    Codes type n subdim0 (.array ((List.range n).map g)) ((List.range n).flatMap c) where
  measured := by
    have hfound := parseArrayFindDimensionsAndType_rows htype hn h
    rw [parseArrayFindDimensionsAndType] at hfound
    rw [itemDimensionsAndType, hfound]
    rfl
  filled d0 := by
    rw [fillItem, if_pos (Nat.pos_iff_ne_zero.mp hn)]
    exact fillArray_range h n

end Rows

/-! ## One to three dimensions -/

variable {n : Nat} {g : Nat → RepItem}

lemma convertRow_eq {item : Nat → Option RepItem} (h : ∀ i < n, item i = some (g i)) :
    convertRow n item = some (.array ((List.range n).map g)) := by
  rw [convertRow, mapM_some (g := g) (fun i hi => h i (mem_range.mp hi))]
  simp only [Option.bind_eq_bind, Option.bind_some]
  rw [closeArray, if_pos (by rw [length_map, length_range])]

def RepDimensions.IsRectangular (dimensions : RepDimensions) : Prop :=
  dimensions.d0 ≠ 0 ∧ (dimensions.d1 = 0 → dimensions.d2 = 0)

variable {type : OCRepPayloadPropType}

lemma convertRow_codes (htype : type ≠ .null) (hn : n ≠ 0) {subdim0 : Nat}
    {items : Nat → Option RepItem} {c : Nat → List RepCell}
    (h : ∀ i < n, items i = some (g i) ∧ Codes type subdim0 0 (g i) (c i)) :
    convertRow n items = some (.array ((List.range n).map g))
      ∧ Codes type n subdim0 (.array ((List.range n).map g)) ((List.range n).flatMap c) :=
  ⟨convertRow_eq (fun i hi => (h i hi).1),
    Codes.row htype (Nat.pos_of_ne_zero hn) (fun i hi => (h i hi).2)⟩

lemma convertRow_reads (htype : type ≠ .null) (hn : n ≠ 0) {subdim0 subdim1 : Nat}
    {rows : Nat → Option RepItem} {c : Nat → List RepCell}
    (h : ∀ i < n, rows i = some (g i) ∧ Codes type subdim0 subdim1 (g i) (c i)) :
    ∃ items, convertRow n rows = some (.array items) ∧ parseArrayFindDimensionsAndType items
          = some (⟨n, subdim0, subdim1⟩, foundType type ((List.range n).flatMap c))
      ∧ fillArray ⟨n, subdim0, subdim1⟩ type items n = ((List.range n).flatMap c, true) :=
  ⟨(List.range n).map g, convertRow_eq (fun i hi => (h i hi).1),
    parseArrayFindDimensionsAndType_rows htype (Nat.pos_of_ne_zero hn) (fun i hi => (h i hi).2),
    fillArray_range (fun i hi => (h i hi).2) n⟩

lemma convertArray_reads (htype : type ≠ .null) {dimensions : RepDimensions}
    (hdim : dimensions.IsRectangular) {convert : Nat → Option RepItem} {item : Nat → RepItem}
    {cell : Nat → RepCell} (h : ∀ k < calcDimTotal dimensions,
      convert k = some (item k) ∧ Codes type 0 0 (item k) [cell k]) :
    ∃ items, convertArray dimensions convert = some (.array items)
      ∧ parseArrayFindDimensionsAndType items = some (dimensions,
          foundType type ((List.range (calcDimTotal dimensions)).map cell))
      ∧ fillArray dimensions type items dimensions.d0
          = ((List.range (calcDimTotal dimensions)).map cell, true) := by
  obtain ⟨d0, d1, d2⟩ := dimensions
  obtain ⟨h0, h12⟩ := hdim
  rw [calcDimTotal, if_neg h0] at h ⊢
  dsimp only at h h0 h12 ⊢
  unfold convertArray
  by_cases h1 : d1 = 0
  · -- one dimension: the rows are the cells
    obtain rfl := h12 h1
    subst h1
    simp only [if_true, ne_eq, not_true_eq_false, if_false] at h ⊢
    rw [map_eq_flatMap]
    exact convertRow_reads htype h0 h
  by_cases h2 : d2 = 0
  · subst h2
    simp only [if_true, ne_eq, not_true_eq_false, if_false, h1, not_false_eq_true] at h ⊢
    rw [← RowMajor.flatMap_range_map]
    simp only [map_eq_flatMap]
    exact convertRow_reads htype h0 (fun i hi => convertRow_codes htype h1
      (fun j hj => h (i * d1 + j) (RowMajor.index_lt hi hj)))
  simp only [ne_eq, h1, h2, not_false_eq_true, if_true, if_false] at h ⊢
  rw [← RowMajor.flatMap_range_flatMap]
  simp only [map_eq_flatMap]
  have hindex : ∀ i < d0, ∀ j < d1, ∀ k < d2, j * d2 + i * d2 * d1 + k < d0 * d1 * d2 := by
    intro i hi j hj k hk
    rw [RowMajor.index_three, Nat.mul_assoc d0]
    exact RowMajor.index_lt hi (RowMajor.index_lt hj hk)
  exact convertRow_reads htype h0 (fun i hi => convertRow_codes htype h1
    (fun j hj => convertRow_codes htype h2 (fun k hk => h _ (hindex i hi j hj k hk))))

end

open Coap (CString)
open Option (bind_eq_bind bind_some or_none)

mutual

/-- A payload in a value: nothing but values, with different names that are not read as
the numbers from 0 on. -/
def OCRepPayload.IsNested : OCRepPayload → Prop
  | .mk uri types interfaces values =>
    uri = none ∧ types = [] ∧ interfaces = [] ∧ namedByIndex 0 values = false
      ∧ (valueNames values).Nodup ∧ ValuesSendable values

def ValuesSendable : List OCRepPayloadValue → Prop
  | [] => True
  | .mk _ prop :: rest => prop.IsSendable ∧ ValuesSendable rest

def RepProp.IsSendable : RepProp → Prop
  | .object obj => obj.IsNested
  | .array type dimensions cells =>
    dimensions.IsRectangular ∧ cells.length = calcDimTotal dimensions
      ∧ cells.all RepCell.isNullPointer = false ∧ CellsSendable type cells
  | _ => True

def CellsSendable (type : OCRepPayloadPropType) : List RepCell → Prop
  | [] => True
  | cell :: rest => cell.IsSendable type ∧ CellsSendable type rest

def RepCell.IsSendable (type : OCRepPayloadPropType) : RepCell → Prop
  | .int _ => type = .int
  | .double _ => type = .double
  | .bool _ => type = .bool
  | .string _ => type = .string
  | .byteString _ => type = .byteString
  | .object obj => type = .object ∧ obj.IsNested
  | .nullPointer => type = .string ∨ type = .object

end

/-- A list of strings that `strtok_r` takes apart again and sixteen bits can count. -/
def StringLLSendable (val : List CString) : Prop :=
  val.length < 2 ^ 16 ∧ ∀ s ∈ val, s.bytes ≠ [] ∧ (32 : UInt8) ∉ s.bytes

structure OCRepPayload.IsSendable (payload : OCRepPayload) : Prop where
  uri : ∀ uri, payload.uri = some uri → uri.bytes ≠ []
  types : StringLLSendable payload.types
  interfaces : StringLLSendable payload.interfaces
  names : (valueNames payload.values).Nodup
  reserved : ∀ name ∈ valueNames payload.values, isReserved name = false
  values : ValuesSendable payload.values

def RepRoundTrips (isBatch : Bool) (payloads : List OCRepPayload) : Prop :=
  (convertRepPayload isBatch payloads).bind parseRepPayload = some payloads

/-! ## Steps of the loops -/

variable {name : CString} {item : RepItem}

lemma parseValues_entry {isRoot : Bool} (hname : isRoot = true → isReserved name = false)
    (rest : List RepItem) (arrayIndex : Nat) (values : List OCRepPayloadValue) :
    parseValues true isRoot (.text name.bytes :: item :: rest) false none arrayIndex values
      = (parseValue item (some name) values).bind (fun read =>
          parseValues true isRoot rest read.2 none (arrayIndex + 1) read.1) := by
  have hkey : (isRoot && isReserved name) = false := by
    cases isRoot with
    | false => rfl
    | true => exact hname rfl
  rw [parseValues, nameItem]
  simp only [Bool.false_eq_true, if_false, CString.ofBytes_bytes, hkey]
  rw [parseValues]
  cases item <;> rfl

lemma parseValues_reserved (hname : isReserved name = true) (item : RepItem) (rest : List RepItem)
    (values : List OCRepPayloadValue) :
    parseValues true true (.text name.bytes :: item :: rest) false none 0 values
      = parseValues true true rest false none 0 values := by
  rw [parseValues, nameItem]
  simp only [Bool.false_eq_true, if_false, CString.ofBytes_bytes, hname, Bool.and_true, if_true]
  rw [parseValues, if_pos rfl]

variable {type : OCRepPayloadPropType}

lemma parseValue_array {items : List RepItem} {dimensions : RepDimensions} {cells : List RepCell}
    (htype : type ≠ .null)
    (hfound : parseArrayFindDimensionsAndType items = some (dimensions, type))
    (hfill : fillArray dimensions type items dimensions.d0 = (cells, true)) (name : CString)
    (values : List OCRepPayloadValue) :
    parseValue (.array items) (some name) values
      = some (setValue values name (.array type dimensions cells), false) := by
  rw [parseValue, hfound]
  simp [if_neg htype, hfill, repPayloadSetProp]

variable {cell : RepCell}

lemma Codes.scalar (htype : itemDimensionsAndType item = some (0, 0, type))
    (hcell : cell.isNullPointer = false)
    (hfill : ∀ d0, fillItem ⟨d0, 0, 0⟩ type item = ([cell], true)) :
    Codes type 0 0 item [cell] where
  measured := by
    rw [htype, foundType, List.all_cons, hcell]
    rfl
  filled := hfill

lemma codes_scalarCell (h : scalarCell type item = some cell) : Codes type 0 0 item [cell] := by
  have hfill : ∀ d0, fillItem ⟨d0, 0, 0⟩ type item = ([cell], true) := by
    intro d0
    cases item with
    | null | array | map => cases type <;> exact nomatch h
    | _ =>
      unfold fillItem
      dsimp only
      rw [if_neg (· rfl), h]
  cases type <;> cases item <;> cases h <;> exact Codes.scalar rfl rfl hfill

lemma codes_null (htype : zeroCell type = .nullPointer) :
    Codes type 0 0 .null [.nullPointer] where
  measured := rfl
  filled d0 := by
    rw [fillItem, zeroCells, htype]
    rfl

lemma RepCell.IsSendable.type_ne_null (h : cell.IsSendable type) : type ≠ .null := by
  rintro rfl
  cases cell with
  | nullPointer => rcases h with h | h <;> exact nomatch h
  | object obj => exact nomatch h.1
  | _ => exact nomatch h

/-! ## The induction -/

mutual

lemma convertRepMap_reads : (obj : OCRepPayload) → obj.IsNested →
    ∃ items, convertRepMap obj = some (.map items)
      ∧ (parseValues true false items false none 0 []).map .ofValues = some obj
  | .mk uri types interfaces values, h => by
      obtain ⟨rfl, rfl, rfl, hindex, hnames, hvalues⟩ := h
      obtain ⟨entries, hconvert, -, hread⟩ := convertValues_reads values hvalues
      refine ⟨flatten entries, ?_, ?_⟩
      · rw [convertRepMap, hconvert]
        simp only [bind_eq_bind, bind_some, hindex]
        rfl
      · rw [hread false 0 [] hnames (fun h => nomatch h)]
        rfl

lemma convertValues_reads : (values : List OCRepPayloadValue) → ValuesSendable values →
    ∃ entries, convertValues values = some entries
      ∧ entries.map Prod.fst = (valueNames values).map CString.bytes
      ∧ ∀ (isRoot : Bool) (arrayIndex : Nat) (read : List OCRepPayloadValue),
          (valueNames (read ++ values)).Nodup →
          (isRoot = true → ∀ name ∈ valueNames values, isReserved name = false) →
          parseValues true isRoot (flatten entries) false none arrayIndex read
            = some (read ++ values)
  | [], _ => by
      refine ⟨[], rfl, rfl, fun isRoot arrayIndex read _ _ => ?_⟩
      rw [List.append_nil]
      rfl
  | .mk name prop :: rest, h => by
      obtain ⟨item, hitem, hprop⟩ := convertSingleRepPayloadValue_reads prop h.1
      obtain ⟨entries, hentries, hkeys, hrest⟩ := convertValues_reads rest h.2
      refine ⟨(name.bytes, item) :: entries, ?_, ?_, ?_⟩
      · rw [convertValues, hitem, hentries]
        rfl
      · rw [List.map_cons, hkeys]
        rfl
      · intro isRoot arrayIndex read hnodup hreserved
        rw [flatten_cons, parseValues_entry (hreserved · name List.mem_cons_self), hprop, bind_some]
        -- the name is new, so the value comes last
        have hnew : name ∉ valueNames read := by
          rw [valueNames, List.map_append, List.map_cons] at hnodup
          have hdisjoint := List.disjoint_of_nodup_append hnodup
          exact fun hmem => hdisjoint hmem List.mem_cons_self
        rw [setValue_of_not_mem hnew]
        rw [← List.singleton_append, ← List.append_assoc] at hnodup
        rw [hrest isRoot (arrayIndex + 1) _ hnodup
          (fun h key hkey => hreserved h key (List.mem_cons_of_mem name hkey)),
          List.append_assoc, List.singleton_append]

lemma convertSingleRepPayloadValue_reads : (prop : RepProp) → prop.IsSendable →
    ∃ item, convertSingleRepPayloadValue prop = some item
      ∧ ∀ (name : CString) (values : List OCRepPayloadValue),
          parseValue item (some name) values = some (setValue values name prop, false)
  | .null, _ => ⟨.null, rfl, fun _ _ => rfl⟩
  | .int i, _ => ⟨.int i.toInt, rfl, fun name values => by
      rw [parseValue, Int64.ofInt_toInt]
      rfl⟩
  | .double bits, _ => ⟨.double bits, rfl, fun _ _ => rfl⟩
  | .bool b, _ => ⟨.bool b, rfl, fun _ _ => rfl⟩
  | .string s, _ => ⟨textItem s, rfl, fun name values => by
      rw [textItem, parseValue, CString.ofBytes_bytes]
      rfl⟩
  | .byteString b, _ => ⟨.bytes b, rfl, fun _ _ => rfl⟩
  | .object obj, h => by
      obtain ⟨items, hconvert, hread⟩ := convertRepMap_reads obj h
      obtain ⟨pl, hpl, hobj⟩ := Option.map_eq_some_iff.mp hread
      refine ⟨.map items, hconvert, fun name values => ?_⟩
      rw [parseValue, hpl, ← hobj]
      rfl
  | .array type dimensions cells, h => by
      obtain ⟨hdim, hlength, hnull, hcells⟩ := h
      obtain ⟨item, hitem⟩ := convertArrayItems_reads type cells hcells
      have htype : type ≠ .null := by
        cases cells with
        | nil => exact nomatch hnull
        | cons cell rest => exact hcells.1.type_ne_null
      rw [hlength] at hitem
      obtain ⟨items, hconvert, hfound, hfill⟩ := convertArray_reads htype hdim hitem
      rw [← hlength, RowMajor.map_range_getD] at hfound hfill
      rw [foundType, hnull] at hfound
      exact ⟨.array items, hconvert, parseValue_array htype hfound hfill⟩

lemma convertArrayItems_reads (type : OCRepPayloadPropType) :
    (cells : List RepCell) → CellsSendable type cells →
    ∃ item : Nat → RepItem, ∀ k < cells.length,
      (convertArrayItems type cells)[k]?.join = some (item k)
        ∧ Codes type 0 0 (item k) [cells.getD k .nullPointer]
  | [], _ => ⟨fun _ => .null, fun k hk => absurd hk (Nat.not_lt_zero k)⟩
  | cell :: rest, h => by
      obtain ⟨first, hfirst, hcodes⟩ := convertArrayItem_reads type cell h.1
      obtain ⟨item, hitem⟩ := convertArrayItems_reads type rest h.2
      refine ⟨fun k => k.casesOn first item, fun k hk => ?_⟩
      rw [convertArrayItems]
      cases k with
      | zero => exact ⟨hfirst, hcodes⟩
      | succ k => exact hitem k (Nat.lt_of_succ_lt_succ hk)

lemma convertArrayItem_reads (type : OCRepPayloadPropType) :
    (cell : RepCell) → cell.IsSendable type →
    ∃ item, convertArrayItem type cell = some item ∧ Codes type 0 0 item [cell]
  | .int i, h => by
      obtain rfl : type = .int := h
      refine ⟨.int i.toInt, rfl, codes_scalarCell ?_⟩
      rw [scalarCell, Int64.ofInt_toInt]
  | .double bits, h => by
      obtain rfl : type = .double := h
      exact ⟨.double bits, rfl, codes_scalarCell rfl⟩
  | .bool b, h => by
      obtain rfl : type = .bool := h
      exact ⟨.bool b, rfl, codes_scalarCell rfl⟩
  | .string s, h => by
      obtain rfl : type = .string := h
      refine ⟨textItem s, rfl, codes_scalarCell ?_⟩
      rw [textItem, scalarCell, CString.ofBytes_bytes]
  | .byteString b, h => by
      obtain rfl : type = .byteString := h
      exact ⟨.bytes b, rfl, codes_scalarCell rfl⟩
  | .object obj, h => by
      obtain ⟨rfl, hnested⟩ := h
      obtain ⟨items, hconvert, hread⟩ := convertRepMap_reads obj hnested
      obtain ⟨pl, hpl, hobj⟩ := Option.map_eq_some_iff.mp hread
      refine ⟨.map items, hconvert, Codes.scalar rfl rfl (fun d0 => ?_)⟩
      rw [fillItem, if_neg (· rfl), if_pos rfl, hpl, objectCell, hobj]
  | .nullPointer, h => by
      rcases h with rfl | rfl
      · exact ⟨.null, rfl, codes_null rfl⟩
      · exact ⟨.null, rfl, codes_null rfl⟩

end

/-! ## The reserved keys -/

lemma blankTokens_eq {s : CString} (hne : s.bytes ≠ []) (hblank : (32 : UInt8) ∉ s.bytes) :
    blankTokens s = [s] := by
  have hchar : ∀ c ∈ s.bytes, (c == 32) = false := by
    intro c hc
    rw [beq_eq_false_iff_ne]
    rintro rfl
    exact hblank hc
  have htrim : inPlaceStringTrim s.bytes = s.bytes := by
    obtain ⟨c, rest, hs⟩ := List.exists_cons_of_ne_nil hne
    rw [hs] at hchar ⊢
    rw [inPlaceStringTrim, List.dropWhile_cons_of_neg]
    rw [hchar c List.mem_cons_self]
    simp
  rw [blankTokens, List.splitOnP_eq_singleton hchar]
  simp [hne, htrim]

lemma stringLLTexts_map {val : List CString}
    (h : ∀ s ∈ val, s.bytes ≠ [] ∧ (32 : UInt8) ∉ s.bytes) :
    stringLLTexts (val.map textItem) = val := by
  induction val with
  | nil => rfl
  | cons s rest ih =>
    obtain ⟨hne, hblank⟩ := h s List.mem_cons_self
    rw [List.map_cons, textItem, stringLLTexts, CString.ofBytes_bytes,
      blankTokens_eq hne hblank, ih (fun t ht => h t (List.mem_cons_of_mem s ht)),
      List.singleton_append]

def stringLLEntry (type : CString) (val : List CString) : List RepEntry :=
  if val = [] then [] else [(type.bytes, .array (val.map textItem))]

lemma stringLLJoin_eq {val : List CString} (h : StringLLSendable val) (type : CString) :
    stringLLJoin type val = some (stringLLEntry type val) := by
  have hcount : (UInt16.ofNat val.length).toNat = val.length := by
    rw [UInt16.toNat_ofNat']
    exact Nat.mod_eq_of_lt h.1
  have hpos : 0 < UInt16.ofNat val.length ↔ val ≠ [] := by
    rw [UInt16.lt_iff_toNat_lt, hcount, ← List.length_pos_iff]
    rfl
  rw [stringLLJoin, stringLLEntry]
  by_cases hval : val = []
  · subst hval
    rfl
  have hclose := closeArray_length (val.map textItem)
  rw [List.length_map] at hclose
  simp only [hpos, ne_eq, hval, not_false_eq_true, if_true, if_false, hcount, hclose]
  rfl

lemma mapFindValue_flatten (name : List UInt8) (entries : List RepEntry) :
    mapFindValue name (flatten entries) = entries.lookup name := by
  induction entries with
  | nil => rfl
  | cons e rest ih =>
    obtain ⟨key, value⟩ := e
    rw [flatten_cons, mapFindValue, List.lookup_cons, ih]
    by_cases hkey : key = name
    · simp [hkey]
    · rw [if_neg hkey, beq_eq_false_iff_ne.mpr (hkey ·.symm)]

lemma lookup_entry (key name : List UInt8) (item : RepItem) :
    [(name, item)].lookup key = if key = name then some item else none := by
  rw [List.lookup_cons]
  by_cases hkey : key = name
  · simp [hkey]
  rw [if_neg hkey, beq_eq_false_iff_ne.mpr hkey]
  rfl

lemma lookup_hrefEntry {uri : Option CString} (h : ∀ s, uri = some s → s.bytes ≠ [])
    (key : List UInt8) :
    (hrefEntry uri).lookup key = if key = ocRsrvdHref.bytes then uri.map textItem else none := by
  cases uri with
  | none => exact (ite_self none).symm
  | some s =>
    rw [hrefEntry, if_pos (List.length_pos_iff.mpr (h s rfl)), lookup_entry, Option.map_some]

lemma lookup_stringLLEntry (type : CString) (val : List CString) (key : List UInt8) :
    (stringLLEntry type val).lookup key
      = if key = type.bytes ∧ val ≠ [] then some (.array (val.map textItem)) else none := by
  rw [stringLLEntry]
  by_cases hval : val = []
  · rw [if_pos hval, if_neg (·.2 hval)]
    rfl
  rw [if_neg hval, lookup_entry]
  simp [hval]

lemma lookup_values {values : List OCRepPayloadValue} {encoded : List RepEntry}
    (hkeys : encoded.map Prod.fst = (valueNames values).map CString.bytes)
    (hname : name ∉ valueNames values) : encoded.lookup name.bytes = none := by
  rw [List.lookup_eq_none_iff]
  intro e he
  rw [bne_iff_ne]
  intro heq
  have hmem : e.1 ∈ (valueNames values).map CString.bytes := by
    rw [← hkeys]
    exact List.mem_map_of_mem he
  obtain ⟨other, hother, hbytes⟩ := List.mem_map.mp hmem
  have hsame : other = name := by
    rw [← CString.ofBytes_bytes other, hbytes, ← heq, CString.ofBytes_bytes]
  exact hname (hsame ▸ hother)

lemma parseValues_reserved_entries {entries : List RepEntry}
    (h : ∀ e ∈ entries, ∃ name, isReserved name = true ∧ e.1 = name.bytes)
    (rest : List RepEntry) (values : List OCRepPayloadValue) :
    parseValues true true (flatten (entries ++ rest)) false none 0 values
      = parseValues true true (flatten rest) false none 0 values := by
  induction entries with
  | nil => rfl
  | cons e entries ih =>
    obtain ⟨key, item⟩ := e
    obtain ⟨name, hname, hkey⟩ := h _ List.mem_cons_self
    obtain rfl : key = name.bytes := hkey
    rw [List.cons_append, flatten_cons, parseValues_reserved hname]
    exact ih (fun e he => h e (List.mem_cons_of_mem _ he))

section Root

variable {payload : OCRepPayload}

def reservedEntries (payload : OCRepPayload) : List RepEntry :=
  hrefEntry payload.uri ++ stringLLEntry ocRsrvdResourceType payload.types
    ++ stringLLEntry ocRsrvdInterface payload.interfaces

lemma reservedEntries_keys (payload : OCRepPayload) :
    ∀ e ∈ reservedEntries payload, ∃ name, isReserved name = true ∧ e.1 = name.bytes := by
  have hentry : ∀ (name : CString) (val : List CString), isReserved name = true →
      ∀ e ∈ stringLLEntry name val, ∃ name, isReserved name = true ∧ e.1 = name.bytes := by
    intro name val hname e he
    rw [stringLLEntry] at he
    split_ifs at he
    · simp at he
    · rw [List.mem_singleton.mp he]
      exact ⟨name, hname, rfl⟩
  intro e he
  rw [reservedEntries, List.mem_append, List.mem_append] at he
  rcases he with (he | he) | he
  · cases huri : payload.uri with
    | none =>
      rw [huri] at he
      exact absurd he List.not_mem_nil
    | some uri =>
      rw [huri, hrefEntry] at he
      split_ifs at he
      · rw [List.mem_singleton.mp he]
        exact ⟨ocRsrvdHref, by decide, rfl⟩
      · simp at he
  · exact hentry _ _ (by decide) e he
  · exact hentry _ _ (by decide) e he

variable (h : payload.IsSendable)

include h in
lemma parse_reservedEntries {encoded : List RepEntry}
    (hkeys : encoded.map Prod.fst = (valueNames payload.values).map CString.bytes) :
    parseHref (flatten (reservedEntries payload ++ encoded)) = payload.uri
      ∧ parseStringLL ocRsrvdResourceType (flatten (reservedEntries payload ++ encoded))
          = payload.types
      ∧ parseStringLL ocRsrvdInterface (flatten (reservedEntries payload ++ encoded))
          = payload.interfaces := by
  have habsent : ∀ name, isReserved name = true → encoded.lookup name.bytes = none := by
    intro name hname
    refine lookup_values hkeys (fun hmem => ?_)
    rw [h.reserved name hmem] at hname
    exact Bool.false_ne_true hname
  have hlookup : ∀ name, isReserved name = true →
      mapFindValue name.bytes (flatten (reservedEntries payload ++ encoded))
        = ((if name.bytes = ocRsrvdHref.bytes then payload.uri.map textItem else none).or
          (if name.bytes = ocRsrvdResourceType.bytes ∧ payload.types ≠ [] then
            some (.array (payload.types.map textItem)) else none)).or
          (if name.bytes = ocRsrvdInterface.bytes ∧ payload.interfaces ≠ [] then
            some (.array (payload.interfaces.map textItem)) else none) := by
    intro name hname
    rw [mapFindValue_flatten, reservedEntries]
    simp only [List.lookup_append, habsent name hname, lookup_hrefEntry h.uri,
      lookup_stringLLEntry, or_none]
  have hht : ocRsrvdHref.bytes ≠ ocRsrvdResourceType.bytes := by decide
  have hhi : ocRsrvdHref.bytes ≠ ocRsrvdInterface.bytes := by decide
  have hti : ocRsrvdResourceType.bytes ≠ ocRsrvdInterface.bytes := by decide
  refine ⟨?_, ?_, ?_⟩
  · rw [parseHref, hlookup ocRsrvdHref (by decide)]
    simp only [if_true, hht, hhi, false_and, if_false, or_none]
    cases payload.uri with
    | none => rfl
    | some uri => exact congrArg some (CString.ofBytes_bytes uri)
  · rw [parseStringLL, hlookup ocRsrvdResourceType (by decide)]
    simp only [hht.symm, hti, false_and, true_and, if_false, or_none, Option.none_or]
    by_cases hval : payload.types = []
    · rw [if_neg (· hval), hval]
    rw [if_pos hval]
    exact stringLLTexts_map h.types.2
  · rw [parseStringLL, hlookup ocRsrvdInterface (by decide)]
    simp only [hhi.symm, hti.symm, false_and, true_and, if_false, Option.none_or]
    by_cases hval : payload.interfaces = []
    · rw [if_neg (· hval), hval]
    rw [if_pos hval]
    exact stringLLTexts_map h.interfaces.2

include h in
lemma convertRootMap_reads :
    ∃ map, convertRootMap payload = some (.map map) ∧ parseRootMap map = some payload := by
  obtain ⟨encoded, hconvert, hkeys, hread⟩ := convertValues_reads payload.values h.values
  obtain ⟨huri, htypes, hinterfaces⟩ := parse_reservedEntries h hkeys
  refine ⟨flatten (reservedEntries payload ++ encoded), ?_, ?_⟩
  · rw [convertRootMap, convertSingleRepPayload, stringLLJoin_eq h.types,
      stringLLJoin_eq h.interfaces, hconvert]
    rfl
  · rw [parseRootMap, parseValues_reserved_entries (reservedEntries_keys payload),
      hread true 0 [] h.names (fun _ => h.reserved), huri, htypes, hinterfaces]
    obtain ⟨uri, types, interfaces, values⟩ := payload
    rfl

end Root

/-! ## Lists of payloads -/

lemma parseRootItems_reads {payloads : List OCRepPayload} {map : OCRepPayload → List RepItem}
    (h : ∀ payload ∈ payloads, parseRootMap (map payload) = some payload) (afterMap : Bool) :
    parseRootItems (payloads.map (fun payload => .map (map payload))) afterMap = some payloads := by
  induction payloads generalizing afterMap with
  | nil => rfl
  | cons payload rest ih =>
    rw [List.map_cons, parseRootItems, h payload List.mem_cons_self]
    simp only [bind_eq_bind, bind_some, ih (fun p hp => h p (List.mem_cons_of_mem payload hp)) true]
    rfl

/-- **Representation round trip.** Any list of payloads that can be sent comes back,
whether or not it is one of a batch. -/
theorem rep_round_trip (isBatch : Bool) {payloads : List OCRepPayload} (hne : payloads ≠ [])
    (h : ∀ payload ∈ payloads, payload.IsSendable) : RepRoundTrips isBatch payloads := by
  have hmap : ∀ payload, ∃ map, payload ∈ payloads →
      convertRootMap payload = some (.map map) ∧ parseRootMap map = some payload := by
    intro payload
    by_cases hmem : payload ∈ payloads
    · obtain ⟨map, hread⟩ := convertRootMap_reads (h payload hmem)
      exact ⟨map, fun _ => hread⟩
    · exact ⟨[], fun h => absurd h hmem⟩
  choose map hread using hmap
  have hparse := parseRootItems_reads (fun payload hmem => (hread payload hmem).2)
  unfold RepRoundTrips convertRepPayload
  rw [mapM_some (fun payload hmem => (hread payload hmem).1)]
  simp only [bind_eq_bind, bind_some]
  split_ifs with hroot
  · have hclose := closeArray_length (payloads.map (fun payload => Item.map (map payload)))
    rw [List.length_map] at hclose
    rw [hclose, bind_some, parseRepPayload]
    exact hparse false
  · -- one payload, which is the root itself
    obtain ⟨payload, rest, rfl⟩ := List.exists_cons_of_ne_nil hne
    have hrest : rest = [] := by
      rw [not_or, List.length_cons] at hroot
      exact List.length_eq_zero_iff.mp (by omega)
    subst hrest
    exact hparse false

def nestedPayload : OCRepPayload :=
  .mk (some (.const "/a/light")) [.const "core.light"] [.const "oic.if.baseline"]
    [.mk (.const "state") (.bool true),
      .mk (.const "scene") (.object (.ofValues [.mk (.const "power") (.int 10)])),
      .mk (.const "names") (.array .string ⟨1, 2, 0⟩ [.string (.const "left"), .nullPointer]),
      .mk (.const "grid") (.array .object ⟨1, 1, 2⟩
        [.nullPointer, .object (.ofValues [.mk (.const "x") .null])])]

theorem rep_round_trip_nested : RepRoundTrips false [nestedPayload, nestedPayload] := by
  have hsendable : nestedPayload.IsSendable := by
    refine ⟨?_, ⟨by decide, by decide⟩, ⟨by decide, by decide⟩, by decide, by decide, ?_⟩
    · rintro uri ⟨⟩
      decide
    · have hobject : ∀ name prop, namedByIndex 0 [.mk name prop] = false → prop.IsSendable →
          (OCRepPayload.ofValues [.mk name prop]).IsNested := fun name prop hname hprop =>
        ⟨rfl, rfl, rfl, hname, List.nodup_singleton name, hprop, trivial⟩
      exact ⟨trivial, hobject _ _ (by decide) trivial,
        ⟨⟨by decide, by decide⟩, rfl, rfl, rfl, Or.inl rfl, trivial⟩,
        ⟨⟨by decide, by decide⟩, rfl, rfl, Or.inr rfl,
          ⟨rfl, hobject _ _ (by decide) trivial⟩, trivial⟩, trivial⟩
  refine rep_round_trip false (List.cons_ne_nil _ _) (fun payload hmem => ?_)
  simp only [List.mem_cons, List.not_mem_nil, or_false, or_self] at hmem
  exact hmem ▸ hsendable

lemma parse_types_wrapped {types : List CString} (h : UInt16.ofNat types.length = 0) :
    (convertRepPayload false [.mk none types [] []]).bind parseRepPayload
      = some [.ofValues []] := by
  have hjoin : stringLLJoin ocRsrvdResourceType types = some [] := by
    rw [stringLLJoin, h]
    rfl
  have hroot : convertRootMap (.mk none types [] []) = some (.map []) := by
    rw [convertRootMap, convertSingleRepPayload, OCRepPayload.types, hjoin]
    rfl
  rw [convertRepPayload, List.mapM_cons, hroot]
  rfl

lemma not_repRoundTrips {payload : OCRepPayload} (other : OCRepPayload)
    (h : (convertRepPayload false [payload]).bind parseRepPayload = some [other])
    (hne : other ≠ payload) : ¬ RepRoundTrips false [payload] := by
  intro htrips
  rw [RepRoundTrips, h, Option.some.injEq, List.cons.injEq] at htrips
  exact hne htrips.1

theorem unsendable_payloads_change :
    ¬ RepRoundTrips false [.mk (some (.const "")) [] [] []]
      ∧ ¬ RepRoundTrips false [.mk none [.const ""] [] []]
      ∧ ¬ RepRoundTrips false [.mk none (List.replicate 65536 (.const "t")) [] []]
      ∧ ¬ RepRoundTrips false [.ofValues
          [.mk (.const "n") (.object (.ofValues [.mk (.const "") (.int 1)]))]] := by
  refine ⟨?_, ?_, ?_, ?_⟩
  · refine not_repRoundTrips (.ofValues []) rfl (fun h => ?_)
    exact Option.some_ne_none _ (congrArg OCRepPayload.uri h).symm
  · refine not_repRoundTrips (.ofValues []) rfl (fun h => ?_)
    exact List.cons_ne_nil _ _ (congrArg OCRepPayload.types h).symm
  · refine not_repRoundTrips (.ofValues []) (parse_types_wrapped ?_) (fun h => ?_)
    · rw [List.length_replicate]
      rfl
    · have hlength := congrArg (fun payload => payload.types.length) h
      simp only [OCRepPayload.ofValues, OCRepPayload.types, List.length_nil,
        List.length_replicate] at hlength
      omega
  · -- the array of one number is read as an array
    refine not_repRoundTrips (.ofValues
      [.mk (.const "n") (.array .int ⟨1, 0, 0⟩ [.int 1])]) rfl (fun h => ?_)
    injection h with _ _ _ hvalues
    injection hvalues with hvalue
    injection hvalue with _ hprop
    cases hprop

end Iochibity.Ocf
