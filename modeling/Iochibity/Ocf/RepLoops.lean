/-
What a representation payload should be read as, and when it is.
-/
import Iochibity.Ocf.RepRoundTrip
import Mathlib.Data.Nat.Digits.Defs

namespace Iochibity.Ocf

open CborTree
open Coap (CString)
open Bool (false_eq_true toNat_false toNat_true)

def pairKeys : List RepItem → List (List UInt8)
  | .text key :: _ :: rest => key :: pairKeys rest
  | _ => []

def pairNames (items : List RepItem) : List CString :=
  (pairKeys items).map CString.ofBytes

mutual

def WellFormed : RepItem → Prop
  | .map items => WellFormedPairs items ∧ (pairKeys items).Nodup
  | .array items => WellFormedItems items
  | .other => False
  | _ => True

def WellFormedPairs : List RepItem → Prop
  | [] => True
  | .text _ :: value :: rest => WellFormed value ∧ WellFormedPairs rest
  | _ => False

def WellFormedItems : List RepItem → Prop
  | [] => True
  | item :: rest => WellFormed item ∧ WellFormedItems rest

end

def elementTypes : List OCRepPayloadPropType :=
  [.null, .int, .double, .bool, .string, .byteString, .object]

def isElement (type : OCRepPayloadPropType) : (depth : Nat) → RepItem → Bool
  | 0, item => decodeCborType item = .null ∨ decodeCborType item = type
  | depth + 1, .array items => items.all (isElement type depth)
  | _ + 1, item => decodeCborType item = .null

/-- All items are of one type and one depth, which is at most `MAX_REP_ARRAY_DEPTH`. -/
def isHomogeneous (items : List RepItem) : Bool :=
  elementTypes.any fun type => [0, 1, 2].any fun depth => items.all (isElement type depth)

def arrayShape (items : List RepItem) : RepDimensions × OCRepPayloadPropType :=
  (parseArrayFindDimensionsAndType items).getD (⟨0, 0, 0⟩, .null)

mutual

def decodeValue : RepItem → RepProp
  | .int n => .int (.ofInt n)
  | .double bits => .double bits
  | .bool b => .bool b
  | .text s => .string (.ofBytes s)
  | .bytes b => .byteString b
  | .map items => .object (.ofValues (decodePairs items))
  | .array items =>
    if isHomogeneous items then
      if (arrayShape items).2 = .null then .null
      else .array (arrayShape items).2 (arrayShape items).1
        (decodeCells (arrayShape items).1 (arrayShape items).2 items (arrayShape items).1.d0)
    else .object (.ofValues (decodeElements 0 items))
  | .null => .null
  | .other => .null

def decodePairs : List RepItem → List OCRepPayloadValue
  | .text key :: value :: rest => .mk (.ofBytes key) (decodeValue value) :: decodePairs rest
  | _ => []

def decodeElements (arrayIndex : Nat) : List RepItem → List OCRepPayloadValue
  | [] => []
  | item :: rest =>
    .mk (indexName arrayIndex) (decodeValue item) :: decodeElements (arrayIndex + 1) rest

def decodeCells (dimensions : RepDimensions) (type : OCRepPayloadPropType) :
    List RepItem → (items : Nat) → List RepCell
  | [], left => zeroCells dimensions type left
  | _ :: _, 0 => []
  | item :: rest, left + 1 =>
    decodeCell dimensions type item ++ decodeCells dimensions type rest left

def decodeCell (dimensions : RepDimensions) (type : OCRepPayloadPropType) :
    RepItem → List RepCell
  | .array items => decodeCells ⟨dimensions.d1, dimensions.d2, 0⟩ type items dimensions.d1
  | .map items => [.object (.ofValues (decodePairs items))]
  | .null => zeroCells dimensions type 1
  | item => [(scalarCell type item).getD (zeroCell type)]

end

def isMixed : RepItem → Bool
  | .array items => (parseArrayFindDimensionsAndType items).isNone
  | _ => false

def MixedLast : List RepItem → Prop
  | _ :: value :: rest => (isMixed value = true → rest = []) ∧ MixedLast rest
  | _ => True

def MixedLastItem : List RepItem → Prop
  | item :: rest => (isMixed item = true → rest = []) ∧ MixedLastItem rest
  | [] => True

mutual

/-- **When an item is read as what it means.** The names of a map are different, as C strings; a
mixed array comes last in its map or array; an array that is not homogeneous is found to be mixed,
and not for its depths alone; and so on below. -/
def NoLoss : RepItem → Prop
  | .map items => NoLossPairs items ∧ MixedLast items ∧ (pairNames items).Nodup
  | .array items =>
    if isHomogeneous items then NoLossCells items
    else parseArrayFindDimensionsAndType items = none ∧ NoLossItems items ∧ MixedLastItem items
  | _ => True

def NoLossPairs : List RepItem → Prop
  | .text _ :: value :: rest => NoLoss value ∧ NoLossPairs rest
  | _ => True

def NoLossItems : List RepItem → Prop
  | [] => True
  | item :: rest => NoLoss item ∧ NoLossItems rest

def NoLossCells : List RepItem → Prop
  | [] => True
  | item :: rest => NoLossCell item ∧ NoLossCells rest

def NoLossCell : RepItem → Prop
  | .map items => NoLossPairs items ∧ MixedLast items ∧ (pairNames items).Nodup
  | .array items => NoLossCells items
  | _ => True

end

open List
open Option

def digitsValue (digits : List Char) : Nat :=
  digits.foldl (fun value c => 10 * value + (c.toNat - 48)) 0

lemma digitsValue_toDigits (n : Nat) : digitsValue (Nat.toDigits 10 n) = n := by
  have hdigit : ∀ d < 10, (Nat.digitChar d).toNat - 48 = d := by decide
  induction n using Nat.strongRec with
  | ind n ih =>
    by_cases hn : n < 10
    · rw [Nat.toDigits_of_lt_base hn, digitsValue, foldl_cons, foldl_nil, hdigit n hn]
      omega
    have hinit : digitsValue (Nat.toDigits 10 (n / 10)) = n / 10 := ih (n / 10) (by omega)
    rw [Nat.toDigits_of_base_le (by decide) (by omega), digitsValue, foldl_append,
      ← digitsValue, hinit, foldl_cons, foldl_nil, hdigit _ (by omega)]
    omega

lemma indexName_bytes (n : Nat) : (indexName n).bytes = Sec.cString (toString n) := by
  rw [indexName, CString.const, CString.ofBytes, takeWhile_eq_self_iff]
  intro b hb
  obtain ⟨c, hc, hb⟩ := mem_flatMap.mp hb
  have hdigit : c.isDigit = true := by
    refine Nat.isDigit_of_mem_toDigits (b := 10) (n := n) (by decide) (by decide) ?_
    rwa [show toString n = String.ofList (Nat.toDigits 10 n) from rfl, String.toList_ofList] at hc
  simp only [Char.isDigit, Bool.and_eq_true, decide_eq_true_eq] at hdigit
  have hlow : 48 ≤ c.toNat := hdigit.1
  have hhigh : c.toNat ≤ 57 := hdigit.2
  have hsize : c.utf8Size = 1 := by
    refine Char.utf8Size_eq_one_iff.mpr (UInt32.le_iff_toNat_le.mpr ?_)
    exact hhigh.trans (by decide)
  rw [String.utf8EncodeChar_eq_singleton hsize, mem_singleton] at hb
  refine decide_eq_true (fun hzero => ?_)
  have hnat := congrArg UInt8.toNat (hb.symm.trans hzero)
  rw [UInt32.toNat_toUInt8, UInt8.toNat_zero] at hnat
  have hval : c.val.toNat = c.toNat := rfl
  omega

lemma indexName_injective {m n : Nat} (h : indexName m = indexName n) : m = n := by
  have hbytes := congrArg CString.bytes h
  rw [indexName_bytes, indexName_bytes, Sec.cString_inj] at hbytes
  have hdigits := congrArg String.toList hbytes
  rw [show toString m = String.ofList (Nat.toDigits 10 m) from rfl,
    show toString n = String.ofList (Nat.toDigits 10 n) from rfl, String.toList_ofList,
    String.toList_ofList] at hdigits
  rw [← digitsValue_toDigits m, hdigits, digitsValue_toDigits]

/-! ## Reading one item -/

def readItem : RepItem → Option (RepProp × Bool)
  | .null => some (.null, false)
  | .int n => some (.int (.ofInt n), false)
  | .double bits => some (.double bits, false)
  | .bool b => some (.bool b, false)
  | .text s => some (.string (.ofBytes s), false)
  | .bytes b => some (.byteString b, false)
  | .map items =>
    (parseValues true false items false none 0 []).map (fun pl => (.object (.ofValues pl), false))
  | .array items =>
    match parseArrayFindDimensionsAndType items with
    | some (dimensions, type) =>
      some (if type = .null then .null
        else .array type dimensions (fillArray dimensions type items dimensions.d0).1, false)
    | none =>
      (parseValues false false items false none 0 []).map (fun pl => (.object (.ofValues pl), true))
  | .other => none

lemma parseValue_named (item : RepItem) (name : CString) (values : List OCRepPayloadValue) :
    parseValue item (some name) values
      = (readItem item).map (fun read => (setValue values name read.1, read.2)) := by
  cases item with
  | map items =>
    rw [parseValue, readItem]
    cases parseValues true false items false none 0 [] <;> rfl
  | array items =>
    rw [parseValue, readItem]
    cases parseArrayFindDimensionsAndType items with
    | some found => rfl
    | none => cases parseValues false false items false none 0 [] <;> rfl
  | _ => rfl

variable {item : RepItem} {skip : Bool}

lemma readItem_skip {prop : RepProp}
    (h : readItem item = some (prop, skip)) : skip = isMixed item := by
  cases item with
  | map items =>
    obtain ⟨pl, -, heq⟩ := map_eq_some_iff.mp h
    cases heq
    rfl
  | array items =>
    rw [readItem] at h
    rw [isMixed]
    cases hfound : parseArrayFindDimensionsAndType items with
    | some found =>
      rw [hfound] at h
      cases h
      rfl
    | none =>
      rw [hfound] at h
      obtain ⟨pl, -, heq⟩ := map_eq_some_iff.mp h
      cases heq
      rfl
  | other => exact absurd h (by simp [readItem])
  | _ =>
    cases h
    rfl

variable {values read : List OCRepPayloadValue}

lemma parseValue_unnamed
    (h : parseValue item none values = some (read, skip)) : read = values := by
  cases item with
  | map items =>
    rw [parseValue] at h
    cases hpl : parseValues true false items false none 0 [] with
    | none => rw [hpl] at h; exact absurd h (by simp)
    | some pl => rw [hpl] at h; exact absurd h (by simp [repPayloadSetProp])
  | array items =>
    rw [parseValue] at h
    dsimp only at h
    split at h
    · rename_i set harray
      obtain ⟨found, -, hset⟩ := bind_eq_some_iff.mp harray
      exact absurd hset (by simp [repPayloadSetProp])
    obtain ⟨pl, -, h⟩ := bind_eq_some_iff.mp h
    exact ((Prod.mk.inj (some.inj h)).1).symm
  | other => exact absurd h (by simp [parseValue])
  | _ => exact absurd h (by simp [parseValue, repPayloadSetProp])

/-! ## Counting -/

section

variable (values : List OCRepPayloadValue) (name : CString) (prop : RepProp)

lemma length_setValue :
    (setValue values name prop).length
      = if name ∈ valueNames values then values.length else values.length + 1 := by
  induction values with
  | nil => rfl
  | cons value rest ih =>
    rw [setValue, valueNames, map_cons]
    by_cases heq : value.name = name
    · rw [if_pos heq, if_pos (mem_cons.mpr (Or.inl heq.symm))]
      rfl
    have hmem : name ∈ value.name :: rest.map OCRepPayloadValue.name ↔ name ∈ valueNames rest :=
      mem_cons.trans (or_iff_right (heq ·.symm))
    rw [if_neg heq, length_cons, ih]
    simp only [hmem, length_cons]
    split_ifs <;> rfl

lemma length_setValue_le : (setValue values name prop).length ≤ values.length + 1 := by
  rw [length_setValue]
  split_ifs <;> omega

end

lemma eq_none_of_nameItem {isMap : Bool} {name : Option CString} {key : CString}
    (h : nameItem isMap name item = some key) : name = none := by
  unfold nameItem at h
  split at h
  · rfl
  · simp at h

variable {isRoot : Bool} {arrayIndex : Nat}

lemma parseValues_length_le (items : List RepItem) {name : Option CString}
    (h : parseValues true isRoot items skip name arrayIndex values = some read) :
    2 * read.length ≤ 2 * values.length + (items.length - skip.toNat) + name.isSome.toNat := by
  induction items generalizing skip name arrayIndex values with
  | nil =>
    rw [parseValues] at h
    split_ifs at h
    cases h
    omega
  | cons item rest ih =>
    rw [parseValues] at h
    cases skip with
    | true =>
      rw [if_pos rfl] at h
      have hrest := ih h
      simp only [toNat_true, toNat_false, length_cons, isSome_none]
        at hrest ⊢
      omega
    | false =>
      rw [if_neg Bool.false_ne_true] at h
      split at h
      · rename_i key hkey
        split_ifs at h
        · have hrest := ih h
          simp only [toNat_true, toNat_false, length_cons, isSome_none]
            at hrest ⊢
          omega
        · -- the key is a name for the next item, and there was none before
          have hrest := ih h
          rw [eq_none_of_nameItem hkey]
          simp only [toNat_true, toNat_false, length_cons, isSome_none, isSome_some] at hrest ⊢
          omega
      obtain ⟨⟨next, skip'⟩, hnext, h⟩ := bind_eq_some_iff.mp h
      have hrest := ih h
      simp only [if_true] at hnext
      cases name with
      | none =>
        rw [parseValue_unnamed hnext] at hrest
        simp only [toNat_false, length_cons, isSome_none] at hrest ⊢
        omega
      | some name =>
        rw [parseValue_named] at hnext
        obtain ⟨found, -, heq⟩ := map_eq_some_iff.mp hnext
        have hset := length_setValue_le values name found.1
        rw [(Prod.mk.inj heq).1] at hset
        simp only [toNat_true, toNat_false, length_cons, isSome_none, isSome_some] at hrest ⊢
        omega

lemma parseElements_length_le (items : List RepItem)
    (h : parseValues false false items skip none arrayIndex values = some read) :
    read.length ≤ values.length + (items.length - skip.toNat) := by
  induction items generalizing skip arrayIndex values with
  | nil =>
    rw [parseValues] at h
    cases h
    omega
  | cons item rest ih =>
    rw [parseValues] at h
    cases skip with
    | true =>
      rw [if_pos rfl] at h
      have hrest := ih h
      simp only [toNat_true, toNat_false, length_cons] at hrest ⊢
      omega
    | false =>
      rw [if_neg Bool.false_ne_true] at h
      obtain ⟨⟨next, skip'⟩, hnext, h⟩ := bind_eq_some_iff.mp h
      have hrest := ih h
      simp only [false_eq_true, if_false] at hnext
      rw [parseValue_named] at hnext
      obtain ⟨found, -, heq⟩ := map_eq_some_iff.mp hnext
      have hset := length_setValue_le values (indexName arrayIndex) found.1
      rw [(Prod.mk.inj heq).1] at hset
      simp only [toNat_false, length_cons] at hrest ⊢
      omega

/-! ## The loop over a map -/

lemma pairs_induction {motive : (items : List RepItem) → WellFormedPairs items → Prop}
    (nil : motive [] trivial)
    (pair : ∀ key value rest (hvalue : WellFormed value) (hrest : WellFormedPairs rest),
      motive rest hrest → motive (.text key :: value :: rest) ⟨hvalue, hrest⟩) :
    (items : List RepItem) → (h : WellFormedPairs items) → motive items h
  | [], _ => nil
  | .text key :: value :: rest, h =>
    pair key value rest h.1 h.2 (pairs_induction nil pair rest h.2)
  | [.text _], h => h.elim
  | .null :: _, h => h.elim
  | .int _ :: _, h => h.elim
  | .double _ :: _, h => h.elim
  | .bool _ :: _, h => h.elim
  | .bytes _ :: _, h => h.elim
  | .array _ :: _, h => h.elim
  | .map _ :: _, h => h.elim
  | .other :: _, h => h.elim

def readPairs : List RepItem → Option (List OCRepPayloadValue)
  | .text key :: value :: rest => do
      let (prop, _) ← readItem value
      let tail ← readPairs rest
      return .mk (.ofBytes key) prop :: tail
  | _ => some []

lemma parseValues_pair (key : List UInt8) (value : RepItem) (rest : List RepItem)
    (arrayIndex : Nat) (values : List OCRepPayloadValue) :
    parseValues true isRoot (.text key :: value :: rest) false none arrayIndex values
      = if isRoot && isReserved (.ofBytes key) then
          parseValues true isRoot rest false none arrayIndex values
        else (readItem value).bind (fun read =>
          parseValues true isRoot rest read.2 none (arrayIndex + 1)
            (setValue values (.ofBytes key) read.1)) := by
  rw [parseValues, nameItem]
  simp only [false_eq_true, if_false]
  split_ifs with hreserved
  · rw [parseValues, if_pos rfl]
  · rw [parseValues, if_neg Bool.false_ne_true]
    have hname : nameItem true (some (CString.ofBytes key)) value = none := by
      cases value <;> rfl
    rw [hname]
    simp only [if_true, parseValue_named]
    cases readItem value <;> rfl

lemma parseValues_last {isMap : Bool} {rest : List RepItem} (h : skip = true → rest = [])
    (arrayIndex : Nat) (values : List OCRepPayloadValue) :
    parseValues isMap isRoot rest skip none arrayIndex values
      = parseValues isMap isRoot rest false none arrayIndex values := by
  cases skip with
  | false => rfl
  | true =>
    rw [h rfl, parseValues, parseValues]

structure Orderly (isRoot : Bool) (items : List RepItem) (values : List OCRepPayloadValue) :
    Prop where
  mixedLast : MixedLast items
  unreserved : isRoot = true → ∀ name ∈ pairNames items, isReserved name = false
  nodup : (pairNames items).Nodup
  new : ∀ name ∈ pairNames items, name ∉ valueNames values

lemma valueNames_append_singleton (values : List OCRepPayloadValue) (name : CString)
    (prop : RepProp) : valueNames (values ++ [.mk name prop]) = valueNames values ++ [name] := by
  rw [valueNames, map_append]
  rfl

lemma orderly_cons (isRoot : Bool) {key : List UInt8} {value : RepItem} {rest : List RepItem}
    (prop : RepProp) (hreserved : (isRoot && isReserved (.ofBytes key)) = false)
    (hnew : CString.ofBytes key ∉ valueNames values) (hmixed : isMixed value = true → rest = []) :
    Orderly isRoot (.text key :: value :: rest) values
      ↔ Orderly isRoot rest (values ++ [.mk (.ofBytes key) prop]) := by
  have hnames : pairNames (.text key :: value :: rest)
      = CString.ofBytes key :: pairNames rest := rfl
  constructor
  · rintro ⟨hlast, hunreserved, hnodup, hnames'⟩
    rw [hnames] at hunreserved hnodup hnames'
    obtain ⟨hkey, hnodup⟩ := nodup_cons.mp hnodup
    refine ⟨hlast.2, fun h name hmem => hunreserved h name (mem_cons_of_mem _ hmem), hnodup,
      fun name hmem => ?_⟩
    rw [valueNames_append_singleton, mem_append, mem_singleton, not_or]
    exact ⟨hnames' name (mem_cons_of_mem _ hmem), fun h => hkey (h ▸ hmem)⟩
  · rintro ⟨hlast, hunreserved, hnodup, hnames'⟩
    have hsplit : ∀ name ∈ pairNames rest, name ∉ valueNames values ∧ name ≠ .ofBytes key := by
      intro name hmem
      have h := hnames' name hmem
      rw [valueNames_append_singleton, mem_append, mem_singleton, not_or] at h
      exact h
    refine ⟨⟨hmixed, hlast⟩, fun h => ?_, ?_, ?_⟩
    · rw [hnames, forall_mem_cons]
      rw [h, Bool.true_and] at hreserved
      exact ⟨hreserved, hunreserved h⟩
    · rw [hnames, nodup_cons]
      exact ⟨fun hmem => (hsplit _ hmem).2 rfl, hnodup⟩
    · rw [hnames, forall_mem_cons]
      exact ⟨hnew, fun name hmem => (hsplit name hmem).1⟩

variable {items : List RepItem}

lemma length_of_wellFormedPairs (hwf : WellFormedPairs items) :
    items.length = 2 * (pairKeys items).length := by
  induction items, hwf using pairs_induction with
  | nil => rfl
  | pair key value rest hvalue hrest ih =>
    rw [length_cons, length_cons, ih, pairKeys, length_cons]
    omega

lemma parseValues_pairs_length_le (hwf : WellFormedPairs items)
    (h : parseValues true isRoot items skip none arrayIndex values = some read) :
    read.length ≤ values.length + (pairKeys items).length
      ∧ (skip = true → items ≠ [] → read.length < values.length + (pairKeys items).length) := by
  have hcount := parseValues_length_le items h
  have hlength := length_of_wellFormedPairs hwf
  simp only [isSome_none, toNat_false] at hcount
  refine ⟨by omega, ?_⟩
  rintro rfl hne
  have hpos := length_pos_iff.mpr hne
  simp only [toNat_true] at hcount
  omega

lemma parseValues_pairs (isRoot : Bool) (hwf : WellFormedPairs items) :
    ∀ (arrayIndex : Nat) (values read : List OCRepPayloadValue),
    (parseValues true isRoot items false none arrayIndex values = some read
        ∧ read.length = values.length + (pairKeys items).length)
      ↔ Orderly isRoot items values
          ∧ ∃ tail, readPairs items = some tail ∧ read = values ++ tail := by
  induction items, hwf using pairs_induction with
  | nil =>
    intro arrayIndex values read
    have horderly : Orderly isRoot [] values :=
      ⟨trivial, fun _ _ h => absurd h not_mem_nil, nodup_nil, fun _ h => absurd h not_mem_nil⟩
    have hread : readPairs [] = some [] := rfl
    rw [and_iff_right horderly, parseValues, hread]
    simp only [isSome_none, false_eq_true, if_false, Option.some.injEq, pairKeys,
      length_nil, Nat.add_zero, exists_eq_left', append_nil]
    constructor
    · exact fun h => h.1.symm
    · rintro rfl
      exact ⟨rfl, rfl⟩
  | pair key value rest hvalue hrest ih =>
    intro arrayIndex values read
    have hkeys : (pairKeys (.text key :: value :: rest)).length = (pairKeys rest).length + 1 := rfl
    rw [parseValues_pair, hkeys]
    cases hreserved : isRoot && isReserved (.ofBytes key) with
    | true =>
      rw [if_pos rfl]
      obtain ⟨hroot, hkey⟩ := Bool.and_eq_true_iff.mp hreserved
      refine iff_of_false (fun h => ?_) (fun h => ?_)
      · have hle := (parseValues_pairs_length_le hrest h.1).1
        omega
      · have hname := h.1.unreserved hroot _ mem_cons_self
        rw [hkey] at hname
        exact Bool.noConfusion hname
    | false =>
      rw [if_neg Bool.false_ne_true, readPairs]
      cases hread : readItem value with
      | none =>
        refine iff_of_false (fun h => absurd h.1 (by simp)) ?_
        rintro ⟨-, tail, htail, -⟩
        simp at htail
      | some found =>
        obtain ⟨prop, skip⟩ := found
        rw [bind_some]
        simp only [bind_eq_bind, bind_some, bind_eq_some_iff]
        by_cases hnew : CString.ofBytes key ∈ valueNames values
        · refine iff_of_false (fun h => ?_) (fun h => ?_)
          · have hle := (parseValues_pairs_length_le hrest h.1).1
            rw [length_setValue, if_pos hnew] at hle
            omega
          · exact h.1.new _ mem_cons_self hnew
        have hset : setValue values (.ofBytes key) prop = values ++ [.mk (.ofBytes key) prop] :=
          setValue_of_not_mem hnew prop
        by_cases hskip : skip = true → rest = []
        · -- nothing is lost here, and the rest is read after one more value
          have horderly := orderly_cons isRoot prop hreserved hnew
            (fun h => hskip ((readItem_skip hread).trans h))
          rw [parseValues_last hskip, hset, horderly]
          have hih := ih (arrayIndex + 1) (values ++ [.mk (.ofBytes key) prop]) read
          rw [length_append, length_singleton, Nat.add_assoc, Nat.add_comm 1] at hih
          rw [hih]
          refine and_congr_right (fun _ => ?_)
          constructor
          · rintro ⟨tail, htail, rfl⟩
            refine ⟨_, ⟨tail, htail, rfl⟩, ?_⟩
            simp
          · rintro ⟨_, ⟨tail, htail, heq⟩, rfl⟩
            cases heq
            refine ⟨tail, htail, ?_⟩
            simp
        push Not at hskip
        refine iff_of_false (fun h => ?_) (fun h => ?_)
        · have hlt := (parseValues_pairs_length_le hrest h.1).2 hskip.1 hskip.2
          rw [hset, length_append, length_singleton] at hlt
          omega
        · exact hskip.2 (h.1.mixedLast.1 ((readItem_skip hread).symm.trans hskip.1))

lemma parseValues_eq_decodePairs (hwf : WellFormedPairs items) :
    parseValues true isRoot items false none 0 [] = some (decodePairs items)
      ↔ Orderly isRoot items [] ∧ readPairs items = some (decodePairs items) := by
  have hlength : (decodePairs items).length = (pairKeys items).length := by
    induction items, hwf using pairs_induction with
    | nil => rfl
    | pair key value rest hvalue hrest ih =>
      rw [decodePairs, pairKeys, length_cons, length_cons, ih]
  have hpairs := parseValues_pairs isRoot hwf 0 [] (decodePairs items)
  rw [length_nil, Nat.zero_add, and_iff_left hlength] at hpairs
  rw [hpairs]
  simp

/-! ## The loop over an array -/

def readElements (arrayIndex : Nat) : List RepItem → Option (List OCRepPayloadValue)
  | [] => some []
  | item :: rest => do
      let (prop, _) ← readItem item
      let tail ← readElements (arrayIndex + 1) rest
      return .mk (indexName arrayIndex) prop :: tail

lemma parseValues_element (item : RepItem) (rest : List RepItem) (arrayIndex : Nat)
    (values : List OCRepPayloadValue) :
    parseValues false false (item :: rest) false none arrayIndex values
      = (readItem item).bind (fun read =>
          parseValues false false rest read.2 none (arrayIndex + 1)
            (setValue values (indexName arrayIndex) read.1)) := by
  have hname : nameItem false none item = none := by cases item <;> rfl
  rw [parseValues, hname]
  simp only [false_eq_true, if_false, parseValue_named]
  cases readItem item <;> rfl

lemma parseValues_elements (items : List RepItem) (arrayIndex : Nat)
    (values : List OCRepPayloadValue)
    (hfree : ∀ j, arrayIndex ≤ j → indexName j ∉ valueNames values)
    (read : List OCRepPayloadValue) :
    (parseValues false false items false none arrayIndex values = some read
        ∧ read.length = values.length + items.length)
      ↔ MixedLastItem items
          ∧ ∃ tail, readElements arrayIndex items = some tail ∧ read = values ++ tail := by
  induction items generalizing arrayIndex values with
  | nil =>
    rw [parseValues, readElements]
    simp only [isSome_none, false_eq_true, if_false, Option.some.injEq,
      length_nil, Nat.add_zero, exists_eq_left', append_nil, MixedLastItem, true_and]
    constructor
    · exact fun h => h.1.symm
    · rintro rfl
      exact ⟨rfl, rfl⟩
  | cons item rest ih =>
    rw [parseValues_element, readElements, MixedLastItem, length_cons]
    cases hread : readItem item with
    | none =>
      refine iff_of_false (fun h => absurd h.1 (by simp)) ?_
      rintro ⟨-, tail, htail, -⟩
      simp at htail
    | some found =>
      obtain ⟨prop, skip⟩ := found
      rw [bind_some]
      simp only [bind_eq_bind, bind_some, bind_eq_some_iff]
      have hset : setValue values (indexName arrayIndex) prop
          = values ++ [.mk (indexName arrayIndex) prop] :=
        setValue_of_not_mem (hfree arrayIndex le_rfl) prop
      by_cases hskip : skip = true → rest = []
      · have hnext : ∀ j, arrayIndex + 1 ≤ j →
            indexName j ∉ valueNames (values ++ [.mk (indexName arrayIndex) prop]) := by
          intro j hj
          rw [valueNames_append_singleton, mem_append, mem_singleton, not_or]
          refine ⟨hfree j (by omega), fun h => ?_⟩
          have heq := indexName_injective h
          omega
        have hih := ih (arrayIndex + 1) _ hnext
        rw [length_append, length_singleton, Nat.add_assoc, Nat.add_comm 1] at hih
        rw [parseValues_last hskip, hset, hih,
          and_iff_right (fun h => hskip ((readItem_skip hread).trans h))]
        refine and_congr_right (fun _ => ?_)
        constructor
        · rintro ⟨tail, htail, rfl⟩
          refine ⟨_, ⟨tail, htail, rfl⟩, ?_⟩
          simp
        · rintro ⟨_, ⟨tail, htail, heq⟩, rfl⟩
          cases heq
          refine ⟨tail, htail, ?_⟩
          simp
      push Not at hskip
      refine iff_of_false (fun h => ?_) (fun h => ?_)
      · -- the item after the mixed array sets nothing
        have hle := parseElements_length_le rest h.1
        have hpos := length_pos_iff.mpr hskip.2
        rw [hset, length_append, length_singleton, hskip.1, toNat_true] at hle
        omega
      · exact hskip.2 (h.1.1 ((readItem_skip hread).symm.trans hskip.1))

lemma parseValues_eq_decodeElements (items : List RepItem) :
    parseValues false false items false none 0 [] = some (decodeElements 0 items)
      ↔ MixedLastItem items ∧ readElements 0 items = some (decodeElements 0 items) := by
  have hlength : ∀ (items : List RepItem) (arrayIndex : Nat),
      (decodeElements arrayIndex items).length = items.length := by
    intro items
    induction items with
    | nil => exact fun _ => rfl
    | cons item rest ih =>
      intro arrayIndex
      rw [decodeElements, length_cons, length_cons, ih]
  have helements := parseValues_elements items 0 []
    (fun _ _ h => absurd h not_mem_nil) (decodeElements 0 items)
  rw [length_nil, Nat.zero_add, and_iff_left (hlength items 0)] at helements
  rw [helements]
  simp

end Iochibity.Ocf
