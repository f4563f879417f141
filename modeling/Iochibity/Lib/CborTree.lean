/-
CBOR data with all the types a program may write, over any type of texts.
-/
import Mathlib.Data.List.Basic
import Mathlib.Algebra.Order.Ring.Nat
import Mathlib.Data.List.Nodup
import Mathlib.Data.Int.Notation

namespace CborTree

open List

inductive Item (τ : Type)
  | int (n : Int)
  | double (bits : UInt64)
  | bool (b : Bool)
  | null
  | bytes (b : List UInt8)
  | text (s : τ)
  | array (items : List (Item τ))
  | map (items : List (Item τ))
  | other

section Items

variable {τ : Type}

def Item.content : Item τ → Option (List (Item τ))
  | .array items => some items
  | .map items => some items
  | _ => none

def headSize (n : Nat) : Nat :=
  if n < 24 then 1 else if n < 2 ^ 8 then 2 else if n < 2 ^ 16 then 3
  else if n < 2 ^ 32 then 5 else 9

mutual

def Item.size (textSize : τ → Nat) : Item τ → Nat
  | .int n => headSize (if n < 0 then (-1 - n).toNat else n.toNat)
  | .double _ => 9
  | .bool _ => 1
  | .null => 1
  | .bytes b => headSize b.length + b.length
  | .text s => headSize (textSize s) + textSize s
  | .array items => headSize items.length + sizes textSize items
  | .map items => headSize (items.length / 2) + sizes textSize items
  | .other => 1

def sizes (textSize : τ → Nat) : List (Item τ) → Nat
  | [] => 0
  | item :: rest => item.size textSize + sizes textSize rest

end

/-! ## Writing -/

def flatten (entries : List (τ × Item τ)) : List (Item τ) :=
  entries.flatMap (fun e => [.text e.1, e.2])

def closeArray (declared : Nat) (items : List (Item τ)) : Option (Item τ) :=
  if items.length = declared then some (.array items) else none

def closeMap (declared : Nat) (entries : List (τ × Item τ)) : Option (Item τ) :=
  if entries.length = declared then some (.map (flatten entries)) else none

lemma closeArray_length (items : List (Item τ)) :
    closeArray items.length items = some (.array items) :=
  if_pos rfl

lemma closeMap_eq {declared : Nat} {entries : List (τ × Item τ)}
    (h : entries.length = declared) : closeMap declared entries = some (.map (flatten entries)) :=
  if_pos h

lemma mapM_some {α β : Type} {f : α → Option β} {g : α → β} {l : List α}
    (h : ∀ a ∈ l, f a = some (g a)) : l.mapM f = some (l.map g) := by
  induction l with
  | nil => rfl
  | cons a l ih =>
    have htail := ih (fun b hb => h b (mem_cons_of_mem a hb))
    rw [mapM_cons, h a mem_cons_self, htail]
    rfl

lemma size_le_sizes (textSize : τ → Nat) {item : Item τ} {items : List (Item τ)}
    (h : item ∈ items) : item.size textSize ≤ sizes textSize items := by
  induction items with
  | nil => simp at h
  | cons first rest ih =>
    rw [sizes]
    rcases mem_cons.mp h with rfl | hrest
    · omega
    · exact (ih hrest).trans (Nat.le_add_left _ _)

lemma size_lt_of_mem_content (textSize : τ → Nat) {item container : Item τ}
    {items : List (Item τ)} (hcontent : container.content = some items) (h : item ∈ items) :
    item.size textSize < container.size textSize := by
  have hhead : ∀ n, 0 < headSize n := by
    intro n
    unfold headSize
    split_ifs <;> omega
  have hle := size_le_sizes textSize h
  cases container with
  | array l =>
    cases hcontent
    rw [Item.size]
    have := hhead items.length
    omega
  | map l =>
    cases hcontent
    rw [Item.size]
    have := hhead (items.length / 2)
    omega
  | _ => cases hcontent

lemma mem_flatten {key : τ} {value : Item τ} {entries : List (τ × Item τ)}
    (h : (key, value) ∈ entries) : value ∈ flatten entries :=
  mem_flatMap.mpr ⟨(key, value), h, mem_cons_of_mem _ mem_cons_self⟩

lemma flatten_cons (e : τ × Item τ) (entries : List (τ × Item τ)) :
    flatten (e :: entries) = .text e.1 :: e.2 :: flatten entries := rfl

end Items

/-! ## Reading -/

section Walk

variable {τ σ ε : Type}

inductive Fate (ε : Type)
  | skip
  | leave
  | finish (ending : ε)

def walk (fate : Item τ → Fate ε) (body : σ → τ → Option (Item τ) → σ × Option ε) :
    σ → List (Item τ) → σ × Option ε
  | s, [] => (s, none)
  | s, [.text key] => body s key none
  | s, .text key :: value :: rest =>
    match body s key (some value) with
    | (s', none) => walk fate body s' rest
    | (s', some e) => (s', some e)
  | s, item :: rest =>
    match fate item with
    | .skip => walk fate body s rest
    | .leave => (s, none)
    | .finish e => (s, some e)

def each (body : σ → Item τ → σ × Option ε) : σ → List (Item τ) → σ × Option ε
  | s, [] => (s, none)
  | s, item :: rest =>
    match body s item with
    | (s', none) => each body s' rest
    | (s', some e) => (s', some e)

def eachEntry (body : σ → τ → Option (Item τ) → σ × Option ε) :
    σ → List (τ × Item τ) → σ × Option ε
  | s, [] => (s, none)
  | s, (key, value) :: rest =>
    match body s key (some value) with
    | (s', none) => eachEntry body s' rest
    | (s', some e) => (s', some e)

variable {fate : Item τ → Fate ε} {body : σ → τ → Option (Item τ) → σ × Option ε}

lemma walk_flatten (s : σ) (entries : List (τ × Item τ)) :
    walk fate body s (flatten entries) = eachEntry body s entries := by
  induction entries generalizing s with
  | nil => rfl
  | cons e rest ih =>
    obtain ⟨key, value⟩ := e
    rw [flatten_cons, walk, eachEntry]
    rcases body s key (some value) with ⟨s', _ | ending⟩
    · exact ih s'
    · rfl

lemma eachEntry_append {s s' : σ} {entries : List (τ × Item τ)}
    (h : eachEntry body s entries = (s', none)) (rest : List (τ × Item τ)) :
    eachEntry body s (entries ++ rest) = eachEntry body s' rest := by
  induction entries generalizing s with
  | nil =>
    rw [eachEntry, Prod.mk.injEq] at h
    simp [h]
  | cons e entries ih =>
    obtain ⟨key, value⟩ := e
    rw [cons_append, eachEntry]
    rw [eachEntry] at h
    rcases hbody : body s key (some value) with ⟨t, _ | ending⟩
    · rw [hbody] at h
      exact ih h
    rw [hbody] at h
    simp at h

lemma each_map {α : Type} {body : σ → Item τ → σ × Option ε} {encode : α → Item τ}
    {read : σ → α → σ} {values : List α} (s : σ)
    (hbody : ∀ t, ∀ a ∈ values, body t (encode a) = (read t a, none)) :
    each body s (values.map encode) = (values.foldl read s, none) := by
  induction values generalizing s with
  | nil => rfl
  | cons a values ih =>
    rw [map_cons, each, hbody s a mem_cons_self, foldl_cons]
    exact ih (read s a) (fun t b hb => hbody t b (mem_cons_of_mem a hb))

end Walk

end CborTree

namespace OptionalEntries

open List
open Option

variable {κ ν : Type*}

def present (fields : List (κ × Option ν)) : List (κ × ν) :=
  fields.filterMap (fun field => field.2.map (fun value => (field.1, value)))

lemma present_nil : present ([] : List (κ × Option ν)) = [] := rfl

lemma present_cons (key : κ) (value : Option ν) (fields : List (κ × Option ν)) :
    present ((key, value) :: fields)
      = (value.map (fun value => (key, value))).toList ++ present fields := by
  cases value with
  | none | some => rfl

variable {fields : List (κ × Option ν)}

lemma key_mem_of_mem_present {entry : κ × ν}
    (h : entry ∈ present fields) : entry.1 ∈ fields.map Prod.fst := by
  obtain ⟨field, hfield, heq⟩ := mem_filterMap.mp h
  obtain ⟨value, -, rfl⟩ := map_eq_some_iff.mp heq
  exact mem_map_of_mem hfield

variable [BEq κ] [LawfulBEq κ]

variable {key : κ}

lemma lookup_eq_none {entries : List (κ × ν)}
    (h : ∀ entry ∈ entries, entry.1 ≠ key) : entries.lookup key = none := by
  induction entries with
  | nil => rfl
  | cons entry entries ih =>
    obtain ⟨hfirst, hrest⟩ := forall_mem_cons.mp h
    rw [lookup_cons, beq_false_of_ne hfirst.symm]
    exact ih hrest

lemma lookup_present_of_not_mem
    (h : key ∉ fields.map Prod.fst) : (present fields).lookup key = none := by
  apply lookup_eq_none
  rintro entry hentry rfl
  exact h (key_mem_of_mem_present hentry)

lemma lookup_present_of_mem (hkeys : (fields.map Prod.fst).Nodup) {value : Option ν}
    (h : (key, value) ∈ fields) : (present fields).lookup key = value := by
  induction fields with
  | nil => simp at h
  | cons field fields ih =>
    obtain ⟨name, content⟩ := field
    rw [map_cons, nodup_cons] at hkeys
    rw [present_cons]
    rcases mem_cons.mp h with heq | hrest
    · obtain ⟨rfl, rfl⟩ := Prod.mk.inj heq
      cases value with
      | some value =>
        simp
      | none =>
        rw [map_none, toList_none, nil_append]
        exact lookup_present_of_not_mem hkeys.1
    have hne : key ≠ name := by
      rintro rfl
      exact hkeys.1 (mem_map.mpr ⟨(key, value), hrest, rfl⟩)
    cases content with
    | some content =>
      rw [map_some, toList_some, singleton_append, lookup_cons, beq_false_of_ne hne]
      exact ih hkeys.2 hrest
    | none =>
      rw [map_none, toList_none, nil_append]
      exact ih hkeys.2 hrest

end OptionalEntries

namespace CborLookup

/-! ## Answers -/

/-- An item of a container. An integer is given by the 32 bits an `int` has
after reading it; a text that cannot be copied is `text none`. -/
inductive Scalar
  | boolean (b : Bool)
  | integer (bits : UInt32)
  | text (s : Option String)
  | other
  | malformed
  deriving DecidableEq

inductive Found
  | error
  | absent
  | boolean (b : Bool)
  | integer (bits : UInt32)
  | text (s : Option String)
  | array (length : Option Nat) (items : List Scalar)
  | map (items : List Scalar)
  | other
  deriving DecidableEq

/-- `cbor_value_is_boolean`, with the value. -/
def Found.boolean? : Found → Option Bool
  | .boolean b => some b
  | _ => none

/-- `cbor_value_is_integer`, with the value. -/
def Found.integer? : Found → Option UInt32
  | .integer bits => some bits
  | _ => none

/-- `cbor_value_is_text_string`, with the value. -/
def Found.text? : Found → Option (Option String)
  | .text s => some s
  | _ => none

def Found.array? : Found → Option (Option Nat × List Scalar)
  | .array length items => some (length, items)
  | _ => none

/-- `cbor_value_is_container`, with the items. -/
def Found.items? : Found → Option (List Scalar)
  | .array _ items => some items
  | .map items => some items
  | _ => none

/-- What a decoder is given: something that is no map, or a map with the answers
to all keys. The map may still fail to be entered. -/
inductive Payload
  | notMap
  | map (enters : Bool) (find : String → Found)

inductive ReadEnd
  | failed
  | aborts
  deriving DecidableEq

/-! ## Properties -/

section Property

variable {α β ε : Type}

/-- One property: the value read if it is there (`expected`), else the current one; and whether
something was read that may not be written. -/
def readProperty (expected : Option (Except ε α)) (current : α) (readOnly : Bool) :
    Except ε (α × Bool) :=
  match expected with
  | none => .ok (current, false)
  | some (.ok value) => .ok (value, readOnly)
  | some (.error e) => .error e

lemma readProperty_absent {γ : Type} {found : Option γ} {read : γ → Except ε α}
    {current value : α} {readOnly : Bool} (hro : readOnly = true)
    (h : readProperty (found.map read) current readOnly = .ok (value, false)) :
    found.isSome = false := by
  rw [hro] at h
  rcases found with _ | x
  · rfl
  rw [Option.map_some] at h
  rcases hread : read x with e | v
  · rw [hread] at h
    cases h
  rw [hread, readProperty, Except.ok.injEq, Prod.mk.injEq] at h
  simp [h]

lemma readProperty_kept {expected : Option (Except ε α)} {current value : α} {readOnly : Bool}
    (hro : readOnly = true) (h : readProperty expected current readOnly = .ok (value, false)) :
    value = current := by
  rw [hro] at h
  rcases expected with _ | _ | v
  · rw [readProperty, Except.ok.injEq, Prod.mk.injEq] at h
    exact h.1.symm
  · cases h
  · rw [readProperty, Except.ok.injEq, Prod.mk.injEq] at h
    exact absurd h.2 (by decide)

lemma bind_ok_iff {x : Except ε α} {f : α → Except ε β} {r : β} :
    (x >>= f) = .ok r ↔ ∃ a, x = .ok a ∧ f a = .ok r := by
  rcases x with e | a
  · constructor
    · intro h
      cases h
    · rintro ⟨a, ha, -⟩
      cases ha
  constructor
  · intro h
    exact ⟨a, rfl, h⟩
  · rintro ⟨a', ha, h⟩
    cases ha
    exact h

end Property

def lowBits (n : ℤ) : UInt32 := UInt32.ofInt n

def FitsBits (n : ℤ) : Prop := -0x80000000 ≤ n ∧ n < 0x100000000

instance (n : ℤ) : Decidable (FitsBits n) := inferInstanceAs (Decidable (_ ∧ _))

lemma lowBits_toNat (n : ℤ) : ((lowBits n).toNat : ℤ) = n % 0x100000000 := by
  have hnat : (n % 0x100000000).toNat < 2 ^ 32 := by omega
  have hbits : (lowBits n).toNat = (n % 0x100000000).toNat := UInt32.toNat_ofNat_of_lt' hnat
  omega

inductive SentItem
  | boolean (b : Bool)
  | integer (n : ℤ)
  | text (s : Option String)
  | other
  | malformed
  deriving DecidableEq

def SentItem.read : SentItem → Scalar
  | .boolean b => .boolean b
  | .integer n => .integer (lowBits n)
  | .text s => .text s
  | .other => .other
  | .malformed => .malformed

inductive Sent
  | error
  | absent
  | boolean (b : Bool)
  | integer (n : ℤ)
  | text (s : Option String)
  | array (length : Option Nat) (items : List SentItem)
  | map (items : List SentItem)
  | other
  deriving DecidableEq

def Sent.read : Sent → Found
  | .error => .error
  | .absent => .absent
  | .boolean b => .boolean b
  | .integer n => .integer (lowBits n)
  | .text s => .text s
  | .array length items => .array length (items.map SentItem.read)
  | .map items => .map (items.map SentItem.read)
  | .other => .other

inductive SentPayload
  | none
  | notMap
  | map (enters : Bool) (find : String → Sent)

def SentPayload.read : SentPayload → Option Payload
  | .none => Option.none
  | .notMap => some .notMap
  | .map enters find => some (.map enters (fun key => (find key).read))

/-! ## Entries of a container -/

def keyedItems {α : Type} : List α → List (α × α)
  | key :: value :: rest => (key, value) :: keyedItems rest
  | _ => []

def SentItem.isText : SentItem → Bool
  | .text _ => true
  | _ => false

def SentItem.integer? : SentItem → Option ℤ
  | .integer n => some n
  | _ => none

def SentItem.boolean? : SentItem → Option Bool
  | .boolean b => some b
  | _ => none

def valuesUnder {α : Type} (value? : SentItem → Option α) (key : String)
    (es : List (SentItem × SentItem)) : List α :=
  es.filterMap (fun e => if e.1 = .text (some key) then value? e.2 else none)

def textFront (es : List (SentItem × SentItem)) : List (SentItem × SentItem) :=
  es.takeWhile (·.1.isText)

section Entries

variable {α : Type} {value? : SentItem → Option α} {key : String}

lemma textFront_text (s : Option String) (value : SentItem) (es : List (SentItem × SentItem)) :
    textFront ((.text s, value) :: es) = (.text s, value) :: textFront es :=
  rfl

lemma textFront_other {tag value : SentItem} (h : tag.isText = false)
    (es : List (SentItem × SentItem)) : textFront ((tag, value) :: es) = [] := by
  rw [textFront, List.takeWhile_cons_of_neg]
  rw [h]
  simp

lemma valuesUnder_hit {x : α} {value : SentItem} (h : value? value = some x)
    (es : List (SentItem × SentItem)) :
    valuesUnder value? key ((.text (some key), value) :: es) = x :: valuesUnder value? key es := by
  rw [valuesUnder, List.filterMap_cons, if_pos rfl, h]
  rfl

lemma valuesUnder_miss {tag : SentItem} (h : tag ≠ .text (some key)) (value : SentItem)
    (es : List (SentItem × SentItem)) :
    valuesUnder value? key ((tag, value) :: es) = valuesUnder value? key es := by
  rw [valuesUnder, List.filterMap_cons, if_neg h]
  rfl

lemma mem_of_mem_front {x : α} {es : List (SentItem × SentItem)}
    (h : x ∈ valuesUnder value? key (textFront es)) : x ∈ valuesUnder value? key es := by
  obtain ⟨e, he, hx⟩ := List.mem_filterMap.mp h
  exact List.mem_filterMap.mpr ⟨e, (List.takeWhile_prefix _).subset he, hx⟩

end Entries

end CborLookup
