/-
A fragment of CBOR: a map of indefinite length whose keys are text strings and whose values are byte
strings, the format of a small key-value file.
-/
import Mathlib.Algebra.BigOperators.Group.List.Basic
import Mathlib.Tactic.Ring
import Mathlib.Data.List.Basic

namespace CborMap

open List

/-- The last `k` bytes of `n`, most significant first. -/
def beBytes : Nat → Nat → List UInt8
  | 0, _ => []
  | k + 1, n => beBytes k (n / 256) ++ [UInt8.ofNat n]

def beNat (l : List UInt8) : Nat :=
  l.foldl (fun n b => 256 * n + b.toNat) 0

@[simp] lemma length_beBytes (k n : Nat) : (beBytes k n).length = k := by
  induction k generalizing n with
  | zero => rfl
  | succ k ih => rw [beBytes, length_append, ih, length_singleton]

lemma beNat_beBytes {k n : Nat} (h : n < 256 ^ k) : beNat (beBytes k n) = n := by
  induction k generalizing n with
  | zero =>
    rw [pow_zero] at h
    have hn : n = 0 := by omega
    rw [hn]
    rfl
  | succ k ih =>
    have hdiv : n / 256 < 256 ^ k := by
      rw [pow_succ] at h
      omega
    have hprefix := ih hdiv
    rw [beNat] at hprefix
    rw [beBytes, beNat, foldl_append, hprefix, foldl_cons, foldl_nil, UInt8.toNat_ofNat']
    omega

/-! ## Heads -/

def encodeHead (major n : Nat) : List UInt8 :=
  if n < 24 then [UInt8.ofNat (32 * major + n)]
  else if n < 256 ^ 1 then UInt8.ofNat (32 * major + 24) :: beBytes 1 n
  else if n < 256 ^ 2 then UInt8.ofNat (32 * major + 25) :: beBytes 2 n
  else if n < 256 ^ 4 then UInt8.ofNat (32 * major + 26) :: beBytes 4 n
  else if n < 256 ^ 8 then UInt8.ofNat (32 * major + 27) :: beBytes 8 n
  else UInt8.ofNat (32 * major + 28) :: (List.replicate n 1 ++ [0])

/-- A length in the `k` bytes that follow. -/
def decodeLength (major k : Nat) (l : List UInt8) : Option (Nat × Nat × List UInt8) :=
  if l.length < k then none else some (major, beNat (l.take k), l.drop k)

def decodeHead : List UInt8 → Option (Nat × Nat × List UInt8)
  | [] => none
  | b :: rest =>
    let major := b.toNat / 32
    let info := b.toNat % 32
    if info < 24 then some (major, info, rest)
    else if info = 24 then decodeLength major 1 rest
    else if info = 25 then decodeLength major 2 rest
    else if info = 26 then decodeLength major 4 rest
    else if info = 27 then decodeLength major 8 rest
    else if info = 28 then
      some (major, (rest.takeWhile (· = 1)).length, (rest.dropWhile (· = 1)).tail)
    else none

lemma decodeLength_append (major : Nat) {k n : Nat} (h : n < 256 ^ k) (rest : List UInt8) :
    decodeLength major k (beBytes k n ++ rest) = some (major, n, rest) := by
  have hlen : ¬ (beBytes k n ++ rest).length < k := by
    rw [length_append, length_beBytes]
    omega
  rw [decodeLength, if_neg hlen, take_left' (length_beBytes k n),
    drop_left' (length_beBytes k n), beNat_beBytes h]

lemma headByte {major info : Nat} (hmajor : major < 8) (hinfo : info < 32) :
    (UInt8.ofNat (32 * major + info)).toNat / 32 = major
      ∧ (UInt8.ofNat (32 * major + info)).toNat % 32 = info := by
  rw [UInt8.toNat_ofNat', Nat.mod_eq_of_lt (by omega)]
  omega

lemma decodeHead_encodeHead {major : Nat} (hmajor : major < 8) (n : Nat) (rest : List UInt8) :
    decodeHead (encodeHead major n ++ rest) = some (major, n, rest) := by
  unfold encodeHead
  split_ifs with h0 h1 h2 h4 h8
  · obtain ⟨hm, hi⟩ := headByte hmajor (show n < 32 by omega)
    rw [singleton_append, decodeHead]
    simp only [hm, hi, if_pos h0]
  · obtain ⟨hm, hi⟩ := headByte hmajor (show 24 < 32 by omega)
    rw [cons_append, decodeHead]
    simp only [hm, hi]
    exact decodeLength_append major h1 rest
  · obtain ⟨hm, hi⟩ := headByte hmajor (show 25 < 32 by omega)
    rw [cons_append, decodeHead]
    simp only [hm, hi]
    exact decodeLength_append major h2 rest
  · obtain ⟨hm, hi⟩ := headByte hmajor (show 26 < 32 by omega)
    rw [cons_append, decodeHead]
    simp only [hm, hi]
    exact decodeLength_append major h4 rest
  · obtain ⟨hm, hi⟩ := headByte hmajor (show 27 < 32 by omega)
    rw [cons_append, decodeHead]
    simp only [hm, hi]
    exact decodeLength_append major h8 rest
  obtain ⟨hm, hi⟩ := headByte hmajor (show 28 < 32 by omega)
  have htake : (List.replicate n (1 : UInt8) ++ 0 :: rest).takeWhile (· = 1)
      = List.replicate n 1 := by
    simp
  have hdrop : (List.replicate n (1 : UInt8) ++ 0 :: rest).dropWhile (· = 1) = 0 :: rest := by
    simp
  rw [cons_append, append_assoc, singleton_append, decodeHead]
  simp only [hm, hi]
  rw [htake, hdrop, length_replicate]
  rfl

lemma length_encodeHead_le (major : Nat) {n : Nat} (h : n < 256 ^ 8) :
    (encodeHead major n).length ≤ 9 := by
  unfold encodeHead
  split_ifs <;> simp

/-! ## Maps -/

inductive Found
  | missing
  | value (bytes : List UInt8)
  | broken
  deriving DecidableEq

def keyBytes (key : String) : List UInt8 := key.toUTF8.data.toList

lemma keyBytes_inj {a b : String} : keyBytes a = keyBytes b ↔ a = b := by
  constructor
  · intro h
    have hdata : a.toUTF8.data = b.toUTF8.data := Array.toList_inj.mp h
    exact String.toByteArray_inj.mp (ByteArray.ext hdata)
  · exact fun h => congrArg keyBytes h

def encodeEntry (entry : String × List UInt8) : List UInt8 :=
  encodeHead 3 (keyBytes entry.1).length ++ keyBytes entry.1
    ++ (encodeHead 2 entry.2.length ++ entry.2)

variable (entries : List (String × List UInt8))

def encodeMap : List UInt8 :=
  0xbf :: (entries.flatMap encodeEntry ++ [0xff])

/-- Walk over the entries, at most `fuel` of them. -/
def findEntry (key : List UInt8) : Nat → List UInt8 → Found
  | 0, _ => .missing
  | fuel + 1, l =>
    if l.head? = some 0xff then .missing
    else
      match decodeHead l with
      | some (3, n, l₁) =>
        match decodeHead (l₁.drop n) with
        | some (2, m, l₂) =>
          if m ≤ l₂.length then
            if l₁.take n = key then .value (l₂.take m) else findEntry key fuel (l₂.drop m)
          else if l₁.take n = key then .broken
          else .missing
        | _ => .missing
      | _ => .missing

def find (doc : List UInt8) (key : String) : Found :=
  match doc with
  | [] => .missing
  | b :: rest => if b = 0xbf then findEntry (keyBytes key) rest.length rest else .missing

lemma encodeHead_ne_nil (major n : Nat) : encodeHead major n ≠ [] := by
  unfold encodeHead
  split_ifs <;> simp

lemma head?_encodeHead_text (n : Nat) (rest : List UInt8) :
    (encodeHead 3 n ++ rest).head? ≠ some 0xff := by
  intro h
  have hdecode := decodeHead_encodeHead (show 3 < 8 by omega) n rest
  cases hcons : encodeHead 3 n ++ rest with
  | nil => exact encodeHead_ne_nil 3 n (append_eq_nil_iff.mp hcons).1
  | cons b tail =>
    rw [hcons, head?_cons, Option.some.injEq] at h
    rw [hcons, h] at hdecode
    simp [decodeHead] at hdecode

lemma findEntry_encodeEntry (key : List UInt8) (fuel : Nat) (entry : String × List UInt8)
    (rest : List UInt8) :
    findEntry key (fuel + 1) (encodeEntry entry ++ rest)
      = if keyBytes entry.1 = key then .value entry.2 else findEntry key fuel rest := by
  have hhead : encodeEntry entry ++ rest = encodeHead 3 (keyBytes entry.1).length
      ++ (keyBytes entry.1 ++ (encodeHead 2 entry.2.length ++ (entry.2 ++ rest))) := by
    simp [encodeEntry]
  rw [hhead, findEntry, if_neg (head?_encodeHead_text _ _), decodeHead_encodeHead (by omega)]
  simp only [drop_left, take_left, decodeHead_encodeHead (show 2 < 8 by omega)]
  rw [if_pos (by rw [length_append]; omega)]

lemma findEntry_entries (key : String) (entries : List (String × List UInt8)) (fuel : Nat)
    (hfuel : entries.length < fuel) :
    findEntry (keyBytes key) fuel (entries.flatMap encodeEntry ++ [0xff])
      = match entries.find? (·.1 == key) with
        | some e => .value e.2
        | none => .missing := by
  induction entries generalizing fuel with
  | nil =>
    obtain ⟨fuel, rfl⟩ : ∃ f, fuel = f + 1 := ⟨fuel - 1, by
      rw [length_nil] at hfuel
      omega⟩
    rfl
  | cons entry entries ih =>
    obtain ⟨fuel, rfl⟩ : ∃ f, fuel = f + 1 := ⟨fuel - 1, by omega⟩
    rw [flatMap_cons, append_assoc, findEntry_encodeEntry, find?_cons]
    by_cases hkey : entry.1 = key
    · simp [hkey]
    rw [if_neg (fun h => hkey (keyBytes_inj.mp h)), beq_eq_false_iff_ne.mpr hkey]
    refine ih fuel ?_
    rw [length_cons] at hfuel
    omega

lemma length_le_flatMap : entries.length ≤ (entries.flatMap encodeEntry).length := by
  induction entries with
  | nil => exact Nat.le_refl _
  | cons entry entries ih =>
    have hpos : 0 < (encodeEntry entry).length := by
      rw [encodeEntry, length_append, length_append]
      have hhead := length_pos_of_ne_nil (encodeHead_ne_nil 3 (keyBytes entry.1).length)
      omega
    rw [flatMap_cons, length_append, length_cons]
    omega

lemma find_encodeMap (key : String) :
    find (encodeMap entries) key
      = match entries.find? (·.1 == key) with
        | some e => .value e.2
        | none => .missing := by
  unfold find encodeMap
  dsimp only
  rw [if_pos rfl]
  apply findEntry_entries
  have hle := length_le_flatMap entries
  rw [length_append, length_singleton]
  omega

lemma encodeMap_ne_nil : encodeMap entries ≠ [] :=
  cons_ne_nil _ _

/-! ## Buffers -/

def sizeBound : Nat :=
  2 + (entries.map (fun e => 18 + (keyBytes e.1).length + e.2.length)).sum

def Representable : Prop :=
  ∀ e ∈ entries, (keyBytes e.1).length < 256 ^ 8 ∧ e.2.length < 256 ^ 8

instance (entries : List (String × List UInt8)) : Decidable (Representable entries) :=
  inferInstanceAs (Decidable (∀ e ∈ entries, _ ∧ _))

/-- Encode into a buffer of `capacity` bytes; what does not fit is cut off. -/
def encodeInto (capacity : Nat) (entries : List (String × List UInt8)) : List UInt8 :=
  if Representable entries then (encodeMap entries).take capacity else encodeMap entries

lemma length_encodeMap_le {entries : List (String × List UInt8)} (h : Representable entries) :
    (encodeMap entries).length ≤ sizeBound entries := by
  have hentries : (entries.flatMap encodeEntry).length
      ≤ (entries.map (fun e => 18 + (keyBytes e.1).length + e.2.length)).sum := by
    induction entries with
    | nil => exact Nat.le_refl _
    | cons e entries ih =>
      have hrest := ih (fun e' he' => h e' (mem_cons_of_mem _ he'))
      obtain ⟨hkey, hvalue⟩ := h e mem_cons_self
      have hhead := length_encodeHead_le 3 hkey
      have hhead' := length_encodeHead_le 2 hvalue
      rw [flatMap_cons, length_append, map_cons, sum_cons, encodeEntry,
        length_append, length_append, length_append]
      omega
  rw [encodeMap, sizeBound, length_cons, length_append, length_singleton]
  omega

lemma encodeInto_eq {capacity : Nat} {entries : List (String × List UInt8)}
    (h : sizeBound entries ≤ capacity) : encodeInto capacity entries = encodeMap entries := by
  unfold encodeInto
  split_ifs with hrep
  · exact take_of_length_le (Nat.le_trans (length_encodeMap_le hrep) h)
  · rfl

end CborMap

namespace CborFields

open CborMap (encodeHead decodeHead decodeHead_encodeHead keyBytes keyBytes_inj)
open List

inductive Field
  | int (n : ℕ)
  | text (bytes : List UInt8)
  | texts (texts : List (List UInt8))

def writeText (bytes : List UInt8) : List UInt8 := encodeHead 3 bytes.length ++ bytes

def writeField : Field → List UInt8
  | .int n => encodeHead 0 n
  | .text bytes => writeText bytes
  | .texts texts => encodeHead 4 texts.length ++ texts.flatMap writeText

def writeEntry (entry : String × Field) : List UInt8 :=
  writeText (keyBytes entry.1) ++ writeField entry.2

variable (entries : List (String × Field))

def writeMap : List UInt8 :=
  encodeHead 5 entries.length ++ entries.flatMap writeEntry

/-- What is said of a key: the map is malformed before it, it is not there, or its value. A text
that cannot be read is `text none`. -/
inductive Answer
  | error
  | absent
  | int (n : Int)
  | text (bytes : Option (List UInt8))
  | other
  deriving DecidableEq

/-- What a decoder is given: no map, or a map with the answers to all keys. The map may still fail
to be entered. -/
inductive Payload
  | notMap
  | map (enters : Bool) (find : String → Answer)

def answerAt (l : List UInt8) : Answer :=
  match decodeHead l with
  | none => .error
  | some (major, n, rest) =>
    if major = 0 then .int n
    else if major = 1 then .int (-1 - n)
    else if major = 3 then .text (if n ≤ rest.length then some (rest.take n) else none)
    else .other

def passOver (l : List UInt8) : Option (List UInt8) :=
  match decodeHead l with
  | none => none
  | some (major, n, rest) =>
    if major = 0 ∨ major = 1 then some rest
    else if major = 3 ∧ n ≤ rest.length then some (rest.drop n)
    else none

def find (key : List UInt8) : ℕ → List UInt8 → Answer
  | 0, _ => .absent
  | entries + 1, l =>
    match decodeHead l with
    | none => .error
    | some (major, n, rest) =>
      if major ≠ 3 then .error
      else if rest.take n = key then answerAt (rest.drop n)
      else
        match passOver (rest.drop n) with
        | none => .error
        | some behind => find key entries behind

def read (l : List UInt8) : Payload :=
  match decodeHead l with
  | none => .notMap
  | some (major, entries, rest) =>
    if major = 5 then .map true (fun key => find (keyBytes key) entries rest) else .notMap

/-! ## A field is found -/

def Field.Plain : Field → Prop
  | .int _ => True
  | .text _ => True
  | .texts _ => False

def Field.answer : Field → Answer
  | .int n => .int n
  | .text bytes => .text (some bytes)
  | .texts _ => .other

lemma answerAt_writeField (field : Field) (rest : List UInt8) :
    answerAt (writeField field ++ rest) = field.answer := by
  cases field with
  | int n =>
    rw [writeField, answerAt, decodeHead_encodeHead (by decide)]
    rfl
  | text bytes =>
    rw [writeField, writeText, answerAt, append_assoc, decodeHead_encodeHead (by decide)]
    dsimp only
    rw [if_neg (by decide), if_neg (by decide), if_pos rfl, if_pos (by simp), take_left' rfl]
    rfl
  | texts texts =>
    rw [writeField, answerAt, append_assoc, decodeHead_encodeHead (by decide)]
    rfl

lemma passOver_writeField {field : Field} (h : field.Plain) (rest : List UInt8) :
    passOver (writeField field ++ rest) = some rest := by
  cases field with
  | int n =>
    rw [writeField, passOver, decodeHead_encodeHead (by decide)]
    simp
  | text bytes =>
    rw [writeField, writeText, passOver, append_assoc, decodeHead_encodeHead (by decide)]
    dsimp only
    rw [if_neg (by decide), if_pos ⟨rfl, by simp⟩, drop_left' rfl]
  | texts texts => exact absurd h id

lemma find_writeEntry (key : List UInt8) (entries : ℕ) (entry : String × Field)
    (rest : List UInt8) :
    find key (entries + 1) (writeEntry entry ++ rest)
      = if keyBytes entry.1 = key then answerAt (writeField entry.2 ++ rest)
        else
          match passOver (writeField entry.2 ++ rest) with
          | none => .error
          | some behind => find key entries behind := by
  rw [find, writeEntry, writeText, append_assoc, append_assoc, decodeHead_encodeHead (by decide)]
  dsimp only
  rw [if_neg (· rfl), take_left' rfl, drop_left' rfl]

lemma find_fields {key : String} {before : List (String × Field)}
    (h : ∀ entry ∈ before, entry.1 ≠ key ∧ entry.2.Plain) (field : Field) (entries : ℕ)
    (rest : List UInt8) :
    find (keyBytes key) (before.length + (entries + 1))
        (before.flatMap writeEntry ++ (writeEntry (key, field) ++ rest)) = field.answer := by
  induction before with
  | nil =>
    rw [length_nil, Nat.zero_add, flatMap_nil, nil_append, find_writeEntry,
      if_pos rfl, answerAt_writeField]
  | cons entry before ih =>
    obtain ⟨⟨hkey, hplain⟩, hbefore⟩ := forall_mem_cons.mp h
    rw [length_cons, Nat.add_right_comm, flatMap_cons, append_assoc,
      find_writeEntry, if_neg (fun heq => hkey (keyBytes_inj.mp heq)),
      passOver_writeField hplain]
    exact ih hbefore

lemma find_entries {key : String} (before : List (String × Field))
    (h : ∀ entry ∈ before, entry.1 ≠ key ∧ entry.2.Plain) (field : Field)
    (after : List (String × Field)) :
    find (keyBytes key) (before ++ (key, field) :: after).length
        ((before ++ (key, field) :: after).flatMap writeEntry) = field.answer := by
  rw [length_append, length_cons, flatMap_append, flatMap_cons]
  exact find_fields h field after.length (after.flatMap writeEntry)

lemma read_writeMap :
    read (writeMap entries)
      = .map true (fun key => find (keyBytes key) entries.length (entries.flatMap writeEntry)) := by
  rw [read, writeMap, decodeHead_encodeHead (by decide)]
  exact if_pos rfl

lemma writeMap_ne_nil : writeMap entries ≠ [] := by
  rw [writeMap]
  exact append_ne_nil_of_left_ne_nil (CborMap.encodeHead_ne_nil 5 entries.length) _

end CborFields

namespace CborItem

/-- A data item. The items of a map are its keys and values in turn; an item of
any other type has no content here. -/
inductive Item
  | uint (n : UInt64)
  | text (s : String)
  | array (items : List Item)
  | map (items : List Item)
  | other

def Item.content : Item → Option (List Item)
  | .array items => some items
  | .map items => some items
  | _ => none

def flatten (entries : List (String × Item)) : List Item :=
  entries.flatMap (fun e => [.text e.1, e.2])

def closeArray (declared : Nat) (items : List Item) : Option Item :=
  if items.length = declared then some (.array items) else none

def closeMap (declared : Nat) (entries : List (String × Item)) : Option Item :=
  if entries.length = declared then some (.map (flatten entries)) else none

lemma closeArray_length (items : List Item) :
    closeArray items.length items = some (.array items) :=
  if_pos rfl

lemma closeMap_eq {declared : Nat} {entries : List (String × Item)}
    (h : entries.length = declared) : closeMap declared entries = some (.map (flatten entries)) :=
  if_pos h

/-! ## Reading -/

section Walk

variable {σ ε : Type}

inductive Fate (ε : Type)
  | skip
  | leave
  | finish (ending : ε)

def walk (fate : Item → Fate ε) (body : σ → String → Option Item → σ × Option ε) :
    σ → List Item → σ × Option ε
  | s, [] => (s, none)
  | s, [.text key] => body s key none
  | s, .text key :: value :: rest =>
    match body s key (some value) with
    | (s', none) => walk fate body s' rest
    | (s', some e) => (s', some e)
  | s, item :: rest =>
    match fate item with
    | .skip => walk fate body s rest
    | .leave => (s, none)
    | .finish e => (s, some e)

def each (body : σ → Item → σ × Option ε) : σ → List Item → σ × Option ε
  | s, [] => (s, none)
  | s, item :: rest =>
    match body s item with
    | (s', none) => each body s' rest
    | (s', some e) => (s', some e)

def eachEntry (body : σ → String → Option Item → σ × Option ε) :
    σ → List (String × Item) → σ × Option ε
  | s, [] => (s, none)
  | s, (key, value) :: rest =>
    match body s key (some value) with
    | (s', none) => eachEntry body s' rest
    | (s', some e) => (s', some e)

variable {fate : Item → Fate ε} {body : σ → String → Option Item → σ × Option ε}

lemma walk_flatten (s : σ) (entries : List (String × Item)) :
    walk fate body s (flatten entries) = eachEntry body s entries := by
  induction entries generalizing s with
  | nil => rfl
  | cons e rest ih =>
    obtain ⟨key, value⟩ := e
    have hcons : flatten ((key, value) :: rest) = .text key :: value :: flatten rest := rfl
    rw [hcons, walk, eachEntry]
    rcases body s key (some value) with ⟨s', _ | ending⟩
    · exact ih s'
    · rfl

lemma eachEntry_append {s s' : σ} {entries : List (String × Item)}
    (h : eachEntry body s entries = (s', none)) (rest : List (String × Item)) :
    eachEntry body s (entries ++ rest) = eachEntry body s' rest := by
  induction entries generalizing s with
  | nil =>
    rw [eachEntry, Prod.mk.injEq] at h
    simp [h]
  | cons e entries ih =>
    obtain ⟨key, value⟩ := e
    rw [List.cons_append, eachEntry]
    rw [eachEntry] at h
    rcases hbody : body s key (some value) with ⟨t, _ | ending⟩
    · rw [hbody] at h
      exact ih h
    rw [hbody] at h
    simp at h

lemma each_append {α : Type} (body : σ → Item → σ × Option ε) (encode : α → Item)
    (extend : σ → List α → σ) (hnil : ∀ s, extend s [] = s)
    (hcons : ∀ s a l, extend (extend s [a]) l = extend s (a :: l))
    (s : σ) (values : List α)
    (hbody : ∀ t, ∀ a ∈ values, body t (encode a) = (extend t [a], none)) :
    each body s (values.map encode) = (extend s values, none) := by
  induction values generalizing s with
  | nil => rw [List.map_nil, each, hnil]
  | cons a values ih =>
    rw [List.map_cons, each, hbody s a (List.mem_cons_self)]
    have htail := ih (extend s [a]) (fun t b hb => hbody t b (List.mem_cons_of_mem a hb))
    simp only
    rw [htail, hcons]

end Walk

end CborItem

namespace CborBytes

open CborItem (Item)
open CborMap (encodeHead decodeHead decodeHead_encodeHead keyBytes)
open List

variable {fuel : ℕ} {items : List Item}

mutual

def write : Item → List UInt8
  | .uint n => encodeHead 0 n.toNat
  | .text s => encodeHead 3 (keyBytes s).length ++ keyBytes s
  | .array items => encodeHead 4 items.length ++ writeAll items
  | .map items => encodeHead 5 (items.length / 2) ++ writeAll items
  | .other => [0xf6]

def writeAll : List Item → List UInt8
  | [] => []
  | item :: items => write item ++ writeAll items

end

def readMany (read : List UInt8 → Option (Item × List UInt8)) :
    ℕ → List UInt8 → Option (List Item × List UInt8)
  | 0, l => some ([], l)
  | n + 1, l => do
      let first ← read l
      let later ← readMany read n first.2
      pure (first.1 :: later.1, later.2)

def textOf (bytes : List UInt8) : Option String := String.fromUTF8? ⟨bytes.toArray⟩

def readItem : ℕ → List UInt8 → Option (Item × List UInt8)
  | 0, _ => none
  | fuel + 1, l =>
    match decodeHead l with
    | none => none
    | some (major, n, rest) =>
      if major = 0 then some (.uint (UInt64.ofNat n), rest)
      else if major = 3 then (textOf (rest.take n)).map (fun s => (.text s, rest.drop n))
      else if major = 4 then
        (readMany (readItem fuel) n rest).map (fun r => (.array r.1, r.2))
      else if major = 5 then
        (readMany (readItem fuel) (2 * n) rest).map (fun r => (.map r.1, r.2))
      else some (.other, rest)

def Reads (fuel : ℕ) (item : Item) : Prop :=
  ∀ rest, readItem fuel (write item ++ rest) = some (item, rest)

lemma textOf_keyBytes (s : String) : textOf (keyBytes s) = some s := by
  unfold textOf keyBytes String.fromUTF8?
  have hbytes : (⟨s.toUTF8.data.toList.toArray⟩ : ByteArray) = s.toByteArray := rfl
  rw [hbytes, dif_pos s.isValidUTF8]
  rfl

lemma readMany_writeAll (h : ∀ item ∈ items, Reads fuel item) (rest : List UInt8) :
    readMany (readItem fuel) items.length (writeAll items ++ rest) = some (items, rest) := by
  induction items with
  | nil => rfl
  | cons item items ih =>
    obtain ⟨hitem, hitems⟩ := forall_mem_cons.mp h
    rw [length_cons, readMany, writeAll, append_assoc, hitem]
    dsimp only [bind, Option.bind]
    rw [ih hitems]
    rfl

lemma reads_text (fuel : ℕ) (s : String) : Reads (fuel + 1) (.text s) := by
  intro rest
  rw [readItem, write, append_assoc, decodeHead_encodeHead (by omega)]
  dsimp only
  rw [if_neg (by omega), if_pos rfl, take_left, drop_left, textOf_keyBytes]
  rfl

lemma reads_array (h : ∀ item ∈ items, Reads fuel item) :
    Reads (fuel + 1) (.array items) := by
  intro rest
  rw [readItem, write, append_assoc, decodeHead_encodeHead (by omega)]
  dsimp only
  rw [if_neg (by omega), if_neg (by omega), if_pos rfl, readMany_writeAll h]
  rfl

lemma reads_map (heven : 2 * (items.length / 2) = items.length)
    (h : ∀ item ∈ items, Reads fuel item) : Reads (fuel + 1) (.map items) := by
  intro rest
  rw [readItem, write, append_assoc, decodeHead_encodeHead (by omega)]
  dsimp only
  rw [if_neg (by omega), if_neg (by omega), if_neg (by omega), if_pos rfl, heven,
    readMany_writeAll h]
  rfl

lemma write_ne_nil (item : Item) : write item ≠ [] := by
  cases item with
  | uint n => exact CborMap.encodeHead_ne_nil 0 n.toNat
  | text s =>
    rw [write]
    exact fun h => CborMap.encodeHead_ne_nil 3 _ (append_eq_nil_iff.mp h).1
  | array items =>
    rw [write]
    exact fun h => CborMap.encodeHead_ne_nil 4 _ (append_eq_nil_iff.mp h).1
  | map items =>
    rw [write]
    exact fun h => CborMap.encodeHead_ne_nil 5 _ (append_eq_nil_iff.mp h).1
  | other => exact cons_ne_nil _ _

end CborBytes
