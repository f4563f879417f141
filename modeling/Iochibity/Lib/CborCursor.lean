/-
Going over CBOR data with an iterator that may fail at any step.
-/
import Iochibity.Lib.CborItem

namespace CborCursor

open CborMap (encodeHead decodeHead decodeHead_encodeHead)
open List

inductive Item
  | text (bytes : Option (List UInt8))
  | array (length : Option ℕ) (items : List Item)
  | map (items : List Item)
  | other
  | malformed

def Item.content : Item → Option (List Item)
  | .array _ items => some items
  | .map items => some items
  | _ => none

def Item.passes : ℕ → Item → Bool
  | _, .text bytes => bytes.isSome
  | _, .other => true
  | _, .malformed => false
  | 0, .array _ _ => false
  | 0, .map _ => false
  | budget + 1, .array _ items => items.all (Item.passes budget)
  | budget + 1, .map items => items.all (Item.passes budget)

def maxRecursions : ℕ := 1024

def startsMalformed : List Item → Bool
  | .malformed :: _ => true
  | _ => false

def advances (item : Item) (rest : List Item) : Bool :=
  item.passes maxRecursions && !startsMalformed rest

def lookup (isKey : List UInt8 → Bool) : List Item → Option Item
  | .text (some key) :: value :: rest => if isKey key then some value else lookup isKey rest
  | _ :: _ :: rest => lookup isKey rest
  | _ => none

inductive Stop (ε : Type)
  | error
  | assertion
  | ending (e : ε)
  deriving DecidableEq

section Loops

variable {ε σ τ : Type}

def enter (item : Option Item) : Except (Stop ε) (List Item) :=
  match item.bind Item.content with
  | none => .error .assertion
  | some items => if startsMalformed items then .error .error else .ok items

def dupText : Option Item → Except (Stop ε) (List UInt8)
  | some (.text (some bytes)) => .ok bytes
  | some (.text none) => .error .error
  | _ => .error .assertion

def andThen (first : σ × Option (Stop ε)) (after : σ → σ × Option (Stop ε)) :
    σ × Option (Stop ε) :=
  match first.2 with
  | some stop => (first.1, some stop)
  | none => after first.1

/-- The loop over the items of a map: the body gets the key and what is behind it. A key that is
not a text ends the loop. -/
def walk (body : σ → List UInt8 → Option Item → σ × Option (Stop ε)) :
    σ → List Item → σ × Option (Stop ε)
  | s, .text none :: _ => (s, some .error)
  | s, [.text (some key)] => body s key none
  | s, .text (some key) :: value :: rest =>
    if startsMalformed [value] then (s, some .error)
    else
      andThen (body s key (some value)) fun s' =>
        if advances value rest then walk body s' rest else (s', some .error)
  | s, _ => (s, none)

def each (body : σ → Item → σ × Option (Stop ε)) : σ → List Item → σ × Option (Stop ε)
  | s, [] => (s, none)
  | s, item :: rest =>
    andThen (body s item) fun s' =>
      if advances item rest then each body s' rest else (s', some .error)

/-! ## With and without limits -/

structure Agrees (R : σ → τ → Prop) (Fits : τ → Prop) (tooMuch : ε)
    (limited : σ × Option (Stop ε)) (free : τ × Option (Stop ε)) : Prop where
  fit : Fits free.1 → R limited.1 free.1 ∧ limited.2 = free.2
  unfit : ¬ Fits free.1 → limited.2 = some (.ending tooMuch)

variable {R : σ → τ → Prop} {Fits : τ → Prop} {tooMuch : ε}

lemma Agrees.same {s : σ} {t : τ} (ht : Fits t) (h : R s t) (stop : Option (Stop ε)) :
    Agrees R Fits tooMuch (s, stop) (t, stop) where
  fit := fun _ => ⟨h, rfl⟩
  unfit := fun hno => absurd ht hno

lemma Agrees.andThen {limited : σ × Option (Stop ε)} {free : τ × Option (Stop ε)}
    {after : σ → σ × Option (Stop ε)} {afterFree : τ → τ × Option (Stop ε)}
    (h : Agrees R Fits tooMuch limited free) (hmono : Fits (andThen free afterFree).1 → Fits free.1)
    (hnext : ∀ s t, Fits t → R s t → Agrees R Fits tooMuch (after s) (afterFree t)) :
    Agrees R Fits tooMuch (andThen limited after) (CborCursor.andThen free afterFree) := by
  obtain ⟨s, stop⟩ := limited
  obtain ⟨t, stop'⟩ := free
  by_cases hfit : Fits t
  · obtain ⟨hR, hstop⟩ := h.fit hfit
    dsimp only at hR hstop
    subst hstop
    cases stop with
    | some stop => exact Agrees.same hfit hR _
    | none => exact hnext s t hfit hR
  have hstop := h.unfit hfit
  dsimp only at hstop
  subst hstop
  exact ⟨fun hno => absurd (hmono hno) hfit, fun _ => rfl⟩

section Walk

variable {body : σ → List UInt8 → Option Item → σ × Option (Stop ε)}
  {bodyFree : τ → List UInt8 → Option Item → τ × Option (Stop ε)}

lemma walk_mono (hmono : ∀ t key value, Fits (bodyFree t key value).1 → Fits t) :
    ∀ (items : List Item) (t : τ), Fits (walk bodyFree t items).1 → Fits t := by
  intro items t
  fun_induction walk bodyFree t items with
  | case1 => exact id
  | case2 t key => exact hmono t key none
  | case3 => exact id
  | case4 t key value rest _ ih =>
    intro h
    apply hmono t key (some value)
    rw [andThen] at h
    split at h
    · exact h
    split_ifs at h with hadvances
    · exact ih _ h
    · exact h
  | case5 => exact id

lemma walk_agrees (hmono : ∀ t key value, Fits (bodyFree t key value).1 → Fits t)
    (hbody : ∀ s t key value, Fits t → R s t →
      Agrees R Fits tooMuch (body s key value) (bodyFree t key value)) :
    ∀ (items : List Item) (s : σ) (t : τ), Fits t → R s t →
      Agrees R Fits tooMuch (walk body s items) (walk bodyFree t items) := by
  intro items s
  fun_induction walk body s items with
  | case1 s rest =>
    intro t ht hR
    rw [walk]
    exact Agrees.same ht hR _
  | case2 s key =>
    intro t ht hR
    rw [walk]
    exact hbody s t key none ht hR
  | case3 s key value rest hmalformed =>
    intro t ht hR
    rw [walk, if_pos hmalformed]
    exact Agrees.same ht hR _
  | case4 s key value rest hmalformed ih =>
    intro t ht hR
    have hfits : Fits (walk bodyFree t (.text (some key) :: value :: rest)).1 →
        Fits (bodyFree t key (some value)).1 := by
      rw [walk, if_neg hmalformed, CborCursor.andThen]
      split
      · exact id
      split_ifs
      · exact walk_mono hmono rest _
      · exact id
    rw [walk, if_neg hmalformed] at hfits ⊢
    apply (hbody s t key (some value) ht hR).andThen hfits
    intro s' t' ht' hR'
    split_ifs with hadvances
    · exact ih s' t' ht' hR'
    · exact Agrees.same ht' hR' _
  | case5 s items hcut hlast hnext =>
    intro t ht hR
    rw [walk]
    · exact Agrees.same ht hR _
    · exact hcut
    · exact hlast
    · exact hnext

end Walk

section Each

variable {body : σ → Item → σ × Option (Stop ε)} {bodyFree : τ → Item → τ × Option (Stop ε)}

lemma each_mono (hmono : ∀ t item, Fits (bodyFree t item).1 → Fits t) :
    ∀ (items : List Item) (t : τ), Fits (each bodyFree t items).1 → Fits t := by
  intro items
  induction items with
  | nil => exact fun _ => id
  | cons item rest ih =>
    intro t h
    apply hmono t item
    rw [each, andThen] at h
    split at h
    · exact h
    split_ifs at h with hadvances
    · exact ih _ h
    · exact h

lemma each_agrees (hmono : ∀ t item, Fits (bodyFree t item).1 → Fits t)
    (hbody : ∀ s t item, Fits t → R s t → Agrees R Fits tooMuch (body s item) (bodyFree t item)) :
    ∀ (items : List Item) (s : σ) (t : τ), Fits t → R s t →
      Agrees R Fits tooMuch (each body s items) (each bodyFree t items) := by
  intro items
  induction items with
  | nil => exact fun s t ht hR => Agrees.same ht hR _
  | cons item rest ih =>
    intro s t ht hR
    have hfits : Fits (each bodyFree t (item :: rest)).1 → Fits (bodyFree t item).1 := by
      rw [each, CborCursor.andThen]
      split
      · exact id
      split_ifs
      · exact each_mono hmono rest _
      · exact id
    rw [each] at hfits ⊢
    apply (hbody s t item ht hR).andThen hfits
    intro s' t' ht' hR'
    split_ifs with hadvances
    · exact ih s' t' ht' hR'
    · exact Agrees.same ht' hR' _

end Each

/-! ## A loop that is not stopped -/

lemma not_startsMalformed {budget : ℕ} {item : Item} (h : item.passes budget = true)
    (rest : List Item) : (!startsMalformed (item :: rest)) = true := by
  cases item with
  | malformed =>
    rw [Item.passes] at h
    simp at h
  | text bytes => rfl
  | array length items => rfl
  | map items => rfl
  | other => rfl

section Walk

variable {body : σ → List UInt8 → Option Item → σ × Option (Stop ε)} {s s' : σ}
  {key : List UInt8} {value : Item} {rest : List Item}

lemma walk_nil : walk body s [] = (s, none) := rfl

lemma walk_stop {stop : Stop ε} (hpasses : value.passes maxRecursions = true)
    (hbody : body s key (some value) = (s', some stop)) :
    walk body s (.text (some key) :: value :: rest) = (s', some stop) := by
  have hvalue := not_startsMalformed hpasses []
  rw [Bool.not_eq_true'] at hvalue
  rw [walk, hvalue, if_neg Bool.false_ne_true, hbody, CborCursor.andThen]

lemma walk_step (hpasses : value.passes maxRecursions = true)
    (hrest : startsMalformed rest = false) (hbody : body s key (some value) = (s', none)) :
    walk body s (.text (some key) :: value :: rest) = walk body s' rest := by
  have hvalue := not_startsMalformed hpasses []
  rw [Bool.not_eq_true'] at hvalue
  have hadvances : advances value rest = true := by
    rw [advances, hpasses, hrest]
    rfl
  rw [walk, hvalue, if_neg Bool.false_ne_true, hbody, CborCursor.andThen]
  dsimp only
  rw [if_pos hadvances]

end Walk

lemma each_append {α : Type} (body : σ → Item → σ × Option (Stop ε)) (encode : α → Item)
    (extend : σ → List α → σ) (hnil : ∀ s, extend s [] = s)
    (hcons : ∀ s a l, extend (extend s [a]) l = extend s (a :: l))
    (hpasses : ∀ a, (encode a).passes maxRecursions = true)
    (hbody : ∀ s a, body s (encode a) = (extend s [a], none)) (s : σ) (l : List α) :
    each body s (l.map encode) = (extend s l, none) := by
  induction l generalizing s with
  | nil => rw [map_nil, each, hnil]
  | cons a l ih =>
    have hadvances : advances (encode a) (l.map encode) = true := by
      rw [advances, hpasses, Bool.true_and]
      cases l with
      | nil => rfl
      | cons b l => exact not_startsMalformed (hpasses b) _
    rw [map_cons, each, hbody, CborCursor.andThen]
    dsimp only
    rw [if_pos hadvances, ih, hcons]

end Loops

/-! ## Bytes -/

mutual

def write : Item → List UInt8
  | .text (some bytes) => encodeHead 3 bytes.length ++ bytes
  | .array _ items => encodeHead 4 items.length ++ writeAll items
  | .map items => encodeHead 5 (items.length / 2) ++ writeAll items
  | .other => [0xf6]
  | .text none => []
  | .malformed => []

def writeAll : List Item → List UInt8
  | [] => []
  | item :: items => write item ++ writeAll items

end

def readMany (read : List UInt8 → Item × List UInt8) : ℕ → List UInt8 → List Item × List UInt8
  | 0, l => ([], l)
  | n + 1, l =>
    match read l with
    | (.malformed, rest) => ([.malformed], rest)
    | (item, rest) => (item :: (readMany read n rest).1, (readMany read n rest).2)

def readItem : ℕ → List UInt8 → Item × List UInt8
  | 0, _ => (.malformed, [])
  | fuel + 1, l =>
    match decodeHead l with
    | none => (.malformed, [])
    | some (major, n, rest) =>
      if major = 3 then
        if n ≤ rest.length then (.text (some (rest.take n)), rest.drop n) else (.text none, [])
      else if major = 4 then
        (.array (some n) (readMany (readItem fuel) n rest).1, (readMany (readItem fuel) n rest).2)
      else if major = 5 then
        (.map (readMany (readItem fuel) (2 * n) rest).1, (readMany (readItem fuel) (2 * n) rest).2)
      else (.other, rest)

def Reads (fuel : ℕ) (item : Item) : Prop :=
  item.passes maxRecursions = true ∧ ∀ rest, readItem fuel (write item ++ rest) = (item, rest)

variable {fuel : ℕ} {items : List Item}

lemma readMany_writeAll (h : ∀ item ∈ items, Reads fuel item) (rest : List UInt8) :
    readMany (readItem fuel) items.length (writeAll items ++ rest) = (items, rest) := by
  induction items with
  | nil => rfl
  | cons item items ih =>
    obtain ⟨⟨hpasses, hitem⟩, hitems⟩ := forall_mem_cons.mp h
    rw [length_cons, readMany, writeAll, append_assoc, hitem]
    split
    · next heq =>
      rw [(Prod.mk.inj heq).1] at hpasses
      exact absurd hpasses Bool.false_ne_true
    next heq =>
    obtain ⟨rfl, rfl⟩ := Prod.mk.inj heq
    rw [ih hitems]

lemma reads_text (fuel : ℕ) (bytes : List UInt8) : Reads (fuel + 1) (.text (some bytes)) := by
  refine ⟨rfl, fun rest => ?_⟩
  rw [readItem, write, append_assoc, decodeHead_encodeHead (by omega)]
  dsimp only
  simp

lemma reads_array (hpasses : (Item.array (some items.length) items).passes maxRecursions = true)
    (h : ∀ item ∈ items, Reads fuel item) :
    Reads (fuel + 1) (.array (some items.length) items) := by
  refine ⟨hpasses, fun rest => ?_⟩
  rw [readItem, write, append_assoc, decodeHead_encodeHead (by omega)]
  dsimp only
  rw [if_neg (by omega), if_pos rfl, readMany_writeAll h]

lemma reads_map (heven : 2 * (items.length / 2) = items.length)
    (hpasses : (Item.map items).passes maxRecursions = true)
    (h : ∀ item ∈ items, Reads fuel item) : Reads (fuel + 1) (.map items) := by
  refine ⟨hpasses, fun rest => ?_⟩
  rw [readItem, write, append_assoc, decodeHead_encodeHead (by omega)]
  dsimp only
  rw [if_neg (by omega), if_neg (by omega), if_pos rfl, heven, readMany_writeAll h]

end CborCursor

namespace CborScan

open CborCursor (Stop andThen maxRecursions)
open List

inductive Item
  | uint (n : UInt64)
  | bytes (b : Option (List UInt8))
  | text (b : Option (List UInt8))
  | array (items : List Item)
  | map (items : List Item)
  | other
  | malformed

def Item.content : Item → Option (List Item)
  | .array items => some items
  | .map items => some items
  | _ => none

def Item.passes : ℕ → Item → Bool
  | _, .uint _ => true
  | _, .bytes b => b.isSome
  | _, .text b => b.isSome
  | _, .other => true
  | _, .malformed => false
  | 0, .array _ => false
  | 0, .map _ => false
  | depth + 1, .array items => items.all (Item.passes depth)
  | depth + 1, .map items => items.all (Item.passes depth)

def Item.WellFormed (item : Item) : Prop := ∃ depth, item.passes depth = true

def startsMalformed : List Item → Bool
  | .malformed :: _ => true
  | _ => false

def advances (item : Item) (rest : List Item) : Bool :=
  item.passes maxRecursions && !startsMalformed rest

inductive Check (α : Type)
  | look (a : α)
  | fail

abbrev Entry := List UInt8 × Option Item

/-- What a loop over the entries of a map meets. It passes over what is not a text in the place of
a key. -/
def entryChecks : List Item → List (Check Entry)
  | [] => []
  | .text none :: _ => [.fail]
  | [.text (some key)] => [.look (key, none)]
  | .text (some key) :: value :: rest =>
    if startsMalformed [value] then [.fail]
    else .look (key, some value) :: if advances value rest then entryChecks rest else [.fail]
  | item :: rest => if advances item rest then entryChecks rest else [.fail]

def itemChecks : List Item → List (Check Item)
  | [] => []
  | item :: rest => .look item :: if advances item rest then itemChecks rest else [.fail]

def entriesOf : List Item → List Entry
  | [] => []
  | [.text (some key)] => [(key, none)]
  | .text (some key) :: value :: rest => (key, some value) :: entriesOf rest
  | _ :: rest => entriesOf rest

section Loops

variable {α β σ ε : Type}

def looks : List (Check α) → List α
  | [] => []
  | .fail :: rest => looks rest
  | .look a :: rest => a :: looks rest

def moves : List (Check α) → Bool
  | [] => true
  | .fail :: _ => false
  | .look _ :: rest => moves rest

def reached (stops : α → Bool) : List (Check α) → List α
  | [] => []
  | .fail :: _ => []
  | .look a :: rest => a :: if stops a then [] else reached stops rest

def run (body : σ → α → σ × Option (Stop ε)) : σ → List (Check α) → σ × Option (Stop ε)
  | s, [] => (s, none)
  | s, .fail :: _ => (s, some .error)
  | s, .look a :: rest => andThen (body s a) fun s' => run body s' rest

def enter (value : Option Item) (s : σ) (loop : List Item → σ × Option (Stop ε)) :
    σ × Option (Stop ε) :=
  match value.bind Item.content with
  | none => (s, some .assertion)
  | some items => if startsMalformed items then (s, some .error) else loop items

/-! ## What is looked at does not depend on the state -/

variable {body : σ → α → σ × Option (Stop ε)} {verdict : α → Option (Stop ε)} {update : σ → α → σ}

lemma run_stop_iff (hverdict : ∀ s a, (body s a).2 = verdict a) {stop : Stop ε}
    (hstop : stop ≠ .error) (checks : List (Check α)) (s : σ) :
    (run body s checks).2 = some stop
      ↔ ∃ a ∈ reached (fun a => (verdict a).isSome) checks, verdict a = some stop := by
  induction checks generalizing s with
  | nil => simp [run, reached]
  | cons check rest ih =>
    cases check with
    | fail =>
      simp only [run, reached, Option.some.injEq, not_mem_nil, false_and, exists_false, iff_false]
      exact fun h => hstop h.symm
    | look a =>
      have ha := hverdict s a
      rw [run, CborCursor.andThen, ha, reached]
      cases hv : verdict a with
      | none => simp [ih, hv]
      | some found => simp [hv]

lemma run_end_iff (hverdict : ∀ s a, (body s a).2 = verdict a) (checks : List (Check α)) (s : σ) :
    (run body s checks).2 = none ↔ moves checks = true ∧ ∀ a ∈ looks checks, verdict a = none := by
  induction checks generalizing s with
  | nil => simp [run, moves, looks]
  | cons check rest ih =>
    cases check with
    | fail => simp [run, moves]
    | look a =>
      have ha := hverdict s a
      rw [run, CborCursor.andThen, ha, moves, looks, forall_mem_cons]
      cases hv : verdict a with
      | none => simp [ih]
      | some found => simp

lemma run_result (hupdate : ∀ s a, (body s a).2 = none → (body s a).1 = update s a)
    (checks : List (Check α)) (s : σ) (hend : (run body s checks).2 = none) :
    (run body s checks).1 = (looks checks).foldl update s := by
  induction checks generalizing s with
  | nil => rfl
  | cons check rest ih =>
    cases check with
    | fail => cases hend
    | look a =>
      have ha := hupdate s a
      rw [run, CborCursor.andThen] at hend ⊢
      rcases hbody : body s a with ⟨s', _ | stop⟩
      · rw [hbody] at hend ha
        have hs' := ha rfl
        simp only at hs'
        subst hs'
        exact ih _ hend
      rw [hbody] at hend
      cases hend

lemma enter_congr {τ : Type} {value : Option Item} {s : σ} {t : τ}
    {loop : List Item → σ × Option (Stop ε)} {loop' : List Item → τ × Option (Stop ε)}
    (h : ∀ items, (loop items).2 = (loop' items).2) :
    (enter value s loop).2 = (enter value t loop').2 := by
  rw [enter, enter]
  cases value.bind Item.content with
  | none => rfl
  | some items =>
    by_cases hmal : startsMalformed items = true
    · simp [hmal]
    · simp [hmal, h]

lemma run_congr {τ : Type} {body' : τ → α → τ × Option (Stop ε)}
    (h : ∀ s t a, (body s a).2 = (body' t a).2) (s : σ) (t : τ) (checks : List (Check α)) :
    (run body s checks).2 = (run body' t checks).2 := by
  induction checks generalizing s t with
  | nil => rfl
  | cons check rest ih =>
    cases check with
    | fail => rfl
    | look a =>
      have ha := h s t a
      rw [run, run, CborCursor.andThen, CborCursor.andThen, ha]
      cases (body' t a).2 with
      | none => exact ih _ _
      | some stop => rfl

end Loops

/-! ## Containers -/

variable {item : Item}

lemma entriesOf_skip {rest : List Item}
    (hlast : ∀ key, item = .text (some key) → rest = [] → False)
    (hkey : ∀ key value rest', item = .text (some key) → rest = value :: rest' → False) :
    entriesOf (item :: rest) = entriesOf rest := by
  rw [entriesOf]
  · exact hlast
  · exact hkey

variable {items : List Item}

lemma entryChecks_moves (h : moves (entryChecks items) = true) :
    looks (entryChecks items) = entriesOf items
      ∧ ∀ item ∈ items, item.passes maxRecursions = true := by
  fun_induction entryChecks items with
  | case1 => simp [looks, entriesOf]
  | case2 => cases h
  | case3 key => simp [looks, entriesOf, Item.passes]
  | case4 key value rest hmal => cases h
  | case5 key value rest hmal ih =>
    rw [moves] at h
    rw [looks, entriesOf]
    by_cases hadv : advances value rest = true
    · rw [if_pos hadv] at h ⊢
      rw [advances, Bool.and_eq_true] at hadv
      obtain ⟨hlooks, hpasses⟩ := ih h
      rw [hlooks, forall_mem_cons, forall_mem_cons]
      exact ⟨rfl, by simp [Item.passes], hadv.1, hpasses⟩
    rw [if_neg hadv] at h
    cases h
  | case6 item rest hnone hlast hkey hadv ih =>
    rw [advances, Bool.and_eq_true] at hadv
    obtain ⟨hlooks, hpasses⟩ := ih h
    rw [hlooks, forall_mem_cons]
    exact ⟨(entriesOf_skip hlast hkey).symm, hadv.1, hpasses⟩
  | case7 => cases h

lemma itemChecks_moves (h : moves (itemChecks items) = true) :
    looks (itemChecks items) = items ∧ ∀ item ∈ items, item.passes maxRecursions = true := by
  induction items with
  | nil => simp [itemChecks, looks]
  | cons item rest ih =>
    rw [itemChecks, moves] at h
    rw [itemChecks, looks]
    by_cases hadv : advances item rest = true
    · rw [if_pos hadv] at h ⊢
      obtain ⟨hlooks, hpasses⟩ := ih h
      rw [advances, Bool.and_eq_true] at hadv
      rw [hlooks, forall_mem_cons]
      exact ⟨rfl, hadv.1, hpasses⟩
    rw [if_neg hadv] at h
    cases h

def flatten (entries : List (List UInt8 × Item)) : List Item :=
  entries.flatMap (fun e => [.text (some e.1), e.2])

variable {depth : ℕ}

lemma startsMalformed_of_passes (h : item.passes depth = true)
    (rest : List Item) : startsMalformed (item :: rest) = false := by
  cases item with
  | malformed => simp [Item.passes] at h
  | _ => rfl

lemma startsMalformed_flatten (entries : List (List UInt8 × Item)) :
    startsMalformed (flatten entries) = false := by
  cases entries <;> rfl

lemma entryChecks_flatten {entries : List (List UInt8 × Item)}
    (h : ∀ e ∈ entries, e.2.passes maxRecursions = true) :
    entryChecks (flatten entries) = entries.map (fun e => .look (e.1, some e.2)) := by
  induction entries with
  | nil => rfl
  | cons e rest ih =>
    have he := h e mem_cons_self
    have hvalue := startsMalformed_of_passes he []
    have hadv : advances e.2 (flatten rest) = true := by
      rw [advances, he, startsMalformed_flatten]
      rfl
    have hcons : flatten (e :: rest) = .text (some e.1) :: e.2 :: flatten rest := rfl
    rw [hcons, entryChecks, hvalue, if_neg Bool.false_ne_true, if_pos hadv,
      ih (fun e' he' => h e' (mem_cons_of_mem _ he'))]
    rfl

lemma itemChecks_of_passes (h : ∀ item ∈ items, item.passes maxRecursions = true) :
    itemChecks items = items.map .look := by
  induction items with
  | nil => rfl
  | cons item rest ih =>
    have hrest : ∀ i ∈ rest, i.passes maxRecursions = true :=
      fun i hi => h i (mem_cons_of_mem _ hi)
    have hstart : startsMalformed rest = false := by
      cases rest with
      | nil => rfl
      | cons next rest => exact startsMalformed_of_passes (hrest next mem_cons_self) rest
    have hadv : advances item rest = true := by
      rw [advances, h item mem_cons_self, hstart]
      rfl
    rw [itemChecks, if_pos hadv, ih hrest]
    rfl

lemma moves_looks {α : Type} (l : List α) :
    moves (l.map Check.look) = true ∧ looks (l.map Check.look) = l := by
  induction l with
  | nil => exact ⟨rfl, rfl⟩
  | cons a l ih => exact ⟨ih.1, congrArg (a :: ·) ih.2⟩

lemma passes_map {entries : List (List UInt8 × Item)}
    (h : ∀ e ∈ entries, e.2.passes depth = true) :
    (Item.map (flatten entries)).passes (depth + 1) = true := by
  rw [Item.passes, all_eq_true]
  intro item hitem
  obtain ⟨e, he, hitem⟩ := mem_flatMap.mp hitem
  simp only [mem_cons, not_mem_nil, or_false] at hitem
  rcases hitem with rfl | rfl
  · cases depth <;> rfl
  · exact h e he

lemma passes_array (h : ∀ item ∈ items, item.passes depth = true) :
    (Item.array items).passes (depth + 1) = true := by
  rw [Item.passes, all_eq_true]
  exact h

lemma wellFormed_of_content (hcontent : item.content = some items)
    (h : ∀ i ∈ items, i.passes maxRecursions = true) : item.WellFormed := by
  refine ⟨maxRecursions + 1, ?_⟩
  cases item with
  | array | map =>
    cases hcontent
    rw [Item.passes, all_eq_true]
    exact h
  | _ => cases hcontent

end CborScan
