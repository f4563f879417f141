/-
Byte buffers as lists, with the three C primitives that fill them.
-/
import Mathlib.Data.List.GetD
import Mathlib.Data.List.Basic

namespace Buffer

open List

variable {β : Type*}

/-! ## The primitives -/

variable (dst : List β) (off : Nat) (src : List β) (n : Nat)

def memcpy : List β :=
  dst.mapIdx (fun i b => if off ≤ i ∧ i < off + n then src.getD (i - off) b else b)

/-- `calloc(1, n)`: a buffer of `n` zero elements. -/
def calloc [Zero β] (n : Nat) : List β :=
  List.replicate n 0

/-- `realloc(buf, n)`: the old bytes as far as they fit; the new ones are zero here, and overwritten
before they are read. -/
def realloc [Zero β] (buf : List β) (n : Nat) : List β :=
  buf.take n ++ List.replicate (n - buf.length) 0

/-- The numbers of one `memcpy`: how large the destination and the source are,
and which part of them the copy runs over. -/
structure MemCopy where
  dstSize : Nat
  dstOff : Nat
  srcSize : Nat
  len : Nat
  deriving DecidableEq

def MemCopy.InBounds (c : MemCopy) : Prop :=
  c.dstOff + c.len ≤ c.dstSize ∧ c.len ≤ c.srcSize

instance (c : MemCopy) : Decidable c.InBounds :=
  inferInstanceAs (Decidable (_ ∧ _))

@[simp] lemma length_memcpy : (memcpy dst off src n).length = dst.length := by
  simp [memcpy]

@[simp] lemma length_calloc [Zero β] (n : Nat) : (calloc n : List β).length = n := by
  simp [calloc]

@[simp] lemma length_realloc [Zero β] (buf : List β) (n : Nat) :
    (realloc buf n).length = n := by
  simp only [realloc, length_append, length_take, length_replicate]
  omega

lemma take_memcpy {dst src : List β} {off n : Nat}
    (hdst : off + n ≤ dst.length) (hsrc : n ≤ src.length) :
    (memcpy dst off src n).take (off + n) = dst.take off ++ src.take n := by
  apply ext_getElem?
  intro i
  rcases Nat.lt_or_ge i (off + n) with hi | hi
  · have hid : i < dst.length := by omega
    rw [getElem?_take_of_lt hi, memcpy, getElem?_mapIdx, getElem?_eq_getElem hid, Option.map_some]
    rcases Nat.lt_or_ge i off with hio | hio
    · rw [if_neg (by omega), getElem?_append_left (by simp only [length_take]; omega),
        getElem?_take_of_lt hio, getElem?_eq_getElem hid]
    have his : i - off < src.length := by omega
    have hoff : (dst.take off).length = off := by simp only [length_take]; omega
    rw [if_pos ⟨hio, hi⟩, getElem?_append_right (by omega), hoff,
      getElem?_take_of_lt (by omega), getElem?_eq_getElem his,
      getD_eq_getElem _ _ his]
  rw [getElem?_eq_none (by simp only [length_take, length_memcpy]; omega),
    getElem?_eq_none (by simp only [length_append, length_take]; omega)]

lemma take_memcpy_zero {dst src : List β} {n : Nat}
    (hdst : n ≤ dst.length) (hsrc : n ≤ src.length) :
    (memcpy dst 0 src n).take n = src.take n := by
  have h : (memcpy dst 0 src n).take (0 + n) = dst.take 0 ++ src.take n :=
    take_memcpy (by omega) hsrc
  simpa only [Nat.zero_add, take_zero, nil_append] using h

variable {β : Type*}

/-- `buf[i] = v`. There is no result when `i` is outside the buffer. -/
def store (buf : List β) (i : Nat) (v : β) : Option (List β) :=
  if i < buf.length then some (buf.set i v) else none

def storeAll (buf : List β) (i : Nat) : List β → Option (List β)
  | [] => some buf
  | v :: vs => (store buf i v).bind (storeAll · (i + 1) vs)

/-- The buffer with `vs` in the place of its elements from `i` on. -/
def splice (buf : List β) (i : Nat) (vs : List β) : List β :=
  buf.take i ++ vs ++ buf.drop (i + vs.length)

@[simp] lemma splice_nil (buf : List β) (i : Nat) : splice buf i [] = buf := by
  simp [splice]

variable {buf vs : List β} {i : Nat}

lemma length_splice (h : i + vs.length ≤ buf.length) :
    (splice buf i vs).length = buf.length := by
  simp only [splice, length_append, length_take, length_drop]
  omega

lemma take_splice (h : i ≤ buf.length) :
    (splice buf i vs).take (i + vs.length) = buf.take i ++ vs := by
  have hlen : i + vs.length = (buf.take i ++ vs).length := by
    simp only [length_append, length_take]
    omega
  rw [splice, hlen, take_left]

lemma drop_splice (h : i ≤ buf.length) :
    (splice buf i vs).drop (i + vs.length) = buf.drop (i + vs.length) := by
  have hlen : i + vs.length = (buf.take i ++ vs).length := by
    simp only [length_append, length_take]
    omega
  rw [splice]
  nth_rewrite 1 [hlen]
  rw [drop_left]

lemma splice_splice {ws : List β} (h : i ≤ buf.length) :
    splice (splice buf i vs) (i + vs.length) ws = splice buf i (vs ++ ws) := by
  have hdrop : (splice buf i vs).drop (i + vs.length + ws.length)
      = buf.drop (i + vs.length + ws.length) := by
    rw [← drop_drop, drop_splice h, drop_drop]
  rw [splice, take_splice h, hdrop, splice, length_append, Nat.add_assoc]
  simp

lemma store_eq_splice (v : β) (h : i < buf.length) :
    store buf i v = some (splice buf i [v]) := by
  rw [store, if_pos h, set_eq_take_append_cons_drop, if_pos h, splice]
  simp

lemma storeAll_eq_splice
    (h : i + vs.length ≤ buf.length) : storeAll buf i vs = some (splice buf i vs) := by
  induction vs generalizing buf i with
  | nil => rw [storeAll, splice_nil]
  | cons v vs ih =>
    simp only [length_cons] at h
    have hv : i + [v].length ≤ buf.length := by
      simp only [length_singleton]
      omega
    rw [storeAll, store_eq_splice v (by omega), Option.bind_some,
      ih (by rw [length_splice hv]; omega)]
    have hrow : splice (splice buf i [v]) (i + 1) vs = splice buf i (v :: vs) :=
      splice_splice (by omega)
    rw [hrow]

/-! ## Logs of stores -/

def storeLog (buf : List β) (log : List (ℕ × β)) : List β :=
  log.foldl (fun buf entry => buf.set entry.1 entry.2) buf

lemma storeLog_append (buf : List β) (log more : List (ℕ × β)) :
    storeLog buf (log ++ more) = storeLog (storeLog buf log) more := foldl_append

lemma getElem?_storeLog_of_not_mem {log : List (ℕ × β)} {n : ℕ}
    (h : n ∉ log.map Prod.fst) : (storeLog buf log)[n]? = buf[n]? := by
  induction log generalizing buf with
  | nil => rfl
  | cons entry log ih =>
    rw [map_cons, mem_cons, not_or] at h
    exact (ih h.2).trans (getElem?_set_ne (Ne.symm h.1))

lemma getElem?_storeLog_of_mem {log : List (ℕ × β)} (hlog : (log.map Prod.fst).Nodup) {n : ℕ}
    {v : β} (h : (n, v) ∈ log) (hn : n < buf.length) : (storeLog buf log)[n]? = some v := by
  induction log generalizing buf with
  | nil => simp at h
  | cons entry log ih =>
    rw [map_cons, nodup_cons] at hlog
    rcases mem_cons.mp h with rfl | hlater
    · refine (getElem?_storeLog_of_not_mem hlog.1).trans ?_
      simp [hn]
    · exact ih hlog.2 hlater (by rwa [length_set])

section Until

variable {α σ : Type*}

def runUntil (body : α → List σ × Bool) : List α → List σ × Bool
  | [] => ([], true)
  | a :: rest =>
    if (body a).2 then ((body a).1 ++ (runUntil body rest).1, (runUntil body rest).2)
    else ((body a).1, false)

variable {body : α → List σ × Bool}

lemma runUntil_cons_go {a : α} (h : (body a).2 = true) (rest : List α) :
    runUntil body (a :: rest)
      = ((body a).1 ++ (runUntil body rest).1, (runUntil body rest).2) := if_pos h

lemma runUntil_cons_end {a : α} (h : (body a).2 = false)
    (rest : List α) : runUntil body (a :: rest) = ((body a).1, false) :=
  if_neg (h ▸ Bool.false_ne_true)

lemma runUntil_singleton (body : α → List σ × Bool) (a : α) : runUntil body [a] = body a := by
  cases hgo : (body a).2 with
  | false => rw [runUntil_cons_end hgo, ← hgo]
  | true => rw [runUntil_cons_go hgo, runUntil, append_nil, ← hgo]

lemma runUntil_append (body : α → List σ × Bool) (xs ys : List α) :
    runUntil body (xs ++ ys) = if (runUntil body xs).2 then
          ((runUntil body xs).1 ++ (runUntil body ys).1, (runUntil body ys).2)
        else runUntil body xs := by
  induction xs with
  | nil => simp [runUntil]
  | cons a xs ih =>
    cases hgo : (body a).2 with
    | false =>
      rw [cons_append, runUntil_cons_end hgo, runUntil_cons_end hgo]
      rfl
    | true =>
      rw [cons_append, runUntil_cons_go hgo, runUntil_cons_go hgo, ih]
      by_cases hrest : (runUntil body xs).2 = true
      · simp [hrest]
      · simp [hrest]

lemma mem_runUntil {xs : List α} {w : σ} :
    w ∈ (runUntil body xs).1 ↔ ∃ before a behind, xs = before ++ a :: behind
      ∧ (∀ b ∈ before, (body b).2 = true) ∧ w ∈ (body a).1 := by
  constructor
  · intro h
    induction xs with
    | nil => exact absurd h not_mem_nil
    | cons a xs ih =>
      cases hgo : (body a).2 with
      | false =>
        rw [runUntil_cons_end hgo] at h
        exact ⟨[], a, xs, rfl, forall_mem_nil _, h⟩
      | true =>
        rw [runUntil_cons_go hgo, mem_append] at h
        rcases h with hhere | hlater
        · exact ⟨[], a, xs, rfl, forall_mem_nil _, hhere⟩
        obtain ⟨before, b, behind, rfl, hbefore, hw⟩ := ih hlater
        exact ⟨a :: before, b, behind, rfl, forall_mem_cons.mpr ⟨hgo, hbefore⟩, hw⟩
  · rintro ⟨before, a, behind, rfl, hbefore, hw⟩
    induction before with
    | nil =>
      rw [nil_append]
      cases hgo : (body a).2 with
      | false => rwa [runUntil_cons_end hgo]
      | true =>
        rw [runUntil_cons_go hgo]
        exact mem_append_left _ hw
    | cons b before ih =>
      obtain ⟨hgo, hrest⟩ := forall_mem_cons.mp hbefore
      rw [cons_append, runUntil_cons_go hgo]
      exact mem_append_right _ (ih hrest)

lemma pairwise_runUntil {r : α → α → Prop} {q : σ → σ → Prop} (hone : ∀ a, (body a).1.Pairwise q)
    (htwo : ∀ a b, r a b → ∀ u ∈ (body a).1, ∀ v ∈ (body b).1, q u v) {xs : List α}
    (h : xs.Pairwise r) : (runUntil body xs).1.Pairwise q := by
  induction h with
  | nil => exact List.Pairwise.nil
  | @cons a rest hfirst _ ih =>
    cases hgo : (body a).2 with
    | false =>
      rw [runUntil_cons_end hgo]
      exact hone a
    | true =>
      rw [runUntil_cons_go hgo, pairwise_append]
      refine ⟨hone a, ih, fun u hu v hv => ?_⟩
      obtain ⟨before, b, behind, rfl, -, hb⟩ := mem_runUntil.mp hv
      exact htwo a b (hfirst b (by simp)) u hu v hb

end Until

end Buffer
