/-
Cutting a stream into frames.
-/
import Mathlib.Algebra.Order.Ring.Nat
import Mathlib.Data.List.Infix
import Mathlib.Data.List.Basic

namespace Framing

open List

variable {α : Type*}

@[ext]
structure Framed (α : Type*) where
  frames : List (List α)
  rest : List α

variable (complete : List α → Bool)

def feed (rest : List α) (a : α) : Framed α :=
  if complete (rest ++ [a]) then ⟨[rest ++ [a]], []⟩ else ⟨[], rest ++ [a]⟩

def frame (rest : List α) : List α → Framed α
  | [] => ⟨[], rest⟩
  | a :: chunk =>
    let fed := feed complete rest a
    let later := frame fed.rest chunk
    ⟨fed.frames ++ later.frames, later.rest⟩

structure IsFrame (f : List α) : Prop where
  complete_self : complete f = true
  nonempty : f ≠ []
  not_before : ∀ k, 0 < k → k < f.length → complete (f.take k) = false

/-! ## Chunks -/

lemma frame_cons (rest : List α) (a : α) (chunk : List α) :
    frame complete rest (a :: chunk)
      = ⟨(feed complete rest a).frames ++ (frame complete (feed complete rest a).rest chunk).frames,
          (frame complete (feed complete rest a).rest chunk).rest⟩ := rfl

lemma frame_append (rest xs ys : List α) :
    frame complete rest (xs ++ ys)
      = ⟨(frame complete rest xs).frames
            ++ (frame complete (frame complete rest xs).rest ys).frames,
          (frame complete (frame complete rest xs).rest ys).rest⟩ := by
  induction xs generalizing rest with
  | nil => rfl
  | cons a xs ih => rw [cons_append, frame_cons, ih, frame_cons, append_assoc]

lemma frame_conserves (rest xs : List α) :
    (frame complete rest xs).frames.flatten ++ (frame complete rest xs).rest = rest ++ xs := by
  induction xs generalizing rest with
  | nil => exact (append_nil rest).symm
  | cons a xs ih =>
    have hfed : (feed complete rest a).frames.flatten ++ (feed complete rest a).rest
        = rest ++ [a] := by
      unfold feed
      split
      · rw [flatten_singleton, append_nil]
      · rfl
    rw [frame_cons]
    dsimp only
    rw [flatten_append, append_assoc, ih, ← append_assoc, hfed, append_assoc, singleton_append]

lemma frame_rest_incomplete (hnil : complete [] = false) (rest xs : List α)
    (h : complete rest = false) : complete (frame complete rest xs).rest = false := by
  induction xs generalizing rest with
  | nil => exact h
  | cons a xs ih =>
    rw [frame_cons]
    refine ih _ ?_
    unfold feed
    by_cases hall : complete (rest ++ [a]) = true
    · rw [if_pos hall]
      exact hnil
    rw [if_neg hall]
    simp [hall]

lemma frame_collects (rest xs : List α)
    (h : ∀ k, 0 < k → k ≤ xs.length → complete (rest ++ xs.take k) = false) :
    frame complete rest xs = ⟨[], rest ++ xs⟩ := by
  induction xs generalizing rest with
  | nil => rw [append_nil]; rfl
  | cons a xs ih =>
    have hfirst : complete (rest ++ [a]) = false := by
      have := h 1 Nat.one_pos (by rw [length_cons]; omega)
      rwa [take_succ_cons, take_zero] at this
    have hrest : ∀ k, 0 < k → k ≤ xs.length → complete ((rest ++ [a]) ++ xs.take k) = false := by
      intro k hk hle
      have := h (k + 1) (by omega) (by rw [length_cons]; omega)
      rwa [take_succ_cons, ← singleton_append, ← append_assoc] at this
    have hfeed : feed complete rest a = ⟨[], rest ++ [a]⟩ := by
      rw [feed, if_neg (by rw [hfirst]; exact nofun)]
    rw [frame_cons, hfeed]
    dsimp only
    rw [ih _ hrest, nil_append, append_assoc, singleton_append]

lemma frame_completes (rest xs : List α) (hne : xs ≠ [])
    (h : ∀ k, 0 < k → k < xs.length → complete (rest ++ xs.take k) = false)
    (hall : complete (rest ++ xs) = true) :
    frame complete rest xs = ⟨[rest ++ xs], []⟩ := by
  obtain ⟨init, last, rfl⟩ := (eq_nil_or_concat' xs).resolve_left hne
  have hinit := frame_collects complete rest init (by
    intro k hk hle
    have := h k hk (by rw [length_append, length_singleton]; omega)
    rwa [take_append_of_le_length hle] at this)
  rw [← append_assoc] at hall
  rw [frame_append, hinit]
  dsimp only
  rw [frame_cons, feed, if_pos hall, nil_append, append_assoc]
  rfl

lemma rest_length_ne_one {rest xs : List α} (hne : xs ≠ [])
    (h : ∀ k, 0 < k → k < xs.length → complete (rest ++ xs.take k) = false)
    (hnot : rest = [] → xs.length ≠ 1) : (frame complete rest xs).rest.length ≠ 1 := by
  by_cases hall : complete (rest ++ xs) = true
  · rw [frame_completes complete rest xs hne h hall]
    exact nofun
  rw [frame_collects complete rest xs (by
    intro k hk hle
    by_cases hlast : k = xs.length
    · rw [hlast, take_length]
      exact Bool.eq_false_of_not_eq_true hall
    · exact h k hk (by omega))]
  intro hlength
  have hpos := length_pos_iff.mpr hne
  rw [length_append] at hlength
  exact hnot (length_eq_zero_iff.mp (by omega)) (by omega)

lemma frame_flatten (fs : List (List α)) (hfs : ∀ f ∈ fs, IsFrame complete f) :
    frame complete [] fs.flatten = ⟨fs, []⟩ := by
  induction fs with
  | nil => rfl
  | cons f fs ih =>
    obtain ⟨hf, hrest⟩ := forall_mem_cons.mp hfs
    rw [List.flatten_cons, frame_append,
      frame_completes complete [] f hf.nonempty hf.not_before hf.complete_self]
    dsimp only
    rw [ih hrest]
    rfl

/-! ## Counting an element twice -/

def stuttered (rest chunk : List α) : List α :=
  if (frame complete rest chunk).rest.length = 1 then
    chunk ++ (frame complete rest chunk).rest
  else chunk

def stutteredAll (rest : List α) : List (List α) → List α
  | [] => []
  | chunk :: chunks =>
    stuttered complete rest chunk
      ++ stutteredAll (frame complete rest (stuttered complete rest chunk)).rest chunks

def Clean (rest : List α) : List (List α) → Prop
  | [] => True
  | chunk :: chunks =>
    (frame complete rest chunk).rest.length ≠ 1 ∧ Clean (frame complete rest chunk).rest chunks

lemma stuttered_of_ne {rest chunk : List α} (h : (frame complete rest chunk).rest.length ≠ 1) :
    stuttered complete rest chunk = chunk := if_neg h

lemma stuttered_length (rest chunk : List α) :
    chunk.length ≤ (stuttered complete rest chunk).length := by
  unfold stuttered
  split
  · rw [length_append]
    omega
  · exact Nat.le_refl _

variable (rest : List α) (chunks : List (List α))

lemma stutteredAll_length :
    chunks.flatten.length ≤ (stutteredAll complete rest chunks).length := by
  induction chunks generalizing rest with
  | nil => exact Nat.le_refl _
  | cons chunk chunks ih =>
    have hchunk := stuttered_length complete rest chunk
    have hchunks := ih (frame complete rest (stuttered complete rest chunk)).rest
    rw [List.flatten_cons, stutteredAll, length_append, length_append]
    omega

lemma stutteredAll_length_eq_iff :
    (stutteredAll complete rest chunks).length = chunks.flatten.length
      ↔ Clean complete rest chunks := by
  induction chunks generalizing rest with
  | nil => exact iff_of_true rfl trivial
  | cons chunk chunks ih =>
    rw [List.flatten_cons, stutteredAll, length_append, length_append, Clean]
    by_cases hone : (frame complete rest chunk).rest.length = 1
    · have hmore : (stuttered complete rest chunk).length = chunk.length + 1 := by
        rw [stuttered, if_pos hone, length_append, hone]
      have hchunks := stutteredAll_length complete
        (frame complete rest (stuttered complete rest chunk)).rest chunks
      refine iff_of_false ?_ (·.1 hone)
      omega
    rw [stuttered_of_ne complete hone, ← ih, and_iff_right hone]
    omega

lemma stutteredAll_of_clean
    (h : Clean complete rest chunks) : stutteredAll complete rest chunks = chunks.flatten := by
  induction chunks generalizing rest with
  | nil => rfl
  | cons chunk chunks ih =>
    rw [stutteredAll, stuttered_of_ne complete h.1, ih _ h.2, List.flatten_cons]

lemma stuttered_exact_iff (fs : List (List α)) (hfs : ∀ f ∈ fs, IsFrame complete f)
    (chunks : List (List α)) (hchunks : chunks.flatten = fs.flatten) :
    frame complete [] (stutteredAll complete [] chunks) = ⟨fs, []⟩ ↔ Clean complete [] chunks := by
  constructor
  · intro hexact
    have hall := frame_conserves complete [] (stutteredAll complete [] chunks)
    rw [hexact, append_nil, nil_append] at hall
    rw [← stutteredAll_length_eq_iff, ← hall, hchunks]
  · intro hclean
    rw [stutteredAll_of_clean complete [] chunks hclean, hchunks, frame_flatten complete fs hfs]

lemma clean_iff :
    Clean complete rest chunks
      ↔ ∀ before after : List (List α), before ≠ [] → chunks = before ++ after →
        (frame complete rest before.flatten).rest.length ≠ 1 := by
  induction chunks generalizing rest with
  | nil =>
    refine iff_of_true trivial ?_
    intro before after hne hsplit
    exact absurd (append_eq_nil_iff.mp hsplit.symm).1 hne
  | cons chunk chunks ih =>
    rw [Clean, ih]
    constructor
    · rintro ⟨hfirst, hrest⟩ before after hne hsplit
      obtain ⟨first, before, rfl⟩ := exists_cons_of_ne_nil hne
      rw [cons_append, List.cons.injEq] at hsplit
      obtain ⟨rfl, hsplit⟩ := hsplit
      rw [List.flatten_cons, frame_append]
      by_cases hlast : before = []
      · rw [hlast]
        exact hfirst
      · exact hrest before after hlast hsplit
    · intro hall
      constructor
      · have := hall [chunk] chunks (cons_ne_nil _ _) rfl
        rwa [flatten_singleton] at this
      · intro before after hne hsplit
        have := hall (chunk :: before) after (cons_ne_nil _ _) (by rw [hsplit]; rfl)
        rwa [List.flatten_cons, frame_append] at this

lemma rest_length_one_iff (fs : List (List α)) (hfs : ∀ f ∈ fs, IsFrame complete f)
    (hone : ∀ a, complete [a] = false) (xs : List α) (hxs : xs <+: fs.flatten) :
    (frame complete [] xs).rest.length = 1
      ↔ ∃ done, done <+: fs ∧ xs.length = done.flatten.length + 1 := by
  obtain ⟨ys, hys⟩ := hxs
  have hall := frame_flatten complete fs hfs
  rw [← hys, frame_append] at hall
  obtain ⟨hframes, -⟩ := Framed.mk.inj hall
  constructor
  · intro hlength
    refine ⟨(frame complete [] xs).frames, ⟨_, hframes⟩, ?_⟩
    have hsame := congrArg List.length (frame_conserves complete [] xs)
    rw [length_append, hlength, nil_append] at hsame
    exact hsame.symm
  · rintro ⟨done, ⟨todo, rfl⟩, hlength⟩
    -- So `xs` is `done` and one element of the next frame.
    rw [flatten_append] at hys
    obtain ⟨tail, htail⟩ : done.flatten <+: xs :=
      prefix_of_prefix_length_le ⟨todo.flatten, rfl⟩ ⟨ys, hys⟩ (by omega)
    have htailLength : tail.length = 1 := by
      have := congrArg List.length htail
      rw [length_append] at this
      omega
    obtain ⟨a, rfl⟩ := length_eq_one_iff.mp htailLength
    have hdone := frame_flatten complete done (fun f hf => hfs f (mem_append_left _ hf))
    rw [← htail, frame_append, hdone]
    dsimp only
    rw [frame_cons, feed, nil_append, if_neg (by rw [hone]; exact nofun)]
    rfl

end Framing

namespace Blocks

variable {α : Type*}

section

variable (b : Nat) (l : List α)

/-- Block number `i` of `l` at block size `b`. -/
def block (i : Nat) : List α :=
  (l.drop (b * i)).take b

def lastBlock : Nat :=
  (l.length - 1) / b

lemma length_block (i : Nat) : (block b l i).length = min b (l.length - b * i) := by
  rw [block, List.length_take, List.length_drop]

lemma take_append_block (i : Nat) : l.take (b * i) ++ block b l i = l.take (b * (i + 1)) := by
  rw [block, Nat.mul_add, Nat.mul_one, List.take_add]

lemma block_zero : block b l 0 = l.take b := by
  rw [block, Nat.mul_zero, List.drop_zero]

end

section Last

variable {b : Nat} {l : List α} (hb : 0 < b) (hl : 0 < l.length)
include hb hl

lemma lastBlock_bounds :
    b * lastBlock b l < l.length ∧ l.length ≤ b * (lastBlock b l + 1) := by
  have hlo : b * ((l.length - 1) / b) ≤ l.length - 1 := Nat.mul_div_le _ _
  have hhi : l.length - 1 < b * ((l.length - 1) / b + 1) := Nat.lt_mul_div_succ _ hb
  rw [lastBlock]
  omega

lemma more_iff_lt_lastBlock {i : Nat} : (i + 1) * b < l.length ↔ i < lastBlock b l := by
  obtain ⟨hlo, hhi⟩ := lastBlock_bounds hb hl
  constructor
  · intro h
    by_contra hge
    have hmul : b * (lastBlock b l + 1) ≤ b * (i + 1) := Nat.mul_le_mul_left b (by omega)
    rw [Nat.mul_comm (i + 1) b] at h
    omega
  · intro h
    have hmul : b * (i + 1) ≤ b * lastBlock b l := Nat.mul_le_mul_left b h
    rw [Nat.mul_comm (i + 1) b]
    omega

lemma length_block_of_lt {i : Nat} (hi : i < lastBlock b l) : (block b l i).length = b := by
  have hmore : (i + 1) * b < l.length := (more_iff_lt_lastBlock hb hl).mpr hi
  rw [length_block]
  rw [Nat.add_mul, Nat.one_mul, Nat.mul_comm i b] at hmore
  omega

lemma length_block_last : b * lastBlock b l + (block b l (lastBlock b l)).length = l.length := by
  obtain ⟨hlo, hhi⟩ := lastBlock_bounds hb hl
  rw [length_block]
  rw [Nat.mul_add, Nat.mul_one] at hhi
  omega

lemma block_ne_nil {i : Nat} (hi : i ≤ lastBlock b l) : block b l i ≠ [] := by
  intro h
  have hlen : (block b l i).length = 0 := by rw [h]; rfl
  obtain ⟨hlo, -⟩ := lastBlock_bounds hb hl
  have hmul : b * i ≤ b * lastBlock b l := Nat.mul_le_mul_left b hi
  rw [length_block] at hlen
  omega

end Last

end Blocks

namespace RowMajor

open List

lemma index_lt {m n i j : Nat} (hi : i < m) (hj : j < n) : i * n + j < m * n := by
  have hrow : (i + 1) * n ≤ m * n := Nat.mul_le_mul_right n hi
  rw [Nat.add_mul, Nat.one_mul] at hrow
  omega

section Cells

variable {α : Type}

lemma flatMap_range_map (m n : Nat) (cell : Nat → α) :
    (List.range m).flatMap (fun i => (List.range n).map (fun j => cell (i * n + j)))
      = (List.range (m * n)).map cell := by
  induction m with
  | zero => simp
  | succ m ih =>
    rw [range_succ, flatMap_append, ih, flatMap_singleton, Nat.add_mul,
      Nat.one_mul, range_add, map_append, map_map]
    rfl

lemma index_three (b c i j k : Nat) :
    j * c + i * c * b + k = i * (b * c) + (j * c + k) := by
  rw [Nat.mul_assoc, Nat.mul_comm c b]
  omega

lemma flatMap_range_flatMap (a b c : Nat) (cell : Nat → α) :
    (List.range a).flatMap (fun i => (List.range b).flatMap (fun j =>
      (List.range c).map (fun k => cell (j * c + i * c * b + k))))
      = (List.range (a * b * c)).map cell := by
  have hplane : ∀ i, (List.range b).flatMap (fun j =>
      (List.range c).map (fun k => cell (j * c + i * c * b + k)))
      = (List.range (b * c)).map (fun t => cell (i * (b * c) + t)) := by
    intro i
    simp only [index_three]
    exact flatMap_range_map b c (fun t => cell (i * (b * c) + t))
  simp only [hplane]
  rw [flatMap_range_map, Nat.mul_assoc]

lemma map_range_getD (cells : List α) (d : α) :
    (List.range cells.length).map (cells.getD · d) = cells := by
  refine ext_getElem ?_ ?_
  · rw [length_map, length_range]
  · intro k _ hk
    simp [hk]

end Cells

end RowMajor
