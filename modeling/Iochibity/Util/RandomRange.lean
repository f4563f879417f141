/-
Random numbers of a range, `ocrandom.c`.

The random words come as a list, the words that can still be drawn; a draw that fails is `none`.
-/
import Mathlib.Algebra.Order.Ring.Nat
import Mathlib.Data.Nat.Log

namespace Iochibity.Util

/-! ## Leading zeros -/

def nlzStep (bound shift : UInt32) (p : ℕ × UInt32) : ℕ × UInt32 :=
  if p.2 ≤ bound then (p.1 + shift.toNat, p.2 <<< shift) else p

/-- `nlz`; the last step does not shift. -/
def nlz (x : UInt32) : ℕ :=
  if x = 0 then 32
  else
    let p := nlzStep 0x3FFFFFFF 2 (nlzStep 0x0FFFFFFF 4
      (nlzStep 0x00FFFFFF 8 (nlzStep 0x0000FFFF 16 (0, x))))
    if p.2 ≤ 0x7FFFFFFF then p.1 + 1 else p.1

/-- `x` was shifted by `p.1` and lost nothing. -/
def Shifted (x : UInt32) (low : ℕ) (p : ℕ × UInt32) : Prop :=
  p.2.toNat = x.toNat * 2 ^ p.1 ∧ 2 ^ low ≤ p.2.toNat

variable {x : UInt32}

lemma nlzStep_shifted (bound shift : UInt32) (k : ℕ) {low : ℕ} {p : ℕ × UInt32}
    (hbound : bound.toNat + 1 = 2 ^ (32 - k)) (hshift : shift.toNat = k) (hk : k < 32)
    (hlow : low + k ≤ 32 - k) (h : Shifted x low p) :
    Shifted x (low + k) (nlzStep bound shift p) := by
  obtain ⟨heq, hle⟩ := h
  rw [nlzStep]
  split
  · next hb =>
    have hlt : p.2.toNat < 2 ^ (32 - k) := by
      have := UInt32.le_iff_toNat_le.1 hb
      omega
    have hfit : p.2.toNat * 2 ^ k < 2 ^ 32 := by
      calc p.2.toNat * 2 ^ k < 2 ^ (32 - k) * 2 ^ k :=
            Nat.mul_lt_mul_of_pos_right hlt (Nat.two_pow_pos k)
        _ = 2 ^ 32 := by rw [← Nat.pow_add]; congr 1; omega
    have hval : (p.2 <<< shift).toNat = p.2.toNat * 2 ^ k := by
      rw [UInt32.toNat_shiftLeft, hshift, Nat.mod_eq_of_lt hk, Nat.shiftLeft_eq,
        Nat.mod_eq_of_lt hfit]
    refine ⟨?_, ?_⟩
    · rw [hval, heq, hshift, Nat.pow_add, Nat.mul_assoc]
    · rw [hval, Nat.pow_add]
      exact Nat.mul_le_mul_right _ hle
  · next hb =>
    refine ⟨heq, ?_⟩
    have hgt : 2 ^ (32 - k) ≤ p.2.toNat := by
      have := UInt32.le_iff_toNat_le.not.1 hb
      omega
    exact (Nat.pow_le_pow_right (by decide) hlow).trans hgt

lemma nlz_shift (hx : x ≠ 0) :
    2 ^ 31 ≤ x.toNat * 2 ^ nlz x ∧ x.toNat * 2 ^ nlz x < 2 ^ 32 := by
  have hpos : 0 < x.toNat := Nat.pos_of_ne_zero fun h => hx (UInt32.toNat.inj h)
  have h0 : Shifted x 0 (0, x) := ⟨by simp, hpos⟩
  have h16 := nlzStep_shifted 0x0000FFFF 16 16 rfl rfl (by decide) (by decide) h0
  have h8 := nlzStep_shifted 0x00FFFFFF 8 8 rfl rfl (by decide) (by decide) h16
  have h4 := nlzStep_shifted 0x0FFFFFFF 4 4 rfl rfl (by decide) (by decide) h8
  have h2 := nlzStep_shifted 0x3FFFFFFF 2 2 rfl rfl (by decide) (by decide) h4
  rw [nlz, if_neg hx]
  generalize nlzStep 0x3FFFFFFF 2 _ = p at h2
  obtain ⟨heq, hle⟩ := h2
  have hlt := p.2.toNat_lt
  dsimp only
  split
  · next hb =>
    have hb' : p.2.toNat ≤ 0x7FFFFFFF := UInt32.le_iff_toNat_le.1 hb
    have hsucc : x.toNat * 2 ^ (p.1 + 1) = p.2.toNat * 2 := by
      rw [Nat.pow_succ, ← Nat.mul_assoc, heq]
    omega
  · next hb =>
    have hb' : ¬ p.2.toNat ≤ 0x7FFFFFFF := UInt32.le_iff_toNat_le.not.1 hb
    rw [← heq]
    omega

lemma nlz_bits (hx : x ≠ 0) :
    nlz x < 32 ∧ 2 ^ (31 - nlz x) ≤ x.toNat ∧ x.toNat < 2 ^ (32 - nlz x) := by
  obtain ⟨hle, hlt⟩ := nlz_shift hx
  have hpos : 0 < x.toNat := Nat.pos_of_ne_zero fun h => hx (UInt32.toNat.inj h)
  have hnlz : nlz x < 32 := by
    have := (Nat.le_mul_of_pos_left (2 ^ nlz x) hpos).trans_lt hlt
    exact (Nat.pow_lt_pow_iff_right (by decide)).1 this
  have h31 : 2 ^ 31 = 2 ^ (31 - nlz x) * 2 ^ nlz x := by rw [← Nat.pow_add]; congr 1; omega
  have h32 : 2 ^ 32 = 2 ^ (32 - nlz x) * 2 ^ nlz x := by rw [← Nat.pow_add]; congr 1; omega
  rw [h31] at hle
  rw [h32] at hlt
  exact ⟨hnlz, Nat.le_of_mul_le_mul_right hle (Nat.two_pow_pos _), Nat.lt_of_mul_lt_mul_right hlt⟩

lemma nlz_eq_clz (x : UInt32) : nlz x = x.toBitVec.clz.toNat := by
  by_cases hx : x = 0
  · subst hx
    decide
  · have hne : x.toBitVec ≠ 0#32 := fun h => hx (UInt32.toBitVec_inj.1 h)
    have hclz : x.toBitVec.clz.toNat < 32 := BitVec.clz_lt_iff_ne_zero.2 hne
    obtain ⟨hnlz, hle, hlt⟩ := nlz_bits hx
    have hle' : 2 ^ (31 - x.toBitVec.clz.toNat) ≤ x.toNat :=
      BitVec.two_pow_sub_clz_le_toNat_of_ne_zero (by decide) hne
    have hlt' : x.toNat < 2 ^ (32 - x.toBitVec.clz.toNat) := BitVec.toNat_lt_two_pow_sub_clz
    have h1 := (Nat.pow_lt_pow_iff_right (by decide)).1 (hle.trans_lt hlt')
    have h2 := (Nat.pow_lt_pow_iff_right (by decide)).1 (hle'.trans_lt hlt)
    omega

/-! ## The range -/

/-- What a call comes to: a value and the words left, the failed assertion behind a draw that fails,
or a loop that asks for another word. -/
inductive RangeDraw
  | returned (value : UInt32) (rest : List (Option UInt32))
  | failed
  | drawing
  deriving DecidableEq

def RangeDraw.value : RangeDraw → Option UInt32
  | .returned value _ => some value
  | .failed | .drawing => none

def rangeBase (firstBound secondBound : UInt32) : UInt32 :=
  if firstBound < secondBound then firstBound else secondBound

def rangeWidth (firstBound secondBound : UInt32) : UInt32 :=
  if secondBound < firstBound then firstBound - secondBound else secondBound - firstBound

def rangeMask (width : UInt32) : UInt32 :=
  0xFFFFFFFF >>> (nlz width).toUInt32

/-- The `do` loop. -/
def drawOffset (mask width base : UInt32) : List (Option UInt32) → RangeDraw
  | [] => .drawing
  | none :: _ => .failed
  | some word :: rest =>
    if word &&& mask ≤ width then .returned (base + (word &&& mask)) rest
    else drawOffset mask width base rest

def ocGetRandomRange (firstBound secondBound : UInt32) (draws : List (Option UInt32)) :
    RangeDraw :=
  if firstBound = secondBound then .returned secondBound draws
  else
    let width := rangeWidth firstBound secondBound
    drawOffset (rangeMask width) width (rangeBase firstBound secondBound) draws

lemma rangeMask_toNat {width : UInt32} (h : width ≠ 0) :
    (rangeMask width).toNat = 2 ^ (32 - nlz width) - 1 := by
  have hlt := (nlz_bits h).1
  have hshift : (nlz width).toUInt32.toNat = nlz width :=
    Nat.mod_eq_of_lt (hlt.trans (by decide))
  rw [rangeMask, UInt32.toNat_shiftRight, hshift, Nat.mod_eq_of_lt hlt, Nat.shiftRight_eq_div_pow]
  have h32 : 2 ^ 32 = 2 ^ (32 - nlz width) * 2 ^ nlz width := by
    rw [← Nat.pow_add]; congr 1; omega
  have hpos := Nat.two_pow_pos (nlz width)
  have hval : (0xFFFFFFFF : UInt32).toNat
      = (2 ^ (32 - nlz width) - 1) * 2 ^ nlz width + (2 ^ nlz width - 1) := by
    have hone := Nat.two_pow_pos (32 - nlz width)
    have hmul : 2 ^ nlz width ≤ 2 ^ (32 - nlz width) * 2 ^ nlz width :=
      Nat.le_mul_of_pos_left _ hone
    rw [Nat.sub_mul, Nat.one_mul, ← h32]
    rw [← h32] at hmul
    change 4294967295 = _
    omega
  rw [hval, Nat.mul_comm, Nat.mul_add_div hpos, Nat.div_eq_of_lt (by omega), Nat.add_zero]

lemma rangeMask_least {width : UInt32} (h : width ≠ 0) (k : ℕ) :
    width.toNat ≤ 2 ^ k - 1 ↔ (rangeMask width).toNat ≤ 2 ^ k - 1 := by
  obtain ⟨hnlz, hle, hlt⟩ := nlz_bits h
  rw [rangeMask_toNat h]
  constructor
  · intro hk
    have hlt' : width.toNat < 2 ^ k := by
      have := Nat.two_pow_pos k
      omega
    have := (Nat.pow_lt_pow_iff_right (by decide)).1 (hle.trans_lt hlt')
    exact Nat.sub_le_sub_right (Nat.pow_le_pow_right (by decide) (by omega)) 1
  · intro hk
    omega

lemma drawOffset_words (mask width base : UInt32) (words : List UInt32) :
    (drawOffset mask width base (words.map some)).value =
      ((words.map (· &&& mask)).find? (· ≤ width)).map (base + ·) := by
  induction words with
  | nil => rfl
  | cons word rest ih =>
    rw [List.map_cons, List.map_cons, drawOffset]
    split
    · next h =>
      rw [List.find?_cons_of_pos (by simpa using h)]
      rfl
    · next h => rw [List.find?_cons_of_neg (by simpa using h), ih]

variable {firstBound secondBound : UInt32}

lemma rangeBase_toNat (firstBound secondBound : UInt32) :
    (rangeBase firstBound secondBound).toNat = min firstBound.toNat secondBound.toNat := by
  have hlt := UInt32.lt_iff_toNat_lt (a := firstBound) (b := secondBound)
  rw [rangeBase]
  split
  · next h => exact (min_eq_left (hlt.1 h).le).symm
  · next h => exact (min_eq_right (Nat.not_lt.1 (hlt.not.1 h))).symm

lemma rangeWidth_toNat (firstBound secondBound : UInt32) :
    (rangeBase firstBound secondBound).toNat + (rangeWidth firstBound secondBound).toNat =
      max firstBound.toNat secondBound.toNat := by
  have hlt := UInt32.lt_iff_toNat_lt (a := secondBound) (b := firstBound)
  rw [rangeBase_toNat, rangeWidth]
  split
  · next h =>
    have h' := hlt.1 h
    rw [UInt32.toNat_sub_of_le _ _ (UInt32.le_iff_toNat_le.2 h'.le)]
    omega
  · next h =>
    have h' := Nat.not_lt.1 (hlt.not.1 h)
    rw [UInt32.toNat_sub_of_le _ _ (UInt32.le_iff_toNat_le.2 h')]
    omega

lemma rangeWidth_ne (h : firstBound ≠ secondBound) : rangeWidth firstBound secondBound ≠ 0 := by
  intro h0
  have hsum := rangeWidth_toNat firstBound secondBound
  have hbase := rangeBase_toNat firstBound secondBound
  rw [h0, UInt32.toNat_zero] at hsum
  exact h (UInt32.toNat.inj (by omega))

lemma base_add {offset : UInt32} (h : offset ≤ rangeWidth firstBound secondBound) :
    (rangeBase firstBound secondBound + offset).toNat =
      (rangeBase firstBound secondBound).toNat + offset.toNat := by
  have hsum := rangeWidth_toNat firstBound secondBound
  have hle := UInt32.le_iff_toNat_le.1 h
  have h1 := firstBound.toNat_lt
  have h2 := secondBound.toNat_lt
  rw [UInt32.toNat_add, Nat.mod_eq_of_lt (by omega)]

/-- Whether `v` lies between the bounds, in either order. -/
def InRange (firstBound secondBound v : UInt32) : Prop :=
  min firstBound.toNat secondBound.toNat ≤ v.toNat ∧
    v.toNat ≤ max firstBound.toNat secondBound.toNat

lemma offset_inRange {offset : UInt32} (h : offset ≤ rangeWidth firstBound secondBound) :
    InRange firstBound secondBound (rangeBase firstBound secondBound + offset) := by
  have hsum := rangeWidth_toNat firstBound secondBound
  have hle := UInt32.le_iff_toNat_le.1 h
  rw [InRange, ← rangeBase_toNat, base_add h]
  omega

lemma inRange_offset {v : UInt32} (h : InRange firstBound secondBound v) :
    ∃! offset, offset ≤ rangeWidth firstBound secondBound ∧
      rangeBase firstBound secondBound + offset = v := by
  have hsum := rangeWidth_toNat firstBound secondBound
  rw [InRange, ← rangeBase_toNat] at h
  have hbase : rangeBase firstBound secondBound ≤ v := UInt32.le_iff_toNat_le.2 h.1
  refine ⟨v - rangeBase firstBound secondBound, ⟨?_, ?_⟩, ?_⟩
  · rw [UInt32.le_iff_toNat_le, UInt32.toNat_sub_of_le _ _ hbase]
    omega
  · rw [UInt32.add_comm, UInt32.sub_add_cancel]
  · rintro offset ⟨-, rfl⟩
    rw [UInt32.add_comm, UInt32.add_sub_cancel]

lemma and_rangeMask {width offset : UInt32} (hw : width ≠ 0) (h : offset ≤ width) :
    offset &&& rangeMask width = offset := by
  apply UInt32.toNat.inj
  rw [UInt32.toNat_and, rangeMask_toNat hw, Nat.and_two_pow_sub_one_eq_mod]
  exact Nat.mod_eq_of_lt ((UInt32.le_iff_toNat_le.1 h).trans_lt (nlz_bits hw).2.2)

lemma ocGetRandomRange_words (h : firstBound ≠ secondBound) (words : List UInt32) :
    (ocGetRandomRange firstBound secondBound (words.map some)).value =
      ((words.map (· &&& rangeMask (rangeWidth firstBound secondBound))).find?
        (· ≤ rangeWidth firstBound secondBound)).map (rangeBase firstBound secondBound + ·) := by
  rw [ocGetRandomRange, if_neg h]
  exact drawOffset_words _ _ _ words

lemma returned_iff (v : UInt32) :
    (∃ words : List UInt32,
      (ocGetRandomRange firstBound secondBound (words.map some)).value = some v) ↔
        InRange firstBound secondBound v := by
  by_cases h : firstBound = secondBound
  · subst h
    have hval (words : List UInt32) :
        (ocGetRandomRange firstBound firstBound (words.map some)).value = some firstBound := by
      rw [ocGetRandomRange, if_pos rfl]
      rfl
    simp only [hval, exists_const, Option.some.injEq, InRange, min_self, max_self]
    exact ⟨fun heq => heq ▸ ⟨le_rfl, le_rfl⟩, fun ⟨h1, h2⟩ => UInt32.toNat.inj (by omega)⟩
  · simp only [ocGetRandomRange_words h]
    constructor
    · rintro ⟨words, hv⟩
      obtain ⟨offset, hfind, rfl⟩ := Option.map_eq_some_iff.1 hv
      exact offset_inRange (by simpa using List.find?_some hfind)
    · intro hv
      obtain ⟨offset, ⟨hle, rfl⟩, -⟩ := inRange_offset hv
      refine ⟨[offset], ?_⟩
      rw [List.map_singleton, and_rangeMask (rangeWidth_ne h) hle,
        List.find?_cons_of_pos (by simpa using hle)]
      rfl

/-- `nlz` counts the leading zeros. With bounds that differ the shift stays below 32 and the mask is
the smallest of ones alone that covers the width; what is returned is the base and the first masked
word within the width. The values of the range and no others are returned, each for one masked
word. -/
theorem randomRange_uniform :
    (∀ x : UInt32, nlz x = x.toBitVec.clz.toNat) ∧ ∀ firstBound secondBound : UInt32,
        let width := rangeWidth firstBound secondBound
        let base := rangeBase firstBound secondBound
        (base.toNat = min firstBound.toNat secondBound.toNat ∧
          base.toNat + width.toNat = max firstBound.toNat secondBound.toNat) ∧
        (∀ v, (∃ words : List UInt32,
            (ocGetRandomRange firstBound secondBound (words.map some)).value = some v) ↔
              InRange firstBound secondBound v) ∧
        (firstBound = secondBound ∧
            (∀ draws, ocGetRandomRange firstBound secondBound draws = .returned firstBound draws) ∨
          firstBound ≠ secondBound ∧ nlz width < 32 ∧
            (∃ k, (rangeMask width).toNat = 2 ^ k - 1) ∧
            (∀ k, width.toNat ≤ 2 ^ k - 1 ↔ (rangeMask width).toNat ≤ 2 ^ k - 1) ∧
            (∀ words : List UInt32,
              (ocGetRandomRange firstBound secondBound (words.map some)).value =
                ((words.map (· &&& rangeMask width)).find? (· ≤ width)).map (base + ·)) ∧
            ∀ v, InRange firstBound secondBound v ↔
              ∃! masked, masked &&& rangeMask width = masked ∧ masked ≤ width ∧
                base + masked = v) := by
  refine ⟨nlz_eq_clz, fun first second =>
    ⟨⟨rangeBase_toNat first second, rangeWidth_toNat first second⟩, returned_iff, ?_⟩⟩
  by_cases h : first = second
  · subst h
    exact .inl ⟨rfl, fun draws => if_pos rfl⟩
  · have hw := rangeWidth_ne h
    refine .inr ⟨h, (nlz_bits hw).1, ⟨_, rangeMask_toNat hw⟩, rangeMask_least hw,
      ocGetRandomRange_words h, fun v => ⟨fun hv => ?_, ?_⟩⟩
    · obtain ⟨offset, ⟨hle, heq⟩, huniq⟩ := inRange_offset hv
      exact ⟨offset, ⟨and_rangeMask hw hle, hle, heq⟩, fun o ho => huniq o ho.2⟩
    · rintro ⟨masked, ⟨-, hle, rfl⟩, -⟩
      exact offset_inRange hle

end Iochibity.Util
