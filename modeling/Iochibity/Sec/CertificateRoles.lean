/-
Splitting a bundle of certificates, `FillCertChain` of `credresource.c`.
-/
import Iochibity.Lib.TextSearch
import Iochibity.Sec.Roles

namespace Iochibity.Sec.CertChain

open TextSearch
open List

/-- `PEM_BEGIN_CRT`, without its NUL. -/
def pemBegin : List UInt8 :=
  [45, 45, 45, 45, 45, 66, 69, 71, 73, 78, 32, 67, 69, 82, 84, 73, 70, 73, 67, 65, 84, 69,
    45, 45, 45, 45, 45]

/-- `PEM_END_CRT`, without its NUL. -/
def pemEnd : List UInt8 :=
  [45, 45, 45, 45, 45, 69, 78, 68, 32, 67, 69, 82, 84, 73, 70, 73, 67, 65, 84, 69,
    45, 45, 45, 45, 45]

/-- `publicData`: the memory from `data` on, with a NUL in it that `len` does not cut off. -/
structure PublicData where
  data : List UInt8
  len : ℕ
  ended : 0 ∈ data
  covers : (data.takeWhile (· ≠ 0)).length ≤ len
  allocated : len ≤ data.length

def PublicData.text (publicData : PublicData) : List UInt8 :=
  publicData.data.takeWhile (· ≠ 0)

/-- How `FillCertChain` fails. -/
inductive FillEnd
  | nullPointer
  | error
  deriving DecidableEq

/-- The loop that counts, at the position `pos`. -/
def countBegins (len pos : ℕ) (tempPubData : List UInt8) : ℕ :=
  match h : strstr pemBegin tempPubData with
  | none => 0
  | some found =>
    let offset := pos + (tempPubData.length - found.length) + pemBegin.length
    if offset > len then 0 else 1 + countBegins len offset (found.drop pemBegin.length)
termination_by tempPubData.length
decreasing_by
  have hspec := strstr_eq_some h
  have hsuffix := hspec.1.length_le
  have hfront := hspec.2.length_le
  have hpos : 0 < pemBegin.length := by decide
  rw [length_drop]
  omega

def pemItem (begin_ end_ : List UInt8) : List UInt8 :=
  begin_.take (begin_.length - end_.length + pemEnd.length) ++ [0]

def copyBlock (begin_ end_ : Option (List UInt8)) (chain : List (List UInt8)) :
    List (List UInt8) :=
  match begin_, end_ with
  | some b, some e => chain ++ [pemItem b e]
  | _, _ => chain

def pemLoop : ℕ → Option (List UInt8) → Option (List UInt8) → List (List UInt8) →
    Option (List (List UInt8))
  | 0, _, _, chain => some chain
  | i + 1, begin_, end_, chain =>
    match end_ with
    -- the pointer is looked at only where the block is copied
    | none => none
    | some last =>
      match strstr pemBegin last with
      | none => some (copyBlock begin_ end_ chain)
      | some b =>
        match strstr pemEnd b with
        | none => some (copyBlock begin_ end_ chain)
        | some e => pemLoop i (some b) (some e) (copyBlock begin_ end_ chain)

/-- `FillCertChain`; the chain is the list of its certificates. `OICMalloc` of nothing
gives a null pointer, and other allocations succeed. -/
def fillCertChain (chain : List (List UInt8)) (publicData : PublicData) :
    Except FillEnd (List (List UInt8)) :=
  let pemCertNum := countBegins publicData.len 0 publicData.text
  if pemCertNum > 0 then
    match strstr pemBegin publicData.text with
    | none => .error .nullPointer
    | some b =>
      match pemLoop pemCertNum (some b) (strstr pemEnd b) chain with
      | none => .error .nullPointer
      | some chain => .ok chain
  else if publicData.len = 0 then .error .error
  else .ok (chain ++ [publicData.data.take publicData.len])

structure Piece where
  gap : List UInt8
  body : List UInt8

def assemble : List Piece → List UInt8 → List UInt8
  | [], tail => tail
  | p :: ps, tail => p.gap ++ (pemBegin ++ (p.body ++ (pemEnd ++ assemble ps tail)))

def Plain (text : List UInt8) : Prop :=
  ¬ pemBegin <:+: text ∧ ¬ pemEnd <:+: text

/-- A bundle with these blocks: neither texts nor bodies hold a marker; behind the last block there
may be a BEGIN but no END marker. -/
structure IsBundle (text : List UInt8) (ps : List Piece) (tail : List UInt8) : Prop where
  eq : text = assemble ps tail
  plain : ∀ p ∈ ps, Plain p.gap ∧ Plain p.body
  noEnd : ¬ pemEnd <:+: tail
  marked : ps ≠ [] ∨ pemBegin <:+: tail

def Piece.item (p : Piece) : List UInt8 :=
  pemBegin ++ (p.body ++ pemEnd) ++ [0]

/-- **The splitting is exact**: it ends without following a null pointer, and what it
appends for a bundle is its blocks. -/
structure SplitsExactly (chain : List (List UInt8)) (publicData : PublicData) : Prop where
  ends : fillCertChain chain publicData ≠ .error .nullPointer
  blocks : ∀ ps tail, IsBundle publicData.text ps tail →
    fillCertChain chain publicData = .ok (chain ++ ps.map Piece.item)

/-- No marker of a block is read into the dashes of the marker before it, or into the end of
the text before it. -/
def Apart : List UInt8 → List Piece → Prop
  | _, [] => True
  | before, p :: ps =>
    ¬ pemBegin <:+: (before ++ p.gap ++ pemBegin).dropLast
      ∧ ¬ pemEnd <:+: (pemBegin ++ p.body ++ pemEnd).dropLast ∧ Apart pemEnd ps

/-- **The condition**: with a BEGIN marker there is one with an END marker behind it, and the
markers of a bundle share nothing with what is next to them. -/
structure Splittable (text : List UInt8) : Prop where
  closed : pemBegin <:+: text →
    ∃ before rest, text = before ++ rest ∧ pemBegin <+: rest ∧ pemEnd <:+: rest
  apart : ∀ ps tail, IsBundle text ps tail → Apart [] ps

@[simp] lemma length_pemBegin : pemBegin.length = 27 := rfl

@[simp] lemma length_pemEnd : pemEnd.length = 25 := rfl

lemma end_behind_begin {t e : List UInt8} (hbegin : pemBegin <+: t) (hsuffix : e <:+ t)
    (hend : pemEnd <+: e) : e.length + 22 ≤ t.length := by
  obtain ⟨before, rfl⟩ := hsuffix
  by_contra hlt
  have hshort : before.length < 22 := by
    rw [length_append] at hlt
    omega
  -- the two would agree where both have characters
  have hdrop : pemBegin.drop before.length <+: e := by
    simpa only [drop_left] using hbegin.drop before.length
  have hagree : (pemBegin.drop before.length).take 25 <+: pemEnd := by
    refine prefix_of_prefix_length_le ((List.take_prefix _ _).trans hdrop) hend ?_
    exact length_take_le 25 _
  generalize before.length = k at hshort hagree
  revert k
  decide

lemma begin_behind_end {t b : List UInt8} (hend : pemEnd <+: t) (hsuffix : b <:+ t)
    (hbegin : pemBegin <+: b) : b.length + 5 ≤ t.length := by
  obtain ⟨before, rfl⟩ := hsuffix
  by_contra hlt
  have hshort : before.length < 5 := by
    rw [length_append] at hlt
    omega
  have hdrop : pemEnd.drop before.length <+: b := by
    simpa only [drop_left] using hend.drop before.length
  have hagree : pemEnd.drop before.length <+: pemBegin := by
    refine prefix_of_prefix_length_le hdrop hbegin ?_
    rw [length_drop]
    exact (Nat.sub_le _ _).trans (by decide)
  generalize before.length = k at hshort hagree
  revert k
  decide

/-! ## What the searches find -/

inductive Splits : List UInt8 → List (List UInt8) → Prop
  | noBegin {t} (hbegin : strstr pemBegin t = none) : Splits t []
  | noEnd {t b} (hbegin : strstr pemBegin t = some b) (hend : strstr pemEnd b = none) :
      Splits t []
  | block {t b e items} (hbegin : strstr pemBegin t = some b) (hend : strstr pemEnd b = some e)
      (rest : Splits e items) : Splits t (pemItem b e :: items)

variable {t : List UInt8} {items : List (List UInt8)}

lemma exists_splits (t : List UInt8) : ∃ items, Splits t items := by
  induction hn : t.length using Nat.strong_induction_on generalizing t with
  | _ n ih =>
    cases hbegin : strstr pemBegin t with
    | none => exact ⟨[], .noBegin hbegin⟩
    | some b =>
      cases hend : strstr pemEnd b with
      | none => exact ⟨[], .noEnd hbegin hend⟩
      | some e =>
        obtain ⟨hb, hfront⟩ := strstr_eq_some hbegin
        obtain ⟨he, hfront'⟩ := strstr_eq_some hend
        have hshort := end_behind_begin hfront he hfront'
        have hle := hb.length_le
        obtain ⟨items, hitems⟩ := ih e.length (by omega) e rfl
        exact ⟨_, .block hbegin hend hitems⟩

lemma Splits.inv (h : Splits t items) :
    match strstr pemBegin t with
    | none => items = []
    | some b =>
      match strstr pemEnd b with
      | none => items = []
      | some e => ∃ rest, items = pemItem b e :: rest ∧ Splits e rest := by
  cases h with
  | noBegin hbegin => simp [hbegin]
  | noEnd hbegin hend => simp [hbegin, hend]
  | block hbegin hend rest =>
    simp only [hbegin, hend]
    exact ⟨_, rfl, rest⟩

lemma countBegins_eq {len pos : ℕ} (hlen : pos + t.length ≤ len) {b : List UInt8}
    (hbegin : strstr pemBegin t = some b) :
    ∃ pos', pos' + (b.drop 27).length ≤ len
      ∧ countBegins len pos t = 1 + countBegins len pos' (b.drop 27) := by
  obtain ⟨hsuffix, hfront⟩ := strstr_eq_some hbegin
  have hle := hsuffix.length_le
  have hlong : 27 ≤ b.length := hfront.length_le
  have hbound : pos + (t.length - b.length) + pemBegin.length ≤ len := by
    rw [length_pemBegin]
    omega
  refine ⟨pos + (t.length - b.length) + pemBegin.length, ?_, ?_⟩
  · rw [length_drop, length_pemBegin]
    omega
  · rw [countBegins]
    split
    · rename_i hnone
      rw [hbegin] at hnone
      cases hnone
    rename_i found hfound
    rw [hbegin] at hfound
    cases hfound
    rw [if_neg (Nat.not_lt.mpr hbound)]
    rfl

lemma countBegins_mono {len pos pos' : ℕ} {s : List UInt8} (hs : pos' + s.length ≤ len)
    (ht : pos + t.length ≤ len) (h : ∀ b, strstr pemBegin s = some b → b <:+ t) :
    countBegins len pos' s ≤ countBegins len pos t := by
  induction hn : t.length using Nat.strong_induction_on generalizing t s pos pos' with
  | _ n ih =>
    cases hbegin : strstr pemBegin s with
    | none =>
      rw [countBegins]
      split
      · exact Nat.zero_le _
      rename_i hfound
      rw [hbegin] at hfound
      cases hfound
    | some b =>
      have hb := h b hbegin
      have hfront := (strstr_eq_some hbegin).2
      obtain ⟨b', hbegin'⟩ := exists_strstr (hfront.isInfix.trans hb.isInfix)
      have hb' := strstr_eq_some hbegin'
      obtain ⟨q', hq', hcount'⟩ := countBegins_eq hs hbegin
      obtain ⟨q, hq, hcount⟩ := countBegins_eq ht hbegin'
      rw [hcount, hcount']
      refine Nat.add_le_add_left (ih (b'.drop 27).length ?_ hq' hq ?_ rfl) 1
      · have hlong : 27 ≤ b'.length := hb'.2.length_le
        have hle := hb'.1.length_le
        rw [length_drop]
        omega
      · intro c hc
        obtain ⟨front, rfl⟩ := suffix_of_strstr hbegin' hb hfront
        refine (strstr_eq_some hc).1.trans (suffix_of_suffix_length_le
          ((drop_suffix 27 b).trans (suffix_append front b)) (drop_suffix 27 _) ?_)
        rw [length_drop, length_drop, length_append]
        omega

lemma length_le_countBegins {len pos : ℕ} (h : Splits t items) (hlen : pos + t.length ≤ len) :
    items.length ≤ countBegins len pos t := by
  induction h generalizing pos with
  | noBegin _ => exact Nat.zero_le _
  | noEnd _ _ => exact Nat.zero_le _
  | @block t b e items hbegin hend _ ih =>
    obtain ⟨hb, hfront⟩ := strstr_eq_some hbegin
    obtain ⟨he, hfront'⟩ := strstr_eq_some hend
    obtain ⟨q, hq, hcount⟩ := countBegins_eq hlen hbegin
    have hbe := end_behind_begin hfront he hfront'
    have hle := hb.length_le
    have hpos : pos + e.length ≤ len := by omega
    rw [hcount, length_cons, Nat.add_comm]
    refine Nat.add_le_add_left ((ih hpos).trans (countBegins_mono hpos hq ?_)) 1
    -- the next BEGIN marker lies behind the whole of this one
    intro b' hbegin'
    obtain ⟨hb', hfront''⟩ := strstr_eq_some hbegin'
    have heb := begin_behind_end hfront' hb' hfront''
    refine suffix_of_suffix_length_le (hb'.trans he) (drop_suffix 27 b) ?_
    rw [length_drop]
    omega

lemma pemLoop_splits {b e : List UInt8} (hrest : Splits e items) {n : ℕ}
    (hn : items.length < n) (chain : List (List UInt8)) :
    pemLoop n (some b) (some e) chain = some (chain ++ pemItem b e :: items) := by
  induction n generalizing b e items chain with
  | zero => omega
  | succ n ih =>
    rw [pemLoop, copyBlock]
    cases hrest with
    | noBegin hnext => simp [hnext]
    | noEnd hnext hnextEnd => simp [hnext, hnextEnd]
    | block hnext hnextEnd hbehind =>
      simp only [hnext, hnextEnd]
      rw [ih hbehind (Nat.lt_of_succ_lt_succ hn), append_assoc, singleton_append]

/-! ## The blocks of a bundle -/

variable (publicData : PublicData) (chain : List (List UInt8))

lemma fillCertChain_splits (h : Splits publicData.text items) (hne : items ≠ []) :
    fillCertChain chain publicData = .ok (chain ++ items) := by
  have hcount := @length_le_countBegins _ _ publicData.len 0 h
    (by rw [Nat.zero_add]; exact publicData.covers)
  have hpos := length_pos_of_ne_nil hne
  rw [fillCertChain, if_pos (Nat.lt_of_lt_of_le hpos hcount)]
  cases h with
  | noBegin | noEnd => exact absurd rfl hne
  | block hbegin hend hrest =>
    simp only [hbegin, hend]
    rw [pemLoop_splits hrest hcount]

lemma fillCertChain_open {b : List UInt8} (hbegin : strstr pemBegin publicData.text = some b)
    (hend : strstr pemEnd b = none) : fillCertChain chain publicData = .error .nullPointer := by
  obtain ⟨q, -, hcount⟩ := @countBegins_eq _ publicData.len 0
    (by rw [Nat.zero_add]; exact publicData.covers) b hbegin
  simp only [fillCertChain, hcount, hbegin, hend]
  rw [if_pos (Nat.lt_of_lt_of_le Nat.zero_lt_one (Nat.le_add_right _ _)), Nat.add_comm, pemLoop]

lemma fillCertChain_der (hbegin : strstr pemBegin publicData.text = none) :
    fillCertChain chain publicData ≠ .error .nullPointer := by
  have hcount : countBegins publicData.len 0 publicData.text = 0 := by
    rw [countBegins]
    split
    · rfl
    rename_i hfound
    rw [hbegin] at hfound
    cases hfound
  rw [fillCertChain, hcount, if_neg (Nat.lt_irrefl 0)]
  split_ifs <;> simp

lemma pemItem_piece (p : Piece) (rest : List UInt8) :
    pemItem (pemBegin ++ (p.body ++ (pemEnd ++ rest))) (pemEnd ++ rest) = p.item := by
  have hwhole : pemBegin ++ (p.body ++ (pemEnd ++ rest))
      = (pemBegin ++ (p.body ++ pemEnd)) ++ rest := by simp
  rw [pemItem, Piece.item, hwhole, take_left']
  simp only [length_append]
  omega

lemma length_le_of_splits {ps : List Piece} {tail : List UInt8} (h : Splits t items)
    (hsuffix : assemble ps tail <:+ t) : ps.length ≤ items.length := by
  induction ps generalizing t items with
  | nil => exact Nat.zero_le _
  | cons p ps ih =>
    have hplace : pemBegin ++ (p.body ++ (pemEnd ++ assemble ps tail)) <:+ t :=
      (suffix_append p.gap _).trans hsuffix
    obtain ⟨b, hbegin⟩ := exists_strstr
      ((List.prefix_append pemBegin _).isInfix.trans hplace.isInfix)
    have hb := suffix_of_strstr hbegin hplace (List.prefix_append _ _)
    have hplaceEnd : pemEnd ++ assemble ps tail <:+ b := by
      refine List.IsSuffix.trans ?_ hb
      rw [← append_assoc]
      exact suffix_append _ _
    obtain ⟨e, hend⟩ := exists_strstr
      ((List.prefix_append pemEnd _).isInfix.trans hplaceEnd.isInfix)
    have he := suffix_of_strstr hend hplaceEnd (List.prefix_append _ _)
    have hinv := h.inv
    simp only [hbegin, hend] at hinv
    obtain ⟨rest, rfl, hrest⟩ := hinv
    exact Nat.succ_le_succ (ih hrest ((suffix_append _ _).trans he))

lemma splits_tail {tail : List UInt8} (hnoEnd : ¬ pemEnd <:+: tail) :
    Splits (pemEnd ++ tail) [] := by
  cases hbegin : strstr pemBegin (pemEnd ++ tail) with
  | none => exact .noBegin hbegin
  | some b =>
    cases hend : strstr pemEnd b with
    | none => exact .noEnd hbegin hend
    | some e =>
      obtain ⟨hb, hfront⟩ := strstr_eq_some hbegin
      obtain ⟨he, hfront'⟩ := strstr_eq_some hend
      have hfirst := begin_behind_end (List.prefix_append _ _) hb hfront
      have hsecond := end_behind_begin hfront he hfront'
      have hlong : (pemEnd ++ tail).length = 25 + tail.length := length_append
      have hin : e <:+ tail :=
        suffix_of_suffix_length_le (he.trans hb) (suffix_append _ _) (by omega)
      exact absurd (hfront'.isInfix.trans hin.isInfix) hnoEnd

lemma splits_blocks_iff {before tail : List UInt8} {ps : List Piece}
    (hbefore : ps = [] → before = pemEnd) (hnoEnd : ¬ pemEnd <:+: tail) :
    Splits (before ++ assemble ps tail) (ps.map Piece.item) ↔ Apart before ps := by
  induction ps generalizing before with
  | nil =>
    rw [hbefore rfl]
    exact iff_of_true (splits_tail hnoEnd) trivial
  | cons p ps ih =>
    -- the places of the two markers
    have hwhole : before ++ assemble (p :: ps) tail
        = (before ++ p.gap) ++ (pemBegin ++ (p.body ++ (pemEnd ++ assemble ps tail))) := by
      rw [assemble, append_assoc]
    have hbehind : pemBegin ++ (p.body ++ (pemEnd ++ assemble ps tail))
        = (pemBegin ++ p.body) ++ (pemEnd ++ assemble ps tail) := by
      rw [append_assoc]
    have hfirst := strstr_append_iff (show pemBegin ≠ [] by decide) (before ++ p.gap)
      (p.body ++ (pemEnd ++ assemble ps tail))
    have hsecond := strstr_append_iff (show pemEnd ≠ [] by decide) (pemBegin ++ p.body)
      (assemble ps tail)
    rw [← hwhole] at hfirst
    rw [← hbehind] at hsecond
    rw [Apart, ← hfirst, ← hsecond, ← ih (fun _ => rfl), map_cons]
    constructor
    · intro h
      have hplace : pemBegin ++ (p.body ++ (pemEnd ++ assemble ps tail))
          <:+ before ++ assemble (p :: ps) tail := by
        rw [hwhole]
        exact suffix_append _ _
      have hplaceEnd : pemEnd ++ assemble ps tail
          <:+ pemBegin ++ (p.body ++ (pemEnd ++ assemble ps tail)) := by
        rw [hbehind]
        exact suffix_append _ _
      obtain ⟨b, hbegin⟩ := exists_strstr
        ((List.prefix_append pemBegin _).isInfix.trans hplace.isInfix)
      have hb := suffix_of_strstr hbegin hplace (List.prefix_append _ _)
      obtain ⟨e, hend⟩ := exists_strstr
        ((List.prefix_append pemEnd _).isInfix.trans (hplaceEnd.trans hb).isInfix)
      have he := suffix_of_strstr hend (hplaceEnd.trans hb) (List.prefix_append _ _)
      have hinv := h.inv
      simp only [hbegin, hend] at hinv
      obtain ⟨rest, hitems, hrest⟩ := hinv
      obtain ⟨hitem, rfl⟩ := List.cons.inj hitems
      obtain ⟨hes, hprefixEnd⟩ := strstr_eq_some hend
      have hlater := end_behind_begin (strstr_eq_some hbegin).2 hes hprefixEnd
      -- the first item is the first block
      have hitem : b.take (b.length - e.length + 25) = pemBegin ++ (p.body ++ pemEnd) :=
        (append_cancel_right hitem).symm
      have hle : b.length - e.length + 25 ≤ b.length := by
        have hlong : 25 ≤ e.length := hprefixEnd.length_le
        omega
      have hsize := congrArg List.length hitem
      rw [length_take_of_le hle] at hsize
      simp only [length_append, length_pemBegin, length_pemEnd] at hsize
      have hlengths := hb.length_le
      have hlengthsEnd := he.length_le
      simp only [length_append, length_pemBegin, length_pemEnd] at hlengths hlengthsEnd
      obtain heq | hlt := Nat.eq_or_lt_of_le hlengths
      · -- it begins in its place, and so it ends in its place
        obtain rfl := hb.eq_of_length
          (by simp only [length_append, length_pemBegin, length_pemEnd]; exact heq)
        obtain rfl := he.eq_of_length (by simp only [length_append, length_pemEnd]; omega)
        exact ⟨hbegin, hend, hrest⟩
      exfalso
      obtain hin | hout := Nat.le_total e.length
        (pemBegin ++ (p.body ++ (pemEnd ++ assemble ps tail))).length
      · -- its END marker would not be the first one in it
        have hein : e <:+ pemBegin ++ (p.body ++ (pemEnd ++ assemble ps tail)) :=
          suffix_of_suffix_length_le (hes.trans (suffix_refl b)) hb hin
        obtain ⟨front, hfront⟩ := hein
        have hsize' := congrArg List.length hfront
        simp only [length_append, length_pemBegin, length_pemEnd] at hsize'
        have hagain : pemEnd <+: b.drop front.length := by
          have htake : pemEnd <+: (b.take (b.length - e.length + 25)).drop front.length := by
            rw [hitem]
            have hcut : pemBegin ++ (p.body ++ pemEnd) <+: front ++ e := by
              rw [hfront]
              simp only [← append_assoc]
              exact List.prefix_append _ _
            have hdrop := hcut.drop front.length
            rw [drop_left] at hdrop
            refine prefix_of_prefix_length_le hprefixEnd hdrop ?_
            simp only [length_drop, length_append, length_pemBegin, length_pemEnd]
            omega
          exact htake.trans ((List.take_prefix _ b).drop _)
        have hearly := (suffix_of_strstr hend (drop_suffix _ _) hagain).length_le
        rw [length_drop] at hearly
        omega
      -- all the blocks would still be behind it
      have hmore : assemble (⟨[], p.body⟩ :: ps) tail <:+ e :=
        suffix_of_suffix_length_le hb hes hout
      have hcount := length_le_of_splits hrest hmore
      rw [length_map, length_cons] at hcount
      omega
    · rintro ⟨hbegin, hend, hrest⟩
      rw [← pemItem_piece p (assemble ps tail)]
      exact .block hbegin hend hrest

/-- **Exactly then the splitting is exact.** -/
theorem fillCertChain_exact_iff (chain : List (List UInt8)) (publicData : PublicData) :
    SplitsExactly chain publicData ↔ Splittable publicData.text := by
  obtain ⟨items, hitems⟩ := exists_splits publicData.text
  constructor
  · rintro ⟨hends, hblocks⟩
    refine ⟨fun hmarked => ?_, fun ps tail hbundle => ?_⟩
    · obtain ⟨b, hbegin⟩ := exists_strstr hmarked
      obtain ⟨⟨before, hbefore⟩, hfront⟩ := strstr_eq_some hbegin
      refine ⟨before, b, hbefore.symm, hfront, ?_⟩
      by_contra hopen
      exact hends (fillCertChain_open publicData chain hbegin (strstr_eq_none_iff.mpr hopen))
    · cases ps with
      | nil => trivial
      | cons p ps =>
        have hfilled := hblocks _ _ hbundle
        have hcount := length_le_of_splits hitems (by rw [hbundle.eq])
        have hne : items ≠ [] := by
          rintro rfl
          simp at hcount
        rw [fillCertChain_splits publicData chain hitems hne] at hfilled
        rw [append_cancel_left (Except.ok.inj hfilled), hbundle.eq] at hitems
        exact (splits_blocks_iff (fun h => absurd h (cons_ne_nil _ _)) hbundle.noEnd).mp hitems
  · rintro ⟨hclosed, hapart⟩
    -- an END marker behind some BEGIN marker is behind the first one
    have hfound : ∀ {b}, strstr pemBegin publicData.text = some b →
        ∃ e, strstr pemEnd b = some e := by
      intro b hbegin
      obtain ⟨hsuffix, hfront⟩ := strstr_eq_some hbegin
      obtain ⟨before, rest, heq, hbegin', hend'⟩ :=
        hclosed (hfront.isInfix.trans hsuffix.isInfix)
      have hrest := suffix_of_strstr hbegin ⟨before, heq.symm⟩ hbegin'
      exact exists_strstr (hend'.trans hrest.isInfix)
    constructor
    · cases hbegin : strstr pemBegin publicData.text with
      | none => exact fillCertChain_der publicData chain hbegin
      | some b =>
        obtain ⟨e, hend⟩ := hfound hbegin
        have hinv := hitems.inv
        simp only [hbegin, hend] at hinv
        obtain ⟨rest, rfl, -⟩ := hinv
        rw [fillCertChain_splits publicData chain hitems (cons_ne_nil _ _)]
        exact fun h => nomatch h
    · intro ps tail hbundle
      cases ps with
      | nil =>
        -- a BEGIN marker and no END marker
        have hmarked := hbundle.marked.resolve_left (fun h => h rfl)
        have htext : publicData.text = tail := hbundle.eq
        rw [← htext] at hmarked
        obtain ⟨before, rest, heq, -, hend'⟩ := hclosed hmarked
        refine absurd (hend'.trans ?_) hbundle.noEnd
        rw [← htext, heq]
        exact (suffix_append before rest).isInfix
      | cons p ps =>
        refine fillCertChain_splits publicData chain ?_ (by simp)
        rw [hbundle.eq]
        exact (splits_blocks_iff (fun h => absurd h (cons_ne_nil _ _)) hbundle.noEnd).mpr
          (hapart _ _ hbundle)

def beginAlone : PublicData where
  data := pemBegin ++ [0]
  len := 28
  ended := by decide
  covers := by decide
  allocated := by decide

theorem beginAlone_nullPointer : ¬ SplitsExactly [] beginAlone := by
  intro h
  have hbegin : strstr pemBegin beginAlone.text = some pemBegin := by decide
  exact h.ends (fillCertChain_open beginAlone [] hbegin (by decide))

end Iochibity.Sec.CertChain

namespace Iochibity.Sec.RoleCert

open CharField
open List

def asserting : List GeneralName → List (List X509Name)
  | [] => []
  | .directoryName directoryName :: names =>
    if (cns directoryName).isEmpty then asserting names else directoryName :: asserting names
  | _ :: names => asserting names

def assertedAuthorities (issuer name : List X509Name) : List (List UInt8) :=
  match ous name with
  | ou :: _ => [ou]
  | [] => if (cns issuer).isEmpty then [[]] else cns issuer

/-- A role is the one of a name: its id is the first CN, its authority is as asserted, and no
byte of a field is from another name. -/
structure RoleOf (issuer name : List X509Name) (role : RoleSlot) : Prop where
  id_eq : ∃ cn ∈ (cns name).head?, text role.id.cells = text cn
  authority_eq : ∃ authority ∈ assertedAuthorities issuer name,
    text role.authority.cells = text authority
  id_own : ∀ i < roleIdLength, role.id.cell i ≠ 0 → ∃ v ∈ cns name, v.getD i 0 = role.id.cell i
  authority_own : ∀ i < roleAuthorityLength, role.authority.cell i ≠ 0 →
    ∃ v ∈ ous name ++ cns issuer, v.getD i 0 = role.authority.cell i

/-- **The roles are right**: no copy is too long; a certificate with too many names is refused;
another is not, as far as there is memory; and the roles are those of the names, in order. -/
def RolesExact (memory : VerifyMemory) (certChain : X509Crt) (outcome : Option Verdict) : Prop :=
  ∃ verdict, outcome = some verdict
    ∧ (maxRolesPerCert ≤ (asserting certChain.subjectAltNames).length →
        verdict.result ≠ .ok ∧ verdict.roles = none)
    ∧ ((asserting certChain.subjectAltNames).length < maxRolesPerCert → memory.roles = true →
        verdict.result = .ok ∧ verdict.roles.isSome)
    ∧ ∀ roles, verdict.roles = some roles →
        List.Forall₂ (RoleOf certChain.issuer) (asserting certChain.subjectAltNames) roles

/-- The call gets to the roles: there is memory for the copy, `OCInternalIsValidRoleCertificate`
accepts the certificate, and mbedTLS verifies it. -/
structure Accepted (tls : Mbedtls) (memory : VerifyMemory) (certificateChain : List UInt8)
    (trustedCaCerts : List (List UInt8)) (certChain : X509Crt) : Prop where
  valid : ∃ data, terminated memory certificateChain = some data
    ∧ isValidRoleCertificate tls data = .ok ∧ tls.crtParse data = some certChain
  anchors : 0 < (tls.parseChain trustedCaCerts).1 ∧ (tls.parseChain trustedCaCerts).2 = 0
  verified : tls.crtVerify certChain trustedCaCerts = true

/-! ## What is copied -/

structure Assertion where
  before : List (List UInt8)
  name : List X509Name

/-- The directory names with a CN. `before` are the OUs that have been seen since the last. -/
def assertions : List (List UInt8) → List GeneralName → List Assertion
  | _, [] => []
  | before, .directoryName directoryName :: names =>
    if (cns directoryName).isEmpty then assertions (before ++ ous directoryName) names
    else ⟨before, directoryName⟩ :: assertions [] names
  | before, _ :: names => assertions before names

namespace Assertion

def authorities (assertion : Assertion) : List (List UInt8) :=
  assertion.before ++ ous assertion.name

def usesIssuer (assertion : Assertion) : Bool :=
  !assertion.before.all blank || (ous assertion.name).isEmpty

section

variable (issuer : List X509Name) (assertion : Assertion)

def written : List (List UInt8) :=
  reaching assertion.authorities ++ if assertion.usesIssuer then cns issuer else []

def IdStands (assertion : Assertion) : Prop :=
  (∃ cn ∈ (cns assertion.name).head?, blank cn = false) ∨ (cns assertion.name).all blank = true

def AuthorityStands : Prop :=
  (∃ authority ∈ assertedAuthorities issuer assertion.name,
      Shows (assertion.written issuer) (text authority))
    ∧ ∀ i < roleAuthorityLength, shown (assertion.written issuer) i ≠ 0 →
        ∃ v ∈ ous assertion.name ++ cns issuer, v.getD i 0 = shown (assertion.written issuer) i

def role : RoleSlot :=
  ⟨CharField.zero.writeAll (reaching (cns assertion.name)),
    CharField.zero.writeAll (assertion.written issuer)⟩

def short : Bool :=
  (reaching (cns assertion.name)).all fits && (assertion.written issuer).all fits

end

end Assertion

def shortCopies (issuer : List X509Name) : ℕ → List (List UInt8) → List GeneralName → Bool
  | 0, _, _ => true
  | _ + 1, _, [] => true
  | room + 1, before, .directoryName directoryName :: names =>
    if (cns directoryName).isEmpty then
      (reaching (before ++ ous directoryName)).all fits
        && shortCopies issuer (room + 1) (before ++ ous directoryName) names
    else
      Assertion.short issuer ⟨before, directoryName⟩ && shortCopies issuer room [] names
  | room + 1, before, _ :: names => shortCopies issuer (room + 1) before names

/-- **A certificate that gives its roles**: all copied values have less than 64 bytes; and when it
is to be accepted, each slot shows the first CN and the asserted authority. -/
def Undisturbed (memory : VerifyMemory) (certChain : X509Crt) : Prop :=
  shortCopies certChain.issuer maxRolesPerCert [] certChain.subjectAltNames = true
    ∧ ((asserting certChain.subjectAltNames).length < maxRolesPerCert → memory.roles = true →
        ∀ assertion ∈ assertions [] certChain.subjectAltNames,
          assertion.IdStands ∧ assertion.AuthorityStands certChain.issuer)

/-! ## The walk over a directory name -/

lemma fits_iff (val : List UInt8) : fits val = true ↔ val.length < roleIdLength := by
  rw [fits, decide_eq_true_iff]

lemma all_fits {values : List (List UInt8)} (h : values.all fits = true) :
    ∀ v ∈ values, v.length ≤ roleIdLength :=
  fun v hv => Nat.le_of_lt ((fits_iff v).mp (all_eq_true.mp h v hv))

lemma all_fits_authority {values : List (List UInt8)} (h : values.all fits = true) :
    ∀ v ∈ values, v.length ≤ roleAuthorityLength :=
  all_fits h

lemma cn_ne_ou : mbedtlsOidAtCn ≠ mbedtlsOidAtOrgUnit := by decide

lemma valuesOf_cons (oid : List UInt8) (name : X509Name) (names : List X509Name) :
    valuesOf oid (name :: names) = valuesOf oid [name] ++ valuesOf oid names := by
  rw [valuesOf, valuesOf, valuesOf, ← map_append, ← filter_append, singleton_append]

lemma valuesOf_singleton {oid : List UInt8} {name : X509Name} (h : name.oid = oid) :
    valuesOf oid [name] = [name.val] := by
  rw [valuesOf, filter_cons_of_pos (by simpa using h), filter_nil, map_cons, map_nil]

lemma valuesOf_other {oid : List UInt8} {name : X509Name} (h : name.oid ≠ oid) :
    valuesOf oid [name] = [] := by
  rw [valuesOf, filter_cons_of_neg (by simpa using h), filter_nil, map_nil]

variable (walk : NameWalk)

section

variable (names : List X509Name)

def NameWalk.ids : List (List UInt8) :=
  admitted walk.slot.id (cns names)

def NameWalk.authorities : List (List UInt8) :=
  admitted walk.slot.authority (ous names)

def NameWalk.after (ids authorities : List (List UInt8)) : NameWalk :=
  ⟨⟨walk.slot.id.writeAll ids, walk.slot.authority.writeAll authorities⟩,
    walk.advanceCount || !ids.isEmpty, walk.addAuthority && authorities.isEmpty⟩

def NameWalk.copied : Option NameWalk :=
  if (walk.ids names ++ walk.authorities names).all fits then
    some (walk.after (walk.ids names) (walk.authorities names))
  else none

lemma NameWalk.after_nil : walk.after [] [] = walk := by
  simp [NameWalk.after, writeAll]

lemma NameWalk.after_after (ids authorities ids' authorities' :
    List (List UInt8)) :
    (walk.after ids authorities).after ids' authorities'
      = walk.after (ids ++ ids') (authorities ++ authorities') := by
  have hempty : ∀ vs ws : List (List UInt8), (vs ++ ws).isEmpty = (vs.isEmpty && ws.isEmpty) := by
    intro vs ws
    cases vs with
    | nil | cons => simp
  simp [NameWalk.after, writeAll, hempty, Bool.or_assoc, Bool.and_assoc]

lemma nameStep_eq (name : X509Name) : nameStep walk name = walk.copied [name] := by
  by_cases hcn : name.oid = mbedtlsOidAtCn
  · have hother : walk.authorities [name] = [] := by
      rw [NameWalk.authorities, ous, valuesOf_other (by rw [hcn]; exact cn_ne_ou), admitted_nil]
    by_cases hopen : walk.slot.id.cell 0 = 0
    · have hid : walk.ids [name] = [name.val] := by
        rw [NameWalk.ids, cns, valuesOf_singleton hcn, admitted_singleton hopen]
      rw [nameStep, if_pos ⟨hcn, hopen⟩, NameWalk.copied, hid, hother, assertedCopy,
        append_nil, all_cons, all_nil, Bool.and_true]
      split
      · simp [NameWalk.after, writeAll]
      · rfl
    have hid : walk.ids [name] = [] := admitted_of_full hopen _
    rw [nameStep, if_neg (hopen ·.2),
      if_neg (fun h => cn_ne_ou (hcn.symm.trans h.1)), NameWalk.copied, hid, hother,
      NameWalk.after_nil, append_nil, all_nil, if_pos rfl]
  have hid : walk.ids [name] = [] := by
    rw [NameWalk.ids, cns, valuesOf_other hcn, admitted_nil]
  by_cases hou : name.oid = mbedtlsOidAtOrgUnit ∧ walk.slot.authority.cell 0 = 0
  · have hauthority : walk.authorities [name] = [name.val] := by
      rw [NameWalk.authorities, ous, valuesOf_singleton hou.1, admitted_singleton hou.2]
    rw [nameStep, if_neg (hcn ·.1), if_pos hou, NameWalk.copied, hid, hauthority,
      assertedCopy, nil_append, all_cons, all_nil, Bool.and_true]
    split
    · simp [NameWalk.after, writeAll]
    · rfl
  have hauthority : walk.authorities [name] = [] := by
    by_cases hoid : name.oid = mbedtlsOidAtOrgUnit
    · exact admitted_of_full (hou ⟨hoid, ·⟩) _
    · rw [NameWalk.authorities, ous, valuesOf_other hoid, admitted_nil]
  rw [nameStep, if_neg (hcn ·.1), if_neg hou, NameWalk.copied, hid, hauthority,
    NameWalk.after_nil, append_nil, all_nil, if_pos rfl]

lemma walk_eq (walk : NameWalk) : names.foldlM nameStep walk = walk.copied names := by
  induction names generalizing walk with
  | nil =>
    have hid : walk.ids [] = [] := admitted_nil _
    have hauthority : walk.authorities [] = [] := admitted_nil _
    rw [NameWalk.copied, hid, hauthority, NameWalk.after_nil, append_nil, all_nil, if_pos rfl]
    rfl
  | cons name names ih =>
    have hcns : cns (name :: names) = cns [name] ++ cns names := valuesOf_cons _ _ _
    have hous : ous (name :: names) = ous [name] ++ ous names := valuesOf_cons _ _ _
    rw [foldlM_cons, nameStep_eq]
    by_cases hfit : (walk.ids [name] ++ walk.authorities [name]).all fits = true
    · -- The fields admit of the rest what they would after the first attribute.
      rw [all_append, Bool.and_eq_true] at hfit
      have hid : walk.ids (name :: names) = walk.ids [name]
          ++ (walk.after (walk.ids [name]) (walk.authorities [name])).ids names := by
        rw [NameWalk.ids, hcns, admitted_append _ _ _ (all_fits hfit.1)]
        rfl
      have hauthority : walk.authorities (name :: names) = walk.authorities [name]
          ++ (walk.after (walk.ids [name]) (walk.authorities [name])).authorities names := by
        rw [NameWalk.authorities, hous, admitted_append _ _ _ (all_fits_authority hfit.2)]
        rfl
      rw [NameWalk.copied, all_append, hfit.1, hfit.2, Bool.and_true, if_pos rfl]
      refine (ih _).trans ?_
      rw [NameWalk.copied, NameWalk.copied, hid, hauthority, NameWalk.after_after,
        all_append, all_append, all_append, all_append, hfit.1, hfit.2,
        Bool.true_and, Bool.true_and]
    have hnot : (walk.ids (name :: names) ++ walk.authorities (name :: names)).all fits ≠ true := by
      intro hall
      rw [all_append, Bool.and_eq_true] at hall
      apply hfit
      rw [all_append, Bool.and_eq_true]
      constructor
      · rw [NameWalk.ids, hcns] at hall
        exact all_eq_true.mpr fun v hv =>
          all_eq_true.mp hall.1 v (admitted_subset_append _ _ _ hv)
      · rw [NameWalk.authorities, hous] at hall
        exact all_eq_true.mpr fun v hv =>
          all_eq_true.mp hall.2 v (admitted_subset_append _ _ _ hv)
    rw [NameWalk.copied, if_neg hfit, NameWalk.copied, if_neg hnot]
    rfl

end

lemma addIssuer_eq (issuer : List X509Name) (authority : CharField UInt8 roleAuthorityLength) :
    addIssuer issuer authority
      = if (cns issuer).all fits then some (authority.writeAll (cns issuer)) else none := by
  induction issuer generalizing authority with
  | nil => rfl
  | cons name issuer ih =>
    have hcns : cns (name :: issuer) = cns [name] ++ cns issuer := valuesOf_cons _ _ _
    rw [addIssuer, foldlM_cons, hcns]
    by_cases hcn : name.oid = mbedtlsOidAtCn
    · have hone : cns [name] = [name.val] := valuesOf_singleton hcn
      rw [if_pos hcn, assertedCopy, hone, singleton_append, all_cons]
      by_cases hfit : fits name.val = true
      · rw [if_pos hfit, hfit, Bool.true_and]
        exact ih (authority.write name.val)
      rw [if_neg hfit]
      rw [Bool.not_eq_true] at hfit
      rw [hfit, Bool.false_and, if_neg Bool.false_ne_true]
      rfl
    have hnone : cns [name] = [] := valuesOf_other hcn
    rw [if_neg hcn, hnone, nil_append]
    exact ih authority

/-! ## The extraction -/

def slotAfter (before : List (List UInt8)) : RoleSlot :=
  ⟨.zero, CharField.zero.writeAll (reaching before)⟩

def freshWalk (before : List (List UInt8)) : NameWalk := ⟨slotAfter before, false, true⟩

lemma freshWalk_ids (before : List (List UInt8)) (name : List X509Name) :
    (freshWalk before).ids name = reaching (cns name) :=
  admitted_zero _

variable {before : List (List UInt8)}

section

variable (hbefore : (reaching before).all fits = true) (name : List X509Name)
include hbefore

lemma freshWalk_authorities :
    reaching before ++ (freshWalk before).authorities name = reaching (before ++ ous name) := by
  have hshort : ∀ v ∈ admitted (CharField.zero : CharField UInt8 roleAuthorityLength) before,
      v.length ≤ roleAuthorityLength := by
    rw [admitted_zero]
    exact all_fits_authority hbefore
  have happend := admitted_append _ before (ous name) hshort
  rw [admitted_zero, admitted_zero] at happend
  exact happend.symm

lemma freshWalk_authorities_isEmpty :
    ((freshWalk before).authorities name).isEmpty = Assertion.usesIssuer ⟨before, name⟩ := by
  have hempty := writeAll_reaching_empty
    (cell_zero 0 : (CharField.zero : CharField UInt8 roleAuthorityLength).cell 0 = 0)
    (all_fits_authority hbefore)
  rw [NameWalk.authorities, admitted, Assertion.usesIssuer]
  by_cases hblank : before.all blank = true
  · rw [hblank, Bool.not_true, Bool.false_or]
    refine (congrArg List.isEmpty (if_pos (hempty.mpr hblank))).trans ?_
    exact reaching_isEmpty _
  rw [Bool.not_eq_true] at hblank
  rw [hblank, Bool.not_false, Bool.true_or]
  refine (congrArg List.isEmpty (if_neg fun hzero => ?_)).trans rfl
  rw [hempty.mp hzero] at hblank
  exact Bool.noConfusion hblank

lemma freshWalk_eq :
    name.foldlM nameStep (freshWalk before)
      = if (reaching (cns name)).all fits && (reaching (before ++ ous name)).all fits then
          some ⟨⟨CharField.zero.writeAll (reaching (cns name)),
              CharField.zero.writeAll (reaching (before ++ ous name))⟩,
            !(cns name).isEmpty, Assertion.usesIssuer ⟨before, name⟩⟩
        else none := by
  have hfits : (reaching (before ++ ous name)).all fits
      = ((freshWalk before).authorities name).all fits := by
    rw [← freshWalk_authorities hbefore name, all_append, hbefore, Bool.true_and]
  rw [walk_eq, NameWalk.copied, all_append, hfits, NameWalk.after,
    freshWalk_authorities_isEmpty hbefore, freshWalk_ids, reaching_isEmpty,
    ← freshWalk_authorities hbefore name]
  simp [freshWalk, slotAfter, writeAll]

end

variable {name : List X509Name}

lemma extractName_skips (issuer : List X509Name) (hbefore : (reaching before).all fits = true)
    (hname : (cns name).isEmpty = true) (filled : List RoleSlot) :
    extractName issuer ⟨filled, slotAfter before⟩ (.directoryName name)
      = if (reaching (before ++ ous name)).all fits then
          some ⟨filled, slotAfter (before ++ ous name)⟩
        else none := by
  have hnil : cns name = [] := List.isEmpty_iff.mp hname
  have hwalk := freshWalk_eq hbefore name
  rw [hnil] at hwalk
  rw [extractName]
  refine (congrArg (Option.bind · _) hwalk).trans ?_
  rw [reaching, all_nil, Bool.true_and]
  split
  · rw [Option.bind_some, isEmpty_nil, Bool.not_true, if_neg Bool.false_ne_true]
    rfl
  · rfl

lemma extractName_fills (issuer : List X509Name) (hbefore : (reaching before).all fits = true)
    (hname : (cns name).isEmpty = false) (filled : List RoleSlot) :
    extractName issuer ⟨filled, slotAfter before⟩ (.directoryName name)
      = if Assertion.short issuer ⟨before, name⟩ then
          some ⟨filled ++ [Assertion.role issuer ⟨before, name⟩], RoleSlot.zero⟩
        else none := by
  have hwalk := freshWalk_eq hbefore name
  rw [hname] at hwalk
  rw [extractName]
  refine (congrArg (Option.bind · _) hwalk).trans ?_
  rw [Assertion.short, Assertion.role, Assertion.written, Assertion.authorities, all_append]
  by_cases hcns : (reaching (cns name)).all fits = true
  · by_cases hous : (reaching (before ++ ous name)).all fits = true
    · rw [hcns, hous, Bool.true_and, if_pos rfl, Option.bind_some, Bool.not_false, if_pos rfl]
      cases huses : Assertion.usesIssuer ⟨before, name⟩ with
      | true =>
        rw [if_pos rfl, if_pos rfl, addIssuer_eq, Bool.true_and, Bool.true_and]
        split
        · simp [writeAll]
        · rfl
      | false =>
        rw [if_neg Bool.false_ne_true, if_neg Bool.false_ne_true, all_nil, append_nil]
        rfl
    rw [Bool.not_eq_true] at hous
    rw [hous, Bool.false_and, Bool.and_false, if_neg Bool.false_ne_true]
    rfl
  rw [Bool.not_eq_true] at hcns
  rw [hcns, Bool.false_and, Bool.false_and, if_neg Bool.false_ne_true]
  rfl

lemma extractRoles_eq (issuer : List X509Name) (names : List GeneralName) :
    ∀ (room : ℕ) (before : List (List UInt8)) (filled : List RoleSlot),
      filled.length + room = maxRolesPerCert → (reaching before).all fits = true →
      (extractRoles issuer names ⟨filled, slotAfter before⟩).map RolesTmp.filled
        = if shortCopies issuer room before names then
            some (filled ++ ((assertions before names).take room).map (Assertion.role issuer))
          else none := by
  induction names with
  | nil =>
    intro room before filled hroom hbefore
    have hshort : shortCopies issuer room before [] = true := by
      cases room with
      | zero | succ => rfl
    rw [hshort, if_pos rfl, assertions, take_nil, map_nil, append_nil]
    rfl
  | cons nameCur names ih =>
    intro room before filled hroom hbefore
    cases room with
    | zero =>
      have hfull : ¬ filled.length < maxRolesPerCert := by omega
      rw [extractRoles, RolesTmp.count, if_neg hfull, shortCopies, if_pos rfl,
        take_zero, map_nil, append_nil]
      rfl
    | succ room =>
      have hopen : filled.length < maxRolesPerCert := by omega
      rw [extractRoles, RolesTmp.count, if_pos hopen]
      cases nameCur with
      | unset | dnsName => exact ih (room + 1) before filled hroom hbefore
      | directoryName name =>
        cases hname : (cns name).isEmpty with
        | true =>
          rw [extractName_skips issuer hbefore hname, shortCopies, assertions, hname,
            if_pos rfl, if_pos rfl]
          by_cases hfit : (reaching (before ++ ous name)).all fits = true
          · rw [if_pos hfit, Option.bind_some, hfit, Bool.true_and]
            exact ih (room + 1) _ filled hroom hfit
          rw [if_neg hfit]
          rw [Bool.not_eq_true] at hfit
          rw [hfit, Bool.false_and, if_neg Bool.false_ne_true]
          rfl
        | false =>
          rw [extractName_fills issuer hbefore hname, shortCopies, assertions, hname,
            if_neg Bool.false_ne_true, if_neg Bool.false_ne_true]
          cases hfit : Assertion.short issuer ⟨before, name⟩ with
          | true =>
            have hnext : (filled ++ [Assertion.role issuer ⟨before, name⟩]).length + room
                = maxRolesPerCert := by
              rw [length_append, length_singleton]
              omega
            rw [if_pos rfl, Option.bind_some, Bool.true_and, take_succ_cons, map_cons]
            refine (ih room [] _ hnext rfl).trans ?_
            simp
          | false =>
            rw [if_neg Bool.false_ne_true, Bool.false_and, if_neg Bool.false_ne_true]
            rfl

/-! ## The call -/

lemma assertions_names (names : List GeneralName) (before : List (List UInt8)) :
    (assertions before names).map Assertion.name = asserting names := by
  induction names generalizing before with
  | nil => rfl
  | cons nameCur names ih =>
    cases nameCur with
    | unset | dnsName => exact ih before
    | directoryName name =>
      rw [assertions, asserting]
      split
      · exact ih _
      · rw [map_cons, ih]

lemma assertions_length (names : List GeneralName) (before : List (List UInt8)) :
    (assertions before names).length = (asserting names).length := by
  rw [← assertions_names names before, length_map]

variable {names : List GeneralName} {assertion : Assertion}

lemma cns_ne_nil_of_mem (h : assertion ∈ assertions before names) :
    (cns assertion.name).isEmpty = false := by
  induction names generalizing before with
  | nil => exact absurd h not_mem_nil
  | cons nameCur names ih =>
    cases nameCur with
    | unset | dnsName => exact ih h
    | directoryName name =>
      rw [assertions] at h
      cases hname : (cns name).isEmpty with
      | true =>
        rw [hname, if_pos rfl] at h
        exact ih h
      | false =>
        rw [hname, if_neg Bool.false_ne_true] at h
        rcases mem_cons.mp h with rfl | hrest
        · exact hname
        · exact ih hrest

variable {issuer : List X509Name}

lemma short_of_mem {room : ℕ} (hshort : shortCopies issuer room before names = true)
    (h : assertion ∈ (assertions before names).take room) :
    assertion.short issuer = true := by
  induction names generalizing room before with
  | nil =>
    rw [assertions, take_nil] at h
    simp at h
  | cons nameCur names ih =>
    cases room with
    | zero => exact absurd h (by rw [take_zero]; exact not_mem_nil)
    | succ room =>
      cases nameCur with
      | unset | dnsName => exact ih hshort h
      | directoryName name =>
        rw [assertions] at h
        rw [shortCopies] at hshort
        cases hname : (cns name).isEmpty with
        | true =>
          rw [hname, if_pos rfl] at h hshort
          rw [Bool.and_eq_true] at hshort
          exact ih hshort.2 h
        | false =>
          rw [hname, if_neg Bool.false_ne_true] at h hshort
          rw [Bool.and_eq_true] at hshort
          rw [take_succ_cons] at h
          rcases mem_cons.mp h with rfl | hrest
          · exact hshort.1
          · exact ih hshort.2 hrest

lemma checkDirectoryName_eq {names : List X509Name} {valid valid' : Bool}
    (h : checkDirectoryName valid names = some valid') :
    valid' = (valid || !(cns names).isEmpty) := by
  induction names generalizing valid with
  | nil =>
    rw [checkDirectoryName] at h
    injection h with h
    rw [← h]
    exact (Bool.or_false valid).symm
  | cons name names ih =>
    have hcns : cns (name :: names) = cns [name] ++ cns names := valuesOf_cons _ _ _
    rw [checkDirectoryName] at h
    rw [hcns]
    by_cases hcn : name.oid = mbedtlsOidAtCn
    · have hone : cns [name] = [name.val] := valuesOf_singleton hcn
      rw [if_pos hcn] at h
      rw [hone, singleton_append, isEmpty_cons, Bool.not_false, Bool.or_true]
      split at h
      · exact nomatch h
      · rw [ih h, Bool.true_or]
    have hnone : cns [name] = [] := valuesOf_other hcn
    rw [if_neg hcn] at h
    rw [hnone, nil_append]
    split at h
    · split at h
      · exact nomatch h
      · exact ih h
    · exact ih h

lemma asserting_of_checkNames
    (h : checkNames false names = some true) : asserting names ≠ [] := by
  induction names with
  | nil => exact absurd h (by rw [checkNames]; exact nofun)
  | cons nameCur names ih =>
    rw [checkNames] at h
    cases nameCur with
    | unset | dnsName => exact ih h
    | directoryName name =>
      rw [checkName] at h
      obtain ⟨valid, hcheck, hrest⟩ := Option.bind_eq_some_iff.mp h
      have hvalid := checkDirectoryName_eq hcheck
      rw [asserting]
      cases hname : (cns name).isEmpty with
      | true =>
        rw [hname, Bool.not_true, Bool.or_false] at hvalid
        rw [hvalid, if_neg Bool.false_ne_true] at hrest
        rw [if_pos rfl]
        exact ih hrest
      | false =>
        rw [if_neg Bool.false_ne_true]
        simp

lemma checkNames_of_valid {tls : Mbedtls} {data : List UInt8} {certChain : X509Crt}
    (hvalid : isValidRoleCertificate tls data = .ok) (hparse : tls.crtParse data = some certChain) :
    checkNames false certChain.subjectAltNames = some true := by
  rw [isValidRoleCertificate, hparse] at hvalid
  dsimp only at hvalid
  split at hvalid
  · exact nomatch hvalid
  split at hvalid
  · exact nomatch hvalid
  split at hvalid
  · exact nomatch hvalid
  split at hvalid
  · assumption
  · exact nomatch hvalid

lemma verify_eq {tls : Mbedtls} {memory : VerifyMemory} {certificateChain : List UInt8}
    {trustedCaCerts : List (List UInt8)} {certChain : X509Crt}
    (h : Accepted tls memory certificateChain trustedCaCerts certChain) :
    verifyRoleCertificate tls memory certificateChain trustedCaCerts
      = if shortCopies certChain.issuer maxRolesPerCert [] certChain.subjectAltNames then
          some (handOut memory certChain
            (((assertions [] certChain.subjectAltNames).take maxRolesPerCert).map
              (Assertion.role certChain.issuer)))
        else none := by
  obtain ⟨data, hdata, hvalid, hparse⟩ := h.valid
  have hextract := extractRoles_eq certChain.issuer certChain.subjectAltNames maxRolesPerCert []
    [] (Nat.zero_add _) rfl
  have hcount : ¬ (tls.parseChain trustedCaCerts).1 ≤ 0 := Int.not_le.mpr h.anchors.1
  rw [verifyRoleCertificate, hdata]
  dsimp only
  rw [if_neg (· hvalid), hparse]
  dsimp only
  rw [if_neg hcount, if_neg (· h.anchors.2), h.verified, if_neg nofun]
  refine (Option.map_map (handOut memory certChain) RolesTmp.filled _).symm.trans ?_
  refine (congrArg (Option.map (handOut memory certChain)) hextract).trans ?_
  rw [nil_append]
  split
  · rfl
  · rfl

/-! ## When the roles are right -/

lemma id_iff (before : List (List UInt8)) (hname : (cns name).isEmpty = false)
    (hshort : (reaching (cns name)).all fits = true) :
    (∃ cn ∈ (cns name).head?,
        text (CharField.zero.writeAll (reaching (cns name)) :
          CharField UInt8 roleIdLength).cells = text cn)
      ↔ Assertion.IdStands ⟨before, name⟩ := by
  rw [Assertion.IdStands]
  cases hcns : cns name with
  | nil => exact absurd hname (by rw [hcns, isEmpty_nil]; exact nofun)
  | cons cn rest =>
    rw [hcns] at hshort
    have hiff := text_reaching_iff (all_fits hshort)
    have hall : (cn :: rest).all blank = true ↔ blank cn = true ∧ rest.all blank = true := by
      simp
    simp only [head?_cons, Option.mem_def, Option.some.injEq, exists_eq_left', hall]
    rw [hiff]
    cases blank cn with
    | true => exact or_congr_right (iff_of_eq (true_and _).symm |>.trans (by rw [eq_self]))
    | false => simp

lemma roleOf_iff (hname : (cns assertion.name).isEmpty = false)
    (hshort : assertion.short issuer = true) :
    RoleOf issuer assertion.name (assertion.role issuer)
      ↔ assertion.IdStands ∧ assertion.AuthorityStands issuer := by
  rw [Assertion.short, Bool.and_eq_true] at hshort
  obtain ⟨hids, hauthorities⟩ := hshort
  have hid := id_iff assertion.before hname hids
  have hcell : ∀ i, (assertion.role issuer).authority.cell i = shown (assertion.written issuer) i :=
    cell_writeAll_zero _ (all_fits_authority hauthorities)
  have htext : ∀ authority : List UInt8,
      text (assertion.role issuer).authority.cells = text authority
        ↔ Shows (assertion.written issuer) (text authority) :=
    fun authority => text_writeAll_iff (all_fits_authority hauthorities) ne_zero_of_mem_text
  constructor
  · intro hrole
    refine ⟨hid.mp hrole.id_eq, ?_, ?_⟩
    · obtain ⟨authority, hmem, heq⟩ := hrole.authority_eq
      exact ⟨authority, hmem, (htext authority).mp heq⟩
    · intro i hi hne
      rw [← hcell i] at hne ⊢
      exact hrole.authority_own i hi hne
  · rintro ⟨hstands, ⟨authority, hmem, hshows⟩, hown⟩
    refine ⟨hid.mpr hstands, ⟨authority, hmem, (htext authority).mpr hshows⟩, ?_, ?_⟩
    · -- Only CNs of the name are written to the id.
      intro i hi hne
      have hshown : (assertion.role issuer).id.cell i = shown (reaching (cns assertion.name)) i :=
        cell_writeAll_zero _ (all_fits hids) i
      rw [hshown] at hne ⊢
      obtain ⟨v, hv, heq⟩ := shown_mem hne
      exact ⟨v, reaching_subset _ hv, heq⟩
    · intro i hi hne
      rw [hcell i] at hne ⊢
      exact hown i hi hne

/-! What disturbs a role. -/

lemma shows_self (v : List UInt8) : Shows [v] (text v) :=
  (text_eq_iff ne_zero_of_mem_text).mp rfl

lemma authorityStands_own (hou : ∃ ou ∈ (ous name).head?, blank ou = false) :
    Assertion.AuthorityStands issuer ⟨[], name⟩ := by
  obtain ⟨ou, hhead, hblank⟩ := hou
  obtain ⟨rest, hous⟩ : ∃ rest, ous name = ou :: rest := head?_eq_some_iff.mp hhead
  have hwritten : Assertion.written issuer ⟨[], name⟩ = [ou] := by
    rw [Assertion.written, Assertion.authorities, Assertion.usesIssuer, hous, nil_append,
      reaching, hblank, if_neg Bool.false_ne_true, all_nil, isEmpty_cons]
    rfl
  rw [Assertion.AuthorityStands, hwritten, assertedAuthorities, hous]
  refine ⟨⟨ou, mem_singleton_self ou, shows_self ou⟩, fun i _ hne => ?_⟩
  obtain ⟨v, hv, heq⟩ := shown_mem hne
  rw [mem_singleton.mp hv] at heq
  exact ⟨ou, mem_append_left _ mem_cons_self, heq⟩

lemma authorityStands_issuer (hous : ous name = []) {cn : List UInt8}
    (hissuer : cns issuer = [cn]) :
    Assertion.AuthorityStands issuer ⟨[], name⟩ := by
  have hwritten : Assertion.written issuer ⟨[], name⟩ = [cn] := by
    rw [Assertion.written, Assertion.authorities, Assertion.usesIssuer, hous, hissuer]
    rfl
  rw [Assertion.AuthorityStands, hwritten, assertedAuthorities, hous, hissuer]
  refine ⟨⟨cn, mem_singleton_self cn, shows_self cn⟩, fun i _ hne => ?_⟩
  obtain ⟨v, hv, heq⟩ := shown_mem hne
  rw [mem_singleton.mp hv] at heq
  exact ⟨cn, mem_append_right _ (mem_singleton_self cn), heq⟩

lemma roles_iff (hshort : shortCopies issuer maxRolesPerCert [] names = true)
    (hroom : (asserting names).length < maxRolesPerCert) :
    List.Forall₂ (RoleOf issuer) (asserting names)
        (((assertions [] names).take maxRolesPerCert).map (Assertion.role issuer))
      ↔ ∀ assertion ∈ assertions [] names,
          assertion.IdStands ∧ assertion.AuthorityStands issuer := by
  have hall : (assertions [] names).take maxRolesPerCert = assertions [] names := by
    apply take_of_length_le
    rw [assertions_length]
    omega
  rw [← assertions_names names [], hall, forall₂_map_left_iff, forall₂_map_right_iff, forall₂_same]
  refine forall₂_congr fun assertion hmem => ?_
  exact roleOf_iff (cns_ne_nil_of_mem hmem) (short_of_mem hshort (by rw [hall]; exact hmem))

/-- **The roles of a certificate are those it asserts** exactly when nothing in it disturbs
them. -/
theorem verifyRoleCertificate_exact_iff {tls : Mbedtls} {memory : VerifyMemory}
    {certificateChain : List UInt8} {trustedCaCerts : List (List UInt8)} {certChain : X509Crt}
    (h : Accepted tls memory certificateChain trustedCaCerts certChain) :
    RolesExact memory certChain (verifyRoleCertificate tls memory certificateChain trustedCaCerts)
      ↔ Undisturbed memory certChain := by
  obtain ⟨data, -, hvalid, hparse⟩ := h.valid
  have hsome : 0 < (asserting certChain.subjectAltNames).length :=
    length_pos_iff.mpr (asserting_of_checkNames (checkNames_of_valid hvalid hparse))
  have hlen : (((assertions [] certChain.subjectAltNames).take maxRolesPerCert).map
      (Assertion.role certChain.issuer)).length
        = min maxRolesPerCert (asserting certChain.subjectAltNames).length := by
    rw [length_map, length_take, assertions_length]
  rw [verify_eq h, Undisturbed]
  by_cases hshort : shortCopies certChain.issuer maxRolesPerCert [] certChain.subjectAltNames = true
  · rw [if_pos hshort, RolesExact]
    by_cases hroom : (asserting certChain.subjectAltNames).length < maxRolesPerCert
    · have hfew : ¬ maxRolesPerCert ≤ (((assertions [] certChain.subjectAltNames).take
          maxRolesPerCert).map (Assertion.role certChain.issuer)).length := by omega
      have hfound : ¬ (((assertions [] certChain.subjectAltNames).take
          maxRolesPerCert).map (Assertion.role certChain.issuer)).length = 0 := by omega
      rw [handOut, if_neg hfew, if_neg hfound]
      by_cases hmemory : memory.roles = true
      · rw [if_pos hmemory]
        constructor
        · rintro ⟨verdict, heq, -, -, hroles⟩
          injection heq with heq
          subst heq
          exact ⟨hshort, fun _ _ => (roles_iff hshort hroom).mp (hroles _ rfl)⟩
        · rintro ⟨-, hstands⟩
          refine ⟨_, rfl, fun hmany => absurd hroom (Nat.not_lt.mpr hmany), fun _ _ => ⟨rfl, rfl⟩,
            ?_⟩
          intro roles hroles
          injection hroles with hroles
          rw [← hroles]
          exact (roles_iff hshort hroom).mpr (hstands hroom hmemory)
      rw [if_neg hmemory]
      refine iff_of_true ?_ ⟨hshort, fun _ hmem => absurd hmem hmemory⟩
      exact ⟨_, rfl, fun hmany => absurd hroom (Nat.not_lt.mpr hmany),
        fun _ hmem => absurd hmem hmemory, nofun⟩
    have hmany : maxRolesPerCert ≤ (((assertions [] certChain.subjectAltNames).take
        maxRolesPerCert).map (Assertion.role certChain.issuer)).length := by omega
    rw [handOut, if_pos hmany]
    refine iff_of_true ?_ ⟨hshort, fun hfew => absurd hfew hroom⟩
    exact ⟨_, rfl, fun _ => ⟨nofun, rfl⟩, fun hfew => absurd hfew hroom, nofun⟩
  rw [if_neg hshort]
  refine iff_of_false ?_ (fun hall => hshort hall.1)
  rintro ⟨verdict, hnone, -⟩
  exact nomatch hnone

def leftoverCert : X509Crt :=
  { extendedKeyUsage := true, subjectAltName := true, roleEku := true
    subjectAltNames :=
      [.directoryName [⟨mbedtlsOidAtOrgUnit, [65, 99, 109, 101]⟩],
        .directoryName [⟨mbedtlsOidAtCn, [97, 100, 109]⟩,
          ⟨mbedtlsOidAtOrgUnit, [72, 111, 109, 101]⟩]]
    issuer := [⟨mbedtlsOidAtCn, [67, 65]⟩]
    validTo := ⟨2030, 1, 1, 0, 0, 0⟩ }

def plainCert : X509Crt :=
  { leftoverCert with
    subjectAltNames :=
      [.directoryName [⟨mbedtlsOidAtCn, [97, 100, 109]⟩,
          ⟨mbedtlsOidAtOrgUnit, [72, 111, 109, 101]⟩],
        .directoryName [⟨mbedtlsOidAtCn, [117]⟩]] }

def tlsWith (certChain : X509Crt) : Mbedtls :=
  ⟨fun _ => some certChain, fun _ => (1, 0), fun _ _ => true⟩

theorem plainCert_exact :
    RolesExact ⟨true, true⟩ plainCert
      (verifyRoleCertificate (tlsWith plainCert) ⟨true, true⟩ [48, 0] [[48, 0]]) :=
  (verifyRoleCertificate_exact_iff
      ⟨⟨[48, 0], by decide, by decide, rfl⟩, ⟨by decide, by decide⟩, rfl⟩).mpr
    ⟨by decide, fun _ _ assertion hmem => by
      have hcases : assertion ∈ [⟨[], [⟨mbedtlsOidAtCn, [97, 100, 109]⟩,
          ⟨mbedtlsOidAtOrgUnit, [72, 111, 109, 101]⟩]⟩, ⟨[], [⟨mbedtlsOidAtCn, [117]⟩]⟩] := hmem
      rcases mem_cons.mp hcases with rfl | hlast
      · exact ⟨Or.inl ⟨[97, 100, 109], by decide, by decide⟩,
          authorityStands_own ⟨[72, 111, 109, 101], by decide, by decide⟩⟩
      rw [mem_singleton.mp hlast]
      exact ⟨Or.inl ⟨[117], by decide, by decide⟩, authorityStands_issuer (by decide) rfl⟩⟩

theorem leftover_disturbs :
    Accepted (tlsWith leftoverCert) ⟨true, true⟩ [48, 0] [[48, 0]] leftoverCert
      ∧ ¬ RolesExact ⟨true, true⟩ leftoverCert
        (verifyRoleCertificate (tlsWith leftoverCert) ⟨true, true⟩ [48, 0] [[48, 0]]) := by
  have haccepted : Accepted (tlsWith leftoverCert) ⟨true, true⟩ [48, 0] [[48, 0]] leftoverCert :=
    ⟨⟨[48, 0], by decide, by decide, rfl⟩, ⟨by decide, by decide⟩, rfl⟩
  refine ⟨haccepted, ?_⟩
  rintro ⟨verdict, heq, -, -, hroles⟩
  rw [verify_eq haccepted] at heq
  injection heq with heq
  subst heq
  obtain ⟨authority, hmem, htext⟩ := (forall₂_cons.mp (hroles _ rfl)).1.authority_eq
  have hown : authority = [72, 111, 109, 101] := mem_singleton.mp hmem
  rw [hown] at htext
  -- The authority that is handed out is `CAme`.
  have hmixed : text (Assertion.role leftoverCert.issuer
      ⟨[[65, 99, 109, 101]], [⟨mbedtlsOidAtCn, [97, 100, 109]⟩,
        ⟨mbedtlsOidAtOrgUnit, [72, 111, 109, 101]⟩]⟩).authority.cells
        = [67, 65, 109, 101] := by decide
  exact absurd (hmixed.symm.trans htext) (by decide)

end Iochibity.Sec.RoleCert
