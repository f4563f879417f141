/-
What `ParseRecur` makes of a rule.
-/
import Iochibity.Lib.TextSearch
import Iochibity.Sec.CalendarPeriod
import Mathlib.Data.Nat.Bitwise

namespace Iochibity.Sec.Calendar

open TextSearch
open List
open Option (some.inj)
open Bool (false_ne_true)

/-- `FREQ=DAILY`, and perhaps a date and a list of days. -/
structure Rule where
  untilDate : Option (List UInt8)
  byDay : Option (List (List UInt8))

def joinDays : List (List UInt8) → List UInt8
  | [] => []
  | [day] => day
  | day :: rest => day ++ 0x2C :: joinDays rest

def freqPart : List UInt8 := freqText ++ 0x3D :: dailyText

def untilPart (date : List UInt8) : List UInt8 := untilText ++ 0x3D :: date

def bydayPart (days : List (List UInt8)) : List UInt8 := bydayText ++ 0x3D :: joinDays days

def Rule.parts (rule : Rule) : List (List UInt8) :=
  freqPart :: ((rule.untilDate.map untilPart).toList ++ (rule.byDay.map bydayPart).toList)

def dateOf (date : List UInt8) : IotvtICalDateTime := digitsRead date .zero .date

structure DateText (date : List UInt8) : Prop where
  length : date.length = 8
  digits : ∀ c ∈ date, 0x30 ≤ c ∧ c ≤ 0x39
  real : RealDate (dateOf date)

structure Rule.Valid (rule : Rule) : Prop where
  untilDate : ∀ date ∈ rule.untilDate, DateText date
  byDay : ∀ days ∈ rule.byDay, days ≠ [] ∧ ∀ day ∈ days, day ∈ weekdays

def unblank (text : List UInt8) : List UInt8 := text.filter (· ≠ 0x20)

structure Denotes (recurStr : List UInt8) (rule : Rule) : Prop where
  valid : rule.Valid
  parts : ((unblank recurStr).splitOn 0x3B).Perm rule.parts

/-- What `strptime` does with a date: eight digits are read, and whether a text is read does
not depend on the `struct tm`. -/
structure ReadsDigits (strptime : Strptime) : Prop where
  digits : ∀ date tm, DateText date →
    ∃ d, strptime .date date tm = some d ∧ SameDate d (dateOf date)
  textual : ∀ text tm tm', (strptime .date text tm).isSome = (strptime .date text tm').isSome

/-- **Rules are parsed exactly**: those of the grammar are accepted, and no others, and the days and
the date are those that are given. -/
structure ParsesExactly (strptime : Strptime) (recurStr : List UInt8) : Prop where
  accepts : (parseRecur strptime recurStr .zero).isSome = true ↔ ∃ rule, Denotes recurStr rule
  byDay : ∀ rule recur, Denotes recurStr rule → parseRecur strptime recurStr .zero = some recur →
    ∀ i, recur.byDay.testBit i = true ↔ ∃ days ∈ rule.byDay, ∃ day ∈ days, weekdays[i]? = some day
  untilDate : ∀ rule recur, Denotes recurStr rule →
    parseRecur strptime recurStr .zero = some recur →
      match rule.untilDate with
      | none => recur.untilDate = .zero
      | some date => SameDate recur.untilDate (dateOf date)

section

variable (element : List UInt8)

def isFreq : Prop := freqText <:+: element

def isUntil : Prop := ¬ isFreq element ∧ untilText <:+: element

def isByDay : Prop :=
  ¬ isFreq element ∧ ¬ untilText <:+: element ∧ bydayText <:+: element

instance : DecidablePred isFreq := fun _ => inferInstanceAs (Decidable (_ <:+: _))
instance : DecidablePred isUntil := fun _ => inferInstanceAs (Decidable (_ ∧ _))
instance : DecidablePred isByDay := fun _ => inferInstanceAs (Decidable (_ ∧ _ ∧ _))

/-- The text behind the first `=`. -/
def behindEquals : Option (List UInt8) :=
  (element.findIdx? (· == 0x3D)).map (fun equals => element.drop (equals + 1))

/-- A date of eight characters that `strptime` reads. -/
def HasDate (strptime : Strptime) (element : List UInt8) : Prop :=
  ∃ date, behindEquals element = some date ∧ date.length = 8
    ∧ (strptime .date date .zero).isSome = true

def HasDay : Prop := ∃ day ∈ weekdays, day <:+: element

end

/-- No blank stands in a word of the element, in one of its days, or behind the `=` of a
date. -/
structure Unbroken (element : List UInt8) : Prop where
  freq : freqText <:+: unblank element → freqText <:+: element ∧ dailyText <:+: element
  untilDate : untilText <:+: unblank element →
    untilText <:+: element ∧ ∃ date, behindEquals element = some date ∧ date.length = 8
  byDay : bydayText <:+: unblank element →
    bydayText <:+: element ∧ ∀ day ∈ weekdays, day <:+: unblank element → day <:+: element

/-- An element is refused, or there is no frequency. Once there is a day, further lists may be
without. -/
def Refused (strptime : Strptime) (elements : List (List UInt8)) : Prop :=
  (∃ element ∈ elements, isFreq element ∧ ¬ dailyText <:+: element)
    ∨ (∃ element ∈ elements, isUntil element ∧ ¬ HasDate strptime element)
    ∨ (∃ element, elements.find? (fun e => decide (isByDay e)) = some element ∧ ¬ HasDay element)
    ∨ ∀ element ∈ elements, ¬ isFreq element

def RuleClean (strptime : Strptime) (recurStr : List UInt8) : Prop :=
  (∃ rule, Denotes recurStr rule) ∧ (∀ element ∈ recurStr.splitOn 0x3B, Unbroken element)
    ∨ (¬ ∃ rule, Denotes recurStr rule) ∧ Refused strptime (recurStr.splitOn 0x3B)

/-! ## One element -/

section Element

variable {strptime : Strptime} {element : List UInt8} {recur recur' : IotvtICalRecur}
  {freqFlag : Bool}

lemma testBit_found (P : List UInt8 → Prop) [DecidablePred P] (days : List (List UInt8))
    (start byDay i : ℕ) :
    ((days.zipIdx start).foldl (fun byDay day => if P day.1 then byDay ||| 1 <<< day.2 else byDay)
        byDay).testBit i = true
      ↔ byDay.testBit i = true ∨ ∃ day, start ≤ i ∧ days[i - start]? = some day ∧ P day := by
  induction days generalizing start byDay with
  | nil => simp
  | cons day days ih =>
    rw [zipIdx_cons, foldl_cons, ih]
    have hbit : (if P day then byDay ||| 1 <<< start else byDay).testBit i = true
        ↔ byDay.testBit i = true ∨ i = start ∧ P day := by
      split_ifs with hday
      · rw [Nat.testBit_or, Bool.or_eq_true, Nat.one_shiftLeft, Nat.testBit_two_pow]
        simp only [hday, and_true, decide_eq_true_eq]
        exact or_congr_right eq_comm
      · simp [hday]
    rw [hbit, or_assoc]
    refine or_congr_right ?_
    rcases Nat.lt_trichotomy i start with hlt | rfl | hgt
    · simp only [Nat.ne_of_lt hlt, Nat.not_le.mpr hlt, false_and, exists_false, false_or]
      exact iff_of_false (fun ⟨_, h, _⟩ => absurd h (by omega)) not_false
    · simp
    · obtain ⟨k, rfl⟩ := Nat.exists_eq_add_of_lt hgt
      have hk : start + k + 1 - start = k + 1 := by omega
      have hk' : start + k + 1 - (start + 1) = k := by omega
      simp only [hk, hk', getElem?_cons_succ]
      have hne : start + k + 1 ≠ start := by omega
      have hle : start + 1 ≤ start + k + 1 := by omega
      have hle' : start ≤ start + k + 1 := by omega
      simp [hne, hle, hle']

section

variable (element : List UInt8)

def foundDays (byDay : ℕ) : ℕ :=
  weekdays.zipIdx.foldl
    (fun byDay day => if day.1 <:+: element then byDay ||| 1 <<< day.2 else byDay) byDay

lemma testBit_foundDays (byDay i : ℕ) :
    (foundDays element byDay).testBit i = true
      ↔ byDay.testBit i = true ∨ ∃ day, weekdays[i]? = some day ∧ day <:+: element := by
  rw [foundDays, testBit_found (· <:+: element)]
  simp

lemma foundDays_eq_zero_iff (byDay : ℕ) :
    foundDays element byDay = 0 ↔ ¬ (byDay ≠ 0 ∨ HasDay element) := by
  constructor
  · intro hzero
    have hnone : ∀ i, ¬ (byDay.testBit i = true
        ∨ ∃ day, weekdays[i]? = some day ∧ day <:+: element) := by
      intro i hi
      rw [← testBit_foundDays, hzero, Nat.zero_testBit] at hi
      cases hi
    rintro (hne | ⟨day, hday, hin⟩)
    · obtain ⟨i, hi⟩ := Nat.exists_testBit_of_ne_zero hne
      exact hnone i (.inl hi)
    · obtain ⟨i, hi⟩ := mem_iff_getElem?.mp hday
      exact hnone i (.inr ⟨day, hi, hin⟩)
  · intro hnone
    rw [not_or, not_not] at hnone
    refine Nat.eq_of_testBit_eq (fun i => ?_)
    rw [Nat.zero_testBit, Bool.eq_false_iff, Ne, testBit_foundDays, hnone.1, Nat.zero_testBit]
    rintro (h | ⟨day, hday, hin⟩)
    · cases h
    · exact hnone.2 ⟨day, mem_of_getElem? hday, hin⟩

lemma parseByDay_eq (recur : IotvtICalRecur) :
    parseByDay element recur = if foundDays element recur.byDay = 0 then none
      else some { recur with byDay := foundDays element recur.byDay } := rfl

lemma parseDate_eq (recur : IotvtICalRecur) :
    parseDate strptime element recur = (behindEquals element).bind (fun date =>
      if date.length = 8 then (strptime .date date recur.untilDate).map
        ({ recur with untilDate := · }) else none) := by
  rw [parseDate, behindEquals]
  cases element.findIdx? (· == 0x3D) with
  | none => rfl
  | some equals =>
    simp only [Option.map_some, Option.bind_eq_bind, Option.bind_some]
    split_ifs
    · cases strptime .date (element.drop (equals + 1)) recur.untilDate <;> rfl
    · rfl

end

def Accepts (strptime : Strptime) (byDay : ℕ) (element : List UInt8) : Prop :=
  (isFreq element → dailyText <:+: element) ∧ (isUntil element → HasDate strptime element)
    ∧ (isByDay element → byDay ≠ 0 ∨ HasDay element)

structure Sets (strptime : Strptime) (element : List UInt8) (recur recur' : IotvtICalRecur) :
    Prop where
  byDay : ∀ i, recur'.byDay.testBit i = true ↔ recur.byDay.testBit i = true
    ∨ isByDay element ∧ ∃ day, weekdays[i]? = some day ∧ day <:+: element
  untilDate : if isUntil element then ∃ date, behindEquals element = some date
    ∧ strptime .date date recur.untilDate = some recur'.untilDate
    else recur'.untilDate = recur.untilDate

lemma parseElement_spec (hreads : ReadsDigits strptime) (hshort : element.length < 50)
    (recur : IotvtICalRecur) (freqFlag : Bool) :
    (parseElement strptime element recur freqFlag = none ∧ ¬ Accepts strptime recur.byDay element)
      ∨ ∃ recur', parseElement strptime element recur freqFlag
          = some (recur', freqFlag || decide (isFreq element))
        ∧ Accepts strptime recur.byDay element ∧ Sets strptime element recur recur' := by
  rw [parseElement, if_neg (Nat.not_le.mpr hshort)]
  by_cases hfreq : freqText <:+: element
  · have hfreq' : isFreq element := hfreq
    have huntil : ¬ isUntil element := fun h => h.1 hfreq
    have hbyday : ¬ isByDay element := fun h => h.1 hfreq
    rw [if_pos hfreq]
    split_ifs with hdaily
    · refine .inr ⟨_, by rw [decide_eq_true hfreq', Bool.or_true],
        ⟨fun _ => hdaily, fun h => absurd h huntil, fun h => absurd h hbyday⟩, ?_, ?_⟩
      · exact fun i => by simp [hbyday]
      · rw [if_neg huntil]
    · exact .inl ⟨rfl, fun h => hdaily (h.1 hfreq)⟩
  have hflag : (freqFlag || decide (isFreq element)) = freqFlag := by
    rw [decide_eq_false (show ¬ isFreq element from hfreq), Bool.or_false]
  rw [if_neg hfreq, hflag]
  by_cases huntil : untilText <:+: element
  · have huntil' : isUntil element := ⟨hfreq, huntil⟩
    have hbyday : ¬ isByDay element := fun h => h.2.1 huntil
    rw [if_pos huntil, parseDate_eq]
    by_cases hdate : HasDate strptime element
    · obtain ⟨date, hbehind, hlength, hsome⟩ := hdate
      rw [hreads.textual date .zero recur.untilDate] at hsome
      obtain ⟨d, hd⟩ := Option.isSome_iff_exists.mp hsome
      refine .inr ⟨{ recur with untilDate := d }, ?_, ⟨fun h => absurd h hfreq, fun _ => ?_,
        fun h => absurd h hbyday⟩, ?_, ?_⟩
      · rw [hbehind, Option.bind_some, if_pos hlength, hd]
        rfl
      · rw [hreads.textual date recur.untilDate .zero] at hsome
        exact ⟨date, hbehind, hlength, hsome⟩
      · exact fun i => by simp [hbyday]
      · rw [if_pos huntil']
        exact ⟨date, hbehind, hd⟩
    refine .inl ⟨?_, fun h => hdate (h.2.1 huntil')⟩
    cases hbehind : behindEquals element with
    | none => rfl
    | some date =>
      rw [Option.bind_some]
      split_ifs with hlength
      · cases hd : strptime .date date recur.untilDate with
        | none => rfl
        | some d =>
          refine absurd ⟨date, hbehind, hlength, ?_⟩ hdate
          rw [hreads.textual date .zero recur.untilDate, hd]
          rfl
      · rfl
  have huntil' : ¬ isUntil element := fun h => huntil h.2
  rw [if_neg huntil]
  by_cases hbyday : bydayText <:+: element
  · have hbyday' : isByDay element := ⟨hfreq, huntil, hbyday⟩
    rw [if_pos hbyday, parseByDay_eq]
    have hzero := foundDays_eq_zero_iff element recur.byDay
    split_ifs with hfound
    · exact .inl ⟨rfl, fun h => hzero.mp hfound (h.2.2 hbyday')⟩
    · refine .inr ⟨_, rfl, ⟨fun h => absurd h hfreq, fun h => absurd h huntil',
        fun _ => not_not.mp (fun h => hfound (hzero.mpr h))⟩, ?_, ?_⟩
      · exact fun i => by simp [testBit_foundDays, hbyday']
      · rw [if_neg huntil']
  have hbyday' : ¬ isByDay element := fun h => hbyday h.2.2
  rw [if_neg hbyday]
  refine .inr ⟨recur, rfl, ⟨fun h => absurd h hfreq, fun h => absurd h huntil',
    fun h => absurd h hbyday'⟩, ?_, ?_⟩
  · exact fun i => by simp [hbyday']
  · rw [if_neg huntil']

end Element

/-! ## All elements -/

section Elements

variable {strptime : Strptime}

structure AcceptsAll (strptime : Strptime) (byDay : ℕ) (elements : List (List UInt8)) : Prop where
  freq : ∀ e ∈ elements, isFreq e → dailyText <:+: e
  untilDate : ∀ e ∈ elements, isUntil e → HasDate strptime e
  byDay : byDay ≠ 0 ∨ ∀ e, elements.find? (fun e => decide (isByDay e)) = some e → HasDay e

structure SetsAll (strptime : Strptime) (elements : List (List UInt8))
    (recur recur' : IotvtICalRecur) : Prop where
  byDay : ∀ i, recur'.byDay.testBit i = true ↔ recur.byDay.testBit i = true
    ∨ ∃ e ∈ elements, isByDay e ∧ ∃ day, weekdays[i]? = some day ∧ day <:+: e
  kept : (∀ e ∈ elements, ¬ isUntil e) → recur'.untilDate = recur.untilDate
  given : ∀ d, (∀ e ∈ elements, isUntil e → ∀ date tm d', behindEquals e = some date →
    strptime .date date tm = some d' → SameDate d' d) →
      (SameDate recur.untilDate d ∨ ∃ e ∈ elements, isUntil e) → SameDate recur'.untilDate d

variable {element : List UInt8} {recur recur' : IotvtICalRecur}

lemma Sets.byDay_ne_zero_iff (h : Sets strptime element recur recur') :
    recur'.byDay ≠ 0 ↔ recur.byDay ≠ 0 ∨ isByDay element ∧ HasDay element := by
  constructor
  · intro hne
    obtain ⟨i, hi⟩ := Nat.exists_testBit_of_ne_zero hne
    rcases (h.byDay i).mp hi with hi | ⟨hbyday, day, hday, hin⟩
    · refine .inl (fun hzero => ?_)
      rw [hzero, Nat.zero_testBit] at hi
      cases hi
    · exact .inr ⟨hbyday, day, mem_of_getElem? hday, hin⟩
  · intro hor hzero
    have hnone : ∀ i, ¬ recur'.byDay.testBit i = true := fun i hi => by
      rw [hzero, Nat.zero_testBit] at hi
      cases hi
    rcases hor with hne | ⟨hbyday, day, hday, hin⟩
    · obtain ⟨i, hi⟩ := Nat.exists_testBit_of_ne_zero hne
      exact hnone i ((h.byDay i).mpr (.inl hi))
    obtain ⟨i, hi⟩ := mem_iff_getElem?.mp hday
    exact hnone i ((h.byDay i).mpr (.inr ⟨hbyday, day, hi, hin⟩))

variable {rest : List (List UInt8)}

lemma acceptsAll_cons_iff (h : Sets strptime element recur recur')
    (haccepts : Accepts strptime recur.byDay element) :
    AcceptsAll strptime recur.byDay (element :: rest) ↔ AcceptsAll strptime recur'.byDay rest := by
  have hne := h.byDay_ne_zero_iff
  have hfind : (recur.byDay ≠ 0 ∨ ∀ e,
        (element :: rest).find? (fun e => decide (isByDay e)) = some e → HasDay e)
      ↔ (recur'.byDay ≠ 0 ∨ ∀ e, rest.find? (fun e => decide (isByDay e)) = some e → HasDay e) := by
    rw [hne, find?_cons]
    by_cases hbyday : isByDay element
    · -- this is the first list of days, and it has one
      have hday := haccepts.2.2 hbyday
      simp only [hbyday, decide_true, Option.some.injEq, forall_eq', true_and]
      simp [hday]
    · simp [hbyday]
  constructor
  · intro hall
    exact ⟨fun e he => hall.freq e (mem_cons_of_mem _ he),
      fun e he => hall.untilDate e (mem_cons_of_mem _ he), hfind.mp hall.byDay⟩
  · intro hall
    exact ⟨forall_mem_cons.mpr ⟨haccepts.1, hall.freq⟩,
      forall_mem_cons.mpr ⟨haccepts.2.1, hall.untilDate⟩, hfind.mpr hall.byDay⟩

lemma not_acceptsAll {byDay : ℕ}
    (h : ¬ Accepts strptime byDay element) : ¬ AcceptsAll strptime byDay (element :: rest) := by
  intro hall
  refine h ⟨hall.freq _ mem_cons_self, hall.untilDate _ mem_cons_self, fun hbyday => ?_⟩
  refine hall.byDay.imp_right (fun hfirst => hfirst element ?_)
  simp [hbyday]

lemma SetsAll.cons {recur₁ : IotvtICalRecur} (h : Sets strptime element recur recur₁)
    (hrest : SetsAll strptime rest recur₁ recur') :
    SetsAll strptime (element :: rest) recur recur' where
  byDay := fun i => by
    rw [hrest.byDay, h.byDay, or_assoc]
    simp
  kept := fun hnone => by
    have huntil := h.untilDate
    rw [if_neg (hnone element mem_cons_self)] at huntil
    rw [hrest.kept (fun e he => hnone e (mem_cons_of_mem _ he)), huntil]
  given := fun d hall hor => by
    obtain ⟨hfirst, hbehind⟩ := forall_mem_cons.mp hall
    refine hrest.given d hbehind ?_
    have huntil := h.untilDate
    split_ifs at huntil with hset
    · obtain ⟨date, hdate, hread⟩ := huntil
      exact .inl (hfirst hset date _ _ hdate hread)
    · rw [huntil]
      refine hor.imp_right ?_
      rintro ⟨e, he, hset'⟩
      rcases mem_cons.mp he with rfl | he
      · exact absurd hset' hset
      · exact ⟨e, he, hset'⟩

lemma parseElements_spec (hreads : ReadsDigits strptime) (elements : List (List UInt8))
    (hshort : ∀ e ∈ elements, e.length < 50) (recur : IotvtICalRecur) (freqFlag : Bool) :
    (elements.foldlM (fun parsed e => parseElement strptime e parsed.1 parsed.2) (recur, freqFlag)
        = none ∧ ¬ AcceptsAll strptime recur.byDay elements)
      ∨ ∃ recur', elements.foldlM (fun parsed e => parseElement strptime e parsed.1 parsed.2)
          (recur, freqFlag) = some (recur', freqFlag || elements.any (fun e => decide (isFreq e)))
        ∧ AcceptsAll strptime recur.byDay elements ∧ SetsAll strptime elements recur recur' := by
  induction elements generalizing recur freqFlag with
  | nil =>
    refine .inr ⟨recur, ?_, ⟨by simp, by simp, .inr (by simp)⟩, by simp, fun _ => rfl, ?_⟩
    · rw [any_nil, Bool.or_false]
      rfl
    · exact fun d _ hor => hor.resolve_right (by simp)
  | cons element rest ih =>
    obtain ⟨hfirst, hrest⟩ := forall_mem_cons.mp hshort
    rw [foldlM_cons]
    rcases parseElement_spec hreads hfirst recur freqFlag with
      ⟨hnone, hnot⟩ | ⟨recur₁, hsome, haccepts, hsets⟩
    · rw [hnone]
      exact .inl ⟨rfl, not_acceptsAll hnot⟩
    rw [hsome, acceptsAll_cons_iff hsets haccepts, any_cons, ← Bool.or_assoc]
    simp only [Option.bind_eq_bind, Option.bind_some]
    rcases ih hrest recur₁ (freqFlag || decide (isFreq element)) with
      h | ⟨recur', hrun, hall, hset⟩
    · exact .inl h
    · exact .inr ⟨recur', hrun, hall, SetsAll.cons hsets hset⟩

lemma parseRecur_spec (hreads : ReadsDigits strptime) {recurStr : List UInt8}
    (hshort : ∀ e ∈ recurStr.splitOn 0x3B, e.length < 50) :
    (parseRecur strptime recurStr .zero = none ∧ Refused strptime (recurStr.splitOn 0x3B))
      ∨ ∃ recur, parseRecur strptime recurStr .zero = some recur
        ∧ ¬ Refused strptime (recurStr.splitOn 0x3B)
        ∧ SetsAll strptime (recurStr.splitOn 0x3B) .zero recur := by
  have hrefused : Refused strptime (recurStr.splitOn 0x3B)
      ↔ ¬ AcceptsAll strptime 0 (recurStr.splitOn 0x3B)
        ∨ ∀ e ∈ recurStr.splitOn 0x3B, ¬ isFreq e := by
    rw [Refused, ← or_assoc, ← or_assoc]
    refine or_congr_left ?_
    constructor
    · rintro ((⟨e, he, hfreq, hdaily⟩ | ⟨e, he, huntil, hdate⟩) | ⟨e, he, hday⟩) hall
      · exact hdaily (hall.freq e he hfreq)
      · exact hdate (hall.untilDate e he huntil)
      · exact hday (hall.byDay.resolve_left (· rfl) e he)
    · intro hnot
      by_contra hnone
      simp only [not_or, not_exists, not_and, not_not] at hnone
      exact hnot ⟨hnone.1.1, hnone.1.2, .inr hnone.2⟩
  rw [hrefused, parseRecur]
  rcases parseElements_spec hreads _ hshort .zero false with
    ⟨hnone, hnot⟩ | ⟨recur, hrun, hall, hset⟩
  · rw [hnone]
    exact .inl ⟨rfl, .inl hnot⟩
  rw [hrun]
  simp only [Option.bind_eq_bind, Option.bind_some, Bool.false_or, any_eq_true, decide_eq_true_eq]
  by_cases hfreq : ∃ e ∈ recurStr.splitOn 0x3B, isFreq e
  · rw [if_pos hfreq]
    refine .inr ⟨recur, rfl, ?_, hset⟩
    rintro (hnot | hnone)
    · exact hnot hall
    · obtain ⟨e, he, h⟩ := hfreq
      exact hnone e he h
  rw [if_neg hfreq]
  exact .inl ⟨rfl, .inr (fun e he h => hfreq ⟨e, he, h⟩)⟩

end Elements

/-! ## The parts of a rule -/

section Parts

variable {rule : Rule} {recurStr element : List UInt8}

variable {days : List (List UInt8)}

lemma mem_joinDays {c : UInt8} (h : c ∈ joinDays days) :
    c = 0x2C ∨ ∃ day ∈ days, c ∈ day := by
  induction days with
  | nil => cases h
  | cons day rest ih =>
    cases rest with
    | nil => exact .inr ⟨day, mem_cons_self, h⟩
    | cons next rest =>
      rw [joinDays, mem_append, mem_cons] at h
      · rcases h with h | rfl | h
        · exact .inr ⟨day, mem_cons_self, h⟩
        · exact .inl rfl
        · exact (ih h).imp_right (fun ⟨day', hmem, hin⟩ => ⟨day', mem_cons_of_mem _ hmem, hin⟩)
      · exact fun h => by cases h

variable {day : List UInt8}

lemma mem_of_infix_joinDays (hdays : ∀ day ∈ days, day ∈ weekdays) (hday : day ∈ weekdays)
    (h : day <:+: joinDays days) : day ∈ days := by
  have hcomma : ∀ day ∈ weekdays, 0x2C ∉ day := by decide
  have hlength : ∀ day ∈ weekdays, day.length = 2 := by decide
  induction days with
  | nil =>
    have hnil := infix_nil.mp h
    rw [hnil] at hday
    exact absurd hday (by decide)
  | cons first rest ih =>
    obtain ⟨hfirst, hrest⟩ := forall_mem_cons.mp hdays
    have hsame : day <:+: first → day = first := fun h =>
      h.eq_of_length ((hlength day hday).trans (hlength first hfirst).symm)
    cases rest with
    | nil =>
      rw [hsame h]
      exact mem_cons_self
    | cons next rest =>
      rw [joinDays] at h
      · rcases infix_append_cons (hcomma day hday) h with h | h
        · rw [hsame h]
          exact mem_cons_self
        · exact mem_cons_of_mem _ (ih hrest h)
      · exact fun h => by cases h

lemma infix_joinDays (h : day ∈ days) :
    day <:+: joinDays days := by
  induction days with
  | nil => cases h
  | cons first rest ih =>
    cases rest with
    | nil =>
      rw [mem_singleton.mp h, joinDays]
    | cons next rest =>
      have hjoin : joinDays (first :: next :: rest)
        = first ++ 0x2C :: joinDays (next :: rest) := rfl
      rw [hjoin]
      rcases mem_cons.mp h with rfl | h
      · exact (List.prefix_append _ _).isInfix
      · exact (ih h).trans ((suffix_cons _ _).trans (suffix_append _ _)).isInfix

structure Words (part : List UInt8) (freq untilDate byDay : Bool) : Prop where
  freq : freqText <:+: part ↔ freq = true
  untilDate : untilText <:+: part ↔ untilDate = true
  byDay : bydayText <:+: part ↔ byDay = true

lemma words_freqPart : Words freqPart true false false := by
  constructor <;> decide

lemma words_untilPart {date : List UInt8} (h : DateText date) :
    Words (untilPart date) false true false := by
  have hchars : ∀ c ∈ untilPart date, c ∈ untilText ∨ c ≤ 0x3D := by
    intro c hc
    rw [untilPart, mem_append, mem_cons] at hc
    rcases hc with hc | rfl | hc
    · exact .inl hc
    · exact .inr (by decide)
    · exact .inr (UInt8.le_trans (h.digits c hc).2 (by decide))
  constructor
  · refine iff_of_false (fun hin => ?_) false_ne_true
    exact absurd (hchars 0x46 (hin.subset (by decide))) (by decide)
  · exact iff_of_true (List.prefix_append _ _).isInfix rfl
  · refine iff_of_false (fun hin => ?_) false_ne_true
    exact absurd (hchars 0x42 (hin.subset (by decide))) (by decide)

lemma words_bydayPart (h : ∀ day ∈ days, day ∈ weekdays) :
    Words (bydayPart days) false false true := by
  have hchars : ∀ c ∈ bydayPart days, c ∈ 0x3D :: 0x2C :: (bydayText ++ weekdays.flatten) := by
    intro c hc
    rw [bydayPart, mem_append, mem_cons] at hc
    simp only [mem_cons, mem_append]
    rcases hc with hc | rfl | hc
    · exact .inr (.inr (.inl hc))
    · exact .inl rfl
    · rcases mem_joinDays hc with rfl | ⟨day, hday, hc⟩
      · exact .inr (.inl rfl)
      · exact .inr (.inr (.inr (mem_flatten_of_mem (h day hday) hc)))
  constructor
  · refine iff_of_false (fun hin => ?_) false_ne_true
    exact absurd (hchars 0x51 (hin.subset (by decide))) (by decide)
  · refine iff_of_false (fun hin => ?_) false_ne_true
    exact absurd (hchars 0x4E (hin.subset (by decide))) (by decide)
  · exact iff_of_true (List.prefix_append _ _).isInfix rfl

lemma Rule.mem_parts {part : List UInt8} : part ∈ rule.parts ↔ part = freqPart
    ∨ (∃ date ∈ rule.untilDate, part = untilPart date)
    ∨ ∃ days ∈ rule.byDay, part = bydayPart days := by
  simp [Rule.parts, eq_comm]

lemma Rule.Valid.nodup_parts (h : rule.Valid) : rule.parts.Nodup := by
  obtain ⟨untilDate, byDay⟩ := rule
  have hne : ∀ {part part' : List UInt8} {a b c a' b' c' : Bool}, Words part a b c →
      Words part' a' b' c' → (a, b, c) ≠ (a', b', c') → part ≠ part' := by
    rintro part _ a b c a' b' c' hw hw' hdiff rfl
    refine hdiff ?_
    rw [Bool.eq_iff_iff.mpr (hw.freq.symm.trans hw'.freq),
      Bool.eq_iff_iff.mpr (hw.untilDate.symm.trans hw'.untilDate),
      Bool.eq_iff_iff.mpr (hw.byDay.symm.trans hw'.byDay)]
  cases untilDate with
  | none =>
    cases byDay with
    | none => exact nodup_singleton _
    | some days =>
      have hdays := words_bydayPart (h.byDay days rfl).2
      have hfirst := hne words_freqPart hdays (by decide)
      simp [Rule.parts, hfirst]
  | some date =>
    have hdate := words_untilPart (h.untilDate date rfl)
    cases byDay with
    | none =>
      have hfirst := hne words_freqPart hdate (by decide)
      simp [Rule.parts, hfirst]
    | some days =>
      have hdays := words_bydayPart (h.byDay days rfl).2
      have hlast := hne hdate hdays (by decide)
      have hfirst := hne words_freqPart hdate (by decide)
      have hfirst' := hne words_freqPart hdays (by decide)
      simp [Rule.parts, hlast, hfirst, hfirst']

structure Elements (recurStr : List UInt8) (rule : Rule) : Prop where
  mem : ∀ e ∈ recurStr.splitOn 0x3B, unblank e ∈ rule.parts
  exists_of : ∀ part ∈ rule.parts, ∃ e ∈ recurStr.splitOn 0x3B, unblank e = part
  unique : ∀ e ∈ recurStr.splitOn 0x3B, ∀ e' ∈ recurStr.splitOn 0x3B,
    unblank e = unblank e' → e = e'

lemma Denotes.elements (h : Denotes recurStr rule) : Elements recurStr rule := by
  have hsplit : (unblank recurStr).splitOn 0x3B = (recurStr.splitOn 0x3B).map unblank :=
    splitOnP_filter (fun c hc => by rw [beq_iff_eq] at hc; rw [hc]; decide) recurStr
  have hperm := h.parts
  rw [hsplit] at hperm
  refine ⟨fun e he => hperm.mem_iff.mp (mem_map_of_mem he), fun part hpart => ?_, ?_⟩
  · obtain ⟨e, he, heq⟩ := mem_map.mp (hperm.mem_iff.mpr hpart)
    exact ⟨e, he, heq⟩
  · exact fun e he e' he' heq =>
      inj_on_of_nodup_map (hperm.nodup_iff.mpr h.valid.nodup_parts) he he' heq

lemma infix_unblank {word : List UInt8} (hword : 0x20 ∉ word) (h : word <:+: element) :
    word <:+: unblank element :=
  infix_filter (fun _ hc => decide_eq_true (fun heq => hword (heq ▸ hc))) h

lemma isFreq_unblank (h : isFreq element) : freqText <:+: unblank element :=
  infix_unblank (by decide) h

lemma behindEquals_append {front text : List UInt8} (hfront : 0x3D ∉ front) :
    behindEquals (front ++ 0x3D :: text) = some text := by
  have hindex : (front ++ 0x3D :: text).findIdx? (· == 0x3D) = some front.length := by
    induction front with
    | nil => rfl
    | cons c front ih =>
      rw [mem_cons, not_or] at hfront
      have hc : (c == 0x3D) = false := beq_eq_false_iff_ne.mpr (Ne.symm hfront.1)
      rw [cons_append, findIdx?_cons, hc, ih hfront.2]
      rfl
  rw [behindEquals, hindex, Option.map_some, append_cons, drop_left']
  simp

lemma behindEquals_until {date : List UInt8} (hdate : DateText date)
    (h : unblank element = untilPart date) :
    ∃ text, behindEquals element = some text ∧ unblank text = date := by
  have hequals : 0x3D ∈ unblank element := by
    rw [h]
    exact mem_append_right _ mem_cons_self
  obtain ⟨front, text, rfl, hfront⟩ := eq_append_cons_of_mem (mem_filter.mp hequals).1
  refine ⟨text, behindEquals_append hfront, ?_⟩
  have hparts : unblank front ++ 0x3D :: unblank text = untilText ++ 0x3D :: date := by
    have hsplit : unblank (front ++ 0x3D :: text) = unblank front ++ 0x3D :: unblank text := by
      simp [unblank, filter_append]
    rw [← hsplit, h, untilPart]
  have hdigit : 0x3D ∉ date := fun hin => absurd (hdate.digits _ hin).2 (by decide)
  exact ((append_cons_inj_of_notMem (by decide) hdigit).mp hparts.symm).2.2.symm

/-! ## The whole rule -/

lemma Denotes.part (h : Denotes recurStr rule) (he : element ∈ recurStr.splitOn 0x3B) :
    (freqText <:+: unblank element → unblank element = freqPart)
      ∧ (untilText <:+: unblank element → ∃ date ∈ rule.untilDate, unblank element = untilPart date)
      ∧ (bydayText <:+: unblank element →
        ∃ days ∈ rule.byDay, unblank element = bydayPart days) := by
  rcases Rule.mem_parts.mp (h.elements.mem element he) with
    heq | ⟨date, hdate, heq⟩ | ⟨days, hdays, heq⟩
  · have hwords := words_freqPart
    rw [← heq] at hwords
    exact ⟨fun _ => heq, fun h => absurd (hwords.untilDate.mp h) false_ne_true,
      fun h => absurd (hwords.byDay.mp h) false_ne_true⟩
  · have hwords := words_untilPart (h.valid.untilDate date hdate)
    rw [← heq] at hwords
    exact ⟨fun h => absurd (hwords.freq.mp h) false_ne_true, fun _ => ⟨date, hdate, heq⟩,
      fun h => absurd (hwords.byDay.mp h) false_ne_true⟩
  · have hwords := words_bydayPart (h.valid.byDay days hdays).2
    rw [← heq] at hwords
    exact ⟨fun h => absurd (hwords.freq.mp h) false_ne_true,
      fun h => absurd (hwords.untilDate.mp h) false_ne_true, fun _ => ⟨days, hdays, heq⟩⟩

lemma infix_bydayPart_iff (hdays : ∀ day ∈ days, day ∈ weekdays)
    (hday : day ∈ weekdays) : day <:+: bydayPart days ↔ day ∈ days := by
  have hword : ∀ day ∈ weekdays, 0x3D ∉ day ∧ ¬ day <:+: bydayText := by decide
  constructor
  · intro h
    exact mem_of_infix_joinDays hdays hday
      ((infix_append_cons (hword day hday).1 h).resolve_left (hword day hday).2)
  · intro h
    exact (infix_joinDays h).trans ((suffix_cons _ _).trans (suffix_append _ _)).isInfix

lemma isUntil_unblank (h : isUntil element) : untilText <:+: unblank element :=
  infix_unblank (by decide) h.2

lemma isByDay_unblank (h : isByDay element) : bydayText <:+: unblank element :=
  infix_unblank (by decide) h.2.2

lemma Unbroken.date (h : Unbroken element) {date : List UInt8} (hdate : DateText date)
    (heq : unblank element = untilPart date) :
    untilText <:+: element ∧ behindEquals element = some date := by
  have hin : untilText <:+: unblank element := heq ▸ (List.prefix_append _ _).isInfix
  obtain ⟨huntil, text, hbehind, hlength⟩ := h.untilDate hin
  obtain ⟨text', hbehind', hunblank⟩ := behindEquals_until hdate heq
  rw [hbehind] at hbehind'
  obtain rfl := some.inj hbehind'
  -- no blank was taken out
  have hsame : unblank text = text :=
    filter_sublist.eq_of_length (by rw [← unblank, hunblank, hdate.length, hlength])
  rw [hsame] at hunblank
  exact ⟨huntil, hunblank ▸ hbehind⟩

variable {strptime : Strptime}

section

variable (h : Denotes recurStr rule) (hreads : ReadsDigits strptime)
  (hall : ∀ e ∈ recurStr.splitOn 0x3B, Unbroken e)
include h hall hreads

lemma Denotes.not_refused : ¬ Refused strptime (recurStr.splitOn 0x3B) := by
  rintro (⟨e, he, hfreq, hdaily⟩ | ⟨e, he, huntil, hnone⟩ | ⟨e, hfind, hnone⟩ | hnone)
  · exact hdaily ((hall e he).freq (isFreq_unblank hfreq)).2
  · obtain ⟨date, hdate, heq⟩ := (h.part he).2.1 (isUntil_unblank huntil)
    have hdate := h.valid.untilDate date hdate
    obtain ⟨d, hread, -⟩ := hreads.digits date .zero hdate
    refine hnone ⟨date, ((hall e he).date hdate heq).2, hdate.length, ?_⟩
    rw [hread]
    rfl
  · have he := mem_of_find?_eq_some hfind
    have hbyday : isByDay e := by simpa using find?_some hfind
    have hin := isByDay_unblank hbyday
    obtain ⟨days, hdays, heq⟩ := (h.part he).2.2 hin
    obtain ⟨hne, hdays⟩ := h.valid.byDay days hdays
    obtain ⟨day, hday⟩ := exists_mem_of_ne_nil days hne
    refine hnone ⟨day, hdays day hday, ((hall e he).byDay hin).2 day (hdays day hday) ?_⟩
    rw [heq]
    exact (infix_bydayPart_iff hdays (hdays day hday)).mpr hday
  obtain ⟨e, he, heq⟩ := h.elements.exists_of freqPart mem_cons_self
  exact hnone e he ((hall e he).freq (heq ▸ words_freqPart.freq.mpr rfl)).1

lemma Denotes.values {recur : IotvtICalRecur}
    (hset : SetsAll strptime (recurStr.splitOn 0x3B) .zero recur) :
    (∀ i, recur.byDay.testBit i = true ↔ ∃ days ∈ rule.byDay, ∃ day ∈ days, weekdays[i]? = some day)
    ∧ match rule.untilDate with
      | none => recur.untilDate = .zero
      | some date => SameDate recur.untilDate (dateOf date) := by
  constructor
  · intro i
    rw [hset.byDay, IotvtICalRecur.zero, Nat.zero_testBit]
    constructor
    · rintro (hzero | ⟨e, he, hbyday, day, hday, hin⟩)
      · simp at hzero
      · obtain ⟨days, hdays, heq⟩ := (h.part he).2.2 (isByDay_unblank hbyday)
        have hmem := mem_of_getElem? hday
        have hblank : ∀ day ∈ weekdays, 0x20 ∉ day := by decide
        have hin := infix_unblank (hblank day hmem) hin
        rw [heq] at hin
        exact ⟨days, hdays, day,
          (infix_bydayPart_iff (h.valid.byDay days hdays).2 hmem).mp hin, hday⟩
    · rintro ⟨days, hdays, day, hin, hday⟩
      have hwords := words_bydayPart (h.valid.byDay days hdays).2
      obtain ⟨e, he, heq⟩ := h.elements.exists_of (bydayPart days)
        (Rule.mem_parts.mpr (.inr (.inr ⟨days, hdays, rfl⟩)))
      rw [← heq] at hwords
      obtain ⟨hbyday, hfound⟩ := (hall e he).byDay (hwords.byDay.mpr rfl)
      refine .inr ⟨e, he, ⟨fun hfreq => ?_, fun huntil => ?_, hbyday⟩, day, hday, ?_⟩
      · exact false_ne_true (hwords.freq.mp (isFreq_unblank hfreq))
      · exact false_ne_true (hwords.untilDate.mp (infix_unblank (by decide) huntil))
      · refine hfound day (mem_of_getElem? hday) ?_
        rw [heq]
        exact (infix_bydayPart_iff (h.valid.byDay days hdays).2 (mem_of_getElem? hday)).mpr hin
  · cases hdate : rule.untilDate with
    | none =>
      refine hset.kept (fun e he huntil => ?_)
      obtain ⟨date, hmem, -⟩ := (h.part he).2.1 (isUntil_unblank huntil)
      rw [hdate] at hmem
      cases hmem
    | some date =>
      have hvalid := h.valid.untilDate date hdate
      refine hset.given (dateOf date) (fun e he huntil text tm d htext hread => ?_) (.inr ?_)
      · obtain ⟨date', hmem, heq⟩ := (h.part he).2.1 (isUntil_unblank huntil)
        rw [hdate] at hmem
        obtain rfl := some.inj hmem
        rw [((hall e he).date hvalid heq).2] at htext
        obtain rfl := some.inj htext
        obtain ⟨d', hread', hsame⟩ := hreads.digits date tm hvalid
        rw [hread] at hread'
        rw [some.inj hread']
        exact hsame
      · have hwords := words_untilPart hvalid
        obtain ⟨e, he, heq⟩ := h.elements.exists_of (untilPart date)
          (Rule.mem_parts.mpr (.inr (.inl ⟨date, hdate, rfl⟩)))
        rw [← heq] at hwords
        refine ⟨e, he, fun hfreq => ?_, ((hall e he).date hvalid heq).1⟩
        exact false_ne_true (hwords.freq.mp (isFreq_unblank hfreq))

end

lemma Denotes.unbroken (h : Denotes recurStr rule)
    (hnot : ¬ Refused strptime (recurStr.splitOn 0x3B)) {recur : IotvtICalRecur}
    (hset : SetsAll strptime (recurStr.splitOn 0x3B) .zero recur)
    (hbyday : ∀ i, recur.byDay.testBit i = true
      ↔ ∃ days ∈ rule.byDay, ∃ day ∈ days, weekdays[i]? = some day)
    (huntil : match rule.untilDate with
      | none => recur.untilDate = .zero
      | some date => SameDate recur.untilDate (dateOf date))
    (he : element ∈ recurStr.splitOn 0x3B) : Unbroken element := by
  simp only [Refused, not_or, not_exists, not_and, not_not, not_forall] at hnot
  obtain ⟨hdaily, hdated, -, hsome⟩ := hnot
  have hunique := h.elements.unique
  constructor
  · intro hin
    obtain ⟨e, he', hfreq⟩ := hsome
    obtain rfl := hunique e he' element he
      (((h.part he').1 (isFreq_unblank hfreq)).trans ((h.part he).1 hin).symm)
    exact ⟨hfreq, hdaily e he hfreq⟩
  · intro hin
    obtain ⟨date, hdate, heq⟩ := (h.part he).2.1 hin
    rw [Option.mem_def.mp hdate] at huntil
    -- otherwise the date would still be zero, and no day is
    have hfound : ∃ e ∈ recurStr.splitOn 0x3B, isUntil e := by
      by_contra hnone
      simp only [not_exists, not_and] at hnone
      have hzero := hset.kept hnone
      have hmday := (h.valid.untilDate date hdate).real.mday.1
      have hsame : recur.untilDate.tmMday = (dateOf date).tmMday := huntil.2.2
      rw [hzero] at hsame
      rw [← hsame] at hmday
      exact absurd hmday (by decide)
    obtain ⟨e, he', hset'⟩ := hfound
    obtain ⟨date', hdate', heq'⟩ := (h.part he').2.1 (isUntil_unblank hset')
    rw [hdate] at hdate'
    obtain rfl := some.inj hdate'
    obtain rfl := hunique e he' element he (heq'.trans heq.symm)
    obtain ⟨text, hbehind, hlength, -⟩ := hdated e he hset'
    exact ⟨hset'.2, text, hbehind, hlength⟩
  · intro hin
    obtain ⟨days, hdays, heq⟩ := (h.part he).2.2 hin
    obtain ⟨hne, hvalid⟩ := h.valid.byDay days hdays
    have hfound : ∀ day ∈ days, isByDay element ∧ day <:+: element := by
      intro day hday
      obtain ⟨i, hi⟩ := mem_iff_getElem?.mp (hvalid day hday)
      have hbit := (hbyday i).mpr ⟨days, hdays, day, hday, hi⟩
      rw [hset.byDay, IotvtICalRecur.zero, Nat.zero_testBit] at hbit
      obtain ⟨e, he', hset', day', hday', hin'⟩ := hbit.resolve_left false_ne_true
      rw [hi] at hday'
      obtain rfl := some.inj hday'
      obtain ⟨days', hdays', heq'⟩ := (h.part he').2.2 (isByDay_unblank hset')
      rw [hdays] at hdays'
      obtain rfl := some.inj hdays'
      obtain rfl := hunique e he' element he (heq'.trans heq.symm)
      exact ⟨hset', hin'⟩
    obtain ⟨day, hday⟩ := exists_mem_of_ne_nil days hne
    refine ⟨(hfound day hday).1.2.2, fun day hmem hin => (hfound day ?_).2⟩
    rw [heq] at hin
    exact (infix_bydayPart_iff hvalid hmem).mp hin

end Parts

lemma readDigits_date (text : List UInt8) (tm : IotvtICalDateTime) :
    readDigits .date text tm = if RealDate (dateOf text) ∧ FourDigits (dateOf text)
      then some (digitsRead text tm .date) else none := by
  have hreal : RealDate (digitsRead text tm .date) ↔ RealDate (dateOf text) :=
    ⟨fun h => ⟨h.mon, h.mday, h.yday⟩, fun h => ⟨h.mon, h.mday, h.yday⟩⟩
  have hfour : FourDigits (digitsRead text tm .date) ↔ FourDigits (dateOf text) := Iff.rfl
  simp [readDigits, hreal, hfour]

lemma DateText.fourDigits {date : List UInt8} (h : DateText date) : FourDigits (dateOf date) := by
  obtain ⟨hlength, hdigits, -⟩ := h
  obtain ⟨a, b, c, d, rest, rfl⟩ : ∃ a b c d rest, date = a :: b :: c :: d :: rest := by
    match date, hlength with
    | a :: b :: c :: d :: rest, _ => exact ⟨a, b, c, d, rest, rfl⟩
  have hbounds : ∀ x ∈ [a, b, c, d], 0x30 ≤ x.toNat ∧ x.toNat ≤ 0x39 := by
    intro x hx
    refine hdigits x ?_
    simp only [mem_cons, not_mem_nil, or_false] at hx ⊢
    tauto
  simp only [forall_mem_cons, not_mem_nil, false_implies, implies_true] at hbounds
  have hyear : (dateOf (a :: b :: c :: d :: rest)).tmYear + tmYearOffset
      = 1000 * (a.toNat - 0x30 : ℤ) + 100 * (b.toNat - 0x30 : ℤ) + 10 * (c.toNat - 0x30 : ℤ)
        + (d.toNat - 0x30 : ℤ) := by
    simp only [dateOf, digitsRead, dateTimeOf, numberAt, drop_zero, take_succ_cons,
      take_zero, foldl_cons, foldl_nil]
    omega
  rw [FourDigits, hyear]
  omega

lemma readDigits_digits : ReadsDigits readDigits := by
  constructor
  · intro date tm hdate
    rw [readDigits_date, if_pos ⟨hdate.real, hdate.fourDigits⟩]
    exact ⟨_, rfl, rfl, rfl, rfl⟩
  · intro text tm tm'
    rw [readDigits_date, readDigits_date]
    split_ifs <;> rfl

def dailyX : List UInt8 := freqPart ++ [0x58]
def brokenDaily : List UInt8 := [0x46, 0x52, 0x20, 0x45, 0x51, 0x3D] ++ dailyText

open Option

def DateLe (a b : IotvtICalDateTime) : Prop := DateLt a b ∨ SameDate a b

def OnDay (recur : IotvtICalRecur) (now : IotvtICalDateTime) : Prop :=
  recur.byDay = 0 ∨ recur.byDay.testBit now.tmWday.toNat = true

structure InWindow (period : IotvtICalPeriod) (recur : IotvtICalRecur) (now : IotvtICalDateTime) :
    Prop where
  start : DateLe period.startDateTime now
  untilDate : recur.untilDate ≠ .zero → DateLe now recur.untilDate
  day : OnDay recur now
  time : TimeLe period.startDateTime now ∧ TimeLe now period.endDateTime

/-- A time in the window but perhaps for a leap second, the last day of a leap year before the
start, or the first of January behind the last date. -/
structure NearWindow (period : IotvtICalPeriod) (recur : IotvtICalRecur)
    (now : IotvtICalDateTime) : Prop where
  start : DateLe period.startDateTime now ∨ LeapSlip period.startDateTime now
  untilDate : recur.untilDate ≠ .zero → DateLe now recur.untilDate ∨ LeapSlip now recur.untilDate
  day : OnDay recur now
  time : secsOf period.startDateTime ≤ secsOf now ∧ secsOf now ≤ secsOf period.endDateTime

structure NoSlip (period : IotvtICalPeriod) (recur : IotvtICalRecur) (now : IotvtICalDateTime) :
    Prop where
  start : ¬ LeapSlip period.startDateTime now
  untilDate : recur.untilDate ≠ .zero → ¬ LeapSlip now recur.untilDate
  time : TimeLe period.startDateTime now ∧ TimeLe now period.endDateTime

/-- **A time that the check is right for**: near the window it is no slip, and the days since the
start can be counted. A slip for which they cannot does no harm. -/
def WindowClean (period : IotvtICalPeriod) (recur : IotvtICalRecur) (now : IotvtICalDateTime) :
    Prop :=
  NearWindow period recur now → (NoSlip period recur now ↔ diffDays period.startDateTime now ≠ none)

/-- The date is the one that `strptime` has read, or none. -/
def ReadUntil (d : IotvtICalDateTime) : Prop := d = .zero ∨ RealDate d ∧ FourDigits d

lemma parseElement_until {strptime : Strptime} (hreads : ReadsDates strptime)
    {element : List UInt8} {recur : IotvtICalRecur} {freqFlag : Bool}
    {parsed : IotvtICalRecur × Bool}
    (h : parseElement strptime element recur freqFlag = some parsed)
    (huntil : ReadUntil recur.untilDate) : ReadUntil parsed.1.untilDate := by
  unfold parseElement at h
  split_ifs at h
  · cases h
    exact huntil
  · obtain ⟨recur', hdate, rfl⟩ := map_eq_some_iff.mp h
    obtain ⟨equals, -, hdate⟩ := bind_eq_some_iff.mp hdate
    dsimp only at hdate
    split_ifs at hdate
    obtain ⟨d, hread, hsome⟩ := bind_eq_some_iff.mp hdate
    cases hsome
    exact .inr (hreads.date _ _ d hread).1
  · obtain ⟨recur', hday, rfl⟩ := map_eq_some_iff.mp h
    unfold parseByDay at hday
    simp only at hday
    split at hday
    · cases hday
    cases hday
    exact huntil
  cases h
  exact huntil

lemma parseRecur_until {strptime : Strptime} (hreads : ReadsDates strptime)
    {recurStr : List UInt8} {recur : IotvtICalRecur}
    (h : parseRecur strptime recurStr .zero = some recur) : ReadUntil recur.untilDate := by
  have hrun : ∀ (elements : List (List UInt8)) (parsed parsed' : IotvtICalRecur × Bool),
      elements.foldlM (fun parsed element => parseElement strptime element parsed.1 parsed.2)
        parsed = some parsed' → ReadUntil parsed.1.untilDate → ReadUntil parsed'.1.untilDate := by
    intro elements
    induction elements with
    | nil =>
      rintro parsed parsed' ⟨⟩ huntil
      exact huntil
    | cons element rest ih =>
      intro parsed parsed' hfold huntil
      rw [List.foldlM_cons] at hfold
      obtain ⟨next, hfirst, hrest⟩ := bind_eq_some_iff.mp hfold
      exact ih next parsed' hrest (parseElement_until hreads hfirst huntil)
  obtain ⟨⟨recur', freqFlag⟩, hfold, hflag⟩ := bind_eq_some_iff.mp h
  have huntil := hrun _ _ _ hfold (.inl rfl)
  dsimp only at hflag
  split_ifs at hflag
  cases hflag
  exact huntil

/-! ## The check -/

section Window

variable {dateOnly : Bool} {period : IotvtICalPeriod} {recur : IotvtICalRecur}
  {now : IotvtICalDateTime}

lemma days_nonneg_iff {a b : IotvtICalDateTime} (ha : RealDate a) (hb : RealDate b) {days : ℤ}
    (hdays : diffDays a b = some days) : 0 ≤ days ↔ DateLe a b ∨ LeapSlip a b := by
  obtain ⟨hlt, hsame, hgt⟩ := diffDays_sign ha hb hdays
  constructor
  · intro hnonneg
    rcases dateLt_trichotomy a b with h | h | h
    · exact .inl (.inl h)
    · exact .inl (.inr h)
    · exact .inr ((hgt h).2.mp (le_antisymm (hgt h).1 hnonneg))
  · rintro ((h | h) | h)
    · exact (hlt h).le
    · exact (hsame h).ge
    · exact ((hgt h.dateLt).2.mpr h).ge

lemma NearWindow.defined (hnear : NearWindow period recur now) (h : Parsed dateOnly period)
    (hdate : RealDate now) (huntil : RealDate recur.untilDate ∧ FourDigits recur.untilDate)
    (hgiven : recur.untilDate ≠ .zero) : ∃ days, diffDays now recur.untilDate = some days := by
  have hstart := h.startYear
  have hend := huntil.2
  unfold FourDigits tmYearOffset at hstart hend
  have hfrom : period.startDateTime.tmYear - 1 ≤ now.tmYear := by
    rcases hnear.start with (hlt | hsame) | hslip
    · have hle := hlt.year_le
      omega
    · have heq := hsame.1
      omega
    · have heq := hslip.1
      omega
  have hto : now.tmYear ≤ recur.untilDate.tmYear + 1 := by
    rcases hnear.untilDate hgiven with (hlt | hsame) | hslip
    · have hle := hlt.year_le
      omega
    · have heq := hsame.1
      omega
    · exact hslip.1.le
  exact diffDays_defined hdate huntil.1 (by omega) (by omega)

lemma validateRecur_iff (h : Parsed dateOnly period) (hdate : RealDate now)
    (huntil : ReadUntil recur.untilDate) :
    validateRecur period recur now = some .validAccess
      ↔ NearWindow period recur now ∧ diffDays period.startDateTime now ≠ none := by
  have hbit : recur.byDay ≠ 0 ∧ recur.byDay &&& 1 <<< now.tmWday.toNat = 0 ↔ ¬ OnDay recur now := by
    rw [OnDay, not_or, Nat.one_shiftLeft, Nat.and_two_pow]
    cases recur.byDay.testBit now.tmWday.toNat <;> simp
  unfold validateRecur
  by_cases htime : 0 ≤ diffSecs period.startDateTime now ∧ 0 ≤ diffSecs now period.endDateTime
  swap
  · rw [if_neg htime]
    refine iff_of_false (by simp) (fun hnear => htime ?_)
    unfold diffSecs
    exact ⟨sub_nonneg.mpr hnear.1.time.1, sub_nonneg.mpr hnear.1.time.2⟩
  rw [if_pos htime]
  cases hfrom : diffDays period.startDateTime now with
  | none => simp
  | some fromStart =>
    have hsign := days_nonneg_iff h.startDate hdate hfrom
    refine Iff.trans ?_ (and_iff_left (some_ne_none fromStart)).symm
    simp only [bind_eq_bind, bind_some]
    by_cases hstart : 0 ≤ fromStart
    swap
    · rw [if_neg hstart]
      exact iff_of_false (by simp) (fun hnear => hstart (hsign.mpr hnear.start))
    rw [if_pos hstart]
    -- the rest of the check, with the date that ends the recurrence
    have hrest : ∀ untilOver : Bool,
        ((if untilOver = true ∨ (recur.byDay ≠ 0 ∧ recur.byDay &&& 1 <<< now.tmWday.toNat = 0)
            then IotvtICalResult.invalidAccess else .validAccess) = .validAccess)
          ↔ untilOver = false ∧ OnDay recur now := by
      intro untilOver
      split_ifs with hif
      · refine iff_of_false (by simp) (fun hand => ?_)
        rcases hif with hover | hday
        · exact absurd (hover.symm.trans hand.1) (by decide)
        · exact hbit.mp hday hand.2
      · rw [not_or, hbit, not_not] at hif
        exact iff_of_true rfl ⟨Bool.eq_false_iff.mpr hif.1, hif.2⟩
    have htimes : secsOf period.startDateTime ≤ secsOf now
        ∧ secsOf now ≤ secsOf period.endDateTime :=
      ⟨sub_nonneg.mp htime.1, sub_nonneg.mp htime.2⟩
    by_cases hzero : recur.untilDate = .zero
    · rw [if_pos hzero]
      simp only [Option.some.injEq]
      rw [hrest]
      exact ⟨fun hday => ⟨hsign.mp hstart, fun hne => absurd hzero hne, hday.2, htimes⟩,
        fun hnear => ⟨rfl, hnear.day⟩⟩
    rw [if_neg hzero]
    have hreal := huntil.resolve_left hzero
    cases hto : diffDays now recur.untilDate with
    | none =>
      refine iff_of_false (by simp) (fun hnear => ?_)
      obtain ⟨days, hdays⟩ := hnear.defined h hdate hreal hzero
      rw [hto] at hdays
      cases hdays
    | some toUntil =>
      have hsign' := days_nonneg_iff hdate hreal.1 hto
      simp only [map_some, bind_some, Option.some.injEq]
      rw [hrest, decide_eq_false_iff_not, not_lt, hsign']
      exact ⟨fun hday => ⟨hsign.mp hstart, fun _ => hday.1, hday.2, htimes⟩,
        fun hnear => ⟨hnear.untilDate hzero, hnear.day⟩⟩

lemma inWindow_iff (h : Parsed dateOnly period) (htime : RealTime now) :
    InWindow period recur now ↔ NearWindow period recur now ∧ NoSlip period recur now := by
  have hnot : ∀ {a b : IotvtICalDateTime}, DateLe a b → ¬ LeapSlip a b := by
    rintro a b (hlt | hsame) hslip
    · exact hlt.asymm hslip.dateLt
    · exact hslip.dateLt.not_same.2 hsame
  constructor
  · intro hin
    exact ⟨⟨.inl hin.start, fun hne => .inl (hin.untilDate hne), hin.day,
        hin.time.1.secs_le h.startTime htime, hin.time.2.secs_le htime h.endTime⟩,
      hnot hin.start, fun hne => hnot (hin.untilDate hne), hin.time⟩
  · rintro ⟨hnear, hno⟩
    exact ⟨hnear.start.resolve_right hno.start,
      fun hne => (hnear.untilDate hne).resolve_right (hno.untilDate hne), hnear.day, hno.time⟩

end Window

/-- **When the check is right**, for a period and a recurrence that were parsed and any time. -/
theorem window_exact_iff (strptime : Strptime) (hreads : ReadsDates strptime)
    (periodStr recurStr : List UInt8) (period : IotvtICalPeriod)
    (hperiod : parsePeriod strptime periodStr = some period) (recur : IotvtICalRecur)
    (hrecur : parseRecur strptime recurStr .zero = some recur) (now : IotvtICalDateTime)
    (hdate : RealDate now) (htime : RealTime now) :
    (isRequestWithinValidTime strptime now (some periodStr) (some recurStr) = some .validAccess
        ↔ InWindow period recur now)
      ↔ WindowClean period recur now := by
  have hparsed := parsePeriod_parsed hreads hperiod
  have hcheck : isRequestWithinValidTime strptime now (some periodStr) (some recurStr)
      = validateRecur period recur now := by
    unfold isRequestWithinValidTime
    simp [hperiod, hrecur]
  rw [hcheck, validateRecur_iff hparsed hdate (parseRecur_until hreads hrecur),
    inWindow_iff hparsed htime, and_congr_right_iff, WindowClean]
  exact imp_congr_right (fun _ => Iff.comm)

def everyDay : List UInt8 := freqText ++ 0x3D :: dailyText

lemma everyDay_parsed : parseRecur readDigits everyDay .zero = some ⟨freqDaily, .zero, 0⟩ := by
  decide

theorem newYearsEve_early :
    ¬ (isRequestWithinValidTime readDigits (dateTimeOf 2024 12 31 12 0 0) (some newYearsDay)
          (some everyDay) = some .validAccess
        ↔ InWindow ⟨dateTimeOf 2025 1 1 8 0 0, dateTimeOf 2025 1 1 17 0 0⟩ ⟨freqDaily, .zero, 0⟩
          (dateTimeOf 2024 12 31 12 0 0)) := by
  intro hright
  have hparsed := parsePeriod_parsed readDigits_reads newYearsDay_parsed
  have hdate : RealDate (dateTimeOf 2024 12 31 12 0 0) := by decide
  obtain ⟨days, hdays⟩ :=
    diffDays_defined hparsed.startDate hdate ⟨by decide, by decide⟩ ⟨by decide, by decide⟩
  have hvalid := (@validateRecur_iff _ _ ⟨freqDaily, .zero, 0⟩ _ hparsed hdate (.inl rfl)).mpr
    ⟨⟨.inr ⟨rfl, rfl, by decide⟩, fun hne => absurd rfl hne, .inl rfl, by decide⟩,
      by rw [hdays]; exact some_ne_none days⟩
  have hcheck : isRequestWithinValidTime readDigits (dateTimeOf 2024 12 31 12 0 0)
      (some newYearsDay) (some everyDay) = some .validAccess := by
    unfold isRequestWithinValidTime
    simp only [newYearsDay_parsed, everyDay_parsed]
    exact hvalid
  rcases (hright.mp hcheck).start with hlt | hsame
  · exact absurd hlt.year_le (by decide)
  · exact absurd hsame.1 (by decide)

theorem nextYear_valid :
    isRequestWithinValidTime readDigits (dateTimeOf 2026 6 1 12 0 0) (some newYearsDay)
        (some everyDay) = some .validAccess
      ↔ InWindow ⟨dateTimeOf 2025 1 1 8 0 0, dateTimeOf 2025 1 1 17 0 0⟩ ⟨freqDaily, .zero, 0⟩
        (dateTimeOf 2026 6 1 12 0 0) := by
  refine (window_exact_iff readDigits readDigits_reads newYearsDay everyDay _ newYearsDay_parsed _
    everyDay_parsed (dateTimeOf 2026 6 1 12 0 0) (by decide) (by decide)).mpr (fun _ => ?_)
  have hparsed := parsePeriod_parsed readDigits_reads newYearsDay_parsed
  obtain ⟨days, hdays⟩ := @diffDays_defined _ (dateTimeOf 2026 6 1 12 0 0) hparsed.startDate
    (by decide) ⟨by decide, by decide⟩ ⟨by decide, by decide⟩
  refine iff_of_true ⟨fun hslip => absurd hslip.2.2 (by decide), fun hne => absurd rfl hne,
    .inl (by decide), .inl (by decide)⟩ ?_
  rw [hdays]
  simp

end Iochibity.Sec.Calendar
