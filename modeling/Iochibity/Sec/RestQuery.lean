/-
Queries of requests to the security resources, as `srmutility.c` takes them apart.
-/
import Iochibity.Sec.UuidText
import Mathlib.Tactic.IntervalCases

namespace Iochibity.Sec

open List

section

def restQuerySeparator : UInt8 := 59

def restQueryDelimeter : UInt8 := 61

/-- `tolower` in the C locale. -/
def tolower (c : UInt8) : UInt8 := if 65 ≤ c ∧ c ≤ 90 then c + 32 else c

/-- Whether `strncasecmp` returns 0. -/
def strncasecmpZero : List UInt8 → List UInt8 → Nat → Bool
  | _, _, 0 => true
  | [], [], _ + 1 => true
  | a :: s, b :: t, n + 1 => tolower a == tolower b && strncasecmpZero s t n
  | _, _, _ + 1 => false

def isDigit (c : UInt8) : Bool := 48 ≤ c && c ≤ 57

def digitsValue (digits : List UInt8) : Nat :=
  digits.foldl (fun n c => 10 * n + (c.toNat - 48)) 0

variable (s : List UInt8)

/-- What `strtol`, `atoi` and `scanf` read as an integer: blanks, a sign and digits,
of which there must be one. -/
def scanInteger : Option Int :=
  let s := s.dropWhile isSpace
  let (negative, s) := match s with
    | 45 :: rest => (true, rest)
    | 43 :: rest => (false, rest)
    | _ => (false, s)
  let digits := s.takeWhile isDigit
  if digits = [] then none
  else some (if negative then -(digitsValue digits : Int) else digitsValue digits)

def ulongMax : Nat := 18446744073709551615

/-- `sscanf` with `%u`, by way of `strtoul`, which stops at its largest value. -/
def sscanfUnsigned : Option UInt32 :=
  (scanInteger s).map
    (fun n => if ulongMax < n.natAbs then UInt32.ofNat ulongMax else UInt32.ofInt n)

def longMax : Int := 9223372036854775807

/-- `(uint16_t)atoi(s)`. `atoi` is `strtol`, which stops at the ends of its range, and
a text without a number is 0. -/
def atoi16 : UInt16 :=
  UInt16.ofInt (max (-longMax - 1) (min longMax ((scanInteger s).getD 0)))

/-- The tokens of `strtok_r` with `","`. They are not empty. -/
def commaTokens : List (List UInt8) :=
  (s.splitOnP (· == 44)).filter (· ≠ [])

/-! ## Segments -/

/-- A segment, as `coap_parse_next` leaves it in the iterator: the query from its first byte on and
the number of bytes up to its end, at a separator or the end of the query. -/
structure QuerySegment where
  text : List UInt8
  length : Nat
  ends : text.length = length ∨ text[length]? = some restQuerySeparator

/-- `OicParseQueryIter_t`: attribute and value, each as the rest of the query from
where it starts, with its length. -/
structure OicParseQueryIter where
  attrPos : List UInt8
  attrLen : Nat
  valPos : List UInt8
  valLen : UInt64

/-- `GetNextQuery` on the next segment. The search for the delimiter does not stop at
the end of the segment. -/
def getNextQuery (segment : QuerySegment) : Option OicParseQueryIter :=
  (segment.text.findIdx? (· == restQueryDelimeter)).map (fun delimPos =>
    { attrPos := segment.text
      attrLen := delimPos
      valPos := segment.text.drop (delimPos + 1)
      valLen := UInt64.ofNat segment.length - UInt64.ofNat (delimPos + 1) })

/-- The loop `while (GetNextQuery(&parseIter))`: what its body sees. -/
def queryPairs : List QuerySegment → List OicParseQueryIter
  | [] => []
  | segment :: rest =>
    match getNextQuery segment with
    | some pair => pair :: queryPairs rest
    | none => []

/-- The segments that `coap_parse_next` gives for a query, in order: each is seen with the rest of
the query behind it, so the later ones see less. -/
structure RestQuery where
  segments : List QuerySegment
  nested : segments.Pairwise (fun a b => b.text <:+ a.text ∧ b.text.length < a.text.length)
  sized : ∀ segment ∈ segments, segment.text.length < 2 ^ 64

/-! ## What a segment says

The delimiter is looked for in the rest of the query, so the attribute that
`GetNextQuery` gives for a segment without one runs over its end. It has a separator
then, and no name does: the attributes that `strncasecmp` lets through are those of
segments with a delimiter. -/

namespace QuerySegment

variable (segment : QuerySegment)

lemma length_le :
    segment.length ≤ segment.text.length := by
  rcases segment.ends with hend | hsep
  · exact hend.ge
  · exact Nat.le_of_lt (List.getElem?_eq_some_iff.mp hsep).1

def bytes : List UInt8 := segment.text.take segment.length

def hasDelimeter : Bool := segment.bytes.contains restQueryDelimeter

def attr : List UInt8 :=
  segment.bytes.takeWhile (· ≠ restQueryDelimeter)

def value : List UInt8 :=
  segment.bytes.drop (segment.attr.length + 1)

/-- What `strncasecmp` with the length of the attribute takes for a name: a beginning
of it, in either case. -/
def takenFor (name : List UInt8) (segment : QuerySegment) : Bool :=
  segment.hasDelimeter && (segment.attr.map tolower).isPrefixOf name

end QuerySegment

def IsName (name : List UInt8) : Prop := ∀ c ∈ name, tolower c = c ∧ c ≠ restQuerySeparator

lemma strncasecmpZero_iff {s t : List UInt8} {n : Nat} (hn : n ≤ s.length)
    (ht : IsName t) : strncasecmpZero s t n = true ↔ (s.take n).map tolower <+: t := by
  induction n generalizing s t with
  | zero => simp [strncasecmpZero]
  | succ n ih =>
    rcases s with _ | ⟨a, s⟩
    · simp at hn
    rcases t with _ | ⟨b, t⟩
    · simp [strncasecmpZero]
    have hb : tolower b = b := (ht b mem_cons_self).1
    have ht' : IsName t := fun c hc => ht c (mem_cons_of_mem b hc)
    have hn' : n ≤ s.length := Nat.le_of_succ_le_succ hn
    simp [strncasecmpZero, hb, ih hn' ht']

lemma attribute_eq {segment : QuerySegment} {delimPos : Nat}
    (hfind : segment.text.findIdx? (· == restQueryDelimeter) = some delimPos)
    (hin : delimPos < segment.length) :
    segment.hasDelimeter = true ∧ segment.attr = segment.text.take delimPos := by
  obtain ⟨hlt, hat, hbefore⟩ := findIdx?_eq_some_iff_getElem.mp hfind
  have hat : segment.text[delimPos] = restQueryDelimeter := by simpa using hat
  have hbytes : segment.bytes = segment.text.take delimPos
      ++ restQueryDelimeter :: (segment.text.drop (delimPos + 1)).take
        (segment.length - (delimPos + 1)) := by
    have hsplit : segment.length = delimPos + (segment.length - delimPos) := by omega
    have hsucc : segment.length - delimPos = (segment.length - (delimPos + 1)) + 1 := by omega
    rw [QuerySegment.bytes, hsplit, take_add, drop_eq_getElem_cons hlt, hat, hsucc, take_succ_cons]
    congr 3
    omega
  constructor
  · rw [QuerySegment.hasDelimeter, hbytes, contains_iff_mem]
    simp
  · have hnone : ∀ c ∈ segment.text.take delimPos, decide (c ≠ restQueryDelimeter) = true := by
      intro c hc
      obtain ⟨i, hi, rfl⟩ := getElem_of_mem hc
      rw [length_take] at hi
      rw [getElem_take]
      simpa using hbefore i (by omega)
    rw [QuerySegment.attr, hbytes, takeWhile_append_of_pos hnone,
      takeWhile_cons_of_neg (by simp), append_nil]

lemma getNextQuery_some {segment : QuerySegment} {pair : OicParseQueryIter}
    (hsized : segment.text.length < 2 ^ 64) (h : getNextQuery segment = some pair)
    {name : List UInt8} (hname : IsName name) :
    strncasecmpZero pair.attrPos name pair.attrLen = segment.takenFor name
      ∧ (segment.takenFor name = true → pair.valLen.toNat = segment.value.length
            ∧ pair.valPos.take pair.valLen.toNat = segment.value) := by
  rw [getNextQuery, Option.map_eq_some_iff] at h
  obtain ⟨delimPos, hfind, rfl⟩ := h
  obtain ⟨hlt, hat, hbefore⟩ := findIdx?_eq_some_iff_getElem.mp hfind
  have hends := segment.ends
  have hle := segment.length_le
  have hcmp := strncasecmpZero_iff (Nat.le_of_lt hlt) hname
  by_cases hin : delimPos < segment.length
  · obtain ⟨hhas, hattr⟩ := attribute_eq hfind hin
    have hlen : segment.attr.length = delimPos := by
      rw [hattr, length_take]
      omega
    have hval : (UInt64.ofNat segment.length - UInt64.ofNat (delimPos + 1)).toNat
        = segment.value.length := by
      rw [QuerySegment.value, length_drop, QuerySegment.bytes, length_take, hlen,
        UInt64.toNat_sub, UInt64.toNat_ofNat', UInt64.toNat_ofNat']
      omega
    refine ⟨?_, fun _ => ⟨hval, ?_⟩⟩
    · rw [Bool.eq_iff_iff, hcmp, QuerySegment.takenFor, hhas, Bool.true_and,
        List.isPrefixOf_iff_prefix, hattr]
    · rw [hval, QuerySegment.value, hlen, QuerySegment.bytes, drop_take, length_take, length_drop]
      congr 1
      omega
  -- the delimiter is behind a separator, and so the attribute has one
  have hsep : segment.text[segment.length]? = some restQuerySeparator := by
    rcases hends with hend | hsep
    · omega
    · exact hsep
  obtain ⟨hlen, hsep⟩ := List.getElem?_eq_some_iff.mp hsep
  have hne : segment.length ≠ delimPos := by
    intro heq
    subst heq
    rw [hsep] at hat
    exact absurd hat (by decide)
  have hnot : segment.takenFor name = false := by
    rw [QuerySegment.takenFor, Bool.and_eq_false_iff]
    left
    rw [QuerySegment.hasDelimeter, ← Bool.not_eq_true, contains_iff_mem]
    intro hmem
    obtain ⟨i, hi, heq⟩ := getElem_of_mem hmem
    simp only [QuerySegment.bytes, length_take] at hi heq
    rw [getElem_take] at heq
    have := hbefore i (by omega)
    simp [heq] at this
  refine ⟨?_, fun htaken => absurd htaken (by rw [hnot]; exact Bool.false_ne_true)⟩
  rw [hnot, ← Bool.not_eq_true, hcmp]
  intro hpre
  have hmem : tolower restQuerySeparator ∈ (segment.text.take delimPos).map tolower := by
    apply mem_map_of_mem
    rw [mem_take_iff_getElem]
    exact ⟨segment.length, by omega, hsep⟩
  exact (hname _ (hpre.subset hmem)).2 (by decide)

lemma takenFor_of_none {segment : QuerySegment} (h : getNextQuery segment = none)
    (name : List UInt8) : segment.takenFor name = false := by
  rw [getNextQuery, Option.map_eq_none_iff, findIdx?_eq_none_iff] at h
  rw [QuerySegment.takenFor, Bool.and_eq_false_iff]
  left
  rw [QuerySegment.hasDelimeter, ← Bool.not_eq_true, contains_iff_mem]
  intro hmem
  have := h _ (mem_of_mem_take hmem)
  simp at this

lemma getNextQuery_suffix {a b : QuerySegment} (h : getNextQuery a = none)
    (hab : b.text <:+ a.text) : getNextQuery b = none := by
  rw [getNextQuery, Option.map_eq_none_iff, findIdx?_eq_none_iff] at h ⊢
  exact fun c hc => h c (hab.subset hc)

/-! ## The pairs of a query -/

structure PairOf (segment : QuerySegment) (pair : OicParseQueryIter) : Prop where
  starts : pair.attrPos = segment.text ∧ pair.valPos = segment.text.drop (pair.attrLen + 1)
  inside : pair.attrLen + 1 + pair.valLen.toNat = segment.length
  attr : pair.attrPos.take pair.attrLen = segment.attr
  value : pair.valPos.take pair.valLen.toNat = segment.value

lemma getNextQuery_pairOf {segment : QuerySegment} (hsized : segment.text.length < 2 ^ 64)
    (h : segment.hasDelimeter) :
    ∃ pair, getNextQuery segment = some pair ∧ PairOf segment pair := by
  obtain ⟨i, hi, hat⟩ := getElem_of_mem (contains_iff_mem.1 h)
  simp only [QuerySegment.bytes, length_take, getElem_take] at hi hat
  have hsome : (segment.text.findIdx? (· == restQueryDelimeter)).isSome := by
    rw [findIdx?_isSome, any_eq_true]
    exact ⟨_, getElem_mem _, by simpa using hat⟩
  obtain ⟨delimPos, hfind⟩ := Option.isSome_iff_exists.1 hsome
  obtain ⟨hlt, -, hbefore⟩ := findIdx?_eq_some_iff_getElem.1 hfind
  have hle : delimPos ≤ i := by
    by_contra hgt
    have := hbefore i (by omega)
    simp [hat] at this
  obtain ⟨-, hattr⟩ := attribute_eq hfind (by omega)
  have hval : (UInt64.ofNat segment.length - UInt64.ofNat (delimPos + 1)).toNat
      = segment.length - (delimPos + 1) := by
    rw [UInt64.toNat_sub, UInt64.toNat_ofNat', UInt64.toNat_ofNat']
    have := segment.length_le
    omega
  refine ⟨_, by rw [getNextQuery, hfind]; rfl, ⟨rfl, rfl⟩, ?_, hattr.symm, ?_⟩
  · dsimp only
    omega
  · dsimp only
    rw [hval, QuerySegment.value, hattr, QuerySegment.bytes, drop_take, length_take]
    congr 2 <;> omega

lemma length_queryPairs {segments : List QuerySegment}
    (hnested : segments.Pairwise (fun a b => b.text <:+ a.text)) :
    (queryPairs segments).length = segments.countP (restQueryDelimeter ∈ ·.text) := by
  induction segments with
  | nil => rfl
  | cons segment rest ih =>
    obtain ⟨hfirst, hrest⟩ := pairwise_cons.1 hnested
    have hnone : getNextQuery segment = none ↔ restQueryDelimeter ∉ segment.text := by
      rw [getNextQuery, Option.map_eq_none_iff, findIdx?_eq_none_iff]
      exact ⟨fun h hin => by simpa using h _ hin,
        fun h c hc => beq_false_of_ne fun heq => h (heq ▸ hc)⟩
    rw [queryPairs, countP_cons]
    split
    · next pair hsome =>
      have hin : restQueryDelimeter ∈ segment.text := by
        by_contra hnot
        rw [hnone.2 hnot] at hsome
        exact absurd hsome (by simp)
      rw [length_cons, ih hrest, if_pos (decide_eq_true hin)]
    · next hnot =>
      have hout := hnone.1 hnot
      rw [if_neg (by simpa using hout), length_nil, Nat.add_zero, eq_comm, countP_eq_zero]
      exact fun later hlater => by simpa using fun hin => hout ((hfirst later hlater).subset hin)

def Tokenized (segments : List QuerySegment) : Prop :=
  Forall₂ PairOf (segments.filter QuerySegment.hasDelimeter) (queryPairs segments)

def DelimetersInside (segments : List QuerySegment) : Prop :=
  ∀ segment ∈ segments, segment.hasDelimeter = true ∨ restQueryDelimeter ∉ segment.text

lemma mem_text {segment : QuerySegment} (h : segment.hasDelimeter = true) :
    restQueryDelimeter ∈ segment.text :=
  mem_of_mem_take (contains_iff_mem.1 h)

lemma queryPairs_of_none {segments : List QuerySegment}
    (h : ∀ segment ∈ segments, restQueryDelimeter ∉ segment.text)
    (hnested : segments.Pairwise (fun a b => b.text <:+ a.text)) : queryPairs segments = [] := by
  rw [← length_eq_zero_iff, length_queryPairs hnested, countP_eq_zero]
  simpa using h

lemma tokenized_of_inside {segments : List QuerySegment}
    (hnested : segments.Pairwise (fun a b => b.text <:+ a.text))
    (hsized : ∀ segment ∈ segments, segment.text.length < 2 ^ 64)
    (h : DelimetersInside segments) : Tokenized segments := by
  induction segments with
  | nil => exact .nil
  | cons segment rest ih =>
    obtain ⟨hfirst, hrest⟩ := pairwise_cons.1 hnested
    obtain ⟨hsize, hsizes⟩ := forall_mem_cons.1 hsized
    obtain ⟨hin, hins⟩ := forall_mem_cons.1 h
    rcases hin with hin | hout
    · obtain ⟨pair, hget, hpair⟩ := getNextQuery_pairOf hsize hin
      rw [Tokenized, filter_cons_of_pos hin, queryPairs, hget]
      exact .cons hpair (ih hrest hsizes hins)
    · have hall : ∀ later ∈ segment :: rest, restQueryDelimeter ∉ later.text :=
        forall_mem_cons.2 ⟨hout, fun later hlater hmem => hout ((hfirst later hlater).subset hmem)⟩
      have hfilter : (segment :: rest).filter QuerySegment.hasDelimeter = [] :=
        filter_eq_nil_iff.2 fun later hlater hhas => hall later hlater (mem_text hhas)
      rw [Tokenized, hfilter, queryPairs_of_none hall hnested]
      exact .nil

/-- Each pair is that of its segment if no delimiter comes behind a segment without one, and only
then. -/
theorem query_tokenized_iff (query : RestQuery) :
    Tokenized query.segments ↔ DelimetersInside query.segments := by
  have hnested := query.nested.imp fun h => h.1
  refine ⟨fun h segment hsegment => ?_, tokenized_of_inside hnested query.sized⟩
  have hlen := h.length_eq
  rw [length_queryPairs hnested, ← countP_eq_length_filter] at hlen
  by_contra hnot
  rw [not_or, not_not, Bool.not_eq_true] at hnot
  -- this segment is counted on one side alone
  obtain ⟨before, after, heq⟩ := append_of_mem hsegment
  have hmono (l : List QuerySegment) : l.countP QuerySegment.hasDelimeter ≤
      l.countP (restQueryDelimeter ∈ ·.text) :=
    countP_mono_left fun s _ hs => decide_eq_true (mem_text hs)
  have h1 := hmono before
  have h2 := hmono after
  simp only [heq, countP_append, countP_cons, hnot, decide_true, if_true, Bool.false_eq_true,
    if_false] at hlen
  omega

/-- `a;b=c`. -/
def strayQuery : RestQuery where
  segments := [⟨[97, 59, 98, 61, 99], 1, .inr rfl⟩, ⟨[98, 61, 99], 3, .inl rfl⟩]
  nested := by simpa using ⟨[97, 59], rfl⟩
  sized := by simp

theorem strayQuery_taken : ¬ ∀ query : RestQuery, Tokenized query.segments := by
  intro h
  have hlen := (h strayQuery).length_eq
  exact absurd hlen (by decide)

end

/-- The loop of `OCConvertStringToUuid` on the memory from `urnIdx` on: where each `sscanf` starts,
and its byte. -/
def scanFrom : ℕ → ℕ → List UInt8 → List (ℕ × UInt8)
  | 0, _, _ => []
  | n + 1, urnIdx, memory =>
    let hyphen := if memory.head? = some 45 then 1 else 0
    (urnIdx + hyphen, scanHexByte ((memory.drop hyphen).takeWhile (· ≠ 0)))
      :: scanFrom n (urnIdx + hyphen + 2) (memory.drop (hyphen + 2))

/-- `OCConvertStringToUuid` with the memory behind the terminator and the bytes that `uuid` held. -/
def ocConvertStringToUuid (behind uuidString uuid : List UInt8) : Bool × List UInt8 :=
  if uuidString.length = 36 then
    (true, (scanFrom 16 0 (uuidString ++ 0 :: behind)).map Prod.snd)
  else (false, uuid)

/-- `ConvertStrToUuid`, which takes the empty string for the UUID of zeros. -/
def ocConvertStrToUuid (behind strUuid uuid : List UInt8) : Bool × List UInt8 :=
  if strUuid.length = 0 then (true, replicate 16 0)
  else ocConvertStringToUuid behind strUuid uuid

def isxdigit (c : UInt8) : Bool := (hexValue c).isSome

/-- The array `hyphens`, and what memory holds behind its four entries. -/
def hyphens (past : ℕ → ℕ) (counter : ℕ) : ℕ :=
  [9, 14, 19, 24].getD counter (past (counter - 4))

/-- The loop of `OCIsUUID`, which goes on to read `hyphens[counter]` behind the last hyphen. -/
def uuidLoop (past : ℕ → ℕ) : ℕ → ℕ → List UInt8 → Bool
  | _, _, [] => true
  | i, counter, var :: rest =>
    if i + 1 = hyphens past counter then var == 45 && uuidLoop past (i + 1) (counter + 1) rest
    else isxdigit var && uuidLoop past (i + 1) counter rest

def ocIsUuid (past : ℕ → ℕ) (uuid : List UInt8) : Bool :=
  uuid.length == 36 && uuidLoop past 0 0 uuid

/-- The bytes of `OCConvertUuidToString`. -/
def uuidText (i : ℕ) (uuid : List UInt8) : List UInt8 :=
  (uuidChars i uuid).flatMap String.utf8EncodeChar

/-! ## Texts -/

def hyphenBytes (i : ℕ) : List UInt8 := if i = 4 ∨ i = 6 ∨ i = 8 ∨ i = 10 then [45] else []

/-- Two digits for each of `n` bytes from byte `i` on, with the hyphens of a UUID. -/
def IsUuidText : ℕ → ℕ → List UInt8 → Prop
  | _, 0, s => s = []
  | i, n + 1, s => ∃ c d rest, s = hyphenBytes i ++ c :: d :: rest ∧ isxdigit c = true ∧
      isxdigit d = true ∧ IsUuidText (i + 1) n rest

lemma uuidText_cons (i : ℕ) (b : UInt8) (bytes : List UInt8) :
    uuidText i (b :: bytes) = hyphenBytes i ++ (hexBytes b ++ uuidText (i + 1) bytes) := by
  have hhyphen : (hyphenBefore i).flatMap String.utf8EncodeChar = hyphenBytes i := by
    rw [hyphenBefore, hyphenBytes]
    split_ifs <;> decide
  rw [uuidText, uuidChars, flatMap_append, flatMap_append, hhyphen, encode_hexByte, append_assoc]
  rfl

lemma hexValue_spec {c v : UInt8} (h : hexValue c = some v) :
    v < 16 ∧ hexAscii v = tolower c ∧ isSpace c = false ∧ c ≠ 43 ∧ c ≠ 45 ∧ c ≠ 0 := by
  unfold hexValue at h
  split_ifs at h with h1 h2 h3 <;> cases h <;> simp only [hexAscii, tolower, isSpace] <;> grind

lemma hexBytes_join {high low : UInt8} (hhigh : high < 16) (hlow : low < 16) :
    hexBytes (16 * high + low) = [hexAscii high, hexAscii low] := by
  have hhigh' : high.toNat < 16 := hhigh
  have hlow' : low.toNat < 16 := hlow
  have hsum : (16 * high + low).toNat = 16 * high.toNat + low.toNat := by
    simp only [UInt8.toNat_add, UInt8.toNat_mul, UInt8.toNat_ofNat, Nat.reducePow, Nat.reduceMod]
    omega
  have hdiv : (16 * high + low) / 16 = high := by
    apply UInt8.toNat.inj
    simp only [UInt8.toNat_div, hsum, UInt8.toNat_ofNat, Nat.reducePow, Nat.reduceMod]
    omega
  have hmod : (16 * high + low) % 16 = low := by
    apply UInt8.toNat.inj
    simp only [UInt8.toNat_mod, hsum, UInt8.toNat_ofNat, Nat.reducePow, Nat.reduceMod]
    omega
  rw [hexBytes, hdiv, hmod]

lemma isxdigit_of_tolower {c v : UInt8} (hv : v < 16) (h : tolower c = hexAscii v) :
    isxdigit c = true := by
  unfold isxdigit hexValue
  unfold tolower hexAscii at h
  grind

lemma isxdigit_ne {c : UInt8} (h : isxdigit c = true) : c ≠ 45 ∧ c ≠ 0 := by
  obtain ⟨v, hv⟩ := Option.isSome_iff_exists.1 h
  exact (hexValue_spec hv).2.2.2.2

lemma scanHexByte_digits {c d : UInt8} (hc : isxdigit c = true) (hd : isxdigit d = true)
    (rest : List UInt8) : hexBytes (scanHexByte (c :: d :: rest)) = [tolower c, tolower d] := by
  obtain ⟨high, hhigh⟩ := Option.isSome_iff_exists.1 hc
  obtain ⟨low, hlow⟩ := Option.isSome_iff_exists.1 hd
  obtain ⟨hlt, heq, hspace, hplus, hminus, -⟩ := hexValue_spec hhigh
  obtain ⟨hlt', heq', -⟩ := hexValue_spec hlow
  have hdrop : (c :: d :: rest).dropWhile isSpace = c :: d :: rest := by simp [hspace]
  rw [scanHexByte, hdrop]
  simp only [if_neg hplus, if_neg hminus, hhigh, hlow]
  rw [hexBytes_join hlt hlt', heq, heq']

lemma scanFrom_digits {c d : UInt8} (hc : isxdigit c = true) (hd : isxdigit d = true)
    (i n urnIdx : ℕ) (memory : List UInt8) :
    scanFrom (n + 1) urnIdx (hyphenBytes i ++ c :: d :: memory) =
      (urnIdx + (hyphenBytes i).length, scanHexByte (c :: d :: memory.takeWhile (· ≠ 0)))
        :: scanFrom n (urnIdx + (hyphenBytes i).length + 2) memory := by
  obtain ⟨hminus, hzero⟩ := isxdigit_ne hc
  have hzero' := (isxdigit_ne hd).2
  by_cases hi : i = 4 ∨ i = 6 ∨ i = 8 ∨ i = 10
  · simp [scanFrom, hyphenBytes, if_pos hi, hzero, hzero']
  · simp [scanFrom, hyphenBytes, if_neg hi, hminus, hzero, hzero']

lemma scanFrom_text {i n : ℕ} {s : List UInt8} (h : IsUuidText i n s) (urnIdx : ℕ)
    (memory : List UInt8) :
    uuidText i ((scanFrom n urnIdx (s ++ memory)).map Prod.snd) = s.map tolower ∧
      ∀ e ∈ scanFrom n urnIdx (s ++ memory), e.1 ≤ urnIdx + s.length := by
  induction n generalizing i s urnIdx with
  | zero =>
    cases h
    exact ⟨rfl, fun e he => absurd he not_mem_nil⟩
  | succ n ih =>
    obtain ⟨c, d, rest, rfl, hc, hd, hrest⟩ := h
    obtain ⟨htext, hread⟩ := ih hrest (urnIdx + (hyphenBytes i).length + 2)
    have hlower : (hyphenBytes i).map tolower = hyphenBytes i := by
      rw [hyphenBytes]
      split_ifs <;> decide
    rw [append_assoc, cons_append, cons_append, scanFrom_digits hc hd]
    refine ⟨?_, fun e' he' => ?_⟩
    · rw [map_cons, uuidText_cons, htext, scanHexByte_digits hc hd, map_append, hlower]
      rfl
    · simp only [length_append, length_cons]
      rcases mem_cons.1 he' with rfl | hmem
      · omega
      · have := hread e' hmem
        omega

lemma isUuidText_of_tolower {i : ℕ} {bytes s : List UInt8} (h : uuidText i bytes = s.map tolower) :
    IsUuidText i bytes.length s := by
  induction bytes generalizing i s with
  | nil => exact map_eq_nil_iff.1 h.symm
  | cons b bytes ih =>
    rw [uuidText_cons] at h
    obtain ⟨front, back, rfl, hfront, hback⟩ := map_eq_append_iff.1 h.symm
    obtain ⟨digits, rest, rfl, hdigits, hrest⟩ := map_eq_append_iff.1 hback
    obtain ⟨c, tail, rfl, hc, htail⟩ := map_eq_cons_iff.1 hdigits
    obtain ⟨d, tail, rfl, hd, hnil⟩ := map_eq_cons_iff.1 htail
    rw [map_eq_nil_iff] at hnil
    subst hnil
    have hhyphen : front = hyphenBytes i := by
      have hone (x : UInt8) (hx : tolower x = 45) : x = 45 := by
        unfold tolower at hx
        grind
      unfold hyphenBytes at hfront ⊢
      split_ifs at hfront ⊢
      · obtain ⟨x, tail, rfl, hx, htail⟩ := map_eq_cons_iff.1 hfront
        rw [hone x hx, map_eq_nil_iff.1 htail]
      · exact map_eq_nil_iff.1 hfront
    rw [hhyphen]
    exact ⟨c, d, rest, rfl, isxdigit_of_tolower (div16_lt b) hc,
      isxdigit_of_tolower (mod16_lt b) hd, ih hrest.symm⟩

/-- The hyphens in front of byte `k`, without that of the byte itself. -/
def hyphensBefore (k : ℕ) : ℕ :=
  [0, 0, 0, 0, 0, 1, 1, 2, 2, 3, 3, 4, 4, 4, 4, 4, 4].getD k 0

/-- A text is accepted unless the value behind the array asks for a hyphen further on. -/
lemma uuidLoop_text (past : ℕ → ℕ) {k n : ℕ} {s : List UInt8} (hk : k + n = 16)
    (h : IsUuidText k n s) :
    uuidLoop past (2 * k + hyphensBefore k) (hyphensBefore k) s = true ↔
      ¬ (25 ≤ past 0 ∧ 2 * k + hyphensBefore k < past 0 ∧ past 0 ≤ 36) := by
  induction n generalizing k s with
  | zero =>
    cases h
    obtain rfl : k = 16 := hk
    simp [uuidLoop, hyphensBefore]
  | succ n ih =>
    obtain ⟨c, d, rest, rfl, hc, hd, hrest⟩ := h
    have hnext := ih (by omega) hrest
    have hlt : k < 16 := by omega
    have hc' := (isxdigit_ne hc).1
    have hd' := (isxdigit_ne hd).1
    interval_cases k <;>
      simp [hyphensBefore, hyphenBytes, uuidLoop, hyphens, hc, hd, hc', hd'] at hnext ⊢ <;> grind

/-! ## The two together -/

lemma length_scanFrom (n urnIdx : ℕ) (memory : List UInt8) :
    (scanFrom n urnIdx memory).length = n := by
  induction n generalizing urnIdx memory with
  | zero => rfl
  | succ n ih => rw [scanFrom, length_cons, ih]

lemma length_uuidText {bytes : List UInt8} (h : bytes.length = 16) :
    (uuidText 0 bytes).length = 36 := by
  rw [uuidText, length_uuidChars, h]
  decide

lemma length_of_isUuidText {s : List UInt8} (h : IsUuidText 0 16 s) : s.length = 36 := by
  have hlen := congrArg length (scanFrom_text h 0 []).1
  rwa [length_uuidText (by rw [length_map, length_scanFrom]), length_map, eq_comm] at hlen

lemma tolower_hexAscii {v : UInt8} (h : v < 16) : tolower (hexAscii v) = hexAscii v := by
  obtain ⟨-, hvalue, -⟩ := hexDigit_spec h
  exact (hexValue_spec hvalue).2.1.symm

lemma map_uuidText (i : ℕ) (bytes : List UInt8) :
    (uuidText i bytes).map tolower = uuidText i bytes := by
  induction bytes generalizing i with
  | nil => rfl
  | cons b bytes ih =>
    have hhyphen : (hyphenBytes i).map tolower = hyphenBytes i := by
      rw [hyphenBytes]
      split_ifs <;> decide
    rw [uuidText_cons, map_append, map_append, hhyphen, ih, hexBytes, map_cons, map_cons, map_nil,
      tolower_hexAscii (div16_lt b), tolower_hexAscii (mod16_lt b)]

lemma uuidText_inj (i : ℕ) {a b : List UInt8} (hlen : a.length = b.length)
    (h : uuidText i a = uuidText i b) : a = b := by
  have hread (bytes : List UInt8) : scanUuid bytes.length (uuidText i bytes) = bytes :=
    scanUuid_uuidChars i bytes
  rw [← hread a, ← hread b, h, hlen]

/-- **A conversion is exact**: it accepts what `OCIsUUID` does, writes nothing else, and the text of
what it writes is the string in lower case. -/
def ConvertsExactly (past : ℕ → ℕ) (s : List UInt8)
    (convert : List UInt8 → Bool × List UInt8) : Prop :=
  ∀ uuid, ((convert uuid).1 = true ↔ ocIsUuid past s = true) ∧
    ((convert uuid).1 = false → (convert uuid).2 = uuid) ∧
    ((convert uuid).1 = true → uuidText 0 (convert uuid).2 = s.map tolower)

def StringExact (past : ℕ → ℕ) (behind s : List UInt8) : Prop :=
  ConvertsExactly past s (ocConvertStringToUuid behind s) ∧
    ConvertsExactly past s (ocConvertStrToUuid behind s) ∧
    (s.length = 36 → ∀ e ∈ scanFrom 16 0 (s ++ 0 :: behind), e.1 ≤ s.length)

lemma ocIsUuid_text (past : ℕ → ℕ) {s : List UInt8} (h : IsUuidText 0 16 s) :
    ocIsUuid past s = true ↔ ¬ (25 ≤ past 0 ∧ past 0 ≤ 36) := by
  have hloop : uuidLoop past 0 0 s = true ↔ _ := uuidLoop_text past (Nat.zero_add 16) h
  rw [ocIsUuid, length_of_isUuidText h, beq_self_eq_true, Bool.true_and, hloop, hyphensBefore]
  simp only [getD_cons_zero]
  omega

lemma convertsExactly_text {past : ℕ → ℕ} {behind s : List UInt8} (h : IsUuidText 0 16 s)
    (hpast : ¬ (25 ≤ past 0 ∧ past 0 ≤ 36)) :
    ConvertsExactly past s (ocConvertStringToUuid behind s) := by
  intro uuid
  rw [ocConvertStringToUuid, if_pos (length_of_isUuidText h), ocIsUuid_text past h]
  exact ⟨iff_of_true rfl hpast, fun hfalse => Bool.noConfusion hfalse,
    fun _ => (scanFrom_text h 0 _).1⟩

/-- A text of a UUID is converted exactly, unless what lies behind the array of hyphens asks for
another one; a string of any other length is refused by all. The text that is written for a UUID
gives it back. -/
theorem uuidString_exact_iff (past : ℕ → ℕ) (behind s : List UInt8) :
    (StringExact past behind s ↔ s.length ≠ 0 ∧ s.length ≠ 36 ∨
      IsUuidText 0 16 s ∧ ¬ (25 ≤ past 0 ∧ past 0 ≤ 36)) ∧
    ∀ (uuid : OicUuid) (old : List UInt8),
      ocConvertStringToUuid behind (cString (convertUuidToStr uuid)) old
        = (true, uuid.id.toList) := by
  refine ⟨⟨fun ⟨hstring, hstr, _⟩ => ?_, ?_⟩, fun uuid old => ?_⟩
  · by_cases h0 : s.length = 0
    · have haccept := (hstr []).1
      simp [ocConvertStrToUuid, ocIsUuid, h0] at haccept
    by_cases h36 : s.length = 36
    · obtain ⟨haccept, -, htext⟩ := hstring []
      simp only [ocConvertStringToUuid, if_pos h36, true_iff, forall_true_left] at haccept htext
      have hs := isUuidText_of_tolower htext
      rw [length_map, length_scanFrom] at hs
      exact .inr ⟨hs, (ocIsUuid_text past hs).1 haccept⟩
    · exact .inl ⟨h0, h36⟩
  · rintro (⟨h0, h36⟩ | ⟨hs, hpast⟩)
    · have hrefused : ConvertsExactly past s (ocConvertStringToUuid behind s) := by
        intro uuid
        simp [ocConvertStringToUuid, ocIsUuid, h36]
      refine ⟨hrefused, fun uuid => ?_, fun h => absurd h h36⟩
      rw [ocConvertStrToUuid, if_neg h0]
      exact hrefused uuid
    · have hconvert : ConvertsExactly past s (ocConvertStringToUuid behind s) :=
        convertsExactly_text hs hpast
      have hlen := length_of_isUuidText hs
      refine ⟨hconvert, fun uuid => ?_, fun _ e he => ?_⟩
      · rw [ocConvertStrToUuid, if_neg (by omega)]
        exact hconvert uuid
      · exact ((scanFrom_text hs 0 _).2 e he).trans (Nat.zero_add _).le
  · have htext : cString (convertUuidToStr uuid) = uuidText 0 uuid.id.toList :=
      cString_convertUuidToStr uuid
    have hbytes : uuid.id.toList.length = 16 := Vector.length_toList
    have hs : IsUuidText 0 16 (uuidText 0 uuid.id.toList) := by
      have h := isUuidText_of_tolower (map_uuidText 0 uuid.id.toList).symm
      rwa [hbytes] at h
    rw [htext, ocConvertStringToUuid, if_pos (length_uuidText hbytes)]
    congr 1
    refine uuidText_inj 0 (by rw [length_map, length_scanFrom, hbytes]) ?_
    rw [(scanFrom_text hs 0 _).1, map_uuidText]

theorem zeros_converted :
    ¬ ∀ (past : ℕ → ℕ) (behind s : List UInt8), StringExact past behind s := by
  intro h
  have haccept := ((h (fun _ => 0) [] (replicate 36 48)).1 []).1
  exact absurd (haccept.1 rfl) (by decide)

end Iochibity.Sec
