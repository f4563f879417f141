/-
Base64 as `util/base64.c` computes it.
-/
import Mathlib.Data.UInt
import Mathlib.Algebra.Order.Ring.Nat
import Iochibity.Lib.Buffer

namespace Iochibity.Util

open Buffer
open List
open Option
open UInt8 (ofNat)

/-! ## The source's functions -/

inductive B64Result where
  | ok
  | invalidParam
  | outputBufferTooSmall
  | error
  deriving DecidableEq

def b64EncodeOutSafeSize (x : Nat) : Nat := ((x + 3 - 1) / 3) * 4 + 1

def b64DecodeOutSafeSize (x : Nat) : Nat := (x * 3) / 4

def ascii (c : Char) : UInt8 := ofNat c.toNat

def b64TransTbl : List UInt8 :=
  ("ABCDEFGHIJKLMNOPQRSTUVWXYZabcdef".toList ++ "ghijklmnopqrstuvwxyz0123456789+/".toList).map ascii

/-- `b64EncodeBlk`: `inp` is the source from the block on, `o` the place of the
block in `out`. Reads outside `inp` have no result either. -/
def b64EncodeBlk (inp out : List UInt8) (o len : Nat) : Option (B64Result × List UInt8) :=
  if len = 0 then some (.invalidParam, out)
  else do
    let in0 ← inp[0]?
    let out ← store out o (← b64TransTbl[in0.toNat >>> 2]?)
    let c1 ← if len = 1 then b64TransTbl[(in0.toNat &&& 0x03) <<< 4]?
      else do
        let in1 ← inp[1]?
        b64TransTbl[((in0.toNat &&& 0x03) <<< 4) ||| ((in1.toNat &&& 0xf0) >>> 4)]?
    let out ← store out (o + 1) c1
    let c2 ← if len = 2 then do
        let in1 ← inp[1]?
        b64TransTbl[(in1.toNat &&& 0x0f) <<< 2]?
      else if 1 < len then do
        let in1 ← inp[1]?
        let in2 ← inp[2]?
        b64TransTbl[((in1.toNat &&& 0x0f) <<< 2) ||| ((in2.toNat &&& 0xc0) >>> 6)]?
      else some (ascii '=')
    let out ← store out (o + 2) c2
    let c3 ← if 2 < len then do
        let in2 ← inp[2]?
        b64TransTbl[in2.toNat &&& 0x3f]?
      else some (ascii '=')
    let out ← store out (o + 3) c3
    some (.ok, out)

/-- What a call leaves: its result, the output buffer and `*outLen`, if it was
stored. -/
structure B64Run where
  result : B64Result
  outBuf : List UInt8
  outLen : Option Nat
  deriving DecidableEq

/-- The `for` loop of `b64Encode`, with `n` full blocks still to go. -/
def b64EncodeLoop (inp out : List UInt8) (i : Nat) : Nat → Option (B64Result × List UInt8)
  | 0 => some (.ok, out)
  | n + 1 => do
      let (result, out) ← b64EncodeBlk (inp.drop (i * 3)) out (i * 4) 3
      if result ≠ .ok then some (.invalidParam, out)
      else b64EncodeLoop inp out (i + 1) n

/-- `*outLen` of `b64Encode`. -/
def b64EncodedLen (inLen : Nat) : Nat :=
  if (inLen / 3) * 3 = inLen then (inLen / 3) * 4 else ((inLen / 3) + 1) * 4

/-- The short block at the end of `b64Encode`, if there is one. -/
def b64EncodeTail (inp out : List UInt8) (i : Nat) : Option (B64Result × List UInt8) :=
  if i * 3 ≠ inp.length then
    b64EncodeBlk (inp.drop (i * 3)) out (i * 4) (inp.length - i * 3)
  else some (.ok, out)

def b64Encode (inp outBuf : List UInt8) : Option B64Run :=
  let outLen := b64EncodedLen inp.length
  let minBufSize := outLen + 1
  if outBuf.length < minBufSize then some ⟨.outputBufferTooSmall, outBuf, some outLen⟩
  else do
    let i := inp.length / 3
    let (result, outBuf) ← b64EncodeLoop inp outBuf 0 i
    if result ≠ .ok then some ⟨.invalidParam, outBuf, some outLen⟩
    else do
      let (result, outBuf) ← b64EncodeTail inp outBuf i
      if result ≠ .ok then some ⟨.invalidParam, outBuf, some outLen⟩
      else do
        let outBuf ← store outBuf outLen 0
        some ⟨.ok, outBuf, some outLen⟩

def b64GetVal (c : UInt8) : Nat :=
  if ascii 'A' ≤ c ∧ c ≤ ascii 'Z' then c.toNat - (ascii 'A').toNat
  else if ascii 'a' ≤ c ∧ c ≤ ascii 'z' then c.toNat - (ascii 'a').toNat + 26
  else if ascii '0' ≤ c ∧ c ≤ ascii '9' then c.toNat - (ascii '0').toNat + 52
  else if c = ascii '+' then 62
  else if c = ascii '/' then 63
  else 0

/-- The letters the validator lets through; `=` is one of them. -/
def isB64Letter (c : UInt8) : Bool :=
  !((c < ascii 'A' || ascii 'Z' < c) && (c < ascii 'a' || ascii 'z' < c)
    && (c < ascii '0' || ascii '9' < c) && c != ascii '+' && c != ascii '/' && c != ascii '=')

/-- The loop of `isValidB64EncodedString` at index `i`: the list is `in + i`, so
that `in[i + 1]` is the head of its tail. -/
def isValidLoop (inLen : Nat) : Nat → List UInt8 → B64Result
  | _, [] => .ok
  | i, c :: rest =>
    if !isB64Letter c then .error
    else if c = ascii '=' ∧ i < inLen - 2 then .error
    else if c = ascii '=' ∧ i = inLen - 2 ∧ rest.head? ≠ some (ascii '=') then .error
    else isValidLoop inLen (i + 1) rest

def isValidB64EncodedString (inp : List UInt8) : B64Result :=
  if inp.length % 4 ≠ 0 then .error else isValidLoop inp.length 0 inp

/-- `b64DecodeBlk`: the block starts at `inp`, its bytes go to `out + o`. -/
def b64DecodeBlk (inp out : List UInt8) (o : Nat) : Option (B64Result × List UInt8) := do
  let in0 ← inp[0]?
  let in1 ← inp[1]?
  let in2 ← inp[2]?
  let in3 ← inp[3]?
  let val := (b64GetVal in0 <<< 18) ||| (b64GetVal in1 <<< 12) ||| (b64GetVal in2 <<< 6)
    ||| b64GetVal in3
  let out ← store out o (ofNat ((val >>> 16) &&& 0xff))
  let out ← if in2 ≠ ascii '=' then store out (o + 1) (ofNat ((val >>> 8) &&& 0xff))
    else some out
  let out ← if in3 ≠ ascii '=' then store out (o + 2) (ofNat (val &&& 0xff))
    else some out
  some (.ok, out)

/-- The `for` loop of `b64Decode`, with `n` blocks still to go. -/
def b64DecodeLoop (inp out : List UInt8) (i : Nat) : Nat → Option (B64Result × List UInt8)
  | 0 => some (.ok, out)
  | n + 1 => do
      let (result, out) ← b64DecodeBlk (inp.drop (i * 4)) out (i * 3)
      if result ≠ .ok then some (.invalidParam, out)
      else b64DecodeLoop inp out (i + 1) n

/-- The padding that `b64Decode` counts at the end of the input. -/
def b64Padding (inp : List UInt8) : Nat :=
  if inp.length ≠ 0 then
    (if inp[inp.length - 1]? = some (ascii '=') then 1 else 0)
      + (if inp[inp.length - 2]? = some (ascii '=') then 1 else 0)
  else 0

def b64Decode (inp outBuf : List UInt8) : Option B64Run :=
  if isValidB64EncodedString inp ≠ .ok then some ⟨.invalidParam, outBuf, none⟩
  else
    let outLen := (inp.length / 4) * 3 - b64Padding inp
    if outBuf.length < outLen then some ⟨.outputBufferTooSmall, outBuf, some outLen⟩
    else do
      let (result, outBuf) ← b64DecodeLoop inp outBuf 0 (inp.length / 4)
      if result ≠ .ok then some ⟨.invalidParam, outBuf, some outLen⟩
      else some ⟨.ok, outBuf, some outLen⟩

def transChar (v : Nat) : UInt8 := b64TransTbl.getD v 0

def encodeText : List UInt8 → List UInt8
  | [] => []
  | [a] => [transChar (a.toNat / 4), transChar (a.toNat % 4 * 16), ascii '=', ascii '=']
  | [a, b] =>
    [transChar (a.toNat / 4), transChar (a.toNat % 4 * 16 + b.toNat / 16),
      transChar (b.toNat % 16 * 4), ascii '=']
  | a :: b :: c :: rest =>
    [transChar (a.toNat / 4), transChar (a.toNat % 4 * 16 + b.toNat / 16),
      transChar (b.toNat % 16 * 4 + c.toNat / 64), transChar (c.toNat % 64)] ++ encodeText rest

def groupValue (a b c d : UInt8) : Nat :=
  b64GetVal a * 262144 + b64GetVal b * 4096 + b64GetVal c * 64 + b64GetVal d

def decodeGroup (a b c d : UInt8) : List UInt8 :=
  ofNat (groupValue a b c d / 65536 % 256)
    :: ((if c = ascii '=' then [] else [ofNat (groupValue a b c d / 256 % 256)])
      ++ if d = ascii '=' then [] else [ofNat (groupValue a b c d % 256)])

def decodeText : List UInt8 → List UInt8
  | a :: b :: c :: d :: rest => decodeGroup a b c d ++ decodeText rest
  | _ => []

variable {v : Nat}

lemma transTbl_getElem? (h : v < 64) : b64TransTbl[v]? = some (transChar v) := by
  have hlen : b64TransTbl.length = 64 := by decide
  rw [transChar, getElem?_eq_getElem (by omega), getD_eq_getElem _ _ (by omega)]

lemma b64GetVal_lt (c : UInt8) : b64GetVal c < 64 := by
  have hall : ∀ k : Fin 256, b64GetVal (ofNat k) < 64 := by decide +kernel
  have hc := hall ⟨c.toNat, c.toNat_lt⟩
  rwa [UInt8.ofNat_toNat] at hc

lemma transChar_spec (h : v < 64) :
    b64GetVal (transChar v) = v ∧ transChar v ≠ ascii '=' ∧ isB64Letter (transChar v) = true := by
  have hall : ∀ k : Fin 64, b64GetVal (transChar k) = k ∧ transChar k ≠ ascii '='
      ∧ isB64Letter (transChar k) = true := by decide
  exact hall ⟨v, h⟩

lemma mask_byte (x : UInt8) :
    x.toNat >>> 2 = x.toNat / 4 ∧ (x.toNat &&& 0x03) <<< 4 = x.toNat % 4 * 16
      ∧ (x.toNat &&& 0xf0) >>> 4 = x.toNat / 16 ∧ (x.toNat &&& 0x0f) <<< 2 = x.toNat % 16 * 4
      ∧ (x.toNat &&& 0xc0) >>> 6 = x.toNat / 64 ∧ x.toNat &&& 0x3f = x.toNat % 64 := by
  have hall : ∀ k : Fin 256, k.val >>> 2 = k.val / 4 ∧ (k.val &&& 0x03) <<< 4 = k.val % 4 * 16
      ∧ (k.val &&& 0xf0) >>> 4 = k.val / 16 ∧ (k.val &&& 0x0f) <<< 2 = k.val % 16 * 4
      ∧ (k.val &&& 0xc0) >>> 6 = k.val / 64 ∧ k.val &&& 0x3f = k.val % 64 := by
    decide +kernel
  exact hall ⟨x.toNat, x.toNat_lt⟩

lemma or_eq_add {k m a b : Nat} (hm : m = 2 ^ k) (h : b < m) : a * m ||| b = a * m + b := by
  subst hm
  have hshift := Nat.shiftLeft_add_eq_or_of_lt h a
  rw [Nat.shiftLeft_eq] at hshift
  exact hshift.symm

/-! ## The encoder -/

section Letters

variable (a b c : UInt8)

lemma letter_first : b64TransTbl[a.toNat >>> 2]? = some (transChar (a.toNat / 4)) := by
  have ha := a.toNat_lt
  rw [(mask_byte a).1]
  exact transTbl_getElem? (by omega)

lemma letter_second_alone :
    b64TransTbl[(a.toNat &&& 0x03) <<< 4]? = some (transChar (a.toNat % 4 * 16)) := by
  rw [(mask_byte a).2.1]
  exact transTbl_getElem? (by omega)

lemma letter_second :
    b64TransTbl[((a.toNat &&& 0x03) <<< 4) ||| ((b.toNat &&& 0xf0) >>> 4)]?
      = some (transChar (a.toNat % 4 * 16 + b.toNat / 16)) := by
  have hb : b.toNat / 16 < 16 := by
    have := b.toNat_lt
    omega
  rw [(mask_byte a).2.1, (mask_byte b).2.2.1, or_eq_add (k := 4) (by decide) hb]
  exact transTbl_getElem? (by omega)

lemma letter_third_alone :
    b64TransTbl[(b.toNat &&& 0x0f) <<< 2]? = some (transChar (b.toNat % 16 * 4)) := by
  rw [(mask_byte b).2.2.2.1]
  exact transTbl_getElem? (by omega)

lemma letter_third :
    b64TransTbl[((b.toNat &&& 0x0f) <<< 2) ||| ((c.toNat &&& 0xc0) >>> 6)]?
      = some (transChar (b.toNat % 16 * 4 + c.toNat / 64)) := by
  have hc : c.toNat / 64 < 4 := by
    have := c.toNat_lt
    omega
  rw [(mask_byte b).2.2.2.1, (mask_byte c).2.2.2.2.1, or_eq_add (k := 2) (by decide) hc]
  exact transTbl_getElem? (by omega)

lemma letter_fourth : b64TransTbl[c.toNat &&& 0x3f]? = some (transChar (c.toNat % 64)) := by
  rw [(mask_byte c).2.2.2.2.2]
  exact transTbl_getElem? (by omega)

end Letters

variable {block : List UInt8}

lemma b64EncodeBlk_eq (rest out : List UInt8) (o : Nat) (hpos : block ≠ [])
    (hlen : block.length ≤ 3) :
    b64EncodeBlk (block ++ rest) out o block.length
      = (storeAll out o (encodeText block)).bind (fun out' => some (.ok, out')) := by
  match block with
  | [] => exact absurd rfl hpos
  | [a] =>
    simp [b64EncodeBlk, encodeText, storeAll, letter_first, letter_second_alone,
      bind_assoc, Nat.add_assoc]
  | [a, b] =>
    simp [b64EncodeBlk, encodeText, storeAll, letter_first, letter_second,
      letter_third_alone, bind_assoc, Nat.add_assoc]
  | [a, b, c] =>
    simp [b64EncodeBlk, encodeText, storeAll, letter_first, letter_second, letter_third,
      letter_fourth, bind_assoc, Nat.add_assoc]
  | _ :: _ :: _ :: _ :: _ =>
    simp only [length_cons] at hlen
    omega

variable {out : List UInt8}

lemma b64EncodeBlk_spec (rest : List UInt8) {o : Nat} (hpos : block ≠ [])
    (hlen : block.length ≤ 3) (hfit : o + (encodeText block).length ≤ out.length) :
    b64EncodeBlk (block ++ rest) out o block.length
      = some (.ok, splice out o (encodeText block)) := by
  rw [b64EncodeBlk_eq rest out o hpos hlen, storeAll_eq_splice hfit, bind_some]

lemma length_encodeText (x : List UInt8) : (encodeText x).length = (x.length + 2) / 3 * 4 := by
  fun_induction encodeText x with
  | case1 => rfl
  | case2 => simp
  | case3 => simp
  | case4 a b c rest ih =>
    simp only [length_append, length_cons, length_nil, ih]
    omega

variable {x : List UInt8}

lemma encodeText_append (y : List UInt8) (h : x.length % 3 = 0) :
    encodeText (x ++ y) = encodeText x ++ encodeText y := by
  fun_induction encodeText x with
  | case1 => rfl
  | case2 => simp only [length_singleton] at h; omega
  | case3 => simp only [length_cons, length_nil] at h; omega
  | case4 a b c rest ih =>
    have hrest : rest.length % 3 = 0 := by
      simp only [length_cons] at h
      omega
    simp [encodeText, ih hrest]

variable {inp : List UInt8} {i n : Nat}

lemma b64EncodeLoop_spec (hin : i * 3 + n * 3 ≤ inp.length) (hout : i * 4 + n * 4 ≤ out.length) :
    b64EncodeLoop inp out i n
      = some (.ok, splice out (i * 4) (encodeText ((inp.drop (i * 3)).take (n * 3)))) := by
  induction n generalizing i out with
  | zero =>
    simp [b64EncodeLoop, encodeText]
  | succ n ih =>
    obtain ⟨block, hblock⟩ : ∃ block, block = (inp.drop (i * 3)).take 3 := ⟨_, rfl⟩
    have hlen : block.length = 3 := by
      rw [hblock, length_take, length_drop]
      omega
    have htext : (encodeText block).length = 4 := by rw [length_encodeText, hlen]
    have hsplit : inp.drop (i * 3) = block ++ inp.drop ((i + 1) * 3) := by
      rw [hblock, Nat.add_mul, ← drop_drop, take_append_drop]
    have htake : (inp.drop (i * 3)).take ((n + 1) * 3)
        = block ++ (inp.drop ((i + 1) * 3)).take (n * 3) := by
      have hadd : (n + 1) * 3 = block.length + n * 3 := by omega
      rw [hsplit, hadd, take_length_add_append]
    have hblk : b64EncodeBlk (inp.drop (i * 3)) out (i * 4) 3
        = some (.ok, splice out (i * 4) (encodeText block)) := by
      rw [hsplit, ← hlen]
      exact b64EncodeBlk_spec _ (by intro h; simp [h] at hlen) (by omega) (by omega)
    have hnext : (i + 1) * 4 = i * 4 + (encodeText block).length := by omega
    simp only [b64EncodeLoop, hblk, bind_eq_bind, bind_some, ne_eq, not_true_eq_false, if_false]
    rw [ih (by omega) (by rw [length_splice (by omega)]; omega), htake,
      encodeText_append _ (by omega), hnext, splice_splice (by omega)]

lemma b64EncodedLen_eq (x : List UInt8) : b64EncodedLen x.length = (encodeText x).length := by
  rw [length_encodeText, b64EncodedLen]
  split <;> omega

lemma b64EncodeTail_spec (hn : n = inp.length / 3)
    (hout : n * 4 + (encodeText (inp.drop (n * 3))).length ≤ out.length) :
    b64EncodeTail inp out n = some (.ok, splice out (n * 4) (encodeText (inp.drop (n * 3)))) := by
  have hdrop : (inp.drop (n * 3)).length = inp.length - n * 3 := length_drop
  rw [b64EncodeTail]
  by_cases hlen : n * 3 = inp.length
  · have hnil : inp.drop (n * 3) = [] := by
      rw [← length_eq_zero_iff]
      omega
    rw [if_neg (not_not.mpr hlen), hnil, encodeText, splice_nil]
  have hne : inp.drop (n * 3) ≠ [] := by
    rw [ne_eq, ← length_eq_zero_iff]
    omega
  have hblk := b64EncodeBlk_spec [] hne (by omega) hout
  rw [append_nil, hdrop] at hblk
  rw [if_pos hlen, hblk]

variable {outBuf : List UInt8}

lemma b64Encode_spec (hsize : (encodeText inp).length + 1 ≤ outBuf.length) :
    b64Encode inp outBuf
      = some ⟨.ok, splice outBuf 0 (encodeText inp ++ [0]), some (encodeText inp).length⟩ := by
  obtain ⟨n, hn⟩ : ∃ n, n = inp.length / 3 := ⟨_, rfl⟩
  obtain ⟨text, htext⟩ : ∃ text, text = encodeText (inp.take (n * 3)) := ⟨_, rfl⟩
  have htextLen : text.length = n * 4 := by
    rw [htext, length_encodeText, length_take]
    omega
  have hall : encodeText inp = text ++ encodeText (inp.drop (n * 3)) := by
    rw [htext, ← encodeText_append _ (by rw [length_take]; omega), take_append_drop]
  have hsum := congrArg List.length hall
  rw [length_append] at hsum
  have hloop : b64EncodeLoop inp outBuf 0 n = some (.ok, splice outBuf 0 text) := by
    rw [b64EncodeLoop_spec (by omega) (by omega), htext, Nat.zero_mul, drop_zero]
  have htail : b64EncodeTail inp (splice outBuf 0 text) n
      = some (.ok, splice outBuf 0 (encodeText inp)) := by
    rw [b64EncodeTail_spec hn (by rw [length_splice (by omega)]; omega), hall,
      ← splice_splice (by omega), Nat.zero_add, htextLen]
  have hnul : store (splice outBuf 0 (encodeText inp)) (encodeText inp).length 0
      = some (splice outBuf 0 (encodeText inp ++ [0])) := by
    rw [store_eq_splice 0 (by rw [length_splice (by omega)]; omega),
      ← splice_splice (by omega), Nat.zero_add]
  simp only [b64Encode, b64EncodedLen_eq, ← hn, if_neg (Nat.not_lt.mpr hsize), hloop, htail, hnul,
    bind_eq_bind, bind_some, ne_eq, not_true_eq_false, if_false]

/-! ## What the validator lets through -/

/-- A text from some place on, judged by how far the end is: padding only among
the last two characters, and not alone on the first of them. -/
def TailValid : List UInt8 → Prop
  | [] => True
  | [c] => isB64Letter c = true
  | [c, d] => isB64Letter c = true ∧ isB64Letter d = true ∧ (c = ascii '=' → d = ascii '=')
  | c :: d :: e :: rest => isB64Letter c = true ∧ c ≠ ascii '=' ∧ TailValid (d :: e :: rest)

lemma isValidLoop_nil (inLen i : Nat) : isValidLoop inLen i [] = .ok := rfl

lemma isValidLoop_cons_iff (inLen i : Nat) (c : UInt8) (rest : List UInt8) :
    isValidLoop inLen i (c :: rest) = .ok ↔ isB64Letter c = true
        ∧ (c = ascii '=' → inLen - 2 ≤ i ∧ (i = inLen - 2 → rest.head? = some (ascii '=')))
        ∧ isValidLoop inLen (i + 1) rest = .ok := by
  rw [isValidLoop]
  split
  · rename_i hletter
    simp only [Bool.not_eq_true'] at hletter
    simp [hletter]
  rename_i hletter
  simp only [Bool.not_eq_true', Bool.not_eq_false] at hletter
  simp only [hletter, true_and]
  split
  · rename_i hearly
    constructor
    · intro h
      exact absurd h (by simp)
    · intro h
      have := (h.1 hearly.1).1
      omega
  rename_i hearly
  split
  · rename_i halone
    constructor
    · intro h
      exact absurd h (by simp)
    · intro h
      exact absurd ((h.1 halone.1).2 halone.2.1) halone.2.2
  rename_i halone
  simp only [not_and, Nat.not_lt, ne_eq, not_not] at hearly halone
  constructor
  · intro h
    exact ⟨fun hc => ⟨hearly hc, halone hc⟩, h⟩
  · intro h
    exact h.2

variable {rest : List UInt8}

lemma isValidLoop_iff {inLen : Nat} (hlen : i + rest.length = inLen)
    (htwo : 2 ≤ inLen) : isValidLoop inLen i rest = .ok ↔ TailValid rest := by
  fun_induction TailValid rest generalizing i with
  | case1 => simp [isValidLoop]
  | case2 c =>
    simp only [length_singleton] at hlen
    have hpast : inLen - 2 ≤ i ∧ i ≠ inLen - 2 := by omega
    simp [isValidLoop_cons_iff, isValidLoop_nil, hpast]
  | case3 c d =>
    simp only [length_cons, length_nil] at hlen
    have hat : inLen - 2 = i := by omega
    have hpast : i ≤ i + 1 ∧ i + 1 ≠ i := by omega
    simp [isValidLoop_cons_iff, isValidLoop_nil, hat, hpast]
    tauto
  | case4 c d e rest ih =>
    simp only [length_cons] at hlen
    have hbefore : ¬inLen - 2 ≤ i := by omega
    rw [isValidLoop_cons_iff, ih (by simp only [length_cons]; omega)]
    simp [hbefore]

/-- A text of letters of the table, with at most two `=` at its very end. -/
def PaddedText (s : List UInt8) : Prop :=
  ∃ body pad, pad ≤ 2 ∧ s = body ++ List.replicate pad (ascii '=') ∧ ∀ c ∈ body, c ∈ b64TransTbl

lemma mem_transTbl_iff (c : UInt8) :
    c ∈ b64TransTbl ↔ isB64Letter c = true ∧ c ≠ ascii '=' := by
  have htable : b64TransTbl.all (fun c => isB64Letter c && c != ascii '=') = true := by decide
  have hletters : ∀ k : Fin 256, isB64Letter (ofNat k) = true → ofNat k ≠ ascii '=' →
      b64TransTbl[b64GetVal (ofNat k)]? = some (ofNat k) := by decide +kernel
  constructor
  · intro hc
    have hletter := all_eq_true.mp htable c hc
    rwa [Bool.and_eq_true, bne_iff_ne] at hletter
  · rintro ⟨hletter, hne⟩
    have hc := hletters ⟨c.toNat, c.toNat_lt⟩
    simp only [UInt8.ofNat_toNat] at hc
    exact mem_of_getElem? (hc hletter hne)

variable {c d : UInt8}

lemma paddedText_cons_iff {e : UInt8} :
    PaddedText (c :: d :: e :: rest) ↔ c ∈ b64TransTbl ∧ PaddedText (d :: e :: rest) := by
  constructor
  · rintro ⟨body, pad, hpad, heq, hbody⟩
    cases body with
    | nil =>
      -- three characters or more are not padding alone
      have hlen := congrArg List.length heq
      simp only [length_cons, nil_append, length_replicate] at hlen
      omega
    | cons b body =>
      simp only [cons_append, List.cons.injEq] at heq
      refine ⟨heq.1 ▸ hbody b mem_cons_self, body, pad, hpad, heq.2, ?_⟩
      intro x hx
      simp [hbody, hx]
  · rintro ⟨hc, body, pad, hpad, heq, hbody⟩
    refine ⟨c :: body, pad, hpad, by rw [cons_append, heq], ?_⟩
    intro x hx
    rcases mem_cons.mp hx with rfl | hx
    · exact hc
    · exact hbody x hx

lemma paddedText_pair_iff (c d : UInt8) :
    PaddedText [c, d] ↔ isB64Letter c = true ∧ isB64Letter d = true
      ∧ (c = ascii '=' → d = ascii '=') := by
  have hpadding : isB64Letter (ascii '=') = true := by decide
  constructor
  · rintro ⟨body, pad, hpad, heq, hbody⟩
    match body, pad, heq with
    | [], 2, heq =>
      simp only [nil_append, List.replicate, List.cons.injEq, and_true] at heq
      rw [heq.1, heq.2]
      exact ⟨hpadding, hpadding, fun _ => rfl⟩
    | [a], 1, heq =>
      simp only [cons_append, nil_append, List.replicate, List.cons.injEq, and_true] at heq
      have ha := (mem_transTbl_iff a).mp (hbody a mem_cons_self)
      rw [heq.1, heq.2]
      exact ⟨ha.1, hpadding, fun _ => rfl⟩
    | [a, b], 0, heq =>
      simp only [List.replicate, append_nil, List.cons.injEq, and_true] at heq
      have ha := (mem_transTbl_iff a).mp (hbody a mem_cons_self)
      have hb := (mem_transTbl_iff b).mp (hbody b (by simp))
      rw [heq.1, heq.2]
      exact ⟨ha.1, hb.1, fun h => absurd h ha.2⟩
  · rintro ⟨hc, hd, hpair⟩
    by_cases hdp : d = ascii '='
    · by_cases hcp : c = ascii '='
      · exact ⟨[], 2, by omega, by rw [hcp, hdp]; rfl, by simp⟩
      refine ⟨[c], 1, by omega, by rw [hdp]; rfl, ?_⟩
      simpa using (mem_transTbl_iff c).mpr ⟨hc, hcp⟩
    have hcp : c ≠ ascii '=' := fun h => hdp (hpair h)
    refine ⟨[c, d], 0, by omega, rfl, ?_⟩
    simp only [mem_cons, not_mem_nil, or_false, forall_eq_or_imp, forall_eq]
    exact ⟨(mem_transTbl_iff c).mpr ⟨hc, hcp⟩, (mem_transTbl_iff d).mpr ⟨hd, hdp⟩⟩

variable {s : List UInt8}

lemma tailValid_iff (h : s.length ≠ 1) : TailValid s ↔ PaddedText s := by
  fun_induction TailValid s with
  | case1 => exact iff_of_true trivial ⟨[], 0, by omega, rfl, by simp⟩
  | case2 c => exact absurd rfl h
  | case3 c d => exact (paddedText_pair_iff c d).symm
  | case4 c d e rest ih =>
    rw [ih (by simp), paddedText_cons_iff, mem_transTbl_iff, and_assoc]

lemma isValidB64EncodedString_iff (s : List UInt8) :
    isValidB64EncodedString s = .ok ↔ s.length % 4 = 0 ∧ PaddedText s := by
  rw [isValidB64EncodedString]
  by_cases hmod : s.length % 4 = 0
  · rw [if_neg (not_not.mpr hmod), ← tailValid_iff (by omega)]
    by_cases hnil : s = []
    · subst hnil
      simp [isValidLoop_nil, TailValid]
    have hpos := length_pos_iff.mpr hnil
    rw [isValidLoop_iff (by omega) (by omega)]
    exact ⟨fun h => ⟨hmod, h⟩, fun h => h.2⟩
  rw [if_pos hmod]
  exact iff_of_false (by simp) (hmod ·.1)

/-! ## The decoder -/

variable {a b : UInt8}

lemma tailValid_group (hmod : rest.length % 4 = 0) (h : TailValid (a :: b :: c :: d :: rest)) :
    (c = ascii '=' → d = ascii '=') ∧ (rest ≠ [] → c ≠ ascii '=' ∧ d ≠ ascii '=')
      ∧ TailValid rest := by
  match rest, hmod with
  | [], _ =>
    simp only [TailValid] at h
    exact ⟨h.2.2.2.2.2.2, fun hne => absurd rfl hne, trivial⟩
  | e :: f :: g :: k :: rest, _ =>
    simp only [TailValid] at h
    obtain ⟨-, -, -, -, -, hc, -, hd, htail⟩ := h
    exact ⟨fun hcp => absurd hcp hc, fun _ => ⟨hc, hd⟩, htail⟩

lemma group_or_eq (a b c d : UInt8) :
    (b64GetVal a <<< 18) ||| (b64GetVal b <<< 12) ||| (b64GetVal c <<< 6) ||| b64GetVal d
      = groupValue a b c d := by
  have hb := b64GetVal_lt b
  have hc := b64GetVal_lt c
  have hd := b64GetVal_lt d
  rw [groupValue]
  generalize b64GetVal a = va, b64GetVal b = vb, b64GetVal c = vc, b64GetVal d = vd at *
  simp only [Nat.shiftLeft_eq, Nat.reducePow]
  rw [or_eq_add (k := 18) (m := 262144) rfl (by omega)]
  have hab : va * 262144 + vb * 4096 = (va * 64 + vb) * 4096 := by omega
  rw [hab, or_eq_add (k := 12) (m := 4096) rfl (by omega)]
  have habc : (va * 64 + vb) * 4096 + vc * 64 = (va * 4096 + vb * 64 + vc) * 64 := by
    simp [Nat.add_mul, Nat.mul_assoc, Nat.reduceMul]
  rw [habc, or_eq_add (k := 6) (m := 64) rfl (by omega), ← habc, ← hab]

lemma byte_of (v k : Nat) : (v >>> k) &&& 0xff = v / 2 ^ k % 256 := by
  rw [Nat.shiftRight_eq_div_pow]
  exact Nat.and_two_pow_sub_one_eq_mod _ 8

lemma b64DecodeBlk_eq (rest out : List UInt8) (o : Nat) (hpad : c = ascii '=' → d = ascii '=') :
    b64DecodeBlk (a :: b :: c :: d :: rest) out o
      = (storeAll out o (decodeGroup a b c d)).bind (fun out' => some (.ok, out')) := by
  have h16 := byte_of (groupValue a b c d) 16
  have h8 := byte_of (groupValue a b c d) 8
  have h0 : groupValue a b c d &&& 0xff = groupValue a b c d % 256 :=
    Nat.and_two_pow_sub_one_eq_mod _ 8
  simp only [b64DecodeBlk, getElem?_cons_zero, getElem?_cons_succ, bind_eq_bind,
    bind_some, group_or_eq, h16, h8, h0, Nat.reducePow]
  by_cases hc : c = ascii '='
  · have hd := hpad hc
    simp [hc, hd, decodeGroup, storeAll]
  by_cases hd : d = ascii '='
  · simp [hc, hd, decodeGroup, storeAll, bind_assoc]
  · simp [hc, hd, decodeGroup, storeAll, bind_assoc, Nat.add_assoc]

lemma length_decodeGroup_full (hc : c ≠ ascii '=') (hd : d ≠ ascii '=') :
    (decodeGroup a b c d).length = 3 := by
  simp [decodeGroup, hc, hd]

lemma exists_group (h : 4 ≤ s.length) :
    ∃ a b c d rest, s = a :: b :: c :: d :: rest := by
  match s, h with
  | a :: b :: c :: d :: rest, _ => exact ⟨a, b, c, d, rest, rfl⟩

lemma b64DecodeLoop_spec {out : List UInt8} (hin : (inp.drop (i * 4)).length = n * 4)
    (hvalid : TailValid (inp.drop (i * 4)))
    (hout : i * 3 + (decodeText (inp.drop (i * 4))).length ≤ out.length) :
    b64DecodeLoop inp out i n = some (.ok, splice out (i * 3) (decodeText (inp.drop (i * 4)))) := by
  induction n generalizing i out with
  | zero =>
    have hnil : inp.drop (i * 4) = [] := by
      rw [← length_eq_zero_iff]
      omega
    rw [b64DecodeLoop, hnil, decodeText, splice_nil]
    simp
  | succ n ih =>
    obtain ⟨a, b, c, d, rest, hgroup⟩ := exists_group (s := inp.drop (i * 4)) (by omega)
    have hrest : inp.drop ((i + 1) * 4) = rest := by
      rw [Nat.add_mul, ← drop_drop, hgroup]
      simp
    rw [hgroup] at hin hvalid hout
    simp only [length_cons] at hin
    obtain ⟨hpad, hfull, htail⟩ := tailValid_group (by omega) hvalid
    rw [decodeText, length_append] at hout
    have hblk : b64DecodeBlk (inp.drop (i * 4)) out (i * 3)
        = some (.ok, splice out (i * 3) (decodeGroup a b c d)) := by
      rw [hgroup, b64DecodeBlk_eq rest out (i * 3) hpad, storeAll_eq_splice (by omega), bind_some]
    simp only [b64DecodeLoop, hblk, bind_eq_bind, bind_some, ne_eq, not_true_eq_false, if_false]
    rw [hgroup, decodeText]
    by_cases hlast : rest = []
    · have hn : n = 0 := by
        rw [hlast] at hin
        simp only [length_nil] at hin
        omega
      subst hn
      rw [hlast, b64DecodeLoop, decodeText, append_nil]
      simp
    have hlen : (decodeGroup a b c d).length = 3 :=
      length_decodeGroup_full (hfull hlast).1 (hfull hlast).2
    have hnext : (i + 1) * 3 = i * 3 + (decodeGroup a b c d).length := by omega
    rw [ih (by rw [hrest]; omega) (by rw [hrest]; exact htail)
      (by rw [hrest, length_splice (by omega)]; omega), hrest, hnext,
      splice_splice (by omega)]

lemma b64Padding_cons (h : 2 ≤ rest.length) :
    b64Padding (a :: b :: c :: d :: rest) = b64Padding rest := by
  have hlast : rest.length + 1 + 1 + 1 + 1 - 1 = (rest.length - 1) + 1 + 1 + 1 + 1 := by omega
  have hprev : rest.length + 1 + 1 + 1 + 1 - 2 = (rest.length - 2) + 1 + 1 + 1 + 1 := by omega
  have hne : rest.length ≠ 0 := by omega
  simp [b64Padding, hlast, hprev, hne]

lemma length_decodeText (hmod : s.length % 4 = 0) (hvalid : TailValid s) :
    (decodeText s).length = s.length / 4 * 3 - b64Padding s := by
  fun_induction decodeText s with
  | case1 a b c d rest ih =>
    simp only [length_cons] at hmod
    obtain ⟨hpad, hfull, htail⟩ := tailValid_group (by omega) hvalid
    by_cases hlast : rest = []
    · subst hlast
      by_cases hd : d = ascii '='
      · by_cases hc : c = ascii '='
        · simp [decodeText, decodeGroup, b64Padding, hc, hd]
        · simp [decodeText, decodeGroup, b64Padding, hc, hd]
      have hc : c ≠ ascii '=' := fun h => hd (hpad h)
      simp [decodeText, decodeGroup, b64Padding, hc, hd]
    have hpos := length_pos_iff.mpr hlast
    have hlen : (decodeGroup a b c d).length = 3 :=
      length_decodeGroup_full (hfull hlast).1 (hfull hlast).2
    have hsmall : b64Padding rest ≤ 2 := by
      rw [b64Padding]
      split <;> try split <;> split <;> omega
      omega
    rw [length_append, hlen, ih (by omega) htail, b64Padding_cons (by omega)]
    simp only [length_cons]
    omega
  | case2 s hshort =>
    match s, hmod with
    | [], _ => rfl
    | a :: b :: c :: d :: rest, _ => exact absurd rfl (hshort a b c d rest)

lemma b64Decode_spec (hvalid : isValidB64EncodedString inp = .ok)
    (hsize : (decodeText inp).length ≤ outBuf.length) :
    b64Decode inp outBuf
      = some ⟨.ok, splice outBuf 0 (decodeText inp), some (decodeText inp).length⟩ := by
  obtain ⟨hmod, hpadded⟩ := (isValidB64EncodedString_iff inp).mp hvalid
  have htail := (tailValid_iff (by omega)).mpr hpadded
  have hloop : b64DecodeLoop inp outBuf 0 (inp.length / 4)
      = some (.ok, splice outBuf 0 (decodeText inp)) := by
    have h := @b64DecodeLoop_spec inp 0 (inp.length / 4) outBuf
    simp only [Nat.zero_mul, drop_zero, Nat.zero_add] at h
    exact h (by omega) htail hsize
  simp [b64Decode, hvalid, ← length_decodeText hmod htail, if_neg (Nat.not_lt.mpr hsize), hloop]

lemma b64Decode_refused (hinvalid : isValidB64EncodedString inp ≠ .ok) :
    b64Decode inp outBuf = some ⟨.invalidParam, outBuf, none⟩ := by
  rw [b64Decode, if_pos hinvalid]

lemma b64Decode_tooSmall (hvalid : isValidB64EncodedString inp = .ok)
    (hsize : outBuf.length < (decodeText inp).length) :
    b64Decode inp outBuf = some ⟨.outputBufferTooSmall, outBuf, some (decodeText inp).length⟩ := by
  obtain ⟨hmod, hpadded⟩ := (isValidB64EncodedString_iff inp).mp hvalid
  have htail := (tailValid_iff (by omega)).mpr hpadded
  simp [b64Decode, hvalid, ← length_decodeText hmod htail, hsize]

/-! ## Back and forth -/

lemma transChar_mem (h : v < 64) : transChar v ∈ b64TransTbl :=
  mem_of_getElem? (transTbl_getElem? h)

lemma paddedText_encodeText (x : List UInt8) : PaddedText (encodeText x) := by
  fun_induction encodeText x with
  | case1 => exact ⟨[], 0, by omega, rfl, by simp⟩
  | case2 a =>
    have ha := a.toNat_lt
    refine ⟨[transChar (a.toNat / 4), transChar (a.toNat % 4 * 16)], 2, by omega, rfl, ?_⟩
    simp only [forall_mem_cons]
    exact ⟨transChar_mem (by omega), transChar_mem (by omega), by simp⟩
  | case3 a b =>
    have ha := a.toNat_lt
    have hb := b.toNat_lt
    refine ⟨[transChar (a.toNat / 4), transChar (a.toNat % 4 * 16 + b.toNat / 16),
      transChar (b.toNat % 16 * 4)], 1, by omega, rfl, ?_⟩
    simp only [forall_mem_cons]
    exact ⟨transChar_mem (by omega), transChar_mem (by omega), transChar_mem (by omega), by simp⟩
  | case4 a b c rest ih =>
    have ha := a.toNat_lt
    have hb := b.toNat_lt
    have hc := c.toNat_lt
    obtain ⟨body, pad, hpad, heq, hbody⟩ := ih
    refine ⟨_ ++ body, pad, hpad, by rw [heq, append_assoc], ?_⟩
    simp only [cons_append, nil_append, forall_mem_cons]
    exact ⟨transChar_mem (by omega), transChar_mem (by omega), transChar_mem (by omega),
      transChar_mem (by omega), hbody⟩

lemma isValid_encodeText (x : List UInt8) :
    isValidB64EncodedString (encodeText x) = .ok := by
  rw [isValidB64EncodedString_iff, length_encodeText]
  exact ⟨by omega, paddedText_encodeText x⟩

lemma decodeText_encodeText (x : List UInt8) : decodeText (encodeText x) = x := by
  have hpadding : b64GetVal (ascii '=') = 0 := by decide
  fun_induction encodeText x with
  | case1 => rfl
  | case2 a =>
    have ha := a.toNat_lt
    obtain ⟨h0, -, -⟩ := transChar_spec (v := a.toNat / 4) (by omega)
    obtain ⟨h1, -, -⟩ := transChar_spec (v := a.toNat % 4 * 16) (by omega)
    have hvalue : (a.toNat / 4 * 262144 + a.toNat % 4 * 16 * 4096) / 65536 % 256 = a.toNat := by
      omega
    simp [decodeText, decodeGroup, groupValue, hpadding, h0, h1, hvalue]
  | case3 a b =>
    have ha := a.toNat_lt
    have hb := b.toNat_lt
    obtain ⟨h0, -, -⟩ := transChar_spec (v := a.toNat / 4) (by omega)
    obtain ⟨h1, -, -⟩ := transChar_spec (v := a.toNat % 4 * 16 + b.toNat / 16) (by omega)
    obtain ⟨h2, hne, -⟩ := transChar_spec (v := b.toNat % 16 * 4) (by omega)
    have hvalue : a.toNat / 4 * 262144 + (a.toNat % 4 * 16 + b.toNat / 16) * 4096
        + b.toNat % 16 * 4 * 64 = a.toNat * 65536 + b.toNat * 256 := by omega
    have hfirst : (a.toNat * 65536 + b.toNat * 256) / 65536 % 256 = a.toNat := by omega
    have hsecond : (a.toNat * 65536 + b.toNat * 256) / 256 % 256 = b.toNat := by omega
    simp [decodeText, decodeGroup, groupValue, hpadding, h0, h1, h2, hvalue, hfirst, hsecond, hne]
  | case4 a b c rest ih =>
    have ha := a.toNat_lt
    have hb := b.toNat_lt
    have hc := c.toNat_lt
    obtain ⟨h0, -, -⟩ := transChar_spec (v := a.toNat / 4) (by omega)
    obtain ⟨h1, -, -⟩ := transChar_spec (v := a.toNat % 4 * 16 + b.toNat / 16) (by omega)
    obtain ⟨h2, hne, -⟩ := transChar_spec (v := b.toNat % 16 * 4 + c.toNat / 64) (by omega)
    obtain ⟨h3, hne', -⟩ := transChar_spec (v := c.toNat % 64) (by omega)
    have hvalue : a.toNat / 4 * 262144 + (a.toNat % 4 * 16 + b.toNat / 16) * 4096
        + (b.toNat % 16 * 4 + c.toNat / 64) * 64 + c.toNat % 64
        = a.toNat * 65536 + b.toNat * 256 + c.toNat := by omega
    have hfirst : (a.toNat * 65536 + b.toNat * 256 + c.toNat) / 65536 % 256 = a.toNat := by omega
    have hsecond : (a.toNat * 65536 + b.toNat * 256 + c.toNat) / 256 % 256 = b.toNat := by omega
    have hthird : (a.toNat * 65536 + b.toNat * 256 + c.toNat) % 256 = c.toNat := by omega
    simp [decodeText, decodeGroup, groupValue, h0, h1, h2, h3, hvalue, hfirst, hsecond, hthird, hne,
      hne', ih]

lemma encodeText_safeSize (x : List UInt8) :
    b64EncodeOutSafeSize x.length = (encodeText x).length + 1 := by
  rw [length_encodeText, b64EncodeOutSafeSize]
  omega

lemma decodeText_safeSize (hvalid : isValidB64EncodedString s = .ok) :
    (decodeText s).length ≤ b64DecodeOutSafeSize s.length := by
  obtain ⟨hmod, hpadded⟩ := (isValidB64EncodedString_iff s).mp hvalid
  rw [length_decodeText hmod ((tailValid_iff (by omega)).mpr hpadded), b64DecodeOutSafeSize]
  omega

/-- **Round trip.** Into a buffer of `B64ENCODE_OUT_SAFESIZE` bytes the encoder writes a
NUL-terminated text that fills it exactly; decoding it into any buffer of
`B64DECODE_OUT_SAFESIZE` bytes gives the bytes back, with their number, and leaves what the
buffer holds beyond them alone. -/
lemma b64Decode_b64Encode (hsize : outBuf.length = b64EncodeOutSafeSize x.length) :
    ∃ s, b64Encode x outBuf = some ⟨.ok, s ++ [0], some s.length⟩
      ∧ s.length = 4 * ((x.length + 2) / 3)
      ∧ ∀ decBuf : List UInt8, decBuf.length = b64DecodeOutSafeSize s.length →
          b64Decode s decBuf = some ⟨.ok, x ++ decBuf.drop x.length, some x.length⟩ := by
  have hfit := encodeText_safeSize x
  refine ⟨encodeText x, ?_, by rw [length_encodeText, Nat.mul_comm], ?_⟩
  · rw [b64Encode_spec (by omega), splice]
    have hdrop : outBuf.drop (0 + (encodeText x ++ [0]).length) = [] := by
      rw [drop_eq_nil_iff, length_append, length_singleton]
      omega
    rw [hdrop, take_zero, nil_append, append_nil]
  · intro decBuf hdec
    have hvalid := isValid_encodeText x
    have hlarge := decodeText_safeSize hvalid
    rw [b64Decode_spec hvalid (by omega), decodeText_encodeText, splice, take_zero,
      nil_append, Nat.zero_add]

lemma b64Decode_ok_iff (hsize : outBuf.length = b64DecodeOutSafeSize s.length) :
    (∃ run, b64Decode s outBuf = some run ∧ run.result = .ok)
      ↔ s.length % 4 = 0 ∧ PaddedText s := by
  rw [← isValidB64EncodedString_iff]
  by_cases hvalid : isValidB64EncodedString s = .ok
  · have hlarge := decodeText_safeSize hvalid
    have hrun := b64Decode_spec hvalid (hsize ▸ hlarge)
    exact iff_of_true ⟨_, hrun, rfl⟩ hvalid
  refine iff_of_false ?_ hvalid
  rintro ⟨run, hrun, hok⟩
  rw [b64Decode_refused hvalid, Option.some.injEq] at hrun
  rw [← hrun] at hok
  simp at hok

lemma b64Decode_isSome (s outBuf : List UInt8) : (b64Decode s outBuf).isSome = true := by
  by_cases hvalid : isValidB64EncodedString s = .ok
  · rcases Nat.lt_or_ge outBuf.length (decodeText s).length with hsmall | hlarge
    · rw [b64Decode_tooSmall hvalid hsmall, isSome_some]
    · rw [b64Decode_spec hvalid hlarge, isSome_some]
  · rw [b64Decode_refused hvalid, isSome_some]

/-- **Base64, both directions.** Encoding succeeds inside a buffer of the
advertised size, its text decodes to the same bytes with the right lengths; the
decoder accepts exactly the texts of whole groups of four whose characters are of
the alphabet but for at most two `=` at the very end; and it never writes outside
its buffer, of whatever size. -/
theorem base64_faithful (x encBuf s decBuf : List UInt8)
    (henc : encBuf.length = b64EncodeOutSafeSize x.length)
    (hdec : decBuf.length = b64DecodeOutSafeSize s.length) :
    (∃ text, b64Encode x encBuf = some ⟨.ok, text ++ [0], some text.length⟩
      ∧ text.length = 4 * ((x.length + 2) / 3)
      ∧ ∀ buf : List UInt8, buf.length = b64DecodeOutSafeSize text.length →
          b64Decode text buf = some ⟨.ok, x ++ buf.drop x.length, some x.length⟩)
    ∧ ((∃ run, b64Decode s decBuf = some run ∧ run.result = .ok) ↔ s.length % 4 = 0 ∧ PaddedText s)
    ∧ ∀ buf : List UInt8, (b64Decode s buf).isSome = true :=
  ⟨b64Decode_b64Encode henc, b64Decode_ok_iff hdec, b64Decode_isSome s⟩

theorem base64_faithful_fo :
    (∃ text, b64Encode [102, 111] (List.replicate 5 0) = some ⟨.ok, text ++ [0], some text.length⟩)
    ∧ PaddedText [90, 109, 56, 61] := by
  obtain ⟨⟨text, htext, -⟩, hok, -⟩ := base64_faithful [102, 111] (List.replicate 5 0)
    [90, 109, 56, 61] (List.replicate 3 0) (by decide) (by decide)
  exact ⟨⟨text, htext⟩, (hok.mp ⟨⟨.ok, [102, 111, 0], some 2⟩, by decide, rfl⟩).2⟩

end Iochibity.Util
