/-
CoAP over TCP as it stands on the wire: options of RFC 7252, header of RFC 8323.
-/
import Mathlib.Data.Nat.Digits.Lemmas
import Mathlib.Data.UInt

namespace CoapWire

open List

def nibble (n : Nat) : Nat :=
  if n < 13 then n else if n < 269 then 13 else 14

def extension (n : Nat) : List UInt8 :=
  if n < 13 then []
  else if n < 269 then [UInt8.ofNat (n - 13)]
  else [UInt8.ofNat ((n - 269) / 256), UInt8.ofNat ((n - 269) % 256)]

def maxExtended : Nat := 65804

def readExtended : Nat → List UInt8 → Option (Nat × List UInt8)
  | 13, b :: bytes => some (b.toNat + 13, bytes)
  | 14, b₁ :: b₂ :: bytes => some (b₁.toNat * 256 + b₂.toNat + 269, bytes)
  | n, bytes => if n < 13 then some (n, bytes) else none

lemma nibble_lt (n : Nat) : nibble n < 15 := by
  unfold nibble
  split_ifs <;> omega

variable {n : Nat}

lemma toNat_ofNat_byte (h : n < 256) : (UInt8.ofNat n).toNat = n := by
  rw [UInt8.toNat_ofNat']
  omega

lemma readExtended_extension (h : n ≤ maxExtended) (bytes : List UInt8) :
    readExtended (nibble n) (extension n ++ bytes) = some (n, bytes) := by
  unfold maxExtended at h
  unfold nibble extension
  by_cases h13 : n < 13
  · rw [if_pos h13, if_pos h13, nil_append]
    unfold readExtended
    split
    · omega
    · omega
    · rw [if_pos h13]
  rw [if_neg h13, if_neg h13]
  by_cases h269 : n < 269
  · rw [if_pos h269, if_pos h269, singleton_append]
    simp only [readExtended, Option.some.injEq, Prod.mk.injEq, and_true]
    rw [toNat_ofNat_byte (by omega)]
    omega
  rw [if_neg h269, if_neg h269, cons_append, singleton_append]
  simp only [readExtended, Option.some.injEq, Prod.mk.injEq, and_true]
  rw [toNat_ofNat_byte (by omega), toNat_ofNat_byte (by omega)]
  omega

/-! ## 2. Options and payload -/

def halves (high low : Nat) : UInt8 := UInt8.ofNat (16 * high + low)

lemma halves_toNat {high low : Nat} (hhigh : high < 16) (hlow : low < 16) :
    (halves high low).toNat = 16 * high + low := toNat_ofNat_byte (by omega)

def encodeOption (delta : Nat) (value : List UInt8) : List UInt8 :=
  halves (nibble delta) (nibble value.length)
    :: (extension delta ++ (extension value.length ++ value))

def optionSize (delta len : Nat) : Nat :=
  1 + (extension delta).length + (extension len).length + len

lemma length_encodeOption (delta : Nat) (value : List UInt8) :
    (encodeOption delta value).length = optionSize delta value.length := by
  simp only [encodeOption, optionSize, length_cons, length_append]
  omega

/-- Options in the order of their numbers, behind one with the number `prev`. -/
def encodeOptions : Nat → List (Nat × List UInt8) → List UInt8
  | _, [] => []
  | prev, opt :: opts => encodeOption (opt.1 - prev) opt.2 ++ encodeOptions opt.1 opts

def lastNumber : Nat → List (Nat × List UInt8) → Nat
  | prev, [] => prev
  | _, opt :: opts => lastNumber opt.1 opts

lemma encodeOptions_append (prev : Nat) (opts opts' : List (Nat × List UInt8)) :
    encodeOptions prev (opts ++ opts')
      = encodeOptions prev opts ++ encodeOptions (lastNumber prev opts) opts' := by
  induction opts generalizing prev with
  | nil => rfl
  | cons opt opts ih =>
    rw [cons_append, encodeOptions, encodeOptions, lastNumber, ih, append_assoc]

lemma lastNumber_append (prev : Nat) (opts opts' : List (Nat × List UInt8)) :
    lastNumber prev (opts ++ opts') = lastNumber (lastNumber prev opts) opts' := by
  induction opts generalizing prev with
  | nil => rfl
  | cons opt opts ih => exact ih opt.1

def payloadMarker : UInt8 := 255

def encodePayload (payload : List UInt8) : List UInt8 :=
  if payload = [] then [] else payloadMarker :: payload

def decodeBody : Nat → Nat → List UInt8 → Option (List (Nat × List UInt8) × List UInt8)
  | _, _, [] => some ([], [])
  | 0, _, _ :: _ => none
  | fuel + 1, prev, b :: bytes =>
    if b = payloadMarker then if bytes = [] then none else some ([], bytes)
    else do
      let (delta, bytes) ← readExtended (b.toNat / 16) bytes
      let (len, bytes) ← readExtended (b.toNat % 16) bytes
      if bytes.length < len then none
      else do
        let (opts, payload) ← decodeBody fuel (prev + delta) (bytes.drop len)
        some ((prev + delta, bytes.take len) :: opts, payload)

structure Writable (prev : Nat) (opts : List (Nat × List UInt8)) : Prop where
  ordered : opts.Pairwise (fun a b => a.1 ≤ b.1)
  after : ∀ opt ∈ opts, prev ≤ opt.1
  number_le : ∀ opt ∈ opts, opt.1 ≤ maxExtended
  length_le : ∀ opt ∈ opts, opt.2.length ≤ maxExtended

variable {prev : Nat} {opts : List (Nat × List UInt8)}

lemma Writable.tail {opt : Nat × List UInt8}
    (h : Writable prev (opt :: opts)) : Writable opt.1 opts where
  ordered := (pairwise_cons.mp h.ordered).2
  after := (pairwise_cons.mp h.ordered).1
  number_le := fun o ho => h.number_le o (mem_cons_of_mem opt ho)
  length_le := fun o ho => h.length_le o (mem_cons_of_mem opt ho)

lemma halves_nibble_ne (delta len : Nat) :
    halves (nibble delta) (nibble len) ≠ payloadMarker := by
  have hdelta := nibble_lt delta
  have hlen := nibble_lt len
  intro h
  have hval := congrArg UInt8.toNat h
  rw [halves_toNat (by omega) (by omega)] at hval
  have : payloadMarker.toNat = 255 := rfl
  omega

lemma halves_nibble (delta len : Nat) :
    (halves (nibble delta) (nibble len)).toNat / 16 = nibble delta
      ∧ (halves (nibble delta) (nibble len)).toNat % 16 = nibble len := by
  have hdelta := nibble_lt delta
  have hlen := nibble_lt len
  rw [halves_toNat (by omega) (by omega)]
  omega

lemma decodeBody_option {fuel delta : Nat} {value rest : List UInt8}
    (hdelta : delta ≤ maxExtended) (hlen : value.length ≤ maxExtended) :
    decodeBody (fuel + 1) prev (encodeOption delta value ++ rest)
      = (decodeBody fuel (prev + delta) rest).map
          (fun body => ((prev + delta, value) :: body.1, body.2)) := by
  obtain ⟨hhigh, hlow⟩ := halves_nibble delta value.length
  rw [encodeOption, cons_append, decodeBody, if_neg (halves_nibble_ne delta value.length),
    hhigh, hlow, append_assoc, append_assoc, readExtended_extension hdelta]
  simp only [Option.bind_eq_bind, Option.bind_some]
  rw [readExtended_extension hlen]
  simp only [Option.bind_some]
  have hroom : ¬(value ++ rest).length < value.length := by
    rw [length_append]
    omega
  rw [if_neg hroom, drop_left, take_left]
  cases decodeBody fuel (prev + delta) rest <;> rfl

lemma decodeBody_payload (fuel prev : Nat) (payload : List UInt8) (h : payload ≠ [] → 0 < fuel) :
    decodeBody fuel prev (encodePayload payload) = some ([], payload) := by
  unfold encodePayload
  split_ifs with hempty
  · rw [hempty]
    unfold decodeBody
    rfl
  · obtain ⟨n, rfl⟩ : ∃ n, fuel = n + 1 := ⟨fuel - 1, by have := h hempty; omega⟩
    rw [decodeBody, if_pos rfl, if_neg hempty]

lemma decodeBody_encode {fuel : Nat} (payload : List UInt8) (h : Writable prev opts)
    (hfuel : opts.length < fuel) :
    decodeBody fuel prev (encodeOptions prev opts ++ encodePayload payload)
      = some (opts, payload) := by
  induction opts generalizing fuel prev with
  | nil =>
    rw [encodeOptions, nil_append]
    exact decodeBody_payload fuel prev payload (fun _ => hfuel)
  | cons opt opts ih =>
    obtain ⟨n, rfl⟩ : ∃ n, fuel = n + 1 := ⟨fuel - 1, by omega⟩
    have hafter : prev ≤ opt.1 := h.after opt mem_cons_self
    have hnumber : opt.1 ≤ maxExtended := h.number_le opt mem_cons_self
    have hsum : prev + (opt.1 - prev) = opt.1 := by omega
    rw [encodeOptions, append_assoc, decodeBody_option (by omega)
      (h.length_le opt mem_cons_self), hsum,
      ih h.tail (by rw [length_cons] at hfuel; omega)]
    rfl

def lengthNibble (n : Nat) : Nat :=
  if n < 13 then n else if n < 269 then 13 else if n < 65805 then 14 else 15

def lengthExtension (n : Nat) : List UInt8 :=
  if n < 13 then []
  else if n < 269 then [UInt8.ofNat (n - 13)]
  else if n < 65805 then [UInt8.ofNat ((n - 269) / 256), UInt8.ofNat ((n - 269) % 256)]
  else [UInt8.ofNat ((n - 65805) / 16777216), UInt8.ofNat ((n - 65805) / 65536 % 256),
    UInt8.ofNat ((n - 65805) / 256 % 256), UInt8.ofNat ((n - 65805) % 256)]

def readLength : Nat → List UInt8 → Option (Nat × List UInt8)
  | 15, b₁ :: b₂ :: b₃ :: b₄ :: bytes =>
    some (b₁.toNat * 16777216 + b₂.toNat * 65536 + b₃.toNat * 256 + b₄.toNat + 65805, bytes)
  | n, bytes => readExtended n bytes

lemma lengthNibble_lt (n : Nat) : lengthNibble n < 16 := by
  unfold lengthNibble
  split_ifs <;> omega

lemma lengthNibble_of_lt (h : n < 65805) :
    lengthNibble n = nibble n ∧ lengthExtension n = extension n := by
  unfold lengthNibble lengthExtension nibble extension
  split_ifs <;> exact ⟨rfl, rfl⟩

lemma readLength_extension (h : n < 4294967296) (bytes : List UInt8) :
    readLength (lengthNibble n) (lengthExtension n ++ bytes) = some (n, bytes) := by
  by_cases hlt : n < 65805
  · obtain ⟨hnibble, hext⟩ := lengthNibble_of_lt hlt
    have hmax : n ≤ maxExtended := Nat.le_of_lt_succ hlt
    have hne := nibble_lt n
    rw [hnibble, hext, readLength]
    · exact readExtended_extension hmax bytes
    · intro b₁ b₂ b₃ b₄ rest hfifteen
      omega
  have hnibble : lengthNibble n = 15 := by
    unfold lengthNibble
    rw [if_neg (by omega), if_neg (by omega), if_neg hlt]
  have hext : lengthExtension n = [UInt8.ofNat ((n - 65805) / 16777216),
      UInt8.ofNat ((n - 65805) / 65536 % 256), UInt8.ofNat ((n - 65805) / 256 % 256),
      UInt8.ofNat ((n - 65805) % 256)] := by
    unfold lengthExtension
    rw [if_neg (by omega), if_neg (by omega), if_neg hlt]
  rw [hnibble, hext]
  simp only [cons_append, nil_append, readLength, Option.some.injEq, Prod.mk.injEq, and_true]
  rw [toNat_ofNat_byte (by omega), toNat_ofNat_byte (by omega), toNat_ofNat_byte (by omega),
    toNat_ofNat_byte (by omega)]
  omega

/-! ## 4. Messages -/

structure Message where
  code : Nat
  token : List UInt8
  options : List (Nat × List UInt8)
  payload : List UInt8
  deriving DecidableEq

def Message.body (m : Message) : List UInt8 :=
  encodeOptions 0 m.options ++ encodePayload m.payload

def encode (m : Message) : List UInt8 :=
  halves (lengthNibble m.body.length) m.token.length
    :: (lengthExtension m.body.length ++ (UInt8.ofNat m.code :: (m.token ++ m.body)))

def headerSize (bodyLength : Nat) : Nat := 2 + (lengthExtension bodyLength).length

def decode : List UInt8 → Option Message
  | [] => none
  | b :: bytes => do
      let (len, bytes) ← readLength (b.toNat / 16) bytes
      match bytes with
      | [] => none
      | code :: bytes =>
        let tokenLength := b.toNat % 16
        if bytes.length ≠ tokenLength + len then none
        else do
          let body := bytes.drop tokenLength
          let (options, payload) ← decodeBody (body.length + 1) 0 body
          some ⟨code.toNat, bytes.take tokenLength, options, payload⟩

lemma length_encode (m : Message) :
    (encode m).length = headerSize m.body.length + m.token.length + m.body.length := by
  simp only [encode, headerSize, length_cons, length_append]
  omega

structure Message.WellFormed (m : Message) : Prop where
  code_lt : m.code < 256
  token_le : m.token.length ≤ 8
  writable : Writable 0 m.options
  body_lt : m.body.length < 4294967296

lemma length_le_encodeOptions (prev : Nat) (opts : List (Nat × List UInt8)) :
    opts.length ≤ (encodeOptions prev opts).length := by
  induction opts generalizing prev with
  | nil => exact Nat.le_refl _
  | cons opt opts ih =>
    have hrest := ih opt.1
    rw [encodeOptions, length_append, length_encodeOption, optionSize, length_cons]
    omega

lemma decode_encode {m : Message} (h : m.WellFormed) : decode (encode m) = some m := by
  have hhigh := lengthNibble_lt m.body.length
  have hlow := h.token_le
  have hfirst := @halves_toNat (lengthNibble m.body.length) m.token.length hhigh (by omega)
  have hdiv : (16 * lengthNibble m.body.length + m.token.length) / 16
      = lengthNibble m.body.length := by omega
  have hmod : (16 * lengthNibble m.body.length + m.token.length) % 16 = m.token.length := by
    omega
  rw [encode, decode, hfirst, hdiv, hmod, readLength_extension h.body_lt]
  simp only [Option.bind_eq_bind, Option.bind_some]
  have hlen : ¬(m.token ++ m.body).length ≠ m.token.length + m.body.length :=
    not_not.mpr length_append
  have hfuel : m.options.length < m.body.length + 1 := by
    have hle := length_le_encodeOptions 0 m.options
    rw [Message.body, length_append]
    omega
  have hbody : decodeBody (m.body.length + 1) 0 m.body = some (m.options, m.payload) :=
    decodeBody_encode m.payload h.writable hfuel
  rw [if_neg hlen, drop_left, take_left, hbody, toNat_ofNat_byte h.code_lt]
  rfl

def bigEndian (bytes : List UInt8) : Nat :=
  Nat.ofDigits 256 (bytes.map UInt8.toNat).reverse

def minimalBytes (n : Nat) : List UInt8 :=
  (Nat.digits 256 n).reverse.map UInt8.ofNat

lemma bigEndian_zero_cons (bytes : List UInt8) : bigEndian (0 :: bytes) = bigEndian bytes := by
  have hzero : (UInt8.toNat 0) = 0 := rfl
  rw [bigEndian, map_cons, reverse_cons, Nat.ofDigits_append, Nat.ofDigits_singleton,
    hzero, Nat.mul_zero, Nat.add_zero, bigEndian]

lemma minimalBytes_bigEndian (bytes : List UInt8) :
    minimalBytes (bigEndian bytes) = bytes.dropWhile (· == 0) := by
  induction bytes with
  | nil => rfl
  | cons b bytes ih =>
    by_cases hzero : b = 0
    · rw [hzero, bigEndian_zero_cons, ih, dropWhile_cons_of_pos (by rfl)]
    have hb : b.toNat ≠ 0 := fun h => hzero (UInt8.toNat_inj.mp h)
    have hback : ((b :: bytes).map UInt8.toNat).map UInt8.ofNat = b :: bytes := by
      rw [map_map]
      exact (map_congr_left (fun c _ => UInt8.ofNat_toNat)).trans (map_id _)
    rw [minimalBytes, bigEndian, Nat.digits_ofDigits 256 (by decide), reverse_reverse,
      hback, dropWhile_cons_of_neg (by simpa using hzero)]
    · intro d hd
      rw [mem_reverse, mem_map] at hd
      obtain ⟨c, -, rfl⟩ := hd
      exact UInt8.toNat_lt c
    · intro hne
      rw [getLast_reverse]
      exact hb

lemma minimalBytes_two (hlow : 256 ≤ n) (hhigh : n < 65536) :
    minimalBytes n = [UInt8.ofNat (n / 256), UInt8.ofNat (n % 256)]
      ∧ bigEndian (minimalBytes n) = n := by
  have hdigits : Nat.digits 256 n = [n % 256, n / 256] := by
    rw [Nat.digits_def' (by decide) (by omega),
      Nat.digits_of_lt 256 (n / 256) (by omega) (by omega)]
  have hbytes : minimalBytes n = [UInt8.ofNat (n / 256), UInt8.ofNat (n % 256)] := by
    rw [minimalBytes, hdigits]
    rfl
  refine ⟨hbytes, ?_⟩
  rw [hbytes, bigEndian]
  simp only [map_cons, map_nil, reverse_cons, reverse_nil, nil_append,
    cons_append, Nat.ofDigits_cons, Nat.ofDigits_nil]
  rw [toNat_ofNat_byte (by omega), toNat_ofNat_byte (by omega)]
  omega

end CoapWire
