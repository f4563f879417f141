/-
Zone identifiers in addresses, `OCEncodeAddressForRFC6874` and `OCDecodeAddressForRFC6874` in
`ocstack.c`, with the copy functions of `oic_string.c`.
-/
import Iochibity.Lib.Buffer
import Mathlib.Algebra.Order.Ring.Nat

namespace Iochibity.Ocf.ZoneId

open Buffer (splice)
open List

def cstr (buf : List UInt8) : List UInt8 := buf.takeWhile (· ≠ 0)

/-- `OICStrcpyPartial` to a place in `dest`; `source` ends with its string. -/
def oicStrcpyPartial (dest : List UInt8) (place destSize : ℕ) (source : List UInt8)
    (sourceLen : ℕ) : List UInt8 :=
  if destSize = 0 ∨ sourceLen = 0 then dest
  else splice dest place (source.take (min (destSize - 1) sourceLen) ++ [0])

variable (dest : List UInt8) (destSize : ℕ) (source : List UInt8)

def oicStrcpy : List UInt8 :=
  oicStrcpyPartial dest 0 destSize source (destSize - 1)

def oicStrcat : List UInt8 :=
  if destSize = 0 ∨ destSize - 1 = 0 ∨ destSize ≤ (cstr dest).length then dest
  else splice dest (cstr dest).length
    (source.take (min (destSize - (cstr dest).length - 1) (destSize - 1)) ++ [0])

def percent : UInt8 := 0x25

/-- What is in front of the first `%`. -/
def addressPart (text : List UInt8) : List UInt8 := text.takeWhile (· ≠ percent)

section

variable (outputAddress : List UInt8) (outputSize : ℕ) (inputAddress : List UInt8)

def ocEncodeAddressForRFC6874 : Option (List UInt8) :=
  if outputSize < min inputAddress.length outputSize + 1 then none
  else match inputAddress.drop (addressPart inputAddress).length with
    | [] => some (oicStrcpy outputAddress outputSize inputAddress)
    | _ :: scopeIdPart =>
      if percent ∈ scopeIdPart ∨ scopeIdPart = [] ∨ [0x32, 0x35].isPrefixOf scopeIdPart
          ∨ outputSize < min inputAddress.length outputSize + 1 + 2 then none
      else some (oicStrcat (oicStrcat
        (oicStrcpy outputAddress ((addressPart inputAddress).length + 1) inputAddress)
        outputSize [percent, 0x32, 0x35]) outputSize scopeIdPart)

/-- A difference of `size_t`. -/
def sizeSub (a b : ℕ) : ℕ := (a + 2 ^ 64 - b) % 2 ^ 64

/-- What the decoder does: its result, what the buffer holds, and the bytes of the input that it
reads and of the buffer that it writes. -/
structure Decoded where
  ok : Bool
  output : List UInt8
  reads : List ℕ
  writes : List ℕ

/-- `OICStrcpyPartial` from `start` of the input on. -/
def Decoded.copy (decoded : Decoded) (inputAddress : List UInt8) (start sourceLen : ℕ)
    (place destSize : ℕ) : Decoded :=
  { ok := decoded.ok
    output := oicStrcpyPartial decoded.output place destSize (inputAddress.drop start) sourceLen
    reads := decoded.reads ++ if destSize = 0 ∨ sourceLen = 0 then [] else
      (List.range (min (min (destSize - 1) sourceLen) (inputAddress.length - start + 1))).map
        (start + ·)
    writes := decoded.writes ++ if destSize = 0 ∨ sourceLen = 0 then [] else
      (List.range (min (min (destSize - 1) sourceLen) (inputAddress.length - start) + 1)).map
        (place + ·) }

/-- `stop` is the offset of `end`. `strchr` reads up to the first `%`, or to the end of the
string. -/
def ocDecodeAddressForRFC6874 (stop : ℕ) : Decoded :=
  let found := (addressPart inputAddress).length
  let scanned : Decoded := ⟨true, outputAddress, List.range (found + 1), []⟩
  if inputAddress.length ≤ found ∨ stop < found then
    scanned.copy inputAddress 0 stop 0 outputSize
  else if inputAddress[found + 1]? ≠ some 0x32 then
    { scanned with ok := false, reads := scanned.reads ++ [found + 1] }
  else if inputAddress[found + 2]? ≠ some 0x35 then
    { scanned with ok := false, reads := scanned.reads ++ [found + 1, found + 2] }
  else
    ({ scanned with reads := scanned.reads ++ [found + 1, found + 2] }.copy
      inputAddress 0 (found + 1) 0 outputSize).copy
        inputAddress (found + 3) (sizeSub stop (found + 3)) (found + 1)
        (sizeSub outputSize (found + 1))

end

/-! ## Safety -/

def Decoded.Inside (decoded : Decoded) (stop outputSize : ℕ) : Prop :=
  (∀ i ∈ decoded.reads, i < stop) ∧ ∀ i ∈ decoded.writes, i < outputSize

/-- The input is made for the decoder: a `%` stands before the end, with what is compared behind it,
and the text in front of the scope has room. -/
def Guarded (inputAddress : List UInt8) (stop outputSize : ℕ) : Prop :=
  (addressPart inputAddress).length + 1 < stop
    ∧ (inputAddress[(addressPart inputAddress).length + 1]? = some 0x32 →
      (addressPart inputAddress).length + 2 < stop
        ∧ (inputAddress[(addressPart inputAddress).length + 2]? = some 0x35 →
          (addressPart inputAddress).length + 1 ≤ outputSize
            ∨ stop = (addressPart inputAddress).length + 3))

section Safety

variable {inputAddress : List UInt8} {stop outputSize : ℕ}

lemma sizeSub_of_le {a b : ℕ} (h : b ≤ a) (ha : a < 2 ^ 64) : sizeSub a b = a - b := by
  rw [sizeSub]
  omega

lemma sizeSub_ne_zero {a b : ℕ} (h : a < b) (hb : b < 2 ^ 64) : sizeSub a b ≠ 0 := by
  rw [sizeSub]
  omega

lemma inside_copy_iff (decoded : Decoded) (start sourceLen place destSize : ℕ) :
    (decoded.copy inputAddress start sourceLen place destSize).Inside stop outputSize
      ↔ decoded.Inside stop outputSize
        ∧ (destSize ≠ 0 → sourceLen ≠ 0 →
          (∀ i < min (min (destSize - 1) sourceLen) (inputAddress.length - start + 1),
            start + i < stop)
          ∧ ∀ i < min (min (destSize - 1) sourceLen) (inputAddress.length - start) + 1,
            place + i < outputSize) := by
  simp only [Decoded.Inside, Decoded.copy, forall_mem_append]
  by_cases h : destSize = 0 ∨ sourceLen = 0
  · rw [if_pos h, if_pos h]
    tauto
  obtain ⟨hdest, hsource⟩ := not_or.mp h
  rw [if_neg h, if_neg h]
  simp only [forall_mem_map, mem_range, hdest, hsource, ne_eq, not_false_eq_true, forall_const]
  tauto

/-- The decoder reads in front of the end and writes inside the buffer exactly where its input is
made for it. -/
lemma inside_iff (outputAddress : List UInt8) (hstop : stop ≤ inputAddress.length)
    (hlength : inputAddress.length < 2 ^ 64) (hsize : outputSize < 2 ^ 64) :
    (ocDecodeAddressForRFC6874 outputAddress outputSize inputAddress stop).Inside stop outputSize
      ↔ Guarded inputAddress stop outputSize := by
  rw [ocDecodeAddressForRFC6874, Guarded]
  generalize (addressPart inputAddress).length = found
  have hscan : ∀ reads : List ℕ, (∀ i ∈ List.range (found + 1) ++ reads, i < stop)
      ↔ found < stop ∧ ∀ i ∈ reads, i < stop := by
    intro reads
    rw [forall_mem_append]
    refine and_congr_left fun _ => ⟨fun h => h found (by simp), fun h i hi => ?_⟩
    rw [mem_range] at hi
    omega
  by_cases hnone : inputAddress.length ≤ found ∨ stop < found
  · simp only [if_pos hnone]
    refine iff_of_false (fun h => ?_) (fun h => by omega)
    have hfound := ((inside_copy_iff ..).mp h).1.1 found (by simp)
    omega
  simp only [if_neg hnone]
  by_cases htwo : inputAddress[found + 1]? = some 0x32
  · by_cases hfive : inputAddress[found + 2]? = some 0x35
    · simp only [htwo, hfive, ne_eq, not_true_eq_false, if_false, forall_const, inside_copy_iff]
      rw [Decoded.Inside, hscan]
      by_cases hbehind : found + 2 < stop
      · have hscanned : found < stop ∧ (∀ i ∈ [found + 1, found + 2], i < stop) := by
          simp
          omega
        have hfirst : ∀ i < min (min (outputSize - 1) (found + 1)) (inputAddress.length - 0 + 1),
            0 + i < stop := fun i hi => by omega
        rw [sizeSub_of_le (b := found + 3) (by omega) (by omega)]
        by_cases hroom : found + 1 ≤ outputSize
        · rw [sizeSub_of_le hroom hsize]
          refine iff_of_true ⟨⟨⟨hscanned, by simp⟩, fun _ _ => ⟨hfirst, fun i hi => by omega⟩⟩,
            fun _ _ => ⟨fun i hi => by omega, fun i hi => by omega⟩⟩
            ⟨by omega, hbehind, .inl hroom⟩
        have hdest := sizeSub_ne_zero (a := outputSize) (b := found + 1) (by omega) (by omega)
        by_cases hempty : stop = found + 3
        · refine iff_of_true ⟨⟨⟨hscanned, by simp⟩, fun hsome _ =>
            ⟨hfirst, fun i hi => by omega⟩⟩, fun _ hsource => absurd ?_ hsource⟩
            ⟨by omega, hbehind, .inr hempty⟩
          omega
        refine iff_of_false (fun h => ?_) (fun h => by omega)
        -- the terminator of the second copy is written behind the buffer
        have hwrite := (h.2 hdest (by omega)).2 0 (by omega)
        omega
      refine iff_of_false (fun h => hbehind ?_) (hbehind ·.2.1)
      exact h.1.1.1.2 (found + 2) (by simp)
    simp only [htwo, hfive, ne_eq, not_true_eq_false, not_false_eq_true, if_false, if_true,
      Decoded.Inside, hscan]
    simp
    omega
  simp only [htwo, ne_eq, not_false_eq_true, if_true, Decoded.Inside, hscan]
  simp
  omega

end Safety

/-! ## The round trip -/

/-- An address without `%`, or with a scope that is not encoded. -/
def Zoned (text : List UInt8) : Prop :=
  0 ∉ text ∧ (percent ∉ text ∨ ∃ address scope, text = address ++ percent :: scope
    ∧ percent ∉ address ∧ percent ∉ scope ∧ scope ≠ []
    ∧ [0x32, 0x35].isPrefixOf scope = false)

/-- Whatever the buffers hold before, the encoder fails or leaves a string that fits, and that is
decoded to the address. -/
def ComesBack (text : List UInt8) (outputSize : ℕ) : Prop :=
  ∀ output encoded : List UInt8, output.length = outputSize →
    ocEncodeAddressForRFC6874 output outputSize text = some encoded →
    (cstr encoded).length < outputSize
      ∧ ∀ outputAddress : List UInt8, text.length < outputAddress.length →
        outputAddress.length < 2 ^ 64 →
        (ocDecodeAddressForRFC6874 outputAddress outputAddress.length (cstr encoded)
            (cstr encoded).length).ok = true
          ∧ cstr (ocDecodeAddressForRFC6874 outputAddress outputAddress.length (cstr encoded)
            (cstr encoded).length).output = text

section RoundTrip

variable {text more address scope output : List UInt8} {outputSize : ℕ}

lemma takeWhile_ne (byte : UInt8) (h : byte ∉ text) (rest : List UInt8) :
    (text ++ rest).takeWhile (· ≠ byte) = text ++ rest.takeWhile (· ≠ byte) :=
  takeWhile_append_of_pos fun _ hother => by simpa using ne_of_mem_of_not_mem hother h

lemma cstr_append (h : 0 ∉ text) (rest : List UInt8) : cstr (text ++ 0 :: rest) = text := by
  rw [cstr, takeWhile_ne 0 h]
  simp

lemma addressPart_append (h : percent ∉ address) (rest : List UInt8) :
    addressPart (address ++ percent :: rest) = address := by
  rw [addressPart, takeWhile_ne percent h]
  simp

lemma addressPart_self (h : percent ∉ text) : addressPart text = text := by
  have hall := takeWhile_ne percent h []
  rwa [append_nil, takeWhile_nil, append_nil] at hall

lemma splice_end (text rest vs : List UInt8) :
    splice (text ++ rest) text.length (vs ++ [0])
      = text ++ vs ++ 0 :: rest.drop (vs ++ [0]).length := by
  rw [splice, take_left, drop_append, Nat.add_sub_cancel_left,
    drop_eq_nil_of_le (Nat.le_add_right ..), nil_append, append_assoc, append_assoc, append_assoc]
  rfl

lemma oicStrcpyPartial_end (text rest source : List UInt8) (destSize sourceLen : ℕ)
    (hdest : destSize ≠ 0) (hsource : sourceLen ≠ 0) :
    ∃ rest', oicStrcpyPartial (text ++ rest) text.length destSize source sourceLen
      = text ++ source.take (min (destSize - 1) sourceLen) ++ 0 :: rest' := by
  rw [oicStrcpyPartial, if_neg (by tauto), splice_end]
  exact ⟨_, rfl⟩

lemma oicStrcat_end (text more : List UInt8) (h : 0 ∉ text) (rest : List UInt8)
    (hroom : text.length + more.length < outputSize) (hmore : more ≠ []) :
    ∃ rest', oicStrcat (text ++ 0 :: rest) outputSize more = text ++ more ++ 0 :: rest' := by
  have hpos := length_pos_iff.mpr hmore
  rw [oicStrcat, cstr_append h, if_neg (by omega), splice_end, take_of_length_le (by omega)]
  exact ⟨_, rfl⟩

lemma encode_plain (h : percent ∉ text) (hne : text ≠ []) (hroom : text.length < outputSize)
    (output : List UInt8) :
    ∃ rest, ocEncodeAddressForRFC6874 output outputSize text = some (text ++ 0 :: rest) := by
  have hpos := length_pos_iff.mpr hne
  rw [ocEncodeAddressForRFC6874, if_neg (by omega), addressPart_self h, drop_length]
  obtain ⟨rest, hcopy⟩ := oicStrcpyPartial_end [] output text outputSize (outputSize - 1)
    (by omega) (by omega)
  rw [take_of_length_le (by omega)] at hcopy
  exact ⟨rest, congrArg some hcopy⟩

lemma decode_plain (h : percent ∉ text) (hne : text ≠ []) (outputAddress : List UInt8)
    (hroom : text.length < outputAddress.length) :
    (ocDecodeAddressForRFC6874 outputAddress outputAddress.length text text.length).ok = true
      ∧ ∃ rest, (ocDecodeAddressForRFC6874 outputAddress outputAddress.length text
        text.length).output = text ++ 0 :: rest := by
  have hpos := length_pos_iff.mpr hne
  rw [ocDecodeAddressForRFC6874, addressPart_self h]
  simp only [Nat.le_refl, true_or, if_true]
  refine ⟨rfl, ?_⟩
  obtain ⟨rest, hcopy⟩ := oicStrcpyPartial_end [] outputAddress text outputAddress.length
    text.length (by omega) (by omega)
  rw [take_of_length_le (by omega)] at hcopy
  exact ⟨rest, hcopy⟩

lemma encode_scope (haddress : percent ∉ address) (hscope : percent ∉ scope)
    (hnul : 0 ∉ address) (hne : address ≠ []) (hsome : scope ≠ [])
    (hfree : [0x32, 0x35].isPrefixOf scope = false)
    (hroom : address.length + scope.length + 3 < outputSize) (output : List UInt8) :
    ∃ rest, ocEncodeAddressForRFC6874 output outputSize (address ++ percent :: scope)
      = some (address ++ [percent, 0x32, 0x35] ++ scope ++ 0 :: rest) := by
  have hpos := length_pos_iff.mpr hne
  have hlength : (address ++ percent :: scope).length = address.length + scope.length + 1 := by
    simp
    omega
  rw [ocEncodeAddressForRFC6874, hlength, if_neg (by omega), addressPart_append haddress, drop_left]
  simp only [hscope, hsome, hfree, Bool.false_eq_true, false_or]
  rw [if_neg (by omega)]
  obtain ⟨first, hcopy⟩ := oicStrcpyPartial_end [] output (address ++ percent :: scope)
    (address.length + 1) address.length (by omega) (by omega)
  rw [take_left' (by omega)] at hcopy
  have hroom' : (address ++ [percent, 0x32, 0x35]).length + scope.length < outputSize := by
    simp
    omega
  have hroom'' : address.length + [percent, 0x32, 0x35].length < outputSize := by
    simp
    omega
  obtain ⟨second, hcat⟩ := oicStrcat_end address [percent, 0x32, 0x35] hnul first hroom'' (by simp)
  obtain ⟨third, hlast⟩ := oicStrcat_end (address ++ [percent, 0x32, 0x35]) scope
    (by simpa [percent] using hnul) second hroom' hsome
  refine ⟨third, congrArg some ?_⟩
  rw [← hlast, ← hcat]
  exact congrArg (fun buf => oicStrcat (oicStrcat buf outputSize _) outputSize _) hcopy

lemma decode_scope (haddress : percent ∉ address) (hsome : scope ≠ []) (outputAddress : List UInt8)
    (hroom : address.length + scope.length + 1 < outputAddress.length)
    (hsize : outputAddress.length < 2 ^ 64) (hlong : address.length + scope.length + 3 < 2 ^ 64) :
    (ocDecodeAddressForRFC6874 outputAddress outputAddress.length
        (address ++ [percent, 0x32, 0x35] ++ scope)
        (address ++ [percent, 0x32, 0x35] ++ scope).length).ok = true
      ∧ ∃ rest, (ocDecodeAddressForRFC6874 outputAddress outputAddress.length
        (address ++ [percent, 0x32, 0x35] ++ scope)
        (address ++ [percent, 0x32, 0x35] ++ scope).length).output
          = address ++ percent :: scope ++ 0 :: rest := by
  have hpos := length_pos_iff.mpr hsome
  have htext : address ++ [percent, 0x32, 0x35] ++ scope
      = address ++ percent :: 0x32 :: 0x35 :: scope := by simp
  have hlength : (address ++ percent :: 0x32 :: 0x35 :: scope).length
      = address.length + scope.length + 3 := by
    simp
    omega
  rw [htext, ocDecodeAddressForRFC6874, addressPart_append haddress, hlength]
  simp only [if_neg (show ¬ (address.length + scope.length + 3 ≤ address.length
      ∨ address.length + scope.length + 3 < address.length) by omega)]
  have htwo : (address ++ percent :: 0x32 :: 0x35 :: scope)[address.length + 1]? = some 0x32 := by
    simp
  have hfive : (address ++ percent :: 0x32 :: 0x35 :: scope)[address.length + 2]? = some 0x35 := by
    simp
  simp only [htwo, hfive, ne_eq, not_true_eq_false, if_false]
  refine ⟨rfl, ?_⟩
  have hfront : (address ++ percent :: 0x32 :: 0x35 :: scope).take
      (min (outputAddress.length - 1) (address.length + 1)) = address ++ [percent] := by
    rw [Nat.min_eq_right (by omega), take_append, take_of_length_le (by omega)]
    simp
  have hbehind : (address ++ percent :: 0x32 :: 0x35 :: scope).drop (address.length + 3)
      = scope := by
    rw [drop_append, drop_eq_nil_of_le (by omega)]
    simp
  obtain ⟨first, hfirst⟩ := oicStrcpyPartial_end [] outputAddress
    (address ++ percent :: 0x32 :: 0x35 :: scope) outputAddress.length (address.length + 1)
    (by omega) (by omega)
  obtain ⟨second, hsecond⟩ := oicStrcpyPartial_end (address ++ [percent]) (0 :: first) scope
    (outputAddress.length - (address.length + 1)) scope.length (by omega) (by omega)
  simp only [Decoded.copy, hbehind, drop_zero]
  rw [sizeSub_of_le (a := outputAddress.length) (by omega) hsize,
    sizeSub_of_le (a := address.length + scope.length + 3) (by omega) hlong,
    show address.length + scope.length + 3 - (address.length + 3) = scope.length by omega]
  rw [hfront, nil_append, nil_append, length_nil] at hfirst
  rw [take_of_length_le (by omega), length_append, length_singleton] at hsecond
  exact ⟨second, by rw [hfirst, hsecond, append_assoc _ [percent], singleton_append]⟩

lemma length_cstr_full (n : ℕ) : (cstr (List.replicate n 0x78)).length = n := by
  rw [cstr, takeWhile_replicate]
  simp

lemma encode_no_address (hscope : percent ∉ scope) (hsome : scope ≠ [])
    (hfree : [0x32, 0x35].isPrefixOf scope = false) (hroom : scope.length + 3 < outputSize) :
    ocEncodeAddressForRFC6874 (List.replicate outputSize 0x78) outputSize (percent :: scope)
      = some (List.replicate outputSize 0x78) := by
  have hcat : ∀ more, oicStrcat (List.replicate outputSize 0x78) outputSize more
      = List.replicate outputSize 0x78 :=
    fun more => if_pos (.inr (.inr (Nat.le_of_eq (length_cstr_full outputSize).symm)))
  have haddress : addressPart (percent :: scope) = [] := @addressPart_append [] (by simp) scope
  rw [ocEncodeAddressForRFC6874, haddress, length_cons, if_neg (by omega)]
  simp only [length_nil, drop_zero, hscope, hsome, hfree, Bool.false_eq_true, false_or]
  rw [if_neg (by omega), oicStrcpy, oicStrcpyPartial, if_pos (.inr rfl), hcat, hcat]

lemma room_of_encode {text encoded : List UInt8}
    (h : ocEncodeAddressForRFC6874 output outputSize text = some encoded) :
    text.length < outputSize ∧ (percent ∈ text → text.length + 3 ≤ outputSize) := by
  rw [ocEncodeAddressForRFC6874] at h
  by_cases hroom : outputSize < min text.length outputSize + 1
  · rw [if_pos hroom] at h
    cases h
  rw [if_neg hroom] at h
  refine ⟨by omega, fun hpercent => ?_⟩
  obtain ⟨address, scope, rfl, haddress⟩ := eq_append_cons_of_mem hpercent
  rw [addressPart_append haddress, drop_left] at h
  dsimp only at h
  by_cases hrefused : percent ∈ scope ∨ scope = [] ∨ [0x32, 0x35].isPrefixOf scope
      ∨ outputSize < min (address ++ percent :: scope).length outputSize + 1 + 2
  · rw [if_pos hrefused] at h
    cases h
  · omega

/-- A zoned address comes back exactly where it does not start with its scope and is not empty, or
the encoder has no room for it. -/
lemma survives_iff {text : List UInt8} (h : Zoned text) (hsize : outputSize < 2 ^ 64) :
    ComesBack text outputSize ↔ addressPart text ≠ [] ∨ outputSize ≤ text.length
        ∨ percent ∈ text ∧ outputSize < text.length + 3 := by
  obtain ⟨hnul, hplain | ⟨address, scope, rfl, haddress, hscope, hsome, hfree⟩⟩ := h
  · rw [addressPart_self hplain]
    refine ⟨fun hback => ?_, fun hroom output encoded _ hencode => ?_⟩
    · by_contra hfails
      obtain ⟨hempty, hroom⟩ := not_or.mp hfails
      rw [not_not] at hempty
      subst hempty
      obtain ⟨encoded, hencode, hcstr⟩ : ∃ encoded, ocEncodeAddressForRFC6874
          (List.replicate outputSize 0) outputSize [] = some encoded ∧ cstr encoded = [] := by
        rcases outputSize with _ | _ | k
        · exact absurd (.inl (Nat.le_refl 0)) hroom
        · exact ⟨_, rfl, rfl⟩
        · exact ⟨_, rfl, by simp [oicStrcpy, oicStrcpyPartial, splice, cstr]⟩
      have hdecode := ((hback _ _ length_replicate hencode).2 [0x78] Nat.one_pos (by decide)).2
      rw [hcstr] at hdecode
      exact absurd hdecode (by decide)
    · have hfits := room_of_encode hencode
      have hne : text ≠ [] := hroom.resolve_right fun hnone => hnone.elim (by omega) (hplain ·.1)
      obtain ⟨rest, hrest⟩ := encode_plain hplain hne hfits.1 output
      cases hencode.symm.trans hrest
      rw [cstr_append hnul]
      refine ⟨hfits.1, fun outputAddress hfit _ => ?_⟩
      obtain ⟨hok, rest, hrest⟩ := decode_plain hplain hne outputAddress hfit
      exact ⟨hok, by rw [hrest, cstr_append hnul]⟩
  have hpercent : percent ∈ address ++ percent :: scope := by simp
  rw [addressPart_append haddress]
  refine ⟨fun hback => ?_, fun hroom output encoded _ hencode => ?_⟩
  · by_contra hfails
    obtain ⟨hempty, hroom⟩ := not_or.mp hfails
    rw [not_not] at hempty
    subst hempty
    obtain ⟨-, hscopeRoom⟩ := not_or.mp hroom
    have hlength : scope.length + 3 < outputSize := by
      have := not_and.mp hscopeRoom hpercent
      simp only [nil_append, length_cons] at this
      omega
    have hfull := (hback _ _ length_replicate (encode_no_address hscope hsome hfree hlength)).1
    rw [length_cstr_full] at hfull
    omega
  · obtain ⟨hfits, hmore⟩ := room_of_encode hencode
    have hroomy := hmore hpercent
    have hne : address ≠ [] := hroom.resolve_right fun hnone => hnone.elim (by omega)
      fun hnone => absurd hnone.2 (by omega)
    simp only [length_append, length_cons] at hfits hroomy
    have hnulAddress : 0 ∉ address := fun h0 => hnul (mem_append_left _ h0)
    have hnulEncoded : 0 ∉ address ++ [percent, 0x32, 0x35] ++ scope := by
      simp only [mem_append, mem_cons, not_or] at hnul ⊢
      exact ⟨⟨hnul.1, by decide, by decide, by decide, not_mem_nil⟩, hnul.2.2⟩
    have hscopeRoom : address.length + scope.length + 3 < outputSize := by omega
    obtain ⟨rest, hrest⟩ := encode_scope haddress hscope hnulAddress hne hsome hfree hscopeRoom
      output
    cases hencode.symm.trans hrest
    rw [cstr_append hnulEncoded]
    refine ⟨by simp; omega, fun outputAddress hfit hbound => ?_⟩
    simp only [length_append, length_cons] at hfit
    obtain ⟨hok, rest, hrest⟩ := decode_scope haddress hsome outputAddress (by omega) hbound
      (by omega)
    exact ⟨hok, by rw [hrest, cstr_append hnul]⟩

/-- An address survives the encoder and the decoder, and the decoder keeps inside its bounds,
exactly in these cases. -/
theorem zoneId_exact {text inputAddress : List UInt8} {size stop : ℕ} (h : Zoned text)
    (hsize : outputSize < 2 ^ 64) (hstop : stop ≤ inputAddress.length)
    (hlength : inputAddress.length < 2 ^ 64) (hsize' : size < 2 ^ 64) (outputAddress : List UInt8) :
    ComesBack text outputSize
        ∧ (ocDecodeAddressForRFC6874 outputAddress size inputAddress stop).Inside stop size
      ↔ (addressPart text ≠ [] ∨ outputSize ≤ text.length
          ∨ percent ∈ text ∧ outputSize < text.length + 3)
        ∧ Guarded inputAddress stop size :=
  and_congr (survives_iff h hsize) (inside_iff outputAddress hstop hlength hsize')

end RoundTrip

/-- `a%b` -/
def zonedText : List UInt8 := [0x61, percent, 0x62]

theorem zonedText_exact :
    ComesBack zonedText 8
      ∧ (ocDecodeAddressForRFC6874 [0, 0, 0, 0] 4 [0x61, percent, 0x32, 0x35, 0x62] 5).Inside
        5 4 := by
  have hzoned : Zoned zonedText :=
    ⟨by decide, .inr ⟨[0x61], [0x62], rfl, by decide, by decide, by decide, by decide⟩⟩
  exact (@zoneId_exact 8 zonedText [0x61, percent, 0x32, 0x35, 0x62] 4 5 hzoned (by decide)
    (by decide) (by decide) (by decide) [0, 0, 0, 0]).mpr
    ⟨.inl (by decide), by decide, fun _ => ⟨by decide, fun _ => .inl (by decide)⟩⟩

theorem plainAddress_overread :
    ¬ (ocDecodeAddressForRFC6874 [0, 0] 2 [0x61, 0x5D] 1).Inside 1 2 := by
  refine mt (inside_iff _ (by decide) (by decide) (by decide)).mp ?_
  exact fun h => absurd h.1 (by decide)

end Iochibity.Ocf.ZoneId
